import Peg.Text.Printable

/-! # Quoted text

The written form of a text or of a row of bytes: the content between quotes, with everything that
cannot be printed as an escape. Apostrophes are the quotes unless the content has an apostrophe
and no double quote. -/

namespace Peg.Text

/-- The apostrophe, the usual quote. -/
def apostrophe : Char := '\x27'

/-- The double quote, used when only apostrophes occur inside. -/
def doubleQuote : Char := '\x22'

/-- One lower-case hexadecimal digit. -/
def hexDigit (n : Nat) : Char :=
  if n < 10 then Char.ofNat (48 + n) else Char.ofNat (87 + n)

/-- The last `width` hexadecimal digits of a number. -/
def hexDigits : Nat → Nat → List Char
  | 0, _ => []
  | width + 1, n => hexDigits width (n / 16) ++ [hexDigit (n % 16)]

/-- The escape of a code point: two, four or eight hexadecimal digits, whichever suffices. -/
def codeEscape (code : Nat) : List Char :=
  if code < 0x100 then '\\' :: 'x' :: hexDigits 2 code
  else if code < 0x10000 then '\\' :: 'u' :: hexDigits 4 code
  else '\\' :: 'U' :: hexDigits 8 code

/-- The quote that encloses the given content. -/
def quoteFor (content : List Char) : Char :=
  if content.contains apostrophe && !content.contains doubleQuote then doubleQuote else apostrophe

/-- The escapes that texts and bytes have in common; `none` for any other character. -/
def commonEscape? (quote c : Char) : Option (List Char) :=
  if c == quote || c == '\\' then some ['\\', c]
  else if c == '\n' then some ['\\', 'n']
  else if c == '\r' then some ['\\', 'r']
  else if c == '\t' then some ['\\', 't']
  else none

/-- A character of a text as it stands between the quotes. -/
def escapeChar (quote c : Char) : List Char :=
  match commonEscape? quote c with
  | some escape => escape
  | none => if isPrintable c then [c] else codeEscape c.toNat

/-- The written form of a text. -/
def quoted (content : List Char) : String :=
  let quote := quoteFor content
  String.ofList (quote :: content.flatMap (escapeChar quote) ++ [quote])

/-- A byte as it stands between the quotes: only the printable half of ASCII is kept. -/
def escapeByte (quote c : Char) : List Char :=
  match commonEscape? quote c with
  | some escape => escape
  | none => if 0x20 ≤ c.toNat && c.toNat ≤ 0x7E then [c] else codeEscape c.toNat

/-- The characters with the same codes as the given bytes. -/
def ofBytes (bytes : List UInt8) : List Char :=
  bytes.map fun byte => Char.ofNat byte.toNat

/-- The written form of a row of bytes. -/
def quotedBytes (bytes : List UInt8) : String :=
  let content := ofBytes bytes
  let quote := quoteFor content
  String.ofList ('b' :: quote :: content.flatMap (escapeByte quote) ++ [quote])

end Peg.Text
