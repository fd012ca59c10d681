import Peg.Text.Quoted

/-! # Reading UTF-8

Bytes as text, and what is reported where they are no UTF-8: a byte that cannot start a character,
a byte that cannot continue one, or an end in the middle of one. -/

namespace Peg.Text

/-- What is wrong with the bytes. -/
inductive Utf8Fault where
  /-- The byte starts no character. -/
  | invalidStart
  /-- The byte does not continue the character. -/
  | invalidContinuation
  /-- The bytes end within a character. -/
  | unexpectedEnd

/-- The reason given for a fault. -/
def Utf8Fault.reason : Utf8Fault → String
  | .invalidStart => "invalid start byte"
  | .invalidContinuation => "invalid continuation byte"
  | .unexpectedEnd => "unexpected end of data"

/-- A fault with the bytes it concerns. -/
structure Utf8Error where
  /-- What is wrong. -/
  fault : Utf8Fault
  /-- Where the bytes start. -/
  position : Nat
  /-- The bytes. -/
  bytes : List UInt8

/-- The message of a fault. -/
def Utf8Error.message (error : Utf8Error) : String :=
  match error.bytes with
  | [byte] =>
    "'utf-8' codec can't decode byte 0x" ++ String.ofList (hexDigits 2 byte.toNat)
      ++ s!" in position {error.position}: " ++ error.fault.reason
  | bytes =>
    s!"'utf-8' codec can't decode bytes in position {error.position}-"
      ++ s!"{error.position + bytes.length - 1}: " ++ error.fault.reason

/-- How many bytes a character has, by its first byte. -/
def utf8Width? (byte : Nat) : Option Nat :=
  if byte < 0x80 then some 1
  else if byte < 0xC2 then none
  else if byte < 0xE0 then some 2
  else if byte < 0xF0 then some 3
  else if byte < 0xF5 then some 4
  else none

/-- The second byte fits the first: overlong forms, surrogates and codes past the last one are
ruled out. -/
def secondFits (first second : Nat) : Bool :=
  0x80 ≤ second && second < 0xC0
    && !(first == 0xE0 && second < 0xA0) && !(first == 0xED && 0xA0 ≤ second)
    && !(first == 0xF0 && second < 0x90) && !(first == 0xF4 && 0x90 ≤ second)

/-- A later byte of a character. -/
def isContinuation (byte : Nat) : Bool := 0x80 ≤ byte && byte < 0xC0

/-- How many of the bytes after the first fit a character of the given width. -/
def fittingBytes (first width : Nat) : List UInt8 → Nat
  | [] => 0
  | second :: others =>
    if secondFits first second.toNat then
      1 + ((others.take (width - 2)).takeWhile fun byte => isContinuation byte.toNat).length
    else 0

/-- The code of a character: the low bits of its first byte, then six bits of each other byte. -/
def utf8Code (first width : Nat) (others : List UInt8) : Nat :=
  others.foldl (fun code byte => code * 64 + byte.toNat % 64) (first % Nat.pow 2 (7 - width))

/-- Reads bytes as text. `position` is the offset of the first byte. -/
def decodeUtf8From (position : Nat) (bytes : List UInt8) : Except Utf8Error (List Char) :=
  match bytes with
  | [] => .ok []
  | byte :: rest =>
    let first := byte.toNat
    match utf8Width? first with
    | none => .error ⟨.invalidStart, position, [byte]⟩
    | some 1 =>
      match decodeUtf8From (position + 1) rest with
      | .ok text => .ok (Char.ofNat first :: text)
      | .error error => .error error
    | some width =>
      let fitting := fittingBytes first width rest
      if fitting + 1 = width then
        match decodeUtf8From (position + width) (rest.drop fitting) with
        | .ok text => .ok (Char.ofNat (utf8Code first width (rest.take fitting)) :: text)
        | .error error => .error error
      else if rest.length = fitting then .error ⟨.unexpectedEnd, position, byte :: rest⟩
      else .error ⟨.invalidContinuation, position, byte :: rest.take fitting⟩
termination_by bytes.length
decreasing_by
  all_goals simp only [List.length_cons, List.length_drop]
  all_goals omega

/-- Reads bytes as text. -/
def decodeUtf8 (bytes : List UInt8) : Except Utf8Error (List Char) := decodeUtf8From 0 bytes

/-- Text with every line ending written as a line feed. -/
def normalizeLineEndings : List Char → List Char
  | [] => []
  | '\r' :: '\n' :: rest => '\n' :: normalizeLineEndings rest
  | '\r' :: rest => '\n' :: normalizeLineEndings rest
  | c :: rest => c :: normalizeLineEndings rest

end Peg.Text
