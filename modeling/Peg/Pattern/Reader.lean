import Peg.Pattern.Regex

/-! # Reading the notation of patterns

Turns the text of a pattern into a regular expression, or finds out why it is none. -/

namespace Peg.Pattern

open Peg.Text

/-- The flags of a pattern. -/
structure Flags where
  /-- Letters that differ in case only match each other. -/
  ignoreCase : Bool := false
  /-- The anchors of the text match at every line. -/
  multiLine : Bool := false
  /-- The dot matches a line feed too. -/
  dotAll : Bool := false
  /-- Blanks and comments in the pattern mean nothing. -/
  verbose : Bool := false
  /-- The named sets hold ASCII characters only. -/
  ascii : Bool := false
deriving DecidableEq, Repr

/-- What decides how the notation is read. -/
structure Style where
  /-- The dialect. -/
  dialect : Dialect
  /-- The flags. -/
  flags : Flags
  /-- The pattern is one for bytes. -/
  forBytes : Bool

/-- Why a text is no pattern. -/
inductive PatternFault where
  /-- It does not follow the notation. -/
  | malformed
  /-- A repetition has too high a count. -/
  | countTooLarge
deriving DecidableEq, Repr

/-- What an escape stands for. -/
inductive Escape where
  /-- One character, by its code. -/
  | code (code : Nat)
  /-- A named set or its complement. -/
  | named (set : NamedSet) (negated : Bool)
  /-- An anchor. -/
  | anchor (test : Anchor)

/-- The value of a hexadecimal digit. -/
def hexValue? (c : Char) : Option Nat :=
  if c.isDigit then some (c.toNat - 48)
  else if 'a' ≤ c && c ≤ 'f' then some (c.toNat - 87)
  else if 'A' ≤ c && c ≤ 'F' then some (c.toNat - 55)
  else none

/-- Reads exactly `width` hexadecimal digits. -/
def readHex : Nat → Nat → List Char → Option (Nat × List Char)
  | 0, total, rest => some (total, rest)
  | _ + 1, _, [] => none
  | width + 1, total, c :: rest =>
    match hexValue? c with
    | some digit => readHex width (16 * total + digit) rest
    | none => none

/-- Reads up to `width` octal digits. -/
def readOctal : Nat → Nat → List Char → Nat × List Char
  | 0, total, rest => (total, rest)
  | _ + 1, total, [] => (total, [])
  | width + 1, total, c :: rest =>
    if '0' ≤ c && c ≤ '7' then readOctal width (8 * total + (c.toNat - 48)) rest
    else (total, c :: rest)

/-- The control characters with an escape of their own. -/
def controlEscape? : Char → Option Nat
  | 'a' => some 7
  | 'f' => some 12
  | 'n' => some 10
  | 'r' => some 13
  | 't' => some 9
  | 'v' => some 11
  | _ => none

/-- The anchors with an escape. -/
def anchorEscape? : Char → Option Anchor
  | 'A' => some .textStart
  | 'Z' => some .veryEnd
  | 'b' => some .boundary
  | 'B' => some .inside
  | _ => none

/-- The named sets with an escape, the capital letter meaning the complement. -/
def setEscape? : Char → Option (NamedSet × Bool)
  | 'd' => some (.digit, false)
  | 'D' => some (.digit, true)
  | 'w' => some (.word, false)
  | 'W' => some (.word, true)
  | 's' => some (.blank, false)
  | 'S' => some (.blank, true)
  | _ => none

/-- The sets that a property name stands for. -/
def propertySet? (name : List Char) : Option NamedSet :=
  let plain := (name.filter fun c => c != ' ' && c != '_' && c != '-').map Char.toLower
  match String.ofList plain with
  | "l" => some .letter
  | "letter" => some .letter
  | "m" => some .mark
  | "mark" => some .mark
  | "n" => some .numeral
  | "number" => some .numeral
  | "nd" => some .digit
  | "decimalnumber" => some .digit
  | "whitespace" => some .blank
  | "xidcontinue" => some .identifier
  | "xidc" => some .identifier
  | _ => none

/-- The letters that stand for a property without braces. -/
def isPropertyLetter (c : Char) : Bool := "CLMNPSZ".toList.contains c

/-- The characters in the name of a property. -/
def isPropertyNamePart (c : Char) : Bool := c.isAlphanum || " &_-.".toList.contains c

/-- Reads a property after its letter: one letter, or a name in braces with an optional caret that
negates it. Anything else makes the letter stand for itself. -/
def readProperty (letter : Char) (text : List Char) : Option (Escape × List Char) :=
  let itself := some (Escape.code letter.toNat, text)
  let negated := letter == 'P'
  match text with
  | '\x7b' :: rest =>
    let (flip, body) :=
      match rest with
      | '^' :: body => (true, body)
      | body => (false, body)
    match body.dropWhile isPropertyNamePart with
    | '\x7d' :: after =>
      (propertySet? (body.takeWhile isPropertyNamePart)).map fun set =>
        (.named set (negated != flip), after)
    | _ => itself
  | c :: rest =>
    if isPropertyLetter c then (propertySet? [c]).map fun set => (.named set negated, rest)
    else itself
  | [] => itself

/-- Reads a character by its code in hexadecimal digits. -/
def readCode (width : Nat) (text : List Char) : Option (Escape × List Char) := do
  let (code, rest) ← readHex width 0 text
  if code ≤ 0x10FFFF then some (.code code, rest) else none

/-- The character of three octal digits. The classic dialect has codes up to 255 only, and the full
one takes the last eight bits in a pattern for bytes, except in a class. -/
def Style.octalCode? (style : Style) (inClass : Bool) (code : Nat) : Option Nat :=
  match style.dialect with
  | .classic => if code ≤ 255 then some code else none
  | .full => some (if style.forBytes && !inClass then code % 256 else code)

/-- Reads a numeric escape after its first digit, which is not zero. Inside a class it is octal;
elsewhere it must have three octal digits. -/
def readNumeric (style : Style) (inClass : Bool) (first : Char) (rest : List Char) :
    Option (Escape × List Char) :=
  let (code, after) := readOctal 3 0 (first :: rest)
  let width := rest.length + 1 - after.length
  if width = 3 then (style.octalCode? inClass code).map fun found => (.code found, after)
  else if inClass && width ≠ 0 then some (.code code, after)
  else none

/-- Reads what follows a backslash. Inside a class there are no anchors, the letter b is the
backspace, and digits are octal. A classic pattern for bytes has no long codes. -/
def readEscape (style : Style) (inClass : Bool) : List Char → Option (Escape × List Char)
  | [] => none
  | c :: rest =>
    let isShort := style.dialect == .classic && style.forBytes
    match c with
    | 'x' => readCode 2 rest
    | 'u' => if isShort then none else readCode 4 rest
    | 'U' => if isShort then none else readCode 8 rest
    | _ =>
      if c.isDigit then
        if c == '0' then
          let (code, after) := readOctal 2 0 rest
          some (.code code, after)
        else readNumeric style inClass c rest
      else if c.isAlpha then
        match setEscape? c, controlEscape? c with
        | some (set, negated), _ => some (.named set negated, rest)
        | none, some code => some (.code code, rest)
        | none, none =>
          if inClass && c == 'b' then some (.code 8, rest)
          else if style.dialect == .full && (c == 'p' || c == 'P') then readProperty c rest
          else if inClass then none
          else (anchorEscape? c).map fun test => (.anchor test, rest)
      else some (.code c.toNat, rest)

/-- Reads one end of a range, or a single item of a class. -/
def readItem (style : Style) : List Char → Option (ClassItem × List Char)
  | [] => none
  | '\\' :: rest =>
    match readEscape style true rest with
    | some (.code code, after) => some (.range code code, after)
    | some (.named set negated, after) => some (.named set negated, after)
    | _ => none
  | c :: rest => some (.range c.toNat c.toNat, rest)

/-- Reads an item or a range. A hyphen before the closing bracket stands for itself. Next to a
named set it stands for itself in the full dialect only. -/
def readMember (style : Style) (text : List Char) : Option (List ClassItem × List Char) := do
  let hyphen : ClassItem := .range 45 45
  let (first, rest) ← readItem style text
  match first, rest with
  | _, '-' :: ']' :: after =>
    match first with
    | .range .. => some ([first, hyphen], ']' :: after)
    | .named .. => some ([first], rest)
  | .range low _, '-' :: after =>
    let (last, later) ← readItem style after
    match last with
    | .range high _ => if high < low then none else some ([.range low high], later)
    | .named .. => if style.dialect == .classic then none else some ([first, hyphen, last], later)
  | .named .., '-' :: _ => if style.dialect == .classic then none else some ([first], rest)
  | _, _ => some ([first], rest)

/-- Reads the members of a class up to the closing bracket; a bracket that comes first is a
member. -/
def readMembers (style : Style) :
    Nat → List ClassItem → List Char → Option (List ClassItem × List Char)
  | 0, _, _ => none
  | fuel + 1, found, text =>
    match found, text with
    | _ :: _, ']' :: rest => some (found, rest)
    | _, _ =>
      match readMember style text with
      | some (items, rest) => readMembers style fuel (found ++ items) rest
      | none => none

/-- Reads a class after its opening bracket. -/
def readClass (style : Style) (text : List Char) : Option (CharClass × List Char) :=
  let (negated, body) :=
    match text with
    | '^' :: rest => (true, rest)
    | rest => (false, rest)
  (readMembers style (body.length + 1) [] body).map fun (items, rest) => (⟨negated, items⟩, rest)

/-- The number that a row of ASCII digits stands for. -/
def countOf (digits : List Char) : Nat :=
  digits.foldl (fun total c => 10 * total + (c.toNat - 48)) 0

/-- Reads ASCII digits and passes over blanks. -/
def readDigits (blank : Char → Bool) : List Char → List Char × List Char
  | [] => ([], [])
  | c :: rest =>
    if c.isDigit then
      let (digits, after) := readDigits blank rest
      (c :: digits, after)
    else if blank c then readDigits blank rest
    else ([], c :: rest)

/-- The blanks that mean nothing inside the braces of a repetition. -/
def Style.isBlankInCounts (style : Style) (c : Char) : Bool :=
  style.dialect == .full && style.flags.verbose && isBlankOrSeparator c

/-- Reads the counts of a repetition after the opening brace. -/
def readCounts (style : Style) (text : List Char) : Option (Nat × Option Nat × List Char) :=
  match readDigits style.isBlankInCounts text with
  | (low, ',' :: rest) =>
    match readDigits style.isBlankInCounts rest with
    | (high, '\x7d' :: after) =>
      some (countOf low, if high.isEmpty then none else some (countOf high), after)
    | _ => none
  | (low, '\x7d' :: after) =>
    if low.isEmpty then none else some (countOf low, some (countOf low), after)
  | _ => none

/-- Drops blanks and comments; `inComment` says that a comment is open. With `escapes`, a backslash
hides the next character of a comment, and there must be one. -/
def dropIgnored (blank : Char → Bool) (escapes : Bool) :
    Bool → List Char → Option (List Char)
  | _, [] => some []
  | true, '\\' :: rest =>
    if escapes then
      match rest with
      | [] => none
      | _ :: later => dropIgnored blank escapes true later
    else dropIgnored blank escapes true rest
  | true, c :: rest => dropIgnored blank escapes (c != '\n') rest
  | false, c :: rest =>
    if c == '#' then dropIgnored blank escapes true rest
    else if blank c then dropIgnored blank escapes false rest
    else some (c :: rest)

/-- The notation without what means nothing at its start; `none` if a comment is malformed. -/
def Style.skip (style : Style) (text : List Char) : Option (List Char) :=
  if style.flags.verbose then
    match style.dialect with
    | .full => dropIgnored isBlankOrSeparator false false text
    | .classic => dropIgnored isAsciiBlank true false text
  else some text

/-- Two expressions in a row. -/
def Regex.andThen : Regex → Regex → Regex
  | .empty, second => second
  | first, second => .seq first second

/-- A repetition. One of a single class is a run, and an optional expression is a choice. -/
def Regex.repeated (body : Regex) (least : Nat) (most : Option Nat) (greedy : Bool) : Regex :=
  match body with
  | .chars cls => .run cls least most greedy
  | _ =>
    if least = 0 && most = some 1 then
      if greedy then .alt body .empty else .alt .empty body
    else .rounds body least most greedy

/-- The counts of a quantifier that starts the text. -/
def readQuantifier? (style : Style) : List Char → Option (Nat × Option Nat × List Char)
  | '*' :: rest => some (0, none, rest)
  | '+' :: rest => some (1, none, rest)
  | '?' :: rest => some (0, some 1, rest)
  | '\x7b' :: rest => readCounts style rest
  | _ => none

/-- Splits off the mark that makes a repetition lazy; `none` for a possessive repetition. -/
def Style.readGreed? (style : Style) (text : List Char) : Option (Bool × List Char) := do
  let after ← if style.dialect == .full then style.skip text else some text
  match after with
  | '?' :: rest => some (false, rest)
  | '+' :: _ => none
  | _ => some (true, text)

/-- The counts of a repetition lie below this bound. -/
def countLimit : Nat := 4294967295

/-- What is wrong with a count that is too high. -/
def Dialect.countFault : Dialect → PatternFault
  | .full => .malformed
  | .classic => .countTooLarge

/-- What a group does with its content. -/
inductive GroupKind where
  /-- Matches it. -/
  | plain
  /-- Matches it under a name. -/
  | named (name : List Char)
  /-- Looks ahead for it. -/
  | look (negated : Bool)

/-- Reads the name of a group up to the closing angle bracket. -/
def readGroupName? (text : List Char) : Option (GroupKind × List Char) :=
  let name := text.takeWhile fun c => c != '>' && c != ')'
  match text.dropWhile fun c => c != '>' && c != ')' with
  | '>' :: rest => if isName name then some (.named name, rest) else none
  | _ => none

/-- Reads the head of a group after the opening parenthesis. -/
def readGroupHead? (dialect : Dialect) : List Char → Option (GroupKind × List Char)
  | '?' :: ':' :: rest => some (.plain, rest)
  | '?' :: '=' :: rest => some (.look false, rest)
  | '?' :: '!' :: rest => some (.look true, rest)
  | '?' :: 'P' :: '<' :: rest => readGroupName? rest
  | '?' :: '<' :: rest => if dialect == .full then readGroupName? rest else none
  | '?' :: _ => none
  | rest => some (.plain, rest)

/-- An anchor as an item of a sequence. The classic dialect allows no quantifier after it. -/
def Style.anchored (style : Style) (done : Regex) (test : Anchor) : Regex × Option Regex :=
  match style.dialect with
  | .full => (done, some (.anchor test))
  | .classic => (done.andThen (.anchor test), none)

/-- Reading a pattern: the names of the groups so far are known, and it may go wrong. -/
abbrev Reading := StateT (List (List Char)) (Except PatternFault)

namespace Reading

/-- What is not there is malformed. -/
def require : Option α → Reading α
  | some value => return value
  | none => throw .malformed

/-- Notes the name of a group. In the classic dialect a name is used once, and in a pattern for
bytes it is in ASCII. -/
def noteGroup (style : Style) : GroupKind → Reading Unit
  | .named name => do
    let known ← get
    if style.dialect == .classic && (known.contains name || (style.forBytes && !name.all (·.toNat < 128)))
    then throw .malformed
    else set (name :: known)
  | _ => return ()

/-- Checks the counts of a repetition. -/
def checkCounts (dialect : Dialect) (least : Nat) (most : Option Nat) : Reading Unit := do
  if countLimit ≤ least || most.any (countLimit ≤ ·) then throw dialect.countFault
  if most.any (· < least) then throw .malformed

end Reading

open Reading

mutual

/-- Reads alternatives up to a closing parenthesis or the end. -/
def readAlternatives (style : Style) : Nat → List Char → Reading (Regex × List Char)
  | 0, _ => throw .malformed
  | fuel + 1, text => do
    let (first, rest) ← readSequence style fuel .empty none text
    match rest with
    | '|' :: rest =>
      let (second, after) ← readAlternatives style fuel rest
      return (.alt first second, after)
    | _ => return (first, rest)

/-- Reads a sequence. `last` is the item that a quantifier would apply to, and `done` is all that
comes before it. -/
def readSequence (style : Style) :
    Nat → Regex → Option Regex → List Char → Reading (Regex × List Char)
  | 0, _, _, _ => throw .malformed
  | fuel + 1, done, last, text => do
    let before := match last with
      | some item => done.andThen item
      | none => done
    match ← require (style.skip text) with
    | [] => return (before, [])
    | c :: rest =>
      match readQuantifier? style (c :: rest) with
      | some (least, most, after) =>
        checkCounts style.dialect least most
        let item ← require last
        let (greedy, later) ← require (style.readGreed? after)
        readSequence style fuel (done.andThen (item.repeated least most greedy)) none later
      | none =>
        match c with
        | ')' => return (before, c :: rest)
        | '|' => return (before, c :: rest)
        | '.' =>
          let cls := if style.flags.dotAll then CharClass.all else CharClass.inLine
          readSequence style fuel before (some (.chars cls)) rest
        | '^' =>
          let test := if style.flags.multiLine then Anchor.lineStart else .textStart
          let (past, item) := style.anchored before test
          readSequence style fuel past item rest
        | '$' =>
          let test := if style.flags.multiLine then Anchor.lineEnd else .textEnd
          let (past, item) := style.anchored before test
          readSequence style fuel past item rest
        | '[' =>
          let (cls, after) ← require (readClass style rest)
          readSequence style fuel before (some (.chars cls)) after
        | '\\' =>
          match ← require (readEscape style false rest) with
          | (.code code, after) =>
            readSequence style fuel before (some (.chars ⟨false, [.range code code]⟩)) after
          | (.named set negated, after) =>
            readSequence style fuel before (some (.chars ⟨false, [.named set negated]⟩)) after
          | (.anchor test, after) =>
            let (past, item) := style.anchored before test
            readSequence style fuel past item after
        | '(' =>
          let (kind, body) ← require (readGroupHead? style.dialect rest)
          noteGroup style kind
          match ← readAlternatives style fuel body with
          | (content, ')' :: after) =>
            let item := match kind with
              | .look negated => Regex.look negated content
              | _ => content
            readSequence style fuel before (some item) after
          | _ => throw .malformed
        | _ => readSequence style fuel before (some (.chars (.one c))) rest

end

/-- Reads a whole pattern. -/
def readRegex (style : Style) (text : List Char) : Except PatternFault Regex := do
  match ← (readAlternatives style (2 * text.length + 3) text).run' [] with
  | (regex, []) => return regex
  | _ => throw .malformed

end Peg.Pattern
