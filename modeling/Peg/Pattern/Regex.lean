import Peg.Pattern.CharClass

/-! # Regular expressions

The parsed form of a pattern, and the places of a text at which it is matched. -/

namespace Peg.Pattern

/-- A test of a place that reads nothing. -/
inductive Anchor where
  /-- The start of the text. -/
  | textStart
  /-- The start of a line. -/
  | lineStart
  /-- The end of the text, or the place before a line feed that ends it. -/
  | textEnd
  /-- The end of a line. -/
  | lineEnd
  /-- The very end of the text. -/
  | veryEnd
  /-- A place between a word character and another character. -/
  | boundary
  /-- A place that is no boundary. -/
  | inside
deriving DecidableEq, Repr

/-- A regular expression. -/
inductive Regex where
  /-- Matches nothing, everywhere. -/
  | empty
  /-- One character of a class. -/
  | chars (cls : CharClass)
  /-- One expression, then another. -/
  | seq (first second : Regex)
  /-- One expression or, failing that, another. -/
  | alt (first second : Regex)
  /-- A run of characters of one class, at least `least` and at most `most` long. -/
  | run (cls : CharClass) (least : Nat) (most : Option Nat) (greedy : Bool)
  /-- Rounds of one expression, at least `least` and at most `most`. -/
  | rounds (body : Regex) (least : Nat) (most : Option Nat) (greedy : Bool)
  /-- Looks ahead without moving: `body` must match here or, if `negated`, must not. -/
  | look (negated : Bool) (body : Regex)
  /-- A test of the place alone. -/
  | anchor (test : Anchor)
deriving DecidableEq, Repr

/-- A place in a text: the character before it, if any, and everything after it. -/
structure Place where
  /-- The character before the place. -/
  before : Option Char
  /-- The text after the place. -/
  rest : List Char
  /-- How many characters were read on the way to the place. -/
  offset : Nat

namespace Place

/-- The place after a character that passes a test. -/
def read? (test : Char → Bool) (place : Place) : Option Place :=
  match place.rest with
  | [] => none
  | c :: rest => if test c then some ⟨some c, rest, place.offset + 1⟩ else none

/-- The place after a fixed number of characters that pass a test. -/
def readMany? (test : Char → Bool) : Nat → Place → Option Place
  | 0, place => some place
  | count + 1, place => (place.read? test).bind (readMany? test count)

/-- The places reached by reading up to `limit` characters that pass a test, farthest first. The
places in `nearer` come after them. -/
def readAll (test : Char → Bool) : Option Nat → Option Char → List Char → Nat → List Place →
    List Place
  | some 0, before, rest, offset, nearer => ⟨before, rest, offset⟩ :: nearer
  | _, before, [], offset, nearer => ⟨before, [], offset⟩ :: nearer
  | limit, before, c :: rest, offset, nearer =>
    if test c then
      readAll test (limit.map (· - 1)) (some c) rest (offset + 1)
        (⟨before, c :: rest, offset⟩ :: nearer)
    else ⟨before, c :: rest, offset⟩ :: nearer

/-- The number of characters read and still to read. Reading does not change it. -/
def total (place : Place) : Nat := place.offset + place.rest.length

/-- Reading a character stays in the text. -/
theorem total_of_read? {test : Char → Bool} {place later : Place}
    (found : place.read? test = some later) : later.total = place.total := by
  unfold read? at found
  split at found
  · contradiction
  · next c rest heq =>
    split at found
    · cases found
      simp [total, heq]
      omega
    · contradiction

/-- Reading some characters stays in the text. -/
theorem total_of_readMany? {test : Char → Bool} {count : Nat} {place later : Place}
    (found : place.readMany? test count = some later) : later.total = place.total := by
  induction count generalizing place with
  | zero => rw [show place = later by simpa [readMany?] using found]
  | succ count ih =>
    obtain ⟨middle, first, others⟩ := Option.bind_eq_some_iff.1 found
    rw [ih others, total_of_read? first]

/-- All places on a run lie in one text. -/
theorem total_of_mem_readAll {test : Char → Bool} {limit : Option Nat} {before : Option Char}
    {rest : List Char} {offset : Nat} {nearer : List Place} {later : Place}
    (known : ∀ place ∈ nearer, place.total = offset + rest.length)
    (member : later ∈ readAll test limit before rest offset nearer) :
    later.total = offset + rest.length := by
  fun_induction readAll test limit before rest offset nearer with
  | case1 before rest offset nearer =>
    rcases List.mem_cons.1 member with rfl | old
    · rfl
    · exact known _ old
  | case2 limit before offset nearer =>
    rcases List.mem_cons.1 member with rfl | old
    · rfl
    · exact known _ old
  | case3 limit before c rest offset nearer _ accepted ih =>
    have step : offset + (c :: rest).length = offset + 1 + rest.length := by
      simp
      omega
    rw [step] at known ⊢
    refine ih (fun place old => ?_) member
    rcases List.mem_cons.1 old with rfl | older
    · simp [total]
      omega
    · exact known _ older
  | case4 limit before c rest offset nearer _ refused =>
    rcases List.mem_cons.1 member with rfl | old
    · rfl
    · exact known _ old

/-- Reading a character leaves less text. -/
theorem length_rest_of_read? {test : Char → Bool} {place later : Place}
    (found : place.read? test = some later) : later.rest.length < place.rest.length := by
  unfold read? at found
  split at found
  · contradiction
  · next c rest heq =>
    split at found
    · cases found
      simp [heq]
    · contradiction

/-- Reading a fixed number of characters stays at the place or leaves less text. -/
theorem eq_or_length_lt_of_readMany? {test : Char → Bool} {count : Nat} {place later : Place}
    (found : place.readMany? test count = some later) :
    later = place ∨ later.rest.length < place.rest.length := by
  induction count generalizing place with
  | zero => exact .inl (by simpa [readMany?] using found.symm)
  | succ count ih =>
    obtain ⟨middle, first, others⟩ := Option.bind_eq_some_iff.1 found
    have shorter := length_rest_of_read? first
    rcases ih others with rfl | farther
    · exact .inr shorter
    · exact .inr (Nat.lt_trans farther shorter)

/-- Every place in a row of places is the first one, has less text left, or was known before. -/
theorem mem_readAll {test : Char → Bool} {limit : Option Nat} {before : Option Char}
    {rest : List Char} {offset : Nat} {nearer : List Place} {later : Place}
    (member : later ∈ readAll test limit before rest offset nearer) :
    later = ⟨before, rest, offset⟩ ∨ later.rest.length < rest.length ∨ later ∈ nearer := by
  fun_induction readAll test limit before rest offset nearer with
  | case1 before rest offset nearer =>
    rcases List.mem_cons.1 member with rfl | known
    · exact .inl rfl
    · exact .inr (.inr known)
  | case2 limit before offset nearer =>
    rcases List.mem_cons.1 member with rfl | known
    · exact .inl rfl
    · exact .inr (.inr known)
  | case3 limit before c rest offset nearer _ accepted ih =>
    rcases ih member with rfl | shorter | known
    · exact .inr (.inl (by simp))
    · exact .inr (.inl (by simp; omega))
    · rcases List.mem_cons.1 known with rfl | known
      · exact .inl rfl
      · exact .inr (.inr known)
  | case4 limit before c rest offset nearer _ refused =>
    rcases List.mem_cons.1 member with rfl | known
    · exact .inl rfl
    · exact .inr (.inr known)

/-- The place lies between a word character and something else. -/
def isBoundary (mode : Mode) (place : Place) : Bool :=
  let isWord := mode.holds .word
  place.before.any isWord != place.rest.head?.any isWord

/-- The place is the only one of an empty text. The classic dialect takes it for neither a boundary
nor the inside of anything. -/
def isLonely (place : Place) : Bool := place.before.isNone && place.rest.isEmpty

/-- The place passes the test of an anchor. -/
def passes (mode : Mode) (place : Place) : Anchor → Bool
  | .textStart => place.before.isNone
  | .lineStart => place.before.isNone || place.before == some '\n'
  | .textEnd => place.rest.isEmpty || place.rest == ['\n']
  | .lineEnd => place.rest.isEmpty || place.rest.head? == some '\n'
  | .veryEnd => place.rest.isEmpty
  | .boundary => place.isBoundary mode
  | .inside => !place.isBoundary mode && !(mode.dialect == .classic && place.isLonely)

end Place

end Peg.Pattern
