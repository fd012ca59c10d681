import Peg.Proofs.Calculator.Reading

/-! # Where reading gets stuck

Reading remarks on every terminal that it looks for in vain, also in branches that it gives up. If
it does not come through, one place stands out: everything that is expected after the symbols before
it was looked for there, in the order of the grammar, nothing of it stands there, and all other
remarks were made nearer to the beginning. The reason is that what is read after an impasse is read
from an operator before it.

* **`Reads.accounted`**: reading a part comes through or gets stuck.
* **`ReadsAll.stuck`**: reading a whole text gets stuck if it finds nothing. -/

namespace Peg.Calculator

/-! ## Impasses -/

/-- All remarks were made before the place where so many symbols are left. -/
def AllBefore (left : Nat) (remarks : List Remark) : Prop := ∀ remark ∈ remarks, left < remark.left

/-- Without remarks nothing was remarked too late. -/
theorem allBefore_nil (left : Nat) : AllBefore left [] := by
  intro remark member
  cases member

/-- Two rows of remarks made before a place may be joined. -/
theorem AllBefore.append {left : Nat} {remarks more : List Remark} (first : AllBefore left remarks)
    (second : AllBefore left more) : AllBefore left (remarks ++ more) :=
  List.forall_mem_append.2 ⟨first, second⟩

/-- Remarks made before a place were made before any place farther on. -/
theorem AllBefore.mono {left less : Nat} {remarks : List Remark} (before : AllBefore left remarks)
    (farther : less ≤ left) : AllBefore less remarks :=
  fun remark member => Nat.lt_of_le_of_lt farther (before remark member)

/-- The remarks on terminals that are looked for in vain at one place. -/
def missedAt (left : Nat) (expectations : List Expectation) : List Remark :=
  expectations.map (Remark.missed · left)

/-- What is missed at one place may be listed in two parts. -/
theorem missedAt_append (left : Nat) (expectations others : List Expectation) :
    missedAt left (expectations ++ others) = missedAt left expectations ++ missedAt left others :=
  List.map_append

/-- What is missed at one place is remarked before any place farther on. -/
theorem allBefore_missedAt {left farther : Nat} (lt : left < farther)
    (expectations : List Expectation) : AllBefore left (missedAt farther expectations) := by
  intro remark member
  obtain ⟨expectation, -, rfl⟩ := List.mem_map.1 member
  exact lt

/-- None of the terminals stands at the beginning of the symbols. -/
def NoneMeets (expectations : List Expectation) (symbols : List Symbol) : Prop :=
  ∀ expectation ∈ expectations, expectation.meets symbols = false

/-- Reading, which began with one standing, got stuck where so many symbols are left: everything
that is expected there was looked for in vain, and all else was remarked on nearer places. -/
def Stuck (initial : Standing) (symbols : List Symbol) (left : Nat) (remarks : List Remark) :
    Prop :=
  ∃ read rest standing early late, symbols = read ++ rest ∧ rest.length = left
    ∧ initial.afterAll? read = some standing ∧ NoneMeets standing.expected rest
    ∧ remarks = early ++ missedAt left standing.expected ++ late
    ∧ AllBefore left early ∧ AllBefore left late

namespace Stuck

variable {initial next : Standing} {symbols : List Symbol} {left : Nat} {remarks more : List Remark}

/-- The place where reading got stuck is one of the symbols, or their end. -/
theorem left_le (stuck : Stuck initial symbols left remarks) : left ≤ symbols.length := by
  obtain ⟨read, rest, standing, early, late, rfl, rfl, -⟩ := stuck
  rw [List.length_append]
  exact Nat.le_add_left _ _

/-- Remarks on nearer places may follow. -/
theorem later (stuck : Stuck initial symbols left remarks) (before : AllBefore left more) :
    Stuck initial symbols left (remarks ++ more) := by
  obtain ⟨read, rest, standing, early, late, whole, length, stands, none, rfl, first, second⟩ :=
    stuck
  refine ⟨read, rest, standing, early, late ++ more, whole, length, stands, none, ?_, first,
    second.append before⟩
  rw [← List.append_assoc]

/-- Symbols may come before, with remarks on nearer places. -/
theorem earlier (stuck : Stuck next symbols left remarks) (initial : Standing) (read : List Symbol)
    (stands : initial.afterAll? read = some next) (before : AllBefore left more) :
    Stuck initial (read ++ symbols) left (more ++ remarks) := by
  obtain ⟨tail, rest, standing, early, late, rfl, length, finally_, none, rfl, first, second⟩ :=
    stuck
  refine ⟨read ++ tail, rest, standing, more ++ early, late, (List.append_assoc ..).symm, length,
    ?_, none, ?_, before.append first, second⟩
  · rw [Standing.afterAll?_append, stands]
    exact finally_
  · rw [List.append_assoc, List.append_assoc, List.append_assoc]

/-- Where nothing that is expected stands, one is stuck at once. -/
theorem here (none : NoneMeets initial.expected symbols) :
    Stuck initial symbols symbols.length (missedAt symbols.length initial.expected) :=
  ⟨[], symbols, initial, [], [], rfl, rfl, rfl, none, by rw [List.append_nil, List.nil_append],
    allBefore_nil _, allBefore_nil _⟩

end Stuck

/-! ## What remains after a part -/

/-- The operators that a part looks for where it ends. -/
def Part.further : Part → List Expectation
  | .unary => []
  | .chain .product => [.operators .product]
  | .chain .sum => [.operators .product, .operators .sum]

/-- After its operand a chain looks for the operators of that operand, and then for its own. -/
theorem Part.further_chain (level : Level) :
    (Part.chain level).further = level.operand.further ++ [.operators level] := by
  cases level <;> rfl

/-- Reading a part came through: an operand is due before it and none after it, and the last remarks
are on the operators that might have gone on with it. -/
def ComesThrough (part : Part) (initial after : Standing) (symbols : List Symbol)
    (reading : Reading) (remarks : List Remark) : Prop :=
  ∃ read rest value early, symbols = read ++ rest ∧ reading = .ok (some (value, rest))
    ∧ initial.afterAll? read = some after ∧ NoneMeets part.further rest
    ∧ remarks = early ++ missedAt rest.length part.further ∧ AllBefore rest.length early

/-- Reading a part that got stuck gives up, or it ends before an operator that comes before the
impasse. -/
def Halts (part : Part) (reading : Reading) (left : Nat) : Prop :=
  reading = .ok none ∨ ∃ value operator after,
    reading = .ok (some (value, .operator operator :: after)) ∧ part.takes operator
      ∧ left ≤ after.length

/-- Reading a goal came through or got stuck. -/
def Goal.Accounted (depth : Nat) : Goal → List Symbol → Reading → List Remark → Prop
  | .part whole, symbols, reading, remarks =>
    ComesThrough whole ⟨true, depth⟩ ⟨false, depth⟩ symbols reading remarks
      ∨ ∃ left, Stuck ⟨true, depth⟩ symbols left remarks ∧ Halts whole reading left
  | .steps level, symbols, reading, remarks =>
    -- without a further operand there are no operators but those of the level to look for
    (reading = .ok (some (.list [], symbols)) ∧ (Expectation.operators level).meets symbols = false
      ∧ remarks = missedAt symbols.length [.operators level])
    ∨ (ComesThrough (.chain level) ⟨false, depth⟩ ⟨false, depth⟩ symbols reading remarks
      ∧ ∀ value rest, reading = .ok (some (value, rest)) → rest.length < symbols.length)
    ∨ ∃ left < symbols.length, Stuck ⟨false, depth⟩ symbols left remarks
      ∧ Halts (.chain level) reading left

/-! ## Reading comes through or gets stuck -/

/-- Symbols may come before a part, with remarks on them. -/
theorem ComesThrough.earlier {part : Part} {next after : Standing} {symbols : List Symbol}
    {reading : Reading} {remarks more : List Remark}
    (through : ComesThrough part next after symbols reading remarks) (initial : Standing)
    (read : List Symbol) (stands : initial.afterAll? read = some next)
    (before : AllBefore symbols.length more) :
    ComesThrough part initial after (read ++ symbols) reading (more ++ remarks) := by
  obtain ⟨tail, rest, value, early, rfl, same, finally_, none, rfl, first⟩ := through
  refine ⟨read ++ tail, rest, value, more ++ early, (List.append_assoc ..).symm, same, ?_, none,
    (List.append_assoc ..).symm, AllBefore.append (before.mono ?_) first⟩
  · rw [Standing.afterAll?_append, stands]
    exact finally_
  · rw [List.length_append]
    exact Nat.le_add_left _ _

/-- Reading that came through leaves no more symbols than there were. -/
theorem ComesThrough.length_le {part : Part} {initial after : Standing}
    {symbols rest : List Symbol} {value : Value} {remarks : List Remark}
    (through : ComesThrough part initial after symbols (.ok (some (value, rest))) remarks) :
    rest.length ≤ symbols.length := by
  obtain ⟨read, _, _, _, rfl, same, -⟩ := through
  cases same
  rw [List.length_append]
  exact Nat.le_add_left _ _

/-- A chain takes the operators that its operands take, and these are not of its own level. -/
theorem Part.takes_of_operand {level : Level} {operator : Operator}
    (taken : level.operand.takes operator) :
    (Part.chain level).takes operator ∧ operator.level ≠ level := by
  cases level with
  | sum =>
    have product : operator.level = .product := taken
    exact ⟨trivial, by rw [product]; exact Level.noConfusion⟩
  | product => exact taken.elim

/-- Where no operator of its level stands, a chain ends. -/
theorem Reads.eq_of_no_operator {level : Level} {symbols : List Symbol} {reading : Reading}
    {remarks : List Remark} (reads : Reads (.steps level) symbols reading remarks)
    (none : (Expectation.operators level).meets symbols = false) :
    reading = .ok (some (.list [], symbols))
      ∧ remarks = missedAt symbols.length [.operators level] := by
  have stands {operator : Operator} {rest : List Symbol} (same : operator.level = level) :
      (Expectation.operators level).meets (.operator operator :: rest) ≠ false := by
    simp [Expectation.meets, Expectation.accepts, same]
  cases reads with
  | stepsEnd => exact ⟨rfl, rfl⟩
  | stepsMiss same => exact absurd none (stands same)
  | stepsMore same => exact absurd none (stands same)
  | stepsRaise same => exact absurd none (stands same)
  | raise start =>
    cases symbols with
    | nil => cases start
    | cons symbol rest =>
      cases symbol with
      | operator operator =>
        by_cases same : operator.level = level
        · exact absurd none (stands same)
        · rw [Goal.first?, if_neg same] at start
          cases start
      | number | left | right | other => cases start

/-- An operand with the steps after it comes through if both do, and otherwise it gets stuck where
one of them does. -/
theorem accounted_chain {level : Level} {depth : Nat} {symbols middle rest : List Symbol}
    {first steps : Value} {remarks more : List Remark}
    (head : (Goal.part level.operand).Accounted depth symbols (.ok (some (first, middle))) remarks)
    (reads : Reads (.steps level) middle (.ok (some (steps, rest))) more)
    (tail : (Goal.steps level).Accounted depth middle (.ok (some (steps, rest))) more)
    (value : Value) :
    ComesThrough (.chain level) ⟨true, depth⟩ ⟨false, depth⟩ symbols (.ok (some (value, rest)))
      (remarks ++ more)
    ∨ ∃ left, Stuck ⟨true, depth⟩ symbols left (remarks ++ more)
      ∧ Halts (.chain level) (.ok (some (value, rest))) left := by
  rcases head with ⟨read, _, _, early, rfl, same, stands, none, rfl, before⟩ | ⟨left, stuck, halts⟩
  · cases same
    have nearer {farther : Nat} (less : farther < middle.length) :
        AllBefore farther (early ++ missedAt middle.length level.operand.further) :=
      (before.mono (Nat.le_of_lt less)).append (allBefore_missedAt less _)
    -- either there are no steps, or they come through, or they get stuck behind the operand
    rcases tail with ⟨same, noOperator, rfl⟩ | ⟨⟨_, _, _, _, rfl, same, through⟩, less⟩
      | ⟨left, less, stuck, halts⟩
    · cases same
      refine .inl ⟨read, middle, value, early, rfl, rfl, stands, ?_, ?_, before⟩
      · rw [Part.further_chain]
        exact List.forall_mem_append.2 ⟨none, List.forall_mem_singleton.2 noOperator⟩
      · rw [Part.further_chain, missedAt_append, List.append_assoc]
    · cases same
      have less := less _ _ rfl
      obtain ⟨later, noFurther, rfl, beforeToo⟩ := through
      refine .inl ⟨_, _, value, _, (List.append_assoc ..).symm, rfl, ?_, noFurther,
        (List.append_assoc ..).symm, (nearer less).append beforeToo⟩
      rw [Standing.afterAll?_append, stands]
      exact later
    · refine .inr ⟨left, stuck.earlier _ read stands (nearer less), ?_⟩
      rcases halts with same | ⟨_, operator, after, same, taken, farther⟩
      · cases same
      · cases same
        exact .inr ⟨value, operator, after, rfl, taken, farther⟩
  · -- the operand ended before an operator that the steps do not take
    rcases halts with same | ⟨_, operator, after, same, taken, farther⟩
    · cases same
    · cases same
      obtain ⟨taken, other⟩ := Part.takes_of_operand taken
      have none : (Expectation.operators level).meets (.operator operator :: after) = false := by
        simp [Expectation.meets, Expectation.accepts, other]
      obtain ⟨same, rfl⟩ := reads.eq_of_no_operator none
      cases same
      exact .inr ⟨left, stuck.later (allBefore_missedAt (Nat.lt_succ_of_le farther) _),
        .inr ⟨value, operator, after, rfl, taken, farther⟩⟩

/-- If computing a value raises no fault, there is a value. -/
theorem Reading.exists_of_ofValue {value : Except Fault Value} {rest : List Symbol}
    (fine : ∀ fault, ofValue value rest ≠ .error fault) :
    ∃ found, ofValue value rest = .ok (some (found, rest)) := by
  cases value with
  | error fault => exact absurd rfl (fine fault)
  | ok value => exact ⟨value, rfl⟩

/-- **Reading comes through or gets stuck**, unless it raises a fault. By induction on the reading;
what is left of a part that got stuck is an operator that nothing further out can go on with. -/
theorem Reads.accounted {goal : Goal} {symbols : List Symbol} {reading : Reading}
    {remarks : List Remark} (reads : Reads goal symbols reading remarks)
    (fine : ∀ fault, reading ≠ .error fault) (depth : Nat) :
    goal.Accounted depth symbols reading remarks := by
  induction reads generalizing depth with
  | @negated rest after _ _ _ operand =>
    obtain ⟨found, same⟩ := Reading.exists_of_ofValue fine
    rw [same]
    rcases operand (by simp) depth with ⟨_, _, _, _, rfl, matched, through⟩ | ⟨left, -, halts⟩
    · cases matched
      have through : ComesThrough .unary ⟨true, depth⟩ ⟨false, depth⟩ _ _ _ :=
        ⟨_, _, found, _, rfl, rfl, through⟩
      exact .inl (through.earlier _ [.operator .minus] rfl (allBefore_nil _))
    -- an operand with a sign goes on with no operator, so it does not end before one
    · rcases halts with none | ⟨_, _, _, _, taken, _⟩
      · cases none
      · exact taken.elim
  | @negatedMiss rest remarks _ operand =>
    rcases operand (by simp) depth with ⟨_, _, _, _, _, matched, _⟩ | ⟨left, stuck, -⟩
    · cases matched
    · have bound := Nat.lt_succ_of_le stuck.left_le
      have signed : Stuck ⟨true, depth⟩ (.operator .minus :: rest) left remarks :=
        stuck.earlier _ [.operator .minus] rfl (allBefore_nil left)
      exact .inr ⟨left, signed.later (allBefore_missedAt bound [.number, .left]), .inl rfl⟩
  | number numeral rest =>
    obtain ⟨found, same⟩ := Reading.exists_of_ofValue fine
    rw [same]
    exact .inl ⟨[.number numeral], rest, found, _, rfl, rfl, rfl, by simp [NoneMeets, Part.further],
      (List.append_nil _).symm, allBefore_missedAt (Nat.lt_succ_self _) [.minus]⟩
  | @group rest after value remarks _ inner =>
    rcases inner (by simp) (depth + 1) with
      ⟨read, _, _, early, rfl, matched, stands, -, rfl, before⟩ | ⟨left, -, halts⟩
    · cases matched
      have less : after.length < (read ++ .right :: after).length + 1 := by
        rw [List.length_append, List.length_cons]
        omega
      refine .inl ⟨.left :: (read ++ [.right]), after, value, _, by simp, rfl, ?_,
        by simp [NoneMeets, Part.further], (List.append_nil _).symm,
        AllBefore.append (allBefore_missedAt less [.minus, .number])
          (AllBefore.append (before.mono (by simp)) (allBefore_missedAt (by simp) _))⟩
      rw [Standing.afterAll?_cons, Standing.after?, Option.bind_some, Standing.afterAll?_append,
        stands]
      rfl
    -- the inside ends before a parenthesis, and that is no operator
    · rcases halts with none | ⟨_, _, _, same, _⟩
      · cases none
      · cases same
  | @groupOpen rest after value remarks _ unclosed inner =>
    rcases inner (by simp) (depth + 1) with
      ⟨read, _, _, early, rfl, matched, stands, none, rfl, before⟩ | ⟨left, stuck, halts⟩
    · cases matched
      have less : after.length < (read ++ after).length + 1 := by
        rw [List.length_append]
        omega
      refine .inr ⟨after.length, ⟨.left :: read, after, ⟨false, depth + 1⟩, _, [], rfl, rfl, stands,
        ?_, ?_, AllBefore.append (allBefore_missedAt less [.minus, .number]) before,
        allBefore_nil _⟩, .inl rfl⟩
      · exact List.forall_mem_append.2 ⟨none, List.forall_mem_singleton.2 unclosed⟩
      · simp [missedAt, Part.further, Standing.expected]
    -- the inside ended before an operator that led nowhere: the parenthesis is missed there, and the
    -- place of the impasse is farther on
    · rcases halts with none | ⟨_, operator, later, same, _, farther⟩
      · cases none
      · cases same
        have bound := Nat.lt_succ_of_le stuck.left_le
        have opened := stuck.earlier ⟨true, depth⟩ [.left] rfl
          (allBefore_missedAt bound [.minus, .number])
        exact .inr ⟨left,
          opened.later (allBefore_missedAt (Nat.lt_succ_of_le farther) [.right]), .inl rfl⟩
  | groupMiss _ inner =>
    rcases inner (by simp) (depth + 1) with ⟨_, _, _, _, _, matched, _⟩ | ⟨left, stuck, -⟩
    · cases matched
    · have bound := Nat.lt_succ_of_le stuck.left_le
      exact .inr ⟨left, stuck.earlier ⟨true, depth⟩ [.left] rfl
        (allBefore_missedAt bound [.minus, .number]), .inl rfl⟩
  | @noOperand symbols noMinus noNumber noLeft =>
    have none : NoneMeets (Standing.expected ⟨true, depth⟩) symbols := by
      simp [NoneMeets, Standing.expected, noMinus, noNumber, noLeft]
    exact .inr ⟨_, Stuck.here none, .inl rfl⟩
  | chain _ reads head tail =>
    obtain ⟨found, same⟩ := Reading.exists_of_ofValue fine
    rw [same]
    exact accounted_chain (head (by simp) depth) reads (tail (by simp) depth) found
  | chainMiss _ head =>
    rcases head (by simp) depth with ⟨_, _, _, _, _, matched, _⟩ | ⟨left, stuck, -⟩
    · cases matched
    · exact .inr ⟨left, stuck, .inl rfl⟩
  | chainRaise => exact absurd rfl (fine _)
  | stepsEnd none => exact .inl ⟨rfl, none, rfl⟩
  | @stepsMiss level operator rest remarks same _ operand =>
    rcases operand (by simp) depth with ⟨_, _, _, _, _, matched, _⟩ | ⟨left, stuck, -⟩
    · cases matched
    · have bound := Nat.lt_succ_of_le stuck.left_le
      have passed : AllBefore left [.passed operator (rest.length + 1)] :=
        List.forall_mem_singleton.2 bound
      -- the operator is given back, but the impasse lies behind it
      exact .inr (.inr ⟨left, bound, stuck.earlier ⟨false, depth⟩ [.operator operator] rfl passed,
        .inr ⟨_, operator, rest, rfl, Part.takes_of_level same, stuck.left_le⟩⟩)
  | @stepsMore level operator rest _ after value later _ _ same _ reads operand steps =>
    have passed {left : Nat} (bound : left < rest.length + 1) :
        AllBefore left [.passed operator (rest.length + 1)] :=
      List.forall_mem_singleton.2 bound
    rcases accounted_chain (operand (by simp) depth) reads (steps (by simp) depth)
      (.list (stepValue (operator, value) :: later)) with through | ⟨left, stuck, halts⟩
    · refine .inr (.inl ⟨through.earlier ⟨false, depth⟩ [.operator operator] rfl
        (passed (Nat.lt_succ_self _)), ?_⟩)
      intro _ _ same
      cases same
      exact Nat.lt_succ_of_le through.length_le
    · have bound := Nat.lt_succ_of_le stuck.left_le
      exact .inr (.inr ⟨left, bound, stuck.earlier ⟨false, depth⟩ [.operator operator]
        rfl (passed bound), halts⟩)
  | stepsRaise => exact absurd rfl (fine _)
  | raise => exact absurd rfl (fine _)

/-! ## Whole texts -/

/-- **Reading a whole text gets stuck** if it finds nothing. -/
theorem ReadsAll.stuck {symbols : List Symbol} {remarks : List Remark}
    (reads : ReadsAll symbols (.ok none) remarks) :
    ∃ left, Stuck .start symbols left remarks := by
  cases reads with
  | @unfinished value rest remarks reads more =>
    rcases reads.accounted (by simp) 0 with
      ⟨read, _, _, early, rfl, same, stands, none, rfl, before⟩ | ⟨left, stuck, halts⟩
    · -- an expression ended, and the end was the last thing to be looked for
      cases same
      refine ⟨rest.length, read, rest, ⟨false, 0⟩, early, [], rfl, rfl, stands, ?_, ?_, before,
        allBefore_nil _⟩
      · exact List.forall_mem_append.2 ⟨none, List.forall_mem_singleton.2 more⟩
      · simp [missedAt, Part.further, Standing.expected]
    · rcases halts with same | ⟨_, operator, after, same, -, farther⟩
      · cases same
      · cases same
        exact ⟨left, stuck.later (allBefore_missedAt (Nat.lt_succ_of_le farther) [.finish])⟩
  | miss reads =>
    rcases reads.accounted (by simp) 0 with ⟨_, _, _, _, _, same, _⟩ | ⟨left, stuck, -⟩
    · cases same
    · exact ⟨left, stuck⟩

/-- A start of a start is a start. -/
theorem IsStart.of_append {symbols more : List Symbol} (isStart : IsStart (symbols ++ more)) :
    IsStart symbols := by
  obtain ⟨further, tree, derives⟩ := isStart
  exact ⟨more ++ further, tree, by rwa [← List.append_assoc]⟩

/-- Terminals that do not stand at the beginning of symbols do not accept their first one. -/
theorem NoneMeets.not_accepts {expectations : List Expectation} {symbol : Symbol}
    {rest : List Symbol} (none : NoneMeets expectations (symbol :: rest)) :
    ¬ ∃ expected ∈ expectations, expected.accepts symbol := by
  rintro ⟨expected, member, accepted⟩
  have refused := none expected member
  cases expected <;> simp_all [Expectation.meets, Expectation.accepts]

/-- **The impasse is the first symbol that cannot stand where it stands**: what comes before it is
the longest start of an expression, and what is expected after that was looked for there. -/
theorem Stuck.exists_longest {symbols : List Symbol} {left : Nat} {remarks : List Remark}
    (stuck : Stuck .start symbols left remarks) :
    ∃ read rest early late, symbols = read ++ rest ∧ rest.length = left ∧ IsStart read
      ∧ (∀ longer, longer <+: symbols → IsStart longer → longer.length ≤ read.length)
      ∧ remarks = early ++ missedAt left (expectedAfter read) ++ late
      ∧ AllBefore left early ∧ AllBefore left late := by
  obtain ⟨read, rest, standing, early, late, rfl, length, stands, none, rfl, first, second⟩ := stuck
  have isStart : IsStart read := isStart_iff.2 ⟨standing, stands⟩
  rw [Standing.expected_eq stands] at none ⊢
  refine ⟨read, rest, early, late, rfl, length, isStart, ?_, rfl, first, second⟩
  intro longer isPrefix startsToo
  by_contra more
  -- a longer start would contain the symbol after the impasse
  obtain ⟨symbol, others, rfl⟩ : ∃ symbol others, rest = symbol :: others := by
    cases rest with
    | nil => exact absurd isPrefix.length_le (by simpa using more)
    | cons symbol others => exact ⟨symbol, others, rfl⟩
  have within : read ++ [symbol] <+: longer := by
    refine List.prefix_of_prefix_length_le ⟨others, by simp⟩ isPrefix ?_
    simp
    omega
  obtain ⟨further, rfl⟩ := within
  exact none.not_accepts ((isStart_append_iff isStart).1 startsToo.of_append)

end Peg.Calculator
