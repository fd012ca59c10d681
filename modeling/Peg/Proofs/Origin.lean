import Peg.Proofs.Rebuilding

/-! # Where rules come from

During a parse the rules that are pending are built when they are first called, so the order of
the calls decides which cells the new rules get. It decides nothing else: a rule comes from the
workspace that the parse started in, or it was made, after so many others, when the rule of another
origin was built, and its origin fixes its name and what it is bound to, before and after it is
built.

* `Origin`: where a rule comes from.
* `Stage`: a workspace in which every rule is as its origin says.
* **`Stage.resolve`**: resolving a rule gives what the origin of the rule says, at any stage, and
  leads to another stage. -/

namespace Peg

/-! ## Contained workspaces -/

namespace Workspace

/-- The grammar has a rule of the name. -/
def Mentions (workspace : Workspace) (name : String) : Prop :=
  ∃ cell, workspace.grammar.rules.lookup name = some cell

/-- The workspace is complete: all rules that are referred to exist, the descriptions that are still
to be built mention no name that the grammar has not, and no terminal remembers its calls. -/
structure Contained (workspace : Workspace) : Prop where
  /-- What the rules are bound to. -/
  bindings : ∀ cell < workspace.cells.size, (workspace.bindingOf cell).Twin workspace.Mentions
    (Below workspace.cells.size) (workspace.bindingOf cell)
  /-- The parsers kept under names. -/
  kept : ∀ entry ∈ workspace.kept, entry.2.Contained workspace.cells.size
  /-- The rules of the grammar. -/
  rules : ∀ rule ∈ workspace.grammar.rules, rule.2 < workspace.cells.size

/-- The ground on which a description is built again, in a workspace with more rules. -/
def Contained.ground {source : Workspace} (contained : source.Contained) (here : Nat) : Ground :=
  ⟨here, source.cells.size, source.kept, source.Mentions, contained.kept⟩

/-- A contained description is built again as it was built at first. -/
theorem Contained.build_again {source workspace : Workspace} (contained : source.Contained)
    (grammar_eq : workspace.grammar = source.grammar) (kept_eq : workspace.kept = source.kept)
    {description : Description} (inside : description.Contained source.Mentions source.Mentions) :
    (contained.ground workspace.cells.size).Abreast (.around source.grammar)
        (description.build.outcome workspace).2 (description.build.outcome source).2
      ∧ Agree (Parser.Twin ((contained.ground workspace.cells.size).Pairs
            (description.build.outcome workspace).2.cells.size))
          (description.build.outcome workspace).1 (description.build.outcome source).1 := by
  have allowed : ∀ name, source.Mentions name →
      (contained.ground workspace.cells.size).Allows (.around source.grammar) name := by
    rintro name ⟨cell, known⟩
    exact ⟨cell, contained.rules _ (mem_of_lookup_eq_some known), known⟩
  have start : (contained.ground workspace.cells.size).Abreast (.around source.grammar) workspace
      source := by
    refine ⟨Nat.le_refl _, Nat.add_comm _ _, kept_eq, rfl, ⟨grammar_eq, rfl⟩, ?_, ?_⟩
    · rintro cell other ⟨ge, lt, -⟩
      exact absurd lt (Nat.not_lt.2 ge)
    · rintro cell other ⟨ge, lt, -⟩
      exact absurd lt (Nat.not_lt.2 ge)
  have builds : description.BuildsTwins (contained.ground workspace.cells.size)
      (.around source.grammar) := inside.mirrors allowed
  obtain ⟨abreast, -, agree⟩ := builds 0 _ _ start (Nat.zero_le _)
  exact ⟨abreast, agree⟩

end Workspace

/-! ## Origins -/

/-- Where a rule comes from. -/
inductive Origin where
  /-- The rule was there, in a cell. -/
  | given (cell : Nat)
  /-- The rule was made when another rule was built, after so many others. -/
  | made (builder : Origin) (index : Nat)

namespace Origin

variable (source : Workspace)

/-- The number of a rule where it was first made. -/
def number : Origin → Nat
  | .given cell => cell
  | .made _ index => source.cells.size + index

/-- The workspace in which a rule was first made: each rule is built in the workspace that
everything comes from. -/
def home : Origin → Workspace
  | .given _ => source
  | .made builder _ =>
    match (builder.home).bindingOf (builder.number source) with
    | .pending description => (description.build.outcome source).2
    | _ => source

/-- The name of a rule. -/
def name (origin : Origin) : String := (origin.home source).nameOf (origin.number source)

/-- What a rule is bound to at first. -/
def binding (origin : Origin) : Binding :=
  (origin.home source).bindingOf (origin.number source)

/-- The origin of the rule of a number, where the rule is built. -/
def part (origin : Origin) (number : Nat) : Origin :=
  if number < source.cells.size then .given number
  else .made origin (number - source.cells.size)

/-- The origin of the rule of a number, where the rule was first made. -/
def sibling : Origin → Nat → Origin
  | .given _, number => .given number
  | .made builder _, number => builder.part source number

/-- The parser of a rule, or the fault in its place. -/
def parser (origin : Origin) : Except Fault Parser :=
  match origin.binding source with
  | .resolved body => .ok body
  | .undefined => .error (.grammar (.undefinedRule (origin.name source)))
  | .pending description =>
    match (description.build.outcome source).1 with
    | .error fault => .error fault
    | .ok body =>
      match body.constant? with
      | some value => .error (.grammar (.resolvedToNonParser (origin.name source) value))
      | none => .ok body

/-- The origin of the rule of a number in the parser of a rule. -/
def reading (origin : Origin) : Nat → Origin :=
  match origin.binding source with
  | .pending _ => origin.part source
  | _ => origin.sibling source

variable {source} {origin : Origin} {description : Description}

/-- The parts of a body that is built later are found in the grammar after the build. -/
theorem home_made (pending : origin.binding source = .pending description) (index : Nat) :
    (made origin index).home source = (description.build.outcome source).2 := by
  rw [binding] at pending
  rw [home, pending]

end Origin

/-! ## Stages -/

/-- The cell is that of the rule that the number stands for. -/
def Places (origin : Nat → Origin) (size : Nat) (reading : Nat → Origin) (cell number : Nat) :
    Prop :=
  cell < size ∧ origin cell = reading number

/-- A number that stands for a rule does so also when more rules have been added. -/
theorem Places.mono {origin later : Nat → Origin} {size more : Nat}
    (le : size ≤ more) (same : ∀ cell < size, later cell = origin cell) {reading : Nat → Origin}
    {cell number : Nat} (places : Places origin size reading cell number) :
    Places later more reading cell number :=
  ⟨Nat.lt_of_lt_of_le places.1 le, (same cell places.1).trans places.2⟩

/-- What a rule is bound to at some stage: what it is bound to at first, or what was built from
it. -/
inductive Origin.Bears (source : Workspace) (origins : Nat → Origin) (size : Nat)
    (origin : Origin) : Binding → Prop
  | first {binding : Binding}
      (twin : binding.Twin source.Mentions (Places origins size (origin.sibling source))
        (origin.binding source)) : Bears source origins size origin binding
  | built {description : Description} {body copy : Parser}
      (pending : origin.binding source = .pending description)
      (made : (description.build.outcome source).1 = .ok copy) (callable : copy.constant? = none)
      (twin : body.Twin (Places origins size (origin.part source)) copy) :
      Bears source origins size origin (.resolved body)

/-- A binding that an origin bears is borne also when more rules have been added. -/
theorem Origin.Bears.mono {source : Workspace} {origins later : Nat → Origin} {size more : Nat}
    (le : size ≤ more) (same : ∀ cell < size, later cell = origins cell) {origin : Origin}
    {binding : Binding} (bears : origin.Bears source origins size binding) :
    origin.Bears source later more binding := by
  cases bears with
  | first twin => exact .first (twin.mono fun _ _ => Places.mono le same)
  | built pending made callable twin =>
    exact .built pending made callable (twin.mono fun _ _ => Places.mono le same)

/-- All rules of a workspace are as their origins say. -/
structure Stage (source : Workspace) (origins : Nat → Origin) (workspace : Workspace) : Prop where
  /-- No rule is lost. -/
  size_le : source.cells.size ≤ workspace.cells.size
  /-- The grammar is the same. -/
  grammar_eq : workspace.grammar = source.grammar
  /-- The parsers kept under names are the same. -/
  kept_eq : workspace.kept = source.kept
  /-- The rules that were there have kept their cells. -/
  given_eq : ∀ cell < source.cells.size, origins cell = .given cell
  /-- The rules have their names. -/
  names : ∀ cell < workspace.cells.size, workspace.nameOf cell = (origins cell).name source
  /-- They are bound to what they can be bound to. -/
  bindings : ∀ cell < workspace.cells.size,
    (origins cell).Bears source origins workspace.cells.size (workspace.bindingOf cell)

namespace Stage

variable {source workspace : Workspace} {origins : Nat → Origin}

/-- At first every rule is where it comes from. -/
theorem initial (contained : source.Contained) : Stage source .given source where
  size_le := Nat.le_refl _
  grammar_eq := rfl
  kept_eq := rfl
  given_eq _ _ := rfl
  names _ _ := rfl
  bindings cell bound := by
    refine .first ((contained.bindings cell bound).mono fun one copy both => ?_)
    obtain ⟨small, rfl⟩ := both
    exact ⟨small, rfl⟩

/-- A stage is contained if its source is. -/
theorem contained (stage : Stage source origins workspace) (complete : source.Contained) :
    workspace.Contained := by
  have mentions : workspace.Mentions = source.Mentions := by
    funext name
    rw [Workspace.Mentions, Workspace.Mentions, stage.grammar_eq]
  refine ⟨fun cell bound => ?_, fun entry member => ?_, fun rule member => ?_⟩
  · have bears := stage.bindings cell bound
    rw [mentions]
    generalize workspace.bindingOf cell = binding at bears ⊢
    cases bears with
    | first twin => exact twin.contained fun _ _ places => places.1
    | built _ _ _ twin => exact .resolved (twin.contained fun _ _ places => places.1)
  · rw [stage.kept_eq] at member
    exact (complete.kept entry member).mono fun _ _ below =>
      ⟨Nat.lt_of_lt_of_le below.1 stage.size_le, below.2⟩
  · rw [stage.grammar_eq] at member
    exact Nat.lt_of_lt_of_le (complete.rules rule member) stage.size_le

/-- The origins after the rule in a cell was built. -/
def extend (origins : Nat → Origin) (size cell other : Nat) : Origin :=
  if other < size then origins other else .made (origins cell) (other - size)

/-- Rules that were there before keep their origins. -/
theorem extend_of_lt {size other : Nat} (old : other < size) (cell : Nat) :
    extend origins size cell other = origins other := if_pos old

/-- What is paired with a number is the rule that the number stands for. -/
theorem places_of_pairs (stage : Stage source origins workspace) (contained : source.Contained)
    (cell : Nat) {top : Nat} (le : workspace.cells.size ≤ top) {other number : Nat}
    (paired : (contained.ground workspace.cells.size).Pairs top other number) :
    Places (extend origins workspace.cells.size cell) top ((origins cell).part source) other
      number := by
  have sizes := stage.size_le
  obtain ⟨small, rfl⟩ | ⟨ge, lt, shift⟩ := paired
  · have small : number < source.cells.size := small
    have old : number < workspace.cells.size := Nat.lt_of_lt_of_le small sizes
    refine ⟨Nat.lt_of_lt_of_le old le, ?_⟩
    rw [extend_of_lt old, stage.given_eq number small, Origin.part, if_pos small]
  · have shift : number + workspace.cells.size = other + source.cells.size := shift
    have ge : workspace.cells.size ≤ other := ge
    refine ⟨lt, ?_⟩
    rw [extend, if_neg (Nat.not_lt.2 ge), Origin.part, if_neg (by omega)]
    congr 1
    omega

/-- What is not old is new. -/
theorem new_of_not_lt (contained : source.Contained) {other top : Nat}
    (old : ¬ other < workspace.cells.size) (bound : other < top) :
    (contained.ground workspace.cells.size).New top other
      (source.cells.size + (other - workspace.cells.size)) := by
  refine ⟨Nat.not_lt.1 old, bound, ?_⟩
  show source.cells.size + (other - workspace.cells.size) + workspace.cells.size
    = other + source.cells.size
  omega

/-- **Building a rule leads from stage to stage**: the new rules come from that rule, and the parser
is the one that was built at first. -/
theorem build (stage : Stage source origins workspace) (contained : source.Contained) {cell : Nat}
    {description : Description} (pending : (origins cell).binding source = .pending description)
    (inside : description.Contained source.Mentions source.Mentions) :
    Stage source (extend origins workspace.cells.size cell)
        (description.build.outcome (workspace.counted cell)).2
      ∧ Agree (Parser.Twin (Places (extend origins workspace.cells.size cell)
            (description.build.outcome (workspace.counted cell)).2.cells.size
            ((origins cell).part source)))
          (description.build.outcome (workspace.counted cell)).1
          (description.build.outcome source).1 := by
  have grown := description.build_grows (workspace.counted cell)
  have counted : (workspace.counted cell).grammar = source.grammar := stage.grammar_eq
  obtain ⟨abreast, agree⟩ := contained.build_again counted stage.kept_eq inside
  rw [Workspace.counted_size] at abreast agree
  generalize description.build.outcome (workspace.counted cell) = built at *
  have sizes : workspace.cells.size ≤ built.2.cells.size := by
    simpa only [Workspace.counted_size] using grown.size_le
  have same : ∀ other < workspace.cells.size,
      extend origins workspace.cells.size cell other = origins other :=
    fun other old => extend_of_lt old cell
  -- a rule of this building and the rule with its number in the first one have one origin
  have reads {other number : Nat} (paired : (contained.ground workspace.cells.size).Pairs
      built.2.cells.size other number) := stage.places_of_pairs contained cell sizes paired
  refine ⟨⟨Nat.le_trans stage.size_le sizes, abreast.grammars.1, abreast.kept_eq, ?_, ?_, ?_⟩,
    agree.mono fun _ _ twin => twin.mono fun _ _ => reads⟩
  · intro other small
    rw [same other (Nat.lt_of_lt_of_le small stage.size_le), stage.given_eq other small]
  · intro other bound
    by_cases old : other < workspace.cells.size
    · rw [grown.nameOf_eq (by rwa [Workspace.counted_size]), Workspace.counted_nameOf,
        same other old, stage.names other old]
    · have new := new_of_not_lt contained old bound
      rw [← abreast.names new, extend, if_neg old, Origin.name, Origin.home_made pending]
      rfl
  · intro other bound
    by_cases old : other < workspace.cells.size
    · rw [grown.bindingOf_eq (by rwa [Workspace.counted_size]), Workspace.counted_bindingOf,
        same other old]
      exact (stage.bindings other old).mono sizes same
    · -- a new rule is bound as its twin is where the description was built at first
      have new := new_of_not_lt contained old bound
      have twin := (abreast.bindings new).mono fun _ _ => reads
      rw [extend, if_neg old]
      refine .first ?_
      rw [Origin.binding, Origin.home_made pending]
      exact twin

/-- A rule may be bound to what was built from it. -/
theorem withBody (stage : Stage source origins workspace) {cell : Nat}
    (bound : cell < workspace.cells.size) {description : Description} {body copy : Parser}
    (pending : (origins cell).binding source = .pending description)
    (made : (description.build.outcome source).1 = .ok copy) (callable : copy.constant? = none)
    (twin : body.Twin (Places origins workspace.cells.size ((origins cell).part source)) copy) :
    Stage source origins (workspace.withBody cell body) where
  size_le := by
    rw [Workspace.withBody_size]
    exact stage.size_le
  grammar_eq := stage.grammar_eq
  kept_eq := stage.kept_eq
  given_eq := stage.given_eq
  names other inside := by
    rw [Workspace.withBody_size] at inside
    rw [Workspace.withBody_nameOf, stage.names other inside]
  bindings other inside := by
    rw [Workspace.withBody_size] at inside ⊢
    rw [Workspace.withBody_bindingOf bound]
    by_cases here : other = cell
    · rw [if_pos here, here]
      exact .built pending made callable twin
    · rw [if_neg here]
      exact stage.bindings other inside

/-- **Resolving a rule gives what the origin of the rule says**, at any stage, and leads to another
stage, in which the rules that were there have the same origins. -/
theorem resolve (stage : Stage source origins workspace) (contained : source.Contained) {cell : Nat}
    (bound : cell < workspace.cells.size) :
    ∃ later, (∀ other < workspace.cells.size, later other = origins other)
      ∧ workspace.cells.size ≤ ((Workspace.resolve cell).outcome workspace).2.cells.size
      ∧ Stage source later ((Workspace.resolve cell).outcome workspace).2
      ∧ Agree (Parser.Twin (Places later
            ((Workspace.resolve cell).outcome workspace).2.cells.size
            ((origins cell).reading source)))
          ((Workspace.resolve cell).outcome workspace).1 ((origins cell).parser source) := by
  rw [Workspace.outcome_resolve]
  have bears := stage.bindings cell bound
  generalize held : workspace.bindingOf cell = binding at bears
  cases bears with
  | built pending made callable twin =>
    refine ⟨origins, fun _ _ => rfl, Nat.le_refl _, stage, ?_⟩
    rw [Origin.parser, Origin.reading, pending]
    dsimp only
    rw [made]
    dsimp only
    rw [callable]
    exact .ok twin
  | first twin =>
    generalize first : (origins cell).binding source = copy at twin
    cases twin with
    | undefined =>
      refine ⟨origins, fun _ _ => rfl, Nat.le_refl _, stage, ?_⟩
      rw [Origin.parser, first, stage.names cell bound]
      exact .error _
    | resolved twin =>
      refine ⟨origins, fun _ _ => rfl, Nat.le_refl _, stage, ?_⟩
      rw [Origin.parser, Origin.reading, first]
      exact .ok twin
    | @pending description inside =>
      -- nobody has built the rule so far; it is built now from the description that it had at first
      obtain ⟨next, agree⟩ := stage.build contained first inside
      have grown := (description.build_grows (workspace.counted cell)).size_le
      rw [Workspace.counted_size] at grown
      have here : extend origins _ cell cell = origins cell := extend_of_lt bound cell
      rw [Origin.parser, Origin.reading, first]
      dsimp only
      generalize description.build.outcome (workspace.counted cell) = built at *
      generalize made : (description.build.outcome source).1 = copied at *
      obtain ⟨answer, after⟩ := built
      cases agree with
      | error fault =>
        exact ⟨_, fun other old => extend_of_lt old cell, grown, next, .error fault⟩
      | @ok body copy twin =>
        dsimp only
        rw [twin.constant?_eq, stage.names cell bound]
        cases callable : body.constant? with
        | some value =>
          exact ⟨_, fun other old => extend_of_lt old cell, grown, next, .error _⟩
        | none =>
          refine ⟨_, fun other old => extend_of_lt old cell, ?_, ?_, .ok ?_⟩
          · rw [Workspace.withBody_size]
            exact grown
          · exact next.withBody (Nat.lt_of_lt_of_le bound grown) (here ▸ first) made
              (twin.constant?_eq.trans callable) (here ▸ twin)
          · rw [Workspace.withBody_size]
            exact twin

end Stage

end Peg
