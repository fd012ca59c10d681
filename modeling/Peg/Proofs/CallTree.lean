import Peg.Proofs.Rest

/-! # Every trace is a call tree

What a tracer is told is a word of brackets: the entry into a parser opens one, the exit closes it,
and what the parser calls is told in between.

* **`Bracketed`** are the words in which each entry is closed by one exit of the same parser at the
  same depth, at offsets that fit. In them the depth of an event is the number of parsers that are
  open around it (`Bracketed.depth_eq`).
* **`Evaluates.tells`**: by induction on the evaluation, a job tells such a word, and one that a
  fault stops tells the first part of one.
* **`trace_is_bracketed`** says this of a whole parse, where the word is the bracket of its
  parser. -/

namespace Peg

/-! ## Words of brackets -/

/-- What an event does to the number of open parsers. -/
def Event.change (event : Event) : Int :=
  match event.kind with
  | .enter => 1
  | _ => -1

/-- How many parsers some events leave open. -/
def openAfter : List Event → Int
  | [] => 0
  | event :: later => event.change + openAfter later

/-- Without events no parser is open. -/
@[simp] theorem openAfter_nil : openAfter [] = 0 := rfl

/-- The first event counts with those after it. -/
@[simp] theorem openAfter_cons (event : Event) (events : List Event) :
    openAfter (event :: events) = event.change + openAfter events := rfl

/-- The parsers left open by two stretches of events add up. -/
@[simp] theorem openAfter_append (early late : List Event) :
    openAfter (early ++ late) = openAfter early + openAfter late := by
  induction early with
  | nil => rw [List.nil_append, openAfter_nil, zero_add]
  | cons event early inductionHypothesis =>
    rw [List.cons_append, openAfter_cons, openAfter_cons, inductionHypothesis, add_assoc]

/-- The depth of each event is the number of parsers open around it, where some are open before the
first one. The parser of an exit is not around it. -/
def Counted : Int → List Event → Prop
  | _, [] => True
  | opened, event :: later =>
    (event.depth : Int) + (if event.kind = .enter then 0 else 1) = opened
      ∧ Counted (opened + event.change) later

/-- Depths are counted through two stretches of events, where the second one begins with the parsers
that the first one leaves open. -/
theorem counted_append {opened : Int} {early late : List Event} :
    Counted opened (early ++ late)
      ↔ Counted opened early ∧ Counted (opened + openAfter early) late := by
  induction early generalizing opened with
  | nil => simp [Counted]
  | cons event early inductionHypothesis =>
    simp only [List.cons_append, Counted, inductionHypothesis, openAfter_cons, and_assoc, add_assoc]

/-- An exit closes an entry: it is that of the same parser at the same depth. A failure is where the
entry is, a match there or farther on in an input of the given length. -/
structure Event.Closes (size : Nat) (exit enter : Event) : Prop where
  /-- The parser is the same. -/
  name_eq : exit.name = enter.name
  /-- The depth is the same. -/
  depth_eq : exit.depth = enter.depth
  /-- The offset fits. -/
  place : exit.kind = .fail ∧ exit.position = enter.position
    ∨ exit.kind = .succeed ∧ enter.position ≤ exit.position ∧ exit.position ≤ size

/-- Words in which every entry is closed. Those outside of all other brackets are entries at the
given depth, and nothing is told of an offset before `low`. -/
inductive Bracketed (size : Nat) : Nat → Int → List Event → Prop
  /-- Nothing is told. -/
  | nil {depth : Nat} {low : Int} : Bracketed size depth low []
  /-- One word after another. -/
  | append {depth : Nat} {low : Int} {early late : List Event}
      (first : Bracketed size depth low early) (second : Bracketed size depth low late) :
      Bracketed size depth low (early ++ late)
  /-- An entry, what is told inside, and the exit. -/
  | node {low : Int} {enter exit : Event} {inside : List Event} (opens : enter.kind = .enter)
      (bound : low ≤ enter.position)
      (content : Bracketed size (enter.depth + 1) enter.position inside)
      (closes : exit.Closes size enter) :
      Bracketed size enter.depth low (enter :: inside ++ [exit])

/-- What closes an entry is an exit, so it leaves one parser less open. -/
theorem Event.Closes.change {size : Nat} {exit enter : Event} (closes : exit.Closes size enter) :
    exit.change = -1 := by
  obtain ⟨kind, -⟩ | ⟨kind, -⟩ := closes.place <;> simp only [Event.change, kind]

/-- A parser is left no earlier in the input than it was entered. -/
theorem Event.Closes.position_le {size : Nat} {exit enter : Event}
    (closes : exit.Closes size enter) : enter.position ≤ exit.position := by
  obtain ⟨-, same⟩ | ⟨-, bound, -⟩ := closes.place
  · exact same.ge
  · exact bound

namespace Bracketed

variable {size depth : Nat} {low : Int} {word : List Event}

/-- What starts at an offset starts after any earlier one. -/
theorem mono (bracketed : Bracketed size depth low word) {lower : Int} (bound : lower ≤ low) :
    Bracketed size depth lower word := by
  induction bracketed with
  | nil => exact .nil
  | append _ _ first second => exact .append (first bound) (second bound)
  | node opens start content closes _ => exact .node opens (bound.trans start) content closes

/-- Nothing is told of an offset before the lowest one. -/
theorem low_le (bracketed : Bracketed size depth low word) :
    ∀ event ∈ word, low ≤ event.position := by
  induction bracketed with
  | nil => exact List.forall_mem_nil _
  | append _ _ first second => exact List.forall_mem_append.2 ⟨first, second⟩
  | node opens bound _ closes inside =>
    refine List.forall_mem_append.2 ⟨List.forall_mem_cons.2 ⟨bound, ?_⟩, ?_⟩
    · intro event member
      exact bound.trans (inside event member)
    · exact List.forall_mem_singleton.2 (bound.trans closes.position_le)

/-- In the end nothing is open. -/
theorem openAfter_eq (bracketed : Bracketed size depth low word) : openAfter word = 0 := by
  induction bracketed with
  | nil => rfl
  | append _ _ first second => rw [openAfter_append, first, second, add_zero]
  | @node _ enter exit inside opens _ _ closes content =>
    have enters : enter.change = 1 := by simp only [Event.change, opens]
    simp only [openAfter_append, openAfter_cons, openAfter_nil, content, enters, closes.change]
    decide

/-- The depths are the numbers of open parsers. -/
theorem counted (bracketed : Bracketed size depth low word) : Counted depth word := by
  induction bracketed with
  | nil => trivial
  | append first _ early late =>
    rw [counted_append, first.openAfter_eq, add_zero]
    exact ⟨early, late⟩
  | @node _ enter exit inside opens _ content closes inductionHypothesis =>
    have enters : enter.change = 1 := by simp only [Event.change, opens]
    have leaves : exit.kind ≠ .enter := by
      obtain ⟨kind, -⟩ | ⟨kind, -⟩ := closes.place <;> simp [kind]
    rw [counted_append, openAfter_cons, content.openAfter_eq, enters]
    refine ⟨⟨by simp [opens], ?_⟩, ?_, trivial⟩
    · rw [enters]
      exact_mod_cast inductionHypothesis
    · simp [closes.depth_eq, leaves]

/-- **The depth of an event is the number of parsers open around it**: for an entry those that the
events before it leave open, for an exit one less, since its own parser is among them. -/
theorem depth_eq {early late : List Event} {event : Event}
    (bracketed : Bracketed size depth low (early ++ event :: late)) :
    (event.depth : Int) + (if event.kind = .enter then 0 else 1) = depth + openAfter early :=
  (counted_append.1 bracketed.counted).2.1

end Bracketed

/-! ## What is told from one state to another -/

namespace State

/-- How many traced parsers are open in the current parse. -/
def depth? (state : State) : Option Nat := state.context.map (·.depth)

/-- Since the first state a job on an input has told a word, which `more` would make bracketed. -/
structure Reports (input : Value) (state after : State) (word more : List Event) : Prop where
  /-- The word has been told. -/
  events_eq : after.events = word.reverse ++ state.events
  /-- Without a tracer nothing is told. -/
  silent : state.tracer? = none → word = []
  /-- What is told is at the depth of the parse, from the offset of the input on. -/
  bracketed : ∀ context, state.context = some context →
    Bracketed context.source.length context.depth
      ((context.source.length : Int) - input.length) (word ++ more)

/-- Since the first state a job on an input has told a whole word, and all is closed again. -/
structure Tells (input : Value) (state after : State) : Prop where
  /-- The parse is the same. -/
  setting_eq : after.setting = state.setting
  /-- As many parsers are open as before. -/
  depth_eq : after.depth? = state.depth?
  /-- The word is bracketed. -/
  whole : ∃ word, state.Reports input after word []

/-- Since the first state a job on an input has told the first part of a word. -/
def Breaks (input : Value) (state after : State) : Prop :=
  ∃ word more, state.Reports input after word more

variable {state between after : State} {input rest : Value}

/-- A whole word is a first part of itself. -/
theorem Tells.breaks (tells : state.Tells input after) : state.Breaks input after := by
  obtain ⟨word, reports⟩ := tells.whole
  exact ⟨word, [], reports⟩

/-- Nothing has been told. -/
theorem Reports.of_events_eq (same : after.events = state.events) :
    state.Reports input after [] [] :=
  ⟨same, fun _ => rfl, fun _ _ => .nil⟩

/-- Nothing has been told and the parse stands where it stood. -/
theorem Tells.of_eq (events : after.events = state.events) (setting : after.setting = state.setting)
    (depth : after.depth? = state.depth?) : state.Tells input after :=
  ⟨setting, depth, [], .of_events_eq events⟩

/-- A state with the setting and the depth of another one has a context like that one. -/
theorem exists_context_of_eq {context : Context} (setting : after.setting = state.setting)
    (depth : after.depth? = state.depth?) (current : state.context = some context) :
    ∃ other, after.context = some other ∧ other.source = context.source
      ∧ other.tracer = context.tracer ∧ other.depth = context.depth := by
  rw [State.setting, State.setting, current] at setting
  obtain ⟨other, found, same⟩ := Option.map_eq_some_iff.1 setting
  rw [depth?, depth?, current, found] at depth
  obtain ⟨source, tracer⟩ := Prod.mk.inj same
  exact ⟨other, found, source, tracer, Option.some.inj depth⟩

/-- After a whole word the parse goes on with a rest of the input. -/
theorem Reports.append {early late more : List Event} (first : state.Reports input between early [])
    (setting : between.setting = state.setting) (depth : between.depth? = state.depth?)
    (second : between.Reports rest after late more) (bound : rest.length ≤ input.length) :
    state.Reports input after (early ++ late) more where
  events_eq := by
    rw [second.events_eq, first.events_eq, List.reverse_append, List.append_assoc]
  silent quiet := by
    have still : between.tracer? = none := by
      cases current : state.context with
      | none =>
        rw [State.setting, State.setting, current, Option.map_none, Option.map_eq_none_iff]
          at setting
        rw [tracer?, setting]
        rfl
      | some context =>
        obtain ⟨other, found, -, same, -⟩ := exists_context_of_eq setting depth current
        rw [tracer?, current] at quiet
        rw [tracer?, found]
        exact same.trans quiet
    rw [first.silent quiet, second.silent still]
    rfl
  bracketed context current := by
    obtain ⟨other, found, source, -, same⟩ := exists_context_of_eq setting depth current
    have early := first.bracketed context current
    have late := second.bracketed other found
    rw [source, same] at late
    rw [List.append_nil] at early
    rw [List.append_assoc]
    exact early.append (late.mono (by omega))

/-- Two whole words in a row are a whole word, where the second job goes on in what the first one
has left. -/
theorem Tells.trans (first : state.Tells input between) (second : between.Tells rest after)
    (bound : rest.length ≤ input.length) : state.Tells input after := by
  obtain ⟨early, early_reports⟩ := first.whole
  obtain ⟨late, late_reports⟩ := second.whole
  exact ⟨second.setting_eq.trans first.setting_eq, second.depth_eq.trans first.depth_eq, _,
    early_reports.append first.setting_eq first.depth_eq late_reports bound⟩

/-- A whole word and the first part of another one are the first part of a word. -/
theorem Tells.trans_breaks (first : state.Tells input between) (second : between.Breaks rest after)
    (bound : rest.length ≤ input.length) : state.Breaks input after := by
  obtain ⟨early, early_reports⟩ := first.whole
  obtain ⟨late, more, late_reports⟩ := second
  exact ⟨_, more, early_reports.append first.setting_eq first.depth_eq late_reports bound⟩

/-- A note tells nothing. -/
theorem note_tells {payload place : Value} (done : state.note payload place = .ok after)
    (input : Value) : state.Tells input after := by
  refine .of_eq ?_ (note_setting done) ?_
  · obtain rfl | ⟨context, -, rfl⟩ := note_cases done <;> rfl
  · obtain rfl | ⟨context, current, rfl⟩ := note_cases done
    · rfl
    · simp only [depth?, current, Option.map_some]

/-- Bringing back a record tells nothing. -/
theorem restoreRecord_tells (state : State) (saved : Option Record) (input : Value) :
    state.Tells input (state.restoreRecord saved) := by
  refine .of_eq ?_ (state.restoreRecord_setting saved) ?_
  · cases saved <;> rfl
  · cases saved with
    | none => rfl
    | some record =>
      simp only [depth?, restoreRecord, Option.map_map]
      rfl

end State

/-- Where a job on an input has ended, a whole word has been told, or with a fault the first part of
one. -/
def Ending.Tells (input : Value) (state : State) (last : Ending) : Prop :=
  match last.answer with
  | .ok _ => state.Tells input last.state
  | .error _ => state.Breaks input last.state

namespace Ending.Tells

variable {input rest : Value} {state between : State} {last : Ending}

/-- What has told a whole word has told it whatever the answer. -/
theorem of_state (tells : state.Tells input last.state) : last.Tells input state := by
  obtain ⟨answer, after⟩ := last
  cases answer with
  | ok outcome => exact tells
  | error fault => exact tells.breaks

/-- A whole word is a first part of itself. -/
theorem breaks (tells : last.Tells input state) : state.Breaks input last.state := by
  obtain ⟨answer, after⟩ := last
  cases answer with
  | ok outcome => exact State.Tells.breaks tells
  | error fault => exact tells

/-- After a whole word a job goes on with a rest of the input. -/
theorem after (tail : last.Tells rest between) (head : state.Tells input between)
    (bound : rest.length ≤ input.length) : last.Tells input state := by
  obtain ⟨answer, after⟩ := last
  cases answer with
  | ok outcome => exact head.trans tail bound
  | error fault => exact head.trans_breaks tail bound

/-- A noted failure tells nothing. -/
theorem failOn (state : State) (payload place input : Value) :
    (state.failOn payload place).Tells input state := by
  obtain ⟨noted, done, same⟩ | ⟨fault, same⟩ := state.failOn_cases payload place
  · rw [same]
    exact State.note_tells done input
  · rw [same]
    exact .of_state (.of_eq rfl rfl rfl)

/-- A terminal tells nothing itself. -/
theorem read (leaf : Terminal) (input : Value) (state : State) :
    (leaf.read input state).Tells input state := by
  obtain ⟨value, rest, -, same⟩ | ⟨payload, -, same⟩ | ⟨fault, same⟩ :=
    leaf.read_cases input state
  · rw [same]
    exact .of_state (.of_eq rfl rfl rfl)
  · rw [same]
    exact failOn state payload input input
  · rw [same]
    exact .of_state (.of_eq rfl rfl rfl)

/-- A nested parse has no tracer, so it tells nothing. -/
theorem unnest {value : Value}
    (nested : last.Tells value { between with context := some { source := value } })
    (form : NestedForm) (rest input : Value) :
    (last.unnest form between.context rest).Tells input between := by
  have silent : last.state.events = between.events := by
    obtain ⟨word, more, reports⟩ := nested.breaks
    rw [reports.events_eq, reports.silent rfl]
    rfl
  obtain ⟨result, same⟩ | ⟨fault, same⟩ := last.unnest_cases form between.context rest
  · rw [same]
    exact State.Tells.of_eq silent rfl rfl
  · rw [same]
    exact ⟨[], [], .of_events_eq silent⟩

end Ending.Tells

/-! ## Labelled parsers -/

/-- The event for the entry into a labelled parser. -/
def Context.entry (context : Context) (label : String) (input : Value) : Event :=
  ⟨.enter, label, context.depth, (context.source.length : Int) - input.length, .null⟩

/-- The event for the exit from a labelled parser. -/
def Context.exit (context : Context) (label : String) (outcome : Outcome) : Event :=
  ⟨outcome.exitKind, label, context.depth, (context.source.length : Int) - outcome.rest.length,
    outcome.value⟩

/-- An outcome that fits the input closes the bracket of the parser. -/
theorem Context.exit_closes {job : Job} {outcome : Outcome} {after : State}
    (fits : Ending.Fits job ⟨.ok outcome, after⟩) (whole : job.entry = job.input)
    (context : Context) (label : String) :
    (context.exit label outcome).Closes context.source.length
      (context.entry label job.input) := by
  refine ⟨rfl, rfl, ?_⟩
  cases outcome with
  | ok value rest =>
    have bound := Value.IsRestOf.length_le fits
    refine .inr ⟨rfl, ?_, ?_⟩
    · simp only [exit, entry, Outcome.rest]
      omega
    · simp only [exit, Outcome.rest]
      omega
  | fail payload rest =>
    have same : rest = job.input := fits.trans whole
    refine .inl ⟨rfl, ?_⟩
    simp only [exit, entry, Outcome.rest, same]

section Label

variable {state entered after : State} {context : Context} {label : String} {input : Value}

/-- A report that is accepted adds an event at the offset of the rest. -/
theorem State.eq_of_emit (current : state.context = some context) (watched : context.tracer.isSome)
    {kind : EventKind} {name : String} {depth : Nat} {rest value : Value}
    (done : state.emit kind name depth rest value = .ok after) :
    after = { state with
      events := ⟨kind, name, depth, (context.source.length : Int) - rest.length, value⟩
        :: state.events } := by
  obtain ⟨tracer, watched⟩ := Option.isSome_iff_exists.1 watched
  rw [State.emit_of_watched current watched] at done
  obtain ⟨position, found, done⟩ := exists_of_bind_eq_ok done
  obtain ⟨-, -, rfl⟩ := Failure.positionIn_eq found
  split at done
  · cases done
  · cases done
    rfl

/-- A parse that is watched has a tracer. -/
theorem State.tracer?_ne_none (current : state.context = some context)
    (watched : context.tracer.isSome) : state.tracer? ≠ none := by
  rw [State.tracer?, current]
  exact Option.isSome_iff_ne_none.1 watched

/-- What is told under a label is told after the entry, and an exit would close it. -/
theorem State.Reports.enclose (current : state.context = some context)
    (watched : context.tracer.isSome)
    (entry : state.emit .enter label context.depth input .null = .ok entered)
    {word more : List Event}
    (inside : (entered.setDepth (context.depth + 1)).Reports input after word more) {exit : Event}
    (closes : exit.Closes context.source.length (context.entry label input)) :
    state.Reports input after (context.entry label input :: word) (more ++ [exit]) := by
  cases State.eq_of_emit current watched entry
  refine ⟨?_, fun quiet => ?_, fun other same => ?_⟩
  · rw [inside.events_eq, List.reverse_cons, List.append_assoc]
    rfl
  · exact absurd quiet (State.tracer?_ne_none current watched)
  · obtain rfl : context = other := Option.some.inj (current.symm.trans same)
    have content := inside.bracketed { context with depth := context.depth + 1 } (by
      rw [State.setDepth, current, Option.map_some])
    have node := Bracketed.node rfl le_rfl content closes
    rw [List.cons_append, ← List.append_assoc]
    exact node

/-- Once the exit has been told, the word is whole. -/
theorem State.Reports.close {word : List Event} {exit : Event} {told : State}
    (reports : state.Reports input after word [exit]) (watched : state.tracer? ≠ none)
    (events : told.events = exit :: after.events) : state.Reports input told (word ++ [exit]) [] :=
  ⟨by rw [events, reports.events_eq, List.reverse_append]; rfl, fun quiet => absurd quiet watched,
    fun context current => by rw [List.append_nil]; exact reports.bracketed context current⟩

/-- A labelled parser that is left has told its entry, what is told under the label, and its
exit. -/
theorem State.exists_inside {job : Job} {ended told : State} {outcome : Outcome}
    (current : state.context = some context) (watched : context.tracer.isSome)
    (entry : state.emit .enter label context.depth job.input .null = .ok entered)
    (body : (entered.setDepth (context.depth + 1)).Tells job.input ended)
    (exit : (ended.setDepth context.depth).emit outcome.exitKind label context.depth outcome.rest
      outcome.value = .ok told)
    (closes : (context.exit label outcome).Closes context.source.length
      (context.entry label job.input)) :
    told.setting = state.setting ∧ told.depth? = state.depth?
      ∧ ∃ inside, Bracketed context.source.length (context.depth + 1)
          (context.entry label job.input).position inside
        ∧ state.Reports job.input told
          (context.entry label job.input :: inside ++ [context.exit label outcome]) [] := by
  obtain ⟨setting, depth, word, inside⟩ := body
  have deeper : (entered.setDepth (context.depth + 1)).context
      = some { context with depth := context.depth + 1 } := by
    rw [State.setDepth, State.emit_context entry, current, Option.map_some]
  obtain ⟨other, found, source, tracer, -⟩ := State.exists_context_of_eq setting depth deeper
  have back : (ended.setDepth context.depth).context
      = some { other with depth := context.depth } := by
    rw [State.setDepth, found, Option.map_some]
  have stillWatched : other.tracer.isSome := by
    rw [tracer]
    exact watched
  cases State.eq_of_emit back stillWatched exit
  have content := inside.bracketed _ deeper
  rw [List.append_nil] at content
  refine ⟨?_, ?_, word, content, ?_⟩
  · rw [State.setting, State.setting, back, current]
    simp only [Option.map_some, source, tracer]
  · rw [State.depth?, State.depth?, back, current]
    rfl
  · refine (inside.enclose current watched entry closes).close
      (State.tracer?_ne_none current watched) ?_
    simp only [Context.exit, source]
    rfl

/-- A job under a label tells its bracket, or with a fault the first part of it. -/
theorem Ending.Tells.leave {job : Job} {last : Ending} (current : state.context = some context)
    (watched : context.tracer.isSome)
    (entry : state.emit .enter label context.depth job.input .null = .ok entered)
    (body : last.Tells job.input (entered.setDepth (context.depth + 1))) (fits : last.Fits job)
    (whole : job.entry = job.input) :
    (last.leave label context.depth).Tells job.input state := by
  obtain ⟨answer, ended⟩ := last
  -- where there is no exit, that of a failure would close the bracket
  have closed : (context.exit label (.fail .null job.input)).Closes context.source.length
      (context.entry label job.input) := ⟨rfl, rfl, .inl ⟨rfl, rfl⟩⟩
  cases answer with
  | error fault =>
    obtain ⟨word, more, inside⟩ := body
    exact ⟨_, _, inside.enclose current watched entry closed⟩
  | ok outcome =>
    simp only [Ending.leave]
    cases exit : (ended.setDepth context.depth).emit outcome.exitKind label context.depth
        outcome.rest outcome.value with
    | error fault =>
      obtain ⟨word, inside⟩ := body.whole
      obtain ⟨events, silent, bracketed⟩ := inside.enclose current watched entry closed
      exact ⟨_, _, events, silent, bracketed⟩
    | ok told =>
      obtain ⟨setting, depth, inside, -, reports⟩ := State.exists_inside current watched entry body
        exit (context.exit_closes fits whole label)
      exact ⟨setting, depth, _, reports⟩

end Label

/-! ## Evaluation -/

/-- Labels stand around parsers that hand back their own input when they fail. -/
def Job.Whole : Job → Prop
  | .under _ job => job.entry = job.input ∧ job.Whole
  | _ => True

/-- A job with built-in parsers and rules, with labels around whole parsers. -/
structure Job.Proper (job : Job) (state : State) : Prop where
  /-- The parsers are built in. -/
  builtIn : job.BuiltIn
  /-- The rules are built in. -/
  rules : state.workspace.BuiltIn
  /-- Labels stand around whole parsers. -/
  whole : job.Whole

namespace Job.Proper

variable {job later : Job} {state between : State} {parser : Parser} {input value middle : Value}

/-- A built-in parser on the input of a proper job is proper. -/
theorem call (proper : job.Proper state) (builtIn : parser.BuiltIn) :
    (Job.call parser job.input).Proper state :=
  ⟨builtIn, proper.rules, trivial⟩

/-- What comes after a proper job is proper. -/
theorem next {outcome : Outcome} (proper : job.Proper state)
    (head : Evaluates job state ⟨.ok outcome, between⟩) (builtIn : later.BuiltIn)
    (whole : later.Whole) : later.Proper between :=
  ⟨builtIn, (head.fits proper.builtIn proper.rules).2, whole⟩

/-- What a match leaves is not longer than the input, and what goes on there is proper. -/
theorem after_match (proper : (Job.call parser input).Proper state)
    (head : Evaluates (.call parser input) state ⟨.ok (.ok value middle), between⟩) :
    middle.length ≤ input.length
      ∧ ∀ later : Job, later.BuiltIn → later.Whole → later.Proper between := by
  have isRest : middle.IsRestOf input := (head.fits proper.builtIn proper.rules).1
  exact ⟨isRest.length_le, fun later builtIn whole => proper.next head builtIn whole⟩

/-- What stands under a label is proper after the entry has been reported. -/
theorem inside {label : String} {entered : State} (proper : (Job.under label job).Proper state)
    {kind : EventKind} {name : String} {depth : Nat} {rest value : Value}
    (entry : state.emit kind name depth rest value = .ok entered) (deeper : Nat) :
    job.Proper (entered.setDepth deeper) where
  builtIn := proper.builtIn
  rules := by
    rw [State.setDepth_workspace, State.emit_workspace entry]
    exact proper.rules
  whole := proper.whole.2

/-- The parser of a rule is proper once the rule is resolved. -/
theorem resolved {cell : Nat} {body : Parser} {workspace : Workspace} {name : String}
    (proper : (Job.bare (.rule cell) input).Proper state)
    (found : (Workspace.resolve cell).run.run state.workspace = (.ok body, workspace)) :
    (Job.under name (.call body input)).Proper { state with workspace := workspace } := by
  obtain ⟨builtIn, rules⟩ := proper.rules.resolve found
  exact ⟨builtIn, rules, rfl, trivial⟩

end Job.Proper

/-- A job starts with the call of a parser on its input. -/
theorem Job.exists_call_of_first? {job first : Job} (start : job.first? = some first) :
    ∃ parser, first = .call parser job.input := by
  revert start
  fun_cases Job.first? job <;> intro start <;> cases start <;> exact ⟨_, rfl⟩

/-- **What a job tells is bracketed.** By induction on the evaluation: a label puts a bracket around
what is told under it, parts tell their words one after the other on rests of the input, and nothing
else tells anything. -/
theorem Evaluates.tells {job : Job} {state : State} {last : Ending}
    (evaluates : Evaluates job state last) (proper : job.Proper state) :
    last.Tells job.input state := by
  induction evaluates with
  | unlabelled _ _ body => exact body ⟨proper.builtIn, proper.rules, trivial⟩
  | labelled _ _ body => exact body ⟨proper.builtIn, proper.rules, rfl, trivial⟩
  | unwatched _ _ body => exact body ⟨proper.builtIn, proper.rules, proper.whole.2⟩
  | refused => exact State.Tells.breaks (.of_eq rfl rfl rfl)
  | @watched label job state entered context last current watched entry inside body =>
    have deeper := proper.inside entry (context.depth + 1)
    exact (body deeper).leave current watched entry
      (inside.fits deeper.builtIn deeper.rules).1 proper.whole.1
  | terminal => exact .read _ _ _
  | foreign =>
    -- a terminal written by hand may hand back anything, but it is not built in
    cases proper.builtIn
  | sequence _ parts =>
    cases proper.builtIn with
    | sequence head tail =>
      exact parts ⟨List.forall_mem_cons.2 ⟨head, tail⟩, proper.rules, trivial⟩
  | allNil => exact State.Tells.of_eq rfl rfl rfl
  | allCons head _ first rest =>
    obtain ⟨builtIn, others⟩ := List.forall_mem_cons.1 proper.builtIn
    have part := proper.call builtIn
    obtain ⟨bound, next⟩ := part.after_match head
    exact State.Tells.trans (first part) (rest (next _ others trivial)) bound
  | allFail _ first =>
    exact first (proper.call (List.forall_mem_cons.1 proper.builtIn).1)
  | allFailLater head _ first rest =>
    obtain ⟨builtIn, others⟩ := List.forall_mem_cons.1 proper.builtIn
    have part := proper.call builtIn
    obtain ⟨bound, next⟩ := part.after_match head
    exact State.Tells.trans (first part) (rest (next _ others trivial)) bound
  | allRaiseLater head _ first rest =>
    obtain ⟨builtIn, others⟩ := List.forall_mem_cons.1 proper.builtIn
    have part := proper.call builtIn
    obtain ⟨bound, next⟩ := part.after_match head
    exact State.Tells.trans_breaks (first part) (rest (next _ others trivial)) bound
  | choice _ alternatives =>
    cases proper.builtIn with
    | choice head tail => exact alternatives ⟨⟨head, tail⟩, proper.rules, trivial⟩
  | anyOk _ first => exact first (proper.call proper.builtIn.1)
  | anyLast _ first => exact first (proper.call proper.builtIn.1)
  | anyNext head _ first rest =>
    have part := proper.call proper.builtIn.1
    have others := List.forall_mem_cons.1 proper.builtIn.2
    exact (rest (part.next head others trivial)).after (first part) le_rfl
  | star _ rounds =>
    cases proper.builtIn with
    | star inside => exact rounds ⟨inside, proper.rules, trivial⟩
  | loopStop _ round => exact round (proper.call proper.builtIn)
  | loopMore head _ round more =>
    have part := proper.call proper.builtIn
    obtain ⟨bound, next⟩ := part.after_match head
    exact State.Tells.trans (round part) (more (next _ proper.builtIn trivial)) bound
  | loopRaiseLater head _ round more =>
    have part := proper.call proper.builtIn
    obtain ⟨bound, next⟩ := part.after_match head
    exact State.Tells.trans_breaks (round part) (more (next _ proper.builtIn trivial)) bound
  | plusFail _ round =>
    cases proper.builtIn with
    | plus inside => exact round (proper.call inside)
  | plusMore head _ round more =>
    cases proper.builtIn with
    | plus inside =>
      have part := proper.call inside
      obtain ⟨bound, next⟩ := part.after_match head
      exact State.Tells.trans (round part) (more (next _ inside trivial)) bound
  | plusRaiseLater head _ round more =>
    cases proper.builtIn with
    | plus inside =>
      have part := proper.call inside
      obtain ⟨bound, next⟩ := part.after_match head
      exact State.Tells.trans_breaks (round part) (more (next _ inside trivial)) bound
  | present _ head =>
    cases proper.builtIn with
    | optional inside => exact head (proper.call inside)
  | absent _ head =>
    cases proper.builtIn with
    | optional inside => exact head (proper.call inside)
  | aheadOk _ head =>
    cases proper.builtIn with
    | ahead inside => exact head (proper.call inside)
  | aheadFail _ head =>
    cases proper.builtIn with
    | ahead inside => exact head (proper.call inside)
  | notAheadFail _ head =>
    cases proper.builtIn with
    | notAhead inside =>
      exact (Ending.Tells.failOn _ _ _ _).after (head (proper.call inside)) le_rfl
  | notAheadOk _ head =>
    cases proper.builtIn with
    | notAhead inside =>
      exact State.Tells.trans (head (proper.call inside)) (State.restoreRecord_tells _ _ _) le_rfl
  | transformOk _ head =>
    cases proper.builtIn with
    | transform inside => exact .of_state (head (proper.call inside))
  | transformFail _ head =>
    cases proper.builtIn with
    | transform inside => exact head (proper.call inside)
  | nestedOk first _ head nested =>
    cases proper.builtIn with
    | nested inside second =>
      have part := proper.call inside
      have inner := nested ⟨second, (first.fits part.builtIn part.rules).2, trivial⟩
      exact (inner.unnest _ _ _).after (head part) le_rfl
  | nestedFail _ head =>
    cases proper.builtIn with
    | nested inside second => exact head (proper.call inside)
  | traced _ inside =>
    cases proper.builtIn with
    | traced name body => exact inside (proper.call body)
  | unresolved => exact State.Tells.breaks (.of_eq rfl rfl rfl)
  | @resolved cell body input state workspace last found _ inside =>
    -- the workspace is not told of
    exact (inside (proper.resolved found)).after (.of_eq rfl rfl rfl) le_rfl
  | constant => exact State.Tells.breaks (.of_eq rfl rfl rfl)
  | raise start _ head =>
    obtain ⟨parser, rfl⟩ := Job.exists_call_of_first? start
    exact head ⟨proper.builtIn.first? start, proper.rules, trivial⟩

/-! ## Whole parses -/

section Parse

variable {state after : State} {context : Context} {outcome : Outcome}

/-- With a tracer, a job under a label that comes to an outcome tells its own bracket. -/
theorem Evaluates.exists_bracket_of_under {label : String} {job : Job}
    (evaluates : Evaluates (.under label job) state ⟨.ok outcome, after⟩)
    (proper : (Job.under label job).Proper state) (current : state.context = some context)
    (watched : context.tracer.isSome) :
    ∃ inside, Bracketed context.source.length (context.depth + 1)
        (context.entry label job.input).position inside
      ∧ state.Reports job.input after
        (context.entry label job.input :: inside ++ [context.exit label outcome]) [] := by
  generalize same : (⟨.ok outcome, after⟩ : Ending) = last at evaluates
  cases evaluates with
  | unwatched quiet => exact absurd quiet (State.tracer?_ne_none current watched)
  | refused => cases same
  | raise start => cases start
  | @watched _ _ _ entered other last found _ entry body =>
    obtain rfl : context = other := Option.some.inj (current.symm.trans found)
    -- the word inside is told one level deeper, between the two events of the label
    have deeper := proper.inside entry (context.depth + 1)
    have fits := (body.fits deeper.builtIn deeper.rules).1
    have tells := body.tells deeper
    obtain ⟨answer, ended⟩ := last
    obtain rfl : answer = .ok outcome := Ending.answer_of_leave (by rw [← same])
    simp only [Ending.leave] at same
    split at same
    · rename_i told exit
      cases same
      obtain ⟨-, -, inside⟩ := State.exists_inside current watched entry tells exit
        (context.exit_closes fits proper.whole.1 label)
      exact inside
    · cases same

/-- With a tracer, a built-in parser that comes to an outcome tells one bracket: its own if it has a
label, and for a rule that of the rule. -/
theorem Evaluates.exists_bracket {parser : Parser} {input : Value}
    (evaluates : Evaluates (.call parser input) state ⟨.ok outcome, after⟩)
    (proper : (Job.call parser input).Proper state) (current : state.context = some context)
    (watched : context.tracer.isSome) :
    ∃ label inside, Bracketed context.source.length (context.depth + 1)
        (context.entry label input).position inside
      ∧ state.Reports input after
        (context.entry label input :: inside ++ [context.exit label outcome]) [] := by
  cases evaluates with
  | @labelled _ _ label _ _ _ under =>
    exact ⟨label, under.exists_bracket_of_under ⟨proper.builtIn, proper.rules, rfl, trivial⟩ current
      watched⟩
  | unlabelled unlabelled bare =>
    cases proper.builtIn with
    | rule cell =>
      cases bare with
      | @resolved _ body _ _ workspace _ found under =>
        have bare : (Job.bare (.rule cell) input).Proper state :=
          ⟨proper.builtIn, proper.rules, trivial⟩
        obtain ⟨inside, content, events, silent, bracketed⟩ :=
          under.exists_bracket_of_under (bare.resolved found) current watched
        exact ⟨_, inside, content, events, silent, bracketed⟩
    | constant value => cases bare
    | _ => cases unlabelled

/-- At the start of a parse nothing has been told. -/
theorem State.Reports.of_initial {workspace : Workspace} {input : Value} {watcher : Option Tracer}
    {word more : List Event}
    (reports : (State.initial workspace input watcher).Reports input after word more) :
    after.events.reverse = word ∧ Bracketed input.length 0 0 (word ++ more) := by
  constructor
  · rw [reports.events_eq, State.initial, List.append_nil, List.reverse_reverse]
  · have bracketed := reports.bracketed _ rfl
    rw [sub_self] at bracketed
    exact bracketed

end Parse

/-- **Every trace is a call tree.** Let a parse with built-in parsers and any tracer end. Then

* if it comes to an outcome, its trace is the bracket of one parser: an entry at the start of the
  input, a bracketed word inside, and the exit at depth zero with the value and the offset of the
  rest that the outcome hands over. No parser is left open;
* if a fault stops it, its trace is the first part of a bracketed word;
* in either case the depth of each event is the number of parsers open around it, and its offset is
  not before the start of the input. -/
theorem trace_is_bracketed (workspace : Workspace) (parser : Parser) (input : Value)
    (tracer : Tracer) (builtIn : parser.BuiltIn) (rules : workspace.BuiltIn) (fuel : Nat)
    (last : Ending)
    (ended : run fuel (.call parser input) [] (.initial workspace input (some tracer))
      = some last) :
    (∀ outcome, last.answer = .ok outcome → last.state.depth? = some 0
      ∧ Bracketed input.length 0 0 last.state.events.reverse
      ∧ ∃ label inside, Bracketed input.length 1 0 inside
        ∧ last.state.events.reverse = ⟨.enter, label, 0, 0, .null⟩ :: inside
          ++ [⟨outcome.exitKind, label, 0, (input.length : Int) - outcome.rest.length,
            outcome.value⟩]) ∧
    (∀ fault, last.answer = .error fault →
      ∃ more, Bracketed input.length 0 0 (last.state.events.reverse ++ more)) ∧
    (∀ early event late, last.state.events.reverse = early ++ event :: late →
      (event.depth : Int) + (if event.kind = .enter then 0 else 1) = openAfter early
        ∧ 0 ≤ event.position) := by
  have proper : (Job.call parser input).Proper (.initial workspace input (some tracer)) :=
    ⟨builtIn, rules, trivial⟩
  have evaluates := exists_run_iff.1 ⟨fuel, ended⟩
  have tells := evaluates.tells proper
  refine ⟨fun outcome answer => ?_, fun fault answer => ?_, fun early event late split => ?_⟩
  · obtain ⟨_, after⟩ := last
    cases answer
    -- the outermost parser has a label, so its bracket is around all the others
    obtain ⟨label, inside, content, reports⟩ := evaluates.exists_bracket proper rfl rfl
    obtain ⟨told, bracketed⟩ := reports.of_initial
    rw [Context.entry, sub_self] at content
    rw [List.append_nil, ← told] at bracketed
    refine ⟨tells.depth_eq, bracketed, label, inside, content, ?_⟩
    rw [told, Context.entry, sub_self]
    rfl
  · obtain ⟨word, more, reports⟩ := tells.breaks
    obtain ⟨told, bracketed⟩ := reports.of_initial
    rw [← told] at bracketed
    exact ⟨more, bracketed⟩
  · -- depths are counted in any first part of a word, so it need not be a whole one
    obtain ⟨word, more, reports⟩ := tells.breaks
    obtain ⟨told, bracketed⟩ := reports.of_initial
    rw [← told, split, List.append_assoc, List.cons_append] at bracketed
    exact ⟨bracketed.depth_eq.trans (zero_add _), bracketed.low_le event (by simp)⟩

/-- The first alternative is given up at its second part, and its brackets are closed before the
second one is tried: eight events stand inside the bracket of the choice. -/
theorem trace_of_abandoned_alternative :
    ∃ after inside, run 40 (.call (.choice (.sequence (.terminal (.item (.ofString "a")))
        [.terminal (.item (.ofString "x"))]) [.terminal (.item (.ofString "a"))]) (.ofString "ab"))
          [] (.initial {} (.ofString "ab") (some .recording))
        = some ⟨.ok (.ok (.ofString "a") (.ofString "b")), after⟩
      ∧ after.depth? = some 0 ∧ inside.length = 8 ∧ Bracketed 2 1 0 inside
      ∧ after.events.reverse = ⟨.enter, "choice", 0, 0, .null⟩ :: inside
        ++ [⟨.succeed, "choice", 0, 1, .ofString "a"⟩] := by
  have first : (Parser.sequence (.terminal (.item (.ofString "a")))
      [.terminal (.item (.ofString "x"))]).BuiltIn :=
    .sequence (.terminal _) (List.forall_mem_singleton.2 (.terminal _))
  have builtIn := Parser.BuiltIn.choice first
    (List.forall_mem_singleton.2 (.terminal (.item (.ofString "a"))))
  obtain ⟨ok, -, -⟩ := trace_is_bracketed {} _ (.ofString "ab") .recording builtIn
    ⟨by simp, by simp⟩ 40 _ rfl
  obtain ⟨depth, -, label, inside, content, told⟩ := ok _ rfl
  have same : label = "choice" := by
    have head := congrArg List.head? told
    exact (congrArg Event.name (Option.some.inj head)).symm
  subst same
  have length : 8 + 1 + 1 = inside.length + 1 + 1 :=
    (congrArg List.length told).trans List.length_append
  exact ⟨_, inside, rfl, depth, by omega, content, told⟩

end Peg
