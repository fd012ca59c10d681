import Peg.Fault

/-! # Traces

A traced parse reports each entry into a parser and each exit from it. A tracer sees the events one
by one; it may keep them, print them, or refuse one, which stops the parse. -/

namespace Peg

/-- What an event reports. -/
inductive EventKind where
  /-- A parser is entered. -/
  | enter
  /-- A parser matched. -/
  | succeed
  /-- A parser failed. -/
  | fail
deriving DecidableEq, Repr

/-- The name of a kind of event. -/
def EventKind.name : EventKind → String
  | .enter => "enter"
  | .succeed => "succeed"
  | .fail => "fail"

/-- An entry into a parser or an exit from it. -/
structure Event where
  /-- What happened. -/
  kind : EventKind
  /-- The label of the parser. -/
  name : String
  /-- How many traced parsers were open when this one was entered. -/
  depth : Nat
  /-- The offset in the whole input. -/
  position : Int
  /-- The value or the payload at an exit. -/
  value : Value

/-- A written form cut to forty characters, three of them dots. -/
def shorten (text : String) : String :=
  let content := text.toList
  if content.length ≤ 40 then text else String.ofList (content.take 37 ++ ['.', '.', '.'])

/-- The line that reports an event, indented by its depth. -/
def Event.line (indent : String) (event : Event) : String :=
  let pad := String.join (List.replicate event.depth indent)
  match event.kind with
  | .enter => s!"[TRACE] {pad}> {event.name} @{event.position}"
  | .succeed =>
    s!"[TRACE] {pad}< {event.name} ok @{event.position} " ++ shorten event.value.written
  | .fail =>
    s!"[TRACE] {pad}< {event.name} FAIL @{event.position} " ++ shorten event.value.written

/-- The event can be printed. Entries carry no value. -/
def Event.isPrintable (event : Event) : Bool :=
  event.kind == .enter || event.value.isWritable

/-- The lines of several events, each ended by a line feed. -/
def eventLines (indent : String) (events : List Event) : String :=
  String.join (events.map fun event => event.line indent ++ "\n")

/-- The names in the events of one kind. -/
def eventNames (kind : EventKind) (events : List Event) : List String :=
  (events.filter (·.kind == kind)).map (·.name)

/-- A tracer is told the events seen so far, latest first, and the next one. It answers `none` to
accept the event, or the fault with which it refuses it. -/
abbrev Tracer := List Event → Event → Option Fault

namespace Tracer

/-- Accepts every event. -/
def recording : Tracer := fun _ _ => none

/-- Accepts the events that can be printed. -/
def printing : Tracer := fun _ event =>
  if event.isPrintable then none else some .integerUnwritable

/-- Accepts a fixed number of events and refuses the next. A negative number is never used up. -/
def limited (count : Int) : Tracer := fun seen event =>
  if count < 0 || (seen.length : Int) < count then none
  else some (.tracer event.kind.name event.name)

end Tracer

end Peg
