import Peg.Value

/-! # The farthest failure

While a parse runs it keeps a record of the failures at the farthest place reached so far: the
first payload noted there and all distinct ones in order. Places are compared by how much input is
left, so a shorter rest is farther. -/

namespace Peg

/-- The failures noted at the farthest place. -/
structure Farthest where
  /-- The first payload noted there. -/
  payload : Value
  /-- The input left there. -/
  rest : Value
  /-- Every distinct payload noted there, in order. -/
  alternatives : List Value

/-- The record of a parse; `none` before the first failure. -/
abbrev Record := Option Farthest

namespace Farthest

/-- The place with a single payload. -/
def single (payload rest : Value) : Farthest := ⟨payload, rest, [payload]⟩

/-- One of the alternatives is the same as the payload. -/
def lists (farthest : Farthest) (payload : Value) : Bool :=
  farthest.alternatives.any fun known => known.same payload

end Farthest

namespace Record

/-- Notes a failure. A farther one replaces the record, one at the same place adds its payload if
that is new, and a nearer one changes nothing. -/
def note (record : Record) (payload rest : Value) : Record :=
  match record with
  | none => some (.single payload rest)
  | some farthest =>
    if rest.length < farthest.rest.length then some (.single payload rest)
    else if rest.length = farthest.rest.length && !farthest.lists payload then
      some { farthest with alternatives := farthest.alternatives ++ [payload] }
    else record

@[simp] theorem note_none (payload rest : Value) :
    Record.note none payload rest = some (.single payload rest) := rfl

end Record

/-- A record with named checkpoints. A checkpoint that has been restored stays attached: an
alternative added at the same place is added to the checkpoint as well, until a farther failure
starts a new list of alternatives or another checkpoint takes its name. -/
structure Notebook where
  /-- The record. -/
  record : Record := none
  /-- The checkpoints by name, the latest first. -/
  checkpoints : List (String × Record) := []
  /-- The checkpoint that shares its alternatives with the record. -/
  attached : Option String := none

namespace Notebook

/-- Stores a record under a name. -/
def store (notebook : Notebook) (name : String) (record : Record) : List (String × Record) :=
  (name, record) :: notebook.checkpoints.filter (·.1 != name)

/-- Notes a failure, in the attached checkpoint too if only the alternatives grow. -/
def note (notebook : Notebook) (payload rest : Value) : Notebook :=
  let record := notebook.record.note payload rest
  let farther := match notebook.record with
    | none => true
    | some farthest => rest.length < farthest.rest.length
  if farther then { notebook with record := record, attached := none }
  else
    match notebook.attached with
    | none => { notebook with record := record }
    | some name =>
      { notebook with record := record, checkpoints := notebook.store name record }

/-- Saves the record under a name. -/
def save (notebook : Notebook) (name : String) : Notebook :=
  { notebook with
    checkpoints := notebook.store name notebook.record
    attached := if notebook.attached == some name then none else notebook.attached }

/-- Brings back the record saved under a name; `none` if there is none. -/
def restore? (notebook : Notebook) (name : String) : Option Notebook :=
  (notebook.checkpoints.lookup name).map fun record =>
    { notebook with record := record, attached := some name }

end Notebook

end Peg
