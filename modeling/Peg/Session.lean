import Peg.Parse

/-! # Sessions

A session works on one workspace step by step: it makes grammars, binds rules in several ways,
keeps parsers under names, parses, and looks at the state of rules. -/

namespace Peg

/-- A session. -/
structure Session where
  /-- The rules and parsers. -/
  workspace : Workspace := {}
  /-- The names under which rules with a deferred body are kept. -/
  deferredNames : List String := []
  /-- What the last successful parse left unconsumed. -/
  unconsumed : Value := .null
  /-- The events of the tracer that all parses share, earliest first. -/
  shared : List Event := []

/-- What an attribute of a grammar is. -/
inductive Attribute where
  /-- The rule in a cell. -/
  | rule (cell : Nat)
  /-- A plain value. -/
  | value (value : Value)
  /-- A parser that is no rule, or anything else that can be called. -/
  | parser
  /-- A method. -/
  | method (name : String)
  /-- The name of the module that grammars belong to. -/
  | moduleName
  /-- The text that explains grammars. -/
  | documentation

namespace Workspace

/-- A new grammar with the given start rule takes the place of the current one. -/
def newGrammar (start : Option String) : Edit Unit :=
  modify fun workspace => { workspace with grammar := { start := start } }

/-- A name that starts with an underscore is private. -/
def isPrivate (name : String) : Bool := name.toList.head? == some '_'

/-- The assignment reaches into the grammar: it replaces the table of the rules, or it makes
something else than a text or nothing the start rule. -/
def setsInside (name : String) (body : Parser) : Bool :=
  match name, body with
  | "_rules", _ => true
  | "_start", .constant (.str _) | "_start", .constant .null => false
  | "_start", _ => true
  | _, _ => false

/-- Sets a private attribute. The one that holds the start rule takes a text or nothing, and what
makes a grammar an object cannot be replaced. What becomes of a grammar after an assignment that
reaches into it is not modelled: here it goes on with the rules and the start rule that it has. -/
def setPrivate (name : String) (body : Parser) : Edit Unit := do
  let workspace ← get
  let grammar := workspace.grammar
  match name, body with
  | "_start", .constant (.str text) =>
    set { workspace with grammar := { grammar with start := some (String.ofList text) } }
  | "_start", .constant .null => set { workspace with grammar := { grammar with start := none } }
  | "__class__", _ | "__dict__", _ => throw .wrongKind
  | "__weakref__", _ => throw .missingAttribute
  | _, _ =>
    set { workspace with
      grammar := { grammar with attributes := (name, body) :: grammar.attributes } }

/-- Assigns to an attribute: a private one is set, a member cannot be shadowed, and any other name
is a rule to bind. -/
def setAttribute (name : String) (body : Parser) : Edit Unit := do
  if isPrivate name then setPrivate name body
  else if memberNames.contains name then throw (.grammar (.shadowsMember name))
  else
    let _ ← define name body

/-- A parser as an attribute. -/
def attributeOf : Parser → Attribute
  | .rule cell => .rule cell
  | .constant value => .value value
  | _ => .parser

/-- The special methods that grammars have of their own. -/
def specialMethods : List String :=
  ["__init__", "__getitem__", "__setitem__", "__getattr__", "__setattr__", "__contains__"]

/-- The special members that grammars share with all objects; all of them can be called. -/
def sharedMembers : List String :=
  ["__class__", "__delattr__", "__dir__", "__eq__", "__format__", "__ge__", "__getattribute__",
    "__getstate__", "__gt__", "__hash__", "__init_subclass__", "__le__", "__lt__", "__ne__",
    "__new__", "__reduce__", "__reduce_ex__", "__repr__", "__sizeof__", "__str__",
    "__subclasshook__"]

/-- The special member of a name. -/
def specialMember? (name : String) : Option Attribute :=
  if specialMethods.contains name then some (.method name)
  else if sharedMembers.contains name then some .parser
  else
    match name with
    | "__module__" => some .moduleName
    | "__doc__" => some .documentation
    | "__weakref__" => some (.value .null)
    | _ => none

/-- Reads an attribute: a member gives itself, a private attribute what was set, and any other name
the rule. -/
def getAttribute (name : String) : Edit Attribute := do
  let workspace ← get
  if isPrivate name then
    match name, workspace.grammar.start, workspace.grammar.attributes.lookup name with
    | "_start", some start, _ => return .value (.ofString start)
    | "_start", none, _ => return .value .null
    | _, _, some body => return attributeOf body
    | _, _, none =>
      match specialMember? name with
      | some member => return member
      | none => throw (.privateAttribute name)
  else
    match name with
    | "start" => return .value (.ofString (← workspace.startName))
    | "names" => return .value (.list (workspace.definedNames.map .ofString))
    | _ =>
      if memberNames.contains name then return .method name
      else return .rule (← ruleCell name)

/-- Keeps a parser under a name. -/
def keep (name : String) (body : Parser) : Edit Unit :=
  modify fun workspace => { workspace with kept := (name, body) :: workspace.kept }

/-- The cell of the rule kept under a name. -/
def keptCell (name : String) : Edit Nat := do
  match ← (Description.saved name).build with
  | .rule cell => return cell
  | _ => throw .missingAttribute

end Workspace

namespace Session

/-- Runs an edit on the workspace of a session. -/
def edit (session : Session) (change : Edit α) : Except Fault α × Session :=
  let (answer, workspace) := change.run.run session.workspace
  (answer, { session with workspace := workspace })

/-- Keeps a parser under a name. -/
def keep (session : Session) (name : String) (description : Description) :
    Except Fault Unit × Session :=
  let (answer, later) := session.edit do
    let body ← description.build
    Workspace.keep name body
  match answer with
  | .ok () => (.ok (), { later with deferredNames := later.deferredNames.filter (· != name) })
  | .error fault => (.error fault, later)

/-- Makes a rule, with a deferred body or undefined, keeps it under a name and tells its cell. -/
def keepRule (session : Session) (keptAs name : String) (body : Option Description) :
    Except Fault Nat × Session :=
  let binding := match body with
    | some description => Binding.pending description
    | none => .undefined
  let (answer, later) := session.edit do
    let cell ← Workspace.addCell name binding
    Workspace.keep keptAs (.rule cell)
    return cell
  let others := later.deferredNames.filter (· != keptAs)
  (answer, { later with
    deferredNames := if body.isSome then keptAs :: others else others })

/-- How often the deferred body of a kept rule was built; `none` if it was made without one. -/
def buildsOf (session : Session) (keptAs : String) (cell : Nat) : Option Nat :=
  if session.deferredNames.contains keptAs then
    session.workspace.cells[cell]?.map (·.builds)
  else none

/-- The session after a parse: it takes over the workspace, what a diagnosed success left unconsumed
and, if the tracer is the shared one, the events. -/
def afterParse (session : Session) (isShared : Bool) (report : Report Answer) : Session where
  workspace := report.workspace
  deferredNames := session.deferredNames
  unconsumed :=
    match report.answer with
    | .ok (.success success) => success.unconsumed
    | _ => session.unconsumed
  shared := if isShared then session.shared ++ report.events else session.shared

end Session

end Peg
