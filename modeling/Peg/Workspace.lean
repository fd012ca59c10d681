import Peg.Description

/-! # Rules, grammars and the workspace

Rules live in numbered cells, so that a rule can be referred to before it is bound and keeps its
identity when it is. A grammar maps names to cells. A workspace holds all cells, the current
grammar, the parsers kept under names and the calls that terminals remember. -/

namespace Peg

/-- What a rule is bound to. -/
inductive Binding where
  /-- Nothing yet. -/
  | undefined
  /-- A description that is built when the rule is first used. -/
  | pending (body : Description)
  /-- A parser. -/
  | resolved (body : Parser)

/-- The name of the state of a rule. -/
def Binding.stateName : Binding → String
  | .undefined => "undefined"
  | .pending _ => "pending"
  | .resolved _ => "resolved"

/-- A rule is defined when it is bound to something. -/
def Binding.isDefined : Binding → Bool
  | .undefined => false
  | _ => true

/-- A rule is resolved when it is bound to a parser. -/
def Binding.isResolved : Binding → Bool
  | .resolved _ => true
  | _ => false

/-- The cell of a rule. -/
structure RuleCell where
  /-- The name of the rule. -/
  name : String
  /-- What it is bound to. -/
  binding : Binding
  /-- How often its deferred description was built. -/
  builds : Nat := 0

/-- The written form of a rule. -/
def RuleCell.written (cell : RuleCell) : String :=
  "Rule(" ++ Text.quoted cell.name.toList ++ ", " ++ cell.binding.stateName ++ ")"

/-- A grammar: the cells of its rules by name, in the order in which the names were first
mentioned, and the name of the start rule. -/
structure Grammar where
  /-- The cells by name. -/
  rules : List (String × Nat) := []
  /-- The start rule, once there is one. -/
  start : Option String := none
  /-- Private attributes, the latest first. They are no rules. -/
  attributes : List (String × Parser) := []

/-- Everything that parsers refer to. -/
structure Workspace where
  /-- The cells of all rules. -/
  cells : Array RuleCell := #[]
  /-- The current grammar. -/
  grammar : Grammar := {}
  /-- The parsers kept under names, the latest first. -/
  kept : List (String × Parser) := []
  /-- The inputs on which each remembering terminal was called, latest first. -/
  memories : Array (List Value) := #[]

/-- A computation that changes the workspace and may end in a fault. What it changed before the
fault stays changed. -/
abbrev Edit := ExceptT Fault (StateM Workspace)

namespace Workspace

/-- The binding in a cell; a cell that does not exist is undefined. -/
def bindingOf (workspace : Workspace) (cell : Nat) : Binding :=
  match workspace.cells[cell]? with
  | some content => content.binding
  | none => .undefined

/-- The name in a cell. -/
def nameOf (workspace : Workspace) (cell : Nat) : String :=
  match workspace.cells[cell]? with
  | some content => content.name
  | none => ""

/-- Adds a cell and tells its number. -/
def addCell (name : String) (binding : Binding) : Edit Nat :=
  modifyGet fun workspace =>
    (workspace.cells.size, { workspace with cells := workspace.cells.push ⟨name, binding, 0⟩ })

/-- Replaces the binding in a cell. -/
def setBinding (cell : Nat) (binding : Binding) : Edit Unit :=
  modify fun workspace =>
    { workspace with
      cells := workspace.cells.modify cell fun content => { content with binding := binding } }

/-- Adds a memory without calls and tells its number. -/
def addMemory : Edit Nat :=
  modifyGet fun workspace =>
    (workspace.memories.size, { workspace with memories := workspace.memories.push [] })

/-- The cell of a rule of the current grammar; the first mention of a name adds a cell. -/
def ruleCell (name : String) : Edit Nat := do
  match (← get).grammar.rules.lookup name with
  | some cell => return cell
  | none =>
    let cell ← addCell name .undefined
    modify fun workspace =>
      { workspace with
        grammar := { workspace.grammar with rules := workspace.grammar.rules ++ [(name, cell)] } }
    return cell

/-- Binds the rule in a cell to a parser. A rule is bound once, and only to a parser. -/
def bind (cell : Nat) (body : Parser) : Edit Unit := do
  let workspace ← get
  let name := workspace.nameOf cell
  if (workspace.bindingOf cell).isDefined then throw (.grammar (.alreadyDefined name))
  match body.constant? with
  | some value => throw (.grammar (.boundToNonParser name value))
  | none => setBinding cell (.resolved body)

/-- Binds a rule of the current grammar. The first rule bound so becomes the start rule if there
is none. -/
def define (name : String) (body : Parser) : Edit Nat := do
  let cell ← ruleCell name
  bind cell body
  modify fun workspace =>
    { workspace with
      grammar := { workspace.grammar with start := workspace.grammar.start <|> some name } }
  return cell

/-- Runs an edit in an empty grammar and brings the current grammar back. -/
def inNewGrammar (edit : Edit α) : Edit α := do
  let outer := (← get).grammar
  modify fun workspace => { workspace with grammar := {} }
  tryCatch
    (do
      let result ← edit
      modify fun workspace => { workspace with grammar := outer }
      return result)
    fun fault => do
      modify fun workspace => { workspace with grammar := outer }
      throw fault

end Workspace

namespace Description

open Workspace

/-- Combines at least two parsers. -/
def combine (combinator : String) (make : Parser → List Parser → Parser) :
    List Parser → Except Fault Parser
  | first :: second :: others => .ok (make first (second :: others))
  | parts => .error (.grammar (.tooFewParsers combinator parts.length))

mutual

/-- Builds a parser. Parts are built from left to right before the whole. -/
def build : Description → Edit Parser
  | .token origin flags => do
    let pattern ← origin.compile flags
    return .terminal (.token pattern)
  | .literal text =>
    if text.isSequence then return .terminal (.literal text) else throw .wrongKind
  | .terminal leaf => return .terminal leaf
  | .sequence parts => do
    let parsers ← buildAll parts
    combine "sequence" .sequence parsers
  | .choice parts => do
    let parsers ← buildAll parts
    combine "choice" .choice parsers
  | .star body => do return .star (← build body)
  | .plus body => do return .plus (← build body)
  | .optional body absent => do return .optional (← build body) absent
  | .ahead body => do return .ahead (← build body)
  | .notAhead body => do return .notAhead (← build body)
  | .transform body name function => do return .transform (← build body) name function
  | .nested body inner form => do
    let outer ← build body
    return .nested outer (← build inner) form
  | .traced name body => do return .traced name (← build body)
  | .reference name => do return .rule (← ruleCell name)
  | .saved name => do
    match (← get).kept.lookup name with
    | some parser => return parser
    | none => throw (.unknownKey (Text.quoted name.toList))
  | .rule name body => do
    let parser ← build body
    let cell ← addCell name .undefined
    bind cell parser
    return .rule cell
  | .deferred name body => do return .rule (← addCell name (.pending body))
  | .within rules name => inNewGrammar do
    buildRules rules
    return .rule (← ruleCell name)
  | .take count => return .foreign (.take count)
  | .failAt payload offset => return .foreign (.failAt payload offset)
  | .tiring limit => do return .foreign (.tiring (← addMemory) limit)
  | .constant value => return .constant value
  | .broken parts fault => do
    let _ ← buildAll parts
    throw fault

/-- Builds several parsers from left to right. -/
def buildAll : List Description → Edit (List Parser)
  | [] => return []
  | description :: others => do
    let parser ← build description
    return parser :: (← buildAll others)

/-- Builds and binds rules of the current grammar in order. -/
def buildRules : List (String × Description) → Edit Unit
  | [] => return ()
  | (name, description) :: others => do
    let parser ← build description
    let _ ← define name parser
    buildRules others

end

end Description

namespace Workspace

/-- The parser of the rule in a cell. A pending rule is built now; if that fails it stays
pending. -/
def resolve (cell : Nat) : Edit Parser := do
  let workspace ← get
  let name := workspace.nameOf cell
  match workspace.bindingOf cell with
  | .resolved body => return body
  | .undefined => throw (.grammar (.undefinedRule name))
  | .pending description =>
    modify fun workspace =>
      { workspace with
        cells := workspace.cells.modify cell fun content =>
          { content with builds := content.builds + 1 } }
    let body ← description.build
    match body.constant? with
    | some value => throw (.grammar (.resolvedToNonParser name value))
    | none =>
      setBinding cell (.resolved body)
      return body

/-- The rule of a name is mentioned in the current grammar and bound. -/
def isDefined (workspace : Workspace) (name : String) : Bool :=
  match workspace.grammar.rules.lookup name with
  | some cell => (workspace.bindingOf cell).isDefined
  | none => false

/-- The names of the bound rules of the current grammar, in order of first mention. -/
def definedNames (workspace : Workspace) : List String :=
  (workspace.grammar.rules.filter fun rule => (workspace.bindingOf rule.2).isDefined).map (·.1)

/-- The names of the rules that are mentioned and not bound, sorted. -/
def undefinedNames (workspace : Workspace) : List String :=
  ((workspace.grammar.rules.filter fun rule => !(workspace.bindingOf rule.2).isDefined).map
    (·.1)).mergeSort fun first second => first ≤ second

/-- The name of the start rule. -/
def startName (workspace : Workspace) : Except Fault String :=
  match workspace.grammar.start with
  | some name => .ok name
  | none => .error (.grammar .noRules)

/-- Every rule that is mentioned is bound, the start rule included. -/
def check (workspace : Workspace) : Except Fault Unit :=
  match workspace.undefinedNames with
  | [] =>
    match workspace.grammar.start with
    | some name =>
      if workspace.isDefined name then .ok ()
      else .error (.grammar (.undefinedStart name))
    | none => .ok ()
  | names => .error (.grammar (.undefinedRules names))

/-- The names that grammars use for members of their own. -/
def memberNames : List String :=
  ["rule", "define", "names", "start", "undefined", "check", "parse"]

end Workspace

end Peg
