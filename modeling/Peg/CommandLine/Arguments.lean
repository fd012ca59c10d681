import Peg.Fault

/-! # Command-line arguments

A command has a name and options. Long options may be shortened to any unambiguous start and may
take their value after an equals sign; short options without a value may be written together. What
looks like an option and is none is left over, and anything left over is an error. -/

namespace Peg.CommandLine

/-- The commands. -/
inductive CommandName where
  /-- Evaluates an expression. -/
  | calc
  /-- Reads three integers. -/
  | triplet
  /-- Measures nested parentheses. -/
  | parens
deriving DecidableEq

/-- The options. -/
inductive Switch where
  /-- Asks for help. -/
  | help
  /-- Gives the text. -/
  | text
  /-- Names the file that holds the text. -/
  | input
  /-- Shows a trace. -/
  | debug
  /-- Uses tokens. -/
  | tokens
deriving DecidableEq

/-- The option takes a value. -/
def Switch.takesValue : Switch → Bool
  | .text | .input => true
  | _ => false

/-- The name of an option in messages: all its spellings. -/
def Switch.title : Switch → String
  | .help => "-h/--help"
  | .text => "--text"
  | .input => "--input"
  | .debug => "-D/--debug"
  | .tokens => "--tokens"

/-- The spellings of the options, in order. -/
abbrev Spellings := List (List Char × Switch)

/-- The options before the command. -/
def mainSpellings : Spellings :=
  [("-h".toList, .help), ("--help".toList, .help)]

/-- The options of a command. -/
def CommandName.spellings (name : CommandName) : Spellings :=
  mainSpellings
    ++ [("--text".toList, .text), ("--input".toList, .input), ("-D".toList, .debug),
      ("--debug".toList, .debug)]
    ++ (if name = .calc then [("--tokens".toList, .tokens)] else [])

/-- Why the arguments are not carried out. -/
inductive Stop where
  /-- Help was asked for. -/
  | help
  /-- The arguments are wrong. -/
  | usage (program message : String)

/-- An argument read as an option. -/
structure OptionUse where
  /-- The option; `none` if there is no such option. -/
  switch : Option Switch
  /-- Its full spelling. -/
  spelling : List Char
  /-- The value in the same argument. -/
  value : Option (List Char)

/-- What an argument is. -/
inductive Mark where
  /-- A plain argument. -/
  | plain
  /-- The separator after which all arguments are plain. -/
  | separator
  /-- An option. -/
  | option (use : OptionUse)

/-- Splits at the first equals sign. -/
def splitAtEquals (argument : List Char) : List Char × Option (List Char) :=
  match argument.dropWhile (· != '=') with
  | [] => (argument, none)
  | _ :: value => (argument.takeWhile (· != '='), some value)

/-- A minus sign and digits, with at most one point that digits follow; a final line feed is
allowed. -/
def looksLikeNegativeNumber (argument : List Char) : Bool :=
  let body := match argument.reverse with
    | '\n' :: rest => rest.reverse
    | _ => argument
  match body with
  | '-' :: rest =>
    match rest.dropWhile Text.isClassicDigit with
    | [] => !rest.isEmpty
    | '.' :: fraction => !fraction.isEmpty && fraction.all Text.isClassicDigit
    | _ => false
  | _ => false

/-- The options that an argument may be short for. -/
def candidates (spellings : Spellings) (argument : List Char) : List OptionUse :=
  match argument with
  | '-' :: '-' :: _ =>
    let (start, value) := splitAtEquals argument
    spellings.filterMap fun (spelling, switch) =>
      if start.isPrefixOf spelling then some ⟨some switch, spelling, value⟩
      else none
  | _ =>
    spellings.filterMap fun (spelling, switch) =>
      if spelling == argument.take 2 then
        some ⟨some switch, spelling, some (argument.drop 2)⟩
      else if argument.isPrefixOf spelling then some ⟨some switch, spelling, none⟩
      else none

/-- The option that an argument stands for if it is none of the exact spellings. -/
def inexactMark (spellings : Spellings) (argument : List Char) : Except String Mark :=
  let (start, value) := splitAtEquals argument
  match value, spellings.lookup start with
  | some _, some switch => .ok (.option ⟨some switch, start, value⟩)
  | _, _ =>
    match candidates spellings argument with
    | [use] => .ok (.option use)
    | [] =>
      if looksLikeNegativeNumber argument || argument.contains ' ' then .ok .plain
      else .ok (.option ⟨none, argument, none⟩)
    | uses =>
      .error ("ambiguous option: " ++ String.ofList argument ++ " could match "
        ++ ", ".intercalate (uses.map fun use => String.ofList use.spelling))

/-- What an argument is. -/
def markOf (spellings : Spellings) (argument : List Char) : Except String Mark :=
  if argument.head? != some '-' then .ok .plain
  else
    match spellings.lookup argument with
    | some switch => .ok (.option ⟨some switch, argument, none⟩)
    | none => if argument.length = 1 then .ok .plain else inexactMark spellings argument

/-- What each argument is; after the separator all are plain. -/
def markAll (spellings : Spellings) :
    List (List Char) → Except String (List (List Char × Mark))
  | [] => .ok []
  | argument :: others =>
    if argument == ['-', '-'] then
      .ok ((argument, .separator) :: others.map fun other => (other, .plain))
    else do
      let mark ← markOf spellings argument
      return (argument, mark) :: (← markAll spellings others)

/-- Where a command takes its text from. -/
inductive Origin where
  /-- From the arguments; `none` if there is only the separator in its place. -/
  | text (content : Option (List Char))
  /-- From a file; `none` if there is only the separator in the place of the path. -/
  | file (path : Option (List Char))

/-- The options given to a command. -/
structure Settings where
  /-- The text or the file. -/
  origin : Option Origin := none
  /-- The trace is shown. -/
  debug : Bool := false
  /-- Tokens are used. -/
  tokens : Bool := false

/-- A message about one option. -/
def aboutSwitch (switch : Switch) (message : String) : String :=
  "argument " ++ switch.title ++ ": " ++ message

/-- The value of an option. The separator is no value. -/
def optionValue (value : List Char) : Option (List Char) :=
  if value == ['-', '-'] then none else some value

/-- Carries out an option. Text and file exclude each other. -/
def Settings.apply (settings : Settings) (program : String) (switch : Switch)
    (value : List Char) : Except Stop Settings :=
  match switch, settings.origin with
  | .help, _ => .error .help
  | .text, some (.file _) =>
    .error (.usage program (aboutSwitch .text "not allowed with argument --input"))
  | .text, _ => .ok { settings with origin := some (.text (optionValue value)) }
  | .input, some (.text _) =>
    .error (.usage program (aboutSwitch .input "not allowed with argument --text"))
  | .input, _ => .ok { settings with origin := some (.file (optionValue value)) }
  | .debug, _ => .ok { settings with debug := true }
  | .tokens, _ => .ok { settings with tokens := true }

/-- The options in one argument that has a value attached: an option with a value takes it, and a
short option without one is followed by further short options. -/
def attached (spellings : Spellings) (switch : Switch) (isShort : Bool) (value : List Char) :
    Except String (List (Switch × List Char)) :=
  let refused := aboutSwitch switch ("ignored explicit argument " ++ Text.quoted value)
  if switch.takesValue then .ok [(switch, value)]
  else
    match value with
    | [] => .error refused
    | letter :: rest =>
      match isShort, spellings.lookup ['-', letter], rest with
      | true, some next, [] => .ok [(switch, []), (next, [])]
      | true, some next, _ => do
        return (switch, []) :: (← attached spellings next true rest)
      | _, _, _ => .error refused

/-- The option is spelled with one dash. -/
def OptionUse.isShort (use : OptionUse) : Bool := (use.spelling.drop 1).head? != some '-'

/-- Carries out several options. -/
def Settings.applyAll (settings : Settings) (program : String)
    (uses : List (Switch × List Char)) : Except Stop Settings :=
  uses.foldlM (fun settings use => settings.apply program use.1 use.2) settings

/-- A message of a program. -/
def asUsage (program : String) : Except String α → Except Stop α
  | .ok value => .ok value
  | .error message => .error (.usage program message)

/-- Reads options up to the end; everything else is left over. -/
def readOptions (program : String) (spellings : Spellings) :
    Settings → List (List Char × Mark) → Except Stop (Settings × List (List Char))
  | settings, [] => .ok (settings, [])
  | settings, (argument, .option use) :: others =>
    match use.switch, use.value with
    | none, _ => do
      let (final, left) ← readOptions program spellings settings others
      return (final, argument :: left)
    | some switch, some value => do
      let uses ← asUsage program (attached spellings switch use.isShort value)
      let settings ← settings.applyAll program uses
      readOptions program spellings settings others
    | some switch, none =>
      if switch.takesValue then
        match others with
        | (value, .plain) :: later => do
          let settings ← settings.apply program switch value
          readOptions program spellings settings later
        | _ => .error (.usage program (aboutSwitch switch "expected one argument"))
      else do
        let settings ← settings.apply program switch []
        readOptions program spellings settings others
  | settings, (argument, _) :: others => do
    let (final, left) ← readOptions program spellings settings others
    return (final, argument :: left)

/-- A command to carry out. -/
structure Command where
  /-- Which one. -/
  name : CommandName
  /-- Where its text comes from. -/
  origin : Origin
  /-- A trace is shown. -/
  debug : Bool
  /-- Tokens are used. -/
  tokens : Bool

/-- The program's name in messages. -/
def program : String := "pegc"

/-- The command of a name. -/
def CommandName.ofArgument? (argument : List Char) : Option CommandName :=
  match String.ofList argument with
  | "calc" => some .calc
  | "triplet" => some .triplet
  | "parens" => some .parens
  | _ => none

/-- The name of a command. -/
def CommandName.spelled : CommandName → String
  | .calc => "calc"
  | .triplet => "triplet"
  | .parens => "parens"

/-- The message about a command that does not exist. -/
def invalidChoice (argument : List Char) : String :=
  "argument cmd: invalid choice: " ++ Text.quoted argument
    ++ " (choose from 'calc', 'triplet', 'parens')"

/-- Reads the arguments after the name of a command; gives the command and what is left over. -/
def readCommand (name : CommandName) (arguments : List (List Char)) :
    Except Stop (Command × List (List Char)) := do
  let title := program ++ " " ++ name.spelled
  let marked ← asUsage title (markAll name.spellings arguments)
  let (settings, left) ← readOptions title name.spellings {} marked
  match settings.origin with
  | some origin => return (⟨name, origin, settings.debug, settings.tokens⟩, left)
  | none => throw (.usage title "one of the arguments --text --input is required")

/-- Reads what comes before the name of a command, the name, and the rest. -/
def readMain : List (List Char × Mark) → Except Stop (Command × List (List Char))
  | [] => .error (.usage program "the following arguments are required: cmd")
  | (argument, .option use) :: others =>
    match use.switch, use.value with
    | none, _ => do
      let (command, left) ← readMain others
      return (command, argument :: left)
    | some switch, some value => do
      let uses ← asUsage program (attached mainSpellings switch use.isShort value)
      let _ ← ({} : Settings).applyAll program uses
      readMain others
    | some switch, none => do
      let _ ← ({} : Settings).apply program switch []
      readMain others
  | [(_, .separator)] => .error (.usage program "the following arguments are required: cmd")
  | (argument, _) :: others =>
    match CommandName.ofArgument? argument with
    | some name => readCommand name (others.map (·.1))
    | none => .error (.usage program (invalidChoice argument))

/-- Reads all arguments. -/
def readArguments (arguments : List (List Char)) : Except Stop Command := do
  let marked ← asUsage program (markAll mainSpellings arguments)
  match ← readMain marked with
  | (command, []) => return command
  | (_, left) =>
    throw (.usage program
      ("unrecognized arguments: " ++ " ".intercalate (left.map String.ofList)))

end Peg.CommandLine
