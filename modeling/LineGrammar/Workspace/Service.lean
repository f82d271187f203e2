import LineGrammar.Workspace.Commands

/-!
# The service

The service works on a library, the commands and the types of a project, each in its folder. When it
starts, it registers the types of the project, so that commands can refer to them, and notes what it
works on. A check compiles every command and notes which of them compile.

The command line is read as a whole: an option may be shortened as long as it is clear which one is
meant, and an unknown argument is an error unless help was asked for.
-/

namespace LineGrammar.Service

/-- The folders that a service works on. -/
structure Folders where
  library : String
  commands : String
  types : String

/-- Starts a service in a workspace. -/
def start (folders : Folders) : Session Unit := do
  let names ← Workspace.loadTypeFolder folders.types
  Action.modifyState fun workspace =>
    { workspace with
      compiler := .fresh workspace.types
      commands := .fresh (some folders.library) (some folders.commands) workspace.types }
  Action.note .info "CHUK Grammar MCP Server initialized"
  Action.note .info ("  Library path: " ++ folders.library)
  Action.note .info ("  Commands dir: " ++ folders.commands)
  Action.note .info ("  Project type maps: " ++ toString names.length)

/-- What is noted about a command that compiles. -/
def compiles (command : Command) : String := "Command '" ++ command.name ++ "' OK"

/-- What is noted about a command that does not compile. -/
def compilesNot (command : Command) (path : Option String) (fault : Fault) : String :=
  "Command '" ++ command.name ++ "' (" ++ path.getD "registered" ++ "): " ++ fault.message

/-- Compiles one command, and answers whether it does not compile. -/
def checkCommand (command : Command) (path : Option String) : Session Bool := do
  match ← Action.outcome (Workspace.compiled command.name) with
  | .ok _ =>
    Action.note .info (compiles command)
    return false
  | .error fault =>
    if fault.isGrammar then
      Action.note .error (compilesNot command path fault)
      return true
    else Action.refuse fault

/-- Compiles all commands, and answers how many do not compile. -/
def check : Session Nat := do
  let commands ← Workspace.listing
  let failures ← commands.mapM fun entry => checkCommand entry.1 entry.2
  return failures.countP id

/-- Starts a service and compiles all its commands. -/
def startAndCheck (folders : Folders) : Session Nat := do
  start folders
  check

/-- The exit code of a check: zero when the check was done and all commands compile. -/
def exitCode (failures : Option Nat) : UInt32 := if failures = some 0 then 0 else 1

/-! ## The command line -/

/-- The options. -/
inductive Switch where
  | help
  | transport
  | port
  | check
  | debug
deriving DecidableEq, Repr

/-- The options by their names. -/
def switches : List (String × Switch) :=
  [("--help", .help), ("--transport", .transport), ("--port", .port), ("--check", .check),
    ("--debug", .debug)]

/-- Whether an option takes a value. -/
def Switch.takesValue : Switch → Bool
  | .transport | .port => true
  | _ => false

/-- Whether an option takes a given value. -/
def Switch.accepts : Switch → String → Bool
  | .transport, value => value == "stdio" || value == "http"
  | .port, value => (ValueType.integerOf value).toOption.isSome
  | _, _ => false

/-- What an argument is. -/
inductive Argument where
  /-- An option, perhaps with a value in the same argument. -/
  | switch (which : Switch) (value : Option String)
  /-- An argument that looks like an option and is none. -/
  | unknown
  /-- Several options may be meant. -/
  | unclear
  /-- A value. -/
  | plain
  /-- The mark after which all arguments are values. -/
  | endOfSwitches
deriving DecidableEq

/-- Whether an argument is a negative numeral. -/
def isNegativeNumeral (text : List Char) : Bool :=
  match text with
  | '-' :: digits =>
    let whole := digits.takeWhile Char.isDigit
    match digits.dropWhile Char.isDigit with
    | [] => !whole.isEmpty
    | '.' :: fraction => !fraction.isEmpty && fraction.all Char.isDigit
    | _ => false
  | _ => false

/-- The name and the value in an argument with an equals sign. -/
def splitValue (text : String) : String × Option String :=
  match text.splitOn "=" with
  | [name] => (name, none)
  | name :: value => (name, some ("=".intercalate value))
  | [] => (text, none)

/-- What an argument with two hyphens is. -/
def longArgument (text : String) : Argument :=
  let (name, value) := splitValue text
  match switches.lookup name with
  | some which => .switch which value
  | none =>
    match switches.filter fun entry => name.toList.isPrefixOf entry.1.toList with
    | [] => if text.contains ' ' then .plain else .unknown
    | [(_, which)] => .switch which value
    | _ => .unclear

/-- What an argument is. -/
def argumentOf (text : String) : Argument :=
  match text.toList with
  | ['-', '-'] => .endOfSwitches
  | '-' :: '-' :: _ => longArgument text
  | ['-', 'h'] => .switch .help none
  | '-' :: 'h' :: value => .switch .help (some (String.ofList value))
  | ['-'] => .plain
  | '-' :: rest =>
    if isNegativeNumeral ('-' :: rest) || rest.contains ' ' then .plain else .unknown
  | _ => .plain

/-- What the command line asks for. -/
inductive Request where
  /-- To show the help. -/
  | help
  /-- The command line is wrong. -/
  | wrong
  | run (check : Bool)
deriving DecidableEq, Repr

/-- The value for an option among the arguments that follow it, and the arguments after the value.
The mark of the end of options may stand before or after the value. -/
def takeValue : List String → Option (String × List String × Bool)
  | "--" :: value :: rest => some (value, rest, true)
  | value :: rest =>
    if argumentOf value = .plain then
      match rest with
      | "--" :: rest => some (value, rest, true)
      | rest => some (value, rest, false)
    else none
  | [] => none

/-- Reads the arguments, at most a given number of them, given whether a check is asked for and
whether an argument was not recognized. -/
def readArguments : Nat → Bool → Bool → List String → Request
  | 0, _, _, _ => .wrong
  | _ + 1, check, stray, [] => if stray then .wrong else .run check
  | count + 1, check, stray, text :: rest =>
    match argumentOf text with
    | .plain | .unknown => readArguments count check true rest
    | .endOfSwitches => .wrong
    | .unclear => .wrong
    | .switch which given =>
      if which.takesValue then
        match given with
        | some value =>
          if which.accepts value then readArguments count check stray rest else .wrong
        | none =>
          match takeValue rest with
          | none => .wrong
          | some (value, rest, ended) =>
            if !which.accepts value then .wrong
            else if ended then if stray || !rest.isEmpty then .wrong else .run check
            else readArguments count check stray rest
      else
        match which, given with
        | .help, none => .help
        | .help, some letters => if letters.all (· == 'h') then .help else .wrong
        | _, some _ => .wrong
        | .check, none => readArguments count true stray rest
        | _, none => readArguments count check stray rest

/-- What a command line asks for. -/
def requestOf (arguments : List String) : Request :=
  readArguments (arguments.length + 1) false false arguments

end LineGrammar.Service
