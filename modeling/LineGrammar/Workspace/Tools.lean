import LineGrammar.Expression.Explanation
import LineGrammar.Workspace.Commands

/-!
# Tools

A tool answers a call on a workspace with a report: a record that says whether the call succeeded,
and what came of it or what went wrong. No call fails: a fault of grammar is only reported, and any
other fault is noted as an error too. A call gives its arguments by name.
-/

namespace LineGrammar

/-- The tools. -/
inductive Tool where
  | compile
  | read
  | explain
  | listTypes
  | registerType
  | listCommands
  | describeCommand
  | addCommand
  | dispatch
deriving DecidableEq, Repr

/-- The name under which a tool is called. -/
def Tool.name : Tool → String
  | .compile => "grammar_compile"
  | .read => "grammar_match"
  | .explain => "grammar_explain"
  | .listTypes => "grammar_list_types"
  | .registerType => "grammar_register_type"
  | .listCommands => "grammar_list_commands"
  | .describeCommand => "grammar_describe_command"
  | .addCommand => "grammar_add_command"
  | .dispatch => "grammar_dispatch"

/-- The tool of a name. -/
def Tool.ofName? (name : String) : Option Tool :=
  [.compile, .read, .explain, .listTypes, .registerType, .listCommands, .describeCommand,
    .addCommand, .dispatch].find? fun tool => Tool.name tool == name

/-- What is noted when a tool fails by no fault of grammar. -/
def Tool.failure : Tool → String
  | .compile => "Failed to compile expression"
  | .read => "Failed to match input"
  | .explain => "Failed to explain expression"
  | .listTypes => "Failed to list types"
  | .registerType => "Failed to register type"
  | .listCommands => "Failed to list commands"
  | .describeCommand => "Failed to describe command"
  | .addCommand => "Failed to add command"
  | .dispatch => "Failed to dispatch input"

mutual

/-- A value as data. -/
def Value.described : Value → Document
  | .nothing => .null
  | .text content => .text content
  | .integer n => .integer n
  | .number value => .number value
  | .list elements => .list (Value.describedAll elements)
  | .foreign label => .text label

/-- Values as data. -/
def Value.describedAll : List Value → List Document
  | [] => []
  | value :: rest => value.described :: Value.describedAll rest

end

/-- Named values as data. -/
def describedNamed (named : Table Value) : Document :=
  .record (named.entries.map fun entry => (entry.1, entry.2.described))

/-- A reading as fields. -/
def Reading.fields (reading : Reading) : List (String × Document) :=
  [("match", .text reading.matched), ("named", describedNamed reading.named),
    ("captures", .list (Value.describedAll reading.values))]

/-- A dispatched line as fields. -/
def Dispatched.fields (found : Dispatched) : List (String × Document) :=
  [("command", .text found.command.name), ("expression", .text found.expression),
    ("values", describedNamed found.reading.named)]

namespace Tool

/-- The arguments of a call. -/
abbrev Arguments := List (String × Document)

/-- An argument, or what stands for it when it is left out. -/
def argument (arguments : Arguments) (name : String) (absent : Document) : Document :=
  (Document.field? name arguments).getD absent

/-- An argument that is a text. -/
def textArgument (arguments : Arguments) (name : String) : String :=
  match argument arguments name (.text "") with
  | .text content => content
  | _ => ""

/-- The report of a success. -/
def success (fields : List (String × Document)) : Document :=
  .record (("status", .text "success") :: fields)

/-- The report of a failure. -/
def failed (message : String) : Document :=
  .record [("status", .text "error"), ("message", .text message)]

/-- The fields of a record. -/
def fieldsOf : Document → List (String × Document)
  | .record fields => fields
  | _ => []

/-- The report that nothing has a reading. -/
def unmatched : Document := success [("matched", .boolean false)]

/-- The report of something that has a reading. -/
def matched (fields : List (String × Document)) : Document :=
  success (("matched", .boolean true) :: fields)

/-- Compiles an expression. -/
def runCompile (arguments : Arguments) : Session Document := do
  let result ← Workspace.compile (textArgument arguments "expression")
  return success (fieldsOf result.expression.described)

/-- Reads a line under an expression. -/
def runRead (arguments : Arguments) : Session Document := do
  match ← Workspace.read (textArgument arguments "expression") (textArgument arguments "text") with
  | none => return unmatched
  | some reading => return matched reading.fields

/-- Explains an expression. -/
def runExplain (arguments : Arguments) : Session Document := do
  let explanation ← Action.ofExcept (explained (textArgument arguments "expression"))
  return success (fieldsOf explanation)

/-- A type as data. -/
def typeDescribed (type : ValueType) : Document :=
  .record [("name", .text type.name), ("pattern", .text type.pattern)]

/-- Lists the types by name. -/
def runListTypes : Session Document := do
  let table := (← Action.state).types
  let types := table.types.values.mergeSort fun a b => decide (a.name ≤ b.name)
  return success [("types", .list (types.map typeDescribed)), ("count", .integer types.length)]

/-- Registers a type that is defined by the arguments. -/
def runRegisterType (arguments : Arguments) : Session Document := do
  let given (name : String) (absent : Document) : String × Document :=
    (name, argument arguments name absent)
  let definition ← Action.ofExcept (TypeDefinition.ofDocument (.record
    [given "name" .null, given "pattern" .null, given "convert" (.text "str"),
      given "choices" .null, given "minimum" .null, given "maximum" .null,
      given "quoted" (.boolean true)]))
  let type ← Workspace.onTypes definition.register
  return success
    [("message", .text ("Registered type map '" ++ type.name ++ "'.")),
      ("type", typeDescribed type)]

/-- A command as a list of commands shows it. -/
def commandLine (command : Command) : Document :=
  .record [("name", .text command.name), ("expression", .text command.expression),
    ("description", .text command.description),
    ("aliases", .integer command.aliases.length)]

/-- Lists the commands in order. -/
def runListCommands : Session Document := do
  let commands ← Workspace.listing
  return success [("commands", .list (commands.map fun entry => commandLine entry.1)),
    ("count", .integer commands.length)]

/-- Describes a command. -/
def runDescribeCommand (arguments : Arguments) : Session Document := do
  let name := textArgument arguments "name"
  match ← Workspace.command? name with
  | none => return failed (Fault.unknownCommand name).message
  | some command =>
    let results ← Workspace.compiled name
    return success [("command", .record
      [("name", .text command.name), ("description", .text command.description),
        ("examples", .list (command.examples.map .text)),
        ("expressions", .list (results.map fun result => result.expression.described))])]

/-- Adds a command that is defined by the arguments. -/
def runAddCommand (arguments : Arguments) : Session Document := do
  let aliases := argument arguments "aliases" .null
  let command ← Action.ofExcept (Command.ofDocument (.record
    [("name", argument arguments "name" .null),
      ("expression", argument arguments "expression" .null),
      ("description", argument arguments "description" (.text "")),
      ("aliases", if aliases.isVoid then .list [] else aliases)]))
  Workspace.register command true
  return success [("message", .text ("Added command '" ++ command.name ++ "'."))]

/-- Dispatches a line to the first command that has a reading of it, or to all. -/
def runDispatch (arguments : Arguments) : Session Document := do
  let line := textArgument arguments "text"
  if (argument arguments "all_matches" (.boolean false)).isVoid then
    match ← Workspace.dispatch line with
    | none => return unmatched
    | some found => return matched found.fields
  else
    let found ← Workspace.dispatchAll line
    return success [("matches", .list (found.map fun one => .record one.fields)),
      ("count", .integer found.length)]

/-- What a tool does. -/
def perform (tool : Tool) (arguments : Arguments) : Session Document :=
  match tool with
  | .compile => runCompile arguments
  | .read => runRead arguments
  | .explain => runExplain arguments
  | .listTypes => runListTypes
  | .registerType => runRegisterType arguments
  | .listCommands => runListCommands
  | .describeCommand => runDescribeCommand arguments
  | .addCommand => runAddCommand arguments
  | .dispatch => runDispatch arguments

/-- Whether a tool expects a fault, so that the fault is reported without a note. -/
def expects : Tool → Fault → Bool
  | .registerType, .invalid _ => true
  | .registerType, _ => false
  | .listTypes, _ => false
  | .listCommands, _ => false
  | _, fault => fault.isGrammar

/-- Calls a tool. -/
def call (tool : Tool) (arguments : Arguments) : Session Document := do
  match ← Action.outcome (tool.perform arguments) with
  | .ok report => return report
  | .error fault =>
    if !tool.expects fault then Action.note .error tool.failure
    return failed fault.message

end Tool

end LineGrammar
