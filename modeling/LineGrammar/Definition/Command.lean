import LineGrammar.Definition.Check

/-!
# Definitions of commands

A command has a name and an expression for its lines, and may have further expressions as aliases.
Commands are kept together in sets; a listing shows what is worth knowing about a command at a
glance.
-/

namespace LineGrammar

open LineGrammar.Definition

/-- A command and the expressions for its lines. -/
structure Command where
  name : String
  expression : String
  description : String
  aliases : List String
  examples : List String
deriving DecidableEq

namespace Command

/-- The name of the kind of definition. -/
def kind : String := "CommandDefinition"

/-- Checks the fields of a command. -/
def ofFields (fields : List (String × Document)) : Checked Command :=
  Checked.sound Command.mk
    |>.apply (required "name" nonEmptyText fields)
    |>.apply (required "expression" text fields)
    |>.apply (optional "description" "" text fields)
    |>.apply (optional "aliases" [] (listOf text) fields)
    |>.apply (optional "examples" [] (listOf text) fields)

/-- Checks data for a command. -/
def check : Document → Checked Command := record kind ofFields

/-- The command that data stands for. -/
def ofDocument (data : Document) : Except Fault Command := (check data).outcome kind

/-- A command as data. -/
def described (command : Command) : Document :=
  .record [("name", .text command.name), ("expression", .text command.expression),
    ("description", .text command.description),
    ("aliases", .list (command.aliases.map .text)),
    ("examples", .list (command.examples.map .text))]

/-- The expression and then the aliases. -/
def expressions (command : Command) : List String := command.expression :: command.aliases

/-- What a listing shows of a command from a file, or from none. -/
def summary (command : Command) (path : Option String) : Document :=
  .record [("name", .text command.name), ("expression", .text command.expression),
    ("description", .text command.description),
    ("alias_count", .integer command.aliases.length),
    ("path", match path with
      | some path => .text path
      | none => .null)]

end Command

/-- Several commands in one document. -/
structure CommandSet where
  schema : String
  name : String
  description : String
  commands : List Command

namespace CommandSet

/-- The name of the kind of document. -/
def kind : String := "CommandSet"

/-- The schema of a document that names none. -/
def defaultSchema : String := "commands/v1"

/-- Checks the fields of a set. The schema goes by two names, of which the first counts. -/
def ofFields (fields : List (String × Document)) : Checked CommandSet :=
  Checked.sound CommandSet.mk
    |>.apply (field ["schema", "schema_version"] (.ok defaultSchema) text fields)
    |>.apply (optional "name" "" text fields)
    |>.apply (optional "description" "" text fields)
    |>.apply (optional "commands" [] (listOf Command.check) fields)

/-- The set that data stands for. -/
def ofDocument (data : Document) : Except Fault CommandSet :=
  (record kind ofFields data).outcome kind

/-- A set as data, its schema under a given name. -/
def described (schemaName : String) (set : CommandSet) : Document :=
  .record [(schemaName, .text set.schema), ("name", .text set.name),
    ("description", .text set.description),
    ("commands", .list (set.commands.map Command.described))]

end CommandSet

end LineGrammar
