import LineGrammar.Compiler
import LineGrammar.Definition.Command

/-!
# Tables of commands

A table of commands keeps the commands in the order in which their names came in, with the paths of
the files that they come from; a command without a path was registered by a caller. Beside the
commands it keeps what was compiled of them, and which of them were found not to compile. Both hold
for one definition only: a new definition of a name, or its removal, drops them.
-/

namespace LineGrammar

/-- Commands by name, where they come from, and what is known about their expressions. -/
structure CommandTable where
  /-- The folder of the library, if there is to be one. -/
  library : Option String
  /-- The folder of the project, if there is to be one. -/
  project : Option String
  /-- Whether the folders have been read. -/
  loaded : Bool
  commands : Table Command
  paths : Table String
  compiled : Table (List Stamped)
  /-- The commands that were passed over because they do not compile. -/
  broken : List String
  compiler : Compiler

namespace CommandTable

/-- A table that has not read its folders yet. -/
def fresh (library project : Option String) (types : TypeTable) : CommandTable :=
  { library, project, loaded := false, commands := .empty, paths := .empty, compiled := .empty,
    broken := [], compiler := .fresh types }

/-- Forgets what was found out about the expressions of a command. -/
def forget (table : CommandTable) (name : String) : CommandTable :=
  { table with
    compiled := table.compiled.erase name
    broken := table.broken.filter (· != name) }

/-- Gives the command of a name a path, or takes its path away. -/
def place (table : CommandTable) (name : String) (path : Option String) : CommandTable :=
  { table with
    paths := match path with
      | some path => table.paths.insert name path
      | none => table.paths.erase name }

/-- Adds a command, in the place of an older one of its name. -/
def add (table : CommandTable) (command : Command) (path : Option String) : CommandTable :=
  ({ table with commands := table.commands.insert command.name command }.forget
    command.name).place command.name path

/-- Takes a command out. -/
def remove (table : CommandTable) (name : String) : CommandTable :=
  ({ table with commands := table.commands.erase name }.forget name).place name none

/-- Keeps what was compiled of a command. -/
def keep (table : CommandTable) (name : String) (compiled : List Stamped) : CommandTable :=
  { table with compiled := table.compiled.insert name compiled }

/-- The commands without a file. -/
def unsaved (table : CommandTable) : List Command :=
  (table.commands.entries.filter fun entry => !table.paths.contains entry.1).map (·.2)

/-- What is noted when a command gives way to another one of its name. -/
def overriding (name : String) (path : Option String) : String :=
  "Command '" ++ name ++ "' overridden by " ++ path.getD "registration"

/-- What is noted about a command that does not compile. -/
def skipping (table : CommandTable) (name : String) (fault : Fault) : String :=
  "Skipping command '" ++ name ++ "' (" ++ (table.paths.get? name).getD "registered" ++ "): "
    ++ fault.message

end CommandTable

end LineGrammar
