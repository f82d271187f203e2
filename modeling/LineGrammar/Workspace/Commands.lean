import LineGrammar.Workspace.Basic

/-!
# Working with commands

The folders of a table of commands are read once, when a command is first asked for: those of the
library and then those of the project, each file in the order of the names. A file that cannot be
read is passed over with a warning.

A line is dispatched to the first command that has a reading of it, by the first of its expressions
that has one. A command that does not compile has no readings; it is passed over with a warning the
first time. What was compiled of a command is kept for as long as its definition stands.
-/

namespace LineGrammar

open LineGrammar.Text

/-- A command with the expression that has a reading of a line. -/
structure Dispatched where
  command : Command
  expression : String
  reading : Reading

namespace Workspace

/-- Adds a command; that it takes the place of another one is noted. -/
def addCommand (command : Command) (path : Option String) : Session Unit := do
  let workspace ← Action.state
  if workspace.commands.commands.contains command.name then
    Action.note .debug (CommandTable.overriding command.name path)
  modifyCommands (·.add command path)

/-- What is noted about a file that cannot be read. -/
def unreadable (path : String) : String := "Skipping unreadable command set " ++ path

/-- The commands of a file; a file that cannot be read has none. -/
def readCommandFile (path : String) : Session (List Command) := do
  let set ← Action.outcome do
    let data ← definitionData path
    Action.ofExcept (CommandSet.ofDocument data)
  match set with
  | .ok set => return set.commands
  | .error _ =>
    Action.note .warning (unreadable path)
    return []

/-- Adds the commands of all files in a folder. -/
def readCommandFolder (path : String) : Session Unit := do
  let workspace ← Action.state
  (workspace.storage.definitionFiles path).forM fun file => do
    let commands ← readCommandFile file
    commands.forM fun command => addCommand command (some file)

/-- Reads the folders of the commands, unless that has been done. -/
def load : Session Unit := do
  let workspace ← Action.state
  let table := workspace.commands
  if table.loaded then return ()
  else
    modifyCommands fun table => { table with loaded := true }
    (table.library.toList ++ table.project.toList).forM readCommandFolder

/-- The commands in order, each with its path. -/
def listing : Session (List (Command × Option String)) := do
  load
  let table := (← Action.state).commands
  return table.commands.entries.map fun entry => (entry.2, table.paths.get? entry.1)

/-- The command of a name. -/
def command? (name : String) : Session (Option Command) := do
  load
  return (← Action.state).commands.commands.get? name

/-- Compiles an expression for a command. -/
def compileForCommand (text : String) : Session Stamped := do
  let workspace ← Action.state
  Action.within (·.commands.compiler)
    (fun compiler workspace =>
      { workspace with commands := { workspace.commands with compiler := compiler } })
    (Compiler.compile workspace.types text)

/-- The compiled expressions of a command, the main one first. -/
def compiled (name : String) : Session (List Stamped) := do
  match ← command? name with
  | none => Action.refuse (.unknownCommand name)
  | some command =>
    match (← Action.state).commands.compiled.get? name with
    | some results => return results
    | none =>
      let results ← command.expressions.mapM compileForCommand
      modifyCommands (·.keep name results)
      return results

/-- Registers a command. If it is to be compiled at once and does not compile, nothing is
registered. -/
def register (command : Command) (atOnce : Bool) : Session Unit := do
  load
  if atOnce then
    let results ← command.expressions.mapM compileForCommand
    addCommand command none
    modifyCommands (·.keep command.name results)
  else addCommand command none

/-- Takes a command out, and answers whether there was one. -/
def remove (name : String) : Session Bool := do
  load
  let known := (← Action.state).commands.commands.contains name
  modifyCommands (·.remove name)
  return known

/-- The first expression that has a reading of a line. -/
def firstReading (line : String) : List Stamped → Session (Option (Expression × Reading))
  | [] => return none
  | result :: rest => do
    match ← result.expression.readNoted line with
    | some reading => return some (result.expression, reading)
    | none => firstReading line rest

/-- Passes over a command that does not compile, with a warning the first time. -/
def skip (name : String) (fault : Fault) : Session Unit := do
  let table := (← Action.state).commands
  if table.broken.contains name then return ()
  else
    modifyCommands fun table => { table with broken := name :: table.broken }
    Action.note .warning (table.skipping name fault)

/-- What a command makes of a line. -/
def tryCommand (line : String) (command : Command) : Session (Option Dispatched) := do
  match ← Action.outcome (compiled command.name) with
  | .ok results =>
    return (← firstReading line results).map fun (expression, reading) =>
      ⟨command, expression.text, reading⟩
  | .error fault =>
    if fault.isGrammar then
      skip command.name fault
      return none
    else Action.refuse fault

/-- The first of some commands that has a reading of a line. -/
def dispatchAmong (line : String) : List Command → Session (Option Dispatched)
  | [] => return none
  | command :: rest => do
    match ← tryCommand line command with
    | some found => return some found
    | none => dispatchAmong line rest

/-- The first command that has a reading of a line. -/
def dispatch (line : String) : Session (Option Dispatched) := do
  load
  dispatchAmong line (← Action.state).commands.commands.values

/-- All commands that have a reading of a line. -/
def dispatchAll (line : String) : Session (List Dispatched) := do
  load
  let found ← (← Action.state).commands.commands.values.mapM (tryCommand line)
  return found.filterMap id

/-- Commands as data. -/
def commandFile (name : String) (commands : List Command) : Document :=
  (CommandSet.mk CommandSet.defaultSchema name "" commands).described "schema"

/-- Writes all commands without a file to a file of the project, and answers its path. -/
def save (name : String) : Session String := do
  match (← Action.state).commands.project with
  | none => Action.refuse .noProject
  | some project =>
    load
    let commands := (← Action.state).commands.unsaved
    let path := Path.join project (name ++ ".yaml")
    writeInto project path (commandFile name commands)
    modifyCommands fun table =>
      commands.foldl (fun table command => table.place command.name (some path)) table
    return path

end Workspace

end LineGrammar
