import LineGrammar.Document.Json
import LineGrammar.Workspace.Library
import LineGrammar.Workspace.Service
import LineGrammar.Workspace.Tools

/-!
# The program

The program starts a service on the commands of the library. Asked for a check, it compiles every
command, and fails unless all of them compile. Otherwise it answers calls of tools: a line of the
standard input holds a record with the name of a `tool` and the `args` of the call, and one line of
JSON answers it. What is noted goes to the error output, notices of debugging only when they are
asked for by `--debug`.

All decisions are made by pure functions; this module only reads lines and writes them.
-/

namespace LineGrammar.Service

/-- What the program shows when it is asked for help or cannot read its arguments. -/
def usage : String :=
  "usage: linegrammar [--help] [--transport stdio|http] [--port PORT] [--check] [--debug]"

/-- The folders of the program. -/
def ownFolders : Folders := ⟨"library", "commands", "typemaps"⟩

/-- The workspace that the program begins with. -/
def ownWorkspace : Workspace :=
  .fresh (Library.install ownFolders.library .empty) .numeric none none

/-- The notices that are shown. -/
def shownNotices (debugging : Bool) (notices : List Notice) : List String :=
  (notices.filter fun notice => debugging || Level.info.rank ≤ notice.level.rank).map
    fun notice => notice.level.name ++ ": " ++ notice.message

/-- The answer to a line that calls a tool. -/
def answerLine (line : String) : Session Document := do
  let fields := Tool.fieldsOf (← Action.ofExcept (Yaml.read "input" line))
  match Tool.ofName? (Tool.textArgument fields "tool") with
  | none => return Tool.failed "Unknown tool"
  | some tool => tool.call (Tool.fieldsOf (Tool.argument fields "args" .null))

/-- The answer to a line; a line that cannot be read is reported like a failed call. -/
def respond (line : String) : Session Document := do
  match ← Action.outcome (answerLine line) with
  | .ok report => return report
  | .error fault => return Tool.failed fault.message

/-- Runs a session and shows what it notes; a fault is shown as well. -/
def perform {α : Type} (debugging : Bool) (session : Session α) (workspace : Workspace) :
    IO (Option α × Workspace) := do
  let (result, workspace, notices) := session.runFrom workspace
  for text in shownNotices debugging notices do IO.eprintln text
  match result with
  | .ok value => return (some value, workspace)
  | .error fault =>
    IO.eprintln ("error: " ++ fault.message)
    return (none, workspace)

/-- Answers lines until the input ends. -/
partial def answerAll (debugging : Bool) (input output : IO.FS.Stream) (workspace : Workspace) :
    IO Unit := do
  let line ← input.getLine
  if !line.isEmpty then
    let (report, workspace) ← perform debugging (respond line) workspace
    output.putStrLn (Json.written (report.getD .null))
    output.flush
    answerAll debugging input output workspace

/-- Compiles all commands, and answers the exit code. -/
def runCheck (debugging : Bool) : IO UInt32 := do
  let (failures, _) ← perform debugging (startAndCheck ownFolders) ownWorkspace
  return exitCode failures

/-- Answers the calls on the standard input, and answers the exit code. -/
def runCalls (debugging : Bool) : IO UInt32 := do
  let (started, workspace) ← perform debugging (start ownFolders) ownWorkspace
  if started.isNone then return 1
  answerAll debugging (← IO.getStdin) (← IO.getStdout) workspace
  return 0

end LineGrammar.Service

/-- Does what the arguments ask for. -/
def main (arguments : List String) : IO UInt32 := do
  let debugging := arguments.contains "--debug"
  match LineGrammar.Service.requestOf arguments with
  | .help =>
    IO.println LineGrammar.Service.usage
    return 0
  | .wrong =>
    IO.eprintln LineGrammar.Service.usage
    return 2
  | .run true => LineGrammar.Service.runCheck debugging
  | .run false => LineGrammar.Service.runCalls debugging
