import LineGrammar.Workspace.Commands
import LineGrammar.Workspace.Library

/-!
# A demonstration

The demonstration shows an expression with optional groups, a type with a conversion of its own, and
the dispatch of lines to the commands of the library.
-/

namespace LineGrammar.Demonstration

open LineGrammar.Text

/-- A text filled up with blanks to a width. -/
def padded (width : Nat) (text : String) : String :=
  text ++ String.ofList (List.replicate (width - text.length) ' ')

/-- A line with what came of it. -/
def outcomeLine (line result : String) : String :=
  "  " ++ padded 40 (quoted line) ++ " -> " ++ result

/-- The named values of a reading as messages show them. -/
def shownValues (reading : Reading) : String := shownNamed reading.named.entries

/-- What an expression makes of a line. -/
def readingLine (expression : Expression) (line : String) : Except Fault String := do
  match ← expression.read line with
  | some reading =>
    return outcomeLine line (if reading.captures.isEmpty then "no match" else shownValues reading)
  | none => return outcomeLine line "no match"

/-- The hours of a day. -/
def hour : Conversion := fun _ text => do
  let n ← ValueType.integerOf text
  if 23 < n then .error (.rejected (text ++ " is not an hour")) else return .integer n

/-- An expression with optional groups. -/
def optionalGroups : Except Fault (List String) := do
  let expression ← Expression.compile .numeric "go [to :place] [with *items]"
  let lines ← ["go", "go to kitchen", "go to 'dining room' with knife, fork",
    "go away now"].mapM (readingLine expression)
  return ["Expression: " ++ expression.text, "  Pattern: " ++ expression.pattern.source]
    ++ lines ++ [""]

/-- A type of its own. -/
def ownType : Except Fault (List String) := do
  let types ← TypeTable.numeric.register "Hour" "\\d\x7b1,2\x7d" (some hour)
  let expression ← Expression.compile types "wake me at :hour@Hour"
  let lines ← ["wake me at 7", "wake me at 31"].mapM (readingLine expression)
  return ["Expression: " ++ expression.text] ++ lines ++ [""]

/-- What the library makes of a line. -/
def dispatchLine (line : String) : Session String := do
  match ← Workspace.dispatch line with
  | some found =>
    return outcomeLine line (found.command.name ++ " " ++ shownValues found.reading)
  | none => return outcomeLine line "no command"

/-- The commands of the library, and some lines. -/
def libraryLines : Session (List String) := do
  let commands ← Workspace.listing
  let lines ← ["roll 3 dice with 6 sides", "dice 2", "invite alice, bob to \"#general\"",
    "say hello there", "mode ON", "dance"].mapM dispatchLine
  return ["Available commands:"]
    ++ commands.map (fun entry => "  " ++ entry.1.name ++ ": " ++ entry.1.expression)
    ++ ["", "Dispatch:"] ++ lines

/-- The folder of the library in the demonstration. -/
def folder : String := "library"

/-- The lines of the demonstration. -/
def lines : Except Fault (List String) := do
  let groups ← optionalGroups
  let own ← ownType
  let workspace := Workspace.fresh (Library.install folder .empty) .numeric (some folder) none
  let library ← (libraryLines.runFrom workspace).1
  return ["CHUK Grammar Demo", String.ofList (List.replicate 40 '='), ""] ++ groups ++ own
    ++ library

end LineGrammar.Demonstration
