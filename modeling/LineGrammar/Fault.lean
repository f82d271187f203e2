import LineGrammar.Definition.Problem
import LineGrammar.Document.Basic
import LineGrammar.Numeral.Decimal
import LineGrammar.Pattern.Error

/-!
# Faults

A fault is the cause of a failure. Faults of grammar are those of expressions, types, commands and
rejected values; a caller may expect them. All other faults come from what a grammar is built of:
patterns, numerals, definitions, documents and files. The wording of every fault is given by one
function, `Fault.message`.
-/

namespace LineGrammar

open LineGrammar.Numeral LineGrammar.Text

/-- What is wrong with the structure of an expression. -/
inductive StructureProblem where
  /-- A closing bracket without an opening one. -/
  | unmatchedClose
  /-- An opening bracket that is not closed. -/
  | unclosedOpen
  /-- A problem in a caller's own words. -/
  | other (message : String)
deriving DecidableEq, Repr

/-- The wording of a problem. -/
def StructureProblem.message : StructureProblem → String
  | .unmatchedClose => "Unmatched ']' with no open optional group"
  | .unclosedOpen => "Unclosed '[' at end of expression"
  | .other message => message

/-- What keeps a date from being one of the calendar. -/
inductive CalendarProblem where
  | year
  | month
  | day
  | hour
  | minute
  | second
deriving DecidableEq, Repr

/-- The wording of a problem with a date. -/
def CalendarProblem.message : CalendarProblem → String
  | .year => "year 0 is out of range"
  | .month => "month must be in 1..12"
  | .day => "day is out of range for month"
  | .hour => "hour must be in 0..23"
  | .minute => "minute must be in 0..59"
  | .second => "second must be in 0..59"

/-- The cause of a failure. -/
inductive Fault where
  /-- A fault of grammar in a caller's own words. -/
  | grammar (message : String)
  | malformed (problem : StructureProblem) (expression : Option String) (position : Option Int)
  /-- A word with a constraint that only a capture can carry. -/
  | missingSigil (name : String) (segment : Option String)
  | unknownType (name : String)
  | unknownCommand (name : String)
  /-- A value that the type of its capture rejects. -/
  | rejected (reason : String)
  /-- A text that is no pattern. -/
  | pattern (source : String) (refusal : Pattern.Refusal)
  /-- A pattern of a type that cannot stand inside of another one, shown where it would stand. -/
  | unembeddable (name source : String) (found : Pattern.Fault)
  /-- A pattern of a type that holds capturing groups. -/
  | capturing (name : String)
  | integer (text : String) (error : IntegerError)
  | decimal (text : String)
  | quotientTooGreat
  | calendar (problem : CalendarProblem)
  | noProject
  | noSuchGroup
  | outOfRange
  | zeroStep
  | invalid (data : Definition.Invalid)
  | document (path : String) (found : DocumentFault)
  | missingFile (path : String)
  | isDirectory (path : String)
deriving DecidableEq

/-- The wording of a fault. -/
def Fault.message : Fault → String
  | .grammar message => message
  | .malformed problem expression position =>
    problem.message
      ++ (match position with
        | some position => " (at position " ++ toString position ++ ")"
        | none => "")
      ++ (match expression with
        | some expression => " in " ++ quoted expression
        | none => "")
  | .missingSigil name segment =>
    "Constraint on '" ++ name ++ "' without a capture sigil (forgot :, * or +?)"
      ++ (match segment with
        | some segment => " in " ++ quoted segment
        | none => "")
  | .unknownType name => "Unknown type '" ++ name ++ "'"
  | .unknownCommand name => "Command '" ++ name ++ "' not found."
  | .rejected reason => reason
  | .pattern source refusal => refusal.message source
  | .unembeddable name source found =>
    "Pattern for type map '" ++ name ++ "' cannot be embedded: " ++ found.message source
  | .capturing name =>
    "Pattern for type map '" ++ name ++ "' must not contain capturing groups; use (?:...)"
  | .integer text error => error.message text
  | .decimal text => decimalMessage text
  | .quotientTooGreat => "integer division result too large for a float"
  | .calendar problem => problem.message
  | .noProject => "No project path configured"
  | .noSuchGroup => "no such group"
  | .outOfRange => "list index out of range"
  | .zeroStep => "slice step cannot be zero"
  | .invalid data => data.message
  | .document path found => found.message path
  | .missingFile path => "[Errno 2] No such file or directory: " ++ quoted path
  | .isDirectory path => "[Errno 21] Is a directory: " ++ quoted path

/-- Whether a fault is one of grammar. -/
def Fault.isGrammar : Fault → Bool
  | .grammar _ | .malformed .. | .missingSigil .. | .unknownType _ | .unknownCommand _
  | .rejected _ => true
  | _ => false

end LineGrammar
