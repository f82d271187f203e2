import LineGrammar.Expression.Basic
import LineGrammar.Journal

/-!
# Readings

A reading holds what the captures of an expression make of a line. A capture whose group took no
part yields nothing. The text of any other group is unwrapped and converted by the type of its
capture; the text of a list is taken apart first, and each of its elements is unwrapped and
converted on its own. The values stand in the order of the captures. By name, a name that several
captures carry means the last of them.

A line has no reading when the pattern does not match it or when a type rejects one of the values.
Any other failure of a conversion is a failure of the reading itself.
-/

namespace LineGrammar

open LineGrammar.Text

/-- A line that was read: the match it was read from, and the value of every capture. -/
structure Reading where
  /-- The expression that was asked, if the reading belongs to one. -/
  expression : Option Expression
  pattern : Pattern
  line : Array Char
  found : Pattern.Match
  captures : List (String × Value)

/-- The value of one text. -/
def Capture.single (asked : Option String) (capture : Capture) (text : String) :
    Except Fault Value :=
  let text := Fragment.unwrap text
  match capture.type with
  | none => .ok (.text text)
  | some type => type.convert asked text

/-- The texts of the elements of a list. A splitter has no groups, so each match is an element. -/
def elementTexts (splitter : Pattern) (text : String) : List String :=
  let chars := text.toList.toArray
  (splitter.findAll chars).map fun found => Pattern.slice chars (found.start, found.stop)

/-- The value of the text of a group. -/
def Capture.value (asked : Option String) (capture : Capture) (text : String) :
    Except Fault Value :=
  match capture.splitter with
  | none => capture.single asked text
  | some splitter => .list <$> (elementTexts splitter text).mapM (capture.single asked)

namespace Reading

/-- The text of a group, unless it took no part. -/
def groupText? (line : Array Char) (found : Pattern.Match) (index : Nat) : Option String :=
  (found.span? index).map (Pattern.slice line)

/-- The values of captures, the first of which belongs to the group of a given number. -/
def valuesFrom (asked : Option String) (line : Array Char) (found : Pattern.Match) :
    Nat → List Capture → Except Fault (List (String × Value))
  | _, [] => .ok []
  | index, capture :: rest => do
    let value ← match groupText? line found index with
      | none => .ok .nothing
      | some text => capture.value asked text
    return (capture.name, value) :: (← valuesFrom asked line found (index + 1) rest)

/-- The reading of a match. Captures beyond the groups of the pattern have no value. -/
def ofMatch (expression : Option Expression) (pattern : Pattern) (captures : List Capture)
    (line : Array Char) (found : Pattern.Match) : Except Fault Reading := do
  let asked := expression.map (·.text)
  let captures ← valuesFrom asked line found 1 (captures.take pattern.groups)
  return { expression, pattern, line, found, captures }

/-- The values of the captures in order. -/
def values (reading : Reading) : List Value := reading.captures.map (·.2)

/-- The values by name. -/
def named (reading : Reading) : Table Value := .ofEntries reading.captures

/-- The text that was matched. -/
def matched (reading : Reading) : String :=
  Pattern.slice reading.line (reading.found.start, reading.found.stop)

/-- A reading as messages show it. -/
def shown (reading : Reading) : String :=
  "MatchResult(" ++ shownNamed reading.named.entries ++ ")"

end Reading

namespace Expression

/-- What comes of a line: nothing when the pattern does not match it, else a reading or a failure to
convert one of its values. -/
def attempt (expression : Expression) (line : String) : Option (Except Fault Reading) :=
  let chars := line.toList.toArray
  (expression.pattern.matchStart chars).map
    (Reading.ofMatch (some expression) expression.pattern expression.captures chars)

/-- The reading of a line, if it has one. -/
def read (expression : Expression) (line : String) : Except Fault (Option Reading) :=
  match expression.attempt line with
  | none => .ok none
  | some (.ok reading) => .ok (some reading)
  | some (.error (.rejected _)) => .ok none
  | some (.error fault) => .error fault

/-- What is noted about a line whose values were rejected. -/
def rejection (expression : Expression) (line reason : String) : String :=
  "Validation rejected " ++ quoted line ++ " for " ++ quoted expression.text ++ ": " ++ reason

/-- The reading of a line, if it has one; a rejection is noted. -/
def readNoted {σ : Type} (expression : Expression) (line : String) :
    Action Fault σ (Option Reading) := do
  match expression.attempt line with
  | none => return none
  | some (.ok reading) => return some reading
  | some (.error (.rejected reason)) =>
    Action.note .debug (expression.rejection line reason)
    return none
  | some (.error fault) => Action.refuse fault

end Expression

end LineGrammar
