import LineGrammar.Fault
import LineGrammar.Text.Space

/-!
# The outline of an expression

Brackets in an expression mark optional groups; the text between two brackets is a segment. The
outline keeps the segments and groups in order. Segments are trimmed, and a segment without text is
left out. Reading goes from left to right with a stack of open groups; it fails at the first closing
bracket that no group is open for, and else, when groups are left open, at the innermost of them.

An outline is either done, or begins with a segment or a group and goes on with the rest. So every
function on outlines is structurally recursive.
-/

namespace LineGrammar

open LineGrammar.Text

/-- The segments and optional groups of an expression in order. -/
inductive Outline where
  | done
  | segment (text : String) (rest : Outline)
  | optional (inner rest : Outline)
deriving DecidableEq, Repr

namespace Outline

/-- What is met on a walk through an outline. -/
inductive Event where
  | enter
  | leave
  | segment (text : String)
deriving DecidableEq, Repr

/-- The walk through an outline: every group is entered and left around what it holds. -/
def events : Outline → List Event
  | done => []
  | segment text rest => .segment text :: rest.events
  | optional inner rest => .enter :: inner.events ++ .leave :: rest.events

/-- An outline with another one after it. -/
def append : Outline → Outline → Outline
  | done, after => after
  | segment text rest, after => segment text (rest.append after)
  | optional inner rest, after => optional inner (rest.append after)

/-- An outline with a trimmed run of text after it, unless the run is blank. -/
def addText (before : Outline) (run : List Char) : Outline :=
  let text := trim run
  if text.isEmpty then before else before.append (segment (String.ofList text) done)

/-- An open group: what stands before it, and the position of its bracket. -/
structure OpenGroup where
  before : Outline
  opening : Nat

/-- Reads the rest of an expression from a position, given the open groups from the innermost
outward, what the current group holds so far, and the run of text since the last bracket, latest
character first. -/
def readFrom (expression : String) :
    List Char → Nat → List OpenGroup → Outline → List Char → Except Fault Outline
  | [], _, [], current, run => .ok (current.addText run.reverse)
  | [], _, group :: _, _, _ =>
    .error (.malformed .unclosedOpen (some expression) (some group.opening))
  | '[' :: rest, position, groups, current, run =>
    readFrom expression rest (position + 1)
      (⟨current.addText run.reverse, position⟩ :: groups) done []
  | ']' :: _, position, [], _, _ =>
    .error (.malformed .unmatchedClose (some expression) (some position))
  | ']' :: rest, position, group :: groups, current, run =>
    readFrom expression rest (position + 1) groups
      (group.before.append (optional (current.addText run.reverse) done)) []
  | c :: rest, position, groups, current, run =>
    readFrom expression rest (position + 1) groups current (c :: run)

/-- The outline of an expression. -/
def read (expression : String) : Except Fault Outline :=
  readFrom expression expression.toList 0 [] done []

/-- An outline written as an expression again. -/
def written : Outline → List Char
  | done => []
  | segment text rest => text.toList ++ rest.written
  | optional inner rest => '[' :: inner.written ++ ']' :: rest.written

/-- The parts of an outline as messages show them. -/
def shownParts : Outline → List String
  | done => []
  | segment text rest => ("Segment(" ++ quoted text ++ ")") :: rest.shownParts
  | optional inner rest =>
    ("Group(children=[" ++ ", ".intercalate inner.shownParts ++ "], optional=True)")
      :: rest.shownParts

/-- An outline as messages show it. -/
def shown (outline : Outline) : String :=
  "Group(children=[" ++ ", ".intercalate outline.shownParts ++ "], optional=False)"

end Outline

end LineGrammar
