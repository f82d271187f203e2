import LineGrammar.Expression.Capture
import LineGrammar.Outline

/-!
# Expressions

An expression is compiled to one pattern for whole lines, with one capturing group for each of its
captures. The tokens of a segment follow each other; an optional group may be left out, and is left
out whenever the rest of the line allows it. Every word and every capture asks for white space
before it, except at the front of the pattern; white space at the end of a line does not count.

Two compiled expressions count as the same when their texts are the same.
-/

namespace LineGrammar

open LineGrammar.Text

/-- A compiled expression. -/
structure Expression where
  text : String
  pattern : Pattern
  captures : List Capture

/-- The fragments of several parts one after the other, with all their captures. -/
def joined : List (String × List Capture) → String × List Capture
  | [] => ("", [])
  | (fragment, captures) :: rest =>
    let (after, more) := joined rest
    (fragment ++ after, captures ++ more)

/-- What a segment adds to the pattern of an expression. -/
def segmentCompiled (types : TypeTable) (segment : String) :
    Except Fault (String × List Capture) := do
  let tokens ← Token.scan segment
  return joined (← tokens.mapM (Token.compiled types))

/-- What an outline adds to the pattern of an expression. -/
def Outline.compiled (types : TypeTable) : Outline → Except Fault (String × List Capture)
  | done => .ok ("", [])
  | segment text rest => do
    let (fragment, captures) ← segmentCompiled types text
    let (after, more) ← rest.compiled types
    return (fragment ++ after, captures ++ more)
  | optional inner rest => do
    let (fragment, captures) ← inner.compiled types
    let (after, more) ← rest.compiled types
    return ("(?:" ++ fragment ++ ")??" ++ after, captures ++ more)

namespace Expression

/-- The pattern of a whole line: it begins at the first character, where no white space is asked
for, and ends with any white space. -/
def wholeLine (body : String) : String :=
  let start := match body.toList with
    | '\x5c' :: 's' :: '+' :: rest => String.ofList rest
    | _ => body
  "^" ++ start ++ "\\s*$"

/-- Compiles an expression under a table of types. -/
def compile (types : TypeTable) (text : String) : Except Fault Expression := do
  let outline ← Outline.read text
  let (body, captures) ← outline.compiled types
  let source := wholeLine body
  match Pattern.read source .none with
  | .ok pattern => return { text, pattern, captures }
  | .error refusal => .error (.pattern source refusal)

/-- The names of the captures in order. -/
def names (expression : Expression) : List String := expression.captures.map (·.name)

/-- An expression as data. -/
def described (expression : Expression) : Document :=
  .record [("expression", .text expression.text), ("pattern", .text expression.pattern.source),
    ("captures", .list (expression.captures.map Capture.described))]

/-- An expression as messages show it. -/
def shown (expression : Expression) : String :=
  "CompiledPattern(" ++ quoted expression.text ++ ", /" ++ expression.pattern.source ++ "/)"

/-- Whether two expressions count as the same. -/
def same (expression other : Expression) : Bool := expression.text == other.text

end Expression

end LineGrammar
