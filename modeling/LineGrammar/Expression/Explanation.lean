import LineGrammar.Document.Basic
import LineGrammar.Outline
import LineGrammar.Token

/-!
# Explanations

An explanation shows how an expression is built: its segments with their tokens, and its optional
groups. It does not ask whether the types that tokens refer to are known.
-/

namespace LineGrammar

/-- A token as data; parts that it does not have are left out. -/
def Token.described (token : Token) : Document :=
  .record ([("kind", .text token.kind.name), ("name", .text token.name)]
    ++ (token.remark.map fun text => ("annotation", Document.text text)).toList
    ++ (token.type.map fun name => ("type", Document.text name)).toList
    ++ (token.choices.map fun words => ("choices", Document.list (words.map .text))).toList)

namespace Outline

/-- The parts of an outline as data. -/
def describedParts : Outline → List Document
  | done => []
  | segment text rest => .record [("segment", .text text)] :: rest.describedParts
  | optional inner rest =>
    .record [("optional", .boolean true), ("children", .list inner.describedParts)]
      :: rest.describedParts

/-- An outline as data. -/
def described (outline : Outline) : Document :=
  .record [("optional", .boolean false), ("children", .list outline.describedParts)]

/-- The parts of an outline with the tokens of its segments. -/
def explainedParts : Outline → Except Fault (List Document)
  | done => .ok []
  | segment text rest => do
    let tokens ← Token.scan text
    let after ← rest.explainedParts
    return .record [("segment", .text text), ("tokens", .list (tokens.map Token.described))]
      :: after
  | optional inner rest => do
    let parts ← inner.explainedParts
    let after ← rest.explainedParts
    return .record [("optional", .list parts)] :: after

end Outline

/-- The explanation of an expression. -/
def explained (text : String) : Except Fault Document := do
  let outline ← Outline.read text
  return .record [("expression", .text text), ("nodes", .list (← outline.explainedParts))]

end LineGrammar
