import LineGrammar.Document.Basic
import LineGrammar.Token
import LineGrammar.TypeTable

/-!
# Captures

A token with a sigil captures a part of the line. What such a part looks like is its element: the
choices of the token if there are any, else the fragment of its type, else an argument. Free text
has no element. An argument captures one element, an argument list one or more of them; the text of
a list is taken apart again by a pattern of its own, the splitter, which finds an element only where
it ends at a separator or at the end.
-/

namespace LineGrammar

/-- What becomes of a capturing group: its name, its type, and for a list the pattern that takes it
apart. -/
structure Capture where
  name : String
  kind : TokenKind
  type : Option ValueType
  splitter : Option Pattern

namespace Capture

/-- Whether a capture is taken apart into elements. -/
def isList (capture : Capture) : Bool := capture.splitter.isSome

/-- A capture as data. -/
def described (capture : Capture) : Document :=
  .record [("name", .text capture.name), ("kind", .text capture.kind.name),
    ("type", match capture.type with
      | some type => .text type.name
      | none => .null),
    ("list", .boolean capture.isList)]

end Capture

namespace Token

/-- The fragment for one element of a capture. Choices that name no word do not count. -/
def element (token : Token) (type : Option ValueType) : String :=
  match token.choices, type with
  | some (first :: rest), _ => Fragment.oneOf (first :: rest)
  | _, some type => type.pattern
  | _, none => if token.kind = .argumentList then Fragment.listArgument else Fragment.argument

/-- The type that a token asks for. -/
def typeIn (types : TypeTable) (token : Token) : Except Fault (Option ValueType) :=
  match token.type with
  | none => .ok none
  | some name =>
    match types.lookup name with
    | some type => .ok (some type)
    | none => .error (.unknownType name)

/-- The pattern that takes a list of elements apart. -/
def splitterOf (element : String) : Except Fault Pattern :=
  let source := Fragment.listElement element
  match Pattern.read source .none with
  | .ok pattern => .ok pattern
  | .error refusal => .error (.pattern source refusal)

/-- A fragment as a capturing group after white space. -/
def captured (fragment : String) : String := Fragment.separator ++ "(" ++ fragment ++ ")"

/-- What a token adds to the pattern of an expression, and the captures of the groups in it. -/
def compiled (types : TypeTable) (token : Token) : Except Fault (String × List Capture) :=
  match token.kind with
  | .symbol => .ok (Pattern.escaped token.name, [])
  | .word => .ok (Fragment.separator ++ Pattern.escaped token.name, [])
  | .freeText => .ok (captured Fragment.freeText, [⟨token.name, .freeText, none, none⟩])
  | .argument => do
    let type ← token.typeIn types
    return (captured (token.element type), [⟨token.name, .argument, type, none⟩])
  | .argumentList => do
    let type ← token.typeIn types
    let element := token.element type
    let splitter ← splitterOf element
    return (captured (Fragment.oneOrMoreOf element),
      [⟨token.name, .argumentList, type, some splitter⟩])

end Token

end LineGrammar
