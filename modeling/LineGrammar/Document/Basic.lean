import LineGrammar.Numeral.Binary64

/-!
# Documents

A document is the data that a file or a caller hands over, before anything is known about its shape:
the scalar values, lists, and records with named fields in order. A value of a further kind that a
file can spell, such as a date, is kept as a value of another kind, which no definition accepts.
-/

namespace LineGrammar

open LineGrammar.Numeral

/-- Data of any shape. -/
inductive Document where
  | null
  | boolean (value : Bool)
  | integer (value : Int)
  | number (value : Binary64)
  | text (content : String)
  | list (elements : List Document)
  | record (fields : List (String × Document))
  /-- A value of a kind that no definition asks for. -/
  | other
deriving Inhabited

namespace Document

/-- The value of a field; of a repeated name the last value. -/
def field? (name : String) (fields : List (String × Document)) : Option Document :=
  fields.reverse.lookup name

/-- Whether a document holds nothing: it is null, false, zero, or without characters, elements or
fields. -/
def isVoid : Document → Bool
  | .null => true
  | .boolean value => !value
  | .integer value => value == 0
  | .number value => value.beq .zero
  | .text content => content.isEmpty
  | .list elements => elements.isEmpty
  | .record fields => fields.isEmpty
  | .other => false

end Document

/-- A place in a text, counted from zero. -/
structure Mark where
  index : Nat
  line : Nat
  column : Nat
deriving DecidableEq, Inhabited, Repr

/-- The step of reading a document at which a fault shows. -/
inductive DocumentStage where
  /-- The text does not fall into tokens. -/
  | scanning
  /-- The tokens do not form a document. -/
  | parsing
  /-- The document refers to what it does not hold. -/
  | composing
  /-- The parts of the document do not stand for data. -/
  | constructing
deriving DecidableEq, Repr

/-- Why a text is no document. -/
inductive DocumentFault where
  /-- A character that no document may hold. -/
  | unacceptable (code position : Nat)
  /-- A code in an escape that is beyond all characters. -/
  | noCharacter
  /-- A problem at a place, within a context at a place of its own. -/
  | marked (stage : DocumentStage) (context : Option (String × Mark)) (problem : String)
      (place : Mark)
deriving DecidableEq, Repr

/-- A place as messages show it. -/
def Mark.shown (name : String) (mark : Mark) : String :=
  "  in \"" ++ name ++ "\", line " ++ toString (mark.line + 1) ++ ", column "
    ++ toString (mark.column + 1)

/-- The message of a fault in the document of a given name. The place of the context is left out
when it is that of the problem. -/
def DocumentFault.message (name : String) : DocumentFault → String
  | .unacceptable code position =>
    "unacceptable character #x" ++ String.ofList
        (let digits := Nat.toDigits 16 code
         List.replicate (4 - digits.length) '0' ++ digits)
      ++ ": special characters are not allowed\n  in \"" ++ name ++ "\", position "
      ++ toString position
  | .noCharacter => "chr() arg not in range(0x110000)"
  | .marked _ context problem place =>
    let before := match context with
      | none => []
      | some (text, mark) =>
        if mark.line = place.line && mark.column = place.column then [text]
        else [text, mark.shown name]
    "\n".intercalate (before ++ [problem, place.shown name])

end LineGrammar
