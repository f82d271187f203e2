import LineGrammar.Fragment
import LineGrammar.Journal
import LineGrammar.Table
import LineGrammar.Value

/-!
# Types of values

A type of values has a name, a fragment that says which texts are its own, and possibly a
conversion, which makes a value of a text or rejects it. The types of a grammar are kept in a table
that counts its changes: whoever keeps something derived from the table can tell by the count
whether it still holds.

Six types are there from the start: integers and decimals, each with any sign, without a minus, or
with one. They take their numerals bare or in quotes.
-/

namespace LineGrammar

open LineGrammar.Numeral

/-- Makes a value of a text for the capture of an expression; a conversion outside of a match is
given no expression. -/
abbrev Conversion := Option String → String → Except Fault Value

/-- A type of values. -/
structure ValueType where
  name : String
  pattern : String
  convert? : Option Conversion

namespace ValueType

/-- The value that a type makes of a text; without a conversion, the text itself. -/
def convert (type : ValueType) (expression : Option String) (text : String) :
    Except Fault Value :=
  match type.convert? with
  | none => .ok (.text text)
  | some conversion => conversion expression text

/-- A text as an integer. -/
def integerOf (text : String) : Except Fault Int :=
  match readInteger text.toList with
  | .ok n => .ok n
  | .error e => .error (.integer text e)

/-- A text as a decimal. -/
def decimalOf (text : String) : Except Fault Binary64 :=
  match readDecimal text.toList with
  | some x => .ok x
  | none => .error (.decimal text)

/-- The conversion to integers. -/
def toInteger : Conversion := fun _ text => .integer <$> integerOf text

/-- The conversion to decimals. -/
def toDecimal : Conversion := fun _ text => .number <$> decimalOf text

/-- The numeric types with their fragments and conversions. -/
def numeric : List ValueType :=
  [("Integer", "[+-]?\\d+", toInteger),
    ("+Integer", "\\+?\\d+", toInteger),
    ("-Integer", "-\\d+", toInteger),
    ("Float", "[+-]?\\d+(?:\\.\\d+)?", toDecimal),
    ("+Float", "\\+?\\d+(?:\\.\\d+)?", toDecimal),
    ("-Float", "-\\d+(?:\\.\\d+)?", toDecimal)].map fun (name, fragment, conversion) =>
      ⟨name, Fragment.quotedVariants fragment, some conversion⟩

end ValueType

/-- The types of a grammar by name, and the number of changes made to them. -/
structure TypeTable where
  types : Table ValueType
  version : Nat

namespace TypeTable

/-- The table without types. -/
def empty : TypeTable := ⟨.empty, 0⟩

/-- The table of the numeric types. -/
def numeric : TypeTable := ⟨.ofEntries (ValueType.numeric.map fun type => (type.name, type)), 0⟩

/-- The type of a name. -/
def lookup (table : TypeTable) (name : String) : Option ValueType := table.types.get? name

/-- Whether a name has a type. -/
def contains (table : TypeTable) (name : String) : Bool := table.types.contains name

/-- The names of the types in the order of their characters. -/
def names (table : TypeTable) : List String :=
  table.types.keys.mergeSort fun a b => decide (a ≤ b)

/-- What keeps a fragment from being the pattern of a type: it is no pattern inside of another one,
or it captures. -/
def obstacle? (name fragment : String) : Option Fault :=
  match Fragment.embeddedGroups fragment with
  | .error (.fault found) => some (.unembeddable name (Fragment.embedded fragment) found)
  | .error refusal => some (.pattern (Fragment.embedded fragment) refusal)
  | .ok 0 => none
  | .ok _ => some (.capturing name)

/-- Gives a name a type, in the place of its old one or else after all others. -/
def register (table : TypeTable) (name fragment : String) (conversion : Option Conversion) :
    Except Fault TypeTable :=
  match obstacle? name fragment with
  | some fault => .error fault
  | none => .ok ⟨table.types.insert name ⟨name, fragment, conversion⟩, table.version + 1⟩

/-- What is noted when a name takes a new type. -/
def redefinition (name : String) : String := "Redefining type map '" ++ name ++ "'"

/-- Gives a name a type and answers the type; the loss of an old type is noted. -/
def registerNoted (name fragment : String) (conversion : Option Conversion) :
    Action Fault TypeTable ValueType := do
  let table ← Action.state
  let changed ← Action.ofExcept (table.register name fragment conversion)
  if table.contains name then Action.note .warning (redefinition name)
  Action.setState changed
  return ⟨name, fragment, conversion⟩

/-- Takes a type out; an unknown name changes nothing. -/
def unregister (table : TypeTable) (name : String) : TypeTable :=
  if table.contains name then ⟨table.types.erase name, table.version + 1⟩ else table

/-- Goes back to the numeric types alone. -/
def reset (table : TypeTable) : TypeTable := { numeric with version := table.version + 1 }

/-- The same types in a table whose changes are counted anew. -/
def copy (table : TypeTable) : TypeTable := { table with version := 0 }

end TypeTable

end LineGrammar
