import LineGrammar.Definition.Check
import LineGrammar.Text.Case
import LineGrammar.TypeTable

/-!
# Definitions of types

A type may be defined by data alone: a fragment or a list of choices, a conversion, and a range for
the numbers that the conversion makes. The definition gives the fragment under which the type is
registered and the conversion of its values. Choices do not regard case; the value is the choice as
it was declared, and of choices that differ only in case the last.
-/

namespace LineGrammar

open LineGrammar.Definition LineGrammar.Numeral LineGrammar.Text

/-- What a definition makes of a text. -/
inductive ConversionKind where
  | text
  | integer
  | decimal
deriving DecidableEq, Repr

/-- The word for a conversion. -/
def ConversionKind.word : ConversionKind → String
  | .text => "str"
  | .integer => "int"
  | .decimal => "float"

/-- The conversion of a word. -/
def ConversionKind.ofWord? (word : String) : Option ConversionKind :=
  [text, integer, decimal].find? (·.word == word)

/-- A type that is defined by data. -/
structure TypeDefinition where
  name : String
  pattern : Option String
  conversion : ConversionKind
  description : String
  minimum : Option Binary64
  maximum : Option Binary64
  choices : Option (List String)
  /-- Whether the values may stand in quotes. -/
  quoted : Bool
deriving DecidableEq

namespace TypeDefinition

/-- The name of the kind of definition. -/
def kind : String := "TypeMapDefinition"

/-- Whether the values have to lie in a range. -/
def hasRange (definition : TypeDefinition) : Bool :=
  definition.minimum.isSome || definition.maximum.isSome

/-- The choices, if there are any to choose from. -/
def effectiveChoices (definition : TypeDefinition) : Option (List String) :=
  match definition.choices with
  | some (first :: rest) => some (first :: rest)
  | _ => none

/-- A conversion by its word. -/
def conversionOf : Document → Checked ConversionKind
  | .text word =>
    match ConversionKind.ofWord? word with
    | some conversion => .ok conversion
    | none => Checked.refuse .notConversion
  | _ => Checked.refuse .notConversion

/-- A fragment without capturing groups; the name is for the message. -/
def fragmentOf (name : Option String) : Document → Checked String
  | .text fragment =>
    match Fragment.embeddedGroups fragment with
    | .ok 0 => .ok fragment
    | .ok _ => Checked.refuse (.rule (Fault.capturing (name.getD "?")).message)
    | .error .excessiveCount =>
      .error (.fault (.pattern (Fragment.embedded fragment) .excessiveCount))
    | .error (.fault found) =>
      Checked.refuse (.rule ("Invalid pattern: " ++ found.message (Fragment.embedded fragment)))
    | .error refusal => Checked.refuse (.rule (refusal.message (Fragment.embedded fragment)))
  | _ => Checked.refuse .notText

/-- The rules for a definition as a whole: there is something to match, and a range belongs to
numbers. -/
def admitted (definition : TypeDefinition) : Checked TypeDefinition :=
  if definition.pattern.isNone && definition.effectiveChoices.isNone then
    Checked.refuse (.rule ("Type map '" ++ definition.name ++ "' needs a pattern or choices"))
  else if definition.hasRange && definition.conversion == .text then
    Checked.refuse (.rule ("Type map '" ++ definition.name
      ++ "' has minimum/maximum but converts to str; use int or float"))
  else .ok definition

/-- Checks the fields of a definition, and then the rules for the whole. -/
def ofFields (fields : List (String × Document)) : Checked TypeDefinition :=
  let name := required "name" nonEmptyText fields
  let checked := Checked.sound TypeDefinition.mk
    |>.apply name
    |>.apply (optional "pattern" none (orNull (fragmentOf name.toOption)) fields)
    |>.apply (optional "convert" .text conversionOf fields)
    |>.apply (optional "description" "" text fields)
    |>.apply (optional "minimum" none (orNull number) fields)
    |>.apply (optional "maximum" none (orNull number) fields)
    |>.apply (optional "choices" none (orNull (listOf text)) fields)
    |>.apply (optional "quoted" true truth fields)
  checked >>= admitted

/-- Checks data for a definition. -/
def check : Document → Checked TypeDefinition := record kind ofFields

/-- The definition that data stands for. -/
def ofDocument (data : Document) : Except Fault TypeDefinition := (check data).outcome kind

/-- A bound as data. -/
def boundDescribed : Option Binary64 → Document
  | some bound => .number bound
  | none => .null

/-- Choices as data. -/
def choicesDescribed : Option (List String) → Document
  | some words => .list (words.map .text)
  | none => .null

/-- A fragment as data. -/
def patternDescribed : Option String → Document
  | some fragment => .text fragment
  | none => .null

/-- The fields of a definition, each with whether it says more than would hold without it. -/
def fields (definition : TypeDefinition) : List (String × Document × Bool) :=
  [("name", .text definition.name, true),
    ("pattern", patternDescribed definition.pattern, definition.pattern.isSome),
    ("convert", .text definition.conversion.word, definition.conversion != .text),
    ("description", .text definition.description, !definition.description.isEmpty),
    ("minimum", boundDescribed definition.minimum, definition.minimum.isSome),
    ("maximum", boundDescribed definition.maximum, definition.maximum.isSome),
    ("choices", choicesDescribed definition.choices, definition.choices.isSome),
    ("quoted", .boolean definition.quoted, !definition.quoted)]

/-- A definition as data with all fields. -/
def described (definition : TypeDefinition) : Document :=
  .record (definition.fields.map fun field => (field.1, field.2.1))

/-- A definition as data without the fields that say nothing. -/
def briefly (definition : TypeDefinition) : Document :=
  .record ((definition.fields.filter (·.2.2)).map fun field => (field.1, field.2.1))

/-- The fragment of a defined type. -/
def fragment (definition : TypeDefinition) : String :=
  let bare := definition.pattern.getD (Fragment.oneOf (definition.choices.getD []))
  if definition.quoted then Fragment.quotedVariants bare else bare

/-- The choice that a text names, if it names one. -/
def chosen? (words : List String) (text : String) : Option String :=
  words.reverse.find? fun word => lowered word == lowered text

/-- A number is compared with a bound by the values themselves. -/
def isBelow (value : Value) (bound : Binary64) : Bool :=
  match value with
  | .integer n => Binary64.intLt n bound
  | .number x => x.lt bound
  | _ => false

/-- A number is compared with a bound by the values themselves. -/
def isAbove (value : Value) (bound : Binary64) : Bool :=
  match value with
  | .integer n => Binary64.ltInt n bound
  | .number x => bound.lt x
  | _ => false

/-- The text that is converted: a choice in its declared form, or else the text itself. -/
def canonical (definition : TypeDefinition) (text : String) : Except Fault String :=
  match definition.effectiveChoices with
  | none => .ok text
  | some words =>
    match chosen? words text with
    | some word => .ok word
    | none => .error (.rejected (LineGrammar.Text.quoted text ++ " is not one of "
        ++ shownTexts words))

/-- A text as the conversion of a definition makes it. -/
def converted (definition : TypeDefinition) (text : String) : Except Fault Value :=
  match definition.conversion with
  | .text => .ok (.text text)
  | .integer => .integer <$> ValueType.integerOf text
  | .decimal => .number <$> ValueType.decimalOf text

/-- Rejects a value below the minimum. -/
def aboveMinimum (definition : TypeDefinition) (value : Value) : Except Fault Value :=
  match definition.minimum with
  | some bound =>
    if isBelow value bound then
      .error (.rejected (value.shown ++ " is below " ++ bound.text))
    else .ok value
  | none => .ok value

/-- Rejects a value above the maximum. -/
def belowMaximum (definition : TypeDefinition) (value : Value) : Except Fault Value :=
  match definition.maximum with
  | some bound =>
    if isAbove value bound then
      .error (.rejected (value.shown ++ " is above " ++ bound.text))
    else .ok value
  | none => .ok value

/-- The value of a text of a defined type. -/
def convert (definition : TypeDefinition) (text : String) : Except Fault Value := do
  let text ← definition.canonical text
  let value ← definition.converted text
  definition.belowMaximum (← definition.aboveMinimum value)

/-- The conversion of a defined type. -/
def asConversion (definition : TypeDefinition) : Conversion := fun _ text => definition.convert text

/-- Registers a defined type and answers it. -/
def register (definition : TypeDefinition) : Action Fault TypeTable ValueType :=
  TypeTable.registerNoted definition.name definition.fragment (some definition.asConversion)

end TypeDefinition

/-- Several definitions of types in one document. -/
structure TypeSet where
  schema : String
  definitions : List TypeDefinition

namespace TypeSet

/-- The name of the kind of document. -/
def kind : String := "TypeMapSet"

/-- The schema of a document that names none. -/
def defaultSchema : String := "typemaps/v1"

/-- Checks the fields of a set. The schema goes by two names, of which the first counts. -/
def ofFields (fields : List (String × Document)) : Checked TypeSet :=
  Checked.sound TypeSet.mk
    |>.apply (field ["schema", "schema_version"] (.ok defaultSchema) text fields)
    |>.apply (optional "types" [] (listOf TypeDefinition.check) fields)

/-- The set that data stands for. -/
def ofDocument (data : Document) : Except Fault TypeSet := (record kind ofFields data).outcome kind

/-- A set as data, its schema under a given name. -/
def described (schemaName : String) (set : TypeSet) : Document :=
  .record [(schemaName, .text set.schema),
    ("types", .list (set.definitions.map TypeDefinition.described))]

end TypeSet

end LineGrammar
