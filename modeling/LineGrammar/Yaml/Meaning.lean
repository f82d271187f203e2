import LineGrammar.Fault
import LineGrammar.Pattern.Basic
import LineGrammar.Yaml.Node

/-!
# The data of a document

A plain scalar stands for the kind of data that its text looks like: null, a truth value, an integer
in one of several notations, a number, a date, or else a text. Nodes with explicit tags stand for
what their tags say. An entry of a mapping under the merge mark stands for the entries of another
mapping, which give way to the mapping's own.

Only texts can be names of fields; entries under other keys are checked and then left out.
-/

namespace LineGrammar.Yaml

open LineGrammar.Numeral

/-- The look of a scalar of each kind, in the order in which the kinds are tried. -/
def looks : List (String × String) :=
  [("bool", "^(?:yes|Yes|YES|no|No|NO|true|True|TRUE|false|False|FALSE|on|On|ON|off|Off|OFF)$"),
    ("float",
      "^(?:[-+]?(?:[0-9][0-9_]*)\\.[0-9_]*(?:[eE][-+][0-9]+)?"
        ++ "|\\.[0-9][0-9_]*(?:[eE][-+][0-9]+)?"
        ++ "|[-+]?[0-9][0-9_]*(?::[0-5]?[0-9])+\\.[0-9_]*"
        ++ "|[-+]?\\.(?:inf|Inf|INF)|\\.(?:nan|NaN|NAN))$"),
    ("int",
      "^(?:[-+]?0b[0-1_]+|[-+]?0[0-7_]+|[-+]?(?:0|[1-9][0-9_]*)|[-+]?0x[0-9a-fA-F_]+"
        ++ "|[-+]?[1-9][0-9_]*(?::[0-5]?[0-9])+)$"),
    ("merge", "^(?:<<)$"),
    ("null", "^(?:~|null|Null|NULL|)$"),
    ("timestamp",
      "^(?:[0-9][0-9][0-9][0-9]-[0-9][0-9]-[0-9][0-9]"
        ++ "|[0-9][0-9][0-9][0-9]-[0-9][0-9]?-[0-9][0-9]?(?:[Tt]|[ \\t]+)[0-9][0-9]?"
        ++ ":[0-9][0-9]:[0-9][0-9](?:\\.[0-9]*)?"
        ++ "(?:[ \\t]*(?:Z|[-+][0-9][0-9]?(?::[0-9][0-9])?))?)$"),
    ("value", "^(?:=)$")]

/-- Whether a text matches a pattern from its start on. -/
def looksLike (source text : String) : Bool :=
  match Pattern.read source .none with
  | .ok pattern => (pattern.matchStart text.toList.toArray).isSome
  | .error _ => false

/-- The tag of a plain scalar. -/
def plainTag (text : String) : String :=
  match looks.find? fun look => looksLike look.2 text with
  | some look => standardTag look.1
  | none => standardTag "str"

/-! ## Scalars -/

/-- A value in a base, of digits that the base has. -/
def valueIn (base : Nat) (digits : List Char) : Nat :=
  digits.foldl (fun value c => value * base + hexValue [c]) 0

/-- A decimal natural. -/
def naturalOf (digits : List Char) : Except Fault Int :=
  match readInteger digits with
  | .ok n => .ok n
  | .error e => .error (.integer (String.ofList digits) e)

/-- A number in base sixty, its digits in decimals with colons between them. -/
def baseSixty (digits : List Char) : Except Fault Int := do
  let parts ← (digits.splitOn ':').mapM naturalOf
  return parts.foldl (fun value part => value * 60 + part) 0

/-- The integer that a text stands for: binary, octal, decimal, hexadecimal or in base sixty. -/
def integerMeant (text : String) : Except Fault Int := do
  let (negative, digits) := takeSign (text.toList.filter (· != '_'))
  let magnitude ← match digits with
    | ['0'] => .ok 0
    | '0' :: 'b' :: bits => .ok (valueIn 2 bits : Int)
    | '0' :: 'x' :: hexes => .ok (valueIn 16 hexes : Int)
    | '0' :: octals => .ok (valueIn 8 octals : Int)
    | digits => if digits.contains ':' then baseSixty digits else naturalOf digits
  return if negative then -magnitude else magnitude

/-- The sum of parts in base sixty, each product and each sum rounded; the least part comes
first. -/
def sumInBaseSixty : Nat → Binary64 → List Binary64 → Binary64
  | _, sum, [] => sum
  | base, sum, part :: rest => sumInBaseSixty (base * 60) (sum.add (part.timesNat base)) rest

/-- A number of a text without sign. -/
def magnitudeMeant (digits : List Char) : Except Fault Binary64 :=
  if digits == ".inf".toList then .ok (.infinite false)
  else if digits == ".nan".toList then .ok .notANumber
  else do
    let parts ← (digits.splitOn ':').mapM fun part =>
      match readDecimal part with
      | some value => Except.ok value
      | none => .error (.decimal (String.ofList part))
    match parts with
    | [value] => return value
    | parts => return sumInBaseSixty 1 .zero parts.reverse

/-- The number that a text stands for: decimal or in base sixty. -/
def numberMeant (text : String) : Except Fault Binary64 := do
  let (negative, digits) := takeSign (plainLower (text.toList.filter (· != '_')))
  let magnitude ← magnitudeMeant digits
  return if negative then magnitude.negated else magnitude

/-- The numbers in a text, each a run of digits. -/
def runsOfDigits (text : List Char) : List Nat :=
  ((text.splitBy fun c d => c.isDigit == d.isDigit).filter fun run => run.all Char.isDigit).map
    (valueIn 10)

/-- The number of days of a month. -/
def daysIn (year month : Nat) : Nat :=
  if month = 2 then if year % 4 = 0 ∧ (year % 100 ≠ 0 ∨ year % 400 = 0) then 29 else 28
  else if month = 4 ∨ month = 6 ∨ month = 9 ∨ month = 11 then 30
  else 31

/-- What keeps a date from being one of the calendar. -/
def calendarProblem? : List Nat → Option CalendarProblem
  | year :: month :: day :: time =>
    if year = 0 then some .year
    else if month = 0 ∨ 12 < month then some .month
    else if day = 0 ∨ daysIn year month < day then some .day
    else match time with
      | hour :: minute :: second :: _ =>
        if 23 < hour then some .hour
        else if 59 < minute then some .minute
        else if 59 < second then some .second
        else none
      | _ => none
  | _ => none

/-- A fault in what a part of the document of a name stands for. -/
def meaningFault {α : Type} (path : String) (context : Option (String × Mark)) (problem : String)
    (place : Mark) : Except Fault α :=
  .error (.document path (.marked .constructing context problem place))

/-- The standard tags of data that no definition asks for. -/
def foreignTags : List String := ["binary", "omap", "pairs", "set"].map standardTag

/-- The standard tags of scalars. -/
def scalarTags : List String :=
  ["str", "null", "bool", "int", "float", "timestamp"].map standardTag

/-- Fails for a node whose tag asks for another kind of node, or for nothing that is known. -/
def mismatch {α : Type} (path tag kind : String) (start : Mark) : Except Fault α :=
  let expected (wanted : String) : Except Fault α :=
    meaningFault path none ("expected a " ++ wanted ++ " node, but found " ++ kind) start
  if scalarTags.contains tag then expected "scalar"
  else if tag = standardTag "seq" then expected "sequence"
  else if tag = standardTag "map" then expected "mapping"
  else
    meaningFault path none
      ("could not determine a constructor for the tag " ++ Text.quoted tag) start

/-- The data of a scalar. -/
def scalarMeant (path tag text : String) (start : Mark) : Except Fault Document :=
  if tag = standardTag "str" then .ok (.text text)
  else if tag = standardTag "null" then .ok .null
  else if tag = standardTag "bool" then
    .ok (.boolean (["yes", "true", "on"].contains (String.ofList (plainLower text.toList))))
  else if tag = standardTag "int" then .integer <$> integerMeant text
  else if tag = standardTag "float" then .number <$> numberMeant text
  else if tag = standardTag "timestamp" then
    match calendarProblem? (runsOfDigits text.toList) with
    | some problem => .error (.calendar problem)
    | none => .ok .other
  else if foreignTags.contains tag then .ok .other
  else mismatch path tag "scalar" start

/-! ## Collections -/

/-- Whether data cannot be a key. -/
def isCollection : Document → Bool
  | .list _ | .record _ => true
  | _ => false

/-- The entries of a mapping: those that it takes over, and its own. -/
structure Entries where
  inherited : List (String × Document)
  own : List (String × Document)

/-- All entries. Of entries with one name the last counts, so the mapping's own come last. -/
def Entries.all (entries : Entries) : List (String × Document) := entries.inherited ++ entries.own

/-- The name that a key gives to a field, if it gives one. -/
def fieldName? : Document → Option String
  | .text name => some name
  | _ => none

/-- Whether a key is the merge mark. -/
def isMerge : Node → Bool
  | .scalar tag _ _ => tag == standardTag "merge"
  | _ => false

/-- A key with the tag of a text where its tag would stand for nothing. -/
def keyTag (tag : String) : String :=
  if tag = standardTag "value" then standardTag "str" else tag

mutual

/-- The data of a node. -/
def meaning (path : String) : Node → Except Fault Document
  | .cycle _ => .ok .other
  | .scalar tag text start => scalarMeant path tag text start
  | .sequence tag elements start =>
    if tag = standardTag "seq" then .list <$> meanings path elements
    else if foreignTags.contains tag then .ok .other
    else mismatch path tag "sequence" start
  | .mapping tag entries start =>
    if tag = standardTag "map" then do return .record (← entriesMeant path start entries).all
    else if foreignTags.contains tag then .ok .other
    else mismatch path tag "mapping" start

/-- The data of several nodes. -/
def meanings (path : String) : List Node → Except Fault (List Document)
  | [] => .ok []
  | node :: rest => do
    let first ← meaning path node
    return first :: (← meanings path rest)

/-- The entries of a mapping. -/
def entriesMeant (path : String) (start : Mark) : List (Node × Node) → Except Fault Entries
  | [] => .ok ⟨[], []⟩
  | (key, value) :: rest => do
    if isMerge key then
      let inherited ← inheritedFrom path start value
      let entries ← entriesMeant path start rest
      return { entries with inherited := inherited ++ entries.inherited }
    else
      let name ← match key with
        | .scalar tag text place => scalarMeant path (keyTag tag) text place
        | other => meaning path other
      if isCollection name then
        meaningFault path (some ("while constructing a mapping", start)) "found unhashable key"
          key.start
      else
        let data ← meaning path value
        let entries ← entriesMeant path start rest
        return { entries with
          own := ((fieldName? name).map fun name => (name, data)).toList ++ entries.own }

/-- The entries that a mapping takes over under the merge mark: from a mapping, or from several, of
which the first takes precedence. -/
def inheritedFrom (path : String) (start : Mark) : Node → Except Fault (List (String × Document))
  | .mapping _ entries place => do return (← entriesMeant path place entries).all
  | .sequence _ elements _ => inheritedFromAll path start elements
  | other =>
    meaningFault path (some ("while constructing a mapping", start))
      ("expected a mapping or list of mappings for merging, but found " ++ other.kind) other.start

/-- The entries taken over from several mappings, those of the first mapping last. -/
def inheritedFromAll (path : String) (start : Mark) :
    List Node → Except Fault (List (String × Document))
  | [] => .ok []
  | .mapping _ entries place :: rest => do
    let first := (← entriesMeant path place entries).all
    return (← inheritedFromAll path start rest) ++ first
  | other :: _ =>
    meaningFault path (some ("while constructing a mapping", start))
      ("expected a mapping for merging, but found " ++ other.kind) other.start

end

end LineGrammar.Yaml
