import LineGrammar.Fault
import LineGrammar.Text.Ranges

/-!
# Checking data

A check makes a value of data or says what is wrong with it. A record is checked field by field: the
problems of all fields are collected in the order of the fields, so one bad field does not hide
another. A fault that is no problem of the data ends the check at once and wins over all problems.

Data is taken generously where its meaning is plain: a number may be given as a text or a truth
value, and a truth value as one of the usual words or as zero or one.
-/

namespace LineGrammar.Definition

open LineGrammar.Numeral LineGrammar.Text

/-- Why a check failed. -/
inductive Failure where
  | problems (found : List Problem)
  | fault (fault : Fault)

/-- The outcome of a check. -/
abbrev Checked (α : Type) := Except Failure α

namespace Checked

variable {α β : Type}

/-- Fails with one problem at the place itself. -/
def refuse (cause : Cause) : Checked α := .error (.problems [⟨[], cause⟩])

/-- What needs no check. -/
def sound (value : α) : Checked α := .ok value

/-- Applies a function once all of its arguments are checked. -/
def apply (function : Checked (α → β)) (argument : Checked α) : Checked β :=
  match function, argument with
  | .ok f, .ok a => .ok (f a)
  | .error (.fault fault), _ => .error (.fault fault)
  | _, .error (.fault fault) => .error (.fault fault)
  | .error (.problems found), .error (.problems more) => .error (.problems (found ++ more))
  | .error failure, .ok _ => .error failure
  | .ok _, .error failure => .error failure

/-- A check of a part, its problems seen from the whole. -/
def inside (step : Step) : Checked α → Checked α
  | .error (.problems found) => .error (.problems (found.map (Problem.inside step)))
  | checked => checked

/-- The checks of the elements of a list from a position on. -/
def elementsFrom (check : Document → Checked α) : Nat → List Document → Checked (List α)
  | _, [] => .ok []
  | position, element :: rest =>
    apply (apply (sound List.cons) (inside (.index position) (check element)))
      (elementsFrom check (position + 1) rest)

/-- The outcome of a check of a whole definition of a kind. -/
def outcome (kind : String) : Checked α → Except Fault α
  | .ok value => .ok value
  | .error (.problems problems) => .error (.invalid ⟨kind, problems⟩)
  | .error (.fault fault) => .error fault

end Checked

/-- Checks a field under the first of its names that the data has. -/
def field {α : Type} (names : List String) (absent : Checked α) (check : Document → Checked α)
    (fields : List (String × Document)) : Checked α :=
  match names with
  | [] => absent
  | name :: others =>
    match Document.field? name fields with
    | some data => Checked.inside (.field name) (check data)
    | none => field others absent check fields

/-- A field that must be there. -/
def required {α : Type} (name : String) (check : Document → Checked α)
    (fields : List (String × Document)) : Checked α :=
  field [name] (Checked.inside (.field name) (Checked.refuse .missing)) check fields

/-- A field that stands for a value when it is left out. -/
def optional {α : Type} (name : String) (absent : α) (check : Document → Checked α)
    (fields : List (String × Document)) : Checked α :=
  field [name] (.ok absent) check fields

/-- A text. -/
def text : Document → Checked String
  | .text content => .ok content
  | _ => Checked.refuse .notText

/-- A text with at least one character. -/
def nonEmptyText : Document → Checked String
  | .text content => if content.isEmpty then Checked.refuse .emptyText else .ok content
  | _ => Checked.refuse .notText

/-- Null, or what another check admits. -/
def orNull {α : Type} (check : Document → Checked α) : Document → Checked (Option α)
  | .null => .ok none
  | data => some <$> check data

/-- A list. -/
def listOf {α : Type} (check : Document → Checked α) : Document → Checked (List α)
  | .list elements => Checked.elementsFrom check 0 elements
  | _ => Checked.refuse .notList

/-- The blanks around a number that is given as a text. -/
def isMargin (c : Char) : Bool :=
  CodeRanges.within
    [(0x9, 0xd), (0x20, 0x20), (0x85, 0x85), (0xa0, 0xa0), (0x1680, 0x1680), (0x2000, 0x200a),
      (0x2028, 0x2029), (0x202f, 0x202f), (0x205f, 0x205f), (0x3000, 0x3000)] c.toNat

/-- Whether two underscores follow each other in a text. -/
def hasDoubleUnderscore : List Char → Bool
  | c :: d :: rest => (c == '_' && d == '_') || hasDoubleUnderscore (d :: rest)
  | _ => false

/-- A number given as a text: a decimal with margins, or one with single underscores inside. -/
def givenNumber (text : List Char) : Option Binary64 :=
  let body := ((text.dropWhile isMargin).reverse.dropWhile isMargin).reverse
  match decimal? body with
  | some value => some value
  | none =>
    if text.head? == some '_' || text.getLast? == some '_' || hasDoubleUnderscore text then none
    else decimal? (text.filter (· != '_'))

/-- A number. An integer stands for the number nearest to it, and is none when it is too great. -/
def number : Document → Checked Binary64
  | .number value => .ok value
  | .integer value =>
    let nearest := Binary64.ofInt value
    if nearest.isFinite then .ok nearest else Checked.refuse .notNumber
  | .boolean value => .ok (.ofInt (if value then 1 else 0))
  | .text content =>
    match givenNumber content.toList with
    | some value => .ok value
    | none => Checked.refuse .unreadableNumber
  | _ => Checked.refuse .notNumber

/-- The truth value that a word stands for. -/
def truthOf? (word : String) : Option Bool :=
  let plain := String.ofList (plainLower word.toList)
  if ["1", "on", "t", "true", "y", "yes"].contains plain then some true
  else if ["0", "off", "f", "false", "n", "no"].contains plain then some false
  else none

/-- The truth value that an integer of 64 bits stands for. -/
def truthOfInteger (value : Int) : Checked Bool :=
  if value = 0 then .ok false
  else if value = 1 then .ok true
  else if -9223372036854775808 ≤ value ∧ value < 9223372036854775808 then Checked.refuse .unreadableBoolean
  else Checked.refuse .notBoolean

/-- The integer that a number is equal to, if it lies strictly between -2^63 and 2^63. -/
def wholeValue? : Binary64 → Option Int
  | .finite negative significand exponent =>
    let scaled := Binary64.scaled negative significand exponent
    let unit : Nat := Nat.pow 2 1074
    if scaled % unit = 0 then
      let value := scaled / unit
      if -9223372036854775808 < value ∧ value < 9223372036854775808 then some value else none
    else none
  | _ => none

/-- A truth value. -/
def truth : Document → Checked Bool
  | .boolean value => .ok value
  | .text content =>
    match truthOf? content with
    | some value => .ok value
    | none => Checked.refuse .unreadableBoolean
  | .integer value => truthOfInteger value
  | .number value =>
    match wholeValue? value with
    | some value => truthOfInteger value
    | none => Checked.refuse .notBoolean
  | _ => Checked.refuse .notBoolean

/-- A record of a kind. -/
def record {α : Type} (kind : String) (check : List (String × Document) → Checked α) :
    Document → Checked α
  | .record fields => check fields
  | _ => Checked.refuse (.notRecord kind)

end LineGrammar.Definition
