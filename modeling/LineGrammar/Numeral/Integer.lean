import LineGrammar.Text.Alphanumeric
import LineGrammar.Text.Space
import LineGrammar.Text.Quoted

/-!
# Integers in texts

An integer is written with an optional sign and decimal digits of any script, single underscores
between digits, and blanks around the whole. A numeral of more than 4300 digits is refused before
its value is formed; that refusal wins over any fault further to the right.
-/

namespace LineGrammar.Numeral

open LineGrammar.Text

/-- A text with its digits and blanks in their plain forms. Reading stops at the first character
beyond the plain ones that is neither, and a question mark stands for it. -/
def plainForm : List Char → List Char
  | [] => []
  | c :: rest =>
    if c.toNat < 127 then c :: plainForm rest
    else if isSpace c then ' ' :: plainForm rest
    else match digitValue? c with
      | some value => Char.ofNat (48 + value) :: plainForm rest
      | none => ['?']

/-- The digits at the front of a numeral, without its underscores, and what follows them; nothing
when an underscore does not stand between two digits. -/
def takeDigits : List Char → Bool → Option (List Char × List Char)
  | [], afterUnderscore => if afterUnderscore then none else some ([], [])
  | c :: rest, afterUnderscore =>
    if c = '_' then
      if afterUnderscore then none else takeDigits rest true
    else if c.isDigit then
      (takeDigits rest false).map fun (digits, remainder) => (c :: digits, remainder)
    else if afterUnderscore then none
    else some ([], c :: rest)

/-- The value of a list of decimal digits. -/
def valueOf (digits : List Char) : Nat :=
  digits.foldl (fun value c => value * 10 + (c.toNat - 48)) 0

/-- Why a text is no integer. -/
inductive IntegerError where
  | malformed
  | tooManyDigits (digits : Nat)
deriving DecidableEq

/-- The greatest number of digits that a numeral may have. -/
def digitLimit : Nat := 4300

/-- Splits an optional sign off; true stands for the minus sign. -/
def takeSign : List Char → Bool × List Char
  | '-' :: rest => (true, rest)
  | '+' :: rest => (false, rest)
  | rest => (false, rest)

/-- Reads a text as an integer. -/
def readInteger (text : List Char) : Except IntegerError Int :=
  let (negative, body) := takeSign ((plainForm text).dropWhile isBlank)
  if body.head? = some '_' then .error .malformed
  else match takeDigits body false with
    | none => .error .malformed
    | some (digits, remainder) =>
      if digits.length > digitLimit then .error (.tooManyDigits digits.length)
      else if digits.isEmpty || !remainder.all isBlank then .error .malformed
      else .ok (if negative then -(valueOf digits : Int) else (valueOf digits : Int))

/-- The message of a refusal; of the shown text at most 200 characters are kept. -/
def IntegerError.message (text : String) : IntegerError → String
  | .malformed =>
    "invalid literal for int() with base 10: "
      ++ String.ofList ((quotedChars text.toList).take 200)
  | .tooManyDigits digits =>
    "Exceeds the limit (4300 digits) for integer string conversion: value has "
      ++ toString digits
      ++ " digits; use sys.set_int_max_str_digits() to increase the limit"

end LineGrammar.Numeral
