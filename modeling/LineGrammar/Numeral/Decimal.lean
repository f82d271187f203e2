import LineGrammar.Numeral.Binary64
import LineGrammar.Numeral.Integer

/-!
# Decimals in texts

A decimal has an optional sign, digits with an optional point (at least one digit on one side of
it) and an optional power of ten; the words for infinity and for a number that is not one stand for
themselves, in any mixture of cases. `readDecimal` also admits single underscores between digits
and blanks around the whole.
-/

namespace LineGrammar.Numeral

open LineGrammar.Text

/-- A list of characters in plain lower case. -/
def plainLower (text : List Char) : List Char := text.map Char.toLower

/-- The power of ten after the letter `e`: an optional sign and at least one digit. -/
def exponent? (text : List Char) : Option Int :=
  let (negative, digits) := takeSign text
  if digits.isEmpty || !digits.all Char.isDigit then none
  else some (if negative then -(valueOf digits : Int) else (valueOf digits : Int))

/-- An unsigned decimal in digits: whole part, optional point and fraction, optional exponent. -/
def unsignedDecimal? (negative : Bool) (text : List Char) : Option Binary64 :=
  let whole := text.takeWhile Char.isDigit
  let rest := text.dropWhile Char.isDigit
  let (fraction, rest) := match rest with
    | '.' :: rest => (rest.takeWhile Char.isDigit, rest.dropWhile Char.isDigit)
    | rest => ([], rest)
  if whole.isEmpty && fraction.isEmpty then none
  else
    let exponent := match rest with
      | [] => some 0
      | c :: rest => if c = 'e' ∨ c = 'E' then exponent? rest else none
    exponent.map fun exponent =>
      .ofDecimal negative (valueOf (whole ++ fraction)) (exponent - fraction.length)

/-- A decimal without blanks and underscores. -/
def decimal? (text : List Char) : Option Binary64 :=
  let (negative, body) := takeSign text
  let word := String.ofList (plainLower body)
  if word = "inf" || word = "infinity" then some (.infinite negative)
  else if word = "nan" then some .notANumber
  else unsignedDecimal? negative body

/-- Drops the underscores of a text in which each stands between two digits. -/
def withoutUnderscores : Char → List Char → Option (List Char)
  | previous, [] => if previous = '_' then none else some []
  | previous, c :: rest =>
    if c = '_' then
      if previous.isDigit then withoutUnderscores c rest else none
    else if previous = '_' && !c.isDigit then none
    else (withoutUnderscores c rest).map (c :: ·)

/-- Reads a text as a decimal. -/
def readDecimal (text : List Char) : Option Binary64 :=
  let body := (plainForm text).dropWhile isBlank
  let body := (body.reverse.dropWhile isBlank).reverse
  (withoutUnderscores ' ' body).bind decimal?

/-- The message for a text that is no decimal. -/
def decimalMessage (text : String) : String :=
  "could not convert string to float: " ++ quoted text

end LineGrammar.Numeral
