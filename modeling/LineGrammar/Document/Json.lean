import LineGrammar.Document.Basic
import LineGrammar.Numeral.Shortest
import LineGrammar.Text.Quoted

/-!
# Documents as JSON

A document is written as JSON on one line, with a blank after every comma and colon. Whatever is not
a printable plain character is written as an escape of four hexadecimal digits, beyond the first
65536 characters as two of them. Numbers that are not finite are written as words.
-/

namespace LineGrammar.Json

open LineGrammar.Numeral LineGrammar.Text

/-- An escape of four digits. -/
def unitEscape (unit : Nat) : List Char := backslash :: 'u' :: hexadecimal 4 unit

/-- A character between the quotes of a text. -/
def writtenChar (c : Char) : List Char :=
  if c = doubleQuote ∨ c = backslash then [backslash, c]
  else if c = '\n' then [backslash, 'n']
  else if c = '\r' then [backslash, 'r']
  else if c = '\t' then [backslash, 't']
  else if c = '\x08' then [backslash, 'b']
  else if c = '\x0c' then [backslash, 'f']
  else if ' ' ≤ c ∧ c ≤ '~' then [c]
  else if c.toNat < 0x10000 then unitEscape c.toNat
  else
    let beyond := c.toNat - 0x10000
    unitEscape (0xd800 + beyond / 0x400) ++ unitEscape (0xdc00 + beyond % 0x400)

/-- A text between quotes. -/
def writtenText (text : String) : String :=
  String.ofList (doubleQuote :: text.toList.flatMap writtenChar ++ [doubleQuote])

/-- A number. -/
def writtenNumber : Binary64 → String
  | .notANumber => "NaN"
  | .infinite negative => if negative then "-Infinity" else "Infinity"
  | .finite negative significand exponent => (Binary64.finite negative significand exponent).text

mutual

/-- A document on one line. -/
def written : Document → String
  | .null => "null"
  | .other => "null"
  | .boolean value => if value then "true" else "false"
  | .integer value => toString value
  | .number value => writtenNumber value
  | .text content => writtenText content
  | .list elements => "[" ++ ", ".intercalate (writtenAll elements) ++ "]"
  | .record fields => "\x7b" ++ ", ".intercalate (writtenFields fields) ++ "\x7d"

/-- Several documents. -/
def writtenAll : List Document → List String
  | [] => []
  | document :: rest => written document :: writtenAll rest

/-- The fields of a record. -/
def writtenFields : List (String × Document) → List String
  | [] => []
  | (name, value) :: rest => (writtenText name ++ ": " ++ written value) :: writtenFields rest

end

end LineGrammar.Json
