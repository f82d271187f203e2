import LineGrammar.Numeral.Shortest
import LineGrammar.Text.Quoted

/-!
# Values

A capture yields a value: a text, or what the type of the capture makes of the text. A capture that
took no part yields nothing. A value of a caller's own kind is known only by its text.
-/

namespace LineGrammar

open LineGrammar.Numeral LineGrammar.Text

/-- A converted value. -/
inductive Value where
  | nothing
  | text (content : String)
  | integer (n : Int)
  | number (value : Binary64)
  | list (elements : List Value)
  /-- A value of a caller's own kind. -/
  | foreign (label : String)
deriving Inhabited

/-- Texts with a comma and a blank between them. -/
def commaSeparated (texts : List String) : String := ", ".intercalate texts

mutual

/-- A value as messages show it. -/
def Value.shown : Value → String
  | .nothing => "None"
  | .text content => quoted content
  | .integer n => toString n
  | .number value => value.text
  | .list elements => "[" ++ commaSeparated (Value.shownAll elements) ++ "]"
  | .foreign label => label

/-- Values as messages show them. -/
def Value.shownAll : List Value → List String
  | [] => []
  | value :: rest => value.shown :: Value.shownAll rest

end

/-- A list of texts as messages show it. -/
def shownTexts (texts : List String) : String :=
  "[" ++ commaSeparated (texts.map quoted) ++ "]"

/-- Named values as messages show them. -/
def shownNamed (entries : List (String × Value)) : String :=
  "\x7b" ++ commaSeparated (entries.map fun entry => quoted entry.1 ++ ": " ++ entry.2.shown)
    ++ "\x7d"

end LineGrammar
