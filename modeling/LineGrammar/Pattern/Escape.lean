import LineGrammar.Text.Quoted

/-!
# Escaping texts in patterns

A text is written as a pattern that matches it alone by a backslash before every character that
means something else in a pattern. Blanks and the number sign are escaped too, so that the pattern
keeps its meaning where layout is free.
-/

namespace LineGrammar.Pattern

open LineGrammar.Text

/-- The characters that need a backslash. -/
def specialCharacters : List Char :=
  ['(', ')', '[', ']', '\x7b', '\x7d', '?', '*', '+', '-', '|', '^', '$', backslash, '.', '&', '~',
    '#', ' ', '\t', '\n', '\r', '\x0b', '\x0c']

/-- A character as a pattern. -/
def escapedChar (c : Char) : List Char :=
  if specialCharacters.contains c then [backslash, c] else [c]

/-- A text as a pattern. -/
def escapedChars (text : List Char) : List Char := text.flatMap escapedChar

/-- A text as a pattern. -/
def escaped (text : String) : String := String.ofList (escapedChars text.toList)

end LineGrammar.Pattern
