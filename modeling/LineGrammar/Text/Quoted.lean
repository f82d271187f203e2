import LineGrammar.Text.Printable

/-!
# Quoted texts

Messages show a text between quotes, so that blanks and control characters in it can be seen. The
quote is the apostrophe, unless the text holds an apostrophe and no double quote. A backslash, the
quote itself and every character that is not printable are written as escapes; the escape of a code
point has two, four or eight hexadecimal digits, whichever is the fewest that hold it.
-/

namespace LineGrammar.Text

/-- The apostrophe. -/
def apostrophe : Char := '\x27'

/-- The double quote. -/
def doubleQuote : Char := '\x22'

/-- The backslash. -/
def backslash : Char := '\x5c'

/-- A number in hexadecimal digits, filled up with zeros on the left to a given width. -/
def hexadecimal (width number : Nat) : List Char :=
  let digits := Nat.toDigits 16 number
  List.replicate (width - digits.length) '0' ++ digits

/-- How a character is shown between quotes. -/
def shownCharacter (quote c : Char) : List Char :=
  if c = quote ∨ c = backslash then [backslash, c]
  else if c = '\t' then [backslash, 't']
  else if c = '\n' then [backslash, 'n']
  else if c = '\r' then [backslash, 'r']
  else if isPrintable c then [c]
  else if c.toNat < 0x100 then backslash :: 'x' :: hexadecimal 2 c.toNat
  else if c.toNat < 0x10000 then backslash :: 'u' :: hexadecimal 4 c.toNat
  else backslash :: 'U' :: hexadecimal 8 c.toNat

/-- The quote that a text is shown in: the apostrophe, unless only the double quote spares an
escape. -/
def quoteFor (text : List Char) : Char :=
  if text.contains apostrophe && !text.contains doubleQuote then doubleQuote else apostrophe

/-- A text between quotes. -/
def quotedChars (text : List Char) : List Char :=
  let quote := quoteFor text
  quote :: text.flatMap (shownCharacter quote) ++ [quote]

/-- A text between quotes. -/
def quoted (text : String) : String := String.ofList (quotedChars text.toList)

end LineGrammar.Text
