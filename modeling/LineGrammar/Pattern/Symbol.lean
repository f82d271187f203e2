import LineGrammar.Pattern.Error

/-!
# The symbols of a pattern

A pattern is read in symbols. A backslash forms one symbol with the character after it; every other
character is a symbol of its own. Pairing goes from left to right, so that a doubled backslash never
pairs with what follows it. A backslash with nothing after it is a symbol that no pattern contains:
it is refused as soon as it is the next one, before anything else about the symbol ahead of it is
decided.
-/

namespace LineGrammar.Pattern

open LineGrammar.Text

/-- One symbol of a pattern. -/
inductive Symbol where
  | plain (c : Char)
  | escaped (c : Char)
  /-- A backslash at the end of the pattern. -/
  | dangling
deriving DecidableEq, Repr

namespace Symbol

/-- The characters of a symbol. -/
def chars : Symbol → List Char
  | plain c => [c]
  | escaped c => [backslash, c]
  | dangling => [backslash]

/-- The characters of a symbol as a text. -/
def text (symbol : Symbol) : String := String.ofList symbol.chars

/-- The number of characters of a symbol. -/
def size (symbol : Symbol) : Nat := symbol.chars.length

/-- The characters of a list of symbols. -/
def charsOf (symbols : List Symbol) : List Char := symbols.flatMap chars

/-- Cuts a pattern into symbols. -/
def ofChars : List Char → List Symbol
  | [] => []
  | c :: rest =>
    if c = backslash then
      match rest with
      | [] => [dangling]
      | d :: rest => escaped d :: ofChars rest
    else plain c :: ofChars rest

/-- No character is lost or added. -/
theorem charsOf_ofChars (text : List Char) : charsOf (ofChars text) = text := by
  fun_induction ofChars text with
  | case1 => rfl
  | case2 => rfl
  | case3 d rest ih => simpa [charsOf, chars] using ih
  | case4 c rest other ih => simpa [charsOf, chars] using ih

end Symbol

end LineGrammar.Pattern
