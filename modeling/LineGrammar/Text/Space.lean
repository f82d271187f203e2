/-!
# White space

White space is the set that trims a text and that separates the parts of a line: the six blanks of
the keyboard, the four information separators, and the spaces of Unicode 14.
-/

namespace LineGrammar.Text

/-- Whether a code point is white space. -/
def isSpaceCode (code : Nat) : Bool :=
  (9 ≤ code && code ≤ 13) || (28 ≤ code && code ≤ 32) || code == 0x85 || code == 0xA0
    || code == 0x1680 || (0x2000 ≤ code && code ≤ 0x200A) || code == 0x2028 || code == 0x2029
    || code == 0x202F || code == 0x205F || code == 0x3000

/-- Whether a character is white space. -/
def isSpace (c : Char) : Bool := isSpaceCode c.toNat

/-- Whether a character is one of the blanks of the keyboard: space, tab, line feed, vertical tab,
form feed or carriage return. -/
def isBlank (c : Char) : Bool := c == ' ' || (9 ≤ c.toNat && c.toNat ≤ 13)

/-- Drops the white space at the front. -/
def trimFront (text : List Char) : List Char := text.dropWhile isSpace

/-- Drops the white space at both ends. -/
def trim (text : List Char) : List Char :=
  (trimFront (trimFront text).reverse).reverse

end LineGrammar.Text
