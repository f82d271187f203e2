import LineGrammar.Document.Basic
import LineGrammar.Text.Quoted

/-!
# A place in a text

A cursor is a place in a text together with what is left of the text there. Moving it forward keeps
count of lines and columns. Beyond the end it shows a character that no text holds.
-/

namespace LineGrammar.Yaml

/-- What shows at the end of a text. -/
def endOfText : Char := '\x00'

/-- The characters that end a line. -/
def isBreak (c : Char) : Bool :=
  c == '\r' || c == '\n' || c == '\u0085' || c == '\u2028' || c == '\u2029'

/-- Whether a line ends at a character. -/
def endsLine (c : Char) : Bool := isBreak c || c == endOfText

/-- A space or the end of a line. -/
def isGap (c : Char) : Bool := c == ' ' || endsLine c

/-- A space, a tabulator or the end of a line. -/
def isLayout (c : Char) : Bool := c == '\t' || isGap c

/-- A space or a tabulator. -/
def isSpaceOrTab (c : Char) : Bool := c == ' ' || c == '\t'

/-- The characters of names. -/
def isNameCharacter (c : Char) : Bool := c.isAlphanum || c == '-' || c == '_'

/-- A hexadecimal digit. -/
def isHexDigit (c : Char) : Bool :=
  c.isDigit || ('a' ≤ c && c ≤ 'f') || ('A' ≤ c && c ≤ 'F')

/-- The value of hexadecimal digits. -/
def hexValue (digits : List Char) : Nat :=
  digits.foldl (fun value c =>
    value * 16 + (if c.isDigit then c.toNat - 48 else c.toLower.toNat - 87)) 0

/-- The place after a character, given the one that follows it. -/
def markAfter (mark : Mark) (c next : Char) : Mark :=
  if (isBreak c && c != '\r') || (c == '\r' && next != '\n') then
    ⟨mark.index + 1, mark.line + 1, 0⟩
  else if c == '\ufeff' then ⟨mark.index + 1, mark.line, mark.column⟩
  else ⟨mark.index + 1, mark.line, mark.column + 1⟩

/-- A place in a text and the text from there on. -/
structure Cursor where
  rest : List Char
  mark : Mark

namespace Cursor

/-- The start of a text. -/
def start (text : List Char) : Cursor := ⟨text, ⟨0, 0, 0⟩⟩

/-- The character some places further on. -/
def peek (cursor : Cursor) (distance : Nat) : Char := (cursor.rest[distance]?).getD endOfText

/-- The next characters. -/
def ahead (cursor : Cursor) (count : Nat) : List Char := cursor.rest.take count

/-- The cursor some characters further on. -/
def forward : Nat → Cursor → Cursor
  | 0, cursor => cursor
  | count + 1, ⟨c :: rest, mark⟩ =>
    forward count ⟨rest, markAfter mark c (rest.headD endOfText)⟩
  | _ + 1, ⟨[], mark⟩ => ⟨[], mark⟩

/-- The characters as long as they satisfy a condition, and the cursor behind them. -/
def takeWhile (cursor : Cursor) (condition : Char → Bool) : List Char × Cursor :=
  let taken := cursor.rest.takeWhile condition
  (taken, cursor.forward taken.length)

/-- The cursor behind all characters that satisfy a condition. -/
def skipWhile (cursor : Cursor) (condition : Char → Bool) : Cursor :=
  (cursor.takeWhile condition).2

/-- The end of a line as it counts in a scalar, if the cursor is at one. -/
def takeBreak (cursor : Cursor) : List Char × Cursor :=
  match cursor.rest with
  | [] => ([], cursor)
  | c :: rest =>
    if c == '\r' && rest.head? == some '\n' then (['\n'], cursor.forward 2)
    else if c == '\r' || c == '\n' || c == '\u0085' then (['\n'], cursor.forward 1)
    else if c == '\u2028' || c == '\u2029' then ([c], cursor.forward 1)
    else ([], cursor)

/-- The cursor behind a comment, if there is one. -/
def skipComment (cursor : Cursor) : Cursor :=
  if cursor.peek 0 == '#' then cursor.skipWhile (!endsLine ·) else cursor

/-- Whether a given mark of three characters stands here on its own. -/
def isAtMark (cursor : Cursor) (mark : Char) : Bool :=
  cursor.ahead 3 == [mark, mark, mark] && isLayout (cursor.peek 3)

/-- Whether a document starts or ends here. -/
def isAtSeparator (cursor : Cursor) : Bool := cursor.isAtMark '-' || cursor.isAtMark '.'

end Cursor

/-- A character as messages show it. -/
def shownChar (c : Char) : String := Text.quoted c.toString

/-- A fault of scanning, with what was being scanned and where it began. -/
def scanFault (activity : String) (start : Mark) (problem : String) (place : Mark) :
    DocumentFault :=
  .marked .scanning (some (activity, start)) problem place

end LineGrammar.Yaml
