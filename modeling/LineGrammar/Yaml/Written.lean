import LineGrammar.Numeral.Shortest
import LineGrammar.Yaml.Meaning

/-!
# Writing documents

A document is written in blocks: one field or element per line, nested parts indented by two, except
that the elements of a list stand under the name of its field. Empty collections are written in
brackets. A text is written plainly where it reads back as itself, else in single quotes, and in
double quotes with escapes when it holds anything but printable plain characters and blanks. Lines
longer than 80 characters are broken at a blank.
-/

namespace LineGrammar.Yaml

open LineGrammar.Numeral

/-- The column after which a line is broken. -/
def lineWidth : Nat := 80

/-! ## Choosing the form of a text -/

/-- A line feed or another break inside of a text. -/
def isInnerBreak (c : Char) : Bool :=
  c == '\n' || c == '\u0085' || c == '\u2028' || c == '\u2029'

/-- A character that a text cannot hold without an escape. -/
def needsEscape (c : Char) : Bool := !(c == '\n' || (' ' ≤ c && c ≤ '~'))

/-- Whether a character at the front of a text would be taken for an indicator. -/
def isLeadingIndicator (c : Char) (spaced : Bool) : Bool :=
  "#,[]\x7b\x7d&*!|>'\"%@\x60".toList.contains c || (spaced && (c == '?' || c == ':' || c == '-'))

/-- Whether a character further on would be taken for an indicator. -/
def isInnerIndicator (before c : Char) (spaced : Bool) : Bool :=
  (c == ':' && spaced) || (c == '#' && isLayout before)

/-- Whether a text after its first character holds an indicator. -/
def hasInnerIndicator : Char → List Char → Bool
  | _, [] => false
  | before, c :: rest =>
    isInnerIndicator before c (isLayout (rest.headD endOfText)) || hasInnerIndicator c rest

/-- Whether a text would be taken apart by indicators. -/
def hasIndicator : List Char → Bool
  | [] => false
  | c :: rest =>
    isLeadingIndicator c (isLayout (rest.headD endOfText)) || hasInnerIndicator c rest
      || "---".toList.isPrefixOf (c :: rest) || "...".toList.isPrefixOf (c :: rest)

/-- Whether two characters follow each other somewhere in a text, the first and the second each of a
sort. -/
def hasPair (first second : Char → Bool) : List Char → Bool
  | c :: d :: rest => (first c && second d) || hasPair first second (d :: rest)
  | _ => false

/-- Whether a character is a space. -/
def isSpaceChar (c : Char) : Bool := c == ' '

/-- Whether a character at an edge of a text would be lost. -/
def isLostAtEdge (c : Char) : Bool := isSpaceChar c || isInnerBreak c

/-- The forms of a text. -/
inductive TextForm where
  | plain
  | single
  | double
deriving DecidableEq, Repr

/-- The form of a text. -/
def formOf (text : List Char) : TextForm :=
  let escapes := text.any needsEscape || hasPair isSpaceChar isInnerBreak text
  let edges := (text.head?.any isLostAtEdge) || (text.getLast?.any isLostAtEdge)
  let readsBack := plainTag (String.ofList text) == standardTag "str"
  if !escapes && !edges && readsBack && !text.any isInnerBreak && !hasIndicator text then .plain
  else if !escapes && !hasPair isInnerBreak isSpaceChar text then .single
  else .double

/-! ## Lines -/

/-- What is written, and the column behind it. -/
structure Output where
  written : List Char
  column : Nat

namespace Output

/-- Adds characters on the line. -/
def add (output : Output) (text : List Char) : Output :=
  ⟨output.written ++ text, output.column + text.length⟩

/-- Goes to a new line at an indentation. -/
def newLine (output : Output) (indent : Nat) : Output :=
  ⟨output.written ++ '\n' :: List.replicate indent ' ', indent⟩

end Output

/-- A text as runs of spaces, of breaks, and of other characters. -/
def runs (text : List Char) : List (List Char) :=
  text.splitBy fun c d =>
    isSpaceChar c == isSpaceChar d && isInnerBreak c == isInnerBreak d

/-- Writes a plain text. A single space gives way to a new line beyond the width. -/
def addPlain (indent : Nat) (output : Output) : List (List Char) → Output
  | [] => output
  | run :: rest =>
    if run == [' '] && lineWidth < output.column then addPlain indent (output.newLine indent) rest
    else addPlain indent (output.add run) rest

/-- A run between single quotes: a quote is doubled. -/
def doubledQuotes (run : List Char) : List Char :=
  run.flatMap fun c => if c = Text.apostrophe then [c, c] else [c]

/-- Writes the runs of a text between single quotes. A single space inside gives way to a new line
beyond the width, and a break to one new line more than it stands for. -/
def addSingle (indent : Nat) (inside : Bool) (output : Output) : List (List Char) → Output
  | [] => output
  | run :: rest =>
    if run == [' '] && lineWidth < output.column && inside && !rest.isEmpty then
      addSingle indent true (output.newLine indent) rest
    else if run.any isInnerBreak then
      let breaks := if run.head? == some '\n' then '\n' :: run else run
      let output : Output := ⟨output.written ++ breaks ++ List.replicate indent ' ', indent⟩
      addSingle indent true output rest
    else addSingle indent true (output.add (doubledQuotes run)) rest

/-- The letter of the short escape of a character. -/
def escapeLetter? : Char → Option Char
  | '\x00' => some '0'
  | '\x07' => some 'a'
  | '\x08' => some 'b'
  | '\t' => some 't'
  | '\n' => some 'n'
  | '\x0b' => some 'v'
  | '\x0c' => some 'f'
  | '\r' => some 'r'
  | '\x1b' => some 'e'
  | '\x22' => some '\x22'
  | '\x5c' => some '\x5c'
  | '\u0085' => some 'N'
  | '\u00a0' => some '_'
  | '\u2028' => some 'L'
  | '\u2029' => some 'P'
  | _ => none

/-- A code in capital hexadecimal digits. -/
def capitalHex (width code : Nat) : List Char :=
  (Text.hexadecimal width code).map Char.toUpper

/-- The escape of a character. -/
def escapeOf (c : Char) : List Char :=
  match escapeLetter? c with
  | some letter => [Text.backslash, letter]
  | none =>
    if c.toNat ≤ 0xff then Text.backslash :: 'x' :: capitalHex 2 c.toNat
    else if c.toNat ≤ 0xffff then Text.backslash :: 'u' :: capitalHex 4 c.toNat
    else Text.backslash :: 'U' :: capitalHex 8 c.toNat

/-- Whether a character stands for itself between double quotes. -/
def isPlainInDouble (c : Char) : Bool :=
  ' ' ≤ c && c ≤ '~' && c != Text.doubleQuote && c != Text.backslash

/-- Writes a text between double quotes from a position on, given the characters since the last that
was written. Beyond the width, the line is broken after a backslash: before a space, and around an
escape. A space at the front of the next line gets a backslash too. -/
def addDouble (indent length : Nat) : Nat → List Char → Output → List Char → Output
  | _, held, output, [] => output.add held
  | position, held, output, c :: rest =>
    let inside := 0 < position && position + 1 < length
    if isPlainInDouble c then
      if inside && (c == ' ' || held.isEmpty) && lineWidth < output.column + held.length then
        let output := (output.add (held ++ [Text.backslash])).newLine indent
        let output := if c == ' ' then output.add [Text.backslash] else output
        addDouble indent length (position + 1) [c] output rest
      else addDouble indent length (position + 1) (held ++ [c]) output rest
    else
      let output := (output.add held).add (escapeOf c)
      if inside && lineWidth + 1 < output.column then
        let output := (output.add [Text.backslash]).newLine indent
        let output := if rest.head? == some ' ' then output.add [Text.backslash] else output
        addDouble indent length (position + 1) [] output rest
      else addDouble indent length (position + 1) [] output rest

/-- Writes a text in its form. -/
def addText (indent : Nat) (output : Output) (text : List Char) : Output :=
  match formOf text with
  | .plain => addPlain indent output (runs text)
  | .single =>
    (addSingle indent false (output.add [Text.apostrophe]) (runs text)).add [Text.apostrophe]
  | .double =>
    (addDouble indent text.length 0 [] (output.add [Text.doubleQuote]) text).add
      [Text.doubleQuote]

/-! ## Documents -/

/-- A number as it is written: its shortest text, with a point also where that has none. -/
def numberWritten (x : Binary64) : List Char :=
  match x with
  | .notANumber => ".nan".toList
  | .infinite negative => (if negative then "-.inf" else ".inf").toList
  | .finite .. =>
    let text := x.text.toList
    if text.contains '.' then text
    else text.flatMap fun c => if c = 'e' then ['.', '0', 'e'] else [c]

/-- The text of a scalar that is no text; nothing for texts and collections with content. -/
def plainForm? : Document → Option (List Char)
  | .null => some "null".toList
  | .other => some "null".toList
  | .boolean true => some "true".toList
  | .boolean false => some "false".toList
  | .integer n => some (toString n).toList
  | .number x => some (numberWritten x)
  | .list [] => some "[]".toList
  | .record [] => some "\x7b\x7d".toList
  | _ => none

/-- Whether a document begins a list. -/
def isFilledList : Document → Bool
  | .list (_ :: _) => true
  | _ => false

mutual

/-- Writes a document behind an indicator. Its lines after the first stand at an indentation. -/
def addDocument (indent : Nat) (compact : Bool) (output : Output) : Document → Output
  | .text content => addText indent (output.add [' ']) content.toList
  | .list [] => output.add " []".toList
  | .record [] => output.add " \x7b\x7d".toList
  | .list elements => addElements indent compact output elements
  | .record fields => addFields indent compact output fields
  | scalar => output.add (' ' :: (plainForm? scalar).getD [])

/-- Writes the elements of a list, the first of them on the same line where that is asked for. -/
def addElements (indent : Nat) (compact : Bool) (output : Output) : List Document → Output
  | [] => output
  | element :: rest =>
    let output := if compact then output.add [' '] else output.newLine indent
    let output := addDocument (indent + 2) true (output.add ['-']) element
    addElements indent false output rest

/-- Writes the fields of a record, the first of them on the same line where that is asked for. -/
def addFields (indent : Nat) (compact : Bool) (output : Output) :
    List (String × Document) → Output
  | [] => output
  | (name, value) :: rest =>
    let output := if compact then output.add [' '] else output.newLine indent
    let output := (addText indent output name.toList).add [':']
    let output := addDocument (if isFilledList value then indent else indent + 2) false output value
    addFields indent false output rest

end

/-- A document as a text. -/
def written (document : Document) : String :=
  String.ofList ((addDocument 0 false ⟨[], 0⟩ document).written.drop 1 ++ ['\n'])

end LineGrammar.Yaml
