import LineGrammar.Yaml.Cursor

/-!
# Scalars

A scalar is written plainly, between quotes, or as a block of lines. In plain and quoted scalars a
line break counts as a blank, and each further one as a line feed. A block keeps its lines as they
are, or folds them; how many line feeds stay at its end is for its header to say.

Every loop below takes at least one character in each of its rounds, so the number of characters
that are left bounds the rounds.
-/

namespace LineGrammar.Yaml

/-- The text of a scalar, and the cursor behind it. -/
abbrev Scanned := Except DocumentFault (List Char × Cursor)

/-- A line break and those after it: the first counts as a blank when it is the only one. -/
def folded (first further : List Char) : List Char :=
  if first != ['\n'] then first ++ further
  else if further.isEmpty then [' ']
  else further

/-! ## Between quotes -/

/-- The character of a short escape. -/
def shortEscape? : Char → Option Char
  | '0' => some '\x00'
  | 'a' => some '\x07'
  | 'b' => some '\x08'
  | 't' => some '\t'
  | '\t' => some '\t'
  | 'n' => some '\n'
  | 'v' => some '\x0b'
  | 'f' => some '\x0c'
  | 'r' => some '\r'
  | 'e' => some '\x1b'
  | ' ' => some ' '
  | '\x22' => some '\x22'
  | '\x5c' => some '\x5c'
  | '/' => some '/'
  | 'N' => some '\u0085'
  | '_' => some '\u00a0'
  | 'L' => some '\u2028'
  | 'P' => some '\u2029'
  | _ => none

/-- The number of digits after the letter of a numeric escape. -/
def escapeDigits? : Char → Option Nat
  | 'x' => some 2
  | 'u' => some 4
  | 'U' => some 8
  | _ => none

/-- The character of a code; a code that stands for no character on its own is replaced. -/
def characterOf (code : Nat) : Char :=
  if 0xd800 ≤ code ∧ code < 0xe000 then '\ufffd' else Char.ofNat code

/-- The line breaks inside of quotes, after the first. -/
def quotedBreaks (start : Mark) : Nat → Cursor → Scanned
  | 0, cursor => .ok ([], cursor)
  | rounds + 1, cursor =>
    if cursor.isAtSeparator then
      .error (scanFault "while scanning a quoted scalar" start
        "found unexpected document separator" cursor.mark)
    else
      let cursor := cursor.skipWhile isSpaceOrTab
      match cursor.takeBreak with
      | ([], _) => .ok ([], cursor)
      | (first, cursor) => do
        let (further, cursor) ← quotedBreaks start rounds cursor
        return (first ++ further, cursor)

/-- The character of a numeric escape, from its first digit on. -/
def numericEscape (start : Mark) (digits : Nat) (cursor : Cursor) : Scanned :=
  let found := cursor.ahead digits
  let good := found.takeWhile isHexDigit
  if good.length < digits then
    .error (scanFault "while scanning a double-quoted scalar" start
      ("expected escape sequence of " ++ toString digits ++ " hexadecimal numbers, but found "
        ++ shownChar (cursor.peek good.length)) cursor.mark)
  else if 0x110000 ≤ hexValue found then .error .noCharacter
  else .ok ([characterOf (hexValue found)], cursor.forward digits)

/-- An escape, from the character after the backslash on. -/
def escape (start : Mark) (cursor : Cursor) : Scanned :=
  let c := cursor.peek 0
  match shortEscape? c, escapeDigits? c with
  | some meant, _ => .ok ([meant], cursor.forward 1)
  | none, some digits => numericEscape start digits (cursor.forward 1)
  | none, none =>
    if isBreak c then quotedBreaks start (cursor.rest.length + 1) cursor.takeBreak.2
    else
      .error (scanFault "while scanning a double-quoted scalar" start
        ("found unknown escape character " ++ shownChar c) cursor.mark)

/-- A run inside of quotes without blanks. -/
def quotedRun (double : Bool) (start : Mark) : Nat → Cursor → Scanned
  | 0, cursor => .ok ([], cursor)
  | rounds + 1, cursor =>
    let (plain, cursor) := cursor.takeWhile fun c =>
      !(Text.apostrophe == c || Text.doubleQuote == c || Text.backslash == c || isLayout c)
    let c := cursor.peek 0
    if !double && c == Text.apostrophe && cursor.peek 1 == Text.apostrophe then do
      let (more, cursor) ← quotedRun double start rounds (cursor.forward 2)
      return (plain ++ c :: more, cursor)
    else if (double && c == Text.apostrophe)
        || (!double && (c == Text.doubleQuote || c == Text.backslash)) then do
      let (more, cursor) ← quotedRun double start rounds (cursor.forward 1)
      return (plain ++ c :: more, cursor)
    else if double && c == Text.backslash then do
      let (meant, cursor) ← escape start (cursor.forward 1)
      let (more, cursor) ← quotedRun double start rounds cursor
      return (plain ++ meant ++ more, cursor)
    else .ok (plain, cursor)

/-- The blanks and line breaks between two runs inside of quotes. -/
def quotedSpaces (start : Mark) (cursor : Cursor) : Scanned :=
  let (spaces, cursor) := cursor.takeWhile isSpaceOrTab
  if cursor.rest.isEmpty then
    .error (scanFault "while scanning a quoted scalar" start "found unexpected end of stream"
      cursor.mark)
  else match cursor.takeBreak with
    | ([], _) => .ok (spaces, cursor)
    | (first, cursor) => do
      let (further, cursor) ← quotedBreaks start (cursor.rest.length + 1) cursor
      return (folded first further, cursor)

/-- What is left of a scalar up to its closing quote. -/
def quotedRest (quote : Char) (start : Mark) : Nat → Cursor → Scanned
  | 0, cursor => .ok ([], cursor)
  | rounds + 1, cursor =>
    if cursor.peek 0 == quote then .ok ([], cursor)
    else do
      let (spaces, cursor) ← quotedSpaces start cursor
      let (run, cursor) ←
        quotedRun (quote == Text.doubleQuote) start (cursor.rest.length + 1) cursor
      let (more, cursor) ← quotedRest quote start rounds cursor
      return (spaces ++ run ++ more, cursor)

/-- A scalar between quotes, from its opening quote on. -/
def quotedScalar (cursor : Cursor) : Scanned := do
  let start := cursor.mark
  let quote := cursor.peek 0
  let cursor := cursor.forward 1
  let (run, cursor) ← quotedRun (quote == Text.doubleQuote) start (cursor.rest.length + 1) cursor
  let (more, cursor) ← quotedRest quote start (cursor.rest.length + 1) cursor
  return (run ++ more, cursor.forward 1)

/-! ## Plain -/

/-- The characters that separate the parts of a collection in brackets. -/
def isFlowMark (c : Char) : Bool :=
  c == ',' || c == '[' || c == ']' || c == '\x7b' || c == '\x7d'

/-- Whether a plain scalar goes on over a character, given the one after it. -/
def continuesPlain (inFlow : Bool) (c next : Char) : Bool :=
  !(isLayout c || (c == ':' && (isLayout next || (inFlow && isFlowMark next)))
    || (inFlow && (c == '?' || isFlowMark c)))

/-- The characters at the front over which a plain scalar goes on. -/
def plainRun (inFlow : Bool) : List Char → List Char
  | [] => []
  | c :: rest =>
    if continuesPlain inFlow c (rest.headD endOfText) then c :: plainRun inFlow rest else []

/-- The line breaks after the first between two lines of a plain scalar; nothing when a document
starts or ends on the way. -/
def plainBreaks : Nat → Cursor → Option (List Char) × Cursor
  | 0, cursor => (some [], cursor)
  | rounds + 1, cursor =>
    if cursor.peek 0 == ' ' then plainBreaks rounds (cursor.forward 1)
    else match cursor.takeBreak with
      | ([], _) => (some [], cursor)
      | (first, cursor) =>
        if cursor.isAtSeparator then (none, cursor)
        else
          let (further, cursor) := plainBreaks rounds cursor
          (further.map (first ++ ·), cursor)

/-- The blanks and line breaks after a run of a plain scalar; nothing when the scalar ends there.
Also whether there was a line break. -/
def plainSpaces (cursor : Cursor) : List Char × Bool × Cursor :=
  let (spaces, cursor) := cursor.takeWhile (· == ' ')
  match cursor.takeBreak with
  | ([], _) => (spaces, false, cursor)
  | (first, cursor) =>
    if cursor.isAtSeparator then ([], true, cursor)
    else match plainBreaks (cursor.rest.length + 1) cursor with
      | (none, cursor) => ([], true, cursor)
      | (some further, cursor) => (folded first further, true, cursor)

/-- A plain scalar: its text, the cursor behind it and behind the blanks after it, where its text
ends, and whether the cursor has come to a new line. -/
structure PlainScalar where
  text : List Char
  cursor : Cursor
  brokeLine : Bool

/-- A plain scalar from a place on, after spaces that count when it goes on. -/
def plainFrom (inFlow : Bool) (indent : Nat) : Nat → List Char → Bool → Cursor → PlainScalar
  | 0, _, brokeLine, cursor => ⟨[], cursor, brokeLine⟩
  | rounds + 1, spaces, brokeLine, cursor =>
    let run := if cursor.peek 0 == '#' then [] else plainRun inFlow cursor.rest
    if run.isEmpty then ⟨[], cursor, brokeLine⟩
    else
      let (after, broke, cursor) := plainSpaces (cursor.forward run.length)
      if after.isEmpty || cursor.peek 0 == '#' || (!inFlow && cursor.mark.column < indent) then
        ⟨spaces ++ run, cursor, broke⟩
      else
        let rest := plainFrom inFlow indent rounds after broke cursor
        ⟨spaces ++ run ++ rest.text, rest.cursor, rest.brokeLine⟩

/-- A plain scalar whose lines are indented at least so far. -/
def plainScalar (inFlow : Bool) (indent : Nat) (cursor : Cursor) : PlainScalar :=
  plainFrom inFlow indent (cursor.rest.length + 1) [] false cursor

/-! ## Blocks -/

/-- How the end of a block is treated. -/
inductive Chomping where
  /-- No line feed stays. -/
  | strip
  /-- One line feed stays. -/
  | clip
  /-- All line feeds stay. -/
  | keep
deriving DecidableEq

/-- What the header of a block says. -/
structure BlockHeader where
  chomping : Chomping
  indentation : Option Nat

/-- The chomping at the front of a header. -/
def takeChomping (cursor : Cursor) : Option Chomping × Cursor :=
  match cursor.peek 0 with
  | '+' => (some .keep, cursor.forward 1)
  | '-' => (some .strip, cursor.forward 1)
  | _ => (none, cursor)

/-- The indentation at the front of a header. -/
def takeIndentation (start : Mark) (cursor : Cursor) :
    Except DocumentFault (Option Nat × Cursor) :=
  let c := cursor.peek 0
  if c == '0' then
    .error (scanFault "while scanning a block scalar" start
      "expected indentation indicator in the range 1-9, but found 0" cursor.mark)
  else if c.isDigit then .ok (some (c.toNat - 48), cursor.forward 1)
  else .ok (none, cursor)

/-- The header of a block. -/
def blockHeader (start : Mark) (cursor : Cursor) : Except DocumentFault (BlockHeader × Cursor) := do
  let (before, cursor) := takeChomping cursor
  let (indentation, cursor) ← takeIndentation start cursor
  let (after, cursor) :=
    if before.isNone && indentation.isSome then takeChomping cursor else (none, cursor)
  let c := cursor.peek 0
  if isGap c then return (⟨(before.or after).getD .clip, indentation⟩, cursor)
  else
    .error (scanFault "while scanning a block scalar" start
      ("expected chomping or indentation indicators, but found " ++ shownChar c) cursor.mark)

/-- What is left of the line of a header: blanks and a comment. -/
def restOfLine (activity : String) (start : Mark) (cursor : Cursor) : Except DocumentFault Cursor :=
  let cursor := (cursor.skipWhile (· == ' ')).skipComment
  let c := cursor.peek 0
  if endsLine c then .ok cursor.takeBreak.2
  else
    .error (scanFault activity start
      ("expected a comment or a line break, but found " ++ shownChar c) cursor.mark)

/-- The empty lines before the first line of a block, and the greatest indentation among them. -/
def leadingBreaks : Nat → Nat → Cursor → List Char × Nat × Cursor
  | 0, greatest, cursor => ([], greatest, cursor)
  | rounds + 1, greatest, cursor =>
    if cursor.peek 0 == ' ' then
      let cursor := cursor.forward 1
      leadingBreaks rounds (max greatest cursor.mark.column) cursor
    else match cursor.takeBreak with
      | ([], _) => ([], greatest, cursor)
      | (first, cursor) =>
        let (further, greatest, cursor) := leadingBreaks rounds greatest cursor
        (first ++ further, greatest, cursor)

/-- The spaces up to an indentation. -/
def skipIndentation (indent : Nat) (cursor : Cursor) : Cursor :=
  let spaces := cursor.rest.takeWhile (· == ' ')
  cursor.forward (min spaces.length (indent - cursor.mark.column))

/-- The empty lines before a line of a block. -/
def blockBreaks (indent : Nat) : Nat → Cursor → List Char × Cursor
  | 0, cursor => ([], cursor)
  | rounds + 1, cursor =>
    let cursor := skipIndentation indent cursor
    match cursor.takeBreak with
    | ([], _) => ([], cursor)
    | (first, cursor) =>
      let (further, cursor) := blockBreaks indent rounds cursor
      (first ++ further, cursor)

/-- The lines of a block. The result is what they add up to, the last line break, the empty lines at
the end, and the cursor behind all. -/
def blockLines (folds : Bool) (indent : Nat) :
    Nat → List Char → Cursor → List Char × List Char × List Char × Cursor
  | 0, breaks, cursor => ([], [], breaks, cursor)
  | rounds + 1, breaks, cursor =>
    if cursor.mark.column == indent && !cursor.rest.isEmpty then
      let solid := !isSpaceOrTab (cursor.peek 0)
      let (line, cursor) := cursor.takeWhile (!endsLine ·)
      let (lineBreak, cursor) := cursor.takeBreak
      let (after, cursor) := blockBreaks indent (cursor.rest.length + 1) cursor
      if cursor.mark.column == indent && !cursor.rest.isEmpty then
        let joint :=
          if folds && lineBreak == ['\n'] && solid && !isSpaceOrTab (cursor.peek 0) then
            if after.isEmpty then [' '] else []
          else lineBreak
        let (more, last, breaksAfter, cursor) := blockLines folds indent rounds after cursor
        (breaks ++ line ++ joint ++ more, last, breaksAfter, cursor)
      else (breaks ++ line, lineBreak, after, cursor)
    else ([], [], breaks, cursor)

/-- A block, from its mark on, inside of a given indentation. -/
def blockScalar (indent : Int) (cursor : Cursor) : Scanned := do
  let start := cursor.mark
  let folds := cursor.peek 0 == '>'
  let (header, cursor) ← blockHeader start (cursor.forward 1)
  let cursor ← restOfLine "while scanning a block scalar" start cursor
  let least := (max (indent + 1) 1).toNat
  let (breaks, indent, cursor) := match header.indentation with
    | none =>
      let (breaks, greatest, cursor) := leadingBreaks (cursor.rest.length + 1) 0 cursor
      (breaks, max least greatest, cursor)
    | some indentation =>
      let indent := least + indentation - 1
      let (breaks, cursor) := blockBreaks indent (cursor.rest.length + 1) cursor
      (breaks, indent, cursor)
  let (text, lineBreak, after, cursor) :=
    blockLines folds indent (cursor.rest.length + 1) breaks cursor
  return match header.chomping with
    | .strip => (text, cursor)
    | .clip => (text ++ lineBreak, cursor)
    | .keep => (text ++ lineBreak ++ after, cursor)

end LineGrammar.Yaml
