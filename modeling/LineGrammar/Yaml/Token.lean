import LineGrammar.Yaml.Scalar

/-!
# Tokens

The text of a document falls into tokens: indicators, names, scalars, and the starts and ends of
block collections, which no character stands for but a change of indentation does.
-/

namespace LineGrammar.Yaml

/-- What a directive says. -/
inductive Directive where
  | version (major minor : Nat)
  | tag (handle stem : String)
  | unknown
deriving DecidableEq

/-- The kinds of tokens. -/
inductive TokenKind where
  | streamStart
  | streamEnd
  | directive (content : Directive)
  | documentStart
  | documentEnd
  | blockSequenceStart
  | blockMappingStart
  | blockEnd
  | flowSequenceStart
  | flowSequenceEnd
  | flowMappingStart
  | flowMappingEnd
  | blockEntry
  | flowEntry
  | key
  | value
  | alias (name : String)
  | anchor (name : String)
  /-- A tag; without a handle, it is spelled out. -/
  | tag (handle : Option String) (suffix : String)
  | scalar (text : String) (plain : Bool)
deriving DecidableEq

/-- A kind of tokens as messages show it. -/
def TokenKind.shown : TokenKind → String
  | .streamStart => "'<stream start>'"
  | .streamEnd => "'<stream end>'"
  | .directive _ => "'<directive>'"
  | .documentStart => "'<document start>'"
  | .documentEnd => "'<document end>'"
  | .blockSequenceStart => "'<block sequence start>'"
  | .blockMappingStart => "'<block mapping start>'"
  | .blockEnd => "'<block end>'"
  | .flowSequenceStart => "'['"
  | .flowSequenceEnd => "']'"
  | .flowMappingStart => "'\x7b'"
  | .flowMappingEnd => "'\x7d'"
  | .blockEntry => "'-'"
  | .flowEntry => "','"
  | .key => "'?'"
  | .value => "':'"
  | .alias _ => "'<alias>'"
  | .anchor _ => "'<anchor>'"
  | .tag .. => "'<tag>'"
  | .scalar .. => "'<scalar>'"

/-- A token and the places where it starts and stops. -/
structure Token where
  kind : TokenKind
  start : Mark
  stop : Mark

/-! ## Names -/

/-- A name at the front of a text. -/
def takeName (cursor : Cursor) : String × Cursor :=
  let (name, cursor) := cursor.takeWhile isNameCharacter
  (String.ofList name, cursor)

/-- The characters that may follow the name of an anchor. -/
def endsAnchor (c : Char) : Bool :=
  isLayout c || ['?', ':', ',', ']', '\x7d', '%', '@', '\x60'].contains c

/-- The name of an anchor or an alias, from its mark on. -/
def anchorName (cursor : Cursor) : Except DocumentFault (String × Cursor) :=
  let start := cursor.mark
  let activity :=
    if cursor.peek 0 == '*' then "while scanning an alias" else "while scanning an anchor"
  let (name, cursor) := takeName (cursor.forward 1)
  let c := cursor.peek 0
  if name.isEmpty || !endsAnchor c then
    .error (scanFault activity start
      ("expected alphabetic or numeric character, but found " ++ shownChar c) cursor.mark)
  else .ok (name, cursor)

/-! ## Tags -/

/-- The characters of the body of a tag. -/
def isTagCharacter (c : Char) : Bool :=
  c.isAlphanum || "-;/?:@&=+$,_.!~*'()[]%".toList.contains c

/-- The bytes of a run of percent escapes. -/
def escapedBytes (activity : String) (start : Mark) :
    Nat → Cursor → Except DocumentFault (List Nat × Cursor)
  | 0, cursor => .ok ([], cursor)
  | rounds + 1, cursor =>
    if cursor.peek 0 != '%' then .ok ([], cursor)
    else
      let cursor := cursor.forward 1
      let good := (cursor.ahead 2).takeWhile isHexDigit
      if good.length < 2 then
        .error (scanFault activity start
          ("expected URI escape sequence of 2 hexadecimal numbers, but found "
            ++ shownChar (cursor.peek good.length)) cursor.mark)
      else do
        let (bytes, cursor) ← escapedBytes activity start rounds (cursor.forward 2)
        return (hexValue good :: bytes, cursor)

/-- The characters of a run of percent escapes. -/
def escapedCharacters (activity : String) (start : Mark) (cursor : Cursor) : Scanned := do
  let place := cursor.mark
  let (bytes, cursor) ← escapedBytes activity start (cursor.rest.length + 1) cursor
  match String.fromUTF8? ⟨(bytes.map Nat.toUInt8).toArray⟩ with
  | some text => return (text.toList, cursor)
  | none =>
    .error (scanFault activity start
      ("'utf-8' codec can't decode byte 0x" ++ String.ofList (Text.hexadecimal 2 (bytes.headD 0))
        ++ " in position 0: invalid start byte") place)

/-- The body of a tag. -/
def tagBodyFrom (activity : String) (start : Mark) : Nat → Cursor → Scanned
  | 0, cursor => .ok ([], cursor)
  | rounds + 1, cursor => do
    let (plain, cursor) := cursor.takeWhile fun c => isTagCharacter c && c != '%'
    if cursor.peek 0 == '%' then
      let (meant, cursor) ← escapedCharacters activity start cursor
      let (more, cursor) ← tagBodyFrom activity start rounds cursor
      return (plain ++ meant ++ more, cursor)
    else return (plain, cursor)

/-- The body of a tag, which is not empty. -/
def tagBody (thing : String) (start : Mark) (cursor : Cursor) :
    Except DocumentFault (String × Cursor) :=
  if isTagCharacter (cursor.peek 0) then do
    let (body, cursor) ←
      tagBodyFrom ("while scanning a " ++ thing) start (cursor.rest.length + 1) cursor
    return (String.ofList body, cursor)
  else
    .error (scanFault ("while parsing a " ++ thing) start
      ("expected URI, but found " ++ shownChar (cursor.peek 0)) cursor.mark)

/-- The handle of a tag: an exclamation mark alone, or a name between two of them. -/
def tagHandle (thing : String) (start : Mark) (cursor : Cursor) :
    Except DocumentFault (String × Cursor) :=
  let refuse (cursor : Cursor) : Except DocumentFault (String × Cursor) :=
    .error (scanFault ("while scanning a " ++ thing) start
      ("expected '!', but found " ++ shownChar (cursor.peek 0)) cursor.mark)
  if cursor.peek 0 != '!' then refuse cursor
  else if cursor.peek 1 == ' ' then .ok ("!", cursor.forward 1)
  else
    let (name, after) := takeName (cursor.forward 1)
    if after.peek 0 != '!' then refuse after else .ok ("!" ++ name ++ "!", after.forward 1)

/-- A tag: its handle, if it has one, and its body. -/
def tagParts (start : Mark) (cursor : Cursor) :
    Except DocumentFault (Option String × String × Cursor) :=
  let c := cursor.peek 1
  if c == '<' then do
    let (body, cursor) ← tagBody "tag" start (cursor.forward 2)
    if cursor.peek 0 != '>' then
      .error (scanFault "while parsing a tag" start
        ("expected '>', but found " ++ shownChar (cursor.peek 0)) cursor.mark)
    else return (none, body, cursor.forward 1)
  else if isLayout c then .ok (none, "!", cursor.forward 1)
  else do
    let word := (cursor.rest.drop 1).takeWhile (!isGap ·)
    let (handle, cursor) ←
      if word.contains '!' then tagHandle "tag" start cursor else .ok ("!", cursor.forward 1)
    let (body, cursor) ← tagBody "tag" start cursor
    return (some handle, body, cursor)

/-- A tag, from its exclamation mark on. -/
def takeTag (cursor : Cursor) : Except DocumentFault (TokenKind × Cursor) := do
  let start := cursor.mark
  let (handle, body, cursor) ← tagParts start cursor
  let c := cursor.peek 0
  if isGap c then return (.tag handle body, cursor)
  else
    .error (scanFault "while scanning a tag" start ("expected ' ', but found " ++ shownChar c)
      cursor.mark)

/-! ## Directives -/

/-- A fault in a directive. -/
def directiveFault {α : Type} (start : Mark) (expected : String) (cursor : Cursor) :
    Except DocumentFault α :=
  .error (scanFault "while scanning a directive" start
    ("expected " ++ expected ++ ", but found " ++ shownChar (cursor.peek 0)) cursor.mark)

/-- A number in a directive. -/
def directiveNumber (start : Mark) (cursor : Cursor) : Except DocumentFault (Nat × Cursor) :=
  let (digits, after) := cursor.takeWhile Char.isDigit
  if digits.isEmpty then directiveFault start "a digit" cursor
  else .ok (digits.foldl (fun value c => value * 10 + (c.toNat - 48)) 0, after)

/-- What a directive for the version says. -/
def versionDirective (start : Mark) (cursor : Cursor) :
    Except DocumentFault (Directive × Cursor) := do
  let (major, cursor) ← directiveNumber start (cursor.skipWhile (· == ' '))
  if cursor.peek 0 != '.' then directiveFault start "a digit or '.'" cursor
  else
    let (minor, cursor) ← directiveNumber start (cursor.forward 1)
    if isGap (cursor.peek 0) then return (.version major minor, cursor)
    else directiveFault start "a digit or ' '" cursor

/-- What a directive for a tag says. -/
def tagDirective (start : Mark) (cursor : Cursor) : Except DocumentFault (Directive × Cursor) := do
  let (handle, cursor) ← tagHandle "directive" start (cursor.skipWhile (· == ' '))
  if cursor.peek 0 != ' ' then directiveFault start "' '" cursor
  else
    let (stem, cursor) ← tagBody "directive" start (cursor.skipWhile (· == ' '))
    if isGap (cursor.peek 0) then return (.tag handle stem, cursor)
    else directiveFault start "' '" cursor

/-- A directive, from its percent sign on: what it says, where it ends, and the cursor on the next
line. -/
def takeDirective (cursor : Cursor) : Except DocumentFault (Directive × Mark × Cursor) := do
  let start := cursor.mark
  let (name, cursor) := takeName (cursor.forward 1)
  if name.isEmpty || !isGap (cursor.peek 0) then
    directiveFault start "alphabetic or numeric character" cursor
  else
    let (content, cursor) ←
      if name == "YAML" then versionDirective start cursor
      else if name == "TAG" then tagDirective start cursor
      else .ok (.unknown, cursor)
    let stop := cursor.mark
    let cursor := if content == .unknown then cursor.skipWhile (!endsLine ·) else cursor
    return (content, stop, ← restOfLine "while scanning a directive" start cursor)

end LineGrammar.Yaml
