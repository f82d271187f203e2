import LineGrammar.Yaml.Token

/-!
# The stream of tokens

Tokens are found on demand, from left to right. A token may turn out to be a key only when a colon
follows it on the same line, so a token that may still become one is held back until this is
settled; then the key mark is put before it. Indentation opens and closes block collections.
-/

namespace LineGrammar.Yaml

/-- A token that may still become a key: its number, where it begins, and whether nothing else would
do at its place. -/
structure PossibleKey where
  number : Nat
  required : Bool
  mark : Mark

/-- The state of a scan. -/
structure Scanner where
  cursor : Cursor
  /-- The tokens that are found and not taken. -/
  waiting : List Token
  /-- The number of tokens that are taken. -/
  taken : Nat
  done : Bool
  /-- How many brackets are open. -/
  depth : Int
  /-- The column of the current block collection; -1 outside of all. -/
  indent : Int
  /-- The columns of the collections around it. -/
  outer : List Int
  /-- Whether a key may begin here. -/
  keyAllowed : Bool
  /-- The possible keys by the depth at which they stand. -/
  keys : List (Int × PossibleKey)

/-- A step of a scan. -/
abbrev Scan (α : Type) := StateT Scanner (Except DocumentFault) α

namespace Scanner

/-- A scan of a whole text; a byte order mark at its front does not count. -/
def start (text : List Char) : Scanner :=
  let cursor := Cursor.start text
  let first : Token := ⟨.streamStart, cursor.mark, cursor.mark⟩
  ⟨cursor, [first], 0, false, 0, -1, [], true, []⟩

/-- Fails with a fault of scanning that has no context. -/
def refuse {α : Type} (problem : String) (place : Mark) : Scan α :=
  throw (.marked .scanning none problem place)

/-- Fails for a token that should have become a key. -/
def refuseKey {α : Type} (key : PossibleKey) : Scan α := do
  throw (scanFault "while scanning a simple key" key.mark "could not find expected ':'"
    (← get).cursor.mark)

/-- Appends a token. -/
def push (kind : TokenKind) (start stop : Mark) : Scan Unit :=
  modify fun scanner => { scanner with waiting := scanner.waiting ++ [⟨kind, start, stop⟩] }

/-- Appends a token without characters. -/
def pushHere (kind : TokenKind) : Scan Unit := do
  let mark := (← get).cursor.mark
  push kind mark mark

/-- Appends a token of some characters and moves behind them. -/
def pushOver (kind : TokenKind) (count : Nat) : Scan Unit := do
  let cursor := (← get).cursor
  let after := cursor.forward count
  modify fun scanner => { scanner with cursor := after }
  push kind cursor.mark after.mark

/-- Moves to a place. -/
def moveTo (cursor : Cursor) : Scan Unit :=
  modify fun scanner => { scanner with cursor := cursor }

/-- Says whether a key may begin here. -/
def allowKey (allowed : Bool) : Scan Unit :=
  modify fun scanner => { scanner with keyAllowed := allowed }

/-- Whether the scan is inside of brackets. -/
def inFlow (scanner : Scanner) : Bool := scanner.depth != 0

/-- Keeps the possible keys that are on the current line and not too far back. -/
def dropStaleKeys : Scan Unit := do
  let scanner ← get
  let place := scanner.cursor.mark
  let isStale (key : PossibleKey) : Bool :=
    key.mark.line != place.line || 1024 < place.index - key.mark.index
  match scanner.keys.find? fun entry => isStale entry.2 && entry.2.required with
  | some entry => refuseKey entry.2
  | none =>
    set { scanner with keys := scanner.keys.filter fun entry => !isStale entry.2 }

/-- Gives up the possible key of the current depth. -/
def dropKey : Scan Unit := do
  let scanner ← get
  match scanner.keys.lookup scanner.depth with
  | none => return ()
  | some key =>
    if key.required then refuseKey key
    else set { scanner with keys := scanner.keys.filter fun entry => entry.1 != scanner.depth }

/-- Notes that the next token may become a key. -/
def saveKey : Scan Unit := do
  let scanner ← get
  let place := scanner.cursor.mark
  if scanner.keyAllowed then
    dropKey
    let key : PossibleKey :=
      ⟨scanner.taken + scanner.waiting.length,
        !scanner.inFlow && scanner.indent == (place.column : Int), place⟩
    modify fun scanner => { scanner with keys := scanner.keys ++ [(scanner.depth, key)] }

/-- Closes the block collections that stand further right than a column. -/
def closeBlocks (column : Int) : Scan Unit := do
  let scanner ← get
  if scanner.inFlow then return ()
  else
    let mark := scanner.cursor.mark
    let columns := scanner.indent :: scanner.outer
    let closed := columns.takeWhile (column < ·)
    match columns.drop closed.length with
    | [] => return ()
    | indent :: outer =>
      set { scanner with
        waiting := scanner.waiting ++ closed.map fun _ => Token.mk .blockEnd mark mark
        indent := indent
        outer := outer }

/-- Opens a block collection at a column, if it stands further right than the current one. -/
def openBlock (column : Nat) : Scan Bool := do
  let scanner ← get
  if scanner.indent < (column : Int) then
    set { scanner with indent := column, outer := scanner.indent :: scanner.outer }
    return true
  else return false

/-- Skips blanks, line breaks and comments. A new line allows a key, outside of brackets. -/
def skipLayout : Nat → Scan Unit
  | 0 => return ()
  | rounds + 1 => do
    let scanner ← get
    let cursor := (scanner.cursor.skipWhile (· == ' ')).skipComment
    match cursor.takeBreak with
    | ([], _) => set { scanner with cursor := cursor }
    | (_, cursor) =>
      set { scanner with
        cursor := cursor
        keyAllowed := scanner.keyAllowed || !scanner.inFlow }
      skipLayout rounds

/-- The end of the text. -/
def findEnd : Scan Unit := do
  closeBlocks (-1)
  dropKey
  modify fun scanner => { scanner with keyAllowed := false, keys := [] }
  pushHere .streamEnd
  modify fun scanner => { scanner with done := true }

/-- A directive. -/
def findDirective : Scan Unit := do
  closeBlocks (-1)
  dropKey
  allowKey false
  let cursor := (← get).cursor
  let (content, stop, after) ← takeDirective cursor
  moveTo after
  push (.directive content) cursor.mark stop

/-- The mark of a start or an end of a document. -/
def findSeparator (kind : TokenKind) : Scan Unit := do
  closeBlocks (-1)
  dropKey
  allowKey false
  pushOver kind 3

/-- An opening bracket. -/
def findOpening (kind : TokenKind) : Scan Unit := do
  saveKey
  modify fun scanner => { scanner with depth := scanner.depth + 1, keyAllowed := true }
  pushOver kind 1

/-- A closing bracket. -/
def findClosing (kind : TokenKind) : Scan Unit := do
  dropKey
  modify fun scanner => { scanner with depth := scanner.depth - 1, keyAllowed := false }
  pushOver kind 1

/-- A comma between the parts of a collection in brackets. -/
def findFlowEntry : Scan Unit := do
  allowKey true
  dropKey
  pushOver .flowEntry 1

/-- Checks that a block collection may begin here, and begins it where it is new. -/
def enterBlock (kind : TokenKind) (problem : String) : Scan Unit := do
  let scanner ← get
  let mark := scanner.cursor.mark
  if scanner.inFlow then return ()
  else if !scanner.keyAllowed then refuse problem mark
  else if ← openBlock mark.column then pushHere kind

/-- The mark of an entry of a block sequence. -/
def findBlockEntry : Scan Unit := do
  enterBlock .blockSequenceStart "sequence entries are not allowed here"
  allowKey true
  dropKey
  pushOver .blockEntry 1

/-- The mark of a key. -/
def findKey : Scan Unit := do
  enterBlock .blockMappingStart "mapping keys are not allowed here"
  allowKey (!(← get).inFlow)
  dropKey
  pushOver .key 1

/-- Puts a token before the waiting token of a number. -/
def pushBefore (number : Nat) (kind : TokenKind) (mark : Mark) : Scan Unit :=
  modify fun scanner =>
    let position := number - scanner.taken
    { scanner with
      waiting := scanner.waiting.take position ++ ⟨kind, mark, mark⟩
        :: scanner.waiting.drop position }

/-- The mark of a value. A possible key before it becomes a key. -/
def findValue : Scan Unit := do
  let scanner ← get
  match scanner.keys.lookup scanner.depth with
  | some key =>
    set { scanner with keys := scanner.keys.filter fun entry => entry.1 != scanner.depth }
    pushBefore key.number .key key.mark
    if !scanner.inFlow then
      if ← openBlock key.mark.column then pushBefore key.number .blockMappingStart key.mark
    allowKey false
  | none =>
    enterBlock .blockMappingStart "mapping values are not allowed here"
    allowKey (!scanner.inFlow)
    dropKey
  pushOver .value 1

/-- A token that may become a key, read by a function from its first character on. -/
def findNode (read : Cursor → Except DocumentFault (TokenKind × Cursor)) : Scan Unit := do
  saveKey
  allowKey false
  let cursor := (← get).cursor
  let (kind, after) ← read cursor
  moveTo after
  push kind cursor.mark after.mark

/-- A block of lines. -/
def findBlockScalar : Scan Unit := do
  allowKey true
  dropKey
  let scanner ← get
  let (text, after) ← blockScalar scanner.indent scanner.cursor
  moveTo after
  push (.scalar (String.ofList text) false) scanner.cursor.mark after.mark

/-- A plain scalar. -/
def findPlain : Scan Unit := do
  saveKey
  let scanner ← get
  let scalar := plainScalar scanner.inFlow (scanner.indent + 1).toNat scanner.cursor
  allowKey scalar.brokeLine
  moveTo scalar.cursor
  push (.scalar (String.ofList scalar.text) true) scanner.cursor.mark scalar.cursor.mark

/-- Whether a plain scalar may begin with a character, given the next one. -/
def beginsPlain (inFlow : Bool) (c next : Char) : Bool :=
  !(isLayout c || "-?:,[]\x7b\x7d#&*!|>'\"%@\x60".toList.contains c)
    || (!isLayout next && (c == '-' || (!inFlow && (c == '?' || c == ':'))))

/-- Finds the next token. -/
def findToken : Scan Unit := do
  let first := (← get).cursor
  if first.mark.index == 0 && first.peek 0 == '\ufeff' then moveTo (first.forward 1)
  skipLayout (first.rest.length + 1)
  dropStaleKeys
  closeBlocks ((← get).cursor.mark.column)
  let scanner ← get
  let cursor := scanner.cursor
  let c := cursor.peek 0
  let next := cursor.peek 1
  let atMargin := cursor.mark.column == 0
  let spaced := scanner.inFlow || isLayout next
  if cursor.rest.isEmpty then findEnd
  else if c == '%' && atMargin then findDirective
  else if atMargin && cursor.isAtMark '-' then findSeparator .documentStart
  else if atMargin && cursor.isAtMark '.' then findSeparator .documentEnd
  else if c == '[' then findOpening .flowSequenceStart
  else if c == '\x7b' then findOpening .flowMappingStart
  else if c == ']' then findClosing .flowSequenceEnd
  else if c == '\x7d' then findClosing .flowMappingEnd
  else if c == ',' then findFlowEntry
  else if c == '-' && isLayout next then findBlockEntry
  else if c == '?' && spaced then findKey
  else if c == ':' && spaced then findValue
  else if c == '*' then findNode fun cursor => do
    let (name, after) ← anchorName cursor
    return (.alias name, after)
  else if c == '&' then findNode fun cursor => do
    let (name, after) ← anchorName cursor
    return (.anchor name, after)
  else if c == '!' then findNode takeTag
  else if (c == '|' || c == '>') && !scanner.inFlow then findBlockScalar
  else if c == Text.apostrophe || c == Text.doubleQuote then findNode fun cursor => do
    let (text, after) ← quotedScalar cursor
    return (.scalar (String.ofList text) false, after)
  else if beginsPlain scanner.inFlow c next then findPlain
  else throw (scanFault "while scanning for the next token" cursor.mark
    ("found character " ++ shownChar c ++ " that cannot start any token") cursor.mark)

/-- Whether the first waiting token is not settled yet. -/
def needsMore : Scan Bool := do
  let scanner ← get
  if scanner.done then return false
  else if scanner.waiting.isEmpty then return true
  else
    dropStaleKeys
    return (← get).keys.any fun entry => entry.2.number == scanner.taken

/-- Finds tokens until the first one is settled. -/
def settle : Nat → Scan Unit
  | 0 => return ()
  | rounds + 1 => do
    if ← needsMore then
      findToken
      settle rounds

/-- The next token, which is left where it is. After the last token the end is shown again. -/
def next : Scan Token := do
  let scanner ← get
  settle (scanner.cursor.rest.length + 2)
  let scanner ← get
  return scanner.waiting.headD ⟨.streamEnd, scanner.cursor.mark, scanner.cursor.mark⟩

/-- Takes the next token. -/
def take : Scan Token := do
  let token ← next
  modify fun scanner =>
    { scanner with waiting := scanner.waiting.tail, taken := scanner.taken + 1 }
  return token

end Scanner

end LineGrammar.Yaml
