import LineGrammar.Pattern.Symbol
import LineGrammar.Pattern.Syntax
import LineGrammar.Text.CharacterName
import LineGrammar.Text.Identifier
import LineGrammar.Numeral.Integer

/-!
# Reading patterns

A pattern is read from left to right in one pass. An opening parenthesis starts a level of its own,
and what the parenthesis announces decides what the finished level becomes in the level around it.
The state of a reader is its place in the pattern, the open levels from the innermost outward, and
what the pattern has declared so far: the switches for the whole, the groups with their names and
the widths of those that are closed, and the groups that a conditional part refers to.

Each step takes at least one symbol, so a reader stops after as many steps as there are symbols.
-/

namespace LineGrammar.Pattern

open LineGrammar.Text LineGrammar.Numeral

/-- What a level becomes when it is closed. -/
inductive Bracket where
  /-- The pattern as a whole, which no parenthesis closes. -/
  | whole
  | plain
  | capture (index : Nat)
  | scoped (on off : Switches)
  | atomic
  | lookAhead (negated : Bool)
  /-- The flag tells that no other look-behind is open around this one. -/
  | lookBehind (negated outermost : Bool)
  /-- A part that depends on a group; the first branch once it is complete. -/
  | conditional (index : Nat) (present : Option Node)

/-- Whether an item can be repeated, and if not, why. -/
inductive Standing where
  | operand
  | position
  | repetition
deriving DecidableEq

/-- An open level: its finished branches and the items of the current one, both latest first. -/
structure Level where
  bracket : Bracket
  opening : Nat
  verbose : Bool
  branches : List Node
  items : List (Node × Standing)

/-- The state of a reader. -/
structure Reader where
  position : Nat
  rest : List Symbol
  switches : Switches
  /-- The number of capturing groups opened so far. -/
  opened : Nat
  /-- The widths of the closed groups. -/
  widths : List (Nat × Width)
  names : List (String × Nat)
  /-- Inside a look-behind, the first group number that was not yet opened before it. -/
  lookBehindLimit : Option Nat
  /-- The groups that conditional parts refer to, each with the place of its first reference. -/
  awaited : List (Nat × Nat)
  level : Level
  outer : List Level

/-- A part of the reader: it changes the state or refuses the pattern. -/
abbrev Reading := StateT Reader (Except Refusal)

namespace Reading

/-- Refuses the pattern for a fault at a position. -/
def failAt {α : Type} (cause : Cause) (position : Nat) : Reading α :=
  throw (.fault ⟨cause, some position⟩)

/-- Refuses the pattern for a fault that lies a number of characters back. -/
def fail {α : Type} (cause : Cause) (back : Nat) : Reading α := do
  failAt cause ((← get).position - back)

/-- Passes over a number of symbols. -/
def advance (count : Nat) : Reading Unit := do
  let reader ← get
  let position := reader.position + (Symbol.charsOf (reader.rest.take count)).length
  let rest := reader.rest.drop count
  set { reader with position, rest }
  if rest.head? = some .dangling then failAt .danglingBackslash position

/-- The next symbol, which stays the next. -/
def next? : Reading (Option Symbol) := return (← get).rest.head?

/-- Takes the next symbol. -/
def take? : Reading (Option Symbol) := do
  let symbol ← next?
  advance 1
  return symbol

/-- Takes the next symbol if it is a given character. -/
def accept (c : Char) : Reading Bool := do
  if (← next?) = some (.plain c) then
    advance 1
    return true
  else return false

/-- Takes the symbols in front that satisfy a condition, at most a given number of them. -/
def takeUpTo (limit : Nat) (wanted : Symbol → Bool) : Reading (List Symbol) := do
  let run := ((← get).rest.take limit).takeWhile fun symbol => wanted symbol && symbol != .dangling
  advance run.length
  return run

/-- Takes the symbols in front that satisfy a condition. -/
def takeWhile (wanted : Symbol → Bool) : Reading (List Symbol) := do
  takeUpTo (← get).rest.length wanted

/-- Whether a symbol is a plain character of a kind. -/
def isPlain (kind : Char → Bool) : Symbol → Bool
  | .plain c => kind c
  | _ => false

/-- Whether a character is a hexadecimal digit. -/
def isHexadecimal (c : Char) : Bool :=
  c.isDigit || ('a' ≤ c && c ≤ 'f') || ('A' ≤ c && c ≤ 'F')

/-- Whether a character is an octal digit. -/
def isOctal (c : Char) : Bool := '0' ≤ c && c ≤ '7'

/-- The value of digits to a base of at most sixteen. -/
def valueInBase (base : Nat) (digits : List Char) : Nat :=
  digits.foldl (fun value c =>
    value * base + (if c.isDigit then c.toNat - 48 else c.toLower.toNat - 87)) 0

/-- Takes a name up to a terminator, which is passed over. -/
def takeName (terminator : Char) (what : String) : Reading String := do
  let run ← takeWhile (· != .plain terminator)
  let name := Symbol.charsOf run
  if (← next?).isNone then
    if name.isEmpty then fail (.missingName what) 0
    else fail (.unterminatedName terminator) name.length
  advance 1
  if name.isEmpty then fail (.missingName what) 1
  return String.ofList name

/-- An escape with a fixed number of hexadecimal digits. -/
def hexadecimalEscape (letter : Char) (width : Nat) : Reading Nat := do
  let digits := Symbol.charsOf (← takeUpTo width (isPlain isHexadecimal))
  let text := String.ofList (backslash :: letter :: digits)
  if digits.length < width then fail (.incompleteEscape text) text.length
  let value := valueInBase 16 digits
  if 0x10FFFF < value then fail (.badEscape text) text.length
  return value

/-- An escape that names its character. -/
def namedEscape : Reading Nat := do
  if !(← accept '\x7b') then fail .missingOpeningBrace 0
  let name ← takeName '\x7d' "character name"
  match characterNamed? name with
  | some code => return code
  | none => fail (.unknownCharacterName name) (name.length + 4)

/-- The character of an escape that means the same inside and outside of a set. -/
def commonEscape? (c : Char) : Reading (Option Nat) :=
  match c with
  | 'x' => some <$> hexadecimalEscape 'x' 2
  | 'u' => some <$> hexadecimalEscape 'u' 4
  | 'U' => some <$> hexadecimalEscape 'U' 8
  | 'N' => some <$> namedEscape
  | _ => return none

/-- The control character of an escape. -/
def controlEscape? : Char → Option Nat
  | 'a' => some 7
  | 'f' => some 12
  | 'n' => some 10
  | 'r' => some 13
  | 't' => some 9
  | 'v' => some 11
  | _ => none

/-- The class of an escape. -/
def categoryEscape? : Char → Option SetItem
  | 'd' => some (.category .digit false)
  | 'D' => some (.category .digit true)
  | 's' => some (.category .space false)
  | 'S' => some (.category .space true)
  | 'w' => some (.category .word false)
  | 'W' => some (.category .word true)
  | _ => none

/-- The position of an escape. -/
def anchorEscape? : Char → Option Anchor
  | 'A' => some .textStart
  | 'Z' => some .textEnd
  | 'b' => some .boundary
  | 'B' => some .notBoundary
  | _ => none

/-- The text of an escape made of a backslash, a character and digits. -/
def escapeText (c : Char) (digits : List Char) : String :=
  String.ofList (backslash :: c :: digits)

/-- An escape inside a set, after its symbol has been taken. -/
def setEscape (c : Char) : Reading SetItem := do
  if c = 'b' then return .code 8
  if let some code := controlEscape? c then return .code code
  if let some item := categoryEscape? c then return item
  if let some code ← commonEscape? c then return .code code
  if isOctal c then
    let digits := Symbol.charsOf (← takeUpTo 2 (isPlain isOctal))
    let code := valueInBase 8 (c :: digits)
    if 0xFF < code then fail (.octalTooGreat (escapeText c digits)) (digits.length + 2)
    return .code code
  if c.isAlphanum then fail (.badEscape (escapeText c [])) 2
  return .code c.toNat

/-- Refuses a reference from inside a look-behind to a group that is open or was opened in it. -/
def checkLookBehind (index : Nat) : Reading Unit := do
  let reader ← get
  if let some limit := reader.lookBehindLimit then
    if (reader.widths.lookup index).isNone then fail .openReference 0
    if limit ≤ index then fail .referenceIntoLookBehind 0

/-- A reference to a group by its number; the escape is as long as its digits and two more. -/
def numberedReference (c : Char) (digits : List Char) : Reading Node := do
  let index := valueInBase 10 (c :: digits)
  let reader ← get
  if reader.opened < index then fail (.invalidReference index) (digits.length + 1)
  match reader.widths.lookup index with
  | none => fail .openReference (digits.length + 2)
  | some width =>
    checkLookBehind index
    return .reference index width

/-- A backslash with a digit other than zero: three octal digits are a character, and anything else
is a reference of one or two digits. -/
def digitEscape (c : Char) : Reading Node := do
  match ← takeUpTo 1 (isPlain Char.isDigit) with
  | [.plain d] =>
    if isOctal c && isOctal d then
      match ← takeUpTo 1 (isPlain isOctal) with
      | [.plain e] =>
        let code := valueInBase 8 [c, d, e]
        if 0xFF < code then fail (.octalTooGreat (escapeText c [d, e])) 4
        return .character code
      | _ => numberedReference c [d]
    else numberedReference c [d]
  | _ => numberedReference c []

/-- An escape outside of a set, after its symbol has been taken. -/
def escape (c : Char) : Reading (Node × Standing) := do
  if let some anchor := anchorEscape? c then return (.anchor anchor, .position)
  if let some item := categoryEscape? c then return (.set false [item], .operand)
  if let some code := controlEscape? c then return (.character code, .operand)
  if let some code ← commonEscape? c then return (.character code, .operand)
  if c = '0' then
    let digits := Symbol.charsOf (← takeUpTo 2 (isPlain isOctal))
    return (.character (valueInBase 8 digits), .operand)
  if c.isDigit then return (← digitEscape c, .operand)
  if c.isAlpha then fail (.badEscape (escapeText c [])) 2
  return (.character c.toNat, .operand)

/-- One end of a range or a whole member of a set, after its symbol has been taken. -/
def setMember : Symbol → Reading SetItem
  | .escaped c => setEscape c
  | .plain c => return .code c.toNat
  | .dangling => return .code backslash.toNat

/-- The members of a set up to its closing bracket, latest first. A closing bracket in the first
place stands for itself, and so does a hyphen in the last. -/
def setMembers (opening : Nat) : Nat → List SetItem → Reading (List SetItem)
  | 0, _ => failAt .unterminatedSet opening
  | steps + 1, members => do
    match ← take? with
    | none => failAt .unterminatedSet opening
    | some symbol =>
      if symbol = .plain ']' && !members.isEmpty then return members
      let low ← setMember symbol
      if ← accept '-' then
        match ← take? with
        | none => failAt .unterminatedSet opening
        | some (.plain ']') => return .code '-'.toNat :: low :: members
        | some last =>
          let high ← setMember last
          let width := symbol.size + 1 + last.size
          match low, high with
          | .code a, .code b =>
            if b < a then fail (.badRange symbol.text last.text) width
            setMembers opening steps (.range a b :: members)
          | _, _ => fail (.badRange symbol.text last.text) width
      else setMembers opening steps (low :: members)

/-- A set, after its opening bracket. A set of one character is that character. -/
def set? (opening : Nat) : Reading Node := do
  let negated ← accept '^'
  let members ← setMembers opening ((← get).rest.length + 1) []
  match negated, members.reverse.eraseDups with
  | false, [.code code] => return .character code
  | _, items => return .set negated items

/-- Puts an item at the end of the current branch. -/
def push (node : Node) (standing : Standing) : Reading Unit :=
  modify fun reader =>
    { reader with level := { reader.level with items := (node, standing) :: reader.level.items } }

/-- The bound of a repetition. The number of its digits is looked at before its value. -/
def bound (digits : List Char) : Reading Nat := do
  if digitLimit < digits.length then throw (.overlongCount digits.length)
  let value := valueInBase 10 digits
  if 4294967295 ≤ value then throw .excessiveCount
  return value

/-- The bounds of a counted repetition, after its opening brace; nothing, and nothing taken, when
the brace stands for itself. -/
def counts? : Reading (Option (Nat × Option Nat)) := do
  let before ← get
  if (← next?) = some (.plain '\x7d') then return none
  let low := Symbol.charsOf (← takeWhile (isPlain Char.isDigit))
  let high ←
    if ← accept ',' then Symbol.charsOf <$> takeWhile (isPlain Char.isDigit) else pure low
  if !(← accept '\x7d') then
    set before
    return none
  let least ← if low.isEmpty then pure 0 else bound low
  if high.isEmpty then return some (least, none)
  let greatest ← bound high
  if greatest < least then failAt .leastAboveGreatest before.position
  return some (least, some greatest)

/-- How greedily a repetition runs, from the mark that follows its bounds. -/
def greed : Reading Greed := do
  if ← accept '?' then return .lazy
  if ← accept '+' then return .possessive
  return .greedy

/-- Repeats the last item of the current branch. -/
def repeatLast (least : Nat) (greatest : Option Nat) (position : Nat) : Reading Unit := do
  match (← get).level.items with
  | [] => failAt .nothingToRepeat position
  | (_, .position) :: _ => failAt .nothingToRepeat position
  | (_, .repetition) :: _ => failAt .repeatedRepetition position
  | (node, .operand) :: items =>
    let greed ← greed
    modify fun reader =>
      { reader with
        level :=
          { reader.level with
            items := (.repetition greed least greatest node, .repetition) :: items } }

/-- Whether a symbol is the letter of a switch. -/
def isSwitch : Symbol → Bool
  | .plain c => c = 'L' || (Switch.ofLetter? c).isSome
  | _ => false

/-- The cause of a symbol that stands where a switch or its end should. -/
def strangeSwitch (otherwise : Cause) : Symbol → Cause
  | .plain c => if isLetter c then .unknownSwitch else otherwise
  | _ => otherwise

/-- Turns switches on, from a letter up to the symbol that ends the list, which is returned. -/
def switchesOn : Nat → Symbol → Switches → Reading (Symbol × Switches)
  | 0, _, _ => fail .missingSwitchEnd 0
  | steps + 1, symbol, on => do
    let letter := symbol.chars.headD 'L'
    match Switch.ofLetter? letter with
    | none => fail .localeSwitch 0
    | some switch =>
      let on := on.insert switch
      if on.ascii && on.unicode then fail .exclusiveSwitches 0
      match ← take? with
      | none => fail .missingSwitchEnd 0
      | some next =>
        if next = .plain ')' || next = .plain '-' || next = .plain ':' then return (next, on)
        if !isSwitch next then
          fail (strangeSwitch .missingSwitchEnd next) next.size
        switchesOn steps next on

/-- Turns switches off, from a letter up to the colon. -/
def switchesOff : Nat → Symbol → Switches → Reading Switches
  | 0, _, _ => fail .missingColon 0
  | steps + 1, symbol, off => do
    let letter := symbol.chars.headD 'L'
    match Switch.ofLetter? letter with
    | none => fail .characterSetOff 0
    | some switch =>
      if switch = .ascii || switch = .unicode then fail .characterSetOff 0
      let off := off.insert switch
      match ← take? with
      | none => fail .missingColon 0
      | some next =>
        if next = .plain ':' then return off
        if !isSwitch next then fail (strangeSwitch .missingColon next) next.size
        switchesOff steps next off

/-- The switches of a parenthesis, from their first symbol: those for a part of the pattern, or none
when they have been turned on for the whole. -/
def scopedSwitches? (first : Symbol) : Reading (Option (Switches × Switches)) := do
  let steps := (← get).rest.length + 1
  let (last, on) ←
    if first = .plain '-' then pure (first, Switches.none) else switchesOn steps first .none
  if last = .plain ')' then
    modify fun reader => { reader with switches := reader.switches.union on }
    return none
  if on.template then fail .globalSwitchOn 1
  let off ←
    if last = .plain '-' then
      match ← take? with
      | none => fail .missingSwitch 0
      | some symbol =>
        if !isSwitch symbol then fail (strangeSwitch .missingSwitch symbol) symbol.size
        switchesOff steps symbol .none
    else pure Switches.none
  if off.template then fail .globalSwitchOff 1
  if on.meets off then fail .switchOnAndOff 1
  return some (on, off)

/-- Starts a level inside the current one. -/
def openLevel (bracket : Bracket) (opening : Nat) (verbose : Bool) : Reading Unit :=
  modify fun reader =>
    { reader with
      level := ⟨bracket, opening, verbose, [], []⟩
      outer := reader.level :: reader.outer }

/-- Opens a capturing group. -/
def openCapture (name : Option String) (opening : Nat) (verbose : Bool) : Reading Unit := do
  let reader ← get
  let index := reader.opened + 1
  let names ← match name with
    | none => pure reader.names
    | some name =>
      match reader.names.lookup name with
      | some earlier => fail (.repeatedGroupName name index earlier) (name.length + 1)
      | none => pure (reader.names ++ [(name, index)])
  set { reader with opened := index, names }
  openLevel (.capture index) opening verbose

/-- Refuses a group name that is no identifier. -/
def checkGroupName (name : String) : Reading Unit := do
  if !isIdentifier name.toList then fail (.badGroupName name) (name.length + 1)

/-- A reference to a group by its name, after the name has been taken. -/
def namedReference (name : String) : Reading Node := do
  checkGroupName name
  let reader ← get
  match reader.names.lookup name with
  | none => fail (.unknownGroupName name) (name.length + 1)
  | some index =>
    match reader.widths.lookup index with
    | none => fail .openReference (name.length + 1)
    | some width =>
      checkLookBehind index
      return .reference index width

/-- The greatest number of groups. -/
def groupLimit : Nat := 1073741823

/-- The group that a conditional part depends on, from its name or number. -/
def conditionGroup (name : String) : Reading Nat := do
  let back := name.length + 1
  if isIdentifier name.toList then
    match (← get).names.lookup name with
    | none => fail (.unknownGroupName name) back
    | some index => return index
  else
    match readInteger name.toList with
    | .ok (.ofNat 0) => fail .badGroupNumber back
    | .ok (.ofNat index) =>
      if groupLimit ≤ index then fail (.invalidReference index) back
      modify fun reader =>
        if (reader.awaited.lookup index).isSome then reader
        else { reader with awaited := reader.awaited ++ [(index, reader.position - back)] }
      return index
    | _ => fail (.badGroupName name) back

/-- Passes over a comment; its parenthesis was opened at a given position. -/
def comment (opening : Nat) : Reading Unit := do
  discard (takeWhile (· != .plain ')'))
  if (← next?).isNone then failAt .unterminatedComment opening
  advance 1

/-- Opens a test that looks back. -/
def openLookBehind (negated : Bool) (opening : Nat) (verbose : Bool) : Reading Unit := do
  let reader ← get
  let outermost := reader.lookBehindLimit.isNone
  if outermost then set { reader with lookBehindLimit := some (reader.opened + 1) }
  openLevel (.lookBehind negated outermost) opening verbose

/-- Opens what a parenthesis with a question mark announces, after the question mark. -/
def openExtension (opening : Nat) : Reading Unit := do
  let level := (← get).level
  let verbose := level.verbose
  match ← take? with
  | none => fail .endInGroup 0
  | some (.plain 'P') =>
    if ← accept '<' then
      let name ← takeName '>' "group name"
      checkGroupName name
      openCapture (some name) opening verbose
    else if ← accept '=' then
      let name ← takeName ')' "group name"
      push (← namedReference name) .operand
    else
      match ← take? with
      | none => fail .endInGroup 0
      | some symbol => fail (.unknownExtension ("P" ++ symbol.text)) (symbol.size + 2)
  | some (.plain ':') => openLevel .plain opening verbose
  | some (.plain '#') => comment opening
  | some (.plain '=') => openLevel (.lookAhead false) opening verbose
  | some (.plain '!') => openLevel (.lookAhead true) opening verbose
  | some (.plain '<') =>
    match ← take? with
    | none => fail .endInGroup 0
    | some (.plain '=') => openLookBehind false opening verbose
    | some (.plain '!') => openLookBehind true opening verbose
    | some symbol => fail (.unknownExtension ("<" ++ symbol.text)) (symbol.size + 2)
  | some (.plain '(') =>
    let index ← conditionGroup (← takeName ')' "group name")
    checkLookBehind index
    openLevel (.conditional index none) opening verbose
  | some (.plain '>') => openLevel .atomic opening verbose
  | some symbol =>
    if symbol = .plain '-' || isSwitch symbol then
      match ← scopedSwitches? symbol with
      | some (on, off) =>
        openLevel (.scoped on off) opening ((verbose || on.verbose) && !off.verbose)
      | none =>
        let first := match level.bracket with
          | .whole => level.branches.isEmpty && level.items.isEmpty
          | _ => false
        if !first then failAt .switchesNotFirst opening
        modify fun reader =>
          { reader with level := { reader.level with verbose := reader.switches.verbose } }
    else fail (.unknownExtension symbol.text) (symbol.size + 1)

/-- The current branch of a level as one node. -/
def branchOf (level : Level) : Node := .ofSequence (level.items.reverse.map (·.1))

/-- Ends a branch; of a conditional part only the first branch can be followed by another. -/
def endBranch : Reading Unit := do
  let level := (← get).level
  let branch := branchOf level
  match level.bracket with
  | .conditional index none =>
    advance 1
    modify fun reader =>
      { reader with level := { level with bracket := .conditional index branch, items := [] } }
  | .conditional _ (some _) => fail .tooManyBranches 0
  | .whole =>
    advance 1
    modify fun reader =>
      { reader with
        level :=
          { level with
            branches := branch :: level.branches
            items := []
            verbose := reader.switches.verbose } }
  | _ =>
    advance 1
    modify fun reader =>
      { reader with level := { level with branches := branch :: level.branches, items := [] } }

/-- Refuses a pattern that asks for both character sets as a whole. -/
def checkCharacterSet : Reading Unit := do
  let on := (← get).switches
  if on.ascii && on.unicode then throw .exclusiveCharacterSets

/-- The node that a closed level becomes. -/
def closed (level : Level) : Node :=
  let body := Node.ofBranches (level.branches.reverse ++ [branchOf level])
  match level.bracket with
  | .whole | .plain => body
  | .capture index => .capture index body
  | .scoped on off => .scoped on off body
  | .atomic => .atomic body
  | .lookAhead negated => .lookAhead negated body
  | .lookBehind negated _ => .lookBehind negated body.width body
  | .conditional index none => .conditional index body .empty
  | .conditional index (some present) => .conditional index present body

/-- Closes the current level into the one around it. -/
def closeLevel : Reading Unit := do
  let reader ← get
  match reader.outer with
  | [] =>
    checkCharacterSet
    fail .unbalancedParenthesis 0
  | parent :: outer =>
    let node := closed reader.level
    let widths := match reader.level.bracket with
      | .capture index => (index, node.width) :: reader.widths
      | _ => reader.widths
    let lookBehindLimit := match reader.level.bracket with
      | .lookBehind _ true => none
      | _ => reader.lookBehindLimit
    set { reader with level := parent, outer, widths, lookBehindLimit }
    advance 1
    push node .operand

/-- Whether a symbol is passed over in a part whose layout is free. -/
def isLayout : Symbol → Bool := isPlain isBlank

/-- Reads one item of a branch, after its first symbol has been taken from a given position. -/
def item (position : Nat) : Symbol → Reading Unit
  | .escaped c => do
    let (node, standing) ← escape c
    push node standing
  | .dangling => failAt .danglingBackslash position
  | .plain c => do
    match c with
    | '[' => push (← set? position) .operand
    | '?' => repeatLast 0 (some 1) position
    | '*' => repeatLast 0 none position
    | '+' => repeatLast 1 none position
    | '\x7b' =>
      match ← counts? with
      | some (least, greatest) => repeatLast least greatest position
      | none => push (.character c.toNat) .operand
    | '.' => push .anything .operand
    | '^' => push (.anchor .lineStart) .position
    | '$' => push (.anchor .lineEnd) .position
    | '(' =>
      if ← accept '?' then openExtension position
      else openCapture none position (← get).level.verbose
    | _ => push (.character c.toNat) .operand

/-- Reads one symbol and what belongs to it; false at the end of the pattern. -/
def step : Reading Bool := do
  let reader ← get
  match reader.rest with
  | [] => return false
  | .plain '|' :: _ => endBranch
  | .plain ')' :: _ => closeLevel
  | symbol :: _ =>
    advance 1
    if reader.level.verbose && isLayout symbol then pure ()
    else if reader.level.verbose && symbol = .plain '#' then
      discard (takeWhile (· != .plain '\n'))
      advance 1
    else item reader.position symbol
  return true

/-- Reads up to the end of the pattern. -/
def steps : Nat → Reading Unit
  | 0 => return
  | n + 1 => do if ← step then steps n

/-- What is decided at the end: every level but the outermost is closed, and every group that a
conditional part refers to exists. -/
def finish : Reading Node := do
  let reader ← get
  if !reader.outer.isEmpty then failAt .unterminatedGroup reader.level.opening
  checkCharacterSet
  if let some (index, position) := reader.awaited.find? fun entry => reader.opened < entry.1 then
    failAt (.invalidReference index) position
  return closed reader.level

end Reading

/-- A reader at the start of a pattern. -/
def Reader.start (symbols : List Symbol) (switches : Switches) : Reader where
  position := 0
  rest := symbols
  switches := switches
  opened := 0
  widths := []
  names := []
  lookBehindLimit := none
  awaited := []
  level := ⟨.whole, 0, switches.verbose, [], []⟩
  outer := []

/-- Reads a pattern under switches; the tree, and the reader at the end. -/
def readTree (text : List Char) (switches : Switches) : Except Refusal (Node × Reader) :=
  let symbols := Symbol.ofChars text
  let reading : Reading Node := do
    Reading.advance 0
    Reading.steps (symbols.length + 1)
    Reading.finish
  reading (Reader.start symbols switches)

/-- What keeps a tree from being run: a look-behind without a fixed width, or under `template` any
repetition. The first fault from the left is the one reported. -/
def Node.obstacle? (template : Bool) : Node → Option Cause
  | .sequence first second => first.obstacle? template <|> second.obstacle? template
  | .choice first second => first.obstacle? template <|> second.obstacle? template
  | .repetition greed _ _ body =>
    if template then
      some (.templateRepetition (match greed with
        | .greedy => "MAX_REPEAT"
        | .lazy => "MIN_REPEAT"
        | .possessive => "POSSESSIVE_REPEAT"))
    else body.obstacle? template
  | .capture _ body => body.obstacle? template
  | .scoped _ _ body => body.obstacle? template
  | .atomic body => body.obstacle? template
  | .lookAhead _ body => body.obstacle? template
  | .lookBehind _ width body =>
    if 4294967295 < width.least then some .farLookBehind
    else if width.fixed?.isNone then some .variableLookBehind
    else body.obstacle? template
  | .conditional _ present absent => present.obstacle? template <|> absent.obstacle? template
  | _ => none

end LineGrammar.Pattern
