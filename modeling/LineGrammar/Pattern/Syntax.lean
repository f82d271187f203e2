/-!
# The tree of a pattern

A pattern describes texts by characters, sets, positions, sequence, choice and repetition, with
capturing groups, and with tests that look around without consuming. `Node` is its tree. How a
character compares and where a line ends depends on switches that a pattern turns on for the whole
or for a part of itself; the tree keeps those parts as `scoped` nodes, and the meaning of a leaf is
given by the switches that hold there.

The width of a node bounds the lengths of the texts that it consumes. A test that looks back needs a
fixed width, because it starts that far before the place where it is asked.
-/

namespace LineGrammar.Pattern

/-- The switches of a pattern. -/
inductive Switch where
  /-- Character classes and case are those of the plain characters below 128. -/
  | ascii
  | ignoreCase
  | multiline
  | dotAll
  | verbose
  /-- Character classes and case are those of the full character set. -/
  | unicode
  | template
deriving DecidableEq, Repr

/-- A set of switches. -/
structure Switches where
  ascii : Bool := false
  ignoreCase : Bool := false
  multiline : Bool := false
  dotAll : Bool := false
  verbose : Bool := false
  unicode : Bool := false
  template : Bool := false
deriving DecidableEq, Inhabited, Repr

namespace Switches

/-- No switch turned on. -/
def none : Switches := {}

/-- Turns one switch on. -/
def insert (on : Switches) : Switch → Switches
  | .ascii => { on with ascii := true }
  | .ignoreCase => { on with ignoreCase := true }
  | .multiline => { on with multiline := true }
  | .dotAll => { on with dotAll := true }
  | .verbose => { on with verbose := true }
  | .unicode => { on with unicode := true }
  | .template => { on with template := true }

/-- The switches that are on in either set. -/
def union (a b : Switches) : Switches where
  ascii := a.ascii || b.ascii
  ignoreCase := a.ignoreCase || b.ignoreCase
  multiline := a.multiline || b.multiline
  dotAll := a.dotAll || b.dotAll
  verbose := a.verbose || b.verbose
  unicode := a.unicode || b.unicode
  template := a.template || b.template

/-- Whether some switch is on in both sets. -/
def meets (a b : Switches) : Bool :=
  (a.ascii && b.ascii) || (a.ignoreCase && b.ignoreCase) || (a.multiline && b.multiline)
    || (a.dotAll && b.dotAll) || (a.verbose && b.verbose) || (a.unicode && b.unicode)
    || (a.template && b.template)

/-- The switches inside a part that turns some on and others off. The two switches that choose the
character set exclude each other, so turning one on turns the other off. -/
def within (outer on off : Switches) : Switches where
  ascii := if on.ascii || on.unicode then on.ascii else outer.ascii
  ignoreCase := (outer.ignoreCase || on.ignoreCase) && !off.ignoreCase
  multiline := (outer.multiline || on.multiline) && !off.multiline
  dotAll := (outer.dotAll || on.dotAll) && !off.dotAll
  verbose := (outer.verbose || on.verbose) && !off.verbose
  unicode := if on.ascii || on.unicode then on.unicode else outer.unicode
  template := outer.template || on.template

/-- The switches that a fragment can carry along, with their letters in the order in which they
are written. -/
def letters (on : Switches) : List Char :=
  [(on.ascii, 'a'), (on.ignoreCase, 'i'), (on.multiline, 'm'), (on.dotAll, 's'),
    (on.verbose, 'x')].filterMap fun (isOn, letter) => if isOn then some letter else .none

end Switches

/-- The switch of a letter. -/
def Switch.ofLetter? : Char → Option Switch
  | 'a' => some .ascii
  | 'i' => some .ignoreCase
  | 'm' => some .multiline
  | 's' => some .dotAll
  | 'x' => some .verbose
  | 'u' => some .unicode
  | 't' => some .template
  | _ => none

/-- A class of characters. -/
inductive Category where
  | digit
  | space
  | word
deriving DecidableEq, Repr

/-- One member of a set of characters. -/
inductive SetItem where
  | code (point : Nat)
  | range (low high : Nat)
  | category (kind : Category) (negated : Bool)
deriving DecidableEq, Repr

/-- A position that a pattern can ask for. -/
inductive Anchor where
  /-- The start of the text, or of a line under `multiline`. -/
  | lineStart
  /-- The end of the text, the place before a last line feed, or the end of a line. -/
  | lineEnd
  | textStart
  | textEnd
  | boundary
  | notBoundary
deriving DecidableEq, Repr

/-- How a repetition chooses the number of its turns. -/
inductive Greed where
  /-- As many turns as possible, fewer only when the rest demands it. -/
  | greedy
  /-- As few turns as possible, more only when the rest demands it. -/
  | lazy
  /-- As many turns as possible, never fewer. -/
  | possessive
deriving DecidableEq, Repr

/-- The least and the greatest length of the texts that a node consumes; no greatest length when a
repetition is unbounded. -/
structure Width where
  least : Nat
  greatest : Option Nat
deriving DecidableEq, Repr

namespace Width

/-- The width of one character. -/
def one : Width := ⟨1, some 1⟩

/-- The width of a test. -/
def none : Width := ⟨0, some 0⟩

/-- The width of a sequence. -/
def add (a b : Width) : Width :=
  ⟨a.least + b.least, a.greatest.bind fun m => b.greatest.map (m + ·)⟩

/-- The width of a choice. -/
def either (a b : Width) : Width :=
  ⟨min a.least b.least, a.greatest.bind fun m => b.greatest.map (max m ·)⟩

/-- The width of a repetition. -/
def times (turn : Width) (least : Nat) (greatest : Option Nat) : Width :=
  ⟨turn.least * least,
    match turn.greatest, greatest with
    | some 0, _ => some 0
    | some m, some n => some (m * n)
    | _, some 0 => some 0
    | _, _ => Option.none⟩

/-- The length of every consumed text, when there is only one. -/
def fixed? (w : Width) : Option Nat :=
  if w.greatest = some w.least then some w.least else Option.none

end Width

/-- The tree of a pattern. -/
inductive Node where
  | empty
  /-- One character. -/
  | character (code : Nat)
  /-- Any character but a line feed; any character under `dotAll`. -/
  | anything
  | set (negated : Bool) (items : List SetItem)
  | anchor (place : Anchor)
  | sequence (first second : Node)
  | choice (first second : Node)
  | repetition (greed : Greed) (least : Nat) (greatest : Option Nat) (body : Node)
  | capture (index : Nat) (body : Node)
  /-- A part with some switches turned on and others off. -/
  | scoped (on off : Switches) (body : Node)
  /-- A part that, once matched, is not matched in another way. -/
  | atomic (body : Node)
  | lookAhead (negated : Bool) (body : Node)
  | lookBehind (negated : Bool) (width : Width) (body : Node)
  /-- The text of a group over again; the width is that of the group. -/
  | reference (index : Nat) (width : Width)
  /-- The first part if a group took part, otherwise the second. -/
  | conditional (index : Nat) (present absent : Node)
deriving DecidableEq, Repr

namespace Node

/-- The bounds on the length of a text that a node consumes. -/
def width : Node → Width
  | .empty => .none
  | .character _ => .one
  | .anything => .one
  | .set .. => .one
  | .anchor _ => .none
  | .sequence first second => first.width.add second.width
  | .choice first second => first.width.either second.width
  | .repetition _ least greatest body => body.width.times least greatest
  | .capture _ body => body.width
  | .scoped _ _ body => body.width
  | .atomic body => body.width
  | .lookAhead .. => .none
  | .lookBehind .. => .none
  | .reference _ width => width
  | .conditional _ present absent => present.width.either absent.width

/-- The number of capturing groups in a node. -/
def captures : Node → Nat
  | .sequence first second => first.captures + second.captures
  | .choice first second => first.captures + second.captures
  | .repetition _ _ _ body => body.captures
  | .capture _ body => body.captures + 1
  | .scoped _ _ body => body.captures
  | .atomic body => body.captures
  | .lookAhead _ body => body.captures
  | .lookBehind _ _ body => body.captures
  | .conditional _ present absent => present.captures + absent.captures
  | _ => 0

/-- The sequence of a list of nodes. -/
def ofSequence : List Node → Node
  | [] => .empty
  | [node] => node
  | node :: rest => .sequence node (ofSequence rest)

/-- The choice among a list of nodes. -/
def ofChoices : List Node → Node
  | [] => .empty
  | [node] => node
  | node :: rest => .choice node (ofChoices rest)

/-- The parts that follow one another in a node. -/
def parts : Node → List Node
  | .empty => []
  | .sequence first second => first.parts ++ second.parts
  | node => [node]

/-- Whether a node has no node inside. Only such a part is recognized when it is written again. -/
def isLeaf : Node → Bool
  | .character _ => true
  | .anything => true
  | .set .. => true
  | .anchor _ => true
  | .reference .. => true
  | _ => false

/-- The number of leaves that some parts and all of several others begin with alike. -/
def sharedParts : List Node → List (List Node) → Nat
  | [], _ => 0
  | part :: parts, others =>
    if part.isLeaf && others.all (·.head? == some part) then
      sharedParts parts (others.map (·.tail)) + 1
    else 0

/-- The members of the set that some parts amount to, if they are one character or one set that is
not negated. -/
def members? : List Node → Option (List SetItem)
  | [.character code] => some [.code code]
  | [.set false items] => some items
  | _ => none

/-- The choice among what follows a common beginning: one set where that is possible. -/
def ofEndings (endings : List (List Node)) : Node :=
  match endings.mapM members? with
  | some members => .set false members.flatten.eraseDups
  | none => ofChoices (endings.map ofSequence)

/-- What several branches become. The leaves that all of them begin with are put before the choice,
and a choice among single characters becomes one set. In a set, the characters beyond the first
2^16 are compared in another way than by themselves, so under `ignoreCase` this is not always the
choice among the branches. -/
def ofBranches : List Node → Node
  | first :: second :: others =>
    let branches := (first :: second :: others).map parts
    let shared := sharedParts first.parts ((second :: others).map parts)
    ofSequence (first.parts.take shared ++ [ofEndings (branches.map (·.drop shared))])
  | branches => ofChoices branches

end Node

end LineGrammar.Pattern
