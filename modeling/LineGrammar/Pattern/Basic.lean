import LineGrammar.Pattern.Matcher
import LineGrammar.Pattern.Reader

/-!
# Patterns

A pattern is a text together with the tree that the text reads as and the switches that hold for the
whole. It is matched at a given place, searched for from a place on, or looked for all over a text.
All over a text, the matches do not overlap, each search starts where the previous match ended, and
an empty match is not found twice at one place.

A pattern that begins with a set is tried only where a member of the set stands. This test is made
under the switches of the whole pattern, also when the set has switches of its own.
-/

namespace LineGrammar

/-- A pattern that has been read. -/
structure Pattern where
  source : String
  switches : Pattern.Switches
  root : Pattern.Node
  /-- The number of capturing groups. -/
  groups : Nat
  names : List (String × Nat)

namespace Pattern

/-- What a match covers: its span, and the spans of the groups that took part. -/
structure Match where
  start : Nat
  stop : Nat
  groups : List (Nat × Nat × Nat)
deriving DecidableEq

/-- The span of a group; group zero is the match as a whole. -/
def Match.span? (found : Match) (index : Nat) : Option (Nat × Nat) :=
  if index = 0 then some (found.start, found.stop) else found.groups.lookup index

/-- The characters between two places of a text. -/
def slice (text : Array Char) (span : Nat × Nat) : String :=
  String.ofList (text.extract span.1 span.2).toList

/-- Reads a pattern with some switches turned on from outside. -/
def read (source : String) (switches : Switches) : Except Refusal Pattern := do
  let (root, reader) ← readTree source.toList switches
  let on := reader.switches
  match root.obstacle? on.template with
  | some cause => .error (.fault ⟨cause, none⟩)
  | none =>
    return { source, switches := on, root, groups := reader.opened, names := reader.names }

/-- The match at a place, under a condition on where it ends. -/
def matchWhere (pattern : Pattern) (text : Array Char) (start : Nat) (ends : Nat → Bool) :
    Option Match :=
  (pattern.root.run text pattern.switches ⟨start, []⟩ fun place =>
    if ends place.position then some place else none).map fun place =>
      ⟨start, place.position, place.groups⟩

/-- The match at the start of a text. -/
def matchStart (pattern : Pattern) (text : Array Char) : Option Match :=
  pattern.matchWhere text 0 fun _ => true

/-- A set of characters together with the switches that hold where it stands. -/
structure LeadingSet where
  switches : Switches
  negated : Bool
  items : List SetItem

/-- The set that a node begins with, if it begins with one, and nothing at all if the node is empty.
A single character is no set, and without regard to case no set is taken that has a member with two
cases. A node that begins with characters of which one must stand there has no match elsewhere, so
these are left out. -/
def Node.leading? (on : Switches) : Node → Option (Option LeadingSet)
  | .empty => none
  | .sequence first second => first.leading? on <|> second.leading? on
  | .capture _ body => some (body.leading? on).join
  | .scoped inner off body => some (body.leading? (on.within inner off)).join
  | .set _ [.code _] => some none
  | .set negated items =>
    some (if on.ignoreCase && items.any (·.isCased on) then none else some ⟨on, negated, items⟩)
  | _ => some none

/-- Whether a search tries a place: where the pattern begins with a set, a member of it stands there
as the switches of the whole pattern have it. -/
def isTried (pattern : Pattern) (text : Array Char) (start : Nat) : Bool :=
  match (pattern.root.leading? pattern.switches).join with
  | none => true
  | some set => text[start]?.any fun c => set.items.any (·.holds pattern.switches c) != set.negated

/-- The match that a search finds at a place. -/
def searchAt (pattern : Pattern) (text : Array Char) (start : Nat) (ends : Nat → Bool) :
    Option Match :=
  if pattern.isTried text start then pattern.matchWhere text start ends else none

/-- The first match from a place on, trying at most a given number of places. With `moving`, a match
at the first place must not be empty. -/
def searchWithin (pattern : Pattern) (text : Array Char) : Nat → Nat → Bool → Option Match
  | 0, _, _ => none
  | places + 1, start, moving =>
    match pattern.searchAt text start fun stop => !moving || stop != start with
    | some found => some found
    | none => pattern.searchWithin text places (start + 1) false

/-- The first match from a place on. -/
def searchFrom (pattern : Pattern) (text : Array Char) (start : Nat) (moving : Bool) :
    Option Match :=
  pattern.searchWithin text (text.size + 1 - start) start moving

/-- The first match in a text. -/
def search (pattern : Pattern) (text : Array Char) : Option Match :=
  pattern.searchFrom text 0 false

/-- The matches from a place on, at most a given number of them. -/
def matchesWithin (pattern : Pattern) (text : Array Char) : Nat → Nat → Bool → List Match
  | 0, _, _ => []
  | count + 1, start, moving =>
    match pattern.searchFrom text start moving with
    | none => []
    | some found =>
      found :: pattern.matchesWithin text count found.stop (found.stop == found.start)

/-- All matches in a text. At most two of them end at the same place. -/
def findAll (pattern : Pattern) (text : Array Char) : List Match :=
  pattern.matchesWithin text (2 * text.size + 2) 0 false

end Pattern

end LineGrammar
