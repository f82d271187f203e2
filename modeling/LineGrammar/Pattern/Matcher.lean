import LineGrammar.Pattern.Leaf

/-!
# Running a pattern

A node is run at a place of a text with a continuation for the rest of the pattern. It tries its
ways of consuming text in order of preference and answers with the first one that the continuation
accepts; when none is left, it fails. A choice prefers its first part. A greedy repetition prefers
one more turn over going on, a lazy one the opposite, and either gives up turns when the rest
demands it. Atomic parts and tests are run by themselves, so nothing in them is tried again later.

The turns of a repetition beyond the required ones must make progress: a turn is not begun at the
place where the previous one began. So a text of n remaining characters allows at most n + 1 of
them, and the bound on the turns never decides a result.
-/

namespace LineGrammar.Pattern

/-- A place in a text together with the spans of the groups that took part so far, latest first. -/
structure Place where
  position : Nat
  groups : List (Nat × Nat × Nat)
deriving DecidableEq

/-- The span of a group. -/
def Place.group? (place : Place) (index : Nat) : Option (Nat × Nat) := place.groups.lookup index

/-- A way of going on from a place. -/
abbrev Continuation := Place → Option Place

/-- A part of a pattern as a step from a place, given what follows. -/
abbrev Turn := Place → Continuation → Option Place

/-- A given number of turns, one after the other. -/
def required (turn : Turn) : Nat → Turn
  | 0, place, go => go place
  | n + 1, place, go => turn place fun next => required turn n next go

/-- At most a given number of turns, preferring more of them. -/
def greedily (turn : Turn) : Nat → Option Nat → Turn
  | 0, _, place, go => go place
  | n + 1, last, place, go =>
    if last = some place.position then go place
    else
      match turn place fun next => greedily turn n (some place.position) next go with
      | some result => some result
      | none => go place

/-- At most a given number of turns, preferring fewer of them. -/
def lazily (turn : Turn) : Nat → Option Nat → Turn
  | 0, _, place, go => go place
  | n + 1, last, place, go =>
    match go place with
    | some result => some result
    | none =>
      if last = some place.position then none
      else turn place fun next => lazily turn n (some place.position) next go

/-- A turn that is not tried in another way. -/
def once (turn : Turn) : Turn := fun place go =>
  match turn place some with
  | some next => go next
  | none => none

/-- At most a given number of turns, as many as there are. -/
def exhaustively (turn : Turn) : Nat → Option Nat → Turn
  | 0, _, place, go => go place
  | n + 1, last, place, go =>
    if last = some place.position then go place
    else
      match turn place some with
      | some next => exhaustively turn n (some place.position) next go
      | none => go place

/-- The number of turns that a repetition may take beyond the required ones. -/
def turnsLeft (least : Nat) (greatest : Option Nat) (remaining : Nat) : Nat :=
  match greatest with
  | some greatest => min (greatest - least) (remaining + 1)
  | none => remaining + 1

/-- A repetition of a turn in a text of a given length. -/
def repeated (turn : Turn) (size : Nat) (greed : Greed) (least : Nat) (greatest : Option Nat) :
    Turn :=
  fun place go =>
    match greed with
    | .greedy =>
      required turn least place fun next =>
        greedily turn (turnsLeft least greatest (size - next.position)) none next go
    | .lazy =>
      required turn least place fun next =>
        lazily turn (turnsLeft least greatest (size - next.position)) none next go
    | .possessive =>
      required (once turn) least place fun next =>
        exhaustively turn (turnsLeft least greatest (size - next.position)) none next go

/-- Whether a stretch of a text repeats at a place, case counting unless the switches say
otherwise. -/
def repeatsAt (on : Switches) (text : Array Char) (start stop position : Nat) : Bool :=
  (List.range (stop - start)).all fun offset =>
    match text[start + offset]?, text[position + offset]? with
    | some a, some b =>
      if on.ignoreCase then lowerUnder on a.toNat == lowerUnder on b.toNat else a == b
    | _, _ => false

/-- One character that satisfies a test. -/
def consume (text : Array Char) (test : Char → Bool) : Turn := fun place go =>
  match text[place.position]? with
  | some c => if test c then go { place with position := place.position + 1 } else none
  | none => none

/-- Runs a node on a text under switches. -/
def Node.run (text : Array Char) : Switches → Node → Turn
  | _, .empty => fun place go => go place
  | on, .character code => consume text (sameCharacter on code)
  | on, .anything => consume text (isAnything on)
  | on, .set negated items => consume text (inSet on negated items)
  | on, .anchor asked => fun place go =>
    if asked.holds on text place.position then go place else none
  | on, .sequence first second => fun place go =>
    first.run text on place fun next => second.run text on next go
  | on, .choice first second => fun place go =>
    match first.run text on place go with
    | some result => some result
    | none => second.run text on place go
  | on, .repetition greed least greatest body => fun place go =>
    repeated (body.run text on) text.size greed least greatest place go
  | on, .capture index body => fun place go =>
    body.run text on place fun next =>
      go { next with groups := (index, place.position, next.position) :: next.groups }
  | outer, .scoped on off body => fun place go => body.run text (outer.within on off) place go
  | on, .atomic body => fun place go => once (body.run text on) place go
  | on, .lookAhead negated body => fun place go =>
    match body.run text on place some, negated with
    | some seen, false => go { place with groups := seen.groups }
    | none, true => go place
    | _, _ => none
  | on, .lookBehind negated width body => fun place go =>
    let seen :=
      if width.least ≤ place.position then
        body.run text on { place with position := place.position - width.least } some
      else none
    match seen, negated with
    | some seen, false => go { place with groups := seen.groups }
    | none, true => go place
    | _, _ => none
  | on, .reference index _ => fun place go =>
    match place.group? index with
    | some (start, stop) =>
      if repeatsAt on text start stop place.position then
        go { place with position := place.position + (stop - start) }
      else none
    | none => none
  | on, .conditional index present absent => fun place go =>
    if (place.group? index).isSome then present.run text on place go
    else absent.run text on place go

end LineGrammar.Pattern
