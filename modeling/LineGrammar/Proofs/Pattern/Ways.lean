import LineGrammar.Pattern.Basic
import Mathlib.Data.List.Basic

/-!
# The ways of a pattern through a text

Running a node with a continuation answers with the first place that the continuation accepts. What
the node itself contributes is the list of the places it can lead to, in the order in which it tries
them. `Node.ways` is that list, defined without continuations, and `Node.run_eq_findSome` says that
running is nothing but searching it. So whether a line matches is a question of membership in the
list, and which match is found is a question of its order.

The equation covers every node. It assumes nothing about the switches, the text or the continuation;
the bound on the turns of a repetition is the one that running uses.
-/

namespace LineGrammar.Pattern

/-- A step without a continuation: the places it can lead to, the preferred ones first. -/
abbrev Ways := Place → List Place

namespace Ways

/-- A given number of turns, one after the other. -/
def required (ways : Ways) : Nat → Ways
  | 0, place => [place]
  | n + 1, place => (ways place).flatMap (required ways n)

/-- At most a given number of turns, preferring more of them. -/
def greedily (ways : Ways) : Nat → Option Nat → Ways
  | 0, _, place => [place]
  | n + 1, last, place =>
    if last = some place.position then [place]
    else (ways place).flatMap (greedily ways n (some place.position)) ++ [place]

/-- At most a given number of turns, preferring fewer of them. -/
def lazily (ways : Ways) : Nat → Option Nat → Ways
  | 0, _, place => [place]
  | n + 1, last, place =>
    place ::
      if last = some place.position then []
      else (ways place).flatMap (lazily ways n (some place.position))

/-- A turn that is not tried in another way. -/
def once (ways : Ways) : Ways := fun place => (ways place).head?.toList

/-- At most a given number of turns, as many as there are. -/
def exhaustively (ways : Ways) : Nat → Option Nat → Ways
  | 0, _, place => [place]
  | n + 1, last, place =>
    if last = some place.position then [place]
    else
      match (ways place).head? with
      | some next => exhaustively ways n (some place.position) next
      | none => [place]

/-- A repetition of a turn in a text of a given length. -/
def repeated (ways : Ways) (size : Nat) (greed : Greed) (least : Nat) (greatest : Option Nat) :
    Ways := fun place =>
  match greed with
  | .greedy =>
    (required ways least place).flatMap fun next =>
      greedily ways (turnsLeft least greatest (size - next.position)) none next
  | .lazy =>
    (required ways least place).flatMap fun next =>
      lazily ways (turnsLeft least greatest (size - next.position)) none next
  | .possessive =>
    (required (once ways) least place).flatMap fun next =>
      exhaustively ways (turnsLeft least greatest (size - next.position)) none next

/-- One character that satisfies a test. -/
def consume (text : Array Char) (test : Char → Bool) : Ways := fun place =>
  match text[place.position]? with
  | some c => if test c then [{ place with position := place.position + 1 }] else []
  | none => []

end Ways

/-- The places that a node can lead to, the preferred ones first. -/
def Node.ways (text : Array Char) : Switches → Node → Ways
  | _, .empty => fun place => [place]
  | on, .character code => Ways.consume text (sameCharacter on code)
  | on, .anything => Ways.consume text (isAnything on)
  | on, .set negated items => Ways.consume text (inSet on negated items)
  | on, .anchor asked => fun place => if asked.holds on text place.position then [place] else []
  | on, .sequence first second => fun place =>
    (first.ways text on place).flatMap (second.ways text on)
  | on, .choice first second => fun place => first.ways text on place ++ second.ways text on place
  | on, .repetition greed least greatest body =>
    Ways.repeated (body.ways text on) text.size greed least greatest
  | on, .capture index body => fun place =>
    (body.ways text on place).map fun next =>
      { next with groups := (index, place.position, next.position) :: next.groups }
  | outer, .scoped on off body => body.ways text (outer.within on off)
  | on, .atomic body => Ways.once (body.ways text on)
  | on, .lookAhead negated body => fun place =>
    match (body.ways text on place).head?, negated with
    | some seen, false => [{ place with groups := seen.groups }]
    | none, true => [place]
    | _, _ => []
  | on, .lookBehind negated width body => fun place =>
    let seen :=
      if width.least ≤ place.position then
        (body.ways text on { place with position := place.position - width.least }).head?
      else none
    match seen, negated with
    | some seen, false => [{ place with groups := seen.groups }]
    | none, true => [place]
    | _, _ => []
  | on, .reference index _ => fun place =>
    match place.group? index with
    | some (start, stop) =>
      if repeatsAt on text start stop place.position then
        [{ place with position := place.position + (stop - start) }]
      else []
    | none => []
  | on, .conditional index present absent => fun place =>
    if (place.group? index).isSome then present.ways text on place else absent.ways text on place

/-- At most one turn, preferring none. -/
theorem Node.ways_lazyOptional (text : Array Char) (on : Switches) (body : Node) (place : Place) :
    (Node.repetition .lazy 0 (some 1) body).ways text on place =
      place :: body.ways text on place := by
  simp [Node.ways, Ways.repeated, Ways.required, turnsLeft, Ways.lazily]

/-- A turn searches its ways: what it answers is the first answer of the continuation to one of
them. -/
def Searches (turn : Turn) (ways : Ways) : Prop :=
  ∀ place go, turn place go = (ways place).findSome? go

namespace Searches

variable {turn : Turn} {ways : Ways}

/-- Without anything to follow, a turn answers its first way. -/
theorem head (searches : Searches turn ways) (place : Place) :
    turn place some = (ways place).head? := by
  rw [searches]
  cases ways place <;> simp

/-- Searching one step after another is searching their ways in sequence. -/
theorem findSome_flatMap (places : List Place) (next : Ways) (go : Continuation) :
    (places.flatMap next).findSome? go = places.findSome? fun place => (next place).findSome? go := by
  induction places with
  | nil => rfl
  | cons place rest ih =>
    rw [List.flatMap_cons, List.findSome?_append, ih, List.findSome?_cons]
    cases (next place).findSome? go <;> rfl

/-- Required turns search the ways of required steps. -/
theorem required (searches : Searches turn ways) (n : Nat) :
    Searches (Pattern.required turn n) (ways.required n) := by
  induction n with
  | zero => intro place go; simp [Pattern.required, Ways.required]
  | succ n ih =>
    intro place go
    simp only [Pattern.required, Ways.required, searches place, findSome_flatMap, ih _ go]

/-- Greedy turns search the ways of greedy steps. -/
theorem greedily (searches : Searches turn ways) (n : Nat) (last : Option Nat) :
    Searches (Pattern.greedily turn n last) (ways.greedily n last) := by
  induction n generalizing last with
  | zero => intro place go; simp [Pattern.greedily, Ways.greedily]
  | succ n ih =>
    intro place go
    by_cases still : last = some place.position
    · simp [Pattern.greedily, Ways.greedily, still]
    · simp only [Pattern.greedily, Ways.greedily, still, if_false, searches place,
        List.findSome?_append, findSome_flatMap, ih (some place.position) _ go,
        List.findSome?_singleton]
      cases (ways place).findSome? _ <;> rfl

/-- Lazy turns search the ways of lazy steps. -/
theorem lazily (searches : Searches turn ways) (n : Nat) (last : Option Nat) :
    Searches (Pattern.lazily turn n last) (ways.lazily n last) := by
  induction n generalizing last with
  | zero => intro place go; simp [Pattern.lazily, Ways.lazily]
  | succ n ih =>
    intro place go
    by_cases still : last = some place.position
    · simp only [Pattern.lazily, Ways.lazily, still, if_true, List.findSome?_cons]
      cases go place <;> rfl
    · simp only [Pattern.lazily, Ways.lazily, still, if_false, searches place,
        List.findSome?_cons, findSome_flatMap, ih (some place.position) _ go]
      cases go place <;> rfl

/-- A turn that is taken once searches the first of the ways. -/
theorem once (searches : Searches turn ways) : Searches (Pattern.once turn) ways.once := by
  intro place go
  simp only [Pattern.once, Ways.once, searches.head]
  cases (ways place).head? <;> simp

/-- Exhaustive turns search the ways of exhaustive steps. -/
theorem exhaustively (searches : Searches turn ways) (n : Nat) (last : Option Nat) :
    Searches (Pattern.exhaustively turn n last) (ways.exhaustively n last) := by
  induction n generalizing last with
  | zero => intro place go; simp [Pattern.exhaustively, Ways.exhaustively]
  | succ n ih =>
    intro place go
    by_cases still : last = some place.position
    · simp [Pattern.exhaustively, Ways.exhaustively, still]
    · simp only [Pattern.exhaustively, Ways.exhaustively, still, if_false, searches.head]
      cases (ways place).head? with
      | none => simp
      | some next => exact ih (some place.position) next go

/-- Repeated turns search the ways of repeated steps. -/
theorem repeated (searches : Searches turn ways) (size : Nat) (greed : Greed) (least : Nat)
    (greatest : Option Nat) :
    Searches (Pattern.repeated turn size greed least greatest)
      (ways.repeated size greed least greatest) := by
  intro place go
  cases greed with
  | greedy =>
    simp only [Pattern.repeated, Ways.repeated, findSome_flatMap, searches.required least place]
    congr 1
    funext next
    exact searches.greedily _ _ next go
  | lazy =>
    simp only [Pattern.repeated, Ways.repeated, findSome_flatMap, searches.required least place]
    congr 1
    funext next
    exact searches.lazily _ _ next go
  | possessive =>
    simp only [Pattern.repeated, Ways.repeated, findSome_flatMap,
      searches.once.required least place]
    congr 1
    funext next
    exact searches.exhaustively _ _ next go

/-- To consume a character searches the one way over it. -/
theorem consume (text : Array Char) (test : Char → Bool) :
    Searches (Pattern.consume text test) (Ways.consume text test) := by
  intro place go
  simp only [Pattern.consume, Ways.consume]
  cases text[place.position]? with
  | none => rfl
  | some c => by_cases accepted : test c = true <;> simp [accepted]

end Searches

/-- Running a node is searching its ways. -/
theorem Node.run_searches (text : Array Char) (on : Switches) (node : Node) :
    Searches (node.run text on) (node.ways text on) := by
  induction node generalizing on with
  | empty => intro place go; simp [Node.run, Node.ways]
  | character code => exact Searches.consume text _
  | anything => exact Searches.consume text _
  | set negated items => exact Searches.consume text _
  | anchor asked =>
    intro place go
    simp only [Node.run, Node.ways]
    split <;> simp
  | sequence first second ihFirst ihSecond =>
    intro place go
    simp only [Node.run, Node.ways, Searches.findSome_flatMap, ihFirst on place, ihSecond on _ go]
  | choice first second ihFirst ihSecond =>
    intro place go
    simp only [Node.run, Node.ways, ihFirst on place, ihSecond on place, List.findSome?_append]
    cases (first.ways text on place).findSome? go <;> rfl
  | repetition greed least greatest body ih => exact (ih on).repeated _ _ _ _
  | capture index body ih =>
    intro place go
    simp only [Node.run, Node.ways, ih on place, List.findSome?_map]
    rfl
  | «scoped» inner off body ih => exact ih _
  | atomic body ih => exact (ih on).once
  | lookAhead negated body ih =>
    intro place go
    simp only [Node.run, Node.ways, (ih on).head]
    cases (body.ways text on place).head? <;> cases negated <;> simp
  | lookBehind negated width body ih =>
    intro place go
    simp only [Node.run, Node.ways, (ih on).head]
    cases (if width.least ≤ place.position then
      (body.ways text on { place with position := place.position - width.least }).head? else none) <;>
        cases negated <;> simp
  | reference index width =>
    intro place go
    simp only [Node.run, Node.ways]
    cases place.group? index with
    | none => rfl
    | some span =>
      obtain ⟨start, stop⟩ := span
      by_cases again : repeatsAt on text start stop place.position = true <;> simp [again]
  | conditional index present absent ihPresent ihAbsent =>
    intro place go
    simp only [Node.run, Node.ways]
    split
    · exact ihPresent on place go
    · exact ihAbsent on place go

end LineGrammar.Pattern
