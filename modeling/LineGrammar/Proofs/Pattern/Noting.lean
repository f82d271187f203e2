import LineGrammar.Proofs.Pattern.Meaning
import LineGrammar.Proofs.Pattern.Positions

/-!
# What is noted for a group

Along its ways a pattern notes the spans of its groups. A part without captures notes nothing, and what a
capture notes is what its body led over. So if every capture of a number has a body that recognizes a
language, then whatever the pattern notes for this number, in the turns of repetitions and in tests as
well, is the span of a piece of the language.
-/

namespace LineGrammar.Pattern

variable {text : Array Char} {index number : Nat} {pieces : Language Char} {on : Switches}
  {node body : Node}

/-! ## Nothing is noted -/

instance : IsPreorder Place fun place next => next.groups = place.groups where
  refl _ := rfl
  trans _ _ _ first second := second.trans first

/-- A character is consumed without a note. -/
theorem Ways.consume_still (text : Array Char) (test : Char → Bool) :
    (Ways.consume text test).Leads fun place next => next.groups = place.groups :=
  .consume fun _ _ _ _ => rfl

/-- A part without captures notes nothing. -/
theorem Node.ways_still (text : Array Char) (on : Switches) (node : Node)
    (captureless : node.captures = 0) :
    (node.ways text on).Leads fun place next => next.groups = place.groups := by
  induction node generalizing on with
  | empty => exact .here
  | character code => exact Ways.consume_still text _
  | anything => exact Ways.consume_still text _
  | set negated items => exact Ways.consume_still text _
  | anchor asked => exact .anchor asked
  | sequence first second ihFirst ihSecond =>
    obtain ⟨one, other⟩ := Nat.add_eq_zero_iff.mp captureless
    exact (ihFirst on one).flatMap (ihSecond on other)
  | choice first second ihFirst ihSecond =>
    obtain ⟨one, other⟩ := Nat.add_eq_zero_iff.mp captureless
    exact (ihFirst on one).append (ihSecond on other)
  | repetition greed least greatest body ih => exact (ih on captureless).repeated _ _ _ _
  | capture index body ih => exact absurd captureless (Nat.succ_ne_zero _)
  | «scoped» inner off body ih => exact ih _ captureless
  | atomic body ih => exact (ih on captureless).once
  | lookAhead negated body ih =>
    exact .lookAhead negated fun place inside seen => ih on captureless place inside seen
  | lookBehind negated width body ih =>
    exact .lookBehind negated width fun place start inside seen =>
      ih on captureless { place with position := start } inside seen
  | reference index width => exact .reference index width fun _ _ _ => rfl
  | conditional index present absent ihPresent ihAbsent =>
    obtain ⟨one, other⟩ := Nat.add_eq_zero_iff.mp captureless
    exact (ihPresent on one).either _ (ihAbsent on other)

/-! ## The pieces of a language are noted -/

/-- From one place to another, nothing is noted for a group but spans of pieces of a language. -/
def Noting (text : Array Char) (index : Nat) (pieces : Language Char) (place next : Place) : Prop :=
  ∀ start stop, (index, start, stop) ∈ next.groups → (index, start, stop) ∈ place.groups ∨
    ∃ piece ∈ pieces, Holds text start piece ∧ stop = start + piece.length

/-- Where the groups stay the same, nothing is noted. -/
theorem Noting.of_groups {place next : Place} (same : next.groups = place.groups) :
    Noting text index pieces place next :=
  fun _ _ listed => .inl (same ▸ listed)

instance : IsPreorder Place (Noting text index pieces) where
  refl _ := .of_groups rfl
  trans _ _ _ first second start stop listed := (second start stop listed).elim (first start stop) .inr

/-- Whatever a part notes for a group is a piece of a language. -/
def Node.Notes (index : Nat) (pieces : Language Char) (on : Switches) (node : Node) : Prop :=
  ∀ text, (node.ways text on).Leads (Noting text index pieces)

namespace Node.Notes

/-- A part without captures notes nothing. -/
theorem of_captures (captureless : node.captures = 0) : node.Notes index pieces on :=
  fun text place next listed => .of_groups (node.ways_still text on captureless place next listed)

/-- A part that recognizes a language notes nothing. -/
theorem of_recognizes {others : Language Char} (recognizes : Recognizes on node others) :
    node.Notes index pieces on := by
  intro text place next listed
  obtain ⟨piece, -, -, rfl⟩ := (recognizes text place next).mp listed
  exact .of_groups (Place.after_groups _ _)

/-- A capture notes what its body leads over. -/
theorem capture (within : body.Notes index pieces on)
    (recognizes : number = index → Recognizes on body pieces) :
    (Node.capture number body).Notes index pieces on := by
  intro text place next listed start stop noted
  obtain ⟨inside, reached, rfl⟩ := List.mem_map.mp listed
  rcases List.mem_cons.mp noted with here | before
  · obtain ⟨rfl, rfl, rfl⟩ : index = number ∧ start = place.position ∧ stop = inside.position := by
      simpa using here
    obtain ⟨piece, taken, held, rfl⟩ := (recognizes rfl text place inside).mp reached
    exact .inr ⟨piece, taken, held, rfl⟩
  · exact within text place inside reached start stop before

/-- A repetition notes what its body notes. -/
theorem repetition (within : body.Notes index pieces on) (greed : Greed) (least : Nat)
    (greatest : Option Nat) : (Node.repetition greed least greatest body).Notes index pieces on :=
  fun text => (within text).repeated _ _ _ _

/-- More items at the end of a branch. -/
theorem append {items later : List (Node × Standing)} (first : (Node.ofItems items).Notes index pieces on)
    (second : (Node.ofItems later).Notes index pieces on) :
    (Node.ofItems (later ++ items)).Notes index pieces on := by
  intro text place next listed
  rw [ways_ofItems_append] at listed
  exact (first text).flatMap (second text) place next listed

end Node.Notes

end LineGrammar.Pattern
