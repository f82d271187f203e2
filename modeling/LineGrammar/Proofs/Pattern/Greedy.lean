import LineGrammar.Proofs.Pattern.Recognition

/-!
# The first way of greedy parts

A greedy run of characters has one way for each of its lengths, the longest first. So what follows the
run only gets to see a shorter one when it refuses the longest. An optional part is left out only after
it has been tried.

What is said here is the first way of a part, which is the one that a search without further conditions
finds. Parts that note their spans are included.
-/

namespace LineGrammar.Pattern

variable {text : Array Char} {on : Switches} {place next : Place} {test : Char → Bool}
  {rest content : List Char}

/-- The text from a place on. -/
def Place.ahead (text : Array Char) (place : Place) : List Char := text.toList.drop place.position

/-- Further on there is less of the text ahead. -/
theorem Place.ahead_after (count : Nat) : (place.after count).ahead text = (place.ahead text).drop count := by
  rw [ahead, ahead, List.drop_drop, after_position]

/-- Behind the first character ahead stands the rest. -/
theorem Place.ahead_after_one {c : Char} (here : place.ahead text = c :: rest) :
    (place.after 1).ahead text = rest := by
  rw [ahead_after, here]
  rfl

/-- What is ahead of a place is the rest of the text. -/
theorem Place.ahead_length : (place.ahead text).length = text.size - place.position := by
  rw [ahead, List.length_drop, Array.length_toList]

/-- The character at a place is the first one ahead. -/
theorem Place.getElem?_position : text[place.position]? = (place.ahead text).head? := by
  rw [ahead, List.head?_drop, Array.getElem?_toList]

/-- A character is consumed when it passes the test. -/
theorem Ways.consume_cons {c : Char} (here : place.ahead text = c :: rest) :
    Ways.consume text test place = if test c then [place.after 1] else [] := by
  have found : text[place.position]? = some c := by rw [Place.getElem?_position, here, List.head?_cons]
  simp only [Ways.consume, found]
  rfl

/-- At the end of the text nothing is consumed. -/
theorem Ways.consume_nil (here : place.ahead text = []) : Ways.consume text test place = [] := by
  have none : text[place.position]? = none := by rw [Place.getElem?_position, here, List.head?_nil]
  simp only [Ways.consume, none]

/-- A greedy run has a way for each of its lengths, down to none. -/
theorem Ways.greedily_consume {turns : Nat} {last : Option Nat} (moved : last ≠ some place.position)
    (room : ((place.ahead text).takeWhile test).length ≤ turns) :
    (Ways.consume text test).greedily turns last place =
      ((List.range (((place.ahead text).takeWhile test).length + 1)).reverse).map place.after := by
  induction turns generalizing last place with
  | zero =>
    rw [Nat.le_zero.mp room]
    rfl
  | succ turns ih =>
    rw [Ways.greedily, if_neg moved]
    cases here : place.ahead text with
    | nil =>
      rw [consume_nil here]
      rfl
    | cons c rest =>
      rw [consume_cons here]
      by_cases admitted : test c = true
      · have behind := Place.ahead_after_one here
        have onward : some place.position ≠ some (place.after 1).position := by simp
        rw [here, List.takeWhile_cons_of_pos admitted, List.length_cons] at room
        have shorter := ih onward (by rw [behind]; omega)
        rw [behind] at shorter
        rw [if_pos admitted, List.flatMap_singleton, shorter, List.takeWhile_cons_of_pos admitted,
          List.length_cons]
        generalize (rest.takeWhile test).length + 1 = lengths
        rw [List.range_succ_eq_map, List.reverse_cons, List.map_append, ← List.map_reverse, List.map_map]
        congr 1
        refine List.map_congr_left fun count _ => ?_
        rw [Function.comp_apply, Place.after_after, Nat.add_comm]
      · rw [if_neg admitted, List.takeWhile_cons_of_neg admitted]
        rfl

/-- One or more characters of a set. -/
def Node.someOf (negated : Bool) (items : List SetItem) : Node :=
  .repetition .greedy 1 none (.set negated items)

/-- A part that may be left out. -/
def Node.maybe (body : Node) : Node := .repetition .greedy 0 (some 1) body

/-- One or more characters can be taken up to the last of them, then up to the one before, and so on. -/
theorem Node.ways_someOf (negated : Bool) (items : List SetItem) :
    (Node.someOf negated items).ways text on place =
      ((List.range ((place.ahead text).takeWhile (inSet on negated items)).length).reverse).map
        fun count => place.after (count + 1) := by
  have ways : (Node.someOf negated items).ways text on place =
      (Ways.consume text (inSet on negated items) place).flatMap fun next =>
        (Ways.consume text (inSet on negated items)).greedily (text.size - next.position + 1) none next := by
    simp [Node.someOf, Node.ways, Ways.repeated, Ways.required, turnsLeft]
  rw [ways]
  cases here : place.ahead text with
  | nil =>
    rw [Ways.consume_nil here]
    rfl
  | cons c rest =>
    rw [Ways.consume_cons here]
    by_cases admitted : inSet on negated items c = true
    · have behind := Place.ahead_after_one here
      have room : (((place.after 1).ahead text).takeWhile (inSet on negated items)).length ≤
          text.size - (place.after 1).position + 1 := by
        rw [← Place.ahead_length]
        exact Nat.le_succ_of_le (List.takeWhile_prefix _).length_le
      rw [if_pos admitted, List.flatMap_singleton, Ways.greedily_consume (by simp) room, behind,
        List.takeWhile_cons_of_pos admitted, List.length_cons]
      refine List.map_congr_left fun count _ => ?_
      rw [Place.after_after, Nat.add_comm]
    · rw [if_neg admitted, List.takeWhile_cons_of_neg admitted]
      rfl

/-- The first way of a run takes the whole of it. -/
theorem Node.head?_someOf {negated : Bool} {items : List SetItem}
    (nonempty : (place.ahead text).takeWhile (inSet on negated items) ≠ []) :
    ((Node.someOf negated items).ways text on place).head? =
      some (place.after ((place.ahead text).takeWhile (inSet on negated items)).length) := by
  obtain ⟨length, positive⟩ := Nat.exists_eq_succ_of_ne_zero
    (Nat.ne_of_gt (List.length_pos_of_ne_nil nonempty))
  rw [ways_someOf, positive, List.range_succ, List.reverse_append]
  rfl

/-- Without an admitted character there is no way. -/
theorem Node.ways_someOf_eq_nil {negated : Bool} {items : List SetItem}
    (none : (place.ahead text).takeWhile (inSet on negated items) = []) :
    (Node.someOf negated items).ways text on place = [] := by
  rw [ways_someOf, none]
  rfl

/-- A part that may be left out is left out last. -/
theorem Node.ways_maybe (body : Node) :
    (Node.maybe body).ways text on place = body.ways text on place ++ [place] := by
  simp [Node.maybe, Node.ways, Ways.repeated, Ways.required, turnsLeft, Ways.greedily]

/-- The first way of one part after another, where the first way of the first part can go on. -/
theorem Node.head?_sequence {first second : Node} {middle : Place}
    (front : (first.ways text on place).head? = some middle)
    (behind : (second.ways text on middle).head? = some next) :
    ((Node.sequence first second).ways text on place).head? = some next := by
  obtain ⟨others, ways⟩ := List.head?_eq_some_iff.mp front
  change ((first.ways text on place).flatMap (second.ways text on)).head? = some next
  rw [ways, List.flatMap_cons, List.head?_append, behind, Option.some_or]

/-- A place behind a part whose content is noted: the content begins some characters on, and some more
characters belong to the part behind it. -/
def Place.noting (place : Place) (index lead : Nat) (content : List Char) (tail : Nat) : Place where
  position := place.position + lead + content.length + tail
  groups := (index, place.position + lead, place.position + lead + content.length) :: place.groups

/-- The first way of a run that is noted. -/
theorem Node.head?_capture_someOf {negated : Bool} {items : List SetItem} (index : Nat)
    (taken : (place.ahead text).takeWhile (inSet on negated items) = content) (nonempty : content ≠ []) :
    ((Node.capture index (Node.someOf negated items)).ways text on place).head? =
      some (place.noting index 0 content 0) := by
  have longest : ((Node.someOf negated items).ways text on place).head? = _ :=
    head?_someOf (taken.symm ▸ nonempty)
  rw [taken] at longest
  rw [Node.ways, List.head?_map, longest]
  rfl

/-! ## What has been noted -/

/-- A place behind a part that is noted if it is there. -/
def Place.passing (place : Place) (index lead tail : Nat) : Option (List Char) → Place
  | none => place
  | some content => place.noting index lead content tail

/-- The characters that a group covers. -/
def Place.part? (text : Array Char) (place : Place) (index : Nat) : Option (List Char) :=
  (place.group? index).map fun span => (slice text span).toList

variable {index other lead tail : Nat} {part : Option (List Char)}

/-- Behind a part that is noted, the text goes on behind the content and the characters around it. -/
theorem Place.ahead_noting : (place.noting index lead content tail).ahead text =
    (place.ahead text).drop (lead + content.length + tail) := by
  simp only [ahead, noting, List.drop_drop, Nat.add_assoc]

/-- What has been noted is the content, when the text has it there. -/
theorem Place.part?_noting (held : content <+: (place.ahead text).drop lead) :
    (place.noting index lead content tail).part? text index = some content := by
  rw [ahead, List.drop_drop] at held
  simp [part?, noting, group?, slice_of_holds held]

/-- What other groups cover does not change when a part is noted. -/
theorem Place.part?_noting_of_ne (apart : other ≠ index) :
    (place.noting index lead content tail).part? text other = place.part? text other := by
  simp [part?, noting, group?, List.lookup_cons, beq_eq_false_iff_ne.mpr apart]

/-- A part that is noted if it is there is what its group covers. -/
theorem Place.part?_passing (held : ∀ content ∈ part, content <+: (place.ahead text).drop lead)
    (fresh : place.part? text index = none) : (place.passing index lead tail part).part? text index = part := by
  cases part with
  | none => exact fresh
  | some content => exact part?_noting (held content rfl)

/-- What other groups cover does not change when a part is passed. -/
theorem Place.part?_passing_of_ne (apart : other ≠ index) :
    (place.passing index lead tail part).part? text other = place.part? text other := by
  cases part with
  | none => rfl
  | some content => exact part?_noting_of_ne apart

end LineGrammar.Pattern
