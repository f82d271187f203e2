import LineGrammar.Proofs.Pattern.Ways
import Mathlib.Data.List.Basic
import Mathlib.Order.Defs.Unbundled

/-!
# Where ways lead

Where the ways of a part lead is related to where they began as soon as each of their steps is so, for
any relation that such steps can be joined by. No part of a pattern leads back: a way ends where it began
or further on, whatever the part looks at before. A lazy run of single characters tries its ways in the
order in which they end. White space up to the end of a line is taken to the end of the text, even where
the text ends in a line feed before which the line ends as well, because more turns are tried first.
-/

namespace LineGrammar.Pattern

open LineGrammar.Text

/-- The ways of a step lead to places that are related to where they began. -/
def Ways.Leads (related : Place → Place → Prop) (ways : Ways) : Prop :=
  ∀ place, ∀ next ∈ ways place, related place next

namespace Ways.Leads

variable {related : Place → Place → Prop} [IsPreorder Place related] {ways more : Ways}

/-- To stay where one is leads nowhere else. -/
theorem here : Ways.Leads related fun place => [place] := by
  intro place next listed
  exact List.mem_singleton.mp listed ▸ refl_of related place

/-- Steps after one another lead on as each of them does. -/
theorem flatMap (leads : ways.Leads related) (later : more.Leads related) :
    Ways.Leads related fun place => (ways place).flatMap more := by
  intro place next listed
  obtain ⟨middle, first, second⟩ := List.mem_flatMap.mp listed
  exact trans_of related (leads _ _ first) (later _ _ second)

/-- Required turns lead on as one turn does. -/
theorem required (leads : ways.Leads related) (n : Nat) : (ways.required n).Leads related := by
  induction n with
  | zero => exact here
  | succ n ih => exact leads.flatMap ih

/-- Greedy turns lead on as one turn does. -/
theorem greedily (leads : ways.Leads related) (n : Nat) (last : Option Nat) :
    (ways.greedily n last).Leads related := by
  induction n generalizing last with
  | zero => exact here
  | succ n ih =>
    intro place next listed
    by_cases still : last = some place.position
    · simp only [Ways.greedily, still, if_true, List.mem_singleton] at listed
      exact listed ▸ refl_of related place
    · simp only [Ways.greedily, still, if_false, List.mem_append, List.mem_singleton] at listed
      rcases listed with listed | rfl
      · exact leads.flatMap (ih _) place next listed
      · exact refl_of related next

/-- Lazy turns lead on as one turn does. -/
theorem lazily (leads : ways.Leads related) (n : Nat) (last : Option Nat) :
    (ways.lazily n last).Leads related := by
  induction n generalizing last with
  | zero => exact here
  | succ n ih =>
    intro place next listed
    rcases List.mem_cons.mp listed with rfl | listed
    · exact refl_of related next
    · split at listed
      · cases listed
      · exact leads.flatMap (ih _) place next listed

omit [IsPreorder Place related] in
/-- The first way of a step leads on as the step does. -/
theorem once (leads : ways.Leads related) : ways.once.Leads related := by
  intro place next listed
  exact leads place next (List.mem_of_mem_head? (by simpa [Ways.once] using listed))

/-- Exhaustive turns lead on as one turn does. -/
theorem exhaustively (leads : ways.Leads related) (n : Nat) (last : Option Nat) :
    (ways.exhaustively n last).Leads related := by
  induction n generalizing last with
  | zero => exact here
  | succ n ih =>
    intro place next listed
    by_cases still : last = some place.position
    · simp only [Ways.exhaustively, still, if_true, List.mem_singleton] at listed
      exact listed ▸ refl_of related place
    · simp only [Ways.exhaustively, still, if_false] at listed
      split at listed
      · rename_i middle first
        exact trans_of related (leads _ _ (List.mem_of_mem_head? first)) (ih _ _ _ listed)
      · rw [List.mem_singleton] at listed
        exact listed ▸ refl_of related place

/-- A repetition leads on as one turn does. -/
theorem repeated (leads : ways.Leads related) (size : Nat) (greed : Greed) (least : Nat)
    (greatest : Option Nat) : (ways.repeated size greed least greatest).Leads related := by
  cases greed with
  | greedy => exact (leads.required least).flatMap fun next => leads.greedily _ _ next
  | lazy => exact (leads.required least).flatMap fun next => leads.lazily _ _ next
  | possessive => exact (leads.once.required least).flatMap fun next => leads.exhaustively _ _ next

omit [IsPreorder Place related] in
/-- One character further on. -/
theorem consume {text : Array Char} {test : Char → Bool}
    (onward : ∀ place c, text[place.position]? = some c → test c = true →
      related place { place with position := place.position + 1 }) :
    (Ways.consume text test).Leads related := by
  intro place next listed
  unfold Ways.consume at listed
  split at listed
  · rename_i c stands
    split at listed
    · rename_i passed
      rw [List.mem_singleton] at listed
      exact listed ▸ onward place c stands passed
    · cases listed
  · cases listed

omit [IsPreorder Place related] in
/-- Steps that are tried one after the other lead on as each of them does. -/
theorem append (leads : ways.Leads related) (others : more.Leads related) :
    Ways.Leads related fun place => ways place ++ more place := by
  intro place next listed
  rcases List.mem_append.mp listed with listed | listed
  · exact leads place next listed
  · exact others place next listed

omit [IsPreorder Place related] in
/-- Whatever a test decides, the ways are those of one branch. -/
theorem either (asks : Place → Bool) (leads : ways.Leads related) (others : more.Leads related) :
    Ways.Leads related fun place => if asks place then ways place else more place := by
  intro place next listed
  dsimp only at listed
  split at listed
  · exact leads place next listed
  · exact others place next listed

/-! ### Parts that look at the text or at a group -/

section Parts

variable {text : Array Char} {on : Switches} {body : Node}

/-- An anchor leads nowhere else. -/
theorem anchor (asked : Anchor) : ((Node.anchor asked).ways text on).Leads related :=
  here.either (fun place => asked.holds on text place.position) fun _ _ listed => nomatch listed

/-- A look at the text leads nowhere else, but what is noted on the way that is seen is kept. -/
theorem lookAhead (negated : Bool)
    (keeps : ∀ place, ∀ inside ∈ body.ways text on place,
      related place { place with groups := inside.groups }) :
    ((Node.lookAhead negated body).ways text on).Leads related := by
  intro place next listed
  simp only [Node.ways] at listed
  split at listed
  · rename_i inside first
    exact List.mem_singleton.mp listed ▸ keeps place inside (List.mem_of_mem_head? first)
  · exact here place next listed
  · cases listed

/-- A look-behind leads on as its body does from the places where that may begin. -/
theorem lookBehind (negated : Bool) (width : Width)
    (keeps : ∀ place start, ∀ inside ∈ body.ways text on { place with position := start },
      related place { place with groups := inside.groups }) :
    ((Node.lookBehind negated width body).ways text on).Leads related := by
  intro place next listed
  simp only [Node.ways] at listed
  split at listed
  · rename_i inside first
    split at first
    · exact List.mem_singleton.mp listed ▸ keeps place _ inside (List.mem_of_mem_head? first)
    · cases first
  · exact here place next listed
  · cases listed

omit [IsPreorder Place related] in
/-- The text of a group once more, if the group has one. -/
theorem reference (index : Nat) (width : Width)
    (onward : ∀ place length, (place.group? index).isSome = true →
      related place { place with position := place.position + length }) :
    ((Node.reference index width).ways text on).Leads related := by
  intro place next listed
  simp only [Node.ways] at listed
  split at listed
  · rename_i noted
    split at listed
    · exact List.mem_singleton.mp listed ▸ onward place _ (by rw [noted]; rfl)
    · cases listed
  · cases listed

end Parts

end Ways.Leads

/-- The ways of a step end where they began or further on. -/
abbrev Ways.Forward (ways : Ways) : Prop :=
  ways.Leads fun place next => place.position ≤ next.position

instance : IsPreorder Place fun place next => place.position ≤ next.position where
  refl _ := Nat.le_refl _
  trans _ _ _ := Nat.le_trans

/-- Consuming a character leads forward. -/
theorem Ways.Forward.consume (text : Array Char) (test : Char → Bool) :
    (Ways.consume text test).Forward :=
  Leads.consume fun _ _ _ _ => Nat.le_add_right _ _

/-- No node leads back. -/
theorem Node.ways_forward (text : Array Char) (on : Switches) (node : Node) :
    (node.ways text on).Forward := by
  induction node generalizing on with
  | empty => exact .here
  | character code => exact .consume text _
  | anything => exact .consume text _
  | set negated items => exact .consume text _
  | anchor asked => exact .anchor asked
  | sequence first second ihFirst ihSecond => exact (ihFirst on).flatMap (ihSecond on)
  | choice first second ihFirst ihSecond => exact (ihFirst on).append (ihSecond on)
  | repetition greed least greatest body ih => exact (ih on).repeated _ _ _ _
  | capture index body ih =>
    intro place next listed
    obtain ⟨inside, within, rfl⟩ := List.mem_map.mp listed
    exact ih on place inside within
  | «scoped» inner off body ih => exact ih _
  | atomic body ih => exact (ih on).once
  | lookAhead negated body ih => exact .lookAhead negated fun place _ _ => Nat.le_refl place.position
  | lookBehind negated width body ih =>
    exact .lookBehind negated width fun place _ _ _ => Nat.le_refl place.position
  | reference index width => exact .reference index width fun _ _ _ => Nat.le_add_right _ _
  | conditional index present absent ihPresent ihAbsent =>
    exact (ihPresent on).either _ (ihAbsent on)

/-! ## The shortest way first -/

/-- The ways of a step are tried in the order in which they end. -/
def Ways.Rising (ways : Ways) : Prop :=
  ∀ place, (ways place).Pairwise (·.position ≤ ·.position)

/-- The first way that is accepted ends no later than any other that is. -/
theorem Ways.Rising.le_of_find? {ways : Ways} (rising : ways.Rising) {place next other : Place}
    {accepts : Place → Bool} (first : (ways place).find? accepts = some next)
    (listed : other ∈ ways place) (accepted : accepts other = true) :
    next.position ≤ other.position := by
  obtain ⟨-, before, after, split, refused⟩ := List.find?_eq_some_iff_append.mp first
  have ordered := rising place
  rw [split, List.pairwise_append] at ordered
  rw [split, List.mem_append, List.mem_cons] at listed
  rcases listed with passed | rfl | behind
  · simpa [accepted] using refused other passed
  · exact Nat.le_refl _
  · exact (List.pairwise_cons.mp ordered.2.1).1 other behind

/-- A character is passed over when there is one that passes the test; otherwise there is no way. -/
theorem Ways.consume_cases (text : Array Char) (test : Char → Bool) (place : Place) :
    (consume text test place = [] ∧ ∀ c, text[place.position]? = some c → test c = false) ∨
      place.position < text.size ∧
        consume text test place = [{ place with position := place.position + 1 }] := by
  unfold consume
  split
  · rename_i c here
    split
    · exact .inr ⟨(Array.getElem?_eq_some_iff.mp here).1, rfl⟩
    · rename_i fails
      exact .inl ⟨rfl, fun d same => Option.some.inj (here.symm.trans same) ▸ by simpa using fails⟩
  · rename_i none
    exact .inl ⟨rfl, fun c here => absurd (none.symm.trans here) (by simp)⟩

/-- Fewer turns of one character end sooner. -/
theorem Ways.rising_lazily (text : Array Char) (test : Char → Bool) (n : Nat) (last : Option Nat) :
    ((consume text test).lazily n last).Rising := by
  induction n generalizing last with
  | zero => simp [Rising, Ways.lazily]
  | succ n ih =>
    intro place
    have onward := (Forward.consume text test).lazily (n + 1) last place
    rw [Ways.lazily] at onward ⊢
    refine List.pairwise_cons.mpr
      ⟨fun next listed => onward next (List.mem_cons_of_mem place listed), ?_⟩
    split
    · exact .nil
    · rcases consume_cases text test place with ⟨stuck, -⟩ | ⟨-, moved⟩
      · simp [stuck]
      · simpa [moved] using ih (some place.position) _

/-! ## White space at the end of a line -/

/-- Any number of turns may be none. -/
theorem Ways.mem_greedily_self (ways : Ways) (n : Nat) (last : Option Nat) (place : Place) :
    place ∈ ways.greedily n last place := by
  cases n with
  | zero => simp [Ways.greedily]
  | succ n =>
    simp only [Ways.greedily]
    split <;> simp

/-- A line ends at the end of the text, or before a line feed that ends the text. -/
theorem holds_lineEnd_iff {text : Array Char} {place : Nat} :
    Anchor.lineEnd.holds .none text place = true ↔
      place = text.size ∨ text[place]? = some '\n' ∧ place + 1 = text.size := by
  simp [Anchor.holds, Switches.none]

/-- The first end of a line behind turns of one character is the end of the text, if a line feed is
such a character. -/
theorem Ways.find_lineEnd_greedily {text : Array Char} {test : Char → Bool} (feeds : test '\n' = true)
    {n : Nat} {last : Option Nat} {place found : Place} (moved : last ≠ some place.position)
    (room : text.size - place.position < n)
    (first : ((Ways.consume text test).greedily n last place).find?
      (fun next => Anchor.lineEnd.holds .none text next.position) = some found) :
    found.position = text.size := by
  induction n generalizing last place with
  | zero => exact absurd room (Nat.not_lt_zero _)
  | succ n ih =>
    simp only [Ways.greedily, moved, if_false, List.find?_append] at first
    rcases consume_cases text test place with ⟨none, stuck⟩ | ⟨within, one⟩
    · rw [none, List.flatMap_nil, List.find?_nil, Option.none_or, List.find?_singleton] at first
      split at first
      · rename_i ends
        cases first
        rcases holds_lineEnd_iff.mp ends with atEnd | ⟨feed, -⟩
        · exact atEnd
        · rw [stuck '\n' feed] at feeds
          cases feeds
      · cases first
    · rw [one, List.flatMap_singleton] at first
      cases later : ((Ways.consume text test).greedily n (some place.position)
          { place with position := place.position + 1 }).find?
            (fun next => Anchor.lineEnd.holds .none text next.position) with
      | some next =>
        rw [later] at first
        cases first
        exact ih (by simp) (by simp only; omega) later
      | none =>
        -- If the line ended here before a last line feed, it would end behind the line feed as well.
        rw [later, Option.none_or, List.find?_singleton] at first
        split at first
        · rename_i ends
          rcases holds_lineEnd_iff.mp ends with atEnd | ⟨-, next⟩
          · omega
          · have behind := List.find?_eq_none.mp later _ (mem_greedily_self _ _ _ _)
            exact absurd (holds_lineEnd_iff.mpr (.inl next)) behind
        · cases first

end LineGrammar.Pattern
