import LineGrammar.Proofs.Pattern.Ways
import Mathlib.Algebra.BigOperators.Group.List.Basic
import Mathlib.Computability.Language

/-!
# The languages of nodes

A node that neither captures nor asks about its surroundings leads exactly over the pieces of a
language: from a place it can lead to every place behind a piece that the text holds there, and to no
other. `Recognizes` says so for every text at once. The rules below follow the tree: one character, a
sequence, a choice, and the repetitions.

A repetition refuses to begin a turn where the previous one began, and counts its turns against the
length of the text. Neither costs a piece when no turn can be empty, and the rules for repetitions
ask for that.
-/

namespace LineGrammar.Pattern

open scoped Computability

/-- A place further on in the text. -/
def Place.after (place : Place) (count : Nat) : Place :=
  { place with position := place.position + count }

/-- A place further on is further on in its position. -/
@[simp] theorem Place.after_position (place : Place) (count : Nat) :
    (place.after count).position = place.position + count := rfl

/-- A place further on has the same groups. -/
@[simp] theorem Place.after_groups (place : Place) (count : Nat) :
    (place.after count).groups = place.groups := rfl

/-- No characters further on is the same place. -/
@[simp] theorem Place.after_zero (place : Place) : place.after 0 = place := rfl

/-- Twice further on is further on by both. -/
@[simp] theorem Place.after_after (place : Place) (m n : Nat) :
    (place.after m).after n = place.after (m + n) := by
  simp [Place.after, Nat.add_assoc]

/-- A text holds a piece at a position. -/
def Holds (text : Array Char) (position : Nat) (piece : List Char) : Prop :=
  piece <+: text.toList.drop position

namespace Holds

variable {text : Array Char} {position : Nat}

/-- The empty piece is held everywhere. -/
@[simp] theorem nil : Holds text position [] := List.nil_prefix

/-- Two pieces in a row are one piece. -/
theorem append {first second : List Char} :
    Holds text position (first ++ second) ↔
      Holds text position first ∧ Holds text (position + first.length) second := by
  simp only [Holds, ← List.drop_drop]
  constructor
  · rintro ⟨rest, whole⟩
    rw [← whole]
    refine ⟨⟨second ++ rest, by simp⟩, ⟨rest, by simp⟩⟩
  · rintro ⟨⟨rest, front⟩, behind⟩
    rw [← front, List.drop_left] at behind
    obtain ⟨after, rfl⟩ := behind
    exact ⟨after, by simp [← front]⟩

/-- A single character is held where the text has it. -/
theorem singleton {c : Char} : Holds text position [c] ↔ text[position]? = some c := by
  rw [← Array.getElem?_toList, Holds, ← List.head?_drop]
  cases text.toList.drop position <;> simp [eq_comm]

/-- A piece lies within the text. -/
theorem length_le {piece : List Char} (held : Holds text position piece) :
    piece.length ≤ text.size - position := by
  simpa using List.IsPrefix.length_le held

/-- The pieces that are held at one place are prefixes of one another; equal lengths make them
equal. -/
theorem unique {first second : List Char} (one : Holds text position first)
    (other : Holds text position second) (same : first.length = second.length) :
    first = second :=
  (List.prefix_of_prefix_length_le one other same.le).eq_of_length same

end Holds

/-- A piece that a text holds is the slice of its span. -/
theorem slice_of_holds {text : Array Char} {start : Nat} {piece : List Char}
    (held : Holds text start piece) :
    slice text (start, start + piece.length) = String.ofList piece := by
  obtain ⟨rest, whole⟩ := held
  have taken : (text.extract start (start + piece.length)).toList = piece := by
    rw [Array.toList_extract, List.extract_eq_take_drop, ← whole, Nat.add_sub_cancel_left,
      List.take_left]
  exact congrArg String.ofList taken

/-- The pieces of one character that satisfies a test. -/
def single (test : Char → Bool) : Language Char := {piece | ∃ c, test c = true ∧ piece = [c]}

/-- The single pieces are those of one character that passes the test. -/
@[simp] theorem mem_single {test : Char → Bool} {piece : List Char} :
    piece ∈ single test ↔ ∃ c, test c = true ∧ piece = [c] := Iff.rfl

/-- A single piece is not empty. -/
theorem nil_not_mem_single {test : Char → Bool} : [] ∉ single test := by simp

/-- The ways from a place lead over the pieces of a language that the text holds there, and change
nothing but the position. -/
def Ways.Follow (ways : Ways) (text : Array Char) (pieces : Language Char) : Prop :=
  ∀ place next, next ∈ ways place ↔
    ∃ piece ∈ pieces, Holds text place.position piece ∧ next = place.after piece.length

/-- A node leads over the pieces of a language in every text. -/
def Recognizes (on : Switches) (node : Node) (pieces : Language Char) : Prop :=
  ∀ text, (node.ways text on).Follow text pieces

/-- A lazy repetition has the ways of a greedy one in another order. -/
theorem Ways.mem_lazily (ways : Ways) (n : Nat) (last : Option Nat) (place next : Place) :
    next ∈ ways.lazily n last place ↔ next ∈ ways.greedily n last place := by
  induction n generalizing last place with
  | zero => rfl
  | succ n ih =>
    by_cases still : last = some place.position
    · simp [Ways.lazily, Ways.greedily, still]
    · simp only [Ways.lazily, Ways.greedily, still, if_false, List.mem_cons, List.mem_append,
        List.mem_flatMap, List.not_mem_nil, or_false, ih]
      exact or_comm

namespace Ways.Follow

variable {ways : Ways} {text : Array Char} {pieces : Language Char}

/-- Consuming a character leads over one that passes the test. -/
theorem consume (test : Char → Bool) : (Ways.consume text test).Follow text (single test) := by
  intro place next
  simp only [Ways.consume, mem_single]
  cases found : text[place.position]? with
  | none =>
    simp only [List.not_mem_nil, false_iff]
    rintro ⟨_, ⟨c, _, rfl⟩, held, _⟩
    rw [Holds.singleton, found] at held
    cases held
  | some c =>
    by_cases accepted : test c = true
    · simp only [accepted, if_true, List.mem_singleton]
      constructor
      · rintro rfl
        exact ⟨[c], ⟨c, accepted, rfl⟩, Holds.singleton.mpr found, rfl⟩
      · rintro ⟨_, ⟨d, _, rfl⟩, _, rfl⟩
        rfl
    · simp only [accepted, Bool.false_eq_true, if_false, List.not_mem_nil, false_iff]
      rintro ⟨_, ⟨d, passed, rfl⟩, held, _⟩
      rw [Holds.singleton, found, Option.some.injEq] at held
      exact accepted (held ▸ passed)

/-- Turns one after the other lead over pieces one after the other. -/
theorem flatMap {later : Ways} {more : Language Char} (follow : ways.Follow text pieces)
    (followLater : later.Follow text more) :
    Ways.Follow (fun place => (ways place).flatMap later) text (pieces * more) := by
  intro place next
  simp only [List.mem_flatMap, Language.mem_mul]
  constructor
  · rintro ⟨middle, stepped, reached⟩
    obtain ⟨first, firstIn, firstHeld, rfl⟩ := (follow place middle).mp stepped
    obtain ⟨second, secondIn, secondHeld, rfl⟩ := (followLater _ next).mp reached
    exact ⟨first ++ second, ⟨first, firstIn, second, secondIn, rfl⟩,
      Holds.append.mpr ⟨firstHeld, secondHeld⟩, by simp⟩
  · rintro ⟨_, ⟨first, firstIn, second, secondIn, rfl⟩, held, rfl⟩
    obtain ⟨firstHeld, secondHeld⟩ := Holds.append.mp held
    exact ⟨place.after first.length, (follow _ _).mpr ⟨first, firstIn, firstHeld, rfl⟩,
      (followLater _ _).mpr ⟨second, secondIn, secondHeld, by simp⟩⟩

/-- Turns that make progress lead over at most as many pieces as there are turns. The previous turn
began elsewhere, which the first hypothesis says of the first turn and progress of all others. -/
theorem mem_greedily (follow : ways.Follow text pieces) (progress : [] ∉ pieces) (n : Nat)
    (last : Option Nat) (place next : Place) (moved : last ≠ some place.position) :
    next ∈ ways.greedily n last place ↔
      ∃ turns : List (List Char), turns.length ≤ n ∧ (∀ turn ∈ turns, turn ∈ pieces) ∧
        Holds text place.position turns.flatten ∧ next = place.after turns.flatten.length := by
  induction n generalizing last place with
  | zero =>
    simp only [Ways.greedily, List.mem_singleton, Nat.le_zero, List.length_eq_zero_iff]
    constructor
    · rintro rfl
      exact ⟨[], rfl, by simp, by simp, by simp⟩
    · rintro ⟨_, rfl, _, _, rfl⟩
      simp
  | succ n ih =>
    simp only [Ways.greedily, moved, if_false, List.mem_append, List.mem_flatMap,
      List.mem_singleton]
    have advanced {piece : List Char} (taken : piece ∈ pieces) :
        some place.position ≠ some (place.after piece.length).position := by
      have nonempty : piece ≠ [] := fun empty => progress (empty ▸ taken)
      have positive := List.length_pos_of_ne_nil nonempty
      simp only [Place.after_position, ne_eq, Option.some.injEq]
      omega
    constructor
    · rintro (⟨middle, stepped, reached⟩ | rfl)
      · obtain ⟨piece, taken, held, rfl⟩ := (follow place middle).mp stepped
        obtain ⟨turns, bound, each, rest, rfl⟩ := (ih _ _ (advanced taken)).mp reached
        exact ⟨piece :: turns, by simpa using bound, by simpa [taken] using each,
          by simpa [Holds.append] using ⟨held, rest⟩, by simp⟩
      · exact ⟨[], by simp, by simp, by simp, by simp⟩
    · rintro ⟨turns, bound, each, held, rfl⟩
      cases turns with
      | nil => exact .inr (by simp)
      | cons piece turns =>
        have taken : piece ∈ pieces := each piece (by simp)
        obtain ⟨front, behind⟩ := Holds.append.mp (List.flatten_cons ▸ held)
        refine .inl ⟨place.after piece.length, (follow _ _).mpr ⟨piece, taken, front, rfl⟩,
          (ih _ _ (advanced taken)).mpr ⟨turns, by simpa using bound,
            fun turn inside => each turn (by simp [inside]), behind, by simp⟩⟩

/-- Turns that make progress, as many as the text has room for, lead over any number of pieces. -/
theorem star (follow : ways.Follow text pieces) (progress : [] ∉ pieces) :
    Ways.Follow (fun place => ways.greedily (text.size - place.position + 1) none place) text
      pieces∗ := by
  intro place next
  rw [follow.mem_greedily progress _ _ _ _ (by simp)]
  simp only [Language.mem_kstar]
  constructor
  · rintro ⟨turns, _, each, held, rfl⟩
    exact ⟨turns.flatten, ⟨turns, rfl, each⟩, held, rfl⟩
  · rintro ⟨_, ⟨turns, rfl, each⟩, held, rfl⟩
    have room : turns.length ≤ turns.flatten.length := by
      have nonempty : ∀ turn ∈ turns, 1 ≤ turn.length := fun turn inside =>
        List.length_pos_of_ne_nil fun empty => progress (empty ▸ each turn inside)
      have sum := List.length_le_sum_of_one_le (turns.map List.length) (by simpa using nonempty)
      rwa [List.length_map, ← List.length_flatten] at sum
    have bound := held.length_le
    exact ⟨turns, by omega, each, held, rfl⟩

end Ways.Follow

namespace Recognizes

variable {on : Switches} {node other : Node} {pieces more : Language Char}

/-- The empty node leads over nothing. -/
theorem empty : Recognizes on .empty 1 := by
  intro text place next
  simp [Node.ways, Language.mem_one]

/-- A character leads over itself, up to case where that does not count. -/
theorem character (code : Nat) : Recognizes on (.character code) (single (sameCharacter on code)) :=
  fun _ => Ways.Follow.consume _

/-- A dot leads over one character. -/
theorem anything : Recognizes on .anything (single (isAnything on)) :=
  fun _ => Ways.Follow.consume _

/-- A set leads over one of its characters. -/
theorem set (negated : Bool) (items : List SetItem) :
    Recognizes on (.set negated items) (single (inSet on negated items)) :=
  fun _ => Ways.Follow.consume _

/-- A choice leads over the pieces of both sides. -/
theorem choice (first : Recognizes on node pieces) (second : Recognizes on other more) :
    Recognizes on (.choice node other) (pieces + more) := by
  intro text place next
  simp only [Node.ways, List.mem_append, first text place next, second text place next,
    Language.mem_add]
  constructor
  · rintro (⟨piece, inside, rest⟩ | ⟨piece, inside, rest⟩)
    · exact ⟨piece, .inl inside, rest⟩
    · exact ⟨piece, .inr inside, rest⟩
  · rintro ⟨piece, inside | inside, rest⟩
    · exact .inl ⟨piece, inside, rest⟩
    · exact .inr ⟨piece, inside, rest⟩

/-- A lazy repetition recognizes what the greedy one recognizes. -/
theorem ofGreedy {least : Nat} {greatest : Option Nat}
    (greedy : Recognizes on (.repetition .greedy least greatest node) pieces) :
    Recognizes on (.repetition .lazy least greatest node) pieces := by
  intro text place next
  rw [← greedy text place next]
  simp only [Node.ways, Ways.repeated, List.mem_flatMap, Ways.mem_lazily]

/-- A star leads over any number of pieces, when none of them is empty. -/
theorem star (inside : Recognizes on node pieces) (progress : [] ∉ pieces) :
    Recognizes on (.repetition .greedy 0 none node) pieces∗ := by
  intro text place next
  simpa [Node.ways, Ways.repeated, Ways.required, turnsLeft] using
    (inside text).star progress place next

/-- A plus sign leads over one piece or more, when none of them is empty. -/
theorem plus (inside : Recognizes on node pieces) (progress : [] ∉ pieces) :
    Recognizes on (.repetition .greedy 1 none node) (pieces * pieces∗) := by
  intro text place next
  have turns := (inside text).flatMap ((inside text).star progress) place next
  simpa [Node.ways, Ways.repeated, Ways.required, turnsLeft] using turns

/-- An option leads over one piece or none. -/
theorem optional (inside : Recognizes on node pieces) :
    Recognizes on (.repetition .greedy 0 (some 1) node) (1 + pieces) := by
  intro text place next
  have turns : (node.repetition .greedy 0 (some 1)).ways text on place
      = node.ways text on place ++ [place] := by
    simp [Node.ways, Ways.repeated, Ways.required, turnsLeft, Ways.greedily]
  rw [turns, List.mem_append, inside text place next, List.mem_singleton]
  simp only [Language.mem_add, Language.mem_one]
  constructor
  · rintro (⟨piece, taken, held⟩ | rfl)
    · exact ⟨piece, .inr taken, held⟩
    · exact ⟨[], .inl rfl, by simp, by simp⟩
  · rintro ⟨piece, rfl | taken, held, rfl⟩
    · exact .inr (by simp)
    · exact .inl ⟨piece, taken, held, rfl⟩

end Recognizes

end LineGrammar.Pattern
