import LineGrammar.Outline
import Mathlib.Data.List.Basic

/-!
# Balanced brackets

An expression has an outline exactly when its brackets are balanced: no prefix closes more groups than
it opens, and as many are opened as closed. Balance is stated by counting, without a stack.

When several brackets are wrong, one of them is reported. Excess closings come first: the fault stands at
the first bracket that closes more than is open. Only without one does an open group matter, and then the
last opening that nothing closes.
-/

namespace LineGrammar

namespace Brackets

/-- More groups are closed than opened. -/
def Overdrawn (text : List Char) : Prop := text.count '[' < text.count ']'

instance (text : List Char) : Decidable (Overdrawn text) :=
  inferInstanceAs (Decidable (text.count '[' < text.count ']'))

/-- No prefix closes more groups than it opens. -/
def Covered (text : List Char) : Prop := ∀ n, ¬Overdrawn (text.take n)

/-- No prefix closes more groups than it opens, and the whole text opens as many as it closes. -/
structure Balanced (text : List Char) : Prop where
  covered : Covered text
  even : text.count '[' = text.count ']'

/-- No prefix is longer than the text, so these are all that have to be looked at. -/
theorem covered_iff (text : List Char) :
    Covered text ↔ ∀ n < text.length + 1, ¬Overdrawn (text.take n) := by
  constructor
  · intro covered n _
    exact covered n
  · intro bounded n
    by_cases within : n < text.length + 1
    · exact bounded n within
    · have whole := bounded text.length (Nat.lt_succ_self _)
      rw [List.take_length] at whole
      rwa [List.take_of_length_le (by omega)]

instance (text : List Char) : Decidable (Covered text) := decidable_of_iff' _ (covered_iff text)

instance (text : List Char) : Decidable (Balanced text) :=
  decidable_of_iff (Covered text ∧ text.count '[' = text.count ']')
    ⟨fun both => ⟨both.1, both.2⟩, fun balanced => ⟨balanced.covered, balanced.even⟩⟩

/-- A position holds the first bracket that closes more groups than are open. -/
structure FirstUnmatched (text : List Char) (position : Nat) : Prop where
  bracket : text[position]? = some ']'
  overdrawn : Overdrawn (text.take (position + 1))
  first : ∀ n ≤ position, ¬Overdrawn (text.take n)

/-- A position holds a bracket that opens a group, and what follows never closes it. -/
structure Unclosed (text : List Char) (position : Nat) : Prop where
  bracket : text[position]? = some '['
  covered : Covered (text.drop (position + 1))

/-- A position holds the last bracket whose group is never closed. -/
structure LastUnclosed (text : List Char) (position : Nat) : Prop where
  unclosed : Unclosed text position
  last : ∀ other, Unclosed text other → other ≤ position

variable {before after text more inside : List Char} {position other : Nat} {openings : List Nat}

/-! ## Covered and balanced texts -/

/-- A covered text has no more closing brackets than opening ones. -/
theorem Covered.count_le (covered : Covered text) : text.count ']' ≤ text.count '[' := by
  have whole := covered text.length
  rw [List.take_length, Overdrawn, Nat.not_lt] at whole
  exact whole

/-- A prefix of two texts is a prefix of the first, or reaches into the second. -/
theorem Covered.append (first : Covered before) (second : Covered after) : Covered (before ++ after) := by
  intro n
  have here := first n
  have there := second (n - before.length)
  rw [Overdrawn, Nat.not_lt] at here there ⊢
  rw [List.take_append, List.count_append, List.count_append]
  exact Nat.add_le_add here there

/-- What a covered text begins with is covered. -/
theorem Covered.prefix_of_append (covered : Covered (before ++ after)) : Covered before := by
  intro n
  have short := covered (min n before.length)
  rwa [List.take_append_of_le_length (Nat.min_le_right _ _), ← List.take_eq_take_min] at short

/-- The empty text is balanced. -/
theorem Balanced.nil : Balanced [] where
  covered := by
    intro n
    simp [Overdrawn]
  even := rfl

/-- Balanced texts one after the other are balanced. -/
theorem Balanced.append (first : Balanced before) (second : Balanced after) :
    Balanced (before ++ after) where
  covered := first.covered.append second.covered
  even := by rw [List.count_append, List.count_append, first.even, second.even]

/-- Any other character is balanced on its own. -/
theorem Balanced.single {c : Char} (noOpening : c ≠ '[') (noClosing : c ≠ ']') : Balanced [c] where
  covered := by
    intro n
    cases n <;> simp [Overdrawn, noOpening, noClosing]
  even := by simp [noOpening, noClosing]

/-- A balanced text between brackets: its prefixes end before, within or behind the closing one. -/
theorem Balanced.wrap (balanced : Balanced inside) : Balanced ('[' :: inside ++ [']']) where
  covered := by
    intro n
    have within := balanced.covered (n - 1)
    have even := balanced.even
    rw [Overdrawn, Nat.not_lt] at within ⊢
    cases n with
    | zero => simp
    | succ n =>
      rw [Nat.add_sub_cancel] at within
      by_cases inner : n ≤ inside.length
      · rw [List.cons_append, List.take_succ_cons, List.take_append_of_le_length inner]
        simp only [List.count_cons_self, List.count_cons_of_ne (show '[' ≠ ']' by decide)]
        omega
      · rw [List.take_of_length_le (by simp; omega)]
        simp [even]
  even := by simp [balanced.even]

/-! ## Open groups -/

/-- How a text leaves groups open: where each of them opens, from the innermost outward. What stands
behind an opening is balanced up to the next one. -/
inductive Opened : List Char → List Nat → Prop where
  | level {text : List Char} (balanced : Balanced text) : Opened text []
  | group {before inside : List Char} {openings : List Nat} (outer : Opened before openings)
      (inner : Balanced inside) : Opened (before ++ '[' :: inside) (before.length :: openings)

/-- Balanced text changes nothing about the open groups. -/
theorem Opened.append (opened : Opened text openings) (balanced : Balanced more) :
    Opened (text ++ more) openings := by
  cases opened with
  | level level => exact .level (level.append balanced)
  | group outer inner =>
    rw [List.append_assoc, List.cons_append]
    exact .group outer (inner.append balanced)

/-- An opening bracket opens one more group. -/
theorem Opened.push (opened : Opened text openings) : Opened (text ++ ['[']) (text.length :: openings) :=
  .group opened .nil

/-- A closing bracket closes the innermost group. -/
theorem Opened.pop (opened : Opened text (position :: openings)) : Opened (text ++ [']']) openings := by
  cases opened with
  | group outer inner =>
    rw [List.append_assoc]
    exact outer.append inner.wrap

/-- A text whose open brackets are known is covered. -/
theorem Opened.covered (opened : Opened text openings) : Covered text := by
  induction opened with
  | level balanced => exact balanced.covered
  | group _ inner covered =>
    have bracket : Covered ['['] := by
      intro n
      cases n <;> simp [Overdrawn]
    exact covered.append (bracket.append inner.covered)

/-- Without open groups, a closing bracket is one too many, and the first such one. -/
theorem Opened.firstUnmatched (opened : Opened before []) :
    FirstUnmatched (before ++ ']' :: after) before.length := by
  cases opened with
  | level balanced =>
    refine ⟨by simp, ?_, ?_⟩
    · have even := balanced.even
      rw [Overdrawn, List.take_length_add_append]
      simp [even]
    · intro n bound
      rw [List.take_append_of_le_length bound]
      exact balanced.covered n

/-- Behind the innermost opening every group is closed again, so it is the last one left open. -/
theorem Opened.lastUnclosed (opened : Opened text (position :: openings)) :
    LastUnclosed text position := by
  cases opened with
  | @group before inside openings outer inner =>
    have behind (n : Nat) : (before ++ '[' :: inside).drop (before.length + 1 + n) = inside.drop n := by
      rw [Nat.add_assoc, List.drop_length_add_append, Nat.add_comm, List.drop_succ_cons]
    refine ⟨⟨by simp, ?_⟩, ?_⟩
    · rw [show before.length + 1 = before.length + 1 + 0 from rfl, behind]
      exact inner.covered
    · intro other unclosed
      by_contra later
      obtain ⟨n, rfl⟩ := Nat.exists_eq_add_of_lt (Nat.not_le.mp later)
      -- The other opening stands inside, so the inside opens more than it closes.
      have bracket : inside[n]? = some '[' := by
        have there := unclosed.bracket
        rwa [← List.head?_drop, Nat.add_right_comm, behind, List.head?_drop] at there
      have rest := unclosed.covered
      rw [show before.length + n + 1 + 1 = before.length + 1 + (n + 1) by omega, behind] at rest
      have start : Covered (inside.take n) := by
        have whole := inner.covered
        rw [← List.take_append_drop n inside] at whole
        exact whole.prefix_of_append
      have even := inner.even
      have split : inside = inside.take n ++ '[' :: inside.drop (n + 1) := by
        obtain ⟨bound, get⟩ := List.getElem?_eq_some_iff.mp bracket
        rw [← get, List.getElem_cons_drop, List.take_append_drop]
      rw [split] at even
      simp only [List.count_append, List.count_cons_self,
        List.count_cons_of_ne (show '[' ≠ ']' by decide)] at even
      have := start.count_le
      have := rest.count_le
      omega

/-- A text with the first excess closing is not covered. -/
theorem FirstUnmatched.not_covered (unmatched : FirstUnmatched text position) : ¬Covered text :=
  fun covered => covered (position + 1) unmatched.overdrawn

/-- No two positions hold the first excess closing. -/
theorem FirstUnmatched.unique (here : FirstUnmatched text position) (there : FirstUnmatched text other) :
    position = other := by
  apply Nat.le_antisymm
  · by_contra later
    exact here.first (other + 1) (Nat.lt_of_not_le later) there.overdrawn
  · by_contra later
    exact there.first (position + 1) (Nat.lt_of_not_le later) here.overdrawn

/-- There is one last unclosed bracket at most. -/
theorem LastUnclosed.unique (here : LastUnclosed text position) (there : LastUnclosed text other) :
    position = other :=
  Nat.le_antisymm (there.last position here.unclosed) (here.last other there.unclosed)

/-- A covered text with an opening that nothing closes opens more than it closes. -/
theorem Unclosed.uneven (unclosed : Unclosed text position) (covered : Covered text) :
    text.count ']' < text.count '[' := by
  obtain ⟨bound, get⟩ := List.getElem?_eq_some_iff.mp unclosed.bracket
  have split : text = text.take position ++ '[' :: text.drop (position + 1) := by
    rw [← get, List.getElem_cons_drop, List.take_append_drop]
  have start : Covered (text.take position) := by
    rw [← List.take_append_drop position text] at covered
    exact covered.prefix_of_append
  have low := start.count_le
  have high := unclosed.covered.count_le
  rw [split]
  simp only [List.count_append, List.count_cons_self, List.count_cons_of_ne (show '[' ≠ ']' by decide)]
  omega

end Brackets

namespace Outline

open Brackets

/-! ## Reading -/

/-- What the brackets of an expression let its reading come to. -/
inductive Outcome (expression : String) : Except Fault Outline → Prop where
  | read (balanced : Balanced expression.toList) (outline : Outline) : Outcome expression (.ok outline)
  | unmatched {position : Nat} (unmatched : FirstUnmatched expression.toList position) :
    Outcome expression (.error (.malformed .unmatchedClose (some expression) (some position)))
  | unclosed {position : Nat} (covered : Covered expression.toList)
    (unclosed : LastUnclosed expression.toList position) :
    Outcome expression (.error (.malformed .unclosedOpen (some expression) (some position)))

/-- A character that is no bracket goes to the run of text. -/
theorem readFrom_plain (expression : String) {c : Char} (noOpening : c ≠ '[') (noClosing : c ≠ ']')
    (rest : List Char) (position : Nat) (groups : List OpenGroup) (current : Outline) (run : List Char) :
    readFrom expression (c :: rest) position groups current run =
      readFrom expression rest (position + 1) groups current (c :: run) := by
  cases groups <;> simp [readFrom, noClosing]

/-- The rest of an expression is read as its brackets let it, when the open groups are the ones that the
text before it leaves open. -/
theorem readFrom_outcome {expression : String} (before rest : List Char) (groups : List OpenGroup)
    (current : Outline) (run : List Char) (whole : expression.toList = before ++ rest)
    (opened : Opened before (groups.map OpenGroup.opening)) :
    Outcome expression (readFrom expression rest before.length groups current run) := by
  -- The open groups change with the text before, so both are part of what the induction is on.
  induction rest generalizing before groups current run with
  | nil =>
    rw [List.append_nil] at whole
    cases groups with
    | nil =>
      cases opened with
      | level balanced => exact .read (whole ▸ balanced) _
    | cons group groups => exact .unclosed (whole ▸ opened.covered) (whole ▸ opened.lastUnclosed)
  | cons c rest ih =>
    have further : expression.toList = (before ++ [c]) ++ rest := by
      rw [whole, List.append_assoc, List.singleton_append]
    have next : (before ++ [c]).length = before.length + 1 := List.length_append
    by_cases opening : c = '['
    · subst opening
      have pushed := ih (before ++ ['[']) (⟨current.addText run.reverse, before.length⟩ :: groups) done []
        further opened.push
      rwa [next] at pushed
    by_cases closing : c = ']'
    · subst closing
      cases groups with
      | nil => exact .unmatched (whole ▸ opened.firstUnmatched)
      | cons group groups =>
        have popped := ih (before ++ [']']) groups
          (group.before.append (optional (current.addText run.reverse) done)) [] further opened.pop
        rwa [next] at popped
    · have plain := ih (before ++ [c]) groups current (c :: run) further
        (opened.append (.single opening closing))
      rwa [next, ← readFrom_plain expression opening closing] at plain

/-- What reading answers is the outcome that the brackets call for. -/
theorem read_outcome (expression : String) : Outcome expression (read expression) :=
  readFrom_outcome [] expression.toList [] done [] rfl (.level .nil)

/-- Only balanced expressions have an outline, and each of them has one. -/
theorem exists_read_iff (expression : String) :
    (∃ outline, read expression = .ok outline) ↔ Balanced expression.toList := by
  have outcome := read_outcome expression
  generalize read expression = answer at outcome ⊢
  constructor
  · rintro ⟨outline, rfl⟩
    cases outcome with
    | read balanced => exact balanced
  · intro balanced
    cases outcome with
    | read _ outline => exact ⟨outline, rfl⟩
    | unmatched unmatched => exact absurd balanced.covered unmatched.not_covered
    | unclosed covered unclosed =>
      exact absurd balanced.even (Nat.ne_of_gt (unclosed.unclosed.uneven covered))

/-- An expression has an outline exactly when its brackets are balanced. Otherwise the fault carries the
expression and stands at the first closing that is one too many, or, when no prefix closes too much, at
the last opening that is never closed. -/
theorem read_exact_of_brackets (expression : String) :
    ((∃ outline, read expression = .ok outline) ↔ Balanced expression.toList) ∧
    ((∃ n, Overdrawn (expression.toList.take n)) →
      ∃ position : Nat, FirstUnmatched expression.toList position ∧
        read expression = .error (.malformed .unmatchedClose (some expression) (some position))) ∧
    ((∀ n, ¬Overdrawn (expression.toList.take n)) →
      expression.toList.count '[' ≠ expression.toList.count ']' →
      ∃ position : Nat, LastUnclosed expression.toList position ∧
        read expression = .error (.malformed .unclosedOpen (some expression) (some position))) := by
  refine ⟨exists_read_iff expression, ?_, ?_⟩
  · rintro ⟨n, overdrawn⟩
    have outcome := read_outcome expression
    generalize read expression = answer at outcome ⊢
    cases outcome with
    | read balanced => exact absurd overdrawn (balanced.covered n)
    | @unmatched position unmatched => exact ⟨position, unmatched, rfl⟩
    | unclosed covered => exact absurd overdrawn (covered n)
  · intro covered uneven
    have outcome := read_outcome expression
    generalize read expression = answer at outcome ⊢
    cases outcome with
    | read balanced => exact absurd balanced.even uneven
    | unmatched unmatched => exact absurd covered unmatched.not_covered
    | @unclosed position _ unclosed => exact ⟨position, unclosed, rfl⟩

/-- Of several wrong brackets, the excess closing at 3 is reported before the opening at 5 that stays
open; without it, the later of two openings that stay open, and not the last opening. -/
theorem read_exact_of_brackets_several :
    read "[a]] [b" = .error (.malformed .unmatchedClose (some "[a]] [b") (some (3 : Nat))) ∧
      read "[a [b [c]" = .error (.malformed .unclosedOpen (some "[a [b [c]") (some (3 : Nat))) := by
  constructor
  · have first : FirstUnmatched "[a]] [b".toList 3 := ⟨by decide, by decide, by decide⟩
    obtain ⟨position, unmatched, answer⟩ := (read_exact_of_brackets "[a]] [b").2.1 ⟨4, by decide⟩
    rwa [unmatched.unique first] at answer
  · have outer : Opened "[a ".toList [0] :=
      .group (.level .nil) (show Balanced "a ".toList by decide)
    have opened : Opened "[a [b [c]".toList [3, 0] :=
      .group outer (show Balanced "b [c]".toList by decide)
    obtain ⟨position, unclosed, answer⟩ := (read_exact_of_brackets "[a [b [c]").2.2 opened.covered
      (by decide)
    rwa [unclosed.unique opened.lastUnclosed] at answer

end Outline

end LineGrammar
