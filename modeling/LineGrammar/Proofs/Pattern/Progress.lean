import LineGrammar.Proofs.Pattern.Grouping
import Mathlib.Data.List.TakeWhile

/-!
# Readers that go on

The reader of a pattern only ever goes on. Every part of it that succeeds leaves no more symbols
ahead than it found, and three things are settled for good on the way: a text that has opened a group or
waits for one stays *spoiled*, a switch for the whole stays turned on, and a backslash at the very end
of the pattern is never passed over. `Steady` says this of a part, and holds of a sequence when it
holds of both parts.

What the parts that pass over symbols do is said here exactly; what the others do to the tree is not.
-/

namespace LineGrammar.Pattern

open LineGrammar.Text

variable {α β : Type}

namespace Reading

/-! ## Parts that succeed -/

/-- A sequence succeeds when both of its parts do. -/
theorem bind_eq_ok {one : Reading α} {next : α → Reading β} {first last : Reader} {b : β} :
    (one >>= next) first = .ok (b, last) ↔
      ∃ a middle, one first = .ok (a, middle) ∧ next a middle = .ok (b, last) := by
  change (one first >>= fun result => next result.1 result.2) = _ ↔ _
  cases one first with
  | error refusal => simp [bind, Except.bind]
  | ok result =>
    obtain ⟨a, middle⟩ := result
    simp [bind, Except.bind]

/-- A reader advances over symbols when no backslash without a character comes next. -/
theorem advance_eq_ok {count : Nat} {first last : Reader} {u : Unit} :
    advance count first = .ok (u, last) ↔
      (first.rest.drop count).head? ≠ some .dangling ∧
        last = first.moved (first.position + (Symbol.charsOf (first.rest.take count)).length)
          (first.rest.drop count) := by
  obtain ⟨position, rest, switches, opened, widths, names, limit, awaited, level, outer⟩ := first
  by_cases dangling : (rest.drop count).head? = some .dangling
  · simp only [ne_eq, dangling, not_true_eq_false, false_and, iff_false]
    intro taken
    rw [advance, get_bind] at taken
    obtain ⟨_, middle, here, rest⟩ := bind_eq_ok.mp taken
    simp only [dangling, if_true] at rest
    cases rest
  · rw [advance, get_bind]
    simp only [dangling, if_false, ne_eq, not_false_eq_true, true_and]
    constructor
    · intro taken
      cases taken
      rfl
    · rintro rfl
      rfl

/-- The symbol that is taken is the next one, which the reader advances over. -/
theorem take_eq_ok {first last : Reader} {found : Option Symbol} :
    take? first = .ok (found, last) ↔
      found = first.rest.head? ∧ advance 1 first = .ok ((), last) := by
  constructor
  · intro taken
    obtain ⟨_, middle, here, rest⟩ := bind_eq_ok.mp taken
    cases here
    obtain ⟨_, after, passed, result⟩ := bind_eq_ok.mp rest
    cases result
    exact ⟨rfl, passed⟩
  · rintro ⟨rfl, passed⟩
    exact bind_eq_ok.mpr ⟨_, first, rfl, bind_eq_ok.mpr ⟨_, _, passed, rfl⟩⟩

/-- A character is accepted when it is the next symbol, and then the reader advances over it. -/
theorem accept_eq_ok {c : Char} {first last : Reader} {found : Bool} :
    accept c first = .ok (found, last) ↔
      if first.rest.head? = some (.plain c) then found = true ∧ advance 1 first = .ok ((), last)
      else found = false ∧ last = first := by
  have split : accept c first = (if first.rest.head? = some (.plain c) then do
      advance 1
      return true
    else return false : Reading Bool) first := rfl
  rw [split]
  by_cases ahead : first.rest.head? = some (.plain c)
  · simp only [ahead, if_true, bind_eq_ok]
    constructor
    · rintro ⟨_, middle, passed, result⟩
      cases result
      exact ⟨rfl, passed⟩
    · rintro ⟨rfl, passed⟩
      exact ⟨_, _, passed, rfl⟩
  · simp only [ahead, if_false]
    constructor
    · intro taken
      cases taken
      exact ⟨rfl, rfl⟩
    · rintro ⟨rfl, rfl⟩
      rfl

/-- A run up to a length is what is wanted of so many symbols, and the reader advances over it. -/
theorem takeUpTo_eq_ok {limit : Nat} {wanted : Symbol → Bool} {first last : Reader}
    {run : List Symbol} :
    takeUpTo limit wanted first = .ok (run, last) ↔
      run = (first.rest.take limit).takeWhile (fun symbol => wanted symbol && symbol != .dangling) ∧
        advance run.length first = .ok ((), last) := by
  rw [takeUpTo, get_bind]
  constructor
  · intro taken
    obtain ⟨_, middle, passed, result⟩ := bind_eq_ok.mp taken
    cases result
    exact ⟨rfl, passed⟩
  · rintro ⟨rfl, passed⟩
    exact bind_eq_ok.mpr ⟨_, _, passed, rfl⟩

/-- A run is what is wanted of the symbols ahead, and the reader advances over it. -/
theorem takeWhile_eq_ok {wanted : Symbol → Bool} {first last : Reader} {run : List Symbol} :
    takeWhile wanted first = .ok (run, last) ↔
      run = first.rest.takeWhile (fun symbol => wanted symbol && symbol != .dangling) ∧
        advance run.length first = .ok ((), last) := by
  rw [takeWhile, get_bind, takeUpTo_eq_ok, List.take_length]

end Reading

/-! ## Going on -/

/-- A reader has met what a text cannot bring into a pattern around it without a change of meaning: a
capturing group, or a reference to a group that is still to come. -/
def Reader.Spoiled (reader : Reader) : Prop :=
  reader.opened ≠ 0 ∨ ∃ entry ∈ reader.awaited, 0 < entry.1

/-- One reader is further on in the pattern than another. What spoils stays, and so does a switch for the
whole, and no backslash at the end of the pattern is passed over. -/
structure Reader.Later (first last : Reader) : Prop where
  shorter : last.rest.length ≤ first.rest.length
  spoiled : first.Spoiled → last.Spoiled
  turned : first.switches ≠ .none → last.switches ≠ .none
  sound : first.rest.head? ≠ some .dangling →
    last.rest.head? ≠ some .dangling ∧ (.dangling ∈ first.rest → .dangling ∈ last.rest)

namespace Reader.Later

/-- A reader is where it is. -/
theorem refl (reader : Reader) : reader.Later reader := ⟨Nat.le_refl _, id, id, fun head => ⟨head, id⟩⟩

/-- Further on than further on is further on. -/
theorem trans {first middle last : Reader} (one : first.Later middle) (two : middle.Later last) :
    first.Later last where
  shorter := Nat.le_trans two.shorter one.shorter
  spoiled := two.spoiled ∘ one.spoiled
  turned := two.turned ∘ one.turned
  sound head :=
    have here := one.sound head
    have there := two.sound here.1
    ⟨there.1, there.2 ∘ here.2⟩

end Reader.Later

namespace Reading

/-- A part of a reader never succeeds. -/
def Refuses (part : Reading α) : Prop := ∀ first result, part first ≠ .ok result

/-- A part of a reader only goes on. -/
def Steady (part : Reading α) : Prop :=
  ∀ first a last, part first = .ok (a, last) → first.Later last

/-- A fault at a position refuses. -/
theorem Refuses.failAt (cause : Cause) (position : Nat) :
    Refuses (failAt cause position : Reading α) := by
  intro first result taken
  cases taken

/-- A fault refuses. -/
theorem Refuses.fail (cause : Cause) (back : Nat) : Refuses (fail cause back : Reading α) := by
  intro first result taken
  cases taken

/-- A refusal refuses, whatever it is for. -/
theorem Refuses.throw (refusal : Refusal) : Refuses (throw refusal : Reading α) := by
  intro first result taken
  cases taken

/-- After a refusal nothing more is read. -/
theorem Refuses.bind {one : Reading α} (refuses : Refuses one) (next : α → Reading β) :
    Refuses (one >>= next) := by
  rintro first ⟨b, last⟩ taken
  obtain ⟨a, middle, here, -⟩ := bind_eq_ok.mp taken
  exact refuses first _ here

namespace Steady

/-- A given value goes nowhere. -/
theorem pure (a : α) : Steady (pure a : Reading α) := by
  intro first b last taken
  cases taken
  exact .refl first

/-- A part that always refuses goes nowhere. -/
theorem refused {part : Reading α} (refuses : Refuses part) : Steady part :=
  fun _ _ _ taken => absurd taken (refuses _ _)

/-- Two parts that only go on do so after one another. -/
theorem bind {one : Reading α} {next : α → Reading β} (here : Steady one)
    (after : ∀ a, Steady (next a)) : Steady (one >>= next) := by
  intro first b last taken
  obtain ⟨a, middle, step, rest⟩ := bind_eq_ok.mp taken
  exact (here _ _ _ step).trans (after a _ _ _ rest)

/-- A choice between parts that only go on does so. -/
theorem choose {condition : Prop} [Decidable condition] {one other : Reading α} (yes : Steady one)
    (no : Steady other) : Steady (if condition then one else other) := by
  split
  · exact yes
  · exact no

/-- Looking at the state. -/
theorem get {next : Reader → Reading β} (after : ∀ reader, Steady (next reader)) :
    Steady (MonadState.get >>= next) :=
  fun first _ _ taken => after first _ _ _ taken

/-- A change of the current level. -/
theorem modifyLevel (change : Reader → Level) :
    Steady (modify fun reader => { reader with level := change reader } : Reading Unit) := by
  intro first u last taken
  cases taken
  exact ⟨Nat.le_refl _, id, id, fun head => ⟨head, id⟩⟩

/-- To put an item into the open level goes nowhere. -/
theorem push (node : Node) (standing : Standing) : Steady (push node standing) := .modifyLevel _

/-- To look at the next symbol goes nowhere. -/
theorem next : Steady next? := by
  intro first found last taken
  cases taken
  exact .refl first

end Steady

/-! ## Passing over symbols -/

/-- Passing over symbols none of which is a backslash at the end. -/
theorem Steady.advance_from {count : Nat} {first last : Reader} {u : Unit}
    (sound : first.rest.head? ≠ some .dangling → .dangling ∉ first.rest.take count)
    (taken : advance count first = .ok (u, last)) : first.Later last := by
  obtain ⟨head, rfl⟩ := advance_eq_ok.mp taken
  refine ⟨by simp, id, id, fun here => ⟨head, fun inside => ?_⟩⟩
  rw [← List.take_append_drop count first.rest] at inside
  exact (List.mem_append.mp inside).resolve_left (sound here)

/-- If no backslash without a character comes next, the next symbol is none. -/
theorem take_one_sound {symbols : List Symbol} (head : symbols.head? ≠ some .dangling) :
    .dangling ∉ symbols.take 1 := by
  cases symbols with
  | nil => simp
  | cons symbol rest => simpa [eq_comm] using head

/-- To advance over one symbol only goes on. -/
theorem Steady.advance_one : Steady (advance 1) :=
  fun _ _ _ taken => advance_from take_one_sound taken

/-- To take a symbol only goes on. -/
theorem Steady.take : Steady take? := fun _ _ _ taken =>
  Steady.advance_one _ _ _ (take_eq_ok.mp taken).2

/-- A run from the front of some symbols. -/
theorem takeWhile_take (limit : Nat) (wanted : Symbol → Bool) (symbols : List Symbol) :
    symbols.take ((symbols.take limit).takeWhile wanted).length =
      (symbols.take limit).takeWhile wanted := by
  have front : (symbols.take limit).takeWhile wanted <+: symbols :=
    (List.takeWhile_prefix _).trans (List.take_prefix _ _)
  exact (List.prefix_iff_eq_take.mp front).symm

/-- A run that ends within a text, or at what follows the text, is the same without what follows. -/
theorem takeWhile_append_of_stop {wanted : Symbol → Bool} (symbols : List Symbol) {more : List Symbol}
    (stops : ∀ stop ∈ more.head?, wanted stop = false) (limit : Nat) :
    ((symbols ++ more).take limit).takeWhile wanted = (symbols.take limit).takeWhile wanted := by
  induction symbols generalizing limit with
  | nil => cases limit <;> cases more <;> simp_all
  | cons symbol symbols ih =>
    cases limit with
    | zero => rfl
    | succ limit => simp only [List.cons_append, List.take_succ_cons, List.takeWhile_cons, ih]

/-- To take a run up to a length only goes on. -/
theorem Steady.takeUpTo (limit : Nat) (wanted : Symbol → Bool) : Steady (takeUpTo limit wanted) := by
  intro first run last taken
  obtain ⟨rfl, passed⟩ := takeUpTo_eq_ok.mp taken
  refine advance_from (fun _ inside => ?_) passed
  rw [takeWhile_take] at inside
  simpa using List.mem_takeWhile_imp inside

/-- To take a run only goes on. -/
theorem Steady.takeWhile (wanted : Symbol → Bool) : Steady (takeWhile wanted) :=
  fun first _ _ taken => Steady.takeUpTo first.rest.length wanted _ _ _ taken

end Reading

end LineGrammar.Pattern
