import LineGrammar.Proofs.Pattern.Standalone

/-!
# Groups behind a character

The text of a group may close the group and go on with anything, even with what swallows the closing
parenthesis. What matters is what was asked before: that the whole is read behind a character, without
capturing groups. Then it is read anywhere else as well, although the character is missing there: no
mark of repetition comes to the character, because the group that is opened stands between, and a switch
for the whole was refused behind the character.
-/

namespace LineGrammar.Pattern

open LineGrammar.Text

/-- What opens a group leads into it, whatever the group holds. -/
theorem Reading.step_openPlain {reader : Reader} {tail : List Symbol}
    (ahead : reader.rest = .plain '(' :: .plain '?' :: .plain ':' :: tail)
    (sound : tail.head? ≠ some .dangling) (strict : reader.level.verbose = false) :
    ∃ position opening, step reader = .ok (true, reader.inside position tail 0 .plain opening) := by
  obtain ⟨position, rest, switches, opened, widths, names, limit, awaited,
    ⟨bracket, opening, verbose, branches, items⟩, outer⟩ := reader
  cases ahead
  cases strict
  cases tail with
  | nil => exact ⟨_, _, rfl⟩
  | cons symbol tail =>
    cases symbol with
    | plain c => exact ⟨_, _, rfl⟩
    | escaped c => exact ⟨_, _, rfl⟩
    | dangling => exact absurd rfl sound

/-- What opens a plain group is read as its three characters. -/
theorem Symbol.ofChars_openPlain (rest : List Char) :
    Symbol.ofChars ('(' :: '?' :: ':' :: rest) =
      .plain '(' :: .plain '?' :: .plain ':' :: Symbol.ofChars rest := by
  rw [Symbol.ofChars_plain (by decide), Symbol.ofChars_plain (by decide),
    Symbol.ofChars_plain (by decide)]

/-- A reader that takes a step goes on from there. -/
theorem Reading.steps_of_step {n : Nat} {first middle last : Reader} {u : Unit}
    (step : Reading.step first = .ok (true, middle)) (taken : steps (n + 1) first = .ok (u, last)) :
    steps n middle = .ok (u, last) := by
  rw [steps, bind_ok step] at taken
  exact taken

/-- A reader behind the first character of a pattern. -/
def Reader.behind (c : Char) (rest : List Symbol) : Reader where
  position := 1
  rest
  switches := .none
  opened := 0
  widths := []
  names := []
  lookBehindLimit := none
  awaited := []
  level := ⟨.whole, 0, false, [], [(.character c.toNat, .operand)]⟩
  outer := []

/-- A reader takes a character, opens the group behind it, and goes on from there. -/
theorem Reading.steps_behind {c : Char} (ordinary : c ∉ specialCharacters) {symbols : List Symbol}
    (clean : .dangling ∉ symbols) {n : Nat} {last : Reader} {u : Unit}
    (taken : steps (n + 2) (Reader.start (.plain c :: .plain '(' :: .plain '?' :: .plain ':' :: symbols)
      .none) = .ok (u, last)) :
    ∃ position opening,
      steps n ((Reader.behind c symbols).inside position symbols 0 .plain opening) = .ok (u, last) := by
  have apart {d : Char} (special : d ∈ specialCharacters) : c ≠ d :=
    fun same => ordinary (same ▸ special)
  have character : step (Reader.start
      (.plain c :: .plain '(' :: .plain '?' :: .plain ':' :: symbols) .none) =
        .ok (true, .behind c (.plain '(' :: .plain '?' :: .plain ':' :: symbols)) := by
    refine step_item rfl (by simpa using clean) rfl (by simpa using apart (by decide))
      (by simpa using apart (by decide)) ?_
    rw [item_plain ordinary]
    rfl
  have head : symbols.head? ≠ some .dangling := fun same => clean (List.mem_of_mem_head? same)
  obtain ⟨position, opening, group⟩ :=
    @step_openPlain (.behind c (.plain '(' :: .plain '?' :: .plain ':' :: symbols)) _ rfl head rfl
  exact ⟨position, opening, steps_of_step group (steps_of_step character taken)⟩

/-- Within a group, a reader behind a character and one in any context are alike. -/
theorem Alike.inside {c : Char} {context : Reader} {symbols tail : List Symbol} (bounded : Bounded tail)
    (strict : context.level.verbose = false) (position position' opening opening' : Nat) :
    Alike .none [(.character c.toNat, .operand)] context tail
      ((Reader.behind c symbols).inside position symbols 0 .plain opening)
      (context.inside position' (symbols ++ tail) 0 .plain opening') := by
  obtain ⟨place, rest, switches, opened, widths, names, limit, awaited,
    ⟨bracket, start, verbose, branches, items⟩, outer⟩ := context
  cases strict
  exact .intro _ _ bounded (.inner (@Nested.within _ _ _ _ []) .plain) (.inr (.inl (by simp))) (by simp)

/-- What is read behind a character, without groups, stands on its own if it begins with a group. -/
theorem Stands.of_read_behind {c : Char} (ordinary : c ∉ specialCharacters) {rest : List Char}
    {source : String} (written : source.toList = c :: '(' :: '?' :: ':' :: rest) {own : Pattern}
    (read : Pattern.read source .none = .ok own) (groups : own.groups = 0) :
    ∃ level, Stands .none [(.character c.toNat, .operand)] ('(' :: '?' :: ':' :: rest) level := by
  obtain ⟨final, tree, runs, counted, -⟩ := exists_of_read read
  obtain ⟨head, stepped, finished⟩ := readTree_eq_ok tree
  obtain ⟨-, outermost, -, -⟩ := Reading.finish_eq_ok finished
  have sound := Reading.not_spoiled_of_finish finished (counted ▸ groups)
  have notBackslash : c ≠ backslash := fun same => ordinary (same ▸ by decide)
  have cut : Symbol.ofChars source.toList =
      .plain c :: .plain '(' :: .plain '?' :: .plain ':' :: Symbol.ofChars rest := by
    rw [written, Symbol.ofChars_plain notBackslash, Symbol.ofChars_openPlain]
  rw [cut] at head stepped
  have clean : .dangling ∉ Symbol.ofChars rest := by
    simpa using Reading.clean_of_steps head stepped
  obtain ⟨position, opening, within⟩ := Reading.steps_behind ordinary clean stepped
  refine ⟨final.level, (Stands.of_finish (Symbol.ofChars_openPlain rest ▸ by simpa using clean)
    (Symbol.ofChars_openPlain rest ▸ by simp [Calm]) finished rfl runs ?_).1⟩
  -- From within the group on, a reader in any context goes along.
  intro context tail ahead bounded hosts
  rw [Symbol.ofChars_openPlain, List.cons_append, List.cons_append, List.cons_append] at ahead
  have sound' : (Symbol.ofChars rest ++ tail).head? ≠ some .dangling := by
    rw [List.head?_append]
    cases first : (Symbol.ofChars rest).head? with
    | none => simpa using bounded.not_dangling
    | some symbol =>
      rintro ⟨⟩
      exact clean (List.mem_of_mem_head? first)
  obtain ⟨position', opening', opens⟩ := Reading.step_openPlain ahead sound' hosts.layout
  have alike := @Alike.inside c context (Symbol.ofChars rest) tail bounded hosts.layout position position'
    opening opening'
  have enough : (Symbol.ofChars rest).length < (Symbol.ofChars rest).length + 3 := by omega
  obtain ⟨run, ended⟩ := Reading.reaches_of_steps enough within
  obtain ⟨last, reached, alike'⟩ :=
    alike.reaches_outermost hosts run sound outermost (.inl (List.cons_ne_nil _ _)) (.inl rfl)
  refine ⟨last, .step opens ?_ reached, alike', ended⟩
  simp only [ahead, Reader.inside, List.length_append, List.length_cons]
  omega

end LineGrammar.Pattern
