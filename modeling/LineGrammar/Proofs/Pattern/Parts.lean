import LineGrammar.Proofs.Pattern.Agreement

/-!
# The parts of a reader agree

One lemma for each function of the reader, from escapes up to an item: `Agree` if it keeps alike two
readers of one text, and `Steady` where the text is spoiled and no more can be said. Each of them
follows its function from top to bottom, so a change to the function touches its own lemma.

Four kinds of functions do not go along the text alone. The counts of a repetition go back when the
brace stands for itself; they are first brought into a form without the way back (`counts?_eq`). A
reference looks for a group, of which the text has none. A group that captures and a condition spoil the
text, so there the second reader may do what it likes. And a parenthesis may turn switches on for the
whole, which no context allows; what contains one agrees unless it does (`AgreeUnless`).
-/

namespace LineGrammar.Pattern

open LineGrammar.Text

variable {α β : Type} {base : Switches} {leading : List (Node × Standing)} {context : Reader}
  {tail : List Symbol}

namespace Reading

/-! ## Escapes -/

/-- A name ends with its terminator, so it ends within the text or is refused. -/
theorem Agree.takeName {terminator : Char} {what : String} :
    Agree base leading context tail (takeName terminator what) (takeName terminator what) := by
  refine .takeThrough (fun run => ?_) fun run => ?_
  · split
    · exact (Refuses.fail _ _).bind _
    · exact (Refuses.fail _ _).bind _
  · dsimp only
    split
    · exact .refused ((Refuses.fail _ _).bind _)
    · exact .pure _

/-- No edge is a hexadecimal digit. -/
theorem Agree.hexadecimalEscape (letter : Char) (width : Nat) :
    Agree base leading context tail (hexadecimalEscape letter width) (hexadecimalEscape letter width) := by
  refine .bind (.takeUpTo _ (by decide)) fun run => ?_
  dsimp only
  split
  · exact .refused ((Refuses.fail _ _).bind _)
  · split
    · exact .refused ((Refuses.fail _ _).bind _)
    · exact .pure _

/-- The name of a character stands between braces, which are no edges. -/
theorem Agree.namedEscape : Agree base leading context tail namedEscape namedEscape := by
  refine .bind (.accept (by decide)) fun found => ?_
  dsimp only
  split
  · exact .refused ((Refuses.fail _ _).bind _)
  · refine .bind .takeName fun name => ?_
    split
    · exact .pure _
    · exact .refused (Refuses.fail _ _)

/-- The escapes that sets share with other places agree, one letter after the other. -/
theorem Agree.commonEscape? (c : Char) :
    Agree base leading context tail (commonEscape? c) (commonEscape? c) := by
  unfold Reading.commonEscape?
  split
  · exact (Agree.hexadecimalEscape _ _).map _
  · exact (Agree.hexadecimalEscape _ _).map _
  · exact (Agree.hexadecimalEscape _ _).map _
  · exact Agree.namedEscape.map _
  · exact .pure _

/-- Escapes in sets agree. -/
theorem Agree.setEscape (c : Char) : Agree base leading context tail (setEscape c) (setEscape c) := by
  unfold Reading.setEscape
  split
  · exact .pure _
  · cases controlEscape? c with
    | some code => exact .pure _
    | none =>
      cases categoryEscape? c with
      | some item => exact .pure _
      | none =>
        refine .bind (.commonEscape? c) fun code => ?_
        cases code with
        | some code => exact .pure _
        | none =>
          dsimp only
          split
          · refine .bind (.takeUpTo _ (by decide)) fun run => ?_
            split
            · exact .refused ((Refuses.fail _ _).bind _)
            · exact .pure _
          · split
            · exact .refused ((Refuses.fail _ _).bind _)
            · exact .pure _

/-- To check a reference against the look-behinds around it only goes on. -/
theorem Steady.checkLookBehind (index : Nat) : Steady (checkLookBehind index) := by
  intro first u last taken
  rw [Reading.checkLookBehind, get_bind] at taken
  have unchanged : ∀ part : Reading Unit, part = Pure.pure () ∨ Refuses part →
      part first = .ok (u, last) → last = first := by
    rintro part (rfl | refuses) taken
    · cases taken
      rfl
    · exact absurd taken (refuses _ _)
  rw [unchanged _ ?_ taken]
  · exact .refl first
  · cases first.lookBehindLimit with
    | none => exact .inl rfl
    | some limit =>
      dsimp only
      split
      · exact .inr ((Refuses.fail _ _).bind _)
      · split
        · exact .inr (Refuses.fail _ _)
        · exact .inl rfl

/-- A reference by number only goes on. -/
theorem Steady.numberedReference (c : Char) (digits : List Char) :
    Steady (numberedReference c digits) := by
  intro first node last taken
  rw [Reading.numberedReference, get_bind] at taken
  split at taken
  · exact absurd taken ((Refuses.fail _ _).bind _ _ _)
  · cases known : first.widths.lookup (valueInBase 10 (c :: digits)) with
    | none =>
      simp only [known] at taken
      exact absurd taken (Refuses.fail _ _ _ _)
    | some width =>
      simp only [known] at taken
      exact (Steady.checkLookBehind _).bind (fun _ => .pure _) _ _ _ taken

/-- A text without groups has no group to refer to. -/
theorem Agree.numberedReference (c : Char) (digits : List Char) :
    Agree base leading context tail (numberedReference c digits) (numberedReference c digits) where
  steady := .numberedReference c digits
  follows alike taken := by
    obtain ⟨position, position', behind, levels⟩ := alike
    rw [Reading.numberedReference, get_bind] at taken
    dsimp only [List.lookup_nil] at taken
    split at taken
    · exact absurd taken ((Refuses.fail _ _).bind _ _ _)
    · exact absurd taken (Refuses.fail _ _ _ _)

/-- An escape of digits agrees, as a reference among them finds no group in the text. -/
theorem Agree.digitEscape (c : Char) : Agree base leading context tail (digitEscape c) (digitEscape c) := by
  refine .bind (.takeUpTo _ (by decide)) fun run => ?_
  split
  · split
    · refine .bind (.takeUpTo _ (by decide)) fun run => ?_
      split
      · dsimp only
        split
        · exact .refused ((Refuses.fail _ _).bind _)
        · exact .pure _
      · exact .numberedReference _ _
    · exact .numberedReference _ _
  · exact .numberedReference _ _

/-- Escapes agree. -/
theorem Agree.escape (c : Char) : Agree base leading context tail (escape c) (escape c) := by
  unfold Reading.escape
  cases anchorEscape? c with
  | some anchor => exact .pure _
  | none =>
    cases categoryEscape? c with
    | some item => exact .pure _
    | none =>
      cases controlEscape? c with
      | some code => exact .pure _
      | none =>
        refine .bind (.commonEscape? c) fun code => ?_
        cases code with
        | some code => exact .pure _
        | none =>
          dsimp only
          split
          · exact .bind (.takeUpTo _ (by decide)) fun run => .pure _
          · split
            · exact .bind (.digitEscape c) fun node => .pure _
            · split
              · exact .refused ((Refuses.fail _ _).bind _)
              · exact .pure _

/-- What an escape stands for captures nothing, also where it refers to a group. -/
theorem escape_yields (c : Char) : Yields (escape c) fun read => read.1.captures = 0 := by
  have numbered (digits : List Char) :
      Yields (numberedReference c digits) fun node => node.captures = 0 := by
    refine .bind fun reader => ?_
    dsimp only
    split
    · exact .refused ((Refuses.fail _ _).bind _)
    · cases reader.widths.lookup (valueInBase 10 (c :: digits)) with
      | none => exact .refused (Refuses.fail _ _)
      | some width => exact .bind fun _ => .pure rfl
  have digits : Yields (digitEscape c) fun node => node.captures = 0 := by
    refine .bind fun run => ?_
    split
    · split
      · refine .bind fun run => ?_
        split
        · dsimp only
          split
          · exact .refused ((Refuses.fail _ _).bind _)
          · exact .pure rfl
        · exact numbered _
      · exact numbered _
    · exact numbered _
  unfold Reading.escape
  cases anchorEscape? c with
  | some anchor => exact .pure rfl
  | none =>
    cases categoryEscape? c with
    | some item => exact .pure rfl
    | none =>
      cases controlEscape? c with
      | some code => exact .pure rfl
      | none =>
        refine .bind fun code => ?_
        cases code with
        | some code => exact .pure rfl
        | none =>
          dsimp only
          split
          · exact .bind fun run => .pure rfl
          · split
            · intro first read last taken
              obtain ⟨node, middle, here, rest⟩ := bind_eq_ok.mp taken
              cases rest
              exact digits _ _ _ here
            · split
              · exact .refused ((Refuses.fail _ _).bind _)
              · exact .pure rfl

/-! ## Sets -/

/-- Members of sets agree. -/
theorem Agree.setMember (symbol : Symbol) :
    Agree base leading context tail (setMember symbol) (setMember symbol) := by
  cases symbol with
  | plain c => exact .pure _
  | escaped c => exact .setEscape c
  | dangling => exact .pure _

/-- More steps than a set has members make no difference. -/
theorem Agree.setMembers (opening opening' : Nat) {steps steps' : Nat} (enough : steps ≤ steps')
    (members : List SetItem) :
    Agree base leading context tail (setMembers opening steps members)
      (setMembers opening' steps' members) := by
  induction steps generalizing steps' members with
  | zero => exact .refused (Refuses.failAt _ _)
  | succ steps ih =>
    obtain ⟨steps', rfl⟩ := Nat.exists_eq_add_of_le' (Nat.le_trans (Nat.le_add_left 1 steps) enough)
    have fewer : steps ≤ steps' := Nat.le_of_succ_le_succ enough
    refine .take (Refuses.failAt _ _) fun symbol => ?_
    dsimp only
    split
    · exact .pure _
    · refine .bind (.setMember symbol) fun low => .bind (.accept (by decide)) fun ranged => ?_
      split
      · refine .take (Refuses.failAt _ _) fun last => ?_
        split
        · exact .refused (Refuses.failAt _ _)
        · exact .pure _
        · refine .bind (.setMember _) fun high => ?_
          split
          · split
            · exact .refused ((Refuses.fail _ _).bind _)
            · exact ih fewer _
          · exact .refused (Refuses.fail _ _)
      · exact ih fewer _

/-- Sets agree: what ends a set is no edge. -/
theorem Agree.set? (opening opening' : Nat) :
    Agree base leading context tail (set? opening) (set? opening') := by
  refine .bind (.accept (by decide)) fun negated => .get fun first inside resembles => ?_
  refine .bind (.setMembers _ _ (Nat.succ_le_succ resembles.room) _) fun found => ?_
  split <;> exact .pure _

/-- A set captures nothing. -/
theorem set?_yields (opening : Nat) : Yields (set? opening) fun node => node.captures = 0 := by
  refine .bind fun negated => .bind fun reader => .bind fun members => ?_
  split <;> exact .pure rfl

/-! ## Repetitions -/

/-- The bound that digits write does not depend on where they stand. -/
theorem Agree.bound (digits : List Char) :
    Agree base leading context tail (bound digits) (bound digits) := by
  unfold Reading.bound
  dsimp only
  split
  · exact .refused ((Refuses.throw _).bind _)
  · split
    · exact .refused ((Refuses.throw _).bind _)
    · exact .pure _

/-- The bounds of a counted repetition behind its closing brace, from the digits of both. -/
def countsOf (position : Nat) (low high : List Char) : Reading (Nat × Option Nat) := do
  let least ← if low.isEmpty then pure 0 else bound low
  let greatest ← if high.isEmpty then pure none else some <$> bound high
  if greatest.any (· < least) then failAt .leastAboveGreatest position
  return (least, greatest)

/-- What counts a repetition up to the closing brace, without the way back when the brace stands for
itself. -/
def countsAhead : Reading (Option (List Char × List Char)) := do
  if (← next?) = some (.plain '\x7d') then return none
  let low := Symbol.charsOf (← takeWhile (isPlain Char.isDigit))
  let high ←
    if ← accept ',' then Symbol.charsOf <$> takeWhile (isPlain Char.isDigit) else pure low
  if ← accept '\x7d' then return some (low, high) else return none

/-- What follows the digits of counts may be read first: whether the brace is closed decides about it at
once. -/
theorem counts_end (first : Reader) (low high : List Char) (closed : Bool) :
    (if (!closed) = true then do
        MonadState.set first
        return none
      else do
        let least ← if low.isEmpty then pure 0 else bound low
        if high.isEmpty then return some (least, none)
        let greatest ← bound high
        if greatest < least then failAt .leastAboveGreatest first.position
        return some (least, some greatest) : Reading (Option (Nat × Option Nat))) =
      (if closed = true then pure (some (low, high)) else pure none) >>= fun
      | none => do
        MonadState.set first
        return none
      | some (low, high) => some <$> countsOf first.position low high := by
  cases closed with
  | false => rfl
  | true =>
    cases high with
    | nil => cases low <;> simp [countsOf]
    | cons digit digits =>
      have compared (least : Nat) :
          (do
            let greatest ← bound (digit :: digits)
            if greatest < least then failAt .leastAboveGreatest first.position
            return some (least, some greatest) : Reading (Option (Nat × Option Nat))) =
          some <$> (do
            let greatest ← some <$> bound (digit :: digits)
            if greatest.any (· < least) then failAt .leastAboveGreatest first.position
            return (least, greatest)) := by
        simp only [map_bind, bind_map_left]
        refine congrArg _ (funext fun greatest => ?_)
        by_cases below : greatest < least <;> simp [below]
      cases low with
      | nil => exact compared 0
      | cons => exact (congrArg _ (funext compared)).trans (map_bind ..).symm

/-- A brace that stands for itself leads back to where the counts began. -/
theorem counts?_eq (first : Reader) :
    counts? first = (countsAhead >>= fun
      | none => do
        MonadState.set first
        return none
      | some (low, high) => some <$> countsOf first.position low high) first := by
  rw [counts?, countsAhead, get_bind, bind_assoc, next?_bind, next?_bind]
  by_cases self : first.rest.head? = some (.plain '\x7d')
  · rw [if_pos self, if_pos self]
    rfl
  · rw [if_neg self, if_neg self]
    refine congrFun (a := first) ?_
    simp only [bind_assoc]
    refine congrArg _ (funext fun low => congrArg _ (funext fun comma => ?_))
    split
    · simp only [bind_assoc]
      refine congrArg _ (funext fun high => congrArg _ (funext fun closed => ?_))
      exact counts_end _ _ _ _
    · simp only [bind_assoc]
      refine congrArg _ (funext fun high => congrArg _ (funext fun closed => ?_))
      exact counts_end _ _ _ _

/-- The counts that digits write agree, wherever a fault is noted. -/
theorem Agree.countsOf (position position' : Nat) (low high : List Char) :
    Agree base leading context tail (countsOf position low high) (countsOf position' low high) := by
  have compared : ∀ (least : Nat) (greatest : Option Nat), Agree base leading context tail
      (do
        if greatest.any (· < least) then Reading.failAt .leastAboveGreatest position
        return (least, greatest))
      (do
        if greatest.any (· < least) then Reading.failAt .leastAboveGreatest position'
        return (least, greatest)) := by
    intro least greatest
    dsimp only
    split
    · exact .refused ((Refuses.failAt _ _).bind _)
    · exact .pure _
  unfold Reading.countsOf
  dsimp only
  split
  · refine .bind (.pure _) fun least => ?_
    split
    · exact .bind (.pure _) fun greatest => compared least greatest
    · exact .bind ((Agree.bound high).map _) fun greatest => compared least greatest
  · refine .bind (.bound low) fun least => ?_
    split
    · exact .bind (.pure _) fun greatest => compared least greatest
    · exact .bind ((Agree.bound high).map _) fun greatest => compared least greatest

/-- To look whether counts are ahead agrees, as no edge is a digit, a comma or a brace. -/
theorem Agree.countsAhead : Agree base leading context tail countsAhead countsAhead := by
  refine .peek (by decide) (.pure _) (.bind (.takeWhile (by decide)) fun low => ?_)
  refine .bind (.accept (by decide)) fun comma => ?_
  split
  · refine .bind ((Agree.takeWhile (by decide)).map _) fun high => ?_
    refine .bind (.accept (by decide)) fun found => ?_
    split <;> exact .pure _
  · refine .bind (.pure _) fun high => .bind (.accept (by decide)) fun found => ?_
    split <;> exact .pure _

/-- A part of a reader changes nothing but its place in the pattern. -/
def Moves (part : Reading α) : Prop :=
  ∀ first a last, part first = .ok (a, last) → ∃ position rest, last = first.moved position rest

namespace Moves

/-- A given value changes nothing. -/
theorem pure (a : α) : Moves (pure a : Reading α) := by
  intro first b last taken
  cases taken
  exact ⟨_, _, rfl⟩

/-- Two parts that change the place alone do so after one another. -/
theorem bind {one : Reading α} {next : α → Reading β} (here : Moves one)
    (after : ∀ a, Moves (next a)) : Moves (one >>= next) := by
  intro first b last taken
  obtain ⟨a, middle, step, rest⟩ := bind_eq_ok.mp taken
  obtain ⟨position, symbols, rfl⟩ := here _ _ _ step
  obtain ⟨position', symbols', rfl⟩ := after a _ _ _ rest
  exact ⟨position', symbols', rfl⟩

/-- A part that changes the place alone does so when its result is changed. -/
theorem map {one : Reading α} (f : α → β) (here : Moves one) : Moves (f <$> one) := by
  simpa only [map_eq_pure_bind] using here.bind fun a => .pure (f a)

/-- To look at the next symbol changes nothing. -/
theorem next? : Moves next? := by
  intro first found last taken
  cases taken
  exact ⟨_, _, rfl⟩

/-- To take a run changes the place alone. -/
theorem takeWhile (wanted : Symbol → Bool) : Moves (takeWhile wanted) := by
  intro first run last taken
  exact ⟨_, _, (advance_eq_ok.mp (takeWhile_eq_ok.mp taken).2).2⟩

/-- To accept a character changes the place alone. -/
theorem accept (c : Char) : Moves (accept c) := by
  intro first found last taken
  rw [accept_eq_ok] at taken
  split at taken
  · exact ⟨_, _, (advance_eq_ok.mp taken.2).2⟩
  · exact ⟨_, _, taken.2⟩

/-- To look whether counts are ahead changes the place alone. -/
theorem countsAhead : Moves countsAhead := by
  refine .bind .next? fun found => ?_
  dsimp only
  split
  · exact .pure _
  · refine .bind (.takeWhile _) fun low => .bind (.accept _) fun comma => ?_
    split
    · refine .bind ((takeWhile _).map _) fun high => .bind (.accept _) fun closed => ?_
      split <;> exact .pure _
    · refine .bind (.pure _) fun high => .bind (.accept _) fun closed => ?_
      split <;> exact .pure _

end Moves

/-- Counts agree. When there are none, both readers go back to where they were alike. -/
theorem Agree.counts? : Agree base leading context tail counts? counts? where
  steady first found last taken := by
    rw [counts?_eq] at taken
    obtain ⟨counts, middle, here, rest⟩ := bind_eq_ok.mp taken
    cases counts with
    | none =>
      cases rest
      exact .refl first
    | some counts =>
      have ahead : Steady Reading.countsAhead := .of_agree .countsAhead
      have counted : Steady (some <$> Reading.countsOf first.position counts.1 counts.2) :=
        .of_agree (.map some (.countsOf ..))
      exact (ahead _ _ _ here).trans (counted _ _ _ rest)
  follows := by
    intro first inside last found alike taken
    rw [counts?_eq] at taken
    obtain ⟨counts, middle, here, rest⟩ := bind_eq_ok.mp taken
    simp only [counts?_eq inside, bind_eq_ok]
    have ahead : Agree base leading context tail Reading.countsAhead Reading.countsAhead := .countsAhead
    cases counts with
    | none =>
      cases rest
      rcases ahead.follows alike here with spoiled | ⟨middle', here', alike'⟩
      · obtain ⟨position, symbols, rfl⟩ := Moves.countsAhead _ _ _ here
        exact absurd spoiled alike.sound
      · exact .inr ⟨inside, ⟨none, middle', here', rfl⟩, alike⟩
    | some counts =>
      have counted : Agree base leading context tail (Reading.countsOf first.position counts.1 counts.2)
        (Reading.countsOf inside.position counts.1 counts.2) := .countsOf ..
      have counted := counted.map some
      rcases ahead.follows alike here with spoiled | ⟨middle', here', alike'⟩
      · exact .inl ((counted.steady _ _ _ rest).spoiled spoiled)
      · rcases counted.follows alike' rest with spoiled | ⟨inside', rest', alike''⟩
        · exact .inl spoiled
        · exact .inr ⟨inside', ⟨_, middle', here', rest'⟩, alike''⟩

/-- The sign for greed agrees, as it is no edge. -/
theorem Agree.greed : Agree base leading context tail greed greed := by
  refine .bind (.accept (by decide)) fun lazy => ?_
  split
  · exact .pure _
  · refine .bind (.accept (by decide)) fun possessive => ?_
    split <;> exact .pure _

/-- Both readers put an item that captures nothing at the end of their branch. -/
theorem Agree.push {node : Node} (captures : node.captures = 0) (standing : Standing) :
    Agree base leading context tail (push node standing) (push node standing) where
  steady := .push node standing
  follows alike taken := by
    cases taken
    obtain ⟨levels, apart⟩ := alike.levels.pushed (node, standing)
    exact .inr ⟨_, rfl, alike.withLevels levels apart fun unled =>
      (alike.captureless unled _ List.mem_cons_self).push captures standing⟩

/-- The sign for greed changes the place alone. -/
theorem Moves.greed : Moves greed := by
  refine .bind (.accept _) fun lazy => ?_
  split
  · exact .pure _
  · refine .bind (.accept _) fun possessive => ?_
    split <;> exact .pure _

/-- What a repetition makes of the last item when there is one that can be repeated. -/
theorem repeatLast_eq_ok {least : Nat} {greatest : Option Nat} {position : Nat} {first last : Reader}
    {u : Unit} :
    repeatLast least greatest position first = .ok (u, last) ↔
      ∃ node items, first.level.items = (node, .operand) :: items ∧ ∃ greed middle,
        Reading.greed first = .ok (greed, middle) ∧
          last = { middle with level := { middle.level with
            items := (.repetition greed least greatest node, .repetition) :: items } } := by
  rw [repeatLast, get_bind]
  constructor
  · intro taken
    rcases same : first.level.items with _ | ⟨⟨node, standing⟩, items⟩
    · rw [same] at taken
      exact absurd taken (Refuses.failAt _ _ _ _)
    · rw [same] at taken
      cases standing with
      | position => exact absurd taken (Refuses.failAt _ _ _ _)
      | repetition => exact absurd taken (Refuses.failAt _ _ _ _)
      | operand =>
        obtain ⟨greed, middle, chosen, changed⟩ := bind_eq_ok.mp taken
        cases changed
        exact ⟨node, items, rfl, greed, middle, chosen, rfl⟩
  · rintro ⟨node, items, same, greed, middle, chosen, rfl⟩
    rw [same]
    exact bind_eq_ok.mpr ⟨greed, middle, chosen, rfl⟩

/-- An item that the first reader can repeat is one of the text, so the second one repeats it as
well, whatever stands before it. -/
theorem Agree.repeatLast (least : Nat) (greatest : Option Nat) (position position' : Nat) :
    Agree base leading context tail (repeatLast least greatest position)
      (repeatLast least greatest position') where
  steady first u last taken := by
    obtain ⟨node, items, -, greed, middle, chosen, rfl⟩ := repeatLast_eq_ok.mp taken
    have later := Steady.of_agree .greed _ _ _ chosen
    exact ⟨later.shorter, later.spoiled, later.turned, later.sound⟩
  follows alike taken := by
    obtain ⟨node, items, same, greed, middle, chosen, rfl⟩ := repeatLast_eq_ok.mp taken
    rcases Agree.greed.follows alike chosen with spoiled | ⟨inside, chosen', alike'⟩
    · exact .inl spoiled
    · obtain ⟨place, rest, rfl⟩ := Moves.greed _ _ _ chosen
      obtain ⟨place', rest', rfl⟩ := Moves.greed _ _ _ chosen'
      obtain ⟨items', same', levels⟩ := alike.levels.renewed alike.apart same
        (.repetition greed least greatest node, .repetition)
      have apart := alike.apart
      rw [Level.Apart, same] at apart
      refine .inr ⟨_, repeatLast_eq_ok.mpr ⟨node, items', same', greed, _, chosen', rfl⟩,
        alike'.withLevels levels apart fun unled => ?_⟩
      obtain ⟨branches, each⟩ := alike.captureless unled _ List.mem_cons_self
      rw [same, List.forall_mem_cons] at each
      exact ⟨branches, List.forall_mem_cons.mpr each⟩

/-! ## Groups -/

/-- To open a level only goes on. -/
theorem Steady.openLevel (bracket : Bracket) (opening : Nat) (verbose : Bool) :
    Steady (openLevel bracket opening verbose) := by
  intro first u last taken
  cases taken
  exact ⟨Nat.le_refl _, id, id, fun head => ⟨head, id⟩⟩

/-- Levels that both readers open are nested in those before. -/
theorem Agree.openLevel {bracket : Bracket} (opening opening' : Nat) (verbose : Bool)
    (same : ∀ limit limit', Bracket.Matches context.opened limit limit' limit limit' bracket bracket) :
    Agree base leading context tail (openLevel bracket opening verbose)
      (openLevel bracket opening' verbose) where
  steady := .openLevel bracket opening verbose
  follows alike taken := by
    cases taken
    obtain ⟨position, position', behind, levels, -, captureless⟩ := alike
    exact .inr ⟨_, rfl, .intro _ _ behind (.inner levels (same _ _)) (.inr (.inl (by simp)))
      fun unled => List.forall_mem_cons.mpr ⟨.fresh, captureless unled⟩⟩

/-- To open a look-behind sets the limit for references where none is set, and opens a level that knows of
it. -/
theorem openLookBehind_eq (negated : Bool) (opening : Nat) (verbose : Bool) (reader : Reader) :
    openLookBehind negated opening verbose reader = .ok ((), { reader with
      lookBehindLimit := reader.lookBehindLimit.or (some (reader.opened + 1))
      level := ⟨.lookBehind negated reader.lookBehindLimit.isNone, opening, verbose, [], []⟩
      outer := reader.level :: reader.outer }) := by
  obtain ⟨position, rest, switches, opened, widths, names, limit, awaited, level, outer⟩ := reader
  cases limit <;> rfl

/-- Look-behinds agree, with limits of their own in both readers. -/
theorem Agree.openLookBehind (negated : Bool) (opening opening' : Nat) (verbose : Bool) :
    Agree base leading context tail (openLookBehind negated opening verbose)
      (openLookBehind negated opening' verbose) where
  steady first u last taken := by
    rw [openLookBehind_eq] at taken
    cases taken
    exact ⟨Nat.le_refl _, id, id, fun head => ⟨head, id⟩⟩
  follows alike taken := by
    rw [openLookBehind_eq] at taken
    cases taken
    obtain ⟨position, position', behind, levels, -, captureless⟩ := alike
    exact .inr ⟨_, openLookBehind_eq .., .intro _ _ behind (.inner levels (.lookBehind negated))
      (.inr (.inl (by simp))) fun unled => List.forall_mem_cons.mpr ⟨.fresh, captureless unled⟩⟩

/-- A comment ends with a parenthesis, so it ends within the text or is refused. -/
theorem Agree.comment (opening opening' : Nat) :
    Agree base leading context tail (comment opening) (comment opening') := by
  have through : ∀ opening, Reading.comment opening = (do
      let _run ← Reading.takeWhile (· != .plain ')')
      let found ← Reading.next?
      if found.isNone = true then
        (Reading.failAt .unterminatedComment opening : Reading Unit) >>= fun _ => advance 1
      else advance 1 >>= fun _ => Pure.pure ()) := by
    intro opening
    rw [Reading.comment, discard_bind]
    simp only [bind_pure_unit]
  rw [through, through]
  exact .takeThrough (fun _ => (Refuses.failAt _ _).bind _) fun _ => .pure _

/-- To check the name of a group only goes on. -/
theorem Steady.checkGroupName (name : String) : Steady (checkGroupName name) := by
  unfold Reading.checkGroupName
  split
  · exact .refused (Refuses.fail _ _)
  · exact .pure _

/-- Names of groups are checked alike. -/
theorem Agree.checkGroupName (name : String) :
    Agree base leading context tail (checkGroupName name) (checkGroupName name) := by
  unfold Reading.checkGroupName
  split
  · exact .refused (Refuses.fail _ _)
  · exact .pure _

/-- A capturing group spoils the text. -/
theorem openCapture_spoils {name : Option String} {opening : Nat} {verbose : Bool} {first last : Reader}
    {u : Unit} (taken : openCapture name opening verbose first = .ok (u, last)) :
    last.Spoiled ∧ last.rest = first.rest ∧ last.switches = first.switches := by
  rw [openCapture, get_bind] at taken
  have opens : ∀ names, (do
      MonadState.set { first with opened := first.opened + 1, names }
      Reading.openLevel (.capture (first.opened + 1)) opening verbose) first = .ok (u, last) →
        last.Spoiled ∧ last.rest = first.rest ∧ last.switches = first.switches := by
    intro names taken
    cases taken
    exact ⟨.inl (Nat.succ_ne_zero _), rfl, rfl⟩
  cases name with
  | none => exact opens _ taken
  | some name =>
    cases known : first.names.lookup name with
    | none =>
      simp only [known] at taken
      exact opens _ taken
    | some earlier =>
      simp only [known] at taken
      exact absurd taken ((Refuses.fail _ _).bind _ _ _)

/-- To open a group that captures only goes on. -/
theorem Steady.openCapture (name : Option String) (opening : Nat) (verbose : Bool) :
    Steady (openCapture name opening verbose) := by
  intro first u last taken
  obtain ⟨spoiled, same, turned⟩ := openCapture_spoils taken
  exact ⟨same ▸ Nat.le_refl _, fun _ => spoiled, fun some => turned ▸ some, fun head => by
    rw [same]
    exact ⟨head, id⟩⟩

/-- A group that captures spoils the text, so it agrees with anything. -/
theorem Agree.openCapture (name : Option String) (opening : Nat) (verbose : Bool)
    (other : Reading Unit) : Agree base leading context tail (openCapture name opening verbose) other :=
  .spoils (.openCapture name opening verbose) fun _ taken => (openCapture_spoils taken).1

/-- A reference by name only goes on. -/
theorem Steady.namedReference (name : String) : Steady (namedReference name) := by
  refine (Steady.checkGroupName name).bind fun _ => ?_
  intro first node last taken
  rw [get_bind] at taken
  cases known : first.names.lookup name with
  | none =>
    simp only [known] at taken
    exact absurd taken (Refuses.fail _ _ _ _)
  | some index =>
    cases closed : first.widths.lookup index with
    | none =>
      simp only [known, closed] at taken
      exact absurd taken (Refuses.fail _ _ _ _)
    | some width =>
      simp only [known, closed] at taken
      exact (Steady.checkLookBehind _).bind (fun _ => .pure _) _ _ _ taken

/-- A reference by name captures nothing. -/
theorem namedReference_yields (name : String) :
    Yields (namedReference name) fun node => node.captures = 0 := by
  refine .bind fun _ => .bind fun reader => ?_
  cases reader.names.lookup name with
  | none => exact .refused (Refuses.fail _ _)
  | some index =>
    cases closed : reader.widths.lookup index with
    | none =>
      simp only [closed]
      exact .refused (Refuses.fail _ _)
    | some width =>
      simp only [closed]
      exact .bind fun _ => .pure rfl

/-- A text without groups has no name to refer to. -/
theorem Agree.namedReference (name : String) (other : Reading Node) :
    Agree base leading context tail (namedReference name) other where
  steady := .namedReference name
  follows alike taken := by
    obtain ⟨_, middle, here, rest⟩ := bind_eq_ok.mp taken
    obtain ⟨position, position', behind, levels⟩ := alike
    unfold Reading.checkGroupName at here
    split at here
    · exact absurd here (Refuses.fail _ _ _ _)
    · cases here
      exact absurd rest (Refuses.fail _ _ _ _)

/-- Waiting for a group spoils the text. -/
theorem Agree.conditionGroup (name : String) (other : Reading Nat) :
    Agree base leading context tail (conditionGroup name) other := by
  unfold Reading.conditionGroup
  dsimp only
  split
  · refine ⟨fun first index last taken => ?_, fun {first _ last index} alike taken => ?_⟩
    · rw [get_bind] at taken
      cases known : first.names.lookup name <;> simp only [known] at taken
      · exact absurd taken (Refuses.fail _ _ _ _)
      · cases taken
        exact .refl first
    · obtain ⟨position, position', behind, levels⟩ := alike
      exact absurd taken (Refuses.fail _ _ _ _)
  · split
    · exact .refused (Refuses.fail _ _)
    · rename_i index some _
      split
      · exact .refused ((Refuses.fail _ _).bind _)
      · refine ⟨fun first _ last taken => ?_, fun {first _ last _} alike taken => ?_⟩
        · cases taken
          dsimp only
          split
          · exact .refl first
          · refine ⟨Nat.le_refl _, ?_, id, fun head => ⟨head, id⟩⟩
            rintro (groups | ⟨entry, listed, ahead⟩)
            · exact .inl groups
            · exact .inr ⟨entry, List.mem_append_left _ listed, ahead⟩
        · obtain ⟨position, position', behind, levels⟩ := alike
          cases taken
          exact .inl (.inr ⟨_, List.mem_singleton_self _, Nat.pos_of_ne_zero some⟩)
    · exact .refused (Refuses.fail _ _)

/-! ## Switches -/

/-- A list of switches that are turned on goes from letter to letter up to the symbol that ends it, and
there is a switch in it. -/
theorem switchesOn_letters {steps : Nat} {symbol : Symbol} {on : Switches} {first last : Reader}
    {result : Symbol × Switches} (taken : switchesOn steps symbol on first = .ok (result, last)) :
    result.2 ≠ .none ∧ ∃ letters, first.rest = letters ++ result.1 :: last.rest ∧
      ∀ letter ∈ letters, isSwitch letter := by
  induction steps generalizing symbol on first with
  | zero => exact absurd taken (Refuses.fail _ _ _ _)
  | succ steps ih =>
    rw [Reading.switchesOn] at taken
    cases known : Switch.ofLetter? (symbol.chars.headD 'L') with
    | none =>
      simp only [known] at taken
      exact absurd taken (Refuses.fail _ _ _ _)
    | some switch =>
      simp only [known] at taken
      by_cases both : ((on.insert switch).ascii && (on.insert switch).unicode) = true
      · rw [if_pos both] at taken
        exact absurd taken ((Refuses.fail _ _).bind _ _ _)
      · rw [if_neg both] at taken
        obtain ⟨_, middle, here, rest⟩ := bind_eq_ok.mp taken
        obtain ⟨rfl, passed⟩ := take_eq_ok.mp here
        obtain ⟨-, rfl⟩ := advance_eq_ok.mp passed
        cases ahead : first.rest with
        | nil =>
          rw [ahead] at rest
          exact absurd rest (Refuses.fail _ _ _ _)
        | cons next others =>
          simp only [ahead, List.head?_cons] at rest
          split at rest
          · cases rest
            exact ⟨on.insert_ne_none _, [], by simp [Reader.moved], by simp⟩
          · split at rest
            · exact absurd rest ((Refuses.fail _ _).bind _ _ _)
            · rename_i letter
              obtain ⟨some, letters, same, each⟩ := ih rest
              refine ⟨some, next :: letters, ?_, List.forall_mem_cons.mpr ⟨by simpa using letter, each⟩⟩
              rw [List.cons_append, ← same]
              rfl

/-- The letters of switches that are turned on agree, when the second reader may take at least as many. -/
theorem Agree.switchesOn {steps steps' : Nat} (enough : steps ≤ steps') (symbol : Symbol)
    (on : Switches) :
    Agree base leading context tail (switchesOn steps symbol on) (switchesOn steps' symbol on) := by
  induction steps generalizing steps' symbol on with
  | zero => exact .refused (Refuses.fail _ _)
  | succ steps ih =>
    obtain ⟨steps', rfl⟩ := Nat.exists_eq_add_of_le' (Nat.le_trans (Nat.le_add_left 1 steps) enough)
    unfold Reading.switchesOn
    dsimp only
    split
    · exact .refused (Refuses.fail _ _)
    · split
      · exact .refused ((Refuses.fail _ _).bind _)
      · refine .take (Refuses.fail _ _) fun next => ?_
        dsimp only
        split
        · exact .pure _
        · split
          · exact .refused ((Refuses.fail _ _).bind _)
          · exact ih (Nat.le_of_succ_le_succ enough) _ _

/-- The letters of switches that are turned off agree, when the second reader may take at least as many. -/
theorem Agree.switchesOff {steps steps' : Nat} (enough : steps ≤ steps') (symbol : Symbol)
    (off : Switches) :
    Agree base leading context tail (switchesOff steps symbol off) (switchesOff steps' symbol off) := by
  induction steps generalizing steps' symbol off with
  | zero => exact .refused (Refuses.fail _ _)
  | succ steps ih =>
    obtain ⟨steps', rfl⟩ := Nat.exists_eq_add_of_le' (Nat.le_trans (Nat.le_add_left 1 steps) enough)
    unfold Reading.switchesOff
    dsimp only
    split
    · exact .refused (Refuses.fail _ _)
    · split
      · exact .refused ((Refuses.fail _ _).bind _)
      · refine .take (Refuses.fail _ _) fun next => ?_
        dsimp only
        split
        · exact .pure _
        · split
          · exact .refused ((Refuses.fail _ _).bind _)
          · exact ih (Nat.le_of_succ_le_succ enough) _ _

/-- The switches for a part of the pattern, from the symbol behind those that are turned on. -/
def scopedBehind (steps : Nat) (last : Symbol) (on : Switches) :
    Reading (Option (Switches × Switches)) := do
  if on.template then fail .globalSwitchOn 1
  let off ←
    if last = .plain '-' then
      match ← take? with
      | none => fail .missingSwitch 0
      | some symbol =>
        if !isSwitch symbol then fail (strangeSwitch .missingSwitch symbol) symbol.size
        switchesOff steps symbol .none
    else pure Switches.none
  if off.template then fail .globalSwitchOff 1
  if on.meets off then fail .switchOnAndOff 1
  return some (on, off)

/-- The switches that are turned on are for the whole when the parenthesis closes behind them. -/
theorem scopedSwitches?_eq (symbol : Symbol) :
    scopedSwitches? symbol = MonadState.get >>= fun reader =>
      (if symbol = .plain '-' then pure (symbol, Switches.none)
        else switchesOn (reader.rest.length + 1) symbol .none) >>= fun result =>
          if result.1 = .plain ')' then do
            modify fun reader => { reader with switches := reader.switches.union result.2 }
            return none
          else scopedBehind (reader.rest.length + 1) result.1 result.2 := by
  rw [scopedSwitches?]
  refine congrArg _ (funext fun reader => ?_)
  dsimp only
  split <;> rfl

/-- The switches of a part agree behind the letters that are turned on. -/
theorem Agree.scopedBehind {steps steps' : Nat} (enough : steps ≤ steps') (symbol : Symbol)
    (on : Switches) :
    Agree base leading context tail (scopedBehind steps symbol on) (scopedBehind steps' symbol on) := by
  have settled : ∀ off : Switches, Agree base leading context tail
      (do
        if off.template then Reading.fail .globalSwitchOff 1
        if on.meets off then Reading.fail .switchOnAndOff 1
        return some (on, off))
      (do
        if off.template then Reading.fail .globalSwitchOff 1
        if on.meets off then Reading.fail .switchOnAndOff 1
        return some (on, off)) := by
    intro off
    dsimp only
    split
    · exact .refused ((Refuses.fail _ _).bind _)
    · split
      · exact .refused ((Refuses.fail _ _).bind _)
      · exact .pure _
  unfold Reading.scopedBehind
  dsimp only
  split
  · exact .refused ((Refuses.fail _ _).bind _)
  · split
    · refine .take ((Refuses.fail _ _).bind _) fun symbol => ?_
      dsimp only
      split
      · exact .refused ((Refuses.fail _ _).bind _)
      · exact .bind (.switchesOff enough _ _) fun off => settled off
    · exact .bind (.pure _) fun off => settled off

/-- Switches for a part are given. -/
theorem scopedBehind_yields (steps : Nat) (symbol : Symbol) (on : Switches) :
    Yields (scopedBehind steps symbol on) fun result => result ≠ none := by
  have settled : ∀ off : Switches, Yields (do
      if off.template then Reading.fail .globalSwitchOff 1
      if on.meets off then Reading.fail .switchOnAndOff 1
      return some (on, off)) fun result => result ≠ none := by
    intro off
    dsimp only
    split
    · exact .refused ((Refuses.fail _ _).bind _)
    · split
      · exact .refused ((Refuses.fail _ _).bind _)
      · exact .pure (by simp)
  unfold Reading.scopedBehind
  dsimp only
  split
  · exact .refused ((Refuses.fail _ _).bind _)
  · split
    · refine .bind fun found => ?_
      split
      · exact .refused ((Refuses.fail _ _).bind _)
      · split
        · exact .refused ((Refuses.fail _ _).bind _)
        · exact .bind settled
    · exact .bind settled

/-- Behind the switches of a parenthesis, the parts agree when they do so behind switches for a part, and
when those for the whole are refused. -/
theorem Agree.scopedSwitches?_bind {next after : Option (Switches × Switches) → Reading β}
    (symbol : Symbol)
    (part : ∀ pair, Agree base leading context tail (next (some pair)) (after (some pair)))
    (whole : Refuses (next none)) :
    Agree base leading context tail (scopedSwitches? symbol >>= next)
      (scopedSwitches? symbol >>= after) := by
  rw [scopedSwitches?_eq, bind_assoc, bind_assoc]
  refine .get fun first inside resembles => ?_
  have enough := Nat.succ_le_succ resembles.room
  rw [bind_assoc, bind_assoc]
  have on : Agree base leading context tail
      (if symbol = .plain '-' then Pure.pure (symbol, Switches.none)
        else Reading.switchesOn (first.rest.length + 1) symbol .none)
      (if symbol = .plain '-' then Pure.pure (symbol, Switches.none)
        else Reading.switchesOn (inside.rest.length + 1) symbol .none) := by
    split
    · exact .pure _
    · exact .switchesOn enough _ _
  refine .bind on fun result => ?_
  split
  · refine .refused fun first result taken => ?_
    obtain ⟨_, middle, turned, rest⟩ := bind_eq_ok.mp taken
    cases turned
    exact whole _ _ rest
  · refine .bind_of (.scopedBehind enough _ _) (scopedBehind_yields _ _ _) fun found some => ?_
    obtain ⟨pair, rfl⟩ := Option.ne_none_iff_exists'.mp some
    exact part pair

/-- Switches are turned on for the whole where nothing but their letters stands up to the closing
parenthesis. -/
theorem scopedSwitches?_none {symbol : Symbol} {first last : Reader}
    (taken : scopedSwitches? symbol first = .ok (none, last)) :
    symbol ≠ .plain '-' ∧ last.switches ≠ .none ∧
      ∃ letters, first.rest = letters ++ .plain ')' :: last.rest ∧
        ∀ letter ∈ letters, isSwitch letter := by
  rw [scopedSwitches?_eq, get_bind] at taken
  obtain ⟨⟨closing, on⟩, middle, here, rest⟩ := bind_eq_ok.mp taken
  by_cases closes : closing = .plain ')'
  · subst closes
    cases rest
    split at here
    · rename_i minus
      subst minus
      cases here
    · rename_i letter
      obtain ⟨some, letters, ahead, each⟩ := switchesOn_letters here
      exact ⟨letter, fun nothing => some (Switches.union_eq_none nothing).2, letters, ahead, each⟩
  · rw [if_neg closes] at rest
    exact absurd rfl (scopedBehind_yields _ _ _ _ _ _ rest)

/-- To read the switches of a group only goes on. -/
theorem Steady.scopedSwitches? (symbol : Symbol) : Steady (scopedSwitches? symbol) := by
  rw [scopedSwitches?_eq]
  refine .get fun reader => .bind (.choose (.pure _) ?_) fun result => .choose ?_ ?_
  · exact .of_agree (.switchesOn (Nat.le_refl _) _ _)
  · intro first found last taken
    cases taken
    exact ⟨Nat.le_refl _, id, fun some nothing => some (Switches.union_eq_none nothing).1,
      fun head => ⟨head, id⟩⟩
  · exact .of_agree (.scopedBehind (Nat.le_refl _) _ _)

/-- Behind the switches of a parenthesis, the parts agree when they do so behind switches for a part.
Those for the whole may be turned on if nothing leads the text. -/
theorem AgreeUnless.scopedSwitches?_bind {next after : Option (Switches × Switches) → Reading β}
    {symbol : Symbol} (switch : symbol = .plain '-' ∨ isSwitch symbol)
    (part : ∀ pair, Agree base leading context tail (next (some pair)) (after (some pair)))
    (whole : Steady (next none)) (led : leading ≠ [] → Refuses (next none)) :
    AgreeUnless base leading context tail ([.plain '(', .plain '?'] ++ [symbol])
      (scopedSwitches? symbol >>= next) (scopedSwitches? symbol >>= after) := by
  -- With the switches for the whole refused, the parts agree.
  have agree : Agree base leading context tail
      (scopedSwitches? symbol >>= fun
        | none => Reading.fail .missingColon 0
        | some pair => next (some pair))
      (scopedSwitches? symbol >>= fun
        | none => Reading.fail .missingColon 0
        | some pair => after (some pair)) :=
    .scopedSwitches?_bind symbol part (Refuses.fail _ _)
  constructor
  · intro first b last taken
    obtain ⟨result, middle, here, rest⟩ := bind_eq_ok.mp taken
    cases result with
    | none => exact (Steady.scopedSwitches? symbol _ _ _ here).trans (whole _ _ _ rest)
    | some pair => exact agree.steady _ _ _ (bind_eq_ok.mpr ⟨_, middle, here, rest⟩)
  · intro first inside last b alike taken
    obtain ⟨result, middle, here, rest⟩ := bind_eq_ok.mp taken
    cases result with
    | none =>
      obtain ⟨letter, turned, letters, ahead, each⟩ := scopedSwitches?_none here
      by_cases unled : leading = []
      · refine .inr (.inl ⟨unled, ⟨symbol :: letters, middle.rest, by simp [ahead], by simp, ?_⟩,
          (whole _ _ _ rest).turned turned⟩)
        exact List.forall_mem_cons.mpr ⟨switch.resolve_left letter, each⟩
      · exact absurd rest (led unled _ _)
    | some pair =>
      rcases agree.follows alike (bind_eq_ok.mpr ⟨_, middle, here, rest⟩) with
        spoiled | ⟨inside', taken', alike'⟩
      · exact .inl spoiled
      · obtain ⟨result', middle', here', rest'⟩ := bind_eq_ok.mp taken'
        cases result' with
        | none => exact absurd rest' (Refuses.fail _ _ _ _)
        | some pair' => exact .inr (.inr ⟨inside', bind_eq_ok.mpr ⟨_, _, here', rest'⟩, alike'⟩)

/-- What follows a parenthesis with a question mark agrees, case by case, unless switches are turned on for
the whole. -/
theorem AgreeUnless.openExtension (opening opening' : Nat) :
    AgreeUnless base leading context tail [.plain '(', .plain '?'] (openExtension opening)
      (openExtension opening') := by
  refine .get fun leading first inside resembles begun => ?_
  dsimp only
  refine .take (Refuses.fail _ _) fun symbol => ?_
  rw [← resembles.verbose]
  split
  · exact Agree.unless (.refused (Refuses.fail _ _))
  · refine Agree.unless (.bind (.accept (by decide)) fun named => ?_)
    split
    · exact .bind .takeName fun name => .bind (.checkGroupName name) fun _ => .openCapture ..
    · refine .bind (.accept (by decide)) fun refers => ?_
      split
      · exact .bind .takeName fun name => .bind_of (.namedReference name _) (namedReference_yields name)
          fun node captures => .push captures _
      · refine .take (Refuses.fail _ _) fun symbol => ?_
        exact .refused (Refuses.fail _ _)
  · exact Agree.unless (.openLevel _ _ _ fun _ _ => .plain)
  · exact Agree.unless (.comment _ _)
  · exact Agree.unless (.openLevel _ _ _ fun _ _ => .lookAhead false)
  · exact Agree.unless (.openLevel _ _ _ fun _ _ => .lookAhead true)
  · refine Agree.unless (.take (Refuses.fail _ _) fun symbol => ?_)
    split
    · exact .refused (Refuses.fail _ _)
    · exact .openLookBehind ..
    · exact .openLookBehind ..
    · exact .refused (Refuses.fail _ _)
  · refine Agree.unless (.bind .takeName fun name => ?_)
    refine .spoiled_bind (.conditionGroup name (Reading.fail .badGroupNumber 0))
      (Refuses.fail _ _) fun index => ?_
    exact (Steady.checkLookBehind index).bind fun _ => .openLevel _ _ _
  · exact Agree.unless (.openLevel _ _ _ fun _ _ => .atomic)
  · cases ‹some symbol = some _›
    split
    · rename_i switch
      refine .scopedSwitches?_bind (by simpa using switch) (fun pair => ?_) ?_ ?_
      · exact .openLevel _ _ _ fun _ _ => .scoped _ _
      · exact .choose (.refused ((Refuses.failAt _ _).bind _)) (.modifyLevel _)
      · intro led
        dsimp only
        rw [if_pos]
        · exact (Refuses.failAt _ _).bind _
        · cases bracket : first.level.bracket with
          | whole => rcases begun led bracket with some | some <;> simp [some]
          | _ => rfl
    · exact Agree.unless (.refused (Refuses.fail _ _))

/-! ## Items -/

/-- Items agree, unless switches are turned on for the whole. -/
theorem AgreeUnless.item (position position' : Nat) (symbol : Symbol) :
    AgreeUnless base leading context tail [symbol] (item position symbol) (item position' symbol) := by
  unfold Reading.item
  split
  · exact Agree.unless (.bind_of (.escape _) (escape_yields _) fun read captures => .push captures _)
  · exact Agree.unless (.refused (Refuses.failAt _ _))
  · split
    · exact Agree.unless (.bind_of (.set? _ _) (set?_yields _) fun node captures => .push captures _)
    · exact Agree.unless (.repeatLast ..)
    · exact Agree.unless (.repeatLast ..)
    · exact Agree.unless (.repeatLast ..)
    · refine Agree.unless (.bind .counts? fun counts => ?_)
      split
      · exact .repeatLast ..
      · exact .push rfl _
    · exact Agree.unless (.push rfl _)
    · exact Agree.unless (.push rfl _)
    · exact Agree.unless (.push rfl _)
    · exact .accept (by decide) (.openExtension _ _) (.get fun first inside resembles => .openCapture ..)
    · exact Agree.unless (.push rfl _)

end Reading

end LineGrammar.Pattern
