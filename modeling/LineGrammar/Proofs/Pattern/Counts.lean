import LineGrammar.Proofs.Pattern.Standalone
import LineGrammar.Proofs.Tokens

/-!
# Counts that are too great

A repetition counts up to a limit. A text that writes a count beyond it between braces is refused, and
this refusal is of a kind of its own: it is no fault of the notation. No other text is refused so.

Almost every part of the reader is `Sparing`: it only goes on towards the end of the pattern, and it never
refuses a text for its counts. The one part that does stands behind an opening brace, and whatever it
complains about it has just read.
-/

namespace LineGrammar.Pattern

open LineGrammar.Text LineGrammar.Numeral

variable {α β : Type}

/-! ## Texts with such a count -/

namespace Reading

/-! ## Parts that say nothing about counts -/

/-- A sequence is refused by its first part or by its second. -/
theorem bind_eq_error {one : Reading α} {next : α → Reading β} {first : Reader} {refusal : Refusal} :
    (one >>= next) first = .error refusal ↔
      one first = .error refusal ∨
        ∃ a middle, one first = .ok (a, middle) ∧ next a middle = .error refusal := by
  change (one first >>= fun result => next result.1 result.2) = _ ↔ _
  cases one first with
  | error other => simp [bind, Except.bind]
  | ok result =>
    obtain ⟨a, middle⟩ := result
    simp [bind, Except.bind]

/-- A part of a reader only goes on: what is ahead of it afterwards ends what was ahead of it before. -/
def Onward (part : Reading α) : Prop :=
  ∀ first a last, part first = .ok (a, last) → last.rest <:+ first.rest

/-- A part of a reader always refuses, for a fault of the notation. -/
def Faults (part : Reading α) : Prop := ∀ first, ∃ found, part first = .error (.fault found)

/-- A part of a reader goes on and refuses no text for a count that is too great. -/
structure Sparing (part : Reading α) : Prop where
  onward : Onward part
  spares : ∀ first, part first ≠ .error .excessiveCount

/-- A fault at a position is a fault of the notation. -/
theorem Faults.failAt (cause : Cause) (position : Nat) :
    Faults (failAt cause position : Reading α) := fun _ => ⟨_, rfl⟩

/-- A fault here is a fault of the notation. -/
theorem Faults.fail (cause : Cause) (back : Nat) : Faults (fail cause back : Reading α) :=
  fun _ => ⟨_, rfl⟩

/-- After a fault nothing more is read. -/
theorem Faults.bind {one : Reading α} (faults : Faults one) (next : α → Reading β) :
    Faults (one >>= next) := by
  intro first
  obtain ⟨found, refused⟩ := faults first
  exact ⟨found, bind_eq_error.mpr (.inl refused)⟩

/-- A given value is answered where the reader stands. -/
theorem Onward.pure (a : α) : Onward (pure a : Reading α) := by
  intro first b last taken
  cases taken
  exact List.suffix_rfl

/-- A part that always refuses goes nowhere. -/
theorem Onward.refused {part : Reading α} (refuses : Refuses part) : Onward part :=
  fun _ _ _ taken => absurd taken (refuses _ _)

/-- Two parts that go on do so after one another. -/
theorem Onward.bind {one : Reading α} {next : α → Reading β} (here : Onward one)
    (after : ∀ a, Onward (next a)) : Onward (one >>= next) := by
  intro first b last taken
  obtain ⟨a, middle, step, rest⟩ := bind_eq_ok.mp taken
  exact (after a _ _ _ rest).trans (here _ _ _ step)

namespace Sparing

/-- A given value refuses nothing. -/
theorem pure (a : α) : Sparing (pure a : Reading α) where
  onward := .pure a
  spares first refused := by cases refused

/-- A part that refuses for a fault of the notation does not refuse for a count. -/
theorem faulty {part : Reading α} (faults : Faults part) : Sparing part where
  onward first a last taken := by
    obtain ⟨found, refused⟩ := faults first
    rw [taken] at refused
    cases refused
  spares first refused := by
    obtain ⟨found, same⟩ := faults first
    rw [refused] at same
    cases same

/-- Two sparing parts after one another are sparing. -/
theorem bind {one : Reading α} {next : α → Reading β} (here : Sparing one)
    (after : ∀ a, Sparing (next a)) : Sparing (one >>= next) where
  onward := here.onward.bind fun a => (after a).onward
  spares first refused := by
    rcases bind_eq_error.mp refused with early | ⟨a, middle, -, late⟩
    · exact here.spares _ early
    · exact (after a).spares _ late

/-- A sparing part is so when its result is changed. -/
theorem map {one : Reading α} (f : α → β) (here : Sparing one) : Sparing (f <$> one) := by
  simpa only [map_eq_pure_bind] using here.bind fun a => .pure (f a)

/-- A choice between sparing parts is sparing. -/
theorem choose {condition : Prop} [Decidable condition] {one other : Reading α} (yes : Sparing one)
    (no : Sparing other) : Sparing (if condition then one else other) := by
  split
  · exact yes
  · exact no

/-- One of two parts, and what comes behind both of them. -/
theorem choose_bind {condition : Prop} [Decidable condition] {one other : Reading α}
    {next : α → Reading β} (yes : Sparing one) (no : Sparing other) (after : ∀ a, Sparing (next a)) :
    Sparing (if condition then one >>= next else other >>= next) :=
  .choose (yes.bind after) (no.bind after)

/-- Looking at the state. -/
theorem get {next : Reader → Reading β} (after : ∀ reader, Sparing (next reader)) :
    Sparing (MonadState.get >>= next) where
  onward first a last taken := (after first).onward first a last taken
  spares first refused := (after first).spares first refused

/-- A change of the state that leaves what is ahead. -/
theorem modify {change : Reader → Reader} (same : ∀ reader, (change reader).rest = reader.rest) :
    Sparing (modify change : Reading Unit) where
  onward first u last taken := by
    cases taken
    exact same first ▸ List.suffix_rfl
  spares first refused := by cases refused

/-- To look at the next symbol is sparing. -/
theorem next : Sparing next? where
  onward first found last taken := by
    cases taken
    exact List.suffix_rfl
  spares first refused := by cases refused

/-- To advance is sparing. -/
theorem advance (count : Nat) : Sparing (advance count) where
  onward first u last taken := by
    obtain ⟨-, rfl⟩ := advance_eq_ok.mp taken
    exact List.drop_suffix count first.rest
  spares first refused := by
    rw [Reading.advance, get_bind] at refused
    split at refused
    · cases refused
    · cases refused

/-- To take a symbol is sparing. -/
theorem take : Sparing take? := next.bind fun _ => (advance 1).bind fun _ => .pure _

/-- To accept a character is sparing. -/
theorem accept (c : Char) : Sparing (accept c) :=
  next.bind fun _ => .choose ((advance 1).bind fun _ => .pure _) (.pure _)

/-- To take a run up to a length is sparing. -/
theorem takeUpTo (limit : Nat) (wanted : Symbol → Bool) : Sparing (takeUpTo limit wanted) :=
  .get fun _ => (advance _).bind fun _ => .pure _

/-- To take a run is sparing. -/
theorem takeWhile (wanted : Symbol → Bool) : Sparing (takeWhile wanted) :=
  .get fun _ => takeUpTo _ wanted

/-- To put an item into the open level is sparing. -/
theorem push (node : Node) (standing : Standing) : Sparing (push node standing) :=
  .modify fun _ => rfl

/-! ### Names and escapes -/

/-- Names up to a terminator are read sparingly. -/
theorem takeName (terminator : Char) (what : String) : Sparing (takeName terminator what) := by
  refine .bind (.takeWhile _) fun run => .bind .next fun found => ?_
  dsimp only
  split
  · split
    · exact .faulty ((Faults.fail _ _).bind _)
    · exact .faulty ((Faults.fail _ _).bind _)
  · refine (Sparing.advance 1).bind fun _ => ?_
    split
    · exact .faulty ((Faults.fail _ _).bind _)
    · exact .pure _

/-- Hexadecimal escapes are read sparingly. -/
theorem hexadecimalEscape (letter : Char) (width : Nat) : Sparing (hexadecimalEscape letter width) := by
  refine .bind (.takeUpTo _ _) fun run => ?_
  dsimp only
  split
  · exact .faulty ((Faults.fail _ _).bind _)
  · split
    · exact .faulty ((Faults.fail _ _).bind _)
    · exact .pure _

/-- Escapes of character names are read sparingly. -/
theorem namedEscape : Sparing namedEscape := by
  refine .bind (.accept _) fun found => ?_
  dsimp only
  split
  · exact .faulty ((Faults.fail _ _).bind _)
  · refine .bind (.takeName _ _) fun name => ?_
    split
    · exact .pure _
    · exact .faulty (Faults.fail _ _)

/-- Escapes that sets share with other places are read sparingly. -/
theorem commonEscape? (c : Char) : Sparing (commonEscape? c) := by
  unfold Reading.commonEscape?
  split
  · exact (hexadecimalEscape _ _).map _
  · exact (hexadecimalEscape _ _).map _
  · exact (hexadecimalEscape _ _).map _
  · exact namedEscape.map _
  · exact .pure _

/-- Escapes in sets are read sparingly. -/
theorem setEscape (c : Char) : Sparing (setEscape c) := by
  unfold Reading.setEscape
  split
  · exact .pure _
  · cases controlEscape? c with
    | some code => exact .pure _
    | none =>
      cases categoryEscape? c with
      | some item => exact .pure _
      | none =>
        refine .bind (.commonEscape? c) fun code => ?_
        cases code with
        | some code => exact .pure _
        | none =>
          dsimp only
          split
          · refine .bind (.takeUpTo _ _) fun run => ?_
            split
            · exact .faulty ((Faults.fail _ _).bind _)
            · exact .pure _
          · split
            · exact .faulty ((Faults.fail _ _).bind _)
            · exact .pure _

/-- References are checked sparingly against the look-behinds around them. -/
theorem checkLookBehind (index : Nat) : Sparing (checkLookBehind index) := by
  refine .get fun reader => ?_
  cases reader.lookBehindLimit with
  | none => exact .pure _
  | some limit =>
    dsimp only
    split
    · exact .faulty ((Faults.fail _ _).bind _)
    · exact .choose (.faulty (Faults.fail _ _)) (.pure _)

/-- A reference to a group that is closed. -/
theorem reference (index : Nat) (width : Option Width) {open_ : Reading Node} (faults : Faults open_) :
    Sparing (match width with
      | none => open_
      | some width => do
        Reading.checkLookBehind index
        return .reference index width) := by
  cases width with
  | none => exact .faulty faults
  | some width => exact (checkLookBehind index).bind fun _ => .pure _

/-- References by number are read sparingly. -/
theorem numberedReference (c : Char) (digits : List Char) : Sparing (numberedReference c digits) := by
  refine .get fun reader => ?_
  dsimp only
  split
  · exact .faulty ((Faults.fail _ _).bind _)
  · exact .reference _ _ (Faults.fail _ _)

/-- Escapes of digits are read sparingly. -/
theorem digitEscape (c : Char) : Sparing (digitEscape c) := by
  refine .bind (.takeUpTo _ _) fun run => ?_
  split
  · split
    · refine .bind (.takeUpTo _ _) fun run => ?_
      split
      · dsimp only
        split
        · exact .faulty ((Faults.fail _ _).bind _)
        · exact .pure _
      · exact .numberedReference _ _
    · exact .numberedReference _ _
  · exact .numberedReference _ _

/-- Escapes are read sparingly. -/
theorem escape (c : Char) : Sparing (escape c) := by
  unfold Reading.escape
  cases anchorEscape? c with
  | some anchor => exact .pure _
  | none =>
    cases categoryEscape? c with
    | some item => exact .pure _
    | none =>
      cases controlEscape? c with
      | some code => exact .pure _
      | none =>
        refine .bind (.commonEscape? c) fun code => ?_
        cases code with
        | some code => exact .pure _
        | none =>
          dsimp only
          split
          · exact .bind (.takeUpTo _ _) fun run => .pure _
          · split
            · exact .bind (.digitEscape c) fun node => .pure _
            · split
              · exact .faulty ((Faults.fail _ _).bind _)
              · exact .pure _

/-! ### Sets -/

/-- Members of sets are read sparingly. -/
theorem setMember (symbol : Symbol) : Sparing (setMember symbol) := by
  cases symbol with
  | plain c => exact .pure _
  | escaped c => exact .setEscape c
  | dangling => exact .pure _

/-- All members of a set are read sparingly. -/
theorem setMembers (opening steps : Nat) (members : List SetItem) :
    Sparing (setMembers opening steps members) := by
  induction steps generalizing members with
  | zero => exact .faulty (Faults.failAt _ _)
  | succ steps ih =>
    refine .bind .take fun symbol => ?_
    split
    · exact .faulty (Faults.failAt _ _)
    · dsimp only
      split
      · exact .pure _
      · refine .bind (.setMember _) fun low => .bind (.accept _) fun ranged => ?_
        split
        · refine .bind .take fun last => ?_
          split
          · exact .faulty (Faults.failAt _ _)
          · exact .pure _
          · refine .bind (.setMember _) fun high => ?_
            split
            · split
              · exact .faulty ((Faults.fail _ _).bind _)
              · exact ih _
            · exact .faulty (Faults.fail _ _)
        · exact ih _

/-- Sets are read sparingly. -/
theorem set? (opening : Nat) : Sparing (set? opening) := by
  refine .bind (.accept _) fun negated => .get fun reader => .bind (.setMembers _ _ _) fun found => ?_
  split <;> exact .pure _

/-! ### Repetitions -/

/-- The sign for greed behind a repetition is read sparingly. -/
theorem greed : Sparing greed := by
  refine .bind (.accept _) fun lazy => .choose (.pure _) ?_
  exact .bind (.accept _) fun possessive => .choose (.pure _) (.pure _)

/-- The last item is repeated sparingly, whatever the counts are. -/
theorem repeatLast (least : Nat) (greatest : Option Nat) (position : Nat) :
    Sparing (repeatLast least greatest position) := by
  refine .get fun reader => ?_
  split
  · exact .faulty (Faults.failAt _ _)
  · exact .faulty (Faults.failAt _ _)
  · exact .faulty (Faults.failAt _ _)
  · exact greed.bind fun greed => .modify fun _ => rfl

/-! ### Switches -/

/-- The letters of switches that are turned on are read sparingly. -/
theorem switchesOn (steps : Nat) (symbol : Symbol) (on : Switches) :
    Sparing (switchesOn steps symbol on) := by
  induction steps generalizing symbol on with
  | zero => exact .faulty (Faults.fail _ _)
  | succ steps ih =>
    unfold Reading.switchesOn
    dsimp only
    split
    · exact .faulty (Faults.fail _ _)
    · split
      · exact .faulty ((Faults.fail _ _).bind _)
      · refine .bind .take fun next => ?_
        split
        · exact .faulty (Faults.fail _ _)
        · split
          · exact .pure _
          · split
            · exact .faulty ((Faults.fail _ _).bind _)
            · exact ih _ _

/-- The letters of switches that are turned off are read sparingly. -/
theorem switchesOff (steps : Nat) (symbol : Symbol) (off : Switches) :
    Sparing (switchesOff steps symbol off) := by
  induction steps generalizing symbol off with
  | zero => exact .faulty (Faults.fail _ _)
  | succ steps ih =>
    unfold Reading.switchesOff
    dsimp only
    split
    · exact .faulty (Faults.fail _ _)
    · split
      · exact .faulty ((Faults.fail _ _).bind _)
      · refine .bind .take fun next => ?_
        split
        · exact .faulty (Faults.fail _ _)
        · split
          · exact .pure _
          · split
            · exact .faulty ((Faults.fail _ _).bind _)
            · exact ih _ _

/-- The switches of a group are read sparingly. -/
theorem scopedSwitches? (first : Symbol) : Sparing (scopedSwitches? first) := by
  have settled : ∀ on off : Switches, Sparing (do
      if off.template then Reading.fail .globalSwitchOff 1
      if on.meets off then Reading.fail .switchOnAndOff 1
      return some (on, off)) := by
    intro on off
    dsimp only
    split
    · exact .faulty ((Faults.fail _ _).bind _)
    · split
      · exact .faulty ((Faults.fail _ _).bind _)
      · exact .pure _
  refine .get fun reader => .choose_bind (.pure _) (.switchesOn _ _ _) fun result => ?_
  obtain ⟨last, on⟩ := result
  dsimp only
  split
  · exact .bind (.modify fun _ => rfl) fun _ => .pure _
  · split
    · exact .faulty ((Faults.fail _ _).bind _)
    · split
      · refine .bind .take fun symbol => ?_
        split
        · exact .faulty ((Faults.fail _ _).bind _)
        · split
          · exact .faulty ((Faults.fail _ _).bind _)
          · exact .bind (.switchesOff _ _ _) fun off => settled on off
      · exact .bind (.pure _) fun off => settled on off

/-! ### Groups -/

/-- To open a level is sparing. -/
theorem openLevel (bracket : Bracket) (opening : Nat) (verbose : Bool) :
    Sparing (openLevel bracket opening verbose) := .modify fun _ => rfl

/-- To open a look-behind is sparing. -/
theorem openLookBehind (negated : Bool) (opening : Nat) (verbose : Bool) :
    Sparing (openLookBehind negated opening verbose) where
  onward first u last taken := by
    rw [openLookBehind_eq] at taken
    cases taken
    exact List.suffix_rfl
  spares first refused := by
    rw [openLookBehind_eq] at refused
    cases refused

/-- To open a group that captures is sparing. -/
theorem openCapture (name : Option String) (opening : Nat) (verbose : Bool) :
    Sparing (openCapture name opening verbose) where
  onward first u last taken := (openCapture_spoils taken).2.1 ▸ List.suffix_rfl
  spares first refused := by
    rw [Reading.openCapture, get_bind] at refused
    cases name with
    | none => cases refused
    | some name =>
      cases known : first.names.lookup name with
      | none =>
        simp only [known] at refused
        cases refused
      | some earlier =>
        simp only [known] at refused
        cases refused

/-- Names of groups are checked sparingly. -/
theorem checkGroupName (name : String) : Sparing (checkGroupName name) :=
  .choose (.faulty (Faults.fail _ _)) (.pure _)

/-- References by name are read sparingly. -/
theorem namedReference (name : String) : Sparing (namedReference name) := by
  refine (checkGroupName name).bind fun _ => .get fun reader => ?_
  split
  · exact .faulty (Faults.fail _ _)
  · exact .reference _ _ (Faults.fail _ _)

/-- The group of a condition is found sparingly. -/
theorem conditionGroup (name : String) : Sparing (conditionGroup name) := by
  unfold Reading.conditionGroup
  dsimp only
  split
  · refine .get fun reader => ?_
    split
    · exact .faulty (Faults.fail _ _)
    · exact .pure _
  · split
    · exact .faulty (Faults.fail _ _)
    · split
      · exact .faulty ((Faults.fail _ _).bind _)
      · refine .bind (.modify fun reader => ?_) fun _ => .pure _
        split <;> rfl
    · exact .faulty (Faults.fail _ _)

/-- Comments are read sparingly. -/
theorem comment (opening : Nat) : Sparing (comment opening) := by
  unfold Reading.comment
  rw [discard_bind]
  refine .bind (.takeWhile _) fun run => .bind .next fun found => ?_
  dsimp only
  split
  · exact .faulty ((Faults.failAt _ _).bind _)
  · exact .advance 1

/-- What follows a parenthesis with a question mark is read sparingly. -/
theorem openExtension (opening : Nat) : Sparing (openExtension opening) := by
  refine .get fun reader => ?_
  dsimp only
  refine .bind .take fun symbol => ?_
  split
  · exact .faulty (Faults.fail _ _)
  · refine .bind (.accept _) fun named => ?_
    split
    · exact .bind (.takeName _ _) fun name => .bind (.checkGroupName name) fun _ => .openCapture _ _ _
    · refine .bind (.accept _) fun refers => ?_
      split
      · exact .bind (.takeName _ _) fun name => .bind (.namedReference name) fun node => .push _ _
      · refine .bind .take fun symbol => ?_
        split <;> exact .faulty (Faults.fail _ _)
  · exact .openLevel _ _ _
  · exact .comment _
  · exact .openLevel _ _ _
  · exact .openLevel _ _ _
  · refine .bind .take fun symbol => ?_
    split
    · exact .faulty (Faults.fail _ _)
    · exact .openLookBehind _ _ _
    · exact .openLookBehind _ _ _
    · exact .faulty (Faults.fail _ _)
  · refine .bind (.takeName _ _) fun name => .bind (.conditionGroup name) fun index => ?_
    exact .bind (.checkLookBehind index) fun _ => .openLevel _ _ _
  · exact .openLevel _ _ _
  · split
    · refine .bind (.scopedSwitches? _) fun switches => ?_
      split
      · exact .openLevel _ _ _
      · exact .choose (.faulty ((Faults.failAt _ _).bind _)) (.modify fun _ => rfl)
    · exact .faulty (Faults.fail _ _)

/-! ### Branches and the end -/

/-- To end a branch is sparing. -/
theorem endBranch : Sparing endBranch := by
  refine .get fun reader => ?_
  dsimp only
  split
  · exact (Sparing.advance 1).bind fun _ => .modify fun _ => rfl
  · exact .faulty (Faults.fail _ _)
  · exact (Sparing.advance 1).bind fun _ => .modify fun _ => rfl
  · exact (Sparing.advance 1).bind fun _ => .modify fun _ => rfl

/-- The character set is checked sparingly. -/
theorem checkCharacterSet : Sparing checkCharacterSet := by
  refine .get fun reader => .choose ⟨?_, ?_⟩ (.pure _)
  · intro first u last taken
    cases taken
  · intro first refused
    cases refused

/-- To close a level is sparing. -/
theorem closeLevel : Sparing closeLevel where
  onward first u last taken := by
    cases around : first.outer with
    | nil => exact absurd taken (closeLevel_outermost around)
    | cons parent outer =>
      obtain ⟨-, rfl⟩ := advance_eq_ok.mp ((closeLevel_eq_ok around).mp taken)
      exact List.drop_suffix 1 first.rest
  spares first refused := by
    rw [Reading.closeLevel, get_bind] at refused
    cases around : first.outer with
    | nil =>
      simp only [around] at refused
      exact (checkCharacterSet.bind fun _ => .faulty (Faults.fail _ _)).spares _ refused
    | cons parent outer =>
      simp only [around] at refused
      rcases bind_eq_error.mp refused with early | ⟨_, middle, -, late⟩
      · cases early
      · exact ((Sparing.advance 1).bind fun _ => .push _ _).spares _ late

/-- To finish is sparing. -/
theorem finish : Sparing finish := by
  refine .get fun reader => ?_
  dsimp only
  split
  · exact .faulty ((Faults.failAt _ _).bind _)
  · refine checkCharacterSet.bind fun _ => ?_
    split
    · exact .faulty ((Faults.failAt _ _).bind _)
    · exact .pure _

end Sparing

/-! ## The part that counts -/

/-- A bound is found where the reader stands. -/
theorem Onward.bound (digits : List Char) : Onward (bound digits) := by
  unfold Reading.bound
  dsimp only
  split
  · exact .refused ((Refuses.throw _).bind _)
  · split
    · exact .refused ((Refuses.throw _).bind _)
    · exact .pure _

/-- To look whether counts are ahead is sparing. -/
theorem Sparing.countsAhead : Sparing countsAhead := by
  refine .bind .next fun found => .choose (.pure _) (.bind (.takeWhile _) fun low => ?_)
  refine .bind (.accept _) fun comma => ?_
  refine .choose_bind ((takeWhile _).map _) (.pure _) fun high => ?_
  exact .bind (.accept _) fun closed => .choose (.pure _) (.pure _)

/-- Counts are made of their digits where the reader stands. -/
theorem Onward.countsOf (position : Nat) (low high : List Char) :
    Onward (countsOf position low high) := by
  have last : ∀ least : Nat, Onward (do
      let greatest ← if high.isEmpty then Pure.pure none else some <$> Reading.bound high
      if greatest.any (· < least) then failAt .leastAboveGreatest position
      return (least, greatest) : Reading (Nat × Option Nat)) := by
    intro least
    have compared : ∀ greatest : Option Nat, Sparing (do
        if greatest.any (· < least) then failAt .leastAboveGreatest position
        return (least, greatest)) := fun greatest =>
      .choose (.faulty ((Faults.failAt _ _).bind _)) (.pure _)
    dsimp only
    split
    · exact (Sparing.pure _).onward.bind fun greatest => (compared greatest).onward
    · rw [map_eq_pure_bind]
      exact ((Onward.bound high).bind fun _ => .pure _).bind fun greatest => (compared greatest).onward
  unfold Reading.countsOf
  dsimp only
  split
  · exact (Onward.pure 0).bind last
  · exact (Onward.bound low).bind last

/-- Reading counts only goes on. -/
theorem Onward.counts? : Onward counts? := by
  intro first found last taken
  rw [counts?_eq] at taken
  obtain ⟨counts, middle, ahead, rest⟩ := bind_eq_ok.mp taken
  cases counts with
  | none =>
    cases rest
    exact List.suffix_rfl
  | some counts =>
    simp only [map_eq_pure_bind] at rest
    have counted := (Onward.countsOf first.position counts.1 counts.2).bind fun bounds =>
      .pure (some bounds)
    exact (counted _ _ _ rest).trans (Sparing.countsAhead.onward _ _ _ ahead)

/-! ## Items and steps -/

/-- An item that does not begin with an opening brace is read sparingly. -/
theorem Sparing.item {position : Nat} {symbol : Symbol} (other : symbol ≠ .plain '\x7b') :
    Sparing (item position symbol) := by
  unfold Reading.item
  split
  · exact (escape _).bind fun read => .push _ _
  · exact .faulty (Faults.failAt _ _)
  · split
    · exact (set? _).bind fun node => .push _ _
    · exact .repeatLast _ _ _
    · exact .repeatLast _ _ _
    · exact .repeatLast _ _ _
    · exact absurd rfl other
    · exact .push _ _
    · exact .push _ _
    · exact .push _ _
    · refine .bind (.accept _) fun extension => .choose (.openExtension _) ?_
      exact .get fun reader => .openCapture _ _ _
    · exact .push _ _

/-- Behind an opening brace, nothing but the counts themselves is refused for a count. -/
theorem item_brace (position : Nat) : ∃ next : Option (Nat × Option Nat) → Reading Unit,
    item position (.plain '\x7b') = counts? >>= next ∧ ∀ counts, Sparing (next counts) := by
  refine ⟨_, rfl, fun counts => ?_⟩
  split
  · exact .repeatLast _ _ _
  · exact .push _ _

/-- Reading an item only goes on. -/
theorem Onward.item (position : Nat) (symbol : Symbol) : Onward (item position symbol) := by
  by_cases brace : symbol = .plain '\x7b'
  · obtain ⟨next, same, sparing⟩ := item_brace position
    rw [brace, same]
    exact Onward.counts?.bind fun counts => (sparing counts).onward
  · exact (Sparing.item brace).onward

/-- Reading behind a symbol only goes on. -/
theorem Onward.symbolRead (position : Nat) (verbose : Bool) (symbol : Symbol) :
    Onward (symbolRead position verbose symbol) := by
  unfold Reading.symbolRead
  split
  · exact .pure _
  · split
    · rw [remark, discard_bind]
      exact ((Sparing.takeWhile _).bind fun _ => .advance 1).onward
    · exact .item position symbol

/-- A step goes on, and a text that it refuses for its counts has one ahead that is too great. -/
theorem Onward.step : Onward step := by
  intro first more last taken
  cases ahead : first.rest with
  | nil =>
    rw [Reading.step, get_bind] at taken
    simp only [ahead] at taken
    cases taken
    exact ahead ▸ List.suffix_rfl
  | cons symbol rest =>
    rw [step_eq ahead] at taken
    obtain ⟨_, middle, here, result⟩ := bind_eq_ok.mp taken
    cases result
    rw [← ahead]
    split at here
    · exact Sparing.endBranch.onward _ _ _ here
    · split at here
      · exact Sparing.closeLevel.onward _ _ _ here
      · exact (Sparing.advance 1).onward.bind (fun _ => .symbolRead _ _ _) _ _ _ here

end Reading

end LineGrammar.Pattern
