import LineGrammar.Proofs.Pattern.Parts

/-!
# Texts that are patterns on their own

A text that reads as a pattern on its own, without groups and without switches for the whole, can be
placed in another pattern, with an edge or nothing behind it. The reader of the text alone takes step
after step, a reader of the other pattern takes the same steps (`Alike.step`), and so the second one comes
to the end of the text with what the first one has read in its own level (`Stands.of_read`). Under
switches for the whole from outside, the same holds where the layout is that of the switches, unless the
text ends in a remark, which would go on behind the text (`Stands.of_readTree`).
Where a group is opened before the text and closed behind it, it reads as the same branches
(`Enclosed.of_read`). Where something stands before it in the same branch, its first branch goes on
with that one, but the whole remains a pattern (`Stands.between`).

A text with groups may be read inside of another pattern as well, but its groups get other numbers
there, and its references may then be to other groups; and a switch for the whole is refused there.
-/

namespace LineGrammar.Pattern

open LineGrammar.Text

variable {base : Switches} {leading : List (Node × Standing)} {context : Reader} {tail : List Symbol}

/-! ## One step -/

/-- A reader that takes up the level around its current one again, where what that one has become is the
last item. -/
def Reader.closing (reader : Reader) (parent : Level) (outer : List Level) : Reader :=
  { reader with
    level := { parent with items := (Reading.closed reader.level, .operand) :: parent.items }
    outer
    widths := match reader.level.bracket with
      | .capture index => (index, (Reading.closed reader.level).width) :: reader.widths
      | _ => reader.widths
    lookBehindLimit := match reader.level.bracket with
      | .lookBehind _ true => none
      | _ => reader.lookBehindLimit }

namespace Reading

/-- A part of a reader goes on, by at least one symbol when there is one. -/
structure Progresses (part : Reading α) : Prop where
  steady : Steady part
  takes : ∀ first a last, first.rest ≠ [] → part first = .ok (a, last) →
    last.rest.length < first.rest.length

namespace Progresses

/-- A part that always refuses goes on nowhere without taking a symbol. -/
theorem refused {part : Reading α} (refuses : Refuses part) : Progresses part :=
  ⟨.refused refuses, fun _ _ _ _ taken => absurd taken (refuses _ _)⟩

/-- A part that passes over a symbol first. -/
theorem advance_bind {next : Unit → Reading α} (after : Steady (next ())) :
    Progresses (advance 1 >>= next) where
  steady := Steady.advance_one.bind fun _ => after
  takes first a last some taken := by
    obtain ⟨_, middle, passed, rest⟩ := bind_eq_ok.mp taken
    have shorter := (after _ _ _ rest).shorter
    obtain ⟨-, rfl⟩ := advance_eq_ok.mp passed
    have positive := List.length_pos_of_ne_nil some
    simp only [Reader.moved_rest, List.length_drop] at shorter
    omega

/-- A part that looks at the state first progresses when it does so for every state. -/
theorem get {next : Reader → Reading α} (after : ∀ reader, Progresses (next reader)) :
    Progresses (MonadState.get >>= next) :=
  ⟨.get fun reader => (after reader).steady, fun first _ _ some taken =>
    (after first).takes first _ _ some taken⟩

/-- To end a branch takes the bar. -/
theorem endBranch : Progresses endBranch := by
  refine .get fun reader => ?_
  dsimp only
  split
  · exact .advance_bind (.modifyLevel _)
  · exact .refused (Refuses.fail _ _)
  · exact .advance_bind (.modifyLevel _)
  · exact .advance_bind (.modifyLevel _)

end Progresses

/-- A level is closed into the one around it, and the parenthesis is passed over. -/
theorem closeLevel_eq_ok {first last : Reader} {parent : Level} {outer : List Level} {u : Unit}
    (around : first.outer = parent :: outer) :
    closeLevel first = .ok (u, last) ↔ advance 1 (first.closing parent outer) = .ok (u, last) := by
  have taken : closeLevel first = (advance 1 >>= fun _ => push (closed first.level) .operand)
      { first.closing parent outer with level := parent } := by
    rw [closeLevel, get_bind]
    simp only [around]
    rfl
  rw [taken, bind_eq_ok]
  simp only [advance_eq_ok]
  constructor
  · rintro ⟨_, middle, ⟨head, rfl⟩, pushed⟩
    cases pushed
    exact ⟨head, rfl⟩
  · rintro ⟨head, rfl⟩
    exact ⟨(), _, ⟨head, rfl⟩, rfl⟩

/-- No level is closed when none is around it. -/
theorem closeLevel_outermost {first : Reader} {result : Unit × Reader} (around : first.outer = []) :
    closeLevel first ≠ .ok result := by
  rw [closeLevel, get_bind]
  simp only [around]
  intro taken
  obtain ⟨_, middle, _, rest⟩ := bind_eq_ok.mp taken
  exact absurd rest (Refuses.fail _ _ _ _)

/-- To close a level takes the parenthesis. -/
theorem Progresses.closeLevel : Progresses closeLevel := by
  have back : ∀ first u last, Reading.closeLevel first = .ok (u, last) →
      first.Later last ∧ (first.rest ≠ [] → last.rest.length < first.rest.length) := by
    intro first u last taken
    cases around : first.outer with
    | nil => exact absurd taken (closeLevel_outermost around)
    | cons parent outer =>
      have passed := (closeLevel_eq_ok around).mp taken
      have later := Steady.advance_one _ _ _ passed
      refine ⟨⟨later.shorter, later.spoiled, later.turned, later.sound⟩, fun some => ?_⟩
      obtain ⟨-, rfl⟩ := advance_eq_ok.mp passed
      have positive := List.length_pos_of_ne_nil some
      simp only [Reader.moved_rest, Reader.closing, List.length_drop]
      omega
  exact ⟨fun first u last taken => (back first u last taken).1,
    fun first u last some taken => (back first u last taken).2 some⟩

/-- A remark goes on up to the end of its line, which is passed over. -/
def remark : Reading Unit := do
  discard (takeWhile (· != .plain '\n'))
  advance 1

/-- One symbol is layout, the start of a remark, or an item with what belongs to it. -/
def symbolRead (position : Nat) (verbose : Bool) (symbol : Symbol) : Reading Unit :=
  if verbose && isLayout symbol then pure ()
  else if verbose && symbol = .plain '#' then remark
  else item position symbol

/-- Where a symbol is ahead, a step is one of three things: it ends a branch at a bar, it closes a level at
a parenthesis, or it takes the symbol and reads on behind it. -/
theorem step_eq {first : Reader} {symbol : Symbol} {more : List Symbol}
    (ahead : first.rest = symbol :: more) :
    step first = ((if symbol = .plain '|' then endBranch
      else if symbol = .plain ')' then closeLevel
      else advance 1 >>= fun _ => symbolRead first.position first.level.verbose symbol) >>= fun _ =>
        pure true) first := by
  rw [step, get_bind]
  simp only [ahead]
  by_cases bar : symbol = .plain '|'
  · subst bar
    rfl
  · by_cases close : symbol = .plain ')'
    · subst close
      rfl
    · rw [if_neg bar, if_neg close, bind_assoc]
      refine congrFun (a := first) ?_
      split
      · rename_i nothing
        cases nothing
      · rename_i same
        cases same
        exact absurd rfl bar
      · rename_i same
        cases same
        exact absurd rfl close
      · rename_i same
        cases same
        refine congrArg _ (funext fun _ => ?_)
        unfold symbolRead
        split
        · rfl
        · split
          · rw [remark, bind_assoc]
          · rfl

/-- To read behind a symbol only goes on. -/
theorem Steady.symbolRead (position : Nat) (verbose : Bool) (symbol : Symbol) :
    Steady (symbolRead position verbose symbol) := by
  unfold Reading.symbolRead
  split
  · exact .pure _
  · split
    · rw [remark, discard_bind]
      exact (Steady.takeWhile _).bind fun _ => Steady.advance_one
    · have agree : AgreeUnless .none [] (Reader.start [] .none) [] [symbol] (item position symbol)
          (item position symbol) := .item _ _ _
      exact agree.steady

/-- A reader stops at the end of the pattern. -/
theorem step_eq_false {first last : Reader} (taken : step first = .ok (false, last)) :
    first.rest = [] ∧ last = first := by
  cases ahead : first.rest with
  | nil =>
    rw [step, get_bind] at taken
    simp only [ahead] at taken
    cases taken
    exact ⟨rfl, rfl⟩
  | cons symbol more =>
    rw [step_eq ahead] at taken
    obtain ⟨_, middle, _, ends⟩ := bind_eq_ok.mp taken
    cases ends

/-- Every step goes on. -/
theorem Progresses.step {first last : Reader} (taken : Reading.step first = .ok (true, last)) :
    first.Later last ∧ last.rest.length < first.rest.length := by
  cases ahead : first.rest with
  | nil =>
    rw [Reading.step, get_bind] at taken
    simp only [ahead] at taken
    cases taken
  | cons symbol more =>
    rw [step_eq ahead] at taken
    obtain ⟨_, middle, here, result⟩ := bind_eq_ok.mp taken
    cases result
    have parts : Progresses (if symbol = .plain '|' then Reading.endBranch
        else if symbol = .plain ')' then Reading.closeLevel
        else advance 1 >>= fun _ => symbolRead first.position first.level.verbose symbol) := by
      split
      · exact .endBranch
      · split
        · exact .closeLevel
        · exact .advance_bind (.symbolRead _ _ _)
    exact ⟨parts.steady _ _ _ here, ahead ▸ parts.takes _ _ _ (by simp [ahead]) here⟩

end Reading

/-- The level of both readers has got another branch. The first bar of the text ends the branch of the
context. -/
theorem Nested.barred {limit limit' : Option Nat} {level level' : Level} {outer outer' : List Level}
    (levels : Nested leading context limit limit' level outer level' outer') :
    Nested leading context limit limit'
      { level with branches := Reading.branchOf level :: level.branches, items := [] } outer
      { level' with branches := Reading.branchOf level' :: level'.branches, items := [] } outer' := by
  cases levels with
  | @within opening opening' items =>
    have ended (front : List (Node × Standing)) : (items ++ front).reverse.map (·.1) =
        front.reverse.map (·.1) ++ items.reverse.map (·.1) := by
      simp
    simp only [Reading.branchOf, ended]
    exact @Nested.across leading context opening opening' [] [] (items.reverse.map (·.1))
  | @across opening opening' branches items first =>
    exact @Nested.across leading context opening opening'
      (.ofSequence (items.reverse.map (·.1)) :: branches) [] first
  | inner around same => exact .inner around same

/-- A bar begins another branch of the current level, and changes nothing else there. The outermost
level is the only one whose layout is looked up again. -/
def Reader.Branching (reader : Reader) : Prop :=
  match reader.level.bracket with
  | .whole => reader.switches.verbose = reader.level.verbose
  | .conditional _ _ => False
  | _ => True

/-- A group can have branches. -/
theorem Bracket.IsGroup.branching {reader : Reader} (group : reader.level.bracket.IsGroup) :
    reader.Branching := by
  unfold Reader.Branching
  generalize reader.level.bracket = bracket at group
  cases group <;> trivial

/-- Where a level can have branches, a bar ends one and begins another. -/
theorem Reading.endBranch_eq_ok {first last : Reader} {u : Unit} (branching : first.Branching) :
    endBranch first = .ok (u, last) ↔ ∃ middle, advance 1 first = .ok ((), middle) ∧
      last = { middle with level := { first.level with
        branches := branchOf first.level :: first.level.branches, items := [] } } := by
  have ends : endBranch first = .ok (u, last) ↔ ∃ (_ : Unit) (middle : Reader),
      advance 1 first = .ok ((), middle) ∧ .ok ((), { middle with level := { first.level with
        branches := branchOf first.level :: first.level.branches, items := [] } }) =
          (.ok (u, last) : Except Refusal (Unit × Reader)) := by
    obtain ⟨position, rest, switches, opened, widths, names, limit, awaited,
      ⟨bracket, opening, verbose, branches, items⟩, outer⟩ := first
    rw [endBranch, get_bind]
    cases bracket with
    | whole =>
      have same : switches.verbose = verbose := branching
      subst same
      refine bind_eq_ok.trans (exists_congr fun _ => exists_congr fun middle =>
        and_congr_right fun passed => ?_)
      obtain ⟨-, rfl⟩ := advance_eq_ok.mp passed
      rfl
    | conditional index present => exact absurd branching id
    | _ => exact bind_eq_ok
  simp only [ends, Except.ok.injEq, Prod.mk.injEq, exists_const, true_and, eq_comm]

/-- A level of a context in which a text may stand that is read under some switches: its layout is that
of the text, and it can have further branches. -/
structure Reader.Hosts (context : Reader) (base : Switches) : Prop where
  layout : context.level.verbose = base.verbose
  branching : context.Branching

/-- The levels of both readers can have branches. -/
theorem Alike.branching {first inside : Reader} (alike : Alike base leading context tail first inside)
    (hosts : context.Hosts base) : first.Branching ∧ inside.Branching := by
  obtain ⟨position, position', behind, levels⟩ := alike
  have branching := hosts.branching
  unfold Reader.Branching at branching ⊢
  cases levels with
  | within => exact ⟨hosts.layout.symm, branching⟩
  | across => exact ⟨hosts.layout.symm, branching⟩
  | inner around same => cases same <;> exact ⟨trivial, trivial⟩

/-- A tree captures nothing when its parts capture nothing, and leaves never do. -/
theorem inherited_captures : Node.Inherited fun node => node.captures = 0 where
  empty := rfl
  leaf node leaf := by cases node <;> first | rfl | cases leaf
  sequence _ _ := Nat.add_eq_zero_iff
  choice _ _ := Nat.add_eq_zero_iff

namespace Level.Captureless

variable {level : Level}

/-- The branch of items without captures captures nothing. -/
theorem branchOf (captureless : level.Captureless) : (Reading.branchOf level).captures = 0 :=
  inherited_captures.ofSequence_iff.mpr (by simpa using fun node standing => captureless.items (node, standing))

/-- Another branch begins. -/
theorem barred (captureless : level.Captureless) : Level.Captureless { level with
    branches := Reading.branchOf level :: level.branches, items := [] } where
  branches := List.forall_mem_cons.mpr ⟨captureless.branchOf, captureless.branches⟩
  items := by simp

/-- What the branches become captures nothing. -/
theorem ofBranches (captureless : level.Captureless) :
    (Node.ofBranches (level.branches.reverse ++ [Reading.branchOf level])).captures = 0 := by
  refine inherited_captures.ofBranches_iff.mpr fun node listed => ?_
  rcases List.mem_append.mp listed with listed | listed
  · exact captureless.branches node (List.mem_reverse.mp listed)
  · exact List.mem_singleton.mp listed ▸ captureless.branchOf

end Level.Captureless

/-- A bar ends a branch in both readers. -/
theorem Alike.endBranch {first inside last : Reader} {more : List Symbol} {u : Unit}
    (alike : Alike base leading context tail first inside) (hosts : context.Hosts base)
    (ahead : first.rest = .plain '|' :: more) (taken : Reading.endBranch first = .ok (u, last)) :
    ∃ inside', Reading.endBranch inside = .ok (u, inside') ∧
      Alike base leading context tail last inside' := by
  obtain ⟨here, there⟩ := alike.branching hosts
  obtain ⟨middle, passed, rfl⟩ := (Reading.endBranch_eq_ok here).mp taken
  obtain ⟨inside', passed', alike'⟩ := alike.advance (by simp [ahead]) passed
  refine ⟨_, (Reading.endBranch_eq_ok there).mpr ⟨inside', passed', rfl⟩, ?_⟩
  obtain ⟨-, rfl⟩ := Reading.advance_eq_ok.mp passed
  obtain ⟨-, rfl⟩ := Reading.advance_eq_ok.mp passed'
  exact alike'.withLevels alike.levels.barred (.inr (.inr (.inl (by simp)))) fun unled =>
    (alike.captureless unled _ List.mem_cons_self).barred

/-- Where the first reader takes up the level around its current one again, so does the second, and
the level has become the same in both. -/
theorem Alike.closing {first inside : Reader} {parent : Level} {outer : List Level}
    (alike : Alike base leading context tail first inside) (around : first.outer = parent :: outer) :
    ∃ parent' outer', inside.outer = parent' :: outer' ∧
      Alike base leading context tail (first.closing parent outer) (inside.closing parent' outer') := by
  obtain ⟨position, position', behind, levels, -, captureless⟩ := alike
  cases levels with
  | within => cases around
  | across => cases around
  | @inner limit limit' _ _ bracket bracket' _ _ _ _ opening opening' verbose branches items levels same =>
    cases around
    have become : Reading.closed ⟨bracket', opening', verbose, branches, items⟩ =
        Reading.closed ⟨bracket, opening, verbose, branches, items⟩ := by
      cases same <;> rfl
    obtain ⟨pushed, apart⟩ :=
      levels.pushed (Reading.closed ⟨bracket, opening, verbose, branches, items⟩, .operand)
    have unrecorded (unled : leading = []) :
        ∀ own ∈ { parent with items := (Reading.closed ⟨bracket, opening, verbose, branches, items⟩,
          .operand) :: parent.items } :: outer, Level.Captureless own := by
      obtain ⟨own, others⟩ := List.forall_mem_cons.mp (captureless unled)
      obtain ⟨above, rest⟩ := List.forall_mem_cons.mp others
      have captures := own.ofBranches
      exact List.forall_mem_cons.mpr ⟨above.push (by cases same <;> exact captures) _, rest⟩
    refine ⟨_, _, rfl, ?_⟩
    simp only [Reader.closing, become]
    cases same with
    | lookBehind negated =>
      cases limit <;> cases limit' <;> exact .intro _ _ behind pushed apart unrecorded
    | _ => exact .intro _ _ behind pushed apart unrecorded

/-- A parenthesis within the text closes a level in both readers. -/
theorem Alike.closeLevel {first inside last : Reader} {more : List Symbol} {u : Unit}
    (alike : Alike base leading context tail first inside) (ahead : first.rest = .plain ')' :: more)
    (taken : Reading.closeLevel first = .ok (u, last)) :
    ∃ inside', Reading.closeLevel inside = .ok (u, inside') ∧
      Alike base leading context tail last inside' := by
  cases around : first.outer with
  | nil => exact absurd taken (Reading.closeLevel_outermost around)
  | cons parent outer =>
    obtain ⟨parent', outer', around', back⟩ := alike.closing around
    obtain ⟨inside', passed, alike'⟩ := back.advance (by simp [Reader.closing, ahead])
      ((Reading.closeLevel_eq_ok around).mp taken)
    exact ⟨inside', (Reading.closeLevel_eq_ok around').mpr passed, alike'⟩

/-- A reader is about to pass over a remark that goes on up to the end of the pattern. -/
def Reader.OpensRemark (reader : Reader) : Prop :=
  reader.level.verbose = true ∧ ∃ remark, reader.rest = .plain '#' :: remark ∧ .plain '\n' ∉ remark

/-- A reader comes to a parenthesis that turns switches on for the whole. -/
def Reader.MeetsSwitches (reader : Reader) : Prop :=
  ∃ middle, reader.Reaches middle ∧ Reading.TurnsOn middle.rest

/-- A reader comes to a remark that goes on up to the end of the pattern. -/
def Reader.MeetsOpenRemark (reader : Reader) : Prop :=
  ∃ middle, reader.Reaches middle ∧ middle.OpensRemark

/-- Both readers pass over a remark that ends within the text. -/
theorem Alike.remark {first inside last : Reader} {u : Unit}
    (alike : Alike base leading context tail first inside)
    (taken : Reading.remark first = .ok (u, last)) :
    .plain '\n' ∉ first.rest ∧ last.rest = [] ∧ last.outer = first.outer ∨ ∃ inside',
      Reading.remark inside = .ok (u, inside') ∧ Alike base leading context tail last inside' := by
  unfold Reading.remark at taken ⊢
  rw [Reading.discard_bind] at taken ⊢
  obtain ⟨run, middle, runs, passed⟩ := Reading.bind_eq_ok.mp taken
  by_cases ended : middle.rest = []
  · left
    obtain ⟨same, passes⟩ := Reading.takeWhile_eq_ok.mp runs
    obtain ⟨-, rfl⟩ := Reading.advance_eq_ok.mp passes
    obtain ⟨-, rfl⟩ := Reading.advance_eq_ok.mp passed
    rw [Reader.moved_rest] at ended
    -- The run is all there is, and no line ends within a run.
    have whole : run = first.rest := by
      have front : run <+: first.rest := same ▸ List.takeWhile_prefix _
      exact front.eq_of_length_le (List.drop_eq_nil_iff.mp ended)
    refine ⟨fun listed => ?_, by simp [ended], rfl⟩
    rw [← whole, same] at listed
    simpa using List.mem_takeWhile_imp listed
  · right
    obtain ⟨inside', runs', alike'⟩ := alike.takeWhile runs (.inr ended)
    obtain ⟨final, passed', alike''⟩ :=
      alike'.advance (List.length_pos_of_ne_nil ended) passed
    exact ⟨final, Reading.bind_eq_ok.mpr ⟨_, _, runs', passed'⟩, alike''⟩

/-- Layout is free for both readers or for none. A remark may have no end within the text, and a
parenthesis may turn switches on for the whole. -/
theorem Alike.symbolRead {first inside last : Reader} {position position' : Nat} {verbose : Bool}
    {symbol : Symbol} {u : Unit} (alike : Alike base leading context tail first inside)
    (taken : Reading.symbolRead position verbose symbol first = .ok (u, last)) :
    last.Spoiled ∨ leading = [] ∧ Reading.TurnsOn (symbol :: first.rest) ∧ last.switches ≠ .none ∨
      (verbose = true ∧ symbol = .plain '#' ∧ .plain '\n' ∉ first.rest ∧ last.rest = [] ∧
        last.outer = first.outer) ∨
      ∃ inside', Reading.symbolRead position' verbose symbol inside = .ok (u, inside') ∧
        Alike base leading context tail last inside' := by
  unfold Reading.symbolRead at taken ⊢
  split at taken
  · rename_i layout
    rw [if_pos layout]
    cases taken
    exact .inr (.inr (.inr ⟨inside, rfl, alike⟩))
  · rename_i layout
    rw [if_neg layout]
    split at taken
    · rename_i opens
      rw [if_pos opens]
      rw [Bool.and_eq_true, decide_eq_true_eq] at opens
      rcases alike.remark taken with unended | followed
      · exact .inr (.inr (.inl ⟨opens.1, opens.2, unended⟩))
      · exact .inr (.inr (.inr followed))
    · rename_i opens
      rw [if_neg opens]
      rcases (Reading.AgreeUnless.item _ position' symbol).follows alike taken with
        spoiled | turned | followed
      · exact .inl spoiled
      · exact .inr (.inl turned)
      · exact .inr (.inr (.inr followed))

/-- Where the first reader steps, the second does the same, unless the text is spoiled, turns switches on
for the whole, or ends in a remark. -/
theorem Alike.step {first inside last : Reader} (alike : Alike base leading context tail first inside)
    (hosts : context.Hosts base) (taken : Reading.step first = .ok (true, last)) :
    last.Spoiled ∨ leading = [] ∧ Reading.TurnsOn first.rest ∧ last.switches ≠ .none ∨
      first.OpensRemark ∧ last.rest = [] ∧ last.outer = first.outer ∨
      ∃ inside', Reading.step inside = .ok (true, inside') ∧
        Alike base leading context tail last inside' := by
  cases ahead : first.rest with
  | nil =>
    rw [Reading.step, Reading.get_bind] at taken
    simp only [ahead] at taken
    cases taken
  | cons symbol more =>
    have ahead' : inside.rest = symbol :: (more ++ tail) := by simp [alike.rest, ahead]
    rw [Reading.step_eq ahead] at taken
    rw [Reading.step_eq ahead']
    obtain ⟨_, middle, here, result⟩ := Reading.bind_eq_ok.mp taken
    cases result
    -- What is left to show is that the part for this symbol is followed.
    suffices follows : last.Spoiled ∨
        leading = [] ∧ Reading.TurnsOn (symbol :: more) ∧ last.switches ≠ .none ∨
        first.OpensRemark ∧ last.rest = [] ∧ last.outer = first.outer ∨ ∃ inside',
          (if symbol = .plain '|' then Reading.endBranch
            else if symbol = .plain ')' then Reading.closeLevel
            else Reading.advance 1 >>= fun _ =>
              Reading.symbolRead inside.position inside.level.verbose symbol) inside =
                .ok ((), inside') ∧ Alike base leading context tail last inside' by
      refine follows.imp_right (Or.imp_right (Or.imp_right ?_))
      rintro ⟨inside', here', alike'⟩
      exact ⟨inside', Reading.bind_eq_ok.mpr ⟨_, _, here', rfl⟩, alike'⟩
    split at here
    · rename_i bar
      rw [if_pos bar]
      exact .inr (.inr (.inr (alike.endBranch hosts (bar ▸ ahead) here)))
    · rename_i bar
      rw [if_neg bar]
      split at here
      · rename_i close
        rw [if_pos close]
        exact .inr (.inr (.inr (alike.closeLevel (close ▸ ahead) here)))
      · rename_i close
        rw [if_neg close, ← alike.resembles.verbose]
        obtain ⟨_, middle, passed, rest⟩ := Reading.bind_eq_ok.mp here
        obtain ⟨inside', passed', alike'⟩ := alike.advance (by simp [ahead]) passed
        have behind : middle.rest = more ∧ middle.outer = first.outer := by
          obtain ⟨-, rfl⟩ := Reading.advance_eq_ok.mp passed
          exact ⟨by simp [ahead], rfl⟩
        rcases alike'.symbolRead rest with spoiled | turned | remark | ⟨final, rest', alike''⟩
        · exact .inl spoiled
        · exact .inr (.inl (behind.1 ▸ turned))
        · obtain ⟨verbose, rfl, unended, ended, kept⟩ := remark
          have opens : first.OpensRemark := ⟨verbose, more, ahead, behind.1 ▸ unended⟩
          exact .inr (.inr (.inl ⟨opens, ended, kept.trans behind.2⟩))
        · exact .inr (.inr (.inr ⟨final, Reading.bind_eq_ok.mpr ⟨_, _, passed', rest'⟩, alike''⟩))

/-! ## Up to the end -/

/-- What a reader reaches is further on. -/
theorem Reader.Reaches.later {first last : Reader} (reached : first.Reaches last) : first.Later last := by
  induction reached with
  | here reader => exact .refl reader
  | step taken _ _ ih => exact (Reading.Progresses.step taken).1.trans ih

/-- A reader at the end of the pattern takes no more steps. -/
theorem Reader.Reaches.eq_of_ended {first last : Reader} (reached : first.Reaches last)
    (ended : first.rest = []) : last = first := by
  cases reached with
  | here => rfl
  | step _ shorter _ =>
    rw [ended] at shorter
    exact absurd shorter (Nat.not_lt_zero _)

/-- As many steps as there are symbols lead to the end of the pattern. -/
theorem Reading.reaches_of_steps {n : Nat} {first last : Reader} {u : Unit}
    (enough : first.rest.length < n) (taken : steps n first = .ok (u, last)) :
    first.Reaches last ∧ last.rest = [] := by
  induction n generalizing first with
  | zero => exact absurd enough (Nat.not_lt_zero _)
  | succ n ih =>
    obtain ⟨more, middle, here, rest⟩ := bind_eq_ok.mp taken
    cases more with
    | false =>
      obtain ⟨ended, rfl⟩ := step_eq_false here
      cases rest
      exact ⟨.here _, ended⟩
    | true =>
      have shorter := (Progresses.step here).2
      obtain ⟨reached, ended⟩ := ih (by omega) rest
      exact ⟨.step here shorter reached, ended⟩

/-- At the outermost level, the layout of a text is that of its context. -/
theorem Alike.verbose_of_outermost {first inside : Reader}
    (alike : Alike base leading context tail first inside) (outermost : first.outer = []) :
    first.level.verbose = context.level.verbose := by
  obtain ⟨position, position', behind, levels⟩ := alike
  cases levels with
  | within => rfl
  | across => rfl
  | inner => cases outermost

/-- A reader at the start of a text and one that meets the text in a context are alike. -/
theorem Alike.start {symbols : List Symbol} (ahead : context.rest = symbols ++ tail)
    (behind : Bounded tail) (hosts : context.Hosts base) :
    Alike base [] context tail (Reader.start symbols base) context := by
  have layout := hosts.layout
  obtain ⟨position, rest, switches, opened, widths, names, limit, awaited, level, outer⟩ := context
  obtain ⟨bracket, opening, verbose, branches, items⟩ := level
  cases ahead
  cases layout
  exact .intro 0 position behind (@Nested.within [] _ _ _ []) (.inl rfl) fun _ => by simpa using .fresh

/-- When the text has come to its end at its outermost level, the second reader has gone on to the end of
the text within the level of its context. -/
theorem Alike.ended {final inside : Reader} (alike : Alike base leading context tail final inside)
    (outermost : final.outer = []) (ended : final.rest = []) :
    final.switches = base ∧ final.level.bracket = .whole ∧ ∃ position level,
      Nested leading context none context.lookBehindLimit final.level [] level context.outer ∧
        inside = context.holding position tail context.opened context.widths level := by
  obtain ⟨position, position', -, levels⟩ := alike
  cases outermost
  cases ended
  cases levels with
  | within => exact ⟨rfl, rfl, position', _, .within, rfl⟩
  | across first => exact ⟨rfl, rfl, position', _, .across first, rfl⟩

/-- What the first reader comes to by steps, the second one comes to, unless the text is spoiled, turns
switches on for the whole, or ends in a remark. The remark may stand at the outermost level when the
layout is free there from the start. -/
theorem Alike.reaches {first inside last : Reader} (alike : Alike base leading context tail first inside)
    (hosts : context.Hosts base) (reached : first.Reaches last) :
    last.Spoiled ∨ leading = [] ∧ first.MeetsSwitches ∧ last.switches ≠ .none ∨
      (first.MeetsOpenRemark ∧ last.rest = [] ∧ (last.outer = [] → base.verbose = true)) ∨
      ∃ inside', inside.Reaches inside' ∧ Alike base leading context tail last inside' := by
  induction reached generalizing inside with
  | here reader => exact .inr (.inr (.inr ⟨inside, .here inside, alike⟩))
  | @step first middle last taken shorter more ih =>
    rcases alike.step hosts taken with spoiled | ⟨unled, turns, turned⟩ | ⟨opens, ended, kept⟩ |
      ⟨inside', taken', alike'⟩
    · exact .inl (more.later.spoiled spoiled)
    · exact .inr (.inl ⟨unled, ⟨first, .here first, turns⟩, more.later.turned turned⟩)
    · cases more.eq_of_ended ended
      refine .inr (.inr (.inl ⟨⟨first, .here first, opens⟩, ended, fun outermost => ?_⟩))
      rw [← hosts.layout, ← alike.verbose_of_outermost (kept ▸ outermost), opens.1]
    · have on {final : Reader} (reached : middle.Reaches final) : first.Reaches final :=
        .step taken shorter reached
      rcases ih alike' with spoiled | ⟨unled, ⟨turning, reached, turns⟩, turned⟩ |
        ⟨⟨opening, reached, opens⟩, others⟩ | ⟨final, reached, alike''⟩
      · exact .inl spoiled
      · exact .inr (.inl ⟨unled, ⟨turning, on reached, turns⟩, turned⟩)
      · exact .inr (.inr (.inl ⟨⟨opening, on reached, opens⟩, others⟩))
      · refine .inr (.inr (.inr ⟨final, .step taken' ?_ reached, alike''⟩))
        rw [alike'.rest, alike.rest, List.length_append, List.length_append]
        omega

/-- A text that ends at its outermost level is followed up to its end, when it neither turns switches on
for the whole nor ends in a remark. Behind leading items, switches would have been refused, and where the
layout is strict, a remark needs a level that allows it. -/
theorem Alike.reaches_outermost {first inside last : Reader}
    (alike : Alike base leading context tail first inside) (hosts : context.Hosts base)
    (reached : first.Reaches last) (sound : ¬ last.Spoiled) (outermost : last.outer = [])
    (quiet : leading ≠ [] ∨ last.switches = .none ∨ ¬ first.MeetsSwitches)
    (closed : base.verbose = false ∨ ¬ first.MeetsOpenRemark) :
    ∃ inside', inside.Reaches inside' ∧ Alike base leading context tail last inside' := by
  rcases alike.reaches hosts reached with spoiled | ⟨unled, meets, turned⟩ |
    ⟨meets, -, free⟩ | followed
  · exact absurd spoiled sound
  · rcases quiet with led | strict | none
    · exact absurd unled led
    · exact absurd strict turned
    · exact absurd meets none
  · rcases closed with strict | none
    · cases strict.symm.trans (free outermost)
    · exact absurd meets none
  · exact followed

/-- A pattern has been read by some reader, and nothing keeps it from being run. -/
theorem exists_of_read {source : String} {on : Switches} {pattern : Pattern}
    (is : read source on = .ok pattern) :
    ∃ final, readTree source.toList on = .ok (pattern.root, final) ∧
      pattern.root.obstacle? final.switches.template = none ∧ pattern.groups = final.opened ∧
      pattern.switches = final.switches ∧ pattern.source = source := by
  cases tree : readTree source.toList on with
  | error refusal =>
    simp only [read, tree, bind, Except.bind] at is
    cases is
  | ok result =>
    obtain ⟨root, final⟩ := result
    simp only [read, tree, bind, Except.bind] at is
    split at is
    · cases is
    · rename_i runs
      cases is
      exact ⟨final, rfl, runs, rfl, rfl, rfl⟩

/-- A reader finishes at the outermost level, with what that has become, when all groups that were asked for
have been opened. -/
theorem Reading.finish_eq_ok {last final : Reader} {root : Node}
    (taken : finish last = .ok (root, final)) :
    final = last ∧ last.outer = [] ∧ root = closed last.level ∧
      ∀ entry ∈ last.awaited, entry.1 ≤ last.opened := by
  rw [finish, get_bind] at taken
  dsimp only at taken
  split at taken
  · exact absurd taken ((Refuses.failAt _ _).bind _ _ _)
  · rename_i outermost
    obtain ⟨_, middle, checked, rest⟩ := bind_eq_ok.mp taken
    have same : middle = last := by
      rw [checkCharacterSet, get_bind] at checked
      split at checked
      · exact absurd checked (Refuses.throw _ _ _)
      · cases checked
        rfl
    subst same
    cases found : middle.awaited.find? fun entry => middle.opened < entry.1 with
    | some entry =>
      simp only [found] at rest
      exact absurd rest ((Refuses.failAt _ _).bind _ _ _)
    | none =>
      simp only [found] at rest
      cases rest
      exact ⟨rfl, by simpa using outermost, rfl, by simpa using found⟩

/-- What has been read by a reader that started on a text. -/
theorem readTree_eq_ok {text : List Char} {on : Switches} {root : Node} {final : Reader}
    (taken : readTree text on = .ok (root, final)) :
    (Symbol.ofChars text).head? ≠ some .dangling ∧
      Reading.steps ((Symbol.ofChars text).length + 1) (Reader.start (Symbol.ofChars text) on) =
        .ok ((), final) ∧ Reading.finish final = .ok (root, final) := by
  obtain ⟨_, start, passed, rest⟩ := Reading.bind_eq_ok.mp taken
  obtain ⟨_, last, stepped, finished⟩ := Reading.bind_eq_ok.mp rest
  obtain ⟨head, rfl⟩ := Reading.advance_eq_ok.mp passed
  obtain ⟨rfl, -⟩ := Reading.finish_eq_ok finished
  exact ⟨head, stepped, finished⟩

/-- A reader does not come past a backslash at the end of its pattern. -/
theorem Reading.clean_of_steps {symbols : List Symbol} {on : Switches} {last : Reader} {u : Unit}
    (head : symbols.head? ≠ some .dangling)
    (taken : steps (symbols.length + 1) (Reader.start symbols on) = .ok (u, last)) :
    .dangling ∉ symbols := by
  intro inside
  obtain ⟨reached, ended⟩ := reaches_of_steps (Nat.lt_succ_self _) taken
  have ahead := (reached.later.sound head).2 inside
  rw [ended] at ahead
  cases ahead

/-- A mark of repetition at the start has nothing to repeat. -/
theorem Reading.steps_calm {symbols : List Symbol} {on : Switches} {n : Nat} {last : Reader} {u : Unit}
    (taken : steps (n + 1) (Reader.start symbols on) = .ok (u, last)) : Calm symbols := by
  have marked : ∀ {c least greatest rest}, Mark c least greatest → symbols ≠ .plain c :: rest := by
    rintro c least greatest rest mark rfl
    obtain ⟨more, middle, here, -⟩ := bind_eq_ok.mp taken
    rw [step_eq rfl] at here
    obtain ⟨_, after, taken, -⟩ := bind_eq_ok.mp here
    rw [if_neg (by cases mark <;> decide), if_neg (by cases mark <;> decide)] at taken
    obtain ⟨_, moved, passed, marks⟩ := bind_eq_ok.mp taken
    obtain ⟨-, rfl⟩ := advance_eq_ok.mp passed
    have means : symbolRead 0 on.verbose (.plain c) = repeatLast least greatest 0 := by
      cases mark <;> cases on.verbose <;> rfl
    change symbolRead 0 on.verbose _ _ = _ at marks
    rw [means, repeatLast, get_bind] at marks
    exact absurd marks (Refuses.failAt _ _ _ _)
  constructor <;> intro ahead
  · obtain ⟨rest, rfl⟩ := List.head?_eq_some_iff.mp ahead
    exact marked .question rfl
  · obtain ⟨rest, rfl⟩ := List.head?_eq_some_iff.mp ahead
    exact marked .plus rfl

/-! ## Levels that can be run -/

/-- The branches of a level, in order. -/
def Level.nodes (level : Level) : List Node := level.branches.reverse ++ [Reading.branchOf level]

/-- Nothing in a level keeps a tree from being run. -/
structure Level.Runs (level : Level) : Prop where
  branches : ∀ node ∈ level.branches, node.obstacle? false = none
  items : ∀ item ∈ level.items, item.1.obstacle? false = none

namespace Level.Runs

variable {level : Level}

/-- The branches of a level that can be run have no obstacle. -/
theorem nodes (runs : level.Runs) : ∀ node ∈ level.nodes, node.obstacle? false = none := by
  intro node listed
  rcases List.mem_append.mp listed with listed | last
  · exact runs.branches node (List.mem_reverse.mp listed)
  · rw [List.mem_singleton.mp last]
    exact obstacle_ofItems runs.items

/-- A level can be run when none of its branches has an obstacle. -/
theorem of_nodes (each : ∀ node ∈ level.nodes, node.obstacle? false = none) : level.Runs where
  branches node listed := each node (List.mem_append_left _ (List.mem_reverse.mpr listed))
  items item listed := by
    have last := each _ (List.mem_append_right _ (List.mem_singleton_self _))
    exact (inherited_obstacle false).ofSequence_iff.mp last item.1
      (List.mem_map.mpr ⟨item, List.mem_reverse.mpr listed, rfl⟩)

/-- Items that can be run may be added. -/
theorem push (runs : level.Runs) {more : List (Node × Standing)}
    (each : ∀ item ∈ more, item.1.obstacle? false = none) :
    Level.Runs { level with items := more ++ level.items } where
  branches := runs.branches
  items item listed := by
    rcases List.mem_append.mp listed with listed | listed
    · exact each item listed
    · exact runs.items item listed

/-- What a text and its context put into a level can be run when both can. -/
theorem nested {own level : Level} {outer outer' : List Level} {limit limit' : Option Nat}
    (levels : Nested leading context limit limit' own outer level outer') (outermost : outer = [])
    (runs : own.Runs) (around : context.level.Runs) : level.Runs := by
  cases levels with
  | within =>
    have added := around.push fun item listed => runs.items item (List.mem_append_left _ listed)
    exact ⟨around.branches, added.items⟩
  | @across _ _ branches _ first =>
    refine ⟨fun node listed => ?_, runs.items⟩
    have ended := runs.branches _ (List.mem_append_right branches (List.mem_singleton_self _))
    rcases List.mem_append.mp listed with listed | listed
    · exact runs.branches node (List.mem_append_left _ listed)
    · rcases List.mem_cons.mp listed with rfl | listed
      · refine (inherited_obstacle false).ofSequence_iff.mpr fun node listed => ?_
        rcases List.mem_append.mp listed with before | after
        · obtain ⟨item, here, rfl⟩ := List.mem_map.mp before
          exact around.items item (List.mem_reverse.mp here)
        · exact (inherited_obstacle false).ofSequence_iff.mp ended node (List.mem_append_right _ after)
      · exact around.branches node listed
  | inner => cases outermost

end Level.Runs

/-! ## The whole text -/

/-- A text leaves a level when it is read up to the end of a pattern, behind some leading items, and
every reader that meets the text comes to its end with this level inside of its own. -/
structure Stands (base : Switches) (leading : List (Node × Standing)) (text : List Char) (own : Level) :
    Prop where
  clean : .dangling ∉ Symbol.ofChars text
  calm : Calm (Symbol.ofChars text)
  runs : own.Runs
  captureless : leading = [] → own.Captureless
  reads : ∀ (reader : Reader) (tail : List Symbol), reader.rest = Symbol.ofChars text ++ tail →
    Bounded tail → reader.Hosts base → ∃ position level,
      Nested leading reader none reader.lookBehindLimit own [] level reader.outer ∧
        reader.Reaches (reader.holding position tail reader.opened reader.widths level)

/-- A reader that has finished a pattern with a text stands for what every reader of the text comes to,
if it has gone on alike with all of them. -/
theorem Stands.of_finish {text : List Char} {final : Reader} {root : Node}
    (clean : .dangling ∉ Symbol.ofChars text) (calm : Calm (Symbol.ofChars text))
    (finished : Reading.finish final = .ok (root, final)) (repeats : base.template = false)
    (runs : root.obstacle? final.switches.template = none)
    (follows : ∀ (context : Reader) (tail : List Symbol),
      context.rest = Symbol.ofChars text ++ tail → Bounded tail → context.Hosts base →
        ∃ inside, context.Reaches inside ∧ Alike base leading context tail final inside ∧
          final.rest = []) :
    Stands base leading text final.level ∧ root = .ofBranches final.level.nodes ∧
      final.switches = base := by
  obtain ⟨-, outermost, isRoot, -⟩ := Reading.finish_eq_ok finished
  obtain ⟨turned, whole, captureless⟩ : final.switches = base ∧ final.level.bracket = .whole ∧
      (leading = [] → final.level.Captureless) := by
    obtain ⟨inside, -, alike, ended⟩ := follows (Reader.start (Symbol.ofChars text) base) []
      (List.append_nil _).symm Bounded.nil ⟨rfl, rfl⟩
    have captureless (unled : leading = []) := alike.captureless unled _ List.mem_cons_self
    obtain ⟨turned, whole, -⟩ := alike.ended outermost ended
    exact ⟨turned, whole, captureless⟩
  have tree : root = .ofBranches final.level.nodes := by
    rw [isRoot, Reading.closed, whole]
    rfl
  refine ⟨⟨clean, calm, ?_, captureless, ?_⟩, tree, turned⟩
  · rw [turned, repeats] at runs
    exact .of_nodes ((inherited_obstacle false).ofBranches_iff.mp (tree ▸ runs))
  · intro reader tail ahead behind hosts
    obtain ⟨inside, reached, alike, ended⟩ := follows reader tail ahead behind hosts
    obtain ⟨-, -, position, level, levels, rfl⟩ := alike.ended outermost ended
    exact ⟨position, level, levels, reached⟩

/-- A pattern without groups has not been spoiled. -/
theorem Reading.not_spoiled_of_finish {final : Reader} {root : Node}
    (finished : finish final = .ok (root, final)) (opened : final.opened = 0) : ¬ final.Spoiled := by
  obtain ⟨-, -, -, awaited⟩ := finish_eq_ok finished
  rintro (some | ⟨entry, listed, ahead⟩)
  · exact some opened
  · have bound := awaited entry listed
    omega

/-- A pattern without groups stands wherever its text is placed under its switches, with the level that
its reader has come to, when it neither turns switches on for the whole nor ends in a remark. -/
theorem Stands.of_readTree {text : String} {own : Pattern} (alone : read text base = .ok own)
    (groups : own.groups = 0) (repeats : base.template = false)
    (quiet : own.switches = .none ∨ ¬ (Reader.start (Symbol.ofChars text.toList) base).MeetsSwitches)
    (closed : base.verbose = false ∨
      ¬ (Reader.start (Symbol.ofChars text.toList) base).MeetsOpenRemark) :
    ∃ final, readTree text.toList base = .ok (own.root, final) ∧
      Stands base [] text.toList final.level ∧ own.root = .ofBranches final.level.nodes ∧
      own.switches = base := by
  obtain ⟨final, tree, runs, counted, turned, -⟩ := exists_of_read alone
  obtain ⟨head, stepped, finished⟩ := readTree_eq_ok tree
  obtain ⟨-, outermost, -, -⟩ := Reading.finish_eq_ok finished
  have sound := Reading.not_spoiled_of_finish finished (counted ▸ groups)
  obtain ⟨run, ended⟩ := Reading.reaches_of_steps (Nat.lt_succ_self _) stepped
  have clean := Reading.clean_of_steps head stepped
  rw [turned] at quiet ⊢
  refine ⟨final, tree, Stands.of_finish clean (Reading.steps_calm stepped) finished repeats runs ?_⟩
  -- In any context, a reader comes to the end of the text as the reader of the text alone does.
  intro context tail ahead behind hosts
  obtain ⟨inside, reached, alike⟩ := (Alike.start ahead behind hosts).reaches_outermost hosts run sound
    outermost (.inr quiet) closed
  exact ⟨inside, reached, alike, ended⟩

/-- A pattern without groups and without switches for the whole stands wherever its text is placed. -/
theorem Stands.of_read {text : String} {own : Pattern} (alone : read text .none = .ok own)
    (groups : own.groups = 0) (switches : own.switches = .none) :
    ∃ level, Stands .none [] text.toList level ∧ own.root = .ofBranches level.nodes := by
  obtain ⟨final, -, stands, tree, -⟩ := of_readTree alone groups rfl (.inl switches) (.inl rfl)
  exact ⟨final.level, stands, tree⟩

/-- A pattern without groups has no captures in its tree. -/
theorem captures_eq_zero {text : String} {own : Pattern} (alone : read text .none = .ok own)
    (groups : own.groups = 0) (switches : own.switches = .none) : own.root.captures = 0 := by
  obtain ⟨level, stands, tree⟩ := Stands.of_read alone groups switches
  exact tree ▸ (stands.captureless rfl).ofBranches

namespace Stands

variable {text : List Char} {own : Level}

/-- A text that stands is read as its branches at the start of every group that is closed behind it. -/
theorem enclosed (stands : Stands .none [] text own) : Enclosed text 0 fun _ => own.nodes where
  clean := stands.clean
  calm := stands.calm
  runs _ := stands.runs.nodes
  reads reader tail ahead _ plain group none := by
    obtain ⟨position, level, levels, reached⟩ :=
      stands.reads reader _ ahead (.closing tail) ⟨plain, group.branching⟩
    refine ⟨position, reader.widths, level, ?_, ?_, reached⟩
    · cases levels <;> rfl
    · cases levels <;> simp [Level.nodes, Reading.branchOf, none]

/-- A text that stands is a pattern also with texts around it that spell items, where the second one
begins with an edge. -/
theorem between (stands : Stands .none leading text own) {front back : List Char} {captures further : Nat}
    {items later : Nat → List (Node × Standing)} (before : Spells front captures items)
    (behind : Spells back further later) (bounded : Bounded (Symbol.ofChars back)) {source : String}
    (written : source.toList = front ++ text ++ back) :
    ∃ whole, read source .none = .ok whole ∧ whole.groups = captures + further ∧
      whole.switches = .none := by
  have cut : Symbol.ofChars source.toList =
      Symbol.ofChars front ++ (Symbol.ofChars text ++ (Symbol.ofChars back ++ [])) := by
    rw [written, List.append_assoc, Symbol.ofChars_append before.clean,
      Symbol.ofChars_append stands.clean, List.append_nil]
  obtain ⟨place, widths, first⟩ := before.reads (Reader.start (Symbol.ofChars source.toList) .none) _
    cut (stands.calm.append (behind.calm.append Calm.nil)) (by simp [stands.clean, behind.clean]) rfl
  generalize reached : Reader.further _ place _ _ widths _ = middle at first
  have rest : middle.rest = Symbol.ofChars text ++ (Symbol.ofChars back ++ []) := reached ▸ rfl
  have around : middle.level.Runs := by
    subst reached
    exact (⟨by simp [Reader.start], by simp [Reader.start]⟩ :
      (Reader.start (Symbol.ofChars source.toList) .none).level.Runs).push (before.runs 0)
  have opened : middle.opened = captures := by
    subst reached
    exact Nat.zero_add _
  obtain ⟨position, level, levels, second⟩ := stands.reads middle _ rest
    (by rwa [List.append_nil]) (by subst reached; exact ⟨rfl, rfl⟩)
  obtain ⟨position', widths', third⟩ := behind.reads
    (middle.holding position (Symbol.ofChars back ++ []) middle.opened middle.widths level) [] rfl
    Calm.nil (by simp) (by subst reached; cases levels <;> rfl)
  have runs := (Level.Runs.nested levels rfl stands.runs around).push (behind.runs middle.opened)
  have clean : .dangling ∉ Symbol.ofChars source.toList := by
    simp [cut, before.clean, stands.clean, behind.clean]
  have closed : (Reading.closed { level with
      items := later middle.opened ++ level.items }).obstacle? false = none := by
    have bracket : level.bracket = .whole := by
      subst reached
      cases levels <;> rfl
    rw [Reading.closed, bracket]
    exact (inherited_obstacle false).ofBranches_iff.mpr runs.nodes
  exact ⟨_, read_of_reaches clean (first.trans (second.trans third)) rfl (by subst reached; rfl)
    (by subst reached; rfl) (by subst reached; rfl) closed, by
      simp [Reader.further, Reader.holding, opened], rfl⟩

end Stands

/-- A text that is a pattern on its own, without groups and without switches for the whole, is read as
the same branches at the start of every group that is closed behind it. -/
theorem Enclosed.of_read {text : String} {own : Pattern} (alone : read text .none = .ok own)
    (groups : own.groups = 0) (switches : own.switches = .none) :
    ∃ nodes, Enclosed text.toList 0 (fun _ => nodes) ∧ own.root = .ofBranches nodes := by
  obtain ⟨level, stands, tree⟩ := Stands.of_read alone groups switches
  exact ⟨level.nodes, stands.enclosed, tree⟩

end LineGrammar.Pattern
