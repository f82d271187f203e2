import LineGrammar.Proofs.Pattern.Meaning
import LineGrammar.Proofs.Pattern.Standalone

/-!
# Parts of a pattern with switches of their own

A text can be put into a parenthesis that turns switches on for what stands within it. The letters are
read one after another up to the colon, and behind it the layout is the one that the switches ask for. So
a text that stands under some switches is read there as it was read under them, and the part as a whole is
one operand, whatever stands around it. It matches what the text matches under its switches, because
nothing else is turned on outside.
-/

namespace LineGrammar.Pattern

open LineGrammar.Text

/-! ## The letters of switches -/

namespace Switches

/-- The switches that letters turn on. -/
def spelled (on : Switches) (letters : List Char) : Switches :=
  (letters.filterMap Switch.ofLetter?).foldl insert on

/-- A letter that is known inserts its switch. -/
theorem spelled_cons {on : Switches} {c : Char} {switch : Switch} (known : Switch.ofLetter? c = some switch)
    (letters : List Char) : on.spelled (c :: letters) = (on.insert switch).spelled letters := by
  simp [spelled, known]

/-- Each of the letters turns a switch on, and none the full character set. -/
theorem letters_known {on : Switches} {c : Char} (letter : c ∈ on.letters) :
    ∃ switch, Switch.ofLetter? c = some switch ∧ switch ≠ .unicode := by
  have known : c = 'a' ∨ c = 'i' ∨ c = 'm' ∨ c = 's' ∨ c = 'x' := by
    simp only [letters, List.mem_filterMap, List.mem_cons, List.not_mem_nil, or_false] at letter
    obtain ⟨⟨isOn, letter⟩, listed, found⟩ := letter
    obtain ⟨-, rfl⟩ : isOn = true ∧ letter = c := by simpa using found
    rcases listed with listed | listed | listed | listed | listed <;>
      · cases listed
        simp
  rcases known with rfl | rfl | rfl | rfl | rfl <;> exact ⟨_, rfl, by decide⟩

/-- The switches that a fragment can carry along are told by their letters. -/
theorem spelled_letters {on : Switches} (unicode : on.unicode = false) (template : on.template = false) :
    none.spelled on.letters = on := by
  obtain ⟨a, i, m, s, x, u, t⟩ := on
  cases unicode
  cases template
  cases a <;> cases i <;> cases m <;> cases s <;> cases x <;> rfl

/-- Without letters, no switch is on. -/
theorem eq_none_of_letters {on : Switches} (unicode : on.unicode = false)
    (template : on.template = false) (unlettered : on.letters = []) : on = none := by
  rw [← spelled_letters unicode template, unlettered]
  rfl

/-- Switches that are turned on where none are on. -/
theorem none_within (on : Switches) : none.within on none = on := by
  obtain ⟨a, i, m, s, x, u, t⟩ := on
  cases a <;> cases u <;> simp [within, none]

end Switches

namespace Reading

variable {reader : Reader} {tail : List Symbol}

/-- A letter that turns a switch on is followed by the end of the list, or by another letter. -/
theorem switchesOn_letter {c : Char} {switch : Switch} {on : Switches} {next : Symbol} (steps : Nat)
    (known : Switch.ofLetter? c = some switch) (apart : switch ≠ .unicode) (unicode : on.unicode = false)
    (ahead : reader.rest = next :: tail) (clean : .dangling ∉ tail) :
    switchesOn (steps + 1) (.plain c) on reader =
      (if next = .plain ')' || next = .plain '-' || next = .plain ':' then pure (next, on.insert switch)
        else if !isSwitch next then
          (fail (strangeSwitch .missingSwitchEnd next) next.size : Reading Unit) >>= fun _ =>
            switchesOn steps next (on.insert switch)
        else switchesOn steps next (on.insert switch))
          (reader.moved (reader.position + next.size) tail) := by
  have both : ¬((on.insert switch).ascii && (on.insert switch).unicode) = true := by
    cases switch <;> simp_all [Switches.insert]
  have letter : (Symbol.plain c).chars.headD 'L' = c := rfl
  rw [switchesOn, letter]
  simp only [known]
  rw [if_neg both, bind_ok (take_some ahead clean)]

/-- Letters that turn switches on are read up to the colon. -/
theorem switchesOn_spelled {letters : List Char} {c : Char} {on : Switches} {steps : Nat}
    (each : ∀ letter ∈ c :: letters, ∃ switch, Switch.ofLetter? letter = some switch ∧ switch ≠ .unicode)
    (unicode : on.unicode = false) (enough : letters.length < steps)
    (ahead : reader.rest = letters.map .plain ++ .plain ':' :: tail) (clean : .dangling ∉ tail) :
    ∃ position, switchesOn steps (.plain c) on reader =
      .ok ((.plain ':', on.spelled (c :: letters)), reader.moved position tail) := by
  induction letters generalizing c on steps reader with
  | nil =>
    obtain ⟨steps, rfl⟩ := Nat.exists_eq_succ_of_ne_zero (Nat.ne_zero_of_lt enough)
    obtain ⟨switch, known, apart⟩ := each c List.mem_cons_self
    rw [switchesOn_letter steps known apart unicode ahead clean, if_pos (by decide),
      Switches.spelled_cons known]
    exact ⟨_, rfl⟩
  | cons d letters ih =>
    obtain ⟨steps, rfl⟩ := Nat.exists_eq_succ_of_ne_zero (Nat.ne_zero_of_lt enough)
    obtain ⟨switch, known, apart⟩ := each c List.mem_cons_self
    obtain ⟨switch', known', -⟩ := each d (by simp)
    have off : (on.insert switch).unicode = false := by
      cases switch <;> simp_all [Switches.insert]
    have goesOn : ¬ (decide (Symbol.plain d = .plain ')') || decide (Symbol.plain d = .plain '-') ||
        decide (Symbol.plain d = .plain ':')) = true := by
      simp only [Symbol.plain.injEq, Bool.or_eq_true, decide_eq_true_eq]
      rintro ((rfl | rfl) | rfl) <;> cases known'
    have isLetter : ¬ (!isSwitch (.plain d)) = true := by simp [isSwitch, known']
    have behind : .dangling ∉ letters.map Symbol.plain ++ .plain ':' :: tail := by simp [clean]
    rw [switchesOn_letter steps known apart unicode ahead behind, if_neg goesOn, if_neg isLetter,
      Switches.spelled_cons known]
    exact ih (fun letter listed => each letter (List.mem_cons_of_mem _ listed)) off
      (Nat.lt_of_succ_lt_succ enough) rfl

/-- A colon behind the letters turns nothing off. -/
theorem scopedBehind_colon {on : Switches} (template : on.template = false) (steps : Nat) :
    scopedBehind steps (.plain ':') on reader = .ok (some (on, .none), reader) := by
  have apart : ¬ on.meets .none = true := by simp [Switches.meets, Switches.none]
  have strict : ¬ on.template = true := by simp [template]
  have colon : ¬ Symbol.plain ':' = .plain '-' := by decide
  have kept : ¬ Switches.none.template = true := by decide
  rw [scopedBehind, if_neg strict, if_neg colon]
  refine (bind_ok rfl).trans ?_
  dsimp only
  rw [if_neg kept, if_neg apart]
  rfl

/-- The switches that a fragment carries along are read as those of a part. -/
theorem scopedSwitches?_letters {on : Switches} (unicode : on.unicode = false)
    (template : on.template = false) {c : Char} {letters : List Char} (lettered : on.letters = c :: letters)
    (ahead : reader.rest = letters.map .plain ++ .plain ':' :: tail) (clean : .dangling ∉ tail) :
    ∃ position, scopedSwitches? (.plain c) reader =
      .ok (some (on, .none), reader.moved position tail) := by
  have each : ∀ letter ∈ c :: letters, ∃ switch,
      Switch.ofLetter? letter = some switch ∧ switch ≠ .unicode :=
    fun letter listed => Switches.letters_known (lettered ▸ listed)
  have minus : Symbol.plain c ≠ .plain '-' := by
    obtain ⟨switch, known, -⟩ := each c List.mem_cons_self
    rintro ⟨⟩
    cases known
  have enough : letters.length < reader.rest.length + 1 := by
    rw [ahead]
    simp only [List.length_append, List.length_map]
    omega
  obtain ⟨position, turned⟩ : ∃ position, switchesOn (reader.rest.length + 1) (.plain c) .none reader =
      .ok ((.plain ':', on), reader.moved position tail) := by
    rw [← Switches.spelled_letters unicode template, lettered]
    exact switchesOn_spelled each rfl enough ahead clean
  refine ⟨position, ?_⟩
  rw [scopedSwitches?_eq, get_bind, if_neg minus, bind_ok turned, if_neg (by simp)]
  exact scopedBehind_colon template _

/-- The letter of a switch opens a part with the switches that begin with it. -/
theorem openExtension_switch {c : Char} {switch : Switch} {on off : Switches} {middle last : Reader}
    (opening : Nat) (known : Switch.ofLetter? c = some switch)
    (taken : take? reader = .ok (some (.plain c), middle))
    (scope : scopedSwitches? (.plain c) middle = .ok (some (on, off), last)) :
    openExtension opening reader =
      openLevel (.scoped on off) opening ((reader.level.verbose || on.verbose) && !off.verbose) last := by
  rw [openExtension, get_bind, bind_ok taken]
  have isLetter : c = 'a' ∨ c = 'i' ∨ c = 'm' ∨ c = 's' ∨ c = 'x' ∨ c = 'u' ∨ c = 't' := by
    unfold Switch.ofLetter? at known
    split at known <;> simp at known ⊢
  rcases isLetter with rfl | rfl | rfl | rfl | rfl | rfl | rfl <;> exact (bind_ok scope).trans rfl

/-- A parenthesis with a question mark announces something. -/
theorem item_extension {middle : Reader} (position : Nat)
    (accepted : accept '?' reader = .ok (true, middle)) :
    item position (.plain '(') reader = openExtension position middle := by
  rw [item]
  exact bind_ok accepted

/-- The letters of the switches that a fragment carries along open a part under these switches. -/
theorem openExtension_letters {on : Switches} (unicode : on.unicode = false)
    (template : on.template = false) (lettered : on.letters ≠ []) (opening : Nat)
    (ahead : reader.rest = on.letters.map .plain ++ .plain ':' :: tail) (clean : .dangling ∉ tail)
    (strict : reader.level.verbose = false) :
    ∃ position, openExtension opening reader = .ok ((), { reader with
      position, rest := tail
      level := ⟨.scoped on .none, opening, on.verbose, [], []⟩
      outer := reader.level :: reader.outer }) := by
  obtain ⟨c, letters, same⟩ := List.exists_cons_of_ne_nil lettered
  obtain ⟨switch, known, -⟩ := Switches.letters_known (same ▸ List.mem_cons_self : c ∈ on.letters)
  rw [same, List.map_cons, List.cons_append] at ahead
  have taken := take_some ahead (by simpa using clean)
  obtain ⟨position, scope⟩ := scopedSwitches?_letters unicode template same
    (Reader.moved_rest reader (reader.position + 1) (letters.map .plain ++ .plain ':' :: tail)) clean
  have layout : ((reader.level.verbose || on.verbose) && !Switches.none.verbose) = on.verbose := by
    simp [strict, Switches.none]
  rw [openExtension_switch opening known taken scope, layout]
  exact ⟨position, rfl⟩

/-- What turns switches on for a part leads into it. -/
theorem step_openScope {on : Switches} (unicode : on.unicode = false) (template : on.template = false)
    (lettered : on.letters ≠ [])
    (ahead : reader.rest = .plain '(' :: .plain '?' :: on.letters.map .plain ++ .plain ':' :: tail)
    (clean : .dangling ∉ tail) (strict : reader.level.verbose = false) :
    ∃ position opening, step reader = .ok (true,
      (reader.inside position tail 0 (.scoped on .none) opening).holding position tail reader.opened
        reader.widths ⟨.scoped on .none, opening, on.verbose, [], []⟩) := by
  have behind : .dangling ∉ on.letters.map Symbol.plain ++ .plain ':' :: tail := by simp [clean]
  have sound : .dangling ∉ Symbol.plain '?' :: (on.letters.map .plain ++ .plain ':' :: tail) := by
    simpa using clean
  have accepted := accept_true (Reader.moved_rest reader (reader.position + 1)
    (.plain '?' :: (on.letters.map .plain ++ .plain ':' :: tail))) behind
  obtain ⟨position, opened⟩ := openExtension_letters unicode template lettered reader.position
    (Reader.moved_rest (reader.moved (reader.position + 1)
      (.plain '?' :: (on.letters.map .plain ++ .plain ':' :: tail))) (reader.position + 1 + 1)
        (on.letters.map .plain ++ .plain ':' :: tail)) clean (by exact strict)
  refine ⟨position, reader.position, step_item ahead sound strict (by simp) (by simp) ?_⟩
  exact (item_extension _ accepted).trans opened

end Reading

/-! ## The part of a pattern -/

/-- A text in a part that turns switches on. -/
def scopeText (on : Switches) (text : List Char) : List Char :=
  '(' :: '?' :: on.letters ++ ':' :: text ++ [')']

/-- Letters are read as themselves. -/
theorem Symbol.ofChars_letters {letters : List Char} (apart : backslash ∉ letters) (rest : List Char) :
    Symbol.ofChars (letters ++ rest) = letters.map .plain ++ Symbol.ofChars rest := by
  induction letters with
  | nil => rfl
  | cons c letters ih =>
    rw [List.mem_cons, not_or] at apart
    rw [List.cons_append, Symbol.ofChars_plain (Ne.symm apart.1), ih apart.2]
    rfl

/-- A text in a part with switches is read as itself between what opens the part and the parenthesis that
closes it. -/
theorem Symbol.ofChars_scopeText (on : Switches) {text : List Char}
    (clean : .dangling ∉ Symbol.ofChars text) :
    Symbol.ofChars (scopeText on text) = .plain '(' :: .plain '?' :: on.letters.map .plain ++
      .plain ':' :: (Symbol.ofChars text ++ [.plain ')']) := by
  have apart : backslash ∉ on.letters := by
    intro listed
    obtain ⟨switch, known, -⟩ := Switches.letters_known listed
    cases known
  have written : scopeText on text = '(' :: '?' :: (on.letters ++ ':' :: (text ++ [')'])) := by
    simp [scopeText]
  rw [written, Symbol.ofChars_plain (by decide), Symbol.ofChars_plain (by decide),
    Symbol.ofChars_letters apart, Symbol.ofChars_plain (by decide), Symbol.ofChars_append clean]
  rfl

/-- A text that stands under switches is an operand in a part that turns them on. -/
theorem Stands.scope {on : Switches} {text : List Char} {own : Level} (stands : Stands on [] text own)
    (unicode : on.unicode = false) (template : on.template = false) (lettered : on.letters ≠ []) :
    Operand (scopeText on text) 0 fun _ => .scoped on .none (.ofBranches own.nodes) where
  clean := by
    rw [Symbol.ofChars_scopeText on stands.clean]
    simpa using stands.clean
  calm := by
    rw [Symbol.ofChars_scopeText on stands.clean]
    simp [Calm]
  runs _ := (inherited_obstacle false).ofBranches_iff.mpr stands.runs.nodes
  reads reader tail ahead clean strict := by
    rw [Symbol.ofChars_scopeText on stands.clean] at ahead
    have within : .dangling ∉ Symbol.ofChars text ++ .plain ')' :: tail := by
      simp [stands.clean, clean]
    obtain ⟨position, opening, opened⟩ := Reading.step_openScope unicode template lettered
      (by simpa using ahead) within strict
    obtain ⟨position', level, levels, reached⟩ := stands.reads
      ((reader.inside position (Symbol.ofChars text ++ .plain ')' :: tail) 0 (.scoped on .none)
        opening).holding position (Symbol.ofChars text ++ .plain ')' :: tail) reader.opened reader.widths
          ⟨.scoped on .none, opening, on.verbose, [], []⟩) (.plain ')' :: tail) rfl (.closing tail)
      ⟨rfl, trivial⟩
    have bracket : level.bracket = .scoped on .none := by
      cases levels <;> rfl
    have nodes : level.branches.reverse ++ [Reading.branchOf level] = own.nodes := by
      cases levels <;> simp [Level.nodes, Reading.branchOf, Reader.holding]
    have group : level.bracket.IsGroup := bracket ▸ .scoped on .none
    obtain ⟨widths, closed⟩ := Reading.step_close reader position' reader.opened 0 position opening
      (Symbol.ofChars text ++ .plain ')' :: tail) (.scoped on .none) reader.widths clean group
    rw [nodes, bracket] at closed
    refine ⟨position' + 1, widths, .step opened ?_ (reached.trans (.single closed ?_))⟩
    · simp only [ahead, Reader.holding, List.length_cons, List.length_append]
      omega
    · simp [Reader.further, Reader.holding]

/-- What a text that stands under switches matches in full, it matches in a part that turns them on. -/
theorem matchesFully_scope {on : Switches} {own stored : Pattern} (text : List Char)
    (switches : own.switches = on) (outside : stored.switches = .none)
    (root : stored.root = .scoped on .none own.root) :
    stored.matchesFully text = own.matchesFully text := by
  rw [matchesFully, matchesFully, matchWhere, matchWhere, outside, root, switches, Node.run,
    Switches.none_within]

end LineGrammar.Pattern
