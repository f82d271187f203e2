import LineGrammar.Proofs.Pattern.Counts
import LineGrammar.Proofs.Pattern.Detachment
import LineGrammar.Proofs.Pattern.Scopes
import LineGrammar.Proofs.TypedLists

/-!
# Patterns with switches as types

A pattern that has been read under switches becomes a fragment by a parenthesis around its text that turns
the same switches on. As the pattern of a type, the fragment matches in full what the pattern matches in
full, provided that the pattern has no groups and turns no switches on for the whole by its own text.

One kind of text does not survive this. Where the layout is free, a pattern may end in a remark, which the
end of the pattern ends. In the fragment, the remark goes on over the parenthesis that should close the
part, and over everything else up to the end of the line; so the part is never closed, and the registration
of the type is refused.
-/

namespace LineGrammar

open LineGrammar.Text LineGrammar.Pattern

namespace Pattern

/-! ## What a text comes to -/

/-- The text of a pattern turns switches on for the whole: its reader comes to a parenthesis with nothing
but their letters. -/
def TurnsSwitchesOn (source : String) (on : Switches) : Prop :=
  (Reader.start (Symbol.ofChars source.toList) on).MeetsSwitches

/-- A pattern ends in a remark: its reader comes to a remark that no line end ends. -/
def EndsInRemark (source : String) (on : Switches) : Prop :=
  (Reader.start (Symbol.ofChars source.toList) on).MeetsOpenRemark

/-- What is ahead of a reader ends what was ahead of it before. -/
theorem Reader.Reaches.suffix {first last : Reader} (reached : first.Reaches last) :
    last.rest <:+ first.rest := by
  induction reached with
  | here => exact List.suffix_rfl
  | step taken _ _ ih => exact ih.trans (Reading.Onward.step _ _ _ taken)

/-- A plain symbol of a text is one of its characters. -/
theorem Symbol.mem_of_plain {c : Char} {text : List Char} (listed : .plain c ∈ Symbol.ofChars text) :
    c ∈ text := by
  rw [← Symbol.charsOf_ofChars text, Symbol.charsOf]
  exact List.mem_flatMap.mpr ⟨_, listed, List.mem_singleton_self c⟩

/-- Without a parenthesis, a text turns no switches on for the whole. -/
theorem TurnsSwitchesOn.parenthesis {source : String} {on : Switches}
    (turns : TurnsSwitchesOn source on) : '(' ∈ source.toList := by
  obtain ⟨middle, reached, letters, more, ahead, -⟩ := turns
  exact Symbol.mem_of_plain (reached.suffix.subset (by simp [ahead]))

/-- Without a number sign, a text does not end in a remark. -/
theorem EndsInRemark.numberSign {source : String} {on : Switches} (ends : EndsInRemark source on) :
    '#' ∈ source.toList := by
  obtain ⟨middle, reached, -, remark, ahead, -⟩ := ends
  exact Symbol.mem_of_plain (reached.suffix.subset (by simp [ahead]))

/-! ## Remarks that stay open -/

/-- Of two places that a reader comes to, the one at the end of the pattern is behind the other. -/
theorem Reader.Reaches.to_end {first middle last : Reader} (reached : first.Reaches middle)
    (whole : first.Reaches last) (ended : last.rest = []) : middle.Reaches last := by
  induction reached with
  | here => exact whole
  | step taken shorter _ ih =>
    cases whole with
    | here =>
      rw [ended] at shorter
      exact absurd shorter (Nat.not_lt_zero _)
    | step taken' _ more =>
      rw [taken] at taken'
      cases taken'
      exact ih more

/-- Where no line ends, a remark ends at a backslash that is the last character, or where the pattern
does. -/
theorem drop_remark {symbols : List Symbol} (unended : .plain '\n' ∉ symbols)
    (sound : (symbols.drop (symbols.takeWhile fun symbol =>
      symbol != .plain '\n' && symbol != .dangling).length).head? ≠ some .dangling) :
    symbols.drop (symbols.takeWhile fun symbol =>
      symbol != .plain '\n' && symbol != .dangling).length = [] := by
  induction symbols with
  | nil => rfl
  | cons symbol symbols ih =>
    rw [List.mem_cons, not_or] at unended
    by_cases last : symbol = .dangling
    · simp [last] at sound
    · have goesOn : (symbol != .plain '\n' && symbol != .dangling) = true := by
        simpa [last] using Ne.symm unended.1
      rw [List.takeWhile_cons, if_pos goesOn] at sound ⊢
      exact ih unended.2 sound

/-- Where no line ends, a remark goes on up to the end of the pattern. -/
theorem Reading.remark_unended {first last : Reader} {u : Unit} (unended : .plain '\n' ∉ first.rest)
    (taken : remark first = .ok (u, last)) :
    last.rest = [] ∧ last.outer = first.outer ∧ last.switches = first.switches := by
  rw [remark, discard_bind] at taken
  obtain ⟨run, middle, runs, passed⟩ := bind_eq_ok.mp taken
  obtain ⟨rfl, passes⟩ := takeWhile_eq_ok.mp runs
  obtain ⟨sound, rfl⟩ := advance_eq_ok.mp passes
  obtain ⟨-, rfl⟩ := advance_eq_ok.mp passed
  exact ⟨by simp [drop_remark unended sound], rfl, rfl⟩

/-- A remark that nothing ends goes on up to the end of the pattern, within the same level. -/
theorem Reader.OpensRemark.step {first last : Reader} (opens : first.OpensRemark)
    (taken : Reading.step first = .ok (true, last)) :
    last.rest = [] ∧ last.outer = first.outer ∧ last.switches = first.switches := by
  obtain ⟨verbose, remark, ahead, unended⟩ := opens
  rw [Reading.step_eq ahead] at taken
  obtain ⟨_, _, here, result⟩ := Reading.bind_eq_ok.mp taken
  cases result
  obtain ⟨_, middle, passed, rest⟩ := Reading.bind_eq_ok.mp here
  obtain ⟨-, rfl⟩ := Reading.advance_eq_ok.mp passed
  have remarked : Reading.symbolRead first.position first.level.verbose (.plain '#') = Reading.remark := by
    rw [verbose]
    rfl
  rw [remarked] at rest
  have ended := Reading.remark_unended (by simpa [ahead] using unended) rest
  exact ended

/-- Within a level of a context that is not the outermost one, every reader of a text is within a level. -/
theorem Alike.nested {base : Switches} {leading : List (Node × Standing)} {context first inside : Reader}
    {tail : List Symbol} (alike : Alike base leading context tail first inside)
    (within : context.outer ≠ []) : inside.outer ≠ [] := by
  obtain ⟨position, position', behind, levels⟩ := alike
  cases levels with
  | within => exact within
  | across => exact within
  | inner => exact List.cons_ne_nil _ _

/-- The first of two alike readers stands under the switches of the text. -/
theorem Alike.switches {base : Switches} {leading : List (Node × Standing)} {context first inside : Reader}
    {tail : List Symbol} (alike : Alike base leading context tail first inside) :
    first.switches = base := by
  cases alike
  rfl

/-- A pattern has been read by a reader that came to its end at the outermost level. -/
theorem exists_reached_of_read {source : String} {on : Switches} {pattern : Pattern}
    (is : read source on = .ok pattern) :
    ∃ final, (Reader.start (Symbol.ofChars source.toList) on).Reaches final ∧ final.rest = [] ∧
      final.outer = [] ∧ pattern.switches = final.switches ∧ (pattern.groups = 0 → ¬ final.Spoiled) := by
  obtain ⟨final, tree, -, counted, turned, -⟩ := exists_of_read is
  obtain ⟨-, stepped, finished⟩ := readTree_eq_ok tree
  obtain ⟨reached, ended⟩ := Reading.reaches_of_steps (Nat.lt_succ_self _) stepped
  obtain ⟨-, outermost, -⟩ := Reading.finish_eq_ok finished
  exact ⟨final, reached, ended, outermost, turned, fun groups =>
    Reading.not_spoiled_of_finish finished (counted ▸ groups)⟩

/-- Up to a remark that stays open, a reader in any context goes along with the reader of the text. -/
theorem exists_alike_of_openRemark {source : String} {on : Switches} {own : Pattern} {middle : Reader}
    (alone : read source on = .ok own) (groups : own.groups = 0)
    (quiet : ¬ TurnsSwitchesOn source on)
    (met : (Reader.start (Symbol.ofChars source.toList) on).Reaches middle) (opens : middle.OpensRemark)
    {context : Reader} {tail : List Symbol} (ahead : context.rest = Symbol.ofChars source.toList ++ tail)
    (behind : Bounded tail) (hosts : context.Hosts on) :
    ∃ inside, context.Reaches inside ∧ Alike on [] context tail middle inside := by
  obtain ⟨last, through, done, -, -, sound⟩ := exists_reached_of_read alone
  rcases (Alike.start ahead behind hosts).reaches hosts met with spoiled | ⟨-, meets, -⟩ |
    ⟨-, empty, -⟩ | followed
  · exact absurd ((met.to_end through done).later.spoiled spoiled) (sound groups)
  · exact absurd meets quiet
  · obtain ⟨-, remark, ahead, -⟩ := opens
    rw [ahead] at empty
    cases empty
  · exact followed

/-- A pattern that ends in a remark has the switches under which it was read. -/
theorem switches_of_openRemark {source : String} {on : Switches} {own : Pattern}
    (alone : read source on = .ok own) (groups : own.groups = 0)
    (quiet : ¬ TurnsSwitchesOn source on)
    (remark : EndsInRemark source on) : own.switches = on := by
  obtain ⟨middle, met, opens⟩ := remark
  obtain ⟨final, run, ended, -, turned, -⟩ := exists_reached_of_read alone
  -- The reader of the text is itself a context of the text.
  obtain ⟨inside, -, alike⟩ := @exists_alike_of_openRemark _ _ _ _ alone groups quiet met opens
    (Reader.start (Symbol.ofChars source.toList) on) [] (List.append_nil _).symm Bounded.nil ⟨rfl, rfl⟩
  rw [turned, ← alike.switches]
  cases met.to_end run ended with
  | here => rfl
  | step taken _ more =>
    obtain ⟨empty, -, kept⟩ := opens.step taken
    rw [more.eq_of_ended empty, kept]

/-- A text that ends in a remark is lost within a level: what stands behind it up to the end of a line
belongs to the remark, so the level is never closed. -/
theorem not_read_of_openRemark {source whole : String} {on : Switches} {own : Pattern}
    (alone : read source on = .ok own) (groups : own.groups = 0)
    (quiet : ¬ TurnsSwitchesOn source on)
    (remark : EndsInRemark source on)
    {context : Reader} {tail : List Symbol}
    (reached : (Reader.start (Symbol.ofChars whole.toList) .none).Reaches context)
    (ahead : context.rest = Symbol.ofChars source.toList ++ tail) (behind : Bounded tail)
    (line : .plain '\n' ∉ tail) (hosts : context.Hosts on) (within : context.outer ≠ [])
    (pattern : Pattern) : read whole .none ≠ .ok pattern := by
  intro is
  obtain ⟨final, run, ended, outermost, -⟩ := exists_reached_of_read is
  obtain ⟨middle, met, opens⟩ := remark
  obtain ⟨inside, reached', alike⟩ :=
    exists_alike_of_openRemark alone groups quiet met opens ahead behind hosts
  have opens' : inside.OpensRemark := by
    obtain ⟨verbose, remark, ahead, unended⟩ := opens
    refine ⟨alike.resembles.verbose ▸ verbose, remark ++ tail, by simp [alike.rest, ahead], ?_⟩
    simp [unended, line]
  cases (reached.trans reached').to_end run ended with
  | here =>
    obtain ⟨-, remark, ahead, -⟩ := opens'
    rw [ahead] at ended
    cases ended
  | step taken _ more =>
    obtain ⟨empty, kept, -⟩ := opens'.step taken
    rw [more.eq_of_ended empty, kept] at outermost
    exact alike.nested within outermost

end Pattern

namespace Fragment

/-- The fragment for a pattern with letters puts its text under them. -/
theorem ofPattern_of_letters {own : Pattern} (lettered : own.switches.letters ≠ []) :
    (ofPattern own).toList = scopeText own.switches own.source.toList := by
  simp [ofPattern, lettered, scopeText]

/-- The fragment for a pattern without letters is its text. -/
theorem ofPattern_of_none {own : Pattern} (unlettered : own.switches.letters = []) :
    ofPattern own = own.source := by
  simp [ofPattern, unlettered]

end Fragment

namespace TypeTable

variable {source : String} {on : Switches} {own : Pattern}

/-- A pattern that ends in no remark is read in a part with its switches as it was read under them. -/
theorem read_ofPattern (unicode : on.unicode = false) (template : on.template = false)
    (alone : Pattern.read source on = .ok own) (groups : own.groups = 0)
    (quiet : ¬ TurnsSwitchesOn source on)
    (closed : ¬ EndsInRemark source on) :
    ∃ stored, Pattern.read (Fragment.ofPattern own) .none = .ok stored ∧ stored.groups = 0 ∧
      stored.switches = .none ∧ ∀ text, stored.matchesFully text = own.matchesFully text := by
  obtain ⟨final, -, stands, root, switches⟩ :=
    Stands.of_readTree alone groups template (.inr quiet) (.inr closed)
  obtain ⟨-, -, -, -, -, written⟩ := exists_of_read alone
  by_cases lettered : on.letters = []
  · cases Switches.eq_none_of_letters unicode template lettered
    rw [Fragment.ofPattern_of_none (switches ▸ lettered), written]
    exact ⟨own, alone, groups, switches, fun _ => rfl⟩
  · have operand := stands.scope unicode template lettered
    rw [← written, ← switches, ← Fragment.ofPattern_of_letters (switches ▸ lettered)] at operand
    refine ⟨_, operand.spells.read_eq, rfl, rfl, fun text => matchesFully_scope text rfl rfl ?_⟩
    rw [root]
    rfl

/-- A reader of an embedded fragment comes to the fragment within a group. -/
theorem reaches_embedded {fragment : String} (clean : .dangling ∉ Symbol.ofChars fragment.toList) :
    ∃ context, (Reader.start (Symbol.ofChars (Fragment.embedded fragment).toList) .none).Reaches context ∧
      context.rest = Symbol.ofChars fragment.toList ++ [.plain ')'] ∧ context.level.verbose = false ∧
      context.Branching ∧ context.outer ≠ [] := by
  have written : (Fragment.embedded fragment).toList =
      ['x'] ++ '(' :: '?' :: ':' :: (fragment.toList ++ [')']) := by
    simp [Fragment.embedded]
  have character : Symbol.ofChars ['x'] = [.plain 'x'] := by decide
  have ahead : Symbol.ofChars (Fragment.embedded fragment).toList = [.plain 'x'] ++
      .plain '(' :: .plain '?' :: .plain ':' :: (Symbol.ofChars fragment.toList ++ [.plain ')']) := by
    rw [written, Symbol.ofChars_append (by decide), character, Symbol.ofChars_openPlain,
      Symbol.ofChars_append clean]
    rfl
  have sound : .dangling ∉ Symbol.ofChars fragment.toList ++ [.plain ')'] := by simp [clean]
  obtain ⟨position, widths, first⟩ := (Operand.character 'x').reads
    (Reader.start (Symbol.ofChars (Fragment.embedded fragment).toList) .none) _ ahead
    (by simpa using clean) rfl
  obtain ⟨place, opening, opened⟩ := @Reading.step_openPlain
    ((Reader.start (Symbol.ofChars (Fragment.embedded fragment).toList) .none).further position
      (.plain '(' :: .plain '?' :: .plain ':' :: (Symbol.ofChars fragment.toList ++ [.plain ')'])) 0 widths
        [(.character 'x'.toNat, .operand)]) _ rfl (fun same => sound (List.mem_of_mem_head? same)) rfl
  refine ⟨_, first.trans (.single opened ?_), rfl, rfl, trivial, List.cons_ne_nil _ _⟩
  simp [Reader.inside, Reader.further, Reader.holding]

/-- A pattern that ends in a remark is lost behind what leads into the group of an embedded fragment. -/
theorem not_embedded_of_openRemark (unicode : on.unicode = false) (template : on.template = false)
    (alone : Pattern.read source on = .ok own) (groups : own.groups = 0)
    (quiet : ¬ TurnsSwitchesOn source on)
    (remark : EndsInRemark source on) (pattern : Pattern) :
    Pattern.read (Fragment.embedded (Fragment.ofPattern own)) .none ≠ .ok pattern := by
  obtain ⟨final, tree, -, -, -, written⟩ := exists_of_read alone
  obtain ⟨head, stepped, -⟩ := readTree_eq_ok tree
  have clean := Reading.clean_of_steps head stepped
  have switches := switches_of_openRemark alone groups quiet remark
  by_cases lettered : on.letters = []
  · cases Switches.eq_none_of_letters unicode template lettered
    rw [Fragment.ofPattern_of_none (switches ▸ lettered), written]
    obtain ⟨context, reached, ahead, layout, branching, within⟩ := reaches_embedded clean
    exact not_read_of_openRemark alone groups quiet remark reached ahead (.closing _) (by decide)
      ⟨layout, branching⟩ within pattern
  · have text := Fragment.ofPattern_of_letters (switches ▸ lettered : own.switches.letters ≠ [])
    rw [switches, written] at text
    have cut := Symbol.ofChars_scopeText on clean
    rw [← text] at cut
    obtain ⟨context, reached, ahead, layout, branching, within⟩ :=
      @reaches_embedded (Fragment.ofPattern own) (by rw [cut]; simpa using clean)
    rw [cut] at ahead
    have leads : context.rest = .plain '(' :: .plain '?' :: on.letters.map .plain ++
        .plain ':' :: (Symbol.ofChars source.toList ++ [.plain ')', .plain ')']) := by
      simpa using ahead
    obtain ⟨position, opening, opened⟩ :=
      Reading.step_openScope unicode template lettered leads (by simpa using clean) layout
    refine not_read_of_openRemark alone groups quiet remark (reached.trans (.single opened ?_)) rfl
      (.closing _) (by decide) ⟨rfl, trivial⟩ (List.cons_ne_nil _ _) pattern
    simp only [ahead, Reader.holding, List.length_cons, List.length_append]
    omega

/-- A pattern that was read under switches which a fragment can carry along, without groups and without
switches for the whole in its text, keeps its meaning as the pattern of a type: it is registered, and the
text that is stored matches in full what the pattern matches in full. Only if it ends in a remark, it is
refused. -/
theorem register_ofPattern (types : TypeTable) (name : String) (conversion : Option Conversion)
    (unicode : on.unicode = false) (template : on.template = false)
    (alone : Pattern.read source on = .ok own) (groups : own.groups = 0)
    (quiet : ¬ TurnsSwitchesOn source on) :
    (¬ EndsInRemark source on →
      ∃ changed type stored, types.register name (Fragment.ofPattern own) conversion = .ok changed ∧
        changed.lookup name = some type ∧ Pattern.read type.pattern .none = .ok stored ∧
        ∀ text, stored.matchesFully text = own.matchesFully text) ∧
    (EndsInRemark source on →
      ∃ fault, types.register name (Fragment.ofPattern own) conversion = .error fault) := by
  constructor
  · intro closed
    obtain ⟨stored, read, none, strict, same⟩ := read_ofPattern unicode template alone groups quiet closed
    obtain ⟨changed, registered, known⟩ := exists_register types name read none strict conversion
    exact ⟨changed, _, stored, registered, known, read, same⟩
  · intro remark
    have refused := not_embedded_of_openRemark unicode template alone groups quiet remark
    cases embedded : Pattern.read (Fragment.embedded (Fragment.ofPattern own)) .none with
    | ok pattern => exact absurd embedded (refused pattern)
    | error refusal =>
      have groups : Fragment.embeddedGroups (Fragment.ofPattern own) = .error refusal := by
        rw [Fragment.embeddedGroups, embedded]
        rfl
      cases refusal <;> exact ⟨_, by simp only [register, obstacle?, groups]; rfl⟩

/-- Of a pattern with switches and without remarks, the type matches the same texts. -/
theorem register_ofPattern_kept : ∃ own changed type stored,
    Pattern.read "a.b" { ignoreCase := true, dotAll := true } = .ok own ∧
      numeric.register "T" (Fragment.ofPattern own) none = .ok changed ∧
      changed.lookup "T" = some type ∧ Pattern.read type.pattern .none = .ok stored ∧
      own.matchesFully ['A', '\n', 'B'] = true ∧
      ∀ text, stored.matchesFully text = own.matchesFully text := by
  have quiet : ¬ TurnsSwitchesOn "a.b" { ignoreCase := true, dotAll := true } := by
    intro turns
    exact absurd turns.parenthesis (by decide)
  have closed : ¬ EndsInRemark "a.b" { ignoreCase := true, dotAll := true } := by
    intro ends
    exact absurd ends.numberSign (by decide)
  obtain ⟨own, alone, groups, full⟩ : ∃ own,
      Pattern.read "a.b" { ignoreCase := true, dotAll := true } = .ok own ∧ own.groups = 0 ∧
        own.matchesFully ['A', '\n', 'B'] = true :=
    ⟨_, rfl, rfl, by decide +kernel⟩
  obtain ⟨changed, type, stored, registered, known, read, same⟩ :=
    (register_ofPattern numeric "T" none rfl rfl alone groups quiet).1 closed
  exact ⟨own, changed, type, stored, alone, registered, known, read, full, same⟩

/-- A pattern that ends in a remark: it matches a text, but no type can have it. -/
theorem register_remark_refused : ∃ own,
    Pattern.read "a # b" { verbose := true } = .ok own ∧ own.groups = 0 ∧
      ¬ TurnsSwitchesOn "a # b" { verbose := true } ∧ own.matchesFully ['a'] = true ∧
      Fragment.ofPattern own = "(?x:a # b)" ∧
      ∀ changed, numeric.register "T" (Fragment.ofPattern own) none ≠ .ok changed := by
  have quiet : ¬ TurnsSwitchesOn "a # b" { verbose := true } := by
    intro turns
    exact absurd turns.parenthesis (by decide)
  have known : (Pattern.read "a # b" { verbose := true }).toOption.any (fun own => own.groups = 0 &&
      own.matchesFully ['a'] && Fragment.ofPattern own = "(?x:a # b)") = true := by
    decide +kernel
  obtain ⟨own, isOwn, facts⟩ := (Option.any_eq_true _ _).mp known
  obtain ⟨⟨groups, full⟩, written⟩ : (own.groups = 0 ∧ own.matchesFully ['a'] = true) ∧
      Fragment.ofPattern own = "(?x:a # b)" := by
    simpa using facts
  refine ⟨own, Except.eq_ok_of_toOption isOwn, groups, quiet, full, written, fun changed registered => ?_⟩
  have refused : (numeric.register "T" "(?x:a # b)" none).toOption.isSome = false := by decide +kernel
  rw [written] at registered
  rw [registered] at refused
  cases refused

end TypeTable

end LineGrammar
