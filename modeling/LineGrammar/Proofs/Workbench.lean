import LineGrammar.Proofs.Compilation

/-!
# Several compilers on one table of types

A workbench is a table of types with any number of compilers on it. Its events are changes of the
types, whether they succeed or not, new compilers, and compilations. Each event keeps every compiler
faithful and accountable, so every run does. The main statement is that the results which compilers
keep cannot be told from results that are made anew, except that they are the same objects.
-/

namespace LineGrammar

/-- A table of types and the compilers that work on it. -/
structure Workbench where
  types : TypeTable
  compilers : List Compiler

namespace Workbench

/-- What happens on a workbench. -/
inductive Event where
  /-- The types are asked to change. -/
  | types (request : TypeTable.Request)
  /-- A new compiler comes after all others. -/
  | build
  /-- One of the compilers compiles an expression. -/
  | compile (index : Nat) (text : String)

/-- Whether an event changes the types. -/
def Event.Changes (types : TypeTable) : Event → Prop
  | .types request => request.Changes types
  | .build => False
  | .compile .. => False

/-- A workbench after an event. -/
def step (bench : Workbench) : Event → Workbench
  | .types request => { bench with types := bench.types.after request }
  | .build => { bench with compilers := bench.compilers ++ [.fresh bench.types] }
  | .compile index text =>
    { bench with compilers := bench.compilers.modify index (·.after bench.types text) }

/-- A workbench after several events. -/
def run (bench : Workbench) (events : List Event) : Workbench := events.foldl step bench

variable {bench : Workbench} {event : Event} {index : Nat} {compiler : Compiler}

/-- An event that changes the types counts up; any other one leaves them alone. -/
theorem step_types (bench : Workbench) (event : Event) :
    (event.Changes bench.types ∧ bench.types.version < (bench.step event).types.version) ∨
      (¬event.Changes bench.types ∧ (bench.step event).types = bench.types) := by
  cases event with
  | types request => exact bench.types.after_cases request
  | build => exact .inr ⟨id, rfl⟩
  | compile index text => exact .inr ⟨id, rfl⟩

/-- An event leaves a compiler as it is, or lets it compile under types that stay. -/
theorem step_known (known : bench.compilers[index]? = some compiler) (event : Event) :
    ∃ later, (bench.step event).compilers[index]? = some later ∧
      (later = compiler ∨
        (∃ text, later = compiler.after bench.types text) ∧
          (bench.step event).types = bench.types) := by
  cases event with
  | types request => exact ⟨compiler, known, .inl rfl⟩
  | build =>
    refine ⟨compiler, ?_, .inl rfl⟩
    rw [step, List.getElem?_append_left (List.getElem?_eq_some_iff.mp known).1]
    exact known
  | compile other text =>
    by_cases same : other = index
    · refine ⟨compiler.after bench.types text, ?_, .inr ⟨⟨text, rfl⟩, rfl⟩⟩
      simp [step, same, known]
    · refine ⟨compiler, ?_, .inl rfl⟩
      simp [step, same, known]

/-- The compilers after an event: those of before, a new one, or one that has compiled. -/
theorem mem_step {later : Compiler} (listed : later ∈ (bench.step event).compilers) :
    later ∈ bench.compilers ∨
      (later = .fresh bench.types ∨ ∃ compiler ∈ bench.compilers, ∃ text,
        later = compiler.after bench.types text) ∧ (bench.step event).types = bench.types := by
  cases event with
  | types request => exact .inl listed
  | build =>
    rcases List.mem_append.mp listed with old | new
    · exact .inl old
    · exact .inr ⟨.inl (List.mem_singleton.mp new), rfl⟩
  | compile index text =>
    obtain ⟨place, found⟩ := List.mem_iff_getElem?.mp listed
    simp only [step, List.getElem?_modify, Option.map_eq_map, Option.map_eq_some_iff] at found
    obtain ⟨compiler, known, same⟩ := found
    split at same
    · exact .inr ⟨.inr ⟨compiler, List.mem_of_getElem? known, text, same.symm⟩, rfl⟩
    · exact .inl (same ▸ List.mem_of_getElem? known)

/-- Every compiler of a workbench is faithful to its types and has given out what it keeps. -/
def Sound (bench : Workbench) : Prop :=
  ∀ compiler ∈ bench.compilers, compiler.Faithful bench.types ∧ compiler.Accountable

/-- A workbench stays sound in every event. -/
theorem Sound.step (sound : bench.Sound) (event : Event) : (bench.step event).Sound := by
  intro later listed
  rcases mem_step listed with old | ⟨rfl | ⟨compiler, old, text, rfl⟩, same⟩
  · refine ⟨?_, (sound later old).2⟩
    rcases step_types bench event with ⟨_, newer⟩ | ⟨_, same⟩
    · exact (sound later old).1.later newer
    · exact same ▸ (sound later old).1
  · exact ⟨same ▸ .fresh bench.types, .fresh bench.types⟩
  · exact ⟨same ▸ (sound compiler old).1.after text, (sound compiler old).2.after text⟩

/-- A workbench stays sound in every run. -/
theorem Sound.run (sound : bench.Sound) (events : List Event) : (bench.run events).Sound := by
  induction events generalizing bench with
  | nil => exact sound
  | cons event events ih => exact ih (sound.step event)

/-- What a compiler has given out stays so over a run. -/
theorem issued_run {result : Stamped} (events : List Event)
    (known : bench.compilers[index]? = some compiler) (issued : compiler.Issued result) :
    ∃ later, (bench.run events).compilers[index]? = some later ∧ later.Issued result := by
  induction events generalizing bench compiler with
  | nil => exact ⟨compiler, known, issued⟩
  | cons event events ih =>
    obtain ⟨later, still, rfl | ⟨⟨text, rfl⟩, _⟩⟩ := step_known known event
    · exact ih still issued
    · exact ih still (issued.after text)

/-- A run that does not change the types leaves every compiler what it keeps for them. -/
theorem kept_run {text : String} {result : Stamped} {events : List Event}
    (quiet : ∀ event ∈ events, ¬event.Changes bench.types)
    (known : bench.compilers[index]? = some compiler)
    (level : compiler.version = bench.types.version)
    (kept : compiler.results.get? text = some result) :
    (bench.run events).types = bench.types ∧
      ∃ later, (bench.run events).compilers[index]? = some later ∧
        later.version = bench.types.version ∧ later.results.get? text = some result := by
  induction events generalizing bench compiler with
  | nil => exact ⟨rfl, compiler, known, level, kept⟩
  | cons event events ih =>
    have same : (bench.step event).types = bench.types := by
      rcases step_types bench event with ⟨changes, _⟩ | ⟨_, same⟩
      · exact absurd changes (quiet event List.mem_cons_self)
      · exact same
    have others : ∀ event' ∈ events, ¬event'.Changes (bench.step event).types :=
      fun event' listed => same ▸ quiet event' (List.mem_cons_of_mem _ listed)
    obtain ⟨later, still, rfl | ⟨⟨other, rfl⟩, _⟩⟩ := step_known known event
    · have rest := ih others still (same ▸ level) kept
      rwa [same] at rest
    · obtain ⟨levelLater, keptLater⟩ := Compiler.after_keeps level kept other
      have rest := ih others still (same ▸ levelLater) keptLater
      rwa [same] at rest

/-- Keeping results cannot be told from the outside. After any run, every compiler answers what a new
one would answer, and fails as it would. What it has answered it answers again, the same object, as
long as no event changes the types; and no other answer of its own ever bears the stamp of it. -/
theorem compile_transparent {types : TypeTable} {events : List Event}
    (known : (run ⟨types, []⟩ events).compilers[index]? = some compiler) (text : String) :
    let bench := run ⟨types, []⟩ events
    (compiler.answer bench.types text).map (·.expression) =
        ((Compiler.fresh bench.types).answer bench.types text).map (·.expression) ∧
      ∀ first, compiler.answer bench.types text = .ok first → ∀ between : List Event, ∃ later,
        (bench.run (.compile index text :: between)).compilers[index]? = some later ∧
        ((∀ event ∈ between, ¬event.Changes bench.types) →
          later.answer (bench.run (.compile index text :: between)).types text = .ok first) ∧
        ∀ types other second, later.answer types other = .ok second →
          second.stamp = first.stamp → second = first := by
  intro bench
  have sound : bench.Sound := Sound.run (by simp [Sound]) events
  obtain ⟨faithful, accountable⟩ := sound compiler (List.mem_of_getElem? known)
  refine ⟨?_, fun first answered between => ?_⟩
  · rw [faithful.answer_eq, (Compiler.Faithful.fresh bench.types).answer_eq]
  have still : (bench.step (.compile index text)).compilers[index]? =
      some (compiler.after bench.types text) := by
    simp [step, bench, known]
  obtain ⟨later, present, issued⟩ :=
    issued_run between still (accountable.issued_of_answer answered)
  refine ⟨later, present, fun quiet => ?_, fun types other second again same =>
    issued.eq_of_answer again same⟩
  obtain ⟨level, kept⟩ := Compiler.kept_of_answer answered
  have quietStep : ∀ event ∈ between,
      ¬event.Changes (bench.step (.compile index text)).types := quiet
  obtain ⟨same, other, found, levelLater, keptLater⟩ := kept_run quietStep still level kept
  have one : other = later := Option.some.inj (found.symm.trans present)
  subst one
  exact Compiler.answer_kept (by rw [levelLater]; exact congrArg TypeTable.version same.symm) keptLater

/-- A failed registration and the removal of an unknown type leave the object in place that was
compiled before. -/
theorem compile_transparent_port :
    let bench := run ⟨.numeric, []⟩
      [.types (.register "Port" "\\d+" none), .build, .compile 0 "open :x@Port"]
    let between : List Event := [.types (.register "Bad" "(" none),
      .types (.unregister "Other"), .compile 0 "close"]
    ∃ compiler first later, bench.compilers[0]? = some compiler ∧
      compiler.answer bench.types "open :x@Port" = .ok first ∧
      (bench.run (.compile 0 "open :x@Port" :: between)).compilers[0]? = some later ∧
      later.answer (bench.run (.compile 0 "open :x@Port" :: between)).types "open :x@Port" =
        .ok first := by
  intro bench between
  obtain ⟨compiler, known⟩ : ∃ compiler, bench.compilers[0]? = some compiler := ⟨_, rfl⟩
  have works : ((bench.compilers[0]?).all fun compiler =>
      (compiler.answer bench.types "open :x@Port").isOk) = true := by decide +kernel
  rw [known, Option.all_some] at works
  obtain ⟨first, answered⟩ : ∃ first, compiler.answer bench.types "open :x@Port" = .ok first := by
    cases answered : compiler.answer bench.types "open :x@Port" with
    | error fault => simp [answered, Except.isOk, Except.toBool] at works
    | ok first => exact ⟨first, rfl⟩
  obtain ⟨-, again⟩ := compile_transparent known "open :x@Port"
  obtain ⟨later, present, same, -⟩ := again first answered between
  refine ⟨compiler, first, later, known, answered, present, same ?_⟩
  intro event listed
  simp only [between, List.mem_cons, List.not_mem_nil, or_false] at listed
  rcases listed with rfl | rfl | rfl
  · have refused : (TypeTable.obstacle? "Bad" "(").isSome = true := by decide +kernel
    intro accepted
    rw [show TypeTable.obstacle? "Bad" "(" = none from accepted] at refused
    cases refused
  · have unknown : bench.types.contains "Other" = false := by decide +kernel
    exact fun known => absurd (unknown.symm.trans known) (by decide)
  · exact id

end Workbench

end LineGrammar
