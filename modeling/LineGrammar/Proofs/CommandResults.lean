import LineGrammar.Proofs.Sessions

/-!
# What is kept of commands

The expressions of a command are compiled when they are first needed, and what was compiled is kept
for as long as the definition stands, also when the types change. So a command sees the types of the
time when it was last compiled, and those of now when nothing is kept of it; a line is dispatched to
commands that see types of different times. That these need not be the types of now is shown by a run
in which a type is defined anew.
-/

namespace LineGrammar

/-! ## Types of their own -/

/-- What a command makes of a line under some types. A command that does not compile makes nothing of any
line, unless it fails for something else than a fault of grammar. -/
def Command.attempt (types : TypeTable) (line : String) (command : Command) :
    Except Fault (Option Dispatched) :=
  match command.compile types with
  | .error fault => if fault.isGrammar then .ok none else .error fault
  | .ok expressions => do
    let found ← Expression.firstRead line expressions
    return found.map fun (expression, reading) => ⟨command, expression.text, reading⟩

/-- What the first of some commands makes of a line that has a reading of it, when each command sees types
of its own. -/
def Command.firstAttempt (typesOf : String → TypeTable) (line : String) :
    List Command → Except Fault (Option Dispatched)
  | [] => .ok none
  | command :: rest => do
    match ← command.attempt (typesOf command.name) line with
    | some found => return some found
    | none => firstAttempt typesOf line rest

/-- What all commands make of a line that have a reading of it, when each command sees types of its own. -/
def Command.allAttempts (typesOf : String → TypeTable) (line : String) (commands : List Command) :
    Except Fault (List Dispatched) := do
  let found ← commands.mapM fun command => command.attempt (typesOf command.name) line
  return found.filterMap id

namespace Workspace

variable {start workspace : Workspace} {name : String} {command : Command} {results : List Stamped}

/-! ## The time of a compilation -/

/-- A workspace knows a command by a name and keeps what was compiled of it. -/
def Keeps (workspace : Workspace) (name : String) (command : Command) (results : List Stamped) : Prop :=
  workspace.commands.commands.get? name = some command ∧
    workspace.commands.compiled.get? name = some results

/-- What is kept of a command after an event was kept before, or the types give it. -/
theorem Keeps.of_after (faithful : workspace.commands.compiler.Faithful workspace.types) {event : Event}
    (keeps : (workspace.after event).Keeps name command results) :
    workspace.Keeps name command results ∨
      command.compile workspace.types = .ok (results.map (·.expression)) := by
  rcases after_cases faithful event with ⟨request, rfl⟩ | reached
  · exact .inl keeps
  · have kept := reached.holds (fun next => next.types = workspace.types ∧
      next.commands.Kept fun name command results => workspace.Keeps name command results ∨
        command.compile workspace.types = .ok (results.map (·.expression))) ?_
        ⟨rfl, fun _ _ _ known kept => .inl ⟨known, kept⟩⟩
    · exact kept.2 name command results keeps.1 keeps.2
    · rintro workspace next move ⟨same, kept⟩
      refine ⟨move.types_eq.trans same, ?_⟩
      -- Only the last of these moves keeps anything new, and it keeps what the types of now give.
      cases move with
      | mark loaded paths broken => exact kept
      | compile compiler faithful => exact kept
      | write storage clear => exact kept
      | add command path named => exact kept.add command path
      | remove name => exact kept.remove name
      | keep name command results known given => exact kept.keep known (.inr (same ▸ given))

/-- Reading the folders compiles nothing. -/
theorem Keeps.of_opened (keeps : workspace.opened.Keeps name command results) :
    workspace.Keeps name command results := by
  have addAll (table : CommandTable) (entries : List (Command × String))
      (known : (table.addAll entries).commands.get? name = some command)
      (kept : (table.addAll entries).compiled.get? name = some results) :
      table.commands.get? name = some command ∧ table.compiled.get? name = some results := by
    induction entries generalizing table with
    | nil => exact ⟨known, kept⟩
    | cons entry rest ih =>
      obtain ⟨known, kept⟩ := ih (table.add entry.1 (some entry.2)) known kept
      simp only [CommandTable.add, CommandTable.place, CommandTable.forget, Table.get?_insert,
        Table.get?_erase] at known kept
      split at kept
      · cases kept
      · rename_i apart
        rw [if_neg apart] at known
        exact ⟨known, kept⟩
  obtain ⟨known, kept⟩ := keeps
  simp only [opened, CommandTable.opened] at known kept
  split at known
  · rename_i loaded
    rw [if_pos loaded] at kept
    exact ⟨known, kept⟩
  · rename_i unread
    rw [if_neg unread] at kept
    exact addAll { workspace.commands with loaded := true } _ known kept

/-- What is kept of a command after some events came to be kept in the event behind the first of them, and
has been kept ever since. -/
structure CompiledAfter (start : Workspace) (events : List Event) (name : String) (command : Command)
    (results : List Stamped) (earlier : List Event) : Prop where
  before : earlier <+: events
  new : ¬(start.run earlier).Keeps name command results
  since : ∀ later, earlier <+: later → later <+: events → later ≠ earlier →
    (start.run later).Keeps name command results

/-- All that is kept after a run was given by the types of the time when it came to be kept. -/
theorem exists_compiledAfter (faithful : start.commands.compiler.Faithful start.types)
    (nothing : ∀ name, start.commands.compiled.get? name = none) {events : List Event}
    (keeps : (start.run events).Keeps name command results) :
    ∃ earlier, CompiledAfter start events name command results earlier ∧
      command.compile (start.run earlier).types = .ok (results.map (·.expression)) := by
  induction events using List.reverseRecOn with
  | nil =>
    have kept := keeps.2
    rw [run, List.foldl_nil, nothing name] at kept
    cases kept
  | append_singleton events event ih =>
    by_cases old : (start.run events).Keeps name command results
    · obtain ⟨earlier, compiled, given⟩ := ih old
      refine ⟨earlier, ⟨compiled.before.trans (List.prefix_append _ _), compiled.new,
        fun later behind within other => ?_⟩, given⟩
      rcases List.prefix_concat_iff.mp within with rfl | within
      · exact keeps
      · exact compiled.since later behind within other
    · refine ⟨events, ⟨List.prefix_append _ _, old, fun later behind within other => ?_⟩, ?_⟩
      · rcases List.prefix_concat_iff.mp within with rfl | within
        · exact keeps
        · exact absurd (within.eq_of_length_le behind.length_le) other
      · rw [run_concat] at keeps
        exact (keeps.of_after (faithful_run faithful events)).resolve_left old

/-- Some of the events of a run are those before the command of a name was last compiled: what is kept of it
came to be kept in the event behind them, and has been kept ever since. If nothing is kept of it, these
are all events. -/
structure LastCompiled (start : Workspace) (events : List Event) (name : String) (earlier : List Event) :
    Prop where
  before : earlier <+: events
  unkept : (start.run events).opened.commands.compiled.get? name = none → earlier = events
  kept : ∀ command results, (start.run events).opened.Keeps name command results →
    CompiledAfter start events name command results earlier

/-- The command of every name was last compiled at some time, and what is kept of it was given by the types
of that time. -/
theorem exists_lastCompiled (faithful : start.commands.compiler.Faithful start.types)
    (nothing : ∀ name, start.commands.compiled.get? name = none) (events : List Event) (name : String) :
    ∃ earlier, LastCompiled start events name earlier ∧
      ∀ command results, (start.run events).opened.Keeps name command results →
        command.compile (start.run earlier).types = .ok (results.map (·.expression)) := by
  by_cases some : ∃ command results, (start.run events).opened.Keeps name command results
  · obtain ⟨command, results, keeps⟩ := some
    obtain ⟨earlier, compiled, given⟩ := exists_compiledAfter faithful nothing keeps.of_opened
    have only {other : Command} {others : List Stamped}
        (keepsOther : (start.run events).opened.Keeps name other others) :
        other = command ∧ others = results :=
      ⟨Option.some.inj (keepsOther.1.symm.trans keeps.1), Option.some.inj (keepsOther.2.symm.trans keeps.2)⟩
    refine ⟨earlier, ⟨compiled.before, fun unkept => ?_, fun other others keepsOther => ?_⟩,
      fun other others keepsOther => ?_⟩
    · rw [keeps.2] at unkept
      cases unkept
    · obtain ⟨rfl, rfl⟩ := only keepsOther
      exact compiled
    · obtain ⟨rfl, rfl⟩ := only keepsOther
      exact given
  · exact ⟨events, ⟨List.prefix_rfl, fun _ => rfl, fun command results keeps =>
      absurd ⟨command, results, keeps⟩ some⟩, fun command results keeps =>
        absurd ⟨command, results, keeps⟩ some⟩

/-! ## What commands see -/

/-- Each command of a table sees types of its own: what is kept of it is what they give, and they are those
of now if nothing is kept of it. -/
structure Sees (typesOf : String → TypeTable) (table : Table Command) (workspace : Workspace) : Prop where
  loaded : workspace.commands.loaded = true
  commands : workspace.commands.commands = table
  faithful : workspace.commands.compiler.Faithful workspace.types
  kept : workspace.commands.Kept fun name command results =>
    command.compile (typesOf name) = .ok (results.map (·.expression))
  unkept : ∀ name command, table.get? name = some command →
    workspace.commands.compiled.get? name = none → typesOf name = workspace.types

variable {typesOf : String → TypeTable} {table : Table Command}

namespace Sees

/-- What is compiled for other purposes is not seen by commands. -/
theorem withCompiler (sees : Sees typesOf table workspace) {compiler : Compiler}
    (faithful : compiler.Faithful workspace.types) : Sees typesOf table (workspace.withCompiler compiler) :=
  ⟨sees.loaded, sees.commands, faithful, sees.kept, sees.unkept⟩

/-- What the types of now give is kept only of a command that sees them. -/
theorem keep (sees : Sees typesOf table workspace) (known : table.get? name = some command)
    (given : command.compile (typesOf name) = .ok (results.map (·.expression))) :
    Sees typesOf table { workspace with commands := workspace.commands.keep name results } where
  loaded := sees.loaded
  commands := sees.commands
  faithful := sees.faithful
  kept := sees.kept.keep (sees.commands ▸ known) given
  unkept other otherCommand knownOther unkept := by
    rw [CommandTable.keep, Table.get?_insert] at unkept
    split at unkept
    · cases unkept
    · exact sees.unkept other otherCommand knownOther unkept

/-- That a command was passed over does not change what the commands see. -/
theorem gives_skip (name : String) (fault : Fault) : Action.Gives (Sees typesOf table) (skip name fault) (.ok ()) := by
  intro noted sees
  rw [skip, Action.state_bind]
  split
  · exact ⟨rfl, sees⟩
  · exact ⟨rfl, sees.loaded, sees.commands, sees.faithful, sees.kept, sees.unkept⟩

/-- A command answers what the types that it sees give, and all commands go on to see the same types. -/
theorem ensures_compiled (known : table.get? name = some command) :
    Action.Ensures (fun workspace => Sees typesOf table workspace.opened) (compiled name)
      fun given workspace =>
        given.map (List.map (·.expression)) = command.compile (typesOf name) ∧
          Sees typesOf table workspace := by
  intro noted sees
  have here : noted.state.opened.commands.commands.get? name = some command := by
    rw [sees.commands, known]
  cases kept : noted.state.opened.commands.compiled.get? name with
  | some results =>
    obtain ⟨later, answered⟩ := compiled_kept noted here kept
    rw [answered]
    exact ⟨(sees.kept name command results here kept).symm, sees⟩
  | none =>
    obtain ⟨later, answered⟩ := compiled_new noted here kept
    obtain ⟨faithful, now⟩ := sees.faithful.answerAll command.expressions
    have given : _ = command.compile (typesOf name) :=
      now.trans (by rw [sees.unkept name command known kept, Command.compile])
    have left := sees.withCompiler faithful
    rw [answered]
    cases answers : (noted.state.opened.commands.compiler.answerAll noted.state.opened.types
      command.expressions).1 with
    | error fault =>
      rw [answers] at given
      exact ⟨given, left⟩
    | ok results =>
      rw [answers] at given
      exact ⟨given, left.keep known given.symm⟩

/-- What a command makes of a line is what it makes of it under the types that it sees. -/
theorem gives_tryCommand (line : String) (known : table.get? command.name = some command) :
    Action.Gives (Sees typesOf table) (tryCommand line command)
      (command.attempt (typesOf command.name) line) := by
  intro noted sees
  obtain ⟨given, left⟩ := ensures_compiled known noted (opened_of_loaded sees.loaded ▸ sees)
  rw [tryCommand, Action.bind_of_ok (Action.outcome_apply _ _), Command.attempt, ← given]
  cases ran : (compiled command.name noted).1 with
  | ok results => exact Action.Gives.bind (gives_firstReading line results) (fun _ => .pure _) _ left
  | error fault =>
    simp only [Except.map]
    split
    · exact Action.Gives.bind (gives_skip command.name fault) (fun _ => .pure none) _ left
    · exact ⟨rfl, left⟩

/-- The first of some commands that has a reading of a line is the one that has it under the types that each
of them sees. -/
theorem gives_dispatchAmong (line : String) {commands : List Command}
    (known : ∀ command ∈ commands, table.get? command.name = some command) :
    Action.Gives (Sees typesOf table) (dispatchAmong line commands)
      (Command.firstAttempt typesOf line commands) := by
  induction commands with
  | nil => exact .pure none
  | cons command rest ih =>
    refine .bind (gives_tryCommand line (known command List.mem_cons_self)) fun found => ?_
    cases found with
    | none => exact ih fun other behind => known other (List.mem_cons_of_mem _ behind)
    | some dispatched => exact .pure _

/-- A line is dispatched under the types that each command sees. -/
theorem dispatch_eq (line : String) (filed : workspace.opened.commands.Filed)
    (sees : Sees typesOf workspace.opened.commands.commands workspace.opened) :
    ((dispatch line).runFrom workspace).1 =
      Command.firstAttempt typesOf line workspace.opened.commands.commands.values := by
  obtain ⟨later, read⟩ := load_apply ⟨workspace, []⟩
  have rest := gives_dispatchAmong line (fun _ => filed.get?_name) ⟨workspace.opened, later⟩ sees
  change (dispatch line ⟨workspace, []⟩).1 = _
  rw [dispatch, Action.bind_of_ok read, Action.state_bind]
  exact rest.1

/-- A line is dispatched to all commands under the types that each of them sees. -/
theorem dispatchAll_eq (line : String) (filed : workspace.opened.commands.Filed)
    (sees : Sees typesOf workspace.opened.commands.commands workspace.opened) :
    ((dispatchAll line).runFrom workspace).1 =
      Command.allAttempts typesOf line workspace.opened.commands.commands.values := by
  obtain ⟨later, read⟩ := load_apply ⟨workspace, []⟩
  have rest := Action.Gives.bind (.mapM fun command listed =>
    gives_tryCommand line (filed.get?_name listed)) (fun found => .pure (found.filterMap id))
      ⟨workspace.opened, later⟩ sees
  change (dispatchAll line ⟨workspace, []⟩).1 = _
  rw [dispatchAll, Action.bind_of_ok read, Action.state_bind]
  exact rest.1

end Sees

/-- When commands are worked with after a run, each command sees the types of the time when it was last
compiled. -/
theorem exists_sees (storage : Storage) (types : TypeTable) (library project : Option String)
    (events : List Event) :
    let start := fresh storage types library project
    let opened := (start.run events).opened
    ∃ times : String → List Event, (∀ name, LastCompiled start events name (times name)) ∧
      Sees (fun name => (start.run (times name)).types) opened.commands.commands opened := by
  intro start opened
  have initial : start.commands.compiler.Faithful start.types := .fresh types
  choose times last given using exists_lastCompiled initial (fun _ => rfl) events
  have reached : Reached (start.run events) opened :=
    Reached.opened ⟨.refl, faithful_run initial events⟩
  refine ⟨times, last, loaded_opened _, rfl, reached.faithful, ?_, ?_⟩
  · exact fun name command results known kept => given name command results ⟨known, kept⟩
  · intro name command _ unkept
    exact congrArg (fun events => (start.run events).types) ((last name).unkept unkept)

/-- After every run, a command answers what its expressions give, or the fault they give, under the types
of the time when it was last compiled; and these are the types of now if nothing is kept of it. A line is
dispatched to the first command that has a reading of it, or to all, where each command sees the types
of its own time. -/
theorem compiled_under_types (storage : Storage) (types : TypeTable) (library project : Option String)
    (events : List Event) :
    let start := fresh storage types library project
    let workspace := start.run events
    ∃ times : String → List Event, (∀ name, LastCompiled start events name (times name)) ∧
      (∀ name command, workspace.opened.commands.commands.get? name = some command →
        ((compiled name).runFrom workspace).1.map (List.map (·.expression)) =
          command.compile (start.run (times name)).types) ∧
      ∀ line,
        ((dispatch line).runFrom workspace).1 =
          Command.firstAttempt (fun name => (start.run (times name)).types) line
            workspace.opened.commands.commands.values ∧
        ((dispatchAll line).runFrom workspace).1 =
          Command.allAttempts (fun name => (start.run (times name)).types) line
            workspace.opened.commands.commands.values := by
  intro start workspace
  obtain ⟨times, last, sees⟩ := exists_sees storage types library project events
  have filed : workspace.opened.commands.Filed :=
    (Reached.opened ⟨.refl, faithful_run (.fresh types) events⟩).holds (fun next => next.commands.Filed)
      filed_move (filed_run storage types library project events)
  refine ⟨times, last, fun name command known => ?_, fun line =>
    ⟨Sees.dispatch_eq line filed sees, Sees.dispatchAll_eq line filed sees⟩⟩
  exact (Sees.ensures_compiled known ⟨workspace, []⟩ sees).1

/-- A type is defined, a command uses it, and the type is defined anew. -/
def redefinition : List Event :=
  [.types (.register "T" "a" none),
    .register (.record [("name", .text "c"), ("expression", .text "go :x@T")]) true,
    .types (.register "T" "b" none)]

/-- The workspace after a type has been defined anew. -/
def redefined : Workspace := (fresh .empty .numeric none none).run redefinition

/-- After the run the command is known as it was registered. -/
theorem known_redefined : redefined.opened.commands.commands.get? "c" =
    some ⟨"c", "go :x@T", "", [], []⟩ := by decide +kernel

/-- In the run the command is asked for, and a line is dispatched, under the types of the time when it was
last compiled. -/
theorem compiled_under_types_redefined :
    ∃ times : String → List Event,
      (∀ name, LastCompiled (fresh .empty .numeric none none) redefinition name (times name)) ∧
        ((compiled "c").runFrom redefined).1.map (List.map (·.expression)) =
          ["go :x@T"].mapM (Expression.compile
            ((fresh .empty .numeric none none).run (times "c")).types) ∧
        ((dispatch "go b").runFrom redefined).1 =
          Command.firstAttempt (fun name => ((fresh .empty .numeric none none).run (times name)).types)
            "go b" [⟨"c", "go :x@T", "", [], []⟩] := by
  obtain ⟨times, last, answered, dispatched⟩ :=
    compiled_under_types .empty .numeric none none redefinition
  refine ⟨times, last, answered "c" _ known_redefined, ?_⟩
  exact (dispatched "go b").1.trans (congrArg (Command.firstAttempt _ "go b") (by decide +kernel))

/-- The command of the run does not see the types of now: its pattern is the one of the old type, and
a line that its expression matches is not dispatched to it. -/
theorem compiled_outdated :
    ((compiled "c").runFrom redefined).1.map (List.map (·.expression)) ≠
        ["go :x@T"].mapM (Expression.compile redefined.types) ∧
      ((dispatch "go b").runFrom redefined).1.toOption.map Option.isSome = some false ∧
      ((Workspace.read "go :x@T" "go b").runFrom redefined).1.toOption.map Option.isSome =
        some true := by
  refine ⟨fun same => ?_, by decide +kernel, by decide +kernel⟩
  have patterns := congrArg
    (fun outcome => outcome.toOption.map (List.map fun expression => expression.pattern.source)) same
  exact absurd patterns (by decide +kernel)

end Workspace

end LineGrammar
