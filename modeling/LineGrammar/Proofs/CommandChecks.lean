import LineGrammar.Proofs.Dispatching
import LineGrammar.Workspace.Service

/-!
# Checking the commands of a service

A check compiles every command of a service, and a dispatch of a line to all commands compiles every command
that it tries. Each of them walks over the table by itself and treats a failure in its own way: the check
counts it and reports an error, the dispatch marks the command, tells of it the first time and goes on. What
was found out before is kept and used again by both.

Still they agree, because both find out of a command what its expressions give under the types of the
service. So `Roster.faulty`, which compiles everything anew, says which commands the check reports and which
ones a dispatch passes over. A conversion that fails ends a dispatch early. Such a line leaves some of the
faulty commands unmarked, but it marks no other one.

What is noted for debugging only is left out of what is told.
-/

namespace LineGrammar

/-! ## What is heard -/

namespace Action

variable {ε σ τ α β : Type} {heard : Notice → Bool}

/-- Of what an action notes, nothing is heard. -/
def Mutes (heard : Notice → Bool) (action : Action ε σ α) : Prop :=
  ∀ noted, (action noted).2.notices.filter heard = noted.notices.filter heard

namespace Mutes

/-- An answered value is silent. -/
theorem pure (value : α) : Mutes heard (Pure.pure value : Action ε σ α) := fun _ => rfl

/-- A refusal is silent. -/
theorem refuse (fault : ε) : Mutes heard (Action.refuse fault : Action ε σ α) := fun _ => rfl

/-- A result that is already there is answered silently. -/
theorem ofExcept (result : Except ε α) : Mutes heard (Action.ofExcept result : Action ε σ α) := by
  intro noted
  rw [ofExcept_apply]

/-- A change of the state is silent. -/
theorem modifyState (change : σ → σ) : Mutes heard (Action.modifyState change : Action ε σ Unit) :=
  fun _ => rfl

/-- A new state is silent. -/
theorem setState (after : σ) : Mutes heard (Action.setState after : Action ε σ Unit) := fun _ => rfl

/-- A message that is not listened for may be noted. -/
theorem note {level : Level} {message : String} (unheard : heard ⟨level, message⟩ = false) :
    Mutes heard (Action.note level message : Action ε σ Unit) := by
  intro noted
  simp [unheard]

/-- An action whose outcome is answered as a value is as silent as it is by itself. -/
theorem outcome {action : Action ε σ α} (mutes : Mutes heard action) :
    Mutes heard (Action.outcome action) := fun noted => mutes noted

/-- An action on a part of the state is as silent as it is by itself. -/
theorem within {get : σ → τ} {put : τ → σ → σ} {action : Action ε τ α} (mutes : Mutes heard action) :
    Mutes heard (Action.within get put action) := fun noted => mutes ⟨get noted.state, noted.notices⟩

/-- Two silent actions after one another are silent. -/
theorem bind {first : Action ε σ α} {next : α → Action ε σ β} (one : Mutes heard first)
    (two : ∀ value, Mutes heard (next value)) : Mutes heard (first >>= next) := by
  intro noted
  have before := one noted
  cases ran : first noted with
  | mk outcome between =>
    rw [ran] at before
    cases outcome with
    | ok value => rw [bind_of_ok ran, two value between, before]
    | error fault => rw [bind_of_error ran, before]

/-- To look at the state first is silent. -/
theorem bind_state {next : σ → Action ε σ β} (mutes : ∀ state, Mutes heard (next state)) :
    Mutes heard (Action.state >>= next) := bind (fun _ => rfl) mutes

/-- A silent action is silent when it is taken for each of some values. -/
theorem mapM {each : α → Action ε σ β} (mutes : ∀ value, Mutes heard (each value)) (values : List α) :
    Mutes heard (values.mapM each) := by
  induction values with
  | nil => exact pure []
  | cons value rest ih =>
    rw [List.mapM_cons]
    exact bind (mutes value) fun first => bind ih fun more => pure _

/-- A silent action without an answer is silent when it is taken for each of some values. -/
theorem forM {each : α → Action ε σ PUnit} (mutes : ∀ value, Mutes heard (each value))
    (values : List α) : Mutes heard (values.forM each) := by
  induction values with
  | nil => exact pure _
  | cons value rest ih => exact bind (mutes value) fun _ => ih

end Mutes

/-- What an action leaves does not depend on what is made of its answer. -/
theorem map_snd (change : α → β) (action : Action ε σ α) (noted : Noted σ) :
    ((do return change (← action) : Action ε σ β) noted).2 = (action noted).2 := by
  cases ran : action noted with
  | mk outcome next =>
    cases outcome with
    | ok value => exact congrArg Prod.snd (bind_of_ok ran)
    | error fault => exact congrArg Prod.snd (bind_of_error ran)

end Action

namespace Workspace

open LineGrammar.Action

/-- Reading the data of a file is silent. -/
theorem mutes_definitionData {heard : Notice → Bool} (path : String) : Mutes heard (definitionData path) :=
  .bind_state fun _ => .bind (.ofExcept _) fun _ => .pure _

section Muted

variable {heard : Notice → Bool} (debug : ∀ message, heard ⟨.debug, message⟩ = false)
include debug

/-- A reading by an expression notes nothing but what is for debugging. -/
theorem mutes_readNoted {σ : Type} (expression : Expression) (line : String) :
    Mutes heard (expression.readNoted line : Action Fault σ (Option Reading)) := by
  unfold Expression.readNoted
  split
  · exact .pure _
  · exact .pure _
  · exact .bind (.note (debug _)) fun _ => .pure _
  · exact .refuse _

/-- The search for a first reading notes nothing but what is for debugging. -/
theorem mutes_firstReading (line : String) (results : List Stamped) :
    Mutes heard (firstReading line results) := by
  induction results with
  | nil => exact .pure none
  | cons result rest ih =>
    refine .bind (mutes_readNoted debug result.expression line) fun found => ?_
    cases found with
    | some reading => exact .pure _
    | none => exact ih

/-- Compiling an expression notes nothing but what is for debugging. -/
theorem mutes_compile (types : TypeTable) (text : String) : Mutes heard (Compiler.compile types text) := by
  refine .bind (.modifyState _) fun _ => .bind_state fun compiler => ?_
  split
  · exact .pure _
  · exact .bind (.ofExcept _) fun expression => .bind (.note (debug _)) fun _ =>
      .bind (.setState _) fun _ => .pure _

/-- Compiling an expression of a command notes nothing but what is for debugging. -/
theorem mutes_compileForCommand (text : String) : Mutes heard (compileForCommand text) :=
  .bind_state fun workspace => .within (mutes_compile debug workspace.types text)

/-- A command that gives way to another one is noted for debugging. -/
theorem mutes_addCommand (command : Command) (path : Option String) :
    Mutes heard (addCommand command path) := by
  refine .bind_state fun workspace => ?_
  split
  · exact .bind (.note (debug _)) fun _ => .modifyState _
  · exact .modifyState _

/-- Reading the folders of commands is noted for debugging, apart from files that cannot be read. -/
theorem mutes_load (unread : ∀ path, heard ⟨.warning, unreadable path⟩ = false) : Mutes heard load := by
  have read (file : String) : Mutes heard (readCommandFile file) := by
    refine .bind (.outcome (.bind (mutes_definitionData file) fun data => .ofExcept _)) fun set => ?_
    cases set with
    | ok set => exact .pure _
    | error fault => exact .bind (.note (unread _)) fun _ => .pure _
  refine .bind_state fun workspace => ?_
  dsimp only
  split
  · exact .pure _
  · refine .bind (.modifyState _) fun _ => .forM (fun folder => .bind_state fun workspace => ?_) _
    exact .forM (fun file => .bind (read file) fun commands =>
      .forM (fun command => mutes_addCommand debug command (some file)) commands) _

omit debug in
/-- Of a registration of a type, the loss of an old type is noted. -/
theorem mutes_registerNoted (redefined : ∀ name, heard ⟨.warning, TypeTable.redefinition name⟩ = false)
    (name fragment : String) (conversion : Option Conversion) :
    Mutes heard (TypeTable.registerNoted name fragment conversion) := by
  refine .bind_state fun table => .bind (.ofExcept _) fun changed => ?_
  split
  · exact .bind (.note (redefined _)) fun _ => .bind (.setState _) fun _ => .pure _
  · exact .bind (.setState _) fun _ => .pure _

/-- The loading of types is noted for debugging, or as a warning. -/
theorem mutes_loadTypeFolder (warning : ∀ message, heard ⟨.warning, message⟩ = false) (folder : String) :
    Mutes heard (loadTypeFolder folder) := by
  have register (definition : TypeDefinition) : Mutes heard definition.register :=
    mutes_registerNoted (fun _ => warning _) _ _ _
  have file (path : String) : Mutes heard (loadTypeFile path) :=
    .bind (mutes_definitionData path) fun data => .bind (.ofExcept _) fun set =>
      .bind (.mapM (fun definition => .bind (.within (register definition)) fun _ => .pure _) _)
        fun names => .bind (.note (debug _)) fun _ => .pure _
  exact .bind_state fun workspace => .bind (.mapM file _) fun names => .pure _

end Muted

end Workspace

/-- A notice is told when it is not for debugging alone. -/
def Notice.isTold (notice : Notice) : Bool := notice.level != .debug

/-- What has been told so far, latest first. -/
def Noted.told {σ : Type} (noted : Noted σ) : List Notice := noted.notices.filter Notice.isTold

/-- An inquiry that leaves the commands as they are. -/
def Inquiry.Asks : Inquiry → Prop
  | .register _ _ | .remove _ => False
  | _ => True

/-! ## Faulty commands -/

/-- Errors are among what is told. -/
theorem Noted.filter_error {σ : Type} (noted : Noted σ) :
    noted.told.filter (·.level = .error) = noted.notices.filter (·.level = .error) := by
  rw [told, List.filter_filter]
  refine List.filter_congr fun notice _ => ?_
  cases notice with
  | mk level message => cases level <;> rfl

namespace Roster

/-- The commands of a roster that do not compile, each with the fault of the first of its expressions that
does not. -/
def faulty (types : TypeTable) (roster : Roster) : List ((Command × Option String) × Fault) :=
  roster.filterMap fun entry => match entry.1.compile types with
    | .ok _ => none
    | .error fault => some (entry, fault)

variable {types : TypeTable} {roster : Roster}

/-- The faulty commands are those of the first entry and those of the rest. -/
theorem faulty_cons (entry : Command × Option String) :
    faulty types (entry :: roster) = faulty types [entry] ++ faulty types roster :=
  List.filterMap_append (l := [entry])

/-- A command that compiles is not faulty. -/
theorem faulty_of_ok {entry : Command × Option String} {expressions : List Expression}
    (compiled : entry.1.compile types = .ok expressions) : faulty types [entry] = [] := by
  simp [faulty, compiled]

/-- A command that does not compile is faulty. -/
theorem faulty_of_error {entry : Command × Option String} {fault : Fault}
    (failed : entry.1.compile types = .error fault) : faulty types [entry] = [(entry, fault)] := by
  simp [faulty, failed]

/-- A faulty command is one of the roster. -/
theorem mem_of_mem_faulty {found : (Command × Option String) × Fault}
    (listed : found ∈ roster.faulty types) : found.1 ∈ roster := by
  obtain ⟨entry, inside, same⟩ := List.mem_filterMap.mp listed
  split at same
  · cases same
  · cases same
    exact inside

/-- The faulty commands of a roster are counted. -/
theorem length_faulty (types : TypeTable) (roster : Roster) :
    (roster.faulty types).length = roster.countP fun entry => !(entry.1.compile types).isOk := by
  induction roster with
  | nil => rfl
  | cons entry rest ih =>
    rw [faulty_cons, List.length_append, ih, List.countP_cons]
    cases compiled : entry.1.compile types with
    | ok expressions => simp [faulty_of_ok compiled, Except.isOk, Except.toBool]
    | error fault => simp [faulty_of_error compiled, Except.isOk, Except.toBool, Nat.add_comm]

/-- The names of the faulty commands. -/
def faultyNames (types : TypeTable) (roster : Roster) : List String :=
  (roster.faulty types).map (·.1.1.name)

/-- The faulty commands that were not passed over before. -/
def unpassed (types : TypeTable) (broken : List String) (roster : Roster) :
    List ((Command × Option String) × Fault) :=
  (roster.faulty types).filter fun found => !broken.contains found.1.1.name

/-- What was not passed over is that of the first entry and that of the rest. -/
theorem unpassed_cons (broken : List String) (entry : Command × Option String) :
    unpassed types broken (entry :: roster) = unpassed types broken [entry] ++ unpassed types broken roster := by
  rw [unpassed, faulty_cons, List.filter_append]
  rfl

/-- What is told of a faulty command that is passed over. -/
def skipping (found : (Command × Option String) × Fault) : Notice :=
  ⟨.warning, "Skipping command '" ++ found.1.1.name ++ "' (" ++ found.1.2.getD "registered" ++ "): "
    ++ found.2.message⟩

/-- What is told of a command that is checked. -/
def report (types : TypeTable) (entry : Command × Option String) : Notice :=
  match entry.1.compile types with
  | .ok _ => ⟨.info, Service.compiles entry.1⟩
  | .error fault => ⟨.error, Service.compilesNot entry.1 entry.2 fault⟩

/-- The reports of faults are those of the faulty commands. -/
theorem filter_report (types : TypeTable) (roster : Roster) :
    (roster.map (report types)).filter (·.level = .error) = (roster.faulty types).map fun found =>
      ⟨.error, Service.compilesNot found.1.1 found.1.2 found.2⟩ := by
  induction roster with
  | nil => rfl
  | cons entry rest ih =>
    rw [faulty_cons, List.map_cons, List.map_append, ← ih]
    cases compiled : entry.1.compile types with
    | ok expressions => simp [report, compiled, faulty_of_ok compiled]
    | error fault => simp [report, compiled, faulty_of_error compiled]

/-- No conversion fails on a line, under the commands that compile, in another way than by rejecting. -/
def Legible (types : TypeTable) (line : String) (roster : Roster) : Prop :=
  ∀ entry ∈ roster, ∀ expressions, entry.1.compile types = .ok expressions →
    ∀ expression ∈ expressions, ∀ fault, expression.attempt line = some (.error fault) →
      ∃ reason, fault = .rejected reason

/-- A dispatch of a legible line answers. -/
theorem Legible.dispatchAll {line : String} (legible : roster.Legible types line) :
    ∃ found, roster.dispatchAll types line = .ok found := by
  have reads : ∀ entry ∈ roster, ∀ expressions, entry.1.compile types = .ok expressions →
      ∀ expression ∈ expressions, Except.FailsOnly (fun _ => False) (expression.read line) := by
    intro entry listed expressions compiled expression inside fault failed
    unfold Expression.read at failed
    split at failed
    · cases failed
    · cases failed
    · cases failed
    · rename_i other unrejected attempted
      obtain ⟨reason, rfl⟩ := legible entry listed expressions compiled expression inside _ attempted
      exact unrejected reason rfl
  have never : Except.FailsOnly (fun _ => False) (roster.dispatchAll types line) := by
    refine .bind (.mapM fun entry listed => ?_) fun _ _ => .ok _
    unfold Command.dispatch
    split
    · exact .ok _
    · rename_i expressions compiled
      exact .bind (Expression.firstRead_failsOnly (reads entry listed expressions compiled)) fun _ _ => .ok _
  cases ran : roster.dispatchAll types line with
  | ok found => exact ⟨found, rfl⟩
  | error fault => exact (never fault ran).elim

end Roster

namespace Workspace

variable {types : TypeTable} {roster rest : Roster} {entry : Command × Option String}
  {noted before between after : Noted Workspace} {name line : String}

/-! ## Compiling a command -/

/-- Once the folders have been read, looking for a command does nothing else. -/
theorem command?_of_loaded (loaded : noted.state.commands.loaded = true) (name : String) :
    command? name noted = (.ok (noted.state.commands.commands.get? name), noted) := by
  have read : load noted = (.ok (), noted) := by
    rw [load, Action.state_bind]
    simp only [loaded, if_true]
    rfl
  exact Action.bind_of_ok read

/-- Once the folders have been read, nothing is told when a command is compiled. -/
theorem told_compiled (loaded : noted.state.commands.loaded = true) (name : String) :
    (compiled name noted).2.told = noted.told := by
  rw [compiled, Action.bind_of_ok (command?_of_loaded loaded name)]
  cases known : noted.state.commands.commands.get? name with
  | none => rfl
  | some command =>
    simp only
    rw [Action.state_bind]
    cases kept : noted.state.commands.compiled.get? name with
    | some results => rfl
    | none =>
      have silent : Action.Mutes Notice.isTold (command.expressions.mapM compileForCommand) :=
        .mapM (mutes_compileForCommand fun _ => rfl) _
      exact silent.bind (fun results => .bind (.modifyState _) fun _ => .pure results) noted

/-- To compile a command marks none as passed over. -/
theorem broken_compiled (noted : Noted Workspace) (name : String) :
    (compiled name noted).2.state.commands.broken = noted.state.opened.commands.broken := by
  obtain ⟨given, left, later, ended, how⟩ := compiledEnd name noted
  rw [ended]
  cases how <;> rfl

/-- What is found out about a command of the roster is what its expressions give. -/
structure Compiles (types : TypeTable) (roster : Roster) (entry : Command × Option String)
    (before : Noted Workspace) (given : Except Fault (List Stamped)) (after : Noted Workspace) : Prop where
  given : given.map (List.map (·.expression)) = entry.1.compile types
  follows : Follows types roster after.state
  broken : after.state.commands.broken = before.state.commands.broken
  told : after.told = before.told

/-- Compiling a command of the roster finds out what its expressions give, marks nothing and tells
nothing. -/
theorem compiles_compiled (follows : Follows types roster noted.state) (listed : entry ∈ roster) :
    Compiles types roster entry noted (compiled entry.1.name noted).1 (compiled entry.1.name noted).2 := by
  obtain ⟨given, later⟩ := ensures_compiled entry.1.name noted follows.represents
  rw [Roster.compiled, follows.command?_of_mem listed] at given
  refine ⟨given, later, ?_, told_compiled follows.loaded entry.1.name⟩
  rw [broken_compiled, opened_of_loaded follows.loaded]

/-! ## Passing over -/

/-- A command of the roster has the path that the roster has for it. -/
theorem Follows.path_of_mem {workspace : Workspace} (follows : Follows types roster workspace)
    (listed : entry ∈ roster) : workspace.commands.paths.get? entry.1.name = entry.2 := by
  rw [← follows.roster_eq] at listed
  obtain ⟨stored, inside, rfl⟩ := List.mem_map.mp listed
  exact congrArg workspace.commands.paths.get? (follows.coherent.named stored inside)

/-- What is told of a command that is passed over names its path. -/
theorem Follows.skipping_eq {workspace : Workspace} (follows : Follows types roster workspace)
    (listed : entry ∈ roster) (fault : Fault) :
    (⟨.warning, workspace.commands.skipping entry.1.name fault⟩ : Notice) =
      Roster.skipping (entry, fault) := by
  delta CommandTable.skipping
  simp only [follows.path_of_mem listed, Roster.skipping]

/-- No name stands twice in a roster. -/
theorem Follows.names_nodup {workspace : Workspace} (follows : Follows types roster workspace) :
    (roster.map (·.1.name)).Nodup := by
  have names : roster.map (·.1.name) = workspace.commands.commands.keys := by
    rw [← follows.roster_eq, CommandTable.roster, List.map_map]
    exact List.map_congr_left follows.coherent.named
  exact names ▸ follows.coherent.distinct

/-- A command is marked and told of, unless it was marked before. -/
theorem skip_apply (name : String) (fault : Fault) (noted : Noted Workspace) :
    skip name fault noted = (.ok (), if noted.state.commands.broken.contains name then noted
      else ⟨{ noted.state with
          commands := { noted.state.commands with broken := name :: noted.state.commands.broken } },
        ⟨.warning, noted.state.commands.skipping name fault⟩ :: noted.notices⟩) := by
  rw [skip, Action.state_bind]
  dsimp only
  split <;> rfl

/-- The faulty commands of a roster have been passed over, in order: each is marked, and each that was not
marked before is told of. -/
structure PassesOver (types : TypeTable) (roster : Roster) (before after : Noted Workspace) : Prop where
  broken : after.state.commands.broken =
    ((roster.unpassed types before.state.commands.broken).map (·.1.1.name)).reverse ++
      before.state.commands.broken
  told : after.told =
    ((roster.unpassed types before.state.commands.broken).map Roster.skipping).reverse ++ before.told

namespace PassesOver

/-- Where nothing is faulty, nothing is marked and nothing told. -/
theorem of_empty (none : roster.faulty types = [])
    (broken : after.state.commands.broken = before.state.commands.broken)
    (told : after.told = before.told) : PassesOver types roster before after := by
  constructor <;> simp [Roster.unpassed, none, broken, told]

/-- Passing over the commands of the first entry and then those of the rest passes over all, when no name
comes again. -/
theorem cons (one : PassesOver types [entry] before between) (two : PassesOver types rest between after)
    (apart : entry.1.name ∉ rest.map (·.1.name)) : PassesOver types (entry :: rest) before after := by
  have same : rest.unpassed types between.state.commands.broken =
      rest.unpassed types before.state.commands.broken := by
    refine List.filter_congr fun found listed => ?_
    have other : ∀ passed ∈ Roster.unpassed types before.state.commands.broken [entry],
        passed.1.1.name ≠ found.1.1.name := by
      intro passed inside same
      have first := Roster.mem_of_mem_faulty (List.mem_filter.mp inside).1
      rw [List.mem_singleton.mp first] at same
      exact apart (List.mem_map.mpr ⟨_, Roster.mem_of_mem_faulty listed, same.symm⟩)
    have unlisted : found.1.1.name ∉
        ((Roster.unpassed types before.state.commands.broken [entry]).map (·.1.1.name)).reverse := by
      rw [List.mem_reverse, List.mem_map]
      exact fun ⟨passed, inside, same⟩ => other passed inside same
    simp only [one.broken, List.contains_eq_mem, List.mem_append, unlisted, false_or]
  constructor
  · rw [two.broken, same, one.broken, @Roster.unpassed_cons types rest _ entry, List.map_append, List.reverse_append,
      List.append_assoc]
  · rw [two.told, same, one.told, @Roster.unpassed_cons types rest _ entry, List.map_append, List.reverse_append,
      List.append_assoc]

end PassesOver

/-- A command is passed over exactly when it is faulty, and it is told of the first time. -/
theorem passesOver_tryCommand (follows : Follows types roster noted.state) (listed : entry ∈ roster)
    (grammatical : entry.1.Grammatical types) (line : String) :
    PassesOver types [entry] noted (tryCommand line entry.1 noted).2 := by
  obtain ⟨given, later, broken, told⟩ := compiles_compiled follows listed
  rw [tryCommand, Action.bind_of_ok (Action.outcome_apply _ _)]
  generalize compiled entry.1.name noted = ended at given later broken told
  obtain ⟨outcome, next⟩ := ended
  dsimp only at given later broken told ⊢
  cases outcome with
  | ok results =>
    have sound : Roster.faulty types [entry] = [] := Roster.faulty_of_ok given.symm
    have silent : (firstReading line results next).2.told = next.told :=
      mutes_firstReading (fun _ => rfl) line results next
    have unmarked : (firstReading line results next).2.state.commands.broken = next.state.commands.broken :=
      @keeps_firstReading (fun workspace => workspace.commands.broken = next.state.commands.broken) line results
        next rfl
    rw [Action.map_snd]
    exact .of_empty sound (unmarked.trans broken) (silent.trans told)
  | error fault =>
    have failed : entry.1.compile types = .error fault := given.symm
    simp only [grammatical fault failed, if_true]
    rw [Action.bind_of_ok (skip_apply entry.1.name fault next), Action.pure_apply, broken]
    by_cases passed : entry.1.name ∈ noted.state.commands.broken
    · have none : Roster.unpassed types noted.state.commands.broken [entry] = [] := by
        simp [Roster.unpassed, Roster.faulty_of_error failed, passed]
      rw [if_pos (by simpa using passed)]
      exact ⟨by simp [none, broken], by simp [none, told]⟩
    · have once : Roster.unpassed types noted.state.commands.broken [entry] = [(entry, fault)] := by
        simp [Roster.unpassed, Roster.faulty_of_error failed, passed]
      rw [if_neg (by simpa using passed)]
      refine ⟨by simp [once], ?_⟩
      rw [once, Noted.told, later.skipping_eq listed, ← told]
      rfl

/-- If all commands of a part of the roster are tried, all that are faulty are passed over. -/
theorem passesOver_mapM_tryCommand (grammatical : ∀ entry ∈ roster, entry.1.Grammatical types)
    (within : ∀ entry ∈ rest, entry ∈ roster) (distinct : (rest.map (·.1.name)).Nodup)
    (follows : Follows types roster noted.state) {found : List (Option Dispatched)}
    (ran : (rest.map (·.1)).mapM (tryCommand line) noted = (.ok found, after)) :
    PassesOver types rest noted after := by
  induction rest generalizing noted found with
  | nil =>
    cases ran
    exact .of_empty rfl rfl rfl
  | cons entry rest ih =>
    obtain ⟨apart, distinct⟩ := List.nodup_cons.mp distinct
    have listed := within entry List.mem_cons_self
    have one := passesOver_tryCommand follows listed (grammatical entry listed) line
    obtain ⟨-, later⟩ := reads_tryCommand grammatical line listed noted follows
    rw [List.map_cons, List.mapM_cons] at ran
    cases tried : tryCommand line entry.1 noted with
    | mk outcome next =>
      rw [tried] at one later
      cases outcome with
      | error fault =>
        rw [Action.bind_of_error tried] at ran
        cases ran
      | ok first =>
        rw [Action.bind_of_ok tried] at ran
        cases others : (rest.map (·.1)).mapM (tryCommand line) next with
        | mk outcome last =>
          cases outcome with
          | error fault =>
            rw [Action.bind_of_error others] at ran
            cases ran
          | ok more =>
            rw [Action.bind_of_ok others] at ran
            cases ran
            have behind := ih (fun other inside => within other (List.mem_cons_of_mem _ inside)) distinct
              later others
            exact one.cons behind apart

/-- A dispatch to all commands that does not fail passes over all that are faulty. -/
theorem passesOver_dispatchAll (grammatical : ∀ entry ∈ roster, entry.1.Grammatical types)
    (represents : Represents types roster noted.state) {found : List Dispatched}
    (ran : dispatchAll line noted = (.ok found, after)) :
    PassesOver types roster (load noted).2 after := by
  obtain ⟨later, read⟩ := load_apply noted
  have follows : Follows types roster noted.state.opened := represents
  rw [dispatchAll, Action.bind_of_ok read, Action.state_bind, follows.values_eq] at ran
  rw [read]
  cases all : (roster.map (·.1)).mapM (tryCommand line) ⟨noted.state.opened, later⟩ with
  | mk outcome last =>
    cases outcome with
    | error fault =>
      rw [Action.bind_of_error all] at ran
      cases ran
    | ok results =>
      rw [Action.bind_of_ok all] at ran
      cases ran
      exact passesOver_mapM_tryCommand grammatical (fun _ listed => listed) follows.names_nodup follows all

/-! ## Commands that are marked -/

/-- A workspace has read its folders, and it has marked faulty commands only. -/
structure Marks (types : TypeTable) (roster : Roster) (workspace : Workspace) : Prop where
  follows : Follows types roster workspace
  broken : ∀ name ∈ workspace.commands.broken, name ∈ roster.faultyNames types

/-- A command that was not passed over before is a faulty one. -/
theorem faultyNames_of_unpassed {broken : List String}
    (listed : name ∈ (rest.unpassed types broken).map (·.1.1.name)) : name ∈ rest.faultyNames types := by
  obtain ⟨found, inside, rfl⟩ := List.mem_map.mp listed
  exact List.mem_map.mpr ⟨found, (List.mem_filter.mp inside).1, rfl⟩

/-- A faulty command of an entry is one of the roster. -/
theorem faultyNames_singleton (listed : entry ∈ roster) (faulty : name ∈ Roster.faultyNames types [entry]) :
    name ∈ roster.faultyNames types := by
  obtain ⟨before, after, rfl⟩ := List.append_of_mem listed
  simp only [Roster.faultyNames, Roster.faulty, List.filterMap_append, List.map_append, List.mem_append]
  rw [← List.singleton_append, List.filterMap_append, List.map_append, List.mem_append]
  exact .inr (.inl faulty)

section Keeps

variable (grammatical : ∀ entry ∈ roster, entry.1.Grammatical types) (line : String)
include grammatical

/-- When a command is tried, only faulty commands are marked. -/
theorem keeps_tryCommand_marks (listed : entry ∈ roster) :
    Action.Keeps (Marks types roster) (tryCommand line entry.1) := by
  intro noted marks
  have passes := passesOver_tryCommand marks.follows listed (grammatical entry listed) line
  obtain ⟨-, later⟩ := reads_tryCommand grammatical line listed noted marks.follows
  refine ⟨later, fun name inside => ?_⟩
  rw [passes.broken, List.mem_append, List.mem_reverse] at inside
  rcases inside with new | old
  · exact faultyNames_singleton listed (faultyNames_of_unpassed new)
  · exact marks.broken name old

/-- When a line is dispatched among commands, only faulty ones are marked. -/
theorem keeps_dispatchAmong_marks (within : ∀ entry ∈ rest, entry ∈ roster) :
    Action.Keeps (Marks types roster) (dispatchAmong line (rest.map (·.1))) := by
  induction rest with
  | nil => exact .pure none
  | cons entry rest ih =>
    refine .bind (keeps_tryCommand_marks grammatical line (within entry List.mem_cons_self)) fun found => ?_
    cases found with
    | some found => exact .pure _
    | none => exact ih fun other inside => within other (List.mem_cons_of_mem _ inside)

/-- When all commands are tried, only faulty ones are marked. -/
theorem keeps_mapM_tryCommand_marks :
    Action.Keeps (Marks types roster) ((roster.map (·.1)).mapM (tryCommand line)) := by
  refine .mapM fun command listed => ?_
  obtain ⟨entry, inside, rfl⟩ := List.mem_map.mp listed
  exact keeps_tryCommand_marks grammatical line inside

end Keeps

/-- An action that comes behind the reading of the folders begins with the folders read. -/
theorem ensures_load_marks {α : Type} {next : Session α} (keeps : Action.Keeps (Marks types roster) next) :
    Action.Ensures (fun workspace => Marks types roster workspace.opened) (load >>= fun _ => next)
      fun _ => Marks types roster := by
  intro noted marks
  obtain ⟨later, read⟩ := load_apply noted
  rw [Action.bind_of_ok read]
  exact keeps ⟨_, later⟩ marks

/-- Whatever is asked, only faulty commands are marked by it. -/
theorem marks_inquire (grammatical : ∀ entry ∈ roster, entry.1.Grammatical types) {inquiry : Inquiry}
    (asks : inquiry.Asks) : Action.Ensures (fun workspace => Marks types roster workspace.opened)
      (inquire inquiry) fun _ => Marks types roster := by
  cases inquiry with
  | list =>
    intro noted marks
    rw [inquire, Action.map_snd]
    exact ensures_load_marks (.bind_state fun _ kept => kept) noted marks
  | get name =>
    intro noted marks
    rw [inquire, Action.map_snd]
    exact ensures_load_marks (.bind_state fun _ kept => kept) noted marks
  | compiled name =>
    intro noted marks
    rw [inquire, Action.map_snd fun results : List Stamped => Answer.compiled (results.map (·.expression))]
    obtain ⟨-, follows⟩ := ensures_compiled name noted marks.follows
    exact ⟨follows, broken_compiled noted name ▸ marks.broken⟩
  | register command atOnce => cases asks
  | remove name => cases asks
  | dispatch line =>
    intro noted marks
    rw [inquire, Action.map_snd]
    refine ensures_load_marks (.bind_state fun noted kept => ?_) noted marks
    rw [kept.follows.values_eq]
    exact keeps_dispatchAmong_marks grammatical line (fun _ listed => listed) noted kept
  | dispatchAll line =>
    intro noted marks
    rw [inquire, Action.map_snd]
    refine ensures_load_marks (.bind_state fun noted kept => ?_) noted marks
    rw [kept.follows.values_eq, Action.map_snd]
    exact keeps_mapM_tryCommand_marks grammatical line noted kept

/-- Whatever is asked, only faulty commands are marked. -/
theorem marks_asked (grammatical : ∀ entry ∈ roster, entry.1.Grammatical types) {inquiries : List Inquiry}
    (asks : ∀ inquiry ∈ inquiries, inquiry.Asks) {workspace : Workspace}
    (marks : Marks types roster workspace.opened) :
    Marks types roster (workspace.asked inquiries).opened := by
  induction inquiries generalizing workspace with
  | nil => exact marks
  | cons inquiry rest ih =>
    have after := marks_inquire grammatical (asks inquiry List.mem_cons_self) ⟨workspace, []⟩ marks
    refine ih (fun other listed => asks other (List.mem_cons_of_mem _ listed)) ?_
    have same := opened_of_loaded after.follows.loaded
    exact same.symm ▸ after

/-- In a fresh workspace no command is marked. -/
theorem marks_fresh (storage : Storage) (types : TypeTable) (library project : Option String) :
    let opened := (fresh storage types library project).opened
    Marks types (Roster.ofFolders storage library project) opened ∧ opened.commands.broken = [] := by
  intro opened
  have unmarked : opened.commands.broken = [] := CommandTable.broken_addAll rfl _
  refine ⟨⟨represents_fresh storage types library project, fun name inside => ?_⟩, unmarked⟩
  rw [unmarked] at inside
  cases inside

end Workspace

/-! ## The check -/

namespace Service

open Workspace

variable {types : TypeTable} {roster rest : Roster} {entry : Command × Option String}
  {noted : Noted Workspace}

/-- A command is reported as one that compiles or as one that does not. -/
theorem checkCommand_apply (follows : Follows types roster noted.state) (listed : entry ∈ roster)
    (grammatical : entry.1.Grammatical types) :
    ∃ next, checkCommand entry.1 entry.2 noted = (.ok !(entry.1.compile types).isOk, next) ∧
      Follows types roster next.state ∧ next.told = Roster.report types entry :: noted.told := by
  obtain ⟨given, later, -, told⟩ := compiles_compiled follows listed
  rw [checkCommand, Action.bind_of_ok (Action.outcome_apply _ _)]
  generalize compiled entry.1.name noted = ended at given later told
  obtain ⟨outcome, next⟩ := ended
  dsimp only at given later told ⊢
  rw [Roster.report, ← given, ← told]
  cases outcome with
  | ok results => exact ⟨⟨next.state, ⟨.info, compiles entry.1⟩ :: next.notices⟩, rfl, later, rfl⟩
  | error fault =>
    have isGrammar : fault.isGrammar = true := grammatical fault given.symm
    simp only [isGrammar, if_true]
    exact ⟨⟨next.state, ⟨.error, compilesNot entry.1 entry.2 fault⟩ :: next.notices⟩, rfl, later, rfl⟩

/-- All commands are reported one after the other. -/
theorem mapM_checkCommand (grammatical : ∀ entry ∈ roster, entry.1.Grammatical types)
    (within : ∀ entry ∈ rest, entry ∈ roster) (follows : Follows types roster noted.state) :
    ∃ next, rest.mapM (fun entry => checkCommand entry.1 entry.2) noted =
        (.ok (rest.map fun entry => !(entry.1.compile types).isOk), next) ∧
      next.told = (rest.map (Roster.report types)).reverse ++ noted.told := by
  induction rest generalizing noted with
  | nil => exact ⟨noted, rfl, rfl⟩
  | cons entry rest ih =>
    have listed := within entry List.mem_cons_self
    obtain ⟨between, first, later, told⟩ := checkCommand_apply follows listed (grammatical entry listed)
    obtain ⟨next, others, more⟩ := ih (fun other inside => within other (List.mem_cons_of_mem _ inside)) later
    refine ⟨next, ?_, by simp [more, told]⟩
    rw [List.mapM_cons, Action.bind_of_ok first, Action.bind_of_ok others]
    rfl

/-- A check counts the faulty commands, and reports on all commands in order. -/
theorem check_apply (grammatical : ∀ entry ∈ roster, entry.1.Grammatical types)
    (represents : Represents types roster noted.state) :
    ∃ next, check noted = (.ok (roster.faulty types).length, next) ∧
      next.told = (roster.map (Roster.report types)).reverse ++ (load noted).2.told := by
  obtain ⟨later, read⟩ := load_apply noted
  have follows : Follows types roster noted.state.opened := represents
  have listed : listing noted = (.ok roster, ⟨noted.state.opened, later⟩) :=
    (Action.bind_of_ok read).trans (congrArg (fun shown => (Except.ok shown, _)) follows.roster_eq)
  have every : Follows types roster (Noted.mk noted.state.opened later).state := follows
  obtain ⟨next, all, told⟩ := mapM_checkCommand grammatical (fun _ inside => inside) every
  refine ⟨next, ?_, read ▸ told⟩
  rw [check, Action.bind_of_ok listed, Action.bind_of_ok all, Roster.length_faulty, List.countP_map]
  rfl

/-- What a service starts in is a fresh workspace on its folders. -/
theorem start_fresh {folders : Folders} {origin : Noted Workspace}
    (started : (start folders origin).1 = .ok ()) :
    let left := (start folders origin).2.state
    left = fresh left.storage left.types (some folders.library) (some folders.commands) := by
  cases loaded : loadTypeFolder folders.types origin with
  | mk outcome next =>
    cases outcome with
    | error fault =>
      rw [start, Action.bind_of_error loaded] at started
      cases started
    | ok names =>
      rw [start, Action.bind_of_ok loaded]
      rfl

/-- A start notes nothing but what is for debugging, information or a warning. -/
theorem mutes_start {heard : Notice → Bool} (debug : ∀ message, heard ⟨.debug, message⟩ = false)
    (info : ∀ message, heard ⟨.info, message⟩ = false)
    (warning : ∀ message, heard ⟨.warning, message⟩ = false) (folders : Folders) :
    Action.Mutes heard (start folders) :=
  .bind (mutes_loadTypeFolder debug warning folders.types) fun _ => .bind (.modifyState _) fun _ =>
    .bind (.note (info _)) fun _ => .bind (.note (info _)) fun _ => .bind (.note (info _)) fun _ =>
      .note (info _)

/-- The commands in the folders of a service. -/
def Folders.commandsOf (folders : Folders) (workspace : Workspace) : Roster :=
  .ofFolders workspace.storage (some folders.library) (some folders.commands)

/-- The commands that have been passed over when a line was dispatched to all of them. -/
def passedOver (workspace : Workspace) (line : String) : List String :=
  (workspace.leftBy (dispatchAll line)).commands.broken

/-- A check from the beginning answers the number of faulty commands, and its errors are theirs. -/
theorem startAndCheck_apply {folders : Folders} {origin : Workspace}
    (started : ((start folders).runFrom origin).1 = .ok ())
    (grammatical : ∀ entry ∈ folders.commandsOf (origin.leftBy (start folders)),
      entry.1.Grammatical (origin.leftBy (start folders)).types) :
    let workspace := origin.leftBy (start folders)
    let faulty := (folders.commandsOf workspace).faulty workspace.types
    let checked := (startAndCheck folders).runFrom origin
    checked.1 = .ok faulty.length ∧ checked.2.2.filter (·.level = .error) = faulty.map fun found =>
      ⟨.error, compilesNot found.1.1 found.1.2 found.2⟩ := by
  intro workspace faulty checked
  have isFresh := start_fresh started
  have represents : Represents workspace.types (folders.commandsOf workspace) workspace := by
    have same : workspace = fresh workspace.storage workspace.types (some folders.library)
        (some folders.commands) := isFresh
    rw [same]
    exact represents_fresh ..
  have ran : start folders ⟨origin, []⟩ = (.ok (), (start folders ⟨origin, []⟩).2) := Prod.ext started rfl
  obtain ⟨next, counted, told⟩ := @check_apply _ _ (start folders ⟨origin, []⟩).2 grammatical represents
  have whole : startAndCheck folders ⟨origin, []⟩ = (.ok faulty.length, next) :=
    (Action.bind_of_ok ran).trans counted
  have before : (load (start folders ⟨origin, []⟩).2).2.notices.filter (·.level = .error) = [] := by
    rw [mutes_load (by simp) (by simp), mutes_start (by simp) (by simp) (by simp)]
    rfl
  refine ⟨congrArg Prod.fst whole, ?_⟩
  calc checked.2.2.filter (·.level = .error)
    _ = (next.notices.filter (·.level = .error)).reverse := by
      rw [show checked.2.2 = next.notices.reverse from congrArg (fun ended => ended.2.notices.reverse) whole,
        List.filter_reverse]
    _ = ((folders.commandsOf workspace).map (Roster.report workspace.types)).filter (·.level = .error) := by
      rw [← Noted.filter_error, told, List.filter_append, Noted.filter_error, before, List.append_nil,
        List.filter_reverse, List.reverse_reverse]
    _ = _ := Roster.filter_report ..

/-- No command is marked when a service has started. -/
theorem marks_start {folders : Folders} {origin : Workspace}
    (started : ((start folders).runFrom origin).1 = .ok ()) :
    let workspace := origin.leftBy (start folders)
    Marks workspace.types (folders.commandsOf workspace) workspace.opened ∧
      workspace.opened.commands.broken = [] := by
  intro workspace
  have same : workspace = fresh workspace.storage workspace.types (some folders.library)
      (some folders.commands) := start_fresh started
  rw [same]
  exact marks_fresh ..

section Dispatch

variable {workspace : Workspace} {line : String}
  (grammatical : ∀ entry ∈ roster, entry.1.Grammatical types)
  (marks : Marks types roster workspace.opened)
include grammatical marks

/-- Only faulty commands are passed over. -/
theorem faultyNames_of_passedOver {name : String} (passed : name ∈ passedOver workspace line) :
    name ∈ roster.faultyNames types := by
  have after := @marks_inquire _ _ grammatical (.dispatchAll line) trivial ⟨workspace, []⟩ marks
  rw [inquire, Action.map_snd] at after
  exact after.broken name passed

/-- A legible line is answered, and all faulty commands are passed over. -/
theorem dispatchAll_legible (legible : roster.Legible types line) :
    ∃ found after, dispatchAll line ⟨workspace, []⟩ = (.ok found, after) ∧
      PassesOver types roster (load ⟨workspace, []⟩).2 after := by
  obtain ⟨found, ran⟩ := legible.dispatchAll
  obtain ⟨same, -⟩ := answers_dispatchAll grammatical line ⟨workspace, []⟩ marks.follows
  have answered : dispatchAll line ⟨workspace, []⟩ = (.ok found, (dispatchAll line ⟨workspace, []⟩).2) :=
    Prod.ext (same.trans ran) rfl
  exact ⟨found, _, answered, passesOver_dispatchAll grammatical marks.follows answered⟩

/-- The faulty commands are those that a legible line leaves marked. -/
theorem mem_passedOver_iff (legible : roster.Legible types line) (name : String) :
    name ∈ passedOver workspace line ↔ name ∈ roster.faultyNames types := by
  refine ⟨faultyNames_of_passedOver grammatical marks, fun faulty => ?_⟩
  obtain ⟨found, after, answered, passes⟩ := dispatchAll_legible grammatical marks legible
  have left : passedOver workspace line = after.state.commands.broken :=
    congrArg (fun ended => ended.2.state.commands.broken) answered
  obtain ⟨entry, inside, rfl⟩ := List.mem_map.mp faulty
  rw [left, passes.broken, List.mem_append, List.mem_reverse]
  by_cases old : entry.1.1.name ∈ (load ⟨workspace, []⟩).2.state.commands.broken
  · exact .inr old
  · exact .inl (List.mem_map.mpr ⟨entry, List.mem_filter.mpr ⟨inside, by simpa using old⟩, rfl⟩)

end Dispatch

/-- The exit code is zero when no check failed. -/
theorem exitCode_some (failures : Nat) : exitCode (some failures) = if failures = 0 then 0 else 1 := by
  simp [exitCode]

/-- A check agrees with the dispatch of lines. It exits with zero when no faulty command is found, and
otherwise with one, and it reports one error for each of them, in order. And whatever has been asked of the
commands in the meantime, a dispatch of a line to all of them passes over faulty commands only. If no
conversion fails on the line, it answers and has passed over all of them, and told of each when nothing was
asked before. -/
theorem exitCode_eq_zero_iff {folders : Folders} {origin : Workspace}
    (started : ((start folders).runFrom origin).1 = .ok ())
    (grammatical : ∀ entry ∈ folders.commandsOf (origin.leftBy (start folders)),
      entry.1.Grammatical (origin.leftBy (start folders)).types) :
    let workspace := origin.leftBy (start folders)
    let roster := folders.commandsOf workspace
    let faulty := roster.faulty workspace.types
    let checked := (startAndCheck folders).runFrom origin
    let code := exitCode checked.1.toOption
    (checked.2.2.filter (·.level = .error) = faulty.map fun found =>
        ⟨.error, compilesNot found.1.1 found.1.2 found.2⟩) ∧
      ∀ inquiries, (∀ inquiry ∈ inquiries, inquiry.Asks) → ∀ line,
        let asked := workspace.asked inquiries
        (∀ name ∈ passedOver asked line, name ∈ roster.faultyNames workspace.types) ∧
          (roster.Legible workspace.types line →
            (∃ found, asked.answer (.dispatchAll line) = .ok (.allDispatched found)) ∧
              (∀ name, name ∈ passedOver asked line ↔ name ∈ roster.faultyNames workspace.types) ∧
              (code = 0 ↔ passedOver asked line = []) ∧ (code = 1 ↔ passedOver asked line ≠ []) ∧
              (inquiries = [] → ((dispatchAll line).runFrom asked).2.2.filter Notice.isTold =
                (load.runFrom asked).2.2.filter Notice.isTold ++ faulty.map Roster.skipping)) := by
  intro workspace roster faulty checked code
  obtain ⟨counted, errors⟩ := startAndCheck_apply started grammatical
  obtain ⟨marks, unmarked⟩ := marks_start started
  refine ⟨errors, fun inquiries asks line => ?_⟩
  intro asked
  have marked : Marks workspace.types roster asked.opened := marks_asked grammatical asks marks
  refine ⟨fun name => faultyNames_of_passedOver grammatical marked, fun legible => ?_⟩
  obtain ⟨found, after, answered, passes⟩ := dispatchAll_legible grammatical marked legible
  have members := mem_passedOver_iff grammatical marked legible
  have none : passedOver asked line = [] ↔ faulty = [] := by
    rw [List.eq_nil_iff_forall_not_mem, ← List.map_eq_nil_iff (f := (·.1.1.name)), List.eq_nil_iff_forall_not_mem]
    exact forall_congr' fun name => not_congr (members name)
  have exits : code = if faulty = [] then 0 else 1 := by
    rw [show code = exitCode (some faulty.length) from congrArg (fun outcome => exitCode outcome.toOption) counted,
      exitCode_some]
    simp only [List.length_eq_zero_iff]
  refine ⟨⟨found, ?_⟩, members, ?_, ?_, ?_⟩
  · exact congrArg Prod.fst (Action.bind_of_ok answered)
  · rw [exits, none]
    split <;> simp_all
  · rw [exits, Ne, none]
    split <;> simp_all
  · rintro rfl
    obtain ⟨later, read⟩ := load_apply ⟨workspace, []⟩
    have first : (load ⟨workspace, []⟩).2.state.commands.broken = [] := by rw [read, ← unmarked]
    have all : roster.unpassed workspace.types [] = faulty := by simp [Roster.unpassed, faulty]
    calc ((dispatchAll line).runFrom workspace).2.2.filter Notice.isTold
      _ = after.told.reverse := by
        rw [show ((dispatchAll line).runFrom workspace).2.2 = after.notices.reverse from
          congrArg (fun ended => ended.2.notices.reverse) answered, List.filter_reverse]
        rfl
      _ = (load ⟨workspace, []⟩).2.told.reverse ++ faulty.map Roster.skipping := by
        rw [passes.told, List.reverse_append, List.reverse_reverse]
        exact congrArg (fun passed => _ ++ List.map Roster.skipping passed) (first.symm ▸ all)
      _ = _ := by
        rw [Noted.told, ← List.filter_reverse]
        rfl

/-- A storage with a type, a library with two commands, and a project that defines one of them anew with an
alias that does not compile. -/
def aliased : Workspace :=
  fresh ⟨[[], ["library"], ["project"], ["types"]],
    [(["library", "a.yaml"], .document (.record [("commands", .list [
        .record [("name", .text "go"), ("expression", .text "go")],
        .record [("name", .text "halt"), ("expression", .text "halt [:when@When]")]])])),
      (["project", "b.yaml"], .document (.record [("commands", .list [
        .record [("name", .text "go"), ("expression", .text "go fast"),
          ("aliases", .list [.text "run [fast"])]])])),
      (["types", "t.yaml"], .document (.record [("types", .list [
        .record [("name", .text "When"), ("choices", .list [.text "now", .text "later"])]])]))]⟩
    .numeric none none

/-- The check fails for the command with the alias, and a dispatch passes over it, also a second time. -/
theorem exitCode_aliased :
    let folders : Folders := ⟨"library", "project", "types"⟩
    let asked := (aliased.leftBy (start folders)).asked [.dispatchAll "go fast", .list]
    exitCode ((startAndCheck folders).runFrom aliased).1.toOption = 1 ∧
      ∀ name, name ∈ passedOver asked "halt now" ↔ name ∈ ["go"] := by
  intro folders asked
  have started : ((start folders).runFrom aliased).1 = .ok () :=
    Except.eq_ok_of_toOption (by decide +kernel)
  have grammatical : ∀ entry ∈ folders.commandsOf (aliased.leftBy (start folders)),
      entry.1.Grammatical (aliased.leftBy (start folders)).types := by
    have checked : ∀ entry ∈ folders.commandsOf (aliased.leftBy (start folders)),
        ((entry.1.compile (aliased.leftBy (start folders)).types).tryCatch fun fault =>
          if fault.isGrammar then .ok [] else .error fault).isOk = true := by
      decide +kernel
    intro entry listed fault failed
    have grammar := checked entry listed
    rw [failed] at grammar
    by_contra other
    simp [Except.tryCatch, other, Except.isOk, Except.toBool] at grammar
  have legible : (folders.commandsOf (aliased.leftBy (start folders))).Legible
      (aliased.leftBy (start folders)).types "halt now" := by
    have checked : ∀ entry ∈ folders.commandsOf (aliased.leftBy (start folders)),
        ∀ expression ∈ (entry.1.compile (aliased.leftBy (start folders)).types).toOption.getD [],
          (expression.attempt "halt now").all Except.isOk = true := by
      decide +kernel
    intro entry listed expressions compiled expression inside fault failed
    have read := checked entry listed expression (by simpa [compiled, Except.toOption] using inside)
    rw [failed] at read
    cases read
  have asks : ∀ inquiry ∈ [Inquiry.dispatchAll "go fast", .list], inquiry.Asks := by simp [Inquiry.Asks]
  obtain ⟨-, all⟩ := exitCode_eq_zero_iff started grammatical
  obtain ⟨-, members, -, failed, -⟩ := (all _ asks "halt now").2 legible
  have names : (folders.commandsOf (aliased.leftBy (start folders))).faultyNames
      (aliased.leftBy (start folders)).types = ["go"] := by
    decide +kernel
  rw [names] at members
  refine ⟨failed.mpr fun none => ?_, members⟩
  have passed := (members "go").mpr (by simp)
  rw [none] at passed
  cases passed

end Service

end LineGrammar
