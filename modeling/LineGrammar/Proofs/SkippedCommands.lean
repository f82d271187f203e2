import LineGrammar.Proofs.Bookkeeping

/-!
# Commands that are passed over

A dispatch passes over the commands that do not compile. The first time it warns of the command and marks
its name, and from then on the command is passed over silently. A new definition of the name takes the mark
away, and so does its removal.

So the marks are the record of what was told. In the course of a step either some names are passed over,
and then they are new among the marks, with one warning for each in the same order; or one name is renewed,
and nothing is told (`Course`). Along a run in which a name is not renewed, the warnings of the name and the
mark that it had before add up to the mark that it has in the end (`count_passed`). Since no name is marked
twice, there is at most one warning.

A warning shows the name of the command as it is, and a name may hold apostrophes and colons. The name
cannot always be read off the text, so it is taken from the mark that comes with the warning.
-/

namespace LineGrammar

/-! ## Warnings -/

namespace Notice

/-- A warning of a command that is passed over. -/
def isSkip (notice : Notice) : Bool :=
  notice.level = .warning && "Skipping command".toList.isPrefixOf notice.message.toList

/-- A notice warns that the command of a name is passed over for a fault of grammar. -/
def SkipsFor (notice : Notice) (name : String) : Prop :=
  ∃ (table : CommandTable) (fault : Fault), fault.isGrammar = true ∧
    notice = ⟨.warning, table.skipping name fault⟩

/-- What is for debugging is no warning. -/
theorem isSkip_debug (message : String) : isSkip ⟨.debug, message⟩ = false := rfl

/-- A warning is of a command that is passed over when it begins so. -/
theorem isSkip_warning (first rest : String) : isSkip ⟨.warning, first ++ rest⟩ =
    "Skipping command".toList.isPrefixOf (first.toList ++ rest.toList) := by
  rw [← String.toList_append]
  rfl

/-- The warning of a command that is passed over is one. -/
theorem isSkip_skipping (table : CommandTable) (name : String) (fault : Fault) :
    isSkip ⟨.warning, table.skipping name fault⟩ = true := by
  delta CommandTable.skipping
  simp only [isSkip_warning, String.toList_append]
  simp

/-- The warning of a file that cannot be read is another one. -/
theorem isSkip_unreadable (path : String) : isSkip ⟨.warning, Workspace.unreadable path⟩ = false := by
  delta Workspace.unreadable
  rw [isSkip_warning]
  simp [List.isPrefixOf]

/-- The warning of a type that is defined again is another one. -/
theorem isSkip_redefinition (name : String) : isSkip ⟨.warning, TypeTable.redefinition name⟩ = false := by
  delta TypeTable.redefinition
  rw [isSkip_warning, String.toList_append]
  simp [List.isPrefixOf]

end Notice

/-- The warnings of commands that were passed over, in order. -/
def Noted.skips {σ : Type} (noted : Noted σ) : List Notice := (noted.notices.filter Notice.isSkip).reverse

namespace Workspace

open LineGrammar.Action

variable {before between after : Noted Workspace} {names more : List String} {commands : List Command}

/-- A silent action warns of no command. -/
theorem skips_of_mutes {α : Type} {action : Session α} (mutes : Mutes Notice.isSkip action)
    (noted : Noted Workspace) : (action noted).2.skips = noted.skips :=
  congrArg List.reverse (mutes noted)

/-- Compiling a command warns of none. -/
theorem mutes_compiled (name : String) : Mutes Notice.isSkip (compiled name) := by
  refine .bind (.bind (mutes_load Notice.isSkip_debug Notice.isSkip_unreadable) fun _ =>
    .bind_state fun _ => .pure _) fun found => ?_
  cases found with
  | none => exact .refuse _
  | some command =>
    refine .bind_state fun workspace => ?_
    split
    · exact .pure _
    · exact .bind (.mapM (mutes_compileForCommand Notice.isSkip_debug) _) fun results =>
        .bind (.modifyState _) fun _ => .pure results

/-- Registering a command warns of none. -/
theorem mutes_register (command : Command) (atOnce : Bool) :
    Mutes Notice.isSkip (register command atOnce) := by
  refine .bind (mutes_load Notice.isSkip_debug Notice.isSkip_unreadable) fun _ => ?_
  split
  · exact .bind (.mapM (mutes_compileForCommand Notice.isSkip_debug) _) fun results =>
      .bind (mutes_addCommand Notice.isSkip_debug command none) fun _ => .modifyState _
  · exact mutes_addCommand Notice.isSkip_debug command none

/-- Removing a command warns of none. -/
theorem mutes_remove (name : String) : Mutes Notice.isSkip (remove name) :=
  .bind (mutes_load Notice.isSkip_debug Notice.isSkip_unreadable) fun _ =>
    .bind_state fun _ => .bind (.modifyState _) fun _ => .pure _

/-- Saving warns of no command. -/
theorem mutes_save (set : String) : Mutes Notice.isSkip (save set) := by
  have write (folder path : String) (data : Document) : Mutes Notice.isSkip (writeInto folder path data) :=
    .bind_state fun _ => .bind (.setState _) fun _ => .bind (.ofExcept _) fun _ => .setState _
  refine .bind_state fun workspace => ?_
  split
  · exact .refuse _
  · exact .bind (mutes_load Notice.isSkip_debug Notice.isSkip_unreadable) fun _ =>
      .bind_state fun _ => .bind (write _ _ _) fun _ => .bind (.modifyState _) fun _ => .pure _

/-- In the course of an action the commands of some names were passed over: they are marked, the latest
first, and there is one warning for each. -/
structure Skips (names : List String) (before after : Noted Workspace) : Prop where
  broken : after.state.commands.broken = names.reverse ++ before.state.commands.broken
  told : ∃ notices, after.skips = before.skips ++ notices ∧ List.Forall₂ Notice.SkipsFor notices names

namespace Skips

/-- Where no mark is made and no warning given, no command was passed over. -/
theorem quiet (broken : after.state.commands.broken = before.state.commands.broken)
    (silent : after.skips = before.skips) : Skips [] before after where
  broken := broken
  told := ⟨[], by simpa using silent, .nil⟩

/-- Commands that are passed over one after the other are marked and told of in order. -/
theorem trans (one : Skips names before between) (two : Skips more between after) :
    Skips (names ++ more) before after where
  broken := by rw [two.broken, one.broken, List.reverse_append, List.append_assoc]
  told := by
    obtain ⟨notices, told, each⟩ := one.told
    obtain ⟨others, later, rest⟩ := two.told
    exact ⟨notices ++ others, by rw [later, told, List.append_assoc], List.rel_append each rest⟩

end Skips

/-- The folders have been read, and some commands are known by their names. -/
structure Ready (commands : List Command) (workspace : Workspace) : Prop where
  accounted : workspace.Accounted
  loaded : workspace.commands.loaded = true
  known : ∀ command ∈ commands, workspace.commands.commands.contains command.name = true

/-- While some commands are known, all that an action does to the marks is to pass over commands. -/
def Skipping {α : Type} (commands : List Command) (action : Session α) : Prop :=
  ∀ noted, Ready commands noted.state →
    Ready commands (action noted).2.state ∧ ∃ names, Skips names noted (action noted).2

namespace Skipping

variable {α β : Type} {first : Session α} {next : α → Session β}

/-- An answered value passes over no command. -/
theorem pure (value : α) : Skipping commands (Pure.pure value) :=
  fun _ ready => ⟨ready, [], .quiet rfl rfl⟩

/-- A refusal passes over no command. -/
theorem refuse (fault : Fault) : Skipping commands (Action.refuse fault : Session α) :=
  fun _ ready => ⟨ready, [], .quiet rfl rfl⟩

/-- An action whose outcome is answered as a value passes over the same commands. -/
theorem outcome (skipping : Skipping commands first) : Skipping commands (Action.outcome first) :=
  fun noted ready => skipping noted ready

/-- Two actions that at most pass over commands do so after one another. -/
theorem bind (one : Skipping commands first) (two : ∀ value, Skipping commands (next value)) :
    Skipping commands (first >>= next) := by
  intro noted ready
  obtain ⟨ready, names, skips⟩ := one noted ready
  cases ran : first noted with
  | mk outcome between =>
    rw [ran] at ready skips
    cases outcome with
    | error fault =>
      rw [bind_of_error ran]
      exact ⟨ready, names, skips⟩
    | ok value =>
      rw [bind_of_ok ran]
      obtain ⟨ready, more, others⟩ := two value between ready
      exact ⟨ready, names ++ more, skips.trans others⟩

/-- An action that at most passes over commands does so when it is taken for each of some values. -/
theorem mapM {each : α → Session β} {values : List α}
    (skipping : ∀ value ∈ values, Skipping commands (each value)) :
    Skipping commands (values.mapM each) := by
  induction values with
  | nil => exact pure []
  | cons value rest ih =>
    rw [List.mapM_cons]
    refine bind (skipping value List.mem_cons_self) fun first => bind (ih fun other listed => ?_) fun more => ?_
    · exact skipping other (List.mem_cons_of_mem _ listed)
    · exact pure _

end Skipping

/-- Compiling a command passes over none. -/
theorem skipping_compiled (name : String) : Skipping commands (compiled name) := by
  intro noted ready
  obtain ⟨accounted, loaded, same, unmarked⟩ := leaves_compiled ready.accounted name
  rw [opened_of_loaded ready.loaded] at same unmarked
  refine ⟨⟨accounted, loaded, same ▸ ready.known⟩, [], .quiet unmarked ?_⟩
  exact skips_of_mutes (mutes_compiled name) noted

/-- The search for a first reading passes over no command. -/
theorem skipping_firstReading (line : String) (results : List Stamped) :
    Skipping commands (firstReading line results) := by
  intro noted ready
  have same : (firstReading line results noted).2.state = noted.state :=
    @keeps_firstReading (· = noted.state) line results noted rfl
  rw [same]
  refine ⟨ready, [], .quiet (congrArg (·.commands.broken) same) ?_⟩
  exact skips_of_mutes (mutes_firstReading Notice.isSkip_debug line results) noted

/-- A known command is passed over once: it is marked and told of, unless it was marked before. -/
theorem skipping_skip {command : Command} (listed : command ∈ commands) {fault : Fault}
    (isGrammar : fault.isGrammar = true) : Skipping commands (skip command.name fault) := by
  intro noted ready
  rw [skip_apply]
  by_cases marked : command.name ∈ noted.state.commands.broken
  · rw [if_pos (by simpa using marked)]
    exact ⟨ready, [], .quiet rfl rfl⟩
  · rw [if_neg (by simpa using marked)]
    have changed := ready.accounted.table.mark (ready.known command listed) marked
    let warning : Notice := ⟨.warning, noted.state.commands.skipping command.name fault⟩
    have warns : warning.SkipsFor command.name := ⟨noted.state.commands, fault, isGrammar, rfl⟩
    -- The name was not marked, so it is still marked only once.
    refine ⟨⟨ready.accounted.withTable changed rfl ready.loaded, ready.loaded, ready.known⟩, [command.name], ?_⟩
    refine ⟨rfl, [warning], ?_, .cons warns .nil⟩
    simp [Noted.skips, Notice.isSkip_skipping, warning]

/-- Trying a known command at most passes over it. -/
theorem skipping_tryCommand (line : String) {command : Command} (listed : command ∈ commands) :
    Skipping commands (tryCommand line command) := by
  refine .bind (.outcome (skipping_compiled command.name)) fun outcome => ?_
  cases outcome with
  | ok results => exact .bind (skipping_firstReading line results) fun _ => .pure _
  | error fault =>
    simp only
    split
    · exact .bind (skipping_skip listed ‹_›) fun _ => .pure none
    · exact .refuse fault

/-- Dispatching a line among known commands at most passes over some. -/
theorem skipping_dispatchAmong (line : String) {rest : List Command}
    (within : ∀ command ∈ rest, command ∈ commands) : Skipping commands (dispatchAmong line rest) := by
  induction rest with
  | nil => exact .pure none
  | cons command rest ih =>
    refine .bind (skipping_tryCommand line (within command List.mem_cons_self)) fun found => ?_
    cases found with
    | some found => exact .pure _
    | none => exact ih fun other listed => within other (List.mem_cons_of_mem _ listed)

/-- After the folders have been read, all commands are known by their names. -/
theorem ready_opened {workspace : Workspace} (accounted : workspace.Accounted) :
    Ready workspace.opened.commands.commands.values workspace.opened where
  accounted := accounted.opened
  loaded := loaded_opened workspace
  known _ listed := accounted.opened.table.toFiled.contains_of_mem listed

/-- An action reads the folders first, and then it goes through the commands. -/
theorem skips_load {α : Type} {through : List Command → Session α}
    (skipping : ∀ commands, Skipping commands (through commands)) (accounted : noted.state.Accounted) :
    let ended := (do load; through (← Action.state).commands.commands.values : Session α) noted
    ended.2.state.Accounted ∧ ∃ names, Skips names noted ended.2 := by
  intro ended
  obtain ⟨later, read⟩ := load_apply noted
  obtain ⟨ready, names, skips⟩ := skipping _ ⟨noted.state.opened, later⟩ (ready_opened accounted)
  have silent : (Noted.mk noted.state.opened later).skips = noted.skips := by
    have mutes := mutes_load Notice.isSkip_debug Notice.isSkip_unreadable
    rw [← skips_of_mutes mutes noted, read]
  have first : Skips [] noted ⟨noted.state.opened, later⟩ := .quiet accounted.broken_opened silent
  rw [show ended = _ from (Action.bind_of_ok read).trans (Action.state_bind _)]
  exact ⟨ready.accounted, names, first.trans skips⟩

/-- A dispatch leaves a workspace accounted for, and all it does to the marks is to pass over commands. -/
theorem skips_dispatch (line : String) (accounted : noted.state.Accounted) :
    (dispatch line noted).2.state.Accounted ∧ ∃ names, Skips names noted (dispatch line noted).2 :=
  skips_load (fun _ => skipping_dispatchAmong line fun _ listed => listed) accounted

/-- A dispatch to all leaves a workspace accounted for, and all it does to the marks is to pass over
commands. -/
theorem skips_dispatchAll (line : String) (accounted : noted.state.Accounted) :
    (dispatchAll line noted).2.state.Accounted ∧ ∃ names, Skips names noted (dispatchAll line noted).2 := by
  have through (commands : List Command) : Skipping commands (do
      let found ← commands.mapM (tryCommand line)
      return found.filterMap id) :=
    .bind (.mapM fun _ listed => skipping_tryCommand line listed) fun _ => .pure _
  exact skips_load through accounted

end Workspace

/-! ## Steps -/

/-- Asks a table of types to change. -/
def TypeTable.Request.perform : Request → Action Fault TypeTable Unit
  | .register name fragment conversion => do
    let _ ← registerNoted name fragment conversion
    return ()
  | .unregister name => Action.modifyState (·.unregister name)
  | .reset => Action.modifyState (·.reset)

/-- A request leaves the types as it changes them. -/
theorem TypeTable.Request.perform_state (request : Request) (noted : Noted TypeTable) :
    (request.perform noted).2.state = noted.state.after request := by
  cases request with
  | register name fragment conversion =>
    rw [perform, Action.map_snd fun _ => (), registerNoted_state, after, registerNoted_state]
  | unregister name => rfl
  | reset => rfl

namespace Workspace

open LineGrammar.Action

variable {workspace : Workspace} {before after : Noted Workspace}

/-- What may happen to the commands of a workspace: they are asked for, registered, removed or dispatched to,
they are saved, or the types are asked to change. -/
inductive Step where
  | inquire (inquiry : Inquiry)
  | save (set : String)
  | types (request : TypeTable.Request)

/-- Takes a step, whether it succeeds or fails. -/
def Step.perform : Step → Session Unit
  | .inquire inquiry => do
    let _ ← Workspace.inquire inquiry
    return ()
  | .save set => do
    let _ ← Workspace.save set
    return ()
  | .types request => onTypes request.perform

/-- A step renews what is known of a name: it registers a command of that name, or takes one out. -/
def Renews (workspace : Workspace) (name : String) : Step → Prop
  | .inquire (.register command atOnce) =>
    command.name = name ∧ ((register command atOnce).runFrom workspace).1 = .ok ()
  | .inquire (.remove other) => other = name ∧ ((remove other).runFrom workspace).1 = .ok true
  | _ => False

/-- What a step does to the marks and tells of commands that are passed over. Either it passes over some
commands, or it renews one, and then it only takes the mark of that one away. -/
inductive Course (renewed : String → Prop) (before after : Noted Workspace) : Prop
  | skips (names : List String) (skips : Skips names before after)
  | renews (name : String) (renews : renewed name)
    (broken : after.state.commands.broken = before.state.commands.broken.filter (· != name))
    (silent : after.skips = before.skips)

/-- A quiet step takes a course without any command. -/
theorem Course.quiet {renewed : String → Prop}
    (broken : after.state.commands.broken = before.state.commands.broken)
    (silent : after.skips = before.skips) : Course renewed before after :=
  .skips [] (.quiet broken silent)

/-- An action that tells of no command that is passed over, and leaves the marks as they are. -/
theorem course_quiet {α : Type} {renewed : String → Prop} {action : Session α}
    (mutes : Mutes Notice.isSkip action) {noted : Noted Workspace}
    (left : (action noted).2.state.Accounted ∧
      (action noted).2.state.commands.broken = noted.state.commands.broken) :
    (action noted).2.state.Accounted ∧ Course renewed noted (action noted).2 :=
  ⟨left.1, .quiet left.2 (skips_of_mutes mutes noted)⟩

/-- To read the folders and to look something up passes over no command. -/
theorem course_lookUp {α : Type} {renewed : String → Prop} {noted : Noted Workspace}
    (accounted : noted.state.Accounted) (answer : Workspace → α) :
    let ended := (do load; return answer (← Action.state) : Session α) noted
    ended.2.state.Accounted ∧ Course renewed noted ended.2 := by
  obtain ⟨later, read⟩ := load_apply noted
  refine course_quiet (.bind (mutes_load Notice.isSkip_debug Notice.isSkip_unreadable) fun _ =>
    .bind_state fun _ => .pure _) ?_
  rw [bind_of_ok read]
  exact ⟨accounted.opened, accounted.broken_opened⟩

/-- An inquiry leaves a workspace accounted for. It passes over commands, or it renews one by registering or
removing it. -/
theorem course_inquire (accounted : workspace.Accounted) (inquiry : Inquiry) :
    let after := (inquire inquiry ⟨workspace, []⟩).2
    after.state.Accounted ∧ Course (workspace.Renews · (.inquire inquiry)) ⟨workspace, []⟩ after := by
  intro after
  have here : Accounted (Noted.mk workspace []).state := accounted
  cases inquiry with
  | list =>
    have same : after = (listing ⟨workspace, []⟩).2 := map_snd ..
    exact same ▸ course_lookUp here _
  | get name =>
    have same : after = (command? name ⟨workspace, []⟩).2 := map_snd ..
    exact same ▸ course_lookUp here _
  | compiled name =>
    have same : after = (compiled name ⟨workspace, []⟩).2 :=
      map_snd (fun results : List Stamped => Answer.compiled (results.map (·.expression))) ..
    obtain ⟨left, -, -, broken⟩ := leaves_compiled here name
    exact same ▸ course_quiet (mutes_compiled name) ⟨left, broken.trans accounted.broken_opened⟩
  | register command atOnce =>
    have same : after = (register command atOnce ⟨workspace, []⟩).2 := map_snd (fun _ => Answer.registered) ..
    have silent := skips_of_mutes (mutes_register command atOnce) ⟨workspace, []⟩
    obtain ⟨left, ⟨taken, broken⟩ | broken⟩ := leaves_register here command atOnce
    · exact same ▸ ⟨left, .renews command.name ⟨rfl, taken⟩ broken silent⟩
    · exact same ▸ ⟨left, .quiet broken silent⟩
  | remove name =>
    have same : after = (remove name ⟨workspace, []⟩).2 := map_snd ..
    have silent := skips_of_mutes (mutes_remove name) ⟨workspace, []⟩
    obtain ⟨left, ⟨taken, broken⟩ | broken⟩ := leaves_remove here name
    · exact same ▸ ⟨left, .renews name ⟨rfl, taken⟩ broken silent⟩
    · exact same ▸ ⟨left, .quiet broken silent⟩
  | dispatch line =>
    have same : after = (dispatch line ⟨workspace, []⟩).2 := map_snd ..
    obtain ⟨left, names, skips⟩ := skips_dispatch line here
    exact same ▸ ⟨left, .skips names skips⟩
  | dispatchAll line =>
    have same : after = (dispatchAll line ⟨workspace, []⟩).2 := map_snd ..
    obtain ⟨left, names, skips⟩ := skips_dispatchAll line here
    exact same ▸ ⟨left, .skips names skips⟩

/-- To ask for a change of the types warns of no command. -/
theorem mutes_perform (request : TypeTable.Request) : Mutes Notice.isSkip request.perform := by
  cases request with
  | register name fragment conversion =>
    exact .bind (mutes_registerNoted Notice.isSkip_redefinition name fragment conversion) fun _ => .pure _
  | unregister name => exact .modifyState _
  | reset => exact .modifyState _

/-- Every step keeps all that is kept beside the commands accounted for, and it renews a command or passes
over some. -/
theorem course_perform (accounted : workspace.Accounted) (step : Step) :
    let after := (step.perform ⟨workspace, []⟩).2
    after.state.Accounted ∧ Course (workspace.Renews · step) ⟨workspace, []⟩ after := by
  intro after
  have here : Accounted (Noted.mk workspace []).state := accounted
  cases step with
  | inquire inquiry =>
    have same : after = (inquire inquiry ⟨workspace, []⟩).2 := map_snd (fun _ => ()) ..
    exact same ▸ course_inquire accounted inquiry
  | save set =>
    have same : after = (save set ⟨workspace, []⟩).2 := map_snd (fun _ => ()) ..
    exact same ▸ course_quiet (mutes_save set) (leaves_save here set)
  | types request =>
    have left : after.state = { workspace with types := workspace.types.after request } :=
      congrArg (fun types => { workspace with types := types }) (request.perform_state _)
    refine course_quiet (.within (mutes_perform request)) ?_
    rw [show (within _ _ request.perform ⟨workspace, []⟩).2.state = _ from left]
    exact ⟨leaves_types accounted request, rfl⟩

/-! ## Runs -/

variable {step : Step} {steps : List Step} {name : String}

/-- A workspace after several steps. -/
def taken (workspace : Workspace) (steps : List Step) : Workspace :=
  steps.foldl (fun workspace step => workspace.leftBy step.perform) workspace

/-- What is noted in the course of several steps, in order. -/
def journal : Workspace → List Step → List Notice
  | _, [] => []
  | workspace, step :: rest =>
    (step.perform.runFrom workspace).2.2 ++ journal (workspace.leftBy step.perform) rest

/-- The names that a step marks, in order. -/
def newMarks (workspace : Workspace) (step : Step) : List String :=
  ((workspace.leftBy step.perform).commands.broken.filter
    fun name => !workspace.commands.broken.contains name).reverse

/-- The names that are marked in the course of several steps, in order. -/
def passed : Workspace → List Step → List String
  | _, [] => []
  | workspace, step :: rest => workspace.newMarks step ++ passed (workspace.leftBy step.perform) rest

/-- None of several steps renews what is known of a name. -/
def Unrenewed (name : String) : Workspace → List Step → Prop
  | _, [] => True
  | workspace, step :: rest =>
    ¬workspace.Renews name step ∧ Unrenewed name (workspace.leftBy step.perform) rest

/-- The names that a step marks are those of the commands that it passes over, as no name is marked
twice. -/
theorem newMarks_of_skips {names : List String} (distinct : (workspace.leftBy step.perform).commands.broken.Nodup)
    (broken : (workspace.leftBy step.perform).commands.broken = names.reverse ++ workspace.commands.broken) :
    workspace.newMarks step = names := by
  rw [broken] at distinct
  have apart := (List.nodup_append.mp distinct).2.2
  have new : names.reverse.filter (fun name => !workspace.commands.broken.contains name) = names.reverse :=
    List.filter_eq_self.mpr fun name listed => by
      simpa using fun marked => apart name listed name marked rfl
  have old : workspace.commands.broken.filter (fun name => !workspace.commands.broken.contains name) = [] :=
    List.filter_eq_nil_iff.mpr fun name marked => by simpa using marked
  rw [newMarks, broken, List.filter_append, new, old, List.append_nil, List.reverse_reverse]

/-- A step that renews a command marks none. -/
theorem newMarks_of_renews
    (broken : (workspace.leftBy step.perform).commands.broken = workspace.commands.broken.filter (· != name)) :
    workspace.newMarks step = [] := by
  rw [newMarks, broken, List.reverse_eq_nil_iff, List.filter_eq_nil_iff]
  intro other listed
  simpa using (List.mem_filter.mp listed).1

/-- A step warns of the names that it marks, one after the other, that their commands are passed over, and it
warns of no other. -/
theorem forall₂_newMarks (accounted : workspace.Accounted) (step : Step) :
    List.Forall₂ Notice.SkipsFor ((step.perform.runFrom workspace).2.2.filter Notice.isSkip)
      (workspace.newMarks step) := by
  obtain ⟨left, course⟩ := course_perform accounted step
  have told : (step.perform.runFrom workspace).2.2.filter Notice.isSkip =
      (step.perform ⟨workspace, []⟩).2.skips := List.filter_reverse ..
  rw [told]
  cases course with
  | skips names skips =>
    obtain ⟨notices, noted, each⟩ := skips.told
    rw [newMarks_of_skips left.table.once skips.broken, noted]
    exact each
  | renews name renews broken silent =>
    rw [newMarks_of_renews broken, silent]
    exact .nil

/-- As long as a name is not renewed, its mark is the record of what was told of it. -/
theorem count_newMarks (accounted : workspace.Accounted) (unrenewed : ¬workspace.Renews name step) :
    (workspace.newMarks step).count name + workspace.commands.broken.count name =
      (workspace.leftBy step.perform).commands.broken.count name := by
  obtain ⟨left, course⟩ := course_perform accounted step
  cases course with
  | skips names skips =>
    rw [newMarks_of_skips left.table.once skips.broken]
    refine Eq.symm ((congrArg (List.count name) skips.broken).trans ?_)
    rw [List.count_append, List.count_reverse]
  | renews other renews broken silent =>
    have apart : name ≠ other := by
      rintro rfl
      exact unrenewed renews
    rw [newMarks_of_renews broken, List.count_nil, Nat.zero_add]
    refine Eq.symm ((congrArg (List.count name) broken).trans (List.count_filter ?_))
    simpa using apart

/-- A workspace stays accounted for in every run of steps. -/
theorem accounted_taken (accounted : workspace.Accounted) (steps : List Step) :
    (workspace.taken steps).Accounted := by
  induction steps generalizing workspace with
  | nil => exact accounted
  | cons step rest ih =>
    have next : (workspace.leftBy step.perform).Accounted := (course_perform accounted step).1
    exact ih next

/-- In every run of steps, the warnings are those of the names that are marked, in order. -/
theorem forall₂_passed (accounted : workspace.Accounted) (steps : List Step) :
    List.Forall₂ Notice.SkipsFor ((workspace.journal steps).filter Notice.isSkip) (workspace.passed steps) := by
  induction steps generalizing workspace with
  | nil => exact .nil
  | cons step rest ih =>
    have next : (workspace.leftBy step.perform).Accounted := (course_perform accounted step).1
    rw [journal, passed, List.filter_append]
    exact List.rel_append (forall₂_newMarks accounted step) (ih next)

/-- As long as no step renews it, a name is marked as often as it comes to be marked. -/
theorem count_passed (accounted : workspace.Accounted) (unrenewed : Unrenewed name workspace steps) :
    (workspace.passed steps).count name + workspace.commands.broken.count name =
      (workspace.taken steps).commands.broken.count name := by
  induction steps generalizing workspace with
  | nil => exact Nat.zero_add _
  | cons step rest ih =>
    have next : (workspace.leftBy step.perform).Accounted := (course_perform accounted step).1
    have here := count_newMarks accounted unrenewed.1
    have behind := ih next unrenewed.2
    rw [passed, List.count_append, taken, List.foldl_cons]
    rw [taken] at behind
    omega

/-- After any steps, what is kept beside the commands belongs to commands that are there, as they are defined
now. In the course of further steps, the warnings of commands that are passed over are those of the names that
become marked, one for each and in order; and a name that is not renewed meanwhile is among them at most
once. -/
theorem tables_accounted (storage : Storage) (types : TypeTable) (library project : Option String)
    (earlier later : List Step) :
    let workspace := (fresh storage types library project).taken earlier
    workspace.commands.Accounted ∧
      List.Forall₂ Notice.SkipsFor ((workspace.journal later).filter Notice.isSkip) (workspace.passed later) ∧
      ∀ name, Unrenewed name workspace later → (workspace.passed later).count name ≤ 1 := by
  intro workspace
  have accounted : workspace.Accounted := accounted_taken (.fresh storage types library project) earlier
  refine ⟨accounted.table, forall₂_passed accounted later, fun name unrenewed => ?_⟩
  have ledger := count_passed accounted unrenewed
  have once := List.nodup_iff_count_le_one.mp (accounted_taken accounted later).table.once name
  omega

/-- A command whose type is not known is registered without being compiled. -/
def untuned : Workspace :=
  (fresh .empty .numeric none none).taken [.inquire (.register ⟨"tune", "tune :k@Key", "", [], []⟩ false)]

/-- A definition that is not well-formed. -/
def detuned : Command := ⟨"tune", "tune [k", "", [], []⟩

/-- Lines are dispatched before and after a registration of the same name that is refused. -/
def refusedBetween : List Step :=
  [.inquire (.dispatch "x"), .inquire (.register detuned true), .types (.register "Other" "a" none),
    .inquire (.dispatchAll "x")]

/-- No step of the run renews the command: the registration is refused. -/
theorem unrenewed_refusedBetween : Unrenewed "tune" untuned refusedBetween := by
  refine ⟨id, ?_, id, id, trivial⟩
  rintro ⟨-, taken⟩
  have refused : ((register detuned true).runFrom
      (untuned.leftBy (Step.inquire (.dispatch "x")).perform)).1.toOption = none := by decide +kernel
  rw [taken] at refused
  cases refused

/-- A registration that is refused does not lead to a second warning. -/
theorem tables_accounted_refused :
    Unrenewed "tune" untuned refusedBetween ∧ untuned.passed refusedBetween = ["tune"] ∧
      (untuned.passed refusedBetween).count "tune" ≤ 1 :=
  ⟨unrenewed_refusedBetween, by decide +kernel,
    (tables_accounted .empty .numeric none none _ refusedBetween).2.2 "tune" unrenewed_refusedBetween⟩

example : untuned.passed [.inquire (.dispatch "x"), .inquire (.register detuned false),
    .inquire (.dispatch "x")] = ["tune", "tune"] := by decide +kernel

end Workspace

end LineGrammar
