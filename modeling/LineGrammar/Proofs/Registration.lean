import LineGrammar.Proofs.Refinement
import LineGrammar.Proofs.Saving

/-!
# Registering commands that compile

A command that is to compile at once is registered as a whole or not at all. If it does not compile, some
of its expressions may have been compiled before, and the compiler keeps them. Nothing else is left of the
attempt, and what a compiler keeps shows in no answer, neither at once nor later.

Workspaces that differ only so are interchangeable. What is kept of a command may be of an older version
of the types, so it counts among the things that must agree, up to the stamps.
-/

namespace LineGrammar

/-- Two outcomes with the same view are two values with the same view, or one fault. -/
theorem Except.both_of_map_eq {ε α β : Type} {view : α → β} {one two : Except ε α}
    (same : one.map view = two.map view) :
    (∃ value another, one = .ok value ∧ two = .ok another ∧ view value = view another) ∨
      ∃ fault, one = .error fault ∧ two = .error fault := by
  cases one with
  | ok value =>
    cases two with
    | ok another => exact .inl ⟨value, another, rfl, rfl, Except.ok.inj same⟩
    | error fault => cases same
  | error fault =>
    cases two with
    | ok another => cases same
    | error fault_other =>
      cases same
      exact .inr ⟨fault, rfl, rfl⟩

/-! ## Interchangeable tables -/

namespace CommandTable

variable {types : TypeTable} {table other : CommandTable}

/-- The expressions that are kept of the command of a name. -/
def recalled (table : CommandTable) (name : String) : Option (List Expression) :=
  (table.compiled.get? name).map (List.map (·.expression))

/-- With a new definition of a name, nothing is kept of the old one. -/
theorem recalled_add (table : CommandTable) (command : Command) (path : Option String) (name : String) :
    (table.add command path).recalled name =
      if name = command.name then none else table.recalled name := by
  simp only [recalled, add, forget, place, Table.get?_erase]
  split <;> rfl

/-- Nothing is kept of a command that is removed. -/
theorem recalled_remove (table : CommandTable) (gone name : String) :
    (table.remove gone).recalled name = if name = gone then none else table.recalled name := by
  simp only [recalled, remove, forget, place, Table.get?_erase]
  split <;> rfl

/-- What is kept of a command is what was kept last. -/
theorem recalled_keep (table : CommandTable) (known : String) (results : List Stamped) (name : String) :
    (table.keep known results).recalled name =
      if name = known then some (results.map (·.expression)) else table.recalled name := by
  simp only [recalled, keep, Table.get?_insert]
  split <;> rfl

/-- A table without anything compiled. -/
def shown (table : CommandTable) : CommandTable :=
  { table with compiled := .empty, compiler := ⟨.empty, 0, 0⟩ }

/-- Two tables agree in everything but stamps and what their compilers keep, and both compilers are
faithful. -/
structure Interchangeable (types : TypeTable) (table other : CommandTable) : Prop where
  shown_eq : table.shown = other.shown
  recalled_eq : ∀ name, table.recalled name = other.recalled name
  faithful : table.compiler.Faithful types
  faithful_other : other.compiler.Faithful types

namespace Interchangeable

/-- What does not concern compilation is the same for both tables. -/
theorem same {α : Type} (alike : Interchangeable types table other) (part : CommandTable → α)
    (apart : ∀ table, part table.shown = part table) : part table = part other := by
  rw [← apart table, ← apart other, alike.shown_eq]

/-- Interchangeable tables have the same commands. -/
theorem commands_eq (alike : Interchangeable types table other) : table.commands = other.commands :=
  alike.same (·.commands) fun _ => rfl

/-- Interchangeable tables have the same commands without a file. -/
theorem unsaved_eq (alike : Interchangeable types table other) : table.unsaved = other.unsaved :=
  alike.same unsaved fun _ => rfl

/-- The same may be done with both tables to what does not concern compilation. -/
theorem change (alike : Interchangeable types table other) (step : CommandTable → CommandTable)
    (apart : ∀ table, (step table).shown = (step table.shown).shown ∧
      (step table).compiler = table.compiler)
    (recalled : ∀ name, (step table).recalled name = (step other).recalled name) :
    Interchangeable types (step table) (step other) where
  shown_eq := by rw [(apart table).1, (apart other).1, alike.shown_eq]
  recalled_eq := recalled
  faithful := (apart table).2 ▸ alike.faithful
  faithful_other := (apart other).2 ▸ alike.faithful_other

/-- Interchangeable tables stay so when a command is added to both. -/
theorem add (alike : Interchangeable types table other) (command : Command) (path : Option String) :
    Interchangeable types (table.add command path) (other.add command path) :=
  alike.change (·.add command path) (fun _ => ⟨rfl, rfl⟩) fun name => by
    rw [recalled_add, recalled_add, alike.recalled_eq]

/-- Interchangeable tables stay so when a command is removed from both. -/
theorem remove (alike : Interchangeable types table other) (gone : String) :
    Interchangeable types (table.remove gone) (other.remove gone) :=
  alike.change (·.remove gone) (fun _ => ⟨rfl, rfl⟩) fun name => by
    rw [recalled_remove, recalled_remove, alike.recalled_eq]

/-- What is kept may bear different stamps in the two tables. -/
theorem keep (alike : Interchangeable types table other) (known : String) {results others : List Stamped}
    (same : results.map (·.expression) = others.map (·.expression)) :
    Interchangeable types (table.keep known results) (other.keep known others) where
  shown_eq := alike.shown_eq
  recalled_eq name := by rw [recalled_keep, recalled_keep, alike.recalled_eq, same]
  faithful := alike.faithful
  faithful_other := alike.faithful_other

/-- Any other faithful compilers may take the place of those of the tables. -/
theorem compilers {one two : Compiler} (alike : Interchangeable types table other)
    (faithful : one.Faithful types) (faithful_other : two.Faithful types) :
    Interchangeable types { table with compiler := one } { other with compiler := two } :=
  ⟨alike.shown_eq, alike.recalled_eq, faithful, faithful_other⟩

/-- Interchangeable tables stay so when the commands of files are added to both. -/
theorem addAll (alike : Interchangeable types table other) (entries : List (Command × String)) :
    Interchangeable types (table.addAll entries) (other.addAll entries) := by
  induction entries generalizing table other with
  | nil => exact alike
  | cons entry rest ih => exact ih (alike.add entry.1 (some entry.2))

/-- The same commands are given the same path. -/
theorem placeAll (alike : Interchangeable types table other) (commands : List Command) (path : String) :
    Interchangeable types
      (commands.foldl (fun table command => table.place command.name (some path)) table)
      (commands.foldl (fun table command => table.place command.name (some path)) other) := by
  induction commands generalizing table other with
  | nil => exact alike
  | cons command rest ih =>
    exact ih (alike.change (·.place command.name (some path)) (fun _ => ⟨rfl, rfl⟩) alike.recalled_eq)

/-- Interchangeable tables stay so when the folders are read. -/
theorem opened (alike : Interchangeable types table other) (storage : Storage) :
    Interchangeable types (table.opened storage) (other.opened storage) := by
  have loaded : table.loaded = other.loaded := alike.same (·.loaded) fun _ => rfl
  have folders : table.folders = other.folders := alike.same (·.folders) fun _ => rfl
  rw [CommandTable.opened, CommandTable.opened, loaded, folders]
  split
  · exact alike
  · exact addAll (alike.change ({ · with loaded := true }) (fun _ => ⟨rfl, rfl⟩) alike.recalled_eq) _

end Interchangeable

end CommandTable

namespace Workspace

/-- Two workspaces with the same storage and types, whose tables of commands are interchangeable. -/
structure Interchangeable (workspace other : Workspace) : Prop where
  storage_eq : workspace.storage = other.storage
  types_eq : workspace.types = other.types
  commands : workspace.commands.Interchangeable workspace.types other.commands

variable {workspace other : Workspace}

namespace Interchangeable

/-- Interchangeable workspaces stay so with tables that are. -/
theorem withCommands {table changed : CommandTable} (alike : Interchangeable workspace other)
    (commands : table.Interchangeable workspace.types changed) :
    Interchangeable { workspace with commands := table } { other with commands := changed } :=
  ⟨alike.storage_eq, alike.types_eq, commands⟩

/-- Interchangeable workspaces stay so when the folders are read. -/
theorem opened (alike : Interchangeable workspace other) :
    Interchangeable workspace.opened other.opened := by
  refine alike.withCommands ?_
  rw [alike.storage_eq]
  exact alike.commands.opened other.storage

/-- Both compilers answer what the types give to the expressions of a command. -/
theorem answerAll (alike : Interchangeable workspace other) (command : Command) :
    let answers := workspace.commands.compiler.answerAll workspace.types command.expressions
    let others := other.commands.compiler.answerAll other.types command.expressions
    answers.1.map (List.map (·.expression)) = others.1.map (List.map (·.expression)) ∧
      Interchangeable (workspace.withCompiler answers.2) (other.withCompiler others.2) := by
  intro answers others
  obtain ⟨faithful, given⟩ := alike.commands.faithful.answerAll command.expressions
  obtain ⟨still, same⟩ := alike.commands.faithful_other.answerAll command.expressions
  rw [alike.types_eq] at same still
  constructor
  · rw [given, same, alike.types_eq]
  · refine alike.withCommands (alike.commands.compilers faithful ?_)
    rw [alike.types_eq]
    exact still

end Interchangeable

/-! ## Actions on interchangeable workspaces -/

section Agreement

variable {α β γ δ : Type}

/-- On interchangeable workspaces two actions give the same outcome, as far as a view of it shows, and
leave interchangeable workspaces behind. -/
def Agree (view : α → β) (one two : Session α) : Prop :=
  ∀ noted other : Noted Workspace, Interchangeable noted.state other.state →
    (one noted).1.map view = (two other).1.map view ∧
      Interchangeable (one noted).2.state (two other).2.state

/-- An action gives the same outcome on interchangeable workspaces. -/
abbrev Indifferent (action : Session α) : Prop := Agree id action action

/-- Actions that agree go on in agreement. -/
theorem Agree.bind {view : α → β} {look : γ → δ} {first second : Session α} {rest others : α → Session γ}
    (one : Agree view first second)
    (two : ∀ value another, view value = view another → Agree look (rest value) (others another)) :
    Agree look (first >>= rest) (second >>= others) := by
  intro noted other alike
  obtain ⟨given, left⟩ := one noted other alike
  rcases Except.both_of_map_eq given with ⟨value, another, ran, ran_other, same⟩ | ⟨fault, ran, ran_other⟩
  · rw [Action.bind_of_ok (Prod.ext ran rfl), Action.bind_of_ok (Prod.ext ran_other rfl)]
    exact two value another same _ _ left
  · rw [Action.bind_of_error (Prod.ext ran rfl), Action.bind_of_error (Prod.ext ran_other rfl)]
    exact ⟨rfl, left⟩

namespace Indifferent

/-- An answered value is the same on every workspace. -/
theorem pure (value : α) : Indifferent (Pure.pure value) := fun _ _ alike => ⟨rfl, alike⟩

/-- A refusal is the same on every workspace. -/
theorem refuse (fault : Fault) : Indifferent (Action.refuse fault : Session α) :=
  fun _ _ alike => ⟨rfl, alike⟩

/-- Indifferent actions after one another are indifferent. -/
theorem bind {first : Session α} {rest : α → Session β} (one : Indifferent first)
    (two : ∀ value, Indifferent (rest value)) : Indifferent (first >>= rest) :=
  Agree.bind one fun value another same => by
    obtain rfl : value = another := same
    exact two value

/-- An action may look at the state first, if what it does then agrees. -/
theorem bind_state {next : Workspace → Session α}
    (agree : ∀ noted other : Noted Workspace, Interchangeable noted.state other.state →
      (next noted.state noted).1.map id = (next other.state other).1.map id ∧
        Interchangeable (next noted.state noted).2.state (next other.state other).2.state) :
    Indifferent (Action.state >>= next) := by
  intro noted other alike
  rw [Action.state_bind, Action.state_bind]
  exact agree noted other alike

/-- An indifferent action is so when it is taken for each of some values. -/
theorem mapM {each : α → Session β} (one : ∀ value, Indifferent (each value)) (values : List α) :
    Indifferent (values.mapM each) := by
  induction values with
  | nil => exact pure []
  | cons value rest ih =>
    rw [List.mapM_cons]
    exact bind (one value) fun first => bind ih fun more => pure (first :: more)

end Indifferent

end Agreement

/-- Reading the folders is indifferent. -/
theorem indifferent_load : Indifferent load := by
  intro noted other alike
  obtain ⟨later, read⟩ := load_apply noted
  obtain ⟨later_other, read_other⟩ := load_apply other
  rw [read, read_other]
  exact ⟨rfl, alike.opened⟩

/-- What is compiled of a command agrees in its expressions, whether it was kept in both workspaces or in
none of them. -/
theorem agree_compiled (name : String) :
    Agree (List.map (·.expression)) (compiled name) (compiled name) := by
  intro noted other alike
  have opened := alike.opened
  have commands := opened.commands.commands_eq
  cases known : noted.state.opened.commands.commands.get? name with
  | none =>
    obtain ⟨later, failed⟩ := compiled_unknown noted known
    rw [commands] at known
    obtain ⟨later_other, failed_other⟩ := compiled_unknown other known
    rw [failed, failed_other]
    exact ⟨rfl, opened⟩
  | some command =>
    have known_other := known
    rw [commands] at known_other
    have recalled := opened.commands.recalled_eq name
    unfold CommandTable.recalled at recalled
    cases kept : noted.state.opened.commands.compiled.get? name with
    | some results =>
      cases kept_other : other.state.opened.commands.compiled.get? name with
      | none => rw [kept, kept_other] at recalled; cases recalled
      | some results_other =>
        obtain ⟨later, answered⟩ := compiled_kept noted known kept
        obtain ⟨later_other, answered_other⟩ := compiled_kept other known_other kept_other
        rw [kept, kept_other] at recalled
        rw [answered, answered_other]
        exact ⟨congrArg Except.ok (Option.some.inj recalled), opened⟩
    | none =>
      cases kept_other : other.state.opened.commands.compiled.get? name with
      | some results_other => rw [kept, kept_other] at recalled; cases recalled
      | none =>
        obtain ⟨later, answered⟩ := compiled_new noted known kept
        obtain ⟨later_other, answered_other⟩ := compiled_new other known_other kept_other
        obtain ⟨given, left⟩ := opened.answerAll command
        rw [answered, answered_other]
        refine ⟨given, ?_⟩
        rcases Except.both_of_map_eq given with ⟨results, others, ran, ran_other, same⟩ | ⟨fault, ran, ran_other⟩
        · simp only [ran, ran_other]
          exact left.withCommands (left.commands.keep name same)
        · simp only [ran, ran_other]
          exact left

/-- Reading a line by an expression is indifferent. -/
theorem indifferent_readNoted (expression : Expression) (line : String) :
    Indifferent (expression.readNoted line : Session (Option Reading)) := by
  intro noted other alike
  obtain ⟨later, read⟩ := readNoted_apply expression line noted
  obtain ⟨later_other, read_other⟩ := readNoted_apply expression line other
  rw [read, read_other]
  exact ⟨rfl, alike⟩

/-- The stamps of the results do not matter to a reading. -/
theorem agree_firstReading (line : String) {results others : List Stamped}
    (same : results.map (·.expression) = others.map (·.expression)) :
    Agree id (firstReading line results) (firstReading line others) := by
  induction results generalizing others with
  | nil =>
    cases others with
    | nil => exact Indifferent.pure none
    | cons first rest => cases same
  | cons result results ih =>
    cases others with
    | nil => cases same
    | cons first rest =>
      obtain ⟨head, tail⟩ := List.cons.inj same
      rw [firstReading, firstReading, show result.expression = first.expression from head]
      refine Agree.bind (indifferent_readNoted first.expression line) fun found again equal => ?_
      obtain rfl : found = again := equal
      cases found with
      | some reading => exact Indifferent.pure _
      | none => exact ih tail

/-- Passing over a command is indifferent, as the marks are the same in both tables. -/
theorem indifferent_skip (name : String) (fault : Fault) : Indifferent (skip name fault) := by
  refine .bind_state fun noted other alike => ?_
  have broken : noted.state.commands.broken = other.state.commands.broken :=
    alike.commands.same (·.broken) fun _ => rfl
  rw [broken]
  by_cases passed : other.state.commands.broken.contains name = true
  · rw [if_pos passed, if_pos passed]
    exact ⟨rfl, alike⟩
  · rw [if_neg passed, if_neg passed]
    refine ⟨rfl, alike.withCommands ?_⟩
    exact alike.commands.change (fun table => { table with broken := name :: table.broken })
      (fun _ => ⟨rfl, rfl⟩) alike.commands.recalled_eq

/-- Trying a command is indifferent: the results differ in their stamps only, which no reading looks at. -/
theorem indifferent_tryCommand (line : String) (command : Command) :
    Indifferent (tryCommand line command) := by
  have compiled : Agree (Except.map (List.map (·.expression))) (Action.outcome (compiled command.name))
      (Action.outcome (compiled command.name)) := by
    intro noted other alike
    obtain ⟨given, left⟩ := agree_compiled command.name noted other alike
    exact ⟨congrArg Except.ok given, left⟩
  refine compiled.bind fun outcome another same => ?_
  rcases Except.both_of_map_eq same with ⟨results, others, rfl, rfl, equal⟩ | ⟨fault, rfl, rfl⟩
  · refine (agree_firstReading line equal).bind fun found again equal => ?_
    obtain rfl : found = again := equal
    exact Indifferent.pure _
  · simp only
    split
    · exact Indifferent.bind (indifferent_skip command.name fault) fun _ => .pure none
    · exact Indifferent.refuse fault

/-- Dispatching a line among commands is indifferent. -/
theorem indifferent_dispatchAmong (line : String) (commands : List Command) :
    Indifferent (dispatchAmong line commands) := by
  induction commands with
  | nil => exact .pure none
  | cons command rest ih =>
    refine .bind (indifferent_tryCommand line command) fun found => ?_
    cases found with
    | none => exact ih
    | some dispatched => exact .pure _

/-- What an action reads in the table of commands, it finds alike in both tables. -/
theorem Indifferent.bind_commands {α β : Type} (part : CommandTable → β) {next : β → Session α}
    (apart : ∀ table, part table.shown = part table) (rest : ∀ value, Indifferent (next value)) :
    Indifferent (Action.state >>= fun workspace => next (part workspace.commands)) :=
  bind_state fun noted other alike => by
    rw [alike.commands.same part apart]
    exact rest _ noted other alike

/-- Dispatching a line is indifferent. -/
theorem indifferent_dispatch (line : String) : Indifferent (dispatch line) :=
  .bind indifferent_load fun _ =>
    .bind_commands (·.commands.values) (fun _ => rfl) (indifferent_dispatchAmong line)

/-- Dispatching a line to all commands is indifferent. -/
theorem indifferent_dispatchAll (line : String) : Indifferent (dispatchAll line) := by
  have among : ∀ commands : List Command, Indifferent (do
      let found ← commands.mapM (tryCommand line)
      return found.filterMap id) :=
    fun commands => .bind (.mapM (indifferent_tryCommand line) commands) fun _ => .pure _
  exact .bind indifferent_load fun _ => .bind_commands (·.commands.values) (fun _ => rfl) among

/-- Listing the commands is indifferent. -/
theorem indifferent_listing : Indifferent listing :=
  .bind indifferent_load fun _ => .bind_commands CommandTable.roster (fun _ => rfl) .pure

/-- Looking for a command is indifferent. -/
theorem indifferent_command? (name : String) : Indifferent (command? name) :=
  .bind indifferent_load fun _ => .bind_commands (·.commands.get? name) (fun _ => rfl) .pure

/-- Removing a command is indifferent. -/
theorem indifferent_remove (name : String) : Indifferent (remove name) := by
  have removed : Indifferent (modifyCommands (·.remove name)) := fun _ _ alike =>
    ⟨rfl, alike.withCommands (alike.commands.remove name)⟩
  have known : ∀ known : Bool, Indifferent (do modifyCommands (·.remove name); return known) :=
    fun known => .bind removed fun _ => .pure known
  exact .bind indifferent_load fun _ =>
    .bind_commands (·.commands.contains name) (fun _ => rfl) known

/-- Registering a command is indifferent. -/
theorem indifferent_register (command : Command) (atOnce : Bool) :
    Indifferent (register command atOnce) := by
  intro noted other alike
  have opened := alike.opened
  cases atOnce with
  | false =>
    obtain ⟨later, added⟩ := register_later noted command
    obtain ⟨later_other, added_other⟩ := register_later other command
    rw [added, added_other]
    exact ⟨rfl, opened.withCommands (opened.commands.add command none)⟩
  | true =>
    obtain ⟨later, registered⟩ := register_atOnce noted command
    obtain ⟨later_other, registered_other⟩ := register_atOnce other command
    obtain ⟨given, left⟩ := opened.answerAll command
    rcases Except.both_of_map_eq given with ⟨results, others, ran, ran_other, same⟩ | ⟨fault, ran, ran_other⟩
    · simp only [ran] at registered
      simp only [ran_other] at registered_other
      rw [registered, registered_other]
      exact ⟨rfl, left.withCommands ((left.commands.add command none).keep command.name same)⟩
    · simp only [ran] at registered
      simp only [ran_other] at registered_other
      rw [registered, registered_other]
      exact ⟨rfl, left⟩

/-- No inquiry tells interchangeable workspaces apart. -/
theorem indifferent_inquire (inquiry : Inquiry) : Indifferent (inquire inquiry) := by
  cases inquiry with
  | list => exact .bind indifferent_listing fun _ => .pure _
  | get name => exact .bind (indifferent_command? name) fun _ => .pure _
  | compiled name =>
    refine (agree_compiled name).bind fun results others same => ?_
    rw [same]
    exact Indifferent.pure _
  | register command atOnce => exact .bind (indifferent_register command atOnce) fun _ => .pure _
  | remove name => exact .bind (indifferent_remove name) fun _ => .pure _
  | dispatch line => exact .bind (indifferent_dispatch line) fun _ => .pure _
  | dispatchAll line => exact .bind (indifferent_dispatchAll line) fun _ => .pure _

/-- Interchangeable workspaces answer every inquiry alike. -/
theorem Interchangeable.answer_eq (alike : Interchangeable workspace other) (inquiry : Inquiry) :
    workspace.answer inquiry = other.answer inquiry := by
  obtain ⟨given, -⟩ := indifferent_inquire inquiry ⟨workspace, []⟩ ⟨other, []⟩ alike
  rwa [Except.map_id] at given

/-- The same is written by both workspaces. -/
theorem indifferent_save (set : String) : Indifferent (save set) := by
  intro noted other alike
  have opened := alike.opened
  have project : noted.state.commands.project = other.state.commands.project :=
    alike.commands.same (·.project) fun _ => rfl
  cases known : noted.state.commands.project with
  | none =>
    rw [save_none noted set known, save_none other set (project.symm.trans known)]
    exact ⟨rfl, alike⟩
  | some folder =>
    obtain ⟨later, ended⟩ := save_apply noted set known
    obtain ⟨later_other, ended_other⟩ := save_apply other set (project.symm.trans known)
    rw [ended, ended_other, opened.commands.unsaved_eq, alike.storage_eq]
    split
    · exact ⟨rfl, rfl, opened.types_eq, opened.commands⟩
    · rename_i storage written
      refine ⟨rfl, rfl, opened.types_eq, ?_⟩
      rw [saved, saved, opened.commands.unsaved_eq]
      exact opened.commands.placeAll _ (savedPath folder set)

/-- Interchangeable workspaces stay so, whatever happens to both. -/
theorem Interchangeable.after (alike : Interchangeable workspace other) (event : Event) :
    Interchangeable (workspace.after event) (other.after event) := by
  cases event with
  | types request =>
    have faithful := faithful_after alike.commands.faithful (.types request)
    have faithful_other := alike.commands.faithful_other
    rw [alike.types_eq] at faithful_other
    have still := faithful_after faithful_other (.types request)
    refine ⟨alike.storage_eq, congrArg (·.after request) alike.types_eq, ?_⟩
    refine ⟨alike.commands.shown_eq, alike.commands.recalled_eq, faithful, ?_⟩
    change other.commands.compiler.Faithful (workspace.types.after request)
    rw [alike.types_eq]
    exact still
  | register data atOnce =>
    have checked : Indifferent (registerData data atOnce) := by
      refine .bind (fun noted other alike => ?_) fun command => indifferent_register command atOnce
      rw [Action.ofExcept_apply, Action.ofExcept_apply]
      exact ⟨rfl, alike⟩
    exact (checked ⟨workspace, []⟩ ⟨other, []⟩ alike).2
  | remove name => exact (indifferent_remove name ⟨workspace, []⟩ ⟨other, []⟩ alike).2
  | compiled name => exact (agree_compiled name ⟨workspace, []⟩ ⟨other, []⟩ alike).2
  | dispatch line => exact (indifferent_dispatch line ⟨workspace, []⟩ ⟨other, []⟩ alike).2
  | dispatchAll line => exact (indifferent_dispatchAll line ⟨workspace, []⟩ ⟨other, []⟩ alike).2
  | save set => exact (indifferent_save set ⟨workspace, []⟩ ⟨other, []⟩ alike).2

/-- Interchangeable workspaces stay so in every run. -/
theorem Interchangeable.run (alike : Interchangeable workspace other) (events : List Event) :
    Interchangeable (workspace.run events) (other.run events) := by
  induction events generalizing workspace other with
  | nil => exact alike
  | cons event rest ih => exact ih (alike.after event)

/-! ## Registration -/

/-- A listing answers the roster of the table. -/
theorem answer_list (workspace : Workspace) :
    workspace.answer .list = .ok (.listed workspace.opened.commands.roster) := by
  obtain ⟨later, read⟩ := load_apply ⟨workspace, []⟩
  have listed : listing ⟨workspace, []⟩ =
      (.ok workspace.opened.commands.roster, ⟨workspace.opened, later⟩) := Action.bind_of_ok read
  rw [answer, Action.runFrom, inquire, Action.bind_of_ok listed]
  rfl

/-- A command that is asked for is answered as the table has it. -/
theorem answer_get (workspace : Workspace) (name : String) :
    workspace.answer (.get name) = .ok (.command (workspace.opened.commands.commands.get? name)) := by
  obtain ⟨later, found⟩ := command?_apply name ⟨workspace, []⟩
  rw [answer, Action.runFrom, inquire, Action.bind_of_ok found]
  rfl

/-- What is kept of a command is answered. -/
theorem answer_compiled {name : String} {command : Command} {results : List Stamped}
    (known : workspace.opened.commands.commands.get? name = some command)
    (kept : workspace.opened.commands.compiled.get? name = some results) :
    workspace.answer (.compiled name) = .ok (.compiled (results.map (·.expression))) := by
  obtain ⟨later, answered⟩ := compiled_kept ⟨workspace, []⟩ known kept
  rw [answer, Action.runFrom, inquire, Action.bind_of_ok answered]
  rfl

section Register

variable {workspace : Workspace} {command : Command} {fault : Fault} {expressions : List Expression}

/-- A command that does not compile is refused. The compiler may have kept what it had compiled before the
failure, and no answer tells the difference. -/
theorem register_refused (loaded : workspace.commands.loaded = true)
    (faithful : workspace.commands.compiler.Faithful workspace.types)
    (failed : command.compile workspace.types = .error fault) :
    ((register command true).runFrom workspace).1 = .error fault ∧
      (∃ compiler, workspace.leftBy (register command true) = workspace.withCompiler compiler) ∧
      ∀ later inquiry, ((workspace.leftBy (register command true)).run later).answer inquiry =
        (workspace.run later).answer inquiry := by
  obtain ⟨still, given⟩ := faithful.answerAll command.expressions
  obtain ⟨later, registered⟩ := register_atOnce ⟨workspace, []⟩ command
  simp only [opened_of_loaded loaded] at registered
  let answers := workspace.commands.compiler.answerAll workspace.types command.expressions
  have ran : answers.1 = .error fault := by
    have none : answers.1.map (List.map (·.expression)) = .error fault := given.trans failed
    cases ran : answers.1 with
    | error other =>
      rw [ran] at none
      exact congrArg Except.error (Except.error.inj none)
    | ok results =>
      rw [ran] at none
      cases none
  have left : register command true ⟨workspace, []⟩ =
      (.error fault, ⟨workspace.withCompiler answers.2, later⟩) := by
    rw [registered, ran]
  have next_eq : workspace.leftBy (register command true) = workspace.withCompiler answers.2 :=
    congrArg (·.2.state) left
  have alike : Interchangeable (workspace.leftBy (register command true)) workspace := by
    rw [next_eq]
    exact ⟨rfl, rfl, rfl, fun _ => rfl, still, faithful⟩
  exact ⟨congrArg (·.1) left, ⟨answers.2, next_eq⟩, fun later inquiry =>
    (alike.run later).answer_eq inquiry⟩

/-- A command that compiles is taken in, with what its expressions give. -/
theorem register_taken (loaded : workspace.commands.loaded = true)
    (faithful : workspace.commands.compiler.Faithful workspace.types)
    (compiled : command.compile workspace.types = .ok expressions) :
    ((register command true).runFrom workspace).1 = .ok () ∧ ∃ compiler results,
      results.map (·.expression) = expressions ∧
      workspace.leftBy (register command true) = { workspace with
        commands := ((workspace.withCompiler compiler).commands.add command none).keep
          command.name results } := by
  obtain ⟨-, given⟩ := faithful.answerAll command.expressions
  obtain ⟨later, registered⟩ := register_atOnce ⟨workspace, []⟩ command
  simp only [opened_of_loaded loaded] at registered
  let answers := workspace.commands.compiler.answerAll workspace.types command.expressions
  have taken : answers.1.map (List.map (·.expression)) = .ok expressions := given.trans compiled
  cases ran : answers.1 with
  | error fault =>
    rw [ran] at taken
    cases taken
  | ok results =>
    rw [ran] at taken
    have left : register command true ⟨workspace, []⟩ = (.ok (), ⟨{ workspace with
        commands := ((workspace.withCompiler answers.2).commands.add command none).keep
          command.name results }, later⟩) := by
      rw [registered, ran]
    exact ⟨congrArg (·.1) left, answers.2, results, Except.ok.inj taken, congrArg (·.2.state) left⟩

end Register

/-- A command that is to compile at once is registered exactly when it compiles under the types of the
moment.

If it does not, nothing is changed but what the compiler keeps, and no answer tells the difference, not
even after further events. If it does, it takes the place of the command of its name, or else the last
place, and what is answered of it is what its own expressions give. -/
theorem register_atomic (storage : Storage) (types : TypeTable) (library project : Option String)
    (events : List Event) (command : Command) :
    let workspace := ((fresh storage types library project).run events).opened
    let outcome := ((register command true).runFrom workspace).1
    let next := workspace.leftBy (register command true)
    match command.compile workspace.types with
    | .error fault =>
      outcome = .error fault ∧
        (∃ compiler, next = workspace.withCompiler compiler) ∧
        ∀ later inquiry, (next.run later).answer inquiry = (workspace.run later).answer inquiry
    | .ok expressions =>
      outcome = .ok () ∧
        (∃ roster, workspace.answer .list = .ok (.listed roster) ∧
          next.answer .list = .ok (.listed (roster.put command none))) ∧
        next.answer (.get command.name) = .ok (.command (some command)) ∧
        next.answer (.compiled command.name) = .ok (.compiled expressions) := by
  intro workspace outcome next
  let start := (fresh storage types library project).run events
  have reached : Reached start workspace :=
    Reached.opened ⟨.refl, faithful_run (.fresh types) events⟩
  have filed : workspace.commands.Filed := reached.holds (fun workspace => workspace.commands.Filed)
    filed_move (filed_run storage types library project events)
  have loaded : workspace.commands.loaded = true := CommandTable.loaded_opened start.commands start.storage
  cases compiled : command.compile workspace.types with
  | error fault => exact register_refused loaded reached.faithful compiled
  | ok expressions =>
    obtain ⟨succeeded, compiler, results, rfl, left⟩ :=
      register_taken loaded reached.faithful compiled
    have next_eq : next = { workspace with
        commands := ((workspace.withCompiler compiler).commands.add command none).keep
          command.name results } := left
    have opened : next.opened = next := opened_of_loaded (by rw [next_eq]; exact loaded)
    have known : next.opened.commands.commands.get? command.name = some command := by
      rw [opened, next_eq]
      exact CommandTable.get?_add _ command none
    have kept : next.opened.commands.compiled.get? command.name = some results := by
      rw [opened, next_eq]
      simp [CommandTable.keep, Table.get?_insert]
    have roster : next.opened.commands.roster = workspace.commands.roster.put command none := by
      rw [opened, next_eq]
      exact filed.roster_add command none
    refine ⟨succeeded, ⟨workspace.commands.roster, ?_, ?_⟩, ?_, ?_⟩
    · rw [answer_list, opened_of_loaded loaded]
    · rw [answer_list, roster]
    · rw [answer_get, known]
    · exact answer_compiled known kept

end Workspace

end LineGrammar
