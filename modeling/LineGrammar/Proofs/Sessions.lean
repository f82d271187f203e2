import LineGrammar.Proofs.Roster
import Mathlib.Data.List.Induction
import Mathlib.Logic.Relation

/-!
# Sessions with commands

What a session does to a workspace is put together from a few moves, so an invariant of workspaces
needs one case for each move. Reading the folders is described exactly: the table of commands takes
up what the definition files hold, in order.
-/

namespace LineGrammar

/-! ## Reading the folders -/

namespace CommandTable

/-- The folders that commands come from, the library first. -/
def folders (table : CommandTable) : List String := table.library.toList ++ table.project.toList

/-- Adds commands from files, in order. -/
def addAll (table : CommandTable) (entries : List (Command × String)) : CommandTable :=
  entries.foldl (fun table entry => table.add entry.1 (some entry.2)) table

/-- The table after its folders have been read. -/
def opened (table : CommandTable) (storage : Storage) : CommandTable :=
  if table.loaded then table
  else addAll { table with loaded := true } (table.folders.flatMap storage.commandsIn)

/-- A command that is added is found under its name. -/
theorem get?_add (table : CommandTable) (command : Command) (path : Option String) :
    (table.add command path).commands.get? command.name = some command := by
  simp [add, forget, place, Table.get?_insert]

/-- Commands from files leave the folders the same. -/
theorem addAll_project (table : CommandTable) (entries : List (Command × String)) :
    (table.addAll entries).project = table.project ∧
      (table.addAll entries).library = table.library := by
  induction entries generalizing table with
  | nil => exact ⟨rfl, rfl⟩
  | cons entry rest ih => exact ih (table.add entry.1 (some entry.2))

/-- To add commands marks none. -/
theorem broken_addAll {table : CommandTable} (unmarked : table.broken = []) (entries : List (Command × String)) :
    (table.addAll entries).broken = [] := by
  induction entries generalizing table with
  | nil => exact unmarked
  | cons entry rest ih => exact ih (by simp [add, forget, place, unmarked])

/-- Reading the folders leaves them the same. -/
theorem opened_project (table : CommandTable) (storage : Storage) :
    (table.opened storage).project = table.project ∧
      (table.opened storage).library = table.library := by
  unfold opened
  split
  · exact ⟨rfl, rfl⟩
  · exact addAll_project { table with loaded := true } _

/-- Once the folders have been read, they count as read. -/
theorem loaded_opened (table : CommandTable) (storage : Storage) :
    (table.opened storage).loaded = true := by
  have addAll (table : CommandTable) (entries : List (Command × String)) :
      (table.addAll entries).loaded = table.loaded := by
    induction entries generalizing table with
    | nil => rfl
    | cons entry rest ih => exact ih (table.add entry.1 (some entry.2))
  rw [opened]
  split
  · assumption
  · exact addAll { table with loaded := true } _

end CommandTable

namespace Workspace

/-- A workspace with the commands of files added. -/
def addAll (workspace : Workspace) (entries : List (Command × String)) : Workspace :=
  { workspace with commands := workspace.commands.addAll entries }

/-- A workspace after its folders have been read. -/
def opened (workspace : Workspace) : Workspace :=
  { workspace with commands := workspace.commands.opened workspace.storage }

/-- Folders that were read are not read again. -/
theorem opened_of_loaded {workspace : Workspace} (loaded : workspace.commands.loaded = true) :
    workspace.opened = workspace := by
  rw [opened, CommandTable.opened, if_pos loaded]

/-- Once its folders have been read, a workspace counts them as read. -/
theorem loaded_opened (workspace : Workspace) : workspace.opened.commands.loaded = true :=
  CommandTable.loaded_opened workspace.commands workspace.storage

/-- An action that adds the commands of files, notes something, and does nothing else. -/
def Adds (action : Session Unit) (entries : Storage → List (Command × String)) : Prop :=
  ∀ noted, ∃ later,
    action noted = (.ok (), ⟨noted.state.addAll (entries noted.state.storage), later⟩)

/-- An action that adds commands for each of some values adds them in order. -/
theorem adds_forM {α : Type} {each : α → Session Unit}
    {entries : Storage → α → List (Command × String)}
    (adds : ∀ value, Adds (each value) fun storage => entries storage value) (values : List α) :
    Adds (values.forM each) fun storage => values.flatMap (entries storage) := by
  induction values with
  | nil => exact fun noted => ⟨noted.notices, rfl⟩
  | cons value rest ih =>
    intro noted
    obtain ⟨between, first⟩ := adds value noted
    obtain ⟨later, others⟩ :=
      ih ⟨noted.state.addAll (entries noted.state.storage value), between⟩
    refine ⟨later, (Action.bind_of_ok first).trans (others.trans ?_)⟩
    simp [addAll, CommandTable.addAll, List.foldl_append]

/-- A command is added, with a note when it gives way to another one. -/
theorem addCommand_apply (command : Command) (path : Option String) (noted : Noted Workspace) :
    ∃ later, addCommand command path noted =
      (.ok (), ⟨{ noted.state with commands := noted.state.commands.add command path }, later⟩) := by
  rw [addCommand, Action.state_bind]
  cases noted.state.commands.commands.contains command.name <;> exact ⟨_, rfl⟩

/-- To add a command of a file adds it alone. -/
theorem adds_addCommand (command : Command) (file : String) :
    Adds (addCommand command (some file)) fun _ => [(command, file)] :=
  addCommand_apply command (some file)

/-- Reading the data of a file changes nothing. -/
theorem definitionData_apply (file : String) (noted : Noted Workspace) :
    definitionData file noted =
      ((noted.state.storage.document file).map fun data =>
        if data.isVoid then .record [] else data, noted) := by
  rw [definitionData, Action.state_bind]
  cases found : noted.state.storage.document file with
  | error fault => exact Action.bind_of_error rfl
  | ok data => exact Action.bind_of_ok rfl

/-- A file gives its commands, or none if it cannot be read. -/
theorem readCommandFile_apply (file : String) (noted : Noted Workspace) :
    ∃ later, readCommandFile file noted =
      (.ok (noted.state.storage.commandsAt file), ⟨noted.state, later⟩) := by
  have data := definitionData_apply file noted
  have set : (do let data ← definitionData file; Action.ofExcept (CommandSet.ofDocument data))
      noted = (noted.state.storage.commandSet file, noted) := by
    rw [Storage.commandSet]
    cases found : noted.state.storage.document file with
    | error fault =>
      rw [found] at data
      exact Action.bind_of_error data
    | ok document =>
      rw [found] at data
      rw [Action.bind_of_ok data, Action.ofExcept_apply]
      rfl
  rw [readCommandFile, Action.bind_of_ok (Action.outcome_apply _ _), set, Storage.commandsAt]
  cases noted.state.storage.commandSet file <;> exact ⟨_, rfl⟩

/-- Reading a folder adds the commands of its files. -/
theorem adds_readCommandFolder (folder : String) :
    Adds (readCommandFolder folder) fun storage => storage.commandsIn folder := by
  intro noted
  have file : ∀ file, Adds (do
      let commands ← readCommandFile file
      commands.forM fun command => addCommand command (some file))
      fun storage => (storage.commandsAt file).map (·, file) := by
    intro file noted
    obtain ⟨between, commands⟩ := readCommandFile_apply file noted
    rw [Action.bind_of_ok commands]
    beta_reduce
    rw [List.map_eq_flatMap]
    exact adds_forM (fun command => adds_addCommand command file) _ ⟨noted.state, between⟩
  rw [readCommandFolder, Action.state_bind]
  exact adds_forM file (noted.state.storage.definitionFiles folder) noted

/-- Reading the folders never fails. -/
theorem load_apply (noted : Noted Workspace) :
    ∃ later, load noted = (.ok (), ⟨noted.state.opened, later⟩) := by
  rw [load, Action.state_bind, opened, CommandTable.opened]
  cases loaded : noted.state.commands.loaded with
  | true => exact ⟨noted.notices, rfl⟩
  | false =>
    exact adds_forM adds_readCommandFolder noted.state.commands.folders ⟨{ noted.state with
      commands := { noted.state.commands with loaded := true } }, noted.notices⟩

/-! ## Compiling commands -/

/-- A workspace whose commands have another compiler. -/
def withCompiler (workspace : Workspace) (compiler : Compiler) : Workspace :=
  { workspace with commands := { workspace.commands with compiler := compiler } }

/-- Another compiler leaves the types alone. -/
@[simp] theorem withCompiler_types (workspace : Workspace) (compiler : Compiler) :
    (workspace.withCompiler compiler).types = workspace.types := rfl

/-- Another compiler is the one of the commands. -/
@[simp] theorem withCompiler_compiler (workspace : Workspace) (compiler : Compiler) :
    (workspace.withCompiler compiler).commands.compiler = compiler := rfl

/-- Of two other compilers, the second one counts. -/
@[simp] theorem withCompiler_withCompiler (workspace : Workspace) (compiler other : Compiler) :
    (workspace.withCompiler compiler).withCompiler other = workspace.withCompiler other := rfl

/-- Several expressions are compiled one after the other, up to the first that does not compile. -/
theorem mapM_compileForCommand (texts : List String) (noted : Noted Workspace) :
    ∃ later, texts.mapM compileForCommand noted =
      ((noted.state.commands.compiler.answerAll noted.state.types texts).1,
        ⟨noted.state.withCompiler
          (noted.state.commands.compiler.answerAll noted.state.types texts).2, later⟩) := by
  induction texts generalizing noted with
  | nil => exact ⟨noted.notices, rfl⟩
  | cons text rest ih =>
    obtain ⟨between, first⟩ := Compiler.compile_noted noted.state.types
      noted.state.commands.compiler text noted.notices
    have one : compileForCommand text noted =
        (noted.state.commands.compiler.answer noted.state.types text,
          ⟨noted.state.withCompiler (noted.state.commands.compiler.after noted.state.types text),
            between⟩) := by
      rw [compileForCommand, Action.state_bind, Action.within_apply, first]
      rfl
    rw [List.mapM_cons, Compiler.answerAll]
    cases answered : noted.state.commands.compiler.answer noted.state.types text with
    | error fault =>
      rw [answered] at one
      exact ⟨between, Action.bind_of_error one⟩
    | ok result =>
      rw [answered] at one
      obtain ⟨later, others⟩ := ih ⟨noted.state.withCompiler
        (noted.state.commands.compiler.after noted.state.types text), between⟩
      simp only [withCompiler_types, withCompiler_compiler, withCompiler_withCompiler] at others
      refine ⟨later, (Action.bind_of_ok one).trans ?_⟩
      dsimp only
      cases answers : (Compiler.answerAll noted.state.types
          (noted.state.commands.compiler.after noted.state.types text) rest).1 with
      | error fault => exact Action.bind_of_error (others.trans (by rw [answers]))
      | ok results => exact Action.bind_of_ok (others.trans (by rw [answers]))

variable {name : String} {command : Command} {noted : Noted Workspace}

/-- A command is looked up once the folders have been read. -/
theorem command?_apply (name : String) (noted : Noted Workspace) :
    ∃ later, command? name noted =
      (.ok (noted.state.opened.commands.commands.get? name), ⟨noted.state.opened, later⟩) := by
  obtain ⟨later, read⟩ := load_apply noted
  exact ⟨later, Action.bind_of_ok read⟩

/-- What was compiled of a command is answered as long as it is kept. -/
theorem compiled_kept (noted : Noted Workspace) {results : List Stamped}
    (known : noted.state.opened.commands.commands.get? name = some command)
    (kept : noted.state.opened.commands.compiled.get? name = some results) :
    ∃ later, compiled name noted = (.ok results, ⟨noted.state.opened, later⟩) := by
  obtain ⟨later, found⟩ := command?_apply name noted
  refine ⟨later, (Action.bind_of_ok found).trans ?_⟩
  simp only [known]
  rw [Action.state_bind]
  simp only [kept]
  rfl

/-- Of a command of which nothing is kept, the expressions are compiled and then kept. -/
theorem compiled_new (noted : Noted Workspace)
    (known : noted.state.opened.commands.commands.get? name = some command)
    (unknown : noted.state.opened.commands.compiled.get? name = none) :
    let opened := noted.state.opened
    let answers := opened.commands.compiler.answerAll opened.types command.expressions
    ∃ later, compiled name noted = (answers.1, ⟨match answers.1 with
      | .ok results => { opened with
          commands := (opened.withCompiler answers.2).commands.keep name results }
      | .error _ => opened.withCompiler answers.2, later⟩) := by
  intro opened answers
  obtain ⟨between, found⟩ := command?_apply name noted
  obtain ⟨later, all⟩ : ∃ later, command.expressions.mapM compileForCommand ⟨opened, between⟩ =
      (answers.1, ⟨opened.withCompiler answers.2, later⟩) :=
    mapM_compileForCommand command.expressions ⟨opened, between⟩
  refine ⟨later, (Action.bind_of_ok found).trans ?_⟩
  simp only [known]
  rw [Action.state_bind]
  simp only [unknown]
  cases given : answers.1 with
  | error fault =>
    rw [given] at all
    exact Action.bind_of_error all
  | ok results =>
    rw [given] at all
    exact Action.bind_of_ok all

/-- What an unknown command is compiled to is not answered. -/
theorem compiled_unknown (noted : Noted Workspace)
    (unknown : noted.state.opened.commands.commands.get? name = none) :
    ∃ later, compiled name noted = (.error (.unknownCommand name), ⟨noted.state.opened, later⟩) := by
  obtain ⟨later, found⟩ := command?_apply name noted
  refine ⟨later, (Action.bind_of_ok found).trans ?_⟩
  simp only [unknown]
  rfl

/-- How it ends to ask for what a command is compiled to, once the folders have been read: what is
answered and the workspace that is left. -/
inductive CompiledEnd (opened : Workspace) (name : String) : Except Fault (List Stamped) → Workspace → Prop
  | unknown (known : opened.commands.commands.get? name = none) :
    CompiledEnd opened name (.error (.unknownCommand name)) opened
  | kept {command : Command} {results : List Stamped}
    (known : opened.commands.commands.get? name = some command)
    (kept : opened.commands.compiled.get? name = some results) :
    CompiledEnd opened name (.ok results) opened
  | failed {command : Command} {compiler : Compiler} {fault : Fault}
    (known : opened.commands.commands.get? name = some command)
    (ran : opened.commands.compiler.answerAll opened.types command.expressions =
      (.error fault, compiler)) :
    CompiledEnd opened name (.error fault) (opened.withCompiler compiler)
  | made {command : Command} {compiler : Compiler} {results : List Stamped}
    (known : opened.commands.commands.get? name = some command)
    (ran : opened.commands.compiler.answerAll opened.types command.expressions =
      (.ok results, compiler)) :
    CompiledEnd opened name (.ok results) { opened with
      commands := (opened.withCompiler compiler).commands.keep name results }

/-- Asking for what a command is compiled to ends in one of these ways. -/
theorem compiledEnd (name : String) (noted : Noted Workspace) :
    ∃ given left later, compiled name noted = (given, ⟨left, later⟩) ∧
      CompiledEnd noted.state.opened name given left := by
  cases known : noted.state.opened.commands.commands.get? name with
  | none =>
    obtain ⟨later, failed⟩ := compiled_unknown noted known
    exact ⟨_, _, later, failed, .unknown known⟩
  | some command =>
    cases kept : noted.state.opened.commands.compiled.get? name with
    | some results =>
      obtain ⟨later, answered⟩ := compiled_kept noted known kept
      exact ⟨_, _, later, answered, .kept known kept⟩
    | none =>
      obtain ⟨later, answered⟩ := compiled_new noted known kept
      rcases ran : noted.state.opened.commands.compiler.answerAll noted.state.opened.types
        command.expressions with ⟨fault | results, compiler⟩
      · rw [ran] at answered
        exact ⟨_, _, later, answered, .failed known ran⟩
      · rw [ran] at answered
        exact ⟨_, _, later, answered, .made known ran⟩

/-- A command that is to compile later is only added. -/
theorem register_later (noted : Noted Workspace) (command : Command) :
    ∃ later, register command false noted = (.ok (), ⟨{ noted.state.opened with
      commands := noted.state.opened.commands.add command none }, later⟩) := by
  obtain ⟨between, read⟩ := load_apply noted
  obtain ⟨later, added⟩ := addCommand_apply command none ⟨noted.state.opened, between⟩
  exact ⟨later, (Action.bind_of_ok read).trans added⟩

/-- A command that is to compile at once is added only when it does, and what it gives is kept. -/
theorem register_atOnce (noted : Noted Workspace) (command : Command) :
    let opened := noted.state.opened
    let answers := opened.commands.compiler.answerAll opened.types command.expressions
    ∃ later, register command true noted = match answers.1 with
      | .ok results => (.ok (), ⟨{ opened with commands :=
          ((opened.withCompiler answers.2).commands.add command none).keep command.name results },
            later⟩)
      | .error fault => (.error fault, ⟨opened.withCompiler answers.2, later⟩) := by
  intro opened answers
  obtain ⟨start, read⟩ := load_apply noted
  obtain ⟨between, all⟩ : ∃ later, command.expressions.mapM compileForCommand ⟨opened, start⟩ =
      (answers.1, ⟨opened.withCompiler answers.2, later⟩) :=
    mapM_compileForCommand command.expressions ⟨opened, start⟩
  cases given : answers.1 with
  | error fault =>
    rw [given] at all
    exact ⟨between, (Action.bind_of_ok read).trans (Action.bind_of_error all)⟩
  | ok results =>
    rw [given] at all
    obtain ⟨later, added⟩ := addCommand_apply command none ⟨opened.withCompiler answers.2, between⟩
    exact ⟨later, (Action.bind_of_ok read).trans ((Action.bind_of_ok all).trans
      (Action.bind_of_ok added))⟩

/-! ## Moves -/

/-- The moves that sessions are made of. It is left open where commands come from, which of them were
passed over and whether the folders were read; and also what is written, as long as no file comes to
stand in the way of the project. -/
inductive Move : Workspace → Workspace → Prop
  | mark (workspace : Workspace) (loaded : Bool) (paths : Table String) (broken : List String) :
    Move workspace { workspace with
      commands := { workspace.commands with loaded := loaded, paths := paths, broken := broken } }
  | add (workspace : Workspace) (command : Command) (path : Option String)
    (named : command.name ≠ "") :
    Move workspace { workspace with commands := workspace.commands.add command path }
  | remove (workspace : Workspace) (name : String) :
    Move workspace { workspace with commands := workspace.commands.remove name }
  | compile (workspace : Workspace) (compiler : Compiler)
    (faithful : compiler.Faithful workspace.types) : Move workspace (workspace.withCompiler compiler)
  | keep (workspace : Workspace) (name : String) (command : Command) (results : List Stamped)
    (known : workspace.commands.commands.get? name = some command)
    (given : command.expressions.mapM (Expression.compile workspace.types) =
      .ok (results.map (·.expression))) :
    Move workspace { workspace with commands := workspace.commands.keep name results }
  | write (workspace : Workspace) (storage : Storage)
    (clear : ∀ project, workspace.commands.project = some project →
      workspace.storage.ClearFor project → storage.ClearFor project) :
    Move workspace { workspace with storage := storage }

variable {start workspace next : Workspace}

/-- No move changes the types. -/
theorem Move.types_eq (move : Move workspace next) : next.types = workspace.types := by
  cases move <;> rfl

/-- A workspace that moves have led to, and whose compiler of commands is faithful. -/
structure Reached (start workspace : Workspace) : Prop where
  moves : Relation.ReflTransGen Move start workspace
  faithful : workspace.commands.compiler.Faithful workspace.types

namespace Reached

/-- One more move is reached. -/
theorem move (reached : Reached start workspace) (move : Move workspace next) :
    Reached start next where
  moves := reached.moves.tail move
  faithful := by
    cases move with
    | compile compiler faithful => exact faithful
    | _ => exact reached.faithful

/-- What files add is reached, as their commands have names. -/
theorem addAll {entries : List (Command × String)} (reached : Reached start workspace)
    (named : ∀ entry ∈ entries, entry.1.name ≠ "") : Reached start (workspace.addAll entries) := by
  induction entries generalizing workspace with
  | nil => exact reached
  | cons entry rest ih =>
    exact ih (reached.move (.add workspace entry.1 (some entry.2) (named entry List.mem_cons_self)))
      fun other listed => named other (List.mem_cons_of_mem _ listed)

/-- What stands in the folders is reached. -/
theorem opened (reached : Reached start workspace) : Reached start workspace.opened := by
  rw [Workspace.opened, CommandTable.opened]
  split
  · exact reached
  · refine addAll (reached.move (.mark workspace true workspace.commands.paths
      workspace.commands.broken)) fun entry listed => ?_
    simp only [List.mem_flatMap, Storage.commandsIn, List.mem_map] at listed
    obtain ⟨folder, _, file, _, command, listed, rfl⟩ := listed
    exact Storage.name_of_mem_commandsAt listed

/-- What a compiler that has been reached answers is what the types give. -/
theorem given {command : Command} {results : List Stamped} (reached : Reached start workspace)
    (answered : (workspace.commands.compiler.answerAll workspace.types command.expressions).1 =
      .ok results) : command.expressions.mapM (Expression.compile workspace.types) =
        .ok (results.map (·.expression)) := by
  rw [← (reached.faithful.answerAll command.expressions).2, answered]
  rfl

/-- A faithful compiler stays so when it compiles several expressions. -/
theorem answerAll (reached : Reached start workspace) (texts : List String) :
    Reached start (workspace.withCompiler
      (workspace.commands.compiler.answerAll workspace.types texts).2) :=
  reached.move (.compile workspace _ (reached.faithful.answerAll texts).1)

end Reached

/-- What is kept by every move holds of all that is reached. -/
theorem Reached.holds (reached : Reached start workspace) (holds : Workspace → Prop)
    (moves : ∀ {workspace next}, Move workspace next → holds workspace → holds next)
    (initial : holds start) : holds workspace := by
  have path := reached.moves
  clear reached
  induction path with
  | refl => exact initial
  | tail _ move ih => exact moves move ih

/-! ## What sessions keep -/

/-- Reading the folders is made of moves. -/
theorem keeps_load : Action.Keeps (Reached start) load := by
  intro noted reached
  obtain ⟨later, read⟩ := load_apply noted
  rw [read]
  exact reached.opened

/-- Asking for what a command is compiled to is made of moves. -/
theorem keeps_compiled (name : String) : Action.Keeps (Reached start) (compiled name) := by
  intro noted reached
  obtain ⟨given, left, later, ended, how⟩ := compiledEnd name noted
  rw [ended]
  cases how with
  | unknown | kept => exact reached.opened
  | @failed command compiler fault known ran =>
    have after := reached.opened.answerAll command.expressions
    rw [ran] at after
    exact after
  | @made command compiler results known ran =>
    have after := reached.opened.answerAll command.expressions
    rw [ran] at after
    exact after.move (.keep _ name command results known (reached.opened.given (by rw [ran])))

/-- Registering a command with a name is made of moves. -/
theorem keeps_register {command : Command} (named : command.name ≠ "") (atOnce : Bool) :
    Action.Keeps (Reached start) (register command atOnce) := by
  intro noted reached
  cases atOnce with
  | false =>
    obtain ⟨later, added⟩ := register_later noted command
    rw [added]
    exact reached.opened.move (.add _ command none named)
  | true =>
    have after := reached.opened.answerAll command.expressions
    obtain ⟨later, registered⟩ := register_atOnce noted command
    rw [registered]
    split
    · rename_i results found
      exact (after.move (.add _ command none named)).move
        (.keep _ command.name command results (CommandTable.get?_add _ command none)
          (reached.opened.given found))
    · exact after

/-- Removing a command is made of moves. -/
theorem keeps_remove (name : String) : Action.Keeps (Reached start) (remove name) :=
  .bind keeps_load fun _ => .bind_state fun noted reached => reached.move (.remove noted.state name)

/-- A reading changes nothing; only a rejection is noted. -/
theorem readNoted_apply {σ : Type} (expression : Expression) (line : String) (noted : Noted σ) :
    ∃ later, expression.readNoted line noted = (expression.read line, ⟨noted.state, later⟩) := by
  unfold Expression.readNoted Expression.read
  cases expression.attempt line with
  | none => exact ⟨_, rfl⟩
  | some result =>
    cases result with
    | ok reading => exact ⟨_, rfl⟩
    | error fault => cases fault <;> exact ⟨_, rfl⟩

/-- The search for a first reading keeps every condition. -/
theorem keeps_firstReading {holds : Workspace → Prop} (line : String) (results : List Stamped) :
    Action.Keeps holds (firstReading line results) := by
  have reading : ∀ expression : Expression,
      Action.Keeps holds (expression.readNoted line : Session (Option Reading)) := by
    intro expression noted held
    obtain ⟨later, read⟩ := readNoted_apply expression line noted
    rw [read]
    exact held
  induction results with
  | nil => exact .pure none
  | cons result rest ih =>
    refine .bind (reading result.expression) fun found => ?_
    cases found with
    | none => exact ih
    | some reading => exact .pure _

/-- What a list of expressions makes of a line does not depend on a workspace. -/
theorem gives_firstReading {holds : Workspace → Prop} (line : String) (results : List Stamped) :
    Action.Gives holds (firstReading line results)
      (Expression.firstRead line (results.map (·.expression))) := by
  induction results with
  | nil => exact .pure none
  | cons result rest ih =>
    have reads : Action.Gives holds (result.expression.readNoted line : Session (Option Reading))
        (result.expression.read line) := by
      intro noted held
      obtain ⟨later, read⟩ := readNoted_apply result.expression line noted
      rw [read]
      exact ⟨rfl, held⟩
    refine reads.bind fun found => ?_
    cases found with
    | none => exact ih
    | some reading => exact .pure _

/-- Passing over a command is made of moves. -/
theorem keeps_skip (name : String) (fault : Fault) :
    Action.Keeps (Reached start) (skip name fault) := by
  refine .bind_state fun noted reached => ?_
  by_cases passed : noted.state.commands.broken.contains name = true
  · rw [if_pos passed]
    exact reached
  · rw [if_neg passed]
    exact reached.move (.mark noted.state _ _ _)

/-- A condition that lasts while a command for a line is looked for: it is kept when the folders are
read, when a command is compiled and when one is passed over. -/
structure Lasts (holds : Workspace → Prop) : Prop where
  load : Action.Keeps holds load
  compiled : ∀ name, Action.Keeps holds (compiled name)
  skip : ∀ name fault, Action.Keeps holds (skip name fault)

namespace Lasts

variable {holds : Workspace → Prop}

/-- A condition that lasts is kept when a command is tried. -/
theorem tryCommand (lasts : Lasts holds) (line : String) (command : Command) :
    Action.Keeps holds (tryCommand line command) := by
  refine .bind (.outcome (lasts.compiled command.name)) fun outcome => ?_
  cases outcome with
  | ok results => exact .bind (keeps_firstReading line results) fun _ => .pure _
  | error fault =>
    simp only
    split
    · exact .bind (lasts.skip command.name fault) fun _ => .pure none
    · exact .refuse fault

/-- A condition that lasts is kept when a line is dispatched among commands. -/
theorem dispatchAmong (lasts : Lasts holds) (line : String) (commands : List Command) :
    Action.Keeps holds (dispatchAmong line commands) := by
  induction commands with
  | nil => exact .pure none
  | cons command rest ih =>
    refine .bind (lasts.tryCommand line command) fun found => ?_
    cases found with
    | none => exact ih
    | some found => exact .pure _

/-- A condition that lasts is kept when a line is dispatched. -/
theorem dispatch (lasts : Lasts holds) (line : String) : Action.Keeps holds (dispatch line) :=
  .bind lasts.load fun _ => .bind_state fun noted held => lasts.dispatchAmong line _ noted held

/-- A condition that lasts is kept when a line is dispatched to all commands. -/
theorem dispatchAll (lasts : Lasts holds) (line : String) : Action.Keeps holds (dispatchAll line) :=
  .bind lasts.load fun _ => .bind_state fun noted held =>
    Action.Keeps.bind (.mapM fun command _ => lasts.tryCommand line command) (fun _ => .pure _)
      noted held

end Lasts

/-- Looking for a command for a line is made of moves. -/
theorem lasts_reached : Lasts (Reached start) := ⟨keeps_load, keeps_compiled, keeps_skip⟩

/-! ## Saving -/

/-- A file that can be written is written into the folder that was made for it. -/
theorem writeInto_ok {folder path : String} {data : Document} {storage : Storage}
    (written : (noted.state.storage.makeFolder folder).write path data = .ok storage) :
    writeInto folder path data noted =
      (.ok (), ⟨{ noted.state with storage := storage }, noted.notices⟩) := by
  rw [writeInto, Action.state_bind, Action.bind_of_ok (Action.setState_apply _ _), written]
  rfl

/-- Where a file cannot be written, the folder has been made all the same. -/
theorem writeInto_error {folder path : String} {data : Document} {fault : Fault}
    (failed : (noted.state.storage.makeFolder folder).write path data = .error fault) :
    writeInto folder path data noted = (.error fault,
      ⟨{ noted.state with storage := noted.state.storage.makeFolder folder }, noted.notices⟩) := by
  rw [writeInto, Action.state_bind, Action.bind_of_ok (Action.setState_apply _ _), failed]
  rfl

/-- The path of a file of commands in a project. -/
def savedPath (project name : String) : String := Path.join project (name ++ ".yaml")

/-- A workspace after its commands without a file were written to a file. -/
def saved (workspace : Workspace) (path : String) (storage : Storage) : Workspace :=
  { workspace with
    storage := storage
    commands := workspace.commands.unsaved.foldl
      (fun table command => table.place command.name (some path)) workspace.commands }

/-- Without a project nothing is saved. -/
theorem save_none (noted : Noted Workspace) (name : String)
    (nowhere : noted.state.commands.project = none) :
    save name noted = (.error .noProject, noted) := by
  rw [save, Action.state_bind]
  simp only [nowhere]
  rfl

/-- Saving reads the folders first, makes the folder of the project, and then writes the commands
without a file. -/
theorem save_apply (noted : Noted Workspace) (name : String) {project : String}
    (known : noted.state.commands.project = some project) :
    ∃ later, save name noted =
      match (noted.state.storage.makeFolder project).write (savedPath project name)
        (commandFile name noted.state.opened.commands.unsaved) with
      | .error fault => (.error fault,
          ⟨{ noted.state.opened with storage := noted.state.storage.makeFolder project }, later⟩)
      | .ok storage => (.ok (savedPath project name),
          ⟨noted.state.opened.saved (savedPath project name) storage, later⟩) := by
  obtain ⟨later, read⟩ := load_apply noted
  refine ⟨later, ?_⟩
  rw [save, Action.state_bind]
  simp only [known]
  rw [Action.bind_of_ok read, Action.state_bind]
  let opened : Noted Workspace := ⟨noted.state.opened, later⟩
  cases written : (noted.state.storage.makeFolder project).write (savedPath project name)
      (commandFile name noted.state.opened.commands.unsaved) with
  | error fault =>
    have failed : writeInto project (savedPath project name) _ opened = _ := writeInto_error written
    exact Action.bind_of_error failed
  | ok storage =>
    have wrote : writeInto project (savedPath project name) _ opened = _ := writeInto_ok written
    exact Action.bind_of_ok wrote

/-- That commands are placed in a file changes the paths alone. -/
theorem exists_paths_of_place (table : CommandTable) (commands : List Command) (path : String) :
    ∃ paths, commands.foldl (fun table command => table.place command.name (some path)) table =
      { table with paths := paths } := by
  induction commands generalizing table with
  | nil => exact ⟨table.paths, rfl⟩
  | cons command rest ih => exact ih (table.place command.name (some path))

/-- Saving is made of moves. -/
theorem keeps_save (name : String) : Action.Keeps (Reached start) (save name) := by
  intro noted reached
  cases known : noted.state.commands.project with
  | none =>
    rw [save_none noted name known]
    exact reached
  | some project =>
    have folder := reached.opened.move (.write noted.state.opened
      (noted.state.storage.makeFolder project) fun _ _ clear => clear)
    obtain ⟨later, ended⟩ := save_apply noted name known
    rw [ended]
    split
    · exact folder
    · rename_i storage written
      obtain ⟨free, rfl⟩ := Storage.hasFolder_of_write written
      obtain ⟨paths, placed⟩ := exists_paths_of_place noted.state.opened.commands
        noted.state.opened.commands.unsaved (savedPath project name)
      have file := reached.opened.move (.write noted.state.opened (noted.state.storage.withFile
        project (savedPath project name)
          (commandFile name noted.state.opened.commands.unsaved)) fun other same clear => by
        rw [show noted.state.opened.commands.project = some project from
          (CommandTable.opened_project _ _).1.trans known] at same
        cases same
        exact clear.withFile free)
      have marked := file.move (.mark _ noted.state.opened.commands.loaded paths
        noted.state.opened.commands.broken)
      rw [saved, placed]
      exact marked

/-! ## Runs -/

/-- What may happen in a session: the types are asked to change, or commands are worked with. A
command is registered as data that is checked first. -/
inductive Event where
  | types (request : TypeTable.Request)
  | register (data : Document) (atOnce : Bool)
  | remove (name : String)
  | compiled (name : String)
  | dispatch (line : String)
  | dispatchAll (line : String)
  | save (name : String)

/-- What an action leaves of a workspace, whether it succeeds or fails. -/
def leftBy {α : Type} (workspace : Workspace) (action : Session α) : Workspace :=
  (action.runFrom workspace).2.1

/-- Checks data for a command and registers it. -/
def registerData (data : Document) (atOnce : Bool) : Session Unit := do
  let command ← Action.ofExcept (Command.ofDocument data)
  register command atOnce

/-- A workspace after an event. -/
def after (workspace : Workspace) : Event → Workspace
  | .types request => { workspace with types := workspace.types.after request }
  | .register data atOnce => workspace.leftBy (registerData data atOnce)
  | .remove name => workspace.leftBy (remove name)
  | .compiled name => workspace.leftBy (compiled name)
  | .dispatch line => workspace.leftBy (Workspace.dispatch line)
  | .dispatchAll line => workspace.leftBy (Workspace.dispatchAll line)
  | .save name => workspace.leftBy (save name)

/-- A workspace after several events. -/
def run (workspace : Workspace) (events : List Event) : Workspace := events.foldl after workspace

/-- Registering a command as data is made of moves: data that are admitted have a name. -/
theorem keeps_registerData (data : Document) (atOnce : Bool) :
    Action.Keeps (Reached start) (registerData data atOnce) := by
  intro noted reached
  rw [registerData]
  cases checked : Command.ofDocument data with
  | error fault =>
    rw [Action.bind_of_error (Action.ofExcept_apply _ _)]
    exact reached
  | ok command =>
    rw [Action.bind_of_ok (Action.ofExcept_apply _ _)]
    have named := Command.name_of_check (Definition.Checked.outcome_eq_ok.mp checked)
    exact keeps_register named atOnce noted reached

/-- An event changes the types, or is made of moves. -/
theorem after_cases (faithful : workspace.commands.compiler.Faithful workspace.types)
    (event : Event) : (∃ request, event = .types request) ∨
      Reached workspace (workspace.after event) := by
  have here : Reached workspace workspace := ⟨.refl, faithful⟩
  cases event with
  | types request => exact .inl ⟨request, rfl⟩
  | register data atOnce => exact .inr (keeps_registerData data atOnce ⟨workspace, []⟩ here)
  | remove name => exact .inr (keeps_remove name ⟨workspace, []⟩ here)
  | compiled name => exact .inr (keeps_compiled name ⟨workspace, []⟩ here)
  | dispatch line => exact .inr (lasts_reached.dispatch line ⟨workspace, []⟩ here)
  | dispatchAll line => exact .inr (lasts_reached.dispatchAll line ⟨workspace, []⟩ here)
  | save name => exact .inr (keeps_save name ⟨workspace, []⟩ here)

/-- The last event comes after the others. -/
theorem run_concat (workspace : Workspace) (events : List Event) (event : Event) :
    workspace.run (events ++ [event]) = (workspace.run events).after event := by
  simp [run]

/-- The compiler of the commands stays faithful in every event. -/
theorem faithful_after (faithful : workspace.commands.compiler.Faithful workspace.types)
    (event : Event) :
    (workspace.after event).commands.compiler.Faithful (workspace.after event).types := by
  rcases after_cases faithful event with ⟨request, rfl⟩ | reached
  · change workspace.commands.compiler.Faithful (workspace.types.after request)
    rcases workspace.types.after_cases request with ⟨_, newer⟩ | ⟨_, same⟩
    · exact faithful.later newer
    · rwa [same]
  · exact reached.faithful

/-- The compiler of the commands stays faithful in every run. -/
theorem faithful_run (faithful : workspace.commands.compiler.Faithful workspace.types)
    (events : List Event) :
    (workspace.run events).commands.compiler.Faithful (workspace.run events).types := by
  induction events using List.reverseRecOn with
  | nil => exact faithful
  | append_singleton events event ih =>
    rw [run_concat]
    exact faithful_after ih event

/-- What is kept by every move, and does not depend on the types, holds after every run. -/
theorem holds_run (holds : Workspace → Prop) (initial : holds workspace)
    (faithful : workspace.commands.compiler.Faithful workspace.types)
    (types : ∀ workspace types, holds workspace → holds { workspace with types := types })
    (moves : ∀ {workspace next}, Move workspace next → holds workspace → holds next)
    (events : List Event) : holds (workspace.run events) := by
  induction events using List.reverseRecOn with
  | nil => exact initial
  | append_singleton events event ih =>
    rw [run_concat]
    rcases after_cases (faithful_run faithful events) event with ⟨request, rfl⟩ | reached
    · exact types _ _ ih
    · exact reached.holds holds moves ih

/-- Every move leaves the commands under their own names. -/
theorem filed_move (move : Move workspace next) (filed : workspace.commands.Filed) :
    next.commands.Filed := by
  cases move with
  | add command path named => exact filed.add command path
  | remove name => exact filed.remove name
  | _ => exact ⟨filed.named, filed.distinct⟩

/-- In every run, each command stands under its own name, and no name stands twice. -/
theorem filed_run (storage : Storage) (types : TypeTable) (library project : Option String)
    (events : List Event) : ((fresh storage types library project).run events).commands.Filed :=
  holds_run (fun workspace => workspace.commands.Filed)
    (CommandTable.Coherent.fresh library project types).filed (.fresh types) (fun _ _ filed => filed)
    filed_move events

end Workspace

end LineGrammar
