import LineGrammar.Proofs.CommandChecks

/-!
# What is kept beside the commands

A table of commands keeps three things beside the commands: the paths of their files, what their
expressions were compiled to, and the marks of those that were passed over. Actions change these at
different places, and some fail in between. Still all three speak of commands that are there, as they
are defined now. `CommandTable.Accounted` says so, and there is one lemma for each change of a table.

What is kept of a command comes from a compiler with a memory of its own. It bears the expressions of
the command because the compiler is faithful to the types, so `Workspace.Accounted` has the compiler as
well. It also has that nothing is marked as long as the folders have not been read: reading them would
take the marks of the names in them away, at a moment at which nobody registers anything.

For each action, `leaves_…` says what it leaves of the marks. Dispatches are not among these actions;
they are the only ones that add marks.
-/

namespace LineGrammar

/-! ## The table -/

/-- A table with a new value has one more name, or the same ones. -/
theorem Table.contains_insert {α : Type} (table : Table α) (name other : String) (value : α) :
    (table.insert name value).contains other = true ↔ other = name ∨ table.contains other = true := by
  simp only [contains, get?_insert]
  split <;> simp [*]

/-- A table from which a name is taken has all the others. -/
theorem Table.contains_erase {α : Type} (table : Table α) (name other : String) :
    (table.erase name).contains other = true ↔ other ≠ name ∧ table.contains other = true := by
  simp only [contains, get?_erase]
  split <;> simp [*]

/-- A name that has a value is in the table. -/
theorem Table.contains_of_get? {α : Type} {table : Table α} {name : String} {value : α}
    (found : table.get? name = some value) : table.contains name = true := by
  simp [contains, found]

namespace CommandTable

/-- All that a table keeps beside its commands belongs to commands that are there, as they are defined
now. -/
structure Accounted (table : CommandTable) : Prop extends table.Filed where
  compiled : ∀ name, table.compiled.contains name = true → table.commands.contains name = true
  placed : ∀ name, table.paths.contains name = true → table.commands.contains name = true
  marked : ∀ name ∈ table.broken, table.commands.contains name = true
  once : table.broken.Nodup
  /-- What a command was compiled to bears the expressions of the command, in order. -/
  kept : table.Kept fun _ command results => results.map (·.expression.text) = command.expressions

variable {table : CommandTable} {command : Command} {name : String}

/-- To add a command gives a path to no other name. -/
theorem contains_paths_add (path : Option String)
    (placed : (table.add command path).paths.contains name = true) :
    name = command.name ∨ table.paths.contains name = true := by
  rw [Table.contains, paths_add] at placed
  split at placed
  · exact .inl ‹_›
  · exact .inr placed

/-- A command stands under its name. -/
theorem Filed.contains_of_mem (filed : table.Filed) (listed : command ∈ table.commands.values) :
    table.commands.contains command.name = true :=
  Table.contains_of_get? (filed.get?_name listed)

namespace Accounted

/-- A fresh table is accounted for, as it is empty. -/
theorem fresh (library project : Option String) (types : TypeTable) :
    (CommandTable.fresh library project types).Accounted where
  toFiled := (Coherent.fresh library project types).filed
  compiled := by simp [CommandTable.fresh, Table.contains]
  placed := by simp [CommandTable.fresh, Table.contains]
  marked := by simp [CommandTable.fresh]
  once := .nil
  kept := by
    intro name command results known
    cases known

/-- With a new definition of a name, all that was kept beside the old one is dropped. -/
theorem add (accounted : table.Accounted) (command : Command) (path : Option String) :
    (table.add command path).Accounted where
  toFiled := accounted.toFiled.add command path
  compiled name recalled :=
    (Table.contains_insert ..).mpr (.inr (accounted.compiled name ((Table.contains_erase ..).mp recalled).2))
  placed name placed :=
    (Table.contains_insert ..).mpr ((contains_paths_add path placed).imp_right (accounted.placed name))
  marked name inside :=
    (Table.contains_insert ..).mpr (.inr (accounted.marked name (List.mem_filter.mp inside).1))
  once := accounted.once.filter _
  kept := accounted.kept.add command path

/-- With a command, its path, its results and its mark go. -/
theorem remove (accounted : table.Accounted) (gone : String) : (table.remove gone).Accounted where
  toFiled := accounted.toFiled.remove gone
  compiled name recalled := by
    obtain ⟨apart, recalled⟩ := (Table.contains_erase ..).mp recalled
    exact (Table.contains_erase ..).mpr ⟨apart, accounted.compiled name recalled⟩
  placed name placed := by
    obtain ⟨apart, placed⟩ := (Table.contains_erase ..).mp placed
    exact (Table.contains_erase ..).mpr ⟨apart, accounted.placed name placed⟩
  marked name inside := by
    obtain ⟨inside, apart⟩ := List.mem_filter.mp inside
    exact (Table.contains_erase ..).mpr ⟨by simpa using apart, accounted.marked name inside⟩
  once := accounted.once.filter _
  kept := accounted.kept.remove gone

/-- What a known command is compiled to may be kept. -/
theorem keep (accounted : table.Accounted) {results : List Stamped}
    (known : table.commands.get? name = some command)
    (texts : results.map (·.expression.text) = command.expressions) :
    (table.keep name results).Accounted where
  toFiled := ⟨accounted.named, accounted.distinct⟩
  compiled other recalled := by
    rcases (Table.contains_insert ..).mp recalled with rfl | recalled
    · exact Table.contains_of_get? known
    · exact accounted.compiled other recalled
  placed := accounted.placed
  marked := accounted.marked
  once := accounted.once
  kept := accounted.kept.keep known texts

/-- A known command may be marked once. -/
theorem mark (accounted : table.Accounted) (known : table.commands.contains name = true)
    (unmarked : name ∉ table.broken) : Accounted { table with broken := name :: table.broken } where
  toFiled := ⟨accounted.named, accounted.distinct⟩
  compiled := accounted.compiled
  placed := accounted.placed
  marked other inside := by
    rcases List.mem_cons.mp inside with rfl | inside
    · exact known
    · exact accounted.marked other inside
  once := List.nodup_cons.mpr ⟨unmarked, accounted.once⟩
  kept := accounted.kept

/-- A known command may be given a path. -/
theorem place (accounted : table.Accounted) (known : table.commands.contains name = true)
    (path : String) : (table.place name (some path)).Accounted where
  toFiled := ⟨accounted.named, accounted.distinct⟩
  compiled := accounted.compiled
  placed other placed := by
    rcases (Table.contains_insert ..).mp placed with rfl | placed
    · exact known
    · exact accounted.placed other placed
  marked := accounted.marked
  once := accounted.once
  kept := accounted.kept

/-- Reading files leaves a table accounted for. -/
theorem addAll (accounted : table.Accounted) (entries : List (Command × String)) :
    (table.addAll entries).Accounted := by
  induction entries generalizing table with
  | nil => exact accounted
  | cons entry rest ih => exact ih (accounted.add entry.1 (some entry.2))

/-- Several known commands may be given one path. -/
theorem placeAll (accounted : table.Accounted) {commands : List Command}
    (known : ∀ command ∈ commands, table.commands.contains command.name = true) (path : String) :
    (commands.foldl (fun table command => table.place command.name (some path)) table).Accounted := by
  induction commands generalizing table with
  | nil => exact accounted
  | cons command rest ih =>
    exact ih (accounted.place (known command List.mem_cons_self) path) fun other listed =>
      known other (List.mem_cons_of_mem _ listed)

/-- Neither the compiler nor the reading of folders has to do with it. -/
theorem aside (accounted : table.Accounted) (loaded : Bool) (compiler : Compiler) :
    Accounted { table with loaded := loaded, compiler := compiler } where
  toFiled := ⟨accounted.named, accounted.distinct⟩
  compiled := accounted.compiled
  placed := accounted.placed
  marked := accounted.marked
  once := accounted.once
  kept := accounted.kept

/-- Reading the folders leaves a table accounted for. -/
theorem opened (accounted : table.Accounted) (storage : Storage) : (table.opened storage).Accounted := by
  rw [CommandTable.opened]
  split
  · exact accounted
  · exact (accounted.aside true table.compiler).addAll _

end Accounted

end CommandTable

/-! ## The workspace -/

/-- Expressions that were compiled one after the other bear their texts. -/
theorem Expression.texts_of_mapM {types : TypeTable} {texts : List String} {expressions : List Expression}
    (compiled : texts.mapM (Expression.compile types) = .ok expressions) :
    expressions.map (·.text) = texts := by
  induction Except.mapM_eq_ok.mp compiled with
  | nil => rfl
  | cons one _ ih =>
    rename_i others
    rw [List.map_cons, ih (Except.mapM_eq_ok.mpr others), text_of_compile one]

namespace Workspace

/-- The table of commands is accounted for, what its compiler keeps is what the types give, and nothing is
marked before the folders have been read. -/
structure Accounted (workspace : Workspace) : Prop where
  table : workspace.commands.Accounted
  faithful : workspace.commands.compiler.Faithful workspace.types
  unread : workspace.commands.loaded = false → workspace.commands.broken = []

variable {workspace : Workspace} {noted : Noted Workspace} {name : String}

namespace Accounted

/-- A fresh workspace is accounted for. -/
theorem fresh (storage : Storage) (types : TypeTable) (library project : Option String) :
    (fresh storage types library project).Accounted :=
  ⟨.fresh library project types, .fresh types, fun _ => rfl⟩

/-- Reading the folders leaves a workspace accounted for. -/
theorem opened (accounted : workspace.Accounted) : workspace.opened.Accounted where
  table := accounted.table.opened workspace.storage
  faithful := (Reached.opened ⟨.refl, accounted.faithful⟩).faithful
  unread unloaded := by
    rw [loaded_opened] at unloaded
    cases unloaded

/-- Reading the folders leaves the marks alone. -/
theorem broken_opened (accounted : workspace.Accounted) :
    workspace.opened.commands.broken = workspace.commands.broken := by
  rw [Workspace.opened, CommandTable.opened]
  split
  · rfl
  · -- Adding takes marks away, but there are none yet.
    rename_i unloaded
    have unmarked := accounted.unread (by simpa using unloaded)
    have still : CommandTable.broken { workspace.commands with loaded := true } = [] := unmarked
    exact (CommandTable.broken_addAll still _).trans unmarked.symm

/-- The compiler does not count, as long as it is faithful. -/
theorem withCompiler (accounted : workspace.Accounted) {compiler : Compiler}
    (faithful : compiler.Faithful workspace.types) : (workspace.withCompiler compiler).Accounted :=
  ⟨accounted.table.aside workspace.commands.loaded compiler, faithful, accounted.unread⟩

/-- The table may be changed once the folders have been read. -/
theorem withTable (accounted : workspace.Accounted) {table : CommandTable} (changed : table.Accounted)
    (compiler : table.compiler = workspace.commands.compiler) (loaded : table.loaded = true) :
    Accounted { workspace with commands := table } where
  table := changed
  faithful := compiler ▸ accounted.faithful
  unread unloaded := by
    rw [loaded] at unloaded
    cases unloaded

/-- What the compiler answers to the expressions of a command bears their texts. -/
theorem answerAll (accounted : workspace.Accounted) (command : Command) :
    let answers := workspace.commands.compiler.answerAll workspace.types command.expressions
    (workspace.withCompiler answers.2).Accounted ∧ ∀ results, answers.1 = .ok results →
      results.map (·.expression.text) = command.expressions := by
  intro answers
  obtain ⟨faithful, given⟩ := accounted.faithful.answerAll command.expressions
  refine ⟨accounted.withCompiler faithful, fun results answered => ?_⟩
  have compiled : command.expressions.mapM (Expression.compile workspace.types) =
      .ok (results.map (·.expression)) := by
    rw [← given, show answers.1 = _ from answered]
    rfl
  rw [← Expression.texts_of_mapM compiled, List.map_map]
  rfl

end Accounted

/-- When a command is asked for what it is compiled to, the compiler may learn something, and what the
expressions of the command give may be kept; nothing else changes. -/
theorem compiled_cases (accounted : noted.state.Accounted) (name : String) :
    let opened := noted.state.opened
    let next := (compiled name noted).2.state
    ∃ compiler, (opened.withCompiler compiler).Accounted ∧
      (next = opened.withCompiler compiler ∨
        ∃ command results, opened.commands.commands.get? name = some command ∧
          results.map (·.expression.text) = command.expressions ∧
          next = { opened with commands := (opened.withCompiler compiler).commands.keep name results }) := by
  intro opened next
  have here : opened.Accounted := accounted.opened
  obtain ⟨given, left, later, ended, how⟩ := compiledEnd name noted
  rw [show next = left from congrArg (·.2.state) ended]
  cases how with
  | unknown | kept => exact ⟨opened.commands.compiler, here, .inl rfl⟩
  | @failed command compiler fault known ran =>
    obtain ⟨after, -⟩ := here.answerAll command
    rw [ran] at after
    exact ⟨compiler, after, .inl rfl⟩
  | @made command compiler results known ran =>
    obtain ⟨after, texts⟩ := here.answerAll command
    rw [ran] at after texts
    exact ⟨compiler, after, .inr ⟨command, results, known, texts results rfl, rfl⟩⟩

/-- To compile a command leaves the commands and the marks as they are once the folders have been read. -/
theorem leaves_compiled (accounted : noted.state.Accounted) (name : String) :
    let opened := noted.state.opened
    let next := (compiled name noted).2.state
    next.Accounted ∧ next.commands.loaded = true ∧ next.commands.commands = opened.commands.commands ∧
      next.commands.broken = opened.commands.broken := by
  intro opened next
  have loaded : opened.commands.loaded = true := loaded_opened _
  obtain ⟨compiler, after, same | ⟨command, results, known, texts, same⟩⟩ := compiled_cases accounted name
  · rw [show next = _ from same]
    exact ⟨after, loaded, rfl, rfl⟩
  · rw [show next = _ from same]
    exact ⟨after.withTable (after.table.keep known texts) rfl loaded, loaded, rfl, rfl⟩

/-! ## What actions leave -/

/-- A registration that succeeds takes the mark of the name away; one that fails leaves all marks. -/
theorem leaves_register (accounted : noted.state.Accounted) (command : Command) (atOnce : Bool) :
    let ended := register command atOnce noted
    ended.2.state.Accounted ∧
      (ended.1 = .ok () ∧ ended.2.state.commands.broken =
          noted.state.commands.broken.filter (· != command.name) ∨
        ended.2.state.commands.broken = noted.state.commands.broken) := by
  intro ended
  have here := accounted.opened
  have loaded := loaded_opened noted.state
  have marks := accounted.broken_opened
  cases atOnce with
  | false =>
    obtain ⟨later, added⟩ := register_later noted command
    rw [show ended = _ from added]
    refine ⟨here.withTable (here.table.add command none) rfl loaded, .inl ⟨rfl, ?_⟩⟩
    exact congrArg (List.filter (· != command.name)) marks
  | true =>
    obtain ⟨after, texts⟩ := here.answerAll command
    obtain ⟨later, registered⟩ := register_atOnce noted command
    rw [show ended = _ from registered]
    split
    · rename_i results ran
      have kept := (after.table.add command none).keep (CommandTable.get?_add _ command none) (texts results ran)
      refine ⟨after.withTable kept rfl loaded, .inl ⟨rfl, ?_⟩⟩
      exact congrArg (List.filter (· != command.name)) marks
    · exact ⟨after, .inr marks⟩

/-- Removing a command answers whether it was known, and leaves the folders read and the command gone. -/
theorem remove_apply (name : String) (noted : Noted Workspace) :
    ∃ later, remove name noted = (.ok (noted.state.opened.commands.commands.contains name),
      ⟨{ noted.state.opened with commands := noted.state.opened.commands.remove name }, later⟩) := by
  obtain ⟨later, read⟩ := load_apply noted
  exact ⟨later, Action.bind_of_ok read⟩

/-- To take out a command takes its mark away; without a command there was none. -/
theorem leaves_remove (accounted : noted.state.Accounted) (name : String) :
    let ended := remove name noted
    ended.2.state.Accounted ∧
      (ended.1 = .ok true ∧ ended.2.state.commands.broken =
          noted.state.commands.broken.filter (· != name) ∨
        ended.2.state.commands.broken = noted.state.commands.broken) := by
  intro ended
  have here := accounted.opened
  have marks : (noted.state.opened.commands.remove name).broken =
      noted.state.commands.broken.filter (· != name) :=
    congrArg (List.filter (· != name)) accounted.broken_opened
  obtain ⟨later, removed⟩ := remove_apply name noted
  rw [show ended = _ from removed]
  refine ⟨here.withTable (here.table.remove name) rfl (loaded_opened noted.state), ?_⟩
  cases known : noted.state.opened.commands.commands.contains name with
  | true => exact .inl ⟨rfl, marks⟩
  | false =>
    refine .inr (marks.trans (List.filter_eq_self.mpr fun other marked => ?_))
    have there := here.table.marked other (accounted.broken_opened ▸ marked)
    rw [bne_iff_ne]
    rintro rfl
    rw [known] at there
    cases there

/-- A save gives paths to known commands only. -/
theorem leaves_save (accounted : noted.state.Accounted) (set : String) :
    let next := (save set noted).2.state
    next.Accounted ∧ next.commands.broken = noted.state.commands.broken := by
  intro next
  have here := accounted.opened
  cases project : noted.state.commands.project with
  | none =>
    rw [show next = _ from congrArg (·.2.state) (save_none noted set project)]
    exact ⟨accounted, rfl⟩
  | some folder =>
    obtain ⟨later, ended⟩ := save_apply noted set project
    rw [show next = _ from congrArg (·.2.state) ended]
    split
    · exact ⟨⟨here.table, here.faithful, here.unread⟩, accounted.broken_opened⟩
    · rename_i storage written
      let opened := noted.state.opened
      have known : ∀ command ∈ opened.commands.unsaved,
          opened.commands.commands.contains command.name = true := by
        intro command listed
        obtain ⟨entry, inside, rfl⟩ := List.mem_map.mp listed
        exact here.table.toFiled.contains_of_mem (List.mem_map_of_mem (List.mem_filter.mp inside).1)
      have placed := here.table.placeAll known (savedPath folder set)
      obtain ⟨paths, same⟩ := exists_paths_of_place opened.commands opened.commands.unsaved (savedPath folder set)
      rw [same] at placed
      dsimp only [saved]
      rw [same]
      exact ⟨⟨placed, here.faithful, here.unread⟩, accounted.broken_opened⟩

/-- The types may change in any way. -/
theorem leaves_types (accounted : workspace.Accounted) (request : TypeTable.Request) :
    Accounted { workspace with types := workspace.types.after request } where
  table := accounted.table
  faithful := faithful_after accounted.faithful (.types request)
  unread := accounted.unread

end Workspace

end LineGrammar
