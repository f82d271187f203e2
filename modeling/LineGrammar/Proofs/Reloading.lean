import LineGrammar.Proofs.Saving
import Mathlib.Data.List.Nodup

/-!
# Registered commands after a restart

A new table of commands on the same folders takes, for each name, the last command that the definition
files hold, in the order in which they are read. The table in use takes the command that was registered
last. When every save writes a new file, nothing that was written is lost, so the command in use always
stands in the file that is its path; but a file that was written earlier may be read later. Then the new
table answers a command that had been given up. A run shows this.
-/

namespace LineGrammar

/-! ## The last command of a name -/

namespace Storage

variable {storage : Storage} {project path file set name : String} {commands : List Command}
  {command : Command}

/-- The last command of a name in several files is the one in the later files, if they have one. -/
theorem last?_append (storage : Storage) (earlier later : List String) (name : String) :
    storage.last? (earlier ++ later) name = (storage.last? later name).or (storage.last? earlier name) := by
  simp [last?, List.find?_append]

/-- The last command of a name in a file depends on the file alone. -/
theorem last?_congr {other : Storage} (same : other.commandsAt file = storage.commandsAt file) :
    other.last? [file] name = storage.last? [file] name := by
  simp [last?, same]

/-- In a file without repeated names every command is the last of its name. -/
theorem last?_of_mem (distinct : ((storage.commandsAt file).map (·.name)).Nodup)
    (listed : command ∈ storage.commandsAt file) : storage.last? [file] command.name = some command := by
  have defined : (storage.last? [file] command.name).isSome :=
    isSome_last?.mpr ⟨file, List.mem_singleton_self file, command, listed, rfl⟩
  obtain ⟨other, found⟩ := Option.isSome_iff_exists.mp defined
  have inside : other ∈ storage.commandsAt file := by
    simpa [last?] using List.mem_of_find?_eq_some found
  have named : other.name = command.name := by
    simpa using List.find?_some found
  rw [found, List.inj_on_of_nodup_map distinct inside listed named]

/-- A file with a command exists. -/
theorem exists_of_last? (found : storage.last? [file] name = some command) :
    storage.files.lookup (Path.place file) ≠ none := by
  intro missing
  simp [last?, commandsAt_of_missing missing] at found

/-- What a set of commands is called in a folder. -/
theorem isPart_definitionName (unbroken : '/' ∉ set.toList) : Path.IsPart (set ++ ".yaml") := by
  have long : 5 ≤ (set ++ ".yaml").toList.length := by
    rw [String.toList_append, List.length_append]
    exact Nat.le_add_left 5 _
  constructor
  · intro same
    rw [same] at long
    exact absurd long (by decide)
  · intro same
    rw [same] at long
    exact absurd long (by decide)
  · intro same
    rw [same] at long
    exact absurd long (by decide)
  · rw [String.toList_append, List.mem_append]
    rintro (inside | inside)
    · exact unbroken inside
    · exact absurd inside (by decide)

/-- A set of commands that was written into a folder is one of its definition files. -/
theorem mem_definitionFiles_withFile {data : Document} (unbroken : '/' ∉ set.toList) :
    Workspace.savedPath project set ∈
      (storage.withFile project (Workspace.savedPath project set) data).definitionFiles project := by
  have place : Path.place (Path.join project (set ++ ".yaml")) = Path.place project ++ [set ++ ".yaml"] :=
    (isPart_definitionName unbroken).place_join
  refine mem_definitionFiles.mpr
    ⟨Path.place (Workspace.savedPath project set), set ++ ".yaml", .inl ?_, ?_, ?_, ?_, rfl⟩
  · simp [withFile, put]
  · rw [Workspace.savedPath, place, List.dropLast_concat]
  · rw [Workspace.savedPath, place, List.getLast?_concat]
  · rw [isDefinitionName, String.endsWith, String.Slice.endsWith_string_iff]
    simp

end Storage

namespace Workspace

variable {storage : Storage} {types : TypeTable} {library : Option String} {project set path name : String}
  {workspace : Workspace} {event : Event} {events : List Event}

/-! ## Runs that only add -/

/-- A command is registered, or the commands are saved to a new file of the project. -/
def Extends (workspace : Workspace) (project : String) : Event → Prop
  | .register _ _ => True
  | .save set => '/' ∉ set.toList ∧
      workspace.storage.files.lookup (Path.place (savedPath project set)) = none
  | _ => False

/-- Every event of a run registers a command or saves to a new file of the project. -/
def Grows (project : String) : Workspace → List Event → Prop
  | _, [] => True
  | workspace, event :: rest =>
    workspace.Extends project event ∧ Grows project (workspace.after event) rest

/-- An event registers a command of a name. -/
def Registers (workspace : Workspace) (name : String) : Event → Prop
  | .register data atOnce => ((registerData data atOnce).runFrom workspace).1 = .ok () ∧
      ∃ command, Command.ofDocument data = .ok command ∧ command.name = name
  | _ => False

/-- A command of a name is registered in a run. -/
def Registered (name : String) : Workspace → List Event → Prop
  | _, [] => False
  | workspace, event :: rest =>
    workspace.Registers name event ∨ Registered name (workspace.after event) rest

/-- A run only adds when it does so up to its last event and in this event. -/
theorem grows_concat : Grows project workspace (events ++ [event]) ↔
    Grows project workspace events ∧ (workspace.run events).Extends project event := by
  induction events generalizing workspace with
  | nil => simp [Grows, run]
  | cons first rest ih =>
    rw [List.cons_append, Grows, ih, Grows, and_assoc]
    rfl

/-- A command is registered in a run when it is up to its last event or in this event. -/
theorem registered_concat : Registered name workspace (events ++ [event]) ↔
    Registered name workspace events ∨ (workspace.run events).Registers name event := by
  induction events generalizing workspace with
  | nil => simp [Registered, run]
  | cons first rest ih =>
    rw [List.cons_append, Registered, ih, Registered, or_assoc]
    rfl

/-- A registration that succeeds leaves the command without a path; one that fails leaves all commands
where they were. -/
theorem after_register_cases (workspace : Workspace) (data : Document) (atOnce : Bool) :
    let next := workspace.after (.register data atOnce)
    (∃ command, Command.ofDocument data = .ok command ∧ ∃ compiler compiled, next =
        { workspace.opened with commands := { workspace.opened.commands.add command none with
            compiler := compiler, compiled := compiled } }) ∨
      (∀ name, ¬workspace.Registers name (.register data atOnce)) ∧
        (next = workspace ∨ ∃ compiler, next = workspace.opened.withCompiler compiler) := by
  intro next
  cases checked : Command.ofDocument data with
  | error fault =>
    refine .inr ⟨?_, .inl ?_⟩
    · rintro name ⟨_, command, given, _⟩
      rw [checked] at given
      cases given
    · change workspace.leftBy (registerData data atOnce) = workspace
      rw [leftBy, Action.runFrom, registerData, checked]
      rfl
  | ok command =>
    have left : registerData data atOnce ⟨workspace, []⟩ = register command atOnce ⟨workspace, []⟩ := by
      rw [registerData, checked, Action.bind_of_ok (Action.ofExcept_apply _ _)]
    have next_eq : next = (register command atOnce ⟨workspace, []⟩).2.state :=
      congrArg (·.2.state) left
    cases atOnce with
    | false =>
      obtain ⟨later, added⟩ := register_later ⟨workspace, []⟩ command
      rw [added] at next_eq
      exact .inl ⟨command, rfl, _, _, next_eq⟩
    | true =>
      obtain ⟨later, registered⟩ := register_atOnce ⟨workspace, []⟩ command
      rw [registered] at next_eq
      split at next_eq
      · exact .inl ⟨command, rfl, _, _, next_eq⟩
      · rename_i fault failed
        refine .inr ⟨?_, .inr ⟨_, next_eq⟩⟩
        rintro name ⟨given, _⟩
        rw [Action.runFrom, left, registered, failed] at given
        cases given

/-! ## Commands and their files -/

/-- The command of a name is in use, and it stands in the file that is its path, if it has one. -/
structure Backed (project name : String) (workspace : Workspace) (command : Command) : Prop where
  loaded : workspace.commands.loaded = true
  known : workspace.commands.commands.get? name = some command
  stands : ∀ path, workspace.commands.paths.get? name = some path →
    path ∈ workspace.storage.definitionFiles project ∧
      workspace.storage.last? [path] name = some command

variable {command : Command}

/-- A command that is registered has no path yet. -/
theorem exists_backed_of_registers (registers : workspace.Registers name event) :
    ∃ command, Backed project name (workspace.after event) command := by
  cases event with
  | register data atOnce =>
    rcases after_register_cases workspace data atOnce with
      ⟨command, checked, compiler, compiled, next⟩ | ⟨refused, -⟩
    · obtain ⟨-, other, again, rfl⟩ := registers
      cases checked.symm.trans again
      refine ⟨command, ?_⟩
      rw [next]
      refine ⟨CommandTable.loaded_opened _ _, CommandTable.get?_add _ command none, fun path placed => ?_⟩
      have unplaced := CommandTable.paths_add workspace.opened.commands command none command.name
      rw [if_pos rfl] at unplaced
      exact absurd (unplaced.symm.trans placed) (by simp)
    · exact absurd registers (refused name)
  | _ => exact registers.elim

/-- A registration leaves the other commands and their files alone. -/
theorem Backed.register (backed : Backed project name workspace command) (data : Document)
    (atOnce : Bool) : ∃ command, Backed project name (workspace.after (.register data atOnce)) command := by
  have opened := opened_of_loaded backed.loaded
  rcases after_register_cases workspace data atOnce with
    ⟨added, checked, compiler, compiled, next⟩ | ⟨-, next | ⟨compiler, next⟩⟩
  · rw [opened] at next
    rw [next]
    have known := Table.get?_insert workspace.commands.commands added.name name added
    have placed := CommandTable.paths_add workspace.commands added none name
    by_cases same : name = added.name
    · rw [if_pos same] at known placed
      refine ⟨added, backed.loaded, known, fun path found => ?_⟩
      exact absurd (placed.symm.trans found) (by simp)
    · rw [if_neg same] at known placed
      refine ⟨command, backed.loaded, known.trans backed.known, fun path found => ?_⟩
      exact backed.stands path (placed.symm.trans found)
  · exact ⟨command, next.symm ▸ backed⟩
  · rw [opened] at next
    rw [next]
    exact ⟨command, backed.loaded, backed.known, backed.stands⟩

/-- The commands of some names get a path, the others keep theirs. -/
theorem paths_placeAll (table : CommandTable) (commands : List Command) (path name : String) :
    (commands.foldl (fun table command => table.place command.name (some path)) table).paths.get? name =
      if ∃ command ∈ commands, command.name = name then some path else table.paths.get? name := by
  induction commands generalizing table with
  | nil => simp
  | cons command rest ih =>
    have one : (table.place command.name (some path)).paths.get? name =
        if name = command.name then some path else table.paths.get? name := Table.get?_insert _ _ _ _
    rw [List.foldl_cons, ih, one]
    by_cases same : command.name = name
    · simp [same]
    · simp [same, Ne.symm same]

/-- A command in use that has no path is written. -/
theorem mem_unsaved {table : CommandTable} (known : table.commands.get? name = some command)
    (unplaced : table.paths.get? name = none) : command ∈ table.unsaved := by
  refine List.mem_map.mpr ⟨(name, command), List.mem_filter.mpr ⟨Table.mem_of_get? known, ?_⟩, rfl⟩
  simp [Table.contains, unplaced]

/-- When the commands without a path get one, every command in use has one. -/
theorem paths_of_unsaved {table : CommandTable} (filed : table.Filed)
    (known : table.commands.get? name = some command) (path : String) :
    (table.unsaved.foldl (fun table command => table.place command.name (some path)) table).paths.get?
      name = some ((table.paths.get? name).getD path) := by
  rw [paths_placeAll]
  cases placed : table.paths.get? name with
  | none =>
    have named : command.name = name := filed.named _ (Table.mem_of_get? known)
    exact if_pos ⟨command, mem_unsaved known placed, named⟩
  | some file =>
    refine if_neg ?_
    rintro ⟨other, written, rfl⟩
    obtain ⟨entry, inside, rfl⟩ := List.mem_map.mp written
    obtain ⟨inside, unplaced⟩ := List.mem_filter.mp inside
    simp [Table.contains, ← filed.named _ inside, placed] at unplaced

/-- No name stands twice among the commands without a file. -/
theorem nodup_unsaved {table : CommandTable} (filed : table.Filed) :
    (table.unsaved.map (·.name)).Nodup := by
  have names : table.unsaved.map (·.name) =
      (table.commands.entries.filter fun entry => !table.paths.contains entry.1).map (·.1) := by
    rw [CommandTable.unsaved, List.map_map]
    exact List.map_congr_left fun entry listed => filed.named entry (List.mem_filter.mp listed).1
  rw [names]
  exact filed.distinct.sublist (List.filter_sublist.map _)

/-- A save makes the folder of the project; if it succeeds, the commands without a path are written to
a file in it. -/
theorem after_save_cases (loaded : workspace.commands.loaded = true)
    (inProject : workspace.commands.project = some project) (set : String) :
    let path := savedPath project set
    let outcome := ((save set).runFrom workspace).1
    let next := workspace.after (.save set)
    (∃ fault, outcome = .error fault ∧
        next = { workspace with storage := workspace.storage.makeFolder project }) ∨
      outcome = .ok path ∧ (workspace.storage.makeFolder project).hasFolder path = false ∧
        next = workspace.saved path (workspace.storage.withFile project path
          (commandFile set workspace.commands.unsaved)) := by
  intro path outcome next
  obtain ⟨later, ended⟩ := save_apply ⟨workspace, []⟩ set inProject
  simp only [opened_of_loaded loaded] at ended
  split at ended
  · rename_i fault failed
    exact .inl ⟨fault, congrArg (·.1) ended, congrArg (·.2.state) ended⟩
  · rename_i storage written
    obtain ⟨free, rfl⟩ := Storage.hasFolder_of_write written
    exact .inr ⟨congrArg (·.1) ended, free, congrArg (·.2.state) ended⟩

/-- A new folder changes nothing in the files. -/
theorem Backed.makeFolder (backed : Backed project name workspace command)
    (clear : workspace.storage.ClearFor project) :
    Backed project name { workspace with storage := workspace.storage.makeFolder project } command := by
  refine ⟨backed.loaded, backed.known, fun path placed => ?_⟩
  obtain ⟨listed, last⟩ := backed.stands path placed
  have still : path ∈ (workspace.storage.makeFolder project).definitionFiles project :=
    Storage.definitionFiles_mono (fun _ there => there.imp_right fun folder =>
      Storage.mem_folders_makeFolder.mpr (.inl folder)) listed
  exact ⟨still, (Storage.last?_congr (Storage.commandsAt_makeFolder clear)).trans last⟩

/-- With the commands that have no path in a new file, every command has a path, and it stands in the
file of its path. -/
theorem Backed.saved (backed : Backed project name workspace command)
    (filed : workspace.commands.Filed) (ordered : Ordered library (some project) workspace)
    (unbroken : '/' ∉ set.toList)
    (new : workspace.storage.files.lookup (Path.place (savedPath project set)) = none)
    (free : (workspace.storage.makeFolder project).hasFolder (savedPath project set) = false) :
    let path := savedPath project set
    let written := workspace.storage.withFile project path (commandFile set workspace.commands.unsaved)
    Backed project name (workspace.saved path written) command ∧
      ∃ file, (workspace.saved path written).commands.paths.get? name = some file := by
  intro path written
  have paths : (workspace.saved path written).commands.paths.get? name =
      some ((workspace.commands.paths.get? name).getD path) :=
    paths_of_unsaved filed backed.known path
  obtain ⟨marks, placed⟩ :=
    exists_paths_of_place workspace.commands workspace.commands.unsaved path
  have same : (workspace.saved path written).commands = { workspace.commands with paths := marks } := by
    rw [Workspace.saved, placed]
  refine ⟨⟨by rw [same]; exact backed.loaded, by rw [same]; exact backed.known, fun file found => ?_⟩,
    _, paths⟩
  rw [paths] at found
  change file ∈ written.definitionFiles project ∧ written.last? [file] name = some command
  cases before : workspace.commands.paths.get? name with
  | none =>
    rw [before, Option.getD_none] at found
    cases found
    have content : written.commandsAt path = workspace.commands.unsaved :=
      Storage.commandsAt_withFile free ordered.names_unsaved rfl
    have named : command.name = name := filed.named _ (Table.mem_of_get? backed.known)
    have last : written.last? [path] command.name = some command := by
      refine Storage.last?_of_mem ?_ ?_
      · rw [content]
        exact nodup_unsaved filed
      · rw [content]
        exact mem_unsaved backed.known before
    exact ⟨Storage.mem_definitionFiles_withFile unbroken, named ▸ last⟩
  | some old =>
    rw [before, Option.getD_some] at found
    obtain rfl : old = file := Option.some.inj found
    obtain ⟨listed, last⟩ := backed.stands old before
    -- There was no file where the new one is.
    have apart : Path.place old ≠ Path.place path := fun same =>
      Storage.exists_of_last? last (same ▸ new)
    constructor
    · exact Storage.definitionFiles_mono
        (fun place there => Storage.known_withFile.mpr (.inl there)) listed
    · have clear := ordered.clear project rfl
      exact (Storage.last?_congr (Storage.commandsAt_withFile_of_ne clear apart)).trans last

/-- A save leaves every command in use, and each of those with a path in its file. If it succeeds, all
of them have a path. -/
theorem Backed.save (backed : Backed project name workspace command)
    (filed : workspace.commands.Filed) (ordered : Ordered library (some project) workspace)
    (grows : workspace.Extends project (.save set)) :
    Backed project name (workspace.after (.save set)) command ∧
      ∀ path, ((Workspace.save set).runFrom workspace).1 = .ok path →
        ∃ file, (workspace.after (.save set)).commands.paths.get? name = some file := by
  obtain ⟨unbroken, new⟩ := grows
  rcases after_save_cases backed.loaded ordered.inProject set with
    ⟨fault, failed, next⟩ | ⟨-, free, next⟩
  · rw [next]
    refine ⟨backed.makeFolder (ordered.clear project rfl), fun path succeeded => ?_⟩
    rw [failed] at succeeded
    cases succeeded
  · obtain ⟨still, placed⟩ := backed.saved filed ordered unbroken new free
    rw [next]
    exact ⟨still, fun _ _ => placed⟩

/-- In every run the commands and the folders are in order, if they were at first. -/
theorem ordered_run (clear : storage.ClearFor project) (types : TypeTable) (events : List Event) :
    Ordered library (some project) ((fresh storage types library (some project)).run events) :=
  .run fun _ same => Option.some.inj same ▸ clear

/-- In a run that only adds, the commands that were registered are in use, each of those with a path in
its file. -/
theorem exists_backed (clear : storage.ClearFor project)
    (grows : Grows project (fresh storage types library (some project)) events)
    (registered : Registered name (fresh storage types library (some project)) events) :
    ∃ command, Backed project name ((fresh storage types library (some project)).run events) command := by
  induction events using List.reverseRecOn with
  | nil => exact registered.elim
  | append_singleton events event ih =>
    obtain ⟨grows, extends_⟩ := grows_concat.mp grows
    rw [run_concat]
    rcases registered_concat.mp registered with before | now
    · obtain ⟨command, backed⟩ := ih grows before
      cases event with
      | register data atOnce => exact backed.register data atOnce
      | save set =>
        exact ⟨command, (backed.save (filed_run storage types library (some project) events)
          (ordered_run clear types events) extends_).1⟩
      | _ => exact extends_.elim
    · exact exists_backed_of_registers now

/-! ## The new table -/

/-- After a save, a command that was registered stands in a definition file of the project. A new table
of commands on the same folders answers it, unless a file that is read after this one defines the name:
then the new table answers the last definition in those files. -/
theorem reload_answers (clear : storage.ClearFor project)
    (grows : Grows project (fresh storage types library (some project)) (events ++ [.save set]))
    (saved : ((save set).runFrom ((fresh storage types library (some project)).run events)).1 = .ok path)
    (registered : Registered name (fresh storage types library (some project)) events) :
    let workspace := (fresh storage types library (some project)).run (events ++ [.save set])
    let files := workspace.storage.filesIn (library.toList ++ [project])
    ∃ command file, ((command? name).runFrom workspace).1 = .ok (some command) ∧
      file ∈ files ∧ workspace.storage.last? [file] name = some command ∧
      ∀ before later, files = before ++ file :: later →
        ((command? name).runFrom (fresh workspace.storage workspace.types library (some project))).1 =
          .ok (some ((workspace.storage.last? later name).getD command)) := by
  intro workspace files
  obtain ⟨grows, extends_⟩ := grows_concat.mp grows
  obtain ⟨command, backed⟩ := exists_backed clear grows registered
  obtain ⟨backed, placed⟩ := backed.save (filed_run storage types library (some project) events)
    (ordered_run clear types events) extends_
  obtain ⟨file, placed⟩ := placed path saved
  rw [← run_concat] at backed placed
  obtain ⟨listed, last⟩ := backed.stands file placed
  refine ⟨command, file, ?_, ?_, last, fun before later split => ?_⟩
  · obtain ⟨noted, found⟩ := command?_apply name ⟨workspace, []⟩
    rw [Action.runFrom, found, opened_of_loaded backed.loaded, backed.known]
  · exact List.mem_flatMap.mpr ⟨project, by simp, listed⟩
  · have read := command?_fresh workspace.storage workspace.types library (some project) name
    rw [show library.toList ++ (some project).toList = library.toList ++ [project] from rfl] at read
    rw [read, show workspace.storage.filesIn (library.toList ++ [project]) = _ from split,
      ← List.singleton_append, ← List.append_assoc, Storage.last?_append, Storage.last?_append, last]
    cases workspace.storage.last? later name <;> rfl

/-- A command is registered and saved, and then another one is registered under its name. -/
def registeredAgain : List Event :=
  [.register (.record [("name", .text "go"), ("expression", .text "go :x")]) false, .save "b",
    .register (.record [("name", .text "go"), ("expression", .text "go to :x")]) false]

/-- A workspace whose project holds nothing yet. -/
def unwritten : Workspace := fresh .empty .numeric none (some "project")

/-- In the run the command is registered. -/
theorem registered_again : Registered "go" unwritten registeredAgain := by
  have given : (Command.ofDocument (.record [("name", .text "go"), ("expression", .text "go :x")])).toOption =
      some ⟨"go", "go :x", "", [], []⟩ := by
    decide +kernel
  exact .inl ⟨Except.eq_ok_of_toOption (by decide +kernel), _, Except.eq_ok_of_toOption given, rfl⟩

/-- Two values are sorted by one comparison. -/
theorem mergeSort_pair {α : Type} (le : α → α → Bool) (one two : α) :
    [one, two].mergeSort le = if le one two then [one, two] else [two, one] := by
  simp [List.mergeSort, List.MergeSort.Internal.splitInTwo, List.merge]

/-- The files of a folder with two of them, by their names. -/
theorem filesIn_pair {storage : Storage} {folder one two : String}
    (names : storage.definitionNames folder = [one, two].mergeSort fun a b => decide (a ≤ b)) :
    storage.filesIn [folder] =
      (if decide (one ≤ two) then [one, two] else [two, one]).map (Path.join folder) := by
  rw [Storage.filesIn, List.flatMap_singleton, Storage.definitionFiles, names, mergeSort_pair]

/-- If the file of the second command is read last, the new table answers the second command. -/
theorem reload_answers_behind :
    let workspace := unwritten.run (registeredAgain ++ [.save "c"])
    ((command? "go").runFrom (fresh workspace.storage workspace.types none (some "project"))).1 =
      .ok (some ⟨"go", "go to :x", "", [], []⟩) := by
  intro workspace
  have clear : Storage.empty.ClearFor "project" := by
    simp [Storage.ClearFor, Storage.empty]
  have grows : Grows "project" unwritten (registeredAgain ++ [.save "c"]) :=
    ⟨trivial, ⟨by decide, by decide +kernel⟩, trivial, ⟨by decide, by decide +kernel⟩, trivial⟩
  have saved : ((save "c").runFrom (unwritten.run registeredAgain)).1 = .ok "project/c.yaml" :=
    Except.eq_ok_of_toOption (by decide +kernel)
  have files : workspace.storage.filesIn ["project"] = ["project/b.yaml", "project/c.yaml"] := by
    have names : workspace.storage.definitionNames "project" =
        ["c.yaml", "b.yaml"].mergeSort fun a b => decide (a ≤ b) :=
      congrArg (List.mergeSort · _) (by decide +kernel)
    rw [filesIn_pair names]
    decide +kernel
  obtain ⟨command, file, live, listed, last, answers⟩ := reload_answers clear grows saved registered_again
  have current : ((command? "go").runFrom workspace).1 = .ok (some ⟨"go", "go to :x", "", [], []⟩) :=
    Except.eq_ok_of_toOption (by decide +kernel)
  cases live.symm.trans current
  have listed : file ∈ workspace.storage.filesIn ["project"] := listed
  rw [files] at listed
  rcases List.mem_cons.mp listed with rfl | behind
  · exact absurd last (by decide +kernel)
  · obtain rfl := List.mem_singleton.mp behind
    exact answers ["project/b.yaml"] [] files

/-- If it is read first, the new table answers the command that was given up. -/
theorem reload_outdated :
    let workspace := unwritten.run (registeredAgain ++ [.save "a"])
    Grows "project" unwritten (registeredAgain ++ [.save "a"]) ∧
      Registered "go" unwritten registeredAgain ∧
      ((save "a").runFrom (unwritten.run registeredAgain)).1 = .ok "project/a.yaml" ∧
      ((command? "go").runFrom workspace).1 = .ok (some ⟨"go", "go to :x", "", [], []⟩) ∧
      ((command? "go").runFrom (fresh workspace.storage workspace.types none (some "project"))).1 =
        .ok (some ⟨"go", "go :x", "", [], []⟩) := by
  intro workspace
  refine ⟨?_, registered_again, ?_, ?_, ?_⟩
  · exact ⟨trivial, ⟨by decide, by decide +kernel⟩, trivial, ⟨by decide, by decide +kernel⟩, trivial⟩
  · exact Except.eq_ok_of_toOption (by decide +kernel)
  · exact Except.eq_ok_of_toOption (by decide +kernel)
  · have names : workspace.storage.definitionNames "project" =
        ["a.yaml", "b.yaml"].mergeSort fun a b => decide (a ≤ b) :=
      congrArg (List.mergeSort · _) (by decide +kernel)
    have files : workspace.storage.filesIn ["project"] = ["project/a.yaml", "project/b.yaml"] := by
      rw [filesIn_pair names]
      decide +kernel
    refine (command?_fresh workspace.storage workspace.types none (some "project") "go").trans ?_
    change Except.ok (workspace.storage.last? (workspace.storage.filesIn ["project"]) "go") = _
    rw [files]
    exact congrArg Except.ok (by decide +kernel)

end Workspace

end LineGrammar
