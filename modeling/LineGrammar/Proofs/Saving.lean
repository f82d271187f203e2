import LineGrammar.Proofs.Sessions

/-!
# Saved commands

Saving writes the commands that have no file to one file of the project, and what that file held
before is gone. So a name that was defined in files is still found after a save exactly when the
command of the name was just written or when another file defines it. In particular a second save to
the same file drops what the first one wrote; a run shows this.
-/

namespace LineGrammar

/-! ## What is found in files -/

namespace Storage

variable {storage : Storage} {name : String}

/-- A name is defined by the commands in a file. -/
def Defines (storage : Storage) (file name : String) : Prop :=
  ∃ command ∈ storage.commandsAt file, command.name = name

instance (storage : Storage) (file name : String) : Decidable (storage.Defines file name) :=
  inferInstanceAs (Decidable (∃ command ∈ storage.commandsAt file, command.name = name))

/-- The definition files of some folders. -/
def filesIn (storage : Storage) (folders : List String) : List String :=
  folders.flatMap storage.definitionFiles

/-- The last command of a name in some files. -/
def last? (storage : Storage) (files : List String) (name : String) : Option Command :=
  (files.flatMap storage.commandsAt).reverse.find? fun command => command.name = name

/-- There is a last command of a name when one of the files defines it. -/
theorem isSome_last? {files : List String} :
    (storage.last? files name).isSome ↔ ∃ file ∈ files, storage.Defines file name := by
  simp only [last?, List.find?_isSome, List.mem_reverse, List.mem_flatMap, decide_eq_true_eq, Defines]
  constructor
  · rintro ⟨command, ⟨file, listed, inside⟩, named⟩
    exact ⟨file, listed, command, inside, named⟩
  · rintro ⟨file, listed, command, inside, named⟩
    exact ⟨command, ⟨file, listed, inside⟩, named⟩

variable {project path file set : String} {commands : List Command} {folders : List String}

/-- A file with commands that have names is read again as it was written. -/
theorem commandsAt_withFile (free : (storage.makeFolder project).hasFolder path = false)
    (named : ∀ command ∈ commands, command.name ≠ "") (same : Path.place file = Path.place path) :
    (storage.withFile project path (Workspace.commandFile set commands)).commandsAt file =
      commands := by
  have read : CommandSet.ofDocument (Workspace.commandFile set commands) =
      .ok ⟨CommandSet.defaultSchema, set, "", commands⟩ := CommandSet.ofDocument_described named
  exact commandsAt_of_document (document_withFile free same) rfl read

/-- A name that files define is still defined after a file was written, exactly when it is defined by
what was written or by another file. -/
theorem exists_defines_withFile (set : String) (clear : storage.ClearFor project)
    (free : (storage.makeFolder project).hasFolder path = false)
    (named : ∀ command ∈ commands, command.name ≠ "")
    (before : ∃ file ∈ storage.filesIn folders, storage.Defines file name) :
    let written := storage.withFile project path (Workspace.commandFile set commands)
    (∃ file ∈ written.filesIn folders, written.Defines file name) ↔
      (∃ command ∈ commands, command.name = name) ∨
        ∃ file ∈ storage.filesIn folders, Path.place file ≠ Path.place path ∧
          storage.Defines file name := by
  intro written
  have still : ∀ file ∈ storage.filesIn folders, file ∈ written.filesIn folders := by
    intro file listed
    obtain ⟨folder, known, inside⟩ := List.mem_flatMap.mp listed
    exact List.mem_flatMap.mpr ⟨folder, known, definitionFiles_mono
      (fun place there => known_withFile.mpr (.inl there)) inside⟩
  have other : ∀ file ∈ storage.filesIn folders, Path.place file ≠ Path.place path →
      storage.Defines file name → ∃ file ∈ written.filesIn folders, written.Defines file name := by
    rintro file listed apart ⟨command, inside, same⟩
    exact ⟨file, still file listed, command,
      (commandsAt_withFile_of_ne clear apart).symm ▸ inside, same⟩
  constructor
  · rintro ⟨file, listed, command, inside, named_⟩
    by_cases same : Path.place file = Path.place path
    · rw [commandsAt_withFile free named same] at inside
      exact .inl ⟨command, inside, named_⟩
    · rw [commandsAt_withFile_of_ne clear same] at inside
      obtain ⟨folder, known, here⟩ := List.mem_flatMap.mp listed
      have old := mem_definitionFiles_of_withFile clear same here inside
      exact .inr ⟨file, List.mem_flatMap.mpr ⟨folder, known, old⟩, same, command, inside, named_⟩
  · rintro (⟨command, inside, named_⟩ | ⟨file, listed, apart, defined⟩)
    · obtain ⟨file, listed, defined⟩ := before
      by_cases same : Path.place file = Path.place path
      · exact ⟨file, still file listed, command,
          (commandsAt_withFile free named same).symm ▸ inside, named_⟩
      · exact other file listed same defined
    · exact other file listed apart defined

end Storage

namespace Workspace

variable {storage : Storage} {types : TypeTable} {library project : Option String}
  {events : List Event} {name set path : String} {workspace next : Workspace}

/-- A new table of commands on a library and a project finds a command of a name. -/
def Discovers (storage : Storage) (types : TypeTable) (library project : Option String)
    (name : String) : Prop :=
  ∃ command, ((command? name).runFrom (fresh storage types library project)).1 = .ok (some command)

instance : Decidable (Discovers storage types library project name) :=
  decidable_of_iff (((command? name).runFrom (fresh storage types library project)).1.toOption.join.isSome
    = true) <| by
      rw [Discovers]
      cases ((command? name).runFrom (fresh storage types library project)).1 with
      | error fault => simp [Except.toOption]
      | ok found => simp [Except.toOption, Option.isSome_iff_exists]

/-- Of the commands of a name that are added, the last one stays. -/
theorem get?_addAll (table : CommandTable) (entries : List (Command × String)) (name : String) :
    (table.addAll entries).commands.get? name =
      ((entries.map (·.1)).reverse.find? fun command => command.name = name).or
        (table.commands.get? name) := by
  induction entries generalizing table with
  | nil => rfl
  | cons entry rest ih =>
    have one : (table.add entry.1 (some entry.2)).commands.get? name =
        if name = entry.1.name then some entry.1 else table.commands.get? name :=
      Table.get?_insert _ _ _ _
    refine (ih (table.add entry.1 (some entry.2))).trans ?_
    rw [one, List.map_cons, List.reverse_cons, List.find?_append, Option.or_assoc]
    by_cases same : entry.1.name = name
    · simp [same]
    · simp [same, Ne.symm same]

/-- A new table of commands answers the last command of a name in the definition files. -/
theorem command?_fresh (storage : Storage) (types : TypeTable) (library project : Option String)
    (name : String) : ((command? name).runFrom (fresh storage types library project)).1 =
      .ok (storage.last? (storage.filesIn (library.toList ++ project.toList)) name) := by
  obtain ⟨later, found⟩ := command?_apply name ⟨fresh storage types library project, []⟩
  have known := get?_addAll { CommandTable.fresh library project types with loaded := true }
    ((library.toList ++ project.toList).flatMap storage.commandsIn) name
  have commands : ((library.toList ++ project.toList).flatMap storage.commandsIn).map (·.1) =
      (storage.filesIn (library.toList ++ project.toList)).flatMap storage.commandsAt := by
    simp [Storage.filesIn, Storage.commandsIn, List.map_flatMap, List.flatMap_assoc, Function.comp_def]
  rw [commands, CommandTable.fresh, Table.get?_empty, Option.or_none] at known
  rw [Action.runFrom, found]
  exact congrArg Except.ok known

/-- What is found are the names that the definition files define. -/
theorem discovers_iff : Discovers storage types library project name ↔
    ∃ file ∈ storage.filesIn (library.toList ++ project.toList), storage.Defines file name := by
  rw [← Storage.isSome_last?, Discovers, command?_fresh]
  simp [Option.isSome_iff_exists]

/-! ## What runs keep -/

/-- The commands have names, the folders are the same as at first, and no file stands in the way of
the project. -/
structure Ordered (library project : Option String) (workspace : Workspace) : Prop where
  named : ∀ entry ∈ workspace.commands.commands.entries, entry.2.name ≠ ""
  fromLibrary : workspace.commands.library = library
  inProject : workspace.commands.project = project
  clear : ∀ folder, project = some folder → workspace.storage.ClearFor folder

/-- Every move leaves commands and folders in order. -/
theorem Ordered.move (ordered : Ordered library project workspace) (move : Move workspace next) :
    Ordered library project next := by
  cases move with
  | mark loaded paths broken => exact ⟨ordered.named, ordered.fromLibrary, ordered.inProject, ordered.clear⟩
  | add command path named =>
    refine ⟨fun entry listed => ?_, ordered.fromLibrary, ordered.inProject, ordered.clear⟩
    rcases Table.mem_insertEntry listed with rfl | old
    · exact named
    · exact ordered.named entry old
  | remove name =>
    exact ⟨fun entry listed => ordered.named entry (List.mem_filter.mp listed).1, ordered.fromLibrary,
      ordered.inProject, ordered.clear⟩
  | compile compiler faithful => exact ⟨ordered.named, ordered.fromLibrary, ordered.inProject, ordered.clear⟩
  | keep name command results known given =>
    exact ⟨ordered.named, ordered.fromLibrary, ordered.inProject, ordered.clear⟩
  | write storage clear =>
    exact ⟨ordered.named, ordered.fromLibrary, ordered.inProject, fun folder same =>
      clear folder (ordered.inProject.trans same) (ordered.clear folder same)⟩

/-- The commands without a file have names. -/
theorem Ordered.names_unsaved (ordered : Ordered library project workspace) :
    ∀ command ∈ workspace.commands.unsaved, command.name ≠ "" := by
  intro command listed
  obtain ⟨entry, inside, rfl⟩ := List.mem_map.mp listed
  exact ordered.named entry (List.mem_filter.mp inside).1

/-- In every run the commands and the folders are in order, if they were at first. -/
theorem Ordered.run (clear : ∀ folder, project = some folder → storage.ClearFor folder) :
    Ordered library project ((fresh storage types library project).run events) :=
  holds_run (Ordered library project) ⟨by simp [fresh, CommandTable.fresh, Table.empty], rfl, rfl, clear⟩
    (.fresh types) (fun _ _ ordered => ⟨ordered.named, ordered.fromLibrary, ordered.inProject, ordered.clear⟩)
    (fun move ordered => ordered.move move) events

/-! ## What a save leaves -/

/-- After a save that succeeds, a name that files defined is still found exactly when its command is
among those that were just written or when a file at another place defines it. All other names that
the written file held before are lost. -/
theorem save_discovers (clear : ∀ folder, project = some folder → storage.ClearFor folder)
    (saved : ((save set).runFrom ((fresh storage types library project).run events)).1 = .ok path)
    (before : Discovers ((fresh storage types library project).run events).storage types library
      project name) :
    let workspace := (fresh storage types library project).run events
    Discovers (workspace.leftBy (save set)).storage types library project name ↔
      (∃ command ∈ workspace.opened.commands.unsaved, command.name = name) ∨
        ∃ file ∈ workspace.storage.filesIn (library.toList ++ project.toList),
          Path.place file ≠ Path.place path ∧ workspace.storage.Defines file name := by
  intro workspace
  have ordered : Ordered library project workspace := .run clear
  have reached : Reached workspace workspace := ⟨.refl, faithful_run (.fresh types) events⟩
  have opened : Ordered library project workspace.opened :=
    reached.opened.holds (Ordered library project) (fun move ordered => ordered.move move) ordered
  cases known : workspace.commands.project with
  | none =>
    rw [Action.runFrom, save_none ⟨workspace, []⟩ set known] at saved
    cases saved
  | some folder =>
    obtain ⟨later, ended⟩ := save_apply ⟨workspace, []⟩ set known
    cases written : (workspace.storage.makeFolder folder).write (savedPath folder set)
        (commandFile set workspace.opened.commands.unsaved) with
    | error fault =>
      simp only [written] at ended
      rw [Action.runFrom, ended] at saved
      cases saved
    | ok changed =>
      simp only [written] at ended
      rw [Action.runFrom, ended] at saved
      cases saved
      obtain ⟨free, rfl⟩ := Storage.hasFolder_of_write written
      rw [leftBy, Action.runFrom, ended]
      have files := Storage.exists_defines_withFile set
        (ordered.clear folder (ordered.inProject.symm.trans known)) free opened.names_unsaved
        (discovers_iff.mp before)
      exact discovers_iff.trans files

/-- A command is registered and saved, and then another one is registered. -/
def savedBetween : List Event :=
  [.register (.record [("name", .text "go"), ("expression", .text "go :x")]) false,
    .save "commands",
    .register (.record [("name", .text "run"), ("expression", .text "run :x")]) false]

/-- The workspace with one command saved and one not. -/
def halfSaved : Workspace := (fresh .empty .numeric none (some "project")).run savedBetween

/-- A save to another file keeps the command that was saved first. -/
theorem save_discovers_apart :
    Discovers (halfSaved.leftBy (save "others")).storage .numeric none (some "project") "go" := by
  have clear : ∀ folder, some "project" = some folder → Storage.empty.ClearFor folder := by
    simp [Storage.ClearFor, Storage.empty]
  have answered : ((save "others").runFrom halfSaved).1.toOption = some "project/others.yaml" := by
    decide +kernel
  have saved : ((save "others").runFrom halfSaved).1 = .ok "project/others.yaml" := by
    cases ended : ((save "others").runFrom halfSaved).1 with
    | error fault =>
      rw [ended] at answered
      cases answered
    | ok path =>
      rw [ended] at answered
      exact congrArg Except.ok (Option.some.inj answered)
  refine (save_discovers clear saved (by decide +kernel)).mpr (.inr ?_)
  exact ⟨"project/commands.yaml", by decide +kernel, by decide +kernel, by decide +kernel⟩

/-- A second save to the same file drops the command that was saved first. -/
theorem saved_lost :
    Discovers halfSaved.storage .numeric none (some "project") "go" ∧
      ¬Discovers (halfSaved.leftBy (save "commands")).storage .numeric none (some "project") "go" := by
  decide +kernel

end Workspace

end LineGrammar
