import LineGrammar.Proofs.Sessions

/-!
# What shows of a workspace

A workspace shows its types and its commands with the paths of their files. The folders of the commands
are read before anybody sees the table of them, so what shows is what the table holds after that; then it
is no change that the folders are read. Nor is it one that expressions are compiled or that commands are
passed over.

A registration makes one entry new, or fails and changes nothing that shows.
-/

namespace LineGrammar

/-! ## One new entry -/

namespace Table

variable {α : Type} {name : String}

/-- One entry of a table is new. It stands in the place of the first entry of its name, or at the end if
there was none. All other entries are what and where they were. -/
inductive OneNew (name : String) (value : α) (before after : Table α) : Prop
  | replaced (front back : List (String × α)) (old : α)
    (was : before.entries = front ++ (name, old) :: back) (first : name ∉ front.map (·.1))
    (now : after.entries = front ++ (name, value) :: back)
  | added (unknown : name ∉ before.keys) (now : after.entries = before.entries ++ [(name, value)])

/-- A value under a new name is inserted behind all others. -/
theorem insertEntry_append {front : List (String × α)} (absent : name ∉ front.map (·.1)) (value : α)
    (rest : List (String × α)) :
    insertEntry name value (front ++ rest) = front ++ insertEntry name value rest := by
  induction front with
  | nil => rfl
  | cons entry front ih =>
    simp only [List.map_cons, List.mem_cons, not_or] at absent
    rw [List.cons_append, insertEntry, if_neg (Ne.symm absent.1), ih absent.2, List.cons_append]

/-- An insertion makes one entry new. -/
theorem oneNew_insert (table : Table α) (name : String) (value : α) :
    OneNew name value table (table.insert name value) := by
  by_cases known : name ∈ table.keys
  · obtain ⟨names, others, split, first⟩ := List.eq_append_cons_of_mem known
    obtain ⟨front, rest, was, rfl, behind⟩ := List.map_eq_append_iff.mp split
    obtain ⟨⟨key, old⟩, back, rfl, same, -⟩ := List.map_eq_cons_iff.mp behind
    obtain rfl : key = name := same
    refine .replaced front back old was first ?_
    change insertEntry key value table.entries = _
    rw [was, insertEntry_append first value, insertEntry, if_pos rfl]
  · refine .added known ?_
    have inserted := insertEntry_append known value []
    rwa [List.append_nil] at inserted

end Table

/-! ## Contents -/

namespace CommandTable

variable {table other : CommandTable}

/-- A table without anything that was found out about the expressions of its commands. -/
def bare (table : CommandTable) : CommandTable :=
  { table with compiled := .empty, broken := [], compiler := ⟨.empty, 0, 0⟩ }

/-- Tables that differ in nothing else agree in what has nothing to do with expressions. -/
theorem eq_of_bare {α : Type} (same : table.bare = other.bare) (part : CommandTable → α)
    (apart : ∀ table, part table.bare = part table) : part table = part other := by
  rw [← apart table, same, apart]

/-- What files add does not depend on what is kept or marked. -/
theorem addAll_bare (same : table.bare = other.bare) (entries : List (Command × String)) :
    (table.addAll entries).bare = (other.addAll entries).bare := by
  induction entries generalizing table other with
  | nil => exact same
  | cons entry rest ih => exact ih (congrArg (fun table => (table.add entry.1 entry.2).bare) same)

/-- Reading the folders does not depend on what was found out about expressions. -/
theorem opened_bare (same : table.bare = other.bare) (storage : Storage) :
    (table.opened storage).bare = (other.opened storage).bare := by
  have loaded : table.loaded = other.loaded := eq_of_bare same (·.loaded) fun _ => rfl
  have folders : table.folders = other.folders := eq_of_bare same (·.folders) fun _ => rfl
  rw [opened, opened, loaded, folders]
  split
  · exact same
  · exact addAll_bare (congrArg (fun table => { table with loaded := true }) same) _

end CommandTable

namespace Workspace

/-- The types and the commands of a workspace, and where the commands come from. -/
structure Contents where
  types : TypeTable
  commands : Table Command
  paths : Table String

/-- What a workspace shows: its types, and its commands after the folders have been read. -/
def contents (workspace : Workspace) : Contents :=
  ⟨workspace.types, workspace.opened.commands.commands, workspace.opened.commands.paths⟩

/-- Nothing has changed that shows, and folders that were read stay so. -/
structure Unchanged (workspace next : Workspace) : Prop where
  contents_eq : next.contents = workspace.contents
  loaded : workspace.commands.loaded = true → next.commands.loaded = true

variable {start workspace next : Workspace}

/-- Once the folders have been read, the table of commands is what shows of it. -/
theorem contents_of_loaded (loaded : workspace.commands.loaded = true) :
    workspace.contents =
      ⟨workspace.types, workspace.commands.commands, workspace.commands.paths⟩ := by
  rw [contents, opened_of_loaded loaded]

namespace Unchanged

/-- Where nothing was done, nothing has changed. -/
theorem refl (workspace : Workspace) : Unchanged workspace workspace := ⟨rfl, id⟩

/-- What does not show in either of two steps does not show in both. -/
theorem trans (unchanged : Unchanged start workspace) (still : Unchanged workspace next) :
    Unchanged start next :=
  ⟨still.contents_eq.trans unchanged.contents_eq, still.loaded ∘ unchanged.loaded⟩

/-- What a workspace shows is what it shows once its folders have been read. -/
theorem opened (workspace : Workspace) : Unchanged workspace workspace.opened where
  contents_eq := contents_of_loaded workspace.loaded_opened
  loaded _ := workspace.loaded_opened

/-- What was found out about expressions does not show. -/
theorem of_bare (storage : next.storage = workspace.storage) (types : next.types = workspace.types)
    (bare : next.commands.bare = workspace.commands.bare) : Unchanged workspace next where
  contents_eq := by
    have opened := CommandTable.opened_bare bare workspace.storage
    rw [contents, contents, types, Workspace.opened, Workspace.opened, storage, Contents.mk.injEq]
    exact ⟨rfl, CommandTable.eq_of_bare opened (·.commands) fun _ => rfl,
      CommandTable.eq_of_bare opened (·.paths) fun _ => rfl⟩
  loaded loaded := (CommandTable.eq_of_bare bare (·.loaded) fun _ => rfl).trans loaded

end Unchanged

/-! ## Work that does not show -/

/-- That the folders were read does not show. -/
theorem unchanged_load : Action.Keeps (Unchanged start) load := by
  intro noted unchanged
  obtain ⟨later, read⟩ := load_apply noted
  rw [read]
  exact unchanged.trans (.opened noted.state)

/-- That a command was compiled does not show. -/
theorem unchanged_compiled (name : String) : Action.Keeps (Unchanged start) (compiled name) := by
  intro noted unchanged
  have opened := unchanged.trans (.opened noted.state)
  obtain ⟨given, left, later, ended, how⟩ := compiledEnd name noted
  rw [ended]
  cases how with
  | unknown | kept => exact opened
  | failed | made => exact opened.trans (.of_bare rfl rfl rfl)

/-- That a command was passed over does not show. -/
theorem unchanged_skip (name : String) (fault : Fault) :
    Action.Keeps (Unchanged start) (skip name fault) := by
  refine .bind_state fun noted unchanged => ?_
  by_cases passed : noted.state.commands.broken.contains name = true
  · rw [if_pos passed]
    exact unchanged
  · rw [if_neg passed]
    exact unchanged.trans (.of_bare rfl rfl rfl)

/-- Nothing shows of the search for a command that reads a line. -/
theorem lasts_unchanged : Lasts (Unchanged start) :=
  ⟨unchanged_load, unchanged_compiled, unchanged_skip⟩

/-- That an expression was compiled does not show. -/
theorem unchanged_compile (text : String) : Action.Keeps (Unchanged start) (compile text) := by
  refine .bind_state fun noted unchanged => ?_
  rw [Action.within_apply]
  exact unchanged.trans (.of_bare rfl rfl rfl)

/-- That a line was read does not show. -/
theorem unchanged_read (text line : String) : Action.Keeps (Unchanged start) (read text line) := by
  refine .bind (unchanged_compile text) fun result noted unchanged => ?_
  obtain ⟨later, read⟩ := readNoted_apply result.expression line noted
  rw [read]
  exact unchanged

/-- That the commands were listed does not show. -/
theorem unchanged_listing : Action.Keeps (Unchanged start) listing := by
  refine .bind unchanged_load fun _ => .bind_state ?_
  intro noted unchanged
  exact unchanged

/-- That a command was looked up does not show. -/
theorem unchanged_command? (name : String) : Action.Keeps (Unchanged start) (command? name) := by
  refine .bind unchanged_load fun _ => .bind_state ?_
  intro noted unchanged
  exact unchanged

/-! ## Registrations -/

variable {α : Type}

/-- An action that succeeds has an effect on what shows; one that fails has changed nothing. -/
def Alters (effect : Contents → Contents → Prop) (action : Session α) : Prop :=
  ∀ noted, match action noted with
    | (.ok _, next) => effect noted.state.contents next.state.contents
    | (.error _, next) => Unchanged noted.state next.state

/-- An effect may be replaced by one that it implies. -/
theorem Alters.imp {effect weaker : Contents → Contents → Prop} {action : Session α}
    (alters : Alters effect action) (implies : ∀ before after, effect before after →
      weaker before after) : Alters weaker action := by
  intro noted
  have ended := alters noted
  cases ran : action noted with
  | mk outcome next =>
    rw [ran] at ended
    cases outcome with
    | ok value => exact implies _ _ ended
    | error fault => exact ended

/-- A type whose fragment is fit is put in, and counted as a change of the types. -/
theorem alters_type (definition : TypeDefinition) :
    Alters (fun before after => after = { before with types := ⟨before.types.types.insert
      definition.name ⟨definition.name, definition.fragment, some definition.asConversion⟩,
        before.types.version + 1⟩ }) (onTypes definition.register) := by
  intro noted
  obtain ⟨later, registered⟩ := TypeTable.registerNoted_apply noted.state.types definition.name
    definition.fragment (some definition.asConversion) noted.notices
  rw [onTypes, Action.within_apply, TypeDefinition.register, registered, TypeTable.register]
  cases TypeTable.obstacle? definition.name definition.fragment with
  | some fault => exact .refl noted.state
  | none => rfl

/-- A command that compiles is put in, and comes from no file. -/
theorem alters_command (command : Command) :
    Alters (fun before after => after = { before with
      commands := before.commands.insert command.name command
      paths := before.paths.erase command.name }) (register command true) := by
  intro noted
  obtain ⟨later, registered⟩ := register_atOnce noted command
  rw [registered]
  split <;> rename_i ran
  · split at ran
    · cases ran
      exact contents_of_loaded noted.state.loaded_opened
    · cases ran
  · split at ran
    · cases ran
    · cases ran
      exact (Unchanged.opened noted.state).trans (.of_bare rfl rfl rfl)

end Workspace

end LineGrammar
