import LineGrammar.Proofs.Compilation
import LineGrammar.Proofs.Storing
import LineGrammar.Workspace.Commands

/-!
# Rosters

A roster is a plain list of commands, each with the path of its file; a command without a path was
registered. Nothing is kept beside the list: whatever is asked about the expressions of a command is
found out anew, under given types. A command that does not compile is passed over.

A table of commands shows a roster. Adding and removing a command in the table shows as putting it into
the roster and dropping it there, as long as the table is coherent: every command stands under its own
name, no name stands twice, and what was compiled of a command is what its expressions give.
-/

namespace LineGrammar

/-! ## Commands without a memory -/

/-- What a command compiles to, up to the first expression that does not compile. -/
def Command.compile (types : TypeTable) (command : Command) : Except Fault (List Expression) :=
  command.expressions.mapM (Expression.compile types)

/-- The first of some expressions that has a reading of a line. -/
def Expression.firstRead (line : String) : List Expression → Except Fault (Option (Expression × Reading))
  | [] => .ok none
  | expression :: rest => do
    match ← expression.read line with
    | some reading => return some (expression, reading)
    | none => firstRead line rest

/-- What a command makes of a line. A command that does not compile makes nothing of any line. -/
def Command.dispatch (types : TypeTable) (line : String) (command : Command) :
    Except Fault (Option Dispatched) :=
  match command.compile types with
  | .error _ => .ok none
  | .ok expressions => do
    let found ← Expression.firstRead line expressions
    return found.map fun (expression, reading) => ⟨command, expression.text, reading⟩

/-- Commands in order, each with the path of its file. -/
abbrev Roster := List (Command × Option String)

namespace Roster

/-- Puts a command in the place of the one of its name, or else at the end. -/
def put (command : Command) (path : Option String) : Roster → Roster
  | [] => [(command, path)]
  | (other, place) :: rest =>
    if other.name = command.name then (command, path) :: rest
    else (other, place) :: put command path rest

/-- Drops the command of a name. -/
def drop (name : String) (roster : Roster) : Roster := roster.filter fun entry => entry.1.name ≠ name

/-- The command of a name. -/
def command? (name : String) (roster : Roster) : Option Command :=
  (roster.find? fun entry => entry.1.name = name).map (·.1)

/-- Puts in commands from files, in order. -/
def putAll (roster : Roster) (entries : List (Command × String)) : Roster :=
  entries.foldl (fun roster entry => roster.put entry.1 (some entry.2)) roster

/-- The commands of the files in the library and then of those in the project, in the order of their
names. -/
def ofFolders (storage : Storage) (library project : Option String) : Roster :=
  putAll [] ((library.toList ++ project.toList).flatMap storage.commandsIn)

/-- The expressions of the command of a name, compiled. -/
def compiled (types : TypeTable) (name : String) (roster : Roster) : Except Fault (List Expression) :=
  match roster.command? name with
  | none => .error (.unknownCommand name)
  | some command => command.compile types

/-- What the first command that has a reading of a line makes of it. -/
def dispatch (types : TypeTable) (line : String) : Roster → Except Fault (Option Dispatched)
  | [] => .ok none
  | (command, _) :: rest => do
    match ← command.dispatch types line with
    | some found => return some found
    | none => dispatch types line rest

/-- What all commands that have a reading of a line make of it. -/
def dispatchAll (types : TypeTable) (line : String) (roster : Roster) :
    Except Fault (List Dispatched) := do
  let found ← roster.mapM fun entry => entry.1.dispatch types line
  return found.filterMap id

/-- When no command fails, the first one that has a reading comes first among all that have one. -/
theorem dispatch_of_dispatchAll {types : TypeTable} {line : String} {roster : Roster}
    {found : List Dispatched} (all : roster.dispatchAll types line = .ok found) :
    roster.dispatch types line = .ok found.head? := by
  induction roster generalizing found with
  | nil =>
    cases all
    rfl
  | cons entry rest ih =>
    rw [dispatchAll, List.mapM_cons] at all
    obtain ⟨results, ran, same⟩ := Except.bind_eq_ok.mp all
    obtain ⟨first, one, ran⟩ := Except.bind_eq_ok.mp ran
    obtain ⟨others, more, listed⟩ := Except.bind_eq_ok.mp ran
    cases listed
    cases same
    rw [dispatch, one]
    cases first with
    | some dispatched => rfl
    | none => exact ih (Except.bind_eq_ok.mpr ⟨others, more, rfl⟩)

end Roster

/-! ## The roster of a table -/

namespace CommandTable

variable {types : TypeTable} {table : CommandTable}

/-- What a table shows of its commands. -/
def roster (table : CommandTable) : Roster :=
  table.commands.entries.map fun entry => (entry.2, table.paths.get? entry.1)

/-- What is kept of the command of a name meets a condition. -/
def Kept (given : String → Command → List Stamped → Prop) (table : CommandTable) : Prop :=
  ∀ name command results, table.commands.get? name = some command →
    table.compiled.get? name = some results → given name command results

/-- Every command stands under its own name, and no name stands twice. -/
structure Filed (table : CommandTable) : Prop where
  named : ∀ entry ∈ table.commands.entries, entry.2.name = entry.1
  distinct : table.commands.keys.Nodup

/-- Every command stands under its own name, and no name stands twice; and what is kept of a command, by
the table or by its compiler, is what the types give. -/
structure Coherent (types : TypeTable) (table : CommandTable) : Prop where
  named : ∀ entry ∈ table.commands.entries, entry.2.name = entry.1
  distinct : table.commands.keys.Nodup
  kept : table.Kept fun _ command results => command.compile types = .ok (results.map (·.expression))
  faithful : table.compiler.Faithful types

/-- A command is found in a table as it is in the roster. -/
theorem command?_roster (named : ∀ entry ∈ table.commands.entries, entry.2.name = entry.1)
    (name : String) : table.roster.command? name = table.commands.get? name := by
  rw [roster, Roster.command?, Table.get?]
  generalize table.commands.entries = entries at named
  induction entries with
  | nil => rfl
  | cons entry rest ih =>
    obtain ⟨key, command⟩ := entry
    obtain rfl : command.name = key := named _ List.mem_cons_self
    rw [Table.lookup_entry, List.map_cons, List.find?_cons]
    by_cases same : name = command.name
    · simp [same]
    · simpa [same, Ne.symm same] using ih fun other listed => named other (List.mem_cons_of_mem _ listed)

/-- To add a command changes its own path only. -/
theorem paths_add (table : CommandTable) (command : Command) (path : Option String) (name : String) :
    (table.add command path).paths.get? name =
      if name = command.name then path else table.paths.get? name := by
  cases path with
  | some path => exact Table.get?_insert _ _ _ _
  | none => exact Table.get?_erase _ _ _

/-- A coherent table has every command under its own name. -/
theorem Coherent.filed (coherent : table.Coherent types) : table.Filed :=
  ⟨coherent.named, coherent.distinct⟩

/-- A command is found under its own name. -/
theorem Filed.get?_name (filed : table.Filed) {command : Command} (listed : command ∈ table.commands.values) :
    table.commands.get? command.name = some command := by
  obtain ⟨⟨key, command⟩, inside, rfl⟩ := List.mem_map.mp listed
  obtain rfl : command.name = key := filed.named _ inside
  exact Table.get?_of_mem filed.distinct inside

/-- A command that is added to a table is put into the roster. -/
theorem Filed.roster_add (filed : table.Filed) (command : Command) (path : Option String) :
    (table.add command path).roster = table.roster.put command path := by
  obtain ⟨named, distinct⟩ := filed
  have shown : (table.add command path).roster = (Table.insertEntry command.name command
      table.commands.entries).map fun entry =>
        (entry.2, if entry.1 = command.name then path else table.paths.get? entry.1) :=
    List.map_congr_left fun entry _ => by rw [paths_add]
  rw [shown, roster]
  rw [Table.keys] at distinct
  clear shown
  generalize table.commands.entries = entries at named distinct
  induction entries with
  | nil => simp [Table.insertEntry, Roster.put]
  | cons entry rest ih =>
    obtain ⟨key, old⟩ := entry
    obtain rfl : old.name = key := named _ List.mem_cons_self
    obtain ⟨apart, distinct⟩ := List.nodup_cons.mp distinct
    rw [List.map_cons, Table.insertEntry, Roster.put]
    by_cases same : old.name = command.name
    · -- No entry behind has the name, so all of them keep their paths.
      have others : ∀ entry ∈ rest, entry.1 ≠ command.name := fun entry listed again =>
        apart (List.mem_map.mpr ⟨entry, listed, again.trans same.symm⟩)
      simp only [same, if_true, List.map_cons]
      exact congrArg (_ :: ·) (List.map_congr_left fun entry listed => by
        rw [if_neg (others entry listed)])
    · simp only [same, if_false, List.map_cons]
      rw [ih (fun other listed => named other (List.mem_cons_of_mem _ listed)) distinct]

/-- A command that is removed from a table is dropped from the roster. -/
theorem Filed.roster_remove (filed : table.Filed) (name : String) :
    (table.remove name).roster = table.roster.drop name := by
  have stays : ∀ entry ∈ table.commands.entries.filter fun entry => entry.1 != name,
      (entry.2, (table.paths.erase name).get? entry.1) = (entry.2, table.paths.get? entry.1) := by
    intro entry listed
    rw [Table.get?_erase, if_neg (by simpa using (List.mem_filter.mp listed).2)]
  calc (table.remove name).roster
    _ = (table.commands.entries.filter fun entry => entry.1 != name).map fun entry =>
        (entry.2, table.paths.get? entry.1) := List.map_congr_left stays
    _ = table.roster.drop name := by
      rw [roster, Roster.drop, List.filter_map]
      refine congrArg (List.map _) (List.filter_congr fun entry listed => ?_)
      simp [filed.named entry listed, bne, beq_eq_decide]

namespace Kept

variable {given : String → Command → List Stamped → Prop}

/-- With a new definition of a name, what was kept of the old one is dropped. -/
theorem add (kept : table.Kept given) (command : Command) (path : Option String) :
    (table.add command path).Kept given := by
  intro name other results known found
  simp only [CommandTable.add, place, forget, Table.get?_insert, Table.get?_erase] at known found
  split at found
  · cases found
  · rename_i apart
    rw [if_neg apart] at known
    exact kept name other results known found

/-- With a command that is removed, what was kept of it is dropped. -/
theorem remove (kept : table.Kept given) (name : String) : (table.remove name).Kept given := by
  intro other command results known found
  simp only [CommandTable.remove, place, forget, Table.get?_erase] at known found
  split at found
  · cases found
  · rename_i apart
    rw [if_neg apart] at known
    exact kept other command results known found

/-- What is given may be kept of a known command. -/
theorem keep (kept : table.Kept given) {name : String} {command : Command} {results : List Stamped}
    (known : table.commands.get? name = some command) (new : given name command results) :
    (table.keep name results).Kept given := by
  intro other command' results' known' found
  rw [CommandTable.keep, Table.get?_insert] at found
  split at found
  · rename_i same
    subst same
    cases found
    cases known.symm.trans known'
    exact new
  · exact kept other command' results' known' found

end Kept

namespace Filed

/-- A new definition of a name takes the old place. -/
theorem add (filed : table.Filed) (command : Command) (path : Option String) :
    (table.add command path).Filed where
  named := by
    intro entry listed
    rcases Table.mem_insertEntry listed with rfl | listed
    · rfl
    · exact filed.named entry listed
  distinct := Table.nodup_keys_insert filed.distinct _ _

/-- To remove a command leaves the others under their own names. -/
theorem remove (filed : table.Filed) (name : String) : (table.remove name).Filed where
  named entry listed := filed.named entry (List.mem_filter.mp listed).1
  distinct := filed.distinct.sublist (List.filter_sublist.map _)

end Filed

namespace Coherent

/-- A table stays coherent when a command is added. -/
theorem add (coherent : table.Coherent types) (command : Command) (path : Option String) :
    (table.add command path).Coherent types where
  named := (coherent.filed.add command path).named
  distinct := (coherent.filed.add command path).distinct
  kept := coherent.kept.add command path
  faithful := coherent.faithful

/-- A table stays coherent when a command is removed. -/
theorem remove (coherent : table.Coherent types) (name : String) :
    (table.remove name).Coherent types where
  named := (coherent.filed.remove name).named
  distinct := (coherent.filed.remove name).distinct
  kept := coherent.kept.remove name
  faithful := coherent.faithful

/-- What the expressions of a command give may be kept of it. -/
theorem keep (coherent : table.Coherent types) {name : String} {command : Command}
    {results : List Stamped} (known : table.commands.get? name = some command)
    (given : command.compile types = .ok (results.map (·.expression))) :
    (table.keep name results).Coherent types where
  named := coherent.named
  distinct := coherent.distinct
  kept := coherent.kept.keep known given
  faithful := coherent.faithful

/-- A fresh table is coherent, as it is empty. -/
theorem fresh (library project : Option String) (types : TypeTable) :
    (CommandTable.fresh library project types).Coherent types where
  named := by simp [CommandTable.fresh, Table.empty]
  distinct := by simp [CommandTable.fresh, Table.empty, Table.keys]
  kept := by
    intro name command results known
    cases known
  faithful := .fresh types

end Coherent

end CommandTable

end LineGrammar
