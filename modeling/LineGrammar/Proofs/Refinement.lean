import LineGrammar.Proofs.Faults
import LineGrammar.Proofs.Sessions

/-!
# Commands as a roster

A table of commands reads its folders late, compiles late, and keeps what it has compiled. None of this
can be told from its answers: they are those of a roster that was read at the start, and of which
everything is compiled anew. `Workspace.Follows` is the invariant behind it. It says nothing of the
commands that were passed over, because they are only remembered for the sake of the warnings.

A roster passes over every command that does not compile, and a workspace only those that do not compile
for a fault of grammar. Under types that stand alone there are no others. A type that hides what follows
it makes a difference, and then one command keeps all others from being asked.
-/

namespace LineGrammar

/-! ## Inquiries -/

/-- What may be asked about commands, and what may be done to them. -/
inductive Inquiry where
  | list
  | get (name : String)
  | compiled (name : String)
  | register (command : Command) (atOnce : Bool)
  | remove (name : String)
  | dispatch (line : String)
  | dispatchAll (line : String)

/-- What is answered. -/
inductive Answer where
  | listed (commands : Roster)
  | command (found : Option Command)
  | compiled (expressions : List Expression)
  | registered
  | removed (known : Bool)
  | dispatched (found : Option Dispatched)
  | allDispatched (found : List Dispatched)

namespace Roster

/-- What a roster answers. -/
def answer (types : TypeTable) (roster : Roster) : Inquiry → Except Fault Answer
  | .list => .ok (.listed roster)
  | .get name => .ok (.command (roster.command? name))
  | .compiled name => .compiled <$> roster.compiled types name
  | .register command true => (fun _ => .registered) <$> command.compile types
  | .register _ false => .ok .registered
  | .remove name => .ok (.removed (roster.command? name).isSome)
  | .dispatch line => .dispatched <$> roster.dispatch types line
  | .dispatchAll line => .allDispatched <$> roster.dispatchAll types line

/-- The roster after an inquiry. A command that is to compile at once and does not is not put in. -/
def after (types : TypeTable) (roster : Roster) : Inquiry → Roster
  | .register command true =>
    match command.compile types with
    | .ok _ => roster.put command none
    | .error _ => roster
  | .register command false => roster.put command none
  | .remove name => roster.drop name
  | _ => roster

/-- The roster after several inquiries. -/
def asked (types : TypeTable) (roster : Roster) (inquiries : List Inquiry) : Roster :=
  inquiries.foldl (after types) roster

/-- What is in a roster after a command was put there is the command or was there before. -/
theorem mem_put {roster : Roster} {command : Command} {path : Option String}
    {entry : Command × Option String} (listed : entry ∈ roster.put command path) :
    entry = (command, path) ∨ entry ∈ roster := by
  induction roster with
  | nil => exact .inl (List.mem_singleton.mp listed)
  | cons first rest ih =>
    rw [put] at listed
    split at listed <;> rcases List.mem_cons.mp listed with rfl | listed
    · exact .inl rfl
    · exact .inr (List.mem_cons_of_mem _ listed)
    · exact .inr List.mem_cons_self
    · exact (ih listed).imp_right (List.mem_cons_of_mem _)

end Roster

/-- A command that compiles or fails for a fault of grammar. -/
def Command.Grammatical (types : TypeTable) (command : Command) : Prop :=
  ∀ fault, command.compile types = .error fault → fault.isGrammar = true

/-- Under types that stand alone, all commands are grammatical. -/
theorem TypeTable.Standing.grammatical {types : TypeTable} (standing : types.Standing)
    (command : Command) : command.Grammatical types := by
  intro fault failed
  obtain ⟨text, -, failed⟩ := Except.exists_of_mapM_eq_error failed
  rcases Expression.compile_or_atFault standing text with ⟨_, compiled⟩ | ⟨_, same, atFault⟩
  · rw [failed] at compiled
    cases compiled
  · rw [failed] at same
    cases same
    exact atFault.isGrammar

/-- Only what is put in without being compiled needs to be known as grammatical. -/
theorem Roster.grammatical_after {types : TypeTable} {roster : Roster} {inquiry : Inquiry}
    (grammatical : ∀ entry ∈ roster, entry.1.Grammatical types)
    (registered : ∀ command, inquiry = .register command false → command.Grammatical types) :
    ∀ entry ∈ roster.after types inquiry, entry.1.Grammatical types := by
  have put (command : Command) (new : command.Grammatical types) :
      ∀ entry ∈ roster.put command none, entry.1.Grammatical types := by
    intro entry listed
    rcases mem_put listed with rfl | listed
    · exact new
    · exact grammatical entry listed
  cases inquiry with
  | register command atOnce =>
    cases atOnce with
    | false => exact put command (registered command rfl)
    | true =>
      rw [after]
      cases compiled : command.compile types with
      | ok expressions =>
        refine put command fun fault failed => ?_
        rw [compiled] at failed
        cases failed
      | error fault => exact grammatical
  | remove name => exact fun entry listed => grammatical entry (List.mem_filter.mp listed).1
  | _ => exact grammatical

namespace Workspace

/-- Asks a workspace about its commands. -/
def inquire : Inquiry → Session Answer
  | .list => do return .listed (← listing)
  | .get name => do return .command (← command? name)
  | .compiled name => do return .compiled ((← compiled name).map (·.expression))
  | .register command atOnce => do
    register command atOnce
    return .registered
  | .remove name => do return .removed (← remove name)
  | .dispatch line => do return .dispatched (← dispatch line)
  | .dispatchAll line => do return .allDispatched (← dispatchAll line)

/-- What a workspace answers. -/
def answer (workspace : Workspace) (inquiry : Inquiry) : Except Fault Answer :=
  ((inquire inquiry).runFrom workspace).1

/-- A workspace after several inquiries. -/
def asked (workspace : Workspace) (inquiries : List Inquiry) : Workspace :=
  inquiries.foldl (fun workspace inquiry => workspace.leftBy (inquire inquiry)) workspace

/-! ## The invariant -/

/-- A workspace has read its folders, and its table of commands shows a roster. -/
structure Follows (types : TypeTable) (roster : Roster) (workspace : Workspace) : Prop where
  types_eq : workspace.types = types
  loaded : workspace.commands.loaded = true
  coherent : workspace.commands.Coherent types
  roster_eq : workspace.commands.roster = roster

/-- A workspace follows a roster once its folders have been read. -/
def Represents (types : TypeTable) (roster : Roster) (workspace : Workspace) : Prop :=
  Follows types roster workspace.opened

variable {types : TypeTable} {roster next : Roster} {workspace : Workspace}

namespace Follows

/-- A workspace that follows a roster stands for it. -/
theorem represents (follows : Follows types roster workspace) : Represents types roster workspace := by
  rwa [Represents, opened_of_loaded follows.loaded]

/-- A command is found as it is in the roster. -/
theorem get?_eq (follows : Follows types roster workspace) (name : String) :
    workspace.commands.commands.get? name = roster.command? name := by
  rw [← follows.roster_eq, CommandTable.command?_roster follows.coherent.named]

/-- The commands are those of the roster, in order. -/
theorem values_eq (follows : Follows types roster workspace) :
    workspace.commands.commands.values = roster.map (·.1) := by
  rw [← follows.roster_eq, CommandTable.roster, List.map_map]
  rfl

/-- A command that is added is put into the roster. -/
theorem add (follows : Follows types roster workspace) (command : Command) (path : Option String) :
    Follows types (roster.put command path)
      { workspace with commands := workspace.commands.add command path } where
  types_eq := follows.types_eq
  loaded := follows.loaded
  coherent := follows.coherent.add command path
  roster_eq := follows.roster_eq ▸ follows.coherent.filed.roster_add command path

/-- A command that is removed is dropped from the roster. -/
theorem remove (follows : Follows types roster workspace) (name : String) :
    Follows types (roster.drop name)
      { workspace with commands := workspace.commands.remove name } where
  types_eq := follows.types_eq
  loaded := follows.loaded
  coherent := follows.coherent.remove name
  roster_eq := follows.roster_eq ▸ follows.coherent.filed.roster_remove name

/-- The compiler does not show in the roster. -/
theorem withCompiler (follows : Follows types roster workspace) {compiler : Compiler}
    (faithful : compiler.Faithful types) : Follows types roster (workspace.withCompiler compiler) where
  types_eq := follows.types_eq
  loaded := follows.loaded
  coherent := { follows.coherent with faithful }
  roster_eq := follows.roster_eq

/-- What is kept of a command does not show in the roster. -/
theorem keep (follows : Follows types roster workspace) {name : String} {command : Command}
    {results : List Stamped} (known : workspace.commands.commands.get? name = some command)
    (given : command.compile types = .ok (results.map (·.expression))) :
    Follows types roster { workspace with commands := workspace.commands.keep name results } where
  types_eq := follows.types_eq
  loaded := follows.loaded
  coherent := follows.coherent.keep known given
  roster_eq := follows.roster_eq

/-- The commands of files are put into the roster, in order. -/
theorem addAll (follows : Follows types roster workspace) (entries : List (Command × String)) :
    Follows types (roster.putAll entries) (workspace.addAll entries) := by
  induction entries generalizing roster workspace with
  | nil => exact follows
  | cons entry rest ih => exact ih (follows.add entry.1 (some entry.2))

end Follows

/-- A fresh workspace stands for what its folders hold. -/
theorem represents_fresh (storage : Storage) (types : TypeTable) (library project : Option String) :
    Represents types (Roster.ofFolders storage library project)
      (fresh storage types library project) := by
  let start : Workspace := { fresh storage types library project with
    commands := { CommandTable.fresh library project types with loaded := true } }
  have empty : Follows types [] start :=
    ⟨rfl, rfl, { CommandTable.Coherent.fresh library project types with }, rfl⟩
  exact empty.addAll _

/-! ## Actions that leave the roster alone -/

/-- An action answers a given outcome and leaves the roster alone. -/
abbrev Reads {α : Type} (types : TypeTable) (roster : Roster) (action : Session α)
    (outcome : Except Fault α) : Prop :=
  Action.Gives (Follows types roster) action outcome

/-- That a command was passed over changes nothing that is answered. -/
theorem reads_skip (name : String) (fault : Fault) : Reads types roster (skip name fault) (.ok ()) := by
  intro noted follows
  rw [skip, Action.state_bind]
  split
  · exact ⟨rfl, follows⟩
  · exact ⟨rfl, follows.types_eq, follows.loaded, { follows.coherent with }, follows.roster_eq⟩

/-! ## What is kept and what is compiled -/

/-- What the compiler of the commands answers is what the types give. -/
theorem Follows.answerAll (follows : Follows types roster workspace) (command : Command) :
    let answers := workspace.commands.compiler.answerAll workspace.types command.expressions
    answers.1.map (List.map (·.expression)) = command.compile types ∧
      Follows types roster (workspace.withCompiler answers.2) := by
  obtain ⟨faithful, given⟩ := follows.coherent.faithful.answerAll command.expressions
  rw [follows.types_eq]
  exact ⟨given, follows.withCompiler faithful⟩

/-- Whether it was kept or not, what is answered of a command is what its expressions give. -/
theorem ensures_compiled (name : String) :
    Action.Ensures (Represents types roster) (compiled name) fun given workspace =>
      given.map (List.map (·.expression)) = roster.compiled types name ∧
        Follows types roster workspace := by
  intro noted follows
  rw [Roster.compiled, ← follows.get?_eq]
  obtain ⟨given, left, later, ended, how⟩ := compiledEnd name noted
  rw [ended]
  cases how with
  | unknown known =>
    rw [known]
    exact ⟨rfl, follows⟩
  | @kept command results known kept =>
    rw [known]
    exact ⟨(follows.coherent.kept name command results known kept).symm, follows⟩
  | @failed command compiler fault known ran =>
    obtain ⟨given, later⟩ := follows.answerAll command
    rw [ran] at given later
    rw [known]
    exact ⟨given, later⟩
  | @made command compiler results known ran =>
    obtain ⟨given, later⟩ := follows.answerAll command
    rw [ran] at given later
    rw [known]
    exact ⟨given, later.keep known given.symm⟩

/-! ## Dispatching -/

/-- Every command of a roster is found under its name. -/
theorem Follows.command?_of_mem (follows : Follows types roster workspace)
    {entry : Command × Option String} (listed : entry ∈ roster) :
    roster.command? entry.1.name = some entry.1 := by
  rw [← follows.get?_eq]
  refine follows.coherent.filed.get?_name ?_
  rw [follows.values_eq]
  exact List.mem_map_of_mem listed

section Dispatch

variable (grammatical : ∀ entry ∈ roster, entry.1.Grammatical types) (line : String)
include grammatical

/-- What a command makes of a line does not depend on what is kept of it. -/
theorem reads_tryCommand {entry : Command × Option String} (listed : entry ∈ roster) :
    Reads types roster (tryCommand line entry.1) (entry.1.dispatch types line) := by
  intro noted follows
  have known := follows.command?_of_mem listed
  obtain ⟨given, follows⟩ := ensures_compiled entry.1.name noted follows.represents
  rw [Roster.compiled, known] at given
  rw [tryCommand, Action.bind_of_ok (Action.outcome_apply _ _), Command.dispatch]
  cases ran : (compiled entry.1.name noted).1 with
  | ok results =>
    rw [ran] at given
    rw [← show _ = entry.1.compile types from given]
    exact Action.Gives.bind (gives_firstReading line results) (fun _ => .pure _) _ follows
  | error fault =>
    rw [ran] at given
    have failed : entry.1.compile types = .error fault := given.symm
    simp only [failed, grammatical entry listed fault failed, if_true]
    exact Action.Gives.bind (reads_skip entry.1.name fault) (fun _ => .pure none) _ follows

/-- A line is dispatched among some commands of the roster as the roster dispatches it. -/
theorem reads_dispatchAmong {rest : Roster} (within : ∀ entry ∈ rest, entry ∈ roster) :
    Reads types roster (dispatchAmong line (rest.map (·.1))) (rest.dispatch types line) := by
  induction rest with
  | nil => exact .pure none
  | cons entry rest ih =>
    refine .bind (reads_tryCommand grammatical line (within entry List.mem_cons_self)) fun found => ?_
    cases found with
    | none => exact ih fun other behind => within other (List.mem_cons_of_mem _ behind)
    | some dispatched => exact .pure _

/-- A line is dispatched to all commands of the roster as the roster dispatches it. -/
theorem reads_dispatchAll :
    Reads types roster (do
      let found ← (roster.map (·.1)).mapM (tryCommand line)
      return found.filterMap id) (roster.dispatchAll types line) := by
  rw [List.mapM_map]
  exact .bind (.mapM fun _ listed => reads_tryCommand grammatical line listed) fun _ => .pure _

end Dispatch

/-! ## Answers -/

/-- After the folders have been read, the table itself shows the roster. -/
theorem ensures_load {α : Type} {rest : Session α} {after : Except Fault α → Workspace → Prop}
    (ensures : Action.Ensures (Follows types roster) rest after) :
    Action.Ensures (Represents types roster) (load >>= fun _ => rest) after := by
  intro noted represents
  obtain ⟨later, read⟩ := load_apply noted
  rw [Action.bind_of_ok read]
  exact ensures ⟨_, later⟩ represents

/-- An action answers a given outcome and leaves a given roster behind. -/
def Answers {α : Type} (types : TypeTable) (roster : Roster) (action : Session α)
    (outcome : Except Fault α) (next : Roster) : Prop :=
  Action.Ensures (Represents types roster) action fun given workspace =>
    given = outcome ∧ Follows types next workspace

/-- An answer may be changed. -/
theorem Answers.map {α β : Type} {action : Session α} {outcome : Except Fault α}
    (answers : Answers types roster action outcome next) (f : α → β) :
    Answers types roster (do return f (← action)) (f <$> outcome) next := by
  refine Action.Ensures.bind answers (fun value noted ⟨same, follows⟩ => ?_)
    fun fault workspace ⟨same, follows⟩ => ?_
  · subst same
    exact ⟨rfl, follows⟩
  · subst same
    exact ⟨rfl, follows⟩

/-- A listing shows the roster. -/
theorem answers_listing : Answers types roster listing (.ok roster) roster :=
  ensures_load fun _ follows => ⟨congrArg Except.ok follows.roster_eq, follows⟩

/-- A command is looked up in the roster. -/
theorem answers_command? (name : String) :
    Answers types roster (command? name) (.ok (roster.command? name)) roster :=
  ensures_load fun _ follows => ⟨congrArg Except.ok (follows.get?_eq name), follows⟩

/-- A command is compiled as the roster compiles it. -/
theorem answers_compiled (name : String) :
    Answers types roster (do return Answer.compiled ((← compiled name).map (·.expression)))
      (Answer.compiled <$> roster.compiled types name) roster :=
  Action.Ensures.bind (ensures_compiled name)
    (fun _ _ ⟨same, follows⟩ => ⟨congrArg (Answer.compiled <$> ·) same, follows⟩)
    fun _ _ ⟨same, follows⟩ => ⟨congrArg (Answer.compiled <$> ·) same, follows⟩

/-- To remove a command answers whether it was known and drops it from the roster. -/
theorem answers_remove (name : String) :
    Answers types roster (remove name) (.ok (roster.command? name).isSome) (roster.drop name) := by
  refine ensures_load fun noted follows => ?_
  have known : noted.state.commands.commands.contains name = (roster.command? name).isSome := by
    rw [Table.contains, follows.get?_eq]
  exact ⟨congrArg Except.ok known, follows.remove name⟩

/-- To register a command puts it into the roster. -/
theorem answers_register (command : Command) :
    Answers types roster (register command false) (.ok ()) (roster.put command none) := by
  intro noted follows
  obtain ⟨later, added⟩ := register_later noted command
  rw [added]
  exact ⟨rfl, follows.add command none⟩

/-- To register a command that is to compile at once puts it into the roster if it does. -/
theorem answers_register_atOnce (command : Command) :
    Answers types roster (register command true) ((fun _ => ()) <$> command.compile types)
      (roster.after types (.register command true)) := by
  intro noted follows
  obtain ⟨given, after⟩ := Follows.answerAll follows command
  obtain ⟨later, registered⟩ := register_atOnce noted command
  rw [registered, Roster.after, ← given]
  split
  · rename_i results found
    rw [found] at given ⊢
    exact ⟨rfl, (after.add command none).keep (CommandTable.get?_add _ command none) given.symm⟩
  · rename_i fault found
    rw [found]
    exact ⟨rfl, after⟩

/-- A line is dispatched as the roster dispatches it. -/
theorem answers_dispatch (grammatical : ∀ entry ∈ roster, entry.1.Grammatical types) (line : String) :
    Answers types roster (dispatch line) (roster.dispatch types line) roster := by
  refine ensures_load fun noted follows => ?_
  rw [Action.state_bind, follows.values_eq]
  exact reads_dispatchAmong grammatical line (fun _ listed => listed) noted follows

/-- A line is dispatched to all as the roster dispatches it. -/
theorem answers_dispatchAll (grammatical : ∀ entry ∈ roster, entry.1.Grammatical types)
    (line : String) :
    Answers types roster (dispatchAll line) (roster.dispatchAll types line) roster := by
  refine ensures_load fun noted follows => ?_
  rw [Action.state_bind, follows.values_eq]
  exact reads_dispatchAll grammatical line noted follows

/-- Whatever is asked, a workspace answers as the roster that it represents, and goes on representing
it. -/
theorem answers_inquire (grammatical : ∀ entry ∈ roster, entry.1.Grammatical types)
    (inquiry : Inquiry) :
    Answers types roster (inquire inquiry) (roster.answer types inquiry)
      (roster.after types inquiry) := by
  cases inquiry with
  | list => exact answers_listing.map Answer.listed
  | get name => exact (answers_command? name).map Answer.command
  | compiled name => exact answers_compiled name
  | register command atOnce =>
    cases atOnce with
    | false => exact (answers_register command).map fun _ => Answer.registered
    | true =>
      have answers : Answers types roster (register command true) _ _ := answers_register_atOnce command
      have registered := answers.map fun _ => Answer.registered
      rwa [Functor.map_map] at registered
  | remove name => exact (answers_remove name).map Answer.removed
  | dispatch line => exact (answers_dispatch grammatical line).map Answer.dispatched
  | dispatchAll line => exact (answers_dispatchAll grammatical line).map Answer.allDispatched

/-- A run of inquiries leaves a workspace that represents the roster after the run. -/
theorem represents_asked {inquiries : List Inquiry} (represents : Represents types roster workspace)
    (grammatical : ∀ entry ∈ roster, entry.1.Grammatical types)
    (registered : ∀ command, .register command false ∈ inquiries → command.Grammatical types) :
    Represents types (roster.asked types inquiries) (workspace.asked inquiries) ∧
      ∀ entry ∈ roster.asked types inquiries, entry.1.Grammatical types := by
  induction inquiries generalizing roster workspace with
  | nil => exact ⟨represents, grammatical⟩
  | cons inquiry rest ih =>
    obtain ⟨-, follows⟩ := answers_inquire grammatical inquiry ⟨workspace, []⟩ represents
    refine ih follows.represents (Roster.grammatical_after grammatical fun command same =>
      registered command (same ▸ List.mem_cons_self)) fun command listed => ?_
    exact registered command (List.mem_cons_of_mem _ listed)

/-- As long as the commands that are read or registered are grammatical, a workspace answers as the
roster of its folders does after the same inquiries, whatever it keeps. And when all dispatching goes
without a failure, the dispatch answers the first of its results. -/
theorem answer_refines {storage : Storage} {types : TypeTable} {library project : Option String}
    {inquiries : List Inquiry}
    (files : ∀ entry ∈ Roster.ofFolders storage library project, entry.1.Grammatical types)
    (registered : ∀ command, .register command false ∈ inquiries → command.Grammatical types) :
    let workspace := (fresh storage types library project).asked inquiries
    let roster := (Roster.ofFolders storage library project).asked types inquiries
    (∀ inquiry, workspace.answer inquiry = roster.answer types inquiry) ∧
      ∀ line found, workspace.answer (.dispatchAll line) = .ok (.allDispatched found) →
        workspace.answer (.dispatch line) = .ok (.dispatched found.head?) := by
  intro workspace roster
  obtain ⟨represents, grammatical⟩ :=
    represents_asked (represents_fresh storage types library project) files registered
  have same (inquiry : Inquiry) : workspace.answer inquiry = roster.answer types inquiry :=
    (answers_inquire grammatical inquiry ⟨workspace, []⟩ represents).1
  refine ⟨same, fun line found all => ?_⟩
  rw [same] at all ⊢
  change Answer.allDispatched <$> roster.dispatchAll types line = _ at all
  change Answer.dispatched <$> roster.dispatch types line = _
  cases ran : roster.dispatchAll types line with
  | error fault =>
    rw [ran] at all
    cases all
  | ok results =>
    rw [ran] at all
    cases all
    rw [Roster.dispatch_of_dispatchAll ran]
    rfl

/-- A library with a command that does not compile, and a project that defines it anew, also wrongly. -/
def layered : Storage :=
  ⟨[[], ["library"], ["project"]],
    [(["library", "a.yaml"], .document (.record [("commands", .list [
        .record [("name", .text "go"), ("expression", .text "go [fast")],
        .record [("name", .text "halt"), ("expression", .text "halt")]])])),
      (["project", "b.yaml"], .document (.record [("commands", .list [
        .record [("name", .text "go"), ("expression", .text "go fast]")]])]))]⟩

/-- The definition of the project stands in the place of the one of the library, and the line is
dispatched to the command behind it. -/
theorem answer_refines_layered :
    let workspace := (fresh layered .numeric (some "library") (some "project")).asked
      [.register ⟨"wait", "wait :x", "", [], []⟩ false]
    workspace.answer .list = .ok (.listed [(⟨"go", "go fast]", "", [], []⟩, some "project/b.yaml"),
        (⟨"halt", "halt", "", [], []⟩, some "library/a.yaml"),
        (⟨"wait", "wait :x", "", [], []⟩, none)]) ∧
      ∃ found, workspace.answer (.dispatch "halt") = .ok (.dispatched (some found)) ∧
        found.command.name = "halt" := by
  intro workspace
  have grammatical : ∀ command : Command, command.Grammatical .numeric :=
    (TypeTable.Fresh.standing (.inl rfl)).grammatical
  have files : ∀ entry ∈ Roster.ofFolders layered (some "library") (some "project"),
      entry.1.Grammatical .numeric := fun entry _ => grammatical entry.1
  have registered : ∀ command,
      .register command false ∈ [Inquiry.register ⟨"wait", "wait :x", "", [], []⟩ false] →
        command.Grammatical .numeric := fun command _ => grammatical command
  obtain ⟨answers, -⟩ := answer_refines files registered
  refine ⟨(answers .list).trans (congrArg (Except.ok ∘ Answer.listed) (by decide +kernel)), ?_⟩
  have evaluated : (((Roster.ofFolders layered (some "library") (some "project")).asked .numeric
      [.register ⟨"wait", "wait :x", "", [], []⟩ false]).dispatch .numeric "halt").toOption.join.map
        (·.command.name) = some "halt" := by
    decide +kernel
  obtain ⟨found, ran, named⟩ := Option.map_eq_some_iff.mp evaluated
  have ran := Except.eq_ok_of_toOption (Option.join_eq_some_iff.mp ran)
  exact ⟨found, (answers (.dispatch "halt")).trans (congrArg (Answer.dispatched <$> ·) ran), named⟩

/-- A fragment may close the parenthesis that it is placed in and begin a remark. A command that lists
values of its type is not passed over: it keeps a line from being dispatched at all. -/
theorem answer_refused :
    let types := [.register "T" "a)(?#" none].foldl TypeTable.after .numeric
    let inquiries := [.register ⟨"c", "w *xs@T", "", [], []⟩ false]
    ((fresh .empty types none none).asked inquiries).answer (.dispatch "w a") ≠
      ((Roster.ofFolders .empty none none).asked types inquiries).answer types (.dispatch "w a") := by
  intro types inquiries same
  have answers := congrArg (fun answer => answer.toOption.isSome) same
  revert answers
  decide +kernel

end Workspace

end LineGrammar
