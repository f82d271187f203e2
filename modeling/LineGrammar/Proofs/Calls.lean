import LineGrammar.Proofs.Contents
import LineGrammar.Proofs.Definitions
import LineGrammar.Workspace.Tools

/-!
# Calls of tools

A tool checks its arguments, reads the folders of the commands, compiles, and reads lines, and may fail
at each of these. Whatever happens, the call is answered with a report, and a report of an error means
that nothing has changed that shows. Only two tools change anything that shows, and each of them changes
one entry.
-/

namespace LineGrammar

open LineGrammar.Definition LineGrammar.Definition.Checked

/-! ## Reports -/

namespace Tool

open Workspace

/-- The status that a report bears. -/
def status? : Document → Option String
  | .record fields =>
    match Document.field? "status" fields with
    | some (.text status) => some status
    | _ => none
  | _ => none

/-- A report of failure has the status of one. -/
theorem status_failed (message : String) : status? (failed message) = some "error" := rfl

/-- A success bears its status, if none of its other fields is a status. -/
theorem status_success {fields : List (String × Document)} (apart : "status" ∉ fields.map (·.1)) :
    status? (success fields) = some "success" := by
  have none : fields.reverse.lookup "status" = none := by
    refine List.lookup_eq_none_iff.mpr fun field listed => ?_
    simp only [bne_iff_ne, ne_eq]
    exact fun same => apart (List.mem_map.mpr ⟨field, List.mem_reverse.mp listed, same.symm⟩)
  have found : Document.field? "status" (("status", .text "success") :: fields) =
      some (.text "success") := by
    rw [Document.field?, List.reverse_cons, List.lookup_append, none]
    rfl
  rw [success, status?, found]

/-- A tool ends with a success that has an effect; or it reports an error or fails, and nothing has
changed. -/
def Ends (effect : Contents → Contents → Prop) (start : Workspace) :
    Except Fault Document → Workspace → Prop
  | .ok report, next =>
    (status? report = some "success" ∧ effect start.contents next.contents) ∨
      (status? report = some "error" ∧ Unchanged start next)
  | .error _, next => Unchanged start next

/-- From everywhere, an action of a tool ends with an effect, or nothing has changed. -/
def Contained (effect : Contents → Contents → Prop) (action : Session Document) : Prop :=
  ∀ noted, Ends effect noted.state (action noted).1 (action noted).2.state

/-! ## The tools that only inquire -/

/-- A tool that only inquires ends without an effect, from wherever nothing has changed. -/
def Inquires (action : Session Document) : Prop :=
  ∀ start, Action.Ensures (Unchanged start) action (Ends (fun before after => after = before) start)

section Inquiries

variable {arguments : Arguments} {α : Type}

/-- What only inquires is contained, and has no effect. -/
theorem Inquires.contained {action : Session Document} (inquires : Inquires action) :
    Contained (fun before after => after = before) action := by
  intro noted
  exact inquires noted.state noted (.refl noted.state)

/-- A report of success inquires, if no field of it is called status. -/
theorem inquires_success {fields : List (String × Document)} (apart : "status" ∉ fields.map (·.1)) :
    Inquires (pure (success fields)) := by
  intro start noted unchanged
  exact .inl ⟨status_success apart, unchanged.contents_eq⟩

/-- A report of failure inquires. -/
theorem inquires_failed (message : String) : Inquires (pure (failed message)) := by
  intro start noted unchanged
  exact .inr ⟨status_failed message, unchanged⟩

/-- Work that does not show may come first. -/
theorem inquires_bind {first : Session α} {then_ : α → Session Document}
    (kept : ∀ start, Action.Keeps (Unchanged start) first) (rest : ∀ value, Inquires (then_ value)) :
    Inquires (first >>= then_) := by
  intro start
  refine Action.Ensures.bind (kept start) ?_ ?_
  · intro value
    exact rest value start
  · intro fault workspace unchanged
    exact unchanged

/-- So may a computation that does not look at the workspace. -/
theorem inquires_ofExcept {result : Except Fault α} {then_ : α → Session Document}
    (rest : ∀ value, result = .ok value → Inquires (then_ value)) :
    Inquires (Action.ofExcept result >>= then_) := by
  intro start noted unchanged
  cases result with
  | error fault =>
    rw [Action.bind_of_error (Action.ofExcept_apply _ _)]
    exact unchanged
  | ok value =>
    rw [Action.bind_of_ok (Action.ofExcept_apply _ _)]
    exact rest value rfl start noted unchanged

/-- Compiling an expression only inquires. -/
theorem inquires_runCompile : Inquires (runCompile arguments) :=
  inquires_bind (fun _ => unchanged_compile _) fun result =>
    inquires_success (by simp [Expression.described, fieldsOf])

/-- Reading a line only inquires. -/
theorem inquires_runRead : Inquires (runRead arguments) := by
  refine inquires_bind (fun _ => unchanged_read _ _) fun found => ?_
  cases found with
  | none => exact inquires_success (by decide)
  | some reading => exact inquires_success (by simp [Reading.fields])

/-- Explaining an expression only inquires. -/
theorem inquires_runExplain : Inquires (runExplain arguments) := by
  refine inquires_ofExcept fun explanation ran => inquires_success ?_
  obtain ⟨outline, -, ran⟩ := Except.bind_eq_ok.mp ran
  obtain ⟨parts, -, same⟩ := Except.bind_eq_ok.mp ran
  cases same
  simp [fieldsOf]

/-- Listing the types only inquires. -/
theorem inquires_runListTypes : Inquires runListTypes := by
  refine inquires_bind ?_ fun table => inquires_success (by simp)
  intro start noted unchanged
  exact unchanged

/-- Listing the commands only inquires. -/
theorem inquires_runListCommands : Inquires runListCommands :=
  inquires_bind (fun _ => unchanged_listing) fun commands => inquires_success (by simp)

/-- Describing a command only inquires. -/
theorem inquires_runDescribeCommand : Inquires (runDescribeCommand arguments) := by
  refine inquires_bind (fun _ => unchanged_command? _) fun known => ?_
  cases known with
  | none => exact inquires_failed _
  | some command =>
    exact inquires_bind (fun _ => unchanged_compiled _) fun results => inquires_success (by simp)

/-- Dispatching a line only inquires. -/
theorem inquires_runDispatch : Inquires (runDispatch arguments) := by
  rw [runDispatch]
  split
  · refine inquires_bind (fun _ => lasts_unchanged.dispatch _) fun found => ?_
    cases found with
    | none => exact inquires_success (by decide)
    | some found => exact inquires_success (by simp [Dispatched.fields])
  · exact inquires_bind (fun _ => lasts_unchanged.dispatchAll _) fun found =>
      inquires_success (by simp)

end Inquiries

/-! ## The tools that register -/

/-- The data of the type that a call defines. -/
def typeData (arguments : Arguments) : Document :=
  .record [("name", argument arguments "name" .null), ("pattern", argument arguments "pattern" .null),
    ("convert", argument arguments "convert" (.text "str")),
    ("choices", argument arguments "choices" .null), ("minimum", argument arguments "minimum" .null),
    ("maximum", argument arguments "maximum" .null),
    ("quoted", argument arguments "quoted" (.boolean true))]

/-- The data of the command that a call defines. -/
def commandData (arguments : Arguments) : Document :=
  let aliases := argument arguments "aliases" .null
  .record [("name", argument arguments "name" .null),
    ("expression", argument arguments "expression" .null),
    ("description", argument arguments "description" (.text "")),
    ("aliases", if aliases.isVoid then .list [] else aliases)]

/-- A type is new under the name that a call gives: the one that the call defines. Nothing else that
shows has changed. -/
def RegistersType (arguments : Arguments) (before after : Contents) : Prop :=
  ∃ definition, TypeDefinition.ofDocument (typeData arguments) = .ok definition ∧
    argument arguments "name" .null = .text definition.name ∧
    Table.OneNew definition.name
      ⟨definition.name, definition.fragment, some definition.asConversion⟩
      before.types.types after.types.types ∧
    after.types.version = before.types.version + 1 ∧
    after.commands = before.commands ∧ after.paths = before.paths

/-- A command is new under the name that a call gives: the one that the call defines, which comes from no
file. Nothing else that shows has changed. -/
def AddsCommand (arguments : Arguments) (before after : Contents) : Prop :=
  ∃ command, Command.ofDocument (commandData arguments) = .ok command ∧
    argument arguments "name" .null = .text command.name ∧
    Table.OneNew command.name command before.commands after.commands ∧
    (∀ name, after.paths.get? name = if name = command.name then none else before.paths.get? name) ∧
    after.types = before.types

/-- The effect of a successful call on what shows. -/
def Effect (tool : Tool) (arguments : Arguments) (before after : Contents) : Prop :=
  match tool with
  | .registerType => RegistersType arguments before after
  | .addCommand => AddsCommand arguments before after
  | _ => after = before

section Registrations

variable {arguments : Arguments} {α β : Type}

/-- A tool checks its data, registers what the data defines, and then only reports. -/
theorem contained_registration {effect : Contents → Contents → Prop} {checked : Except Fault α}
    {registered : α → Session β} {fields : α → β → List (String × Document)}
    (alters : ∀ definition, checked = .ok definition → Alters effect (registered definition))
    (apart : ∀ definition result, "status" ∉ (fields definition result).map (·.1)) :
    Contained effect (do
      let definition ← Action.ofExcept checked
      let result ← registered definition
      return success (fields definition result)) := by
  intro noted
  cases checked with
  | error fault =>
    rw [Action.bind_of_error (Action.ofExcept_apply _ _)]
    exact .refl noted.state
  | ok definition =>
    rw [Action.bind_of_ok (Action.ofExcept_apply _ _)]
    have ended := alters definition rfl noted
    cases ran : registered definition noted with
    | mk outcome next =>
      rw [ran] at ended
      cases outcome with
      | error fault =>
        rw [Action.bind_of_error ran]
        exact ended
      | ok result =>
        rw [Action.bind_of_ok ran]
        exact .inl ⟨status_success (apart definition result), ended⟩

/-- Registering a type is contained: it fails without effect, or one type is new. -/
theorem contained_runRegisterType : Contained (RegistersType arguments) (runRegisterType arguments) := by
  have defined : runRegisterType arguments = (do
      let definition ← Action.ofExcept (TypeDefinition.ofDocument (typeData arguments))
      let type ← onTypes definition.register
      return success [("message", .text ("Registered type map '" ++ type.name ++ "'.")),
        ("type", typeDescribed type)]) := rfl
  rw [defined]
  refine contained_registration (fun definition checked => ?_) (fun _ _ => by simp)
  refine (alters_type definition).imp fun before after changed => ?_
  subst changed
  have given := TypeDefinition.name_of_check (outcome_eq_ok.mp checked)
  exact ⟨definition, checked, Option.some.inj given, Table.oneNew_insert _ _ _, rfl, rfl, rfl⟩

/-- Adding a command is contained: it fails without effect, or one command is new. -/
theorem contained_runAddCommand : Contained (AddsCommand arguments) (runAddCommand arguments) := by
  have defined : runAddCommand arguments = (do
      let command ← Action.ofExcept (Command.ofDocument (commandData arguments))
      register command true
      return success [("message", .text ("Added command '" ++ command.name ++ "'."))]) := rfl
  rw [defined]
  refine contained_registration (fun command checked => ?_) (fun _ _ => by simp)
  refine (alters_command command).imp fun before after changed => ?_
  subst changed
  have given := (Command.field_name_of_check (outcome_eq_ok.mp checked)).1
  exact ⟨command, checked, Option.some.inj given, Table.oneNew_insert _ _ _,
    Table.get?_erase _ _, rfl⟩

end Registrations

/-! ## Calls -/

/-- Every tool is contained in its effect, whatever its arguments are. -/
theorem contained_perform (tool : Tool) (arguments : Arguments) :
    Contained (Effect tool arguments) (tool.perform arguments) := by
  cases tool with
  | compile => exact inquires_runCompile.contained
  | read => exact inquires_runRead.contained
  | explain => exact inquires_runExplain.contained
  | listTypes => exact inquires_runListTypes.contained
  | registerType => exact contained_runRegisterType
  | listCommands => exact inquires_runListCommands.contained
  | describeCommand => exact inquires_runDescribeCommand.contained
  | addCommand => exact contained_runAddCommand
  | dispatch => exact inquires_runDispatch.contained

/-- A call answers what its tool answers, or reports its fault, and leaves what the tool leaves. -/
theorem call_apply (tool : Tool) (arguments : Arguments) (noted : Noted Workspace) :
    ∃ later, tool.call arguments noted =
      (.ok (match (tool.perform arguments noted).1 with
        | .ok report => report
        | .error fault => failed fault.message),
        ⟨(tool.perform arguments noted).2.state, later⟩) := by
  rw [call, Action.bind_of_ok (Action.outcome_apply _ _)]
  cases (tool.perform arguments noted).1 with
  | ok report => exact ⟨_, rfl⟩
  | error fault =>
    dsimp only
    cases tool.expects fault <;> exact ⟨_, rfl⟩

end Tool

namespace Workspace

open Tool

/-- A tool with the arguments of a call. -/
structure Call where
  tool : Tool
  arguments : Arguments

/-- What a call answers. -/
def answerCall (workspace : Workspace) (call : Call) : Except Fault Document :=
  ((call.tool.call call.arguments).runFrom workspace).1

/-- A workspace after a call. -/
def afterCall (workspace : Workspace) (call : Call) : Workspace :=
  workspace.leftBy (call.tool.call call.arguments)

/-- A workspace after several calls. -/
def afterCalls (workspace : Workspace) (calls : List Call) : Workspace := calls.foldl afterCall workspace

/-- A call is answered with a success and has its effect, or it is answered with an error and has none. -/
theorem call_cases (workspace : Workspace) (call : Call) :
    ∃ report, workspace.answerCall call = .ok report ∧
      ((status? report = some "success" ∧
          Effect call.tool call.arguments workspace.contents (workspace.afterCall call).contents) ∨
        (status? report = some "error" ∧ Unchanged workspace (workspace.afterCall call))) := by
  obtain ⟨later, answered⟩ := call_apply call.tool call.arguments ⟨workspace, []⟩
  have ended := contained_perform call.tool call.arguments ⟨workspace, []⟩
  rw [answerCall, afterCall, leftBy, Action.runFrom, answered]
  refine ⟨_, rfl, ?_⟩
  cases ran : (call.tool.perform call.arguments ⟨workspace, []⟩).1 with
  | ok report =>
    rw [ran] at ended
    exact ended
  | error fault =>
    rw [ran] at ended
    exact .inr ⟨status_failed fault.message, ended⟩

/-- The status with which a call is answered. -/
def statusOf? (workspace : Workspace) (call : Call) : Option String :=
  (workspace.answerCall call).toOption.bind status?

/-- The status of a call is the one in its report. -/
theorem statusOf_eq {workspace : Workspace} {call : Call} {report : Document}
    (answered : workspace.answerCall call = .ok report) :
    workspace.statusOf? call = status? report := by
  rw [statusOf?, answered]
  rfl

/-- The calls of a run that are answered with a success. -/
def successes : Workspace → List Call → List Call
  | _, [] => []
  | workspace, call :: rest =>
    if workspace.statusOf? call = some "success" then call :: (workspace.afterCall call).successes rest
    else (workspace.afterCall call).successes rest

/-- Calls bring about contents when each of them has its effect on what the ones before have left. -/
inductive Contents.Brought : Contents → List Call → Contents → Prop
  | nothing (contents : Contents) : Brought contents [] contents
  | next {before between after : Contents} {call : Call} {rest : List Call}
    (effect : Effect call.tool call.arguments before between) (others : Brought between rest after) :
    Brought before (call :: rest) after

/-- What shows after a run was brought about by those of its calls alone that were answered with a
success. -/
theorem brought_afterCalls (workspace : Workspace) (calls : List Call) :
    workspace.contents.Brought (workspace.successes calls) (workspace.afterCalls calls).contents := by
  induction calls generalizing workspace with
  | nil => exact .nothing workspace.contents
  | cons call rest ih =>
    have others := ih (workspace.afterCall call)
    obtain ⟨report, answered, ⟨status, effect⟩ | ⟨status, unchanged⟩⟩ := workspace.call_cases call
    · rw [successes, if_pos ((statusOf_eq answered).trans status)]
      exact .next effect others
    · have failed : ¬workspace.statusOf? call = some "success" := by
        rw [statusOf_eq answered, status]
        decide
      rw [successes, if_neg failed, ← unchanged.contents_eq]
      exact others

/-- Failures are contained. Whatever a run of calls has made of a workspace, the next call is answered
with a report of a success or of an error. With an error, all types and commands that show are those of
before; and if the folders had been read, so are the tables themselves. With a success, the call has
only the effect of its tool: a tool that registers makes the one entry new that the call names, and any
other tool changes nothing. -/
theorem calls_contained (storage : Storage) (types : TypeTable) (library project : Option String)
    (calls : List Call) (call : Call) :
    let workspace := (fresh storage types library project).afterCalls calls
    let next := workspace.afterCall call
    ∃ report, workspace.answerCall call = .ok report ∧
      (status? report = some "success" ∨ status? report = some "error") ∧
      (status? report = some "error" →
        next.contents = workspace.contents ∧
          (workspace.commands.loaded = true → next.types = workspace.types ∧
            next.commands.commands = workspace.commands.commands ∧
            next.commands.paths = workspace.commands.paths)) ∧
      (status? report = some "success" →
        Effect call.tool call.arguments workspace.contents next.contents) := by
  intro workspace next
  obtain ⟨report, answered, ⟨status, effect⟩ | ⟨status, unchanged⟩⟩ := workspace.call_cases call
  · refine ⟨report, answered, .inl status, fun error => ?_, fun _ => effect⟩
    rw [status] at error
    exact absurd error (by decide)
  · refine ⟨report, answered, .inr status, fun _ => ⟨unchanged.contents_eq, fun loaded => ?_⟩,
      fun success => ?_⟩
    · have same := unchanged.contents_eq
      rw [contents_of_loaded loaded, contents_of_loaded (unchanged.loaded loaded)] at same
      exact Contents.mk.inj same
    · rw [status] at success
      exact absurd success (by decide)

/-- After a type was registered, a command whose group stays open is refused without a trace, and one
whose group is closed is added. -/
theorem calls_contained_port :
    let port : Call := ⟨.registerType, [("name", .text "Port"), ("pattern", .text "\\d+")]⟩
    let unclosed : Call :=
      ⟨.addCommand, [("name", .text "open"), ("expression", .text "open [:port@Port")]⟩
    let closed : Call :=
      ⟨.addCommand, [("name", .text "open"), ("expression", .text "open [:port@Port]")]⟩
    let workspace := (fresh .empty .numeric none none).afterCalls [port]
    (workspace.afterCall unclosed).contents = workspace.contents ∧
      AddsCommand closed.arguments workspace.contents (workspace.afterCall closed).contents := by
  intro port unclosed closed workspace
  have refused : workspace.statusOf? unclosed = some "error" := by decide +kernel
  have taken : workspace.statusOf? closed = some "success" := by decide +kernel
  obtain ⟨report, answered, -, unchanged, -⟩ :=
    calls_contained .empty .numeric none none [port] unclosed
  obtain ⟨answer, replied, -, -, added⟩ := calls_contained .empty .numeric none none [port] closed
  exact ⟨(unchanged ((statusOf_eq answered).symm.trans refused)).1,
    added ((statusOf_eq replied).symm.trans taken)⟩

end Workspace

end LineGrammar
