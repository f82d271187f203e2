import LineGrammar.Definition.Command
import LineGrammar.Definition.Type
import LineGrammar.Proofs.Tokens
import Mathlib.Data.List.Forall2

/-!
# Definitions of commands and types as data

A check succeeds when each of its parts does. So the commands and types that a check admits have the names
that the data gives them, and a set of commands that have names is admitted again as it is described:
writing commands down and checking what was written gives the commands back.
-/

namespace LineGrammar

open LineGrammar.Definition

namespace Definition.Checked

variable {α β : Type}

/-- A function is applied to an argument when both are admitted. -/
theorem apply_eq_ok {function : Checked (α → β)} {argument : Checked α} {result : β} :
    apply function argument = .ok result ↔
      ∃ f a, function = .ok f ∧ argument = .ok a ∧ result = f a := by
  cases function with
  | error failure =>
    cases failure <;> cases argument with
    | error other => cases other <;> simp [apply]
    | ok a => simp [apply]
  | ok f =>
    cases argument with
    | error failure => cases failure <;> simp [apply]
    | ok a => simp [apply, eq_comm]

/-- An admitted function is applied to an admitted argument. -/
theorem apply_ok {function : Checked (α → β)} {argument : Checked α} {f : α → β} {a : α}
    (one : function = .ok f) (other : argument = .ok a) : apply function argument = .ok (f a) :=
  apply_eq_ok.mpr ⟨f, a, one, other, rfl⟩

/-- The place of a check does not matter to what it admits. -/
theorem inside_eq_ok {step : Step} {checked : Checked α} {result : α} :
    inside step checked = .ok result ↔ checked = .ok result := by
  cases checked with
  | error failure => cases failure <;> simp [inside]
  | ok a => simp [inside]

/-- The outcome of a check is what it admits. -/
theorem outcome_eq_ok {kind : String} {checked : Checked α} {result : α} :
    outcome kind checked = .ok result ↔ checked = .ok result := by
  cases checked with
  | error failure => cases failure <;> simp [outcome]
  | ok a => simp [outcome]

/-- A list is admitted when each of its elements is. -/
theorem elementsFrom_eq_ok {check : Document → Checked α} {elements : List Document}
    {results : List α} {position : Nat} :
    elementsFrom check position elements = .ok results ↔
      List.Forall₂ (fun element result => check element = .ok result) elements results := by
  induction elements generalizing results position with
  | nil => simp [elementsFrom, eq_comm]
  | cons element rest ih =>
    simp only [elementsFrom, apply_eq_ok, sound, inside_eq_ok, ih, List.forall₂_cons_left_iff]
    constructor
    · rintro ⟨_, others, ⟨_, first, same, here, rfl⟩, admitted, rfl⟩
      cases same
      exact ⟨first, others, here, admitted, rfl⟩
    · rintro ⟨first, others, here, admitted, rfl⟩
      exact ⟨_, others, ⟨_, first, rfl, here, rfl⟩, admitted, rfl⟩

end Definition.Checked

open Definition.Checked

/-- What is read as a list of texts gives the texts back. -/
theorem listOf_texts (words : List String) : listOf text (.list (words.map .text)) = .ok words :=
  elementsFrom_eq_ok.mpr (by simp [List.forall₂_map_left_iff, text, List.forall₂_same])

/-- A required field is admitted when it is there and its value is. -/
theorem required_eq_ok {α : Type} {name : String} {check : Document → Checked α}
    {fields : List (String × Document)} {result : α} :
    required name check fields = .ok result ↔
      ∃ data, Document.field? name fields = some data ∧ check data = .ok result := by
  simp only [required, field]
  cases Document.field? name fields with
  | none => simp [Checked.refuse, inside]
  | some data => simp [inside_eq_ok]

/-- A field that is there is checked, whether it may be left out or not. -/
theorem optional_eq_ok {α : Type} {name : String} {absent : α} {check : Document → Checked α}
    {fields : List (String × Document)} {data : Document} {result : α}
    (given : Document.field? name fields = some data) :
    optional name absent check fields = .ok result ↔ check data = .ok result := by
  simp only [Definition.optional, field, given, inside_eq_ok]

/-- A field is checked under the first of its names that is there. -/
theorem field_ok {α : Type} {name : String} {others : List String} {absent : Checked α}
    {check : Document → Checked α} {fields : List (String × Document)} {data : Document} {result : α}
    (found : Document.field? name fields = some data) (admitted : check data = .ok result) :
    field (name :: others) absent check fields = .ok result := by
  simp only [field, found]
  exact inside_eq_ok.mpr admitted

/-- Each element of a list that is admitted, or left out, was admitted itself. -/
theorem exists_of_mem_listOf {α : Type} {name : String} {check : Document → Checked α}
    {fields : List (String × Document)} {results : List α}
    (listed : Definition.optional name [] (listOf check) fields = .ok results) :
    ∀ result ∈ results, ∃ data, check data = .ok result := by
  simp only [Definition.optional, Definition.field] at listed
  split at listed
  · rename_i data found
    rw [inside_eq_ok] at listed
    cases data with
    | list elements =>
      intro result inside
      obtain ⟨place, there, rfl⟩ := List.mem_iff_getElem.mp inside
      obtain ⟨same, each⟩ := List.forall₂_iff_get.mp (elementsFrom_eq_ok.mp listed)
      exact ⟨_, each place (same ▸ there) there⟩
    | _ => cases listed
  · cases listed
    simp

/-- A text is admitted when it is not empty. -/
theorem nonEmptyText_eq_ok {data : Document} {content : String} :
    nonEmptyText data = .ok content ↔ data = .text content ∧ content ≠ "" := by
  cases data with
  | text given =>
    simp only [nonEmptyText, String.isEmpty_iff, Document.text.injEq]
    split
    · rename_i empty
      simp only [Checked.refuse, reduceCtorEq, false_iff, not_and, not_not]
      exact fun same => same.symm.trans empty
    · rename_i filled
      simp only [Except.ok.injEq, iff_self_and]
      exact fun same => same ▸ filled
  | _ => simp [nonEmptyText, Checked.refuse]

namespace Command

/-- A command that is admitted has the name that the data gives it. -/
theorem field_name_of_check {fields : List (String × Document)} {command : Command}
    (admitted : check (.record fields) = .ok command) :
    Document.field? "name" fields = some (.text command.name) ∧ command.name ≠ "" := by
  simp only [check, record, ofFields, apply_eq_ok, required_eq_ok] at admitted
  obtain ⟨_, _, ⟨_, _, ⟨_, _, ⟨_, _, ⟨_, name, made, ⟨data, given, named⟩, rfl⟩, _, rfl⟩, _, rfl⟩, _,
    rfl⟩, _, rfl⟩ := admitted
  cases made
  obtain ⟨rfl, filled⟩ := nonEmptyText_eq_ok.mp named
  exact ⟨given, filled⟩

/-- A command that is admitted has a name. -/
theorem name_of_check {data : Document} {command : Command} (admitted : check data = .ok command) :
    command.name ≠ "" := by
  cases data with
  | record fields => exact (field_name_of_check admitted).2
  | _ => cases admitted

/-- A command with a name is admitted as it is described. -/
theorem check_described {command : Command} (named : command.name ≠ "") :
    check command.described = .ok command := by
  have filled : nonEmptyText (.text command.name) = .ok command.name := by
    simp [nonEmptyText, named]
  exact apply_ok (apply_ok (apply_ok (apply_ok (apply_ok rfl (field_ok (by rfl) filled))
    (field_ok (by rfl) (by rfl))) (field_ok (by rfl) (by rfl)))
    (field_ok (by rfl) (listOf_texts _))) (field_ok (by rfl) (listOf_texts _))

end Command

namespace CommandSet

/-- All commands of a set that is admitted have names. -/
theorem names_of_ofDocument {data : Document} {set : CommandSet}
    (admitted : ofDocument data = .ok set) : ∀ command ∈ set.commands, command.name ≠ "" := by
  simp only [ofDocument, outcome_eq_ok] at admitted
  cases data with
  | record fields =>
    simp only [record, ofFields, apply_eq_ok] at admitted
    obtain ⟨_, commands, ⟨_, _, ⟨_, _, ⟨_, _, made, _, rfl⟩, _, rfl⟩, _, rfl⟩, listed, rfl⟩ :=
      admitted
    cases made
    intro command inside
    obtain ⟨data, checked⟩ := exists_of_mem_listOf listed command inside
    exact Command.name_of_check checked
  | _ => cases admitted

/-- A set of commands with names is admitted as it is described. -/
theorem ofDocument_described {set : CommandSet} (named : ∀ command ∈ set.commands, command.name ≠ "") :
    ofDocument (set.described "schema") = .ok set := by
  have commands : listOf Command.check (.list (set.commands.map Command.described)) =
      .ok set.commands := by
    refine elementsFrom_eq_ok.mpr ?_
    rw [List.forall₂_map_left_iff, List.forall₂_same]
    exact fun command listed => Command.check_described (named command listed)
  rw [ofDocument, outcome_eq_ok]
  exact apply_ok (apply_ok (apply_ok (apply_ok rfl (field_ok (by rfl) (by rfl)))
    (field_ok (by rfl) (by rfl))) (field_ok (by rfl) (by rfl))) (field_ok (by rfl) commands)

end CommandSet

namespace TypeDefinition

/-- The rules for a definition as a whole change nothing of it. -/
theorem admitted_eq_ok {definition other : TypeDefinition} (ruled : definition.admitted = .ok other) :
    other = definition := by
  unfold admitted at ruled
  split at ruled
  · cases ruled
  · split at ruled
    · cases ruled
    · exact (Except.ok.inj ruled).symm

/-- What a definition takes from the fields of its data. -/
structure Takes (definition : TypeDefinition) (fields : List (String × Document)) : Prop where
  name : required "name" nonEmptyText fields = .ok definition.name
  pattern : Definition.optional "pattern" none (orNull (fragmentOf (some definition.name))) fields =
    .ok definition.pattern
  conversion : Definition.optional "convert" .text conversionOf fields = .ok definition.conversion
  description : Definition.optional "description" "" text fields = .ok definition.description
  minimum : Definition.optional "minimum" none (orNull number) fields = .ok definition.minimum
  maximum : Definition.optional "maximum" none (orNull number) fields = .ok definition.maximum
  choices : Definition.optional "choices" none (orNull (listOf text)) fields = .ok definition.choices
  quoted : Definition.optional "quoted" true truth fields = .ok definition.quoted

/-- A type that is admitted takes each of its parts from a field of its own. -/
theorem takes_of_check {fields : List (String × Document)} {definition : TypeDefinition}
    (admitted : check (.record fields) = .ok definition) : definition.Takes fields := by
  simp only [check, record, ofFields] at admitted
  obtain ⟨checked, made, ruled⟩ := Except.bind_eq_ok.mp admitted
  obtain rfl := admitted_eq_ok ruled
  simp only [apply_eq_ok] at made
  obtain ⟨_, _, ⟨_, _, ⟨_, _, ⟨_, _, ⟨_, _, ⟨_, _, ⟨_, _, ⟨_, name, start, named, rfl⟩, pattern, rfl⟩,
    conversion, rfl⟩, description, rfl⟩, minimum, rfl⟩, maximum, rfl⟩, choices, rfl⟩, quoted, rfl⟩ := made
  cases start
  rw [named] at pattern
  exact ⟨named, pattern, conversion, description, minimum, maximum, choices, quoted⟩

/-- A type that is admitted has the name that the data gives it. -/
theorem name_of_check {fields : List (String × Document)} {definition : TypeDefinition}
    (admitted : check (.record fields) = .ok definition) :
    Document.field? "name" fields = some (.text definition.name) := by
  obtain ⟨data, given, named⟩ := required_eq_ok.mp (takes_of_check admitted).name
  rw [given, (nonEmptyText_eq_ok.mp named).1]

end TypeDefinition

end LineGrammar
