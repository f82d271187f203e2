import LineGrammar.Proofs.ChoiceLists
import LineGrammar.Proofs.QuotedTypes
import LineGrammar.Proofs.Standing
import LineGrammar.Proofs.TypeRegistration

/-!
# Files of types

A file of types is read and checked as a whole before its first type is registered, so a file that cannot
be read or checked changes nothing. Behind that, the types are registered one after the other, each with
the fragment of its definition.

The check of a definition asks of its pattern what a registration asks, that it can stand between two
parentheses. What is registered may be another text, though: a pattern whose values may stand in quotes is
written three times over. If the pattern stands alone, this is a fragment again. A pattern that closes the
parenthesis before it is none on its own, and then the registration may refuse what the check has let pass,
when the types before it in the file have been registered.
-/

namespace LineGrammar

open LineGrammar.Text LineGrammar.Pattern

/-! ## Fragments in quotes -/

namespace Pattern

/-- A fragment that stands alone does so with quotes around it as well. -/
theorem Standalone.quotedVariants {text : String} (standalone : Standalone text) :
    Standalone (Fragment.quotedVariants text) := by
  obtain ⟨own, alone, groups, switches⟩ := standalone
  obtain ⟨bare, stands, -⟩ := Stands.of_read alone groups switches
  have between {quote : Char} (is : Fragment.isQuote quote = true) :
      ∃ level, Stands .none [] ([quote] ++ text.toList ++ [quote]) level := by
    have written : (String.ofList ([quote] ++ text.toList ++ [quote])).toList =
        [quote] ++ text.toList ++ [quote] := String.toList_ofList ..
    obtain ⟨whole, read, counted, turned⟩ :=
      stands.between (spells_quote is) (spells_quote is) (bounded_quote is) written
    obtain ⟨level, quoted, -⟩ := Stands.of_read read counted turned
    exact ⟨level, written ▸ quoted⟩
  obtain ⟨double, inDouble⟩ := between (show Fragment.isQuote doubleQuote = true by decide)
  obtain ⟨single, inSingle⟩ := between (show Fragment.isQuote apostrophe = true by decide)
  have variants := (stands.bordered.orElse (inDouble.bordered.orElse inSingle.enclosed)).group Opens.plain
  exact of_spells ⟨_, by simpa [Fragment.quotedVariants, doubleQuote, apostrophe] using variants.spells⟩

end Pattern

/-! ## What is admitted -/

namespace TypeDefinition

variable {definition : TypeDefinition}

/-- What a definition has when it is admitted: a pattern that can stand between two parentheses and
captures nothing, or else choices. -/
structure Admissible (definition : TypeDefinition) : Prop where
  pattern : ∀ pattern, definition.pattern = some pattern → Fragment.embeddedGroups pattern = .ok 0
  choices : definition.pattern = none → ∃ choices, definition.choices = some choices ∧ choices ≠ []

/-- The fragment that data ask for can stand in a pattern, and adds no group to it. -/
theorem embeddedGroups_of_fragmentOf {name : Option String} {data : Document} {fragment : String}
    (admitted : fragmentOf name data = .ok fragment) : Fragment.embeddedGroups fragment = .ok 0 := by
  unfold fragmentOf at admitted
  split at admitted
  · split at admitted
    · rename_i embedded
      cases admitted
      exact embedded
    · cases admitted
    · cases admitted
    · cases admitted
    · cases admitted
  · cases admitted

/-- A definition without a pattern has choices. -/
theorem choices_of_admitted {other : TypeDefinition} (ruled : definition.admitted = .ok other)
    (bare : definition.pattern = none) : ∃ choices, definition.choices = some choices ∧ choices ≠ [] := by
  have some : definition.effectiveChoices.isNone = false := by
    cases missing : definition.effectiveChoices.isNone with
    | false => rfl
    | true =>
      rw [admitted, bare, missing] at ruled
      cases ruled
  unfold effectiveChoices at some
  split at some
  · rename_i first rest declared
    exact ⟨first :: rest, declared, by simp⟩
  · cases some

/-- What the check of a definition admits. -/
theorem admissible_of_check {data : Document} (admitted : check data = .ok definition) :
    definition.Admissible := by
  cases data with
  | record fields =>
    refine ⟨fun pattern isPattern => ?_, fun bare => ?_⟩
    · have taken := (takes_of_check admitted).pattern
      rw [isPattern] at taken
      cases given : Document.field? "pattern" fields with
      | none =>
        simp only [Definition.optional, Definition.field, given] at taken
        cases taken
      | some data =>
        rw [optional_eq_ok given] at taken
        unfold Definition.orNull at taken
        split at taken
        · cases taken
        · obtain ⟨fragment, read, same⟩ := Except.map_eq_ok.mp taken
          cases same
          exact embeddedGroups_of_fragmentOf read
    · obtain ⟨checked, -, ruled⟩ := Except.bind_eq_ok.mp admitted
      obtain rfl := admitted_eq_ok ruled
      exact choices_of_admitted ruled bare
  | _ => cases admitted

/-- The fragment of an admissible definition can be registered, unless it is a pattern in quotes that does
not stand alone. -/
theorem Admissible.accepted (admissible : definition.Admissible) :
    TypeTable.obstacle? definition.name definition.fragment = none ∨
      definition.quoted = true ∧ ∃ pattern, definition.pattern = some pattern ∧ ¬ Standalone pattern := by
  have alone : Standalone definition.fragment →
      TypeTable.obstacle? definition.name definition.fragment = none := by
    rintro ⟨own, read, groups, switches⟩
    exact TypeTable.accepts_alone _ read groups switches
  cases isPattern : definition.pattern with
  | none =>
    obtain ⟨choices, isChoices, nonempty⟩ := admissible.choices isPattern
    exact .inl (alone (.of_isUnit (isUnit_choices isPattern isChoices nonempty)))
  | some pattern =>
    cases quoted : definition.quoted with
    | false =>
      have same : definition.fragment = pattern := by simp [fragment, isPattern, quoted]
      left
      simp [same, TypeTable.obstacle?, admissible.pattern pattern isPattern]
    | true =>
      by_cases standalone : Standalone pattern
      · left
        apply alone
        have same : definition.fragment = Fragment.quotedVariants pattern := by
          simp [fragment, isPattern, quoted]
        exact same ▸ standalone.quotedVariants
      · exact .inr ⟨rfl, pattern, rfl, standalone⟩

end TypeDefinition

/-- All definitions of a set that is admitted are admissible. -/
theorem TypeSet.admissible_of_ofDocument {data : Document} {set : TypeSet}
    (admitted : ofDocument data = .ok set) : ∀ definition ∈ set.definitions, definition.Admissible := by
  simp only [ofDocument, Definition.Checked.outcome_eq_ok] at admitted
  cases data with
  | record fields =>
    simp only [Definition.record, ofFields, Definition.Checked.apply_eq_ok] at admitted
    obtain ⟨_, definitions, ⟨_, _, made, _, rfl⟩, listed, rfl⟩ := admitted
    cases made
    intro definition inside
    obtain ⟨data, checked⟩ := exists_of_mem_listOf listed definition inside
    exact TypeDefinition.admissible_of_check checked
  | _ => cases admitted

/-! ## Registering one after the other -/

/-- A table of types with a definition put in. -/
def TypeTable.defined (types : TypeTable) (definition : TypeDefinition) : TypeTable :=
  ⟨types.types.insert definition.name
    ⟨definition.name, definition.fragment, some definition.asConversion⟩, types.version + 1⟩

namespace Workspace

/-- A workspace with definitions of types put in, in order. -/
def defining (workspace : Workspace) (definitions : List TypeDefinition) : Workspace :=
  { workspace with types := definitions.foldl TypeTable.defined workspace.types }

/-- A definition whose fragment can be registered is put in. -/
theorem defineNamed_accepted {definition : TypeDefinition}
    (accepted : TypeTable.obstacle? definition.name definition.fragment = none)
    (noted : Noted Workspace) :
    ∃ later, defineNamed definition noted =
      (.ok definition.name, ⟨noted.state.defining [definition], later⟩) := by
  obtain ⟨later, registered⟩ := TypeTable.registerNoted_apply noted.state.types definition.name
    definition.fragment (some definition.asConversion) noted.notices
  rw [TypeTable.register, accepted] at registered
  have put : onTypes definition.register noted =
      (.ok ⟨definition.name, definition.fragment, some definition.asConversion⟩,
        ⟨noted.state.defining [definition], later⟩) := by
    rw [onTypes, Action.within_apply, TypeDefinition.register, registered]
    rfl
  exact ⟨later, Action.bind_of_ok put⟩

/-- Any other one is refused, and leaves nothing behind. -/
theorem defineNamed_refused {definition : TypeDefinition} {fault : Fault}
    (obstacle : TypeTable.obstacle? definition.name definition.fragment = some fault)
    (noted : Noted Workspace) : defineNamed definition noted = (.error fault, noted) := by
  refine Action.bind_of_error ?_
  rw [onTypes, Action.within_apply, TypeDefinition.register,
    TypeTable.registerNoted_of_obstacle obstacle]

/-- Definitions are put in up to the first one that is refused, and all of them if there is none. -/
theorem mapM_defineNamed (definitions : List TypeDefinition) (noted : Noted Workspace) :
    (∃ later, definitions.mapM defineNamed noted =
        (.ok (definitions.map (·.name)), ⟨noted.state.defining definitions, later⟩)) ∨
      ∃ front definition back fault later, definitions = front ++ definition :: back ∧
        TypeTable.obstacle? definition.name definition.fragment = some fault ∧
        definitions.mapM defineNamed noted = (.error fault, ⟨noted.state.defining front, later⟩) := by
  induction definitions generalizing noted with
  | nil => exact .inl ⟨noted.notices, rfl⟩
  | cons first rest ih =>
    rw [List.mapM_cons]
    cases obstacle : TypeTable.obstacle? first.name first.fragment with
    | some fault =>
      have here := defineNamed_refused obstacle noted
      exact .inr ⟨[], first, rest, fault, noted.notices, rfl, obstacle, Action.bind_of_error here⟩
    | none =>
      obtain ⟨middle, here⟩ := defineNamed_accepted obstacle noted
      rw [Action.bind_of_ok here]
      rcases ih ⟨noted.state.defining [first], middle⟩ with
        ⟨later, all⟩ | ⟨front, definition, back, fault, later, rfl, refused, some⟩
      · rw [Action.bind_of_ok all]
        exact .inl ⟨later, rfl⟩
      · rw [Action.bind_of_error some]
        exact .inr ⟨first :: front, definition, back, fault, later, rfl, refused, rfl⟩

end Workspace

/-! ## Files -/

/-- The set of types in the file under a path; a file that holds nothing counts as one without fields. -/
def Storage.typeSet (storage : Storage) (path : String) : Except Fault TypeSet := do
  let data ← storage.document path
  TypeSet.ofDocument (if data.isVoid then .record [] else data)

namespace Workspace

variable {path : String} {noted : Noted Workspace}

/-- A file that cannot be read or checked changes nothing. -/
theorem loadTypeFile_unread {fault : Fault}
    (unread : noted.state.storage.typeSet path = .error fault) :
    loadTypeFile path noted = (.error fault, noted) := by
  have data := definitionData_apply path noted
  rcases Except.bind_eq_error.mp unread with missing | ⟨document, found, refused⟩
  · rw [missing] at data
    exact Action.bind_of_error data
  · rw [found] at data
    refine (Action.bind_of_ok data).trans (Action.bind_of_error ?_)
    rw [Action.ofExcept_apply, refused]

/-- A file that is read and checked has its definitions registered one after the other. -/
theorem loadTypeFile_read {set : TypeSet} (read : noted.state.storage.typeSet path = .ok set) :
    loadTypeFile path noted = (set.definitions.mapM defineNamed >>= fun names => do
      Action.note .debug (loadedTypes names.length path)
      return names) noted := by
  have data := definitionData_apply path noted
  obtain ⟨document, found, checked⟩ := Except.bind_eq_ok.mp read
  rw [found] at data
  refine (Action.bind_of_ok data).trans (Action.bind_of_ok ?_)
  rw [Action.ofExcept_apply, checked]

/-- Every definition in a file that is read and checked is admissible. -/
theorem admissible_of_typeSet {set : TypeSet} (read : noted.state.storage.typeSet path = .ok set) :
    ∀ definition ∈ set.definitions, definition.Admissible := by
  obtain ⟨document, -, checked⟩ := Except.bind_eq_ok.mp read
  exact TypeSet.admissible_of_ofDocument checked

/-- A file of types that cannot be read or checked changes nothing. With any other one, either all of its
definitions are put in, in order, and their names are answered, or those before one that is refused: this
one has a pattern in quotes that does not stand alone. -/
theorem loadTypeFile_settles (path : String) (noted : Noted Workspace) :
    (∃ fault, noted.state.storage.typeSet path = .error fault ∧
        loadTypeFile path noted = (.error fault, noted)) ∨
      ∃ set, noted.state.storage.typeSet path = .ok set ∧
        ((∃ later, loadTypeFile path noted =
            (.ok (set.definitions.map (·.name)), ⟨noted.state.defining set.definitions, later⟩)) ∨
          ∃ front definition back fault later, set.definitions = front ++ definition :: back ∧
            loadTypeFile path noted = (.error fault, ⟨noted.state.defining front, later⟩) ∧
            definition.quoted = true ∧
            ∃ pattern, definition.pattern = some pattern ∧ ¬ Standalone pattern) := by
  cases read : noted.state.storage.typeSet path with
  | error fault => exact .inl ⟨fault, rfl, loadTypeFile_unread read⟩
  | ok set =>
    refine .inr ⟨set, rfl, ?_⟩
    rw [loadTypeFile_read read]
    rcases mapM_defineNamed set.definitions noted with
      ⟨later, all⟩ | ⟨front, definition, back, fault, later, split, refused, some⟩
    · rw [Action.bind_of_ok all]
      exact .inl ⟨_, rfl⟩
    · have admissible := admissible_of_typeSet read definition (by simp [split])
      have pattern := admissible.accepted.resolve_left (by simp [refused])
      exact .inr ⟨front, definition, back, fault, later, split, Action.bind_of_error some, pattern⟩

/-- A definition by a pattern alone. -/
def patternType (name pattern : String) : TypeDefinition :=
  ⟨name, some pattern, .text, "", none, none, none, true⟩

/-- A workspace on one file, with two types. The pattern of the second one is none on its own. -/
def partialWorkspace : Workspace :=
  fresh ⟨[[]], [(["t.yaml"], .document (typeFile [patternType "A" "a", patternType "T" ")(?<="]))]⟩
    .numeric none none

/-- Both definitions of the file are admitted, but only the first one can be registered: the file fails to
load, and a type of it has been put in. -/
theorem loadTypeFile_part : ∃ set fault later,
    partialWorkspace.storage.typeSet "t.yaml" = .ok set ∧
      loadTypeFile "t.yaml" ⟨partialWorkspace, []⟩ = (.error fault, later) ∧
      partialWorkspace.types.contains "A" = false ∧ later.state.types.contains "A" = true := by
  have admitted : (partialWorkspace.storage.typeSet "t.yaml").toOption.map (·.definitions) =
      some [patternType "A" "a", patternType "T" ")(?<="] := by
    decide +kernel
  obtain ⟨set, found, definitions⟩ := Option.map_eq_some_iff.mp admitted
  have read := Except.eq_ok_of_toOption found
  have accepted : TypeTable.obstacle? "A" (patternType "A" "a").fragment = none := by decide +kernel
  obtain ⟨fault, obstacle⟩ : ∃ fault,
      TypeTable.obstacle? "T" (patternType "T" ")(?<=").fragment = some fault :=
    Option.isSome_iff_exists.mp (by decide +kernel)
  obtain ⟨later, first⟩ := @defineNamed_accepted (patternType "A" "a") accepted ⟨partialWorkspace, []⟩
  have second := @defineNamed_refused (patternType "T" ")(?<=") fault obstacle
    ⟨partialWorkspace.defining [patternType "A" "a"], later⟩
  have opened := @loadTypeFile_read "t.yaml" ⟨partialWorkspace, []⟩ set read
  have put : (partialWorkspace.defining [patternType "A" "a"]).types.contains "A" = true := by decide
  refine ⟨set, fault, ⟨partialWorkspace.defining [patternType "A" "a"], later⟩, read, ?_, by decide, put⟩
  rw [opened, definitions, List.mapM_cons]
  refine Action.bind_of_error ((Action.bind_of_ok first).trans (Action.bind_of_error ?_))
  rw [List.mapM_cons]
  exact Action.bind_of_error second

end Workspace

end LineGrammar
