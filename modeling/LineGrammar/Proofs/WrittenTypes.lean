import LineGrammar.Proofs.Sessions
import LineGrammar.Proofs.TypeFiles

/-!
# Types that are written down

A definition is written without the fields that say nothing. A check gives to a field that is missing the
value that the field had, and to any other field the value that stands there, so a definition that was
admitted once is admitted again as it was written. With the rules for the whole it is the same: they see the
same definition as before.

So a file of types is read as it was written. To load it is to register its definitions one after the other,
up to the first one that is refused if there is one.
-/

namespace LineGrammar

open LineGrammar.Definition LineGrammar.Definition.Checked

/-! ## Fields that are left out -/

/-- The fields that are kept, as data. -/
def keptFields (fields : List (String × Document × Bool)) : List (String × Document) :=
  (fields.filter (·.2.2)).map fun field => (field.1, field.2.1)

/-- The fields that are kept are those that are marked so. -/
theorem mem_keptFields {fields : List (String × Document × Bool)} {name : String} {data : Document} :
    (name, data) ∈ keptFields fields ↔ (name, data, true) ∈ fields := by
  simp [keptFields]

/-- Of fields with different names, one is found exactly when it is kept. -/
theorem field?_keptFields {fields : List (String × Document × Bool)} {name : String} {data : Document}
    {kept : Bool} (distinct : (fields.map (·.1)).Nodup) (listed : (name, data, kept) ∈ fields) :
    Document.field? name (keptFields fields) = if kept then some data else none := by
  have single : ∀ own, (name, own, true) ∈ fields → (own, true) = (data, kept) := fun own there =>
    congrArg Prod.snd (List.inj_on_of_nodup_map distinct there listed rfl)
  cases found : Document.field? name (keptFields fields) with
  | some own =>
    obtain ⟨before, after, split, -⟩ := List.lookup_eq_some_iff.mp found
    have there : (name, own) ∈ keptFields fields := List.mem_reverse.mp (by simp [split])
    cases single own (mem_keptFields.mp there)
    rfl
  | none =>
    cases kept with
    | false => rfl
    | true =>
      have there : (name, data) ∈ (keptFields fields).reverse :=
        List.mem_reverse.mpr (mem_keptFields.mpr listed)
      have apart := List.lookup_eq_none_iff.mp found _ there
      simp at apart

/-- A field is read back if its data gives its value, and if without it the same value holds. -/
theorem optional_keptFields {α : Type} {fields : List (String × Document × Bool)} {name : String}
    {absent value : α} {check : Document → Checked α} {data : Document} {kept : Bool}
    (distinct : (fields.map (·.1)).Nodup) (listed : (name, data, kept) ∈ fields)
    (given : kept = true → check data = .ok value) (missing : kept = false → absent = value) :
    Definition.optional name absent check (keptFields fields) = .ok value := by
  have found := field?_keptFields distinct listed
  cases kept with
  | true => exact (optional_eq_ok found).mpr (given rfl)
  | false => simp [Definition.optional, Definition.field, found, missing rfl]

namespace TypeDefinition

variable {definition : TypeDefinition}

/-- A definition is valid when a check has made it of some data. -/
def Valid (definition : TypeDefinition) : Prop := ∃ data, check data = .ok definition

/-- The fields of a definition as data. -/
def entries (definition : TypeDefinition) : List (String × Document) :=
  definition.fields.map fun field => (field.1, field.2.1)

/-- The definition of a name that says nothing about it. -/
def bare (name : String) : TypeDefinition := ⟨name, none, .text, "", none, none, none, true⟩

/-- A definition in brief is a record of the fields that are kept. -/
theorem briefly_eq : definition.briefly = .record (keptFields definition.fields) := rfl

/-- No field of a definition stands twice. -/
theorem fields_distinct : (definition.fields.map (·.1)).Nodup := by
  have names : definition.fields.map (·.1) =
      ["name", "pattern", "convert", "description", "minimum", "maximum", "choices", "quoted"] := rfl
  rw [names]
  decide

/-- Each conversion has a word of its own. -/
theorem word_injective : Function.Injective ConversionKind.word := by
  intro one next
  cases one <;> cases next <;> decide

/-- A pattern that is not there is described by nothing. -/
theorem patternDescribed_eq_null {pattern : Option String} :
    patternDescribed pattern = .null ↔ pattern = none := by
  cases pattern <;> simp [patternDescribed]

/-- A bound that is not there is described by nothing. -/
theorem boundDescribed_eq_null {bound : Option Numeral.Binary64} :
    boundDescribed bound = .null ↔ bound = none := by
  cases bound <;> simp [boundDescribed]

/-- Choices that are not there are described by nothing. -/
theorem choicesDescribed_eq_null {choices : Option (List String)} :
    choicesDescribed choices = .null ↔ choices = none := by
  cases choices <;> simp [choicesDescribed]

/-- A field is kept when it is the name, or when it says something that would not hold without it. -/
theorem kept_iff : ∀ field ∈ definition.fields, field.2.2 = true ↔
    field.1 = "name" ∨ (field.1, field.2.1) ∉ (bare definition.name).entries := by
  have word : definition.conversion.word = "str" ↔ definition.conversion = .text :=
    word_injective.eq_iff (b := .text)
  simp [fields, entries, bare, patternDescribed_eq_null, boundDescribed_eq_null, choicesDescribed_eq_null,
    word, show patternDescribed none = .null from rfl, show boundDescribed none = .null from rfl,
    show choicesDescribed none = .null from rfl, show ConversionKind.text.word = "str" from rfl,
    Option.isSome_iff_ne_none]

/-- What is written of a definition: its name, and the fields that differ from those of a bare name. -/
theorem mem_keptFields_fields {field : String × Document} : field ∈ keptFields definition.fields ↔
    field ∈ definition.entries ∧ (field.1 = "name" ∨ field ∉ (bare definition.name).entries) := by
  obtain ⟨name, data⟩ := field
  rw [mem_keptFields]
  constructor
  · intro listed
    exact ⟨List.mem_map.mpr ⟨_, listed, rfl⟩, (kept_iff _ listed).mp rfl⟩
  · rintro ⟨inside, told⟩
    obtain ⟨⟨_, _, kept⟩, listed, same⟩ := List.mem_map.mp inside
    cases same
    cases (kept_iff _ listed).mpr told
    exact listed

/-! ## Reading a definition again -/

/-- A conversion comes back from its word. -/
theorem conversionOf_word (conversion : ConversionKind) :
    conversionOf (.text conversion.word) = .ok conversion := by
  cases conversion <;> rfl

/-- What a check has admitted has a name, and its parts are admitted one by one and as a whole. -/
theorem Valid.parts (valid : definition.Valid) : definition.name ≠ "" ∧ definition.Admissible ∧
    definition.admitted = .ok definition := by
  obtain ⟨data, checked⟩ := valid
  have admissible := admissible_of_check checked
  cases data with
  | record fields =>
    obtain ⟨_, _, named⟩ := required_eq_ok.mp (takes_of_check checked).name
    obtain ⟨made, -, ruled⟩ := Except.bind_eq_ok.mp checked
    obtain rfl := admitted_eq_ok ruled
    exact ⟨(nonEmptyText_eq_ok.mp named).2, admissible, ruled⟩
  | _ => cases checked

/-- What is written of a valid definition gives each of its parts back. -/
theorem Valid.takes (valid : definition.Valid) : definition.Takes (keptFields definition.fields) := by
  obtain ⟨named, admissible, -⟩ := valid.parts
  have distinct := definition.fields_distinct
  have bound (bound : Option Numeral.Binary64) (kept : bound.isSome = true) :
      orNull number (boundDescribed bound) = .ok bound := by
    obtain ⟨value, rfl⟩ := Option.isSome_iff_exists.mp kept
    rfl
  have missing {α : Type} {value : Option α} (left : value.isSome = false) : none = value :=
    (Option.isSome_eq_false_iff.mp left |> Option.isNone_iff_eq_none.mp).symm
  constructor
  case name =>
    have there : ("name", .text definition.name, true) ∈ definition.fields := by simp [fields]
    exact required_eq_ok.mpr ⟨_, field?_keptFields distinct there, by simp [nonEmptyText, named]⟩
  case pattern =>
    have there : ("pattern", patternDescribed definition.pattern, definition.pattern.isSome) ∈
        definition.fields := by simp [fields]
    refine optional_keptFields distinct there (fun kept => ?_) missing
    obtain ⟨pattern, given⟩ := Option.isSome_iff_exists.mp kept
    simp [given, patternDescribed, orNull, fragmentOf, admissible.pattern pattern given]
  case conversion =>
    have there : ("convert", .text definition.conversion.word, definition.conversion != .text) ∈
        definition.fields := by simp [fields]
    exact optional_keptFields distinct there (fun _ => conversionOf_word _)
      fun left => (by simpa using left : definition.conversion = .text).symm
  case description =>
    have there : ("description", .text definition.description, !definition.description.isEmpty) ∈
        definition.fields := by simp [fields]
    exact optional_keptFields distinct there (fun _ => rfl)
      fun left => (by simpa using left : definition.description = "").symm
  case minimum =>
    have there : ("minimum", boundDescribed definition.minimum, definition.minimum.isSome) ∈
        definition.fields := by simp [fields]
    exact optional_keptFields distinct there (bound _) missing
  case maximum =>
    have there : ("maximum", boundDescribed definition.maximum, definition.maximum.isSome) ∈
        definition.fields := by simp [fields]
    exact optional_keptFields distinct there (bound _) missing
  case choices =>
    have there : ("choices", choicesDescribed definition.choices, definition.choices.isSome) ∈
        definition.fields := by simp [fields]
    refine optional_keptFields distinct there (fun kept => ?_) missing
    obtain ⟨words, given⟩ := Option.isSome_iff_exists.mp kept
    exact given ▸ congrArg (Except.map some) (listOf_texts words)
  case quoted =>
    have there : ("quoted", .boolean definition.quoted, !definition.quoted) ∈ definition.fields := by
      simp [fields]
    exact optional_keptFields distinct there (fun _ => rfl)
      fun left => (by simpa using left : definition.quoted = true).symm

/-- Fields that give each part of a definition give the definition, if the rules for the whole admit it. -/
theorem Takes.check {fields : List (String × Document)} (takes : definition.Takes fields)
    (ruled : definition.admitted = .ok definition) : check (.record fields) = .ok definition := by
  have made := apply_ok (apply_ok (apply_ok (apply_ok (apply_ok (apply_ok (apply_ok (apply_ok
    (rfl : Checked.sound TypeDefinition.mk = .ok TypeDefinition.mk) takes.name) takes.pattern)
    takes.conversion) takes.description) takes.minimum) takes.maximum) takes.choices) takes.quoted
  refine Except.bind_eq_ok.mpr ⟨definition, ?_, ruled⟩
  rw [takes.name] at made ⊢
  exact made

/-- A valid definition is admitted as it is written. -/
theorem Valid.check_briefly (valid : definition.Valid) : check definition.briefly = .ok definition :=
  valid.takes.check valid.parts.2.2

end TypeDefinition

/-! ## Reading a file again -/

/-- A file of valid definitions is admitted as it is written. -/
theorem TypeSet.ofDocument_typeFile {definitions : List TypeDefinition}
    (valid : ∀ definition ∈ definitions, definition.Valid) :
    ofDocument (Workspace.typeFile definitions) = .ok ⟨defaultSchema, definitions⟩ := by
  have types : listOf TypeDefinition.check (.list (definitions.map TypeDefinition.briefly)) =
      .ok definitions := by
    refine elementsFrom_eq_ok.mpr ?_
    rw [List.forall₂_map_left_iff, List.forall₂_same]
    exact fun definition listed => (valid definition listed).check_briefly
  rw [ofDocument, outcome_eq_ok]
  exact apply_ok (apply_ok rfl (field_ok (by rfl) (by rfl))) (field_ok (by rfl) types)

namespace Workspace

variable {definitions : List TypeDefinition} {path : String}

/-- A file that was written holds what was written to it. -/
theorem document_leftBy_writeInto {folder : String} {data : Document} {before : Workspace}
    (written : ((writeInto folder path data).runFrom before).1 = .ok ()) :
    (before.leftBy (writeInto folder path data)).storage.document path = .ok data := by
  cases wrote : (before.storage.makeFolder folder).write path data with
  | error fault =>
    have failed := @writeInto_error ⟨before, []⟩ folder path data fault wrote
    rw [Action.runFrom, failed] at written
    cases written
  | ok storage =>
    have left := @writeInto_ok ⟨before, []⟩ folder path data storage wrote
    obtain ⟨free, rfl⟩ := Storage.hasFolder_of_write wrote
    rw [leftBy, Action.runFrom, left]
    exact Storage.document_withFile free rfl

/-- Definitions are put into a workspace as they are put into its types, with the same outcome. -/
theorem mapM_defineNamed_eq (definitions : List TypeDefinition) (noted : Noted Workspace) :
    definitions.mapM defineNamed noted =
      let registered := definitions.mapM TypeDefinition.register ⟨noted.state.types, noted.notices⟩
      (registered.1.map (·.map (·.name)),
        ⟨{ noted.state with types := registered.2.state }, registered.2.notices⟩) := by
  induction definitions generalizing noted with
  | nil => rfl
  | cons first rest ih =>
    rw [List.mapM_cons, List.mapM_cons]
    have put : onTypes first.register noted = _ := Action.within_apply ..
    cases registered : first.register ⟨noted.state.types, noted.notices⟩ with
    | mk outcome next =>
      rw [registered] at put
      cases outcome with
      | error fault =>
        have here : defineNamed first noted = _ := Action.bind_of_error put
        rw [Action.bind_of_error here, Action.bind_of_error registered]
        rfl
      | ok type =>
        have here : defineNamed first noted = (.ok type.name, _) := Action.bind_of_ok put
        rw [Action.bind_of_ok here, Action.bind_of_ok registered]
        have others := ih ⟨{ noted.state with types := next.state }, next.notices⟩
        cases all : rest.mapM TypeDefinition.register next with
        | mk outcome last =>
          simp only [all] at others
          cases outcome with
          | error fault =>
            rw [Action.bind_of_error others, Action.bind_of_error all]
            rfl
          | ok types =>
            rw [Action.bind_of_ok others, Action.bind_of_ok all]
            rfl

/-- Types that were written are read back as they were, although only those fields are written that say
something. To load the file is to register them one after the other: with the same outcome, and with the
same table of types after it. -/
theorem loadTypeFile_writeTypeFile {before reader : Workspace}
    (valid : ∀ definition ∈ definitions, definition.Valid)
    (written : ((writeTypeFile definitions path).runFrom before).1 = .ok ())
    (here : reader.storage = (before.leftBy (writeTypeFile definitions path)).storage) :
    (∀ definition ∈ definitions, ∃ kept, definition.briefly = .record kept ∧ ∀ field, field ∈ kept ↔
        field ∈ definition.entries ∧
          (field.1 = "name" ∨ field ∉ (TypeDefinition.bare definition.name).entries)) ∧
      reader.storage.document path = .ok (typeFile definitions) ∧
      TypeSet.ofDocument (typeFile definitions) = .ok ⟨TypeSet.defaultSchema, definitions⟩ ∧
      let loaded := (loadTypeFile path).runFrom reader
      let registered := (definitions.mapM TypeDefinition.register).runFrom reader.types
      loaded.1 = registered.1.map (·.map (·.name)) ∧
        loaded.2.1 = { reader with types := registered.2.1 } := by
  have document : reader.storage.document path = .ok (typeFile definitions) :=
    here ▸ document_leftBy_writeInto written
  have set := TypeSet.ofDocument_typeFile valid
  have read : reader.storage.typeSet path = .ok ⟨TypeSet.defaultSchema, definitions⟩ := by
    rw [Storage.typeSet, document, ← set]
    rfl
  refine ⟨fun definition _ => ⟨_, TypeDefinition.briefly_eq, fun field =>
    TypeDefinition.mem_keptFields_fields⟩, document, set, ?_⟩
  have opened := @loadTypeFile_read path ⟨reader, []⟩ _ read
  have all := mapM_defineNamed_eq definitions ⟨reader, []⟩
  rw [Action.runFrom, Action.runFrom, opened]
  cases registered : definitions.mapM TypeDefinition.register ⟨reader.types, []⟩ with
  | mk outcome next =>
    simp only [registered] at all
    cases outcome with
    | error fault =>
      rw [Action.bind_of_error all]
      exact ⟨rfl, rfl⟩
    | ok types =>
      rw [Action.bind_of_ok all]
      exact ⟨rfl, rfl⟩

/-- Two types of one name: one with a pattern, a bound of zero and a list of choices without any, and one
with a choice. -/
def twoOfOneName : List TypeDefinition :=
  [⟨"Level", some "\\d+", .integer, "", some .zero, none, some [], true⟩,
    ⟨"Level", none, .text, "a word", none, none, some ["low"], false⟩]

/-- Both types come back, and the second one takes the place of the first. -/
theorem loadTypeFile_twoOfOneName :
    let writer := fresh .empty .empty none none
    let reader := { writer with storage := (writer.leftBy (writeTypeFile twoOfOneName "t")).storage }
    TypeSet.ofDocument (typeFile twoOfOneName) = .ok ⟨TypeSet.defaultSchema, twoOfOneName⟩ ∧
      ((loadTypeFile "t").runFrom reader).1 = .ok ["Level", "Level"] ∧
      ((loadTypeFile "t").runFrom reader).2.1.types.types.keys = ["Level"] := by
  intro writer reader
  have folder : folderOf "t" = "" := by
    have parts : "t".splitOn "/" = ["t"] := by
      rw [String.splitOn, if_neg (by decide), String.splitOnAux, if_neg (by decide), if_neg (by decide),
        String.splitOnAux, if_pos (by decide)]
      decide
    rw [folderOf, parts]
    decide
  have valid : ∀ definition ∈ twoOfOneName, definition.Valid := by
    have checked : twoOfOneName.map (fun definition =>
        (TypeDefinition.check definition.described).toOption) = twoOfOneName.map some := by
      decide +kernel
    intro definition listed
    exact ⟨_, Except.eq_ok_of_toOption (List.map_inj_left.mp checked definition listed)⟩
  have written : ((writeTypeFile twoOfOneName "t").runFrom writer).1 = .ok () := by
    rw [writeTypeFile, folder]
    exact Except.eq_ok_of_toOption (by decide +kernel)
  obtain ⟨-, -, set, answered, left⟩ := loadTypeFile_writeTypeFile valid written (rfl : reader.storage = _)
  refine ⟨set, answered.trans (Except.eq_ok_of_toOption (by decide +kernel)), ?_⟩
  rw [left]
  decide +kernel

end Workspace

end LineGrammar
