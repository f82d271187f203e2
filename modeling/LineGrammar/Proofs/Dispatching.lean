import LineGrammar.Proofs.Containment
import LineGrammar.Proofs.Numerals
import LineGrammar.Proofs.Refinement
import LineGrammar.Workspace.Library

/-!
# Dispatching any line

Under the numeric types, what the pattern of an expression lets through has a value, with one exception:
an integer of more digits than are read. Its conversion does not reject the text, it fails, and this
failure is not one that a reading or a dispatch passes over. So any line can be dispatched to the commands
of the library, unless it holds such a run of digits; and the commands that take integers do fail for it.

A token with a type and choices at once is left out. Its choices take the place of the numerals, so the
type is asked for the values of texts that are none.
-/

namespace LineGrammar

open LineGrammar.Text LineGrammar.Numeral LineGrammar.Pattern LineGrammar.Phrase

/-! ## Outcomes without other failures -/

/-- An outcome that is a value or an admitted failure. -/
def Except.FailsOnly {ε α : Type} (admitted : ε → Prop) (outcome : Except ε α) : Prop :=
  ∀ fault, outcome = .error fault → admitted fault

namespace Except.FailsOnly

variable {ε α β : Type} {admitted : ε → Prop}

/-- A success does not fail. -/
theorem ok (value : α) : FailsOnly admitted (.ok value) := nofun

/-- Two computations after one another fail only as one of them does. -/
theorem bind {first : Except ε α} {next : α → Except ε β} (one : FailsOnly admitted first)
    (two : ∀ value, first = .ok value → FailsOnly admitted (next value)) :
    FailsOnly admitted (first >>= next) := by
  intro fault failed
  rcases Except.bind_eq_error.mp failed with failed | ⟨value, done, failed⟩
  · exact one fault failed
  · exact two value done fault failed

/-- What is changed in a result does not make it fail. -/
theorem map {outcome : Except ε α} (change : α → β) (one : FailsOnly admitted outcome) :
    FailsOnly admitted (change <$> outcome) := by
  cases outcome with
  | ok value => exact ok _
  | error fault =>
    intro other failed
    cases failed
    exact one fault rfl

/-- A computation for each of some values fails only as it does for one of them. -/
theorem mapM {each : α → Except ε β} {values : List α}
    (all : ∀ value ∈ values, FailsOnly admitted (each value)) : FailsOnly admitted (values.mapM each) := by
  intro fault failed
  obtain ⟨value, listed, failed⟩ := Except.exists_of_mapM_eq_error failed
  exact all value listed fault failed

end Except.FailsOnly

/-! ## Values -/

/-- A token does not have both a type and choices. -/
def Token.Unmixed (token : Token) : Prop := token.type = none ∨ token.choices.getD [] = []

instance (token : Token) : Decidable token.Unmixed :=
  inferInstanceAs (Decidable (token.type = none ∨ token.choices.getD [] = []))

/-- The elements of an unmixed token with a type are the texts of the type. -/
theorem Token.Unmixed.elements_eq {token : Token} (unmixed : token.Unmixed) {name : String}
    (typed : token.type = some name) (ofType : String → Language Char) :
    token.elements ofType = ofType name := by
  obtain ⟨kind, label, remark, type, choices⟩ := token
  cases typed
  rcases unmixed with untyped | free
  · cases untyped
  · cases choices with
    | none => rfl
    | some words =>
      cases free
      rfl

/-- What an argument token is compiled to. -/
theorem Capture.Of.argument {types : TypeTable} {token : Token} {capture : Capture}
    (of : capture.Of types token) (argument : token.kind = .argument) :
    ∃ type, token.typeIn types = .ok type ∧ capture = ⟨token.name, .argument, type, none⟩ := by
  obtain ⟨fragment, compiled⟩ := of
  obtain ⟨kind, name, remark, reference, choices⟩ := token
  cases argument
  obtain ⟨type, typed, same⟩ := Except.bind_eq_ok.mp compiled
  cases same
  exact ⟨type, typed, rfl⟩

/-- The value of an element of an unmixed token. -/
theorem Capture.single_failsOnly {token : Token} (unmixed : token.Unmixed) (capture : Capture)
    (typed : token.typeIn .numeric = .ok capture.type) {text : String}
    (taken : text.toList ∈ token.elements Texts.ofType) (asked : Option String) :
    Except.FailsOnly (Fault.IsOverlong text.toList) (capture.single asked text) := by
  unfold Capture.single
  split
  · exact .ok _
  · rename_i type isType
    cases reference : token.type with
    | none =>
      rw [isType] at typed
      simp [Token.typeIn, reference] at typed
    | some name =>
      rw [unmixed.elements_eq reference] at taken
      have known : TypeTable.numeric.lookup name = some type := by
        simp only [Token.typeIn, reference, isType] at typed
        split at typed
        · rename_i found
          cases typed
          exact found
        · cases typed
      exact fun fault failed => ValueType.isOverlong_of_convert known taken failed

/-- The value of what an unmixed token captures. -/
theorem Capture.value_failsOnly {token : Token} (wellFormed : token.WellFormed) (unmixed : token.Unmixed)
    {capture : Capture} (of : capture.Of .numeric token) {text : String}
    (taken : text.toList ∈ token.bodies Texts.ofType) (asked : Option String) :
    Except.FailsOnly (Fault.IsOverlong text.toList) (capture.value asked text) := by
  cases kind : token.kind with
  | symbol | word =>
    obtain ⟨fragment, compiled⟩ := of
    simp [Token.compiled, kind] at compiled
  | freeText =>
    obtain ⟨fragment, compiled⟩ := of
    obtain ⟨-, rfl⟩ : _ ∧ ⟨token.name, .freeText, none, none⟩ = capture := by
      simpa [Token.compiled, kind] using compiled
    exact .ok _
  | argument =>
    obtain ⟨type, typed, rfl⟩ := of.argument kind
    exact single_failsOnly unmixed _ typed (by simpa [Token.bodies, kind] using taken) asked
  | argumentList =>
    obtain ⟨type, splitter, typed, isSplitter, rfl⟩ := of.list kind
    obtain ⟨other, isOther, splits⟩ := splitter_read (Token.element_isUnit TypeTable.numeric_means typed)
    rw [isSplitter] at isOther
    cases isOther
    have body : text.toList ∈ Texts.listOf (token.elements Texts.ofType) := by
      simpa [Token.bodies, kind] using taken
    obtain ⟨first, inside, others, each, written⟩ := Texts.mem_listOf.mp body
    simp only [Capture.value,
      elementTexts_eq splits (Token.delimited_elements wellFormed kind) written inside each]
    refine .map _ (.mapM fun element listed => ?_)
    obtain ⟨piece, among, rfl⟩ := List.mem_map.mp listed
    -- An element is a text of the token, and stands in the text of the list.
    have part : piece ∈ token.elements Texts.ofType ∧ piece <:+: text.toList := by
      rcases List.mem_cons.mp among with rfl | among
      · exact ⟨inside, written ▸ List.infix_append [] piece _⟩
      · obtain ⟨other, later, rfl⟩ := List.mem_map.mp among
        refine ⟨(each other later).2, written ▸ ?_⟩
        have behind : other.2 <:+: other.1 ++ other.2 := (List.suffix_append _ _).isInfix
        have within : other.1 ++ other.2 <:+: others.flatMap fun other => other.1 ++ other.2 :=
          List.flatMap_def ▸ List.infix_of_mem_flatten (List.mem_map_of_mem later)
        exact behind.trans (within.trans (List.suffix_append _ _).isInfix)
    have element : (String.ofList piece).toList ∈ token.elements Texts.ofType := by
      simpa using part.1
    have single := single_failsOnly unmixed ⟨token.name, .argumentList, type, some splitter⟩ typed element
      asked
    exact fun fault failed => (single fault failed).of_part (by simpa using part.2)

/-! ## Readings -/

/-- The values of captures, when each text that is there has one. -/
theorem Reading.valuesFrom_failsOnly {admitted : Fault → Prop} {asked : Option String}
    {line : Array Char} {found : Match} {start : Nat} {captures : List Capture}
    (each : ∀ index capture text, captures[index]? = some capture →
      groupText? line found (start + index) = some text →
        Except.FailsOnly admitted (capture.value asked text)) :
    Except.FailsOnly admitted (valuesFrom asked line found start captures) := by
  induction captures generalizing start with
  | nil => exact .ok _
  | cons capture rest ih =>
    have others := ih fun index capture text listed took => each (index + 1) capture text listed (by
      rwa [show start + (index + 1) = start + 1 + index by omega])
    have first (value : Value) : Except.FailsOnly admitted
        (do return (capture.name, value) :: (← valuesFrom asked line found (start + 1) rest)) :=
      others.bind fun _ _ => .ok _
    rw [valuesFrom]
    cases took : groupText? line found start with
    | none => exact .bind (.ok _) fun value _ => first value
    | some text => exact .bind (each 0 capture text rfl took) fun value _ => first value

/-- The text of a group stands in the line. -/
theorem Reading.infix_of_groupText? {line : Array Char} {found : Match} {index : Nat} {text : String}
    (took : groupText? line found index = some text) : text.toList <:+: line.toList := by
  obtain ⟨span, -, rfl⟩ := Option.map_eq_some_iff.mp took
  rw [Pattern.slice, String.toList_ofList, Array.toList_extract, List.extract_eq_take_drop]
  exact (List.take_prefix _ _).isInfix.trans (List.drop_suffix _ _).isInfix

/-- No token of an expression mixes a type with choices. -/
def Phrase.Unmixed (phrase : Phrase) : Prop := ∀ token ∈ phrase.tokens, token.Unmixed

instance (phrase : Phrase) : Decidable phrase.Unmixed :=
  inferInstanceAs (Decidable (∀ token ∈ phrase.tokens, token.Unmixed))

/-- The reading of a line under an expression without mixed tokens. -/
theorem Expression.read_failsOnly {text : String} {expression : Expression} {phrase : Phrase}
    (compiled : Expression.compile .numeric text = .ok expression) (isPhrase : Phrase.of text = .ok phrase)
    (unmixed : phrase.Unmixed) (line : String) :
    Except.FailsOnly (Fault.IsOverlong line.toList) (expression.read line) := by
  obtain ⟨other, same, lines, body, captures⟩ := compile_linePattern TypeTable.numeric_means compiled
  rw [isPhrase] at same
  cases same
  have all : expression.captures.take expression.pattern.groups = expression.captures := by
    rw [lines.groups, (compiled_captures captures).length_eq, List.take_length]
  intro fault failed
  simp only [Expression.read, Expression.attempt] at failed
  cases matched : expression.pattern.matchStart line.toList.toArray with
  | none =>
    rw [matched] at failed
    cases failed
  | some found =>
    have values : Except.FailsOnly (Fault.IsOverlong line.toList)
        (Reading.valuesFrom (some expression.text) line.toList.toArray found 1 expression.captures) := by
      refine Reading.valuesFrom_failsOnly fun index capture text listed took fault failed => ?_
      rw [Nat.add_comm] at took
      obtain ⟨token, isToken, of⟩ := exists_token_of_capture captures listed
      have among : token ∈ phrase.tokens := List.mem_of_mem_filter (List.mem_of_getElem? isToken)
      have taken := lines.mem_bodies matched isToken took
      exact (Capture.value_failsOnly (Phrase.of_wellFormed isPhrase token among) (unmixed token among) of
        taken _ fault failed).of_part (by simpa using Reading.infix_of_groupText? took)
    have made : Except.FailsOnly (Fault.IsOverlong line.toList) (Reading.ofMatch (some expression)
        expression.pattern expression.captures line.toList.toArray found) := by
      rw [Reading.ofMatch, all]
      exact values.bind fun _ _ => .ok _
    rw [matched, Option.map_some] at failed
    cases outcome : Reading.ofMatch (some expression) expression.pattern expression.captures
        line.toList.toArray found with
    | ok reading =>
      rw [outcome] at failed
      cases failed
    | error other =>
      have overlong := made other outcome
      rw [outcome] at failed
      cases other <;> cases failed <;> exact overlong

/-! ## Commands -/

variable {line : String}

/-- The first reading of a line under several expressions. -/
theorem Expression.firstRead_failsOnly {admitted : Fault → Prop} {expressions : List Expression}
    (each : ∀ expression ∈ expressions, Except.FailsOnly admitted (expression.read line)) :
    Except.FailsOnly admitted (firstRead line expressions) := by
  induction expressions with
  | nil => exact .ok _
  | cons expression rest ih =>
    refine .bind (each expression List.mem_cons_self) fun reading _ => ?_
    cases reading with
    | some reading => exact .ok _
    | none => exact ih fun other listed => each other (List.mem_cons_of_mem _ listed)

/-- No token in the expressions of a command mixes a type with choices. -/
def Command.Unmixed (command : Command) : Prop :=
  ∀ text ∈ command.expressions, ∀ phrase ∈ (Phrase.of text).toOption, phrase.Unmixed

instance (command : Command) : Decidable command.Unmixed :=
  inferInstanceAs
    (Decidable (∀ text ∈ command.expressions, ∀ phrase ∈ (Phrase.of text).toOption, phrase.Unmixed))

/-- A command that does not mix types with choices fails on a line only for an overlong numeral of the
line. -/
theorem Command.dispatch_failsOnly {command : Command} (unmixed : command.Unmixed) (line : String) :
    Except.FailsOnly (Fault.IsOverlong line.toList) (command.dispatch .numeric line) := by
  unfold Command.dispatch
  split
  · exact .ok _
  · rename_i expressions compiled
    refine .bind (Expression.firstRead_failsOnly fun expression listed => ?_) fun _ _ => .ok _
    obtain ⟨text, among, compiled⟩ := Except.exists_of_mem_mapM compiled listed
    obtain ⟨phrase, isPhrase, -⟩ := Expression.compile_linePattern TypeTable.numeric_means compiled
    exact Expression.read_failsOnly compiled isPhrase
      (unmixed text among phrase (by simp [isPhrase, Except.toOption])) line

namespace Roster

variable {roster : Roster}

/-- A dispatch among such commands fails only for an overlong numeral of the line. -/
theorem dispatch_failsOnly (unmixed : ∀ entry ∈ roster, entry.1.Unmixed) (line : String) :
    Except.FailsOnly (Fault.IsOverlong line.toList) (roster.dispatch .numeric line) := by
  induction roster with
  | nil => exact .ok _
  | cons entry rest ih =>
    refine .bind (Command.dispatch_failsOnly (unmixed entry List.mem_cons_self) line) fun found _ => ?_
    cases found with
    | some found => exact .ok _
    | none => exact ih fun other listed => unmixed other (List.mem_cons_of_mem _ listed)

/-- A dispatch to all such commands fails only for an overlong numeral of the line. -/
theorem dispatchAll_failsOnly (unmixed : ∀ entry ∈ roster, entry.1.Unmixed) (line : String) :
    Except.FailsOnly (Fault.IsOverlong line.toList) (roster.dispatchAll .numeric line) :=
  .bind (.mapM fun entry listed => Command.dispatch_failsOnly (unmixed entry listed) line) fun _ _ => .ok _

/-- Inquiries that register nothing bring no command. -/
theorem mem_of_asked {types : TypeTable} {inquiries : List Inquiry}
    (unregistered : ∀ command atOnce, Inquiry.register command atOnce ∉ inquiries)
    {entry : Command × Option String} (listed : entry ∈ roster.asked types inquiries) : entry ∈ roster := by
  induction inquiries generalizing roster with
  | nil => exact listed
  | cons inquiry rest ih =>
    have listed := ih (fun command atOnce later => unregistered command atOnce
      (List.mem_cons_of_mem _ later)) listed
    cases inquiry with
    | register command atOnce => exact absurd List.mem_cons_self (unregistered command atOnce)
    | remove name => exact List.mem_of_mem_filter listed
    | list | get name | compiled name | dispatch line | dispatchAll line => exact listed

end Roster

/-! ## Failing lines -/

/-- The keyword that an expression begins with. -/
def Expression.keyword? (text : String) : Option String :=
  match Phrase.of text with
  | .ok (.token first _) => if first = .keyword first.name then some first.name else none
  | _ => none

/-- An expression that begins with a keyword reads no line that does not begin with it. -/
theorem Expression.read_eq_none_of_keyword {text word : String} {expression : Expression}
    (compiled : Expression.compile .numeric text = .ok expression) (begins : keyword? text = some word)
    (apart : ¬word.toList <+: line.toList) : expression.read line = .ok none := by
  obtain ⟨phrase, isPhrase, lines, -⟩ := compile_linePattern TypeTable.numeric_means compiled
  obtain ⟨rest, rfl⟩ : ∃ rest, phrase = .token (.keyword word) rest := by
    rw [keyword?, isPhrase] at begins
    split at begins
    · rename_i first rest same
      cases same
      split at begins
      · rename_i same
        cases begins
        exact ⟨rest, by rw [← same]⟩
      · cases begins
    · cases begins
  cases matched : expression.pattern.matchStart line.toList.toArray with
  | none => simp [Expression.read, Expression.attempt, matched]
  | some found =>
    obtain ⟨filling, fits, tail, -, whole, -⟩ := lines.read_sound matched
    cases filling with
    | token part others =>
      have gap : part.gap = [] := fits.1.gap
      have body : part.body = word.toList := fits.1.body
      refine absurd ⟨others.line ++ tail, ?_⟩ apart
      rw [Filling.line_token, gap, body] at whole
      simpa using whole.symm

/-- A command whose expressions begin with other keywords than a line makes nothing of it. -/
theorem Command.dispatch_eq_none {command : Command}
    (apart : ∀ text ∈ command.expressions, ∃ word, Expression.keyword? text = some word ∧
      ¬word.toList <+: line.toList) : command.dispatch .numeric line = .ok none := by
  unfold Command.dispatch
  split
  · rfl
  · rename_i expressions compiled
    have none : ∀ expression ∈ expressions, expression.read line = .ok none := by
      intro expression listed
      obtain ⟨text, among, compiled⟩ := Except.exists_of_mem_mapM compiled listed
      obtain ⟨word, begins, apart⟩ := apart text among
      exact Expression.read_eq_none_of_keyword compiled begins apart
    have all : Expression.firstRead line expressions = .ok .none := by
      clear compiled
      induction expressions with
      | nil => rfl
      | cons expression rest ih =>
        rw [Expression.firstRead, none expression List.mem_cons_self]
        exact ih fun other listed => none other (List.mem_cons_of_mem _ listed)
    rw [all]
    rfl

/-- A keyword and a capture of an integer type fail for a line with too many digits. -/
theorem Expression.read_overlong {word name typeName : String} {type : ValueType}
    (known : TypeTable.numeric.lookup typeName = some type)
    (converts : type.convert? = some ValueType.toInteger) (keyword : IsKeyword word)
    (named : IsKeyword name) (isTypeName : IsTypeName typeName) {digits : List Char}
    (isDigits : digits ∈ Texts.digits) (long : digitLimit < digits.length)
    (taken : digits ∈ Texts.ofType typeName) :
    ∃ expression, Expression.compile .numeric (word ++ " :" ++ name ++ "@" ++ typeName) = .ok expression ∧
      expression.read (" ".intercalate [word, String.ofList digits]) =
        .error (.integer (String.ofList digits) (.tooManyDigits digits.length)) := by
  have isPhrase := Phrase.of_typed keyword named isTypeName
  obtain ⟨pattern, compiled⟩ := compile_of_phrase TypeTable.numeric_means isPhrase
    (Phrase.compiled_typed known word name)
  obtain ⟨phrase, same, lines, -⟩ := compile_linePattern TypeTable.numeric_means compiled
  rw [isPhrase] at same
  cases same
  have visible : ∀ c ∈ digits, isSpace c = false := fun c inside =>
    not_isSpace_of_isDecimal (isDigits.2 c inside)
  have body : digits ∈ (Token.typed name typeName).bodies Texts.ofType := taken
  obtain ⟨found, matched, group⟩ := lines.groupText_of_keywords rfl (by simpa using keyword) body
    (fun c first => visible c (List.mem_of_mem_head? first))
    (fun c last => visible c (List.mem_of_getLast? last))
  have written : (" ".intercalate [word, String.ofList digits]).toList = behind [word] digits := by
    simpa using toList_intercalate_keywords [word] (String.ofList digits)
  -- The text of the capture is unwrapped to itself, and its conversion fails.
  have bare : ∀ c ∈ (String.ofList digits).toList, Texts.isBareInList c = true := fun c inside =>
    Texts.isBareInList_of_isDecimal (isDigits.2 c (by simpa using inside))
  have failed (asked : Option String) : Capture.value asked ⟨name, .argument, some type, none⟩
      (String.ofList digits) = .error (.integer (String.ofList digits) (.tooManyDigits digits.length)) := by
    have converted := ValueType.toInteger_overlong (.inl rfl) isDigits long asked
    simpa [Capture.value, Capture.single, Fragment.unwrap_bare bare, ValueType.convert, converts] using
      converted
  have groups : pattern.groups = 1 := by
    rw [lines.groups, capturing_ofKeywords rfl, List.length_singleton]
  refine ⟨_, compiled, ?_⟩
  simp only [Expression.read, Expression.attempt, written, matched, Option.map_some, Reading.ofMatch, groups,
    List.take_succ_cons, List.take_zero, Reading.valuesFrom, group, failed]
  rfl

/-! ## The library -/

namespace Library

/-- A workspace on the commands of the library alone. -/
def workspace : Workspace := .fresh (install "library" .empty) .numeric (some "library") none

/-- The commands of the library with the path of their file. -/
def roster : Roster := basic.commands.map fun command => (command, some "library/basic.yaml")

/-- The folder of the library holds its roster. -/
theorem ofFolders_install : Roster.ofFolders (install "library" .empty) (some "library") none = roster := by
  decide +kernel

/-- No command of the library mixes a type with choices. -/
theorem unmixed : ∀ entry ∈ roster, entry.1.Unmixed := by
  decide +kernel

/-- Whatever has been asked, the workspace answers as the roster of the library. -/
theorem answer_eq (inquiries : List Inquiry) (inquiry : Inquiry) :
    (workspace.asked inquiries).answer inquiry =
      (roster.asked .numeric inquiries).answer .numeric inquiry := by
  have grammatical : ∀ command : Command, command.Grammatical .numeric :=
    (TypeTable.Fresh.standing (.inl rfl)).grammatical
  obtain ⟨answers, -⟩ := @Workspace.answer_refines (install "library" .empty) .numeric (some "library")
    none inquiries (fun entry _ => grammatical entry.1) fun command _ => grammatical command
  exact ofFolders_install ▸ answers inquiry

/-- Any line can be dispatched to the commands of the library, to the first one or to all of them,
unless it holds more decimal digits in a row than are read as an integer. -/
theorem dispatch_or_overlong {inquiries : List Inquiry}
    (unregistered : ∀ command atOnce, Inquiry.register command atOnce ∉ inquiries) (line : String) :
    ((∃ found, (workspace.asked inquiries).answer (.dispatch line) = .ok (.dispatched found)) ∨
        ∃ fault, (workspace.asked inquiries).answer (.dispatch line) = .error fault ∧
          fault.IsOverlong line.toList) ∧
      ((∃ found, (workspace.asked inquiries).answer (.dispatchAll line) = .ok (.allDispatched found)) ∨
        ∃ fault, (workspace.asked inquiries).answer (.dispatchAll line) = .error fault ∧
          fault.IsOverlong line.toList) := by
  have unmixed : ∀ entry ∈ roster.asked .numeric inquiries, entry.1.Unmixed := fun entry listed =>
    unmixed entry (Roster.mem_of_asked unregistered listed)
  rw [answer_eq, answer_eq]
  refine ⟨?_, ?_⟩
  · have only := Roster.dispatch_failsOnly unmixed line
    cases outcome : (roster.asked .numeric inquiries).dispatch .numeric line with
    | ok found => exact .inl ⟨found, by simp [Roster.answer, outcome]⟩
    | error fault => exact .inr ⟨fault, by simp [Roster.answer, outcome], only fault outcome⟩
  · have only := Roster.dispatchAll_failsOnly unmixed line
    cases outcome : (roster.asked .numeric inquiries).dispatchAll .numeric line with
    | ok found => exact .inl ⟨found, by simp [Roster.answer, outcome]⟩
    | error fault => exact .inr ⟨fault, by simp [Roster.answer, outcome], only fault outcome⟩

/-- A line without many digits is dispatched, also after another one. -/
theorem dispatch_or_overlong_dice :
    (∃ found, (workspace.asked [.dispatch "help"]).answer (.dispatch "dice 2") =
        .ok (.dispatched found)) ∧
      ∃ found, (workspace.asked [.dispatch "help"]).answer (.dispatchAll "dice 2") =
        .ok (.allDispatched found) := by
  have short (fault : Fault) : ¬fault.IsOverlong "dice 2".toList := by
    rintro ⟨text, digits, -, inside, -, long⟩
    have bound : digits.length ≤ 6 := inside.length_le
    rw [digitLimit] at long
    omega
  have unregistered (command : Command) (atOnce : Bool) :
      Inquiry.register command atOnce ∉ [Inquiry.dispatch "help"] := by simp
  obtain ⟨one, all⟩ := dispatch_or_overlong unregistered "dice 2"
  refine ⟨one.resolve_right ?_, all.resolve_right ?_⟩ <;>
  · rintro ⟨fault, -, overlong⟩
    exact short fault overlong

/-- Digits that are too many make the alias of a command of the library fail, and with it all
dispatching. -/
theorem dispatch_dice {digits : List Char} (isDigits : digits ∈ Texts.digits)
    (long : digitLimit < digits.length) :
    let line := " ".intercalate ["dice", String.ofList digits]
    let fault := Fault.integer (String.ofList digits) (.tooManyDigits digits.length)
    workspace.answer (.dispatch line) = .error fault ∧
      workspace.answer (.dispatchAll line) = .error fault := by
  intro line fault
  have starts : line.toList = 'd' :: 'i' :: 'c' :: 'e' :: ' ' :: digits := by
    simp [line]
  have taken : digits ∈ Texts.ofType "+Integer" :=
    .inl ⟨[], by simp, digits, isDigits, [], .inl rfl, by simp⟩
  obtain ⟨second, isSecond, fails⟩ := @Expression.read_overlong "dice" "count" "+Integer" _ rfl rfl
    (by decide +kernel) (by decide +kernel) (by decide +kernel) digits isDigits long taken
  -- The first command, and the main expression of the second one, begin with other keywords.
  have help (command : Command) (isHelp : command.expressions = ["help [:topic]"]) :
      command.dispatch .numeric line = .ok none := by
    refine Command.dispatch_eq_none fun text listed => ⟨"help", ?_, by simp [starts]⟩
    rw [isHelp] at listed
    rw [List.mem_singleton.mp listed]
    decide +kernel
  have roll (command : Command) (isRoll : command.expressions =
      ["roll :count@+Integer [dice] [with :sides@+Integer sides]", "dice :count@+Integer"]) :
      command.dispatch .numeric line = .error fault := by
    have compiles : (Expression.compile .numeric
        "roll :count@+Integer [dice] [with :sides@+Integer sides]").toOption.isSome = true := by
      decide +kernel
    obtain ⟨first, isFirst⟩ := Option.isSome_iff_exists.mp compiles
    have isFirst := Except.eq_ok_of_toOption isFirst
    have none := @Expression.read_eq_none_of_keyword line _ "roll" first isFirst (by decide +kernel)
      (by simp [starts])
    have all : command.compile .numeric = .ok [first, second] := by
      rw [Command.compile, isRoll, Except.mapM_eq_ok]
      exact .cons isFirst (.cons isSecond .nil)
    have fails : second.read line = .error fault := fails
    simp only [Command.dispatch, all, Expression.firstRead, none, fails]
    rfl
  obtain ⟨one, two, rest, shape, isHelp, isRoll⟩ : ∃ one two rest, roster = one :: two :: rest ∧
      one.1.expressions = ["help [:topic]"] ∧ two.1.expressions =
        ["roll :count@+Integer [dice] [with :sides@+Integer sides]", "dice :count@+Integer"] :=
    ⟨_, _, _, rfl, rfl, rfl⟩
  have dispatched : roster.dispatch .numeric line = .error fault := by
    rw [shape, Roster.dispatch, help one.1 isHelp]
    change Roster.dispatch .numeric line (two :: rest) = _
    rw [Roster.dispatch, roll two.1 isRoll]
    rfl
  have allDispatched : roster.dispatchAll .numeric line = .error fault := by
    rw [shape, Roster.dispatchAll, List.mapM_cons, help one.1 isHelp, List.mapM_cons, roll two.1 isRoll]
    rfl
  refine ⟨?_, ?_⟩
  · exact (answer_eq [] _).trans (congrArg (Answer.dispatched <$> ·) dispatched)
  · exact (answer_eq [] _).trans (congrArg (Answer.allDispatched <$> ·) allDispatched)

/-- A line of 4301 digits behind the alias is not dispatched. -/
theorem dispatch_failed :
    let line := " ".intercalate ["dice", String.ofList (List.replicate 4301 '1')]
    ¬(∃ found, workspace.answer (.dispatch line) = .ok (.dispatched found)) ∧
      ¬∃ found, workspace.answer (.dispatchAll line) = .ok (.allDispatched found) := by
  have length : (List.replicate 4301 '1').length = 4301 := List.length_replicate
  have long : digitLimit < (List.replicate 4301 '1').length := by
    rw [length, digitLimit]
    decide
  have isDigits : List.replicate 4301 '1' ∈ Texts.digits := by
    refine ⟨List.ne_nil_of_length_pos (by omega), fun c inside => ?_⟩
    rw [(List.mem_replicate.mp inside).2]
    decide +kernel
  obtain ⟨one, all⟩ := dispatch_dice isDigits long
  refine ⟨?_, ?_⟩
  · rintro ⟨found, answered⟩
    cases one.symm.trans answered
  · rintro ⟨found, answered⟩
    cases all.symm.trans answered

end Library

end LineGrammar
