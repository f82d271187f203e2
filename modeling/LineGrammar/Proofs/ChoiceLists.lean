import LineGrammar.Definition.Type
import LineGrammar.Proofs.TypedLists

/-!
# Lists of choices

The choices of a defined type are words that may hold blanks and commas, and so may the elements of a
list of them. Such a list can be taken apart in more than one way when a choice goes on, behind white
space or a comma, from where another choice ends; the pattern of the line and the splitter then do not
always agree, and a part of the list is lost.

When the choices are set apart from one another, there is one way only, and the splitter finds exactly
the elements that the line was matched with.
-/

namespace LineGrammar

open LineGrammar.Text LineGrammar.Pattern

/-! ## Choices that are set apart -/

namespace Texts

/-- Words that are set apart: none of them is empty or begins with white space or a comma, and what
stands before such a character in one of them does not agree with another one. -/
structure Apart (words : List String) : Prop where
  nonempty : ∀ word ∈ words, word ≠ ""
  start : ∀ word ∈ words, ∀ c ∈ word.toList.head?, isBreak c = false
  apart : ∀ word ∈ words, ∀ other ∈ words, ∀ c ∈ other.toList[word.toList.length]?, isBreak c = true →
    ∀ text ∈ agreeing word.toList, text ∉ agreeing (other.toList.take word.toList.length)

/-- Case makes no difference to what begins a separator. -/
theorem not_isCaseful_of_isBreak {c : Char} (broken : isBreak c = true) : isCaseful c.toNat = false := by
  simp only [isBreak, Bool.or_eq_true, beq_iff_eq] at broken
  rcases broken with space | rfl
  · exact not_isCaseful_of_isSpace space
  · decide

/-- Case makes no difference to quotes. -/
theorem not_isCaseful_of_isQuote {c : Char} (is : Fragment.isQuote c = true) :
    isCaseful c.toNat = false := by
  simp only [Fragment.isQuote, Bool.or_eq_true, beq_iff_eq] at is
  rcases is with rfl | rfl <;> decide

/-- A character to which case makes no difference is the same in every text that agrees. -/
theorem getElem?_of_agreeing {word text : List Char} (agree : text ∈ agreeing word) {c : Char}
    (plain : isCaseful c.toNat = false) {index : Nat} (here : text[index]? = some c) :
    word[index]? = some c := by
  obtain ⟨bound, rfl⟩ := List.getElem?_eq_some_iff.mp here
  have bound' : index < word.length := agree.length_eq ▸ bound
  have same := agree.get bound' bound
  rw [List.get_eq_getElem, List.get_eq_getElem, sameIgnoringCase_iff_eq (.inr plain), Char.toNat_inj]
    at same
  rw [List.getElem?_eq_getElem bound', same]

/-- Words that are set apart are delimited. -/
theorem Apart.delimited {words : List String} (apart : Apart words) : Delimited (oneOf words) where
  nonempty := by
    rintro ⟨word, listed, agree, -⟩
    have empty : word.toList = [] := List.forall₂_nil_right_iff.mp agree
    exact apart.nonempty word listed (by simpa using empty)
  start := by
    rintro c rest ⟨word, listed, agree, -⟩
    cases broken : isBreak c with
    | false => rfl
    | true =>
      have first := getElem?_of_agreeing agree (not_isCaseful_of_isBreak broken)
        (show (c :: rest)[0]? = some c from rfl)
      rw [← List.head?_eq_getElem?] at first
      rw [apart.start word listed c first] at broken
      cases broken
  unique {first second rest other} firstIn secondIn same cutRest cutOther := by
    -- The longer one would go on with a character that the shorter one is cut at.
    have longer {shorter behind more : List Char} (inside : shorter ∈ oneOf words)
        (longerIn : shorter ++ more ∈ oneOf words) (cut : Cut (more ++ behind)) : more = [] := by
      cases more with
      | nil => rfl
      | cons c more =>
        have broken : isBreak c = true := by simpa using cut
        obtain ⟨word, listed, agree, -⟩ := inside
        obtain ⟨other, listedOther, agreeOther, -⟩ := longerIn
        have front := List.forall₂_take_append _ _ _ agreeOther
        have after : (shorter ++ c :: more)[shorter.length]? = some c := by simp
        have here := getElem?_of_agreeing agreeOther (not_isCaseful_of_isBreak broken) after
        rw [← agree.length_eq] at here front
        exact absurd front (apart.apart word listed other listedOther c here broken shorter agree)
    rcases List.append_eq_append_iff.mp same with ⟨more, rfl, rfl⟩ | ⟨more, rfl, rfl⟩
    · rw [longer firstIn secondIn cutRest, List.append_nil]
    · rw [longer secondIn firstIn cutOther, List.append_nil]

/-- Delimited texts without quotes are delimited in quotes as well. -/
theorem Delimited.quotable {texts : Language Char} (delimited : Delimited texts)
    (unquoted : ∀ text ∈ texts, ∀ c ∈ text, Fragment.isQuote c = false) :
    Delimited (quotable texts) where
  nonempty := by
    rintro (bare | ⟨quote, -, inside, -, whole⟩)
    · exact delimited.nonempty bare
    · cases whole
  start := by
    rintro c rest (bare | ⟨quote, is, inside, taken, whole⟩)
    · exact delimited.start bare
    · simp only [Fragment.isQuote, Bool.or_eq_true, beq_iff_eq] at is
      cases whole
      rcases is with rfl | rfl <;> decide
  unique {first second rest other} firstIn secondIn same cutRest cutOther := by
    have apart {quote : Char} (is : Fragment.isQuote quote = true) {text : List Char}
        (taken : text ∈ texts) : quote ∉ text := fun listed => by
      rw [unquoted text taken quote listed] at is
      cases is
    -- A bare text does not begin with a quote.
    have mixed {quote : Char} {text inside behind more : List Char} (is : Fragment.isQuote quote = true)
        (taken : text ∈ texts) (same : text ++ behind = quote :: inside ++ more) : False := by
      obtain ⟨c, others, rfl⟩ := List.exists_cons_of_ne_nil fun empty =>
        delimited.nonempty (empty ▸ taken)
      obtain rfl : c = quote := (List.cons.inj same).1
      exact apart is taken List.mem_cons_self
    rcases firstIn with bare | ⟨quote, is, inside, taken, rfl⟩ <;>
      rcases secondIn with bareOther | ⟨quoteOther, isOther, insideOther, takenOther, rfl⟩
    · exact delimited.unique bare bareOther same cutRest cutOther
    · exact (mixed isOther bare same).elim
    · exact (mixed is bareOther same.symm).elim
    · simp only [List.cons_append, List.append_assoc, List.cons.injEq, List.nil_append] at same
      obtain ⟨rfl, same⟩ := same
      have front {text : List Char} (taken : text ∈ texts) (more : List Char) :
          (text ++ quote :: more).takeWhile (· != quote) = text := by
        rw [List.takeWhile_append_of_pos]
        · simp
        · rintro c listed
          simpa using fun same : c = quote => apart is taken (same ▸ listed)
      rw [← front taken rest, same, front takenOther other]

end Texts

namespace TypeDefinition

/-! ## The texts of a definition -/

/-- The texts of a definition by choices. -/
def choiceTexts (definition : TypeDefinition) (choices : List String) : Language Char :=
  if definition.quoted then Texts.quotable (Texts.oneOf choices) else Texts.oneOf choices

variable {definition : TypeDefinition} {choices : List String}

/-- The fragment of a definition by choices means its texts. -/
theorem isUnit_choices (bare : definition.pattern = none) (isChoices : definition.choices = some choices)
    (nonempty : choices ≠ []) :
    IsUnit .none definition.fragment.toList (definition.choiceTexts choices) := by
  obtain ⟨first, others, rfl⟩ := List.exists_cons_of_ne_nil nonempty
  have unit := IsUnit.oneOf first others
  rw [fragment, bare, isChoices, choiceTexts]
  cases definition.quoted with
  | true => exact IsUnit.quotedVariants unit.run
  | false => exact unit

/-- Choices without quotes that are set apart make a delimited definition. -/
theorem delimited_choices (unquoted : ∀ choice ∈ choices, ∀ c ∈ choice.toList, Fragment.isQuote c = false)
    (apart : Texts.Apart choices) : Texts.Delimited (definition.choiceTexts choices) := by
  rw [choiceTexts]
  cases definition.quoted with
  | true =>
    refine apart.delimited.quotable ?_
    rintro text ⟨choice, listed, agree, -⟩ c inside
    cases is : Fragment.isQuote c with
    | false => rfl
    | true =>
      obtain ⟨index, here⟩ := List.mem_iff_getElem?.mp inside
      have declared := Texts.getElem?_of_agreeing agree (Texts.not_isCaseful_of_isQuote is) here
      rw [unquoted choice listed c (List.mem_of_getElem? declared)] at is
      cases is
  | false => exact apart.delimited

/-! ## Lists -/

/-- A list of a defined type by choices that are set apart loses nothing: whatever line is read, the text
of the list is one element or several with separators between them, each of them a text of the type in
full; the splitter finds exactly these elements, and the value of the list has the value of each. -/
theorem choice_list_lossless (bare : definition.pattern = none)
    (isChoices : definition.choices = some choices) (nonempty : choices ≠ [])
    (unquoted : ∀ choice ∈ choices, ∀ c ∈ choice.toList, Fragment.isQuote c = false)
    (apart : Texts.Apart choices) {word name : String} (keyword : IsKeyword word)
    (named : IsKeyword name) (type : IsTypeName definition.name) (types : TypeTable) :
    ∃ typed expression whole capture splitter,
      types.register definition.name definition.fragment (some definition.asConversion) = .ok typed ∧
      Expression.compile typed (word ++ " *" ++ name ++ "@" ++ definition.name) = .ok expression ∧
      Pattern.read definition.fragment .none = .ok whole ∧
      expression.captures = [capture] ∧ capture.splitter = some splitter ∧
      ∀ line reading, expression.read line = .ok (some reading) →
        ∃ (group : String) (first : List Char) (others : List (List Char × List Char))
            (values : List Value),
          Reading.groupText? reading.line reading.found 1 = some group ∧
          group.toList = first ++ others.flatMap (fun other => other.1 ++ other.2) ∧
          (∀ other ∈ others, other.1 ∈ Texts.separator) ∧
          (∀ piece ∈ first :: others.map (·.2), whole.matchesFully piece = true) ∧
          elementTexts splitter group = (first :: others.map (·.2)).map String.ofList ∧
          reading.captures = [(name, .list values)] ∧
          List.Forall₂ (fun piece value =>
            definition.convert (Fragment.unwrap (String.ofList piece)) = .ok value)
            (first :: others.map (·.2)) values := by
  have unit := isUnit_choices bare isChoices nonempty
  have delimited : Texts.Delimited (definition.choiceTexts choices) := delimited_choices unquoted apart
  obtain ⟨whole, isWhole, full⟩ := unit.run.read
  have ⟨_, alone, _⟩ := unit
  obtain ⟨typed, registered, known⟩ := types.exists_register definition.name alone.spells.read_eq rfl rfl
    (some definition.asConversion)
  obtain ⟨splitter, isSplitter, splits⟩ := splitter_read unit
  -- The pattern of the list leads over the lists of these texts.
  obtain ⟨node, operand, recognizes, -⟩ := unit.oneOrMoreOf
  obtain ⟨expression, compiled, parts⟩ := @Expression.compile_typedList
    ⟨definition.fragment, .none, node, 0, []⟩ _ _ _ _ _ known keyword named type _
    (Branches.one operand.spells).enclosed rfl _ isSplitter
  refine ⟨typed, expression, whole, _, splitter, registered, compiled, isWhole, parts.captures, rfl,
    fun line reading read => ?_⟩
  obtain ⟨gap, captured, tail, value, divides, group, computed, captures⟩ := parts.of_read read
  obtain ⟨first, taken, others, each, written⟩ := Texts.mem_listOf.mp (divides.mem recognizes)
  have listed : (String.ofList captured).toList = first ++ others.flatMap fun other => other.1 ++ other.2 := by
    rw [String.toList_ofList, written]
  obtain ⟨values, rfl, entries⟩ := Capture.value_list rfl splits delimited computed listed taken each
  refine ⟨_, first, others, values, group, listed, fun other inside => (each other inside).1,
    fun piece inside => (full piece).mpr ?_, elementTexts_eq splits delimited listed taken each, captures,
    entries⟩
  rcases List.mem_cons.mp inside with rfl | inside
  · exact taken
  · obtain ⟨other, inOthers, rfl⟩ := List.mem_map.mp inside
    exact (each other inOthers).2

/-- Towns by their names. -/
def towns : TypeDefinition :=
  ⟨"Town", none, .text, "", none, none, some ["New York", "Rome"], false⟩

/-- Two choices, one of which begins the other. -/
def nested : TypeDefinition := ⟨"T", none, .text, "", none, none, some ["a", "a b"], true⟩

/-- Two towns, one of which is written with a blank, are set apart, and a list of both has both of them. -/
theorem choice_list_lossless_towns :
    ∃ typed expression capture splitter reading,
      TypeTable.numeric.register "Town" (fragment towns) (some (asConversion towns)) = .ok typed ∧
      Expression.compile typed ("go" ++ " *" ++ "stops" ++ "@" ++ "Town") = .ok expression ∧
      expression.captures = [capture] ∧ capture.splitter = some splitter ∧
      expression.read "go new york, Rome" = .ok (some reading) ∧
      ∃ (group : String) (first : List Char) (others : List (List Char × List Char))
          (values : List Value),
        Reading.groupText? reading.line reading.found 1 = some group ∧
        group.toList = first ++ others.flatMap (fun other => other.1 ++ other.2) ∧
        (∀ other ∈ others, other.1 ∈ Texts.separator) ∧
        elementTexts splitter group = (first :: others.map (·.2)).map String.ofList ∧
        reading.captures = [("stops", .list values)] ∧ values.length = others.length + 1 := by
  have unquoted : ∀ choice ∈ ["New York", "Rome"], ∀ c ∈ choice.toList, Fragment.isQuote c = false := by
    decide
  have apart : Texts.Apart ["New York", "Rome"] := by
    refine ⟨by decide, by decide, fun word listed other listedOther c here broken => ?_⟩
    -- None of them has a blank where the other one ends.
    have nowhere : ∀ word ∈ ["New York", "Rome"], ∀ other ∈ ["New York", "Rome"],
        ∀ c ∈ other.toList[word.toList.length]?, Texts.isBreak c = false := by decide
    rw [nowhere word listed other listedOther c here] at broken
    cases broken
  have keyword : IsKeyword "go" := by decide +kernel
  have named : IsKeyword "stops" := by decide +kernel
  have type : IsTypeName towns.name := by decide +kernel
  obtain ⟨typed, expression, whole, capture, splitter, registered, compiled, -, captures, splits, lossless⟩ :=
    @choice_list_lossless towns _ rfl rfl (by simp) unquoted apart _ _ keyword named type .numeric
  have matched : ((TypeTable.numeric.register "Town" (fragment towns)
      (some (asConversion towns))).toOption.any fun typed =>
        (Expression.compile typed ("go" ++ " *" ++ "stops" ++ "@" ++ "Town")).toOption.any fun expression =>
          (expression.read "go new york, Rome").toOption.any (·.isSome)) = true := by
    decide +kernel
  have compiled' : Expression.compile typed ("go" ++ " *" ++ "stops" ++ "@" ++ "Town") = .ok expression :=
    compiled
  have registered' : TypeTable.numeric.register "Town" (fragment towns) (some (asConversion towns)) =
      .ok typed := registered
  rw [registered', Except.toOption, Option.any_some, compiled', Except.toOption, Option.any_some] at matched
  obtain ⟨outcome, read, isSome⟩ := (Option.any_eq_true _ _).mp matched
  obtain ⟨reading, rfl⟩ := Option.isSome_iff_exists.mp isSome
  have read := Except.eq_ok_of_toOption read
  obtain ⟨group, first, others, values, text, written, each, -, elements, entries, single⟩ :=
    lossless _ reading read
  exact ⟨typed, expression, capture, splitter, reading, registered, compiled, captures, splits, read, group,
    first, others, values, text, written, each, elements, entries, by simpa using single.length_eq.symm⟩

/-- A choice that goes on, behind a blank, from where another one ends: the line is matched with the
longer choice, the splitter stops at the shorter one, and the rest of the list is lost. -/
theorem choice_list_cut_short :
    ∃ typed expression capture splitter reading,
      TypeTable.numeric.register "T" (fragment nested) (some (asConversion nested)) = .ok typed ∧
      Expression.compile typed "w *xs@T" = .ok expression ∧
      expression.captures.head? = some capture ∧ capture.splitter = some splitter ∧
      expression.read "w a b" = .ok (some reading) ∧
      Reading.groupText? reading.line reading.found 1 = some "a b" ∧
      elementTexts splitter "a b" = ["a"] := by
  have known : ((TypeTable.numeric.register "T" (fragment nested)
      (some (asConversion nested))).toOption.any fun typed =>
        (Expression.compile typed "w *xs@T").toOption.any fun expression =>
          expression.captures.head?.any fun capture => capture.splitter.any fun splitter =>
            (expression.read "w a b").toOption.any fun found => found.any fun reading =>
              Reading.groupText? reading.line reading.found 1 = some "a b" ∧
                elementTexts splitter "a b" = ["a"]) = true := by
    decide +kernel
  obtain ⟨typed, registered, known⟩ := (Option.any_eq_true _ _).mp known
  obtain ⟨expression, compiled, known⟩ := (Option.any_eq_true _ _).mp known
  obtain ⟨capture, captures, known⟩ := (Option.any_eq_true _ _).mp known
  obtain ⟨splitter, splits, known⟩ := (Option.any_eq_true _ _).mp known
  obtain ⟨found, read, known⟩ := (Option.any_eq_true _ _).mp known
  obtain ⟨reading, rfl, known⟩ := (Option.any_eq_true _ _).mp known
  obtain ⟨text, elements⟩ := of_decide_eq_true known
  exact ⟨typed, expression, capture, splitter, reading, Except.eq_ok_of_toOption registered,
    Except.eq_ok_of_toOption compiled, captures, splits, Except.eq_ok_of_toOption read, text, elements⟩

end TypeDefinition

end LineGrammar
