import LineGrammar.Proofs.Keywords
import LineGrammar.Proofs.Lists

/-!
# Quoted texts come back

A text without backslashes can be written between double quotes, with a backslash before every double
quote that it holds itself. It is then one argument, whatever it holds, and unwrapping this argument
gives the text back. So it survives an expression that captures it, alone or among the elements of a
list, with any separators between these.

Texts that hold a backslash are not described here. Written in this way, they would lose it wherever a
quote, a blank or a comma follows.
-/

namespace LineGrammar

open LineGrammar.Text LineGrammar.Pattern
open scoped Computability

namespace Texts

/-- A text with a backslash before every double quote. -/
def guarded (text : List Char) : List Char :=
  text.flatMap fun c => if c = doubleQuote then [backslash, doubleQuote] else [c]

/-- A guarded text between double quotes. -/
def inQuotes (text : List Char) : List Char := doubleQuote :: (guarded text ++ [doubleQuote])

/-- A guarded text consists of units that may stand between double quotes. -/
theorem guarded_mem_units {text : List Char} (plain : backslash ∉ text) :
    guarded text ∈ (unit (isInside doubleQuote))∗ := by
  refine Language.mem_kstar.mpr ⟨_, List.flatMap_def, fun piece listed => ?_⟩
  obtain ⟨c, inside, rfl⟩ := List.mem_map.mp listed
  split
  · exact .inl ⟨doubleQuote, by decide, rfl⟩
  · rename_i other
    have apart : c ≠ backslash := fun same => plain (same ▸ inside)
    exact .inr ⟨c, by simp [isInside, apart, other], rfl⟩

/-- A quoted text is an argument, alone as well as in a list. -/
theorem inQuotes_mem_argumentOf {text : List Char} (plain : backslash ∉ text) (bare : Char → Bool) :
    inQuotes text ∈ argumentOf bare :=
  .inr (.inl ⟨guarded text, guarded_mem_units plain, rfl⟩)

end Texts

namespace Fragment

/-- A character that is not a backslash stays, and so does what follows it. -/
theorem withoutEscapes_cons {c : Char} (plain : c ≠ backslash) (rest : List Char) :
    withoutEscapes (c :: rest) = c :: withoutEscapes rest := by
  cases rest <;> simp [withoutEscapes, plain]

/-- A text without backslashes has no escapes. -/
theorem withoutEscapes_plain {text : List Char} (plain : backslash ∉ text) :
    withoutEscapes text = text := by
  induction text with
  | nil => rfl
  | cons c rest ih =>
    rw [List.mem_cons, not_or] at plain
    obtain ⟨apart, others⟩ := plain
    rw [withoutEscapes_cons (Ne.symm apart), ih others]

/-- Dropping escapes undoes guarding. -/
theorem withoutEscapes_guarded {text : List Char} (plain : backslash ∉ text) :
    withoutEscapes (Texts.guarded text) = text := by
  induction text with
  | nil => rfl
  | cons c rest ih =>
    have rest_plain : backslash ∉ rest := fun inside => plain (List.mem_cons_of_mem _ inside)
    have apart : c ≠ backslash := fun same => plain (same ▸ List.mem_cons_self)
    have others : withoutEscapes (rest.flatMap fun c =>
        if c = doubleQuote then [backslash, doubleQuote] else [c]) = rest := ih rest_plain
    rw [Texts.guarded, List.flatMap_cons]
    by_cases quote : c = doubleQuote
    · rw [if_pos quote, quote]
      simp [withoutEscapes, isEscapable, isQuote, others]
    · rw [if_neg quote, List.singleton_append, withoutEscapes_cons apart, others]

/-- A text between two equal quotes loses them. -/
theorem withoutQuotes_enclosed {quote : Char} (is : isQuote quote = true) (inside : List Char) :
    withoutQuotes (quote :: (inside ++ [quote])) = inside := by
  obtain ⟨second, rest, start⟩ := List.exists_cons_of_ne_nil (show inside ++ [quote] ≠ [] by simp)
  have ends : (second :: rest).getLast? = some quote := by rw [← start, List.getLast?_concat]
  rw [start, withoutQuotes, is, ends, beq_self_eq_true, Bool.and_self, if_pos rfl, ← start,
    List.dropLast_concat]

/-- A text of characters that stand for themselves is unwrapped to itself. -/
theorem unwrap_bare {text : String} (bare : ∀ c ∈ text.toList, Texts.isBareInList c = true) :
    unwrap text = text := by
  have plain : backslash ∉ text.toList := fun inside => absurd (bare backslash inside) (by decide)
  have unquoted : withoutQuotes text.toList = text.toList := by
    unfold withoutQuotes
    split
    · rename_i first second rest same
      have stands := bare first (by simp [same])
      have mark : isQuote first = false := by
        cases is : isQuote first with
        | false => rfl
        | true =>
          rw [Texts.isPlain_isBareInList.quote first is] at stands
          cases stands
      simp [mark]
    · rfl
  rw [unwrap, unquoted, withoutEscapes_plain plain, String.ofList_toList]

/-- Unwrapping a quoted text gives the text. -/
theorem unwrap_inQuotes {text : List Char} (plain : backslash ∉ text) :
    unwrap (String.ofList (Texts.inQuotes text)) = String.ofList text := by
  rw [unwrap, String.toList_ofList, Texts.inQuotes, withoutQuotes_enclosed (by decide),
    withoutEscapes_guarded plain]

end Fragment

/-- A text as it can be written in a line: in double quotes. -/
def quotation (text : String) : String := String.ofList (Texts.inQuotes text.toList)

/-- Quoted texts with separators before all but the first. -/
def quotationList (first : String) (others : List (String × String)) : String :=
  quotation first ++ String.join (others.map fun other => other.1 ++ quotation other.2)

/-- A quotation is its text in quotes. -/
@[simp] theorem toList_quotation (text : String) :
    (quotation text).toList = Texts.inQuotes text.toList := String.toList_ofList

/-- A list of quotations is the first text in quotes, and then the others with what separates them. -/
theorem toList_quotationList (first : String) (others : List (String × String)) :
    (quotationList first others).toList = Texts.inQuotes first.toList ++
      (others.map fun other => (other.1.toList, Texts.inQuotes other.2.toList)).flatMap
        fun other => other.1 ++ other.2 := by
  rw [quotationList, String.toList_append, toList_quotation, String.toList_join, List.flatMap_map,
    List.flatMap_map]
  simp

/-- Quoted texts without backslashes are elements of a list. -/
theorem quoted_elements {others : List (String × String)}
    (each : ∀ other ∈ others, other.1.toList ∈ Texts.separator ∧ backslash ∉ other.2.toList) :
    ∀ other ∈ others.map fun other => (other.1.toList, Texts.inQuotes other.2.toList),
      other.1 ∈ Texts.separator ∧ other.2 ∈ Texts.listArgument := by
  intro other listed
  obtain ⟨other, inside, rfl⟩ := List.mem_map.mp listed
  exact ⟨(each other inside).1, Texts.inQuotes_mem_argumentOf (each other inside).2 _⟩

/-- A quoted text begins with a quote. -/
theorem head_quotation (text : String) (rest : List Char) :
    ∀ c ∈ (Texts.inQuotes text.toList ++ rest).head?, isSpace c = false := by
  intro c first
  cases first
  decide

/-- A list of quoted texts ends with a quote. -/
theorem getLast_quotationList (first : String) (others : List (String × String)) :
    ∀ c ∈ (quotationList first others).toList.getLast?, isSpace c = false := by
  have closed (text : String) : (Texts.inQuotes text.toList).getLast? = some doubleQuote := by
    rw [Texts.inQuotes, ← List.cons_append, List.getLast?_concat]
  have last : (quotationList first others).toList.getLast? = some doubleQuote := by
    rw [toList_quotationList]
    cases others using List.reverseRecOn with
    | nil => simp [closed]
    | append_singleton others other =>
      rw [List.map_append, List.flatMap_append, ← List.append_assoc]
      simp [List.getLast?_append, closed]
  intro c stop
  rw [last] at stop
  cases stop
  decide

/-- The value of a quoted text is the text. -/
theorem Capture.single_quotation {capture : Capture} (untyped : capture.type = none)
    (asked : Option String) {text : String} (plain : backslash ∉ text.toList) :
    capture.single asked (quotation text) = .ok (.text text) := by
  rw [Capture.single, untyped, quotation, Fragment.unwrap_inQuotes plain, String.ofList_toList]

/-- The value of a list of quoted texts is the list of the texts. -/
theorem Capture.value_quotationList {capture : Capture} (untyped : capture.type = none)
    {splitter : Pattern} (isList : capture.splitter = some splitter)
    (splits : splitter.Splits Texts.listArgument) (asked : Option String) {first : String}
    {others : List (String × String)} (plain : backslash ∉ first.toList)
    (each : ∀ other ∈ others, other.1.toList ∈ Texts.separator ∧ backslash ∉ other.2.toList) :
    capture.value asked (quotationList first others) =
      .ok (.list ((first :: others.map (·.2)).map .text)) := by
  have elements := elementTexts_eq splits Texts.delimited_listArgument
    (toList_quotationList first others) (Texts.inQuotes_mem_argumentOf plain _) (quoted_elements each)
  have pieces : elementTexts splitter (quotationList first others) =
      (first :: others.map (·.2)).map quotation := by
    rw [elements]
    simp [quotation, Function.comp_def]
  have values : ((first :: others.map (·.2)).map quotation).mapM (capture.single asked) =
      .ok ((first :: others.map (·.2)).map .text) := by
    rw [Except.mapM_eq_ok, List.forall₂_map_left_iff, List.forall₂_map_right_iff, List.forall₂_same]
    intro text listed
    refine capture.single_quotation untyped asked ?_
    rcases List.mem_cons.mp listed with rfl | listed
    · exact plain
    · obtain ⟨other, inside, rfl⟩ := List.mem_map.mp listed
      exact (each other inside).2
  rw [Capture.value, isList]
  simp only [pieces, values]
  rfl

/-- Behind keywords, a capture of one argument reads a quoted text as the text. -/
theorem Expression.read_quotation {words : List String} (keywords : ∀ word ∈ words, IsKeyword word)
    {name : String} (named : IsKeyword name) {text : String} (plain : backslash ∉ text.toList) :
    ∃ expression reading,
      Expression.compile .numeric (" ".intercalate (words ++ [":" ++ name])) = .ok expression ∧
      expression.read (" ".intercalate (words ++ [quotation text])) = .ok (some reading) ∧
      reading.value (.name name) = .ok (.text text) := by
  have written : (":" ++ name).toList = ':' :: name.toList := by simp
  have isPhrase := Phrase.of_keywords keywords ':' rfl named written
  have alone : quotationList text [] = quotation text := String.append_empty
  have computed : Capture.value (some (" ".intercalate (words ++ [":" ++ name])))
      ⟨name, .argument, none, none⟩ (quotation text) = .ok (.text text) := by
    rw [Capture.value]
    exact Capture.single_quotation rfl _ plain
  refine read_keywords keywords isPhrase rfl rfl ?_ ?_ ?_ computed
  · rw [toList_quotation]
    exact Texts.inQuotes_mem_argumentOf plain _
  · simpa using head_quotation text []
  · simpa [alone] using getLast_quotationList text []

/-- Behind keywords, a capture of a list reads quoted texts with separators between them as the list of
the texts. -/
theorem Expression.read_quotationList {words : List String}
    (keywords : ∀ word ∈ words, IsKeyword word) {name : String} (named : IsKeyword name) {first : String}
    {others : List (String × String)} (plain : backslash ∉ first.toList)
    (each : ∀ other ∈ others, other.1.toList ∈ Texts.separator ∧ backslash ∉ other.2.toList) :
    ∃ expression reading,
      Expression.compile .numeric (" ".intercalate (words ++ ["*" ++ name])) = .ok expression ∧
      expression.read (" ".intercalate (words ++ [quotationList first others])) =
        .ok (some reading) ∧
      reading.value (.name name) = .ok (.list ((first :: others.map (·.2)).map .text)) := by
  have written : ("*" ++ name).toList = '*' :: name.toList := by simp
  have isPhrase := Phrase.of_keywords keywords '*' rfl named written
  obtain ⟨splitter, isSplitter, splits⟩ := splitter_read IsUnit.listArgument
  have compiled : (Token.unconstrained .argumentList name).compiled .numeric =
      .ok (Token.captured (Fragment.oneOrMoreOf Fragment.listArgument),
        [⟨name, .argumentList, none, some splitter⟩]) := by
    have taken : Token.splitterOf Fragment.listArgument = .ok splitter := by
      simp only [Token.splitterOf, isSplitter]
    simp [Token.compiled, Token.unconstrained, Token.typeIn, Token.element, taken, bind, Except.bind,
      pure, Except.pure]
  refine read_keywords keywords isPhrase rfl compiled ?_ ?_ (getLast_quotationList first others)
    (Capture.value_quotationList rfl rfl splits _ plain each)
  · rw [toList_quotationList]
    exact Texts.mem_listOf.mpr
      ⟨_, Texts.inQuotes_mem_argumentOf plain _, _, quoted_elements each, rfl⟩
  · rw [toList_quotationList]
    exact head_quotation first _

/-- A text without backslashes comes back from an expression that captures it behind some keywords when
it is written in quotes, and so does every list of such texts, whatever separates them. Expression and
line have one blank between their parts; without keywords there is only the last part. -/
theorem Expression.quoting_round_trip {words : List String} (keywords : ∀ word ∈ words, IsKeyword word) :
    (∀ text : String, backslash ∉ text.toList →
      ∃ expression reading,
        Expression.compile .numeric (" ".intercalate (words ++ [":x"])) = .ok expression ∧
        expression.read (" ".intercalate (words ++ [quotation text])) = .ok (some reading) ∧
        reading.value (.name "x") = .ok (.text text)) ∧
    ∀ (first : String) (others : List (String × String)), backslash ∉ first.toList →
      (∀ other ∈ others, other.1.toList ∈ Texts.separator ∧ backslash ∉ other.2.toList) →
        ∃ expression reading,
          Expression.compile .numeric (" ".intercalate (words ++ ["*xs"])) = .ok expression ∧
          expression.read (" ".intercalate (words ++ [quotationList first others])) =
            .ok (some reading) ∧
          reading.value (.name "xs") = .ok (.list ((first :: others.map (·.2)).map .text)) := by
  have one : IsKeyword "x" := by decide
  have several : IsKeyword "xs" := by decide
  exact ⟨fun _ plain => read_quotation keywords one plain,
    fun _ _ plain each => read_quotationList keywords several plain each⟩

/-- A text with quotes of its own, and a list of two texts that hold a comma and a line feed. -/
theorem Expression.quoting_round_trip_add :
    (∃ expression reading, Expression.compile .numeric "add :x" = .ok expression ∧
      expression.read "add \"say \\\"hi\\\"\"" = .ok (some reading) ∧
      reading.value (.name "x") = .ok (.text "say \"hi\"")) ∧
    ∃ expression reading, Expression.compile .numeric "add *xs" = .ok expression ∧
      expression.read "add \"a, b\", \"c\nd\"" = .ok (some reading) ∧
      reading.value (.name "xs") = .ok (.list [.text "a, b", .text "c\nd"]) := by
  have keywords : ∀ word ∈ ["add"], IsKeyword word := by decide
  have separator : ", ".toList ∈ Texts.separator :=
    .inr ⟨[' '], by simpa using show isSpace ' ' = true by decide, rfl⟩
  have one : " ".intercalate (["add"] ++ [":x"]) = "add :x" := by decide
  have several : " ".intercalate (["add"] ++ ["*xs"]) = "add *xs" := by decide
  have text : " ".intercalate (["add"] ++ [quotation "say \"hi\""]) = "add \"say \\\"hi\\\"\"" := by
    decide
  have list : " ".intercalate (["add"] ++ [quotationList "a, b" [(", ", "c\nd")]]) =
      "add \"a, b\", \"c\nd\"" := by decide
  obtain ⟨texts, lists⟩ := Expression.quoting_round_trip keywords
  rw [← one, ← several, ← text, ← list]
  refine ⟨texts "say \"hi\"" (by decide), lists "a, b" [(", ", "c\nd")] (by decide) ?_⟩
  intro other listed
  rw [List.mem_singleton.mp listed]
  exact ⟨separator, by decide⟩

end LineGrammar
