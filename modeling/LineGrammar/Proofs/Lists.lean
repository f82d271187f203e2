import LineGrammar.Proofs.Matching
import LineGrammar.Proofs.Splitting

/-!
# The values of lists

What a list captures is one element or several with separators between them, and the splitter takes it
apart into these elements again. So the value of the list has one entry for every element, in order, and
each entry is the value of the element by itself.

The pattern of the line decides which elements there are; that the splitter agrees with it is a fact
about the languages of elements, and holds wherever the list begins and ends.
-/

namespace LineGrammar

open LineGrammar.Text LineGrammar.Pattern LineGrammar.Phrase

/-- The value of a capture is nothing when its group took no part, and else the value of its text. -/
theorem Reading.valuesFrom_getElem? {asked : Option String} {line : Array Char} {found : Match}
    {start : Nat} {captures : List Capture} {values : List (String × Value)}
    (computed : Reading.valuesFrom asked line found start captures = .ok values) {index : Nat}
    {capture : Capture} (listed : captures[index]? = some capture) :
    ∃ value, values[index]? = some (capture.name, value) ∧
      (groupText? line found (start + index) = none → value = .nothing) ∧
      ∀ text, groupText? line found (start + index) = some text →
        capture.value asked text = .ok value := by
  induction captures generalizing start index values with
  | nil => cases listed
  | cons first rest ih =>
    have step : ∃ value, (groupText? line found start = none → value = .nothing) ∧
        (∀ text, groupText? line found start = some text → first.value asked text = .ok value) ∧
        ∃ others, valuesFrom asked line found (start + 1) rest = .ok others ∧
          values = (first.name, value) :: others := by
      rw [valuesFrom] at computed
      cases took : groupText? line found start with
      | none =>
        rw [took] at computed
        obtain ⟨value, here, computed⟩ := Except.bind_eq_ok.mp computed
        obtain ⟨others, after, same⟩ := Except.bind_eq_ok.mp computed
        cases here
        cases same
        exact ⟨.nothing, fun _ => rfl, nofun, others, after, rfl⟩
      | some text =>
        rw [took] at computed
        obtain ⟨value, here, computed⟩ := Except.bind_eq_ok.mp computed
        obtain ⟨others, after, same⟩ := Except.bind_eq_ok.mp computed
        cases same
        refine ⟨value, nofun, fun other same => ?_, others, after, rfl⟩
        cases same
        exact here
    obtain ⟨value, none, some, others, after, rfl⟩ := step
    cases index with
    | zero =>
      cases listed
      exact ⟨value, rfl, none, some⟩
    | succ index =>
      rw [show start + (index + 1) = start + 1 + index by omega]
      exact ih after (by simpa using listed)

/-- What a list token is compiled to. -/
theorem Capture.Of.list {types : TypeTable} {token : Token} {capture : Capture}
    (of : capture.Of types token) (list : token.kind = .argumentList) :
    ∃ type splitter, token.typeIn types = .ok type ∧
      Pattern.read (Fragment.listElement (token.element type)) .none = .ok splitter ∧
      capture = ⟨token.name, .argumentList, type, some splitter⟩ := by
  obtain ⟨fragment, compiled⟩ := of
  obtain ⟨kind, name, remark, reference, choices⟩ := token
  cases list
  obtain ⟨type, typed, rest⟩ := Except.bind_eq_ok.mp compiled
  obtain ⟨splitter, isSplitter, same⟩ := Except.bind_eq_ok.mp rest
  cases same
  refine ⟨type, splitter, typed, ?_, rfl⟩
  simp only [Token.splitterOf] at isSplitter
  split at isSplitter
  · rename_i pattern isPattern
    cases isSplitter
    exact isPattern
  · cases isSplitter

/-- The value of a list whose text is made of delimited elements. -/
theorem Capture.value_list {capture : Capture} {splitter : Pattern} (isList : capture.splitter = some splitter)
    {pieces : Language Char} (splits : splitter.Splits pieces) (delimited : Texts.Delimited pieces)
    {asked : Option String} {text : String} {value : Value}
    (computed : capture.value asked text = .ok value) {first : List Char}
    {others : List (List Char × List Char)}
    (whole : text.toList = first ++ others.flatMap fun other => other.1 ++ other.2)
    (taken : first ∈ pieces) (each : ∀ other ∈ others, other.1 ∈ Texts.separator ∧ other.2 ∈ pieces) :
    ∃ values, value = .list values ∧ List.Forall₂ (fun piece value =>
      capture.single asked (String.ofList piece) = .ok value) (first :: others.map (·.2)) values := by
  rw [Capture.value, isList] at computed
  simp only [elementTexts_eq splits delimited whole taken each] at computed
  cases parts : ((first :: others.map (·.2)).map String.ofList).mapM (capture.single asked) with
  | error fault =>
    rw [parts] at computed
    cases computed
  | ok values =>
    rw [parts] at computed
    cases computed
    exact ⟨values, rfl, List.forall₂_map_left_iff.mp (Except.mapM_eq_ok.mp parts)⟩

/-- The text of a list that takes part in a reading is one element or several with separators between
them, each of them a full match of the fragment that the capture was compiled with; and its value has
exactly the values of these elements, in order. -/
theorem Expression.list_lossless {text line : String} {expression : Expression} {reading : Reading}
    (compiled : Expression.compile .numeric text = .ok expression)
    (read : expression.read line = .ok (some reading)) {index : Nat} {capture : Capture}
    (listed : expression.captures[index]? = some capture) (list : capture.kind = .argumentList)
    {group : String} (took : Reading.groupText? reading.line reading.found (index + 1) = some group) :
    ∃ phrase token type, Phrase.of text = .ok phrase ∧ phrase.capturing[index]? = some token ∧
      token.typeIn .numeric = .ok type ∧
      ∃ splitter whole, capture = ⟨token.name, .argumentList, type, some splitter⟩ ∧
        Pattern.read (Fragment.listElement (token.element type)) .none = .ok splitter ∧
        Pattern.read (token.element type) .none = .ok whole ∧
        ∃ (first : List Char) (others : List (List Char × List Char)) (values : List Value),
          group.toList = first ++ others.flatMap (fun other => other.1 ++ other.2) ∧
          (∀ other ∈ others, other.1 ∈ Texts.separator) ∧
          (∀ piece ∈ first :: others.map (·.2), whole.matchesFully piece = true) ∧
          reading.captures[index]? = some (capture.name, .list values) ∧
          List.Forall₂ (fun piece value =>
            capture.single (some expression.text) (String.ofList piece) = .ok value)
            (first :: others.map (·.2)) values := by
  obtain ⟨phrase, isPhrase, lines, body, captures⟩ :=
    compile_linePattern TypeTable.numeric_means compiled
  obtain ⟨matched, isLine, computed⟩ := read_eq_some read
  rw [isLine] at took
  -- The token that the capture was compiled from.
  obtain ⟨token, isToken, of⟩ := exists_token_of_capture captures listed
  have kind : token.kind = .argumentList := of.name_kind.2 ▸ list
  have wellFormed : token.WellFormed := Phrase.of_wellFormed isPhrase token
    (List.mem_of_mem_filter (List.mem_of_getElem? isToken))
  obtain ⟨type, splitter, typed, isSplitter, rfl⟩ := of.list kind
  have unit := Token.element_isUnit TypeTable.numeric_means typed
  obtain ⟨whole, isWhole, full⟩ := unit.run.read
  obtain ⟨other, isOther, splits⟩ := splitter_read unit
  rw [isSplitter] at isOther
  cases isOther
  -- What it took is a list of elements.
  have body : group.toList ∈ Texts.listOf (token.elements Texts.ofType) := by
    simpa [Token.bodies, kind] using lines.mem_bodies matched isToken took
  obtain ⟨first, inside, others, each, written⟩ := Texts.mem_listOf.mp body
  have all : expression.captures.take expression.pattern.groups = expression.captures := by
    have aligned := compiled_captures captures
    rw [lines.groups, aligned.length_eq, List.take_length]
  rw [all] at computed
  obtain ⟨value, atIndex, -, converted⟩ := Reading.valuesFrom_getElem? computed listed
  rw [Nat.add_comm] at took
  obtain ⟨values, rfl, entries⟩ := Capture.value_list rfl splits (Token.delimited_elements wellFormed kind)
    (converted group took) written inside each
  refine ⟨phrase, token, type, isPhrase, isToken, typed, splitter, whole, rfl, isSplitter, isWhole, first,
    others, values, written, fun other listed => (each other listed).1, fun piece listed => ?_, atIndex,
    entries⟩
  rw [full]
  rcases List.mem_cons.mp listed with rfl | listed
  · exact inside
  · obtain ⟨other, inOthers, rfl⟩ := List.mem_map.mp listed
    exact (each other inOthers).2

/-- In the reading of a list with a separator in a quoted element, there is a value for each element. -/
theorem Expression.list_lossless_quoted :
    ∃ expression reading capture group, Expression.compile .numeric "add *items" = .ok expression ∧
      expression.read "add 'a, b', c" = .ok (some reading) ∧
      expression.captures[0]? = some capture ∧
      Reading.groupText? reading.line reading.found 1 = some group ∧
      ∃ (first : List Char) (others : List (List Char × List Char)) (values : List Value),
        group.toList = first ++ others.flatMap (fun other => other.1 ++ other.2) ∧
        reading.captures[0]? = some (capture.name, .list values) ∧
        values.length = others.length + 1 := by
  obtain ⟨expression, reading, compiled, read, tested⟩ := Expression.exists_of_reads
    (show Expression.reads "add *items" "add 'a, b', c" (fun expression reading =>
      (expression.captures[0]?.any fun capture => capture.kind = .argumentList) &&
        (Reading.groupText? reading.line reading.found 1).isSome) = true by decide +kernel)
  rw [Bool.and_eq_true, Option.any_eq_true] at tested
  obtain ⟨⟨capture, listed, list⟩, took⟩ := tested
  obtain ⟨group, took⟩ := Option.isSome_iff_exists.mp took
  obtain ⟨_, _, _, _, _, _, _, _, _, _, _, first, others, values, written, _, _, atIndex, entries⟩ :=
    Expression.list_lossless compiled read listed (by simpa using list) took
  exact ⟨expression, reading, capture, group, compiled, read, listed, took, first, others, values,
    written, atIndex, by simpa using entries.length_eq.symm⟩

end LineGrammar
