import LineGrammar.Proofs.Matching

/-!
# The match that is found

A line can be built along an expression in several ways. The match that is found belongs to the laziest
of them: it skips a group whenever the rest can still match, and takes for free text as little as lets
the rest match. Both are said against every other way to build the line that agrees with it to the left
of the group or of the text.
-/

namespace LineGrammar

open LineGrammar.Text LineGrammar.Pattern LineGrammar.Phrase

/-- A filling makes a line, with white space behind it. -/
def Filling.Decomposes {phrase : Phrase} (line : List Char) (filling : Filling phrase) : Prop :=
  filling.Fits Texts.ofType true ∧ ∃ tail ∈ Texts.blank, line = filling.line ++ tail

/-- The fillings that make a line are the ways to build it along closed selections of groups. -/
theorem Filling.exists_decomposes_iff {phrase : Phrase} {line : List Char} {selection : Selection phrase}
    {parts : List Part} :
    (∃ filling : Filling phrase, filling.Decomposes line ∧ filling.selection = selection ∧
      filling.parts = parts) ↔
      selection.Closed ∧ phrase.Fits Texts.ofType selection parts ∧
        ∃ tail ∈ Texts.blank, line = lineOf parts ++ tail := by
  rw [← and_assoc, ← Filling.exists_iff_closed]
  constructor
  · rintro ⟨filling, ⟨fits, whole⟩, rfl, rfl⟩
    exact ⟨⟨filling, fits, rfl, rfl⟩, whole⟩
  · rintro ⟨⟨filling, fits, rfl, rfl⟩, whole⟩
    exact ⟨filling, ⟨fits, whole⟩, rfl, rfl⟩

/-- Among the fillings that make a line, one is the laziest: what has the same to the left of a group
that it enters enters it too, and what has the same to the left of a free text has no shorter one. -/
structure Filling.Laziest {phrase : Phrase} (line : List Char) (filling : Filling phrase) : Prop where
  decomposes : filling.Decomposes line
  enters : ∀ other : Filling phrase, other.Decomposes line → ∀ group,
    filling.selection group = true → other.leftOf group = filling.leftOf group →
      other.selection group = true
  shortest : ∀ other : Filling phrase, other.Decomposes line →
    ∀ (spot : Spot phrase) (body : List Char), spot.token.kind = .freeText →
      filling.text? spot = some body → other.leftOfText spot = filling.leftOfText spot →
        ∃ text, other.text? spot = some text ∧ body.length ≤ text.length

/-- A filling that is as lazy as every other one is the laziest. -/
theorem Filling.laziest_of_asLazyAs {phrase : Phrase} {line : List Char} {filling : Filling phrase}
    (decomposes : filling.Decomposes line)
    (lazy : ∀ other : Filling phrase, other.Decomposes line → filling.AsLazyAs other) :
    filling.Laziest line where
  decomposes := decomposes
  enters other makes _ entered same := (lazy other makes).enters entered same
  shortest other makes _ _ free taken same := (lazy other makes).length_le free taken same

/-- What an expression finds in a line is noted by the laziest of the fillings that make the line; and these
are the ways to build the line along selections of groups that are closed under the groups around them. -/
theorem Expression.match_laziest {text line : String} {expression : Expression} {found : Match}
    (compiled : Expression.compile .numeric text = .ok expression)
    (matched : expression.pattern.matchStart line.toList.toArray = some found) :
    ∃ phrase, Phrase.of text = .ok phrase ∧
      (∀ (selection : Selection phrase) (parts : List Part),
        (∃ other : Filling phrase, other.Decomposes line.toList ∧ other.selection = selection ∧
          other.parts = parts) ↔
          selection.Closed ∧ phrase.Fits Texts.ofType selection parts ∧
            ∃ tail ∈ Texts.blank, line.toList = lineOf parts ++ tail) ∧
      ∃ filling : Filling phrase, filling.selection.Closed ∧ filling.Laziest line.toList ∧
        (filling.captured 0).length = expression.captures.length ∧
        filling.NotedBy line.toList.toArray found := by
  obtain ⟨phrase, isPhrase, lines, body, captures⟩ :=
    compile_linePattern TypeTable.numeric_means compiled
  obtain ⟨filling, fits, tail, blank, whole, -, groups, lazy⟩ := lines.matchStart_laziest matched
  refine ⟨phrase, isPhrase, fun _ _ => Filling.exists_decomposes_iff, filling,
    filling.selection_closed, ?_, ?_, ?_⟩
  · apply Filling.laziest_of_asLazyAs ⟨fits, tail, blank, whole⟩
    rintro other ⟨fitsOther, rest, blankRest, wholeOther⟩
    exact lazy other fitsOther rest blankRest wholeOther
  · rw [filling.length_captured, (compiled_captures captures).length_eq]
  · exact Filling.notedBy_of_groups ⟨tail, whole.symm⟩ groups

/-- In "say hi loudly", the message of "say +message [loudly]" is as short as the group allows. -/
theorem Expression.match_laziest_say :
    ∃ expression reading, Expression.compile .numeric "say +message [loudly]" = .ok expression ∧
      expression.read "say hi loudly" = .ok (some reading) ∧
      Reading.groupText? reading.line reading.found 1 = some "hi" ∧
      ∃ phrase, Phrase.of "say +message [loudly]" = .ok phrase ∧ ∃ filling : Filling phrase,
        filling.Laziest "say hi loudly".toList ∧
          filling.NotedBy "say hi loudly".toList.toArray reading.found := by
  obtain ⟨expression, reading, compiled, read, short⟩ := Expression.exists_of_reads
    (show Expression.reads "say +message [loudly]" "say hi loudly"
      (fun _ reading => Reading.groupText? reading.line reading.found 1 == some "hi") = true by
        decide +kernel)
  obtain ⟨phrase, isPhrase, -, filling, -, laziest, -, noted⟩ :=
    Expression.match_laziest compiled (Expression.read_eq_some read).1
  exact ⟨expression, reading, compiled, read, eq_of_beq short, phrase, isPhrase, filling, laziest,
    noted⟩

/-- A group is entered though a word of the list behind it agrees with the rest of the line: the word is a
capital that is not read as it. -/
theorem Expression.skippable_entered :
    ∃ expression reading, Expression.compile .numeric "w [:a] [:x\x7b𐐀,b\x7d]" = .ok expression ∧
      expression.read "w 𐐀" = .ok (some reading) ∧
      Reading.groupText? reading.line reading.found 1 = some "𐐀" ∧
      Reading.groupText? reading.line reading.found 2 = none ∧
      "𐐀".toList ∈ Texts.agreeingWithAny ["𐐀", "b"] := by
  obtain ⟨expression, reading, compiled, read, groups⟩ := Expression.exists_of_reads
    (show Expression.reads "w [:a] [:x\x7b𐐀,b\x7d]" "w 𐐀" (fun _ reading =>
      Reading.groupText? reading.line reading.found 1 == some "𐐀" &&
        Reading.groupText? reading.line reading.found 2 == none) = true by decide +kernel)
  rw [Bool.and_eq_true, beq_iff_eq, beq_iff_eq] at groups
  refine ⟨expression, reading, compiled, read, groups.1, groups.2, "𐐀", List.mem_cons_self, ?_⟩
  exact .cons (by decide +kernel) .nil

end LineGrammar
