import LineGrammar.Proofs.Matching

/-!
# The first token of a line

The first token of a line should need no white space before it, whichever optional groups are left out.
But the white space is dropped once, where the pattern begins, and so only for a token that stands at the
very start of the expression. A token that comes first because the groups before it are left out, or
because its own group is entered, still asks for white space; only symbols never do.

So a line without white space at its front is matched exactly when it can be built along a selection that
opens with the token at the very start, or with a symbol, or with nothing at all. For an expression that
does not begin with a group, these are all selections.
-/

namespace LineGrammar

open LineGrammar.Text LineGrammar.Phrase

namespace Phrase

variable {phrase : Phrase} {ofType : String → Language Char} {selection : Selection phrase}
  {parts : List Part}

/-- Slots, the first of which counts as the very start. -/
def atFront : List (Slot phrase) → List (Slot phrase)
  | [] => []
  | first :: others => { first with atStart := true } :: others

/-- Every token that a selection keeps has its part, in order, and the first one takes no white space. -/
def FitsBare (ofType : String → Language Char) (phrase : Phrase) (selection : Selection phrase)
    (parts : List Part) : Prop :=
  List.Forall₂ (Slot.Takes ofType) (atFront (phrase.kept selection)) parts

/-- The first token that a selection keeps asks for no white space: it stands at the very start, or it is
a symbol. -/
def Opens (phrase : Phrase) (selection : Selection phrase) : Prop :=
  ∀ slot ∈ (phrase.kept selection).head?, slot.atStart = true ∨ slot.token.kind = .symbol

/-- A phrase that begins with a token opens with it. -/
theorem opens_token (first : Token) (rest : Phrase) (selection : Selection (.token first rest)) :
    (Phrase.token first rest).Opens selection := by
  intro slot listed
  rw [kept, slotsFrom, List.filter_cons_of_pos rfl, List.head?_cons] at listed
  cases listed
  exact .inl rfl

/-- The tokens of a selection that opens take no white space at the front anyway. -/
theorem Opens.fitsBare_iff (opens : phrase.Opens selection) :
    phrase.FitsBare ofType selection parts ↔ phrase.Fits ofType selection parts := by
  rw [FitsBare, Fits]
  rw [Opens] at opens
  generalize phrase.kept selection = slots at opens ⊢
  cases slots with
  | nil => rfl
  | cons first others =>
    have gaps : first.token.gaps true = first.token.gaps first.atStart := by
      rcases opens first rfl with start | symbol
      · rw [start]
      · simp [Token.gaps, symbol]
    have takes (part : Part) : Slot.Takes ofType { first with atStart := true } part ↔
        first.Takes ofType part :=
      ⟨fun taken => ⟨gaps ▸ taken.gap, taken.body⟩, fun taken => ⟨gaps ▸ taken.gap, taken.body⟩⟩
    cases parts with
    | nil => simp [atFront]
    | cons part parts => simp only [atFront, List.forall₂_cons, takes]

/-- A selection whose line has no white space at its front opens. -/
theorem opens_of_fits (fits : phrase.Fits ofType selection parts)
    (bare : ∀ c ∈ (lineOf parts).head?, isSpace c = false) : phrase.Opens selection := by
  rw [Opens]
  rw [Fits] at fits
  generalize phrase.kept selection = slots at fits ⊢
  intro slot listed
  cases fits with
  | nil => cases listed
  | @cons first part others parts takes _ =>
    cases listed
    by_contra closed
    obtain ⟨start, kind⟩ := not_or.mp closed
    have gap : part.gap ∈ Texts.gap := by
      simpa [Token.gaps, start, kind] using takes.gap
    obtain ⟨c, spaces, shape⟩ := List.exists_cons_of_ne_nil gap.1
    have blank : isSpace c = true := gap.2 c (by simp [shape])
    have front := bare c (by simp [shape])
    rw [blank] at front
    cases front

end Phrase

namespace Expression

/-- A line whose first token takes no white space is matched when its selection opens, as all selections do
in an expression that begins with a token. And a line that has no white space at its front is matched only
when it is built along such a selection. -/
theorem matches_opening {text : String} {expression : Expression}
    (compiled : Expression.compile .numeric text = .ok expression) :
    ∃ phrase, Phrase.of text = .ok phrase ∧
      (∀ (selection : Selection phrase) (parts : List Part) (tail : List Char) (line : String),
        phrase.Opens selection → phrase.FitsBare Texts.ofType selection parts → tail ∈ Texts.blank →
          line.toList = lineOf parts ++ tail →
            (expression.pattern.matchStart line.toList.toArray).isSome = true) ∧
      (∀ first rest, phrase = .token first rest → ∀ selection, phrase.Opens selection) ∧
      ∀ line : String, (∀ c ∈ line.toList.head?, isSpace c = false) →
        ((expression.pattern.matchStart line.toList.toArray).isSome = true ↔
          ∃ selection : Selection phrase, selection.Closed ∧ phrase.Opens selection ∧
            ∃ parts tail, phrase.FitsBare Texts.ofType selection parts ∧ tail ∈ Texts.blank ∧
              line.toList = lineOf parts ++ tail) := by
  obtain ⟨phrase, read, lines, -⟩ := compile_linePattern TypeTable.numeric_means compiled
  have along (selection : Selection phrase) (parts : List Part) (tail : List Char) (line : String)
      (opens : phrase.Opens selection) (fits : phrase.FitsBare Texts.ofType selection parts)
      (blank : tail ∈ Texts.blank) (whole : line.toList = lineOf parts ++ tail) :
      (expression.pattern.matchStart line.toList.toArray).isSome = true := by
    obtain ⟨filling, fitsFilling, rfl⟩ := Filling.exists_of_takes (opens.fitsBare_iff.mp fits)
    exact lines.matchStart_isSome fitsFilling blank (by simpa [Filling.line] using whole)
  refine ⟨phrase, read, along, ?_, fun line bare => ⟨fun matched => ?_, ?_⟩⟩
  · rintro first rest rfl selection
    exact opens_token first rest selection
  · obtain ⟨found, matched⟩ := Option.isSome_iff_exists.mp matched
    obtain ⟨filling, fits, tail, blank, whole, -⟩ := lines.matchStart_sound matched
    have fits : phrase.Fits Texts.ofType filling.selection filling.parts := filling.takes fits
    have whole : line.toList = lineOf filling.parts ++ tail := by simpa [Filling.line] using whole
    have opens := opens_of_fits fits fun c first => bare c (by
      rw [whole, List.head?_append, first]
      rfl)
    exact ⟨filling.selection, filling.selection_closed, opens, filling.parts, tail,
      opens.fitsBare_iff.mpr fits, blank, whole⟩
  · rintro ⟨selection, -, opens, parts, tail, fits, blank, whole⟩
    exact along selection parts tail line opens fits blank whole

/-- A symbol in a group that is entered opens the line. -/
theorem matches_opening_symbol :
    ∃ expression, Expression.compile .numeric "[+] go" = .ok expression ∧
      (expression.pattern.matchStart "+ go".toList.toArray).isSome = true := by
  obtain ⟨expression, _, compiled, _⟩ := exists_of_reads
    (show reads "[+] go" "+ go" (fun _ _ => true) = true by decide +kernel)
  obtain ⟨phrase, isPhrase, lines, -⟩ := matches_opening compiled
  have spelled : Phrase.of "[+] go" = .ok (.optional (.token ⟨.symbol, "+", none, none, none⟩ .done)
      (.token ⟨.word, "go", none, none, none⟩ .done)) := by rfl
  rw [spelled] at isPhrase
  cases isPhrase
  have blank : [' '] ∈ Texts.gap := by simpa using show isSpace ' ' = true by decide
  refine ⟨expression, compiled, lines (fun _ => true) [⟨[], ['+']⟩, ⟨[' '], ['g', 'o']⟩] [] _ ?_ ?_
    (by simp) (by rfl)⟩
  · rintro slot ⟨⟩
    exact .inr rfl
  · exact .cons ⟨rfl, rfl⟩ (.cons ⟨blank, rfl⟩ .nil)

/-- When the group at the front is left out, the word behind it comes first and takes no white space; but
its line is not matched. -/
theorem opening_unmatched :
    ∃ expression phrase, Expression.compile .numeric "[please] go" = .ok expression ∧
      Phrase.of "[please] go" = .ok phrase ∧
      ∃ selection : Selection phrase, selection.Closed ∧
        phrase.FitsBare Texts.ofType selection [⟨[], ['g', 'o']⟩] ∧
        "go".toList = lineOf [⟨[], ['g', 'o']⟩] ∧
        (expression.pattern.matchStart "go".toList.toArray).isSome = false := by
  have missed : (Expression.compile .numeric "[please] go").toOption.map (fun expression =>
      (expression.pattern.matchStart "go".toList.toArray).isSome) = some false := by
    decide +kernel
  obtain ⟨expression, compiled, missed⟩ := Option.map_eq_some_iff.mp missed
  have spelled : Phrase.of "[please] go" = .ok (.optional
      (.token ⟨.word, "please", none, none, none⟩ .done)
      (.token ⟨.word, "go", none, none, none⟩ .done)) := by rfl
  refine ⟨expression, _, Except.eq_ok_of_toOption compiled, spelled, fun _ => false, ?_, ?_, by rfl,
    missed⟩
  · nofun
  · exact .cons ⟨rfl, rfl⟩ .nil

end Expression

end LineGrammar
