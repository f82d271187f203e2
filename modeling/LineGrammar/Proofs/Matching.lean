import LineGrammar.Proofs.Lines
import LineGrammar.Reading.Basic

/-!
# Expressions and their lines

The pattern of an expression matches a line exactly when the line is built along the phrase of the
expression: some groups are selected, every token that they keep takes its part, and white space may
follow. A match has the groups that the parts say: a capture that is kept has its text where the line
has it, and a capture that is not kept has none.

Of several ways of building a line, a match follows the laziest.
-/

namespace LineGrammar

open LineGrammar.Text LineGrammar.Pattern LineGrammar.Phrase

namespace Phrase.LinePattern

variable {ofType : String → Language Char} {phrase : Phrase} {pattern : Pattern}

/-- The line of a filling with white space after it is matched. -/
theorem matchStart_isSome (lines : phrase.LinePattern ofType pattern) {filling : Filling phrase}
    (fits : filling.Fits ofType true) {tail : List Char} (blank : tail ∈ Texts.blank)
    {line : Array Char} (whole : line.toList = filling.line ++ tail) :
    (pattern.matchStart line).isSome = true := by
  have size : (filling.line ++ tail).length = line.size := by
    rw [← whole, Array.length_toList]
  have way := (lines.ways line ((filling.reached 0 ⟨0, []⟩).after tail.length)).mpr
    ⟨filling, tail, .of_line fits blank whole, rfl⟩
  rw [Pattern.matchStart_eq, lines.switches, Option.isSome_map, List.isSome_head?]
  exact List.ne_nil_of_mem way

/-- A match is the match of the line of a filling with white space after it, and no filling of the line
is lazier. -/
theorem matchStart_laziest (lines : phrase.LinePattern ofType pattern) {line : Array Char}
    {found : Match} (matched : pattern.matchStart line = some found) :
    ∃ filling : Filling phrase, filling.Fits ofType true ∧ ∃ tail ∈ Texts.blank,
      line.toList = filling.line ++ tail ∧ found.start = 0 ∧
        found.groups = (filling.reached 0 ⟨0, []⟩).groups ∧
        ∀ other : Filling phrase, other.Fits ofType true → ∀ rest ∈ Texts.blank,
          line.toList = other.line ++ rest → filling.AsLazyAs other := by
  rw [Pattern.matchStart_eq, lines.switches] at matched
  obtain ⟨place, first, rfl⟩ := Option.map_eq_some_iff.mp matched
  obtain ⟨filling, tail, spans, rfl, lazy⟩ := lines.laziest line place first
  obtain ⟨rest, blank, whole⟩ := spans.exists_line
  exact ⟨filling, spans.fits, rest, blank, whole, rfl, rfl,
    fun other fits rest blank whole => lazy other rest (.of_line fits blank whole)⟩

/-- A match is the match of the line of a filling with white space after it. -/
theorem matchStart_sound (lines : phrase.LinePattern ofType pattern) {line : Array Char}
    {found : Match} (matched : pattern.matchStart line = some found) :
    ∃ filling : Filling phrase, filling.Fits ofType true ∧ ∃ tail ∈ Texts.blank,
      line.toList = filling.line ++ tail ∧ found.start = 0 ∧
        found.groups = (filling.reached 0 ⟨0, []⟩).groups := by
  obtain ⟨filling, fits, tail, blank, whole, start, groups, -⟩ := lines.matchStart_laziest matched
  exact ⟨filling, fits, tail, blank, whole, start, groups⟩

end Phrase.LinePattern

/-- A compiled expression is the pattern of the lines of its phrase. -/
theorem Expression.compile_linePattern {types : TypeTable} {ofType : String → Language Char}
    (means : types.Means ofType) {text : String} {expression : Expression}
    (compiled : Expression.compile types text = .ok expression) :
    ∃ phrase, Phrase.of text = .ok phrase ∧ phrase.LinePattern ofType expression.pattern ∧
      ∃ body, phrase.compiled types = .ok (body, expression.captures) := by
  obtain ⟨phrase, read, body, captures, parts, pattern, isPattern, rfl⟩ :=
    Expression.compile_eq_ok.mp compiled
  have named := fun token listed => (Phrase.of_wellFormed read token listed).named
  obtain ⟨other, isOther, lines⟩ := (Phrase.compiled_spelledAtStart means named parts).wholeLine
  rw [isPattern] at isOther
  cases isOther
  exact ⟨phrase, read, lines, body, parts⟩

/-- A phrase that can be compiled makes an expression. -/
theorem Expression.compile_of_phrase {types : TypeTable} {ofType : String → Language Char}
    (means : types.Means ofType) {text : String} {phrase : Phrase} (read : Phrase.of text = .ok phrase)
    {body : String} {captures : List Capture}
    (compiled : phrase.compiled types = .ok (body, captures)) :
    ∃ pattern, Expression.compile types text = .ok { text, pattern, captures } := by
  have named := fun token listed => (Phrase.of_wellFormed read token listed).named
  obtain ⟨pattern, isPattern, -⟩ := (Phrase.compiled_spelledAtStart means named compiled).wholeLine
  exact ⟨pattern, Expression.compile_eq_ok.mpr ⟨phrase, read, body, captures, compiled, pattern,
    isPattern, rfl⟩⟩

/-! ## Captures -/

/-- A capture is what a token is compiled to. -/
def Capture.Of (types : TypeTable) (token : Token) (capture : Capture) : Prop :=
  ∃ fragment, token.compiled types = .ok (fragment, [capture])

/-- A capture has the name and the kind of its token. -/
theorem Capture.Of.name_kind {types : TypeTable} {token : Token} {capture : Capture}
    (of : capture.Of types token) : capture.name = token.name ∧ capture.kind = token.kind := by
  obtain ⟨fragment, compiled⟩ := of
  obtain ⟨kind, name, remark, reference, choices⟩ := token
  cases kind with
  | symbol => cases compiled
  | word => cases compiled
  | freeText =>
    cases compiled
    exact ⟨rfl, rfl⟩
  | argument =>
    obtain ⟨type, _, same⟩ := Except.bind_eq_ok.mp compiled
    cases same
    exact ⟨rfl, rfl⟩
  | argumentList =>
    obtain ⟨type, _, rest⟩ := Except.bind_eq_ok.mp compiled
    obtain ⟨splitter, _, same⟩ := Except.bind_eq_ok.mp rest
    cases same
    exact ⟨rfl, rfl⟩

/-- The captures of a compiled phrase belong to its capturing tokens, in order. -/
theorem Phrase.compiled_captures {types : TypeTable} {phrase : Phrase} {fragment : String}
    {captures : List Capture} (compiled : phrase.compiled types = .ok (fragment, captures)) :
    List.Forall₂ (fun token capture => Capture.Of types token capture) phrase.capturing captures := by
  induction phrase generalizing fragment captures with
  | done =>
    cases compiled
    exact .nil
  | token first rest ih =>
    obtain ⟨front, firsts, here, after, more, others, rfl, rfl⟩ := compiled_token_eq_ok.mp compiled
    have counted := Token.length_compiled here
    rw [capturing, tokens, List.filter_cons]
    cases captures : first.kind.captures with
    | false =>
      simp only [Token.groups, captures, Bool.false_eq_true, if_false] at counted ⊢
      rw [List.length_eq_zero_iff.mp counted]
      exact ih others
    | true =>
      simp only [Token.groups, captures, if_true] at counted ⊢
      obtain ⟨capture, rfl⟩ := List.length_eq_one_iff.mp counted
      exact .cons ⟨front, here⟩ (ih others)
  | optional inner rest ihInner ih =>
    obtain ⟨inside, firsts, group, after, more, others, rfl, rfl⟩ :=
      compiled_optional_eq_ok.mp compiled
    rw [capturing, tokens, List.filter_append]
    exact List.rel_append (ihInner group) (ih others)

/-- Every capture of a compiled phrase belongs to a capturing token. -/
theorem Phrase.exists_token_of_capture {types : TypeTable} {phrase : Phrase} {fragment : String}
    {captures : List Capture} (compiled : phrase.compiled types = .ok (fragment, captures))
    {index : Nat} {capture : Capture} (listed : captures[index]? = some capture) :
    ∃ token, phrase.capturing[index]? = some token ∧ capture.Of types token := by
  have aligned := compiled_captures compiled
  have bound : index < phrase.capturing.length :=
    aligned.length_eq ▸ (List.getElem?_eq_some_iff.mp listed).1
  have isToken := List.getElem?_eq_getElem bound
  exact ⟨_, isToken, rel_of_getElem? aligned isToken listed⟩

/-- What a filling captures stands in the line where it says. -/
theorem Filling.captured_holds {phrase : Phrase} {line : Array Char} {filling : Filling phrase}
    {position : Nat} (held : Holds line position filling.line) {taken : Nat × List Char}
    (listed : some taken ∈ filling.captured position) : Holds line taken.1 taken.2 := by
  induction filling generalizing position with
  | done => cases listed
  | @token first rest part others ih =>
    simp only [line_token, Holds.append] at held
    obtain ⟨_, body, behind⟩ := held
    rcases List.mem_append.mp listed with here | listed
    · split at here
      · cases List.mem_singleton.mp here
        exact body
      · cases here
    · exact ih behind listed
  | skip others ih =>
    rcases List.mem_append.mp listed with none | listed
    · exact absurd (List.eq_of_mem_replicate none) (by simp)
    · exact ih held listed
  | enter inside others ihInside ih =>
    rw [line_enter, Holds.append] at held
    rcases List.mem_append.mp listed with listed | listed
    · exact ihInside held.1 listed
    · exact ih held.2 listed

/-- What a filling captures is a text of the token that captures it. -/
theorem Filling.captured_bodies {phrase : Phrase} {ofType : String → Language Char} {atStart : Bool}
    {filling : Filling phrase} (fits : filling.Fits ofType atStart) (position : Nat) :
    List.Forall₂ (fun token taken => ∀ entry, taken = some entry → entry.2 ∈ token.bodies ofType)
      phrase.capturing (filling.captured position) := by
  induction filling generalizing atStart position with
  | done => exact .nil
  | @token first rest part others ih =>
    rw [capturing, tokens, List.filter_cons, captured]
    cases captures : first.kind.captures with
    | false => exact ih fits.2 _
    | true =>
      refine .cons ?_ (ih fits.2 _)
      rintro _ ⟨⟩
      exact fits.1.body
  | @skip inner rest others ih =>
    rw [capturing, tokens, List.filter_append]
    refine List.rel_append ?_ (ih fits position)
    refine List.forall₂_iff_get.mpr ⟨by simp [capturing], fun index _ within entry taken => ?_⟩
    simp at taken
  | enter inside others ihInside ih =>
    rw [capturing, tokens, List.filter_append]
    exact List.rel_append (ihInside fits.1 position) (ih fits.2 _)

/-- A match notes what a filling captures. -/
def Filling.NotedBy {phrase : Phrase} (filling : Filling phrase) (line : Array Char) (found : Match) :
    Prop :=
  ∀ index,
    found.span? (index + 1) = ((filling.captured 0)[index]?.join).map spanOf ∧
    Reading.groupText? line found (index + 1) =
      ((filling.captured 0)[index]?.join).map fun taken => String.ofList taken.2

/-- A match with the groups that a filling reaches notes what the filling captures. -/
theorem Filling.notedBy_of_groups {phrase : Phrase} {filling : Filling phrase} {line : Array Char}
    {found : Match} (held : Holds line 0 filling.line)
    (groups : found.groups = (filling.reached 0 ⟨0, []⟩).groups) : filling.NotedBy line found := by
  intro index
  have span : found.span? (index + 1) = ((filling.captured 0)[index]?.join).map spanOf := by
    rw [Match.span?, if_neg (Nat.succ_ne_zero index), groups,
      filling.lookup_reached 0 ⟨0, []⟩ (fun _ _ => rfl) (index + 1), if_neg (by omega)]
    simp
  refine ⟨span, ?_⟩
  rw [Reading.groupText?, span]
  cases taken : (filling.captured 0)[index]? with
  | none => rfl
  | some entry =>
    cases entry with
    | none => rfl
    | some entry =>
      exact congrArg some (slice_of_holds (filling.captured_holds held (List.mem_of_getElem? taken)))

/-- A match is the match of the line of a filling, and its groups are what the filling captures. -/
theorem Phrase.LinePattern.read_sound {ofType : String → Language Char} {phrase : Phrase}
    {pattern : Pattern} (lines : phrase.LinePattern ofType pattern) {line : Array Char} {found : Match}
    (matched : pattern.matchStart line = some found) :
    ∃ filling : Filling phrase, filling.Fits ofType true ∧ ∃ tail ∈ Texts.blank,
      line.toList = filling.line ++ tail ∧ filling.NotedBy line found := by
  obtain ⟨filling, fits, tail, blank, whole, -, groups⟩ := lines.matchStart_sound matched
  have ahead : filling.line <+: line.toList := ⟨tail, by simpa using whole.symm⟩
  exact ⟨filling, fits, tail, blank, whole, Filling.notedBy_of_groups ahead groups⟩

/-- What a match captures for a token is one of the texts of the token. -/
theorem Phrase.LinePattern.mem_bodies {ofType : String → Language Char} {phrase : Phrase}
    {pattern : Pattern} (lines : phrase.LinePattern ofType pattern) {line : Array Char} {found : Match}
    (matched : pattern.matchStart line = some found) {index : Nat} {token : Token}
    (isToken : phrase.capturing[index]? = some token) {group : String}
    (took : Reading.groupText? line found (index + 1) = some group) :
    group.toList ∈ token.bodies ofType := by
  obtain ⟨filling, fits, _, -, -, groups⟩ := lines.read_sound matched
  rw [(groups index).2, Option.map_eq_some_iff] at took
  obtain ⟨entry, taken, rfl⟩ := took
  rw [String.toList_ofList]
  exact rel_of_getElem? (Filling.captured_bodies fits 0) isToken (Option.join_eq_some_iff.mp taken)
    entry rfl

/-- A reading is made of a match. -/
theorem Expression.read_eq_some {expression : Expression} {line : String} {reading : Reading}
    (read : expression.read line = .ok (some reading)) :
    expression.pattern.matchStart line.toList.toArray = some reading.found ∧
      reading.line = line.toList.toArray ∧
      Reading.valuesFrom (some expression.text) line.toList.toArray reading.found 1
        (expression.captures.take expression.pattern.groups) = .ok reading.captures := by
  simp only [Expression.read, Expression.attempt] at read
  cases matched : expression.pattern.matchStart line.toList.toArray with
  | none =>
    rw [matched] at read
    cases read
  | some found =>
    rw [matched, Option.map_some] at read
    cases made : Reading.ofMatch (some expression) expression.pattern expression.captures
        line.toList.toArray found with
    | error fault =>
      rw [made] at read
      cases fault <;> cases read
    | ok other =>
      rw [made] at read
      cases read
      obtain ⟨values, computed, same⟩ := Except.bind_eq_ok.mp made
      cases same
      exact ⟨rfl, rfl, computed⟩

/-- Whether an expression compiles and reads a line in such a way that a test is passed. -/
def Expression.reads (text line : String) (test : Expression → Reading → Bool) : Bool :=
  match Expression.compile .numeric text with
  | .ok expression =>
    match expression.read line with
    | .ok (some reading) => test expression reading
    | _ => false
  | .error _ => false

/-- What is found by computing a reading is such a reading. -/
theorem Expression.exists_of_reads {text line : String} {test : Expression → Reading → Bool}
    (reads : Expression.reads text line test = true) :
    ∃ expression reading, Expression.compile .numeric text = .ok expression ∧
      expression.read line = .ok (some reading) ∧ test expression reading = true := by
  unfold Expression.reads at reads
  split at reads
  · rename_i expression compiled
    split at reads
    · rename_i reading read
      exact ⟨expression, reading, compiled, read, reads⟩
    · cases reads
  · cases reads

/-- Every line that is built along a selection of groups is matched. The selection need not be
closed: what stands in a group that is not selected is left out anyway. -/
theorem Expression.matches_line {text : String} {expression : Expression}
    (compiled : Expression.compile .numeric text = .ok expression) :
    ∃ phrase, Phrase.of text = .ok phrase ∧
      ∀ (selection : Selection phrase) (parts : List Part) (tail : List Char) (line : String),
        phrase.Fits Texts.ofType selection parts → tail ∈ Texts.blank →
          line.toList = lineOf parts ++ tail →
            (expression.pattern.matchStart line.toList.toArray).isSome = true := by
  obtain ⟨phrase, read, lines, _⟩ := compile_linePattern TypeTable.numeric_means compiled
  refine ⟨phrase, read, fun selection parts tail line fits blank whole => ?_⟩
  obtain ⟨filling, fitsFilling, rfl⟩ := Filling.exists_of_takes fits
  exact lines.matchStart_isSome fitsFilling blank (by simpa [Filling.line] using whole)

/-- With its group selected, "go [to :place]" matches "go to x". -/
theorem Expression.matches_line_go :
    ∃ expression, Expression.compile .numeric "go [to :place]" = .ok expression ∧
      (expression.pattern.matchStart "go to x".toList.toArray).isSome = true := by
  obtain ⟨expression, _, compiled, _⟩ := Expression.exists_of_reads
    (show Expression.reads "go [to :place]" "go to x" (fun _ _ => true) = true by decide +kernel)
  obtain ⟨phrase, isPhrase, lines⟩ := Expression.matches_line compiled
  have spelled : Phrase.of "go [to :place]" = .ok (.token ⟨.word, "go", none, none, none⟩
      (.optional (.token ⟨.word, "to", none, none, none⟩
        (.token ⟨.argument, "place", none, none, none⟩ .done)) .done)) := by rfl
  rw [spelled] at isPhrase
  cases isPhrase
  have blank : [' '] ∈ Texts.gap := by simpa using show isSpace ' ' = true by decide
  have place : ['x'] ∈ Texts.argument := .inl ⟨by simp, Language.mem_kstar.mpr
    ⟨[['x']], rfl, by simpa [Texts.unit] using .inr ⟨'x', by decide, rfl⟩⟩⟩
  refine ⟨expression, compiled, lines (fun _ => true)
    [⟨[], ['g', 'o']⟩, ⟨[' '], ['t', 'o']⟩, ⟨[' '], ['x']⟩] [] _ ?_ (by simp) (by rfl)⟩
  exact .cons ⟨rfl, rfl⟩ (.cons ⟨blank, rfl⟩ (.cons ⟨blank, place⟩ .nil))

/-- A capital beyond the first 2^16 code points agrees with itself as a word of a list, but is not read as
it when the words differ in their last characters alone. -/
theorem Expression.capital_unmatched :
    ∃ expression, Expression.compile .numeric "w :x\x7b𐐀,b\x7d" = .ok expression ∧
      "𐐀".toList ∈ Texts.agreeingWithAny ["𐐀", "b"] ∧
        (expression.pattern.matchStart "w 𐐀".toList.toArray).isSome = false := by
  have missed : (Expression.compile .numeric "w :x\x7b𐐀,b\x7d").toOption.map (fun expression =>
      (expression.pattern.matchStart "w 𐐀".toList.toArray).isSome) = some false := by
    decide +kernel
  obtain ⟨expression, compiled, missed⟩ := Option.map_eq_some_iff.mp missed
  refine ⟨expression, Except.eq_ok_of_toOption compiled, ⟨"𐐀", List.mem_cons_self, ?_⟩, missed⟩
  exact .cons (by decide +kernel) .nil

/-- Every line that is read is built along a closed selection of groups, with white space after it.
The groups of its match are those of the captures: where a capture is kept, its text at its position,
and elsewhere nothing. -/
theorem Expression.read_along {text line : String} {expression : Expression} {reading : Reading}
    (compiled : Expression.compile .numeric text = .ok expression)
    (read : expression.read line = .ok (some reading)) :
    ∃ phrase, Phrase.of text = .ok phrase ∧
      List.Forall₂ (fun token capture => capture.name = token.name ∧ capture.kind = token.kind)
        phrase.capturing expression.captures ∧
      ∃ selection : Selection phrase, selection.Closed ∧
        ∃ parts tail, phrase.Fits Texts.ofType selection parts ∧ tail ∈ Texts.blank ∧
          line.toList = lineOf parts ++ tail ∧
          (captured 0 (phrase.marked selection) parts).length = expression.captures.length ∧
          ∀ index,
            reading.found.span? (index + 1) =
              ((captured 0 (phrase.marked selection) parts)[index]?.join).map spanOf ∧
            Reading.groupText? reading.line reading.found (index + 1) =
              ((captured 0 (phrase.marked selection) parts)[index]?.join).map
                fun taken => String.ofList taken.2 := by
  obtain ⟨phrase, isPhrase, lines, body, captures⟩ :=
    compile_linePattern TypeTable.numeric_means compiled
  obtain ⟨matched, isLine, -⟩ := read_eq_some read
  obtain ⟨filling, fits, tail, blank, whole, groups⟩ := lines.read_sound matched
  have taken : captured 0 (phrase.marked filling.selection) filling.parts = filling.captured 0 :=
    filling.captured_eq true 0
  have aligned := compiled_captures captures
  refine ⟨phrase, isPhrase, aligned.imp fun _ _ of => of.name_kind, filling.selection,
    filling.selection_closed, filling.parts, tail, filling.takes fits, blank, whole,
    by rw [taken, filling.length_captured, aligned.length_eq], fun index => ?_⟩
  rw [taken, isLine]
  exact groups index

/-- The reading of "go to x" is along such a selection. -/
theorem Expression.read_along_go :
    ∃ expression reading, Expression.compile .numeric "go [to :place]" = .ok expression ∧
      expression.read "go to x" = .ok (some reading) ∧
      ∃ parts tail, "go to x".toList = lineOf parts ++ tail ∧ tail ∈ Texts.blank := by
  obtain ⟨expression, reading, compiled, read, _⟩ := Expression.exists_of_reads
    (show Expression.reads "go [to :place]" "go to x" (fun _ _ => true) = true by decide +kernel)
  obtain ⟨_, _, _, _, _, parts, tail, _, blank, whole, _⟩ := Expression.read_along compiled read
  exact ⟨expression, reading, compiled, read, parts, tail, whole, blank⟩

end LineGrammar
