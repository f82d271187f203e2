import LineGrammar.Proofs.Scans
import Mathlib.Data.List.Chain

/-!
# Expressions without captures

An expression of words and symbols captures nothing and has one line, but for the width of its white
space. Words ask for white space before them, and symbols take none; so where the text of the expression
has white space before a symbol, its line has not.

An expression without brackets therefore matches its own text exactly when no symbol in it stands behind
white space. What else such an expression matches is not said here.
-/

namespace LineGrammar

open LineGrammar.Text LineGrammar.Phrase

/-! ## Texts in which symbols are attached -/

/-- Behind white space there is more white space or a word. -/
def Attached (text : List Char) : Prop :=
  text.IsChain fun c d => isSpace c = true → isSpace d = true ∨ isWord d = true

namespace Attached

variable {text rest : List Char}

instance (text : List Char) : Decidable (Attached text) :=
  inferInstanceAs (Decidable (List.IsChain _ text))

/-- The end of an attached text is attached. -/
theorem of_append (attached : Attached (text ++ rest)) : Attached rest :=
  (List.isChain_append.mp attached).2.1

/-- White space before something attached, which begins with white space or a word. -/
theorem behind_blank (blank : text ∈ Texts.blank) (attached : Attached rest)
    (start : ∀ c ∈ rest.head?, isSpace c = true ∨ isWord c = true) : Attached (text ++ rest) := by
  induction text with
  | nil => exact attached
  | cons c text ih =>
    have others : ∀ d ∈ text, isSpace d = true := fun d inside => blank d (List.mem_cons_of_mem _ inside)
    refine List.isChain_cons.mpr ⟨fun d first _ => ?_, ih others⟩
    cases text with
    | nil => exact start d first
    | cons e text => exact .inl (others d (List.mem_of_mem_head? first))

/-- White space alone is attached. -/
theorem of_blank (blank : text ∈ Texts.blank) : Attached text := by
  simpa using behind_blank blank List.isChain_nil

/-- Nothing is asked of what follows visible characters. -/
theorem behind_visible (visible : ∀ c ∈ text, isSpace c = false) (attached : Attached rest) :
    Attached (text ++ rest) := by
  induction text with
  | nil => exact attached
  | cons c text ih =>
    refine List.isChain_cons.mpr ⟨fun d _ space => ?_, ih fun d inside =>
      visible d (List.mem_cons_of_mem _ inside)⟩
    rw [visible c List.mem_cons_self] at space
    cases space

/-- Behind white space there is no symbol. -/
theorem eq_nil_of_symbol (attached : Attached (text ++ rest)) (blank : text ∈ Texts.blank) {c : Char}
    (first : rest.head? = some c) (visible : isSpace c = false) (symbol : isWord c = false) :
    text = [] := by
  rcases List.eq_nil_or_concat text with empty | ⟨front, d, rfl⟩
  · exact empty
  · have joint := (List.isChain_append.mp attached).2.2 d (by simp) c first (blank d (by simp))
    simp [visible, symbol] at joint

end Attached

/-! ## Literal tokens -/

/-- A token that stands for itself and carries no annotation. -/
def Token.IsLiteral (token : Token) : Prop := token.kind.captures = false ∧ token.remark = none

instance (token : Token) : Decidable token.IsLiteral := instDecidableAnd

namespace Token.IsLiteral

variable {ofType : String → Language Char} {token : Token} {body : List Char}

/-- A literal token is a word or a symbol. -/
theorem kind_eq (literal : token.IsLiteral) : token.kind = .word ∨ token.kind = .symbol := by
  obtain ⟨silent, -⟩ := literal
  cases kind : token.kind <;> simp_all [TokenKind.captures]

/-- A literal token stands for its name. -/
theorem mem_bodies (literal : token.IsLiteral) : body ∈ token.bodies ofType ↔ body = token.name.toList := by
  rcases literal.kind_eq with kind | kind <;> simp [bodies, kind]

end Token.IsLiteral

/-- A text begins with a literal token: with a word or a symbol that goes on as long as it can. -/
inductive Token.Begins (token : Token) (rest : List Char) : Prop where
  | word (kind : token.kind = .word) (run : LongestRun isWord token.name.toList rest)
  | symbol (kind : token.kind = .symbol) (other : ¬BeginsName (token.name.toList ++ rest))
    (run : LongestRun (!isSpace ·) token.name.toList rest)

namespace Token

variable {segment : String} {text rest : List Char} {piece : Piece} {token : Token}

/-- What is taken for a literal token is the token itself. -/
theorem FirstPiece.begins (takes : FirstPiece text piece rest)
    (made : ofPiece segment piece = .ok token) (literal : token.IsLiteral) :
    text = token.name.toList ++ rest ∧ token.Begins rest := by
  cases takes with
  | @symbol symbol _ other run =>
    cases made
    rw [String.toList_ofList]
    exact ⟨rfl, .symbol rfl (by simpa using other) (by simpa using run)⟩
  | @name sigil name afterName afterRemark afterType _ remark type choices isSigil isName isRemark
      isType isChoices =>
    cases sigil with
    | some s =>
      rcases isSigil s rfl with rfl | rfl | rfl <;> cases made <;> cases literal.1
    | none =>
      simp only [ofPiece, Option.bind_none] at made
      split at made
      · cases made
      · rename_i unconstrained
        cases made
        obtain ⟨rfl, rfl⟩ : type = none ∧ choices = none := by simpa using unconstrained
        obtain rfl : remark = none := by simpa using literal.2
        cases isRemark
        cases isType
        cases isChoices
        rw [String.toList_ofList]
        exact ⟨rfl, .word rfl (by simpa using isName)⟩

namespace Begins

/-- A literal token is not empty. -/
theorem nonempty (begins : token.Begins rest) : token.name.toList ≠ [] := by
  cases begins with
  | word _ run => exact run.nonempty
  | symbol _ _ run => exact run.nonempty

/-- There is no white space in a literal token. -/
theorem visible (begins : token.Begins rest) : ∀ c ∈ token.name.toList, isSpace c = false := by
  intro c inside
  cases begins with
  | word _ run => exact not_isSpace_of_isWord (run.each c inside)
  | symbol _ _ run => simpa using run.each c inside

/-- Directly behind a literal token there is no word. -/
theorem apart (begins : token.Begins rest) : ∀ c ∈ rest.head?, isWord c = false := by
  intro c first
  cases begins with
  | word _ run => exact run.longest c first
  | symbol _ _ run => exact not_isWord_of_isSpace (by simpa using run.longest c first)

/-- A symbol begins with a character that is no part of a word. -/
theorem exists_head (begins : token.Begins rest) : ∃ c, token.name.toList.head? = some c ∧
    (isWord c = true ↔ token.kind = .word) := by
  obtain ⟨c, others, spelled⟩ := List.exists_cons_of_ne_nil begins.nonempty
  refine ⟨c, by rw [spelled]; rfl, ?_⟩
  cases begins with
  | word kind run => simp [kind, run.each c (by simp [spelled])]
  | symbol kind other run =>
    simp only [kind, reduceCtorEq, iff_false]
    intro word
    exact other ⟨none, c, others ++ rest, by simp [spelled], by simp, word⟩

end Begins

/-- The tokens of a scan begin somewhere. -/
theorem ScansAs.begins {pieces : List Piece} (scan : ScansAs text pieces) {tokens : List Token}
    (made : pieces.mapM (ofPiece segment) = .ok tokens) (literal : ∀ token ∈ tokens, token.IsLiteral) :
    ∀ token ∈ tokens, ∃ rest, token.Begins rest := by
  induction scan generalizing tokens with
  | done =>
    cases made
    simp
  | space _ _ ih => exact ih made literal
  | piece first _ ih =>
    obtain ⟨token, others, here, later, rfl⟩ :=
      List.forall₂_cons_left_iff.mp (Except.mapM_eq_ok.mp made)
    refine List.forall_mem_cons.mpr ⟨⟨_, (first.begins here (literal token List.mem_cons_self)).2⟩, ?_⟩
    exact ih (Except.mapM_eq_ok.mpr later) fun other listed => literal other (List.mem_cons_of_mem _ listed)

end Token

/-! ## The line of literal tokens -/

variable {ofType : String → Language Char} {phrase : Phrase} {atStart : Bool}

/-- What stands before a token is white space, if anything. -/
theorem Token.blank_of_mem_gaps {token : Token} {gap : List Char} (taken : gap ∈ token.gaps atStart) :
    gap ∈ Texts.blank := by
  unfold gaps at taken
  split at taken
  · rw [Texts.mem_exactly.mp taken]
    simp
  · exact taken.2

/-- In the line of a phrase of literal tokens, no symbol stands behind white space. -/
theorem Filling.attached_line {filling : Filling phrase} (fits : filling.Fits ofType atStart)
    (literal : ∀ token ∈ phrase.tokens, token.IsLiteral ∧ ∃ rest, token.Begins rest) {tail : List Char}
    (attached : Attached tail) : Attached (filling.line ++ tail) := by
  induction filling generalizing atStart tail with
  | done => exact attached
  | @token first rest part others ih =>
    obtain ⟨is, behind, begins⟩ := literal first (by simp [tokens])
    obtain ⟨takes, fits⟩ := fits
    have later := ih fits (fun token listed => literal token (by simp [tokens, listed])) attached
    have text : Attached (first.name.toList ++ (others.line ++ tail)) :=
      later.behind_visible begins.visible
    obtain ⟨c, start, kind⟩ := begins.exists_head
    rw [line_token, is.mem_bodies.mp takes.body, List.append_assoc, List.append_assoc]
    by_cases symbol : first.kind = .symbol
    · obtain gap : part.gap = [] := by simpa [Token.gaps, symbol] using takes.gap
      rwa [gap]
    · refine text.behind_blank (Token.blank_of_mem_gaps takes.gap) fun d front => ?_
      rw [List.head?_append, start] at front
      cases front
      exact .inr (kind.mpr (is.kind_eq.resolve_right symbol))
  | skip others ih =>
    exact ih fits (fun token listed => literal token (by simp [tokens, listed])) attached
  | enter inside others ihInside ih =>
    rw [line_enter, List.append_assoc]
    refine ihInside fits.1 (fun token listed => literal token (by simp [tokens, listed])) ?_
    exact ih fits.2 (fun token listed => literal token (by simp [tokens, listed])) attached

/-- What stands before the rest of a scan: the white space behind the last token, which a symbol does not
stand behind and a word does. -/
structure Ready (atStart : Bool) (gap text : List Char) : Prop where
  blank : gap ∈ Texts.blank
  start : atStart = true → gap = [] ∧ ∀ c ∈ text.head?, isSpace c = false
  apart : atStart = false → gap = [] → ∀ c ∈ text.head?, isWord c = false
  attached : Attached (gap ++ text)

/-- The white space before a literal token is what the token takes. -/
theorem Token.Begins.mem_gaps {token : Token} {gap rest : List Char} (begins : token.Begins rest)
    (literal : token.IsLiteral) (ready : Ready atStart gap (token.name.toList ++ rest)) :
    gap ∈ token.gaps atStart := by
  obtain ⟨c, start, kind⟩ := begins.exists_head
  have first : (token.name.toList ++ rest).head? = some c := by
    rw [List.head?_append, start]
    rfl
  cases atStart with
  | true => exact (ready.start rfl).1
  | false =>
    rcases literal.kind_eq with word | symbol
    · -- Without white space, the token before it would have taken the word as well.
      have nonempty : gap ≠ [] := fun empty => by
        have apart := ready.apart rfl empty c first
        rw [kind.mpr word] at apart
        cases apart
      simpa [gaps, word] using And.intro nonempty ready.blank
    · have other : isWord c = false := by simpa [symbol] using kind
      have visible := begins.visible c (List.mem_of_mem_head? start)
      rw [ready.attached.eq_nil_of_symbol ready.blank first visible other]
      simp [gaps, symbol]

/-- The text of literal tokens in which no symbol stands behind white space is the line of a filling. -/
theorem Token.ScansAs.exists_filling {segment : String} {text gap : List Char} {pieces : List Piece}
    (scan : ScansAs text pieces) {tokens : List Token}
    (made : pieces.mapM (ofPiece segment) = .ok tokens) (literal : ∀ token ∈ tokens, token.IsLiteral)
    (ready : Ready atStart gap text) :
    ∃ filling : Filling (ofTokens tokens .done), filling.Fits ofType atStart ∧
      ∃ tail ∈ Texts.blank, gap ++ text = filling.line ++ tail := by
  induction scan generalizing atStart gap tokens with
  | done =>
    cases Except.mapM_eq_ok.mp made
    exact ⟨.done, trivial, gap, ready.blank, List.append_nil gap⟩
  | @space c rest _ space _ ih =>
    cases atStart with
    | true =>
      have visible := (ready.start rfl).2 c rfl
      rw [space] at visible
      cases visible
    | false =>
      have later : Ready false (gap ++ [c]) rest := by
        refine ⟨?_, by simp, by simp, by simpa using ready.attached⟩
        intro d inside
        rcases List.mem_append.mp inside with inside | here
        · exact ready.blank d inside
        · rwa [List.mem_singleton.mp here]
      simpa using ih made literal later
  | @piece text rest piece pieces first _ ih =>
    obtain ⟨token, others, here, later, rfl⟩ :=
      List.forall₂_cons_left_iff.mp (Except.mapM_eq_ok.mp made)
    obtain ⟨rfl, begins⟩ := first.begins here (literal token List.mem_cons_self)
    have next : Ready false [] rest :=
      ⟨by simp, by simp, fun _ _ => begins.apart, (ready.attached.of_append).of_append⟩
    obtain ⟨filling, fits, tail, blank, whole⟩ := ih (Except.mapM_eq_ok.mpr later)
      (fun other listed => literal other (List.mem_cons_of_mem _ listed)) next
    have is := literal token List.mem_cons_self
    refine ⟨.token ⟨gap, token.name.toList⟩ filling, ⟨⟨?_, ?_⟩, fits⟩, tail, blank, ?_⟩
    · exact begins.mem_gaps is ready
    · exact is.mem_bodies.mpr rfl
    · have line := @Filling.line_token token (ofTokens others .done) ⟨gap, token.name.toList⟩ filling
      refine Eq.trans ?_ (congrArg (· ++ tail) line.symm)
      simpa using whole

/-! ## Reading the text of an expression -/

/-- A trimmed text does not begin with white space. -/
theorem head_trim (text : List Char) : ∀ c ∈ (trim text).head?, isSpace c = false := by
  intro c first
  have kept : trim text <+: trimFront text := by
    rw [trim, ← List.reverse_suffix, List.reverse_reverse]
    exact List.dropWhile_suffix isSpace
  obtain ⟨dropped, whole⟩ := kept
  have visible := List.head?_dropWhile_not isSpace text
  rw [show text.dropWhile isSpace = trim text ++ dropped from whole.symm, List.head?_append,
    Option.mem_def.mp first] at visible
  simpa using visible

/-- An expression without brackets has the tokens of its text. -/
theorem Phrase.of_unbracketed {text : String} (plain : ∀ c ∈ text.toList, c ≠ '[' ∧ c ≠ ']')
    (isPhrase : Phrase.of text = .ok phrase) :
    ∃ tokens, Token.scan (String.ofList (trim text.toList)) = .ok tokens ∧
      phrase = ofTokens tokens .done := by
  obtain ⟨outline, read, scanned⟩ := Except.bind_eq_ok.mp isPhrase
  rw [Outline.read, Outline.readFrom_run plain, List.reverse_nil, List.nil_append] at read
  cases read
  by_cases blank : trim text.toList = []
  · simp only [Outline.addText, blank, List.isEmpty_nil, if_true] at scanned
    cases scanned
    exact ⟨[], by rw [blank]; rfl, rfl⟩
  · simp only [Outline.addText, List.isEmpty_eq_false_iff.mpr blank, Bool.false_eq_true, if_false] at scanned
    obtain ⟨tokens, scan, rest⟩ := Except.bind_eq_ok.mp scanned
    cases rest
    exact ⟨tokens, scan, rfl⟩

/-- A phrase of literal tokens is compiled to the same pattern under all types, and captures nothing. -/
theorem Phrase.compiled_literal (literal : ∀ token ∈ phrase.tokens, token.IsLiteral) :
    ∃ body, ∀ types, phrase.compiled types = .ok (body, []) := by
  induction phrase with
  | done => exact ⟨"", fun _ => rfl⟩
  | token first rest ih =>
    obtain ⟨body, compiled⟩ := ih fun token listed => literal token (by simp [tokens, listed])
    obtain ⟨front, here⟩ : ∃ front, ∀ types, first.compiled types = .ok (front, []) := by
      rcases (literal first (by simp [tokens])).kind_eq with kind | kind
      · exact ⟨_, fun _ => by rw [Token.compiled, kind]⟩
      · exact ⟨_, fun _ => by rw [Token.compiled, kind]⟩
    exact ⟨front ++ body, fun types => compiled_token_eq_ok.mpr
      ⟨front, [], here types, body, [], compiled types, rfl, rfl⟩⟩
  | optional inner rest ihInner ih =>
    obtain ⟨inside, group⟩ := ihInner fun token listed => literal token (by simp [tokens, listed])
    obtain ⟨after, others⟩ := ih fun token listed => literal token (by simp [tokens, listed])
    exact ⟨_, fun types => compiled_optional_eq_ok.mpr
      ⟨inside, [], group types, after, [], others types, rfl, rfl⟩⟩

namespace Expression

/-- An expression of literal tokens matches the lines of its phrase, and reads them without a value. -/
theorem compile_literal (types : TypeTable) {text : String} (isPhrase : Phrase.of text = .ok phrase)
    (literal : ∀ token ∈ phrase.tokens, token.IsLiteral) :
    ∃ expression, Expression.compile types text = .ok expression ∧
      phrase.LinePattern Texts.ofType expression.pattern ∧ expression.captures = [] := by
  obtain ⟨body, compiled⟩ := compiled_literal literal
  obtain ⟨pattern, made⟩ := compile_of_phrase TypeTable.numeric_means isPhrase (compiled .numeric)
  obtain ⟨other, same, lines, -⟩ := compile_linePattern TypeTable.numeric_means made
  rw [isPhrase] at same
  cases same
  obtain ⟨_, same, _, _, parts, _, isPattern, whole⟩ := compile_eq_ok.mp made
  rw [isPhrase] at same
  cases same
  rw [compiled] at parts
  cases parts
  cases whole
  exact ⟨_, compile_eq_ok.mpr ⟨phrase, isPhrase, body, [], compiled types, pattern, isPattern, rfl⟩,
    lines, rfl⟩

/-- An expression without brackets whose tokens are words and symbols, without annotations, compiles under
all types. It reads its own text, trimmed, when no symbol in it stands behind white space, and else it
does not. -/
theorem read_literal (types : TypeTable) {text : String}
    (plain : ∀ c ∈ text.toList, c ≠ '[' ∧ c ≠ ']') (isPhrase : Phrase.of text = .ok phrase)
    (literal : ∀ token ∈ phrase.tokens, token.IsLiteral) :
    ∃ expression, Expression.compile types text = .ok expression ∧
      (Attached (trim text.toList) →
        ∃ reading, expression.read (String.ofList (trim text.toList)) = .ok (some reading)) ∧
      (¬Attached (trim text.toList) →
        expression.read (String.ofList (trim text.toList)) = .ok none) := by
  obtain ⟨expression, compiled, lines, silent⟩ := compile_literal types isPhrase literal
  obtain ⟨tokens, scanned, rfl⟩ := of_unbracketed plain isPhrase
  rw [tokens_ofTokens, Phrase.tokens, List.append_nil] at literal
  rw [Token.scan, String.toList_ofList] at scanned
  have scan : Token.ScansAs (trim text.toList) _ := Token.scansAs_iff.mpr rfl
  have line : (String.ofList (trim text.toList)).toList.toArray.toList = trim text.toList := by simp
  refine ⟨expression, compiled, fun attached => ?_, fun apart => ?_⟩
  · have ready : Ready true [] (trim text.toList) :=
      ⟨by simp, fun _ => ⟨rfl, head_trim text.toList⟩, by simp, attached⟩
    obtain ⟨filling, fits, tail, blank, whole⟩ := scan.exists_filling scanned literal ready
    obtain ⟨found, matched⟩ :=
      Option.isSome_iff_exists.mp (lines.matchStart_isSome fits blank (line.trans whole))
    have nothing : Reading.valuesFrom (some expression.text)
        (String.ofList (trim text.toList)).toList.toArray found 1
        (expression.captures.take expression.pattern.groups) = .ok [] := by
      rw [silent, List.take_nil]
      rfl
    exact ⟨_, read_of_matchStart matched nothing⟩
  · cases matched : expression.pattern.matchStart (String.ofList (trim text.toList)).toList.toArray with
    | none => rw [Expression.read, attempt, matched, Option.map_none]
    | some found =>
      obtain ⟨filling, fits, tail, blank, whole, -⟩ := lines.matchStart_sound matched
      have begins := scan.begins scanned literal
      refine absurd ?_ apart
      rw [← line, whole]
      refine Filling.attached_line fits (fun token listed => ?_) (Attached.of_blank blank)
      rw [tokens_ofTokens, Phrase.tokens, List.append_nil] at listed
      exact ⟨literal token listed, begins token listed⟩

/-- Symbols directly behind a word, between two words and at the end of a word read their own text. -/
theorem read_literal_symbols :
    ∃ expression reading, Expression.compile .numeric " go: a.b+ d " = .ok expression ∧
      expression.read "go: a.b+ d" = .ok (some reading) := by
  have isPhrase : Phrase.of " go: a.b+ d " = .ok (ofTokens [⟨.word, "go", none, none, none⟩,
      ⟨.symbol, ":", none, none, none⟩, ⟨.word, "a", none, none, none⟩,
      ⟨.symbol, ".b+", none, none, none⟩, ⟨.word, "d", none, none, none⟩] .done) := by rfl
  obtain ⟨expression, compiled, reads, -⟩ :=
    read_literal .numeric (by decide) isPhrase (by decide)
  obtain ⟨reading, read⟩ := reads (by decide +kernel)
  exact ⟨expression, reading, compiled, read⟩

/-- A symbol behind white space keeps an expression from reading its own text. -/
theorem literal_unread :
    ∃ expression phrase, (∀ c ∈ "a +".toList, c ≠ '[' ∧ c ≠ ']') ∧ Phrase.of "a +" = .ok phrase ∧
      (∀ token ∈ phrase.tokens, token.IsLiteral) ∧
      Expression.compile .numeric "a +" = .ok expression ∧
      expression.read (String.ofList (trim "a +".toList)) = .ok none := by
  have isPhrase : Phrase.of "a +" = .ok (ofTokens [⟨.word, "a", none, none, none⟩,
      ⟨.symbol, "+", none, none, none⟩] .done) := by rfl
  have missed : (Expression.compile .numeric "a +").toOption.bind (fun expression =>
      (expression.read "a +").toOption.map Option.isSome) = some false := by
    decide +kernel
  obtain ⟨expression, compiled, missed⟩ := Option.bind_eq_some_iff.mp missed
  obtain ⟨reading, read, none⟩ := Option.map_eq_some_iff.mp missed
  rw [Option.isSome_eq_false_iff, Option.isNone_iff_eq_none] at none
  rw [none] at read
  exact ⟨expression, _, by decide, isPhrase, by decide, Except.eq_ok_of_toOption compiled,
    Except.eq_ok_of_toOption read⟩

end Expression

end LineGrammar
