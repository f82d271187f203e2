import LineGrammar.Proofs.Matching
import LineGrammar.Reading.Access

/-!
# Keywords before a capture

The plainest expressions are some keywords and one capture without constraints, with a blank between
them. They are scanned into these tokens, and compile. A line of the same keywords, with one blank after
each, leaves no choice: what is behind the last blank belongs to the capture, up to the white space at
the end of the line.

Lines with more white space between the keywords, or with keywords that the expression does not have,
are not described here.
-/

namespace LineGrammar

open LineGrammar.Text LineGrammar.Phrase

/-- A text that is scanned as a word: word characters, at least one of them. -/
def IsKeyword (word : String) : Prop := word ≠ "" ∧ ∀ c ∈ word.toList, isWord c = true

instance (word : String) : Decidable (IsKeyword word) :=
  inferInstanceAs (Decidable (word ≠ "" ∧ ∀ c ∈ word.toList, isWord c = true))

/-- The token of a keyword. -/
def Token.keyword (word : String) : Token := ⟨.word, word, none, none, none⟩

/-- The token of a name after a sigil, without constraints. -/
def Token.unconstrained (kind : TokenKind) (name : String) : Token := ⟨kind, name, none, none, none⟩

/-- A text behind keywords, with a blank after each of them. -/
def behind : List String → List Char → List Char
  | [], text => text
  | word :: words, text => word.toList ++ ' ' :: behind words text

/-- Keywords and a last token. -/
def Phrase.ofKeywords : List String → Token → Phrase
  | [], last => .token last .done
  | word :: words, last => .token (.keyword word) (ofKeywords words last)

/-- Keywords and a last token are ordered as a phrase without groups. -/
theorem Phrase.ofTokens_keywords (words : List String) (last : Token) :
    ofTokens (words.map Token.keyword ++ [last]) .done = ofKeywords words last := by
  induction words with
  | nil => rfl
  | cons word words ih => exact congrArg (Phrase.token (.keyword word)) ih

/-- A keyword begins with a character of a word. -/
theorem IsKeyword.exists_cons {word : String} (keyword : IsKeyword word) :
    ∃ c rest, word.toList = c :: rest ∧ isWord c = true := by
  obtain ⟨nonempty, each⟩ := keyword
  obtain ⟨c, rest, start⟩ := List.exists_cons_of_ne_nil
    (show word.toList ≠ [] by simpa using nonempty)
  exact ⟨c, rest, start, each c (by simp [start])⟩

/-- Texts with one blank between them. -/
theorem toList_intercalate_keywords (words : List String) (last : String) :
    (" ".intercalate (words ++ [last])).toList = behind words last.toList := by
  induction words with
  | nil => simp [behind]
  | cons word words ih =>
    rw [List.cons_append, String.intercalate_cons_of_ne_nil (by simp)]
    simp only [String.toList_append, ih, behind, List.append_assoc]
    rfl

/-- What stands behind keywords begins without white space when the text itself does. -/
theorem head_behind {words : List String} (keywords : ∀ word ∈ words, IsKeyword word) {text : List Char}
    (start : ∀ c ∈ text.head?, isSpace c = false) :
    ∀ c ∈ (behind words text).head?, isSpace c = false := by
  cases words with
  | nil => exact start
  | cons word words =>
    obtain ⟨d, rest, begins, isWord⟩ := (keywords word List.mem_cons_self).exists_cons
    intro c first
    rw [behind, begins] at first
    cases first
    exact not_isSpace_of_isWord isWord

/-- What comes behind the keywords ends the line. -/
theorem getLast?_behind (words : List String) {text : List Char} (nonempty : text ≠ []) :
    (behind words text).getLast? = text.getLast? := by
  obtain ⟨c, rest, rfl⟩ := List.exists_cons_of_ne_nil nonempty
  induction words with
  | nil => rfl
  | cons word words ih =>
    have inside : behind words (c :: rest) ≠ [] := by
      rw [← List.getLast?_isSome, ih]
      rfl
    obtain ⟨d, others, start⟩ := List.exists_cons_of_ne_nil inside
    rw [behind, List.getLast?_append_of_ne_nil _ (by simp), start, List.getLast?_cons_cons, ← start, ih]

/-- Keywords bring word characters and blanks. -/
theorem mem_behind {words : List String} (keywords : ∀ word ∈ words, IsKeyword word) {text : List Char}
    {c : Char} (inside : c ∈ behind words text) : isWord c = true ∨ c = ' ' ∨ c ∈ text := by
  induction words with
  | nil => exact .inr (.inr inside)
  | cons word words ih =>
    rcases List.mem_append.mp inside with inside | inside
    · exact .inl ((keywords word List.mem_cons_self).2 c inside)
    · rcases List.mem_cons.mp inside with rfl | inside
      · exact .inr (.inl rfl)
      · exact ih (fun word listed => keywords word (List.mem_cons_of_mem _ listed)) inside

/-! ## Scanning -/

namespace Token

/-- A sigil is neither a word character nor white space. -/
theorem sigil_apart {sigil : Char} {kind : TokenKind} (is : TokenKind.ofSigil? sigil = some kind) :
    isWord sigil = false ∧ isSpace sigil = false ∧ sigil ≠ '[' ∧ sigil ≠ ']' := by
  unfold TokenKind.ofSigil? at is
  split at is <;> first | decide | cases is

/-- A name with a blank or nothing behind it has no parts. -/
theorem takeNamed_alone (sigil : Option Char) {name : List Char} (rest : List Char)
    (word : ∀ c ∈ name, isWord c = true) (stop : ∀ c ∈ rest.head?, c = ' ') :
    takeNamed sigil (name ++ rest) = (.named sigil name none none none, rest) := by
  have edge : rest.takeWhile isWord = [] ∧ rest.dropWhile isWord = rest := by
    cases rest with
    | nil => exact ⟨rfl, rfl⟩
    | cons c rest =>
      obtain rfl : c = ' ' := stop c rfl
      have blank : isWord ' ' = false := not_isWord_of_isSpace (by decide)
      simp [blank]
  have none : takeRemark rest = (none, rest) ∧ takeType rest = (none, rest) ∧
      takeChoices rest = (none, rest) := by
    cases rest with
    | nil => exact ⟨rfl, rfl, rfl⟩
    | cons c rest =>
      obtain rfl : c = ' ' := stop c rfl
      exact ⟨rfl, rfl, rfl⟩
  simp [takeNamed, List.takeWhile_append_of_pos word, List.dropWhile_append_of_pos word, edge, none]

/-- A word is taken as a name without a sigil. -/
theorem takePiece_word {c : Char} (word : isWord c = true) (rest : List Char) :
    takePiece (c :: rest) = takeNamed none (c :: rest) := by
  cases rest <;> simp [takePiece, word]

/-- A sigil before a word is taken with it as a name. -/
theorem takePiece_sigil {sigil c : Char} {kind : TokenKind}
    (is : TokenKind.ofSigil? sigil = some kind) (word : isWord c = true) (rest : List Char) :
    takePiece (sigil :: c :: rest) = takeNamed (some sigil) (c :: rest) := by
  simp [takePiece, is, word, (sigil_apart is).1]

/-- A blank in front of a text makes no difference. -/
theorem piecesWithin_blank (count : Nat) (text : List Char) :
    piecesWithin count (' ' :: text) = piecesWithin count text := by
  cases count with
  | zero => rfl
  | succ count =>
    have same : trimFront (' ' :: text) = trimFront text := List.dropWhile_cons_of_pos (by decide)
    simp only [piecesWithin, same]

/-- Pieces are taken one after the other from a text that begins visibly. -/
theorem piecesWithin_cons (count : Nat) {c : Char} {rest : List Char} (visible : isSpace c = false) :
    piecesWithin (count + 1) (c :: rest) =
      (takePiece (c :: rest)).1 :: piecesWithin count (takePiece (c :: rest)).2 := by
  have same : trimFront (c :: rest) = c :: rest := List.dropWhile_cons_of_neg (by simp [visible])
  simp only [piecesWithin, same]

/-- The pieces of keywords and of one more piece behind them. -/
theorem piecesWithin_behind {words : List String} (keywords : ∀ word ∈ words, IsKeyword word)
    {c : Char} {rest : List Char} {piece : Piece} (visible : isSpace c = false)
    (taken : takePiece (c :: rest) = (piece, [])) {count : Nat}
    (enough : (behind words (c :: rest)).length ≤ count) :
    piecesWithin count (behind words (c :: rest)) =
      words.map (fun word => .named none word.toList none none none) ++ [piece] := by
  induction words generalizing count with
  | nil =>
    obtain ⟨count, rfl⟩ := Nat.exists_eq_add_of_le' (show 1 ≤ count by simp [behind] at enough; omega)
    rw [behind, piecesWithin_cons count visible, taken]
    cases count <;> rfl
  | cons word words ih =>
    obtain ⟨d, others, start, isWord⟩ := (keywords word List.mem_cons_self).exists_cons
    simp only [behind, List.length_append, List.length_cons, start] at enough
    obtain ⟨count, rfl⟩ := Nat.exists_eq_add_of_le' (show 1 ≤ count by omega)
    have alone := takeNamed_alone none (' ' :: behind words (c :: rest))
      (keywords word List.mem_cons_self).2 (by simp)
    have first := takePiece_word isWord (others ++ ' ' :: behind words (c :: rest))
    rw [← List.cons_append, ← start, alone] at first
    rw [behind, start, List.cons_append, piecesWithin_cons count (not_isSpace_of_isWord isWord),
      ← List.cons_append, ← start, first, piecesWithin_blank,
      ih (fun word listed => keywords word (List.mem_cons_of_mem _ listed)) (by omega)]
    rfl

/-- A name after a sigil is one piece. -/
theorem takePiece_unconstrained {sigil : Char} {kind : TokenKind}
    (is : TokenKind.ofSigil? sigil = some kind) {name : String} (named : IsKeyword name) :
    takePiece (sigil :: name.toList) = (.named (some sigil) name.toList none none none, []) := by
  obtain ⟨c, rest, start, word⟩ := named.exists_cons
  have alone := takeNamed_alone (some sigil) [] named.2 (by simp)
  rw [List.append_nil] at alone
  rw [start, takePiece_sigil is word rest, ← start, alone]

/-- A name after a sigil alone is an unconstrained token. -/
theorem ofPiece_sigil {segment : String} {sigil : Char} {kind : TokenKind}
    (is : TokenKind.ofSigil? sigil = some kind) {name : String} :
    ofPiece segment (.named (some sigil) name.toList none none none) =
      .ok (.unconstrained kind name) := by
  cases kind <;> simp [ofPiece, is, unconstrained]

end Token

/-- A text that neither begins nor ends with white space is trimmed already. -/
theorem trim_eq_self {text : List Char} (start : ∀ c ∈ text.head?, isSpace c = false)
    (stop : ∀ c ∈ text.getLast?, isSpace c = false) : trim text = text := by
  have front {text : List Char} (start : ∀ c ∈ text.head?, isSpace c = false) :
      trimFront text = text := by
    cases text with
    | nil => rfl
    | cons c rest => exact List.dropWhile_cons_of_neg (by simp [start c rfl])
  rw [trim, front start, front (by simpa using stop), List.reverse_reverse]

/-- Text without brackets is one run. -/
theorem Outline.readFrom_run {expression : String} {text : List Char}
    (plain : ∀ c ∈ text, c ≠ '[' ∧ c ≠ ']') (position : Nat) (current : Outline) (run : List Char) :
    readFrom expression text position [] current run = .ok (current.addText (run.reverse ++ text)) := by
  induction text generalizing position run with
  | nil => simp [readFrom]
  | cons c rest ih =>
    have here := plain c List.mem_cons_self
    simp [readFrom, here, ih fun c inside => plain c (List.mem_cons_of_mem _ inside)]

/-- An expression of keywords and one more piece behind them has these tokens. -/
theorem Phrase.of_behind {words : List String} (keywords : ∀ word ∈ words, IsKeyword word)
    {last : String} {c : Char} {rest : List Char} (written : last.toList = c :: rest)
    (plain : ∀ d ∈ c :: rest, d ≠ '[' ∧ d ≠ ']') (start : isSpace c = false)
    (stop : ∀ d ∈ (c :: rest).getLast?, isSpace d = false) {piece : Token.Piece}
    (taken : Token.takePiece (c :: rest) = (piece, [])) {token : Token}
    (is : ∀ segment, Token.ofPiece segment piece = .ok token) :
    Phrase.of (" ".intercalate (words ++ [last])) = .ok (Phrase.ofKeywords words token) := by
  have text := toList_intercalate_keywords words last
  generalize " ".intercalate (words ++ [last]) = expression at text ⊢
  rw [written] at text
  -- The expression is one segment.
  have plain : ∀ d ∈ expression.toList, d ≠ '[' ∧ d ≠ ']' := by
    intro d inside
    rw [text] at inside
    rcases mem_behind keywords inside with inside | rfl | inside
    · constructor <;> rintro rfl <;> exact absurd inside (by decide)
    · decide
    · exact plain d inside
  have trimmed : trim expression.toList = expression.toList := by
    rw [text]
    refine trim_eq_self (head_behind keywords (by simpa using start)) fun d last => stop d ?_
    rwa [getLast?_behind words (by simp)] at last
  have outline : Outline.read expression = .ok (.segment expression .done) := by
    have filled : expression.toList.isEmpty = false := by
      rw [text]
      cases words <;> simp [behind]
    rw [Outline.read, Outline.readFrom_run plain]
    simp [Outline.addText, trimmed, filled, Outline.append]
  -- And the segment consists of these tokens.
  have scanned : Token.scan expression = .ok (words.map Token.keyword ++ [token]) := by
    rw [Token.scan, Token.pieces, text, Token.piecesWithin_behind keywords start taken le_rfl,
      Except.mapM_eq_ok]
    refine List.rel_append ?_ (.cons (is expression) .nil)
    rw [List.forall₂_map_left_iff, List.forall₂_map_right_iff, List.forall₂_same]
    intro word _
    simp [Token.ofPiece, Token.keyword]
  simp [Phrase.of, outline, Outline.phrase, scanned, Phrase.ofTokens_keywords, bind, Except.bind, pure,
    Except.pure]

/-- An expression of keywords and a name after a sigil has these tokens. -/
theorem Phrase.of_keywords {words : List String} (keywords : ∀ word ∈ words, IsKeyword word)
    (sigil : Char) {kind : TokenKind} (is : TokenKind.ofSigil? sigil = some kind) {name last : String}
    (named : IsKeyword name) (written : last.toList = sigil :: name.toList) :
    Phrase.of (" ".intercalate (words ++ [last])) =
      .ok (Phrase.ofKeywords words (.unconstrained kind name)) := by
  have apart := Token.sigil_apart is
  refine of_behind keywords written ?_ apart.2.1 ?_ (Token.takePiece_unconstrained is named) fun _ =>
    Token.ofPiece_sigil is
  · intro d inside
    rcases List.mem_cons.mp inside with rfl | inside
    · exact apart.2.2
    · have isWord := named.2 d inside
      constructor <;> rintro rfl <;> exact absurd isWord (by decide)
  · intro d last
    obtain ⟨c, rest, start, _⟩ := named.exists_cons
    rw [start, List.getLast?_cons_cons, ← start] at last
    exact not_isSpace_of_isWord (named.2 d (List.mem_of_getLast? last))

/-! ## Reading -/

variable {ofType : String → Language Char} {last : Token}

/-- A symbol captures nothing. -/
theorem TokenKind.ne_symbol_of_captures {kind : TokenKind} (captures : kind.captures = true) :
    kind ≠ .symbol := by
  rintro rfl
  cases captures

/-- The single blank before a token, unless it stands at the start. -/
def blankBefore (atStart : Bool) : List Char := if atStart then [] else [' ']

/-- A blank may stand before a token that is no symbol, unless it is the first. -/
theorem Token.blankBefore_mem_gaps (token : Token) (kind : token.kind ≠ .symbol) (atStart : Bool) :
    blankBefore atStart ∈ token.gaps atStart := by
  cases atStart with
  | true => rfl
  | false => simp [gaps, kind, blankBefore, show isSpace ' ' = true by decide]

/-- White space before a token is a single blank when nothing else leads to what is visible. -/
theorem Token.eq_of_gap (token : Token) (kind : token.kind ≠ .symbol) {atStart : Bool}
    {gap text rest : List Char} (is : gap ∈ token.gaps atStart)
    (start : ∀ c ∈ rest.head?, isSpace c = false) (whole : gap ++ text = blankBefore atStart ++ rest) :
    text = rest := by
  cases atStart with
  | true =>
    obtain rfl : gap = [] := is
    exact whole
  | false =>
    obtain ⟨nonempty, blank⟩ : gap ∈ Texts.gap := by simpa [gaps, kind] using is
    obtain ⟨c, more, rfl⟩ := List.exists_cons_of_ne_nil nonempty
    have whole : more ++ text = rest := (List.cons.inj whole).2
    cases more with
    | nil => exact whole
    | cons d more =>
      have visible := start d (by rw [← whole]; rfl)
      rw [blank d (by simp)] at visible
      cases visible

/-- A text of the last token behind the keywords is the line of a filling. -/
theorem Filling.exists_of_keywords (captures : last.kind.captures = true) (words : List String)
    {body : List Char} (taken : body ∈ last.bodies ofType) (atStart : Bool) :
    ∃ filling : Filling (Phrase.ofKeywords words last), filling.Fits ofType atStart ∧
      filling.line = blankBefore atStart ++ behind words body := by
  induction words generalizing atStart with
  | nil =>
    have kind := TokenKind.ne_symbol_of_captures captures
    refine ⟨.token ⟨blankBefore atStart, body⟩ .done,
      ⟨⟨last.blankBefore_mem_gaps kind atStart, taken⟩, trivial⟩, ?_⟩
    exact (line_token _ .done).trans (by simp [behind])
  | cons word words ih =>
    obtain ⟨filling, fits, line⟩ := ih false
    refine ⟨.token ⟨blankBefore atStart, word.toList⟩ filling,
      ⟨⟨(Token.keyword word).blankBefore_mem_gaps (by simp [Token.keyword]) atStart, rfl⟩, fits⟩, ?_⟩
    exact (line_token _ filling).trans (by rw [line]; rfl)

/-- In a line of the keywords with a text behind them, the last token captures this text, up to the
white space at the end. -/
theorem Filling.captured_of_keywords (captures : last.kind.captures = true) {words : List String}
    (keywords : ∀ word ∈ words, IsKeyword word) {atStart : Bool}
    {filling : Filling (Phrase.ofKeywords words last)} (fits : filling.Fits ofType atStart)
    {text tail : List Char} (start : ∀ c ∈ text.head?, isSpace c = false)
    (whole : filling.line ++ tail = blankBefore atStart ++ behind words text) (position : Nat) :
    ∃ place body, filling.captured position = [some (place, body)] ∧ text = body ++ tail := by
  induction words generalizing atStart position with
  | nil =>
    have kind := TokenKind.ne_symbol_of_captures captures
    cases filling with
    | token part others =>
      cases others
      change lineOf [part] ++ tail = blankBefore atStart ++ text at whole
      rw [lineOf_cons, lineOf_nil, List.append_assoc] at whole
      have rest := last.eq_of_gap kind fits.1.gap start whole
      exact ⟨position + part.gap.length, part.body, by simp [Filling.captured, captures],
        by simpa using rest.symm⟩
  | cons word words ih =>
    cases filling with
    | token part others =>
      change lineOf (part :: others.parts) ++ tail = _ at whole
      rw [lineOf_cons, List.append_assoc] at whole
      have rest := (Token.keyword word).eq_of_gap (by simp [Token.keyword]) fits.1.gap
        (head_behind keywords start) whole
      have body : part.body = word.toList := fits.1.body
      rw [body, behind, List.append_assoc] at rest
      exact ih (fun word listed => keywords word (List.mem_cons_of_mem _ listed)) fits.2
        (List.append_cancel_left rest) _

/-- Of keywords and a last token that captures, the last one captures. -/
theorem Phrase.capturing_ofKeywords (captures : last.kind.captures = true) (words : List String) :
    (ofKeywords words last).capturing = [last] := by
  induction words with
  | nil => simp [ofKeywords, capturing, tokens, captures]
  | cons word words ih => exact ih

/-- Keywords add no capture. -/
theorem Phrase.compiled_ofKeywords {types : TypeTable} {fragment : String} {captures : List Capture}
    (compiled : last.compiled types = .ok (fragment, captures)) (words : List String) :
    ∃ body, (ofKeywords words last).compiled types = .ok (body, captures) := by
  induction words with
  | nil =>
    exact ⟨_, compiled_token_eq_ok.mpr ⟨fragment, captures, compiled, "", [], rfl, rfl, by simp⟩⟩
  | cons word words ih =>
    obtain ⟨body, rest⟩ := ih
    exact ⟨_, compiled_token_eq_ok.mpr ⟨_, [], rfl, body, captures, rest, rfl, rfl⟩⟩

/-- A line of the keywords with a text of the last token behind them is matched, and the match captures
this text. -/
theorem Phrase.LinePattern.groupText_of_keywords {pattern : Pattern} {words : List String}
    (lines : (ofKeywords words last).LinePattern ofType pattern)
    (captures : last.kind.captures = true) (keywords : ∀ word ∈ words, IsKeyword word) {text : List Char}
    (taken : text ∈ last.bodies ofType) (start : ∀ c ∈ text.head?, isSpace c = false)
    (stop : ∀ c ∈ text.getLast?, isSpace c = false) :
    ∃ found, pattern.matchStart (behind words text).toArray = some found ∧
      Reading.groupText? (behind words text).toArray found 1 = some (String.ofList text) := by
  obtain ⟨filling, fits, written⟩ := Filling.exists_of_keywords captures words taken true
  have nothing : [] ∈ Texts.blank := by simp
  have ends : (behind words text).toArray.toList = filling.line ++ [] := by simp [written, blankBefore]
  obtain ⟨found, matched⟩ :=
    Option.isSome_iff_exists.mp (lines.matchStart_isSome fits nothing ends)
  obtain ⟨other, fitsOther, tail, blank, whole, groups⟩ := lines.read_sound matched
  obtain ⟨place, body, caught, split⟩ :=
    Filling.captured_of_keywords captures keywords fitsOther start whole.symm 0
  -- No white space is left behind a text that ends with something visible.
  have ended : tail = [] := by
    cases last : tail.getLast? with
    | none => exact List.getLast?_eq_none_iff.mp last
    | some c =>
      have visible := stop c (by rw [split, List.getLast?_append, last]; rfl)
      rw [blank c (List.mem_of_getLast? last)] at visible
      cases visible
  refine ⟨found, matched, ?_⟩
  rw [(groups 0).2, caught, split, ended]
  simp

/-- A line is read when it is matched and its captures have values. -/
theorem Expression.read_of_matchStart {expression : Expression} {line : String} {found : Pattern.Match}
    (matched : expression.pattern.matchStart line.toList.toArray = some found)
    {values : List (String × Value)}
    (computed : Reading.valuesFrom (some expression.text) line.toList.toArray found 1
      (expression.captures.take expression.pattern.groups) = .ok values) :
    expression.read line = .ok (some ⟨some expression, expression.pattern, line.toList.toArray, found,
      values⟩) := by
  simp [Expression.read, Expression.attempt, matched, Reading.ofMatch, computed, bind, Except.bind, pure,
    Except.pure]

/-- A line of the keywords of an expression with a text of its capture behind them is read, and the
value of the capture is the value of this text. -/
theorem Expression.read_keywords {words : List String} (keywords : ∀ word ∈ words, IsKeyword word)
    {expression : String} (isPhrase : Phrase.of expression = .ok (ofKeywords words last))
    (captures : last.kind.captures = true) {fragment : String} {capture : Capture}
    (compiled : last.compiled .numeric = .ok (fragment, [capture])) {text : String}
    (taken : text.toList ∈ last.bodies Texts.ofType) (start : ∀ c ∈ text.toList.head?, isSpace c = false)
    (stop : ∀ c ∈ text.toList.getLast?, isSpace c = false) {value : Value}
    (computed : capture.value (some expression) text = .ok value) :
    ∃ compiled reading, Expression.compile .numeric expression = .ok compiled ∧
      compiled.read (" ".intercalate (words ++ [text])) = .ok (some reading) ∧
      reading.value (.name capture.name) = .ok value := by
  obtain ⟨body, whole⟩ := compiled_ofKeywords compiled words
  obtain ⟨pattern, isExpression⟩ := compile_of_phrase TypeTable.numeric_means isPhrase whole
  obtain ⟨phrase, same, lines, -⟩ := compile_linePattern TypeTable.numeric_means isExpression
  rw [isPhrase] at same
  cases same
  have line := toList_intercalate_keywords words text
  obtain ⟨found, matched, group⟩ := lines.groupText_of_keywords captures keywords taken start stop
  rw [← line] at matched group
  have groups : pattern.groups = 1 := by
    rw [lines.groups, capturing_ofKeywords captures, List.length_singleton]
  have values : Reading.valuesFrom (some expression) (" ".intercalate (words ++ [text])).toList.toArray
      found 1 ([capture].take pattern.groups) = .ok [(capture.name, value)] := by
    rw [groups, List.take_succ_cons, List.take_zero, Reading.valuesFrom, group, String.ofList_toList]
    simp [computed, Reading.valuesFrom, bind, Except.bind, pure, Except.pure]
  refine ⟨_, _, isExpression, read_of_matchStart matched values, ?_⟩
  simp [Reading.value, Reading.named, Table.ofEntries, Table.get?_insert]

end LineGrammar
