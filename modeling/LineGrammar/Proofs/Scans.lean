import LineGrammar.Proofs.Keywords

/-!
# Scanning by longest runs

The scan of a segment as its documentation has it, stated without an order of trials: white space is
passed over, a name takes the longest run of word characters and each part that is complete, and
anything else takes the longest run without white space. A text has exactly one such scan, and the pieces
that are taken from left to right are the pieces of it.

Which part of the text a piece covers is not said here.
-/

namespace LineGrammar.Token

open LineGrammar.Text

/-! ## The rules of a scan -/

/-- A run of admitted characters, at least one, that what follows does not continue. -/
structure LongestRun (admitted : Char → Bool) (run rest : List Char) : Prop where
  nonempty : run ≠ []
  each : ∀ c ∈ run, admitted c = true
  longest : ∀ c ∈ rest.head?, admitted c = false

/-- A text begins with admitted characters between two brackets, at least one of them. -/
structure Enclosed (opening closing : Char) (admitted : Char → Bool) (text content rest : List Char) :
    Prop where
  nonempty : content ≠ []
  each : ∀ c ∈ content, admitted c = true
  whole : text = opening :: (content ++ closing :: rest)

/-- A text begins with an annotation, which goes up to the first closing bracket. -/
def IsRemark : List Char → List Char → List Char → Prop := Enclosed '<' '>' (· != '>')

/-- Whether a character may stand in the name of a type. -/
def isTypeCharacter (c : Char) : Bool := isWord c || c == '+' || c == '-'

/-- A text begins with a type, which goes on as long as it can. -/
structure IsType (text content rest : List Char) : Prop where
  whole : text = '@' :: (content ++ rest)
  run : LongestRun isTypeCharacter content rest

/-- Whether a character may stand in a list of choices. -/
def isChoiceCharacter (c : Char) : Bool := isWord c || c == ','

/-- A text begins with choices. -/
def IsChoices : List Char → List Char → List Char → Prop :=
  Enclosed '\x7b' '\x7d' isChoiceCharacter

/-- A part is taken from the front of a text if it is complete there; else the text stays as it is. -/
inductive IfComplete (part : List Char → List Char → List Char → Prop) (text : List Char) :
    Option (List Char) → List Char → Prop where
  | complete {content rest : List Char} (is : part text content rest) :
    IfComplete part text (some content) rest
  | incomplete (none : ∀ content rest, ¬part text content rest) : IfComplete part text Option.none text

/-- The characters that may stand before a name. -/
def IsSigil (c : Char) : Prop := c = '+' ∨ c = ':' ∨ c = '*'

/-- A sigil is neither a word character nor white space. -/
theorem IsSigil.apart {c : Char} (is : IsSigil c) : isWord c = false ∧ isSpace c = false := by
  rcases is with rfl | rfl | rfl <;> decide

/-- A text begins with a word character, or with a sigil and a word character behind it. -/
def BeginsName (text : List Char) : Prop :=
  ∃ (sigil : Option Char) (c : Char) (rest : List Char),
    text = sigil.toList ++ c :: rest ∧ (∀ s ∈ sigil, IsSigil s) ∧ isWord c = true

/-- What is taken from the front of a text, and what is left of the text. -/
inductive FirstPiece : List Char → Piece → List Char → Prop where
  | name {sigil : Option Char} {name afterName afterRemark afterType rest : List Char}
    {remark type choices : Option (List Char)}
    (isSigil : ∀ s ∈ sigil, IsSigil s) (isName : LongestRun isWord name afterName)
    (isRemark : IfComplete IsRemark afterName remark afterRemark)
    (isType : IfComplete IsType afterRemark type afterType)
    (isChoices : IfComplete IsChoices afterType choices rest) :
    FirstPiece (sigil.toList ++ (name ++ afterName)) (.named sigil name remark type choices) rest
  | symbol {symbol rest : List Char} (other : ¬BeginsName (symbol ++ rest))
    (isSymbol : LongestRun (!isSpace ·) symbol rest) : FirstPiece (symbol ++ rest) (.symbol symbol) rest

/-- The pieces of a text: white space is passed over, and everything else is taken. -/
inductive ScansAs : List Char → List Piece → Prop where
  | done : ScansAs [] []
  | space {c : Char} {rest : List Char} {pieces : List Piece} (space : isSpace c = true)
    (others : ScansAs rest pieces) : ScansAs (c :: rest) pieces
  | piece {text rest : List Char} {piece : Piece} {pieces : List Piece} (first : FirstPiece text piece rest)
    (others : ScansAs rest pieces) : ScansAs text (piece :: pieces)

variable {admitted : Char → Bool} {opening closing : Char} {text run content rest : List Char}
  {piece : Piece} {part : Option (List Char)}

/-! ## Runs and parts -/

namespace LongestRun

/-- The longest run is what is taken from the front. -/
theorem takeWhile_eq (longest : LongestRun admitted run rest) : (run ++ rest).takeWhile admitted = run := by
  have stop : rest.takeWhile admitted = [] := by
    cases rest with
    | nil => rfl
    | cons c rest => exact List.takeWhile_cons_of_neg (by simp [longest.longest c rfl])
  rw [List.takeWhile_append_of_pos longest.each, stop, List.append_nil]

/-- Behind the longest run is what is left. -/
theorem dropWhile_eq (longest : LongestRun admitted run rest) :
    (run ++ rest).dropWhile admitted = rest := by
  have start : rest.dropWhile admitted = rest := by
    cases rest with
    | nil => rfl
    | cons c rest => exact List.dropWhile_cons_of_neg (by simp [longest.longest c rfl])
  rw [List.dropWhile_append_of_pos longest.each, start]

/-- The admitted characters at the front of a text are a longest run, unless there are none. -/
theorem of_takeWhile (nonempty : text.takeWhile admitted ≠ []) :
    LongestRun admitted (text.takeWhile admitted) (text.dropWhile admitted) where
  nonempty := nonempty
  each c inside := List.all_eq_true.mp List.all_takeWhile c inside
  longest c first := by
    have stop := List.head?_dropWhile_not admitted text
    rw [Option.mem_def.mp first] at stop
    simpa using stop

end LongestRun

/-- A part in brackets is complete exactly when it is taken. Its closing bracket is not admitted inside,
so the part can only end at the first one. -/
theorem enclosed_iff (apart : admitted closing = false) :
    Enclosed opening closing admitted text content rest ↔
      bracketed opening closing admitted text = (some content, rest) := by
  constructor
  · rintro ⟨nonempty, each, rfl⟩
    have longest : LongestRun admitted content (closing :: rest) := by
      refine ⟨nonempty, each, ?_⟩
      rintro c ⟨⟩
      exact apart
    simp [bracketed, longest.takeWhile_eq, longest.dropWhile_eq, nonempty]
  · intro taken
    cases text with
    | nil => cases taken
    | cons c behind =>
      have split := List.takeWhile_append_dropWhile (p := admitted) (l := behind)
      simp only [bracketed] at taken
      split at taken
      · rename_i same
        split at taken
        · rename_i d after behind_eq
          split at taken
          · rename_i ends
            rw [Bool.and_eq_true, decide_eq_true_eq, Bool.not_eq_true', List.isEmpty_eq_false_iff] at ends
            obtain ⟨rfl, nonempty⟩ := ends
            cases taken
            refine ⟨nonempty, (LongestRun.of_takeWhile nonempty).each, ?_⟩
            rw [same, ← behind_eq, split]
          · cases taken
        · cases taken
      · cases taken

/-- A part that is not taken leaves the text as it is. -/
theorem bracketed_none (left : bracketed opening closing admitted text = (none, rest)) : rest = text := by
  cases text with
  | nil =>
    cases left
    rfl
  | cons c behind =>
    simp only [bracketed] at left
    split at left
    · split at left
      · split at left
        · cases left
        · cases left
          rfl
      · cases left
        rfl
    · cases left
      rfl

/-- A type is taken exactly where a text begins with one. -/
theorem isType_iff : IsType text content rest ↔ takeType text = (some content, rest) := by
  constructor
  · rintro ⟨rfl, run⟩
    have taken : (content ++ rest).takeWhile (fun c => isWord c || c == '+' || c == '-') = content :=
      run.takeWhile_eq
    have left : (content ++ rest).dropWhile (fun c => isWord c || c == '+' || c == '-') = rest :=
      run.dropWhile_eq
    simp [takeType, taken, left, run.nonempty]
  · intro taken
    simp only [takeType] at taken
    split at taken
    · rename_i behind
      split at taken
      · cases taken
      · rename_i filled
        cases taken
        rw [List.isEmpty_iff] at filled
        exact ⟨by rw [List.takeWhile_append_dropWhile], LongestRun.of_takeWhile filled⟩
    · cases taken

/-- Where no type is taken, the text stays as it is. -/
theorem takeType_none (left : takeType text = (none, rest)) : rest = text := by
  simp only [takeType] at left
  split at left
  · split at left
    · cases left
      rfl
    · cases left
  · cases left
    rfl

/-- What takes the complete parts, and leaves the text as it is without one, takes a part if it is
complete. -/
theorem ifComplete_iff {complete : List Char → List Char → List Char → Prop}
    {take : List Char → Option (List Char) × List Char}
    (taken : ∀ {text content rest}, complete text content rest ↔ take text = (some content, rest))
    (left : ∀ {text rest}, take text = (none, rest) → rest = text) :
    IfComplete complete text part rest ↔ take text = (part, rest) := by
  constructor
  · rintro (is | none)
    · exact taken.mp is
    · rcases same : take text with ⟨_ | content, after⟩
      · rw [left same]
      · exact absurd (taken.mpr same) (none content after)
  · intro same
    cases part with
    | some content => exact .complete (taken.mpr same)
    | none =>
      obtain rfl := left same
      refine .incomplete ?_
      intro content rest is
      cases (taken.mp is).symm.trans same

/-- An annotation is taken exactly where it is complete. -/
theorem ifComplete_remark : IfComplete IsRemark text part rest ↔ takeRemark text = (part, rest) :=
  ifComplete_iff (enclosed_iff (by decide)) bracketed_none

/-- A type is taken exactly where it is complete. -/
theorem ifComplete_type : IfComplete IsType text part rest ↔ takeType text = (part, rest) :=
  ifComplete_iff isType_iff takeType_none

/-- Choices are taken exactly where they are complete. -/
theorem ifComplete_choices : IfComplete IsChoices text part rest ↔ takeChoices text = (part, rest) :=
  ifComplete_iff (enclosed_iff (by decide)) bracketed_none

/-! ## Pieces -/

/-- The sigils are the characters with a kind of capture. -/
theorem isSome_ofSigil? {c : Char} : (TokenKind.ofSigil? c).isSome = true ↔ IsSigil c := by
  constructor
  · intro is
    unfold TokenKind.ofSigil? at is
    split at is
    · exact .inl rfl
    · exact .inr (.inl rfl)
    · exact .inr (.inr rfl)
    · cases is
  · rintro (rfl | rfl | rfl) <;> rfl

/-- The piece at the front of a text that begins with a name. -/
theorem takePiece_name {sigil : Option Char} {c : Char} (isSigil : ∀ s ∈ sigil, IsSigil s)
    (word : isWord c = true) (rest : List Char) :
    takePiece (sigil.toList ++ c :: rest) = takeNamed sigil (c :: rest) := by
  cases sigil with
  | none => exact takePiece_word word rest
  | some s =>
    obtain ⟨kind, is⟩ := Option.isSome_iff_exists.mp (isSome_ofSigil?.mpr (isSigil s rfl))
    exact takePiece_sigil is word rest

/-- What does not begin a name is taken as a symbol. -/
theorem takePiece_symbol {c : Char} {rest : List Char} (other : ¬BeginsName (c :: rest)) :
    takePiece (c :: rest) = takeSymbol (c :: rest) := by
  have noWord : isWord c = false := by
    rw [← Bool.not_eq_true]
    intro word
    exact other ⟨none, c, rest, rfl, by simp, word⟩
  cases rest with
  | nil => simp [takePiece, noWord]
  | cons d rest =>
    have noSigil : ¬((TokenKind.ofSigil? c).isSome = true ∧ isWord d = true) := by
      rintro ⟨sigil, word⟩
      refine other ⟨some c, d, rest, rfl, ?_, word⟩
      rintro s ⟨⟩
      exact isSome_ofSigil?.mp sigil
    simp only [takePiece, noWord, Bool.false_eq_true, if_false, Bool.and_eq_true, noSigil]

/-- What is taken is what the rules say, from any text that does not begin with white space. -/
theorem firstPiece_takePiece {c : Char} {behind : List Char} (visible : isSpace c = false) :
    FirstPiece (c :: behind) (takePiece (c :: behind)).1 (takePiece (c :: behind)).2 := by
  by_cases begins : BeginsName (c :: behind)
  · obtain ⟨sigil, d, rest, whole, isSigil, word⟩ := begins
    have nonempty : (d :: rest).takeWhile isWord ≠ [] := by simp [word]
    rw [whole, takePiece_name isSigil word]
    have named := FirstPiece.name isSigil (LongestRun.of_takeWhile nonempty) (ifComplete_remark.mpr rfl)
      (ifComplete_type.mpr rfl) (ifComplete_choices.mpr rfl)
    rwa [List.takeWhile_append_dropWhile] at named
  · have nonempty : (c :: behind).takeWhile (!isSpace ·) ≠ [] := by simp [visible]
    have run := LongestRun.of_takeWhile nonempty
    have symbol := FirstPiece.symbol (by rwa [List.takeWhile_append_dropWhile]) run
    rw [List.takeWhile_append_dropWhile] at symbol
    rw [takePiece_symbol begins]
    exact symbol

/-- The rules leave no choice, and take nothing from a text that begins with white space. -/
theorem FirstPiece.takePiece_eq (takes : FirstPiece text piece rest) :
    takePiece text = (piece, rest) ∧ ∃ c behind, text = c :: behind ∧ isSpace c = false := by
  cases takes with
  | @name sigil name afterName _ _ _ _ _ _ isSigil isName isRemark isType isChoices =>
    obtain ⟨c, others, rfl⟩ := List.exists_cons_of_ne_nil isName.nonempty
    have word : isWord c = true := isName.each c List.mem_cons_self
    constructor
    · have taken := isName.takeWhile_eq
      have left := isName.dropWhile_eq
      rw [List.cons_append, takePiece_name isSigil word, ← List.cons_append]
      simp only [takeNamed, taken, left, ifComplete_remark.mp isRemark, ifComplete_type.mp isType,
        ifComplete_choices.mp isChoices]
    · cases sigil with
      | none => exact ⟨c, _, rfl, not_isSpace_of_isWord word⟩
      | some s => exact ⟨s, _, rfl, (isSigil s rfl).apart.2⟩
  | @symbol symbol _ other isSymbol =>
    have taken := isSymbol.takeWhile_eq
    have left := isSymbol.dropWhile_eq
    obtain ⟨c, others, rfl⟩ := List.exists_cons_of_ne_nil isSymbol.nonempty
    constructor
    · rw [List.cons_append] at other taken left ⊢
      rw [takePiece_symbol other, takeSymbol, taken, left]
    · exact ⟨c, _, rfl, by simpa using isSymbol.each c List.mem_cons_self⟩

/-! ## The scan of a text -/

/-- What is taken makes a text shorter. -/
theorem FirstPiece.length_lt (takes : FirstPiece text piece rest) : rest.length < text.length := by
  have shorter {part : List Char → List Char → List Char → Prop} {text rest : List Char}
      {content : Option (List Char)} (taken : IfComplete part text content rest)
      (suffix : ∀ content rest, part text content rest → rest.length ≤ text.length) :
      rest.length ≤ text.length := by
    cases taken with
    | complete is => exact suffix _ _ is
    | incomplete => exact le_rfl
  cases takes with
  | @name sigil name afterName afterRemark afterType _ _ _ _ _ isName isRemark isType isChoices =>
    have positive := List.length_pos_of_ne_nil isName.nonempty
    have remark := shorter isRemark fun content rest is => by simp [is.whole]; omega
    have type := shorter isType fun content rest is => by simp [is.whole]; omega
    have choices := shorter isChoices fun content rest is => by simp [is.whole]; omega
    simp only [List.length_append]
    omega
  | symbol _ isSymbol =>
    have positive := List.length_pos_of_ne_nil isSymbol.nonempty
    rw [List.length_append]
    omega

/-- White space at the front of a text is passed over. -/
theorem scansAs_trimFront {pieces : List Piece} (scan : ScansAs (trimFront text) pieces) : ScansAs text pieces := by
  induction text with
  | nil => exact scan
  | cons c rest ih =>
    by_cases space : isSpace c = true
    · rw [trimFront, List.dropWhile_cons_of_pos space] at scan
      exact .space space (ih scan)
    · rwa [trimFront, List.dropWhile_cons_of_neg space] at scan

/-- With room for every character, the pieces are those of the scan. -/
theorem scansAs_piecesWithin {count : Nat} (enough : text.length ≤ count) :
    ScansAs text (piecesWithin count text) := by
  induction count generalizing text with
  | zero =>
    obtain rfl := List.length_eq_zero_iff.mp (Nat.le_zero.mp enough)
    exact .done
  | succ count ih =>
    apply scansAs_trimFront
    simp only [piecesWithin]
    split
    · rename_i blank
      rw [blank]
      exact .done
    · rename_i behind nonempty
      obtain ⟨c, others, begins⟩ := List.exists_cons_of_ne_nil nonempty
      have visible : isSpace c = false := by
        have first := List.head?_dropWhile_not isSpace text
        rw [show text.dropWhile isSpace = c :: others from begins] at first
        simpa using first
      rw [begins]
      have takes : FirstPiece (c :: others) _ _ := firstPiece_takePiece visible
      have shorter := takes.length_lt
      have bound : (trimFront text).length ≤ text.length := (List.dropWhile_suffix isSpace).length_le
      rw [begins] at bound
      exact .piece takes (ih (by omega))

/-- A text has only one scan. -/
theorem ScansAs.unique {pieces others : List Piece} (scan : ScansAs text pieces) (other : ScansAs text others) :
    others = pieces := by
  induction scan generalizing others with
  | done =>
    cases other with
    | done => rfl
    | piece first =>
      obtain ⟨_, c, behind, begins, _⟩ := first.takePiece_eq
      cases begins
  | space space _ ih =>
    cases other with
    | space _ rest => exact ih rest
    | piece first =>
      obtain ⟨_, c, behind, begins, visible⟩ := first.takePiece_eq
      cases begins
      rw [space] at visible
      cases visible
  | piece first _ ih =>
    obtain ⟨taken, c, behind, begins, visible⟩ := first.takePiece_eq
    cases other with
    | done => cases begins
    | space space =>
      cases begins
      rw [space] at visible
      cases visible
    | piece second rest =>
      obtain ⟨rfl, rfl⟩ := Prod.mk.inj (second.takePiece_eq.1.symm.trans taken)
      rw [ih rest]

/-- The pieces of a text are the pieces of its scan. -/
theorem scansAs_iff {pieces : List Piece} : ScansAs text pieces ↔ pieces = Token.pieces text := by
  have all : ScansAs text (Token.pieces text) := scansAs_piecesWithin le_rfl
  constructor
  · exact all.unique
  · rintro rfl
    exact all

end LineGrammar.Token
