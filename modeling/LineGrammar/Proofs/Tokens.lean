import LineGrammar.Token
import Mathlib.Data.List.Forall2

/-!
# The tokens of a scan

A scan builds its tokens out of what it has seen, so they are well formed: no name is empty, and the
words among the choices of a token consist of word characters. The scan itself is followed piece by
piece; which pieces a text has is not said here.
-/

namespace LineGrammar

open LineGrammar.Text

/-- An outcome with a result is a success. -/
theorem Except.eq_ok_of_toOption {ε α : Type} {outcome : Except ε α} {a : α}
    (some : outcome.toOption = some a) : outcome = .ok a := by
  cases outcome with
  | error fault => cases some
  | ok b => exact congrArg Except.ok (Option.some.inj some)

/-- A computation with a second one after it succeeds when both do. -/
theorem Except.bind_eq_ok {ε α β : Type} {first : Except ε α} {next : α → Except ε β} {b : β} :
    (first >>= next) = .ok b ↔ ∃ a, first = .ok a ∧ next a = .ok b := by
  cases first <;> simp [bind, Except.bind]

/-- A computation whose value is passed to a function succeeds when it does. -/
theorem Except.map_eq_ok {ε α β : Type} {first : Except ε α} {f : α → β} {b : β} :
    f <$> first = .ok b ↔ ∃ a, first = .ok a ∧ f a = b := by
  cases first <;> simp [Functor.map, Except.map]

/-- A computation with a second one after it fails when one of them does. -/
theorem Except.bind_eq_error {ε α β : Type} {first : Except ε α} {next : α → Except ε β} {fault : ε} :
    (first >>= next) = .error fault ↔
      first = .error fault ∨ ∃ a, first = .ok a ∧ next a = .error fault := by
  cases first <;> simp [bind, Except.bind]

/-- A list of computations fails only where one of them does. -/
theorem Except.exists_of_mapM_eq_error {ε α β : Type} {compute : α → Except ε β} {inputs : List α}
    {fault : ε} (failed : inputs.mapM compute = .error fault) :
    ∃ input ∈ inputs, compute input = .error fault := by
  induction inputs with
  | nil => cases failed
  | cons input inputs ih =>
    rw [List.mapM_cons, Except.bind_eq_error] at failed
    rcases failed with here | ⟨output, -, rest⟩
    · exact ⟨input, List.mem_cons_self, here⟩
    · rcases Except.bind_eq_error.mp rest with others | ⟨outputs, -, last⟩
      · obtain ⟨other, listed, failed⟩ := ih others
        exact ⟨other, List.mem_cons_of_mem _ listed, failed⟩
      · cases last

/-- A list of computations succeeds when each of them does. -/
theorem Except.mapM_eq_ok {ε α β : Type} {compute : α → Except ε β} {inputs : List α} {outputs : List β} :
    inputs.mapM compute = .ok outputs ↔
      List.Forall₂ (fun input output => compute input = .ok output) inputs outputs := by
  induction inputs generalizing outputs with
  | nil => simp [pure, Except.pure, eq_comm]
  | cons input inputs ih =>
    simp only [List.mapM_cons, Except.bind_eq_ok, List.forall₂_cons_left_iff, ih]
    constructor
    · rintro ⟨output, here, others, rest, same⟩
      cases same
      exact ⟨output, others, here, rest, rfl⟩
    · rintro ⟨output, others, here, rest, rfl⟩
      exact ⟨output, here, others, rest, rfl⟩

/-- What a list of computations gives comes from one of them. -/
theorem Except.exists_of_mem_mapM {ε α β : Type} {compute : α → Except ε β} {inputs : List α}
    {outputs : List β} {output : β} (computed : inputs.mapM compute = .ok outputs)
    (listed : output ∈ outputs) : ∃ input ∈ inputs, compute input = .ok output := by
  induction Except.mapM_eq_ok.mp computed with
  | nil => cases listed
  | cons here others ih =>
    rcases List.mem_cons.mp listed with rfl | listed
    · exact ⟨_, List.mem_cons_self, here⟩
    · obtain ⟨input, among, given⟩ := ih (Except.mapM_eq_ok.mpr others) listed
      exact ⟨input, List.mem_cons_of_mem _ among, given⟩

/-- A part between two separators holds none, and nothing that the whole does not hold. -/
theorem mem_of_mem_splitOn {content part : List Char} {separator c : Char}
    (listed : part ∈ content.splitOn separator) (inside : c ∈ part) :
    c ∈ content ∧ c ≠ separator := by
  induction content generalizing part with
  | nil =>
    rw [List.splitOn_nil, List.mem_singleton] at listed
    rw [listed] at inside
    cases inside
  | cons first rest ih =>
    rw [List.splitOn_cons_eq_if_modifyHead] at listed
    split at listed
    · rcases List.mem_cons.mp listed with rfl | listed
      · cases inside
      · have found := ih listed inside
        exact ⟨List.mem_cons_of_mem _ found.1, found.2⟩
    · rename_i other
      rw [beq_iff_eq] at other
      obtain ⟨head, tail, parts⟩ := List.exists_cons_of_ne_nil (List.splitOn_ne_nil separator rest)
      rw [parts, List.modifyHead_cons] at listed
      rw [parts] at ih
      rcases List.mem_cons.mp listed with rfl | listed
      · rcases List.mem_cons.mp inside with rfl | inside
        · exact ⟨List.mem_cons_self, other⟩
        · have found := ih List.mem_cons_self inside
          exact ⟨List.mem_cons_of_mem _ found.1, found.2⟩
      · have found := ih (List.mem_cons_of_mem _ listed) inside
        exact ⟨List.mem_cons_of_mem _ found.1, found.2⟩

namespace Token

/-- What a scan guarantees of a token. -/
structure WellFormed (token : Token) : Prop where
  named : token.name ≠ ""
  choices : ∀ words, token.choices = some words →
    ∀ word ∈ words, word ≠ "" ∧ ∀ c ∈ word.toList, isWord c = true

/-- What a scan guarantees of a piece. -/
def Piece.WellFormed : Piece → Prop
  | .symbol text => text ≠ []
  | .named _ name _ _ choices =>
    name ≠ [] ∧ ∀ content, choices = some content → ∀ c ∈ content, isWord c = true ∨ c = ','

/-- What stands between brackets consists of admitted characters. -/
theorem bracketed_admitted {opening closing : Char} {admitted : Char → Bool} {text content : List Char}
    (taken : (bracketed opening closing admitted text).1 = some content) :
    ∀ c ∈ content, admitted c = true := by
  unfold bracketed at taken
  split at taken
  · cases taken
  · split at taken
    · simp only at taken
      split at taken
      · split at taken
        · cases taken
          exact fun c inside => List.all_eq_true.mp List.all_takeWhile c inside
        · cases taken
      · cases taken
    · cases taken

/-- A name that begins with a character of a word is well formed. -/
theorem takeNamed_wellFormed {sigil : Option Char} {c : Char} {rest : List Char}
    (word : isWord c = true) : (takeNamed sigil (c :: rest)).1.WellFormed := by
  refine ⟨by simp [word], fun content taken d inside => ?_⟩
  have admitted := bracketed_admitted taken d inside
  simpa using admitted

/-- A symbol that begins visibly is well formed. -/
theorem takeSymbol_wellFormed {c : Char} {rest : List Char} (visible : isSpace c = false) :
    (takeSymbol (c :: rest)).1.WellFormed := by
  simp [takeSymbol, Piece.WellFormed, visible]

/-- A piece that begins visibly is well formed. -/
theorem takePiece_wellFormed {c : Char} {rest : List Char} (visible : isSpace c = false) :
    (takePiece (c :: rest)).1.WellFormed := by
  unfold takePiece
  split
  · rename_i first second others same
    cases same
    split
    · rename_i word
      exact takeNamed_wellFormed word
    · split
      · rename_i sigil
        exact takeNamed_wellFormed ((Bool.and_eq_true _ _).mp sigil).2
      · exact takeSymbol_wellFormed visible
  · rename_i only same
    cases same
    split
    · rename_i word
      exact takeNamed_wellFormed word
    · exact takeSymbol_wellFormed visible
  · rename_i same
    cases same

/-- All pieces of a text are well formed. -/
theorem piecesWithin_wellFormed (count : Nat) (text : List Char) :
    ∀ piece ∈ piecesWithin count text, piece.WellFormed := by
  induction count generalizing text with
  | zero => simp [piecesWithin]
  | succ count ih =>
    intro piece listed
    simp only [piecesWithin] at listed
    split at listed
    · cases listed
    · rename_i trimmed nonempty
      obtain ⟨c, rest, start⟩ := List.exists_cons_of_ne_nil nonempty
      have visible : isSpace c = false := by
        have first := List.head?_dropWhile_not isSpace text
        rw [show text.dropWhile isSpace = c :: rest from start] at first
        simpa using first
      rw [start] at listed
      rcases List.mem_cons.mp listed with rfl | listed
      · exact takePiece_wellFormed visible
      · exact ih _ piece listed

/-- A well-formed piece becomes a well-formed token. -/
theorem ofPiece_wellFormed {segment : String} {piece : Piece} {token : Token}
    (piece_wellFormed : piece.WellFormed) (made : ofPiece segment piece = .ok token) :
    token.WellFormed := by
  cases piece with
  | symbol text =>
    cases made
    exact ⟨by simpa [Piece.WellFormed] using piece_wellFormed, by simp⟩
  | named sigil name remark type choices =>
    obtain ⟨named, admitted⟩ := piece_wellFormed
    have nonempty : String.ofList name ≠ "" := by simpa using named
    simp only [ofPiece] at made
    split at made
    · split at made
      · cases made
      · cases made
        exact ⟨nonempty, by simp⟩
    · cases made
      exact ⟨nonempty, by simp⟩
    · cases made
      refine ⟨nonempty, fun words some word listed => ?_⟩
      obtain ⟨content, taken, rfl⟩ := Option.map_eq_some_iff.mp some
      obtain ⟨part, inside, rfl⟩ := List.mem_map.mp listed
      obtain ⟨listed, filled⟩ := List.mem_filter.mp inside
      refine ⟨by simpa using filled, fun c here => ?_⟩
      rw [String.toList_ofList] at here
      obtain ⟨known, other⟩ := mem_of_mem_splitOn listed here
      exact (admitted content taken c known).resolve_right other

/-- The tokens of a segment are well formed. -/
theorem scan_wellFormed {segment : String} {tokens : List Token} (scanned : scan segment = .ok tokens) :
    ∀ token ∈ tokens, token.WellFormed := by
  intro token listed
  obtain ⟨piece, among, made⟩ := Except.exists_of_mem_mapM scanned listed
  exact ofPiece_wellFormed (piecesWithin_wellFormed _ _ piece among) made

end Token

end LineGrammar
