import LineGrammar.Proofs.Characters
import LineGrammar.Proofs.Filling

/-!
# Elements of lists

The elements of a list stand between separators, and a separator begins with white space or a comma.
For a text to be taken apart in one way only, an element must begin with neither, and two elements at
the same place that are both followed by a separator, or by nothing, must be the same. `Delimited` says
so of a language.

It holds of every language that the elements of a list have: words and numerals hold no such character
at all, and an argument that holds one has it behind a backslash or between quotes.
-/

namespace LineGrammar.Texts

open LineGrammar.Text
open scoped Computability

/-- Whether a character can begin a separator. -/
def isBreak (c : Char) : Bool := isSpace c || c == ','

/-- A text that is empty or begins with a separator. -/
def Cut (text : List Char) : Prop := ∀ c ∈ text.head?, isBreak c = true

/-- The empty text is cut. -/
@[simp] theorem cut_nil : Cut [] := by simp [Cut]

/-- A text is cut by the character that it begins with. -/
@[simp] theorem cut_cons {c : Char} {rest : List Char} : Cut (c :: rest) ↔ isBreak c = true := by
  simp [Cut]

/-- The elements of a language do not begin like a separator, and are determined by where they begin
as soon as a separator or nothing follows. -/
structure Delimited (texts : Language Char) : Prop where
  nonempty : [] ∉ texts
  start : ∀ {c rest}, c :: rest ∈ texts → isBreak c = false
  unique : ∀ {first second rest other}, first ∈ texts → second ∈ texts →
    first ++ rest = second ++ other → Cut rest → Cut other → first = second

/-- A separator consists of characters that can begin one, and is not empty. -/
theorem isBreak_of_mem_separator {separator : List Char} (is : separator ∈ Texts.separator) :
    separator ≠ [] ∧ ∀ c ∈ separator, isBreak c = true := by
  rcases is with ⟨nonempty, blank⟩ | ⟨rest, blank, rfl⟩
  · exact ⟨nonempty, fun c inside => by simp [isBreak, blank c inside]⟩
  · refine ⟨by simp, fun c inside => ?_⟩
    rcases List.mem_cons.mp inside with rfl | inside
    · rfl
    · simp [isBreak, blank c inside]

/-- A separator or the end begins exactly where a text is cut. -/
theorem cut_iff {text : List Char} :
    Cut text ↔ text = [] ∨ ∃ separator ∈ Texts.separator, separator <+: text := by
  cases text with
  | nil => simp
  | cons c rest =>
    simp only [cut_cons, List.cons_ne_nil, false_or]
    constructor
    · intro isBreak
      refine ⟨[c], ?_, by simp⟩
      rcases (Bool.or_eq_true _ _).mp isBreak with space | comma
      · exact .inl ⟨by simp, by simpa using space⟩
      · exact .inr ⟨[], by simp, by rw [eq_of_beq comma]⟩
    · rintro ⟨separator, is, more, whole⟩
      obtain ⟨nonempty, breaks⟩ := isBreak_of_mem_separator is
      obtain ⟨d, others, rfl⟩ := List.exists_cons_of_ne_nil nonempty
      cases whole
      exact breaks c (by simp)

/-- Texts without white space and commas are delimited. -/
theorem Delimited.of_unbroken {texts : Language Char} (nonempty : [] ∉ texts)
    (unbroken : ∀ text ∈ texts, ∀ c ∈ text, isBreak c = false) : Delimited texts where
  nonempty := nonempty
  start inside := unbroken _ inside _ List.mem_cons_self
  unique {first second rest other} firstIn secondIn same cutRest cutOther := by
    -- Whichever is longer would go on with a character that the other is cut at.
    have longer {longer shorter behind more : List Char} (inside : longer ∈ texts)
        (cut : Cut behind) (split : longer = shorter ++ more) (goes : behind = more ++ other ∨
          behind = more ++ rest) : more = [] := by
      cases more with
      | nil => rfl
      | cons c more =>
        have plain := unbroken longer inside c (by simp [split])
        rcases goes with rfl | rfl <;> simp [plain] at cut
    rcases List.append_eq_append_iff.mp same with ⟨more, rfl, behind⟩ | ⟨more, rfl, behind⟩
    · rw [longer secondIn cutRest rfl (.inl behind), List.append_nil]
    · rw [longer firstIn cutOther rfl (.inr behind), List.append_nil]

/-! ## Arguments -/

/-- A text that no further unit begins at. -/
def Stopped (plain : Char → Bool) (text : List Char) : Prop :=
  ∀ c ∈ text.head?, c ≠ backslash ∧ plain c = false

/-- The first unit of a text is determined by the text. -/
theorem unit_unique {plain : Char → Bool} (apart : plain backslash = false)
    {first second rest other : List Char} (firstIn : first ∈ unit plain) (secondIn : second ∈ unit plain)
    (same : first ++ rest = second ++ other) : first = second := by
  rcases firstIn with ⟨c, _, rfl⟩ | ⟨c, taken, rfl⟩ <;>
    rcases secondIn with ⟨d, _, rfl⟩ | ⟨d, takenOther, rfl⟩
  · simp only [List.cons_append, List.nil_append, List.cons.injEq, true_and] at same
    rw [same.1]
  · have equal : backslash = d := by simpa using congrArg List.head? same
    rw [← equal, apart] at takenOther
    cases takenOther
  · have equal : c = backslash := by simpa using congrArg List.head? same
    rw [equal, apart] at taken
    cases taken
  · have equal : c = d := by simpa using congrArg List.head? same
    rw [equal]

/-- Units are read in one way up to where no further unit begins. -/
theorem units_unique {plain : Char → Bool} (apart : plain backslash = false)
    {first second rest other : List Char} (firstIn : first ∈ (unit plain)∗)
    (secondIn : second ∈ (unit plain)∗) (same : first ++ rest = second ++ other)
    (stoppedRest : Stopped plain rest) (stoppedOther : Stopped plain other) : first = second := by
  have begins {piece text : List Char} (is : piece ∈ unit plain) (stopped : Stopped plain (piece ++ text)) :
      False := by
    rcases is with ⟨c, _, rfl⟩ | ⟨c, taken, rfl⟩
    · exact (stopped backslash (by simp)).1 rfl
    · have refused := (stopped c (by simp)).2
      rw [taken] at refused
      cases refused
  obtain ⟨turns, rfl, each⟩ := Language.mem_kstar.mp firstIn
  obtain ⟨others, rfl, eachOther⟩ := Language.mem_kstar.mp secondIn
  clear firstIn secondIn
  induction turns generalizing others with
  | nil =>
    cases others with
    | nil => rfl
    | cons piece others =>
      rw [List.flatten_nil, List.nil_append, List.flatten_cons, List.append_assoc] at same
      exact (begins (eachOther piece (by simp)) (same ▸ stoppedRest)).elim
  | cons turn turns ih =>
    cases others with
    | nil =>
      rw [List.flatten_nil, List.nil_append, List.flatten_cons, List.append_assoc] at same
      exact (begins (each turn (by simp)) (same ▸ stoppedOther)).elim
    | cons piece others =>
      simp only [List.flatten_cons, List.append_assoc] at same ⊢
      have first := unit_unique apart (each turn (by simp)) (eachOther piece (by simp)) same
      rw [first] at same ⊢
      rw [ih (fun turn inside => each turn (by simp [inside])) others
        (fun turn inside => eachOther turn (by simp [inside])) (List.append_cancel_left same)]

/-- A bare argument begins with a backslash or a plain character. -/
theorem bare_head {plain : Char → Bool} {c : Char} {rest : List Char} (is : c :: rest ∈ bare plain) :
    c = backslash ∨ plain c = true := by
  obtain ⟨turns, whole, each⟩ := Language.mem_kstar.mp is.2
  cases turns with
  | nil => cases whole
  | cons turn turns =>
    rw [List.flatten_cons] at whole
    rcases each turn (by simp) with ⟨d, _, rfl⟩ | ⟨d, taken, rfl⟩
    · cases whole
      exact .inl rfl
    · cases whole
      exact .inr taken

/-- What stands between two quotes ends at the first quote that is not behind a backslash. -/
theorem enclosed_unique {quote : Char} (apart : quote ≠ backslash) {first second rest other : List Char}
    (firstIn : first ∈ (unit (isInside quote))∗) (secondIn : second ∈ (unit (isInside quote))∗)
    (same : first ++ quote :: rest = second ++ quote :: other) : first = second :=
  units_unique (by simp [isInside]) firstIn secondIn same (by simpa [Stopped, isInside] using apart)
    (by simpa [Stopped, isInside] using apart)

/-- An argument is bare or stands between two equal quotes. -/
theorem mem_argumentOf {plain : Char → Bool} {text : List Char} :
    text ∈ argumentOf plain ↔ text ∈ bare plain ∨
      ∃ quote, Fragment.isQuote quote = true ∧ text ∈ enclosed quote := by
  simp only [argumentOf, Language.mem_add, Fragment.isQuote, Bool.or_eq_true, beq_iff_eq]
  constructor
  · rintro (bare | double | single)
    · exact .inl bare
    · exact .inr ⟨doubleQuote, .inl rfl, double⟩
    · exact .inr ⟨apostrophe, .inr rfl, single⟩
  · rintro (bare | ⟨quote, rfl | rfl, inside⟩)
    · exact .inl bare
    · exact .inr (.inl inside)
    · exact .inr (.inr inside)

/-- What a bare argument is made of: neither a backslash nor a quote. -/
structure IsPlain (plain : Char → Bool) : Prop where
  backslash : plain backslash = false
  quote : ∀ c, Fragment.isQuote c = true → plain c = false

/-- Bare arguments have neither backslashes nor quotes. -/
theorem isPlain_isBare : IsPlain isBare := by
  refine ⟨by decide, fun c quote => ?_⟩
  simp only [Fragment.isQuote, Bool.or_eq_true, beq_iff_eq] at quote
  rcases quote with rfl | rfl <;> decide

/-- Bare elements of a list have neither backslashes nor quotes. -/
theorem isPlain_isBareInList : IsPlain isBareInList :=
  ⟨by decide, fun c quote => by simp [isBareInList, isPlain_isBare.quote c quote]⟩

/-- Arguments are determined by where they begin when no bare argument would go on behind them. -/
theorem argumentOf_unique {plain : Char → Bool} (isPlain : IsPlain plain)
    {first second rest other : List Char} (firstIn : first ∈ argumentOf plain)
    (secondIn : second ∈ argumentOf plain) (same : first ++ rest = second ++ other)
    (stoppedRest : Stopped plain rest) (stoppedOther : Stopped plain other) : first = second := by
  have apart {quote : Char} (is : Fragment.isQuote quote = true) : quote ≠ backslash := by
    rintro rfl
    exact absurd is (by decide)
  -- A bare argument does not begin with a quote.
  have mixed {quote : Char} {bare inside behind more : List Char}
      (is : Fragment.isQuote quote = true) (isBare : bare ∈ Texts.bare plain)
      (same : bare ++ behind = quote :: inside ++ more) : False := by
    obtain ⟨c, others, rfl⟩ := List.exists_cons_of_ne_nil isBare.1
    rw [(List.cons.inj same).1] at isBare
    rcases bare_head isBare with escaped | taken
    · exact apart is escaped
    · rw [isPlain.quote quote is] at taken
      cases taken
  rcases mem_argumentOf.mp firstIn with bare | ⟨quote, is, inside, units, rfl⟩ <;>
    rcases mem_argumentOf.mp secondIn with bareOther | ⟨quoteOther, isOther, others, unitsOther, rfl⟩
  · exact units_unique isPlain.backslash bare.2 bareOther.2 same stoppedRest stoppedOther
  · exact (mixed isOther bare same).elim
  · exact (mixed is bareOther same.symm).elim
  · simp only [List.cons_append, List.append_assoc, List.cons.injEq, List.nil_append] at same
    obtain ⟨rfl, same⟩ := same
    rw [enclosed_unique (apart is) units unitsOther same]

/-- Arguments in a list are delimited. -/
theorem delimited_listArgument : Delimited listArgument where
  nonempty inside := by
    rcases mem_argumentOf.mp inside with bare | ⟨quote, _, _, _, whole⟩
    · exact bare.1 rfl
    · cases whole
  start {c rest} inside := by
    rcases mem_argumentOf.mp inside with bare | ⟨quote, is, _, _, whole⟩
    · rcases bare_head bare with rfl | plain
      · decide
      · simp only [isBareInList, isBare, Bool.and_eq_true, Bool.not_eq_true', bne_iff_ne] at plain
        simp [isBreak, plain]
    · cases whole
      simp only [Fragment.isQuote, Bool.or_eq_true, beq_iff_eq] at is
      rcases is with rfl | rfl <;> decide
  unique firstIn secondIn same cutRest cutOther := by
    have stopped {text : List Char} (cut : Cut text) : Stopped isBareInList text := by
      intro c first
      have isBreak := cut c first
      refine ⟨?_, ?_⟩
      · rintro rfl
        exact absurd isBreak (by decide)
      · simp only [Texts.isBreak, Bool.or_eq_true, beq_iff_eq] at isBreak
        rcases isBreak with space | rfl
        · simp [isBareInList, isBare, space]
        · decide
    exact argumentOf_unique isPlain_isBareInList firstIn secondIn same (stopped cutRest)
      (stopped cutOther)

/-! ## Words and numerals -/

/-- Words in upper or lower case are delimited. -/
theorem delimited_oneOf {words : List String}
    (formed : ∀ word ∈ words, word ≠ "" ∧ ∀ c ∈ word.toList, isWord c = true) :
    Delimited (oneOf words) := by
  refine .of_unbroken ?_ ?_
  · rintro ⟨word, listed, agree, -⟩
    have empty : word.toList = [] := List.forall₂_nil_right_iff.mp agree
    exact (formed word listed).1 (by simpa using empty)
  · rintro text ⟨word, listed, agree, -⟩ c inside
    obtain ⟨index, bound, rfl⟩ := List.getElem_of_mem inside
    have here := agree.get (i := index) (agree.length_eq ▸ bound) bound
    cases broken : isBreak (text[index]) with
    | false => rfl
    | true =>
      have other : isSpace text[index] = true ∨ text[index] = ',' := by simpa [isBreak] using broken
      have differ := not_sameIgnoringCase_of_isWord
        ((formed word listed).2 _ (List.getElem_mem (agree.length_eq ▸ bound))) other
      rw [List.get_eq_getElem, List.get_eq_getElem] at here
      rw [here] at differ
      cases differ

/-- A numeral is not empty, and holds no character that begins a separator. -/
theorem numeral_unbroken {signs : List (List Char)} (plain : ∀ sign ∈ signs, ∀ c ∈ sign, isBreak c = false)
    {fractional : Bool} {text : List Char} (is : text ∈ numeral signs fractional) :
    text ≠ [] ∧ ∀ c ∈ text, isBreak c = false := by
  have digit {c : Char} (decimal : isDecimal c = true) : isBreak c = false := by
    cases broken : isBreak c with
    | false => rfl
    | true =>
      simp only [isBreak, Bool.or_eq_true, beq_iff_eq] at broken
      rcases broken with space | rfl
      · rw [not_isDecimal_of_isSpace space] at decimal
        cases decimal
      · exact absurd decimal (by decide)
  obtain ⟨sign, listed, whole, digits, part, fraction, rfl⟩ := is
  refine ⟨?_, fun c inside => ?_⟩
  · simp [digits.1]
  · rcases List.mem_append.mp inside with inside | inside
    · exact plain sign listed c inside
    · rcases List.mem_append.mp inside with inside | inside
      · exact digit (digits.2 c inside)
      · rcases fraction with rfl | ⟨_, decimals, behind, rfl⟩
        · cases inside
        · rcases List.mem_cons.mp inside with rfl | inside
          · decide
          · exact digit (behind.2 c inside)

/-- The numerals of a type are delimited, in quotes as well as bare. -/
theorem delimited_ofType (name : String) : Delimited (ofType name) := by
  have quoted {signs : List (List Char)} (plain : ∀ sign ∈ signs, ∀ c ∈ sign, isBreak c = false)
      (fractional : Bool) : Delimited (quotable (numeral signs fractional)) := by
    refine .of_unbroken ?_ ?_
    · rintro (bare | ⟨quote, _, inside, _, whole⟩)
      · exact (numeral_unbroken plain bare).1 rfl
      · cases whole
    · rintro text (bare | ⟨quote, is, inside, taken, rfl⟩) c listed
      · exact (numeral_unbroken plain bare).2 c listed
      · have mark : isBreak quote = false := by
          simp only [Fragment.isQuote, Bool.or_eq_true, beq_iff_eq] at is
          rcases is with rfl | rfl <;> decide
        simp only [List.mem_cons, List.mem_append, List.not_mem_nil, or_false] at listed
        rcases listed with rfl | listed | rfl
        · exact mark
        · exact (numeral_unbroken plain taken).2 c listed
        · exact mark
  have plus : isBreak '+' = false := by decide
  have minus : isBreak '-' = false := by decide
  unfold ofType
  split
  · exact quoted (by simp [plus, minus]) false
  · exact quoted (by simp [plus]) false
  · exact quoted (by simp [minus]) false
  · exact quoted (by simp [plus, minus]) true
  · exact quoted (by simp [plus]) true
  · exact quoted (by simp [minus]) true
  · exact ⟨nofun, nofun, nofun⟩

end LineGrammar.Texts

namespace LineGrammar

/-- The elements of a list in an expression are delimited. -/
theorem Token.delimited_elements {token : Token} (wellFormed : token.WellFormed)
    (list : token.kind = .argumentList) : Texts.Delimited (token.elements Texts.ofType) := by
  unfold elements
  split
  · rename_i first rest _ choices
    exact Texts.delimited_oneOf (wellFormed.choices _ choices)
  · exact Texts.delimited_ofType _
  · rw [if_pos list]
    exact Texts.delimited_listArgument

end LineGrammar
