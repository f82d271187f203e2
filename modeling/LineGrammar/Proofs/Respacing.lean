import LineGrammar.Proofs.Scans

/-!
# Texts with other white space

White space keeps apart what stands on both sides of it; how much of it there is, and of which kind, does
not matter to the scan of a segment. Two texts are `Respaced` when they have white space in the same places
and nothing else is different. What is taken from the front of two such texts is the same but for white
space, and so is what is left of them. No part of a piece admits white space but an annotation, so two
respaced texts have the same pieces, annotations put aside.
-/

namespace LineGrammar

open LineGrammar.Text

/-! ## Texts with other white space -/

namespace Text

/-- White space, at least one character of it. -/
structure IsGap (run : List Char) : Prop where
  nonempty : run ≠ []
  blank : ∀ c ∈ run, isSpace c = true

/-- Two texts are the same but for their white space, which stands in the same places. -/
inductive Respaced : List Char → List Char → Prop
  | nil : Respaced [] []
  | visible {c : Char} {one two : List Char} (visible : isSpace c = false) (rest : Respaced one two) :
    Respaced (c :: one) (c :: two)
  | gap {left right one two : List Char} (isLeft : IsGap left) (isRight : IsGap right)
    (rest : Respaced one two) : Respaced (left ++ one) (right ++ two)

/-- A class of characters holds all white space or none of it. -/
def HoldsSpaceAlike (admitted : Char → Bool) : Prop :=
  ∃ answer, ∀ c, isSpace c = true → admitted c = answer

variable {one two more others run : List Char} {c : Char} {admitted : Char → Bool}

/-- What is left of a text without the white space in front begins with a visible character. -/
theorem visible_of_trimFront {text rest : List Char} (begins : trimFront text = c :: rest) :
    isSpace c = false := by
  have first := List.head?_dropWhile_not isSpace text
  rw [show text.dropWhile isSpace = c :: rest from begins] at first
  simpa using first

namespace IsGap

/-- One character of white space is a gap. -/
theorem single (space : isSpace c = true) : IsGap [c] := by
  constructor
  · exact List.cons_ne_nil _ _
  · simpa using space

/-- A gap begins with white space. -/
theorem exists_cons (gap : IsGap run) : ∃ c rest, run = c :: rest ∧ isSpace c = true := by
  obtain ⟨c, rest, rfl⟩ := List.exists_cons_of_ne_nil gap.nonempty
  exact ⟨c, rest, rfl, gap.blank c List.mem_cons_self⟩

/-- A gap does not begin with a visible character. -/
theorem exists_cons_ne (gap : IsGap run) (visible : isSpace c = false) :
    ∃ d rest, run = d :: rest ∧ d ≠ c := by
  obtain ⟨d, rest, rfl, space⟩ := gap.exists_cons
  refine ⟨d, rest, rfl, ?_⟩
  rintro rfl
  rw [visible] at space
  cases space

/-- A gap is one from behind as well. -/
theorem reverse (gap : IsGap run) : IsGap run.reverse := by
  constructor
  · simpa using gap.nonempty
  · intro c inside
    exact gap.blank c (List.mem_reverse.mp inside)

/-- A class without white space ends at a gap. -/
theorem takeWhile_append (gap : IsGap run) (apart : ∀ c, isSpace c = true → admitted c = false)
    (rest : List Char) : (run ++ rest).takeWhile admitted = [] := by
  obtain ⟨c, behind, rfl, space⟩ := gap.exists_cons
  simp [apart c space]

/-- A class without white space is not dropped from the front of a gap. -/
theorem dropWhile_append (gap : IsGap run) (apart : ∀ c, isSpace c = true → admitted c = false)
    (rest : List Char) : (run ++ rest).dropWhile admitted = run ++ rest := by
  obtain ⟨c, behind, rfl, space⟩ := gap.exists_cons
  simp [apart c space]

end IsGap

namespace Respaced

/-- A text is itself with the same white space. -/
theorem refl (text : List Char) : Respaced text text := by
  induction text with
  | nil => exact .nil
  | cons c rest ih =>
    cases space : isSpace c with
    | false => exact .visible space ih
    | true => exact .gap (.single space) (.single space) ih

/-- Which of two texts comes first does not matter. -/
theorem symm (respaced : Respaced one two) : Respaced two one := by
  induction respaced with
  | nil => exact .nil
  | visible visible _ ih => exact .visible visible ih
  | gap isLeft isRight _ ih => exact .gap isRight isLeft ih

/-- Two gaps are the same but for their white space. -/
theorem of_gap {left right : List Char} (isLeft : IsGap left) (isRight : IsGap right) :
    Respaced left right := by
  rw [← List.append_nil left, ← List.append_nil right]
  exact .gap isLeft isRight .nil

/-- Texts that differ in their white space do so one behind the other. -/
theorem append (front : Respaced one two) (back : Respaced more others) :
    Respaced (one ++ more) (two ++ others) := by
  induction front with
  | nil => exact back
  | visible visible _ ih => exact .visible visible ih
  | gap isLeft isRight _ ih =>
    rw [List.append_assoc, List.append_assoc]
    exact .gap isLeft isRight ih

/-- Texts that differ in their white space do so from behind. -/
theorem reverse (respaced : Respaced one two) : Respaced one.reverse two.reverse := by
  induction respaced with
  | nil => exact .nil
  | visible visible _ ih =>
    rw [List.reverse_cons, List.reverse_cons]
    exact ih.append (.visible visible .nil)
  | gap isLeft isRight _ ih =>
    rw [List.reverse_append, List.reverse_append]
    exact ih.append (.of_gap isLeft.reverse isRight.reverse)

/-- What shows all of a text shows all of the other one. -/
theorem eq_of_visible (respaced : Respaced one two) (visible : ∀ c ∈ one, isSpace c = false) :
    one = two := by
  induction respaced with
  | nil => rfl
  | visible _ _ ih => rw [ih (List.forall_mem_cons.mp visible).2]
  | gap isLeft _ _ _ =>
    obtain ⟨c, rest, rfl, space⟩ := isLeft.exists_cons
    have shown := visible c (by simp)
    rw [space] at shown
    cases shown

/-- A text that differs from the empty one in its white space alone is empty. -/
theorem eq_nil_iff (respaced : Respaced one two) : one = [] ↔ two = [] := by
  cases respaced with
  | nil => rfl
  | visible => simp
  | gap isLeft isRight => simp [isLeft.nonempty, isRight.nonempty]

/-- A visible character in front is in front of both. -/
theorem exists_cons (respaced : Respaced (c :: one) others) (visible : isSpace c = false) :
    ∃ two, others = c :: two ∧ Respaced one two := by
  generalize whole : c :: one = text at respaced
  cases respaced with
  | nil => cases whole
  | visible _ rest =>
    cases whole
    exact ⟨_, rfl, rest⟩
  | gap isLeft _ _ =>
    obtain ⟨d, behind, rfl, space⟩ := isLeft.exists_cons
    cases whole
    rw [space] at visible
    cases visible

/-- What a class takes from the front of two such texts differs in white space alone, if the class holds all
of that or none. -/
theorem takeWhile (alike : HoldsSpaceAlike admitted) (respaced : Respaced one two) :
    Respaced (one.takeWhile admitted) (two.takeWhile admitted) := by
  induction respaced with
  | nil => exact .nil
  | @visible c one two visible _ ih =>
    by_cases admits : admitted c = true
    · rw [List.takeWhile_cons_of_pos admits, List.takeWhile_cons_of_pos admits]
      exact .visible visible ih
    · rw [List.takeWhile_cons_of_neg admits, List.takeWhile_cons_of_neg admits]
      exact .nil
  | gap isLeft isRight _ ih =>
    obtain ⟨answer, all⟩ := alike
    cases answer with
    | true =>
      rw [List.takeWhile_append_of_pos fun c inside => all c (isLeft.blank c inside),
        List.takeWhile_append_of_pos fun c inside => all c (isRight.blank c inside)]
      exact .gap isLeft isRight ih
    | false =>
      rw [isLeft.takeWhile_append all, isRight.takeWhile_append all]
      exact .nil

/-- What a class leaves of two such texts differs in white space alone, if the class holds all of that or
none. -/
theorem dropWhile (alike : HoldsSpaceAlike admitted) (respaced : Respaced one two) :
    Respaced (one.dropWhile admitted) (two.dropWhile admitted) := by
  induction respaced with
  | nil => exact .nil
  | @visible c one two visible rest ih =>
    by_cases admits : admitted c = true
    · rw [List.dropWhile_cons_of_pos admits, List.dropWhile_cons_of_pos admits]
      exact ih
    · rw [List.dropWhile_cons_of_neg admits, List.dropWhile_cons_of_neg admits]
      exact .visible visible rest
  | gap isLeft isRight rest ih =>
    obtain ⟨answer, all⟩ := alike
    cases answer with
    | true =>
      rw [List.dropWhile_append_of_pos fun c inside => all c (isLeft.blank c inside),
        List.dropWhile_append_of_pos fun c inside => all c (isRight.blank c inside)]
      exact ih
    | false =>
      rw [isLeft.dropWhile_append all, isRight.dropWhile_append all]
      exact .gap isLeft isRight rest

/-- Two such texts differ in white space alone without the white space at their front. -/
theorem trimFront (respaced : Respaced one two) : Respaced (trimFront one) (trimFront two) :=
  respaced.dropWhile ⟨true, fun _ space => space⟩

/-- Two such texts differ in white space alone without the white space at both ends. -/
theorem trim (respaced : Respaced one two) : Respaced (trim one) (trim two) :=
  respaced.trimFront.reverse.trimFront.reverse

/-- Characters of a class without white space show all of a text. -/
theorem eq_of_admitted (apart : ∀ c, isSpace c = true → admitted c = false)
    (each : ∀ c ∈ one, admitted c = true) (respaced : Respaced one two) : one = two := by
  apply respaced.eq_of_visible
  intro c inside
  have admits := each c inside
  rw [← Bool.not_eq_true]
  intro space
  rw [apart c space] at admits
  cases admits

/-- A class without white space takes the same from the front of two such texts. -/
theorem takeWhile_eq (apart : ∀ c, isSpace c = true → admitted c = false) (respaced : Respaced one two) :
    one.takeWhile admitted = two.takeWhile admitted :=
  (respaced.takeWhile ⟨false, apart⟩).eq_of_admitted apart (List.all_eq_true.mp List.all_takeWhile)

end Respaced

end Text

/-! ## Parts and pieces -/

namespace Token

/-- A piece without its annotation. -/
def Piece.unremarked : Piece → Piece
  | .symbol text => .symbol text
  | .named sigil name _ type choices => .named sigil name none type choices

variable {one two : List Char} {opening closing c : Char} {admitted : Char → Bool}

/-- No bracket is opened by another character. -/
theorem bracketed_of_ne (apart : c ≠ opening) (text : List Char) :
    bracketed opening closing admitted (c :: text) = (none, c :: text) := if_neg apart

/-- Behind an opening bracket, the content goes up to the first character that it does not admit; and that
has to be the closing bracket. -/
theorem bracketed_opening (text : List Char) :
    bracketed opening closing admitted (opening :: text) =
      match text.dropWhile admitted with
      | d :: after =>
        if d = closing && !(text.takeWhile admitted).isEmpty then (some (text.takeWhile admitted), after)
        else (none, opening :: text)
      | [] => (none, opening :: text) := if_pos rfl

/-- Of respaced texts, a part in brackets is taken from both or from neither; its content is respaced, and so
is what is left. -/
theorem bracketed_respaced (opens : isSpace opening = false) (closes : isSpace closing = false)
    (alike : HoldsSpaceAlike admitted) (respaced : Respaced one two) :
    Option.Rel Respaced (bracketed opening closing admitted one).1
        (bracketed opening closing admitted two).1 ∧
      Respaced (bracketed opening closing admitted one).2
        (bracketed opening closing admitted two).2 := by
  cases respaced with
  | nil => exact ⟨.none, .nil⟩
  | gap isLeft isRight rest =>
    obtain ⟨d, left, rfl, apartLeft⟩ := isLeft.exists_cons_ne opens
    obtain ⟨e, right, rfl, apartRight⟩ := isRight.exists_cons_ne opens
    rw [List.cons_append, List.cons_append, bracketed_of_ne apartLeft, bracketed_of_ne apartRight]
    exact ⟨.none, .gap isLeft isRight rest⟩
  | @visible c one two visible rest =>
    by_cases opened : c = opening
    · subst opened
      have content := rest.takeWhile alike
      have empty : (one.takeWhile admitted).isEmpty = (two.takeWhile admitted).isEmpty := by
        rw [Bool.eq_iff_iff, List.isEmpty_iff, List.isEmpty_iff, content.eq_nil_iff]
      have behind := rest.dropWhile alike
      rw [bracketed_opening, bracketed_opening, empty]
      generalize one.dropWhile admitted = behindOne at behind
      generalize two.dropWhile admitted = behindTwo at behind
      cases behind with
      | nil => exact ⟨.none, .visible visible rest⟩
      | @visible d _ _ _ after =>
        dsimp only
        split
        · exact ⟨.some content, after⟩
        · exact ⟨.none, .visible visible rest⟩
      | gap isLeft isRight _ =>
        obtain ⟨d, left, rfl, apartLeft⟩ := isLeft.exists_cons_ne closes
        obtain ⟨e, right, rfl, apartRight⟩ := isRight.exists_cons_ne closes
        simp only [List.cons_append, apartLeft, apartRight, decide_false, Bool.false_and,
          Bool.false_eq_true, if_false]
        exact ⟨.none, .visible visible rest⟩
    · rw [bracketed_of_ne opened, bracketed_of_ne opened]
      exact ⟨.none, .visible visible rest⟩

/-- Behind the annotations of two such texts, the rest differs in white space alone. -/
theorem takeRemark_respaced (respaced : Respaced one two) :
    Respaced (takeRemark one).2 (takeRemark two).2 := by
  refine (bracketed_respaced (by decide) (by decide) ⟨true, ?_⟩ respaced).2
  intro c space
  rw [bne_iff_ne]
  rintro rfl
  exact absurd space (by decide)

/-- White space does not stand in the name of a type. -/
theorem not_isTypeCharacter_of_isSpace (space : isSpace c = true) : isTypeCharacter c = false := by
  have sigils : isSpace '+' = false ∧ isSpace '-' = false := by decide
  simp only [isTypeCharacter, not_isWord_of_isSpace space, Bool.false_or, Bool.or_eq_false_iff,
    beq_eq_false_iff_ne]
  constructor <;> rintro rfl
  · exact absurd space (by decide)
  · exact absurd space (by decide)

/-- White space does not stand in choices. -/
theorem not_isChoiceCharacter_of_isSpace (space : isSpace c = true) : isChoiceCharacter c = false := by
  simp only [isChoiceCharacter, not_isWord_of_isSpace space, Bool.false_or, beq_eq_false_iff_ne]
  rintro rfl
  exact absurd space (by decide)

/-- Two such texts begin with the same type, and the rest differs in white space alone. -/
theorem takeType_respaced (respaced : Respaced one two) :
    (takeType one).1 = (takeType two).1 ∧ Respaced (takeType one).2 (takeType two).2 := by
  have apart : ∀ c, isSpace c = true → isTypeCharacter c = false :=
    fun _ => not_isTypeCharacter_of_isSpace
  have other {c : Char} (is : c ≠ '@') (text : List Char) : takeType (c :: text) = (none, c :: text) := by
    simp [takeType, is]
  cases respaced with
  | nil => exact ⟨rfl, .nil⟩
  | gap isLeft isRight rest =>
    obtain ⟨d, left, rfl, apartLeft⟩ := isLeft.exists_cons_ne (show isSpace '@' = false by decide)
    obtain ⟨e, right, rfl, apartRight⟩ := isRight.exists_cons_ne (show isSpace '@' = false by decide)
    rw [List.cons_append, List.cons_append, other apartLeft, other apartRight]
    exact ⟨rfl, .gap isLeft isRight rest⟩
  | @visible c one two visible rest =>
    by_cases sign : c = '@'
    · subst sign
      have content : one.takeWhile isTypeCharacter = two.takeWhile isTypeCharacter :=
        rest.takeWhile_eq apart
      have behind := rest.dropWhile ⟨false, apart⟩
      have taken (text : List Char) : takeType ('@' :: text) =
          if (text.takeWhile isTypeCharacter).isEmpty then (none, '@' :: text)
          else (some (text.takeWhile isTypeCharacter), text.dropWhile isTypeCharacter) := rfl
      rw [taken, taken, content]
      split
      · exact ⟨rfl, .visible visible rest⟩
      · exact ⟨rfl, behind⟩
    · rw [other sign, other sign]
      exact ⟨rfl, .visible visible rest⟩

/-- Two such texts begin with the same choices, and the rest differs in white space alone. -/
theorem takeChoices_respaced (respaced : Respaced one two) :
    (takeChoices one).1 = (takeChoices two).1 ∧ Respaced (takeChoices one).2 (takeChoices two).2 := by
  have apart : ∀ c, isSpace c = true → isChoiceCharacter c = false :=
    fun _ => not_isChoiceCharacter_of_isSpace
  have both : Option.Rel Respaced (takeChoices one).1 (takeChoices two).1 ∧
      Respaced (takeChoices one).2 (takeChoices two).2 :=
    bracketed_respaced (by decide) (by decide) ⟨false, apart⟩ respaced
  refine ⟨?_, both.2⟩
  have content := both.1
  rcases takenOne : takeChoices one with ⟨_ | chosen, after⟩ <;>
    rcases takenTwo : takeChoices two with ⟨_ | other, afterTwo⟩ <;>
    rw [takenOne, takenTwo] at content <;> cases content
  rename_i same
  have is : IsChoices one chosen after := (enclosed_iff (by decide)).mpr takenOne
  rw [same.eq_of_admitted apart is.each]

/-- Behind a name, the annotation, the type and the choices are taken one after the other. -/
theorem takeNamed_eq (sigil : Option Char) (text : List Char) :
    takeNamed sigil text =
      let remark := takeRemark (text.dropWhile isWord)
      let type := takeType remark.2
      let choices := takeChoices type.2
      (.named sigil (text.takeWhile isWord) remark.1 type.1 choices.1, choices.2) := rfl

/-- The pieces at the front of respaced texts differ in their annotations at most. -/
theorem takeNamed_respaced (sigil : Option Char) (respaced : Respaced one two) :
    (takeNamed sigil one).1.unremarked = (takeNamed sigil two).1.unremarked ∧
      Respaced (takeNamed sigil one).2 (takeNamed sigil two).2 := by
  have apart : ∀ c, isSpace c = true → isWord c = false := fun _ => not_isWord_of_isSpace
  have name := respaced.takeWhile_eq apart
  have behindRemark := takeRemark_respaced (respaced.dropWhile ⟨false, apart⟩)
  have type := takeType_respaced behindRemark
  have choices := takeChoices_respaced type.2
  rw [takeNamed_eq, takeNamed_eq]
  refine ⟨?_, choices.2⟩
  simp only [Piece.unremarked, name, type.1, choices.1]

/-- Two such texts begin with the same symbol, and the rest differs in white space alone. -/
theorem takeSymbol_respaced (respaced : Respaced one two) :
    (takeSymbol one).1 = (takeSymbol two).1 ∧ Respaced (takeSymbol one).2 (takeSymbol two).2 := by
  have apart : ∀ c, isSpace c = true → (!isSpace c) = false := by simp
  exact ⟨congrArg Piece.symbol (respaced.takeWhile_eq apart), respaced.dropWhile ⟨false, apart⟩⟩

/-- Respaced texts begin with the same name, or neither begins with one. -/
theorem beginsName_respaced (respaced : Respaced one two) {sigil : Option Char} {rest : List Char}
    (whole : one = sigil.toList ++ c :: rest) (isSigil : ∀ s ∈ sigil, IsSigil s) (word : isWord c = true) :
    ∃ others, two = sigil.toList ++ c :: others ∧ Respaced (c :: rest) (c :: others) := by
  have visible := not_isSpace_of_isWord word
  subst whole
  cases sigil with
  | none =>
    obtain ⟨others, rfl, behind⟩ := respaced.exists_cons visible
    exact ⟨others, rfl, .visible visible behind⟩
  | some s =>
    obtain ⟨later, rfl, named⟩ := respaced.exists_cons (isSigil s rfl).apart.2
    obtain ⟨others, rfl, behind⟩ := named.exists_cons visible
    exact ⟨others, rfl, .visible visible behind⟩

/-- Two such texts that begin with the same character begin with the same piece, up to its annotation. -/
theorem takePiece_respaced (respaced : Respaced (c :: one) (c :: two)) :
    (takePiece (c :: one)).1.unremarked = (takePiece (c :: two)).1.unremarked ∧
      Respaced (takePiece (c :: one)).2 (takePiece (c :: two)).2 := by
  by_cases begins : BeginsName (c :: one)
  · obtain ⟨sigil, d, rest, whole, isSigil, word⟩ := begins
    obtain ⟨others, wholeTwo, named⟩ := beginsName_respaced respaced whole isSigil word
    rw [whole, wholeTwo, takePiece_name isSigil word, takePiece_name isSigil word]
    exact takeNamed_respaced sigil named
  · have beginsTwo : ¬BeginsName (c :: two) := by
      rintro ⟨sigil, d, rest, whole, isSigil, word⟩
      obtain ⟨others, wholeOne, -⟩ := beginsName_respaced respaced.symm whole isSigil word
      exact begins ⟨sigil, d, others, wholeOne, isSigil, word⟩
    rw [takePiece_symbol begins, takePiece_symbol beginsTwo]
    have taken := takeSymbol_respaced respaced
    exact ⟨congrArg Piece.unremarked taken.1, taken.2⟩

/-! ## Scans -/

/-- The pieces of a text that begins with a visible character, white space put aside. -/
theorem pieces_of_trimFront {text rest : List Char} (begins : trimFront text = c :: rest) :
    pieces text = (takePiece (c :: rest)).1 :: pieces (takePiece (c :: rest)).2 := by
  have visible := visible_of_trimFront begins
  apply Eq.symm
  apply scansAs_iff.mp
  apply scansAs_trimFront
  rw [begins]
  exact .piece (firstPiece_takePiece visible) (scansAs_iff.mpr rfl)

/-- In white space there are no pieces. -/
theorem pieces_of_blank {text : List Char} (blank : trimFront text = []) : pieces text = [] := by
  have scan : ScansAs text [] := by
    apply scansAs_trimFront
    rw [blank]
    exact .done
  exact (scansAs_iff.mp scan).symm

/-- Respaced texts have the same pieces but for annotations. -/
theorem pieces_respaced (respaced : Respaced one two) :
    List.Forall₂ (fun piece other => piece.unremarked = other.unremarked) (pieces one) (pieces two) := by
  -- A piece takes a character at least, so the induction is on the length.
  induction length : one.length using Nat.strong_induction_on generalizing one two with
  | _ n ih =>
    subst length
    have front := respaced.trimFront
    cases begins : trimFront one with
    | nil =>
      rw [begins] at front
      rw [pieces_of_blank begins, pieces_of_blank (front.eq_nil_iff.mp rfl)]
      exact .nil
    | cons c rest =>
      have visible := visible_of_trimFront begins
      rw [begins] at front
      obtain ⟨others, beginsTwo, -⟩ := front.exists_cons visible
      rw [beginsTwo] at front
      have taken := takePiece_respaced front
      have shorter := (@firstPiece_takePiece c rest visible).length_lt
      have bound : (Text.trimFront one).length ≤ one.length := (List.dropWhile_suffix isSpace).length_le
      rw [begins] at bound
      rw [pieces_of_trimFront begins, pieces_of_trimFront beginsTwo]
      exact .cons taken.1 (ih _ (by omega) taken.2 rfl)

end Token

end LineGrammar
