import LineGrammar.Proofs.Bounds
import LineGrammar.Proofs.Fragments

/-!
# Choices in upper and lower case

A type with choices regards case in two ways. Its pattern compares a text with a choice character by
character, where two characters agree when they have the same lower-case form or the same upper-case form.
Its check compares the lower-case forms of whole texts. What the check admits as a choice agrees with that
choice, and what agrees with a choice is admitted when every character has the lower-case form of the one
that it agrees with.

The two part on the letters that share no more than their upper-case form, such as s and the long s, on the
sigma at the end of a word, and on the dotted capital I, whose lower-case form has two characters.
-/

namespace LineGrammar

open LineGrammar.Pattern

namespace Text

/-! ## Lower-case forms in their places -/

/-- Two characters that have the same lower-case form in the same place. The form of a capital sigma depends
on its place, and that of a dotted capital I is no single character: each of them is such a pair with itself
alone. -/
def SameForm (c d : Char) : Prop :=
  lowerCode c.toNat = lowerCode d.toNat ∧ (c.toNat = 0x3A3 ↔ d.toNat = 0x3A3) ∧
    (c.toNat = 0x130 ↔ d.toNat = 0x130)
deriving Decidable

/-- A letter that makes a neighbouring sigma part of a word. -/
def IsLetter (code : Nat) : Prop :=
  casedLetters.contains code = true ∧ caseIgnorables.contains code = false

/-- What case makes a difference to is a letter, apart from one mark. -/
theorem isLetter_of_isCaseful {code : Nat} (cased : isCaseful code = true) (unmarked : code ≠ 0x345) :
    IsLetter code := by
  have placed :
      CodeRanges.areWithin (caseful.ranges.filter (· != (0x345, 0x345))) casedLetters.ranges = true ∧
        CodeRanges.areBetween (caseful.ranges.filter (· != (0x345, 0x345))) caseIgnorables.ranges = true := by
    decide
  obtain ⟨range, listed, low, high⟩ := CodeRanges.exists_of_within cased
  have unmarked : range ∈ caseful.ranges.filter (· != (0x345, 0x345)) := by
    refine List.mem_filter.mpr ⟨listed, bne_iff_ne.mpr fun mark => ?_⟩
    subst mark
    exact unmarked (Nat.le_antisymm high low)
  exact ⟨CodeRanges.within_of_areWithin placed.1 unmarked low high,
    CodeRanges.not_within_of_areBetween placed.2 unmarked low high⟩

/-- What has a lower-case form other than itself is a letter, and so is its form. -/
theorem isLetter_of_lowerCode {code : Nat} (moved : lowerCode code ≠ code) :
    IsLetter code ∧ IsLetter (lowerCode code) := by
  have apart : code ≠ 0x345 ∧ lowerCode code ≠ 0x345 := by
    refine @of_lowerCode_ne (fun code lower => code ≠ 0x345 ∧ lower ≠ 0x345)
      (fun run listed code lower maps => ?_) _ moved
    obtain ⟨⟨low, high, -⟩, rfl⟩ := CaseRun.lower?_eq_some.mp maps
    rcases (caseRuns_fit run listed).apart with circles | others
    · omega
    · have mark := others (0x345, 0x345) (by simp [caseExceptions])
      unfold CaseRun.lowerLast at mark
      constructor <;> omega
  have cased := isCaseful_of_lowerCode moved
  exact ⟨isLetter_of_isCaseful cased.1 apart.1, isLetter_of_isCaseful cased.2 apart.2⟩

/-- Two code points with the same lower-case form are the same, or both are letters. -/
theorem eq_or_isLetter {a b : Nat} (same : lowerCode a = lowerCode b) :
    a = b ∨ IsLetter a ∧ IsLetter b := by
  by_cases one : lowerCode a = a
  · by_cases other : lowerCode b = b
    · exact .inl (one.symm.trans (same.trans other))
    · obtain ⟨own, form⟩ := isLetter_of_lowerCode other
      rw [← same, one] at form
      exact .inr ⟨form, own⟩
  · obtain ⟨own, form⟩ := isLetter_of_lowerCode one
    by_cases other : lowerCode b = b
    · rw [same, other] at form
      exact .inr ⟨own, form⟩
    · exact .inr ⟨own, (isLetter_of_lowerCode other).1⟩

/-- Whether a word goes on does not depend on the case of its letters. -/
theorem wordGoesOn_eq {one other : List Char} (same : List.Forall₂ SameForm one other) :
    wordGoesOn one = wordGoesOn other := by
  induction same with
  | nil => rfl
  | cons here rest ih =>
    simp only [wordGoesOn, ih]
    rcases eq_or_isLetter here.1 with equal | ⟨⟨cased, notIgnored⟩, casedOther, notIgnoredOther⟩
    · rw [equal]
    · simp [cased, notIgnored, casedOther, notIgnoredOther]

/-- Characters with the same forms are lowered alike after such characters. -/
theorem loweredAfter_eq {before beforeOther one other : List Char}
    (sameBefore : List.Forall₂ SameForm before beforeOther) (same : List.Forall₂ SameForm one other) :
    loweredAfter before one = loweredAfter beforeOther other := by
  induction same generalizing before beforeOther with
  | nil => rfl
  | cons here rest ih =>
    have after := ih (.cons here sameBefore)
    obtain ⟨form, sigma, dotted⟩ := here
    simp only [loweredAfter, sigma, dotted, form, wordGoesOn_eq sameBefore, wordGoesOn_eq rest, after]

/-- Texts with the same forms in all places have the same lower-case form. -/
theorem lowered_eq {one other : String} (same : List.Forall₂ SameForm one.toList other.toList) :
    lowered one = lowered other :=
  congrArg String.ofList (loweredAfter_eq .nil same)

/-! ## Back from the lower-case form -/

/-- The form of a character in a lower-case text: that of its code point, or for a capital sigma possibly the
final sigma. -/
def IsForm (form c : Char) : Prop :=
  form.toNat = lowerCode c.toNat ∨ c.toNat = 0x3A3 ∧ form.toNat = 0x3C2

/-- Every character but the dotted capital I has one character as its form. -/
theorem exists_loweredAfter_cons {c : Char} (undotted : c.toNat ≠ 0x130) (before rest : List Char) :
    ∃ form, loweredAfter before (c :: rest) = form :: loweredAfter (c :: before) rest ∧ IsForm form c := by
  simp only [loweredAfter, undotted, if_false]
  split
  · rename_i sigma
    split
    · exact ⟨_, rfl, .inr ⟨sigma, by decide⟩⟩
    · exact ⟨_, rfl, .inl (by rw [sigma]; decide)⟩
  · exact ⟨_, rfl, .inl (toNat_ofNat_lowerCode c)⟩

/-- Texts with the same lower-case form, without dotted capital I, have a common form in every place. -/
theorem exists_form_of_loweredAfter {one other before beforeOther : List Char}
    (undotted : ∀ c ∈ one, c.toNat ≠ 0x130) (undottedOther : ∀ c ∈ other, c.toNat ≠ 0x130)
    (same : loweredAfter before one = loweredAfter beforeOther other) :
    List.Forall₂ (fun c d => ∃ form, IsForm form c ∧ IsForm form d) one other := by
  induction one generalizing other before beforeOther with
  | nil =>
    cases other with
    | nil => exact .nil
    | cons d others =>
      obtain ⟨form, shape, -⟩ :=
        exists_loweredAfter_cons (undottedOther d List.mem_cons_self) beforeOther others
      rw [shape] at same
      cases same
  | cons c rest ih =>
    obtain ⟨form, shape, isForm⟩ := exists_loweredAfter_cons (undotted c List.mem_cons_self) before rest
    cases other with
    | nil =>
      rw [shape] at same
      cases same
    | cons d others =>
      obtain ⟨formOther, shapeOther, isFormOther⟩ :=
        exists_loweredAfter_cons (undottedOther d List.mem_cons_self) beforeOther others
      rw [shape, shapeOther] at same
      obtain ⟨rfl, after⟩ := List.cons.inj same
      exact .cons ⟨form, isForm, isFormOther⟩
        (ih (fun e inside => undotted e (List.mem_cons_of_mem c inside))
          (fun e inside => undottedOther e (List.mem_cons_of_mem d inside)) after)

/-- Characters with a common form agree. -/
theorem sameIgnoringCase_of_isForm {form c d : Char} (one : IsForm form c) (other : IsForm form d) :
    sameIgnoringCase c.toNat d.toNat = true := by
  have sigma : lowerCode 0x3A3 = 0x3C3 := by decide
  have partner : 0x3C2 ∈ partnersOf 0x3C3 ∧ 0x3C3 ∈ partnersOf 0x3C2 := by decide
  simp only [sameIgnoringCase, Bool.or_eq_true, beq_iff_eq, List.contains_iff_mem]
  rcases one with one | ⟨isSigma, one⟩ <;> rcases other with other | ⟨isSigmaOther, other⟩
  · exact .inl (one.symm.trans other)
  · rw [← one, other, isSigmaOther, sigma]
    exact .inr partner.2
  · rw [← other, one, isSigma, sigma]
    exact .inr partner.1
  · rw [isSigma, isSigmaOther]
    exact .inl rfl

section Lowered

variable {one other : String}

/-- Texts with the same lower-case form, without dotted capital I, agree when case is ignored. -/
theorem agreeing_of_lowered (undotted : ∀ c ∈ one.toList, c.toNat ≠ 0x130)
    (undottedOther : ∀ c ∈ other.toList, c.toNat ≠ 0x130) (same : lowered one = lowered other) :
    other.toList ∈ Texts.agreeing one.toList :=
  (exists_form_of_loweredAfter undotted undottedOther (String.ofList_inj.mp same)).imp
    fun _ _ ⟨_, isForm, isFormOther⟩ => sameIgnoringCase_of_isForm isForm isFormOther

/-- Texts with the same lower-case form, without dotted capital I and capital sigma, have the same forms in
all places. -/
theorem sameForm_of_lowered (plain : ∀ c ∈ one.toList, c.toNat ≠ 0x130 ∧ c.toNat ≠ 0x3A3)
    (plainOther : ∀ c ∈ other.toList, c.toNat ≠ 0x130 ∧ c.toNat ≠ 0x3A3) (same : lowered one = lowered other) :
    List.Forall₂ SameForm one.toList other.toList := by
  have forms := exists_form_of_loweredAfter (fun c inside => (plain c inside).1)
    (fun c inside => (plainOther c inside).1) (String.ofList_inj.mp same)
  have ofOne := (List.forall₂_and_left _ _).mpr ⟨plain, forms⟩
  have ofBoth := (List.forall₂_and_left _ _).mpr ⟨plainOther, ofOne.flip⟩
  refine ofBoth.flip.imp fun c d ⟨plainOther, plain, form, isForm, isFormOther⟩ => ?_
  have lower : lowerCode c.toNat = lowerCode d.toNat :=
    (isForm.resolve_right fun sigma => plain.2 sigma.1).symm.trans
      (isFormOther.resolve_right fun sigma => plainOther.2 sigma.1)
  exact ⟨lower, by simp [plain.2, plainOther.2], by simp [plain.1, plainOther.1]⟩

end Lowered

end Text

namespace TypeDefinition

open LineGrammar.Text

variable {definition : TypeDefinition} {words : List String} {text : String}

/-! ## The check of a choice -/

/-- The choice that a text names is one of the choices, and has its lower-case form. -/
theorem of_chosen? {choice : String} (chosen : chosen? words text = some choice) :
    choice ∈ words ∧ lowered choice = lowered text :=
  ⟨List.mem_reverse.mp (List.mem_of_find?_eq_some chosen), by simpa using List.find?_some chosen⟩

/-- A text with the lower-case form of a choice names a choice. -/
theorem exists_chosen? {word : String} (listed : word ∈ words) (same : lowered word = lowered text) :
    ∃ choice, chosen? words text = some choice := by
  refine Option.isSome_iff_exists.mp (List.find?_isSome.mpr ⟨word, List.mem_reverse.mpr listed, ?_⟩)
  exact beq_iff_eq.mpr same

/-- The value of a text of a definition by choices is the choice that the text names. -/
theorem convert_choice_eq_ok (isText : definition.conversion = .text)
    (isChoices : definition.choices = some words) (nonempty : words ≠ []) {value : Value} :
    definition.convert text = .ok value ↔ ∃ choice, chosen? words text = some choice ∧ value = .text choice := by
  obtain ⟨first, others, rfl⟩ := List.exists_cons_of_ne_nil nonempty
  have unbounded {choice : String} {bound : Numeral.Binary64} :
      isBelow (.text choice) bound = false ∧ isAbove (.text choice) bound = false := ⟨rfl, rfl⟩
  rw [convert_eq_ok]
  simp only [canonical, effectiveChoices, isChoices, TypeDefinition.converted, isText]
  constructor
  · rintro ⟨source, named, same, -⟩
    split at named
    · rename_i choice chosen
      cases named
      cases same
      exact ⟨_, chosen, rfl⟩
    · cases named
  · rintro ⟨choice, chosen, rfl⟩
    exact ⟨choice, by rw [chosen], rfl, fun _ _ => unbounded.1, fun _ _ => unbounded.2⟩

/-- The pattern of choices and their check. The pattern matches the texts that agree with a choice in every
character, unless the choice is lost among the others. A text is admitted when it has the forms of a choice
in all places, and without capital sigma and dotted capital I only then. The value is always one of the
choices, and without dotted capital I one that agrees with the text. -/
theorem choice_pattern_and_check (bare : definition.pattern = none) (isText : definition.conversion = .text)
    (isChoices : definition.choices = some words) (nonempty : words ≠ []) :
    (definition.fragment =
      if definition.quoted then Fragment.quotedVariants (Fragment.oneOf words) else Fragment.oneOf words) ∧
    ∃ pattern, Pattern.read (Fragment.oneOf words) .none = .ok pattern ∧ ∀ text,
      (pattern.matchesFully text.toList = true ↔ text.toList ∈ Texts.oneOf words) ∧
      (∀ word ∈ words, List.Forall₂ SameForm word.toList text.toList →
        ∃ choice ∈ words, definition.convert text = .ok (.text choice)) ∧
      ∀ value, definition.convert text = .ok value → ∃ choice ∈ words, value = .text choice ∧
        ((∀ c ∈ choice.toList ++ text.toList, c.toNat ≠ 0x130) →
          text.toList ∈ Texts.agreeing choice.toList) ∧
        ((∀ c ∈ choice.toList ++ text.toList, c.toNat ≠ 0x130 ∧ c.toNat ≠ 0x3A3) →
          List.Forall₂ SameForm choice.toList text.toList) := by
  obtain ⟨first, others, rfl⟩ := List.exists_cons_of_ne_nil nonempty
  obtain ⟨pattern, isPattern, full⟩ := (IsUnit.oneOf first others).run.read
  refine ⟨by rw [fragment, bare, isChoices]; rfl, pattern, isPattern, fun text => ⟨full text.toList, ?_, ?_⟩⟩
  · intro word listed same
    obtain ⟨choice, chosen⟩ := exists_chosen? listed (lowered_eq same)
    exact ⟨choice, (of_chosen? chosen).1,
      (convert_choice_eq_ok isText isChoices nonempty).mpr ⟨choice, chosen, rfl⟩⟩
  · intro value converted
    obtain ⟨choice, chosen, rfl⟩ := (convert_choice_eq_ok isText isChoices nonempty).mp converted
    obtain ⟨listed, same⟩ := of_chosen? chosen
    refine ⟨choice, listed, rfl, fun undotted => ?_, fun plain => ?_⟩
    · obtain ⟨own, other⟩ := List.forall_mem_append.mp undotted
      exact agreeing_of_lowered own other same
    · obtain ⟨own, other⟩ := List.forall_mem_append.mp plain
      exact sameForm_of_lowered own other same

/-- A definition by choices alone. -/
def ofChoices (words : List String) : TypeDefinition :=
  ⟨"T", none, .text, "", none, none, some words, false⟩

/-- A choice in other letter case. -/
theorem choice_pattern_and_check_town :
    ∃ pattern, Pattern.read (Fragment.oneOf ["New York", "Rome"]) .none = .ok pattern ∧
      pattern.matchesFully "new YORK".toList = true ∧
      ∃ choice ∈ ["New York", "Rome"],
        (ofChoices ["New York", "Rome"]).convert "new YORK" = .ok (.text choice) := by
  have same : List.Forall₂ SameForm "New York".toList "new YORK".toList := by decide +kernel
  obtain ⟨-, pattern, isPattern, each⟩ :=
    @choice_pattern_and_check (ofChoices ["New York", "Rome"]) _ rfl rfl rfl (by simp)
  obtain ⟨full, admits, -⟩ := each "new YORK"
  have agree : "new YORK".toList ∈ Texts.agreeing "New York".toList :=
    Texts.mem_agreeing.mpr (by decide +kernel)
  have low : Texts.isHighCapital 'k' = false ∧ Texts.isHighCapital 'e' = false := by decide +kernel
  have oneOf : Texts.oneOf ["New York", "Rome"] = Texts.agreeingWithAny ["New York", "Rome"] :=
    Texts.oneOf_eq (by simpa using low)
  exact ⟨pattern, isPattern, full.mpr (oneOf ▸ ⟨"New York", by simp, agree⟩), admits "New York" (by simp) same⟩

/-- The long s agrees with the choice s, but is not admitted; and the dotted capital I agrees with one choice
and becomes another one. -/
theorem matched_choice_refused_or_changed :
    (∃ pattern, Pattern.read (Fragment.oneOf ["s"]) .none = .ok pattern ∧
      pattern.matchesFully "ſ".toList = true ∧ ¬∃ value, (ofChoices ["s"]).convert "ſ" = .ok value) ∧
    ∃ pattern, Pattern.read (Fragment.oneOf ["i", "i̇"]) .none = .ok pattern ∧
      pattern.matchesFully "İ".toList = true ∧
      (ofChoices ["i", "i̇"]).convert "İ" = .ok (.text "i̇") ∧
      "İ".toList ∉ Texts.agreeing "i̇".toList := by
  have matched {words : List String} {text : String} (known : ((Pattern.read (Fragment.oneOf words)
      .none).toOption.any (·.matchesFully text.toList)) = true) :
      ∃ pattern, Pattern.read (Fragment.oneOf words) .none = .ok pattern ∧
        pattern.matchesFully text.toList = true := by
    obtain ⟨pattern, isPattern, known⟩ := (Option.any_eq_true _ _).mp known
    exact ⟨pattern, Except.eq_ok_of_toOption isPattern, known⟩
  obtain ⟨single, isSingle, longMatched⟩ := @matched ["s"] "ſ" (by decide +kernel)
  obtain ⟨double, isDouble, dottedMatched⟩ := @matched ["i", "i̇"] "İ" (by decide +kernel)
  refine ⟨⟨single, isSingle, longMatched, ?_⟩, double, isDouble, dottedMatched, ?_, ?_⟩
  · have unchosen : chosen? ["s"] "ſ" = none := by decide +kernel
    rintro ⟨value, converted⟩
    obtain ⟨choice, chosen, -⟩ := (convert_choice_eq_ok rfl rfl (by simp)).mp converted
    rw [unchosen] at chosen
    cases chosen
  · exact (convert_choice_eq_ok rfl rfl (by simp)).mpr ⟨"i̇", by decide +kernel, rfl⟩
  · exact fun agree => absurd agree.length_eq (by decide +kernel)

end TypeDefinition

end LineGrammar
