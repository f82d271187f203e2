import LineGrammar.Proofs.Pattern.Positions
import LineGrammar.Proofs.Pattern.Words
import LineGrammar.TypeTable

/-!
# The languages of the fragments

Every fragment that patterns are put together from means the language that the documentation gives
it: white space, free text, arguments, separators and lists, words without regard to case, and the
numerals of the types that are there from the start. Each is one unit, so that it keeps its meaning
wherever it is placed.
-/

namespace LineGrammar

open LineGrammar.Text LineGrammar.Pattern
open scoped Computability

/-! ## Languages -/

/-- Any number of characters that satisfy a test. -/
theorem mem_star_single {test : Char → Bool} {text : List Char} :
    text ∈ (single test)∗ ↔ ∀ c ∈ text, test c = true := by
  simp only [Language.mem_kstar, mem_single]
  constructor
  · rintro ⟨pieces, rfl, each⟩ c inside
    obtain ⟨piece, listed, here⟩ := List.mem_flatten.mp inside
    obtain ⟨d, passed, rfl⟩ := each piece listed
    rwa [List.mem_singleton.mp here]
  · intro each
    refine ⟨text.map ([·]), by simp [← List.flatMap_def], ?_⟩
    simpa using each

/-- One piece and any number more are the texts that are not empty among any number of pieces. -/
theorem mem_mul_star {pieces : Language Char} (progress : [] ∉ pieces) {text : List Char} :
    text ∈ pieces * pieces∗ ↔ text ≠ [] ∧ text ∈ pieces∗ := by
  constructor
  · rintro ⟨piece, taken, rest, more, rfl⟩
    refine ⟨?_, Language.mem_kstar.mpr ?_⟩
    · intro empty
      exact progress ((List.append_eq_nil_iff.mp empty).1 ▸ taken)
    · obtain ⟨turns, rfl, each⟩ := Language.mem_kstar.mp more
      refine ⟨piece :: turns, rfl, fun turn inside => ?_⟩
      rcases List.mem_cons.mp inside with rfl | inside
      · exact taken
      · exact each turn inside
  · rintro ⟨nonempty, many⟩
    obtain ⟨turns, rfl, each⟩ := Language.mem_kstar.mp many
    cases turns with
    | nil => exact absurd rfl nonempty
    | cons piece turns =>
      exact ⟨piece, each piece (by simp), turns.flatten,
        Language.mem_kstar.mpr ⟨turns, rfl, fun turn inside => each turn (by simp [inside])⟩, rfl⟩

/-- A piece or nothing. -/
theorem mem_one_add {pieces : Language Char} {text : List Char} :
    text ∈ 1 + pieces ↔ text = [] ∨ text ∈ pieces := by
  rw [Language.mem_add, Language.mem_one]

/-- White space between parts is one blank or more. -/
theorem Texts.gap_eq : single isSpace * (single isSpace)∗ = Texts.gap := by
  ext text
  rw [mem_mul_star nil_not_mem_single, mem_star_single]
  rfl

/-- Digits are one decimal digit or more. -/
theorem Texts.digits_eq : single isDecimal * (single isDecimal)∗ = Texts.digits := by
  ext text
  rw [mem_mul_star nil_not_mem_single, mem_star_single]
  rfl

/-- White space is any number of blanks. -/
theorem Texts.blank_eq : (single isSpace)∗ = Texts.blank := by
  ext text
  exact mem_star_single

/-- A unit of an argument is not empty. -/
theorem Texts.nil_not_mem_unit (plain : Char → Bool) : [] ∉ Texts.unit plain := by
  rintro (⟨c, _, empty⟩ | ⟨c, _, empty⟩) <;> cases empty

/-- A separator is not empty. -/
theorem Texts.nil_not_mem_separator : [] ∉ Texts.separator := by
  rintro (⟨nonempty, _⟩ | ⟨rest, _, empty⟩)
  · exact nonempty rfl
  · cases empty

namespace Pattern

variable {on : Switches} {text : List Char} {pieces : Language Char}

/-! ## Single characters -/

/-- Where case counts, a character agrees with itself alone. -/
theorem single_sameCharacter (c : Char) :
    single (sameCharacter .none c.toNat) = Texts.exactly [c] := by
  ext piece
  simp [sameCharacter, Switches.none, Char.toNat_inj]

/-- Where case counts, a character means itself. -/
theorem IsUnit.exactly (c : Char) : IsUnit .none (escapedChar c) (Texts.exactly [c]) :=
  single_sameCharacter c ▸ IsUnit.character c

/-- A blank is written as a class. -/
theorem IsUnit.blank : IsUnit .none [backslash, 's'] (single isSpace) := by
  have same : inSet .none false [.category .space false] = isSpace := by
    funext c
    simp [inSet, Switches.none, SetItem.holds, Category.holds]
  exact same ▸ IsUnit.space

/-- A decimal digit is written as a class. -/
theorem IsUnit.decimal : IsUnit .none [backslash, 'd'] (single isDecimal) := by
  have same : inSet .none false [.category .digit false] = isDecimal := by
    funext c
    simp [inSet, Switches.none, SetItem.holds, Category.holds]
  exact same ▸ IsUnit.digit

/-- A dot stands for any character but a line feed. -/
theorem IsUnit.lineFree : IsUnit .none ['.'] (single (· != '\n')) := by
  have same : isAnything .none = (· != '\n') := by
    funext c
    simp [isAnything, Switches.none]
  exact same ▸ IsUnit.anything

/-- Where case counts, an escaped text means itself. -/
theorem IsRun.exactly (word : List Char) :
    IsRun .none (escapedChars word) (Texts.exactly word) := by
  induction word with
  | nil => exact IsRun.nil
  | cons c rest ih =>
    have same : Texts.exactly [c] * Texts.exactly rest = Texts.exactly (c :: rest) := by
      ext piece
      simp [Language.mem_mul, eq_comm]
    exact same ▸ (IsUnit.exactly c).run.append ih

/-! ## Arguments -/

/-- A backslash with the next character, or a plain character. -/
theorem IsUnit.argumentUnit {plain : Char → Bool} (unit : IsUnit .none text (single plain)) :
    IsUnit .none (['(', '?', ':', backslash, backslash, '.', '|'] ++ text ++ [')'])
      (Texts.unit plain) := by
  have same : Texts.exactly [backslash] * single (· != '\n') + single plain = Texts.unit plain := by
    ext piece
    simp only [Language.mem_add, Language.mem_mul, mem_single, Texts.mem_exactly, bne_iff_ne]
    constructor
    · rintro (⟨_, rfl, _, ⟨c, other, rfl⟩, rfl⟩ | plain)
      · exact .inl ⟨c, other, rfl⟩
      · exact .inr plain
    · rintro (⟨c, other, rfl⟩ | plain)
      · exact .inl ⟨_, rfl, _, ⟨c, other, rfl⟩, rfl⟩
      · exact .inr plain
  have escape := (IsUnit.exactly backslash).run.append IsUnit.lineFree.run
  exact same ▸ (escape.orElse unit.run.choice).group

/-- A set of everything but some characters and possibly white space. -/
theorem IsUnit.others (text : List Char) {symbols : List Symbol} {members : List SetItem}
    {plain : Char → Bool} (cut : Symbol.ofChars text = symbols) (each : List.Forall₂ Member symbols members)
    (some : symbols ≠ []) (same : inSet .none true members.eraseDups = plain) :
    IsUnit .none (['[', '^'] ++ text ++ [']']) (single plain) :=
  same ▸ IsUnit.outside cut each some

/-- The characters between two quotes. -/
theorem IsUnit.inside {quote : Char} (is : quote = doubleQuote ∨ quote = apostrophe) :
    IsUnit .none ['[', '^', backslash, backslash, quote, ']'] (single (Texts.isInside quote)) := by
  have member : Member (.plain quote) (.code quote.toNat) := by
    rcases is with rfl | rfl <;> exact .plain (by decide) (by decide)
  refine IsUnit.others [backslash, backslash, quote] ?_
    (.cons (.special (c := backslash) (by decide)) (.cons member .nil)) (by simp) ?_
  · rcases is with rfl | rfl <;> decide
  · funext c
    rw [Bool.eq_iff_iff]
    rcases is with rfl | rfl <;>
      simp [inSet, Switches.none, SetItem.holds, Texts.isInside, ← Char.toNat_inj,
        List.eraseDups_cons, backslash, doubleQuote, apostrophe]

/-- Units between two quotes. -/
theorem IsRun.enclosed {quote : Char} (is : quote = doubleQuote ∨ quote = apostrophe) :
    IsRun .none ([quote] ++ (['(', '?', ':', backslash, backslash, '.', '|'] ++
      ['[', '^', backslash, backslash, quote, ']'] ++ [')'] ++ ['*']) ++ [quote])
      (Texts.enclosed quote) := by
  have plain : escapedChar quote = [quote] := by rcases is with rfl | rfl <;> decide
  have mark := (plain ▸ IsUnit.exactly quote).run
  have units := (IsUnit.inside is).argumentUnit.star (by simp) (Texts.nil_not_mem_unit _)
  have same : Texts.exactly [quote] * (Texts.unit (Texts.isInside quote))∗ *
      Texts.exactly [quote] = Texts.enclosed quote := by
    ext piece
    simp only [Language.mem_mul, Texts.mem_exactly]
    constructor
    · rintro ⟨_, ⟨_, rfl, inside, many, rfl⟩, _, rfl, rfl⟩
      exact ⟨inside, many, rfl⟩
    · rintro ⟨inside, many, rfl⟩
      exact ⟨_, ⟨_, rfl, inside, many, rfl⟩, _, rfl, rfl⟩
  exact same ▸ (mark.append units).append mark

/-- An argument, whose bare characters are those of a set. -/
theorem IsUnit.argumentOf (text : List Char) {plain : Char → Bool} (unit : IsUnit .none text (single plain)) :
    IsUnit .none (['(', '?', ':'] ++
      (['(', '?', ':', backslash, backslash, '.', '|'] ++ text ++ [')'] ++ ['+'] ++
        '|' :: ([doubleQuote] ++ (['(', '?', ':', backslash, backslash, '.', '|'] ++
            ['[', '^', backslash, backslash, doubleQuote, ']'] ++ [')'] ++ ['*']) ++ [doubleQuote] ++
          '|' :: ([apostrophe] ++ (['(', '?', ':', backslash, backslash, '.', '|'] ++
            ['[', '^', backslash, backslash, apostrophe, ']'] ++ [')'] ++ ['*']) ++ [apostrophe])))
      ++ [')']) (Texts.argumentOf plain) := by
  have bare : Texts.unit plain * (Texts.unit plain)∗ = Texts.bare plain := by
    ext piece
    exact mem_mul_star (Texts.nil_not_mem_unit plain)
  have units := bare ▸ unit.argumentUnit.plus (by simp) (Texts.nil_not_mem_unit _)
  exact (units.orElse ((IsRun.enclosed (.inl rfl)).orElse
    (IsRun.enclosed (.inr rfl)).choice)).group

/-- The fragment for an argument stands for the arguments. -/
theorem IsUnit.argument : IsUnit .none Fragment.argument.toList Texts.argument := by
  refine IsUnit.argumentOf ['[', '^', backslash, backslash, doubleQuote, apostrophe,
    backslash, 's', ']'] (IsUnit.others [backslash, backslash, doubleQuote, apostrophe,
    backslash, 's'] (by decide) (.cons (.special (c := backslash) (by decide))
      (.cons (.plain (c := doubleQuote) (by decide) (by decide))
        (.cons (.plain (c := apostrophe) (by decide) (by decide)) (.cons .space .nil))))
    (by simp) ?_)
  funext c
  rw [Bool.eq_iff_iff]
  simp [inSet, Switches.none, SetItem.holds, Category.holds, Texts.isBare, ← Char.toNat_inj,
    List.eraseDups_cons, backslash, doubleQuote, apostrophe, and_assoc]

/-- The fragment for an element of a list stands for the arguments without bare commas. -/
theorem IsUnit.listArgument : IsUnit .none Fragment.listArgument.toList Texts.listArgument := by
  refine IsUnit.argumentOf ['[', '^', backslash, backslash, doubleQuote, apostrophe,
    backslash, 's', ',', ']'] (IsUnit.others [backslash, backslash, doubleQuote, apostrophe,
    backslash, 's', ','] (by decide) (.cons (.special (c := backslash) (by decide))
      (.cons (.plain (c := doubleQuote) (by decide) (by decide))
        (.cons (.plain (c := apostrophe) (by decide) (by decide))
          (.cons .space (.cons (.plain (c := ',') (by decide) (by decide)) .nil)))))
    (by simp) ?_)
  funext c
  rw [Bool.eq_iff_iff]
  simp [inSet, Switches.none, SetItem.holds, Category.holds, Texts.isBareInList, Texts.isBare,
    ← Char.toNat_inj, List.eraseDups_cons, backslash, doubleQuote, apostrophe, and_assoc]

/-! ## White space, free text and lists -/

/-- The fragment between two parts stands for white space. -/
theorem IsRun.gap : IsRun .none Fragment.separator.toList Texts.gap := by
  have run := IsUnit.blank.plus (by simp) nil_not_mem_single
  rw [Texts.gap_eq] at run
  exact run

/-- Free text is one item, and it takes the shortest way first. -/
theorem exists_freeText :
    ∃ node, Operand Fragment.freeText.toList 0 (fun _ => node) ∧ Recognizes .none node Texts.free ∧
      node.KeepsLead .none ∧ ∀ line, (node.ways line .none).Rising := by
  have same : (single (isAnything .none))∗ = Texts.free := by
    ext piece
    rw [mem_star_single]
    simp only [isAnything, Switches.none, Bool.false_or, bne_iff_ne, Texts.free]
    exact List.forall_mem_ne'
  have lazy := Spells.lazy Operand.anything (by simp) .star
  refine ⟨_, (Branches.one lazy).group Opens.plain, ?_, ?_, fun line place => ?_⟩
  · exact same ▸ (Recognizes.anything.star nil_not_mem_single).ofGreedy
  · exact .of_join_eq_none rfl
  · simpa [Bracket.enclosed, Node.ofBranches, Node.ofChoices, Node.ways, Ways.repeated, Ways.required, turnsLeft] using
      Ways.rising_lazily line _ _ none place

/-- The fragment for free text stands for the texts without line feeds. -/
theorem IsUnit.freeText : IsUnit .none Fragment.freeText.toList Texts.free := by
  obtain ⟨node, operand, recognizes, keeps, -⟩ := exists_freeText
  exact ⟨node, operand, recognizes, keeps⟩

/-- The fragment between two elements stands for the separators. -/
theorem IsUnit.separator : IsUnit .none Fragment.listSeparator.toList Texts.separator := by
  have same : Texts.exactly [','] * Texts.blank + Texts.gap = Texts.separator := by
    ext piece
    simp only [Language.mem_add, Language.mem_mul, Texts.mem_exactly]
    constructor
    · rintro (⟨_, rfl, rest, blank, rfl⟩ | gap)
      · exact .inr ⟨rest, blank, rfl⟩
      · exact .inl gap
    · rintro (gap | ⟨rest, blank, rfl⟩)
      · exact .inr gap
      · exact .inl ⟨_, rfl, rest, blank, rfl⟩
  have blanks := IsUnit.blank.star (by simp) nil_not_mem_single
  rw [Texts.blank_eq] at blanks
  have comma := (IsUnit.exactly ',').run.append blanks
  exact same ▸ (comma.orElse IsRun.gap.choice).group

/-- One element, or several with separators between them. -/
theorem IsUnit.oneOrMoreOf {element : String} (unit : IsUnit .none element.toList pieces) :
    IsUnit .none (Fragment.oneOrMoreOf element).toList (Texts.listOf pieces) := by
  have progress : [] ∉ Texts.separator * pieces := by
    rintro ⟨separator, taken, _, _, empty⟩
    exact Texts.nil_not_mem_separator ((List.append_eq_nil_iff.mp empty).1 ▸ taken)
  have others := (IsUnit.separator.run.append unit.run).choice.group.lazyStar (by simp) progress
  have whole := (unit.run.append others).choice.group
  simpa [Fragment.oneOrMoreOf, Texts.listOf] using whole

/-! ## Words -/

/-- Words without regard to case. -/
theorem IsUnit.oneOf (first : String) (others : List String) :
    IsUnit .none (Fragment.oneOf (first :: others)).toList (Texts.oneOf (first :: others)) := by
  have group := (Branches.words first others).group Opens.ignoreCase
  refine ⟨_, by simpa [Fragment.oneOf, Bracket.enclosed, -List.map_cons] using group, ?_, .scoped ?_ rfl⟩
  · exact fun text => Recognizes.words (List.cons_ne_nil first others) text
  · refine .ofBranches fun node listed => ?_
    obtain ⟨word, -, rfl⟩ := List.mem_map.mp listed
    exact .ofWord word.toList _

/-! ## Numerals -/

/-- A fragment bare, in double quotes or in single quotes. -/
theorem IsUnit.quotedVariants {fragment : String} (run : IsRun .none fragment.toList pieces) :
    IsUnit .none (Fragment.quotedVariants fragment).toList (Texts.quotable pieces) := by
  have same : pieces + (Texts.exactly [doubleQuote] * pieces * Texts.exactly [doubleQuote] +
      Texts.exactly [apostrophe] * pieces * Texts.exactly [apostrophe]) = Texts.quotable pieces := by
    ext piece
    simp only [Language.mem_add, Language.mem_mul, Texts.mem_exactly]
    constructor
    · rintro (bare | ⟨_, ⟨_, rfl, inside, taken, rfl⟩, _, rfl, rfl⟩ |
        ⟨_, ⟨_, rfl, inside, taken, rfl⟩, _, rfl, rfl⟩)
      · exact .inl bare
      · exact .inr ⟨doubleQuote, by decide, inside, taken, rfl⟩
      · exact .inr ⟨apostrophe, by decide, inside, taken, rfl⟩
    · rintro (bare | ⟨quote, is, inside, taken, rfl⟩)
      · exact .inl bare
      · simp only [Fragment.isQuote, Bool.or_eq_true, beq_iff_eq] at is
        rcases is with rfl | rfl
        · exact .inr (.inl ⟨_, ⟨_, rfl, inside, taken, rfl⟩, _, rfl, rfl⟩)
        · exact .inr (.inr ⟨_, ⟨_, rfl, inside, taken, rfl⟩, _, rfl, rfl⟩)
  have double : IsRun .none [doubleQuote] (Texts.exactly [doubleQuote]) := IsRun.exactly [doubleQuote]
  have single : IsRun .none [apostrophe] (Texts.exactly [apostrophe]) := IsRun.exactly [apostrophe]
  have whole := same ▸ (run.orElse (((double.append run).append double).orElse
    ((single.append run).append single).choice)).group
  simpa [Fragment.quotedVariants, doubleQuote, apostrophe] using whole

/-- A sign, decimal digits, and possibly a fraction. -/
theorem IsRun.numeral {fraction : List Char} {signs : List (List Char)} {fractional : Bool}
    {sign part : Language Char} (signed : IsRun .none text sign) (parted : IsRun .none fraction part)
    (someSigns : ∀ piece, piece ∈ sign ↔ piece ∈ signs)
    (somePart : ∀ piece, piece ∈ part ↔
      piece = [] ∨ fractional = true ∧ ∃ decimals ∈ Texts.digits, piece = '.' :: decimals) :
    IsRun .none (text ++ ([backslash, 'd'] ++ ['+']) ++ fraction)
      (Texts.numeral signs fractional) := by
  have digits := IsUnit.decimal.plus (by simp) nil_not_mem_single
  rw [Texts.digits_eq] at digits
  have same : sign * Texts.digits * part = Texts.numeral signs fractional := by
    ext piece
    simp only [Language.mem_mul, Texts.numeral]
    constructor
    · rintro ⟨_, ⟨front, signed, whole, digits, rfl⟩, behind, parted, rfl⟩
      exact ⟨front, (someSigns front).mp signed, whole, digits, behind, (somePart behind).mp parted,
        by simp⟩
    · rintro ⟨front, signed, whole, digits, behind, parted, rfl⟩
      exact ⟨_, ⟨front, (someSigns front).mpr signed, whole, digits, rfl⟩, behind,
        (somePart behind).mpr parted, by simp⟩
  exact same ▸ (signed.append digits).append parted

/-- A point with decimal digits, or nothing. -/
theorem IsRun.fraction :
    IsRun .none (['(', '?', ':'] ++ (escapedChar '.' ++ ([backslash, 'd'] ++ ['+'])) ++ [')'] ++ ['?'])
      (1 + Texts.exactly ['.'] * Texts.digits) := by
  have digits := IsUnit.decimal.plus (by simp) nil_not_mem_single
  rw [Texts.digits_eq] at digits
  exact ((IsUnit.exactly '.').run.append digits).choice.group.optional (by simp)

/-- The types that are there from the start mean their numerals. -/
theorem IsUnit.numeric {type : ValueType} (listed : type ∈ ValueType.numeric) :
    IsUnit .none type.pattern.toList (Texts.ofType type.name) := by
  have free : IsRun .none (['[', '+', '-', ']'] ++ ['?'])
      (1 + single (inSet .none false [.code '+'.toNat, .code '-'.toNat])) :=
    IsUnit.signs.optional (by simp)
  have plus : IsRun .none (escapedChar '+' ++ ['?']) (1 + Texts.exactly ['+']) :=
    (IsUnit.exactly '+').optional (by decide)
  have minus : IsRun .none ['-'] (Texts.exactly ['-']) :=
    single_sameCharacter '-' ▸ IsUnit.minus.run
  have anySign (piece : List Char) :
      piece ∈ 1 + single (inSet .none false [.code '+'.toNat, .code '-'.toNat]) ↔
        piece ∈ [[], ['+'], ['-']] := by
    rw [mem_one_add, mem_single]
    simp only [inSet, Switches.none, SetItem.holds, Bool.false_and, Bool.false_eq_true, if_false,
      List.any_cons, List.any_nil, Bool.or_false, Bool.bne_false, Bool.or_eq_true, beq_iff_eq,
      Char.toNat_inj, List.mem_cons, List.not_mem_nil, or_false]
    constructor
    · rintro (rfl | ⟨c, rfl | rfl, rfl⟩) <;> simp
    · rintro (rfl | rfl | rfl) <;> simp
  have plusSign (piece : List Char) :
      piece ∈ 1 + Texts.exactly ['+'] ↔ piece ∈ [[], ['+']] := by
    rw [mem_one_add]
    simp
  have minusSign (piece : List Char) : piece ∈ Texts.exactly ['-'] ↔ piece ∈ [['-']] := by simp
  have whole (piece : List Char) : piece ∈ (1 : Language Char) ↔
      piece = [] ∨ false = true ∧ ∃ decimals ∈ Texts.digits, piece = '.' :: decimals := by
    simp [Language.mem_one]
  have fraction (piece : List Char) : piece ∈ 1 + Texts.exactly ['.'] * Texts.digits ↔
      piece = [] ∨ true = true ∧ ∃ decimals ∈ Texts.digits, piece = '.' :: decimals := by
    rw [mem_one_add]
    simp [Language.mem_mul, eq_comm]
  simp only [ValueType.numeric, List.map_cons, List.map_nil, List.mem_cons, List.not_mem_nil,
    or_false] at listed
  rcases listed with rfl | rfl | rfl | rfl | rfl | rfl
  · exact IsUnit.quotedVariants (IsRun.numeral free IsRun.nil anySign whole)
  · exact IsUnit.quotedVariants (IsRun.numeral plus IsRun.nil plusSign whole)
  · exact IsUnit.quotedVariants (IsRun.numeral minus IsRun.nil minusSign whole)
  · exact IsUnit.quotedVariants (IsRun.numeral free IsRun.fraction anySign fraction)
  · exact IsUnit.quotedVariants (IsRun.numeral plus IsRun.fraction plusSign fraction)
  · exact IsUnit.quotedVariants (IsRun.numeral minus IsRun.fraction minusSign fraction)

end Pattern

end LineGrammar
