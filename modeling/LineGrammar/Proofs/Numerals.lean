import LineGrammar.Numeral.Decimal
import LineGrammar.Proofs.Quoting
import Mathlib.Data.List.TakeWhile

/-!
# Numerals as values

What the pattern of a numeric type accepts is a numeral, bare or between two equal quotes: a sign,
decimal digits of any script, and for a decimal possibly a point with digits behind it. In its plain
form every digit is one of ten, and nothing else is changed. So a decimal always has a value, and an
integer has one unless it has more digits than are read. A decimal that is not a number comes of the
word for it and of no other text.
-/

namespace LineGrammar

open LineGrammar.Text

namespace Numeral

/-! ## Plain forms -/

/-- A decimal digit in its plain form. -/
theorem plainForm_digit {c : Char} (decimal : isDecimal c = true) :
    ∃ plain : Char, plain.isDigit = true ∧ ∀ rest, plainForm (c :: rest) = plain :: plainForm rest := by
  obtain ⟨value, isValue⟩ := Option.isSome_iff_exists.mp decimal
  have space := not_isSpace_of_isDecimal decimal
  by_cases low : c.toNat < 128
  · have digit : c.isDigit = true := by
      simp only [digitValue?, low, if_true] at isValue
      split at isValue
      · assumption
      · cases isValue
    have kept : c.toNat < 127 := by
      simp only [Char.isDigit, Bool.and_eq_true, decide_eq_true_eq] at digit
      have high : c.toNat ≤ 57 := digit.2
      omega
    exact ⟨c, digit, fun rest => by simp [plainForm, kept]⟩
  · have bound : value < 10 := by
      simp only [digitValue?, low, if_false, Option.map_eq_some_iff] at isValue
      obtain ⟨first, found, rfl⟩ := isValue
      have inside := List.find?_some found
      simp only [Bool.and_eq_true, decide_eq_true_eq] at inside
      omega
    have digit : ∀ value < 10, (Char.ofNat (48 + value)).isDigit = true := by decide
    have high : ¬c.toNat < 127 := by omega
    exact ⟨Char.ofNat (48 + value), digit value bound, fun rest => by
      simp [plainForm, high, space, isValue]⟩

/-- Decimal digits in their plain form. -/
theorem plainForm_digits {digits : List Char} (decimal : ∀ c ∈ digits, isDecimal c = true) :
    ∃ plain : List Char, plain.length = digits.length ∧ (∀ c ∈ plain, c.isDigit = true) ∧
      ∀ rest, plainForm (digits ++ rest) = plain ++ plainForm rest := by
  induction digits with
  | nil => exact ⟨[], rfl, by simp, fun _ => rfl⟩
  | cons c digits ih =>
    obtain ⟨first, isDigit, formed⟩ := plainForm_digit (decimal c List.mem_cons_self)
    obtain ⟨plain, length, each, others⟩ := ih fun d listed => decimal d (List.mem_cons_of_mem _ listed)
    refine ⟨first :: plain, by simp [length], by simpa [isDigit] using each, fun rest => ?_⟩
    rw [List.cons_append, formed, others, List.cons_append]

/-- A sign that a numeral may begin with. -/
def IsSign (sign : List Char) : Prop := sign = [] ∨ sign = ['+'] ∨ sign = ['-']

/-- A sign keeps its form. -/
theorem IsSign.plainForm_append {sign : List Char} (is : IsSign sign) (rest : List Char) :
    plainForm (sign ++ rest) = sign ++ plainForm rest := by
  rcases is with rfl | rfl | rfl <;> simp [plainForm]

/-- A sign before a digit is split off. -/
theorem IsSign.exists_takeSign {sign : List Char} (is : IsSign sign) {c : Char} (digit : c.isDigit = true)
    (rest : List Char) : ∃ negative, takeSign (sign ++ c :: rest) = (negative, c :: rest) := by
  have plus : c ≠ '+' := by
    rintro rfl
    exact absurd digit (by decide)
  have minus : c ≠ '-' := by
    rintro rfl
    exact absurd digit (by decide)
  rcases is with rfl | rfl | rfl
  · exact ⟨false, by simp [takeSign, plus, minus]⟩
  · exact ⟨false, rfl⟩
  · exact ⟨true, rfl⟩

/-- What a plain numeral is made of: digits, signs and the point. -/
def IsPart (c : Char) : Prop := c.isDigit = true ∨ c ∈ ['+', '-', '.']

/-- A character of a numeral is none of the others. -/
theorem IsPart.ne_of_not {c d : Char} (is : IsPart c) (digit : d.isDigit = false)
    (apart : d ∉ ['+', '-', '.']) : c ≠ d := by
  rintro rfl
  rcases is with is | is
  · rw [digit] at is
    cases is
  · exact apart is

/-- The parts of a numeral are no blanks. -/
theorem IsPart.isBlank {c : Char} (is : IsPart c) : isBlank c = false := by
  rcases is with digit | listed
  · have low : 48 ≤ c.toNat := by
      simp only [Char.isDigit, Bool.and_eq_true, decide_eq_true_eq] at digit
      exact digit.1
    have apart : c ≠ ' ' := by
      rintro rfl
      exact absurd digit (by decide)
    simp [Text.isBlank, apart]
    omega
  · revert c
    decide

/-- A text without blanks keeps its front. -/
theorem dropWhile_isBlank {text : List Char} (visible : ∀ c ∈ text, isBlank c = false) :
    text.dropWhile isBlank = text := by
  cases text with
  | nil => rfl
  | cons c rest => exact List.dropWhile_cons_of_neg (by simp [visible c List.mem_cons_self])

/-- All digits at the front of a numeral are taken when nothing else follows. -/
theorem takeDigits_digits {digits : List Char} (each : ∀ c ∈ digits, c.isDigit = true) :
    takeDigits digits false = some (digits, []) := by
  induction digits with
  | nil => rfl
  | cons c rest ih =>
    have digit := each c List.mem_cons_self
    have apart : c ≠ '_' := by
      rintro rfl
      exact absurd digit (by decide)
    simp [takeDigits, apart, digit, ih fun d listed => each d (List.mem_cons_of_mem _ listed)]

/-- A text without underscores keeps all its characters. -/
theorem withoutUnderscores_eq_self {text : List Char} (plain : '_' ∉ text) {previous : Char}
    (apart : previous ≠ '_') : withoutUnderscores previous text = some text := by
  induction text generalizing previous with
  | nil => simp [withoutUnderscores, apart]
  | cons c rest ih =>
    rw [List.mem_cons, not_or] at plain
    simp [withoutUnderscores, apart, Ne.symm plain.1, ih plain.2 (Ne.symm plain.1)]

/-! ## Reading numerals -/

/-- A sign, plain digits, and for a fractional numeral possibly a point with more digits. -/
structure IsPlainNumeral (fractional : Bool) (sign digits part : List Char) : Prop where
  sign : IsSign sign
  nonempty : digits ≠ []
  digits : ∀ c ∈ digits, c.isDigit = true
  part : part = [] ∨ fractional = true ∧
    ∃ decimals : List Char, (∀ c ∈ decimals, c.isDigit = true) ∧ part = '.' :: decimals

namespace IsPlainNumeral

variable {fractional : Bool} {sign digits part : List Char}

/-- The plain form of a numeral has one digit for each digit of the numeral. -/
theorem of_parts (isSign : IsSign sign) (isDigits : digits ∈ Texts.digits)
    (fraction : part = [] ∨ fractional = true ∧ ∃ decimals ∈ Texts.digits, part = '.' :: decimals) :
    ∃ plain, IsPlainNumeral fractional sign plain (plainForm part) ∧ plain.length = digits.length ∧
      plainForm (sign ++ (digits ++ part)) = sign ++ (plain ++ plainForm part) := by
  obtain ⟨plain, length, isDigit, formed⟩ := plainForm_digits isDigits.2
  have nonempty : plain ≠ [] := fun none => isDigits.1 (by
    rw [← List.length_eq_zero_iff, ← length, none, List.length_nil])
  refine ⟨plain, ⟨isSign, nonempty, isDigit, ?_⟩, length, by rw [isSign.plainForm_append, formed]⟩
  rcases fraction with rfl | ⟨fractional, decimals, isDecimals, rfl⟩
  · exact .inl rfl
  · -- The point stays, and the digits behind it become plain ones.
    obtain ⟨plain, -, isDigit, formed⟩ := plainForm_digits isDecimals.2
    have formed := formed []
    rw [List.append_nil, plainForm, List.append_nil] at formed
    exact .inr ⟨fractional, plain, isDigit, by simp [plainForm, formed]⟩

/-- A plain numeral is made of digits, signs and points. -/
theorem isPart (plain : IsPlainNumeral fractional sign digits part) :
    ∀ c ∈ sign ++ (digits ++ part), IsPart c := by
  intro c inside
  simp only [List.mem_append] at inside
  rcases inside with inside | inside | inside
  · refine .inr ?_
    rcases plain.sign with rfl | rfl | rfl
    · cases inside
    · simp [List.mem_singleton.mp inside]
    · simp [List.mem_singleton.mp inside]
  · exact .inl (plain.digits c inside)
  · rcases plain.part with rfl | ⟨-, decimals, isDigit, rfl⟩
    · cases inside
    · rcases List.mem_cons.mp inside with rfl | inside
      · exact .inr (by simp)
      · exact .inl (isDigit c inside)

/-- There are no blanks around a plain numeral. -/
theorem dropWhile_isBlank (plain : IsPlainNumeral fractional sign digits part) :
    (sign ++ (digits ++ part)).dropWhile isBlank = sign ++ (digits ++ part) ∧
      (sign ++ (digits ++ part)).reverse.dropWhile isBlank = (sign ++ (digits ++ part)).reverse :=
  ⟨Numeral.dropWhile_isBlank fun c inside => (plain.isPart c inside).isBlank,
    Numeral.dropWhile_isBlank fun c inside => (plain.isPart c (List.mem_reverse.mp inside)).isBlank⟩

/-- The sign of a plain numeral is split off. -/
theorem exists_takeSign (plain : IsPlainNumeral fractional sign digits part) :
    ∃ negative, takeSign (sign ++ (digits ++ part)) = (negative, digits ++ part) := by
  obtain ⟨c, rest, rfl⟩ := List.exists_cons_of_ne_nil plain.nonempty
  exact plain.sign.exists_takeSign (plain.digits c List.mem_cons_self) (rest ++ part)

/-- Digits with a fraction have a value. -/
theorem unsignedDecimal?_isSome (plain : IsPlainNumeral fractional sign digits part) (negative : Bool) :
    (unsignedDecimal? negative (digits ++ part)).isSome = true := by
  have run {digits : List Char} (isDigit : ∀ c ∈ digits, c.isDigit = true) :
      digits.takeWhile Char.isDigit = digits ∧ digits.dropWhile Char.isDigit = [] :=
    ⟨List.takeWhile_eq_self_iff.mpr isDigit, List.dropWhile_eq_nil_iff.mpr isDigit⟩
  rcases plain.part with rfl | ⟨-, decimals, isDigit, rfl⟩
  · simp [unsignedDecimal?, run plain.digits, plain.nonempty]
  · simp [unsignedDecimal?, List.takeWhile_append_of_pos plain.digits,
      List.dropWhile_append_of_pos plain.digits, run isDigit, plain.nonempty]

end IsPlainNumeral

/-- An integer is read unless it has too many digits. -/
theorem readInteger_numeral {sign digits : List Char} (isSign : IsSign sign)
    (isDigits : digits ∈ Texts.digits) : ∃ n, readInteger (sign ++ digits) =
      if digitLimit < digits.length then .error (.tooManyDigits digits.length) else .ok n := by
  obtain ⟨whole, plain, length, formed⟩ :=
    @IsPlainNumeral.of_parts false sign digits [] isSign isDigits (.inl rfl)
  rw [List.append_nil] at formed
  obtain ⟨negative, split⟩ := plain.exists_takeSign
  obtain ⟨c, rest, rfl⟩ := List.exists_cons_of_ne_nil plain.nonempty
  have apart : c ≠ '_' := by
    rintro rfl
    exact absurd (plain.digits '_' List.mem_cons_self) (by decide)
  refine ⟨if negative then -(valueOf (c :: rest) : Int) else (valueOf (c :: rest) : Int), ?_⟩
  rw [readInteger, formed, plain.dropWhile_isBlank.1, split, ← length]
  simp [apart, plainForm, takeDigits_digits plain.digits]

/-- A numeral is always read as a decimal. -/
theorem readDecimal_numeral {signs : List (List Char)} (each : ∀ sign ∈ signs, IsSign sign)
    {fractional : Bool} {text : List Char} (is : text ∈ Texts.numeral signs fractional) :
    (readDecimal text).isSome = true := by
  obtain ⟨sign, listed, digits, isDigits, part, fraction, rfl⟩ := is
  obtain ⟨whole, plain, -, formed⟩ := IsPlainNumeral.of_parts (each sign listed) isDigits fraction
  obtain ⟨negative, split⟩ := plain.exists_takeSign
  have unscored : '_' ∉ sign ++ (whole ++ plainForm part) := fun inside =>
    (plain.isPart '_' inside).ne_of_not (by decide) (by decide) rfl
  simp only [readDecimal, formed, plain.dropWhile_isBlank, List.reverse_reverse,
    withoutUnderscores_eq_self unscored (show ' ' ≠ '_' by decide), Option.bind_some, decimal?, split]
  split
  · rfl
  · split
    · rfl
    · exact plain.unsignedDecimal?_isSome negative

/-! ## What is not a number -/

/-- Every text begins with a sign, possibly the empty one. -/
theorem exists_sign (text : List Char) : ∃ sign, IsSign sign ∧ text = sign ++ (takeSign text).2 := by
  unfold takeSign
  split
  · exact ⟨['-'], .inr (.inr rfl), rfl⟩
  · exact ⟨['+'], .inr (.inl rfl), rfl⟩
  · exact ⟨[], .inl rfl, rfl⟩

/-- No quotient, and no decimal in digits, is rounded to what is not a number. -/
theorem ofQuotient_ne (negative : Bool) (n d : Nat) : Binary64.ofQuotient negative n d ≠ .notANumber := by
  unfold Binary64.ofQuotient
  dsimp only
  repeat' split
  all_goals simp

/-- A decimal is a number. -/
theorem ofDecimal_ne (negative : Bool) (digits : Nat) (exponent : Int) :
    Binary64.ofDecimal negative digits exponent ≠ .notANumber := by
  unfold Binary64.ofDecimal
  dsimp only
  repeat' split
  all_goals first | exact ofQuotient_ne _ _ _ | simp

/-- What is read without a sign is a number. -/
theorem unsignedDecimal?_ne (negative : Bool) (text : List Char) :
    unsignedDecimal? negative text ≠ some .notANumber := by
  intro is
  simp only [unsignedDecimal?, Option.ite_none_left_eq_some, Option.map_eq_some_iff] at is
  obtain ⟨-, exponent, -, made⟩ := is
  exact ofDecimal_ne _ _ _ made

/-- Underscores stand between digits only. -/
theorem eq_of_withoutUnderscores {text out : List Char} {previous : Char}
    (dropped : withoutUnderscores previous text = some out) (start : previous.isDigit = false)
    (plain : ∀ c ∈ out, c.isDigit = false) : out = text := by
  induction text generalizing previous out with
  | nil =>
    simp only [withoutUnderscores] at dropped
    split at dropped <;> cases dropped
    rfl
  | cons c rest ih =>
    simp only [withoutUnderscores, start, Bool.false_eq_true, if_false] at dropped
    split at dropped
    · cases dropped
    · split at dropped
      · cases dropped
      · obtain ⟨others, after, rfl⟩ := Option.map_eq_some_iff.mp dropped
        rw [ih after (plain c List.mem_cons_self) fun d inside => plain d (List.mem_cons_of_mem c inside)]

/-- A digit is its own plain lower case. -/
theorem toLower_of_isDigit {c : Char} (digit : c.isDigit = true) : c.toLower = c := by
  simp only [Char.isDigit, Bool.and_eq_true, decide_eq_true_eq] at digit
  have low : c.val.toNat ≤ 57 := digit.2
  refine dif_neg fun capital => ?_
  have high : 65 ≤ c.val.toNat := capital.1
  omega

/-- A text that spells what is not a number: a sign and the word, with blanks around them. -/
def SpellsNan (text : List Char) : Prop :=
  ∃ front sign word back, plainForm text = front ++ (sign ++ word) ++ back ∧
    (∀ c ∈ front ++ back, isBlank c = true) ∧ IsSign sign ∧ plainLower word = ['n', 'a', 'n']

/-- What is not a number comes of its own word alone. -/
theorem spellsNan_of_readDecimal {text : List Char} (is : readDecimal text = some .notANumber) :
    SpellsNan text := by
  simp only [readDecimal] at is
  obtain ⟨body, dropped, is⟩ := Option.bind_eq_some_iff.mp is
  simp only [decimal?] at is
  split at is
  · cases is
  · split at is
    · rename_i isNan
      obtain ⟨sign, isSign, split⟩ := exists_sign body
      have spelled : plainLower (takeSign body).2 = ['n', 'a', 'n'] := String.ofList_inj.mp isNan
      -- Only digits have underscores between them, so none were dropped.
      have plain : ∀ c ∈ body, c.isDigit = false := by
        rw [split]
        intro c inside
        rcases List.mem_append.mp inside with inside | inside
        · rcases isSign with rfl | rfl | rfl
          · cases inside
          · rw [List.mem_singleton.mp inside]
            rfl
          · rw [List.mem_singleton.mp inside]
            rfl
        · have lower : c.toLower ∈ ['n', 'a', 'n'] := spelled ▸ List.mem_map_of_mem inside
          cases digit : c.isDigit with
          | false => rfl
          | true =>
            have letters : ∀ d ∈ ['n', 'a', 'n'], d.isDigit = false := by decide
            rw [toLower_of_isDigit digit] at lower
            rw [letters c lower] at digit
            cases digit
      have same := eq_of_withoutUnderscores dropped rfl plain
      have front := @List.takeWhile_append_dropWhile _ isBlank (plainForm text)
      have back := @List.takeWhile_append_dropWhile _ isBlank ((plainForm text).dropWhile isBlank).reverse
      refine ⟨(plainForm text).takeWhile isBlank, sign, (takeSign body).2,
        (((plainForm text).dropWhile isBlank).reverse.takeWhile isBlank).reverse, ?_, ?_, isSign, spelled⟩
      · rw [← split, same, List.append_assoc, ← List.reverse_append, back, List.reverse_reverse, front]
      · intro c inside
        rcases List.mem_append.mp inside with inside | inside
        · exact List.mem_takeWhile_imp inside
        · exact List.mem_takeWhile_imp (List.mem_reverse.mp inside)
    · exact absurd is (unsignedDecimal?_ne _ _)

end Numeral

/-! ## Values of numerals -/

namespace Texts

open LineGrammar.Numeral

/-- Decimal digits stand for themselves. -/
theorem isBareInList_of_isDecimal {c : Char} (decimal : isDecimal c = true) : isBareInList c = true := by
  have apart {d : Char} (other : isDecimal d = false) : c ≠ d := by
    rintro rfl
    rw [other] at decimal
    cases decimal
  have space := not_isSpace_of_isDecimal decimal
  simp [isBareInList, isBare, space, apart (show isDecimal backslash = false by decide),
    apart (show isDecimal doubleQuote = false by decide),
    apart (show isDecimal apostrophe = false by decide),
    apart (show isDecimal ',' = false by decide)]

variable {signs : List (List Char)} {fractional : Bool}

/-- A numeral stands for itself. -/
theorem isBareInList_of_numeral (each : ∀ sign ∈ signs, IsSign sign) {text : List Char}
    (is : text ∈ numeral signs fractional) : ∀ c ∈ text, isBareInList c = true := by
  obtain ⟨sign, listed, digits, isDigits, part, fraction, rfl⟩ := is
  intro c inside
  simp only [List.mem_append] at inside
  rcases inside with inside | inside | inside
  · rcases each sign listed with rfl | rfl | rfl
    · cases inside
    · simp [List.mem_singleton.mp inside, show isBareInList '+' = true by decide]
    · simp [List.mem_singleton.mp inside, show isBareInList '-' = true by decide]
  · exact isBareInList_of_isDecimal (isDigits.2 c inside)
  · rcases fraction with rfl | ⟨-, decimals, isDecimals, rfl⟩
    · cases inside
    · rcases List.mem_cons.mp inside with rfl | inside
      · decide
      · exact isBareInList_of_isDecimal (isDecimals.2 c inside)

/-- Unwrapping a numeral, bare or in quotes, gives the numeral. -/
theorem exists_unwrap_numeral (each : ∀ sign ∈ signs, IsSign sign) {text : String}
    (is : text.toList ∈ quotable (numeral signs fractional)) :
    ∃ inside ∈ numeral signs fractional, Fragment.unwrap text = String.ofList inside ∧
      inside <:+: text.toList := by
  rcases is with bare | ⟨quote, isQuote, inside, taken, written⟩
  · exact ⟨text.toList, bare, by rw [Fragment.unwrap_bare (isBareInList_of_numeral each bare),
      String.ofList_toList], List.infix_rfl⟩
  · have plain : backslash ∉ inside := fun listed =>
      absurd (isBareInList_of_numeral each taken backslash listed) (by decide)
    refine ⟨inside, taken, ?_, written ▸ ⟨[quote], [quote], by simp⟩⟩
    rw [Fragment.unwrap, written, Fragment.withoutQuotes_enclosed isQuote,
      Fragment.withoutEscapes_plain plain]

end Texts

open LineGrammar.Numeral

/-- A fault is that some text has a numeral of too many digits, and these digits stand in a line. -/
def Fault.IsOverlong (line : List Char) (fault : Fault) : Prop :=
  ∃ text digits, fault = .integer text (.tooManyDigits digits.length) ∧ digits <:+: line ∧
    (∀ c ∈ digits, isDecimal c = true) ∧ digitLimit < digits.length

/-- A numeral that is too long in a part of a line is too long in the line. -/
theorem Fault.IsOverlong.of_part {line part : List Char} {fault : Fault} (overlong : fault.IsOverlong part)
    (inside : part <:+: line) : fault.IsOverlong line := by
  obtain ⟨text, digits, same, held, rest⟩ := overlong
  exact ⟨text, digits, same, held.trans inside, rest⟩

/-- The texts of a numeric type are numerals with some signs, and the type makes integers or decimals of
them. -/
theorem TypeTable.numeric_texts {name : String} {type : ValueType}
    (known : TypeTable.numeric.lookup name = some type) :
    ∃ signs, (∀ sign ∈ signs, IsSign sign) ∧
      (type.convert? = some ValueType.toInteger ∧
          Texts.ofType name = Texts.quotable (Texts.numeral signs false) ∨
        type.convert? = some ValueType.toDecimal ∧
          Texts.ofType name = Texts.quotable (Texts.numeral signs true)) := by
  obtain ⟨listed, rfl⟩ := numeric_listed known
  have all : ∀ sign ∈ [[], ['+'], ['-']], IsSign sign := by simp [IsSign]
  have plus : ∀ sign ∈ [[], ['+']], IsSign sign := by simp [IsSign]
  have minus : ∀ sign ∈ [['-']], IsSign sign := by simp [IsSign]
  simp only [ValueType.numeric, List.map_cons, List.map_nil, List.mem_cons, List.not_mem_nil,
    or_false] at listed
  rcases listed with rfl | rfl | rfl | rfl | rfl | rfl
  · exact ⟨_, all, .inl ⟨rfl, rfl⟩⟩
  · exact ⟨_, plus, .inl ⟨rfl, rfl⟩⟩
  · exact ⟨_, minus, .inl ⟨rfl, rfl⟩⟩
  · exact ⟨_, all, .inr ⟨rfl, rfl⟩⟩
  · exact ⟨_, plus, .inr ⟨rfl, rfl⟩⟩
  · exact ⟨_, minus, .inr ⟨rfl, rfl⟩⟩

/-- The value of an integer with too many digits. -/
theorem ValueType.toInteger_overlong {sign digits : List Char} (isSign : IsSign sign)
    (isDigits : digits ∈ Texts.digits) (long : digitLimit < digits.length) (asked : Option String) :
    toInteger asked (String.ofList (sign ++ digits)) =
      .error (.integer (String.ofList (sign ++ digits)) (.tooManyDigits digits.length)) := by
  obtain ⟨n, read⟩ := readInteger_numeral isSign isDigits
  rw [if_pos long] at read
  simp [toInteger, integerOf, read]

/-- What the pattern of a numeric type accepts has a value, or it has too many digits. -/
theorem ValueType.isOverlong_of_convert {name : String} {type : ValueType}
    (known : TypeTable.numeric.lookup name = some type) {text : String}
    (is : text.toList ∈ Texts.ofType name) {asked : Option String} {fault : Fault}
    (failed : type.convert asked (Fragment.unwrap text) = .error fault) :
    fault.IsOverlong text.toList := by
  obtain ⟨signs, each, ⟨isInteger, texts⟩ | ⟨isDecimal, texts⟩⟩ := TypeTable.numeric_texts known
  · obtain ⟨inside, taken, unwrapped, held⟩ := Texts.exists_unwrap_numeral each (texts ▸ is)
    obtain ⟨sign, listed, digits, isDigits, part, fraction, rfl⟩ := taken
    obtain rfl : part = [] := by simpa using fraction
    rw [List.append_nil] at unwrapped held
    rw [convert, isInteger, unwrapped] at failed
    change toInteger asked (String.ofList (sign ++ digits)) = .error fault at failed
    by_cases long : digitLimit < digits.length
    · rw [toInteger_overlong (each sign listed) isDigits long] at failed
      cases failed
      exact ⟨_, digits, rfl, (List.suffix_append sign digits).isInfix.trans held, isDigits.2, long⟩
    · obtain ⟨n, read⟩ := readInteger_numeral (each sign listed) isDigits
      rw [if_neg long] at read
      simp only [toInteger, integerOf, String.toList_ofList, read] at failed
      cases failed
  · obtain ⟨inside, taken, unwrapped, held⟩ := Texts.exists_unwrap_numeral each (texts ▸ is)
    obtain ⟨x, read⟩ := Option.isSome_iff_exists.mp (readDecimal_numeral each taken)
    rw [convert, isDecimal, unwrapped] at failed
    simp only [toDecimal, decimalOf, String.toList_ofList, read] at failed
    cases failed

end LineGrammar
