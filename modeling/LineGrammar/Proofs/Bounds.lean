import LineGrammar.Proofs.Definitions
import LineGrammar.Proofs.Numerals
import Mathlib

/-!
# Values within their bounds

The value of a type with a range is compared with the bounds exactly, whatever its size. Two things lie
between the bounds that the data of a definition gives and the values that the type admits. A bound is kept
as a number of 64 bits, so an integer with more than 53 binary digits is rounded before anything is
compared with it; it moves by no more than one part in 2^53. And what is not a number lies neither below nor
above any bound.

All sizes are counted in the least positive number, two to the power of -1074. In this unit every number,
every integer and every bound is an integer, or one of two ends beyond all of them.
-/

namespace LineGrammar

open LineGrammar.Definition LineGrammar.Definition.Checked LineGrammar.Numeral

namespace Numeral

/-! ## Rounding to 53 binary digits -/

/-- A rounded quotient is half a unit away from the quotient at most. -/
theorem two_mul_roundedQuotient_le {n d : Nat} (positive : 0 < d) :
    2 * (roundedQuotient n d * d) ≤ 2 * n + d ∧ 2 * n ≤ 2 * (roundedQuotient n d * d) + d := by
  have split := Nat.div_add_mod n d
  have below := Nat.mod_lt n positive
  have next : (n / d + 1) * d = n / d * d + d := Nat.succ_mul _ _
  rw [Nat.mul_comm] at split
  unfold roundedQuotient
  simp only []
  split
  · omega
  · split
    · omega
    · split <;> omega

/-- A quotient without remainder is not rounded. -/
theorem roundedQuotient_of_dvd {n d : Nat} (positive : 0 < d) (divides : d ∣ n) :
    roundedQuotient n d = n / d := by
  simp [roundedQuotient, Nat.mod_eq_zero_of_dvd divides, positive]

/-- A natural rounded to 53 binary digits. -/
def toSignificant (n : Nat) : Nat :=
  roundedQuotient n (2 ^ (n.log2 - 52)) * 2 ^ (n.log2 - 52)

/-- Rounding to 53 binary digits moves a natural by one part in 2^53 at most. -/
theorem toSignificant_close (n : Nat) :
    ((toSignificant n : Int) - n).natAbs * 2 ^ 53 ≤ n := by
  by_cases zero : n = 0
  · subst zero
    rfl
  by_cases small : n.log2 < 52
  · have same : toSignificant n = n := by
      simp [toSignificant, Nat.sub_eq_zero_of_le (Nat.le_of_lt small), roundedQuotient_of_dvd]
    simp [same]
  · have low : 2 ^ n.log2 ≤ n := Nat.log2_self_le zero
    have split : 2 ^ (n.log2 - 52) * 2 ^ 52 = 2 ^ n.log2 := by
      rw [← Nat.pow_add, Nat.sub_add_cancel (by omega)]
    have near := two_mul_roundedQuotient_le (n := n) (Nat.two_pow_pos (n.log2 - 52))
    unfold toSignificant
    generalize 2 ^ (n.log2 - 52) = step at *
    generalize roundedQuotient n step * step = rounded at *
    omega

/-- The same for an integer, counted in any unit. -/
theorem sign_mul_toSignificant_close (n : Int) (unit : Nat) :
    (n.sign * (toSignificant n.natAbs * unit : Nat) - n * unit).natAbs * 2 ^ 53 ≤ (n * unit).natAbs := by
  have moved : n.sign * (toSignificant n.natAbs * unit : Nat) - n * unit =
      n.sign * ((toSignificant n.natAbs - n.natAbs : Int) * unit) := by
    have parts : n * unit = n.sign * n.natAbs * unit := by rw [Int.sign_mul_natAbs]
    rw [parts, Nat.cast_mul]
    ring
  have signs : n.sign.natAbs ≤ 1 := by
    rcases Int.sign_trichotomy n with is | is | is <;> simp [is]
  calc (n.sign * (toSignificant n.natAbs * unit : Nat) - n * unit).natAbs * 2 ^ 53
    _ = n.sign.natAbs * (((toSignificant n.natAbs - n.natAbs : Int).natAbs * 2 ^ 53) * unit) := by
      rw [moved, Int.natAbs_mul, Int.natAbs_mul, Int.natAbs_natCast]
      ring
    _ ≤ 1 * (n.natAbs * unit) :=
      Nat.mul_le_mul signs (Nat.mul_le_mul_right unit (toSignificant_close n.natAbs))
    _ = (n * unit).natAbs := by rw [Nat.one_mul, Int.natAbs_mul, Int.natAbs_natCast]

/-- A natural with at most 53 binary digits before its zeros is not moved. -/
theorem toSignificant_eq {n m e : Nat} (small : m < 2 ^ 53) (product : n = m * 2 ^ e) :
    toSignificant n = n := by
  by_cases zero : n = 0
  · subst zero
    rfl
  have low : 2 ^ n.log2 ≤ n := Nat.log2_self_le zero
  have bound : n < 2 ^ (53 + e) := by
    rw [product, Nat.pow_add]
    exact Nat.mul_lt_mul_of_pos_right small (Nat.two_pow_pos e)
  have digits : n.log2 < 53 + e := (Nat.pow_lt_pow_iff_right (by decide)).mp (Nat.lt_of_le_of_lt low bound)
  have divides : 2 ^ (n.log2 - 52) ∣ m * 2 ^ e := Dvd.dvd.mul_left (Nat.pow_dvd_pow 2 (by omega)) m
  rw [← product] at divides
  rw [toSignificant, roundedQuotient_of_dvd (Nat.two_pow_pos _) divides, Nat.div_mul_cancel divides]

namespace Binary64

/-- The exponent for a natural leaves 53 binary digits, from its first one on. -/
theorem exponentFor_one {n : Nat} (positive : n ≠ 0) : exponentFor n 1 = (n.log2 : Int) - 52 := by
  have low : 2 ^ n.log2 ≤ n := Nat.log2_self_le positive
  have fits : if 0 ≤ (n.log2 : Int) - 53 then
        1 * Nat.pow 2 ((n.log2 : Int) - 53).toNat * Nat.pow 2 53 ≤ n
      else 1 * Nat.pow 2 53 ≤ n * Nat.pow 2 (-((n.log2 : Int) - 53)).toNat := by
    split
    · rename_i large
      have exponent : ((n.log2 : Int) - 53).toNat + 53 = n.log2 := by omega
      rw [Nat.one_mul, Nat.pow_eq, Nat.pow_eq, ← Nat.pow_add, exponent]
      exact low
    · rename_i small
      have exponent : n.log2 + (-((n.log2 : Int) - 53)).toNat = 53 := by omega
      calc 1 * Nat.pow 2 53
        _ = 2 ^ n.log2 * 2 ^ (-((n.log2 : Int) - 53)).toNat := by
          rw [← Nat.pow_add, exponent, Nat.one_mul, Nat.pow_eq]
        _ ≤ n * Nat.pow 2 (-((n.log2 : Int) - 53)).toNat := Nat.mul_le_mul_right _ low
  have one : Nat.log2 1 = 0 := rfl
  simp only [exponentFor, one, Nat.cast_zero, sub_zero, fits, if_true]
  omega

/-- Powers of two are multiplied by adding their exponents. -/
theorem pow_mul_pow {a b c : Nat} (whole : a + b = c) : Nat.pow 2 a * Nat.pow 2 b = Nat.pow 2 c :=
  whole ▸ (Nat.pow_add 2 a b).symm

section OfInt

variable (n : Nat) {least : Nat}

/-- The significand of a natural, before a carry, stands for the natural rounded to 53 digits. The unit is
two to the power of any exponent that makes the significand whole. -/
theorem roundedScaled_one (room : 52 ≤ least) :
    roundedScaled n 1 ((n.log2 : Int) - 52) * Nat.pow 2 ((n.log2 : Int) - 52 + least).toNat =
      toSignificant n * Nat.pow 2 least := by
  unfold roundedScaled toSignificant
  by_cases large : 0 ≤ (n.log2 : Int) - 52
  · have shift : ((n.log2 : Int) - 52).toNat = n.log2 - 52 := by omega
    have exponent : n.log2 - 52 + least = ((n.log2 : Int) - 52 + least).toNat := by omega
    rw [if_pos large, shift, ← pow_mul_pow exponent, Nat.one_mul, Nat.mul_assoc]
    rfl
  · have exponent : (-((n.log2 : Int) - 52)).toNat + ((n.log2 : Int) - 52 + least).toNat = least := by omega
    have none : n.log2 - 52 = 0 := by omega
    rw [if_neg large, none, Nat.pow_zero, roundedQuotient_of_dvd Nat.one_pos (Nat.one_dvd _),
      roundedQuotient_of_dvd Nat.one_pos (Nat.one_dvd _), Nat.div_one, Nat.div_one, Nat.mul_one,
      Nat.mul_assoc, pow_mul_pow exponent]

/-- A carry moves one digit from the significand to the exponent. -/
theorem carried_one (room : 52 ≤ least) {part : Nat} {shift : Int}
    (normal : (if roundedScaled n 1 ((n.log2 : Int) - 52) = Nat.pow 2 53 then
      (Nat.pow 2 52, (n.log2 : Int) - 52 + 1)
      else (roundedScaled n 1 ((n.log2 : Int) - 52), (n.log2 : Int) - 52)) = (part, shift)) :
    part * Nat.pow 2 (shift + least).toNat = toSignificant n * Nat.pow 2 least := by
  rw [← roundedScaled_one n room]
  split at normal
  · rename_i carry
    cases normal
    have next : ((n.log2 : Int) - 52 + 1 + least).toNat = 1 + ((n.log2 : Int) - 52 + least).toNat := by
      omega
    rw [carry, next, ← pow_mul_pow rfl, ← Nat.mul_assoc, pow_mul_pow rfl]
  · cases normal
    rfl

end OfInt

/-- One, counted in the least positive number. -/
def unit : Nat := Nat.pow 2 1074

-- The exponent is a variable, for the power itself is too great to be looked at.

/-- The unit is the power of two with this exponent, however it is written. The exponent is kept in a
variable so that it is not computed. -/
theorem unit_eq {least : Nat} (same : 1074 = least) : unit = Nat.pow 2 least := by
  unfold unit
  exact congrArg _ same

/-- The unit is not zero. -/
theorem unit_pos : 0 < unit := by
  obtain ⟨least, same⟩ : ∃ least : Nat, 1074 = least := ⟨1074, rfl⟩
  rw [unit_eq same]
  exact Nat.two_pow_pos least

/-- Zero is scaled to zero. -/
theorem scaled_zero (negative : Bool) (exponent : Int) : scaled negative 0 exponent = 0 := by
  simp only [scaled, Nat.zero_mul, Nat.cast_zero, neg_zero, ite_self]

/-- The number nearest to an integer stands for the integer rounded to 53 binary digits. -/
theorem scaled_ofInt {n : Int} {negative : Bool} {significand : Nat} {exponent : Int}
    (is : ofInt n = .finite negative significand exponent) :
    scaled negative significand exponent = n.sign * (toSignificant n.natAbs * unit : Nat) := by
  obtain ⟨least, same⟩ : ∃ least : Nat, 1074 = least := ⟨1074, rfl⟩
  have offset : (1074 : Int) = least := by omega
  unfold ofInt ofQuotient at is
  split at is
  · rename_i zero
    cases is
    rw [scaled_zero, Int.natAbs_eq_zero.mp zero, Int.sign_zero, Int.zero_mul]
  · rename_i nonzero
    simp only [exponentFor_one nonzero] at is
    generalize normal : (if roundedScaled n.natAbs 1 ((n.natAbs.log2 : Int) - 52) = Nat.pow 2 53 then
      (Nat.pow 2 52, (n.natAbs.log2 : Int) - 52 + 1)
      else (roundedScaled n.natAbs 1 ((n.natAbs.log2 : Int) - 52), (n.natAbs.log2 : Int) - 52)) = parts at is
    obtain ⟨part, shift⟩ := parts
    split at is
    · cases is
    · cases is
      have magnitude := @carried_one n.natAbs least (by omega) _ _ normal
      rw [← unit_eq same, ← offset] at magnitude
      simp only [scaled, magnitude, decide_eq_true_eq]
      rcases lt_trichotomy n 0 with below | rfl | above
      · rw [if_pos below, Int.sign_eq_neg_one_of_neg below, Int.neg_one_mul]
      · exact absurd rfl nonzero
      · rw [if_neg (not_lt.mpr above.le), Int.sign_eq_one_of_pos above, Int.one_mul]

/-! ## Sizes -/

/-- The exact size of a number; what is not a number has none. -/
def size? : Binary64 → Option EInt
  | .finite negative significand exponent => some (scaled negative significand exponent : Int)
  | .infinite negative => some (if negative then ⊥ else ⊤)
  | .notANumber => none

section Comparison

variable {x y : Binary64} {a b : EInt}

/-- Every integer is below the size of infinity. -/
theorem coe_lt_top (n : Int) : (n : EInt) < ⊤ :=
  WithBot.coe_lt_coe.mpr (WithTop.coe_lt_top n)

/-- Comparing two numbers compares their sizes. -/
theorem lt_iff (one : x.size? = some a) (two : y.size? = some b) : x.lt y = true ↔ a < b := by
  cases x with
  | notANumber => cases one
  | infinite negative =>
    cases one
    cases y with
    | notANumber => cases two
    | infinite other =>
      cases two
      cases negative with
      | false => exact iff_of_false Bool.false_ne_true not_top_lt
      | true =>
        cases other with
        | false => exact iff_of_true rfl bot_lt_top
        | true => exact iff_of_false Bool.false_ne_true not_lt_bot
    | finite =>
      cases two
      cases negative with
      | false => exact iff_of_false Bool.false_ne_true not_top_lt
      | true => exact iff_of_true rfl (WithBot.bot_lt_coe _)
  | finite =>
    cases one
    cases y with
    | notANumber => cases two
    | infinite other =>
      cases two
      cases other with
      | false => exact iff_of_true rfl (coe_lt_top _)
      | true => exact iff_of_false Bool.false_ne_true not_lt_bot
    | finite =>
      cases two
      rw [WithBotTop.coe_lt_coe]
      exact decide_eq_true_iff

/-- Comparing an integer with a number compares their sizes in units. -/
theorem intLt_iff {n : Int} (two : y.size? = some b) :
    intLt n y = true ↔ ((n * unit : Int) : EInt) < b := by
  cases y with
  | notANumber => cases two
  | infinite negative =>
    cases two
    cases negative with
    | false => exact iff_of_true rfl (coe_lt_top _)
    | true => exact iff_of_false Bool.false_ne_true not_lt_bot
  | finite =>
    cases two
    rw [WithBotTop.coe_lt_coe]
    unfold unit
    exact decide_eq_true_iff

/-- Comparing a number with an integer compares their sizes in units. -/
theorem ltInt_iff {n : Int} (two : y.size? = some b) :
    ltInt n y = true ↔ b < ((n * unit : Int) : EInt) := by
  cases y with
  | notANumber => cases two
  | infinite negative =>
    cases two
    cases negative with
    | false => exact iff_of_false Bool.false_ne_true not_top_lt
    | true => exact iff_of_true rfl (WithBot.bot_lt_coe _)
  | finite =>
    cases two
    rw [WithBotTop.coe_lt_coe]
    unfold unit
    exact decide_eq_true_iff

end Comparison

end Binary64

end Numeral

/-- The exact size of a value that is a number. -/
def Value.size? : Value → Option EInt
  | .integer n => some (n * Binary64.unit : Int)
  | .number x => x.size?
  | _ => none

/-! ## Bounds as they are given and as they are kept -/

namespace Document

/-- The exact size of data that is an ordinary number. -/
def size? : Document → Option Int
  | .integer n => some (n * Binary64.unit)
  | .number (.finite negative significand exponent) =>
    some (Binary64.scaled negative significand exponent)
  | _ => none

/-- Data that is kept as it is: any number, and an integer with at most 53 binary digits before its
zeros. -/
def IsKept : Document → Prop
  | .integer n => ∃ m e, m < 2 ^ 53 ∧ n.natAbs = m * 2 ^ e
  | _ => True

/-- The size that data is kept with is close to the size that it is given with. -/
structure StandsFor (data : Document) (given kept : Int) : Prop where
  near : (kept - given).natAbs * 2 ^ 53 ≤ given.natAbs
  exact : data.IsKept → kept = given

/-- The bound that an ordinary number is kept as. -/
theorem exists_standsFor {data : Document} {given : Int} {bound : Binary64} (sized : data.size? = some given)
    (admitted : Definition.number data = .ok bound) :
    ∃ kept : Int, bound.size? = some (kept : EInt) ∧ data.StandsFor given kept := by
  cases data with
  | number x =>
    cases admitted
    cases bound with
    | finite negative significand exponent =>
      cases sized
      exact ⟨_, rfl, ⟨by simp, fun _ => rfl⟩⟩
    | _ => cases sized
  | integer n =>
    cases sized
    simp only [Definition.number] at admitted
    split at admitted
    · rename_i isFinite
      cases nearest : Binary64.ofInt n with
      | finite negative significand exponent =>
        rw [nearest] at admitted
        cases admitted
        have kept := Binary64.scaled_ofInt nearest
        refine ⟨_, rfl, ?_, ?_⟩
        · rw [kept]
          exact sign_mul_toSignificant_close n Binary64.unit
        · rintro ⟨m, e, small, product⟩
          rw [kept, toSignificant_eq small product, Nat.cast_mul, ← Int.mul_assoc, Int.sign_mul_natAbs]
      | _ =>
        rw [nearest] at isFinite
        cases isFinite
    · cases admitted
  | _ => cases sized

end Document

/-- A bound that is given as an ordinary number is there. -/
theorem TypeDefinition.exists_bound {name : String} {fields : List (String × Document)}
    {stored : Option Binary64} {data : Document} {given : Int}
    (taken : Definition.optional name none (orNull number) fields = .ok stored)
    (found : Document.field? name fields = some data) (sized : data.size? = some given) :
    ∃ bound, stored = some bound ∧ number data = .ok bound := by
  rw [optional_eq_ok found] at taken
  cases data with
  | null => cases sized
  | _ =>
    obtain ⟨bound, admitted, same⟩ := Except.map_eq_ok.mp taken
    exact ⟨bound, same.symm, admitted⟩

namespace TypeDefinition

variable {definition : TypeDefinition} {text : String} {value : Value} {bound : Binary64}
  {size limit : EInt}

/-! ## The comparison with the bounds -/

/-- A value is below a bound when its size is. -/
theorem isBelow_iff (valued : value.size? = some size) (limited : bound.size? = some limit) :
    isBelow value bound = true ↔ size < limit := by
  cases value with
  | integer n =>
    cases valued
    exact Binary64.intLt_iff limited
  | number x => exact Binary64.lt_iff valued limited
  | _ => cases valued

/-- A value is above a bound when its size is. -/
theorem isAbove_iff (valued : value.size? = some size) (limited : bound.size? = some limit) :
    isAbove value bound = true ↔ limit < size := by
  cases value with
  | integer n =>
    cases valued
    exact Binary64.ltInt_iff limited
  | number x => exact Binary64.lt_iff limited valued
  | _ => cases valued

/-- A definition that converts to numbers makes a number with a size, or what is not a number of a text
that spells it. -/
theorem size_of_converted (numeric : definition.conversion ≠ .text)
    (converted : definition.converted text = .ok value) :
    (definition.conversion = .decimal ∧ value = .number .notANumber ∧ SpellsNan text.toList) ∨
      ∃ size, value.size? = some size := by
  unfold TypeDefinition.converted at converted
  cases kind : definition.conversion with
  | text => exact absurd kind numeric
  | integer =>
    rw [kind] at converted
    obtain ⟨n, -, rfl⟩ := Except.map_eq_ok.mp converted
    exact .inr ⟨_, rfl⟩
  | decimal =>
    rw [kind] at converted
    obtain ⟨x, isDecimal, rfl⟩ := Except.map_eq_ok.mp converted
    unfold ValueType.decimalOf at isDecimal
    split at isDecimal
    · rename_i read
      cases isDecimal
      cases x with
      | notANumber => exact .inl ⟨rfl, rfl, spellsNan_of_readDecimal read⟩
      | _ => exact .inr ⟨_, rfl⟩
    · cases isDecimal

/-- A value passes the check of the minimum unchanged when it is below none that is given. -/
theorem aboveMinimum_eq_ok {other : Value} :
    definition.aboveMinimum value = .ok other ↔
      (∀ bound ∈ definition.minimum, isBelow value bound = false) ∧ other = value := by
  unfold aboveMinimum
  cases definition.minimum with
  | none => simp [@eq_comm _ other]
  | some bound => cases below : isBelow value bound <;> simp [below, @eq_comm _ other]

/-- A value passes the check of the maximum unchanged when it is above none that is given. -/
theorem belowMaximum_eq_ok {other : Value} :
    definition.belowMaximum value = .ok other ↔
      (∀ bound ∈ definition.maximum, isAbove value bound = false) ∧ other = value := by
  unfold belowMaximum
  cases definition.maximum with
  | none => simp [@eq_comm _ other]
  | some bound => cases above : isAbove value bound <;> simp [above, @eq_comm _ other]

/-- A value comes from the conversion of some text, and neither bound rejects it. -/
theorem convert_eq_ok :
    definition.convert text = .ok value ↔
      ∃ source, definition.canonical text = .ok source ∧ definition.converted source = .ok value ∧
        (∀ bound ∈ definition.minimum, isBelow value bound = false) ∧
        ∀ bound ∈ definition.maximum, isAbove value bound = false := by
  simp only [TypeDefinition.convert, Except.bind_eq_ok, aboveMinimum_eq_ok, belowMaximum_eq_ok]
  constructor
  · rintro ⟨source, named, made, makes, _, ⟨above, rfl⟩, below, rfl⟩
    exact ⟨source, named, makes, above, below⟩
  · rintro ⟨source, named, makes, above, below⟩
    exact ⟨source, named, value, makes, value, ⟨above, rfl⟩, below, rfl⟩

/-- A value of a type with a range lies between the bounds, or it is not a number and its text spells that.
Each bound that is given as an ordinary number stands for a number that is close to it, and is the same if it
has at most 53 binary digits. -/
theorem convert_in_range {fields : List (String × Document)}
    (defined : TypeDefinition.ofDocument (.record fields) = .ok definition)
    (numeric : definition.conversion ≠ .text) (converted : definition.convert text = .ok value) :
    (definition.conversion = .decimal ∧ value = .number .notANumber ∧
        ∃ source, definition.canonical text = .ok source ∧ SpellsNan source.toList) ∨
      ∃ size, value.size? = some size ∧
        (∀ data given, Document.field? "minimum" fields = some data → data.size? = some given →
          ∃ kept : Int, data.StandsFor given kept ∧ kept ≤ size) ∧
        ∀ data given, Document.field? "maximum" fields = some data → data.size? = some given →
          ∃ kept : Int, data.StandsFor given kept ∧ size ≤ kept := by
  have takes := takes_of_check (outcome_eq_ok.mp defined)
  obtain ⟨source, named, makes, above, below⟩ := convert_eq_ok.mp converted
  rcases size_of_converted numeric makes with ⟨decimal, nothing, spelled⟩ | ⟨size, valued⟩
  · exact .inl ⟨decimal, nothing, source, named, spelled⟩
  refine .inr ⟨size, valued, fun data given found sized => ?_, fun data given found sized => ?_⟩
  · obtain ⟨bound, stored, admitted⟩ := exists_bound takes.minimum found sized
    obtain ⟨kept, limited, stands⟩ := Document.exists_standsFor sized admitted
    refine ⟨kept, stands, not_lt.mp fun less => ?_⟩
    have rejected := (isBelow_iff valued limited).mpr less
    rw [above bound stored] at rejected
    cases rejected
  · obtain ⟨bound, stored, admitted⟩ := exists_bound takes.maximum found sized
    obtain ⟨kept, limited, stands⟩ := Document.exists_standsFor sized admitted
    refine ⟨kept, stands, not_lt.mp fun less => ?_⟩
    have rejected := (isAbove_iff valued limited).mpr less
    rw [below bound stored] at rejected
    cases rejected

/-- A definition with one bound as data. -/
def withBound (pattern conversion bound : String) (data : Document) : List (String × Document) :=
  [("name", .text "T"), ("pattern", .text pattern), ("convert", .text conversion), (bound, data)]

/-- An integer of a type without values above 100. -/
theorem convert_in_range_percentage :
    ∃ definition, TypeDefinition.ofDocument (.record (withBound "\\d+" "int" "maximum" (.integer 100))) =
        .ok definition ∧
      definition.conversion ≠ .text ∧ definition.convert "80" = .ok (.integer 80) ∧
      ∃ size, (Value.integer 80).size? = some size ∧
        ∃ kept : Int, (Document.integer 100).StandsFor (100 * Binary64.unit) kept ∧ size ≤ kept := by
  let definition : TypeDefinition := ⟨"T", some "\\d+", .integer, "", none, some (.ofInt 100), none, true⟩
  have defined : TypeDefinition.ofDocument
      (.record (withBound "\\d+" "int" "maximum" (.integer 100))) = .ok definition :=
    Except.eq_ok_of_toOption (by decide +kernel)
  have read : ValueType.integerOf "80" = .ok 80 := Except.eq_ok_of_toOption (by decide +kernel)
  have converted : definition.convert "80" = .ok (.integer 80) :=
    convert_eq_ok.mpr ⟨"80", rfl, congrArg (Value.integer <$> ·) read, by decide +kernel, by decide +kernel⟩
  refine ⟨definition, defined, by decide, converted, ?_⟩
  rcases convert_in_range defined (by decide) converted with ⟨decimal, -⟩ | ⟨size, valued, -, bounded⟩
  · cases decimal
  · exact ⟨size, valued, bounded (.integer 100) _ rfl rfl⟩

/-- What is not a number passes every bound, and an integer passes one that was rounded down to it. -/
theorem converted_out_of_range :
    (∃ definition value, TypeDefinition.ofDocument
          (.record (withBound "nan" "float" "minimum" (.integer 1))) = .ok definition ∧
        definition.convert "nan" = .ok value ∧ value.size? = none) ∧
      ∃ definition value size given, TypeDefinition.ofDocument
          (.record (withBound "\\d+" "int" "minimum" (.integer 9007199254740993))) = .ok definition ∧
        definition.convert "9007199254740992" = .ok value ∧ value.size? = some size ∧
        (Document.integer 9007199254740993).size? = some given ∧ size < given := by
  let nan : TypeDefinition := ⟨"T", some "nan", .decimal, "", some (.ofInt 1), none, none, true⟩
  let large : TypeDefinition :=
    ⟨"T", some "\\d+", .integer, "", some (.ofInt 9007199254740993), none, none, true⟩
  have readNan : ValueType.decimalOf "nan" = .ok .notANumber := Except.eq_ok_of_toOption (by decide +kernel)
  have readLarge : ValueType.integerOf "9007199254740992" = .ok 9007199254740992 :=
    Except.eq_ok_of_toOption (by decide +kernel)
  have less : (9007199254740992 * Binary64.unit : Int) < 9007199254740993 * Binary64.unit :=
    mul_lt_mul_of_pos_right (by decide) (Int.natCast_pos.mpr Binary64.unit_pos)
  refine ⟨⟨nan, .number .notANumber, Except.eq_ok_of_toOption (by decide +kernel), convert_eq_ok.mpr ?_, rfl⟩,
    large, .integer 9007199254740992, _, _, Except.eq_ok_of_toOption (by decide +kernel),
    convert_eq_ok.mpr ?_, rfl, rfl, WithBotTop.coe_lt_coe.mpr less⟩
  · exact ⟨"nan", rfl, congrArg (Value.number <$> ·) readNan, by decide +kernel, by decide +kernel⟩
  · exact ⟨"9007199254740992", rfl, congrArg (Value.integer <$> ·) readLarge, by decide +kernel,
      by decide +kernel⟩

end TypeDefinition

end LineGrammar
