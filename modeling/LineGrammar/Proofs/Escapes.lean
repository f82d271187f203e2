import LineGrammar.Proofs.Elements
import LineGrammar.Proofs.Quoting

/-!
# Unwrapping reads the escapes of an argument

The pattern of an argument takes a backslash together with the character behind it, so it reads an
argument in units. Unwrapping does not: it looks for a backslash before a quote, a blank or a comma
wherever that stands, also when the backslash is itself the second character of a unit.

The two readings are compared here. They agree on an argument exactly when no escaped backslash stands
right before a quote, a blank or a comma that is a unit of its own. Otherwise every such backslash is
lost, though both characters of its unit should stay.
-/

namespace LineGrammar

open LineGrammar.Text LineGrammar.Pattern
open scoped Computability

namespace Texts

/-! ## Units -/

/-- A text in units from its front on: a backslash with the character behind it, or a character
alone. -/
def units : List Char → List (List Char)
  | [] => []
  | [c] => [[c]]
  | c :: d :: rest => if c = backslash then [c, d] :: units rest else [c] :: units (d :: rest)

/-- A character that is not a backslash is a unit. -/
theorem units_cons {c : Char} (plain : c ≠ backslash) (rest : List Char) :
    units (c :: rest) = [c] :: units rest := by
  cases rest <;> simp [units, plain]

/-- A backslash and the character behind it are a unit. -/
theorem units_escape (c : Char) (rest : List Char) :
    units (backslash :: c :: rest) = [backslash, c] :: units rest := by
  simp [units]

/-- The units of an argument are the turns that its pattern takes. -/
theorem units_flatten {plain : Char → Bool} (apart : plain backslash = false)
    {turns : List (List Char)} (each : ∀ turn ∈ turns, turn ∈ unit plain) :
    units turns.flatten = turns := by
  induction turns with
  | nil => rfl
  | cons turn turns ih =>
    have others := ih fun turn listed => each turn (List.mem_cons_of_mem _ listed)
    rcases each turn List.mem_cons_self with ⟨c, _, rfl⟩ | ⟨c, taken, rfl⟩
    · rw [List.flatten_cons, List.cons_append, List.singleton_append, units_escape, others]
    · have other : c ≠ backslash := by
        rintro rfl
        rw [apart] at taken
        cases taken
      rw [List.flatten_cons, List.singleton_append, units_cons other, others]

/-- What a unit stands for: a backslash before a quote, a blank or a comma goes. -/
def unescaped : List Char → List Char
  | [c, d] => if c = backslash && Fragment.isEscapable d then [d] else [c, d]
  | unit => unit

/-- The units that a text is meant to be unwrapped by, each for itself. -/
def spelledBy (units : List (List Char)) : List Char := units.flatMap unescaped

/-- Whether units begin with a quote, a blank or a comma that has no backslash. -/
def startsBare : List (List Char) → Bool
  | [c] :: _ => Fragment.isEscapable c
  | _ => false

/-- What unwrapping makes of units: as `spelledBy`, but an escaped backslash right before a quote, a
blank or a comma is left with one backslash only. -/
def leftOf : List (List Char) → List Char
  | [] => []
  | unit :: others =>
    (if unit = [backslash, backslash] && startsBare others then [backslash] else unescaped unit) ++
      leftOf others

/-- Somewhere an escaped backslash stands right before a quote, a blank or a comma that has no
backslash of its own. -/
def HasBareBehind (units : List (List Char)) : Prop :=
  ∃ c, Fragment.isEscapable c = true ∧ [[backslash, backslash], [c]] <:+: units

/-- An escaped backslash stands for both of its characters. -/
@[simp] theorem unescaped_backslashes : unescaped [backslash, backslash] = [backslash, backslash] := rfl

/-- Units begin with a bare mark where the second part of such a place would be. -/
theorem startsBare_iff {units : List (List Char)} :
    startsBare units = true ↔ ∃ c, Fragment.isEscapable c = true ∧ [[c]] <+: units := by
  unfold startsBare
  split
  · rename_i c rest
    simp [List.cons_prefix_cons]
  · rename_i other
    constructor
    · intro no
      cases no
    · rintro ⟨c, -, rest, rfl⟩
      exact absurd rfl (other c rest)

/-- Such a place is at the front, or among the other units. -/
theorem hasBareBehind_cons {unit : List Char} {others : List (List Char)} :
    HasBareBehind (unit :: others) ↔
      unit = [backslash, backslash] ∧ startsBare others = true ∨ HasBareBehind others := by
  simp only [HasBareBehind, List.infix_cons_iff, List.cons_prefix_cons, startsBare_iff, and_or_left,
    exists_or]
  constructor
  · rintro (⟨c, marked, rfl, starts⟩ | later)
    · exact .inl ⟨rfl, c, marked, starts⟩
    · exact .inr later
  · rintro (⟨rfl, c, marked, starts⟩ | later)
    · exact .inl ⟨c, marked, rfl, starts⟩
    · exact .inr later

instance decidableHasBareBehind : (units : List (List Char)) → Decidable (HasBareBehind units)
  | [] => isFalse (by simp [HasBareBehind])
  | _ :: others =>
    have := decidableHasBareBehind others
    decidable_of_iff _ hasBareBehind_cons.symm

/-- Nothing is added to what the units stand for. -/
theorem length_leftOf_le (units : List (List Char)) :
    (leftOf units).length ≤ (spelledBy units).length := by
  induction units with
  | nil => exact Nat.le_refl 0
  | cons unit others ih =>
    rw [leftOf, spelledBy, List.flatMap_cons, List.length_append, List.length_append]
    refine Nat.add_le_add ?_ ih
    split
    · rename_i lost
      simp only [Bool.and_eq_true, decide_eq_true_eq] at lost
      simp [lost.1]
    · exact Nat.le_refl _

/-- Unwrapping keeps to the units exactly where no escaped backslash stands before a bare mark. -/
theorem leftOf_eq_spelledBy_iff (units : List (List Char)) :
    leftOf units = spelledBy units ↔ ¬HasBareBehind units := by
  induction units with
  | nil => simp [leftOf, spelledBy, HasBareBehind]
  | cons unit others ih =>
    rw [hasBareBehind_cons, leftOf, spelledBy, List.flatMap_cons]
    by_cases lost : unit = [backslash, backslash] ∧ startsBare others = true
    · -- One backslash is left of two, and no other unit makes up for it.
      have lengths : ([backslash] ++ leftOf others).length <
          (unescaped unit ++ others.flatMap unescaped).length := by
        rw [lost.1, unescaped_backslashes, List.length_append, List.length_append]
        exact Nat.add_lt_add_of_lt_of_le (by decide) (length_leftOf_le others)
      rw [if_pos (by simpa using lost)]
      refine iff_of_false (fun same => ?_) (not_not_intro (.inl lost))
      exact absurd (congrArg List.length same) lengths.ne
    · rw [if_neg (by simpa using lost), List.append_cancel_left_eq]
      exact ih.trans (by simp [lost])

/-- What stands between the quotes of a text, or the whole of a text that does not begin with one. -/
def IsContent (inside text : List Char) : Prop :=
  (text = inside ∧ ∀ c ∈ text.head?, Fragment.isQuote c = false) ∨
    ∃ quote, Fragment.isQuote quote = true ∧ text = quote :: (inside ++ [quote])

/-- An argument has a content in units, none of which is a backslash alone. -/
theorem exists_content {text : List Char} (is : text ∈ argument) :
    ∃ inside, IsContent inside text ∧
      ∀ turn ∈ units inside, turn ∈ unit fun c => c != backslash := by
  have turns {plain : Char → Bool} (apart : plain backslash = false) {inside : List Char}
      (many : inside ∈ (unit plain)∗) : ∀ turn ∈ units inside, turn ∈ unit fun c => c != backslash := by
    obtain ⟨turns, rfl, each⟩ := Language.mem_kstar.mp many
    rw [units_flatten apart each]
    intro turn listed
    refine (each turn listed).imp_right fun ⟨c, taken, same⟩ => ⟨c, ?_, same⟩
    simp only [bne_iff_ne]
    rintro rfl
    rw [apart] at taken
    cases taken
  rcases mem_argumentOf.mp is with bare | ⟨quote, isQuote, inside, many, rfl⟩
  · refine ⟨text, .inl ⟨rfl, fun c first => ?_⟩, turns isPlain_isBare.backslash bare.2⟩
    obtain ⟨rest, rfl⟩ : ∃ rest, text = c :: rest := List.head?_eq_some_iff.mp first
    rcases bare_head bare with rfl | plain
    · decide
    · cases quote : Fragment.isQuote c with
      | false => rfl
      | true =>
        rw [isPlain_isBare.quote c quote] at plain
        cases plain
  · exact ⟨inside, .inr ⟨quote, isQuote, rfl⟩, turns (by simp [isInside]) many⟩

end Texts

namespace Fragment

/-! ## Unwrapping -/

/-- Dropping escapes reads a text in units, apart from the backslashes before bare marks. -/
theorem withoutEscapes_eq_leftOf (text : List Char) :
    withoutEscapes text = Texts.leftOf (Texts.units text) := by
  induction text using Texts.units.induct with
  | case1 => rfl
  | case2 c => simp [withoutEscapes, Texts.units, Texts.leftOf, Texts.unescaped]
  | case4 c d rest plain ih =>
    rw [withoutEscapes_cons plain, Texts.units_cons plain, ih, Texts.leftOf]
    simp [Texts.unescaped]
  | case3 d rest ih =>
    rw [Texts.units_escape, Texts.leftOf, ← ih]
    by_cases marked : isEscapable d = true
    · have other : d ≠ backslash := by
        rintro rfl
        exact absurd marked (by decide)
      simp [withoutEscapes, marked, Texts.unescaped, other]
    have kept : withoutEscapes (backslash :: d :: rest) = backslash :: withoutEscapes (d :: rest) := by
      simp [withoutEscapes, marked]
    rw [kept]
    by_cases escaped : d = backslash
    · subst escaped
      cases rest with
      | nil => simp [withoutEscapes, Texts.units, Texts.startsBare, Texts.unescaped, marked]
      | cons e more =>
        -- The second backslash of the unit is looked at with the character behind the unit.
        by_cases bare : isEscapable e = true
        · have other : e ≠ backslash := by
            rintro rfl
            exact absurd bare (by decide)
          have starts : Texts.startsBare (Texts.units (e :: more)) = true := by
            simp [Texts.units_cons other, Texts.startsBare, bare]
          simp [withoutEscapes, bare, starts, withoutEscapes_cons other]
        · have starts : Texts.startsBare (Texts.units (e :: more)) = false := by
            cases more with
            | nil => simp [Texts.units, Texts.startsBare, bare]
            | cons f more =>
              simp only [Texts.units]
              split <;> simp [Texts.startsBare, bare]
          simp [withoutEscapes, bare, starts]
    · simp [withoutEscapes_cons escaped, escaped, Texts.unescaped, marked]

/-- Unwrapping drops the escapes of the content. -/
theorem unwrap_eq {inside : List Char} {text : String} (content : Texts.IsContent inside text.toList) :
    unwrap text = String.ofList (withoutEscapes inside) := by
  rcases content with ⟨same, bare⟩ | ⟨quote, isQuote, same⟩
  · have kept : withoutQuotes text.toList = text.toList := by
      unfold withoutQuotes
      split
      · rename_i first second rest start
        simp [bare first (by simp [start])]
      · rfl
    rw [unwrap, kept, same]
  · rw [unwrap, same, withoutQuotes_enclosed isQuote]

/-- A text that the pattern of an argument matches in full has a content in units, and unwrapping reads
it by these: every unit stands for itself, without the backslash where that is before a quote, a blank
or a comma, except that an escaped backslash loses one of its two where such a character follows alone.
So unwrapping keeps to the units exactly when there is no such place. -/
theorem unwrap_argument (text : String) :
    ∃ pattern, Pattern.read argument .none = .ok pattern ∧
      (pattern.matchesFully text.toList = true →
        ∃ inside, Texts.IsContent inside text.toList ∧
          (∀ turn ∈ Texts.units inside, turn ∈ Texts.unit fun c => c != backslash) ∧
          unwrap text = String.ofList (Texts.leftOf (Texts.units inside)) ∧
          (unwrap text = String.ofList (Texts.spelledBy (Texts.units inside)) ↔
            ¬Texts.HasBareBehind (Texts.units inside))) := by
  obtain ⟨pattern, read, full⟩ := IsUnit.argument.run.read
  refine ⟨pattern, read, fun taken => ?_⟩
  obtain ⟨inside, content, turns⟩ := Texts.exists_content ((full text.toList).mp taken)
  have left : unwrap text = String.ofList (Texts.leftOf (Texts.units inside)) := by
    rw [unwrap_eq content, withoutEscapes_eq_leftOf]
  refine ⟨inside, content, turns, left, ?_⟩
  rw [left, String.ofList_inj]
  exact Texts.leftOf_eq_spelledBy_iff _

/-- An escaped comma is unescaped, and an escaped backslash before a letter stays. -/
theorem unwrap_argument_backslashes :
    ∃ pattern, Pattern.read argument .none = .ok pattern ∧
      pattern.matchesFully "a\\,b\\\\c".toList = true ∧ unwrap "a\\,b\\\\c" = "a,b\\\\c" := by
  obtain ⟨pattern, read, units⟩ := unwrap_argument "a\\,b\\\\c"
  have matched : (Pattern.read argument .none).toOption.map
      (fun pattern => pattern.matchesFully "a\\,b\\\\c".toList) = some true := by
    decide +kernel
  have full : pattern.matchesFully "a\\,b\\\\c".toList = true := by
    rw [read] at matched
    exact Option.some.inj matched
  obtain ⟨inside, content, -, -, agree⟩ := units full
  have same : inside = "a\\,b\\\\c".toList := by
    rcases content with ⟨same, -⟩ | ⟨quote, isQuote, same⟩
    · exact same.symm
    · cases List.head_eq_of_cons_eq same
      exact absurd isQuote (by decide)
  subst same
  exact ⟨pattern, read, full, (agree.mpr (by decide +kernel)).trans (by decide +kernel)⟩

/-- An escaped backslash before a comma loses one of its backslashes, though the pattern of an argument
takes the comma for a character of its own. -/
theorem unwrap_lost_backslash :
    ∃ pattern, Pattern.read argument .none = .ok pattern ∧
      pattern.matchesFully "a\\\\,b".toList = true ∧
      Texts.IsContent "a\\\\,b".toList "a\\\\,b".toList ∧
      Texts.units "a\\\\,b".toList = [['a'], [backslash, backslash], [','], ['b']] ∧
      String.ofList (Texts.spelledBy (Texts.units "a\\\\,b".toList)) = "a\\\\,b" ∧
      unwrap "a\\\\,b" = "a\\,b" := by
  have matched : (Pattern.read argument .none).toOption.map
      (fun pattern => pattern.matchesFully "a\\\\,b".toList) = some true := by
    decide +kernel
  obtain ⟨pattern, read, full⟩ := Option.map_eq_some_iff.mp matched
  exact ⟨pattern, Except.eq_ok_of_toOption read, full, .inl ⟨rfl, by decide⟩, by decide +kernel,
    by decide +kernel, by decide +kernel⟩

end Fragment

end LineGrammar
