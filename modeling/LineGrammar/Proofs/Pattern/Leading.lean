import LineGrammar.Proofs.Characters
import LineGrammar.Proofs.Pattern.Branches

/-!
# Where a search tries a pattern

A search passes over the places where no member of the set stands that the pattern begins with. The set is
read there under the switches of the whole pattern. Nothing is lost when it accepts at least what it accepts in
its place: a match begins with a member of the set. The two readings part only over classes of characters, and
only when the set stands under another character set than the pattern as a whole.
-/

namespace LineGrammar.Pattern

open LineGrammar.Text

/-! ## Sets without two cases -/

section Lower

variable {on : Switches} {c : Char} {code lower : Nat}

/-- Case makes a difference to what has a lower-case form other than itself, and to that form. -/
theorem isCasefulUnder_of_lowerUnder (moved : lowerUnder on code ≠ code) :
    isCasefulUnder on code = true ∧ isCasefulUnder on (lowerUnder on code) = true := by
  cases ascii : on.ascii with
  | true =>
    simp only [lowerUnder, isCasefulUnder, ascii, if_true, Bool.and_eq_true, Bool.or_eq_true,
      decide_eq_true_eq] at moved ⊢
    split at moved
    · rename_i capital
      rw [if_pos capital]
      omega
    · exact absurd rfl moved
  | false =>
    simp only [lowerUnder, isCasefulUnder, ascii, Bool.false_eq_true, if_false] at moved ⊢
    exact isCaseful_of_lowerCode moved

/-- Case makes a difference to letters that share an upper-case form. -/
theorem isCasefulUnder_of_partner {partner : Nat} (shared : partner ∈ partnersUnder on lower) :
    isCasefulUnder on lower = true ∧ isCasefulUnder on partner = true := by
  unfold partnersUnder at shared
  split at shared
  · cases shared
  · rename_i unicode
    simpa [isCasefulUnder, unicode] using isCaseful_of_partner shared

/-- What has a given lower-case form is that form, or case makes a difference to it. -/
theorem eq_or_isCasefulUnder_of_withLower {point : Nat} (listed : point ∈ withLower on lower) :
    point = lower ∨ isCasefulUnder on point = true := by
  have capital (inside : point ∈ if on.ascii then (if 97 ≤ lower && lower ≤ 122 then [lower - 32] else [])
      else capitalsOf lower) : isCasefulUnder on point = true := by
    cases ascii : on.ascii with
    | true =>
      simp only [ascii, if_true] at inside
      split at inside
      · rename_i letter
        simp only [Bool.and_eq_true, decide_eq_true_eq] at letter
        obtain rfl := List.mem_singleton.mp inside
        simp only [isCasefulUnder, ascii, if_true, Bool.or_eq_true, Bool.and_eq_true, decide_eq_true_eq]
        omega
      · cases inside
    | false =>
      simp only [ascii, Bool.false_eq_true, if_false] at inside
      simpa [isCasefulUnder, ascii] using isCaseful_of_mem_capitalsOf inside
  unfold withLower at listed
  dsimp only at listed
  by_cases own : lowerUnder on lower = lower
  · rw [if_pos own] at listed
    exact (List.mem_cons.mp listed).imp_right capital
  · rw [if_neg own] at listed
    exact .inr (capital listed)

/-- A lower-case form under switches is a character. -/
theorem toNat_ofNat_lowerUnder (c : Char) :
    (Char.ofNat (lowerUnder on c.toNat)).toNat = lowerUnder on c.toNat := by
  cases ascii : on.ascii with
  | true =>
    simp only [lowerUnder, ascii, if_true]
    split
    · rename_i capital
      simp only [Bool.and_eq_true, decide_eq_true_eq] at capital
      rw [Char.ofNat, dif_pos (.inl (by omega))]
      rfl
    · rw [Char.ofNat_toNat]
  | false => simpa [lowerUnder, ascii] using toNat_ofNat_lowerCode c

/-- Whether a character belongs to a class does not depend on its case. -/
theorem Category.holds_lowerUnder (kind : Category) (c : Char) :
    kind.holds on (Char.ofNat (lowerUnder on c.toNat)) = kind.holds on c := by
  by_cases moved : lowerUnder on c.toNat = c.toNat
  · rw [moved, Char.ofNat_toNat]
  cases ascii : on.ascii with
  | true =>
    have letters : ∀ code ∈ List.range' 65 26, (Char.ofNat (code + 32)).isDigit = (Char.ofNat code).isDigit ∧
        isBlank (Char.ofNat (code + 32)) = isBlank (Char.ofNat code) ∧
        (Char.ofNat (code + 32) == '_' || (Char.ofNat (code + 32)).isAlphanum) =
          (Char.ofNat code == '_' || (Char.ofNat code).isAlphanum) := by
      decide
    simp only [lowerUnder, ascii, if_true] at moved ⊢
    split at moved
    · rename_i capital
      rw [if_pos capital]
      simp only [Bool.and_eq_true, decide_eq_true_eq] at capital
      have same := letters c.toNat (by rw [List.mem_range'_1]; omega)
      rw [Char.ofNat_toNat] at same
      cases kind with
      | digit => simpa [Category.holds, ascii] using same.1
      | space => simpa [Category.holds, ascii] using same.2.1
      | word => simpa [Category.holds, ascii] using same.2.2
    · exact absurd rfl moved
  | false =>
    simp only [lowerUnder, ascii, Bool.false_eq_true, if_false] at moved ⊢
    have cased := isCaseful_of_lowerCode moved
    rw [← toNat_ofNat_lowerCode] at cased
    have apart {holds : Char → Bool} (plain : ∀ {d : Char}, holds d = true → isCaseful d.toNat = false) :
        holds (Char.ofNat (lowerCode c.toNat)) = holds c := by
      have neither {d : Char} (cased : isCaseful d.toNat = true) : holds d = false := by
        cases held : holds d with
        | false => rfl
        | true => rw [plain held] at cased; cases cased
      rw [neither cased.1, neither cased.2]
    cases kind with
    | digit => simpa [Category.holds, ascii] using apart not_isCaseful_of_isDecimal
    | space => simpa [Category.holds, ascii] using apart not_isCaseful_of_isSpace
    | word => simpa [Category.holds, ascii] using isWord_lowerCode c

/-- What case makes no difference to is the lower-case form of itself alone. -/
theorem lowerUnder_eq_iff {point : Nat} (plain : isCasefulUnder on point = false) :
    lowerUnder on code = point ↔ code = point := by
  constructor
  · rintro rfl
    by_contra moved
    rw [(isCasefulUnder_of_lowerUnder (Ne.symm moved)).2] at plain
    cases plain
  · rintro rfl
    by_contra moved
    rw [(isCasefulUnder_of_lowerUnder moved).1] at plain
    cases plain

/-- A member of a set without two cases accepts a character when it accepts its lower-case form. -/
theorem SetItem.holdsLower_of_not_isCased {item : SetItem} (plain : item.isCased on = false) (c : Char) :
    item.holdsLower on (Char.ofNat (lowerUnder on c.toNat)) = item.holds on c := by
  cases item with
  | code point =>
    have plain : isCasefulUnder on point = false := plain
    have itself : lowerUnder on point = point := (lowerUnder_eq_iff plain).mpr rfl
    rw [Bool.eq_iff_iff]
    simp only [SetItem.holdsLower, SetItem.holds, toNat_ofNat_lowerUnder, itself, beq_iff_eq]
    split
    · rw [beq_iff_eq, lowerUnder_eq_iff plain]
    · rw [Bool.or_eq_true, beq_iff_eq, lowerUnder_eq_iff plain, List.contains_iff_mem]
      refine or_iff_left fun shared => ?_
      rw [(isCasefulUnder_of_partner shared).1] at plain
      cases plain
  | range low high =>
    simp only [SetItem.isCased, Bool.or_eq_false_iff, decide_eq_false_iff_not, List.any_eq_false,
      List.mem_range] at plain
    obtain ⟨short, each⟩ := plain
    have plain {point : Nat} (inside : low ≤ point ∧ point ≤ high) : isCasefulUnder on point = false := by
      have here := each (point - low) (by omega)
      rwa [Nat.add_sub_cancel' inside.1, Bool.not_eq_true] at here
    rw [Bool.eq_iff_iff]
    simp only [SetItem.holdsLower, SetItem.holds, toNat_ofNat_lowerUnder, short, decide_false, Bool.false_and,
      Bool.or_false, List.any_eq_true, List.mem_cons, Bool.and_eq_true, decide_eq_true_eq]
    constructor
    · rintro ⟨form, isForm, point, listed, inside⟩
      have plain := plain inside
      obtain rfl : point = form := (eq_or_isCasefulUnder_of_withLower listed).resolve_right (by simp [plain])
      have own := isForm.resolve_right fun shared => by
        rw [(isCasefulUnder_of_partner shared).2] at plain
        cases plain
      rwa [(lowerUnder_eq_iff plain).mp own.symm]
    · intro inside
      have itself := (lowerUnder_eq_iff (plain inside)).mpr rfl
      exact ⟨_, .inl rfl, c.toNat, by simp [itself, withLower], inside⟩
  | category kind negated => rw [SetItem.holdsLower, Category.holds_lowerUnder, SetItem.holds]

end Lower

/-- A set without two cases is read by its members alone. -/
theorem inSet_of_not_isCased {on : Switches} {negated : Bool} {items : List SetItem}
    (several : ∀ point, items ≠ [.code point])
    (plain : (on.ignoreCase && items.any (·.isCased on)) = false) (c : Char) :
    inSet on negated items c = (items.any (·.holds on c) != negated) := by
  unfold inSet
  split
  · rename_i point
    exact absurd rfl (several point)
  · split
    · rename_i ignored
      simp only [Bool.and_eq_true] at ignored
      rw [ignored.1, Bool.true_and, List.any_eq_false] at plain
      have same : items.any (·.holdsLower on (Char.ofNat (lowerUnder on c.toNat))) =
          items.any (·.holds on c) := by
        rw [Bool.eq_iff_iff, List.any_eq_true, List.any_eq_true]
        refine exists_congr fun item => and_congr_right fun inside => ?_
        rw [SetItem.holdsLower_of_not_isCased (by simpa using plain item inside)]
      rw [same]
    · rfl

/-! ## The leading set -/

/-- Whether a member of a set is a class of characters. -/
def SetItem.isClass : SetItem → Bool
  | .category .. => true
  | _ => false

namespace LeadingSet

variable {set : LeadingSet} {on : Switches}

/-- Whether a set accepts a character under some switches. -/
def accepts (set : LeadingSet) (on : Switches) (c : Char) : Bool :=
  set.items.any (·.holds on c) != set.negated

/-- Whether a set is read under switches as under those that hold where it stands: it has no class, or
both choose the same character set. -/
def isAlike (set : LeadingSet) (on : Switches) : Bool :=
  set.switches.ascii == on.ascii || set.items.all (!·.isClass)

/-- A set that is read alike accepts the same characters. -/
theorem accepts_eq (alike : set.isAlike on = true) (c : Char) :
    set.accepts on c = set.accepts set.switches c := by
  have same : set.items.any (·.holds on c) = set.items.any (·.holds set.switches c) := by
    rw [Bool.eq_iff_iff, List.any_eq_true, List.any_eq_true]
    refine exists_congr fun item => and_congr_right fun inside => ?_
    cases item with
    | code point => rfl
    | range low high => rfl
    | category kind negated =>
      have same : set.switches.ascii = on.ascii := by
        simp only [isAlike, Bool.or_eq_true, beq_iff_eq, List.all_eq_true] at alike
        refine alike.resolve_right fun none => ?_
        exact absurd (none _ inside) (by simp [SetItem.isClass])
      cases kind <;> simp [SetItem.holds, Category.holds, same]
  rw [accepts, accepts, same]

end LeadingSet

namespace Node

/-- The set that a node begins with, if any, accepts what it accepts in its place also under the switches of
the whole. -/
def KeepsLead (on : Switches) (node : Node) : Prop :=
  ∀ set, node.leading? on = some (some set) → ∀ c, set.accepts set.switches c = true → set.accepts on c = true

/-- A node that begins with no set has none to keep. -/
theorem KeepsLead.of_join_eq_none {on : Switches} {node : Node} (bare : (node.leading? on).join = none) :
    node.KeepsLead on := by
  intro set begins
  rw [begins, Option.join_some] at bare
  cases bare

/-- A node whose leading set is read alike keeps it. -/
theorem KeepsLead.of_isAlike {on : Switches} {node : Node}
    (alike : (node.leading? on).join.all (·.isAlike on) = true) : node.KeepsLead on := by
  intro set begins c accepted
  rw [begins, Option.join_some, Option.all_some] at alike
  rwa [LeadingSet.accepts_eq alike]

variable {text : Array Char} {place next : Place}

/-- A set of several characters is what it begins with, unless case does not count and it has a member with
two cases. -/
theorem leading?_several {negated : Bool} {items : List SetItem} {on : Switches}
    (several : ∀ point, items ≠ [.code point]) :
    (Node.set negated items).leading? on =
      some (if on.ignoreCase && items.any (·.isCased on) then none else some ⟨on, negated, items⟩) := by
  rw [leading?]
  exact several

/-- A set that a node begins with is one of several characters. Where case does not count, none of its
members has two cases. -/
theorem leading?_set {negated : Bool} {items : List SetItem} {on : Switches} {set : LeadingSet}
    (begins : (Node.set negated items).leading? on = some (some set)) :
    set = ⟨on, negated, items⟩ ∧ (∀ point, items ≠ [.code point]) ∧
      (on.ignoreCase && items.any (·.isCased on)) = false := by
  have several (point : Nat) : items ≠ [.code point] := by
    rintro rfl
    cases begins
  rw [leading?_several several] at begins
  split at begins
  · cases begins
  · rename_i plain
    obtain rfl := Option.some.inj (Option.some.inj begins)
    exact ⟨rfl, several, Bool.not_eq_true _ |>.mp plain⟩

/-- A node without anything to begin with stays where it is. -/
theorem eq_of_leading?_eq_none {node : Node} {on : Switches} (nothing : node.leading? on = none)
    (leads : next ∈ node.ways text on place) : next = place := by
  induction node generalizing place next with
  | empty => exact List.mem_singleton.mp leads
  | sequence first second ihFirst ihSecond =>
    simp only [leading?, Option.orElse_eq_orElse, Option.orElse_eq_or, Option.or_eq_none_iff] at nothing
    obtain ⟨middle, reached, goesOn⟩ := List.mem_flatMap.mp leads
    rw [ihSecond nothing.2 goesOn, ihFirst nothing.1 reached]
  | set negated items =>
    by_cases single : ∃ point, items = [.code point]
    · obtain ⟨point, rfl⟩ := single
      cases nothing
    · rw [leading?_several fun point same => single ⟨point, same⟩] at nothing
      cases nothing
  | _ => cases nothing

/-- A match begins with a member of the leading set, if there is one. -/
theorem exists_of_leading? {node : Node} {on : Switches} {set : LeadingSet}
    (begins : node.leading? on = some (some set)) (leads : next ∈ node.ways text on place) :
    ∃ c, text[place.position]? = some c ∧ set.accepts set.switches c = true := by
  induction node generalizing place next on with
  | set negated items =>
    obtain ⟨rfl, several, plain⟩ := leading?_set begins
    simp only [ways, Ways.consume] at leads
    split at leads
    · rename_i c here
      split at leads
      · rename_i accepted
        exact ⟨c, here, (inSet_of_not_isCased several plain c).symm.trans accepted⟩
      · cases leads
    · cases leads
  | sequence first second ihFirst ihSecond =>
    obtain ⟨middle, reached, goesOn⟩ := List.mem_flatMap.mp leads
    -- A first part with nothing to begin with leads nowhere else, so the second begins in the same place.
    cases front : first.leading? on with
    | some found =>
      exact ihFirst (by simpa [leading?, front] using begins) reached
    | none =>
      obtain rfl := eq_of_leading?_eq_none front reached
      exact ihSecond (by simpa [leading?, front] using begins) goesOn
  | capture index body ih =>
    obtain ⟨seen, reached, -⟩ := List.mem_map.mp leads
    exact ih (Option.join_eq_some_iff.mp (Option.some.inj begins)) reached
  | «scoped» inner off body ih =>
    exact ih (Option.join_eq_some_iff.mp (Option.some.inj begins)) leads
  | _ => cases begins

namespace KeepsLead

variable {on : Switches} {first second : Node} {nodes : List Node}

/-- A leaf stands under the switches that it is asked for under. -/
theorem leaf {node : Node} (isLeaf : node.isLeaf = true) : node.KeepsLead on := by
  intro set begins
  cases node with
  | set negated items =>
    obtain ⟨rfl, -, -⟩ := leading?_set begins
    exact fun _ => id
  | _ => first | cases begins | cases isLeaf

/-- A sequence keeps the set that it begins with when both of its parts keep theirs. -/
theorem sequence (one : first.KeepsLead on) (other : second.KeepsLead on) :
    (Node.sequence first second).KeepsLead on := by
  intro set begins
  cases front : first.leading? on with
  | some found => exact one set (by simpa [leading?, front] using begins)
  | none => exact other set (by simpa [leading?, front] using begins)

/-- A sequence of several nodes keeps the set that it begins with when all of them keep theirs. -/
theorem ofSequence (each : ∀ node ∈ nodes, node.KeepsLead on) : (Node.ofSequence nodes).KeepsLead on := by
  fun_induction Node.ofSequence nodes with
  | case1 => exact of_join_eq_none rfl
  | case2 node => exact each node List.mem_cons_self
  | case3 node rest _ ih =>
    exact (each node List.mem_cons_self).sequence
      (ih fun other inside => each other (List.mem_cons_of_mem node inside))

/-- A part with switches of its own keeps what it begins with when it keeps the character set. -/
theorem «scoped» {inner off : Switches} {body : Node} (keeps : body.KeepsLead (on.within inner off))
    (kept : (on.within inner off).ascii = on.ascii) : (Node.scoped inner off body).KeepsLead on := by
  intro set begins c accepted
  have inside := keeps set (Option.join_eq_some_iff.mp (Option.some.inj begins)) c accepted
  let here : LeadingSet := { set with switches := on.within inner off }
  have alike : here.isAlike on = true := by simp [LeadingSet.isAlike, here, kept]
  exact (LeadingSet.accepts_eq alike c).trans inside

/-- Several branches begin with a leaf that all of them have, or with no set. -/
theorem ofBranches (each : ∀ node ∈ nodes, node.KeepsLead on) : (Node.ofBranches nodes).KeepsLead on := by
  unfold Node.ofBranches
  split
  · rename_i one two others
    refine ofSequence fun node listed => ?_
    rcases List.mem_append.mp listed with front | ending
    · exact leaf ((sharedParts_spec _ _).1 node front)
    · rw [List.mem_singleton.mp ending, Node.ofEndings]
      split
      · exact leaf rfl
      · exact of_join_eq_none rfl
  · rename_i few
    match nodes, few with
    | [], _ => exact of_join_eq_none rfl
    | [node], _ => exact each node List.mem_cons_self
    | one :: two :: others, few => exact absurd rfl (few one two others)

end KeepsLead

end Node

/-! ## Searching -/

/-- A search of a pattern that keeps what it begins with tries every place where there is a match. -/
theorem searchAt_eq {pattern : Pattern} (keeps : pattern.root.KeepsLead pattern.switches) (text : Array Char)
    (start : Nat) (ends : Nat → Bool) : pattern.searchAt text start ends = pattern.matchWhere text start ends := by
  unfold searchAt
  split
  · rfl
  · rename_i passed
    symm
    rw [Option.eq_none_iff_forall_ne_some]
    intro found matched
    refine passed ?_
    obtain ⟨place, ran, -⟩ := Option.map_eq_some_iff.mp matched
    rw [Node.run_searches] at ran
    obtain ⟨next, listed, -⟩ := List.exists_of_findSome?_eq_some ran
    unfold isTried
    cases begins : pattern.root.leading? pattern.switches with
    | none => rfl
    | some lead =>
      cases lead with
      | none => rfl
      | some set =>
        obtain ⟨c, here, member⟩ := Node.exists_of_leading? begins listed
        rw [Option.join_some, here]
        exact keeps set begins c member

end LineGrammar.Pattern
