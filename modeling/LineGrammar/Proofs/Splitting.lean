import LineGrammar.Proofs.Elements
import LineGrammar.Proofs.Fragments
import LineGrammar.Reading.Basic

/-!
# Taking lists apart

The splitter of a list finds an element only where a separator or the end follows. When the elements
are delimited, it finds exactly the elements of a list, from left to right: at the beginning of an
element there is one way to match, and inside of a separator there is none. So nothing of the list is
lost but its separators, and no element is invented or cut short.
-/

namespace LineGrammar

open LineGrammar.Text LineGrammar.Pattern
open scoped Computability

/-- A pattern leads over the texts of a language that are cut behind, and begins with no set that a search
would read in another way. -/
structure Pattern.Splits (splitter : Pattern) (pieces : Language Char) : Prop where
  switches : splitter.switches = .none
  keeps : splitter.root.KeepsLead .none
  ways : ∀ text start next, start ≤ text.size →
    (next ∈ splitter.root.ways text .none ⟨start, []⟩ ↔
      ∃ piece ∈ pieces, Holds text start piece ∧
        Texts.Cut (text.toList.drop (start + piece.length)) ∧
        next = ⟨start + piece.length, []⟩)

/-- Looking ahead for something that notes nothing is asking whether it can be led anywhere. -/
theorem Node.mem_ways_lookAhead {text : Array Char} {on : Switches} {body : Node} {place next : Place}
    (still : ∀ seen ∈ body.ways text on place, seen.groups = place.groups) :
    next ∈ (Node.lookAhead false body).ways text on place ↔
      (∃ seen, seen ∈ body.ways text on place) ∧ next = place := by
  simp only [Node.ways]
  cases ways : body.ways text on place with
  | nil => simp
  | cons first rest =>
    have same : first.groups = place.groups := still first (by rw [ways]; exact List.mem_cons_self)
    simp only [List.head?_cons, List.mem_singleton, same]
    exact ⟨fun here => ⟨⟨first, List.mem_cons_self⟩, here⟩, fun both => both.2⟩

/-- Looking ahead for a separator or the end is asking where the text is cut. -/
theorem Node.mem_ways_cut {node : Node} (recognizes : Recognizes .none node Texts.separator)
    {text : Array Char} {place next : Place} (within : place.position ≤ text.size) :
    next ∈ (Node.lookAhead false (.ofBranches [node, .anchor .textEnd])).ways text .none place ↔
      Texts.Cut (text.toList.drop place.position) ∧ next = place := by
  have seen (seen : Place) : seen ∈ (Node.ofBranches [node, .anchor .textEnd]).ways text .none place ↔
      (∃ separator ∈ Texts.separator, Holds text place.position separator ∧
        seen = place.after separator.length) ∨ place.position = text.size ∧ seen = place := by
    rw [Node.mem_ways_ofBranches rfl]
    simp only [Node.ofChoices, Node.ways, List.mem_append, recognizes text place seen, Anchor.holds]
    by_cases stop : place.position = text.size <;> simp [stop]
  have atEnd : text.toList.drop place.position = [] ↔ place.position = text.size := by
    rw [List.drop_eq_nil_iff, Array.length_toList]
    omega
  rw [Node.mem_ways_lookAhead, Texts.cut_iff, atEnd]
  · refine and_congr_left fun _ => ⟨?_, ?_⟩
    · rintro ⟨other, listed⟩
      rcases (seen other).mp listed with ⟨separator, is, held, -⟩ | ⟨stop, -⟩
      · exact .inr ⟨separator, is, held⟩
      · exact .inl stop
    · rintro (stop | ⟨separator, is, held⟩)
      · exact ⟨place, (seen place).mpr (.inr ⟨stop, rfl⟩)⟩
      · exact ⟨_, (seen _).mpr (.inl ⟨separator, is, held, rfl⟩)⟩
  · intro other listed
    rcases (seen other).mp listed with ⟨_, _, _, rfl⟩ | ⟨_, rfl⟩ <;> rfl

/-- The splitter of an element leads where the element does, as far as the text is cut there. -/
theorem exists_splitter {element : String} {node : Node}
    (group : Operand (['(', '?', ':'] ++ element.toList ++ [')']) 0 fun _ => node)
    (keeps : node.KeepsLead .none) :
    ∃ splitter, Pattern.read (Fragment.listElement element) .none = .ok splitter ∧
      splitter.switches = .none ∧ splitter.root.KeepsLead .none ∧ ∀ text place,
        (∀ next ∈ node.ways text .none place, next.position ≤ text.size) → ∀ next,
          (next ∈ splitter.root.ways text .none place ↔
            next ∈ node.ways text .none place ∧ Texts.Cut (text.toList.drop next.position)) := by
  obtain ⟨mark, spelledMark, recognizesMark, -⟩ := IsUnit.separator
  have ahead := (Branches.cons spelledMark.spells (Branches.one Spells.textEnd)).group Opens.lookAhead
  have whole := group.spells.append ahead.spells
  have source : (Fragment.listElement element).toList = ['(', '?', ':'] ++ element.toList ++ [')'] ++
      (['(', '?', '='] ++ (Fragment.listSeparator.toList ++ '|' :: [backslash, 'Z']) ++ [')']) := by
    simp [Fragment.listElement, backslash]
  rw [← source] at whole
  refine ⟨_, whole.read_eq, rfl, ?_, fun text place within next => ?_⟩
  · refine Node.keepsLead_ofItems fun item listed => ?_
    rcases List.mem_append.mp listed with mark | own
    · rw [List.mem_singleton.mp mark]
      exact .of_join_eq_none rfl
    · rwa [List.mem_singleton.mp own]
  rw [Node.ways_ofItems_append, Node.ofItems_singleton, Node.ofItems_singleton, List.mem_flatMap]
  constructor
  · rintro ⟨middle, listed, next⟩
    obtain ⟨cut, rfl⟩ := (Node.mem_ways_cut recognizesMark (within middle listed)).mp next
    exact ⟨listed, cut⟩
  · rintro ⟨listed, cut⟩
    exact ⟨next, listed, (Node.mem_ways_cut recognizesMark (within next listed)).mpr ⟨cut, rfl⟩⟩

/-- The splitter of a unit leads over the texts of the unit that are cut behind. -/
theorem splitter_read {element : String} {pieces : Language Char}
    (unit : IsUnit .none element.toList pieces) :
    ∃ splitter, Pattern.read (Fragment.listElement element) .none = .ok splitter ∧
      splitter.Splits pieces := by
  obtain ⟨node, group, recognizes, keeps⟩ := unit.run.choice.group
  obtain ⟨splitter, isSplitter, switches, leads, ways⟩ := exists_splitter group keeps
  refine ⟨splitter, isSplitter, switches, leads, fun text start next within => ?_⟩
  rw [ways, recognizes text]
  · constructor
    · rintro ⟨⟨piece, taken, held, rfl⟩, cut⟩
      exact ⟨piece, taken, held, cut, rfl⟩
    · rintro ⟨piece, taken, held, cut, rfl⟩
      exact ⟨⟨piece, taken, held, rfl⟩, cut⟩
  · intro next listed
    obtain ⟨piece, -, held, rfl⟩ := (recognizes text _ _).mp listed
    have room : piece.length ≤ text.size - start := held.length_le
    simp only [Place.after_position]
    omega

namespace Pattern.Splits

variable {splitter : Pattern} {pieces : Language Char} {text : Array Char} {start : Nat}

/-- A search tries every place where there is a match. -/
theorem searchAt_eq (splits : splitter.Splits pieces) (ends : Nat → Bool) :
    splitter.searchAt text start ends = splitter.matchWhere text start ends :=
  Pattern.searchAt_eq (splits.switches ▸ splits.keeps) text start ends

/-- A match at a place is the first answer to one of the ways from there. -/
theorem matchWhere_eq (splits : splitter.Splits pieces) (ends : Nat → Bool) :
    splitter.matchWhere text start ends =
      ((splitter.root.ways text .none ⟨start, []⟩).findSome? fun place =>
        if ends place.position then some place else none).map fun place =>
          ⟨start, place.position, place.groups⟩ := by
  rw [matchWhere, Node.run_searches, splits.switches]

/-- At the beginning of an element that is cut behind, the element is found. -/
theorem matchWhere_element (splits : splitter.Splits pieces) (delimited : Texts.Delimited pieces)
    {piece rest : List Char} (here : text.toList.drop start = piece ++ rest) (taken : piece ∈ pieces)
    (cut : Texts.Cut rest) {ends : Nat → Bool} (accepted : ends (start + piece.length) = true)
    (within : start ≤ text.size) :
    splitter.matchWhere text start ends = some ⟨start, start + piece.length, []⟩ := by
  have behind : text.toList.drop (start + piece.length) = rest := by
    rw [← List.drop_drop, here, List.drop_left]
  have only : ∀ next ∈ splitter.root.ways text .none ⟨start, []⟩,
      next = ⟨start + piece.length, []⟩ := by
    intro next listed
    obtain ⟨other, takenOther, ⟨more, whole⟩, cutOther, rfl⟩ := (splits.ways text _ next within).mp listed
    have same : other = piece := by
      refine delimited.unique takenOther taken (whole.trans here) ?_ cut
      rwa [← List.drop_drop, ← whole, List.drop_left] at cutOther
    rw [same]
  have way : (⟨start + piece.length, []⟩ : Place) ∈ splitter.root.ways text .none ⟨start, []⟩ :=
    (splits.ways text _ _ within).mpr ⟨piece, taken, ⟨rest, here.symm⟩, by rwa [behind], rfl⟩
  rw [splits.matchWhere_eq]
  cases ways : splitter.root.ways text .none ⟨start, []⟩ with
  | nil =>
    rw [ways] at way
    cases way
  | cons first others =>
    have first_eq := only first (by rw [ways]; exact List.mem_cons_self)
    simp [first_eq, accepted]

/-- Where a separator begins, and at the end, nothing is found. -/
theorem matchWhere_cut (splits : splitter.Splits pieces) (delimited : Texts.Delimited pieces)
    (cut : Texts.Cut (text.toList.drop start)) (within : start ≤ text.size) (ends : Nat → Bool) :
    splitter.matchWhere text start ends = none := by
  have nothing : splitter.root.ways text .none ⟨start, []⟩ = [] := by
    refine List.eq_nil_iff_forall_not_mem.mpr fun next listed => ?_
    obtain ⟨piece, taken, ⟨rest, whole⟩, -, -⟩ := (splits.ways text _ next within).mp listed
    cases piece with
    | nil => exact delimited.nonempty taken
    | cons c piece =>
      have broken : Texts.isBreak c = true := cut c (by rw [← whole]; rfl)
      rw [delimited.start taken] at broken
      cases broken
  rw [splits.matchWhere_eq, nothing]
  rfl

/-- A place with something behind it lies in the text. -/
theorem lt_size_of_drop {c : Char} {rest : List Char} (here : text.toList.drop start = c :: rest) :
    start < text.size := by
  have room := congrArg List.length here
  rw [List.length_drop, Array.length_toList, List.length_cons] at room
  omega

/-- A search passes over a separator and finds the element behind it. -/
theorem searchWithin_element (splits : splitter.Splits pieces) (delimited : Texts.Delimited pieces)
    {breaks piece rest : List Char} (here : text.toList.drop start = breaks ++ (piece ++ rest))
    (broken : ∀ c ∈ breaks, Texts.isBreak c = true) (taken : piece ∈ pieces) (cut : Texts.Cut rest)
    {places : Nat} (enough : breaks.length < places) (moving : Bool) :
    splitter.searchWithin text places start moving =
      some ⟨start + breaks.length, start + breaks.length + piece.length, []⟩ := by
  have nonempty : piece ≠ [] := fun empty => delimited.nonempty (empty ▸ taken)
  induction breaks generalizing start places moving with
  | nil =>
    obtain ⟨places, rfl⟩ := Nat.exists_eq_succ_of_ne_zero (Nat.ne_of_gt enough)
    rw [List.nil_append] at here
    obtain ⟨c, others, rfl⟩ := List.exists_cons_of_ne_nil nonempty
    have within := lt_size_of_drop here
    rw [searchWithin, splits.searchAt_eq, splits.matchWhere_element delimited here taken cut (by simp) within.le]
    rfl
  | cons c breaks ih =>
    obtain ⟨places, rfl⟩ := Nat.exists_eq_succ_of_ne_zero (Nat.ne_of_gt (Nat.zero_lt_of_lt enough))
    have within := lt_size_of_drop here
    have edge : Texts.Cut (text.toList.drop start) := by
      rw [here]
      simpa using broken c (by simp)
    have none := splits.matchWhere_cut delimited edge within.le
    have behind : text.toList.drop (start + 1) = breaks ++ (piece ++ rest) := by
      rw [← List.drop_drop, here]
      rfl
    rw [searchWithin, splits.searchAt_eq, none, ih behind (fun c inside => broken c (by simp [inside]))
      (by simpa using enough) false]
    simp [Nat.add_assoc, Nat.add_comm 1]

/-- Behind the last element nothing is found any more. -/
theorem matchesWithin_end (splits : splitter.Splits pieces) (delimited : Texts.Delimited pieces)
    (ended : start = text.size) (count : Nat) (moving : Bool) :
    splitter.matchesWithin text count start moving = [] := by
  have cut : Texts.Cut (text.toList.drop start) := by
    rw [List.drop_eq_nil_iff.mpr (by rw [Array.length_toList]; omega)]
    exact Texts.cut_nil
  have none : splitter.searchFrom text start moving = Option.none := by
    rw [searchFrom, show text.size + 1 - start = 1 by omega, searchWithin, splits.searchAt_eq,
      splits.matchWhere_cut delimited cut (by omega)]
    rfl
  cases count with
  | zero => rfl
  | succ count => rw [matchesWithin, none]

/-- The texts behind an element of a list are cut. -/
theorem cut_of_elements {others : List (List Char × List Char)}
    (each : ∀ other ∈ others, other.1 ∈ Texts.separator) :
    Texts.Cut (others.flatMap fun other => other.1 ++ other.2) := by
  cases others with
  | nil => exact Texts.cut_nil
  | cons other others =>
    refine Texts.cut_iff.mpr (.inr ⟨other.1, each other List.mem_cons_self, ?_⟩)
    exact ⟨other.2 ++ others.flatMap fun other => other.1 ++ other.2, by simp⟩

/-- The first match from a separator on, or from the beginning of a list, is the next element. -/
theorem matchesWithin_element (splits : splitter.Splits pieces) (delimited : Texts.Delimited pieces)
    {breaks piece rest : List Char} (here : text.toList.drop start = breaks ++ (piece ++ rest))
    (broken : ∀ c ∈ breaks, Texts.isBreak c = true) (taken : piece ∈ pieces) (cut : Texts.Cut rest)
    (count : Nat) (moving : Bool) :
    ∃ stop, (splitter.matchesWithin text (count + 1) start moving).map
        (fun found => slice text (found.start, found.stop)) =
      String.ofList piece :: (splitter.matchesWithin text count stop false).map
        (fun found => slice text (found.start, found.stop)) ∧
      text.toList.drop stop = rest ∧ stop ≤ text.size := by
  have nonempty : piece ≠ [] := fun empty => delimited.nonempty (empty ▸ taken)
  have positive := List.length_pos_of_ne_nil nonempty
  have room := congrArg List.length here
  simp only [List.length_drop, Array.length_toList, List.length_append] at room
  have enough : breaks.length < text.size + 1 - start := by omega
  have found := splits.searchWithin_element delimited here broken taken cut enough moving
  have taken : slice text (start + breaks.length, start + breaks.length + piece.length) =
      String.ofList piece :=
    slice_of_holds ⟨rest, by rw [← List.drop_drop, here, List.drop_left]⟩
  have moved : (start + breaks.length + piece.length == start + breaks.length) = false := by
    rw [beq_eq_false_iff_ne]
    omega
  refine ⟨start + breaks.length + piece.length, ?_, ?_, by omega⟩
  · rw [matchesWithin, searchFrom, found]
    simp only [List.map_cons, taken, moved]
  · rw [← List.drop_drop, ← List.drop_drop, here, List.drop_left, List.drop_left]

/-- The matches from a separator on, or from the beginning of a list, are the elements in order. -/
theorem matchesWithin_elements (splits : splitter.Splits pieces) (delimited : Texts.Delimited pieces)
    {breaks piece : List Char} {others : List (List Char × List Char)}
    (here : text.toList.drop start =
      breaks ++ (piece ++ others.flatMap fun other => other.1 ++ other.2))
    (broken : ∀ c ∈ breaks, Texts.isBreak c = true) (taken : piece ∈ pieces)
    (each : ∀ other ∈ others, other.1 ∈ Texts.separator ∧ other.2 ∈ pieces) {count : Nat}
    (enough : others.length < count) (moving : Bool) :
    ((splitter.matchesWithin text count start moving).map fun found =>
      slice text (found.start, found.stop)) = (piece :: others.map (·.2)).map String.ofList := by
  induction others generalizing start breaks piece count moving with
  | nil =>
    obtain ⟨count, rfl⟩ := Nat.exists_eq_succ_of_ne_zero (Nat.ne_of_gt enough)
    obtain ⟨stop, matched, ended, within⟩ := splits.matchesWithin_element delimited here broken taken
      Texts.cut_nil count moving
    rw [List.flatMap_nil, List.drop_eq_nil_iff, Array.length_toList] at ended
    rw [matched, splits.matchesWithin_end delimited (Nat.le_antisymm within ended)]
    rfl
  | cons other others ih =>
    obtain ⟨count, rfl⟩ := Nat.exists_eq_succ_of_ne_zero (Nat.ne_of_gt (Nat.zero_lt_of_lt enough))
    obtain ⟨stop, matched, behind, -⟩ := splits.matchesWithin_element delimited here broken taken
      (cut_of_elements fun other listed => (each other listed).1) count moving
    have first := each other List.mem_cons_self
    rw [List.flatMap_cons, List.append_assoc] at behind
    rw [matched, ih behind (Texts.isBreak_of_mem_separator first.1).2 first.2
      (fun other listed => each other (List.mem_cons_of_mem _ listed)) (by simpa using enough) false]
    rfl

end Pattern.Splits

/-- There is room for as many elements as there are separators. -/
theorem length_le_of_separators {others : List (List Char × List Char)}
    (each : ∀ other ∈ others, other.1 ∈ Texts.separator) :
    others.length ≤ (others.flatMap fun other => other.1 ++ other.2).length := by
  induction others with
  | nil => simp
  | cons other others ih =>
    have nonempty := (Texts.isBreak_of_mem_separator (each other List.mem_cons_self)).1
    have positive := List.length_pos_of_ne_nil nonempty
    have rest := ih fun other listed => each other (List.mem_cons_of_mem _ listed)
    simp only [List.length_cons, List.flatMap_cons, List.length_append]
    omega

/-- The elements of a list are the texts between its separators. -/
theorem elementTexts_eq {splitter : Pattern} {pieces : Language Char} (splits : splitter.Splits pieces)
    (delimited : Texts.Delimited pieces) {text : String} {first : List Char}
    {others : List (List Char × List Char)}
    (whole : text.toList = first ++ others.flatMap fun other => other.1 ++ other.2)
    (taken : first ∈ pieces)
    (each : ∀ other ∈ others, other.1 ∈ Texts.separator ∧ other.2 ∈ pieces) :
    elementTexts splitter text = (first :: others.map (·.2)).map String.ofList := by
  have bound := length_le_of_separators fun other listed => (each other listed).1
  have room := congrArg List.length whole
  rw [List.length_append] at room
  have here : text.toList.toArray.toList.drop 0 =
      [] ++ (first ++ others.flatMap fun other => other.1 ++ other.2) := whole
  exact splits.matchesWithin_elements delimited here (by simp) taken each
    (by rw [List.size_toArray]; omega) false

/-- A list can be written as its first element and the others with the separators before them. -/
theorem Texts.mem_listOf {texts : Language Char} {text : List Char} :
    text ∈ Texts.listOf texts ↔ ∃ first ∈ texts, ∃ others : List (List Char × List Char),
      (∀ other ∈ others, other.1 ∈ Texts.separator ∧ other.2 ∈ texts) ∧
        text = first ++ others.flatMap fun other => other.1 ++ other.2 := by
  simp only [listOf, Language.mem_mul, Language.mem_kstar]
  constructor
  · rintro ⟨first, taken, _, ⟨turns, rfl, each⟩, rfl⟩
    obtain ⟨others, same, every⟩ : ∃ others : List (List Char × List Char),
        turns = others.map (fun other => other.1 ++ other.2) ∧
          ∀ other ∈ others, other.1 ∈ separator ∧ other.2 ∈ texts := by
      induction turns with
      | nil => exact ⟨[], rfl, by simp⟩
      | cons turn turns ih =>
        obtain ⟨mark, is, element, inside, rfl⟩ := each turn List.mem_cons_self
        obtain ⟨others, rfl, every⟩ := ih fun turn listed => each turn (List.mem_cons_of_mem _ listed)
        refine ⟨(mark, element) :: others, rfl, fun other listed => ?_⟩
        rcases List.mem_cons.mp listed with rfl | listed
        · exact ⟨is, inside⟩
        · exact every other listed
    exact ⟨first, taken, others, every, by rw [same, List.flatMap_def]⟩
  · rintro ⟨first, taken, others, each, rfl⟩
    refine ⟨first, taken, _, ⟨others.map fun other => other.1 ++ other.2, by rw [List.flatMap_def], ?_⟩,
      rfl⟩
    intro turn listed
    obtain ⟨other, inside, rfl⟩ := List.mem_map.mp listed
    exact ⟨other.1, (each other inside).1, other.2, (each other inside).2, rfl⟩

end LineGrammar
