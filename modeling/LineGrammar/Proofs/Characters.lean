import LineGrammar.Pattern.Leaf

/-!
# Classes of characters

White space, word characters and letters with two cases come from separate tables. Three facts join
them. White space is never part of a word. Every code point that a case table maps, and every one it
maps to, is listed as one to which case makes a difference. So a character to which it makes none,
such as white space or a comma, agrees with itself alone when case is ignored, and the comparison that
a pattern makes is the comparison of the case tables.

The tables are finite data; each of these facts is checked by going through them once.
-/

namespace LineGrammar.Text

open LineGrammar.Pattern

-- There are finitely many characters, but a question about those of a text is not put to all of them.
instance decidableInText {holds : Char → Prop} [DecidablePred holds] (text : List Char) :
    Decidable (∀ c ∈ text, holds c) :=
  List.decidableBAll holds text

instance decidableAtPlace {holds : Char → Prop} [DecidablePred holds] (place : Option Char) :
    Decidable (∀ c ∈ place, holds c) :=
  Option.decidableForallMem place

/-! ## Tables of ranges -/

namespace CodeRanges

/-- The ranges from the first one on that does not end before a code point. -/
def startingAt (code : Nat) (ranges : List (Nat × Nat)) : List (Nat × Nat) :=
  ranges.dropWhile fun range => range.1.ble range.2 && range.2.blt code

/-- Ranges that end before a code point do not hold it. -/
theorem within_startingAt {ranges : List (Nat × Nat)} {start code : Nat} (behind : start ≤ code) :
    within (startingAt start ranges) code = within ranges code := by
  induction ranges with
  | nil => rfl
  | cons range rest ih =>
    obtain ⟨low, high⟩ := range
    unfold startingAt at ih ⊢
    rw [List.dropWhile_cons]
    split
    · rename_i before
      simp only [Bool.and_eq_true, Nat.ble_eq, Nat.blt_eq] at before
      simp only [within, show ¬ code < low by omega, show ¬ code ≤ high by omega, if_false, ih]
    · rfl

/-- Whether a range holds all code points between two. -/
def spans (first last : Nat) (range : Nat × Nat) : Bool := range.1.ble first && last.ble range.2

/-- Whether one of some ranges holds all code points between two: the first range that reaches them. -/
def areSpanned (first last : Nat) (ranges : List (Nat × Nat)) : Bool :=
  (startingAt first ranges).head?.any (spans first last)

/-- Ranges have the code points between two that one of them holds. -/
theorem within_of_areSpanned {ranges : List (Nat × Nat)} {first last code : Nat}
    (spanned : areSpanned first last ranges = true) (low : first ≤ code) (high : code ≤ last) :
    within ranges code = true := by
  rw [← within_startingAt low]
  unfold areSpanned at spanned
  cases left : startingAt first ranges with
  | nil => simp [left] at spanned
  | cons range rest =>
    obtain ⟨start, stop⟩ := range
    simp only [left, List.head?_cons, Option.any_some, spans, Bool.and_eq_true, Nat.ble_eq] at spanned
    simp [within, show ¬ code < start by omega, show code ≤ stop by omega]

/-- Whether each of some items passes a test against what is left of ascending ranges where it has its place.
The places ascend, so both lists are gone through once. -/
def pass {α : Type} (place : α → Nat) (test : α → List (Nat × Nat) → Bool) :
    Nat → List α → List (Nat × Nat) → Bool
  | _, [], _ => true
  | start, item :: rest, ranges =>
    let left := startingAt (place item) ranges
    start.ble (place item) && test item left && pass place test (place item) rest left

/-- A pass that succeeds has tested every item against what is left of the ranges where it has its place, and
nothing that counts for the item has been left behind. -/
theorem exists_of_pass {α : Type} {place : α → Nat} {test : α → List (Nat × Nat) → Bool} {items : List α}
    {ranges : List (Nat × Nat)} {start : Nat} (passed : pass place test start items ranges = true) {item : α}
    (listed : item ∈ items) : start ≤ place item ∧ ∃ left, test item left = true ∧
      ∀ code, place item ≤ code → within left code = within ranges code := by
  induction items generalizing start ranges with
  | nil => cases listed
  | cons first rest ih =>
    simp only [pass, Bool.and_eq_true, Nat.ble_eq] at passed
    obtain ⟨⟨ascends, tested⟩, passed⟩ := passed
    rcases List.mem_cons.mp listed with rfl | listed
    · exact ⟨ascends, _, tested, fun code behind => within_startingAt behind⟩
    · obtain ⟨later, left, tested, same⟩ := ih passed listed
      refine ⟨Nat.le_trans ascends later, left, tested, fun code behind => ?_⟩
      rw [same code behind, within_startingAt (Nat.le_trans later behind)]

/-- Whether some ascending ranges lie within others. -/
def areWithin (ranges others : List (Nat × Nat)) : Bool :=
  pass Prod.fst (fun range left => areSpanned range.1 range.2 left) 0 ranges others

/-- What is in ranges that lie within others is in the others. -/
theorem within_of_areWithin {ranges others : List (Nat × Nat)} (covered : areWithin ranges others = true)
    {range : Nat × Nat} (listed : range ∈ ranges) {code : Nat} (low : range.1 ≤ code)
    (high : code ≤ range.2) : within others code = true := by
  obtain ⟨-, left, spanned, same⟩ := exists_of_pass covered listed
  rw [← same code low]
  exact within_of_areSpanned spanned low high

/-- Whether some ascending ranges lie between others. -/
def areBetween (ranges others : List (Nat × Nat)) : Bool :=
  pass Prod.fst (fun range left => left.head?.all fun next => range.2.blt next.1) 0 ranges others

/-- What is in ranges that lie between others is in none of the others. -/
theorem not_within_of_areBetween {ranges others : List (Nat × Nat)} (apart : areBetween ranges others = true)
    {range : Nat × Nat} (listed : range ∈ ranges) {code : Nat} (low : range.1 ≤ code)
    (high : code ≤ range.2) : within others code = false := by
  obtain ⟨-, left, behind, same⟩ := exists_of_pass apart listed
  rw [← same code low]
  cases left with
  | nil => rfl
  | cons next rest =>
    simp only [List.head?_cons, Option.all_some, Nat.blt_eq] at behind
    simp [within, show code < next.1 by omega]

end CodeRanges

/-! ## Words, digits and white space -/

/-- The table of letters and numbers is right for the first characters as well. -/
theorem isAlphanumeric_eq (c : Char) : isAlphanumeric c = alphanumerics.contains c.toNat := by
  have first : ((List.range 128).all fun code =>
      (Char.ofNat code).isAlphanum == alphanumerics.contains code) = true := by decide
  unfold isAlphanumeric
  split
  · rename_i ascii
    simpa using List.all_eq_true.mp first c.toNat (List.mem_range.mpr ascii)
  · rfl

/-- The digits of all scripts, as ranges. -/
def digitRanges : List (Nat × Nat) := zeros.map fun first => (first, first + 9)

/-- A digit lies in the range of its script. -/
theorem exists_digitRange {c : Char} (decimal : isDecimal c = true) :
    ∃ range ∈ digitRanges, range.1 ≤ c.toNat ∧ c.toNat ≤ range.2 := by
  have listed : ∃ first ∈ zeros, first ≤ c.toNat ∧ c.toNat < first + 10 := by
    unfold isDecimal digitValue? at decimal
    split at decimal
    · split at decimal
      · rename_i digit
        simp only [Char.isDigit, Bool.and_eq_true, decide_eq_true_eq] at digit
        exact ⟨48, List.mem_cons_self, digit.1, Nat.lt_succ_of_le digit.2⟩
      · cases decimal
    · rw [Option.isSome_map, List.find?_isSome] at decimal
      simpa using decimal
  obtain ⟨first, isZero, low, high⟩ := listed
  exact ⟨(first, first + 9), List.mem_map.mpr ⟨first, isZero, rfl⟩, low, Nat.le_of_lt_succ high⟩

/-- Digits are listed among letters and numbers. -/
theorem contains_alphanumerics_of_isDecimal {c : Char} (decimal : isDecimal c = true) :
    alphanumerics.contains c.toNat = true := by
  have covered : CodeRanges.areWithin digitRanges alphanumerics.ranges = true := by decide
  obtain ⟨range, listed, low, high⟩ := exists_digitRange decimal
  exact CodeRanges.within_of_areWithin covered listed low high

/-- Case makes no difference to digits. -/
theorem not_isCaseful_of_isDecimal {c : Char} (decimal : isDecimal c = true) :
    isCaseful c.toNat = false := by
  have apart : CodeRanges.areBetween digitRanges caseful.ranges = true := by decide
  obtain ⟨range, listed, low, high⟩ := exists_digitRange decimal
  exact CodeRanges.not_within_of_areBetween apart listed low high

/-- The code points of white space. -/
def spaceCodes : List Nat :=
  List.range' 9 5 ++ List.range' 28 5 ++ [0x85, 0xA0, 0x1680] ++ List.range' 0x2000 11
    ++ [0x2028, 0x2029, 0x202F, 0x205F, 0x3000]

/-- The characters of white space are those of the list. -/
theorem mem_spaceCodes {code : Nat} (space : isSpaceCode code = true) : code ∈ spaceCodes := by
  simp only [isSpaceCode, Bool.or_eq_true, Bool.and_eq_true, decide_eq_true_eq, beq_iff_eq] at space
  simp only [spaceCodes, List.mem_append, List.mem_range'_1, List.mem_cons, List.not_mem_nil]
  omega

/-- A table has no white space if its code points lie between the ranges of the table. -/
theorem not_contains_of_isSpace {table : CodeRanges}
    (apart : CodeRanges.areBetween (spaceCodes.map fun code => (code, code)) table.ranges = true) {c : Char}
    (space : isSpace c = true) : table.contains c.toNat = false := by
  have listed : (c.toNat, c.toNat) ∈ spaceCodes.map fun code => (code, code) :=
    List.mem_map.mpr ⟨c.toNat, mem_spaceCodes space, rfl⟩
  exact CodeRanges.not_within_of_areBetween apart listed (Nat.le_refl _) (Nat.le_refl _)

/-- White space is neither letter nor number. -/
theorem not_contains_alphanumerics_of_isSpace {c : Char} (space : isSpace c = true) :
    alphanumerics.contains c.toNat = false :=
  not_contains_of_isSpace (by decide) space

/-- Case makes no difference to white space. -/
theorem not_isCaseful_of_isSpace {c : Char} (space : isSpace c = true) :
    isCaseful c.toNat = false :=
  not_contains_of_isSpace (by decide) space

/-- White space is not part of a word. -/
theorem not_isWord_of_isSpace {c : Char} (space : isSpace c = true) : isWord c = false := by
  have other : (c == '_') = false := by
    refine beq_eq_false_iff_ne.mpr ?_
    rintro rfl
    exact absurd space (by decide)
  rw [isWord, other, Bool.false_or, isAlphanumeric_eq, not_contains_alphanumerics_of_isSpace space]

/-- A word character is not white space. -/
theorem not_isSpace_of_isWord {c : Char} (word : isWord c = true) : isSpace c = false := by
  cases space : isSpace c with
  | false => rfl
  | true =>
    rw [not_isWord_of_isSpace space] at word
    cases word

/-- White space is no digit. -/
theorem not_isDecimal_of_isSpace {c : Char} (space : isSpace c = true) : isDecimal c = false := by
  cases decimal : isDecimal c with
  | false => rfl
  | true =>
    have listed := contains_alphanumerics_of_isDecimal decimal
    rw [not_contains_alphanumerics_of_isSpace space] at listed
    cases listed

/-- A digit is not white space. -/
theorem not_isSpace_of_isDecimal {c : Char} (decimal : isDecimal c = true) : isSpace c = false := by
  cases space : isSpace c with
  | false => rfl
  | true =>
    rw [not_isDecimal_of_isSpace space] at decimal
    cases decimal

/-! ## Runs of capitals -/

/-- Where the lower-case forms of a run end. -/
def CaseRun.lowerLast (run : CaseRun) : Nat := run.lower + (run.last - run.first)

/-- A run maps a code to a lower-case form when the code is one of its steps, at the same distance from the
start. -/
theorem CaseRun.lower?_eq_some {run : CaseRun} {code lower : Nat} :
    run.lower? code = some lower ↔
      (run.first ≤ code ∧ code ≤ run.last ∧ (code - run.first) % run.step = 0) ∧
        run.lower + (code - run.first) = lower := by
  simp [CaseRun.lower?, and_assoc]

/-- Whether a table holds every code point of a run and its lower-case form, given what is left of the table
where the run begins. All runs but a short one lie in one range of a table that holds them, as do their
lower-case forms. -/
def CodeRanges.holdsRun (table : CodeRanges) (run : CaseRun) (left : List (Nat × Nat)) : Bool :=
  areSpanned run.first run.last left &&
      areSpanned run.lower run.lowerLast (if run.first ≤ run.lower then left else table.ranges) ||
    (List.range (run.last - run.first + 1)).all fun offset =>
      offset % run.step != 0
        || (table.contains (run.first + offset) && table.contains (run.lower + offset))

/-- A table that holds a run has all its codes and all their lower-case forms. -/
theorem CodeRanges.contains_of_holdsRun {table : CodeRanges} {run : CaseRun} {left : List (Nat × Nat)}
    (held : table.holdsRun run left = true)
    (same : ∀ code, run.first ≤ code → within left code = within table.ranges code)
    {code lower : Nat} (maps : run.lower? code = some lower) :
    table.contains code = true ∧ table.contains lower = true := by
  obtain ⟨⟨low, high, stepped⟩, rfl⟩ := CaseRun.lower?_eq_some.mp maps
  rcases (Bool.or_eq_true _ _).mp held with together | single
  · obtain ⟨own, lowered⟩ := (Bool.and_eq_true _ _).mp together
    have last : run.lower + (code - run.first) ≤ run.lowerLast := by
      unfold CaseRun.lowerLast
      omega
    have form := within_of_areSpanned lowered (Nat.le_add_right _ _) last
    refine ⟨(same code low).symm.trans (within_of_areSpanned own low high), ?_⟩
    split at form
    · rwa [same _ (by omega)] at form
    · exact form
  · have here := List.all_eq_true.mp single (code - run.first) (List.mem_range.mpr (by omega))
    simpa [stepped, Nat.add_sub_cancel' low] using here

/-- Case makes a difference to all capitals of the runs, and to their lower-case forms. -/
theorem isCaseful_of_run {run : CaseRun} (listed : run ∈ caseRuns) {code lower : Nat}
    (maps : run.lower? code = some lower) : isCaseful code = true ∧ isCaseful lower = true := by
  have passed : CodeRanges.pass CaseRun.first caseful.holdsRun 0 caseRuns caseful.ranges = true := by
    decide
  obtain ⟨-, left, held, same⟩ := CodeRanges.exists_of_pass passed listed
  exact CodeRanges.contains_of_holdsRun held same maps

/-- Where a case table has its exceptions: one mark, and the letters in circles. -/
def caseExceptions : List (Nat × Nat) := [(0x345, 0x345), (9398, 9449)]

/-- What holds of every run of the table. It ascends. Its forms are characters. Beyond the first 2^16 code
points, its capitals are there as well, and none of its forms is a capital again. It maps one half of the
letters in circles to the other, or it has nothing to do with the exceptions. -/
structure CaseRun.Fits (run : CaseRun) : Prop where
  ascends : run.first ≤ run.last
  forms : run.lowerLast < 0xD800 ∨ 0xDFFF < run.lower ∧ run.lowerLast < 0x110000
  settled : run.lowerLast ≤ 0xFFFF ∨ 0xFFFF < run.first ∧
    ∀ other ∈ caseRuns, other.last < run.lower ∨ run.lowerLast < other.first
  apart : (run.first = 9398 ∧ run.last = 9423 ∧ run.lower = 9424) ∨
    ∀ range ∈ caseExceptions, (run.last < range.1 ∨ range.2 < run.first) ∧
      (run.lowerLast < range.1 ∨ range.2 < run.lower)

/-- Whether a run fits is decided part by part. -/
instance (run : CaseRun) : Decidable run.Fits :=
  decidable_of_iff (_ ∧ _ ∧ _ ∧ _)
    ⟨fun ⟨ascends, forms, settled, apart⟩ => ⟨ascends, forms, settled, apart⟩,
      fun ⟨ascends, forms, settled, apart⟩ => ⟨ascends, forms, settled, apart⟩⟩

/-- All runs of the table fit. -/
theorem caseRuns_fit : ∀ run ∈ caseRuns, run.Fits := by decide +kernel

/-- A code point that has a lower-case form other than itself is mapped by a run. So what holds between the
code points of all runs and their forms holds between it and its form. -/
theorem of_lowerCode_ne {holds : Nat → Nat → Prop}
    (each : ∀ run ∈ caseRuns, ∀ code lower, run.lower? code = some lower → holds code lower)
    {code : Nat} (moved : lowerCode code ≠ code) : holds code (lowerCode code) := by
  by_cases ascii : code < 128
  · have capital : 65 ≤ code ∧ code ≤ 90 := by
      simpa [lowerCode, ascii] using moved
    have lower : lowerCode code = code + 32 := by simp [lowerCode, ascii, capital]
    have first : (⟨65, 90, 1, 97⟩ : CaseRun) ∈ caseRuns := List.mem_cons_self
    refine each _ first _ _ (CaseRun.lower?_eq_some.mpr ⟨⟨capital.1, capital.2, Nat.mod_one _⟩, ?_⟩)
    simp only [lower]
    omega
  · simp only [lowerCode, ascii, if_false] at moved ⊢
    cases found : caseRuns.findSome? (·.lower? code) with
    | none => simp [found] at moved
    | some lower =>
      obtain ⟨run, listed, maps⟩ := List.exists_of_findSome?_eq_some found
      exact each run listed code lower maps

/-- A lower-case form is a character. -/
theorem isValidChar_lowerCode (c : Char) : (lowerCode c.toNat).isValidChar := by
  by_cases moved : lowerCode c.toNat = c.toNat
  · rw [moved]
    exact c.valid
  · refine @of_lowerCode_ne (fun _ lower => lower.isValidChar) (fun run listed code lower maps => ?_) _ moved
    obtain ⟨⟨low, high, -⟩, rfl⟩ := CaseRun.lower?_eq_some.mp maps
    have forms := (caseRuns_fit run listed).forms
    unfold CaseRun.lowerLast at forms
    unfold Nat.isValidChar
    omega

/-- A lower-case form is the code of a character. -/
theorem toNat_ofNat_lowerCode (c : Char) : (Char.ofNat (lowerCode c.toNat)).toNat = lowerCode c.toNat := by
  rw [Char.ofNat, dif_pos (isValidChar_lowerCode c)]
  rfl

/-- Case makes a difference to a code point that has a lower-case form other than itself, and to that form. -/
theorem isCaseful_of_lowerCode {code : Nat} (moved : lowerCode code ≠ code) :
    isCaseful code = true ∧ isCaseful (lowerCode code) = true := by
  exact @of_lowerCode_ne (fun code lower => isCaseful code = true ∧ isCaseful lower = true)
    (fun _ listed _ _ => isCaseful_of_run listed) _ moved

/-- Case makes a difference to a capital. -/
theorem isCaseful_of_mem_capitalsOf {code lower : Nat} (capital : code ∈ capitalsOf lower) :
    isCaseful code = true := by
  obtain ⟨run, listed, maps⟩ := List.mem_filterMap.mp capital
  have ascends := (caseRuns_fit run listed).ascends
  have form : run.lower? code = some lower := by
    simp only [CaseRun.upper?, Option.ite_none_right_eq_some, Option.some.injEq, Bool.and_eq_true,
      decide_eq_true_eq, beq_iff_eq] at maps
    obtain ⟨⟨⟨low, high⟩, stepped⟩, rfl⟩ := maps
    refine CaseRun.lower?_eq_some.mpr ⟨⟨by omega, by omega, ?_⟩, by omega⟩
    rwa [Nat.add_sub_cancel_left]
  exact (isCaseful_of_run listed form).1

/-- Case makes a difference to letters that share an upper-case form with others, and to those. -/
theorem isCaseful_of_partner {code partner : Nat} (shared : partner ∈ partnersOf code) :
    isCaseful code = true ∧ isCaseful partner = true := by
  have each : (upperPartners.all fun entry => (entry.1 :: entry.2).all fun code =>
      CodeRanges.areSpanned code code caseful.ranges) = true := by decide
  unfold partnersOf at shared
  cases found : upperPartners.lookup code with
  | none => simp [found] at shared
  | some partners =>
    rw [found, Option.getD_some] at shared
    obtain ⟨before, after, split, -⟩ := List.lookup_eq_some_iff.mp found
    have here := List.all_eq_true.mp each (code, partners) (by simp [split])
    have cased {letter : Nat} (one : letter ∈ code :: partners) : isCaseful letter = true :=
      CodeRanges.within_of_areSpanned (List.all_eq_true.mp here letter one) (Nat.le_refl _) (Nat.le_refl _)
    exact ⟨cased List.mem_cons_self, cased (List.mem_cons_of_mem _ shared)⟩

/-! ## Lower-case forms and classes -/

/-- A lower-case form beyond the first 2^16 code points has no lower-case form but itself. -/
theorem lowerCode_lowerCode {code : Nat} (high : 0xFFFF < lowerCode code) :
    lowerCode (lowerCode code) = lowerCode code := by
  by_cases moved : lowerCode code = code
  · rw [moved, moved]
  refine Decidable.byContradiction fun again => ?_
  -- A run that maps the form would have to end before the form or to begin behind it.
  have mapped : ∃ run ∈ caseRuns, 0xFFFF < run.lowerLast ∧ run.lower ≤ lowerCode code ∧
      lowerCode code ≤ run.lowerLast := by
    refine @of_lowerCode_ne (fun _ lower => 0xFFFF < lower → ∃ run ∈ caseRuns, 0xFFFF < run.lowerLast ∧
      run.lower ≤ lower ∧ lower ≤ run.lowerLast) (fun run listed code lower maps high => ?_) _ moved high
    obtain ⟨⟨low, last, -⟩, rfl⟩ := CaseRun.lower?_eq_some.mp maps
    unfold CaseRun.lowerLast
    exact ⟨run, listed, by omega, by omega, by omega⟩
  obtain ⟨run, listed, long, low, last⟩ := mapped
  refine @of_lowerCode_ne (fun lower _ => run.lower ≤ lower → lower ≤ run.lowerLast → False)
    (fun other listedOther lower _ mapsOther _ _ => ?_) _ again low last
  obtain ⟨⟨lowOther, lastOther, -⟩, -⟩ := CaseRun.lower?_eq_some.mp mapsOther
  have := ((caseRuns_fit run listed).settled.resolve_left (by omega)).2 other listedOther
  omega

/-- Letters beyond the first 2^16 code points share their upper-case forms with no others. -/
theorem partnersOf_eq_nil {lower : Nat} (high : 0xFFFF < lower) : partnersOf lower = [] := by
  have low : ∀ entry ∈ upperPartners, entry.1 ≤ 0xFFFF := by decide
  have unlisted : upperPartners.lookup lower = none := by
    refine List.lookup_eq_none_iff.mpr fun entry listed => ?_
    have := low entry listed
    simp only [bne_iff_ne, ne_eq]
    omega
  rw [partnersOf, unlisted]
  rfl

/-- The exceptions are one mark and the letters in circles. -/
theorem within_caseExceptions_iff {code : Nat} : CodeRanges.within caseExceptions code = true ↔
    code = 0x345 ∨ 9398 ≤ code ∧ code ≤ 9449 := by
  simp only [caseExceptions, CodeRanges.within]
  grind

/-- What case makes a difference to is a letter or a number, but for the exceptions, which are neither. -/
theorem contains_alphanumerics_of_isCaseful {code : Nat} (cased : isCaseful code = true) :
    alphanumerics.contains code = !CodeRanges.within caseExceptions code := by
  have placed : CodeRanges.areBetween caseExceptions alphanumerics.ranges = true ∧
      CodeRanges.areWithin (caseful.ranges.filter (!caseExceptions.contains ·)) alphanumerics.ranges = true ∧
      CodeRanges.areBetween (caseful.ranges.filter (!caseExceptions.contains ·)) caseExceptions = true := by
    decide
  obtain ⟨range, listed, low, high⟩ := CodeRanges.exists_of_within cased
  by_cases exceptional : range ∈ caseExceptions
  · have inside : CodeRanges.within caseExceptions code = true := by
      rw [within_caseExceptions_iff]
      simp only [caseExceptions, List.mem_cons, List.not_mem_nil, or_false] at exceptional
      rcases exceptional with rfl | rfl <;> simp only at low high <;> omega
    rw [inside, CodeRanges.contains, CodeRanges.not_within_of_areBetween placed.1 exceptional low high]
    rfl
  · have regular : range ∈ caseful.ranges.filter (!caseExceptions.contains ·) :=
      List.mem_filter.mpr ⟨listed, by simpa using exceptional⟩
    rw [CodeRanges.contains, CodeRanges.within_of_areWithin placed.2.1 regular low high,
      CodeRanges.not_within_of_areBetween placed.2.2 regular low high]
    rfl

/-- A lower-case form is an exception if its capital is one. -/
theorem within_caseExceptions_lowerCode {code : Nat} (moved : lowerCode code ≠ code) :
    CodeRanges.within caseExceptions (lowerCode code) = CodeRanges.within caseExceptions code := by
  refine @of_lowerCode_ne (fun code lower => CodeRanges.within caseExceptions lower =
    CodeRanges.within caseExceptions code) (fun run listed code lower maps => ?_) _ moved
  obtain ⟨⟨low, high, -⟩, rfl⟩ := CaseRun.lower?_eq_some.mp maps
  rw [Bool.eq_iff_iff, within_caseExceptions_iff, within_caseExceptions_iff]
  rcases (caseRuns_fit run listed).apart with ⟨first, last, form⟩ | apart
  · omega
  · have mark := apart (0x345, 0x345) (by simp [caseExceptions])
    have circles := apart (9398, 9449) (by simp [caseExceptions])
    unfold CaseRun.lowerLast at mark circles
    omega

/-- Whether a character belongs to a word does not depend on its case. -/
theorem isWord_lowerCode (c : Char) : isWord (Char.ofNat (lowerCode c.toNat)) = isWord c := by
  by_cases moved : lowerCode c.toNat = c.toNat
  · rw [moved, Char.ofNat_toNat]
  have own : isWord c = alphanumerics.contains c.toNat := by
    have other : (c == '_') = false := by
      refine beq_eq_false_iff_ne.mpr fun same => moved ?_
      subst same
      decide
    rw [isWord, other, Bool.false_or, isAlphanumeric_eq]
  have form : isWord (Char.ofNat (lowerCode c.toNat)) = alphanumerics.contains (lowerCode c.toNat) := by
    have other : (Char.ofNat (lowerCode c.toNat) == '_') = false := by
      refine beq_eq_false_iff_ne.mpr fun same => ?_
      have cased := (isCaseful_of_lowerCode moved).2
      rw [← toNat_ofNat_lowerCode, same] at cased
      exact absurd cased (by decide)
    rw [isWord, other, Bool.false_or, isAlphanumeric_eq, toNat_ofNat_lowerCode]
  have cased := isCaseful_of_lowerCode moved
  rw [own, form, contains_alphanumerics_of_isCaseful cased.1, contains_alphanumerics_of_isCaseful cased.2,
    within_caseExceptions_lowerCode moved]

/-! ## Agreement -/

/-- A code point to which case makes no difference agrees with itself alone. -/
theorem sameIgnoringCase_iff_eq {a b : Nat} (plain : isCaseful a = false ∨ isCaseful b = false) :
    sameIgnoringCase a b = true ↔ b = a := by
  constructor
  · intro same
    have still {code : Nat} (plain : isCaseful code = false) : lowerCode code = code := by
      by_cases moved : lowerCode code = code
      · exact moved
      · simp [(isCaseful_of_lowerCode moved).1] at plain
    have kept {code : Nat} (plain : isCaseful (lowerCode code) = false) : lowerCode code = code := by
      by_cases moved : lowerCode code = code
      · exact moved
      · simp [(isCaseful_of_lowerCode moved).2] at plain
    simp only [sameIgnoringCase, Bool.or_eq_true, beq_iff_eq, List.contains_iff_mem] at same
    rcases same with lower | shared
    · rcases plain with plain | plain
      · rw [still plain] at lower
        rw [lower] at plain
        rw [lower, kept plain]
      · rw [still plain] at lower
        rw [← lower] at plain
        rw [← lower, kept plain]
    · have both := isCaseful_of_partner shared
      rcases plain with plain | plain
      · simp [still plain, plain] at both
      · simp [still plain, plain] at both
  · rintro rfl
    simp [sameIgnoringCase]

/-- A pattern that ignores case compares characters by the case tables. -/
theorem sameCharacter_ignoreCase (code : Nat) (c : Char) :
    sameCharacter { ignoreCase := true } code c = sameIgnoringCase code c.toNat := by
  cases caseful : isCaseful code with
  | true =>
    have turned : (lowerCode c.toNat == lowerCode code) = (lowerCode code == lowerCode c.toNat) := by
      rw [Bool.eq_iff_iff, beq_iff_eq, beq_iff_eq, eq_comm]
    simp [sameCharacter, isCasefulUnder, caseful, lowerUnder, partnersUnder, sameIgnoringCase,
      turned]
  | false =>
    rw [Bool.eq_iff_iff, sameIgnoringCase_iff_eq (.inl caseful)]
    simp [sameCharacter, isCasefulUnder, caseful]

/-- White space and commas agree with no character of a word, case ignored. -/
theorem not_sameIgnoringCase_of_isWord {c d : Char} (word : isWord c = true)
    (other : isSpace d = true ∨ d = ',') : sameIgnoringCase c.toNat d.toNat = false := by
  have plain : isCaseful d.toNat = false ∧ isWord d = false := by
    rcases other with space | rfl
    · exact ⟨not_isCaseful_of_isSpace space, not_isWord_of_isSpace space⟩
    · decide
  rw [← Bool.not_eq_true, sameIgnoringCase_iff_eq (.inr plain.1)]
  intro same
  rw [Char.toNat_inj.mp same, word] at plain
  exact absurd plain.2 (by simp)

end LineGrammar.Text
