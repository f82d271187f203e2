import LineGrammar.Proofs.Pattern.Meaning
import LineGrammar.Proofs.Texts

/-!
# Words as branches

Words without regard to case are the branches of one group. Its language is that of the words, one by one,
as long as the branches stay a choice. They become one set when the words differ in their last characters
alone, and a set does not compare all characters as they are compared one by one: a capital beyond the first
2^16 code points stands for itself in it, while what it is compared with is in lower case.
-/

namespace LineGrammar

open LineGrammar.Text
open scoped Computability

/-! ## Sets of characters -/

namespace Text

/-- A code point is beyond the first 2^16 when its lower-case form is. -/
theorem lt_of_lt_lowerCode {code : Nat} (high : 0xFFFF < lowerCode code) : 0xFFFF < code := by
  by_cases moved : lowerCode code = code
  · rwa [moved] at high
  · refine @of_lowerCode_ne (fun code lower => 0xFFFF < lower → 0xFFFF < code)
      (fun run listed code lower maps high => ?_) _ moved high
    obtain ⟨⟨low, last, -⟩, rfl⟩ := CaseRun.lower?_eq_some.mp maps
    have settled := (caseRuns_fit run listed).settled
    unfold CaseRun.lowerLast at settled
    omega

/-- Beyond the first 2^16 code points, a lower-case form agrees with itself and its capital alone. -/
theorem sameIgnoringCase_of_high {a : Nat} (high : 0xFFFF < lowerCode a) (b : Nat) :
    sameIgnoringCase a b = (lowerCode a == lowerCode b) := by
  rw [sameIgnoringCase, partnersOf_eq_nil high]
  simp

end Text

namespace Pattern

/-- Without regard to case, a set finds a character of it in every character that agrees, unless it is a
capital beyond the first 2^16 code points. -/
theorem holdsLower_code (c d : Char) :
    SetItem.holdsLower { ignoreCase := true } (Char.ofNat (lowerUnder { ignoreCase := true } d.toNat))
      (.code c.toNat) = (sameIgnoringCase c.toNat d.toNat && !Texts.isHighCapital c) := by
  simp only [SetItem.holdsLower, toNat_ofNat_lowerUnder]
  simp only [lowerUnder, partnersUnder, Bool.false_eq_true, if_false]
  rw [Bool.eq_iff_iff]
  by_cases high : 0xFFFF < lowerCode c.toNat
  · rw [if_pos high, sameIgnoringCase_of_high high]
    simp only [Texts.isHighCapital, high, decide_true, Bool.true_and, Bool.and_eq_true, beq_iff_eq,
      Bool.not_eq_true', bne_eq_false_iff_eq]
    constructor
    · intro form
      have itself : lowerCode c.toNat = c.toNat := by
        rw [← form]
        exact lowerCode_lowerCode (form ▸ lt_of_lt_lowerCode high)
      exact ⟨itself.trans form.symm, itself⟩
    · rintro ⟨same, itself⟩
      exact same.symm.trans itself
  · rw [if_neg high]
    simp only [Texts.isHighCapital, high, decide_false, Bool.false_and, Bool.not_false, Bool.and_true,
      sameIgnoringCase, Bool.or_eq_true, beq_iff_eq]
    exact or_congr_left eq_comm

/-- Without regard to case, a set of several characters accepts what agrees with one of them that is no
capital beyond the first 2^16 code points. -/
theorem inSet_characters {characters : List Char}
    (several : ∀ point, (characters.map fun c => SetItem.code c.toNat).eraseDups ≠ [.code point]) (d : Char) :
    inSet { ignoreCase := true } false (characters.map fun c => SetItem.code c.toNat).eraseDups d = true ↔
      ∃ c ∈ characters, sameIgnoringCase c.toNat d.toNat = true ∧ Texts.isHighCapital c = false := by
  unfold inSet
  split
  · rename_i point single
    exact absurd single (several point)
  · simp only [Bool.true_and, Bool.bne_false]
    split
    · simp [holdsLower_code]
    · rename_i plain
      simp only [Bool.not_eq_true, List.any_eq_false, List.mem_eraseDups, List.mem_map,
        forall_exists_index, and_imp, forall_apply_eq_imp_iff₂, SetItem.isCaseful, SetItem.isCased,
        isCasefulUnder, lowerUnder, Bool.false_eq_true, if_false, Bool.or_eq_true, not_or] at plain
      simp only [List.any_eq_true, List.mem_eraseDups, List.mem_map, exists_exists_and_eq_and, SetItem.holds,
        beq_iff_eq]
      refine exists_congr fun c => and_congr_right fun inside => ?_
      obtain ⟨caseless, low⟩ := plain c inside
      rw [sameIgnoringCase_iff_eq (.inl (by simpa using caseless))]
      simp [Texts.isHighCapital, low]

end Pattern

/-! ## Where words part -/

namespace Texts

/-- What agrees with two texts in a row is two pieces that agree with them. -/
theorem agreeing_append (first second : List Char) :
    agreeing (first ++ second) = agreeing first * agreeing second := by
  ext text
  rw [mem_agreeing, Language.mem_mul]
  constructor
  · intro agree
    have front := List.forall₂_take first.length agree
    have behind := List.forall₂_drop first.length agree
    rw [List.take_left] at front
    rw [List.drop_left] at behind
    exact ⟨_, front, _, behind, List.take_append_drop _ _⟩
  · rintro ⟨front, same, behind, agree, rfl⟩
    exact List.rel_append same agree

variable {words : List String} {count : Nat}

/-- Words that are the same up to a place and go on in different ways there differ in their last
characters alone when each has one character from there on. -/
theorem differAtEnd_iff (same : ∃ front, ∀ word ∈ words, word.toList.take count = front)
    (part : ∀ c, ∃ word ∈ words, word.toList[count]? ≠ some c) :
    DifferAtEnd words ↔ ∀ word ∈ words, ∃ last, word.toList.drop count = [last] := by
  constructor
  · rintro ⟨⟨front, each⟩, word, listed, other, otherListed, apart⟩
    suffices front.length = count by
      intro word listed
      obtain ⟨last, cut⟩ := each word listed
      exact ⟨last, by rw [cut, ← this, List.drop_left]⟩
    by_contra different
    rcases Nat.lt_or_gt_of_ne different with short | long
    · -- Then both words end before they part, and so they are one.
      obtain ⟨common, taken⟩ := same
      have whole : ∀ word ∈ words, word.toList = common := by
        intro word listed
        obtain ⟨last, cut⟩ := each word listed
        rw [← taken word listed, List.take_of_length_le (by simpa [cut] using Nat.succ_le_of_lt short)]
      exact apart (String.toList_inj.mp ((whole word listed).trans (whole other otherListed).symm))
    · -- Then all words go on with the next character of what they have in common.
      obtain ⟨word, listed, unlike⟩ := part front[count]
      obtain ⟨last, cut⟩ := each word listed
      exact unlike (by rw [cut, List.getElem?_append_left long, List.getElem?_eq_getElem long])
  · intro single
    obtain ⟨front, taken⟩ := same
    obtain ⟨word, listed, -⟩ := part 'a'
    obtain ⟨last, ends⟩ := single word listed
    obtain ⟨other, otherListed, unlike⟩ := part last
    refine ⟨⟨front, fun word listed => ?_⟩, word, listed, other, otherListed, ?_⟩
    · obtain ⟨last, ends⟩ := single word listed
      exact ⟨last, by rw [← taken word listed, ← ends, List.take_append_drop]⟩
    · rintro rfl
      exact unlike (by rw [← List.head?_drop, ends]; rfl)

/-- A word is lost when all words have one character from there on and that of the word is a capital beyond
the first 2^16 code points. -/
theorem isLost_iff (same : ∃ front, ∀ word ∈ words, word.toList.take count = front)
    (part : ∀ c, ∃ word ∈ words, word.toList[count]? ≠ some c) {word : String} (listed : word ∈ words) :
    IsLost words word ↔ (∀ word ∈ words, ∃ last, word.toList.drop count = [last]) ∧
      ∃ last ∈ (word.toList.drop count).getLast?, isHighCapital last = true := by
  rw [IsLost, differAtEnd_iff same part]
  refine and_congr_right fun single => ?_
  obtain ⟨last, ends⟩ := single word listed
  have long : ¬word.toList.length ≤ count := by
    have := congrArg List.length ends
    simp only [List.length_drop, List.length_singleton] at this
    omega
  rw [List.getLast?_drop, if_neg long]

end Texts

/-! ## The branches of words -/

namespace Pattern

/-- The node of a word. -/
def Node.ofWord (word : List Char) : Node := .ofSequence (word.map fun c => .character c.toNat)

/-- The parts of a sequence of leaves are the leaves. -/
theorem Node.parts_ofSequence {nodes : List Node} (leaves : ∀ node ∈ nodes, node.isLeaf = true) :
    (Node.ofSequence nodes).parts = nodes := by
  have own {node : Node} (leaf : node.isLeaf = true) : node.parts = [node] := by
    cases node with
    | empty => cases leaf
    | sequence => cases leaf
    | _ => rfl
  fun_induction Node.ofSequence nodes with
  | case1 => rfl
  | case2 node => exact own (leaves node List.mem_cons_self)
  | case3 node rest _ ih =>
    rw [parts, own (leaves node List.mem_cons_self),
      ih fun other listed => leaves other (List.mem_cons_of_mem node listed)]
    rfl

/-- The parts of a word are its characters. -/
@[simp] theorem Node.parts_ofWord (word : List Char) :
    (Node.ofWord word).parts = word.map fun c => .character c.toNat :=
  parts_ofSequence (by simp [isLeaf])

/-- A word begins with no set. -/
theorem Node.KeepsLead.ofWord (word : List Char) (on : Switches) : (Node.ofWord word).KeepsLead on := by
  refine .ofSequence fun node listed => ?_
  obtain ⟨c, -, rfl⟩ := List.mem_map.mp listed
  exact .leaf rfl

/-- A word in upper or lower case. -/
theorem Recognizes.word (word : List Char) :
    Recognizes { ignoreCase := true } (.ofWord word) (Texts.agreeing word) := by
  induction word with
  | nil =>
    have same : Texts.agreeing [] = 1 := by
      ext piece
      simp [Language.mem_one]
    exact same ▸ Recognizes.empty
  | cons c rest ih =>
    have own : Texts.agreeing [c] = single (sameCharacter { ignoreCase := true } c.toNat) := by
      ext piece
      simp only [Texts.mem_agreeing, mem_single, sameCharacter_ignoreCase, List.forall₂_cons_left_iff,
        List.forall₂_nil_left_iff, exists_eq_left, exists_and_left]
    rw [← List.singleton_append, Texts.agreeing_append, own]
    intro text place next
    rw [Node.ofWord, List.map_append, Node.ways_ofSequence_append]
    exact ((Recognizes.character c.toNat) text).flatMap (ih text) place next

/-- Words amount to members of a set when each is one character, which is then the member. -/
theorem Node.mapM_members? {endings : List (List Char)} {members : List (List SetItem)} :
    (endings.map fun ending => ending.map fun c => Node.character c.toNat).mapM members? = some members ↔
      ∃ lasts : List Char, endings = lasts.map ([·]) ∧ members = lasts.map fun c => [.code c.toNat] := by
  rw [mapM_eq_some, List.forall₂_map_left_iff]
  constructor
  · intro each
    induction each with
    | nil => exact ⟨[], rfl, rfl⟩
    | @cons ending items endings members own _ ih =>
      obtain ⟨lasts, rfl, rfl⟩ := ih
      match ending, own with
      | [last], own => exact ⟨last :: lasts, rfl, by rw [← Option.some.inj own]; rfl⟩
  · rintro ⟨lasts, rfl, rfl⟩
    rw [List.forall₂_map_left_iff, List.forall₂_map_right_iff, List.forall₂_same]
    exact fun last _ => rfl

/-- A choice recognizes what one of its branches recognizes. -/
theorem Recognizes.ofChoices {α : Type} {on : Switches} {values : List α} {node : α → Node}
    {pieces : α → Language Char} {whole : Language Char} (some : values ≠ [])
    (each : ∀ value ∈ values, Recognizes on (node value) (pieces value))
    (any : ∀ text, text ∈ whole ↔ ∃ value ∈ values, text ∈ pieces value) :
    Recognizes on (.ofChoices (values.map node)) whole := by
  induction values generalizing whole with
  | nil => contradiction
  | cons value rest ih =>
    have own := each value List.mem_cons_self
    cases rest with
    | nil =>
      obtain rfl : whole = pieces value := by
        ext text
        simp [any]
      exact own
    | cons other rest =>
      obtain ⟨behind, isBehind⟩ : ∃ behind : Language Char, ∀ text, text ∈ behind ↔
          ∃ value ∈ other :: rest, text ∈ pieces value :=
        ⟨{text | ∃ value ∈ other :: rest, text ∈ pieces value}, fun _ => Iff.rfl⟩
      have others := ih (by simp) (fun value listed => each value (List.mem_cons_of_mem _ listed)) isBehind
      obtain rfl : whole = pieces value + behind := by
        ext text
        rw [any, List.exists_mem_cons_iff, Language.mem_add, isBehind]
      exact own.choice others

/-- Behind what words have in common, each is found as it is, unless it is one character of several and
lost among them. -/
theorem Recognizes.endings {endings : List (List Char)} {whole : Language Char}
    (part : ∀ c, ∃ ending ∈ endings, ending.head? ≠ some c)
    (any : ∀ text, text ∈ whole ↔ ∃ ending ∈ endings, text ∈ Texts.agreeing ending ∧
      ¬((∀ ending ∈ endings, ∃ last, ending = [last]) ∧
        ∃ last ∈ ending.getLast?, Texts.isHighCapital last = true)) :
    Recognizes { ignoreCase := true }
      (.ofEndings (endings.map fun ending => ending.map fun c => .character c.toNat)) whole := by
  unfold Node.ofEndings
  split
  · rename_i members taken
    obtain ⟨lasts, rfl, rfl⟩ := Node.mapM_members?.mp taken
    have listed : (lasts.map fun c => [SetItem.code c.toNat]).flatten = lasts.map fun c => .code c.toNat := by
      rw [← List.flatMap_def, List.map_eq_flatMap]
    have several (point : Nat) :
        (lasts.map fun c => SetItem.code c.toNat).eraseDups ≠ [.code point] := by
      intro single
      have only {c : Char} (inside : c ∈ lasts) : c.toNat = point := by
        have member : SetItem.code c.toNat ∈ (lasts.map fun c => SetItem.code c.toNat).eraseDups := by
          simpa using ⟨c, inside, rfl⟩
        simpa [single] using member
      obtain ⟨ending, here, -⟩ := part 'a'
      obtain ⟨c, inside, rfl⟩ := List.mem_map.mp here
      obtain ⟨other, here, unlike⟩ := part c
      obtain ⟨d, other, rfl⟩ := List.mem_map.mp here
      exact unlike (congrArg some (Char.toNat_inj.mp ((only other).trans (only inside).symm)))
    have same : whole = single (inSet { ignoreCase := true } false
        (lasts.map fun c => SetItem.code c.toNat).eraseDups) := by
      ext text
      rw [any, mem_single]
      simp only [inSet_characters several]
      constructor
      · rintro ⟨ending, here, agree, found⟩
        obtain ⟨c, inside, rfl⟩ := List.mem_map.mp here
        obtain ⟨d, rest, alike, rest_nil, rfl⟩ := List.forall₂_cons_left_iff.mp agree
        obtain rfl := List.forall₂_nil_left_iff.mp rest_nil
        refine ⟨d, ⟨c, inside, alike, ?_⟩, rfl⟩
        by_contra high
        exact found ⟨by simp, c, rfl, by simpa using high⟩
      · rintro ⟨d, ⟨c, inside, alike, low⟩, rfl⟩
        refine ⟨[c], List.mem_map_of_mem inside, .cons alike .nil, ?_⟩
        rintro ⟨-, last, isLast, high⟩
        obtain rfl : c = last := by simpa using isLast
        rw [low] at high
        cases high
    rw [listed, same]
    exact Recognizes.set _ _
  · rename_i none
    have notAll : ¬∀ ending ∈ endings, ∃ last, ending = [last] := by
      intro all
      obtain ⟨lasts, rfl⟩ : endings ∈ Set.range (List.map fun last : Char => [last]) := by
        rw [Set.range_list_map]
        exact fun ending listed => (all ending listed).imp fun last is => is.symm
      rw [Node.mapM_members?.mpr ⟨lasts, rfl, rfl⟩] at none
      cases none
    rw [List.map_map]
    refine Recognizes.ofChoices ?_ (fun ending _ => Recognizes.word ending) fun text => ?_
    · obtain ⟨ending, listed, -⟩ := part 'a'
      exact List.ne_nil_of_mem listed
    · simp [any, notAll]

/-- Words have the characters before a place in common, and do not all go on with the same one. -/
theorem Node.sharedParts_words (first : String) (others : List String) {count : Nat}
    (isCount : count = sharedParts (Node.ofWord first.toList).parts
      (others.map fun word => (Node.ofWord word.toList).parts)) :
    (∀ word ∈ first :: others, word.toList.take count = first.toList.take count) ∧
      ∀ c, ∃ word ∈ first :: others, word.toList[count]? ≠ some c := by
  have points : Function.Injective fun c : Char => Node.character c.toNat := fun c d same =>
    Char.toNat_inj.mp (Node.character.inj same)
  constructor
  · have shared := (sharedParts_spec (ofWord first.toList).parts
      (others.map fun word => (ofWord word.toList).parts)).2
    rw [← isCount] at shared
    refine List.forall_mem_cons.mpr ⟨rfl, fun word listed => List.map_injective_iff.mpr points ?_⟩
    simpa [← List.map_take] using shared _ (List.mem_map_of_mem listed)
  · intro c
    by_contra same
    push Not at same
    have next (word : String) (listed : word ∈ first :: others) :
        ((ofWord word.toList).parts.drop count).head? = some (character c.toNat) := by
      simp [List.head?_drop, same word listed]
    obtain ⟨parts, listed, apart⟩ := sharedParts_stops (ofWord first.toList).parts
      (others.map fun word => (ofWord word.toList).parts) (isCount ▸ next first List.mem_cons_self) rfl
    obtain ⟨word, inside, rfl⟩ := List.mem_map.mp listed
    exact apart (isCount ▸ next word (List.mem_cons_of_mem first inside))

/-- Words without regard to case are found among the branches of a group, unless they are lost. -/
theorem Recognizes.words {words : List String} (some : words ≠ []) :
    Recognizes { ignoreCase := true } (.ofBranches (words.map fun word => .ofWord word.toList))
      (Texts.oneOf words) := by
  match words, some with
  | [word], _ =>
    have same : Texts.oneOf [word] = Texts.agreeing word.toList := by
      ext piece
      simp [Texts.IsLost, Texts.DifferAtEnd]
    exact same ▸ Recognizes.word word.toList
  | first :: second :: others, _ =>
    obtain ⟨count, isCount⟩ : ∃ count, count = Node.sharedParts (Node.ofWord first.toList).parts
      ((second :: others).map fun word => (Node.ofWord word.toList).parts) := ⟨_, rfl⟩
    obtain ⟨shared, part⟩ := Node.sharedParts_words first (second :: others) isCount
    have branches : Node.ofBranches ((first :: second :: others).map fun word => .ofWord word.toList) =
        .ofSequence (((first.toList.take count).map fun c => .character c.toNat) ++
          [.ofEndings (((first :: second :: others).map fun word => word.toList.drop count).map
            fun ending => ending.map fun c => .character c.toNat)]) := by
      rw [isCount]
      simp [Node.ofBranches, List.map_take, List.map_drop, Function.comp_def]
    obtain ⟨behind, isBehind⟩ : ∃ behind : Language Char, ∀ text, text ∈ behind ↔
        ∃ word ∈ first :: second :: others, text ∈ Texts.agreeing (word.toList.drop count) ∧
          ¬Texts.IsLost (first :: second :: others) word :=
      ⟨{text | ∃ word ∈ first :: second :: others, text ∈ Texts.agreeing (word.toList.drop count) ∧
          ¬Texts.IsLost (first :: second :: others) word}, fun _ => Iff.rfl⟩
    have whole : Texts.oneOf (first :: second :: others) =
        Texts.agreeing (first.toList.take count) * behind := by
      ext text
      rw [Texts.mem_oneOf, Language.mem_mul]
      constructor
      · rintro ⟨word, listed, agree, found⟩
        rw [← List.take_append_drop count word.toList, shared word listed, Texts.agreeing_append,
          Language.mem_mul] at agree
        obtain ⟨front, inFront, rest, inRest, rfl⟩ := agree
        exact ⟨front, inFront, rest, (isBehind rest).mpr ⟨word, listed, inRest, found⟩, rfl⟩
      · rintro ⟨front, inFront, rest, inBehind, rfl⟩
        obtain ⟨word, listed, inRest, found⟩ := (isBehind rest).mp inBehind
        refine ⟨word, listed, ?_, found⟩
        rw [← List.take_append_drop count word.toList, shared word listed, Texts.agreeing_append]
        exact Language.append_mem_mul inFront inRest
    have endings : Recognizes { ignoreCase := true } (.ofEndings
        (((first :: second :: others).map fun word => word.toList.drop count).map
            fun ending => ending.map fun c => .character c.toNat)) behind := by
      refine Recognizes.endings (fun c => ?_) fun text => ?_
      · obtain ⟨word, listed, unlike⟩ := part c
        exact ⟨_, List.mem_map_of_mem listed, by rwa [List.head?_drop]⟩
      · rw [isBehind, List.forall_mem_map]
        simp only [List.mem_map, exists_exists_and_eq_and]
        exact exists_congr fun word => and_congr_right fun listed =>
          and_congr_right fun _ => not_congr (Texts.isLost_iff ⟨_, shared⟩ part listed)
    rw [branches, whole]
    intro text place next
    rw [Node.ways_ofSequence_append]
    exact ((Recognizes.word _) text).flatMap (endings text) place next

/-! ## The text of words -/

/-- An escaped word spells its characters. -/
theorem Spells.word (word : List Char) : Spells (escapedChars word) 0
    fun _ => (word.map fun c => (Node.character c.toNat, Standing.operand)).reverse := by
  induction word with
  | nil => exact Spells.nil
  | cons c rest ih => simpa [escapedChars] using (Operand.character c).spells.append ih

/-- The items of an escaped word are its node. -/
@[simp] theorem Node.ofItems_word (word : List Char) :
    Node.ofItems (word.map fun c => (Node.character c.toNat, Standing.operand)).reverse = .ofWord word := by
  simp [ofItems, ofWord, Function.comp_def]

/-- Escaped words between bars are the branches of a group. -/
theorem Branches.words (first : String) (others : List String) :
    Branches ("|".intercalate ((first :: others).map escaped)).toList 0
      fun _ => (first :: others).map fun word => .ofWord word.toList := by
  induction others generalizing first with
  | nil => simpa [escaped] using Branches.one (Spells.word first.toList)
  | cons second others ih => simpa [escaped] using Branches.cons (Spells.word first.toList) (ih second)

end Pattern

end LineGrammar
