import LineGrammar.Fragment
import LineGrammar.Proofs.Pattern.Greedy
import LineGrammar.Proofs.Scans

/-!
# The pattern of a token

The tokens of a segment can also be found by a pattern: a choice between a name with five optional parts
and any other run without white space. The pattern tries its ways in order and may give up what it has
taken, so it is not evident that it takes each part whenever it is complete, and the longest runs. It
does: its first way from a place is over what the rules of a scan take there, with the parts noted, and
it has no way where they take nothing.
-/

namespace LineGrammar

open LineGrammar.Text LineGrammar.Pattern

deriving instance DecidableEq for Node
deriving instance DecidableEq for Pattern

namespace Token

/-! ## The tree of the pattern -/

/-- A noted run between two brackets. -/
def enclosedNode (opening closing : Char) (index : Nat) (negated : Bool) (items : List SetItem) : Node :=
  .sequence (.character opening.toNat)
    (.sequence (.capture index (.someOf negated items)) (.character closing.toNat))

def sigilNode : Node := .capture 1 (.set false [.code '+'.toNat, .code ':'.toNat, .code '*'.toNat])

def nameNode : Node := .capture 2 (.someOf false [.category .word false])

def remarkNode : Node := enclosedNode '<' '>' 3 true [.code '>'.toNat]

def typeNode : Node :=
  .sequence (.character '@'.toNat)
    (.capture 4 (.someOf false [.category .word false, .code '+'.toNat, .code '-'.toNat]))

def choicesNode : Node := enclosedNode '\x7b' '\x7d' 5 false [.category .word false, .code ','.toNat]

def symbolNode : Node := .capture 6 (.someOf false [.category .space true])

/-- A name from its first character on. -/
def namedNode : Node :=
  .sequence nameNode (.sequence (.maybe remarkNode) (.sequence (.maybe typeNode) (.maybe choicesNode)))

def node : Node := .choice (.sequence (.maybe sigilNode) namedNode) symbolNode

/-- The pattern of a token, as it is read. -/
def pattern : Pattern := ⟨Fragment.token, .none, node, 6, []⟩

/-- The pattern of a token is read from its fragment. -/
theorem read_token : Pattern.read Fragment.token .none = .ok pattern :=
  Except.eq_ok_of_toOption (by decide +kernel)

/-- Where case counts, a character is the same as itself alone. -/
theorem sameCharacter_none (c : Char) : sameCharacter .none c.toNat = (· == c) := by
  funext d
  rw [Bool.eq_iff_iff]
  simp [sameCharacter, Switches.none, Char.toNat_inj]

/-- The first set of the pattern holds the characters of words. -/
theorem inSet_word : inSet .none false [.category .word false] = isWord := by
  funext c
  simp [inSet, Switches.none, SetItem.holds, Category.holds]

/-- The set in an annotation holds all but the bracket that ends it. -/
theorem inSet_notClosing : inSet .none true [.code '>'.toNat] = (· != '>') := by
  funext c
  change (sameCharacter .none '>'.toNat c != true) = (c != '>')
  rw [sameCharacter_none]
  simp [bne]

/-- The set in a type holds the characters of its name. -/
theorem inSet_typeCharacter :
    inSet .none false [.category .word false, .code '+'.toNat, .code '-'.toNat] = isTypeCharacter := by
  funext c
  rw [Bool.eq_iff_iff]
  simp [inSet, Switches.none, SetItem.holds, Category.holds, isTypeCharacter, ← Char.toNat_inj, or_assoc]

/-- The set in choices holds the characters of words and commas. -/
theorem inSet_choiceCharacter :
    inSet .none false [.category .word false, .code ','.toNat] = isChoiceCharacter := by
  funext c
  rw [Bool.eq_iff_iff]
  simp [inSet, Switches.none, SetItem.holds, Category.holds, isChoiceCharacter, ← Char.toNat_inj]

/-- The set of a symbol holds all but white space. -/
theorem inSet_visible : inSet .none false [.category .space true] = (!isSpace ·) := by
  funext c
  simp [inSet, Switches.none, SetItem.holds, Category.holds]

/-- The set before a name holds the sigils. -/
theorem inSet_sigil {c : Char} :
    inSet .none false [.code '+'.toNat, .code ':'.toNat, .code '*'.toNat] c = true ↔ IsSigil c := by
  simp [inSet, Switches.none, SetItem.holds, IsSigil, ← Char.toNat_inj]

variable {text : Array Char} {place : Place} {rest content : List Char} {part : Option (List Char)}

/-! ## The first ways of the parts -/

/-- A character that is ahead is taken. -/
theorem ways_character_cons {c : Char} (here : place.ahead text = c :: rest) :
    (Node.character c.toNat).ways text .none place = [place.after 1] := by
  simp only [Node.ways, Ways.consume_cons here, sameCharacter_none, beq_self_eq_true, if_true]

/-- A character leads nowhere but over itself. -/
theorem ahead_of_ways_character {c : Char} {next : Place}
    (listed : next ∈ (Node.character c.toNat).ways text .none place) :
    ∃ rest, place.ahead text = c :: rest ∧ next = place.after 1 := by
  rw [Node.ways] at listed
  cases here : place.ahead text with
  | nil =>
    rw [Ways.consume_nil here] at listed
    cases listed
  | cons d rest =>
    rw [Ways.consume_cons here, sameCharacter_none] at listed
    split at listed
    · rename_i same
      obtain rfl := beq_iff_eq.mp same
      exact ⟨rest, rfl, List.mem_singleton.mp listed⟩
    · cases listed

/-- A complete part in brackets is taken up to its first closing bracket. -/
theorem head?_enclosedNode {opening closing : Char} {negated : Bool} {items : List SetItem} (index : Nat)
    (apart : inSet .none negated items closing = false)
    (is : Enclosed opening closing (inSet .none negated items) (place.ahead text) content rest) :
    ((enclosedNode opening closing index negated items).ways text .none place).head? =
      some (place.noting index 1 content 1) := by
  have inside := Place.ahead_after_one is.whole
  have run : LongestRun (inSet .none negated items) content (closing :: rest) := by
    refine ⟨is.nonempty, is.each, ?_⟩
    rintro c ⟨⟩
    exact apart
  have ends : ((place.after 1).noting index 0 content 0).ahead text = closing :: rest := by
    change ((place.after 1).after content.length).ahead text = closing :: rest
    rw [Place.ahead_after, inside, List.drop_left]
  have opened : ((Node.character opening.toNat).ways text .none place).head? = some (place.after 1) := by
    rw [ways_character_cons is.whole, List.head?_cons]
  have taken := Node.head?_capture_someOf index (by rw [inside, run.takeWhile_eq]) is.nonempty
  have closed : ((Node.character closing.toNat).ways text .none
      ((place.after 1).noting index 0 content 0)).head? = some (place.noting index 1 content 1) := by
    rw [ways_character_cons ends, List.head?_cons]
    rfl
  exact Node.head?_sequence opened (Node.head?_sequence taken closed)

/-- An incomplete part in brackets cannot be taken in any way. -/
theorem ways_enclosedNode_eq_nil {opening closing : Char} {negated : Bool} {items : List SetItem}
    (index : Nat)
    (incomplete : ∀ content rest,
      ¬Enclosed opening closing (inSet .none negated items) (place.ahead text) content rest) :
    (enclosedNode opening closing index negated items).ways text .none place = [] := by
  rw [List.eq_nil_iff_forall_not_mem]
  intro next listed
  obtain ⟨first, opened, listed⟩ := List.mem_flatMap.mp listed
  obtain ⟨inside, here, rfl⟩ := ahead_of_ways_character opened
  obtain ⟨second, noted, listed⟩ := List.mem_flatMap.mp listed
  obtain ⟨third, taken, rfl⟩ := List.mem_map.mp noted
  obtain ⟨rest, ends, -⟩ := ahead_of_ways_character listed
  rw [Node.ways_someOf] at taken
  obtain ⟨count, bounded, rfl⟩ := List.mem_map.mp taken
  have behind := Place.ahead_after_one here
  rw [List.mem_reverse, List.mem_range, behind] at bounded
  have cut : inside.drop (count + 1) = closing :: rest := by
    rw [← behind, ← Place.ahead_after]
    exact ends
  -- Any number of admitted characters with the closing bracket behind them is a complete part.
  refine incomplete (inside.take (count + 1)) rest ⟨?_, ?_, ?_⟩
  · intro empty
    rcases List.take_eq_nil_iff.mp empty with zero | none
    · cases zero
    · rw [none] at bounded
      cases bounded
  · intro c member
    have early : c ∈ inside.takeWhile (inSet .none negated items) := by
      have initial := List.takeWhile_prefix (inSet .none negated items) (l := inside)
      rw [List.prefix_iff_eq_take.mp initial]
      exact List.take_subset_take_left inside bounded member
    exact List.all_eq_true.mp List.all_takeWhile c early
  · rw [here, ← cut, List.take_append_drop]

/-- A type is taken as far as it goes. -/
theorem head?_typeNode (is : IsType (place.ahead text) content rest) :
    (typeNode.ways text .none place).head? = some (place.noting 4 1 content 0) := by
  have inside := Place.ahead_after_one is.whole
  have opened : ((Node.character '@'.toNat).ways text .none place).head? = some (place.after 1) := by
    rw [ways_character_cons is.whole, List.head?_cons]
  refine Node.head?_sequence opened (Node.head?_capture_someOf 4 ?_ is.run.nonempty)
  rw [inSet_typeCharacter, inside, is.run.takeWhile_eq]

/-- There is no way over a type where none begins. -/
theorem ways_typeNode_eq_nil (incomplete : ∀ content rest, ¬IsType (place.ahead text) content rest) :
    typeNode.ways text .none place = [] := by
  rw [List.eq_nil_iff_forall_not_mem]
  intro next listed
  obtain ⟨first, opened, listed⟩ := List.mem_flatMap.mp listed
  obtain ⟨inside, here, rfl⟩ := ahead_of_ways_character opened
  have behind := Place.ahead_after_one here
  by_cases empty : inside.takeWhile isTypeCharacter = []
  · obtain ⟨second, taken, -⟩ := List.mem_map.mp listed
    rw [Node.ways_someOf_eq_nil (by rw [inSet_typeCharacter, behind, empty])] at taken
    cases taken
  · exact incomplete _ _ ⟨by rw [here, List.takeWhile_append_dropWhile], LongestRun.of_takeWhile empty⟩

/-- An optional part is passed first of all if it is complete: it is taken, and what it holds is noted. -/
structure Passed (text : Array Char) (body : Node) (place : Place) (index lead tail : Nat)
    (part : Option (List Char)) (rest : List Char) : Prop where
  way : ((Node.maybe body).ways text .none place).head? = some (place.passing index lead tail part)
  ahead : (place.passing index lead tail part).ahead text = rest
  held : ∀ content ∈ part, content <+: (place.ahead text).drop lead

/-- An optional part is passed when it is taken where it is complete, and has no way where it is not. -/
theorem Passed.of_ifComplete {complete : List Char → List Char → List Char → Prop} {body : Node}
    {index lead tail : Nat} (is : IfComplete complete (place.ahead text) part rest)
    (taken : ∀ {content rest}, complete (place.ahead text) content rest →
      (body.ways text .none place).head? = some (place.noting index lead content tail))
    (left : (∀ content rest, ¬complete (place.ahead text) content rest) →
      body.ways text .none place = [])
    (shape : ∀ {content rest}, complete (place.ahead text) content rest → ∃ before after,
      before.length = lead ∧ after.length = tail ∧ place.ahead text = before ++ (content ++ (after ++ rest))) :
    Passed text body place index lead tail part rest := by
  cases is with
  | complete is =>
    obtain ⟨before, after, rfl, rfl, whole⟩ := shape is
    refine ⟨?_, ?_, ?_⟩
    · rw [Node.ways_maybe, List.head?_append, taken is]
      rfl
    · rw [Place.passing, Place.ahead_noting, whole, ← List.length_append, ← List.append_assoc,
        ← List.append_assoc, ← List.length_append, List.drop_left]
    · rintro content ⟨⟩
      rw [whole, List.drop_left]
      exact List.prefix_append _ _
  | incomplete none =>
    refine ⟨?_, rfl, ?_⟩
    · rw [Node.ways_maybe, left none]
      rfl
    · rintro content ⟨⟩

/-- An annotation is passed. -/
theorem passed_remark (is : IfComplete IsRemark (place.ahead text) part rest) :
    Passed text remarkNode place 3 1 1 part rest := by
  rw [IsRemark, ← inSet_notClosing] at is
  refine .of_ifComplete is (head?_enclosedNode 3 (by decide)) (ways_enclosedNode_eq_nil 3) ?_
  intro content rest is
  exact ⟨['<'], ['>'], rfl, rfl, is.whole⟩

/-- Choices are passed. -/
theorem passed_choices (is : IfComplete IsChoices (place.ahead text) part rest) :
    Passed text choicesNode place 5 1 1 part rest := by
  rw [IsChoices, ← inSet_choiceCharacter] at is
  refine .of_ifComplete is (head?_enclosedNode 5 (by decide)) (ways_enclosedNode_eq_nil 5) ?_
  intro content rest is
  exact ⟨['\x7b'], ['\x7d'], rfl, rfl, is.whole⟩

/-- A type is passed. -/
theorem passed_type (is : IfComplete IsType (place.ahead text) part rest) :
    Passed text typeNode place 4 1 0 part rest := by
  refine .of_ifComplete is head?_typeNode ways_typeNode_eq_nil ?_
  intro content rest is
  exact ⟨['@'], [], rfl, rfl, is.whole⟩

/-! ## The first ways of pieces -/

/-- A sigil leads over itself, and nothing else does. -/
theorem ways_sigilNode {c : Char} (here : place.ahead text = c :: rest) :
    (IsSigil c → sigilNode.ways text .none place = [place.noting 1 0 [c] 0]) ∧
      (¬IsSigil c → sigilNode.ways text .none place = []) := by
  have ways : sigilNode.ways text .none place =
      (Ways.consume text (inSet .none false [.code '+'.toNat, .code ':'.toNat, .code '*'.toNat]) place).map
        fun next => { next with groups := (1, place.position, next.position) :: next.groups } := rfl
  rw [ways, Ways.consume_cons here]
  constructor
  · intro is
    rw [if_pos (inSet_sigil.mpr is)]
    rfl
  · intro isNot
    rw [if_neg (fun is => isNot (inSet_sigil.mp is))]
    rfl

/-- A name begins with a word character. -/
theorem exists_word_of_ways_namedNode {next : Place} (listed : next ∈ namedNode.ways text .none place) :
    ∃ c rest, place.ahead text = c :: rest ∧ isWord c = true := by
  obtain ⟨first, named, -⟩ := List.mem_flatMap.mp listed
  obtain ⟨second, taken, -⟩ := List.mem_map.mp named
  cases here : place.ahead text with
  | nil =>
    rw [Node.ways_someOf_eq_nil (by rw [here]; rfl)] at taken
    cases taken
  | cons c rest =>
    by_cases word : isWord c = true
    · exact ⟨c, rest, rfl, word⟩
    · rw [Node.ways_someOf_eq_nil (by rw [inSet_word, here, List.takeWhile_cons_of_neg word])] at taken
      cases taken

/-- Where no name begins, there is no way over one, with or without a sigil. -/
theorem ways_named_eq_nil (other : ¬BeginsName (place.ahead text)) :
    (Node.sequence (.maybe sigilNode) namedNode).ways text .none place = [] := by
  rw [List.eq_nil_iff_forall_not_mem]
  intro next listed
  obtain ⟨first, passed, named⟩ := List.mem_flatMap.mp listed
  obtain ⟨c, rest, here, word⟩ := exists_word_of_ways_namedNode named
  rw [Node.ways_maybe] at passed
  rcases List.mem_append.mp passed with taken | left
  · cases begins : place.ahead text with
    | nil =>
      obtain ⟨second, consumed, -⟩ := List.mem_map.mp taken
      rw [Node.ways, Ways.consume_nil begins] at consumed
      cases consumed
    | cons s behind =>
      by_cases is : IsSigil s
      · rw [(ways_sigilNode begins).1 is, List.mem_singleton] at taken
        rw [taken, Place.ahead_noting, begins] at here
        refine other ⟨some s, c, rest, ?_, ?_, word⟩
        · rw [begins]
          exact congrArg (s :: ·) here
        · rintro _ ⟨⟩
          exact is
      · rw [(ways_sigilNode begins).2 is] at taken
        cases taken
  · rw [List.mem_singleton.mp left] at here
    exact other ⟨none, c, rest, here, by simp, word⟩

/-- The piece that the parts of a match make. -/
def Piece.ofParts (part? : Nat → Option (List Char)) : Piece :=
  match part? 6 with
  | some content => .symbol content
  | none => .named ((part? 1).bind List.head?) ((part? 2).getD []) (part? 3) (part? 4) (part? 5)

/-- A sigil is passed where a name begins behind it. -/
theorem passed_sigil {sigil : Option Char} {c : Char} (isSigil : ∀ s ∈ sigil, IsSigil s)
    (word : isWord c = true) (here : place.ahead text = sigil.toList ++ c :: rest) :
    Passed text sigilNode place 1 0 0 (sigil.map fun s => [s]) (c :: rest) := by
  cases sigil with
  | none =>
    have noSigil : ¬IsSigil c := by
      intro is
      rw [is.apart.1] at word
      cases word
    refine ⟨?_, here, ?_⟩
    · rw [Node.ways_maybe, (ways_sigilNode here).2 noSigil]
      rfl
    · rintro content ⟨⟩
  | some s =>
    refine ⟨?_, ?_, ?_⟩
    · rw [Node.ways_maybe, (ways_sigilNode here).1 (isSigil s rfl)]
      rfl
    · rw [Option.map_some, Place.passing, Place.ahead_noting, here]
      rfl
    · rintro content ⟨⟩
      rw [here]
      exact ⟨c :: rest, rfl⟩

/-- The first way over a name takes the whole name and each complete part, and notes them. -/
theorem head?_namedNode {name afterName afterRemark afterType : List Char}
    {remark type choices : Option (List Char)} (here : place.ahead text = name ++ afterName)
    (isName : LongestRun isWord name afterName) (isRemark : IfComplete IsRemark afterName remark afterRemark)
    (isType : IfComplete IsType afterRemark type afterType)
    (isChoices : IfComplete IsChoices afterType choices rest)
    (fresh : ∀ index ≠ 1, place.part? text index = none) :
    ∃ next, (namedNode.ways text .none place).head? = some next ∧ next.ahead text = rest ∧
      Piece.ofParts (next.part? text) =
        .named ((place.part? text 1).bind List.head?) name remark type choices := by
  generalize second_eq : place.noting 2 0 name 0 = second
  have atSecond : second.ahead text = afterName := by
    rw [← second_eq, Place.ahead_noting, here, Nat.zero_add, Nat.add_zero, List.drop_left]
  have namePassed : (nameNode.ways text .none place).head? = some second := by
    rw [← second_eq]
    exact Node.head?_capture_someOf 2 (by rw [inSet_word, here, isName.takeWhile_eq]) isName.nonempty
  have nameHeld : name <+: (place.ahead text).drop 0 := by
    rw [here]
    exact List.prefix_append _ _
  generalize third_eq : second.passing 3 1 1 remark = third
  have remarkPassed : Passed text remarkNode second 3 1 1 remark afterRemark :=
    passed_remark (by rwa [atSecond])
  generalize fourth_eq : third.passing 4 1 0 type = fourth
  have typePassed : Passed text typeNode third 4 1 0 type afterType :=
    passed_type (by rwa [← third_eq, remarkPassed.ahead])
  have choicesPassed : Passed text choicesNode fourth 5 1 1 choices rest :=
    passed_choices (by rwa [← fourth_eq, typePassed.ahead])
  refine ⟨fourth.passing 5 1 1 choices, ?_, choicesPassed.ahead, ?_⟩
  · have remarkWay := remarkPassed.way
    have typeWay := typePassed.way
    rw [third_eq] at remarkWay
    rw [fourth_eq] at typeWay
    exact Node.head?_sequence namePassed (Node.head?_sequence remarkWay
      (Node.head?_sequence typeWay choicesPassed.way))
  · -- Each part is noted under its own index, and passing it leaves the other indices alone.
    have acrossChoices (index : Nat) (apart : index ≠ 5) :
        (fourth.passing 5 1 1 choices).part? text index = fourth.part? text index :=
      Place.part?_passing_of_ne apart
    have acrossType (index : Nat) (apart : index ≠ 4) : fourth.part? text index = third.part? text index := by
      rw [← fourth_eq, Place.part?_passing_of_ne apart]
    have acrossRemark (index : Nat) (apart : index ≠ 3) :
        third.part? text index = second.part? text index := by
      rw [← third_eq, Place.part?_passing_of_ne apart]
    have acrossName (index : Nat) (apart : index ≠ 2) : second.part? text index = place.part? text index := by
      rw [← second_eq, Place.part?_noting_of_ne apart]
    have choicesPart : (fourth.passing 5 1 1 choices).part? text 5 = choices := by
      refine Place.part?_passing choicesPassed.held ?_
      rw [acrossType 5 (by decide), acrossRemark 5 (by decide), acrossName 5 (by decide),
        fresh 5 (by decide)]
    have typePart : fourth.part? text 4 = type := by
      rw [← fourth_eq]
      refine Place.part?_passing typePassed.held ?_
      rw [acrossRemark 4 (by decide), acrossName 4 (by decide), fresh 4 (by decide)]
    have remarkPart : third.part? text 3 = remark := by
      rw [← third_eq]
      refine Place.part?_passing remarkPassed.held ?_
      rw [acrossName 3 (by decide), fresh 3 (by decide)]
    have namePart : second.part? text 2 = some name := by
      rw [← second_eq, Place.part?_noting nameHeld]
    have symbolPart : (fourth.passing 5 1 1 choices).part? text 6 = none := by
      rw [acrossChoices 6 (by decide), acrossType 6 (by decide), acrossRemark 6 (by decide),
        acrossName 6 (by decide), fresh 6 (by decide)]
    rw [Piece.ofParts, symbolPart, choicesPart, acrossChoices 1 (by decide), acrossType 1 (by decide),
      acrossRemark 1 (by decide), acrossName 1 (by decide), acrossChoices 2 (by decide),
      acrossType 2 (by decide), acrossRemark 2 (by decide), namePart, acrossChoices 3 (by decide),
      acrossType 3 (by decide), remarkPart, acrossChoices 4 (by decide), typePart, Option.getD_some]

/-- A name is tried before any other run. -/
theorem ways_node : node.ways text .none place =
    (Node.sequence (.maybe sigilNode) namedNode).ways text .none place ++
      symbolNode.ways text .none place := rfl

/-- The first way from a place is over the piece that the rules take there. -/
theorem head?_node {piece : Piece} (takes : FirstPiece (place.ahead text) piece rest)
    (fresh : place.groups = []) :
    ∃ next, (node.ways text .none place).head? = some next ∧ next.ahead text = rest ∧
      Piece.ofParts (next.part? text) = piece := by
  have untouched (index : Nat) : place.part? text index = none := by
    rw [Place.part?, Place.group?, fresh]
    rfl
  rw [ways_node, List.head?_append]
  generalize here : place.ahead text = front at takes
  cases takes with
  | @name sigil name afterName _ _ _ _ _ _ isSigil isName isRemark isType isChoices =>
    obtain ⟨c, others, begins⟩ := List.exists_cons_of_ne_nil isName.nonempty
    have word : isWord c = true := isName.each c (begins ▸ List.mem_cons_self)
    have sigilPassed := passed_sigil isSigil word (by rw [here, begins]; rfl)
    have atName : (place.passing 1 0 0 (sigil.map fun s => [s])).ahead text = name ++ afterName := by
      rw [sigilPassed.ahead, begins]
      rfl
    obtain ⟨next, way, ahead, parts⟩ := head?_namedNode atName isName isRemark isType isChoices
      fun index apart => by rw [Place.part?_passing_of_ne apart, untouched]
    refine ⟨next, ?_, ahead, ?_⟩
    · rw [Node.head?_sequence sigilPassed.way way, Option.some_or]
    · rw [parts, Place.part?_passing sigilPassed.held (untouched 1)]
      cases sigil <;> rfl
  | @symbol symbol _ other isSymbol =>
    have taken : (place.ahead text).takeWhile (inSet .none false [.category .space true]) = symbol := by
      rw [inSet_visible, here, isSymbol.takeWhile_eq]
    refine ⟨place.noting 6 0 symbol 0, ?_, ?_, ?_⟩
    · rw [ways_named_eq_nil (by rwa [here]), List.head?_nil, Option.none_or]
      exact Node.head?_capture_someOf 6 taken isSymbol.nonempty
    · rw [Place.ahead_noting, here, Nat.zero_add, Nat.add_zero, List.drop_left]
    · have held : symbol <+: (place.ahead text).drop 0 := by
        rw [here]
        exact List.prefix_append _ _
      rw [Piece.ofParts, Place.part?_noting held]

/-- At white space, and at the end, there is no way. -/
theorem ways_node_eq_nil (blank : ∀ c ∈ (place.ahead text).head?, isSpace c = true) :
    node.ways text .none place = [] := by
  have named : (Node.sequence (.maybe sigilNode) namedNode).ways text .none place = [] := by
    apply ways_named_eq_nil
    rintro ⟨sigil, c, rest, here, isSigil, word⟩
    rw [here] at blank
    cases sigil with
    | none =>
      rw [not_isWord_of_isSpace (blank c rfl)] at word
      cases word
    | some s =>
      have space := blank s rfl
      rw [(isSigil s rfl).apart.2] at space
      cases space
  have none : (place.ahead text).takeWhile (inSet .none false [.category .space true]) = [] := by
    rw [inSet_visible]
    cases here : place.ahead text with
    | nil => rfl
    | cons c rest =>
      rw [here] at blank
      exact List.takeWhile_cons_of_neg (by simp [blank c rfl])
  rw [ways_node, named, List.nil_append]
  exact congrArg (List.map _) (Node.ways_someOf_eq_nil none)

end Token

end LineGrammar
