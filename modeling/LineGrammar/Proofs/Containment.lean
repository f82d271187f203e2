import LineGrammar.Proofs.Keywords
import LineGrammar.Proofs.Pattern.Positions
import LineGrammar.Proofs.Pattern.Standalone
import Mathlib.Data.List.TakeWhile

/-!
# Captures keep to themselves

The pattern of an expression is put together as a text, so the pattern of a type could reach out of
the parentheses of its capture. It does not when it is a pattern on its own, without groups and
without switches for the whole: then a line that a keyword and a capture of this type match is the
keyword, white space, the text of the capture, and white space up to the end, with nothing left over,
and every line that has such parts is matched.

A registration asks for less: that the fragment can stand between two parentheses. A fragment that
closes the first one and opens the second one anew passes, and its capture does not keep to itself.
-/

namespace LineGrammar

open LineGrammar.Text LineGrammar.Pattern

/-! ## Accepted fragments -/

/-- A text that is a pattern on its own, without groups and without switches for the whole, can be the
pattern of a type. -/
theorem TypeTable.accepts_alone (name : String) {fragment : String} {own : Pattern}
    (alone : Pattern.read fragment .none = .ok own) (groups : own.groups = 0)
    (switches : own.switches = .none) : obstacle? name fragment = none := by
  obtain ⟨nodes, enclosed, -⟩ := Enclosed.of_read alone groups switches
  have spelled := (Operand.character 'x').spells.append (enclosed.group Opens.plain).spells
  have written : (Fragment.embedded fragment).toList =
      escapedChar 'x' ++ (['(', '?', ':'] ++ fragment.toList ++ [')']) := by
    simp [Fragment.embedded, escapedChar, specialCharacters, backslash]
  rw [← written] at spelled
  simp [obstacle?, Fragment.embeddedGroups, spelled.read_eq, bind, Except.bind, pure, Except.pure]

/-! ## The pattern of a keyword and a capture -/

/-- The first result of steps in sequence is the first result behind one of the first steps. -/
theorem exists_of_head?_flatMap {α β : Type} {list : List α} {next : α → List β} {b : β}
    (first : (list.flatMap next).head? = some b) : ∃ a ∈ list, (next a).head? = some b := by
  rw [List.head?_flatMap] at first
  exact List.exists_of_findSome?_eq_some first

/-- The white space at the end of a line, with the end of the line. -/
def Pattern.lineTail : List (Node × Standing) :=
  [(.anchor .lineEnd, .position),
    (.repetition .greedy 0 none (.set false [.category .space false]), .repetition)]

/-- White space up to the end of a line: the turns of white space that end where the line does. -/
theorem Pattern.ways_lineTail (line : Array Char) (place : Place) :
    (Node.ofItems lineTail).ways line .none place =
      ((Ways.consume line isSpace).greedily (line.size - place.position + 1) none place).filter
        fun next => Anchor.lineEnd.holds .none line next.position := by
  have same : inSet .none false [.category .space false] = isSpace := by
    funext c
    simp [inSet, Switches.none, SetItem.holds, Category.holds]
  have turns : (Node.repetition .greedy 0 none (.set false [.category .space false])).ways line
      .none place =
        (Ways.consume line isSpace).greedily (line.size - place.position + 1) none place := by
    simp [Node.ways, Ways.repeated, Ways.required, turnsLeft, same]
  have ends : (Node.anchor .lineEnd).ways line .none = fun next =>
      (Option.guard (fun next => Anchor.lineEnd.holds .none line next.position) next).toList := by
    funext next
    simp only [Node.ways, Option.guard]
    split <;> rfl
  rw [← List.filterMap_eq_filter, List.filterMap_eq_flatMap_toList, ← turns, ← ends]
  rfl

/-- White space and the end of a line lead to the end of the text first. -/
theorem Pattern.head?_lineTail {line : Array Char} {place last : Place}
    (first : ((Node.ofItems lineTail).ways line .none place).head? = some last) :
    ∃ tail ∈ Texts.blank, Holds line place.position tail ∧ last = place.after tail.length ∧
      last.position = line.size := by
  rw [ways_lineTail, List.head?_filter] at first
  obtain ⟨tail, blank, held, rfl⟩ := ((Ways.Follow.consume isSpace).star nil_not_mem_single place
    last).mp (List.mem_of_find?_eq_some first)
  rw [Texts.blank_eq] at blank
  exact ⟨tail, blank, held, rfl,
    Ways.find_lineEnd_greedily (by decide) (by simp) (Nat.lt_succ_self _) first⟩

/-- White space that is all that is left of a text is led over. -/
theorem Pattern.mem_lineTail {line : Array Char} {place : Place} {tail : List Char}
    (blank : tail ∈ Texts.blank) (held : Holds line place.position tail)
    (atEnd : place.position + tail.length = line.size) :
    place.after tail.length ∈ (Node.ofItems lineTail).ways line .none place := by
  rw [ways_lineTail, List.mem_filter]
  rw [← Texts.blank_eq] at blank
  exact ⟨((Ways.Follow.consume isSpace).star nil_not_mem_single place _).mpr ⟨tail, blank, held, rfl⟩,
    holds_lineEnd_iff.mpr (.inl atEnd)⟩

/-- Where pieces of a text end and others begin, the text in between is their complement. -/
theorem Pattern.exists_between {line : Array Char} {word gap tail : List Char} {place : Nat}
    (heldWord : Holds line 0 word) (heldGap : Holds line word.length gap)
    (forward : word.length + gap.length ≤ place) (heldTail : Holds line place tail)
    (atEnd : place + tail.length = line.size) :
    ∃ captured, line.toList = word ++ (gap ++ (captured ++ tail)) ∧
      place = word.length + gap.length + captured.length := by
  obtain ⟨rest, start⟩ := heldWord
  rw [List.drop_zero] at start
  obtain ⟨more, next⟩ := heldGap
  rw [← start, List.drop_left] at next
  subst next
  obtain ⟨left, last⟩ := heldTail
  have size : line.size = word.length + gap.length + more.length := by
    rw [← Array.length_toList, ← start]
    simp [Nat.add_assoc]
  -- Behind the keyword and the white space, the tail stands at the end.
  obtain ⟨count, rfl⟩ := Nat.exists_eq_add_of_le forward
  have ends : tail ++ left = more.drop count := by
    rw [last, ← start, ← List.append_assoc, ← List.length_append, List.drop_append]
    simp
  have alone : left = [] := by
    have lengths := congrArg List.length ends
    simp only [List.length_append, List.length_drop] at lengths
    exact List.eq_nil_of_length_eq_zero (by omega)
  subst alone
  refine ⟨more.take count, ?_, ?_⟩
  · rw [← start, ← List.append_nil tail, ends, List.take_append_drop]
  · rw [List.length_take]
    omega

/-- A match covers a line as a keyword and a capture are meant to: the keyword stands at the start
with white space behind it, and the capture has all that follows, up to the white space at the end. -/
def Pattern.Match.Contained (found : Match) (word : List Char) (line : Array Char) : Prop :=
  found.start = 0 ∧ found.stop = line.size ∧
    ∃ gap ∈ Texts.gap, ∃ captured, ∃ tail ∈ Texts.blank,
      line.toList = word ++ (gap ++ (captured ++ tail)) ∧
        found.span? 1 = some (word.length + gap.length, word.length + gap.length + captured.length)

/-- A line divides into a keyword, white space, a text that a pattern leads over where it stands, and
white space up to the end. -/
structure Pattern.Divides (own : Pattern) (word : List Char) (line : Array Char)
    (gap captured tail : List Char) : Prop where
  spaced : gap ∈ Texts.gap
  blank : tail ∈ Texts.blank
  whole : line.toList = word ++ (gap ++ (captured ++ tail))
  taken : ∃ groups, ⟨word.length + gap.length + captured.length, groups⟩ ∈
    own.root.ways line .none ⟨word.length + gap.length, []⟩

namespace Pattern

variable {own : Pattern} {word : List Char} {wordNode gapNode : Node} {line : Array Char}

/-- The ways from the start of a line over a keyword, white space, a capture and the end of the line. -/
def lineWays (own : Pattern) (wordNode gapNode : Node) (line : Array Char) : List Place :=
  (wordNode.ways line .none ⟨0, []⟩).flatMap fun middle =>
    (gapNode.ways line .none middle).flatMap fun before =>
      ((Node.capture 1 own.root).ways line .none before).flatMap
        ((Node.ofItems lineTail).ways line .none)

/-- The first of these ways divides the line, and goes over the whole of it. -/
theorem divides_of_lineWays (recognizesWord : Recognizes .none wordNode (Texts.exactly word))
    (recognizesGap : Recognizes .none gapNode Texts.gap) {last : Place}
    (first : (own.lineWays wordNode gapNode line).head? = some last) :
    ∃ gap captured tail, own.Divides word line gap captured tail ∧ last.position = line.size ∧
      last.groups.lookup 1 =
        some (word.length + gap.length, word.length + gap.length + captured.length) := by
  obtain ⟨middle, atWord, first⟩ := exists_of_head?_flatMap first
  obtain ⟨before, atGap, first⟩ := exists_of_head?_flatMap first
  obtain ⟨behind, atCapture, first⟩ := exists_of_head?_flatMap first
  obtain ⟨piece, same, heldWord, rfl⟩ := (recognizesWord line _ _).mp atWord
  obtain rfl : piece = word := same
  obtain ⟨gap, spaced, heldGap, rfl⟩ := (recognizesGap line _ _).mp atGap
  obtain ⟨⟨place, groups⟩, atInside, rfl⟩ := List.mem_map.mp atCapture
  have forward := Node.ways_forward line .none _ _ _ atInside
  obtain ⟨tail, blank, heldTail, rfl, atEnd⟩ := head?_lineTail first
  simp only [Place.after_position, Nat.zero_add] at heldWord heldGap heldTail forward atEnd
  obtain ⟨captured, whole, rfl⟩ := exists_between heldWord heldGap forward heldTail atEnd
  refine ⟨gap, captured, tail, ⟨spaced, blank, whole, groups, ?_⟩, atEnd, by simp [Place.after]⟩
  simpa [Place.after] using atInside

/-- A line that divides has a way. -/
theorem Divides.lineWays_ne_nil (recognizesWord : Recognizes .none wordNode (Texts.exactly word))
    (recognizesGap : Recognizes .none gapNode Texts.gap) {gap captured tail : List Char}
    (divides : own.Divides word line gap captured tail) :
    own.lineWays wordNode gapNode line ≠ [] := by
  obtain ⟨spaced, blank, whole, groups, taken⟩ := divides
  have held : Holds line 0 (word ++ (gap ++ (captured ++ tail))) := ⟨[], by simp [whole]⟩
  simp only [Holds.append, Nat.zero_add] at held
  obtain ⟨heldWord, heldGap, -, heldTail⟩ := held
  have atWord := (recognizesWord line ⟨0, []⟩ _).mpr ⟨word, rfl, heldWord, rfl⟩
  have atGap := (recognizesGap line ⟨word.length, []⟩ _).mpr ⟨gap, spaced, heldGap, rfl⟩
  obtain ⟨behind, atCapture, reached⟩ : ∃ behind ∈ (Node.capture 1 own.root).ways line .none
      ⟨word.length + gap.length, []⟩, behind.position = word.length + gap.length + captured.length :=
    ⟨_, List.mem_map.mpr ⟨_, taken, rfl⟩, rfl⟩
  have atEnd : behind.after tail.length ∈ (Node.ofItems lineTail).ways line .none behind := by
    have size := congrArg List.length whole
    simp only [Array.length_toList, List.length_append] at size
    exact mem_lineTail blank (reached ▸ heldTail) (by omega)
  have started : (⟨0, []⟩ : Place).after word.length = ⟨word.length, []⟩ := by simp [Place.after]
  rw [started] at atWord
  exact List.ne_nil_of_mem (List.mem_flatMap.mpr ⟨_, atWord, List.mem_flatMap.mpr ⟨_, atGap,
    List.mem_flatMap.mpr ⟨behind, atCapture, atEnd⟩⟩⟩)

end Pattern

/-- The pattern of a keyword and of a capture of a fragment that keeps to itself leads over the lines
that divide into these parts, and a match divides the line so. -/
theorem Pattern.Enclosed.divided_line {fragment : List Char} {nodes : List Node} {own : Pattern}
    (enclosed : Enclosed fragment 0 fun _ => nodes) (tree : own.root = .ofBranches nodes)
    (word : List Char) {source : String}
    (written : source.toList = ['^'] ++ (escapedChars word ++ (Fragment.separator.toList ++
      ((['('] ++ fragment ++ [')']) ++ ([backslash, 's'] ++ ['*'] ++ ['$']))))) :
    ∃ pattern, Pattern.read source .none = .ok pattern ∧ pattern.groups = 1 ∧ ∀ line,
      ((pattern.matchStart line).isSome = true ↔
        ∃ gap captured tail, own.Divides word line gap captured tail) ∧
      ∀ found, pattern.matchStart line = some found →
        ∃ gap captured tail, own.Divides word line gap captured tail ∧ found.start = 0 ∧
          found.stop = line.size ∧ found.span? 1 =
            some (word.length + gap.length, word.length + gap.length + captured.length) := by
  obtain ⟨wordItems, spelledWord, recognizesWord, -⟩ := IsRun.exactly word
  obtain ⟨gapItems, spelledGap, recognizesGap, -⟩ := IsRun.gap
  have group := (enclosed.group Opens.capture).spells
  have tail : Spells ([backslash, 's'] ++ ['*'] ++ ['$']) 0 fun _ => lineTail :=
    (Spells.greedy Operand.space (by simp) .star).append Spells.lineEnd
  have whole := Spells.lineStart.append (spelledWord.append (spelledGap.append (group.append tail)))
  rw [← written] at whole
  obtain ⟨pattern, isPattern, strict, groups, ways⟩ : ∃ pattern,
      Pattern.read source .none = .ok pattern ∧ pattern.switches = .none ∧ pattern.groups = 1 ∧
        ∀ line, pattern.root.ways line .none ⟨0, []⟩ =
          own.lineWays (.ofItems wordItems) (.ofItems gapItems) line := by
    refine ⟨_, whole.read_eq, rfl, rfl, fun line => ?_⟩
    have start : (Node.ofItems [(.anchor .lineStart, .position)]).ways line .none ⟨0, []⟩ =
        [⟨0, []⟩] := by
      simp [Node.ways, Anchor.holds]
    have along (items later : List (Node × Standing)) := funext fun place =>
      Node.ways_ofItems_append line .none items later place
    simp only [along, start, List.flatMap_singleton, lineWays, tree]
    rfl
  refine ⟨pattern, isPattern, groups, fun line => ?_⟩
  have divided (found : Match) (matched : pattern.matchStart line = some found) :
      ∃ gap captured tail, own.Divides word line gap captured tail ∧ found.start = 0 ∧
        found.stop = line.size ∧ found.span? 1 =
          some (word.length + gap.length, word.length + gap.length + captured.length) := by
    rw [matchStart_eq, strict, ways, Option.map_eq_some_iff] at matched
    obtain ⟨last, first, rfl⟩ := matched
    obtain ⟨gap, captured, tail, divides, atEnd, group⟩ :=
      divides_of_lineWays recognizesWord recognizesGap first
    exact ⟨gap, captured, tail, divides, rfl, atEnd, group⟩
  refine ⟨⟨fun some => ?_, ?_⟩, divided⟩
  · obtain ⟨found, matched⟩ := Option.isSome_iff_exists.mp some
    obtain ⟨gap, captured, tail, divides, -⟩ := divided found matched
    exact ⟨gap, captured, tail, divides⟩
  · rintro ⟨gap, captured, tail, divides⟩
    rw [matchStart_eq, strict, ways, Option.isSome_map, List.isSome_head?]
    exact divides.lineWays_ne_nil recognizesWord recognizesGap

/-- So the pattern goes over the whole of each of these lines. -/
theorem Pattern.Enclosed.whole_line {fragment : List Char} {nodes : List Node} {own : Pattern}
    (enclosed : Enclosed fragment 0 fun _ => nodes) (tree : own.root = .ofBranches nodes)
    (word : List Char) {source : String}
    (written : source.toList = ['^'] ++ (escapedChars word ++ (Fragment.separator.toList ++
      ((['('] ++ fragment ++ [')']) ++ ([backslash, 's'] ++ ['*'] ++ ['$']))))) :
    ∃ pattern, Pattern.read source .none = .ok pattern ∧ ∀ line,
      ((pattern.matchStart line).isSome = true ↔
        ∃ gap captured tail, own.Divides word line gap captured tail) ∧
      ∀ found, pattern.matchStart line = some found → found.Contained word line := by
  obtain ⟨pattern, isPattern, -, lines⟩ := enclosed.divided_line tree word written
  refine ⟨pattern, isPattern, fun line => ⟨(lines line).1, fun found matched => ?_⟩⟩
  obtain ⟨gap, captured, tail, divides, start, stop, group⟩ := (lines line).2 found matched
  exact ⟨start, stop, gap, divides.spaced, captured, tail, divides.blank, divides.whole, group⟩

/-! ## A capture with a type -/

/-- A text that can stand as the name of a type behind a name: word characters and signs, at least one
of them. -/
def IsTypeName (name : String) : Prop :=
  name ≠ "" ∧ ∀ c ∈ name.toList, (isWord c || c == '+' || c == '-') = true

instance (name : String) : Decidable (IsTypeName name) :=
  inferInstanceAs (Decidable (name ≠ "" ∧ ∀ c ∈ name.toList, (isWord c || c == '+' || c == '-') = true))

/-- A character of the name of a type is neither a bracket nor white space. -/
theorem apart_of_typeName {c : Char} (is : (isWord c || c == '+' || c == '-') = true) :
    c ≠ '[' ∧ c ≠ ']' ∧ isSpace c = false := by
  simp only [Bool.or_eq_true, beq_iff_eq, or_assoc] at is
  rcases is with word | rfl | rfl
  · refine ⟨?_, ?_, not_isSpace_of_isWord word⟩ <;> rintro rfl <;>
      exact absurd word (by decide)
  · decide
  · decide

/-- A name with a type after a sigil is one piece. -/
theorem Token.takePiece_typed {sigil : Char} {kind : TokenKind}
    (is : TokenKind.ofSigil? sigil = some kind) {name typeName : String} (named : IsKeyword name)
    (type : IsTypeName typeName) :
    takePiece (sigil :: (name.toList ++ '@' :: typeName.toList)) =
      (.named (some sigil) name.toList none (some typeName.toList) none, []) := by
  obtain ⟨c, rest, start, word⟩ := named.exists_cons
  have at_ : isWord '@' = false := by decide
  have remark : takeRemark ('@' :: typeName.toList) = (none, '@' :: typeName.toList) := rfl
  have nonempty : typeName.toList.isEmpty = false := by simpa using type.1
  have taken : takeType ('@' :: typeName.toList) = (some typeName.toList, []) := by
    have all := List.takeWhile_eq_self_iff.mpr type.2
    have rest := List.dropWhile_eq_nil_iff.mpr type.2
    simp [takeType, all, rest, nonempty]
  rw [start, List.cons_append, takePiece_sigil is word, ← List.cons_append, ← start]
  simp [takeNamed, List.takeWhile_append_of_pos named.2, List.dropWhile_append_of_pos named.2, at_,
    remark, taken, takeChoices, bracketed]

/-- An expression of a keyword and a name with a type after a sigil has the token of this piece behind
the keyword. -/
theorem Phrase.of_sigil_typed {sigil : Char} {kind : TokenKind}
    (is : TokenKind.ofSigil? sigil = some kind) {word name typeName lead : String}
    (keyword : IsKeyword word) (named : IsKeyword name) (type : IsTypeName typeName)
    (written : lead.toList = [' ', sigil]) {token : Token}
    (made : ∀ segment, Token.ofPiece segment
      (.named (some sigil) name.toList none (some typeName.toList) none) = .ok token) :
    Phrase.of (word ++ lead ++ name ++ "@" ++ typeName) = .ok (Phrase.ofKeywords [word] token) := by
  have whole : word ++ lead ++ name ++ "@" ++ typeName =
      " ".intercalate ([word] ++ [String.ofList (sigil :: (name.toList ++ '@' :: typeName.toList))]) := by
    apply String.toList_injective
    simp [written]
  have apart := Token.sigil_apart is
  rw [whole]
  refine of_behind (by simpa using keyword) String.toList_ofList ?_ apart.2.1 ?_
    (Token.takePiece_typed is named type) made
  · intro d inside
    rcases List.mem_cons.mp inside with rfl | inside
    · exact apart.2.2
    · rcases List.mem_append.mp inside with inside | inside
      · have other := apart_of_typeName (c := d) (by simp [named.2 d inside])
        exact ⟨other.1, other.2.1⟩
      · rcases List.mem_cons.mp inside with rfl | inside
        · decide
        · have other := apart_of_typeName (type.2 d inside)
          exact ⟨other.1, other.2.1⟩
  · intro d last
    obtain ⟨c, rest, start⟩ := List.exists_cons_of_ne_nil
      (show typeName.toList ≠ [] by simpa using type.1)
    have inside : d ∈ typeName.toList := by
      refine List.mem_of_getLast? ?_
      rw [← last, start]
      simp [List.getLast?_cons]
    exact (apart_of_typeName (type.2 d inside)).2.2

/-- The token of a name with a type. -/
def Token.typed (name typeName : String) : Token := ⟨.argument, name, none, some typeName, none⟩

/-- An expression of a keyword and a name with a type has these tokens. -/
theorem Phrase.of_typed {word name typeName : String} (keyword : IsKeyword word)
    (named : IsKeyword name) (type : IsTypeName typeName) :
    Phrase.of (word ++ " :" ++ name ++ "@" ++ typeName) =
      .ok (Phrase.ofKeywords [word] (.typed name typeName)) :=
  of_sigil_typed (show TokenKind.ofSigil? ':' = some .argument from rfl) keyword named type rfl
    fun segment => by
      simp [Token.ofPiece, Token.typed, TokenKind.ofSigil?]

/-! ## Expressions -/

/-- What a keyword and a capture of a fragment add to the pattern of an expression. -/
def Phrase.typedBody (word fragment : String) : String :=
  Fragment.separator ++ escaped word ++ Token.captured fragment

/-- A keyword and a capture with a type of the table are compiled to both. -/
theorem Phrase.compiled_typed {types : TypeTable} {typeName : String} {type : ValueType}
    (known : types.lookup typeName = some type) (word name : String) :
    (ofKeywords [word] (.typed name typeName)).compiled types =
      .ok (typedBody word type.pattern, [⟨name, .argument, some type, none⟩]) := by
  simp [ofKeywords, Phrase.compiled, typedBody, Token.compiled, Token.keyword, Token.typed,
    Token.typeIn, known, Token.element, bind, Except.bind, pure, Except.pure]

/-- At the start of a line, no white space is asked for before the keyword. -/
theorem Expression.toList_wholeLine_typed (word fragment : String) :
    (wholeLine (Phrase.typedBody word fragment)).toList =
      ['^'] ++ (escapedChars word.toList ++ (Fragment.separator.toList ++
        ((['('] ++ fragment.toList ++ [')']) ++ ([backslash, 's'] ++ ['*'] ++ ['$'])))) := by
  rw [toList_wholeLine]
  simp [Phrase.typedBody, withoutLead, Fragment.separator, escaped, Token.captured]

/-- A type registers its name under the fragment that it was given. -/
theorem TypeTable.lookup_register {types typed : TypeTable} {name fragment : String}
    {conversion : Option Conversion}
    (registered : types.register name fragment conversion = .ok typed) :
    typed.lookup name = some ⟨name, fragment, conversion⟩ := by
  unfold register at registered
  split at registered
  · cases registered
  · cases registered
    simp [lookup, Table.get?_insert]

namespace Expression

variable {fragment word name typeName : String} {own : Pattern}

/-- A fragment that reads as a pattern on its own, without groups and without switches for the whole,
is accepted as the pattern of a type. A keyword and a capture of this type match the lines that divide
into the keyword, white space, a text that the fragment leads over, and white space, and no others; and
every match is such a division, so the capture keeps to itself. -/
theorem typed_capture_contained (alone : Pattern.read fragment .none = .ok own)
    (groups : own.groups = 0) (switches : own.switches = .none) (keyword : IsKeyword word)
    (named : IsKeyword name) (type : IsTypeName typeName) (types : TypeTable)
    (conversion : Option Conversion) :
    ∃ typed expression, types.register typeName fragment conversion = .ok typed ∧
      Expression.compile typed (word ++ " :" ++ name ++ "@" ++ typeName) = .ok expression ∧
      ∀ line, ((expression.pattern.matchStart line).isSome = true ↔
          ∃ gap captured tail, own.Divides word.toList line gap captured tail) ∧
        ∀ found, expression.pattern.matchStart line = some found →
          found.Contained word.toList line := by
  obtain ⟨typed, registered⟩ : ∃ typed, types.register typeName fragment conversion = .ok typed := by
    simp [TypeTable.register, TypeTable.accepts_alone typeName alone groups switches]
  obtain ⟨nodes, enclosed, tree⟩ := Enclosed.of_read alone groups switches
  obtain ⟨pattern, isPattern, lines⟩ :=
    enclosed.whole_line tree word.toList (toList_wholeLine_typed word fragment)
  have compiled := Phrase.compiled_typed (TypeTable.lookup_register registered) word name
  exact ⟨typed, _, registered, compile_eq_ok.mpr
    ⟨_, Phrase.of_typed keyword named type, _, _, compiled, pattern, isPattern, rfl⟩, lines⟩

/-- The captures of a type for one of two words keep to themselves, and there are lines for them. -/
theorem typed_capture_contained_choice :
    ∃ typed expression found, TypeTable.numeric.register "T" "left|right" none = .ok typed ∧
      Expression.compile typed ("go" ++ " :" ++ "x" ++ "@" ++ "T") = .ok expression ∧
      expression.pattern.matchStart "go right".toList.toArray = some found ∧
      found.Contained "go".toList "go right".toList.toArray := by
  have read : (Pattern.read "left|right" .none).toOption.map (fun own => (own.groups, own.switches)) =
      some (0, .none) := by
    decide +kernel
  obtain ⟨own, alone, same⟩ := Option.map_eq_some_iff.mp read
  have keyword : IsKeyword "go" := by decide +kernel
  have named : IsKeyword "x" := by decide +kernel
  have type : IsTypeName "T" := by decide +kernel
  obtain ⟨typed, expression, registered, compiled, lines⟩ :=
    typed_capture_contained (Except.eq_ok_of_toOption alone) (congrArg Prod.fst same)
      (congrArg Prod.snd same) keyword named type .numeric none
  have matched : ((TypeTable.numeric.register "T" "left|right" none).toOption.bind fun typed =>
      (Expression.compile typed ("go" ++ " :" ++ "x" ++ "@" ++ "T")).toOption.bind fun expression =>
        expression.pattern.matchStart "go right".toList.toArray) = some ⟨0, 8, [(1, 3, 8)]⟩ := by
    decide +kernel
  rw [registered, Except.toOption, Option.bind_some, compiled] at matched
  exact ⟨typed, expression, _, registered, compiled, matched, (lines _).2 _ matched⟩

/-- A fragment may close the group that it is placed in and open another one. It is accepted all the
same, and its capture splits the pattern in two: a line is matched without the keyword. -/
theorem typed_capture_split :
    ∃ typed expression found, TypeTable.numeric.register "T" "a)|(?:b" none = .ok typed ∧
      Expression.compile typed "w :x@T" = .ok expression ∧
      expression.pattern.matchStart "b".toList.toArray = some found ∧
      ¬found.Contained "w".toList "b".toList.toArray := by
  have matched : ((TypeTable.numeric.register "T" "a)|(?:b" none).toOption.bind fun typed =>
      (Expression.compile typed "w :x@T").toOption.bind fun expression =>
        expression.pattern.matchStart "b".toList.toArray) = some ⟨0, 1, []⟩ := by
    decide +kernel
  obtain ⟨typed, registered, rest⟩ := Option.bind_eq_some_iff.mp matched
  obtain ⟨expression, compiled, found⟩ := Option.bind_eq_some_iff.mp rest
  refine ⟨typed, expression, _, Except.eq_ok_of_toOption registered,
    Except.eq_ok_of_toOption compiled, found, ?_⟩
  rintro ⟨-, -, gap, -, captured, tail, -, whole, -⟩
  simp at whole

end Expression

end LineGrammar
