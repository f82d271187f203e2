import LineGrammar.Proofs.Pattern.Locality
import LineGrammar.Proofs.Pattern.Undivided
import LineGrammar.Proofs.Quoting
import LineGrammar.Proofs.TypedLists

/-!
# Lists of a pattern

The pattern of a type is put into the pattern of a list twice, and into its splitter once. It means there
what it means by itself as long as it keeps to its place: no bar divides it, and it is local up to what
begins a separator. If its texts are delimited besides, every list of them is matched and taken apart into
the same texts again.

Both are needed. A bar would end the branch of the list as well, and texts that hold a separator make
lists that can be taken apart in another way.
-/

namespace LineGrammar

open LineGrammar.Text LineGrammar.Pattern

/-! ## Elements in place -/

/-- The characters that can begin a separator. -/
def Texts.breaks : List Char := ',' :: spaceCodes.map Char.ofNat

/-- The characters that can begin a separator are those of the list. -/
theorem Texts.mem_breaks {c : Char} (broken : isBreak c = true) : c ∈ breaks := by
  simp only [isBreak, Bool.or_eq_true, beq_iff_eq] at broken
  rcases broken with space | rfl
  · exact List.mem_cons_of_mem _ (List.mem_map.mpr ⟨c.toNat, mem_spaceCodes space, Char.ofNat_toNat c⟩)
  · exact List.mem_cons_self

/-- These are all that a node has to be asked about. -/
instance (on : Switches) (node : Node) : Decidable (node.CommitsApart Texts.isBreak on) :=
  node.decidableCommitsApart Texts.isBreak (fun test =>
    decidable_of_iff (∀ c ∈ Texts.breaks, test c = false)
      ⟨fun each c broken => each c (Texts.mem_breaks broken), fun each c listed =>
        each c (List.all_eq_true.mp (by decide +kernel : Texts.breaks.all Texts.isBreak = true) c listed)⟩) on

/-- A cut text is cut with something cut behind it. -/
theorem Texts.Cut.append {front rest : List Char} (cut : Cut front) (cutRest : Cut rest) :
    Cut (front ++ rest) := by
  cases front with
  | nil => exact cutRest
  | cons c front => simpa using cut

namespace Pattern

variable {own : Pattern} {text : Array Char} {start : Nat} {items : List (Node × Standing)} {mark : Node}

/-- A piece that is cut behind has a window. -/
theorem Window.of_cut {piece rest : List Char} (here : text.toList.drop start = piece ++ rest)
    (cut : Texts.Cut rest) : Window Texts.isBreak text start piece where
  held := ⟨rest, here.symm⟩
  ends c behind := by
    refine cut c ?_
    rw [Nat.add_comm, ← Array.getElem?_toList, ← List.getElem?_drop, here,
      List.getElem?_append_right (Nat.le_refl _), Nat.sub_self, ← List.head?_eq_getElem?] at behind
    exact behind

/-- The texts that a pattern matches in full. -/
def texts (own : Pattern) : Language Char := {piece | own.matchesFully piece = true}

/-- The splitter of a local pattern leads over the texts of the pattern that are cut behind. -/
theorem IsLocal.exists_splits (isLocal : own.IsLocal Texts.isBreak) (keeps : own.root.KeepsLead .none)
    {fragment : String}
    {nodes : List Node} (enclosed : Enclosed fragment.toList 0 fun _ => nodes)
    (tree : own.root = .ofBranches nodes) :
    ∃ splitter, Pattern.read (Fragment.listElement fragment) .none = .ok splitter ∧
      splitter.Splits own.texts := by
  have group : Operand (['(', '?', ':'] ++ fragment.toList ++ [')']) 0 fun _ => own.root := by
    rw [tree]
    exact enclosed.group Opens.plain
  obtain ⟨splitter, isSplitter, switches, leads, ways⟩ := exists_splitter group keeps
  refine ⟨splitter, isSplitter, switches, leads, fun text start next within => ?_⟩
  have bound : ∀ next ∈ own.root.ways text .none ⟨start, []⟩, next.Within text.size := fun next listed =>
    Node.ways_within isLocal.around isLocal.captures (by simp) _ _ listed ⟨rfl, within⟩
  rw [ways text _ fun next listed => (bound next listed).2]
  constructor
  · rintro ⟨listed, cut⟩
    obtain ⟨none, inside⟩ := bound next listed
    obtain ⟨stop, groups⟩ := next
    obtain rfl : groups = [] := none
    obtain ⟨count, rfl⟩ : ∃ count, stop = start + count :=
      Nat.exists_eq_add_of_le (Node.ways_forward _ _ _ _ _ listed)
    -- What the pattern has gone over is the piece up to the cut.
    obtain ⟨piece, rest, here, rfl⟩ : ∃ piece rest, text.toList.drop start = piece ++ rest ∧
        piece.length = count := by
      refine ⟨_, _, (List.take_append_drop count _).symm, ?_⟩
      have room : start + count ≤ text.size := inside
      simp only [List.length_take, List.length_drop, Array.length_toList]
      omega
    have behind : Texts.Cut rest := by
      rwa [← List.drop_drop, here, List.drop_left] at cut
    exact ⟨piece, (isLocal.leads_iff (.of_cut here behind)).mp listed, ⟨rest, here.symm⟩, cut, rfl⟩
  · rintro ⟨piece, taken, ⟨rest, here⟩, cut, rfl⟩
    have behind : Texts.Cut rest := by
      rwa [← List.drop_drop, ← here, List.drop_left] at cut
    exact ⟨(isLocal.leads_iff (.of_cut here.symm behind)).mpr taken, cut⟩

/-! ## The pattern of a list -/

/-- One more element of a list, with the separator before it. -/
def moreItems (items : List (Node × Standing)) (mark : Node) : List (Node × Standing) :=
  items ++ [(mark, .operand)]

/-- The tree of a list of elements that are read as items. -/
def listNode (items : List (Node × Standing)) (mark : Node) : Node :=
  .ofItems ([(.repetition .lazy 0 none (.ofItems (moreItems items mark)), .repetition)] ++ items)

/-- A list of a text that no bar divides is read as the list of its items. -/
theorem Settles.oneOrMoreOf {fragment : String} (settles : Settles fragment.toList items) :
    ∃ mark, Recognizes .none mark Texts.separator ∧
      Operand (Fragment.oneOrMoreOf fragment).toList 0 fun _ => listNode items mark := by
  obtain ⟨mark, separator, recognizes, -⟩ := IsUnit.separator
  have turn := (Settles.after separator.spells settles).enclosed.group Opens.plain
  have turns := (Spells.lazy turn (by simp) .star).settles
  have opening : Bounded (Symbol.ofChars (['(', '?', ':'] ++
      (Fragment.listSeparator.toList ++ fragment.toList) ++ [')'] ++ ['*', '?'])) := by
    rw [List.append_assoc, List.append_assoc, List.cons_append, Symbol.ofChars_plain (by decide)]
    exact .opening _
  have list := (settles.append turns opening).enclosed.group Opens.plain
  have written : (Fragment.oneOrMoreOf fragment).toList = ['(', '?', ':'] ++ (fragment.toList ++
      (['(', '?', ':'] ++ (Fragment.listSeparator.toList ++ fragment.toList) ++ [')'] ++
        ['*', '?'])) ++ [')'] := by
    simp [Fragment.oneOrMoreOf]
  exact ⟨mark, recognizes, written ▸ list⟩

namespace IsLocal

/-- One turn of a list leads over a separator and an element that is cut behind. -/
theorem mem_turn (isLocal : own.IsLocal Texts.isBreak) (root : own.root = .ofItems items)
    (recognizes : Recognizes .none mark Texts.separator) {separator element rest : List Char}
    (here : text.toList.drop start = separator ++ (element ++ rest))
    (is : separator ∈ Texts.separator) (taken : element ∈ own.texts) (cut : Texts.Cut rest) :
    ⟨start + separator.length + element.length, []⟩ ∈
      (Node.ofItems (moreItems items mark)).ways text .none ⟨start, []⟩ := by
  have behind : text.toList.drop (start + separator.length) = element ++ rest := by
    rw [← List.drop_drop, here, List.drop_left]
  rw [moreItems, Node.ways_ofItems_append, Node.ofItems_singleton, List.mem_flatMap, ← root]
  exact ⟨⟨start + separator.length, []⟩,
    (recognizes _ _ _).mpr ⟨separator, is, ⟨element ++ rest, here.symm⟩, rfl⟩,
    (isLocal.leads_iff (.of_cut behind cut)).mpr taken⟩

/-- So the turns of a list lead over all further elements, one after the other. -/
theorem mem_turns (isLocal : own.IsLocal Texts.isBreak) (root : own.root = .ofItems items)
    (recognizes : Recognizes .none mark Texts.separator) {others : List (List Char × List Char)}
    (each : ∀ other ∈ others, other.1 ∈ Texts.separator ∧ other.2 ∈ own.texts) {rest : List Char}
    (cut : Texts.Cut rest)
    (here : text.toList.drop start = (others.flatMap fun other => other.1 ++ other.2) ++ rest)
    {n : Nat} (enough : others.length ≤ n) {last : Option Nat} (moved : last ≠ some start) :
    ⟨start + (others.flatMap fun other => other.1 ++ other.2).length, []⟩ ∈
      ((Node.ofItems (moreItems items mark)).ways text .none).lazily n last ⟨start, []⟩ := by
  induction others generalizing start n last with
  | nil =>
    rw [Ways.mem_lazily]
    exact Ways.mem_greedily_self _ n last _
  | cons other others ih =>
    obtain ⟨n, rfl⟩ := Nat.exists_eq_succ_of_ne_zero (Nat.ne_of_gt (Nat.zero_lt_of_lt enough))
    obtain ⟨is, taken⟩ := each other List.mem_cons_self
    have eachOther := fun next listed => each next (List.mem_cons_of_mem other listed)
    rw [List.flatMap_cons, List.append_assoc, List.append_assoc] at here
    have turn := isLocal.mem_turn root recognizes here is taken
      ((Splits.cut_of_elements fun next listed => (eachOther next listed).1).append cut)
    have behind : text.toList.drop (start + other.1.length + other.2.length) =
        (others.flatMap fun other => other.1 ++ other.2) ++ rest := by
      rw [← List.drop_drop, ← List.drop_drop, here, List.drop_left, List.drop_left]
    have positive := List.length_pos_of_ne_nil (Texts.isBreak_of_mem_separator is).1
    have left : others.length ≤ n := by simpa using enough
    have onward : some start ≠ some (start + other.1.length + other.2.length) := by
      simp
      omega
    have more := ih eachOther behind left onward
    simp only [Ways.lazily, moved, if_false, List.mem_cons, List.mem_flatMap]
    refine .inr ⟨_, turn, ?_⟩
    simpa [Nat.add_assoc] using more

/-- A list leads over its elements wherever it is cut behind. -/
theorem mem_list (isLocal : own.IsLocal Texts.isBreak) (root : own.root = .ofItems items)
    (recognizes : Recognizes .none mark Texts.separator) {first : List Char}
    (taken : first ∈ own.texts) {others : List (List Char × List Char)}
    (each : ∀ other ∈ others, other.1 ∈ Texts.separator ∧ other.2 ∈ own.texts) {rest : List Char}
    (cut : Texts.Cut rest)
    (here : text.toList.drop start =
      first ++ ((others.flatMap fun other => other.1 ++ other.2) ++ rest)) :
    ⟨start + (first ++ others.flatMap fun other => other.1 ++ other.2).length, []⟩ ∈
      (listNode items mark).ways text .none ⟨start, []⟩ := by
  have behind : text.toList.drop (start + first.length) =
      (others.flatMap fun other => other.1 ++ other.2) ++ rest := by
    rw [← List.drop_drop, here, List.drop_left]
  have begins := (isLocal.leads_iff (.of_cut here
    ((Splits.cut_of_elements fun other listed => (each other listed).1).append cut))).mpr taken
  have room := congrArg List.length behind
  have enough := length_le_of_separators fun other listed => (each other listed).1
  simp only [List.length_drop, Array.length_toList, List.length_append] at room
  have left : others.length ≤ text.size - (start + first.length) + 1 := by omega
  have turns := isLocal.mem_turns root recognizes each cut behind left (Option.some_ne_none _).symm
  rw [listNode, Node.ways_ofItems_append, Node.ofItems_singleton, List.mem_flatMap, ← root]
  refine ⟨_, begins, ?_⟩
  simpa [Node.ways, Ways.repeated, Ways.required, turnsLeft, Nat.add_assoc] using turns

end IsLocal

end Pattern

/-! ## Lists of bare texts -/

/-- Texts with a comma and a blank between them. -/
theorem toList_intercalate_comma (first : String) (rest : List String) :
    (", ".intercalate (first :: rest)).toList = first.toList ++
      (rest.map fun text => ([',', ' '], text.toList)).flatMap fun other => other.1 ++ other.2 := by
  induction rest generalizing first with
  | nil => simp
  | cons second rest ih =>
    rw [String.intercalate_cons_of_ne_nil (by simp), String.toList_append, String.toList_append, ih]
    simp

variable {own : Pattern}

/-- The further texts of a list with commas, as elements with separators. -/
theorem comma_elements {rest : List String} (each : ∀ text ∈ rest, text.toList ∈ own.texts) :
    ∀ other ∈ rest.map fun text => ([',', ' '], text.toList),
      other.1 ∈ Texts.separator ∧ other.2 ∈ own.texts := by
  intro other listed
  obtain ⟨text, inside, rfl⟩ := List.mem_map.mp listed
  exact ⟨.inr ⟨[' '], by simpa using show isSpace ' ' = true by decide, rfl⟩, each text inside⟩

/-- Behind a keyword and one blank, a list leads over texts with commas up to the end of the line. -/
theorem Pattern.IsLocal.divides_list {items : List (Node × Standing)} {mark : Node}
    (isLocal : own.IsLocal Texts.isBreak) (root : own.root = .ofItems items)
    (recognizes : Recognizes .none mark Texts.separator) {first : String} {rest : List String}
    (each : ∀ text ∈ first :: rest, text.toList ∈ own.texts) {word : List Char} {line : Array Char}
    (written : line.toList = word ++ ' ' :: (", ".intercalate (first :: rest)).toList) (source : String) :
    Divides ⟨source, .none, listNode items mark, 0, []⟩ word line [' ']
      (", ".intercalate (first :: rest)).toList [] := by
  have here : line.toList.drop (word.length + [' '].length) = first.toList ++
      (((rest.map fun text => ([',', ' '], text.toList)).flatMap fun other => other.1 ++ other.2) ++ []) := by
    rw [written, ← List.drop_drop, List.drop_left, toList_intercalate_comma]
    simp
  have taken := isLocal.mem_list root recognizes (each first List.mem_cons_self)
    (comma_elements fun text listed => each text (List.mem_cons_of_mem first listed)) Texts.cut_nil here
  rw [← toList_intercalate_comma] at taken
  refine ⟨⟨by simp, ?_⟩, by simp, by simpa using written, _, taken⟩
  simpa using show isSpace ' ' = true by decide

/-- The value of a list of bare texts of a type without a conversion is the list of the texts. -/
theorem Capture.value_typedList {name : String} {type : ValueType} (plain : type.convert? = none)
    {splitter : Pattern} (splits : splitter.Splits own.texts) (delimited : Texts.Delimited own.texts)
    {first : String} {rest : List String}
    (each : ∀ text ∈ first :: rest, text.toList ∈ own.texts ∧
      ∀ c ∈ text.toList, Texts.isBareInList c = true) (asked : Option String) :
    (Capture.typedList name type splitter).value asked (", ".intercalate (first :: rest)) =
      .ok (.list ((first :: rest).map .text)) := by
  have elements := elementTexts_eq splits delimited (toList_intercalate_comma first rest)
    (each first List.mem_cons_self).1
    (comma_elements fun text listed => (each text (List.mem_cons_of_mem first listed)).1)
  have pieces : elementTexts splitter (", ".intercalate (first :: rest)) = first :: rest := by
    rw [elements]
    simp [Function.comp_def]
  have values : (first :: rest).mapM ((Capture.typedList name type splitter).single asked) =
      .ok ((first :: rest).map .text) := by
    rw [Except.mapM_eq_ok, List.forall₂_map_right_iff, List.forall₂_same]
    intro text listed
    rw [Capture.single, Fragment.unwrap_bare (each text listed).2]
    simp [Capture.typedList, ValueType.convert, plain]
  have isList : (Capture.typedList name type splitter).splitter = some splitter := rfl
  rw [Capture.value, isList]
  simp only [pieces, values]
  rfl

/-- Bare texts with commas between them neither begin nor end with white space. -/
theorem ends_of_bare {first : String} {rest : List String}
    (each : ∀ text ∈ first :: rest, text ≠ "" ∧ ∀ c ∈ text.toList, Texts.isBareInList c = true) :
    (∀ c ∈ (", ".intercalate (first :: rest)).toList.head?, isSpace c = false) ∧
      ∀ c ∈ (", ".intercalate (first :: rest)).toList.getLast?, isSpace c = false := by
  have bare {text : String} (listed : text ∈ first :: rest) {c : Char} (inside : c ∈ text.toList) :
      isSpace c = false := by
    have plain := (each text listed).2 c inside
    simp only [Texts.isBareInList, Texts.isBare, Bool.and_eq_true, Bool.not_eq_true'] at plain
    exact plain.1.2
  have filled {text : String} (listed : text ∈ first :: rest) : text.toList ≠ [] := by
    simpa using (each text listed).1
  rw [toList_intercalate_comma]
  constructor
  · obtain ⟨d, others, start⟩ := List.exists_cons_of_ne_nil (filled List.mem_cons_self)
    rintro c first'
    rw [start] at first'
    cases first'
    exact bare List.mem_cons_self (by simp [start])
  · rintro c last
    cases rest using List.reverseRecOn with
    | nil =>
      rw [List.map_nil, List.flatMap_nil, List.append_nil] at last
      exact bare List.mem_cons_self (List.mem_of_getLast? last)
    | append_singleton rest text =>
      have listed : text ∈ first :: (rest ++ [text]) := by simp
      obtain ⟨d, others, begins⟩ := List.exists_cons_of_ne_nil (filled listed)
      have stop : text.toList.getLast? = some c := by
        simpa [List.getLast?_append, begins] using last
      exact bare listed (List.mem_of_getLast? stop)

/-- The texts of a list of texts. -/
def Value.texts? : Value → Option (List String)
  | .list values => values.mapM fun
    | .text content => some content
    | _ => none
  | _ => none

namespace Expression

/-- A fragment that reads as a pattern on its own, that no bar divides and that is local up to white space
and commas is accepted as the pattern of a type. When its texts are delimited, and the set of characters
that it begins with accepts no fewer of them under the switches of the whole, a keyword and a list of this
type read every list of bare texts of the fragment, with commas between them, as these texts. -/
theorem typed_list_read {fragment word name typeName : String}
    (alone : Pattern.read fragment .none = .ok own) (groups : own.groups = 0)
    (switches : own.switches = .none) (undivided : Undivided fragment)
    (around : own.root.looksAround = false) (apart : own.root.CommitsApart Texts.isBreak .none)
    (keeps : own.root.KeepsLead .none) (delimited : Texts.Delimited own.texts) (keyword : IsKeyword word)
    (named : IsKeyword name) (isType : IsTypeName typeName) (types : TypeTable) :
    ∃ typed expression, types.register typeName fragment none = .ok typed ∧
      Expression.compile typed (word ++ " *" ++ name ++ "@" ++ typeName) = .ok expression ∧
      ∀ texts : List String, texts ≠ [] →
        (∀ text ∈ texts, own.matchesFully text.toList = true ∧
          ∀ c ∈ text.toList, Texts.isBareInList c = true) →
        ∃ reading, expression.read (word ++ " " ++ ", ".intercalate texts) = .ok (some reading) ∧
          reading.value (.name name) = .ok (.list (texts.map .text)) := by
  obtain ⟨items, settles, root⟩ := Settles.of_read alone groups switches undivided
  obtain ⟨nodes, enclosed, tree⟩ := Enclosed.of_read alone groups switches
  have isLocal : own.IsLocal Texts.isBreak :=
    ⟨switches, captures_eq_zero alone groups switches, around, apart⟩
  obtain ⟨typed, registered, known⟩ := types.exists_register typeName alone groups switches none
  obtain ⟨splitter, isSplitter, splits⟩ := isLocal.exists_splits keeps enclosed tree
  obtain ⟨mark, recognizes, list⟩ := settles.oneOrMoreOf
  obtain ⟨expression, compiled, parts⟩ := @compile_typedList
    ⟨Fragment.oneOrMoreOf fragment, .none, listNode items mark, 0, []⟩ _ _ _ _ _ known keyword named isType
    _ (Branches.one list.spells).enclosed rfl _ isSplitter
  refine ⟨typed, expression, registered, compiled, fun texts some each => ?_⟩
  obtain ⟨first, rest, rfl⟩ := List.exists_cons_of_ne_nil some
  have filled : ∀ text ∈ first :: rest, text ≠ "" := by
    rintro text listed rfl
    exact delimited.nonempty (each "" listed).1
  obtain ⟨start, stop⟩ := ends_of_bare fun text listed => ⟨filled text listed, (each text listed).2⟩
  have written : (word ++ " " ++ ", ".intercalate (first :: rest)).toList.toArray.toList =
      word.toList ++ ' ' :: (", ".intercalate (first :: rest)).toList := by
    simp
  have divides := isLocal.divides_list root recognizes (fun text listed => (each text listed).1) written
    (Fragment.oneOrMoreOf fragment)
  refine parts.exists_read divides (fun other => other.captured_eq written start stop) ?_
  rw [String.ofList_toList]
  exact Capture.value_typedList rfl splits delimited each _

/-- Three words, two of which share a beginning, are delimited, and a list of all of them is read. -/
theorem typed_list_read_sizes :
    ∃ typed expression reading, TypeTable.numeric.register "Size" "(?:s|sm|med)" none = .ok typed ∧
      Expression.compile typed ("order" ++ " *" ++ "sizes" ++ "@" ++ "Size") = .ok expression ∧
      expression.read ("order" ++ " " ++ ", ".intercalate ["sm", "s", "med"]) = .ok (some reading) ∧
      reading.value (.name "sizes") = .ok (.list (["sm", "s", "med"].map .text)) := by
  have unit : IsUnit .none "(?:s|sm|med)".toList
      (Texts.exactly ['s'] + (Texts.exactly ['s', 'm'] + Texts.exactly ['m', 'e', 'd'])) :=
    ((IsRun.exactly ['s']).orElse ((IsRun.exactly ['s', 'm']).orElse
      (IsRun.exactly ['m', 'e', 'd']).choice)).group
  obtain ⟨own, alone, full⟩ := unit.run.read
  have words (piece : List Char) : piece ∈ own.texts ↔ piece ∈ [['s'], ['s', 'm'], ['m', 'e', 'd']] :=
    (full piece).trans (by simp [Language.mem_add])
  have delimited : Texts.Delimited own.texts := by
    refine .of_unbroken (by simp [words]) fun text listed => ?_
    have unbroken : ∀ text ∈ [['s'], ['s', 'm'], ['m', 'e', 'd']], ∀ c ∈ text,
        Texts.isBreak c = false := by decide
    exact unbroken text ((words text).mp listed)
  have known : ((Pattern.read "(?:s|sm|med)" .none).toOption.any fun own =>
      own.groups = 0 ∧ own.switches = .none ∧ own.root.looksAround = false ∧
        own.root.CommitsApart Texts.isBreak .none ∧
          (own.root.leading? .none).join.all (·.isAlike .none) = true) = true := by
    decide +kernel
  rw [alone, Except.toOption, Option.any_some, decide_eq_true_iff] at known
  obtain ⟨groups, switches, around, apart, alike⟩ := known
  have keyword : IsKeyword "order" := by decide +kernel
  have named : IsKeyword "sizes" := by decide +kernel
  have type : IsTypeName "Size" := by decide +kernel
  obtain ⟨typed, expression, registered, compiled, reads⟩ := typed_list_read alone groups switches
    (by decide +kernel) around apart (.of_isAlike alike) delimited keyword named type .numeric
  obtain ⟨reading, read, value⟩ := reads ["sm", "s", "med"] (by simp) fun text listed => by
    refine ⟨(words text.toList).mpr ?_, ?_⟩
    · have each : ∀ text ∈ ["sm", "s", "med"], text.toList ∈ [['s'], ['s', 'm'], ['m', 'e', 'd']] := by
        decide
      exact each text listed
    · have bare : ∀ text ∈ ["sm", "s", "med"], ∀ c ∈ text.toList, Texts.isBareInList c = true := by
        decide
      exact bare text listed
  exact ⟨typed, expression, reading, registered, compiled, read, value⟩

/-- A pattern that a type may have and that does not look around, some bare texts that it matches in full,
and the texts that a keyword and a list of the type read a list of these as, if it is matched. -/
def ListRead (fragment : String) (texts : List String) (outcome : Option (List String)) : Prop :=
  ∃ own typed expression found, Pattern.read fragment .none = .ok own ∧
    TypeTable.numeric.register "T" fragment none = .ok typed ∧
    Expression.compile typed "w *xs@T" = .ok expression ∧
    expression.read ("w" ++ " " ++ ", ".intercalate texts) = .ok found ∧
    (own.groups = 0 ∧ own.switches = .none ∧ own.root.looksAround = false ∧
      ∀ text ∈ texts, own.matchesFully text.toList = true ∧
        ∀ c ∈ text.toList, Texts.isBareInList c = true) ∧
    found.map (fun reading => (reading.value (.name "xs")).toOption.bind Value.texts?) = outcome.map some

/-- Every part of this can be computed. -/
theorem ListRead.of_computed {fragment : String} {texts : List String} {outcome : Option (List String)}
    (computed : ((Pattern.read fragment .none).toOption.any fun own =>
      (TypeTable.numeric.register "T" fragment none).toOption.any fun typed =>
        (Expression.compile typed "w *xs@T").toOption.any fun expression =>
          (expression.read ("w" ++ " " ++ ", ".intercalate texts)).toOption.any fun found =>
            (own.groups = 0 ∧ own.switches = .none ∧ own.root.looksAround = false ∧
              ∀ text ∈ texts, own.matchesFully text.toList = true ∧
                ∀ c ∈ text.toList, Texts.isBareInList c = true) ∧
            found.map (fun reading => (reading.value (.name "xs")).toOption.bind Value.texts?) =
              outcome.map some) = true) : ListRead fragment texts outcome := by
  obtain ⟨own, alone, computed⟩ := (Option.any_eq_true _ _).mp computed
  obtain ⟨typed, registered, computed⟩ := (Option.any_eq_true _ _).mp computed
  obtain ⟨expression, compiled, computed⟩ := (Option.any_eq_true _ _).mp computed
  obtain ⟨found, read, computed⟩ := (Option.any_eq_true _ _).mp computed
  exact ⟨own, typed, expression, found, Except.eq_ok_of_toOption alone, Except.eq_ok_of_toOption registered,
    Except.eq_ok_of_toOption compiled, Except.eq_ok_of_toOption read, of_decide_eq_true computed⟩

/-- Without these conditions a list of texts of a pattern may be read otherwise, or not at all: an empty
text is found wherever a separator begins, a text that begins with a comma or goes on with one takes the
comma with it, an atomic part goes on into the separator and does not come back, and a bar ends the branch
of the list. A set that excludes ASCII letters matches other letters as well, but a search that takes it to
exclude all letters passes over them. -/
theorem typed_list_read_otherwise :
    ListRead "a*" ["a", "a"] (some ["a", "", "", "a", ""]) ∧
    ListRead "(?:, )?a" ["a", "a"] (some ["a", ", a"]) ∧
    ListRead "[a,]+" ["a", "a"] (some ["a,", "a"]) ∧
    ListRead "(?>ab,b*|a)b" ["ab", "ab"] none ∧
    ListRead "a|b" ["a", "b"] none ∧
    ListRead "(?a:[^\\w\\x00-,\\x85\\xa0\\u1680\\u2000-\\u3000])" ["é", "é"] (some []) :=
  ⟨.of_computed (by decide +kernel), .of_computed (by decide +kernel),
    .of_computed (by decide +kernel), .of_computed (by decide +kernel),
    .of_computed (by decide +kernel), .of_computed (by decide +kernel)⟩

end Expression

end LineGrammar
