import LineGrammar.Proofs.Alignment

/-!
# Choices in braces

Braces behind a name list the words that its capture may take. They win over the type of the capture, so
whatever the other captures take, the text of an argument with braces is one of the words, apart from
case, and so is each element of a list with braces. The words are what stands between the commas.

Braces with nothing but commas between them list no word. They do not make a capture that takes nothing:
the capture takes what it would take without braces.
-/

namespace LineGrammar

open LineGrammar.Text LineGrammar.Pattern LineGrammar.Phrase

/-! ## The words between braces -/

/-- What stands between two commas holds every other character of the whole. -/
theorem exists_mem_splitOn {content : List Char} {separator c : Char} (inside : c ∈ content)
    (other : c ≠ separator) : ∃ part ∈ content.splitOn separator, c ∈ part := by
  induction content with
  | nil => cases inside
  | cons first rest ih =>
    rw [List.splitOn_cons_eq_if_modifyHead]
    rcases List.mem_cons.mp inside with rfl | inside
    · rw [if_neg (by simpa using other)]
      obtain ⟨head, tail, parts⟩ := List.exists_cons_of_ne_nil (List.splitOn_ne_nil separator rest)
      exact ⟨c :: head, by simp [parts], List.mem_cons_self⟩
    · obtain ⟨part, listed, within⟩ := ih inside
      split
      · exact ⟨part, List.mem_cons_of_mem _ listed, within⟩
      · obtain ⟨head, tail, parts⟩ := List.exists_cons_of_ne_nil (List.splitOn_ne_nil separator rest)
        rw [parts] at listed ⊢
        rcases List.mem_cons.mp listed with rfl | listed
        · exact ⟨first :: part, List.mem_cons_self, List.mem_cons_of_mem _ within⟩
        · exact ⟨part, List.mem_cons_of_mem _ listed, within⟩

namespace Token

/-- A text is one of the words that braces list, apart from case. -/
def Listed (content text : List Char) : Prop :=
  ∃ word ∈ content.splitOn ',', word ≠ [] ∧ text ∈ Texts.agreeing word

/-- A text is listed when it agrees with one of the words between the commas. -/
theorem listed_iff {content text : List Char} :
    Listed content text ↔ text ∈ Texts.agreeingWithAny (choiceWords content) := by
  simp [Listed, choiceWords, and_assoc]

/-- What is read as one of the words is listed. -/
theorem listed_of_mem_oneOf {content text : List Char} (taken : text ∈ Texts.oneOf (choiceWords content)) :
    Listed content text :=
  listed_iff.mpr (Texts.mem_agreeingWithAny_of_mem_oneOf taken)

/-- Braces list a word if there is anything but commas between them. -/
theorem exists_choiceWords {content : List Char} (lists : ∃ c ∈ content, c ≠ ',') :
    ∃ first rest, choiceWords content = first :: rest := by
  obtain ⟨c, inside, other⟩ := lists
  obtain ⟨part, listed, within⟩ := exists_mem_splitOn inside other
  refine List.exists_cons_of_ne_nil (List.ne_nil_of_mem (a := String.ofList part) ?_)
  exact List.mem_map_of_mem (List.mem_filter.mpr ⟨listed, by simp [List.ne_nil_of_mem within]⟩)

/-- A token whose braces list a word stands for these words, one of them or a list of them. -/
theorem Chooses.of_choiceWords {token : Token} {content : List Char}
    (braced : token.choices = some (choiceWords content)) (lists : ∃ c ∈ content, c ≠ ',')
    (argument : token.kind = .argument ∨ token.kind = .argumentList) :
    token.Chooses (if token.kind = .argumentList then Texts.listOf (Texts.oneOf (choiceWords content))
      else Texts.oneOf (choiceWords content)) := by
  obtain ⟨first, rest, words⟩ := exists_choiceWords lists
  refine ⟨⟨first, rest, words ▸ braced⟩, fun ofType => ?_⟩
  rw [words] at braced
  rcases argument with is | is <;> simp [bodies, elements, is, braced, words]

end Token

/-! ## What is noted for a capture with choices -/

/-- The span of a group in a match is the last one that was noted for it. -/
theorem Pattern.exists_piece_of_span {pattern : Pattern} {number : Nat} {pieces : Language Char}
    (notes : pattern.root.Notes number pieces pattern.switches) {line : Array Char} {found : Match}
    (matched : pattern.matchStart line = some found) (counted : number ≠ 0) {group : String}
    (took : Reading.groupText? line found number = some group) : group.toList ∈ pieces := by
  rw [matchStart_eq] at matched
  obtain ⟨place, first, rfl⟩ := Option.map_eq_some_iff.mp matched
  obtain ⟨⟨start, stop⟩, span, rfl⟩ := Option.map_eq_some_iff.mp took
  rw [Match.span?, if_neg counted] at span
  obtain ⟨before, after, noted, -⟩ := List.lookup_eq_some_iff.mp span
  have listed : (number, start, stop) ∈ place.groups := by
    rw [show place.groups = _ from noted]
    exact List.mem_append_right _ List.mem_cons_self
  rcases notes line _ _ (List.mem_of_mem_head? first) start stop listed with
    none | ⟨piece, taken, held, rfl⟩
  · cases none
  · rw [slice_of_holds held, String.toList_ofList]
    exact taken

section Standing

variable {types : TypeTable} {text : String} {expression : Expression}

/-- Under standing types, the group of a token with choices takes texts of the token only. -/
theorem Expression.groupText_chosen (standing : types.Standing)
    (compiled : Expression.compile types text = .ok expression) :
    ∃ phrase, Phrase.of text = .ok phrase ∧
      List.Forall₂ (fun token capture => Capture.Of types token capture) phrase.capturing
        expression.captures ∧
      ∀ (index : Nat) (token : Token) (pieces : Language Char), phrase.capturing[index]? = some token →
        token.Chooses pieces → ∀ (line : Array Char) (found : Match) (group : String),
          expression.pattern.matchStart line = some found →
            Reading.groupText? line found (index + 1) = some group → group.toList ∈ pieces := by
  obtain ⟨phrase, read, body, captures, parts, pattern, isPattern, rfl⟩ := compile_eq_ok.mp compiled
  refine ⟨phrase, read, compiled_captures parts, fun index token pieces isToken chooses line found group
    matched took => ?_⟩
  have named := fun token listed => (Phrase.of_wellFormed read token listed).named
  obtain ⟨items, spelled⟩ := wholeLine_standing standing named parts
  rw [spelled.spells.read_eq] at isPattern
  cases isPattern
  refine Pattern.exists_piece_of_span ?_ matched (Nat.succ_ne_zero index) took
  have chosen : Token.ChosenAt phrase.capturing 0 (index + 1) pieces := by
    intro other token' listed same
    obtain rfl : other = index := by omega
    rw [isToken] at listed
    exact Option.some.inj listed ▸ chooses
  exact spelled.notes 0 (index + 1) pieces chosen

end Standing

/-- The splitter of a list of words finds words. -/
theorem Capture.Of.elementTexts_listed {types : TypeTable} {token : Token} {capture : Capture}
    (of : capture.Of types token) (list : token.kind = .argumentList) {content : List Char}
    (braced : token.choices = some (Token.choiceWords content)) (lists : ∃ c ∈ content, c ≠ ',')
    (wellFormed : token.WellFormed) {group : String}
    (taken : group.toList ∈ Texts.listOf (Texts.oneOf (Token.choiceWords content))) :
    ∃ splitter, capture.splitter = some splitter ∧
      ∀ element ∈ elementTexts splitter group, Token.Listed content element.toList := by
  obtain ⟨type, splitter, -, isSplitter, rfl⟩ := of.list list
  obtain ⟨first, rest, words⟩ := Token.exists_choiceWords lists
  have delimited := Texts.delimited_oneOf (wellFormed.choices _ braced)
  rw [words] at braced taken delimited
  have oneOf : token.element type = Fragment.oneOf (first :: rest) := by simp [Token.element, braced]
  obtain ⟨other, isOther, splits⟩ := splitter_read (IsUnit.oneOf first rest)
  rw [← oneOf, isSplitter] at isOther
  cases isOther
  obtain ⟨head, inside, others, each, written⟩ := Texts.mem_listOf.mp taken
  refine ⟨splitter, rfl, fun element listed => ?_⟩
  rw [elementTexts_eq splits delimited written inside each] at listed
  obtain ⟨piece, among, rfl⟩ := List.mem_map.mp listed
  rw [String.toList_ofList]
  refine Token.listed_of_mem_oneOf (words ▸ ?_)
  rcases List.mem_cons.mp among with rfl | among
  · exact inside
  · obtain ⟨other, later, rfl⟩ := List.mem_map.mp among
    exact (each other later).2

namespace Expression

/-- As long as what is registered stands alone, braces that list a word are enforced, whatever has been
asked of the table before: in every match, the text of an argument with such braces is one of the words
between the commas, apart from case, and so is every text that the splitter of a list with such braces
finds in the text of the list. -/
theorem choices_enforced {start : TypeTable} (fresh : start.Fresh) {requests : List TypeTable.Request}
    (sound : ∀ request ∈ requests, request.Sound) {text : String} {expression : Expression}
    (compiled : Expression.compile (requests.foldl TypeTable.after start) text = .ok expression) :
    ∃ phrase, Phrase.of text = .ok phrase ∧ phrase.capturing.length = expression.captures.length ∧
      ∀ (index : Nat) (token : Token) (content : List Char), phrase.capturing[index]? = some token →
        token.choices = some (Token.choiceWords content) → (∃ c ∈ content, c ≠ ',') →
          ∀ (line : Array Char) (found : Match) (group : String),
            expression.pattern.matchStart line = some found →
              Reading.groupText? line found (index + 1) = some group →
                ∃ capture, expression.captures[index]? = some capture ∧ capture.name = token.name ∧
                  (token.kind = .argument → Token.Listed content group.toList) ∧
                  (token.kind = .argumentList → ∃ splitter, capture.splitter = some splitter ∧
                    ∀ element ∈ elementTexts splitter group, Token.Listed content element.toList) := by
  obtain ⟨phrase, read, aligned, chosen⟩ := groupText_chosen (fresh.standing.run sound) compiled
  refine ⟨phrase, read, aligned.length_eq, fun index token content isToken braced lists line found group
    matched took => ?_⟩
  have bound : index < expression.captures.length :=
    aligned.length_eq ▸ (List.getElem?_eq_some_iff.mp isToken).1
  have isCapture := List.getElem?_eq_getElem bound
  have of := rel_of_getElem? aligned isToken isCapture
  have stands (argument : token.kind = .argument ∨ token.kind = .argumentList) :=
    chosen index token _ isToken (.of_choiceWords braced lists argument) line found group matched took
  refine ⟨_, isCapture, of.name_kind.1, fun argument => ?_, fun list => ?_⟩
  · have taken := stands (.inl argument)
    rw [if_neg (by simp [argument])] at taken
    exact Token.listed_of_mem_oneOf taken
  · have taken := stands (.inr list)
    rw [if_pos list] at taken
    exact of.elementTexts_listed list braced lists
      (Phrase.of_wellFormed read token (List.mem_of_mem_filter (List.mem_of_getElem? isToken))) taken

/-- Two colours, one of them in capitals, are enforced as the elements of a list. -/
theorem choices_enforced_list :
    ∃ expression found capture splitter, Expression.compile
        ([.register "T" "left|right" none].foldl TypeTable.after .numeric)
          "paint *colors\x7bred,blue\x7d :x@T" = .ok expression ∧
      expression.pattern.matchStart "paint RED, blue left".toList.toArray = some found ∧
      Reading.groupText? "paint RED, blue left".toList.toArray found 1 = some "RED, blue" ∧
      expression.captures[0]? = some capture ∧ capture.splitter = some splitter ∧
      ∀ element ∈ elementTexts splitter "RED, blue", Token.Listed "red,blue".toList element.toList := by
  have sound : ∀ request ∈ [TypeTable.Request.register "T" "left|right" none], request.Sound := by
    decide +kernel
  have matched : ((Expression.compile ([.register "T" "left|right" none].foldl TypeTable.after .numeric)
      "paint *colors\x7bred,blue\x7d :x@T").toOption.bind fun expression =>
        expression.pattern.matchStart "paint RED, blue left".toList.toArray) =
          some ⟨0, 20, [(2, 16, 20), (1, 6, 15)]⟩ := by
    decide +kernel
  have braced : ((Phrase.of "paint *colors\x7bred,blue\x7d :x@T").toOption.bind (·.capturing[0]?)) =
      some ⟨.argumentList, "colors", none, none, some (Token.choiceWords "red,blue".toList)⟩ := by
    decide +kernel
  obtain ⟨expression, compiled, found⟩ := Option.bind_eq_some_iff.mp matched
  have compiled := Except.eq_ok_of_toOption compiled
  obtain ⟨phrase, read, -, enforced⟩ := choices_enforced (.inl rfl) sound compiled
  rw [read] at braced
  have took : Reading.groupText? "paint RED, blue left".toList.toArray
      ⟨0, 20, [(2, 16, 20), (1, 6, 15)]⟩ 1 = some "RED, blue" := by
    decide +kernel
  obtain ⟨capture, isCapture, -, -, listed⟩ := enforced 0 _ _ braced rfl ⟨'r', by decide⟩ _ _ _ found took
  obtain ⟨splitter, isSplitter, each⟩ := listed rfl
  exact ⟨expression, _, capture, splitter, compiled, found, took, isCapture, isSplitter, each⟩

/-- Braces with nothing but a comma between them list no word, and the argument is any argument. -/
theorem choices_unenforced :
    ∃ phrase token expression found, Phrase.of "w :x\x7b,\x7d" = .ok phrase ∧
      phrase.capturing[0]? = some token ∧ token.choices = some (Token.choiceWords [',']) ∧
      Expression.compile .numeric "w :x\x7b,\x7d" = .ok expression ∧
      expression.pattern.matchStart "w z".toList.toArray = some found ∧
      Reading.groupText? "w z".toList.toArray found 1 = some "z" ∧ ¬Token.Listed [','] "z".toList := by
  have braced : (Phrase.of "w :x\x7b,\x7d").toOption.bind (·.capturing[0]?) =
      some ⟨.argument, "x", none, none, some (Token.choiceWords [','])⟩ := by
    decide +kernel
  have matched : ((Expression.compile .numeric "w :x\x7b,\x7d").toOption.bind fun expression =>
      expression.pattern.matchStart "w z".toList.toArray) = some ⟨0, 3, [(1, 2, 3)]⟩ := by
    decide +kernel
  obtain ⟨phrase, read, isToken⟩ := Option.bind_eq_some_iff.mp braced
  obtain ⟨expression, compiled, found⟩ := Option.bind_eq_some_iff.mp matched
  refine ⟨phrase, _, expression, _, Except.eq_ok_of_toOption read, isToken, rfl,
    Except.eq_ok_of_toOption compiled, found, by decide +kernel, ?_⟩
  rw [Token.listed_iff, show Token.choiceWords [','] = [] by decide]
  rintro ⟨word, none, -⟩
  cases none

end Expression

end LineGrammar
