import LineGrammar.Proofs.Fragments
import LineGrammar.Proofs.Walks

/-!
# The lines of an expression

The pattern of an expression leads over the lines of its fillings: to every place that a filling can
reach, with every capture of the filling noted, and to no other. The laziest filling comes first. This
is shown along the phrase. From it follow both directions between patterns and lines. Every line that is
built along a selection is matched, and every line that is matched is built along a closed selection,
with the captures where the match has them.

All of this holds under any table of types whose fragments are units with a language of their own, such
as the six types that are there from the start.
-/

namespace LineGrammar

open LineGrammar.Text LineGrammar.Pattern LineGrammar.Phrase

/-- The fragments of a table are units that mean the texts of their types. -/
def TypeTable.Means (types : TypeTable) (ofType : String → Language Char) : Prop :=
  ∀ name type, types.lookup name = some type → IsUnit .none type.pattern.toList (ofType name)

/-- The numeric types are kept under their names. -/
theorem TypeTable.numeric_listed {name : String} {type : ValueType}
    (found : TypeTable.numeric.lookup name = some type) :
    type ∈ ValueType.numeric ∧ type.name = name := by
  have entries : TypeTable.numeric.types.entries =
      ValueType.numeric.map fun type => (type.name, type) := by rfl
  obtain ⟨before, after, split, _⟩ := List.lookup_eq_some_iff.mp found
  have inside : (name, type) ∈ ValueType.numeric.map fun type => (type.name, type) := by
    rw [← entries, split]
    simp
  obtain ⟨other, listed, same⟩ := List.mem_map.mp inside
  cases same
  exact ⟨listed, rfl⟩

/-- The types that are there from the start stand for the numerals. -/
theorem TypeTable.numeric_means : TypeTable.numeric.Means Texts.ofType := by
  intro name type found
  obtain ⟨listed, rfl⟩ := numeric_listed found
  exact IsUnit.numeric listed

/-! ## Tokens as patterns -/

/-- A text is read as a pattern that walks a token. -/
def Token.SpelledBy (ofType : String → Language Char) (token : Token) (text : List Char) : Prop :=
  ∃ items, Spells text token.groups items ∧ ∀ line opened,
    token.Walked ofType line opened ((Node.ofItems (items opened)).ways line .none)

namespace Token.SpelledBy

variable {ofType : String → Language Char} {token : Token} {text : List Char}

/-- A token that captures nothing is spelled by any text with its language. -/
theorem run (run : IsRun .none text (token.bodies ofType)) (plain : token.kind.captures = false) :
    token.SpelledBy ofType text := by
  obtain ⟨items, spelled, recognizes, -⟩ := run
  refine ⟨fun _ => items, by simpa [Token.groups, plain] using spelled, fun line opened => ⟨?_, ?_⟩⟩
  · intro place next
    simpa [Token.passed, plain] using recognizes line place next
  · intro free
    rw [free] at plain
    cases plain

/-- A token that captures is spelled by branches in parentheses that have its language. Those of free
text take the shortest way first. -/
theorem group {nodes : List Node} (branches : Branches text 0 fun _ => nodes)
    (recognizes : Recognizes .none (.ofBranches nodes) (token.bodies ofType))
    (rising : token.kind = .freeText → ∀ line, ((Node.ofBranches nodes).ways line .none).Rising)
    (captures : token.kind.captures = true) : token.SpelledBy ofType ('(' :: (text ++ [')'])) := by
  have spelled := (branches.enclosed.group Opens.capture).spells
  refine ⟨_, by simpa [Token.groups, captures] using spelled, fun line opened => ⟨?_, ?_⟩⟩
  · intro place next
    simp only [Node.ofItems_singleton, Bracket.enclosed, Node.ways, List.mem_map,
      recognizes line place, Token.passed, captures, if_true]
    constructor
    · rintro ⟨_, ⟨body, taken, held, rfl⟩, rfl⟩
      exact ⟨body, taken, held, rfl⟩
    · rintro ⟨body, taken, held, rfl⟩
      exact ⟨_, ⟨body, taken, held, rfl⟩, rfl⟩
  · intro free place
    simp only [Node.ofItems_singleton, Bracket.enclosed, Node.ways]
    exact (rising free line place).map _ fun _ _ sooner => sooner

/-- A token that captures something else than free text is spelled by its language in parentheses. -/
theorem capture (choice : IsChoice .none text (token.bodies ofType))
    (captures : token.kind.captures = true) (bounded : token.kind ≠ .freeText) :
    token.SpelledBy ofType ('(' :: (text ++ [')'])) := by
  obtain ⟨nodes, _, branches, recognizes, -⟩ := choice
  exact group branches (recognizes.ofBranches rfl) (fun free => absurd free bounded) captures

end Token.SpelledBy

/-- The fragment for one element of a capture means the elements of the token. -/
theorem Token.element_isUnit {types : TypeTable} {ofType : String → Language Char}
    (means : types.Means ofType) {token : Token} {type : Option ValueType}
    (typed : token.typeIn types = .ok type) :
    IsUnit .none (token.element type).toList (token.elements ofType) := by
  obtain ⟨kind, name, remark, reference, choices⟩ := token
  have unconstrained : IsUnit .none
      (if kind = .argumentList then Fragment.listArgument else Fragment.argument).toList
      (if kind = .argumentList then Texts.listArgument else Texts.argument) := by
    split
    · exact IsUnit.listArgument
    · exact IsUnit.argument
  have without : choices = none ∨ choices = some [] →
      IsUnit .none (Token.element ⟨kind, name, remark, reference, choices⟩ type).toList
        (Token.elements ofType ⟨kind, name, remark, reference, choices⟩) := by
    intro free
    cases reference with
    | none =>
      cases typed
      rcases free with rfl | rfl <;> exact unconstrained
    | some reference =>
      simp only [typeIn] at typed
      cases found : types.lookup reference with
      | none =>
        rw [found] at typed
        cases typed
      | some type =>
        rw [found] at typed
        cases typed
        rcases free with rfl | rfl <;> exact means reference type found
  match choices, without with
  | some (first :: rest), _ => exact IsUnit.oneOf first rest
  | some [], without => exact without (.inr rfl)
  | none, without => exact without (.inl rfl)

/-- A compiled token has a capture if its kind captures. -/
theorem Token.length_compiled {types : TypeTable} {token : Token} {fragment : String}
    {captures : List Capture} (compiled : token.compiled types = .ok (fragment, captures)) :
    captures.length = token.groups := by
  obtain ⟨kind, name, remark, reference, choices⟩ := token
  cases kind with
  | symbol =>
    cases compiled
    rfl
  | word =>
    cases compiled
    rfl
  | freeText =>
    cases compiled
    rfl
  | argument =>
    obtain ⟨type, -, same⟩ := Except.bind_eq_ok.mp compiled
    cases same
    rfl
  | argumentList =>
    obtain ⟨type, -, rest⟩ := Except.bind_eq_ok.mp compiled
    obtain ⟨splitter, -, same⟩ := Except.bind_eq_ok.mp rest
    cases same
    rfl

/-- The fragment of a token begins with white space, except that symbols take none. -/
def Token.Leads (token : Token) (fragment : String) (body : List Char) : Prop :=
  fragment.toList = (if token.kind = .symbol then [] else Fragment.separator.toList) ++ body ∧
    (token.kind = .symbol → body = escapedChars token.name.toList)

/-- A compiled token is white space and a text that spells it, except that symbols take no white
space. -/
theorem Token.compiled_spelled {types : TypeTable} {ofType : String → Language Char}
    (means : types.Means ofType) {token : Token} {fragment : String} {captures : List Capture}
    (compiled : token.compiled types = .ok (fragment, captures)) :
    ∃ body, token.Leads fragment body ∧ token.SpelledBy ofType body := by
  obtain ⟨kind, name, remark, reference, choices⟩ := token
  cases kind with
  | symbol =>
    cases compiled
    exact ⟨escapedChars name.toList, ⟨by simp [escaped], fun _ => rfl⟩,
      .run (IsRun.exactly name.toList) rfl⟩
  | word =>
    cases compiled
    exact ⟨escapedChars name.toList, ⟨by simp [escaped], by simp⟩,
      .run (IsRun.exactly name.toList) rfl⟩
  | freeText =>
    cases compiled
    obtain ⟨node, operand, recognizes, -, rising⟩ := exists_freeText
    exact ⟨_, ⟨by simp [captured], by simp⟩,
      .group (Branches.one operand.spells) recognizes (fun _ => rising) rfl⟩
  | argument =>
    obtain ⟨type, typed, same⟩ := Except.bind_eq_ok.mp compiled
    cases same
    exact ⟨_, ⟨by simp [captured], by simp⟩, .capture (element_isUnit means typed).run.choice rfl (by simp)⟩
  | argumentList =>
    obtain ⟨type, typed, rest⟩ := Except.bind_eq_ok.mp compiled
    obtain ⟨splitter, _, same⟩ := Except.bind_eq_ok.mp rest
    cases same
    exact ⟨_, ⟨by simp [captured], by simp⟩,
      .capture (element_isUnit means typed).oneOrMoreOf.run.choice rfl (by simp)⟩

/-! ## Phrases as patterns -/

/-- A text is read as a pattern that walks a phrase. -/
def Phrase.SpelledBy (ofType : String → Language Char) (atStart : Bool) (phrase : Phrase)
    (text : List Char) : Prop :=
  ∃ items, Spells text phrase.capturing.length items ∧ ∀ line opened,
    phrase.Walked ofType atStart line opened ((Node.ofItems (items opened)).ways line .none)

namespace Phrase.SpelledBy

variable {ofType : String → Language Char} {atStart : Bool} {text more : List Char}

/-- An empty phrase is spelled by nothing. -/
theorem done : Phrase.done.SpelledBy ofType atStart [] :=
  ⟨fun _ => [], Spells.nil, fun _ _ => Walked.done⟩

/-- White space, a token, and what follows. -/
theorem token {first : Token} {rest : Phrase} {gap : List Char}
    (spaces : IsRun .none gap (first.gaps atStart)) (spelled : first.SpelledBy ofType text)
    (others : rest.SpelledBy ofType false more) :
    (Phrase.token first rest).SpelledBy ofType atStart (gap ++ (text ++ more)) := by
  obtain ⟨blanks, spelledGap, recognizes, -⟩ := spaces
  obtain ⟨items, spelled, walked⟩ := spelled
  obtain ⟨later, spelledOthers, walkedOthers⟩ := others
  refine ⟨fun opened => later (opened + first.groups) ++ items opened ++ blanks,
    by simpa using spelledGap.append (spelled.append spelledOthers), fun line opened => ?_⟩
  have parts : (Node.ofItems (later (opened + first.groups) ++ items opened ++ blanks)).ways line
      .none = fun place => ((Node.ofItems blanks).ways line .none place).flatMap fun next =>
        ((Node.ofItems (items opened)).ways line .none next).flatMap
          ((Node.ofItems (later (opened + first.groups))).ways line .none) := by
    funext place
    rw [Node.ways_ofItems_append]
    congr 1
    funext next
    exact Node.ways_ofItems_append line .none _ _ next
  rw [parts]
  exact .token (recognizes line) (walked line opened) (walkedOthers line (opened + first.groups))

/-- A group that may be left out, and what follows. -/
theorem optional {inner rest : Phrase} (inside : inner.SpelledBy ofType false text)
    (others : rest.SpelledBy ofType false more) :
    (Phrase.optional inner rest).SpelledBy ofType atStart
      (['(', '?', ':'] ++ text ++ [')'] ++ ['?', '?'] ++ more) := by
  obtain ⟨items, spelled, walked⟩ := inside
  obtain ⟨later, spelledOthers, walkedOthers⟩ := others
  have group := (Branches.one spelled).group Opens.plain
  have maybe := Spells.lazy group (by simp) .question
  refine ⟨_, by simpa using maybe.append spelledOthers, fun line opened => ?_⟩
  have parts : (Node.ofItems (later (opened + inner.capturing.length) ++
      [(Node.repetition .lazy 0 (some 1) (.ofItems (items opened)), .repetition)])).ways line .none =
        fun place => (place :: (Node.ofItems (items opened)).ways line .none place).flatMap
          ((Node.ofItems (later (opened + inner.capturing.length))).ways line .none) := by
    funext place
    simp only [Node.ways_ofItems_append, Node.ofItems_singleton, Node.ways_lazyOptional]
  simp only [Bracket.enclosed, Node.ofBranches, Node.ofChoices, parts]
  exact .optional (walked line opened) (walkedOthers line (opened + inner.capturing.length))

end Phrase.SpelledBy

/-- A compiled phrase is spelled by its fragment. -/
theorem Phrase.compiled_spelled {types : TypeTable} {ofType : String → Language Char}
    (means : types.Means ofType) {phrase : Phrase} {fragment : String} {captures : List Capture}
    (compiled : phrase.compiled types = .ok (fragment, captures)) :
    phrase.SpelledBy ofType false fragment.toList := by
  induction phrase generalizing fragment captures with
  | done =>
    cases compiled
    exact .done
  | token first rest ih =>
    obtain ⟨front, firsts, here, after, more, others, rfl, rfl⟩ := compiled_token_eq_ok.mp compiled
    obtain ⟨body, ⟨shape, -⟩, spelled⟩ := Token.compiled_spelled means here
    have spaces : IsRun .none (if first.kind = .symbol then [] else Fragment.separator.toList)
        (first.gaps false) := by
      by_cases symbol : first.kind = .symbol
      · simpa [Token.gaps, symbol, escapedChars] using IsRun.exactly []
      · simpa [Token.gaps, symbol] using IsRun.gap
    rw [String.toList_append, shape, List.append_assoc]
    exact .token spaces spelled (ih others)
  | optional inner rest ihInner ih =>
    obtain ⟨inside, firsts, group, after, more, others, rfl, rfl⟩ :=
      compiled_optional_eq_ok.mp compiled
    simpa using (ihInner group).optional (ih others)

/-! ## Whole lines -/

/-- A pattern without white space at its front. -/
def withoutLead : List Char → List Char
  | '\x5c' :: 's' :: '+' :: rest => rest
  | text => text

/-- The text of a whole line is the body without its lead, between the marks for both ends. -/
theorem Expression.toList_wholeLine (body : String) :
    (wholeLine body).toList =
      ['^'] ++ (withoutLead body.toList ++ ([backslash, 's'] ++ ['*'] ++ ['$'])) := by
  unfold wholeLine
  split
  · rename_i rest lead
    simp [lead, withoutLead, backslash]
  · rename_i other
    have kept : withoutLead body.toList = body.toList := by
      unfold withoutLead
      split
      · rename_i rest lead
        exact absurd lead (other rest)
      · rfl
    simp [kept, backslash]

/-- An escaped character does not begin with a class. -/
theorem withoutLead_escapedChar (c : Char) (rest : List Char) :
    withoutLead (escapedChar c ++ rest) = escapedChar c ++ rest := by
  unfold escapedChar
  split
  · rename_i special
    unfold withoutLead
    split
    · rename_i same
      simp only [List.cons_append, List.nil_append, List.cons.injEq] at same
      rw [same.2.1] at special
      exact absurd special (by decide)
    · rfl
  · rename_i plain
    unfold withoutLead
    split
    · rename_i same
      simp only [List.cons_append, List.nil_append, List.cons.injEq] at same
      rw [same.1] at plain
      exact absurd (by decide) plain
    · rfl

/-- At the front of a pattern, a token asks for no white space. -/
theorem Token.Leads.withoutLead {token : Token} {fragment : String} {body : List Char}
    (leads : token.Leads fragment body) (named : token.name ≠ "") (after : List Char) :
    withoutLead (fragment.toList ++ after) = body ++ after := by
  obtain ⟨shape, escaped⟩ := leads
  rw [shape]
  by_cases symbol : token.kind = .symbol
  · obtain ⟨c, name, spelling⟩ : ∃ c name, token.name.toList = c :: name :=
      List.exists_cons_of_ne_nil (by simpa using named)
    simp only [symbol, if_true, escaped symbol, spelling, escapedChars, List.flatMap_cons,
      List.nil_append, List.append_assoc, withoutLead_escapedChar]
  · simp only [symbol, if_false]
    rfl

/-- A group at the front of a pattern keeps the white space that it asks for. -/
theorem withoutLead_optional (inside after : String) :
    withoutLead ("(?:" ++ inside ++ ")??" ++ after).toList =
      ['(', '?', ':'] ++ inside.toList ++ [')'] ++ ['?', '?'] ++ after.toList := by
  simp [withoutLead]

/-- At the start of a line, a phrase asks for no white space before its first token. -/
theorem Phrase.compiled_spelledAtStart {types : TypeTable} {ofType : String → Language Char}
    (means : types.Means ofType) {phrase : Phrase} {fragment : String} {captures : List Capture}
    (named : ∀ token ∈ phrase.tokens, token.name ≠ "")
    (compiled : phrase.compiled types = .ok (fragment, captures)) :
    phrase.SpelledBy ofType true (withoutLead fragment.toList) := by
  cases phrase with
  | done =>
    cases compiled
    exact .done
  | token first rest =>
    obtain ⟨front, firsts, here, after, more, others, rfl, rfl⟩ := compiled_token_eq_ok.mp compiled
    obtain ⟨body, leads, spelled⟩ := Token.compiled_spelled means here
    have spaces : IsRun .none [] (first.gaps true) := by
      simpa [Token.gaps, escapedChars] using IsRun.exactly []
    rw [String.toList_append, leads.withoutLead (named first (by simp [tokens]))]
    exact .token spaces spelled (compiled_spelled means others)
  | optional inner rest =>
    obtain ⟨inside, firsts, group, after, more, others, rfl, rfl⟩ :=
      compiled_optional_eq_ok.mp compiled
    rw [withoutLead_optional]
    exact (compiled_spelled means group).optional (compiled_spelled means others)

/-- A match at the start of a text ends at the first of the ways of its pattern. -/
theorem Pattern.matchStart_eq (pattern : Pattern) (text : Array Char) :
    pattern.matchStart text = ((pattern.root.ways text pattern.switches ⟨0, []⟩).head?).map fun place =>
      ⟨0, place.position, place.groups⟩ := by
  simp only [matchStart, matchWhere, if_true]
  rw [Searches.head (Node.run_searches text pattern.switches pattern.root)]

/-- A text that holds a piece up to the end of a line is the piece with at most a line feed after
it. -/
theorem holds_lineEnd {text : Array Char} {piece : List Char} (held : Holds text 0 piece)
    (ended : Anchor.lineEnd.holds .none text piece.length = true) :
    text.toList = piece ∨ text.toList = piece ++ ['\n'] := by
  obtain ⟨rest, whole⟩ := held
  rw [List.drop_zero] at whole
  have size : text.size = piece.length + rest.length := by
    rw [← Array.length_toList, ← whole, List.length_append]
  simp only [Anchor.holds, Switches.none, Bool.or_eq_true, beq_iff_eq, Bool.and_eq_true,
    Bool.false_or] at ended
  rcases ended with atEnd | ⟨feed, last⟩
  · have empty : rest = [] := List.length_eq_zero_iff.mp (by omega)
    exact .inl (by rw [← whole, empty, List.append_nil])
  · obtain ⟨c, rfl⟩ := List.length_eq_one_iff.mp (show rest.length = 1 by omega)
    rw [← Array.getElem?_toList, ← whole, List.getElem?_append_right (Nat.le_refl _)] at feed
    have same : c = '\n' := by simpa using feed
    exact .inr (by rw [← whole, same])

namespace Filling.Spans

variable {ofType : String → Language Char} {line : Array Char} {phrase : Phrase}
  {filling : Filling phrase} {tail : List Char}

/-- A whole line ends behind its text. -/
theorem of_line (fits : filling.Fits ofType true) (blank : tail ∈ Texts.blank)
    (whole : line.toList = filling.line ++ tail) : filling.Spans ofType line tail := by
  have size : (filling.line ++ tail).length = line.size := by
    rw [← whole, Array.length_toList]
  exact ⟨fits, blank, ⟨[], by simp [whole]⟩, by simp [Anchor.holds, ← size]⟩

/-- Up to an end of the line it is the whole line, but for a line feed that is white space as well. -/
theorem exists_line (spans : filling.Spans ofType line tail) :
    ∃ rest ∈ Texts.blank, line.toList = filling.line ++ rest := by
  rcases holds_lineEnd spans.held spans.ended with whole | whole
  · exact ⟨tail, spans.blank, whole⟩
  · refine ⟨tail ++ ['\n'], ?_, by rw [whole, List.append_assoc]⟩
    intro c inside
    rcases List.mem_append.mp inside with inside | feed
    · exact spans.blank c inside
    · rw [List.mem_singleton.mp feed]
      decide

end Filling.Spans

/-- A pattern leads over the lines of a phrase, and over nothing else. The filling that it finds first
is the laziest one. -/
structure Phrase.LinePattern (ofType : String → Language Char) (phrase : Phrase)
    (pattern : Pattern) : Prop where
  switches : pattern.switches = .none
  groups : pattern.groups = phrase.capturing.length
  ways : ∀ line next, next ∈ pattern.root.ways line .none ⟨0, []⟩ ↔
    ∃ (filling : Filling phrase) (tail : List Char), filling.Spans ofType line tail ∧
      next = (filling.reached 0 ⟨0, []⟩).after tail.length
  laziest : ∀ line next, (pattern.root.ways line .none ⟨0, []⟩).head? = some next →
    ∃ (filling : Filling phrase) (tail : List Char), filling.Spans ofType line tail ∧
      next = (filling.reached 0 ⟨0, []⟩).after tail.length ∧
      ∀ (other : Filling phrase) (rest : List Char), other.Spans ofType line rest →
        filling.AsLazyAs other

/-- The pattern for the whole lines of a phrase leads over the lines of the fillings with white space
after them, to the end of the line. -/
theorem Phrase.SpelledBy.wholeLine {ofType : String → Language Char} {phrase : Phrase} {body : String}
    (spelled : phrase.SpelledBy ofType true (withoutLead body.toList)) :
    ∃ pattern, Pattern.read (Expression.wholeLine body) .none = .ok pattern ∧
      phrase.LinePattern ofType pattern := by
  obtain ⟨items, spelled, walked⟩ := spelled
  have blanks := IsUnit.blank.star (by simp) nil_not_mem_single
  rw [Texts.blank_eq] at blanks
  obtain ⟨later, spelledTail, recognizes, -⟩ := blanks
  have whole := Spells.lineStart.append (spelled.append (spelledTail.append Spells.lineEnd))
  rw [← Expression.toList_wholeLine] at whole
  have root (line : Array Char) :
      (Node.ofItems ([(.anchor .lineEnd, .position)] ++ later ++ items 0 ++
        [(.anchor .lineStart, .position)])).ways line .none ⟨0, []⟩ =
      ((Node.ofItems (items 0)).ways line .none ⟨0, []⟩).flatMap fun place =>
        ((Node.ofItems later).ways line .none place).flatMap ((Node.anchor .lineEnd).ways line .none) := by
    have start : (Node.anchor .lineStart).ways line .none ⟨0, []⟩ = [⟨0, []⟩] := by
      simp [Node.ways, Anchor.holds]
    rw [Node.ways_ofItems_append, Node.ofItems_singleton, start, List.flatMap_singleton,
      Node.ways_ofItems_append]
    congr 1
    funext place
    rw [Node.ways_ofItems_append, Node.ofItems_singleton]
  refine ⟨_, whole.read_eq, rfl, by simp, fun line next => ?_, fun line next first => ?_⟩
  · exact root line ▸ (walked line 0).mem_lines (recognizes line)
  · exact (walked line 0).laziest_line (recognizes line) (root line ▸ first)

/-! ## What a match notes -/

/-- The span of a text at a position. -/
def spanOf (taken : Nat × List Char) : Nat × Nat := (taken.1, taken.1 + taken.2.length)

/-- Groups that are noted one list after the other are noted as one list. -/
theorem noted_append (before : Option (Nat × Nat)) (front back : List (Option (Nat × List Char)))
    (opened index : Nat) :
    (if index ≤ opened + front.length then
        if index ≤ opened then before else (front[index - (opened + 1)]?.join).map spanOf
      else (back[index - (opened + front.length + 1)]?.join).map spanOf) =
      if index ≤ opened then before
      else ((front ++ back)[index - (opened + 1)]?.join).map spanOf := by
  by_cases old : index ≤ opened
  · rw [if_pos (by omega), if_pos old, if_pos old]
  · rw [if_neg old, if_neg old, List.getElem?_append]
    by_cases first : index ≤ opened + front.length
    · rw [if_pos first, if_pos (by omega)]
    · rw [if_neg first, if_neg (by omega),
        show index - (opened + 1) - front.length = index - (opened + front.length + 1) by omega]

/-- What a filling notes: the groups up to a number stay as they were, and those after it have the
spans of what the filling captures. -/
theorem Filling.lookup_reached {phrase : Phrase} (filling : Filling phrase) (opened : Nat)
    (place : Place) (fresh : ∀ index, opened < index → place.groups.lookup index = none)
    (index : Nat) :
    (filling.reached opened place).groups.lookup index =
      if index ≤ opened then place.groups.lookup index
      else ((filling.captured place.position)[index - (opened + 1)]?.join).map spanOf := by
  induction filling generalizing opened place index with
  | done =>
    by_cases before : index ≤ opened
    · simp [reached, before]
    · simpa [reached, before, captured] using fresh index (by omega)
  | @token first rest part others ih =>
    cases captures : first.kind.captures with
    | false =>
      have rest := ih opened ((place.after part.gap.length).after part.body.length) fresh index
      simpa [reached, captured, captures, Token.groups, Token.passed, Nat.add_assoc] using rest
    | true =>
      have rest := ih (opened + 1) (first.passed opened (place.after part.gap.length) part.body.length)
        (fun later behind => by
          simp only [Token.passed, captures, if_true, Place.after_groups]
          rw [List.lookup_cons, beq_false_of_ne (by omega)]
          exact fresh later (by omega)) index
      simp only [Token.passed, captures, if_true, Place.after_groups, Place.after_position] at rest
      simp only [reached, captured, Token.groups, Token.passed, captures, if_true, Place.after_groups,
        Place.after_position, List.singleton_append, rest, List.lookup_cons]
      rcases Nat.lt_trichotomy index (opened + 1) with before | rfl | behind
      · rw [beq_false_of_ne (by omega), if_pos (by omega), if_pos (by omega)]
      · simp [spanOf]
      · rw [if_neg (by omega), if_neg (by omega),
          show index - (opened + 1) = index - (opened + 1 + 1) + 1 by omega,
          List.getElem?_cons_succ]
  | @skip inner rest others ih =>
    have rest := ih (opened + inner.capturing.length) place
      (fun later behind => fresh later (by omega)) index
    have untouched : place.groups.lookup index =
        if index ≤ opened then place.groups.lookup index
        else ((List.replicate inner.capturing.length none)[index - (opened + 1)]?.join).map spanOf := by
      split
      · rfl
      · rw [fresh index (by omega), List.getElem?_replicate]
        split <;> rfl
    rw [untouched] at rest
    simpa only [reached, captured, rest, List.length_replicate] using
      noted_append _ (List.replicate inner.capturing.length none) _ opened index
  | @enter inner rest inside others ihInside ih =>
    have within := ihInside opened place fresh
    have rest := ih (opened + inner.capturing.length) (inside.reached opened place)
      (fun later behind => by
        rw [within later, if_neg (by omega),
          List.getElem?_eq_none (by rw [length_captured]; omega)]
        rfl) index
    simp only [reached, captured, rest, reached_position, within]
    simpa only [length_captured] using noted_append _ (inside.captured place.position) _ opened index

end LineGrammar
