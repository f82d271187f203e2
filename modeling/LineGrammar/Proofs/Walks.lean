import LineGrammar.Proofs.Preference
import LineGrammar.Proofs.Pattern.Positions
import LineGrammar.Proofs.Pattern.Recognition

/-!
# Ways along a phrase

A step of a pattern walks a phrase if it leads to the places that the fillings of the phrase reach, and
if it tries the laziest filling first: when the first way that is accepted is that of a filling, this
filling is as lazy as every other one whose way is accepted. What is accepted is arbitrary, so that the
order of a part is known whatever the rest of a line asks for.

The rules follow the phrase. Behind a token, the gap is chosen before the text, and the text before
what follows; a group is skipped before it is entered. Only free text has to be tried in order of its
length; nothing is asked of the order of other tokens.
-/

namespace LineGrammar

open LineGrammar.Pattern LineGrammar.Phrase

/-! ## What is reached -/

/-- The number of captures of a token. -/
def Token.groups (token : Token) : Nat := if token.kind.captures then 1 else 0

/-- The place behind the text of a token, given the number of captures before it. -/
def Token.passed (token : Token) (opened : Nat) (place : Place) (count : Nat) : Place :=
  if token.kind.captures then
    { position := place.position + count
      groups := (opened + 1, place.position, place.position + count) :: place.groups }
  else place.after count

/-- The place behind the text of a token is further on by its length. -/
@[simp] theorem Token.passed_position (token : Token) (opened : Nat) (place : Place) (count : Nat) :
    (token.passed opened place count).position = place.position + count := by
  unfold passed
  split <;> rfl

/-- There are no captures in an empty phrase. -/
@[simp] theorem Phrase.length_capturing_done : Phrase.done.capturing.length = 0 := rfl

/-- The captures of a phrase are those of its first token and of the rest. -/
@[simp] theorem Phrase.length_capturing_token (first : Token) (rest : Phrase) :
    (Phrase.token first rest).capturing.length = first.groups + rest.capturing.length := by
  cases taken : first.kind.captures <;>
    simp [capturing, tokens, Token.groups, taken, Nat.add_comm]

/-- The captures of a phrase that begins with a group are those in the group and behind it. -/
@[simp] theorem Phrase.length_capturing_optional (inner rest : Phrase) :
    (Phrase.optional inner rest).capturing.length =
      inner.capturing.length + rest.capturing.length := by
  simp [capturing, tokens]

namespace Filling

variable {phrase : Phrase}

/-- The place behind the line of a filling, given the number of captures before it. -/
def reached : Nat → {phrase : Phrase} → Filling phrase → Place → Place
  | _, _, done, place => place
  | opened, _, @token first _ part others, place =>
    others.reached (opened + first.groups)
      (first.passed opened (place.after part.gap.length) part.body.length)
  | opened, _, @skip inner _ others, place =>
    others.reached (opened + inner.capturing.length) place
  | opened, _, @enter inner _ inside others, place =>
    others.reached (opened + inner.capturing.length) (inside.reached opened place)

/-- The filling of an empty phrase makes the empty line. -/
@[simp] theorem line_done : Filling.done.line = [] := rfl

/-- A filling that begins with a part makes a line that does. -/
@[simp] theorem line_token {first : Token} {rest : Phrase} (part : Part) (others : Filling rest) :
    (@Filling.token first rest part others).line = part.gap ++ (part.body ++ others.line) :=
  lineOf_cons part others.parts

/-- A group that is skipped adds nothing to the line. -/
@[simp] theorem line_skip {inner rest : Phrase} (others : Filling rest) :
    (@Filling.skip inner rest others).line = others.line := rfl

/-- A group that is entered comes first in the line. -/
@[simp] theorem line_enter {inner rest : Phrase} (inside : Filling inner) (others : Filling rest) :
    (Filling.enter inside others).line = inside.line ++ others.line :=
  lineOf_append inside.parts others.parts

/-- The place behind the line of a filling is further on by its length. -/
@[simp] theorem reached_position (filling : Filling phrase) (opened : Nat) (place : Place) :
    (filling.reached opened place).position = place.position + filling.line.length := by
  induction filling generalizing opened place with
  | done => rfl
  | token part others ih => simp [reached, ih, Nat.add_assoc]
  | skip others ih => simp [reached, ih]
  | enter inside others ihInside ih => simp [reached, ihInside, ih, Nat.add_assoc]

end Filling

/-! ## Steps that walk -/

/-- A step leads over what a token stands for, and notes it if the token captures. Free text is tried
in the order of its length. -/
structure Token.Walked (ofType : String → Language Char) (token : Token) (line : Array Char)
    (opened : Nat) (ways : Ways) : Prop where
  mem_iff : ∀ place next, next ∈ ways place ↔ ∃ body ∈ token.bodies ofType,
    Holds line place.position body ∧ next = token.passed opened place body.length
  shortest : token.kind = .freeText → ways.Rising

/-- A filling is built at a place of a line. -/
def Filling.Along (ofType : String → Language Char) (atStart : Bool) (line : Array Char)
    (place : Place) {phrase : Phrase} (filling : Filling phrase) : Prop :=
  filling.Fits ofType atStart ∧ Holds line place.position filling.line

namespace Filling

variable {ofType : String → Language Char} {atStart : Bool} {line : Array Char} {place : Place}

/-- A filling that begins with a part is built at a place when the part is, and the others behind it. -/
theorem along_token {first : Token} {rest : Phrase} {part : Part} {others : Filling rest} (opened : Nat) :
    (@Filling.token first rest part others).Along ofType atStart line place ↔
      first.Takes ofType atStart part ∧ Holds line place.position part.gap ∧
        Holds line (place.after part.gap.length).position part.body ∧
        others.Along ofType false line
          (first.passed opened (place.after part.gap.length) part.body.length) := by
  simp only [Along, Fits, line_token, Holds.append, Place.after_position, Token.passed_position]
  tauto

/-- A filling that enters a group is built at a place when the group is, and the others behind it. -/
theorem along_enter {inner rest : Phrase} {inside : Filling inner} {others : Filling rest}
    (opened : Nat) :
    (Filling.enter inside others).Along ofType atStart line place ↔
      inside.Along ofType false line place ∧
        others.Along ofType false line (inside.reached opened place) := by
  simp only [Along, Fits, line_enter, Holds.append, reached_position]
  tauto

end Filling

/-- A step leads over the lines of a phrase, the laziest ones first. -/
structure Phrase.Walked (ofType : String → Language Char) (atStart : Bool) (phrase : Phrase)
    (line : Array Char) (opened : Nat) (ways : Ways) : Prop where
  mem_iff : ∀ place next, next ∈ ways place ↔ ∃ filling : Filling phrase,
    filling.Along ofType atStart line place ∧ next = filling.reached opened place
  laziest : ∀ (place next : Place) (accepts : Place → Bool),
    (ways place).find? accepts = some next → ∃ filling : Filling phrase,
      filling.Along ofType atStart line place ∧ next = filling.reached opened place ∧
      ∀ other : Filling phrase, other.Along ofType atStart line place →
        accepts (other.reached opened place) = true → filling.AsLazyAs other

/-- A search through several lists stops in the first one in which there is something to find. -/
theorem exists_find?_of_flatMap {α β : Type} {inputs : List α} {outputs : α → List β}
    {accepts : β → Bool} {found : β} (first : (inputs.flatMap outputs).find? accepts = some found) :
    ∃ input, inputs.find? (fun other => ((outputs other).find? accepts).isSome) = some input ∧
      (outputs input).find? accepts = some found := by
  rw [List.find?_flatMap, List.findSome?_eq_some_iff] at first
  obtain ⟨before, input, after, rfl, here, none⟩ := first
  refine ⟨input, List.find?_eq_some_iff_append.mpr ⟨by simp [here], before, after, rfl, ?_⟩, here⟩
  intro other listed
  simp [none other listed]

namespace Phrase.Walked

variable {ofType : String → Language Char} {atStart : Bool} {line : Array Char} {opened : Nat}

/-- A way that is accepted is not passed over in vain. -/
theorem isSome_find? {phrase : Phrase} {ways : Ways}
    (walked : phrase.Walked ofType atStart line opened ways)
    {place : Place} {accepts : Place → Bool} {filling : Filling phrase}
    (along : filling.Along ofType atStart line place)
    (accepted : accepts (filling.reached opened place) = true) :
    ((ways place).find? accepts).isSome = true :=
  List.find?_isSome.mpr ⟨_, (walked.mem_iff _ _).mpr ⟨filling, along, rfl⟩, accepted⟩

/-- An empty phrase is walked by staying. -/
theorem done : Phrase.done.Walked ofType atStart line opened fun place => [place] where
  mem_iff place next := by
    rw [List.mem_singleton]
    constructor
    · rintro rfl
      exact ⟨.done, ⟨trivial, by simp⟩, rfl⟩
    · rintro ⟨filling, _, rfl⟩
      cases filling
      rfl
  laziest place next accepts found := by
    obtain rfl : next = place := List.mem_singleton.mp (List.mem_of_find?_eq_some found)
    refine ⟨.done, ⟨trivial, by simp⟩, rfl, fun other _ _ => ?_⟩
    cases other
    trivial

/-- White space, a token, and what follows. -/
theorem token {first : Token} {rest : Phrase} {blanks body later : Ways}
    (spaces : blanks.Follow line (first.gaps atStart)) (walked : first.Walked ofType line opened body)
    (others : rest.Walked ofType false line (opened + first.groups) later) :
    (Phrase.token first rest).Walked ofType atStart line opened fun place =>
      (blanks place).flatMap fun next => (body next).flatMap later where
  mem_iff place next := by
    simp only [List.mem_flatMap, spaces place, walked.mem_iff, others.mem_iff]
    constructor
    · rintro ⟨_, ⟨gap, spaced, heldGap, rfl⟩, _, ⟨text, taken, held, rfl⟩, filling, along, rfl⟩
      exact ⟨.token ⟨gap, text⟩ filling,
        (Filling.along_token opened).mpr ⟨⟨spaced, taken⟩, heldGap, held, along⟩, rfl⟩
    · rintro ⟨filling, along, rfl⟩
      cases filling with
      | token part filling =>
        obtain ⟨⟨spaced, taken⟩, heldGap, held, along⟩ := (Filling.along_token opened).mp along
        exact ⟨_, ⟨part.gap, spaced, heldGap, rfl⟩, _, ⟨part.body, taken, held, rfl⟩, filling, along,
          rfl⟩
  laziest place next accepts found := by
    obtain ⟨_, blank, found⟩ := exists_find?_of_flatMap found
    obtain ⟨gap, spaced, heldGap, rfl⟩ := (spaces _ _).mp (List.mem_of_find?_eq_some blank)
    obtain ⟨_, text, behind⟩ := exists_find?_of_flatMap found
    obtain ⟨body, taken, held, rfl⟩ := (walked.mem_iff _ _).mp (List.mem_of_find?_eq_some text)
    obtain ⟨filling, along, rfl, lazy⟩ := others.laziest _ _ _ behind
    refine ⟨.token ⟨gap, body⟩ filling,
      (Filling.along_token opened).mpr ⟨⟨spaced, taken⟩, heldGap, held, along⟩, rfl, ?_⟩
    intro other along' accepted
    cases other with
    | token part others' =>
      obtain ⟨gap', body'⟩ := part
      obtain ⟨⟨-, taken'⟩, -, held', follows⟩ := (Filling.along_token opened).mp along'
      rintro (rfl : gap = gap')
      constructor
      · intro free
        have longer := (walked.shortest free).le_of_find? text
          ((walked.mem_iff _ _).mpr ⟨body', taken', held', rfl⟩) (others.isSome_find? follows accepted)
        simpa using longer
      · rintro (rfl : body = body')
        exact lazy others' follows accepted

/-- A group that may be left out, and what follows. -/
theorem optional {inner rest : Phrase} {inside later : Ways}
    (walked : inner.Walked ofType false line opened inside)
    (others : rest.Walked ofType false line (opened + inner.capturing.length) later) :
    (Phrase.optional inner rest).Walked ofType atStart line opened fun place =>
      (place :: inside place).flatMap later where
  mem_iff place next := by
    simp only [List.mem_flatMap, List.mem_cons, walked.mem_iff, others.mem_iff]
    constructor
    · rintro ⟨_, rfl | ⟨within, alongInside, rfl⟩, filling, along, rfl⟩
      · exact ⟨.skip filling, along, rfl⟩
      · exact ⟨.enter within filling, (Filling.along_enter opened).mpr ⟨alongInside, along⟩, rfl⟩
    · rintro ⟨filling, along, rfl⟩
      cases filling with
      | skip filling => exact ⟨place, .inl rfl, filling, along, rfl⟩
      | enter within filling =>
        obtain ⟨alongInside, along⟩ := (Filling.along_enter opened).mp along
        exact ⟨_, .inr ⟨within, alongInside, rfl⟩, filling, along, rfl⟩
  laziest place next accepts found := by
    obtain ⟨_, choice, found⟩ := exists_find?_of_flatMap found
    rw [List.find?_cons] at choice
    split at choice
    · -- The group is skipped, which is as lazy as it gets here.
      cases choice
      obtain ⟨filling, along, rfl, lazy⟩ := others.laziest _ _ _ found
      refine ⟨.skip filling, along, rfl, fun other alongOther accepted => ?_⟩
      cases other with
      | skip others' => exact lazy others' alongOther accepted
      | enter within' others' => trivial
    · rename_i refused
      obtain ⟨within, alongInside, rfl, lazyInside⟩ := walked.laziest _ _ _ choice
      obtain ⟨filling, along, rfl, lazy⟩ := others.laziest _ _ _ found
      refine ⟨.enter within filling, (Filling.along_enter opened).mpr ⟨alongInside, along⟩, rfl, ?_⟩
      intro other along' accepted
      cases other with
      | skip others' =>
        -- Otherwise the group would have been skipped.
        rw [others.isSome_find? along' accepted] at refused
        cases refused
      | enter within' others' =>
        obtain ⟨alongInside', follows⟩ := (Filling.along_enter opened).mp along'
        constructor
        · exact lazyInside within' alongInside' (others.isSome_find? follows accepted)
        · rintro rfl
          exact lazy others' follows accepted

end Phrase.Walked

/-! ## Whole lines -/

/-- A filling and white space behind it make a line, up to an end of the line. -/
structure Filling.Spans (ofType : String → Language Char) (line : Array Char) {phrase : Phrase}
    (filling : Filling phrase) (tail : List Char) : Prop where
  fits : filling.Fits ofType true
  blank : tail ∈ Texts.blank
  held : Holds line 0 (filling.line ++ tail)
  ended : Anchor.lineEnd.holds .none line (filling.line ++ tail).length = true

namespace Phrase.Walked

variable {ofType : String → Language Char} {phrase : Phrase} {line : Array Char} {ways blanks : Ways}

/-- What stands behind a phrase: white space up to an end of the line. -/
theorem mem_ending (spaces : blanks.Follow line Texts.blank) (place next : Place) :
    next ∈ (blanks place).flatMap ((Node.anchor .lineEnd).ways line .none) ↔
      ∃ tail ∈ Texts.blank, Holds line place.position tail ∧
        Anchor.lineEnd.holds .none line (place.position + tail.length) = true ∧
        next = place.after tail.length := by
  have stop (middle : Place) : next ∈ (Node.anchor .lineEnd).ways line .none middle ↔
      Anchor.lineEnd.holds .none line middle.position = true ∧ next = middle := by
    simp only [Node.ways]
    split <;> simp_all
  simp only [List.mem_flatMap, spaces place, stop]
  constructor
  · rintro ⟨_, ⟨tail, blank, held, rfl⟩, ended, rfl⟩
    exact ⟨tail, blank, held, ended, rfl⟩
  · rintro ⟨tail, blank, held, ended, rfl⟩
    exact ⟨_, ⟨tail, blank, held, rfl⟩, ended, rfl⟩

/-- Whole lines are those of fillings with white space behind them. -/
theorem mem_lines (walked : phrase.Walked ofType true line 0 ways)
    (spaces : blanks.Follow line Texts.blank) {next : Place} :
    (next ∈ (ways ⟨0, []⟩).flatMap fun place =>
        (blanks place).flatMap ((Node.anchor .lineEnd).ways line .none)) ↔
      ∃ (filling : Filling phrase) (tail : List Char), filling.Spans ofType line tail ∧
        next = (filling.reached 0 ⟨0, []⟩).after tail.length := by
  simp only [List.mem_flatMap (l := ways _), walked.mem_iff, mem_ending spaces]
  constructor
  · rintro ⟨_, ⟨filling, ⟨fits, held⟩, rfl⟩, tail, blank, heldTail, ended, rfl⟩
    exact ⟨filling, tail, ⟨fits, blank, Holds.append.mpr ⟨held, by simpa using heldTail⟩,
      by simpa using ended⟩, rfl⟩
  · rintro ⟨filling, tail, spans, rfl⟩
    obtain ⟨held, heldTail⟩ := Holds.append.mp spans.held
    exact ⟨_, ⟨filling, ⟨spans.fits, held⟩, rfl⟩, tail, spans.blank, by simpa using heldTail,
      by simpa using spans.ended, rfl⟩

/-- The first whole line is that of the laziest filling. -/
theorem laziest_line (walked : phrase.Walked ofType true line 0 ways)
    (spaces : blanks.Follow line Texts.blank) {next : Place}
    (first : ((ways ⟨0, []⟩).flatMap fun place =>
        (blanks place).flatMap ((Node.anchor .lineEnd).ways line .none)).head? = some next) :
    ∃ (filling : Filling phrase) (tail : List Char), filling.Spans ofType line tail ∧
      next = (filling.reached 0 ⟨0, []⟩).after tail.length ∧
      ∀ (other : Filling phrase) (rest : List Char), other.Spans ofType line rest →
        filling.AsLazyAs other := by
  have any (places : List Place) : places.head? = places.find? fun _ => true := by
    cases places <;> simp
  rw [any] at first
  obtain ⟨_, chosen, found⟩ := exists_find?_of_flatMap first
  obtain ⟨filling, ⟨fits, held⟩, rfl, lazy⟩ := walked.laziest _ _ _ chosen
  obtain ⟨tail, blank, heldTail, ended, rfl⟩ :=
    (mem_ending spaces _ _).mp (List.mem_of_find?_eq_some found)
  refine ⟨filling, tail, ⟨fits, blank, Holds.append.mpr ⟨held, by simpa using heldTail⟩,
    by simpa using ended⟩, rfl, fun other rest spans => ?_⟩
  obtain ⟨held', heldRest⟩ := Holds.append.mp spans.held
  have ending := (mem_ending spaces (other.reached 0 ⟨0, []⟩) _).mpr
    ⟨rest, spans.blank, by simpa using heldRest, by simpa using spans.ended, rfl⟩
  exact lazy other ⟨spans.fits, held'⟩ (List.find?_isSome.mpr ⟨_, ending, rfl⟩)

end Phrase.Walked

end LineGrammar
