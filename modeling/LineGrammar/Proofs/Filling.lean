import LineGrammar.Proofs.Phrase
import LineGrammar.Proofs.Texts
import Mathlib.Data.List.Forall2

/-!
# Lines along a phrase

A line is built along a phrase in two steps. Some of the optional groups are selected, and the tokens
whose enclosing groups are all among them are kept. Then every kept token takes a part of the line:
white space, and a text of its own after it. Symbols take no white space, and neither does a token that
stands at the very start of the phrase, outside of every group.

A filling says the same along the structure of the phrase: it skips a group or enters it, and has a
part for every token on its way. The groups that a filling enters are closed under parents by
construction. Proofs about patterns follow fillings; the two descriptions are shown to agree.
-/

namespace LineGrammar

open LineGrammar.Text

/-! ## What a token takes -/

/-- Whether the tokens of a kind capture what they take. -/
def TokenKind.captures : TokenKind → Bool
  | .word | .symbol => false
  | .freeText | .argument | .argumentList => true

namespace Token

/-- What one element of a capture may be: one of the choices of the token if it has any, else a text
of its type, else an argument. -/
def elements (ofType : String → Language Char) (token : Token) : Language Char :=
  match token.choices, token.type with
  | some (first :: rest), _ => Texts.oneOf (first :: rest)
  | _, some name => ofType name
  | _, none => if token.kind = .argumentList then Texts.listArgument else Texts.argument

/-- The texts that a token stands for. -/
def bodies (ofType : String → Language Char) (token : Token) : Language Char :=
  match token.kind with
  | .word | .symbol => Texts.exactly token.name.toList
  | .freeText => Texts.free
  | .argument => token.elements ofType
  | .argumentList => Texts.listOf (token.elements ofType)

/-- The white space before a token. -/
def gaps (token : Token) (atStart : Bool) : Language Char :=
  if atStart || token.kind = .symbol then Texts.exactly [] else Texts.gap

end Token

/-- The part of a line that a token takes. -/
structure Part where
  gap : List Char
  body : List Char

/-- Parts one after the other. -/
def lineOf (parts : List Part) : List Char := parts.flatMap fun part => part.gap ++ part.body

/-- No parts make the empty line. -/
@[simp] theorem lineOf_nil : lineOf [] = [] := rfl

/-- The line begins with the gap and the body of the first part. -/
@[simp] theorem lineOf_cons (part : Part) (parts : List Part) :
    lineOf (part :: parts) = part.gap ++ (part.body ++ lineOf parts) := by
  simp [lineOf]

/-- Parts one behind the other make lines one behind the other. -/
@[simp] theorem lineOf_append (parts more : List Part) :
    lineOf (parts ++ more) = lineOf parts ++ lineOf more := List.flatMap_append

/-- A token takes a part. -/
structure Token.Takes (ofType : String → Language Char) (token : Token) (atStart : Bool)
    (part : Part) : Prop where
  gap : part.gap ∈ token.gaps atStart
  body : part.body ∈ token.bodies ofType

/-- What is captured along a line from a position on: for every capture among some tokens, which are
kept or not, the position and the text of what it took. -/
def captured : Nat → List (Token × Bool) → List Part → List (Option (Nat × List Char))
  | position, (token, true) :: tokens, part :: parts =>
    (if token.kind.captures then [some (position + part.gap.length, part.body)] else [])
      ++ captured (position + part.gap.length + part.body.length) tokens parts
  | position, (token, _) :: tokens, parts =>
    (if token.kind.captures then [none] else []) ++ captured position tokens parts
  | _, [], _ => []

namespace Phrase

/-! ## Selections -/

/-- The optional groups of a phrase. -/
inductive Group : Phrase → Type where
  | here {inner rest : Phrase} : Group (.optional inner rest)
  | inside {inner rest : Phrase} (group : Group inner) : Group (.optional inner rest)
  | after {inner rest : Phrase} (group : Group rest) : Group (.optional inner rest)
  | behind {first : Token} {rest : Phrase} (group : Group rest) : Group (.token first rest)

/-- The group directly around a group. -/
def Group.parent? : {phrase : Phrase} → Group phrase → Option (Group phrase)
  | _, .here => none
  | _, .inside group =>
    match group.parent? with
    | none => some .here
    | some parent => some (.inside parent)
  | _, .after group => group.parent?.map .after
  | _, .behind group => group.parent?.map .behind

/-- Some of the groups of a phrase. -/
abbrev Selection (phrase : Phrase) := Group phrase → Bool

/-- A selection that contains the parent of each of its groups. -/
def Selection.Closed {phrase : Phrase} (selection : Selection phrase) : Prop :=
  ∀ group parent, group.parent? = some parent → selection group = true → selection parent = true

/-- A token at its place in a phrase: whether it stands at the very start, and the groups around
it. -/
structure Slot (phrase : Phrase) where
  atStart : Bool
  token : Token
  around : List (Group phrase)

/-- A slot of a part of a phrase in the phrase, with the groups that are around the part. -/
def Slot.lift {part phrase : Phrase} (outer : List (Group phrase)) (place : Group part → Group phrase)
    (slot : Slot part) : Slot phrase :=
  { slot with around := outer ++ slot.around.map place }

/-- The tokens of a phrase at their places, from left to right. -/
def slotsFrom : Bool → (phrase : Phrase) → List (Slot phrase)
  | _, done => []
  | atStart, token first rest =>
    ⟨atStart, first, []⟩ :: (rest.slotsFrom false).map (Slot.lift [] .behind)
  | _, optional inner rest =>
    (inner.slotsFrom false).map (Slot.lift [.here] .inside) ++
      (rest.slotsFrom false).map (Slot.lift [] .after)

/-- Whether a selection keeps a token: the groups around it are all selected. -/
def Slot.keptBy {phrase : Phrase} (selection : Selection phrase) (slot : Slot phrase) : Bool :=
  slot.around.all selection

/-- The tokens that a selection keeps, at their places. -/
def kept (phrase : Phrase) (selection : Selection phrase) : List (Slot phrase) :=
  (phrase.slotsFrom true).filter (·.keptBy selection)

/-- The token of a slot, with whether a selection keeps it. -/
def Slot.mark {phrase : Phrase} (selection : Selection phrase) (slot : Slot phrase) : Token × Bool :=
  (slot.token, slot.keptBy selection)

/-- All tokens of a phrase, with whether a selection keeps them. -/
def marked (phrase : Phrase) (selection : Selection phrase) : List (Token × Bool) :=
  (phrase.slotsFrom true).map (Slot.mark selection)

/-- A slot takes a part. -/
def Slot.Takes {phrase : Phrase} (ofType : String → Language Char) (slot : Slot phrase)
    (part : Part) : Prop :=
  slot.token.Takes ofType slot.atStart part

/-- Every token that a selection keeps has its part, in order. -/
def Fits (ofType : String → Language Char) (phrase : Phrase) (selection : Selection phrase)
    (parts : List Part) : Prop :=
  List.Forall₂ (Slot.Takes ofType) (phrase.kept selection) parts

/-- The tokens of a phrase that capture what they take, from left to right. -/
def capturing (phrase : Phrase) : List Token := phrase.tokens.filter (·.kind.captures)

end Phrase

/-! ## Fillings -/

/-- A way through a phrase, with the parts of the tokens on it. -/
inductive Filling : Phrase → Type where
  | done : Filling .done
  | token {first : Token} {rest : Phrase} (part : Part) (others : Filling rest) :
    Filling (.token first rest)
  | skip {inner rest : Phrase} (others : Filling rest) : Filling (.optional inner rest)
  | enter {inner rest : Phrase} (inside : Filling inner) (others : Filling rest) :
    Filling (.optional inner rest)

namespace Filling

variable {phrase : Phrase}

/-- The parts of a filling in order. -/
def parts : {phrase : Phrase} → Filling phrase → List Part
  | _, done => []
  | _, token part others => part :: others.parts
  | _, skip others => others.parts
  | _, enter inside others => inside.parts ++ others.parts

/-- The line that a filling makes. -/
def line (filling : Filling phrase) : List Char := lineOf filling.parts

/-- The groups that a filling enters. -/
def selection : {phrase : Phrase} → Filling phrase → Phrase.Selection phrase
  | _, token _ others, .behind group => others.selection group
  | _, skip _, .here => false
  | _, skip _, .inside _ => false
  | _, skip others, .after group => others.selection group
  | _, enter _ _, .here => true
  | _, enter inside _, .inside group => inside.selection group
  | _, enter _ others, .after group => others.selection group

/-- Every token on the way takes its part. -/
def Fits (ofType : String → Language Char) : Bool → {phrase : Phrase} → Filling phrase → Prop
  | _, _, done => True
  | atStart, _, @token first _ part others =>
    first.Takes ofType atStart part ∧ others.Fits ofType false
  | _, _, skip others => others.Fits ofType false
  | _, _, enter inside others => inside.Fits ofType false ∧ others.Fits ofType false

/-- What is captured along a filling from a position on. -/
def captured : Nat → {phrase : Phrase} → Filling phrase → List (Option (Nat × List Char))
  | _, _, done => []
  | position, _, @token first _ part others =>
    (if first.kind.captures then [some (position + part.gap.length, part.body)] else [])
      ++ others.captured (position + part.gap.length + part.body.length)
  | position, _, @skip inner _ others =>
    List.replicate inner.capturing.length none ++ others.captured position
  | position, _, enter inside others =>
    inside.captured position ++ others.captured (position + inside.line.length)

end Filling

/-! ## The two descriptions agree -/

/-- What is related to a list in two parts has two parts as well. -/
theorem exists_append_of_forall₂ {α β : Type} {related : α → β → Prop} {front back : List α}
    {whole : List β} (each : List.Forall₂ related (front ++ back) whole) :
    ∃ first second, whole = first ++ second ∧ List.Forall₂ related front first ∧
      List.Forall₂ related back second := by
  induction front generalizing whole with
  | nil => exact ⟨[], whole, rfl, .nil, each⟩
  | cons a front ih =>
    cases each with
    | cons here others =>
      obtain ⟨first, second, rfl, fronts, backs⟩ := ih others
      exact ⟨_ :: first, second, rfl, .cons here fronts, backs⟩

/-- What is at one index of two related lists is related. -/
theorem rel_of_getElem? {α β : Type} {related : α → β → Prop} {inputs : List α} {outputs : List β}
    (each : List.Forall₂ related inputs outputs) {index : Nat} {input : α} {output : β}
    (first : inputs[index]? = some input) (second : outputs[index]? = some output) :
    related input output := by
  induction each generalizing index with
  | nil => cases first
  | cons here _ ih =>
    cases index with
    | zero =>
      cases first
      cases second
      exact here
    | succ index => exact ih first second

namespace Phrase

variable {part phrase : Phrase}

/-- A slot keeps its token when it is lifted into an outer phrase. -/
@[simp] theorem Slot.lift_token (outer : List (Group phrase)) (place : Group part → Group phrase)
    (slot : Slot part) : (slot.lift outer place).token = slot.token := rfl

/-- A slot is kept in the phrase when the groups around its part are selected and it is kept there. -/
@[simp] theorem Slot.keptBy_lift (selection : Selection phrase) (outer : List (Group phrase))
    (place : Group part → Group phrase) (slot : Slot part) :
    (slot.lift outer place).keptBy selection =
      (outer.all selection && slot.keptBy (selection ∘ place)) := by
  simp [Slot.keptBy, Slot.lift]

/-- A slot takes the same parts wherever it is placed. -/
theorem takes_lift_iff {ofType : String → Language Char} {outer : List (Group phrase)}
    {place : Group part → Group phrase} {slots : List (Slot part)} {parts : List Part} :
    List.Forall₂ (Slot.Takes ofType) (slots.map (Slot.lift outer place)) parts ↔
      List.Forall₂ (Slot.Takes ofType) slots parts :=
  List.forall₂_map_left_iff

/-- What a selection keeps of a part of a phrase when the groups around the part are selected. -/
theorem filter_lift_of_selected {selection : Selection phrase} {outer : List (Group phrase)}
    (place : Group part → Group phrase) (selected : outer.all selection = true)
    (slots : List (Slot part)) :
    (slots.map (Slot.lift outer place)).filter (·.keptBy selection) =
      (slots.filter (·.keptBy (selection ∘ place))).map (Slot.lift outer place) := by
  rw [List.filter_map]
  congr 2
  funext slot
  simp [selected]

/-- Nothing is kept of a part in a group that is not selected. -/
theorem filter_lift_of_not_selected {selection : Selection phrase} {outer : List (Group phrase)}
    (place : Group part → Group phrase) (unselected : outer.all selection = false)
    (slots : List (Slot part)) :
    (slots.map (Slot.lift outer place)).filter (·.keptBy selection) = [] := by
  simp [List.filter_map, Function.comp_def, unselected]

end Phrase

namespace Filling

open Phrase

variable {phrase : Phrase} {ofType : String → Language Char}

/-- Whoever enters a group has entered the group around it. -/
theorem selection_closed (filling : Filling phrase) : filling.selection.Closed := by
  intro group
  induction filling with
  | done => nomatch group
  | token part others ih =>
    cases group with
    | behind group =>
      intro parent around entered
      obtain ⟨outer, found, rfl⟩ := Option.map_eq_some_iff.mp around
      exact ih group outer found entered
  | skip others ih =>
    cases group with
    | here => nofun
    | inside group => nofun
    | after group =>
      intro parent around entered
      obtain ⟨outer, found, rfl⟩ := Option.map_eq_some_iff.mp around
      exact ih group outer found entered
  | enter inside others ihInside ih =>
    cases group with
    | here => nofun
    | inside group =>
      intro parent around entered
      rw [Group.parent?] at around
      cases found : group.parent? with
      | none =>
        rw [found] at around
        cases around
        rfl
      | some outer =>
        rw [found] at around
        cases around
        exact ihInside group outer found entered
    | after group =>
      intro parent around entered
      obtain ⟨outer, found, rfl⟩ := Option.map_eq_some_iff.mp around
      exact ih group outer found entered

/-- The parts of a filling are taken by the tokens that its selection keeps. -/
theorem takes {atStart : Bool} {filling : Filling phrase} (fits : filling.Fits ofType atStart) :
    List.Forall₂ (Slot.Takes ofType)
      ((phrase.slotsFrom atStart).filter (·.keptBy filling.selection)) filling.parts := by
  induction filling generalizing atStart with
  | done => exact .nil
  | token part others ih =>
    rw [slotsFrom, List.filter_cons_of_pos rfl, filter_lift_of_selected .behind rfl]
    exact .cons fits.1 (takes_lift_iff.mpr (ih fits.2))
  | skip others ih =>
    rw [slotsFrom, List.filter_append, filter_lift_of_not_selected .inside rfl,
      filter_lift_of_selected .after rfl, List.nil_append]
    exact takes_lift_iff.mpr (ih fits)
  | enter inside others ihInside ih =>
    rw [slotsFrom, List.filter_append, filter_lift_of_selected .inside rfl,
      filter_lift_of_selected .after rfl]
    exact List.rel_append (takes_lift_iff.mpr (ihInside fits.1))
      (takes_lift_iff.mpr (ih fits.2))

/-- Parts for the tokens that a selection keeps make a filling. -/
theorem exists_of_takes {atStart : Bool} {selection : Selection phrase} {parts : List Part}
    (taken : List.Forall₂ (Slot.Takes ofType)
      ((phrase.slotsFrom atStart).filter (·.keptBy selection)) parts) :
    ∃ filling : Filling phrase, filling.Fits ofType atStart ∧ filling.parts = parts := by
  induction phrase generalizing atStart parts with
  | done =>
    cases taken
    exact ⟨.done, trivial, rfl⟩
  | token first rest ih =>
    rw [slotsFrom, List.filter_cons_of_pos rfl, filter_lift_of_selected .behind rfl] at taken
    cases taken with
    | @cons _ part _ _ here others =>
      obtain ⟨filling, fits, rfl⟩ := ih (takes_lift_iff.mp others)
      exact ⟨.token part filling, ⟨here, fits⟩, rfl⟩
  | optional inner rest ihInner ih =>
    rw [slotsFrom, List.filter_append, filter_lift_of_selected .after rfl] at taken
    cases selected : selection .here with
    | false =>
      rw [filter_lift_of_not_selected .inside (by simp [selected]), List.nil_append] at taken
      obtain ⟨filling, fits, same⟩ := ih (takes_lift_iff.mp taken)
      exact ⟨.skip filling, fits, same⟩
    | true =>
      rw [filter_lift_of_selected .inside (by simp [selected])] at taken
      obtain ⟨front, back, rfl, first, second⟩ := exists_append_of_forall₂ taken
      obtain ⟨inside, fitsInside, rfl⟩ := ihInner (takes_lift_iff.mp first)
      obtain ⟨others, fits, rfl⟩ := ih (takes_lift_iff.mp second)
      exact ⟨.enter inside others, ⟨fitsInside, fits⟩, rfl⟩

/-- A closed selection of the groups of a phrase is closed on a part of the phrase. -/
theorem closed_part {part phrase : Phrase} {selection : Selection phrase} (closed : selection.Closed)
    {place : Group part → Group phrase}
    (kept : ∀ group parent, group.parent? = some parent → (place group).parent? = some (place parent)) :
    Selection.Closed (selection ∘ place) :=
  fun group parent around selected => closed _ _ (kept group parent around) selected

/-- If a closed selection has a group at all, then it has one that no group is around. -/
theorem exists_outermost {phrase : Phrase} {selection : Selection phrase} (closed : selection.Closed)
    {group : Group phrase} (selected : selection group = true) :
    ∃ outer : Group phrase, outer.parent? = none ∧ selection outer = true := by
  induction group with
  | here => exact ⟨.here, rfl, selected⟩
  | inside group ih =>
    obtain ⟨outer, outermost, within⟩ :=
      ih (closed_part closed fun _ _ around => by rw [Group.parent?, around]) selected
    exact ⟨.here, rfl, closed (.inside outer) .here (by rw [Group.parent?, outermost]) within⟩
  | after group ih =>
    obtain ⟨outer, outermost, listed⟩ :=
      ih (closed_part closed fun _ _ around => by rw [Group.parent?, around, Option.map_some]) selected
    exact ⟨.after outer, by rw [Group.parent?, outermost, Option.map_none], listed⟩
  | behind group ih =>
    obtain ⟨outer, outermost, listed⟩ :=
      ih (closed_part closed fun _ _ around => by rw [Group.parent?, around, Option.map_some]) selected
    exact ⟨.behind outer, by rw [Group.parent?, outermost, Option.map_none], listed⟩

/-- Nothing is selected inside a group that is not selected. -/
theorem unselected_inside {inner rest : Phrase} {selection : Selection (.optional inner rest)}
    (closed : selection.Closed) (unselected : selection .here = false) (group : Group inner) :
    selection (.inside group) = false := by
  have closedInner : Selection.Closed (selection ∘ .inside) :=
    closed_part closed fun _ _ around => by rw [Group.parent?, around]
  cases within : selection (.inside group) with
  | false => rfl
  | true =>
    obtain ⟨outer, outermost, listed⟩ := exists_outermost closedInner within
    have around := closed (.inside outer) .here (by rw [Group.parent?, outermost]) listed
    rw [unselected] at around
    cases around

/-- A closed selection with the parts of what it keeps is that of a filling. -/
theorem exists_of_closed {atStart : Bool} {selection : Selection phrase} {parts : List Part}
    (closed : selection.Closed) (taken : List.Forall₂ (Slot.Takes ofType)
      ((phrase.slotsFrom atStart).filter (·.keptBy selection)) parts) :
    ∃ filling : Filling phrase, filling.Fits ofType atStart ∧ filling.selection = selection ∧
      filling.parts = parts := by
  induction phrase generalizing atStart parts with
  | done =>
    cases taken
    exact ⟨.done, trivial, funext (fun group => nomatch group), rfl⟩
  | token first rest ih =>
    rw [slotsFrom, List.filter_cons_of_pos rfl, filter_lift_of_selected .behind rfl] at taken
    have closedRest : Selection.Closed (selection ∘ .behind) :=
      closed_part closed fun _ _ around => by rw [Group.parent?, around, Option.map_some]
    cases taken with
    | @cons _ part _ _ here others =>
      obtain ⟨filling, fits, same, rfl⟩ := ih closedRest (takes_lift_iff.mp others)
      refine ⟨.token part filling, ⟨here, fits⟩, funext fun group => ?_, rfl⟩
      cases group with
      | behind group => exact congrFun same group
  | optional inner rest ihInner ih =>
    rw [slotsFrom, List.filter_append, filter_lift_of_selected .after rfl] at taken
    have closedRest : Selection.Closed (selection ∘ .after) :=
      closed_part closed fun _ _ around => by rw [Group.parent?, around, Option.map_some]
    have closedInner : Selection.Closed (selection ∘ .inside) :=
      closed_part closed fun _ _ around => by rw [Group.parent?, around]
    cases selected : selection .here with
    | false =>
      rw [filter_lift_of_not_selected .inside (by simp [selected]), List.nil_append] at taken
      obtain ⟨filling, fits, same, taken⟩ := ih closedRest (takes_lift_iff.mp taken)
      refine ⟨.skip filling, fits, funext fun group => ?_, taken⟩
      cases group with
      | here => exact selected.symm
      | after group => exact congrFun same group
      | inside group => exact (unselected_inside closed selected group).symm
    | true =>
      rw [filter_lift_of_selected .inside (by simp [selected])] at taken
      obtain ⟨front, back, rfl, first, second⟩ := exists_append_of_forall₂ taken
      obtain ⟨inside, fitsInside, sameInside, rfl⟩ := ihInner closedInner (takes_lift_iff.mp first)
      obtain ⟨others, fits, same, rfl⟩ := ih closedRest (takes_lift_iff.mp second)
      refine ⟨.enter inside others, ⟨fitsInside, fits⟩, funext fun group => ?_, rfl⟩
      cases group with
      | here => exact selected.symm
      | inside group => exact congrFun sameInside group
      | after group => exact congrFun same group

/-- Fillings are the closed selections of groups with parts for what they keep. -/
theorem exists_iff_closed {selection : Selection phrase} {parts : List Part} :
    (∃ filling : Filling phrase, filling.Fits ofType true ∧ filling.selection = selection ∧
      filling.parts = parts) ↔ selection.Closed ∧ phrase.Fits ofType selection parts := by
  constructor
  · rintro ⟨filling, fits, rfl, rfl⟩
    exact ⟨filling.selection_closed, takes fits⟩
  · rintro ⟨closed, fits⟩
    exact exists_of_closed closed fits

/-! ## What is captured -/

/-- There is one capture for each capturing token. -/
@[simp] theorem length_captured (filling : Filling phrase) (position : Nat) :
    (filling.captured position).length = phrase.capturing.length := by
  induction filling generalizing position with
  | done => rfl
  | @token first rest part others ih =>
    cases taken : first.kind.captures <;>
      simp [captured, capturing, tokens, taken, ih, Nat.add_comm]
  | skip others ih => simp [captured, capturing, tokens, ih]
  | enter inside others ihInside ih => simp [captured, capturing, tokens, ihInside, ih]

end Filling

/-- Tokens that are not kept capture nothing. -/
theorem captured_of_not_kept (position : Nat) {tokens : List (Token × Bool)} (parts : List Part)
    (unkept : ∀ token ∈ tokens, token.2 = false) :
    captured position tokens parts =
      List.replicate ((tokens.map (·.1)).filter (·.kind.captures)).length none := by
  induction tokens with
  | nil => simp [captured]
  | cons token tokens ih =>
    obtain ⟨token, kept⟩ := token
    obtain rfl : kept = false := unkept _ List.mem_cons_self
    have others := ih fun token inside => unkept token (List.mem_cons_of_mem _ inside)
    cases taken : token.kind.captures <;>
      simp [captured, taken, others, List.replicate_succ]

/-- Two runs of tokens capture one after the other. -/
theorem captured_append (position : Nat) {front : List (Token × Bool)} {parts : List Part}
    (each : (front.filter (·.2)).length = parts.length) (back : List (Token × Bool))
    (more : List Part) :
    captured position (front ++ back) (parts ++ more) =
      captured position front parts ++ captured (position + (lineOf parts).length) back more := by
  induction front generalizing position parts with
  | nil =>
    obtain rfl : parts = [] := List.length_eq_zero_iff.mp each.symm
    simp [captured]
  | cons token front ih =>
    obtain ⟨token, kept⟩ := token
    cases kept with
    | false =>
      have others := @ih position parts (by simpa using each)
      simp [captured, others]
    | true =>
      cases parts with
      | nil => simp at each
      | cons part parts =>
        have others := @ih (position + part.gap.length + part.body.length) parts
          (by simpa using each)
        simp only [List.cons_append, captured, others, lineOf_cons, List.length_append,
          List.append_assoc, ← Nat.add_assoc]

namespace Filling

open Phrase

/-- The marks of a part of a phrase, when the groups around the part are selected. -/
theorem map_mark_lift_of_selected {part phrase : Phrase} {selection : Selection phrase}
    {outer : List (Group phrase)} (place : Group part → Group phrase)
    (selected : outer.all selection = true) (slots : List (Slot part)) :
    (slots.map (Slot.lift outer place)).map (Slot.mark selection) =
      slots.map (Slot.mark (selection ∘ place)) := by
  rw [List.map_map]
  congr 1
  funext slot
  simp [Slot.mark, selected, Slot.lift_token]

/-- The marks of a part of a phrase, when a group around the part is not selected. -/
theorem map_mark_lift_of_not_selected {part phrase : Phrase} {selection : Selection phrase}
    {outer : List (Group phrase)} (place : Group part → Group phrase)
    (unselected : outer.all selection = false) (slots : List (Slot part)) :
    (slots.map (Slot.lift outer place)).map (Slot.mark selection) =
      slots.map fun slot => (slot.token, false) := by
  rw [List.map_map]
  congr 1
  funext slot
  simp [Slot.mark, unselected]

/-- The slots of a phrase have its tokens, in order. -/
theorem map_token_slotsFrom (phrase : Phrase) (atStart : Bool) :
    (phrase.slotsFrom atStart).map (·.token) = phrase.tokens := by
  induction phrase generalizing atStart with
  | done => rfl
  | token first rest ih => simp [slotsFrom, tokens, Function.comp_def, ih]
  | optional inner rest ihInner ih => simp [slotsFrom, tokens, Function.comp_def, ihInner, ih]

/-- There is one part for each token that the selection of a filling keeps. -/
theorem length_marked {phrase : Phrase} (filling : Filling phrase) (atStart : Bool) :
    (((phrase.slotsFrom atStart).map (Slot.mark filling.selection)).filter (·.2)).length =
      filling.parts.length := by
  induction filling generalizing atStart with
  | done => rfl
  | token part others ih =>
    rw [slotsFrom, List.map_cons, map_mark_lift_of_selected .behind rfl]
    exact congrArg (· + 1) (ih false)
  | @skip inner rest others ih =>
    rw [slotsFrom, List.map_append, map_mark_lift_of_not_selected .inside rfl,
      map_mark_lift_of_selected .after rfl, List.filter_append, List.length_append, parts, ← ih false]
    simp only [List.filter_map, Function.comp_def, List.filter_false, List.map_nil, List.length_nil,
      Nat.zero_add]
    rfl
  | enter inside others ihInside ih =>
    rw [slotsFrom, List.map_append, map_mark_lift_of_selected .inside rfl,
      map_mark_lift_of_selected .after rfl, List.filter_append, List.length_append, parts,
      List.length_append, ← ihInside false, ← ih false]
    rfl

/-- A filling captures what its parts capture among the tokens that its selection keeps. -/
theorem captured_eq {phrase : Phrase} (filling : Filling phrase) (atStart : Bool) (position : Nat) :
    LineGrammar.captured position ((phrase.slotsFrom atStart).map (Slot.mark filling.selection))
      filling.parts = filling.captured position := by
  induction filling generalizing atStart position with
  | done => simp [slotsFrom, LineGrammar.captured, captured]
  | token part others ih =>
    rw [slotsFrom, List.map_cons, map_mark_lift_of_selected .behind rfl]
    have rest := ih false (position + part.gap.length + part.body.length)
    exact congrArg _ rest
  | @skip inner rest others ih =>
    have unkept : ∀ token ∈ (inner.slotsFrom false).map fun slot => (slot.token, false),
        token.2 = false := by simp
    have none : (((inner.slotsFrom false).map fun slot => (slot.token, false)).filter (·.2)).length =
        ([] : List Part).length := by simp
    have rest := captured_append position none ((rest.slotsFrom false).map
      (Slot.mark others.selection)) others.parts
    rw [captured_of_not_kept position [] unkept, List.map_map, lineOf_nil, List.length_nil,
      Nat.add_zero, ih] at rest
    rw [slotsFrom, List.map_append, map_mark_lift_of_not_selected .inside rfl,
      map_mark_lift_of_selected .after rfl, captured, capturing, ← map_token_slotsFrom inner false]
    exact rest
  | @enter inner rest inside others ihInside ih =>
    rw [slotsFrom, List.map_append, map_mark_lift_of_selected .inside rfl,
      map_mark_lift_of_selected .after rfl, captured, ← ihInside false, ← ih false]
    exact captured_append position (inside.length_marked false) _ others.parts

end Filling

end LineGrammar
