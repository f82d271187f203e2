import LineGrammar.Proofs.Pattern.Grouping
import LineGrammar.Proofs.Pattern.Leading
import LineGrammar.Proofs.Pattern.Recognition

/-!
# What the parts of a pattern mean

A text means a language when it is read as a part of a pattern that recognizes the language. The part
is one item that can be repeated (`IsUnit`), a sequence of items (`IsRun`), or the branches of a group
(`IsChoice`). Each rule joins a rule of spelling with the rule of recognition for the same step, so
the language of a pattern is read off its text from the inside out.

None of these parts captures anything. Their meaning does not depend on the groups before them. None of
them begins with a set that a search would read in another way.
-/

namespace LineGrammar.Pattern

open LineGrammar.Text
open scoped Computability

/-- The ways of a sequence are those of its first node followed by those of the others. -/
theorem Node.ways_ofSequence_cons (text : Array Char) (on : Switches) (node : Node)
    (rest : List Node) (place : Place) :
    (Node.ofSequence (node :: rest)).ways text on place =
      (node.ways text on place).flatMap ((Node.ofSequence rest).ways text on) := by
  cases rest with
  | nil => simp [Node.ofSequence, Node.ways]
  | cons other rest => rfl

/-- The ways of two sequences after one another. -/
theorem Node.ways_ofSequence_append (text : Array Char) (on : Switches) (first second : List Node)
    (place : Place) :
    (Node.ofSequence (first ++ second)).ways text on place =
      ((Node.ofSequence first).ways text on place).flatMap
        ((Node.ofSequence second).ways text on) := by
  induction first generalizing place with
  | nil => simp [Node.ofSequence, Node.ways]
  | cons node rest ih =>
    rw [List.cons_append, ways_ofSequence_cons, ways_ofSequence_cons, List.flatMap_assoc]
    exact congrArg (fun ways => (node.ways text on place).flatMap ways) (funext ih)

/-- The ways of a branch that more items have been added to. -/
theorem Node.ways_ofItems_append (text : Array Char) (on : Switches)
    (items later : List (Node × Standing)) (place : Place) :
    (Node.ofItems (later ++ items)).ways text on place =
      ((Node.ofItems items).ways text on place).flatMap ((Node.ofItems later).ways text on) := by
  simp [Node.ofItems, Node.ways_ofSequence_append]

/-- A branch keeps the set that it begins with when its items keep theirs. -/
theorem Node.keepsLead_ofItems {items : List (Node × Standing)} {on : Switches}
    (keeps : ∀ item ∈ items, item.1.KeepsLead on) : (Node.ofItems items).KeepsLead on :=
  .ofSequence (by simpa using fun node standing => keeps (node, standing))

/-- A repetition begins with no set. -/
theorem Node.keepsLead_repetition {greed : Greed} {least : Nat} {greatest : Option Nat} {body : Node}
    {standing : Standing} {on : Switches} :
    ∀ item ∈ [(Node.repetition greed least greatest body, standing)], item.1.KeepsLead on := by
  intro item listed
  rw [List.mem_singleton.mp listed]
  exact .of_join_eq_none rfl

/-- A single item is its node. -/
@[simp] theorem Node.ofItems_singleton (node : Node) (standing : Standing) :
    Node.ofItems [(node, standing)] = node := rfl

variable {on : Switches} {text more : List Char} {pieces others : Language Char}

/-- A text that is read as one item with a language. -/
def IsUnit (on : Switches) (text : List Char) (pieces : Language Char) : Prop :=
  ∃ node, Operand text 0 (fun _ => node) ∧ Recognizes on node pieces ∧ node.KeepsLead on

/-- A text that is read as a sequence of items with a language. -/
def IsRun (on : Switches) (text : List Char) (pieces : Language Char) : Prop :=
  ∃ items, Spells text 0 (fun _ => items) ∧ Recognizes on (.ofItems items) pieces ∧
    ∀ item ∈ items, item.1.KeepsLead on

/-- A text that is read as the branches of a group with a language. -/
def IsChoice (on : Switches) (text : List Char) (pieces : Language Char) : Prop :=
  ∃ nodes, nodes ≠ [] ∧ Branches text 0 (fun _ => nodes) ∧ Recognizes on (.ofChoices nodes) pieces ∧
    ∀ node ∈ nodes, node.KeepsLead on

namespace IsUnit

/-- A unit is a run of one item. -/
theorem run (unit : IsUnit on text pieces) : IsRun on text pieces := by
  obtain ⟨node, operand, recognizes, keeps⟩ := unit
  exact ⟨[(node, .operand)], operand.spells, recognizes, by simpa using keeps⟩

/-- An escaped character stands for itself. -/
theorem character (c : Char) :
    IsUnit on (escapedChar c) (single (sameCharacter on c.toNat)) :=
  ⟨_, Operand.character c, Recognizes.character c.toNat, .leaf rfl⟩

/-- A minus sign stands for itself. -/
theorem minus : IsUnit on ['-'] (single (sameCharacter on '-'.toNat)) :=
  ⟨_, Operand.minus, Recognizes.character '-'.toNat, .leaf rfl⟩

/-- A dot stands for one character. -/
theorem anything : IsUnit on ['.'] (single (isAnything on)) :=
  ⟨_, Operand.anything, Recognizes.anything, .leaf rfl⟩

/-- The class of white space stands for one character of it. -/
theorem space : IsUnit on [backslash, 's'] (single (inSet on false [.category .space false])) :=
  ⟨_, Operand.space, Recognizes.set _ _, .leaf rfl⟩

/-- The class of digits stands for one digit. -/
theorem digit : IsUnit on [backslash, 'd'] (single (inSet on false [.category .digit false])) :=
  ⟨_, Operand.digit, Recognizes.set _ _, .leaf rfl⟩

/-- A set of everything but its members. -/
theorem outside {symbols : List Symbol} {members : List SetItem}
    (cut : Symbol.ofChars text = symbols) (each : List.Forall₂ Member symbols members)
    (some : symbols ≠ []) :
    IsUnit on ('[' :: '^' :: (text ++ [']'])) (single (inSet on true members.eraseDups)) := by
  have pure : .dangling ∉ symbols := by
    intro inside
    obtain ⟨index, bound, found⟩ := List.getElem_of_mem inside
    have is := each.get (i := index) bound (each.length_eq ▸ bound)
    rw [List.get_eq_getElem, found] at is
    cases is
  have whole : Symbol.ofChars ('^' :: (text ++ [']'])) =
      .plain '^' :: (symbols ++ [.plain ']']) := by
    rw [Symbol.ofChars_plain (by decide), Symbol.ofChars_append (cut ▸ pure), cut]
    rfl
  exact ⟨_, Operand.set whole (by simpa using pure) rfl (Reading.set_negated each some pure),
    Recognizes.set _ _, .leaf rfl⟩

/-- The set of the two signs. -/
theorem signs :
    IsUnit on ['[', '+', '-', ']']
      (single (inSet on false [.code '+'.toNat, .code '-'.toNat])) :=
  ⟨_, Operand.set (by decide) (by simp) rfl Reading.set_signs, Recognizes.set _ _, .leaf rfl⟩

/-- A star behind a unit stands for any number of its pieces. -/
theorem star (unit : IsUnit on text pieces) (nonempty : text ≠ []) (progress : [] ∉ pieces) :
    IsRun on (text ++ ['*']) pieces∗ := by
  obtain ⟨node, operand, recognizes, -⟩ := unit
  exact ⟨_, Spells.greedy operand nonempty .star, recognizes.star progress, Node.keepsLead_repetition⟩

/-- A plus sign behind a unit stands for one piece of it or more. -/
theorem plus (unit : IsUnit on text pieces) (nonempty : text ≠ []) (progress : [] ∉ pieces) :
    IsRun on (text ++ ['+']) (pieces * pieces∗) := by
  obtain ⟨node, operand, recognizes, -⟩ := unit
  exact ⟨_, Spells.greedy operand nonempty .plus, recognizes.plus progress, Node.keepsLead_repetition⟩

/-- A question mark behind a unit stands for one piece of it or none. -/
theorem optional (unit : IsUnit on text pieces) (nonempty : text ≠ []) :
    IsRun on (text ++ ['?']) (1 + pieces) := by
  obtain ⟨node, operand, recognizes, -⟩ := unit
  exact ⟨_, Spells.greedy operand nonempty .question, recognizes.optional, Node.keepsLead_repetition⟩

/-- A lazy star stands for the same pieces as a greedy one. -/
theorem lazyStar (unit : IsUnit on text pieces) (nonempty : text ≠ []) (progress : [] ∉ pieces) :
    IsRun on (text ++ ['*', '?']) pieces∗ := by
  obtain ⟨node, operand, recognizes, -⟩ := unit
  exact ⟨_, Spells.lazy operand nonempty .star, (recognizes.star progress).ofGreedy,
    Node.keepsLead_repetition⟩

end IsUnit

namespace IsRun

/-- The empty run stands for nothing. -/
theorem nil : IsRun on [] 1 := ⟨[], Spells.nil, Recognizes.empty, by simp⟩

/-- Runs one behind the other stand for pieces one behind the other. -/
theorem append (front : IsRun on text pieces) (behind : IsRun on more others) :
    IsRun on (text ++ more) (pieces * others) := by
  obtain ⟨items, spelled, recognizes, keeps⟩ := front
  obtain ⟨later, spelledLater, recognizesLater, keepsLater⟩ := behind
  refine ⟨later ++ items, spelled.append spelledLater, fun line place next => ?_,
    List.forall_mem_append.mpr ⟨keepsLater, keeps⟩⟩
  rw [Node.ways_ofItems_append]
  exact (recognizes line).flatMap (recognizesLater line) place next

/-- A run is a choice of one branch. -/
theorem choice (run : IsRun on text pieces) : IsChoice on text pieces := by
  obtain ⟨items, spelled, recognizes, keeps⟩ := run
  exact ⟨[.ofItems items], by simp, Branches.one spelled, recognizes,
    by simpa using Node.keepsLead_ofItems keeps⟩

/-- A branch before others. -/
theorem orElse (run : IsRun on text pieces) (choice : IsChoice on more others) :
    IsChoice on (text ++ '|' :: more) (pieces + others) := by
  obtain ⟨items, spelled, recognizes, keeps⟩ := run
  obtain ⟨nodes, nonempty, branches, recognizesOthers, keepsOthers⟩ := choice
  refine ⟨.ofItems items :: nodes, by simp, Branches.cons spelled branches, ?_,
    List.forall_mem_cons.mpr ⟨Node.keepsLead_ofItems keeps, keepsOthers⟩⟩
  obtain ⟨node, rest, rfl⟩ := List.exists_cons_of_ne_nil nonempty
  exact recognizes.choice recognizesOthers

end IsRun

/-- Whether a pattern matches a text from its first to its last character. -/
def matchesFully (pattern : Pattern) (text : List Char) : Bool :=
  (pattern.matchWhere text.toArray 0 fun stop => stop == text.length).isSome

/-- A text with a language is a pattern that matches exactly the texts of the language in full. -/
theorem IsRun.read {source : String} (run : IsRun .none source.toList pieces) :
    ∃ pattern, read source .none = .ok pattern ∧
      ∀ piece, pattern.matchesFully piece = true ↔ piece ∈ pieces := by
  obtain ⟨items, spelled, recognizes, -⟩ := run
  refine ⟨_, spelled.read_eq, fun piece => ?_⟩
  rw [matchesFully, matchWhere, Node.run_searches, Option.isSome_map, List.findSome?_isSome_iff]
  constructor
  · rintro ⟨place, listed, accepted⟩
    obtain ⟨taken, inside, held, rfl⟩ := (recognizes piece.toArray _ _).mp listed
    have whole : taken.length = piece.length := by
      by_contra partly
      simp [partly] at accepted
    have same : taken = piece := held.unique (by simp [Holds]) whole
    exact same ▸ inside
  · intro inside
    exact ⟨_, (recognizes piece.toArray ⟨0, []⟩ _).mpr ⟨piece, inside, by simp [Holds], rfl⟩, by simp⟩

/-- Where case counts, what branches become recognizes what their choice recognizes. -/
theorem Recognizes.ofBranches {nodes : List Node} (sensitive : on.ignoreCase = false)
    (recognizes : Recognizes on (.ofChoices nodes) pieces) : Recognizes on (.ofBranches nodes) pieces := by
  intro line place next
  rw [Node.mem_ways_ofBranches sensitive, recognizes line]

/-- Where case counts, branches in parentheses keep their language. -/
theorem IsChoice.group (choice : IsChoice on text pieces) (sensitive : on.ignoreCase = false := by rfl) :
    IsUnit on ('(' :: '?' :: ':' :: (text ++ [')'])) pieces := by
  obtain ⟨nodes, _, branches, recognizes, keeps⟩ := choice
  exact ⟨_, branches.group Opens.plain, recognizes.ofBranches sensitive, .ofBranches keeps⟩

end LineGrammar.Pattern
