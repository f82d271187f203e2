import LineGrammar.Proofs.Pattern.Meaning
import LineGrammar.Proofs.Pattern.Standalone

/-!
# Texts that no bar divides

A pattern can be put into a group as a text, and is read there as it is by itself. Where it shares a branch
of the group with other texts, this is true only as long as no bar divides it: a bar would end the branch
of its neighbours as well.

A text that is not divided is read as items of the branch that it stands in (`Settles.of_read`), if what
stands behind it begins with an edge. Such texts, and texts that spell items anyway, can be put after one
another. A text with bars is read as several branches, so it can only stand before or behind a bar itself
(`Bordered`).
-/

namespace LineGrammar.Pattern

open LineGrammar.Text

/-- Where a text is read as a pattern, no bar divides it. -/
def Undivided (text : String) : Prop :=
  ∀ root reader, readTree text.toList .none = .ok (root, reader) → reader.level.branches = []

/-- Whether a bar divides a text is found by reading it. -/
theorem undivided_iff {text : String} : Undivided text ↔
    ((readTree text.toList .none).toOption.all fun read => read.2.level.branches.isEmpty) := by
  unfold Undivided
  cases readTree text.toList .none with
  | error refusal => simp [Except.toOption]
  | ok result =>
    obtain ⟨root, reader⟩ := result
    simp [Except.toOption]

instance (text : String) : Decidable (Undivided text) := decidable_of_iff _ undivided_iff.symm

/-- A text that is read as items of a branch of a group, latest first, if an edge or nothing stands
behind it. -/
structure Settles (text : List Char) (items : List (Node × Standing)) : Prop where
  clean : .dangling ∉ Symbol.ofChars text
  calm : Calm (Symbol.ofChars text)
  runs : ∀ item ∈ items, item.1.obstacle? false = none
  reads : ∀ (reader : Reader) (tail : List Symbol), reader.rest = Symbol.ofChars text ++ tail →
    Bounded tail → .dangling ∉ tail → reader.level.verbose = false → reader.level.bracket.IsGroup →
      ∃ position widths opening, reader.Reaches (reader.holding position tail reader.opened widths
        { reader.level with opening, items := items ++ reader.level.items })

/-- What begins with an edge is calm. -/
theorem Bounded.calm {tail : List Symbol} (bounded : Bounded tail) : Calm tail := by
  constructor <;> intro ahead <;> obtain ⟨c, edge, same⟩ := bounded _ ahead <;>
    cases Symbol.plain.inj same <;> exact absurd edge (by decide)

/-- What begins with an edge may have something behind it. -/
theorem Bounded.append {symbols tail : List Symbol} (front : Bounded symbols) (behind : Bounded tail) :
    Bounded (symbols ++ tail) := by
  cases symbols with
  | nil => exact behind
  | cons symbol rest => exact front

/-- A text that is read as branches, in order, at the start of a group, if an edge or nothing stands behind
it. -/
structure Bordered (text : List Char) (nodes : List Node) : Prop where
  clean : .dangling ∉ Symbol.ofChars text
  calm : Calm (Symbol.ofChars text)
  runs : ∀ node ∈ nodes, node.obstacle? false = none
  reads : ∀ (reader : Reader) (tail : List Symbol), reader.rest = Symbol.ofChars text ++ tail →
    Bounded tail → .dangling ∉ tail → reader.level.verbose = false → reader.level.bracket.IsGroup →
      reader.level.items = [] → ∃ position widths level, level.bracket = reader.level.bracket ∧
        level.verbose = false ∧
        level.branches.reverse ++ [Reading.branchOf level] = reader.level.branches.reverse ++ nodes ∧
        reader.Reaches (reader.holding position tail reader.opened widths level)

namespace Bordered

variable {text more : List Char} {nodes later : List Node}

/-- All branches of a group. -/
theorem enclosed (bordered : Bordered text nodes) : Enclosed text 0 fun _ => nodes where
  clean := bordered.clean
  calm := bordered.calm
  runs _ := bordered.runs
  reads reader tail ahead clean strict group none := by
    obtain ⟨position, widths, level, same, -, branches, reached⟩ := bordered.reads reader _ ahead
      (.closing tail) (by simpa using clean) strict group none
    exact ⟨position, widths, level, same, branches, reached⟩

/-- Branches before others. -/
theorem orElse (bordered : Bordered text nodes) (others : Enclosed more 0 fun _ => later) :
    Enclosed (text ++ '|' :: more) 0 fun _ => nodes ++ later where
  clean := by
    rw [Symbol.ofChars_append bordered.clean, Symbol.ofChars_plain (by decide)]
    simpa using ⟨bordered.clean, others.clean⟩
  calm := by
    rw [Symbol.ofChars_append bordered.clean, Symbol.ofChars_plain (by decide)]
    exact bordered.calm.append (by simp [Calm])
  runs opened node listed :=
    (List.mem_append.mp listed).elim (bordered.runs node) (others.runs opened node)
  reads reader tail ahead clean strict group none := by
    rw [Symbol.ofChars_append bordered.clean, Symbol.ofChars_plain (by decide), List.append_assoc,
      List.cons_append] at ahead
    have behind : .dangling ∉ Symbol.ofChars more ++ .plain ')' :: tail := by
      simpa using ⟨others.clean, clean⟩
    obtain ⟨position, widths, level, same, plain, branches, reached⟩ := bordered.reads reader _ ahead
      (.cons (by decide) _) (by simpa using behind) strict group none
    generalize held : reader.holding position (.plain '|' :: (Symbol.ofChars more ++ .plain ')' :: tail))
      reader.opened widths level = middle at reached
    have bar : middle.rest = .plain '|' :: (Symbol.ofChars more ++ .plain ')' :: tail) := held ▸ rfl
    have barred := Reading.step_bar bar behind (by subst held; exact same ▸ group)
    obtain ⟨position', widths', level', same', branches', reached'⟩ := others.reads
      (middle.barred (Symbol.ofChars more ++ .plain ')' :: tail)) tail rfl clean
      (by subst held; exact plain) (by subst held; exact same ▸ group) rfl
    refine ⟨position', widths', level', ?_, ?_, ?_⟩
    · subst held
      exact same'.trans same
    · subst held
      rw [branches', ← List.append_assoc, ← branches]
      simp [Reader.holding, Reader.barred]
    · refine reached.trans (.step barred (by simp [bar, Reader.barred]) ?_)
      subst held
      simpa [Reader.holding, Reader.barred, Reader.moved] using reached'

end Bordered

/-- A text that stands is read as its branches, whatever edge stands behind it. -/
theorem Stands.bordered {text : List Char} {own : Level} (stands : Stands .none [] text own) :
    Bordered text own.nodes where
  clean := stands.clean
  calm := stands.calm
  runs := stands.runs.nodes
  reads reader tail ahead bounded _ strict group none := by
    obtain ⟨position, level, levels, reached⟩ :=
      stands.reads reader tail ahead bounded ⟨strict, group.branching⟩
    refine ⟨position, reader.widths, level, ?_, ?_, ?_, reached⟩
    · cases levels <;> rfl
    · cases levels <;> exact strict
    · cases levels <;> simp [Level.nodes, Reading.branchOf, none]

/-- A text that spells items is read as these, whatever stands behind it. -/
theorem Spells.settles {text : List Char} {items : List (Node × Standing)}
    (spelled : Spells text 0 fun _ => items) : Settles text items where
  clean := spelled.clean
  calm := spelled.calm
  runs := spelled.runs 0
  reads reader tail ahead bounded clean strict _ := by
    obtain ⟨position, widths, reached⟩ := spelled.reads reader tail ahead bounded.calm clean strict
    exact ⟨position, widths, reader.level.opening, reached⟩

namespace Settles

variable {text more : List Char} {items later : List (Node × Standing)}

/-- A pattern on its own, without groups, without switches for the whole and without bars that divide
it, is read as items, and its tree is their sequence. -/
theorem of_read {text : String} {own : Pattern} (alone : read text .none = .ok own)
    (groups : own.groups = 0) (switches : own.switches = .none) (undivided : Undivided text) :
    ∃ items, Settles text.toList items ∧ own.root = .ofItems items := by
  obtain ⟨final, tree, stands, root, -⟩ :=
    Stands.of_readTree alone groups rfl (.inl switches) (.inl rfl)
  have whole := undivided _ _ tree
  refine ⟨final.level.items, ⟨stands.clean, stands.calm, stands.runs.items, ?_⟩, ?_⟩
  · intro reader tail ahead bounded _ strict group
    obtain ⟨position, level, levels, reached⟩ :=
      stands.reads reader tail ahead bounded ⟨strict, group.branching⟩
    generalize final.level = own at whole levels
    cases levels with
    | @within opening opening' items =>
      refine ⟨position, reader.widths, opening', ?_⟩
      simpa [strict] using reached
    | across first => simp at whole
  · simp [root, Level.nodes, whole, Node.ofBranches, Node.ofChoices, Reading.branchOf, Node.ofItems]

/-- Texts after one another are read as the items of both, if the second one begins with an edge. -/
theorem append (front : Settles text items) (behind : Settles more later)
    (bounded : Bounded (Symbol.ofChars more)) : Settles (text ++ more) (later ++ items) where
  clean := by
    rw [Symbol.ofChars_append front.clean, List.mem_append, not_or]
    exact ⟨front.clean, behind.clean⟩
  calm := by
    rw [Symbol.ofChars_append front.clean]
    exact front.calm.append behind.calm
  runs item listed := (List.mem_append.mp listed).elim (behind.runs item) (front.runs item)
  reads reader tail ahead edge clean strict group := by
    rw [Symbol.ofChars_append front.clean, List.append_assoc] at ahead
    obtain ⟨position, widths, opening, reached⟩ := front.reads reader _ ahead (bounded.append edge)
      (by simp [behind.clean, clean]) strict group
    obtain ⟨position', widths', opening', reached'⟩ := behind.reads
      (reader.holding position (Symbol.ofChars more ++ tail) reader.opened widths
        { reader.level with opening, items := items ++ reader.level.items }) tail rfl edge clean strict
      group
    refine ⟨position', widths', opening', reached.trans ?_⟩
    simpa [Reader.holding] using reached'

/-- A text that spells items may stand before any other. -/
theorem after (spelled : Spells text 0 fun _ => items) (behind : Settles more later) :
    Settles (text ++ more) (later ++ items) where
  clean := by
    rw [Symbol.ofChars_append spelled.clean, List.mem_append, not_or]
    exact ⟨spelled.clean, behind.clean⟩
  calm := by
    rw [Symbol.ofChars_append spelled.clean]
    exact spelled.calm.append behind.calm
  runs item listed := (List.mem_append.mp listed).elim (behind.runs item) (spelled.runs 0 item)
  reads reader tail ahead bounded clean strict group := by
    rw [Symbol.ofChars_append spelled.clean, List.append_assoc] at ahead
    obtain ⟨position, widths, reached⟩ := spelled.reads reader _ ahead
      (behind.calm.append bounded.calm) (by simp [behind.clean, clean]) strict
    obtain ⟨position', widths', opening, reached'⟩ := behind.reads
      (reader.further position (Symbol.ofChars more ++ tail) reader.opened widths items) tail rfl bounded
      clean strict group
    refine ⟨position', widths', opening, reached.trans ?_⟩
    simpa [Reader.further, Reader.holding] using reached'

/-- At the start of a group, the items are those of one branch. -/
theorem bordered (settles : Settles text items) : Bordered text [.ofItems items] where
  clean := settles.clean
  calm := settles.calm
  runs := by simpa using obstacle_ofItems settles.runs
  reads reader tail ahead bounded clean strict group none := by
    obtain ⟨position, widths, opening, reached⟩ :=
      settles.reads reader tail ahead bounded clean strict group
    refine ⟨position, widths, { reader.level with opening, items := items ++ reader.level.items }, rfl,
      strict, ?_, reached⟩
    simp [Reading.branchOf, Node.ofItems, none]

/-- The only branch of a group. -/
theorem enclosed (settles : Settles text items) : Enclosed text 0 fun _ => [.ofItems items] :=
  settles.bordered.enclosed

/-- A branch before others. -/
theorem orElse {nodes : List Node} (settles : Settles text items)
    (others : Enclosed more 0 fun _ => nodes) :
    Enclosed (text ++ '|' :: more) 0 fun _ => .ofItems items :: nodes :=
  settles.bordered.orElse others

end Settles

end LineGrammar.Pattern
