import LineGrammar.Proofs.Pattern.Ways
import Mathlib.Data.List.Forall2

/-!
# Branches that begin alike

What several branches become is no longer their choice: leaves that all of them begin with stand once
before what is left of them, and a choice among single characters is one set. Two facts make up for it.
A property that sequences and choices inherit from their parts, and that no leaf lacks, holds of the
whole exactly when it holds of every branch. And where case counts, a search through the whole finds
what it finds through the choice, whatever follows: a leaf leads to one place at most, so that nothing
is lost by asking it once for all branches.
-/

namespace LineGrammar.Pattern

/-- A search depends only on what is answered to the values of the list. -/
theorem findSome?_congr {α β : Type} {one other : α → Option β} {values : List α}
    (same : ∀ value ∈ values, one value = other value) : values.findSome? one = values.findSome? other := by
  induction values with
  | nil => rfl
  | cons value rest ih =>
    rw [List.findSome?_cons, List.findSome?_cons, same value List.mem_cons_self,
      ih fun other inside => same other (List.mem_cons_of_mem value inside)]

/-- A list is mapped when each of its values is. -/
theorem mapM_eq_some {α β : Type} {each : α → Option β} {values : List α} {results : List β} :
    values.mapM each = some results ↔
      List.Forall₂ (fun value result => each value = some result) values results := by
  induction values generalizing results with
  | nil => simp [eq_comm]
  | cons value rest ih =>
    rw [List.mapM_cons, List.forall₂_cons_left_iff]
    simp only [← ih]
    cases each value <;> cases rest.mapM each <;> simp [eq_comm]

namespace Node

/-! ## The parts of a branch -/

/-- The shared beginning of some lists of parts consists of leaves, and all of them begin with it. -/
theorem sharedParts_spec (first : List Node) (others : List (List Node)) :
    (∀ part ∈ first.take (sharedParts first others), part.isLeaf = true) ∧
      ∀ other ∈ others, other.take (sharedParts first others) = first.take (sharedParts first others) := by
  induction first generalizing others with
  | nil => simp [sharedParts]
  | cons part parts ih =>
    rw [sharedParts]
    split
    · rename_i alike
      simp only [Bool.and_eq_true, List.all_eq_true, beq_iff_eq] at alike
      obtain ⟨leaves, shared⟩ := ih (others.map (·.tail))
      refine ⟨by simpa using ⟨alike.1, leaves⟩, fun other listed => ?_⟩
      obtain ⟨rest, rfl⟩ : ∃ rest, other = part :: rest := by
        cases other with
        | nil => simpa using alike.2 [] listed
        | cons head rest => exact ⟨rest, by simpa using alike.2 _ listed⟩
      have behind := shared rest (List.mem_map.mpr ⟨_, listed, rfl⟩)
      simp [behind]
    · simp

/-- Behind the shared beginning, the first list goes on with no leaf that all the others go on with. -/
theorem sharedParts_stops (first : List Node) (others : List (List Node)) {part : Node}
    (next : (first.drop (sharedParts first others)).head? = some part) (leaf : part.isLeaf = true) :
    ∃ other ∈ others, (other.drop (sharedParts first others)).head? ≠ some part := by
  induction first generalizing others with
  | nil => simp [sharedParts] at next
  | cons head parts ih =>
    rw [sharedParts] at next ⊢
    split at next
    · rename_i alike
      obtain ⟨other, listed, apart⟩ := ih (others.map (·.tail)) (by simpa using next)
      obtain ⟨whole, inside, rfl⟩ := List.mem_map.mp listed
      exact ⟨whole, inside, by simpa [alike] using apart⟩
    · rename_i unlike
      obtain rfl : head = part := by simpa using next
      simp only [Bool.not_eq_true] at unlike
      simpa [unlike] using (by simpa [leaf] using unlike : ∃ other ∈ others, other.head? ≠ some head)

/-! ## Properties that a choice inherits -/

/-- A property that holds of a sequence or a choice when it holds of both parts, and of every leaf. -/
structure Inherited (holds : Node → Prop) : Prop where
  empty : holds .empty
  leaf : ∀ node : Node, node.isLeaf = true → holds node
  sequence : ∀ first second, holds (.sequence first second) ↔ holds first ∧ holds second
  choice : ∀ first second, holds (.choice first second) ↔ holds first ∧ holds second

namespace Inherited

variable {holds : Node → Prop} (inherited : Inherited holds)

include inherited

/-- It holds of a sequence of nodes when it holds of each. -/
theorem ofSequence_iff {nodes : List Node} :
    holds (ofSequence nodes) ↔ ∀ node ∈ nodes, holds node := by
  fun_induction ofSequence nodes with
  | case1 => simpa using inherited.empty
  | case2 node => simp
  | case3 node rest _ ih => rw [inherited.sequence, ih, List.forall_mem_cons]

/-- It holds of a choice among nodes when it holds of each. -/
theorem ofChoices_iff {nodes : List Node} :
    holds (ofChoices nodes) ↔ ∀ node ∈ nodes, holds node := by
  fun_induction ofChoices nodes with
  | case1 => simpa using inherited.empty
  | case2 node => simp
  | case3 node rest _ ih => rw [inherited.choice, ih, List.forall_mem_cons]

/-- It holds of a node when it holds of the parts. -/
theorem parts_iff {node : Node} : (∀ part ∈ node.parts, holds part) ↔ holds node := by
  induction node with
  | empty => simpa [parts] using inherited.empty
  | sequence first second ihFirst ihSecond =>
    rw [parts, List.forall_mem_append, ihFirst, ihSecond, inherited.sequence]
  | _ => simp [parts]

/-- Parts that amount to members of a set are leaves. -/
theorem of_members? {parts : List Node} {items : List SetItem} (members : members? parts = some items) :
    ∀ part ∈ parts, holds part := by
  unfold members? at members
  split at members
  · simpa using inherited.leaf _ rfl
  · simpa using inherited.leaf _ rfl
  · cases members

/-- It holds of the choice among what follows a common beginning when it holds of all parts. -/
theorem ofEndings_iff {endings : List (List Node)} :
    holds (ofEndings endings) ↔ ∀ ending ∈ endings, ∀ part ∈ ending, holds part := by
  unfold ofEndings
  split
  · rename_i members taken
    refine iff_of_true (inherited.leaf _ rfl) fun ending listed => ?_
    obtain ⟨index, bound, rfl⟩ := List.getElem_of_mem listed
    have each := mapM_eq_some.mp taken
    exact inherited.of_members? (each.get bound (each.length_eq ▸ bound))
  · rw [inherited.ofChoices_iff, List.forall_mem_map]
    exact forall₂_congr fun ending _ => inherited.ofSequence_iff

/-- It holds of what several branches become when it holds of each branch. -/
theorem ofBranches_iff {nodes : List Node} :
    holds (ofBranches nodes) ↔ ∀ node ∈ nodes, holds node := by
  unfold ofBranches
  split
  · rename_i first second others
    obtain ⟨leaves, shared⟩ := sharedParts_spec first.parts ((second :: others).map parts)
    generalize sharedParts first.parts ((second :: others).map parts) = count at leaves shared ⊢
    have front : ∀ part ∈ first.parts.take count, holds part := fun part inside =>
      inherited.leaf part (leaves part inside)
    have cut : ∀ node ∈ first :: second :: others,
        (∀ part ∈ node.parts.drop count, holds part) ↔ holds node := by
      intro node listed
      have same : node.parts.take count = first.parts.take count := by
        rcases List.mem_cons.mp listed with rfl | listed
        · rfl
        · exact shared _ (List.mem_map.mpr ⟨node, listed, rfl⟩)
      have whole : (∀ part ∈ node.parts, holds part) ↔ holds node := inherited.parts_iff
      rw [← whole]
      conv_rhs => rw [← List.take_append_drop count node.parts, same, List.forall_mem_append]
      exact (and_iff_right front).symm
    simp only [inherited.ofSequence_iff, List.forall_mem_append, List.forall_mem_singleton,
      inherited.ofEndings_iff, List.forall_mem_map]
    rw [and_iff_right front]
    exact forall₂_congr cut
  · exact inherited.ofChoices_iff

end Inherited

/-! ## Searching through branches -/

variable {text : Array Char} {on : Switches}

/-- A sequence leads on from its first node to the rest. -/
theorem run_ofSequence_cons (node : Node) (rest : List Node) (place : Place) (go : Continuation) :
    (ofSequence (node :: rest)).run text on place go =
      node.run text on place fun next => (ofSequence rest).run text on next go := by
  cases rest <;> rfl

/-- Two sequences one behind the other lead on from the first to the second. -/
theorem run_ofSequence_append (first second : List Node) (place : Place) (go : Continuation) :
    (ofSequence (first ++ second)).run text on place go =
      (ofSequence first).run text on place fun next => (ofSequence second).run text on next go := by
  induction first generalizing place with
  | nil => rfl
  | cons node rest ih => simp only [List.cons_append, run_ofSequence_cons, ih]

/-- The parts of a node one after the other are the node. -/
theorem run_parts (node : Node) : (ofSequence node.parts).run text on = node.run text on := by
  induction node with
  | sequence first second ihFirst ihSecond =>
    funext place go
    rw [parts, run_ofSequence_append, ihFirst, ihSecond]
    rfl
  | _ => rfl

/-- A choice tries its branches one after the other. -/
theorem run_ofChoices {nodes : List Node} (some : nodes ≠ []) (place : Place) (go : Continuation) :
    (ofChoices nodes).run text on place go = nodes.findSome? fun node => node.run text on place go := by
  fun_induction ofChoices nodes with
  | case1 => contradiction
  | case2 node => simp
  | case3 node rest more ih =>
    rw [List.findSome?_cons, ← ih (by simpa using more)]
    cases found : node.run text on place go <;> simp [run, found]

/-- A leaf leads to one place at most. -/
theorem exists_run_leaf {node : Node} (leaf : node.isLeaf = true) :
    ∃ next : Place → Option Place, ∀ place go, node.run text on place go = (next place).bind go := by
  have consumed (test : Char → Bool) : ∃ next : Place → Option Place, ∀ place go,
      consume text test place go = (next place).bind go := by
    refine ⟨fun place => consume text test place some, fun place go => ?_⟩
    simp only [consume]
    cases text[place.position]? with
    | none => rfl
    | some c => cases accepted : test c <;> simp [accepted]
  cases node with
  | character code => exact consumed _
  | anything => exact consumed _
  | set negated items => exact consumed _
  | anchor asked =>
    refine ⟨fun place => if asked.holds on text place.position then some place else none,
      fun place go => ?_⟩
    simp only [run]
    split <;> rfl
  | reference index width =>
    refine ⟨fun place => (reference index width).run text on place some, fun place go => ?_⟩
    simp only [run]
    cases place.group? index with
    | none => rfl
    | some span =>
      obtain ⟨start, stop⟩ := span
      cases again : repeatsAt on text start stop place.position <;> simp [again]
  | _ => cases leaf

/-- Leaves that all branches begin with are asked once for all of them. -/
theorem findSome?_run_shared {front : List Node} (leaves : ∀ node ∈ front, node.isLeaf = true)
    (endings : List (List Node)) (place : Place) (go : Continuation) :
    (endings.findSome? fun ending => (ofSequence (front ++ ending)).run text on place go) =
      (ofSequence front).run text on place fun next =>
        endings.findSome? fun ending => (ofSequence ending).run text on next go := by
  induction front generalizing place with
  | nil => rfl
  | cons node rest ih =>
    obtain ⟨next, leads⟩ : ∃ next : Place → Option Place, ∀ place go,
        node.run text on place go = (next place).bind go :=
      exists_run_leaf (leaves node List.mem_cons_self)
    simp only [List.cons_append, run_ofSequence_cons, leads]
    cases next place with
    | none => simp
    | some there => exact ih (fun other inside => leaves other (List.mem_cons_of_mem _ inside)) there

/-- Where case counts, a set is searched for its members. -/
theorem run_set (sensitive : on.ignoreCase = false) (items : List SetItem) :
    (set false items).run text on = consume text fun c => items.any (·.holds on c) := by
  refine congrArg (consume text) (funext fun c => ?_)
  unfold inSet
  split <;> simp [sensitive, sameCharacter, SetItem.holds]

/-- Where case counts, parts that amount to members of a set consume one of them. -/
theorem run_of_members? (sensitive : on.ignoreCase = false) {parts : List Node} {items : List SetItem}
    (members : members? parts = some items) :
    (ofSequence parts).run text on = consume text fun c => items.any (·.holds on c) := by
  unfold members? at members
  split at members
  · cases members
    refine congrArg (consume text) (funext fun c => ?_)
    simp [sameCharacter, sensitive, SetItem.holds]
  · cases members
    exact run_set sensitive _
  · cases members

/-- One of two characters is consumed by trying the one and then the other. -/
theorem consume_or (one other : Char → Bool) (place : Place) (go : Continuation) :
    consume text (fun c => one c || other c) place go =
      (consume text one place go).or (consume text other place go) := by
  unfold consume
  cases text[place.position]? with
  | none => rfl
  | some c =>
    change (if (one c || other c) = true then _ else none) =
      (if one c = true then _ else none).or (if other c = true then _ else none)
    cases one c <;> cases other c <;> simp

/-- Trying sets of characters one after the other consumes a character of any of them. -/
theorem findSome?_run_members (sensitive : on.ignoreCase = false) {endings : List (List Node)}
    {members : List (List SetItem)}
    (each : List.Forall₂ (fun ending items => members? ending = some items) endings members)
    (place : Place) (go : Continuation) :
    (endings.findSome? fun ending => (ofSequence ending).run text on place go) =
      consume text (fun c => members.any fun items => items.any (·.holds on c)) place go := by
  induction each with
  | nil =>
    simp only [consume, List.findSome?_nil, List.any_nil, Bool.false_eq_true, if_false]
    cases text[place.position]? <;> rfl
  | @cons ending items endings members own _ ih =>
    have both : (fun c => (items :: members).any fun items => items.any (·.holds on c)) =
        fun c => items.any (·.holds on c) || members.any fun items => items.any (·.holds on c) :=
      funext fun c => List.any_cons
    rw [List.findSome?_cons, ih, run_of_members? sensitive own, both, consume_or]
    cases consume text (fun c => items.any (·.holds on c)) place go <;> rfl

/-- Where case counts, one set of characters is searched like the choice among them. -/
theorem run_ofEndings (sensitive : on.ignoreCase = false) {endings : List (List Node)} (some : endings ≠ [])
    (place : Place) (go : Continuation) :
    (ofEndings endings).run text on place go =
      endings.findSome? fun ending => (ofSequence ending).run text on place go := by
  unfold ofEndings
  split
  · rename_i members taken
    have same (c : Char) : members.flatten.eraseDups.any (·.holds on c) =
        members.any fun items => items.any (·.holds on c) := by
      rw [Bool.eq_iff_iff]
      simp only [List.any_eq_true, List.mem_eraseDups, List.mem_flatten]
      exact ⟨fun ⟨item, ⟨items, listed, inside⟩, here⟩ => ⟨items, listed, item, inside, here⟩,
        fun ⟨items, listed, item, inside, here⟩ => ⟨item, ⟨items, listed, inside⟩, here⟩⟩
    rw [findSome?_run_members sensitive (mapM_eq_some.mp taken), run_set sensitive, funext same]
  · rw [run_ofChoices (by simpa using some), List.findSome?_map]
    rfl

/-- Where case counts, a search finds through what branches become what it finds through their
choice. -/
theorem run_ofBranches (sensitive : on.ignoreCase = false) (nodes : List Node) :
    (ofBranches nodes).run text on = (ofChoices nodes).run text on := by
  unfold ofBranches
  split
  · rename_i first second others
    obtain ⟨leaves, shared⟩ := sharedParts_spec first.parts ((second :: others).map parts)
    generalize sharedParts first.parts ((second :: others).map parts) = count at leaves shared ⊢
    funext place go
    -- What the branches share is searched once, in front of what each of them goes on with.
    rw [run_ofSequence_append, run_ofChoices (by simp), List.map_map]
    simp only [ofSequence, run_ofEndings sensitive (mt List.map_eq_nil_iff.mp (List.cons_ne_nil _ _))]
    rw [← findSome?_run_shared leaves, List.findSome?_map]
    refine findSome?_congr fun node listed => ?_
    have same : node.parts.take count = first.parts.take count := by
      rcases List.mem_cons.mp listed with rfl | listed
      · rfl
      · exact shared _ (List.mem_map.mpr ⟨node, listed, rfl⟩)
    simp only [Function.comp_apply]
    rw [← same, List.take_append_drop, run_parts]
  · rfl

/-- So they lead to the same places. -/
theorem mem_ways_ofBranches (sensitive : on.ignoreCase = false) (nodes : List Node) {place next : Place} :
    next ∈ (ofBranches nodes).ways text on place ↔ next ∈ (ofChoices nodes).ways text on place := by
  have asked (node : Node) : (node.run text on place fun seen => if seen = next then some seen else none).isSome
      = true ↔ next ∈ node.ways text on place := by
    rw [run_searches, List.findSome?_isSome_iff]
    simp
  rw [← asked, ← asked, run_ofBranches sensitive]

end Node

end LineGrammar.Pattern
