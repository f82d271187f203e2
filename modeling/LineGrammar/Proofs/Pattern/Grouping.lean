import LineGrammar.Proofs.Pattern.Branches
import LineGrammar.Proofs.Pattern.Spelling

/-!
# Spellings of repetitions and groups

The rules that put the spelling of a longer text together from that of a part: a mark of repetition
behind an operand, and parentheses around branches. `Spells.read_eq` is the last step: a text that
spells items is a pattern, and its tree is their sequence.

A reader that meets a parenthesis puts its level aside and begins another one, and takes it up again
behind the closing parenthesis. So the branches of a group are followed at a level of their own.
-/

namespace LineGrammar.Pattern

open LineGrammar.Text

/-! ## Repetitions -/

/-- The mark of a repetition with the bounds that it sets. -/
inductive Mark : Char → Nat → Option Nat → Prop where
  | plus : Mark '+' 1 none
  | star : Mark '*' 0 none
  | question : Mark '?' 0 (some 1)

namespace Reading

variable {reader : Reader} {tail : List Symbol} {c : Char} {least : Nat} {greatest : Option Nat}

/-- A mark of repetition is read as its bounds. -/
theorem item_mark (mark : Mark c least greatest) (position : Nat) :
    item position (.plain c) = repeatLast least greatest position := by
  cases mark <;> rfl

/-- A mark repeats the operand before it, as greedily as what follows the mark says. -/
theorem repeatLast_ok {node : Node} {before : List (Node × Standing)} {greed : Greed}
    {position : Nat} {next : Reader}
    (last : reader.level.items = (node, .operand) :: before)
    (chosen : Reading.greed reader = .ok (greed, next)) :
    repeatLast least greatest position reader =
      .ok ((), { next with
        level := { next.level with
          items := (.repetition greed least greatest node, .repetition) :: before } }) := by
  rw [repeatLast, get_bind, last]
  exact (bind_ok chosen).trans rfl

/-- Before anything calm a repetition is greedy. -/
theorem greed_greedy (calm : Calm reader.rest) : greed reader = .ok (.greedy, reader) := by
  rw [greed, bind_ok (accept_false calm.1)]
  simp only [Bool.false_eq_true, if_false]
  exact (bind_ok (accept_false calm.2)).trans rfl

/-- Before a question mark a repetition is lazy. -/
theorem greed_lazy (ahead : reader.rest = .plain '?' :: tail) (clean : .dangling ∉ tail) :
    greed reader = .ok (.lazy, reader.moved (reader.position + 1) tail) := by
  rw [greed, bind_ok (accept_true ahead clean)]
  rfl

end Reading

namespace Spells

variable {text : List Char} {captures : Nat} {node : Nat → Node} {c : Char} {least : Nat}
  {greatest : Option Nat}

/-- An operand with a mark after it spells a repetition. -/
private theorem marked (operand : Operand text captures node) (nonempty : text ≠ [])
    (mark : Mark c least greatest) (greed : Greed) (signs : List Char)
    (cut : Symbol.ofChars (c :: signs) = .plain c :: signs.map .plain)
    (chosen : ∀ (reader : Reader) (tail : List Symbol),
      reader.rest = signs.map .plain ++ tail → Calm tail → .dangling ∉ tail →
        Reading.greed reader = .ok (greed, reader.moved (reader.position + signs.length) tail)) :
    Spells (text ++ c :: signs) captures
      fun opened => [(.repetition greed least greatest (node opened), .repetition)] where
  clean := by
    rw [Symbol.ofChars_append operand.clean, cut]
    simpa using operand.clean
  calm := by
    have calm := operand.calm
    have chars := Symbol.charsOf_ofChars text
    rw [Symbol.ofChars_append operand.clean]
    cases cutText : Symbol.ofChars text with
    | nil =>
      rw [cutText] at chars
      exact absurd chars.symm nonempty
    | cons first rest => simpa [Calm, cutText] using calm
  runs opened := by simpa [Node.obstacle?] using operand.runs opened
  reads reader tail ahead calm clean plain := by
    rw [Symbol.ofChars_append operand.clean, cut, List.append_assoc, List.cons_append] at ahead
    have behind : .dangling ∉ signs.map Symbol.plain ++ tail := by simpa using clean
    obtain ⟨position, widths, reached⟩ := operand.reads reader _ ahead (by simpa using clean) plain
    refine ⟨position + 1 + signs.length, widths, reached.trans (.single ?_ ?_)⟩
    · refine Reading.step_item rfl behind plain ?_ ?_ ?_
      · cases mark <;> simp
      · cases mark <;> simp
      · rw [Reading.item_mark mark]
        exact (Reading.repeatLast_ok rfl (chosen _ tail rfl calm clean)).trans rfl
    · simp only [Reader.further, Reader.holding, List.length_cons, List.length_append, List.length_map]
      omega

/-- An operand with a mark of repetition behind it is a greedy repetition of it. -/
theorem greedy (operand : Operand text captures node) (nonempty : text ≠ [])
    (mark : Mark c least greatest) :
    Spells (text ++ [c]) captures
      fun opened => [(.repetition .greedy least greatest (node opened), .repetition)] := by
  refine marked operand nonempty mark .greedy [] (by cases mark <;> decide) ?_
  intro reader tail ahead calm _
  rw [List.map_nil, List.nil_append] at ahead
  rw [Reading.greed_greedy (ahead ▸ calm), ← ahead]
  rfl

/-- An operand with a mark of repetition and a question mark behind it is a lazy repetition of it. -/
theorem lazy (operand : Operand text captures node) (nonempty : text ≠ [])
    (mark : Mark c least greatest) :
    Spells (text ++ [c, '?']) captures
      fun opened => [(.repetition .lazy least greatest (node opened), .repetition)] := by
  refine marked operand nonempty mark .lazy ['?'] (by cases mark <;> decide) ?_
  intro reader tail ahead _ clean
  exact Reading.greed_lazy ahead clean

end Spells

/-! ## Parentheses -/

/-- What keeps a tree from being run lies in one of the parts, and never in a leaf. -/
theorem inherited_obstacle (template : Bool) :
    Node.Inherited fun node => node.obstacle? template = none where
  empty := rfl
  leaf node leaf := by cases node <;> first | rfl | cases leaf
  sequence _ _ := by simp [Node.obstacle?]
  choice _ _ := by simp [Node.obstacle?]

/-- A bracket whose contents become one part of the tree, whatever else has been read. -/
inductive Bracket.IsGroup : Bracket → Prop where
  | plain : IsGroup .plain
  | capture (index : Nat) : IsGroup (.capture index)
  | scoped (on off : Switches) : IsGroup (.scoped on off)
  | lookAhead (negated : Bool) : IsGroup (.lookAhead negated)

/-- What a group makes of its contents. -/
def Bracket.enclosed : Bracket → Node → Node
  | .capture index, body => .capture index body
  | .scoped on off, body => .scoped on off body
  | .lookAhead negated, body => .lookAhead negated body
  | _, body => body

/-- What a group makes of contents without an obstacle has none. -/
theorem Bracket.enclosed_obstacle (bracket : Bracket) {body : Node}
    (runs : body.obstacle? false = none) : (bracket.enclosed body).obstacle? false = none := by
  cases bracket <;> exact runs

/-- A reader behind the bar that ends a branch. -/
def Reader.barred (reader : Reader) (tail : List Symbol) : Reader :=
  { reader.moved (reader.position + 1) tail with
    level := { reader.level with
      branches := Reading.branchOf reader.level :: reader.level.branches, items := [] } }

/-- A reader behind what opens a group. -/
def Reader.inside (reader : Reader) (position : Nat) (tail : List Symbol) (captures : Nat)
    (bracket : Bracket) (opening : Nat) : Reader :=
  { reader with
    position, rest := tail, opened := reader.opened + captures
    level := ⟨bracket, opening, false, [], []⟩
    outer := reader.level :: reader.outer }

/-- A text that is read as the branches of a group, in order. -/
structure Branches (text : List Char) (captures : Nat) (nodes : Nat → List Node) : Prop where
  clean : .dangling ∉ Symbol.ofChars text
  calm : Calm (Symbol.ofChars text)
  runs : ∀ opened, ∀ node ∈ nodes opened, node.obstacle? false = none
  reads : ∀ (reader : Reader) (tail : List Symbol), reader.rest = Symbol.ofChars text ++ tail →
    Calm tail → .dangling ∉ tail → reader.level.verbose = false → reader.level.bracket.IsGroup →
      reader.level.items = [] → ∃ position widths level,
        level.bracket = reader.level.bracket ∧
        level.branches.reverse ++ [Reading.branchOf level] =
          reader.level.branches.reverse ++ nodes reader.opened ∧
        reader.Reaches (reader.holding position tail (reader.opened + captures) widths level)

/-- A text that is read as branches, in order, at the start of a group that a parenthesis closes behind
the text. -/
structure Enclosed (text : List Char) (captures : Nat) (nodes : Nat → List Node) : Prop where
  clean : .dangling ∉ Symbol.ofChars text
  calm : Calm (Symbol.ofChars text)
  runs : ∀ opened, ∀ node ∈ nodes opened, node.obstacle? false = none
  reads : ∀ (reader : Reader) (tail : List Symbol),
    reader.rest = Symbol.ofChars text ++ .plain ')' :: tail → .dangling ∉ tail →
      reader.level.verbose = false → reader.level.bracket.IsGroup → reader.level.items = [] →
        ∃ position widths level, level.bracket = reader.level.bracket ∧
          level.branches.reverse ++ [Reading.branchOf level] =
            reader.level.branches.reverse ++ nodes reader.opened ∧
          reader.Reaches (reader.holding position (.plain ')' :: tail) (reader.opened + captures)
            widths level)

/-- Branches are read at the start of a group as they are read elsewhere. -/
theorem Branches.enclosed {text : List Char} {captures : Nat} {nodes : Nat → List Node}
    (branches : Branches text captures nodes) : Enclosed text captures nodes where
  clean := branches.clean
  calm := branches.calm
  runs := branches.runs
  reads reader tail ahead clean plain group none :=
    branches.reads reader _ ahead (by simp [Calm]) (by simpa using clean) plain group none

namespace Reading

variable {reader : Reader} {tail : List Symbol}

/-- A tail without a backslash at the end of the pattern ends, or goes on with a symbol that stands
for itself or for its escape. -/
theorem clean_cases (clean : .dangling ∉ tail) :
    tail = [] ∨ (∃ c rest, tail = .plain c :: rest) ∨ ∃ c rest, tail = .escaped c :: rest := by
  match tail, clean with
  | [], _ => exact .inl rfl
  | .plain c :: rest, _ => exact .inr (.inl ⟨c, rest, rfl⟩)
  | .escaped c :: rest, _ => exact .inr (.inr ⟨c, rest, rfl⟩)
  | .dangling :: rest, clean => exact absurd List.mem_cons_self clean

/-- A bar ends a branch of a group. -/
theorem step_bar (ahead : reader.rest = .plain '|' :: tail) (clean : .dangling ∉ tail)
    (group : reader.level.bracket.IsGroup) : step reader = .ok (true, reader.barred tail) := by
  obtain ⟨position, rest, switches, opened, widths, names, limit, awaited, level, outer⟩ := reader
  subst ahead
  obtain ⟨bracket, opening, verbose, branches, items⟩ := level
  rcases clean_cases clean with rfl | ⟨c, rest, rfl⟩ | ⟨c, rest, rfl⟩ <;> cases group <;> rfl

/-- A closing parenthesis puts a group at the end of the branch around it. -/
theorem step_close (reader : Reader) (position opened captures place opening : Nat)
    (before : List Symbol) (bracket : Bracket) (widths : List (Nat × Width)) {level : Level}
    (clean : .dangling ∉ tail) (group : level.bracket.IsGroup) :
    ∃ widths', step ((reader.inside place before captures bracket opening).holding position
        (.plain ')' :: tail) opened widths level) =
      .ok (true, reader.further (position + 1) tail opened widths'
        [(level.bracket.enclosed
          (.ofBranches (level.branches.reverse ++ [branchOf level])), .operand)]) := by
  obtain ⟨bracket, opening, verbose, branches, items⟩ := level
  rcases clean_cases clean with rfl | ⟨c, rest, rfl⟩ | ⟨c, rest, rfl⟩ <;> cases group <;>
    exact ⟨_, rfl⟩

end Reading

/-- What opens a group: the groups that it counts, and the bracket, which depends on the groups
before it. -/
structure Opens (text : List Char) (captures : Nat) (bracket : Nat → Bracket) : Prop where
  clean : .dangling ∉ Symbol.ofChars text
  calm : ∀ tail, Calm (Symbol.ofChars text ++ tail)
  nonempty : Symbol.ofChars text ≠ []
  groups : ∀ opened, (bracket opened).IsGroup
  reads : ∀ (reader : Reader) (tail : List Symbol), reader.rest = Symbol.ofChars text ++ tail →
    Calm tail → .dangling ∉ tail → reader.level.verbose = false →
      ∃ position opening, Reading.step reader =
        .ok (true, reader.inside position tail captures (bracket reader.opened) opening)

namespace Opens

/-- A plain group is opened by a question mark and a colon. -/
theorem plain : Opens ['(', '?', ':'] 0 fun _ => .plain := by
  refine ⟨by decide, by simp [Symbol.ofChars, Calm, backslash], by decide, fun _ => .plain, ?_⟩
  rintro ⟨position, rest, switches, opened, widths, names, limit, awaited, ⟨bracket, opening, verbose,
    branches, items⟩, outer⟩ tail rfl _ clean rfl
  rcases Reading.clean_cases clean with rfl | ⟨c, rest, rfl⟩ | ⟨c, rest, rfl⟩ <;> exact ⟨_, _, rfl⟩

/-- A look-ahead is opened by a question mark and an equals sign. -/
theorem lookAhead : Opens ['(', '?', '='] 0 fun _ => .lookAhead false := by
  refine ⟨by decide, by simp [Symbol.ofChars, Calm, backslash], by decide,
    fun _ => .lookAhead false, ?_⟩
  rintro ⟨position, rest, switches, opened, widths, names, limit, awaited, ⟨bracket, opening, verbose,
    branches, items⟩, outer⟩ tail rfl _ clean rfl
  rcases Reading.clean_cases clean with rfl | ⟨c, rest, rfl⟩ | ⟨c, rest, rfl⟩ <;> exact ⟨_, _, rfl⟩

/-- A group without regard to case is opened by its letter. -/
theorem ignoreCase :
    Opens ['(', '?', 'i', ':'] 0 fun _ => .scoped { ignoreCase := true } .none := by
  refine ⟨by decide, by simp [Symbol.ofChars, Calm, backslash], by decide,
    fun _ => .scoped _ _, ?_⟩
  rintro ⟨position, rest, switches, opened, widths, names, limit, awaited, ⟨bracket, opening, verbose,
    branches, items⟩, outer⟩ tail rfl _ clean rfl
  rcases Reading.clean_cases clean with rfl | ⟨c, rest, rfl⟩ | ⟨c, rest, rfl⟩ <;> exact ⟨_, _, rfl⟩

/-- A parenthesis alone opens a group that captures, and counts it. -/
theorem capture : Opens ['('] 1 fun opened => .capture (opened + 1) := by
  refine ⟨by decide, by simp [Symbol.ofChars, Calm, backslash], by decide,
    fun _ => .capture _, ?_⟩
  rintro ⟨position, rest, switches, opened, widths, names, limit, awaited, ⟨bracket, opening, verbose,
    branches, items⟩, outer⟩ tail rfl calm clean rfl
  refine ⟨position + 1, position, Reading.step_item rfl clean rfl (by simp) (by simp) ?_⟩
  exact (Reading.bind_ok (Reading.accept_false calm.1)).trans rfl

end Opens

/-- The node of the items of a branch, which are kept latest first. -/
def Node.ofItems (items : List (Node × Standing)) : Node := .ofSequence (items.reverse.map (·.1))

/-- A branch has no obstacle when none of its items has one. -/
theorem obstacle_ofItems {items : List (Node × Standing)}
    (each : ∀ item ∈ items, item.1.obstacle? false = none) :
    (Node.ofItems items).obstacle? false = none :=
  (inherited_obstacle false).ofSequence_iff.mpr (by simpa using fun node standing => each (node, standing))

/-- Branches in parentheses spell the group. -/
theorem Enclosed.group {text opening : List Char} {captures counted : Nat} {nodes : Nat → List Node}
    {bracket : Nat → Bracket} (branches : Enclosed text captures nodes)
    (opens : Opens opening counted bracket) :
    Operand (opening ++ text ++ [')']) (counted + captures)
      fun opened => (bracket opened).enclosed (.ofBranches (nodes (opened + counted))) where
  clean := by
    rw [List.append_assoc, Symbol.ofChars_append opens.clean, Symbol.ofChars_append branches.clean]
    simpa using ⟨opens.clean, branches.clean, by decide⟩
  calm := by
    rw [List.append_assoc, Symbol.ofChars_append opens.clean]
    exact opens.calm _
  runs opened :=
    (bracket opened).enclosed_obstacle ((inherited_obstacle false).ofBranches_iff.mpr (branches.runs _))
  reads reader tail ahead clean plain := by
    rw [List.append_assoc, Symbol.ofChars_append opens.clean, Symbol.ofChars_append branches.clean,
      List.append_assoc, List.append_assoc] at ahead
    have closing : Symbol.ofChars [')'] = [.plain ')'] := by decide
    rw [closing, List.singleton_append] at ahead
    obtain ⟨position, place, opened⟩ := opens.reads reader _ ahead
      (branches.calm.append (by simp [Calm])) (by simpa using ⟨branches.clean, clean⟩) plain
    obtain ⟨position', widths', level, same, shape, reached⟩ := branches.reads
      (reader.inside position _ counted (bracket reader.opened) place) _ rfl clean rfl (opens.groups _)
      rfl
    have isGroup : level.bracket.IsGroup := same ▸ opens.groups reader.opened
    obtain ⟨widths, closed⟩ := Reading.step_close reader position' (reader.opened + counted + captures)
      counted position place (Symbol.ofChars text ++ .plain ')' :: tail) (bracket reader.opened) widths'
      clean isGroup
    refine ⟨position' + 1, widths, .step opened ?_ (reached.trans (.single ?_ ?_))⟩
    · have positive := List.length_pos_of_ne_nil opens.nonempty
      simp only [ahead, Reader.inside, List.length_append, List.length_cons]
      omega
    · have contents : level.branches.reverse ++ [Reading.branchOf level] =
          nodes (reader.opened + counted) := shape
      have kept : level.bracket = bracket reader.opened := same
      rw [contents, kept] at closed
      rw [← Nat.add_assoc]
      exact closed
    · simp [Reader.further, Reader.holding]

namespace Branches

variable {text more : List Char} {captures further : Nat}
  {items : Nat → List (Node × Standing)} {nodes : Nat → List Node}

/-- The only branch of a group. -/
theorem one (spelled : Spells text captures items) :
    Branches text captures fun opened => [.ofItems (items opened)] where
  clean := spelled.clean
  calm := spelled.calm
  runs opened := by simpa using obstacle_ofItems (spelled.runs opened)
  reads reader tail ahead calm clean plain group none := by
    obtain ⟨position, widths, reached⟩ := spelled.reads reader tail ahead calm clean plain
    refine ⟨position, widths, { reader.level with items := items reader.opened ++ reader.level.items },
      rfl, ?_, reached⟩
    simp [Reading.branchOf, Node.ofItems, none]

/-- A branch before others. -/
theorem cons (spelled : Spells text captures items) (others : Branches more further nodes) :
    Branches (text ++ '|' :: more) (captures + further)
      fun opened => .ofItems (items opened) :: nodes (opened + captures) where
  clean := by
    rw [Symbol.ofChars_append spelled.clean, Symbol.ofChars_plain (by decide)]
    simpa using ⟨spelled.clean, others.clean⟩
  calm := by
    rw [Symbol.ofChars_append spelled.clean, Symbol.ofChars_plain (by decide)]
    exact spelled.calm.append (by simp [Calm])
  runs opened node inside := by
    rcases List.mem_cons.mp inside with rfl | inside
    · exact obstacle_ofItems (spelled.runs opened)
    · exact others.runs _ node inside
  reads reader tail ahead calm clean plain group none := by
    rw [Symbol.ofChars_append spelled.clean, Symbol.ofChars_plain (by decide), List.append_assoc,
      List.cons_append] at ahead
    have behind : .dangling ∉ Symbol.ofChars more ++ tail := by simp [others.clean, clean]
    obtain ⟨position, widths, reached⟩ := spelled.reads reader _ ahead (by simp [Calm])
      (by simpa using behind) plain
    have bar : (reader.further position (.plain '|' :: (Symbol.ofChars more ++ tail))
        (reader.opened + captures) widths (items reader.opened)).rest =
          .plain '|' :: (Symbol.ofChars more ++ tail) := rfl
    have barred := Reading.step_bar bar behind group
    obtain ⟨position', widths', level, same, branches, reached'⟩ := others.reads
      ((reader.further position (.plain '|' :: (Symbol.ofChars more ++ tail))
        (reader.opened + captures) widths (items reader.opened)).barred
          (Symbol.ofChars more ++ tail)) tail rfl calm clean plain group rfl
    refine ⟨position', widths', level, same, ?_, ?_⟩
    · simpa [Reading.branchOf, Node.ofItems, none, Reader.further, Reader.holding, Reader.barred,
        Reader.moved] using branches
    · refine reached.trans (.step barred (by simp [Reader.further, Reader.holding, Reader.barred]) ?_)
      simpa [Reader.further, Reader.holding, Reader.barred, Reader.moved, Nat.add_assoc]
        using reached'

/-- Branches between what opens a group and a parenthesis are one operand. -/
theorem group {opening : List Char} {counted : Nat} {bracket : Nat → Bracket}
    (branches : Branches text captures nodes) (opens : Opens opening counted bracket) :
    Operand (opening ++ text ++ [')']) (counted + captures)
      fun opened => (bracket opened).enclosed (.ofBranches (nodes (opened + counted))) :=
  branches.enclosed.group opens

end Branches

/-! ## The whole pattern -/

/-- Where the next symbol is sound, passing over no symbol changes nothing. -/
theorem Reading.advance_zero {reader : Reader} (clean : .dangling ∉ reader.rest) :
    Reading.advance 0 reader = .ok ((), reader) := by
  obtain ⟨position, rest, switches, opened, widths, names, limit, awaited, level, outer⟩ := reader
  rcases Reading.clean_cases clean with same | ⟨c, tail, same⟩ | ⟨c, tail, same⟩ <;>
    subst same <;> rfl

/-- A tree that nothing keeps from being run is the tree of a pattern. -/
theorem read_of_tree {source : String} {switches : Switches} {root : Node} {reader : Reader}
    (tree : readTree source.toList switches = .ok (root, reader))
    (runs : root.obstacle? reader.switches.template = none) :
    read source switches = .ok
      { source, switches := reader.switches, root, groups := reader.opened
        names := reader.names } := by
  simp [read, tree, runs, bind, Except.bind, pure, Except.pure]

/-- A reader that has come to the end at the outermost level, with nothing left open, has read a
pattern. -/
theorem read_of_reaches {source : String} {last : Reader}
    (clean : .dangling ∉ Symbol.ofChars source.toList)
    (reached : (Reader.start (Symbol.ofChars source.toList) .none).Reaches last)
    (ended : last.rest = []) (outermost : last.outer = []) (strict : last.switches = .none)
    (settled : last.awaited = []) (runs : (Reading.closed last.level).obstacle? false = none) :
    read source .none = .ok
      { source, switches := .none, root := Reading.closed last.level, groups := last.opened
        names := last.names } := by
  have passed : Reading.advance 0 (Reader.start (Symbol.ofChars source.toList) .none) =
      .ok ((), Reader.start (Symbol.ofChars source.toList) .none) := Reading.advance_zero clean
  have stepped := reached.steps ended ((Symbol.ofChars source.toList).length + 1) (Nat.lt_succ_self _)
  have finished : Reading.finish last = .ok (Reading.closed last.level, last) := by
    obtain ⟨position, rest, switches, opened, widths, names, limit, awaited, level, outer⟩ := last
    cases outermost
    cases strict
    cases settled
    rfl
  have tree : readTree source.toList .none = .ok (Reading.closed last.level, last) :=
    (Reading.bind_ok passed).trans ((Reading.bind_ok stepped).trans finished)
  rw [read_of_tree tree (by rw [strict]; exact runs), strict]

/-- A text that spells items is a pattern: its tree is the sequence of the items. -/
theorem Spells.read_eq {source : String} {captures : Nat} {items : Nat → List (Node × Standing)}
    (spelled : Spells source.toList captures items) :
    read source .none = .ok
      { source, switches := .none, root := .ofItems (items 0), groups := captures, names := [] } := by
  obtain ⟨position, widths, reached⟩ := spelled.reads
    (Reader.start (Symbol.ofChars source.toList) .none) [] (List.append_nil _).symm Calm.nil (by simp) rfl
  have closed : Reading.closed { (Reader.start (Symbol.ofChars source.toList) .none).level with
      items := items 0 ++ [] } = .ofItems (items 0) := by
    simp [Reading.closed, Reading.branchOf, Node.ofItems, Node.ofBranches, Node.ofChoices, Reader.start]
  rw [read_of_reaches spelled.clean reached rfl rfl rfl rfl
    (closed ▸ obstacle_ofItems (spelled.runs 0)), ← closed]
  congr 2
  exact Nat.zero_add captures

end LineGrammar.Pattern
