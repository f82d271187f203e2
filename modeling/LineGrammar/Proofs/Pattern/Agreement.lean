import LineGrammar.Proofs.Characters
import LineGrammar.Proofs.Pattern.Progress

/-!
# Reading one text inside of two patterns

A text can be read up to the end of a pattern, with nothing or with some items before it, and it can
stand among the branches of another pattern, with an edge behind it or at the very end. Two
readers that do so side by side are `Alike` as long as they have come equally far: the second one has
the levels of the first on top of those of its context, without the items that lead the text there, and
the rest of the text ahead, and then what stands behind the text. Neither of them meets a group that
captures. A part of the reader `Agree`s with itself when it keeps two readers alike.

The agreement is one-sided. It starts from what the first reader does, which has nothing behind the
text; so wherever a part asks for one more symbol and finds none, the first reader has to refuse, or
the second would go on with the edge. It also ends where the text is spoiled, since the number of a
group depends on the context, and where switches are turned on for the whole, which is allowed at the
front of a pattern only (`AgreeUnless`).
-/

namespace LineGrammar.Pattern

open LineGrammar.Text

variable {α β : Type}

namespace Switches

/-- With a switch inserted, some switch is on. -/
theorem insert_ne_none (on : Switches) (switch : Switch) : on.insert switch ≠ .none := by
  cases switch <;> simp [insert, none]

/-- Where no switch of a union is on, none is on in either part. -/
theorem union_eq_none {on more : Switches} (nothing : on.union more = .none) :
    on = .none ∧ more = .none := by
  obtain ⟨a, i, m, s, x, u, t⟩ := on
  obtain ⟨a', i', m', s', x', u', t'⟩ := more
  simp_all [union, none]

end Switches

/-! ## The two readers -/

/-- The brackets of a level that both readers have opened, with the limits for references in
look-behinds around the level and within it. -/
inductive Bracket.Matches (opened : Nat) :
    Option Nat → Option Nat → Option Nat → Option Nat → Bracket → Bracket → Prop
  | plain {limit limit'} : Matches opened limit limit' limit limit' .plain .plain
  | scoped {limit limit'} (on off : Switches) :
    Matches opened limit limit' limit limit' (.scoped on off) (.scoped on off)
  | atomic {limit limit'} : Matches opened limit limit' limit limit' .atomic .atomic
  | lookAhead {limit limit'} (negated : Bool) :
    Matches opened limit limit' limit limit' (.lookAhead negated) (.lookAhead negated)
  | lookBehind {limit limit' : Option Nat} (negated : Bool) :
    Matches opened limit limit' (limit.or (some 1)) (limit'.or (some (opened + 1)))
      (.lookBehind negated limit.isNone) (.lookBehind negated limit'.isNone)

/-- The open levels of a reader that meets a text behind some leading items, and those of a reader that
meets the text within a level of a context. Up to the first bar, the text goes on with the branch that
each of them has begun; then both have given this branch its end and begun branches of the text. -/
inductive Nested (leading : List (Node × Standing)) (context : Reader) :
    Option Nat → Option Nat → Level → List Level → Level → List Level → Prop
  | within {opening opening' items} :
    Nested leading context none context.lookBehindLimit
      ⟨.whole, opening, context.level.verbose, [], items ++ leading⟩ []
      ⟨context.level.bracket, opening', context.level.verbose, context.level.branches,
        items ++ context.level.items⟩
      context.outer
  | across {opening opening' branches items} (first : List Node) :
    Nested leading context none context.lookBehindLimit
      ⟨.whole, opening, context.level.verbose,
        branches ++ [.ofSequence (leading.reverse.map (·.1) ++ first)], items⟩ []
      ⟨context.level.bracket, opening', context.level.verbose, branches ++
        .ofSequence (context.level.items.reverse.map (·.1) ++ first) :: context.level.branches, items⟩
      context.outer
  | inner {limit limit' now now' bracket bracket' level outer level' outer'}
      {opening opening' verbose branches items}
      (around : Nested leading context limit limit' level outer level' outer')
      (same : Bracket.Matches context.opened limit limit' now now' bracket bracket') :
    Nested leading context now now' ⟨bracket, opening, verbose, branches, items⟩ (level :: outer)
      ⟨bracket', opening', verbose, branches, items⟩ (level' :: outer')

/-- A reader does not stand directly behind what leads its text, so that its last item, if it has one,
is one of the text. -/
def Level.Apart (leading : List (Node × Standing)) (level : Level) (outer : List Level) : Prop :=
  leading = [] ∨ outer ≠ [] ∨ level.branches ≠ [] ∨ leading.length < level.items.length

/-- The characters that may stand right behind a text: none of them goes on with what a text can end
with. -/
def edges : List Char := ['(', ')', '|', doubleQuote, apostrophe]

/-- What stands behind a text, if anything does, begins with a parenthesis, a bar or a quote. -/
def Bounded (tail : List Symbol) : Prop :=
  ∀ symbol ∈ tail.head?, ∃ c ∈ edges, symbol = .plain c

/-- Nothing may stand behind a text. -/
theorem Bounded.nil : Bounded [] := by simp [Bounded]

/-- An edge may stand right behind a text. -/
theorem Bounded.cons {c : Char} (edge : c ∈ edges) (tail : List Symbol) :
    Bounded (.plain c :: tail) := by
  simpa [Bounded] using edge

/-- A closing parenthesis may stand right behind a text. -/
theorem Bounded.closing (tail : List Symbol) : Bounded (.plain ')' :: tail) := .cons (by decide) tail

/-- An opening parenthesis may stand right behind a text. -/
theorem Bounded.opening (tail : List Symbol) : Bounded (.plain '(' :: tail) := .cons (by decide) tail

/-- No backslash without a character stands right behind a text. -/
theorem Bounded.not_dangling {tail : List Symbol} (behind : Bounded tail) :
    tail.head? ≠ some .dangling := by
  intro ahead
  obtain ⟨c, -, same⟩ := behind _ ahead
  cases same

/-- A run of which the edges are no part does not go on behind the text. -/
theorem Bounded.stops {tail : List Symbol} {wanted : Symbol → Bool} (behind : Bounded tail)
    (ends : ∀ c ∈ edges, wanted (.plain c) = false) : ∀ stop ∈ tail.head?, wanted stop = false := by
  intro stop ahead
  obtain ⟨c, edge, rfl⟩ := behind stop ahead
  exact ends c edge

/-- Nothing in a level captures. -/
structure Level.Captureless (level : Level) : Prop where
  branches : ∀ node ∈ level.branches, node.captures = 0
  items : ∀ item ∈ level.items, item.1.captures = 0

/-- Nothing captures in a level that has just been opened. -/
theorem Level.Captureless.fresh {bracket : Bracket} {opening : Nat} {verbose : Bool} :
    Level.Captureless ⟨bracket, opening, verbose, [], []⟩ := ⟨by simp, by simp⟩

/-- Still nothing captures when an item without a capture is put into a level. -/
theorem Level.Captureless.push {level : Level} (captureless : level.Captureless) {node : Node}
    (captures : node.captures = 0) (standing : Standing) :
    Level.Captureless { level with items := (node, standing) :: level.items } where
  branches := captureless.branches
  items := by simpa [captures] using fun node standing => captureless.items (node, standing)

/-- A reader of a text under some switches behind some leading items, and one that has come equally far in
the text within a level of a context. The text has opened no group and turned no switch on for the
whole. -/
inductive Alike (base : Switches) (leading : List (Node × Standing)) (context : Reader)
    (tail : List Symbol) : Reader → Reader → Prop
  | intro {rest limit limit' level outer level' outer'} (position position' : Nat)
      (behind : Bounded tail)
      (levels : Nested leading context limit limit' level outer level' outer')
      (apart : level.Apart leading outer)
      (captureless : leading = [] → ∀ own ∈ level :: outer, own.Captureless) :
    Alike base leading context tail ⟨position, rest, base, 0, [], [], limit, [], level, outer⟩
      { context with
        position := position', rest := rest ++ tail, lookBehindLimit := limit'
        level := level', outer := outer' }

variable {base : Switches} {leading : List (Node × Standing)} {context : Reader} {tail : List Symbol}

/-- What stands behind the text begins with an edge, if there is anything. -/
theorem Alike.behind {first inside : Reader} (alike : Alike base leading context tail first inside) :
    Bounded tail := by
  cases alike
  assumption

/-- The second of two alike readers has ahead what the first one has, and then what stands behind the
text. -/
theorem Alike.rest {first inside : Reader} (alike : Alike base leading context tail first inside) :
    inside.rest = first.rest ++ tail := by
  cases alike
  rfl

/-- A character that is no edge is ahead of both readers or of none. -/
theorem Alike.ahead_iff {first inside : Reader} (alike : Alike base leading context tail first inside)
    {c : Char} (inner : c ∉ edges) :
    inside.rest.head? = some (.plain c) ↔ first.rest.head? = some (.plain c) := by
  rw [alike.rest]
  cases first.rest with
  | nil =>
    have apart : tail.head? ≠ some (.plain c) := by
      intro ahead
      obtain ⟨d, edge, same⟩ := alike.behind _ ahead
      exact inner (Symbol.plain.inj same ▸ edge)
    simpa using apart
  | cons symbol rest => simp

/-- Nothing has spoiled the text so far. -/
theorem Alike.sound {first inside : Reader} (alike : Alike base leading context tail first inside) :
    ¬ first.Spoiled := by
  cases alike
  simp [Reader.Spoiled]

/-- What parts of a reader look up in the state is the same in both readers, and the second one has at
least as much ahead. -/
structure Reader.Resembles (first inside : Reader) : Prop where
  room : first.rest.length ≤ inside.rest.length
  verbose : first.level.verbose = inside.level.verbose

/-- Two alike readers resemble each other. -/
theorem Alike.resembles {first inside : Reader} (alike : Alike base leading context tail first inside) :
    first.Resembles inside := by
  obtain ⟨position, position', behind, levels⟩ := alike
  refine ⟨by simp, ?_⟩
  cases levels <;> rfl

/-- The open levels of two alike readers are nested. -/
theorem Alike.levels {first inside : Reader} (alike : Alike base leading context tail first inside) :
    Nested leading context first.lookBehindLimit inside.lookBehindLimit first.level first.outer inside.level
      inside.outer := by
  obtain ⟨position, position', behind, levels⟩ := alike
  exact levels

/-- The first of two alike readers does not stand directly behind what leads its text. -/
theorem Alike.apart {first inside : Reader} (alike : Alike base leading context tail first inside) :
    first.level.Apart leading first.outer := by
  cases alike
  assumption

/-- Where nothing leads the text, nothing in the open levels of the first reader captures. -/
theorem Alike.captureless {first inside : Reader} (alike : Alike base leading context tail first inside) :
    leading = [] → ∀ own ∈ first.level :: first.outer, own.Captureless := by
  cases alike
  assumption

/-- A reader is not at the front of a pattern. -/
def Reader.Begun (reader : Reader) : Prop :=
  reader.level.bracket = .whole → reader.level.branches ≠ [] ∨ reader.level.items ≠ []

/-- Behind leading items, a reader is not at the front. -/
theorem Alike.begun {first inside : Reader} (alike : Alike base leading context tail first inside)
    (led : leading ≠ []) : first.Begun := by
  intro whole
  obtain ⟨position, position', behind, levels, -⟩ := alike
  cases levels with
  | within => exact .inr fun empty => led (List.append_eq_nil_iff.mp empty).2
  | across first => exact .inl (by simp)
  | inner around same => cases same <;> cases whole

/-- Alike readers stay so with new levels that are nested. -/
theorem Alike.withLevels {first inside : Reader} {level level' : Level}
    (alike : Alike base leading context tail first inside)
    (levels : Nested leading context first.lookBehindLimit inside.lookBehindLimit level first.outer level'
      inside.outer) (apart : level.Apart leading first.outer)
    (captureless : leading = [] → level.Captureless) :
    Alike base leading context tail { first with level } { inside with level := level' } := by
  obtain ⟨position, position', behind, -, -, others⟩ := alike
  exact .intro _ _ behind levels apart fun unled => List.forall_mem_cons.mpr
    ⟨captureless unled, fun own around => others unled own (List.mem_cons_of_mem _ around)⟩

/-- Both readers put an item at the end of their branch, and then they are apart from what leads the
text. -/
theorem Nested.pushed {limit limit' : Option Nat} {level level' : Level} {outer outer' : List Level}
    (levels : Nested leading context limit limit' level outer level' outer') (item : Node × Standing) :
    Nested leading context limit limit' { level with items := item :: level.items } outer
        { level' with items := item :: level'.items } outer' ∧
      Level.Apart leading { level with items := item :: level.items } outer := by
  cases levels with
  | @within opening opening' own =>
    refine ⟨@Nested.within _ _ _ _ (item :: own), .inr (.inr (.inr ?_))⟩
    simp only [List.length_cons, List.length_append]
    omega
  | across first => exact ⟨.across first, .inr (.inr (.inl (by simp)))⟩
  | inner around same => exact ⟨.inner around same, .inr (.inl (by simp))⟩

/-- The last item of the text is the last item in both readers, and they can have another one in its
place. -/
theorem Nested.renewed {limit limit' : Option Nat} {level level' : Level} {outer outer' : List Level}
    {item : Node × Standing} {items : List (Node × Standing)}
    (levels : Nested leading context limit limit' level outer level' outer')
    (apart : level.Apart leading outer) (last : level.items = item :: items)
    (other : Node × Standing) :
    ∃ items', level'.items = item :: items' ∧
      Nested leading context limit limit' { level with items := other :: items } outer
        { level' with items := other :: items' } outer' := by
  cases levels with
  | @within opening opening' own =>
    cases own with
    | nil =>
      rcases apart with rfl | nested | barred | longer
      · cases last
      · exact absurd rfl nested
      · exact absurd rfl barred
      · exact absurd longer (Nat.lt_irrefl _)
    | cons mine own =>
      obtain ⟨rfl, rfl⟩ := List.cons.inj last
      exact ⟨_, rfl, @Nested.within _ _ _ _ (other :: own)⟩
  | across first =>
    subst last
    exact ⟨_, rfl, .across first⟩
  | inner around same => exact ⟨items, last, .inner around same⟩

/-- Both readers pass over symbols of the text. -/
theorem Alike.advance {count : Nat} {first inside last : Reader} {u : Unit}
    (alike : Alike base leading context tail first inside) (within : count ≤ first.rest.length)
    (taken : Reading.advance count first = .ok (u, last)) :
    ∃ inside', Reading.advance count inside = .ok (u, inside') ∧
      Alike base leading context tail last inside' := by
  obtain ⟨head, rfl⟩ := Reading.advance_eq_ok.mp taken
  obtain @⟨rest, _, _, _, _, _, _, position, position', behind, levels, apart, captureless⟩ := alike
  have dropped : (rest ++ tail).drop count = rest.drop count ++ tail :=
    List.drop_append_of_le_length within
  refine ⟨_, Reading.advance_eq_ok.mpr ⟨?_, rfl⟩, ?_⟩
  · cases left : rest.drop count with
    | nil =>
      intro ahead
      simp only [dropped, left, List.nil_append] at ahead
      exact behind.not_dangling ahead
    | cons => simp_all
  · simp only [dropped]
    exact .intro _ _ behind levels apart captureless

/-- A run of a text does not go on in what follows the text, when it ends before or when the edges do
not belong to it. -/
theorem Alike.takeWhile {wanted : Symbol → Bool} {first inside last : Reader} {run : List Symbol}
    (alike : Alike base leading context tail first inside)
    (taken : Reading.takeWhile wanted first = .ok (run, last))
    (stops : (∀ c ∈ edges, wanted (.plain c) = false) ∨ last.rest ≠ []) :
    ∃ inside', Reading.takeWhile wanted inside = .ok (run, inside') ∧
      Alike base leading context tail last inside' := by
  obtain ⟨same, passed⟩ := Reading.takeWhile_eq_ok.mp taken
  have within : run.length ≤ first.rest.length := by
    rw [same]
    exact (List.takeWhile_sublist _).length_le
  obtain ⟨inside', passed', alike'⟩ := alike.advance within passed
  refine ⟨inside', Reading.takeWhile_eq_ok.mpr ⟨?_, passed'⟩, alike'⟩
  rcases stops with ends | more
  · have stop : ∀ stop ∈ tail.head?, (wanted stop && stop != .dangling) = false :=
      alike.behind.stops fun c edge => by simp [ends c edge]
    have whole := Reading.takeWhile_append_of_stop first.rest stop (first.rest ++ tail).length
    rw [List.take_length, List.take_of_length_le (by simp)] at whole
    rw [alike.rest, whole, same]
  · rw [alike.rest, List.takeWhile_append, ← same]
    obtain ⟨-, rfl⟩ := Reading.advance_eq_ok.mp passed
    rw [if_neg]
    intro whole
    exact more (by simp [Reader.moved, whole])

namespace Reading

/-- Every result of a part has a property. -/
def Yields (part : Reading α) (property : α → Prop) : Prop :=
  ∀ first a last, part first = .ok (a, last) → property a

/-- A part that always refuses has no results. -/
theorem Yields.refused {part : Reading α} {property : α → Prop} (refuses : Refuses part) :
    Yields part property := fun _ _ _ taken => absurd taken (refuses _ _)

/-- A given value is the only result. -/
theorem Yields.pure {a : α} {property : α → Prop} (has : property a) :
    Yields (pure a : Reading α) property := by
  intro first b last taken
  cases taken
  exact has

/-- The results of two parts after one another are those of the second. -/
theorem Yields.bind {one : Reading α} {next : α → Reading β} {property : β → Prop}
    (after : ∀ a, Yields (next a) property) : Yields (one >>= next) property := by
  intro first b last taken
  obtain ⟨a, middle, _, rest⟩ := bind_eq_ok.mp taken
  exact after a _ _ _ rest

/-- Two parts of readers agree when the second does inside of a context what the first does on a text
at the end of a pattern, unless what the first one meets spoils the text. -/
structure Agree (base : Switches) (leading : List (Node × Standing)) (context : Reader)
    (tail : List Symbol) (one other : Reading α) : Prop where
  steady : Steady one
  follows : ∀ {first inside last a}, Alike base leading context tail first inside →
    one first = .ok (a, last) → last.Spoiled ∨
      ∃ inside', other inside = .ok (a, inside') ∧ Alike base leading context tail last inside'

/-- A part that agrees with itself goes on, whatever the text and its context. -/
theorem Steady.of_agree {part : Reading α}
    (agree : Agree .none [] (Reader.start [] .none) [] part part) : Steady part := agree.steady

namespace Agree

/-- A given value agrees with itself. -/
theorem pure (a : α) : Agree base leading context tail (pure a) (pure a) where
  steady := Steady.pure a
  follows alike taken := by
    cases taken
    exact .inr ⟨_, rfl, alike⟩

/-- A part that always refuses agrees with every other. -/
theorem refused {one other : Reading α} (refuses : Refuses one) :
    Agree base leading context tail one other where
  steady := Steady.refused refuses
  follows _ taken := absurd taken (refuses _ _)

/-- Two sequences agree when their parts do; the second parts, for what the first one can give. -/
theorem bind_of {one other : Reading α} {next after : α → Reading β} {property : α → Prop}
    (here : Agree base leading context tail one other) (yields : Yields one property)
    (behind : ∀ a, property a → Agree base leading context tail (next a) (after a)) :
    Agree base leading context tail (one >>= next) (other >>= after) where
  steady := by
    intro first b last taken
    obtain ⟨a, middle, step, rest⟩ := bind_eq_ok.mp taken
    exact (here.steady _ _ _ step).trans ((behind a (yields _ _ _ step)).steady _ _ _ rest)
  follows alike taken := by
    obtain ⟨a, middle, step, rest⟩ := bind_eq_ok.mp taken
    have agree := behind a (yields _ _ _ step)
    rcases here.follows alike step with spoiled | ⟨inside, step', alike⟩
    · exact .inl ((agree.steady _ _ _ rest).spoiled spoiled)
    · rcases agree.follows alike rest with spoiled | ⟨inside', rest', alike⟩
      · exact .inl spoiled
      · exact .inr ⟨inside', bind_eq_ok.mpr ⟨a, inside, step', rest'⟩, alike⟩

/-- Parts that agree go on in agreement. -/
theorem bind {one other : Reading α} {next after : α → Reading β}
    (here : Agree base leading context tail one other)
    (behind : ∀ a, Agree base leading context tail (next a) (after a)) :
    Agree base leading context tail (one >>= next) (other >>= after) :=
  here.bind_of (show Yields one fun _ => True from fun _ _ _ _ => trivial) fun a _ => behind a

/-- A part that spoils the text agrees with every part. -/
theorem spoils {one other : Reading α} (steady : Steady one)
    (spoiled : ∀ {first last inside a}, Alike base leading context tail first inside →
      one first = .ok (a, last) → last.Spoiled) : Agree base leading context tail one other :=
  ⟨steady, fun alike taken => .inl (spoiled alike taken)⟩

end Agree

/-- A symbol of the text is taken by both readers, so the two differ only where the text ends, which
the first one has to refuse. -/
theorem Alike.taken {next : Option Symbol → Reading β} {first inside last : Reader} {b : β}
    (alike : Alike base leading context tail first inside) (ended : Refuses (next none))
    (taken : (take? >>= next) first = .ok (b, last)) :
    ∃ symbol middle inside', first.rest = symbol :: middle.rest ∧
      next (some symbol) middle = .ok (b, last) ∧ take? inside = .ok (some symbol, inside') ∧
        Alike base leading context tail middle inside' := by
  obtain ⟨_, middle, here, rest⟩ := bind_eq_ok.mp taken
  obtain ⟨rfl, passed⟩ := take_eq_ok.mp here
  cases ahead : first.rest with
  | nil =>
    rw [ahead] at rest
    exact absurd rest (ended _ _)
  | cons symbol others =>
    rw [ahead] at rest
    obtain ⟨inside', passed', alike'⟩ := alike.advance (by simp [ahead]) passed
    refine ⟨symbol, middle, inside', ?_, rest, take_eq_ok.mpr ⟨?_, passed'⟩, alike'⟩
    · obtain ⟨-, rfl⟩ := advance_eq_ok.mp passed
      simp [ahead]
    · simp [alike.rest, ahead]

/-- A part that takes a symbol only goes on when what follows does and the end of the text is refused. -/
theorem Steady.take_bind {next : Option Symbol → Reading β} (ended : Refuses (next none))
    (more : ∀ symbol, Steady (next (some symbol))) : Steady (take? >>= next) :=
  Steady.take.bind fun
    | none => .refused ended
    | some symbol => more symbol

/-- Taking a symbol agrees when the end of the text is refused, since only there the two readers take
different ones. -/
theorem Agree.take {next after : Option Symbol → Reading β} (ended : Refuses (next none))
    (more : ∀ symbol, Agree base leading context tail (next (some symbol)) (after (some symbol))) :
    Agree base leading context tail (take? >>= next) (take? >>= after) where
  steady := .take_bind ended fun symbol => (more symbol).steady
  follows := by
    intro first inside last b alike taken
    obtain ⟨symbol, middle, middle', -, rest, here', alike'⟩ := Alike.taken alike ended taken
    rcases (more symbol).follows alike' rest with spoiled | ⟨inside', rest', alike''⟩
    · exact .inl spoiled
    · exact .inr ⟨inside', bind_eq_ok.mpr ⟨_, _, here', rest'⟩, alike''⟩

/-- Accepting a character only goes on. -/
theorem Steady.accept (c : Char) : Steady (accept c) := by
  intro first found last taken
  rw [accept_eq_ok] at taken
  split at taken
  · exact Steady.advance_one _ _ _ taken.2
  · exact taken.2 ▸ .refl first

/-- A character that is no edge is accepted by both readers or by none. -/
theorem Agree.accept {c : Char} (inner : c ∉ edges) :
    Agree base leading context tail (accept c) (accept c) where
  steady := .accept c
  follows := by
    intro first inside last found alike taken
    have same := alike.ahead_iff inner
    simp only [accept_eq_ok, same] at taken ⊢
    by_cases ahead : first.rest.head? = some (.plain c)
    · simp only [ahead, if_true] at taken ⊢
      have within : 1 ≤ first.rest.length := by
        cases rest : first.rest <;> simp_all
      obtain ⟨inside', passed, alike⟩ := alike.advance within taken.2
      exact .inr ⟨inside', ⟨taken.1, passed⟩, alike⟩
    · simp only [ahead, if_false] at taken ⊢
      exact .inr ⟨inside, ⟨taken.1, rfl⟩, taken.2 ▸ alike⟩

/-- A run up to a length agrees when no edge goes on with it. -/
theorem Agree.takeUpTo (limit : Nat) {wanted : Symbol → Bool}
    (ends : ∀ c ∈ edges, wanted (.plain c) = false) :
    Agree base leading context tail (takeUpTo limit wanted) (takeUpTo limit wanted) where
  steady := .takeUpTo limit wanted
  follows := by
    intro first inside last run alike taken
    obtain ⟨same, passed⟩ := takeUpTo_eq_ok.mp taken
    have within : run.length ≤ first.rest.length := by
      rw [same]
      exact Nat.le_trans (List.takeWhile_sublist _).length_le (List.length_take_le' _ _)
    obtain ⟨inside', passed', alike'⟩ := alike.advance within passed
    have stop : ∀ stop ∈ tail.head?, (wanted stop && stop != .dangling) = false :=
      alike.behind.stops fun c edge => by simp [ends c edge]
    refine .inr ⟨inside', takeUpTo_eq_ok.mpr ⟨?_, passed'⟩, alike'⟩
    rw [alike.rest, takeWhile_append_of_stop _ stop, same]

/-- A run agrees when no edge goes on with it. -/
theorem Agree.takeWhile {wanted : Symbol → Bool}
    (ends : ∀ c ∈ edges, wanted (.plain c) = false) :
    Agree base leading context tail (takeWhile wanted) (takeWhile wanted) where
  steady := .takeWhile wanted
  follows alike taken := .inr (alike.takeWhile taken (.inl ends))

/-- A run that has to be followed by a symbol, which is passed over. -/
theorem Agree.takeThrough {wanted : Symbol → Bool}
    {refusal refusal' next after : List Symbol → Reading β} (refuses : ∀ run, Refuses (refusal run))
    (more : ∀ run, Agree base leading context tail (next run) (after run)) :
    Agree base leading context tail
      (do
        let run ← Reading.takeWhile wanted
        let found ← next?
        if found.isNone = true then refusal run else advance 1 >>= fun _ => next run)
      (do
        let run ← Reading.takeWhile wanted
        let found ← next?
        if found.isNone = true then refusal' run else advance 1 >>= fun _ => after run) where
  steady := by
    refine (Steady.takeWhile wanted).bind fun run => Steady.next.bind fun found => ?_
    split
    · exact .refused (refuses run)
    · exact Steady.advance_one.bind fun _ => (more run).steady
  follows := by
    intro first inside last b alike taken
    obtain ⟨run, middle, runs, rest⟩ := bind_eq_ok.mp taken
    obtain ⟨_, _, here, rest⟩ := bind_eq_ok.mp rest
    cases here
    cases ahead : middle.rest with
    | nil =>
      rw [ahead] at rest
      exact absurd rest (refuses run _ _)
    | cons symbol others =>
      rw [ahead] at rest
      obtain ⟨_, passed, passes, rest⟩ := bind_eq_ok.mp rest
      obtain ⟨inside', runs', alike'⟩ := alike.takeWhile runs (.inr (by simp [ahead]))
      obtain ⟨inside'', passes', alike''⟩ := alike'.advance (by simp [ahead]) passes
      rcases (more run).follows alike'' rest with spoiled | ⟨final, rest', alike⟩
      · exact .inl spoiled
      · refine .inr ⟨final, bind_eq_ok.mpr ⟨run, inside', runs', ?_⟩, alike⟩
        refine bind_eq_ok.mpr ⟨_, _, rfl, ?_⟩
        rw [alike'.rest, ahead]
        exact bind_eq_ok.mpr ⟨_, _, passes', rest'⟩

/-- Parts that agree do so when their results are changed. -/
theorem Agree.map {one other : Reading α} (f : α → β) (here : Agree base leading context tail one other) :
    Agree base leading context tail (f <$> one) (f <$> other) := by
  simpa only [map_eq_pure_bind] using here.bind fun a => .pure (f a)

/-- Parts that look at the state first agree when they do so for all readers that resemble each other. -/
theorem Agree.get {next after : Reader → Reading β}
    (agree : ∀ first inside, first.Resembles inside →
      Agree base leading context tail (next first) (after inside)) :
    Agree base leading context tail (MonadState.get >>= next) (MonadState.get >>= after) where
  steady first _ _ taken := (agree first first ⟨Nat.le_refl _, rfl⟩).steady _ _ _ taken
  follows alike taken := (agree _ _ alike.resembles).follows alike taken

/-- The next symbol is a character that is no edge for both readers or for none. -/
theorem Agree.peek {c : Char} {yes yes' no no' : Reading β} (inner : c ∉ edges)
    (agreeYes : Agree base leading context tail yes yes')
    (agreeNo : Agree base leading context tail no no') :
    Agree base leading context tail (next? >>= fun found => if found = some (.plain c) then yes else no)
      (next? >>= fun found => if found = some (.plain c) then yes' else no') where
  steady := by
    refine Steady.next.bind fun found => ?_
    split
    · exact agreeYes.steady
    · exact agreeNo.steady
  follows := by
    intro first inside last b alike taken
    have same := alike.ahead_iff inner
    change (if first.rest.head? = some (.plain c) then yes else no) first = _ at taken
    change _ ∨ ∃ inside', (if inside.rest.head? = some (.plain c) then yes' else no') inside = _ ∧ _
    simp only [same]
    split
    · rename_i ahead
      rw [if_pos ahead] at taken
      exact agreeYes.follows alike taken
    · rename_i ahead
      rw [if_neg ahead] at taken
      exact agreeNo.follows alike taken

/-! ## Sequences -/

/-- To look at the next symbol takes nothing. -/
theorem next?_bind {next : Option Symbol → Reading β} (reader : Reader) :
    (next? >>= next) reader = next reader.rest.head? reader := rfl

/-- Going over a run and using nothing of it. -/
theorem discard_bind {part : Reading α} {next : PUnit → Reading β} :
    (discard part >>= next) = part >>= fun _ => next ⟨⟩ := by
  simp only [discard, Functor.discard, map_const, Function.comp_apply, map_eq_pure_bind, bind_assoc,
    pure_bind]

/-- Behind a part that spoils the text, so that it agrees even with a part that never succeeds,
everything is allowed. -/
theorem Agree.spoiled_bind {one never : Reading α} {next : α → Reading β} {other : Reading β}
    (here : Agree base leading context tail one never) (refuses : Refuses never)
    (after : ∀ a, Steady (next a)) :
    Agree base leading context tail (one >>= next) other where
  steady := here.steady.bind after
  follows alike taken := by
    obtain ⟨a, middle, step, rest⟩ := bind_eq_ok.mp taken
    rcases here.follows alike step with spoiled | ⟨inside, step', _⟩
    · exact .inl ((after a _ _ _ rest).spoiled spoiled)
    · exact absurd step' (refuses _ _)

/-! ## Switches for the whole -/

/-- A parenthesis with nothing but the letters of switches turns them on for the whole. -/
def TurnsOn (symbols : List Symbol) : Prop :=
  ∃ letters more, symbols = .plain '(' :: .plain '?' :: letters ++ .plain ')' :: more ∧ letters ≠ [] ∧
    ∀ letter ∈ letters, isSwitch letter

/-- Two parts agree behind some symbols, unless switches are turned on for the whole there. That is
refused where something leads the text. -/
structure AgreeUnless (base : Switches) (leading : List (Node × Standing)) (context : Reader)
    (tail front : List Symbol) (one other : Reading α) : Prop where
  steady : Steady one
  follows : ∀ {first inside last a}, Alike base leading context tail first inside →
    one first = .ok (a, last) → last.Spoiled ∨
      leading = [] ∧ TurnsOn (front ++ first.rest) ∧ last.switches ≠ .none ∨
      ∃ inside', other inside = .ok (a, inside') ∧ Alike base leading context tail last inside'

variable {front : List Symbol}

/-- Parts that agree do so unless switches are turned on for the whole. -/
theorem Agree.unless {one other : Reading α} (agree : Agree base leading context tail one other) :
    AgreeUnless base leading context tail front one other :=
  ⟨agree.steady, fun alike taken => (agree.follows alike taken).imp_right .inr⟩

namespace AgreeUnless

/-- Looking at the state; behind leading items, the reader is not at the front. -/
theorem get {next after : Reader → Reading β}
    (agree : ∀ leading first inside, first.Resembles inside → (leading ≠ [] → first.Begun) →
      AgreeUnless base leading context tail front (next first) (after inside)) :
    AgreeUnless base leading context tail front (MonadState.get >>= next)
      (MonadState.get >>= after) where
  steady first _ _ taken :=
    (agree [] first first ⟨Nat.le_refl _, rfl⟩ (absurd rfl)).steady _ _ _ taken
  follows alike taken := (agree _ _ _ alike.resembles alike.begun).follows alike taken

/-- A symbol that is taken stands behind the ones before. -/
theorem take {next after : Option Symbol → Reading β} (ended : Refuses (next none))
    (more : ∀ symbol, AgreeUnless base leading context tail (front ++ [symbol]) (next (some symbol))
      (after (some symbol))) :
    AgreeUnless base leading context tail front (take? >>= next) (take? >>= after) where
  steady := .take_bind ended fun symbol => (more symbol).steady
  follows := by
    intro first inside last b alike taken
    obtain ⟨symbol, middle, middle', ahead, rest, here', alike'⟩ := Alike.taken alike ended taken
    have left : front ++ first.rest = front ++ [symbol] ++ middle.rest := by simp [ahead]
    rcases (more symbol).follows alike' rest with spoiled | turned | ⟨inside', rest', alike''⟩
    · exact .inl spoiled
    · exact .inr (.inl (left ▸ turned))
    · exact .inr (.inr ⟨inside', bind_eq_ok.mpr ⟨_, _, here', rest'⟩, alike''⟩)

/-- A character that is no edge is accepted, and then stands behind the symbols before, or is not
there. -/
theorem accept {c : Char} {next after : Bool → Reading β} (inner : c ∉ edges)
    (yes : AgreeUnless base leading context tail (front ++ [.plain c]) (next true) (after true))
    (no : Agree base leading context tail (next false) (after false)) :
    AgreeUnless base leading context tail front (Reading.accept c >>= next)
      (Reading.accept c >>= after) where
  steady := (Steady.accept c).bind fun
    | true => yes.steady
    | false => no.steady
  follows := by
    intro first inside last b alike taken
    obtain ⟨found, middle, here, rest⟩ := bind_eq_ok.mp taken
    rcases (Agree.accept inner).follows alike here with spoiled | ⟨middle', here', alike'⟩
    · have later : middle.Later last := by
        cases found
        · exact no.steady _ _ _ rest
        · exact yes.steady _ _ _ rest
      exact .inl (later.spoiled spoiled)
    · cases found with
      | false =>
        rcases no.follows alike' rest with spoiled | ⟨inside', rest', alike''⟩
        · exact .inl spoiled
        · exact .inr (.inr ⟨inside', bind_eq_ok.mpr ⟨_, _, here', rest'⟩, alike''⟩)
      | true =>
        have left : front ++ first.rest = front ++ [.plain c] ++ middle.rest := by
          rw [accept_eq_ok] at here
          split at here
          · rename_i ahead
            obtain ⟨more, same⟩ := List.head?_eq_some_iff.mp ahead
            obtain ⟨-, rfl⟩ := advance_eq_ok.mp here.2
            simp [same]
          · cases here.1
        rcases yes.follows alike' rest with spoiled | turned | ⟨inside', rest', alike''⟩
        · exact .inl spoiled
        · exact .inr (.inl (left ▸ turned))
        · exact .inr (.inr ⟨inside', bind_eq_ok.mpr ⟨_, _, here', rest'⟩, alike''⟩)

end AgreeUnless

end Reading

end LineGrammar.Pattern
