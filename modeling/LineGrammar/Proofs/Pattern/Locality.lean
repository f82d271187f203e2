import LineGrammar.Proofs.Pattern.Meaning
import LineGrammar.Proofs.Pattern.Positions

/-!
# A piece of a text by itself

A node that asks for no position and looks neither ahead nor back sees only what it goes over. So its
ways over a piece of a text are those that it has in the piece alone, in the same order, and whatever
stands around the piece makes no difference to them: the ways in the text mirror those in the piece, up to
the end of the piece.

There is one exception. A part that commits itself, an atomic or a possessive one, takes the first of
its ways and never another, and the first way may go on beyond the piece. It does not when a character
stands behind the piece that the part accepts nowhere. What is said here holds for pieces with a barred
character behind them, or nothing, and for nodes that commit themselves to no barred character.
-/

namespace LineGrammar.Pattern

/-! ## What a node asks for -/

namespace Node

/-- Whether a node asks for a position or looks at what is around it. -/
def looksAround : Node → Bool
  | .anchor _ | .lookAhead .. | .lookBehind .. => true
  | .sequence first second => first.looksAround || second.looksAround
  | .choice first second => first.looksAround || second.looksAround
  | .repetition _ _ _ body | .capture _ body | .scoped _ _ body | .atomic body => body.looksAround
  | .conditional _ present absent => present.looksAround || absent.looksAround
  | .empty | .character _ | .anything | .set .. | .reference .. => false

/-- Whether some leaf of a node accepts a character. -/
def accepts (c : Char) : Switches → Node → Bool
  | on, .character code => sameCharacter on code c
  | on, .anything => isAnything on c
  | on, .set negated items => inSet on negated items c
  | on, .sequence first second => first.accepts c on || second.accepts c on
  | on, .choice first second => first.accepts c on || second.accepts c on
  | on, .repetition _ _ _ body => body.accepts c on
  | on, .capture _ body => body.accepts c on
  | outer, .scoped on off body => body.accepts c (outer.within on off)
  | on, .atomic body => body.accepts c on
  | on, .conditional _ present absent => present.accepts c on || absent.accepts c on
  | _, .empty | _, .anchor _ | _, .lookAhead .. | _, .lookBehind .. | _, .reference .. => false

/-- What a node commits itself to accepts no barred character: its atomic and its possessive parts do
not. -/
def CommitsApart (barred : Char → Bool) : Switches → Node → Prop
  | on, .sequence first second => first.CommitsApart barred on ∧ second.CommitsApart barred on
  | on, .choice first second => first.CommitsApart barred on ∧ second.CommitsApart barred on
  | on, .repetition .possessive _ _ body => ∀ c, barred c = true → body.accepts c on = false
  | on, .repetition _ _ _ body => body.CommitsApart barred on
  | on, .capture _ body => body.CommitsApart barred on
  | outer, .scoped on off body => body.CommitsApart barred (outer.within on off)
  | on, .atomic body => ∀ c, barred c = true → body.accepts c on = false
  | on, .conditional _ present absent =>
    present.CommitsApart barred on ∧ absent.CommitsApart barred on
  | _, _ => True

/-- What a node commits itself to can be computed where a test can be asked about all barred characters
at once. -/
def decidableCommitsApart (barred : Char → Bool)
    (each : ∀ test : Char → Bool, Decidable (∀ c, barred c = true → test c = false)) :
    (on : Switches) → (node : Node) → Decidable (node.CommitsApart barred on)
  | on, .sequence first second | on, .choice first second | on, .conditional _ first second =>
    have := decidableCommitsApart barred each on first
    have := decidableCommitsApart barred each on second
    inferInstanceAs (Decidable (_ ∧ _))
  | on, .repetition .possessive _ _ body => each (body.accepts · on)
  | on, .repetition .greedy _ _ body | on, .repetition .lazy _ _ body | on, .capture _ body =>
    decidableCommitsApart barred each on body
  | outer, .scoped on off body => decidableCommitsApart barred each (outer.within on off) body
  | on, .atomic body => each (body.accepts · on)
  | _, .empty | _, .character _ | _, .anything | _, .set .. | _, .anchor _ | _, .lookAhead ..
  | _, .lookBehind .. | _, .reference .. => .isTrue trivial

/-- Where one of two tests is not passed, neither of them is. -/
theorem spared_of_or {asked : Char → Prop} {first second : Char → Bool}
    (spares : ∀ c, asked c → (first c || second c) = false) :
    (∀ c, asked c → first c = false) ∧ ∀ c, asked c → second c = false := by
  simpa only [Bool.or_eq_false_iff, forall_and] using spares

/-- A node that accepts no barred character commits itself to none. -/
theorem commitsApart_of_accepts {barred : Char → Bool} {on : Switches} {node : Node}
    (spares : ∀ c, barred c = true → node.accepts c on = false) : node.CommitsApart barred on := by
  induction node generalizing on with
  | sequence first second ihFirst ihSecond => exact (spared_of_or spares).imp ihFirst ihSecond
  | choice first second ihFirst ihSecond => exact (spared_of_or spares).imp ihFirst ihSecond
  | repetition greed least greatest body ih =>
    cases greed with
    | possessive => exact spares
    | greedy => exact ih spares
    | lazy => exact ih spares
  | capture index body ih => exact ih spares
  | «scoped» inner off body ih => exact ih spares
  | atomic body ih => exact spares
  | conditional index present absent ihPresent ihAbsent =>
    exact (spared_of_or spares).imp ihPresent ihAbsent
  | _ => trivial

end Node

/-! ## Within a bound -/

/-- A place up to a bound at which no group has taken part. -/
def Place.Within (bound : Nat) (place : Place) : Prop := place.groups = [] ∧ place.position ≤ bound

instance (bound : Nat) :
    IsPreorder Place fun place next => place.Within bound → next.Within bound where
  refl _ := id
  trans _ _ _ first second within := second (first within)

/-- A character is consumed within a bound at which a character fails the test. -/
theorem Ways.Leads.consume_within {text : Array Char} {test : Char → Bool} {bound : Nat}
    (stops : ∀ c, text[bound]? = some c → test c = false) :
    (Ways.consume text test).Leads fun place next => place.Within bound → next.Within bound := by
  refine .consume fun place c stands passed within =>
    ⟨within.1, Nat.lt_of_le_of_ne within.2 fun same => ?_⟩
  rw [same] at stands
  rw [stops c stands] at passed
  cases passed

/-- A node that accepts nothing of what stands at a bound does not lead beyond the bound. -/
theorem Node.ways_within {text : Array Char} {bound : Nat} {on : Switches} {node : Node}
    (around : node.looksAround = false) (captures : node.captures = 0)
    (stops : ∀ c, text[bound]? = some c → node.accepts c on = false) :
    (node.ways text on).Leads fun place next => place.Within bound → next.Within bound := by
  induction node generalizing on with
  | empty => exact .here
  | character code => exact .consume_within stops
  | anything => exact .consume_within stops
  | set negated items => exact .consume_within stops
  | anchor asked => cases around
  | sequence first second ihFirst ihSecond =>
    obtain ⟨still, stillOther⟩ := Bool.or_eq_false_iff.mp around
    obtain ⟨none, noneOther⟩ := Nat.add_eq_zero_iff.mp captures
    obtain ⟨stopsFirst, stopsSecond⟩ := spared_of_or stops
    exact (ihFirst still none stopsFirst).flatMap (ihSecond stillOther noneOther stopsSecond)
  | choice first second ihFirst ihSecond =>
    obtain ⟨still, stillOther⟩ := Bool.or_eq_false_iff.mp around
    obtain ⟨none, noneOther⟩ := Nat.add_eq_zero_iff.mp captures
    obtain ⟨stopsFirst, stopsSecond⟩ := spared_of_or stops
    exact (ihFirst still none stopsFirst).append (ihSecond stillOther noneOther stopsSecond)
  | repetition greed least greatest body ih => exact (ih around captures stops).repeated _ _ _ _
  | capture index body ih => cases captures
  | «scoped» inner off body ih => exact ih around captures stops
  | atomic body ih => exact (ih around captures stops).once
  | lookAhead negated body ih => cases around
  | lookBehind negated width body ih => cases around
  | reference index width =>
    -- There is no group that could be repeated.
    refine .reference index width fun place length noted within => ?_
    simp [Place.group?, within.1] at noted
  | conditional index present absent ihPresent ihAbsent =>
    obtain ⟨still, stillOther⟩ := Bool.or_eq_false_iff.mp around
    obtain ⟨none, noneOther⟩ := Nat.add_eq_zero_iff.mp captures
    obtain ⟨stopsPresent, stopsAbsent⟩ := spared_of_or stops
    exact (ihPresent still none stopsPresent).either _
      (ihAbsent stillOther noneOther stopsAbsent)

/-! ## Mirrored ways -/

/-- Ways in a text mirror ways in a piece of the text that begins at a start: those that do not lead
beyond the piece are those in the piece, in the same order. -/
structure Ways.Mirrors (outer inner : Ways) (start stop : Nat) : Prop where
  forward : outer.Forward
  within : inner.Leads fun place next => place.Within stop → next.Within stop
  same : ∀ position ≤ stop,
    (outer ⟨position + start, []⟩).filter (fun next => next.position ≤ stop + start) =
      (inner ⟨position, []⟩).map (·.after start)

/-- Where more turns are allowed than the room asks for, it does not matter how many. -/
theorem turnsLeft_cases (least : Nat) (greatest : Option Nat) {room more : Nat} (fits : room ≤ more) :
    turnsLeft least greatest more = turnsLeft least greatest room ∨
      room < turnsLeft least greatest more ∧ room < turnsLeft least greatest room := by
  cases greatest with
  | none =>
    simp only [turnsLeft]
    omega
  | some greatest =>
    simp only [turnsLeft]
    omega

/-- Steps that lead nowhere from some of the places can be left out there. -/
theorem flatMap_filter_eq {α β : Type} {list : List α} {step : α → List β} {keeps : α → Bool}
    (others : ∀ a ∈ list, keeps a = false → step a = []) :
    (list.filter keeps).flatMap step = list.flatMap step := by
  induction list with
  | nil => rfl
  | cons a rest ih =>
    have behind := ih fun b listed => others b (List.mem_cons_of_mem _ listed)
    cases kept : keeps a with
    | true => rw [List.filter_cons_of_pos kept, List.flatMap_cons, List.flatMap_cons, behind]
    | false =>
      rw [List.filter_cons_of_neg (by simp [kept]), List.flatMap_cons,
        others a List.mem_cons_self kept, List.nil_append, behind]

namespace Ways

/-- A turn is not begun where the previous one began. -/
theorem greedily_still (ways : Ways) (n : Nat) (place : Place) :
    ways.greedily n (some place.position) place = [place] := by
  cases n <;> simp [greedily]

/-- A lazy repetition begins no turn where the previous one began. -/
theorem lazily_still (ways : Ways) (n : Nat) (place : Place) :
    ways.lazily n (some place.position) place = [place] := by
  cases n <;> simp [lazily]

/-- An exhaustive repetition begins no turn where the previous one began. -/
theorem exhaustively_still (ways : Ways) (n : Nat) (place : Place) :
    ways.exhaustively n (some place.position) place = [place] := by
  cases n <;> simp [exhaustively]

end Ways

namespace Ways.Mirrors

variable {outer inner outer' inner' : Ways} {start stop position : Nat}

/-- A way in the piece leads to a later place in the piece, without groups. -/
theorem exists_later (mirrors : Mirrors outer inner start stop) (inside : position ≤ stop) {next : Place}
    (listed : next ∈ inner ⟨position, []⟩) :
    ∃ later, next = ⟨later, []⟩ ∧ position ≤ later ∧ later ≤ stop := by
  obtain ⟨groups, bound⟩ := mirrors.within _ _ listed ⟨rfl, inside⟩
  have shifted := List.mem_map_of_mem (f := (·.after start)) listed
  rw [← mirrors.same position inside] at shifted
  have onward := mirrors.forward _ _ (List.mem_filter.mp shifted).1
  obtain ⟨later, _⟩ := next
  cases groups
  exact ⟨later, rfl, by simpa using onward, bound⟩

/-- To stay mirrors to stay. -/
theorem here : Mirrors (fun place => [place]) (fun place => [place]) start stop where
  forward place next listed := List.mem_singleton.mp listed ▸ Nat.le_refl _
  within place next listed := List.mem_singleton.mp listed ▸ id
  same position inside := by simp [inside, Place.after]

/-- Mirrored steps after one another are mirrored. -/
theorem flatMap (first : Mirrors outer inner start stop) (second : Mirrors outer' inner' start stop) :
    Mirrors (fun place => (outer place).flatMap outer') (fun place => (inner place).flatMap inner') start
      stop where
  forward := first.forward.flatMap second.forward
  within := first.within.flatMap second.within
  same position inside := by
    have beyond : ∀ next ∈ outer ⟨position + start, []⟩, decide (next.position ≤ stop + start) = false →
        (outer' next).filter (fun last => last.position ≤ stop + start) = [] := by
      intro next _ beyond
      rw [decide_eq_false_iff_not, Nat.not_le] at beyond
      refine List.filter_eq_nil_iff.mpr fun last listed => ?_
      have onward := second.forward _ _ listed
      simpa using Nat.lt_of_lt_of_le beyond onward
    rw [List.filter_flatMap, ← flatMap_filter_eq beyond, first.same position inside, List.flatMap_map,
      List.map_flatMap]
    refine List.flatMap_congr fun next listed => ?_
    obtain ⟨later, rfl, -, bound⟩ := first.exists_later inside listed
    exact second.same later bound

/-- Mirrored steps that are tried one after the other are mirrored. -/
theorem append (first : Mirrors outer inner start stop) (second : Mirrors outer' inner' start stop) :
    Mirrors (fun place => outer place ++ outer' place) (fun place => inner place ++ inner' place) start
      stop where
  forward place next listed := (List.mem_append.mp listed).elim (first.forward _ _) (second.forward _ _)
  within place next listed := (List.mem_append.mp listed).elim (first.within _ _) (second.within _ _)
  same position inside := by
    rw [List.filter_append, List.map_append, first.same position inside, second.same position inside]

/-- Required turns of mirrored steps are mirrored. -/
theorem required (mirrors : Mirrors outer inner start stop) (n : Nat) :
    Mirrors (outer.required n) (inner.required n) start stop := by
  induction n with
  | zero => exact here
  | succ n ih => exact mirrors.flatMap ih

/-- The place where the previous turn began is moved like the others. -/
theorem map_last {last : Option Nat} :
    last.map (· + start) = some (position + start) ↔ last = some position := by
  cases last <;> simp

/-- Greedy turns of mirrored steps are mirrored. -/
theorem greedily (mirrors : Mirrors outer inner start stop) (n : Nat) (last : Option Nat) :
    Mirrors (outer.greedily n (last.map (· + start))) (inner.greedily n last) start stop := by
  induction n generalizing last with
  | zero => exact here
  | succ n ih =>
    refine ⟨mirrors.forward.greedily _ _, mirrors.within.greedily _ _, fun position inside => ?_⟩
    by_cases still : last = some position
    · simp [Ways.greedily, still, inside, Place.after]
    · have more := (mirrors.flatMap (ih (some position))).same position inside
      simp only [Ways.greedily, map_last, still, if_false, List.filter_append, List.map_append]
      rw [Option.map_some] at more
      rw [more, here.same position inside]

/-- Lazy turns of mirrored steps are mirrored. -/
theorem lazily (mirrors : Mirrors outer inner start stop) (n : Nat) (last : Option Nat) :
    Mirrors (outer.lazily n (last.map (· + start))) (inner.lazily n last) start stop := by
  induction n generalizing last with
  | zero => exact here
  | succ n ih =>
    refine ⟨mirrors.forward.lazily _ _, mirrors.within.lazily _ _, fun position inside => ?_⟩
    by_cases still : last = some position
    · simp [Ways.lazily, still, inside, Place.after]
    · have more := (mirrors.flatMap (ih (some position))).same position inside
      rw [Option.map_some] at more
      simp only [Ways.lazily, map_last, still, if_false, List.map_cons]
      rw [List.filter_cons, if_pos (by simpa using inside), more]
      rfl

/-- Two ways to go on that agree at the place of a turn and at later places agree behind the turn. -/
theorem flatMap_congr_later (mirrors : Mirrors outer inner start stop) (inside : position ≤ stop)
    {onward onward' : Ways} (still : onward ⟨position, []⟩ = onward' ⟨position, []⟩)
    (later : ∀ {later}, position < later → later ≤ stop → onward ⟨later, []⟩ = onward' ⟨later, []⟩) :
    (inner ⟨position, []⟩).flatMap onward = (inner ⟨position, []⟩).flatMap onward' := by
  refine List.flatMap_congr fun next listed => ?_
  obtain ⟨place, rfl, forward, bound⟩ := mirrors.exists_later inside listed
  rcases Nat.eq_or_lt_of_le forward with rfl | forward
  · exact still
  · exact later forward bound

/-- Turns beyond the room make no difference. -/
theorem greedily_eq (mirrors : Mirrors outer inner start stop) (inside : position ≤ stop) {n m : Nat}
    (enough : stop - position < n) (enough' : stop - position < m) (last : Option Nat) :
    inner.greedily n last ⟨position, []⟩ = inner.greedily m last ⟨position, []⟩ := by
  induction n generalizing m position last with
  | zero => exact absurd enough (Nat.not_lt_zero _)
  | succ n ih =>
    obtain ⟨m, rfl⟩ := Nat.exists_eq_succ_of_ne_zero (Nat.ne_of_gt (Nat.zero_lt_of_lt enough'))
    by_cases still : last = some position
    · simp [Ways.greedily, still]
    · simp only [Ways.greedily, still, if_false]
      refine congrArg (· ++ [_]) (mirrors.flatMap_congr_later inside ?_ fun onward bound => ?_)
      · rw [Ways.greedily_still _ n ⟨position, []⟩, Ways.greedily_still _ m ⟨position, []⟩]
      · exact ih bound (by omega) (by omega) _

/-- How many lazy turns are allowed makes no difference when there are enough for the rest of the piece. -/
theorem lazily_eq (mirrors : Mirrors outer inner start stop) (inside : position ≤ stop) {n m : Nat}
    (enough : stop - position < n) (enough' : stop - position < m) (last : Option Nat) :
    inner.lazily n last ⟨position, []⟩ = inner.lazily m last ⟨position, []⟩ := by
  induction n generalizing m position last with
  | zero => exact absurd enough (Nat.not_lt_zero _)
  | succ n ih =>
    obtain ⟨m, rfl⟩ := Nat.exists_eq_succ_of_ne_zero (Nat.ne_of_gt (Nat.zero_lt_of_lt enough'))
    by_cases still : last = some position
    · simp [Ways.lazily, still]
    · simp only [Ways.lazily, still, if_false]
      refine congrArg (_ :: ·) (mirrors.flatMap_congr_later inside ?_ fun onward bound => ?_)
      · rw [Ways.lazily_still _ n ⟨position, []⟩, Ways.lazily_still _ m ⟨position, []⟩]
      · exact ih bound (by omega) (by omega) _

/-! ### Commitments -/

/-- When no way leads beyond the piece, all of them are those in the piece. -/
theorem eq_map (mirrors : Mirrors outer inner start stop)
    (stays : outer.Leads fun place next => place.Within (stop + start) → next.Within (stop + start))
    (inside : position ≤ stop) :
    outer ⟨position + start, []⟩ = (inner ⟨position, []⟩).map (·.after start) := by
  rw [← mirrors.same position inside, eq_comm, List.filter_eq_self]
  intro next listed
  have bound := (stays _ _ listed ⟨rfl, Nat.add_le_add_right inside start⟩).2
  simpa using bound

/-- The first way of a step is mirrored when it does not lead beyond the piece. -/
theorem once (mirrors : Mirrors outer inner start stop)
    (stays : outer.Leads fun place next => place.Within (stop + start) → next.Within (stop + start)) :
    Mirrors outer.once inner.once start stop where
  forward := mirrors.forward.once
  within := mirrors.within.once
  same position inside := by
    rw [Ways.once, Ways.once, mirrors.eq_map stays inside, List.head?_map]
    cases first : (inner ⟨position, []⟩).head? with
    | none => rfl
    | some next =>
      obtain ⟨later, rfl, -, bound⟩ := mirrors.exists_later inside (List.mem_of_mem_head? first)
      simpa using bound

/-- Exhaustive turns are mirrored when the steps do not lead beyond the piece. -/
theorem exhaustively (mirrors : Mirrors outer inner start stop)
    (stays : outer.Leads fun place next => place.Within (stop + start) → next.Within (stop + start))
    (n : Nat) (last : Option Nat) :
    Mirrors (outer.exhaustively n (last.map (· + start))) (inner.exhaustively n last) start stop := by
  induction n generalizing last with
  | zero => exact here
  | succ n ih =>
    refine ⟨mirrors.forward.exhaustively _ _, mirrors.within.exhaustively _ _,
      fun position inside => ?_⟩
    by_cases still : last = some position
    · simp [Ways.exhaustively, still, inside, Place.after]
    · simp only [Ways.exhaustively, map_last, still, if_false]
      rw [mirrors.eq_map stays inside, List.head?_map]
      cases first : (inner ⟨position, []⟩).head? with
      | none => exact here.same position inside
      | some next =>
        obtain ⟨later, rfl, -, bound⟩ := mirrors.exists_later inside (List.mem_of_mem_head? first)
        exact (ih (some position)).same later bound

/-- How many exhaustive turns are allowed makes no difference when there are enough for the rest of the
piece. -/
theorem exhaustively_eq (mirrors : Mirrors outer inner start stop) (inside : position ≤ stop) {n m : Nat}
    (enough : stop - position < n) (enough' : stop - position < m) (last : Option Nat) :
    inner.exhaustively n last ⟨position, []⟩ = inner.exhaustively m last ⟨position, []⟩ := by
  induction n generalizing m position last with
  | zero => exact absurd enough (Nat.not_lt_zero _)
  | succ n ih =>
    obtain ⟨m, rfl⟩ := Nat.exists_eq_succ_of_ne_zero (Nat.ne_of_gt (Nat.zero_lt_of_lt enough'))
    by_cases still : last = some position
    · simp [Ways.exhaustively, still]
    · simp only [Ways.exhaustively, still, if_false]
      cases first : (inner ⟨position, []⟩).head? with
      | none => rfl
      | some next =>
        obtain ⟨later, rfl, onward, bound⟩ := mirrors.exists_later inside (List.mem_of_mem_head? first)
        rcases Nat.eq_or_lt_of_le onward with rfl | onward
        · exact (Ways.exhaustively_still _ n ⟨position, []⟩).trans
            (Ways.exhaustively_still _ m ⟨position, []⟩).symm
        · exact ih bound (by omega) (by omega) _

/-- A number of turns that depends on the room is as good as the number for the room in the piece. -/
theorem turns {turns turns' : Nat → Ways}
    (mirrors : ∀ n, Mirrors (turns n) (turns' n) start stop)
    (enough : ∀ {position n m}, position ≤ stop → stop - position < n → stop - position < m →
      turns' n ⟨position, []⟩ = turns' m ⟨position, []⟩)
    {size : Nat} (fits : stop ≤ size - start) (least : Nat) (greatest : Option Nat) :
    Mirrors (fun place => turns (turnsLeft least greatest (size - place.position)) place)
      (fun place => turns' (turnsLeft least greatest (stop - place.position)) place) start stop where
  forward place := (mirrors _).forward place
  within place := (mirrors _).within place
  same position inside := by
    rw [(mirrors _).same position inside]
    have room : stop - position ≤ size - (position + start) := by omega
    rcases turnsLeft_cases least greatest room with same | ⟨more, here⟩
    · simp only [same]
    · rw [enough inside more here]

/-- Repetitions of mirrored steps are mirrored; possessive ones if the steps do not lead beyond the
piece. -/
theorem repeated (mirrors : Mirrors outer inner start stop) {size : Nat} (fits : stop ≤ size - start)
    {greed : Greed} (stays : greed = .possessive →
      outer.Leads fun place next => place.Within (stop + start) → next.Within (stop + start))
    (least : Nat) (greatest : Option Nat) :
    Mirrors (outer.repeated size greed least greatest) (inner.repeated stop greed least greatest) start
      stop := by
  cases greed with
  | greedy =>
    exact (mirrors.required least).flatMap (.turns (fun n => mirrors.greedily n none)
      (fun inside more here => mirrors.greedily_eq inside more here none) fits least greatest)
  | lazy =>
    exact (mirrors.required least).flatMap (.turns (fun n => mirrors.lazily n none)
      (fun inside more here => mirrors.lazily_eq inside more here none) fits least greatest)
  | possessive =>
    exact ((mirrors.once (stays rfl)).required least).flatMap
      (.turns (fun n => mirrors.exhaustively (stays rfl) n none)
        (fun inside more here => mirrors.exhaustively_eq inside more here none) fits least greatest)

end Ways.Mirrors

/-! ## Pieces -/

/-- A text has a piece at a start, and a barred character or nothing behind the piece. -/
structure Window (barred : Char → Bool) (text : Array Char) (start : Nat) (piece : List Char) :
    Prop where
  held : Holds text start piece
  ends : ∀ c, text[piece.length + start]? = some c → barred c = true

namespace Window

variable {barred : Char → Bool} {text : Array Char} {start : Nat} {piece : List Char}

/-- The characters of the piece are those of the text. -/
theorem getElem? (window : Window barred text start piece) {position : Nat}
    (inside : position < piece.length) : piece.toArray[position]? = text[position + start]? := by
  obtain ⟨rest, whole⟩ := window.held
  rw [← Array.getElem?_toList, ← Array.getElem?_toList, Nat.add_comm, ← List.getElem?_drop, ← whole,
    List.getElem?_append_left inside]

/-- A character of the piece is consumed in the text as in the piece. -/
theorem consume (window : Window barred text start piece) (test : Char → Bool) :
    Ways.Mirrors (.consume text test) (.consume piece.toArray test) start piece.length where
  forward := .consume text test
  within := .consume_within (by simp)
  same position inside := by
    rcases Nat.eq_or_lt_of_le inside with rfl | inside
    · -- Behind the piece, a character leads beyond it.
      have none : Ways.consume piece.toArray test ⟨piece.length, []⟩ = [] := by
        simp [Ways.consume]
      rw [none, List.map_nil, List.filter_eq_nil_iff]
      intro next listed
      rcases Ways.consume_cases text test ⟨piece.length + start, []⟩ with ⟨stuck, -⟩ | ⟨-, moved⟩
      · rw [stuck] at listed
        cases listed
      · rw [moved, List.mem_singleton] at listed
        subst listed
        simp
    · simp only [Ways.consume, window.getElem? inside]
      cases text[position + start]? with
      | none => rfl
      | some c =>
        have reached : position + start + 1 ≤ piece.length + start := by omega
        dsimp only
        split <;> simp [reached, Place.after, Nat.add_right_comm]

/-- The ways of a node in a text mirror those in a piece of the text by itself. -/
theorem mirrors (window : Window barred text start piece) {on : Switches} {node : Node}
    (around : node.looksAround = false) (captures : node.captures = 0)
    (apart : node.CommitsApart barred on) :
    Ways.Mirrors (node.ways text on) (node.ways piece.toArray on) start piece.length := by
  have room := window.held.length_le
  -- A body that accepts no barred character does not lead beyond the piece.
  have stays {on : Switches} {body : Node} (around : body.looksAround = false) (captures : body.captures = 0)
      (spares : ∀ c, barred c = true → body.accepts c on = false) :
      (body.ways text on).Leads fun place next =>
        place.Within (piece.length + start) → next.Within (piece.length + start) :=
    Node.ways_within around captures fun c here => spares c (window.ends c here)
  induction node generalizing on with
  | empty => exact .here
  | character code => exact window.consume _
  | anything => exact window.consume _
  | set negated items => exact window.consume _
  | anchor asked => cases around
  | sequence first second ihFirst ihSecond =>
    obtain ⟨still, stillOther⟩ := Bool.or_eq_false_iff.mp around
    obtain ⟨none, noneOther⟩ := Nat.add_eq_zero_iff.mp captures
    exact (ihFirst still none apart.1).flatMap (ihSecond stillOther noneOther apart.2)
  | choice first second ihFirst ihSecond =>
    obtain ⟨still, stillOther⟩ := Bool.or_eq_false_iff.mp around
    obtain ⟨none, noneOther⟩ := Nat.add_eq_zero_iff.mp captures
    exact (ihFirst still none apart.1).append (ihSecond stillOther noneOther apart.2)
  | repetition greed least greatest body ih =>
    have size : piece.toArray.size = piece.length := List.size_toArray
    have turn : body.CommitsApart barred on := by
      cases greed with
      | possessive => exact Node.commitsApart_of_accepts apart
      | greedy => exact apart
      | lazy => exact apart
    simp only [Node.ways, size]
    refine (ih around captures turn).repeated room ?_ least greatest
    rintro rfl
    exact stays around captures apart
  | capture index body ih => cases captures
  | «scoped» inner off body ih => exact ih around captures apart
  | atomic body ih =>
    exact (ih around captures (Node.commitsApart_of_accepts apart)).once (stays around captures apart)
  | lookAhead negated body ih => cases around
  | lookBehind negated width body ih => cases around
  | reference index width =>
    have nowhere (text : Array Char) (position : Nat) :
        (Node.reference index width).ways text on ⟨position, []⟩ = [] := rfl
    refine ⟨Node.ways_forward _ _ _, Node.ways_within around captures (by simp), fun position _ => ?_⟩
    rw [nowhere, nowhere]
    rfl
  | conditional index present absent ihPresent ihAbsent =>
    obtain ⟨-, still⟩ := Bool.or_eq_false_iff.mp around
    obtain ⟨-, none⟩ := Nat.add_eq_zero_iff.mp captures
    have second (text : Array Char) (position : Nat) :
        (Node.conditional index present absent).ways text on ⟨position, []⟩ =
          absent.ways text on ⟨position, []⟩ := rfl
    refine ⟨Node.ways_forward _ _ _, Node.ways_within around captures (by simp),
      fun position inside => ?_⟩
    rw [second, second]
    exact (ihAbsent still none apart.2).same position inside

end Window

/-- A pattern matches a text in full when one of its ways leads to the end. -/
theorem matchesFully_iff {pattern : Pattern} {text : List Char} :
    pattern.matchesFully text = true ↔
      ∃ place ∈ pattern.root.ways text.toArray pattern.switches ⟨0, []⟩, place.position = text.length := by
  rw [matchesFully, matchWhere, Node.run_searches, Option.isSome_map, List.findSome?_isSome_iff]
  refine exists_congr fun place => and_congr_right fun _ => ?_
  by_cases whole : place.position = text.length <;> simp [whole]

/-- A pattern that captures nothing and looks at nothing around it is local, up to barred characters that
it does not commit itself to: it leads over a piece of a text wherever that stands, if one of these
characters or nothing follows, exactly when it matches the piece in full. -/
structure IsLocal (barred : Char → Bool) (pattern : Pattern) : Prop where
  switches : pattern.switches = .none
  captures : pattern.root.captures = 0
  around : pattern.root.looksAround = false
  apart : pattern.root.CommitsApart barred .none

/-- A local pattern leads over a piece of a text exactly when it matches the piece in full. -/
theorem IsLocal.leads_iff {barred : Char → Bool} {pattern : Pattern} (isLocal : pattern.IsLocal barred)
    {text : Array Char} {start : Nat} {piece : List Char} (window : Window barred text start piece) :
    ⟨start + piece.length, []⟩ ∈ pattern.root.ways text .none ⟨start, []⟩ ↔
      pattern.matchesFully piece = true := by
  have mirrors := window.mirrors isLocal.around isLocal.captures isLocal.apart
  have ways := mirrors.same 0 (Nat.zero_le _)
  rw [Nat.zero_add] at ways
  have listed : (⟨start + piece.length, []⟩ : Place) ∈ pattern.root.ways text .none ⟨start, []⟩ ↔
      ⟨start + piece.length, []⟩ ∈ (pattern.root.ways text .none ⟨start, []⟩).filter
        fun next => next.position ≤ piece.length + start := by
    rw [List.mem_filter]
    simp [Nat.add_comm]
  rw [listed, ways, List.mem_map, matchesFully_iff, isLocal.switches]
  refine exists_congr fun next => and_congr_right fun taken => ?_
  obtain ⟨later, rfl, -, -⟩ := mirrors.exists_later (Nat.zero_le _) taken
  simp [Place.after, Nat.add_comm]

end LineGrammar.Pattern
