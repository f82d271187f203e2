import LineGrammar.Proofs.Faults
import LineGrammar.Proofs.Lists

/-!
# Captures and groups

The captures of an expression are paired with the groups of its pattern by position, and the pairing
stops where the groups end. Under types whose fragments stand alone there is exactly one group for each
capture, in the order of the tokens. So every reading has one value for each capture: nothing where the
group took no part, and else what the capture makes of its text. By name, the last capture counts.

A fragment that closes its parenthesis and reads as something else where it stands a second time can
bring a group of its own, and then the values behind it belong to other groups.
-/

namespace LineGrammar

open LineGrammar.Text LineGrammar.Pattern LineGrammar.Phrase

/-! ## Values by name -/

/-- An entry that no entry with its name follows is the one that is found from behind. -/
theorem lookup_reverse_of_last {α : Type} {entries : List (String × α)} {index : Nat} {name : String}
    {value : α} (listed : entries[index]? = some (name, value))
    (last : ∀ later entry, index < later → entries[later]? = some entry → entry.1 ≠ name) :
    entries.reverse.lookup name = some value := by
  induction entries generalizing index with
  | nil => cases listed
  | cons first rest ih =>
    rw [List.reverse_cons, List.lookup_append]
    cases index with
    | zero =>
      cases listed
      have none : rest.reverse.lookup name = none := by
        rw [List.lookup_eq_none_iff]
        intro entry inside
        obtain ⟨later, atLater⟩ := List.getElem?_of_mem (List.mem_reverse.mp inside)
        have other := last (later + 1) entry (by omega) (by simpa using atLater)
        simpa using other.symm
      simp [none]
    | succ index =>
      have found := ih (by simpa using listed) fun later entry behind atLater =>
        last (later + 1) entry (by omega) (by simpa using atLater)
      rw [found, Option.some_or]

/-! ## Readings -/

/-- A reading has one value for each capture of an expression, which is made of the group of the same
number, and by name it has the values of the last captures with these names. -/
structure Reading.Aligned (expression : Expression) (reading : Reading) : Prop where
  length : reading.values.length = expression.captures.length
  values : ∀ (index : Nat) (capture : Capture), expression.captures[index]? = some capture →
    ∃ value, reading.values[index]? = some value ∧
      (groupText? reading.line reading.found (index + 1) = none → value = .nothing) ∧
      ∀ text, groupText? reading.line reading.found (index + 1) = some text →
        capture.value (some expression.text) text = .ok value
  named : ∀ (index : Nat) (capture : Capture), expression.captures[index]? = some capture →
    (∀ (later : Nat) (other : Capture), index < later → expression.captures[later]? = some other →
      other.name ≠ capture.name) →
    reading.named.get? capture.name = reading.values[index]?
  unnamed : ∀ name, name ∉ expression.names → reading.named.get? name = none

/-- The values of captures stand under the names of the captures, in order. -/
theorem Reading.names_of_valuesFrom {asked : Option String} {line : Array Char} {found : Match}
    {start : Nat} {captures : List Capture} {values : List (String × Value)}
    (computed : valuesFrom asked line found start captures = .ok values) :
    values.map (·.1) = captures.map (·.name) := by
  induction captures generalizing start values with
  | nil =>
    cases computed
    rfl
  | cons first rest ih =>
    rw [valuesFrom] at computed
    split at computed <;>
    · obtain ⟨value, -, computed⟩ := Except.bind_eq_ok.mp computed
      obtain ⟨others, after, same⟩ := Except.bind_eq_ok.mp computed
      cases same
      simp [ih after]

/-- Where every capture has a group, every reading is aligned. -/
theorem Expression.read_aligned {expression : Expression}
    (groups : expression.pattern.groups = expression.captures.length) {line : String}
    {reading : Reading} (read : expression.read line = .ok (some reading)) :
    reading.Aligned expression := by
  obtain ⟨-, isLine, computed⟩ := read_eq_some read
  rw [groups, List.take_length, ← isLine] at computed
  have names := Reading.names_of_valuesFrom computed
  have entry (index : Nat) (capture : Capture) (listed : expression.captures[index]? = some capture) :=
    Reading.valuesFrom_getElem? computed listed
  constructor
  case length => simpa [Reading.values] using congrArg List.length names
  case values =>
    intro index capture listed
    obtain ⟨value, atIndex, nothing, converted⟩ := entry index capture listed
    rw [Nat.add_comm] at nothing converted
    exact ⟨value, by simp [Reading.values, atIndex], nothing, converted⟩
  case named =>
    intro index capture listed last
    obtain ⟨value, atIndex, -⟩ := entry index capture listed
    rw [Reading.named, Table.get?_ofEntries, Reading.values, List.getElem?_map, atIndex]
    refine lookup_reverse_of_last atIndex fun later other behind atLater => ?_
    have named : (expression.captures.map (·.name))[later]? = some other.1 := by
      rw [← names, List.getElem?_map, atLater]
      rfl
    obtain ⟨capture', listed', same⟩ := Option.map_eq_some_iff.mp (List.getElem?_map .. ▸ named)
    exact same ▸ last later capture' behind listed'
  case unnamed =>
    intro name absent
    rw [Reading.named, Table.get?_ofEntries, List.lookup_eq_none_iff]
    intro other inside
    have listed : other.1 ∈ expression.names := by
      rw [Expression.names, ← names]
      exact List.mem_map_of_mem (List.mem_reverse.mp inside)
    simpa using fun same : name = other.1 => absent (same ▸ listed)

/-- Under standing types, an expression has one group for each capture. -/
theorem Expression.groups_eq {types : TypeTable} (standing : types.Standing) {text : String}
    {expression : Expression} (compiled : Expression.compile types text = .ok expression) :
    ∃ phrase, Phrase.of text = .ok phrase ∧
      List.Forall₂ (fun token capture => Capture.Of types token capture) phrase.capturing
        expression.captures ∧
      expression.pattern.groups = expression.captures.length := by
  obtain ⟨phrase, read, body, captures, parts, pattern, isPattern, rfl⟩ := compile_eq_ok.mp compiled
  obtain ⟨other, isOther, groups⟩ := read_wholeLine standing read parts
  rw [isPattern] at isOther
  cases isOther
  have aligned := compiled_captures parts
  exact ⟨phrase, read, aligned, groups.trans aligned.length_eq⟩

namespace Expression

/-- As long as what is registered stands alone, a compiled expression has one group for each of its
captures, the captures are those of its tokens with a sigil, in order, and every reading pairs its values
with the groups, whatever has been asked of the table before. -/
theorem captures_aligned {start : TypeTable} (fresh : start.Fresh)
    {requests : List TypeTable.Request} (sound : ∀ request ∈ requests, request.Sound) {text : String}
    {expression : Expression}
    (compiled : Expression.compile (requests.foldl TypeTable.after start) text = .ok expression) :
    expression.pattern.groups = expression.captures.length ∧
      (∃ phrase, Phrase.of text = .ok phrase ∧
        List.Forall₂ (fun token capture =>
          Capture.Of (requests.foldl TypeTable.after start) token capture) phrase.capturing
          expression.captures) ∧
      ∀ line reading, expression.read line = .ok (some reading) → reading.Aligned expression := by
  obtain ⟨phrase, read, aligned, groups⟩ := groups_eq (fresh.standing.run sound) compiled
  exact ⟨groups, ⟨phrase, read, aligned⟩, fun line reading => read_aligned groups⟩

/-- A word and an argument that is left out are aligned. -/
theorem captures_aligned_choice :
    ∃ expression reading, Expression.compile
        ([.register "T" "left|right" none].foldl TypeTable.after .numeric) "go :x@T [:y]" =
          .ok expression ∧
      expression.pattern.groups = expression.captures.length ∧
      expression.read "go left" = .ok (some reading) ∧ reading.Aligned expression := by
  have sound : ∀ request ∈ [TypeTable.Request.register "T" "left|right" none], request.Sound := by
    decide +kernel
  have reads : ((Expression.compile
      ([.register "T" "left|right" none].foldl TypeTable.after .numeric) "go :x@T [:y]").toOption.bind
        fun expression => (expression.read "go left").toOption.join).isSome = true := by
    decide +kernel
  obtain ⟨reading, found⟩ := Option.isSome_iff_exists.mp reads
  obtain ⟨expression, compiled, found⟩ := Option.bind_eq_some_iff.mp found
  have read := Except.eq_ok_of_toOption (Option.join_eq_some_iff.mp found)
  have compiled := Except.eq_ok_of_toOption compiled
  obtain ⟨groups, -, aligned⟩ := captures_aligned (.inl rfl) sound compiled
  exact ⟨expression, reading, compiled, groups, read, aligned _ _ read⟩

/-- A fragment may close its parenthesis and leave the layout free for what follows, so that it reads as
something else where it stands a second time. Its registration is accepted, and a list of the type has
two groups for its one capture. -/
theorem captures_misaligned :
    ∃ expression, Expression.compile
        ([.register "T" "#[\n()])(?x:" none].foldl TypeTable.after .numeric) "w *xs@T" =
          .ok expression ∧
      expression.pattern.groups ≠ expression.captures.length := by
  have counted : (Expression.compile
      ([.register "T" "#[\n()])(?x:" none].foldl TypeTable.after .numeric) "w *xs@T").toOption.map
        (fun expression => (expression.pattern.groups, expression.captures.length)) = some (2, 1) := by
    decide +kernel
  obtain ⟨expression, compiled, same⟩ := Option.map_eq_some_iff.mp counted
  have groups : expression.pattern.groups = 2 := congrArg Prod.fst same
  have captures : expression.captures.length = 1 := congrArg Prod.snd same
  exact ⟨expression, Except.eq_ok_of_toOption compiled, by omega⟩

end Expression

end LineGrammar
