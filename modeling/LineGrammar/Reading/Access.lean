import LineGrammar.Reading.Basic

/-!
# Access to a reading

The values of a reading are found by name, by position, or as a run of positions. A position below
zero counts from the end. A name that no capture carries is looked for among the groups of the
pattern that have names of their own. The spans and texts of groups are those of the match.
-/

namespace LineGrammar

/-- What a value or a group is asked for by. -/
inductive Key where
  | name (name : String)
  | position (position : Int)
deriving DecidableEq

/-- A run of positions: where it starts, where it stops, and how far it steps; each may be open. -/
structure Run where
  start : Option Int
  stop : Option Int
  step : Option Int

namespace Run

/-- A bound as a position: counted from the end when it is below zero, and kept between the least
and the greatest position. -/
def bounded (size least greatest : Int) (bound : Int) : Int :=
  if bound < 0 then max (bound + size) least else min bound greatest

/-- The positions from a start on, before a stop in the direction of the step. -/
def walk (step stop : Int) : Nat → Int → List Int
  | 0, _ => []
  | count + 1, position =>
    if (0 < step ∧ position < stop) ∨ (step < 0 ∧ stop < position) then
      position :: walk step stop count (position + step)
    else []

/-- The positions of a run in a list of a given size; a run does not step on the spot. -/
def positions (run : Run) (size : Nat) : Option (List Nat) :=
  let step := run.step.getD 1
  if step = 0 then none
  else
    let least : Int := if step < 0 then -1 else 0
    let greatest : Int := if step < 0 then size - 1 else size
    let start := match run.start with
      | some bound => bounded size least greatest bound
      | none => if step < 0 then greatest else least
    let stop := match run.stop with
      | some bound => bounded size least greatest bound
      | none => if step < 0 then least else greatest
    some ((walk step stop size start).map Int.toNat)

end Run

namespace Reading

/-- The number of a group, if the pattern has it. -/
def groupIndex (reading : Reading) : Key → Except Fault Nat
  | .name name =>
    match reading.pattern.names.lookup name with
    | some index => .ok index
    | none => .error .noSuchGroup
  | .position position =>
    if 0 ≤ position ∧ position ≤ reading.pattern.groups then .ok position.toNat
    else .error .noSuchGroup

/-- The text of a group; a group that took no part has none. -/
def group (reading : Reading) (key : Key) : Except Fault Value := do
  let index ← reading.groupIndex key
  return match groupText? reading.line reading.found index with
    | some text => .text text
    | none => .nothing

/-- The span of a group, if it took part. -/
def span (reading : Reading) (key : Key) : Except Fault (Option (Nat × Nat)) := do
  return reading.found.span? (← reading.groupIndex key)

/-- The spans of the match as a whole and of all groups in order. -/
def spans (reading : Reading) : List (Option (Nat × Nat)) :=
  (List.range (reading.pattern.groups + 1)).map reading.found.span?

/-- The value at a position. -/
def valueAt (reading : Reading) (position : Int) : Except Fault Value :=
  let values := reading.values
  let place := if position < 0 then position + values.length else position
  if place < 0 then .error .outOfRange
  else match values[place.toNat]? with
    | some value => .ok value
    | none => .error .outOfRange

/-- The value of a key. -/
def value (reading : Reading) : Key → Except Fault Value
  | .position position => reading.valueAt position
  | .name name =>
    match reading.named.get? name with
    | some value => .ok value
    | none => reading.group (.name name)

/-- The values of several keys. -/
def valuesAt (reading : Reading) (keys : List Key) : Except Fault (List Value) :=
  keys.mapM reading.value

/-- The values of a run of positions. -/
def valuesIn (reading : Reading) (run : Run) : Except Fault (List Value) :=
  let values := reading.values
  match run.positions values.length with
  | none => .error .zeroStep
  | some positions => .ok (positions.filterMap (values[·]?))

/-- The value of a name, or another one when there is none or it is nothing. -/
def valueOr (reading : Reading) (name : String) (other : Value) : Value :=
  match reading.named.get? name with
  | none | some .nothing => other
  | some value => value

/-- The text before the match. -/
def before (reading : Reading) : String :=
  Pattern.slice reading.line (0, reading.found.start)

/-- The text after the match. -/
def after (reading : Reading) : String :=
  Pattern.slice reading.line (reading.found.stop, reading.line.size)

end Reading

end LineGrammar
