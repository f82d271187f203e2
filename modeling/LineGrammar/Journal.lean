/-!
# The journal

What happens is noted in a journal: a list of notices, each with a level. An action on a state
answers a value or fails with a fault; either way it leaves a state and its notices behind, so that
what was noted before a failure is not lost.
-/

namespace LineGrammar

/-- How much a notice matters. -/
inductive Level where
  | debug
  | info
  | warning
  | error
deriving DecidableEq, Repr

/-- The name of a level. -/
def Level.name : Level → String
  | .debug => "DEBUG"
  | .info => "INFO"
  | .warning => "WARNING"
  | .error => "ERROR"

/-- The rank of a level. -/
def Level.rank : Level → Nat
  | .debug => 0
  | .info => 1
  | .warning => 2
  | .error => 3

/-- One entry of the journal. -/
structure Notice where
  level : Level
  message : String
deriving DecidableEq, Repr

/-- A state with the notices made so far, latest first. -/
structure Noted (σ : Type) where
  state : σ
  notices : List Notice

/-- An action on a state: it answers or fails, and leaves a state and its notices behind. -/
abbrev Action (ε σ α : Type) := ExceptT ε (StateM (Noted σ)) α

namespace Action

variable {ε σ τ α : Type}

/-- The current state. -/
def state : Action ε σ σ := fun noted => (.ok noted.state, noted)

/-- Puts another state in place. -/
def setState (state : σ) : Action ε σ Unit :=
  fun noted => (.ok (), { noted with state := state })

/-- Changes the state. -/
def modifyState (change : σ → σ) : Action ε σ Unit :=
  fun noted => (.ok (), { noted with state := change noted.state })

/-- Notes a message. -/
def note (level : Level) (message : String) : Action ε σ Unit :=
  fun noted => (.ok (), { noted with notices := ⟨level, message⟩ :: noted.notices })

/-- Fails with a fault. -/
def refuse (fault : ε) : Action ε σ α := fun noted => (.error fault, noted)

/-- Answers a result that is already there, or fails with it. -/
def ofExcept : Except ε α → Action ε σ α
  | .ok value => fun noted => (.ok value, noted)
  | .error fault => fun noted => (.error fault, noted)

/-- Runs an action and answers its outcome, so that a failure does not end what follows. -/
def outcome (action : Action ε σ α) : Action ε σ (Except ε α) := fun noted =>
  match action noted with
  | (result, noted) => (.ok result, noted)

/-- Runs an action on a part of the state. -/
def within (get : σ → τ) (put : τ → σ → σ) (action : Action ε τ α) : Action ε σ α := fun noted =>
  match action ⟨get noted.state, noted.notices⟩ with
  | (result, inner) => (result, ⟨put inner.state noted.state, inner.notices⟩)

/-- Runs an action from a state: its outcome, the state it leaves, and its notices in the order in
which they were made. -/
def runFrom (action : Action ε σ α) (state : σ) : Except ε α × σ × List Notice :=
  match action ⟨state, []⟩ with
  | (result, noted) => (result, noted.state, noted.notices.reverse)

end Action

end LineGrammar
