import LineGrammar.Journal
import Mathlib.Data.List.Forall2

/-!
# What actions do

An action is followed step by step: what each basic action answers and leaves behind, and how one
action goes on after another. What holds of a whole action is said by `Action.Ensures`, from a
condition on the state before it to one on its outcome and the state after it. `Action.Keeps` is the
case of a condition that stays true, whether the action succeeds or fails, and `Action.Gives` adds the
outcome to it.

Notices are left out of these conditions: no action reads them.
-/

namespace LineGrammar.Action

variable {ε σ τ α β : Type} {noted next : Noted σ} {action first : Action ε σ α}
  {then_ : α → Action ε σ β}

/-! ## Single steps -/

/-- A value is answered without doing anything. -/
@[simp] theorem pure_apply (value : α) (noted : Noted σ) :
    (pure value : Action ε σ α) noted = (.ok value, noted) := rfl

/-- The state is answered and left as it is. -/
@[simp] theorem state_apply (noted : Noted σ) :
    (state : Action ε σ σ) noted = (.ok noted.state, noted) := rfl

/-- A state is put in the place of the old one. -/
@[simp] theorem setState_apply (after : σ) (noted : Noted σ) :
    (setState after : Action ε σ Unit) noted = (.ok (), { noted with state := after }) := rfl

/-- A change is made to the state. -/
@[simp] theorem modifyState_apply (change : σ → σ) (noted : Noted σ) :
    (modifyState change : Action ε σ Unit) noted =
      (.ok (), { noted with state := change noted.state }) := rfl

/-- A message is put before those that were noted earlier. -/
@[simp] theorem note_apply (level : Level) (message : String) (noted : Noted σ) :
    (note level message : Action ε σ Unit) noted =
      (.ok (), { noted with notices := ⟨level, message⟩ :: noted.notices }) := rfl

/-- A refusal fails and leaves everything as it is. -/
@[simp] theorem refuse_apply (fault : ε) (noted : Noted σ) :
    (refuse fault : Action ε σ α) noted = (.error fault, noted) := rfl

/-- A result that is already there is answered, whether it is a value or a fault. -/
@[simp] theorem ofExcept_apply (result : Except ε α) (noted : Noted σ) :
    (ofExcept result : Action ε σ α) noted = (result, noted) := by
  cases result <;> rfl

/-- The outcome of an action is answered as a value, so that nothing fails. -/
@[simp] theorem outcome_apply (action : Action ε σ α) (noted : Noted σ) :
    outcome action noted = (.ok (action noted).1, (action noted).2) := rfl

/-- An action on a part of the state leaves the other parts alone. -/
@[simp] theorem within_apply (get : σ → τ) (put : τ → σ → σ) (action : Action ε τ α)
    (noted : Noted σ) :
    within get put action noted =
      ((action ⟨get noted.state, noted.notices⟩).1,
        ⟨put (action ⟨get noted.state, noted.notices⟩).2.state noted.state,
          (action ⟨get noted.state, noted.notices⟩).2.notices⟩) := rfl

/-- After a success, the rest of an action goes on from the state that was left. -/
theorem bind_of_ok {value : α} (taken : first noted = (.ok value, next)) :
    (first >>= then_) noted = then_ value next := by
  change (first noted >>= fun done => ExceptT.bindCont then_ done.1 done.2 : Id _) = _
  rw [taken]
  rfl

/-- After a failure, nothing more is done. -/
theorem bind_of_error {fault : ε} (failed : first noted = (.error fault, next)) :
    (first >>= then_) noted = (.error fault, next) := by
  change (first noted >>= fun done => ExceptT.bindCont then_ done.1 done.2 : Id _) = _
  rw [failed]
  rfl

/-- An action that looks at the state first goes on with it. -/
@[simp] theorem state_bind (next : σ → Action ε σ β) :
    ((state : Action ε σ σ) >>= next) noted = next noted.state noted :=
  bind_of_ok rfl

/-! ## Conditions on outcomes and states -/

/-- From every state with the first condition, an action leaves an outcome and a state with the
second. -/
def Ensures (before : σ → Prop) (action : Action ε σ α) (after : Except ε α → σ → Prop) : Prop :=
  ∀ noted, before noted.state → after (action noted).1 (action noted).2.state

/-- An action leaves a condition on the state true, whatever its outcome is. -/
def Keeps (holds : σ → Prop) (action : Action ε σ α) : Prop :=
  Ensures holds action fun _ => holds

/-- Two actions after one another lead from the first condition to the last, if a fault of the first of them
meets the last condition as well. -/
theorem Ensures.bind {before : σ → Prop} {middle : Except ε α → σ → Prop}
    {after : Except ε β → σ → Prop} (one : Ensures before first middle)
    (two : ∀ value, Ensures (middle (.ok value)) (then_ value) after)
    (failed : ∀ fault state, middle (.error fault) state → after (.error fault) state) :
    Ensures before (first >>= then_) after := by
  intro noted holds
  have reached := one noted holds
  cases ran : first noted with
  | mk outcome next =>
    rw [ran] at reached
    cases outcome with
    | ok value =>
      rw [bind_of_ok ran]
      exact two value next reached
    | error fault =>
      rw [bind_of_error ran]
      exact failed fault next.state reached

namespace Keeps

variable {holds : σ → Prop}

/-- An answered value keeps every condition. -/
theorem pure (value : α) : Keeps holds (Pure.pure value : Action ε σ α) := fun _ true_ => true_

/-- A refusal keeps every condition. -/
theorem refuse (fault : ε) : Keeps holds (Action.refuse fault : Action ε σ α) := fun _ true_ => true_

/-- An action whose outcome is answered as a value keeps what it keeps by itself. -/
theorem outcome (kept : Keeps holds action) : Keeps holds (Action.outcome action) :=
  fun noted true_ => kept noted true_

/-- Two actions after one another keep what both of them keep. -/
theorem bind (one : Keeps holds first) (two : ∀ value, Keeps holds (then_ value)) :
    Keeps holds (first >>= then_) :=
  Ensures.bind one two fun _ _ true_ => true_

/-- An action that looks at the state first may use what holds of it. -/
theorem bind_state {next : σ → Action ε σ β}
    (kept : ∀ noted, holds noted.state → holds (next noted.state noted).2.state) :
    Keeps holds (Action.state >>= next) := fun noted true_ => by
  rw [state_bind]
  exact kept noted true_

/-- An action that is taken for each of some values keeps what it keeps for every one of them. -/
theorem mapM {each : α → Action ε σ β} {values : List α}
    (kept : ∀ value ∈ values, Keeps holds (each value)) : Keeps holds (values.mapM each) := by
  induction values with
  | nil => exact pure []
  | cons value rest ih =>
    rw [List.mapM_cons]
    refine bind (kept value (by simp)) fun first => bind (ih fun other listed => ?_) fun more => ?_
    · exact kept other (List.mem_cons_of_mem _ listed)
    · exact pure _

end Keeps

/-- From every state with a condition, an action answers a given outcome and leaves the condition true. -/
def Gives (holds : σ → Prop) (action : Action ε σ α) (outcome : Except ε α) : Prop :=
  Ensures holds action fun given state => given = outcome ∧ holds state

namespace Gives

variable {holds : σ → Prop}

/-- An answered value is given under every condition. -/
theorem pure (value : α) : Gives holds (Pure.pure value : Action ε σ α) (.ok value) :=
  fun _ true_ => ⟨rfl, true_⟩

/-- Actions after one another give what their outcomes give after one another. -/
theorem bind {outcome : Except ε α} {outcomes : α → Except ε β} (one : Gives holds first outcome)
    (two : ∀ value, Gives holds (then_ value) (outcomes value)) :
    Gives holds (first >>= then_) (outcome >>= outcomes) := by
  refine Ensures.bind one (fun value noted ⟨same, true_⟩ => ?_) fun fault state ⟨same, true_⟩ => ?_
  · subst same
    exact two value noted true_
  · subst same
    exact ⟨rfl, true_⟩

/-- An action that is taken for each of some values gives the outcomes of them all, up to the first
fault. -/
theorem mapM {each : α → Action ε σ β} {outcomes : α → Except ε β} {values : List α}
    (one : ∀ value ∈ values, Gives holds (each value) (outcomes value)) :
    Gives holds (values.mapM each) (values.mapM outcomes) := by
  induction values with
  | nil => exact pure []
  | cons value rest ih =>
    rw [List.mapM_cons, List.mapM_cons]
    exact bind (one value List.mem_cons_self) fun first =>
      bind (ih fun other listed => one other (List.mem_cons_of_mem _ listed)) fun _ => pure _

end Gives

end LineGrammar.Action
