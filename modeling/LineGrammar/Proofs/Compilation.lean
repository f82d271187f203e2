import LineGrammar.Compiler
import LineGrammar.Proofs.Actions
import LineGrammar.Proofs.Phrase

/-!
# Compilers and the types they work on

A compiler that keeps its results answers as one that keeps none. `Compiler.Faithful` is the
invariant behind it: a compiler is never ahead of the types, and as long as it is level with them it
keeps only what they give at present. Every change of the types leaves the compiler behind, so it
drops its results before it answers again.

A stamp stands for the object that was answered. `Compiler.Issued` says of a result that its stamp
will not be given to another one. Runs of several compilers on one table are not followed here.
-/

namespace LineGrammar

/-! ## Changes of the types -/

namespace TypeTable

variable {types : TypeTable} {name fragment : String} {conversion : Option Conversion}

/-- A registration answers the type and leaves the changed table behind, or it fails and leaves the old
one. -/
theorem registerNoted_apply (types : TypeTable) (name fragment : String)
    (conversion : Option Conversion) (notices : List Notice) :
    ∃ later, registerNoted name fragment conversion ⟨types, notices⟩ =
      match types.register name fragment conversion with
      | .ok changed => (.ok ⟨name, fragment, conversion⟩, ⟨changed, later⟩)
      | .error fault => (.error fault, ⟨types, later⟩) := by
  rw [registerNoted, Action.state_bind]
  cases registered : types.register name fragment conversion with
  | error fault => exact ⟨notices, Action.bind_of_error (Action.ofExcept_apply _ _)⟩
  | ok changed =>
    rw [Action.bind_of_ok (Action.ofExcept_apply _ _)]
    cases types.contains name <;> exact ⟨_, rfl⟩

/-- Registering with notices changes the types as registering does, and not at all when it fails. -/
theorem registerNoted_state (types : TypeTable) (name fragment : String)
    (conversion : Option Conversion) (notices : List Notice) :
    (registerNoted name fragment conversion ⟨types, notices⟩).2.state =
      match types.register name fragment conversion with
      | .ok changed => changed
      | .error _ => types := by
  obtain ⟨later, ended⟩ := registerNoted_apply types name fragment conversion notices
  rw [ended]
  cases types.register name fragment conversion <;> rfl

/-- What may be asked of a table of types. -/
inductive Request where
  | register (name fragment : String) (conversion : Option Conversion)
  | unregister (name : String)
  | reset

/-- Whether a request changes the types: a fragment may be unfit, a name unknown. -/
def Request.Changes (types : TypeTable) : Request → Prop
  | .register name fragment _ => obstacle? name fragment = none
  | .unregister name => types.contains name = true
  | .reset => True

/-- The table after a request. A registration that fails leaves it as it was. -/
def after (types : TypeTable) : Request → TypeTable
  | .register name fragment conversion => (registerNoted name fragment conversion ⟨types, []⟩).2.state
  | .unregister name => types.unregister name
  | .reset => types.reset

/-- A request that changes the types counts up; any other one leaves them alone. -/
theorem after_cases (types : TypeTable) (request : Request) :
    (request.Changes types ∧ types.version < (types.after request).version) ∨
      (¬request.Changes types ∧ types.after request = types) := by
  cases request with
  | register name fragment conversion =>
    simp only [Request.Changes, after, registerNoted_state]
    cases obstacle : obstacle? name fragment with
    | none => exact .inl ⟨rfl, by simp [register, obstacle]⟩
    | some fault => exact .inr ⟨by simp, by simp [register, obstacle]⟩
  | unregister name =>
    simp only [Request.Changes, after, unregister]
    by_cases known : types.contains name = true
    · exact .inl ⟨known, by simp [known]⟩
    · exact .inr ⟨known, by simp [known]⟩
  | reset => exact .inl ⟨trivial, Nat.lt_succ_self _⟩

end TypeTable

/-! ## One compilation -/

/-- A compiled expression keeps its text. -/
theorem Expression.text_of_compile {types : TypeTable} {text : String} {expression : Expression}
    (compiled : Expression.compile types text = .ok expression) : expression.text = text := by
  obtain ⟨_, _, _, _, _, _, _, rfl⟩ := Expression.compile_eq_ok.mp compiled
  rfl

namespace Compiler

variable {types : TypeTable} {compiler : Compiler} {text : String} {notices : List Notice}

/-- What a compiler answers. -/
def answer (compiler : Compiler) (types : TypeTable) (text : String) : Except Fault Stamped :=
  (compile types text ⟨compiler, []⟩).1

/-- The compiler after an answer. -/
def after (compiler : Compiler) (types : TypeTable) (text : String) : Compiler :=
  (compile types text ⟨compiler, []⟩).2.state

/-- A compiler that is current has the version of the types. -/
@[simp] theorem current_version (compiler : Compiler) (types : TypeTable) :
    (compiler.current types).version = types.version := by
  unfold current
  split
  · assumption
  · rfl

/-- To become current takes no stamp. -/
@[simp] theorem current_next (compiler : Compiler) (types : TypeTable) :
    (compiler.current types).next = compiler.next := by
  unfold current
  split <;> rfl

/-- What is still kept under the types of now was kept before. -/
theorem get?_of_current {result : Stamped}
    (kept : (compiler.current types).results.get? text = some result) :
    compiler.version = types.version ∧ compiler.results.get? text = some result := by
  unfold current at kept
  split at kept
  · exact ⟨‹_›, kept⟩
  · cases kept

/-- A kept result is answered. -/
theorem compile_kept {result : Stamped}
    (kept : (compiler.current types).results.get? text = some result) :
    compile types text ⟨compiler, notices⟩ = (.ok result, ⟨compiler.current types, notices⟩) := by
  rw [compile, Action.bind_of_ok (Action.modifyState_apply _ _), Action.state_bind]
  simp only [kept]
  rfl

/-- An expression that does not compile leaves no result behind. -/
theorem compile_failed {fault : Fault}
    (unknown : (compiler.current types).results.get? text = none)
    (failed : Expression.compile types text = .error fault) :
    compile types text ⟨compiler, notices⟩ = (.error fault, ⟨compiler.current types, notices⟩) := by
  rw [compile, Action.bind_of_ok (Action.modifyState_apply _ _), Action.state_bind]
  simp only [unknown, failed]
  rfl

/-- A new result takes the next stamp and is kept. -/
theorem compile_new {expression : Expression}
    (unknown : (compiler.current types).results.get? text = none)
    (compiled : Expression.compile types text = .ok expression) :
    compile types text ⟨compiler, notices⟩ =
      (.ok ⟨compiler.next, expression⟩, ⟨(compiler.current types).keep expression,
        ⟨.debug, noticeOf expression⟩ :: notices⟩) := by
  rw [compile, Action.bind_of_ok (Action.modifyState_apply _ _), Action.state_bind]
  simp only [unknown, compiled]
  conv_rhs => rw [← current_next compiler types]
  rfl

/-- The three ways in which a compilation goes. -/
theorem compile_cases (types : TypeTable) (compiler : Compiler) (text : String) :
    (∃ result, (compiler.current types).results.get? text = some result ∧
      compiler.answer types text = .ok result ∧ compiler.after types text = compiler.current types) ∨
    (∃ fault, Expression.compile types text = .error fault ∧
      compiler.answer types text = .error fault ∧
      compiler.after types text = compiler.current types) ∨
    (∃ expression, (compiler.current types).results.get? text = none ∧
      Expression.compile types text = .ok expression ∧
      compiler.answer types text = .ok ⟨compiler.next, expression⟩ ∧
      compiler.after types text = (compiler.current types).keep expression) := by
  unfold answer after
  cases kept : (compiler.current types).results.get? text with
  | some result => exact .inl ⟨result, rfl, by rw [compile_kept kept], by rw [compile_kept kept]⟩
  | none =>
    cases compiled : Expression.compile types text with
    | error fault =>
      have failed : compile types text ⟨compiler, []⟩ = _ := compile_failed kept compiled
      exact .inr (.inl ⟨fault, rfl, by rw [failed], by rw [failed]⟩)
    | ok expression =>
      have new : compile types text ⟨compiler, []⟩ = _ := compile_new kept compiled
      exact .inr (.inr ⟨expression, rfl, rfl, by rw [new], by rw [new]⟩)

/-- Notices that are there already change neither the answer nor the compiler after it. -/
theorem compile_noted (types : TypeTable) (compiler : Compiler) (text : String)
    (notices : List Notice) : ∃ later, compile types text ⟨compiler, notices⟩ =
      (compiler.answer types text, ⟨compiler.after types text, later⟩) := by
  unfold answer after
  cases kept : (compiler.current types).results.get? text with
  | some result => exact ⟨notices, by rw [compile_kept kept, compile_kept kept]⟩
  | none =>
    cases compiled : Expression.compile types text with
    | error fault => exact ⟨notices, by rw [compile_failed kept compiled, compile_failed kept compiled]⟩
    | ok expression => exact ⟨_, by rw [compile_new kept compiled, compile_new kept compiled]⟩

/-- What a compiler answers to several expressions, up to the first that does not compile, and the
compiler after them. -/
def answerAll (types : TypeTable) : Compiler → List String → Except Fault (List Stamped) × Compiler
  | compiler, [] => (.ok [], compiler)
  | compiler, text :: rest =>
    match compiler.answer types text with
    | .error fault => (.error fault, compiler.after types text)
    | .ok result =>
      let others := answerAll types (compiler.after types text) rest
      (others.1.map (result :: ·), others.2)

/-! ## What a compiler keeps -/

/-- A compiler is not ahead of the types, and while it is level with them, what it keeps is what they
give. -/
structure Faithful (types : TypeTable) (compiler : Compiler) : Prop where
  behind : compiler.version ≤ types.version
  results : compiler.version = types.version → ∀ text result,
    compiler.results.get? text = some result →
      Expression.compile types text = .ok result.expression

namespace Faithful

/-- A fresh compiler keeps nothing, so it is faithful. -/
theorem fresh (types : TypeTable) : Faithful types (.fresh types) where
  behind := Nat.le_refl _
  results _ _ _ kept := by cases kept

/-- A change of the types leaves a compiler behind. -/
theorem later {changed : TypeTable} (faithful : Faithful types compiler)
    (newer : types.version < changed.version) : Faithful changed compiler where
  behind := Nat.le_of_lt (Nat.lt_of_le_of_lt faithful.behind newer)
  results level := by
    have behind := faithful.behind
    omega

/-- A faithful compiler stays so when it becomes current. -/
theorem current (faithful : Faithful types compiler) :
    Faithful types (compiler.current types) where
  behind := Nat.le_of_eq (current_version compiler types)
  results _ text result kept :=
    faithful.results (get?_of_current kept).1 text result (get?_of_current kept).2

/-- A faithful compiler may keep what the types give. -/
theorem keep (faithful : Faithful types compiler) {expression : Expression}
    (compiled : Expression.compile types text = .ok expression) :
    Faithful types (compiler.keep expression) where
  behind := faithful.behind
  results level other result kept := by
    have named := Expression.text_of_compile compiled
    simp only [Compiler.keep, Table.get?_insert, named] at kept
    split at kept
    · rename_i same
      cases kept
      rw [same, compiled]
    · exact faithful.results level other result kept

/-- A faithful compiler is faithful after each text. -/
theorem after (faithful : Faithful types compiler) (text : String) :
    Faithful types (compiler.after types text) := by
  rcases compile_cases types compiler text with
    ⟨_, _, _, same⟩ | ⟨_, _, _, same⟩ | ⟨expression, _, compiled, _, same⟩
  · exact same ▸ faithful.current
  · exact same ▸ faithful.current
  · exact same ▸ faithful.current.keep compiled

/-- A faithful compiler answers what the types give, or fails as they do. -/
theorem answer_eq (faithful : Faithful types compiler) (text : String) :
    (compiler.answer types text).map (·.expression) = Expression.compile types text := by
  rcases compile_cases types compiler text with
    ⟨result, kept, answered, _⟩ | ⟨fault, failed, answered, _⟩ | ⟨expression, _, compiled, answered, _⟩
  · rw [answered, faithful.current.results (current_version _ _) text result kept]
    rfl
  · rw [answered, failed]
    rfl
  · rw [answered, compiled]
    rfl

/-- A faithful compiler fails as the types do. -/
theorem answer_eq_error {fault : Fault} (faithful : Faithful types compiler) :
    compiler.answer types text = .error fault ↔ Expression.compile types text = .error fault := by
  rw [← faithful.answer_eq]
  cases compiler.answer types text <;> simp [Except.map]

/-- What a faithful compiler answers is what the types give. -/
theorem compile_of_answer {result : Stamped} (faithful : Faithful types compiler)
    (answered : compiler.answer types text = .ok result) :
    Expression.compile types text = .ok result.expression := by
  rw [← faithful.answer_eq, answered]
  rfl

/-- A faithful compiler answers to several expressions what the types give, and stays faithful. -/
theorem answerAll (faithful : Faithful types compiler) (texts : List String) :
    Faithful types (compiler.answerAll types texts).2 ∧
      (compiler.answerAll types texts).1.map (List.map (·.expression)) =
        texts.mapM (Expression.compile types) := by
  induction texts generalizing compiler with
  | nil => exact ⟨faithful, rfl⟩
  | cons text rest ih =>
    have given := faithful.answer_eq text
    obtain ⟨still, others⟩ := ih (faithful.after text)
    rw [List.mapM_cons, ← given, ← others]
    simp only [Compiler.answerAll]
    cases compiler.answer types text with
    | error fault => exact ⟨faithful.after text, rfl⟩
    | ok result =>
      refine ⟨still, ?_⟩
      cases ((compiler.after types text).answerAll types rest).1 <;> rfl

end Faithful

/-- A compiler answers a result as long as it keeps it and is level with the types. -/
theorem answer_kept {result : Stamped} (level : compiler.version = types.version)
    (kept : compiler.results.get? text = some result) : compiler.answer types text = .ok result := by
  have still : (compiler.current types).results.get? text = some result := by
    rwa [current, if_pos level]
  rw [answer, compile_kept still]

/-- What was answered is kept. -/
theorem kept_of_answer {result : Stamped} (answered : compiler.answer types text = .ok result) :
    (compiler.after types text).version = types.version ∧
      (compiler.after types text).results.get? text = some result := by
  rcases compile_cases types compiler text with
    ⟨_, kept, same, left⟩ | ⟨_, _, same, _⟩ | ⟨expression, _, compiled, same, left⟩
  · rw [answered] at same
    cases same
    exact left ▸ ⟨current_version _ _, kept⟩
  · rw [answered] at same
    cases same
  · rw [answered] at same
    cases same
    refine left ▸ ⟨current_version _ _, ?_⟩
    simp [keep, Table.get?_insert, Expression.text_of_compile compiled]

/-- While the types stand still, further compilations keep what is kept. -/
theorem after_keeps {result : Stamped} (level : compiler.version = types.version)
    (kept : compiler.results.get? text = some result) (other : String) :
    (compiler.after types other).version = types.version ∧
      (compiler.after types other).results.get? text = some result := by
  have same : compiler.current types = compiler := if_pos level
  rcases compile_cases types compiler other with
    ⟨_, _, _, left⟩ | ⟨_, _, _, left⟩ | ⟨expression, unknown, compiled, _, left⟩
  · exact left ▸ same.symm ▸ ⟨level, kept⟩
  · exact left ▸ same.symm ▸ ⟨level, kept⟩
  · rw [left, same]
    refine ⟨level, ?_⟩
    have apart : text ≠ other := by
      rintro rfl
      rw [same, kept] at unknown
      cases unknown
    simpa [keep, Table.get?_insert, Expression.text_of_compile compiled, apart] using kept

/-! ## Stamps -/

/-- A result has been given out: its stamp will not be given again, and whatever is kept with this
stamp is the result itself. -/
def Issued (compiler : Compiler) (result : Stamped) : Prop :=
  result.stamp < compiler.next ∧ ∀ text kept, compiler.results.get? text = some kept →
    kept.stamp = result.stamp → kept = result

/-- Everything that a compiler keeps has been given out. -/
def Accountable (compiler : Compiler) : Prop :=
  ∀ text result, compiler.results.get? text = some result → compiler.Issued result

/-- What has been issued stays so when the compiler becomes current. -/
theorem Issued.current {result : Stamped} (issued : compiler.Issued result) :
    (compiler.current types).Issued result :=
  ⟨by simpa using issued.1, fun text kept found => issued.2 text kept (get?_of_current found).2⟩

/-- What has been issued stays so when something else is kept. -/
theorem Issued.keep {result : Stamped} (issued : compiler.Issued result) (expression : Expression) :
    (compiler.keep expression).Issued result := by
  refine ⟨Nat.lt_succ_of_lt issued.1, fun text kept found same => ?_⟩
  rw [Compiler.keep, Table.get?_insert] at found
  split at found
  · cases found
    exact absurd same (Nat.ne_of_gt issued.1)
  · exact issued.2 text kept found same

/-- What has been issued stays so after every text. -/
theorem Issued.after {result : Stamped} (issued : compiler.Issued result) (text : String) :
    (compiler.after types text).Issued result := by
  rcases compile_cases types compiler text with
    ⟨_, _, _, left⟩ | ⟨_, _, _, left⟩ | ⟨expression, _, _, _, left⟩
  · exact left ▸ issued.current
  · exact left ▸ issued.current
  · exact left ▸ issued.current.keep expression

/-- A fresh compiler keeps nothing to account for. -/
theorem Accountable.fresh (types : TypeTable) : Accountable (.fresh types) := by
  intro text result kept
  cases kept

/-- A compiler accounts for what it keeps when it becomes current. -/
theorem Accountable.current (accountable : compiler.Accountable) :
    (compiler.current types).Accountable := fun text result kept =>
  (accountable text result (get?_of_current kept).2).current

/-- What is kept anew has been issued under the next stamp. -/
theorem Accountable.issued_new (accountable : compiler.Accountable) (expression : Expression) :
    (compiler.keep expression).Issued ⟨compiler.next, expression⟩ := by
  refine ⟨Nat.lt_succ_self _, fun text kept found same => ?_⟩
  rw [Compiler.keep, Table.get?_insert] at found
  split at found
  · exact (Option.some.inj found).symm
  · exact absurd same (Nat.ne_of_lt (accountable text kept found).1)

/-- A compiler accounts for what it keeps anew. -/
theorem Accountable.keep (accountable : compiler.Accountable) (expression : Expression) :
    (compiler.keep expression).Accountable := by
  intro text result kept
  rw [Compiler.keep, Table.get?_insert] at kept
  split at kept
  · cases kept
    exact accountable.issued_new expression
  · exact (accountable text result kept).keep expression

/-- A compiler accounts for what it keeps after every text. -/
theorem Accountable.after (accountable : compiler.Accountable) (text : String) :
    (compiler.after types text).Accountable := by
  rcases compile_cases types compiler text with
    ⟨_, _, _, left⟩ | ⟨_, _, _, left⟩ | ⟨expression, _, _, _, left⟩
  · exact left ▸ accountable.current
  · exact left ▸ accountable.current
  · exact left ▸ accountable.current.keep expression

/-- What is answered has been given out. -/
theorem Accountable.issued_of_answer (accountable : compiler.Accountable) {result : Stamped}
    (answered : compiler.answer types text = .ok result) :
    (compiler.after types text).Issued result :=
  accountable.after text text result (kept_of_answer answered).2

/-- An answer with the stamp of an earlier one is the earlier one. -/
theorem Issued.eq_of_answer {earlier result : Stamped} (issued : compiler.Issued earlier)
    (answered : compiler.answer types text = .ok result) (same : result.stamp = earlier.stamp) :
    result = earlier :=
  (issued.after text).2 text result (kept_of_answer answered).2 same

end Compiler

end LineGrammar
