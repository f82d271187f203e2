import LineGrammar.Proofs.Introspection

/-!
# Types that an expression does not refer to

A table of types is asked for nothing but the types that the tokens of an expression name. So two tables
that agree on these names give one result. A request changes what is found under its own name, and under no
other. Both together make types that are not referred to invisible: whatever is registered or taken out
under other names, an expression compiles as before, or fails as before.

The number of changes is no part of it. A compiler compares that number before it answers, so what is said
here is about one that has kept nothing yet.
-/

namespace LineGrammar

open LineGrammar.Text

/-! ## Requests about other names -/

namespace TypeTable

/-- Whether a request is about the type of a name. To go back to the first types is about every name. -/
def Request.Concerns (name : String) : Request → Prop
  | .register other _ _ => other = name
  | .unregister other => other = name
  | .reset => True

/-- Some names have the same types in two tables. -/
def AgreeOn (names : List String) (types other : TypeTable) : Prop :=
  ∀ name ∈ names, types.lookup name = other.lookup name

variable {types other : TypeTable} {name : String} {request : Request}

/-- A request leaves the type of any other name as it is. -/
theorem lookup_after (apart : ¬request.Concerns name) :
    (types.after request).lookup name = types.lookup name := by
  cases request with
  | register own fragment conversion =>
    have differs : name ≠ own := Ne.symm apart
    rw [after, registerNoted_state, register]
    cases obstacle? own fragment with
    | some fault => rfl
    | none =>
      change (types.types.insert own _).get? name = types.types.get? name
      rw [Table.get?_insert, if_neg differs]
  | unregister own =>
    have differs : name ≠ own := Ne.symm apart
    rw [after, unregister]
    split
    · change (types.types.erase own).get? name = types.types.get? name
      rw [Table.get?_erase, if_neg differs]
    · rfl
  | reset => exact absurd trivial apart

/-- So do any requests about other names. -/
theorem lookup_run {requests : List Request} (apart : ∀ request ∈ requests, ¬request.Concerns name) :
    (requests.foldl after types).lookup name = types.lookup name := by
  induction requests generalizing types with
  | nil => rfl
  | cons request rest ih =>
    obtain ⟨first, others⟩ := List.forall_mem_cons.mp apart
    rw [List.foldl_cons, ih others, lookup_after first]

end TypeTable

/-! ## What is asked of the types -/

/-- Computations that agree on all inputs of a list agree on the list. -/
theorem Except.mapM_congr {ε α β : Type} {compute other : α → Except ε β} {inputs : List α}
    (each : ∀ input ∈ inputs, compute input = other input) :
    inputs.mapM compute = inputs.mapM other := by
  induction inputs with
  | nil => rfl
  | cons input rest ih =>
    obtain ⟨first, others⟩ := List.forall_mem_cons.mp each
    rw [List.mapM_cons, List.mapM_cons, first, ih others]

section Asked

variable {types other : TypeTable}

/-- The type of a token depends on the entry of its name alone. -/
theorem Token.typeIn_congr {token : Token}
    (same : ∀ name, token.type = some name → types.lookup name = other.lookup name) :
    token.typeIn types = token.typeIn other := by
  unfold typeIn
  split
  · rfl
  · rename_i name asked
    rw [same name asked]

/-- A token asks for its own type only. -/
theorem Token.compiled_congr {token : Token}
    (same : ∀ name, token.type = some name → types.lookup name = other.lookup name) :
    token.compiled types = token.compiled other := by
  unfold compiled
  rw [typeIn_congr same]

/-- What a segment compiles to depends on the types that it names alone. -/
theorem segmentCompiled_congr {segment : String}
    (agree : types.AgreeOn (Token.references segment) other) :
    segmentCompiled types segment = segmentCompiled other segment := by
  unfold segmentCompiled
  cases scanned : Token.scan segment with
  | error fault => rfl
  | ok tokens =>
    have each : ∀ token ∈ tokens, token.compiled types = token.compiled other := by
      intro token listed
      apply Token.compiled_congr
      intro name asked
      exact agree name (Token.mem_references_of_scan scanned listed asked)
    have parts : tokens.mapM (Token.compiled types) = tokens.mapM (Token.compiled other) :=
      Except.mapM_congr each
    change (tokens.mapM (Token.compiled types) >>= fun parts => .ok (joined parts)) = _
    rw [parts]
    rfl

/-- What an outline compiles to depends on the types that it names alone. -/
theorem Outline.compiled_congr {outline : Outline} (agree : types.AgreeOn outline.references other) :
    outline.compiled types = outline.compiled other := by
  induction outline with
  | done => rfl
  | segment text rest ih =>
    have here : types.AgreeOn (Token.references text) other :=
      fun name asked => agree name (List.mem_append_left _ asked)
    have behind : types.AgreeOn rest.references other :=
      fun name asked => agree name (List.mem_append_right _ asked)
    rw [compiled, compiled, segmentCompiled_congr here, ih behind]
  | optional inner rest ihInner ih =>
    have inside : types.AgreeOn inner.references other :=
      fun name asked => agree name (List.mem_append_left _ asked)
    have behind : types.AgreeOn rest.references other :=
      fun name asked => agree name (List.mem_append_right _ asked)
    rw [compiled, compiled, ihInner inside, ih behind]

/-- Tables that agree on the types that an expression refers to compile it to the same result. -/
theorem Expression.compile_congr {text : String} (agree : types.AgreeOn (references text) other) :
    compile types text = compile other text := by
  unfold compile
  unfold references at agree
  cases read : Outline.read text with
  | error fault => rfl
  | ok outline =>
    rw [read] at agree
    change (outline.compiled types >>= _) = (outline.compiled other >>= _)
    rw [Outline.compiled_congr agree]

end Asked

/-- A compiler that has kept nothing yet answers what the types give, under its first stamp. -/
theorem Compiler.answer_fresh (types : TypeTable) (text : String) :
    (fresh types).answer types text = (Expression.compile types text).map fun expression => ⟨0, expression⟩ := by
  rcases compile_cases types (fresh types) text with
    ⟨_, kept, -⟩ | ⟨fault, failed, answered, -⟩ | ⟨expression, -, compiled, answered, -⟩
  · cases (get?_of_current kept).2
  · rw [answered, failed]
    rfl
  · rw [answered, compiled]
    rfl

namespace Expression

variable {text : String} {requests : List TypeTable.Request}

/-- Whatever is registered or taken out under names that an expression does not refer to, a new compiler
answers the expression as before, with the same fault or the same pattern and captures, and every line is
read as before. -/
theorem compile_independent (types : TypeTable)
    (unrelated : ∀ name ∈ references text, ∀ request ∈ requests, ¬request.Concerns name) :
    (Compiler.fresh (requests.foldl TypeTable.after types)).answer (requests.foldl TypeTable.after types)
        text = (Compiler.fresh types).answer types text ∧
      ∀ line, (compile (requests.foldl TypeTable.after types) text >>= fun expression =>
        expression.read line) = compile types text >>= fun expression => expression.read line := by
  have agree : (requests.foldl TypeTable.after types).AgreeOn (references text) types :=
    fun name asked => TypeTable.lookup_run (unrelated name asked)
  rw [Compiler.answer_fresh, Compiler.answer_fresh, compile_congr agree]
  exact ⟨rfl, fun _ => rfl⟩

/-- A pattern that is refused, new types, one of them in the place of an old one, and the loss of a type: none
of them is referred to, and none of them shows. -/
theorem compile_independent_port :
    let types := [.register "Port" "\\d+" none].foldl TypeTable.after .numeric
    let later := [.register "Side" "(" none, .register "Side" "left|right" none, .unregister "Float",
      .register "Integer" "x" none].foldl TypeTable.after types
    ∃ answered, (Compiler.fresh later).answer later "listen :on@Port" = .ok answered ∧
      (Compiler.fresh types).answer types "listen :on@Port" = .ok answered := by
  intro types later
  have refers : references "listen :on@Port" = ["Port"] := by decide
  have unrelated : ∀ name ∈ references "listen :on@Port",
      ∀ request ∈ [TypeTable.Request.register "Side" "(" none, .register "Side" "left|right" none,
        .unregister "Float", .register "Integer" "x" none], ¬request.Concerns name := by
    rw [refers]
    simp [TypeTable.Request.Concerns]
  have compiles : (compile types "listen :on@Port").toOption.isSome = true := by decide +kernel
  obtain ⟨same, -⟩ := compile_independent types unrelated
  cases compiled : compile types "listen :on@Port" with
  | error fault =>
    rw [compiled] at compiles
    cases compiles
  | ok expression =>
    have answered : (Compiler.fresh types).answer types "listen :on@Port" = .ok ⟨0, expression⟩ := by
      rw [Compiler.answer_fresh, compiled]
      rfl
    exact ⟨_, same.trans answered, answered⟩

end Expression

end LineGrammar
