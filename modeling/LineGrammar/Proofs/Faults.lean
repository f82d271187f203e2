import LineGrammar.Proofs.Splitters

/-!
# How compilation fails

Compilation puts a pattern together and has it read, and it does the same with a splitter for every list.
Under types whose fragments stand alone, neither is ever refused. So an expression fails to compile only
for what it says itself: for its brackets, for a constraint on a word without a sigil, or for a type that
nobody has registered. These are faults of grammar, which callers expect.

A table may hold a fragment that closes the parenthesis it is placed in and hides what follows. It has
passed the registration, and an expression that uses it is refused as a pattern.
-/

namespace LineGrammar

open LineGrammar.Text LineGrammar.Pattern LineGrammar.Phrase

/-- A fault of an expression itself. -/
inductive Expression.AtFault (text : String) : Fault → Prop
  | brackets (problem : StructureProblem) (position : Int) :
    AtFault text (.malformed problem (some text) (some position))
  | sigil (name segment : String) : AtFault text (.missingSigil name (some segment))
  | type (name : String) : AtFault text (.unknownType name)

/-- The faults of an expression are faults of grammar. -/
theorem Expression.AtFault.isGrammar {text : String} {fault : Fault}
    (atFault : Expression.AtFault text fault) : fault.isGrammar = true := by
  cases atFault <;> rfl

/-- An outline cannot be read only where the brackets of the expression do not fit. -/
theorem Outline.malformed_of_readFrom {expression : String} {chars : List Char} {position : Nat}
    {groups : List OpenGroup} {current : Outline} {run : List Char} {fault : Fault}
    (failed : readFrom expression chars position groups current run = .error fault) :
    ∃ problem position, fault = .malformed problem (some expression) (some position) := by
  fun_induction readFrom expression chars position groups current run with
  | case1 => cases failed
  | case2 =>
    cases failed
    exact ⟨_, _, rfl⟩
  | case3 rest position groups current run ih => exact ih failed
  | case4 =>
    cases failed
    exact ⟨_, _, rfl⟩
  | case5 rest position group groups current run ih => exact ih failed
  | case6 c rest position groups current run _ _ _ ih => exact ih failed

/-- A piece makes no token only when it is a word with a constraint. -/
theorem Token.missingSigil_of_ofPiece {segment : String} {piece : Piece} {fault : Fault}
    (failed : ofPiece segment piece = .error fault) :
    ∃ name, fault = .missingSigil name (some segment) := by
  unfold ofPiece at failed
  split at failed
  · cases failed
  · split at failed
    · split at failed
      · cases failed
        exact ⟨_, rfl⟩
      · cases failed
    · cases failed
    · cases failed

section Standing

variable {types : TypeTable} {text : String} {fault : Fault}

/-- A segment fails to compile only for what it says itself. -/
theorem atFault_of_segmentCompiled (standing : types.Standing) {segment : String}
    (failed : segmentCompiled types segment = .error fault) : Expression.AtFault text fault := by
  rcases Except.bind_eq_error.mp failed with unscanned | ⟨tokens, -, rest⟩
  · obtain ⟨piece, -, failed⟩ := Except.exists_of_mapM_eq_error unscanned
    obtain ⟨name, rfl⟩ := Token.missingSigil_of_ofPiece failed
    exact .sigil name segment
  · rcases Except.bind_eq_error.mp rest with uncompiled | ⟨parts, -, made⟩
    · obtain ⟨token, -, failed⟩ := Except.exists_of_mapM_eq_error uncompiled
      obtain ⟨name, -, -, rfl⟩ := Token.unknownType_of_compiled standing.splitting failed
      exact .type name
    · cases made

/-- An outline fails to compile only for what its segments say. -/
theorem Outline.atFault_of_compiled (standing : types.Standing) {outline : Outline}
    (failed : outline.compiled types = .error fault) : Expression.AtFault text fault := by
  induction outline with
  | done => cases failed
  | segment content rest ih =>
    rcases Except.bind_eq_error.mp failed with here | ⟨_, -, others⟩
    · exact atFault_of_segmentCompiled standing here
    · rcases Except.bind_eq_error.mp others with behind | ⟨_, -, made⟩
      · exact ih behind
      · cases made
  | optional inner rest ihInner ih =>
    rcases Except.bind_eq_error.mp failed with inside | ⟨_, -, others⟩
    · exact ihInner inside
    · rcases Except.bind_eq_error.mp others with behind | ⟨_, -, made⟩
      · exact ih behind
      · cases made

/-- The pattern for the whole lines of a phrase is read, with one group for each token that captures. -/
theorem Phrase.read_wholeLine (standing : types.Standing) {phrase : Phrase} {body : String}
    {captures : List Capture} (read : Phrase.of text = .ok phrase)
    (compiled : phrase.compiled types = .ok (body, captures)) :
    ∃ pattern, Pattern.read (Expression.wholeLine body) .none = .ok pattern ∧
      pattern.groups = phrase.capturing.length := by
  have named := fun token listed => (Phrase.of_wellFormed read token listed).named
  obtain ⟨items, spelled⟩ := wholeLine_standing standing named compiled
  exact ⟨_, spelled.spells.read_eq, rfl⟩

/-- Under standing types, an expression compiles unless it is at fault itself. -/
theorem Expression.compile_or_atFault (standing : types.Standing) (text : String) :
    (∃ expression, Expression.compile types text = .ok expression) ∨
      ∃ fault, Expression.compile types text = .error fault ∧ Expression.AtFault text fault := by
  cases compiled : Expression.compile types text with
  | ok expression => exact .inl ⟨expression, rfl⟩
  | error fault =>
    refine .inr ⟨fault, rfl, ?_⟩
    rcases Except.bind_eq_error.mp compiled with unread | ⟨outline, read, rest⟩
    · obtain ⟨problem, position, rfl⟩ := Outline.malformed_of_readFrom unread
      exact .brackets problem position
    · rcases Except.bind_eq_error.mp rest with uncompiled | ⟨⟨body, captures⟩, parts, finished⟩
      · exact Outline.atFault_of_compiled standing uncompiled
      · obtain ⟨phrase, isPhrase, along⟩ := Outline.compiled_eq_ok.mp parts
        obtain ⟨pattern, isPattern, -⟩ := Phrase.read_wholeLine standing
          (Except.bind_eq_ok.mpr ⟨outline, read, isPhrase⟩) along
        simp only [isPattern] at finished
        cases finished

end Standing

namespace Expression

/-- As long as what is registered stands alone, an expression either compiles or fails for a fault of its
own, whatever has been asked of the table before. -/
theorem compile_ok_or_atFault {start : TypeTable} (fresh : start.Fresh)
    {requests : List TypeTable.Request} (sound : ∀ request ∈ requests, request.Sound) (text : String) :
    (∃ expression, Expression.compile (requests.foldl TypeTable.after start) text = .ok expression) ∨
      ∃ fault, Expression.compile (requests.foldl TypeTable.after start) text = .error fault ∧
        AtFault text fault :=
  compile_or_atFault (fresh.standing.run sound) text

/-- A list of one of two words compiles. -/
theorem compile_ok_or_atFault_choice :
    ∃ expression, Expression.compile
      ([.register "T" "left|right" none].foldl TypeTable.after .numeric) "go *x@T" = .ok expression := by
  have sound : ∀ request ∈ [TypeTable.Request.register "T" "left|right" none], request.Sound := by
    decide +kernel
  have compiles : (Expression.compile
      ([.register "T" "left|right" none].foldl TypeTable.after .numeric) "go *x@T").toOption.isSome =
        true := by
    decide +kernel
  rcases compile_ok_or_atFault (.inl rfl) sound "go *x@T" with compiled | ⟨fault, failed, -⟩
  · exact compiled
  · rw [failed] at compiles
    cases compiles

/-- A fragment may close the parenthesis that it is placed in and begin a remark. Its registration is
accepted, but a list of the type is refused as a pattern, which is no fault of the expression. -/
theorem compile_refused :
    ∃ fault, Expression.compile
      ([.register "T" "a)(?#" none].foldl TypeTable.after .numeric) "w *xs@T" = .error fault ∧
        ¬AtFault "w *xs@T" fault := by
  have refused : (((Expression.compile ([.register "T" "a)(?#" none].foldl TypeTable.after .numeric)
      "w *xs@T").map fun _ => true).tryCatch fun fault => .ok fault.isGrammar).toOption = some false := by
    decide +kernel
  cases failed : Expression.compile ([.register "T" "a)(?#" none].foldl TypeTable.after .numeric)
      "w *xs@T" with
  | ok expression =>
    rw [failed] at refused
    cases refused
  | error fault =>
    rw [failed] at refused
    refine ⟨fault, rfl, fun atFault => ?_⟩
    have grammar : fault.isGrammar = false := Option.some.inj refused
    rw [atFault.isGrammar] at grammar
    cases grammar

end Expression

end LineGrammar
