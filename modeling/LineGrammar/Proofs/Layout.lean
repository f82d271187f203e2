import LineGrammar.Proofs.Faults
import LineGrammar.Proofs.Outlines
import LineGrammar.Proofs.Respacing

/-!
# The layout of an expression

Three readers meet the white space of an expression: the outline trims its segments, the scan of a segment
passes over it between tokens, and an annotation takes it in. From respaced texts the outline has the same
groups with respaced segments, and each segment the same tokens but for annotations, which nothing is
compiled from.

So an expression and a respaced one compile to the same pattern with the same captures, or they fail for
faults that differ in nothing but the place they show.
-/

namespace LineGrammar

open LineGrammar.Text

/-! ## Faults without their places -/

/-- A fault without the place it shows. -/
def Fault.unplaced : Fault → Fault
  | .malformed problem _ _ => .malformed problem none none
  | .missingSigil name _ => .missingSigil name none
  | fault => fault

/-- Two computations give related values, or they fail for faults that are the same but for their places. -/
inductive Except.Alike {α β : Type} (related : α → β → Prop) : Except Fault α → Except Fault β → Prop
  | ok {a : α} {b : β} (here : related a b) : Alike related (.ok a) (.ok b)
  | error {fault other : Fault} (same : fault.unplaced = other.unplaced) :
    Alike related (.error fault) (.error other)

namespace Except.Alike

variable {α β γ δ : Type} {related : α → β → Prop} {relatedNext : γ → δ → Prop}

/-- A computation is like itself. -/
theorem of_eq (computed : Except Fault α) : Alike Eq computed computed := by
  cases computed with
  | ok value => exact .ok rfl
  | error fault => exact .error rfl

/-- Like computations go on alike. -/
theorem bind {one : Except Fault α} {two : Except Fault β} {next : α → Except Fault γ}
    {nextTwo : β → Except Fault δ} (first : Alike related one two)
    (others : ∀ a b, related a b → Alike relatedNext (next a) (nextTwo b)) :
    Alike relatedNext (one >>= next) (two >>= nextTwo) := by
  cases first with
  | ok here => exact others _ _ here
  | error same => exact .error same

/-- Like computations for each of some values are alike. -/
theorem mapM {f : α → Except Fault γ} {g : β → Except Fault δ}
    (each : ∀ a b, related a b → Alike relatedNext (f a) (g b)) {as : List α} {bs : List β}
    (listed : List.Forall₂ related as bs) :
    Alike (List.Forall₂ relatedNext) (as.mapM f) (bs.mapM g) := by
  induction listed with
  | nil => exact .ok .nil
  | cons here _ ih =>
    rw [List.mapM_cons, List.mapM_cons]
    refine (each _ _ here).bind fun c d first => ?_
    exact ih.bind fun cs ds rest => .ok (.cons first rest)

end Except.Alike

/-! ## Tokens -/

namespace Token

/-- A token without its annotation. -/
def unremarked (token : Token) : Token := { token with remark := none }

variable {segment other : String}

/-- Pieces that differ in their annotations alone become tokens that do, or fail alike. -/
theorem ofPiece_alike {piece otherPiece : Piece} (same : piece.unremarked = otherPiece.unremarked) :
    Except.Alike (fun token otherToken => token.unremarked = otherToken.unremarked)
      (ofPiece segment piece) (ofPiece other otherPiece) := by
  cases piece with
  | symbol text =>
    cases otherPiece with
    | symbol =>
      cases same
      exact .ok rfl
    | named => cases same
  | named sigil name remark type choices =>
    cases otherPiece with
    | symbol => cases same
    | named =>
      cases same
      unfold ofPiece
      dsimp only
      split
      · split
        · exact .error rfl
        · exact .ok rfl
      · exact .ok rfl
      · exact .ok rfl

/-- Segments that differ in their white space are scanned alike, up to annotations. -/
theorem scan_alike (respaced : Respaced segment.toList other.toList) :
    Except.Alike (List.Forall₂ fun token otherToken => token.unremarked = otherToken.unremarked)
      (scan segment) (scan other) := by
  unfold scan
  exact .mapM (fun _ _ same => ofPiece_alike same) (pieces_respaced respaced)

/-- An annotation does not go into the pattern. -/
theorem compiled_eq_of_unremarked (types : TypeTable) {token otherToken : Token}
    (same : token.unremarked = otherToken.unremarked) :
    token.compiled types = otherToken.compiled types := by
  change token.unremarked.compiled types = otherToken.unremarked.compiled types
  rw [same]

end Token

/-! ## Outlines -/

namespace Outline

/-- Outlines with the same groups, whose segments are respaced. -/
inductive Respaced : Outline → Outline → Prop
  | done : Respaced done done
  | segment {text other : String} {one two : Outline} (here : Text.Respaced text.toList other.toList)
    (rest : Respaced one two) : Respaced (segment text one) (segment other two)
  | optional {inner other one two : Outline} (inside : Respaced inner other) (rest : Respaced one two) :
    Respaced (optional inner one) (optional other two)

variable {one two more others : Outline}

namespace Respaced

/-- Outlines that differ in their white space do so one behind the other. -/
theorem append (front : Respaced one two) (back : Respaced more others) :
    Respaced (one.append more) (two.append others) := by
  induction front with
  | done => exact back
  | segment here _ ih => exact .segment here ih
  | optional inside _ _ ih => exact .optional inside ih

/-- Runs of text that differ in their white space may be added to such outlines. -/
theorem addText {run other : List Char} (before : Respaced one two) (respaced : Text.Respaced run other) :
    Respaced (one.addText run) (two.addText other) := by
  have trimmed := respaced.trim
  have empty : (trim run).isEmpty = (trim other).isEmpty := by
    rw [Bool.eq_iff_iff, List.isEmpty_iff, List.isEmpty_iff, trimmed.eq_nil_iff]
  unfold Outline.addText
  dsimp only
  rw [empty]
  split
  · exact before
  · exact before.append (.segment (by simpa using trimmed) .done)

end Respaced

/-- White space is no bracket. -/
theorem not_isBracket_of_isSpace {c : Char} (space : isSpace c = true) : isBracket c = false := by
  simp only [isBracket, Bool.or_eq_false_iff, beq_eq_false_iff_ne]
  constructor <;> rintro rfl
  · exact absurd space (by decide)
  · exact absurd space (by decide)

/-- From respaced texts the same groups are read, after respaced beginnings. -/
theorem readFrom_respaced (expression other : String) {rest restTwo run runTwo : List Char}
    (respaced : Text.Respaced rest restTwo) (position positionTwo : Nat)
    {groups groupsTwo : List OpenGroup}
    (opened : List.Forall₂ (fun group other => Respaced group.before other.before) groups groupsTwo)
    (before : Respaced one two) (behind : Text.Respaced run.reverse runTwo.reverse) :
    Except.Alike Respaced (readFrom expression rest position groups one run)
      (readFrom other restTwo positionTwo groupsTwo two runTwo) := by
  induction respaced generalizing position positionTwo groups groupsTwo one two run runTwo with
  | nil =>
    cases opened with
    | nil => exact .ok (before.addText behind)
    | cons => exact .error rfl
  | gap isLeft isRight rest ih =>
    have plain {gap : List Char} (is : IsGap gap) : ∀ c ∈ gap, isBracket c = false :=
      fun c inside => not_isBracket_of_isSpace (is.blank c inside)
    rw [readFrom_text (plain isLeft), readFrom_text (plain isRight)]
    apply ih _ _ opened before
    rw [List.reverse_append, List.reverse_append, List.reverse_reverse, List.reverse_reverse]
    exact behind.append (.of_gap isLeft isRight)
  | @visible c rest restTwo visible _ ih =>
    have longer := behind.append (.visible visible .nil)
    by_cases opening : c = '['
    · subst opening
      exact ih _ _ (.cons (before.addText behind) opened) .done .nil
    by_cases closing : c = ']'
    · subst closing
      cases opened with
      | nil => exact .error rfl
      | cons outer opened =>
        exact ih _ _ opened (outer.append (.optional (before.addText behind) .done)) .nil
    · rw [readFrom_plain expression opening closing, readFrom_plain other opening closing]
      apply ih _ _ opened before
      rw [List.reverse_cons, List.reverse_cons]
      exact longer

variable {types : TypeTable}

/-- Segments that differ in their white space compile to the same, or fail alike. -/
theorem segmentCompiled_alike {text other : String} (respaced : Text.Respaced text.toList other.toList) :
    Except.Alike Eq (segmentCompiled types text) (segmentCompiled types other) := by
  refine (Token.scan_alike respaced).bind fun tokens otherTokens same => ?_
  have compiled : Except.Alike (List.Forall₂ Eq) (tokens.mapM (Token.compiled types))
      (otherTokens.mapM (Token.compiled types)) :=
    .mapM (fun _ _ same => Token.compiled_eq_of_unremarked types same ▸ .of_eq _) same
  refine compiled.bind fun parts others same => ?_
  rw [List.forall₂_eq_eq_eq] at same
  exact .ok (congrArg joined same)

/-- Outlines that differ in their white space compile to the same, or fail alike. -/
theorem compiled_alike (respaced : Respaced one two) :
    Except.Alike Eq (one.compiled types) (two.compiled types) := by
  induction respaced with
  | done => exact .ok rfl
  | segment here _ ih =>
    refine (segmentCompiled_alike here).bind fun part _ same => ?_
    subst same
    refine ih.bind fun others _ same => ?_
    subst same
    exact .ok rfl
  | optional _ _ ihInner ih =>
    refine ihInner.bind fun part _ same => ?_
    subst same
    refine ih.bind fun others _ same => ?_
    subst same
    exact .ok rfl

end Outline

namespace Expression

/-- Respaced expressions compile to the same pattern with the same captures, or fail alike. -/
theorem compile_alike (types : TypeTable) {text other : String}
    (respaced : Respaced text.toList other.toList) :
    Except.Alike (fun expression other => expression.pattern = other.pattern ∧
        expression.captures = other.captures)
      (compile types text) (compile types other) := by
  have nothing : Text.Respaced [].reverse [].reverse := .nil
  have outlines := Outline.readFrom_respaced text other respaced 0 0 .nil .done nothing
  refine outlines.bind fun outline otherOutline same => ?_
  refine (Outline.compiled_alike same).bind fun part _ same => ?_
  subst same
  obtain ⟨body, captures⟩ := part
  dsimp only
  cases Pattern.read (wholeLine body) .none with
  | ok pattern => exact .ok ⟨rfl, rfl⟩
  | error refusal => exact .error rfl

variable {before after left right : String}

/-- White space in an expression, wherever it stands, can be exchanged for other white space: the
expression then compiles to the same pattern with the same captures, or it fails as before, with the same
fault up to the place that is shown. -/
theorem compile_layout (types : TypeTable) (isLeft : IsGap left.toList) (isRight : IsGap right.toList) :
    (∃ expression other, compile types (before ++ left ++ after) = .ok expression ∧
      compile types (before ++ right ++ after) = .ok other ∧
      expression.pattern = other.pattern ∧ expression.captures = other.captures) ∨
    ∃ fault other, compile types (before ++ left ++ after) = .error fault ∧
      compile types (before ++ right ++ after) = .error other ∧ fault.unplaced = other.unplaced := by
  have respaced : Respaced (before ++ left ++ after).toList (before ++ right ++ after).toList := by
    simp only [String.toList_append, List.append_assoc]
    exact (Respaced.refl _).append (.gap isLeft isRight (.refl _))
  have alike := compile_alike types respaced
  generalize compile types (before ++ left ++ after) = one at alike ⊢
  generalize compile types (before ++ right ++ after) = two at alike ⊢
  cases alike with
  | ok same => exact .inl ⟨_, _, rfl, rfl, same⟩
  | error same => exact .inr ⟨_, _, rfl, rfl, same⟩

/-- A space in an annotation is exchanged for a line feed and a tab. -/
theorem compile_layout_remark :
    ∃ expression other, compile .numeric "set :n<the number>@Integer [now]" = .ok expression ∧
      compile .numeric "set :n<the\n\tnumber>@Integer [now]" = .ok other ∧
      expression.pattern = other.pattern ∧ expression.captures = other.captures := by
  have space : IsGap " ".toList := ⟨by decide, by decide⟩
  have lines : IsGap "\n\t".toList := ⟨by decide, by decide⟩
  have one : "set :n<the" ++ " " ++ "number>@Integer [now]" = "set :n<the number>@Integer [now]" := by
    decide
  have two : "set :n<the" ++ "\n\t" ++ "number>@Integer [now]" =
      "set :n<the\n\tnumber>@Integer [now]" := by
    decide
  have compiles : (compile .numeric "set :n<the number>@Integer [now]").toOption.isSome = true := by
    decide +kernel
  rw [← one, ← two]
  rcases compile_layout .numeric space lines with compiled | ⟨fault, other, failed, -⟩
  · exact compiled
  · rw [← one, failed] at compiles
    cases compiles

end Expression

end LineGrammar
