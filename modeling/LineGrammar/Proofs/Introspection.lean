import LineGrammar.Expression.Explanation
import LineGrammar.Proofs.Faults
import LineGrammar.Proofs.Workbench

/-!
# Explanations and compiled expressions

An explanation shows the nodes of an expression without asking for any type. A compiler goes through the
same outline and puts the pattern together on the way. The two are compared along a walk through the
nodes of the explanation, depth first: each group is entered and left around what it holds, and each token
is met once. `Visit.Adds` says what a visit adds to the pattern and to the captures, and `Visit.Add` what
a walk adds.

A type that is missing keeps an expression from being compiled, but not from being explained. Where the
types are there, no token fails, so both computations stop at the same place, if they stop
(`Except.Along`). What remains is that a pattern is refused as a whole, and that is no fault of structure.
-/

namespace LineGrammar

open LineGrammar.Text

/-- Whether a fault is one of the structure of an expression: its brackets do not fit, or a word has a
constraint. -/
def Fault.isStructure : Fault → Bool
  | .malformed .. | .missingSigil .. => true
  | _ => false

/-! ## Types that are asked for -/

/-- The types that the tokens of a segment ask for. A piece that makes no token asks for none. -/
def Token.references (segment : String) : List String :=
  (pieces segment.toList).filterMap fun piece => (ofPiece segment piece).toOption.bind (·.type)

/-- The types that the tokens of an outline ask for. -/
def Outline.references : Outline → List String
  | done => []
  | segment text rest => Token.references text ++ rest.references
  | optional inner rest => inner.references ++ rest.references

/-- The types that the tokens of an expression ask for. -/
def Expression.references (text : String) : List String :=
  match Outline.read text with
  | .ok outline => outline.references
  | .error _ => []

namespace Token

variable {types : TypeTable} {segment : String} {tokens : List Token} {token : Token}

/-- A type that a token of a scanned segment asks for is one that the segment names. -/
theorem mem_references_of_scan (scanned : scan segment = .ok tokens) (listed : token ∈ tokens)
    {name : String} (asked : token.type = some name) : name ∈ references segment := by
  obtain ⟨piece, among, made⟩ := Except.exists_of_mem_mapM scanned listed
  exact List.mem_filterMap.mpr ⟨piece, among, by simp [made, Except.toOption, asked]⟩

/-- Free text is of no type. -/
theorem type_of_freeText {piece : Piece} (made : ofPiece segment piece = .ok token)
    (free : token.kind = .freeText) : token.type = none := by
  unfold ofPiece at made
  split at made
  · cases made
    rfl
  · split at made
    · split at made <;> cases made
      rfl
    · cases made
      rfl
    · rename_i kind apart _
      cases made
      exact absurd free apart

/-- A token is given the type that it names. -/
theorem type_eq_of_typeIn (named : types.Each fun name type => type.name = name)
    {type : Option ValueType} (typed : token.typeIn types = .ok type) :
    token.type = type.map (·.name) := by
  unfold typeIn at typed
  split at typed
  · rename_i asked
    cases typed
    exact asked
  · rename_i name asked
    split at typed
    · rename_i found
      cases typed
      rw [asked, Option.map_some, named name _ found]
    · cases typed

/-- A token whose type is there compiles. -/
theorem exists_compiled (splitting : types.Splitting)
    (known : ∀ name, token.type = some name → types.contains name = true) :
    ∃ part, token.compiled types = .ok part := by
  cases compiled : token.compiled types with
  | ok part => exact ⟨part, rfl⟩
  | error fault =>
    obtain ⟨name, asked, missing, -⟩ := unknownType_of_compiled splitting compiled
    have present : (types.lookup name).isSome = true := known name asked
    rw [missing] at present
    cases present

end Token

/-! ## Walks -/

/-- What is met on a walk through an expression: the begin and the end of a group, or a token. -/
inductive Visit where
  | enter
  | leave
  | token (data : Document)

mutual

/-- The walk through a node of an explanation. -/
def Document.walk : Document → List Visit
  | .record [("segment", .text _), ("tokens", .list tokens)] => tokens.map .token
  | .record [("optional", .list parts)] => .enter :: walkAll parts ++ [.leave]
  | _ => []

/-- The walk through several nodes of an explanation. -/
def Document.walkAll : List Document → List Visit
  | [] => []
  | node :: rest => node.walk ++ walkAll rest

end

namespace Visit

/-- The capture that an explained token stands for, as data: its name and kind, the type if it shows one,
and whether it is a list. Words, symbols and groups stand for none. -/
def capture? : Visit → Option Document
  | token (.record fields) =>
    match Document.field? "kind" fields, Document.field? "name" fields with
    | some (.text kind), some name =>
      if kind ∈ ["free_text", "argument", "argument_list"] then
        some (.record [("name", name), ("kind", .text kind),
          ("type", (Document.field? "type" fields).getD .null),
          ("list", .boolean (kind == "argument_list"))])
      else none
    | _, _ => none
  | _ => none

/-- What a visit adds to the pattern of an expression, and to its captures. -/
inductive Adds (types : TypeTable) : Visit → String × List Capture → Prop
  | enter : Adds types .enter ("(?:", [])
  | leave : Adds types .leave (")??", [])
  | token {segment : String} {piece : Token.Piece} {token : Token} {part : String × List Capture}
    (made : Token.ofPiece segment piece = .ok token) (compiled : token.compiled types = .ok part) :
    Adds types (.token token.described) part

/-- What several visits add, one after the other. -/
def Add (types : TypeTable) (visits : List Visit) (whole : String × List Capture) : Prop :=
  ∃ parts, List.Forall₂ (Adds types) visits parts ∧ joined parts = whole

variable {types : TypeTable}

/-- What an explained token shows as a capture. -/
theorem capture?_described (token : Token) :
    capture? (.token token.described) =
      if token.kind.captures then
        some (.record [("name", .text token.name), ("kind", .text token.kind.name),
          ("type", (token.type.map Document.text).getD .null),
          ("list", .boolean (token.kind = .argumentList))])
      else none := by
  obtain ⟨kind, name, remark, reference, choices⟩ := token
  cases kind <;> cases remark <;> cases reference <;> cases choices <;> rfl

/-- An explained token stands for the captures that it adds. -/
theorem Adds.capture? (named : types.Each fun name type => type.name = name) {visit : Visit}
    {part : String × List Capture} (adds : Adds types visit part) :
    visit.capture?.toList = part.2.map Capture.described := by
  cases adds with
  | enter => rfl
  | leave => rfl
  | @token _ _ token _ made compiled =>
    rw [capture?_described]
    obtain ⟨kind, name, remark, reference, choices⟩ := token
    cases kind with
    | symbol =>
      cases compiled
      rfl
    | word =>
      cases compiled
      rfl
    | freeText =>
      obtain rfl : reference = none := Token.type_of_freeText made rfl
      cases compiled
      rfl
    | argument =>
      obtain ⟨type, typed, same⟩ := Except.bind_eq_ok.mp compiled
      cases same
      obtain rfl : reference = _ := Token.type_eq_of_typeIn named typed
      cases type <;> rfl
    | argumentList =>
      obtain ⟨type, typed, rest⟩ := Except.bind_eq_ok.mp compiled
      obtain ⟨splitter, -, same⟩ := Except.bind_eq_ok.mp rest
      cases same
      obtain rfl : reference = _ := Token.type_eq_of_typeIn named typed
      cases type <;> rfl

/-- Fragments and captures of two lists are joined one behind the other. -/
theorem joined_append (front back : List (String × List Capture)) :
    joined (front ++ back) =
      ((joined front).1 ++ (joined back).1, (joined front).2 ++ (joined back).2) := by
  induction front with
  | nil => simp [joined]
  | cons part front ih => simp [joined, ih, String.append_assoc]

namespace Add

variable {visits others : List Visit} {fragment after : String} {captures more : List Capture}

/-- No visits add nothing. -/
theorem nil : Add types [] ("", []) := ⟨[], .nil, rfl⟩

/-- A visit adds its fragment and its captures before those of the rest. -/
theorem cons {visit : Visit} (adds : Adds types visit (fragment, captures))
    (rest : Add types visits (after, more)) :
    Add types (visit :: visits) (fragment ++ after, captures ++ more) := by
  obtain ⟨parts, each, same⟩ := rest
  exact ⟨(fragment, captures) :: parts, .cons adds each, by simp [joined, same]⟩

/-- Visits one behind the other add one behind the other. -/
theorem append (first : Add types visits (fragment, captures)) (rest : Add types others (after, more)) :
    Add types (visits ++ others) (fragment ++ after, captures ++ more) := by
  obtain ⟨parts, each, same⟩ := first
  obtain ⟨later, eachLater, sameLater⟩ := rest
  exact ⟨parts ++ later, List.rel_append each eachLater, by simp [joined_append, same, sameLater]⟩

/-- The captures that are added are those that the explained tokens stand for. -/
theorem filterMap_capture? (named : types.Each fun name type => type.name = name)
    (add : Add types visits (fragment, captures)) :
    visits.filterMap Visit.capture? = captures.map Capture.described := by
  obtain ⟨parts, each, same⟩ := add
  obtain rfl : (joined parts).2 = captures := congrArg Prod.snd same
  clear same
  induction each with
  | nil => rfl
  | @cons visit part visits parts here _ ih =>
    calc (visit :: visits).filterMap Visit.capture?
        = visit.capture?.toList ++ visits.filterMap Visit.capture? := by
          cases shown : visit.capture? <;> simp [shown]
      _ = part.2.map Capture.described ++ (joined parts).2.map Capture.described := by
          rw [here.capture? named, ih]
      _ = (joined (part :: parts)).2.map Capture.described := List.map_append.symm

end Add

end Visit

/-! ## Computations side by side -/

/-- Two computations give related values, or they fail at one fault. -/
inductive Except.Along {ε α β : Type} (related : α → β → Prop) : Except ε α → Except ε β → Prop
  | ok {a : α} {b : β} (here : related a b) : Along related (.ok a) (.ok b)
  | error (fault : ε) : Along related (.error fault) (.error fault)

/-- Related computations go on related, with the same fault. -/
theorem Except.Along.bind {ε α β γ δ : Type} {related : α → β → Prop} {relatedNext : γ → δ → Prop}
    {one : Except ε α} {two : Except ε β} {next : α → Except ε γ} {nextTwo : β → Except ε δ}
    (first : Along related one two)
    (others : ∀ a b, related a b → Along relatedNext (next a) (nextTwo b)) :
    Along relatedNext (one >>= next) (two >>= nextTwo) := by
  cases first with
  | ok here => exact others _ _ here
  | error fault => exact .error fault

section Known

variable {types : TypeTable}

/-- A segment compiles when its tokens can be made, and each of them adds its part. -/
theorem scan_along_segmentCompiled (splitting : types.Splitting) {segment : String}
    (known : ∀ name ∈ Token.references segment, types.contains name = true) :
    Except.Along (fun tokens => Visit.Add types (tokens.map fun token => .token token.described))
      (Token.scan segment) (segmentCompiled types segment) := by
  unfold segmentCompiled
  cases scanned : Token.scan segment with
  | error fault => exact .error fault
  | ok tokens =>
    have scannedEach : ∀ token ∈ tokens, ∃ piece, Token.ofPiece segment piece = .ok token :=
      fun token listed =>
        let ⟨piece, _, made⟩ := Except.exists_of_mem_mapM scanned listed
        ⟨piece, made⟩
    change Except.Along _ _ (tokens.mapM (Token.compiled types) >>= fun parts => .ok (joined parts))
    cases compiled : tokens.mapM (Token.compiled types) with
    | error fault =>
      obtain ⟨token, listed, failed⟩ := Except.exists_of_mapM_eq_error compiled
      obtain ⟨part, made⟩ := Token.exists_compiled splitting fun name asked =>
        known name (Token.mem_references_of_scan scanned listed asked)
      cases made.symm.trans failed
    | ok parts =>
      have each := (List.forall₂_and_left _ _).mpr ⟨scannedEach, Except.mapM_eq_ok.mp compiled⟩
      refine .ok ⟨parts, List.forall₂_map_left_iff.mpr (each.imp ?_), rfl⟩
      rintro token part ⟨⟨piece, made⟩, compiled⟩
      exact .token made compiled

/-- An outline compiles when it can be explained, and the walk through its nodes adds what it is compiled
to. -/
theorem Outline.explainedParts_along (splitting : types.Splitting) {outline : Outline}
    (known : ∀ name ∈ outline.references, types.contains name = true) :
    Except.Along (fun nodes => Visit.Add types (Document.walkAll nodes)) outline.explainedParts
      (outline.compiled types) := by
  induction outline with
  | done => exact .ok .nil
  | segment text rest ih =>
    have knownHere := fun name among => known name (List.mem_append_left _ among)
    have knownAfter := fun name among => known name (List.mem_append_right _ among)
    refine (scan_along_segmentCompiled splitting knownHere).bind fun tokens part here => ?_
    refine (ih knownAfter).bind fun nodes others later => ?_
    exact .ok (by simpa [Document.walkAll, Document.walk, Function.comp_def] using here.append later)
  | optional inner rest ihInner ih =>
    have knownInside := fun name among => known name (List.mem_append_left _ among)
    have knownAfter := fun name among => known name (List.mem_append_right _ among)
    refine (ihInner knownInside).bind fun inside group within => ?_
    refine (ih knownAfter).bind fun nodes others later => ?_
    have whole := Visit.Add.cons .enter (within.append (Visit.Add.cons .leave later))
    exact .ok (by simpa [Document.walkAll, Document.walk, String.append_assoc] using whole)

end Known

/-- An outline cannot be explained only when a word in it has a constraint. -/
theorem Outline.isStructure_of_explainedParts {outline : Outline} {fault : Fault}
    (failed : outline.explainedParts = .error fault) : fault.isStructure = true := by
  induction outline with
  | done => cases failed
  | segment text rest ih =>
    rcases Except.bind_eq_error.mp failed with unscanned | ⟨tokens, -, others⟩
    · obtain ⟨piece, -, unmade⟩ := Except.exists_of_mapM_eq_error unscanned
      obtain ⟨name, rfl⟩ := Token.missingSigil_of_ofPiece unmade
      rfl
    · rcases Except.bind_eq_error.mp others with behind | ⟨_, -, made⟩
      · exact ih behind
      · cases made
  | optional inner rest ihInner ih =>
    rcases Except.bind_eq_error.mp failed with inside | ⟨_, -, others⟩
    · exact ihInner inside
    · rcases Except.bind_eq_error.mp others with behind | ⟨_, -, made⟩
      · exact ih behind
      · cases made

namespace Expression

variable {types : TypeTable} {text : String}

/-- Where the types are there, an expression fails with its explanation at one fault of structure, or it
is compiled to what the walk through the nodes of its explanation adds, unless this is refused as a
pattern. -/
theorem explained_cases (splitting : types.Splitting)
    (known : ∀ name ∈ references text, types.contains name = true) :
    (∃ fault, explained text = .error fault ∧ compile types text = .error fault ∧
        fault.isStructure = true) ∨
      ∃ nodes body captures,
        explained text = .ok (.record [("expression", .text text), ("nodes", .list nodes)]) ∧
        Visit.Add types (Document.walkAll nodes) (body, captures) ∧
        compile types text =
          match Pattern.read (wholeLine body) .none with
          | .ok pattern => .ok { text, pattern, captures }
          | .error refusal => .error (.pattern (wholeLine body) refusal) := by
  unfold explained compile
  cases read : Outline.read text with
  | error fault =>
    obtain ⟨problem, position, rfl⟩ := Outline.malformed_of_readFrom read
    exact .inl ⟨_, rfl, rfl, rfl⟩
  | ok outline =>
    have knownThere : ∀ name ∈ outline.references, types.contains name = true := by
      rwa [references, read] at known
    have along := Outline.explainedParts_along splitting knownThere
    have atFault : ∀ fault, outline.explainedParts = .error fault → fault.isStructure = true :=
      fun _ => Outline.isStructure_of_explainedParts
    change (∃ fault, (outline.explainedParts >>= _) = _ ∧ (outline.compiled types >>= _) = _ ∧ _) ∨
      ∃ nodes body captures, (outline.explainedParts >>= _) = _ ∧ _ ∧ (outline.compiled types >>= _) = _
    generalize outline.explainedParts = nodes at along atFault ⊢
    generalize outline.compiled types = part at along ⊢
    cases along with
    | error fault => exact .inl ⟨fault, rfl, rfl, atFault fault rfl⟩
    | ok adds => exact .inr ⟨_, _, _, rfl, adds, rfl⟩

/-- Where the types are there, the faults of explanations are the faults of structure that a compilation
meets. -/
theorem explained_eq_error (splitting : types.Splitting)
    (known : ∀ name ∈ references text, types.contains name = true) (fault : Fault) :
    explained text = .error fault ↔ compile types text = .error fault ∧ fault.isStructure = true := by
  rcases explained_cases splitting known with
    ⟨found, unexplained, failed, structural⟩ | ⟨nodes, body, captures, isExplained, -, compiled⟩
  · rw [unexplained, failed, Except.error.injEq, Except.error.injEq]
    exact ⟨fun one => ⟨one, one ▸ structural⟩, And.left⟩
  · rw [isExplained, compiled]
    cases Pattern.read (wholeLine body) .none with
    | ok pattern => simp
    | error refusal =>
      constructor
      · intro unexplained
        cases unexplained
      · rintro ⟨refused, structural⟩
        cases refused
        cases structural

/-- An expression with an explanation is compiled to what the walk through the nodes adds, unless this is
refused as a pattern. -/
theorem compile_of_explained (splitting : types.Splitting)
    (known : ∀ name ∈ references text, types.contains name = true) {data : Document}
    (isExplained : explained text = .ok data) :
    ∃ nodes body captures, data = .record [("expression", .text text), ("nodes", .list nodes)] ∧
      Visit.Add types (Document.walkAll nodes) (body, captures) ∧
      (∀ expression, compile types text = .ok expression →
        expression.captures = captures ∧ expression.pattern.source = wholeLine body) ∧
      ∀ fault, compile types text = .error fault → ∃ refusal,
        fault = .pattern (wholeLine body) refusal ∧
          Pattern.read (wholeLine body) .none = .error refusal := by
  rcases explained_cases splitting known with
    ⟨found, unexplained, -, -⟩ | ⟨nodes, body, captures, shown, adds, compiled⟩
  · cases unexplained.symm.trans isExplained
  · cases shown.symm.trans isExplained
    refine ⟨nodes, body, captures, rfl, adds, ?_⟩
    rw [compiled]
    cases isPattern : Pattern.read (wholeLine body) .none with
    | ok pattern =>
      refine ⟨fun expression finished => ?_, fun fault refused => ?_⟩
      · cases finished
        obtain ⟨_, -, -, -, -, source⟩ := Pattern.exists_of_read isPattern
        exact ⟨rfl, source⟩
      · cases refused
    | error refusal =>
      refine ⟨fun expression finished => ?_, fun fault refused => ?_⟩
      · cases finished
      · cases refused
        exact ⟨refusal, rfl, rfl⟩

end Expression

namespace Workbench

/-- A table stays one of those that there are, whatever happens on a workbench. -/
theorem made_run {bench : Workbench} (made : bench.types.Made) (events : List Event) :
    (bench.run events).types.Made := by
  induction events generalizing bench with
  | nil => exact made
  | cons event events ih =>
    refine ih ?_
    cases event with
    | types request => exact made.after request
    | build => exact made
    | compile index text => exact made

/-- An explanation and a compiler agree. Where the types of an expression are there, the expression has
no explanation exactly when the compiler meets a fault of structure, and it is the same fault. If it has
one, the walk through the nodes adds, visit by visit, the captures of the compiled expression and the text
of its pattern, with a group for each optional node; the captures are those that the tokens of the
explanation stand for; and the compiler fails only when this text is refused as a pattern. -/
theorem explanation_agrees {types : TypeTable} (made : types.Made) {events : List Event} {index : Nat}
    {compiler : Compiler} (present : (run ⟨types, []⟩ events).compilers[index]? = some compiler)
    {text : String}
    (known : ∀ name ∈ Expression.references text,
      (run ⟨types, []⟩ events).types.contains name = true) :
    let bench := run ⟨types, []⟩ events
    let answer := compiler.answer bench.types text
    (∀ fault, explained text = .error fault ↔ answer = .error fault ∧ fault.isStructure = true) ∧
    ∀ data, explained text = .ok data → ∃ nodes body captures,
      data = .record [("expression", .text text), ("nodes", .list nodes)] ∧
      (Document.walkAll nodes).filterMap Visit.capture? = captures.map Capture.described ∧
      Visit.Add bench.types (Document.walkAll nodes) (body, captures) ∧
      (∀ result, answer = .ok result → result.expression.captures = captures ∧
        result.expression.pattern.source = Expression.wholeLine body) ∧
      ∀ fault, answer = .error fault → ∃ refusal,
        fault = .pattern (Expression.wholeLine body) refusal ∧
          Pattern.read (Expression.wholeLine body) .none = .error refusal := by
  intro bench answer
  have sound : bench.Sound := Sound.run (by simp [Sound]) events
  have faithful := (sound compiler (List.mem_of_getElem? present)).1
  have madeThere : bench.types.Made := made_run made events
  refine ⟨fun fault => ?_, fun data isExplained => ?_⟩
  · rw [faithful.answer_eq_error]
    exact Expression.explained_eq_error madeThere.splitting known fault
  · obtain ⟨nodes, body, captures, shown, adds, compiled, refused⟩ :=
      Expression.compile_of_explained madeThere.splitting known isExplained
    exact ⟨nodes, body, captures, shown, adds.filterMap_capture? madeThere.name_eq, adds,
      fun result answered => compiled _ (faithful.compile_of_answer answered),
      fun fault failed => refused fault (faithful.answer_eq_error.mp failed)⟩

/-- Ports, and a remark in a group: both succeed, under a type that was registered. -/
theorem explanation_agrees_ports :
    let bench := run ⟨.empty, []⟩ [.types (.register "Port" "\\d+" none), .build]
    ∃ compiler data result nodes, bench.compilers[0]? = some compiler ∧
      explained "open *ports@Port [+remark]" = .ok data ∧
      compiler.answer bench.types "open *ports@Port [+remark]" = .ok result ∧
      result.expression.names = ["ports", "remark"] ∧
      data = .record [("expression", .text "open *ports@Port [+remark]"), ("nodes", .list nodes)] ∧
      (Document.walkAll nodes).filterMap Visit.capture? =
        result.expression.captures.map Capture.described := by
  intro bench
  have known : ∀ name ∈ Expression.references "open *ports@Port [+remark]",
      bench.types.contains name = true := by
    decide +kernel
  have explains : (explained "open *ports@Port [+remark]").toOption.isSome = true := by
    decide +kernel
  have works : ((compilers bench)[0]?.any fun compiler =>
      (compiler.answer bench.types "open *ports@Port [+remark]").toOption.any fun result =>
        result.expression.names = ["ports", "remark"]) = true := by
    decide +kernel
  obtain ⟨data, isExplained⟩ := Option.isSome_iff_exists.mp explains
  obtain ⟨compiler, present, works⟩ := (Option.any_eq_true _ _).mp works
  obtain ⟨result, answered, named⟩ := (Option.any_eq_true _ _).mp works
  have isExplained := Except.eq_ok_of_toOption isExplained
  have answered := Except.eq_ok_of_toOption answered
  obtain ⟨-, agree⟩ := explanation_agrees (.fresh (.inr rfl)) present known
  obtain ⟨nodes, body, captures, shown, same, -, compiled, -⟩ := agree data isExplained
  obtain ⟨rfl, -⟩ := compiled result answered
  exact ⟨compiler, data, result, nodes, present, isExplained, answered, of_decide_eq_true named, shown,
    same⟩

end Workbench

end LineGrammar
