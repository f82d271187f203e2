import LineGrammar.Proofs.Compilation
import LineGrammar.Proofs.Matching
import LineGrammar.Proofs.Pattern.Noting
import LineGrammar.Proofs.Pattern.Standalone

/-!
# Types whose fragments stand alone

A fragment stands alone when it is a pattern on its own, without groups and without switches for the
whole. Such a fragment can be placed as a capture, as an element of a list and in the splitter of the
list, and each time the text around it remains a pattern with the groups that it had. So under types
that all stand alone, what a phrase is compiled to is a pattern with one group for each capture.

The types that are there from the start stand alone, and requests to a table keep it so as long as what
is registered does. A registration itself does not ask for as much.
-/

namespace LineGrammar

open LineGrammar.Text LineGrammar.Pattern LineGrammar.Phrase

/-! ## Fragments -/

/-- A text is a pattern on its own, without groups and without switches for the whole. -/
def Pattern.Standalone (text : String) : Prop :=
  ∃ own, Pattern.read text .none = .ok own ∧ own.groups = 0 ∧ own.switches = .none

namespace Pattern.Standalone

variable {text whole : String}

/-- Whether a text stands alone is found by reading it. -/
theorem iff_read : Standalone text ↔
    (Pattern.read text .none).toOption.any (fun own => own.groups = 0 && own.switches = .none) := by
  unfold Standalone
  cases Pattern.read text .none <;> simp [Except.toOption]

instance : Decidable (Standalone text) := decidable_of_iff _ iff_read.symm

/-- A text that spells items without a group stands alone. -/
theorem of_spells (spelled : ∃ items, Spells text.toList 0 items) : Standalone text := by
  obtain ⟨items, spelled⟩ := spelled
  exact ⟨_, spelled.read_eq, rfl, rfl⟩

/-- A unit stands alone. -/
theorem of_isUnit {pieces : Language Char} (unit : IsUnit .none text.toList pieces) :
    Standalone text := by
  obtain ⟨items, spelled, -⟩ := unit.run
  exact of_spells ⟨_, spelled⟩

/-- A text that spells items may stand before a fragment. -/
theorem behind (standalone : Standalone text) {front : List Char}
    {items : Nat → List (Node × Standing)} (before : Spells front 0 items)
    (written : whole.toList = front ++ text.toList) : Standalone whole := by
  obtain ⟨own, alone, groups, switches⟩ := standalone
  obtain ⟨level, stands, -⟩ := Stands.of_read alone groups switches
  exact stands.between before Spells.nil Bounded.nil (by simpa using written)

/-- A text that spells items and begins with an edge may stand behind a fragment. -/
theorem before (standalone : Standalone text) {back : List Char}
    {items : Nat → List (Node × Standing)} (after : Spells back 0 items)
    (bounded : Bounded (Symbol.ofChars back)) (written : whole.toList = text.toList ++ back) :
    Standalone whole := by
  obtain ⟨own, alone, groups, switches⟩ := standalone
  obtain ⟨level, stands, -⟩ := Stands.of_read alone groups switches
  exact stands.between Spells.nil after bounded (by simpa using written)

/-- A fragment in parentheses is an operand. -/
theorem group (standalone : Standalone text) {opening : List Char} {counted : Nat}
    {bracket : Nat → Bracket} (opens : Opens opening counted bracket) :
    ∃ node, Operand (opening ++ text.toList ++ [')']) counted node := by
  obtain ⟨own, alone, groups, switches⟩ := standalone
  obtain ⟨nodes, enclosed, -⟩ := Enclosed.of_read alone groups switches
  exact ⟨_, enclosed.group opens⟩

/-- Elements with separators between them stand alone when one element does. -/
theorem oneOrMoreOf (standalone : Standalone text) : Standalone (Fragment.oneOrMoreOf text) := by
  obtain ⟨items, separator, -⟩ := IsUnit.separator.run
  obtain ⟨node, turn⟩ := Standalone.group (standalone.behind separator
    (String.toList_append (s := Fragment.listSeparator) (t := text))) Opens.plain
  have turns := Spells.lazy turn (by simp) .star
  have opening : Bounded (Symbol.ofChars (['(', '?', ':'] ++
      (Fragment.listSeparator ++ text).toList ++ [')'] ++ ['*', '?'])) := by
    rw [List.append_assoc, List.append_assoc, List.cons_append, Symbol.ofChars_plain (by decide)]
    exact .opening _
  have list : Standalone (String.ofList (text.toList ++ (['(', '?', ':'] ++
      (Fragment.listSeparator ++ text).toList ++ [')'] ++ ['*', '?']))) :=
    standalone.before turns opening (String.toList_ofList ..)
  obtain ⟨node', whole⟩ := list.group Opens.plain
  exact of_spells ⟨_, by simpa [Fragment.oneOrMoreOf] using whole.spells⟩

/-- A fragment that stands alone has a splitter. -/
theorem splitter (standalone : Standalone text) : Standalone (Fragment.listElement text) := by
  obtain ⟨node, element⟩ := standalone.group Opens.plain
  obtain ⟨items, separator, -⟩ := IsUnit.separator.run
  have ends := ((Branches.cons separator (.one Spells.textEnd)).group Opens.lookAhead).spells
  exact of_spells ⟨_, by simpa [Fragment.listElement, backslash] using element.spells.append ends⟩

end Pattern.Standalone

/-! ## Tables of types -/

namespace TypeTable

variable {types : TypeTable}

/-- A table that nothing has been asked of: with the numeric types, or without any. -/
def Fresh (types : TypeTable) : Prop := types = numeric ∨ types = empty

/-- Every type of a table has a property under its name. -/
def Each (property : String → ValueType → Prop) (types : TypeTable) : Prop :=
  ∀ name type, types.lookup name = some type → property name type

/-- A request keeps what holds of each type, if it holds of the numeric types and of what the request
registers. -/
theorem Each.after {property : String → ValueType → Prop} (each : types.Each property)
    (initial : numeric.Each property) {request : Request}
    (registered : ∀ name fragment conversion, request = .register name fragment conversion →
      obstacle? name fragment = none → property name ⟨name, fragment, conversion⟩) :
    (types.after request).Each property := by
  intro name type known
  cases request with
  | register other fragment conversion =>
    simp only [TypeTable.after, registerNoted_state, register] at known
    cases obstacle : obstacle? other fragment with
    | some fault =>
      rw [obstacle] at known
      exact each name type known
    | none =>
      rw [obstacle] at known
      simp only [lookup, Table.get?_insert] at known
      split at known
      · rename_i same
        cases known
        exact same ▸ registered other fragment conversion rfl obstacle
      · exact each name type known
  | unregister removed =>
    simp only [TypeTable.after, unregister] at known
    split at known
    · simp only [lookup, Table.get?_erase] at known
      split at known
      · cases known
      · exact each name type known
    · exact each name type known
  | reset => exact initial name type known

/-- The fragment of every type of a table stands alone. -/
def Standing (types : TypeTable) : Prop := types.Each fun _ type => Standalone type.pattern

/-- The fragments of a fresh table stand alone. -/
theorem Fresh.standing (fresh : types.Fresh) : types.Standing := by
  intro name type known
  rcases fresh with rfl | rfl
  · exact .of_isUnit (numeric_means name type known)
  · cases known

/-- What a request registers stands alone, unless the registration is refused. -/
def Request.Sound : Request → Prop
  | .register name fragment _ => obstacle? name fragment = none → Standalone fragment
  | .unregister _ => True
  | .reset => True

instance : (request : Request) → Decidable request.Sound
  | .register name fragment _ =>
    inferInstanceAs (Decidable (obstacle? name fragment = none → Standalone fragment))
  | .unregister _ => inferInstanceAs (Decidable True)
  | .reset => inferInstanceAs (Decidable True)

/-- A sound request keeps a table standing. -/
theorem Standing.after (standing : types.Standing) {request : Request} (sound : request.Sound) :
    (types.after request).Standing := by
  apply Each.after standing (Fresh.standing (.inl rfl))
  rintro name fragment conversion rfl accepted
  exact sound accepted

/-- Sound requests, one after the other, keep a table standing. -/
theorem Standing.run (standing : types.Standing) {requests : List Request}
    (sound : ∀ request ∈ requests, request.Sound) : (requests.foldl TypeTable.after types).Standing := by
  induction requests generalizing types with
  | nil => exact standing
  | cons request requests ih =>
    exact ih (standing.after (sound request List.mem_cons_self)) fun other listed =>
      sound other (List.mem_cons_of_mem _ listed)

end TypeTable

/-! ## Tokens and phrases -/

/-- A token has choices, and stands for the texts of a language whatever its type is. -/
def Token.Chooses (token : Token) (pieces : Language Char) : Prop :=
  (∃ first rest, token.choices = some (first :: rest)) ∧ ∀ ofType, token.bodies ofType = pieces

/-- The one of some tokens whose group has a number, counted behind other groups, has choices. -/
def Token.ChosenAt (tokens : List Token) (opened number : Nat) (pieces : Language Char) : Prop :=
  ∀ index token, tokens[index]? = some token → opened + index + 1 = number → token.Chooses pieces

/-- A text spells items with one group for each of some tokens. For the group of a token with choices,
the items note nothing but texts of the token. -/
structure SpellsGroups (text : List Char) (tokens : List Token) (items : Nat → List (Node × Standing)) :
    Prop where
  spells : Spells text tokens.length items
  notes : ∀ opened number pieces, Token.ChosenAt tokens opened number pieces →
    (Node.ofItems (items opened)).Notes number pieces .none

namespace SpellsGroups

variable {text more : List Char} {tokens others : List Token}
  {items later : Nat → List (Node × Standing)}

/-- A text with a language of its own notes nothing. -/
theorem exists_of_isRun {pieces : Language Char} (run : IsRun .none text pieces) :
    ∃ items, SpellsGroups text [] items := by
  obtain ⟨items, spelled, recognizes, -⟩ := run
  exact ⟨_, spelled, fun _ _ _ _ => .of_recognizes recognizes⟩

/-- A text without captures notes nothing. -/
theorem still {nodes : List (Node × Standing)} (spelled : Spells text 0 fun _ => nodes)
    (captureless : (Node.ofItems nodes).captures = 0) : SpellsGroups text [] fun _ => nodes :=
  ⟨spelled, fun _ _ _ _ => .of_captures captureless⟩

/-- Texts one behind the other spell the groups of their tokens one behind the other. -/
theorem append (front : SpellsGroups text tokens items) (behind : SpellsGroups more others later) :
    SpellsGroups (text ++ more) (tokens ++ others)
      fun opened => later (opened + tokens.length) ++ items opened where
  spells := by
    rw [List.length_append]
    exact front.spells.append behind.spells
  notes opened number pieces chosen := by
    refine .append (front.notes opened number pieces fun index token listed => ?_)
      (behind.notes _ number pieces fun index token listed same => ?_)
    · exact chosen index token (List.getElem?_append_left (List.getElem?_eq_some_iff.mp listed).1 ▸ listed)
    · refine chosen (tokens.length + index) token ?_ (by omega)
      rw [List.getElem?_append_right (Nat.le_add_right _ _), Nat.add_sub_cancel_left]
      exact listed

/-- A group that is left out when possible. -/
theorem optional (inside : SpellsGroups text tokens items) :
    ∃ group, SpellsGroups (['(', '?', ':'] ++ text ++ [')'] ++ ['?', '?']) tokens group := by
  have maybe := Spells.lazy ((Branches.one inside.spells).group Opens.plain) (by simp) .question
  rw [Nat.zero_add] at maybe
  refine ⟨_, maybe, fun opened number pieces chosen => ?_⟩
  exact (inside.notes opened number pieces chosen).repetition _ _ _

/-- The capture of a token, whose body notes nothing and recognizes the choices if there are any. -/
theorem capture {token : Token} {nodes : List Node} (enclosed : Enclosed text 0 fun _ => nodes)
    (still : ∀ number pieces, (Node.ofBranches nodes).Notes number pieces .none)
    (chosen : ∀ pieces, token.Chooses pieces → Recognizes .none (.ofBranches nodes) pieces) :
    ∃ items, SpellsGroups (['('] ++ text ++ [')']) [token] items := by
  refine ⟨_, (enclosed.group Opens.capture).spells, fun opened number pieces chosenAt => ?_⟩
  exact (still number pieces).capture fun same => chosen pieces (chosenAt 0 token rfl (by simpa using same))

/-- The capture of a token that stands for the texts of a language. -/
theorem capture_choice {token : Token} {pieces : Language Char} (choice : IsChoice .none text pieces)
    (stands : ∀ ofType, token.bodies ofType = pieces) :
    ∃ items, SpellsGroups (['('] ++ text ++ [')']) [token] items := by
  obtain ⟨nodes, -, branches, recognizes, -⟩ := choice
  have recognizes := recognizes.ofBranches rfl
  refine capture branches.enclosed (fun _ _ => .of_recognizes recognizes) fun others chooses => ?_
  rw [← chooses.2 Texts.ofType, stands]
  exact recognizes

/-- The capture of a token without choices. -/
theorem capture_standalone {token : Token} {whole : String} (standalone : Standalone whole)
    (free : ∀ first rest, token.choices ≠ some (first :: rest)) :
    ∃ items, SpellsGroups (['('] ++ whole.toList ++ [')']) [token] items := by
  obtain ⟨own, alone, groups, switches⟩ := standalone
  obtain ⟨nodes, enclosed, tree⟩ := Enclosed.of_read alone groups switches
  have captureless := tree ▸ captures_eq_zero alone groups switches
  exact capture enclosed (fun _ _ => .of_captures captureless)
    fun _ chooses => absurd chooses.1 fun ⟨first, rest, listed⟩ => free first rest listed

end SpellsGroups

namespace Token

variable {types : TypeTable} {token : Token}

/-- What holds of the fragments of arguments and choices and of the fragment of each type holds of the
fragment for one element of a capture. -/
theorem element_of {property : String → Prop} (argument : property Fragment.argument)
    (listArgument : property Fragment.listArgument)
    (oneOf : ∀ first rest, property (Fragment.oneOf (first :: rest)))
    (each : types.Each fun _ type => property type.pattern) {type : Option ValueType}
    (typed : token.typeIn types = .ok type) : property (token.element type) := by
  obtain ⟨kind, name, remark, reference, choices⟩ := token
  have unconstrained : property
      (if kind = .argumentList then Fragment.listArgument else Fragment.argument) := by
    split
    · exact listArgument
    · exact argument
  have without : choices = none ∨ choices = some [] →
      property (Token.element ⟨kind, name, remark, reference, choices⟩ type) := by
    intro free
    cases type with
    | none => rcases free with rfl | rfl <;> exact unconstrained
    | some type =>
      have known : ∃ reference, types.lookup reference = some type := by
        cases reference with
        | none => cases typed
        | some reference =>
          simp only [typeIn] at typed
          cases found : types.lookup reference with
          | none =>
            rw [found] at typed
            cases typed
          | some other =>
            rw [found] at typed
            cases typed
            exact ⟨reference, found⟩
      obtain ⟨reference, found⟩ := known
      rcases free with rfl | rfl <;> exact each reference type found
  rcases choices with _ | (_ | ⟨first, rest⟩)
  · exact without (.inl rfl)
  · exact without (.inr rfl)
  · exact oneOf first rest

/-- The fragment for one element of a capture stands alone. -/
theorem element_standalone (standing : types.Standing) {type : Option ValueType}
    (typed : token.typeIn types = .ok type) : Standalone (token.element type) :=
  element_of (.of_isUnit IsUnit.argument) (.of_isUnit IsUnit.listArgument)
    (fun first rest => .of_isUnit (IsUnit.oneOf first rest)) standing typed

/-- The capture of a token with a fragment around its element: of its choices, or of a fragment that
stands alone. -/
theorem exists_spellsGroups (standing : types.Standing) {type : Option ValueType}
    (typed : token.typeIn types = .ok type) (around : String → String)
    (alone : ∀ {text}, Standalone text → Standalone (around text))
    (choice : ∀ first rest, token.choices = some (first :: rest) → ∃ pieces,
      IsChoice .none (around (Fragment.oneOf (first :: rest))).toList pieces ∧
        ∀ ofType, token.bodies ofType = pieces) :
    ∃ items, SpellsGroups (['('] ++ (around (token.element type)).toList ++ [')']) [token] items := by
  by_cases chosen : ∃ first rest, token.choices = some (first :: rest)
  · obtain ⟨first, rest, listed⟩ := chosen
    obtain ⟨pieces, choice, stands⟩ := choice first rest listed
    have oneOf : token.element type = Fragment.oneOf (first :: rest) := by simp [element, listed]
    rw [oneOf]
    exact SpellsGroups.capture_choice choice stands
  · exact SpellsGroups.capture_standalone (alone (element_standalone standing typed))
      fun first rest listed => chosen ⟨first, rest, listed⟩

/-- Under standing types, a compiled token is white space and a text with one group for its
capture. -/
theorem compiled_standing (standing : types.Standing) {fragment : String} {captures : List Capture}
    (compiled : token.compiled types = .ok (fragment, captures)) :
    ∃ body items, token.Leads fragment body ∧
      SpellsGroups body ([token].filter (·.kind.captures)) items := by
  obtain ⟨kind, name, remark, reference, choices⟩ := token
  obtain ⟨items, literal⟩ := SpellsGroups.exists_of_isRun (IsRun.exactly name.toList)
  cases kind with
  | symbol =>
    cases compiled
    exact ⟨escapedChars name.toList, _, ⟨by simp [escaped], fun _ => rfl⟩, literal⟩
  | word =>
    cases compiled
    exact ⟨escapedChars name.toList, _, ⟨by simp [escaped], by simp⟩, literal⟩
  | freeText =>
    cases compiled
    obtain ⟨items, group⟩ := @SpellsGroups.capture_choice _ ⟨.freeText, name, remark, reference, choices⟩ _
      IsUnit.freeText.run.choice fun _ => rfl
    exact ⟨_, _, ⟨by simp [captured], by simp⟩, group⟩
  | argument =>
    obtain ⟨type, typed, same⟩ := Except.bind_eq_ok.mp compiled
    cases same
    obtain ⟨items, group⟩ := exists_spellsGroups standing typed (fun text => text) id fun first rest listed =>
      ⟨_, (IsUnit.oneOf first rest).run.choice, fun _ => by simp_all [bodies, elements]⟩
    exact ⟨_, _, ⟨by simp [captured], by simp⟩, group⟩
  | argumentList =>
    obtain ⟨type, typed, rest⟩ := Except.bind_eq_ok.mp compiled
    obtain ⟨splitter, _, same⟩ := Except.bind_eq_ok.mp rest
    cases same
    obtain ⟨items, group⟩ := exists_spellsGroups standing typed Fragment.oneOrMoreOf .oneOrMoreOf
      fun first rest listed =>
        ⟨_, (IsUnit.oneOf first rest).oneOrMoreOf.run.choice, fun _ => by simp_all [bodies, elements]⟩
    exact ⟨_, _, ⟨by simp [captured], by simp⟩, group⟩

end Token

namespace Phrase

variable {types : TypeTable} {phrase : Phrase} {fragment : String} {captures : List Capture}

/-- Under standing types, a compiled phrase spells a pattern with one group for each token that
captures. -/
theorem compiled_standing (standing : types.Standing)
    (compiled : phrase.compiled types = .ok (fragment, captures)) :
    ∃ items, SpellsGroups fragment.toList phrase.capturing items := by
  induction phrase generalizing fragment captures with
  | done =>
    cases compiled
    exact SpellsGroups.exists_of_isRun IsRun.nil
  | token first rest ih =>
    obtain ⟨front, firsts, here, after, more, others, rfl, rfl⟩ := compiled_token_eq_ok.mp compiled
    obtain ⟨body, items, ⟨shape, -⟩, spelled⟩ := Token.compiled_standing standing here
    obtain ⟨later, spelledOthers⟩ := ih others
    obtain ⟨blanks, spelledGap⟩ : ∃ blanks, SpellsGroups
        (if first.kind = .symbol then [] else Fragment.separator.toList) [] blanks := by
      split
      · exact SpellsGroups.exists_of_isRun IsRun.nil
      · exact SpellsGroups.exists_of_isRun IsRun.gap
    have whole := (spelledGap.append spelled).append spelledOthers
    rw [← shape, ← String.toList_append] at whole
    exact ⟨_, by simpa [capturing, tokens, ← List.filter_append] using whole⟩
  | optional inner rest ihInner ih =>
    obtain ⟨inside, firsts, group, after, more, others, rfl, rfl⟩ :=
      compiled_optional_eq_ok.mp compiled
    obtain ⟨items, spelled⟩ := ihInner group
    obtain ⟨later, spelledOthers⟩ := ih others
    obtain ⟨choice, maybe⟩ := spelled.optional
    exact ⟨_, by simpa [capturing, tokens] using maybe.append spelledOthers⟩

/-- The same at the front of a pattern, where no white space is asked for. -/
theorem compiled_standingAtStart (standing : types.Standing)
    (named : ∀ token ∈ phrase.tokens, token.name ≠ "")
    (compiled : phrase.compiled types = .ok (fragment, captures)) :
    ∃ items, SpellsGroups (withoutLead fragment.toList) phrase.capturing items := by
  cases phrase with
  | done =>
    cases compiled
    exact SpellsGroups.exists_of_isRun IsRun.nil
  | token first rest =>
    obtain ⟨front, firsts, here, after, more, others, rfl, rfl⟩ := compiled_token_eq_ok.mp compiled
    obtain ⟨body, items, leads, spelled⟩ := Token.compiled_standing standing here
    obtain ⟨later, spelledOthers⟩ := compiled_standing standing others
    rw [String.toList_append, leads.withoutLead (named first (by simp [tokens]))]
    exact ⟨_, by simpa [capturing, tokens, ← List.filter_append] using spelled.append spelledOthers⟩
  | optional inner rest =>
    obtain ⟨items, spelled⟩ := compiled_standing standing compiled
    obtain ⟨inside, firsts, group, after, more, others, rfl, rfl⟩ :=
      compiled_optional_eq_ok.mp compiled
    rw [withoutLead_optional]
    exact ⟨items, by simpa using spelled⟩

/-- The pattern of whole lines spells the groups of the tokens that capture. -/
theorem wholeLine_standing (standing : types.Standing)
    (named : ∀ token ∈ phrase.tokens, token.name ≠ "")
    (compiled : phrase.compiled types = .ok (fragment, captures)) :
    ∃ items, SpellsGroups (Expression.wholeLine fragment).toList phrase.capturing items := by
  obtain ⟨items, spelled⟩ := compiled_standingAtStart standing named compiled
  have start := SpellsGroups.still Spells.lineStart rfl
  have tail := SpellsGroups.still (Spells.greedy Operand.space (by simp) .star) rfl
  have stop := SpellsGroups.still Spells.lineEnd rfl
  have whole := start.append (spelled.append (tail.append stop))
  rw [← Expression.toList_wholeLine] at whole
  exact ⟨_, by simpa using whole⟩

end Phrase

end LineGrammar
