import LineGrammar.Expression.Basic
import LineGrammar.Proofs.Tokens

/-!
# The phrase of an expression

An outline holds segments as texts. With the tokens of its segments in their place it is a phrase:
tokens and optional groups in order. A phrase is compiled token by token, and an outline is compiled to
what its phrase is compiled to; so whatever is said of the pattern of an expression is said along its
phrase.

Tokens that come from a scan are well formed. Their names are not empty, and the words among their
choices consist of word characters.
-/

namespace LineGrammar

open LineGrammar.Text

/-- The tokens and optional groups of an expression in order. -/
inductive Phrase where
  | done
  | token (first : Token) (rest : Phrase)
  | optional (inner rest : Phrase)
deriving DecidableEq, Repr

namespace Phrase

/-- Tokens in front of a phrase. -/
def ofTokens : List Token → Phrase → Phrase
  | [], rest => rest
  | first :: tokens, rest => .token first (ofTokens tokens rest)

/-- All tokens of a phrase, from left to right. -/
def tokens : Phrase → List Token
  | done => []
  | token first rest => first :: rest.tokens
  | optional inner rest => inner.tokens ++ rest.tokens

/-- Tokens before a phrase come before its tokens. -/
@[simp] theorem tokens_ofTokens (tokens : List Token) (rest : Phrase) :
    (ofTokens tokens rest).tokens = tokens ++ rest.tokens := by
  induction tokens with
  | nil => rfl
  | cons token tokens ih => simp [ofTokens, Phrase.tokens, ih]

/-- What a phrase adds to the pattern of an expression. -/
def compiled (types : TypeTable) : Phrase → Except Fault (String × List Capture)
  | done => .ok ("", [])
  | token first rest => do
    let (fragment, captures) ← first.compiled types
    let (after, more) ← rest.compiled types
    return (fragment ++ after, captures ++ more)
  | optional inner rest => do
    let (fragment, captures) ← inner.compiled types
    let (after, more) ← rest.compiled types
    return ("(?:" ++ fragment ++ ")??" ++ after, captures ++ more)

end Phrase

/-- An outline with the tokens of its segments. -/
def Outline.phrase : Outline → Except Fault Phrase
  | done => .ok .done
  | segment text rest => do
    let tokens ← Token.scan text
    return Phrase.ofTokens tokens (← rest.phrase)
  | optional inner rest => do return .optional (← inner.phrase) (← rest.phrase)

/-- The phrase of an expression. -/
def Phrase.of (expression : String) : Except Fault Phrase := do
  (← Outline.read expression).phrase

namespace Phrase

variable {types : TypeTable} {fragment : String} {captures : List Capture}

/-- A phrase that begins with a token is compiled when the token and the rest are, one behind the other. -/
theorem compiled_token_eq_ok {token : Token} {rest : Phrase} :
    (Phrase.token token rest).compiled types = .ok (fragment, captures) ↔
      ∃ front firsts, token.compiled types = .ok (front, firsts) ∧
        ∃ after more, rest.compiled types = .ok (after, more) ∧
          fragment = front ++ after ∧ captures = firsts ++ more := by
  simp only [compiled, Except.bind_eq_ok, Prod.exists, pure, Except.pure, Except.ok.injEq,
    Prod.mk.injEq]
  constructor
  · rintro ⟨front, firsts, compiled, after, more, others, rfl, rfl⟩
    exact ⟨front, firsts, compiled, after, more, others, rfl, rfl⟩
  · rintro ⟨front, firsts, compiled, after, more, others, rfl, rfl⟩
    exact ⟨front, firsts, compiled, after, more, others, rfl, rfl⟩

/-- A phrase that begins with a group is compiled when the group and the rest are, with the group made
optional and lazy. -/
theorem compiled_optional_eq_ok {inner rest : Phrase} :
    (Phrase.optional inner rest).compiled types = .ok (fragment, captures) ↔
      ∃ inside firsts, inner.compiled types = .ok (inside, firsts) ∧
        ∃ after more, rest.compiled types = .ok (after, more) ∧
          fragment = "(?:" ++ inside ++ ")??" ++ after ∧ captures = firsts ++ more := by
  simp only [compiled, Except.bind_eq_ok, Prod.exists, pure, Except.pure, Except.ok.injEq,
    Prod.mk.injEq]
  constructor
  · rintro ⟨inside, firsts, compiled, after, more, others, rfl, rfl⟩
    exact ⟨inside, firsts, compiled, after, more, others, rfl, rfl⟩
  · rintro ⟨inside, firsts, compiled, after, more, others, rfl, rfl⟩
    exact ⟨inside, firsts, compiled, after, more, others, rfl, rfl⟩

/-- The tokens of a segment are compiled one after the other. -/
theorem compiled_ofTokens_eq_ok {tokens : List Token} {rest : Phrase} :
    (ofTokens tokens rest).compiled types = .ok (fragment, captures) ↔
      ∃ parts, tokens.mapM (Token.compiled types) = .ok parts ∧
        ∃ after more, rest.compiled types = .ok (after, more) ∧
          fragment = (joined parts).1 ++ after ∧ captures = (joined parts).2 ++ more := by
  induction tokens generalizing fragment captures with
  | nil => simp [ofTokens, joined, pure, Except.pure]
  | cons token tokens ih =>
    simp only [ofTokens, compiled_token_eq_ok, ih, List.mapM_cons, Except.bind_eq_ok, Prod.exists]
    constructor
    · rintro ⟨front, firsts, compiled, _, _, ⟨parts, others, after, more, last, rfl, rfl⟩, rfl, rfl⟩
      exact ⟨(front, firsts) :: parts, ⟨front, firsts, compiled, parts, others, rfl⟩, after, more, last,
        by simp [joined, String.append_assoc], by simp [joined]⟩
    · rintro ⟨_, ⟨front, firsts, compiled, parts, others, same⟩, after, more, last, rfl, rfl⟩
      cases same
      exact ⟨front, firsts, compiled, _, _, ⟨parts, others, after, more, last, rfl, rfl⟩,
        by simp [joined, String.append_assoc], by simp [joined]⟩

end Phrase

/-- An outline is compiled to what its phrase is compiled to. -/
theorem Outline.compiled_eq_ok {types : TypeTable} {outline : Outline} {fragment : String}
    {captures : List Capture} :
    outline.compiled types = .ok (fragment, captures) ↔
      ∃ phrase, outline.phrase = .ok phrase ∧ phrase.compiled types = .ok (fragment, captures) := by
  induction outline generalizing fragment captures with
  | done => simp [compiled, phrase, Phrase.compiled]
  | segment text rest ih =>
    simp only [compiled, segmentCompiled, phrase, Except.bind_eq_ok, Prod.exists, ih, pure,
      Except.pure, Except.ok.injEq, Prod.mk.injEq]
    constructor
    · rintro ⟨_, _, ⟨tokens, scanned, parts, compiled, same⟩, after, more,
        ⟨others, read, last⟩, rfl, rfl⟩
      refine ⟨_, ⟨tokens, scanned, others, read, rfl⟩, Phrase.compiled_ofTokens_eq_ok.mpr
        ⟨parts, compiled, after, more, last, ?_, ?_⟩⟩ <;> rw [same]
    · rintro ⟨_, ⟨tokens, scanned, others, read, rfl⟩, compiled⟩
      obtain ⟨parts, each, after, more, last, rfl, rfl⟩ :=
        Phrase.compiled_ofTokens_eq_ok.mp compiled
      exact ⟨_, _, ⟨tokens, scanned, parts, each, rfl⟩, after, more, ⟨others, read, last⟩, rfl,
        rfl⟩
  | optional inner rest ihInner ih =>
    simp only [compiled, phrase, Except.bind_eq_ok, Prod.exists, ihInner, ih, pure, Except.pure,
      Except.ok.injEq, Prod.mk.injEq]
    constructor
    · rintro ⟨inside, firsts, ⟨inner, read, compiled⟩, after, more, ⟨others, readOthers, last⟩, rfl,
        rfl⟩
      exact ⟨_, ⟨inner, read, others, readOthers, rfl⟩, Phrase.compiled_optional_eq_ok.mpr
        ⟨inside, firsts, compiled, after, more, last, rfl, rfl⟩⟩
    · rintro ⟨_, ⟨inner, read, others, readOthers, rfl⟩, compiled⟩
      obtain ⟨inside, firsts, group, after, more, last, rfl, rfl⟩ :=
        Phrase.compiled_optional_eq_ok.mp compiled
      exact ⟨inside, firsts, ⟨inner, read, group⟩, after, more, ⟨others, readOthers, last⟩, rfl,
        rfl⟩

/-- The tokens of a phrase that was read are well formed. -/
theorem Outline.phrase_wellFormed {outline : Outline} {phrase : Phrase}
    (read : outline.phrase = .ok phrase) : ∀ token ∈ phrase.tokens, token.WellFormed := by
  induction outline generalizing phrase with
  | done =>
    cases read
    simp [Phrase.tokens]
  | segment text rest ih =>
    obtain ⟨tokens, scanned, others⟩ := Except.bind_eq_ok.mp read
    obtain ⟨after, readOthers, same⟩ := Except.bind_eq_ok.mp others
    cases same
    intro token listed
    rcases List.mem_append.mp (Phrase.tokens_ofTokens tokens after ▸ listed) with listed | listed
    · exact Token.scan_wellFormed scanned token listed
    · exact ih readOthers token listed
  | optional inner rest ihInner ih =>
    obtain ⟨inside, readInner, others⟩ := Except.bind_eq_ok.mp read
    obtain ⟨after, readOthers, same⟩ := Except.bind_eq_ok.mp others
    cases same
    intro token listed
    rcases List.mem_append.mp listed with listed | listed
    · exact ihInner readInner token listed
    · exact ih readOthers token listed

/-- The tokens of an expression are well formed. -/
theorem Phrase.of_wellFormed {text : String} {phrase : Phrase} (read : Phrase.of text = .ok phrase) :
    ∀ token ∈ phrase.tokens, token.WellFormed := by
  obtain ⟨outline, _, scanned⟩ := Except.bind_eq_ok.mp read
  exact Outline.phrase_wellFormed scanned

/-- What an expression is compiled to, along its phrase. -/
theorem Expression.compile_eq_ok {types : TypeTable} {text : String} {expression : Expression} :
    Expression.compile types text = .ok expression ↔
      ∃ phrase, Phrase.of text = .ok phrase ∧
        ∃ body captures, phrase.compiled types = .ok (body, captures) ∧
          ∃ pattern, Pattern.read (wholeLine body) .none = .ok pattern ∧
            expression = { text, pattern, captures } := by
  simp only [compile, Except.bind_eq_ok, Prod.exists, Outline.compiled_eq_ok, Phrase.of]
  constructor
  · rintro ⟨outline, read, body, captures, ⟨phrase, scanned, compiled⟩, finished⟩
    refine ⟨phrase, ⟨outline, read, scanned⟩, body, captures, compiled, ?_⟩
    split at finished
    · rename_i pattern isPattern
      exact ⟨pattern, isPattern, (Except.ok.inj finished).symm⟩
    · cases finished
  · rintro ⟨phrase, ⟨outline, read, scanned⟩, body, captures, compiled, pattern, isPattern, rfl⟩
    refine ⟨outline, read, body, captures, ⟨phrase, scanned, compiled⟩, ?_⟩
    rw [isPattern]
    rfl

end LineGrammar
