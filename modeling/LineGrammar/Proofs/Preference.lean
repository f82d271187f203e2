import LineGrammar.Proofs.Filling

/-!
# Which filling comes first

Two fillings of one phrase go the same way for a while, and then one of them enters a group that the
other skips, or a token takes different parts. What a filling has to the left of a group, or to the left
of the text of a token, is a list of steps. Fillings that have the same steps there part at the group or
at the text, if they part at all.

A filling is as lazy as another one if, where they part, it skips the group, or its free text is not the
longer one. Nothing is asked of the other tokens and of white space. The definition follows the phrase;
`Filling.AsLazyAs.enters` and `Filling.AsLazyAs.length_le` say what it means for a group and for a free
text.
-/

namespace LineGrammar

open LineGrammar.Phrase

/-- A place of a phrase where a token stands. -/
inductive Phrase.Spot : Phrase → Type where
  | here {first : Token} {rest : Phrase} : Spot (.token first rest)
  | behind {first : Token} {rest : Phrase} (spot : Spot rest) : Spot (.token first rest)
  | inside {inner rest : Phrase} (spot : Spot inner) : Spot (.optional inner rest)
  | after {inner rest : Phrase} (spot : Spot rest) : Spot (.optional inner rest)

/-- The token at a place. -/
def Phrase.Spot.token : {phrase : Phrase} → Spot phrase → Token
  | _, @here first _ => first
  | _, behind spot => spot.token
  | _, inside spot => spot.token
  | _, after spot => spot.token

/-- A step of a filling from left to right. -/
inductive Step where
  | gap (text : List Char)
  | body (text : List Char)
  | skipped
  | entered

namespace Filling

variable {phrase : Phrase}

/-- The steps of a filling. -/
def steps : {phrase : Phrase} → Filling phrase → List Step
  | _, done => []
  | _, token part others => .gap part.gap :: .body part.body :: others.steps
  | _, skip others => .skipped :: others.steps
  | _, enter inside others => .entered :: (inside.steps ++ others.steps)

/-- What a filling has to the left of a group. It has nothing in a group that it skips. -/
def leftOf : {phrase : Phrase} → Filling phrase → Group phrase → List Step
  | _, token part others, .behind group => .gap part.gap :: .body part.body :: others.leftOf group
  | _, skip _, .here => []
  | _, skip _, .inside _ => [.skipped]
  | _, skip others, .after group => .skipped :: others.leftOf group
  | _, enter _ _, .here => []
  | _, enter inside _, .inside group => .entered :: inside.leftOf group
  | _, enter inside others, .after group => .entered :: (inside.steps ++ others.leftOf group)

/-- What a filling has to the left of the text of a token. -/
def leftOfText : {phrase : Phrase} → Filling phrase → Spot phrase → List Step
  | _, token part _, .here => [.gap part.gap]
  | _, token part others, .behind spot => .gap part.gap :: .body part.body :: others.leftOfText spot
  | _, skip _, .inside _ => [.skipped]
  | _, skip others, .after spot => .skipped :: others.leftOfText spot
  | _, enter inside _, .inside spot => .entered :: inside.leftOfText spot
  | _, enter inside others, .after spot => .entered :: (inside.steps ++ others.leftOfText spot)

/-- The text that a filling has for a token, if the token is on its way. -/
def text? : {phrase : Phrase} → Filling phrase → Spot phrase → Option (List Char)
  | _, token part _, .here => some part.body
  | _, token _ others, .behind spot => others.text? spot
  | _, skip _, .inside _ => none
  | _, skip others, .after spot => others.text? spot
  | _, enter inside _, .inside spot => inside.text? spot
  | _, enter _ others, .after spot => others.text? spot

/-- A filling is as lazy as another one, where they part. -/
def AsLazyAs : {phrase : Phrase} → Filling phrase → Filling phrase → Prop
  | _, done, done => True
  | _, @token first _ part others, token part' others' => part.gap = part'.gap →
    (first.kind = .freeText → part.body.length ≤ part'.body.length) ∧
      (part.body = part'.body → others.AsLazyAs others')
  | _, skip others, skip others' => others.AsLazyAs others'
  | _, skip _, enter _ _ => True
  | _, enter _ _, skip _ => False
  | _, enter inside others, enter inside' others' =>
    inside.AsLazyAs inside' ∧ (inside = inside' → others.AsLazyAs others')

/-- The steps tell the filling, whatever follows them. -/
theorem steps_append_inj {filling other : Filling phrase} {front back : List Step}
    (same : filling.steps ++ front = other.steps ++ back) : filling = other ∧ front = back := by
  induction filling generalizing front back with
  | done =>
    cases other
    exact ⟨rfl, same⟩
  | token part others ih =>
    cases other with
    | token part' others' =>
      simp only [steps, List.cons_append, List.cons.injEq, Step.gap.injEq, Step.body.injEq] at same
      obtain ⟨gap, body, rest⟩ := same
      obtain ⟨rfl, behind⟩ := ih rest
      cases part
      cases part'
      cases gap
      cases body
      exact ⟨rfl, behind⟩
  | skip others ih =>
    cases other with
    | skip others' =>
      obtain ⟨rfl, behind⟩ := ih (List.cons.inj same).2
      exact ⟨rfl, behind⟩
    | enter inside' others' => cases (List.cons.inj same).1
  | enter inside others ihInside ih =>
    cases other with
    | skip others' => cases (List.cons.inj same).1
    | enter inside' others' =>
      simp only [steps, List.cons_append, List.append_assoc, List.cons.injEq, true_and] at same
      obtain ⟨rfl, rest⟩ := ihInside same
      obtain ⟨rfl, behind⟩ := ih rest
      exact ⟨rfl, behind⟩

namespace AsLazyAs

/-- A group that is entered is entered by every filling that has the same to the left of it. -/
theorem enters {filling other : Filling phrase} (lazy : filling.AsLazyAs other) {group : Group phrase}
    (entered : filling.selection group = true) (same : other.leftOf group = filling.leftOf group) :
    other.selection group = true := by
  induction filling with
  | done => nomatch group
  | token part others ih =>
    cases other with
    | token part' others' =>
      cases group with
      | behind group =>
        simp only [leftOf, List.cons.injEq, Step.gap.injEq, Step.body.injEq] at same
        obtain ⟨gap, body, rest⟩ := same
        exact ih ((lazy gap.symm).2 body.symm) entered rest
  | skip others ih =>
    cases group with
    | here => cases entered
    | inside group => cases entered
    | after group =>
      cases other with
      | skip others' => exact ih lazy entered (List.cons.inj same).2
      | enter inside' others' => cases (List.cons.inj same).1
  | enter inside others ihInside ih =>
    cases other with
    | skip others' => exact lazy.elim
    | enter inside' others' =>
      obtain ⟨lazyInside, lazyOthers⟩ := lazy
      cases group with
      | here => rfl
      | inside group => exact ihInside lazyInside entered (List.cons.inj same).2
      | after group =>
        obtain ⟨rfl, rest⟩ := steps_append_inj (List.cons.inj same).2
        exact ih (lazyOthers rfl) entered rest

/-- A free text is no longer than that of a filling that has the same to the left of it. -/
theorem length_le {filling other : Filling phrase} (lazy : filling.AsLazyAs other)
    {spot : Spot phrase} {body : List Char} (free : spot.token.kind = .freeText)
    (taken : filling.text? spot = some body) (same : other.leftOfText spot = filling.leftOfText spot) :
    ∃ text, other.text? spot = some text ∧ body.length ≤ text.length := by
  induction filling with
  | done => nomatch spot
  | token part others ih =>
    cases other with
    | token part' others' =>
      cases spot with
      | here =>
        simp only [leftOfText, List.cons.injEq, Step.gap.injEq, and_true] at same
        cases taken
        exact ⟨part'.body, rfl, (lazy same.symm).1 free⟩
      | behind spot =>
        simp only [leftOfText, List.cons.injEq, Step.gap.injEq, Step.body.injEq] at same
        obtain ⟨gap, body, rest⟩ := same
        exact ih ((lazy gap.symm).2 body.symm) free taken rest
  | skip others ih =>
    cases spot with
    | inside spot => cases taken
    | after spot =>
      cases other with
      | skip others' => exact ih lazy free taken (List.cons.inj same).2
      | enter inside' others' => cases (List.cons.inj same).1
  | enter inside others ihInside ih =>
    cases other with
    | skip others' => exact lazy.elim
    | enter inside' others' =>
      obtain ⟨lazyInside, lazyOthers⟩ := lazy
      cases spot with
      | inside spot => exact ihInside lazyInside free taken (List.cons.inj same).2
      | after spot =>
        obtain ⟨rfl, rest⟩ := steps_append_inj (List.cons.inj same).2
        exact ih (lazyOthers rfl) free taken rest

end AsLazyAs

end Filling

end LineGrammar
