/-!
# Sets of code points

A property of characters that a standard tabulates is kept as ascending, disjoint, inclusive
ranges of code points. Membership walks the ranges and stops at the first one that begins beyond
the code point, so no range after it can hold the answer.
-/

namespace LineGrammar.Text

/-- Ascending, disjoint, inclusive ranges of code points. -/
structure CodeRanges where
  ranges : List (Nat × Nat)

namespace CodeRanges

/-- Membership in a list of ranges, given that they ascend. -/
def within : List (Nat × Nat) → Nat → Bool
  | [], _ => false
  | (low, high) :: rest, code =>
    if code < low then false
    else if code ≤ high then true
    else within rest code

/-- Whether a code point lies in one of the ranges. -/
def contains (set : CodeRanges) (code : Nat) : Bool := within set.ranges code

/-- A code point in ascending ranges lies in one of them. -/
theorem exists_of_within {ranges : List (Nat × Nat)} {code : Nat}
    (inside : within ranges code = true) :
    ∃ range ∈ ranges, range.1 ≤ code ∧ code ≤ range.2 := by
  induction ranges with
  | nil => simp [within] at inside
  | cons range rest ih =>
    obtain ⟨low, high⟩ := range
    unfold within at inside
    split at inside
    · exact absurd inside (by simp)
    · split at inside
      · exact ⟨(low, high), by simp, by omega, by assumption⟩
      · obtain ⟨found, member, bounds⟩ := ih inside
        exact ⟨found, List.mem_cons_of_mem _ member, bounds⟩

end CodeRanges

end LineGrammar.Text
