/-!
# Runs of names

The names of neighbouring code points mostly begin with the same words. A run holds such names by
their differences: each entry begins with the number of words that its name shares with the name
before it, and goes on with the other words.
-/

namespace LineGrammar.Text

/-- The names of the code point `first` and those that follow it. Bars separate the entries, and an
empty entry stands for a code point without a name. -/
structure NameRun where
  first : Nat
  rows : List String

namespace NameRun

/-- The words of the name that an entry stands for, given those of the name before. -/
def wordsAfter (before : List String) (entry : List Char) : List String :=
  match entry with
  | [] => before
  | count :: ending =>
    before.take (count.toNat - '0'.toNat) ++ (String.ofList ending).splitOn " "

/-- The place of a name, in words, among some entries. -/
def find? (name before : List String) : List String → Option Nat
  | [] => none
  | entry :: entries =>
    let words := wordsAfter before entry.toList
    if words == name then some 0
    else (find? name words entries).map (· + 1)

/-- The code point that a run gives a name to, if it does. -/
def codeOf? (run : NameRun) (name : List String) : Option Nat :=
  (find? name [] (run.rows.flatMap (·.splitOn "|"))).map (run.first + ·)

end NameRun

end LineGrammar.Text
