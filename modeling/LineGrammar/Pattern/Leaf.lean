import LineGrammar.Pattern.Syntax
import LineGrammar.Text.Alphanumeric
import LineGrammar.Text.Case
import LineGrammar.Text.Space

/-!
# What a leaf of a pattern accepts

A leaf accepts one character, or asks about a position without consuming anything. The switches that
hold at the leaf decide whether case counts, which characters belong to a class, whether a line feed
counts as any character, and where lines begin and end.

Without regard to case, a character is compared in its lower-case form with everything that has that
form or shares its upper-case form. A set is read that way only when case makes a difference to one
of its members. A member of a set beyond the first 2^16 code points stands for itself alone.
-/

namespace LineGrammar.Pattern

open LineGrammar.Text

/-- The lower-case form of a code point under the switches. -/
def lowerUnder (on : Switches) (code : Nat) : Nat :=
  if on.ascii then (if 65 ≤ code && code ≤ 90 then code + 32 else code) else lowerCode code

/-- Whether case makes a difference to a code point under the switches. -/
def isCasefulUnder (on : Switches) (code : Nat) : Bool :=
  if on.ascii then (65 ≤ code && code ≤ 90) || (97 ≤ code && code ≤ 122) else isCaseful code

/-- The other lower-case letters with the same upper-case form under the switches. -/
def partnersUnder (on : Switches) (lower : Nat) : List Nat :=
  if on.ascii then [] else partnersOf lower

/-- The code points whose lower-case form is the given one. -/
def withLower (on : Switches) (lower : Nat) : List Nat :=
  let capitals :=
    if on.ascii then (if 97 ≤ lower && lower ≤ 122 then [lower - 32] else []) else capitalsOf lower
  if lowerUnder on lower = lower then lower :: capitals else capitals

/-- Whether a character belongs to a class under the switches. -/
def Category.holds (on : Switches) : Category → Char → Bool
  | .digit, c => if on.ascii then c.isDigit else isDecimal c
  | .space, c => if on.ascii then isBlank c else isSpace c
  | .word, c => if on.ascii then c == '_' || c.isAlphanum else isWord c

/-- Whether a character is the given one, with regard to case only where the switches ask for it. -/
def sameCharacter (on : Switches) (code : Nat) (c : Char) : Bool :=
  if on.ignoreCase && isCasefulUnder on code then
    let lower := lowerUnder on code
    let seen := lowerUnder on c.toNat
    seen == lower || (partnersUnder on lower).contains seen
  else c.toNat == code

/-- Whether a character is one of the members of a set, case counting. -/
def SetItem.holds (on : Switches) (c : Char) : SetItem → Bool
  | .code point => c.toNat == point
  | .range low high => low ≤ c.toNat && c.toNat ≤ high
  | .category kind negated => kind.holds on c != negated

/-- Whether a member of a set has two cases, as far as that is asked: a range that goes beyond 0xFFFF
counts as if it had. -/
def SetItem.isCased (on : Switches) : SetItem → Bool
  | .code point => isCasefulUnder on point
  | .range low high =>
    0xFFFF < high
      || (List.range (high + 1 - low)).any fun offset => isCasefulUnder on (low + offset)
  | .category .. => false

/-- Whether a member makes a set be read without regard to case. -/
def SetItem.isCaseful (on : Switches) (item : SetItem) : Bool :=
  item.isCased on ||
    match item with
    | .code point => 0xFFFF < lowerUnder on point
    | _ => false

/-- Whether a character in its lower-case form is one of the members of a set, case not counting. -/
def SetItem.holdsLower (on : Switches) (lower : Char) : SetItem → Bool
  | .code point =>
    if 0xFFFF < lowerUnder on point then lower.toNat == point
    else
      let form := lowerUnder on point
      lower.toNat == form || (partnersUnder on form).contains lower.toNat
  | .range low high =>
    ((lower.toNat :: partnersUnder on lower.toNat).any fun form =>
      (withLower on form).any fun point => low ≤ point && point ≤ high)
      || (0xFFFF < high && low ≤ upperCode lower.toNat && upperCode lower.toNat ≤ high)
  | .category kind negated => kind.holds on lower != negated

/-- Whether a character belongs to a set. -/
def inSet (on : Switches) (negated : Bool) (items : List SetItem) (c : Char) : Bool :=
  let inside := match items with
    | [.code point] => sameCharacter on point c
    | items =>
      if on.ignoreCase && items.any (·.isCaseful on) then
        items.any (·.holdsLower on (Char.ofNat (lowerUnder on c.toNat)))
      else items.any (·.holds on c)
  inside != negated

/-- Whether a character is accepted in place of any character. -/
def isAnything (on : Switches) (c : Char) : Bool := on.dotAll || c != '\n'

/-- Whether the character at a place exists and belongs to a word. -/
def wordAt (on : Switches) (text : Array Char) (place : Nat) : Bool :=
  match text[place]? with
  | some c => Category.word.holds on c
  | none => false

/-- Whether a word begins or ends at a place; the empty text has no such place. -/
def isBoundary (on : Switches) (text : Array Char) (place : Nat) : Bool :=
  (place != 0 && wordAt on text (place - 1)) != wordAt on text place

/-- Whether a position of a text is the one asked for. The empty text has neither a boundary nor a
place that is none. -/
def Anchor.holds (on : Switches) (text : Array Char) (place : Nat) : Anchor → Bool
  | .textStart => place == 0
  | .textEnd => place == text.size
  | .lineStart => place == 0 || (on.multiline && text[place - 1]? == some '\n')
  | .lineEnd =>
    place == text.size
      || (text[place]? == some '\n' && (on.multiline || place + 1 == text.size))
  | .boundary => isBoundary on text place
  | .notBoundary => !text.isEmpty && !isBoundary on text place

end LineGrammar.Pattern
