import LineGrammar.Proofs.Contents
import LineGrammar.Proofs.Pattern.Counts

/-!
# Registering a type

A type is registered or refused. A registration makes one entry of the table new and counts up by one; a
refusal leaves the table as it was, and no notice behind.

Most refusals say that the fragment is no pattern that can stand inside of another one. There is one that
does not: a count that is too great is refused in its own way, and only a fragment that writes such a
count itself is refused like this.
-/

namespace LineGrammar

open LineGrammar.Pattern

namespace TypeTable

/-- A fault that says of a fragment that it is not valid as the pattern of a type. -/
inductive Invalid (name fragment : String) : Fault → Prop
  | unembeddable (found : Pattern.Fault) :
    Invalid name fragment (.unembeddable name (Fragment.embedded fragment) found)
  | capturing : Invalid name fragment (.capturing name)
  | overlong (digits : Nat) :
    Invalid name fragment (.pattern (Fragment.embedded fragment) (.overlongCount digits))
  | characterSets :
    Invalid name fragment (.pattern (Fragment.embedded fragment) .exclusiveCharacterSets)

/-- A registration that is refused leaves nothing behind. -/
theorem registerNoted_of_obstacle {name fragment : String} {fault : Fault}
    (obstacle : obstacle? name fragment = some fault) (conversion : Option Conversion)
    (noted : Noted TypeTable) :
    registerNoted name fragment conversion noted = (.error fault, noted) := by
  rw [registerNoted, Action.state_bind, register, obstacle]
  exact Action.bind_of_error (Action.ofExcept_apply _ _)

end TypeTable

end LineGrammar
