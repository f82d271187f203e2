import LineGrammar.Numeral.Integer
import LineGrammar.Text.Quoted

/-!
# Why a text is no pattern

A reader of patterns stops at the first fault. A fault has a cause and, when it belongs to a place,
the position of that place in the pattern; its message names the line and column as well when the
pattern has several lines. Three refusals are no faults of the notation: a repetition count with too
many digits, one beyond what can be counted, and two switches that exclude each other.
-/

namespace LineGrammar.Pattern

open LineGrammar.Text

/-- What is wrong with a pattern. Texts in a cause are parts of the pattern itself. -/
inductive Cause where
  | danglingBackslash
  | badEscape (escape : String)
  | incompleteEscape (escape : String)
  | octalTooGreat (escape : String)
  | missingOpeningBrace
  | unknownCharacterName (name : String)
  /-- The name of something is left out. -/
  | missingName (what : String)
  /-- The text ends within a name that a terminator should close. -/
  | unterminatedName (terminator : Char)
  | badGroupName (name : String)
  | repeatedGroupName (name : String) (group earlier : Nat)
  | unknownGroupName (name : String)
  | badGroupNumber
  | invalidReference (group : Nat)
  | openReference
  | referenceIntoLookBehind
  | unterminatedSet
  | badRange (low high : String)
  | leastAboveGreatest
  | nothingToRepeat
  | repeatedRepetition
  | endInGroup
  | unknownExtension (extension : String)
  | unterminatedComment
  | unterminatedGroup
  | unbalancedParenthesis
  | tooManyBranches
  | switchesNotFirst
  | localeSwitch
  | exclusiveSwitches
  | characterSetOff
  | unknownSwitch
  | missingSwitchEnd
  | missingSwitch
  | missingColon
  | globalSwitchOn
  | globalSwitchOff
  | switchOnAndOff
  | variableLookBehind
  | farLookBehind
  | templateRepetition (operator : String)
deriving DecidableEq, Repr

/-- The wording of a cause. -/
def Cause.message : Cause → String
  | .danglingBackslash => "bad escape (end of pattern)"
  | .badEscape escape => "bad escape " ++ escape
  | .incompleteEscape escape => "incomplete escape " ++ escape
  | .octalTooGreat escape => "octal escape value " ++ escape ++ " outside of range 0-0o377"
  | .missingOpeningBrace => "missing \x7b"
  | .unknownCharacterName name => "undefined character name " ++ quoted name
  | .missingName what => "missing " ++ what
  | .unterminatedName terminator =>
    "missing " ++ terminator.toString ++ ", unterminated name"
  | .badGroupName name => "bad character in group name " ++ quoted name
  | .repeatedGroupName name group earlier =>
    "redefinition of group name " ++ quoted name ++ " as group " ++ toString group
      ++ "; was group " ++ toString earlier
  | .unknownGroupName name => "unknown group name " ++ quoted name
  | .badGroupNumber => "bad group number"
  | .invalidReference group => "invalid group reference " ++ toString group
  | .openReference => "cannot refer to an open group"
  | .referenceIntoLookBehind =>
    "cannot refer to group defined in the same lookbehind subpattern"
  | .unterminatedSet => "unterminated character set"
  | .badRange low high => "bad character range " ++ low ++ "-" ++ high
  | .leastAboveGreatest => "min repeat greater than max repeat"
  | .nothingToRepeat => "nothing to repeat"
  | .repeatedRepetition => "multiple repeat"
  | .endInGroup => "unexpected end of pattern"
  | .unknownExtension extension => "unknown extension ?" ++ extension
  | .unterminatedComment => "missing ), unterminated comment"
  | .unterminatedGroup => "missing ), unterminated subpattern"
  | .unbalancedParenthesis => "unbalanced parenthesis"
  | .tooManyBranches => "conditional backref with more than two branches"
  | .switchesNotFirst => "global flags not at the start of the expression"
  | .localeSwitch => "bad inline flags: cannot use 'L' flag with a str pattern"
  | .exclusiveSwitches => "bad inline flags: flags 'a', 'u' and 'L' are incompatible"
  | .characterSetOff => "bad inline flags: cannot turn off flags 'a', 'u' and 'L'"
  | .unknownSwitch => "unknown flag"
  | .missingSwitchEnd => "missing -, : or )"
  | .missingSwitch => "missing flag"
  | .missingColon => "missing :"
  | .globalSwitchOn => "bad inline flags: cannot turn on global flag"
  | .globalSwitchOff => "bad inline flags: cannot turn off global flag"
  | .switchOnAndOff => "bad inline flags: flag turned on and off"
  | .variableLookBehind => "look-behind requires fixed-width pattern"
  | .farLookBehind => "looks too much behind"
  | .templateRepetition operator => "internal: unsupported template operator " ++ operator

/-- A cause with the place it belongs to. -/
structure Fault where
  cause : Cause
  position : Option Nat
deriving DecidableEq, Repr

/-- The number of line feeds in a text. -/
def lineFeeds (text : List Char) : Nat := text.countP (· == '\n')

/-- The wording of a fault in a pattern, with the place it belongs to. -/
def Fault.message (pattern : String) (fault : Fault) : String :=
  match fault.position with
  | none => fault.cause.message
  | some position =>
    let chars := pattern.toList
    let before := chars.take position
    let placed := fault.cause.message ++ " at position " ++ toString position
    if chars.contains '\n' then
      placed ++ " (line " ++ toString (lineFeeds before + 1) ++ ", column "
        ++ toString ((before.reverse.takeWhile (· != '\n')).length + 1) ++ ")"
    else placed

/-- A refusal to read a pattern. -/
inductive Refusal where
  | fault (found : Fault)
  /-- A repetition count with more digits than a numeral may have. -/
  | overlongCount (digits : Nat)
  /-- A repetition count of 2^32 - 1 or more. -/
  | excessiveCount
  /-- Both character sets are asked for. -/
  | exclusiveCharacterSets
deriving DecidableEq, Repr

/-- The wording of a refusal. -/
def Refusal.message (pattern : String) : Refusal → String
  | .fault found => found.message pattern
  | .overlongCount digits => (Numeral.IntegerError.tooManyDigits digits).message pattern
  | .excessiveCount => "the repetition number is too large"
  | .exclusiveCharacterSets => "ASCII and UNICODE flags are incompatible"

end LineGrammar.Pattern
