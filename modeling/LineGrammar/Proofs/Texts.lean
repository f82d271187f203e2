import LineGrammar.Fragment
import LineGrammar.Text.Case
import Mathlib.Computability.Language

/-!
# What may stand in a line

The languages of the parts of a line, as the documentation of expressions has them and without any
pattern: white space between the parts, free text, words without regard to case, arguments with
their quotes and escapes, lists of them, and numerals.

An argument is bare or quoted. A backslash takes the next character with it, whatever that is, unless
it is a line feed; so a bare argument can hold blanks and quotes, and a quoted one its own quote.

In one place less is read than is documented. When the words of a list differ in their last characters
alone, these are looked up as one set of characters, and a capital beyond the first 2^16 code points is not
found in such a set: neither it nor its lower-case form is read as the word that ends in it.
-/

namespace LineGrammar.Texts

open LineGrammar.Text
open scoped Computability

/-- White space, or nothing. -/
def blank : Language Char := {text | ∀ c ∈ text, isSpace c = true}

/-- White space between two parts. -/
def gap : Language Char := {text | text ≠ [] ∧ text ∈ blank}

/-- Text without line feeds. -/
def free : Language Char := {text | '\n' ∉ text}

/-- What separates two elements of a list: white space, or a comma that white space may follow. -/
def separator : Language Char := {text | text ∈ gap ∨ ∃ rest ∈ blank, text = ',' :: rest}

/-- One text alone. -/
def exactly (word : List Char) : Language Char := {text | text = word}

/-- The texts that agree with a word when case is ignored. -/
def agreeing (word : List Char) : Language Char :=
  {text | List.Forall₂ (fun c d : Char => sameIgnoringCase c.toNat d.toNat = true) word text}

/-- The texts that agree with one of some words when case is ignored. -/
def agreeingWithAny (words : List String) : Language Char :=
  {text | ∃ word ∈ words, text ∈ agreeing word.toList}

/-- Whether a character is a capital beyond the first 2^16 code points. -/
def isHighCapital (c : Char) : Bool := 0xFFFF < lowerCode c.toNat && lowerCode c.toNat != c.toNat

/-- Words that differ in their last characters alone. -/
def DifferAtEnd (words : List String) : Prop :=
  (∃ front, ∀ word ∈ words, ∃ last, word.toList = front ++ [last]) ∧
    ∃ word ∈ words, ∃ other ∈ words, word ≠ other

/-- A word that no text is read as: it ends in a capital that is not found among the last characters of
the words. -/
def IsLost (words : List String) (word : String) : Prop :=
  DifferAtEnd words ∧ ∃ last ∈ word.toList.getLast?, isHighCapital last = true

/-- The words of a list in upper or lower case, without those that are lost. -/
def oneOf (words : List String) : Language Char :=
  {text | ∃ word ∈ words, text ∈ agreeing word.toList ∧ ¬IsLost words word}

/-- One unit of an argument: a backslash with the next character, or a plain character. -/
def unit (plain : Char → Bool) : Language Char :=
  {text | (∃ c, c ≠ '\n' ∧ text = [backslash, c]) ∨ ∃ c, plain c = true ∧ text = [c]}

/-- Whether a character stands for itself between two quotes. -/
def isInside (quote c : Char) : Bool := c != backslash && c != quote

/-- Whether a character stands for itself in a bare argument. -/
def isBare (c : Char) : Bool :=
  c != backslash && c != doubleQuote && c != apostrophe && !isSpace c

/-- Whether a character stands for itself in a bare element of a list. -/
def isBareInList (c : Char) : Bool := isBare c && c != ','

/-- Units without quotes around them, at least one of them. -/
def bare (plain : Char → Bool) : Language Char := {text | text ≠ [] ∧ text ∈ (unit plain)∗}

/-- Units between two quotes. -/
def enclosed (quote : Char) : Language Char :=
  {text | ∃ inside ∈ (unit (isInside quote))∗, text = quote :: (inside ++ [quote])}

/-- An argument: a bare one, or one in double or single quotes. -/
def argumentOf (plain : Char → Bool) : Language Char :=
  bare plain + (enclosed doubleQuote + enclosed apostrophe)

/-- An argument that stands alone. -/
def argument : Language Char := argumentOf isBare

/-- An argument that is an element of a list. -/
def listArgument : Language Char := argumentOf isBareInList

/-- Decimal digits, at least one of them. -/
def digits : Language Char := {text | text ≠ [] ∧ ∀ c ∈ text, isDecimal c = true}

/-- A numeral with one of some signs, and possibly with a fraction. -/
def numeral (signs : List (List Char)) (fractional : Bool) : Language Char :=
  {text | ∃ sign ∈ signs, ∃ whole ∈ digits, ∃ part,
    (part = [] ∨ fractional = true ∧ ∃ decimals ∈ digits, part = '.' :: decimals) ∧
      text = sign ++ (whole ++ part)}

/-- A text bare or between two equal quotes. -/
def quotable (texts : Language Char) : Language Char :=
  {text | text ∈ texts ∨ ∃ quote, Fragment.isQuote quote = true ∧
    ∃ inside ∈ texts, text = quote :: (inside ++ [quote])}

/-- The numerals of the types that are there from the start. -/
def ofType (name : String) : Language Char :=
  match name with
  | "Integer" => quotable (numeral [[], ['+'], ['-']] false)
  | "+Integer" => quotable (numeral [[], ['+']] false)
  | "-Integer" => quotable (numeral [['-']] false)
  | "Float" => quotable (numeral [[], ['+'], ['-']] true)
  | "+Float" => quotable (numeral [[], ['+']] true)
  | "-Float" => quotable (numeral [['-']] true)
  | _ => 0

/-- One text, or several with separators between them. -/
def listOf (texts : Language Char) : Language Char := texts * (separator * texts)∗

/-- Every character of white space is a blank. -/
@[simp] theorem mem_blank {text : List Char} : text ∈ blank ↔ ∀ c ∈ text, isSpace c = true := Iff.rfl

/-- White space between two parts is not empty. -/
@[simp] theorem mem_gap {text : List Char} : text ∈ gap ↔ text ≠ [] ∧ text ∈ blank := Iff.rfl

/-- One text alone is that text. -/
@[simp] theorem mem_exactly {word text : List Char} : text ∈ exactly word ↔ text = word := Iff.rfl

/-- A text agrees with a word character by character. -/
@[simp] theorem mem_agreeing {word text : List Char} : text ∈ agreeing word ↔
    List.Forall₂ (fun c d : Char => sameIgnoringCase c.toNat d.toNat = true) word text := Iff.rfl

/-- A text agrees with one of some words when it does with a word of them. -/
@[simp] theorem mem_agreeingWithAny {words : List String} {text : List Char} :
    text ∈ agreeingWithAny words ↔ ∃ word ∈ words, text ∈ agreeing word.toList := Iff.rfl

/-- A text is read as one of some words when it agrees with one that is not lost. -/
@[simp] theorem mem_oneOf {words : List String} {text : List Char} :
    text ∈ oneOf words ↔ ∃ word ∈ words, text ∈ agreeing word.toList ∧ ¬IsLost words word := Iff.rfl

/-- What is read as a word agrees with it. -/
theorem mem_agreeingWithAny_of_mem_oneOf {words : List String} {text : List Char} (taken : text ∈ oneOf words) :
    text ∈ agreeingWithAny words := by
  obtain ⟨word, listed, agree, -⟩ := taken
  exact ⟨word, listed, agree⟩

/-- Where no word ends in a capital beyond the first 2^16 code points, every text that agrees with a word is
read as one. -/
theorem oneOf_eq {words : List String}
    (plain : ∀ word ∈ words, ∀ last ∈ word.toList.getLast?, isHighCapital last = false) :
    oneOf words = agreeingWithAny words := by
  refine Set.Subset.antisymm (fun _ => mem_agreeingWithAny_of_mem_oneOf)
    fun text ⟨word, listed, agree⟩ => ⟨word, listed, agree, ?_⟩
  rintro ⟨-, last, isLast, high⟩
  rw [plain word listed last isLast] at high
  cases high

end LineGrammar.Texts
