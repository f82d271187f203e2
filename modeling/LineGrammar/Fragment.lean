import LineGrammar.Fault
import LineGrammar.Pattern.Basic
import LineGrammar.Pattern.Escape

/-!
# Fragments

The pattern of an expression is put together from fragments: texts that stand for one unit wherever
they are placed and that capture nothing. This module holds the fragments for arguments, lists and
choices, and the rule by which the text of an argument is unwrapped: its outer quotes come off, and
a backslash before a quote, a comma or a blank goes.

A fragment from outside is asked what it adds to a pattern by reading it inside of one.
-/

namespace LineGrammar.Fragment

open LineGrammar.Text

/-- One argument: a bare run in which a backslash frees the next character, or a text between double
or single quotes. -/
def argument : String :=
  "(?:(?:\\\\.|[^\\\\\"'\\s])+|\"(?:\\\\.|[^\\\\\"])*\"|'(?:\\\\.|[^\\\\'])*')"

/-- One element of a list: an argument whose bare run also ends at a comma. -/
def listArgument : String :=
  "(?:(?:\\\\.|[^\\\\\"'\\s,])+|\"(?:\\\\.|[^\\\\\"])*\"|'(?:\\\\.|[^\\\\'])*')"

/-- Any text without line feeds, as short as possible. -/
def freeText : String := "(?:.*?)"

/-- What separates the elements of a list. -/
def listSeparator : String := "(?:,\\s*|\\s+)"

/-- The white space before every word and capture. -/
def separator : String := "\\s+"

/-- A name with its sigil and constraints, or another run without white space. -/
def token : String :=
  "([+:*])?(\\w+)(?:<([^>]+)>)?(?:@([\\w+-]+))?(?:\\\x7b([\\w,]+)\\\x7d)?|(\\S+)"

/-- One or more of a fragment, with list separators between them. -/
def oneOrMoreOf (single : String) : String :=
  "(?:" ++ single ++ "(?:" ++ listSeparator ++ single ++ ")*?)"

/-- One element of a list: a fragment that ends at a separator or at the end. -/
def listElement (single : String) : String :=
  "(?:" ++ single ++ ")(?=" ++ listSeparator ++ "|\\Z)"

/-- One of some words, without regard to case. -/
def oneOf (words : List String) : String :=
  "(?i:" ++ "|".intercalate (words.map Pattern.escaped) ++ ")"

/-- A fragment bare, in double quotes or in single quotes. -/
def quotedVariants (fragment : String) : String :=
  "(?:" ++ fragment ++ "|\"" ++ fragment ++ "\"|'" ++ fragment ++ "')"

/-- Whether a character ends or begins a quoted argument. -/
def isQuote (c : Char) : Bool := c == doubleQuote || c == apostrophe

/-- Takes off the first and the last character when they are the same quote. -/
def withoutQuotes (text : List Char) : List Char :=
  match text with
  | first :: second :: rest =>
    if isQuote first && (second :: rest).getLast? == some first then (second :: rest).dropLast
    else text
  | _ => text

/-- The characters that a backslash before them goes for. -/
def isEscapable (c : Char) : Bool := isQuote c || c == ' ' || c == ','

/-- Drops every backslash before a quote, a blank or a comma. -/
def withoutEscapes : List Char → List Char
  | [] => []
  | [c] => [c]
  | c :: d :: rest =>
    if c = backslash && isEscapable d then d :: withoutEscapes rest
    else c :: withoutEscapes (d :: rest)

/-- The text of an argument without its quotes and escapes. -/
def unwrap (text : String) : String :=
  String.ofList (withoutEscapes (withoutQuotes text.toList))

/-- The fragment of a pattern: its text, inside a part that turns its switches on. -/
def ofPattern (pattern : Pattern) : String :=
  let letters := pattern.switches.letters
  if letters.isEmpty then pattern.source
  else "(?" ++ String.ofList letters ++ ":" ++ pattern.source ++ ")"

/-- A fragment inside of a pattern. -/
def embedded (fragment : String) : String := "x(?:" ++ fragment ++ ")"

/-- The number of capturing groups that a fragment adds to a pattern around it. -/
def embeddedGroups (fragment : String) : Except Pattern.Refusal Nat := do
  return (← Pattern.read (embedded fragment) .none).groups

end LineGrammar.Fragment
