import LineGrammar.Yaml.Meaning

/-!
# YAML

A text in YAML stands for a document. A text may hold no document at all; that counts as null.
-/

namespace LineGrammar.Yaml

/-- Whether a text may hold a character. -/
def isAcceptable (c : Char) : Bool :=
  c == '\t' || c == '\n' || c == '\r' || (' ' ≤ c && c ≤ '~') || c == '\u0085'
    || ('\u00a0' ≤ c && c != '\ufffe' && c != '\uffff')

/-- The first character that no text may hold, with its position. -/
def unacceptable? : Nat → List Char → Option DocumentFault
  | _, [] => none
  | position, c :: rest =>
    if isAcceptable c then unacceptable? (position + 1) rest
    else some (.unacceptable c.toNat position)

/-- A text with plain line feeds at the ends of its lines. -/
def withLineFeeds : List Char → List Char
  | [] => []
  | ['\r'] => ['\n']
  | '\r' :: c :: rest =>
    if c = '\n' then withLineFeeds (c :: rest) else '\n' :: withLineFeeds (c :: rest)
  | c :: rest => c :: withLineFeeds rest

/-- The document in a text of a given name. -/
def read (path text : String) : Except Fault Document :=
  let text := withLineFeeds text.toList
  match unacceptable? 0 text with
  | some fault => .error (.document path fault)
  | none =>
    match readNode plainTag text with
    | .error fault => .error (.document path fault)
    | .ok none => .ok .null
    | .ok (some node) => meaning path node

end LineGrammar.Yaml
