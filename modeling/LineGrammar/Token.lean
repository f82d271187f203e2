import LineGrammar.Fault
import LineGrammar.Text.Alphanumeric
import LineGrammar.Text.Space

/-!
# The tokens of a segment

A segment is scanned from left to right. White space separates tokens. A run of word characters,
with or without one of the sigils `+`, `:` and `*` directly before it, is a named token, and may
carry an annotation in angle brackets, a type after an at sign, and choices in braces, in this
order; each of them counts only when it is complete. Any other run without white space is a symbol.

A name without a sigil is a word and takes neither type nor choices; a name after `+` stands for
free text, and drops them.
-/

namespace LineGrammar

open LineGrammar.Text

/-- What a token stands for in a line. -/
inductive TokenKind where
  /-- The word itself. -/
  | word
  /-- The symbol itself. -/
  | symbol
  /-- Any text without line feeds, as short as possible. -/
  | freeText
  /-- One argument. -/
  | argument
  /-- One or more arguments. -/
  | argumentList
deriving DecidableEq, Repr

/-- The name of a kind. -/
def TokenKind.name : TokenKind → String
  | .word => "word"
  | .symbol => "symbol"
  | .freeText => "free_text"
  | .argument => "argument"
  | .argumentList => "argument_list"

/-- The kind of the names after a sigil. -/
def TokenKind.ofSigil? : Char → Option TokenKind
  | '+' => some .freeText
  | ':' => some .argument
  | '*' => some .argumentList
  | _ => none

/-- One token of a segment. -/
structure Token where
  kind : TokenKind
  name : String
  remark : Option String
  type : Option String
  choices : Option (List String)
deriving DecidableEq, Repr

namespace Token

/-- A part of a token between brackets: a run of admitted characters that is not empty and is
followed by the closing bracket. Otherwise nothing is taken. -/
def bracketed (opening closing : Char) (admitted : Char → Bool) (text : List Char) :
    Option (List Char) × List Char :=
  match text with
  | [] => (none, [])
  | c :: rest =>
    if c = opening then
      let content := rest.takeWhile admitted
      match rest.dropWhile admitted with
      | d :: after =>
        if d = closing && !content.isEmpty then (some content, after) else (none, text)
      | [] => (none, text)
    else (none, text)

/-- The annotation at the front of a text. -/
def takeRemark : List Char → Option (List Char) × List Char :=
  bracketed '<' '>' (· != '>')

/-- The type at the front of a text. -/
def takeType (text : List Char) : Option (List Char) × List Char :=
  match text with
  | '@' :: rest =>
    let admitted (c : Char) : Bool := isWord c || c == '+' || c == '-'
    let content := rest.takeWhile admitted
    if content.isEmpty then (none, text) else (some content, rest.dropWhile admitted)
  | _ => (none, text)

/-- The choices at the front of a text. -/
def takeChoices : List Char → Option (List Char) × List Char :=
  bracketed '\x7b' '\x7d' fun c => isWord c || c == ','

/-- The words of a list of choices; what is left empty between commas does not count. -/
def choiceWords (content : List Char) : List String :=
  ((content.splitOn ',').filter (!·.isEmpty)).map String.ofList

/-- What a scan finds: a symbol, or a name with its parts. -/
inductive Piece where
  | symbol (text : List Char)
  | named (sigil : Option Char) (name : List Char) (remark type choices : Option (List Char))
deriving DecidableEq

/-- A name with its parts and what follows, from the first character of the name on. -/
def takeNamed (sigil : Option Char) (text : List Char) : Piece × List Char :=
  let name := text.takeWhile isWord
  let (remark, rest) := takeRemark (text.dropWhile isWord)
  let (type, rest) := takeType rest
  let (choices, rest) := takeChoices rest
  (.named sigil name remark type choices, rest)

/-- A symbol and what follows. -/
def takeSymbol (text : List Char) : Piece × List Char :=
  (.symbol (text.takeWhile (!isSpace ·)), text.dropWhile (!isSpace ·))

/-- The first piece of a text that does not begin with white space, and what follows. -/
def takePiece (text : List Char) : Piece × List Char :=
  match text with
  | c :: d :: rest =>
    if isWord c then takeNamed none text
    else if (TokenKind.ofSigil? c).isSome && isWord d then takeNamed (some c) (d :: rest)
    else takeSymbol text
  | [c] => if isWord c then takeNamed none text else takeSymbol text
  | [] => takeSymbol text

/-- The pieces of a text, at most a given number of them. -/
def piecesWithin : Nat → List Char → List Piece
  | 0, _ => []
  | count + 1, text =>
    match trimFront text with
    | [] => []
    | text =>
      let (piece, rest) := takePiece text
      piece :: piecesWithin count rest

/-- The pieces of a text. Each of them takes a character, so there are at most as many. -/
def pieces (text : List Char) : List Piece := piecesWithin text.length text

/-- The token of a piece in a segment. -/
def ofPiece (segment : String) : Piece → Except Fault Token
  | .symbol text => .ok ⟨.symbol, String.ofList text, none, none, none⟩
  | .named sigil name remark type choices =>
    let name := String.ofList name
    let remark := remark.map String.ofList
    match sigil.bind TokenKind.ofSigil? with
    | none =>
      if type.isSome || choices.isSome then .error (.missingSigil name (some segment))
      else .ok ⟨.word, name, remark, none, none⟩
    | some .freeText => .ok ⟨.freeText, name, remark, none, none⟩
    | some kind =>
      .ok ⟨kind, name, remark, type.map String.ofList, choices.map choiceWords⟩

/-- The tokens of a segment. -/
def scan (segment : String) : Except Fault (List Token) :=
  (pieces segment.toList).mapM (ofPiece segment)

end Token

end LineGrammar
