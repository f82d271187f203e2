import LineGrammar.Yaml.Scanner

/-!
# Nodes

The tokens of a document form a tree of nodes: scalars, sequences and mappings, each with a tag. A
node may have an anchor, and an alias stands for the node of its anchor again. A plain scalar
without a tag of its own is given one by its text; that is left to a function, so that this module
knows nothing of data. A text holds one document or none.

Reading a collection consumes a token in every round, and a text has no more than a few tokens for
each of its characters; the rounds allowed are bounded accordingly.
-/

namespace LineGrammar.Yaml

/-- The tag of a standard kind of data. -/
def standardTag (kind : String) : String := "tag:yaml.org,2002:" ++ kind

/-- A part of a document. -/
inductive Node where
  | scalar (tag text : String) (start : Mark)
  | sequence (tag : String) (elements : List Node) (start : Mark)
  | mapping (tag : String) (entries : List (Node × Node)) (start : Mark)
  /-- An alias inside of the node that it stands for. -/
  | cycle (start : Mark)
deriving Inhabited

/-- Where a node starts. -/
def Node.start : Node → Mark
  | .scalar _ _ start | .sequence _ _ start | .mapping _ _ start | .cycle start => start

/-- What a node is called in messages. -/
def Node.kind : Node → String
  | .scalar .. => "scalar"
  | .sequence .. => "sequence"
  | .mapping .. => "mapping"
  | .cycle _ => "sequence"

/-- The names that hold in a document: tag handles with what they stand for, and anchors with their
nodes. -/
structure Names where
  handles : List (String × String)
  anchors : List (String × Node)

/-- A step of reading nodes. -/
abbrev Compose (α : Type) := StateT Names Scan α

namespace Compose

/-- The handles that need no directive. -/
def defaultHandles : List (String × String) := [("!", "!"), ("!!", standardTag "")]

/-- Fails because the tokens form no document. -/
def refuse {α : Type} (context : Option (String × Mark)) (problem : String) (place : Mark) :
    Compose α :=
  throw (.marked .parsing context problem place)

/-- Fails because the names do not fit. -/
def refuseName {α : Type} (context : Option (String × Mark)) (problem : String) (place : Mark) :
    Compose α :=
  throw (.marked .composing context problem place)

/-- The next token. -/
def next : Compose Token := (Scanner.next : Scan Token)

/-- Takes the next token. -/
def take : Compose Token := (Scanner.take : Scan Token)

/-- Whether the next token is of one of some kinds. -/
def isNext (kinds : List TokenKind) : Compose Bool := do
  return kinds.contains (← next).kind

/-- An anchor, a tag, and where the first of them starts. -/
structure Properties where
  anchor : Option String
  tag : Option String
  start : Option Mark

/-- The anchor that comes next, if one does. -/
def takeAnchor? : Compose (Option (String × Mark)) := do
  let token ← next
  match token.kind with
  | .anchor name =>
    let _ ← take
    return some (name, token.start)
  | _ => return none

/-- The tag that comes next, if one does. -/
def takeTag? : Compose (Option (Option String × String × Mark)) := do
  let token ← next
  match token.kind with
  | .tag handle suffix =>
    let _ ← take
    return some (handle, suffix, token.start)
  | _ => return none

/-- A tag in full. -/
def resolved (start : Mark) (handle : Option String) (suffix : String) (place : Mark) :
    Compose String := do
  match handle with
  | none => return suffix
  | some handle =>
    match (← get).handles.lookup handle with
    | some stem => return stem ++ suffix
    | none =>
      refuse (some ("while parsing a node", start))
        ("found undefined tag handle " ++ Text.quoted handle) place

/-- The anchor and the tag of a node, in either order. -/
def properties : Compose Properties := do
  let first ← takeAnchor?
  let tag ← takeTag?
  let second ← if first.isNone && tag.isSome then takeAnchor? else pure none
  let start := (first.map (·.2)).or (tag.map (·.2.2))
  let tag ← match tag with
    | some (handle, suffix, place) =>
      some <$> resolved (start.getD place) handle suffix place
    | none => pure none
  return ⟨(first.or second).map (·.1), tag, start⟩

/-- Lets an anchor stand for a node that is only beginning. -/
def reserve (anchor : Option String) (start : Mark) : Compose Unit := do
  match anchor with
  | none => return ()
  | some name =>
    let names ← get
    match names.anchors.lookup name with
    | some node =>
      refuseName
        (some ("found duplicate anchor " ++ Text.quoted name ++ "; first occurrence", node.start))
        "second occurrence" start
    | none => set { names with anchors := (name, .cycle start) :: names.anchors }

/-- Lets an anchor stand for a node. -/
def settle (anchor : Option String) (node : Node) : Compose Node := do
  if let some name := anchor then
    modify fun names => { names with anchors := (name, node) :: names.anchors }
  return node

/-- The tag of a collection. -/
def collectionTag (tag : Option String) (kind : String) : String :=
  match tag with
  | none | some "!" => standardTag kind
  | some tag => tag

/-- The node of an alias. -/
def aliased (name : String) (start : Mark) : Compose Node := do
  match (← get).anchors.lookup name with
  | some node => return node
  | none => refuseName none ("found undefined alias " ++ Text.quoted name) start

/-- A node without text. -/
def emptyNode (tagOf : String → String) (start : Mark) : Node := .scalar (tagOf "") "" start

/-- Where a node stands: inside of brackets, in a block, or in a block where a sequence need not be
indented. -/
inductive Place where
  | flow
  | block
  | blockValue
deriving DecidableEq

mutual

/-- A node. -/
def node (tagOf : String → String) : Nat → Place → Compose Node
  | 0, _ => do refuse none "nested too deeply" (← next).start
  | rounds + 1, place => do
    let token ← next
    match token.kind with
    | .alias name =>
      let _ ← take
      aliased name token.start
    | _ =>
      let properties ← properties
      let token ← next
      let start := properties.start.getD token.start
      let anchor := properties.anchor
      let inBlock := place != .flow
      match token.kind with
      | .scalar text plain =>
        let _ ← take
        reserve anchor start
        let tag := match properties.tag with
          | some "!" => tagOf text
          | some tag => tag
          | none => if plain then tagOf text else standardTag "str"
        settle anchor (.scalar tag text start)
      | .flowSequenceStart =>
        reserve anchor start
        let opening ← take
        let elements ← flowElements tagOf opening.start rounds true
        settle anchor (.sequence (collectionTag properties.tag "seq") elements start)
      | .flowMappingStart =>
        reserve anchor start
        let opening ← take
        let entries ← flowEntries tagOf opening.start rounds true
        settle anchor (.mapping (collectionTag properties.tag "map") entries start)
      | kind =>
        if kind == .blockEntry && place == .blockValue then
          reserve anchor start
          let elements ← plainElements tagOf rounds
          settle anchor (.sequence (collectionTag properties.tag "seq") elements start)
        else if kind == .blockSequenceStart && inBlock then
          reserve anchor start
          let opening ← take
          let elements ← blockElements tagOf opening.start rounds
          settle anchor (.sequence (collectionTag properties.tag "seq") elements start)
        else if kind == .blockMappingStart && inBlock then
          reserve anchor start
          let opening ← take
          let entries ← blockEntries tagOf opening.start rounds
          settle anchor (.mapping (collectionTag properties.tag "map") entries start)
        else if anchor.isSome || properties.tag.isSome then
          reserve anchor start
          let tag := match properties.tag with
            | none | some "!" => tagOf ""
            | some tag => tag
          settle anchor (.scalar tag "" start)
        else
          refuse
            (some ("while parsing a " ++ (if inBlock then "block" else "flow") ++ " node", start))
            ("expected the node content, but found " ++ kind.shown) token.start

/-- The elements of a block sequence with an indentation of its own. -/
def blockElements (tagOf : String → String) (opening : Mark) : Nat → Compose (List Node)
  | 0 => return []
  | rounds + 1 => do
    let token ← next
    match token.kind with
    | .blockEntry =>
      let _ ← take
      let element ←
        if ← isNext [.blockEntry, .blockEnd] then pure (emptyNode tagOf token.stop)
        else node tagOf rounds .block
      return element :: (← blockElements tagOf opening rounds)
    | .blockEnd =>
      let _ ← take
      return []
    | kind =>
      refuse (some ("while parsing a block collection", opening))
        ("expected <block end>, but found " ++ kind.shown) token.start

/-- The elements of a block sequence that is not indented. -/
def plainElements (tagOf : String → String) : Nat → Compose (List Node)
  | 0 => return []
  | rounds + 1 => do
    let token ← next
    match token.kind with
    | .blockEntry =>
      let _ ← take
      let element ←
        if ← isNext [.blockEntry, .key, .value, .blockEnd] then pure (emptyNode tagOf token.stop)
        else node tagOf rounds .block
      return element :: (← plainElements tagOf rounds)
    | _ => return []

/-- The entries of a block mapping. -/
def blockEntries (tagOf : String → String) (opening : Mark) : Nat → Compose (List (Node × Node))
  | 0 => return []
  | rounds + 1 => do
    let token ← next
    match token.kind with
    | .key =>
      let _ ← take
      let key ←
        if ← isNext [.key, .value, .blockEnd] then pure (emptyNode tagOf token.stop)
        else node tagOf rounds .blockValue
      let following ← next
      let value ←
        if following.kind == .value then do
          let _ ← take
          if ← isNext [.key, .value, .blockEnd] then pure (emptyNode tagOf following.stop)
          else node tagOf rounds .blockValue
        else pure (emptyNode tagOf following.start)
      return (key, value) :: (← blockEntries tagOf opening rounds)
    | .blockEnd =>
      let _ ← take
      return []
    | kind =>
      refuse (some ("while parsing a block mapping", opening))
        ("expected <block end>, but found " ++ kind.shown) token.start

/-- The value after a key in brackets, up to a comma or a closing bracket. -/
def flowValue (tagOf : String → String) (closing : TokenKind) : Nat → Compose Node
  | 0 => return default
  | rounds + 1 => do
    let token ← next
    if token.kind == .value then
      let _ ← take
      if ← isNext [.flowEntry, closing] then pure (emptyNode tagOf token.stop)
      else node tagOf rounds .flow
    else pure (emptyNode tagOf token.start)

/-- The elements of a sequence in brackets. An element may be a mapping of one entry without
brackets of its own. -/
def flowElements (tagOf : String → String) (opening : Mark) :
    Nat → Bool → Compose (List Node)
  | 0, _ => return []
  | rounds + 1, first => do
    let token ← next
    if token.kind == .flowSequenceEnd then
      let _ ← take
      return []
    else
      if !first then
        if token.kind == .flowEntry then
          let _ ← take
        else
          refuse (some ("while parsing a flow sequence", opening))
            ("expected ',' or ']', but got " ++ token.kind.shown) token.start
      let token ← next
      match token.kind with
      | .key =>
        let _ ← take
        let key ←
          if ← isNext [.value, .flowEntry, .flowSequenceEnd] then pure (emptyNode tagOf token.stop)
          else node tagOf rounds .flow
        let value ← flowValue tagOf .flowSequenceEnd rounds
        let pair := Node.mapping (standardTag "map") [(key, value)] token.start
        return pair :: (← flowElements tagOf opening rounds false)
      | .flowSequenceEnd =>
        let _ ← take
        return []
      | _ =>
        let element ← node tagOf rounds .flow
        return element :: (← flowElements tagOf opening rounds false)

/-- The entries of a mapping in brackets. -/
def flowEntries (tagOf : String → String) (opening : Mark) :
    Nat → Bool → Compose (List (Node × Node))
  | 0, _ => return []
  | rounds + 1, first => do
    let token ← next
    if token.kind == .flowMappingEnd then
      let _ ← take
      return []
    else
      if !first then
        if token.kind == .flowEntry then
          let _ ← take
        else
          refuse (some ("while parsing a flow mapping", opening))
            ("expected ',' or '\x7d', but got " ++ token.kind.shown) token.start
      let token ← next
      match token.kind with
      | .key =>
        let _ ← take
        let key ←
          if ← isNext [.value, .flowEntry, .flowMappingEnd] then pure (emptyNode tagOf token.stop)
          else node tagOf rounds .flow
        let value ← flowValue tagOf .flowMappingEnd rounds
        return (key, value) :: (← flowEntries tagOf opening rounds false)
      | .flowMappingEnd =>
        let _ ← take
        return []
      | _ =>
        let key ← node tagOf rounds .flow
        let value := emptyNode tagOf (← next).start
        return (key, value) :: (← flowEntries tagOf opening rounds false)

end

/-- The directives before a document. -/
def directives : Nat → Bool → Compose Unit
  | 0, _ => return ()
  | rounds + 1, versioned => do
    let token ← next
    match token.kind with
    | .directive content =>
      let _ ← take
      match content with
      | .version major _ =>
        if versioned then refuse none "found duplicate YAML directive" token.start
        else if major != 1 then
          refuse none "found incompatible YAML document (version 1.* is required)" token.start
        else directives rounds true
      | .tag handle stem =>
        let names ← get
        if (names.handles.lookup handle).isSome then
          refuse none ("duplicate tag handle " ++ Text.quoted handle) token.start
        else
          set { names with handles := (handle, stem) :: names.handles }
          directives rounds versioned
      | .unknown => directives rounds versioned
    | _ => return ()

/-- The marks of ends of documents. -/
def skipEnds : Nat → Compose Unit
  | 0 => return ()
  | rounds + 1 => do
    if ← isNext [.documentEnd] then
      let _ ← take
      skipEnds rounds

/-- The explicit start of a document, and where it stands; nothing at the end of the text. -/
def explicitStart (rounds : Nat) : Compose (Option Mark) := do
  skipEnds rounds
  let token ← next
  if token.kind == .streamEnd then return none
  else
    modify fun names => { names with handles := [] }
    directives rounds false
    let opening ← next
    if opening.kind != .documentStart then
      refuse none ("expected '<document start>', but found " ++ opening.kind.shown) opening.start
    else
      let _ ← take
      modify fun names => { names with handles := names.handles ++ defaultHandles }
      return some token.start

/-- The content of a document. -/
def content (tagOf : String → String) (rounds : Nat) : Compose Node := do
  let token ← next
  match token.kind with
  | .directive _ | .documentStart | .documentEnd | .streamEnd =>
    return emptyNode tagOf token.start
  | _ => node tagOf rounds .block

/-- The first document of a text, if it has one. -/
def firstDocument (tagOf : String → String) (rounds : Nat) : Compose (Option Node) := do
  let _ ← take
  let token ← next
  match token.kind with
  | .directive _ | .documentStart | .streamEnd =>
    match ← explicitStart rounds with
    | none => return none
    | some _ => some <$> content tagOf rounds
  | _ => some <$> node tagOf rounds .block

/-- The only document of a text, if it has one. -/
def onlyDocument (tagOf : String → String) (rounds : Nat) : Compose (Option Node) := do
  match ← firstDocument tagOf rounds with
  | none => return none
  | some node =>
    match ← explicitStart rounds with
    | none => return some node
    | some place =>
      refuseName (some ("expected a single document in the stream", node.start))
        "but found another document" place

end Compose

/-- The node of the document in a text, if there is one. -/
def readNode (tagOf : String → String) (text : List Char) :
    Except DocumentFault (Option Node) :=
  let rounds := 8 * text.length + 64
  match ((Compose.onlyDocument tagOf rounds).run ⟨Compose.defaultHandles, []⟩).run
      (Scanner.start text) with
  | .ok ((node, _), _) => .ok node
  | .error fault => .error fault

end LineGrammar.Yaml
