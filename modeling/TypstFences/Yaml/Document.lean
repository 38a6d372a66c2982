import TypstFences.Yaml.Node
import TypstFences.Yaml.Token

/-!
# Documents of YAML text

The tokens of a text are one document, which is a node, or there is none. What is missing between tokens is
an empty scalar. The readers use fuel for every node and every step from one part to the next, and it is
taken from the number of tokens.
-/

set_option autoImplicit false

namespace TypstFences.Yaml

/-- How far a document has been read: the tokens to come, the named nodes, and what the handles of tags stand
for. -/
structure Progress where
  tokens : List Token
  anchors : List (Text × Node)
  handles : List (Text × Text)
  deriving Inhabited

/-- A reader of tokens. -/
abbrev Reader (α : Type) : Type := StateT Progress (Except Fault) α

namespace Document

/-- How many sequences and mappings can be inside each other. -/
def mostLevels : Nat := 487

/-- The next token. -/
def peek : Reader Token := do
  match (← get).tokens with
  | [] => return .streamEnd
  | .fault fault :: _ => throw fault
  | token :: _ => return token

/-- The next token is passed over. -/
def drop : Reader Unit := modify fun progress => { progress with tokens := progress.tokens.tail }

/-- Whether the next token is one of some, and then it is passed over. -/
def dropIf (token : Token) : Reader Bool := do
  if (← peek) = token then
    drop
    return true
  else return false

/-- The handles of tags that stand for something in every document. -/
def usualHandles : List (Text × Text) := [("!".toList, "!".toList), ("!!".toList, Kind.tagStart)]

/-- An empty scalar. -/
def empty : Node := Node.ofScalar .null []

/-- What stands in front of a node: a name, and a tag with its handle resolved. -/
structure Properties where
  anchor : Option Text
  tag : Option Text
  deriving DecidableEq, Inhabited

namespace Properties

/-- Whether nothing stands in front of a node. -/
def isEmpty (properties : Properties) : Bool := properties.anchor.isNone && properties.tag.isNone

/-- The tag, unless it leaves the kind open. -/
def tag? (properties : Properties) : Option Text := properties.tag.filter (· != ['!'])

/-- The kind that the tag names, or another if it names none. -/
def kindOr (properties : Properties) (kind : Kind) : Kind :=
  (properties.tag?.map Kind.ofTag).getD kind

/-- The scalar with these properties. Without a kind a plain text is what it is written like, and so is any
text after a tag that leaves the kind open. -/
def scalar (properties : Properties) (text : Text) (isPlain : Bool) : Node :=
  let isOpen := properties.tag.isSome || isPlain
  Node.ofScalar (properties.kindOr (if isOpen then Kind.ofPlain text else .text)) text

end Properties

/-- The name in front of a node. -/
def readAnchor : Reader (Option Text) := do
  match ← peek with
  | .anchor name =>
    drop
    return some name
  | _ => return none

/-- The tag in front of a node, with its handle. -/
def readTag : Reader (Option (Option Text × Text)) := do
  match ← peek with
  | .tag handle name =>
    drop
    return some (handle, name)
  | _ => return none

/-- A tag with what its handle stands for. -/
def resolveTag : Option (Option Text × Text) → Reader (Option Text)
  | none => return none
  | some (none, name) => return some name
  | some (some handle, name) => do
    match (← get).handles.lookup handle with
    | some meaning => return some (meaning ++ name)
    | none => throw .misplacedToken

/-- What stands in front of a node, in either order. -/
def readProperties : Reader Properties := do
  let first ← readAnchor
  let tag ← readTag
  let anchor ← if first.isSome || tag.isNone then pure first else readAnchor
  return ⟨anchor, ← resolveTag tag⟩

/-- The node gets a name. -/
def setAnchor (properties : Properties) (node : Node) : Reader Unit :=
  match properties.anchor with
  | some name => modify fun progress => { progress with anchors := (name, node) :: progress.anchors }
  | none => return ()

/-- A name is given only once in a document. -/
def checkAnchor (properties : Properties) : Reader Unit := do
  match properties.anchor with
  | some name =>
    if ((← get).anchors.lookup name).isSome then throw .unknownReference else return ()
  | none => return ()

/-- The node that an alias refers to. -/
def readAlias (name : Text) : Reader Node := do
  match (← get).anchors.lookup name with
  | some node =>
    drop
    return node
  | none => throw .unknownReference

/-- An empty node, which must have properties. -/
def readEmpty (properties : Properties) : Reader Node := do
  if properties.isEmpty then throw .misplacedToken
  checkAnchor properties
  let node := properties.scalar [] true
  setAnchor properties node
  return node

/-- The node is read, unless a token comes instead that shows that it is empty. -/
def unlessAt (ends : List Token) (read : Reader Node) : Reader Node := do
  if (← peek) ∈ ends then return empty else read

/-- A colon and the value after it, or no value. -/
def readValue (ends : List Token) (read : Reader Node) : Reader Node := do
  if ← dropIf .value then unlessAt ends read else return empty

/-- The comma in front of an item between brackets, unless the item is the first. -/
def dropComma (isFirst : Bool) : Reader Unit :=
  if isFirst then return ()
  else do
    if ← dropIf .flowEntry then return () else throw .misplacedToken

/-- Where a node is: in a block, where also a list may be that is not indented, in a block, or between
brackets. -/
inductive Surroundings where
  | blockOrIndentless
  | block
  | brackets
  deriving DecidableEq, Inhabited

mutual

/-- The node at the next token, at a level. -/
def readNode (level : Nat) : Nat → Surroundings → Reader Node
  | 0, _ => throw .tooDeep
  | fuel + 1, surroundings => do
    if mostLevels < level then throw .tooDeep
    match ← peek with
    | .alias name => readAlias name
    | _ => readTagged level fuel surroundings (← readProperties)

/-- The node after its properties. -/
def readTagged (level : Nat) : Nat → Surroundings → Properties → Reader Node
  | 0, _, _ => throw .tooDeep
  | fuel + 1, surroundings, properties => do
    let finish (node : Node) : Reader Node := do
      setAnchor properties node
      return node
    let sequence (read : Reader (List Node)) : Reader Node := do
      checkAnchor properties
      let kind := properties.kindOr .list
      setAnchor properties (Node.ofItems kind [])
      finish (Node.ofItems kind (← read))
    let mapping (read : Reader (List (Node × Node))) : Reader Node := do
      checkAnchor properties
      let kind := properties.kindOr .map
      setAnchor properties (Node.ofPairs kind [])
      finish (Node.ofPairs kind (← read))
    let isBlock := surroundings != .brackets
    match ← peek with
    | .blockEntry =>
      if surroundings = .blockOrIndentless then sequence (readIndentless (level + 1) fuel)
      else readEmpty properties
    | .scalar text isPlain =>
      checkAnchor properties
      drop
      finish (properties.scalar text isPlain)
    | .flowSequenceStart => sequence do
      drop
      readFlowItems (level + 1) fuel true
    | .flowMappingStart => mapping do
      drop
      readFlowPairs (level + 1) fuel true
    | .blockSequenceStart =>
      if isBlock then sequence do
        drop
        readBlockItems (level + 1) fuel
      else readEmpty properties
    | .blockMappingStart =>
      if isBlock then mapping do
        drop
        readBlockPairs (level + 1) fuel
      else readEmpty properties
    | _ => readEmpty properties

/-- The items of a list in a block. -/
def readBlockItems (level : Nat) : Nat → Reader (List Node)
  | 0 => throw .tooDeep
  | fuel + 1 => do
    if ← dropIf .blockEntry then
      let item ← unlessAt [.blockEntry, .blockEnd] (readNode level fuel .block)
      return item :: (← readBlockItems level fuel)
    else if ← dropIf .blockEnd then return []
    else throw .misplacedToken

/-- The items of a list that is not indented. -/
def readIndentless (level : Nat) : Nat → Reader (List Node)
  | 0 => throw .tooDeep
  | fuel + 1 => do
    if ← dropIf .blockEntry then
      let item ← unlessAt [.blockEntry, .key, .value, .blockEnd] (readNode level fuel .block)
      return item :: (← readIndentless level fuel)
    else return []

/-- The pairs of a table in a block. -/
def readBlockPairs (level : Nat) : Nat → Reader (List (Node × Node))
  | 0 => throw .tooDeep
  | fuel + 1 => do
    if ← dropIf .key then
      let ends : List Token := [.key, .value, .blockEnd]
      let key ← unlessAt ends (readNode level fuel .blockOrIndentless)
      let value ← readValue ends (readNode level fuel .blockOrIndentless)
      return (key, value) :: (← readBlockPairs level fuel)
    else if ← dropIf .blockEnd then return []
    else throw .misplacedToken

/-- The items of a list between brackets, the first of them or others. A key and its value among them are a
table. -/
def readFlowItems (level : Nat) : Nat → Bool → Reader (List Node)
  | 0, _ => throw .tooDeep
  | fuel + 1, isFirst => do
    if ← dropIf .flowSequenceEnd then return []
    dropComma isFirst
    if ← dropIf .flowSequenceEnd then return []
    let ends : List Token := [.flowEntry, .flowSequenceEnd]
    let item ←
      if ← dropIf .key then do
        if mostLevels < level then throw .tooDeep
        let key ← unlessAt (.value :: ends) (readNode (level + 1) fuel .brackets)
        let value ← readValue ends (readNode (level + 1) fuel .brackets)
        pure (Node.ofPairs .map [(key, value)])
      else readNode level fuel .brackets
    return item :: (← readFlowItems level fuel false)

/-- The pairs of a table between braces, the first of them or others. A key may have no value. -/
def readFlowPairs (level : Nat) : Nat → Bool → Reader (List (Node × Node))
  | 0, _ => throw .tooDeep
  | fuel + 1, isFirst => do
    if ← dropIf .flowMappingEnd then return []
    dropComma isFirst
    if ← dropIf .flowMappingEnd then return []
    let ends : List Token := [.flowEntry, .flowMappingEnd]
    let pair ←
      if ← dropIf .key then do
        let key ← unlessAt (.value :: ends) (readNode level fuel .brackets)
        pure (key, ← readValue ends (readNode level fuel .brackets))
      else do
        pure (← readNode level fuel .brackets, empty)
    return pair :: (← readFlowPairs level fuel false)

end

/-- The handles that the directives in front of a document declare, given the version and the handles that
were declared before. Each directive uses fuel. -/
def readDirectives : Nat → Bool → List (Text × Text) → Reader (List (Text × Text))
  | 0, _, handles => return handles
  | fuel + 1, hasVersion, handles => do
    match ← peek with
    | .directive directive =>
      drop
      match directive with
      | .version major =>
        if hasVersion || major != 1 then throw .misplacedToken
        readDirectives fuel true handles
      | .handle handle meaning =>
        if (handles.lookup handle).isSome then throw .misplacedToken
        readDirectives fuel hasVersion ((handle, meaning) :: handles)
      | .other => readDirectives fuel hasVersion handles
    | _ => return handles

/-- The ends of documents are passed over. -/
def dropEnds : Nat → Reader Unit
  | 0 => return ()
  | fuel + 1 => do
    if ← dropIf .documentEnd then dropEnds fuel

/-- Whether a token is a directive. -/
def isDirective : Token → Bool
  | .directive _ => true
  | _ => false

/-- The start of a document, if there is one. -/
def readStart : Reader Bool := do
  let fuel := (← get).tokens.length + 1
  dropEnds fuel
  if (← peek) = .streamEnd then return false
  let declared ← readDirectives fuel false []
  modify fun progress => { progress with handles := declared ++ usualHandles }
  if ← dropIf .documentStart then return true else throw .misplacedToken

/-- The node of a document whose start is written. -/
def readContent (fuel : Nat) : Reader Node := do
  let next ← peek
  if isDirective next || next ∈ [.documentStart, .documentEnd, .streamEnd] then return empty
  else readNode 0 fuel .block

/-- The node of the document, if there is one. -/
def readFirst : Reader (Option Node) := do
  let fuel := 4 * (← get).tokens.length + 4
  let next ← peek
  if isDirective next || next ∈ [.documentStart, .streamEnd] then
    if ← readStart then return some (← readContent fuel) else return none
  else return some (← readNode 0 fuel .block)

/-- The node of the only document, if there is one. -/
def readOnly : Reader (Option Node) := do
  match ← readFirst with
  | none => return none
  | some node =>
    discard (dropIf .documentEnd)
    if ← readStart then throw .unknownReference else return some node

/-- The value of tokens; without a document there is none. -/
def ofTokens (tokens : List Token) : Except Fault Value :=
  match readOnly.run ⟨tokens, [], usualHandles⟩ with
  | .error fault => .error fault
  | .ok (none, _) => .ok .null
  | .ok (some node, _) => node.value

/-- Whether a character may be in a text: all but the controls, save for line ends and tabs, and the two
code points that are no characters. -/
def isTextual (c : Char) : Bool :=
  c == '\t' || c == '\n' || c == '\r' || c == '\u0085' ||
    (0x20 ≤ c.toNat && c.toNat < 0x7f) || (0xa0 ≤ c.toNat && c.toNat ≤ 0xfffd) || 0x10000 ≤ c.toNat

/-- The value of a text. -/
def read (text : Text) : Except Fault Value :=
  if text.all isTextual then ofTokens (tokens text) else .error .badCharacter

end Document

end TypstFences.Yaml
