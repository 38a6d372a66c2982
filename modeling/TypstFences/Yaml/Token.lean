import TypstFences.Yaml.Block
import TypstFences.Yaml.Name
import TypstFences.Yaml.Plain
import TypstFences.Yaml.Quoted

/-!
# Tokens of YAML text

A text is a row of tokens. Outside brackets the indentation of lines opens and closes lists and tables. A
value may turn out to be a key only at the colon after it; the token that says so is then put in front of
it. Such a value is not to go beyond its line, nor over more than 1024 characters. A token can be had as
soon as it is known not to be a key; hence a fault that is met before that comes in its place.
-/

set_option autoImplicit false

namespace TypstFences.Yaml

/-- A token. A fault is the place of a token that cannot be read. -/
inductive Token where
  | directive (directive : Name.Directive)
  | documentStart
  | documentEnd
  | streamEnd
  | blockSequenceStart
  | blockMappingStart
  | blockEnd
  | blockEntry
  | flowSequenceStart
  | flowSequenceEnd
  | flowMappingStart
  | flowMappingEnd
  | flowEntry
  | key
  | value
  | alias (name : Text)
  | anchor (name : Text)
  | tag (handle : Option Text) (name : Text)
  | scalar (text : Text) (isPlain : Bool)
  | fault (fault : Fault)
  deriving DecidableEq, Inhabited

/-- A token that is a key if a colon comes after it: its number among the tokens, its position, and whether
it must be a key. -/
structure PossibleKey where
  number : Nat
  position : Cursor
  isRequired : Bool
  deriving Inhabited

/-- The tokens read so far, the last of them first, and how to go on: the depth of brackets, the columns of
the open blocks, the innermost first, whether a key may come next, and the possible keys with the depth of
each. -/
structure Reading where
  cursor : Cursor
  tokens : List Token
  count : Nat
  depth : Int
  indent : Int
  outer : List Int
  allowsKey : Bool
  keys : List (Int × PossibleKey)
  isDone : Bool
  deriving Inhabited

namespace Reading

/-- The start of a text. -/
def start (text : Text) : Reading where
  cursor := Cursor.start text
  tokens := []
  count := 0
  depth := 0
  indent := -1
  outer := []
  allowsKey := true
  keys := []
  isDone := false

/-- The number of characters over which a key may go. -/
def longestKey : Nat := 1024

/-- Whether the reading is between brackets. -/
def inBrackets (reading : Reading) : Bool := reading.depth != 0

/-- The reading with one more token. -/
def push (token : Token) (reading : Reading) : Reading :=
  { reading with tokens := token :: reading.tokens, count := reading.count + 1 }

/-- The reading with a token of so many characters. -/
def pushMark (token : Token) (length : Nat) (reading : Reading) : Reading :=
  { reading.push token with cursor := reading.cursor.skip length }

/-- Whether a possible key is too far back to be one. -/
def isStale (reading : Reading) (key : PossibleKey) : Bool :=
  key.position.line != reading.cursor.line ||
    decide (longestKey < reading.cursor.index - key.position.index)

/-- The reading without the keys that are too far back. -/
def dropStale (reading : Reading) : Except Fault Reading :=
  if reading.keys.any fun key => key.2.isRequired && reading.isStale key.2 then .error .noToken
  else .ok { reading with keys := reading.keys.filter fun key => !reading.isStale key.2 }

/-- The reading without the possible key of its depth. -/
def dropKey (reading : Reading) : Except Fault Reading :=
  if (reading.keys.lookup reading.depth).any (·.isRequired) then .error .noToken
  else .ok { reading with keys := reading.keys.filter (·.1 != reading.depth) }

/-- The reading with the next token as a possible key, where one may come. -/
def saveKey (reading : Reading) : Except Fault Reading :=
  if reading.allowsKey then do
    let reading ← reading.dropKey
    let key : PossibleKey :=
      { number := reading.count
        position := reading.cursor
        isRequired := !reading.inBrackets && reading.indent == reading.cursor.column }
    .ok { reading with keys := (reading.depth, key) :: reading.keys }
  else .ok reading

/-- The number of the first token that is a possible key. -/
def firstKey? (reading : Reading) : Option Nat := (reading.keys.map (·.2.number)).min?

/-- The columns of the blocks that stay open to the left of a column, and the number of those that end. -/
def closeTo (column : Int) : Int → List Int → Int × List Int × Nat
  | indent, [] => (indent, [], 0)
  | indent, next :: outer =>
    if column < indent then
      let (indent, outer, count) := closeTo column next outer
      (indent, outer, count + 1)
    else (indent, next :: outer, 0)

/-- The reading with the blocks to the right of a column ended; between brackets there are none. -/
def unwind (column : Int) (reading : Reading) : Reading :=
  if reading.inBrackets then reading
  else
    let (indent, outer, count) := closeTo column reading.indent reading.outer
    { reading with
      tokens := List.replicate count Token.blockEnd ++ reading.tokens
      count := reading.count + count
      indent := indent
      outer := outer }

/-- Whether a block may open at a column, and the reading with that block open. -/
def open? (column : Int) (reading : Reading) : Option Reading :=
  if !reading.inBrackets && decide (reading.indent < column) then
    some { reading with indent := column, outer := reading.indent :: reading.outer }
  else none

/-- The reading with a block open at its column, if one may open there, and the token for that. -/
def openBlock (token : Token) (reading : Reading) : Reading :=
  ((reading.open? reading.cursor.column).map (push token)).getD reading

/-- The position of the next token, and whether a line begins in front of it. -/
def skipLines (cursor : Cursor) : Cursor × Bool :=
  match found : cursor.skipBlank.break? with
  | none => (cursor.skipBlank, false)
  | some (_, next) =>
    have : next.rest.length < cursor.rest.length :=
      Nat.lt_of_lt_of_le (Cursor.length_lt_of_break? found) cursor.length_skipBlank_le
    ((skipLines next).1, true)
termination_by cursor.rest.length

/-- The reading in front of the next token. In a new line outside brackets a key may come. -/
def toToken (reading : Reading) : Reading :=
  let cursor := reading.cursor
  let cursor :=
    if cursor.index = 0 ∧ cursor.rest.head? = some '\ufeff' then cursor.next else cursor
  let (cursor, isNewLine) := skipLines cursor
  { reading with
    cursor := cursor
    allowsKey := reading.allowsKey || (isNewLine && !reading.inBrackets) }

/-- The reading after the end of the text. -/
def readEnd (reading : Reading) : Except Fault Reading := do
  let reading ← (reading.unwind (-1)).dropKey
  .ok { reading.push .streamEnd with allowsKey := false, keys := [], isDone := true }

/-- The reading after a directive. -/
def readDirective (reading : Reading) : Except Fault Reading := do
  let reading ← (reading.unwind (-1)).dropKey
  let (directive, cursor) ← Name.readDirective reading.cursor
  .ok { reading.push (.directive directive) with allowsKey := false, cursor := cursor }

/-- The reading after the start or the end of a document. -/
def readDocumentMark (token : Token) (reading : Reading) : Except Fault Reading := do
  let reading ← (reading.unwind (-1)).dropKey
  .ok { reading.pushMark token 3 with allowsKey := false }

/-- The reading after an opening bracket. -/
def readOpening (token : Token) (reading : Reading) : Except Fault Reading := do
  let reading ← reading.saveKey
  .ok { reading.pushMark token 1 with depth := reading.depth + 1, allowsKey := true }

/-- The reading after a closing bracket. -/
def readClosing (token : Token) (reading : Reading) : Except Fault Reading := do
  let reading ← reading.dropKey
  .ok { reading.pushMark token 1 with depth := reading.depth - 1, allowsKey := false }

/-- The reading after a comma. -/
def readFlowEntry (reading : Reading) : Except Fault Reading := do
  let reading ← reading.dropKey
  .ok { reading.pushMark .flowEntry 1 with allowsKey := true }

/-- The reading after a hyphen. -/
def readBlockEntry (reading : Reading) : Except Fault Reading :=
  if !reading.inBrackets && !reading.allowsKey then .error .noToken
  else do
    let reading ← (reading.openBlock .blockSequenceStart).dropKey
    .ok { reading.pushMark .blockEntry 1 with allowsKey := true }

/-- The reading after a question mark. -/
def readKey (reading : Reading) : Except Fault Reading :=
  if !reading.inBrackets && !reading.allowsKey then .error .noToken
  else do
    let reading ← (reading.openBlock .blockMappingStart).dropKey
    .ok { reading.pushMark .key 1 with allowsKey := !reading.inBrackets }

/-- The reading with one more token in front of that with a number. -/
def insert (number : Nat) (token : Token) (reading : Reading) : Reading :=
  { reading with
    tokens := reading.tokens.insertIdx (reading.count - number) token
    count := reading.count + 1 }

/-- The reading with a possible key as a key, in front of which a block may open. -/
def makeKey (key : PossibleKey) (reading : Reading) : Reading :=
  match reading.open? key.position.column with
  | some opened => (opened.insert key.number .key).insert key.number .blockMappingStart
  | none => reading.insert key.number .key

/-- The reading after a colon. What comes in front of it is a key if it can be one. -/
def readValue (reading : Reading) : Except Fault Reading :=
  match reading.keys.lookup reading.depth with
  | some key =>
    let reading := { reading with keys := reading.keys.filter (·.1 != reading.depth) }
    .ok { (reading.makeKey key).pushMark .value 1 with allowsKey := false }
  | none =>
    if !reading.inBrackets && !reading.allowsKey then .error .noToken
    else do
      let reading ← (reading.openBlock .blockMappingStart).dropKey
      .ok { reading.pushMark .value 1 with allowsKey := !reading.inBrackets }

/-- The reading after a token that may be a key. -/
def readWith (read : Cursor → Except Fault (Token × Cursor)) (reading : Reading) :
    Except Fault Reading := do
  let reading ← reading.saveKey
  let (token, cursor) ← read reading.cursor
  .ok { reading.push token with cursor := cursor, allowsKey := false }

/-- The reading after a block text. -/
def readBlock (isFolded : Bool) (reading : Reading) : Except Fault Reading := do
  let reading ← reading.dropKey
  let (text, cursor) ← Block.read isFolded reading.indent reading.cursor
  .ok { reading.push (.scalar text false) with cursor := cursor, allowsKey := true }

/-- The reading after a plain text. In a new line a key may come. -/
def readPlain (reading : Reading) : Except Fault Reading := do
  let reading ← reading.saveKey
  let (text, cursor, isNewLine) :=
    Plain.read reading.inBrackets (reading.indent + 1) reading.cursor
  .ok { reading.push (.scalar text true) with cursor := cursor, allowsKey := isNewLine }

/-- The characters that begin no plain text unless something else comes right after them. -/
def indicators : Text := "-?:,[]\x7b\x7d#&*!|>'\"%@\x60".toList

/-- The reading after the token at its position. -/
def readToken (reading : Reading) : Except Fault Reading :=
  match reading.cursor.rest with
  | [] => reading.readEnd
  | c :: rest =>
    let isLineStart := reading.cursor.column == 0
    let isPlain :=
      !isGap c && (c ∉ indicators ||
        (!atGap rest && (c == '-' || (!reading.inBrackets && (c == '?' || c == ':')))))
    if c = '%' ∧ isLineStart then reading.readDirective
    else if isLineStart && isDocumentMark (c :: rest) then
      reading.readDocumentMark (if c = '-' then .documentStart else .documentEnd)
    else if c = '[' then reading.readOpening .flowSequenceStart
    else if c = '\x7b' then reading.readOpening .flowMappingStart
    else if c = ']' then reading.readClosing .flowSequenceEnd
    else if c = '\x7d' then reading.readClosing .flowMappingEnd
    else if c = ',' then reading.readFlowEntry
    else if c = '-' ∧ atGap rest then reading.readBlockEntry
    else if c = '?' && (reading.inBrackets || atGap rest) then reading.readKey
    else if c = ':' && (reading.inBrackets || atGap rest) then reading.readValue
    else if c = '*' then
      reading.readWith fun cursor => (Name.readAnchor cursor).map fun (name, c) => (.alias name, c)
    else if c = '&' then
      reading.readWith fun cursor => (Name.readAnchor cursor).map fun (name, c) => (.anchor name, c)
    else if c = '!' then
      reading.readWith fun cursor =>
        (Name.readTag cursor).map fun ((handle, name), c) => (.tag handle name, c)
    else if (c = '|' ∨ c = '>') ∧ !reading.inBrackets then reading.readBlock (c == '>')
    else if c = '\'' ∨ c = '"' then
      reading.readWith fun cursor =>
        (Quoted.read c cursor).map fun (text, c) => (.scalar text false, c)
    else if isPlain then reading.readPlain
    else .error .noToken

/-- The reading after the next token. -/
def readNext (reading : Reading) : Except Fault Reading := do
  let reading ← reading.toToken.dropStale
  (reading.unwind reading.cursor.column).readToken

/-- The tokens up to a number, and a fault. -/
def endWith (fault : Fault) (number : Nat) (reading : Reading) : List Token :=
  (.fault fault :: reading.tokens.drop (reading.count - number)).reverse

/-- The tokens of the rest of a text, of which those up to a number were had before. Each token uses fuel. -/
def readFrom : Nat → Nat → Reading → List Token
  | 0, _, reading => reading.tokens.reverse
  | fuel + 1, number, reading =>
    match reading.readNext with
    | .error fault => reading.endWith fault number
    | .ok reading =>
      if reading.isDone then reading.tokens.reverse
      else
        match reading.dropStale with
        | .error fault => reading.endWith fault number
        | .ok reading => readFrom fuel (reading.firstKey?.getD reading.count) reading

end Reading

/-- The tokens of a text. -/
def tokens (text : Text) : List Token := Reading.readFrom (text.length + 2) 0 (Reading.start text)

end TypstFences.Yaml
