import TypstFences.Text.Digit
import TypstFences.Text.Utf8
import TypstFences.Yaml.Cursor

/-!
# Names in YAML text

Anchors name values and aliases refer to them, tags name kinds of values, and directives say what the tags
of a document begin with. Of these names the tags may have escaped bytes.
-/

set_option autoImplicit false

namespace TypstFences.Yaml.Name

/-- Whether a character may be part of a word. -/
def isWord (c : Char) : Bool := c.isAlphanum || c == '-' || c == '_'

/-- Whether a character may be part of a tag after its handle; a percent sign begins an escape. -/
def isTag (c : Char) : Bool := isWord c || c ∈ ";/?:@&=+$,.!~*'()[]".toList

/-- What comes after a word where it is the name of a value. -/
def isAfterAnchor (text : Text) : Bool :=
  atGap text || text.head?.any (· ∈ "?:,]\x7d%@\x60".toList)

/-- A word that is not empty, and the position after it. -/
def readWord (cursor : Cursor) : Except Fault (Text × Cursor) :=
  match cursor.takeWhile isWord with
  | ([], _) => .error .noToken
  | (word, cursor) => .ok (word, cursor)

/-- The name of a value after the character in front of it, and the position after the name. -/
def readAnchor (cursor : Cursor) : Except Fault (Text × Cursor) := do
  let (name, cursor) ← readWord cursor.next
  if isAfterAnchor cursor.rest then .ok (name, cursor) else .error .noToken

/-- The bytes that escapes in a row stand for, and the position after them. Each escape uses fuel. -/
def readBytes : Nat → Cursor → Except Fault (Bytes × Cursor)
  | 0, cursor => .ok ([], cursor)
  | fuel + 1, cursor =>
    match cursor.rest with
    | '%' :: first :: second :: _ =>
      match Text.hexValue? [first, second] with
      | some byte => do
        let (bytes, cursor) ← readBytes fuel (cursor.skip 3)
        .ok (byte.toUInt8 :: bytes, cursor)
      | none => .error .noToken
    | '%' :: _ => .error .noToken
    | _ => .ok ([], cursor)

/-- The rest of a tag, and the position after it. Each run of characters uses fuel. -/
def readTagFrom : Nat → Cursor → Except Fault (Text × Cursor)
  | 0, cursor => .ok ([], cursor)
  | fuel + 1, cursor => do
    let (plain, cursor) := cursor.takeWhile isTag
    if cursor.rest.head? = some '%' then
      let (bytes, cursor) ← readBytes (cursor.rest.length + 1) cursor
      match Text.decodeUtf8? bytes with
      | none => .error .noToken
      | some escaped =>
        let (rest, cursor) ← readTagFrom fuel cursor
        .ok (plain ++ escaped ++ rest, cursor)
    else .ok (plain, cursor)

/-- A tag without its handle, and the position after it. There must be one. -/
def readTagName (cursor : Cursor) : Except Fault (Text × Cursor) := do
  let (name, after) ← readTagFrom (cursor.rest.length + 1) cursor
  if after.index = cursor.index then .error .noToken else .ok (name, after)

/-- The handle in front of a tag, and the position after it: an exclamation mark, or a word between two of
them. -/
def readHandle (cursor : Cursor) : Except Fault (Text × Cursor) :=
  match cursor.rest with
  | '!' :: rest =>
    let word := rest.takeWhile isWord
    if rest.head? = some ' ' then .ok (['!'], cursor.next)
    else if rest[word.length]? = some '!' then
      .ok ('!' :: word ++ ['!'], cursor.skip (word.length + 2))
    else .error .noToken
  | _ => .error .noToken

/-- The handle and the name of a tag, and the position after it. A tag between angles has no handle, and a
mark alone is a name without a handle. -/
def readTag (cursor : Cursor) : Except Fault ((Option Text × Text) × Cursor) := do
  let rest := cursor.rest.drop 1
  let (tag, cursor) ←
    if rest.head? = some '<' then do
      let (name, cursor) ← readTagName (cursor.skip 2)
      if cursor.rest.head? = some '>' then .ok ((none, name), cursor.next) else .error .noToken
    else if atGap rest then .ok ((none, ['!']), cursor.next)
    else do
      let hasHandle := '!' ∈ rest.takeWhile fun c => c != ' ' && !isBreak c
      let (handle, cursor) ← if hasHandle then readHandle cursor else .ok (['!'], cursor.next)
      let (name, cursor) ← readTagName cursor
      .ok ((some handle, name), cursor)
  if atSpace cursor.rest then .ok (tag, cursor) else .error .noToken

/-- What a line that begins with a percent sign says: the number of the version in front of its point, what
a handle of tags stands for, or something else. -/
inductive Directive where
  | version (major : Nat)
  | handle (handle meaning : Text)
  | other
  deriving DecidableEq, Inhabited

/-- Digits, of which there must be one, and the position after them. -/
def readDigits (cursor : Cursor) : Except Fault (Text × Cursor) :=
  match cursor.takeWhile Char.isDigit with
  | ([], _) => .error .noToken
  | (digits, cursor) => .ok (digits, cursor)

/-- The version of a directive, and the position after it. -/
def readVersion (cursor : Cursor) : Except Fault (Directive × Cursor) := do
  let (major, cursor) ← readDigits (cursor.dropWhile (· == ' '))
  if cursor.rest.head? ≠ some '.' then .error .noToken
  else
    let (_, cursor) ← readDigits cursor.next
    if atSpace cursor.rest then .ok (.version (Text.digitsValue major), cursor) else .error .noToken

/-- The handle of a directive and what it stands for, and the position after them. -/
def readMeaning (cursor : Cursor) : Except Fault (Directive × Cursor) := do
  let (handle, cursor) ← readHandle (cursor.dropWhile (· == ' '))
  if cursor.rest.head? ≠ some ' ' then .error .noToken
  else
    let (meaning, cursor) ← readTagName (cursor.dropWhile (· == ' '))
    if atSpace cursor.rest then .ok (.handle handle meaning, cursor) else .error .noToken

/-- The directive in a line, and the position after it. -/
def readDirective (cursor : Cursor) : Except Fault (Directive × Cursor) := do
  let (name, cursor) ← readWord cursor.next
  if !atSpace cursor.rest then .error .noToken
  else
    let (directive, cursor) ←
      if name = "YAML".toList then readVersion cursor
      else if name = "TAG".toList then readMeaning cursor
      else .ok (.other, cursor.dropWhile (!isBreak ·))
    match cursor.lineEnd? with
    | some cursor => .ok (directive, cursor.next)
    | none => .error .noToken

end TypstFences.Yaml.Name
