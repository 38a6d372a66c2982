import TypstFences.Json.Value
import TypstFences.Text.Digit

/-!
# Reading JSON

A recursive-descent reader that returns what is left of the text. Blanks are space, tab, line feed
and carriage return; a key given twice keeps its first place and its last value; the names of
infinities and of the missing number are accepted. Values nested too deeply, whole numbers of too many
digits and halves of surrogate pairs are refused where reading comes upon them. The fuel bounds the nesting
of calls and is taken from the length of the text, which every call shortens.
-/

set_option autoImplicit false

namespace TypstFences.Json

/-- The text without the JSON blanks at its start. -/
def skipBlanks (text : Text) : Text :=
  text.dropWhile fun c => c == ' ' || c == '\t' || c == '\n' || c == '\r'

/-- The code unit at the start of a text that holds four hexadecimal digits. -/
def readUnit? (text : Text) : Option (Nat × Text) :=
  let digits := text.take 4
  if digits.length = 4 then (Text.hexValue? digits).map fun unit => (unit, text.drop 4) else none

/-- The character after a backslash that is a short escape. -/
def shortEscape? (c : Char) : Option Char :=
  match c with
  | '"' => some '"'
  | '\\' => some '\\'
  | '/' => some '/'
  | 'n' => some '\n'
  | 'r' => some '\r'
  | 't' => some '\t'
  | 'f' => some '\x0c'
  | 'b' => some '\x08'
  | _ => none

/-- Why a text is not read: it is no JSON, its values are nested too deeply, it has a whole number of too many
digits, or it has half of a surrogate pair, which is no character of a text. -/
inductive Fault where
  | malformed
  | tooDeep
  | oversized
  | loneSurrogate
  deriving DecidableEq, Inhabited

/-- A code unit and what follows it as a character: a high surrogate joins with a low surrogate that
follows it as another escape. -/
def joinSurrogates (unit : Nat) (rest : Text) : Except Fault (Char × Text) :=
  let alone : Except Fault (Char × Text) :=
    if 0xd800 ≤ unit ∧ unit < 0xe000 then .error .loneSurrogate else .ok (Char.ofNat unit, rest)
  if 0xd800 ≤ unit ∧ unit < 0xdc00 then
    match rest with
    | '\\' :: 'u' :: after =>
      match readUnit? after with
      | some (low, after) =>
        if 0xdc00 ≤ low ∧ low < 0xe000 then
          .ok (Char.ofNat (0x10000 + (unit - 0xd800) * 0x400 + (low - 0xdc00)), after)
        else alone
      | none => alone
    | _ => alone
  else alone

/-- The characters of a JSON string up to its closing quote. -/
def readString : Nat → Text → Except Fault (Text × Text)
  | 0, _ => .error .malformed
  | _ + 1, [] => .error .malformed
  | _ + 1, '"' :: rest => .ok ([], rest)
  | fuel + 1, '\\' :: 'u' :: rest =>
    match readUnit? rest with
    | none => .error .malformed
    | some (unit, rest) => do
      let (c, rest) ← joinSurrogates unit rest
      let (text, rest) ← readString fuel rest
      .ok (c :: text, rest)
  | fuel + 1, '\\' :: c :: rest =>
    match shortEscape? c with
    | none => .error .malformed
    | some c => do
      let (text, rest) ← readString fuel rest
      .ok (c :: text, rest)
  | fuel + 1, c :: rest =>
    if c.toNat < 0x20 ∨ c = '\\' then .error .malformed
    else do
      let (text, rest) ← readString fuel rest
      .ok (c :: text, rest)

/-- The digits at the start of a text. -/
def readDigits (text : Text) : Text × Text :=
  (text.takeWhile Char.isDigit, text.dropWhile Char.isDigit)

/-- The number that decimal digits stand for. -/
def digitsValue (digits : Text) : Nat :=
  digits.foldl (fun n c => n * 10 + (c.toNat - '0'.toNat)) 0

/-- The fractional digits after a decimal point, if there are any. -/
def readFraction (text : Text) : Text × Text :=
  match text with
  | '.' :: rest =>
    match readDigits rest with
    | ([], _) => ([], text)
    | (digits, rest) => (digits, rest)
  | _ => ([], text)

/-- The exponent of a numeral, if it has one. -/
def readExponent (text : Text) : Option Int × Text :=
  let signed (negative : Bool) (rest : Text) : Option Int × Text :=
    match readDigits rest with
    | ([], _) => (none, text)
    | (digits, rest) =>
      let n : Int := digitsValue digits
      (some (if negative then -n else n), rest)
  match text with
  | e :: rest =>
    if e = 'e' ∨ e = 'E' then
      match rest with
      | '-' :: rest => signed true rest
      | '+' :: rest => signed false rest
      | rest => signed false rest
    else (none, text)
  | [] => (none, text)

/-- A numeral without its sign: it has no needless zero in front, and it is an integer unless a
fraction or an exponent follows. -/
def readNumber (negative : Bool) (text : Text) : Except Fault (Json × Text) :=
  let (whole, rest) :=
    match text with
    | '0' :: rest => (['0'], rest)
    | _ => readDigits text
  if whole.isEmpty then .error .malformed
  else
    let (fraction, rest) := readFraction rest
    let (exponent, rest) := readExponent rest
    if fraction.isEmpty ∧ exponent.isNone then
      match Text.numeralValue? whole with
      | some n => .ok (.int (if negative then -(n : Int) else n), rest)
      | none => .error .oversized
    else
      let scale : Int := exponent.getD 0 - (fraction.length : Int)
      .ok (.real (Binary64.ofDecimal negative (digitsValue (whole ++ fraction)) scale), rest)

/-- The values written as words. -/
def words : List (Text × Json) :=
  [("null".toList, .null), ("true".toList, .bool true), ("false".toList, .bool false),
    ("NaN".toList, .real .nan), ("Infinity".toList, .real (.infinite false)),
    ("-Infinity".toList, .real (.infinite true))]

/-- The value of the word or the numeral at the start of a text. -/
def readAtom (text : Text) : Except Fault (Json × Text) :=
  match words.find? fun word => word.1.isPrefixOf text with
  | some word => .ok (word.2, text.drop word.1.length)
  | none =>
    match text with
    | '-' :: rest => readNumber true rest
    | _ => readNumber false text

/-- The characters of a JSON string up to its closing quote, or a fault. -/
def readQuoted (text : Text) : Except Fault (Text × Text) := readString (text.length + 1) text

mutual

/-- The value at the start of a text, blanks in front of it allowed; `room` is the number of lists and
objects that may still be opened around a value. -/
def readValue : Nat → Nat → Text → Except Fault (Json × Text)
  | 0, _, _ => .error .malformed
  | fuel + 1, room, text =>
    match skipBlanks text with
    | '"' :: rest => do
      let (text, rest) ← readQuoted rest
      .ok (.string text, rest)
    | '[' :: rest =>
      match room, skipBlanks rest with
      | 0, _ => .error .tooDeep
      | _ + 1, ']' :: rest => .ok (.list [], rest)
      | room + 1, rest => do
        let (items, rest) ← readItems fuel room rest
        .ok (.list items, rest)
    | '\x7b' :: rest =>
      match room, skipBlanks rest with
      | 0, _ => .error .tooDeep
      | _ + 1, '\x7d' :: rest => .ok (.object [], rest)
      | room + 1, rest => do
        let (fields, rest) ← readFields fuel room [] rest
        .ok (.object fields, rest)
    | rest => readAtom rest

/-- The items of a list up to its closing bracket. -/
def readItems : Nat → Nat → Text → Except Fault (List Json × Text)
  | 0, _, _ => .error .malformed
  | fuel + 1, room, text => do
    let (item, rest) ← readValue fuel room text
    match skipBlanks rest with
    | ',' :: rest =>
      let (items, rest) ← readItems fuel room rest
      .ok (item :: items, rest)
    | ']' :: rest => .ok ([item], rest)
    | _ => .error .malformed

/-- The fields of an object up to its closing brace, added to those already read. -/
def readFields : Nat → Nat → List (Text × Json) → Text → Except Fault (List (Text × Json) × Text)
  | 0, _, _, _ => .error .malformed
  | fuel + 1, room, fields, text =>
    match skipBlanks text with
    | '"' :: rest => do
      let (key, rest) ← readQuoted rest
      match skipBlanks rest with
      | ':' :: rest =>
        let (value, rest) ← readValue fuel room rest
        let fields := assign key value fields
        match skipBlanks rest with
        | ',' :: rest => readFields fuel room fields rest
        | '\x7d' :: rest => .ok (fields, rest)
        | _ => .error .malformed
      | _ => .error .malformed
    | _ => .error .malformed

end

/-- The greatest number of lists and objects around a value. -/
def deepest : Nat := 980

/-- The value that a text holds, if it holds one value and nothing else. -/
def read (text : Text) : Except Fault Json :=
  match readValue (2 * text.length + 2) deepest text with
  | .ok (value, rest) => if (skipBlanks rest).isEmpty then .ok value else .error .malformed
  | .error fault => .error fault

end TypstFences.Json
