import TypstFences.Text.Digit
import TypstFences.Yaml.Cursor

/-!
# Quoted texts

A text between quotes may go on over several lines. Between single quotes a quote is written twice; between
double quotes a backslash begins an escape.
-/

set_option autoImplicit false

namespace TypstFences.Yaml.Quoted

/-- The escapes that stand for one character. -/
def escapes : List (Char × Char) :=
  [('0', '\x00'), ('a', '\x07'), ('b', '\x08'), ('t', '\t'), ('\t', '\t'), ('n', '\n'), ('v', '\x0b'),
    ('f', '\x0c'), ('r', '\r'), ('e', '\x1b'), (' ', ' '), ('"', '"'), ('\\', '\\'), ('/', '/'),
    ('N', '\u0085'), ('_', '\u00a0'), ('L', '\u2028'), ('P', '\u2029')]

/-- The escapes that a number of hexadecimal digits follows. -/
def codeEscapes : List (Char × Nat) := [('x', 2), ('u', 4), ('U', 8)]

/-- The ends of empty lines, and the position after them and the gap that follows. No line begins or ends a
document. -/
def readBreaks (cursor : Cursor) : Except Fault (Text × Cursor) :=
  if isDocumentMark cursor.rest then .error .noToken
  else
    match found : (cursor.dropWhile isGap).break? with
    | none => .ok ([], cursor.dropWhile isGap)
    | some (first, next) => do
      have : next.rest.length < cursor.rest.length :=
        Nat.lt_of_lt_of_le (Cursor.length_lt_of_break? found) (cursor.length_dropWhile_le _)
      let (others, after) ← readBreaks next
      .ok (first :: others, after)
termination_by cursor.rest.length

/-- The character with a code; there are none beyond a bound, and codes far beyond it are no numbers. -/
def charOfCode (code : Nat) : Except Fault Char :=
  if code ≤ 0x10ffff then .ok (Char.ofNat code)
  else if code < Nat.pow 2 31 then .error .impossible
  else .error .tooGreat

/-- What the escape after a backslash stands for, and the position after it. The end of a line is left out
together with the gap after it. -/
def readEscape (cursor : Cursor) : Except Fault (Text × Cursor) :=
  match cursor.rest with
  | [] => .error .noToken
  | c :: rest =>
    match escapes.lookup c, codeEscapes.lookup c with
    | some meant, _ => .ok ([meant], cursor.next)
    | none, some count =>
      match if count ≤ rest.length then Text.hexValue? (rest.take count) else none with
      | some code => do
        let meant ← charOfCode code
        .ok ([meant], cursor.skip (count + 1))
      | none => .error .noToken
    | none, none => if isBreak c then readBreaks cursor.next else .error .noToken

/-- The text up to a quote, and the position after the quote. Each step takes a character and uses fuel. -/
def readUpTo (quote : Char) : Nat → Cursor → Except Fault (Text × Cursor)
  | 0, _ => .error .noToken
  | fuel + 1, cursor =>
    match cursor.rest with
    | [] => .error .noToken
    | c :: rest =>
      if isGap c || isBreak c then do
        let (gap, cursor) := cursor.takeWhile isGap
        match cursor.break? with
        | none =>
          let (text, cursor) ← readUpTo quote fuel cursor
          .ok (gap ++ text, cursor)
        | some (first, cursor) =>
          let (others, cursor) ← readBreaks cursor
          let (text, cursor) ← readUpTo quote fuel cursor
          .ok (foldBreaks first others ++ text, cursor)
      else if c = quote ∧ quote = '\'' ∧ rest.head? = some quote then do
        let (text, cursor) ← readUpTo quote fuel (cursor.skip 2)
        .ok (c :: text, cursor)
      else if c = quote then .ok ([], cursor.next)
      else if c = '\\' ∧ quote = '"' then do
        let (meant, cursor) ← readEscape cursor.next
        let (text, cursor) ← readUpTo quote fuel cursor
        .ok (meant ++ text, cursor)
      else do
        let (text, cursor) ← readUpTo quote fuel cursor.next
        .ok (c :: text, cursor)

/-- The text between the quote at a position and the one that ends it, and the position after that. -/
def read (quote : Char) (cursor : Cursor) : Except Fault (Text × Cursor) :=
  readUpTo quote (cursor.rest.length + 1) cursor.next

end TypstFences.Yaml.Quoted
