import TypstFences.Text.Blank
import TypstFences.Text.Line
import TypstFences.Text.Basic

/-!
# Files of variables

A file of variables gives texts to names, with a name, an equals sign and a value in each line. A value
between quotes may have escapes and line feeds; one without quotes ends in front of a comment. A name in
braces after a dollar sign stands for what is known under that name. A statement that is none of this is
skipped up to the end of the line where it went wrong, and the line it starts in is told; hence a reader
that fails returns the text at which it failed.
-/

set_option autoImplicit false

namespace TypstFences.Variables

/-- What a line says: a name, and its value if there is an equals sign. -/
structure Binding where
  name : Text
  value : Option Text
  deriving DecidableEq, Inhabited

/-- Whether a character is a blank inside a line. -/
def isGap (c : Char) : Bool := Text.isBlank c && c != '\n'

/-- The text after the end of the line. -/
def afterLine (text : Text) : Text := (text.dropWhile (· != '\n')).drop 1

/-- The text after the end of the line, if only blanks and a comment are in front of it. -/
def readLineEnd (text : Text) : Except Text Text :=
  match text.dropWhile isGap with
  | [] => .ok []
  | c :: rest => if c = '\n' ∨ c = '#' then .ok (afterLine (c :: rest)) else .error text

/-- The text without the word in front of names that are passed on to others. -/
def dropExport (text : Text) : Text :=
  let word := "export".toList
  let rest := text.drop word.length
  if word.isPrefixOf text && rest.head?.any isGap then rest.dropWhile isGap else text

/-- Whether a character may be part of a name without quotes. -/
def isNameChar (c : Char) : Bool := c != '=' && c != '#' && !Text.isBlank c

/-- The name at the start of a line; there is none in front of a comment. -/
def readName (text : Text) : Except Text (Option Text × Text) :=
  match text with
  | '#' :: _ => .ok (none, text)
  | '\'' :: rest =>
    match Text.cut? '\'' rest with
    | some (c :: name, after) => .ok (some (c :: name), after)
    | _ => .error text
  | _ =>
    match text.takeWhile isNameChar with
    | [] => .error text
    | name => .ok (some name, text.dropWhile isNameChar)

/-- The text in front of a mark that has no backslash before it, and the text after it. A backslash takes
the character after it along. -/
def cutAtMark? (mark : Char) : Text → Option (Text × Text)
  | [] => none
  | [c] => if c = mark then some ([], []) else none
  | c :: next :: rest =>
    if c = mark then some ([], next :: rest)
    else if c = '\\' then
      (cutAtMark? mark rest).map fun (text, after) => (c :: next :: text, after)
    else (cutAtMark? mark (next :: rest)).map fun (text, after) => (c :: text, after)

/-- The escapes between single quotes. -/
def singleEscapes : List (Char × Char) := [('\\', '\\'), ('\'', '\'')]

/-- The escapes between double quotes. -/
def doubleEscapes : List (Char × Char) :=
  [('\\', '\\'), ('\'', '\''), ('"', '"'), ('a', '\x07'), ('b', '\x08'), ('f', '\x0c'), ('n', '\n'),
    ('r', '\r'), ('t', '\t'), ('v', '\x0b')]

/-- The text with its escapes replaced; a backslash that begins none stays. -/
def unescape (escapes : List (Char × Char)) : Text → Text
  | [] => []
  | [c] => [c]
  | c :: next :: rest =>
    match if c = '\\' then escapes.lookup next else none with
    | some meant => meant :: unescape escapes rest
    | none => c :: unescape escapes (next :: rest)

/-- The value between two marks, given the text after the first of them. -/
def readQuoted (mark : Char) (escapes : List (Char × Char)) (text : Text) : Except Text (Text × Text) :=
  match cutAtMark? mark text with
  | some (value, after) => .ok (unescape escapes value, after)
  | none => .error (mark :: text)

/-- The text in front of a comment: a number sign after a blank. -/
def dropComment : Bool → Text → Text
  | _, [] => []
  | afterBlank, c :: rest =>
    if c = '#' ∧ afterBlank then [] else c :: dropComment (Text.isBlank c) rest

/-- The value after an equals sign. -/
def readValue (text : Text) : Except Text (Text × Text) :=
  match text.dropWhile isGap with
  | '\'' :: rest => readQuoted '\'' singleEscapes rest
  | '"' :: rest => readQuoted '"' doubleEscapes rest
  | rest =>
    let afterBlank := text.head?.any isGap
    .ok (Text.trimEnd (dropComment afterBlank (rest.takeWhile (· != '\n'))),
      rest.dropWhile (· != '\n'))

/-- What the line at the start of a text says. -/
def readBinding (text : Text) : Except Text (Option Binding × Text) := do
  let (name, rest) ← readName (dropExport text)
  match rest.dropWhile isGap with
  | '=' :: rest =>
    let (value, rest) ← readValue rest
    let rest ← readLineEnd rest
    .ok (name.map (⟨·, some value⟩), rest)
  | rest =>
    let rest ← readLineEnd rest
    .ok (name.map (⟨·, none⟩), rest)

/-- What the statements of a file say, and the lines in which those start that say nothing that can be
understood. -/
structure Statements where
  bindings : List Binding
  skipped : List Nat
  deriving Inhabited

/-- What the statements of the rest of a file with so many line feeds say, as far as there is fuel; every
statement uses one. Blank lines belong to the statement after them. -/
def readStatements (feeds : Nat) : Nat → Text → Statements
  | 0, _ => ⟨[], []⟩
  | fuel + 1, text =>
    match text.dropWhile Text.isBlank with
    | [] => ⟨[], []⟩
    | start =>
      match readBinding start with
      | .ok (binding, rest) =>
        let others := readStatements feeds fuel rest
        { others with bindings := binding.toList ++ others.bindings }
      | .error rest =>
        let others := readStatements feeds fuel (afterLine rest)
        { others with skipped := (feeds + 1 - Text.lineFeeds text) :: others.skipped }

/-- The name and the value in its stead that stand between the braces of a reference. -/
def readReference? (text : Text) : Option (Text × Text) :=
  match text.dropWhile (· != ':') with
  | [] => some (text, [])
  | ':' :: '-' :: fallback => some (text.takeWhile (· != ':'), fallback)
  | _ => none

/-- The text with references replaced by what is known under their names. -/
def resolve (known : Text → Option Text) : Text → Text
  | [] => []
  | c :: rest =>
    match found : if c = '$' ∧ rest.head? = some '\x7b' then Text.cut? '\x7d' rest else none with
    | none => c :: resolve known rest
    | some (inside, after) =>
      have : after.length < rest.length := by
        split at found
        · exact Text.length_lt_of_cut? found
        · exact absurd found (by simp)
      match readReference? (inside.drop 1) with
      | some (name, fallback) => (known name).getD fallback ++ resolve known after
      | none => c :: resolve known rest
termination_by text => text.length

/-- What is known under a name: what the file said before, else what surrounds it. -/
def known (environment : List (Text × Text)) (values : List (Text × Option Text)) (name : Text) :
    Option Text :=
  match values.lookup name with
  | some value => some (value.getD [])
  | none => environment.lookup name

/-- What a file of variables says: the values of names, of which some may have none, and the lines in which
statements start that were skipped. -/
structure File where
  values : List (Text × Option Text)
  skipped : List Nat
  deriving Inhabited

/-- What a file of variables says in some environment. A name without an equals sign has no value. A mark
of the order of bytes at the start is no part of the text. -/
def read (environment : List (Text × Text)) (content : Text) : File :=
  let content := if content.head? = some '\ufeff' then content.drop 1 else content
  let statements := readStatements (Text.lineFeeds content) content.length content
  let give (values : List (Text × Option Text)) (binding : Binding) : List (Text × Option Text) :=
    Named.put binding.name (binding.value.map (resolve (known environment values))) values
  ⟨statements.bindings.foldl give [], statements.skipped⟩

/-- What is said about a statement that was skipped, by the line in which it starts. -/
def skippedText (line : Nat) : Text :=
  "python-dotenv could not parse statement starting at line ".toList ++ Text.ofNat line

end TypstFences.Variables
