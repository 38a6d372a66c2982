import TypstFences.Files.Tree

/-!
# Glob patterns

Selecting files and directories by a pattern of names. In a name, `*` stands for any characters, `?`
for one, and brackets for one of a set; the name `**` stands for any number of directories. Names that
begin with a dot are like all others, and upper and lower case differ.
-/

set_option autoImplicit false

namespace TypstFences

/-- A piece of a name pattern. -/
inductive GlobToken where
  | char (c : Char)
  | any
  | many
  | set (negated : Bool) (ranges : List (Char × Char))
  deriving DecidableEq, Inhabited

namespace GlobToken

/-- The content of a set and what follows its closing bracket, given the text after the opening one.
The first character of the content, after an exclamation mark, may be a closing bracket itself. -/
def cutSet? (text : Text) : Option (Text × Text) :=
  let mark := text.takeWhile (· == '!') |>.take 1
  let first := (text.drop mark.length).takeWhile (· == ']') |>.take 1
  (Text.cut? ']' (text.drop (mark.length + first.length))).map fun (content, rest) =>
    (mark ++ first ++ content, rest)

/-- The text in front of the first hyphen behind a number of characters, and the text after it. -/
def cutAtHyphen? (skip : Nat) (content : Text) : Option (Text × Text) :=
  (Text.cut? '-' (content.drop skip)).map fun (chunk, rest) => (content.take skip ++ chunk, rest)

/-- The chunks of a content between the hyphens that make ranges, as far as there is fuel. A hyphen in
front of which a chunk has fewer than `skip` characters makes none. -/
def readChunks : Nat → Nat → Text → List Text
  | 0, _, content => [content]
  | fuel + 1, skip, content =>
    match cutAtHyphen? skip content with
    | some (chunk, rest) => chunk :: readChunks fuel 2 rest
    | none => [content]

/-- Chunks where a hyphen at the end of the content belongs to the chunk in front of it. -/
def closeChunks : List Text → List Text
  | [] => []
  | [chunk, []] => [chunk ++ ['-']]
  | chunk :: chunks => chunk :: closeChunks chunks

/-- A chunk in front of other chunks. A range that would hold nothing goes, with both its ends, and what
is left on its sides is one chunk. -/
def addChunk (chunk : Text) : List Text → List Text
  | [] => [chunk]
  | next :: chunks =>
    match chunk.getLast?, next.head? with
    | some low, some high =>
      if high < low then (chunk.dropLast ++ next.tail) :: chunks else chunk :: next :: chunks
    | _, _ => chunk :: next :: chunks

/-- What stands in a set: characters, and hyphens that make ranges. -/
inductive SetPart where
  | char (c : Char)
  | hyphen
  deriving DecidableEq, Inhabited

/-- Chunks with hyphens between them. -/
def joinChunks : List Text → List SetPart
  | [] => []
  | [chunk] => chunk.map .char
  | chunk :: chunks => chunk.map .char ++ .hyphen :: joinChunks chunks

/-- The ranges that are in a set. A hyphen with nothing in front of it stands for itself. -/
def rangesOf : List SetPart → List (Char × Char)
  | .char low :: .hyphen :: .char high :: parts => (low, high) :: rangesOf parts
  | .char c :: parts => (c, c) :: rangesOf parts
  | .hyphen :: parts => ('-', '-') :: rangesOf parts
  | [] => []

/-- The set with a content. Ranges that hold nothing are no part of it, and an exclamation mark that is
then the first of the content negates the rest. -/
def ofContent (content : Text) : GlobToken :=
  let skip := if content.head? = some '!' then 2 else 1
  let chunks := closeChunks (readChunks content.length skip content)
  match joinChunks (chunks.foldr addChunk []) with
  | .char '!' :: parts => .set true (rangesOf parts)
  | parts => .set false (rangesOf parts)

/-- The pieces of a name pattern, with the number of characters to pass over first. A bracket that
opens no set stands for itself. -/
def readFrom : Nat → Text → List GlobToken
  | _, [] => []
  | skip + 1, _ :: rest => readFrom skip rest
  | 0, c :: rest =>
    if c = '*' then .many :: readFrom 0 rest
    else if c = '?' then .any :: readFrom 0 rest
    else if c = '[' then
      match cutSet? rest with
      | some (content, _) => ofContent content :: readFrom (content.length + 1) rest
      | none => .char c :: readFrom 0 rest
    else .char c :: readFrom 0 rest

/-- The pieces of a name pattern. -/
def read (pattern : Text) : List GlobToken := readFrom 0 pattern

/-- Whether a character is in a set. -/
def inRanges (ranges : List (Char × Char)) (c : Char) : Bool :=
  ranges.any fun range => decide (range.1 ≤ c) && decide (c ≤ range.2)

/-- Whether a piece matches one character. -/
def acceptsChar (c : Char) : GlobToken → Bool
  | .char expected => expected == c
  | .any => true
  | .many => false
  | .set negated ranges => inRanges ranges c != negated

/-- Whether pieces match a name and its ends, the whole name first and the empty end last. -/
def acceptsEnds : List GlobToken → Text → List Bool
  | [], name => name.map (fun _ => false) ++ [true]
  | .many :: tokens, name =>
    (acceptsEnds tokens name).foldr
      (fun matched others => (matched || others.head?.getD false) :: others) []
  | token :: tokens, name =>
    List.zipWith (fun c matched => token.acceptsChar c && matched) name
      (acceptsEnds tokens name).tail ++ [false]

/-- Whether pieces match a whole name. -/
def accepts (tokens : List GlobToken) (name : Text) : Bool :=
  (acceptsEnds tokens name).head?.getD false

end GlobToken

/-- One part of a pattern: a plain name, a name pattern, or any number of directories. -/
inductive GlobPart where
  | name (name : Text)
  | pattern (tokens : List GlobToken)
  | directories
  deriving DecidableEq, Inhabited

/-- Why a pattern is refused: it is empty, it has dots for the directory itself and no name, or such dots
and a slash at its end, it begins at the root, it has two asterisks inside a name, or it has too many
names. -/
inductive GlobFault where
  | empty
  | noName
  | onlySlash
  | absolute
  | doubleAsterisk
  | tooDeep
  deriving DecidableEq, Inhabited

/-- A pattern: its parts, and whether it ends in a slash and so selects directories only. -/
structure Glob where
  parts : List GlobPart
  directoriesOnly : Bool
  deriving DecidableEq, Inhabited

namespace Glob

/-- The part that a name of a pattern is. -/
def readPart (name : Text) : Except GlobFault GlobPart :=
  if name = ['*', '*'] then .ok .directories
  else if (Text.splitOn '*' name).dropLast.tail.contains [] then .error .doubleAsterisk
  else if '*' ∈ name ∨ '?' ∈ name ∨ '[' ∈ name then .ok (.pattern (GlobToken.read name))
  else .ok (.name name)

/-- The greatest number of parts of a pattern. -/
def mostParts : Nat := 245

/-- The pattern that a text is. -/
def read (text : Text) : Except GlobFault Glob :=
  let path := Path.ofText text
  let directoriesOnly := text.getLast? == some '/'
  if text.isEmpty then .error .empty
  else if path.isAbsolute then .error .absolute
  else if path.names.isEmpty then .error (if directoriesOnly then .onlySlash else .noName)
  else
    match (path.names.take mostParts).mapM readPart with
    | .ok parts => if path.names.length ≤ mostParts then .ok ⟨parts, directoriesOnly⟩ else .error .tooDeep
    | .error fault => .error fault

/-- The directory at a path and all directories below it. -/
def directoriesFrom (tree : FileTree) (here : Place) (path : Path) : List Path :=
  match tree.walk here path with
  | .error _ => []
  | .ok place =>
    let below := tree.nodes.filterMap fun entry =>
      if entry.2 = .directory ∧ place.isPrefixOf entry.1 ∧ entry.1 ≠ place then
        some (⟨path.anchor, path.names ++ entry.1.drop place.length⟩ : Path)
      else none
    path :: below

/-- The paths of the children of the directory at a path whose names match. -/
def childrenFrom (tree : FileTree) (here : Place) (tokens : List GlobToken) (path : Path) :
    List Path :=
  match tree.walk here path with
  | .error _ => []
  | .ok place =>
    ((tree.namesIn place).filter (GlobToken.accepts tokens)).map fun name =>
      ⟨path.anchor, path.names ++ [name]⟩

/-- A path, if something is there that a part may select: a directory only, or anything. -/
def probed (tree : FileTree) (here : Place) (directoriesOnly : Bool) (path : Path) :
    Except FileError (List Path) :=
  match tree.probe here path with
  | .ok (some node) => .ok (if directoriesOnly && node != .directory then [] else [path])
  | .ok none => .ok []
  | .error error => .error error

/-- The paths that a part selects from the path of a directory. -/
def selectPart (tree : FileTree) (here : Place) (directoriesOnly : Bool) (part : GlobPart)
    (path : Path) : Except FileError (List Path) :=
  match part with
  | .name name => probed tree here directoriesOnly ⟨path.anchor, path.names ++ [name]⟩
  | .pattern tokens =>
    let found := childrenFrom tree here tokens path
    .ok (if directoriesOnly then found.filter (tree.isDirectory here) else found)
  | .directories => .ok (directoriesFrom tree here path)

/-- The paths that parts select from a path; all but the last part must select directories. -/
def selectFrom (tree : FileTree) (here : Place) (directoriesOnly : Bool) :
    List GlobPart → Path → Except FileError (List Path)
  | [], path => .ok [path]
  | part :: parts, path => do
    let found ← selectPart tree here (directoriesOnly || !parts.isEmpty) part path
    let paths ← found.mapM (selectFrom tree here directoriesOnly parts)
    .ok paths.flatten

/-- The paths below a directory that match a pattern, each once and in the order of paths. -/
def select (tree : FileTree) (here : Place) (glob : Glob) (directory : Path) :
    Except FileError (List Path) :=
  if tree.isDirectory here directory then
    match selectFrom tree here glob.directoriesOnly glob.parts directory with
    | .ok paths => .ok (paths.eraseDups.mergeSort Path.le)
    | .error error => .error error
  else .ok []

end Glob

end TypstFences
