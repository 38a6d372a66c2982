import TypstFences.Text.Basic

/-!
# Paths

A path is an anchor and a list of names. Writing a path and reading it back gives the same path:
repeated slashes and the name of the current directory disappear, the name of the parent directory
stays, and exactly two slashes at the start are kept apart from one.
-/

set_option autoImplicit false

namespace TypstFences

/-- Where a path begins: at the directory it is used from, or at the root, written with one slash or
with two. -/
inductive Anchor where
  | here
  | root
  | doubleRoot
  deriving DecidableEq, Inhabited

/-- A path: its anchor and the names on the way. -/
structure Path where
  anchor : Anchor
  names : List Text
  deriving DecidableEq, Inhabited

/-- The place of a file or directory: the names on the way from the root to it, each the name of a
child. -/
abbrev Place := List Text

namespace Path

/-- The name of the directory above. -/
def parentName : Text := ['.', '.']

/-- The anchor that the start of a text gives. -/
def readAnchor : Text → Anchor
  | '/' :: '/' :: '/' :: _ => .root
  | '/' :: '/' :: _ => .doubleRoot
  | '/' :: _ => .root
  | _ => .here

/-- The path that a text names. -/
def ofText (text : Text) : Path where
  anchor := readAnchor text
  names := (Text.splitOn '/' text).filter fun name => !name.isEmpty && name != ['.']

/-- The text of an anchor. -/
def anchorText : Anchor → Text
  | .here => []
  | .root => ['/']
  | .doubleRoot => ['/', '/']

/-- The text of a path; the empty relative path is a dot. -/
def text (path : Path) : Text :=
  if path.anchor = .here ∧ path.names.isEmpty then ['.']
  else anchorText path.anchor ++ Text.joinWith ['/'] path.names

/-- Whether a path begins at the root. -/
def isAbsolute (path : Path) : Bool := path.anchor != .here

/-- The second path as seen from the first; an absolute second path stands for itself. -/
def join (path other : Path) : Path :=
  if other.isAbsolute then other else ⟨path.anchor, path.names ++ other.names⟩

/-- The path named by a text, as seen from a path. -/
def child (path : Path) (text : Text) : Path := path.join (ofText text)

/-- The path without its last name. -/
def parent (path : Path) : Path := { path with names := path.names.dropLast }

/-- The last name of a path, empty if there is none. -/
def name (path : Path) : Text := path.names.getLast?.getD []

/-- The last dot of a name and what follows it. A dot at the start or at the end of the name does not
count. -/
def suffix (path : Path) : Text :=
  let ending := (path.name.reverse.takeWhile (· != '.')).reverse
  let stem := path.name.take (path.name.length - ending.length - 1)
  if ending.isEmpty ∨ stem.isEmpty then [] else '.' :: ending

/-- The names from the root on the way through a path that is used in a place, found by the names
alone. -/
def resolve (here : Place) (path : Path) : Place :=
  path.names.foldl
    (fun place name => if name = parentName then place.dropLast else place ++ [name])
    (if path.isAbsolute then [] else here)

/-- The absolute path to a place. -/
def ofPlace (place : Place) : Path := ⟨.root, place⟩

/-- The path to `path` from the directory above it called `base`, if it lies below it. -/
def relativeTo? (base path : Path) : Option Path :=
  if path.anchor = base.anchor ∧ base.names.isPrefixOf path.names then
    some ⟨.here, path.names.drop base.names.length⟩
  else none

/-- Paths are ordered by their names, one after the other. -/
def le (first second : Path) : Bool := Text.leAll first.names second.names

end Path

end TypstFences
