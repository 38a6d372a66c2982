import TypstFences.Files.Path
import TypstFences.Text.Quoted

/-!
# File trees

The files and directories that a program sees, as a list of places and what is there. Every operation
is a function from trees to trees, so that what an operation leaves alone can be stated as an equation.
An operation walks its path from the root or from the directory it is used in, and refuses what the
tree does not allow. No name is longer than 255 bytes, no path is longer than 4095, and none has a NUL
character in it. Numbered files are read from the first one on, up to the first that is missing.
-/

set_option autoImplicit false

namespace TypstFences

/-- What is at a place. -/
inductive Node where
  | file (content : Bytes)
  | directory
  deriving DecidableEq, Inhabited

/-- Why an operation on files is refused. -/
inductive FileFault where
  | notFound
  | notDirectory
  | alreadyExists
  | isDirectory
  | nameTooLong
  | nulCharacter
  | tooDeep
  deriving DecidableEq, Inhabited

/-- A refused operation, with the path it was asked for. -/
structure FileError where
  fault : FileFault
  path : Text
  deriving DecidableEq, Inhabited

namespace FileError

/-- The number that the operating system gives to a fault, if the fault is one of its own. -/
def number? : FileFault → Option Nat
  | .notFound => some 2
  | .alreadyExists => some 17
  | .notDirectory => some 20
  | .isDirectory => some 21
  | .nameTooLong => some 36
  | .nulCharacter => none
  | .tooDeep => none

/-- A fault in words. -/
def reason : FileFault → Text
  | .notFound => "No such file or directory".toList
  | .alreadyExists => "File exists".toList
  | .notDirectory => "Not a directory".toList
  | .isDirectory => "Is a directory".toList
  | .nameTooLong => "File name too long".toList
  | .nulCharacter => "embedded null byte".toList
  | .tooDeep => "too many directories are missing".toList

/-- The error in words: its number, its reason, and the path, or else the reason alone. -/
def message (error : FileError) : Text :=
  match number? error.fault with
  | some number =>
    "[Errno ".toList ++ Text.ofNat number ++ "] ".toList ++ reason error.fault ++ ": ".toList ++
      Text.quoted error.path
  | none => reason error.fault

end FileError

/-- The nodes of a tree with their places; the first entry for a place counts. -/
structure FileTree where
  nodes : List (Place × Node)
  deriving DecidableEq, Inhabited

namespace FileTree

/-- A tree without any file or directory but the root. -/
def empty : FileTree := ⟨[]⟩

/-- What is at a place; the root is always a directory. -/
def node? (tree : FileTree) (place : Place) : Option Node :=
  if place.isEmpty then some .directory else tree.nodes.lookup place

/-- The nodes with one node put at a place. -/
def putNode (place : Place) (node : Node) : List (Place × Node) → List (Place × Node)
  | [] => [(place, node)]
  | (other, old) :: nodes =>
    if other = place then (place, node) :: nodes else (other, old) :: putNode place node nodes

/-- The tree with a node put at a place. -/
def put (tree : FileTree) (place : Place) (node : Node) : FileTree := ⟨putNode place node tree.nodes⟩

/-- The tree without what is at a place. -/
def remove (tree : FileTree) (place : Place) : FileTree :=
  ⟨tree.nodes.filter fun entry => entry.1 != place⟩

/-- The tree without a place and all that is below it. -/
def removeAll (tree : FileTree) (place : Place) : FileTree :=
  ⟨tree.nodes.filter fun entry => !place.isPrefixOf entry.1⟩

/-- Whether there is a directory at a place. -/
def isDirectoryAt (tree : FileTree) (place : Place) : Bool := tree.node? place == some .directory

/-- The names of the children of a directory. -/
def namesIn (tree : FileTree) (place : Place) : List Text :=
  tree.nodes.filterMap fun entry =>
    if entry.1.dropLast = place then entry.1.getLast? else none

/-- The number of bytes of a text in UTF-8. -/
def byteCount (text : Text) : Nat := text.foldr (fun c count => c.utf8Size + count) 0

/-- Whether a name has room in a directory. -/
def nameFits (name : Text) : Bool := byteCount name ≤ 255

/-- Whether a path has room in a request. -/
def pathFits (path : Path) : Bool := byteCount path.text ≤ 4095

/-- The place reached by following names from a place. All but the last name must be those of
directories, and all must fit; nothing need be at the end. -/
def walkFrom (tree : FileTree) : Place → List Text → Except FileFault Place
  | place, [] => .ok place
  | place, name :: names =>
    match tree.node? place with
    | some .directory =>
      if !nameFits name then .error .nameTooLong
      else tree.walkFrom (if name = Path.parentName then place.dropLast else place ++ [name]) names
    | some (.file _) => .error .notDirectory
    | none => .error .notFound

/-- The place of a path used in the directory `here`. -/
def walk (tree : FileTree) (here : Place) (path : Path) : Except FileFault Place :=
  if path.names.any (·.contains '\x00') then .error .nulCharacter
  else if !pathFits path then .error .nameTooLong
  else tree.walkFrom (if path.isAbsolute then [] else here) path.names

/-- What is at a path, if anything. -/
def find? (tree : FileTree) (here : Place) (path : Path) : Option Node :=
  match tree.walk here path with
  | .ok place => tree.node? place
  | .error _ => none

/-- What is at a path, for one who must know: looking for a name that does not fit is refused. -/
def probe (tree : FileTree) (here : Place) (path : Path) : Except FileError (Option Node) :=
  match tree.walk here path with
  | .ok place => .ok (tree.node? place)
  | .error .nameTooLong => .error ⟨.nameTooLong, path.text⟩
  | .error _ => .ok none

/-- Whether there is a directory at a path. -/
def isDirectory (tree : FileTree) (here : Place) (path : Path) : Bool :=
  tree.find? here path == some .directory

/-- Whether there is a file at a path. -/
def isFile (tree : FileTree) (here : Place) (path : Path) : Bool :=
  match tree.find? here path with
  | some (.file _) => true
  | _ => false

/-- The content of the file at a path. -/
def content (tree : FileTree) (here : Place) (path : Path) : Except FileError Bytes :=
  match tree.walk here path with
  | .error fault => .error ⟨fault, path.text⟩
  | .ok place =>
    match tree.node? place with
    | some (.file content) => .ok content
    | some .directory => .error ⟨.isDirectory, path.text⟩
    | none => .error ⟨.notFound, path.text⟩

/-- Whether a place may hold a file: what contains it is a directory, and no directory is there. -/
def placeForFile (tree : FileTree) (here : Place) (path : Path) : Except FileError Place :=
  match tree.walk here path with
  | .error fault => .error ⟨fault, path.text⟩
  | .ok place =>
    if tree.isDirectoryAt place then .error ⟨.isDirectory, path.text⟩ else .ok place

/-- The tree with a file written at a path, in the place of an older file. -/
def write (tree : FileTree) (here : Place) (path : Path) (content : Bytes) :
    Except FileError FileTree :=
  match tree.placeForFile here path with
  | .error error => .error error
  | .ok place => .ok (tree.put place (.file content))

/-- The tree with a file moved to another path, in the place of an older file. -/
def rename (tree : FileTree) (here : Place) (source target : Path) : Except FileError FileTree :=
  match tree.content here source, tree.walk here source, tree.placeForFile here target with
  | .ok content, .ok old, .ok place => .ok ((tree.remove old).put place (.file content))
  | .error error, _, _ => .error error
  | _, .error fault, _ => .error ⟨fault, source.text⟩
  | _, _, .error error => .error error

/-- The tree with a new directory at a path. -/
def makeDirectory (tree : FileTree) (here : Place) (path : Path) : Except FileError FileTree :=
  match tree.walk here path with
  | .error fault => .error ⟨fault, path.text⟩
  | .ok place =>
    match tree.node? place with
    | some _ => .error ⟨.alreadyExists, path.text⟩
    | none => .ok (tree.put place .directory)

/-- The tree with a directory at a path, be it new or old. -/
def ensureDirectory (tree : FileTree) (here : Place) (path : Path) : Except FileError FileTree :=
  match tree.makeDirectory here path with
  | .ok made => .ok made
  | .error error => if tree.isDirectory here path then .ok tree else .error error

/-- The greatest number of directories that are made one for the sake of the other. -/
def deepest : Nat := 980

/-- The tree with directories at all the paths that lead to names given from the last to the first, of
which no more than a number may be missing. -/
def ensureDirectoriesFrom (here : Place) (anchor : Anchor) :
    Nat → List Text → FileTree → Except FileError FileTree
  | 0, names, _ => .error ⟨.tooDeep, Path.text ⟨anchor, names.reverse⟩⟩
  | _ + 1, [], tree => tree.ensureDirectory here ⟨anchor, []⟩
  | depth + 1, name :: above, tree =>
    let path : Path := ⟨anchor, (name :: above).reverse⟩
    match tree.makeDirectory here path with
    | .error ⟨.notFound, _⟩ =>
      match ensureDirectoriesFrom here anchor depth above tree with
      | .ok made => made.ensureDirectory here path
      | .error error => .error error
    | _ => tree.ensureDirectory here path

/-- The tree with a directory at a path, and at every path that leads to it. -/
def ensureDirectories (tree : FileTree) (here : Place) (path : Path) : Except FileError FileTree :=
  ensureDirectoriesFrom here path.anchor deepest path.names.reverse tree

/-- The tree with a new directory at a path, and a directory at every path that leads to it. -/
def makeDirectories (tree : FileTree) (here : Place) (path : Path) : Except FileError FileTree :=
  match tree.makeDirectory here path with
  | .error ⟨.notFound, error⟩ =>
    if path.names.isEmpty then .error ⟨.notFound, error⟩
    else
      match tree.ensureDirectories here path.parent with
      | .ok tree => tree.makeDirectory here path
      | .error error => .error error
  | outcome => outcome

/-- The files of a tree below a place, with their places seen from there. -/
def filesBelow (tree : FileTree) (place : Place) : List (Place × Bytes) :=
  tree.nodes.filterMap fun entry =>
    match entry with
    | (other, .file content) =>
      if place.isPrefixOf other then some (other.drop place.length, content) else none
    | _ => none

/-- The contents of numbered files from number `page` on, at most `most` of them. -/
def pagesFrom (tree : FileTree) (here : Place) (path : Nat → Path) :
    Nat → Nat → Except FileError (List Bytes)
  | 0, _ => .ok []
  | most + 1, page =>
    match tree.probe here (path page) with
    | .error error => .error error
    | .ok none => .ok []
    | .ok (some _) =>
      match tree.content here (path page) with
      | .error error => .error error
      | .ok content =>
        match tree.pagesFrom here path most (page + 1) with
        | .ok contents => .ok (content :: contents)
        | .error error => .error error

/-- The contents of numbered files. A tree has no more pages than nodes. -/
def pages (tree : FileTree) (here : Place) (path : Nat → Path) : Except FileError (List Bytes) :=
  tree.pagesFrom here path (tree.nodes.length + 1) 1

end FileTree

end TypstFences
