import TypstFences.Files.Tree
import TypstFences.Log

/-!
# Host

What a run finds around it and leaves behind: the files, the directory it works in, the directory for
its private work, a tag that makes the names of its temporary files its own, and the log.
-/

set_option autoImplicit false

namespace TypstFences

/-- The surroundings of a run. -/
structure Host where
  files : FileTree
  here : Place
  scratch : Place
  tag : Text
  log : Log
  deriving DecidableEq, Inhabited

namespace Host

/-- The host with one more message in its log. -/
def note (host : Host) (level : Int) (message : Text) : Host :=
  { host with log := host.log ++ [⟨level, message⟩] }

/-- The host with other files. -/
def withFiles (host : Host) (files : FileTree) : Host := { host with files := files }

/-- Whether there is a directory at a path. -/
def isDirectory (host : Host) (path : Path) : Bool := host.files.isDirectory host.here path

/-- Whether there is a directory at a path, for one who must know. -/
def probeDirectory (host : Host) (path : Path) : Except FileError Bool :=
  match host.files.probe host.here path with
  | .ok node => .ok (node == some .directory)
  | .error error => .error error

/-- Whether there is a file at a path. -/
def isFile (host : Host) (path : Path) : Bool := host.files.isFile host.here path

/-- The content of the file at a path. -/
def content (host : Host) (path : Path) : Except FileError Bytes :=
  host.files.content host.here path

/-- The host after an operation on its files; a refused operation leaves them alone. -/
def change (host : Host) (operation : FileTree → Except FileError FileTree) :
    Except FileError Unit × Host :=
  match operation host.files with
  | .ok files => (.ok (), host.withFiles files)
  | .error error => (.error error, host)

/-- The host with directories at a path and at all that lead to it. -/
def ensureDirectories (host : Host) (path : Path) : Except FileError Unit × Host :=
  host.change fun files => files.ensureDirectories host.here path

/-- The host with a new directory at a path and directories at all that lead to it. -/
def makeDirectories (host : Host) (path : Path) : Except FileError Unit × Host :=
  host.change fun files => files.makeDirectories host.here path

/-- The host with a file written at a path. -/
def write (host : Host) (path : Path) (content : Bytes) : Except FileError Unit × Host :=
  host.change fun files => files.write host.here path content

/-- The host with named files written into a directory, one after the other. -/
def writeAll (directory : Path) : List (Text × Bytes) → Host → Except FileError Unit × Host
  | [], host => (.ok (), host)
  | (name, content) :: files, host =>
    match host.write (directory.child name) content with
    | (.ok (), host) => writeAll directory files host
    | (.error error, host) => (.error error, host)

/-- The host with named files in a directory, which is made if it is missing. -/
def fillDirectory (directory : Path) (files : List (Text × Bytes)) (host : Host) :
    Except FileError Unit × Host :=
  match host.ensureDirectories directory with
  | (.ok (), host) => writeAll directory files host
  | (.error error, host) => (.error error, host)

end Host

end TypstFences
