import TypstFences.Files.Glob
import TypstFences.Files.Tree
import TypstFences.Host
import TypstFences.PassError

/-!
# The artifact directory

Artifacts in a directory, one file a page, named by key, page number and format. An artifact is there
when its first page is; hence the pages are written from the last to the first, each under another name
first, so that an interrupted store leaves nothing that could be taken for an artifact.
-/

set_option autoImplicit false

namespace TypstFences.Store

/-- The name of the file of a page. -/
def pageName (key : Text) (page : Nat) (format : Text) : Text :=
  key ++ '-' :: Text.ofNat page ++ '.' :: format

/-- The path of the file of a page. -/
def pagePath (directory : Path) (key : Text) (page : Nat) (format : Text) : Path :=
  directory.child (pageName key page format)

/-- The path under which a file is written before it takes its name. -/
def draftPath (tag : Text) (target : Path) : Path :=
  ⟨target.anchor, target.names.dropLast ++ ['.' :: target.name ++ '.' :: tag ++ ".tmp".toList]⟩

/-- One operation of a store. -/
inductive Step where
  | write (path : Path) (content : Bytes)
  | rename (source target : Path)
  deriving DecidableEq, Inhabited

/-- The files after a step. -/
def Step.apply (here : Place) (files : FileTree) : Step → Except FileError FileTree
  | .write path content => files.write here path content
  | .rename source target => files.rename here source target

/-- The files after steps; a refused step leaves the files as they were and ends the steps. -/
def runSteps (here : Place) : List Step → FileTree → Except FileError Unit × FileTree
  | [], files => (.ok (), files)
  | step :: steps, files =>
    match step.apply here files with
    | .ok changed => runSteps here steps changed
    | .error error => (.error error, files)

/-- The steps that put a page into its file. -/
def pageSteps (directory : Path) (tag key format : Text) (content : Bytes) (page : Nat) : List Step :=
  let target := pagePath directory key page format
  [.write (draftPath tag target) content, .rename (draftPath tag target) target]

/-- The steps that store an artifact, the first page last. -/
def steps (directory : Path) (tag key : Text) (artifact : Artifact) : List Step :=
  (artifact.pages.zipIdx 1).reverse.flatMap fun (content, page) =>
    pageSteps directory tag key artifact.format content page

/-- Storing an artifact in a directory, which is made if it is missing. -/
def save (directory : Path) (key : Text) (artifact : Artifact) (host : Host) :
    Except FileError Unit × Host :=
  match host.ensureDirectories directory with
  | (.error error, host) => (.error error, host)
  | (.ok (), host) =>
    let (outcome, files) := runSteps host.here (steps directory host.tag key artifact) host.files
    (outcome, host.withFiles files)

/-- The format of the artifact of a key in a directory: the suffix of the first file that could be its
first page. -/
def format? (directory : Path) (key : Text) (host : Host) : Except PassError (Option Text) :=
  match Glob.read (pageName key 1 ['*']) with
  | .error fault => .error (.badPattern fault)
  | .ok glob =>
    match glob.select host.files host.here directory with
    | .error error => .error (.refusedFile error)
    | .ok [] => .ok none
    | .ok (path :: _) => .ok (some (path.suffix.dropWhile (· == '.')))

/-- The artifact of a key in a directory, if there is one. -/
def load (directory : Path) (key : Text) (host : Host) :
    Except PassError (Option Artifact) × Host :=
  match host.probeDirectory directory with
  | .error error => (.error (.refusedFile error), host)
  | .ok false => (.ok none, host)
  | .ok true =>
    match format? directory key host with
    | .error error => (.error error, host)
    | .ok none => (.ok none, host)
    | .ok (some format) =>
      match host.files.pages host.here fun page => pagePath directory key page format with
      | .error error => (.error (.refusedFile error), host)
      | .ok pages =>
        let message := "Cache hit for ".toList ++ key.take 12 ++ " (".toList ++
          Text.ofNat pages.length ++ " page(s))".toList
        (.ok (some ⟨pages, format⟩), host.note 3 message)

end TypstFences.Store
