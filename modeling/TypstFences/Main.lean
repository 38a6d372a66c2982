import TypstFences.Book.Program
import TypstFences.Engine.Typst
import TypstFences.Settings.Surroundings
import TypstFences.Site.Program

/-!
# The command line

The outer layer of the programs. It reads the working directory into a file tree and the variables into
the surroundings, runs the program, and then writes the files that changed, the log and the complaints.
Everything is decided by `Site.run` and `Book.run`. With `mdbook` as its first word the program is the
preprocessor of a book.
-/

set_option autoImplicit false

namespace TypstFences.CommandLine

/-- The runner of a process that may not start others. -/
def noRunner : Typst.Runner Unit := fun _ state =>
  (⟨[], .notStarted "[Errno 1] Operation not permitted".toList⟩, state)

/-- Sources are shown as plain text, and objects stand nowhere in particular. -/
def presses : Presses := ⟨.plain, fun _ _ _ _ => "0x0".toList⟩

/-- The engine for some settings in a directory. -/
def makeEngine (settings : Settings) (here : Place) : Engine (Typst.State Unit) :=
  Typst.engine (Typst.Config.ofSettings settings none) here noRunner

/-- An engine that knows nothing yet. -/
def freshState : Typst.State Unit := ⟨none, ()⟩

/-- The place that an absolute path names. -/
def placeOf (path : String) : Place := (Path.ofText path.toList).resolve []

/-- The absolute path to a place. -/
def pathTo (place : Place) : String := String.ofList (Path.ofPlace place).text

/-- A text as a string. -/
def shown (text : Text) : String := String.ofList text

/-- The nodes of the directories and files below a directory, the directory first. -/
partial def loadBelow (directory : String) : IO (List (Place × Node)) := do
  let mut nodes := [(placeOf directory, Node.directory)]
  let current ← IO.currentDir
  for entry in ← (current / directory).readDir do
    let path := entry.path.toString
    if ← entry.path.isDir then
      nodes := nodes ++ (← loadBelow path)
    else
      let content ← IO.FS.readBinFile path
      nodes := nodes ++ [(placeOf path, Node.file content.data.toList)]
  return nodes

/-- The nodes of the directories above a place. -/
def nodesAbove (place : Place) : List (Place × Node) :=
  (List.range place.length).map fun n => (place.take n, Node.directory)

/-- The host of a process. -/
def loadHost : IO Host := do
  let directory := (← IO.currentDir).toString
  let here := placeOf directory
  let nodes ← loadBelow directory
  let scratch := here ++ [".typfence-work".toList]
  return ⟨⟨nodesAbove here ++ nodes⟩, here, scratch, "run".toList, []⟩

/-- The content of a file of the working directory, empty if there is none. -/
def contentOf (host : Host) (name : String) : Bytes :=
  match host.content (Path.ofText name.toList) with
  | .ok content => content
  | .error _ => []

/-- The surroundings of a process. -/
def loadAmbient (host : Host) : IO Ambient := do
  let mut environment : List (Text × Text) := []
  for field in Field.all do
    let name := (Settings.variableName field).map Char.toUpper
    match ← IO.getEnv (shown name) with
    | some value => environment := environment ++ [(name, value.toList)]
    | none => pure ()
  return (Surroundings.read environment (contentOf host ".env") (contentOf host "typfence.yaml")).ambient

/-- The files that a run changed are written. -/
def saveChanges (before after : Host) : IO Unit := do
  for (place, node) in after.files.nodes do
    if before.files.node? place != some node then
      match node with
      | .directory => IO.FS.createDirAll (pathTo place)
      | .file content => IO.FS.writeBinFile (pathTo place) ⟨content.toArray⟩

/-- The messages of a log are shown. -/
def showLog (verbosity : Int) (log : Log) : IO Unit := do
  for entry in log.shown verbosity do
    IO.eprintln (shown (entry.levelName ++ " ".toList ++ entry.message))

/-- The settings that a process starts with. -/
def startSettings (ambient : Ambient) : IO Settings := do
  match Settings.build ambient [] with
  | .ok settings => return settings
  | .error error => throw (IO.userError (shown error.message))

/-- The engine for settings, unless there cannot be one. -/
def makeEngineFor (settings : Settings) (here : Place) : Except FileError (Engine (Typst.State Unit)) :=
  Typst.engineFor (Typst.Config.ofSettings settings none) here noRunner

/-- The program that runs over a directory. -/
def runSite (words : List Text) : IO UInt32 := do
  let host ← loadHost
  let ambient ← loadAmbient host
  let base ← startSettings ambient
  let report := Site.run ambient base presses makeEngineFor words ⟨freshState, [], host⟩
  saveChanges host report.world.host
  showLog report.verbosity report.world.host.log
  for complaint in report.world.complaints do
    IO.eprintln (shown complaint.text)
  IO.print (shown report.printed)
  return UInt32.ofNat (report.status?.getD 1)

/-- The preprocessor of a book. -/
def runBook (words : List Text) : IO UInt32 := do
  let host ← loadHost
  let ambient ← loadAmbient host
  let input ← (← IO.getStdin).readToEnd
  let base ← startSettings ambient
  let report := Book.run ambient base presses ⟨makeEngine, freshState⟩ words input.toList host
  saveChanges host report.world.host
  showLog 1 report.world.host.log
  IO.eprint (shown report.complaints)
  IO.print (shown (report.printed.getD []))
  return match report.ending with
    | .ok status => UInt32.ofNat status
    | .error _ => 1

end TypstFences.CommandLine

/-- The program on the words after its name. -/
def main (words : List String) : IO UInt32 :=
  match words.map String.toList with
  | first :: rest =>
    if first = "mdbook".toList then TypstFences.CommandLine.runBook rest
    else TypstFences.CommandLine.runSite (first :: rest)
  | [] => TypstFences.CommandLine.runSite []
