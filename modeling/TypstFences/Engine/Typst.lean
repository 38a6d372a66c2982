import TypstFences.Engine.Basic
import TypstFences.Engine.Diagnostic
import TypstFences.Files.Tree
import TypstFences.Settings.Field
import TypstFences.Text.Line
import TypstFences.Text.Utf8

/-!
# The Typst engine

Compiling a source by running the `typst` program. The source is written to a file, the program writes
a file for each page into a private directory, and what it wrote is read back. With a root, the source
lies as a hidden file in the root, where relative names in it find their files. Neither the hidden file
nor the private directory outlives the run.
-/

set_option autoImplicit false

namespace TypstFences.Typst

/-- A program that is run: its arguments, the seconds it is given, the directory it runs in if that is
prescribed, and the files that it finds. -/
structure Invocation where
  arguments : List Text
  timeout : Binary64
  directory : Option Path
  files : FileTree

/-- How a run ends: it is abandoned, it never starts, or the program exits with a status. -/
inductive Ending where
  | timedOut
  | notStarted (reason : Text)
  | exited (status : Int) (output errors : Bytes)
  deriving DecidableEq, Inhabited

/-- What a run leaves: the files it wrote, and its end. -/
structure Outcome where
  written : List (Path × Bytes)
  ending : Ending
  deriving Inhabited

/-- Something that runs programs, with a state of its own. -/
abbrev Runner (ρ : Type) := Invocation → ρ → Outcome × ρ

/-- How the program is run. -/
structure Config where
  executable : Text
  arguments : List Text
  root : Option Text
  fontPath : Option Text
  timeout : Binary64
  format : Text
  deriving DecidableEq, Inhabited

namespace Config

/-- A text that is given and not empty. -/
def given (text : Option Text) : Option Text := text.filter fun value => !value.isEmpty

/-- How the settings want the program to be run; a font directory given beside them wins. -/
def ofSettings (settings : Settings) (fontPath : Option Text) : Config where
  executable := settings.engineExecutable
  arguments := settings.engineArgs
  root := settings.engineRoot
  fontPath := (given fontPath).or settings.fontPath
  timeout := settings.engineTimeout
  format := settings.outputFormat

/-- The place of the root, if there is one. -/
def rootPlace? (config : Config) (here : Place) : Option Place :=
  (given config.root).map fun root => (Path.ofText root).resolve here

/-- What is wrong with the root, which must not have a NUL character in it. -/
def rootFault? (config : Config) : Option FileError :=
  (config.root.filter (·.contains '\x00')).map fun root => ⟨.nulCharacter, root⟩

/-- The arguments of a compilation. -/
def command (config : Config) (here : Place) (source template : Path) : List Text :=
  [config.executable, "compile".toList, source.text, template.text] ++
    (match config.rootPlace? here with
      | some root => ["--root".toList, (Path.ofPlace root).text]
      | none => []) ++
    (match given config.fontPath with
      | some fonts => ["--font-path".toList, fonts]
      | none => []) ++
    config.arguments

end Config

/-- The version of the program, once it is known, and the state of what runs it. -/
structure State (ρ : Type) where
  version : Option Text
  runner : ρ

variable {ρ : Type}

/-- What is said of a version that cannot be found out. -/
def unknownVersion : Text := "unknown".toList

/-- What is noted when the version cannot be found out. -/
def versionFault (config : Config) (reason : Text) : Text :=
  "Could not query ".toList ++ config.executable ++ " version: ".toList ++ reason

/-- The version that a run says, and what is to be noted about the run. What the program writes must be text
on both outputs. -/
def versionOf (config : Config) : Ending → Except PassError (Text × Option Text)
  | .exited _ output errors =>
    match Text.decodeUtf8? output, Text.decodeUtf8? errors with
    | some output, some _ =>
      let said := Text.trim (Text.unifyLineEndings output)
      .ok (if said.isEmpty then unknownVersion else said, none)
    | _, _ => .error .undecodableVersion
  | .notStarted reason => .ok (unknownVersion, some (versionFault config reason))
  | .timedOut =>
    let reason := "timed out after ".toList ++ config.timeout.generalText 6 ++ " seconds".toList
    .ok (unknownVersion, some (versionFault config reason))

/-- What is wrong with the arguments of a program, none of which can have a NUL character in it. -/
def argumentFault? (arguments : List Text) : Option PassError :=
  (arguments.find? (·.contains '\x00')).map fun argument => .refusedFile ⟨.nulCharacter, argument⟩

/-- The version of the program. It is asked until it is known. -/
def version (config : Config) (run : Runner ρ) (rig : Rig (State ρ)) :
    Except PassError Text × Rig (State ρ) :=
  match rig.state.version with
  | some known => (.ok known, rig)
  | none =>
    let arguments := [config.executable, "--version".toList]
    match argumentFault? arguments with
    | some error => (.error error, rig)
    | none =>
      let (outcome, runner) := run ⟨arguments, config.timeout, none, rig.host.files⟩ rig.state.runner
      match versionOf config outcome.ending with
      | .error error => (.error error, { rig with state := ⟨none, runner⟩ })
      | .ok (found, fault) =>
        let rig := { rig with state := ⟨some found, runner⟩ }
        match fault with
        | some message => (.ok found, rig.note 2 message)
        | none => (.ok found, rig)

/-- The name of the source in the private directory. -/
def sourceName : Text := "main.typ".toList

/-- The name of the source in the root. -/
def hiddenName (tag : Text) : Text := ".typfence-".toList ++ tag ++ ".typ".toList

/-- The place of the source of a compilation. -/
def sourcePlace (config : Config) (host : Host) : Place :=
  match config.rootPlace? host.here with
  | some root => root ++ [hiddenName host.tag]
  | none => host.scratch ++ [sourceName]

/-- The host with its private directory. -/
def openScratch (host : Host) : Host := host.withFiles (host.files.put host.scratch .directory)

/-- The host without its private directory and all in it. -/
def closeScratch (host : Host) : Host := host.withFiles (host.files.removeAll host.scratch)

/-- The files with a new file; one that is there already is in the way. -/
def addFile (files : FileTree) (place : Place) (content : Bytes) : Except FileError FileTree :=
  match files.walk [] (Path.ofPlace place) with
  | .error fault => .error ⟨fault, (Path.ofPlace place).text⟩
  | .ok place =>
    match files.node? place with
    | some _ => .error ⟨.alreadyExists, (Path.ofPlace place).text⟩
    | none => .ok (files.put place (.file content))

/-- The path of the file of a page, or of all pages where the number is left open. -/
def pagePath (config : Config) (host : Host) (number : Text) : Path :=
  (Path.ofPlace host.scratch).child ("page-".toList ++ number ++ '.' :: config.format)

/-- The path by which the program is told where to write pages: it puts the numbers in. -/
def template (config : Config) (host : Host) : Path :=
  pagePath config host ['\x7b', 'n', '\x7d']

/-- The host with files that a run wrote, one after the other. -/
def addWritten : List (Path × Bytes) → Host → Except FileError Unit × Host
  | [], host => (.ok (), host)
  | (path, content) :: written, host =>
    match host.write path content with
    | (.ok (), host) => addWritten written host
    | (.error error, host) => (.error error, host)

/-- The program cannot be run, for a reason. -/
def cannotRun (config : Config) (reason : Text) : Failure where
  diagnostic := "Cannot run '".toList ++ config.executable ++ "': ".toList ++ reason
  kind := engineKind
  line := none

/-- The reply when a file cannot be put down: the program cannot be run. A path that the system would not
even look at ends the pass. -/
def refused (config : Config) (error : FileError) : Reply :=
  if error.fault = .nulCharacter then .crashed (.refusedFile error)
  else .finished (.failure (cannotRun config error.message))

/-- The program exited with a status that is not zero. What it wrote to its error output is the
diagnostic, if it wrote anything, and may point to a line. -/
def rejected (config : Config) (status : Int) (errors : Text) (line : Option Nat) : Failure where
  diagnostic :=
    if Text.allBlank errors then
      config.executable ++ " exited with status ".toList ++ Text.ofInt status
    else Text.trim errors
  kind := compileKind
  line := line.map Int.ofNat

/-- The program succeeded without writing a page. -/
def noPages (config : Config) : Failure where
  diagnostic := config.executable ++ " produced no ".toList ++ config.format ++ " output".toList
  kind := engineKind
  line := none

/-- The pages in the private directory as a reply. -/
def collect (config : Config) (host : Host) : Reply :=
  match host.files.pages host.here fun page => pagePath config host (Text.ofNat page) with
  | .ok [] => .finished (.failure (noPages config))
  | .ok pages => .finished (.artifact ⟨pages, config.format⟩)
  | .error error => .crashed (.refusedFile error)

/-- The host after the warnings of a run that succeeded were noted. -/
def noteWarnings (errors : Text) (host : Host) : Host :=
  if Text.allBlank errors then host
  else host.note 2 ("typst reported warnings:\n".toList ++ Text.trimEnd errors)

/-- The reply that the end of a run gives, while the private directory is still there. -/
def replyOf (config : Config) (file : Text) (ending : Ending) (host : Host) : Reply × Host :=
  match ending with
  | .timedOut => (.timedOut ⟨config.timeout, []⟩, host)
  | .notStarted reason => (.finished (.failure (cannotRun config reason)), host)
  | .exited status _ errors =>
    let errors := Text.decodeUtf8Lossy errors
    if status = 0 then (collect config host, noteWarnings errors host)
    else
      match Diagnostic.readLine file errors with
      | .ok line => (.finished (.failure (rejected config status errors line)), host)
      | .error error => (.crashed error, host)

/-- The reply that a run gives, after its files were put down or one was refused; a run that would not exit
ends no differently. -/
def replyAfter (config : Config) (file : Text) (written : Except FileError Unit) (ending : Ending)
    (host : Host) : Reply × Host :=
  match written, ending with
  | .error error, .exited .. => (refused config error, host)
  | _, ending => replyOf config file ending host

/-- What the program makes of a source. -/
def compile (config : Config) (run : Runner ρ) (source : Text) (rig : Rig (State ρ)) :
    Reply × Rig (State ρ) :=
  let host := openScratch rig.host
  let place := sourcePlace config host
  match addFile host.files place (Text.encodeUtf8 source) with
  | .error error =>
    (refused config error, { rig with host := closeScratch host })
  | .ok files =>
    let path := Path.ofPlace place
    let arguments := config.command host.here path (template config host)
    let host := (host.withFiles files).note 3
      ("Running ".toList ++ Text.joinWith [' '] arguments)
    match argumentFault? arguments with
    | some error =>
      (.crashed error, { rig with host := closeScratch (host.withFiles (host.files.remove place)) })
    | none =>
      let invocation : Invocation :=
        ⟨arguments, config.timeout, some (Path.ofPlace host.scratch), host.files⟩
      let (outcome, runner) := run invocation rig.state.runner
      let (written, host) := addWritten outcome.written host
      let host := host.withFiles (host.files.remove place)
      let (reply, host) := replyAfter config path.name written outcome.ending host
      (reply, { rig with state := { rig.state with runner := runner }, host := closeScratch host })

/-- The engine that runs the program from a directory. -/
def engine (config : Config) (here : Place) (run : Runner ρ) : Engine (State ρ) where
  root := (config.rootPlace? here).map fun root => (Path.ofPlace root).text
  version := version config run
  compile := compile config run

/-- The engine, unless there cannot be one. -/
def engineFor (config : Config) (here : Place) (run : Runner ρ) :
    Except FileError (Engine (State ρ)) :=
  match config.rootFault? with
  | some error => .error error
  | none => .ok (engine config here run)

end TypstFences.Typst
