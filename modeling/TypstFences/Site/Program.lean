import TypstFences.Site.Stages

/-!
# The program

From the words after the name of the program to its status: the words are read, the two directories
are looked for, and the stages are run. The output directory is made before the input directory is
looked for.
-/

set_option autoImplicit false

namespace TypstFences.Site

variable {ε : Type}

/-- The name of the program and its version. -/
def versionText : Text := "typfence 1.0.0\n".toList

/-- How the program is used. -/
def usageText : Text :=
  ("usage: typfence [-h] [--pattern PATTERN] [--hidelines HIDELINES] [--noRender]\n" ++
    "                [--failFast] [--cacheDir CACHEDIR] [--jobs JOBS] [-v] [-V]\n" ++
    "                [--saveinputmeta] [--saveoutputmeta]\n" ++
    "                inputdir outputdir\n").toList

/-- What the program leaves: how it ended, the verbosity of the run, what it printed, and the world. -/
structure Report (ε : Type) where
  ending : Except End State
  verbosity : Int
  printed : Text
  world : World ε

/-- The world with something at the path of the output directory, which is made if nothing is there. -/
def makeOutput (output : Path) (world : World ε) : Except End Unit × World ε :=
  match world.host.files.probe world.host.here output with
  | .error error => (.error (.broken (.refusedFile error)), world)
  | .ok (some _) => (.ok (), world)
  | .ok none => world.change fun host => host.makeDirectories output

/-- Paths that must be those of directories. -/
def requireDirectories (world : World ε) : List Path → Except End Unit × World ε
  | [] => (.ok (), world)
  | path :: paths =>
    match world.probeDirectory path with
    | .error ending => (.error ending, world)
    | .ok true => requireDirectories world paths
    | .ok false => (.error (.stopped 1), world.complain (.noDirectory path))

/-- The run of stages with the directories that must be there. A void directory breaks the run. -/
def runOptions (ambient : Ambient) (base : Settings) (presses : Presses)
    (makeEngine : Settings → Place → Except FileError (Engine ε)) (options : Options)
    (world : World ε) : Except End State × World ε :=
  match options.directories with
  | [some input, some output] =>
    let input := Path.ofText input
    let output := Path.ofText output
    match makeOutput output world with
    | (.error ending, world) => (.error ending, world)
    | (.ok (), world) =>
      match requireDirectories world [output, input] with
      | (.error ending, world) => (.error ending, world)
      | (.ok (), world) =>
        runStages (stages ambient base presses makeEngine) (State.ofOptions options input output) world
  | _ => (.error .unusable, world)

/-- The program run on words. -/
def run (ambient : Ambient) (base : Settings) (presses : Presses)
    (makeEngine : Settings → Place → Except FileError (Engine ε)) (words : List Text)
    (rig : Rig ε) : Report ε :=
  let world : World ε := ⟨rig, []⟩
  match Options.read words with
  | .error fault => ⟨.error (.stopped 2), 0, [], world.complain (.usage fault)⟩
  | .ok .showVersion => ⟨.error (.stopped 0), 0, versionText, world⟩
  | .ok .showHelp => ⟨.error (.stopped 0), 0, usageText, world⟩
  | .ok (.run options) =>
    let (ending, world) := runOptions ambient base presses makeEngine options world
    ⟨ending, options.verbosity, [], world⟩

/-- The status of a report, if it has one. -/
def Report.status? (report : Report ε) : Option Nat :=
  match report.ending with
  | .ok _ => some 0
  | .error (.stopped status) => some status
  | .error _ => none

end TypstFences.Site
