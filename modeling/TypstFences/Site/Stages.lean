import TypstFences.Site.State

/-!
# The stages of a run over a directory

The surroundings are checked, the documents are found, each is compiled and written with its images
under the same path in the output directory, and the run is reported. A faulty document is not written
and does not keep the others from being written, unless the first failure is to end the run.
-/

set_option autoImplicit false

namespace TypstFences.Site

variable {ε : Type}

/-- The title of the program. -/
def title : Text :=
  ("\n" ++
    "   _              __\n" ++
    "  | |_ _   _ _ __/ _| ___ _ __   ___ ___\n" ++
    "  | __| | | | '_ \\ |_ / _ \\ '_ \\ / __/ _ \\\n" ++
    "  | |_| |_| | |_) |  _|  __/ | | | (_|  __/\n" ++
    "   \\__|\\__, | .__/|_|  \\___|_| |_|\\___\\___|\n" ++
    "       |___/|_|\n" ++
    "\n" ++
    "  Typst code-fence preprocessor\n").toList

/-- The settings that the options ask for, as entries; what is not asked for has no value. -/
def overrides (state : State) : List (Text × Json) :=
  [(Field.name .hidelines, state.hidelines),
    (Field.name .render, if state.noRender then .bool false else .null),
    (Field.name .failFast, if state.failFast then .bool true else .null),
    (Field.name .cacheDir, state.cacheDir),
    (Field.name .maxWorkers, state.jobs)]

/-- The input directory of a state, if it is there. Without one there is nothing to look for. -/
def inputDirectory (state : State) (world : World ε) : Except End (Option Path) :=
  match state.input with
  | none => .ok none
  | some input =>
    match world.probeDirectory input with
    | .ok found => .ok (if found then some input else none)
    | .error ending => .error ending

/-- The settings of the run are found out, and the output directory is made. -/
def check (ambient : Ambient) (base : Settings) : Stage ε := fun state world =>
  let world := (world.note 2 title).note 2 "Checking environment...".toList
  match inputDirectory state world with
  | .error ending => (.error ending, world)
  | .ok none => (.error (.stopped 1), world.complain (.noInput state.input))
  | .ok (some input) =>
    let warnings := Settings.warnings ambient (overrides state)
    let world := (warnings.map Complaint.warning).foldl World.complain world
    match Settings.override ambient base (overrides state), state.output with
    | .error error, _ =>
      if error.isAboutValues then (.error (.stopped 1), world.complain (.configuration error))
      else (.error (.unset error), world)
    | .ok _, none => (.error .incomplete, world)
    | .ok settings, some output =>
      match world.change fun host => host.ensureDirectories output with
      | (.error ending, world) => (.error ending, world)
      | (.ok (), world) =>
        let world := world.note 2 ("Input directory: ".toList ++ input.text)
        let world := world.note 2 ("Output directory: ".toList ++ output.text)
        let world := world.note 2 ("Engine: ".toList ++ settings.engineExecutable)
        (.ok { state with settings := some settings, isChecked := true }, world)

/-- The pattern that a value is. What counts as nothing is an empty pattern. -/
def patternOf (value : Json) : Except End Glob :=
  match value with
  | .string text =>
    match Glob.read text with
    | .ok glob => .ok glob
    | .error fault => .error (.broken (.badPattern fault))
  | value => .error (if value.isNothing then .broken (.badPattern .empty) else .unusable)

/-- The documents are found: the files that match the pattern, in the order of their paths. -/
def discover : Stage ε := fun state world =>
  match state.input with
  | none => (.error .incomplete, world)
  | some input =>
    match patternOf state.pattern with
    | .error ending => (.error ending, world)
    | .ok glob =>
      let host := world.host
      match glob.select host.files host.here input with
      | .error error => (.error (.broken (.refusedFile error)), world)
      | .ok paths =>
        let sources := paths.filter host.isFile
        if sources.isEmpty then
          (.error (.stopped 1), world.complain (.noDocuments state.pattern.shown input))
        else
          let found := "Found ".toList ++ Text.ofNat sources.length ++ " document(s)".toList
          (.ok { state with sources := sources }, world.note 1 found)

/-- The text of the document at a path, with all line endings unified. -/
def readSource (host : Host) (path : Path) : Except End Text :=
  match host.content path with
  | .error error => .error (.broken (.refusedFile error))
  | .ok content =>
    match Text.decodeUtf8? content with
    | some text => .ok (Text.unifyLineEndings text)
    | none => .error .undecodable

/-- The result of a pass is written: the document to its path, the images beside it. -/
def writeResult (settings : Settings) (target : Path) (result : PassResult) (world : World ε) :
    Except End Unit × World ε :=
  match world.change fun host => host.ensureDirectories target.parent with
  | (.error ending, world) => (.error ending, world)
  | (.ok (), world) =>
    match world.change fun host => host.write target (Text.encodeUtf8 result.output) with
    | (.error ending, world) => (.error ending, world)
    | (.ok (), world) =>
      if result.artifacts.isEmpty then (.ok (), world)
      else
        let directory := target.parent.child settings.imageDir
        match world.change fun host => host.fillDirectory directory result.artifacts with
        | (.error ending, world) => (.error ending, world)
        | (.ok (), world) =>
          let wrote := "Wrote ".toList ++ Text.ofNat result.artifacts.length ++
            " artifact(s) to ".toList ++ directory.text
          (.ok (), world.note 2 wrote)

/-- The state with the result of a document. -/
def State.withResult (state : State) (path : Text) (result : PassResult) : State :=
  { state with
    results := Named.put path result state.results
    failures := state.failures ++ result.failures.map .block }

/-- The state with a document that has an error. -/
def State.withError (state : State) (error : PassError) : State :=
  { state with errors := state.errors ++ [error.message] }

/-- The documents at some paths are compiled and written. An error of a document is kept for the
report; with the settings to fail fast it is the last thing that happens. A state without an output
directory breaks the run at the first result. -/
def compileAll (presses : Presses) (settings : Settings) (engine : Engine ε) (input : Path) :
    List Path → State → Cache → World ε → Except End State × World ε
  | [], state, _, world => (.ok state, world)
  | path :: paths, state, cache, world =>
    match Path.relativeTo? input path with
    | none => (.error .incomplete, world)
    | some relative =>
      let world := world.note 1 ("Processing ".toList ++ relative.text)
      match readSource world.host path with
      | .error ending => (.error ending, world)
      | .ok source =>
        let (outcome, session) :=
          Pass.run (presses.at world.host) settings engine Registry.typst relative.text source
            ⟨cache, world.rig⟩
        let world := { world with rig := session.rig }
        match outcome with
        | .error error =>
          if !error.isDocumentError then (.error (.broken error), world)
          else if settings.failFast then (.ok (state.withError error), world)
          else compileAll presses settings engine input paths (state.withError error) session.cache world
        | .ok result =>
          match state.output with
          | none => (.error .unusable, world)
          | some output =>
            match writeResult settings (output.join relative) result world with
            | (.error ending, world) => (.error ending, world)
            | (.ok (), world) =>
              compileAll presses settings engine input paths (state.withResult relative.text result)
                session.cache world

/-- The documents are compiled and written, by an engine made for the settings and with one cache. -/
def compile (presses : Presses) (makeEngine : Settings → Place → Except FileError (Engine ε)) : Stage ε :=
  fun state world =>
    match state.settings with
    | none => (.error .incomplete, world)
    | some settings =>
      match makeEngine settings world.host.here, state.input, state.sources with
      | .error error, _, _ => (.error (.broken (.refusedFile error)), world)
      | .ok _, none, [] => (.ok state, world)
      | .ok _, none, _ :: _ => (.error .unusable, world)
      | .ok engine, some input, sources =>
        compileAll presses settings engine input sources state (Cache.new settings.cacheDir) world

/-- The complaints about errors and failures, the tally last. -/
def reportComplaints (state : State) : List Complaint :=
  state.errors.map .document ++ state.failures.map .block ++
    [.tally state.errors.length state.failures.length]

/-- The run is reported: errors and failures as complaints with status one, success in the log. -/
def report : Stage ε := fun state world =>
  if state.errors.isEmpty && state.failures.isEmpty then
    let images := state.results.foldl (fun count result => count + result.2.artifacts.length) 0
    let world := world.note 1 "\n✓ Preprocessing successful!".toList
    let world := world.note 1 ("  Documents: ".toList ++ Text.ofNat state.results.length)
    let world := world.note 1 ("  Images:    ".toList ++ Text.ofNat images)
    (.ok state, world.note 1 ("  Output:    ".toList ++ shownPath state.output))
  else (.error (.stopped 1), (reportComplaints state).foldl World.complain world)

/-- All stages of a run. -/
def stages (ambient : Ambient) (base : Settings) (presses : Presses)
    (makeEngine : Settings → Place → Except FileError (Engine ε)) :
    List (Stage ε) :=
  [check ambient base, discover, compile presses makeEngine, report]

end TypstFences.Site
