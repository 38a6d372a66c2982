import TypstFences.Engine.Basic
import TypstFences.Json.Writer
import TypstFences.Pass.Basic
import TypstFences.Settings.Override
import TypstFences.Site.Arguments

/-!
# The state of a run over a directory

A run goes through stages. What one stage finds out is kept in a state for those that follow; what it
has to say to the reader is a complaint; and a stage may end the run.
-/

set_option autoImplicit false

namespace TypstFences.Site

/-- What is reported as a failure of a block: a failure of a pass, or whatever a state was made with. -/
inductive Reported where
  | block (failure : BlockFailure)
  | other (value : Json)
  deriving Inhabited

/-- What is reported, in words. -/
def Reported.text : Reported → Text
  | block failure => failure.text
  | other value => value.shown

/-- What is known in a run: what was asked for, and what the stages found out. The pattern and what goes
into the settings may be of any shape; the stages refuse what they cannot use. -/
structure State where
  input : Option Path
  output : Option Path
  verbosity : Int := 1
  pattern : Json := .string "**/*.md".toList
  hidelines : Json := .null
  noRender : Bool := false
  failFast : Bool := false
  cacheDir : Json := .null
  jobs : Json := .null
  settings : Option Settings := none
  isChecked : Bool := false
  sources : List Path := []
  results : List (Text × PassResult) := []
  failures : List Reported := []
  errors : List Text := []
  deriving Inhabited

/-- The fields of a state under their names, with the values they start with. -/
def State.startFields : List (Text × Json) :=
  [("inputdir".toList, .null), ("outputdir".toList, .null), ("verbosity".toList, .int 1),
    ("pattern".toList, .string "**/*.md".toList), ("hidelines".toList, .null),
    ("noRender".toList, .bool false), ("failFast".toList, .bool false), ("cacheDir".toList, .null),
    ("jobs".toList, .null), ("settings".toList, .null), ("envOK".toList, .bool false),
    ("sourceFiles".toList, .list []), ("compileResults".toList, .object []),
    ("failures".toList, .list []), ("errors".toList, .list [])]

/-- The fields of the state that options and two directories make. Options that are no fields are passed
over, and the directories are never taken from options. -/
def State.fieldsOf (options : List (Text × Json)) (input output : Path) : List (Text × Json) :=
  let asked := Named.put "inputdir".toList (.string input.text)
    (Named.put "outputdir".toList (.string output.text) options)
  State.startFields.map fun (name, value) => (name, (Json.lookup name asked).getD value)

/-- The state at the start of a run with options, which never name the directories. -/
def State.ofOptions (options : Options) (input output : Path) : State where
  input := some input
  output := some output
  verbosity := options.verbosity
  pattern := options.pattern
  hidelines := options.hidelines
  noRender := options.noRender
  failFast := options.failFast
  cacheDir := options.cacheDir
  jobs := options.jobs

/-- The path that a directory of a state is shown by. -/
def shownPath (path : Option Path) : Text := (path.map Path.text).getD "None".toList

/-- What is said to the reader. -/
inductive Complaint where
  | usage (fault : UsageFault)
  | noDirectory (path : Path)
  | noInput (path : Option Path)
  | warning (text : Text)
  | configuration (error : SettingsError)
  | noDocuments (pattern : Text) (input : Path)
  | document (message : Text)
  | block (reported : Reported)
  | tally (errors failures : Nat)
  deriving Inhabited

/-- The complaint in words. -/
def Complaint.text : Complaint → Text
  | usage fault => "typfence: error: ".toList ++ fault.message
  | noDirectory path => "Not a directory: ".toList ++ path.text
  | noInput path =>
    "Error: Input directory not found: ".toList ++ shownPath path
  | warning text => text
  | configuration error => "Error: Invalid configuration: ".toList ++ error.message
  | noDocuments pattern input =>
    "Error: No documents match '".toList ++ pattern ++ "' in ".toList ++ input.text
  | document message => "Error: ".toList ++ message
  | block reported => "Render error at ".toList ++ reported.text
  | tally errors failures =>
    "Error: ".toList ++ Text.ofNat errors ++ " document error(s), ".toList ++ Text.ofNat failures ++
      " block failure(s)".toList

/-- How a stage ends the run: with a status, or because something is broken. Settings that cannot be found
out for another reason than their values, a document that is not UTF-8, a state without settings or a
directory where they are needed, and a value of a shape that cannot be used are broken as well. -/
inductive End where
  | stopped (status : Nat)
  | broken (error : PassError)
  | unset (error : SettingsError)
  | undecodable
  | incomplete
  | unusable
  deriving DecidableEq, Inhabited

/-- The rig of the engine and what has been said so far. -/
structure World (ε : Type) where
  rig : Rig ε
  complaints : List Complaint

namespace World

variable {ε : Type}

/-- The world with one more complaint. -/
def complain (world : World ε) (complaint : Complaint) : World ε :=
  { world with complaints := world.complaints ++ [complaint] }

/-- The world with one more message in the log. -/
def note (world : World ε) (level : Int) (message : Text) : World ε :=
  { world with rig := world.rig.note level message }

/-- The host of a world. -/
def host (world : World ε) : Host := world.rig.host

/-- The world with another host. -/
def withHost (world : World ε) (host : Host) : World ε :=
  { world with rig := { world.rig with host := host } }

/-- The world after an operation on its host; a refused one breaks the run. -/
def change (world : World ε) (operation : Host → Except FileError Unit × Host) :
    Except End Unit × World ε :=
  match operation world.host with
  | (.ok (), host) => (.ok (), world.withHost host)
  | (.error error, host) => (.error (.broken (.refusedFile error)), world.withHost host)

/-- Whether there is a directory at a path of the host; a name that does not fit breaks the run. -/
def probeDirectory (world : World ε) (path : Path) : Except End Bool :=
  match world.host.probeDirectory path with
  | .ok found => .ok found
  | .error error => .error (.broken (.refusedFile error))

end World

/-- A stage of a run. -/
abbrev Stage (ε : Type) := State → World ε → Except End State × World ε

/-- Stages one after the other; a stage that ends the run leaves out those that follow. -/
def runStages {ε : Type} : List (Stage ε) → Stage ε
  | [], state, world => (.ok state, world)
  | stage :: stages, state, world =>
    match stage state world with
    | (.ok state, world) => runStages stages state world
    | (.error ending, world) => (.error ending, world)

end TypstFences.Site
