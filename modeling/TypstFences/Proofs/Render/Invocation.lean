import TypstFences.Engine.Typst
import TypstFences.Proofs.Cache.Saving
import TypstFences.Proofs.Files.Images
import TypstFences.Render.Submission

/-!
# What the program is run with

Each attempt to compile a source runs the program at most once: on a file that holds the source, with a
template for pages of the format, and with the options that the configuration gives (`compile_logged`).
Nothing else is run for a request, however often it is submitted (`submit_logged`). The options are the root,
if there is one, and then the font directory and the other arguments.
-/

set_option autoImplicit false

namespace TypstFences

namespace Typst

variable {ρ : Type}

/-! ## Command lines -/

namespace Config

/-- The option for a root. -/
def rootOption (root : Option Text) : List Text :=
  match root with
  | some root => ["--root".toList, root]
  | none => []

/-- The options besides the root: the font directory, if there is one, and the arguments that are given. -/
def otherOptions (config : Config) : List Text :=
  (match given config.fontPath with
    | some fonts => ["--font-path".toList, fonts]
    | none => []) ++ config.arguments

/-- The command of a compilation names the source, the root if there is one, and the other options. -/
theorem command_eq (config : Config) (here : Place) (source template : Path) :
    config.command here source template =
      [config.executable, "compile".toList, source.text, template.text] ++
        (rootOption ((config.rootPlace? here).map fun root => (Path.ofPlace root).text) ++
          config.otherOptions) := by
  unfold command rootOption otherOptions
  cases config.rootPlace? here <;> cases given config.fontPath <;> simp

end Config

/-- What the program is told about the names of pages of a format. -/
def pagesName (format : Text) : Text := "page-".toList ++ ['\x7b', 'n', '\x7d'] ++ '.' :: format

/-- Whether a run compiles a source to pages of a format with some options: the program is told the path of a
file that holds the source, and a template for the pages. -/
def Invocation.Compiles (executable source format : Text) (options : List Text) (invocation : Invocation) :
    Prop :=
  ∃ path directory : Path,
    invocation.arguments =
      [executable, "compile".toList, path.text, (directory.child (pagesName format)).text] ++ options ∧
    invocation.files.content [] path = .ok (Text.encodeUtf8 source)

/-- Whether a run compiles a source as a configuration has it, below a root. -/
def Config.Compiles (config : Config) (root : Option Text) (source : Text) (invocation : Invocation) : Prop :=
  invocation.Compiles config.executable source config.format
    (Config.rootOption root ++ config.otherOptions)

/-! ## Runs that are listed -/

/-- What runs programs, and lists what it was asked to run. -/
def logged (run : Runner ρ) : Runner (List Invocation × ρ) := fun invocation state =>
  let (outcome, runner) := run invocation state.2
  (outcome, (state.1 ++ [invocation], runner))

/-- Whether the runs that are listed in a state and not in an earlier one are all of a kind. -/
def Runs (kind : Invocation → Prop) (before after : State (List Invocation × ρ)) : Prop :=
  ∃ made, after.runner.1 = before.runner.1 ++ made ∧ ∀ invocation ∈ made, kind invocation

variable {kind : Invocation → Prop} {first second third : State (List Invocation × ρ)}

/-- Nothing is run without a step. -/
theorem Runs.refl (state : State (List Invocation × ρ)) : Runs kind state state :=
  ⟨[], (List.append_nil _).symm, fun _ mem => absurd mem List.not_mem_nil⟩

/-- Runs can follow one another. -/
theorem Runs.trans (h : Runs kind first second) (h' : Runs kind second third) : Runs kind first third := by
  obtain ⟨made, made_eq, each⟩ := h
  obtain ⟨more, more_eq, each'⟩ := h'
  refine ⟨made ++ more, by rw [more_eq, made_eq, List.append_assoc], ?_⟩
  intro invocation mem
  rcases List.mem_append.mp mem with old | new
  · exact each invocation old
  · exact each' invocation new

/-! ## One attempt -/

/-- Files that are written do not move the host. -/
theorem addWritten_here (written : List (Path × Bytes)) :
    ∀ host, (addWritten written host).2.here = host.here := by
  induction written with
  | nil => exact fun _ => rfl
  | cons entry written ih =>
    intro host
    obtain ⟨path, content⟩ := entry
    unfold addWritten Host.write
    rcases Host.change_cases host (FileTree.write · host.here path content) with
      ⟨error, refused⟩ | ⟨files, -, changed⟩
    · simp only [refused]
    · simp only [changed]
      exact ih _

/-- A reply does not move the host. -/
theorem replyAfter_here (config : Config) (file : Text) (written : Except FileError Unit) (ending : Ending)
    (host : Host) : (replyAfter config file written ending host).2.here = host.here := by
  have plain : (replyOf config file ending host).2.here = host.here := by
    unfold replyOf noteWarnings
    cases ending with
    | timedOut => rfl
    | notStarted reason => rfl
    | exited status output errors =>
      simp only
      split
      · split <;> rfl
      · split <;> rfl
  unfold replyAfter
  split
  · rfl
  · exact plain

/-- A file that was added is there. -/
theorem content_of_addFile {files changed : FileTree} {place : Place} {content : Bytes}
    (added : addFile files place content = .ok changed) :
    changed.content [] (Path.ofPlace place) = .ok content := by
  unfold addFile at added
  split at added
  · exact absurd added (by simp)
  · rename_i target way
    split at added
    · exact absurd added (by simp)
    · rename_i free
      rw [← Except.ok.inj added]
      have noDirectory : files.node? target ≠ some .directory := by
        rw [free]
        simp
      have same := FileTree.sameDirectories_put noDirectory content
      apply FileTree.content_eq (same.walk.mpr way)
      rw [FileTree.node?_put _ _ _ (FileTree.ne_nil_of_node? noDirectory), if_pos rfl]

variable (config : Config) (run : Runner ρ) {here : Place}

/-- A source is compiled by one run or none, and the directory is the same afterwards. -/
theorem compile_logged (rig : Rig (State (List Invocation × ρ))) (here_eq : rig.host.here = here)
    (source : Text) :
    ((engine config here (logged run)).compile source rig).2.host.here = here ∧
      Runs (config.Compiles (engine config here (logged run)).root source) rig.state
        ((engine config here (logged run)).compile source rig).2.state := by
  subst here_eq
  show (compile config (logged run) source rig).2.host.here = rig.host.here ∧
    Runs _ rig.state (compile config (logged run) source rig).2.state
  unfold compile
  simp only
  split
  · exact ⟨rfl, .refl _⟩
  · rename_i files added
    split
    · -- the program is not even started
      exact ⟨rfl, .refl _⟩
    · constructor
      · exact (replyAfter_here config _ _ _ _).trans (addWritten_here _ _)
      · refine ⟨[_], rfl, ?_⟩
        intro invocation mem
        rw [List.mem_singleton.mp mem]
        exact ⟨_, _, config.command_eq _ _ _, content_of_addFile added⟩

/-! ## All attempts -/

/-- All attempts at a source run the program on it, by induction on how many are left. -/
theorem attempts_logged (source : Text) (above more : Nat) :
    ∀ attempt {rig : Rig (State (List Invocation × ρ))}, rig.host.here = here →
      Runs (config.Compiles (engine config here (logged run)).root source) rig.state
        (Submission.attempts (engine config here (logged run)) source above more attempt rig).2.state := by
  induction more with
  | zero =>
    intro attempt rig here_eq
    have compiled := compile_logged config run (rig.submit source) here_eq source
    unfold Submission.attempts
    generalize (engine config here (logged run)).compile source (rig.submit source) = done at compiled ⊢
    obtain ⟨result | timeout | error, after⟩ := done <;> exact compiled.2
  | succ more ih =>
    intro attempt rig here_eq
    have compiled := compile_logged config run (rig.submit source) here_eq source
    unfold Submission.attempts
    generalize (engine config here (logged run)).compile source (rig.submit source) = done at compiled ⊢
    obtain ⟨result | timeout | error, after⟩ := done
    · exact compiled.2
    · -- the source is submitted again
      exact Runs.trans compiled.2 (ih (attempt + 1) compiled.1)
    · exact compiled.2

/-- All runs for a request compile its assembled source. -/
theorem submit_logged (settings : Settings) (request : Request)
    {rig : Rig (State (List Invocation × ρ))} (here_eq : rig.host.here = here) :
    Runs (config.Compiles (engine config here (logged run)).root (request.assembled settings.preamble))
      rig.state (submit settings (engine config here (logged run)) request rig).2.state :=
  attempts_logged config run _ _ _ 1 here_eq

end Typst

end TypstFences
