import TypstFences.Proofs.Cache.Saving
import TypstFences.Proofs.Files.Edits

/-!
# Edits and the artifact directory

Saving an artifact edits the places of its pages and their drafts, and makes the directory (`edited_save`).
Other edits make no difference for what is loaded under a key, as long as none of them gives the directory a
file or directory with a name of the key (`load_of_edited`). Where the directory is still to be made, this
takes that it is clear of the first pages of the key from the start (`Clear`): a way that led nowhere may lead
to it after an edit.
-/

set_option autoImplicit false

namespace TypstFences.Store

variable {directory : Path} {here place : Place} {files after : FileTree} {host changed : Host}
variable {tag key name : Text} {artifact : Artifact} {edits : Edit → Prop} {keys : Text → Prop}

/-! ## Saving -/

/-- The paths that a step changes. -/
def Step.paths : Step → List Path
  | .write path _ => [path]
  | .rename source target => [source, target]

/-- The places of the files that an artifact is saved by. -/
def places (directory : Path) (tag key : Text) (artifact : Artifact) (here : Place) : List Place :=
  (steps directory tag key artifact).flatMap fun step => step.paths.map (Path.resolve here)

/-- The edits that an artifact is saved by. -/
def Saves (directory : Path) (tag key : Text) (artifact : Artifact) (here : Place) : Edit → Prop
  | .directory place => directory.Passes here place
  | .file place _ => place ∈ places directory tag key artifact here
  | .removal place => place ∈ places directory tag key artifact here

/-- A step edits the files that it names. -/
theorem edited_of_step {step : Step} (done : step.apply here files = .ok after)
    (mem : ∀ path ∈ step.paths, (∀ content, edits (.file (path.resolve here) content)) ∧
      edits (.removal (path.resolve here))) : FileTree.Edited edits files after := by
  cases step with
  | write path content =>
    exact FileTree.edited_of_write done ((mem path List.mem_cons_self).1 content)
  | rename source target =>
    exact FileTree.edited_of_rename done (mem source List.mem_cons_self).2
      (mem target (List.mem_cons_of_mem _ List.mem_cons_self)).1

/-- Steps edit the files that they name, by induction on the steps. -/
theorem edited_runSteps {steps : List Step} :
    ∀ {files : FileTree}, (∀ step ∈ steps, ∀ path ∈ step.paths,
        (∀ content, edits (.file (path.resolve here) content)) ∧ edits (.removal (path.resolve here))) →
      FileTree.Edited edits files (runSteps here steps files).2 := by
  induction steps with
  | nil => exact fun _ => .refl _
  | cons step steps ih =>
    intro files mem
    unfold runSteps
    cases done : step.apply here files with
    | error error => exact .refl files
    | ok between =>
      exact (edited_of_step done (mem step List.mem_cons_self)).trans
        (ih fun other later => mem other (List.mem_cons_of_mem _ later))

/-- Saving an artifact edits the places of its files, and directories on the way to them. -/
theorem edited_save (directory : Path) (key : Text) (artifact : Artifact) (host : Host) :
    Host.Edited (Saves directory host.tag key artifact host.here) host
      (save directory key artifact host).2 := by
  have first : Host.Edited (Saves directory host.tag key artifact host.here) host
      (host.ensureDirectories directory).2 := host.edited_ensureDirectories fun _ passes => passes
  unfold save
  generalize host.ensureDirectories directory = done at first ⊢
  obtain ⟨outcome, between⟩ := done
  cases outcome with
  | error error => exact first
  | ok =>
    refine first.trans ⟨edited_runSteps fun step mem path among => ?_, rfl, rfl⟩
    have listed : path.resolve between.here ∈
        places directory host.tag key artifact host.here := by
      rw [first.here, places, List.mem_flatMap]
      rw [first.tag] at mem
      exact ⟨step, mem, List.mem_map_of_mem among⟩
    exact ⟨fun content => listed, listed⟩

/-! ## What edits spare -/

/-- An edit spares a key if it is not in the place of one of its files. -/
theorem spares_of_edit {edit : Edit} (fits : edit.Fits files)
    (clear : ∀ name, edit.place = place ++ [name] → ¬Concerns key name) :
    Spares key place files (edit.apply files) := by
  have refused : ∀ name, edit.place = place ++ [name] →
      GlobToken.accepts (firstPattern key) name = false := fun name same =>
    Bool.eq_false_iff.mpr fun accepted => clear name same ⟨1, eq_pageName_of_accepts accepted⟩
  have edited : FileTree.Edited (fun _ => True) files (edit.apply files) := .one trivial fits
  refine ⟨edited.kept, ?_, fun page format => ?_⟩
  · cases edit with
    | directory place => exact FileTree.filter_namesIn_put _ refused
    | file place content => exact FileTree.filter_namesIn_put _ refused
    | removal place => exact FileTree.filter_namesIn_remove refused
  · rw [fits.node?_apply, if_neg]
    exact fun same => clear _ same.symm ⟨page, format, rfl⟩

/-- Edits spare the files of a key in a directory, if none has a name of the key there. -/
theorem spares_of_edited (edited : FileTree.Edited edits files after)
    (clear : ∀ edit, edits edit → ∀ name, edit.place = place ++ [name] → ¬Concerns key name) :
    Spares key place files after := by
  induction edited with
  | refl files => exact .refl key place files
  | edit mem fits _ ih => exact (spares_of_edit fits (clear _ mem)).trans ih

/-! ## Clear directories -/

/-- Whether no name in a directory, or on the way to it, has a slash; and where the directory cannot be
found, there is no first page of certain keys. -/
structure Clear (directory : Path) (keys : Text → Prop) (host : Host) : Prop where
  names : ∀ name, host.files.node? (directory.resolve host.here ++ [name]) ≠ none ∨
    directory.Passes host.here (directory.resolve host.here ++ [name]) → '/' ∉ name
  absent : host.probeDirectory directory ≠ .ok true → ∀ key, keys key → ∀ format,
    host.files.node? (directory.resolve host.here ++ [pageName key 1 format]) = none ∧
      ¬ directory.Passes host.here (directory.resolve host.here ++ [pageName key 1 format])

/-- A directory that is found is there, at the end of the way to it. -/
theorem way_of_probe (found : host.probeDirectory directory = .ok true) :
    host.files.walk host.here directory = .ok (directory.resolve host.here) ∧
      host.files.node? (directory.resolve host.here) = some .directory := by
  unfold Host.probeDirectory FileTree.probe at found
  cases way : host.files.walk host.here directory with
  | error fault => cases fault <;> simp [way] at found
  | ok place =>
    simp only [way, Except.ok.injEq, beq_iff_eq] at found
    rw [FileTree.resolve_of_walk way]
    exact ⟨rfl, found⟩

/-- A directory that is there is found. -/
theorem probe_of_way (way : host.files.walk host.here directory = .ok place)
    (there : host.files.node? place = some .directory) : host.probeDirectory directory = .ok true := by
  unfold Host.probeDirectory FileTree.probe
  simp [way, there]

namespace Clear

/-- A directory stays clear of keys where the files stay the same. -/
theorem sameFiles (h : Clear directory keys host) (same : SameFiles host changed) :
    Clear directory keys changed := by
  have probes : changed.probeDirectory directory = host.probeDirectory directory := by
    unfold Host.probeDirectory
    rw [same.files, same.here]
  constructor
  · rw [same.files, same.here]
    exact h.names
  · rw [probes, same.files, same.here]
    exact h.absent

/-- A directory that is clear of keys is clear of fewer. -/
theorem mono {fewer : Text → Prop} (h : Clear directory keys host)
    (among : ∀ key, fewer key → keys key) : Clear directory fewer host :=
  ⟨h.names, fun missing key mem => h.absent missing key (among key mem)⟩

/-- A directory that is found is there. -/
theorem thereAt (h : Clear directory keys host) (found : host.probeDirectory directory = .ok true) :
    ThereAt directory host.files host.here (directory.resolve host.here) :=
  ⟨(way_of_probe found).1, (way_of_probe found).2, fun name there => h.names name (.inl there)⟩

/-- A directory that is there, and in which no name has a slash, is clear. -/
theorem of_thereAt (there : ThereAt directory host.files host.here place)
    (names : ∀ name, directory.Passes host.here (directory.resolve host.here ++ [name]) → '/' ∉ name) :
    Clear directory keys host := by
  refine ⟨fun name mem => ?_, fun missing => absurd (probe_of_way there.way there.found) missing⟩
  rcases mem with present | passes
  · rw [FileTree.resolve_of_walk there.way] at present
    exact there.names name present
  · exact names name passes

/-- A clear directory holds no first page of the keys when it comes to be made. -/
theorem tidy (h : Clear directory keys host) : Tidy directory keys host := by
  by_cases found : host.probeDirectory directory = .ok true
  · exact .inl ⟨_, h.thereAt found⟩
  · refine .inr ⟨found, fun made place ensured way => ?_⟩
    obtain rfl := FileTree.resolve_of_walk way
    have edited : FileTree.Edited
        (fun edit => ∃ place, directory.Passes host.here place ∧ edit = .directory place)
        host.files made :=
      FileTree.edited_of_ensureDirectories ensured fun place passes => ⟨place, passes, rfl⟩
    refine ⟨fun name there => h.names name ?_, fun key mem format => ?_⟩
    · rcases edited.place_of_node? there with before | ⟨_, ⟨place, passes, rfl⟩, same⟩
      · exact .inl before
      · exact .inr (same ▸ passes)
    · obtain ⟨nothing, apart⟩ := h.absent found key mem format
      rw [edited.node?_eq, nothing]
      rintro _ ⟨place, passes, rfl⟩ same
      exact apart (same ▸ passes)

/-- A directory stays clear while no edit gives it a name with a slash or a name of the keys. -/
theorem edited (h : Clear directory keys host) (edited : Host.Edited edits host changed)
    (apart : ∀ edit, edits edit → ∀ name, edit.place = directory.resolve host.here ++ [name] →
      '/' ∉ name ∧ ∀ key, keys key → ¬Concerns key name) : Clear directory keys changed := by
  have here_eq := edited.here
  constructor
  · intro name mem
    rw [here_eq] at mem
    rcases mem with there | passes
    · rcases edited.files.place_of_node? there with before | ⟨edit, mem, same⟩
      · exact h.names name (.inl before)
      · exact (apart edit mem name same).1
    · exact h.names name (.inr passes)
  · intro missing key mem format
    have before : host.probeDirectory directory ≠ .ok true := by
      intro found
      obtain ⟨way, there⟩ := way_of_probe found
      have way' := FileTree.walk_of_kept edited.files.kept way
      have there' := edited.files.kept _ there
      rw [← here_eq] at way' there'
      exact missing (probe_of_way way' there')
    obtain ⟨nothing, away⟩ := h.absent before key mem format
    rw [here_eq]
    refine ⟨?_, away⟩
    rw [edited.files.node?_eq, nothing]
    intro edit mem' same
    exact (apart edit mem' _ same).2 key mem ⟨1, format, rfl⟩

end Clear

/-- What is loaded for a key after edits was loaded before, if none of them gives the directory a name with
a slash or a name of the key. -/
theorem load_of_edited {loaded : Option Artifact} (hk : IsKey key) (clear : Clear directory keys host)
    (mem : keys key) (edited : Host.Edited edits host changed)
    (apart : ∀ edit, edits edit → ∀ name, edit.place = directory.resolve host.here ++ [name] →
      '/' ∉ name ∧ ∀ key, keys key → ¬Concerns key name)
    (after : (load directory key changed).1 = .ok loaded) : (load directory key host).1 = .ok loaded := by
  have spares : Spares key (directory.resolve host.here) host.files changed.files :=
    spares_of_edited edited.files fun edit mem' name same => (apart edit mem' name same).2 key mem
  cases probed : host.probeDirectory directory with
  | error error =>
    -- a name that does not fit does not come to fit
    have long : host.files.walk host.here directory = .error .nameTooLong := by
      unfold Host.probeDirectory FileTree.probe at probed
      cases way : host.files.walk host.here directory with
      | error fault =>
        cases fault with
        | nameTooLong => rfl
        | _ => simp [way] at probed
      | ok place => simp [way] at probed
    have still := FileTree.walk_tooLong spares.directories long
    rw [← edited.here] at still
    unfold load Host.probeDirectory FileTree.probe at after
    simp [still] at after
  | ok found =>
    cases found with
    | true =>
      have there := clear.thereAt probed
      rw [← after, load_spared hk there.way there.found there.names edited.here spares]
    | false =>
      have nothing : (load directory key host).1 = .ok none := by
        unfold load
        rw [probed]
      rw [nothing, ← after]
      unfold load
      cases probed' : changed.probeDirectory directory with
      | error error =>
        unfold load at after
        simp [probed'] at after
      | ok found' =>
        cases found' with
        | false => rfl
        | true =>
          obtain ⟨way, there⟩ := way_of_probe probed'
          have absent : ∀ format, changed.files.node?
              (directory.resolve changed.here ++ [pageName key 1 format]) = none := by
            intro format
            rw [edited.here, spares.nodes]
            exact (clear.absent (by rw [probed]; simp) key mem format).1
          have empty := congrArg Prod.fst (load_absent hk way there absent)
          unfold load at empty
          rw [probed'] at empty
          exact empty.symm

end TypstFences.Store
