import TypstFences.Proofs.Cache.Layers

/-!
# Interrupted saves

A save may be interrupted after any of its steps, and in the middle of writing a file (`Attempt`). The
pages are written from the last to the first, so the pages of the key that are there are always the
last ones (`Pages`), and each step keeps this (`runSteps_interrupted`). Hence after any attempts the
artifact is loaded as a whole or not at all, and it is loaded if and only if an attempt came to the
end of its steps (`interrupted_saves_load`).
-/

set_option autoImplicit false

namespace TypstFences.Store

variable {directory : Path} {here place : Place} {files : FileTree} {key : Text}
variable {artifact : Artifact}

/-! ## Attempts -/

/-- The steps of which a number is done, and of the next, if it writes a file, the part that writes
so many bytes of it, if any. -/
def interrupted : List Step → Nat → Option Nat → List Step
  | [], _, _ => []
  | step :: steps, complete + 1, torn => step :: interrupted steps complete torn
  | .write path content :: _, 0, some count => [.write path (content.take count)]
  | _ :: _, 0, _ => []

/-- An attempt to save an artifact: the tag of its temporary files, the number of steps that are done
before it is interrupted, and how many bytes of the next file are written then, if any. -/
structure Attempt where
  tag : Text
  complete : Nat
  torn : Option Nat
  deriving DecidableEq, Inhabited

namespace Attempt

/-- The steps that an attempt takes, unless one is refused. -/
def steps (directory : Path) (key : Text) (artifact : Artifact) (attempt : Attempt) : List Step :=
  interrupted (Store.steps directory attempt.tag key artifact) attempt.complete attempt.torn

/-- Whether an attempt comes to the end of its steps, the last of which gives the first page its name,
and the host after it. -/
def run (directory : Path) (key : Text) (artifact : Artifact) (attempt : Attempt) (host : Host) :
    Bool × Host :=
  match host.ensureDirectories directory with
  | (.error _, host) => (false, host)
  | (.ok (), host) =>
    match runSteps host.here (attempt.steps directory key artifact) host.files with
    | (.error _, files) => (false, host.withFiles files)
    | (.ok (), files) =>
      (decide ((Store.steps directory attempt.tag key artifact).length ≤ attempt.complete),
        host.withFiles files)

/-- Whether one of some attempts, one after the other, comes to the end of its steps, and the host
after them. -/
def runAll (directory : Path) (key : Text) (artifact : Artifact) : List Attempt → Host → Bool × Host
  | [], host => (false, host)
  | attempt :: attempts, host =>
    let (done, host) := attempt.run directory key artifact host
    let (later, host) := runAll directory key artifact attempts host
    (done || later, host)

end Attempt

/-- Steps that are interrupted behind their end are all done. -/
theorem interrupted_of_length_le {steps : List Step} :
    ∀ {complete : Nat} (torn : Option Nat), steps.length ≤ complete →
      interrupted steps complete torn = steps := by
  induction steps with
  | nil => exact fun _ _ => rfl
  | cons step steps ih =>
    intro complete torn enough
    obtain ⟨complete, rfl⟩ : ∃ rest, complete = rest + 1 :=
      ⟨complete - 1, by rw [List.length_cons] at enough; omega⟩
    rw [interrupted, ih torn (by simpa using enough)]

/-- An attempt that is not interrupted is a save. -/
theorem Attempt.run_complete (host : Host) {complete : Nat} (torn : Option Nat)
    (enough : (Store.steps directory host.tag key artifact).length ≤ complete) :
    Attempt.run directory key artifact ⟨host.tag, complete, torn⟩ host =
      ((save directory key artifact host).1.toBool, (save directory key artifact host).2) := by
  unfold Attempt.run save
  cases ensured : host.ensureDirectories directory with
  | mk outcome made =>
    cases outcome with
    | error error => rfl
    | ok =>
      have same_tag : made.tag = host.tag := by
        unfold Host.ensureDirectories Host.change at ensured
        split at ensured
        · rw [← (Prod.mk.inj ensured).2]
          rfl
        · exact absurd (Prod.mk.inj ensured).1 (by simp)
      have all : Attempt.steps directory key artifact ⟨host.tag, complete, torn⟩ =
          Store.steps directory made.tag key artifact := by
        rw [same_tag]
        exact interrupted_of_length_le torn enough
      simp only [all]
      cases runSteps made.here (Store.steps directory made.tag key artifact) made.files with
      | mk outcome files =>
        cases outcome with
        | error error => rfl
        | ok => simp [enough, Except.toBool]

/-! ## The pages that are there -/

/-- Whether the files of a key in a directory are the pages of an artifact from a number on, and the
rest of the files is spared by the change from some files. -/
structure Pages (directory : Path) (key : Text) (artifact : Artifact) (here place : Place)
    (before files : FileTree) (low : Nat) : Prop where
  first : 1 ≤ low
  way : files.walk here directory = .ok place
  found : files.node? place = some .directory
  nodes : ∀ page format, files.node? (place ++ [pageName key page format]) =
    if format = artifact.format ∧ low ≤ page then (artifact.pages[page - 1]?).map .file else none
  admitted : low ≤ artifact.pages.length → ∀ page ≤ artifact.pages.length + 1,
    FileTree.admits directory (pageName key page artifact.format) = true
  spared : ∀ other, IsKey other → other ≠ key → Spares other place before files

namespace Pages

variable {before : FileTree} {low page : Nat} {tag : Text}

/-- Writing the draft of a page, if it is not refused, leaves the pages as they are. -/
theorem put_draft (h : Pages directory key artifact here place before files low) (hk : IsKey key)
    (tag name : Text) (free : files.node? (place ++ [draftName tag name]) ≠ some .directory)
    (bytes : Bytes) :
    Pages directory key artifact here place before
      (files.put (place ++ [draftName tag name]) (.file bytes)) low := by
  have spares {other : Text} (other_key : IsKey other) : Spares other place files
      (files.put (place ++ [draftName tag name]) (.file bytes)) :=
    .put free (not_concerns_draftName other_key tag name) bytes
  have kept := (spares hk).directories
  refine ⟨h.first, FileTree.walk_of_kept kept h.way, kept place h.found, fun page format => ?_,
    h.admitted, fun other other_key differ => (h.spared other other_key differ).trans (spares other_key)⟩
  rw [(spares hk).nodes, h.nodes]

/-- No page of a key is a directory while pages are saved. -/
theorem node?_ne_directory (h : Pages directory key artifact here place before files low)
    (page : Nat) (format : Text) :
    files.node? (place ++ [pageName key page format]) ≠ some .directory := by
  rw [h.nodes]
  split
  · cases artifact.pages[page - 1]? <;> simp
  · simp

/-- Giving the draft of a page its name adds the page, if those after it are there. -/
theorem rename (h : Pages directory key artifact here place before files low) (hk : IsKey key)
    {bytes : Bytes} (at_page : artifact.pages[page - 1]? = some bytes) (positive : 1 ≤ page)
    (next : low ≤ page + 1)
    (draft : files.node? (place ++ [draftName tag (pageName key page artifact.format)]) =
      some (.file bytes))
    (admitted : FileTree.admits directory (draftName tag (pageName key page artifact.format)) = true) :
    Pages directory key artifact here place before
      ((files.remove (place ++ [draftName tag (pageName key page artifact.format)])).put
        (place ++ [pageName key page artifact.format]) (.file bytes)) (min low page) := by
  have free := h.node?_ne_directory page artifact.format
  have draft_ne := draftName_ne_pageName tag (pageName key page artifact.format) hk page artifact.format
  have free' : (files.remove (place ++ [draftName tag (pageName key page artifact.format)])).node?
      (place ++ [pageName key page artifact.format]) ≠ some .directory := by
    rwa [FileTree.node?_remove _ _ (by simp), if_neg (by simpa using draft_ne.symm)]
  have removed {other : Text} (other_key : IsKey other) : Spares other place files
      (files.remove (place ++ [draftName tag (pageName key page artifact.format)])) :=
    .remove (by rw [draft]; simp) (not_concerns_draftName other_key tag _)
  have spares {other : Text} (other_key : IsKey other) (differ : other ≠ key) :=
    (removed other_key).trans (Spares.put free'
      (not_concerns_pageName other_key hk differ.symm page artifact.format) bytes)
  have kept : FileTree.DirectoriesKept files
      ((files.remove (place ++ [draftName tag (pageName key page artifact.format)])).put
        (place ++ [pageName key page artifact.format]) (.file bytes)) := by
    intro found there
    have differ : found ≠ place ++ [pageName key page artifact.format] := by
      rintro rfl
      exact free there
    rw [FileTree.node?_put _ _ _ (by simp), if_neg differ]
    exact (removed hk).directories found there
  refine ⟨by have := h.first; omega, FileTree.walk_of_kept kept h.way, kept place h.found,
    fun other format => ?_, fun last => ?_,
    fun other other_key differ => (h.spared other other_key differ).trans (spares other_key differ)⟩
  · rw [FileTree.node?_put _ _ _ (by simp)]
    split
    · rename_i same
      obtain ⟨-, rfl, rfl⟩ := pageName_inj hk hk (show pageName key other format = _ by simpa using same)
      rw [if_pos ⟨rfl, by omega⟩, at_page]
      rfl
    · rename_i differ
      rw [(removed hk).nodes, h.nodes]
      by_cases formats : format = artifact.format
      · have pages : other ≠ page := by
          rintro rfl
          exact differ (by rw [formats])
        have same : low ≤ other ↔ min low page ≤ other := by omega
        simp only [formats, true_and, same]
      · simp only [formats, false_and]
  · have inside := (List.getElem?_eq_some_iff.mp at_page).1
    by_cases earlier : low ≤ artifact.pages.length
    · exact h.admitted earlier
    · -- the page is the last
      obtain rfl : page = artifact.pages.length := by omega
      exact fun other near => admits_page hk near admitted

/-- Writing the draft of a page is refused, or puts it into the directory. -/
theorem write_draft (h : Pages directory key artifact here place before files low) (tag name : Text)
    (bytes : Bytes) :
    (∃ error, files.write here (directory.entry (draftName tag name)) bytes = .error error) ∨
    FileTree.admits directory (draftName tag name) = true ∧
      files.node? (place ++ [draftName tag name]) ≠ some .directory ∧
      files.write here (directory.entry (draftName tag name)) bytes =
        .ok (files.put (place ++ [draftName tag name]) (.file bytes)) := by
  have way := FileTree.walk_entry h.way h.found (draftName_ne_parentName tag name)
  cases fault : FileTree.nameFault? directory (draftName tag name) with
  | some found =>
    rw [fault] at way
    exact .inl ⟨_, by simp only [FileTree.write, FileTree.placeForFile, way]; rfl⟩
  | none =>
    rw [fault] at way
    by_cases there : files.node? (place ++ [draftName tag name]) = some .directory
    · refine .inl ⟨⟨.isDirectory, (directory.entry (draftName tag name)).text⟩, ?_⟩
      simp [FileTree.write, FileTree.placeForFile, way, FileTree.isDirectoryAt, there]
    · exact .inr ⟨by rw [FileTree.admits, fault]; rfl, there, FileTree.write_eq bytes way there⟩

/-- Writing the draft of a page and no more leaves the pages as they are, also if it is refused. -/
theorem runSteps_draft (h : Pages directory key artifact here place before files low) (hk : IsKey key)
    (tag name : Text) (bytes : Bytes) :
    Pages directory key artifact here place before
      (runSteps here [.write (directory.entry (draftName tag name)) bytes] files).2 low := by
  rcases h.write_draft tag name bytes with ⟨error, refused⟩ | ⟨-, free, done⟩
  · simp only [runSteps, Step.apply, refused]
    exact h
  · simp only [runSteps, Step.apply, done]
    exact h.put_draft hk tag name free bytes

/-- The steps of a page add it, if those after it are there, or the first of them is refused. -/
theorem runSteps_pageSteps (h : Pages directory key artifact here place before files low)
    (hk : IsKey key) (noSlash : '/' ∉ artifact.format) (tag : Text) {bytes : Bytes}
    (at_page : artifact.pages[page - 1]? = some bytes) (positive : 1 ≤ page) (next : low ≤ page + 1) :
    (∃ error, ∀ rest, runSteps here (pageSteps directory tag key artifact.format bytes page ++ rest)
        files = (.error error, files)) ∨
      ∃ made, Pages directory key artifact here place before made (min low page) ∧
        ∀ rest, runSteps here (pageSteps directory tag key artifact.format bytes page ++ rest) files =
          runSteps here rest made := by
  rw [pageSteps_eq hk tag noSlash]
  rcases h.write_draft tag (pageName key page artifact.format) bytes with
    ⟨error, refused⟩ | ⟨admitted, free, done⟩
  · exact .inl ⟨error, fun rest => by simp [runSteps, Step.apply, refused]⟩
  · have h' := h.put_draft hk tag (pageName key page artifact.format) free bytes
    have draft_ne := draftName_ne_parentName tag (pageName key page artifact.format)
    have draft : (files.put (place ++ [draftName tag (pageName key page artifact.format)])
        (.file bytes)).node? (place ++ [draftName tag (pageName key page artifact.format)]) =
          some (.file bytes) := by
      rw [FileTree.node?_put _ _ _ (by simp), if_pos rfl]
    have renamed := FileTree.rename_eq
      (FileTree.walk_entry_admitted h'.way h'.found draft_ne admitted) draft
      (FileTree.walk_entry_admitted h'.way h'.found (pageName_isName hk page noSlash).notParent
        (admits_page hk (Nat.le_succ _) admitted)) (h'.node?_ne_directory page artifact.format)
    exact .inr ⟨_, h'.rename hk at_page positive next draft admitted, fun rest => by
      simp only [List.cons_append, List.nil_append, runSteps, Step.apply, done, renamed]⟩

end Pages

/-- The steps for the first pages of an artifact, the last of them first. -/
def stepsDown (directory : Path) (tag key : Text) (artifact : Artifact) (count : Nat) : List Step :=
  (((artifact.pages.take count).zipIdx 1).reverse).flatMap fun (content, page) =>
    pageSteps directory tag key artifact.format content page

/-- The steps that save all pages, from the last one down. -/
theorem stepsDown_length (directory : Path) (tag key : Text) (artifact : Artifact) :
    stepsDown directory tag key artifact artifact.pages.length =
      steps directory tag key artifact := by
  rw [stepsDown, List.take_length, steps]

/-- The steps that save one more page begin with this page. -/
theorem stepsDown_succ {tag : Text} {count : Nat} {bytes : Bytes}
    (at_count : artifact.pages[count]? = some bytes) :
    stepsDown directory tag key artifact (count + 1) =
      pageSteps directory tag key artifact.format bytes (count + 1) ++
        stepsDown directory tag key artifact count := by
  have inside := (List.getElem?_eq_some_iff.mp at_count).1
  have length : (artifact.pages.take count).length = count := by
    rw [List.length_take]
    omega
  unfold stepsDown
  rw [List.take_add_one, at_count, List.zipIdx_append, List.reverse_append, length]
  simp only [Option.toList_some, List.zipIdx_cons, List.zipIdx_nil, List.reverse_cons,
    List.reverse_nil, List.nil_append, List.cons_append, List.flatMap_cons, Nat.add_comm 1 count]

/-- Interrupted steps keep the pages that are there the last ones. The first is there if it was before,
or if all steps were done. -/
theorem runSteps_interrupted (hk : IsKey key) (noSlash : '/' ∉ artifact.format) (tag : Text)
    {before : FileTree} (count : Nat) :
    count ≤ artifact.pages.length → ∀ complete torn {files : FileTree} {low : Nat},
      Pages directory key artifact here place before files low → low ≤ count + 1 →
      ∃ low', Pages directory key artifact here place before
          (runSteps here (interrupted (stepsDown directory tag key artifact count) complete torn)
            files).2 low' ∧ low' ≤ low ∧
        (low' = 1 ↔ low = 1 ∨
          (runSteps here (interrupted (stepsDown directory tag key artifact count) complete torn)
            files).1 = .ok () ∧
          (stepsDown directory tag key artifact count).length ≤ complete) := by
  induction count with
  | zero =>
    intro _ complete torn files low h near
    have := h.first
    exact ⟨low, h, Nat.le_refl low, by simp [stepsDown, interrupted, runSteps]; omega⟩
  | succ count ih =>
    intro enough complete torn files low h near
    obtain ⟨bytes, at_count⟩ : ∃ bytes, artifact.pages[count]? = some bytes :=
      ⟨_, List.getElem?_eq_getElem (by omega)⟩
    have page := h.runSteps_pageSteps hk noSlash tag at_count (Nat.le_add_left 1 count) (by omega)
    rw [stepsDown_succ at_count]
    rw [pageSteps_eq hk tag noSlash] at page ⊢
    rcases complete with _ | _ | complete
    · -- interrupted before the draft is written, or while it is
      cases torn with
      | none => exact ⟨low, h, Nat.le_refl low, by simp [interrupted]⟩
      | some part => exact ⟨low, h.runSteps_draft hk tag _ _, Nat.le_refl low, by simp⟩
    · -- interrupted before the draft is renamed
      exact ⟨low, h.runSteps_draft hk tag _ bytes, Nat.le_refl low, by simp⟩
    · simp only [List.cons_append, List.nil_append, interrupted, List.length_cons] at page ⊢
      rcases page with ⟨error, refused⟩ | ⟨made, added, runs⟩
      · exact ⟨low, by simpa [refused] using h, Nat.le_refl low, by simp [refused]⟩
      · obtain ⟨low', pages, fewer, first⟩ := ih (by omega) complete torn added (by omega)
        rw [runs]
        refine ⟨low', pages, by omega, ?_⟩
        rw [first]
        have positive := h.first
        cases count with
        | zero =>
          -- the steps end here
          have nothing : stepsDown directory tag key artifact 0 = [] := rfl
          simp [nothing, interrupted, runSteps]
        | succ count =>
          have same : min low (count + 1 + 1) = 1 ↔ low = 1 := by omega
          rw [same]
          simp

/-! ## Attempts keep the pages -/

/-- An attempt keeps the pages that are there the last ones. The first is there if it was before, or
if the attempt came to its end. -/
theorem Attempt.run_pages {host : Host} {before : FileTree} {low : Nat} (hk : IsKey key)
    (noSlash : '/' ∉ artifact.format) (attempt : Attempt)
    (h : Pages directory key artifact host.here place before host.files low)
    (near : low ≤ artifact.pages.length + 1) :
    ∃ low', Pages directory key artifact host.here place before
        (attempt.run directory key artifact host).2.files low' ∧ low' ≤ low ∧
      (low' = 1 ↔ low = 1 ∨ (attempt.run directory key artifact host).1 = true) ∧
      (attempt.run directory key artifact host).2.here = host.here := by
  obtain ⟨low', pages, fewer, first⟩ := runSteps_interrupted hk noSlash attempt.tag
    artifact.pages.length (Nat.le_refl _) attempt.complete attempt.torn h near
  have there : host.ensureDirectories directory = (.ok (), host) := by
    unfold Host.ensureDirectories
    rw [Host.change, ensureDirectories_eq h.way h.found]
    rfl
  rw [stepsDown_length] at pages first
  refine ⟨low', ?_⟩
  unfold Attempt.run Attempt.steps
  simp only [there]
  generalize runSteps host.here (interrupted (Store.steps directory attempt.tag key artifact)
    attempt.complete attempt.torn) host.files = done at pages first ⊢
  obtain ⟨outcome, files⟩ := done
  cases outcome with
  | error error => exact ⟨pages, fewer, by simpa using first, rfl⟩
  | ok => exact ⟨pages, fewer, by simpa using first, rfl⟩

/-- Attempts keep the pages that are there the last ones. The first is there if it was before, or if one
of the attempts came to its end. -/
theorem Attempt.runAll_pages (hk : IsKey key) (noSlash : '/' ∉ artifact.format) {before : FileTree}
    (attempts : List Attempt) :
    ∀ {host : Host} {low : Nat}, Pages directory key artifact host.here place before host.files low →
      low ≤ artifact.pages.length + 1 →
      ∃ low', Pages directory key artifact host.here place before
          (runAll directory key artifact attempts host).2.files low' ∧
        (low' = 1 ↔ low = 1 ∨ (runAll directory key artifact attempts host).1 = true) ∧
        (runAll directory key artifact attempts host).2.here = host.here := by
  induction attempts with
  | nil => exact fun {host low} h _ => ⟨low, h, by simp [runAll], rfl⟩
  | cons attempt attempts ih =>
    intro host low h near
    obtain ⟨between, pages, fewer, first, here_eq⟩ := attempt.run_pages hk noSlash h near
    rw [← here_eq] at pages
    obtain ⟨low', pages', first', here_eq'⟩ := ih pages (by omega)
    rw [here_eq] at pages' here_eq'
    refine ⟨low', pages', ?_, here_eq'⟩
    rw [first', first, runAll, Bool.or_eq_true, or_assoc]

/-- After any attempts to save an artifact in a directory without a file of its key, each interrupted
or not, the artifact is loaded as a whole if one of them came to its end, and else nothing is. What is
loaded for the other keys stays the same. No name in a directory has a slash. -/
theorem interrupted_saves_load (cache : Cache) (host : Host) (directory : Path) (place : Place)
    (artifact : Artifact) (used : cache.directory = some directory)
    (way : host.files.walk host.here directory = .ok place)
    (found : host.files.node? place = some .directory)
    (names : ∀ name, host.files.node? (place ++ [name]) ≠ none → '/' ∉ name)
    (hk : IsKey key) (plain : artifact.IsPlain)
    (free : ∀ page format, host.files.node? (place ++ [pageName key page format]) = none)
    (attempts : List Attempt) :
    (cache.load key (Attempt.runAll directory key artifact attempts host).2).1 =
        .ok (if (Attempt.runAll directory key artifact attempts host).1 then some artifact else none) ∧
      ∀ other, IsKey other → other ≠ key →
        (cache.load other (Attempt.runAll directory key artifact attempts host).2).1 =
          (cache.load other host).1 := by
  have start : Pages directory key artifact host.here place host.files host.files
      (artifact.pages.length + 1) := by
    refine ⟨by omega, way, found, fun page format => ?_, fun last => by omega,
      fun other _ _ => .refl other place host.files⟩
    rw [free]
    split
    · rename_i beyond
      rw [List.getElem?_eq_none (by omega)]
      rfl
    · rfl
  obtain ⟨low, pages, first, here_eq⟩ := Attempt.runAll_pages hk plain.noSlash attempts start
    (Nat.le_refl _)
  have positive : artifact.pages.length ≠ 0 := fun empty => plain.pages (List.length_eq_zero_iff.mp empty)
  have done : low = 1 ↔ (Attempt.runAll directory key artifact attempts host).1 = true := by
    rw [first]
    simp [positive]
  simp only [Cache.load, used]
  generalize Attempt.runAll directory key artifact attempts host = result at pages done here_eq
  obtain ⟨finished, after⟩ := result
  rw [← here_eq] at pages
  refine ⟨?_, fun other other_key differ =>
    load_spared other_key way found names here_eq (pages.spared other other_key differ)⟩
  cases finished with
  | true =>
    obtain rfl : low = 1 := done.mpr rfl
    obtain ⟨message, loaded⟩ : ∃ message, load directory key after =
        (.ok (some artifact), after.note 3 message) := load_present hk plain pages.way pages.found
      (pages.admitted (by omega))
      (fun format present => by
        rw [pages.nodes] at present
        by_contra differ
        exact present (if_neg fun both => differ both.1))
      (fun i bytes at_i => by
        rw [pages.nodes, if_pos ⟨rfl, by omega⟩, Nat.add_sub_cancel_left, at_i]
        rfl)
      (by
        rw [pages.nodes, List.getElem?_eq_none (by omega)]
        simp)
    rw [loaded]
    rfl
  | false =>
    have later : low ≠ 1 := fun same => absurd (done.mp same) (by simp)
    have first_page := pages.first
    rw [load_absent hk pages.way pages.found fun format => by
      rw [pages.nodes, if_neg (by omega)]]
    rfl

/-! ## A save that is repeated -/

/-- A host with an empty directory for a cache. -/
def emptyCacheHost : Host := ⟨⟨[([cacheName], .directory)]⟩, [], [], ['1'], []⟩

/-- Two pages in a format with a usual name. -/
def twoPages : Artifact := ⟨[[7, 8], [9]], "svg".toList⟩

/-- After a save that is interrupted while the first page is written nothing is loaded, and both pages
are after one more save, whatever temporary file the first has left. -/
theorem torn_save_repeated :
    ((Cache.new (some cacheName)).load someKey
        (Attempt.runAll (Path.ofText cacheName) someKey twoPages [⟨['1'], 2, some 1⟩]
          emptyCacheHost).2).1 = .ok none ∧
      ((Cache.new (some cacheName)).load someKey
        (Attempt.runAll (Path.ofText cacheName) someKey twoPages
          [⟨['1'], 2, some 1⟩, ⟨['2'], 4, none⟩] emptyCacheHost).2).1 = .ok (some twoPages) := by
  have loads (attempts : List Attempt) := (interrupted_saves_load (Cache.new (some cacheName))
    emptyCacheHost (Path.ofText cacheName) [cacheName] twoPages rfl (by decide) (by decide)
    (fun name present => absurd (by simp [emptyCacheHost, FileTree.node?]) present) someKey_isKey
    ⟨by decide, by decide, by decide, by decide⟩
    (fun page format => by simp [emptyCacheHost, FileTree.node?]) attempts).1
  constructor
  · rw [loads]
    decide +kernel
  · rw [loads]
    decide +kernel

end TypstFences.Store
