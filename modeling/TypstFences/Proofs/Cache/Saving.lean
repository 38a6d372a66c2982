import TypstFences.Proofs.Cache.Directory

/-!
# What saving depends on

Whether an artifact can be saved depends on where there are directories and on nothing else
(`saves_iff`). Saving one leaves the directories as they are (`sameDirectories_of_pages`) and spares
the files of other keys (`spares_of_steps`). So saving under one key makes no difference for another
key, neither for loading nor for saving (`save_others`). This holds if the directory is there, or,
when it is made, turns out to have no first page of a key that is of interest (`Tidy`): a path that
leads through a missing directory and back leads nowhere at first, and to an old directory afterwards.
-/

set_option autoImplicit false

namespace TypstFences

namespace FileTree

variable {tree changed : FileTree} {here place : Place} {path : Path}

/-! ## Trees with the same directories -/

/-- Whether two trees have directories at the same places. -/
def SameDirectories (tree changed : FileTree) : Prop :=
  ∀ place, changed.node? place = some .directory ↔ tree.node? place = some .directory

namespace SameDirectories

/-- A tree has the same directories as itself. -/
theorem refl (tree : FileTree) : SameDirectories tree tree := fun _ => Iff.rfl

/-- It does not matter which of two trees is named first. -/
theorem symm (h : SameDirectories tree changed) : SameDirectories changed tree :=
  fun place => (h place).symm

/-- Directories stay the same through two changes. -/
theorem trans {between : FileTree} (h : SameDirectories tree between)
    (h' : SameDirectories between changed) : SameDirectories tree changed :=
  fun place => (h' place).trans (h place)

/-- Directories that stay the same are kept. -/
theorem kept (h : SameDirectories tree changed) : DirectoriesKept tree changed :=
  fun place => (h place).mpr

/-- Which way a path leads, if it leads anywhere, is told by the directories. -/
theorem walk (h : SameDirectories tree changed) :
    changed.walk here path = .ok place ↔ tree.walk here path = .ok place :=
  ⟨walk_of_kept h.symm.kept, walk_of_kept h.kept⟩

end SameDirectories

/-- There is a place for a file where a path leads to no directory. -/
theorem placeForFile_iff : tree.placeForFile here path = .ok place ↔
    tree.walk here path = .ok place ∧ tree.node? place ≠ some .directory := by
  unfold placeForFile
  cases tree.walk here path with
  | error fault => simp
  | ok found =>
    have there_iff : tree.isDirectoryAt found = true ↔ tree.node? found = some .directory := by
      simp [isDirectoryAt]
    rw [Except.ok.injEq]
    by_cases there : tree.node? found = some .directory
    · simp only [there_iff.mpr there, if_true]
      constructor
      · exact fun h => absurd h (by simp)
      · rintro ⟨rfl, free⟩
        exact absurd there free
    · simp only [if_neg (there_iff.not.mpr there), Except.ok.injEq]
      constructor
      · rintro rfl
        exact ⟨rfl, there⟩
      · exact fun h => h.1

/-- Whether a path may hold a file is told by the directories. -/
theorem SameDirectories.placeForFile (h : SameDirectories tree changed) :
    changed.placeForFile here path = .ok place ↔ tree.placeForFile here path = .ok place := by
  rw [placeForFile_iff, placeForFile_iff, h.walk, ne_eq, ne_eq, h place]

/-- The root is a directory, so that a place without one is not the root. -/
theorem ne_nil_of_node? (free : tree.node? place ≠ some .directory) : place ≠ [] := by
  rintro rfl
  exact free rfl

/-- A file that is put where no directory is changes no directories. -/
theorem sameDirectories_put (free : tree.node? place ≠ some .directory) (content : Bytes) :
    SameDirectories tree (tree.put place (.file content)) := by
  intro other
  rw [node?_put _ _ _ (ne_nil_of_node? free)]
  split
  · rename_i same
    simp [same, free]
  · rfl

/-- A file that is removed changes no directories. -/
theorem sameDirectories_remove (free : tree.node? place ≠ some .directory) :
    SameDirectories tree (tree.remove place) := by
  intro other
  rw [node?_remove _ _ (ne_nil_of_node? free)]
  split
  · rename_i same
    simp [same, free]
  · rfl

/-! ## Making directories -/

/-- A path where there is made to be a directory leads to one. -/
theorem directory_of_ensureDirectory (made : tree.ensureDirectory here path = .ok changed) :
    ∃ place, changed.walk here path = .ok place ∧ changed.node? place = some .directory := by
  unfold ensureDirectory makeDirectory at made
  split at made
  · rename_i new
    obtain rfl := Except.ok.inj made
    split at new
    · exact absurd new (by simp)
    · rename_i place way
      split at new
      · exact absurd new (by simp)
      · rename_i free
        obtain rfl := Except.ok.inj new
        have inside : place ≠ [] := ne_nil_of_node? (by rw [free]; simp)
        refine ⟨place, walk_of_kept (fun other there => ?_) way, ?_⟩
        · rw [node?_put _ _ _ inside]
          split
          · rfl
          · exact there
        · rw [node?_put _ _ _ inside, if_pos rfl]
  · split at made
    · rename_i there
      obtain rfl := Except.ok.inj made
      unfold isDirectory find? at there
      split at there
      · rename_i place way
        exact ⟨place, way, eq_of_beq there⟩
      · exact absurd there (by simp)
    · exact absurd made (by simp)

/-- A path where there are made to be directories leads to one. -/
theorem directory_of_ensureDirectories (made : tree.ensureDirectories here path = .ok changed) :
    ∃ place, changed.walk here path = .ok place ∧ changed.node? place = some .directory := by
  have path_eq : (⟨path.anchor, path.names.reverse.reverse⟩ : Path) = path := by
    rw [List.reverse_reverse]
  unfold ensureDirectories at made
  rw [deepest] at made
  cases names : path.names.reverse with
  | nil =>
    rw [names] at made path_eq
    rw [ensureDirectoriesFrom] at made
    rw [← path_eq]
    exact directory_of_ensureDirectory made
  | cons name above =>
    rw [names] at made path_eq
    rw [ensureDirectoriesFrom, path_eq] at made
    split at made
    · split at made
      · exact directory_of_ensureDirectory made
      · exact absurd made (by simp)
    · exact directory_of_ensureDirectory made

/-- A way that goes on through a name in a directory finds a directory of that name. -/
theorem directory_of_walk {directory : Path} {name : Text} {more : List Text} {found : Place}
    (way : tree.walk here directory = .ok place) (there : tree.node? place = some .directory)
    (notParent : name ≠ Path.parentName) (on : more ≠ [])
    (through : tree.walk here ⟨directory.anchor, directory.names ++ name :: more⟩ = .ok found) :
    tree.node? (place ++ [name]) = some .directory := by
  have steps : tree.walkFrom place (name :: more) = .ok found := by
    rw [← walkFrom_append (name :: more) (walkFrom_of_walk way)]
    exact walkFrom_of_walk through
  obtain ⟨next, others, rfl⟩ := List.exists_cons_of_ne_nil on
  rw [walkFrom, there] at steps
  simp only [if_neg notParent] at steps
  split at steps
  · exact absurd steps (by simp)
  · rw [walkFrom] at steps
    split at steps
    · rename_i found
      exact found
    · exact absurd steps (by simp)
    · exact absurd steps (by simp)

end FileTree

namespace Store

variable {directory : Path} {here place : Place} {files after : FileTree} {tag key other : Text}
variable {format first : Text} {work : List (Bytes × Nat)}

/-! ## When pages can be put into their files -/

/-- A page is put into its file if the file system admits its draft and its file where they are, and
then nothing else is changed. -/
theorem runSteps_page_iff {draft target : Path} {bytes : Bytes} :
    runSteps here [.write draft bytes, .rename draft target] files = (.ok (), after) ↔
      ∃ old new, files.placeForFile here draft = .ok old ∧
        files.placeForFile here target = .ok new ∧
        after = ((files.put old (.file bytes)).remove old).put new (.file bytes) := by
  cases old_found : files.placeForFile here draft with
  | error error => simp [runSteps, Step.apply, FileTree.write, old_found]
  | ok old =>
    obtain ⟨way, free⟩ := FileTree.placeForFile_iff.mp old_found
    have same := FileTree.sameDirectories_put free bytes
    have way' := same.walk.mpr way
    have written : (files.put old (.file bytes)).content here draft = .ok bytes :=
      FileTree.content_eq way' (by
        rw [FileTree.node?_put _ _ _ (FileTree.ne_nil_of_node? free), if_pos rfl])
    cases new_found : (files.put old (.file bytes)).placeForFile here target with
    | error error =>
      have refused (new : Place) : files.placeForFile here target ≠ .ok new := fun found =>
        absurd (new_found.symm.trans (same.placeForFile.mpr found)) (by simp)
      simp [runSteps, Step.apply, FileTree.write, FileTree.rename, old_found, written, way',
        new_found, refused]
    | ok new =>
      have admitted := same.placeForFile.mp new_found
      simp [runSteps, Step.apply, FileTree.write, FileTree.rename, old_found, written, way',
        new_found, admitted, eq_comm]

/-- A page that is written and renamed changes no directories. -/
theorem sameDirectories_of_page {draft target : Path} {bytes : Bytes}
    (run : runSteps here [.write draft bytes, .rename draft target] files = (.ok (), after)) :
    FileTree.SameDirectories files after := by
  obtain ⟨old, new, old_found, new_found, rfl⟩ := runSteps_page_iff.mp run
  have free := (FileTree.placeForFile_iff.mp old_found).2
  have written := FileTree.sameDirectories_put free bytes
  have removed := written.trans (FileTree.sameDirectories_remove ((written old).not.mpr free))
  have free' := (removed new).not.mpr (FileTree.placeForFile_iff.mp new_found).2
  exact removed.trans (FileTree.sameDirectories_put free' bytes)

/-- Whether the file system admits the page of a number where it is to be, and its draft. -/
def PageFits (directory : Path) (tag key format : Text) (here : Place) (files : FileTree)
    (page : Nat) : Prop :=
  (∃ old, files.placeForFile here (draftPath tag (pagePath directory key page format)) = .ok old) ∧
    ∃ new, files.placeForFile here (pagePath directory key page format) = .ok new

/-- Whether a page fits depends on the directories alone. -/
theorem pageFits_congr (same : FileTree.SameDirectories files after) (page : Nat) :
    PageFits directory tag key format here after page ↔
      PageFits directory tag key format here files page := by
  simp only [PageFits, same.placeForFile]

/-- The steps that put pages into their files. -/
abbrev pagesSteps (directory : Path) (tag key format : Text) (work : List (Bytes × Nat)) :
    List Step :=
  work.flatMap fun (bytes, page) => pageSteps directory tag key format bytes page

/-- Pages are put into their files, and the directories stay the same, if each page fits at first. -/
theorem runSteps_pages_iff :
    (∃ after, runSteps here (pagesSteps directory tag key format work) files = (.ok (), after)) ↔
      ∀ page ∈ work.map Prod.snd, PageFits directory tag key format here files page := by
  induction work generalizing files with
  | nil => simp [runSteps]
  | cons entry work ih =>
    obtain ⟨bytes, page⟩ := entry
    have page_iff {between : FileTree} : runSteps here
        (pageSteps directory tag key format bytes page) files = (.ok (), between) ↔ _ :=
      runSteps_page_iff
    rw [pagesSteps, List.flatMap_cons]
    simp only [runSteps_append_iff, List.map_cons, List.forall_mem_cons]
    constructor
    · rintro ⟨after, between, run, rest⟩
      have same := sameDirectories_of_page run
      obtain ⟨old, new, old_found, new_found, -⟩ := page_iff.mp run
      refine ⟨⟨⟨old, old_found⟩, new, new_found⟩, fun other mem => ?_⟩
      exact (pageFits_congr same other).mp (ih.mp ⟨after, rest⟩ other mem)
    · rintro ⟨⟨⟨old, old_found⟩, new, new_found⟩, others⟩
      have run := page_iff.mpr ⟨old, new, old_found, new_found, rfl⟩
      obtain ⟨after, rest⟩ := ih.mpr fun other mem =>
        (pageFits_congr (sameDirectories_of_page run) other).mpr (others other mem)
      exact ⟨after, _, run, rest⟩

/-- Pages that are saved change no directories, by induction on the pages. -/
theorem sameDirectories_of_pages :
    ∀ {files : FileTree}, runSteps here (pagesSteps directory tag key format work) files =
      (.ok (), after) → FileTree.SameDirectories files after := by
  induction work with
  | nil =>
    intro files run
    rw [(Prod.mk.inj run).2]
    exact .refl after
  | cons entry work ih =>
    intro files run
    rw [pagesSteps, List.flatMap_cons] at run
    obtain ⟨between, first, rest⟩ := runSteps_append_iff.mp run
    exact (sameDirectories_of_page first).trans (ih rest)

/-! ## Where the pages are put -/

/-- The path to a page goes through a name in the directory that is the same for all formats that begin
alike up to a slash, and ends there if nothing follows the slash. -/
theorem pagePath_shape (format : Text) : ∃ first more, '/' ∉ first ∧
    ∀ directory key page, IsKey key → pagePath directory key page format =
      ⟨directory.anchor, directory.names ++ pageName key page first :: more⟩ := by
  obtain ⟨first, more, noSlash, shape⟩ := Path.child_suffixed format
  exact ⟨first, more, noSlash, fun directory key page hk =>
    shape directory _ (pageName_isName hk page noSlash)⟩

/-- Whether a path leads to a directory at a place, in which no name has a slash. -/
structure ThereAt (directory : Path) (files : FileTree) (here place : Place) : Prop where
  way : files.walk here directory = .ok place
  found : files.node? place = some .directory
  names : ∀ name, files.node? (place ++ [name]) ≠ none → '/' ∉ name

/-- If there is no directory with the name of a first page, pages that are put into their files are put
into the directory. -/
theorem pagePath_of_runSteps (hk : IsKey key) (there : ThereAt directory files here place)
    (free : ∀ format, files.node? (place ++ [pageName key 1 format]) ≠ some .directory)
    (first_page : 1 ∈ work.map Prod.snd)
    (run : runSteps here (pagesSteps directory tag key format work) files = (.ok (), after)) :
    ∃ first, '/' ∉ first ∧
      ∀ page, pagePath directory key page format = directory.entry (pageName key page first) := by
  obtain ⟨first, more, noSlash, shape⟩ := pagePath_shape format
  obtain ⟨-, found, admitted⟩ := runSteps_pages_iff.mp ⟨after, run⟩ 1 first_page
  have way := (FileTree.placeForFile_iff.mp admitted).1
  rw [shape directory key 1 hk] at way
  have ends : more = [] := by
    by_contra on
    exact free first (FileTree.directory_of_walk there.way there.found
      (pageName_isName hk 1 noSlash).notParent on way)
  exact ⟨first, noSlash, fun page => by rw [shape directory key page hk, ends]⟩

/-- A file that may be in a directory has its place there, and an admitted name. -/
theorem placeForFile_entry {name : Text} {found : Place} (way : files.walk here directory = .ok place)
    (there : files.node? place = some .directory) (notParent : name ≠ Path.parentName)
    (admitted : files.placeForFile here (directory.entry name) = .ok found) :
    found = place ++ [name] ∧ files.node? (place ++ [name]) ≠ some .directory ∧
      FileTree.admits directory name = true := by
  obtain ⟨leads, free⟩ := FileTree.placeForFile_iff.mp admitted
  rw [FileTree.walk_entry way there notParent] at leads
  unfold FileTree.admits
  split at leads
  · rename_i none
    obtain rfl := Except.ok.inj leads
    exact ⟨rfl, free, by rw [none]; rfl⟩
  · exact absurd leads (by simp)

/-- A page that is put into the directory spares the files of other keys. -/
theorem spares_of_page {page : Nat} {bytes : Bytes} (hk : IsKey key) (noSlash : '/' ∉ first)
    (there : ThereAt directory files here place)
    (run : runSteps here
      [.write (directory.entry (draftName tag (pageName key page first))) bytes,
        .rename (directory.entry (draftName tag (pageName key page first)))
          (directory.entry (pageName key page first))] files = (.ok (), after)) :
    ThereAt directory after here place ∧
      ∀ other, IsKey other → other ≠ key → Spares other place files after := by
  have same := sameDirectories_of_page run
  obtain ⟨old, new, old_found, new_found, rfl⟩ := runSteps_page_iff.mp run
  obtain ⟨rfl, free, -⟩ :=
    placeForFile_entry there.way there.found (draftName_ne_parentName tag _) old_found
  obtain ⟨rfl, free', -⟩ :=
    placeForFile_entry there.way there.found (pageName_isName hk page noSlash).notParent new_found
  -- the draft leaves no trace
  have written := FileTree.sameDirectories_put free bytes
  have removed := written.trans (FileTree.sameDirectories_remove ((written _).not.mpr free))
  refine ⟨⟨same.walk.mpr there.way, (same place).mpr there.found, fun name present => ?_⟩,
    fun other other_key differ => ?_⟩
  · rw [FileTree.node?_put _ _ _ (by simp), FileTree.node?_remove _ _ (by simp),
      FileTree.node?_put _ _ _ (by simp)] at present
    split at present
    · rename_i isPage
      obtain rfl : name = pageName key page first := by simpa using isPage
      exact (pageName_isName hk page noSlash).noSlash
    · split at present
      · exact absurd rfl present
      · exact there.names name present
  · have draft_clear := not_concerns_draftName other_key tag (pageName key page first)
    exact ((Spares.put free draft_clear bytes).trans
      (.remove ((written _).not.mpr free) draft_clear)).trans
        (.put ((removed _).not.mpr free') (not_concerns_pageName other_key hk differ.symm page first)
          bytes)

/-- Pages that are put into the directory spare the files of other keys. -/
theorem spares_of_pages (hk : IsKey key) (noSlash : '/' ∉ first)
    (paths : ∀ page, pagePath directory key page format = directory.entry (pageName key page first)) :
    ∀ {files : FileTree}, ThereAt directory files here place →
      runSteps here (pagesSteps directory tag key format work) files = (.ok (), after) →
      ThereAt directory after here place ∧
        ∀ other, IsKey other → other ≠ key → Spares other place files after := by
  induction work with
  | nil =>
    intro files there run
    obtain rfl := (Prod.mk.inj run).2
    exact ⟨there, fun other _ _ => .refl other place files⟩
  | cons entry work ih =>
    obtain ⟨bytes, page⟩ := entry
    intro files there run
    rw [pagesSteps, List.flatMap_cons] at run
    obtain ⟨between, one, rest⟩ := runSteps_append_iff.mp run
    simp only [pageSteps, paths, draftPath_entry] at one
    obtain ⟨there', spared⟩ := spares_of_page hk noSlash there one
    obtain ⟨there'', spared'⟩ := ih there' rest
    exact ⟨there'', fun other other_key differ =>
      (spared other other_key differ).trans (spared' other other_key differ)⟩

/-! ## Hosts with the same files -/

variable {host changed : Host} {artifact : Artifact}

/-- Whether two hosts have the same files and give temporary files the same names. -/
structure SameFiles (host changed : Host) : Prop where
  files : changed.files = host.files
  here : changed.here = host.here
  tag : changed.tag = host.tag

namespace SameFiles

/-- A host has the same files as itself. -/
theorem refl (host : Host) : SameFiles host host := ⟨rfl, rfl, rfl⟩

/-- Files stay the same through two changes. -/
theorem trans {between : Host} (h : SameFiles host between) (h' : SameFiles between changed) :
    SameFiles host changed :=
  ⟨h'.files.trans h.files, h'.here.trans h.here, h'.tag.trans h.tag⟩

/-- A note changes no files. -/
theorem note (host : Host) (level : Int) (message : Text) : SameFiles host (host.note level message) :=
  ⟨rfl, rfl, rfl⟩

/-- Loading looks at the files only. -/
theorem load (h : SameFiles host changed) (directory : Path) (key : Text) :
    (Store.load directory key changed).1 = (Store.load directory key host).1 := by
  have probes : changed.probeDirectory directory = host.probeDirectory directory := by
    unfold Host.probeDirectory
    rw [h.files, h.here]
  have formats : format? directory key changed = format? directory key host := by
    unfold format?
    rw [h.files, h.here]
  unfold Store.load
  rw [probes, formats, h.files, h.here]
  split
  · rfl
  · rfl
  · split
    · rfl
    · rfl
    · split <;> rfl

end SameFiles

/-- Loading changes no files. -/
theorem sameFiles_load (directory : Path) (key : Text) (host : Host) :
    SameFiles host (load directory key host).2 := by
  unfold load
  split
  · exact .refl host
  · exact .refl host
  · split
    · exact .refl host
    · exact .refl host
    · split
      · exact .refl host
      · exact .note host _ _

/-- Loading for a key ends in no error but one of the file system. -/
theorem refused_of_load {error : PassError} (hk : IsKey key)
    (failed : (load directory key host).1 = .error error) :
    ∃ refused, error = .refusedFile refused := by
  rcases load_error failed with refused | ⟨fault, unread, -⟩
  · exact refused
  · exact absurd (unread.symm.trans (read_firstPage hk)) (by simp)

/-! ## Saving -/

/-- An artifact is saved if its directory can be made and its pages can be put into their files. -/
theorem save_iff {saved : Host} : save directory key artifact host = (.ok (), saved) ↔
    ∃ made files, host.files.ensureDirectories host.here directory = .ok made ∧
      runSteps host.here (steps directory host.tag key artifact) made = (.ok (), files) ∧
      saved = host.withFiles files := by
  unfold save Host.ensureDirectories Host.change
  cases ensured : host.files.ensureDirectories host.here directory with
  | error error => simp [ensured]
  | ok made =>
    simp only [ensured, Host.withFiles]
    constructor
    · intro done
      obtain ⟨outcome, files_eq⟩ := Prod.mk.inj done
      exact ⟨made, _, rfl, Prod.ext outcome rfl, files_eq.symm⟩
    · rintro ⟨_, files, same, run, rfl⟩
      obtain rfl := Except.ok.inj same
      rw [run]

/-- Whether an artifact is saved is told by the directories. -/
theorem saves_iff : (save directory key artifact host).1 = .ok () ↔
    ∃ made, host.files.ensureDirectories host.here directory = .ok made ∧
      ∀ page ∈ (artifact.pages.zipIdx 1).reverse.map Prod.snd,
        PageFits directory host.tag key artifact.format host.here made page := by
  constructor
  · intro saves
    obtain ⟨made, files, ensured, run, -⟩ := save_iff.mp (Prod.ext saves rfl)
    exact ⟨made, ensured, runSteps_pages_iff.mp ⟨files, run⟩⟩
  · rintro ⟨made, ensured, fits⟩
    obtain ⟨files, run⟩ := runSteps_pages_iff.mpr fits
    rw [save_iff.mpr ⟨made, files, ensured, run, rfl⟩]

/-- Whether a directory is there, in which no name has a slash; or it is not there yet, and when it is
made, it has no first page of certain keys and no name with a slash. -/
def Tidy (directory : Path) (keys : Text → Prop) (host : Host) : Prop :=
  (∃ place, ThereAt directory host.files host.here place) ∨
  host.probeDirectory directory ≠ .ok true ∧
    ∀ made place, host.files.ensureDirectories host.here directory = .ok made →
      made.walk host.here directory = .ok place →
      (∀ name, made.node? (place ++ [name]) ≠ none → '/' ∉ name) ∧
      ∀ key, keys key → ∀ format, made.node? (place ++ [pageName key 1 format]) = none

/-- A directory stays tidy where the files stay the same. -/
theorem Tidy.sameFiles {keys : Text → Prop} (h : Tidy directory keys host)
    (same : SameFiles host changed) : Tidy directory keys changed := by
  unfold Tidy Host.probeDirectory at h ⊢
  rwa [same.files, same.here]

/-- The same artifacts can be saved where the files are the same. -/
theorem SameFiles.saves (h : SameFiles host changed) :
    (save directory key artifact changed).1 = .ok () ↔
      (save directory key artifact host).1 = .ok () := by
  rw [saves_iff, saves_iff, h.files, h.here, h.tag]

/-- They leave the same files. -/
theorem SameFiles.save (h : SameFiles host changed)
    (saves : (save directory key artifact host).1 = .ok ()) :
    SameFiles (Store.save directory key artifact host).2
      (Store.save directory key artifact changed).2 := by
  have done : Store.save directory key artifact host =
      (.ok (), (Store.save directory key artifact host).2) := Prod.ext saves rfl
  obtain ⟨made, files, ensured, run, saved⟩ := save_iff.mp done
  rw [saved, save_iff.mpr ⟨made, files, by rwa [h.files, h.here], by rwa [h.here, h.tag], rfl⟩]
  exact ⟨rfl, h.here, h.tag⟩

/-- Where loading finds nothing, the directory has no first page of the key. -/
theorem absent_of_load (hk : IsKey key) (way : host.files.walk host.here directory = .ok place)
    (found : host.files.node? place = some .directory)
    (nothing : (load directory key host).1 = .ok none) (format : Text) :
    host.files.node? (place ++ [pageName key 1 format]) = none := by
  by_contra present
  have listed : directory.entry (pageName key 1 format) ∈
      firstFiles directory key place host.files := by
    unfold firstFiles
    rw [List.mem_mergeSort, List.mem_eraseDups]
    exact List.mem_map_of_mem (List.mem_filter.mpr
      ⟨FileTree.mem_namesIn.mpr present, (accepts_firstPage hk hk).mpr ⟨rfl, rfl⟩⟩)
  unfold load at nothing
  rw [probeDirectory_eq way found, format?_eq_firstFiles hk way found] at nothing
  cases first : (firstFiles directory key place host.files).head? with
  | none =>
    rw [List.head?_eq_none_iff.mp first] at listed
    exact absurd listed (by simp)
  | some path =>
    rw [first] at nothing
    simp only [Option.map_some] at nothing
    split at nothing
    · exact absurd nothing (by simp)
    · exact absurd nothing (by simp)

/-- The steps that save an artifact spare the files of other keys, if the directory has no directory
with the name of a first page of the key. -/
theorem spares_of_steps (hk : IsKey key) (there : ThereAt directory files here place)
    (free : ∀ format, files.node? (place ++ [pageName key 1 format]) ≠ some .directory)
    (run : runSteps here (steps directory tag key artifact) files = (.ok (), after)) :
    ThereAt directory after here place ∧
      ∀ other, IsKey other → other ≠ key → Spares other place files after := by
  cases pages : artifact.pages with
  | nil =>
    have nothing : steps directory tag key artifact = [] := by
      unfold steps
      rw [pages]
      rfl
    rw [nothing] at run
    obtain rfl := (Prod.mk.inj run).2
    exact ⟨there, fun other _ _ => .refl other place files⟩
  | cons bytes others =>
    have first_page : 1 ∈ (artifact.pages.zipIdx 1).reverse.map Prod.snd := by
      rw [List.map_reverse, List.zipIdx_map_snd, pages]
      simp
    obtain ⟨first, noSlash, paths⟩ := pagePath_of_runSteps hk there free first_page run
    exact spares_of_pages hk noSlash paths there run

/-- What a save under a key does for which nothing was found: the directory is there afterwards, with
the same directories and the same files of other keys as when it was made; and it was made of nothing,
or was there before. -/
theorem save_cases {keys : Text → Prop} {saved : Host} (hk : IsKey key) (wanted : keys key)
    (tidy : Tidy directory keys host) (nothing : (load directory key host).1 = .ok none)
    (done : save directory key artifact host = (.ok (), saved)) :
    ∃ made place files, host.files.ensureDirectories host.here directory = .ok made ∧
      saved = host.withFiles files ∧ ThereAt directory made host.here place ∧
      ThereAt directory files host.here place ∧ FileTree.SameDirectories made files ∧
      (∀ other, IsKey other → other ≠ key → Spares other place made files) ∧
      (made = host.files ∨ ∀ other, keys other → (load directory other host).1 = .ok none ∧
        ∀ format, made.node? (place ++ [pageName other 1 format]) = none) := by
  obtain ⟨made, files, ensured, run, rfl⟩ := save_iff.mp done
  have same : FileTree.SameDirectories made files := sameDirectories_of_pages run
  rcases tidy with ⟨place, there⟩ | ⟨missing, empty⟩
  · obtain rfl := Except.ok.inj (ensured.symm.trans (ensureDirectories_eq there.way there.found))
    obtain ⟨there', spared⟩ := spares_of_steps hk there
      (fun format => by rw [absent_of_load hk there.way there.found nothing format]; simp) run
    exact ⟨host.files, place, files, ensured, rfl, there, there', same, spared, .inl rfl⟩
  · obtain ⟨place, way, found⟩ := FileTree.directory_of_ensureDirectories ensured
    obtain ⟨names, absent⟩ := empty made place ensured way
    have there : ThereAt directory made host.here place := ⟨way, found, names⟩
    obtain ⟨there', spared⟩ := spares_of_steps hk there
      (fun format => by rw [absent key wanted format]; simp) run
    refine ⟨made, place, files, ensured, rfl, there, there', same, spared,
      .inr fun other other_wanted => ⟨?_, absent other other_wanted⟩⟩
    unfold load at nothing ⊢
    split at nothing
    · exact absurd nothing (by simp)
    · rfl
    · rename_i probed
      exact absurd probed missing

/-- Saving under a key for which nothing was found makes no difference for other keys. -/
theorem save_others {keys : Text → Prop} {saved : Host} (hk : IsKey key) (wanted : keys key)
    (tidy : Tidy directory keys host) (nothing : (load directory key host).1 = .ok none)
    (done : save directory key artifact host = (.ok (), saved)) :
    Tidy directory keys saved ∧ ∀ other, IsKey other → keys other → other ≠ key →
      (load directory other saved).1 = (load directory other host).1 ∧
      ∀ artifact, (save directory other artifact saved).1 = .ok () ↔
        (save directory other artifact host).1 = .ok () := by
  obtain ⟨made, place, files, ensured, rfl, there, there', same, spared, origin⟩ :=
    save_cases hk wanted tidy nothing done
  refine ⟨.inl ⟨place, there'⟩, fun other other_key other_wanted differ => ⟨?_, fun artifact => ?_⟩⟩
  · rcases origin with rfl | empty
    · exact load_spared other_key there.way there.found there.names rfl
        (spared other other_key differ)
    · obtain ⟨nothing_there, absent⟩ := empty other other_wanted
      rw [nothing_there, load_absent other_key there'.way there'.found fun format => ?_]
      exact ((spared other other_key differ).nodes 1 format).trans (absent format)
  · have ensured' : files.ensureDirectories host.here directory = .ok files :=
      ensureDirectories_eq there'.way there'.found
    rw [saves_iff, saves_iff, ensured]
    show (∃ made, files.ensureDirectories host.here directory = .ok made ∧ _) ↔ _
    rw [ensured']
    simp only [Except.ok.injEq, exists_eq_left']
    exact forall₂_congr fun page _ => pageFits_congr same page

end Store

end TypstFences
