import Mathlib.Logic.Function.Basic
import TypstFences.Proofs.Cache.Loading

/-!
# What the artifact directory holds

The files of a directory are the pages of the artifacts kept in it (`Holds`), and nothing else. Then
loading finds for each key the artifact that is kept (`load_some`), and saving keeps one more
(`save_eq`), unless the file system refuses the names of its files (`refusal?`); a refused artifact
leaves no file behind.
-/

set_option autoImplicit false

namespace TypstFences.Store

variable {directory : Path} {files : FileTree} {here place : Place} {host : Host}
variable {tag key format : Text}

/-! ## Directories of files -/

/-- Whether there is a directory at a path that has files of certain names and contents and nothing
else. -/
structure Lists (directory : Path) (files : FileTree) (here place : Place)
    (content : Text → Option Bytes) : Prop where
  way : files.walk here directory = .ok place
  found : files.node? place = some .directory
  listed : ∀ name, files.node? (place ++ [name]) = (content name).map .file

namespace Lists

variable {content : Text → Option Bytes} {name : Text}

/-- What is at the place of a file is no directory. -/
theorem node?_ne_directory (h : Lists directory files here place content) (name : Text) :
    files.node? (place ++ [name]) ≠ some .directory := by
  rw [h.listed]
  cases content name <;> simp

/-- Putting a file into the directory adds it to its files. -/
theorem put (h : Lists directory files here place content) (name : Text) (bytes : Bytes) :
    Lists directory (files.put (place ++ [name]) (.file bytes)) here place
      (Function.update content name (some bytes)) where
  way := by
    refine FileTree.walk_of_kept (fun other old => ?_) h.way
    have differ : other ≠ place ++ [name] := by
      rintro rfl
      exact h.node?_ne_directory name old
    rw [FileTree.node?_put _ _ _ (by simp), if_neg differ, old]
  found := by
    rw [FileTree.node?_put _ _ _ (by simp), if_neg (by simp), h.found]
  listed := by
    intro other
    rw [FileTree.node?_put _ _ _ (by simp)]
    by_cases same : other = name
    · simp [same]
    · simp [same, h.listed]

/-- Removing a file from the directory takes it from its files. -/
theorem remove (h : Lists directory files here place content) (name : Text) :
    Lists directory (files.remove (place ++ [name])) here place
      (Function.update content name none) where
  way := by
    refine FileTree.walk_of_kept (fun other old => ?_) h.way
    have differ : other ≠ place ++ [name] := by
      rintro rfl
      exact h.node?_ne_directory name old
    rw [FileTree.node?_remove _ _ (by simp), if_neg differ, old]
  found := by
    rw [FileTree.node?_remove _ _ (by simp), if_neg (by simp), h.found]
  listed := by
    intro other
    rw [FileTree.node?_remove _ _ (by simp)]
    by_cases same : other = name
    · simp [same]
    · simp [same, h.listed]

/-- An admitted name leads to what is listed under it. -/
theorem walk_entry (h : Lists directory files here place content)
    (notParent : name ≠ Path.parentName) (admitted : FileTree.admits directory name = true) :
    files.walk here (directory.entry name) = .ok (place ++ [name]) :=
  FileTree.walk_entry_admitted h.way h.found notParent admitted

/-- Writing a file and giving it its name adds it to the files of the directory. -/
theorem runSteps_page {draft : Text} (h : Lists directory files here place content)
    (draft_ne : draft ≠ Path.parentName) (draft_admitted : FileTree.admits directory draft = true)
    (name_ne : name ≠ Path.parentName) (admitted : FileTree.admits directory name = true)
    (free : content draft = none) (bytes : Bytes) :
    ∃ after, runSteps here [.write (directory.entry draft) bytes,
        .rename (directory.entry draft) (directory.entry name)] files = (.ok (), after) ∧
      Lists directory after here place (Function.update content name (some bytes)) := by
  -- the draft is written, found again, and moved
  have written := h.put draft bytes
  have moved := (written.remove draft).put name bytes
  have erased : Function.update (Function.update content draft (some bytes)) draft none = content := by
    rw [Function.update_idem, ← free, Function.update_eq_self]
  rw [erased] at moved
  have draft_found : (files.put (place ++ [draft]) (.file bytes)).node? (place ++ [draft]) =
      some (.file bytes) := by
    rw [written.listed]
    simp
  have write_step := FileTree.write_eq bytes (h.walk_entry draft_ne draft_admitted)
    (h.node?_ne_directory draft)
  have rename_step := FileTree.rename_eq (written.walk_entry draft_ne draft_admitted) draft_found
    (written.walk_entry name_ne admitted) (written.node?_ne_directory name)
  refine ⟨_, ?_, moved⟩
  simp [runSteps, Step.apply, write_step, rename_step]

end Lists

/-- Steps come to an end if the first of them do, and then the others do. -/
theorem runSteps_append_iff {after : FileTree} {steps more : List Step} :
    runSteps here (steps ++ more) files = (.ok (), after) ↔
      ∃ between, runSteps here steps files = (.ok (), between) ∧
        runSteps here more between = (.ok (), after) := by
  induction steps generalizing files with
  | nil => simp [runSteps]
  | cons step steps ih =>
    rw [List.cons_append, runSteps, runSteps]
    cases step.apply here files with
    | ok changed => exact ih
    | error error => simp

/-- The steps of a page are about files of the directory. -/
theorem pageSteps_eq (hk : IsKey key) (tag : Text) (noSlash : '/' ∉ format) (bytes : Bytes) (page : Nat) :
    pageSteps directory tag key format bytes page =
      [.write (directory.entry (draftName tag (pageName key page format))) bytes,
        .rename (directory.entry (draftName tag (pageName key page format)))
          (directory.entry (pageName key page format))] := by
  rw [pageSteps, pagePath_eq hk page noSlash, draftPath_entry]

/-- Putting pages into their files, none of which is there, adds just these files. -/
theorem runSteps_pages (tag : Text) {work : List (Bytes × Nat)} (hk : IsKey key)
    (noSlash : '/' ∉ format) (distinct : (work.map Prod.snd).Nodup)
    (admitted : ∀ page ∈ work.map Prod.snd,
      FileTree.admits directory (draftName tag (pageName key page format)) = true) :
    ∀ {files : FileTree} {content : Text → Option Bytes},
      Lists directory files here place content →
      (∀ page ∈ work.map Prod.snd, content (pageName key page format) = none) →
      (∀ page ∈ work.map Prod.snd, content (draftName tag (pageName key page format)) = none) →
      ∃ after files', runSteps here
          (work.flatMap fun (bytes, page) => pageSteps directory tag key format bytes page) files =
            (.ok (), files') ∧
        Lists directory files' here place after ∧
        ∀ name bytes, after name = some bytes ↔
          content name = some bytes ∨
            ∃ page, (bytes, page) ∈ work ∧ name = pageName key page format := by
  induction work with
  | nil => exact fun h _ _ => ⟨_, _, rfl, h, by simp⟩
  | cons entry work ih =>
    obtain ⟨bytes, page⟩ := entry
    intro files content h free draft_free
    rw [List.map_cons, List.nodup_cons] at distinct
    have isName := pageName_isName hk page noSlash
    have own (other : Nat) : draftName tag (pageName key other format) ≠ pageName key page format :=
      draftName_ne_pageName tag _ hk page format
    -- the first page gets its file
    obtain ⟨between, first_run, listed⟩ := h.runSteps_page (draftName_ne_parentName tag _)
      (admitted page (by simp)) isName.notParent
      (admits_page hk (Nat.le_succ page) (admitted page (by simp))) (draft_free page (by simp))
      bytes
    -- the other pages have other names
    have later_free : ∀ other ∈ work.map Prod.snd, Function.update content
        (pageName key page format) (some bytes) (pageName key other format) = none := by
      intro other mem
      have differ : pageName key other format ≠ pageName key page format := by
        intro same
        exact distinct.1 ((pageName_inj hk hk same).2.1 ▸ mem)
      rw [Function.update_of_ne differ, free other (by simp at mem ⊢; exact .inr mem)]
    have later_draft_free : ∀ other ∈ work.map Prod.snd, Function.update content
        (pageName key page format) (some bytes) (draftName tag (pageName key other format)) =
          none := by
      intro other mem
      rw [Function.update_of_ne (own other), draft_free other (by simp at mem ⊢; exact .inr mem)]
    obtain ⟨after, files', rest_run, rest_lists, rest_iff⟩ := ih distinct.2
      (fun other mem => admitted other (by simp at mem ⊢; exact .inr mem)) listed later_free
      later_draft_free
    refine ⟨after, files', ?_, rest_lists, ?_⟩
    · rw [List.flatMap_cons]
      refine runSteps_append_iff.mpr ⟨between, ?_, rest_run⟩
      exact (congrArg (runSteps here · files) (pageSteps_eq hk tag noSlash bytes page)).trans first_run
    · intro name found
      have first_iff : Function.update content (pageName key page format) (some bytes) name =
          some found ↔ content name = some found ∨ found = bytes ∧ name = pageName key page format := by
        by_cases same : name = pageName key page format
        · simp [same, free page (by simp), eq_comm]
        · simp [same]
      rw [rest_iff, first_iff]
      simp only [List.mem_cons, Prod.mk.injEq, or_and_right, exists_or, or_assoc]
      simp only [and_assoc, exists_and_left, exists_eq_left]

/-! ## Artifacts in a directory -/

/-- Whether a name and a content are those of a page of an artifact. -/
def IsPage (disk : Text → Option Artifact) (name : Text) (bytes : Bytes) : Prop :=
  ∃ key artifact page, disk key = some artifact ∧ (bytes, page) ∈ artifact.pages.zipIdx 1 ∧
    name = pageName key page artifact.format

/-- Whether an artifact can lie in the files of a directory: looking for any of its pages, and for
one page more, is not refused. -/
structure Storable (directory : Path) (key : Text) (artifact : Artifact) : Prop where
  isKey : IsKey key
  plain : artifact.IsPlain
  admitted : ∀ page ≤ artifact.pages.length + 1,
    FileTree.admits directory (pageName key page artifact.format) = true

/-- Whether there is a directory whose files are the pages of artifacts. -/
structure HoldsAt (directory : Path) (disk : Text → Option Artifact) (files : FileTree)
    (here place : Place) : Prop where
  storable : ∀ key artifact, disk key = some artifact → Storable directory key artifact
  files : ∃ content, Lists directory files here place content ∧
    ∀ name bytes, content name = some bytes ↔ IsPage disk name bytes

/-- No artifact at all. -/
def emptyDisk : Text → Option Artifact := fun _ => none

/-- Whether a directory is missing, and an empty one can be made. -/
def Missing (directory : Path) (host : Host) : Prop :=
  host.probeDirectory directory = .ok false ∧
    ∃ files place, host.files.ensureDirectories host.here directory = .ok files ∧
      HoldsAt directory emptyDisk files host.here place

/-- Whether a directory holds artifacts and nothing else: its files are their pages, or it is
missing and there is no artifact. -/
def Holds (directory : Path) (disk : Text → Option Artifact) (host : Host) : Prop :=
  (∃ place, HoldsAt directory disk host.files host.here place) ∨
    disk = emptyDisk ∧ Missing directory host

/-- Whether a directory holds after a change what it held before, and the tag of the temporary files
is the same. -/
structure Untouched (directory : Path) (before after : Host) : Prop where
  holds : ∀ disk, Holds directory disk before → Holds directory disk after
  tag : after.tag = before.tag

/-- A note leaves a directory alone. -/
theorem untouched_note (directory : Path) (host : Host) (level : Int) (message : Text) :
    Untouched directory host (host.note level message) := ⟨fun _ h => h, rfl⟩

namespace HoldsAt

variable {disk : Text → Option Artifact} {artifact : Artifact}

/-- The directory is there. -/
theorem way (h : HoldsAt directory disk files here place) :
    files.walk here directory = .ok place ∧ files.node? place = some .directory := by
  obtain ⟨content, lists, -⟩ := h.files
  exact ⟨lists.way, lists.found⟩

/-- What is in the directory is a page of an artifact. -/
theorem isPage_of_node? {name : Text} (h : HoldsAt directory disk files here place)
    (present : files.node? (place ++ [name]) ≠ none) : ∃ bytes, IsPage disk name bytes := by
  obtain ⟨content, lists, iff⟩ := h.files
  rw [lists.listed] at present
  cases found : content name with
  | none => exact absurd (by rw [found]; rfl) present
  | some bytes => exact ⟨bytes, (iff name bytes).mp found⟩

/-- A page of an artifact is in the directory. -/
theorem node?_page (h : HoldsAt directory disk files here place) (kept : disk key = some artifact)
    {bytes : Bytes} {page : Nat} (mem : (bytes, page) ∈ artifact.pages.zipIdx 1) :
    files.node? (place ++ [pageName key page artifact.format]) = some (.file bytes) := by
  obtain ⟨content, lists, iff⟩ := h.files
  rw [lists.listed, (iff _ bytes).mpr ⟨key, artifact, page, kept, mem, rfl⟩]
  rfl

/-- What has the name of a page of a key is a page of the artifact of that key. -/
theorem isPage_pageName {page : Nat} {bytes : Bytes} (h : HoldsAt directory disk files here place)
    (hk : IsKey key) (isPage : IsPage disk (pageName key page format) bytes) :
    ∃ artifact, disk key = some artifact ∧ (bytes, page) ∈ artifact.pages.zipIdx 1 ∧
      artifact.format = format := by
  obtain ⟨other, artifact, otherPage, kept, mem, same⟩ := isPage
  have stored := h.storable other artifact kept
  obtain ⟨rfl, rfl, formats⟩ := pageName_inj stored.isKey hk same.symm
  exact ⟨artifact, kept, mem, formats⟩

end HoldsAt

/-! ## Loading -/

section Loading

variable {disk : Text → Option Artifact} {artifact : Artifact}

/-- Loading an artifact that is not kept finds none. -/
theorem load_none (h : Holds directory disk host) (hk : IsKey key) (absent : disk key = none) :
    load directory key host = (.ok none, host) := by
  rcases h with ⟨place, at_place⟩ | ⟨-, missing⟩
  · refine load_absent hk at_place.way.1 at_place.way.2 fun format => ?_
    by_contra present
    obtain ⟨bytes, isPage⟩ := at_place.isPage_of_node? present
    obtain ⟨artifact, kept, -, -⟩ := at_place.isPage_pageName hk isPage
    rw [absent] at kept
    exact absurd kept (by simp)
  · unfold load
    rw [missing.1]

/-- Loading an artifact that is kept finds it, and notes it. -/
theorem load_some (h : Holds directory disk host) (kept : disk key = some artifact) :
    ∃ message, load directory key host = (.ok (some artifact), host.note 3 message) := by
  rcases h with ⟨place, at_place⟩ | ⟨nothing, -⟩
  · have stored := at_place.storable key artifact kept
    have page_of {page : Nat} {format : Text}
        (present : host.files.node? (place ++ [pageName key page format]) ≠ none) :
        ∃ bytes, (bytes, page) ∈ artifact.pages.zipIdx 1 ∧ artifact.format = format := by
      obtain ⟨bytes, isPage⟩ := at_place.isPage_of_node? present
      obtain ⟨other, other_kept, mem, format_eq⟩ := at_place.isPage_pageName stored.isKey isPage
      obtain rfl := Option.some.inj (kept.symm.trans other_kept)
      exact ⟨bytes, mem, format_eq⟩
    refine load_present stored.isKey stored.plain at_place.way.1 at_place.way.2 stored.admitted
      (fun format present => ?_) (fun i bytes at_i => ?_) ?_
    · obtain ⟨-, -, format_eq⟩ := page_of present
      exact format_eq.symm
    · exact at_place.node?_page kept
        (List.mem_zipIdx_iff_le_and_getElem?_sub.mpr ⟨by simp, by simpa using at_i⟩)
    · -- a page after the last would be one of the artifact
      by_contra present
      obtain ⟨bytes, mem, -⟩ := page_of present
      have beyond := (List.mem_zipIdx_iff_le_and_getElem?_sub.mp mem).2
      simp at beyond
  · rw [nothing] at kept
    exact absurd kept (by simp [emptyDisk])

end Loading

/-! ## Saving -/

section Saving

variable {disk : Text → Option Artifact} {artifact : Artifact}

/-- Why the file system refuses an artifact: it refuses the draft of its last page, which is written
first and has the longest name. -/
def refusal? (directory : Path) (tag key : Text) (artifact : Artifact) : Option FileError :=
  let draft := draftName tag (pageName key artifact.pages.length artifact.format)
  (FileTree.nameFault? directory draft).map fun fault => ⟨fault, (directory.entry draft).text⟩

/-- An artifact that is not refused has a draft of an admitted name. -/
theorem admits_of_refusal?_eq_none (h : refusal? directory tag key artifact = none) :
    FileTree.admits directory
      (draftName tag (pageName key artifact.pages.length artifact.format)) = true := by
  unfold refusal? at h
  rw [Option.map_eq_none_iff] at h
  unfold FileTree.admits
  rw [h]
  rfl

/-- Making a directory that is there changes nothing. -/
theorem ensureDirectories_eq (way : files.walk here directory = .ok place)
    (found : files.node? place = some .directory) :
    files.ensureDirectories here directory = .ok files := by
  have path_eq : (⟨directory.anchor, directory.names.reverse.reverse⟩ : Path) = directory := by
    rw [List.reverse_reverse]
  have refused : files.makeDirectory here directory = .error ⟨.alreadyExists, directory.text⟩ := by
    simp [FileTree.makeDirectory, way, found]
  have ensured : files.ensureDirectory here directory = .ok files := by
    simp [FileTree.ensureDirectory, refused, FileTree.isDirectory, FileTree.find?, way, found]
  unfold FileTree.ensureDirectories
  rw [FileTree.deepest]
  cases names : directory.names.reverse with
  | nil =>
    rw [names] at path_eq
    show files.ensureDirectory here ⟨directory.anchor, [].reverse⟩ = _
    rw [path_eq, ensured]
  | cons name above =>
    rw [names] at path_eq
    rw [FileTree.ensureDirectoriesFrom, path_eq, refused]
    exact ensured

/-- The steps that store an artifact that is not refused add its pages to the directory. -/
theorem HoldsAt.runSteps (h : HoldsAt directory disk files here place) (hk : IsKey key)
    (plain : artifact.IsPlain) (absent : disk key = none)
    (accepted : refusal? directory tag key artifact = none) :
    ∃ after, Store.runSteps here (steps directory tag key artifact) files = (.ok (), after) ∧
      HoldsAt directory (Function.update disk key (some artifact)) after here place := by
  have draft_admitted := admits_of_refusal?_eq_none accepted
  obtain ⟨content, lists, iff⟩ := h.files
  have numbers : (artifact.pages.zipIdx 1).reverse.map Prod.snd =
      (List.range' 1 artifact.pages.length).reverse := by
    rw [List.map_reverse, List.zipIdx_map_snd]
  have near {page : Nat} (mem : page ∈ (artifact.pages.zipIdx 1).reverse.map Prod.snd) :
      page ≤ artifact.pages.length := by
    rw [numbers, List.mem_reverse, List.mem_range'_1] at mem
    omega
  have free (page : Nat) : content (pageName key page artifact.format) = none := by
    refine Option.eq_none_iff_forall_ne_some.mpr fun bytes found => ?_
    obtain ⟨other, kept, -, -⟩ := h.isPage_pageName hk ((iff _ bytes).mp found)
    rw [absent] at kept
    exact absurd kept (by simp)
  have draft_free (name : Text) : content (draftName tag name) = none := by
    refine Option.eq_none_iff_forall_ne_some.mpr fun bytes found => ?_
    obtain ⟨other, kept, page, stored, -, same⟩ := (iff _ bytes).mp found
    exact draftName_ne_pageName tag name (h.storable other kept stored).isKey page kept.format same
  obtain ⟨after, files', run, lists', iff'⟩ := runSteps_pages tag hk plain.noSlash
    (by rw [numbers]; exact List.nodup_reverse.mpr List.nodup_range')
    (fun page mem => admits_draft hk (near mem) draft_admitted) lists
    (fun page _ => free page) (fun page _ => draft_free _)
  refine ⟨files', run, ?_, after, lists', ?_⟩
  · intro other kept found
    by_cases same : other = key
    · subst same
      rw [Function.update_self] at found
      obtain rfl := Option.some.inj found
      exact ⟨hk, plain, fun page near => admits_page hk near draft_admitted⟩
    · rw [Function.update_of_ne same] at found
      exact h.storable other kept found
  · intro name bytes
    rw [iff', iff]
    constructor
    · rintro (⟨other, kept, page, found, mem, rfl⟩ | ⟨page, mem, rfl⟩)
      · have differ : other ≠ key := by
          rintro rfl
          rw [absent] at found
          exact absurd found (by simp)
        exact ⟨other, kept, page, by rw [Function.update_of_ne differ, found], mem, rfl⟩
      · exact ⟨key, artifact, page, by simp, List.mem_reverse.mp mem, rfl⟩
    · rintro ⟨other, kept, page, found, mem, rfl⟩
      by_cases same : other = key
      · subst same
        rw [Function.update_self] at found
        obtain rfl := Option.some.inj found
        exact .inr ⟨page, List.mem_reverse.mpr mem, rfl⟩
      · rw [Function.update_of_ne same] at found
        exact .inl ⟨other, kept, page, found, mem, rfl⟩

/-- The steps that store a refused artifact fail at the first of them. -/
theorem HoldsAt.runSteps_refused {error : FileError}
    (h : HoldsAt directory disk files here place) (hk : IsKey key) (plain : artifact.IsPlain)
    (refused : refusal? directory tag key artifact = some error) :
    Store.runSteps here (steps directory tag key artifact) files = (.error error, files) := by
  obtain ⟨fault, name_fault, rfl⟩ := Option.map_eq_some_iff.mp refused
  obtain ⟨front, last, pages⟩ := List.eq_nil_or_concat' artifact.pages |>.resolve_left plain.pages
  have work : (artifact.pages.zipIdx 1).reverse =
      (last, artifact.pages.length) :: (front.zipIdx 1).reverse := by
    rw [pages, List.zipIdx_append, List.reverse_append, List.length_append]
    simp [Nat.add_comm]
  have way := FileTree.walk_entry h.way.1 h.way.2 (draftName_ne_parentName tag
    (pageName key artifact.pages.length artifact.format))
  rw [name_fault] at way
  unfold steps
  rw [work, List.flatMap_cons]
  simp only [pageSteps_eq hk tag plain.noSlash, List.cons_append]
  simp only [Store.runSteps, Step.apply, FileTree.write, FileTree.placeForFile, way]

/-- A directory that can be used is there after it was made. -/
theorem Holds.ensureDirectories (h : Holds directory disk host) :
    ∃ files place, host.ensureDirectories directory = (.ok (), host.withFiles files) ∧
      HoldsAt directory disk files host.here place := by
  rcases h with ⟨place, at_place⟩ | ⟨rfl, -, files, place, made, empty⟩
  · refine ⟨host.files, place, ?_, at_place⟩
    unfold Host.ensureDirectories
    rw [Host.change, ensureDirectories_eq at_place.way.1 at_place.way.2]
  · refine ⟨files, place, ?_, empty⟩
    unfold Host.ensureDirectories
    rw [Host.change, made]

/-- Saving an artifact that is not refused keeps it. -/
theorem save_eq (h : Holds directory disk host) (hk : IsKey key) (plain : artifact.IsPlain)
    (absent : disk key = none) (accepted : refusal? directory host.tag key artifact = none) :
    ∃ files, save directory key artifact host = (.ok (), host.withFiles files) ∧
      Holds directory (Function.update disk key (some artifact)) (host.withFiles files) := by
  obtain ⟨made, place, ensured, at_place⟩ := h.ensureDirectories
  obtain ⟨after, run, held⟩ := at_place.runSteps hk plain absent accepted
  refine ⟨after, ?_, .inl ⟨place, held⟩⟩
  have run' : runSteps (host.withFiles made).here
      (steps directory (host.withFiles made).tag key artifact) (host.withFiles made).files =
        (.ok (), after) := run
  unfold save
  rw [ensured]
  simp only [run']
  rfl

/-- Saving an artifact that is refused keeps nothing. -/
theorem save_refused {error : FileError} (h : Holds directory disk host) (hk : IsKey key)
    (plain : artifact.IsPlain) (refused : refusal? directory host.tag key artifact = some error) :
    ∃ files, save directory key artifact host = (.error error, host.withFiles files) ∧
      Holds directory disk (host.withFiles files) := by
  obtain ⟨made, place, ensured, at_place⟩ := h.ensureDirectories
  have run := at_place.runSteps_refused hk plain refused
  refine ⟨made, ?_, .inl ⟨place, at_place⟩⟩
  have run' : runSteps (host.withFiles made).here
      (steps directory (host.withFiles made).tag key artifact) (host.withFiles made).files =
        (.error error, made) := run
  unfold save
  rw [ensured]
  simp only [run']
  rfl

end Saving

end TypstFences.Store
