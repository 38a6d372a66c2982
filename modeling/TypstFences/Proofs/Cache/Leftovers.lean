import TypstFences.Proofs.Cache.Interruption
import TypstFences.Proofs.Cache.Saving

/-!
# Saving over leftovers

Saving puts the pages of an artifact under their numbers and leaves what the directory has under other
numbers and in other formats (`nodes_of_pages`). Loading reads on until a page is missing. So an artifact is
loaded as it was saved if and only if there was nothing under the number after its last page; and pages that
an earlier save left behind under this number and the following ones are taken for its own (`load_of_save`).
-/

set_option autoImplicit false

namespace TypstFences.Store

variable {directory : Path} {files after : FileTree} {here place : Place}
variable {tag key format : Text} {artifact : Artifact}

/-! ## What saving puts and what it leaves -/

/-- A page that is put into a directory is there, and all other pages are what they were. -/
theorem nodes_of_page {bytes : Bytes} {page : Nat} (hk : IsKey key) (noSlash : '/' ∉ format)
    (way : files.walk here directory = .ok place) (found : files.node? place = some .directory)
    (run : runSteps here (pageSteps directory tag key format bytes page) files = (.ok (), after))
    (other : Nat) (otherFormat : Text) :
    after.node? (place ++ [pageName key other otherFormat]) =
      if other = page ∧ otherFormat = format then some (.file bytes)
      else files.node? (place ++ [pageName key other otherFormat]) := by
  rw [pageSteps_eq hk tag noSlash] at run
  obtain ⟨old, new, old_found, new_found, rfl⟩ := runSteps_page_iff.mp run
  obtain ⟨rfl, -, -⟩ := placeForFile_entry way found (draftName_ne_parentName tag _) old_found
  obtain ⟨rfl, -, -⟩ :=
    placeForFile_entry way found (pageName_isName hk page noSlash).notParent new_found
  have differ := draftName_ne_pageName tag (pageName key page format) hk other otherFormat
  have same_iff : place ++ [pageName key other otherFormat] = place ++ [pageName key page format] ↔
      other = page ∧ otherFormat = format := by
    constructor
    · intro same
      exact (pageName_inj hk hk (by simpa using same)).2
    · rintro ⟨rfl, rfl⟩
      rfl
  -- the draft is not the file of a page
  rw [FileTree.node?_put _ _ _ (by simp), FileTree.node?_remove _ _ (by simp),
    FileTree.node?_put _ _ _ (by simp)]
  simp only [same_iff, List.append_cancel_left_eq, List.cons.injEq, and_true, differ.symm, if_false]

/-- Pages that are put into a directory under different numbers are there, and all other pages are what they
were. -/
theorem nodes_of_pages {work : List (Bytes × Nat)} (hk : IsKey key) (noSlash : '/' ∉ format)
    (distinct : (work.map Prod.snd).Nodup) :
    ∀ {files : FileTree}, files.walk here directory = .ok place →
      files.node? place = some .directory →
      runSteps here (pagesSteps directory tag key format work) files = (.ok (), after) →
      (∀ bytes page, (bytes, page) ∈ work →
        after.node? (place ++ [pageName key page format]) = some (.file bytes)) ∧
      ∀ other otherFormat, (otherFormat = format → other ∉ work.map Prod.snd) →
        after.node? (place ++ [pageName key other otherFormat]) =
          files.node? (place ++ [pageName key other otherFormat]) := by
  induction work with
  | nil =>
    intro files _ _ run
    obtain rfl := (Prod.mk.inj run).2
    exact ⟨by simp, fun _ _ _ => rfl⟩
  | cons entry work ih =>
    obtain ⟨bytes, page⟩ := entry
    intro files way found run
    rw [List.map_cons, List.nodup_cons] at distinct
    rw [pagesSteps, List.flatMap_cons] at run
    obtain ⟨between, first, rest⟩ := runSteps_append_iff.mp run
    have same := sameDirectories_of_page first
    have first_nodes := nodes_of_page hk noSlash way found first
    obtain ⟨put, kept⟩ := ih distinct.2 (same.walk.mpr way) ((same place).mpr found) rest
    constructor
    · intro content number mem
      rcases List.mem_cons.mp mem with entry | later
      · obtain ⟨rfl, rfl⟩ := Prod.mk.inj entry
        rw [kept number format fun _ => distinct.1, first_nodes, if_pos ⟨rfl, rfl⟩]
      · exact put content number later
    · intro other otherFormat apart
      rw [kept other otherFormat fun same mem => apart same (List.mem_cons_of_mem page mem), first_nodes,
        if_neg]
      rintro ⟨rfl, same⟩
      exact apart same List.mem_cons_self

/-- The numbers of the pages of an artifact. -/
theorem mem_numbers {page : Nat} : page ∈ (artifact.pages.zipIdx 1).reverse.map Prod.snd ↔
    1 ≤ page ∧ page ≤ artifact.pages.length := by
  rw [List.map_reverse, List.mem_reverse, List.zipIdx_map_snd, List.mem_range'_1]
  omega

/-! ## What is loaded -/

/-- Whether certain pages are left in a directory under the numbers from `start` on, and none after them,
where the file system admits to look for one. -/
structure Leftover (directory : Path) (key format : Text) (place : Place) (files : FileTree) (start : Nat)
    (more : List Bytes) : Prop where
  nodes : ∀ i bytes, more[i]? = some bytes →
    files.node? (place ++ [pageName key (start + i) format]) = some (.file bytes)
  missing : files.node? (place ++ [pageName key (start + more.length) format]) = none
  admitted : FileTree.admits directory (pageName key (start + more.length) format) = true

/-- What a directory has after an artifact was saved in which there was no first page of its key: the pages
under their numbers, and all else that it had for the key. -/
structure SavedOver (directory : Path) (key : Text) (artifact : Artifact) (here place : Place)
    (files after : FileTree) : Prop where
  way : after.walk here directory = .ok place
  found : after.node? place = some .directory
  put : ∀ i bytes, artifact.pages[i]? = some bytes →
    after.node? (place ++ [pageName key (1 + i) artifact.format]) = some (.file bytes)
  kept : ∀ page format, (format = artifact.format → page < 1 ∨ artifact.pages.length < page) →
    after.node? (place ++ [pageName key page format]) = files.node? (place ++ [pageName key page format])
  only : ∀ format, after.node? (place ++ [pageName key 1 format]) ≠ none → format = artifact.format
  admitted : ∀ page ≤ artifact.pages.length + 1,
    FileTree.admits directory (pageName key page artifact.format) = true

/-- The steps that save an artifact save it over what is there. -/
theorem savedOver_of_steps (hk : IsKey key) (plain : artifact.IsPlain)
    (way : files.walk here directory = .ok place) (found : files.node? place = some .directory)
    (free : ∀ format, files.node? (place ++ [pageName key 1 format]) = none)
    (run : runSteps here (steps directory tag key artifact) files = (.ok (), after)) :
    SavedOver directory key artifact here place files after := by
  have same : FileTree.SameDirectories files after := sameDirectories_of_pages run
  have distinct : ((artifact.pages.zipIdx 1).reverse.map Prod.snd).Nodup := by
    rw [List.map_reverse, List.zipIdx_map_snd]
    exact List.nodup_reverse.mpr List.nodup_range'
  obtain ⟨put, kept⟩ := nodes_of_pages hk plain.noSlash distinct way found run
  have kept' : ∀ page format, (format = artifact.format → page < 1 ∨ artifact.pages.length < page) →
      after.node? (place ++ [pageName key page format]) =
        files.node? (place ++ [pageName key page format]) := by
    intro page format apart
    refine kept page format fun same mem => ?_
    have inside := mem_numbers.mp mem
    have outside := apart same
    omega
  refine ⟨same.walk.mpr way, (same place).mpr found, fun i bytes at_i => ?_, kept', fun format present => ?_,
    fun page near => ?_⟩
  · exact put bytes (1 + i) (List.mem_reverse.mpr
      (List.mem_zipIdx_iff_le_and_getElem?_sub.mpr ⟨by simp, by simpa using at_i⟩))
  · by_contra differ
    exact present ((kept' 1 format fun same => absurd same differ).trans (free format))
  · -- the draft of the last page has the longest name
    have some_page : 1 ≤ artifact.pages.length := List.length_pos_of_ne_nil plain.pages
    obtain ⟨⟨old, draft_found⟩, -⟩ :=
      runSteps_pages_iff.mp ⟨after, run⟩ _ (mem_numbers.mpr ⟨some_page, Nat.le_refl _⟩)
    rw [pagePath_eq hk _ plain.noSlash, draftPath_entry] at draft_found
    exact admits_page hk near
      (placeForFile_entry way found (draftName_ne_parentName tag _) draft_found).2.2

namespace SavedOver

variable {host : Host} {before : FileTree}

/-- Pages that were left behind the last page of an artifact are loaded as its own. -/
theorem load_leftover (h : SavedOver directory key artifact host.here place before host.files)
    (hk : IsKey key) (plain : artifact.IsPlain) {more : List Bytes}
    (left : Leftover directory key artifact.format place before (artifact.pages.length + 1) more) :
    (load directory key host).1 = .ok (some ⟨artifact.pages ++ more, artifact.format⟩) := by
  have beyond (i : Nat) := h.kept (artifact.pages.length + 1 + i) artifact.format fun _ => .inr (by omega)
  have whole : (⟨artifact.pages ++ more, artifact.format⟩ : Artifact).IsPlain :=
    ⟨by simp [plain.pages], plain.format, plain.noDot, plain.noSlash⟩
  obtain ⟨message, loaded⟩ := load_present hk whole h.way h.found
    (fun page near => admits_earlier hk (by simp only [List.length_append] at near; omega) left.admitted)
    h.only
    (fun i bytes at_i => by
      by_cases inside : i < artifact.pages.length
      · exact h.put i bytes (by rwa [List.getElem?_append_left inside] at at_i)
      · have shifted : 1 + i = artifact.pages.length + 1 + (i - artifact.pages.length) := by omega
        rw [List.getElem?_append_right (by omega)] at at_i
        rw [shifted, beyond]
        exact left.nodes _ bytes at_i)
    (by
      have shifted : 1 + (artifact.pages ++ more).length =
          artifact.pages.length + 1 + more.length := by
        rw [List.length_append]
        omega
      rw [shifted, beyond, left.missing])
  rw [loaded]

/-- An artifact is loaded as it was saved if and only if nothing was left under the number after its last
page. -/
theorem load_iff (h : SavedOver directory key artifact host.here place before host.files)
    (hk : IsKey key) (plain : artifact.IsPlain) :
    (load directory key host).1 = .ok (some artifact) ↔
      before.node? (place ++ [pageName key (artifact.pages.length + 1) artifact.format]) = none := by
  have next := h.kept (artifact.pages.length + 1) artifact.format fun _ => .inr (Nat.lt_succ_self _)
  constructor
  · intro loaded
    -- reading has ended because the next page is missing, as there are fewer pages than nodes
    have fewer : artifact.pages.length < host.files.nodes.length + 1 :=
      Nat.lt_succ_of_le (length_le_of_pages hk h.put)
    have probed := FileTree.missing_of_pagesFrom (pages_of_load loaded) fewer
    rw [Nat.add_comm 1, pagePath_eq hk _ plain.noSlash, FileTree.probe_eq (FileTree.walk_entry_admitted h.way
      h.found (pageName_isName hk _ plain.noSlash).notParent (h.admitted _ (Nat.le_refl _))), next] at probed
    exact Except.ok.inj probed
  · intro missing
    have nothing : Leftover directory key artifact.format place before (artifact.pages.length + 1) [] :=
      ⟨by simp, missing, h.admitted _ (Nat.le_refl _)⟩
    have loaded := h.load_leftover hk plain nothing
    rwa [List.append_nil] at loaded

end SavedOver

/-- An artifact was saved in a directory that had no first page of its key, whatever else it had. Then another
cache on the directory loads it as it was saved if and only if there was nothing under the number after its
last page, in its format; and pages that were left there are loaded behind those that were saved. -/
theorem load_of_save (cache fresh : Cache) (directory : Path) (place : Place) (host saved : Host)
    (made : FileTree) (artifact : Artifact) (used : cache.directory = some directory)
    (reused : fresh.directory = some directory) (hk : IsKey key) (plain : artifact.IsPlain)
    (ensured : host.files.ensureDirectories host.here directory = .ok made)
    (way : made.walk host.here directory = .ok place)
    (free : ∀ format, made.node? (place ++ [pageName key 1 format]) = none)
    (done : cache.save key artifact host = (.ok (), saved)) :
    ((fresh.load key saved).1 = .ok (some artifact) ↔
        made.node? (place ++ [pageName key (artifact.pages.length + 1) artifact.format]) = none) ∧
      ∀ more, Leftover directory key artifact.format place made (artifact.pages.length + 1) more →
        (fresh.load key saved).1 = .ok (some ⟨artifact.pages ++ more, artifact.format⟩) := by
  simp only [Cache.save, Cache.load, used, reused] at done ⊢
  obtain ⟨made', files, ensured', run, rfl⟩ := save_iff.mp done
  obtain rfl := Except.ok.inj (ensured.symm.trans ensured')
  obtain ⟨place', way', found⟩ := FileTree.directory_of_ensureDirectories ensured
  obtain rfl := Except.ok.inj (way.symm.trans way')
  have stands : SavedOver directory key artifact (host.withFiles files).here place made
      (host.withFiles files).files := savedOver_of_steps hk plain way found free run
  exact ⟨stands.load_iff hk plain, fun more left => stands.load_leftover hk plain left⟩

/-! ## An interrupted save of more pages -/

/-- Three pages in a format with a usual name. -/
def threePages : Artifact := ⟨[[1], [2], [3]], "svg".toList⟩

/-- A host on which a save of three pages was interrupted after the last of them had its name. -/
def leftHost : Host :=
  (Attempt.run (Path.ofText cacheName) someKey threePages ⟨['1'], 2, none⟩ emptyCacheHost).2

/-- The files of a host with a third page left over. -/
theorem leftHost_files : leftHost.files = ⟨[([cacheName], .directory),
    ([cacheName] ++ [pageName someKey 3 threePages.format], .file [3])]⟩ := by
  decide +kernel

/-- The first page is not there. -/
theorem leftHost_free (format : Text) :
    leftHost.files.node? ([cacheName] ++ [pageName someKey 1 format]) = none := by
  have differ : pageName someKey 1 format ≠ pageName someKey 3 threePages.format := fun same =>
    absurd (pageName_inj someKey_isKey someKey_isKey same).2.1 (by decide)
  have apart : (pageName someKey 1 format == pageName someKey 3 threePages.format) = false :=
    beq_false_of_ne differ
  rw [leftHost_files]
  simp [FileTree.node?, List.lookup_cons, apart]

/-- The host after an artifact was saved over what was left. -/
def savedHost (artifact : Artifact) : Host :=
  ((Cache.new (some cacheName)).save someKey artifact leftHost).2

/-- The three pages are loaded when they are saved again, over the last of them. Two pages are loaded with the
third behind them. -/
theorem pages_saved_over_third :
    (∀ format, leftHost.files.node? ([cacheName] ++ [pageName someKey 1 format]) = none) ∧
      ((Cache.new (some cacheName)).load someKey (savedHost threePages)).1 = .ok (some threePages) ∧
      ((Cache.new (some cacheName)).load someKey (savedHost twoPages)).1 =
        .ok (some ⟨twoPages.pages ++ [[3]], twoPages.format⟩) := by
  have ensured : leftHost.files.ensureDirectories leftHost.here (Path.ofText cacheName) =
      .ok leftHost.files := by decide +kernel
  have way : leftHost.files.walk leftHost.here (Path.ofText cacheName) = .ok [cacheName] := by
    decide +kernel
  refine ⟨leftHost_free, ?_, ?_⟩
  · have saved : (Cache.new (some cacheName)).save someKey threePages leftHost =
        (.ok (), savedHost threePages) := Prod.ext (by decide +kernel) rfl
    obtain ⟨exact_iff, -⟩ := load_of_save (Cache.new (some cacheName)) (Cache.new (some cacheName))
      (Path.ofText cacheName) [cacheName] leftHost (savedHost threePages) leftHost.files threePages rfl rfl
      someKey_isKey ⟨by decide, by decide, by decide, by decide⟩ ensured way leftHost_free saved
    exact exact_iff.mpr (by rw [leftHost_files]; decide +kernel)
  · have saved : (Cache.new (some cacheName)).save someKey twoPages leftHost =
        (.ok (), savedHost twoPages) := Prod.ext (by decide +kernel) rfl
    obtain ⟨-, with_left⟩ := load_of_save (Cache.new (some cacheName)) (Cache.new (some cacheName))
      (Path.ofText cacheName) [cacheName] leftHost (savedHost twoPages) leftHost.files twoPages rfl rfl
      someKey_isKey ⟨by decide, by decide, by decide, by decide⟩ ensured way leftHost_free saved
    refine with_left [[3]] ⟨fun i bytes at_i => ?_, ?_, by decide +kernel⟩
    · obtain ⟨rfl, rfl⟩ : i = 0 ∧ bytes = [3] := by
        have only : i = 0 := by simpa using (List.getElem?_eq_some_iff.mp at_i).1
        subst only
        exact ⟨rfl, by simpa using at_i.symm⟩
      rw [leftHost_files]
      decide +kernel
    · rw [leftHost_files]
      decide +kernel

/-- Loading does not undo saving: what is left of an interrupted save of three pages is loaded behind the two
pages that were saved for the key afterwards, though there was no first page when they were saved. -/
theorem twoPages_loaded_as_three :
    IsKey someKey ∧ twoPages.IsPlain ∧
      (∀ format, leftHost.files.node? ([cacheName] ++ [pageName someKey 1 format]) = none) ∧
      ((Cache.new (some cacheName)).save someKey twoPages leftHost).1 = .ok () ∧
      ((Cache.new (some cacheName)).load someKey (savedHost twoPages)).1 ≠ .ok (some twoPages) := by
  refine ⟨someKey_isKey, ⟨by decide, by decide, by decide, by decide⟩, leftHost_free, ?_, ?_⟩ <;>
    decide +kernel

end TypstFences.Store
