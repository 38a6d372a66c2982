import Mathlib.Data.List.Nodup
import TypstFences.Proofs.Cache.Names

/-!
# What loading depends on

Loading the artifact of a key looks at the files of the directory that are named after the key, and
at nothing else. It finds the artifact whose pages these are (`load_present`), or nothing if there is no
first page (`load_absent`); a change that spares these files (`Spares`) leaves the outcome as it was
(`load_spared`). Files are read one after the other until one is missing, and since there are no more
of them than nodes in the tree, it does not matter how many one is ready to read (`pages_congr`).
-/

set_option autoImplicit false

namespace TypstFences

namespace FileTree

variable {tree changed : FileTree} {here place other : Place} {path : Nat → Path}

/-! ## Reading numbered files -/

/-- The same pages are read where the same is found and read under their paths. -/
theorem pagesFrom_congr
    (probes : ∀ page, changed.probe here (path page) = tree.probe here (path page))
    (contents : ∀ page, changed.content here (path page) = tree.content here (path page))
    (most : Nat) : ∀ start, changed.pagesFrom here path most start =
      tree.pagesFrom here path most start := by
  induction most with
  | zero => exact fun _ => rfl
  | succ most ih =>
    intro start
    rw [pagesFrom, pagesFrom, probes, contents, ih]

/-- Being ready to read more files makes no difference, if one of the first is missing. -/
theorem pagesFrom_enough {most more : Nat} :
    ∀ {start page : Nat}, start ≤ page → page < start + most → most ≤ more →
      (∀ node, tree.probe here (path page) ≠ .ok (some node)) →
        tree.pagesFrom here path more start = tree.pagesFrom here path most start := by
  induction most generalizing more with
  | zero => intro start page first last; omega
  | succ most ih =>
    intro start page first last enough missing
    obtain ⟨more, rfl⟩ : ∃ rest, more = rest + 1 := ⟨more - 1, by omega⟩
    rw [pagesFrom, pagesFrom]
    cases probed : tree.probe here (path start) with
    | error error => rfl
    | ok found =>
      cases found with
      | none => rfl
      | some node =>
        have later : start ≠ page := by
          rintro rfl
          exact missing node probed
        rw [ih (by omega) (by omega) (by omega) missing]

/-- Among as many files as a tree has nodes, and one more, one is missing. -/
theorem exists_missing {name : Nat → Text} (distinct : Function.Injective name)
    (held : ∀ page node, tree.probe here (path page) = .ok (some node) →
      tree.node? (place ++ [name page]) ≠ none) :
    ∃ page, 1 ≤ page ∧ page < 1 + (tree.nodes.length + 1) ∧
      ∀ node, tree.probe here (path page) ≠ .ok (some node) := by
  by_contra all
  have present : ∀ page, 1 ≤ page → page < 1 + (tree.nodes.length + 1) →
      tree.node? (place ++ [name page]) ≠ none := by
    intro page first last
    by_contra absent
    exact all ⟨page, first, last, fun node probed => held page node probed absent⟩
  have places : ((List.range' 1 (tree.nodes.length + 1)).map fun page =>
      place ++ [name page]).Nodup := by
    refine List.Nodup.map (fun first second same => distinct ?_) List.nodup_range'
    simpa using same
  have fewer : (List.map _ (List.range' 1 (tree.nodes.length + 1))).length ≤ tree.nodes.length :=
    length_le_of_nodup places fun found mem => by
      obtain ⟨page, listed, rfl⟩ := List.mem_map.mp mem
      rw [List.mem_range'_1] at listed
      exact ⟨by simp, present page listed.1 listed.2⟩
  rw [List.length_map, List.length_range'] at fewer
  omega

/-- Numbered files are read alike in trees that have the same of them. -/
theorem pages_congr (place : Place) (name : Nat → Text) (distinct : Function.Injective name)
    (held : ∀ page node, tree.probe here (path page) = .ok (some node) →
      tree.node? (place ++ [name page]) ≠ none)
    (nodes : ∀ page, changed.node? (place ++ [name page]) = tree.node? (place ++ [name page]))
    (probes : ∀ page, changed.probe here (path page) = tree.probe here (path page))
    (contents : ∀ page, changed.content here (path page) = tree.content here (path page)) :
    changed.pages here path = tree.pages here path := by
  have held' : ∀ page node, changed.probe here (path page) = .ok (some node) →
      changed.node? (place ++ [name page]) ≠ none := by
    intro page node probed
    rw [nodes]
    exact held page node ((probes page).symm.trans probed)
  obtain ⟨page, first, last, missing⟩ := exists_missing distinct held
  obtain ⟨page', first', last', missing'⟩ := exists_missing distinct held'
  let most := max tree.nodes.length changed.nodes.length + 1
  have enough : tree.pagesFrom here path most 1 = tree.pages here path :=
    pagesFrom_enough first last (by omega) missing
  have enough' : changed.pagesFrom here path most 1 = changed.pages here path :=
    pagesFrom_enough first' last' (by omega) missing'
  rw [← enough, ← enough', pagesFrom_congr probes contents]

/-! ## Names in a directory -/

/-- The name that a node has in a directory, if it is there. -/
theorem nameIn_eq_some {entry : Place × Node} {name : Text}
    (h : (if entry.1.dropLast = place then entry.1.getLast? else none) = some name) :
    entry.1 = place ++ [name] := by
  split at h
  · rename_i above
    obtain ⟨front, split⟩ := List.getLast?_eq_some_iff.mp h
    rw [split, List.dropLast_concat] at above
    rw [split, above]
  · exact absurd h (by simp)

/-- Names of a kind are listed alike after a node was put at a place without such a name. -/
theorem filter_namesIn_put {accepts : Text → Bool} (node : Node)
    (refused : ∀ name, other = place ++ [name] → accepts name = false) :
    ((tree.put other node).namesIn place).filter accepts = (tree.namesIn place).filter accepts := by
  obtain ⟨nodes⟩ := tree
  unfold namesIn put
  induction nodes with
  | nil =>
    rw [putNode, List.filterMap_cons]
    split
    · rfl
    · rename_i name found
      rw [List.filterMap_nil, List.filter_cons_of_neg (by
        rw [refused name (nameIn_eq_some found)]
        simp)]
  | cons entry nodes ih =>
    obtain ⟨old, oldNode⟩ := entry
    rw [putNode]
    split
    · rename_i same
      rw [same, List.filterMap_cons, List.filterMap_cons]
    · rw [List.filterMap_cons, List.filterMap_cons]
      split
      · exact ih
      · rw [List.filter_cons, List.filter_cons, ih]

/-- The names that are looked for stay the same when a file without such a name is removed. -/
theorem filter_namesIn_remove {accepts : Text → Bool}
    (refused : ∀ name, other = place ++ [name] → accepts name = false) :
    ((tree.remove other).namesIn place).filter accepts = (tree.namesIn place).filter accepts := by
  obtain ⟨nodes⟩ := tree
  unfold namesIn remove
  induction nodes with
  | nil => rfl
  | cons entry nodes ih =>
    by_cases same : entry.1 = other
    · rw [List.filter_cons_of_neg (by simp [same]), ih, List.filterMap_cons]
      split
      · rfl
      · rename_i name found
        rw [List.filter_cons_of_neg (by
          rw [refused name (same ▸ nameIn_eq_some found)]
          simp)]
    · rw [List.filter_cons_of_pos (by simpa using same), List.filterMap_cons, List.filterMap_cons]
      split
      · exact ih
      · rw [List.filter_cons, List.filter_cons, ih]

end FileTree

namespace Store

variable {directory : Path} {here place : Place} {files after : FileTree} {key other : Text}
variable {name format : Text}

/-! ## Files of a key -/

/-- Whether a name is that of a file of a key. -/
def Concerns (key name : Text) : Prop := ∃ page format, name = pageName key page format

/-- Names that the pattern of a key accepts are those of first pages. -/
theorem eq_pageName_of_accepts (h : GlobToken.accepts (firstPattern key) name = true) :
    ∃ format, name = pageName key 1 format := by
  unfold firstPattern at h
  rw [GlobToken.accepts_prefix, List.isPrefixOf_iff_prefix] at h
  obtain ⟨rest, rfl⟩ := h
  exact ⟨rest, firstPrefix_append key rest⟩

/-- The pages of one key do not concern another. -/
theorem not_concerns_pageName (hk : IsKey key) (other_key : IsKey other) (differ : other ≠ key)
    (page : Nat) (format : Text) : ¬Concerns key (pageName other page format) := by
  rintro ⟨_, _, same⟩
  exact differ (pageName_inj other_key hk same).1

/-- Drafts concern no key. -/
theorem not_concerns_draftName (hk : IsKey key) (tag name : Text) :
    ¬Concerns key (draftName tag name) := by
  rintro ⟨page, format, same⟩
  exact draftName_ne_pageName tag name hk page format same

/-- Whether a change of the files spares those of a key in the directory at a place, and all
directories. -/
structure Spares (key : Text) (place : Place) (files after : FileTree) : Prop where
  directories : FileTree.DirectoriesKept files after
  listing : (after.namesIn place).filter (GlobToken.accepts (firstPattern key)) =
    (files.namesIn place).filter (GlobToken.accepts (firstPattern key))
  nodes : ∀ page format, after.node? (place ++ [pageName key page format]) =
    files.node? (place ++ [pageName key page format])

namespace Spares

/-- Nothing is changed about a key where nothing is changed. -/
theorem refl (key : Text) (place : Place) (files : FileTree) : Spares key place files files :=
  ⟨fun _ h => h, rfl, fun _ _ => rfl⟩

/-- A key can be spared twice. -/
theorem trans {between : FileTree} (h : Spares key place files between)
    (h' : Spares key place between after) : Spares key place files after :=
  ⟨fun other found => h'.directories other (h.directories other found),
    h'.listing.trans h.listing, fun page format => (h'.nodes page format).trans (h.nodes page format)⟩

/-- A file with a name that is not of the key is put without touching those of the key. -/
theorem put (free : files.node? (place ++ [name]) ≠ some .directory) (clear : ¬Concerns key name)
    (bytes : Bytes) : Spares key place files (files.put (place ++ [name]) (.file bytes)) := by
  refine ⟨fun found there => ?_, FileTree.filter_namesIn_put _ fun found same => ?_,
    fun page format => ?_⟩
  · have differ : found ≠ place ++ [name] := by
      rintro rfl
      exact free there
    rw [FileTree.node?_put _ _ _ (by simp), if_neg differ, there]
  · obtain rfl : name = found := by simpa using same
    exact Bool.eq_false_iff.mpr fun accepted => clear ⟨1, eq_pageName_of_accepts accepted⟩
  · have differ : pageName key page format ≠ name := fun same => clear ⟨page, format, same.symm⟩
    rw [FileTree.node?_put _ _ _ (by simp), if_neg (by simpa using differ)]

/-- A file with a name that is not of the key is removed without touching those of the key. -/
theorem remove (free : files.node? (place ++ [name]) ≠ some .directory) (clear : ¬Concerns key name) :
    Spares key place files (files.remove (place ++ [name])) := by
  refine ⟨fun found there => ?_, FileTree.filter_namesIn_remove fun found same => ?_,
    fun page format => ?_⟩
  · have differ : found ≠ place ++ [name] := by
      rintro rfl
      exact free there
    rw [FileTree.node?_remove _ _ (by simp), if_neg differ, there]
  · obtain rfl : name = found := by simpa using same
    exact Bool.eq_false_iff.mpr fun accepted => clear ⟨1, eq_pageName_of_accepts accepted⟩
  · have differ : pageName key page format ≠ name := fun same => clear ⟨page, format, same.symm⟩
    rw [FileTree.node?_remove _ _ (by simp), if_neg (by simpa using differ)]

end Spares

/-! ## Loading -/

section Loading

variable {host : Host}

/-- A directory that is there is found. -/
theorem probeDirectory_eq (way : host.files.walk host.here directory = .ok place)
    (found : host.files.node? place = some .directory) :
    host.probeDirectory directory = .ok true := by
  unfold Host.probeDirectory
  rw [FileTree.probe_eq way, found]
  rfl

/-- Loading ends in an error of the file system, or because the key cannot stand in a pattern. -/
theorem load_error {error : PassError} (failed : (load directory key host).1 = .error error) :
    (∃ refused, error = .refusedFile refused) ∨
      ∃ fault, Glob.read (pageName key 1 ['*']) = .error fault ∧ error = .badPattern fault := by
  have formats : ∀ error, format? directory key host = .error error →
      (∃ refused, error = .refusedFile refused) ∨
        ∃ fault, Glob.read (pageName key 1 ['*']) = .error fault ∧ error = .badPattern fault := by
    intro error found
    unfold format? at found
    split at found
    · rename_i fault unread
      exact .inr ⟨fault, unread, (Except.error.inj found).symm⟩
    · split at found
      · exact .inl ⟨_, (Except.error.inj found).symm⟩
      · exact absurd found (by simp)
      · exact absurd found (by simp)
  unfold load at failed
  split at failed
  · exact .inl ⟨_, (Except.error.inj failed).symm⟩
  · exact absurd failed (by simp)
  · split at failed
    · rename_i found
      rw [← Except.error.inj failed]
      exact formats _ found
    · exact absurd failed (by simp)
    · split at failed
      · exact .inl ⟨_, (Except.error.inj failed).symm⟩
      · exact absurd failed (by simp)

/-- Where a directory has no first page of a key, loading finds nothing. -/
theorem load_absent (hk : IsKey key) (way : host.files.walk host.here directory = .ok place)
    (found : host.files.node? place = some .directory)
    (absent : ∀ format, host.files.node? (place ++ [pageName key 1 format]) = none) :
    load directory key host = (.ok none, host) := by
  have refused (name : Text) (present : host.files.node? (place ++ [name]) ≠ none) :
      GlobToken.accepts (firstPattern key) name = false := by
    refine Bool.eq_false_iff.mpr fun accepted => present ?_
    obtain ⟨format, rfl⟩ := eq_pageName_of_accepts accepted
    exact absent format
  have nothing := Glob.select_eq_nil way found refused
  unfold load
  rw [probeDirectory_eq way found, format?, read_firstPage hk]
  simp only [nothing]

/-- There are no more pages than nodes, as each has a place of its own. -/
theorem length_le_of_pages {contents : List Bytes} (hk : IsKey key)
    (nodes : ∀ i bytes, contents[i]? = some bytes →
      files.node? (place ++ [pageName key (1 + i) format]) = some (.file bytes)) :
    contents.length ≤ files.nodes.length := by
  have distinct : ((List.range contents.length).map fun i =>
      place ++ [pageName key (1 + i) format]).Nodup := by
    refine List.Nodup.map ?_ List.nodup_range
    intro i j same
    have names : pageName key (1 + i) format = pageName key (1 + j) format := by simpa using same
    have := (pageName_inj hk hk names).2.1
    omega
  have held : (List.map _ (List.range contents.length)).length ≤ files.nodes.length :=
    FileTree.length_le_of_nodup distinct (by
      intro found mem
      obtain ⟨i, inside, rfl⟩ := List.mem_map.mp mem
      have at_i := List.getElem?_eq_getElem (List.mem_range.mp inside)
      exact ⟨by simp, by rw [nodes i _ at_i]; simp⟩)
  rwa [List.length_map, List.length_range] at held

/-- The pages of an artifact are read back from their files, if looking for one page more is not
refused and finds nothing. -/
theorem pages_eq_of_nodes {contents : List Bytes} (hk : IsKey key) (noSlash : '/' ∉ format)
    (way : files.walk here directory = .ok place) (found : files.node? place = some .directory)
    (admitted : ∀ page ≤ contents.length + 1,
      FileTree.admits directory (pageName key page format) = true)
    (nodes : ∀ i bytes, contents[i]? = some bytes →
      files.node? (place ++ [pageName key (1 + i) format]) = some (.file bytes))
    (missing : files.node? (place ++ [pageName key (1 + contents.length) format]) = none) :
    files.pages here (fun page => pagePath directory key page format) = .ok contents := by
  have paths (page : Nat) : pagePath directory key page format =
      directory.entry (pageName key page format) := pagePath_eq hk page noSlash
  have walk (page : Nat) (near : page ≤ contents.length + 1) :
      files.walk here (directory.entry (pageName key page format)) =
        .ok (place ++ [pageName key page format]) :=
    FileTree.walk_entry_admitted way found (pageName_isName hk page noSlash).notParent
      (admitted page near)
  simp only [paths]
  refine FileTree.pagesFrom_eq ?_ ?_ ?_
  · intro i bytes at_i
    have inside := (List.getElem?_eq_some_iff.mp at_i).1
    exact ⟨_, walk (1 + i) (by omega), nodes i bytes at_i⟩
  · rw [FileTree.probe_eq (walk (1 + contents.length) (by omega)), missing]
  · exact Nat.le_succ_of_le (length_le_of_pages hk nodes)

/-- Where a directory has the pages of one artifact for a key, loading finds the artifact and notes
it. -/
theorem load_present {artifact : Artifact} (hk : IsKey key) (plain : artifact.IsPlain)
    (way : host.files.walk host.here directory = .ok place)
    (found : host.files.node? place = some .directory)
    (admitted : ∀ page ≤ artifact.pages.length + 1,
      FileTree.admits directory (pageName key page artifact.format) = true)
    (only : ∀ format, host.files.node? (place ++ [pageName key 1 format]) ≠ none →
      format = artifact.format)
    (nodes : ∀ i bytes, artifact.pages[i]? = some bytes →
      host.files.node? (place ++ [pageName key (1 + i) artifact.format]) = some (.file bytes))
    (missing : host.files.node?
      (place ++ [pageName key (1 + artifact.pages.length) artifact.format]) = none) :
    ∃ message, load directory key host = (.ok (some artifact), host.note 3 message) := by
  obtain ⟨first, others, pages⟩ := List.exists_cons_of_ne_nil plain.pages
  have present : host.files.node? (place ++ [pageName key 1 artifact.format]) ≠ none := by
    rw [nodes 0 first (by simp [pages])]
    simp
  have selected := Glob.select_eq_singleton way found present
    ((accepts_firstPage hk hk).mpr ⟨rfl, rfl⟩) (by
      intro name other_present accepted
      obtain ⟨format, rfl⟩ := eq_pageName_of_accepts accepted
      rw [only format other_present])
  have format_eq : format? directory key host = .ok (some artifact.format) := by
    unfold format?
    rw [read_firstPage hk]
    simp only [selected, format_of_suffix plain.format plain.noDot]
  unfold load
  rw [probeDirectory_eq way found, format_eq]
  simp only [pages_eq_of_nodes hk plain.noSlash way found admitted nodes missing]
  exact ⟨_, rfl⟩

/-- The pages of an artifact that was loaded are what is read from its files. -/
theorem pages_of_load {artifact : Artifact} (loaded : (load directory key host).1 = .ok (some artifact)) :
    host.files.pages host.here (fun page => pagePath directory key page artifact.format) =
      .ok artifact.pages := by
  unfold load at loaded
  split at loaded
  · exact absurd loaded (by simp)
  · exact absurd loaded (by simp)
  · split at loaded
    · exact absurd loaded (by simp)
    · exact absurd loaded (by simp)
    · split at loaded
      · exact absurd loaded (by simp)
      · rename_i pages read
        obtain rfl := Option.some.inj (Except.ok.inj loaded)
        exact read

/-- The files that could be the first page of a key, in order. -/
def firstFiles (directory : Path) (key : Text) (place : Place) (files : FileTree) : List Path :=
  (((files.namesIn place).filter (GlobToken.accepts (firstPattern key))).map
    directory.entry).eraseDups.mergeSort Path.le

/-- The format of a key is the one of its first page that is first in order. -/
theorem format?_eq_firstFiles (hk : IsKey key)
    (way : host.files.walk host.here directory = .ok place)
    (found : host.files.node? place = some .directory) :
    format? directory key host = .ok ((firstFiles directory key place host.files).head?.map
      fun path => path.suffix.dropWhile (· == '.')) := by
  unfold format?
  rw [read_firstPage hk]
  simp only [Glob.select_pattern way found]
  unfold firstFiles
  split <;> simp_all

/-- The format of the first file of a key has no slash, if no name in the directory has one. -/
theorem noSlash_of_firstFiles
    (names : ∀ name, files.node? (place ++ [name]) ≠ none → '/' ∉ name)
    {path : Path} (first : (firstFiles directory key place files).head? = some path) :
    '/' ∉ path.suffix.dropWhile (· == '.') := by
  have mem : path ∈ firstFiles directory key place files := List.mem_of_mem_head? first
  unfold firstFiles at mem
  rw [List.mem_mergeSort, List.mem_eraseDups] at mem
  obtain ⟨name, listed, rfl⟩ := List.mem_map.mp mem
  have clean := names name (FileTree.mem_namesIn.mp (List.mem_filter.mp listed).1)
  have ending : '/' ∉ (directory.entry name).suffix := by
    have tail : (name.reverse.takeWhile (· != '.')).reverse ⊆ name := fun c inside =>
      List.mem_reverse.mp ((List.takeWhile_prefix _).subset (List.mem_reverse.mp inside))
    rw [Path.suffix, Path.name_entry]
    show '/' ∉ if _ then [] else '.' :: (name.reverse.takeWhile (· != '.')).reverse
    split
    · simp
    · intro slash
      rcases List.mem_cons.mp slash with dot | slash
      · exact absurd dot (by decide)
      · exact clean (tail slash)
  exact fun slash => ending ((List.dropWhile_suffix _).subset slash)

/-- Reading the pages of a key has the same outcome after a change that spares its files. -/
theorem pages_spared (hk : IsKey key) (noSlash : '/' ∉ format)
    (way : files.walk here directory = .ok place) (found : files.node? place = some .directory)
    (spares : Spares key place files after) :
    after.pages here (fun page => pagePath directory key page format) =
      files.pages here fun page => pagePath directory key page format := by
  have way' := FileTree.walk_of_kept spares.directories way
  have found' := spares.directories place found
  have notParent (page : Nat) := (pageName_isName hk page noSlash).notParent
  -- each page has a file of its own in the directory, if it has one
  have same_walk (page : Nat) : after.walk here (pagePath directory key page format) =
      files.walk here (pagePath directory key page format) := by
    rw [pagePath_eq hk page noSlash, FileTree.walk_entry way found (notParent page),
      FileTree.walk_entry way' found' (notParent page)]
  have walk_place {page : Nat} {at_page : Place}
      (leads : files.walk here (pagePath directory key page format) = .ok at_page) :
      at_page = place ++ [pageName key page format] := by
    rw [pagePath_eq hk page noSlash, FileTree.walk_entry way found (notParent page)] at leads
    split at leads
    · exact (Except.ok.inj leads).symm
    · exact absurd leads (by simp)
  refine FileTree.pages_congr place (fun page => pageName key page format)
    (fun first second same => (pageName_inj hk hk same).2.1) ?_
    (fun page => spares.nodes page format) (fun page => ?_) (fun page => ?_)
  · intro page node probed
    unfold FileTree.probe at probed
    split at probed
    · rename_i at_page leads
      rw [← walk_place leads, Except.ok.inj probed]
      simp
    · exact absurd probed (by simp)
    · exact absurd probed (by simp)
  · unfold FileTree.probe
    rw [same_walk]
    split
    · rename_i at_page leads
      rw [walk_place leads, spares.nodes]
    · rfl
    · rfl
  · unfold FileTree.content
    rw [same_walk]
    split
    · rfl
    · rename_i at_page leads
      rw [walk_place leads, spares.nodes]

/-- Loading has the same outcome after a change that spares the files of the key. -/
theorem load_spared (hk : IsKey key) (way : host.files.walk host.here directory = .ok place)
    (found : host.files.node? place = some .directory)
    (names : ∀ name, host.files.node? (place ++ [name]) ≠ none → '/' ∉ name)
    {changed : Host} (here_eq : changed.here = host.here)
    (spares : Spares key place host.files changed.files) :
    (load directory key changed).1 = (load directory key host).1 := by
  have way' : changed.files.walk changed.here directory = .ok place := by
    rw [here_eq]
    exact FileTree.walk_of_kept spares.directories way
  have found' := spares.directories place found
  have same_first : firstFiles directory key place changed.files =
      firstFiles directory key place host.files := by
    rw [firstFiles, spares.listing, firstFiles]
  unfold load
  rw [probeDirectory_eq way found, probeDirectory_eq way' found', format?_eq_firstFiles hk way found,
    format?_eq_firstFiles hk way' found', same_first]
  cases first : (firstFiles directory key place host.files).head? with
  | none => rfl
  | some path =>
    have same_pages := pages_spared hk (noSlash_of_firstFiles names first) way found spares
    simp only [Option.map_some, here_eq, same_pages]
    cases host.files.pages host.here fun page =>
      pagePath directory key page (path.suffix.dropWhile (· == '.')) <;> rfl

end Loading

end Store

end TypstFences
