import Mathlib.Data.List.Perm.Subperm
import TypstFences.Files.Tree
import TypstFences.Proofs.Association
import TypstFences.Proofs.Files.Path

/-!
# The files of a tree

What operations on a tree of files do is told by what is at each place afterwards. A file in a
directory is reached through the place of the directory (`walk_entry`), if the file system admits
its name (`admits`); the way to a directory stays the same as long as directories stay directories
(`walk_of_kept`). Numbered pages are read up to the first that is missing (`pagesFrom_eq`).
-/

set_option autoImplicit false

namespace TypstFences

namespace FileTree

variable {tree changed : FileTree} {here place other : Place} {path directory : Path} {name : Text}

/-! ## What is at a place -/

/-- The nodes after one was put at a place. -/
theorem lookup_putNode (place other : Place) (node : Node) (nodes : List (Place × Node)) :
    (putNode place node nodes).lookup other =
      if other = place then some node else nodes.lookup other := by
  induction nodes with
  | nil => by_cases h : other = place <;> simp [putNode, h]
  | cons entry nodes ih =>
    obtain ⟨old, oldNode⟩ := entry
    unfold putNode
    split
    · rename_i same
      subst same
      by_cases h : other = old
      · simp [h]
      · rw [if_neg h, lookup_cons_of_ne _ _ h, lookup_cons_of_ne _ _ h]
    · rename_i differ
      by_cases h : other = old
      · simp [h, differ]
      · rw [lookup_cons_of_ne _ _ h, lookup_cons_of_ne _ _ h, ih]

/-- What is at a place after a node was put at one. -/
theorem node?_put (place other : Place) (node : Node) (inside : place ≠ []) :
    (tree.put place node).node? other = if other = place then some node else tree.node? other := by
  rw [node?, node?, put, lookup_putNode]
  cases other with
  | nil => simp [inside.symm]
  | cons c others => simp

/-- What is at a place after what was at one has gone. -/
theorem node?_remove (place other : Place) (inside : place ≠ []) :
    (tree.remove place).node? other = if other = place then none else tree.node? other := by
  rw [node?, node?, remove, lookup_filter_ne]
  cases other with
  | nil => simp [inside.symm]
  | cons c others => simp

/-- What is at a place after a directory and all in it has gone. -/
theorem node?_removeAll (inside : place ≠ []) :
    (tree.removeAll place).node? other = if place <+: other then none else tree.node? other := by
  have kept := lookup_filter_key (fun entry => !place.isPrefixOf entry) other tree.nodes
  rw [node?, node?, removeAll]
  cases other with
  | nil => simp [inside]
  | cons name names =>
    have isInside : (name :: names).isEmpty = false := rfl
    simp only [isInside, kept]
    by_cases within : place <+: name :: names
    · simp only [List.isPrefixOf_iff_prefix.mpr within, within]
      rfl
    · have apart : place.isPrefixOf (name :: names) = false :=
        Bool.eq_false_iff.mpr fun inPlace => within (List.isPrefixOf_iff_prefix.mp inPlace)
      simp only [apart, within]
      rfl

/-- The names in a directory are those of the places that hold something. -/
theorem mem_namesIn : name ∈ tree.namesIn place ↔ tree.node? (place ++ [name]) ≠ none := by
  rw [node?, if_neg (by simp), ← Option.isSome_iff_ne_none, List.lookup_isSome_iff, namesIn,
    List.mem_filterMap]
  constructor
  · rintro ⟨⟨at_, node⟩, mem, h⟩
    simp only at h
    split at h
    · rename_i above
      obtain ⟨front, split⟩ := List.getLast?_eq_some_iff.mp h
      subst split
      rw [List.dropLast_concat] at above
      exact ⟨_, mem, by simp [above]⟩
    · exact absurd h (by simp)
  · rintro ⟨entry, mem, same⟩
    refine ⟨entry, mem, ?_⟩
    rw [← eq_of_beq same]
    simp

/-- Places that hold something are no more than the nodes of the tree. -/
theorem length_le_of_nodup {places : List Place} (distinct : places.Nodup)
    (held : ∀ place ∈ places, place ≠ [] ∧ tree.node? place ≠ none) :
    places.length ≤ tree.nodes.length := by
  have listed : places ⊆ tree.nodes.map Prod.fst := by
    intro place mem
    obtain ⟨inside, found⟩ := held place mem
    rw [node?, if_neg (by simpa using inside), ← Option.isSome_iff_ne_none,
      List.lookup_isSome_iff] at found
    obtain ⟨entry, entry_mem, same⟩ := found
    exact List.mem_map.mpr ⟨entry, entry_mem, (eq_of_beq same).symm⟩
  have fewer := (List.subperm_of_subset distinct listed).length_le
  rwa [List.length_map] at fewer

/-! ## The way to a place -/

/-- Whether every directory of a tree is one after a change. -/
def DirectoriesKept (tree changed : FileTree) : Prop :=
  ∀ place, tree.node? place = some .directory → changed.node? place = some .directory

/-- A way that leads through directories leads there as long as they are directories. -/
theorem walkFrom_of_kept (kept : DirectoriesKept tree changed) {names : List Text} :
    ∀ {start : Place}, tree.walkFrom start names = .ok place →
      changed.walkFrom start names = .ok place := by
  induction names with
  | nil => exact fun h => h
  | cons name names ih =>
    intro start h
    unfold walkFrom at h ⊢
    split at h
    · rename_i found
      rw [kept _ found]
      split at h
      · exact absurd h (by simp)
      · rename_i fits
        simp only [fits]
        exact ih h
    · exact absurd h (by simp)
    · exact absurd h (by simp)

/-- A path leads to the same place as long as directories stay directories. -/
theorem walk_of_kept (kept : DirectoriesKept tree changed) (h : tree.walk here path = .ok place) :
    changed.walk here path = .ok place := by
  unfold walk at h ⊢
  split at h
  · exact absurd h (by simp)
  · split at h
    · exact absurd h (by simp)
    · rename_i clean fits
      rw [if_neg clean, if_neg fits]
      exact walkFrom_of_kept kept h

/-- A way in two parts. -/
theorem walkFrom_append {names : List Text} (others : List Text) :
    ∀ {start : Place}, tree.walkFrom start names = .ok place →
      tree.walkFrom start (names ++ others) = tree.walkFrom place others := by
  induction names with
  | nil =>
    intro start h
    obtain rfl := Except.ok.inj h
    rfl
  | cons first names ih =>
    intro start h
    unfold walkFrom at h
    rw [List.cons_append, walkFrom]
    split at h
    · rename_i found
      split at h
      · exact absurd h (by simp)
      · rename_i fits
        simp only [fits]
        exact ih h
    · exact absurd h (by simp)
    · exact absurd h (by simp)

/-- Why the file system refuses a name in a directory: there is a NUL character in it, or it has
more than 255 bytes, or its path more than 4095. -/
def nameFault? (directory : Path) (name : Text) : Option FileFault :=
  if name.contains '\x00' then some .nulCharacter
  else if nameFits name && pathFits (directory.entry name) then none
  else some .nameTooLong

/-- Whether the file system admits a name in a directory. -/
def admits (directory : Path) (name : Text) : Bool := (nameFault? directory name).isNone

/-- What is needed of a name in a directory to be admitted. -/
theorem admits_iff : admits directory name = true ↔
    '\x00' ∉ name ∧ byteCount name ≤ 255 ∧ byteCount (directory.entry name).text ≤ 4095 := by
  unfold admits
  rw [nameFault?]
  by_cases clean : name.contains '\x00'
  · simp_all
  · by_cases fits : nameFits name && pathFits (directory.entry name) <;>
      simp_all [nameFits, pathFits]

/-- The bytes of two texts one after the other. -/
@[simp] theorem byteCount_append (first second : Text) :
    byteCount (first ++ second) = byteCount first + byteCount second := by
  unfold byteCount
  induction first with
  | nil => simp
  | cons c first ih =>
    rw [List.cons_append, List.foldr_cons, List.foldr_cons, ih, Nat.add_assoc]

/-- A name is admitted where a longer name is. -/
theorem admits_of_le {longer : Text} (admitted : admits directory longer = true)
    (clean : '\x00' ∉ name) (shorter : byteCount name ≤ byteCount longer) :
    admits directory name = true := by
  obtain ⟨-, fits, pathFits⟩ := admits_iff.mp admitted
  rw [Path.text_entry, byteCount_append] at pathFits
  refine admits_iff.mpr ⟨clean, by omega, ?_⟩
  rw [Path.text_entry, byteCount_append]
  omega

/-- A directory that can be used has no NUL character in its path. -/
theorem names_clean_of_walk (h : tree.walk here directory = .ok place) :
    directory.names.any (·.contains '\x00') = false := by
  unfold walk at h
  split at h
  · exact absurd h (by simp)
  · rename_i clean
    simpa using clean

/-- A directory that can be used is found by its names. -/
theorem walkFrom_of_walk (h : tree.walk here directory = .ok place) :
    tree.walkFrom (if directory.isAbsolute then [] else here) directory.names = .ok place := by
  unfold walk at h
  split at h
  · exact absurd h (by simp)
  · split at h
    · exact absurd h (by simp)
    · exact h

/-- The way to a file in a directory ends at the place of the directory with its name added, unless
the name is refused. -/
theorem walk_entry (h : tree.walk here directory = .ok place)
    (found : tree.node? place = some .directory) (plain : name ≠ Path.parentName) :
    tree.walk here (directory.entry name) =
      match nameFault? directory name with
      | none => .ok (place ++ [name])
      | some fault => .error fault := by
  have way : tree.walkFrom (if directory.isAbsolute then [] else here) (directory.names ++ [name]) =
      tree.walkFrom place [name] := walkFrom_append [name] (walkFrom_of_walk h)
  have last : tree.walkFrom place [name] =
      if nameFits name then .ok (place ++ [name]) else .error .nameTooLong := by
    by_cases fits : nameFits name <;> simp [walkFrom, found, fits, plain]
  have all_clean : (directory.names ++ [name]).any (·.contains '\x00') = name.contains '\x00' := by
    rw [List.any_append, names_clean_of_walk h]
    simp
  unfold walk
  rw [nameFault?]
  show (if (directory.names ++ [name]).any (·.contains '\x00') = true then _ else
    if (!pathFits (directory.entry name)) = true then _ else
      tree.walkFrom (if directory.isAbsolute then [] else here) (directory.names ++ [name])) = _
  rw [all_clean, way, last]
  cases name.contains '\x00' with
  | true => rfl
  | false => cases nameFits name <;> cases pathFits (directory.entry name) <;> rfl

/-- The way to a file in a directory whose name is admitted. -/
theorem walk_entry_admitted (h : tree.walk here directory = .ok place)
    (found : tree.node? place = some .directory) (plain : name ≠ Path.parentName)
    (admitted : admits directory name = true) :
    tree.walk here (directory.entry name) = .ok (place ++ [name]) := by
  rw [walk_entry h found plain, Option.isNone_iff_eq_none.mp admitted]

/-! ## Files -/

/-- A file that is written where no directory is. -/
theorem write_eq (content : Bytes) (way : tree.walk here path = .ok place)
    (free : tree.node? place ≠ some .directory) :
    tree.write here path content = .ok (tree.put place (.file content)) := by
  simp [write, placeForFile, way, isDirectoryAt, free]

/-- A file that is moved to where no directory is. -/
theorem rename_eq {source target : Path} {old : Place} {content : Bytes}
    (from_ : tree.walk here source = .ok old) (found : tree.node? old = some (.file content))
    (to_ : tree.walk here target = .ok place) (free : tree.node? place ≠ some .directory) :
    tree.rename here source target = .ok ((tree.remove old).put place (.file content)) := by
  simp [rename, FileTree.content, placeForFile, from_, found, to_, isDirectoryAt, free]

/-- What one finds at a path that leads somewhere. -/
theorem probe_eq (way : tree.walk here path = .ok place) :
    tree.probe here path = .ok (tree.node? place) := by
  simp [probe, way]

/-- What is found at a path is where it leads. -/
theorem probe_eq_some {node : Node} (found : tree.probe here path = .ok (some node)) :
    ∃ place, tree.walk here path = .ok place ∧ tree.node? place = some node := by
  unfold probe at found
  split at found
  · rename_i place way
    exact ⟨place, way, Except.ok.inj found⟩
  · exact absurd found (by simp)
  · exact absurd found (by simp)

/-- One may look for all names but those that are too long. -/
theorem fault_of_probe {error : FileError} (refused : tree.probe here path = .error error) :
    error.fault = .nameTooLong := by
  unfold probe at refused
  split at refused
  · exact absurd refused (by simp)
  · rw [← Except.error.inj refused]
  · exact absurd refused (by simp)

/-- The content of a file at the end of a path. -/
theorem content_eq {content : Bytes} (way : tree.walk here path = .ok place)
    (found : tree.node? place = some (.file content)) : tree.content here path = .ok content := by
  simp [FileTree.content, way, found]

/-- Whether the file at a path has a content. -/
def HasFile (tree : FileTree) (here : Place) (path : Path) (content : Bytes) : Prop :=
  ∃ place, tree.walk here path = .ok place ∧ tree.node? place = some (.file content)

/-- Numbered files are read up to the first that is missing. -/
theorem pagesFrom_eq {path : Nat → Path} {contents : List Bytes} :
    ∀ {most start : Nat},
      (∀ i content, contents[i]? = some content → tree.HasFile here (path (start + i)) content) →
      tree.probe here (path (start + contents.length)) = .ok none → contents.length ≤ most →
      tree.pagesFrom here path most start = .ok contents := by
  induction contents with
  | nil =>
    intro most start _ missing _
    cases most with
    | zero => rfl
    | succ most =>
      unfold pagesFrom
      rw [List.length_nil, Nat.add_zero] at missing
      rw [missing]
  | cons content contents ih =>
    intro most start files missing enough
    cases most with
    | zero => simp at enough
    | succ most =>
      obtain ⟨place, way, found⟩ := files 0 content rfl
      have others : ∀ i c, contents[i]? = some c → tree.HasFile here (path (start + 1 + i)) c := by
        intro i c hc
        have := files (i + 1) c (by simpa using hc)
        rwa [← Nat.add_assoc, Nat.add_right_comm] at this
      have missing' : tree.probe here (path (start + 1 + contents.length)) = .ok none := by
        rwa [List.length_cons, ← Nat.add_assoc, Nat.add_right_comm] at missing
      rw [Nat.add_zero] at way
      unfold pagesFrom
      rw [probe_eq way, found]
      simp only [content_eq way found, ih others missing' (by simpa using enough)]

/-- Fewer files than one is ready to read are read because the next is missing. -/
theorem missing_of_pagesFrom {path : Nat → Path} {contents : List Bytes} :
    ∀ {most start : Nat}, tree.pagesFrom here path most start = .ok contents → contents.length < most →
      tree.probe here (path (start + contents.length)) = .ok none := by
  induction contents with
  | nil =>
    intro most start read more
    obtain ⟨most, rfl⟩ := Nat.exists_eq_succ_of_ne_zero (Nat.ne_of_gt more)
    unfold pagesFrom at read
    split at read
    · exact absurd read (by simp)
    · rename_i missing
      exact missing
    · split at read
      · exact absurd read (by simp)
      · split at read <;> exact absurd read (by simp)
  | cons content contents ih =>
    intro most start read more
    obtain ⟨most, rfl⟩ := Nat.exists_eq_succ_of_ne_zero (Nat.ne_of_gt (Nat.zero_lt_of_lt more))
    rw [List.length_cons] at more ⊢
    unfold pagesFrom at read
    split at read
    · exact absurd read (by simp)
    · exact absurd read (by simp)
    · split at read
      · exact absurd read (by simp)
      · split at read
        · rename_i others others_read
          obtain ⟨-, rfl⟩ := List.cons.inj (Except.ok.inj read)
          have missing := ih others_read (by omega)
          rwa [Nat.add_right_comm, Nat.add_assoc] at missing
        · exact absurd read (by simp)

end FileTree

end TypstFences
