import TypstFences.Proofs.Files.Images

/-!
# Edits of file trees

Operations on files come down to edits of single places: a directory is made where nothing is, and a file is
written or removed where no directory is. A tree that was edited (`FileTree.Edited`) has all its directories
still, and is the same but at the places of the edits. Which places these are is told by the paths that
operations are asked for, as there is one place only that a path can lead to (`FileTree.resolve_of_walk`).
-/

set_option autoImplicit false

namespace TypstFences

/-! ## Where paths lead -/

/-- Whether a path that is used in a place leads to another place, or through it. -/
def Path.Passes (here : Place) (path : Path) (place : Place) : Prop :=
  ∃ names, names <+: path.names ∧ Path.resolve here ⟨path.anchor, names⟩ = place

namespace FileTree

variable {tree changed after : FileTree} {here place : Place} {path : Path} {content : Bytes}

/-- A walk that comes to a place comes to where its names lead. -/
theorem resolveFrom_of_walkFrom {names : List Text} :
    ∀ {start : Place}, tree.walkFrom start names = .ok place →
      names.foldl (fun place name => if name = Path.parentName then place.dropLast else place ++ [name])
        start = place := by
  induction names with
  | nil => exact fun way => Except.ok.inj way
  | cons name names ih =>
    intro start way
    rw [walkFrom] at way
    split at way
    · split at way
      · exact absurd way (by simp)
      · exact ih way
    · exact absurd way (by simp)
    · exact absurd way (by simp)

/-- A path leads to one place, if it leads anywhere. -/
theorem resolve_of_walk (way : tree.walk here path = .ok place) : path.resolve here = place :=
  resolveFrom_of_walkFrom (walkFrom_of_walk way)

/-- A name that is too long stays so while directories are kept. -/
theorem walkFrom_tooLong (kept : DirectoriesKept tree changed) {names : List Text} :
    ∀ {start : Place}, tree.walkFrom start names = .error .nameTooLong →
      changed.walkFrom start names = .error .nameTooLong := by
  induction names with
  | nil => exact fun way => absurd way (by simp [walkFrom])
  | cons name names ih =>
    intro start way
    unfold walkFrom at way ⊢
    split at way
    · rename_i found
      rw [kept _ found]
      split at way
      · rename_i long
        simp only [long, if_true]
      · rename_i fits
        simp only [fits]
        exact ih way
    · exact absurd way (by simp)
    · exact absurd way (by simp)

/-- A name on the way that is too long remains so. -/
theorem walk_tooLong (kept : DirectoriesKept tree changed)
    (way : tree.walk here path = .error .nameTooLong) :
    changed.walk here path = .error .nameTooLong := by
  unfold walk at way ⊢
  split at way
  · exact absurd way (by simp)
  · rename_i clean
    rw [if_neg clean]
    split at way
    · rename_i long
      rw [if_pos long]
    · rename_i fits
      rw [if_neg fits]
      exact walkFrom_tooLong kept way

end FileTree

/-! ## Edits -/

/-- A change of a file tree at one place. -/
inductive Edit where
  | directory (place : Place)
  | file (place : Place) (content : Bytes)
  | removal (place : Place)

namespace Edit

variable {tree : FileTree} {edit : Edit}

/-- The place that an edit changes. -/
def place : Edit → Place
  | .directory place => place
  | .file place _ => place
  | .removal place => place

/-- What an edit leaves at its place. -/
def node? : Edit → Option Node
  | .directory _ => some .directory
  | .file _ content => some (.file content)
  | .removal _ => none

/-- Whether an edit fits a tree: it does not replace or remove a directory, and a directory does not
replace anything. -/
def Fits (tree : FileTree) : Edit → Prop
  | .directory place => tree.node? place = none
  | .file place _ => tree.node? place ≠ some .directory
  | .removal place => tree.node? place ≠ some .directory

/-- The tree after an edit. -/
def apply (tree : FileTree) : Edit → FileTree
  | .directory place => tree.put place .directory
  | .file place content => tree.put place (.file content)
  | .removal place => tree.remove place

/-- An edit that fits does not put a file in the place of a directory. -/
theorem Fits.free (fits : edit.Fits tree) : tree.node? edit.place ≠ some .directory := by
  cases edit with
  | directory found =>
    have nothing : tree.node? found = none := fits
    rw [place, nothing]
    simp
  | file place content => exact fits
  | removal place => exact fits

/-- An edit that fits changes what is in its place and nothing else. -/
theorem Fits.node?_apply (fits : edit.Fits tree) (other : Place) :
    (edit.apply tree).node? other = if other = edit.place then edit.node? else tree.node? other := by
  have inside := FileTree.ne_nil_of_node? fits.free
  cases edit with
  | directory place => exact FileTree.node?_put _ _ _ inside
  | file place content => exact FileTree.node?_put _ _ _ inside
  | removal place => exact FileTree.node?_remove _ _ inside

end Edit

namespace FileTree

variable {tree changed after : FileTree} {here place : Place} {path : Path} {content : Bytes}
variable {edits more : Edit → Prop}

/-- Whether a tree comes of another one by edits of some kind. -/
inductive Edited (edits : Edit → Prop) : FileTree → FileTree → Prop
  | refl (tree : FileTree) : Edited edits tree tree
  | edit {tree after : FileTree} {edit : Edit} (mem : edits edit) (fits : edit.Fits tree)
      (rest : Edited edits (edit.apply tree) after) : Edited edits tree after

namespace Edited

/-- A tree is edited by one edit that fits. -/
theorem one {edit : Edit} (mem : edits edit) (fits : edit.Fits tree) :
    Edited edits tree (edit.apply tree) := .edit mem fits (.refl _)

/-- Edits can follow one another. -/
theorem trans (h : Edited edits tree changed) (h' : Edited edits changed after) :
    Edited edits tree after := by
  induction h with
  | refl => exact h'
  | edit mem fits _ ih => exact .edit mem fits (ih h')

/-- Edits are among more of them. -/
theorem mono (h : Edited edits tree after) (among : ∀ edit, edits edit → more edit) :
    Edited more tree after := by
  induction h with
  | refl tree => exact .refl tree
  | edit mem fits _ ih => exact .edit (among _ mem) fits ih

/-- Edits keep all directories. -/
theorem kept (h : Edited edits tree after) : DirectoriesKept tree after := by
  induction h with
  | refl => exact fun _ there => there
  | @edit tree after edit mem fits _ ih =>
    intro place there
    have differ : place ≠ edit.place := fun same => fits.free (same ▸ there)
    apply ih
    rw [fits.node?_apply, if_neg differ, there]

/-- What is at a place that is not edited stays. -/
theorem node?_eq (h : Edited edits tree after) (apart : ∀ edit, edits edit → edit.place ≠ place) :
    after.node? place = tree.node? place := by
  induction h with
  | refl => rfl
  | edit mem fits _ ih => rw [ih, fits.node?_apply, if_neg (apart _ mem).symm]

/-- What is at a place after edits was there before, or there was an edit. -/
theorem place_of_node? (h : Edited edits tree after) (there : after.node? place ≠ none) :
    tree.node? place ≠ none ∨ ∃ edit, edits edit ∧ edit.place = place := by
  by_contra neither
  obtain ⟨nothing, apart⟩ := not_or.mp neither
  refine there ((h.node?_eq fun edit mem same => apart ⟨edit, mem, same⟩).trans ?_)
  exact not_not.mp nothing

/-- A file stays, if none but itself is written in its place and it is not removed. No directory is made where
it is. -/
theorem file_stays (h : Edited edits tree after) (there : tree.node? place = some (.file content))
    (same : ∀ edit, edits edit → edit.place = place →
      edit = .directory place ∨ edit = .file place content) :
    after.node? place = some (.file content) := by
  induction h with
  | refl => exact there
  | @edit tree after edit mem fits _ ih =>
    apply ih
    rw [fits.node?_apply]
    split
    · rename_i place_eq
      rcases same edit mem place_eq.symm with rfl | rfl
      · exact absurd ((show tree.node? place = none from fits).symm.trans there) (by simp)
      · rfl
    · exact there

/-- Where nothing but a directory is made, there is a file if and only if it was there before. -/
theorem file_iff (h : Edited edits tree after)
    (bare : ∀ edit, edits edit → edit.place = place → edit = .directory place) :
    after.node? place = some (.file content) ↔ tree.node? place = some (.file content) := by
  refine ⟨fun there => ?_, fun there => h.file_stays there fun edit mem same => .inl (bare edit mem same)⟩
  induction h with
  | refl => exact there
  | @edit tree after edit mem fits _ ih =>
    have between := ih there
    rw [fits.node?_apply] at between
    split at between
    · rename_i place_eq
      rw [bare edit mem place_eq.symm] at between
      exact absurd between (by simp [Edit.node?])
    · exact between

/-- A file that a path leads to stays, if none but itself is written in its place and it is not removed. -/
theorem hasFile (h : Edited edits tree after) (there : tree.HasFile here path content)
    (same : ∀ edit, edits edit → edit.place = path.resolve here →
      edit = .directory (path.resolve here) ∨ edit = .file (path.resolve here) content) :
    after.HasFile here path content := by
  obtain ⟨place, way, file⟩ := there
  obtain rfl := resolve_of_walk way
  exact ⟨_, walk_of_kept h.kept way, h.file_stays file same⟩

end Edited

/-! ## Operations as edits -/

section Operations

/-- A file is written by one edit. -/
theorem edited_of_write (done : tree.write here path content = .ok after)
    (mem : edits (.file (path.resolve here) content)) : Edited edits tree after := by
  unfold write at done
  split at done
  · exact absurd done (by simp)
  · rename_i place admitted
    obtain rfl := Except.ok.inj done
    obtain ⟨way, free⟩ := placeForFile_iff.mp admitted
    rw [resolve_of_walk way] at mem
    exact .one mem free

/-- Moving a file removes it and writes its content. -/
theorem edited_of_rename {source target : Path} (done : tree.rename here source target = .ok after)
    (mem : edits (.removal (source.resolve here)))
    (mem' : ∀ content, edits (.file (target.resolve here) content)) : Edited edits tree after := by
  unfold rename at done
  split at done
  · rename_i content old place found way admitted
    obtain rfl := Except.ok.inj done
    obtain ⟨place', way', file⟩ := content_eq_ok.mp found
    obtain rfl := Except.ok.inj (way.symm.trans way')
    obtain ⟨targetWay, free⟩ := placeForFile_iff.mp admitted
    have fits : (Edit.removal old).Fits tree := by
      show tree.node? old ≠ some .directory
      rw [file]
      simp
    rw [resolve_of_walk way] at mem
    have mem' := mem' content
    rw [resolve_of_walk targetWay] at mem'
    refine .edit mem fits (.one mem' ?_)
    show ((Edit.removal old).apply tree).node? place ≠ some .directory
    rw [fits.node?_apply]
    split
    · exact fun there => absurd there (by simp [Edit.node?])
    · exact free
  · exact absurd done (by simp)
  · exact absurd done (by simp)
  · exact absurd done (by simp)

/-- A directory is made by one edit. -/
theorem edited_of_makeDirectory (done : tree.makeDirectory here path = .ok after)
    (mem : edits (.directory (path.resolve here))) : Edited edits tree after := by
  unfold makeDirectory at done
  split at done
  · exact absurd done (by simp)
  · rename_i place way
    split at done
    · exact absurd done (by simp)
    · rename_i free
      obtain rfl := Except.ok.inj done
      rw [resolve_of_walk way] at mem
      exact .one mem free

/-- A directory is ensured by one edit, or none if it is there. -/
theorem edited_of_ensureDirectory (done : tree.ensureDirectory here path = .ok after)
    (mem : edits (.directory (path.resolve here))) : Edited edits tree after := by
  unfold ensureDirectory at done
  split at done
  · rename_i new
    obtain rfl := Except.ok.inj done
    exact edited_of_makeDirectory new mem
  · split at done
    · obtain rfl := Except.ok.inj done
      exact .refl tree
    · exact absurd done (by simp)

/-- Directories are ensured by edits on the way to the last one, by induction on how many are missing. -/
theorem edited_of_ensureDirectoriesFrom {anchor : Anchor} :
    ∀ {depth : Nat} {above : List Text} {tree after : FileTree},
      ensureDirectoriesFrom here anchor depth above tree = .ok after →
      (∀ names, names <+: above.reverse → edits (.directory (Path.resolve here ⟨anchor, names⟩))) →
        Edited edits tree after := by
  intro depth
  induction depth with
  | zero => exact fun done _ => absurd done (by simp [ensureDirectoriesFrom])
  | succ depth ih =>
    intro above tree after done mem
    cases above with
    | nil => exact edited_of_ensureDirectory done (mem [] (List.nil_prefix))
    | cons name above =>
      have here_mem := mem (name :: above).reverse (List.prefix_refl _)
      rw [ensureDirectoriesFrom] at done
      split at done
      · split at done
        · rename_i between parents
          -- the directories above are made first
          refine (ih parents fun names leads => mem names ?_).trans
            (edited_of_ensureDirectory done here_mem)
          rw [List.reverse_cons]
          exact leads.trans (List.prefix_append _ _)
        · exact absurd done (by simp)
      · exact edited_of_ensureDirectory done here_mem

/-- Directories are made at places that their path passes only. -/
theorem edited_of_ensureDirectories (done : tree.ensureDirectories here path = .ok after)
    (mem : ∀ place, path.Passes here place → edits (.directory place)) : Edited edits tree after := by
  refine edited_of_ensureDirectoriesFrom done fun names leads => mem _ ⟨names, ?_, rfl⟩
  rwa [List.reverse_reverse] at leads

end Operations

end FileTree

/-! ## Hosts -/

namespace Host

variable {edits more : Edit → Prop} {host after : Host} {path : Path}

/-- Whether a host comes of another one by edits of its files, and works in the same directory. -/
structure Edited (edits : Edit → Prop) (host after : Host) : Prop where
  files : FileTree.Edited edits host.files after.files
  here : after.here = host.here
  tag : after.tag = host.tag

namespace Edited

/-- A host whose files stay the same is not edited. -/
theorem of_sameFiles (same : Store.SameFiles host after) : Edited edits host after :=
  ⟨same.files ▸ .refl _, same.here, same.tag⟩

/-- A host is edited by nothing to itself. -/
theorem refl (host : Host) : Edited edits host host := ⟨.refl _, rfl, rfl⟩

/-- Edits of a host can follow one another. -/
theorem trans {between : Host} (h : Edited edits host between) (h' : Edited edits between after) :
    Edited edits host after :=
  ⟨h.files.trans h'.files, h'.here.trans h.here, h'.tag.trans h.tag⟩

/-- Edits of a host are among more of them. -/
theorem mono (h : Edited edits host after) (among : ∀ edit, edits edit → more edit) :
    Edited more host after :=
  ⟨h.files.mono among, h.here, h.tag⟩

/-- An operation on the files of a host edits it as it edits these. -/
theorem change {operation : FileTree → Except FileError FileTree}
    (edited : ∀ files, operation host.files = .ok files → FileTree.Edited edits host.files files) :
    Edited edits host (host.change operation).2 := by
  rcases change_cases host operation with ⟨error, done⟩ | ⟨files, done, changed⟩
  · rw [done]
    exact .refl host
  · rw [changed]
    exact ⟨edited files done, rfl, rfl⟩

end Edited

/-- Directories are ensured by edits on the way to the last one. -/
theorem edited_ensureDirectories (host : Host)
    (mem : ∀ place, path.Passes host.here place → edits (.directory place)) :
    Edited edits host (host.ensureDirectories path).2 :=
  .change fun _ done => FileTree.edited_of_ensureDirectories done mem

/-- A file of a host is written by one edit. -/
theorem edited_write (host : Host) {content : Bytes}
    (mem : edits (.file (path.resolve host.here) content)) :
    Edited edits host (host.write path content).2 :=
  .change fun _ done => FileTree.edited_of_write done mem

/-- Images are written by one edit each. -/
theorem edited_writeAll {directory : Path} {images : List (Text × Bytes)} :
    ∀ {host : Host},
      (∀ image ∈ images, edits (.file ((directory.child image.1).resolve host.here) image.2)) →
        Edited edits host (writeAll directory images host).2 := by
  induction images with
  | nil => exact fun _ => .refl _
  | cons image images ih =>
    intro host mem
    obtain ⟨name, content⟩ := image
    have first : Edited edits host (host.write (directory.child name) content).2 :=
      host.edited_write (mem _ List.mem_cons_self)
    unfold writeAll
    generalize host.write (directory.child name) content = done at first ⊢
    obtain ⟨outcome, between⟩ := done
    cases outcome with
    | error error => exact first
    | ok =>
      refine first.trans (ih fun image later => ?_)
      rw [first.here]
      exact mem image (List.mem_cons_of_mem _ later)

/-- Filling a directory makes directories that its path passes, and writes the files into it. -/
theorem edited_fillDirectory {directory : Path} {images : List (Text × Bytes)} (host : Host)
    (mem : ∀ place, directory.Passes host.here place → edits (.directory place))
    (mem' : ∀ image ∈ images, edits (.file ((directory.child image.1).resolve host.here) image.2)) :
    Edited edits host (host.fillDirectory directory images).2 := by
  have first := host.edited_ensureDirectories mem
  unfold fillDirectory
  generalize host.ensureDirectories directory = done at first ⊢
  obtain ⟨outcome, between⟩ := done
  cases outcome with
  | error error => exact first
  | ok =>
    refine first.trans (edited_writeAll fun image listed => ?_)
    rw [first.here]
    exact mem' image listed

/-! ## Files that are written -/

/-- Whether there is one content for each place among files that are written. -/
def Single (here : Place) (files : List (Path × Bytes)) : Prop :=
  ∀ file ∈ files, ∀ other ∈ files, file.1.resolve here = other.1.resolve here → file.2 = other.2

/-- The edits that files are written by. -/
def Writes (here : Place) (files : List (Path × Bytes)) (edit : Edit) : Prop :=
  ∃ file ∈ files, edit = .file (file.1.resolve here) file.2

/-- Images with the paths that they have in a directory. -/
def filesIn (directory : Path) (images : List (Text × Bytes)) : List (Path × Bytes) :=
  images.map fun image => (directory.child image.1, image.2)

/-- The file of an image is one of the files of all of them. -/
theorem mem_filesIn {directory : Path} {images : List (Text × Bytes)} {image : Text × Bytes}
    (mem : image ∈ images) : (directory.child image.1, image.2) ∈ filesIn directory images :=
  List.mem_map_of_mem (f := fun image : Text × Bytes => (directory.child image.1, image.2)) mem

/-- An edit in the place of a file is the one that writes it, if files in one place have one content. -/
theorem Single.file_of_place {here : Place} {files : List (Path × Bytes)} (single : Single here files)
    {file : Path × Bytes} (mem : file ∈ files) {edit : Edit} (writes : Writes here files edit)
    (same : edit.place = file.1.resolve here) : edit = .file (file.1.resolve here) file.2 := by
  obtain ⟨other, mem', rfl⟩ := writes
  have place_eq : other.1.resolve here = file.1.resolve here := same
  rw [place_eq, single other mem' file mem place_eq]

/-- Images that were all written are there, if those in the same place have the same content. -/
theorem hasFile_writeAll {directory : Path} {images : List (Text × Bytes)} {here : Place}
    (single : Single here (filesIn directory images)) :
    ∀ {host : Host}, host.here = here → (writeAll directory images host).1 = .ok () →
      ∀ file ∈ filesIn directory images,
        (writeAll directory images host).2.files.HasFile here file.1 file.2 := by
  induction images with
  | nil => exact fun _ _ _ mem => absurd mem List.not_mem_nil
  | cons first images ih =>
    intro host here_eq done file mem
    obtain ⟨name, content⟩ := first
    unfold writeAll at done ⊢
    rcases change_cases host (FileTree.write · host.here (directory.child name) content) with
      ⟨error, refused⟩ | ⟨files, written, made⟩
    · rw [write, refused] at done
      exact absurd done (by simp)
    · rw [write, made] at done ⊢
      rcases List.mem_cons.mp mem with rfl | later
      · -- the file is written now, and stays while the others are written
        have edited : Edited (Writes here (filesIn directory images)) (host.withFiles files)
            (writeAll directory images (host.withFiles files)).2 :=
          edited_writeAll fun image mem => ⟨_, mem_filesIn mem, by rw [← here_eq]; rfl⟩
        rw [here_eq] at written
        refine edited.files.hasFile (FileTree.hasFile_of_write written) fun edit writes same => ?_
        obtain ⟨other, mem', rfl⟩ := writes
        exact .inr (single.file_of_place mem ⟨other, List.mem_cons_of_mem _ mem', rfl⟩ same)
      · have here_eq' : (host.withFiles files).here = here := here_eq
        exact ih (fun file mem other mem' => single file (List.mem_cons_of_mem _ mem) other
          (List.mem_cons_of_mem _ mem')) here_eq' done file later

/-- Images that a directory was filled with are there, if those in the same place have the same content. -/
theorem hasFile_fillDirectory {directory : Path} {images : List (Text × Bytes)} {host : Host}
    (single : Single host.here (filesIn directory images))
    (done : (host.fillDirectory directory images).1 = .ok ()) :
    ∀ file ∈ filesIn directory images,
      (host.fillDirectory directory images).2.files.HasFile host.here file.1 file.2 := by
  have first : Edited (fun _ => True) host (host.ensureDirectories directory).2 :=
    host.edited_ensureDirectories fun _ _ => trivial
  unfold fillDirectory at done ⊢
  generalize host.ensureDirectories directory = made at first done ⊢
  obtain ⟨outcome, between⟩ := made
  cases outcome with
  | error error => exact absurd done (by simp)
  | ok => exact hasFile_writeAll single first.here done

end Host

end TypstFences
