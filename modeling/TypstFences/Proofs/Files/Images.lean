import TypstFences.Proofs.Cache.Saving

/-!
# Images in a directory

Files that are written into a directory leave the others there alone. So images whose names tell their bytes
can be written there in any order: all that are written without a fault are there
(`Host.fillDirectory_writes`), and what is there under such a name stays (`Host.fillAll_keeps`). This is
about names without slashes; others may lead to one file.
-/

set_option autoImplicit false

namespace TypstFences

namespace FileTree

variable {tree changed : FileTree} {here place found : Place} {directory : Path} {name other : Text}
variable {content bytes : Bytes}

/-- A walk along names passes through where the first of them lead. -/
theorem walkFrom_of_append {names : List Text} (others : List Text) :
    ∀ {start : Place}, tree.walkFrom start (names ++ others) = .ok found →
      ∃ place, tree.walkFrom start names = .ok place ∧ tree.walkFrom place others = .ok found := by
  induction names with
  | nil => exact fun way => ⟨_, rfl, way⟩
  | cons first names ih =>
    intro start way
    rw [List.cons_append, walkFrom] at way
    split at way
    · rename_i there
      split at way
      · exact absurd way (by simp)
      · rename_i fits
        obtain ⟨place, through, on⟩ := ih way
        refine ⟨place, ?_, on⟩
        rw [walkFrom, there]
        simp only [fits]
        exact through
    · exact absurd way (by simp)
    · exact absurd way (by simp)

/-- The path of a directory is not longer than that of something in it. -/
theorem pathFits_of_entry (fits : pathFits (directory.entry name) = true) : pathFits directory = true := by
  unfold pathFits at fits ⊢
  rw [decide_eq_true_eq, Path.text_entry, byteCount_append] at fits
  rw [decide_eq_true_eq]
  unfold Path.text
  split
  · decide
  · refine Nat.le_trans ?_ (Nat.le_trans (Nat.le_add_right _ _) fits)
    rw [Path.lead, byteCount_append, byteCount_append]
    refine Nat.add_le_add_left ?_ _
    rcases List.eq_nil_or_concat directory.names with none_left | ⟨names, last, names_eq⟩
    · rw [none_left]
      exact Nat.le_refl _
    · rw [names_eq, List.concat_eq_append, Text.joinWith_concat, List.flatMap_append, byteCount_append,
        byteCount_append]
      simp

/-- What is reached through a directory is in it. -/
theorem walk_of_entry (notParent : name ≠ Path.parentName)
    (way : tree.walk here (directory.entry name) = .ok found) :
    ∃ place, tree.walk here directory = .ok place ∧ tree.node? place = some .directory ∧
      found = place ++ [name] := by
  have clean := names_clean_of_walk way
  rw [List.any_append, Bool.or_eq_false_iff] at clean
  obtain ⟨place, through, last⟩ := walkFrom_of_append [name] (walkFrom_of_walk way)
  have fits : pathFits (directory.entry name) = true := by
    unfold walk at way
    split at way
    · exact absurd way (by simp)
    · split at way
      · exact absurd way (by simp)
      · rename_i fits
        simpa using fits
  refine ⟨place, ?_, ?_⟩
  · unfold walk
    rw [clean.1, pathFits_of_entry fits]
    exact through
  · rw [walkFrom] at last
    split at last
    · rename_i there
      split at last
      · exact absurd last (by simp)
      · exact ⟨there, (Except.ok.inj last).symm⟩
    · exact absurd last (by simp)
    · exact absurd last (by simp)

/-- A file is read if and only if it is there. -/
theorem content_eq_ok {path : Path} :
    tree.content here path = .ok content ↔ tree.HasFile here path content := by
  unfold FileTree.content HasFile
  cases tree.walk here path with
  | error fault => simp
  | ok place =>
    simp only [Except.ok.injEq, exists_eq_left']
    cases tree.node? place with
    | none => simp
    | some node => cases node <;> simp

/-- A file that was written is there. -/
theorem hasFile_of_write {path : Path} (written : tree.write here path bytes = .ok changed) :
    changed.HasFile here path bytes := by
  unfold write at written
  split at written
  · exact absurd written (by simp)
  · rename_i place admitted
    obtain rfl := Except.ok.inj written
    obtain ⟨way, free⟩ := placeForFile_iff.mp admitted
    refine ⟨place, (sameDirectories_put free bytes).walk.mpr way, ?_⟩
    rw [node?_put _ _ _ (ne_nil_of_node? free), if_pos rfl]

/-- A file in a directory stays when another one is written there, or the same one again. -/
theorem HasFile.write (h : tree.HasFile here (directory.entry name) content)
    (notParent : name ≠ Path.parentName) (notParent' : other ≠ Path.parentName)
    (same : other = name → bytes = content)
    (written : tree.write here (directory.entry other) bytes = .ok changed) :
    changed.HasFile here (directory.entry name) content := by
  obtain ⟨found, way, file⟩ := h
  obtain ⟨place, directory_way, there, rfl⟩ := walk_of_entry notParent way
  unfold FileTree.write at written
  split at written
  · exact absurd written (by simp)
  · rename_i target admitted
    obtain rfl := Except.ok.inj written
    obtain ⟨target_way, free⟩ := placeForFile_iff.mp admitted
    -- the way to the directory is one, so the files are the same only if their names are
    obtain ⟨place', directory_way', -, rfl⟩ := walk_of_entry notParent' target_way
    obtain rfl : place' = place := Except.ok.inj (directory_way'.symm.trans directory_way)
    refine ⟨_, (sameDirectories_put free bytes).walk.mpr way, ?_⟩
    rw [node?_put _ _ _ (ne_nil_of_node? free)]
    split
    · rename_i again
      rw [same (by simpa using again.symm)]
    · exact file

end FileTree

/-! ## Writing images -/

namespace Host

variable {directory : Path} {name other : Text} {content bytes : Bytes} {host : Host}

/-- The host after the images of some results were written into a directory, one result after the other,
whether or not all of them could be written. -/
def fillAll (directory : Path) (results : List (List (Text × Bytes))) (host : Host) : Host :=
  results.foldl (fun host images => (host.fillDirectory directory images).2) host

/-- A file of a directory is read if and only if it is there. -/
theorem content_child (isName : Path.IsName name) :
    host.content (directory.child name) = .ok content ↔
      host.files.HasFile host.here (directory.entry name) content := by
  rw [Path.child_of_isName isName]
  exact FileTree.content_eq_ok

/-- An operation on the files of a host is refused and changes nothing, or is done. -/
theorem change_cases (host : Host) (operation : FileTree → Except FileError FileTree) :
    (∃ error, host.change operation = (.error error, host)) ∨
      ∃ files, operation host.files = .ok files ∧
        host.change operation = (.ok (), host.withFiles files) := by
  unfold change
  cases operation host.files with
  | error error => exact .inl ⟨error, rfl⟩
  | ok files => exact .inr ⟨files, rfl, rfl⟩

/-- Writing an image leaves an image of another name as it is, and one of its name, if it has its bytes. -/
theorem write_keeps (isName : Path.IsName name) (isName' : Path.IsName other)
    (same : other = name → bytes = content)
    (there : host.content (directory.child name) = .ok content) :
    (host.write (directory.child other) bytes).2.content (directory.child name) = .ok content := by
  unfold write
  rcases change_cases host (FileTree.write · host.here (directory.child other) bytes) with
    ⟨error, done⟩ | ⟨files, written, done⟩
  · rw [done]
    exact there
  · rw [done, content_child isName]
    rw [Path.child_of_isName isName'] at written
    exact ((content_child isName).mp there).write isName.notParent isName'.notParent same written

/-- A file of a directory stays when images are written there, if those of its name have its content. -/
theorem writeAll_keeps (isName : Path.IsName name) {images : List (Text × Bytes)}
    (names : ∀ image ∈ images, Path.IsName image.1)
    (same : ∀ bytes, (name, bytes) ∈ images → bytes = content) :
    ∀ {host : Host}, host.content (directory.child name) = .ok content →
      (writeAll directory images host).2.content (directory.child name) = .ok content := by
  induction images with
  | nil => exact fun there => there
  | cons image images ih =>
    intro host there
    obtain ⟨other, bytes⟩ := image
    have kept := write_keeps isName (names _ List.mem_cons_self)
      (fun same_name => same bytes (same_name ▸ List.mem_cons_self)) there
    unfold writeAll
    generalize host.write (directory.child other) bytes = done at kept ⊢
    obtain ⟨outcome, after⟩ := done
    cases outcome with
    | error error => exact kept
    | ok =>
      exact ih (fun image mem => names image (List.mem_cons_of_mem _ mem))
        (fun bytes mem => same bytes (List.mem_cons_of_mem _ mem)) kept

/-- Images that were written are there, if those of one name have one content. -/
theorem writeAll_writes {images : List (Text × Bytes)}
    (names : ∀ image ∈ images, Path.IsName image.1)
    (single : ∀ name content other, (name, content) ∈ images → (name, other) ∈ images →
      content = other) :
    ∀ {host : Host}, (writeAll directory images host).1 = .ok () →
      ∀ name content, (name, content) ∈ images →
        (writeAll directory images host).2.content (directory.child name) = .ok content := by
  induction images with
  | nil => exact fun _ _ _ mem => absurd mem List.not_mem_nil
  | cons image images ih =>
    intro host done name content mem
    obtain ⟨other, bytes⟩ := image
    have names' : ∀ image ∈ images, Path.IsName image.1 :=
      fun image mem => names image (List.mem_cons_of_mem _ mem)
    unfold writeAll at done ⊢
    rcases change_cases host (FileTree.write · host.here (directory.child other) bytes) with
      ⟨error, refused⟩ | ⟨files, written, made⟩
    · rw [write, refused] at done
      exact absurd done (by simp)
    · rw [write, made] at done ⊢
      rcases List.mem_cons.mp mem with first | later
      · -- the image is written now, and kept while those after it are written
        obtain ⟨rfl, rfl⟩ := Prod.mk.inj first
        refine writeAll_keeps (names _ List.mem_cons_self) names'
          (fun bytes mem => single name bytes content (List.mem_cons_of_mem _ mem) List.mem_cons_self) ?_
        exact FileTree.content_eq_ok.mpr (FileTree.hasFile_of_write written)
      · exact ih names' (fun name content other mem mem' => single name content other
          (List.mem_cons_of_mem _ mem) (List.mem_cons_of_mem _ mem')) done name content later

/-- A directory with a file in it need not be made. -/
theorem ensureDirectories_of_content (isName : Path.IsName name)
    (there : host.content (directory.child name) = .ok content) :
    host.ensureDirectories directory = (.ok (), host) := by
  obtain ⟨found, way, -⟩ := (content_child isName).mp there
  obtain ⟨place, directory_way, is_directory, -⟩ := FileTree.walk_of_entry isName.notParent way
  rw [ensureDirectories, change, Store.ensureDirectories_eq directory_way is_directory]
  rfl

/-- A file of a directory stays when it is filled, if the images of its name have its content. -/
theorem fillDirectory_keeps (isName : Path.IsName name) {images : List (Text × Bytes)}
    (names : ∀ image ∈ images, Path.IsName image.1)
    (same : ∀ bytes, (name, bytes) ∈ images → bytes = content)
    (there : host.content (directory.child name) = .ok content) :
    (host.fillDirectory directory images).2.content (directory.child name) = .ok content := by
  unfold fillDirectory
  rw [ensureDirectories_of_content isName there]
  exact writeAll_keeps isName names same there

/-- A directory that was filled has all the images in it, if those of one name have one content. -/
theorem fillDirectory_writes {images : List (Text × Bytes)}
    (names : ∀ image ∈ images, Path.IsName image.1)
    (single : ∀ name content other, (name, content) ∈ images → (name, other) ∈ images →
      content = other)
    (done : (host.fillDirectory directory images).1 = .ok ()) (name : Text) (content : Bytes)
    (mem : (name, content) ∈ images) :
    (host.fillDirectory directory images).2.content (directory.child name) = .ok content := by
  unfold fillDirectory at done ⊢
  generalize host.ensureDirectories directory = made at done ⊢
  obtain ⟨outcome, between⟩ := made
  cases outcome with
  | error error => exact absurd done (by simp)
  | ok => exact writeAll_writes names single done name content mem

/-- What is in the directory under the name of an image stays there, if all images of its name have its
bytes. -/
theorem fillAll_keeps (isName : Path.IsName name) {results : List (List (Text × Bytes))}
    (names : ∀ images ∈ results, ∀ image ∈ images, Path.IsName image.1)
    (same : ∀ images ∈ results, ∀ bytes, (name, bytes) ∈ images → bytes = content) :
    ∀ {host : Host}, host.content (directory.child name) = .ok content →
      (fillAll directory results host).content (directory.child name) = .ok content := by
  induction results with
  | nil => exact fun there => there
  | cons images results ih =>
    intro host there
    exact ih (fun images mem => names images (List.mem_cons_of_mem _ mem))
      (fun images mem => same images (List.mem_cons_of_mem _ mem))
      (fillDirectory_keeps isName (names images List.mem_cons_self) (same images List.mem_cons_self)
        there)

end Host

end TypstFences
