import TypstFences.Files.Glob
import TypstFences.Proofs.Files.Tree

/-!
# What a name pattern selects

Matching looks at a name from its end, for all its ends at once; one character at a time it is the
matching that one expects (`accepts_char`, `accepts_many`). A pattern that is a text without special
characters and then an asterisk accepts the names that begin with the text (`accepts_prefix`). In a
directory it selects what begins so (`select_eq_nil`, `select_eq_singleton`).
-/

set_option autoImplicit false

namespace TypstFences

namespace GlobToken

/-- Whether a character of a pattern stands for itself. -/
def standsForItself (c : Char) : Bool := c != '*' && c != '?' && c != '['

/-- Characters that stand for themselves are read one by one. -/
theorem readFrom_plain {plain : Text} (h : ∀ c ∈ plain, standsForItself c = true) (rest : Text) :
    readFrom 0 (plain ++ rest) = plain.map .char ++ readFrom 0 rest := by
  induction plain with
  | nil => rfl
  | cons c plain ih =>
    have itself : c ≠ '*' ∧ c ≠ '?' ∧ c ≠ '[' := by
      simpa [standsForItself, and_assoc] using h c (by simp)
    obtain ⟨asterisk, question, bracket⟩ := itself
    rw [List.cons_append, readFrom, if_neg asterisk, if_neg question, if_neg bracket,
      ih fun d mem => h d (List.mem_cons_of_mem c mem)]
    rfl

/-- The pieces of a pattern for the names that begin with a text. -/
theorem read_prefix {plain : Text} (h : ∀ c ∈ plain, standsForItself c = true) :
    read (plain ++ ['*']) = plain.map .char ++ [.many] := by
  unfold read
  rw [readFrom_plain h]
  rfl

/-! ## Matching -/

/-- A name has at least one end, the empty one. -/
theorem acceptsEnds_ne_nil (tokens : List GlobToken) (name : Text) : acceptsEnds tokens name ≠ [] := by
  induction tokens with
  | nil => simp [acceptsEnds]
  | cons token tokens ih =>
    cases token with
    | many =>
      obtain ⟨matched, others, eq⟩ := List.exists_cons_of_ne_nil ih
      simp [acceptsEnds, eq]
    | char expected => simp [acceptsEnds]
    | any => simp [acceptsEnds]
    | set negated ranges => simp [acceptsEnds]

/-- The ends of a name are the name itself and the ends of what follows its first character. -/
theorem acceptsEnds_cons (tokens : List GlobToken) (c : Char) (name : Text) :
    acceptsEnds tokens (c :: name) = accepts tokens (c :: name) :: acceptsEnds tokens name := by
  suffices h : ∃ whole, acceptsEnds tokens (c :: name) = whole :: acceptsEnds tokens name by
    obtain ⟨whole, eq⟩ := h
    unfold accepts
    rw [eq]
    rfl
  induction tokens with
  | nil => exact ⟨false, rfl⟩
  | cons token tokens ih =>
    obtain ⟨whole, eq⟩ := ih
    obtain ⟨matched, others, rest_eq⟩ := List.exists_cons_of_ne_nil (acceptsEnds_ne_nil tokens name)
    cases token with
    | many => simp [acceptsEnds, eq]
    | char expected => simp [acceptsEnds, eq, rest_eq]
    | any => simp [acceptsEnds, eq, rest_eq]
    | set negated ranges => simp [acceptsEnds, eq, rest_eq]

/-- The empty pattern accepts the empty name. -/
@[simp] theorem accepts_nil (name : Text) : accepts [] name = name.isEmpty := by
  cases name <;> simp [accepts, acceptsEnds]

/-- A character is accepted at the start of a name. -/
@[simp] theorem accepts_char (expected c : Char) (tokens : List GlobToken) (name : Text) :
    accepts (.char expected :: tokens) (c :: name) = (expected == c && accepts tokens name) := by
  obtain ⟨matched, others, eq⟩ := List.exists_cons_of_ne_nil (acceptsEnds_ne_nil tokens name)
  rw [accepts, acceptsEnds, acceptsEnds_cons, List.tail_cons, eq, accepts, eq]
  · simp [acceptsChar]
  · simp

/-- There is no character at the start of an empty name. -/
@[simp] theorem accepts_char_nil (expected : Char) (tokens : List GlobToken) :
    accepts (.char expected :: tokens) [] = false := by
  simp [accepts, acceptsEnds]

/-- An asterisk accepts a character more, or nothing more. -/
theorem accepts_many (tokens : List GlobToken) (c : Char) (name : Text) :
    accepts (.many :: tokens) (c :: name) =
      (accepts tokens (c :: name) || accepts (.many :: tokens) name) := by
  show ((acceptsEnds tokens (c :: name)).foldr _ []).head?.getD false = _
  rw [acceptsEnds_cons, List.foldr_cons]
  rfl

/-- An asterisk alone accepts every name. -/
@[simp] theorem accepts_all (name : Text) : accepts [.many] name = true := by
  induction name with
  | nil => rfl
  | cons c name ih => rw [accepts_many, ih, Bool.or_true]

/-- A text and an asterisk accept the names that begin with the text. -/
theorem accepts_prefix (plain name : Text) :
    accepts (plain.map .char ++ [.many]) name = plain.isPrefixOf name := by
  induction plain generalizing name with
  | nil => simp
  | cons expected plain ih =>
    cases name with
    | nil => simp
    | cons c name => simp [ih, List.isPrefixOf_cons_cons]

end GlobToken

namespace Glob

variable {tree : FileTree} {here place : Place} {directory : Path} {tokens : List GlobToken}

/-- Equal elements are one element. -/
theorem eraseDups_eq_singleton {α : Type} [BEq α] [LawfulBEq α] {a : α} {list : List α}
    (mem : a ∈ list) (same : ∀ b ∈ list, b = a) : list.eraseDups = [a] := by
  cases list with
  | nil => simp at mem
  | cons b list =>
    obtain rfl := same b (by simp)
    have none_left : (list.filter fun c => !c == b) = [] := by
      refine List.filter_eq_nil_iff.mpr fun c c_mem => ?_
      simp [same c (List.mem_cons_of_mem b c_mem)]
    rw [List.eraseDups_cons, none_left, List.eraseDups_nil]

/-- Where no part is left, every path is selected. -/
theorem mapM_selectFrom_nil (directoriesOnly : Bool) (paths : List Path) :
    paths.mapM (selectFrom tree here directoriesOnly []) = .ok (paths.map fun path => [path]) := by
  induction paths with
  | nil => rfl
  | cons path paths ih =>
    rw [List.mapM_cons, ih]
    rfl

/-- A pattern of one name selects among the children of a directory. -/
theorem selectFrom_pattern :
    selectFrom tree here false [.pattern tokens] directory =
      .ok (childrenFrom tree here tokens directory) := by
  have flat (paths : List Path) : (paths.map fun path => [path]).flatten = paths := by
    rw [← List.flatMap_def, List.flatMap_singleton']
  show ((childrenFrom tree here tokens directory).mapM (selectFrom tree here false []) >>= fun paths =>
    Except.ok paths.flatten) = _
  rw [mapM_selectFrom_nil]
  exact congrArg Except.ok (flat _)

/-- The paths that a pattern of one name selects in a directory. -/
theorem select_pattern (way : tree.walk here directory = .ok place)
    (found : tree.node? place = some .directory) :
    select tree here ⟨[.pattern tokens], false⟩ directory =
      .ok ((((tree.namesIn place).filter (GlobToken.accepts tokens)).map
        directory.entry).eraseDups.mergeSort Path.le) := by
  have isDirectory : tree.isDirectory here directory = true := by
    simp [FileTree.isDirectory, FileTree.find?, way, found]
  unfold select
  rw [if_pos isDirectory, selectFrom_pattern, childrenFrom, way]

/-- Where no child is accepted, nothing is selected. -/
theorem select_eq_nil (way : tree.walk here directory = .ok place)
    (found : tree.node? place = some .directory)
    (none_accepted : ∀ name, tree.node? (place ++ [name]) ≠ none →
      GlobToken.accepts tokens name = false) :
    select tree here ⟨[.pattern tokens], false⟩ directory = .ok [] := by
  have nothing : (tree.namesIn place).filter (GlobToken.accepts tokens) = [] := by
    refine List.filter_eq_nil_iff.mpr fun name mem => ?_
    simp [none_accepted name (FileTree.mem_namesIn.mp mem)]
  rw [select_pattern way found, nothing, List.map_nil, List.eraseDups_nil, List.mergeSort_nil]

/-- Where one child alone is accepted, it is selected. -/
theorem select_eq_singleton {name : Text} (way : tree.walk here directory = .ok place)
    (found : tree.node? place = some .directory) (present : tree.node? (place ++ [name]) ≠ none)
    (accepted : GlobToken.accepts tokens name = true)
    (unique : ∀ other, tree.node? (place ++ [other]) ≠ none →
      GlobToken.accepts tokens other = true → other = name) :
    select tree here ⟨[.pattern tokens], false⟩ directory =
      .ok [directory.entry name] := by
  rw [select_pattern way found, eraseDups_eq_singleton, List.mergeSort_singleton]
  · exact List.mem_map_of_mem (List.mem_filter.mpr ⟨FileTree.mem_namesIn.mpr present, accepted⟩)
  · intro path mem
    obtain ⟨other, other_mem, rfl⟩ := List.mem_map.mp mem
    obtain ⟨listed, other_accepted⟩ := List.mem_filter.mp other_mem
    rw [unique other (FileTree.mem_namesIn.mp listed) other_accepted]

end Glob

end TypstFences
