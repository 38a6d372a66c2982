import TypstFences.Files.Path
import TypstFences.Proofs.Text.Parts

/-!
# Paths of names

A text without a slash that is not one of the names with dots only is one name (`IsName`), and using
it from a directory adds it to the names on the way (`child_of_isName`).
-/

set_option autoImplicit false

namespace TypstFences

namespace Path

variable {directory : Path} {name : Text}

/-- The path of something in a directory. -/
abbrev entry (directory : Path) (name : Text) : Path := ⟨directory.anchor, directory.names ++ [name]⟩

/-- A text that is the name of something in a directory. -/
structure IsName (name : Text) : Prop where
  nonempty : name ≠ []
  noSlash : '/' ∉ name
  notHere : name ≠ ['.']
  notParent : name ≠ parentName

/-- What begins with a name is not absolute. -/
theorem readAnchor_append (h : IsName name) (rest : Text) : readAnchor (name ++ rest) = .here := by
  cases name with
  | nil => exact absurd rfl h.nonempty
  | cons c name =>
    have noSlash : c ≠ '/' := fun same => h.noSlash (by simp [same])
    rw [List.cons_append]
    unfold readAnchor
    split <;> simp_all

/-- A name counts. -/
theorem IsName.counts (h : IsName name) : (!name.isEmpty && name != ['.']) = true := by
  simp [h.nonempty, h.notHere]

/-- The path that a name is. -/
theorem ofText_of_isName (h : IsName name) : ofText name = ⟨.here, [name]⟩ := by
  have anchor := readAnchor_append h []
  rw [List.append_nil] at anchor
  unfold ofText
  rw [anchor, Text.splitOn_of_notMem h.noSlash, List.filter_cons, if_pos h.counts]
  rfl

/-- The path that a name is with a slash and a text behind it. -/
theorem ofText_append (h : IsName name) (tail : Text) :
    ofText (name ++ '/' :: tail) = ⟨.here, name :: (ofText tail).names⟩ := by
  unfold ofText
  rw [readAnchor_append h, Text.splitOn_append tail h.noSlash, List.filter_cons, if_pos h.counts]

/-- The path of a name used from a directory. -/
theorem child_of_isName (h : IsName name) : directory.child name = directory.entry name := by
  unfold child
  rw [ofText_of_isName h]
  rfl

/-- The path of a name with a suffix goes through a name with the suffix up to its first slash, and ends
there if there is no slash in the suffix or nothing follows it. -/
theorem child_suffixed (suffix : Text) : ∃ first more, '/' ∉ first ∧
    ∀ (directory : Path) (stem : Text), IsName (stem ++ '.' :: first) →
      directory.child (stem ++ '.' :: suffix) =
        ⟨directory.anchor, directory.names ++ (stem ++ '.' :: first) :: more⟩ := by
  by_cases slash : '/' ∈ suffix
  · obtain ⟨first, tail, rfl, noSlash⟩ := List.eq_append_cons_of_mem slash
    refine ⟨first, (ofText tail).names, noSlash, fun directory stem isName => ?_⟩
    have split : stem ++ '.' :: (first ++ '/' :: tail) = (stem ++ '.' :: first) ++ '/' :: tail := by simp
    rw [split, child, ofText_append isName]
    rfl
  · exact ⟨suffix, [], slash, fun _ _ isName => child_of_isName isName⟩

/-- The last name of a path in a directory. -/
@[simp] theorem name_entry (directory : Path) (name : Text) : (directory.entry name).name = name := by
  simp [Path.name]

/-- What stands in front of a name in the text of its path in a directory. -/
def lead (directory : Path) : Text :=
  anchorText directory.anchor ++ directory.names.flatMap (· ++ ['/'])

/-- The text of a path in a directory. -/
theorem text_entry (directory : Path) (name : Text) :
    (directory.entry name).text = directory.lead ++ name := by
  unfold text
  rw [if_neg (by simp), lead, Text.joinWith_concat, List.append_assoc]

/-- The suffix of a name is what follows its last dot. -/
theorem suffix_entry {stem ending : Text} (stem_ne : stem ≠ []) (ending_ne : ending ≠ [])
    (noDot : '.' ∉ ending) : (directory.entry (stem ++ '.' :: ending)).suffix = '.' :: ending := by
  have cut : ((stem ++ '.' :: ending).reverse.takeWhile (· != '.')).reverse = ending := by
    have all : ∀ c ∈ ending.reverse, (c != '.') = true := by
      intro c mem
      simp only [bne_iff_ne]
      rintro rfl
      exact noDot (List.mem_reverse.mp mem)
    rw [List.reverse_append, List.reverse_cons, List.append_assoc,
      List.takeWhile_append_of_pos all]
    simp
  have front : (stem ++ '.' :: ending).length - ending.length - 1 = stem.length := by
    rw [List.length_append, List.length_cons]
    omega
  rw [suffix, name_entry, cut, front]
  simp [stem_ne, ending_ne]

end Path

end TypstFences
