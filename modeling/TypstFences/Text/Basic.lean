/-!
# Text

Text is the list of its characters, so that every law about text is a law about lists. This module
holds the operations that all others share: cutting at a separator, joining, decimal numerals, the
order by characters, and values under names.
-/

set_option autoImplicit false

namespace TypstFences

/-- Text is a list of characters. -/
abbrev Text := List Char

/-- File contents are a list of bytes. -/
abbrev Bytes := List UInt8

namespace Text

/-- The parts of a text between the occurrences of a separator; there is always at least one part. -/
def splitOn (separator : Char) : Text → List Text
  | [] => [[]]
  | c :: rest =>
    if c = separator then [] :: splitOn separator rest
    else
      match splitOn separator rest with
      | [] => [[c]]
      | part :: parts => (c :: part) :: parts

/-- The text before and the text after the first occurrence of a separator, if it occurs. -/
def cut? (separator : Char) (text : Text) : Option (Text × Text) :=
  if separator ∈ text then
    some (text.takeWhile (· != separator), (text.dropWhile (· != separator)).tail)
  else none

/-- What follows a separator is shorter than the text that was cut. -/
theorem length_lt_of_cut? {separator : Char} {text before after : Text}
    (found : cut? separator text = some (before, after)) : after.length < text.length := by
  unfold cut? at found
  split at found
  · rename_i occurs
    have nonempty : 0 < text.length := List.length_pos_of_mem occurs
    have suffix := (List.dropWhile_suffix (l := text) (· != separator)).length_le
    obtain ⟨-, rfl⟩ := Prod.mk.inj (Option.some.inj found)
    rw [List.length_tail]
    omega
  · exact absurd found (by simp)

/-- The parts in order with a separator between each two. -/
def joinWith (separator : Text) : List Text → Text
  | [] => []
  | [part] => part
  | part :: next :: parts => part ++ separator ++ joinWith separator (next :: parts)

/-- The decimal numeral of a natural number. -/
def ofNat (n : Nat) : Text := Nat.toDigits 10 n

/-- The decimal numeral of an integer, with a minus sign in front of a negative one. -/
def ofInt (i : Int) : Text :=
  if i < 0 then '-' :: ofNat i.natAbs else ofNat i.natAbs

/-- Texts are ordered like words in a dictionary, characters by their code points. -/
def le : Text → Text → Bool
  | [], _ => true
  | _ :: _, [] => false
  | c :: s, d :: t => if c = d then le s t else c.toNat < d.toNat

/-- Lists of texts are ordered by their first difference. -/
def leAll : List Text → List Text → Bool
  | [], _ => true
  | _ :: _, [] => false
  | s :: ss, t :: ts => if s = t then leAll ss ts else le s t

/-- The number of characters at the start of a text that are the whole of `mark`; a mark that is not
a single character is never found. -/
def leadingRun (mark : Text) (text : Text) : Nat :=
  (text.takeWhile fun c => [c] == mark).length

end Text

/-- The named values with one more: in the place of the older value of its name, or at the end. -/
def Named.put {ν α : Type} [DecidableEq ν] (name : ν) (value : α) : List (ν × α) → List (ν × α)
  | [] => [(name, value)]
  | (other, old) :: rest =>
    if other = name then (name, value) :: rest else (other, old) :: put name value rest

end TypstFences
