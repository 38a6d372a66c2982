import Mathlib.Data.List.TakeWhile
import TypstFences.Engine.Diagnostic
import TypstFences.Proofs.Cache.Names

/-!
# The first reference of a diagnostic

A diagnostic refers to a line of a file where the name of the file stands, then a colon, digits, a colon and
a digit, and in front of the name nothing at all, a blank or a slash (`Refers`). Of all places where it does,
the first counts (`digits?_eq_some`), and it tells the line that its digits stand for. A reference that is
written behind a blank is found, whatever stands around it, if the name of the file has no blanks and does
not occur earlier (`digits?_behind_blank`).
-/

set_option autoImplicit false

namespace TypstFences

/-! ## Decimal numerals -/

namespace Text

/-- A plain digit has its value. -/
theorem digit?_of_isDigit {c : Char} (h : c.isDigit = true) : digit? c = some (c.toNat - '0'.toNat) := by
  simp only [Char.isDigit, Bool.and_eq_true, decide_eq_true_eq] at h
  have low : 0x30 ≤ c.toNat := UInt32.le_iff_toNat_le.mp h.1
  have high : c.toNat ≤ 0x30 + 9 := UInt32.le_iff_toNat_le.mp h.2
  have first : zeros = 0x30 :: zeros.tail := rfl
  rw [digit?, first, List.find?_cons_of_pos (by simp only [low, high, decide_true, Bool.and_self])]
  rfl

/-- A number is written in digits. -/
theorem isDigit_ofNat {n : Nat} {c : Char} (mem : c ∈ ofNat n) : isDigit c = true := by
  rw [isDigit, digit?_of_isDigit (Nat.isDigit_of_mem_toDigits (by decide) (by decide) mem)]
  rfl

/-- A number is written in at least one digit. -/
theorem ofNat_ne_nil (n : Nat) : ofNat n ≠ [] := List.ne_nil_of_length_pos Nat.length_toDigits_pos

/-- The numeral of a number stands for the number. -/
theorem digitsValue_ofNat (n : Nat) : digitsValue (ofNat n) = n := by
  have read : ∀ (digits : Text) (start : Nat), (∀ c ∈ digits, c.isDigit = true) →
      digits.foldl (fun n c => n * 10 + (digit? c).getD 0) start =
        Nat.ofDigitChars 10 digits start := by
    intro digits
    induction digits with
    | nil => exact fun _ _ => rfl
    | cons c digits ih =>
      intro start all
      have here : digit? c = some (c.toNat - '0'.toNat) := digit?_of_isDigit (all c List.mem_cons_self)
      rw [List.foldl_cons, ih _ fun d mem => all d (List.mem_cons_of_mem c mem), here, Option.getD_some,
        Nat.mul_comm]
      rfl
  have digits : ∀ c ∈ ofNat n, c.isDigit = true := fun c mem =>
    Nat.isDigit_of_mem_toDigits (by decide) (by decide) mem
  rw [digitsValue, read _ 0 digits]
  exact Nat.ofDigitChars_ten_toDigits

end Text

namespace Diagnostic

variable {file text before digits : Text} {start : Bool}

/-! ## References -/

/-- Whether a text begins with a reference to a line of a file, the number of which has certain digits. -/
def Reads (file text digits : Text) : Prop :=
  digits ≠ [] ∧ (∀ c ∈ digits, Text.isDigit c = true) ∧
    ∃ column rest, Text.isDigit column = true ∧
      text = file ++ ':' :: (digits ++ ':' :: column :: rest)

/-- Whether a text refers to a line of a file behind some of it, which is nothing or ends with a blank or a
slash. -/
structure Refers (file text before digits : Text) : Prop where
  begins : ∀ c ∈ before.getLast?, Text.isBlank c = true ∨ c = '/' ∨ c = '\\'
  reads : ∃ rest, text = before ++ rest ∧ Reads file rest digits

/-- Whether it is the first reference in a text. -/
def IsFirst (file text before digits : Text) : Prop :=
  Refers file text before digits ∧
    ∀ earlier others, Refers file text earlier others → before.length ≤ earlier.length

/-- The boundaries are blanks and slashes of either kind. -/
theorem isBoundary_iff {c : Char} :
    isBoundary c = true ↔ Text.isBlank c = true ∨ c = '/' ∨ c = '\\' := by
  simp [isBoundary, or_assoc]

/-- The digits are those up to the next colon, for a colon is no digit. -/
theorem digitsHere?_eq_some : digitsHere? file text = some digits ↔ Reads file text digits := by
  constructor
  · intro found
    unfold digitsHere? at found
    split at found
    · rename_i named
      obtain ⟨behind, rfl⟩ := List.isPrefixOf_iff_prefix.mp named
      rw [List.drop_left] at found
      split at found
      · rename_i rest
        simp only at found
        split at found
        · rename_i first others column tail taken left
          split at found
          · rename_i columnDigit
            obtain rfl := Option.some.inj found
            refine ⟨by simp [taken], fun c mem => List.mem_takeWhile_imp mem, column, tail, columnDigit, ?_⟩
            rw [← left, List.takeWhile_append_dropWhile]
          · exact absurd found (by simp)
        · exact absurd found (by simp)
      · exact absurd found (by simp)
    · exact absurd found (by simp)
  · rintro ⟨nonempty, all, column, rest, columnDigit, rfl⟩
    have colon : Text.isDigit ':' = false := by decide
    have named : file.isPrefixOf (file ++ ':' :: (digits ++ ':' :: column :: rest)) = true :=
      List.isPrefixOf_iff_prefix.mpr (List.prefix_append _ _)
    have taken : (digits ++ ':' :: column :: rest).takeWhile Text.isDigit = digits := by
      rw [List.takeWhile_append_of_pos all, List.takeWhile_cons_of_neg (by simp [colon]), List.append_nil]
    have left : (digits ++ ':' :: column :: rest).dropWhile Text.isDigit = ':' :: column :: rest := by
      rw [List.dropWhile_append_of_pos all, List.dropWhile_cons_of_neg (by simp [colon])]
    obtain ⟨first, others, rfl⟩ := List.exists_cons_of_ne_nil nonempty
    unfold digitsHere?
    rw [if_pos named, List.drop_left]
    simp only [taken, left, columnDigit, if_true]

/-! ## The search -/

/-- Whether a reference may begin behind some text, where it may begin at the start or not. -/
def mayFollow (start : Bool) (before : Text) : Bool := (before.getLast?.map isBoundary).getD start

/-- Whether the search comes upon a reference behind some of a text. -/
def Meets (file : Text) (start : Bool) (text before digits : Text) : Prop :=
  mayFollow start before = true ∧ ∃ rest, text = before ++ rest ∧ digitsHere? file rest = some digits

/-- Whether a reference may follow a text depends on the last character of it. -/
theorem mayFollow_cons (c : Char) (before : Text) :
    mayFollow start (c :: before) = mayFollow (isBoundary c) before := by
  cases before with
  | nil => rfl
  | cons d rest =>
    have last := List.getLast?_eq_some_getLast (List.cons_ne_nil d rest)
    rw [mayFollow, mayFollow, List.getLast?_cons_cons, last]
    rfl

/-- A scan from the start of a text meets the references in it. -/
theorem meets_iff_refers : Meets file true text before digits ↔ Refers file text before digits := by
  have begins : mayFollow true before = true ↔
      ∀ c ∈ before.getLast?, Text.isBlank c = true ∨ c = '/' ∨ c = '\\' := by
    unfold mayFollow
    cases before.getLast? with
    | none => simp
    | some c => simpa using isBoundary_iff
  simp only [Meets, begins, digitsHere?_eq_some]
  exact ⟨fun h => ⟨h.1, h.2⟩, fun h => ⟨h.begins, h.reads⟩⟩

/-- The search looks at the place where it is, and else goes on behind the next character. -/
theorem meets_cons {c : Char} : Meets file start (c :: text) before digits ↔
    (before = [] ∧ start = true ∧ digitsHere? file (c :: text) = some digits) ∨
      ∃ others, before = c :: others ∧ Meets file (isBoundary c) text others digits := by
  cases before with
  | nil => simp [Meets, mayFollow]
  | cons d others =>
    rw [Meets, mayFollow_cons]
    constructor
    · rintro ⟨may, rest, whole, here⟩
      rw [List.cons_append, List.cons.injEq] at whole
      obtain ⟨rfl, rfl⟩ := whole
      exact .inr ⟨others, rfl, may, rest, rfl, here⟩
    · rintro (⟨empty, -⟩ | ⟨others', same, may, rest, rfl, here⟩)
      · exact absurd empty (by simp)
      · rw [List.cons.injEq] at same
        obtain ⟨rfl, rfl⟩ := same
        exact ⟨may, rest, rfl, here⟩

/-- What the search finds is a reference, and none is earlier. -/
theorem meets_of_digitsFrom? : ∀ {start : Bool}, digitsFrom? file start text = some digits →
    ∃ before, Meets file start text before digits ∧
      ∀ earlier others, Meets file start text earlier others → before.length ≤ earlier.length := by
  induction text with
  | nil =>
    intro start found
    unfold digitsFrom? at found
    split at found
    · rename_i begins
      exact ⟨[], ⟨begins, [], rfl, found⟩, fun _ _ _ => Nat.zero_le _⟩
    · exact absurd found (by simp)
  | cons c text ih =>
    intro start found
    unfold digitsFrom? at found
    split at found
    · rename_i others here
      obtain rfl := Option.some.inj found
      cases start with
      | false => exact absurd here (by simp)
      | true => exact ⟨[], meets_cons.mpr (.inl ⟨rfl, rfl, here⟩), fun _ _ _ => Nat.zero_le _⟩
    · rename_i nothing
      obtain ⟨before, meets, first⟩ := ih found
      refine ⟨c :: before, meets_cons.mpr (.inr ⟨before, rfl, meets⟩), ?_⟩
      intro earlier others met
      rcases meets_cons.mp met with ⟨-, rfl, here⟩ | ⟨behind, rfl, later⟩
      · exact absurd (nothing.symm.trans here) (by simp)
      · exact Nat.succ_le_succ (first behind others later)

/-- If the search finds nothing, there is no reference. -/
theorem not_meets_of_digitsFrom? : ∀ {start : Bool} {before digits : Text},
    digitsFrom? file start text = none → ¬Meets file start text before digits := by
  induction text with
  | nil =>
    rintro start before digits nothing ⟨may, rest, whole, here⟩
    obtain ⟨rfl, rfl⟩ := List.append_eq_nil_iff.mp whole.symm
    have begins : start = true := may
    rw [digitsFrom?, if_pos begins, here] at nothing
    exact absurd nothing (by simp)
  | cons c text ih =>
    intro start before digits nothing met
    unfold digitsFrom? at nothing
    split at nothing
    · exact absurd nothing (by simp)
    · rename_i nothingHere
      rcases meets_cons.mp met with ⟨-, rfl, here⟩ | ⟨others, -, later⟩
      · exact absurd (nothingHere.symm.trans here) (by simp)
      · exact ih nothing later

/-- A place has one reference at most. -/
theorem Refers.unique {other others : Text} (h : Refers file text before digits)
    (h' : Refers file text other others) (same : before.length = other.length) : digits = others := by
  obtain ⟨rest, whole, reads⟩ := h.reads
  obtain ⟨rest', whole', reads'⟩ := h'.reads
  obtain ⟨rfl, rfl⟩ := List.append_inj (whole.symm.trans whole') same
  exact Option.some.inj ((digitsHere?_eq_some.mpr reads).symm.trans (digitsHere?_eq_some.mpr reads'))

/-- The first reference is found. -/
theorem digits?_eq_some : digits? file text = some digits ↔ ∃ before, IsFirst file text before digits := by
  have sound : ∀ {digits}, digits? file text = some digits → ∃ before, IsFirst file text before digits := by
    intro digits found
    obtain ⟨before, meets, first⟩ := meets_of_digitsFrom? found
    exact ⟨before, meets_iff_refers.mp meets, fun earlier others refers =>
      first earlier others (meets_iff_refers.mpr refers)⟩
  constructor
  · exact sound
  · rintro ⟨before, refers, first⟩
    cases found : digits? file text with
    | none => exact absurd (meets_iff_refers.mpr refers) (not_meets_of_digitsFrom? found)
    | some others =>
      obtain ⟨other, refers', first'⟩ := sound found
      have same : other.length = before.length :=
        Nat.le_antisymm (first' _ _ refers) (first _ _ refers')
      rw [refers'.unique refers same]

/-- Nothing is found if and only if there is no reference. -/
theorem digits?_eq_none : digits? file text = none ↔ ∀ before digits, ¬Refers file text before digits := by
  constructor
  · exact fun nothing before digits refers =>
      not_meets_of_digitsFrom? nothing (meets_iff_refers.mpr refers)
  · intro none
    cases found : digits? file text with
    | none => rfl
    | some digits =>
      obtain ⟨before, refers, -⟩ := digits?_eq_some.mp found
      exact absurd refers (none before digits)

/-- A line number with digits that are not too many is read. -/
theorem readLine_eq_ok (few : ∀ digits ∈ digits? file text, digits.length ≤ Text.longestNumeral) :
    readLine file text = .ok (line? file text) := by
  unfold readLine line?
  cases found : digits? file text with
  | none => rfl
  | some digits => simp only [Text.numeralValue?, if_pos (few digits found), Option.map_some]

/-- A line number with too many digits is told to be unreadable. -/
theorem readLine_eq_error (found : digits? file text = some digits)
    (many : Text.longestNumeral < digits.length) : readLine file text = .error .unreadableLine := by
  unfold readLine
  simp only [found, Text.numeralValue?, if_neg (Nat.not_le.mpr many)]

/-! ## References behind a blank -/

/-- Where a text without the name of the file and a blank stand in front of it, there is no earlier
reference. -/
theorem length_le_of_refers {mark : Char} {behind others : Text}
    (unbroken : ∀ c ∈ file, Text.isBlank c = false) (absent : ¬file <:+: text)
    (blank : Text.isBlank mark = true)
    (refers : Refers file (text ++ mark :: behind) before others) :
    (text ++ [mark]).length ≤ before.length := by
  have notMem : mark ∉ file := fun mem => by simp [unbroken mark mem] at blank
  have nonempty : file ≠ [] := by
    rintro rfl
    exact absent (List.nil_infix)
  obtain ⟨_, whole, -, -, column, rest, -, rfl⟩ := refers.reads
  rcases List.append_eq_append_iff.mp whole with ⟨front, rfl, tail_eq⟩ | ⟨front, rfl, tail_eq⟩
  · cases front with
    | nil =>
      -- the name would begin with the blank
      obtain ⟨c, others, rfl⟩ := List.exists_cons_of_ne_nil nonempty
      rw [List.nil_append, List.cons_append, List.cons.injEq] at tail_eq
      exact absurd (tail_eq.1 ▸ List.mem_cons_self) notMem
    | cons c front => simp
  · rcases List.append_eq_append_iff.mp tail_eq with ⟨inner, rfl, -⟩ | ⟨inner, rfl, cut⟩
    · exact absurd (List.infix_append' before file inner) absent
    · cases inner with
      | nil => exact absurd (by simpa using List.suffix_append before front |>.isInfix) absent
      | cons c inner =>
        rw [List.cons_append, List.cons.injEq] at cut
        exact absurd (by simp [cut.1]) notMem

/-- A reference is found behind a blank. -/
theorem digits?_behind_blank {mark : Char} {behind : Text}
    (unbroken : ∀ c ∈ file, Text.isBlank c = false) (absent : ¬file <:+: text)
    (blank : Text.isBlank mark = true) (reads : Reads file behind digits) :
    digits? file (text ++ mark :: behind) = some digits := by
  refine digits?_eq_some.mpr ⟨text ++ [mark], ⟨?_, behind, by simp, reads⟩, ?_⟩
  · intro c last
    rw [List.getLast?_concat] at last
    obtain rfl := Option.some.inj last
    exact .inl blank
  · exact fun earlier others refers => length_le_of_refers unbroken absent blank refers

/-- A reference is read with the number of its line. -/
theorem reads_reference (file rest : Text) (line column : Nat) :
    Reads file (file ++ ':' :: (Text.ofNat line ++ ':' :: (Text.ofNat column ++ rest)))
      (Text.ofNat line) := by
  obtain ⟨first, others, spelled⟩ := List.exists_cons_of_ne_nil (Text.ofNat_ne_nil column)
  refine ⟨Text.ofNat_ne_nil line, fun c => Text.isDigit_ofNat, first, others ++ rest, ?_, ?_⟩
  · exact Text.isDigit_ofNat (spelled ▸ List.mem_cons_self)
  · rw [spelled, List.cons_append]

/-- A diagnostic tells the line of its first reference to a file, and tells none if and only if there is no
reference; the line is read unless it has too many digits. A reference behind a blank is the first if the name
of the file, which has no blanks, does not occur in front of it, and where the name only occurs at the end of
other names nothing refers to the file. -/
theorem first_reference_is_told (file : Text) :
    (∀ diagnostic number, line? file diagnostic = some number ↔
      ∃ before digits, IsFirst file diagnostic before digits ∧ Text.digitsValue digits = number) ∧
    (∀ diagnostic, (line? file diagnostic).isSome = true ↔
      ∃ before digits, Refers file diagnostic before digits) ∧
    (∀ diagnostic, (∀ before digits, IsFirst file diagnostic before digits →
        digits.length ≤ Text.longestNumeral) →
      readLine file diagnostic = .ok (line? file diagnostic)) ∧
    (∀ before blank line column after, (∀ c ∈ file, Text.isBlank c = false) → ¬file <:+: before →
      Text.isBlank blank = true →
      line? file (before ++ blank ::
        (file ++ ':' :: (Text.ofNat line ++ ':' :: (Text.ofNat column ++ after)))) = some line) ∧
    (∀ diagnostic, (∀ before after, diagnostic = before ++ (file ++ after) →
        ∃ c, before.getLast? = some c ∧ isBoundary c = false) →
      line? file diagnostic = none) := by
  refine ⟨?_, ?_, ?_, ?_, ?_⟩
  · intro diagnostic number
    unfold line?
    rw [Option.map_eq_some_iff]
    constructor
    · rintro ⟨digits, found, value⟩
      obtain ⟨before, first⟩ := digits?_eq_some.mp found
      exact ⟨before, digits, first, value⟩
    · rintro ⟨before, digits, first, value⟩
      exact ⟨digits, digits?_eq_some.mpr ⟨before, first⟩, value⟩
  · intro diagnostic
    rw [line?, Option.isSome_map]
    constructor
    · intro found
      obtain ⟨digits, found⟩ := Option.isSome_iff_exists.mp found
      obtain ⟨before, refers, -⟩ := digits?_eq_some.mp found
      exact ⟨before, digits, refers⟩
    · rintro ⟨before, digits, refers⟩
      refine Option.isSome_iff_ne_none.mpr fun nothing => ?_
      exact digits?_eq_none.mp nothing before digits refers
  · intro diagnostic few
    apply readLine_eq_ok
    intro digits found
    obtain ⟨before, first⟩ := digits?_eq_some.mp found
    exact few before digits first
  · intro before blank line column after unbroken absent isBlank
    have found := digits?_behind_blank unbroken absent isBlank (reads_reference file after line column)
    rw [line?, found, Option.map_some, Text.digitsValue_ofNat]
  · intro diagnostic ends
    have nothing : digits? file diagnostic = none := by
      refine digits?_eq_none.mpr fun before digits refers => ?_
      obtain ⟨_, whole, -, -, column, rest, -, rfl⟩ := refers.reads
      obtain ⟨c, last, inside⟩ := ends before _ whole
      have boundary : isBoundary c = true := isBoundary_iff.mpr (refers.begins c last)
      rw [inside] at boundary
      exact absurd boundary (by simp)
    rw [line?, nothing, Option.map_none]

/-- The name of a file. -/
def mainName : Text := "main.typ".toList

/-- What ends with the name of the file. -/
def subReference : Text := "submain.typ:4:1".toList

/-- A reference to the file, behind one that ends with its name. -/
def twoReferences : Text := "lib.typ:4:1\n  ┌─ main.typ:37:5 main.typ:2:2".toList

/-- Of two references the first is told, and none inside another name. -/
theorem twoReferences_told :
    line? mainName twoReferences = some 37 ∧
    readLine mainName twoReferences = .ok (line? mainName twoReferences) ∧
    line? mainName subReference = none := by
  obtain ⟨-, -, read, told, ignored⟩ := first_reference_is_told mainName
  have unbroken : ∀ c ∈ mainName, Text.isBlank c = false := by
    have all : (mainName.all fun c => !Text.isBlank c) = true := by decide
    simpa using all
  have absent : ¬mainName <:+: "lib.typ:4:1\n  ┌─".toList := fun inside =>
    absurd (inside.subset (show 'm' ∈ mainName by decide)) (by decide)
  have parts : twoReferences = "lib.typ:4:1\n  ┌─".toList ++ ' ' ::
      (mainName ++ ':' :: (Text.ofNat 37 ++ ':' :: (Text.ofNat 5 ++ " main.typ:2:2".toList))) := by
    decide
  have only : digits? mainName twoReferences = some ['3', '7'] := by decide
  refine ⟨?_, read twoReferences ?_, ignored subReference ?_⟩
  · rw [parts]
    exact told _ ' ' 37 5 _ unbroken absent (by decide)
  · intro before digits first
    have found : digits? mainName twoReferences = some digits := digits?_eq_some.mpr ⟨before, first⟩
    obtain rfl := Option.some.inj (found.symm.trans only)
    decide
  · intro before after whole
    have named : mainName.isPrefixOf (subReference.drop before.length) = true := by
      rw [whole, List.drop_left]
      exact List.isPrefixOf_iff_prefix.mpr (List.prefix_append mainName after)
    have short : before.length < 16 := by
      have lengths : subReference.length = before.length + (mainName ++ after).length := by
        rw [whole, List.length_append]
      have fifteen : subReference.length = 15 := by decide
      omega
    have places : ∀ n < 16, mainName.isPrefixOf (subReference.drop n) = true → n = 3 := by decide
    have front : before = subReference.take 3 := by
      rw [← places _ short named, whole, List.take_left]
    refine ⟨'b', ?_, by decide⟩
    rw [front]
    decide

end Diagnostic

end TypstFences
