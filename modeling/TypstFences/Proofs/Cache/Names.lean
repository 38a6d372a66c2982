import TypstFences.Cache.Store
import TypstFences.Digest.Sha256
import TypstFences.Proofs.Files.Glob

/-!
# The names of page files

The name of a page file tells the key, the page and the format (`pageName_inj`), the pattern for the
first page of a key accepts no other page file (`accepts_firstPage`), and the name under which a
file is written at first is never that of a page file (`draftName_ne_pageName`). Where the file
system admits the draft of the last page, it admits all files of the artifact (`admits_draft`,
`admits_page`).
-/

set_option autoImplicit false

namespace TypstFences

/-- Whether an artifact can be read back from page files: it has a page, and a format that has
neither dots nor slashes. -/
structure Artifact.IsPlain (artifact : Artifact) : Prop where
  pages : artifact.pages ≠ []
  format : artifact.format ≠ []
  noDot : '.' ∉ artifact.format
  noSlash : '/' ∉ artifact.format

namespace Text

/-- A numeral has digits only. -/
theorem notMem_ofNat {c : Char} (h : c.isDigit = false) (n : Nat) : c ∉ ofNat n := by
  intro mem
  have digit := Nat.isDigit_of_mem_toDigits (by decide) (by decide) mem
  rw [h] at digit
  exact absurd digit (by decide)

/-- Different numbers have different numerals. -/
theorem ofNat_inj {m n : Nat} (h : ofNat m = ofNat n) : m = n := by
  have digits := congrArg (fun numeral => Nat.ofDigitChars 10 numeral 0) h
  simpa only [ofNat, Nat.ofDigitChars_ten_toDigits] using digits

/-- A numeral has no more digits than that of a greater number. -/
theorem length_ofNat_mono {m n : Nat} (h : m ≤ n) : (ofNat m).length ≤ (ofNat n).length := by
  have pos : 0 < (ofNat n).length := Nat.length_toDigits_pos
  have bound : n < 10 ^ (ofNat n).length :=
    (Nat.length_toDigits_le_iff (by decide) pos).mp (Nat.le_refl _)
  exact (Nat.length_toDigits_le_iff (by decide) pos).mpr (by omega)

/-- The next number has at most one digit more. -/
theorem length_ofNat_succ (n : Nat) : (ofNat (n + 1)).length ≤ (ofNat n).length + 1 := by
  have pos : 0 < (ofNat n).length := Nat.length_toDigits_pos
  have bound : n < 10 ^ (ofNat n).length :=
    (Nat.length_toDigits_le_iff (by decide) pos).mp (Nat.le_refl _)
  apply (Nat.length_toDigits_le_iff (by decide) (by omega)).mpr
  rw [Nat.pow_succ]
  omega

/-- Each digit of a numeral is one byte. -/
theorem byteCount_ofNat (n : Nat) : FileTree.byteCount (ofNat n) = (ofNat n).length := by
  have one : ∀ c ∈ ofNat n, c.utf8Size = 1 := by
    intro c mem
    have digit := Nat.isDigit_of_mem_toDigits (by decide) (by decide) mem
    simp only [Char.isDigit, Bool.and_eq_true, decide_eq_true_eq] at digit
    have small : c.val ≤ 0x7f := UInt32.le_trans digit.2 (by decide)
    simp [Char.utf8Size, small]
  generalize ofNat n = digits at one
  unfold FileTree.byteCount
  induction digits with
  | nil => rfl
  | cons c digits ih =>
    have rest := ih fun d mem => one d (List.mem_cons_of_mem c mem)
    rw [List.foldr_cons, one c List.mem_cons_self, rest, List.length_cons, Nat.add_comm]

end Text

namespace Store

variable {directory : Path} {tag key other format : Text} {page : Nat}

/-- The digits of keys. -/
def hexDigits : Text := "0123456789abcdefABCDEF".toList

/-- Whether a text is a key: it has sixty-four hexadecimal digits. -/
structure IsKey (key : Text) : Prop where
  length : key.length = 64
  digits : ∀ c ∈ key, c ∈ hexDigits

/-- A character that is no hexadecimal digit is not in a key. -/
theorem IsKey.notMem (h : IsKey key) {c : Char} (notDigit : c ∉ hexDigits) : c ∉ key :=
  fun mem => notDigit (h.digits c mem)

/-- A digest is a key. -/
theorem isKey_hexDigest (message : Bytes) : IsKey (Sha256.hexDigest message) where
  length := by simp [Sha256.hexDigest, Sha256.hexWord]
  digits := by
    have digit : ∀ n < 16, Nat.digitChar n ∈ hexDigits := by decide
    intro c mem
    obtain ⟨word, -, mem⟩ := List.mem_flatMap.mp mem
    obtain ⟨i, -, rfl⟩ := List.mem_map.mp mem
    exact digit _ (Nat.mod_lt _ (by decide))

/-- A page file tells its key, its page and its format. -/
theorem pageName_inj {page otherPage : Nat} {format otherFormat : Text} (h : IsKey key)
    (h' : IsKey other)
    (same : pageName key page format = pageName other otherPage otherFormat) :
    key = other ∧ page = otherPage ∧ format = otherFormat := by
  have lengths : key.length = other.length := by rw [h.length, h'.length]
  rw [pageName, pageName, List.append_assoc, List.append_assoc] at same
  obtain ⟨keys, rests⟩ := List.append_inj same lengths
  rw [List.cons_append, List.cons_append, List.cons.injEq] at rests
  obtain ⟨numbers, formats⟩ := Text.append_cons_inj (Text.notMem_ofNat (by decide) page)
    (Text.notMem_ofNat (by decide) otherPage) rests.2
  exact ⟨keys, Text.ofNat_inj numbers, formats⟩

/-- A page file has a name. -/
theorem pageName_isName (h : IsKey key) (page : Nat) (noSlash : '/' ∉ format) :
    Path.IsName (pageName key page format) where
  nonempty := by simp [pageName]
  noSlash := by
    have keySlash : '/' ∉ key := h.notMem (by decide)
    have numberSlash : '/' ∉ Text.ofNat page := Text.notMem_ofNat (by decide) page
    simp [pageName, keySlash, numberSlash, noSlash]
  notHere := by
    intro same
    have length := congrArg List.length same
    simp [pageName, h.length] at length
    omega
  notParent := by
    intro same
    have length := congrArg List.length same
    simp [pageName, h.length, Path.parentName] at length
    omega

/-- A page file is in the directory. -/
theorem pagePath_eq (h : IsKey key) (page : Nat) (noSlash : '/' ∉ format) :
    pagePath directory key page format = directory.entry (pageName key page format) :=
  Path.child_of_isName (pageName_isName h page noSlash)

/-! ## The pattern for the first page -/

/-- What the name of the first page of a key begins with. -/
def firstPrefix (key : Text) : Text := key ++ ['-', '1', '.']

/-- The names of first pages are what begins so. -/
theorem firstPrefix_append (key rest : Text) : firstPrefix key ++ rest = pageName key 1 rest := by
  simp [pageName, firstPrefix, show Text.ofNat 1 = ['1'] from by decide]

/-- The pieces of the pattern for the first page of a key. -/
def firstPattern (key : Text) : List GlobToken := (firstPrefix key).map .char ++ [.many]

/-- The pattern for the first page of a key. -/
theorem read_firstPage (h : IsKey key) :
    Glob.read (pageName key 1 ['*']) = .ok ⟨[.pattern (firstPattern key)], false⟩ := by
  have plain : ∀ c ∈ firstPrefix key, GlobToken.standsForItself c = true := by
    have digits : hexDigits.all GlobToken.standsForItself = true := by decide
    have others : ['-', '1', '.'].all GlobToken.standsForItself = true := by decide
    intro c mem
    rcases List.mem_append.mp mem with inKey | inRest
    · exact List.all_eq_true.mp digits c (h.digits c inKey)
    · exact List.all_eq_true.mp others c inRest
  have noAsterisk : '*' ∉ firstPrefix key := fun mem => absurd (plain _ mem) (by decide)
  have parts : Text.splitOn '*' (firstPrefix key ++ ['*']) = [firstPrefix key, []] := by
    rw [Text.splitOn_append [] noAsterisk]
    rfl
  have noSlash : '/' ∉ ['*'] := by decide
  have isName := pageName_isName h 1 noSlash
  have part : Glob.readPart (firstPrefix key ++ ['*']) = .ok (.pattern (firstPattern key)) := by
    have long : firstPrefix key ++ ['*'] ≠ ['*', '*'] := by
      intro same
      have length := congrArg List.length same
      simp [firstPrefix] at length
    rw [Glob.readPart, if_neg long, parts, if_neg (by simp), if_pos (by simp),
      GlobToken.read_prefix plain]
    rfl
  rw [← firstPrefix_append] at isName ⊢
  unfold Glob.read
  rw [Path.ofText_of_isName isName]
  have nonempty : (firstPrefix key ++ ['*']).isEmpty = false := by simp
  simp [nonempty, Path.isAbsolute, Glob.mostParts, part]

/-- The pattern for the first page of a key accepts that page file alone. -/
theorem accepts_firstPage (h : IsKey key) (h' : IsKey other) :
    GlobToken.accepts (firstPattern key) (pageName other page format) = true ↔
      other = key ∧ page = 1 := by
  unfold firstPattern
  rw [GlobToken.accepts_prefix, List.isPrefixOf_iff_prefix]
  constructor
  · rintro ⟨rest, eq⟩
    have same : pageName other page format = pageName key 1 rest := by
      rw [← eq, firstPrefix_append]
    obtain ⟨keys, pages, -⟩ := pageName_inj h' h same
    exact ⟨keys, pages⟩
  · rintro ⟨rfl, rfl⟩
    exact ⟨format, firstPrefix_append other format⟩

/-- The format of a page file is read off its name. -/
theorem format_of_suffix (format_ne : format ≠ []) (noDot : '.' ∉ format) :
    (directory.entry (pageName key page format)).suffix.dropWhile (· == '.') = format := by
  have stem : key ++ '-' :: Text.ofNat page ≠ [] := by simp
  unfold pageName
  rw [Path.suffix_entry stem format_ne noDot, List.dropWhile_cons_of_pos (by simp)]
  cases format with
  | nil => rfl
  | cons c rest =>
    have notDot : c ≠ '.' := fun same => noDot (by simp [same])
    rw [List.dropWhile_cons_of_neg (by simpa using notDot)]

/-! ## The names of drafts -/

/-- The name under which a file is written before it takes its name. -/
def draftName (tag name : Text) : Text := '.' :: name ++ '.' :: tag ++ ".tmp".toList

/-- A draft is in the directory of its file. -/
theorem draftPath_entry (tag : Text) (name : Text) :
    draftPath tag (directory.entry name) = directory.entry (draftName tag name) := by
  simp [draftPath, draftName]

/-- A draft has a name of its own. -/
theorem draftName_ne_pageName (tag name : Text) (h : IsKey key) (page : Nat) (format : Text) :
    draftName tag name ≠ pageName key page format := by
  cases key with
  | nil => exact absurd h.length (by simp)
  | cons c key =>
    intro same
    have first : '.' = c := (List.cons.inj same).1
    exact absurd (h.digits c (by simp)) (by rw [← first]; decide)

/-- A draft is not the directory above. -/
theorem draftName_ne_parentName (tag name : Text) : draftName tag name ≠ Path.parentName := by
  intro same
  have length := congrArg List.length same
  simp [draftName, Path.parentName] at length
  omega

/-- The bytes of the name of a page file. -/
theorem byteCount_pageName (key : Text) (page : Nat) (format : Text) :
    FileTree.byteCount (pageName key page format) =
      FileTree.byteCount key + (Text.ofNat page).length + FileTree.byteCount format + 2 := by
  have hyphen : FileTree.byteCount ['-'] = 1 := by decide
  have dot : FileTree.byteCount ['.'] = 1 := by decide
  unfold pageName
  rw [← List.singleton_append, ← List.singleton_append (x := '.')]
  simp only [FileTree.byteCount_append, Text.byteCount_ofNat, hyphen, dot]
  omega

/-- The bytes of the name of a draft. -/
theorem byteCount_draftName (tag name : Text) :
    FileTree.byteCount (draftName tag name) =
      FileTree.byteCount name + FileTree.byteCount tag + 6 := by
  have dot : FileTree.byteCount ['.'] = 1 := by decide
  have ending : FileTree.byteCount ".tmp".toList = 4 := by decide
  unfold draftName
  rw [← List.singleton_append, ← List.singleton_append (x := '.') (l := tag)]
  simp only [FileTree.byteCount_append, dot, ending]
  omega

/-- Where a page is admitted, so is an earlier page. -/
theorem admits_earlier {last : Nat} (h : IsKey key) (earlier : page ≤ last)
    (admitted : FileTree.admits directory (pageName key last format) = true) :
    FileTree.admits directory (pageName key page format) = true := by
  have clean := (FileTree.admits_iff.mp admitted).1
  refine FileTree.admits_of_le admitted ?_ ?_
  · have keyClean : '\x00' ∉ key := h.notMem (by decide)
    have numberClean (n : Nat) : '\x00' ∉ Text.ofNat n := Text.notMem_ofNat (by decide) n
    simpa [pageName, keyClean, numberClean] using clean
  · have := Text.length_ofNat_mono earlier
    rw [byteCount_pageName, byteCount_pageName]
    omega

/-- Where the draft of a page is admitted, so is that of an earlier page. -/
theorem admits_draft {last : Nat} (h : IsKey key) (earlier : page ≤ last)
    (admitted : FileTree.admits directory (draftName tag (pageName key last format)) = true) :
    FileTree.admits directory (draftName tag (pageName key page format)) = true := by
  have clean := (FileTree.admits_iff.mp admitted).1
  refine FileTree.admits_of_le admitted ?_ ?_
  · have keyClean : '\x00' ∉ key := h.notMem (by decide)
    have numberClean (n : Nat) : '\x00' ∉ Text.ofNat n := Text.notMem_ofNat (by decide) n
    simpa [draftName, pageName, keyClean, numberClean] using clean
  · have := Text.length_ofNat_mono earlier
    rw [byteCount_draftName, byteCount_draftName, byteCount_pageName, byteCount_pageName]
    omega

/-- Where the draft of the last page is admitted, so are the page files, and looking for one page
more. -/
theorem admits_page {last : Nat} (h : IsKey key) (near : page ≤ last + 1)
    (admitted : FileTree.admits directory (draftName tag (pageName key last format)) = true) :
    FileTree.admits directory (pageName key page format) = true := by
  have clean := (FileTree.admits_iff.mp admitted).1
  refine FileTree.admits_of_le admitted ?_ ?_
  · have keyClean : '\x00' ∉ key := h.notMem (by decide)
    have numberClean (n : Nat) : '\x00' ∉ Text.ofNat n := Text.notMem_ofNat (by decide) n
    simp only [draftName, pageName, List.mem_append, List.mem_cons, keyClean, numberClean] at clean ⊢
    simp_all
  · have mono := Text.length_ofNat_mono near
    have next := Text.length_ofNat_succ last
    rw [byteCount_draftName, byteCount_pageName, byteCount_pageName]
    omega

end Store

end TypstFences
