import TypstFences.Json.Reader
import TypstFences.Json.Writer

/-!
# JSON texts are read back

Each character of a text is written so that the reader takes just what was written for it
(`readString_escapeChar`); hence a text is read back up to its closing quote (`readString_flatMap`),
and two texts in quotes with something behind them are equal only if both parts are
(`writeText_inj`). An object whose values are texts, truth values or nothing is told by what is
written for it (`write_object_inj`).
-/

set_option autoImplicit false

namespace TypstFences.Json

variable {rest other : Text}

/-! ## One character -/

/-- A hexadecimal digit stands for its number. -/
theorem hexDigit?_digitChar {n : Nat} (h : n < 16) : Text.hexDigit? (Nat.digitChar n) = some n := by
  revert n
  decide

/-- The digits of the escape of a code unit. -/
def unitDigits (unit : Nat) : Text :=
  [Nat.digitChar (unit / 0x1000 % 0x10), Nat.digitChar (unit / 0x100 % 0x10),
    Nat.digitChar (unit / 0x10 % 0x10), Nat.digitChar (unit % 0x10)]

/-- The digits of a code unit are read back. -/
theorem readUnit?_unitDigits {unit : Nat} (small : unit < 0x10000) (rest : Text) :
    readUnit? (unitDigits unit ++ rest) = some (unit, rest) := by
  have digit (n : Nat) : Text.hexDigit? (Nat.digitChar (n % 16)) = some (n % 16) :=
    hexDigit?_digitChar (Nat.mod_lt n (by decide))
  have value : ((unit / 0x1000 % 0x10 * 16 + unit / 0x100 % 0x10) * 16 + unit / 0x10 % 0x10) * 16 +
      unit % 0x10 = unit := by omega
  simp [unitDigits, readUnit?, Text.hexValue?, Text.valueInBase, digit, value]

/-- A code unit that is no surrogate is a character. -/
theorem joinSurrogates_alone {unit : Nat} (alone : ¬(0xd800 ≤ unit ∧ unit < 0xe000)) (rest : Text) :
    joinSurrogates unit rest = .ok (Char.ofNat unit, rest) := by
  unfold joinSurrogates
  rw [if_neg (by omega), if_neg alone]

/-- A high and a low surrogate are one character. -/
theorem joinSurrogates_pair {high low : Nat} (highs : 0xd800 ≤ high ∧ high < 0xdc00)
    (lows : 0xdc00 ≤ low ∧ low < 0xe000) (rest : Text) :
    joinSurrogates high (unitEscape low ++ rest) =
      .ok (Char.ofNat (0x10000 + (high - 0xd800) * 0x400 + (low - 0xdc00)), rest) := by
  have small : low < 0x10000 := by omega
  have read := readUnit?_unitDigits small rest
  have escaped : unitEscape low ++ rest = '\\' :: 'u' :: (unitDigits low ++ rest) := rfl
  rw [escaped]
  unfold joinSurrogates
  rw [if_pos highs]
  simp only [read, if_pos lows]

/-- The number of a character is no surrogate. -/
theorem toNat_notSurrogate (c : Char) : c.toNat < 0xd800 ∨ 0xe000 ≤ c.toNat ∧ c.toNat < 0x110000 := by
  have valid := c.valid
  simp only [UInt32.isValidChar, Nat.isValidChar] at valid
  have number : c.toNat = c.val.toNat := rfl
  omega

/-- The reader takes an escape. -/
theorem readString_unitEscape {fuel unit : Nat} {c : Char} (small : unit < 0x10000)
    (joined : joinSurrogates unit other = .ok (c, rest)) :
    readString (fuel + 1) (unitEscape unit ++ other) =
      (readString fuel rest).map fun found => (c :: found.1, found.2) := by
  have escaped : unitEscape unit ++ other = '\\' :: 'u' :: (unitDigits unit ++ other) := rfl
  rw [escaped, readString, readUnit?_unitDigits small]
  simp only [joined, bind, Except.bind]
  cases readString fuel rest <;> rfl

/-- The reader takes the numeric escape of a character. -/
theorem readString_numericEscape (fuel : Nat) (c : Char) (rest : Text) :
    readString (fuel + 1) (numericEscape c ++ rest) =
      (readString fuel rest).map fun found => (c :: found.1, found.2) := by
  have scalar := toNat_notSurrogate c
  unfold numericEscape
  by_cases first : c.toNat < 0x10000
  · -- a character of the first plane is one code unit
    simp only [if_pos first]
    apply readString_unitEscape first
    rw [joinSurrogates_alone (by omega), Char.ofNat_toNat]
  · -- any other is a high and a low surrogate
    simp only [if_neg first, List.append_assoc]
    apply readString_unitEscape (by omega)
    have number : 0x10000 + (0xd800 + (c.toNat - 0x10000) / 0x400 - 0xd800) * 0x400 +
        (0xdc00 + (c.toNat - 0x10000) % 0x400 - 0xdc00) = c.toNat := by omega
    rw [joinSurrogates_pair (by omega) (by omega), number, Char.ofNat_toNat]

/-- The reader takes a short escape. -/
theorem readString_shortEscape {letter c : Char} (short : shortEscape? letter = some c) (fuel : Nat)
    (rest : Text) : readString (fuel + 1) ('\\' :: letter :: rest) =
      (readString fuel rest).map fun found => (c :: found.1, found.2) := by
  have notNumeric : letter ≠ 'u' := by
    rintro rfl
    exact absurd short (by simp [shortEscape?])
  rw [readString]
  · rw [short]
    cases readString fuel rest <;> rfl
  · simpa using notNumeric

/-- The reader takes a character that stands for itself. -/
theorem readString_plain {c : Char} (noQuote : c ≠ '"') (noBackslash : c ≠ '\\')
    (printable : 0x20 ≤ c.toNat) (fuel : Nat) (rest : Text) :
    readString (fuel + 1) (c :: rest) =
      (readString fuel rest).map fun found => (c :: found.1, found.2) := by
  rw [readString]
  · rw [if_neg (by simp [noBackslash]; omega)]
    cases readString fuel rest <;> rfl
  · simpa using noQuote
  · exact fun _ same => absurd same noBackslash
  · exact fun _ _ same => absurd same noBackslash

/-- The reader takes what is written for a character. -/
theorem readString_escapeChar (fuel : Nat) (c : Char) (rest : Text) :
    readString (fuel + 1) (escapeChar c ++ rest) =
      (readString fuel rest).map fun found => (c :: found.1, found.2) := by
  unfold escapeChar
  by_cases quote : c = '"'
  · subst quote
    exact readString_shortEscape rfl fuel rest
  by_cases backslash : c = '\\'
  · subst backslash
    exact readString_shortEscape rfl fuel rest
  by_cases lineFeed : c = '\n'
  · subst lineFeed
    exact readString_shortEscape rfl fuel rest
  by_cases carriageReturn : c = '\r'
  · subst carriageReturn
    exact readString_shortEscape rfl fuel rest
  by_cases tab : c = '\t'
  · subst tab
    exact readString_shortEscape rfl fuel rest
  by_cases formFeed : c = '\x0c'
  · subst formFeed
    exact readString_shortEscape rfl fuel rest
  by_cases backspace : c = '\x08'
  · subst backspace
    exact readString_shortEscape rfl fuel rest
  rw [if_neg quote, if_neg backslash, if_neg lineFeed, if_neg carriageReturn, if_neg tab,
    if_neg formFeed, if_neg backspace]
  split
  · rename_i printable
    exact readString_plain quote backslash printable.1 fuel rest
  · exact readString_numericEscape fuel c rest

/-! ## Texts -/

/-- A text is read back up to the quote after it. -/
theorem readString_flatMap (text : Text) (rest : Text) :
    ∀ {fuel : Nat}, text.length < fuel →
      readString fuel (text.flatMap escapeChar ++ '"' :: rest) = .ok (text, rest) := by
  induction text with
  | nil =>
    intro fuel enough
    obtain ⟨fuel, rfl⟩ := Nat.exists_eq_succ_of_ne_zero (Nat.ne_of_gt enough)
    rfl
  | cons c text ih =>
    intro fuel enough
    obtain ⟨fuel, rfl⟩ := Nat.exists_eq_succ_of_ne_zero (Nat.ne_of_gt (Nat.zero_lt_of_lt enough))
    rw [List.flatMap_cons, List.append_assoc, readString_escapeChar,
      ih (by rw [List.length_cons] at enough; omega)]
    rfl

/-- Two texts in quotes with something behind them are equal only if both parts are. -/
theorem writeText_inj {text otherText : Text}
    (same : writeText text ++ rest = writeText otherText ++ other) :
    text = otherText ∧ rest = other := by
  have inner : text.flatMap escapeChar ++ '"' :: rest =
      otherText.flatMap escapeChar ++ '"' :: other := by
    simpa [writeText] using same
  have enough : text.length < text.length + otherText.length + 1 := by omega
  have read := readString_flatMap text rest enough
  rw [inner, readString_flatMap otherText other (by omega)] at read
  exact ⟨(Prod.mk.inj (Except.ok.inj read)).1.symm, (Prod.mk.inj (Except.ok.inj read)).2.symm⟩

/-! ## Objects -/

/-- Whether a value is a text, a truth value or nothing. -/
inductive IsSimple : Json → Prop
  | null : IsSimple .null
  | bool (value : Bool) : IsSimple (.bool value)
  | string (value : Text) : IsSimple (.string value)

/-- Two simple values with something behind them are equal only if both parts are. -/
theorem IsSimple.write_inj {value otherValue : Json} (simple : IsSimple value)
    (otherSimple : IsSimple otherValue)
    (same : value.write compact ++ rest = otherValue.write compact ++ other) :
    value = otherValue ∧ rest = other := by
  -- the first character tells the kind of the value, and which truth value it is
  have words : "null".toList = ['n', 'u', 'l', 'l'] ∧ "true".toList = ['t', 'r', 'u', 'e'] ∧
      "false".toList = ['f', 'a', 'l', 's', 'e'] := by decide
  obtain ⟨null, true_, false_⟩ := words
  cases simple with
  | null =>
    cases otherSimple with
    | null => simpa [write, compact, null] using same
    | bool b => cases b <;> simp [write, compact, null, true_, false_] at same
    | string text => simp [write, compact, null, writeText] at same
  | bool b =>
    cases otherSimple with
    | null => cases b <;> simp [write, compact, null, true_, false_] at same
    | bool b' => cases b <;> cases b' <;> simp_all [write, compact]
    | string text => cases b <;> simp [write, compact, true_, false_, writeText] at same
  | string text =>
    cases otherSimple with
    | null => simp [write, compact, null, writeText] at same
    | bool b => cases b <;> simp [write, compact, true_, false_, writeText] at same
    | string text' =>
      obtain ⟨texts, rests⟩ := writeText_inj same
      exact ⟨congrArg Json.string texts, rests⟩

/-- Fields with the same keys and simple values are told by what is written for them. -/
theorem writeFields_inj :
    ∀ {fields others : List (Text × Json)}, fields.map Prod.fst = others.map Prod.fst →
      (∀ field ∈ fields, IsSimple field.2) → (∀ field ∈ others, IsSimple field.2) →
      writeFields compact fields ++ rest = writeFields compact others ++ other →
      fields = others ∧ rest = other
  | [], [], _, _, _, same => ⟨rfl, same⟩
  | [], _ :: _, keys, _, _, _ => absurd keys (by simp)
  | _ :: _, [], keys, _, _, _ => absurd keys (by simp)
  | [_], _ :: _ :: _, keys, _, _, _ => absurd keys (by simp)
  | _ :: _ :: _, [_], keys, _, _, _ => absurd keys (by simp)
  | [(key, value)], [(key', value')], keys, simple, simple', same => by
    have value_simple : IsSimple value := simple _ List.mem_cons_self
    have value_simple' : IsSimple value' := simple' _ List.mem_cons_self
    obtain rfl : key = key' := by simpa using keys
    simp only [writeFields, List.append_assoc, List.append_cancel_left_eq] at same
    obtain ⟨rfl, rests⟩ := value_simple.write_inj value_simple' same
    exact ⟨rfl, rests⟩
  | (key, value) :: next :: fields, (key', value') :: next' :: others, keys, simple, simple', same => by
    have value_simple : IsSimple value := simple _ List.mem_cons_self
    have value_simple' : IsSimple value' := simple' _ List.mem_cons_self
    obtain ⟨rfl, more⟩ : key = key' ∧
        (next :: fields).map Prod.fst = (next' :: others).map Prod.fst := by
      simpa using keys
    simp only [writeFields, List.append_assoc, List.append_cancel_left_eq] at same
    obtain ⟨rfl, between⟩ := value_simple.write_inj value_simple' same
    rw [List.append_cancel_left_eq] at between
    obtain ⟨tails, rests⟩ := writeFields_inj more
      (fun field mem => simple field (List.mem_cons_of_mem _ mem))
      (fun field mem => simple' field (List.mem_cons_of_mem _ mem)) between
    exact ⟨congrArg (List.cons _) tails, rests⟩

/-- Objects with the same keys and simple values are told by what is written for them. -/
theorem write_object_inj {fields others : List (Text × Json)}
    (keys : fields.map Prod.fst = others.map Prod.fst) (simple : ∀ field ∈ fields, IsSimple field.2)
    (otherSimple : ∀ field ∈ others, IsSimple field.2)
    (same : (Json.object fields).write compact = (Json.object others).write compact) :
    fields = others := by
  have inner : writeFields compact fields ++ ['\x7d'] = writeFields compact others ++ ['\x7d'] := by
    simpa [write] using same
  exact (writeFields_inj keys simple otherSimple inner).1

end TypstFences.Json
