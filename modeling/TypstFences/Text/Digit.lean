import TypstFences.Text.Basic

/-!
# Digits

The decimal digits of all scripts; every script has its ten digits in one run, from zero to nine. Digits
in other bases are those of ASCII.
-/

set_option autoImplicit false

namespace TypstFences.Text

/-- The code points of the zeros of all scripts. -/
def zeros : List Nat :=
  [0x0030, 0x0660, 0x06f0, 0x07c0, 0x0966, 0x09e6, 0x0a66, 0x0ae6, 0x0b66, 0x0be6, 0x0c66, 0x0ce6,
    0x0d66, 0x0de6, 0x0e50, 0x0ed0, 0x0f20, 0x1040, 0x1090, 0x17e0, 0x1810, 0x1946, 0x19d0, 0x1a80,
    0x1a90, 0x1b50, 0x1bb0, 0x1c40, 0x1c50, 0xa620, 0xa8d0, 0xa900, 0xa9d0, 0xa9f0, 0xaa50, 0xabf0,
    0xff10, 0x104a0, 0x10d30, 0x11066, 0x110f0, 0x11136, 0x111d0, 0x112f0, 0x11450, 0x114d0, 0x11650,
    0x116c0, 0x11730, 0x118e0, 0x11950, 0x11c50, 0x11d50, 0x11da0, 0x16a60, 0x16ac0, 0x16b50,
    0x1d7ce, 0x1d7d8, 0x1d7e2, 0x1d7ec, 0x1d7f6, 0x1e140, 0x1e2f0, 0x1e950, 0x1fbf0]

/-- The number that a decimal digit stands for. -/
def digit? (c : Char) : Option Nat :=
  (zeros.find? fun first => first ≤ c.toNat && c.toNat ≤ first + 9).map (c.toNat - ·)

/-- Whether a character is a decimal digit. -/
def isDigit (c : Char) : Bool := (digit? c).isSome

/-- The number that decimal digits stand for. -/
def digitsValue (digits : Text) : Nat := digits.foldl (fun n c => n * 10 + (digit? c).getD 0) 0

/-- The length of the longest numerals that are read, so that reading one never takes long. -/
def longestNumeral : Nat := 4300

/-- The number that decimal digits stand for, unless there are too many of them. -/
def numeralValue? (digits : Text) : Option Nat :=
  if digits.length ≤ longestNumeral then some (digitsValue digits) else none

/-- The number that a hexadecimal digit stands for. -/
def hexDigit? (c : Char) : Option Nat :=
  if '0' ≤ c ∧ c ≤ '9' then some (c.toNat - '0'.toNat)
  else if 'a' ≤ c ∧ c ≤ 'f' then some (c.toNat - 'a'.toNat + 10)
  else if 'A' ≤ c ∧ c ≤ 'F' then some (c.toNat - 'A'.toNat + 10)
  else none

/-- The number that digits stand for in a base up to sixteen. -/
def valueInBase (base : Nat) (digits : Text) : Nat :=
  digits.foldl (fun n c => n * base + (hexDigit? c).getD 0) 0

/-- The number that a text of hexadecimal digits stands for; there must be one. -/
def hexValue? (digits : Text) : Option Nat :=
  if !digits.isEmpty && digits.all (hexDigit? · |>.isSome) then some (valueInBase 16 digits) else none

end TypstFences.Text
