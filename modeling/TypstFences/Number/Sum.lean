import TypstFences.Number.Binary64

/-!
# Sums and products of double-precision numbers

Each is the value nearest to the exact one.
-/

set_option autoImplicit false

namespace TypstFences.Binary64

/-- The value nearest to `number * 2 ^ exponent`; a zero has the given sign. -/
def ofScaled (zeroSign : Bool) (number : Int) (exponent : Int) : Binary64 :=
  if number = 0 then zero zeroSign
  else if 0 ≤ exponent then ofFraction (number < 0) (number.natAbs * Nat.pow 2 exponent.toNat) 1
  else ofFraction (number < 0) number.natAbs (Nat.pow 2 (-exponent).toNat)

/-- A mantissa with its sign. -/
def signed (negative : Bool) (mantissa : Nat) : Int :=
  if negative then -(mantissa : Int) else mantissa

/-- The value with the other sign. -/
def neg : Binary64 → Binary64
  | .finite negative mantissa exponent => .finite (!negative) mantissa exponent
  | .infinite negative => .infinite (!negative)
  | .nan => .nan

/-- The sum of two values. Infinities of different signs have none. -/
def add : Binary64 → Binary64 → Binary64
  | .finite s m e, .finite t n f =>
    let least := min e f
    ofScaled (s && t)
      (signed s m * Nat.pow 2 (e - least).toNat + signed t n * Nat.pow 2 (f - least).toNat) least
  | .finite .., .infinite t => .infinite t
  | .infinite s, .finite .. => .infinite s
  | .infinite s, .infinite t => if s = t then .infinite s else .nan
  | _, _ => .nan

/-- The product of two values. An infinity and zero have none. -/
def mul : Binary64 → Binary64 → Binary64
  | .finite s m e, .finite t n f => ofScaled (s != t) (signed s m * signed t n) (e + f)
  | .finite s m _, .infinite t => if m = 0 then .nan else .infinite (s != t)
  | .infinite s, .finite t n _ => if n = 0 then .nan else .infinite (s != t)
  | .infinite s, .infinite t => .infinite (s != t)
  | _, _ => .nan

/-- A sum does not depend on the order of its parts. -/
theorem add_comm (x y : Binary64) : x.add y = y.add x := by
  cases x <;> cases y <;> simp only [add]
  · rw [Int.min_comm, Int.add_comm, Bool.and_comm]
  · rename_i s t
    cases s <;> cases t <;> rfl

end TypstFences.Binary64
