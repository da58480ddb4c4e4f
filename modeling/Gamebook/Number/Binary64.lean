-- Floating-point numbers of 64 bits, as the bit patterns they are stored in: which are finite,
-- and which one is nearest to an integer. Powers are those of `Nat.pow`, whatever else is a power
-- where this is read.
namespace Gamebook

/-- A floating-point number of 64 bits, by its bit pattern. -/
structure Binary64 where
  bits : UInt64
  deriving DecidableEq, Repr

namespace Binary64

/-! ## The parts of a pattern -/

def pattern (x : Binary64) : Nat := x.bits.toNat

def negative (x : Binary64) : Bool := Nat.pow 2 63 ≤ x.pattern

/-- The eleven bits of the exponent. -/
def exponentField (x : Binary64) : Nat := x.pattern / Nat.pow 2 52 % Nat.pow 2 11

/-- The fifty-two bits of the fraction. -/
def fraction (x : Binary64) : Nat := x.pattern % Nat.pow 2 52

/-- Whether the pattern is a number, and not an infinity or NaN. -/
def isFinite (x : Binary64) : Bool := x.exponentField ≠ 2047

def isZero (x : Binary64) : Bool := x.exponentField = 0 ∧ x.fraction = 0

/-- The magnitude of a finite number is `significand · 2 ^ (scale - 1074)`. -/
def significand (x : Binary64) : Nat :=
  if x.exponentField = 0 then x.fraction else Nat.pow 2 52 + x.fraction

def scale (x : Binary64) : Nat := x.exponentField - 1

/-! ## The nearest number to an integer -/

/-- `n / 2 ^ s`, rounded to the nearest integer, a half to the even one. -/
def roundShift (n s : Nat) : Nat :=
  let q := n / Nat.pow 2 s
  let twice := 2 * (n % Nat.pow 2 s)
  if twice < Nat.pow 2 s then q
  else if Nat.pow 2 s < twice then q + 1
  else if q % 2 = 0 then q else q + 1

/-- The pattern of the number nearest to a positive integer below `2 ^ 1000`. A significand
that rounds up to `2 ^ 53` carries into the exponent by addition. -/
def natPattern (n : Nat) : Nat :=
  let top := Nat.log2 n
  if top ≤ 52 then (1022 + top) * Nat.pow 2 52 + n * Nat.pow 2 (52 - top)
  else (1022 + top) * Nat.pow 2 52 + roundShift n (top - 52)

def ofInt : Int → Binary64
  | .ofNat 0 => ⟨0⟩
  | .ofNat n => ⟨UInt64.ofNat (natPattern n)⟩
  | .negSucc n => ⟨UInt64.ofNat (Nat.pow 2 63 + natPattern (n + 1))⟩

example : (ofInt 9007199254740993).bits = 0x4340000000000000 := by decide +kernel
example : (ofInt (-9)).bits = 0xc022000000000000 := by decide +kernel
example : (ofInt 18446744073709551615).bits = 0x43f0000000000000 := by decide +kernel

end Binary64

end Gamebook
