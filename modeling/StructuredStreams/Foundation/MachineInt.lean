import Mathlib.Algebra.Order.Ring.Int

/-!
# Integers of fixed width

The values that integer expressions take when they are stored in a 32-bit
`int` or converted to a 64-bit `size_t`, as numbers.
-/

/-- The value of an integer in a 32-bit `int`, which wraps. -/
def wrapInt (value : Int) : Int :=
  value.bmod (2 ^ 32)

/-- Conversion of an integer to a 64-bit `size_t`. -/
def toSize (value : Int) : Nat :=
  (value % 2 ^ 64).toNat

theorem wrapInt_eq_self
    {value : Int} (lower : -2 ^ 31 ≤ value) (upper : value < 2 ^ 31) :
    wrapInt value = value := by
  unfold wrapInt
  rw [Int.bmod_def]
  push_cast
  omega

theorem wrapInt_lt (value : Int) : wrapInt value < 2 ^ 31 := by
  unfold wrapInt
  rw [Int.bmod_def]
  push_cast
  omega

theorem le_wrapInt (value : Int) : -2 ^ 31 ≤ wrapInt value := by
  unfold wrapInt
  rw [Int.bmod_def]
  push_cast
  omega

theorem toSize_eq_self
    {value : Int} (lower : 0 ≤ value) (upper : value < 2 ^ 64) :
    (toSize value : Int) = value := by
  unfold toSize
  omega

/-- A number of type `int` comes back from its conversion to `size_t`. -/
theorem wrapInt_toSize
    {value : Int} (lower : -2 ^ 31 ≤ value) (upper : value < 2 ^ 31) :
    wrapInt (toSize value) = value := by
  unfold wrapInt toSize
  rw [Int.bmod_def]
  push_cast
  omega

/-- A 64-bit integer is the `size_t` that an integer is converted to. -/
theorem toNat_ofInt (value : Int) :
    (UInt64.ofInt value).toNat = toSize value := by
  have small : toSize value < 2 ^ 64 := by
    unfold toSize
    omega
  rw [UInt64.ofInt, UInt64.toNat_ofNat', ← toSize, Nat.mod_eq_of_lt small]

theorem toNat_next {value : UInt64} (fits : value.toNat + 1 < 2 ^ 64) :
    (value + 1).toNat = value.toNat + 1 := by
  rw [UInt64.toNat_add, UInt64.toNat_one, Nat.mod_eq_of_lt fits]
