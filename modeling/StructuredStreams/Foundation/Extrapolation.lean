import Mathlib.Algebra.Order.Ring.Int

/-!
# Extrapolation from low digits

A counter whose low digits alone are known is taken to be the number with
these digits that is nearest to a reference.  That is the counter itself as
long as it is less than half a modulus away from the reference.
-/

/-- The number nearest to the reference that is congruent to `low`. -/
def nearest (modulus : Nat) (reference low : Int) : Int :=
  reference + (low - reference).bmod modulus

section Nearest

variable {modulus : Nat} {reference low number : Int}

theorem nearest_emod (modulus : Nat) (reference low : Int) :
    nearest modulus reference low % modulus = low % modulus := by
  have difference :
      (low - reference).bmod modulus % modulus =
        (low - reference) % modulus :=
    Int.bmod_emod
  rw [nearest, Int.add_emod, difference, ← Int.add_emod]
  congr 1
  omega

theorem nearest_lower
    (positive : 0 < modulus) (reference low : Int) :
    reference - modulus / 2 ≤ nearest modulus reference low := by
  have bound := Int.le_bmod (x := low - reference) positive
  rw [nearest]
  omega

theorem nearest_lt
    (positive : 0 < modulus) (reference low : Int) :
    nearest modulus reference low < reference + (modulus + 1) / 2 := by
  have bound := Int.bmod_lt (x := low - reference) positive
  rw [nearest]
  omega

/-- A number less than half a modulus away is found from its low digits. -/
theorem nearest_eq
    (same : low % modulus = number % modulus)
    (lower : -(modulus : Int) ≤ (number - reference) * 2)
    (upper : (number - reference) * 2 < modulus) :
    nearest modulus reference low = number := by
  have digits :
      (low - reference).bmod modulus =
        (number - reference).bmod modulus := by
    rw [← Int.emod_sub_bmod, same, Int.emod_sub_bmod]
  rw [nearest, digits, Int.bmod_eq_of_le_mul_two lower upper]
  omega

/-- The digits stand for a number behind the reference that is not
negative, or for one that is not behind it. -/
def ReachesNoNegative (modulus : Nat) (reference low : Int) : Prop :=
  (low - reference) % modulus < (modulus + 1) / 2 ∨
    (reference - low) % modulus ≤ reference

instance (modulus : Nat) (reference low : Int) :
    Decidable (ReachesNoNegative modulus reference low) :=
  inferInstanceAs (Decidable (_ ∨ _))

theorem nearest_nonneg_iff
    (positive : 0 < modulus) (start : 0 ≤ reference) :
    0 ≤ nearest modulus reference low ↔
      ReachesNoNegative modulus reference low := by
  have nonneg : 0 ≤ (low - reference) % modulus :=
    Int.emod_nonneg _ (by omega)
  have below : (low - reference) % modulus < modulus :=
    Int.emod_lt_of_pos _ (by omega)
  rw [nearest, ReachesNoNegative, Int.bmod_def]
  by_cases ahead : (low - reference) % modulus < (modulus + 1) / 2
  · rw [if_pos ahead]
    constructor
    · intro _
      exact Or.inl ahead
    · intro _
      omega
  · rw [if_neg ahead]
    have opposite :
        (reference - low) % modulus =
          modulus - (low - reference) % modulus := by
      have negated : reference - low = -(low - reference) := by
        omega
      rw [negated, Int.neg_emod, if_neg]
      · simp
      · intro divides
        have zero := Int.emod_eq_zero_of_dvd divides
        omega
    rw [opposite]
    omega

end Nearest
