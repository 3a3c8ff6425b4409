/-
Module: IccvBackend.Lib.Cents
Purpose: Amounts of money kept in units and compared in hundredths of a unit, rounded half up.
Trusted boundary: none
Main exports: cents, cents_eq_round, cents_intCast_div, cents_nonneg, cents_fl
-/
import IccvBackend.Lib.Binary64

namespace IccvBackend.Lib

open Binary64

/-!
An amount stands for the double nearest to it.  `round` is the integer nearest to its argument,
halves rounded towards plus infinity: `⌊x + 1/2⌋`, which is also what `Math.round` computes.
-/

/-- The amount in hundredths, rounded half up: `Math.round(amount * 100)`.  Whole hundredths are
read back as they are. -/
def cents (amount : ℚ) : ℤ :=
  if (amount * 100).den = 1 then (amount * 100).num else round (fl (fl amount * 100))

-- the double of 1.005 is below it
example : cents (201 / 200) = 100 := by decide +kernel

/-- The error of taking the double of an amount and of its product with a hundred. -/
theorem abs_hundredfold_sub_le (amount : ℚ) :
    |fl (fl amount * 100) - amount * 100| ≤ |amount * 100| / 2 ^ 51 := by
  have nonneg := abs_nonneg (amount * 100)
  have moved : |fl amount * 100 - amount * 100| ≤ |amount * 100| / 2 ^ 53 := by
    have error := abs_fl_sub_le amount
    rw [← sub_mul, abs_mul, abs_mul amount, abs_of_pos (by norm_num : (0 : ℚ) < 100)]
    linarith
  have product := abs_sub_abs_le_abs_sub (fl amount * 100) (amount * 100)
  have rounded := abs_fl_sub_le (fl amount * 100)
  calc |fl (fl amount * 100) - amount * 100|
      ≤ |fl (fl amount * 100) - fl amount * 100| + |fl amount * 100 - amount * 100| :=
        abs_sub_le _ _ _
    _ ≤ |amount * 100| / 2 ^ 51 := by linarith

/-- Below `2 ^ 50` hundredths the double of an amount, times a hundred and rounded, gives them. -/
theorem cents_eq_round {amount : ℚ} (small : |amount * 100| < 2 ^ 50) :
    cents amount = round (fl (fl amount * 100)) := by
  unfold cents
  split
  · next whole =>
      have num : ((amount * 100).num : ℚ) = amount * 100 := Rat.coe_int_num_of_den_eq_one whole
      have error := abs_hundredfold_sub_le amount
      symm
      apply round_of_near
      rw [num]
      linarith
  · rfl

@[simp] theorem cents_zero : cents 0 = 0 := by simp [cents]

/-- A whole number of hundredths, written back in units, reads as itself. -/
@[simp] theorem cents_intCast_div (n : ℤ) : cents ((n : ℚ) / 100) = n := by
  have back : (n : ℚ) / 100 * 100 = n := by field_simp
  simp [cents, back]

theorem cents_nonneg {amount : ℚ} (nonneg : 0 ≤ amount) : 0 ≤ cents amount := by
  unfold cents
  split
  · exact Rat.num_nonneg.mpr (by linarith)
  · have product : 0 ≤ fl (fl amount * 100) :=
      fl_nonneg (mul_nonneg (fl_nonneg nonneg) (by norm_num))
    rw [round_eq]
    exact Int.floor_nonneg.mpr (by linarith)

/-- Only a positive amount is worth a hundredth. -/
theorem pos_of_cents_pos {amount : ℚ} (pos : 0 < cents amount) : 0 < amount := by
  by_contra not_pos
  have nonpos := not_lt.mp not_pos
  refine absurd pos (not_lt.mpr ?_)
  unfold cents
  split
  · exact Rat.num_nonpos.mpr (by linarith)
  · have product : fl (fl amount * 100) ≤ 0 :=
      fl_nonpos (mul_nonpos_of_nonpos_of_nonneg (fl_nonpos nonpos) (by norm_num))
    rw [round_eq]
    exact Int.lt_add_one_iff.mp (Int.floor_lt.mpr (by push_cast; linarith))

/-- Rounding the double of some hundredths gives them back. -/
theorem cents_fl {n : ℕ} (small : n < 2 ^ 49) : cents (fl ((n : ℚ) / 100)) = n := by
  have error := abs_le.mp (fl_hundredth_near n)
  have bound : (n : ℚ) < 2 ^ 49 := by exact_mod_cast small
  have n_nonneg : (0 : ℚ) ≤ n := Nat.cast_nonneg n
  generalize fl ((n : ℚ) / 100) = amount at error ⊢
  have near : |amount * 100 - n| ≤ 1 / 16 := by
    rw [abs_le]
    constructor <;> linarith
  have size : |amount * 100| ≤ n + 1 / 16 := by
    have apart := abs_sub_abs_le_abs_sub (amount * 100) n
    rw [abs_of_nonneg n_nonneg] at apart
    linarith
  rw [cents_eq_round (by linarith)]
  apply round_of_near
  rw [Int.cast_natCast]
  have hundredfold := abs_hundredfold_sub_le amount
  calc |fl (fl amount * 100) - n|
      ≤ |fl (fl amount * 100) - amount * 100| + |amount * 100 - n| := abs_sub_le _ _ _
    _ < 1 / 2 := by linarith

theorem fl_hundredth_eq_zero_iff {n : ℕ} (small : n < 2 ^ 49) : fl ((n : ℚ) / 100) = 0 ↔ n = 0 := by
  constructor
  · intro zero
    have same := cents_fl small
    rw [zero, cents_zero] at same
    exact_mod_cast same.symm
  · rintro rfl
    simp

end IccvBackend.Lib
