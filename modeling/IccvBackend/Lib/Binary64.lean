/-
Module: IccvBackend.Lib.Binary64
Purpose: Double precision as rounding to 53 bits, and hundredths added with a rounding at each step.
Trusted boundary: none
Main exports: nearestEven, fl, abs_fl_sub_le, sum, addHundredths, addHundredths_fl
-/
import Mathlib.Algebra.Order.Floor.Semifield
import Mathlib.Algebra.Order.Round
import Mathlib.Data.Int.Log
import Mathlib.Data.Rat.Floor
import Mathlib.Tactic.FieldSimp
import Mathlib.Tactic.Linarith
import Mathlib.Tactic.Positivity
import Mathlib.Tactic.Ring

namespace IccvBackend.Lib.Binary64

/-!
The range of the exponent is left out: the amounts of a program are far from both of its ends.
-/

/-- The nearest integer, and the even one of two. -/
def nearestEven (q : ℚ) : ℤ :=
  if Int.fract q = 1 / 2 then (if Even ⌊q⌋ then ⌊q⌋ else ⌊q⌋ + 1) else round q

/-- The distance between the doubles around a number. -/
def ulp (x : ℚ) : ℚ := 2 ^ (Int.log 2 |x| - 52)

/-- The double nearest to a number. -/
def fl (x : ℚ) : ℚ := nearestEven (x / ulp x) * ulp x

/-- `xs.reduce((acc, x) => acc + x, 0)`. -/
def sum (xs : List ℚ) : ℚ := xs.foldl (fun acc x => fl (acc + x)) 0

theorem ulp_pos (x : ℚ) : 0 < ulp x := zpow_pos (by norm_num) _

theorem abs_nearestEven_sub_le (q : ℚ) : |(nearestEven q : ℚ) - q| ≤ 1 / 2 := by
  unfold nearestEven
  split
  · next half =>
      have whole : q = ⌊q⌋ + 1 / 2 := by
        rw [← half]
        exact (Int.floor_add_fract q).symm
      split
      · have apart : ((⌊q⌋ : ℤ) : ℚ) - q = -(1 / 2) := by linarith
        rw [apart, abs_neg, abs_of_pos (by norm_num)]
      · have apart : ((⌊q⌋ + 1 : ℤ) : ℚ) - q = 1 / 2 := by
          push_cast
          linarith
        rw [apart, abs_of_pos (by norm_num)]
  · rw [abs_sub_comm]
    exact abs_sub_round q

@[simp] theorem fl_zero : fl 0 = 0 := by
  simp [fl, nearestEven]

theorem nearestEven_nonneg {q : ℚ} (nonneg : 0 ≤ q) : 0 ≤ nearestEven q := by
  have low := (abs_le.mp (abs_nearestEven_sub_le q)).1
  have above : (-1 : ℚ) < nearestEven q := by linarith
  exact_mod_cast above

theorem nearestEven_nonpos {q : ℚ} (nonpos : q ≤ 0) : nearestEven q ≤ 0 := by
  have high := (abs_le.mp (abs_nearestEven_sub_le q)).2
  have below : (nearestEven q : ℚ) < 1 := by linarith
  exact Int.lt_add_one_iff.mp (by exact_mod_cast below)

theorem fl_nonneg {x : ℚ} (nonneg : 0 ≤ x) : 0 ≤ fl x :=
  mul_nonneg (by exact_mod_cast nearestEven_nonneg (div_nonneg nonneg (ulp_pos x).le))
    (ulp_pos x).le

theorem fl_nonpos {x : ℚ} (nonpos : x ≤ 0) : fl x ≤ 0 :=
  mul_nonpos_of_nonpos_of_nonneg
    (by exact_mod_cast nearestEven_nonpos (div_nonpos_of_nonpos_of_nonneg nonpos (ulp_pos x).le))
    (ulp_pos x).le

/-- The error of one rounding. -/
theorem abs_fl_sub_le (x : ℚ) : |fl x - x| ≤ |x| / 2 ^ 53 := by
  by_cases zero : x = 0
  · simp [zero]
  · have pos := ulp_pos x
    have scaled : fl x - x = ((nearestEven (x / ulp x) : ℚ) - x / ulp x) * ulp x := by
      rw [fl, sub_mul, div_mul_cancel₀ x pos.ne']
    have small : ulp x ≤ |x| / 2 ^ 52 := by
      have log := Int.zpow_log_le_self (b := 2) (by norm_num) (abs_pos.mpr zero)
      rw [ulp, zpow_sub₀ (by norm_num)]
      exact div_le_div_of_nonneg_right log (by norm_num)
    calc |fl x - x| = |(nearestEven (x / ulp x) : ℚ) - x / ulp x| * ulp x := by
          rw [scaled, abs_mul, abs_of_pos pos]
      _ ≤ 1 / 2 * ulp x := mul_le_mul_of_nonneg_right (abs_nearestEven_sub_le _) pos.le
      _ ≤ |x| / 2 ^ 53 := by linarith

/-! ### Hundredths -/

/-- `Math.round((a + b) * 100) / 100`. -/
def addHundredths (a b : ℚ) : ℚ := fl ((round (fl (fl (a + b) * 100)) : ℚ) / 100)

/-- A number near an integer rounds to it. -/
theorem round_of_near {x : ℚ} {n : ℤ} (near : |x - n| < 1 / 2) : round x = n := by
  have ⟨low, high⟩ := abs_lt.mp near
  rw [round_eq, Int.floor_eq_iff]
  constructor <;> linarith

theorem fl_hundredth_near (n : ℕ) : |fl ((n : ℚ) / 100) - n / 100| ≤ n / 100 / 2 ^ 53 := by
  have error := abs_fl_sub_le ((n : ℚ) / 100)
  rwa [abs_of_nonneg (by positivity : (0 : ℚ) ≤ n / 100)] at error

/-- Adding doubles of hundredths, with a rounding at each step, adds the hundredths. -/
theorem addHundredths_fl {m n : ℕ} (small : m + n < 2 ^ 49) :
    addHundredths (fl ((m : ℚ) / 100)) (fl ((n : ℚ) / 100)) = fl (((m + n : ℕ) : ℚ) / 100) := by
  unfold addHundredths
  have bound : (m : ℚ) + n < 2 ^ 49 := by exact_mod_cast small
  have m_nonneg : (0 : ℚ) ≤ m := Nat.cast_nonneg m
  have n_nonneg : (0 : ℚ) ≤ n := Nat.cast_nonneg n
  obtain ⟨a_low, a_high⟩ := abs_le.mp (fl_hundredth_near m)
  obtain ⟨b_low, b_high⟩ := abs_le.mp (fl_hundredth_near n)
  generalize fl ((m : ℚ) / 100) = a at a_low a_high ⊢
  generalize fl ((n : ℚ) / 100) = b at b_low b_high ⊢
  have sum_nonneg : 0 ≤ a + b := by linarith
  have sum_error := abs_fl_sub_le (a + b)
  rw [abs_of_nonneg sum_nonneg] at sum_error
  obtain ⟨s_low, s_high⟩ := abs_le.mp sum_error
  generalize fl (a + b) = s at s_low s_high ⊢
  have product_nonneg : 0 ≤ s * 100 := by linarith
  have product_error := abs_fl_sub_le (s * 100)
  rw [abs_of_nonneg product_nonneg] at product_error
  obtain ⟨p_low, p_high⟩ := abs_le.mp product_error
  have rounded : round (fl (s * 100)) = ((m + n : ℕ) : ℤ) := by
    apply round_of_near
    rw [abs_lt]
    push_cast
    constructor <;> linarith
  rw [rounded, Int.cast_natCast]

end IccvBackend.Lib.Binary64
