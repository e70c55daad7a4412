import Mathlib.Algebra.Order.Group.MinMax
import Mathlib.Data.Int.Log
import Logistics.Library.Rounding

/-!
# Arithmetic with rounded results

An arithmetic rounds the result of every operation within a relative error. `Within`
says how far a number that such operations have computed may be from the one that it
stands for: it follows the computation operation by operation, and needs no more than a
bound on the size of the exact number.
-/

namespace Logistics.Library

section Precision

variable {K : Type*} [Field K] [LinearOrder K] [IsStrictOrderedRing K]

/-- How an arithmetic rounds the result of an operation, and within which relative error. -/
structure Precision (K : Type*) [Field K] [LinearOrder K] where
  keep : K → K
  error : K
  error_nonneg : 0 ≤ error
  abs_keep_sub_le : ∀ x, |keep x - x| ≤ error * |x|

namespace Precision

theorem abs_id_sub_le (x : K) : |id x - x| ≤ 0 * |x| := by
  rw [id, sub_self, abs_zero, zero_mul]

def exact : Precision K := ⟨id, 0, le_rfl, abs_id_sub_le⟩

@[simp] theorem exact_keep (x : K) : (exact : Precision K).keep x = x := rfl

variable (p : Precision K)

@[simp] theorem keep_zero : p.keep 0 = 0 := by
  have hzero := p.abs_keep_sub_le 0
  rw [abs_zero, mul_zero, sub_zero] at hzero
  exact abs_nonpos_iff.mp hzero

/-- A result keeps its sign where the error is no more than the number itself. -/
theorem keep_nonneg (h : p.error ≤ 1) {x : K} (hx : 0 ≤ x) : 0 ≤ p.keep x := by
  have hnear := (abs_le.mp (p.abs_keep_sub_le x)).1
  rw [abs_of_nonneg hx] at hnear
  linarith [mul_le_of_le_one_left hx h]

/-- How much a number can grow in so many operations. -/
def growth (steps : ℕ) : K := (1 + p.error) ^ steps

omit [IsStrictOrderedRing K] in
@[simp] theorem growth_zero : p.growth 0 = 1 := pow_zero _

omit [IsStrictOrderedRing K] in
theorem growth_add (m n : ℕ) : p.growth (m + n) = p.growth m * p.growth n := pow_add _ m n

omit [IsStrictOrderedRing K] in
theorem growth_succ (n : ℕ) : p.growth (n + 1) = p.growth n + p.growth n * p.error := by
  rw [growth, growth, pow_succ, mul_add, mul_one]

theorem one_le_growth (n : ℕ) : 1 ≤ p.growth n :=
  one_le_pow₀ (le_add_of_nonneg_right p.error_nonneg)

theorem growth_mono {m n : ℕ} (h : m ≤ n) : p.growth m ≤ p.growth n :=
  pow_le_pow_right₀ (le_add_of_nonneg_right p.error_nonneg) h

end Precision

/-! ## Distance from the exact number -/

variable {p : Precision K}

/-- `y` stands for `x`, which is no greater than `size`: they differ by the slack and by
what so many operations add to it and to the size. -/
structure Within (p : Precision K) (steps : ℕ) (slack size x y : K) : Prop where
  bounded : |x| ≤ size
  near : |y - x| ≤ p.growth steps * slack + (p.growth steps - 1) * size

namespace Within

variable {m n : ℕ} {a b s t x y z w : K}

theorem refl (h : |x| ≤ s) : Within p 0 0 s x x where
  bounded := h
  near := by simp

theorem size_nonneg (h : Within p m a s x y) : 0 ≤ s :=
  (abs_nonneg x).trans h.bounded

theorem mono (h : Within p m a s x y) (hm : m ≤ n) (ha : a ≤ b) (hb : 0 ≤ b) (hs : s ≤ t) :
    Within p n b t x y where
  bounded := h.bounded.trans hs
  near := by
    have hsize : 0 ≤ t := h.size_nonneg.trans hs
    have hgrowth := p.growth_mono hm
    have hone := p.one_le_growth m
    calc |y - x| ≤ p.growth m * a + (p.growth m - 1) * s := h.near
      _ ≤ p.growth m * b + (p.growth m - 1) * t := by gcongr
      _ ≤ p.growth n * b + (p.growth n - 1) * t := by gcongr

theorem abs_le (h : Within p m a s x y) : |y| ≤ p.growth m * (a + s) := by
  have hsplit : |y| ≤ |y - x| + |x| := by simpa using abs_add_le (y - x) x
  linarith [h.near, h.bounded]

theorem keep (h : Within p m a s x y) : Within p (m + 1) a s x (p.keep y) where
  bounded := h.bounded
  near := by
    have hsplit : |p.keep y - x| ≤ |p.keep y - y| + |y - x| := abs_sub_le _ _ _
    have hround : |p.keep y - y| ≤ p.error * (p.growth m * (a + s)) :=
      (p.abs_keep_sub_le y).trans (mul_le_mul_of_nonneg_left h.abs_le p.error_nonneg)
    rw [p.growth_succ]
    linarith [h.near]

theorem add (h : Within p m a s x y) (k : Within p m b t z w) :
    Within p m (a + b) (s + t) (x + z) (y + w) where
  bounded := (abs_add_le x z).trans (add_le_add h.bounded k.bounded)
  near := by
    have hsplit : |y + w - (x + z)| ≤ |y - x| + |w - z| := by
      rw [add_sub_add_comm]
      exact abs_add_le _ _
    linarith [h.near, k.near]

omit [IsStrictOrderedRing K] in
theorem neg (h : Within p m a s x y) : Within p m a s (-x) (-y) where
  bounded := by rw [abs_neg]; exact h.bounded
  near := by
    rw [neg_sub_neg, abs_sub_comm]
    exact h.near

theorem sub (h : Within p m a s x y) (k : Within p m b t z w) :
    Within p m (a + b) (s + t) (x - z) (y - w) := by
  rw [sub_eq_add_neg, sub_eq_add_neg]
  exact h.add k.neg

theorem mul_right (h : Within p m a s x y) {c : K} (hc : 0 ≤ c) :
    Within p m (a * c) (s * c) (x * c) (y * c) where
  bounded := by
    rw [abs_mul, abs_of_nonneg hc]
    exact mul_le_mul_of_nonneg_right h.bounded hc
  near := by
    rw [← sub_mul, abs_mul, abs_of_nonneg hc]
    linarith [mul_le_mul_of_nonneg_right h.near hc]

theorem mul (h : Within p m 0 s x y) (k : Within p n 0 t z w) :
    Within p (m + n) 0 (s * t) (x * z) (y * w) where
  bounded := by
    rw [abs_mul]
    exact mul_le_mul h.bounded k.bounded (abs_nonneg z) h.size_nonneg
  near := by
    have hx := h.near
    have hz := k.near
    have hw := k.abs_le
    rw [mul_zero, zero_add] at hx hz
    rw [zero_add] at hw
    have hs := h.size_nonneg
    have hsplit : y * w - x * z = (y - x) * w + x * (w - z) := by ring
    calc |y * w - x * z| ≤ |y - x| * |w| + |x| * |w - z| := by
          rw [hsplit, ← abs_mul, ← abs_mul]
          exact abs_add_le _ _
      _ ≤ (p.growth m - 1) * s * (p.growth n * t) + s * ((p.growth n - 1) * t) :=
          add_le_add (mul_le_mul hx hw (abs_nonneg w) ((abs_nonneg _).trans hx))
            (mul_le_mul h.bounded hz (abs_nonneg _) hs)
      _ = p.growth (m + n) * 0 + (p.growth (m + n) - 1) * (s * t) := by
          rw [p.growth_add]
          ring

theorem maximum (h : Within p m a s x y) (k : Within p m a s z w) :
    Within p m a s (max x z) (max y w) where
  bounded := by
    rcases max_choice x z with hx | hz
    · rw [hx]
      exact h.bounded
    · rw [hz]
      exact k.bounded
  near := (abs_max_sub_max_le_max y w x z).trans (max_le h.near k.near)

variable [FloorRing K]

theorem round (h : Within p m a s x y) (places : ℕ) :
    Within p m (a + (2 * 10 ^ places)⁻¹) s x (roundHalfUp places y) where
  bounded := h.bounded
  near := by
    have hsplit := abs_sub_le (roundHalfUp places y) y x
    have hround := abs_roundHalfUp_sub_le places y
    have hhalf : (2 * 10 ^ places : K)⁻¹ ≤ p.growth m * (2 * 10 ^ places)⁻¹ :=
      le_mul_of_one_le_left (by positivity) (p.one_le_growth m)
    linarith [h.near]

end Within

end Precision

/-! ## Significant digits -/

section Significant

variable {K : Type*} [Field K] [LinearOrder K] [IsStrictOrderedRing K] [FloorRing K]

/-- The weight of the last of so many significant digits of the number. -/
def lastDigit (digits : ℕ) (x : K) : K := ((10 : ℕ) : K) ^ (Int.log 10 |x| + 1 - digits)

omit [IsStrictOrderedRing K] in
theorem lastDigit_eq (digits : ℕ) (x : K) :
    lastDigit digits x = 10 ^ (Int.log 10 |x| + 1 - digits) := by
  rw [lastDigit, Nat.cast_ofNat]

/-- Round to so many significant digits, to nearest and away from zero on a tie. -/
def roundToDigits (digits : ℕ) (x : K) : K :=
  roundHalfUp 0 (x / lastDigit digits x) * lastDigit digits x

/-- The relative error of so many significant digits: half a unit of the last of them. -/
def digitError (K : Type*) [Field K] (digits : ℕ) : K :=
  ((10 : ℕ) : K) ^ (1 - digits : ℤ) / (2 : ℕ)

omit [LinearOrder K] [IsStrictOrderedRing K] [FloorRing K] in
theorem digitError_eq (digits : ℕ) : digitError K digits = 10 ^ (1 - digits : ℤ) / 2 := by
  rw [digitError, Nat.cast_ofNat, Nat.cast_ofNat]

omit [FloorRing K] in
theorem digitError_pos (digits : ℕ) : 0 < digitError K digits := by
  rw [digitError_eq]
  exact half_pos (zpow_pos (by norm_num) _)

/-- Rounding moves a number by at most half a unit of its last digit. -/
theorem abs_roundToDigits_sub_le (digits : ℕ) (x : K) :
    |roundToDigits digits x - x| ≤ digitError K digits * |x| := by
  rcases eq_or_ne x 0 with rfl | hx
  · simp [roundToDigits]
  have hunit : 0 < lastDigit digits x := by
    rw [lastDigit_eq]
    exact zpow_pos (by norm_num) _
  have hround := abs_roundHalfUp_sub_le 0 (x / lastDigit digits x)
  have hfirst : (10 : K) ^ Int.log 10 |x| ≤ |x| := by
    have hle := Int.zpow_log_le_self (b := 10) (by norm_num) (abs_pos.mpr hx)
    exact_mod_cast hle
  have hfactor : roundToDigits digits x - x =
      (roundHalfUp 0 (x / lastDigit digits x) - x / lastDigit digits x) * lastDigit digits x := by
    rw [roundToDigits, sub_mul, div_mul_cancel₀ _ hunit.ne']
  have hweight : lastDigit digits x = 10 ^ Int.log 10 |x| * 10 ^ (1 - digits : ℤ) := by
    rw [lastDigit_eq, ← zpow_add₀ (by norm_num), add_sub_assoc]
  calc |roundToDigits digits x - x|
      = |roundHalfUp 0 (x / lastDigit digits x) - x / lastDigit digits x| * lastDigit digits x := by
        rw [hfactor, abs_mul, abs_of_pos hunit]
    _ ≤ 1 / 2 * lastDigit digits x := by
        refine mul_le_mul_of_nonneg_right (hround.trans ?_) hunit.le
        norm_num
    _ = digitError K digits * 10 ^ Int.log 10 |x| := by
        rw [hweight, digitError_eq]
        ring
    _ ≤ digitError K digits * |x| :=
        mul_le_mul_of_nonneg_left hfirst (digitError_pos digits).le

/-- So many significant digits of every result are kept. -/
def Precision.ofDigits (digits : ℕ) : Precision K where
  keep := roundToDigits digits
  error := digitError K digits
  error_nonneg := (digitError_pos digits).le
  abs_keep_sub_le := abs_roundToDigits_sub_le digits

end Significant

end Logistics.Library
