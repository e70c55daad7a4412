import Mathlib.Algebra.Order.Floor.Ring
import Mathlib.Algebra.Order.Field.Basic
import Mathlib.Algebra.Group.Subgroup.ZPowers.Basic
import Mathlib.Algebra.Group.Submonoid.BigOperators
import Mathlib.Data.Rat.Floor
import Mathlib.Tactic.FieldSimp
import Mathlib.Tactic.Linarith
import Mathlib.Tactic.Positivity

/-!
# Half-up decimal rounding

`roundHalfUp places x` rounds `x` to `places` decimal places, to the nearest
multiple of `10 ^ (-places)` and away from zero on a tie. The multiples form the
additive group `decimals places`, so sums and differences of rounded values are
already rounded: rounding fixes exactly the members of the group, which is all
that is needed to remove a repeated rounding.
-/

namespace Logistics.Library

section Rounding

variable {K : Type*} [Field K] [LinearOrder K] [IsStrictOrderedRing K]

/-- The numbers with at most `places` decimal places. -/
def decimals (K : Type*) [Field K] (places : ℕ) : AddSubgroup K :=
  AddSubgroup.zmultiples ((10 : K) ^ places)⁻¹

theorem mem_decimals {places : ℕ} {x : K} :
    x ∈ decimals K places ↔ ∃ n : ℤ, (n : K) = x * 10 ^ places := by
  have hten : (10 : K) ^ places ≠ 0 := by positivity
  rw [decimals, AddSubgroup.mem_zmultiples_iff]
  constructor
  · rintro ⟨n, rfl⟩
    exact ⟨n, by rw [zsmul_eq_mul, inv_mul_cancel_right₀ hten]⟩
  · rintro ⟨n, hn⟩
    exact ⟨n, by rw [zsmul_eq_mul, hn, mul_inv_cancel_right₀ hten]⟩

theorem intCast_mem_decimals (places : ℕ) (n : ℤ) :
    (n : K) ∈ decimals K places :=
  mem_decimals.mpr ⟨n * 10 ^ places, by push_cast; rfl⟩

/-- A product has at most as many places as its factors have together. -/
theorem mul_mem_decimals {p q : ℕ} {x y : K} (hx : x ∈ decimals K p)
    (hy : y ∈ decimals K q) : x * y ∈ decimals K (p + q) := by
  obtain ⟨m, hm⟩ := mem_decimals.mp hx
  obtain ⟨n, hn⟩ := mem_decimals.mp hy
  refine mem_decimals.mpr ⟨m * n, ?_⟩
  rw [Int.cast_mul, hm, hn, pow_add]
  exact mul_mul_mul_comm _ _ _ _

variable [FloorRing K]

/-- Round to `places` decimal places, to nearest and away from zero on a tie. -/
def roundHalfUp (places : ℕ) (x : K) : K :=
  if 0 ≤ x then ⌊x * 10 ^ places + 1 / 2⌋ / 10 ^ places
  else -(⌊-x * 10 ^ places + 1 / 2⌋ / 10 ^ places)

omit [IsStrictOrderedRing K] in
theorem roundHalfUp_of_nonneg (places : ℕ) {x : K} (hx : 0 ≤ x) :
    roundHalfUp places x = ⌊x * 10 ^ places + 1 / 2⌋ / 10 ^ places :=
  if_pos hx

@[simp] theorem roundHalfUp_zero (places : ℕ) : roundHalfUp places (0 : K) = 0 := by
  have hfloor : ⌊(1 / 2 : K)⌋ = 0 := by
    rw [Int.floor_eq_zero_iff]
    constructor <;> norm_num
  rw [roundHalfUp_of_nonneg places le_rfl, zero_mul, zero_add, hfloor]
  simp

@[simp] theorem roundHalfUp_neg (places : ℕ) (x : K) :
    roundHalfUp places (-x) = -roundHalfUp places x := by
  rcases lt_trichotomy x 0 with hx | rfl | hx
  · rw [roundHalfUp, roundHalfUp, if_pos (by linarith), if_neg (by linarith), neg_neg]
  · simp
  · rw [roundHalfUp, roundHalfUp, if_neg (by linarith), if_pos hx.le, neg_neg]

theorem roundHalfUp_nonneg (places : ℕ) {x : K} (hx : 0 ≤ x) :
    0 ≤ roundHalfUp places x := by
  rw [roundHalfUp_of_nonneg places hx]
  have hfloor : 0 ≤ ⌊x * 10 ^ places + 1 / 2⌋ := Int.floor_nonneg.mpr (by positivity)
  have hcast : (0 : K) ≤ ⌊x * 10 ^ places + 1 / 2⌋ := by exact_mod_cast hfloor
  positivity

theorem roundHalfUp_mem (places : ℕ) (x : K) :
    roundHalfUp places x ∈ decimals K places := by
  have hten : (10 : K) ^ places ≠ 0 := by positivity
  unfold roundHalfUp
  split
  · exact mem_decimals.mpr ⟨_, (div_mul_cancel₀ _ hten).symm⟩
  · exact neg_mem (mem_decimals.mpr ⟨_, (div_mul_cancel₀ _ hten).symm⟩)

theorem roundHalfUp_of_mem {places : ℕ} {x : K} (hx : x ∈ decimals K places) :
    roundHalfUp places x = x := by
  have hten : (10 : K) ^ places ≠ 0 := by positivity
  have hfix : ∀ y : K, y ∈ decimals K places → 0 ≤ y → roundHalfUp places y = y := by
    intro y hy hnonneg
    obtain ⟨n, hn⟩ := mem_decimals.mp hy
    have hfloor : ⌊y * 10 ^ places + 1 / 2⌋ = n := by
      rw [← hn, Int.floor_eq_iff]
      constructor <;> linarith
    rw [roundHalfUp_of_nonneg places hnonneg, hfloor, hn, mul_div_cancel_right₀ _ hten]
  rcases le_total 0 x with h | h
  · exact hfix x hx h
  · have hneg := hfix (-x) (neg_mem hx) (by linarith)
    rw [roundHalfUp_neg, neg_inj] at hneg
    exact hneg

@[simp] theorem roundHalfUp_roundHalfUp (places : ℕ) (x : K) :
    roundHalfUp places (roundHalfUp places x) = roundHalfUp places x :=
  roundHalfUp_of_mem (roundHalfUp_mem places x)

theorem roundHalfUp_mono (places : ℕ) : Monotone (roundHalfUp places : K → K) := by
  have hten : (0 : K) < 10 ^ places := by positivity
  have hpos : ∀ x y : K, 0 ≤ x → x ≤ y → roundHalfUp places x ≤ roundHalfUp places y := by
    intro x y hx hxy
    rw [roundHalfUp_of_nonneg places hx, roundHalfUp_of_nonneg places (hx.trans hxy)]
    have hscaled : x * 10 ^ places + 1 / 2 ≤ y * 10 ^ places + 1 / 2 := by
      have := mul_le_mul_of_nonneg_right hxy hten.le
      linarith
    have hfloor : (⌊x * 10 ^ places + 1 / 2⌋ : K) ≤ ⌊y * 10 ^ places + 1 / 2⌋ := by
      exact_mod_cast Int.floor_mono hscaled
    exact div_le_div_of_nonneg_right hfloor hten.le
  intro x y hxy
  rcases le_total 0 x with hx | hx
  · exact hpos x y hx hxy
  · rcases le_total 0 y with hy | hy
    · have hneg := roundHalfUp_nonneg places (neg_nonneg.mpr hx)
      rw [roundHalfUp_neg] at hneg
      exact (neg_nonneg.mp hneg).trans (roundHalfUp_nonneg places hy)
    · have hflip := hpos (-y) (-x) (by linarith) (by linarith)
      rw [roundHalfUp_neg, roundHalfUp_neg] at hflip
      linarith

theorem roundHalfUp_max (places : ℕ) (x y : K) :
    roundHalfUp places (max x y) = max (roundHalfUp places x) (roundHalfUp places y) :=
  (roundHalfUp_mono places).map_max

theorem abs_roundHalfUp_sub_le (places : ℕ) (x : K) :
    |roundHalfUp places x - x| ≤ (2 * 10 ^ places)⁻¹ := by
  have hten : (0 : K) < 10 ^ places := by positivity
  have hpos : ∀ y : K, 0 ≤ y → |roundHalfUp places y - y| ≤ (2 * 10 ^ places)⁻¹ := by
    intro y hy
    have hlow := Int.floor_le (y * 10 ^ places + 1 / 2)
    have hhigh := Int.lt_floor_add_one (y * 10 ^ places + 1 / 2)
    have hscaled : |(⌊y * 10 ^ places + 1 / 2⌋ : K) - y * 10 ^ places| ≤ 1 / 2 :=
      abs_le.mpr ⟨by linarith, by linarith⟩
    rw [roundHalfUp_of_nonneg places hy, div_sub' hten.ne', abs_div, abs_of_pos hten,
      div_le_iff₀ hten, mul_comm (10 ^ places) y, mul_inv, mul_assoc, inv_mul_cancel₀ hten.ne',
      mul_one, inv_eq_one_div]
    exact hscaled
  rcases le_total 0 x with h | h
  · exact hpos x h
  · have hneg := hpos (-x) (neg_nonneg.mpr h)
    rw [roundHalfUp_neg, neg_sub_neg, abs_sub_comm] at hneg
    exact hneg

/-- A sum of values that are already rounded is already rounded. -/
theorem roundHalfUp_list_sum (places : ℕ) {xs : List K}
    (h : ∀ x ∈ xs, x ∈ decimals K places) : roundHalfUp places xs.sum = xs.sum :=
  roundHalfUp_of_mem (list_sum_mem h)

end Rounding

/-! ## Fixed-point columns -/

/-- The values of a column with `places` decimal places. -/
def Fixed (places : ℕ) : Type := {x : ℚ // x ∈ decimals ℚ places}

namespace Fixed

instance {places : ℕ} : DecidableEq (Fixed places) :=
  inferInstanceAs (DecidableEq {x : ℚ // x ∈ decimals ℚ places})

/-- What a column keeps of a value that is written to it. -/
def store (places : ℕ) (x : ℚ) : Fixed places :=
  ⟨roundHalfUp places x, roundHalfUp_mem places x⟩

@[simp] theorem store_val (places : ℕ) (x : ℚ) :
    (store places x).val = roundHalfUp places x := rfl

theorem store_of_mem {places : ℕ} {x : ℚ} (hx : x ∈ decimals ℚ places) :
    (store places x).val = x :=
  roundHalfUp_of_mem hx

end Fixed

end Logistics.Library
