import Mathlib.Data.BitVec
import Mathlib.Data.List.Flatten
import Mathlib.Tactic.Common

/-!
# Bits in a word

A word serves as a queue of bits: its low `n` bits, the highest first, are `lowBits`.
Shifting a group in appends it at the end, and the groups at the front are read by
shifting out what stands behind them. What lies above the low bits never shows, so the
word may wrap around.
-/

namespace Logistics.Library

section LowBits

variable {w : ℕ}

def lowBits (value : BitVec w) : ℕ → List Bool
  | 0 => []
  | n + 1 => value.getLsbD n :: lowBits value n

@[simp] theorem lowBits_zero (value : BitVec w) : lowBits value 0 = [] := rfl

theorem lowBits_succ (value : BitVec w) (n : ℕ) :
    lowBits value (n + 1) = value.getLsbD n :: lowBits value n := rfl

@[simp] theorem length_lowBits (value : BitVec w) (n : ℕ) : (lowBits value n).length = n := by
  induction n with
  | zero => rfl
  | succ n ih => rw [lowBits_succ, List.length_cons, ih]

/-- Only the low bits count, whatever the lengths of the words. -/
theorem lowBits_congr {u : ℕ} {value : BitVec w} {other : BitVec u} {n : ℕ}
    (h : ∀ i < n, value.getLsbD i = other.getLsbD i) : lowBits value n = lowBits other n := by
  induction n with
  | zero => rfl
  | succ n ih =>
      rw [lowBits_succ, lowBits_succ, h n (Nat.lt_succ_self n),
        ih fun i hi => h i (Nat.lt_succ_of_lt hi)]

theorem getLsbD_of_lowBits_eq {u : ℕ} {value : BitVec w} {other : BitVec u} {n : ℕ}
    (h : lowBits value n = lowBits other n) : ∀ i < n, value.getLsbD i = other.getLsbD i := by
  induction n with
  | zero => exact fun i hi => absurd hi (Nat.not_lt_zero i)
  | succ n ih =>
      rw [lowBits_succ, lowBits_succ, List.cons.injEq] at h
      intro i hi
      rcases Nat.lt_succ_iff_lt_or_eq.mp hi with hlt | rfl
      · exact ih h.2 i hlt
      · exact h.1

theorem lowBits_injective {value other : BitVec w} (h : lowBits value w = lowBits other w) :
    value = other :=
  BitVec.eq_of_getLsbD_eq fun i hi => getLsbD_of_lowBits_eq h i hi

theorem lowBits_add (value : BitVec w) (k n : ℕ) :
    lowBits value (k + n) = lowBits (value >>> n) k ++ lowBits value n := by
  induction k with
  | zero => rw [Nat.zero_add, lowBits_zero, List.nil_append]
  | succ k ih =>
      rw [Nat.succ_add, lowBits_succ, lowBits_succ, ih, BitVec.getLsbD_ushiftRight,
        Nat.add_comm n k, List.cons_append]

theorem lowBits_shiftIn {value group : BitVec w} {n k : ℕ} (hwidth : n + k ≤ w)
    (hgroup : ∀ i, k ≤ i → group.getLsbD i = false) :
    lowBits (value <<< k ||| group) (n + k) = lowBits value n ++ lowBits group k := by
  induction n with
  | zero =>
      rw [Nat.zero_add, lowBits_zero, List.nil_append]
      apply lowBits_congr
      intro i hi
      rw [BitVec.getLsbD_or, BitVec.getLsbD_shiftLeft]
      simp [hi]
  | succ n ih =>
      have hbit : (value <<< k ||| group).getLsbD (n + k) = value.getLsbD n := by
        rw [BitVec.getLsbD_or, BitVec.getLsbD_shiftLeft, hgroup _ (Nat.le_add_left k n),
          Nat.add_sub_cancel]
        have hlt : n + k < w := by omega
        simp [hlt]
      rw [Nat.succ_add, lowBits_succ, lowBits_succ, hbit, ih (by omega), List.cons_append]

end LowBits

/-! ## Groups of one length -/

/-- Codes of `k` bits each are known by their bits, also with less than a code behind
them. -/
theorem eq_of_flatMap_append_eq {α β : Type} {code : α → List β} {k : ℕ}
    (hlength : ∀ a, (code a).length = k) (hinj : ∀ a b, code a = code b → a = b)
    {xs ys : List α} {rest pad : List β} (hrest : rest.length < k) (hpad : pad.length < k)
    (h : xs.flatMap code ++ rest = ys.flatMap code ++ pad) : xs = ys ∧ rest = pad := by
  induction xs generalizing ys with
  | nil =>
      cases ys with
      | nil => exact ⟨rfl, h⟩
      | cons y ys =>
          have hlen := congrArg List.length h
          simp only [List.flatMap_nil, List.nil_append, List.flatMap_cons, List.length_append,
            hlength] at hlen
          omega
  | cons x xs ih =>
      cases ys with
      | nil =>
          have hlen := congrArg List.length h
          simp only [List.flatMap_nil, List.nil_append, List.flatMap_cons, List.length_append,
            hlength] at hlen
          omega
      | cons y ys =>
          rw [List.flatMap_cons, List.flatMap_cons, List.append_assoc, List.append_assoc] at h
          obtain ⟨hcode, hmore⟩ := List.append_inj h ((hlength x).trans (hlength y).symm)
          obtain ⟨rfl, hend⟩ := ih hmore
          exact ⟨by rw [hinj x y hcode], hend⟩

end Logistics.Library
