import Mathlib.Order.Lattice
import Mathlib.Data.Option.Basic

/-!
# Counters with an expiry

A window counts what happens until it expires; the first count after that opens the
next window. When the expiry of an old window is noticed does not matter: only what
remains of it at an instant does (`remaining_remaining`).
-/

namespace Logistics.Library

structure Window (T : Type*) where
  count : ℕ
  expiresAt : T
  deriving DecidableEq

namespace Window

variable {T : Type*} [LinearOrder T]

/-- What is left of a window at an instant: nothing from its expiry on. -/
def remaining (now : T) (w : Option (Window T)) : Option (Window T) :=
  w.filter fun w => now < w.expiresAt

/-- How often it was counted in the window that is open. -/
def tally (now : T) (w : Option (Window T)) : ℕ :=
  (remaining now w).elim 0 count

/-- Count once, in the window that is open or in a new one with this expiry. -/
def hit (now expiry : T) (w : Option (Window T)) : Window T :=
  match remaining now w with
  | some w => { w with count := w.count + 1 }
  | none => ⟨1, expiry⟩

theorem remaining_none (now : T) : remaining now none = none := rfl

theorem remaining_of_lt {now : T} {w : Window T} (h : now < w.expiresAt) :
    remaining now (some w) = some w := by
  simp [remaining, Option.filter, h]

theorem remaining_of_le {now : T} {w : Window T} (h : w.expiresAt ≤ now) :
    remaining now (some w) = none := by
  simp [remaining, Option.filter, not_lt.mpr h]

/-- What was left earlier is as good as the window itself. -/
theorem remaining_remaining {now later : T} (h : now ≤ later) (w : Option (Window T)) :
    remaining later (remaining now w) = remaining later w := by
  cases w with
  | none => rfl
  | some w =>
      rcases lt_or_ge now w.expiresAt with hopen | hclosed
      · rw [remaining_of_lt hopen]
      · rw [remaining_of_le hclosed, remaining_of_le (hclosed.trans h), remaining_none]

theorem count_hit_pos (now expiry : T) (w : Option (Window T)) : 0 < (hit now expiry w).count := by
  unfold hit
  split <;> exact Nat.succ_pos _

end Window

end Logistics.Library
