import Mathlib.Data.List.Basic
import Mathlib.Data.List.Induction
import Mathlib.Data.List.Nodup
import Mathlib.Order.Basic
import Mathlib.Tactic.Common

/-!
# Lists without repetitions

`eraseDups` keeps of each value the place where it is first met. It is met here under a
map of the values, which may bring some of them together, and in an ordered list,
which it leaves strictly ordered.
-/

namespace Logistics.Library

variable {α β : Type} [BEq α] [LawfulBEq α] [BEq β] [LawfulBEq β]

theorem eraseDups_append_of_mem {xs : List α} {x : α} (h : x ∈ xs) :
    (xs ++ [x]).eraseDups = xs.eraseDups := by
  rw [List.eraseDups_append, List.removeAll, List.filter_cons_of_neg (by simpa using h)]
  exact List.append_nil _

theorem eraseDups_append_of_notMem {xs : List α} {x : α} (h : x ∉ xs) :
    (xs ++ [x]).eraseDups = xs.eraseDups ++ [x] := by
  rw [List.eraseDups_append, List.removeAll, List.filter_cons_of_pos (by simpa using h)]
  rfl

theorem nodup_eraseDups (xs : List α) : xs.eraseDups.Nodup := by
  induction xs using List.reverseRecOn with
  | nil => exact List.nodup_nil
  | append_singleton xs x ih =>
      by_cases hx : x ∈ xs
      · rw [eraseDups_append_of_mem hx]
        exact ih
      · rw [eraseDups_append_of_notMem hx, List.nodup_append]
        refine ⟨ih, List.nodup_singleton x, ?_⟩
        rintro a ha b hb rfl
        obtain rfl := List.mem_singleton.mp hb
        exact hx (List.mem_eraseDups.mp ha)

theorem eraseDups_of_nodup {xs : List α} (h : xs.Nodup) : xs.eraseDups = xs := by
  induction xs using List.reverseRecOn with
  | nil => rfl
  | append_singleton xs x ih =>
      obtain ⟨hxs, -, hapart⟩ := List.nodup_append.mp h
      have hx : x ∉ xs := fun hmem => hapart x hmem x (List.mem_singleton.mpr rfl) rfl
      rw [eraseDups_append_of_notMem hx, ih hxs]

theorem eraseDups_map_eraseDups (f : α → β) (xs : List α) :
    (xs.eraseDups.map f).eraseDups = (xs.map f).eraseDups := by
  induction xs using List.reverseRecOn with
  | nil => rfl
  | append_singleton xs x ih =>
      rw [List.map_append, List.map_singleton]
      by_cases hx : x ∈ xs
      · rw [eraseDups_append_of_mem hx, eraseDups_append_of_mem (List.mem_map_of_mem hx), ih]
      · rw [eraseDups_append_of_notMem hx, List.map_append, List.map_singleton]
        have hiff : f x ∈ xs.eraseDups.map f ↔ f x ∈ xs.map f := by
          simp only [List.mem_map, List.mem_eraseDups]
        by_cases hf : f x ∈ xs.map f
        · rw [eraseDups_append_of_mem (hiff.mpr hf), eraseDups_append_of_mem hf, ih]
        · rw [eraseDups_append_of_notMem (fun h => hf (hiff.mp h)),
            eraseDups_append_of_notMem hf, ih]

theorem pairwise_lt_eraseDups [PartialOrder α] {xs : List α} (h : xs.Pairwise (· ≤ ·)) :
    xs.eraseDups.Pairwise (· < ·) := by
  induction xs using List.reverseRecOn with
  | nil => exact List.Pairwise.nil
  | append_singleton xs x ih =>
      obtain ⟨hxs, -, hle⟩ := List.pairwise_append.mp h
      by_cases hx : x ∈ xs
      · rw [eraseDups_append_of_mem hx]
        exact ih hxs
      · rw [eraseDups_append_of_notMem hx, List.pairwise_append]
        refine ⟨ih hxs, List.pairwise_singleton _ x, ?_⟩
        intro a ha b hb
        have hmem := List.mem_eraseDups.mp ha
        refine lt_of_le_of_ne (hle a hmem b hb) ?_
        rintro rfl
        obtain rfl := List.mem_singleton.mp hb
        exact hx hmem

omit [BEq α] [LawfulBEq α] in
/-- A map that keeps the values of the second part apart from all others keeps that part
as it is. -/
theorem eraseDups_map_append {f : α → β} {xs ys : List α} (hys : ys.Nodup)
    (h : ∀ y ∈ ys, ∀ x ∈ xs ++ ys, f x = f y → x = y) (hxs : ∀ y ∈ ys, y ∉ xs) :
    ((xs ++ ys).map f).eraseDups = (xs.map f).eraseDups ++ ys.map f := by
  have hapart : ∀ y ∈ ys, f y ∉ xs.map f := by
    intro y hy hmem
    obtain ⟨x, hx, hfx⟩ := List.mem_map.mp hmem
    exact hxs y hy (h y hy x (List.mem_append_left _ hx) hfx ▸ hx)
  have hnew : (ys.map f).removeAll (xs.map f) = ys.map f := by
    rw [List.removeAll, List.filter_eq_self]
    intro b hb
    obtain ⟨y, hy, rfl⟩ := List.mem_map.mp hb
    simpa using hapart y hy
  have hnodup : (ys.map f).Nodup :=
    hys.map_on fun x hx y hy hf => h y hy x (List.mem_append_right _ hx) hf
  rw [List.map_append, List.eraseDups_append, hnew, eraseDups_of_nodup hnodup]

end Logistics.Library
