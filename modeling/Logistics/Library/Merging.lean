import Mathlib.Data.List.Basic
import Mathlib.Logic.Function.Basic
import Mathlib.Order.Lattice
import Mathlib.Tactic.Common

/-!
# Merging keyed entries into a map

Rows come one after the other, and some of them carry an entry: a key with what is
to be put there. Of each key only the first entry counts, so that the map in the
end has a closed form (`merge_apply`): a key holds what its first entry makes of
what it held before. When putting twice is putting once, merging some of the first
rows and then, starting over, some of the first rows again comes to merging the
longer of the two (`merge_take_take`).
-/

namespace Logistics.Library

section Merge

variable {ρ κ ι ν : Type*} [DecidableEq κ] (entry : ρ → Option (κ × ι))
  (put : Option ν → ι → ν)

/-- The map after the rows, when the keys `seen` have been met before. -/
def merge : List ρ → List κ → (κ → Option ν) → κ → Option ν
  | [], _, held => held
  | row :: rest, seen, held =>
      match entry row with
      | none => merge rest seen held
      | some (k, x) =>
          if k ∈ seen then merge rest seen held
          else merge rest (k :: seen) (Function.update held k (some (put (held k) x)))

def firstEntry (rows : List ρ) (k : κ) : Option ι := (rows.filterMap entry).lookup k

@[simp] theorem firstEntry_nil (k : κ) : firstEntry entry [] k = none := rfl

theorem firstEntry_cons_none {row : ρ} (h : entry row = none) (rest : List ρ) (k : κ) :
    firstEntry entry (row :: rest) k = firstEntry entry rest k := by
  rw [firstEntry, List.filterMap_cons_none h, firstEntry]

theorem firstEntry_cons_some {row : ρ} {k' : κ} {x : ι} (h : entry row = some (k', x))
    (rest : List ρ) (k : κ) :
    firstEntry entry (row :: rest) k = if k = k' then some x else firstEntry entry rest k := by
  rw [firstEntry, List.filterMap_cons_some h, List.lookup_cons]
  by_cases hk : k = k'
  · rw [hk, beq_self_eq_true, if_pos rfl]
  · rw [beq_eq_false_iff_ne.mpr hk, if_neg hk]
    rfl

theorem firstEntry_append (rows rest : List ρ) (k : κ) :
    firstEntry entry (rows ++ rest) k = (firstEntry entry rows k).or (firstEntry entry rest k) := by
  rw [firstEntry, List.filterMap_append, List.lookup_append, firstEntry, firstEntry]

theorem firstEntry_take_mono {rows : List ρ} {k : κ} {x : ι} {n m : ℕ} (hle : n ≤ m)
    (h : firstEntry entry (rows.take n) k = some x) :
    firstEntry entry (rows.take m) k = some x := by
  obtain ⟨d, rfl⟩ := Nat.exists_eq_add_of_le hle
  rw [List.take_add, firstEntry_append, h, Option.some_or]

theorem merge_apply (rows : List ρ) (seen : List κ) (held : κ → Option ν) (k : κ) :
    merge entry put rows seen held k =
      if k ∈ seen then held k
      else (firstEntry entry rows k).elim (held k) fun x => some (put (held k) x) := by
  induction rows generalizing seen held with
  | nil => simp [merge]
  | cons row rest ih =>
      unfold merge
      cases hentry : entry row with
      | none =>
          dsimp only
          rw [ih, firstEntry_cons_none entry hentry]
      | some pair =>
          obtain ⟨k', x⟩ := pair
          dsimp only
          rw [firstEntry_cons_some entry hentry]
          by_cases hseen : k' ∈ seen
          · rw [if_pos hseen, ih]
            by_cases hk : k = k'
            · rw [hk, if_pos hseen, if_pos hseen]
            · rw [if_neg hk]
          · rw [if_neg hseen, ih]
            by_cases hk : k = k'
            · rw [hk, if_pos List.mem_cons_self, if_neg hseen, if_pos rfl, Function.update_self]
              rfl
            · rw [Function.update_of_ne hk, if_neg hk]
              simp only [List.mem_cons, hk, false_or]

theorem merge_nil_apply (rows : List ρ) (held : κ → Option ν) (k : κ) :
    merge entry put rows [] held k =
      (firstEntry entry rows k).elim (held k) fun x => some (put (held k) x) := by
  rw [merge_apply, if_neg List.not_mem_nil]

/-- Starting over does no more than going on. -/
theorem merge_take_take (hput : ∀ held x, put (some (put held x)) x = put held x)
    (rows : List ρ) (n m : ℕ) (held : κ → Option ν) :
    merge entry put (rows.take m) [] (merge entry put (rows.take n) [] held) =
      merge entry put (rows.take (max n m)) [] held := by
  funext k
  rw [merge_nil_apply, merge_nil_apply, merge_nil_apply]
  rcases le_total n m with hle | hle
  · rw [max_eq_right hle]
    cases hn : firstEntry entry (rows.take n) k with
    | none => rfl
    | some x =>
        rw [firstEntry_take_mono entry hle hn, Option.elim_some, Option.elim_some, hput]
  · rw [max_eq_left hle]
    cases hm : firstEntry entry (rows.take m) k with
    | none => rfl
    | some x =>
        rw [firstEntry_take_mono entry hle hm, Option.elim_some, Option.elim_some, hput]

end Merge

end Logistics.Library
