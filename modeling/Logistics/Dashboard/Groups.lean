import Logistics.Dashboard.Service
import Logistics.Library.Distinct

/-!
# Groups by key

The loops that group rows by a key meet the keys in the order of the rows: a group
stands where its key is first met and holds what all rows of that key add up to.
-/

namespace Logistics.Dashboard

open Logistics.Library

variable {α V : Type}

theorem adjust_eq (map : List (String × V)) (key : String) (initial : V) (f : V → V) :
    adjust map key initial f =
      if key ∈ map.map Prod.fst then
        map.map fun entry => if entry.1 = key then (entry.1, f entry.2) else entry
      else map ++ [(key, f initial)] := by
  have hany : (map.any fun entry => entry.1 == key) = true ↔ key ∈ map.map Prod.fst := by
    simp
  unfold adjust
  simp only [hany, beq_iff_eq]

/-- What the loop over the rows has made: the keys in the order in which they are
first met, each with its rows taken together. -/
theorem foldl_adjust (key : α → String) (initial : V) (step : α → V → V) (items : List α) :
    items.foldl (fun map item => adjust map (key item) initial (step item)) [] =
      (items.map key).eraseDups.map fun k =>
        (k, (items.filter fun item => key item == k).foldl (fun value item => step item value)
          initial) := by
  induction items using List.reverseRecOn with
  | nil => rfl
  | append_singleton items item ih =>
      have hkeys : ((items.map key).eraseDups.map fun k =>
          (k, (items.filter fun item => key item == k).foldl (fun value item => step item value)
            initial)).map Prod.fst = (items.map key).eraseDups := by
        rw [List.map_map]
        exact List.map_id _
      rw [List.foldl_append, ih, List.foldl_cons, List.foldl_nil, adjust_eq, hkeys,
        List.map_append, List.map_singleton]
      by_cases hmem : key item ∈ items.map key
      · rw [if_pos (List.mem_eraseDups.mpr hmem), eraseDups_append_of_mem hmem, List.map_map]
        apply List.map_congr_left
        intro k _
        simp only [Function.comp, List.filter_append]
        split
        · next heq => simp [heq]
        · next hne => simp [Ne.symm hne]
      · have hnew : items.filter (fun other => key other == key item) = [] := by
          rw [List.filter_eq_nil_iff]
          intro other hother heq
          exact hmem (List.mem_map.mpr ⟨other, hother, beq_iff_eq.mp heq⟩)
        rw [if_neg (fun h => hmem (List.mem_eraseDups.mp h)), eraseDups_append_of_notMem hmem,
          List.map_append, List.map_singleton, List.filter_append, hnew]
        congr 1
        · apply List.map_congr_left
          intro k hk
          have hne : key item ≠ k := by
            rintro rfl
            exact hmem (List.mem_eraseDups.mp hk)
          simp [hne]
        · simp

/-- No key has two groups. -/
theorem nodup_keys_foldl_adjust (key : α → String) (initial : V) (step : α → V → V)
    (items : List α) :
    ((items.foldl (fun map item => adjust map (key item) initial (step item)) []).map
      Prod.fst).Nodup := by
  have hkeys : (items.foldl (fun map item => adjust map (key item) initial (step item)) []).map
      Prod.fst = (items.map key).eraseDups := by
    rw [foldl_adjust, List.map_map]
    exact List.map_id _
  rw [hkeys]
  exact nodup_eraseDups _

end Logistics.Dashboard
