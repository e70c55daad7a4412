import Logistics.RateTables.Checks

/-!
# Active tables have ranges

Only `updateRateTableStatus` refuses to activate a table without ranges. Storing
a table with the status active, and replacing the ranges of a table that is or
becomes active, look at no such rule, so an active table has a range as long as
those requests list one.
-/

namespace Logistics.RateTables

open Logistics.Library Logistics.Quoting

/-- Every active table has a range. -/
def ActiveRated (s : Store) : Prop :=
  ∀ table ∈ s.freightRateTables.rows, table.status = .active → rangesOf s table.id ≠ []

instance (s : Store) : Decidable (ActiveRated s) := by
  unfold ActiveRated
  infer_instance

/-- A table that is stored as active, or replaced while it is active or becomes
active, is given a range. -/
def RangesListed (s : Store) : rateTableInterface.Command → Prop
  | .inr (.storeRateTable _ _ _ dto) => dto.status = some .active → dto.ranges ≠ []
  | .inr (.replaceRateTable _ id _ dto) => ∀ table ∈ s.freightRateTables.rows, table.id = id →
      dto.status.getD table.status = .active → dto.ranges ≠ []
  | _ => True

instance (s : Store) (c : rateTableInterface.Command) : Decidable (RangesListed s c) := by
  unfold RangesListed
  split <;> infer_instance

theorem rangesOf_ne_nil_iff {s : Store} {id : Id} :
    rangesOf s id ≠ [] ↔ ∃ range ∈ s.freightRateRanges.rows, range.rateTableId = id := by
  rw [rangesOf, Ne, List.filter_eq_nil_iff]
  simp

theorem exists_mem_rangeRows (input : Input) (tenantId rateTableId : Id)
    {dto : RateTableInputDto} (h : dto.ranges ≠ []) :
    ∃ range, range ∈ rangeRows input tenantId rateTableId dto := by
  apply List.exists_mem_of_ne_nil
  rw [rangeRows, Ne, List.mapIdx_eq_nil_iff]
  exact h

theorem activeRated_execute (P : Platform) (s : Store) (c : rateTableInterface.Command)
    (input : Input) (hs : ActiveRated s) (hsound : Sound s c) (hlisted : RangesListed s c) :
    ActiveRated (execute P c input s).2 := by
  intro table htable hactive
  rw [rangesOf_ne_nil_iff]
  have hold : ∀ row ∈ s.freightRateTables.rows, row.status = .active →
      ∃ range ∈ s.freightRateRanges.rows, range.rateTableId = row.id :=
    fun row hrow h => rangesOf_ne_nil_iff.mp (hs row hrow h)
  obtain hsame | ⟨tenantId, _, _, dto, _, _, rfl, -, hstored⟩ |
    ⟨tenantId, id, status, dto, _, _, rfl, -, hreplaced⟩ | ⟨id, status, rfl, hset⟩ |
    ⟨_, _, rfl, hset⟩ | ⟨_, _, rfl, hset⟩ := execute_cases P c input s
  · rw [hsame.tables] at htable
    rw [hsame.ranges]
    exact hold table htable hactive
  · rw [hstored.tables] at htable
    rw [hstored.ranges]
    rcases List.mem_append.mp htable with htable | htable
    · obtain ⟨range, hrange, hof⟩ := hold table htable hactive
      exact ⟨range, List.mem_append_left _ hrange, hof⟩
    · obtain rfl := List.mem_singleton.mp htable
      have hstatus : dto.status = some .active := by
        cases hdto : dto.status with
        | none => simp [rateTableRow, hdto] at hactive
        | some status => simpa [rateTableRow, hdto] using hactive
      obtain ⟨range, hrange⟩ := exists_mem_rangeRows input tenantId (input.ids 0) (hlisted hstatus)
      exact ⟨range, List.mem_append_right _ hrange, (rateTableId_of_mem_rangeRows hrange).1⟩
  · obtain ⟨-, current, hcurrent, hid, -, rfl⟩ := hsound
    rw [hreplaced.tables] at htable
    rw [hreplaced.ranges]
    obtain ⟨row, hrow, rfl⟩ := List.mem_map.mp htable
    by_cases hrowId : row.id = id
    · rw [if_pos hrowId] at hactive ⊢
      obtain ⟨range, hrange⟩ := exists_mem_rangeRows input tenantId id
        (hlisted current hcurrent hid hactive)
      exact ⟨range, List.mem_append_right _ hrange,
        (rateTableId_of_mem_rangeRows hrange).1.trans hrowId.symm⟩
    · rw [if_neg hrowId] at hactive ⊢
      obtain ⟨range, hrange, hof⟩ := hold row hrow hactive
      refine ⟨range, List.mem_append_left _ (List.mem_filter.mpr ⟨hrange, ?_⟩), hof⟩
      simp [hof, hrowId]
  · rw [hset.tables] at htable
    rw [hset.ranges]
    obtain ⟨row, hrow, rfl⟩ := List.mem_map.mp htable
    by_cases hrowId : row.id = id
    · rw [if_pos hrowId] at hactive ⊢
      rw [hrowId]
      exact rangesOf_ne_nil_iff.mp (hsound hactive)
    · rw [if_neg hrowId] at hactive ⊢
      exact hold row hrow hactive
  · rw [hset.tables] at htable
    rw [hset.ranges]
    exact hold table htable hactive
  · rw [hset.tables] at htable
    rw [hset.ranges]
    exact hold table htable hactive

/-- In every sequence of requests that list ranges where it matters, every active
table has a range. -/
theorem active_tables_have_ranges (P : Platform) (s : Store) (hs : ActiveRated s)
    (calls : List (Request × (ℕ → Input)))
    (hlisted : (rateTableSystem P).AlongCalls (fun s c _ => RangesListed s c) calls s) :
    ActiveRated ((rateTableSystem P).runCalls calls s) :=
  runCalls_keep P (fun s c input hs hsound hlisted =>
    activeRated_execute P s c input hs hsound hlisted) calls hs hlisted

/-- A table is stored as active, replaced, and copied. -/
def ratedCalls : List (Request × (ℕ → Input)) :=
  [(.createRateTable "tenant" "ana" (plainTable "service" (some .active) ["coverage"]
      [plainRange 0 10, plainRange 11 20]), plainInputs "a"),
    (.updateRateTable "tenant" "ana" "a0" (plainTable "service" none ["coverage"]
      [plainRange 0 30]), plainInputs "b"),
    (.createRateTableVersion "tenant" "ana" "a0", plainInputs "c"),
    (.updateRateTableStatus "tenant" "ana" "c0" .active, plainInputs "d")]

theorem activeRated_twoServices : ActiveRated twoServices := by
  simp [ActiveRated, twoServices, Table.empty]

theorem active_tables_have_ranges_ratedCalls :
    ActiveRated ((rateTableSystem plainPlatform).runCalls ratedCalls twoServices) :=
  active_tables_have_ranges plainPlatform twoServices activeRated_twoServices ratedCalls
    (by decide +kernel)

/-- A table stored as active with no ranges at all. -/
theorem an_active_table_has_no_range :
    (plainTable "service" (some .active) [] []).isValid = true ∧ ActiveRated twoServices ∧
      ¬ActiveRated ((rateTableSystem plainPlatform).runCalls
        [(.createRateTable "tenant" "ana" (plainTable "service" (some .active) [] []),
          plainInputs "a")] twoServices) :=
  ⟨by decide +kernel, activeRated_twoServices, by decide +kernel⟩

end Logistics.RateTables
