import Logistics.RateTables.Service

/-!
# What the calls do to rate tables

A table is stored with its rows, replaced with all its rows, or gets another
status; a coverage is stored or rewritten. `execute_cases` says all of what each
of these transactions does to tables, ranges, links and coverages when it
commits, and that every other call leaves them as they are.
-/

namespace Logistics.RateTables

open Logistics.Library Logistics.Quoting

theorem table_eq_of_id {s : Store} {a b : FreightRateTable}
    (ha : a ∈ s.freightRateTables.rows) (hb : b ∈ s.freightRateTables.rows)
    (hid : a.id = b.id) : a = b := by
  apply s.freightRateTables.eq_of_key ha hb (k := .id a.id)
  · simp [FreightRateTable.keys]
  · simp [FreightRateTable.keys, hid]

theorem rateTableId_of_mem_rangeRows {input : Input} {tenantId rateTableId : Id}
    {dto : RateTableInputDto} {range : FreightRateRange}
    (h : range ∈ rangeRows input tenantId rateTableId dto) :
    range.rateTableId = rateTableId ∧ range.tenantId = tenantId := by
  obtain ⟨n, hn, rfl⟩ := List.mem_mapIdx.mp h
  exact ⟨rfl, rfl⟩

/-- The tables, ranges, links and coverages are as before. -/
structure Untouched (s s' : Store) : Prop where
  tables : s'.freightRateTables = s.freightRateTables
  ranges : s'.freightRateRanges = s.freightRateRanges
  links : s'.freightRateTableCoverages = s.freightRateTableCoverages
  coverages : s'.carrierCoverages = s.carrierCoverages

theorem Untouched.refl (s : Store) : Untouched s s := ⟨rfl, rfl, rfl, rfl⟩

structure Stored (s s' : Store) (table : FreightRateTable) (ranges : List FreightRateRange)
    (links : List FreightRateTableCoverage) : Prop where
  fresh : ∀ key ∈ table.keys, ∀ row ∈ s.freightRateTables.rows, key ∉ row.keys
  tables : s'.freightRateTables.rows = s.freightRateTables.rows ++ [table]
  ranges : s'.freightRateRanges.rows = s.freightRateRanges.rows ++ ranges
  links : s'.freightRateTableCoverages.rows = s.freightRateTableCoverages.rows ++ links
  coverages : s'.carrierCoverages = s.carrierCoverages

/-- A table is rewritten, and its rows are replaced. -/
structure Replaced (s s' : Store) (tenantId id : Id) (rewrite : FreightRateTable → FreightRateTable)
    (ranges : List FreightRateRange) (links : List FreightRateTableCoverage) : Prop where
  stored : ∃ row ∈ s.freightRateTables.rows, row.id = id
  tables : s'.freightRateTables.rows =
    s.freightRateTables.rows.map fun row => if row.id = id then rewrite row else row
  ranges : s'.freightRateRanges.rows =
    (s.freightRateRanges.rows.filter fun row =>
      !(row.tenantId == tenantId && row.rateTableId == id)) ++ ranges
  links : s'.freightRateTableCoverages.rows =
    (s.freightRateTableCoverages.rows.filter fun row =>
      !(row.tenantId == tenantId && row.rateTableId == id)) ++ links
  coverages : s'.carrierCoverages = s.carrierCoverages
  unnamed : rangesNamed s tenantId id = false

structure StatusSet (s s' : Store) (id : Id) (status : FreightRateTableStatus) : Prop where
  tables : s'.freightRateTables.rows =
    s.freightRateTables.rows.map fun row => if row.id = id then { row with status } else row
  ranges : s'.freightRateRanges = s.freightRateRanges
  links : s'.freightRateTableCoverages = s.freightRateTableCoverages
  coverages : s'.carrierCoverages = s.carrierCoverages

/-- The coverages become these, and nothing else changes. -/
structure CoveragesSet (s s' : Store) (rows : List CarrierCoverage) : Prop where
  tables : s'.freightRateTables = s.freightRateTables
  ranges : s'.freightRateRanges = s.freightRateRanges
  links : s'.freightRateTableCoverages = s.freightRateTableCoverages
  coverages : s'.carrierCoverages.rows = rows

theorem storeRateTable_cases (P : Platform) (s : Store) (input : Input) (tenantId : Id)
    (version : ℕ) (previousVersionId : Option Id) (dto : RateTableInputDto) :
    (∃ error, storeRateTable P s input tenantId version previousVersionId dto =
      (.error error, s)) ∨
    ∃ validFrom validTo,
      (storeRateTable P s input tenantId version previousVersionId dto).1 =
        .ok (rateTableRow P (input.ids 0) tenantId version previousVersionId dto validFrom
          validTo) ∧
      fitsColumns dto = true ∧
      Stored s (storeRateTable P s input tenantId version previousVersionId dto).2
        (rateTableRow P (input.ids 0) tenantId version previousVersionId dto validFrom validTo)
        (rangeRows input tenantId (input.ids 0) dto)
        (linkRows input tenantId (input.ids 0) dto) := by
  unfold storeRateTable
  split
  · exact .inl ⟨_, rfl⟩
  · next validFrom validTo hvalidity =>
    dsimp only
    split
    · exact .inl ⟨_, rfl⟩
    · next hfits =>
      split
      · next tables ranges charges links htables hranges hcharges hlinks =>
        refine .inr ⟨validFrom, validTo, rfl, by simpa using hfits, ?_, ?_, ?_, ?_, rfl⟩
        · exact Table.fresh_of_tryInsert htables
        · exact Table.tryInsert_rows htables
        · exact Table.tryInsertAll_rows hranges
        · exact Table.tryInsertAll_rows hlinks
      · exact .inl ⟨_, rfl⟩

theorem replaceRateTable_cases (P : Platform) (s : Store) (input : Input) (tenantId id : Id)
    (status : FreightRateTableStatus) (dto : RateTableInputDto) :
    (∃ error, replaceRateTable P s input tenantId id status dto = (.error error, s)) ∨
    ∃ validFrom validTo,
      (replaceRateTable P s input tenantId id status dto).1 = .ok () ∧
      fitsColumns dto = true ∧
      Replaced s (replaceRateTable P s input tenantId id status dto).2 tenantId id
        (replacedRow P status dto validFrom validTo) (rangeRows input tenantId id dto)
        (linkRows input tenantId id dto) := by
  unfold replaceRateTable
  split
  · exact .inl ⟨_, rfl⟩
  · next validFrom validTo hvalidity =>
    split
    · exact .inl ⟨_, rfl⟩
    · next hfits =>
      split
      · exact .inl ⟨_, rfl⟩
      · next hnamed =>
        split
        · exact .inl ⟨_, rfl⟩
        · next hstored =>
          split
          · next tables ranges charges links htables hranges hcharges hlinks =>
            refine .inr ⟨validFrom, validTo, rfl, by simpa using hfits, by simpa using hstored, ?_,
              ?_, ?_, rfl, by simpa using hnamed⟩
            · rw [Table.tryUpdate_rows htables]
              simp only [beq_iff_eq]
            · exact Table.tryInsertAll_rows hranges
            · exact Table.tryInsertAll_rows hlinks
          · exact .inl ⟨_, rfl⟩

theorem setStatus_cases (s : Store) (id : Id) (status : FreightRateTableStatus) :
    setStatus s id status = (.error .recordNotFound, s) ∨
      StatusSet s (setStatus s id status).2 id status := by
  unfold setStatus
  split
  · exact .inl rfl
  · refine .inr ⟨?_, rfl, rfl, rfl⟩
    apply List.map_congr_left
    intro row _
    simp only [beq_iff_eq]

theorem storeCoverage_cases (P : Platform) (s : Store) (input : Input) (tenantId : Id)
    (dto : CoverageDto) :
    storeCoverage P s input tenantId dto = (.error .uniqueViolation, s) ∨
      CoveragesSet s (storeCoverage P s input tenantId dto).2
        (s.carrierCoverages.rows ++ [coverageRow P (input.ids 0) tenantId dto]) := by
  unfold storeCoverage
  split
  · exact .inl rfl
  · next coverages hinsert => exact .inr ⟨rfl, rfl, rfl, Table.tryInsert_rows hinsert⟩

theorem updateCoverageRow_cases (P : Platform) (s : Store) (id : Id) (dto : CoverageDto) :
    updateCoverageRow P s id dto = (.error .recordNotFound, s) ∨
      CoveragesSet s (updateCoverageRow P s id dto).2
        (s.carrierCoverages.rows.map fun row =>
          if row.id = id then updatedCoverage P dto row else row) := by
  unfold updateCoverageRow
  split
  · exact .inl rfl
  · refine .inr ⟨rfl, rfl, rfl, ?_⟩
    apply List.map_congr_left
    intro row _
    simp only [beq_iff_eq]

theorem untouched_quoting (P : Platform) (c : Quoting.Command) (input : Input) (s : Store) :
    Untouched s (execute P (.inl c) input s).2 := by
  change Untouched s (Quoting.execute P c input s).2
  cases c with
  | now => exact .refl s
  | storeSimulation tenantId actorId data =>
      by_cases hf : input.fault = true
      · rw [Quoting.execute, if_pos hf]
        exact .refl s
      · rw [Quoting.execute, if_neg hf, storeSimulation]
        split
        · exact .refl s
        split
        · exact .refl s
        · split
          · exact ⟨rfl, rfl, rfl, rfl⟩
          · exact .refl s
  | recordAudit audit =>
      by_cases hf : input.fault = true
      · rw [Quoting.execute, if_pos hf]
        exact .refl s
      · rw [Quoting.execute, if_neg hf]
        exact ⟨rfl, rfl, rfl, rfl⟩
  | _ =>
      by_cases hf : input.fault = true
      · rw [Quoting.execute, if_pos hf]
        exact .refl s
      · rw [Quoting.execute, if_neg hf]
        exact .refl s

/-- The call is one of those that only read tables and coverages. -/
def Reads : RateTableCommand → Prop
  | .storeRateTable .. => False
  | .replaceRateTable .. => False
  | .setStatus .. => False
  | .storeCoverage .. => False
  | .updateCoverage .. => False
  | _ => True

theorem execute_fault (P : Platform) (c : RateTableCommand) {input : Input} (s : Store)
    (hf : input.fault = true) : execute P (.inr c) input s = (.error .fault, s) := by
  simp [execute, Backend.extend, executeRateTables, hf]

theorem execute_answer (P : Platform) (c : RateTableCommand) {input : Input} (s : Store)
    (hf : ¬input.fault = true) : execute P (.inr c) input s = answer P c input s := by
  simp [execute, Backend.extend, executeRateTables, hf]

/-- A call leaves tables, ranges, links and coverages as they were, or it is one of
the five transactions, and commits. -/
theorem execute_cases (P : Platform) (c : rateTableInterface.Command) (input : Input)
    (s : Store) :
    Untouched s (execute P c input s).2 ∨
    (∃ tenantId version previousVersionId dto validFrom validTo,
      c = .inr (.storeRateTable tenantId version previousVersionId dto) ∧
      fitsColumns dto = true ∧
      Stored s (execute P c input s).2
        (rateTableRow P (input.ids 0) tenantId version previousVersionId dto validFrom validTo)
        (rangeRows input tenantId (input.ids 0) dto)
        (linkRows input tenantId (input.ids 0) dto)) ∨
    (∃ tenantId id status dto validFrom validTo,
      c = .inr (.replaceRateTable tenantId id status dto) ∧
      fitsColumns dto = true ∧
      Replaced s (execute P c input s).2 tenantId id
        (replacedRow P status dto validFrom validTo) (rangeRows input tenantId id dto)
        (linkRows input tenantId id dto)) ∨
    (∃ id status, c = .inr (.setStatus id status) ∧
      StatusSet s (execute P c input s).2 id status) ∨
    (∃ tenantId dto, c = .inr (.storeCoverage tenantId dto) ∧
      CoveragesSet s (execute P c input s).2
        (s.carrierCoverages.rows ++ [coverageRow P (input.ids 0) tenantId dto])) ∨
    ∃ id dto, c = .inr (.updateCoverage id dto) ∧
      CoveragesSet s (execute P c input s).2 (s.carrierCoverages.rows.map fun row =>
        if row.id = id then updatedCoverage P dto row else row) := by
  cases c with
  | inl c => exact .inl (untouched_quoting P c input s)
  | inr c =>
      by_cases hf : input.fault = true
      · left
        rw [execute_fault P c s hf]
        exact .refl s
      · rw [execute_answer P c s hf]
        cases c with
        | storeRateTable tenantId version previousVersionId dto =>
            rcases storeRateTable_cases P s input tenantId version previousVersionId dto with
              ⟨error, h⟩ | ⟨validFrom, validTo, -, hfits, h⟩
            · left
              rw [answer, h]
              exact .refl s
            · right; left
              exact ⟨tenantId, version, previousVersionId, dto, validFrom, validTo, rfl, hfits, h⟩
        | replaceRateTable tenantId id status dto =>
            rcases replaceRateTable_cases P s input tenantId id status dto with
              ⟨error, h⟩ | ⟨validFrom, validTo, -, hfits, h⟩
            · left
              rw [answer, h]
              exact .refl s
            · right; right; left
              exact ⟨tenantId, id, status, dto, validFrom, validTo, rfl, hfits, h⟩
        | setStatus id status =>
            rcases setStatus_cases s id status with h | h
            · left
              rw [answer, h]
              exact .refl s
            · right; right; right; left
              exact ⟨id, status, rfl, h⟩
        | storeCoverage tenantId dto =>
            rcases storeCoverage_cases P s input tenantId dto with h | h
            · left
              rw [answer, h]
              exact .refl s
            · right; right; right; right; left
              exact ⟨tenantId, dto, rfl, h⟩
        | updateCoverage id dto =>
            rcases updateCoverageRow_cases P s id dto with h | h
            · left
              rw [answer, h]
              exact .refl s
            · right; right; right; right; right
              exact ⟨id, dto, rfl, h⟩
        | _ => exact .inl (.refl s)

end Logistics.RateTables
