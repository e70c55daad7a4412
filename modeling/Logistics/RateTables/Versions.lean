import Logistics.RateTables.Checks

/-!
# Version numbers of rate tables

A new version of a table gets a number above those of all tables of the service,
but a table that is not made from another one always gets number one, whatever
tables the service has. Replacing a table keeps its number, also when the table
goes to another service. So of the three operations only making a new version is
safe: the first needs a service without tables, and the second one without a table
of the same number.
-/

namespace Logistics.RateTables

open Logistics.Library Logistics.Quoting

/-! ## Numbers are positive -/

/-- Version numbers begin at one. -/
def Numbered (s : Store) : Prop :=
  ∀ table ∈ s.freightRateTables.rows, 1 ≤ table.version

theorem one_le_versionAfter (s : Store) (tenantId carrierServiceId : Id)
    (previousVersionId : Option Id) :
    1 ≤ versionAfter s tenantId carrierServiceId previousVersionId := by
  cases previousVersionId with
  | none => exact le_rfl
  | some id => exact Nat.le_add_left 1 _

theorem numbered_execute (P : Platform) (s : Store) (c : rateTableInterface.Command)
    (input : Input) (hs : Numbered s) (hsound : Sound s c) :
    Numbered (execute P c input s).2 := by
  intro table htable
  obtain hsame | ⟨tenantId, _, _, dto, _, _, rfl, -, hstored⟩ |
    ⟨tenantId, id, status, dto, _, _, rfl, -, hreplaced⟩ | ⟨id, status, rfl, hset⟩ |
    ⟨_, _, rfl, hset⟩ | ⟨_, _, rfl, hset⟩ := execute_cases P c input s
  · exact hs table (hsame.tables ▸ htable)
  · rw [hstored.tables] at htable
    rcases List.mem_append.mp htable with htable | htable
    · exact hs table htable
    · obtain rfl := List.mem_singleton.mp htable
      exact hsound.2.1 ▸ one_le_versionAfter s tenantId dto.carrierServiceId _
  · rw [hreplaced.tables] at htable
    obtain ⟨row, hrow, rfl⟩ := List.mem_map.mp htable
    split <;> exact hs row hrow
  · rw [hset.tables] at htable
    obtain ⟨row, hrow, rfl⟩ := List.mem_map.mp htable
    split <;> exact hs row hrow
  · exact hs table (hset.tables ▸ htable)
  · exact hs table (hset.tables ▸ htable)

theorem mem_tablesOf {s : Store} {tenantId carrierServiceId : Id} {table : FreightRateTable} :
    table ∈ tablesOf s tenantId carrierServiceId ↔ table ∈ s.freightRateTables.rows ∧
      table.tenantId = tenantId ∧ table.carrierServiceId = carrierServiceId := by
  simp [tablesOf]

/-- The number of a new version is above those of all tables of the service. -/
theorem lt_versionAfter_some {s : Store} {tenantId carrierServiceId : Id}
    {table : FreightRateTable} (h : table ∈ tablesOf s tenantId carrierServiceId) (id : Id) :
    table.version < versionAfter s tenantId carrierServiceId (some id) :=
  Nat.lt_succ_of_le (List.le_max?_getD_of_mem (List.mem_map_of_mem h))

/-! ## What a request finds when it is run alone -/

/-- Apart from version numbers nothing stands against storing the table. -/
structure Storable (s : Store) (tenantId : Id) (dto : RateTableInputDto) : Prop where
  checked : Checked s tenantId dto
  service : ∃ service ∈ s.carrierServices.rows, ∃ carrier ∈ s.carriers.rows,
    service.id = dto.carrierServiceId ∧ service.tenantId = tenantId ∧
      carrier.id = service.carrierId ∧ carrier.active = true
  dates : validity dto ≠ none
  columns : fitsColumns dto = true

/-- The database does not break the call off, no range that it deletes is named by an
option, and the rows it stores get new identifiers. -/
def Undisturbed (s : Store) : rateTableInterface.Command → Input → Prop
  | .inr (.storeRateTable tenantId _ _ dto), input =>
      input.fault = false ∧ (∀ row ∈ s.freightRateTables.rows, row.id ≠ input.ids 0) ∧
        (s.freightRateRanges.tryInsertAll (rangeRows input tenantId (input.ids 0) dto)).isSome ∧
        (s.freightAdditionalCharges.tryInsertAll
          (chargeRows input tenantId (input.ids 0) dto)).isSome ∧
        (s.freightRateTableCoverages.tryInsertAll
          (linkRows input tenantId (input.ids 0) dto)).isSome
  | .inr (.replaceRateTable tenantId id _ dto), input =>
      input.fault = false ∧ rangesNamed s tenantId id = false ∧
        ((s.freightRateRanges.delete fun row =>
          row.tenantId == tenantId && row.rateTableId == id).tryInsertAll
            (rangeRows input tenantId id dto)).isSome ∧
        ((s.freightAdditionalCharges.delete fun row =>
          row.tenantId == tenantId && row.rateTableId == id).tryInsertAll
            (chargeRows input tenantId id dto)).isSome ∧
        ((s.freightRateTableCoverages.delete fun row =>
          row.tenantId == tenantId && row.rateTableId == id).tryInsertAll
            (linkRows input tenantId id dto)).isSome
  | _, input => input.fault = false

instance (s : Store) (c : rateTableInterface.Command) (input : Input) :
    Decidable (Undisturbed s c input) := by
  refine decideExtended (p := fun c => Undisturbed s c input)
    (fun _ => inferInstanceAs (Decidable (_ = false))) (fun c => ?_) c
  apply @RateTableCommand.casesOn (fun c => Decidable (Undisturbed s (.inr c) input)) c <;>
    intros <;> dsimp only [Undisturbed] <;> infer_instance

theorem Undisturbed.fault {s : Store} {c : rateTableInterface.Command} {input : Input}
    (h : Undisturbed s c input) : input.fault = false := by
  unfold Undisturbed at h
  split at h
  · exact h.1
  · exact h.1
  · exact h

/-- A table is stored, under a number above those of all tables of the service. -/
def StoredAbove (s s' : Store) (tenantId carrierServiceId : Id) : Prop :=
  ∃ table, s'.freightRateTables.rows = s.freightRateTables.rows ++ [table] ∧
    table.tenantId = tenantId ∧ table.carrierServiceId = carrierServiceId ∧
    ∀ old ∈ tablesOf s tenantId carrierServiceId, old.version < table.version

/-- How storing a table under a version number ends. -/
def StoreOutcome {α : Type} (s : Store) (tenantId carrierServiceId : Id) (version : ℕ)
    (r : Except ServiceError α) (s' : Store) : Prop :=
  ((∃ old ∈ tablesOf s tenantId carrierServiceId, old.version = version) ∧
      r = .error .uniqueViolation ∧ s'.freightRateTables = s.freightRateTables) ∨
    (∀ old ∈ tablesOf s tenantId carrierServiceId, old.version ≠ version) ∧
      r ≠ .error .uniqueViolation ∧
      ∃ table, s'.freightRateTables.rows = s.freightRateTables.rows ++ [table] ∧
        table.tenantId = tenantId ∧ table.carrierServiceId = carrierServiceId ∧
        table.version = version

/-- Whether the number is free is all that decides whether the table is stored. -/
theorem storeRateTable_outcome {P : Platform} {s : Store} {input : Input} {tenantId : Id}
    {dto : RateTableInputDto} (h : Storable s tenantId dto) (version : ℕ)
    (previousVersionId : Option Id)
    (hinput : Undisturbed s (.inr (.storeRateTable tenantId version previousVersionId dto))
      input) :
    StoreOutcome s tenantId dto.carrierServiceId version
      (storeRateTable P s input tenantId version previousVersionId dto).1
      (storeRateTable P s input tenantId version previousVersionId dto).2 := by
  obtain ⟨-, hid, hranges, hcharges, hlinks⟩ := hinput
  obtain ⟨ranges, hranges⟩ := Option.isSome_iff_exists.mp hranges
  obtain ⟨charges, hcharges⟩ := Option.isSome_iff_exists.mp hcharges
  obtain ⟨links, hlinks⟩ := Option.isSome_iff_exists.mp hlinks
  obtain ⟨⟨validFrom, validTo⟩, hvalidity⟩ := Option.ne_none_iff_exists'.mp h.dates
  have hfree := s.freightRateTables.tryInsert_isSome_iff
    (rateTableRow P (input.ids 0) tenantId version previousVersionId dto validFrom validTo)
  unfold storeRateTable
  simp only [hvalidity, h.columns, Bool.not_true, Bool.false_eq_true, if_false]
  cases htables : s.freightRateTables.tryInsert
      (rateTableRow P (input.ids 0) tenantId version previousVersionId dto validFrom validTo) with
  | none =>
      left
      refine ⟨?_, rfl, rfl⟩
      by_contra hnone
      refine absurd (hfree.mpr ⟨by simp [FreightRateTable.keys], ?_⟩) (by simp [htables])
      intro key hkey row hrow hrowKey
      simp only [FreightRateTable.keys, rateTableRow, List.mem_cons, List.not_mem_nil,
        or_false] at hkey hrowKey
      rcases hkey with rfl | rfl
      · exact hid row hrow (by simpa [eq_comm] using hrowKey)
      · simp only [RateTableKey.version.injEq, reduceCtorEq, false_or] at hrowKey
        exact hnone ⟨row, mem_tablesOf.mpr ⟨hrow, hrowKey.1.symm, hrowKey.2.1.symm⟩,
          hrowKey.2.2.symm⟩
  | some tables =>
      right
      simp only [rateTableRow, hranges, hcharges, hlinks]
      refine ⟨?_, by simp, _, Table.tryInsert_rows htables, rfl, rfl, rfl⟩
      rintro old hold rfl
      obtain ⟨hrow, rfl, hservice⟩ := mem_tablesOf.mp hold
      have hfresh := (hfree.mp ⟨tables, htables⟩).2
      exact hfresh (.version old.tenantId dto.carrierServiceId old.version)
        (by simp [FreightRateTable.keys, rateTableRow]) old hrow
        (by simp [FreightRateTable.keys, hservice])

/-- A table that takes the replaced table's number away from it. -/
def NumberTaken (s : Store) (tenantId carrierServiceId : Id) (current : FreightRateTable) : Prop :=
  ∃ other ∈ tablesOf s tenantId carrierServiceId, other.id ≠ current.id ∧
    other.version = current.version

instance (s : Store) (tenantId carrierServiceId : Id) (current : FreightRateTable) :
    Decidable (NumberTaken s tenantId carrierServiceId current) := by
  unfold NumberTaken
  infer_instance

/-- Whether another table has the number is all that decides whether a table is
replaced. -/
theorem replaceRateTable_outcome {P : Platform} {s : Store} {input : Input}
    {dto : RateTableInputDto} {current : FreightRateTable}
    (hcurrent : current ∈ s.freightRateTables.rows) (h : Storable s current.tenantId dto)
    (status : FreightRateTableStatus)
    (hinput : Undisturbed s (.inr (.replaceRateTable current.tenantId current.id status dto))
      input) :
    (NumberTaken s current.tenantId dto.carrierServiceId current ∧
      (replaceRateTable P s input current.tenantId current.id status dto).1 =
        .error .uniqueViolation) ∨
    ¬NumberTaken s current.tenantId dto.carrierServiceId current ∧
      (replaceRateTable P s input current.tenantId current.id status dto).1 = .ok () := by
  obtain ⟨-, hnamed, hranges, hcharges, hlinks⟩ := hinput
  obtain ⟨ranges, hranges⟩ := Option.isSome_iff_exists.mp hranges
  obtain ⟨charges, hcharges⟩ := Option.isSome_iff_exists.mp hcharges
  obtain ⟨links, hlinks⟩ := Option.isSome_iff_exists.mp hlinks
  obtain ⟨⟨validFrom, validTo⟩, hvalidity⟩ := Option.ne_none_iff_exists'.mp h.dates
  have hstored : (s.freightRateTables.rows.any fun row => row.id == current.id) = true :=
    List.any_eq_true.mpr ⟨current, hcurrent, beq_self_eq_true _⟩
  have hselected : ∀ row ∈ s.freightRateTables.rows, (row.id == current.id) = true ↔
      row = current := by
    intro row hrow
    rw [beq_iff_eq]
    exact ⟨table_eq_of_id hrow hcurrent, fun hsame => congrArg FreightRateTable.id hsame⟩
  have hfree := s.freightRateTables.tryUpdate_isSome_iff (k := .id current.id)
    (f := replacedRow P status dto validFrom validTo) hcurrent (by simp [FreightRateTable.keys])
    hselected
  unfold replaceRateTable
  simp only [hvalidity, h.columns, hnamed, hstored, Bool.not_true, Bool.false_eq_true, if_false]
  cases htables : s.freightRateTables.tryUpdate (fun row => row.id == current.id)
      (replacedRow P status dto validFrom validTo) with
  | none =>
      left
      refine ⟨?_, rfl⟩
      by_contra hnone
      refine absurd (hfree.mpr ⟨by simp [FreightRateTable.keys], ?_⟩) (by simp [htables])
      intro key hkey row hrow hne hrowKey
      have hother : row.id ≠ current.id := fun hsame => hne (table_eq_of_id hrow hcurrent hsame)
      simp only [FreightRateTable.keys, replacedRow, List.mem_cons, List.not_mem_nil,
        or_false] at hkey hrowKey
      rcases hkey with rfl | rfl
      · exact hother (by simpa [eq_comm] using hrowKey)
      · simp only [RateTableKey.version.injEq, reduceCtorEq, false_or] at hrowKey
        exact hnone ⟨row, mem_tablesOf.mpr ⟨hrow, hrowKey.1.symm, hrowKey.2.1.symm⟩, hother,
          hrowKey.2.2.symm⟩
  | some tables =>
      right
      simp only [hranges, hcharges, hlinks]
      refine ⟨?_, trivial⟩
      rintro ⟨other, hother, hne, hversion⟩
      obtain ⟨hrow, htenant, hservice⟩ := mem_tablesOf.mp hother
      have hfresh := (hfree.mp ⟨tables, htables⟩).2
      exact hfresh (.version current.tenantId dto.carrierServiceId current.version)
        (by simp [FreightRateTable.keys, replacedRow]) other hrow
        (fun hsame => hne (congrArg FreightRateTable.id hsame))
        (by simp [FreightRateTable.keys, htenant, hservice, hversion])

theorem find?_rateTable {s : Store} {current : FreightRateTable}
    (hcurrent : current ∈ s.freightRateTables.rows) :
    (s.freightRateTables.rows.find? fun row =>
      row.id == current.id && row.tenantId == current.tenantId) = some current := by
  apply s.freightRateTables.find?_eq_some_of_key hcurrent (k := .id current.id)
  · simp [FreightRateTable.keys]
  · simp
  · intro row hrow
    simp only [Bool.and_eq_true, beq_iff_eq] at hrow
    simp [FreightRateTable.keys, hrow.1]

section Alone

variable {P : Platform} {s : Store}

theorem wp_undisturbed_read_bind {α : Type} {c : RateTableCommand} (hc : Reads c)
    {f : c.Result → Program rateTableInterface α} {Q : Except ServiceError α → Store → Prop}
    (hok : ∀ input a, (answer P c input s).1 = .ok a →
      (f a).wp (execute P) Undisturbed (fun _ _ _ => True) Q s) :
    (call c >>= f).wp (execute P) Undisturbed (fun _ _ _ => True) Q s := by
  apply Program.wp_perform_bind
  intro input hinput
  obtain ⟨a, ha⟩ := answer_reads P hc input s
  rw [execute_answer P c s (by simp [hinput.fault]), ha]
  refine ⟨trivial, ?_, fun e he => by cases he⟩
  intro b hb
  obtain rfl := Except.ok.inj hb
  exact hok input a (congrArg Prod.fst ha)

theorem wp_undisturbed_checkInput {tenantId : Id} {dto : RateTableInputDto}
    (h : Storable s tenantId dto) :
    (checkInput tenantId dto).wp (execute P) Undisturbed (fun _ _ _ => True)
      (fun r s' => r = .ok () ∧ s' = s) s := by
  obtain ⟨service, hservice, carrier, hcarrier, hid, htenant, hof, hactive⟩ := h.service
  have hfound : ((s.carrierServices.rows.find? fun row =>
      row.id == dto.carrierServiceId && row.tenantId == tenantId).bind (withCarrier s)) =
        some (service, carrier) := by
    have hfind : (s.carrierServices.rows.find? fun row =>
        row.id == dto.carrierServiceId && row.tenantId == tenantId) = some service := by
      apply s.carrierServices.find?_eq_some_of_key hservice List.mem_cons_self
      · simp [hid, htenant]
      · intro row hrow
        simp only [Bool.and_eq_true, beq_iff_eq] at hrow
        rw [List.mem_singleton, hid, hrow.1]
    have hwith : (s.carriers.rows.find? fun row => row.id == service.carrierId) =
        some carrier := by
      apply s.carriers.find?_eq_some hcarrier List.mem_cons_self
      intro row
      rw [beq_iff_eq, List.mem_singleton, hof]
      exact eq_comm
    rw [hfind, Option.bind_some, withCarrier, hwith]
    rfl
  unfold checkInput
  rw [h.checked.ranges]
  apply Program.wp_throwIf_bind
  · intro hdates
    exact absurd hdates (by simp [h.checked.dates])
  · intro _
    apply wp_undisturbed_read_bind (by trivial)
    intro _ found hanswer
    obtain rfl := Except.ok.inj hanswer
    apply Program.wp_throwIf_bind
    · intro hinactive
      simp [hfound, hactive] at hinactive
    · intro _
      apply wp_undisturbed_read_bind (by trivial)
      intro _ coverages hanswer
      obtain rfl := Except.ok.inj hanswer
      unfold Program.throwIf
      split
      · next hother => exact absurd h.checked.coverages hother
      · exact ⟨rfl, rfl⟩

theorem wp_undisturbed_rest {s' : Store} {audit : AuditRecordInput} {tenantId id : Id} :
    (quoting (.recordAudit audit) >>= fun _ => getRateTable tenantId id).wp (execute P)
      Undisturbed (fun _ _ _ => True)
      (fun r s'' => r ≠ .error .uniqueViolation ∧
        s''.freightRateTables = s'.freightRateTables) s' := by
  apply Program.wp_perform_bind
  intro input hinput
  have htables := (untouched_quoting P (.recordAudit audit) input s').tables
  refine ⟨trivial, fun _ _ => ?_, fun e he => ?_⟩
  · unfold getRateTable
    apply wp_undisturbed_read_bind (by trivial)
    intro _ found _
    cases found with
    | none => exact ⟨by simp [tableNotFound], htables⟩
    | some record =>
        apply wp_undisturbed_read_bind (by trivial)
        intro _ used _
        exact ⟨by simp, htables⟩
  · simp only [execute, Backend.extend, Quoting.execute, hinput.fault] at he
    cases he

/-- Storing a table fails exactly if a table of the service has its number. -/
theorem wp_undisturbed_storeRateTable {α : Type} {tenantId : Id} {dto : RateTableInputDto}
    (h : Storable s tenantId dto) (version : ℕ) (previousVersionId : Option Id)
    {f : FreightRateTable → Program rateTableInterface α}
    (hrest : ∀ table s', (f table).wp (execute P) Undisturbed (fun _ _ _ => True)
      (fun r s'' => r ≠ .error .uniqueViolation ∧
        s''.freightRateTables = s'.freightRateTables) s') :
    (call (.storeRateTable tenantId version previousVersionId dto) >>= f).wp (execute P)
      Undisturbed (fun _ _ _ => True)
      (StoreOutcome s tenantId dto.carrierServiceId version) s := by
  apply Program.wp_perform_bind
  intro input hinput
  rw [execute_answer P _ s (by simp [hinput.fault]), answer]
  rcases storeRateTable_outcome h version previousVersionId hinput with
    ⟨htaken, hr, hs⟩ | ⟨hfree, hr, table, hrows, howner⟩
  · refine ⟨trivial, fun table htable => ?_, fun error herror => ?_⟩
    · rw [hr] at htable
      cases htable
    · rw [hr] at herror
      cases herror
      exact .inl ⟨htaken, rfl, hs⟩
  · refine ⟨trivial, fun created _ => ?_, fun error herror => ?_⟩
    · apply Program.wp_mono (hrest created _)
      rintro r s'' ⟨hr, htables⟩
      exact .inr ⟨hfree, hr, table, by rw [htables, hrows], howner⟩
    · obtain hother : error ≠ .uniqueViolation := fun hsame => hr (hsame ▸ herror)
      exact .inr ⟨hfree, fun hsame => hother (Except.error.inj hsame), table, hrows, howner⟩

theorem wp_undisturbed_nextVersion (tenantId carrierServiceId : Id)
    (previousVersionId : Option Id) :
    (nextVersion tenantId carrierServiceId previousVersionId).wp (execute P) Undisturbed
      (fun _ _ _ => True)
      (fun r s' => r = .ok (versionAfter s tenantId carrierServiceId previousVersionId) ∧ s' = s)
      s := by
  cases previousVersionId with
  | none => exact ⟨rfl, rfl⟩
  | some id =>
      apply wp_undisturbed_read_bind (by trivial)
      intro _ version hanswer
      obtain rfl := Except.ok.inj hanswer
      exact ⟨rfl, rfl⟩

theorem wp_undisturbed_createRateTable {tenantId : Id} {dto : RateTableInputDto}
    (h : Storable s tenantId dto) (actorId : Id) (previousVersionId : Option Id) :
    (createRateTable tenantId actorId dto previousVersionId).wp (execute P) Undisturbed
      (fun _ _ _ => True)
      (StoreOutcome s tenantId dto.carrierServiceId
        (versionAfter s tenantId dto.carrierServiceId previousVersionId)) s := by
  unfold createRateTable
  apply Program.wp_bind (wp_undisturbed_checkInput h)
  · rintro _ _ ⟨-, rfl⟩
    apply Program.wp_bind (wp_undisturbed_nextVersion tenantId _ previousVersionId)
    · rintro version _ ⟨hversion, rfl⟩
      obtain rfl := Except.ok.inj hversion
      apply wp_undisturbed_storeRateTable h
      intro table s'
      exact wp_undisturbed_rest
    · rintro _ _ ⟨hr, -⟩
      cases hr
  · rintro _ _ ⟨hr, -⟩
    cases hr

theorem createRateTableVersion_outcome {current : FreightRateTable}
    (hcurrent : current ∈ s.freightRateTables.rows) {ω : ℕ → Input}
    (h : Storable s current.tenantId (versionInput (loadedRateTable s (ω 0).tie current)))
    {actorId : Id}
    (hω : (createRateTableVersion current.tenantId actorId current.id).Along (execute P)
      Undisturbed ω s) :
    StoreOutcome s current.tenantId current.carrierServiceId
      (versionAfter s current.tenantId current.carrierServiceId (some current.id))
      ((createRateTableVersion current.tenantId actorId current.id).run (execute P) ω s).1
      ((createRateTableVersion current.tenantId actorId current.id).run (execute P) ω s).2 := by
  have hload : execute P (.inr (.loadTable current.id current.tenantId)) (ω 0) s =
      (.ok (some (loadedRateTable s (ω 0).tie current)), s) := by
    have hfault : (ω 0).fault = false := hω.1
    rw [execute_answer P _ s (by simp [hfault]), answer, find?_rateTable hcurrent]
    rfl
  have hrun : (createRateTableVersion current.tenantId actorId current.id).run (execute P) ω s =
      (createRateTable current.tenantId actorId
        (versionInput (loadedRateTable s (ω 0).tie current)) (some current.id)).run (execute P)
          (fun n => ω (n + 1)) s := by
    unfold createRateTableVersion
    exact Program.run_perform_bind_ok (I := rateTableInterface)
      (c := .inr (.loadTable current.id current.tenantId)) hload
  have hrest := ((Program.along_perform_bind_ok (I := rateTableInterface)
    (c := .inr (.loadTable current.id current.tenantId)) hload).mp hω).2
  rw [hrun]
  exact Program.wp_run (wp_undisturbed_createRateTable h actorId (some current.id)) hrest

theorem wp_undisturbed_updateRateTable {current : FreightRateTable} {dto : RateTableInputDto}
    (hcurrent : current ∈ s.freightRateTables.rows) (h : Storable s current.tenantId dto)
    (hunused : ∀ option ∈ s.freightSimulationOptions.rows, option.rateTableId ≠ current.id)
    (actorId : Id) :
    (updateRateTable current.tenantId actorId current.id dto).wp (execute P) Undisturbed
      (fun _ _ _ => True)
      (fun r _ => r = .error .uniqueViolation ↔
        NumberTaken s current.tenantId dto.carrierServiceId current) s := by
  unfold updateRateTable
  apply wp_undisturbed_read_bind (by trivial)
  intro _ found hanswer
  obtain rfl := Except.ok.inj hanswer
  rw [find?_rateTable hcurrent]
  apply wp_undisturbed_read_bind (by trivial)
  intro _ used hanswer
  obtain rfl := Except.ok.inj hanswer
  apply Program.wp_throwIf_bind
  · intro hused
    obtain ⟨option, hoption, hof⟩ := List.countP_pos_iff.mp hused
    simp only [Bool.and_eq_true, beq_iff_eq] at hof
    exact absurd hof.2 (hunused option hoption)
  · intro _
    apply Program.wp_bind (wp_undisturbed_checkInput h)
    · rintro _ _ ⟨-, rfl⟩
      apply Program.wp_perform_bind
      intro input hinput
      rw [execute_answer P _ _ (by simp [hinput.fault]), answer]
      rcases replaceRateTable_outcome (P := P) hcurrent h _ hinput with ⟨htaken, hr⟩ | ⟨hfree, hr⟩
      · refine ⟨trivial, fun _ hok => ?_, fun error herror => ?_⟩
        · rw [hr] at hok
          cases hok
        · rw [hr] at herror
          cases herror
          exact iff_of_true rfl htaken
      · refine ⟨trivial, fun _ _ => ?_, fun error herror => ?_⟩
        · apply Program.wp_mono wp_undisturbed_rest
          rintro r s'' ⟨hr, -⟩
          exact iff_of_false hr hfree
        · rw [hr] at herror
          cases herror
    · rintro _ _ ⟨hr, -⟩
      cases hr

end Alone

theorem StoreOutcome.storedAbove_iff {α : Type} {s s' : Store} {tenantId carrierServiceId : Id}
    {version : ℕ} {r : Except ServiceError α}
    (h : StoreOutcome s tenantId carrierServiceId version r s') :
    StoredAbove s s' tenantId carrierServiceId ↔
      ∀ old ∈ tablesOf s tenantId carrierServiceId, old.version < version := by
  rcases h with ⟨⟨old, hold, hversion⟩, -, hsame⟩ |
    ⟨-, -, table, hrows, htenant, hservice, hversion⟩
  · constructor
    · rintro ⟨table, hrows, -⟩
      rw [hsame] at hrows
      simp at hrows
    · intro habove
      exact absurd hversion (habove old hold).ne
  · constructor
    · rintro ⟨other, hrows', -, -, habove⟩
      rw [hrows, List.append_cancel_left_eq] at hrows'
      obtain rfl := List.singleton_inj.mp hrows'
      exact hversion ▸ habove
    · intro habove
      exact ⟨table, hrows, htenant, hservice, hversion ▸ habove⟩

theorem StoreOutcome.uniqueViolation_iff {α : Type} {s s' : Store}
    {tenantId carrierServiceId : Id} {version : ℕ} {r : Except ServiceError α}
    (h : StoreOutcome s tenantId carrierServiceId version r s') :
    r = .error .uniqueViolation ↔
      ∃ old ∈ tablesOf s tenantId carrierServiceId, old.version = version := by
  rcases h with ⟨htaken, hr, -⟩ | ⟨hfree, hr, -⟩
  · exact iff_of_true hr htaken
  · apply iff_of_false hr
    rintro ⟨old, hold, hversion⟩
    exact hfree old hold hversion

/-- In every reachable state, for requests against which nothing else stands: a new
table gets a number above those of its service exactly if the service has no
table, and is refused for its key exactly if it has one with number one; a new
version always gets a number above the others; and replacing a table is refused
for its key exactly if another table of the service has its number. -/
theorem rate_table_versions_are_fresh_iff (P : Platform) (s : Store) (hs : Numbered s)
    (calls : List (Request × (ℕ → Input))) (s' : Store)
    (hs' : s' = (rateTableSystem P).runCalls calls s) :
    (∀ tenantId actorId dto ω, Storable s' tenantId dto →
      (createRateTable tenantId actorId dto none).Along (execute P) Undisturbed ω s' →
      (StoredAbove s' ((createRateTable tenantId actorId dto none).run (execute P) ω s').2
          tenantId dto.carrierServiceId ↔
        tablesOf s' tenantId dto.carrierServiceId = []) ∧
      (((createRateTable tenantId actorId dto none).run (execute P) ω s').1 =
          .error .uniqueViolation ↔
        ∃ old ∈ tablesOf s' tenantId dto.carrierServiceId, old.version = 1)) ∧
    ∀ current ∈ s'.freightRateTables.rows,
      (∀ actorId ω,
        Storable s' current.tenantId (versionInput (loadedRateTable s' (ω 0).tie current)) →
        (createRateTableVersion current.tenantId actorId current.id).Along (execute P)
          Undisturbed ω s' →
        StoredAbove s' ((createRateTableVersion current.tenantId actorId current.id).run
          (execute P) ω s').2 current.tenantId current.carrierServiceId ∧
        ((createRateTableVersion current.tenantId actorId current.id).run (execute P) ω s').1 ≠
          .error .uniqueViolation) ∧
      ∀ actorId dto ω, Storable s' current.tenantId dto →
        (∀ option ∈ s'.freightSimulationOptions.rows, option.rateTableId ≠ current.id) →
        (updateRateTable current.tenantId actorId current.id dto).Along (execute P)
          Undisturbed ω s' →
        (((updateRateTable current.tenantId actorId current.id dto).run (execute P) ω s').1 =
            .error .uniqueViolation ↔
          NumberTaken s' current.tenantId dto.carrierServiceId current) := by
  have hnumbered : Numbered s' := hs' ▸ runCalls_keep P
    (fun s c input hs hsound _ => numbered_execute P s c input hs hsound) calls hs
    ((rateTableSystem P).alongCalls_true calls s)
  refine ⟨fun tenantId actorId dto ω hstorable hω => ?_, fun current hcurrent => ⟨?_, ?_⟩⟩
  · have houtcome := Program.wp_run (wp_undisturbed_createRateTable hstorable actorId none) hω
    refine ⟨?_, houtcome.uniqueViolation_iff⟩
    rw [houtcome.storedAbove_iff, versionAfter, List.eq_nil_iff_forall_not_mem]
    apply forall_congr'
    intro old
    constructor
    · intro habove hold
      have hpositive := hnumbered old (mem_tablesOf.mp hold).1
      exact absurd (habove hold) (not_lt.mpr hpositive)
    · exact fun hnone hold => absurd hold hnone
  · intro actorId ω hstorable hω
    have houtcome := createRateTableVersion_outcome hcurrent hstorable hω
    have habove : ∀ old ∈ tablesOf s' current.tenantId current.carrierServiceId,
        old.version < versionAfter s' current.tenantId current.carrierServiceId
          (some current.id) := fun old hold => lt_versionAfter_some hold current.id
    refine ⟨houtcome.storedAbove_iff.mpr habove, ?_⟩
    rw [Ne, houtcome.uniqueViolation_iff]
    rintro ⟨old, hold, hversion⟩
    exact (habove old hold).ne hversion
  · intro actorId dto ω hstorable hunused hω
    exact Program.wp_run (wp_undisturbed_updateRateTable hcurrent hstorable hunused actorId) hω

theorem numbered_twoServices : Numbered twoServices := by
  simp [Numbered, twoServices, Table.empty]

/-- One service has a table, the other none. -/
def oneTable : Store :=
  (rateTableSystem plainPlatform).runCalls
    [(.createRateTable "tenant" "ana" (plainTable "service" none ["coverage"] [plainRange 0 10]),
      plainInputs "a")] twoServices

def firstTable : FreightRateTable :=
  rateTableRow plainPlatform "a0" "tenant" 1 none
    (plainTable "service" none ["coverage"] [plainRange 0 10]) 0 none

theorem storable_plainTable {s : Store} {dto : RateTableInputDto}
    (hchecked : Checked s "tenant" dto)
    (hservice : ∃ service ∈ s.carrierServices.rows, ∃ carrier ∈ s.carriers.rows,
      service.id = dto.carrierServiceId ∧ service.tenantId = "tenant" ∧
        carrier.id = service.carrierId ∧ carrier.active = true)
    (hrest : (validity dto).isSome ∧ fitsColumns dto = true) : Storable s "tenant" dto :=
  ⟨hchecked, hservice, Option.isSome_iff_ne_none.mp hrest.1, hrest.2⟩

theorem rate_table_versions_are_fresh_iff_oneTable :
    StoredAbove oneTable ((createRateTable "tenant" "ana"
        (plainTable "economy" none [] [plainRange 0 10]) none).run (execute plainPlatform)
          (plainInputs "b") oneTable).2 "tenant" "economy" ∧
      StoredAbove oneTable ((createRateTableVersion "tenant" "ana" "a0").run
        (execute plainPlatform) (plainInputs "b") oneTable).2 "tenant" "service" ∧
      ((updateRateTable "tenant" "ana" "a0" (plainTable "service" none [] [])).run
        (execute plainPlatform) (plainInputs "b") oneTable).1 ≠ .error .uniqueViolation := by
  obtain ⟨hcreate, hothers⟩ := rate_table_versions_are_fresh_iff plainPlatform twoServices
    numbered_twoServices _ oneTable rfl
  obtain ⟨hversion, hupdate⟩ := hothers firstTable (by decide +kernel)
  refine ⟨(hcreate "tenant" "ana" _ (plainInputs "b") ?_ (by decide +kernel)).1.mpr ?_,
    (hversion "ana" (plainInputs "b") ?_ (by decide +kernel)).1,
    fun hrefused => absurd ((hupdate "ana" _ (plainInputs "b") ?_ ?_ ?_).mp hrefused) ?_⟩
  · exact storable_plainTable ⟨by decide +kernel, by decide +kernel, by decide +kernel⟩
      (by decide +kernel) (by decide +kernel)
  · decide +kernel
  · exact storable_plainTable ⟨by decide +kernel, by decide +kernel, by decide +kernel⟩
      (by decide +kernel) (by decide +kernel)
  · exact storable_plainTable ⟨by decide +kernel, by decide +kernel, by decide +kernel⟩
      (by decide +kernel) (by decide +kernel)
  · decide +kernel
  · decide +kernel
  · decide +kernel

/-- A second table of the service is refused for its key. -/
theorem a_second_table_is_refused :
    Numbered twoServices ∧
      Storable oneTable "tenant" (plainTable "service" none [] [plainRange 0 10]) ∧
      (createRateTable "tenant" "ana" (plainTable "service" none [] [plainRange 0 10]) none).Along
        (execute plainPlatform) Undisturbed (plainInputs "b") oneTable ∧
      ((createRateTable "tenant" "ana" (plainTable "service" none [] [plainRange 0 10]) none).run
        (execute plainPlatform) (plainInputs "b") oneTable).1.map (fun _ => ()) =
          .error .uniqueViolation := by
  refine ⟨numbered_twoServices, ?_, by decide +kernel, by decide +kernel⟩
  exact storable_plainTable ⟨by decide +kernel, by decide +kernel, by decide +kernel⟩
    (by decide +kernel) (by decide +kernel)

end Logistics.RateTables
