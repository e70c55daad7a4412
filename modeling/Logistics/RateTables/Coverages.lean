import Mathlib.Data.List.Perm.Subperm
import Logistics.RateTables.Activation

/-!
# Coverages of a rate table

A table is only given coverages of its own service and tenant, and replacing a
table gives it coverages anew. Only `updateCoverage` takes a coverage to another
service without looking at the tables that are linked to it. As long as it moves
no linked coverage, links stay inside a service, and a new version of a table is
never refused for its coverages.
-/

namespace Logistics.RateTables

open Logistics.Library Logistics.Quoting

/-- The link is between a table and a coverage of one tenant and one service. -/
def LinkInside (s : Store) (link : FreightRateTableCoverage) : Prop :=
  ∃ table ∈ s.freightRateTables.rows, ∃ coverage ∈ s.carrierCoverages.rows,
    table.id = link.rateTableId ∧ coverage.id = link.coverageId ∧
      table.tenantId = link.tenantId ∧ coverage.tenantId = link.tenantId ∧
      coverage.carrierServiceId = table.carrierServiceId

def LinksInside (s : Store) : Prop :=
  ∀ link ∈ s.freightRateTableCoverages.rows, LinkInside s link

instance (s : Store) : Decidable (LinksInside s) := by
  unfold LinksInside LinkInside
  infer_instance

/-- A coverage that is taken to another service is linked to no table. -/
def LinkedStay (s : Store) : rateTableInterface.Command → Prop
  | .inr (.updateCoverage id dto) => ∀ row ∈ s.carrierCoverages.rows, row.id = id →
      row.carrierServiceId ≠ dto.carrierServiceId →
      ∀ link ∈ s.freightRateTableCoverages.rows, link.coverageId ≠ id
  | _ => True

instance (s : Store) (c : rateTableInterface.Command) : Decidable (LinkedStay s c) := by
  refine decideExtended (fun _ => isTrue trivial) (fun c => ?_) c
  apply @RateTableCommand.casesOn (fun c => Decidable (LinkedStay s (.inr c))) c <;>
    intros <;> dsimp only [LinkedStay] <;> infer_instance

theorem coverage_eq_of_id {s : Store} {a b : CarrierCoverage} (ha : a ∈ s.carrierCoverages.rows)
    (hb : b ∈ s.carrierCoverages.rows) (hid : a.id = b.id) : a = b :=
  s.carrierCoverages.eq_of_key ha hb List.mem_cons_self (by simp [hid])

/-! ## The check of the coverages -/

theorem mem_coveragesAmong {s : Store} {tenantId carrierServiceId : Id} {ids : List Id}
    {row : CarrierCoverage} :
    row ∈ coveragesAmong s tenantId ids carrierServiceId ↔
      row ∈ s.carrierCoverages.rows ∧ row.tenantId = tenantId ∧ row.id ∈ ids ∧
        row.carrierServiceId = carrierServiceId := by
  simp [coveragesAmong, and_assoc]

theorem nodup_coveragesAmong (s : Store) (tenantId carrierServiceId : Id) (ids : List Id) :
    ((coveragesAmong s tenantId ids carrierServiceId).map CarrierCoverage.id).Nodup := by
  have hdistinct : (s.carrierCoverages.rows.map CarrierCoverage.id).Nodup := by
    rw [List.map_eq_flatMap]
    exact s.carrierCoverages.distinct
  exact (List.filter_sublist.map CarrierCoverage.id).nodup hdistinct

/-- As many coverages were found as were listed, so each listed one was found. -/
theorem Checked.covered {s : Store} {tenantId : Id} {dto : RateTableInputDto}
    (h : Checked s tenantId dto) {coverageId : Id} (hid : coverageId ∈ dto.coverageIds.getD []) :
    ∃ coverage ∈ s.carrierCoverages.rows, coverage.id = coverageId ∧
      coverage.tenantId = tenantId ∧ coverage.carrierServiceId = dto.carrierServiceId := by
  have hsub : (coveragesAmong s tenantId (dto.coverageIds.getD []) dto.carrierServiceId).map
      CarrierCoverage.id ⊆ dto.coverageIds.getD [] := by
    intro id hmem
    obtain ⟨row, hrow, rfl⟩ := List.mem_map.mp hmem
    exact (mem_coveragesAmong.mp hrow).2.2.1
  have hperm := ((nodup_coveragesAmong s tenantId dto.carrierServiceId _).subperm hsub
    ).perm_of_length_le (by rw [List.length_map, h.coverages])
  obtain ⟨row, hrow, rfl⟩ := List.mem_map.mp (hperm.mem_iff.mpr hid)
  obtain ⟨hstored, htenant, -, hservice⟩ := mem_coveragesAmong.mp hrow
  exact ⟨row, hstored, rfl, htenant, hservice⟩

theorem mem_linkRows {input : Input} {tenantId rateTableId : Id} {dto : RateTableInputDto}
    {link : FreightRateTableCoverage} (h : link ∈ linkRows input tenantId rateTableId dto) :
    link.tenantId = tenantId ∧ link.rateTableId = rateTableId ∧
      link.coverageId ∈ dto.coverageIds.getD [] := by
  obtain ⟨n, hn, rfl⟩ := List.mem_mapIdx.mp h
  exact ⟨rfl, rfl, List.getElem_mem hn⟩

/-! ## What the calls keep -/

theorem linksInside_execute (P : Platform) (s : Store) (c : rateTableInterface.Command)
    (input : Input) (hs : LinksInside s) (hsound : Sound s c) (hstay : LinkedStay s c) :
    LinksInside (execute P c input s).2 := by
  intro link hlink
  obtain hsame | ⟨tenantId, _, _, dto, _, _, rfl, -, hstored⟩ |
    ⟨tenantId, id, status, dto, _, _, rfl, -, hreplaced⟩ | ⟨id, status, rfl, hset⟩ |
    ⟨_, _, rfl, hset⟩ | ⟨id, dto, rfl, hset⟩ := execute_cases P c input s
  · unfold LinkInside
    rw [hsame.links] at hlink
    rw [hsame.tables, hsame.coverages]
    exact hs link hlink
  · unfold LinkInside
    rw [hstored.links] at hlink
    rw [hstored.tables, hstored.coverages]
    rcases List.mem_append.mp hlink with hlink | hlink
    · obtain ⟨table, htable, hrest⟩ := hs link hlink
      exact ⟨table, List.mem_append_left _ htable, hrest⟩
    · obtain ⟨htenant, htable, hcoverage⟩ := mem_linkRows hlink
      obtain ⟨coverage, hmem, hid, hof, hservice⟩ := hsound.1.covered hcoverage
      exact ⟨_, List.mem_append_right _ List.mem_cons_self, coverage, hmem, htable.symm, hid,
        htenant.symm, hof.trans htenant.symm, hservice⟩
  · obtain ⟨hchecked, current, hcurrent, hcurrentId, hcurrentTenant, -⟩ := hsound
    unfold LinkInside
    rw [hreplaced.links] at hlink
    rw [hreplaced.tables, hreplaced.coverages]
    rcases List.mem_append.mp hlink with hlink | hlink
    · -- a link that stays is of another table
      obtain ⟨hlink, hkept⟩ := List.mem_filter.mp hlink
      obtain ⟨table, htable, coverage, hcoverage, hid, hrest⟩ := hs link hlink
      have hother : table.id ≠ id := by
        intro hsameId
        obtain rfl := table_eq_of_id htable hcurrent (hsameId.trans hcurrentId.symm)
        obtain ⟨-, htenant, -⟩ := hrest
        simp [← hid, hsameId, ← htenant, hcurrentTenant] at hkept
      refine ⟨table, List.mem_map.mpr ⟨table, htable, if_neg hother⟩, coverage, hcoverage, hid,
        hrest⟩
    · obtain ⟨htenant, htable, hcoverage⟩ := mem_linkRows hlink
      obtain ⟨coverage, hmem, hid, hof, hservice⟩ := hchecked.covered hcoverage
      refine ⟨_, List.mem_map.mpr ⟨current, hcurrent, if_pos hcurrentId⟩, coverage, hmem,
        hcurrentId.trans htable.symm, hid, hcurrentTenant.trans htenant.symm,
        hof.trans htenant.symm, hservice⟩
  · unfold LinkInside
    rw [hset.links] at hlink
    rw [hset.tables, hset.coverages]
    obtain ⟨table, htable, coverage, hcoverage, hid, hrest⟩ := hs link hlink
    by_cases htableId : table.id = id
    · exact ⟨_, List.mem_map.mpr ⟨table, htable, if_pos htableId⟩, coverage, hcoverage, hid, hrest⟩
    · exact ⟨_, List.mem_map.mpr ⟨table, htable, if_neg htableId⟩, coverage, hcoverage, hid, hrest⟩
  · unfold LinkInside
    rw [hset.links] at hlink
    rw [hset.tables, hset.coverages]
    obtain ⟨table, htable, coverage, hcoverage, hrest⟩ := hs link hlink
    exact ⟨table, htable, coverage, List.mem_append_left _ hcoverage, hrest⟩
  · unfold LinkInside
    rw [hset.links] at hlink
    rw [hset.tables, hset.coverages]
    obtain ⟨table, htable, coverage, hcoverage, hid, hcoverageId, htenant, hof, hservice⟩ :=
      hs link hlink
    by_cases hmoved : coverage.id = id
    · refine ⟨table, htable, _, List.mem_map.mpr ⟨coverage, hcoverage, if_pos hmoved⟩, hid,
        hcoverageId, htenant, hof, ?_⟩
      by_contra hservice'
      refine hstay coverage hcoverage hmoved (fun heq => hservice' ?_) link hlink
        (hcoverageId.symm.trans hmoved)
      exact heq.symm.trans hservice
    · exact ⟨table, htable, _, List.mem_map.mpr ⟨coverage, hcoverage, if_neg hmoved⟩, hid,
        hcoverageId, htenant, hof, hservice⟩

/-! ## New versions are not refused -/

theorem error_of_execute {P : Platform} {c : RateTableCommand} {input : Input} {s : Store}
    {error : ServiceError} (h : (execute P (.inr c) input s).1 = .error error) :
    error ≠ foreignCoverage := by
  rintro rfl
  by_cases hf : input.fault = true
  · rw [execute_fault P c s hf] at h
    cases h
  · rw [execute_answer P c s hf] at h
    cases c with
    | storeRateTable tenantId version previousVersionId dto =>
        rw [answer, storeRateTable] at h
        dsimp only at h
        split at h
        · cases h
        · split at h
          · cases h
          · split at h <;> cases h
    | replaceRateTable tenantId id status dto =>
        rw [answer, replaceRateTable] at h
        split at h
        · cases h
        · split at h
          · cases h
          · split at h
            · cases h
            · split at h
              · cases h
              · split at h <;> cases h
    | setStatus id status =>
        rw [answer, setStatus] at h
        split at h <;> cases h
    | storeCoverage tenantId dto =>
        rw [answer, storeCoverage] at h
        split at h <;> cases h
    | updateCoverage id dto =>
        rw [answer, updateCoverageRow] at h
        split at h <;> cases h
    | _ => cases h

theorem LinksInside.tenantId {s : Store} (hs : LinksInside s) {table : FreightRateTable}
    (htable : table ∈ s.freightRateTables.rows) {link : FreightRateTableCoverage}
    (hlink : link ∈ linksOf s table.id) : link.tenantId = table.tenantId := by
  obtain ⟨hlink, hof⟩ := List.mem_filter.mp hlink
  obtain ⟨other, hother, _, -, hid, -, htenant, -⟩ := hs link hlink
  obtain rfl := table_eq_of_id hother htable (hid.trans (by simpa using hof))
  exact htenant.symm

theorem LinksInside.nodup_coverageIds {s : Store} (hs : LinksInside s) {table : FreightRateTable}
    (htable : table ∈ s.freightRateTables.rows) :
    ((linksOf s table.id).map FreightRateTableCoverage.coverageId).Nodup := by
  rw [List.Nodup, List.pairwise_map]
  have hdisjoint : (linksOf s table.id).Pairwise (Function.onFun List.Disjoint
      FreightRateTableCoverage.keys) :=
    (List.nodup_flatMap.mp s.freightRateTableCoverages.distinct).2.filter _
  refine hdisjoint.imp_of_mem fun {a b} ha hb hab hsame => ?_
  have hkey : RateTableCoverageKey.link a.tenantId a.rateTableId a.coverageId ∈ b.keys := by
    have hof : ∀ link ∈ linksOf s table.id, link.rateTableId = table.id := by
      intro link hlink
      simpa using (List.mem_filter.mp hlink).2
    rw [hs.tenantId htable ha, hof a ha, hsame]
    simp [FreightRateTableCoverage.keys, hs.tenantId htable hb, hof b hb]
  exact hab (by simp [FreightRateTableCoverage.keys]) hkey

theorem LinksInside.length_coveragesAmong {s : Store} (hs : LinksInside s)
    {table : FreightRateTable} (htable : table ∈ s.freightRateTables.rows) (tie : Id → ℕ) :
    (coveragesAmong s table.tenantId
        ((versionInput (loadedRateTable s tie table)).coverageIds.getD [])
        table.carrierServiceId).length =
      ((versionInput (loadedRateTable s tie table)).coverageIds.getD []).length := by
  have hperm : ((versionInput (loadedRateTable s tie table)).coverageIds.getD []).Perm
      ((linksOf s table.id).map FreightRateTableCoverage.coverageId) :=
    (List.perm_insertionSort _ _).map _
  have hnodup := hperm.nodup_iff.mpr (hs.nodup_coverageIds htable)
  have hmem : ∀ id, id ∈ (coveragesAmong s table.tenantId
        ((versionInput (loadedRateTable s tie table)).coverageIds.getD [])
        table.carrierServiceId).map CarrierCoverage.id ↔
      id ∈ (versionInput (loadedRateTable s tie table)).coverageIds.getD [] := by
    intro id
    constructor
    · intro hid
      obtain ⟨row, hrow, rfl⟩ := List.mem_map.mp hid
      exact (mem_coveragesAmong.mp hrow).2.2.1
    · intro hid
      obtain ⟨link, hlink, rfl⟩ := List.mem_map.mp (hperm.mem_iff.mp hid)
      have htenant := hs.tenantId htable hlink
      obtain ⟨hstored, hof⟩ := List.mem_filter.mp hlink
      obtain ⟨other, hother, coverage, hcoverage, htableId, hcoverageId, -, hcoverageTenant,
        hservice⟩ := hs link hstored
      obtain rfl := table_eq_of_id hother htable (htableId.trans (by simpa using hof))
      exact List.mem_map.mpr ⟨coverage, mem_coveragesAmong.mpr ⟨hcoverage,
        hcoverageTenant.trans htenant, hcoverageId ▸ hid, hservice⟩, hcoverageId⟩
  have hsame := (List.perm_ext_iff_of_nodup (nodup_coveragesAmong s table.tenantId
    table.carrierServiceId _) hnodup).mpr hmem
  rw [← hsame.length_eq, List.length_map]

section Accepted

variable {P : Platform} {s : Store}

/-- A program that is not refused for the coverages of its request. -/
def Accepted {α : Type} (r : Except ServiceError α) (_ : Store) : Prop :=
  r ≠ .error foreignCoverage

theorem accepted_tableNotFound {α : Type} (s : Store) :
    Accepted (.error tableNotFound : Except ServiceError α) s := by
  simp [Accepted, tableNotFound, foreignCoverage]

theorem wp_accepted_getRateTable (tenantId id : Id) (s : Store) :
    (getRateTable tenantId id).wp (execute P) (fun _ _ _ => True) (fun _ _ _ => True) Accepted
      s := by
  unfold getRateTable
  apply wp_read_bind (by trivial) (fun _ => trivial)
  · intro _ found _
    cases found with
    | none => exact accepted_tableNotFound s
    | some record =>
        apply wp_read_bind (by trivial) (fun _ => trivial)
        · intro _ _ _
          simp [Accepted, Program.wp]
        · simp [Accepted, foreignCoverage]
  · simp [Accepted, foreignCoverage]

theorem wp_accepted_checkInput {tenantId : Id} {input : RateTableInputDto}
    (hcount : (coveragesAmong s tenantId (input.coverageIds.getD []) input.carrierServiceId).length
      = (input.coverageIds.getD []).length) :
    (checkInput tenantId input).wp (execute P) (fun _ _ _ => True) (fun _ _ _ => True)
      Accepted s := by
  unfold checkInput
  apply Program.wp_ofExcept_bind
  · intro _ _
    apply Program.wp_throwIf_bind
    · simp [Accepted, foreignCoverage]
    · intro _
      apply wp_read_bind (by trivial) (fun _ => trivial)
      · intro _ service _
        apply Program.wp_throwIf_bind
        · simp [Accepted, foreignCoverage]
        · intro _
          apply wp_read_bind (by trivial) (fun _ => trivial)
          · intro _ coverages hcoverages
            obtain rfl := Except.ok.inj hcoverages
            unfold Program.throwIf
            split
            · next hother => exact absurd hcount hother
            · simp [Accepted, Program.wp]
          · simp [Accepted, foreignCoverage]
      · simp [Accepted, foreignCoverage]
  · intro error herror
    unfold validateRanges at herror
    dsimp only at herror
    split at herror
    · cases herror
      simp [Accepted, invalidRange, foreignCoverage]
    · split at herror
      · cases herror
        simp [Accepted, overlappingRanges, foreignCoverage]
      · cases herror

theorem wp_accepted_nextVersion (tenantId carrierServiceId : Id)
    (previousVersionId : Option Id) (s : Store) :
    (nextVersion tenantId carrierServiceId previousVersionId).wp (execute P)
      (fun _ _ _ => True) (fun _ _ _ => True) Accepted s := by
  cases previousVersionId with
  | none => simp [nextVersion, Accepted, Program.wp]
  | some id =>
      apply wp_read_bind (by trivial) (fun _ => trivial)
      · intro _ _ _
        simp [Accepted, Program.wp]
      · simp [Accepted, foreignCoverage]

theorem wp_accepted_createRateTableVersion (hs : LinksInside s) (tenantId actorId id : Id) :
    (createRateTableVersion tenantId actorId id).wp (execute P) (fun _ _ _ => True)
      (fun _ _ _ => True) Accepted s := by
  unfold createRateTableVersion
  apply wp_read_bind (by trivial) (fun _ => trivial)
  · intro input found hfound
    obtain rfl := Except.ok.inj hfound
    cases hcurrent : s.freightRateTables.rows.find? fun row =>
        row.id == id && row.tenantId == tenantId with
    | none => exact accepted_tableNotFound s
    | some current =>
        have howner := List.find?_some hcurrent
        simp only [Bool.and_eq_true, beq_iff_eq] at howner
        obtain ⟨-, rfl⟩ := howner
        have hcount := hs.length_coveragesAmong (List.mem_of_find?_eq_some hcurrent) input.tie
        apply Program.wp_bind (wp_accepted_checkInput hcount)
        · intro _ s' _
          apply Program.wp_bind (wp_accepted_nextVersion _ _ _ s')
          · intro version s' _
            apply Program.wp_perform_bind
            intro _ _
            refine ⟨trivial, fun table _ => ?_, fun error herror => ?_⟩
            · apply Program.wp_perform_bind
              intro _ _
              refine ⟨trivial, fun _ _ => wp_accepted_getRateTable _ _ _, fun error herror => ?_⟩
              simp only [pricingAudit, execute, Backend.extend, Quoting.execute] at herror
              split at herror <;> cases herror
              simp [Accepted, foreignCoverage]
            · simpa [Accepted] using error_of_execute herror
          · exact fun _ _ h => by simpa [Accepted] using h
        · exact fun _ _ h => by simpa [Accepted] using h
  · simp [Accepted, foreignCoverage]

end Accepted

/-- In every sequence of requests that move no linked coverage to another service,
links stay inside a tenant and a service; so a request for a new version of a
table, made afterwards, is not refused for the coverages of the table. -/
theorem coverage_links_stay_inside (P : Platform) (s : Store) (hs : LinksInside s)
    (calls : List (Request × (ℕ → Input)))
    (hstay : (rateTableSystem P).AlongCalls (fun s c _ => LinkedStay s c) calls s) :
    LinksInside ((rateTableSystem P).runCalls calls s) ∧
      ∀ tenantId actorId id ω, ((createRateTableVersion tenantId actorId id).run (execute P) ω
        ((rateTableSystem P).runCalls calls s)).1 ≠ .error foreignCoverage := by
  have hinside : LinksInside ((rateTableSystem P).runCalls calls s) :=
    runCalls_keep P (fun s c input hs hsound hstay =>
      linksInside_execute P s c input hs hsound hstay) calls hs hstay
  exact ⟨hinside, fun tenantId actorId id ω =>
    Program.wp_run (wp_accepted_createRateTableVersion hinside tenantId actorId id)
      (Program.along_true _ ω _)⟩

/-- The coverage for everywhere, of this service. -/
def everywhere (carrierServiceId : Id) : CoverageDto :=
  ⟨carrierServiceId, none, none, none, none, none, none⟩

/-- A linked coverage is rewritten, and one that is not linked is moved. -/
def coverageCalls : List (Request × (ℕ → Input)) :=
  ratedCalls ++
    [(.createCoverage "tenant" "ana" (everywhere "service"), plainInputs "e"),
      (.updateCoverage "tenant" "ana" "coverage" (everywhere "service"), plainInputs "f"),
      (.updateCoverage "tenant" "ana" "e0" (everywhere "economy"), plainInputs "g")]

theorem linksInside_twoServices : LinksInside twoServices := by
  simp [LinksInside, twoServices, oneService, Store.empty, Table.empty]

theorem coverage_links_stay_inside_coverageCalls :
    LinksInside ((rateTableSystem plainPlatform).runCalls coverageCalls twoServices) :=
  (coverage_links_stay_inside plainPlatform twoServices linksInside_twoServices coverageCalls
    (by decide +kernel)).1

/-- A linked coverage is moved to the other service. -/
def movingCalls : List (Request × (ℕ → Input)) :=
  [(.createRateTable "tenant" "ana" (plainTable "service" none ["coverage"] [plainRange 0 10]),
      plainInputs "a"),
    (.updateCoverage "tenant" "ana" "coverage" (everywhere "economy"), plainInputs "b")]

/-- The link is between two services then, and no new version can be made. -/
theorem a_linked_coverage_moves :
    LinksInside twoServices ∧
      ¬LinksInside ((rateTableSystem plainPlatform).runCalls movingCalls twoServices) ∧
      ((createRateTableVersion "tenant" "ana" "a0").run (execute plainPlatform) (plainInputs "c")
        ((rateTableSystem plainPlatform).runCalls movingCalls twoServices)).1.map (fun _ => ()) =
          .error foreignCoverage :=
  ⟨linksInside_twoServices, by decide +kernel, by decide +kernel⟩

end Logistics.RateTables
