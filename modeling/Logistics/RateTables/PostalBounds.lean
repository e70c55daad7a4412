import Logistics.Quoting.Eligibility
import Logistics.RateTables.Coverages

/-!
# Postal bounds of coverages

A coverage is stored with the digits of its bounds, however many they are, and the
match of a route throws on a bound that has not eight. The bounds of a coverage that
matches are all read, so in some order of the coverages each of them is reached: no
request is broken off exactly when every bound that is stored has no digits or eight.
-/

namespace Logistics.RateTables

open Logistics.Library Logistics.Quoting

def CoverageDto.isValid (input : CoverageDto) : Bool :=
  input.originState.all (hasLength 0 2) && input.destinationState.all (hasLength 0 2) &&
    input.originPostalCodeStart.all (hasLength 0 16) &&
    input.originPostalCodeEnd.all (hasLength 0 16) &&
    input.destinationPostalCodeStart.all (hasLength 0 16) &&
    input.destinationPostalCodeEnd.all (hasLength 0 16)

/-- Each bound of the request has no digits or eight. -/
def WholeBounds (dto : CoverageDto) : Prop :=
  ∀ bound ∈ [dto.originPostalCodeStart, dto.originPostalCodeEnd, dto.destinationPostalCodeStart,
    dto.destinationPostalCodeEnd], (digits bound).length = 0 ∨ (digits bound).length = 8

instance (dto : CoverageDto) : Decidable (WholeBounds dto) := by
  unfold WholeBounds
  infer_instance

/-- The coverages in use have bounds of eight digits. -/
def WholeCoverages (s : Store) : Prop :=
  ∀ coverage ∈ s.carrierCoverages.rows, coverage.status = .active → HasPostalBounds coverage

/-- A coverage that is stored, or rewritten while it is in use, has whole bounds. -/
def StoresWhole (s : Store) : rateTableInterface.Command → Input → Prop
  | .inr (.storeCoverage _ dto), input => input.fault = false →
      (∀ row ∈ s.carrierCoverages.rows, row.id ≠ input.ids 0) → WholeBounds dto
  | .inr (.updateCoverage id dto), input => input.fault = false →
      (∃ row ∈ s.carrierCoverages.rows, row.id = id ∧ row.status = .active) → WholeBounds dto
  | _, _ => True

instance (s : Store) (c : rateTableInterface.Command) (input : Input) :
    Decidable (StoresWhole s c input) := by
  refine decideExtended (p := fun c => StoresWhole s c input) (fun _ => isTrue trivial)
    (fun c => ?_) c
  apply @RateTableCommand.casesOn (fun c => Decidable (StoresWhole s (.inr c) input)) c <;>
    intros <;> dsimp only [StoresWhole] <;> infer_instance

def coveragesOf (s : Store) (tie : Id → ℕ) (carrierServiceId : Id) : List CarrierCoverage :=
  (s.carrierCoverages.rows.filter fun row =>
    row.carrierServiceId == carrierServiceId && row.status == .active).insertionSort fun a b =>
      tie a.id ≤ tie b.id

/-- Whatever order the database answers in, the match of a route with eight digits
throws for no service, and a quote evaluates all services. -/
structure NeverAborts (P : Platform) (s : Store) : Prop where
  decides : ∀ input : CreateFreightSimulationDto, HasEightDigits input.origin.postalCode →
    HasEightDigits input.destination.postalCode → ∀ tie carrierServiceId, ∃ covered,
      matchesCoverage P (toAddressDto input.origin) (toAddressDto input.destination)
        (coveragesOf s tie carrierServiceId) = .ok covered
  evaluates : ∀ input : CreateFreightSimulationDto, HasEightDigits input.origin.postalCode →
    HasEightDigits input.destination.postalCode →
      ∀ tie tenantId carrierServiceId carrierId date distanceKm, ∃ evaluated,
        evaluateServices P input date distanceKm
          (findServices P s tie tenantId carrierServiceId carrierId date) = .ok evaluated

theorem eligibleCarrierService_coverages (s : Store) (tie : Id → ℕ) (date : Time)
    (service : CarrierService) (carrier : Carrier) :
    (eligibleCarrierService s tie date service carrier).coverages = coveragesOf s tie service.id :=
  rfl

theorem mem_coveragesOf {s : Store} {tie : Id → ℕ} {carrierServiceId : Id}
    {coverage : CarrierCoverage} :
    coverage ∈ coveragesOf s tie carrierServiceId ↔ coverage ∈ s.carrierCoverages.rows ∧
      coverage.carrierServiceId = carrierServiceId ∧ coverage.status = .active := by
  simp [coveragesOf, List.mem_insertionSort]

/-! ## Bounds that are read -/

theorem hasEightDigits_of_normalizePostalCode {value code : String}
    (h : normalizePostalCode value = .ok code) : HasEightDigits value := by
  by_contra hnot
  have hlength : (String.ofList (postalDigits value)).length ≠ 8 := by
    rw [String.length_ofList]
    exact hnot
  unfold normalizePostalCode at h
  rw [postalDigits] at hlength
  rw [if_pos hlength] at h
  cases h

theorem hasEightDigits_of_normalizeBound {bound code : Option String}
    (h : normalizeBound bound = .ok code) : ∀ value ∈ truthy bound, HasEightDigits value := by
  intro value hvalue
  rw [normalizeBound, Option.mem_def.mp hvalue] at h
  change some <$> normalizePostalCode value = _ at h
  cases hcode : normalizePostalCode value with
  | error e =>
      rw [hcode] at h
      cases h
  | ok code => exact hasEightDigits_of_normalizePostalCode hcode

theorem hasEightDigits_of_inPostalRange {postalCode : String} {start finish : Option String}
    {inside : Bool} (h : inPostalRange postalCode start finish = .ok inside) :
    (∀ value ∈ truthy start, HasEightDigits value) ∧
      ∀ value ∈ truthy finish, HasEightDigits value := by
  obtain ⟨normalizedStart, hstart, h⟩ := Program.except_bind_eq_ok.mp h
  obtain ⟨normalizedEnd, hfinish, -⟩ := Program.except_bind_eq_ok.mp h
  exact ⟨hasEightDigits_of_normalizeBound hstart, hasEightDigits_of_normalizeBound hfinish⟩

theorem hasPostalBounds_of_coverageMatches {P : Platform} {origin destination : AddressDto}
    {coverage : CarrierCoverage} {covered : Bool}
    (h : coverageMatches P origin destination coverage = .ok covered) :
    HasPostalBounds coverage := by
  obtain ⟨originCode, -, h⟩ := Program.except_bind_eq_ok.mp h
  obtain ⟨originInside, horigin, h⟩ := Program.except_bind_eq_ok.mp h
  obtain ⟨destinationCode, -, h⟩ := Program.except_bind_eq_ok.mp h
  obtain ⟨destinationInside, hdestination, -⟩ := Program.except_bind_eq_ok.mp h
  have horiginBounds := hasEightDigits_of_inPostalRange horigin
  have hdestinationBounds := hasEightDigits_of_inPostalRange hdestination
  simp only [HasPostalBounds, List.forall_mem_cons]
  exact ⟨horiginBounds.1, horiginBounds.2, hdestinationBounds.1, hdestinationBounds.2, by simp⟩

theorem hasPostalBounds_of_matchesCoverage {P : Platform} {origin destination : AddressDto}
    {coverage : CarrierCoverage} {rest : List CarrierCoverage} {covered : Bool}
    (h : matchesCoverage P origin destination (coverage :: rest) = .ok covered) :
    HasPostalBounds coverage := by
  obtain ⟨matched, hmatched, -⟩ := Program.except_bind_eq_ok.mp h
  exact hasPostalBounds_of_coverageMatches hmatched

theorem exists_tie_first {s : Store} {coverage : CarrierCoverage}
    (hstored : coverage ∈ s.carrierCoverages.rows) (hactive : coverage.status = .active) :
    ∃ tie rest, coveragesOf s tie coverage.carrierServiceId = coverage :: rest := by
  let tie : Id → ℕ := fun id => if id = coverage.id then 0 else 1
  have hmem : coverage ∈ coveragesOf s tie coverage.carrierServiceId :=
    mem_coveragesOf.mpr ⟨hstored, rfl, hactive⟩
  cases hcoverages : coveragesOf s tie coverage.carrierServiceId with
  | nil =>
      rw [hcoverages] at hmem
      cases hmem
  | cons first rest =>
      rw [hcoverages] at hmem
      have hfirst : first ∈ s.carrierCoverages.rows := by
        have hin : first ∈ coveragesOf s tie coverage.carrierServiceId := by
          rw [hcoverages]
          exact List.mem_cons_self
        exact (mem_coveragesOf.mp hin).1
      have hsorted : (first :: rest).Pairwise fun a b => tie a.id ≤ tie b.id := by
        rw [← hcoverages]
        exact List.pairwise_insertionSort _ _
      have heq : coverage = first := by
        rcases List.mem_cons.mp hmem with heq | hlater
        · exact heq
        · have hle : tie first.id ≤ tie coverage.id := (List.pairwise_cons.mp hsorted).1 _ hlater
          have hid : coverage.id = first.id := by
            by_contra hne
            simp [tie, Ne.symm hne] at hle
          exact coverage_eq_of_id hstored hfirst hid
      exact ⟨tie, rest, by rw [hcoverages, heq]⟩

/-- No request is broken off exactly when the bounds of the coverages are whole. -/
theorem neverAborts_iff (P : Platform) (s : Store) : NeverAborts P s ↔ WholeCoverages s := by
  constructor
  · intro h coverage hstored hactive
    obtain ⟨tie, rest, hfirst⟩ := exists_tie_first hstored hactive
    obtain ⟨covered, hcovered⟩ := h.decides (twoUnits 1) rfl rfl tie coverage.carrierServiceId
    rw [hfirst] at hcovered
    exact hasPostalBounds_of_matchesCoverage hcovered
  · intro hwhole
    constructor
    · intro input horigin hdestination tie carrierServiceId
      have hbounds : ∀ coverage ∈ coveragesOf s tie carrierServiceId,
          HasPostalBounds coverage := by
        intro coverage hcoverage
        obtain ⟨hstored, -, hactive⟩ := mem_coveragesOf.mp hcoverage
        exact hwhole coverage hstored hactive
      obtain ⟨covered, hcovered, -⟩ :=
        matchesCoverage_eq (P := P) horigin hdestination hbounds
      exact ⟨covered, hcovered⟩
    · intro input horigin hdestination tie tenantId carrierServiceId carrierId date distanceKm
      obtain ⟨unavailable, candidateOptions, hevaluated, -⟩ :=
        evaluateServices_eq P date distanceKm horigin hdestination fun service hservice =>
          wellFormed_of_mem_findServices hwhole hservice
      exact ⟨_, hevaluated⟩

/-! ## Bounds that are stored -/

theorem length_digits (bound : Option String) :
    (digits bound).length = (postalDigits (digits bound)).length := by
  simp [digits, postalDigits, String.length_ofList, List.filter_filter]

theorem hasEightDigits_digits_iff (bound : Option String) :
    (∀ value ∈ truthy (some (digits bound)), HasEightDigits value) ↔
      (digits bound).length = 0 ∨ (digits bound).length = 8 := by
  by_cases hempty : digits bound = ""
  · simp [truthy, hempty]
  · have hlength : (digits bound).length ≠ 0 := by simpa using hempty
    simp [truthy, hempty, HasEightDigits, ← length_digits]

theorem hasPostalBounds_coverageRow_iff (P : Platform) (id tenantId : Id) (dto : CoverageDto) :
    HasPostalBounds (coverageRow P id tenantId dto) ↔ WholeBounds dto := by
  simp only [HasPostalBounds, WholeBounds, coverageRow, List.forall_mem_cons,
    hasEightDigits_digits_iff, List.not_mem_nil, false_imp_iff, implies_true]

theorem hasPostalBounds_updatedCoverage_iff (P : Platform) (dto : CoverageDto)
    (row : CarrierCoverage) : HasPostalBounds (updatedCoverage P dto row) ↔ WholeBounds dto := by
  simp only [HasPostalBounds, WholeBounds, updatedCoverage, List.forall_mem_cons,
    hasEightDigits_digits_iff, List.not_mem_nil, false_imp_iff, implies_true]

theorem coverage_tryInsert_isSome_iff (s : Store) (row : CarrierCoverage) :
    (∃ t, s.carrierCoverages.tryInsert row = some t) ↔
      ∀ other ∈ s.carrierCoverages.rows, other.id ≠ row.id := by
  rw [s.carrierCoverages.tryInsert_isSome_iff]
  simp [eq_comm]

theorem storesWhole_storeCoverage_iff {P : Platform} {s : Store} {tenantId : Id}
    {dto : CoverageDto} {input : Input} (hs : WholeCoverages s) (hf : input.fault = false) :
    StoresWhole s (.inr (.storeCoverage tenantId dto)) input ↔
      WholeCoverages (storeCoverage P s input tenantId dto).2 := by
  unfold StoresWhole
  cases hinsert : s.carrierCoverages.tryInsert (coverageRow P (input.ids 0) tenantId dto) with
  | none =>
      have htaken : ¬∀ row ∈ s.carrierCoverages.rows, row.id ≠ input.ids 0 := by
        intro hfresh
        obtain ⟨t, ht⟩ := (coverage_tryInsert_isSome_iff s
          (coverageRow P (input.ids 0) tenantId dto)).mpr hfresh
        rw [hinsert] at ht
        cases ht
      have hsame : (storeCoverage P s input tenantId dto).2 = s := by
        rw [storeCoverage, hinsert]
      rw [hsame]
      exact ⟨fun _ => hs, fun _ _ hfresh => absurd hfresh htaken⟩
  | some t =>
      have hfresh := (coverage_tryInsert_isSome_iff s _).mp ⟨t, hinsert⟩
      have hrows : (storeCoverage P s input tenantId dto).2.carrierCoverages.rows =
          s.carrierCoverages.rows ++ [coverageRow P (input.ids 0) tenantId dto] := by
        rw [storeCoverage, hinsert]
        exact Table.tryInsert_rows hinsert
      rw [WholeCoverages, hrows, List.forall_mem_append, List.forall_mem_singleton,
        hasPostalBounds_coverageRow_iff]
      exact ⟨fun h => ⟨hs, fun _ => h hf hfresh⟩, fun h _ _ => h.2 rfl⟩

theorem storesWhole_updateCoverage_iff {P : Platform} {s : Store} {id : Id} {dto : CoverageDto}
    {input : Input} (hs : WholeCoverages s) (hf : input.fault = false) :
    StoresWhole s (.inr (.updateCoverage id dto)) input ↔
      WholeCoverages (updateCoverageRow P s id dto).2 := by
  unfold StoresWhole
  constructor
  · intro hwhole
    rcases updateCoverageRow_cases P s id dto with h | h
    · rw [h]
      exact hs
    · intro coverage hcoverage hactive
      rw [h.coverages, List.mem_map] at hcoverage
      obtain ⟨row, hrow, rfl⟩ := hcoverage
      by_cases hid : row.id = id
      · rw [if_pos hid] at hactive ⊢
        exact (hasPostalBounds_updatedCoverage_iff P dto row).mpr
          (hwhole hf ⟨row, hrow, hid, hactive⟩)
      · rw [if_neg hid] at hactive ⊢
        exact hs row hrow hactive
  · rintro hwhole - ⟨row, hrow, hid, hactive⟩
    rcases updateCoverageRow_cases P s id dto with h | h
    · -- the coverage is there to be rewritten
      unfold updateCoverageRow at h
      split at h
      · next hnone => exact absurd hid (by simpa using List.find?_eq_none.mp hnone row hrow)
      · cases h
    · have hrewritten : updatedCoverage P dto row ∈
          (updateCoverageRow P s id dto).2.carrierCoverages.rows := by
        rw [h.coverages]
        exact List.mem_map.mpr ⟨row, hrow, if_pos hid⟩
      exact (hasPostalBounds_updatedCoverage_iff P dto row).mp (hwhole _ hrewritten hactive)

def WritesCoverage : rateTableInterface.Command → Prop
  | .inr (.storeCoverage ..) => True
  | .inr (.updateCoverage ..) => True
  | _ => False

theorem carrierCoverages_execute (P : Platform) {c : rateTableInterface.Command}
    (hc : ¬WritesCoverage c) (input : Input) (s : Store) :
    (execute P c input s).2.carrierCoverages = s.carrierCoverages := by
  obtain hsame | ⟨_, _, _, _, _, _, rfl, -, hstored⟩ | ⟨_, _, _, _, _, _, rfl, -, hreplaced⟩ |
    ⟨_, _, rfl, hset⟩ | ⟨_, _, rfl, -⟩ | ⟨_, _, rfl, -⟩ := execute_cases P c input s
  · exact hsame.coverages
  · exact hstored.coverages
  · exact hreplaced.coverages
  · exact hset.coverages
  · exact absurd trivial hc
  · exact absurd trivial hc

/-- A call leaves the coverages whole exactly when the one it writes is whole. -/
theorem storesWhole_iff (P : Platform) {s : Store} (c : rateTableInterface.Command)
    (input : Input) (hs : WholeCoverages s) :
    StoresWhole s c input ↔ WholeCoverages (execute P c input s).2 := by
  have hkept : (execute P c input s).2.carrierCoverages = s.carrierCoverages →
      WholeCoverages (execute P c input s).2 := by
    intro hsame
    rw [WholeCoverages, hsame]
    exact hs
  rcases c with c | c
  · exact iff_of_true trivial (hkept (untouched_quoting P c input s).coverages)
  · by_cases hf : input.fault = true
    · refine iff_of_true ?_ (hkept (by rw [execute_fault P c s hf]))
      cases c <;> simp [StoresWhole, hf]
    · have hf' : input.fault = false := by simpa using hf
      cases c with
      | storeCoverage tenantId dto =>
          rw [execute_answer P _ s hf]
          exact storesWhole_storeCoverage_iff hs hf'
      | updateCoverage id dto =>
          rw [execute_answer P _ s hf]
          exact storesWhole_updateCoverage_iff hs hf'
      | _ =>
          exact iff_of_true trivial
            (hkept (carrierCoverages_execute P (by simp [WritesCoverage]) input s))

/-- For every interleaving of quotes with the operations on tables and coverages: no
coverage ever breaks off a quote exactly when every coverage that is written has
bounds of no digits or eight. -/
theorem coverages_never_abort_iff (P : Platform) (s : Store) (hs : WholeCoverages s)
    (acts : List (Action Request Input)) :
    (rateTableSystem P).AlongActions (CallCondition StoresWhole) (Config.initial s) acts ↔
      (rateTableSystem P).AlongActions
        (fun c a => NeverAborts P ((rateTableSystem P).next c a).store)
        (Config.initial s) acts := by
  apply (rateTableSystem P).alongActions_iff (J := fun c => WholeCoverages c.store)
  · intro c a hc ha
    exact (rateTableSystem P).store_next (J := WholeCoverages)
      (fun s cmd input hs hcmd => (storesWhole_iff P cmd input hs).mp hcmd) c a hc ha
  · intro c a hc
    rw [neverAborts_iff]
    obtain ⟨r, rfl, hn⟩ | ⟨i, input, r, h, cmd, k, rfl, -, hcall, hn⟩ | ⟨hn, hcall⟩ :=
      (rateTableSystem P).next_cases c a
    · rw [hn]
      exact iff_of_true trivial hc
    · rw [hn, CallCondition, hcall]
      exact storesWhole_iff P cmd input hc
    · rw [hn, CallCondition, hcall]
      exact iff_of_true trivial hc
  · exact hs

/-- A coverage of the second service from this bound on. -/
def boundedCoverage (originPostalCodeStart : String) : CoverageDto where
  carrierServiceId := "economy"
  originState := none
  destinationState := none
  originPostalCodeStart := some originPostalCodeStart
  originPostalCodeEnd := none
  destinationPostalCodeStart := none
  destinationPostalCodeEnd := none

/-- The coverage is created, and then two units are quoted. -/
def quotedAfterCoverage (originPostalCodeStart : String) : List (Action Request Input) :=
  [.start (.createCoverage "tenant" "ana" (boundedCoverage originPostalCodeStart)),
    .step 0 (plainInputs "c" 0), .step 0 (plainInputs "c" 1), .step 0 (plainInputs "c" 2),
    .start (.createQuote "tenant" "ana" (twoUnits 1)), .step 1 (plainInputs "q" 3),
    .step 1 (plainInputs "q" 4), .step 1 (plainInputs "q" 5)]

/-- Two services, the first with a table. -/
def twoRatedServices : Store :=
  { twoServices with
    freightRateTables := oneService.freightRateTables
    freightRateRanges := oneService.freightRateRanges }

theorem coverages_never_abort_from :
    (rateTableSystem plainPlatform).AlongActions
      (fun c a => NeverAborts plainPlatform ((rateTableSystem plainPlatform).next c a).store)
      (Config.initial twoRatedServices) (quotedAfterCoverage "01000-000") :=
  (coverages_never_abort_iff plainPlatform twoRatedServices hasPostalBounds_oneService
    (quotedAfterCoverage "01000-000")).mp (by decide +kernel)

def quoteIsStored (originPostalCodeStart : String) : Bool :=
  ((rateTableSystem plainPlatform).runActions (Config.initial twoRatedServices)
    (quotedAfterCoverage originPostalCodeStart)).store.freightSimulationOptions.rows.length == 1

/-- A bound of one digit is admitted, and no request can be quoted any more: the
service with a table is not either, although its coverage takes every route. -/
theorem a_short_bound_aborts_quoting :
    (boundedCoverage "1").isValid = true ∧ quoteIsStored "01000-000" = true ∧
      quoteIsStored "1" = false ∧
      ¬NeverAborts plainPlatform ((rateTableSystem plainPlatform).runActions
        (Config.initial twoRatedServices) (quotedAfterCoverage "1")).store := by
  refine ⟨by decide +kernel, by decide +kernel, by decide +kernel, fun h => ?_⟩
  obtain ⟨covered, hcovered⟩ := h.decides (twoUnits 1) rfl rfl (fun _ => 0) "economy"
  have hthrows : (matchesCoverage plainPlatform (toAddressDto (twoUnits 1).origin)
      (toAddressDto (twoUnits 1).destination) (coveragesOf ((rateTableSystem
        plainPlatform).runActions (Config.initial twoRatedServices)
          (quotedAfterCoverage "1")).store (fun _ => 0) "economy")).isOk = false := by
    decide +kernel
  rw [hcovered] at hthrows
  cases hthrows

end Logistics.RateTables
