import Mathlib.Data.List.MinMax
import Logistics.Library.Interleaving
import Logistics.Quoting.Snapshot

/-!
# Which services are quoted

A service is eligible for a request when one of its coverages takes the route,
its weight limits admit the chargeable weight, and its latest rate table has a
range for that weight. `create` stores an option for every eligible service and
names every other service as unavailable, and the weight an option reports lies
in the range it was priced with.
-/

namespace Logistics.Quoting

open Logistics.Library Logistics.Pricing

/-! ## Eligible services -/

def postalDigits (value : String) : List Char :=
  value.toList.filter Char.isDigit

def HasEightDigits (value : String) : Prop :=
  (postalDigits value).length = 8

/-- A postal code, read as a number. -/
def postalNumber (value : String) : ℕ :=
  readDigits 0 (postalDigits value)

/-- The code lies within those bounds that are set. -/
def WithinBounds (postalCode : String) (start finish : Option String) : Prop :=
  (∀ low ∈ truthy start, postalNumber low ≤ postalNumber postalCode) ∧
    ∀ high ∈ truthy finish, postalNumber postalCode ≤ postalNumber high

/-- The coverage takes the route of the request. -/
def Covers (P : Platform) (input : CreateFreightSimulationDto) (coverage : CarrierCoverage) :
    Prop :=
  (∀ state ∈ truthy coverage.originState, state = P.toUpperCase input.origin.state) ∧
    (∀ state ∈ truthy coverage.destinationState,
      state = P.toUpperCase input.destination.state) ∧
    WithinBounds input.origin.postalCode coverage.originPostalCodeStart
      coverage.originPostalCodeEnd ∧
    WithinBounds input.destination.postalCode coverage.destinationPostalCodeStart
      coverage.destinationPostalCodeEnd

def requestWeight (input : CreateFreightSimulationDto) (service : CarrierService) : Decimal :=
  chargeableWeight (input.packages.map toPackageInput) service.cubicFactor.val

def rangeContains (weight : Decimal) (range : FreightRateRange) : Prop :=
  range.minWeightKg.val ≤ weight ∧ weight ≤ range.maxWeightKg.val

def latestRateTable (service : EligibleCarrierService) : Option EligibleRateTable :=
  service.freightRateTables.argmax fun rateTable => rateTable.table.version

/-- The service can be quoted for the request. -/
structure Eligible (P : Platform) (input : CreateFreightSimulationDto)
    (service : EligibleCarrierService) : Prop where
  covered : ∃ coverage ∈ service.coverages, Covers P input coverage
  above : ∀ low ∈ service.service.minWeightKg, low.val ≤ requestWeight input service.service
  below : ∀ high ∈ service.service.maxWeightKg, requestWeight input service.service ≤ high.val
  rated : ∃ rateTable ∈ latestRateTable service, ∃ range ∈ rateTable.ranges,
    rangeContains (requestWeight input service.service) range

/-- The bounds of a coverage that are set have eight digits. -/
def HasPostalBounds (coverage : CarrierCoverage) : Prop :=
  ∀ bound ∈ [coverage.originPostalCodeStart, coverage.originPostalCodeEnd,
    coverage.destinationPostalCodeStart, coverage.destinationPostalCodeEnd],
    ∀ value ∈ truthy bound, HasEightDigits value

/-- What the query promises of a service. -/
structure WellFormed (service : EligibleCarrierService) : Prop where
  bounds : ∀ coverage ∈ service.coverages, HasPostalBounds coverage
  latestFirst : service.freightRateTables.Pairwise fun a b => b.table.version ≤ a.table.version

open Classical in
/-- Every service is quoted or named as unavailable, in the order of the query. -/
structure PartitionedBy (P : Platform) (input : CreateFreightSimulationDto)
    (services : List EligibleCarrierService) (unavailable : List UnavailableService)
    (candidateOptions : List CandidateOption) : Prop where
  quoted : candidateOptions.map CandidateOption.service =
    services.filter fun service => Eligible P input service
  refused : unavailable.map (fun item => (item.carrier, item.service)) =
    (services.filter fun service => ¬Eligible P input service).map fun service =>
      (service.carrier.name, service.service.name)
  priced : ∀ item ∈ candidateOptions, item.rateTable ∈ latestRateTable item.service ∧
    item.rateRange ∈ item.rateTable.ranges ∧
    rangeContains item.calculated.chargeableWeightKg item.rateRange

/-! ## Coverage -/

theorem isDigit_of_mem_postalDigits {value : String} :
    ∀ c ∈ postalDigits value, c.isDigit = true :=
  fun _ hc => (List.mem_filter.mp hc).2

theorem normalizePostalCode_eq {value : String} (h : HasEightDigits value) :
    normalizePostalCode value = .ok (String.ofList (postalDigits value)) := by
  have hlength : (String.ofList (postalDigits value)).length = 8 := by
    rw [String.length_ofList]
    exact h
  unfold normalizePostalCode
  exact if_neg (not_not.mpr hlength)

theorem ofList_postalDigits_le_iff {a b : String} (ha : HasEightDigits a)
    (hb : HasEightDigits b) :
    String.ofList (postalDigits a) ≤ String.ofList (postalDigits b) ↔
      postalNumber a ≤ postalNumber b := by
  have hlength : (String.ofList (postalDigits a)).length =
      (String.ofList (postalDigits b)).length := by
    rw [String.length_ofList, String.length_ofList]
    exact ha.trans hb.symm
  rw [le_iff_readDigits_le (by simpa using fun c hc => isDigit_of_mem_postalDigits c hc)
    (by simpa using fun c hc => isDigit_of_mem_postalDigits c hc) hlength]
  simp only [String.toList_ofList, postalNumber]

theorem normalizeBound_eq {bound : Option String}
    (h : ∀ value ∈ truthy bound, HasEightDigits value) :
    normalizeBound bound =
      .ok ((truthy bound).map fun value => String.ofList (postalDigits value)) := by
  unfold normalizeBound
  cases hbound : truthy bound with
  | none => rfl
  | some value =>
      simp only [normalizePostalCode_eq (h value hbound)]
      rfl

theorem inPostalRange_eq {postalCode : String} {start finish : Option String}
    (hcode : HasEightDigits postalCode) (hstart : ∀ value ∈ truthy start, HasEightDigits value)
    (hfinish : ∀ value ∈ truthy finish, HasEightDigits value) :
    ∃ inside, inPostalRange (String.ofList (postalDigits postalCode)) start finish = .ok inside ∧
      (inside = true ↔ WithinBounds postalCode start finish) := by
  refine ⟨_, by simp only [inPostalRange, normalizeBound_eq hstart, normalizeBound_eq hfinish]; rfl,
    ?_⟩
  rw [Bool.and_eq_true, Option.all_map, Option.all_map, Option.all_eq_true, Option.all_eq_true]
  refine and_congr (forall_congr' fun low => forall_congr' fun hlow => ?_)
    (forall_congr' fun high => forall_congr' fun hhigh => ?_)
  · simpa using ofList_postalDigits_le_iff (hstart low hlow) hcode
  · simpa using ofList_postalDigits_le_iff hcode (hfinish high hhigh)

theorem coverageMatches_eq {P : Platform} {input : CreateFreightSimulationDto}
    {coverage : CarrierCoverage} (horigin : HasEightDigits input.origin.postalCode)
    (hdestination : HasEightDigits input.destination.postalCode)
    (hbounds : HasPostalBounds coverage) :
    ∃ covered, coverageMatches P (toAddressDto input.origin) (toAddressDto input.destination)
        coverage = .ok covered ∧ (covered = true ↔ Covers P input coverage) := by
  obtain ⟨originInside, horiginMatch, horiginIff⟩ := inPostalRange_eq horigin
    (hbounds coverage.originPostalCodeStart (by simp))
    (hbounds coverage.originPostalCodeEnd (by simp))
  obtain ⟨destinationInside, hdestinationMatch, hdestinationIff⟩ := inPostalRange_eq hdestination
    (hbounds coverage.destinationPostalCodeStart (by simp))
    (hbounds coverage.destinationPostalCodeEnd (by simp))
  have hresult : coverageMatches P (toAddressDto input.origin) (toAddressDto input.destination)
      coverage = .ok ((truthy coverage.originState).all (fun state =>
        state = P.toUpperCase input.origin.state) &&
        (truthy coverage.destinationState).all (fun state =>
          state = P.toUpperCase input.destination.state) && originInside &&
        destinationInside) := by
    simp only [coverageMatches, toAddressDto, normalizePostalCode_eq horigin,
      normalizePostalCode_eq hdestination, Bind.bind, Except.bind, horiginMatch,
      hdestinationMatch]
    rfl
  refine ⟨_, hresult, ?_⟩
  simp only [Bool.and_eq_true, Option.all_eq_true, decide_eq_true_eq, horiginIff,
    hdestinationIff, Covers, and_assoc, Option.mem_def]

theorem matchesCoverage_eq {P : Platform} {input : CreateFreightSimulationDto}
    {coverages : List CarrierCoverage} (horigin : HasEightDigits input.origin.postalCode)
    (hdestination : HasEightDigits input.destination.postalCode)
    (hbounds : ∀ coverage ∈ coverages, HasPostalBounds coverage) :
    ∃ covered, matchesCoverage P (toAddressDto input.origin) (toAddressDto input.destination)
        coverages = .ok covered ∧
      (covered = true ↔ ∃ coverage ∈ coverages, Covers P input coverage) := by
  induction coverages with
  | nil => exact ⟨false, rfl, by simp⟩
  | cons coverage rest ih =>
      obtain ⟨covered, hcovered, hiff⟩ := coverageMatches_eq (P := P) horigin hdestination
        (hbounds coverage List.mem_cons_self)
      obtain ⟨later, hlater, hlaterIff⟩ := ih fun other hother =>
        hbounds other (List.mem_cons_of_mem _ hother)
      cases covered with
      | true =>
          have hmatch : Covers P input coverage := hiff.mp rfl
          refine ⟨true, ?_, by simp [hmatch]⟩
          rw [matchesCoverage, hcovered]
          rfl
      | false =>
          have hmiss : ¬Covers P input coverage := fun h => Bool.false_ne_true (hiff.mpr h)
          refine ⟨later, ?_, by simp [hmiss, hlaterIff]⟩
          rw [matchesCoverage, hcovered]
          exact hlater

/-! ## Weight and rate table -/

theorem decimalMax_eq (left right : Decimal) : decimalMax left right = max left right := by
  unfold decimalMax
  split
  · next h => rw [max_eq_left h]
  · next h => rw [max_eq_right (not_le.mp h).le]

theorem decimalMax_metrics (input : CreateFreightSimulationDto) (service : CarrierService) :
    decimalMax (calculatePackageMetrics (input.packages.map toPackageInput)
        service.cubicFactor.val).realWeightKg
      (calculatePackageMetrics (input.packages.map toPackageInput)
        service.cubicFactor.val).cubicWeightKg = requestWeight input service := by
  rw [decimalMax_eq, ← maxDecimal_eq]
  exact maxDecimal_metrics _ _

/-- The first of the tables in descending order is the one of the highest version. -/
theorem latestRateTable_eq {service : EligibleCarrierService}
    (h : service.freightRateTables.Pairwise fun a b => b.table.version ≤ a.table.version) :
    latestRateTable service = service.freightRateTables.head? := by
  unfold latestRateTable
  cases htables : service.freightRateTables with
  | nil => rfl
  | cons first rest =>
      rw [htables, List.pairwise_cons] at h
      rw [List.argmax_cons, List.head?_cons]
      cases hrest : rest.argmax fun rateTable => rateTable.table.version with
      | none => rfl
      | some other =>
          have hle := h.1 other (List.argmax_mem hrest)
          exact if_neg (not_lt.mpr hle)

/-- What a service is checked for before it is priced. -/
structure PassesChecks (P : Platform) (input : CreateFreightSimulationDto)
    (service : EligibleCarrierService) : Prop where
  covered : matchesCoverage P (toAddressDto input.origin) (toAddressDto input.destination)
    service.coverages = .ok true
  above : ∀ low ∈ service.service.minWeightKg, low.val ≤ requestWeight input service.service
  below : ∀ high ∈ service.service.maxWeightKg, requestWeight input service.service ≤ high.val
  rated : ∃ rateTable ∈ service.freightRateTables.head?, ∃ range ∈ rateTable.ranges,
    rangeContains (requestWeight input service.service) range

theorem evaluateService_cases (P : Platform) {input : CreateFreightSimulationDto} (date : Time)
    (distanceKm : Decimal) {service : EligibleCarrierService} {covered : Bool}
    (hcovered : matchesCoverage P (toAddressDto input.origin) (toAddressDto input.destination)
      service.coverages = .ok covered) :
    (PassesChecks P input service ∧ ∃ item,
        evaluateService P input date distanceKm service = .ok (.inr item)) ∨
      (¬PassesChecks P input service ∧ ∃ reason,
        evaluateService P input date distanceKm service =
          .ok (.inl ⟨service.carrier.name, reason, service.service.name⟩)) := by
  unfold evaluateService
  rw [hcovered]
  simp only [Bind.bind, Except.bind, decimalMax_metrics]
  split
  · next hnot =>
    refine .inr ⟨fun h => ?_, _, rfl⟩
    rw [Except.ok.inj (hcovered.symm.trans h.covered)] at hnot
    cases hnot
  · next hin =>
    have hin : covered = true := by simpa using hin
    split
    · next hlow =>
      obtain ⟨low, hlow, hlt⟩ := (Option.any_eq_true _ _).mp hlow
      refine .inr ⟨fun h => ?_, _, rfl⟩
      exact absurd (h.above low hlow) (not_le.mpr (by simpa using hlt))
    · next hlow =>
      split
      · next hhigh =>
        obtain ⟨high, hhigh, hlt⟩ := (Option.any_eq_true _ _).mp hhigh
        refine .inr ⟨fun h => ?_, _, rfl⟩
        exact absurd (h.below high hhigh) (not_le.mpr (by simpa using hlt))
      · next hhigh =>
        have habove : ∀ low ∈ service.service.minWeightKg,
            low.val ≤ requestWeight input service.service := by
          intro low hmem
          by_contra hlt
          exact hlow ((Option.any_eq_true _ _).mpr ⟨low, hmem, by simpa using hlt⟩)
        have hbelow : ∀ high ∈ service.service.maxWeightKg,
            requestWeight input service.service ≤ high.val := by
          intro high hmem
          by_contra hlt
          exact hhigh ((Option.any_eq_true _ _).mpr ⟨high, hmem, by simpa using hlt⟩)
        cases htable : service.freightRateTables.head? with
        | none =>
            refine .inr ⟨fun h => ?_, _, rfl⟩
            obtain ⟨rateTable, hmem, -⟩ := h.rated
            rw [htable] at hmem
            cases hmem
        | some rateTable =>
            simp only []
            split
            · next hnone =>
              refine .inr ⟨fun h => ?_, _, rfl⟩
              obtain ⟨other, hother, range, hrange, hlow, hhigh⟩ := h.rated
              rw [htable] at hother
              obtain rfl := Option.some.inj hother
              have hmiss := List.find?_eq_none.mp hnone range hrange
              simp only [ge_iff_le, Bool.and_eq_true, decide_eq_true_eq] at hmiss
              exact hmiss ⟨hlow, hhigh⟩
            · next range hfound =>
              have hcontains := List.find?_some hfound
              simp only [ge_iff_le, Bool.and_eq_true, decide_eq_true_eq] at hcontains
              exact .inl ⟨⟨hin ▸ hcovered, habove, hbelow, rateTable, htable, range,
                List.mem_of_find?_eq_some hfound, hcontains⟩, _, rfl⟩

/-- Among the services that the query promises, those that pass are the eligible ones. -/
theorem passesChecks_iff {P : Platform} {input : CreateFreightSimulationDto}
    {service : EligibleCarrierService} (horigin : HasEightDigits input.origin.postalCode)
    (hdestination : HasEightDigits input.destination.postalCode) (hservice : WellFormed service) :
    PassesChecks P input service ↔ Eligible P input service := by
  obtain ⟨covered, hmatches, hcovered⟩ := matchesCoverage_eq (P := P) horigin hdestination
    hservice.bounds
  have hlatest := latestRateTable_eq hservice.latestFirst
  constructor
  · intro h
    have htrue := Except.ok.inj (hmatches.symm.trans h.covered)
    exact ⟨hcovered.mp htrue, h.above, h.below, hlatest ▸ h.rated⟩
  · intro h
    exact ⟨hcovered.mpr h.covered ▸ hmatches, h.above, h.below, hlatest ▸ h.rated⟩

theorem evaluateService_eq (P : Platform) {input : CreateFreightSimulationDto} (date : Time)
    (distanceKm : Decimal) {service : EligibleCarrierService}
    (horigin : HasEightDigits input.origin.postalCode)
    (hdestination : HasEightDigits input.destination.postalCode)
    (hservice : WellFormed service) :
    (Eligible P input service ∧ ∃ item,
        evaluateService P input date distanceKm service = .ok (.inr item)) ∨
      (¬Eligible P input service ∧ ∃ reason,
        evaluateService P input date distanceKm service =
          .ok (.inl ⟨service.carrier.name, reason, service.service.name⟩)) := by
  obtain ⟨covered, hmatches, -⟩ := matchesCoverage_eq (P := P) horigin hdestination
    hservice.bounds
  rw [← passesChecks_iff horigin hdestination hservice]
  exact evaluateService_cases P date distanceKm hmatches

theorem evaluateService_priced {P : Platform} {input : CreateFreightSimulationDto} {date : Time}
    {distanceKm : Decimal} {service : EligibleCarrierService} {item : CandidateOption}
    (hservice : WellFormed service)
    (h : evaluateService P input date distanceKm service = .ok (.inr item)) :
    item.rateTable ∈ latestRateTable item.service ∧ item.rateRange ∈ item.rateTable.ranges ∧
      rangeContains item.calculated.chargeableWeightKg item.rateRange := by
  obtain ⟨hsame, -, hrange, hcalculated⟩ := evaluateService_candidate h
  have hreported : item.calculated.chargeableWeightKg = requestWeight input service.service := by
    rw [hcalculated, calculate_chargeableWeightKg]
    rfl
  rw [hreported, hsame, latestRateTable_eq hservice.latestFirst]
  unfold evaluateService at h
  obtain ⟨covered, -, h⟩ := Program.except_bind_eq_ok.mp h
  simp only [decimalMax_metrics] at h
  split at h
  · cases h
  · split at h
    · cases h
    · split at h
      · cases h
      · cases htable : service.freightRateTables.head? with
        | none =>
            rw [htable] at h
            cases h
        | some rateTable =>
            simp only [htable] at h
            split at h
            · cases h
            · next rateRange hfound =>
              cases h
              have hcontains := List.find?_some hfound
              simp only [ge_iff_le, Bool.and_eq_true, decide_eq_true_eq] at hcontains
              exact ⟨rfl, List.mem_of_find?_eq_some hfound, hcontains⟩

/-! ## The services of a request -/

theorem evaluateServices_eq (P : Platform) {input : CreateFreightSimulationDto} (date : Time)
    (distanceKm : Decimal) {services : List EligibleCarrierService}
    (horigin : HasEightDigits input.origin.postalCode)
    (hdestination : HasEightDigits input.destination.postalCode)
    (hservices : ∀ service ∈ services, WellFormed service) :
    ∃ unavailable candidateOptions,
      evaluateServices P input date distanceKm services = .ok (unavailable, candidateOptions) ∧
        PartitionedBy P input services unavailable candidateOptions := by
  induction services with
  | nil => exact ⟨[], [], rfl, rfl, rfl, by simp⟩
  | cons service rest ih =>
      obtain ⟨unavailable, candidateOptions, hrest, hpart⟩ := ih fun other hother =>
        hservices other (List.mem_cons_of_mem _ hother)
      have hservice := hservices service List.mem_cons_self
      rcases evaluateService_eq P date distanceKm horigin hdestination hservice with
        ⟨heligible, item, heval⟩ | ⟨hnot, reason, heval⟩
      · refine ⟨unavailable, item :: candidateOptions, ?_, ?_, ?_, ?_⟩
        · simp only [evaluateServices, heval, hrest, Bind.bind, Except.bind]
          rfl
        · obtain ⟨hsame, -, -, -⟩ := evaluateService_candidate heval
          rw [List.map_cons, List.filter_cons_of_pos (by simpa using heligible), hsame,
            hpart.quoted]
        · rw [List.filter_cons_of_neg (by simpa using heligible)]
          exact hpart.refused
        · intro other hother
          rcases List.mem_cons.mp hother with rfl | hother
          · exact evaluateService_priced hservice heval
          · exact hpart.priced other hother
      · refine ⟨⟨service.carrier.name, reason, service.service.name⟩ :: unavailable,
          candidateOptions, ?_, ?_, ?_, hpart.priced⟩
        · simp only [evaluateServices, heval, hrest, Bind.bind, Except.bind]
          rfl
        · rw [List.filter_cons_of_neg (by simpa using hnot)]
          exact hpart.quoted
        · rw [List.filter_cons_of_pos (by simpa using hnot), List.map_cons, List.map_cons,
            hpart.refused]

/-! ## What `create` does with the services -/

theorem foldl_min_mem {α β : Type} [LinearOrder β] (f : α → β) (items : List α) (start : β) :
    items.foldl (fun current item => min current (f item)) start = start ∨
      ∃ item ∈ items, f item = items.foldl (fun current item => min current (f item)) start := by
  induction items generalizing start with
  | nil => exact .inl rfl
  | cons item rest ih =>
      rw [List.foldl_cons]
      rcases ih (min start (f item)) with hstart | ⟨other, hother, hlowest⟩
      · rw [hstart]
        rcases min_choice start (f item) with hmin | hmin
        · exact .inl hmin
        · exact .inr ⟨item, List.mem_cons_self, hmin.symm⟩
      · exact .inr ⟨other, List.mem_cons_of_mem _ hother, hlowest⟩

theorem foldl_min_le {α β : Type} [LinearOrder β] (f : α → β) (items : List α) (start : β) :
    items.foldl (fun current item => min current (f item)) start ≤ start ∧
      ∀ item ∈ items, items.foldl (fun current item => min current (f item)) start ≤ f item := by
  induction items generalizing start with
  | nil => exact ⟨le_rfl, fun item hitem => by cases hitem⟩
  | cons item rest ih =>
      rw [List.foldl_cons]
      obtain ⟨hstart, hrest⟩ := ih (min start (f item))
      refine ⟨hstart.trans (min_le_left _ _), fun other hother => ?_⟩
      rcases List.mem_cons.mp hother with rfl | hother
      · exact hstart.trans (min_le_right _ _)
      · exact hrest other hother

/-- Some option has the lowest price. -/
theorem exists_cheapest {first : CandidateOption} {options : List CandidateOption}
    (h : options.head? = some first) :
    ∃ item ∈ options, item.calculated.totalPrice = cheapestPrice first options := by
  rcases foldl_min_mem (fun item => item.calculated.totalPrice) options
    first.calculated.totalPrice with hstart | hitem
  · exact ⟨first, List.mem_of_mem_head? h, hstart.symm⟩
  · exact hitem

/-- With the services priced, `create` has what it stores unless none is
eligible. -/
theorem simulationData_eq {input : CreateFreightSimulationDto} (date : Time)
    (customer : Option Customer) (distanceKm : Decimal) (unavailable : List UnavailableService)
    (candidateOptions : List CandidateOption)
    (horigin : HasEightDigits input.origin.postalCode)
    (hdestination : HasEightDigits input.destination.postalCode) :
    (candidateOptions = [] ∧ simulationData input date customer distanceKm unavailable
        candidateOptions = .error noEligibleService) ∨
      ∃ data, simulationData input date customer distanceKm unavailable candidateOptions =
          .ok data ∧
        data.candidateOptions = candidateOptions ∧ data.unavailable = unavailable := by
  cases hfirst : candidateOptions.head? with
  | none =>
      obtain rfl := List.head?_eq_none_iff.mp hfirst
      exact .inl ⟨rfl, rfl⟩
  | some first =>
      obtain ⟨item, hitem, hprice⟩ := exists_cheapest hfirst
      have hfound : (candidateOptions.find? fun item =>
          item.calculated.totalPrice = cheapestPrice first candidateOptions).isSome := by
        rw [List.find?_isSome]
        exact ⟨item, hitem, by simpa using hprice⟩
      obtain ⟨cheapest, hcheapest⟩ := Option.isSome_iff_exists.mp hfound
      cases hdata : simulationData input date customer distanceKm unavailable
          candidateOptions with
      | error e =>
          simp only [simulationData, hfirst, hcheapest, normalizePostalCode_eq horigin,
            normalizePostalCode_eq hdestination] at hdata
          cases hdata
      | ok data =>
          simp only [simulationData, hfirst, hcheapest, normalizePostalCode_eq horigin,
            normalizePostalCode_eq hdestination] at hdata
          cases hdata
          exact .inr ⟨_, rfl, rfl, rfl⟩

/-- The rest of `create` after the query: it gives up when no service is
eligible, and otherwise stores the quoted and the unavailable services. -/
def StoresPartition (P : Platform) (input : CreateFreightSimulationDto)
    (services : List EligibleCarrierService) : Program quotingInterface SimulationView → Prop
  | .throw e => e = noEligibleService ∧ ∀ service ∈ services, ¬Eligible P input service
  | .call (.storeSimulation _ _ data) _ =>
      PartitionedBy P input services data.unavailable data.candidateOptions
  | _ => False

/-- What `create` does when the query answers with well-formed services. -/
def SplitsServices (P : Platform) (input : CreateFreightSimulationDto) (c : Command)
    (k : Response quotingInterface c → Program quotingInterface SimulationView) : Prop :=
  match c, k with
  | .findServices .., k => ∀ services, (∀ service ∈ services, WellFormed service) →
      StoresPartition P input services (k (.ok services))
  | _, _ => True

def OtherCall : quotingInterface.Command → Prop
  | Command.findServices .. => False
  | _ => True

theorem issues_resolveShipDate (P : Platform) (desiredShipDate : Option String) :
    (resolveShipDate P desiredShipDate).Issues OtherCall := by
  unfold resolveShipDate
  split
  · exact Program.Issues.perform trivial
  · exact Program.Issues.ofExcept _

theorem issues_resolveCustomer (tenantId : Id) (customerId : Option String) :
    (resolveCustomer tenantId customerId).Issues OtherCall := by
  unfold resolveCustomer
  split
  · trivial
  · apply (Program.Issues.perform trivial).bind
    intro found
    cases found <;> trivial

section Create

variable (P : Platform) (tenantId actorId : Id) (input : CreateFreightSimulationDto)

/-- What `create` does with the services that the query has answered. -/
def quoteServices (date : Time) (customer : Option Customer) (distanceKm : Decimal)
    (services : List EligibleCarrierService) : Program quotingInterface SimulationView := do
  let evaluated ← Program.ofExcept (evaluateServices P input date distanceKm services)
  let data ← Program.ofExcept
    (simulationData input date customer distanceKm evaluated.1 evaluated.2)
  let simulation ← call (.storeSimulation tenantId actorId data)
  call (.recordAudit {
    action := .freightSimulationCreated
    actorId := some actorId
    entityId := some simulation.id
    entityType := some "FreightSimulation"
    metadata := [("optionCount", some (toString evaluated.2.length)),
      ("unavailableCount", some (toString evaluated.1.length))]
    tenantId := some tenantId })
  call (.emitDashboardRefresh tenantId "freight-simulation")
  get tenantId simulation.id

theorem quoteServices_cases (date : Time) (customer : Option Customer) (distanceKm : Decimal)
    (services : List EligibleCarrierService) :
    (∃ e, quoteServices P tenantId actorId input date customer distanceKm services = .throw e ∧
      ∀ evaluated, evaluateServices P input date distanceKm services = .ok evaluated →
        simulationData input date customer distanceKm evaluated.1 evaluated.2 = .error e) ∨
    ∃ evaluated data k, evaluateServices P input date distanceKm services = .ok evaluated ∧
      simulationData input date customer distanceKm evaluated.1 evaluated.2 = .ok data ∧
      quoteServices P tenantId actorId input date customer distanceKm services =
        .call (Command.storeSimulation tenantId actorId data) k := by
  unfold quoteServices
  cases hevaluated : evaluateServices P input date distanceKm services with
  | error e => exact .inl ⟨e, rfl, fun _ h => (nomatch h)⟩
  | ok evaluated =>
      simp only [Program.ofExcept, Program.pure_bind]
      cases hdata : simulationData input date customer distanceKm evaluated.1 evaluated.2 with
      | error e =>
          refine .inl ⟨e, rfl, fun other h => ?_⟩
          obtain rfl := Except.ok.inj h
          exact hdata
      | ok data => exact .inr ⟨evaluated, data, _, rfl, hdata, rfl⟩

theorem create_throughout
    {L : (c : Command) → (Response quotingInterface c → Program quotingInterface SimulationView) →
      Prop}
    (hother : ∀ c k, OtherCall c → L c k)
    (hservices : ∀ serviceId carrierId date customer distanceKm k,
      (∀ services, k (.ok services) =
        quoteServices P tenantId actorId input date customer distanceKm services) →
      L (.findServices tenantId serviceId carrierId date) k) :
    (create P tenantId actorId input).Throughout L := by
  unfold create
  apply (issues_resolveShipDate P _).throughout_bind hother
  intro desiredShipDate
  apply (issues_resolveCustomer tenantId _).throughout_bind hother
  intro customer
  apply (Program.Issues.ofExcept _).throughout_bind hother
  intro distanceKm
  change (call (.findServices tenantId (truthy input.carrierServiceId) (truthy input.carrierId)
    desiredShipDate) >>= quoteServices P tenantId actorId input desiredShipDate customer
      distanceKm).Throughout L
  apply Program.Throughout.perform_bind
  · exact hservices _ _ desiredShipDate customer distanceKm _ fun _ => rfl
  intro services
  apply (Program.Issues.ofExcept _).throughout_bind hother
  intro evaluated
  apply (Program.Issues.ofExcept _).throughout_bind hother
  intro data
  apply Program.Throughout.perform_bind
  · exact hother _ _ trivial
  intro simulation
  apply Program.Throughout.perform_bind
  · exact hother _ _ trivial
  intro _
  apply Program.Throughout.perform_bind
  · exact hother _ _ trivial
  intro _
  apply Program.Throughout.perform_bind
  · exact hother _ _ trivial
  intro record
  cases record <;> trivial

end Create

/-- The query answers with well-formed services when the bounds of the stored
coverages are. -/
theorem wellFormed_of_mem_findServices {P : Platform} {s : Store} {tie : Id → ℕ} {tenantId : Id}
    {carrierServiceId carrierId : Option Id} {date : Time} {service : EligibleCarrierService}
    (hbounds : ∀ coverage ∈ s.carrierCoverages.rows, coverage.status = .active →
      HasPostalBounds coverage)
    (h : service ∈ findServices P s tie tenantId carrierServiceId carrierId date) :
    WellFormed service := by
  have htables := (mem_of_mem_findServices h).2
  rw [findServices, List.mem_insertionSort, List.mem_filterMap] at h
  obtain ⟨row, -, hselected⟩ := h
  split at hselected
  · obtain ⟨carrier, -, rfl⟩ := Option.map_eq_some_iff.mp hselected
    constructor
    · intro coverage hcoverage
      rw [eligibleCarrierService, List.mem_insertionSort, List.mem_filter] at hcoverage
      obtain ⟨hstored, hof⟩ := hcoverage
      rw [Bool.and_eq_true, beq_iff_eq, beq_iff_eq] at hof
      exact hbounds coverage hstored hof.2
    · rw [htables, rateTablesInForce, List.pairwise_map]
      exact List.pairwise_insertionSort _ _
  · cases hselected

theorem hasPostalBounds_oneService :
    ∀ coverage ∈ oneService.carrierCoverages.rows, coverage.status = .active →
      HasPostalBounds coverage := by
  intro coverage hcoverage _
  obtain rfl := List.mem_singleton.mp hcoverage
  intro bound hbound value hvalue
  simp only [List.mem_cons, List.not_mem_nil, or_false, or_self] at hbound
  subst hbound
  cases hvalue

end Logistics.Quoting
