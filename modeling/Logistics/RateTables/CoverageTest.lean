import Logistics.RateTables.PostalBounds

/-!
# The coverage test

`testCoverage` of the logistics administration service says which services take a
route. It compares postal codes as numbers where a quote compares texts, does not look
at the states of a coverage, and leaves the services of inactive carriers out only after
it has decided whether the route is covered. Texts and numbers come to the same; with
the states and the carriers it agrees with a quote only where they make no difference.
-/

namespace Logistics.RateTables

open Logistics.Library Logistics.Quoting

structure CoverageTestDto where
  originPostalCode : String
  destinationPostalCode : String
  carrierServiceId : Option Id

structure CoverageWithService where
  coverage : CarrierCoverage
  carrierService : CarrierService
  carrier : Carrier

structure CoverageMatch where
  carrierServiceId : Id
  carrierName : String
  serviceName : String
  ruleId : Id
  deriving DecidableEq

structure CoverageTestView where
  covered : Bool
  serviceMatches : List CoverageMatch

/-- `Number` of a text of digits. -/
def number (text : String) : ℕ :=
  readDigits 0 text.toList

def inRange (value : String) (start finish : Option String) : Bool :=
  (truthy start).all (fun low => number value ≥ number low) &&
    (truthy finish).all fun high => number value ≤ number high

inductive CoverageTestCommand
  | findCoverages (tenantId : Id) (carrierServiceId : Option Id)

@[reducible] def coverageTestInterface : Interface :=
  ⟨CoverageTestCommand, fun _ => List CoverageWithService, ServiceError⟩

def coverageWithService (s : Store) (coverage : CarrierCoverage) : Option CoverageWithService := do
  let service ← s.carrierServices.rows.find? fun row => row.id == coverage.carrierServiceId
  let (carrierService, carrier) ← withCarrier s service
  pure ⟨coverage, carrierService, carrier⟩

def activeCoverages (s : Store) (tie : Id → ℕ) (tenantId : Id) (carrierServiceId : Option Id) :
    List CoverageWithService :=
  ((s.carrierCoverages.rows.filter fun row => row.tenantId == tenantId &&
    row.status == .active && carrierServiceId.all fun id => row.carrierServiceId == id
    ).insertionSort fun a b => tie a.id ≤ tie b.id).filterMap (coverageWithService s)

def executeCoverageTest : Backend coverageTestInterface Input Store
  | .findCoverages tenantId carrierServiceId, input, s =>
      if input.fault then (.error .fault, s)
      else (.ok (activeCoverages s input.tie tenantId carrierServiceId), s)

/-- The ranges of a coverage take the route. -/
def inRanges (input : CoverageTestDto) (item : CoverageWithService) : Bool :=
  inRange (digits (some input.originPostalCode)) item.coverage.originPostalCodeStart
      item.coverage.originPostalCodeEnd &&
    inRange (digits (some input.destinationPostalCode)) item.coverage.destinationPostalCodeStart
      item.coverage.destinationPostalCodeEnd

def coverageMatch (item : CoverageWithService) : CoverageMatch where
  carrierServiceId := item.coverage.carrierServiceId
  carrierName := item.carrier.name
  serviceName := item.carrierService.name
  ruleId := item.coverage.id

def testCoverage (tenantId : Id) (input : CoverageTestDto) :
    Program coverageTestInterface CoverageTestView := do
  let items ← @Program.perform coverageTestInterface
    (.findCoverages tenantId (truthy input.carrierServiceId))
  let matched := items.filter (inRanges input)
  pure {
    covered := 0 < matched.length
    serviceMatches := (matched.filter fun item => item.carrier.active).map coverageMatch }

/-! ## Agreement with quotes -/

/-- The test of the route of a request. -/
def coverageTestOf (input : CreateFreightSimulationDto) : CoverageTestDto :=
  ⟨input.origin.postalCode, input.destination.postalCode, input.carrierServiceId⟩

/-- The coverage is of a service that the request may be quoted for. -/
structure Asked (s : Store) (tenantId : Id) (input : CreateFreightSimulationDto)
    (coverage : CarrierCoverage) : Prop where
  stored : coverage ∈ s.carrierCoverages.rows
  tenant : coverage.tenantId = tenantId
  active : coverage.status = .active
  service : ∀ id ∈ truthy input.carrierServiceId, coverage.carrierServiceId = id

/-- The ranges of the coverage take the route, whatever its states. -/
def WithinRanges (input : CreateFreightSimulationDto) (coverage : CarrierCoverage) : Prop :=
  WithinBounds input.origin.postalCode coverage.originPostalCodeStart
      coverage.originPostalCodeEnd ∧
    WithinBounds input.destination.postalCode coverage.destinationPostalCodeStart
      coverage.destinationPostalCodeEnd

def HasActiveCarrier (s : Store) (coverage : CarrierCoverage) : Prop :=
  ∃ service ∈ s.carrierServices.rows, service.id = coverage.carrierServiceId ∧
    ∃ carrier ∈ s.carriers.rows, carrier.id = service.carrierId ∧ carrier.active = true

/-- Each bound is empty or has eight characters, all of them digits. -/
def DigitBounds (coverage : CarrierCoverage) : Prop :=
  ∀ bound ∈ [coverage.originPostalCodeStart, coverage.originPostalCodeEnd,
    coverage.destinationPostalCodeStart, coverage.destinationPostalCodeEnd],
    ∀ value ∈ truthy bound, postalDigits value = value.toList ∧ HasEightDigits value

/-- The coverages in use are of active services of their tenant, which have a carrier,
and have bounds of digits. -/
structure Testable (s : Store) : Prop where
  services : ∀ coverage ∈ s.carrierCoverages.rows, coverage.status = .active →
    ∃ service ∈ s.carrierServices.rows, service.id = coverage.carrierServiceId ∧
      service.tenantId = coverage.tenantId ∧ service.status = .active ∧
        ∃ carrier ∈ s.carriers.rows, carrier.id = service.carrierId
  bounds : ∀ coverage ∈ s.carrierCoverages.rows, coverage.status = .active → DigitBounds coverage

/-- The services that are listed are those a quote accepts, and the route is covered
when one is listed. -/
structure AgreesWithQuoting (P : Platform) (s : Store) (tenantId : Id)
    (input : CreateFreightSimulationDto) (view : CoverageTestView) : Prop where
  listed : ∀ tie date carrierServiceId,
    (∃ item ∈ view.serviceMatches, item.carrierServiceId = carrierServiceId) ↔
      ∃ service ∈ findServices P s tie tenantId (truthy input.carrierServiceId) none date,
        service.service.id = carrierServiceId ∧
          matchesCoverage P (toAddressDto input.origin) (toAddressDto input.destination)
            service.coverages = .ok true
  covered : view.covered = true ↔ view.serviceMatches ≠ []

/-- Where the ranges of a coverage take the route, a coverage of the same service also
has its states, unless the carrier is inactive; and then another coverage takes the
route, of an active carrier. -/
structure Comparable (P : Platform) (s : Store) (tenantId : Id)
    (input : CreateFreightSimulationDto) : Prop where
  states : ∀ coverage, Asked s tenantId input coverage → WithinRanges input coverage →
    HasActiveCarrier s coverage → ∃ other, Asked s tenantId input other ∧
      other.carrierServiceId = coverage.carrierServiceId ∧ Covers P input other
  carriers : ∀ coverage, Asked s tenantId input coverage → WithinRanges input coverage →
    ∃ other, Asked s tenantId input other ∧ WithinRanges input other ∧ HasActiveCarrier s other

/-! ## Codes as numbers -/

theorem number_digits (code : String) : number (digits (some code)) = postalNumber code := by
  simp [number, digits, postalNumber, postalDigits]

theorem number_eq_postalNumber {value : String} (h : postalDigits value = value.toList) :
    number value = postalNumber value := by
  rw [number, postalNumber, h]

theorem inRange_iff {code : String} {start finish : Option String}
    (hstart : ∀ value ∈ truthy start, postalDigits value = value.toList)
    (hfinish : ∀ value ∈ truthy finish, postalDigits value = value.toList) :
    inRange (digits (some code)) start finish = true ↔ WithinBounds code start finish := by
  rw [inRange, Bool.and_eq_true, Option.all_eq_true, Option.all_eq_true, number_digits]
  refine and_congr (forall_congr' fun low => forall_congr' fun hlow => ?_)
    (forall_congr' fun high => forall_congr' fun hhigh => ?_)
  · rw [number_eq_postalNumber (hstart low hlow), decide_eq_true_iff]
  · rw [number_eq_postalNumber (hfinish high hhigh), decide_eq_true_iff]

theorem inRanges_iff {input : CreateFreightSimulationDto} {item : CoverageWithService}
    (h : DigitBounds item.coverage) :
    inRanges (coverageTestOf input) item = true ↔ WithinRanges input item.coverage := by
  have hbound : ∀ bound ∈ [item.coverage.originPostalCodeStart, item.coverage.originPostalCodeEnd,
      item.coverage.destinationPostalCodeStart, item.coverage.destinationPostalCodeEnd],
      ∀ value ∈ truthy bound, postalDigits value = value.toList :=
    fun bound hbound value hvalue => (h bound hbound value hvalue).1
  rw [inRanges, Bool.and_eq_true]
  exact and_congr
    (inRange_iff (hbound _ (by simp)) (hbound _ (by simp)))
    (inRange_iff (hbound _ (by simp)) (hbound _ (by simp)))

theorem DigitBounds.hasPostalBounds {coverage : CarrierCoverage} (h : DigitBounds coverage) :
    HasPostalBounds coverage :=
  fun bound hbound value hvalue => (h bound hbound value hvalue).2

theorem withinRanges_of_covers {P : Platform} {input : CreateFreightSimulationDto}
    {coverage : CarrierCoverage} (h : Covers P input coverage) : WithinRanges input coverage :=
  h.2.2

/-! ## Coverages with their carriers -/

theorem carrier_eq_of_id {s : Store} {a b : Carrier} (ha : a ∈ s.carriers.rows)
    (hb : b ∈ s.carriers.rows) (hid : a.id = b.id) : a = b :=
  s.carriers.eq_of_key ha hb List.mem_cons_self (by simp [hid])

theorem service_eq_of_id {s : Store} {a b : CarrierService} (ha : a ∈ s.carrierServices.rows)
    (hb : b ∈ s.carrierServices.rows) (hid : a.id = b.id) : a = b :=
  s.carrierServices.eq_of_key ha hb List.mem_cons_self (by simp [hid])

theorem coverageWithService_eq_some_iff {s : Store} {coverage : CarrierCoverage}
    {item : CoverageWithService} :
    coverageWithService s coverage = some item ↔ item.coverage = coverage ∧
      item.carrierService ∈ s.carrierServices.rows ∧
      item.carrierService.id = coverage.carrierServiceId ∧ item.carrier ∈ s.carriers.rows ∧
      item.carrier.id = item.carrierService.carrierId := by
  constructor
  · intro h
    unfold coverageWithService withCarrier at h
    obtain ⟨service, hservice, h⟩ := Option.bind_eq_some_iff.mp h
    obtain ⟨⟨carrierService, carrier⟩, hcarrier, h⟩ := Option.bind_eq_some_iff.mp h
    obtain ⟨found, hfound, hpair⟩ := Option.map_eq_some_iff.mp hcarrier
    cases hpair
    cases h
    exact ⟨rfl, List.mem_of_find?_eq_some hservice, by simpa using List.find?_some hservice,
      List.mem_of_find?_eq_some hfound, by simpa using List.find?_some hfound⟩
  · rintro ⟨rfl, hservice, hserviceId, hcarrier, hcarrierId⟩
    have hfindService : (s.carrierServices.rows.find? fun row =>
        row.id == item.coverage.carrierServiceId) = some item.carrierService :=
      s.carrierServices.find?_eq_some hservice List.mem_cons_self fun b => by
        rw [beq_iff_eq, List.mem_singleton, hserviceId, eq_comm]
    have hfindCarrier : (s.carriers.rows.find? fun row =>
        row.id == item.carrierService.carrierId) = some item.carrier :=
      s.carriers.find?_eq_some hcarrier List.mem_cons_self fun b => by
        rw [beq_iff_eq, List.mem_singleton, hcarrierId, eq_comm]
    simp only [coverageWithService, withCarrier, hfindService, Option.bind_eq_bind,
      Option.bind_some, hfindCarrier, Option.map_some]
    rfl

theorem mem_activeCoverages {s : Store} {tie : Id → ℕ} {tenantId : Id}
    {input : CreateFreightSimulationDto} {item : CoverageWithService} :
    item ∈ activeCoverages s tie tenantId (truthy input.carrierServiceId) ↔
      Asked s tenantId input item.coverage ∧ coverageWithService s item.coverage = some item := by
  rw [activeCoverages, List.mem_filterMap]
  simp only [List.mem_insertionSort, List.mem_filter, Bool.and_eq_true, beq_iff_eq,
    Option.all_eq_true]
  constructor
  · rintro ⟨coverage, ⟨hstored, ⟨htenant, hactive⟩, hservice⟩, hitem⟩
    obtain rfl := (coverageWithService_eq_some_iff.mp hitem).1
    exact ⟨⟨hstored, htenant, hactive, hservice⟩, hitem⟩
  · rintro ⟨hasked, hitem⟩
    exact ⟨_, ⟨hasked.stored, ⟨hasked.tenant, hasked.active⟩, hasked.service⟩, hitem⟩

theorem hasActiveCarrier_iff {s : Store} {item : CoverageWithService}
    (h : coverageWithService s item.coverage = some item) :
    HasActiveCarrier s item.coverage ↔ item.carrier.active = true := by
  obtain ⟨-, hservice, hserviceId, hcarrier, hcarrierId⟩ := coverageWithService_eq_some_iff.mp h
  constructor
  · rintro ⟨service, hmem, hid, carrier, hcarrierMem, hcarrierOf, hactive⟩
    obtain rfl := service_eq_of_id hmem hservice (hid.trans hserviceId.symm)
    obtain rfl := carrier_eq_of_id hcarrierMem hcarrier (hcarrierOf.trans hcarrierId.symm)
    exact hactive
  · exact fun hactive =>
      ⟨item.carrierService, hservice, hserviceId, item.carrier, hcarrier, hcarrierId, hactive⟩

theorem Testable.exists_item {s : Store} (hs : Testable s) {tenantId : Id}
    {input : CreateFreightSimulationDto} {coverage : CarrierCoverage}
    (h : Asked s tenantId input coverage) :
    ∃ item, item.coverage = coverage ∧ coverageWithService s item.coverage = some item := by
  obtain ⟨service, hservice, hid, -, -, carrier, hcarrier, hcarrierId⟩ :=
    hs.services coverage h.stored h.active
  exact ⟨⟨coverage, service, carrier⟩, rfl,
    coverageWithService_eq_some_iff.mpr ⟨rfl, hservice, hid, hcarrier, hcarrierId⟩⟩

section Answer

variable {s : Store} {tie : Id → ℕ} {tenantId : Id} {input : CreateFreightSimulationDto}

/-- What the test finds for a route: the coverages whose ranges take it. -/
theorem mem_matched_iff (hs : Testable s) {item : CoverageWithService} :
    item ∈ (activeCoverages s tie tenantId (truthy input.carrierServiceId)).filter
        (inRanges (coverageTestOf input)) ↔
      Asked s tenantId input item.coverage ∧ WithinRanges input item.coverage ∧
        coverageWithService s item.coverage = some item := by
  rw [List.mem_filter, mem_activeCoverages]
  constructor
  · rintro ⟨⟨hasked, hitem⟩, hranges⟩
    exact ⟨hasked, (inRanges_iff (hs.bounds _ hasked.stored hasked.active)).mp hranges, hitem⟩
  · rintro ⟨hasked, hranges, hitem⟩
    exact ⟨⟨hasked, hitem⟩,
      (inRanges_iff (hs.bounds _ hasked.stored hasked.active)).mpr hranges⟩

theorem exists_matched_iff (hs : Testable s) :
    (∃ item, item ∈ (activeCoverages s tie tenantId (truthy input.carrierServiceId)).filter
        (inRanges (coverageTestOf input))) ↔
      ∃ coverage, Asked s tenantId input coverage ∧ WithinRanges input coverage := by
  constructor
  · rintro ⟨item, hitem⟩
    obtain ⟨hasked, hranges, -⟩ := (mem_matched_iff hs).mp hitem
    exact ⟨item.coverage, hasked, hranges⟩
  · rintro ⟨coverage, hasked, hranges⟩
    obtain ⟨item, rfl, hitem⟩ := hs.exists_item hasked
    exact ⟨item, (mem_matched_iff hs).mpr ⟨hasked, hranges, hitem⟩⟩

theorem exists_listed_iff (hs : Testable s) (tie : Id → ℕ) (tenantId : Id)
    (input : CreateFreightSimulationDto) (carrierServiceId : Id) :
    (∃ found ∈ (((activeCoverages s tie tenantId (truthy input.carrierServiceId)).filter
        (inRanges (coverageTestOf input))).filter fun item => item.carrier.active).map
          coverageMatch, found.carrierServiceId = carrierServiceId) ↔
      ∃ coverage, Asked s tenantId input coverage ∧ WithinRanges input coverage ∧
        HasActiveCarrier s coverage ∧ coverage.carrierServiceId = carrierServiceId := by
  constructor
  · rintro ⟨found, hfound, hid⟩
    obtain ⟨item, hmem, rfl⟩ := List.mem_map.mp hfound
    obtain ⟨hmatched, hactive⟩ := List.mem_filter.mp hmem
    obtain ⟨hasked, hranges, hitem⟩ := (mem_matched_iff hs).mp hmatched
    exact ⟨item.coverage, hasked, hranges, (hasActiveCarrier_iff hitem).mpr hactive, hid⟩
  · rintro ⟨coverage, hasked, hranges, hcarrier, hid⟩
    obtain ⟨item, rfl, hitem⟩ := hs.exists_item hasked
    refine ⟨coverageMatch item, List.mem_map_of_mem (List.mem_filter.mpr ⟨?_, ?_⟩), hid⟩
    · exact (mem_matched_iff hs).mpr ⟨hasked, hranges, hitem⟩
    · exact (hasActiveCarrier_iff hitem).mp hcarrier

/-! ## Services that a quote accepts -/

theorem mem_findServices_iff {P : Platform} {date : Time} {carrierServiceId : Option Id}
    {service : EligibleCarrierService} :
    service ∈ findServices P s tie tenantId carrierServiceId none date ↔
      ∃ row ∈ s.carrierServices.rows, row.status = .active ∧ row.tenantId = tenantId ∧
        (∀ id ∈ carrierServiceId, row.id = id) ∧ ∃ carrier ∈ s.carriers.rows,
          carrier.id = row.carrierId ∧ carrier.active = true ∧
            service = eligibleCarrierService s tie date row carrier := by
  rw [findServices, List.mem_insertionSort, List.mem_filterMap]
  refine exists_congr fun row => and_congr_right fun _ => ?_
  constructor
  · intro h
    split at h
    · next hrow =>
      simp only [Bool.and_eq_true, beq_iff_eq, Option.all_eq_true] at hrow
      obtain ⟨carrier, hcarrier, rfl⟩ := Option.map_eq_some_iff.mp h
      have hfound := List.find?_some hcarrier
      simp only [Option.all_none, Bool.and_true, Bool.and_eq_true, beq_iff_eq] at hfound
      exact ⟨hrow.1.1, hrow.1.2, hrow.2, carrier, List.mem_of_find?_eq_some hcarrier, hfound.1,
        hfound.2, rfl⟩
    · cases h
  · rintro ⟨hactive, htenant, hid, carrier, hmem, hcarrierId, hcarrierActive, rfl⟩
    have hfind : (s.carriers.rows.find? fun other => other.id == row.carrierId &&
        other.active && (none : Option Id).all fun id => other.id == id) = some carrier :=
      s.carriers.find?_eq_some_of_key hmem List.mem_cons_self
        (by simp [hcarrierId, hcarrierActive])
        fun other hother => by
          simp only [Option.all_none, Bool.and_true, Bool.and_eq_true, beq_iff_eq] at hother
          simp [hother.1, hcarrierId]
    have hasked : (row.status == .active && row.tenantId == tenantId &&
        carrierServiceId.all fun id => row.id == id) = true := by
      simp only [Bool.and_eq_true, beq_iff_eq, Option.all_eq_true]
      exact ⟨⟨hactive, htenant⟩, hid⟩
    rw [if_pos hasked, hfind]
    rfl

theorem exists_accepted_iff {P : Platform} (hs : Testable s)
    (horigin : HasEightDigits input.origin.postalCode)
    (hdestination : HasEightDigits input.destination.postalCode) (date : Time)
    (carrierServiceId : Id) :
    (∃ service ∈ findServices P s tie tenantId (truthy input.carrierServiceId) none date,
        service.service.id = carrierServiceId ∧
          matchesCoverage P (toAddressDto input.origin) (toAddressDto input.destination)
            service.coverages = .ok true) ↔
      ∃ coverage, Asked s tenantId input coverage ∧ Covers P input coverage ∧
        HasActiveCarrier s coverage ∧ coverage.carrierServiceId = carrierServiceId := by
  have hmatch : ∀ id, matchesCoverage P (toAddressDto input.origin)
      (toAddressDto input.destination) (coveragesOf s tie id) = .ok true ↔
        ∃ coverage ∈ coveragesOf s tie id, Covers P input coverage := by
    intro id
    have hbounds : ∀ coverage ∈ coveragesOf s tie id, HasPostalBounds coverage := by
      intro coverage hcoverage
      obtain ⟨hstored, -, hactive⟩ := mem_coveragesOf.mp hcoverage
      exact (hs.bounds coverage hstored hactive).hasPostalBounds
    obtain ⟨covered, hcovered, hiff⟩ :=
      matchesCoverage_eq (P := P) horigin hdestination hbounds
    rw [hcovered, ← hiff]
    simp
  constructor
  · rintro ⟨service, hservice, hid, haccepts⟩
    obtain ⟨row, hrow, -, htenant, hasked, carrier, hcarrier, hcarrierId, hcarrierActive, rfl⟩ :=
      mem_findServices_iff.mp hservice
    rw [eligibleCarrierService_coverages, hmatch] at haccepts
    obtain ⟨coverage, hmem, hcovers⟩ := haccepts
    obtain ⟨hstored, hof, hactive⟩ := mem_coveragesOf.mp hmem
    obtain ⟨other, hother, hotherId, hotherTenant, -, -⟩ := hs.services coverage hstored hactive
    obtain rfl := service_eq_of_id hother hrow (hotherId.trans hof)
    have hcoverage : Asked s tenantId input coverage :=
      ⟨hstored, hotherTenant.symm.trans htenant, hactive, fun id h => hof.trans (hasked id h)⟩
    exact ⟨coverage, hcoverage, hcovers,
      ⟨other, hrow, hotherId, carrier, hcarrier, hcarrierId, hcarrierActive⟩, hof.trans hid⟩
  · rintro ⟨coverage, hasked, hcovers, ⟨row, hrow, hrowId, carrier, hcarrier, hcarrierId,
      hcarrierActive⟩, hid⟩
    obtain ⟨other, hother, hotherId, hotherTenant, hotherActive, -⟩ :=
      hs.services coverage hasked.stored hasked.active
    obtain rfl := service_eq_of_id hother hrow (hotherId.trans hrowId.symm)
    refine ⟨eligibleCarrierService s tie date other carrier, ?_, hrowId.trans hid, ?_⟩
    · exact mem_findServices_iff.mpr ⟨other, hrow, hotherActive,
        hotherTenant.trans hasked.tenant, fun id h => hrowId.trans (hasked.service id h), carrier,
        hcarrier, hcarrierId, hcarrierActive, rfl⟩
    · rw [eligibleCarrierService_coverages, hmatch]
      exact ⟨coverage, mem_coveragesOf.mpr ⟨hasked.stored, hrowId.symm, hasked.active⟩, hcovers⟩

end Answer

theorem hasActiveCarrier_of_service {s : Store} {coverage other : CarrierCoverage}
    (h : HasActiveCarrier s coverage)
    (hid : other.carrierServiceId = coverage.carrierServiceId) : HasActiveCarrier s other := by
  unfold HasActiveCarrier
  rw [hid]
  exact h

/-- The coverage test agrees with the quotes for a route exactly when neither the states
of the coverages nor inactive carriers make a difference for it. -/
theorem testCoverage_agrees_iff (P : Platform) (tenantId : Id)
    (input : CreateFreightSimulationDto) (ω : ℕ → Input) (s : Store) (hs : Testable s)
    (horigin : HasEightDigits input.origin.postalCode)
    (hdestination : HasEightDigits input.destination.postalCode) (hok : (ω 0).fault = false) :
    ∃ view, (testCoverage tenantId (coverageTestOf input)).run executeCoverageTest ω s =
        (.ok view, s) ∧
      (AgreesWithQuoting P s tenantId input view ↔ Comparable P s tenantId input) := by
  have hanswer : executeCoverageTest (.findCoverages tenantId (truthy input.carrierServiceId))
      (ω 0) s =
        (.ok (activeCoverages s (ω 0).tie tenantId (truthy input.carrierServiceId)), s) := by
    simp [executeCoverageTest, hok]
  refine ⟨_, Program.run_perform_bind_ok hanswer, ?_⟩
  generalize hmatched : (activeCoverages s (ω 0).tie tenantId
    (truthy input.carrierServiceId)).filter (inRanges (coverageTestOf input)) = matched
  have hcovered : decide (0 < matched.length) = true ↔
      ∃ coverage, Asked s tenantId input coverage ∧ WithinRanges input coverage := by
    rw [decide_eq_true_iff, List.length_pos_iff_exists_mem, ← hmatched, exists_matched_iff hs]
  have hlisted := exists_listed_iff hs (ω 0).tie tenantId input
  rw [hmatched] at hlisted
  have hnonempty : (matched.filter fun item => item.carrier.active).map coverageMatch ≠ [] ↔
      ∃ coverage, Asked s tenantId input coverage ∧ WithinRanges input coverage ∧
        HasActiveCarrier s coverage := by
    rw [← List.length_pos_iff, List.length_pos_iff_exists_mem]
    constructor
    · rintro ⟨found, hfound⟩
      obtain ⟨coverage, hasked, hranges, hcarrier, -⟩ := (hlisted _).mp ⟨found, hfound, rfl⟩
      exact ⟨coverage, hasked, hranges, hcarrier⟩
    · rintro ⟨coverage, hasked, hranges, hcarrier⟩
      obtain ⟨found, hfound, -⟩ := (hlisted _).mpr ⟨coverage, hasked, hranges, hcarrier, rfl⟩
      exact ⟨found, hfound⟩
  constructor
  · intro h
    constructor
    · intro coverage hasked hranges hcarrier
      have hfound := (hlisted coverage.carrierServiceId).mpr
        ⟨coverage, hasked, hranges, hcarrier, rfl⟩
      obtain ⟨other, hother, hcovers, -, hid⟩ :=
        (exists_accepted_iff hs horigin hdestination 0 _).mp ((h.listed (fun _ => 0) 0 _).mp hfound)
      exact ⟨other, hother, hid, hcovers⟩
    · intro coverage hasked hranges
      exact hnonempty.mp (h.covered.mp (hcovered.mpr ⟨coverage, hasked, hranges⟩))
  · intro h
    constructor
    · intro tie date carrierServiceId
      refine (hlisted carrierServiceId).trans (Iff.trans ?_
        (exists_accepted_iff hs horigin hdestination date carrierServiceId).symm)
      constructor
      · rintro ⟨coverage, hasked, hranges, hcarrier, rfl⟩
        obtain ⟨other, hother, hid, hcovers⟩ := h.states coverage hasked hranges hcarrier
        exact ⟨other, hother, hcovers, hasActiveCarrier_of_service hcarrier hid, hid⟩
      · rintro ⟨coverage, hasked, hcovers, hcarrier, hid⟩
        exact ⟨coverage, hasked, withinRanges_of_covers hcovers, hcarrier, hid⟩
    · refine hcovered.trans (Iff.trans ?_ hnonempty.symm)
      constructor
      · rintro ⟨coverage, hasked, hranges⟩
        exact h.carriers coverage hasked hranges
      · rintro ⟨coverage, hasked, hranges, -⟩
        exact ⟨coverage, hasked, hranges⟩

/-- One service, covered from this state on, of a carrier that is active or not. -/
def coveredFrom (originState : Option String) (active : Bool) : Store :=
  { oneService with
    carriers := ⟨[⟨"carrier", "tenant", "Transportadora", active⟩], by simp⟩
    carrierCoverages := ⟨[⟨"coverage", "tenant", "service", originState, none, some "01000000",
      none, none, none, .active⟩], by simp⟩ }

theorem eq_of_mem_truthy {text value : String} (h : value ∈ truthy (some text)) : value = text :=
  (Option.some.inj (Option.filter_eq_some_iff.mp h).1).symm

theorem testable_coveredFrom (originState : Option String) (active : Bool) :
    Testable (coveredFrom originState active) := by
  constructor
  · intro coverage hcoverage _
    obtain rfl := List.mem_singleton.mp hcoverage
    exact ⟨_, List.mem_singleton_self _, rfl, rfl, rfl, _, List.mem_singleton_self _, rfl⟩
  · intro coverage hcoverage _ bound hbound value hvalue
    obtain rfl := List.mem_singleton.mp hcoverage
    simp only [List.mem_cons, List.not_mem_nil, or_false] at hbound
    rcases hbound with rfl | rfl | rfl | rfl
    · obtain rfl := eq_of_mem_truthy hvalue
      exact ⟨rfl, rfl⟩
    all_goals cases hvalue

theorem withinRanges_coveredFrom (originState : Option String) (active : Bool) :
    ∃ coverage, Asked (coveredFrom originState active) "tenant" (twoUnits 1) coverage ∧
      WithinRanges (twoUnits 1) coverage ∧ coverage.carrierServiceId = "service" := by
  refine ⟨_, ⟨List.mem_singleton_self _, rfl, rfl, ?_⟩, ⟨⟨?_, ?_⟩, ?_, ?_⟩, rfl⟩
  · intro id hid
    cases hid
  · intro low hlow
    obtain rfl := eq_of_mem_truthy hlow
    decide +kernel
  all_goals
    intro bound hbound
    cases hbound

theorem testCoverage_agrees_from :
    ∃ view, (testCoverage "tenant" (coverageTestOf (twoUnits 1))).run executeCoverageTest
        quoteInputs (coveredFrom (some "SP") true) = (.ok view, coveredFrom (some "SP") true) ∧
      (AgreesWithQuoting plainPlatform (coveredFrom (some "SP") true) "tenant" (twoUnits 1) view ↔
        Comparable plainPlatform (coveredFrom (some "SP") true) "tenant" (twoUnits 1)) :=
  testCoverage_agrees_iff plainPlatform "tenant" (twoUnits 1) quoteInputs
    (coveredFrom (some "SP") true) (testable_coveredFrom (some "SP") true) rfl rfl rfl

/-- A service is listed for a route whose origin is in another state, and a route is
covered by the service of an inactive carrier, which is not listed. -/
theorem testCoverage_and_quotes_differ :
    (∀ originState active, Testable (coveredFrom originState active)) ∧
    (∃ view, (testCoverage "tenant" (coverageTestOf (twoUnits 1))).run executeCoverageTest
        quoteInputs (coveredFrom (some "MG") true) = (.ok view, coveredFrom (some "MG") true) ∧
      ¬AgreesWithQuoting plainPlatform (coveredFrom (some "MG") true) "tenant" (twoUnits 1) view) ∧
    ∃ view, (testCoverage "tenant" (coverageTestOf (twoUnits 1))).run executeCoverageTest
        quoteInputs (coveredFrom none false) = (.ok view, coveredFrom none false) ∧
      ¬AgreesWithQuoting plainPlatform (coveredFrom none false) "tenant" (twoUnits 1) view := by
  refine ⟨testable_coveredFrom, ?_, ?_⟩
  · refine ⟨_, Program.run_perform_bind_ok rfl, fun h => ?_⟩
    obtain ⟨coverage, hasked, hranges, hid⟩ := withinRanges_coveredFrom (some "MG") true
    have hcarrier : HasActiveCarrier (coveredFrom (some "MG") true) coverage :=
      ⟨_, List.mem_singleton_self _, hid.symm, _, List.mem_singleton_self _, rfl, rfl⟩
    have hlisted := (exists_listed_iff (testable_coveredFrom (some "MG") true) (fun _ => 0)
      "tenant" (twoUnits 1) "service").mpr ⟨coverage, hasked, hranges, hcarrier, hid⟩
    obtain ⟨other, hother, hcovers, -, -⟩ := (exists_accepted_iff (testable_coveredFrom (some "MG")
      true) (by rfl) (by rfl) 0 _).mp ((h.listed (fun _ => 0) 0 "service").mp hlisted)
    obtain rfl := List.mem_singleton.mp hother.stored
    have hstate := hcovers.1 "MG" (by simp [truthy])
    revert hstate
    decide +kernel
  · refine ⟨_, Program.run_perform_bind_ok rfl, fun h => ?_⟩
    exact h.covered.mp (by decide +kernel) (by decide +kernel)

end Logistics.RateTables
