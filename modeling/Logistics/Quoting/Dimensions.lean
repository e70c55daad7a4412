import Logistics.Quoting.Eligibility

/-!
# The dimensions of the packages

Besides its weight limits a service has limits for the length, the width and the
height of a package. `create` does not look at these: it offers every service that
passes its other checks, so the limits are kept exactly when those services have none
that a package exceeds.
-/

namespace Logistics.Quoting

open Logistics.Library Logistics.Pricing

/-- A limit that is set and positive is not exceeded. -/
def WithinLimit (limit : Option (Fixed 2)) (size : Decimal) : Prop :=
  ∀ bound ∈ limit, 0 < bound.val → size ≤ bound.val

instance (limit : Option (Fixed 2)) (size : Decimal) : Decidable (WithinLimit limit size) := by
  unfold WithinLimit
  infer_instance

/-- No package exceeds a limit of the service. -/
structure WithinDimensions (input : CreateFreightSimulationDto) (service : CarrierService) :
    Prop where
  length : ∀ item ∈ input.packages, WithinLimit service.maxLengthCm item.lengthCm
  width : ∀ item ∈ input.packages, WithinLimit service.maxWidthCm item.widthCm
  height : ∀ item ∈ input.packages, WithinLimit service.maxHeightCm item.heightCm

instance (input : CreateFreightSimulationDto) (service : CarrierService) :
    Decidable (WithinDimensions input service) :=
  decidable_of_iff (_ ∧ _ ∧ _)
    ⟨fun h => ⟨h.1, h.2.1, h.2.2⟩, fun h => ⟨h.length, h.width, h.height⟩⟩

/-- The services that are priced are those that pass the checks. -/
theorem exists_candidate_iff {P : Platform} {input : CreateFreightSimulationDto} {date : Time}
    {distanceKm : Decimal} {services : List EligibleCarrierService}
    {evaluated : List UnavailableService × List CandidateOption}
    (h : evaluateServices P input date distanceKm services = .ok evaluated)
    (service : EligibleCarrierService) :
    (∃ item ∈ evaluated.2, item.service = service) ↔
      service ∈ services ∧ PassesChecks P input service := by
  induction services generalizing evaluated with
  | nil =>
      cases h
      simp
  | cons first rest ih =>
      rw [evaluateServices] at h
      obtain ⟨outcome, houtcome, h⟩ := Program.except_bind_eq_ok.mp h
      obtain ⟨later, hlater, h⟩ := Program.except_bind_eq_ok.mp h
      have hrest := ih hlater
      have hcovered : ∃ covered, matchesCoverage P (toAddressDto input.origin)
          (toAddressDto input.destination) first.coverages = .ok covered := by
        obtain ⟨covered, hcovered, -⟩ := Program.except_bind_eq_ok.mp houtcome
        exact ⟨covered, hcovered⟩
      obtain ⟨covered, hcovered⟩ := hcovered
      rcases evaluateService_cases P date distanceKm hcovered with
        ⟨hpasses, item, hitem⟩ | ⟨hfails, reason, hreason⟩
      · obtain rfl := Except.ok.inj (houtcome.symm.trans hitem)
        cases h
        have hservice := (evaluateService_candidate hitem).1
        change (∃ other ∈ item :: later.2, other.service = service) ↔ _
        rw [List.exists_mem_cons_iff, hservice, hrest, List.mem_cons]
        constructor
        · rintro (rfl | ⟨hmem, hservice⟩)
          · exact ⟨.inl rfl, hpasses⟩
          · exact ⟨.inr hmem, hservice⟩
        · rintro ⟨rfl | hmem, hservice⟩
          · exact .inl rfl
          · exact .inr ⟨hmem, hservice⟩
      · obtain rfl := Except.ok.inj (houtcome.symm.trans hreason)
        cases h
        simp only [hrest, List.mem_cons]
        constructor
        · rintro ⟨hmem, hservice⟩
          exact ⟨.inr hmem, hservice⟩
        · rintro ⟨rfl | hmem, hservice⟩
          · exact absurd hservice hfails
          · exact ⟨hmem, hservice⟩

/-- A program that stores options of this kind, or nothing. -/
def StoresOptions (C : List CandidateOption → Prop) :
    Program quotingInterface SimulationView → Prop
  | .throw _ => True
  | .call (Command.storeSimulation _ _ data) _ => C data.candidateOptions
  | _ => False

/-- What `create` stores when the query has answered with these services. -/
def AfterServices (C : List EligibleCarrierService → List CandidateOption → Prop) (c : Command)
    (k : Response quotingInterface c → Program quotingInterface SimulationView) : Prop :=
  match c, k with
  | .findServices .., k => ∀ services, StoresOptions (C services) (k (.ok services))
  | _, _ => True

/-- Whatever the query of services answers, the options that are stored keep the limits
of their services exactly when every service that passes the checks has limits that no
package exceeds. -/
theorem create_withinDimensions_iff (P : Platform) (tenantId actorId : Id)
    (input : CreateFreightSimulationDto) :
    (create P tenantId actorId input).Throughout (AfterServices fun services options =>
      (∀ item ∈ options, WithinDimensions input item.service.service) ↔
        ∀ service ∈ services, PassesChecks P input service →
          WithinDimensions input service.service) := by
  apply create_throughout
  · intro c k hother
    cases c <;> trivial
  · intro serviceId carrierId date customer distanceKm k hk services
    rw [hk]
    rcases quoteServices_cases P tenantId actorId input date customer distanceKm services with
      ⟨e, hquote, -⟩ | ⟨evaluated, data, next, hevaluated, hdata, hquote⟩
    · rw [hquote]
      trivial
    · have hcandidate := exists_candidate_iff hevaluated
      rw [hquote, StoresOptions, candidateOptions_of_simulationData hdata]
      constructor
      · intro h service hmem hpasses
        obtain ⟨item, hitem, rfl⟩ := (hcandidate service).mpr ⟨hmem, hpasses⟩
        exact h item hitem
      · intro h item hitem
        obtain ⟨hmem, hpasses⟩ := (hcandidate item.service).mp ⟨item, hitem, rfl⟩
        exact h item.service hmem hpasses

/-- The one service, for packages of at most five centimetres. -/
def shortService : Store :=
  { oneService with
    carrierServices := ⟨[{
      id := "service", tenantId := "tenant", carrierId := "carrier", code := "EXP"
      name := "Expresso", cubicFactor := .store 3 300, minWeightKg := none
      maxWeightKg := none, maxLengthCm := some (.store 2 5), maxWidthCm := none
      maxHeightCm := none, minimumValue := .store 2 10, status := .active }], by decide⟩ }

/-- It is offered for packages of ten centimetres. -/
theorem shortService_is_offered :
    (twoUnits (3 / 2)).isValid plainPlatform = true ∧
      ∃ option ∈ ((create plainPlatform "tenant" "ana" (twoUnits (3 / 2))).run
          (execute plainPlatform) quoteInputs shortService).2.freightSimulationOptions.rows,
        ∃ service ∈ shortService.carrierServices.rows, service.id = option.carrierServiceId ∧
          ¬WithinDimensions (twoUnits (3 / 2)) service := by
  decide +kernel

end Logistics.Quoting
