import Logistics.Pricing.Breakdown
import Logistics.Quoting.Service

/-!
# The stored quote

The engine prices the request as it was received, while the columns keep
weights to three places, dimensions and values to two and the volume of each
package line to six. Recomputing a quote from its stored rows therefore gives
the stored figures exactly for the requests that fit the columns.
-/

namespace Logistics.Quoting

open Logistics.Library Logistics.Pricing

/-! ## What `create` stores -/

/-- The candidate was priced for this request from rows of the store. -/
structure PricedFrom (s : Store) (input : CreateFreightSimulationDto)
    (item : CandidateOption) : Prop where
  service_mem : item.service.service ∈ s.carrierServices.rows
  range_mem : item.rateRange ∈ s.freightRateRanges.rows
  charges : item.rateTable.charges.Perm (activeCharges s item.rateTable.table.id)
  calculated : ∃ date distanceKm, item.calculated = calculate
    (calculationInput input date distanceKm item.service.service item.rateTable item.rateRange)

theorem mem_of_mem_findServices {P : Platform} {s : Store} {tie : Id → ℕ} {tenantId : Id}
    {carrierServiceId carrierId : Option Id} {date : Time} {service : EligibleCarrierService}
    (h : service ∈ findServices P s tie tenantId carrierServiceId carrierId date) :
    service.service ∈ s.carrierServices.rows ∧
      service.freightRateTables = rateTablesInForce s tie service.service.id date := by
  rw [findServices, List.mem_insertionSort, List.mem_filterMap] at h
  obtain ⟨row, hrow, hselected⟩ := h
  split at hselected
  · obtain ⟨carrier, -, rfl⟩ := Option.map_eq_some_iff.mp hselected
    exact ⟨hrow, rfl⟩
  · cases hselected

theorem eq_of_mem_rateTablesInForce {s : Store} {tie : Id → ℕ} {serviceId : Id} {date : Time}
    {rateTable : EligibleRateTable} (h : rateTable ∈ rateTablesInForce s tie serviceId date) :
    rateTable.charges.Perm (activeCharges s rateTable.table.id) ∧
      ∀ range ∈ rateTable.ranges, range ∈ s.freightRateRanges.rows := by
  rw [rateTablesInForce, List.mem_map] at h
  obtain ⟨table, -, rfl⟩ := h
  refine ⟨List.perm_insertionSort _ _, fun range hrange => ?_⟩
  rw [eligibleRateTable, List.mem_insertionSort] at hrange
  exact List.mem_of_mem_filter hrange

theorem evaluateService_candidate {P : Platform} {input : CreateFreightSimulationDto}
    {date : Time} {distanceKm : Decimal} {service : EligibleCarrierService}
    {item : CandidateOption}
    (h : evaluateService P input date distanceKm service = .ok (.inr item)) :
    item.service = service ∧ service.freightRateTables.head? = some item.rateTable ∧
      item.rateRange ∈ item.rateTable.ranges ∧
      item.calculated = calculate
        (calculationInput input date distanceKm service.service item.rateTable item.rateRange) := by
  unfold evaluateService at h
  obtain ⟨covered, -, h⟩ := Program.except_bind_eq_ok.mp h
  simp only [] at h
  split at h
  · cases h
  · split at h
    · cases h
    · split at h
      · cases h
      · cases htable : service.freightRateTables.head? with
        | none =>
            rw [htable] at h
            cases h
        | some rateTable =>
            simp only [htable] at h
            split at h
            · cases h
            · next rateRange hrange =>
              cases h
              exact ⟨rfl, rfl, List.mem_of_find?_eq_some hrange, rfl⟩

theorem evaluateServices_candidate {P : Platform} {input : CreateFreightSimulationDto}
    {date : Time} {distanceKm : Decimal} {services : List EligibleCarrierService}
    {unavailable : List UnavailableService} {items : List CandidateOption}
    (h : evaluateServices P input date distanceKm services = .ok (unavailable, items)) :
    ∀ item ∈ items, ∃ service ∈ services,
      evaluateService P input date distanceKm service = .ok (.inr item) := by
  induction services generalizing unavailable items with
  | nil =>
      cases h
      intro item hitem
      cases hitem
  | cons service rest ih =>
      obtain ⟨outcome, houtcome, h⟩ := Program.except_bind_eq_ok.mp h
      obtain ⟨⟨unavailable', items'⟩, hrest, h⟩ := Program.except_bind_eq_ok.mp h
      have hold : ∀ item ∈ items', ∃ service' ∈ service :: rest,
          evaluateService P input date distanceKm service' = .ok (.inr item) := by
        intro item hitem
        obtain ⟨service', hservice', heval⟩ := ih hrest item hitem
        exact ⟨service', List.mem_cons_of_mem _ hservice', heval⟩
      cases outcome with
      | inl reason =>
          cases h
          exact hold
      | inr candidate =>
          cases h
          intro item hitem
          rcases List.mem_cons.mp hitem with rfl | hitem
          · exact ⟨service, List.mem_cons_self, houtcome⟩
          · exact hold item hitem

theorem pricedFrom_of_evaluateServices {P : Platform} {s : Store} {tie : Id → ℕ}
    {tenantId : Id} {carrierServiceId carrierId : Option Id}
    {input : CreateFreightSimulationDto} {date : Time} {distanceKm : Decimal}
    {unavailable : List UnavailableService} {items : List CandidateOption}
    (h : evaluateServices P input date distanceKm
      (findServices P s tie tenantId carrierServiceId carrierId date) =
        .ok (unavailable, items)) :
    ∀ item ∈ items, PricedFrom s input item := by
  intro item hitem
  obtain ⟨service, hservice, heval⟩ := evaluateServices_candidate h item hitem
  obtain ⟨hmem, htables⟩ := mem_of_mem_findServices hservice
  obtain ⟨rfl, htable, hrange, hcalculated⟩ := evaluateService_candidate heval
  rw [htables] at htable
  obtain ⟨hcharges, hranges⟩ := eq_of_mem_rateTablesInForce (List.mem_of_mem_head? htable)
  exact ⟨hmem, hranges _ hrange, hcharges, date, distanceKm, hcalculated⟩

theorem candidateOptions_of_simulationData {input : CreateFreightSimulationDto} {date : Time}
    {customer : Option Customer} {distanceKm : Decimal}
    {unavailable : List UnavailableService} {items : List CandidateOption}
    {data : SimulationData}
    (h : simulationData input date customer distanceKm unavailable items = .ok data) :
    data.candidateOptions = items := by
  unfold simulationData at h
  split at h
  · simp only [] at h
    split at h
    · obtain ⟨origin, -, h⟩ := Program.except_bind_eq_ok.mp h
      obtain ⟨destination, -, h⟩ := Program.except_bind_eq_ok.mp h
      cases h
      rfl
    · cases h
  · cases h

/-- The transaction is given the request and candidates priced for it. -/
structure DataFor (s : Store) (input : CreateFreightSimulationDto) (data : SimulationData) :
    Prop where
  packages : data.packages = input.packages
  cargoValue : data.cargoValue = input.cargoValue
  cheapest : data.cheapest ∈ data.candidateOptions
  priced : ∀ item ∈ data.candidateOptions, PricedFrom s input item

theorem dataFor_of_simulationData {s : Store} {input : CreateFreightSimulationDto}
    {date : Time} {customer : Option Customer} {distanceKm : Decimal}
    {unavailable : List UnavailableService} {items : List CandidateOption}
    {data : SimulationData} (hpriced : ∀ item ∈ items, PricedFrom s input item)
    (h : simulationData input date customer distanceKm unavailable items = .ok data) :
    DataFor s input data := by
  unfold simulationData at h
  split at h
  · next first hfirst =>
    simp only [] at h
    split at h
    · next cheapest hcheapest =>
      obtain ⟨origin, -, h⟩ := Program.except_bind_eq_ok.mp h
      obtain ⟨destination, -, h⟩ := Program.except_bind_eq_ok.mp h
      cases h
      exact ⟨rfl, rfl, List.mem_of_find?_eq_some hcheapest, hpriced⟩
    · cases h
  · cases h

/-- The rows of a quote and the rows it is priced from are as before. -/
structure SameQuotes (s s' : Store) : Prop where
  simulations : s'.freightSimulations = s.freightSimulations
  packages : s'.freightSimulationPackages = s.freightSimulationPackages
  options : s'.freightSimulationOptions = s.freightSimulationOptions
  services : s'.carrierServices = s.carrierServices
  ranges : s'.freightRateRanges = s.freightRateRanges
  charges : s'.freightAdditionalCharges = s.freightAdditionalCharges

/-- One quote for the request is stored on top of those of `s`. -/
structure StoresQuote (s : Store) (request : CreateFreightSimulationDto) (s' : Store)
    (P : Platform) (input : Input) (tenantId actorId : Id) (data : SimulationData) : Prop where
  dataFor : DataFor s request data
  whole : ∀ item ∈ data.packages, item.quantity.den = 1
  simulations : s'.freightSimulations.rows =
    s.freightSimulations.rows ++ [simulationRow P s input tenantId actorId data]
  fresh : ∀ row ∈ s.freightSimulations.rows, row.id ≠ input.ids 0
  packages : s'.freightSimulationPackages.rows = s.freightSimulationPackages.rows ++
    data.packages.mapIdx fun n item =>
      packageRow tenantId (input.ids 0) (input.ids (2 * n + 1)) item
  options : s'.freightSimulationOptions.rows = s.freightSimulationOptions.rows ++
    data.candidateOptions.mapIdx fun n item =>
      optionRow data tenantId (input.ids 0) (input.ids (2 * n + 2)) item
  services : s'.carrierServices = s.carrierServices
  ranges : s'.freightRateRanges = s.freightRateRanges
  charges : s'.freightAdditionalCharges = s.freightAdditionalCharges

theorem storeSimulation_cases (P : Platform) (s : Store) (input : Input)
    (tenantId actorId : Id) (request : CreateFreightSimulationDto) (data : SimulationData)
    (hdata : DataFor s request data) :
    (∃ error, storeSimulation P s input tenantId actorId data = (.error error, s)) ∨
      ∃ simulation s', storeSimulation P s input tenantId actorId data = (.ok simulation, s') ∧
        StoresQuote s request s' P input tenantId actorId data := by
  simp only [storeSimulation]
  split
  · exact .inl ⟨_, rfl⟩
  · next hwhole =>
    split
    · exact .inl ⟨_, rfl⟩
    split
    · next simulations packages options hsimulations hpackages hoptions =>
      refine .inr ⟨_, _, rfl, hdata, fun item hitem => ?_, Table.tryInsert_rows hsimulations,
        fun row hrow hid => ?_, Table.tryInsertAll_rows hpackages,
        Table.tryInsertAll_rows hoptions, rfl, rfl, rfl⟩
      · by_contra hne
        exact hwhole (List.any_eq_true.mpr ⟨item, hitem, by simpa using hne⟩)
      · exact Table.fresh_of_tryInsert hsimulations (input.ids 0) (by simp [simulationRow]) row hrow
          (by simp [hid])
    · exact .inl ⟨_, rfl⟩

/-! ## Every run of `create` -/

/-- What a run of `create` has done to the quotes. -/
def Outcome (P : Platform) (s : Store) (tenantId actorId : Id)
    (request : CreateFreightSimulationDto) (s' : Store) : Prop :=
  SameQuotes s s' ∨ ∃ input data stored,
    StoresQuote s request stored P input tenantId actorId data ∧
    SameQuotes stored s'

theorem SameQuotes.trans {s s' s'' : Store} (h : SameQuotes s s') (h' : SameQuotes s' s'') :
    SameQuotes s s'' :=
  ⟨h'.simulations.trans h.simulations, h'.packages.trans h.packages,
    h'.options.trans h.options, h'.services.trans h.services, h'.ranges.trans h.ranges,
    h'.charges.trans h.charges⟩

theorem sameQuotes_refl (s : Store) : SameQuotes s s := ⟨rfl, rfl, rfl, rfl, rfl, rfl⟩

/-- Every call but the transaction. -/
def StoresNoQuote : Command → Prop
  | .storeSimulation .. => False
  | _ => True

theorem sameQuotes_execute (P : Platform) {cmd : Command} (hcmd : StoresNoQuote cmd)
    (input : Input) (s : Store) : SameQuotes s (execute P cmd input s).2 := by
  cases cmd with
  | storeSimulation => exact hcmd.elim
  | now => exact sameQuotes_refl s
  | _ =>
      by_cases hfault : input.fault = true
      · simp only [execute, hfault, if_true]
        exact sameQuotes_refl s
      · simp only [execute, hfault, if_false, Bool.false_eq_true]
        exact ⟨rfl, rfl, rfl, rfl, rfl, rfl⟩

section Create

variable {P : Platform} {s : Store} {tenantId actorId : Id}
  {request : CreateFreightSimulationDto}

/-- Reads and the clock leave the store as it is. -/
def IsRead : Command → Prop
  | .storeSimulation .. | .recordAudit _ | .emitDashboardRefresh .. => False
  | _ => True

theorem execute_read {cmd : Command} (hcmd : IsRead cmd) (input : Input) (s : Store) :
    (execute P cmd input s).2 = s := by
  cases cmd with
  | storeSimulation => exact hcmd.elim
  | recordAudit => exact hcmd.elim
  | emitDashboardRefresh => exact hcmd.elim
  | now => rfl
  | _ => by_cases hfault : input.fault = true <;> simp [execute, hfault]

theorem wp_read_bind {α β : Type} {p : Program quotingInterface α}
    {f : α → Program quotingInterface β} {Q : Except ServiceError β → Store → Prop}
    (hp : p.Issues IsRead)
    (hok : ∀ a, (f a).wp (execute P) (fun _ _ _ => True) (fun _ _ _ => True) Q s)
    (herr : ∀ e, Q (.error e) s) :
    (p >>= f).wp (execute P) (fun _ _ _ => True) (fun _ _ _ => True) Q s := by
  have hread : p.wp (execute P) (fun _ _ _ => True) (fun _ _ _ => True)
      (fun _ s' => s' = s) s := by
    apply Program.wp_of_issues (J := fun s' => s' = s) hp
    · intro cmd hcmd input s' hs' _
      exact ⟨trivial, by rw [execute_read hcmd, hs']⟩
    · rfl
  apply Program.wp_bind hread
  · rintro a _ rfl
    exact hok a
  · rintro e _ rfl
    exact herr e

theorem resolveShipDate_isRead (desiredShipDate : Option String) :
    (resolveShipDate P desiredShipDate).Issues IsRead := by
  unfold resolveShipDate
  split
  · exact Program.Issues.perform trivial
  · exact Program.Issues.ofExcept _

theorem resolveCustomer_isRead (customerId : Option String) :
    (resolveCustomer tenantId customerId).Issues IsRead := by
  unfold resolveCustomer
  split
  · trivial
  · apply Program.Issues.bind (Program.Issues.perform trivial)
    intro customer
    cases customer <;> trivial

theorem execute_findServices {carrierServiceId carrierId : Option Id} {date : Time}
    {input : Input} {services : List EligibleCarrierService}
    (h : (execute P (.findServices tenantId carrierServiceId carrierId date) input s).1 =
      .ok services) :
    services = findServices P s input.tie tenantId carrierServiceId carrierId date := by
  by_cases hfault : input.fault = true
  · simp [execute, hfault] at h
  · simp only [execute, hfault, if_false, Bool.false_eq_true, Except.ok.injEq] at h
    exact h.symm

theorem execute_storeSimulation {data : SimulationData} (hdata : DataFor s request data)
    (input : Input) :
    (∃ error, execute P (.storeSimulation tenantId actorId data) input s = (.error error, s)) ∨
      ∃ simulation stored, execute P (.storeSimulation tenantId actorId data) input s =
        (.ok simulation, stored) ∧
        StoresQuote s request stored P input tenantId actorId data := by
  by_cases hfault : input.fault = true
  · exact .inl ⟨.fault, by simp [execute, hfault]⟩
  · simp only [execute, hfault, if_false, Bool.false_eq_true]
    exact storeSimulation_cases P s input tenantId actorId request data hdata

theorem wp_afterStore {stored : Store} {p : Program quotingInterface SimulationView}
    (hp : p.Issues StoresNoQuote) (hstored : Outcome P s tenantId actorId request stored) :
    p.wp (execute P) (fun _ _ _ => True) (fun _ _ _ => True)
      (fun _ s' => Outcome P s tenantId actorId request s') stored := by
  apply Program.wp_of_issues hp
  · intro cmd hcmd input s' hs' _
    have hsame := sameQuotes_execute P hcmd input s'
    refine ⟨trivial, ?_⟩
    rcases hs' with hs' | ⟨input', data, stored', hquote, hs'⟩
    · exact .inl (hs'.trans hsame)
    · exact .inr ⟨input', data, stored', hquote, hs'.trans hsame⟩
  · exact hstored

theorem create_outcome :
    (create P tenantId actorId request).wp (execute P) (fun _ _ _ => True) (fun _ _ _ => True)
      (fun _ s' => Outcome P s tenantId actorId request s') s := by
  have hnothing : Outcome P s tenantId actorId request s := .inl (sameQuotes_refl s)
  unfold create
  apply wp_read_bind (resolveShipDate_isRead _) _ fun _ => hnothing
  intro date
  apply wp_read_bind (resolveCustomer_isRead _) _ fun _ => hnothing
  intro customer
  apply Program.wp_ofExcept_bind _ fun _ _ => hnothing
  intro distanceKm _
  apply Program.wp_perform_bind
  intro input _
  have hread : IsRead (.findServices tenantId (truthy request.carrierServiceId)
    (truthy request.carrierId) date) := trivial
  rw [execute_read hread]
  refine ⟨trivial, fun services hservices => ?_, fun _ _ => hnothing⟩
  rw [execute_findServices hservices]
  apply Program.wp_ofExcept_bind _ fun _ _ => hnothing
  intro evaluated hevaluated
  apply Program.wp_ofExcept_bind _ fun _ _ => hnothing
  intro data hdata
  have hdataFor := dataFor_of_simulationData
    (pricedFrom_of_evaluateServices hevaluated) hdata
  apply Program.wp_perform_bind
  intro input' _
  rcases execute_storeSimulation hdataFor input' with ⟨error, h⟩ | ⟨simulation, stored, h, hquote⟩
  · rw [h]
    exact ⟨trivial, fun _ hok => (by cases hok), fun _ _ => hnothing⟩
  · rw [h]
    have hstored : Outcome P s tenantId actorId request stored :=
      .inr ⟨input', data, stored, hquote, sameQuotes_refl stored⟩
    refine ⟨trivial, fun _ _ => wp_afterStore ?_ hstored, fun _ _ => hstored⟩
    -- the audit record, the notification and the final read
    apply Program.Issues.bind (Program.Issues.perform trivial)
    intro _
    apply Program.Issues.bind (Program.Issues.perform trivial)
    intro _
    apply Program.Issues.bind (Program.Issues.perform trivial)
    intro record
    cases record <;> trivial

end Create

/-! ## Recomputing a quote from its rows -/

def storedPackages (s : Store) (simulationId : Id) : List FreightSimulationPackage :=
  s.freightSimulationPackages.rows.filter fun row => row.simulationId == simulationId

/-- A stored package as the engine takes it. -/
def storedPackageInput (row : FreightSimulationPackage) : PackageInput where
  heightCm := row.heightCm.val
  lengthCm := row.lengthCm.val
  quantity := row.quantity
  weightKg := row.weightKg.val
  widthCm := row.widthCm.val

/-- The input of the engine as the stored rows give it. -/
def recalculationInput (s : Store) (simulation : FreightSimulation) (service : CarrierService)
    (range : FreightRateRange) (charges : List FreightAdditionalCharge) :
    FreightCalculationInput where
  cargoValue := simulation.cargoValue.val
  charges := charges.map toChargeInput
  cubicFactor := service.cubicFactor.val
  desiredShipDate := simulation.desiredShipDate
  distanceKm := some simulation.distanceKm.val
  minimumValue := service.minimumValue.val
  packages := (storedPackages s simulation.id).map storedPackageInput
  rate := toRateInput range

/-- Weights to the gram. -/
def FitsWeights (request : CreateFreightSimulationDto) : Prop :=
  ∀ item ∈ request.packages, item.weightKg ∈ decimals ℚ 3

/-- Package lines whose volume has at most six places. -/
def FitsVolumes (request : CreateFreightSimulationDto) : Prop :=
  ∀ item ∈ request.packages, (toPackageInput item).volumeM3 ∈ decimals ℚ 6

/-- Dimensions to the hundredth of a centimetre. -/
def FitsDimensions (request : CreateFreightSimulationDto) : Prop :=
  ∀ item ∈ request.packages, item.lengthCm ∈ decimals ℚ 2 ∧ item.widthCm ∈ decimals ℚ 2 ∧
    item.heightCm ∈ decimals ℚ 2

/-- Packages and options belong to stored simulations. -/
def QuotesReferenced (s : Store) : Prop :=
  (∀ row ∈ s.freightSimulationPackages.rows,
    ∃ simulation ∈ s.freightSimulations.rows, simulation.id = row.simulationId) ∧
  ∀ row ∈ s.freightSimulationOptions.rows,
    ∃ simulation ∈ s.freightSimulations.rows, simulation.id = row.simulationId

theorem calculate_totalPrice_congr {a b : FreightCalculationInput}
    (hcargo : a.cargoValue = b.cargoValue) (hcharges : a.charges.Perm b.charges)
    (hfactor : a.cubicFactor = b.cubicFactor) (hminimum : a.minimumValue = b.minimumValue)
    (hpackages : a.packages = b.packages) (hrate : a.rate = b.rate) :
    (calculate a).totalPrice = (calculate b).totalPrice := by
  have hsubtotal : freightSubtotal a = freightSubtotal b := by
    simp only [freightSubtotal, hminimum, hrate, hpackages, hfactor]
  rw [calculate_totalPrice_eq, calculate_totalPrice_eq, hsubtotal, hcargo,
    (hcharges.map _).sum_eq]

section Stored

variable {P : Platform} {s stored : Store} {request : CreateFreightSimulationDto}
  {input : Input} {tenantId actorId : Id} {data : SimulationData}

theorem storedPackages_eq (hs : QuotesReferenced s)
    (h : StoresQuote s request stored P input tenantId actorId data) :
    storedPackages stored (input.ids 0) = request.packages.mapIdx fun n item =>
      packageRow tenantId (input.ids 0) (input.ids (2 * n + 1)) item := by
  have hold : s.freightSimulationPackages.rows.filter
      (fun row => row.simulationId == input.ids 0) = [] := by
    rw [List.filter_eq_nil_iff]
    intro row hrow hid
    obtain ⟨simulation, hsimulation, hsame⟩ := hs.1 row hrow
    exact h.fresh simulation hsimulation (hsame.trans (beq_iff_eq.mp hid))
  rw [storedPackages, h.packages, List.filter_append, hold, List.nil_append, h.dataFor.packages,
    List.filter_eq_self]
  intro row hrow
  obtain ⟨n, hn, rfl⟩ := List.mem_mapIdx.mp hrow
  simp [packageRow]

theorem map_storedPackages (hs : QuotesReferenced s)
    (h : StoresQuote s request stored P input tenantId actorId data) {α : Type}
    (f : FreightSimulationPackage → α) (g : FreightPackageDto → α)
    (hfg : ∀ item ∈ request.packages, ∀ id,
      f (packageRow tenantId (input.ids 0) id item) = g item) :
    (storedPackages stored (input.ids 0)).map f = request.packages.map g := by
  rw [storedPackages_eq hs h]
  apply List.ext_getElem
  · simp
  · intro n hn hn'
    simp only [List.getElem_map, List.getElem_mapIdx]
    exact hfg _ (List.getElem_mem _) _

theorem quantity_eq (h : StoresQuote s request stored P input tenantId actorId data)
    {item : FreightPackageDto} (hitem : item ∈ request.packages) :
    (item.quantity.num : ℚ) = item.quantity :=
  Rat.coe_int_num_of_den_eq_one (h.whole item (h.dataFor.packages.symm ▸ hitem))

theorem sum_storedWeights (hs : QuotesReferenced s)
    (h : StoresQuote s request stored P input tenantId actorId data)
    (hweights : FitsWeights request) :
    ((storedPackages stored (input.ids 0)).map fun row =>
      (row.quantity : ℚ) * row.weightKg.val).sum =
        realWeight (request.packages.map toPackageInput) := by
  rw [map_storedPackages hs h _ fun item => item.weightKg * item.quantity, realWeight,
    List.map_map]
  · rfl
  · intro item hitem id
    rw [packageRow, Fixed.store_of_mem (hweights item hitem), quantity_eq h hitem, mul_comm]

theorem realWeight_mem (h : StoresQuote s request stored P input tenantId actorId data)
    (hweights : FitsWeights request) :
    realWeight (request.packages.map toPackageInput) ∈ decimals ℚ 3 := by
  rw [realWeight, List.map_map]
  apply list_sum_mem
  intro weight hweight
  obtain ⟨item, hitem, rfl⟩ := List.mem_map.mp hweight
  have hquantity : item.quantity ∈ decimals ℚ 0 := by
    rw [← quantity_eq h hitem]
    exact intCast_mem_decimals 0 _
  have hproduct := mul_mem_decimals (hweights item hitem) hquantity
  rw [Nat.add_zero] at hproduct
  exact hproduct

theorem sum_storedVolumes (hs : QuotesReferenced s)
    (h : StoresQuote s request stored P input tenantId actorId data)
    (hvolumes : FitsVolumes request) :
    ((storedPackages stored (input.ids 0)).map fun row => row.volumeM3.val).sum =
      totalVolume (request.packages.map toPackageInput) := by
  rw [map_storedPackages hs h _ fun item => (toPackageInput item).volumeM3, totalVolume,
    List.map_map]
  · rfl
  · intro item hitem id
    have hvolume : (calculatePackageMetrics [toPackageInput item] 1).totalVolumeM3 =
        (toPackageInput item).volumeM3 := by
      rw [calculatePackageMetrics_eq, totalVolume, List.map_singleton, List.sum_singleton]
      exact roundHalfUp_of_mem (hvolumes item hitem)
    rw [packageRow, hvolume, Fixed.store_of_mem (hvolumes item hitem)]

theorem totalVolume_mem (hvolumes : FitsVolumes request) :
    totalVolume (request.packages.map toPackageInput) ∈ decimals ℚ 6 := by
  rw [totalVolume, List.map_map]
  apply list_sum_mem
  intro volume hvolume
  obtain ⟨item, hitem, rfl⟩ := List.mem_map.mp hvolume
  exact hvolumes item hitem

theorem map_storedPackageInput (hs : QuotesReferenced s)
    (h : StoresQuote s request stored P input tenantId actorId data)
    (hweights : FitsWeights request) (hdimensions : FitsDimensions request) :
    (storedPackages stored (input.ids 0)).map storedPackageInput =
      request.packages.map toPackageInput := by
  apply map_storedPackages hs h
  intro item hitem id
  obtain ⟨hlength, hwidth, hheight⟩ := hdimensions item hitem
  simp only [storedPackageInput, packageRow, toPackageInput, quantity_eq h hitem,
    Fixed.store_of_mem (hweights item hitem), Fixed.store_of_mem hlength,
    Fixed.store_of_mem hwidth, Fixed.store_of_mem hheight]

theorem calculated_realWeightKg (h : StoresQuote s request stored P input tenantId actorId data) :
    data.cheapest.calculated.realWeightKg =
      roundHalfUp 3 (realWeight (request.packages.map toPackageInput)) := by
  obtain ⟨date, distanceKm, hcalculated⟩ :=
    (h.dataFor.priced data.cheapest h.dataFor.cheapest).calculated
  rw [hcalculated, calculate_realWeightKg]
  rfl

theorem calculated_totalVolumeM3 (h : StoresQuote s request stored P input tenantId actorId data) :
    data.cheapest.calculated.totalVolumeM3 =
      roundHalfUp 6 (totalVolume (request.packages.map toPackageInput)) := by
  obtain ⟨date, distanceKm, hcalculated⟩ :=
    (h.dataFor.priced data.cheapest h.dataFor.cheapest).calculated
  rw [hcalculated, calculate_totalVolumeM3]
  rfl

theorem exists_candidate_of_option (hs : QuotesReferenced s)
    (h : StoresQuote s request stored P input tenantId actorId data)
    {option : FreightSimulationOption}
    (hoption : option ∈ stored.freightSimulationOptions.rows)
    (hid : option.simulationId = input.ids 0) :
    ∃ item ∈ data.candidateOptions, ∃ id,
      option = optionRow data tenantId (input.ids 0) id item := by
  rw [h.options] at hoption
  rcases List.mem_append.mp hoption with hold | hnew
  · obtain ⟨simulation, hsimulation, hsame⟩ := hs.2 option hold
    exact absurd (hsame.trans hid) (h.fresh simulation hsimulation)
  · obtain ⟨n, hn, rfl⟩ := List.mem_mapIdx.mp hnew
    exact ⟨_, List.getElem_mem hn, _, rfl⟩

/-- The stored price of an option is what the engine makes of the stored rows. -/
theorem recalculation_eq (hs : QuotesReferenced s)
    (h : StoresQuote s request stored P input tenantId actorId data)
    (hweights : FitsWeights request) (hdimensions : FitsDimensions request)
    (hcargo : request.cargoValue ∈ decimals ℚ 2) {item : CandidateOption}
    (hitem : item ∈ data.candidateOptions) (id : Id) {charges : List FreightAdditionalCharge}
    (hcharges : charges.Perm (activeCharges stored item.rateTable.table.id)) :
    let simulation := simulationRow P s input tenantId actorId data
    let option := optionRow data tenantId (input.ids 0) id item
    let calculated := calculate
      (recalculationInput stored simulation item.service.service item.rateRange charges)
    calculated.totalPrice = option.totalPrice.val ∧
      calculated.chargeableWeightKg = option.chargeableWeightKg.val := by
  intro simulation option calculated
  have hpriced := h.dataFor.priced item hitem
  obtain ⟨date, distanceKm, hcalculated⟩ := hpriced.calculated
  have hpackages : (recalculationInput stored simulation item.service.service item.rateRange
      charges).packages = request.packages.map toPackageInput :=
    map_storedPackageInput hs h hweights hdimensions
  have hactive : activeCharges stored item.rateTable.table.id =
      activeCharges s item.rateTable.table.id := by
    rw [activeCharges, h.charges, activeCharges]
  have hallCharges : (charges.map toChargeInput).Perm
      (item.rateTable.charges.map toChargeInput) := by
    apply List.Perm.map
    rw [hactive] at hcharges
    exact hcharges.trans hpriced.charges.symm
  constructor
  · have hprice : calculated.totalPrice = item.calculated.totalPrice := by
      rw [hcalculated]
      apply calculate_totalPrice_congr
      · have hstored : simulation.cargoValue.val = request.cargoValue := by
          simp only [simulation, simulationRow, h.dataFor.cargoValue, money_of_mem hcargo,
            Fixed.store_of_mem hcargo]
        exact hstored
      · exact hallCharges
      · rfl
      · rfl
      · exact hpackages
      · rfl
    have hmem : item.calculated.totalPrice ∈ decimals ℚ 2 := by
      rw [hcalculated]
      exact calculate_totalPrice_mem _
    rw [hprice]
    exact (Fixed.store_of_mem hmem).symm
  · have hweight : calculated.chargeableWeightKg = item.calculated.chargeableWeightKg := by
      rw [hcalculated, calculate_chargeableWeightKg, calculate_chargeableWeightKg, hpackages]
      rfl
    have hmem : item.calculated.chargeableWeightKg ∈ decimals ℚ 3 := by
      rw [hcalculated, calculate_chargeableWeightKg]
      exact roundHalfUp_mem 3 _
    rw [hweight]
    exact (Fixed.store_of_mem hmem).symm

end Stored

/-- A quote that `create` stores for a request is recomputed from its stored rows
as far as the request fits the columns: with weights to the gram the stored
packages add up to the stored real weight; with line volumes of at most six
places they add up to the stored volume; and when weights, dimensions and cargo
value fit their columns, the engine makes the stored price and chargeable weight
of every option from the stored rows and rates. -/
theorem create_matches_stored_rows (P : Platform) (tenantId actorId : Id)
    (request : CreateFreightSimulationDto) (ω : ℕ → Input) (s : Store)
    (hs : QuotesReferenced s) (s' : Store)
    (hs' : s' = ((create P tenantId actorId request).run (execute P) ω s).2)
    (simulation : FreightSimulation) (hstored : simulation ∈ s'.freightSimulations.rows)
    (hnew : simulation ∉ s.freightSimulations.rows) :
    (FitsWeights request →
      ((storedPackages s' simulation.id).map fun row =>
        (row.quantity : ℚ) * row.weightKg.val).sum = simulation.realWeightKg.val) ∧
    (FitsVolumes request →
      ((storedPackages s' simulation.id).map fun row => row.volumeM3.val).sum =
        simulation.totalVolumeM3.val) ∧
    (FitsWeights request → FitsDimensions request → request.cargoValue ∈ decimals ℚ 2 →
      ∀ option ∈ s'.freightSimulationOptions.rows, option.simulationId = simulation.id →
        ∃ service ∈ s'.carrierServices.rows, ∃ range ∈ s'.freightRateRanges.rows,
          service.id = option.carrierServiceId ∧ range.id = option.rateRangeId ∧
          ∀ charges : List FreightAdditionalCharge,
            charges.Perm (activeCharges s' option.rateTableId) →
            let calculated := calculate (recalculationInput s' simulation service range charges)
            calculated.totalPrice = option.totalPrice.val ∧
              calculated.chargeableWeightKg = option.chargeableWeightKg.val) := by
  have houtcome : Outcome P s tenantId actorId request s' := by
    rw [hs']
    exact Program.wp_run create_outcome (Program.along_true _ ω s)
  rcases houtcome with hsame | ⟨input, data, stored, h, hsame⟩
  · rw [hsame.simulations] at hstored
    exact absurd hstored hnew
  · rw [hsame.simulations, h.simulations] at hstored
    rcases List.mem_append.mp hstored with hold | hrow
    · exact absurd hold hnew
    · obtain rfl := List.mem_singleton.mp hrow
      have hpackages : ∀ id, storedPackages s' id = storedPackages stored id := by
        intro id
        rw [storedPackages, hsame.packages, storedPackages]
      refine ⟨fun hweights => ?_, fun hvolumes => ?_, fun hweights hdimensions hcargo => ?_⟩
      · rw [hpackages]
        have hmem := realWeight_mem h hweights
        refine (sum_storedWeights hs h hweights).trans ?_
        simp only [simulationRow, calculated_realWeightKg h, roundHalfUp_of_mem hmem,
          Fixed.store_of_mem hmem]
      · rw [hpackages]
        have hmem := totalVolume_mem hvolumes
        refine (sum_storedVolumes hs h hvolumes).trans ?_
        simp only [simulationRow, calculated_totalVolumeM3 h, roundHalfUp_of_mem hmem,
          Fixed.store_of_mem hmem]
      · intro option hoption hid
        rw [hsame.options] at hoption
        obtain ⟨item, hitem, id, rfl⟩ := exists_candidate_of_option hs h hoption hid
        have hpriced := h.dataFor.priced item hitem
        refine ⟨item.service.service, ?_, item.rateRange, ?_, rfl, rfl, fun charges hcharges => ?_⟩
        · rw [hsame.services, h.services]
          exact hpriced.service_mem
        · rw [hsame.ranges, h.ranges]
          exact hpriced.range_mem
        · have hactive : activeCharges s' item.rateTable.table.id =
              activeCharges stored item.rateTable.table.id := by
            rw [activeCharges, hsame.charges, activeCharges]
          have hrecalculated :=
            recalculation_eq hs h hweights hdimensions hcargo hitem id (hactive ▸ hcharges)
          simp only [recalculationInput, hpackages] at hrecalculated ⊢
          exact hrecalculated

/-- A platform on which no text is a date. -/
def plainPlatform : Platform where
  haversineKm := fun _ _ _ _ => 0
  parseDate := fun _ => none
  isDateString := fun _ => false
  toUpperCase := String.toUpper
  collationLE := fun a b => a ≤ b

def plainAddress (postalCode state : String) : AddressInputDto where
  postalCode := postalCode
  street := "Rua A"
  number := none
  complement := none
  district := none
  city := "Cidade"
  state := state
  country := none
  latitude := none
  longitude := none

/-- Two units of one weight, ten centimetres each way. -/
def twoUnits (weightKg : Decimal) : CreateFreightSimulationDto where
  customerId := none
  carrierId := none
  carrierServiceId := none
  desiredShipDate := none
  cargoValue := 100
  origin := plainAddress "01001000" "SP"
  destination := plainAddress "20010000" "RJ"
  packages := [⟨2, weightKg, 10, 10, 10, none⟩]

/-- One carrier with one service, covered everywhere and rated up to 100 kg. -/
def oneService : Store :=
  { Store.empty with
    carriers := ⟨[⟨"carrier", "tenant", "Transportadora", true⟩], List.nodup_singleton "carrier"⟩
    carrierServices := ⟨[{
      id := "service", tenantId := "tenant", carrierId := "carrier", code := "EXP"
      name := "Expresso", cubicFactor := .store 3 300, minWeightKg := none
      maxWeightKg := none, maxLengthCm := none, maxWidthCm := none, maxHeightCm := none
      minimumValue := .store 2 10, status := .active }], by decide⟩
    carrierCoverages := ⟨[⟨"coverage", "tenant", "service", none, none, none, none, none, none,
      .active⟩], by decide⟩
    freightRateTables := ⟨[⟨"table", "tenant", "service", "Tabela", 1, "BRL", 0, none, .active,
      none, none⟩], by decide⟩
    freightRateRanges := ⟨[{
      id := "range", tenantId := "tenant", rateTableId := "table", minWeightKg := .store 3 0
      maxWeightKg := .store 3 100, basePrice := .store 2 20, pricePerKg := .store 4 3
      excessPricePerKg := none, deadlineDays := 2, priority := 0 }], by decide⟩ }

def quoteInputs (n : ℕ) : Input := ⟨n, fun k => toString k, false, fun _ => 0⟩

/-- The store after the two units were quoted. -/
def quoted (weightKg : Decimal) : Store :=
  ((create plainPlatform "tenant" "ana" (twoUnits weightKg)).run (execute plainPlatform)
    quoteInputs oneService).2

theorem quotesReferenced_oneService : QuotesReferenced oneService :=
  ⟨by simp [oneService, Store.empty, Table.empty], by simp [oneService, Store.empty, Table.empty]⟩

/-- Two units of 1.5 kg are quoted: their stored line adds up to the weight and the volume,
and the stored rows give the price of the option once more. -/
theorem quoted_matches :
    ∃ simulation ∈ (quoted (3 / 2)).freightSimulations.rows,
      ((storedPackages (quoted (3 / 2)) simulation.id).map fun row =>
        (row.quantity : ℚ) * row.weightKg.val).sum = simulation.realWeightKg.val ∧
      ((storedPackages (quoted (3 / 2)) simulation.id).map fun row => row.volumeM3.val).sum =
        simulation.totalVolumeM3.val ∧
      ∃ option ∈ (quoted (3 / 2)).freightSimulationOptions.rows,
        option.simulationId = simulation.id ∧
        ∃ service ∈ (quoted (3 / 2)).carrierServices.rows,
        ∃ range ∈ (quoted (3 / 2)).freightRateRanges.rows,
          (calculate (recalculationInput (quoted (3 / 2)) simulation service range
            (activeCharges (quoted (3 / 2)) option.rateTableId))).totalPrice =
              option.totalPrice.val := by
  have hrow : ∃ simulation ∈ (quoted (3 / 2)).freightSimulations.rows, simulation.id = "0" := by
    decide +kernel
  have hpriced : ∃ option ∈ (quoted (3 / 2)).freightSimulationOptions.rows,
      option.simulationId = "0" := by
    decide +kernel
  obtain ⟨simulation, hstored, hid⟩ := hrow
  obtain ⟨option, hoption, hof⟩ := hpriced
  have hplaces : ∀ places n : ℕ, (n : ℚ) ∈ decimals ℚ places :=
    fun places n => intCast_mem_decimals places n
  have hweights : FitsWeights (twoUnits (3 / 2)) := by
    intro item hitem
    obtain rfl := List.mem_singleton.mp hitem
    exact mem_decimals.mpr ⟨1500, by norm_num⟩
  have hvolumes : FitsVolumes (twoUnits (3 / 2)) := by
    intro item hitem
    obtain rfl := List.mem_singleton.mp hitem
    exact mem_decimals.mpr ⟨2000, by decide +kernel⟩
  have hdimensions : FitsDimensions (twoUnits (3 / 2)) := by
    intro item hitem
    obtain rfl := List.mem_singleton.mp hitem
    exact ⟨hplaces 2 10, hplaces 2 10, hplaces 2 10⟩
  obtain ⟨hweight, hvolume, hprice⟩ := create_matches_stored_rows plainPlatform "tenant" "ana"
    (twoUnits (3 / 2)) quoteInputs oneService quotesReferenced_oneService _ rfl simulation hstored
    (by simp [oneService, Store.empty, Table.empty])
  obtain ⟨service, hservice, range, hrange, -, -, hcalculated⟩ :=
    hprice hweights hdimensions (hplaces 2 100) option hoption (hof.trans hid.symm)
  exact ⟨simulation, hstored, hweight hweights, hvolume hvolumes, option, hoption,
    hof.trans hid.symm, service, hservice, range, hrange, (hcalculated _ (List.Perm.refl _)).1⟩

/-- A weight of 1.0005 kg passes validation and its line is stored with 1.001 kg:
two units add up to 2.002 kg, but the stored real weight is 2.001 kg. -/
theorem quoted_realWeight_ne :
    (twoUnits (10005 / 10000)).isValid plainPlatform = true ∧ QuotesReferenced oneService ∧
      ∃ simulation ∈ (quoted (10005 / 10000)).freightSimulations.rows,
        (∃ option ∈ (quoted (10005 / 10000)).freightSimulationOptions.rows,
          option.simulationId = simulation.id) ∧
        ((storedPackages (quoted (10005 / 10000)) simulation.id).map fun row =>
          (row.quantity : ℚ) * row.weightKg.val).sum ≠ simulation.realWeightKg.val :=
  ⟨by decide +kernel, quotesReferenced_oneService, by decide +kernel⟩

end Logistics.Quoting
