import Logistics.Quoting.Eligibility
import Logistics.Quoting.Listing
import Logistics.Shipping.SingleSelection

/-!
# Flags and headers of quotes

A quote is ranked over the priced candidates before the transaction: the lowest
price and the shortest deadline flag the options, and the first candidate with
the lowest price fills the header. Nothing changes these columns afterwards, so
in every later state the flags are those of the minima, and the list shows the
price of the header.
-/

namespace Logistics.Shipping

open Logistics.Library Logistics.Pricing Logistics.Quoting

/-- The flags mark the minima, and the header is that of one cheapest option. -/
structure Ranked (options : List FreightSimulationOption) (simulation : FreightSimulation) :
    Prop where
  cheapest : ∀ option ∈ options, option.cheapest = true ↔
    ∀ other ∈ options, option.totalPrice.val ≤ other.totalPrice.val
  fastest : ∀ option ∈ options, option.fastest = true ↔
    ∀ other ∈ options, option.deadlineDays ≤ other.deadlineDays
  exists_fastest : ∃ option ∈ options, option.fastest = true
  header : ∃ option ∈ options, option.cheapest = true ∧
    simulation.estimatedPrice = option.totalPrice ∧
    simulation.estimatedDeadlineDays = option.deadlineDays ∧
    simulation.carrierId = truthy (some option.carrierId) ∧
    simulation.realWeightKg = option.realWeightKg ∧
    simulation.cubicWeightKg = option.cubicWeightKg ∧
    simulation.chargeableWeightKg = option.chargeableWeightKg

/-! ## The candidates -/

/-- What the transaction is given is ranked. -/
structure RankedData (data : SimulationData) : Prop where
  cheapest_mem : data.cheapest ∈ data.candidateOptions
  cheapest_price : data.cheapest.calculated.totalPrice = data.cheapestPrice
  price_le : ∀ item ∈ data.candidateOptions, data.cheapestPrice ≤ item.calculated.totalPrice
  deadline_le : ∀ item ∈ data.candidateOptions,
    data.fastestDeadline ≤ item.calculated.deadlineDays
  fastest : ∃ item ∈ data.candidateOptions, item.calculated.deadlineDays = data.fastestDeadline
  /-- Prices fit their column. -/
  price_mem : ∀ item ∈ data.candidateOptions, item.calculated.totalPrice ∈ decimals ℚ 2

theorem exists_fastest {first : CandidateOption} {options : List CandidateOption}
    (h : options.head? = some first) :
    ∃ item ∈ options, item.calculated.deadlineDays = fastestDeadline first options := by
  rcases foldl_min_mem (fun item => item.calculated.deadlineDays) options
    first.calculated.deadlineDays with hstart | hitem
  · exact ⟨first, List.mem_of_mem_head? h, hstart.symm⟩
  · exact hitem

theorem rankedData_of_simulationData {input : CreateFreightSimulationDto} {date : Time}
    {customer : Option Customer} {distanceKm : Decimal} {unavailable : List UnavailableService}
    {items : List CandidateOption} {data : SimulationData}
    (hprices : ∀ item ∈ items, item.calculated.totalPrice ∈ decimals ℚ 2)
    (h : simulationData input date customer distanceKm unavailable items = .ok data) :
    RankedData data := by
  unfold simulationData at h
  split at h
  · next first hfirst =>
    simp only [] at h
    split at h
    · next cheapest hcheapest =>
      obtain ⟨origin, -, h⟩ := Program.except_bind_eq_ok.mp h
      obtain ⟨destination, -, h⟩ := Program.except_bind_eq_ok.mp h
      cases h
      constructor
      · exact List.mem_of_find?_eq_some hcheapest
      · simpa using List.find?_some hcheapest
      · exact (foldl_min_le (fun item => item.calculated.totalPrice) items _).2
      · exact (foldl_min_le (fun item => item.calculated.deadlineDays) items _).2
      · exact exists_fastest hfirst
      · exact hprices
    · cases h
  · cases h

/-- A quote is stored only when it is ranked. -/
def StoresRanked : freightInterface.Command → Prop
  | .inl (.storeSimulation _ _ data) => RankedData data
  | _ => True

theorem price_mem_of_evaluateServices {P : Platform} {input : CreateFreightSimulationDto}
    {date : Time} {distanceKm : Decimal} {services : List EligibleCarrierService}
    {evaluated : List UnavailableService × List CandidateOption}
    (h : evaluateServices P input date distanceKm services = .ok evaluated) :
    ∀ item ∈ evaluated.2, item.calculated.totalPrice ∈ decimals ℚ 2 := by
  intro item hitem
  obtain ⟨service, -, heval⟩ := evaluateServices_candidate h item hitem
  obtain ⟨-, -, -, hcalculated⟩ := evaluateService_candidate heval
  rw [hcalculated]
  exact calculate_totalPrice_mem _

theorem create_storesRanked (P : Platform) (tenantId actorId : Id)
    (input : CreateFreightSimulationDto) :
    (Quoting.create P tenantId actorId input).Issues fun c => StoresRanked (.inl c) := by
  unfold Quoting.create
  apply Program.Issues.bind
  · unfold resolveShipDate
    split
    · exact Program.Issues.perform trivial
    · exact Program.Issues.ofExcept _
  intro date
  apply Program.Issues.bind
  · unfold resolveCustomer
    split
    · trivial
    · apply Program.Issues.bind (Program.Issues.perform trivial)
      intro customer
      cases customer <;> trivial
  intro customer
  rw [Program.issues_ofExcept_bind_iff]
  intro distanceKm _
  apply Program.Issues.bind (Program.Issues.perform trivial)
  intro services
  rw [Program.issues_ofExcept_bind_iff]
  intro evaluated hevaluated
  rw [Program.issues_ofExcept_bind_iff]
  intro data hdata
  have hranked : RankedData data :=
    rankedData_of_simulationData (price_mem_of_evaluateServices hevaluated) hdata
  apply Program.Issues.bind (Program.Issues.perform hranked)
  intro simulation
  apply Program.Issues.bind (Program.Issues.perform trivial)
  intro _
  apply Program.Issues.bind (Program.Issues.perform trivial)
  intro _
  apply Program.Issues.bind (Program.Issues.perform trivial)
  intro record
  cases record <;> trivial

theorem handle_storesRanked (P : Platform) (r : Request) :
    (handle P r).Issues StoresRanked := by
  have hother : (∀ tenantId actorId input, r ≠ .create tenantId actorId input) →
      (handle P r).Issues StoresRanked := by
    intro hr
    have hobeys : (handle P r).Obeys (fun _ c => StoresRanked c) (Answered r) [] := by
      apply (handle_obeys P r).mono _ fun _ _ hanswered => hanswered
      intro h c hc
      rcases c with c | c
      · cases c with
        | storeSimulation tenantId actorId data =>
            obtain ⟨tenantId', actorId', input, hcreate⟩ := hc
            exact absurd hcreate (hr tenantId' actorId' input)
        | _ => trivial
      · trivial
    exact hobeys.issues
  cases r with
  | create tenantId actorId input =>
      change (Reply.simulation <$> (Quoting.create P tenantId actorId input).lift).Issues _
      rw [Program.issues_map_iff]
      apply (Program.issues_lift (create_storesRanked P tenantId actorId input)).mono
      rintro _ ⟨c, rfl, hc⟩
      exact hc
  | selectOption => exact hother fun _ _ _ h => by cases h
  | createShipment => exact hother fun _ _ _ h => by cases h

/-! ## The stored options -/

/-- The columns of ranked candidates are ranked. -/
theorem ranked_optionRows {data : SimulationData} (hdata : RankedData data) (P : Platform)
    (s : Store) (input : Input) (tenantId actorId simulationId : Id) (ids : ℕ → Id) :
    Ranked (data.candidateOptions.mapIdx fun n item =>
        optionRow data tenantId simulationId (ids n) item)
      (simulationRow P s input tenantId actorId data) := by
  have hrow : ∀ option ∈ data.candidateOptions.mapIdx fun n item =>
      optionRow data tenantId simulationId (ids n) item, ∃ item ∈ data.candidateOptions,
        ∃ id, option = optionRow data tenantId simulationId id item := by
    intro option hoption
    obtain ⟨n, hn, rfl⟩ := List.mem_mapIdx.mp hoption
    exact ⟨_, List.getElem_mem hn, _, rfl⟩
  have hstored : ∀ item ∈ data.candidateOptions, ∃ id,
      optionRow data tenantId simulationId id item ∈ data.candidateOptions.mapIdx fun n item =>
        optionRow data tenantId simulationId (ids n) item := by
    intro item hitem
    obtain ⟨n, hn, rfl⟩ := List.mem_iff_getElem.mp hitem
    exact ⟨ids n, List.mem_mapIdx.mpr ⟨n, hn, rfl⟩⟩
  have hprice : ∀ item ∈ data.candidateOptions, ∀ id,
      (optionRow data tenantId simulationId id item).totalPrice.val =
        item.calculated.totalPrice := fun item hitem id =>
    Fixed.store_of_mem (hdata.price_mem item hitem)
  obtain ⟨cheapestId, hcheapest⟩ := hstored data.cheapest hdata.cheapest_mem
  obtain ⟨fastest, hfastest, hdeadline⟩ := hdata.fastest
  obtain ⟨fastestId, hfastestRow⟩ := hstored fastest hfastest
  constructor
  · intro option hoption
    obtain ⟨item, hitem, id, rfl⟩ := hrow option hoption
    rw [hprice item hitem]
    constructor
    · intro hflag other hother
      obtain ⟨otherItem, hotherItem, otherId, rfl⟩ := hrow other hother
      rw [hprice otherItem hotherItem, of_decide_eq_true hflag]
      exact hdata.price_le otherItem hotherItem
    · intro hlowest
      have hle := hlowest _ hcheapest
      rw [hprice data.cheapest hdata.cheapest_mem, hdata.cheapest_price] at hle
      exact decide_eq_true (le_antisymm hle (hdata.price_le item hitem))
  · intro option hoption
    obtain ⟨item, hitem, id, rfl⟩ := hrow option hoption
    constructor
    · intro hflag other hother
      obtain ⟨otherItem, hotherItem, otherId, rfl⟩ := hrow other hother
      have hflagged : item.calculated.deadlineDays = data.fastestDeadline :=
        of_decide_eq_true hflag
      change item.calculated.deadlineDays ≤ otherItem.calculated.deadlineDays
      rw [hflagged]
      exact hdata.deadline_le otherItem hotherItem
    · intro hlowest
      have hle : item.calculated.deadlineDays ≤ fastest.calculated.deadlineDays :=
        hlowest _ hfastestRow
      rw [hdeadline] at hle
      exact decide_eq_true (le_antisymm hle (hdata.deadline_le item hitem))
  · exact ⟨_, hfastestRow, decide_eq_true hdeadline⟩
  · exact ⟨_, hcheapest, decide_eq_true hdata.cheapest_price, rfl, rfl, rfl, rfl, rfl, rfl⟩

theorem Ranked.map {options : List FreightSimulationOption} {simulation : FreightSimulation}
    (h : Ranked options simulation) {f : FreightSimulationOption → FreightSimulationOption}
    (hf : ∀ row, SameOption (f row) row) : Ranked (options.map f) simulation := by
  have hprice : ∀ row, (f row).totalPrice = row.totalPrice := fun row =>
    (hf row).field_eq fun _ => rfl
  have hdeadline : ∀ row, (f row).deadlineDays = row.deadlineDays := fun row =>
    (hf row).field_eq fun _ => rfl
  have hcheapest : ∀ row, (f row).cheapest = row.cheapest := fun row =>
    (hf row).field_eq fun _ => rfl
  have hfastest : ∀ row, (f row).fastest = row.fastest := fun row =>
    (hf row).field_eq fun _ => rfl
  constructor
  · simpa only [List.forall_mem_map, hcheapest, hprice] using h.cheapest
  · simpa only [List.forall_mem_map, hfastest, hdeadline] using h.fastest
  · obtain ⟨option, hoption, hflag⟩ := h.exists_fastest
    exact ⟨f option, List.mem_map_of_mem hoption, (hfastest option).trans hflag⟩
  · obtain ⟨option, hoption, hflag, hfields⟩ := h.header
    refine ⟨f option, List.mem_map_of_mem hoption, (hcheapest option).trans hflag, ?_⟩
    rw [hprice, hdeadline,
      (hf option).field_eq (f := FreightSimulationOption.carrierId) fun _ => rfl,
      (hf option).field_eq (f := FreightSimulationOption.realWeightKg) fun _ => rfl,
      (hf option).field_eq (f := FreightSimulationOption.cubicWeightKg) fun _ => rfl,
      (hf option).field_eq (f := FreightSimulationOption.chargeableWeightKg) fun _ => rfl]
    exact hfields

/-! ## Runs -/

/-- Options belong to stored simulations, and those stored since `base` are
ranked. -/
structure RankedSince (base s : Store) : Prop where
  referenced : ∀ row ∈ s.freightSimulationOptions.rows,
    ∃ simulation ∈ s.freightSimulations.rows, simulation.id = row.simulationId
  ranked : ∀ simulation ∈ s.freightSimulations.rows,
    simulation ∉ base.freightSimulations.rows →
      Ranked (optionsOf s simulation.id) simulation

theorem storeSimulation_options (P : Platform) (s : Store) (input : Input)
    (tenantId actorId : Id) (data : SimulationData) :
    (storeSimulation P s input tenantId actorId data).2 = s ∨
      (storeSimulation P s input tenantId actorId data).2.freightSimulationOptions.rows =
        s.freightSimulationOptions.rows ++ data.candidateOptions.mapIdx fun n item =>
          optionRow data tenantId (input.ids 0) (input.ids (2 * n + 2)) item := by
  unfold storeSimulation
  dsimp only
  split
  · exact .inl rfl
  split
  · exact .inl rfl
  · split
    · next simulations packages options _ _ hoptions =>
      exact .inr (Table.tryInsertAll_rows hoptions)
    · exact .inl rfl

theorem Quoted.optionsOf_new {P : Platform} {s : Store} {input : Input} {tenantId actorId : Id}
    {data : SimulationData}
    (hreferenced : ∀ row ∈ s.freightSimulationOptions.rows,
      ∃ simulation ∈ s.freightSimulations.rows, simulation.id = row.simulationId)
    (h : Quoted s (execute P (.inl (.storeSimulation tenantId actorId data)) input s).2
      (simulationRow P s input tenantId actorId data)) :
    optionsOf (execute P (.inl (.storeSimulation tenantId actorId data)) input s).2
        (input.ids 0) =
      data.candidateOptions.mapIdx fun n item =>
        optionRow data tenantId (input.ids 0) (input.ids (2 * n + 2)) item := by
  have hgrown := h.freightSimulations
  by_cases hf : input.fault = true
  · have hrun : (execute P (.inl (.storeSimulation tenantId actorId data)) input s).2 = s := by
      simp [execute, Backend.extend, Quoting.execute, hf]
    rw [hrun] at hgrown
    simp at hgrown
  · have hrun : (execute P (.inl (.storeSimulation tenantId actorId data)) input s).2 =
        (storeSimulation P s input tenantId actorId data).2 := by
      simp [execute, Backend.extend, Quoting.execute, hf]
    rcases storeSimulation_options P s input tenantId actorId data with hsame | hoptions
    · rw [hrun, hsame] at hgrown
      simp at hgrown
    · rw [hrun, optionsOf, hoptions]
      apply filter_append_of_true
      · intro row hrow
        obtain ⟨simulation, hsimulation, hid⟩ := hreferenced row hrow
        have hfresh : simulation.id ≠ input.ids 0 := h.fresh simulation hsimulation
        rw [hid] at hfresh
        simpa using hfresh
      · intro row hrow
        obtain ⟨n, hn, rfl⟩ := List.mem_mapIdx.mp hrow
        exact beq_self_eq_true _

theorem optionsOf_congr {s s' : Store}
    (h : s'.freightSimulationOptions = s.freightSimulationOptions) (simulationId : Id) :
    optionsOf s' simulationId = optionsOf s simulationId := by
  rw [optionsOf, optionsOf, h]

theorem Quoted.optionsOf_old {s s' : Store} {simulation new : FreightSimulation}
    (hsimulation : simulation ∈ s.freightSimulations.rows) (h : Quoted s s' new) :
    optionsOf s' simulation.id = optionsOf s simulation.id := by
  obtain ⟨rows, hrows, hnew⟩ := h.options
  rw [optionsOf, hrows]
  apply filter_append_of_false
  intro row hrow
  rw [(hnew row hrow).1]
  exact beq_eq_false_iff_ne.mpr (h.fresh simulation hsimulation).symm

theorem Reselected.optionsOf {s s' : Store} {now : Time} {simulationId tenantId optionId : Id}
    (h : Reselected s s' now simulationId tenantId optionId) (id : Id) :
    optionsOf s' id =
      (optionsOf s id).map (reselect now simulationId tenantId optionId) := by
  rw [Shipping.optionsOf, Shipping.optionsOf, h.options, List.filter_map]
  congr 1
  apply List.filter_congr
  intro row _
  rw [Function.comp_apply, reselect_simulationId]

theorem rankedSince_execute (P : Platform) {base s : Store} (c : freightInterface.Command)
    (input : Input) (hc : StoresRanked c) (hs : RankedSince base s) :
    RankedSince base (execute P c input s).2 := by
  obtain ⟨hsame, -⟩ | ⟨tenantId, actorId, data, rfl, hquoted⟩ | ⟨_, _, _, -, -, hselected⟩ |
    ⟨_, _, _, _, -, -, hshipped⟩ := execute_cases P c input s
  · constructor
    · rw [hsame.freightSimulationOptions, hsame.freightSimulations]
      exact hs.referenced
    · intro simulation hsimulation hnew
      rw [hsame.freightSimulations] at hsimulation
      rw [optionsOf_congr hsame.freightSimulationOptions]
      exact hs.ranked simulation hsimulation hnew
  · obtain ⟨rows, hrows, hof⟩ := hquoted.options
    constructor
    · rw [hrows, hquoted.freightSimulations]
      intro row hrow
      rcases List.mem_append.mp hrow with hold | hnew
      · obtain ⟨simulation, hsimulation, hid⟩ := hs.referenced row hold
        exact ⟨simulation, List.mem_append_left _ hsimulation, hid⟩
      · exact ⟨_, List.mem_append_right _ List.mem_cons_self, (hof row hnew).1.symm⟩
    · rw [hquoted.freightSimulations]
      intro simulation hsimulation hnew
      rcases List.mem_append.mp hsimulation with hold | hadded
      · rw [hquoted.optionsOf_old hold]
        exact hs.ranked simulation hold hnew
      · obtain rfl := List.mem_singleton.mp hadded
        change Ranked (optionsOf _ (input.ids 0)) _
        rw [hquoted.optionsOf_new hs.referenced]
        exact ranked_optionRows hc P s input tenantId actorId (input.ids 0)
          fun n => input.ids (2 * n + 2)
  · constructor
    · rw [hselected.options, hselected.freightSimulations]
      intro row hrow
      obtain ⟨old, hold, rfl⟩ := List.mem_map.mp hrow
      rw [reselect_simulationId]
      exact hs.referenced old hold
    · rw [hselected.freightSimulations]
      intro simulation hsimulation hnew
      rw [hselected.optionsOf]
      exact (hs.ranked simulation hsimulation hnew).map fun row => sameOption_reselect ..
  · constructor
    · rw [hshipped.options, hshipped.freightSimulations]
      exact hs.referenced
    · rw [hshipped.freightSimulations]
      intro simulation hsimulation hnew
      rw [optionsOf_congr hshipped.options]
      exact hs.ranked simulation hsimulation hnew

theorem rankedSince_run (P : Platform) {s : Store}
    (hs : ∀ row ∈ s.freightSimulationOptions.rows,
      ∃ simulation ∈ s.freightSimulations.rows, simulation.id = row.simulationId)
    (acts : List FreightAction) :
    RankedSince s ((freightSystem P).runActions (Config.initial s) acts).store := by
  have hstores := (freightSystem P).along_issuing acts s fun r _ => handle_storesRanked P r
  apply (freightSystem P).store_run (J := RankedSince s) _ acts _ _ hstores
  · intro s' cmd input hs' hcmd
    exact rankedSince_execute P cmd input hcmd hs'
  · exact ⟨hs, fun simulation hsimulation hnew => absurd hsimulation hnew⟩

/-! ## The list -/

/-- The list shows the price of the header. -/
theorem Ranked.lowestPrice {P : Platform} {s s' : Store} {simulation : FreightSimulation}
    (hsimulation : simulation ∈ s.freightSimulations.rows)
    (h : Ranked (optionsOf s simulation.id) simulation) {tenantId : Id}
    {query : ListFreightSimulationsDto} {ω : ℕ → Input}
    {page : PaginatedResult FreightSimulationListItemDto}
    (hpage : (Quoting.list P tenantId query).run (executeList P) ω s = (.ok page, s'))
    {item : FreightSimulationListItemDto} (hitem : item ∈ page.data)
    (hid : item.id = simulation.id) : item.lowestPrice = some simulation.estimatedPrice := by
  obtain ⟨listed, hlisted, rfl⟩ := simulation_of_item hpage hitem
  obtain rfl : listed = simulation :=
    s.freightSimulations.eq_of_key hlisted hsimulation List.mem_cons_self
      (by rw [show listed.id = simulation.id from hid]; exact List.mem_cons_self)
  obtain ⟨option, hoption, hflag, hprice, -⟩ := h.header
  have hlowest := (h.cheapest option hoption).mp hflag
  have hmem : ∀ row, row ∈ optionsOf s listed.id ↔
      row ∈ s.freightSimulationOptions.rows ∧ row.simulationId = listed.id := by
    intro row
    rw [optionsOf, List.mem_filter, beq_iff_eq]
  obtain ⟨hstored, hof⟩ := (hmem option).mp hoption
  rw [hprice]
  apply head?_sortedOptions hstored hof
  intro other hother hotherOf
  exact hlowest other ((hmem other).mpr ⟨hother, hotherOf⟩)

/-- However the requests of users run at once, and whatever happens to a quote
afterwards: its cheapest and fastest options are exactly those with the lowest
price and the shortest deadline, there is one of each, one cheapest option fills
the header, and every page of the list shows the price of the header. -/
theorem quotes_are_ranked (P : Platform) (s : Store) (hs : QuotesReferenced s)
    (acts : List FreightAction) (s' : Store)
    (hs' : s' = ((freightSystem P).runActions (Config.initial s) acts).store)
    (simulation : FreightSimulation) (hsimulation : simulation ∈ s'.freightSimulations.rows)
    (hnew : simulation ∉ s.freightSimulations.rows) :
    Ranked (optionsOf s' simulation.id) simulation ∧
      ∀ (tenantId : Id) (query : ListFreightSimulationsDto) (ω : ℕ → Input) (s'' : Store)
        (page : PaginatedResult FreightSimulationListItemDto),
        (Quoting.list P tenantId query).run (executeList P) ω s' = (.ok page, s'') →
        ∀ item ∈ page.data, item.id = simulation.id →
          item.lowestPrice = some simulation.estimatedPrice := by
  have hrun := rankedSince_run P hs.2 acts
  rw [← hs'] at hrun
  have hranked := hrun.ranked simulation hsimulation hnew
  refine ⟨hranked, fun tenantId query ω s'' page hpage item hitem hid => ?_⟩
  exact hranked.lowestPrice hsimulation hpage hitem hid

/-- Three services of one carrier, with their base prices and deadlines. -/
def threeServices : Store :=
  let service := fun (id name : String) => ({
    id := id, tenantId := "tenant", carrierId := "carrier", code := name, name := name
    cubicFactor := .store 3 300, minWeightKg := none, maxWeightKg := none, maxLengthCm := none
    maxWidthCm := none, maxHeightCm := none, minimumValue := .store 2 10,
    status := .active } : CarrierService)
  let range := fun (id table : String) (basePrice : Decimal) (deadlineDays : ℤ) => ({
    id := id, tenantId := "tenant", rateTableId := table, minWeightKg := .store 3 0
    maxWeightKg := .store 3 100, basePrice := .store 2 basePrice, pricePerKg := .store 4 3
    excessPricePerKg := none, deadlineDays := deadlineDays, priority := 0 } : FreightRateRange)
  { Store.empty with
    carriers := ⟨[⟨"carrier", "tenant", "Transportadora", true⟩], List.nodup_singleton "carrier"⟩
    carrierServices :=
      ⟨[service "a" "Economico", service "b" "Expresso", service "c" "Urgente"], by decide⟩
    carrierCoverages :=
      ⟨["a", "b", "c"].map fun id =>
        ⟨id, "tenant", id, none, none, none, none, none, none, .active⟩, by decide⟩
    freightRateTables :=
      ⟨["a", "b", "c"].map fun id =>
        ⟨id, "tenant", id, "Tabela", 1, "BRL", 0, none, .active, none, none⟩, by decide⟩
    freightRateRanges :=
      ⟨[range "a" "a" 20 5, range "b" "b" 20 2, range "c" "c" 35 1], by decide⟩ }

def quoteOnce : List FreightAction :=
  [.start (.create "tenant" "ana" (twoUnits (3 / 2))), .step 0 (quoteInputs 0),
    .step 0 (quoteInputs 1), .step 0 (quoteInputs 2)]

def quotedStore : Store :=
  ((freightSystem plainPlatform).runActions (Config.initial threeServices) quoteOnce).store

def firstPage : ListFreightSimulationsDto := ⟨1, 20, none, none, none, none, none⟩

/-- Two of the three options share the lowest price, and the dearest is the fastest. -/
theorem quotes_are_ranked_quoteOnce :
    (quotedStore.freightSimulationOptions.rows.map fun option =>
        (option.totalPrice.val, option.cheapest, option.fastest)) =
        [(29, true, false), (29, true, false), (44, false, true)] ∧
      ∃ simulation ∈ quotedStore.freightSimulations.rows,
        Ranked (optionsOf quotedStore simulation.id) simulation ∧
        ∃ page s'', (Quoting.list plainPlatform "tenant" firstPage).run (executeList plainPlatform)
            quoteInputs quotedStore = (.ok page, s'') ∧
          page.data.map (fun item => item.lowestPrice) = [some simulation.estimatedPrice] := by
  have hrow : ∃ simulation ∈ quotedStore.freightSimulations.rows, simulation.id = "0" := by
    decide +kernel
  obtain ⟨simulation, hsimulation, hid⟩ := hrow
  obtain ⟨hranked, hlowest⟩ := quotes_are_ranked plainPlatform threeServices
    ⟨by simp [threeServices, Store.empty, Table.empty],
      by simp [threeServices, Store.empty, Table.empty]⟩ quoteOnce quotedStore rfl simulation
    hsimulation (by simp [threeServices, Store.empty, Table.empty])
  have hitems : (((Quoting.list plainPlatform "tenant" firstPage).run
      (executeList plainPlatform) quoteInputs quotedStore).1.toOption.map fun page =>
        page.data.map fun item => item.id) = some ["0"] := by
    decide +kernel
  refine ⟨by decide +kernel, simulation, hsimulation, hranked, ?_⟩
  rcases hrun : (Quoting.list plainPlatform "tenant" firstPage).run (executeList plainPlatform)
    quoteInputs quotedStore with ⟨answer, s''⟩
  rw [hrun] at hitems
  cases answer with
  | error => cases hitems
  | ok page =>
      obtain ⟨item, hdata, hitem⟩ := List.map_eq_singleton_iff.mp (Option.some.inj hitems)
      refine ⟨page, s'', hrun, ?_⟩
      rw [hdata, List.map_singleton, hlowest "tenant" firstPage quoteInputs s'' page hrun item
        (hdata ▸ List.mem_singleton_self item) (hitem.trans hid.symm)]

end Logistics.Shipping
