import Logistics.Dashboard.Service

/-!
# Prices and the operator's dashboard

`hidePrices` removes what a store holds in money. Every query but the averages
answers the same on the store without prices, apart from the prices in the rows it
lists, and for an operator the figures of the summary leave these out. One figure
does not: the comparison of the average estimated price with that of the period
before.
-/

namespace Logistics.Dashboard

open Logistics.Library

/-! ## Without prices -/

def hideSimulation (row : FreightSimulation) : FreightSimulation :=
  { row with cargoValue := none, estimatedPrice := none }

def hideOption (row : FreightSimulationOption) : FreightSimulationOption :=
  { row with totalPrice := .store 2 0 }

def hideComponent (row : FreightSimulationPriceComponent) : FreightSimulationPriceComponent :=
  { row with amount := .store 2 0 }

def hideShipment (row : Shipment) : Shipment :=
  { row with cargoValue := none, freightValue := .store 2 0 }

def hidePrices {N : Type} (s : DashboardStore N) : DashboardStore N :=
  { s with
    freightSimulations := s.freightSimulations.map hideSimulation
    freightSimulationOptions := s.freightSimulationOptions.map hideOption
    freightSimulationPriceComponents := s.freightSimulationPriceComponents.map hideComponent
    shipments := s.shipments.map hideShipment }

def hideChart (loaded : ChartSimulation) : ChartSimulation :=
  ⟨hideSimulation loaded.simulation, loaded.options.map hideOption⟩

def SummaryRows.hidePrices (rows : SummaryRows) : SummaryRows :=
  { rows with
    freightAggregate := none
    previousFreightAggregate := none
    lowestOptionAggregate := none
    selectedOptionAggregate := none
    chartSimulations := rows.chartSimulations.map hideChart
    chartOptions := rows.chartOptions.map hideOption }

/-! ## Sorting rows without their prices -/

theorem oldest_map {α β : Type} {time : α → Time} {id : α → Id} {time' : β → Time}
    {id' : β → Id} {f : α → β} (htime : ∀ a, time' (f a) = time a) (hid : ∀ a, id' (f a) = id a)
    (tie : Id → ℕ) (rows : List α) :
    oldest time' id' tie (rows.map f) = (oldest time id tie rows).map f := by
  unfold oldest
  refine (List.map_insertionSort _ _ f rows fun a _ b _ => ?_).symm
  simp only [htime, hid]

theorem latest_map {α β : Type} {time : α → Time} {id : α → Id} {time' : β → Time}
    {id' : β → Id} {f : α → β} (htime : ∀ a, time' (f a) = time a) (hid : ∀ a, id' (f a) = id a)
    (tie : Id → ℕ) (rows : List α) :
    latest time' id' tie (rows.map f) = (latest time id tie rows).map f := by
  unfold latest
  refine (List.map_insertionSort _ _ f rows fun a _ b _ => ?_).symm
  simp only [htime, hid]

/-! ## The queries -/

section Queries

variable {N : Type} (P : DashboardPlatform N) (s : DashboardStore N) (tie : Id → ℕ)

theorem holds_hideSimulation (filter : FreightSimulationWhereInput)
    (options : List FreightSimulationOption) (row : FreightSimulation) :
    filter.holds (options.map hideOption) (hideSimulation row) = filter.holds options row := by
  simp only [FreightSimulationWhereInput.holds, List.any_map]
  rfl

theorem holds_hideOption (filter : FreightSimulationOptionWhereInput)
    (simulations : List FreightSimulation) (row : FreightSimulationOption) :
    filter.holds (simulations.map hideSimulation) (hideOption row) =
      filter.holds simulations row := by
  simp only [FreightSimulationOptionWhereInput.holds, List.any_map]
  rfl

theorem matchingSimulations_hidePrices (filter : FreightSimulationWhereInput) :
    matchingSimulations (hidePrices s) filter =
      (matchingSimulations s filter).map hideSimulation := by
  unfold matchingSimulations
  dsimp only [hidePrices]
  rw [List.filter_map]
  congr 2
  funext row
  exact holds_hideSimulation filter _ row

theorem matchingOptions_hidePrices (filter : FreightSimulationOptionWhereInput) :
    matchingOptions (hidePrices s) filter = (matchingOptions s filter).map hideOption := by
  unfold matchingOptions
  dsimp only [hidePrices]
  rw [List.filter_map]
  congr 2
  funext row
  exact holds_hideOption filter _ row

theorem countShipments_hidePrices (filter : ShipmentWhereInput) :
    countShipments (hidePrices s) filter = countShipments s filter := by
  unfold countShipments
  dsimp only [hidePrices]
  rw [List.countP_map]
  rfl

theorem withOptions_hidePrices (row : FreightSimulation) :
    withOptions (hidePrices s) tie (hideSimulation row) = hideChart (withOptions s tie row) := by
  have hsorted : ∀ rows : List FreightSimulationOption,
      (rows.map hideOption).insertionSort (fun a b => tie a.id ≤ tie b.id) =
        (rows.insertionSort fun a b => tie a.id ≤ tie b.id).map hideOption := fun rows =>
    (List.map_insertionSort _ _ hideOption rows fun a _ b _ => Iff.rfl).symm
  unfold withOptions hideChart
  dsimp only [hidePrices]
  rw [List.filter_map, hsorted]
  rfl

theorem hideChart_hideChart (loaded : ChartSimulation) :
    hideChart (hideChart loaded) = hideChart loaded := by
  unfold hideChart
  simp only [List.map_map]
  rfl

theorem chartSimulations_hidePrices (filter : FreightSimulationWhereInput) :
    ((((oldest FreightSimulation.createdAt FreightSimulation.id tie
      (matchingSimulations (hidePrices s) filter)).take 1000).map
        (withOptions (hidePrices s) tie)).map hideChart) =
      (((oldest FreightSimulation.createdAt FreightSimulation.id tie
        (matchingSimulations s filter)).take 1000).map (withOptions s tie)).map hideChart := by
  rw [matchingSimulations_hidePrices, oldest_map (fun _ => rfl) (fun _ => rfl), ← List.map_take,
    List.map_map, List.map_map, List.map_map]
  congr 1
  funext row
  dsimp only [Function.comp]
  rw [withOptions_hidePrices, hideChart_hideChart]

theorem chartOptions_hidePrices (filter : FreightSimulationOptionWhereInput) :
    (((latest FreightSimulationOption.createdAt FreightSimulationOption.id tie
      (matchingOptions (hidePrices s) filter)).take 1000).map hideOption) =
      ((latest FreightSimulationOption.createdAt FreightSimulationOption.id tie
        (matchingOptions s filter)).take 1000).map hideOption := by
  rw [matchingOptions_hidePrices, latest_map (fun _ => rfl) (fun _ => rfl), ← List.map_take,
    List.map_map]
  rfl

theorem chartShipments_hidePrices (filter : ShipmentWhereInput) :
    ((oldest Shipment.createdAt Shipment.id tie
      ((hidePrices s).shipments.filter filter.holds)).take 1000).map
        (fun row => (row.createdAt, row.status)) =
      ((oldest Shipment.createdAt Shipment.id tie
        (s.shipments.filter filter.holds)).take 1000).map fun row =>
          (row.createdAt, row.status) := by
  dsimp only [hidePrices]
  rw [List.filter_map, oldest_map (fun _ => rfl) (fun _ => rfl), ← List.map_take, List.map_map]
  rfl

theorem summaryRows_hidePrices (queries : SummaryQueries) :
    (summaryRows P (hidePrices s) tie queries).hidePrices =
      (summaryRows P s tie queries).hidePrices := by
  dsimp only [SummaryRows.hidePrices, summaryRows]
  rw [chartSimulations_hidePrices, chartOptions_hidePrices, chartShipments_hidePrices]
  simp only [countShipments_hidePrices, matchingSimulations_hidePrices, matchingOptions_hidePrices,
    List.length_map, List.countP_map]
  rfl

end Queries

/-! ## The figures -/

/-- Entries of a map with something removed from their values. -/
def mapValues {V : Type} (g : V → V) (map : List (String × V)) : List (String × V) :=
  map.map fun entry => (entry.1, g entry.2)

theorem mapValues_adjust {V : Type} {g f : V → V} (hf : ∀ v, g (f (g v)) = g (f v))
    (map : List (String × V)) (key : String) (initial : V) :
    mapValues g (adjust map key initial f) =
      adjust (mapValues g map) key (g initial) fun v => g (f v) := by
  have hany : ((mapValues g map).any fun entry => entry.1 == key) =
      map.any fun entry => entry.1 == key := by
    rw [mapValues, List.any_map]
    rfl
  unfold adjust
  rw [hany]
  split
  · unfold mapValues
    rw [List.map_map, List.map_map]
    congr 1
    funext entry
    dsimp only [Function.comp]
    split
    · rw [hf]
    · rfl
  · simp [mapValues, hf]

section Figures

variable {N : Type} (P : DashboardPlatform N)

def hideTotal (sum : CarrierSum N) : CarrierSum N := { sum with total := P.ofInt 0 }

def hideSum (sum : RouteSum N) : RouteSum N := { sum with sum := P.ofInt 0 }

/-- The loop of `carrierPerformance` when it does not look at prices. -/
def countOption (map : List (String × CarrierSum N)) (option : FreightSimulationOption) :
    List (String × CarrierSum N) :=
  adjust map option.carrierId ⟨0, option.carrierName, 0, 0, P.ofInt 0⟩ fun current =>
    hideTotal P (CarrierSum.add P option current)

def countRoute (map : List (String × RouteSum N)) (loaded : ChartSimulation) :
    List (String × RouteSum N) :=
  adjust map (routeOf loaded) ⟨0, 0, P.ofInt 0⟩ fun current =>
    hideSum P (RouteSum.add P loaded current)

theorem countOption_hideTotal (map : List (String × CarrierSum N))
    (option : FreightSimulationOption) :
    countOption P (mapValues (hideTotal P) map) option =
      mapValues (hideTotal P) (addOption P map option) := by
  have hhidden : ∀ sum, hideTotal P (CarrierSum.add P option (hideTotal P sum)) =
      hideTotal P (CarrierSum.add P option sum) := fun _ => rfl
  unfold addOption
  rw [mapValues_adjust hhidden]
  rfl

theorem countRoute_hideSum (map : List (String × RouteSum N)) (loaded : ChartSimulation) :
    countRoute P (mapValues (hideSum P) map) loaded =
      mapValues (hideSum P) (addRoute P map loaded) := by
  have hhidden : ∀ sum, hideSum P (RouteSum.add P loaded (hideSum P sum)) =
      hideSum P (RouteSum.add P loaded sum) := fun _ => rfl
  unfold addRoute
  rw [mapValues_adjust hhidden]
  rfl

/-- Without the prices, the carriers are shown in the same way. -/
theorem carrierPerformance_hideOption (options : List FreightSimulationOption) :
    carrierPerformance P (options.map hideOption) false = carrierPerformance P options false := by
  have hshown : ∀ options : List FreightSimulationOption,
      (options.foldl (addOption P) []).map (presentCarrier P false) =
        (options.foldl (countOption P) []).map (presentCarrier P false) := by
    intro options
    have hcounted : options.foldl (countOption P) (mapValues (hideTotal P) []) =
        mapValues (hideTotal P) (options.foldl (addOption P) []) :=
      List.foldl_hom (mapValues (hideTotal P)) (countOption_hideTotal P)
    change _ = (options.foldl (countOption P) (mapValues (hideTotal P) [])).map _
    rw [hcounted, mapValues, List.map_map]
    rfl
  unfold carrierPerformance
  rw [hshown, hshown, List.foldl_map]
  rfl

theorem routePerformance_hideChart (simulations : List ChartSimulation) :
    routePerformance P (simulations.map hideChart) false =
      routePerformance P simulations false := by
  have hshown : ∀ simulations : List ChartSimulation,
      (simulations.foldl (addRoute P) []).map (presentRoute P false) =
        (simulations.foldl (countRoute P) []).map (presentRoute P false) := by
    intro simulations
    have hcounted : simulations.foldl (countRoute P) (mapValues (hideSum P) []) =
        mapValues (hideSum P) (simulations.foldl (addRoute P) []) :=
      List.foldl_hom (mapValues (hideSum P)) (countRoute_hideSum P)
    change _ = (simulations.foldl (countRoute P) (mapValues (hideSum P) [])).map _
    rw [hcounted, mapValues, List.map_map]
    rfl
  have hcount : (fun map loaded => countRoute P map (hideChart loaded)) = countRoute P := by
    funext map loaded
    simp [countRoute, hideChart, hideSimulation, routeOf, hideSum, RouteSum.add]
  unfold routePerformance
  rw [hshown, hshown, List.foldl_map, hcount]

/-- What an operator is shown, with this comparison of the costs. -/
def withCost (summary : DashboardSummaryDto N) (costAverage : DashboardTrendDto N) :
    DashboardSummaryDto N :=
  { summary with comparisons := { summary.comparisons with costAverage } }

theorem presentSummary_operator (tenantId : Id) (filters : DashboardFiltersDto)
    (period : InsightGenerationPeriod) (rows : SummaryRows)
    (filterOptions : DashboardFilterOptionsDto) (generatedAt : Time) :
    presentSummary P tenantId .operator filters period rows filterOptions generatedAt =
      withCost (presentSummary P tenantId .operator filters period rows.hidePrices filterOptions
        generatedAt)
        (trend P (rows.freightAggregate.map P.toNumber)
          (rows.previousFreightAggregate.map P.toNumber) false) := by
  have hcarriers := carrierPerformance_hideOption P rows.chartOptions
  have hroutes := routePerformance_hideChart P rows.chartSimulations
  have hoperator : decide (UserRole.operator ≠ .operator) = false := by decide
  unfold presentSummary withCost
  dsimp only [SummaryRows.hidePrices]
  rw [hoperator, hcarriers, hroutes]
  simp only [List.map_map, Bool.false_eq_true, if_false]
  rfl

end Figures

/-! ## The runs -/

section Runs

variable {N : Type} (P : DashboardPlatform N) (tenantId : Id) (role : UserRole)

def summaryAt (filters : DashboardFiltersDto) (period : InsightGenerationPeriod) (ω : ℕ → Input)
    (s : DashboardStore N) : DashboardSummaryDto N :=
  presentSummary P tenantId role filters period
    (summaryRows P s (ω 3).tie
      (summaryQueries tenantId filters period (ω 1).now ((ω 2).now - 30 * 60 * 1000)))
    (loadFilterOptions P s (ω 4).tie tenantId) (ω 5).now

theorem run_calculateSummary (filters : DashboardFiltersDto) (ω : ℕ → Input)
    (s : DashboardStore N) :
    ((calculateSummary P tenantId role filters).run (execute P) ω s).1 =
      match periodFromFilters P filters (ω 0).now with
      | .error e => .error e
      | .ok period =>
          if (ω 3).fault || (ω 4).fault then .error .fault
          else .ok (summaryAt P tenantId role filters period ω s) := by
  have hnow : ∀ i : Input, execute P .now i s = (.ok i.now, s) := fun _ => rfl
  unfold calculateSummary
  rw [Program.run_perform_bind_ok (hnow (ω 0))]
  cases periodFromFilters P filters (ω 0).now with
  | error e => rfl
  | ok period =>
      dsimp only [Program.ofExcept]
      rw [Program.pure_bind, Program.run_perform_bind_ok (hnow (ω 1)),
        Program.run_perform_bind_ok (hnow (ω 2))]
      cases hrows : (ω 3).fault with
      | true =>
          have hanswer : ∀ queries,
              execute P (.summarize queries) (ω 3) s = (.error .fault, s) := by
            intro queries
            simp [execute, hrows]
          rw [Program.run_perform_bind_error (hanswer _)]
          rfl
      | false =>
          have hanswer : ∀ queries, execute P (.summarize queries) (ω 3) s =
              (.ok (summaryRows P s (ω 3).tie queries), s) := by
            intro queries
            simp [execute, hrows]
          rw [Program.run_perform_bind_ok (hanswer _)]
          cases hoptions : (ω 4).fault with
          | true =>
              have hfails : execute P (.loadFilterOptions tenantId) (ω 4) s =
                  (.error .fault, s) := by
                simp [execute, hoptions]
              rw [Program.run_perform_bind_error hfails]
              rfl
          | false =>
              have hloads : execute P (.loadFilterOptions tenantId) (ω 4) s =
                  (.ok (loadFilterOptions P s (ω 4).tie tenantId), s) := by
                simp [execute, hoptions]
              rw [Program.run_perform_bind_ok hloads, Program.run_perform_bind_ok (hnow (ω 5))]
              rfl

theorem run_getSummary (query : DashboardQueryDto) (ω : ℕ → Input) {s : DashboardStore N}
    (hcache : s.cache = []) :
    ((getSummary P tenantId role query).run (execute P) ω s).1 =
      ((calculateSummary P tenantId role (normalizeFilters query)).run (execute P)
        (fun n => ω (n + 1)) s).1 := by
  have hwrite : ∀ key summary ω (s : DashboardStore N),
      ((Program.tryCatch (call (.writeCache key summary)) (fun _ => pure ()) >>= fun _ =>
        pure summary).run (execute P) ω s).1 = .ok summary := by
    intro key summary ω s
    rw [Program.run_tryCatch_perform_bind]
    cases (execute P (.writeCache key summary) (ω 0) s).1 with
    | ok _ => rfl
    | error _ => rfl
  have hcalculated := Program.run_bind_fst (b := execute P)
    (p := calculateSummary P tenantId role (normalizeFilters query))
    (hwrite ⟨tenantId, role, normalizeFilters query⟩) (fun n => ω (n + 1)) s
  rw [← hcalculated]
  unfold getSummary
  rw [Program.run_tryCatch_perform_bind]
  cases hfault : (ω 0).fault with
  | true => simp [execute, hfault]
  | false => simp [execute, hfault, hcache]

def averageEstimatedPrice (s : DashboardStore N) (filter : FreightSimulationWhereInput) :
    Option N :=
  (average P (estimatedPrices s filter)).map P.toNumber

theorem trend_eq_iff {a b a' b' : Option N} (higherIsGood : Bool) :
    trend P a b higherIsGood = trend P a' b' higherIsGood ↔ a = a' ∧ b = b' := by
  have hshown : ∀ a b : Option N,
      (trend P a b higherIsGood).current = a ∧ (trend P a b higherIsGood).previous = b := by
    intro a b
    cases a <;> cases b <;> exact ⟨rfl, rfl⟩
  constructor
  · intro h
    have hcurrent := congrArg DashboardTrendDto.current h
    have hprevious := congrArg DashboardTrendDto.previous h
    rw [(hshown a b).1, (hshown a' b').1] at hcurrent
    rw [(hshown a b).2, (hshown a' b').2] at hprevious
    exact ⟨hcurrent, hprevious⟩
  · rintro ⟨rfl, rfl⟩
    rfl

/-- The rest of an operator's summary, which is the same without prices. -/
def priceless (filters : DashboardFiltersDto) (period : InsightGenerationPeriod) (ω : ℕ → Input)
    (s : DashboardStore N) : DashboardSummaryDto N :=
  presentSummary P tenantId .operator filters period
    (summaryRows P (hidePrices s) (ω 3).tie
      (summaryQueries tenantId filters period (ω 1).now ((ω 2).now - 30 * 60 * 1000))).hidePrices
    (loadFilterOptions P (hidePrices s) (ω 4).tie tenantId) (ω 5).now

theorem summaryAt_operator (filters : DashboardFiltersDto) (period : InsightGenerationPeriod)
    (ω : ℕ → Input) (s : DashboardStore N) :
    summaryAt P tenantId .operator filters period ω s =
      withCost (priceless P tenantId filters period ω s)
        (trend P
          (averageEstimatedPrice P s (simulationWhereFor tenantId filters
            ⟨period.currentStart, period.currentEnd⟩))
          (averageEstimatedPrice P s (simulationWhereFor tenantId filters
            ⟨period.previousStart, period.previousEnd⟩)) false) := by
  unfold summaryAt priceless
  rw [presentSummary_operator, summaryRows_hidePrices]
  rfl

theorem summaryAt_operator_eq_iff {s s' : DashboardStore N} (hsame : hidePrices s = hidePrices s')
    (filters : DashboardFiltersDto) (period : InsightGenerationPeriod) (ω : ℕ → Input) :
    summaryAt P tenantId .operator filters period ω s =
        summaryAt P tenantId .operator filters period ω s' ↔
      averageEstimatedPrice P s (simulationWhereFor tenantId filters
          ⟨period.currentStart, period.currentEnd⟩) =
        averageEstimatedPrice P s' (simulationWhereFor tenantId filters
          ⟨period.currentStart, period.currentEnd⟩) ∧
      averageEstimatedPrice P s (simulationWhereFor tenantId filters
          ⟨period.previousStart, period.previousEnd⟩) =
        averageEstimatedPrice P s' (simulationWhereFor tenantId filters
          ⟨period.previousStart, period.previousEnd⟩) := by
  have hrest : priceless P tenantId filters period ω s =
      priceless P tenantId filters period ω s' := by
    unfold priceless
    rw [hsame]
  rw [summaryAt_operator, summaryAt_operator, hrest, ← trend_eq_iff P false]
  constructor
  · intro h
    exact congrArg (fun summary => summary.comparisons.costAverage) h
  · intro h
    rw [h]

end Runs

/-- When a summary is answered, the average estimated prices that match, in the
period and in the one before it, are the same in the two stores. -/
def CostsAgree {N : Type} (P : DashboardPlatform N) (tenantId : Id) (query : DashboardQueryDto)
    (ω : ℕ → Input) (s s' : DashboardStore N) : Prop :=
  (ω 4).fault = false → (ω 5).fault = false →
    ∀ period, periodFromFilters P (normalizeFilters query) (ω 1).now = .ok period →
      averageEstimatedPrice P s (simulationWhereFor tenantId (normalizeFilters query)
          ⟨period.currentStart, period.currentEnd⟩) =
        averageEstimatedPrice P s' (simulationWhereFor tenantId (normalizeFilters query)
          ⟨period.currentStart, period.currentEnd⟩) ∧
      averageEstimatedPrice P s (simulationWhereFor tenantId (normalizeFilters query)
          ⟨period.previousStart, period.previousEnd⟩) =
        averageEstimatedPrice P s' (simulationWhereFor tenantId (normalizeFilters query)
          ⟨period.previousStart, period.previousEnd⟩)

/-- The average costs are all that an operator's summary tells of the prices: over
two stores that differ in prices only, it is the same if and only if the average
estimated prices are. -/
theorem operator_summary_eq_iff {N : Type} (P : DashboardPlatform N) (tenantId : Id)
    (query : DashboardQueryDto) (ω : ℕ → Input) (s s' : DashboardStore N)
    (hsame : hidePrices s = hidePrices s') (hcache : s.cache = []) :
    ((getSummary P tenantId .operator query).run (execute P) ω s).1 =
        ((getSummary P tenantId .operator query).run (execute P) ω s').1 ↔
      CostsAgree P tenantId query ω s s' := by
  have hcache' : s'.cache = [] := by
    rw [← hcache]
    exact (congrArg DashboardStore.cache hsame).symm
  rw [run_getSummary P tenantId .operator query ω hcache,
    run_getSummary P tenantId .operator query ω hcache', run_calculateSummary,
    run_calculateSummary]
  unfold CostsAgree
  cases hperiod : periodFromFilters P (normalizeFilters query) (ω 1).now with
  | error e => simp
  | ok period =>
      have hiff := summaryAt_operator_eq_iff P tenantId hsame (normalizeFilters query) period
        fun n => ω (n + 1)
      cases hrows : (ω 4).fault with
      | true => simp
      | false =>
          cases hoptions : (ω 5).fault with
          | true => simp
          | false => simpa [hperiod, hrows, hoptions] using hiff

/-- Exact arithmetic. It reads no dates. -/
def plainDashboard : DashboardPlatform ℚ where
  ofInt n := n
  toNumber x := x
  add x y := x + y
  sub x y := x - y
  mul x y := x * y
  div x y := x / y
  mathRound x := ⌊x + 1 / 2⌋
  lt x y := x < y
  eq x y := x = y
  text x := toString x
  average xs := xs.sum / xs.length
  parseDate _ := none
  collationLE a b := a ≤ b

def pricedStore (price : ℚ) : DashboardStore ℚ :=
  { DashboardStore.empty ℚ with
    freightSimulations := [{
      id := "simulation"
      tenantId := "tenant"
      branchId := none
      customerId := none
      originPostalCode := "01001000"
      destinationPostalCode := "20010000"
      cargoValue := none
      estimatedPrice := some (.store 2 price)
      status := .calculated
      createdAt := 0 }] }

def noFilters : DashboardQueryDto := ⟨none, none, none, none, none, none, none⟩

def plainInput : Input := ⟨1000, fun _ => "", false, fun _ => 0⟩

theorem operator_summary_eq_iff_priced :
    ((getSummary plainDashboard "tenant" .operator noFilters).run (execute plainDashboard)
        (fun _ => plainInput) (pricedStore 10)).1 =
      ((getSummary plainDashboard "tenant" .operator noFilters).run (execute plainDashboard)
        (fun _ => plainInput) (pricedStore 20)).1 ↔
      CostsAgree plainDashboard "tenant" noFilters (fun _ => plainInput) (pricedStore 10)
        (pricedStore 20) :=
  operator_summary_eq_iff plainDashboard "tenant" noFilters (fun _ => plainInput) (pricedStore 10)
    (pricedStore 20) rfl rfl

/-- The price of the only quote is the average that an operator is shown. -/
theorem an_operator_is_shown_a_price :
    hidePrices (pricedStore 10) = hidePrices (pricedStore 20) ∧ (pricedStore 10).cache = [] ∧
      ((getSummary plainDashboard "tenant" .operator noFilters).run (execute plainDashboard)
          (fun _ => plainInput) (pricedStore 10)).1 ≠
        ((getSummary plainDashboard "tenant" .operator noFilters).run (execute plainDashboard)
          (fun _ => plainInput) (pricedStore 20)).1 := by
  refine ⟨rfl, rfl, ?_⟩
  decide +kernel

end Logistics.Dashboard
