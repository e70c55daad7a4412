import Mathlib.Data.List.Sort
import Logistics.Dashboard.Schema
import Logistics.Library.Sequential

/-!
# The dashboard summary

`getSummary` of the dashboard service: the summary is taken from the cache, or put
together from one transaction of aggregates and lists and a second one of the
values to filter by. The figures that hold prices are left out for operators.
-/

namespace Logistics.Dashboard

open Logistics.Library

/-- The numbers of the platform, its dates, what the database makes of an average,
and how it compares names. -/
structure DashboardPlatform (N : Type) where
  ofInt : Int → N
  toNumber : Decimal → N
  add : N → N → N
  sub : N → N → N
  mul : N → N → N
  div : N → N → N
  mathRound : N → N
  lt : N → N → Bool
  eq : N → N → Bool
  text : N → String
  average : List Decimal → Decimal
  parseDate : String → Option Time
  collationLE : String → String → Bool

/-! ## The queries -/

/-- The conditions of the queries in the first transaction. -/
structure SummaryQueries where
  tenantId : Id
  simulationWhere : FreightSimulationWhereInput
  previousSimulationWhere : FreightSimulationWhereInput
  optionWhere : FreightSimulationOptionWhereInput
  shipmentWhere : ShipmentWhereInput
  previousShipmentWhere : ShipmentWhereInput
  inTransitWhere : ShipmentWhereInput
  delayedWhere : ShipmentWhereInput
  previousDelayedWhere : ShipmentWhereInput
  deliveredWhere : ShipmentWhereInput
  failedWhere : ShipmentWhereInput
  currentRange : DateTimeFilter
  previousRange : DateTimeFilter
  stalledBefore : Time

structure ImportRowsSum where
  errorRows : Option ℕ
  totalRows : Option ℕ

structure ChartSimulation where
  simulation : FreightSimulation
  options : List FreightSimulationOption

/-- The answers of the queries in the first transaction. -/
structure SummaryRows where
  activeCustomers : ℕ
  activeCarriers : ℕ
  activeUsers : ℕ
  freightSimulations : ℕ
  previousFreightSimulations : ℕ
  calculatedSimulations : ℕ
  freightAggregate : Option Decimal
  previousFreightAggregate : Option Decimal
  lowestOptionAggregate : Option Decimal
  selectedOptionAggregate : Option Decimal
  selectedOptions : ℕ
  shipmentsInPeriod : ℕ
  previousShipments : ℕ
  inTransitShipments : ℕ
  delayedShipments : ℕ
  previousDelayedShipments : ℕ
  deliveredShipments : ℕ
  failedShipments : ℕ
  importJobs : ℕ
  importsCompleted : ℕ
  importsFailed : ℕ
  importsProcessing : ℕ
  importRowsAggregate : ImportRowsSum
  previousImportRowsAggregate : ImportRowsSum
  stalledImports : ℕ
  auditEvents : ℕ
  chartSimulations : List ChartSimulation
  chartOptions : List FreightSimulationOption
  chartShipments : List (Time × ShipmentStatus)
  recentImports : List Imports.ImportJob
  highlights : List Insight
  recentActivity : List AuditLog

/-- `orderBy: { time: 'asc' }` -/
def oldest {α : Type} (time : α → Time) (id : α → Id) (tie : Id → ℕ) (rows : List α) : List α :=
  rows.insertionSort fun a b =>
    if time a = time b then tie (id a) ≤ tie (id b) else time a < time b

/-- `orderBy: { time: 'desc' }` -/
def latest {α : Type} (time : α → Time) (id : α → Id) (tie : Id → ℕ) (rows : List α) : List α :=
  rows.insertionSort fun a b =>
    if time a = time b then tie (id a) ≤ tie (id b) else time b < time a

/-- `_avg`, null when there are no values. -/
def average {N : Type} (P : DashboardPlatform N) (values : List (Fixed 2)) : Option Decimal :=
  if values.isEmpty then none else some (P.average (values.map Subtype.val))

/-- `_sum` of the two columns, null when there are no rows. -/
def sumRows (jobs : List Imports.ImportJob) : ImportRowsSum :=
  if jobs.isEmpty then ⟨none, none⟩
  else ⟨some (jobs.map fun job => job.counts.errorRows).sum,
    some (jobs.map Imports.ImportJob.totalRows).sum⟩

def activityActions : List AuditAction :=
  [.freightSimulationCreated, .freightOptionSelected, .shipmentCreated, .importCompleted,
    .importFailed]

/-- `orderBy: [{ severity: 'desc' }, { generatedAt: 'desc' }]` -/
def insightLE (tie : Id → ℕ) (a b : Insight) : Bool :=
  if a.severity.rank = b.severity.rank then
    if a.generatedAt = b.generatedAt then tie a.id ≤ tie b.id else b.generatedAt < a.generatedAt
  else b.severity.rank < a.severity.rank

section Queries

variable {N : Type} (P : DashboardPlatform N) (s : DashboardStore N)

def estimatedPrices (filter : FreightSimulationWhereInput) : List (Fixed 2) :=
  (s.freightSimulations.filter (filter.holds s.freightSimulationOptions)).filterMap
    FreightSimulation.estimatedPrice

def matchingSimulations (filter : FreightSimulationWhereInput) : List FreightSimulation :=
  s.freightSimulations.filter (filter.holds s.freightSimulationOptions)

def matchingOptions (filter : FreightSimulationOptionWhereInput) : List FreightSimulationOption :=
  s.freightSimulationOptions.filter (filter.holds s.freightSimulations)

def countShipments (filter : ShipmentWhereInput) : ℕ := s.shipments.countP filter.holds

def importsIn (tenantId : Id) (range : DateTimeFilter) : List Imports.ImportJob :=
  s.importJobs.filter fun row => range.holds row.createdAt && row.tenantId == tenantId

def withOptions (tie : Id → ℕ) (simulation : FreightSimulation) : ChartSimulation where
  simulation := simulation
  options := (s.freightSimulationOptions.filter fun row =>
    row.simulationId == simulation.id).insertionSort fun a b => tie a.id ≤ tie b.id

/-- The first transaction. -/
def summaryRows (tie : Id → ℕ) (queries : SummaryQueries) : SummaryRows where
  activeCustomers := s.customers.countP fun row => row.active && row.tenantId == queries.tenantId
  activeCarriers := s.carriers.countP fun row => row.active && row.tenantId == queries.tenantId
  activeUsers := s.users.countP fun row =>
    row.status == .active && row.tenantId == some queries.tenantId
  freightSimulations := (matchingSimulations s queries.simulationWhere).length
  previousFreightSimulations := (matchingSimulations s queries.previousSimulationWhere).length
  calculatedSimulations := (matchingSimulations s
    { queries.simulationWhere with status := some .calculated }).length
  freightAggregate := average P (estimatedPrices s queries.simulationWhere)
  previousFreightAggregate := average P (estimatedPrices s queries.previousSimulationWhere)
  lowestOptionAggregate := average P (((matchingOptions s queries.optionWhere).filter fun row =>
    row.cheapest).map FreightSimulationOption.totalPrice)
  selectedOptionAggregate := average P (((matchingOptions s queries.optionWhere).filter fun row =>
    row.selected).map FreightSimulationOption.totalPrice)
  selectedOptions := (matchingOptions s queries.optionWhere).countP fun row => row.selected
  shipmentsInPeriod := countShipments s queries.shipmentWhere
  previousShipments := countShipments s queries.previousShipmentWhere
  inTransitShipments := countShipments s queries.inTransitWhere
  delayedShipments := countShipments s queries.delayedWhere
  previousDelayedShipments := countShipments s queries.previousDelayedWhere
  deliveredShipments := countShipments s queries.deliveredWhere
  failedShipments := countShipments s queries.failedWhere
  importJobs := (importsIn s queries.tenantId queries.currentRange).length
  importsCompleted := (importsIn s queries.tenantId queries.currentRange).countP fun row =>
    row.status == .completed
  importsFailed := (importsIn s queries.tenantId queries.currentRange).countP fun row =>
    row.status == .failed
  importsProcessing := s.importJobs.countP fun row =>
    row.status == .processing && row.tenantId == queries.tenantId
  importRowsAggregate := sumRows (importsIn s queries.tenantId queries.currentRange)
  previousImportRowsAggregate := sumRows (importsIn s queries.tenantId queries.previousRange)
  stalledImports := s.importJobs.countP fun row =>
    row.status == .processing && row.tenantId == queries.tenantId &&
      row.updatedAt < queries.stalledBefore
  auditEvents := s.auditLogs.countP fun row => row.tenantId == some queries.tenantId
  chartSimulations := ((oldest FreightSimulation.createdAt FreightSimulation.id tie
    (matchingSimulations s queries.simulationWhere)).take 1000).map (withOptions s tie)
  chartOptions := (latest FreightSimulationOption.createdAt FreightSimulationOption.id tie
    (matchingOptions s queries.optionWhere)).take 1000
  chartShipments := ((oldest Shipment.createdAt Shipment.id tie
    (s.shipments.filter queries.shipmentWhere.holds)).take 1000).map fun row =>
      (row.createdAt, row.status)
  recentImports := (latest Imports.ImportJob.createdAt Imports.ImportJob.id tie
    (importsIn s queries.tenantId queries.currentRange)).take 8
  highlights := ((s.insights.filter fun row => queries.currentRange.holds row.generatedAt &&
    row.status != .dismissed && row.tenantId == queries.tenantId).insertionSort fun a b =>
      insightLE tie a b).take 4
  recentActivity := (latest AuditLog.createdAt AuditLog.id tie (s.auditLogs.filter fun row =>
    activityActions.contains row.action && queries.currentRange.holds row.createdAt &&
      row.tenantId == some queries.tenantId)).take 8

/-- `orderBy: { name: 'asc' }` -/
def byName {α : Type} (name : α → String) (id : α → Id) (tie : Id → ℕ) (rows : List α) :
    List α :=
  rows.insertionSort fun a b =>
    if P.collationLE (name a) (name b) && P.collationLE (name b) (name a) then
      tie (id a) ≤ tie (id b)
    else P.collationLE (name a) (name b)

def shipmentStatuses : List ShipmentStatus :=
  [.created, .pickupScheduled, .pickedUp, .inTransit, .arrivedAtHub, .outForDelivery, .delivered,
    .deliveryFailed, .returning, .returned, .canceled]

/-- The second transaction. -/
def loadFilterOptions (tie : Id → ℕ) (tenantId : Id) : DashboardFilterOptionsDto where
  branches :=
    let branches := s.branches.filter fun row => row.active && row.tenantId == tenantId
    -- the main branch first
    (((byName P Branch.name Branch.id tie (branches.filter fun row => row.main)) ++
      byName P Branch.name Branch.id tie (branches.filter fun row => !row.main)).take 50).map
        fun row => ⟨row.id, row.name⟩
  carrierServices := ((byName P CarrierService.name CarrierService.id tie
    (s.carrierServices.filter fun row =>
      (s.carriers.any fun carrier => carrier.id == row.carrierId && carrier.active) &&
        row.status == .active && row.tenantId == tenantId)).take 150).map fun row =>
          ⟨⟨row.id, row.name⟩, row.carrierId⟩
  carriers := ((byName P Carrier.name Carrier.id tie (s.carriers.filter fun row =>
    row.active && row.tenantId == tenantId)).take 100).map fun row => ⟨row.id, row.name⟩
  customers := ((byName P Customer.name Customer.id tie (s.customers.filter fun row =>
    row.active && row.tenantId == tenantId)).take 100).map fun row => ⟨row.id, row.name⟩
  shipmentStatuses := shipmentStatuses.map fun status => ⟨status.text, status.text⟩

end Queries

/-! ## The figures -/

/-- `map.set(key, f(map.get(key) ?? initial))` -/
def adjust {V : Type} (map : List (String × V)) (key : String) (initial : V) (f : V → V) :
    List (String × V) :=
  if map.any fun entry => entry.1 == key then
    map.map fun entry => if entry.1 == key then (entry.1, f entry.2) else entry
  else map ++ [(key, f initial)]

def tally (labels : List String) : List (String × ℕ) :=
  labels.foldl (fun map label => adjust map label 0 fun count => count + 1) []

/-- `slice(-n)` -/
def takeLast {α : Type} (n : ℕ) (xs : List α) : List α := xs.drop (xs.length - n)

def points {V : Type} (entries : List (String × V)) : List (DashboardPointDto V) :=
  entries.map fun entry => ⟨entry.1, entry.2⟩

def twoDigits (n : Int) : String := if n < 10 then "0" ++ toString n else toString n

/-- `toISOString().slice(5, 10)`: the month and the day of an instant, by years that
begin in March. -/
def monthDay (time : Time) : String :=
  let dayOfEra := (time / 86400000 + 719468) % 146097
  let yearOfEra := (dayOfEra - dayOfEra / 1460 + dayOfEra / 36524 - dayOfEra / 146096) / 365
  let dayOfYear := dayOfEra - (365 * yearOfEra + yearOfEra / 4 - yearOfEra / 100)
  let month := (5 * dayOfYear + 2) / 153
  twoDigits (if month < 10 then month + 3 else month - 9) ++ "-" ++
    twoDigits (dayOfYear - (153 * month + 2) / 5 + 1)

section Figures

variable {N : Type} (P : DashboardPlatform N)

def round (value : N) : N :=
  P.div (P.mathRound (P.mul value (P.ofInt 100))) (P.ofInt 100)

def percent (numerator denominator : ℕ) : N :=
  if 0 < denominator then
    round P (P.mul (P.div (P.ofInt numerator) (P.ofInt denominator)) (P.ofInt 100))
  else P.ofInt 0

def percentageChange (current previous : N) : Option N :=
  if P.eq previous (P.ofInt 0) then
    if P.eq current (P.ofInt 0) then some (P.ofInt 0) else none
  else some (round P (P.mul (P.div (P.sub current previous) previous) (P.ofInt 100)))

def trend (current previous : Option N) (higherIsGood : Bool) : DashboardTrendDto N :=
  match current, previous with
  | some now, some before =>
      let absoluteChange := round P (P.sub now before)
      let direction : TrendDirection :=
        if P.lt (P.ofInt 0) absoluteChange then .up
        else if P.lt absoluteChange (P.ofInt 0) then .down
        else .flat
      { absoluteChange := some absoluteChange
        current := some now
        direction
        favorable := some (match direction with
          | .flat => true
          | .up => higherIsGood
          | _ => !higherIsGood)
        percentageChange := percentageChange P now before
        previous := some before }
  | current, previous => ⟨none, current, .none, none, none, previous⟩

def countTrend (current previous : ℕ) (higherIsGood : Bool) : DashboardTrendDto N :=
  trend P (some (P.ofInt current)) (some (P.ofInt previous)) higherIsGood

def simulationsByPeriod (createdAts : List Time) : List (DashboardPointDto ℕ) :=
  takeLast 14 (points (tally (createdAts.map monthDay)))

structure CostSum (N : Type) where
  count : ℕ
  sum : N

def costByPeriod (simulations : List ChartSimulation) : List (DashboardPointDto N) :=
  takeLast 14 (points ((simulations.foldl (fun map loaded =>
    match loaded.simulation.estimatedPrice with
    | none => map
    | some price => adjust map (monthDay loaded.simulation.createdAt) ⟨0, P.ofInt 0⟩
        fun current : CostSum N =>
          ⟨current.count + 1, P.add current.sum (P.toNumber price.val)⟩) []).map fun entry =>
            (entry.1, round P (P.div entry.2.sum (P.ofInt entry.2.count)))))

structure CarrierSum (N : Type) where
  deadline : Int
  name : String
  options : ℕ
  selected : ℕ
  total : N

def CarrierSum.add (option : FreightSimulationOption) (current : CarrierSum N) : CarrierSum N :=
  { current with
    deadline := current.deadline + option.deadlineDays
    options := current.options + 1
    selected := current.selected + if option.selected then 1 else 0
    total := P.add current.total (P.toNumber option.totalPrice.val) }

/-- The loop of `carrierPerformance` for one option. -/
def addOption (map : List (String × CarrierSum N)) (option : FreightSimulationOption) :
    List (String × CarrierSum N) :=
  adjust map option.carrierId ⟨0, option.carrierName, 0, 0, P.ofInt 0⟩
    (CarrierSum.add P option)

def presentCarrier (fullAccess : Bool) (entry : String × CarrierSum N) :
    DashboardCarrierPerformanceDto N where
  averageDeadlineDays := round P (P.div (P.ofInt entry.2.deadline) (P.ofInt entry.2.options))
  averagePrice :=
    if fullAccess then some (round P (P.div entry.2.total (P.ofInt entry.2.options))) else none
  carrierId := entry.1
  carrierName := entry.2.name
  optionCount := entry.2.options
  selectedCount := entry.2.selected

/-- A missing price counts as `Number.MAX_SAFE_INTEGER`. -/
def carrierLE (a b : DashboardCarrierPerformanceDto N) : Bool :=
  if a.selectedCount = b.selectedCount then
    !P.lt (b.averagePrice.getD (P.ofInt 9007199254740991))
      (a.averagePrice.getD (P.ofInt 9007199254740991))
  else b.selectedCount < a.selectedCount

def carrierPerformance (options : List FreightSimulationOption) (fullAccess : Bool) :
    List (DashboardCarrierPerformanceDto N) :=
  (((options.foldl (addOption P) []).map (presentCarrier P fullAccess)).insertionSort
    fun a b => carrierLE P a b).take 8

structure RouteSum (N : Type) where
  count : ℕ
  options : ℕ
  sum : N

def RouteSum.add (loaded : ChartSimulation) (current : RouteSum N) : RouteSum N where
  count := current.count + 1
  options := current.options + loaded.options.length
  sum := P.add current.sum ((loaded.simulation.estimatedPrice.map fun price =>
    P.toNumber price.val).getD (P.ofInt 0))

def routeOf (loaded : ChartSimulation) : String :=
  loaded.simulation.originPostalCode ++ "->" ++ loaded.simulation.destinationPostalCode

/-- The loop of `routePerformance` for one simulation. -/
def addRoute (map : List (String × RouteSum N)) (loaded : ChartSimulation) :
    List (String × RouteSum N) :=
  adjust map (routeOf loaded) ⟨0, 0, P.ofInt 0⟩ (RouteSum.add P loaded)

def presentRoute (fullAccess : Bool) (entry : String × RouteSum N) :
    DashboardRoutePerformanceDto N where
  averagePrice :=
    if fullAccess && 0 < entry.2.count then some (round P (P.div entry.2.sum
      (P.ofInt entry.2.count)))
    else none
  optionCount := entry.2.options
  route := entry.1
  simulationCount := entry.2.count

def routePerformance (simulations : List ChartSimulation) (fullAccess : Bool) :
    List (DashboardRoutePerformanceDto N) :=
  (((simulations.foldl (addRoute P) []).map (presentRoute P fullAccess)).insertionSort
    fun a b => b.simulationCount ≤ a.simulationCount).take 8

def shipmentStatus (statuses : List ShipmentStatus) : List (DashboardPointDto ℕ) :=
  points (tally (statuses.map ShipmentStatus.text))

/-- The carriers of the options and whether these are selected. -/
def selectedCarriers (options : List (String × Bool)) : List (DashboardPointDto ℕ) :=
  ((points (tally ((options.filter Prod.snd).map Prod.fst))).insertionSort
    fun a b => b.value ≤ a.value).take 8

def conversionByPeriod (simulations shipments : List Time) : List (DashboardPointDto N) :=
  takeLast 14 (points ((tally (simulations.map monthDay)).map fun entry =>
    (entry.1, percent P (((tally (shipments.map monthDay)).lookup entry.1).getD 0) entry.2)))

/-- What the selected option of a simulation costs more than the cheapest one. -/
def addSavings (sum : N) (loaded : ChartSimulation) : N :=
  let cheapest := loaded.options.foldl (fun best option =>
    match best with
    | none => some option
    | some other =>
        if option.totalPrice.val < other.totalPrice.val then some option else some other)
    (none : Option FreightSimulationOption)
  match loaded.options.find? fun option => option.selected, cheapest with
  | some selected, some cheapest =>
      if cheapest.totalPrice.val < selected.totalPrice.val then
        P.add sum (P.toNumber (selected.totalPrice.val - cheapest.totalPrice.val))
      else sum
  | _, _ => sum

def estimateSavings (simulations : List ChartSimulation) : N :=
  simulations.foldl (addSavings P) (P.ofInt 0)

def presentHighlight (insight : Insight) : DashboardDecisionHighlightDto where
  actionUrl := insight.actionUrl
  category := insight.category
  severity := insight.severity
  title := insight.title
  value := ((insight.metricValue <|> insight.percentageChange).map fun value =>
    P.text (P.toNumber value.val)).getD ""

def presentActivity (log : AuditLog) : DashboardActivityDto where
  action := log.action
  createdAt := log.createdAt
  entityId := log.entityId
  entityType := log.entityType
  id := log.id

def presentQuality (job : Imports.ImportJob) : DashboardImportQualityDto where
  errorRows := job.counts.errorRows
  filename := job.filename
  id := job.id
  successRows := job.counts.successRows
  totalRows := job.totalRows

def importErrorRate (sum : ImportRowsSum) : N :=
  percent P (sum.errorRows.getD 0) (sum.totalRows.getD 0)

/-- The summary, from what the transactions have answered. -/
def presentSummary (tenantId : Id) (role : UserRole) (filters : DashboardFiltersDto)
    (period : InsightGenerationPeriod) (rows : SummaryRows)
    (filterOptions : DashboardFilterOptionsDto) (generatedAt : Time) : DashboardSummaryDto N :=
  let fullAccess : Bool := role ≠ .operator
  let averageEstimatedPrice := rows.freightAggregate.map P.toNumber
  let previousAverageEstimatedPrice := rows.previousFreightAggregate.map P.toNumber
  { accessScope := if fullAccess then .full else .operational
    comparisons := {
      costAverage := trend P averageEstimatedPrice previousAverageEstimatedPrice false
      delayedShipments := countTrend P rows.delayedShipments rows.previousDelayedShipments false
      freightSimulations :=
        countTrend P rows.freightSimulations rows.previousFreightSimulations true
      importErrorRate := trend P (some (importErrorRate P rows.importRowsAggregate))
        (some (importErrorRate P rows.previousImportRowsAggregate)) false
      shipments := countTrend P rows.shipmentsInPeriod rows.previousShipments true }
    filterOptions
    filters
    generatedAt
    period
    tenantId
    totals := {
      activeCarriers := rows.activeCarriers
      activeCustomers := rows.activeCustomers
      activeUsers := rows.activeUsers
      auditEvents := rows.auditEvents
      freightSimulations := rows.freightSimulations
      importJobs := rows.importJobs }
    freight := {
      averageEstimatedPrice := if fullAccess then averageEstimatedPrice else none
      averageLowestOption :=
        if fullAccess then rows.lowestOptionAggregate.map P.toNumber else none
      calculatedSimulations := rows.calculatedSimulations
      conversionRate := percent P rows.shipmentsInPeriod rows.freightSimulations
      estimatedSavings :=
        if fullAccess then round P (estimateSavings P rows.chartSimulations) else P.ofInt 0
      selectedAveragePrice :=
        if fullAccess then rows.selectedOptionAggregate.map P.toNumber else none
      selectedOptions := rows.selectedOptions
      shipmentsFromSimulations := rows.shipmentsInPeriod
      simulationsChangePercent := percentageChange P (P.ofInt rows.freightSimulations)
        (P.ofInt rows.previousFreightSimulations) }
    imports := {
      completed := rows.importsCompleted
      errorRate := importErrorRate P rows.importRowsAggregate
      failed := rows.importsFailed
      processing := rows.importsProcessing
      stalled := rows.stalledImports }
    operations := {
      delayedShipments := rows.delayedShipments
      deliveredShipments := rows.deliveredShipments
      failedShipments := rows.failedShipments
      inTransitShipments := rows.inTransitShipments
      successRate := percent P rows.deliveredShipments rows.shipmentsInPeriod
      totalShipments := rows.shipmentsInPeriod }
    charts := {
      carrierPerformance := carrierPerformance P rows.chartOptions fullAccess
      conversionByPeriod := conversionByPeriod P
        (rows.chartSimulations.map fun loaded => loaded.simulation.createdAt)
        (rows.chartShipments.map Prod.fst)
      costByPeriod := if fullAccess then costByPeriod P rows.chartSimulations else []
      importsQuality := rows.recentImports.map presentQuality
      routePerformance := routePerformance P rows.chartSimulations fullAccess
      selectedCarriers := selectedCarriers (rows.chartOptions.map fun option =>
        (option.carrierName, option.selected))
      shipmentStatus := shipmentStatus (rows.chartShipments.map Prod.snd)
      simulationsByPeriod := simulationsByPeriod
        (rows.chartSimulations.map fun loaded => loaded.simulation.createdAt) }
    decisionHighlights := rows.highlights.map (presentHighlight P)
    recentActivity := rows.recentActivity.map presentActivity }

end Figures

/-! ## The operation -/

def normalizeFilters (query : DashboardQueryDto) : DashboardFiltersDto where
  startDate := query.startDate.filter (· ≠ "")
  endDate := query.endDate.filter (· ≠ "")
  customerId := query.customerId.filter (· ≠ "")
  carrierId := query.carrierId.filter (· ≠ "")
  carrierServiceId := query.carrierServiceId.filter (· ≠ "")
  branchId := query.branchId.filter (· ≠ "")
  status := query.status

def thirtyDays : Time := 30 * 24 * 60 * 60 * 1000

def buildPeriod (now : Time) : InsightGenerationPeriod where
  currentStart := now - thirtyDays
  currentEnd := now
  previousStart := now - thirtyDays - thirtyDays
  previousEnd := now - thirtyDays

/-- `/^\d{4}-\d{2}-\d{2}$/` -/
def isDay (value : String) : Bool :=
  match value.toList with
  | [a, b, c, d, '-', e, f, '-', g, h] => [a, b, c, d, e, f, g, h].all Char.isDigit
  | _ => false

inductive Boundary
  | finish | start
  deriving DecidableEq

/-- An end given as a day is the end of that day. -/
def parseDateBoundary {N : Type} (P : DashboardPlatform N) (value : String)
    (boundary : Boundary) : Option Time :=
  (P.parseDate value).map fun date =>
    if boundary = .finish ∧ isDay value = true then date + 24 * 60 * 60 * 1000 else date

def periodFromFilters {N : Type} (P : DashboardPlatform N) (filters : DashboardFiltersDto)
    (now : Time) : Except ServiceError InsightGenerationPeriod :=
  match filters.startDate, filters.endDate with
  | none, none => .ok (buildPeriod now)
  | startDate, endDate =>
      match startDate.elim (some (now - thirtyDays)) (parseDateBoundary P · .start),
        endDate.elim (some now) (parseDateBoundary P · .finish) with
      | some currentStart, some currentEnd =>
          if currentStart < currentEnd then
            .ok ⟨currentStart, currentEnd, currentStart - (currentEnd - currentStart),
              currentStart⟩
          else .error (.badRequest "Periodo do dashboard invalido.")
      | _, _ => .error (.badRequest "Periodo do dashboard invalido.")

def activeShipmentStatuses : List ShipmentStatus :=
  [.created, .pickupScheduled, .pickedUp, .inTransit, .arrivedAtHub, .outForDelivery]

def terminalShipmentStatuses : List ShipmentStatus := [.delivered, .canceled, .returned]

def optionRelationFilter (tenantId : Id) (filters : DashboardFiltersDto) :
    Option OptionRelationFilter :=
  if filters.carrierId.isNone && filters.carrierServiceId.isNone then none
  else some ⟨tenantId, filters.carrierId, filters.carrierServiceId⟩

def simulationWhereFor (tenantId : Id) (filters : DashboardFiltersDto)
    (createdAt : DateTimeFilter) : FreightSimulationWhereInput where
  createdAt := createdAt
  tenantId := tenantId
  branchId := filters.branchId
  customerId := filters.customerId
  options := optionRelationFilter tenantId filters
  status := none

def optionWhereFor (tenantId : Id) (filters : DashboardFiltersDto)
    (createdAt : DateTimeFilter) : FreightSimulationOptionWhereInput where
  createdAt := createdAt
  tenantId := tenantId
  carrierId := filters.carrierId
  carrierServiceId := filters.carrierServiceId
  simulation :=
    if filters.branchId.isNone && filters.customerId.isNone then none
    else some ⟨filters.branchId, filters.customerId, tenantId⟩

def shipmentWhereFor (tenantId : Id) (filters : DashboardFiltersDto)
    (createdAt : DateTimeFilter) : ShipmentWhereInput where
  createdAt := createdAt
  tenantId := tenantId
  branchId := filters.branchId
  carrierId := filters.carrierId
  carrierServiceId := filters.carrierServiceId
  customerId := filters.customerId
  status := filters.status.elim .any .equals
  id := none
  estimatedBefore := none

def noMatch (base : ShipmentWhereInput) : ShipmentWhereInput :=
  { base with id := some "__no_match__" }

def statusMetricWhere (base : ShipmentWhereInput) (requested : Option ShipmentStatus)
    (allowed : List ShipmentStatus) : ShipmentWhereInput :=
  match requested with
  | some status => if allowed.contains status then base else noMatch base
  | none => { base with status := .among allowed }

def delayedMetricWhere (base : ShipmentWhereInput) (requested : Option ShipmentStatus)
    (cutoff : Time) : ShipmentWhereInput :=
  match requested with
  | some status =>
      if terminalShipmentStatuses.contains status then noMatch base
      else { base with estimatedBefore := some cutoff }
  | none =>
      { base with estimatedBefore := some cutoff, status := .notIn terminalShipmentStatuses }

def summaryQueries (tenantId : Id) (filters : DashboardFiltersDto)
    (period : InsightGenerationPeriod) (now stalledBefore : Time) : SummaryQueries :=
  let currentRange : DateTimeFilter := ⟨period.currentStart, period.currentEnd⟩
  let previousRange : DateTimeFilter := ⟨period.previousStart, period.previousEnd⟩
  let shipmentWhere := shipmentWhereFor tenantId filters currentRange
  let previousShipmentWhere := shipmentWhereFor tenantId filters previousRange
  { tenantId
    simulationWhere := simulationWhereFor tenantId filters currentRange
    previousSimulationWhere := simulationWhereFor tenantId filters previousRange
    optionWhere := optionWhereFor tenantId filters currentRange
    shipmentWhere
    previousShipmentWhere
    inTransitWhere := statusMetricWhere shipmentWhere filters.status activeShipmentStatuses
    delayedWhere := delayedMetricWhere shipmentWhere filters.status now
    previousDelayedWhere :=
      delayedMetricWhere previousShipmentWhere filters.status period.currentStart
    deliveredWhere := statusMetricWhere shipmentWhere filters.status [.delivered]
    failedWhere := statusMetricWhere shipmentWhere filters.status [.deliveryFailed]
    currentRange
    previousRange
    stalledBefore }

inductive DashboardCommand (N : Type)
  | now
  | readCache (key : CacheKey)
  | writeCache (key : CacheKey) (summary : DashboardSummaryDto N)
  | summarize (queries : SummaryQueries)
  | loadFilterOptions (tenantId : Id)

@[reducible] def DashboardCommand.Result {N : Type} : DashboardCommand N → Type
  | .now => Time
  | .readCache _ => Option (DashboardSummaryDto N)
  | .writeCache .. => Unit
  | .summarize _ => SummaryRows
  | .loadFilterOptions _ => DashboardFilterOptionsDto

@[reducible] def dashboardInterface (N : Type) : Interface :=
  ⟨DashboardCommand N, DashboardCommand.Result, ServiceError⟩

def writeCache {N : Type} (s : DashboardStore N) (key : CacheKey)
    (summary : DashboardSummaryDto N) : DashboardStore N :=
  { s with cache := (key, summary) :: s.cache.filter fun entry => entry.1 != key }

/-- The clock does not fail. -/
def execute {N : Type} (P : DashboardPlatform N) :
    (c : DashboardCommand N) → Input → DashboardStore N →
      Response (dashboardInterface N) c × DashboardStore N
  | .now, input, s => (.ok input.now, s)
  | .readCache key, input, s =>
      if input.fault then (.error .fault, s) else (.ok (s.cache.lookup key), s)
  | .writeCache key summary, input, s =>
      if input.fault then (.error .fault, s) else (.ok (), writeCache s key summary)
  | .summarize queries, input, s =>
      if input.fault then (.error .fault, s) else (.ok (summaryRows P s input.tie queries), s)
  | .loadFilterOptions tenantId, input, s =>
      if input.fault then (.error .fault, s)
      else (.ok (loadFilterOptions P s input.tie tenantId), s)

section Operation

variable {N : Type} (P : DashboardPlatform N)

abbrev call (c : DashboardCommand N) : Program (dashboardInterface N) c.Result :=
  @Program.perform (dashboardInterface N) c

def calculateSummary (tenantId : Id) (role : UserRole) (filters : DashboardFiltersDto) :
    Program (dashboardInterface N) (DashboardSummaryDto N) := do
  let today ← call .now
  let period ← Program.ofExcept (periodFromFilters P filters today)
  let now ← call .now
  let later ← call .now
  let rows ← call (.summarize
    (summaryQueries tenantId filters period now (later - 30 * 60 * 1000)))
  let filterOptions ← call (.loadFilterOptions tenantId)
  let generatedAt ← call .now
  pure (presentSummary P tenantId role filters period rows filterOptions generatedAt)

/-- The dashboard remains available when the cache is not. -/
def getSummary (tenantId : Id) (role : UserRole) (query : DashboardQueryDto) :
    Program (dashboardInterface N) (DashboardSummaryDto N) := do
  let filters := normalizeFilters query
  let cached ← Program.tryCatch (call (.readCache ⟨tenantId, role, filters⟩)) fun _ => pure none
  match cached with
  | some summary => pure summary
  | none => do
      let summary ← calculateSummary P tenantId role filters
      Program.tryCatch (call (.writeCache ⟨tenantId, role, filters⟩ summary)) fun _ => pure ()
      pure summary

end Operation

end Logistics.Dashboard
