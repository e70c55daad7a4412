import Logistics.Auth.Schema
import Logistics.Imports.Schema

/-!
# What the dashboard reads and shows

The rows the summary is put together from, with the columns it reads and those that
hold money, the filters of its queries, and the summary itself. `N` is the type of
the numbers of the platform; a count is a natural number.
-/

namespace Logistics.Dashboard

open Logistics.Library

/-! ## Rows -/

inductive InsightCategory
  | cost | deadline | carrier | route | customer | operation | imports | dataQuality
  deriving DecidableEq, Repr

inductive InsightSeverity
  | info | opportunity | warning | critical
  deriving DecidableEq, Repr

def InsightSeverity.rank : InsightSeverity → ℕ
  | .info => 1
  | .opportunity => 2
  | .warning => 3
  | .critical => 4

inductive InsightStatus
  | new | read | dismissed | resolved
  deriving DecidableEq, Repr

structure FreightSimulation where
  id : Id
  tenantId : Id
  branchId : Option Id
  customerId : Option Id
  originPostalCode : String
  destinationPostalCode : String
  cargoValue : Option (Fixed 2)
  estimatedPrice : Option (Fixed 2)
  status : FreightSimulationStatus
  createdAt : Time
  deriving DecidableEq

structure FreightSimulationOption where
  id : Id
  tenantId : Id
  simulationId : Id
  carrierId : Id
  carrierServiceId : Id
  carrierName : String
  deadlineDays : Int
  totalPrice : Fixed 2
  cheapest : Bool
  selected : Bool
  createdAt : Time
  deriving DecidableEq

structure Insight where
  id : Id
  tenantId : Id
  category : InsightCategory
  severity : InsightSeverity
  title : String
  metricValue : Option (Fixed 4)
  percentageChange : Option (Fixed 4)
  actionUrl : Option String
  status : InsightStatus
  generatedAt : Time
  deriving DecidableEq

structure AuditLog where
  id : Id
  tenantId : Option Id
  action : AuditAction
  entityType : Option String
  entityId : Option Id
  createdAt : Time
  deriving DecidableEq

/-! ## Filters -/

structure DashboardQueryDto where
  startDate : Option String
  endDate : Option String
  customerId : Option String
  carrierId : Option String
  carrierServiceId : Option String
  branchId : Option String
  status : Option ShipmentStatus

structure DashboardFiltersDto where
  startDate : Option String
  endDate : Option String
  customerId : Option Id
  carrierId : Option Id
  carrierServiceId : Option Id
  branchId : Option Id
  status : Option ShipmentStatus
  deriving DecidableEq

structure InsightGenerationPeriod where
  currentStart : Time
  currentEnd : Time
  previousStart : Time
  previousEnd : Time
  deriving DecidableEq

structure DateTimeFilter where
  gte : Time
  lt : Time

def DateTimeFilter.holds (filter : DateTimeFilter) (time : Time) : Bool :=
  filter.gte ≤ time && time < filter.lt

/-- An option of the simulation, by carrier and service. -/
structure OptionRelationFilter where
  tenantId : Id
  carrierId : Option Id
  carrierServiceId : Option Id

def OptionRelationFilter.holds (filter : OptionRelationFilter) (row : FreightSimulationOption) :
    Bool :=
  row.tenantId == filter.tenantId && filter.carrierId.all (fun id => row.carrierId == id) &&
    filter.carrierServiceId.all fun id => row.carrierServiceId == id

structure FreightSimulationWhereInput where
  createdAt : DateTimeFilter
  tenantId : Id
  branchId : Option Id
  customerId : Option Id
  options : Option OptionRelationFilter
  status : Option FreightSimulationStatus

def FreightSimulationWhereInput.holds (filter : FreightSimulationWhereInput)
    (options : List FreightSimulationOption) (row : FreightSimulation) : Bool :=
  filter.createdAt.holds row.createdAt && row.tenantId == filter.tenantId &&
    filter.branchId.all (fun id => row.branchId == some id) &&
    filter.customerId.all (fun id => row.customerId == some id) &&
    filter.options.all (fun relation => options.any fun option =>
      option.simulationId == row.id && relation.holds option) &&
    filter.status.all fun status => row.status == status

/-- The simulation of an option, by branch and customer. -/
structure SimulationRelationFilter where
  branchId : Option Id
  customerId : Option Id
  tenantId : Id

def SimulationRelationFilter.holds (filter : SimulationRelationFilter) (row : FreightSimulation) :
    Bool :=
  filter.branchId.all (fun id => row.branchId == some id) &&
    filter.customerId.all (fun id => row.customerId == some id) && row.tenantId == filter.tenantId

structure FreightSimulationOptionWhereInput where
  createdAt : DateTimeFilter
  tenantId : Id
  carrierId : Option Id
  carrierServiceId : Option Id
  simulation : Option SimulationRelationFilter

def FreightSimulationOptionWhereInput.holds (filter : FreightSimulationOptionWhereInput)
    (simulations : List FreightSimulation) (row : FreightSimulationOption) : Bool :=
  filter.createdAt.holds row.createdAt && row.tenantId == filter.tenantId &&
    filter.carrierId.all (fun id => row.carrierId == id) &&
    filter.carrierServiceId.all (fun id => row.carrierServiceId == id) &&
    filter.simulation.all fun relation => simulations.any fun simulation =>
      simulation.id == row.simulationId && relation.holds simulation

inductive StatusFilter
  | any
  | equals (status : ShipmentStatus)
  | among (statuses : List ShipmentStatus)
  | notIn (statuses : List ShipmentStatus)

def StatusFilter.holds (status : ShipmentStatus) : StatusFilter → Bool
  | .any => true
  | .equals other => status == other
  | .among statuses => statuses.contains status
  | .notIn statuses => !statuses.contains status

structure ShipmentWhereInput where
  createdAt : DateTimeFilter
  tenantId : Id
  branchId : Option Id
  carrierId : Option Id
  carrierServiceId : Option Id
  customerId : Option Id
  status : StatusFilter
  id : Option Id
  /-- The bound of `estimatedDeliveryAt`. -/
  estimatedBefore : Option Time

def ShipmentWhereInput.holds (filter : ShipmentWhereInput) (row : Shipment) : Bool :=
  filter.createdAt.holds row.createdAt && row.tenantId == filter.tenantId &&
    filter.branchId.all (fun id => row.branchId == some id) &&
    filter.carrierId.all (fun id => row.carrierId == id) &&
    filter.carrierServiceId.all (fun id => row.carrierServiceId == id) &&
    filter.customerId.all (fun id => row.customerId == some id) &&
    filter.status.holds row.status && filter.id.all (fun id => row.id == id) &&
    filter.estimatedBefore.all fun time => row.estimatedDeliveryAt < time

/-! ## The summary -/

inductive TrendDirection
  | up | down | flat | none
  deriving DecidableEq, Repr

structure DashboardTrendDto (N : Type) where
  absoluteChange : Option N
  current : Option N
  direction : TrendDirection
  favorable : Option Bool
  percentageChange : Option N
  previous : Option N
  deriving DecidableEq

structure DashboardFilterOptionDto where
  id : String
  label : String
  deriving DecidableEq

structure DashboardServiceOptionDto extends DashboardFilterOptionDto where
  carrierId : Id
  deriving DecidableEq

structure DashboardFilterOptionsDto where
  branches : List DashboardFilterOptionDto
  carrierServices : List DashboardServiceOptionDto
  carriers : List DashboardFilterOptionDto
  customers : List DashboardFilterOptionDto
  shipmentStatuses : List DashboardFilterOptionDto
  deriving DecidableEq

/-- A point of a series, or the number of shipments in a status. -/
structure DashboardPointDto (V : Type) where
  label : String
  value : V
  deriving DecidableEq

structure DashboardCarrierPerformanceDto (N : Type) where
  averageDeadlineDays : N
  averagePrice : Option N
  carrierId : Id
  carrierName : String
  optionCount : ℕ
  selectedCount : ℕ
  deriving DecidableEq

structure DashboardRoutePerformanceDto (N : Type) where
  averagePrice : Option N
  optionCount : ℕ
  route : String
  simulationCount : ℕ
  deriving DecidableEq

structure DashboardImportQualityDto where
  errorRows : ℕ
  filename : String
  id : Id
  successRows : ℕ
  totalRows : ℕ
  deriving DecidableEq

structure DashboardDecisionHighlightDto where
  actionUrl : Option String
  category : InsightCategory
  severity : InsightSeverity
  title : String
  value : String
  deriving DecidableEq

structure DashboardActivityDto where
  action : AuditAction
  createdAt : Time
  entityId : Option Id
  entityType : Option String
  id : Id
  deriving DecidableEq

structure DashboardComparisons (N : Type) where
  costAverage : DashboardTrendDto N
  delayedShipments : DashboardTrendDto N
  freightSimulations : DashboardTrendDto N
  importErrorRate : DashboardTrendDto N
  shipments : DashboardTrendDto N
  deriving DecidableEq

structure DashboardTotals where
  activeCarriers : ℕ
  activeCustomers : ℕ
  activeUsers : ℕ
  auditEvents : ℕ
  freightSimulations : ℕ
  importJobs : ℕ
  deriving DecidableEq

structure DashboardFreight (N : Type) where
  averageEstimatedPrice : Option N
  averageLowestOption : Option N
  calculatedSimulations : ℕ
  conversionRate : N
  estimatedSavings : N
  selectedAveragePrice : Option N
  selectedOptions : ℕ
  shipmentsFromSimulations : ℕ
  simulationsChangePercent : Option N
  deriving DecidableEq

structure DashboardImports (N : Type) where
  completed : ℕ
  errorRate : N
  failed : ℕ
  processing : ℕ
  stalled : ℕ
  deriving DecidableEq

structure DashboardOperations (N : Type) where
  delayedShipments : ℕ
  deliveredShipments : ℕ
  failedShipments : ℕ
  inTransitShipments : ℕ
  successRate : N
  totalShipments : ℕ
  deriving DecidableEq

structure DashboardCharts (N : Type) where
  carrierPerformance : List (DashboardCarrierPerformanceDto N)
  conversionByPeriod : List (DashboardPointDto N)
  costByPeriod : List (DashboardPointDto N)
  importsQuality : List DashboardImportQualityDto
  routePerformance : List (DashboardRoutePerformanceDto N)
  selectedCarriers : List (DashboardPointDto ℕ)
  shipmentStatus : List (DashboardPointDto ℕ)
  simulationsByPeriod : List (DashboardPointDto ℕ)
  deriving DecidableEq

inductive AccessScope
  | full | operational
  deriving DecidableEq, Repr

structure DashboardSummaryDto (N : Type) where
  accessScope : AccessScope
  comparisons : DashboardComparisons N
  filterOptions : DashboardFilterOptionsDto
  filters : DashboardFiltersDto
  generatedAt : Time
  period : InsightGenerationPeriod
  tenantId : Id
  totals : DashboardTotals
  freight : DashboardFreight N
  imports : DashboardImports N
  operations : DashboardOperations N
  charts : DashboardCharts N
  decisionHighlights : List DashboardDecisionHighlightDto
  recentActivity : List DashboardActivityDto
  deriving DecidableEq

/-! ## The store -/

/-- What a cached summary is found by. -/
structure CacheKey where
  tenantId : Id
  role : UserRole
  filters : DashboardFiltersDto
  deriving DecidableEq

structure DashboardStore (N : Type) where
  customers : List Customer
  carriers : List Carrier
  carrierServices : List CarrierService
  branches : List Branch
  users : List Auth.User
  freightSimulations : List FreightSimulation
  freightSimulationOptions : List FreightSimulationOption
  freightSimulationPriceComponents : List FreightSimulationPriceComponent
  shipments : List Shipment
  importJobs : List Imports.ImportJob
  insights : List Insight
  auditLogs : List AuditLog
  cache : List (CacheKey × DashboardSummaryDto N)

def DashboardStore.empty (N : Type) : DashboardStore N where
  customers := []
  carriers := []
  carrierServices := []
  branches := []
  users := []
  freightSimulations := []
  freightSimulationOptions := []
  freightSimulationPriceComponents := []
  shipments := []
  importJobs := []
  insights := []
  auditLogs := []
  cache := []

end Logistics.Dashboard
