import Logistics.Library.Table
import Logistics.Schema.Catalog
import Logistics.Schema.Errors
import Logistics.Schema.Shipment
import Logistics.Schema.Simulation

/-!
# The freight store

The tables of quoting, shipments and tracking. The primary keys and the unique
indexes of the schema are part of the table types. Identifiers are generated as
UUIDs, so a collision of generated primary keys is not among the unique
violations of the tables whose inserts look at the error code.
-/

namespace Logistics

open Logistics.Library

/-- A table whose only key is its identifier. -/
abbrev IdTable (α : Type) (id : α → Id) : Type :=
  Table α Id fun row => [id row]

inductive RateTableKey
  | id (id : Id)
  | version (tenantId carrierServiceId : Id) (version : Nat)
  deriving DecidableEq

def FreightRateTable.keys (row : FreightRateTable) : List RateTableKey :=
  [.id row.id, .version row.tenantId row.carrierServiceId row.version]

inductive RateTableCoverageKey
  | id (id : Id)
  | link (tenantId rateTableId coverageId : Id)
  deriving DecidableEq

def FreightRateTableCoverage.keys (row : FreightRateTableCoverage) : List RateTableCoverageKey :=
  [.id row.id, .link row.tenantId row.rateTableId row.coverageId]

inductive ShipmentKey
  | id (id : Id)
  | simulationId (id : Id)
  | selectedOptionId (id : Id)
  | trackingCode (tenantId : Id) (code : String)
  deriving DecidableEq

def Shipment.keys (row : Shipment) : List ShipmentKey :=
  [.id row.id, .simulationId row.simulationId, .selectedOptionId row.selectedOptionId,
    .trackingCode row.tenantId row.trackingCode]

/-- `@@unique([tenantId, shipmentId, idempotencyKey])`; a null key is no key. -/
def TrackingEvent.keys (row : TrackingEvent) : List (Id × Id × String) :=
  match row.idempotencyKey with
  | some key => [(row.tenantId, row.shipmentId, key)]
  | none => []

/-- The name of a user, as far as freight operations present it. -/
structure UserName where
  id : Id
  name : String
  deriving DecidableEq

structure AuditRecordInput where
  action : AuditAction
  actorId : Option Id
  entityId : Option Id
  entityType : Option String
  metadata : List (String × Option String)
  tenantId : Option Id
  deriving DecidableEq

structure Store where
  carriers : IdTable Carrier Carrier.id
  carrierServices : IdTable CarrierService CarrierService.id
  carrierCoverages : IdTable CarrierCoverage CarrierCoverage.id
  freightRateTables : Table FreightRateTable RateTableKey FreightRateTable.keys
  freightRateRanges : IdTable FreightRateRange FreightRateRange.id
  freightAdditionalCharges : IdTable FreightAdditionalCharge FreightAdditionalCharge.id
  freightRateTableCoverages :
    Table FreightRateTableCoverage RateTableCoverageKey FreightRateTableCoverage.keys
  customers : IdTable Customer Customer.id
  branches : IdTable Branch Branch.id
  users : IdTable UserName UserName.id
  freightSimulations : IdTable FreightSimulation FreightSimulation.id
  freightSimulationAddresses : List FreightSimulationAddress
  freightSimulationPackages : IdTable FreightSimulationPackage FreightSimulationPackage.id
  freightSimulationOptions : IdTable FreightSimulationOption FreightSimulationOption.id
  freightSimulationPriceComponents : List FreightSimulationPriceComponent
  shipments : Table Shipment ShipmentKey Shipment.keys
  shipmentAddresses : List ShipmentAddress
  shipmentPackages : List ShipmentPackage
  trackingEvents : Table TrackingEvent (Id × Id × String) TrackingEvent.keys
  auditLogs : List AuditRecordInput

def Store.empty : Store where
  carriers := .empty
  carrierServices := .empty
  carrierCoverages := .empty
  freightRateTables := .empty
  freightRateRanges := .empty
  freightAdditionalCharges := .empty
  freightRateTableCoverages := .empty
  customers := .empty
  branches := .empty
  users := .empty
  freightSimulations := .empty
  freightSimulationAddresses := []
  freightSimulationPackages := .empty
  freightSimulationOptions := .empty
  freightSimulationPriceComponents := []
  shipments := .empty
  shipmentAddresses := []
  shipmentPackages := []
  trackingEvents := .empty
  auditLogs := []

/-- What the environment decides about one call: the clock, the identifiers
generated for new rows, whether the call fails for a reason of its own, and the
order of rows that the requested order leaves open. -/
structure Input where
  now : Time
  ids : ℕ → Id
  fault : Bool
  tie : Id → ℕ

end Logistics
