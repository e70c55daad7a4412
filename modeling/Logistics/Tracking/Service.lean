import Mathlib.Data.List.Sort
import Logistics.Library.Interleaving
import Logistics.Library.Text
import Logistics.Schema.Store
import Logistics.Tracking.Status

/-!
# The tracking operations

`createTrackingEvent`, `updateShipmentStatus` and `getShipment` of the logistics
administration service, as programs over the calls they make: each read, the
transaction that records an event and writes the status, the audit record and
the notification. Only the calls touch the store, and each is atomic, so the
check of a transition stands apart from the write it guards.
-/

namespace Logistics.Tracking

open Logistics.Library

structure CreateTrackingEventDto where
  eventType : TrackingEventType
  status : Option ShipmentStatus
  description : Option String
  occurredAt : Time
  location : Option String
  externalCode : Option String
  idempotencyKey : Option String
  deriving DecidableEq

/-- The key an event is stored under. -/
def CreateTrackingEventDto.storedKey (input : CreateTrackingEventDto) : Option String :=
  input.idempotencyKey.map trim

/-- What the transaction that records an event returns. -/
structure RecordedEvent where
  event : TrackingEvent
  shipment : Shipment

structure TrackingEventView where
  id : Id
  shipmentId : Id
  status : ShipmentStatus
  eventType : TrackingEventType
  occurredAt : Time
  deriving DecidableEq

/-- The `id` and `name` selected from a related row. -/
structure NamedRow where
  id : Id
  name : String
  deriving DecidableEq

/-- A tracking event with the name of its creator. -/
structure AuthoredEvent where
  event : TrackingEvent
  createdBy : Option String
  deriving DecidableEq

/-- A shipment with its addresses, packages and ordered events. -/
structure ShipmentRecord where
  shipment : Shipment
  addresses : List ShipmentAddress
  packages : List ShipmentPackage
  trackingEvents : List AuthoredEvent

structure TimelineEntry where
  id : Id
  eventType : TrackingEventType
  status : Option ShipmentStatus
  description : Option String
  occurredAt : Time
  receivedAt : Time
  location : Option String
  externalCode : Option String
  source : String
  deriving DecidableEq

structure ShipmentView where
  id : Id
  trackingCode : String
  externalReference : Option String
  status : ShipmentStatus
  freightValue : Fixed 2
  cargoValue : Option (Fixed 2)
  realWeightKg : Fixed 3
  chargeableWeightKg : Fixed 3
  estimatedDeliveryAt : Time
  deliveredAt : Option Time
  createdAt : Time
  carrier : Option NamedRow
  service : Option NamedRow
  customer : Option NamedRow
  branch : Option NamedRow
  addresses : List ShipmentAddress
  packages : List ShipmentPackage
  tracking : List TimelineEntry

/-! ## Calls -/

inductive Command
  | now
  | findShipment (id tenantId : Id)
  | findShipmentRecord (id tenantId : Id)
  | findCarrier (id tenantId : Id)
  | findCarrierService (id tenantId : Id)
  | findCustomer (id tenantId : Id)
  | findBranch (id tenantId : Id)
  /-- The transaction of `createTrackingEvent`; `current` is the row read before
  it. -/
  | recordEvent (tenantId actorId shipmentId : Id) (input : CreateTrackingEventDto)
      (current : Shipment)
  | recordAudit (input : AuditRecordInput)
  | emitTrackingUpdate (tenantId shipmentId eventId : Id) (status : ShipmentStatus)
      (eventType : TrackingEventType)

@[reducible] def Command.Result : Command → Type
  | .now => Time
  | .findShipment .. => Option Shipment
  | .findShipmentRecord .. => Option ShipmentRecord
  | .findCarrier .. | .findCarrierService .. | .findCustomer .. | .findBranch .. =>
      Option NamedRow
  | .recordEvent .. => RecordedEvent
  | .recordAudit _ => Unit
  | .emitTrackingUpdate .. => Unit

@[reducible] def trackingInterface : Interface := ⟨Command, Command.Result, ServiceError⟩

abbrev call (c : Command) : Program trackingInterface c.Result :=
  @Program.perform trackingInterface c

def findShipment (s : Store) (id tenantId : Id) : Option Shipment :=
  s.shipments.rows.find? fun row => row.id == id && row.tenantId == tenantId

/-- The row of a new event; the clock fills its default instants. -/
def trackingEventRow (input : Input) (tenantId actorId shipmentId : Id)
    (data : CreateTrackingEventDto) : TrackingEvent where
  id := input.ids 0
  tenantId := tenantId
  shipmentId := shipmentId
  createdById := some actorId
  eventType := data.eventType
  status := data.status
  description := data.description.map trim
  occurredAt := data.occurredAt
  receivedAt := input.now
  location := data.location.map trim
  externalCode := data.externalCode.map trim
  idempotencyKey := data.storedKey
  createdAt := input.now

/-- The status and delivery instant written to a shipment. -/
def writeStatus (input : Input) (status : ShipmentStatus) (current row : Shipment) :
    Shipment :=
  { row with
    status := status
    deliveredAt := if status = .delivered then some input.now else current.deliveredAt }

theorem writeStatus_keys (input : Input) (status : ShipmentStatus)
    (current row : Shipment) : (writeStatus input status current row).keys = row.keys := rfl

/-- Insert the event and, when it carries a status, write it to the shipment.
Both happen or neither. -/
def recordEvent (s : Store) (input : Input) (tenantId actorId shipmentId : Id)
    (data : CreateTrackingEventDto) (current : Shipment) :
    Except ServiceError RecordedEvent × Store :=
  let event := trackingEventRow input tenantId actorId shipmentId data
  match s.trackingEvents.tryInsert event with
  | none => (.error .uniqueViolation, s)
  | some trackingEvents =>
      match data.status with
      | none => (.ok ⟨event, current⟩, { s with trackingEvents })
      | some status =>
          match s.shipments.rows.find? fun row => row.id == shipmentId with
          | none => (.error .recordNotFound, s)
          | some row =>
              (.ok ⟨event, writeStatus input status current row⟩,
                { s with
                  trackingEvents
                  shipments := s.shipments.modify (fun row => row.id == shipmentId)
                    (writeStatus input status current) (writeStatus_keys input status current) })

/-- `orderBy: [{ occurredAt: 'asc' }, { createdAt: 'asc' }]`; the database
decides between rows that agree on both. -/
def timelineLE (tie : Id → ℕ) (a b : TrackingEvent) : Prop :=
  a.occurredAt < b.occurredAt ∨ a.occurredAt = b.occurredAt ∧
    (a.createdAt < b.createdAt ∨ a.createdAt = b.createdAt ∧ tie a.id ≤ tie b.id)

instance (tie : Id → ℕ) : DecidableRel (timelineLE tie) :=
  fun _ _ => inferInstanceAs (Decidable (_ ∨ _))

def timeline (s : Store) (tie : Id → ℕ) (shipmentId : Id) : List TrackingEvent :=
  (s.trackingEvents.rows.filter fun event => event.shipmentId == shipmentId).insertionSort
    (timelineLE tie)

def shipmentRecord (s : Store) (tie : Id → ℕ) (shipment : Shipment) : ShipmentRecord where
  shipment := shipment
  addresses := s.shipmentAddresses.filter fun row => row.shipmentId == shipment.id
  packages := s.shipmentPackages.filter fun row => row.shipmentId == shipment.id
  trackingEvents := (timeline s tie shipment.id).map fun event =>
    ⟨event, event.createdById.bind fun id =>
      (s.users.rows.find? fun row => row.id == id).map UserName.name⟩

def execute : (c : Command) → Input → Store → Response trackingInterface c × Store
  | .now, input, s => (.ok input.now, s)
  | .findShipment id tenantId, input, s =>
      if input.fault then (.error .fault, s) else (.ok (findShipment s id tenantId), s)
  | .findShipmentRecord id tenantId, input, s =>
      if input.fault then (.error .fault, s)
      else (.ok ((findShipment s id tenantId).map (shipmentRecord s input.tie)), s)
  | .findCarrier id tenantId, input, s =>
      if input.fault then (.error .fault, s)
      else
        (.ok ((s.carriers.rows.find? fun row =>
          row.id == id && row.tenantId == tenantId).map fun row => ⟨row.id, row.name⟩), s)
  | .findCarrierService id tenantId, input, s =>
      if input.fault then (.error .fault, s)
      else
        (.ok ((s.carrierServices.rows.find? fun row =>
          row.id == id && row.tenantId == tenantId).map fun row => ⟨row.id, row.name⟩), s)
  | .findCustomer id tenantId, input, s =>
      if input.fault then (.error .fault, s)
      else
        (.ok ((s.customers.rows.find? fun row =>
          row.id == id && row.tenantId == tenantId).map fun row => ⟨row.id, row.name⟩), s)
  | .findBranch id tenantId, input, s =>
      if input.fault then (.error .fault, s)
      else
        (.ok ((s.branches.rows.find? fun row =>
          row.id == id && row.tenantId == tenantId).map fun row => ⟨row.id, row.name⟩), s)
  | .recordEvent tenantId actorId shipmentId data current, input, s =>
      if input.fault then (.error .fault, s)
      else recordEvent s input tenantId actorId shipmentId data current
  | .recordAudit audit, input, s =>
      if input.fault then (.error .fault, s)
      else (.ok (), { s with auditLogs := s.auditLogs ++ [audit] })
  | .emitTrackingUpdate .., input, s =>
      if input.fault then (.error .fault, s) else (.ok (), s)

/-! ## Operations -/

def createTrackingEvent (tenantId actorId shipmentId : Id)
    (input : CreateTrackingEventDto) : Program trackingInterface TrackingEventView := do
  let some current ← call (.findShipment shipmentId tenantId)
    | throw (.notFound "Shipment was not found.")
  Program.throwIf (input.status.any fun status => !isValidTransition current.status status)
    (.badRequest "Transição de tracking não permitida.")
  try
    let result ← call (.recordEvent tenantId actorId shipmentId input current)
    call (.recordAudit {
      action := .adminOperation
      actorId := some actorId
      entityId := some shipmentId
      entityType := some "TrackingEvent"
      metadata := [("operation", some "create"), ("eventId", some result.event.id),
        ("status", input.status.map ShipmentStatus.text)]
      tenantId := some tenantId })
    call (.emitTrackingUpdate tenantId shipmentId result.event.id result.shipment.status
      result.event.eventType)
    pure {
      id := result.event.id
      shipmentId := shipmentId
      status := result.shipment.status
      eventType := result.event.eventType
      occurredAt := result.event.occurredAt }
  catch error =>
    Program.throwIf (error = .uniqueViolation)
      (.badRequest "Evento duplicado para esta operação.")
    throw error

def updateShipmentStatus (tenantId actorId id : Id) (status : ShipmentStatus) :
    Program trackingInterface TrackingEventView := do
  let some _ ← call (.findShipment id tenantId)
    | throw (.notFound "Shipment was not found.")
  let now ← call .now
  createTrackingEvent tenantId actorId id {
    eventType := .statusChanged
    status := some status
    description := some "Atualizacao operacional registrada."
    occurredAt := now
    location := none
    externalCode := none
    idempotencyKey := none }

def timelineEntry (row : AuthoredEvent) : TimelineEntry where
  id := row.event.id
  eventType := row.event.eventType
  status := row.event.status
  description := row.event.description
  occurredAt := row.event.occurredAt
  receivedAt := row.event.receivedAt
  location := row.event.location
  externalCode := row.event.externalCode
  source := row.createdBy.getD "Sistema"

def getShipment (tenantId id : Id) : Program trackingInterface ShipmentView := do
  let some record ← call (.findShipmentRecord id tenantId)
    | throw (.notFound "Shipment was not found.")
  let shipment := record.shipment
  let carrier ← call (.findCarrier shipment.carrierId tenantId)
  let service ← call (.findCarrierService shipment.carrierServiceId tenantId)
  let customer ← shipment.customerId.elim (pure none) fun id => call (.findCustomer id tenantId)
  let branch ← shipment.branchId.elim (pure none) fun id => call (.findBranch id tenantId)
  pure {
    id := shipment.id
    trackingCode := shipment.trackingCode
    externalReference := shipment.externalReference
    status := shipment.status
    freightValue := shipment.freightValue
    cargoValue := shipment.cargoValue
    realWeightKg := shipment.realWeightKg
    chargeableWeightKg := shipment.chargeableWeightKg
    estimatedDeliveryAt := shipment.estimatedDeliveryAt
    deliveredAt := shipment.deliveredAt
    createdAt := shipment.createdAt
    carrier, service, customer, branch
    addresses := record.addresses
    packages := record.packages
    tracking := record.trackingEvents.map timelineEntry }

/-- The operations that write, as requests. -/
inductive Request
  | createTrackingEvent (tenantId actorId shipmentId : Id) (input : CreateTrackingEventDto)
  | updateShipmentStatus (tenantId actorId id : Id) (status : ShipmentStatus)

def handle : Request → Program trackingInterface TrackingEventView
  | .createTrackingEvent tenantId actorId shipmentId input =>
      createTrackingEvent tenantId actorId shipmentId input
  | .updateShipmentStatus tenantId actorId id status =>
      updateShipmentStatus tenantId actorId id status

def trackingSystem : System trackingInterface Request TrackingEventView Input Store :=
  ⟨execute, handle⟩

end Logistics.Tracking
