import Logistics.Library.Interleaving
import Logistics.Quoting.Service

/-!
# From a quote to a shipment

`selectOption` and `createShipment` of the freight simulation service, beside
`create`. Selecting replaces the selection of a simulation in one transaction.
Creating a shipment reads the simulation with its options, looks for a shipment
of the simulation, and then stores one with copies of the addresses and the
packages; a unique key that is taken becomes a conflict.
-/

namespace Logistics.Shipping

open Logistics.Library Logistics.Quoting

/-- A simulation with everything `loadSimulation` includes that is used here. -/
structure LoadedSimulation where
  simulation : FreightSimulation
  addresses : List FreightSimulationAddress
  options : List FreightSimulationOption
  packages : List FreightSimulationPackage

/-! ## Tracking codes -/

/-- `getUTCFullYear`: the Gregorian year of an instant, counted in years that
begin in March from the year 0. -/
def utcFullYear (time : Time) : Int :=
  let days := time / 86400000 + 719468
  let era := days / 146097
  let dayOfEra := days % 146097
  let yearOfEra := (dayOfEra - dayOfEra / 1460 + dayOfEra / 36524 - dayOfEra / 146096) / 365
  let dayOfYear := dayOfEra - (365 * yearOfEra + yearOfEra / 4 - yearOfEra / 100)
  -- January and February belong to the calendar year that follows
  let month := (5 * dayOfYear + 2) / 153
  yearOfEra + era * 400 + if month ≥ 10 then 1 else 0

def trackingCode (P : Platform) (simulation : FreightSimulation) : String :=
  "NF-" ++ toString (utcFullYear simulation.createdAt) ++ "-" ++
    P.toUpperCase (String.ofList (simulation.id.toList.take 8))

/-! ## Calls -/

inductive ShippingCommand
  | findOption (id simulationId tenantId : Id)
  | selectOption (simulationId tenantId optionId : Id)
  | loadSimulation (id tenantId : Id)
  | findShipmentOf (simulationId : Id)
  | storeShipment (tenantId actorId : Id) (simulation : LoadedSimulation)
      (selected : FreightSimulationOption)
  | findShipment (id tenantId : Id)
  | findServiceNames (carrierId carrierServiceId tenantId : Id)

@[reducible] def ShippingCommand.Result : ShippingCommand → Type
  | .findOption .. => Option FreightSimulationOption
  | .selectOption .. => Unit
  | .loadSimulation .. => Option LoadedSimulation
  | .findShipmentOf _ => Option Shipment
  | .storeShipment .. => Shipment
  | .findShipment .. => Option Shipment
  | .findServiceNames .. => Option String × Option String

/-- The calls of a quote, and those of selecting and shipping. -/
@[reducible] def freightInterface : Interface :=
  quotingInterface.extend ShippingCommand ShippingCommand.Result

abbrev quoting (c : Quoting.Command) : Program freightInterface c.Result :=
  @Program.perform freightInterface (.inl c)

abbrev call (c : ShippingCommand) : Program freightInterface c.Result :=
  @Program.perform freightInterface (.inr c)

/-- The options in the order of the answer. -/
def loadedSimulation (s : Store) (tie : Id → ℕ) (simulation : FreightSimulation) :
    LoadedSimulation where
  simulation := simulation
  addresses := s.freightSimulationAddresses.filter fun row => row.simulationId == simulation.id
  options := (s.freightSimulationOptions.rows.filter fun row =>
    row.simulationId == simulation.id).insertionSort (optionLE tie)
  packages := s.freightSimulationPackages.rows.filter fun row =>
    row.simulationId == simulation.id

def unselect (row : FreightSimulationOption) : FreightSimulationOption :=
  { row with selected := false, selectedAt := none }

def select (now : Time) (row : FreightSimulationOption) : FreightSimulationOption :=
  { row with selected := true, selectedAt := some now }

/-- The transaction of `selectOption`. -/
def selectOptionRows (s : Store) (now : Time) (simulationId tenantId optionId : Id) :
    Except ServiceError Unit × Store :=
  if s.freightSimulationOptions.rows.any fun row => row.id == optionId then
    let freightSimulationOptions := (s.freightSimulationOptions.modify
      (fun row => row.simulationId == simulationId && row.tenantId == tenantId) unselect
      fun _ => rfl).modify (fun row => row.id == optionId) (select now) fun _ => rfl
    (.ok (), { s with freightSimulationOptions })
  else (.error .recordNotFound, s)

def shipmentRow (P : Platform) (input : Input) (tenantId actorId : Id)
    (simulation : LoadedSimulation) (selected : FreightSimulationOption) : Shipment where
  id := input.ids 0
  tenantId := tenantId
  simulationId := simulation.simulation.id
  selectedOptionId := selected.id
  customerId := simulation.simulation.customerId
  branchId := simulation.simulation.branchId
  carrierId := selected.carrierId
  carrierServiceId := selected.carrierServiceId
  createdById := some actorId
  trackingCode := trackingCode P simulation.simulation
  externalReference := none
  realWeightKg := selected.realWeightKg
  chargeableWeightKg := selected.chargeableWeightKg
  cargoValue := some simulation.simulation.cargoValue
  freightValue := selected.totalPrice
  estimatedDeliveryAt := selected.estimatedDeliveryAt
  deliveredAt := none
  status := .created
  createdAt := input.now

def addressRow (tenantId shipmentId : Id) (address : FreightSimulationAddress) :
    ShipmentAddress where
  tenantId := tenantId
  shipmentId := shipmentId
  type := address.type
  postalCode := address.postalCode
  street := address.street
  number := address.number
  complement := address.complement
  district := address.district
  city := address.city
  state := address.state
  country := address.country

def packageRow (tenantId shipmentId : Id) (item : FreightSimulationPackage) :
    ShipmentPackage where
  tenantId := tenantId
  shipmentId := shipmentId
  simulationPackageId := some item.id
  quantity := item.quantity
  weightKg := item.weightKg
  lengthCm := item.lengthCm
  widthCm := item.widthCm
  heightCm := item.heightCm
  volumeM3 := item.volumeM3
  description := item.description

/-- The transaction of `createShipment`: the shipment with its copies, or
nothing. -/
def storeShipmentRows (P : Platform) (s : Store) (input : Input) (tenantId actorId : Id)
    (simulation : LoadedSimulation) (selected : FreightSimulationOption) :
    Except ServiceError Shipment × Store :=
  let created := shipmentRow P input tenantId actorId simulation selected
  match s.shipments.tryInsert created with
  | none => (.error .uniqueViolation, s)
  | some shipments =>
      (.ok created,
        { s with
          shipments
          shipmentAddresses := s.shipmentAddresses ++
            simulation.addresses.map (addressRow tenantId created.id)
          shipmentPackages := s.shipmentPackages ++
            simulation.packages.map (packageRow tenantId created.id) })

def answer (P : Platform) : (c : ShippingCommand) → Input → Store →
    Except ServiceError c.Result × Store
  | .findOption id simulationId tenantId, _, s =>
      (.ok (s.freightSimulationOptions.rows.find? fun row =>
        row.id == id && row.simulationId == simulationId && row.tenantId == tenantId), s)
  | .selectOption simulationId tenantId optionId, input, s =>
      selectOptionRows s input.now simulationId tenantId optionId
  | .loadSimulation id tenantId, input, s =>
      (.ok ((s.freightSimulations.rows.find? fun row =>
        row.id == id && row.tenantId == tenantId).map (loadedSimulation s input.tie)), s)
  | .findShipmentOf simulationId, _, s =>
      (.ok (s.shipments.rows.find? fun row => row.simulationId == simulationId), s)
  | .storeShipment tenantId actorId simulation selected, input, s =>
      storeShipmentRows P s input tenantId actorId simulation selected
  | .findShipment id tenantId, _, s =>
      (.ok (s.shipments.rows.find? fun row => row.id == id && row.tenantId == tenantId), s)
  | .findServiceNames carrierId carrierServiceId tenantId, _, s =>
      (.ok ((s.carriers.rows.find? fun row => row.id == carrierId && row.tenantId == tenantId).map
          Carrier.name,
        (s.carrierServices.rows.find? fun row =>
          row.id == carrierServiceId && row.tenantId == tenantId).map CarrierService.name), s)

/-- Any call may be broken off by the database. -/
def executeShipping (P : Platform) (c : ShippingCommand) (input : Input) (s : Store) :
    Except ServiceError c.Result × Store :=
  if input.fault then (.error .fault, s) else answer P c input s

def execute (P : Platform) : Backend freightInterface Input Store :=
  Backend.extend (Quoting.execute P) (executeShipping P)

/-! ## Operations -/

structure ShipmentView where
  carrierName : String
  carrierServiceName : String
  createdAt : Time
  estimatedDeliveryAt : Time
  freightValue : Fixed 2
  id : Id
  simulationId : Id
  status : ShipmentStatus
  trackingCode : String

def selectOption (tenantId actorId simulationId optionId : Id) :
    Program freightInterface SimulationView := do
  let some option ← call (.findOption optionId simulationId tenantId)
    | throw (.notFound "Simulation option was not found.")
  call (.selectOption simulationId tenantId option.id)
  quoting (.recordAudit {
    action := .freightOptionSelected
    actorId := some actorId
    entityId := some option.id
    entityType := some "FreightSimulationOption"
    metadata := [("simulationId", some simulationId)]
    tenantId := some tenantId })
  quoting (.emitDashboardRefresh tenantId "freight-option-selected")
  (Quoting.get tenantId simulationId).lift

def presentShipment (shipmentId tenantId : Id) : Program freightInterface ShipmentView := do
  let some shipment ← call (.findShipment shipmentId tenantId)
    | throw (.notFound "Shipment was not found.")
  let names ← call (.findServiceNames shipment.carrierId shipment.carrierServiceId tenantId)
  pure {
    carrierName := names.1.getD "Transportadora historica"
    carrierServiceName := names.2.getD "Servico historico"
    createdAt := shipment.createdAt
    estimatedDeliveryAt := shipment.estimatedDeliveryAt
    freightValue := shipment.freightValue
    id := shipment.id
    simulationId := shipment.simulationId
    status := shipment.status
    trackingCode := shipment.trackingCode }

def shipmentExists : ServiceError :=
  .conflict "Shipment already exists for this simulation."

/-- The guarded part of `createShipment`: the transaction and what follows it. -/
def shipSelected (tenantId actorId simulationId : Id) (simulation : LoadedSimulation)
    (selected : FreightSimulationOption) : Program freightInterface ShipmentView := do
  let shipment ← call (.storeShipment tenantId actorId simulation selected)
  quoting (.recordAudit {
    action := .shipmentCreated
    actorId := some actorId
    entityId := some shipment.id
    entityType := some "Shipment"
    metadata := [("simulationId", some simulationId), ("selectedOptionId", some selected.id)]
    tenantId := some tenantId })
  quoting (.emitDashboardRefresh tenantId "shipment-created")
  presentShipment shipment.id tenantId

def createShipment (tenantId actorId simulationId : Id) :
    Program freightInterface ShipmentView := do
  let some simulation ← call (.loadSimulation simulationId tenantId)
    | throw (.notFound "Freight simulation was not found.")
  let some selected := simulation.options.find? fun option => option.selected
    | throw (.badRequest "Select a simulation option before creating a shipment.")
  match ← call (.findShipmentOf simulationId) with
  | some existing => presentShipment existing.id tenantId
  | none =>
      Program.tryCatch (shipSelected tenantId actorId simulationId simulation selected)
        fun error => if error = .uniqueViolation then throw shipmentExists else throw error

inductive Request
  | create (tenantId actorId : Id) (input : CreateFreightSimulationDto)
  | selectOption (tenantId actorId simulationId optionId : Id)
  | createShipment (tenantId actorId simulationId : Id)

inductive Reply
  | simulation (view : SimulationView)
  | shipment (view : ShipmentView)

def handle (P : Platform) : Request → Program freightInterface Reply
  | .create tenantId actorId input =>
      Reply.simulation <$> (Quoting.create P tenantId actorId input).lift
  | .selectOption tenantId actorId simulationId optionId =>
      Reply.simulation <$> selectOption tenantId actorId simulationId optionId
  | .createShipment tenantId actorId simulationId =>
      Reply.shipment <$> createShipment tenantId actorId simulationId

def freightSystem (P : Platform) : System freightInterface Request Reply Input Store :=
  ⟨execute P, handle P⟩

end Logistics.Shipping
