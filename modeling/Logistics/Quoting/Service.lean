import Mathlib.Data.List.Sort
import Logistics.Library.Sequential
import Logistics.Quoting.Request
import Logistics.Schema.Store

/-!
# Creating a quote

`create` of the freight simulation service: it prices every eligible carrier
service with the request as it was received, and stores the simulation, its
addresses and packages, and one option with its price components for each
priced service, all in one transaction.
-/

namespace Logistics.Quoting

open Logistics.Library Logistics.Pricing

/-- A rate table with its active charges and its ranges in order. -/
structure EligibleRateTable where
  table : FreightRateTable
  charges : List FreightAdditionalCharge
  ranges : List FreightRateRange

structure EligibleCarrierService where
  service : CarrierService
  carrier : Carrier
  coverages : List CarrierCoverage
  freightRateTables : List EligibleRateTable

structure CandidateOption where
  calculated : FreightCalculationResult
  rateRange : FreightRateRange
  rateTable : EligibleRateTable
  service : EligibleCarrierService

/-- What the transaction stores. -/
structure SimulationData where
  cargoValue : Decimal
  cheapest : CandidateOption
  cheapestPrice : Decimal
  fastestDeadline : Int
  customerId : Option Id
  desiredShipDate : Time
  origin : AddressDto
  destination : AddressDto
  originPostalCode : String
  destinationPostalCode : String
  distanceKm : Decimal
  packages : List FreightPackageDto
  candidateOptions : List CandidateOption
  unavailable : List UnavailableService

structure OptionRecord where
  option : FreightSimulationOption
  priceComponents : List FreightSimulationPriceComponent

structure SimulationRecord where
  simulation : FreightSimulation
  customer : Option Customer
  options : List OptionRecord

/-! ## Pricing the services -/

def toChargeInput (charge : FreightAdditionalCharge) : ChargeInput where
  fixedAmount := charge.fixedAmount.map Subtype.val
  name := charge.name
  percentage := charge.percentage.map Subtype.val
  type := charge.type

def toRateInput (range : FreightRateRange) : RateInput where
  basePrice := range.basePrice.val
  deadlineDays := range.deadlineDays
  excessPricePerKg := range.excessPricePerKg.map Subtype.val
  maxWeightKg := range.maxWeightKg.val
  minWeightKg := range.minWeightKg.val
  pricePerKg := range.pricePerKg.val

def decimalMax (left right : Decimal) : Decimal :=
  if left ≥ right then left else right

/-- What the pricing engine is given for one service. -/
def calculationInput (input : CreateFreightSimulationDto) (desiredShipDate : Time)
    (distanceKm : Decimal) (service : CarrierService) (rateTable : EligibleRateTable)
    (rateRange : FreightRateRange) : FreightCalculationInput where
  cargoValue := input.cargoValue
  charges := rateTable.charges.map toChargeInput
  cubicFactor := service.cubicFactor.val
  desiredShipDate := desiredShipDate
  distanceKm := some distanceKm
  minimumValue := service.minimumValue.val
  packages := input.packages.map toPackageInput
  rate := toRateInput rateRange

/-- Price one service, or say why it is unavailable. -/
def evaluateService (P : Platform) (input : CreateFreightSimulationDto)
    (desiredShipDate : Time) (distanceKm : Decimal) (service : EligibleCarrierService) :
    Except ServiceError (UnavailableService ⊕ CandidateOption) := do
  let unavailable (reason : String) : UnavailableService ⊕ CandidateOption :=
    .inl { carrier := service.carrier.name, reason, service := service.service.name }
  let covered ← matchesCoverage P (toAddressDto input.origin) (toAddressDto input.destination)
    service.coverages
  let metrics := calculatePackageMetrics (input.packages.map toPackageInput)
    service.service.cubicFactor.val
  let chargeableWeightKg := decimalMax metrics.realWeightKg metrics.cubicWeightKg
  if !covered then pure (unavailable "Fora da cobertura cadastrada")
  else if service.service.minWeightKg.any fun low => chargeableWeightKg < low.val then
    pure (unavailable "Peso abaixo do minimo do servico")
  else if service.service.maxWeightKg.any fun high => chargeableWeightKg > high.val then
    pure (unavailable "Peso acima do maximo do servico")
  else
    match service.freightRateTables.head? with
    | none => pure (unavailable "Sem tabela vigente")
    | some rateTable =>
        match rateTable.ranges.find? fun range =>
            chargeableWeightKg ≥ range.minWeightKg.val &&
              chargeableWeightKg ≤ range.maxWeightKg.val with
        | none => pure (unavailable "Sem faixa de peso compativel")
        | some rateRange =>
            pure (.inr {
              calculated := calculate
                (calculationInput input desiredShipDate distanceKm service.service rateTable
                  rateRange)
              rateRange, rateTable, service })

/-- The services that are unavailable and the options that are priced, each in
the order of the services. -/
def evaluateServices (P : Platform) (input : CreateFreightSimulationDto)
    (desiredShipDate : Time) (distanceKm : Decimal) :
    List EligibleCarrierService →
      Except ServiceError (List UnavailableService × List CandidateOption)
  | [] => pure ([], [])
  | service :: rest => do
      let outcome ← evaluateService P input desiredShipDate distanceKm service
      let (unavailable, candidateOptions) ←
        evaluateServices P input desiredShipDate distanceKm rest
      match outcome with
      | .inl reason => pure (reason :: unavailable, candidateOptions)
      | .inr candidate => pure (unavailable, candidate :: candidateOptions)

def cheapestPrice (first : CandidateOption) (options : List CandidateOption) : Decimal :=
  options.foldl (fun current item => min current item.calculated.totalPrice)
    first.calculated.totalPrice

def fastestDeadline (first : CandidateOption) (options : List CandidateOption) : Int :=
  options.foldl (fun current item => min current item.calculated.deadlineDays)
    first.calculated.deadlineDays

/-! ## Calls -/

inductive Command
  | now
  | findCustomer (id tenantId : Id)
  | findServices (tenantId : Id) (carrierServiceId carrierId : Option Id)
      (desiredShipDate : Time)
  | storeSimulation (tenantId actorId : Id) (data : SimulationData)
  | recordAudit (input : AuditRecordInput)
  | emitDashboardRefresh (tenantId : Id) (reason : String)
  | findSimulation (id tenantId : Id)

@[reducible] def Command.Result : Command → Type
  | .now => Time
  | .findCustomer .. => Option Customer
  | .findServices .. => List EligibleCarrierService
  | .storeSimulation .. => FreightSimulation
  | .recordAudit _ => Unit
  | .emitDashboardRefresh .. => Unit
  | .findSimulation .. => Option SimulationRecord

@[reducible] def quotingInterface : Interface := ⟨Command, Command.Result, ServiceError⟩

abbrev call (c : Command) : Program quotingInterface c.Result :=
  @Program.perform quotingInterface c

def activeCharges (s : Store) (rateTableId : Id) : List FreightAdditionalCharge :=
  s.freightAdditionalCharges.rows.filter fun row =>
    row.rateTableId == rateTableId && row.active

/-- `orderBy: [{ priority: 'asc' }, { minWeightKg: 'asc' }]` -/
def rangeLE (tie : Id → ℕ) (a b : FreightRateRange) : Prop :=
  a.priority < b.priority ∨ a.priority = b.priority ∧
    (a.minWeightKg.val < b.minWeightKg.val ∨
      a.minWeightKg.val = b.minWeightKg.val ∧ tie a.id ≤ tie b.id)

instance (tie : Id → ℕ) : DecidableRel (rangeLE tie) :=
  fun _ _ => inferInstanceAs (Decidable (_ ∨ _))

def eligibleRateTable (s : Store) (tie : Id → ℕ) (table : FreightRateTable) :
    EligibleRateTable where
  table := table
  charges := (activeCharges s table.id).insertionSort fun a b => tie a.id ≤ tie b.id
  ranges := (s.freightRateRanges.rows.filter fun row =>
    row.rateTableId == table.id).insertionSort (rangeLE tie)

/-- The rate tables in force at a date, the latest version first. -/
def rateTablesInForce (s : Store) (tie : Id → ℕ) (serviceId : Id) (date : Time) :
    List EligibleRateTable :=
  ((s.freightRateTables.rows.filter fun row =>
    row.carrierServiceId == serviceId && row.status == .active && row.validFrom ≤ date &&
      row.validTo.all fun validTo => date ≤ validTo).insertionSort fun a b =>
        b.version ≤ a.version).map (eligibleRateTable s tie)

def eligibleCarrierService (s : Store) (tie : Id → ℕ) (date : Time) (service : CarrierService)
    (carrier : Carrier) : EligibleCarrierService where
  service := service
  carrier := carrier
  coverages := (s.carrierCoverages.rows.filter fun row =>
    row.carrierServiceId == service.id && row.status == .active).insertionSort fun a b =>
      tie a.id ≤ tie b.id
  freightRateTables := rateTablesInForce s tie service.id date

/-- `orderBy: [{ carrier: { name: 'asc' } }, { name: 'asc' }]` -/
def serviceLE (P : Platform) (tie : Id → ℕ) (a b : EligibleCarrierService) : Bool :=
  if !P.collationLE b.carrier.name a.carrier.name then true
  else if !P.collationLE a.carrier.name b.carrier.name then false
  else if !P.collationLE b.service.name a.service.name then true
  else if !P.collationLE a.service.name b.service.name then false
  else tie a.service.id ≤ tie b.service.id

def findServices (P : Platform) (s : Store) (tie : Id → ℕ) (tenantId : Id)
    (carrierServiceId carrierId : Option Id) (date : Time) : List EligibleCarrierService :=
  (s.carrierServices.rows.filterMap fun service =>
    if service.status == .active && service.tenantId == tenantId &&
        carrierServiceId.all fun id => service.id == id then
      (s.carriers.rows.find? fun carrier => carrier.id == service.carrierId &&
        carrier.active && carrierId.all fun id => carrier.id == id).map
        (eligibleCarrierService s tie date service)
    else none).insertionSort fun a b => serviceLE P tie a b

/-- `orderBy: [{ main: 'desc' }, { name: 'asc' }]` -/
def branchLE (P : Platform) (tie : Id → ℕ) (a b : Branch) : Bool :=
  if a.main != b.main then a.main
  else if !P.collationLE b.name a.name then true
  else if !P.collationLE a.name b.name then false
  else tie a.id ≤ tie b.id

def resolveBranchId (P : Platform) (s : Store) (tie : Id → ℕ) (tenantId : Id) : Option Id :=
  (((s.branches.rows.filter fun row => row.active && row.tenantId == tenantId).insertionSort
    fun a b => branchLE P tie a b).head?).map Branch.id

def simulationRow (P : Platform) (s : Store) (input : Input) (tenantId actorId : Id)
    (data : SimulationData) : FreightSimulation where
  id := input.ids 0
  tenantId := tenantId
  branchId := resolveBranchId P s input.tie tenantId
  customerId := data.customerId
  carrierId := truthy (some data.cheapest.service.service.carrierId)
  createdById := actorId
  originPostalCode := data.originPostalCode
  destinationPostalCode := data.destinationPostalCode
  realWeightKg := .store 3 data.cheapest.calculated.realWeightKg
  cubicWeightKg := .store 3 data.cheapest.calculated.cubicWeightKg
  chargeableWeightKg := .store 3 data.cheapest.calculated.chargeableWeightKg
  totalVolumeM3 := .store 6 data.cheapest.calculated.totalVolumeM3
  cargoValue := .store 2 (money data.cargoValue)
  distanceKm := .store 2 data.distanceKm
  desiredShipDate := data.desiredShipDate
  estimatedPrice := .store 2 data.cheapest.calculated.totalPrice
  estimatedDeadlineDays := data.cheapest.calculated.deadlineDays
  status := .calculated
  metadata := data.unavailable
  createdAt := input.now

def packageRow (tenantId simulationId id : Id) (item : FreightPackageDto) :
    FreightSimulationPackage where
  id := id
  tenantId := tenantId
  simulationId := simulationId
  quantity := item.quantity.num
  weightKg := .store 3 item.weightKg
  lengthCm := .store 2 item.lengthCm
  widthCm := .store 2 item.widthCm
  heightCm := .store 2 item.heightCm
  volumeM3 := .store 6 (calculatePackageMetrics [toPackageInput item] 1).totalVolumeM3
  description := optionalText item.description

def optionRow (data : SimulationData) (tenantId simulationId id : Id) (item : CandidateOption) :
    FreightSimulationOption where
  id := id
  tenantId := tenantId
  simulationId := simulationId
  carrierId := item.service.service.carrierId
  carrierServiceId := item.service.service.id
  rateTableId := item.rateTable.table.id
  rateRangeId := item.rateRange.id
  carrierName := item.service.carrier.name
  serviceName := item.service.service.name
  serviceCode := item.service.service.code
  rateTableVersion := item.rateTable.table.version
  currency := item.rateTable.table.currency
  realWeightKg := .store 3 item.calculated.realWeightKg
  cubicWeightKg := .store 3 item.calculated.cubicWeightKg
  chargeableWeightKg := .store 3 item.calculated.chargeableWeightKg
  distanceKm := .store 2 data.distanceKm
  deadlineDays := item.calculated.deadlineDays
  estimatedDeliveryAt := item.calculated.estimatedDeliveryAt
  totalPrice := .store 2 item.calculated.totalPrice
  cheapest := item.calculated.totalPrice = data.cheapestPrice
  fastest := item.calculated.deadlineDays = data.fastestDeadline
  selected := false
  selectedAt := none

def componentRow (tenantId optionId : Id) (part : PriceComponent) :
    FreightSimulationPriceComponent where
  tenantId := tenantId
  optionId := optionId
  type := part.type
  label := part.label
  amount := .store 2 part.amount
  sortOrder := part.sortOrder

/-- The rate table and the range that the option names are stored. -/
def ratesStored (s : Store) (option : FreightSimulationOption) : Bool :=
  (s.freightRateTables.rows.any fun row => row.id == option.rateTableId) &&
    s.freightRateRanges.rows.any fun row => row.id == option.rateRangeId

/-- Store the simulation with everything that belongs to it, or nothing. A
quantity that is not a whole number does not fit its column, and an option cannot
be stored without its rate table (`fso_table_fk`) and its range (`fso_range_fk`). -/
def storeSimulation (P : Platform) (s : Store) (input : Input) (tenantId actorId : Id)
    (data : SimulationData) : Except ServiceError FreightSimulation × Store :=
  let simulation := simulationRow P s input tenantId actorId data
  let packages := data.packages.mapIdx fun n item =>
    packageRow tenantId simulation.id (input.ids (2 * n + 1)) item
  let options := data.candidateOptions.mapIdx fun n item =>
    optionRow data tenantId simulation.id (input.ids (2 * n + 2)) item
  let components := (data.candidateOptions.mapIdx fun n item =>
    item.calculated.components.map (componentRow tenantId (input.ids (2 * n + 2)))).flatten
  if data.packages.any fun item => item.quantity.den ≠ 1 then (.error .fault, s)
  else if !options.all (ratesStored s) then (.error .fault, s)
  else
    match s.freightSimulations.tryInsert simulation,
        s.freightSimulationPackages.tryInsertAll packages,
        s.freightSimulationOptions.tryInsertAll options with
    | some freightSimulations, some freightSimulationPackages, some freightSimulationOptions =>
        (.ok simulation,
          { s with
            freightSimulations
            freightSimulationPackages
            freightSimulationOptions
            freightSimulationAddresses := s.freightSimulationAddresses ++
              [toSimulationAddress P tenantId simulation.id .pickup data.origin
                  data.originPostalCode,
                toSimulationAddress P tenantId simulation.id .delivery data.destination
                  data.destinationPostalCode]
            freightSimulationPriceComponents :=
              s.freightSimulationPriceComponents ++ components })
    | _, _, _ => (.error .uniqueViolation, s)

/-- `orderBy: [{ totalPrice: 'asc' }, { deadlineDays: 'asc' }]` -/
def optionLE (tie : Id → ℕ) (a b : FreightSimulationOption) : Prop :=
  a.totalPrice.val < b.totalPrice.val ∨ a.totalPrice.val = b.totalPrice.val ∧
    (a.deadlineDays < b.deadlineDays ∨ a.deadlineDays = b.deadlineDays ∧ tie a.id ≤ tie b.id)

instance (tie : Id → ℕ) : DecidableRel (optionLE tie) :=
  fun _ _ => inferInstanceAs (Decidable (_ ∨ _))

def simulationRecord (s : Store) (tie : Id → ℕ) (simulation : FreightSimulation) :
    SimulationRecord where
  simulation := simulation
  customer := simulation.customerId.bind fun id => s.customers.rows.find? fun row => row.id == id
  options := ((s.freightSimulationOptions.rows.filter fun row =>
    row.simulationId == simulation.id).insertionSort (optionLE tie)).map fun option =>
      ⟨option, (s.freightSimulationPriceComponents.filter fun row =>
        row.optionId == option.id).insertionSort fun a b => a.sortOrder ≤ b.sortOrder⟩

def execute (P : Platform) : (c : Command) → Input → Store →
    Response quotingInterface c × Store
  | .now, input, s => (.ok input.now, s)
  | .findCustomer id tenantId, input, s =>
      if input.fault then (.error .fault, s)
      else (.ok (s.customers.rows.find? fun row =>
        row.active && row.id == id && row.tenantId == tenantId), s)
  | .findServices tenantId carrierServiceId carrierId date, input, s =>
      if input.fault then (.error .fault, s)
      else (.ok (findServices P s input.tie tenantId carrierServiceId carrierId date), s)
  | .storeSimulation tenantId actorId data, input, s =>
      if input.fault then (.error .fault, s)
      else storeSimulation P s input tenantId actorId data
  | .recordAudit audit, input, s =>
      if input.fault then (.error .fault, s)
      else (.ok (), { s with auditLogs := s.auditLogs ++ [audit] })
  | .emitDashboardRefresh .., input, s =>
      if input.fault then (.error .fault, s) else (.ok (), s)
  | .findSimulation id tenantId, input, s =>
      if input.fault then (.error .fault, s)
      else (.ok ((s.freightSimulations.rows.find? fun row =>
        row.id == id && row.tenantId == tenantId).map (simulationRecord s input.tie)), s)

/-! ## Operations -/

structure PriceComponentView where
  amount : Fixed 2
  label : String
  sortOrder : Nat
  type : FreightPriceComponentType

structure OptionView where
  carrierId : Id
  carrierName : String
  carrierServiceId : Id
  chargeableWeightKg : Fixed 3
  cheapest : Bool
  components : List PriceComponentView
  cubicWeightKg : Fixed 3
  currency : String
  deadlineDays : Int
  distanceKm : Fixed 2
  estimatedDeliveryAt : Time
  fastest : Bool
  id : Id
  realWeightKg : Fixed 3
  selected : Bool
  serviceCode : String
  serviceName : String
  totalPrice : Fixed 2

structure SimulationView where
  cargoValue : Fixed 2
  chargeableWeightKg : Fixed 3
  createdAt : Time
  /-- The identifier and the name of the customer. -/
  customer : Option (Id × String)
  destinationPostalCode : String
  distanceKm : Fixed 2
  estimatedDeadlineDays : Int
  estimatedPrice : Fixed 2
  id : Id
  options : List OptionView
  originPostalCode : String
  realWeightKg : Fixed 3
  status : FreightSimulationStatus
  totalVolumeM3 : Fixed 6

def presentOption (record : OptionRecord) : OptionView where
  carrierId := record.option.carrierId
  carrierName := record.option.carrierName
  carrierServiceId := record.option.carrierServiceId
  chargeableWeightKg := record.option.chargeableWeightKg
  cheapest := record.option.cheapest
  components := record.priceComponents.map fun part =>
    ⟨part.amount, part.label, part.sortOrder, part.type⟩
  cubicWeightKg := record.option.cubicWeightKg
  currency := record.option.currency
  deadlineDays := record.option.deadlineDays
  distanceKm := record.option.distanceKm
  estimatedDeliveryAt := record.option.estimatedDeliveryAt
  fastest := record.option.fastest
  id := record.option.id
  realWeightKg := record.option.realWeightKg
  selected := record.option.selected
  serviceCode := record.option.serviceCode
  serviceName := record.option.serviceName
  totalPrice := record.option.totalPrice

def presentSimulation (record : SimulationRecord) : SimulationView where
  cargoValue := record.simulation.cargoValue
  chargeableWeightKg := record.simulation.chargeableWeightKg
  createdAt := record.simulation.createdAt
  customer := record.customer.map fun customer => (customer.id, customer.name)
  destinationPostalCode := record.simulation.destinationPostalCode
  distanceKm := record.simulation.distanceKm
  estimatedDeadlineDays := record.simulation.estimatedDeadlineDays
  estimatedPrice := record.simulation.estimatedPrice
  id := record.simulation.id
  options := record.options.map presentOption
  originPostalCode := record.simulation.originPostalCode
  realWeightKg := record.simulation.realWeightKg
  status := record.simulation.status
  totalVolumeM3 := record.simulation.totalVolumeM3

def get (tenantId simulationId : Id) : Program quotingInterface SimulationView := do
  let some record ← call (.findSimulation simulationId tenantId)
    | throw (.notFound "Freight simulation was not found.")
  pure (presentSimulation record)

def resolveShipDate (P : Platform) (desiredShipDate : Option String) :
    Program quotingInterface Time :=
  match truthy desiredShipDate with
  | none => call .now
  | some text =>
      Program.ofExcept (match P.parseDate text with
        | some date => .ok date
        | none => .error (.badRequest "Desired ship date is invalid."))

def resolveCustomer (tenantId : Id) (customerId : Option String) :
    Program quotingInterface (Option Customer) :=
  match truthy customerId with
  | none => pure none
  | some id => do
      let some customer ← call (.findCustomer id tenantId)
        | throw (.notFound "Customer was not found.")
      pure (some customer)

def noEligibleService : ServiceError :=
  .badRequest "No eligible carrier service was found for this simulation."

/-- What the transaction is given once the services are priced. -/
def simulationData (input : CreateFreightSimulationDto) (desiredShipDate : Time)
    (customer : Option Customer) (distanceKm : Decimal)
    (unavailable : List UnavailableService) (candidateOptions : List CandidateOption) :
    Except ServiceError SimulationData := do
  let some firstCandidate := candidateOptions.head? | throw noEligibleService
  let cheapestPrice := cheapestPrice firstCandidate candidateOptions
  let some cheapest := candidateOptions.find? fun item =>
      item.calculated.totalPrice = cheapestPrice | throw noEligibleService
  let originPostalCode ← normalizePostalCode input.origin.postalCode
  let destinationPostalCode ← normalizePostalCode input.destination.postalCode
  pure {
    cargoValue := input.cargoValue
    cheapest
    cheapestPrice
    fastestDeadline := fastestDeadline firstCandidate candidateOptions
    customerId := customer.map Customer.id
    desiredShipDate
    origin := toAddressDto input.origin
    destination := toAddressDto input.destination
    originPostalCode, destinationPostalCode, distanceKm
    packages := input.packages
    candidateOptions, unavailable }

def create (P : Platform) (tenantId actorId : Id) (input : CreateFreightSimulationDto) :
    Program quotingInterface SimulationView := do
  let desiredShipDate ← resolveShipDate P input.desiredShipDate
  let customer ← resolveCustomer tenantId input.customerId
  let distanceKm ← Program.ofExcept
    (calculateDistanceKm P (toAddressDto input.origin) (toAddressDto input.destination))
  let services ← call (.findServices tenantId (truthy input.carrierServiceId)
    (truthy input.carrierId) desiredShipDate)
  let evaluated ← Program.ofExcept
    (evaluateServices P input desiredShipDate distanceKm services)
  let data ← Program.ofExcept
    (simulationData input desiredShipDate customer distanceKm evaluated.1 evaluated.2)
  let simulation ← call (.storeSimulation tenantId actorId data)
  call (.recordAudit {
    action := .freightSimulationCreated
    actorId := some actorId
    entityId := some simulation.id
    entityType := some "FreightSimulation"
    metadata := [("optionCount", some (toString evaluated.2.length)),
      ("unavailableCount", some (toString evaluated.1.length))]
    tenantId := some tenantId })
  call (.emitDashboardRefresh tenantId "freight-simulation")
  get tenantId simulation.id

end Logistics.Quoting
