import Logistics.Library.Interleaving
import Logistics.Quoting.Service

/-!
# Administering rate tables

The rate tables and coverages of the logistics administration service, beside
`create` of the freight simulation service. A table is stored with its ranges,
its charges and the coverages it is for, and it is replaced with all of them;
both check the request before they write, in calls of their own. A new version
is a copy of a table with a higher version number.
-/

namespace Logistics.RateTables

open Logistics.Library Logistics.Quoting

/-! ## Requests -/

structure RateRangeInputDto where
  minWeightKg : Decimal
  maxWeightKg : Decimal
  basePrice : Decimal
  pricePerKg : Decimal
  excessPricePerKg : Option Decimal
  deadlineDays : Decimal
  priority : Option Decimal

structure RateChargeInputDto where
  type : FreightChargeType
  name : String
  fixedAmount : Option Decimal
  percentage : Option Decimal
  active : Option Bool

/-- A date of the request is the instant its text denotes, if it denotes a valid
one. -/
structure RateTableInputDto where
  name : String
  carrierServiceId : Id
  currency : String
  validFrom : Option Time
  validTo : Option (Option Time)
  notes : Option String
  status : Option FreightRateTableStatus
  coverageIds : Option (List Id)
  ranges : List RateRangeInputDto
  charges : List RateChargeInputDto

structure CoverageDto where
  carrierServiceId : Id
  originState : Option String
  destinationState : Option String
  originPostalCodeStart : Option String
  originPostalCodeEnd : Option String
  destinationPostalCodeStart : Option String
  destinationPostalCodeEnd : Option String

def RateRangeInputDto.isValid (input : RateRangeInputDto) : Bool :=
  0 ≤ input.minWeightKg && 0 ≤ input.maxWeightKg && 0 ≤ input.basePrice &&
    0 ≤ input.pricePerKg && input.excessPricePerKg.all (fun price => 0 ≤ price) &&
    1 ≤ input.deadlineDays

def RateChargeInputDto.isValid (input : RateChargeInputDto) : Bool :=
  hasLength 0 120 input.name && input.fixedAmount.all (fun amount => 0 ≤ amount) &&
    input.percentage.all fun percentage => 0 ≤ percentage

def RateTableInputDto.isValid (input : RateTableInputDto) : Bool :=
  hasLength 0 140 input.name && hasLength 0 3 input.currency &&
    input.ranges.all RateRangeInputDto.isValid && input.charges.all RateChargeInputDto.isValid

/-! ## Ranges -/

def invalidRange : ServiceError :=
  .badRequest "Faixa de peso inválida."

def overlappingRanges : ServiceError :=
  .badRequest "Faixas de peso sobrepostas."

/-- Two neighbours of which the first reaches the second. -/
def haveOverlap : List RateRangeInputDto → Bool
  | previous :: current :: rest =>
      previous.maxWeightKg ≥ current.minWeightKg || haveOverlap (current :: rest)
  | _ => false

def validateRanges (ranges : List RateRangeInputDto) : Except ServiceError Unit :=
  let ordered := ranges.insertionSort fun a b => a.minWeightKg ≤ b.minWeightKg
  if ordered.any fun range => range.maxWeightKg ≤ range.minWeightKg || range.basePrice < 0 ||
      range.pricePerKg < 0 || range.deadlineDays < 1 then throw invalidRange
  else if haveOverlap ordered then throw overlappingRanges
  else pure ()

/-- The end of the validity is not after its beginning. -/
def datesInverted (input : RateTableInputDto) : Bool :=
  match input.validTo, input.validFrom with
  | some (some validTo), some validFrom => validTo ≤ validFrom
  | _, _ => false

/-! ## Rows -/

def digits (value : Option String) : String :=
  String.ofList ((value.getD "").toList.filter Char.isDigit)

/-- The validity as it is stored; an invalid date cannot be. -/
def validity (input : RateTableInputDto) : Option (Time × Option Time) :=
  match input.validFrom, input.validTo with
  | some validFrom, none => some (validFrom, none)
  | some validFrom, some (some validTo) => some (validFrom, some validTo)
  | _, _ => none

/-- Whole columns take whole numbers only. -/
def fitsColumns (input : RateTableInputDto) : Bool :=
  input.ranges.all fun range => range.deadlineDays.den == 1 && (range.priority.getD 0).den == 1

def rangeRow (tenantId rateTableId id : Id) (range : RateRangeInputDto) : FreightRateRange where
  id := id
  tenantId := tenantId
  rateTableId := rateTableId
  minWeightKg := .store 3 range.minWeightKg
  maxWeightKg := .store 3 range.maxWeightKg
  basePrice := .store 2 range.basePrice
  pricePerKg := .store 4 range.pricePerKg
  excessPricePerKg := range.excessPricePerKg.map (Fixed.store 4)
  deadlineDays := range.deadlineDays.num
  priority := (range.priority.getD 0).num

def chargeRow (now : Time) (tenantId rateTableId id : Id) (charge : RateChargeInputDto) :
    FreightAdditionalCharge where
  id := id
  tenantId := tenantId
  rateTableId := rateTableId
  type := charge.type
  name := trim charge.name
  fixedAmount := charge.fixedAmount.map (Fixed.store 2)
  percentage := charge.percentage.map (Fixed.store 6)
  active := charge.active.getD true
  createdAt := now

def rangeRows (input : Input) (tenantId rateTableId : Id) (dto : RateTableInputDto) :
    List FreightRateRange :=
  dto.ranges.mapIdx fun n range => rangeRow tenantId rateTableId (input.ids (3 * n + 1)) range

def chargeRows (input : Input) (tenantId rateTableId : Id) (dto : RateTableInputDto) :
    List FreightAdditionalCharge :=
  dto.charges.mapIdx fun n charge =>
    chargeRow input.now tenantId rateTableId (input.ids (3 * n + 2)) charge

def linkRows (input : Input) (tenantId rateTableId : Id) (dto : RateTableInputDto) :
    List FreightRateTableCoverage :=
  (dto.coverageIds.getD []).mapIdx fun n coverageId =>
    ⟨input.ids (3 * n + 3), tenantId, rateTableId, coverageId⟩

def rateTableRow (P : Platform) (id tenantId : Id) (version : ℕ) (previousVersionId : Option Id)
    (dto : RateTableInputDto) (validFrom : Time) (validTo : Option Time) : FreightRateTable where
  id := id
  tenantId := tenantId
  carrierServiceId := dto.carrierServiceId
  name := trim dto.name
  version := version
  currency := P.toUpperCase dto.currency
  validFrom := validFrom
  validTo := validTo
  status := dto.status.getD .inactive
  notes := dto.notes.map trim
  previousVersionId := previousVersionId

/-- The columns that an update of the table sets. -/
def replacedRow (P : Platform) (status : FreightRateTableStatus) (dto : RateTableInputDto)
    (validFrom : Time) (validTo : Option Time) (row : FreightRateTable) : FreightRateTable :=
  { row with
    name := trim dto.name
    carrierServiceId := dto.carrierServiceId
    currency := P.toUpperCase dto.currency
    validFrom
    validTo
    notes := (dto.notes.map trim).or row.notes
    status }

def coverageRow (P : Platform) (id tenantId : Id) (dto : CoverageDto) : CarrierCoverage where
  id := id
  tenantId := tenantId
  carrierServiceId := dto.carrierServiceId
  originState := dto.originState.map P.toUpperCase
  destinationState := dto.destinationState.map P.toUpperCase
  originPostalCodeStart := some (digits dto.originPostalCodeStart)
  originPostalCodeEnd := some (digits dto.originPostalCodeEnd)
  destinationPostalCodeStart := some (digits dto.destinationPostalCodeStart)
  destinationPostalCodeEnd := some (digits dto.destinationPostalCodeEnd)
  status := .active

/-- A state that is not given stays. -/
def updatedCoverage (P : Platform) (dto : CoverageDto) (row : CarrierCoverage) :
    CarrierCoverage :=
  { row with
    carrierServiceId := dto.carrierServiceId
    originState := (dto.originState.map P.toUpperCase).or row.originState
    destinationState := (dto.destinationState.map P.toUpperCase).or row.destinationState
    originPostalCodeStart := some (digits dto.originPostalCodeStart)
    originPostalCodeEnd := some (digits dto.originPostalCodeEnd)
    destinationPostalCodeStart := some (digits dto.destinationPostalCodeStart)
    destinationPostalCodeEnd := some (digits dto.destinationPostalCodeEnd) }

/-! ## Calls -/

/-- A table with the rows a new version is made of. -/
structure LoadedRateTable where
  table : FreightRateTable
  ranges : List FreightRateRange
  charges : List FreightAdditionalCharge
  coverages : List FreightRateTableCoverage

/-- A table with everything that is presented of it. -/
structure RateTableRecord where
  table : FreightRateTable
  service : CarrierService
  carrier : Carrier
  ranges : List FreightRateRange
  charges : List FreightAdditionalCharge
  coverages : List CarrierCoverage
  previousVersion : Option FreightRateTable
  nextVersions : List FreightRateTable

inductive RateTableCommand
  | findTable (id tenantId : Id)
  | countOptions (tenantId rateTableId : Id)
  | findService (id tenantId : Id)
  | findCoverages (tenantId : Id) (ids : List Id) (carrierServiceId : Id)
  | maxVersion (tenantId carrierServiceId : Id)
  | storeRateTable (tenantId : Id) (version : ℕ) (previousVersionId : Option Id)
      (dto : RateTableInputDto)
  | replaceRateTable (tenantId id : Id) (status : FreightRateTableStatus)
      (dto : RateTableInputDto)
  | loadTable (id tenantId : Id)
  | setStatus (id : Id) (status : FreightRateTableStatus)
  | findRateTableRecord (id tenantId : Id)
  | findCoverage (id tenantId : Id)
  | storeCoverage (tenantId : Id) (dto : CoverageDto)
  | updateCoverage (id : Id) (dto : CoverageDto)

@[reducible] def RateTableCommand.Result : RateTableCommand → Type
  | .findTable .. => Option FreightRateTable
  | .countOptions .. => ℕ
  | .findService .. => Option (CarrierService × Carrier)
  | .findCoverages .. => List CarrierCoverage
  | .maxVersion .. => Option ℕ
  | .storeRateTable .. => FreightRateTable
  | .replaceRateTable .. => Unit
  | .loadTable .. => Option LoadedRateTable
  | .setStatus .. => FreightRateTable
  | .findRateTableRecord .. => Option RateTableRecord
  | .findCoverage .. => Option CarrierCoverage
  | .storeCoverage .. => CarrierCoverage
  | .updateCoverage .. => CarrierCoverage

/-- The calls of a quote, and those of administering rate tables. -/
@[reducible] def rateTableInterface : Interface :=
  quotingInterface.extend RateTableCommand RateTableCommand.Result

abbrev quoting (c : Quoting.Command) : Program rateTableInterface c.Result :=
  @Program.perform rateTableInterface (.inl c)

abbrev call (c : RateTableCommand) : Program rateTableInterface c.Result :=
  @Program.perform rateTableInterface (.inr c)

/-! ## Answers -/

def rangesOf (s : Store) (rateTableId : Id) : List FreightRateRange :=
  s.freightRateRanges.rows.filter fun row => row.rateTableId == rateTableId

def chargesOf (s : Store) (rateTableId : Id) : List FreightAdditionalCharge :=
  s.freightAdditionalCharges.rows.filter fun row => row.rateTableId == rateTableId

def linksOf (s : Store) (rateTableId : Id) : List FreightRateTableCoverage :=
  s.freightRateTableCoverages.rows.filter fun row => row.rateTableId == rateTableId

/-- The service and its carrier, which the schema keeps for every service. -/
def withCarrier (s : Store) (service : CarrierService) : Option (CarrierService × Carrier) :=
  (s.carriers.rows.find? fun row => row.id == service.carrierId).map fun carrier =>
    (service, carrier)

/-- The table, its ranges, its charges and its links, or nothing. -/
def storeRateTable (P : Platform) (s : Store) (input : Input) (tenantId : Id) (version : ℕ)
    (previousVersionId : Option Id) (dto : RateTableInputDto) :
    Except ServiceError FreightRateTable × Store :=
  match validity dto with
  | none => (.error .fault, s)
  | some (validFrom, validTo) =>
      let table := rateTableRow P (input.ids 0) tenantId version previousVersionId dto validFrom
        validTo
      if !fitsColumns dto then (.error .fault, s)
      else
        match s.freightRateTables.tryInsert table,
            s.freightRateRanges.tryInsertAll (rangeRows input tenantId table.id dto),
            s.freightAdditionalCharges.tryInsertAll (chargeRows input tenantId table.id dto),
            s.freightRateTableCoverages.tryInsertAll (linkRows input tenantId table.id dto) with
        | some freightRateTables, some freightRateRanges, some freightAdditionalCharges,
            some freightRateTableCoverages =>
            (.ok table,
              { s with
                freightRateTables
                freightRateRanges
                freightAdditionalCharges
                freightRateTableCoverages })
        | _, _, _, _ => (.error .uniqueViolation, s)

/-- An option names one of the ranges of the table. -/
def rangesNamed (s : Store) (tenantId id : Id) : Bool :=
  s.freightSimulationOptions.rows.any fun option => s.freightRateRanges.rows.any fun row =>
    row.tenantId == tenantId && row.rateTableId == id && row.id == option.rateRangeId

/-- The rows of the table are deleted and stored anew, or nothing is done. A range that
an option names cannot be deleted (`fso_range_fk`). -/
def replaceRateTable (P : Platform) (s : Store) (input : Input) (tenantId id : Id)
    (status : FreightRateTableStatus) (dto : RateTableInputDto) :
    Except ServiceError Unit × Store :=
  match validity dto with
  | none => (.error .fault, s)
  | some (validFrom, validTo) =>
      if !fitsColumns dto then (.error .fault, s)
      else if rangesNamed s tenantId id then (.error .fault, s)
      else if !s.freightRateTables.rows.any fun row => row.id == id then
        (.error .recordNotFound, s)
      else
        match s.freightRateTables.tryUpdate (fun row => row.id == id)
              (replacedRow P status dto validFrom validTo),
            (s.freightRateRanges.delete fun row =>
              row.tenantId == tenantId && row.rateTableId == id).tryInsertAll
                (rangeRows input tenantId id dto),
            (s.freightAdditionalCharges.delete fun row =>
              row.tenantId == tenantId && row.rateTableId == id).tryInsertAll
                (chargeRows input tenantId id dto),
            (s.freightRateTableCoverages.delete fun row =>
              row.tenantId == tenantId && row.rateTableId == id).tryInsertAll
                (linkRows input tenantId id dto) with
        | some freightRateTables, some freightRateRanges, some freightAdditionalCharges,
            some freightRateTableCoverages =>
            (.ok (),
              { s with
                freightRateTables
                freightRateRanges
                freightAdditionalCharges
                freightRateTableCoverages })
        | _, _, _, _ => (.error .uniqueViolation, s)

def setStatus (s : Store) (id : Id) (status : FreightRateTableStatus) :
    Except ServiceError FreightRateTable × Store :=
  match s.freightRateTables.rows.find? fun row => row.id == id with
  | none => (.error .recordNotFound, s)
  | some row =>
      let freightRateTables := s.freightRateTables.modify (fun row => row.id == id)
        (fun row => { row with status }) fun _ => rfl
      (.ok { row with status }, { s with freightRateTables })

def storeCoverage (P : Platform) (s : Store) (input : Input) (tenantId : Id) (dto : CoverageDto) :
    Except ServiceError CarrierCoverage × Store :=
  match s.carrierCoverages.tryInsert (coverageRow P (input.ids 0) tenantId dto) with
  | none => (.error .uniqueViolation, s)
  | some carrierCoverages =>
      (.ok (coverageRow P (input.ids 0) tenantId dto), { s with carrierCoverages })

def updateCoverageRow (P : Platform) (s : Store) (id : Id) (dto : CoverageDto) :
    Except ServiceError CarrierCoverage × Store :=
  match s.carrierCoverages.rows.find? fun row => row.id == id with
  | none => (.error .recordNotFound, s)
  | some row =>
      let carrierCoverages := s.carrierCoverages.modify (fun row => row.id == id)
        (updatedCoverage P dto) fun _ => rfl
      (.ok (updatedCoverage P dto row), { s with carrierCoverages })

/-- `orderBy: [{ minWeightKg: 'asc' }, { priority: 'desc' }]` -/
def presentedRangeLE (tie : Id → ℕ) (a b : FreightRateRange) : Prop :=
  a.minWeightKg.val < b.minWeightKg.val ∨ a.minWeightKg.val = b.minWeightKg.val ∧
    (b.priority < a.priority ∨ a.priority = b.priority ∧ tie a.id ≤ tie b.id)

instance (tie : Id → ℕ) : DecidableRel (presentedRangeLE tie) :=
  fun _ _ => inferInstanceAs (Decidable (_ ∨ _))

/-- `orderBy: [{ active: 'desc' }, { createdAt: 'asc' }]` -/
def presentedChargeLE (tie : Id → ℕ) (a b : FreightAdditionalCharge) : Prop :=
  (a.active = true ∧ b.active = false) ∨ a.active = b.active ∧
    (a.createdAt < b.createdAt ∨ a.createdAt = b.createdAt ∧ tie a.id ≤ tie b.id)

instance (tie : Id → ℕ) : DecidableRel (presentedChargeLE tie) :=
  fun _ _ => inferInstanceAs (Decidable (_ ∨ _))

def loadedRateTable (s : Store) (tie : Id → ℕ) (table : FreightRateTable) : LoadedRateTable where
  table := table
  ranges := (rangesOf s table.id).insertionSort fun a b => tie a.id ≤ tie b.id
  charges := (chargesOf s table.id).insertionSort fun a b => tie a.id ≤ tie b.id
  coverages := (linksOf s table.id).insertionSort fun a b => tie a.id ≤ tie b.id

def rateTableRecord (s : Store) (tie : Id → ℕ) (table : FreightRateTable) :
    Option RateTableRecord := do
  let service ← s.carrierServices.rows.find? fun row => row.id == table.carrierServiceId
  let (service, carrier) ← withCarrier s service
  pure {
    table, service, carrier
    ranges := (rangesOf s table.id).insertionSort (presentedRangeLE tie)
    charges := (chargesOf s table.id).insertionSort (presentedChargeLE tie)
    coverages := ((linksOf s table.id).insertionSort fun a b => tie a.id ≤ tie b.id).filterMap
      fun link => s.carrierCoverages.rows.find? fun row => row.id == link.coverageId
    previousVersion := table.previousVersionId.bind fun id =>
      s.freightRateTables.rows.find? fun row => row.id == id
    nextVersions := (s.freightRateTables.rows.filter fun row =>
      row.previousVersionId == some table.id).insertionSort fun a b => tie a.id ≤ tie b.id }

def answer (P : Platform) : (c : RateTableCommand) → Input → Store →
    Except ServiceError c.Result × Store
  | .findTable id tenantId, _, s =>
      (.ok (s.freightRateTables.rows.find? fun row => row.id == id && row.tenantId == tenantId), s)
  | .countOptions tenantId rateTableId, _, s =>
      (.ok (s.freightSimulationOptions.rows.countP fun row =>
        row.tenantId == tenantId && row.rateTableId == rateTableId), s)
  | .findService id tenantId, _, s =>
      (.ok ((s.carrierServices.rows.find? fun row =>
        row.id == id && row.tenantId == tenantId).bind (withCarrier s)), s)
  | .findCoverages tenantId ids carrierServiceId, _, s =>
      (.ok (s.carrierCoverages.rows.filter fun row => row.tenantId == tenantId &&
        ids.contains row.id && row.carrierServiceId == carrierServiceId), s)
  | .maxVersion tenantId carrierServiceId, _, s =>
      (.ok ((s.freightRateTables.rows.filter fun row => row.tenantId == tenantId &&
        row.carrierServiceId == carrierServiceId).map FreightRateTable.version).max?, s)
  | .storeRateTable tenantId version previousVersionId dto, input, s =>
      storeRateTable P s input tenantId version previousVersionId dto
  | .replaceRateTable tenantId id status dto, input, s =>
      replaceRateTable P s input tenantId id status dto
  | .loadTable id tenantId, input, s =>
      (.ok ((s.freightRateTables.rows.find? fun row =>
        row.id == id && row.tenantId == tenantId).map (loadedRateTable s input.tie)), s)
  | .setStatus id status, _, s => setStatus s id status
  | .findRateTableRecord id tenantId, input, s =>
      (.ok ((s.freightRateTables.rows.find? fun row =>
        row.id == id && row.tenantId == tenantId).bind (rateTableRecord s input.tie)), s)
  | .findCoverage id tenantId, _, s =>
      (.ok (s.carrierCoverages.rows.find? fun row => row.id == id && row.tenantId == tenantId), s)
  | .storeCoverage tenantId dto, input, s => storeCoverage P s input tenantId dto
  | .updateCoverage id dto, _, s => updateCoverageRow P s id dto

/-- Any call may be broken off by the database. -/
def executeRateTables (P : Platform) (c : RateTableCommand) (input : Input) (s : Store) :
    Except ServiceError c.Result × Store :=
  if input.fault then (.error .fault, s) else answer P c input s

def execute (P : Platform) : Backend rateTableInterface Input Store :=
  Backend.extend (Quoting.execute P) (executeRateTables P)

/-! ## Operations -/

structure RangeView where
  id : Id
  minWeightKg : Fixed 3
  maxWeightKg : Fixed 3
  basePrice : Fixed 2
  pricePerKg : Fixed 4
  excessPricePerKg : Option (Fixed 4)
  deadlineDays : Int
  priority : Int

structure ChargeView where
  id : Id
  type : FreightChargeType
  name : String
  fixedAmount : Option (Fixed 2)
  percentage : Option (Fixed 6)
  active : Bool

structure VersionView where
  id : Id
  version : ℕ
  status : FreightRateTableStatus
  validFrom : Time

structure RateTableView where
  id : Id
  tenantId : Id
  carrierServiceId : Id
  carrierName : String
  serviceName : String
  name : String
  version : ℕ
  currency : String
  validFrom : Time
  validTo : Option Time
  notes : Option String
  status : FreightRateTableStatus
  usedInSimulations : ℕ
  /-- The identifier and the version number of the table it was made from. -/
  previousVersion : Option (Id × ℕ)
  versions : List VersionView
  coverages : List CarrierCoverage
  ranges : List RangeView
  charges : List ChargeView

def presentRange (range : FreightRateRange) : RangeView where
  id := range.id
  minWeightKg := range.minWeightKg
  maxWeightKg := range.maxWeightKg
  basePrice := range.basePrice
  pricePerKg := range.pricePerKg
  excessPricePerKg := range.excessPricePerKg
  deadlineDays := range.deadlineDays
  priority := range.priority

def presentCharge (charge : FreightAdditionalCharge) : ChargeView where
  id := charge.id
  type := charge.type
  name := charge.name
  fixedAmount := charge.fixedAmount
  percentage := charge.percentage
  active := charge.active

def presentRateTable (record : RateTableRecord) (usedInSimulations : ℕ) : RateTableView where
  id := record.table.id
  tenantId := record.table.tenantId
  carrierServiceId := record.table.carrierServiceId
  carrierName := record.carrier.name
  serviceName := record.service.name
  name := record.table.name
  version := record.table.version
  currency := record.table.currency
  validFrom := record.table.validFrom
  validTo := record.table.validTo
  notes := record.table.notes
  status := record.table.status
  usedInSimulations := usedInSimulations
  previousVersion := record.previousVersion.map fun table => (table.id, table.version)
  versions := record.nextVersions.map fun table =>
    ⟨table.id, table.version, table.status, table.validFrom⟩
  coverages := record.coverages
  ranges := record.ranges.map presentRange
  charges := record.charges.map presentCharge

def tableNotFound : ServiceError :=
  .notFound "Freight rate table was not found."

def foreignCoverage : ServiceError :=
  .badRequest "Uma ou mais coberturas não pertencem ao serviço."

def getRateTable (tenantId id : Id) : Program rateTableInterface RateTableView := do
  let some record ← call (.findRateTableRecord id tenantId) | throw tableNotFound
  let usedInSimulations ← call (.countOptions tenantId id)
  pure (presentRateTable record usedInSimulations)

/-- The checks that storing and replacing a table have in common. -/
def checkInput (tenantId : Id) (input : RateTableInputDto) : Program rateTableInterface Unit := do
  Program.ofExcept (validateRanges input.ranges)
  Program.throwIf (datesInverted input) (.badRequest "Vigência da tabela inválida.")
  let service ← call (.findService input.carrierServiceId tenantId)
  Program.throwIf (!service.any fun found => found.2.active)
    (.notFound "Servico ou transportadora nao encontrado.")
  let coverages ← call (.findCoverages tenantId (input.coverageIds.getD [])
    input.carrierServiceId)
  Program.throwIf (coverages.length ≠ (input.coverageIds.getD []).length) foreignCoverage

def nextVersion (tenantId carrierServiceId : Id) :
    Option Id → Program rateTableInterface ℕ
  | some _ => do
      let version ← call (.maxVersion tenantId carrierServiceId)
      pure (version.getD 0 + 1)
  | none => pure 1

def pricingAudit (tenantId actorId id : Id) (metadata : List (String × Option String)) :
    Quoting.Command :=
  .recordAudit {
    action := .freightPricingChanged
    actorId := some actorId
    entityId := some id
    entityType := some "FreightRateTable"
    metadata := metadata
    tenantId := some tenantId }

def createRateTable (tenantId actorId : Id) (input : RateTableInputDto)
    (previousVersionId : Option Id) : Program rateTableInterface RateTableView := do
  checkInput tenantId input
  let version ← nextVersion tenantId input.carrierServiceId previousVersionId
  let table ← call (.storeRateTable tenantId version previousVersionId input)
  quoting (pricingAudit tenantId actorId table.id
    [("operation", some (if previousVersionId.isSome then "new_version" else "create")),
      ("version", some (toString table.version))])
  getRateTable tenantId table.id

def updateRateTable (tenantId actorId id : Id) (input : RateTableInputDto) :
    Program rateTableInterface RateTableView := do
  let some current ← call (.findTable id tenantId) | throw tableNotFound
  let used ← call (.countOptions tenantId id)
  Program.throwIf (used > 0)
    (.badRequest "Tabela já utilizada. Crie uma nova versão para preservar o histórico.")
  checkInput tenantId input
  call (.replaceRateTable tenantId id (input.status.getD current.status) input)
  quoting (pricingAudit tenantId actorId id [("operation", some "update")])
  getRateTable tenantId id

/-- The request that copies a table. -/
def versionInput (current : LoadedRateTable) : RateTableInputDto where
  name := current.table.name
  carrierServiceId := current.table.carrierServiceId
  currency := current.table.currency
  validFrom := some current.table.validFrom
  validTo := current.table.validTo.map some
  notes := current.table.notes
  status := some .inactive
  coverageIds := some (current.coverages.map FreightRateTableCoverage.coverageId)
  ranges := current.ranges.map fun range => {
    minWeightKg := range.minWeightKg.val
    maxWeightKg := range.maxWeightKg.val
    basePrice := range.basePrice.val
    pricePerKg := range.pricePerKg.val
    excessPricePerKg := range.excessPricePerKg.map Subtype.val
    deadlineDays := range.deadlineDays
    priority := some range.priority }
  charges := current.charges.map fun charge => {
    type := charge.type
    name := charge.name
    fixedAmount := charge.fixedAmount.map Subtype.val
    percentage := charge.percentage.map Subtype.val
    active := some charge.active }

def createRateTableVersion (tenantId actorId id : Id) :
    Program rateTableInterface RateTableView := do
  let some current ← call (.loadTable id tenantId) | throw tableNotFound
  createRateTable tenantId actorId (versionInput current) (some id)

def updateRateTableStatus (tenantId actorId id : Id) (status : FreightRateTableStatus) :
    Program rateTableInterface (Id × FreightRateTableStatus) := do
  let some table ← call (.loadTable id tenantId) | throw tableNotFound
  Program.throwIf (status = .active ∧ table.ranges.length = 0)
    (.badRequest "Tabela ativa precisa de ao menos uma faixa.")
  let updated ← call (.setStatus id status)
  quoting (pricingAudit tenantId actorId id
    [("operation", some (if status = .active then "activate" else "deactivate"))])
  pure (updated.id, updated.status)

def coverageAudit (tenantId actorId id : Id) (operation : String) : Quoting.Command :=
  .recordAudit {
    action := .adminOperation
    actorId := some actorId
    entityId := some id
    entityType := some "CarrierCoverage"
    metadata := [("operation", some operation)]
    tenantId := some tenantId }

def createCoverage (tenantId actorId : Id) (input : CoverageDto) :
    Program rateTableInterface CarrierCoverage := do
  let some _ ← call (.findService input.carrierServiceId tenantId)
    | throw (.notFound "Carrier service was not found.")
  let item ← call (.storeCoverage tenantId input)
  quoting (coverageAudit tenantId actorId item.id "create")
  pure item

def updateCoverage (tenantId actorId id : Id) (input : CoverageDto) :
    Program rateTableInterface CarrierCoverage := do
  let some _ ← call (.findCoverage id tenantId)
    | throw (.notFound "Coverage was not found.")
  let some _ ← call (.findService input.carrierServiceId tenantId)
    | throw (.notFound "Carrier service was not found.")
  let item ← call (.updateCoverage id input)
  quoting (coverageAudit tenantId actorId id "update")
  pure item

inductive Request
  | createQuote (tenantId actorId : Id) (input : CreateFreightSimulationDto)
  | createRateTable (tenantId actorId : Id) (input : RateTableInputDto)
  | updateRateTable (tenantId actorId id : Id) (input : RateTableInputDto)
  | createRateTableVersion (tenantId actorId id : Id)
  | updateRateTableStatus (tenantId actorId id : Id) (status : FreightRateTableStatus)
  | createCoverage (tenantId actorId : Id) (input : CoverageDto)
  | updateCoverage (tenantId actorId id : Id) (input : CoverageDto)

inductive Reply
  | quote (view : SimulationView)
  | table (view : RateTableView)
  | status (id : Id) (status : FreightRateTableStatus)
  | coverage (row : CarrierCoverage)

def handle (P : Platform) : Request → Program rateTableInterface Reply
  | .createQuote tenantId actorId input =>
      Reply.quote <$> (Quoting.create P tenantId actorId input).lift
  | .createRateTable tenantId actorId input =>
      Reply.table <$> createRateTable tenantId actorId input none
  | .updateRateTable tenantId actorId id input =>
      Reply.table <$> updateRateTable tenantId actorId id input
  | .createRateTableVersion tenantId actorId id =>
      Reply.table <$> createRateTableVersion tenantId actorId id
  | .updateRateTableStatus tenantId actorId id status =>
      (fun found => Reply.status found.1 found.2) <$>
        updateRateTableStatus tenantId actorId id status
  | .createCoverage tenantId actorId input =>
      Reply.coverage <$> createCoverage tenantId actorId input
  | .updateCoverage tenantId actorId id input =>
      Reply.coverage <$> updateCoverage tenantId actorId id input

def rateTableSystem (P : Platform) : System rateTableInterface Request Reply Input Store :=
  ⟨execute P, handle P⟩

end Logistics.RateTables
