import Logistics.Library.Sequential
import Logistics.Quoting.Request
import Logistics.Schema.Store

/-!
# Administering carrier services

`createService` and `updateService` of the carriers service. Both compare the two
weight limits of the request, when both are given; an update writes the limits
that are given over those that are stored.
-/

namespace Logistics.Carriers

open Logistics.Library Logistics.Quoting

/-! ## Requests -/

/-- An optional property of a request: not given, `null`, or a value. -/
inductive Property (α : Type)
  | undefined
  | null
  | value (a : α)

/-- The operand of a comparison that a property makes; `null` counts as zero. -/
def Property.number? : Property Decimal → Option Decimal
  | .undefined => none
  | .null => some 0
  | .value x => some x

/-- What a column keeps of a property. -/
def Property.store (places : ℕ) : Property Decimal → Option (Fixed places)
  | .value x => some (.store places x)
  | _ => none

/-- What an update leaves in the column: `undefined` sets nothing. -/
def Property.update {places : ℕ} (property : Property Decimal)
    (current : Option (Fixed places)) : Option (Fixed places) :=
  match property with
  | .undefined => current
  | .null => none
  | .value x => some (.store places x)

structure CreateCarrierServiceDto where
  code : String
  name : String
  modality : String
  defaultDeadlineDays : Decimal
  cubicFactor : Decimal
  minWeightKg : Property Decimal
  maxWeightKg : Property Decimal
  maxLengthCm : Property Decimal
  maxWidthCm : Property Decimal
  maxHeightCm : Property Decimal
  minimumValue : Decimal
  description : Option String
  status : Option CarrierServiceStatus

/-- `@IsOptional() @IsNumber() @Min(0)` -/
def isLimit : Property Decimal → Bool
  | .value x => 0 ≤ x
  | _ => true

def CreateCarrierServiceDto.isValid (input : CreateCarrierServiceDto) : Bool :=
  hasLength 2 40 input.code && hasLength 2 140 input.name && hasLength 2 60 input.modality &&
    1 ≤ input.defaultDeadlineDays && 1 ≤ input.cubicFactor && isLimit input.minWeightKg &&
    isLimit input.maxWeightKg && isLimit input.maxLengthCm && isLimit input.maxWidthCm &&
    isLimit input.maxHeightCm && 0 ≤ input.minimumValue && input.description.all (hasLength 0 255)

/-- Both weight limits are given, and the maximum is not above the minimum. -/
def limitsConflict (input : CreateCarrierServiceDto) : Bool :=
  match input.maxWeightKg.number?, input.minWeightKg.number? with
  | some maxWeightKg, some minWeightKg => maxWeightKg ≤ minWeightKg
  | _, _ => false

/-! ## Rows -/

structure CarrierTransportService extends CarrierService where
  modality : String
  description : Option String
  defaultDeadlineDays : Int
  deriving DecidableEq

inductive CarrierServiceKey
  | id (id : Id)
  | code (tenantId carrierId : Id) (code : String)
  deriving DecidableEq

def CarrierTransportService.keys (row : CarrierTransportService) : List CarrierServiceKey :=
  [.id row.id, .code row.tenantId row.carrierId row.code]

structure CarrierStore where
  carriers : IdTable Carrier Carrier.id
  carrierServices : Table CarrierTransportService CarrierServiceKey CarrierTransportService.keys
  auditLogs : List AuditRecordInput

def serviceRow (id tenantId carrierId : Id) (input : CreateCarrierServiceDto) :
    CarrierTransportService where
  id := id
  tenantId := tenantId
  carrierId := carrierId
  code := trim input.code
  name := trim input.name
  cubicFactor := .store 3 input.cubicFactor
  minWeightKg := input.minWeightKg.store 3
  maxWeightKg := input.maxWeightKg.store 3
  maxLengthCm := input.maxLengthCm.store 2
  maxWidthCm := input.maxWidthCm.store 2
  maxHeightCm := input.maxHeightCm.store 2
  minimumValue := .store 2 input.minimumValue
  status := input.status.getD .active
  modality := trim input.modality
  description := optionalText input.description
  defaultDeadlineDays := input.defaultDeadlineDays.num

def updatedRow (input : CreateCarrierServiceDto) (status : CarrierServiceStatus)
    (row : CarrierTransportService) : CarrierTransportService where
  id := row.id
  tenantId := row.tenantId
  carrierId := row.carrierId
  code := trim input.code
  name := trim input.name
  cubicFactor := .store 3 input.cubicFactor
  minWeightKg := input.minWeightKg.update row.minWeightKg
  maxWeightKg := input.maxWeightKg.update row.maxWeightKg
  maxLengthCm := input.maxLengthCm.update row.maxLengthCm
  maxWidthCm := input.maxWidthCm.update row.maxWidthCm
  maxHeightCm := input.maxHeightCm.update row.maxHeightCm
  minimumValue := .store 2 input.minimumValue
  status := status
  modality := trim input.modality
  description := optionalText input.description
  defaultDeadlineDays := input.defaultDeadlineDays.num

/-! ## Calls -/

inductive Command
  | findCarrier (id tenantId : Id)
  | findService (id carrierId tenantId : Id)
  | createService (tenantId carrierId : Id) (input : CreateCarrierServiceDto)
  | updateService (id : Id) (input : CreateCarrierServiceDto) (status : CarrierServiceStatus)
  | recordAudit (input : AuditRecordInput)

@[reducible] def Command.Result : Command → Type
  | .findCarrier .. => Option Carrier
  | .findService .. => Option CarrierTransportService
  | .createService .. | .updateService .. => CarrierTransportService
  | .recordAudit _ => Unit

@[reducible] def carrierInterface : Interface := ⟨Command, Command.Result, ServiceError⟩

abbrev call (c : Command) : Program carrierInterface c.Result :=
  @Program.perform carrierInterface c

/-- A deadline that is not a whole number does not fit its column. -/
def answer : (c : Command) → Input → CarrierStore →
    Response carrierInterface c × CarrierStore
  | .findCarrier id tenantId, _, s =>
      (.ok (s.carriers.rows.find? fun row => row.id == id && row.tenantId == tenantId), s)
  | .findService id carrierId tenantId, _, s =>
      (.ok (s.carrierServices.rows.find? fun row =>
        row.id == id && row.carrierId == carrierId && row.tenantId == tenantId), s)
  | .createService tenantId carrierId input, env, s =>
      let row := serviceRow (env.ids 0) tenantId carrierId input
      if input.defaultDeadlineDays.den ≠ 1 then (.error .fault, s)
      else
        match s.carrierServices.tryInsert row with
        | some carrierServices => (.ok row, { s with carrierServices })
        | none => (.error .uniqueViolation, s)
  | .updateService id input status, _, s =>
      if input.defaultDeadlineDays.den ≠ 1 then (.error .fault, s)
      else
        match s.carrierServices.rows.find? fun row => row.id == id with
        | none => (.error .recordNotFound, s)
        | some row =>
            match s.carrierServices.tryUpdate (fun row => row.id == id)
                (updatedRow input status) with
            | some carrierServices =>
                (.ok (updatedRow input status row), { s with carrierServices })
            | none => (.error .uniqueViolation, s)
  | .recordAudit audit, _, s => (.ok (), { s with auditLogs := s.auditLogs ++ [audit] })

/-- Any call may be broken off by the database. -/
def execute (c : Command) (env : Input) (s : CarrierStore) :
    Response carrierInterface c × CarrierStore :=
  if env.fault then (.error .fault, s) else answer c env s

/-! ## Operations -/

structure CarrierTransportServiceDto where
  carrierId : Id
  code : String
  cubicFactor : Fixed 3
  defaultDeadlineDays : Int
  id : Id
  maxWeightKg : Option (Fixed 3)
  minWeightKg : Option (Fixed 3)
  minimumValue : Fixed 2
  modality : String
  name : String
  status : CarrierServiceStatus
  description : Option String
  maxLengthCm : Option (Fixed 2)
  maxWidthCm : Option (Fixed 2)
  maxHeightCm : Option (Fixed 2)

def presentService (service : CarrierTransportService) : CarrierTransportServiceDto where
  carrierId := service.carrierId
  code := service.code
  cubicFactor := service.cubicFactor
  defaultDeadlineDays := service.defaultDeadlineDays
  id := service.id
  maxWeightKg := service.maxWeightKg
  minWeightKg := service.minWeightKg
  minimumValue := service.minimumValue
  modality := service.modality
  name := service.name
  status := service.status
  description := service.description
  maxLengthCm := service.maxLengthCm
  maxWidthCm := service.maxWidthCm
  maxHeightCm := service.maxHeightCm

def conflictingLimits : ServiceError :=
  .conflict "Maximum weight must be greater than minimum weight."

def createService (tenantId carrierId : Id) (input : CreateCarrierServiceDto) :
    Program carrierInterface CarrierTransportServiceDto := do
  let some _ ← call (.findCarrier carrierId tenantId)
    | throw (.notFound "Carrier was not found.")
  Program.throwIf (limitsConflict input = true) conflictingLimits
  let service ← Program.tryCatch (call (.createService tenantId carrierId input)) fun error =>
    if error = .uniqueViolation then
      throw (.conflict "Código de serviço já existe nesta transportadora.")
    else throw error
  pure (presentService service)

def updateService (tenantId actorId carrierId serviceId : Id) (input : CreateCarrierServiceDto) :
    Program carrierInterface CarrierTransportServiceDto := do
  let some service ← call (.findService serviceId carrierId tenantId)
    | throw (.notFound "Carrier service was not found.")
  Program.throwIf (limitsConflict input = true) conflictingLimits
  let updated ← call (.updateService serviceId input (input.status.getD service.status))
  call (.recordAudit {
    action := .carrierChanged
    actorId := some actorId
    entityId := some serviceId
    entityType := some "CarrierService"
    metadata := [("operation", some "update"), ("carrierId", some carrierId)]
    tenantId := some tenantId })
  pure (presentService updated)

inductive Request
  | createService (tenantId carrierId : Id) (input : CreateCarrierServiceDto)
  | updateService (tenantId actorId carrierId serviceId : Id) (input : CreateCarrierServiceDto)

def handle : Request → Program carrierInterface CarrierTransportServiceDto
  | .createService tenantId carrierId input => createService tenantId carrierId input
  | .updateService tenantId actorId carrierId serviceId input =>
      updateService tenantId actorId carrierId serviceId input

def carrierSystem : System carrierInterface Request CarrierTransportServiceDto Input CarrierStore :=
  ⟨execute, handle⟩

end Logistics.Carriers
