import Logistics.Library.Text
import Logistics.Pricing.Engine
import Logistics.Schema.Catalog
import Logistics.Schema.Errors
import Logistics.Schema.Simulation

/-!
# Requests for a quote

The request of a freight simulation with the checks of its validators, the
normalization of addresses and postal codes, and the match of a route against
the coverages of a service.
-/

namespace Logistics.Quoting

open Logistics.Library Logistics.Pricing

/-- What the service takes from its platform: floating-point distance, dates and
letter case as the runtime has them, and the collation of names in the
database. -/
structure Platform where
  haversineKm : Decimal → Decimal → Decimal → Decimal → Decimal
  /-- The instant a text denotes, if it denotes a valid one. -/
  parseDate : String → Option Time
  isDateString : String → Bool
  toUpperCase : String → String
  collationLE : String → String → Bool

structure AddressInputDto where
  postalCode : String
  street : String
  number : Option String
  complement : Option String
  district : Option String
  city : String
  state : String
  country : Option String
  latitude : Option Decimal
  longitude : Option Decimal

structure FreightPackageDto where
  quantity : Decimal
  weightKg : Decimal
  lengthCm : Decimal
  widthCm : Decimal
  heightCm : Decimal
  description : Option String

structure CreateFreightSimulationDto where
  customerId : Option String
  carrierId : Option String
  carrierServiceId : Option String
  desiredShipDate : Option String
  cargoValue : Decimal
  origin : AddressInputDto
  destination : AddressInputDto
  packages : List FreightPackageDto

/-! ## Validation -/

/-- `@Length(low, high)` -/
def hasLength (low high : ℕ) (text : String) : Bool :=
  low ≤ utf16Length text && utf16Length text ≤ high

def AddressInputDto.isValid (input : AddressInputDto) : Bool :=
  hasLength 8 16 input.postalCode && hasLength 2 160 input.street &&
    input.number.all (hasLength 0 40) && input.complement.all (hasLength 0 120) &&
    input.district.all (hasLength 0 120) && hasLength 2 120 input.city &&
    hasLength 2 2 input.state && input.country.all (hasLength 2 2)

def FreightPackageDto.isValid (input : FreightPackageDto) : Bool :=
  1 ≤ input.quantity && input.quantity ≤ 999 && 1 / 1000 ≤ input.weightKg &&
    1 ≤ input.lengthCm && 1 ≤ input.widthCm && 1 ≤ input.heightCm &&
    input.description.all (hasLength 0 160)

def CreateFreightSimulationDto.isValid (P : Platform) (input : CreateFreightSimulationDto) :
    Bool :=
  input.customerId.all (hasLength 0 36) && input.carrierId.all (hasLength 0 36) &&
    input.carrierServiceId.all (hasLength 0 36) && input.desiredShipDate.all P.isDateString &&
    0 ≤ input.cargoValue && input.origin.isValid && input.destination.isValid &&
    1 ≤ input.packages.length && input.packages.all FreightPackageDto.isValid

/-! ## Addresses -/

structure AddressDto where
  city : String
  complement : Option String
  country : String
  district : Option String
  latitude : Option Decimal
  longitude : Option Decimal
  number : Option String
  postalCode : String
  state : String
  street : String

def toAddressDto (input : AddressInputDto) : AddressDto where
  city := input.city
  complement := input.complement
  country := input.country.getD "BR"
  district := input.district
  latitude := input.latitude
  longitude := input.longitude
  number := input.number
  postalCode := input.postalCode
  state := input.state
  street := input.street

/-- A text is used only if it is there and not empty. -/
def truthy (text : Option String) : Option String :=
  text.filter fun value => value ≠ ""

def optionalText (value : Option String) : Option String :=
  truthy (value.map trim)

def normalizePostalCode (value : String) : Except ServiceError String :=
  let digits := String.ofList (value.toList.filter Char.isDigit)
  if digits.length ≠ 8 then throw (.badRequest "Postal code must have 8 digits.")
  else pure digits

def toSimulationAddress (P : Platform) (tenantId simulationId : Id) (type : AddressType)
    (input : AddressDto) (postalCode : String) : FreightSimulationAddress where
  tenantId := tenantId
  simulationId := simulationId
  type := type
  postalCode := postalCode
  street := trim input.street
  number := optionalText input.number
  complement := optionalText input.complement
  district := optionalText input.district
  city := trim input.city
  state := P.toUpperCase (trim input.state)
  country := P.toUpperCase (trim input.country)
  latitude := input.latitude.map (Fixed.store 7)
  longitude := input.longitude.map (Fixed.store 7)

def toPackageInput (input : FreightPackageDto) : PackageInput where
  heightCm := input.heightCm
  lengthCm := input.lengthCm
  quantity := input.quantity
  weightKg := input.weightKg
  widthCm := input.widthCm

/-- A coordinate that is there and not zero. -/
def coordinate (value : Option Decimal) : Option Decimal :=
  value.filter fun x => x ≠ 0

/-- The number the first three digits of a postal code make. -/
def postalPrefix (postalCode : String) : Decimal :=
  ((postalCode.toList.take 3).foldl (fun value c => value * 10 + (c.toNat - '0'.toNat)) 0 : ℕ)

def calculateDistanceKm (P : Platform) (origin destination : AddressDto) :
    Except ServiceError Decimal :=
  match coordinate origin.latitude, coordinate origin.longitude,
      coordinate destination.latitude, coordinate destination.longitude with
  | some originLat, some originLng, some destinationLat, some destinationLng =>
      pure (scale (P.haversineKm originLat originLng destinationLat destinationLng) 2)
  | _, _, _, _ => do
      let originPrefix := postalPrefix (← normalizePostalCode origin.postalCode)
      let destinationPrefix := postalPrefix (← normalizePostalCode destination.postalCode)
      pure (scale (max 25 (|destinationPrefix - originPrefix| * (15 / 2))) 2)

/-! ## Coverage -/

/-- The normalized bound of a postal range; an absent or empty one is no bound. -/
def normalizeBound (bound : Option String) : Except ServiceError (Option String) :=
  match truthy bound with
  | some value => some <$> normalizePostalCode value
  | none => pure none

def inPostalRange (postalCode : String) (start finish : Option String) :
    Except ServiceError Bool := do
  let normalizedStart ← normalizeBound start
  let normalizedEnd ← normalizeBound finish
  pure (normalizedStart.all (fun value => value ≤ postalCode) &&
    normalizedEnd.all (fun value => postalCode ≤ value))

def coverageMatches (P : Platform) (origin destination : AddressDto)
    (coverage : CarrierCoverage) : Except ServiceError Bool := do
  let originStateMatches :=
    (truthy coverage.originState).all fun state => state = P.toUpperCase origin.state
  let destinationStateMatches :=
    (truthy coverage.destinationState).all fun state => state = P.toUpperCase destination.state
  let originPostalMatches ← inPostalRange (← normalizePostalCode origin.postalCode)
    coverage.originPostalCodeStart coverage.originPostalCodeEnd
  let destinationPostalMatches ← inPostalRange (← normalizePostalCode destination.postalCode)
    coverage.destinationPostalCodeStart coverage.destinationPostalCodeEnd
  pure (originStateMatches && destinationStateMatches && originPostalMatches &&
    destinationPostalMatches)

/-- Some coverage matches; the coverages after the first match are not looked
at. -/
def matchesCoverage (P : Platform) (origin destination : AddressDto) :
    List CarrierCoverage → Except ServiceError Bool
  | [] => pure false
  | coverage :: rest => do
      if ← coverageMatches P origin destination coverage then pure true
      else matchesCoverage P origin destination rest

end Logistics.Quoting
