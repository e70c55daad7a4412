import Logistics.Library.Rounding
import Logistics.Schema.Enums
import Logistics.Schema.Scalars

/-!
# Carriers, services and rate tables

The rows a quote is priced from. A decimal column of the schema is a `Fixed`
value, so a stored weight or price never has more places than its column.
-/

namespace Logistics

open Logistics.Library

structure Carrier where
  id : Id
  tenantId : Id
  name : String
  active : Bool
  deriving DecidableEq

structure CarrierService where
  id : Id
  tenantId : Id
  carrierId : Id
  code : String
  name : String
  cubicFactor : Fixed 3
  minWeightKg : Option (Fixed 3)
  maxWeightKg : Option (Fixed 3)
  maxLengthCm : Option (Fixed 2)
  maxWidthCm : Option (Fixed 2)
  maxHeightCm : Option (Fixed 2)
  minimumValue : Fixed 2
  status : CarrierServiceStatus
  deriving DecidableEq

structure CarrierCoverage where
  id : Id
  tenantId : Id
  carrierServiceId : Id
  originState : Option String
  destinationState : Option String
  originPostalCodeStart : Option String
  originPostalCodeEnd : Option String
  destinationPostalCodeStart : Option String
  destinationPostalCodeEnd : Option String
  status : CoverageStatus
  deriving DecidableEq

structure FreightRateTable where
  id : Id
  tenantId : Id
  carrierServiceId : Id
  name : String
  version : Nat
  currency : String
  validFrom : Time
  validTo : Option Time
  status : FreightRateTableStatus
  notes : Option String
  previousVersionId : Option Id
  deriving DecidableEq

structure FreightRateRange where
  id : Id
  tenantId : Id
  rateTableId : Id
  minWeightKg : Fixed 3
  maxWeightKg : Fixed 3
  basePrice : Fixed 2
  pricePerKg : Fixed 4
  excessPricePerKg : Option (Fixed 4)
  deadlineDays : Int
  priority : Int
  deriving DecidableEq

structure FreightAdditionalCharge where
  id : Id
  tenantId : Id
  rateTableId : Id
  type : FreightChargeType
  name : String
  fixedAmount : Option (Fixed 2)
  percentage : Option (Fixed 6)
  active : Bool
  createdAt : Time
  deriving DecidableEq

/-- A coverage that a rate table is for. -/
structure FreightRateTableCoverage where
  id : Id
  tenantId : Id
  rateTableId : Id
  coverageId : Id
  deriving DecidableEq

structure Customer where
  id : Id
  tenantId : Id
  name : String
  active : Bool
  deriving DecidableEq

structure Branch where
  id : Id
  tenantId : Id
  name : String
  code : String
  postalCode : Option String
  street : Option String
  number : Option String
  complement : Option String
  district : Option String
  city : Option String
  state : Option String
  country : String
  email : Option String
  phone : Option String
  main : Bool
  active : Bool
  createdAt : Time
  updatedAt : Time
  deriving DecidableEq

end Logistics
