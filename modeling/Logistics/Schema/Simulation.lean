import Logistics.Library.Rounding
import Logistics.Schema.Enums
import Logistics.Schema.Scalars

/-!
# Stored simulations

What a quote leaves behind: the request as far as its columns keep it, and one
row for every priced option with its price components.
-/

namespace Logistics

open Logistics.Library

structure UnavailableService where
  carrier : String
  reason : String
  service : String
  deriving DecidableEq

structure FreightSimulation where
  id : Id
  tenantId : Id
  branchId : Option Id
  customerId : Option Id
  carrierId : Option Id
  createdById : Id
  originPostalCode : String
  destinationPostalCode : String
  realWeightKg : Fixed 3
  cubicWeightKg : Fixed 3
  chargeableWeightKg : Fixed 3
  totalVolumeM3 : Fixed 6
  cargoValue : Fixed 2
  distanceKm : Fixed 2
  desiredShipDate : Time
  estimatedPrice : Fixed 2
  estimatedDeadlineDays : Int
  status : FreightSimulationStatus
  /-- The `unavailable` list of the metadata. -/
  metadata : List UnavailableService
  createdAt : Time
  deriving DecidableEq

structure FreightSimulationAddress where
  tenantId : Id
  simulationId : Id
  type : AddressType
  postalCode : String
  street : String
  number : Option String
  complement : Option String
  district : Option String
  city : String
  state : String
  country : String
  latitude : Option (Fixed 7)
  longitude : Option (Fixed 7)
  deriving DecidableEq

structure FreightSimulationPackage where
  id : Id
  tenantId : Id
  simulationId : Id
  quantity : Int
  weightKg : Fixed 3
  lengthCm : Fixed 2
  widthCm : Fixed 2
  heightCm : Fixed 2
  volumeM3 : Fixed 6
  description : Option String
  deriving DecidableEq

structure FreightSimulationOption where
  id : Id
  tenantId : Id
  simulationId : Id
  carrierId : Id
  carrierServiceId : Id
  rateTableId : Id
  rateRangeId : Id
  carrierName : String
  serviceName : String
  serviceCode : String
  rateTableVersion : Nat
  currency : String
  realWeightKg : Fixed 3
  cubicWeightKg : Fixed 3
  chargeableWeightKg : Fixed 3
  distanceKm : Fixed 2
  deadlineDays : Int
  estimatedDeliveryAt : Time
  totalPrice : Fixed 2
  cheapest : Bool
  fastest : Bool
  selected : Bool
  selectedAt : Option Time
  deriving DecidableEq

structure FreightSimulationPriceComponent where
  tenantId : Id
  optionId : Id
  type : FreightPriceComponentType
  label : String
  amount : Fixed 2
  sortOrder : Nat
  deriving DecidableEq

end Logistics
