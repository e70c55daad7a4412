import Logistics.Library.Rounding
import Logistics.Schema.Enums
import Logistics.Schema.Scalars

/-!
# Shipments and their tracking events
-/

namespace Logistics

open Logistics.Library

structure Shipment where
  id : Id
  tenantId : Id
  simulationId : Id
  selectedOptionId : Id
  customerId : Option Id
  branchId : Option Id
  carrierId : Id
  carrierServiceId : Id
  createdById : Option Id
  trackingCode : String
  externalReference : Option String
  realWeightKg : Fixed 3
  chargeableWeightKg : Fixed 3
  cargoValue : Option (Fixed 2)
  freightValue : Fixed 2
  estimatedDeliveryAt : Time
  deliveredAt : Option Time
  status : ShipmentStatus
  createdAt : Time
  deriving DecidableEq

structure ShipmentAddress where
  tenantId : Id
  shipmentId : Id
  type : AddressType
  postalCode : String
  street : String
  number : Option String
  complement : Option String
  district : Option String
  city : String
  state : String
  country : String
  deriving DecidableEq

structure ShipmentPackage where
  tenantId : Id
  shipmentId : Id
  simulationPackageId : Option Id
  quantity : Int
  weightKg : Fixed 3
  lengthCm : Fixed 2
  widthCm : Fixed 2
  heightCm : Fixed 2
  volumeM3 : Fixed 6
  description : Option String
  deriving DecidableEq

structure TrackingEvent where
  id : Id
  tenantId : Id
  shipmentId : Id
  createdById : Option Id
  eventType : TrackingEventType
  status : Option ShipmentStatus
  description : Option String
  occurredAt : Time
  receivedAt : Time
  location : Option String
  externalCode : Option String
  idempotencyKey : Option String
  createdAt : Time
  deriving DecidableEq

end Logistics
