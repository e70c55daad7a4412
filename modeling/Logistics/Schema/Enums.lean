/-!
# Enumerations of the schema
-/

namespace Logistics

inductive UserRole
  | admin | manager | operator
  deriving DecidableEq, Repr

/-- The text of the role as it is stored and logged. -/
def UserRole.text : UserRole → String
  | .admin => "ADMIN"
  | .manager => "MANAGER"
  | .operator => "OPERATOR"

inductive UserStatus
  | incomplete | pending | active | blocked | invited | disabled | deleted
  deriving DecidableEq, Repr

/-- The text of the status as it is stored and logged. -/
def UserStatus.text : UserStatus → String
  | .incomplete => "INCOMPLETE"
  | .pending => "PENDING"
  | .active => "ACTIVE"
  | .blocked => "BLOCKED"
  | .invited => "INVITED"
  | .disabled => "DISABLED"
  | .deleted => "DELETED"

inductive OAuthProvider
  | google | github
  deriving DecidableEq, Repr

/-- The text of the provider as it is stored and logged. -/
def OAuthProvider.text : OAuthProvider → String
  | .google => "GOOGLE"
  | .github => "GITHUB"

inductive UserInvitationStatus
  | pending | accepted | revoked | expired
  deriving DecidableEq, Repr

inductive ImportStatus
  | pending | processing | completed | failed | canceled
  deriving DecidableEq, Repr

inductive ImportType
  | customers | carriers
  deriving DecidableEq, Repr

inductive ImportRowStatus
  | success | error | skipped
  deriving DecidableEq, Repr

inductive FreightSimulationStatus
  | draft | queued | calculated | failed
  deriving DecidableEq, Repr

inductive AddressType
  | main | pickup | delivery | billing | other
  deriving DecidableEq, Repr

inductive CarrierServiceStatus
  | active | inactive
  deriving DecidableEq, Repr

inductive CoverageStatus
  | active | inactive
  deriving DecidableEq, Repr

inductive FreightRateTableStatus
  | active | inactive
  deriving DecidableEq, Repr

inductive FreightChargeType
  | fixed | adValorem | gris | toll | insurance | addition | discount
  deriving DecidableEq, Repr

inductive FreightPriceComponentType
  | base | minimumAdjustment | weight | excessWeight | fixed | adValorem | gris
  | toll | insurance | addition | discount | total
  deriving DecidableEq, Repr

inductive ShipmentStatus
  | created | pickupScheduled | pickedUp | inTransit | arrivedAtHub
  | outForDelivery | delivered | deliveryFailed | returning | returned | canceled
  deriving DecidableEq, Repr

/-- The text of the status as it is stored and sent. -/
def ShipmentStatus.text : ShipmentStatus → String
  | .created => "CREATED"
  | .pickupScheduled => "PICKUP_SCHEDULED"
  | .pickedUp => "PICKED_UP"
  | .inTransit => "IN_TRANSIT"
  | .arrivedAtHub => "ARRIVED_AT_HUB"
  | .outForDelivery => "OUT_FOR_DELIVERY"
  | .delivered => "DELIVERED"
  | .deliveryFailed => "DELIVERY_FAILED"
  | .returning => "RETURNING"
  | .returned => "RETURNED"
  | .canceled => "CANCELED"

inductive TrackingEventType
  | statusChanged | etaUpdated | locationUpdated | noteAdded | exceptionReported
  | correctionCreated
  deriving DecidableEq, Repr

inductive AuditAction
  | login | logout | authFailure | tenantRegistered | passwordResetRequested
  | passwordResetCompleted | oauthLinked | oauthUnlinked | mfaChanged | userInvited
  | userCreated | userUpdated | roleChanged | sessionRevoked | onboardingUpdated
  | freightSimulationCreated | freightOptionSelected | shipmentCreated
  | importCreated | importStarted | importCompleted | importFailed | importCanceled
  | importRetried | importFileDownloaded | adminOperation | freightPricingChanged | carrierChanged
  | insightGenerated | insightRead | insightDismissed
  deriving DecidableEq, Repr

end Logistics
