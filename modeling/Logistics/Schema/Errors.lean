/-!
# Errors of the services

The exceptions a service throws carry their message; the errors of the database
client are the two codes the services look at, and every other failure of a call
(a lost connection, a value too long for its column) is a fault.
-/

namespace Logistics

inductive ServiceError
  | badRequest (message : String)
  | unauthorized (message : String)
  | forbidden (message : String)
  | notFound (message : String)
  | conflict (message : String)
  | tooManyRequests
  | serviceUnavailable (message : String)
  /-- `P2002`: a unique key would be violated. -/
  | uniqueViolation
  /-- `P2025`: the row to update does not exist. -/
  | recordNotFound
  | fault
  deriving DecidableEq, Repr

end Logistics
