import Mathlib.Data.List.Basic
import Mathlib.Tactic.Common
import Logistics.Schema.Enums

/-!
# The status machine of shipments

The listed transitions, the check made before an event is recorded, and the
replay of a list of statuses under that check.
-/

namespace Logistics.Tracking

def transitions : ShipmentStatus → List ShipmentStatus
  | .created => [.pickupScheduled, .canceled]
  | .pickupScheduled => [.pickedUp, .canceled]
  | .pickedUp => [.inTransit, .canceled]
  | .inTransit => [.arrivedAtHub, .outForDelivery, .returning, .canceled]
  | .arrivedAtHub => [.outForDelivery, .inTransit, .returning]
  | .outForDelivery => [.delivered, .deliveryFailed, .returning]
  | .deliveryFailed => [.outForDelivery, .returning]
  | .returning => [.returned]
  | .delivered => []
  | .returned => []
  | .canceled => []

def isValidTransition (current next : ShipmentStatus) : Bool :=
  current == next || (transitions current).contains next

def isTerminal : ShipmentStatus → Bool
  | .delivered | .returned | .canceled => true
  | _ => false

theorem isValidTransition_iff (current next : ShipmentStatus) :
    isValidTransition current next = true ↔
      current = next ∨ next ∈ transitions current := by
  simp [isValidTransition]

theorem isValidTransition_self (status : ShipmentStatus) :
    isValidTransition status status = true := by
  rw [isValidTransition_iff]
  exact .inl rfl

theorem isTerminal_iff (status : ShipmentStatus) :
    isTerminal status = true ↔ transitions status = [] := by
  cases status <;> simp [isTerminal, transitions]

theorem eq_of_isValidTransition_of_isTerminal {current next : ShipmentStatus}
    (hterminal : isTerminal current = true)
    (hvalid : isValidTransition current next = true) : next = current := by
  rw [isTerminal_iff] at hterminal
  rw [isValidTransition_iff, hterminal] at hvalid
  rcases hvalid with rfl | hmem
  · rfl
  · cases hmem

/-! ## Replay -/

/-- Take the steps of `statuses` one by one, as long as each is valid. -/
def replay : ShipmentStatus → List ShipmentStatus → Option ShipmentStatus
  | current, [] => some current
  | current, next :: rest =>
      if isValidTransition current next then replay next rest else none

@[simp] theorem replay_nil (current : ShipmentStatus) :
    replay current [] = some current := rfl

theorem replay_append (current : ShipmentStatus) (xs ys : List ShipmentStatus) :
    replay current (xs ++ ys) = (replay current xs).bind fun last => replay last ys := by
  induction xs generalizing current with
  | nil => rfl
  | cons next xs ih =>
      by_cases hvalid : isValidTransition current next = true
      · simp [replay, hvalid, ih]
      · simp [replay, hvalid]

/-- A valid step from where the replay ends extends it. -/
theorem replay_concat {current last next : ShipmentStatus}
    {statuses : List ShipmentStatus} (hreplay : replay current statuses = some last)
    (hvalid : isValidTransition last next = true) :
    replay current (statuses ++ [next]) = some next := by
  rw [replay_append, hreplay]
  simp [replay, hvalid]

end Logistics.Tracking
