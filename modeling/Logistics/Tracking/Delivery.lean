import Logistics.Tracking.Replay

/-!
# The instant of delivery

Every transaction with a status writes the delivery instant too: the clock when the
status is `DELIVERED`, and what the call has read otherwise. As `DELIVERED` may
follow itself, a second such event writes another instant.
-/

namespace Logistics.Tracking

open Logistics.Library

/-- No accepted transaction records a delivery of a shipment that its call has read
as delivered. -/
def DeliversOnce (s : Store) : trackingInterface.Command → Input → Prop
  | .recordEvent tenantId _ shipmentId data current, input =>
      Accepts s input tenantId shipmentId data → data.status = some .delivered →
        current.status ≠ .delivered
  | _, _ => True

instance (s : Store) (cmd : Command) (input : Input) : Decidable (DeliversOnce s cmd input) := by
  apply @Command.casesOn (fun cmd => Decidable (DeliversOnce s cmd input)) cmd <;>
    intros <;> dsimp only [DeliversOnce] <;> infer_instance

/-- Shipments as their creation leaves them, without an instant of delivery. -/
def Undelivered (s : Store) : Prop :=
  Untracked s ∧ ∀ shipment ∈ s.shipments.rows, shipment.deliveredAt = none

instance (s : Store) : Decidable (Undelivered s) := by
  unfold Undelivered Untracked
  infer_instance

/-- A shipment has an instant of delivery when it is delivered, and then an event
with this status was recorded for it. -/
def RecordsDelivery (s : Store) : Prop :=
  ∀ shipment ∈ s.shipments.rows,
    (shipment.deliveredAt.isSome = true ↔ shipment.status = .delivered) ∧
      (shipment.deliveredAt.isSome = true ↔
        ShipmentStatus.delivered ∈ recordedStatuses s shipment.id)

/-- An instant of delivery that was set is still the same. -/
def KeepsDelivery (before after : Store) : Prop :=
  ∀ old ∈ before.shipments.rows, old.deliveredAt.isSome = true →
    ∀ new ∈ after.shipments.rows, new.id = old.id → new.deliveredAt = old.deliveredAt

instance (before after : Store) : Decidable (KeepsDelivery before after) := by
  unfold KeepsDelivery
  infer_instance

theorem recordsDelivery_of_undelivered {s : Store} (hs : Undelivered s) : RecordsDelivery s := by
  intro shipment hshipment
  have hnone := hs.2 shipment hshipment
  have hcreated := hs.1.1 shipment hshipment
  have hempty : recordedStatuses s shipment.id = [] := by
    rw [recordedStatuses, hs.1.2]
    rfl
  constructor
  · rw [hnone, hcreated]
    simp
  · rw [hnone, hempty]
    simp

theorem recordsDelivery_of_sameTracking {s s' : Store} (h : SameTracking s s')
    (hs : RecordsDelivery s) : RecordsDelivery s' := by
  intro shipment hshipment
  rw [h.1] at hshipment
  rw [recordedStatuses_of_sameTracking h]
  exact hs shipment hshipment

theorem keepsDelivery_of_sameTracking {s₀ s s' : Store} (h : SameTracking s s')
    (hs : KeepsDelivery s₀ s) : KeepsDelivery s₀ s' := by
  intro old hold hset new hnew
  rw [h.1] at hnew
  exact hs old hold hset new hnew

/-- The instant of delivery a shipment has after the event. -/
theorem afterEvent_deliveredAt (input : Input) (shipmentId : Id) (data : CreateTrackingEventDto)
    (current row : Shipment) :
    (afterEvent input shipmentId data current row).deliveredAt =
      if row.id = shipmentId then
        data.status.elim row.deliveredAt fun status =>
          if status = .delivered then some input.now else current.deliveredAt
      else row.deliveredAt := by
  unfold afterEvent
  cases data.status with
  | none => simp
  | some status => by_cases h : row.id = shipmentId <;> simp [h, writeStatus]

theorem recordsDelivery_of_commits {s s' : Store} {input : Input}
    {tenantId actorId shipmentId : Id} {data : CreateTrackingEventDto} {current : Shipment}
    (hs : RecordsDelivery s)
    (h : CommitsAlone s input tenantId actorId shipmentId data current s') :
    RecordsDelivery s' := by
  intro after hafter
  rw [h.commits.shipments, List.mem_map] at hafter
  obtain ⟨row, hrow, rfl⟩ := hafter
  obtain ⟨hstatus, hrecorded⟩ := hs row hrow
  rw [recordedStatuses_of_commits h.commits, afterEvent_id, afterEvent_status,
    afterEvent_deliveredAt]
  by_cases hid : row.id = shipmentId
  · have hcurrent : current = row := shipment_eq_of_id h.stored hrow (by rw [h.id_eq, hid])
    rw [if_pos hid, if_pos hid, if_pos hid.symm]
    cases hdata : data.status with
    | none => simpa using ⟨hstatus, hrecorded⟩
    | some status =>
        by_cases hdelivered : status = .delivered
        · subst hdelivered
          simp
        · -- a delivered shipment is followed by no other status, so this one is not delivered
          have hnot : row.status ≠ .delivered := by
            intro heq
            have hvalid := h.valid status hdata
            rw [hcurrent, heq] at hvalid
            exact hdelivered (eq_of_isValidTransition_of_isTerminal rfl hvalid)
          have hunset : row.deliveredAt.isSome = false :=
            Bool.eq_false_iff.mpr fun hset => hnot (hstatus.mp hset)
          have hunrecorded : ShipmentStatus.delivered ∉ recordedStatuses s row.id :=
            fun hmem => hnot (hstatus.mp (hrecorded.mpr hmem))
          simp [hcurrent, hdelivered, hunset, hunrecorded, Ne.symm hdelivered]
  · rw [if_neg hid, if_neg hid, if_neg (Ne.symm hid), List.append_nil]
    exact ⟨hstatus, hrecorded⟩

theorem keepsDelivery_of_commits {s₀ s s' : Store} {input : Input}
    {tenantId actorId shipmentId : Id} {data : CreateTrackingEventDto} {current : Shipment}
    (hs : RecordsDelivery s) (hkeeps : KeepsDelivery s₀ s)
    (honce : DeliversOnce s (.recordEvent tenantId actorId shipmentId data current) input)
    (h : CommitsAlone s input tenantId actorId shipmentId data current s') :
    KeepsDelivery s₀ s' := by
  intro old hold hset after hafter hsame
  rw [h.commits.shipments, List.mem_map] at hafter
  obtain ⟨row, hrow, rfl⟩ := hafter
  rw [afterEvent_id] at hsame
  have hkept := hkeeps old hold hset row hrow hsame
  rw [afterEvent_deliveredAt, ← hkept]
  by_cases hid : row.id = shipmentId
  · have hcurrent : current = row := shipment_eq_of_id h.stored hrow (by rw [h.id_eq, hid])
    have hdelivered : row.status = .delivered := (hs row hrow).1.mp (by rw [hkept, hset])
    rw [if_pos hid]
    cases hdata : data.status with
    | none => rfl
    | some status =>
        have hvalid := h.valid status hdata
        rw [hcurrent, hdelivered] at hvalid
        have hagain := eq_of_isValidTransition_of_isTerminal rfl hvalid
        subst hagain
        exact absurd (hcurrent ▸ hdelivered) (honce h.commits.accepts hdata)
  · rw [if_neg hid]

/-- After any requests run one after the other a shipment has an instant of delivery
exactly when an event with the status `DELIVERED` was recorded for it; and the
instant stays as it was set, if no delivery is recorded of a delivered shipment. -/
theorem deliveredAt_recorded_once (s : Store) (hs : Undelivered s)
    (calls : List (Request × (ℕ → Input))) :
    (∀ shipment ∈ (trackingSystem.runCalls calls s).shipments.rows,
      (shipment.deliveredAt.isSome = true ↔ ShipmentStatus.delivered ∈
        recordedStatuses (trackingSystem.runCalls calls s) shipment.id)) ∧
      (trackingSystem.AlongCalls DeliversOnce calls s →
        ∀ pre post, calls = pre ++ post →
          KeepsDelivery (trackingSystem.runCalls pre s) (trackingSystem.runCalls calls s)) := by
  have hrecords : ∀ calls, RecordsDelivery (trackingSystem.runCalls calls s) := fun calls =>
    trackingSystem.runCalls_invariant
      (handle_wp (A := fun _ _ _ => True) (fun _ _ => recordsDelivery_of_sameTracking)
        fun _ _ _ _ _ _ _ _ h _ hc => recordsDelivery_of_commits h hc)
      calls s (recordsDelivery_of_undelivered hs) (trackingSystem.alongCalls_true calls s)
  constructor
  · exact fun shipment hshipment => (hrecords calls shipment hshipment).2
  · rintro honce pre post rfl
    rw [trackingSystem.alongCalls_append] at honce
    rw [trackingSystem.runCalls_append]
    generalize hs₀ : trackingSystem.runCalls pre s = s₀ at honce ⊢
    have hstart : RecordsDelivery s₀ ∧ KeepsDelivery s₀ s₀ := by
      refine ⟨hs₀ ▸ hrecords pre, fun old hold _ new hnew hid => ?_⟩
      rw [shipment_eq_of_id hnew hold hid]
    exact (trackingSystem.runCalls_invariant
      (J := fun s => RecordsDelivery s ∧ KeepsDelivery s₀ s) (A := DeliversOnce)
      (handle_wp (fun _ _ hsame h => ⟨recordsDelivery_of_sameTracking hsame h.1,
          keepsDelivery_of_sameTracking hsame h.2⟩)
        fun _ _ _ _ _ _ _ _ h honce hc => ⟨recordsDelivery_of_commits h.1 hc,
          keepsDelivery_of_commits h.1 h.2 honce hc⟩)
      post s₀ hstart honce.2).2

/-- The way of a shipment to its delivery. -/
def deliveryCalls : List (Request × (ℕ → Input)) :=
  [ShipmentStatus.pickupScheduled, .pickedUp, .inTransit, .outForDelivery, .delivered].mapIdx
    fun n status => (.updateShipmentStatus "tenant" "ana" "shipment" status,
      fun k => tick (10 * n + k) (toString n))

def deliveryNote : Request × (ℕ → Input) :=
  (.createTrackingEvent "tenant" "bia" "shipment"
    ⟨.noteAdded, none, some "recebido", 45, none, none, none⟩, fun k => tick (50 + k) "5")

def deliveredAgain : Request × (ℕ → Input) :=
  (.updateShipmentStatus "tenant" "bia" "shipment" .delivered, fun k => tick (50 + k) "5")

theorem deliveredAt_recorded_once_noted :
    KeepsDelivery (trackingSystem.runCalls deliveryCalls oneShipment)
      (trackingSystem.runCalls (deliveryCalls ++ [deliveryNote]) oneShipment) :=
  (deliveredAt_recorded_once oneShipment (by decide) (deliveryCalls ++ [deliveryNote])).2
    (by decide) deliveryCalls [deliveryNote] rfl

theorem a_delivery_is_recorded_twice :
    Undelivered oneShipment ∧
      ¬KeepsDelivery (trackingSystem.runCalls deliveryCalls oneShipment)
        (trackingSystem.runCalls (deliveryCalls ++ [deliveredAgain]) oneShipment) := by
  decide

end Logistics.Tracking
