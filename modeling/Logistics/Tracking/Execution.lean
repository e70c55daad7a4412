import Logistics.Tracking.Service

/-!
# What the calls do to shipments and events

The transaction that records an event is the only call that touches either
table, and `execute_cases` says all of what it does: it appends one event whose
key was free, and rewrites the status of one shipment when the event carries
one. Every other statement about the calls is read off from it.
-/

namespace Logistics.Tracking

open Logistics.Library

/-- An event with this key is stored for the shipment. -/
def KeyTaken (s : Store) (tenantId shipmentId : Id) (key : String) : Prop :=
  ∃ event ∈ s.trackingEvents.rows,
    event.tenantId = tenantId ∧ event.shipmentId = shipmentId ∧
      event.idempotencyKey = some key

instance (s : Store) (tenantId shipmentId : Id) (key : String) :
    Decidable (KeyTaken s tenantId shipmentId key) := by
  unfold KeyTaken
  infer_instance

/-- The transaction does not fail by itself and the key of its event is free. -/
def Accepts (s : Store) (input : Input) (tenantId shipmentId : Id)
    (data : CreateTrackingEventDto) : Prop :=
  input.fault = false ∧ ∀ key, data.storedKey = some key → ¬KeyTaken s tenantId shipmentId key

instance (s : Store) (input : Input) (tenantId shipmentId : Id)
    (data : CreateTrackingEventDto) : Decidable (Accepts s input tenantId shipmentId data) :=
  match h : data.storedKey with
  | none => decidable_of_iff (input.fault = false) (by simp [Accepts, h])
  | some key =>
      decidable_of_iff (input.fault = false ∧ ¬KeyTaken s tenantId shipmentId key)
        (by simp [Accepts, h])

theorem tryInsert_trackingEventRow_iff (s : Store) (input : Input)
    (tenantId actorId shipmentId : Id) (data : CreateTrackingEventDto) :
    (∃ events, s.trackingEvents.tryInsert
        (trackingEventRow input tenantId actorId shipmentId data) = some events) ↔
      ∀ key, data.storedKey = some key → ¬KeyTaken s tenantId shipmentId key := by
  rw [Table.tryInsert_isSome_iff]
  cases hkey : data.storedKey with
  | none => simp [TrackingEvent.keys, trackingEventRow, hkey]
  | some key =>
      have hkeys : ∀ event : TrackingEvent,
          (tenantId, shipmentId, key) ∈ event.keys ↔
            event.tenantId = tenantId ∧ event.shipmentId = shipmentId ∧
              event.idempotencyKey = some key := by
        intro event
        cases hevent : event.idempotencyKey with
        | none => simp [TrackingEvent.keys, hevent]
        | some key' =>
            simp only [TrackingEvent.keys, hevent, List.mem_singleton, Prod.mk.injEq,
              Option.some.injEq]
            tauto
      have hrow : (trackingEventRow input tenantId actorId shipmentId data).keys =
          [(tenantId, shipmentId, key)] := by
        simp [TrackingEvent.keys, trackingEventRow, hkey]
      rw [hrow]
      simp [hkeys, KeyTaken]

/-- What recording an event makes of a shipment. -/
def afterEvent (input : Input) (shipmentId : Id) (data : CreateTrackingEventDto)
    (current row : Shipment) : Shipment :=
  match data.status with
  | some status => if row.id == shipmentId then writeStatus input status current row else row
  | none => row

@[simp] theorem afterEvent_id (input : Input) (shipmentId : Id)
    (data : CreateTrackingEventDto) (current row : Shipment) :
    (afterEvent input shipmentId data current row).id = row.id := by
  unfold afterEvent
  split
  · split <;> rfl
  · rfl

@[simp] theorem afterEvent_tenantId (input : Input) (shipmentId : Id)
    (data : CreateTrackingEventDto) (current row : Shipment) :
    (afterEvent input shipmentId data current row).tenantId = row.tenantId := by
  unfold afterEvent
  split
  · split <;> rfl
  · rfl

/-- The status a shipment has after the event. -/
theorem afterEvent_status (input : Input) (shipmentId : Id)
    (data : CreateTrackingEventDto) (current row : Shipment) :
    (afterEvent input shipmentId data current row).status =
      if row.id = shipmentId then data.status.getD row.status else row.status := by
  unfold afterEvent
  cases data.status with
  | none => simp
  | some status => by_cases h : row.id = shipmentId <;> simp [h, writeStatus]

/-- The transaction of a call commits, leaving the store `s'`. -/
structure Commits (s : Store) (input : Input) (tenantId actorId shipmentId : Id)
    (data : CreateTrackingEventDto) (current : Shipment) (s' : Store) : Prop where
  accepts : Accepts s input tenantId shipmentId data
  trackingEvents : s'.trackingEvents.rows =
    s.trackingEvents.rows ++ [trackingEventRow input tenantId actorId shipmentId data]
  shipments : s'.shipments.rows =
    s.shipments.rows.map (afterEvent input shipmentId data current)

def SameTracking (s s' : Store) : Prop :=
  s'.shipments = s.shipments ∧ s'.trackingEvents = s.trackingEvents

/-- The transaction commits, or it fails and leaves the store as it was: for a
taken key, or for a shipment that is not there. -/
theorem recordEvent_cases (s : Store) (input : Input) (tenantId actorId shipmentId : Id)
    (data : CreateTrackingEventDto) (current : Shipment) (hfault : input.fault = false) :
    ((recordEvent s input tenantId actorId shipmentId data current) =
        (.error .uniqueViolation, s) ∧
      ∃ key, data.storedKey = some key ∧ KeyTaken s tenantId shipmentId key) ∨
    (recordEvent s input tenantId actorId shipmentId data current) =
      (.error .recordNotFound, s) ∨
    ∃ result s', recordEvent s input tenantId actorId shipmentId data current =
      (.ok result, s') ∧ Commits s input tenantId actorId shipmentId data current s' := by
  cases hinsert : s.trackingEvents.tryInsert
      (trackingEventRow input tenantId actorId shipmentId data) with
  | none =>
      left
      refine ⟨by simp [recordEvent, hinsert], ?_⟩
      by_contra hfree
      push Not at hfree
      obtain ⟨events, hevents⟩ :=
        (tryInsert_trackingEventRow_iff s input tenantId actorId shipmentId data).mpr hfree
      rw [hinsert] at hevents
      cases hevents
  | some events =>
      have haccepts : Accepts s input tenantId shipmentId data :=
        ⟨hfault, (tryInsert_trackingEventRow_iff s input tenantId actorId shipmentId data).mp
          ⟨events, hinsert⟩⟩
      have hrows := Table.tryInsert_rows hinsert
      right
      cases hstatus : data.status with
      | none =>
          right
          refine ⟨_, _, by simp only [recordEvent, hinsert, hstatus]; rfl, haccepts, hrows, ?_⟩
          have hrow : afterEvent input shipmentId data current = id := by
            funext row
            simp only [afterEvent, hstatus, id]
          rw [hrow, List.map_id]
      | some status =>
          cases hfind : s.shipments.rows.find? (fun row => row.id == shipmentId) with
          | none => exact .inl (by simp [recordEvent, hinsert, hstatus, hfind])
          | some row =>
              right
              refine ⟨_, _, by simp only [recordEvent, hinsert, hstatus, hfind]; rfl,
                haccepts, hrows, ?_⟩
              simp only [Table.modify_rows]
              congr 1
              funext row
              simp only [afterEvent, hstatus]

/-- A call leaves both tables as they were and, if it was a transaction, failed;
or it is a transaction that commits. -/
theorem execute_cases (cmd : Command) (input : Input) (s : Store) :
    (SameTracking s (execute cmd input s).2 ∧
      ∀ tenantId actorId shipmentId data current,
        cmd = .recordEvent tenantId actorId shipmentId data current →
        ∃ error, (execute cmd input s).1 = .error error) ∨
    ∃ tenantId actorId shipmentId data current,
      cmd = .recordEvent tenantId actorId shipmentId data current ∧
      (∃ result, (execute cmd input s).1 = .ok result) ∧
      Commits s input tenantId actorId shipmentId data current (execute cmd input s).2 := by
  cases cmd with
  | recordEvent tenantId actorId shipmentId data current =>
      by_cases hfault : input.fault = true
      · left
        refine ⟨by simp [execute, hfault, SameTracking], fun _ _ _ _ _ _ => ⟨.fault, ?_⟩⟩
        simp [execute, hfault]
      · rw [Bool.not_eq_true] at hfault
        simp only [execute, hfault, Bool.false_eq_true, if_false]
        obtain ⟨h, -⟩ | h | ⟨result, s', h, hcommits⟩ :=
          recordEvent_cases s input tenantId actorId shipmentId data current hfault
        · exact .inl ⟨by simp [h, SameTracking], fun _ _ _ _ _ _ => ⟨_, by rw [h]⟩⟩
        · exact .inl ⟨by simp [h, SameTracking], fun _ _ _ _ _ _ => ⟨_, by rw [h]⟩⟩
        · exact .inr ⟨tenantId, actorId, shipmentId, data, current, rfl, ⟨result, by rw [h]⟩,
            by rw [h]; exact hcommits⟩
  | now => exact .inl ⟨⟨rfl, rfl⟩, by simp⟩
  | _ =>
      left
      refine ⟨?_, by simp⟩
      by_cases hfault : input.fault = true <;> simp [execute, hfault, SameTracking]

theorem sameTracking_execute {cmd : Command}
    (hcmd : ∀ tenantId actorId shipmentId data current,
      cmd ≠ .recordEvent tenantId actorId shipmentId data current)
    (input : Input) (s : Store) : SameTracking s (execute cmd input s).2 := by
  obtain ⟨hsame, -⟩ | ⟨tenantId, actorId, shipmentId, data, current, rfl, -⟩ :=
    execute_cases cmd input s
  · exact hsame
  · exact absurd rfl (hcmd tenantId actorId shipmentId data current)

theorem eq_fault_of_execute {cmd : Command}
    (hcmd : ∀ tenantId actorId shipmentId data current,
      cmd ≠ .recordEvent tenantId actorId shipmentId data current)
    {input : Input} {s : Store} {error : ServiceError}
    (h : (execute cmd input s).1 = .error error) : error = .fault := by
  by_cases hfault : input.fault = true
  · cases cmd <;> simp_all [execute]
  · cases cmd with
    | recordEvent tenantId actorId shipmentId data current => exact absurd rfl (hcmd _ _ _ _ _)
    | _ => simp [execute, hfault] at h

theorem mem_of_findShipment {s : Store} {id tenantId : Id} {input : Input} {row : Shipment}
    (h : (execute (.findShipment id tenantId) input s).1 = .ok (some row)) :
    row ∈ s.shipments.rows ∧ row.id = id ∧ row.tenantId = tenantId := by
  by_cases hfault : input.fault = true
  · simp [execute, hfault] at h
  · simp only [execute, hfault, if_false, Bool.false_eq_true, Except.ok.injEq] at h
    have hrow := List.find?_some h
    simp only [Bool.and_eq_true, beq_iff_eq] at hrow
    exact ⟨List.mem_of_find?_eq_some h, hrow⟩

theorem execute_findShipment_store (id tenantId : Id) (input : Input) (s : Store) :
    (execute (.findShipment id tenantId) input s).2 = s := by
  by_cases hfault : input.fault = true <;> simp [execute, hfault]

/-! ## What calls never undo -/

theorem keyTaken_execute {s : Store} {tenantId shipmentId : Id} {key : String}
    (h : KeyTaken s tenantId shipmentId key) (cmd : Command) (input : Input) :
    KeyTaken (execute cmd input s).2 tenantId shipmentId key := by
  obtain ⟨event, hevent, hkey⟩ := h
  obtain ⟨⟨-, hsame⟩, -⟩ | ⟨_, _, _, _, _, -, -, hcommits⟩ := execute_cases cmd input s
  · exact ⟨event, by rw [hsame]; exact hevent, hkey⟩
  · exact ⟨event, by rw [hcommits.trackingEvents]; exact List.mem_append_left _ hevent, hkey⟩

/-- Each row of the table after a call comes from one with its identity. -/
theorem shipments_execute (cmd : Command) (input : Input) (s : Store) :
    ∃ f : Shipment → Shipment, (∀ row, (f row).id = row.id ∧ (f row).tenantId = row.tenantId) ∧
      (execute cmd input s).2.shipments.rows = s.shipments.rows.map f := by
  obtain ⟨⟨hsame, -⟩, -⟩ | ⟨_, _, _, _, _, -, -, hcommits⟩ := execute_cases cmd input s
  · exact ⟨id, fun _ => ⟨rfl, rfl⟩, by rw [hsame, List.map_id]⟩
  · exact ⟨_, fun row => ⟨afterEvent_id .., afterEvent_tenantId ..⟩, hcommits.shipments⟩

theorem exists_shipment_execute {s : Store} {row : Shipment} (h : row ∈ s.shipments.rows)
    (cmd : Command) (input : Input) :
    ∃ row' ∈ (execute cmd input s).2.shipments.rows,
      row'.id = row.id ∧ row'.tenantId = row.tenantId := by
  obtain ⟨f, hf, hrows⟩ := shipments_execute cmd input s
  exact ⟨f row, by rw [hrows]; exact List.mem_map_of_mem h, hf row⟩

theorem shipment_eq_of_id {s : Store} {a b : Shipment} (ha : a ∈ s.shipments.rows)
    (hb : b ∈ s.shipments.rows) (hid : a.id = b.id) : a = b := by
  apply s.shipments.eq_of_key ha hb (k := .id a.id)
  · simp [Shipment.keys]
  · simp [Shipment.keys, hid]

/-! ## One shipment

The store on which the runs of the following modules start. -/

def createdShipment : Shipment where
  id := "shipment"
  tenantId := "tenant"
  simulationId := "simulation"
  selectedOptionId := "option"
  customerId := none
  branchId := none
  carrierId := "carrier"
  carrierServiceId := "service"
  createdById := none
  trackingCode := "LOG-1"
  externalReference := none
  realWeightKg := .store 3 1
  chargeableWeightKg := .store 3 1
  cargoValue := none
  freightValue := .store 2 10
  estimatedDeliveryAt := 100
  deliveredAt := none
  status := .created
  createdAt := 0

def oneShipment : Store :=
  { Store.empty with shipments := ⟨[createdShipment], by decide⟩ }

def tick (now : Time) (id : Id) : Input := ⟨now, fun _ => id, false, fun _ => 0⟩

end Logistics.Tracking
