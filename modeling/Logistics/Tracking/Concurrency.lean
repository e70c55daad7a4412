import Logistics.Tracking.Execution

/-!
# Tracking under concurrency

Any number of tracking requests run at once. A call checks the transition
against the row it read and writes the status later, so what is known of the
write is what the call's own reads said: `handle_obeys` collects it for one
program under arbitrary answers, and `Known` is what those answers say about the
store. The status machine is kept as long as no transaction commits on a status
that has changed since it was read.
-/

namespace Logistics.Tracking

open Logistics.Library

abbrev TrackingConfig : Type := Config trackingInterface Request TrackingEventView Store

abbrev TrackingAction : Type := Action Request Input

def Request.tenantId : Request → Id
  | .createTrackingEvent tenantId .. => tenantId
  | .updateShipmentStatus tenantId .. => tenantId

def Request.shipmentId : Request → Id
  | .createTrackingEvent _ _ shipmentId _ => shipmentId
  | .updateShipmentStatus _ _ id _ => id

/-- The key the event of the request is stored under. -/
def Request.storedKey : Request → Option String
  | .createTrackingEvent _ _ _ input => input.storedKey
  | .updateShipmentStatus .. => none

def duplicateMessage : String := "Evento duplicado para esta operação."

/-- A transaction of the request is on its shipment and under its key. -/
def Command.IsFor (r : Request) : Command → Prop
  | .recordEvent tenantId _ shipmentId data _ =>
      tenantId = r.tenantId ∧ shipmentId = r.shipmentId ∧ data.storedKey = r.storedKey
  | _ => True

/-- What is known when a call is made: a transaction is for its request, on a row
the same call has read, and the status it writes may follow the status of that
row. -/
def Checked (r : Request) (h : List (Event trackingInterface)) : Command → Prop
  | .recordEvent tenantId actorId shipmentId data current =>
      (Command.recordEvent tenantId actorId shipmentId data current).IsFor r ∧
      (⟨.findShipment shipmentId tenantId, .ok (some current)⟩ : Event trackingInterface) ∈ h ∧
      ∀ status, data.status = some status → isValidTransition current.status status = true
  | _ => True

/-- A request refused as a duplicate was answered with a unique violation. -/
def Refused (r : Request) (h : List (Event trackingInterface))
    (outcome : Except ServiceError TrackingEventView) : Prop :=
  outcome = .error (.badRequest duplicateMessage) →
    ∃ cmd : Command, ∃ error : ServiceError, cmd.IsFor r ∧
      (⟨cmd, .error error⟩ : Event trackingInterface) ∈ h ∧
      (error = .uniqueViolation ∨ error = .badRequest duplicateMessage)

/-- A call that fails refuses the request only with the error it raised. -/
theorem refused_of_failed {r : Request} {cmd : Command} (hcmd : cmd.IsFor r)
    (error : ServiceError) (h : List (Event trackingInterface)) :
    Refused r (h ++ [⟨cmd, .error error⟩]) (.error error) := by
  intro herror
  refine ⟨cmd, error, hcmd, by simp, .inr ?_⟩
  injection herror

theorem refused_of_message {r : Request} {h : List (Event trackingInterface)}
    {error : ServiceError} (hne : error ≠ .badRequest duplicateMessage) :
    Refused r h (.error error) := by
  intro herror
  injection herror with herror
  exact absurd herror hne

/-- The errors that leave the guarded part of `createTrackingEvent`. -/
def Raised (r : Request) (h : List (Event trackingInterface))
    (outcome : Except ServiceError TrackingEventView) : Prop :=
  ∀ error, outcome = .error error →
    ∃ cmd : Command, cmd.IsFor r ∧ (⟨cmd, .error error⟩ : Event trackingInterface) ∈ h

theorem raised_of_failed {r : Request} {cmd : Command} (hcmd : cmd.IsFor r)
    (error : ServiceError) (h : List (Event trackingInterface)) :
    Raised r (h ++ [⟨cmd, .error error⟩]) (.error error) := by
  intro error' herror
  injection herror with herror
  subst herror
  exact ⟨cmd, hcmd, by simp⟩

theorem createTrackingEvent_obeys (r : Request) (tenantId actorId shipmentId : Id)
    (input : CreateTrackingEventDto) (h : List (Event trackingInterface))
    (hr : tenantId = r.tenantId ∧ shipmentId = r.shipmentId ∧ input.storedKey = r.storedKey) :
    (createTrackingEvent tenantId actorId shipmentId input).Obeys (Checked r) (Refused r) h := by
  unfold createTrackingEvent
  refine Program.Obeys.perform_bind trivial (fun found => ?_)
    (fun error => refused_of_failed (by trivial) error h)
  cases found with
  | none => exact refused_of_message (by simp)
  | some current =>
      refine Program.Obeys.throwIf_bind (fun _ => refused_of_message (by simp [duplicateMessage]))
        fun hvalid => ?_
      have hchecked : Checked r (h ++ [⟨.findShipment shipmentId tenantId, .ok (some current)⟩])
          (.recordEvent tenantId actorId shipmentId input current) := by
        refine ⟨hr, by simp, fun status hstatus => ?_⟩
        simpa [hstatus] using hvalid
      refine Program.Obeys.tryCatch (Q := Raised r) ?_ (fun _ _ _ herror => by cases herror) ?_
      · refine Program.Obeys.perform_bind hchecked (fun result => ?_)
          (fun error => raised_of_failed (by exact hr) error _)
        refine Program.Obeys.perform_bind trivial (fun _ => ?_)
          (fun error => raised_of_failed (by trivial) error _)
        refine Program.Obeys.perform_bind trivial (fun _ => ?_)
          (fun error => raised_of_failed (by trivial) error _)
        exact fun error herror => by cases herror
      · intro h' error hraised
        obtain ⟨cmd, hcmd, hmem⟩ := hraised error rfl
        refine Program.Obeys.throwIf_bind (fun hunique _ => ⟨cmd, error, hcmd, hmem, .inl hunique⟩)
          fun _ herror => ⟨cmd, error, hcmd, hmem, .inr ?_⟩
        injection herror

theorem handle_obeys (r : Request) : (handle r).Obeys (Checked r) (Refused r) [] := by
  cases r with
  | createTrackingEvent tenantId actorId shipmentId input =>
      exact createTrackingEvent_obeys _ tenantId actorId shipmentId input [] ⟨rfl, rfl, rfl⟩
  | updateShipmentStatus tenantId actorId id status =>
      simp only [handle, updateShipmentStatus]
      refine Program.Obeys.perform_bind trivial (fun found => ?_)
        (fun error => refused_of_failed (by trivial) error [])
      cases found with
      | none => exact refused_of_message (by simp)
      | some current =>
          refine Program.Obeys.perform_bind trivial (fun now => ?_)
            (fun error => refused_of_failed (by trivial) error _)
          exact createTrackingEvent_obeys _ tenantId actorId id _ _ ⟨rfl, rfl, rfl⟩

/-! ## The status machine -/

/-- The action moves the status of each shipment along a valid transition, if at
all. -/
def FollowsTransitions (c : TrackingConfig) (a : TrackingAction) : Prop :=
  ∀ before ∈ c.store.shipments.rows, ∀ after ∈ (trackingSystem.next c a).store.shipments.rows,
    after.id = before.id → isValidTransition before.status after.status = true

instance (c : TrackingConfig) (a : TrackingAction) : Decidable (FollowsTransitions c a) := by
  unfold FollowsTransitions
  infer_instance

/-- An accepted transaction with a status finds the shipment in the status that
its call has read. -/
def OnStatusRead (s : Store) : trackingInterface.Command → Input → Prop
  | .recordEvent tenantId _ shipmentId data current, input =>
      Accepts s input tenantId shipmentId data → data.status.isSome = true →
        ∀ row ∈ s.shipments.rows, row.id = shipmentId → row.status = current.status
  | _, _ => True

instance (s : Store) (cmd : Command) (input : Input) : Decidable (OnStatusRead s cmd input) := by
  unfold OnStatusRead
  split <;> infer_instance

theorem execute_followsTransitions {r : Request} {h : List (Event trackingInterface)}
    {cmd : Command} {input : Input} {s : Store} (hchecked : Checked r h cmd)
    (hread : OnStatusRead s cmd input) :
    ∀ before ∈ s.shipments.rows, ∀ after ∈ (execute cmd input s).2.shipments.rows,
      after.id = before.id → isValidTransition before.status after.status = true := by
  intro before hbefore after hafter hid
  obtain ⟨⟨hsame, -⟩, -⟩ | ⟨tenantId, actorId, shipmentId, data, current, rfl, -, hcommits⟩ :=
    execute_cases cmd input s
  · rw [hsame] at hafter
    rw [shipment_eq_of_id hafter hbefore hid]
    exact isValidTransition_self _
  · rw [hcommits.shipments, List.mem_map] at hafter
    obtain ⟨row, hrow, rfl⟩ := hafter
    rw [afterEvent_id] at hid
    obtain rfl := shipment_eq_of_id hrow hbefore hid
    rw [afterEvent_status]
    by_cases hshipment : row.id = shipmentId
    · rw [if_pos hshipment]
      cases hstatus : data.status with
      | none => exact isValidTransition_self _
      | some status =>
          have hcurrent := hread hcommits.accepts (by simp [hstatus]) row hrow hshipment
          rw [hcurrent]
          exact hchecked.2.2 status hstatus
    · rw [if_neg hshipment]
      exact isValidTransition_self _

theorem next_followsTransitions {c : TrackingConfig} {a : TrackingAction}
    (hc : c.Obeying Checked Refused) (hread : CallCondition OnStatusRead c a) :
    FollowsTransitions c a := by
  have hstay : ∀ before ∈ c.store.shipments.rows, ∀ after ∈ c.store.shipments.rows,
      after.id = before.id → isValidTransition before.status after.status = true := by
    intro before hbefore after hafter hid
    rw [shipment_eq_of_id hafter hbefore hid]
    exact isValidTransition_self _
  unfold FollowsTransitions
  obtain ⟨r, rfl, hn⟩ | ⟨i, input, r, h, cmd, k, rfl, hi, hcall, hn⟩ | ⟨hn, -⟩ :=
    trackingSystem.next_cases c a
  · rw [hn]
    exact hstay
  · rw [hn]
    rw [CallCondition, hcall] at hread
    exact execute_followsTransitions (Config.obeying_call hc hi) hread
  · rw [hn]
    exact hstay

theorem exists_shipment_next {c : TrackingConfig} {row : Shipment}
    (h : row ∈ c.store.shipments.rows) (a : TrackingAction) :
    ∃ row' ∈ (trackingSystem.next c a).store.shipments.rows,
      row'.id = row.id ∧ row'.tenantId = row.tenantId := by
  obtain ⟨r, rfl, hn⟩ | ⟨i, input, r, _, cmd, k, rfl, -, -, hn⟩ | ⟨hn, -⟩ :=
    trackingSystem.next_cases c a
  · exact ⟨row, by rw [hn]; exact h, rfl, rfl⟩
  · rw [hn]
    exact exists_shipment_execute h cmd input
  · exact ⟨row, by rw [hn]; exact h, rfl, rfl⟩

theorem status_eq_of_isTerminal (acts : List TrackingAction) (c : TrackingConfig)
    (hfollows : trackingSystem.AlongActions FollowsTransitions c acts)
    {before : Shipment} (hbefore : before ∈ c.store.shipments.rows)
    (hterminal : isTerminal before.status = true) {after : Shipment}
    (hafter : after ∈ (trackingSystem.runActions c acts).store.shipments.rows)
    (hid : after.id = before.id) : after.status = before.status := by
  induction acts generalizing c before with
  | nil => rw [shipment_eq_of_id hafter hbefore hid]
  | cons a rest ih =>
      obtain ⟨row, hrow, hrowId, -⟩ := exists_shipment_next hbefore a
      have hstatus : row.status = before.status :=
        eq_of_isValidTransition_of_isTerminal hterminal
          (hfollows.1 before hbefore row hrow hrowId)
      rw [← hstatus]
      exact ih _ hfollows.2 hrow (by rw [hstatus]; exact hterminal) hafter
        (by rw [hid, hrowId])

/-- Whatever the interleaving, when every accepted transaction with a status finds
the status its call has read, each write follows a listed transition and a
terminal status never changes again. -/
theorem statusWrites_follow_transitions (s : Store) (acts : List TrackingAction)
    (hread : trackingSystem.AlongActions (CallCondition OnStatusRead) (Config.initial s) acts) :
    trackingSystem.AlongActions FollowsTransitions (Config.initial s) acts ∧
      ∀ pre post, acts = pre ++ post →
        ∀ before ∈ (trackingSystem.runActions (Config.initial s) pre).store.shipments.rows,
          isTerminal before.status = true →
          ∀ after ∈ (trackingSystem.runActions (Config.initial s) acts).store.shipments.rows,
            after.id = before.id → after.status = before.status := by
  have hfollows : trackingSystem.AlongActions FollowsTransitions (Config.initial s) acts :=
    trackingSystem.along_of_invariant
      (fun c a hc _ => trackingSystem.obeying_next handle_obeys c a hc)
      (fun _ _ hc hcall => next_followsTransitions hc hcall)
      acts _ (Config.obeying_initial Checked Refused s) hread
  refine ⟨hfollows, ?_⟩
  intro pre post hacts before hbefore hterminal after hafter hid
  rw [hacts, trackingSystem.alongActions_append] at hfollows
  rw [hacts, trackingSystem.runActions_append] at hafter
  exact status_eq_of_isTerminal post _ hfollows.2 hbefore hterminal hafter hid

/-- One caller cancels the shipment; the other schedules its pickup on the row
read before the cancellation. -/
def staleRun : List TrackingAction :=
  [.start (.updateShipmentStatus "tenant" "ana" "shipment" .canceled),
    .start (.updateShipmentStatus "tenant" "bia" "shipment" .pickupScheduled),
    .step 0 (tick 1 ""), .step 0 (tick 1 ""), .step 0 (tick 1 ""),
    .step 1 (tick 1 ""), .step 1 (tick 1 ""), .step 1 (tick 1 ""),
    .step 0 (tick 2 "e1"), .step 1 (tick 3 "e2")]

/-- The same two requests, the second starting after the first has committed. -/
def freshRun : List TrackingAction :=
  [.start (.updateShipmentStatus "tenant" "ana" "shipment" .pickupScheduled),
    .start (.updateShipmentStatus "tenant" "bia" "shipment" .canceled),
    .step 0 (tick 1 ""), .step 0 (tick 1 ""), .step 0 (tick 1 ""), .step 0 (tick 2 "e1"),
    .step 1 (tick 2 ""), .step 1 (tick 2 ""), .step 1 (tick 2 ""), .step 1 (tick 3 "e2")]

theorem statusWrites_follow_transitions_freshRun :
    trackingSystem.AlongActions FollowsTransitions (Config.initial oneShipment) freshRun :=
  (statusWrites_follow_transitions oneShipment freshRun (by decide)).1

/-- On a stale row a canceled shipment is moved to `PICKUP_SCHEDULED`. -/
theorem staleRun_breaks_transitions :
    (∀ row ∈ oneShipment.shipments.rows, row.status = .created) ∧
      ¬trackingSystem.AlongActions FollowsTransitions (Config.initial oneShipment) staleRun := by
  decide

end Logistics.Tracking
