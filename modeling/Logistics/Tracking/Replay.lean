import Logistics.Tracking.Execution

/-!
# Tracking calls one after the other

When each call runs to its end before the next, the row a call reads is the row
its transaction finds. `handle_wp` says this once for every property of the two
tables; with it the stored events, replayed in insertion order, lead from
`CREATED` to the stored status.
-/

namespace Logistics.Tracking

open Logistics.Library

/-- What a call that commits after running alone does: it commits on a row that
is stored, with a status that may follow the stored one. -/
structure CommitsAlone (s : Store) (input : Input) (tenantId actorId shipmentId : Id)
    (data : CreateTrackingEventDto) (current : Shipment) (s' : Store) : Prop where
  stored : current ∈ s.shipments.rows
  id_eq : current.id = shipmentId
  valid : ∀ status, data.status = some status → isValidTransition current.status status = true
  commits : Commits s input tenantId actorId shipmentId data current s'

section Sequential

variable {A : Store → trackingInterface.Command → Input → Prop} {J : Store → Prop}

theorem createTrackingEvent_wp
    (hsame : ∀ s s', SameTracking s s' → J s → J s')
    (hcommit : ∀ s s' input tenantId actorId shipmentId data current, J s →
      A s (.recordEvent tenantId actorId shipmentId data current) input →
      CommitsAlone s input tenantId actorId shipmentId data current s' → J s')
    (tenantId actorId shipmentId : Id) (input : CreateTrackingEventDto) (s : Store) (hs : J s) :
    (createTrackingEvent tenantId actorId shipmentId input).wp execute A (fun _ _ _ => True)
      (fun _ s' => J s') s := by
  have hcall : ∀ (cmd : Command) (i : Input) (s : Store),
      (∀ tenantId actorId shipmentId data current,
        cmd ≠ .recordEvent tenantId actorId shipmentId data current) →
      J s → J (execute cmd i s).2 :=
    fun cmd i s hcmd h => hsame _ _ (sameTracking_execute hcmd i s) h
  unfold createTrackingEvent
  refine Program.wp_perform_bind fun i _ => ⟨trivial, fun found hfound => ?_, fun _ _ => ?_⟩
  · rw [execute_findShipment_store]
    cases found with
    | none => exact hs
    | some current =>
        obtain ⟨hstored, hid, -⟩ := mem_of_findShipment hfound
        refine Program.wp_throwIf_bind (fun _ => hs) fun hvalid => ?_
        refine Program.wp_tryCatch (Q := fun _ s' => J s') ?_ (fun _ _ h => h) ?_
        · refine Program.wp_perform_bind fun i hA => ?_
          have hrecorded : J (execute
              (.recordEvent tenantId actorId shipmentId input current) i s).2 := by
            obtain ⟨hunchanged, -⟩ | ⟨_, _, _, _, _, hcmd, -, hcommits⟩ := execute_cases
              (.recordEvent tenantId actorId shipmentId input current) i s
            · exact hsame _ _ hunchanged hs
            · cases hcmd
              refine hcommit _ _ _ _ _ _ _ _ hs hA
                ⟨hstored, hid, fun status hstatus => ?_, hcommits⟩
              simpa [hstatus] using hvalid
          refine ⟨trivial, fun result _ => ?_, fun _ _ => hrecorded⟩
          refine Program.wp_perform_bind fun i _ => ?_
          refine ⟨trivial, fun _ _ => ?_, fun _ _ => hcall _ _ _ (by simp) hrecorded⟩
          refine Program.wp_perform_bind fun i' _ => ⟨trivial, fun _ _ => ?_, fun _ _ => ?_⟩
          · exact hcall _ i' _ (by simp) (hcall _ i _ (by simp) hrecorded)
          · exact hcall _ i' _ (by simp) (hcall _ i _ (by simp) hrecorded)
        · exact fun error s' h => Program.wp_throwIf_bind (fun _ => h) fun _ => h
  · rw [execute_findShipment_store]
    exact hs

/-- A property of the two tables that every commit of a call running alone keeps
is kept by every request. -/
theorem handle_wp
    (hsame : ∀ s s', SameTracking s s' → J s → J s')
    (hcommit : ∀ s s' input tenantId actorId shipmentId data current, J s →
      A s (.recordEvent tenantId actorId shipmentId data current) input →
      CommitsAlone s input tenantId actorId shipmentId data current s' → J s')
    (r : Request) (s : Store) (hs : J s) :
    (handle r).wp execute A (fun _ _ _ => True) (fun _ s' => J s') s := by
  cases r with
  | createTrackingEvent tenantId actorId shipmentId input =>
      exact createTrackingEvent_wp hsame hcommit tenantId actorId shipmentId input s hs
  | updateShipmentStatus tenantId actorId id status =>
      simp only [handle, updateShipmentStatus]
      refine Program.wp_perform_bind fun i _ => ?_
      rw [execute_findShipment_store]
      refine ⟨trivial, fun found _ => ?_, fun _ _ => hs⟩
      cases found with
      | none => exact hs
      | some current =>
          refine Program.wp_perform_bind fun i _ => ⟨trivial, fun now _ => ?_, fun _ _ => hs⟩
          exact createTrackingEvent_wp hsame hcommit tenantId actorId id _ s hs

end Sequential

/-! ## The stored events lead to the stored status -/

/-- The statuses of the events stored for a shipment, in insertion order. -/
def recordedStatuses (s : Store) (shipmentId : Id) : List ShipmentStatus :=
  s.trackingEvents.rows.filterMap fun event =>
    if event.shipmentId = shipmentId then event.status else none

/-- Replaying the recorded statuses of a shipment from `CREATED` ends at its
status. -/
def Replays (s : Store) : Prop :=
  ∀ shipment ∈ s.shipments.rows,
    replay .created (recordedStatuses s shipment.id) = some shipment.status

/-- Shipments as their creation leaves them. -/
def Untracked (s : Store) : Prop :=
  (∀ shipment ∈ s.shipments.rows, shipment.status = .created) ∧ s.trackingEvents.rows = []

theorem replays_of_untracked {s : Store} (hs : Untracked s) : Replays s := by
  intro shipment hshipment
  rw [recordedStatuses, hs.2, hs.1 shipment hshipment]
  rfl

theorem recordedStatuses_of_sameTracking {s s' : Store} (h : SameTracking s s')
    (shipmentId : Id) : recordedStatuses s' shipmentId = recordedStatuses s shipmentId := by
  rw [recordedStatuses, recordedStatuses, h.2]

theorem recordedStatuses_of_commits {s s' : Store} {input : Input}
    {tenantId actorId shipmentId : Id} {data : CreateTrackingEventDto} {current : Shipment}
    (h : Commits s input tenantId actorId shipmentId data current s') (id : Id) :
    recordedStatuses s' id =
      recordedStatuses s id ++ if shipmentId = id then data.status.toList else [] := by
  rw [recordedStatuses, recordedStatuses, h.trackingEvents, List.filterMap_append]
  congr 1
  by_cases hid : shipmentId = id
  · cases hstatus : data.status <;> simp [trackingEventRow, hid, hstatus]
  · simp [trackingEventRow, hid]

theorem replays_of_sameTracking {s s' : Store} (h : SameTracking s s') (hs : Replays s) :
    Replays s' := by
  intro shipment hshipment
  rw [h.1] at hshipment
  rw [recordedStatuses_of_sameTracking h]
  exact hs shipment hshipment

theorem replays_of_commits {s s' : Store} {input : Input}
    {tenantId actorId shipmentId : Id} {data : CreateTrackingEventDto} {current : Shipment}
    (h : CommitsAlone s input tenantId actorId shipmentId data current s') (hs : Replays s) :
    Replays s' := by
  intro after hafter
  rw [h.commits.shipments, List.mem_map] at hafter
  obtain ⟨row, hrow, rfl⟩ := hafter
  have hreplay := hs row hrow
  rw [recordedStatuses_of_commits h.commits, afterEvent_id, afterEvent_status]
  by_cases hid : row.id = shipmentId
  · rw [if_pos hid.symm, if_pos hid]
    cases hstatus : data.status with
    | none => simpa using hreplay
    | some status =>
        have hcurrent : current = row := shipment_eq_of_id h.stored hrow (by rw [h.id_eq, hid])
        have hvalid := h.valid status hstatus
        rw [hcurrent] at hvalid
        exact replay_concat hreplay hvalid
  · rw [if_neg (Ne.symm hid), if_neg hid, List.append_nil]
    exact hreplay

/-! ## Rejected calls -/

/-- The call is not a transaction, or the transaction fails. -/
def Aborts (s : Store) : trackingInterface.Command → Input → Prop
  | .recordEvent tenantId actorId shipmentId data current, input =>
      (execute (.recordEvent tenantId actorId shipmentId data current) input s).1.isOk = false
  | _, _ => True

instance (s : Store) (cmd : Command) (input : Input) : Decidable (Aborts s cmd input) := by
  apply @Command.casesOn (fun cmd => Decidable (Aborts s cmd input)) cmd <;>
    intros <;> dsimp only [Aborts] <;> infer_instance

theorem sameTracking_of_aborts {cmd : Command} {input : Input} {s : Store}
    (h : Aborts s cmd input) : SameTracking s (execute cmd input s).2 := by
  obtain ⟨hsame, -⟩ | ⟨_, _, _, _, _, rfl, ⟨result, hok⟩, -⟩ := execute_cases cmd input s
  · exact hsame
  · rw [Aborts, hok] at h
    cases h

/-- A request none of whose transactions succeeds leaves both tables as they
were. -/
theorem sameTracking_of_alongAborts (r : Request) (ω : ℕ → Input) (s : Store)
    (h : (handle r).Along execute Aborts ω s) :
    SameTracking s ((handle r).run execute ω s).2 := by
  have hwp : (handle r).wp execute Aborts (fun _ _ _ => True)
      (fun _ s' => SameTracking s s') s := by
    apply Program.wp_of_issues (handle r).issues_true
    · intro cmd _ input s' hs' haborts
      have hsame := sameTracking_of_aborts haborts
      exact ⟨trivial, hsame.1.trans hs'.1, hsame.2.trans hs'.2⟩
    · exact ⟨rfl, rfl⟩
  exact Program.wp_run hwp h

/-- The call was turned down: for an unknown shipment, a transition that is not
listed, or a duplicate key. -/
def TurnedDown (outcome : Except ServiceError TrackingEventView) : Prop :=
  ∃ message, outcome = .error (.badRequest message) ∨ outcome = .error (.notFound message)

theorem createTrackingEvent_turnedDown (tenantId actorId shipmentId : Id)
    (input : CreateTrackingEventDto) (s : Store) :
    (createTrackingEvent tenantId actorId shipmentId input).wp execute (fun _ _ _ => True)
      (fun _ _ _ => True) (fun outcome s' => TurnedDown outcome → SameTracking s s') s := by
  have hrefl : SameTracking s s := ⟨rfl, rfl⟩
  unfold createTrackingEvent
  refine Program.wp_perform_bind fun i _ => ?_
  rw [execute_findShipment_store]
  refine ⟨trivial, fun found _ => ?_, fun _ _ _ => hrefl⟩
  cases found with
  | none => exact fun _ => hrefl
  | some current =>
      refine Program.wp_throwIf_bind (fun _ _ => hrefl) fun _ => ?_
      -- an error of the guarded calls is a fault of their own or comes from an aborted transaction
      refine Program.wp_tryCatch
        (Q := fun outcome s' =>
          ∀ error, outcome = .error error → error = ServiceError.fault ∨ SameTracking s s')
        ?_ (fun _ _ _ ⟨_, h⟩ => by rcases h with h | h <;> cases h) ?_
      · refine Program.wp_perform_bind fun i _ => ⟨trivial, fun result _ => ?_, ?_⟩
        · refine Program.wp_perform_bind fun i _ => ⟨trivial, fun _ _ => ?_, ?_⟩
          · refine Program.wp_perform_bind fun i _ => ⟨trivial, fun _ _ => ?_, ?_⟩
            · exact fun error h => by cases h
            · intro error herror error' h
              cases h
              exact .inl (eq_fault_of_execute (by simp) herror)
          · intro error herror error' h
            cases h
            exact .inl (eq_fault_of_execute (by simp) herror)
        · intro error herror error' h
          right
          obtain ⟨hsame, -⟩ | ⟨_, _, _, _, _, -, ⟨result, hok⟩, -⟩ := execute_cases _ i s
          · exact hsame
          · rw [herror] at hok
            cases hok
      · intro error s' hraised
        obtain rfl | hsame := hraised error rfl
        · refine Program.wp_throwIf_bind (fun h => by cases h) fun _ ⟨_, h⟩ => ?_
          rcases h with h | h <;> cases h
        · exact Program.wp_throwIf_bind (fun _ _ => hsame) fun _ _ => hsame

theorem sameTracking_of_turnedDown (r : Request) (ω : ℕ → Input) (s : Store)
    (h : TurnedDown ((handle r).run execute ω s).1) :
    SameTracking s ((handle r).run execute ω s).2 := by
  have hwp : (handle r).wp execute (fun _ _ _ => True) (fun _ _ _ => True)
      (fun outcome s' => TurnedDown outcome → SameTracking s s') s := by
    have hrefl : SameTracking s s := ⟨rfl, rfl⟩
    cases r with
    | createTrackingEvent tenantId actorId shipmentId input =>
        exact createTrackingEvent_turnedDown tenantId actorId shipmentId input s
    | updateShipmentStatus tenantId actorId id status =>
        simp only [handle, updateShipmentStatus]
        refine Program.wp_perform_bind fun i _ => ?_
        rw [execute_findShipment_store]
        refine ⟨trivial, fun found _ => ?_, fun _ _ _ => hrefl⟩
        cases found with
        | none => exact fun _ => hrefl
        | some current =>
            refine Program.wp_perform_bind fun i _ => ⟨trivial, fun now _ => ?_, fun _ _ _ => hrefl⟩
            exact createTrackingEvent_turnedDown tenantId actorId id _ s
  exact Program.wp_run hwp (Program.along_true _ _ _) h

/-- After any requests run one after the other, the recorded statuses of each
shipment replay from `CREATED` to its status; and a request that is turned down,
or whose transaction aborts, leaves shipments and events as they were. -/
theorem replay_recordedStatuses (s : Store) (hs : Untracked s)
    (calls : List (Request × (ℕ → Input))) :
    (∀ shipment ∈ (trackingSystem.runCalls calls s).shipments.rows,
      replay .created
          (recordedStatuses (trackingSystem.runCalls calls s) shipment.id) =
        some shipment.status) ∧
      ∀ (r : Request) (ω : ℕ → Input),
        (TurnedDown ((handle r).run execute ω (trackingSystem.runCalls calls s)).1 ∨
          (handle r).Along execute Aborts ω (trackingSystem.runCalls calls s)) →
        SameTracking (trackingSystem.runCalls calls s)
          ((handle r).run execute ω (trackingSystem.runCalls calls s)).2 := by
  constructor
  · have hreplays : Replays (trackingSystem.runCalls calls s) :=
      trackingSystem.runCalls_invariant
        (handle_wp (A := fun _ _ _ => True) (fun _ _ => replays_of_sameTracking)
          fun _ _ _ _ _ _ _ _ h _ hc => replays_of_commits hc h)
        calls s (replays_of_untracked hs) (trackingSystem.alongCalls_true calls s)
    exact hreplays
  · rintro r ω (h | h)
    · exact sameTracking_of_turnedDown r ω _ h
    · exact sameTracking_of_alongAborts r ω _ h

/-- A pickup, a delivery that is refused, and a note. -/
def trackedCalls : List (Request × (ℕ → Input)) :=
  [(.updateShipmentStatus "tenant" "ana" "shipment" .pickupScheduled, fun n => tick n "e1"),
    (.updateShipmentStatus "tenant" "ana" "shipment" .delivered, fun n => tick (10 + n) "e2"),
    (.createTrackingEvent "tenant" "bia" "shipment"
      ⟨.noteAdded, none, some " aguardando ", 5, none, none, some "k-1"⟩,
      fun n => tick (20 + n) "e3")]

theorem replay_recordedStatuses_trackedCalls :
    Replays (trackingSystem.runCalls trackedCalls oneShipment) :=
  (replay_recordedStatuses oneShipment ⟨by decide, by decide⟩ trackedCalls).1

end Logistics.Tracking
