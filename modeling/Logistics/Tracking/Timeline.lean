import Logistics.Tracking.Replay

/-!
# The displayed timeline

`getShipment` orders the events of a shipment by when they happened, while the
stored status is the one of the last call. The two agree when each status is
recorded by an event later than all the others: `EndsAtStatus` is the property
of the tables, in terms of the order and not of any sorted list, that the sorted
list turns into its last entry.
-/

namespace Logistics.Tracking

open Logistics.Library

/-- The first event is strictly earlier in the order of the timeline. -/
def earlier (a b : Time × Time) : Prop :=
  a.1 < b.1 ∨ a.1 = b.1 ∧ a.2 < b.2

instance (a b : Time × Time) : Decidable (earlier a b) :=
  inferInstanceAs (Decidable (_ ∨ _))

/-- The instants the timeline is ordered by. -/
def instants (event : TrackingEvent) : Time × Time :=
  (event.occurredAt, event.createdAt)

theorem not_earlier_of_timelineLE {tie : Id → ℕ} {a b : TrackingEvent}
    (h : timelineLE tie a b) : ¬earlier (instants b) (instants a) := by
  unfold timelineLE at h
  simp only [earlier, instants]
  grind

instance (tie : Id → ℕ) : Std.Total (timelineLE tie) where
  total a b := by
    unfold timelineLE
    grind

instance (tie : Id → ℕ) : IsTrans TrackingEvent (timelineLE tie) where
  trans a b c := by
    unfold timelineLE
    grind

/-- Of the events of a shipment that carry a status, those that no other follows
carry the status of the shipment. -/
def EndsAtStatus (s : Store) : Prop :=
  ∀ shipment ∈ s.shipments.rows, ∀ event ∈ s.trackingEvents.rows,
    event.shipmentId = shipment.id → ∀ status, event.status = some status →
    (∀ other ∈ s.trackingEvents.rows, other.shipmentId = shipment.id →
      other.status.isSome = true → ¬earlier (instants event) (instants other)) →
    status = shipment.status

/-- An accepted transaction with a status keeps the status of its shipment, or its
event is later than every event of the shipment with a status. -/
def KeepsOrFollows (s : Store) : trackingInterface.Command → Input → Prop
  | .recordEvent tenantId _ shipmentId data current, input =>
      Accepts s input tenantId shipmentId data → ∀ status ∈ data.status,
        status = current.status ∨
          ∀ event ∈ s.trackingEvents.rows, event.shipmentId = shipmentId →
            event.status.isSome = true →
            earlier (instants event) (data.occurredAt, input.now)
  | _, _ => True

instance (s : Store) (cmd : Command) (input : Input) : Decidable (KeepsOrFollows s cmd input) := by
  apply @Command.casesOn (fun cmd => Decidable (KeepsOrFollows s cmd input)) cmd <;>
    intros <;> dsimp only [KeepsOrFollows] <;> infer_instance

theorem endsAtStatus_of_sameTracking {s s' : Store} (h : SameTracking s s')
    (hs : EndsAtStatus s) : EndsAtStatus s' := by
  unfold EndsAtStatus
  rw [h.1, h.2]
  exact hs

theorem endsAtStatus_of_untracked {s : Store} (hs : Untracked s) : EndsAtStatus s := by
  intro shipment hshipment event hevent
  rw [hs.2] at hevent
  cases hevent

theorem endsAtStatus_of_commits {s s' : Store} {input : Input}
    {tenantId actorId shipmentId : Id} {data : CreateTrackingEventDto} {current : Shipment}
    (hs : EndsAtStatus s)
    (hfollows : KeepsOrFollows s (.recordEvent tenantId actorId shipmentId data current) input)
    (h : CommitsAlone s input tenantId actorId shipmentId data current s') : EndsAtStatus s' := by
  intro after hafter event hevent hof status hstatus hlast
  rw [h.commits.shipments, List.mem_map] at hafter
  obtain ⟨row, hrow, rfl⟩ := hafter
  rw [afterEvent_id] at hof hlast
  rw [h.commits.trackingEvents] at hevent hlast
  have hold : event ∈ s.trackingEvents.rows → status = row.status := fun hmem =>
    hs row hrow event hmem hof status hstatus fun other hother =>
      hlast other (List.mem_append_left _ hother)
  rw [afterEvent_status]
  rcases List.mem_append.mp hevent with hmem | hnew
  · by_cases hid : row.id = shipmentId
    · rw [if_pos hid]
      cases hdata : data.status with
      | none => exact hold hmem
      | some next =>
          have hcurrent : current = row := shipment_eq_of_id h.stored hrow (by rw [h.id_eq, hid])
          obtain hkeep | hlater := hfollows h.commits.accepts next hdata
          · rw [Option.getD_some, hkeep, hcurrent]
            exact hold hmem
          · -- the new event follows the old one, which then is not the last
            have hnotLast := hlast _ (List.mem_append_right _ List.mem_cons_self)
              (by rw [hid]; rfl) (by simp [trackingEventRow, hdata])
            exact absurd (hlater event hmem (by rw [hof, hid]) (by simp [hstatus])) hnotLast
    · rw [if_neg hid]
      exact hold hmem
  · obtain rfl := List.mem_singleton.mp hnew
    have hid : row.id = shipmentId := hof.symm
    have hdata : data.status = some status := hstatus
    rw [if_pos hid, hdata, Option.getD_some]

/-! ## The view -/

/-- What the view of a shipment shows of the two tables. -/
def ShowsTimeline (s : Store) (view : ShipmentView) : Prop :=
  ∃ shipment ∈ s.shipments.rows, ∃ tie, ∃ sources : TrackingEvent → Option String,
    view.status = shipment.status ∧
      view.tracking = (timeline s tie shipment.id).map fun event =>
        timelineEntry ⟨event, sources event⟩

theorem mem_of_findShipmentRecord {s : Store} {id tenantId : Id} {input : Input}
    {record : ShipmentRecord}
    (h : (execute (.findShipmentRecord id tenantId) input s).1 = .ok (some record)) :
    ∃ shipment ∈ s.shipments.rows, record = shipmentRecord s input.tie shipment := by
  by_cases hfault : input.fault = true
  · simp [execute, hfault] at h
  · simp only [execute, hfault, if_false, Bool.false_eq_true, Except.ok.injEq,
      Option.map_eq_some_iff] at h
    obtain ⟨shipment, hfind, rfl⟩ := h
    exact ⟨shipment, List.mem_of_find?_eq_some hfind, rfl⟩

theorem getShipment_showsTimeline (tenantId id : Id) (s : Store) :
    (getShipment tenantId id).wp execute (fun _ _ _ => True) (fun _ _ _ => True)
      (fun outcome _ => ∀ view, outcome = .ok view → ShowsTimeline s view) s := by
  unfold getShipment
  refine Program.wp_perform_bind fun i _ => ⟨trivial, fun found hfound => ?_,
    fun _ _ _ h => by cases h⟩
  cases found with
  | none => exact fun _ h => by cases h
  | some record =>
      obtain ⟨shipment, hshipment, rfl⟩ := mem_of_findShipmentRecord hfound
      -- the other reads name related rows only
      refine Program.wp_bind (Program.wp_true _ _) (fun carrier _ _ => ?_)
        (fun _ _ _ _ h => by cases h)
      refine Program.wp_bind (Program.wp_true _ _) (fun service _ _ => ?_)
        (fun _ _ _ _ h => by cases h)
      refine Program.wp_bind (Program.wp_true _ _) (fun customer _ _ => ?_)
        (fun _ _ _ _ h => by cases h)
      refine Program.wp_bind (Program.wp_true _ _) (fun branch _ _ => ?_)
        (fun _ _ _ _ h => by cases h)
      intro view h
      cases h
      exact ⟨shipment, hshipment, i.tie, _, rfl, List.map_map⟩

/-- The last entry that carries a status. -/
def lastStatus (view : ShipmentView) : Option ShipmentStatus :=
  (view.tracking.filter fun entry => entry.status.isSome).getLast?.bind TimelineEntry.status

theorem mem_timeline {s : Store} {tie : Id → ℕ} {shipmentId : Id} {event : TrackingEvent} :
    event ∈ timeline s tie shipmentId ↔
      event ∈ s.trackingEvents.rows ∧ event.shipmentId = shipmentId := by
  simp [timeline, List.mem_insertionSort]

theorem not_earlier_of_getLast? {s : Store} {tie : Id → ℕ} {shipmentId : Id}
    {event : TrackingEvent}
    (hlast : ((timeline s tie shipmentId).filter fun event => event.status.isSome).getLast? =
      some event)
    {other : TrackingEvent} (hother : other ∈ s.trackingEvents.rows)
    (hof : other.shipmentId = shipmentId) (hstatus : other.status.isSome = true) :
    ¬earlier (instants event) (instants other) := by
  obtain ⟨before, hbefore⟩ := List.getLast?_eq_some_iff.mp hlast
  have hsorted : (before ++ [event]).Pairwise (timelineLE tie) := by
    rw [← hbefore]
    exact (List.pairwise_insertionSort _ _).filter _
  have hmem : other ∈ before ++ [event] := by
    rw [← hbefore, List.mem_filter, mem_timeline]
    exact ⟨⟨hother, hof⟩, hstatus⟩
  rcases List.mem_append.mp hmem with hmem | hmem
  · have hle := (List.pairwise_append.mp hsorted).2.2 other hmem event List.mem_cons_self
    exact not_earlier_of_timelineLE hle
  · rw [List.mem_singleton.mp hmem]
    simp [earlier]

theorem lastStatus_eq {s : Store} {view : ShipmentView} (hview : ShowsTimeline s view)
    (hs : EndsAtStatus s) {status : ShipmentStatus} (hlast : lastStatus view = some status) :
    status = view.status := by
  obtain ⟨shipment, hshipment, tie, sources, hstatus, htracking⟩ := hview
  rw [lastStatus, htracking, List.filter_map, List.getLast?_map] at hlast
  obtain ⟨entry, hentry, hentryStatus⟩ := Option.bind_eq_some_iff.mp hlast
  obtain ⟨event, hevent, rfl⟩ := Option.map_eq_some_iff.mp hentry
  have hmem := List.mem_of_getLast? hevent
  rw [List.mem_filter, mem_timeline] at hmem
  rw [hstatus]
  exact hs shipment hshipment event hmem.1.1 hmem.1.2 status hentryStatus
    fun other hother hof hsome => not_earlier_of_getLast? hevent hother hof hsome

/-- As long as every accepted status is the current one or comes with an event
later than all others that carry a status, the timeline of a shipment ends at its
status. -/
theorem timeline_ends_at_status (s : Store) (hs : Untracked s)
    (calls : List (Request × (ℕ → Input)))
    (hcalls : trackingSystem.AlongCalls KeepsOrFollows calls s) (tenantId id : Id)
    (ω : ℕ → Input) (view : ShipmentView)
    (hview : ((getShipment tenantId id).run execute ω (trackingSystem.runCalls calls s)).1 =
      .ok view) :
    ∀ status, lastStatus view = some status → status = view.status := by
  have hends : EndsAtStatus (trackingSystem.runCalls calls s) :=
    trackingSystem.runCalls_invariant
      (handle_wp (fun _ _ => endsAtStatus_of_sameTracking)
        fun _ _ _ _ _ _ _ _ h hA hc => endsAtStatus_of_commits h hA hc)
      calls s (endsAtStatus_of_untracked hs) hcalls
  have hshows := Program.wp_run (getShipment_showsTimeline tenantId id _)
    (Program.along_true _ ω _) view hview
  exact fun status hlast => lastStatus_eq hshows hends hlast

/-- A pickup is scheduled; then a cancellation is recorded that happened at
`cancelledAt`. -/
def canceledCalls (cancelledAt : Time) : List (Request × (ℕ → Input)) :=
  [(.createTrackingEvent "tenant" "ana" "shipment"
      ⟨.statusChanged, some .pickupScheduled, none, 50, none, none, none⟩, fun n => tick n "e1"),
    (.createTrackingEvent "tenant" "bia" "shipment"
      ⟨.statusChanged, some .canceled, none, cancelledAt, none, none, none⟩,
      fun n => tick (10 + n) "e2")]

/-- The last status shown for the shipment after the calls, with its status. -/
def shownAfter (calls : List (Request × (ℕ → Input))) :
    Option (Option ShipmentStatus × ShipmentStatus) :=
  match ((getShipment "tenant" "shipment").run execute (fun n => tick (20 + n) "")
      (trackingSystem.runCalls calls oneShipment)).1 with
  | .ok view => some (lastStatus view, view.status)
  | .error _ => none

theorem timeline_ends_at_status_canceledCalls : ∃ view,
    ((getShipment "tenant" "shipment").run execute (fun n => tick (20 + n) "")
      (trackingSystem.runCalls (canceledCalls 60) oneShipment)).1 = .ok view ∧
    ∀ status, lastStatus view = some status → status = view.status := by
  refine ⟨_, rfl, ?_⟩
  exact timeline_ends_at_status oneShipment ⟨by decide, by decide⟩ (canceledCalls 60)
    (by decide) "tenant" "shipment" (fun n => tick (20 + n) "") _ rfl

/-- Recorded late, the cancellation is shown before the pickup. -/
theorem late_cancellation_is_not_last :
    Untracked oneShipment ∧
      shownAfter (canceledCalls 40) = some (some .pickupScheduled, .canceled) :=
  ⟨⟨by decide, by decide⟩, by decide⟩

end Logistics.Tracking
