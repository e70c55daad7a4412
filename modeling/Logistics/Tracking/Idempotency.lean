import Logistics.Tracking.Concurrency

/-!
# Idempotency keys

A key is stored trimmed, and the unique index on it makes the event and the
status write of one key happen once. A key of white space only is stored as the
empty text, which is not null, so the index holds between calls that carry no
key at all; the results here are for runs in which no such call meets another.
-/

namespace Logistics.Tracking

open Logistics.Library

def Request.idempotencyKey : Request → Option String
  | .createTrackingEvent _ _ _ input => input.idempotencyKey
  | .updateShipmentStatus .. => none

theorem Request.storedKey_eq (r : Request) : r.storedKey = r.idempotencyKey.map trim := by
  cases r <;> rfl

/-- Stored events belong to stored shipments of their tenant. -/
def EventsBelong (s : Store) : Prop :=
  ∀ event ∈ s.trackingEvents.rows, ∃ shipment ∈ s.shipments.rows,
    shipment.id = event.shipmentId ∧ shipment.tenantId = event.tenantId

def storedEvents (shipmentId : Id) (key : String) (s : Store) : ℕ :=
  (s.trackingEvents.rows.filter fun event =>
    event.shipmentId == shipmentId && event.idempotencyKey == some key).length

/-- The call is a transaction under this key that writes the status of the
shipment and commits. -/
def WritesStatus (shipmentId : Id) (key : String) (s : Store) :
    trackingInterface.Command → Input → Prop
  | .recordEvent tenantId actorId id data current, input =>
      id = shipmentId ∧ data.storedKey = some key ∧ data.status.isSome = true ∧
        (execute (.recordEvent tenantId actorId id data current) input s).1.isOk = true
  | _, _ => False

instance (shipmentId : Id) (key : String) (s : Store) (cmd : Command) (input : Input) :
    Decidable (WritesStatus shipmentId key s cmd input) := by
  apply @Command.casesOn (fun cmd => Decidable (WritesStatus shipmentId key s cmd input)) cmd <;>
    intros <;> dsimp only [WritesStatus] <;> infer_instance

/-- A transaction whose key is present but blank finds no event stored under the
empty key. -/
def BlankKeyFree (s : Store) : trackingInterface.Command → Input → Prop
  | .recordEvent tenantId _ shipmentId data _, input =>
      input.fault = false → data.idempotencyKey.any isBlank = true →
        ¬KeyTaken s tenantId shipmentId ""
  | _, _ => True

instance (s : Store) (cmd : Command) (input : Input) : Decidable (BlankKeyFree s cmd input) := by
  apply @Command.casesOn (fun cmd => Decidable (BlankKeyFree s cmd input)) cmd <;>
    intros <;> dsimp only [BlankKeyFree] <;> infer_instance

/-! ## At most once -/

theorem storedEvents_execute (shipmentId : Id) (key : String) (cmd : Command) (input : Input)
    (s : Store) :
    (if WritesStatus shipmentId key s cmd input then 1 else 0) + storedEvents shipmentId key s ≤
      storedEvents shipmentId key (execute cmd input s).2 := by
  obtain ⟨⟨-, hsame⟩, hfails⟩ | ⟨tenantId, actorId, id, data, current, rfl, -, hcommits⟩ :=
    execute_cases cmd input s
  · have hwrites : ¬WritesStatus shipmentId key s cmd input := by
      intro hwrites
      cases cmd with
      | recordEvent tenantId actorId id data current =>
          obtain ⟨error, herror⟩ := hfails _ _ _ _ _ rfl
          have hok := hwrites.2.2.2
          rw [herror] at hok
          cases hok
      | _ => exact hwrites
    rw [if_neg hwrites, storedEvents, storedEvents, hsame]
    omega
  · simp only [storedEvents, hcommits.trackingEvents, List.filter_append, List.length_append]
    by_cases hwrites :
        WritesStatus shipmentId key s (.recordEvent tenantId actorId id data current) input
    · have hrow : ([trackingEventRow input tenantId actorId id data].filter fun event =>
          event.shipmentId == shipmentId && event.idempotencyKey == some key).length = 1 := by
        simp [trackingEventRow, hwrites.1, hwrites.2.1]
      rw [if_pos hwrites, hrow]
      omega
    · rw [if_neg hwrites]
      omega

theorem storedEvents_next (shipmentId : Id) (key : String) (c : TrackingConfig)
    (a : TrackingAction) :
    (if MakesCall (WritesStatus shipmentId key) c a then 1 else 0) +
        storedEvents shipmentId key c.store ≤
      storedEvents shipmentId key (trackingSystem.next c a).store := by
  obtain ⟨r, rfl, hn⟩ | ⟨i, input, r, h, cmd, k, rfl, hi, hcall, hn⟩ | ⟨hn, hcall⟩ :=
    trackingSystem.next_cases c a
  · simp [MakesCall, Config.nextCall, hn]
  · have hexecute := storedEvents_execute shipmentId key cmd input c.store
    simp only [MakesCall, hcall, hn]
    exact hexecute
  · simp [MakesCall, hcall, hn]

theorem storedEvents_le_one {s : Store} (hs : EventsBelong s) (shipmentId : Id) (key : String) :
    storedEvents shipmentId key s ≤ 1 := by
  by_cases hnone : ∃ event ∈ s.trackingEvents.rows,
      event.shipmentId = shipmentId ∧ event.idempotencyKey = some key
  · obtain ⟨event, hevent, hshipment, hkey⟩ := hnone
    apply s.trackingEvents.length_filter_le_one (event.tenantId, shipmentId, key)
    intro other hother hselected
    simp only [Bool.and_eq_true, beq_iff_eq] at hselected
    obtain ⟨row, hrow, hid, htenant⟩ := hs event hevent
    obtain ⟨row', hrow', hid', htenant'⟩ := hs other hother
    have hsame : row' = row :=
      shipment_eq_of_id hrow' hrow (by rw [hid', hid, hselected.1, hshipment])
    have htenants : other.tenantId = event.tenantId := by
      rw [← htenant', ← htenant, hsame]
    simp [TrackingEvent.keys, hselected, htenants]
  · have hempty : (s.trackingEvents.rows.filter fun event =>
        event.shipmentId == shipmentId && event.idempotencyKey == some key) = [] := by
      rw [List.filter_eq_nil_iff]
      intro event hevent hselected
      simp only [Bool.and_eq_true, beq_iff_eq] at hselected
      exact hnone ⟨event, hevent, hselected⟩
    rw [storedEvents, hempty]
    simp

/-! ## What the answers say -/

/-- A shipment that was read is there; a transaction refused for its key carries a
key that is not blank and is taken. -/
def Known (s : Store) (e : Event trackingInterface) : Prop :=
  (∀ id tenantId row, e = ⟨.findShipment id tenantId, .ok (some row)⟩ →
    ∃ stored ∈ s.shipments.rows, stored.id = id ∧ stored.tenantId = tenantId) ∧
  ∀ (cmd : Command) (error : ServiceError), e = ⟨cmd, .error error⟩ →
    error = .fault ∨ error = .recordNotFound ∨
      error = .uniqueViolation ∧ ∃ tenantId actorId shipmentId data current text,
        cmd = .recordEvent tenantId actorId shipmentId data current ∧
        data.idempotencyKey = some text ∧ isBlank text = false ∧
        KeyTaken s tenantId shipmentId (trim text)

theorem known_execute (cmd : Command) (input : Input) (s : Store)
    (hblank : BlankKeyFree s cmd input) :
    Known (execute cmd input s).2 ⟨cmd, (execute cmd input s).1⟩ := by
  refine ⟨fun id tenantId row he => ?_, fun cmd' error he => ?_⟩
  · obtain rfl : cmd = .findShipment id tenantId := congrArg Sigma.fst he
    have hanswer : (execute (.findShipment id tenantId) input s).1 = .ok (some row) := by
      simpa using he
    obtain ⟨hrow, hid, htenant⟩ := mem_of_findShipment hanswer
    rw [execute_findShipment_store]
    exact ⟨row, hrow, hid, htenant⟩
  · obtain rfl : cmd = cmd' := congrArg Sigma.fst he
    have hanswer : (execute cmd input s).1 = .error error := by simpa using he
    cases cmd with
    | recordEvent tenantId actorId shipmentId data current =>
        by_cases hfault : input.fault = true
        · simp only [execute, hfault, if_true] at hanswer
          injection hanswer with hanswer
          exact .inl hanswer.symm
        · rw [Bool.not_eq_true] at hfault
          simp only [execute, hfault, Bool.false_eq_true, if_false] at hanswer ⊢
          obtain ⟨h, key, hkey, htaken⟩ | h | ⟨result, s', h, -⟩ :=
            recordEvent_cases s input tenantId actorId shipmentId data current hfault
          · rw [h] at hanswer ⊢
            have hstored : data.idempotencyKey.map trim = some key := hkey
            obtain ⟨text, htext, rfl⟩ := Option.map_eq_some_iff.mp hstored
            refine .inr (.inr ⟨?_, tenantId, actorId, shipmentId, data, current, text, rfl,
              htext, ?_, htaken⟩)
            · injection hanswer with hanswer
              exact hanswer.symm
            · by_contra hnot
              rw [Bool.not_eq_false] at hnot
              rw [(trim_eq_empty_iff text).mpr hnot] at htaken
              exact hblank hfault (by simp [htext, hnot]) htaken
          · rw [h] at hanswer
            injection hanswer with hanswer
            exact .inr (.inl hanswer.symm)
          · rw [h] at hanswer
            cases hanswer
    | _ => exact .inl (eq_fault_of_execute (by simp) hanswer)

theorem known_keep (cmd : Command) (input : Input) (s : Store) (e : Event trackingInterface)
    (h : Known s e) : Known (execute cmd input s).2 e := by
  refine ⟨fun id tenantId row he => ?_, fun cmd' error he => ?_⟩
  · obtain ⟨stored, hstored, hid, htenant⟩ := h.1 id tenantId row he
    obtain ⟨stored', hstored', hid', htenant'⟩ := exists_shipment_execute hstored cmd input
    exact ⟨stored', hstored', hid'.trans hid, htenant'.trans htenant⟩
  · obtain hfault | hmissing | ⟨hunique, tenantId, actorId, shipmentId, data, current, text,
      hcmd, htext, hblank, htaken⟩ := h.2 cmd' error he
    · exact .inl hfault
    · exact .inr (.inl hmissing)
    · exact .inr (.inr ⟨hunique, tenantId, actorId, shipmentId, data, current, text, hcmd,
        htext, hblank, keyTaken_execute htaken cmd input⟩)

/-! ## Runs -/

/-- A transaction is on a shipment of its tenant, so its event belongs to it. -/
theorem eventsBelong_execute {r : Request} {h : List (Event trackingInterface)} {cmd : Command}
    {s : Store} (hs : EventsBelong s) (hchecked : Checked r h cmd)
    (hknown : ∀ e ∈ h, Known s e) (input : Input) : EventsBelong (execute cmd input s).2 := by
  intro event hevent
  have hold : event ∈ s.trackingEvents.rows → ∃ shipment ∈ (execute cmd input s).2.shipments.rows,
      shipment.id = event.shipmentId ∧ shipment.tenantId = event.tenantId := by
    intro hmem
    obtain ⟨row, hrow, hid, htenant⟩ := hs event hmem
    obtain ⟨row', hrow', hid', htenant'⟩ := exists_shipment_execute hrow cmd input
    exact ⟨row', hrow', hid'.trans hid, htenant'.trans htenant⟩
  obtain ⟨⟨-, hsame⟩, -⟩ | ⟨tenantId, actorId, shipmentId, data, current, rfl, -, hcommits⟩ :=
    execute_cases cmd input s
  · rw [hsame] at hevent
    exact hold hevent
  · rw [hcommits.trackingEvents] at hevent
    rcases List.mem_append.mp hevent with hevent | hevent
    · exact hold hevent
    · obtain rfl := List.mem_singleton.mp hevent
      obtain ⟨row, hrow, hid, htenant⟩ :=
        (hknown _ hchecked.2.1).1 shipmentId tenantId current rfl
      obtain ⟨row', hrow', hid', htenant'⟩ := exists_shipment_execute hrow _ input
      exact ⟨row', hrow', hid'.trans hid, htenant'.trans htenant⟩

/-- What holds of every configuration of a run without blank keys meeting. -/
structure Idempotent (c : TrackingConfig) : Prop where
  obeying : c.Obeying Checked Refused
  knowing : c.Knowing Known
  belong : EventsBelong c.store

theorem idempotent_next (c : TrackingConfig) (a : TrackingAction) (hc : Idempotent c)
    (hblank : CallCondition BlankKeyFree c a) : Idempotent (trackingSystem.next c a) where
  obeying := trackingSystem.obeying_next handle_obeys c a hc.obeying
  knowing := trackingSystem.knowing_next known_execute
    (fun cmd input s e _ => known_keep cmd input s e) c a hc.knowing hblank
  belong := by
    obtain ⟨r, rfl, hn⟩ | ⟨i, input, r, h, cmd, k, rfl, hi, -, hn⟩ | ⟨hn, -⟩ :=
      trackingSystem.next_cases c a
    · rw [hn]
      exact hc.belong
    · rw [hn]
      exact eventsBelong_execute hc.belong (Config.obeying_call hc.obeying hi)
        (hc.knowing _ (List.mem_of_getElem? hi)) input
    · rw [hn]
      exact hc.belong

/-- A call refused as a duplicate carries a key that is not blank and is stored. -/
theorem keyTaken_of_refused {c : TrackingConfig} (hc : Idempotent c)
    {t : Thread trackingInterface Request TrackingEventView} (ht : t ∈ c.threads)
    (hrefused : t.program.error? = some (.badRequest duplicateMessage)) :
    ∃ text, t.request.idempotencyKey = some text ∧ isBlank text = false ∧
      KeyTaken c.store t.request.tenantId t.request.shipmentId (trim text) := by
  have hobeys := hc.obeying t ht
  rw [Program.error?_eq_some_iff.mp hrefused] at hobeys
  obtain ⟨cmd, error, hfor, hmem, herror⟩ := hobeys rfl
  obtain hfault | hmissing | ⟨-, tenantId, actorId, shipmentId, data, current, text, rfl, htext,
    hblank, htaken⟩ := (hc.knowing t ht _ hmem).2 cmd error rfl
  · simp [hfault] at herror
  · simp [hmissing] at herror
  · obtain ⟨htenant, hshipment, hkey⟩ := hfor
    have hstored : t.request.idempotencyKey.map trim = some (trim text) := by
      rw [← Request.storedKey_eq, ← hkey, CreateTrackingEventDto.storedKey, htext]
      rfl
    obtain ⟨text', htext', htrim⟩ := Option.map_eq_some_iff.mp hstored
    refine ⟨text', htext', ?_, ?_⟩
    · -- trimming to the same text, they are blank together
      rw [← Bool.not_eq_true, ← trim_eq_empty_iff] at hblank ⊢
      rw [htrim]
      exact hblank
    · rw [htrim, ← htenant, ← hshipment]
      exact htaken

/-- As long as no transaction with a blank key finds an event stored under the
empty key, each key of a shipment is stored and writes the status at most once,
and a call is refused as a duplicate only for a key that is not blank and is
already stored. -/
theorem idempotencyKey_applies_once (s : Store) (hs : EventsBelong s)
    (acts : List TrackingAction)
    (hblank : trackingSystem.AlongActions (CallCondition BlankKeyFree) (Config.initial s) acts) :
    (∀ shipmentId key,
      storedEvents shipmentId key
          (trackingSystem.runActions (Config.initial s) acts).store ≤ 1 ∧
        trackingSystem.countActions (MakesCall (WritesStatus shipmentId key))
          (Config.initial s) acts ≤ 1) ∧
      ∀ t ∈ (trackingSystem.runActions (Config.initial s) acts).threads,
        t.program.error? = some (.badRequest duplicateMessage) →
        ∃ text, t.request.idempotencyKey = some text ∧ isBlank text = false ∧
          KeyTaken (trackingSystem.runActions (Config.initial s) acts).store
            t.request.tenantId t.request.shipmentId (trim text) := by
  have hrun : Idempotent (trackingSystem.runActions (Config.initial s) acts) :=
    trackingSystem.run_invariant idempotent_next acts _
      ⟨Config.obeying_initial _ _ _, Config.knowing_initial _ _, hs⟩ hblank
  refine ⟨fun shipmentId key => ?_, fun t ht => keyTaken_of_refused hrun ht⟩
  have hstored := storedEvents_le_one hrun.belong shipmentId key
  have hcount := trackingSystem.countActions_add_le (storedEvents_next shipmentId key) acts
    (Config.initial s)
  exact ⟨hstored, by omega⟩

def noted (key : Option String) : CreateTrackingEventDto :=
  ⟨.noteAdded, none, none, 0, none, none, key⟩

/-- Two notes under one key, both calls reading before either writes. -/
def notesRun (key : Option String) : List TrackingAction :=
  [.start (.createTrackingEvent "tenant" "ana" "shipment" (noted key)),
    .start (.createTrackingEvent "tenant" "bia" "shipment" (noted key)),
    .step 0 (tick 1 ""), .step 1 (tick 1 ""),
    .step 0 (tick 2 "e1"), .step 1 (tick 3 "e2")]

theorem eventsBelong_oneShipment : EventsBelong oneShipment := by
  simp [EventsBelong, oneShipment, Store.empty, Table.empty]

theorem idempotencyKey_applies_once_notesRun :
    storedEvents "shipment" "k-1"
      (trackingSystem.runActions (Config.initial oneShipment)
        (notesRun (some " k-1 "))).store ≤ 1 :=
  ((idempotencyKey_applies_once oneShipment eventsBelong_oneShipment (notesRun (some " k-1 "))
    (by decide)).1 "shipment" "k-1").1

/-- With keys of blanks only, the second note is refused as a duplicate. -/
theorem blank_keys_exclude_one_another :
    EventsBelong oneShipment ∧
      ∃ t ∈ (trackingSystem.runActions (Config.initial oneShipment)
          (notesRun (some "  "))).threads,
        t.program.error? = some (.badRequest duplicateMessage) ∧
          t.request.idempotencyKey = some "  " ∧ isBlank "  " = true :=
  ⟨eventsBelong_oneShipment, by decide⟩

end Logistics.Tracking
