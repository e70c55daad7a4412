import Logistics.Shipping.Copies

/-!
# Tracking codes

The tracking code of a shipment is made of the year of the simulation and the
first eight characters of its identifier, and it is unique in a tenant. Two
simulations of one year may share it; then the first to be shipped keeps the
other from ever becoming a shipment, and the unique violation is answered as if
the other had a shipment already. Otherwise a simulation with a selected option
can be shipped, and the conflict means what it says.
-/

namespace Logistics.Shipping

open Logistics.Library Logistics.Quoting

/-- No shipment of the tenant carries the tracking code of the simulation. -/
def CodeFree (P : Platform) (s : Store) (simulation : FreightSimulation) : Prop :=
  ∀ shipment ∈ s.shipments.rows, shipment.tenantId = simulation.tenantId →
    shipment.trackingCode ≠ trackingCode P simulation

instance (P : Platform) (s : Store) (simulation : FreightSimulation) :
    Decidable (CodeFree P s simulation) := by
  unfold CodeFree
  infer_instance

/-! ## Storing a shipment -/

/-- The two shipments have a unique key in common. -/
def Collides (a b : Shipment) : Prop :=
  a.id = b.id ∨ a.simulationId = b.simulationId ∨ a.selectedOptionId = b.selectedOptionId ∨
    a.tenantId = b.tenantId ∧ a.trackingCode = b.trackingCode

theorem collides_iff {a b : Shipment} : Collides a b ↔ ∃ key ∈ a.keys, key ∈ b.keys := by
  simp [Collides, Shipment.keys]

/-- A shipment is stored unless it collides with a stored one. -/
theorem tryInsert_shipment_iff (s : Store) (created : Shipment) :
    (∃ shipments, s.shipments.tryInsert created = some shipments) ↔
      ∀ shipment ∈ s.shipments.rows, ¬Collides created shipment := by
  rw [Table.tryInsert_isSome_iff]
  have hnodup : created.keys.Nodup := by simp [Shipment.keys]
  simp only [hnodup, true_and, collides_iff]
  constructor
  · rintro hfree shipment hshipment ⟨key, hkey, hshared⟩
    exact hfree key hkey shipment hshipment hshared
  · intro hfree key hkey shipment hshipment hshared
    exact hfree shipment hshipment ⟨key, hkey, hshared⟩

theorem simulationId_of_selectedOptionId {s : Store} (hs : Consistent s)
    {option : FreightSimulationOption} (hoption : option ∈ s.freightSimulationOptions.rows)
    {shipment : Shipment} (hshipment : shipment ∈ s.shipments.rows)
    (hid : shipment.selectedOptionId = option.id) :
    shipment.simulationId = option.simulationId := by
  obtain ⟨-, carried, hcarried, hfrom⟩ := hs.shipped shipment hshipment
  rw [option_eq_of_id hoption hcarried (hid.symm.trans hfrom.selectedOptionId)]
  exact hfrom.simulationId

section Answers

variable (P : Platform) {s : Store} {input : Input}

theorem execute_of_no_fault {c : ShippingCommand} (h : input.fault = false) (s : Store) :
    execute P (.inr c) input s = answer P c input s := by
  simp [execute, Backend.extend, executeShipping, h]

theorem answer_loadSimulation {simulation : FreightSimulation}
    (h : simulation ∈ s.freightSimulations.rows) :
    answer P (.loadSimulation simulation.id simulation.tenantId) input s =
      (.ok (some (loadedSimulation s input.tie simulation)), s) := by
  have hfind := s.freightSimulations.find?_eq_some_of_key (k := simulation.id)
    (p := fun row => row.id == simulation.id && row.tenantId == simulation.tenantId) h
    List.mem_cons_self (by simp) fun row hrow => by
      rw [Bool.and_eq_true, beq_iff_eq] at hrow
      simp [hrow.1]
  simp only [answer, hfind, Option.map_some]

theorem find?_selected {simulation : FreightSimulation}
    (hselected : HasSelected s simulation.id) (tie : Id → ℕ) :
    ∃ selected, (loadedSimulation s tie simulation).options.find?
        (fun option => option.selected) = some selected ∧
      selected ∈ s.freightSimulationOptions.rows ∧ selected.simulationId = simulation.id := by
  obtain ⟨row, hrow, hof, hsel⟩ := hselected
  have hmem : row ∈ (loadedSimulation s tie simulation).options := by
    rw [loadedSimulation, List.mem_insertionSort, List.mem_filter]
    exact ⟨hrow, beq_iff_eq.mpr hof⟩
  obtain ⟨selected, hfind⟩ := Option.isSome_iff_exists.mp
    (List.find?_isSome.mpr ⟨row, hmem, hsel⟩)
  have hloaded := List.mem_of_find?_eq_some hfind
  rw [loadedSimulation, List.mem_insertionSort, List.mem_filter, beq_iff_eq] at hloaded
  exact ⟨selected, hfind, hloaded⟩

theorem answer_findShipmentOf {simulationId : Id}
    (h : ∀ shipment ∈ s.shipments.rows, shipment.simulationId ≠ simulationId) :
    answer P (.findShipmentOf simulationId) input s = (.ok none, s) := by
  have hfind : (s.shipments.rows.find? fun row => row.simulationId == simulationId) = none := by
    rw [List.find?_eq_none]
    intro shipment hshipment hof
    exact h shipment hshipment (beq_iff_eq.mp hof)
  simp only [answer, hfind]

theorem run_presentShipment {ω : ℕ → Input} (hfault : ∀ n, (ω n).fault = false)
    {shipment : Shipment} (h : shipment ∈ s.shipments.rows) :
    ∃ view, (presentShipment shipment.id shipment.tenantId).run (execute P) ω s = (.ok view, s) ∧
      view.id = shipment.id := by
  have hfind := s.shipments.find?_eq_some_of_key (k := .id shipment.id)
    (p := fun row => row.id == shipment.id && row.tenantId == shipment.tenantId) h
    (by simp [Shipment.keys]) (by simp) fun row hrow => by
      rw [Bool.and_eq_true, beq_iff_eq] at hrow
      simp [Shipment.keys, hrow.1]
  have hfound : execute P (.inr (.findShipment shipment.id shipment.tenantId)) (ω 0) s =
      (.ok (some shipment), s) := by
    rw [execute_of_no_fault P (hfault 0), answer, hfind]
    rfl
  have hnames : ∃ names, execute P (.inr (.findServiceNames shipment.carrierId
      shipment.carrierServiceId shipment.tenantId)) (ω 1) s = (.ok names, s) :=
    ⟨_, execute_of_no_fault P (hfault 1) s⟩
  obtain ⟨names, hnames⟩ := hnames
  exact ⟨_, (Program.run_perform_bind_ok hfound).trans (Program.run_perform_bind_ok hnames), rfl⟩

theorem storeShipmentRows_of_free {tenantId actorId : Id} {simulation : LoadedSimulation}
    {selected : FreightSimulationOption} {shipments : Table Shipment ShipmentKey Shipment.keys}
    (h : s.shipments.tryInsert (shipmentRow P input tenantId actorId simulation selected) =
      some shipments) :
    ∃ s', storeShipmentRows P s input tenantId actorId simulation selected =
      (.ok (shipmentRow P input tenantId actorId simulation selected), s') ∧
        s'.shipments = shipments := by
  unfold storeShipmentRows
  simp only [h]
  exact ⟨_, rfl, rfl⟩

theorem storeShipmentRows_of_taken {tenantId actorId : Id} {simulation : LoadedSimulation}
    {selected : FreightSimulationOption}
    (h : s.shipments.tryInsert (shipmentRow P input tenantId actorId simulation selected) =
      none) :
    storeShipmentRows P s input tenantId actorId simulation selected =
      (.error .uniqueViolation, s) := by
  unfold storeShipmentRows
  simp only [h]

theorem run_shipSelected {ω : ℕ → Input} (hfault : ∀ n, (ω n).fault = false) {s s' : Store}
    {actorId : Id} {simulation : LoadedSimulation} {selected : FreightSimulationOption}
    {created : Shipment}
    (hstore : storeShipmentRows P s (ω 0) created.tenantId actorId simulation selected =
      (.ok created, s')) (hcreated : created ∈ s'.shipments.rows) (simulationId : Id) :
    ∃ view s'', (shipSelected created.tenantId actorId simulationId simulation selected).run
        (execute P) ω s = (.ok view, s'') ∧
      s''.shipments = s'.shipments ∧ view.id = created.id := by
  have hstored : execute P (.inr (.storeShipment created.tenantId actorId simulation selected))
      (ω 0) s = (.ok created, s') := by
    rw [execute_of_no_fault P (hfault 0), answer, hstore]
    rfl
  let audit : AuditRecordInput := {
    action := .shipmentCreated
    actorId := some actorId
    entityId := some created.id
    entityType := some "Shipment"
    metadata := [("simulationId", some simulationId), ("selectedOptionId", some selected.id)]
    tenantId := some created.tenantId }
  let logged : Store := { s' with auditLogs := s'.auditLogs ++ [audit] }
  have haudit : execute P (.inl (.recordAudit audit)) (ω 1) s' = (.ok (), logged) := by
    simp [execute, Backend.extend, Quoting.execute, hfault, logged]
  have hemit : execute P (.inl (.emitDashboardRefresh created.tenantId "shipment-created")) (ω 2)
      logged = (.ok (), logged) := by
    simp [execute, Backend.extend, Quoting.execute, hfault]
  have hlogged : created ∈ logged.shipments.rows := hcreated
  obtain ⟨view, hview, hid⟩ :=
    run_presentShipment P (ω := fun n => ω (n + 3)) (fun n => hfault _) hlogged
  exact ⟨view, logged, (Program.run_perform_bind_ok hstored).trans
    ((Program.run_perform_bind_ok haudit).trans
      ((Program.run_perform_bind_ok hemit).trans hview)), rfl, hid⟩

/-- A simulation with a selected option and no shipment becomes a shipment, if its
code is free, and is refused otherwise. -/
theorem run_createShipment (hs : Consistent s) {simulation : FreightSimulation}
    (hsimulation : simulation ∈ s.freightSimulations.rows)
    (hselected : HasSelected s simulation.id)
    (hnone : ∀ shipment ∈ s.shipments.rows, shipment.simulationId ≠ simulation.id)
    {ω : ℕ → Input} (hfault : ∀ n, (ω n).fault = false)
    (hfresh : ∀ n, ∀ shipment ∈ s.shipments.rows, shipment.id ≠ (ω n).ids 0) (actorId : Id) :
    (CodeFree P s simulation → ∃ view s',
      (createShipment simulation.tenantId actorId simulation.id).run (execute P) ω s =
        (.ok view, s') ∧
      ∃ shipment ∈ s'.shipments.rows,
        shipment.simulationId = simulation.id ∧ shipment.id = view.id) ∧
    (¬CodeFree P s simulation →
      ((createShipment simulation.tenantId actorId simulation.id).run (execute P) ω s).1 =
        .error shipmentExists) := by
  obtain ⟨selected, hfind, hmem, hof⟩ := find?_selected hselected (ω 0).tie
  have hload := (execute_of_no_fault P (hfault 0) s).trans (answer_loadSimulation P hsimulation)
  have hexisting := (execute_of_no_fault P (hfault 1) s).trans (answer_findShipmentOf P hnone)
  -- the guarded part is what remains of the call
  have hrun : (createShipment simulation.tenantId actorId simulation.id).run (execute P) ω s =
      ((shipSelected simulation.tenantId actorId simulation.id
        (loadedSimulation s (ω 0).tie simulation) selected).tryCatch fun error =>
          if error = .uniqueViolation then throw shipmentExists else throw error).run (execute P)
            (fun n => ω (n + 2)) s := by
    refine (Program.run_perform_bind_ok hload).trans ?_
    dsimp only
    rw [hfind]
    exact Program.run_perform_bind_ok (b := execute P) (ω := fun n => ω (n + 1)) hexisting
  let created := shipmentRow P (ω 2) simulation.tenantId actorId
    (loadedSimulation s (ω 0).tie simulation) selected
  have hinsert : (∃ shipments, s.shipments.tryInsert created = some shipments) ↔
      CodeFree P s simulation := by
    rw [tryInsert_shipment_iff]
    constructor
    · intro hfree shipment hshipment htenant hcode
      exact hfree shipment hshipment (.inr (.inr (.inr ⟨htenant.symm, hcode.symm⟩)))
    · rintro hfree shipment hshipment (hid | hsim | hopt | ⟨htenant, hcode⟩)
      · exact hfresh 2 shipment hshipment hid.symm
      · exact hnone shipment hshipment hsim.symm
      · exact hnone shipment hshipment
          ((simulationId_of_selectedOptionId hs hmem hshipment hopt.symm).trans hof)
      · exact hfree shipment hshipment htenant.symm hcode.symm
  rw [hrun]
  constructor
  · intro hfree
    obtain ⟨shipments, hshipments⟩ := hinsert.mpr hfree
    obtain ⟨s', hstore, rfl⟩ := storeShipmentRows_of_free P hshipments
    have hcreated : created ∈ s'.shipments.rows := by
      rw [Table.tryInsert_rows hshipments]
      exact List.mem_append_right _ List.mem_cons_self
    obtain ⟨view, s'', hview, hrows, hid⟩ := run_shipSelected P (ω := fun n => ω (n + 2))
      (fun n => hfault _) hstore hcreated simulation.id
    exact ⟨view, s'', Program.run_tryCatch_ok hview, created, by rwa [hrows], rfl, hid.symm⟩
  · intro htaken
    have hshipments : s.shipments.tryInsert created = none := by
      rw [Option.eq_none_iff_forall_ne_some]
      exact fun shipments hshipments => htaken (hinsert.mp ⟨shipments, hshipments⟩)
    have hstore : execute P (.inr (.storeShipment simulation.tenantId actorId
        (loadedSimulation s (ω 0).tie simulation) selected)) (ω 2) s =
          (.error .uniqueViolation, s) :=
      (execute_of_no_fault P (hfault 2) s).trans (storeShipmentRows_of_taken P hshipments)
    exact congrArg Prod.fst (Program.run_tryCatch_perform_bind_error (b := execute P)
      (ω := fun n => ω (n + 2)) hstore)

end Answers

/-! ## Any interleaving -/

/-- A transaction that stores a shipment draws a new identifier, and its code is not
carried by the shipment of another simulation. -/
def OwnCode (P : Platform) (s : Store) : freightInterface.Command → Input → Prop
  | .inr (.storeShipment tenantId _ simulation _), input => input.fault = false →
      ∀ shipment ∈ s.shipments.rows, shipment.id ≠ input.ids 0 ∧
        (shipment.tenantId = tenantId →
          shipment.trackingCode = trackingCode P simulation.simulation →
          shipment.simulationId = simulation.simulation.id)
  | _, _ => True

instance (P : Platform) (s : Store) (c : freightInterface.Command) (input : Input) :
    Decidable (OwnCode P s c input) := by
  refine decideExtended (p := fun c => OwnCode P s c input) (fun _ => isTrue trivial)
    (fun c => ?_) c
  apply @ShippingCommand.casesOn (fun c => Decidable (OwnCode P s (.inr c) input)) c <;>
    intros <;> dsimp only [OwnCode] <;> infer_instance

/-- Calls other than the transactions that insert fail without a unique violation,
and a shipment is refused for the shipment of its simulation. -/
def RefusedForShipment (s : Store) : Event freightInterface → Prop
  | ⟨.inl (.storeSimulation ..), _⟩ => True
  | ⟨.inr (.storeShipment _ _ simulation _), answer⟩ => ∀ error, answer = .error error →
      error ≠ shipmentExists ∧ (error = .uniqueViolation →
        ∃ shipment ∈ s.shipments.rows, shipment.simulationId = simulation.simulation.id)
  | ⟨_, answer⟩ => ∀ error, answer = .error error →
      error ≠ shipmentExists ∧ error ≠ .uniqueViolation

theorem refusedForShipment_keep (P : Platform) (c : freightInterface.Command) (input : Input)
    {s : Store} {e : Event freightInterface} (h : RefusedForShipment s e) :
    RefusedForShipment (execute P c input s).2 e := by
  obtain ⟨c' | c', answer⟩ := e
  · cases c' <;> exact h
  · cases c' with
    | storeShipment tenantId actorId simulation selected =>
        intro error herror
        obtain ⟨hne, hexists⟩ := h error herror
        refine ⟨hne, fun hunique => ?_⟩
        obtain ⟨shipment, hshipment, hof⟩ := hexists hunique
        exact ⟨shipment, shipment_execute P c input hshipment, hof⟩
    | _ => exact h

/-- The shipment that refuses a sound transaction with a code of its own is of its
simulation. -/
theorem exists_shipment_of_taken (P : Platform) {s : Store} {input : Input} {tenantId actorId : Id}
    {simulation : LoadedSimulation} {selected : FreightSimulationOption} (hs : Consistent s)
    (hsound : Sound s (.inr (.storeShipment tenantId actorId simulation selected)))
    (hown : OwnCode P s (.inr (.storeShipment tenantId actorId simulation selected)) input)
    (hfault : input.fault = false)
    (htaken : s.shipments.tryInsert (shipmentRow P input tenantId actorId simulation selected) =
      none) :
    ∃ shipment ∈ s.shipments.rows, shipment.simulationId = simulation.simulation.id := by
  by_contra hnone
  push Not at hnone
  have hfree : ∀ shipment ∈ s.shipments.rows,
      ¬Collides (shipmentRow P input tenantId actorId simulation selected) shipment := by
    rintro shipment hshipment (hid | hsim | hopt | ⟨htenant, hcode⟩)
    · exact (hown hfault shipment hshipment).1 hid.symm
    · exact hnone shipment hshipment hsim.symm
    · obtain ⟨hstored, -, hmem, -⟩ := hsound
      obtain ⟨hof, row, hrow, hsame⟩ := hstored.options selected hmem
      have hshipped := simulationId_of_selectedOptionId hs hrow hshipment
        (hopt.symm.trans hsame.id_eq.symm)
      exact hnone shipment hshipment (hshipped.trans (hsame.simulationId_eq.trans hof))
    · exact hnone shipment hshipment ((hown hfault shipment hshipment).2 htenant.symm hcode.symm)
  obtain ⟨shipments, hshipments⟩ := (tryInsert_shipment_iff s _).mpr hfree
  rw [htaken] at hshipments
  cases hshipments

theorem error_of_fault (P : Platform) {c : ShippingCommand} {input : Input} {s : Store}
    {error : ServiceError} (hfault : input.fault = true)
    (h : (execute P (.inr c) input s).1 = .error error) : error = .fault := by
  have hrun : execute P (.inr c) input s = (.error .fault, s) := by
    simp [execute, Backend.extend, executeShipping, hfault]
  rw [hrun] at h
  exact (Except.error.inj h).symm

theorem error_of_quoting (P : Platform) {c : Quoting.Command}
    (hc : ∀ tenantId actorId data, c ≠ .storeSimulation tenantId actorId data) {input : Input}
    {s : Store} {error : ServiceError} (h : (execute P (.inl c) input s).1 = .error error) :
    error = .fault := by
  change (Quoting.execute P c input s).1 = .error error at h
  cases c with
  | now => cases h
  | storeSimulation tenantId actorId data => exact absurd rfl (hc tenantId actorId data)
  | _ =>
      by_cases hf : input.fault = true
      · rw [Quoting.execute, if_pos hf] at h
        exact (Except.error.inj h).symm
      · rw [Quoting.execute, if_neg hf] at h
        cases h

theorem refusedForShipment_execute (P : Platform) (c : freightInterface.Command) (input : Input)
    {s : Store} (hs : Consistent s) (hsound : Sound s c) (hown : OwnCode P s c input) :
    RefusedForShipment (execute P c input s).2 ⟨c, (execute P c input s).1⟩ := by
  rcases c with c | c
  · cases c with
    | storeSimulation tenantId actorId data => trivial
    | _ =>
        intro error herror
        obtain rfl := error_of_quoting P (by simp) herror
        simp [shipmentExists]
  · by_cases hfault : input.fault = true
    · cases c with
      | storeShipment tenantId actorId simulation selected =>
          intro error herror
          obtain rfl := error_of_fault P hfault herror
          exact ⟨by simp [shipmentExists], fun h => by cases h⟩
      | _ =>
          intro error herror
          obtain rfl := error_of_fault P hfault herror
          simp [shipmentExists]
    · rw [Bool.not_eq_true] at hfault
      rw [execute_of_no_fault P hfault]
      cases c with
      | selectOption simulationId tenantId optionId =>
          intro error herror
          obtain h | ⟨h, -⟩ := selectOptionRows_cases s input.now simulationId tenantId optionId
          · rw [answer, h] at herror
            obtain rfl := Except.error.inj herror
            simp [shipmentExists]
          · rw [answer, h] at herror
            cases herror
      | storeShipment tenantId actorId simulation selected =>
          intro error herror
          cases hinsert : s.shipments.tryInsert
              (shipmentRow P input tenantId actorId simulation selected) with
          | none =>
              have h := storeShipmentRows_of_taken P hinsert
              rw [answer, h] at herror ⊢
              obtain rfl := Except.error.inj herror
              exact ⟨by simp [shipmentExists], fun _ =>
                exists_shipment_of_taken P hs hsound hown hfault hinsert⟩
          | some shipments =>
              obtain ⟨s', h, -⟩ := storeShipmentRows_of_free P hinsert
              rw [answer, h] at herror
              cases herror
      | _ =>
          intro error herror
          cases herror

/-- A call that answers with the conflict has met a shipment of its simulation. -/
theorem exists_shipment_of_refused {c : FreightConfig} (hc : Informed c)
    (hrefused : c.Knowing RefusedForShipment) {t : Thread freightInterface Request Reply}
    (ht : t ∈ c.threads) {tenantId actorId simulationId : Id}
    (hrequest : t.request = .createShipment tenantId actorId simulationId)
    (herror : t.program.error? = some shipmentExists) :
    ∃ shipment ∈ c.store.shipments.rows, shipment.simulationId = simulationId := by
  have hobeys := hc.obeying t ht
  rw [Program.error?_eq_some_iff.mp herror] at hobeys
  obtain ⟨cmd, error, hreads, hmem, hraised⟩ :=
    (hobeys.refused tenantId actorId simulationId hrequest shipmentExists rfl).refused rfl
  have hknown := hrefused t ht _ hmem
  rcases cmd with cmd | cmd
  · cases cmd with
    | storeSimulation tenantId' actorId' data =>
        obtain ⟨_, _, _, hcreate⟩ := hreads
        rw [hrequest] at hcreate
        cases hcreate
    | _ =>
        obtain ⟨hexists, hunique⟩ := hknown error rfl
        exact (hraised.elim hunique hexists).elim
  · cases cmd with
    | storeShipment tenantId' actorId' simulation selected =>
        obtain ⟨hexists, hunique⟩ := hknown error rfl
        obtain ⟨shipment, hshipment, hof⟩ := hunique (hraised.resolve_right hexists)
        obtain ⟨_, simulationId', hcreate, hload, -⟩ := hreads
        rw [hrequest] at hcreate
        obtain ⟨rfl, rfl, rfl⟩ := Request.createShipment.inj hcreate
        obtain ⟨hloaded, -⟩ := hc.knowing t ht _ hload simulation rfl
        exact ⟨shipment, hshipment, hof.trans hloaded⟩
    | _ =>
        obtain ⟨hexists, hunique⟩ := hknown error rfl
        exact (hraised.elim hunique hexists).elim

/-- On every reachable store, a simulation of a tenant with a selected option and no
shipment becomes a shipment by a call run alone exactly when its tracking code is
free in the tenant, and is refused as if it had one exactly when it is not. And
in every run in which shipments are stored under codes of their own, a call is
refused only for a shipment of its simulation. -/
theorem createShipment_iff_code_free (P : Platform) (s : Store) (hs : Consistent s)
    (acts : List FreightAction) :
    (∀ s' : Store, s' = ((freightSystem P).runActions (Config.initial s) acts).store →
      ∀ simulation ∈ s'.freightSimulations.rows, HasSelected s' simulation.id →
      (∀ shipment ∈ s'.shipments.rows, shipment.simulationId ≠ simulation.id) →
      ∀ (actorId : Id) (ω : ℕ → Input), (∀ n, (ω n).fault = false) →
      (∀ n, ∀ shipment ∈ s'.shipments.rows, shipment.id ≠ (ω n).ids 0) →
      ((∃ view s'',
        (createShipment simulation.tenantId actorId simulation.id).run (execute P) ω s' =
          (.ok view, s'') ∧
        ∃ shipment ∈ s''.shipments.rows,
          shipment.simulationId = simulation.id ∧ shipment.id = view.id) ↔
        CodeFree P s' simulation) ∧
      (((createShipment simulation.tenantId actorId simulation.id).run (execute P) ω s').1 =
          .error shipmentExists ↔ ¬CodeFree P s' simulation)) ∧
    ((freightSystem P).AlongActions (CallCondition (OwnCode P)) (Config.initial s) acts →
      ∀ t ∈ ((freightSystem P).runActions (Config.initial s) acts).threads,
        ∀ tenantId actorId simulationId,
          t.request = .createShipment tenantId actorId simulationId →
          t.program.error? = some shipmentExists →
          ∃ shipment ∈ ((freightSystem P).runActions
              (Config.initial s) acts).store.shipments.rows,
            shipment.simulationId = simulationId) := by
  refine ⟨?_, fun hown t ht tenantId actorId simulationId hrequest herror => ?_⟩
  · rintro s' rfl simulation hsimulation hselected hnone actorId ω hfault hfresh
    obtain ⟨hships, hrefuses⟩ := run_createShipment P (consistent_run P hs acts) hsimulation
      hselected hnone hfault hfresh actorId
    refine ⟨⟨fun hview => ?_, hships⟩, fun hrefused hfree => ?_, hrefuses⟩
    · by_contra htaken
      obtain ⟨view, s'', hrun, -⟩ := hview
      have hrefused := hrefuses htaken
      rw [hrun] at hrefused
      cases hrefused
    · obtain ⟨view, s'', hrun, -⟩ := hships hfree
      rw [hrun] at hrefused
      cases hrefused
  · have hcalls := (freightSystem P).alongActions_callAnd acts _
      ((freightSystem P).store_along (fun _ cmd input hs hsound =>
        consistent_execute P cmd input hs hsound) acts (Config.initial s) hs
        (sound_along P s acts)) hown
    have hrefused := (freightSystem P).knowing_run (K := RefusedForShipment)
      (fun cmd input s hcall => refusedForShipment_execute P cmd input hcall.1.1 hcall.1.2 hcall.2)
      (fun cmd input s e _ h => refusedForShipment_keep P cmd input h) acts _
      (Config.knowing_initial _ s) hcalls
    exact exists_shipment_of_refused (informed_run P s acts) hrefused ht hrequest herror

/-! ## Two simulations with one code -/

def firstId : Id := "3f2504e0-4f89-41d3-9a0c-0305e82c3301"

def secondId : Id := "3f2504e0-7b11-4c2e-8d5f-6a1b2c3d4e5f"

/-- Two simulations, each with a selected option. -/
def twoSimulations : Store :=
  { Store.empty with
    freightSimulations := ⟨[quotedSimulation firstId, quotedSimulation secondId], by decide⟩
    freightSimulationOptions := ⟨[
      quotedOption "7d444840-9dc0-41d1-b245-5ffdce74fad2" firstId 20 true,
      quotedOption "9b2e8c1a-33f0-4d7e-a6b5-0c1d2e3f4a5b" secondId 30 true], by decide⟩ }

def shipFirst : List FreightAction :=
  [.start (.createShipment "tenant" "ana" firstId),
    .step 0 (shippingInput 1 ""), .step 0 (shippingInput 2 ""),
    .step 0 (shippingInput 3 "c56a4180-65aa-42ec-a945-5fd21dec0538")]

def firstShipped : Store :=
  ((freightSystem plainPlatform).runActions (Config.initial twoSimulations) shipFirst).store

def nextShipment (n : ℕ) : Input := shippingInput n "e02fd0e4-00fd-490a-a0f1-3c3b5f6d7e8f"

theorem consistent_twoSimulations : Consistent twoSimulations :=
  ⟨by decide +kernel, by decide +kernel, by simp [twoSimulations, Store.empty, Table.empty]⟩

/-- Before, the second simulation becomes a shipment. -/
theorem createShipment_iff_code_free_second :
    ∃ view s'', (createShipment "tenant" "ana" secondId).run (execute plainPlatform) nextShipment
        twoSimulations = (.ok view, s'') ∧
      ∃ shipment ∈ s''.shipments.rows,
        shipment.simulationId = secondId ∧ shipment.id = view.id :=
  ((createShipment_iff_code_free plainPlatform twoSimulations consistent_twoSimulations []).1
    twoSimulations rfl (quotedSimulation secondId) (by simp [twoSimulations])
    (by decide +kernel) (by simp [twoSimulations, Store.empty, Table.empty]) "ana" nextShipment
    (fun _ => rfl) (by simp [twoSimulations, Store.empty, Table.empty])).1.mpr (by decide +kernel)

/-- Afterwards it is refused, without a shipment of its own. -/
theorem second_simulation_refused :
    Consistent twoSimulations ∧ HasSelected firstShipped secondId ∧
      (∀ shipment ∈ firstShipped.shipments.rows, shipment.simulationId ≠ secondId ∧
        shipment.id ≠ (nextShipment 0).ids 0) ∧
      ((createShipment "tenant" "ana" secondId).run (execute plainPlatform) nextShipment
        firstShipped).1 = .error shipmentExists := by
  have hmem : quotedSimulation secondId ∈ firstShipped.freightSimulations.rows := by
    decide +kernel
  have hselected : HasSelected firstShipped secondId := by decide +kernel
  have hnone : ∀ shipment ∈ firstShipped.shipments.rows, shipment.simulationId ≠ secondId ∧
      shipment.id ≠ (nextShipment 0).ids 0 := by decide +kernel
  have htaken : ¬CodeFree plainPlatform firstShipped (quotedSimulation secondId) := by
    decide +kernel
  have hrun := run_createShipment plainPlatform
    (consistent_run plainPlatform consistent_twoSimulations shipFirst) hmem hselected
    (fun shipment hshipment => (hnone shipment hshipment).1) (ω := nextShipment) (fun _ => rfl)
    (fun _ shipment hshipment => (hnone shipment hshipment).2) "ana"
  exact ⟨consistent_twoSimulations, hselected, hnone, hrun.2 htaken⟩

end Logistics.Shipping
