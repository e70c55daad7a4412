import Logistics.Shipping.Execution

/-!
# What a call has read

Between the reads of a call and its transaction anything may happen to the
simulation, but little can: simulations, addresses and packages are never
changed, options only change their selection, a simulation that has a selected
option keeps having one, and shipments stay. So every transaction of every run
is `Sound`: it is made with what is stored, up to which option is selected.
-/

namespace Logistics.Shipping

open Logistics.Library Logistics.Quoting

abbrev FreightConfig : Type := Config freightInterface Request Reply Store

abbrev FreightAction : Type := Action Request Input

/-- Some option of the simulation is selected. -/
def HasSelected (s : Store) (simulationId : Id) : Prop :=
  ∃ row ∈ s.freightSimulationOptions.rows,
    row.simulationId = simulationId ∧ row.selected = true

instance (s : Store) (simulationId : Id) : Decidable (HasSelected s simulationId) := by
  unfold HasSelected
  infer_instance

/-- What was loaded of a simulation is stored, up to the selection. -/
structure StillStored (s : Store) (simulation : LoadedSimulation) : Prop where
  simulation_mem : simulation.simulation ∈ s.freightSimulations.rows
  addresses : simulation.addresses = s.freightSimulationAddresses.filter fun row =>
    row.simulationId == simulation.simulation.id
  packages : simulation.packages = s.freightSimulationPackages.rows.filter fun row =>
    row.simulationId == simulation.simulation.id
  options : ∀ option ∈ simulation.options, option.simulationId = simulation.simulation.id ∧
    ∃ row ∈ s.freightSimulationOptions.rows, SameOption row option
  selected : ∀ option ∈ simulation.options, option.selected = true →
    HasSelected s simulation.simulation.id

/-- A selection is of an option of its simulation, and a shipment is made of a
stored simulation and one of its options. -/
def Sound (s : Store) : freightInterface.Command → Prop
  | .inr (.selectOption simulationId tenantId optionId) =>
      ∀ row ∈ s.freightSimulationOptions.rows, row.id = optionId →
        row.simulationId = simulationId ∧ row.tenantId = tenantId
  | .inr (.storeShipment tenantId _ simulation selected) =>
      StillStored s simulation ∧ simulation.simulation.tenantId = tenantId ∧
        selected ∈ simulation.options ∧ selected.selected = true
  | _ => True

theorem option_eq_of_id {s : Store} {a b : FreightSimulationOption}
    (ha : a ∈ s.freightSimulationOptions.rows) (hb : b ∈ s.freightSimulationOptions.rows)
    (hid : a.id = b.id) : a = b :=
  s.freightSimulationOptions.eq_of_key ha hb List.mem_cons_self (by simp [hid])

theorem simulation_eq_of_id {s : Store} {a b : FreightSimulation}
    (ha : a ∈ s.freightSimulations.rows) (hb : b ∈ s.freightSimulations.rows)
    (hid : a.id = b.id) : a = b :=
  s.freightSimulations.eq_of_key ha hb List.mem_cons_self (by simp [hid])

/-! ## What calls never undo -/

section Keep

variable (P : Platform) (c : freightInterface.Command) (input : Input) {s : Store}

theorem simulation_execute {row : FreightSimulation} (h : row ∈ s.freightSimulations.rows) :
    row ∈ (execute P c input s).2.freightSimulations.rows := by
  obtain ⟨hsame, -⟩ | ⟨_, _, _, -, hquoted⟩ | ⟨_, _, _, -, -, hselected⟩ |
    ⟨_, _, _, _, -, -, hshipped⟩ := execute_cases P c input s
  · rw [hsame.freightSimulations]
    exact h
  · rw [hquoted.freightSimulations]
    exact List.mem_append_left _ h
  · rw [hselected.freightSimulations]
    exact h
  · rw [hshipped.freightSimulations]
    exact h

/-- The addresses of a stored simulation are those it was stored with. -/
theorem addresses_execute {row : FreightSimulation} (h : row ∈ s.freightSimulations.rows) :
    ((execute P c input s).2.freightSimulationAddresses.filter fun address =>
        address.simulationId == row.id) =
      s.freightSimulationAddresses.filter fun address => address.simulationId == row.id := by
  obtain ⟨hsame, -⟩ | ⟨_, _, _, -, hquoted⟩ | ⟨_, _, _, -, -, hselected⟩ |
    ⟨_, _, _, _, -, -, hshipped⟩ := execute_cases P c input s
  · rw [hsame.freightSimulationAddresses]
  · obtain ⟨rows, hrows, hof⟩ := hquoted.addresses
    rw [hrows]
    apply filter_append_of_false
    intro address haddress
    rw [hof address haddress]
    exact beq_false_of_ne fun hid => hquoted.fresh row h hid.symm
  · rw [hselected.addresses]
  · rw [hshipped.addresses]

theorem packages_execute {row : FreightSimulation} (h : row ∈ s.freightSimulations.rows) :
    ((execute P c input s).2.freightSimulationPackages.rows.filter fun item =>
        item.simulationId == row.id) =
      s.freightSimulationPackages.rows.filter fun item => item.simulationId == row.id := by
  obtain ⟨hsame, -⟩ | ⟨_, _, _, -, hquoted⟩ | ⟨_, _, _, -, -, hselected⟩ |
    ⟨_, _, _, _, -, -, hshipped⟩ := execute_cases P c input s
  · rw [hsame.freightSimulationPackages]
  · obtain ⟨rows, hrows, hof⟩ := hquoted.packages
    rw [hrows]
    apply filter_append_of_false
    intro item hitem
    rw [hof item hitem]
    exact beq_false_of_ne fun hid => hquoted.fresh row h hid.symm
  · rw [hselected.packages]
  · rw [hshipped.packages]

theorem option_execute {row : FreightSimulationOption}
    (h : row ∈ s.freightSimulationOptions.rows) :
    ∃ row' ∈ (execute P c input s).2.freightSimulationOptions.rows, SameOption row' row := by
  obtain ⟨hsame, -⟩ | ⟨_, _, _, -, hquoted⟩ | ⟨_, _, _, -, -, hselected⟩ |
    ⟨_, _, _, _, -, -, hshipped⟩ := execute_cases P c input s
  · exact ⟨row, by rw [hsame.freightSimulationOptions]; exact h, .refl row⟩
  · obtain ⟨rows, hrows, -⟩ := hquoted.options
    exact ⟨row, by rw [hrows]; exact List.mem_append_left _ h, .refl row⟩
  · exact ⟨_, by rw [hselected.options]; exact List.mem_map_of_mem h, sameOption_reselect ..⟩
  · exact ⟨row, by rw [hshipped.options]; exact h, .refl row⟩

theorem shipment_execute {row : Shipment} (h : row ∈ s.shipments.rows) :
    row ∈ (execute P c input s).2.shipments.rows := by
  obtain ⟨hsame, -⟩ | ⟨_, _, _, -, hquoted⟩ | ⟨_, _, _, -, -, hselected⟩ |
    ⟨_, _, _, _, -, -, hshipped⟩ := execute_cases P c input s
  · rw [hsame.shipments]
    exact h
  · rw [hquoted.shipments]
    exact h
  · rw [hselected.shipments]
    exact h
  · rw [hshipped.shipments]
    exact List.mem_append_left _ h

theorem hasSelected_execute {simulationId : Id} (h : HasSelected s simulationId)
    (hsound : Sound s c) : HasSelected (execute P c input s).2 simulationId := by
  obtain ⟨row, hrow, hid, hsel⟩ := h
  obtain ⟨hsame, -⟩ | ⟨_, _, _, -, hquoted⟩ |
      ⟨simulationId', tenantId, optionId, rfl, -, hselected⟩ |
    ⟨_, _, _, _, -, -, hshipped⟩ := execute_cases P c input s
  · exact ⟨row, by rw [hsame.freightSimulationOptions]; exact hrow, hid, hsel⟩
  · obtain ⟨rows, hrows, -⟩ := hquoted.options
    exact ⟨row, by rw [hrows]; exact List.mem_append_left _ hrow, hid, hsel⟩
  · rw [HasSelected, hselected.options]
    by_cases hown : row.simulationId = simulationId' ∧ row.tenantId = tenantId
    · obtain ⟨chosen, hchosen, hchosenId⟩ := hselected.stored
      have hof := hsound chosen hchosen hchosenId
      refine ⟨_, List.mem_map_of_mem hchosen, ?_, reselect_selected.mpr (.inl hchosenId)⟩
      rw [reselect_simulationId, hof.1, ← hown.1, hid]
    · exact ⟨_, List.mem_map_of_mem hrow, by rw [reselect_simulationId, hid],
        reselect_selected.mpr (.inr ⟨hown, hsel⟩)⟩
  · exact ⟨row, by rw [hshipped.options]; exact hrow, hid, hsel⟩

theorem stillStored_execute {simulation : LoadedSimulation} (h : StillStored s simulation)
    (hsound : Sound s c) : StillStored (execute P c input s).2 simulation where
  simulation_mem := simulation_execute P c input h.simulation_mem
  addresses := by rw [addresses_execute P c input h.simulation_mem, ← h.addresses]
  packages := by rw [packages_execute P c input h.simulation_mem, ← h.packages]
  options := by
    intro option hoption
    obtain ⟨hof, row, hrow, hrowSame⟩ := h.options option hoption
    obtain ⟨row', hrow', hsame⟩ := option_execute P c input hrow
    exact ⟨hof, row', hrow', hsame.trans hrowSame⟩
  selected := fun option hoption hsel =>
    hasSelected_execute P c input (h.selected option hoption hsel) hsound

end Keep

/-! ## What the answers say -/

/-- What an answer still says about the store. -/
def Known (s : Store) : Event freightInterface → Prop
  | ⟨.inr (.findOption _ simulationId tenantId), answer⟩ =>
      ∀ option, answer = .ok (some option) →
        option.simulationId = simulationId ∧ option.tenantId = tenantId ∧
          ∃ row ∈ s.freightSimulationOptions.rows, SameOption row option
  | ⟨.inr (.loadSimulation id tenantId), answer⟩ =>
      ∀ simulation, answer = .ok (some simulation) →
        simulation.simulation.id = id ∧ simulation.simulation.tenantId = tenantId ∧
          StillStored s simulation
  | ⟨.inr (.findShipmentOf simulationId), answer⟩ =>
      ∀ shipment, answer = .ok (some shipment) →
        shipment ∈ s.shipments.rows ∧ shipment.simulationId = simulationId
  | ⟨.inr (.storeShipment _ _ simulation _), answer⟩ =>
      ∀ shipment, answer = .ok shipment →
        shipment ∈ s.shipments.rows ∧ shipment.simulationId = simulation.simulation.id
  | ⟨.inr (.findShipment id _), answer⟩ =>
      ∀ shipment, answer = .ok (some shipment) → shipment ∈ s.shipments.rows ∧ shipment.id = id
  | _ => True

theorem execute_inr (P : Platform) {c : ShippingCommand} {input : Input} {s : Store}
    {a : c.Result} (h : (execute P (.inr c) input s).1 = .ok a) :
    execute P (.inr c) input s = answer P c input s := by
  by_cases hf : input.fault = true
  · have hrun : execute P (.inr c) input s = (.error .fault, s) := by
      simp [execute, Backend.extend, executeShipping, hf]
    rw [hrun] at h
    cases h
  · simp [execute, Backend.extend, executeShipping, hf]

theorem stillStored_loadedSimulation {s : Store} {simulation : FreightSimulation}
    (h : simulation ∈ s.freightSimulations.rows) (tie : Id → ℕ) :
    StillStored s (loadedSimulation s tie simulation) where
  simulation_mem := h
  addresses := rfl
  packages := rfl
  options := by
    intro option hoption
    rw [loadedSimulation, List.mem_insertionSort, List.mem_filter, beq_iff_eq] at hoption
    exact ⟨hoption.2, option, hoption.1, .refl option⟩
  selected := by
    intro option hoption hsel
    rw [loadedSimulation, List.mem_insertionSort, List.mem_filter, beq_iff_eq] at hoption
    exact ⟨option, hoption.1, hoption.2, hsel⟩

theorem known_execute (P : Platform) (c : freightInterface.Command) (input : Input) (s : Store) :
    Known (execute P c input s).2 ⟨c, (execute P c input s).1⟩ := by
  cases c with
  | inl c => trivial
  | inr c =>
      cases c with
      | findOption id simulationId tenantId =>
          intro option h
          have hrun := execute_inr P h
          rw [hrun] at h ⊢
          have hfind := Except.ok.inj h
          have hprops := List.find?_some hfind
          simp only [Bool.and_eq_true, beq_iff_eq] at hprops
          exact ⟨hprops.1.2, hprops.2, option, List.mem_of_find?_eq_some hfind, .refl option⟩
      | loadSimulation id tenantId =>
          intro simulation h
          have hrun := execute_inr P h
          rw [hrun] at h ⊢
          obtain ⟨row, hfind, rfl⟩ := Option.map_eq_some_iff.mp (Except.ok.inj h)
          have hprops := List.find?_some hfind
          simp only [Bool.and_eq_true, beq_iff_eq] at hprops
          exact ⟨hprops.1, hprops.2,
            stillStored_loadedSimulation (List.mem_of_find?_eq_some hfind) input.tie⟩
      | findShipmentOf simulationId =>
          intro shipment h
          have hrun := execute_inr P h
          rw [hrun] at h ⊢
          have hfind := Except.ok.inj h
          exact ⟨List.mem_of_find?_eq_some hfind, by simpa using List.find?_some hfind⟩
      | findShipment id tenantId =>
          intro shipment h
          have hrun := execute_inr P h
          rw [hrun] at h ⊢
          have hfind := Except.ok.inj h
          have hprops := List.find?_some hfind
          simp only [Bool.and_eq_true, beq_iff_eq] at hprops
          exact ⟨List.mem_of_find?_eq_some hfind, hprops.1⟩
      | storeShipment tenantId actorId simulation selected =>
          intro shipment h
          obtain ⟨-, hfails⟩ | ⟨_, _, _, hc, -⟩ | ⟨_, _, _, hc, -, -⟩ |
            ⟨tenantId', actorId', simulation', selected', hc, hok, hshipped⟩ :=
            execute_cases P (.inr (.storeShipment tenantId actorId simulation selected)) input s
          · obtain ⟨error, herror⟩ := hfails _ _ _ _ rfl
            rw [herror] at h
            cases h
          · cases hc
          · cases hc
          · cases hc
            rw [hok] at h
            obtain rfl := Except.ok.inj h
            exact ⟨by rw [hshipped.shipments]; exact List.mem_append_right _ List.mem_cons_self,
              rfl⟩
      | _ => trivial

theorem known_keep (P : Platform) (c : freightInterface.Command) (input : Input) (s : Store)
    (e : Event freightInterface) (hsound : Sound s c) (h : Known s e) :
    Known (execute P c input s).2 e := by
  obtain ⟨c' | c', answer⟩ := e
  · trivial
  · cases c' with
    | findOption id simulationId tenantId =>
        intro option hanswer
        obtain ⟨hsimulation, htenant, row, hrow, hrowSame⟩ := h option hanswer
        obtain ⟨row', hrow', hsame⟩ := option_execute P c input hrow
        exact ⟨hsimulation, htenant, row', hrow', hsame.trans hrowSame⟩
    | loadSimulation id tenantId =>
        intro simulation hanswer
        obtain ⟨hid, htenant, hstored⟩ := h simulation hanswer
        exact ⟨hid, htenant, stillStored_execute P c input hstored hsound⟩
    | findShipmentOf simulationId =>
        intro shipment hanswer
        exact ⟨shipment_execute P c input (h shipment hanswer).1, (h shipment hanswer).2⟩
    | findShipment id tenantId =>
        intro shipment hanswer
        exact ⟨shipment_execute P c input (h shipment hanswer).1, (h shipment hanswer).2⟩
    | storeShipment tenantId actorId simulation selected =>
        intro shipment hanswer
        exact ⟨shipment_execute P c input (h shipment hanswer).1, (h shipment hanswer).2⟩
    | _ => trivial

/-! ## What one program does with its answers -/

/-- The transactions of a request are its own, made with what it has read. -/
def FromReads (r : Request) (h : List (Event freightInterface)) :
    freightInterface.Command → Prop
  | .inl (.storeSimulation ..) => ∃ tenantId actorId input, r = .create tenantId actorId input
  | .inr (.selectOption simulationId tenantId optionId) => ∃ id option, optionId = option.id ∧
      (⟨.inr (.findOption id simulationId tenantId), .ok (some option)⟩ :
        Event freightInterface) ∈ h
  | .inr (.storeShipment tenantId _ simulation selected) => ∃ actorId simulationId,
      r = .createShipment tenantId actorId simulationId ∧
      (⟨.inr (.loadSimulation simulationId tenantId), .ok (some simulation)⟩ :
        Event freightInterface) ∈ h ∧
      simulation.options.find? (fun option => option.selected) = some selected
  | _ => True

theorem FromReads.mono {r : Request} {h h' : List (Event freightInterface)} (hsub : h ⊆ h')
    {c : freightInterface.Command} (hc : FromReads r h c) : FromReads r h' c := by
  rcases c with c | c
  · cases c <;> exact hc
  · cases c with
    | selectOption simulationId tenantId optionId =>
        obtain ⟨id, option, hid, hmem⟩ := hc
        exact ⟨id, option, hid, hsub hmem⟩
    | storeShipment tenantId actorId simulation selected =>
        obtain ⟨actorId', simulationId, hr, hmem, hfind⟩ := hc
        exact ⟨actorId', simulationId, hr, hsub hmem, hfind⟩
    | _ => trivial

/-- The call has learnt of this shipment of the simulation: it was found, or
stored by the call itself. -/
def Learnt (simulationId : Id) (shipment : Shipment) (h : List (Event freightInterface)) : Prop :=
  (⟨.inr (.findShipmentOf simulationId), .ok (some shipment)⟩ : Event freightInterface) ∈ h ∨
    ∃ tenantId actorId simulation selected,
      (⟨.inr (.loadSimulation simulationId tenantId), .ok (some simulation)⟩ :
        Event freightInterface) ∈ h ∧
      (⟨.inr (.storeShipment tenantId actorId simulation selected), .ok shipment⟩ :
        Event freightInterface) ∈ h

/-- A shipment that is answered is the one learnt of. -/
def Presented (r : Request) (h : List (Event freightInterface))
    (outcome : Except ServiceError ShipmentView) : Prop :=
  ∀ view, outcome = .ok view →
    ∃ tenantId actorId simulationId, r = .createShipment tenantId actorId simulationId ∧
      ∃ shipment row, Learnt simulationId shipment h ∧
        (⟨.inr (.findShipment shipment.id tenantId), .ok (some row)⟩ :
          Event freightInterface) ∈ h ∧ view.id = row.id

/-- Inside the guarded part, the errors that become or look like a conflict were
raised by a call. -/
structure Raised (r : Request) (h : List (Event freightInterface))
    (outcome : Except ServiceError ShipmentView) : Prop where
  presented : Presented r h outcome
  raised : ∀ error, outcome = .error error → error = .uniqueViolation ∨ error = shipmentExists →
    ∃ c, FromReads r h c ∧ (⟨c, .error error⟩ : Event freightInterface) ∈ h

/-- A conflict was raised by a unique key, or by a call. -/
structure Returned (r : Request) (h : List (Event freightInterface))
    (outcome : Except ServiceError ShipmentView) : Prop where
  presented : Presented r h outcome
  refused : outcome = .error shipmentExists → ∃ c error, FromReads r h c ∧
    (⟨c, .error error⟩ : Event freightInterface) ∈ h ∧
      (error = .uniqueViolation ∨ error = shipmentExists)

theorem Raised.returned {r : Request} {h : List (Event freightInterface)}
    {outcome : Except ServiceError ShipmentView} (hraised : Raised r h outcome) :
    Returned r h outcome where
  presented := hraised.presented
  refused := by
    intro houtcome
    obtain ⟨c, hc, hmem⟩ := hraised.raised shipmentExists houtcome (.inr rfl)
    exact ⟨c, shipmentExists, hc, hmem, .inr rfl⟩

theorem raised_of_failed {r : Request} {h : List (Event freightInterface)}
    {c : freightInterface.Command} (hc : FromReads r h c) (error : ServiceError) :
    Raised r (h ++ [⟨c, .error error⟩]) (.error error) where
  presented := fun view hview => by cases hview
  raised := by
    intro error' herror _
    obtain rfl := Except.error.inj herror
    exact ⟨c, hc.mono (List.subset_append_left ..), by simp⟩

theorem raised_of_error {r : Request} {h : List (Event freightInterface)} {error : ServiceError}
    (hunique : error ≠ .uniqueViolation) (hexists : error ≠ shipmentExists) :
    Raised r h (.error error) where
  presented := fun view hview => by cases hview
  raised := by
    intro error' herror hor
    obtain rfl := Except.error.inj herror
    exact (hor.elim hunique hexists).elim

theorem Learnt.mono {simulationId : Id} {shipment : Shipment}
    {h h' : List (Event freightInterface)} (hsub : h ⊆ h')
    (hlearnt : Learnt simulationId shipment h) : Learnt simulationId shipment h' := by
  obtain hfound | ⟨tenantId, actorId, simulation, selected, hload, hstore⟩ := hlearnt
  · exact .inl (hsub hfound)
  · exact .inr ⟨tenantId, actorId, simulation, selected, hsub hload, hsub hstore⟩

theorem presentShipment_obeys {tenantId actorId simulationId : Id} {shipment : Shipment}
    {h : List (Event freightInterface)} (hlearnt : Learnt simulationId shipment h) :
    (presentShipment shipment.id tenantId).Obeys
      (FromReads (.createShipment tenantId actorId simulationId))
      (Raised (.createShipment tenantId actorId simulationId)) h := by
  unfold presentShipment
  refine Program.Obeys.perform_bind trivial ?_ (raised_of_failed (by trivial))
  intro found
  cases found with
  | none => exact raised_of_error (by simp) (by simp [shipmentExists])
  | some row =>
      refine Program.Obeys.perform_bind trivial ?_ (raised_of_failed (by trivial))
      intro names
      refine ⟨fun view hview => ?_, fun error herror => by cases herror⟩
      obtain rfl := Except.ok.inj hview
      refine ⟨tenantId, actorId, simulationId, rfl, shipment, row, ?_, by simp, rfl⟩
      exact hlearnt.mono fun e he => by simp [he]

theorem shipSelected_obeys {tenantId actorId simulationId : Id} {simulation : LoadedSimulation}
    {selected : FreightSimulationOption} {h : List (Event freightInterface)}
    (hload : (⟨.inr (.loadSimulation simulationId tenantId), .ok (some simulation)⟩ :
      Event freightInterface) ∈ h)
    (hfind : simulation.options.find? (fun option => option.selected) = some selected) :
    (shipSelected tenantId actorId simulationId simulation selected).Obeys
      (FromReads (.createShipment tenantId actorId simulationId))
      (Raised (.createShipment tenantId actorId simulationId)) h := by
  unfold shipSelected
  have hreads : FromReads (.createShipment tenantId actorId simulationId) h
      (.inr (.storeShipment tenantId actorId simulation selected)) :=
    ⟨actorId, simulationId, rfl, hload, hfind⟩
  refine Program.Obeys.perform_bind hreads ?_ (raised_of_failed hreads)
  intro shipment
  refine Program.Obeys.perform_bind trivial ?_ (raised_of_failed (by trivial))
  intro _
  refine Program.Obeys.perform_bind trivial ?_ (raised_of_failed (by trivial))
  intro _
  have hstored : (⟨.inr (.loadSimulation simulationId tenantId), .ok (some simulation)⟩ :
      Event freightInterface) ∈ h ++ [⟨.inr (.storeShipment tenantId actorId simulation selected),
        .ok shipment⟩] := List.mem_append_left _ hload
  have hlearnt : Learnt simulationId shipment (h ++
      [⟨.inr (.storeShipment tenantId actorId simulation selected), .ok shipment⟩]) :=
    .inr ⟨tenantId, actorId, simulation, selected, hstored, by simp⟩
  exact presentShipment_obeys (hlearnt.mono fun e he => by
    rw [List.append_assoc]
    exact List.mem_append_left _ he)

theorem createShipment_obeys (tenantId actorId simulationId : Id) :
    (createShipment tenantId actorId simulationId).Obeys
      (FromReads (.createShipment tenantId actorId simulationId))
      (Returned (.createShipment tenantId actorId simulationId)) [] := by
  unfold createShipment
  refine Program.Obeys.perform_bind trivial ?_
    fun error => (raised_of_failed (by trivial) error).returned
  intro found
  cases found with
  | none => exact (raised_of_error (by simp) (by simp [shipmentExists])).returned
  | some simulation =>
      dsimp only
      cases hfind : simulation.options.find? (fun option => option.selected) with
      | none => exact (raised_of_error (by simp) (by simp [shipmentExists])).returned
      | some selected =>
          refine Program.Obeys.perform_bind trivial ?_
            fun error => (raised_of_failed (by trivial) error).returned
          intro existing
          cases existing with
          | some existing =>
              exact (presentShipment_obeys (.inl (by simp))).mono (fun _ _ hc => hc)
                fun _ _ hraised => hraised.returned
          | none =>
              refine Program.Obeys.tryCatch (shipSelected_obeys (by simp) hfind)
                (fun h' view hraised => hraised.returned) ?_
              intro h' error hraised
              split
              · next hunique =>
                obtain ⟨c, hc, hmem⟩ := hraised.raised error rfl (.inl hunique)
                refine ⟨fun view hview => ?_, fun _ => ⟨c, error, hc, hmem, .inl hunique⟩⟩
                cases hview
              · refine ⟨fun view hview => (by cases hview), fun houtcome => ?_⟩
                have hexists := Except.error.inj houtcome
                obtain ⟨c, hc, hmem⟩ := hraised.raised error rfl (.inr hexists)
                exact ⟨c, error, hc, hmem, .inr hexists⟩

/-- What is known of the outcome of a request. -/
structure Answered (r : Request) (h : List (Event freightInterface))
    (outcome : Except ServiceError Reply) : Prop where
  presented : ∀ view, outcome = .ok (.shipment view) → Presented r h (.ok view)
  refused : ∀ tenantId actorId simulationId, r = .createShipment tenantId actorId simulationId →
    ∀ error, outcome = .error error → Returned r h (.error error)

theorem answered_simulation {r : Request}
    (hr : ∀ tenantId actorId simulationId, r ≠ .createShipment tenantId actorId simulationId)
    {p : Program freightInterface SimulationView} {h : List (Event freightInterface)}
    (hp : p.Obeys (FromReads r) (fun _ _ => True) h) :
    (Reply.simulation <$> p).Obeys (FromReads r) (Answered r) h := by
  refine hp.map (fun h' view _ => ?_) fun h' error _ => ?_
  · exact ⟨fun view' hview => (by cases hview), fun _ _ _ hr' => absurd hr' (hr _ _ _)⟩
  · exact ⟨fun view' hview => (by cases hview), fun _ _ _ hr' => absurd hr' (hr _ _ _)⟩

theorem selectOption_obeys (r : Request) (tenantId actorId simulationId optionId : Id) :
    (selectOption tenantId actorId simulationId optionId).Obeys (FromReads r)
      (fun _ _ => True) [] := by
  unfold selectOption
  refine Program.Obeys.perform_bind trivial ?_ fun _ => trivial
  intro found
  cases found with
  | none => trivial
  | some option =>
      refine Program.Obeys.perform_bind ⟨optionId, option, rfl, by simp⟩ ?_ fun _ => trivial
      intro _
      refine Program.Obeys.perform_bind trivial ?_ fun _ => trivial
      intro _
      refine Program.Obeys.perform_bind trivial ?_ fun _ => trivial
      intro _
      have hget : (Quoting.get tenantId simulationId).Issues fun c =>
          c = Quoting.Command.findSimulation simulationId tenantId := by
        simp only [Quoting.get, Program.issues_perform_bind_iff, true_and]
        rintro (_ | record) <;> trivial
      apply (Program.issues_lift hget).obeys_each
      rintro _ ⟨c, rfl, rfl⟩ h
      trivial

theorem handle_obeys (P : Platform) (r : Request) :
    (handle P r).Obeys (FromReads r) (Answered r) [] := by
  cases r with
  | create tenantId actorId input =>
      refine answered_simulation (by simp) ((Program.issues_lift (Program.issues_true
        (Quoting.create P tenantId actorId input))).obeys_each ?_ [])
      rintro _ ⟨c, rfl, -⟩ h
      cases c with
      | storeSimulation => exact ⟨tenantId, actorId, input, rfl⟩
      | _ => trivial
  | selectOption tenantId actorId simulationId optionId =>
      exact answered_simulation (by simp)
        (selectOption_obeys _ tenantId actorId simulationId optionId)
  | createShipment tenantId actorId simulationId =>
      refine (createShipment_obeys tenantId actorId simulationId).map ?_ ?_
      · intro h view hview
        refine ⟨fun view' hview' => ?_, fun _ _ _ _ error herror => by cases herror⟩
        obtain rfl := Reply.shipment.inj (Except.ok.inj hview')
        exact hview.presented
      · intro h error herror
        refine ⟨fun view hview => (by cases hview), fun _ _ _ _ error' herror' => ?_⟩
        obtain rfl := Except.error.inj herror'
        exact herror

/-! ## Runs -/

/-- What holds of every configuration of every run. -/
structure Informed (c : FreightConfig) : Prop where
  obeying : c.Obeying FromReads Answered
  knowing : c.Knowing Known

theorem informed_initial (s : Store) : Informed (Config.initial s : FreightConfig) :=
  ⟨Config.obeying_initial _ _ s, Config.knowing_initial _ s⟩

/-- A call made with what was read is sound as long as what was read is known. -/
theorem sound_of_fromReads {r : Request} {h : List (Event freightInterface)}
    {c : freightInterface.Command} {s : Store} (hreads : FromReads r h c)
    (hknown : ∀ e ∈ h, Known s e) : Sound s c := by
  rcases c with c | c
  · trivial
  · cases c with
    | selectOption simulationId tenantId optionId =>
        obtain ⟨id, option, rfl, hmem⟩ := hreads
        obtain ⟨hsimulation, htenant, stored, hstored, hsame⟩ := hknown _ hmem option rfl
        intro row hrow hid
        obtain rfl := option_eq_of_id hrow hstored (hid.trans hsame.id_eq.symm)
        exact ⟨hsame.simulationId_eq.trans hsimulation, hsame.tenantId_eq.trans htenant⟩
    | storeShipment tenantId actorId simulation selected =>
        obtain ⟨_, simulationId, -, hmem, hfind⟩ := hreads
        obtain ⟨-, htenant, hstored⟩ := hknown _ hmem simulation rfl
        exact ⟨hstored, htenant, List.mem_of_find?_eq_some hfind, List.find?_some hfind⟩
    | _ => trivial

theorem sound_call (P : Platform) {c : FreightConfig} (hc : Informed c) (a : FreightAction) :
    CallCondition (fun s cmd _ => Sound s cmd) c a := by
  obtain ⟨r, rfl, -⟩ | ⟨i, input, r, h, cmd, k, rfl, hi, hcall, -⟩ | ⟨-, hcall⟩ :=
    (freightSystem P).next_cases c a
  · trivial
  · rw [CallCondition, hcall]
    exact sound_of_fromReads (Config.obeying_call hc.obeying hi)
      (hc.knowing _ (List.mem_of_getElem? hi))
  · rw [CallCondition, hcall]
    trivial

theorem informed_next {P : Platform} {c : FreightConfig} (hc : Informed c)
    (a : FreightAction) : Informed ((freightSystem P).next c a) where
  obeying := (freightSystem P).obeying_next (handle_obeys P) c a hc.obeying
  knowing := (freightSystem P).knowing_next (fun cmd input s _ => known_execute P cmd input s)
    (fun cmd input s e hsound h => known_keep P cmd input s e hsound h) c a hc.knowing
    (sound_call P hc a)

theorem informed_run (P : Platform) (s : Store) (acts : List FreightAction) :
    Informed ((freightSystem P).runActions (Config.initial s) acts) :=
  (freightSystem P).run_invariant (J := Informed) (fun _ a hc _ => informed_next hc a) acts _
    (informed_initial s) ((freightSystem P).alongActions_true acts _)

/-- Every transaction of every run is sound. -/
theorem sound_along (P : Platform) (s : Store) (acts : List FreightAction) :
    (freightSystem P).AlongActions (CallCondition fun s cmd _ => Sound s cmd)
      (Config.initial s) acts :=
  (freightSystem P).along_of_invariant (J := Informed) (P := fun _ _ => True)
    (fun _ a hc _ => informed_next hc a) (fun _ a hc _ => sound_call P hc a) acts _
      (informed_initial s)
    ((freightSystem P).alongActions_true acts _)

end Logistics.Shipping
