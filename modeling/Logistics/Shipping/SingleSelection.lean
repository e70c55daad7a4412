import Logistics.Shipping.Selection

/-!
# One selected option

A selection first clears the options of its simulation and then marks the chosen
one, in one transaction. The option was looked up before, under the same
simulation and tenant, and neither of these ever changes. So however many
selections run at once, a simulation has at most one selected option, one from
the first selection that commits, and the options of other simulations stay as
they are.
-/

namespace Logistics.Shipping

open Logistics.Library Logistics.Quoting

/-- Options belong to a simulation of their tenant, at most one option of a
simulation is selected, and an option has a time of selection exactly when it is
selected. -/
structure ProperlySelected (s : Store) : Prop where
  belong : ∀ row ∈ s.freightSimulationOptions.rows, ∃ simulation ∈ s.freightSimulations.rows,
    simulation.id = row.simulationId ∧ simulation.tenantId = row.tenantId
  unique : ∀ a ∈ s.freightSimulationOptions.rows, ∀ b ∈ s.freightSimulationOptions.rows,
    a.simulationId = b.simulationId → a.selected = true → b.selected = true → a = b
  dated : ∀ row ∈ s.freightSimulationOptions.rows, row.selectedAt.isSome = row.selected

def optionsOf (s : Store) (simulationId : Id) : List FreightSimulationOption :=
  s.freightSimulationOptions.rows.filter fun row => row.simulationId == simulationId

/-! ## What the calls keep -/

theorem reselect_dated {now : Time} {simulationId tenantId optionId : Id}
    {row : FreightSimulationOption} (h : row.selectedAt.isSome = row.selected) :
    (reselect now simulationId tenantId optionId row).selectedAt.isSome =
      (reselect now simulationId tenantId optionId row).selected := by
  unfold reselect
  split
  · rfl
  · split
    · rfl
    · exact h

theorem dated_storeSimulation {P : Platform} {s : Store} {input : Input} {tenantId actorId : Id}
    {data : SimulationData}
    (h : ∀ row ∈ s.freightSimulationOptions.rows, row.selectedAt.isSome = row.selected) :
    ∀ row ∈ (storeSimulation P s input tenantId actorId data).2.freightSimulationOptions.rows,
      row.selectedAt.isSome = row.selected := by
  intro row hrow
  unfold storeSimulation at hrow
  dsimp only at hrow
  split at hrow
  · exact h row hrow
  split at hrow
  · exact h row hrow
  · split at hrow
    · next simulations packages options _ _ hoptions =>
      change row ∈ options.rows at hrow
      rw [Table.tryInsertAll_rows hoptions] at hrow
      rcases List.mem_append.mp hrow with hrow | hrow
      · exact h row hrow
      · obtain ⟨n, hn, rfl⟩ := List.mem_mapIdx.mp hrow
        rfl
    · exact h row hrow

section Execute

variable (P : Platform) (c : freightInterface.Command) (input : Input) {s : Store}

theorem dated_execute
    (h : ∀ row ∈ s.freightSimulationOptions.rows, row.selectedAt.isSome = row.selected) :
    ∀ row ∈ (execute P c input s).2.freightSimulationOptions.rows,
      row.selectedAt.isSome = row.selected := by
  obtain ⟨hsame, -⟩ | ⟨tenantId, actorId, data, rfl, -⟩ | ⟨_, _, _, -, -, hselected⟩ |
    ⟨_, _, _, _, -, -, hshipped⟩ := execute_cases P c input s
  · rw [hsame.freightSimulationOptions]
    exact h
  · change ∀ row ∈ (Quoting.execute P (.storeSimulation tenantId actorId data) input
      s).2.freightSimulationOptions.rows, _
    by_cases hf : input.fault = true
    · rw [Quoting.execute, if_pos hf]
      exact h
    · rw [Quoting.execute, if_neg hf]
      exact dated_storeSimulation h
  · intro row hrow
    rw [hselected.options] at hrow
    obtain ⟨old, hold, rfl⟩ := List.mem_map.mp hrow
    exact reselect_dated (h old hold)
  · rw [hshipped.options]
    exact h

theorem properlySelected_execute (hs : ProperlySelected s) (hsound : Sound s c) :
    ProperlySelected (execute P c input s).2 where
  belong := belong_execute P c input hs.belong
  unique := unique_execute P c input hs.belong hs.unique hsound
  dated := dated_execute P c input hs.dated

end Execute

/-- A selection that has succeeded leaves an option of its simulation selected. -/
def SelectionKnown (s : Store) (e : Event freightInterface) : Prop :=
  ∀ simulationId tenantId optionId, e.1 = .inr (.selectOption simulationId tenantId optionId) →
    e.2.isOk = true → HasSelected s simulationId

theorem selectionKnown_execute (P : Platform) (c : freightInterface.Command) (input : Input)
    (s : Store) (hsound : Sound s c) :
    SelectionKnown (execute P c input s).2 ⟨c, (execute P c input s).1⟩ := by
  rintro simulationId tenantId optionId rfl hok
  by_cases hf : input.fault = true
  · have hrun : execute P (.inr (.selectOption simulationId tenantId optionId)) input s =
        (.error .fault, s) := by
      simp [execute, Backend.extend, executeShipping, hf]
    rw [hrun] at hok
    cases hok
  · have hrun : execute P (.inr (.selectOption simulationId tenantId optionId)) input s =
        selectOptionRows s input.now simulationId tenantId optionId := by
      simp [execute, Backend.extend, executeShipping, hf, answer]
    rcases selectOptionRows_cases s input.now simulationId tenantId optionId with
      hmissing | ⟨-, hselected⟩
    · rw [hrun, hmissing] at hok
      cases hok
    · obtain ⟨row, hrow, hid⟩ := hselected.stored
      refine ⟨reselect input.now simulationId tenantId optionId row, ?_, ?_, ?_⟩
      · rw [hrun, hselected.options]
        exact List.mem_map_of_mem hrow
      · rw [reselect_simulationId]
        exact (hsound row hrow hid).1
      · exact reselect_selected.mpr (.inl hid)

theorem selectionKnown_keep (P : Platform) (c : freightInterface.Command) (input : Input)
    (s : Store) (e : Event freightInterface) (hsound : Sound s c) (h : SelectionKnown s e) :
    SelectionKnown (execute P c input s).2 e := by
  intro simulationId tenantId optionId he hok
  exact hasSelected_execute P c input (h simulationId tenantId optionId he hok) hsound

/-! ## The options of other simulations -/

/-- The request neither quotes nor selects an option of this simulation. -/
def LeavesAlone (simulationId : Id) : Request → Prop
  | .create .. => False
  | .selectOption _ _ selectedIn _ => selectedIn ≠ simulationId
  | .createShipment .. => True

/-- The call neither stores a quote nor selects an option of this simulation. -/
def Spares (simulationId : Id) : freightInterface.Command → Prop
  | .inl (.storeSimulation ..) => False
  | .inr (.selectOption selectedIn _ _) => selectedIn ≠ simulationId
  | _ => True

theorem spares_presentShipment (simulationId shipmentId tenantId : Id) :
    (presentShipment shipmentId tenantId).Issues (Spares simulationId) := by
  unfold presentShipment
  apply (Program.Issues.perform trivial).bind
  intro found
  cases found with
  | none => trivial
  | some shipment => exact (Program.Issues.perform trivial).bind fun _ => trivial

theorem spares_shipSelected (x tenantId actorId simulationId : Id)
    (simulation : LoadedSimulation) (selected : FreightSimulationOption) :
    (shipSelected tenantId actorId simulationId simulation selected).Issues (Spares x) := by
  unfold shipSelected
  apply (Program.Issues.perform trivial).bind
  intro shipment
  apply (Program.Issues.perform trivial).bind
  intro _
  apply (Program.Issues.perform trivial).bind
  intro _
  exact spares_presentShipment x shipment.id tenantId

theorem spares_createShipment (x tenantId actorId simulationId : Id) :
    (createShipment tenantId actorId simulationId).Issues (Spares x) := by
  unfold createShipment
  apply (Program.Issues.perform trivial).bind
  intro found
  cases found with
  | none => trivial
  | some simulation =>
      dsimp only
      split
      · apply (Program.Issues.perform trivial).bind
        intro existing
        cases existing with
        | some existing => exact spares_presentShipment x existing.id tenantId
        | none =>
            apply (spares_shipSelected x tenantId actorId simulationId simulation _).tryCatch
            intro error
            split <;> trivial
      · trivial

theorem spares_selectOption {x tenantId actorId simulationId optionId : Id}
    (h : simulationId ≠ x) :
    (selectOption tenantId actorId simulationId optionId).Issues (Spares x) := by
  unfold selectOption
  apply (Program.Issues.perform trivial).bind
  intro found
  cases found with
  | none => trivial
  | some option =>
      apply (Program.Issues.perform (P := Spares x)
        (c := .inr (.selectOption simulationId tenantId option.id)) h).bind
      intro _
      apply (Program.Issues.perform trivial).bind
      intro _
      apply (Program.Issues.perform trivial).bind
      intro _
      have hget : (Quoting.get tenantId simulationId).Issues fun c =>
          c = Quoting.Command.findSimulation simulationId tenantId := by
        simp only [Quoting.get, Program.issues_perform_bind_iff, true_and]
        rintro (_ | record) <;> trivial
      apply (Program.issues_lift hget).mono
      rintro _ ⟨c, rfl, rfl⟩
      trivial

theorem spares_handle (P : Platform) {simulationId : Id} {r : Request}
    (h : LeavesAlone simulationId r) : (handle P r).Issues (Spares simulationId) := by
  cases r with
  | create tenantId actorId input => exact h.elim
  | selectOption tenantId actorId selectedIn optionId =>
      exact (Program.issues_map_iff _ _).mpr (spares_selectOption h)
  | createShipment tenantId actorId shippedFrom =>
      exact (Program.issues_map_iff _ _).mpr (spares_createShipment _ _ _ _)

theorem optionsOf_execute (P : Platform) (c : freightInterface.Command) (input : Input)
    {s : Store} {simulationId : Id} (hspares : Spares simulationId c) (hsound : Sound s c) :
    optionsOf (execute P c input s).2 simulationId = optionsOf s simulationId := by
  unfold optionsOf
  obtain ⟨hsame, -⟩ | ⟨_, _, _, rfl, -⟩ | ⟨selectedIn, tenantId, optionId, rfl, -, hselected⟩ |
    ⟨_, _, _, _, -, -, hshipped⟩ := execute_cases P c input s
  · rw [hsame.freightSimulationOptions]
  · exact hspares.elim
  · rw [hselected.options, List.filter_map]
    have hkept : (fun row : FreightSimulationOption => row.simulationId == simulationId) ∘
        reselect input.now selectedIn tenantId optionId =
          fun row => row.simulationId == simulationId := by
      funext row
      rw [Function.comp_apply, reselect_simulationId]
    rw [hkept]
    refine (List.map_congr_left fun row hrow => ?_).trans (List.map_id _)
    obtain ⟨hrow, hof⟩ := List.mem_filter.mp hrow
    have hof : row.simulationId = simulationId := by simpa using hof
    have hapart : row.simulationId ≠ selectedIn := fun h => hspares (h.symm.trans hof)
    rw [reselect, if_neg fun hid => hapart (hsound row hrow hid).1, if_neg fun h => hapart h.1]
    rfl
  · rw [hshipped.options]

/-! ## Runs -/

/-- However the calls of selections, shipments and quotes are interleaved, a
simulation has at most one selected option, which are the options with a time of
selection; it has exactly one as soon as a selection of it has succeeded; and
the options of a simulation stay as they are while nothing is selected in it and
nothing is quoted. -/
theorem one_option_selected (P : Platform) (s : Store) (hs : ProperlySelected s)
    (acts : List FreightAction) :
    ProperlySelected ((freightSystem P).runActions (Config.initial s) acts).store ∧
    (∀ t ∈ ((freightSystem P).runActions (Config.initial s) acts).threads,
      ∀ simulationId tenantId optionId,
        Succeeded (I := freightInterface) (.inr (.selectOption simulationId tenantId optionId))
            t.history →
        ∃ option ∈ ((freightSystem P).runActions
            (Config.initial s) acts).store.freightSimulationOptions.rows,
          OnlySelected ((freightSystem P).runActions (Config.initial s) acts).store simulationId
            option) ∧
    ∀ simulationId, (∀ r, .start r ∈ acts → LeavesAlone simulationId r) →
      optionsOf ((freightSystem P).runActions (Config.initial s) acts).store simulationId =
        optionsOf s simulationId := by
  have hsound := sound_along P s acts
  have hrun := (freightSystem P).store_run (J := ProperlySelected)
    (fun _ cmd input hs hsound => properlySelected_execute P cmd input hs hsound) acts _ hs hsound
  have hknown := (freightSystem P).knowing_run (K := SelectionKnown)
    (fun cmd input s hsound => selectionKnown_execute P cmd input s hsound)
    (fun cmd input s e hsound h => selectionKnown_keep P cmd input s e hsound h) acts _
    (Config.knowing_initial _ s) hsound
  refine ⟨hrun, fun t ht simulationId tenantId optionId hdone => ?_, fun simulationId hacts => ?_⟩
  · obtain ⟨e, he, hcall, hok⟩ := hdone
    obtain ⟨option, hoption, hof, hsel⟩ := hknown t ht e he simulationId tenantId optionId hcall hok
    exact ⟨option, hoption, hof, hsel, fun other hother hofOther hselOther =>
      hrun.unique other hother option hoption (hofOther.trans hof.symm) hselOther hsel⟩
  · have hspares := (freightSystem P).along_issuing acts s fun r hr =>
      spares_handle P (hacts r hr)
    exact (freightSystem P).store_run
      (J := fun s' => optionsOf s' simulationId = optionsOf s simulationId)
      (fun s' cmd input hs' hcall => (optionsOf_execute P cmd input hcall.2 hcall.1).trans hs')
      acts (Config.initial s) rfl ((freightSystem P).alongActions_callAnd acts _ hsound hspares)

/-- Both options of a simulation are looked up before either is selected. -/
def selectBoth : List FreightAction :=
  [.start (.selectOption "tenant" "ana" "simulation" "slow"),
    .start (.selectOption "tenant" "bia" "simulation" "fast"),
    .step 0 (shippingInput 1 ""), .step 1 (shippingInput 2 ""),
    .step 1 (shippingInput 3 ""), .step 0 (shippingInput 4 "")]

theorem properlySelected_twoOptions : ProperlySelected twoOptions :=
  ⟨consistent_twoOptions.belong, consistent_twoOptions.unique, by decide +kernel⟩

theorem one_option_selected_selectBoth :
    ∃ option ∈ ((freightSystem Quoting.plainPlatform).runActions (Config.initial twoOptions)
        selectBoth).store.freightSimulationOptions.rows,
      OnlySelected ((freightSystem Quoting.plainPlatform).runActions (Config.initial twoOptions)
        selectBoth).store "simulation" option := by
  have hthread : 0 < ((freightSystem Quoting.plainPlatform).runActions (Config.initial twoOptions)
      selectBoth).threads.length := by
    decide +kernel
  have hcalls : 1 < (((freightSystem Quoting.plainPlatform).runActions (Config.initial twoOptions)
      selectBoth).threads[0]).history.length := by
    decide +kernel +revert
  exact (one_option_selected Quoting.plainPlatform twoOptions properlySelected_twoOptions
    selectBoth).2.1 _ (List.getElem_mem hthread) "simulation" "tenant" "slow"
      ⟨_, List.getElem_mem hcalls, by rfl, by rfl⟩

end Logistics.Shipping
