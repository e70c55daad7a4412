import Logistics.Quoting.Snapshot
import Logistics.Shipping.Reads

/-!
# Shipments and the selected option

A shipment is made of the option that was selected when its call read the
simulation. Selecting checks nothing about shipments, so a simulation may have
another option selected afterwards, or already by the time the shipment is
stored. What every run keeps is that the shipment carries what one option of
its simulation offers, and that the simulation has exactly one selected option.
-/

namespace Logistics.Shipping

open Logistics.Library Logistics.Quoting

/-- The shipment carries what this option offers. -/
structure ShippedFrom (shipment : Shipment) (option : FreightSimulationOption) : Prop where
  selectedOptionId : shipment.selectedOptionId = option.id
  simulationId : shipment.simulationId = option.simulationId
  carrierId : shipment.carrierId = option.carrierId
  carrierServiceId : shipment.carrierServiceId = option.carrierServiceId
  realWeightKg : shipment.realWeightKg = option.realWeightKg
  chargeableWeightKg : shipment.chargeableWeightKg = option.chargeableWeightKg
  freightValue : shipment.freightValue = option.totalPrice
  estimatedDeliveryAt : shipment.estimatedDeliveryAt = option.estimatedDeliveryAt

/-- The one option of the simulation that is selected. -/
structure OnlySelected (s : Store) (simulationId : Id) (option : FreightSimulationOption) :
    Prop where
  belongs : option.simulationId = simulationId
  selected : option.selected = true
  only : ∀ other ∈ s.freightSimulationOptions.rows, other.simulationId = simulationId →
    other.selected = true → other = option

/-- The simulation of the shipment has exactly one selected option, and the
shipment carries what it offers. -/
def Agrees (s : Store) (shipment : Shipment) : Prop :=
  ∃ option ∈ s.freightSimulationOptions.rows,
    OnlySelected s shipment.simulationId option ∧ ShippedFrom shipment option

instance (shipment : Shipment) (option : FreightSimulationOption) :
    Decidable (ShippedFrom shipment option) :=
  decidable_of_iff (shipment.selectedOptionId = option.id ∧
      shipment.simulationId = option.simulationId ∧ shipment.carrierId = option.carrierId ∧
      shipment.carrierServiceId = option.carrierServiceId ∧
      shipment.realWeightKg = option.realWeightKg ∧
      shipment.chargeableWeightKg = option.chargeableWeightKg ∧
      shipment.freightValue = option.totalPrice ∧
      shipment.estimatedDeliveryAt = option.estimatedDeliveryAt)
    ⟨fun ⟨h₁, h₂, h₃, h₄, h₅, h₆, h₇, h₈⟩ => ⟨h₁, h₂, h₃, h₄, h₅, h₆, h₇, h₈⟩,
      fun ⟨h₁, h₂, h₃, h₄, h₅, h₆, h₇, h₈⟩ => ⟨h₁, h₂, h₃, h₄, h₅, h₆, h₇, h₈⟩⟩

instance (s : Store) (simulationId : Id) (option : FreightSimulationOption) :
    Decidable (OnlySelected s simulationId option) :=
  decidable_of_iff (option.simulationId = simulationId ∧ option.selected = true ∧
      ∀ other ∈ s.freightSimulationOptions.rows, other.simulationId = simulationId →
        other.selected = true → other = option)
    ⟨fun ⟨h₁, h₂, h₃⟩ => ⟨h₁, h₂, h₃⟩, fun ⟨h₁, h₂, h₃⟩ => ⟨h₁, h₂, h₃⟩⟩

instance (s : Store) (shipment : Shipment) : Decidable (Agrees s shipment) := by
  unfold Agrees
  infer_instance

/-- Options belong to a simulation of their tenant, at most one option of a
simulation is selected, and a shipment carries what an option offers whose
simulation has one selected. -/
structure Consistent (s : Store) : Prop where
  belong : ∀ row ∈ s.freightSimulationOptions.rows, ∃ simulation ∈ s.freightSimulations.rows,
    simulation.id = row.simulationId ∧ simulation.tenantId = row.tenantId
  unique : ∀ a ∈ s.freightSimulationOptions.rows, ∀ b ∈ s.freightSimulationOptions.rows,
    a.simulationId = b.simulationId → a.selected = true → b.selected = true → a = b
  shipped : ∀ shipment ∈ s.shipments.rows,
    HasSelected s shipment.simulationId ∧
      ∃ option ∈ s.freightSimulationOptions.rows, ShippedFrom shipment option

theorem ShippedFrom.congr {shipment : Shipment} {a b : FreightSimulationOption}
    (h : ShippedFrom shipment a) (hsame : SameOption b a) : ShippedFrom shipment b where
  selectedOptionId := h.selectedOptionId.trans hsame.id_eq.symm
  simulationId := h.simulationId.trans hsame.simulationId_eq.symm
  carrierId := h.carrierId.trans (hsame.field_eq fun _ => rfl).symm
  carrierServiceId := h.carrierServiceId.trans (hsame.field_eq fun _ => rfl).symm
  realWeightKg := h.realWeightKg.trans (hsame.field_eq fun _ => rfl).symm
  chargeableWeightKg := h.chargeableWeightKg.trans (hsame.field_eq fun _ => rfl).symm
  freightValue := h.freightValue.trans (hsame.field_eq fun _ => rfl).symm
  estimatedDeliveryAt := h.estimatedDeliveryAt.trans (hsame.field_eq fun _ => rfl).symm

/-- A sound transaction stores a shipment of its option. -/
theorem shippedFrom_shipmentRow (P : Platform) (input : Input) (tenantId actorId : Id)
    {simulation : LoadedSimulation} {selected : FreightSimulationOption}
    (hof : selected.simulationId = simulation.simulation.id) :
    ShippedFrom (shipmentRow P input tenantId actorId simulation selected) selected :=
  ⟨rfl, hof.symm, rfl, rfl, rfl, rfl, rfl, rfl⟩

theorem Consistent.onlySelected {s : Store} (hs : Consistent s) {simulationId : Id}
    (h : HasSelected s simulationId) :
    ∃ option ∈ s.freightSimulationOptions.rows, OnlySelected s simulationId option := by
  obtain ⟨option, hoption, hof, hselected⟩ := h
  exact ⟨option, hoption, hof, hselected, fun other hother hofOther hselectedOther =>
    hs.unique other hother option hoption (hofOther.trans hof.symm) hselectedOther hselected⟩

/-! ## What the calls keep -/

section Execute

variable (P : Platform) (c : freightInterface.Command) (input : Input) {s : Store}

theorem belong_execute
    (hbelong : ∀ row ∈ s.freightSimulationOptions.rows,
      ∃ simulation ∈ s.freightSimulations.rows,
        simulation.id = row.simulationId ∧ simulation.tenantId = row.tenantId) :
    ∀ row ∈ (execute P c input s).2.freightSimulationOptions.rows,
      ∃ simulation ∈ (execute P c input s).2.freightSimulations.rows,
        simulation.id = row.simulationId ∧ simulation.tenantId = row.tenantId := by
  have hold : ∀ row ∈ s.freightSimulationOptions.rows,
      ∃ simulation ∈ (execute P c input s).2.freightSimulations.rows,
        simulation.id = row.simulationId ∧ simulation.tenantId = row.tenantId := by
    intro row hrow
    obtain ⟨simulation, hsimulation, howner⟩ := hbelong row hrow
    exact ⟨simulation, simulation_execute P c input hsimulation, howner⟩
  intro row hrow
  obtain ⟨hsame, -⟩ | ⟨_, _, _, -, hquoted⟩ | ⟨_, _, _, -, -, hselected⟩ |
    ⟨_, _, _, _, -, -, hshipped⟩ := execute_cases P c input s
  · rw [hsame.freightSimulationOptions] at hrow
    exact hold row hrow
  · obtain ⟨rows, hrows, hnew⟩ := hquoted.options
    rw [hrows] at hrow
    rcases List.mem_append.mp hrow with hrow | hrow
    · exact hold row hrow
    · obtain ⟨hof, htenant, -⟩ := hnew row hrow
      refine ⟨_, ?_, hof.symm, htenant.symm⟩
      rw [hquoted.freightSimulations]
      exact List.mem_append_right _ List.mem_cons_self
  · rw [hselected.options] at hrow
    obtain ⟨old, hmem, rfl⟩ := List.mem_map.mp hrow
    rw [reselect_simulationId, reselect_tenantId]
    exact hold old hmem
  · rw [hshipped.options] at hrow
    exact hold row hrow

theorem unique_execute
    (hbelong : ∀ row ∈ s.freightSimulationOptions.rows,
      ∃ simulation ∈ s.freightSimulations.rows,
        simulation.id = row.simulationId ∧ simulation.tenantId = row.tenantId)
    (hunique : ∀ a ∈ s.freightSimulationOptions.rows, ∀ b ∈ s.freightSimulationOptions.rows,
      a.simulationId = b.simulationId → a.selected = true → b.selected = true → a = b)
    (hsound : Sound s c) :
    ∀ a ∈ (execute P c input s).2.freightSimulationOptions.rows,
      ∀ b ∈ (execute P c input s).2.freightSimulationOptions.rows,
        a.simulationId = b.simulationId → a.selected = true → b.selected = true → a = b := by
  intro a ha b hb hof hasel hbsel
  obtain ⟨hsame, -⟩ | ⟨_, _, _, -, hquoted⟩ |
      ⟨simulationId, tenantId, optionId, rfl, -, hselected⟩ |
    ⟨_, _, _, _, -, -, hshipped⟩ := execute_cases P c input s
  · rw [hsame.freightSimulationOptions] at ha hb
    exact hunique a ha b hb hof hasel hbsel
  · -- the new options are not selected
    obtain ⟨rows, hrows, hnew⟩ := hquoted.options
    have hold : ∀ row ∈ (execute P c input s).2.freightSimulationOptions.rows,
        row.selected = true → row ∈ s.freightSimulationOptions.rows := by
      intro row hrow hsel
      rw [hrows] at hrow
      rcases List.mem_append.mp hrow with hrow | hrow
      · exact hrow
      · rw [(hnew row hrow).2.2] at hsel
        cases hsel
    exact hunique a (hold a ha hasel) b (hold b hb hbsel) hof hasel hbsel
  · rw [hselected.options] at ha hb
    obtain ⟨a, hamem, rfl⟩ := List.mem_map.mp ha
    obtain ⟨b, hbmem, rfl⟩ := List.mem_map.mp hb
    rw [reselect_simulationId, reselect_simulationId] at hof
    -- an option selected beside the chosen one is of another simulation
    have hapart : ∀ x ∈ s.freightSimulationOptions.rows, ∀ y ∈ s.freightSimulationOptions.rows,
        x.simulationId = y.simulationId → x.id = optionId →
        ¬(y.simulationId = simulationId ∧ y.tenantId = tenantId) → False := by
      intro x hx y hy hxy hid hnot
      obtain ⟨hxof, hxtenant⟩ := hsound x hx hid
      obtain ⟨xs, hxs, hxsId, hxsTenant⟩ := hbelong x hx
      obtain ⟨ys, hys, hysId, hysTenant⟩ := hbelong y hy
      obtain rfl := simulation_eq_of_id hxs hys (by rw [hxsId, hysId, hxy])
      exact hnot ⟨hxy ▸ hxof, by rw [← hysTenant, hxsTenant, hxtenant]⟩
    rcases reselect_selected.mp hasel with haid | ⟨hanot, hasel⟩ <;>
      rcases reselect_selected.mp hbsel with hbid | ⟨hbnot, hbsel⟩
    · rw [option_eq_of_id hamem hbmem (haid.trans hbid.symm)]
    · exact (hapart a hamem b hbmem hof haid hbnot).elim
    · exact (hapart b hbmem a hamem hof.symm hbid hanot).elim
    · rw [hunique a hamem b hbmem hof hasel hbsel]
  · rw [hshipped.options] at ha hb
    exact hunique a ha b hb hof hasel hbsel

theorem mem_shipments_execute {shipment : Shipment}
    (h : shipment ∈ (execute P c input s).2.shipments.rows) :
    shipment ∈ s.shipments.rows ∨ ∃ tenantId actorId simulation selected,
      c = .inr (.storeShipment tenantId actorId simulation selected) ∧
      shipment = shipmentRow P input tenantId actorId simulation selected ∧
      (execute P (.inr (.storeShipment tenantId actorId simulation selected)) input s).1 =
        .ok shipment ∧
      Shipped s (execute P c input s).2 tenantId simulation shipment := by
  obtain ⟨hsame, -⟩ | ⟨_, _, _, -, hquoted⟩ | ⟨_, _, _, -, -, hselected⟩ |
    ⟨tenantId, actorId, simulation, selected, hc, hok, hshipped⟩ := execute_cases P c input s
  · rw [hsame.shipments] at h
    exact .inl h
  · rw [hquoted.shipments] at h
    exact .inl h
  · rw [hselected.shipments] at h
    exact .inl h
  · rw [hshipped.shipments] at h
    rcases List.mem_append.mp h with h | h
    · exact .inl h
    · obtain rfl := List.mem_singleton.mp h
      exact .inr ⟨tenantId, actorId, simulation, selected, hc, rfl, hok, hshipped⟩

theorem shipped_execute (hs : Consistent s) (hsound : Sound s c) :
    ∀ shipment ∈ (execute P c input s).2.shipments.rows,
      HasSelected (execute P c input s).2 shipment.simulationId ∧
        ∃ option ∈ (execute P c input s).2.freightSimulationOptions.rows,
          ShippedFrom shipment option := by
  intro shipment hshipment
  rcases mem_shipments_execute P c input hshipment with
    hold | ⟨tenantId, actorId, simulation, selected, rfl, rfl, -, -⟩
  · obtain ⟨hhas, option, hoption, hfrom⟩ := hs.shipped shipment hold
    obtain ⟨option', hoption', hsame⟩ := option_execute P c input hoption
    exact ⟨hasSelected_execute P c input hhas hsound, option', hoption', hfrom.congr hsame⟩
  · obtain ⟨hstored, -, hmem, hsel⟩ := id hsound
    have hhas := hasSelected_execute P _ input (hstored.selected selected hmem hsel) hsound
    obtain ⟨hof, row, hrow, hrowSame⟩ := hstored.options selected hmem
    obtain ⟨row', hrow', hsame⟩ := option_execute P
      (.inr (.storeShipment tenantId actorId simulation selected)) input hrow
    have hfrom := shippedFrom_shipmentRow P input tenantId actorId hof
    exact ⟨hhas, row', hrow', hfrom.congr (hsame.trans hrowSame)⟩

theorem consistent_execute (hs : Consistent s) (hsound : Sound s c) :
    Consistent (execute P c input s).2 where
  belong := belong_execute P c input hs.belong
  unique := unique_execute P c input hs.belong hs.unique hsound
  shipped := shipped_execute P c input hs hsound

end Execute

theorem consistent_run (P : Platform) {s : Store} (hs : Consistent s)
    (acts : List FreightAction) :
    Consistent ((freightSystem P).runActions (Config.initial s) acts).store :=
  (freightSystem P).store_run (J := Consistent)
    (fun _ cmd input hs hsound => consistent_execute P cmd input hs hsound) acts _ hs
    (sound_along P s acts)

/-! ## While the selection is settled -/

/-- No selection commits for another option than that of the simulation's
shipment, and a shipment is stored while its option is still selected. -/
def SelectionSettled (P : Platform) (s : Store) : freightInterface.Command → Input → Prop
  | .inr (.selectOption simulationId tenantId optionId), input =>
      (execute P (.inr (.selectOption simulationId tenantId optionId)) input s).1.isOk = true →
        ∀ shipment ∈ s.shipments.rows, shipment.simulationId = simulationId →
          shipment.selectedOptionId = optionId
  | .inr (.storeShipment tenantId actorId simulation selected), input =>
      (execute P (.inr (.storeShipment tenantId actorId simulation selected)) input s).1.isOk =
          true →
        ∃ row ∈ s.freightSimulationOptions.rows, row.id = selected.id ∧ row.selected = true
  | _, _ => True

instance (P : Platform) (s : Store) (c : freightInterface.Command) (input : Input) :
    Decidable (SelectionSettled P s c input) := by
  unfold SelectionSettled
  split <;> infer_instance

/-- An option selected for the simulation of a shipment is the shipment's. -/
def SelectedIsShipped (s : Store) : Prop :=
  ∀ shipment ∈ s.shipments.rows, ∀ row ∈ s.freightSimulationOptions.rows,
    row.simulationId = shipment.simulationId → row.selected = true →
      row.id = shipment.selectedOptionId

theorem selectedIsShipped_execute (P : Platform) (c : freightInterface.Command) (input : Input)
    {s : Store} (hs : Consistent s) (hsound : Sound s c) (hsettled : SelectionSettled P s c input)
    (hagree : SelectedIsShipped s) : SelectedIsShipped (execute P c input s).2 := by
  intro shipment hshipment row hrow hof hsel
  obtain ⟨hsame, -⟩ | ⟨_, _, _, -, hquoted⟩ |
      ⟨simulationId, tenantId, optionId, rfl, hok, hselected⟩ |
    ⟨tenantId, actorId, simulation, selected, rfl, hok, hshipped⟩ := execute_cases P c input s
  · rw [hsame.shipments] at hshipment
    rw [hsame.freightSimulationOptions] at hrow
    exact hagree shipment hshipment row hrow hof hsel
  · obtain ⟨rows, hrows, hnew⟩ := hquoted.options
    rw [hquoted.shipments] at hshipment
    rw [hrows] at hrow
    rcases List.mem_append.mp hrow with hrow | hrow
    · exact hagree shipment hshipment row hrow hof hsel
    · rw [(hnew row hrow).2.2] at hsel
      cases hsel
  · rw [hselected.shipments] at hshipment
    rw [hselected.options] at hrow
    obtain ⟨old, hold, rfl⟩ := List.mem_map.mp hrow
    rw [reselect_simulationId] at hof
    rw [reselect_id]
    rcases reselect_selected.mp hsel with hid | ⟨-, hsel⟩
    · rw [hid]
      have hcommits := hsettled (by rw [hok]; rfl) shipment hshipment
      exact (hcommits (by rw [← hof, (hsound old hold hid).1])).symm
    · exact hagree shipment hshipment old hold hof hsel
  · rw [hshipped.options] at hrow
    rw [hshipped.shipments] at hshipment
    rcases List.mem_append.mp hshipment with hshipment | hshipment
    · exact hagree shipment hshipment row hrow hof hsel
    · obtain rfl := List.mem_singleton.mp hshipment
      obtain ⟨hstored, -, hmem, -⟩ := hsound
      obtain ⟨hselOf, stored, hstoredMem, hsame⟩ := hstored.options selected hmem
      obtain ⟨still, hstill, hstillId, hstillSel⟩ := hsettled (by rw [hok]; rfl)
      obtain rfl := option_eq_of_id hstill hstoredMem (hstillId.trans hsame.id_eq.symm)
      have hsameSimulation : row.simulationId = still.simulationId :=
        hof.trans (hselOf.symm.trans hsame.simulationId_eq.symm)
      rw [hs.unique row hrow still hstill hsameSimulation hsel hstillSel]
      exact hstillId

theorem agrees_of_selectedIsShipped {s : Store} (hs : Consistent s)
    (hagree : SelectedIsShipped s) {shipment : Shipment} (h : shipment ∈ s.shipments.rows) :
    Agrees s shipment := by
  obtain ⟨hhas, carried, hcarried, hfrom⟩ := hs.shipped shipment h
  obtain ⟨option, hoption, honly⟩ := hs.onlySelected hhas
  have hid := hagree shipment h option hoption honly.belongs honly.selected
  obtain rfl := option_eq_of_id hcarried hoption (hfrom.selectedOptionId.symm.trans hid.symm)
  exact ⟨carried, hcarried, honly, hfrom⟩

theorem selectedIsShipped_of_agrees {s : Store}
    (hagree : ∀ shipment ∈ s.shipments.rows, Agrees s shipment) : SelectedIsShipped s := by
  intro shipment hshipment row hrow hof hsel
  obtain ⟨option, -, honly, hfrom⟩ := hagree shipment hshipment
  rw [honly.only row hrow hof hsel, hfrom.selectedOptionId]

/-- Every simulation with a shipment has exactly one selected option, and the
shipment carries what one option of it offers; and as long as the selection is
settled, that is the option selected. -/
theorem shipment_carries_its_option (P : Platform) (s : Store) (hs : Consistent s)
    (acts : List FreightAction) :
    (∀ shipment ∈ ((freightSystem P).runActions (Config.initial s) acts).store.shipments.rows,
      (∃ option ∈ ((freightSystem P).runActions
          (Config.initial s) acts).store.freightSimulationOptions.rows,
        OnlySelected ((freightSystem P).runActions (Config.initial s) acts).store
          shipment.simulationId option) ∧
      ∃ option ∈ ((freightSystem P).runActions
          (Config.initial s) acts).store.freightSimulationOptions.rows,
        ShippedFrom shipment option) ∧
    ((∀ shipment ∈ s.shipments.rows, Agrees s shipment) →
      (freightSystem P).AlongActions (CallCondition (SelectionSettled P)) (Config.initial s) acts →
      ∀ shipment ∈ ((freightSystem P).runActions (Config.initial s) acts).store.shipments.rows,
        Agrees ((freightSystem P).runActions (Config.initial s) acts).store shipment) := by
  have hrun := consistent_run P hs acts
  refine ⟨fun shipment hshipment => ?_, fun hagree hsettled shipment hshipment => ?_⟩
  · obtain ⟨hhas, hfrom⟩ := hrun.shipped shipment hshipment
    exact ⟨hrun.onlySelected hhas, hfrom⟩
  · have hboth := (freightSystem P).store_run (J := fun s => Consistent s ∧ SelectedIsShipped s)
      (fun s cmd input hs hcall => ⟨consistent_execute P cmd input hs.1 hcall.1,
        selectedIsShipped_execute P cmd input hs.1 hcall.1 hcall.2 hs.2⟩) acts (Config.initial s)
      ⟨hs, selectedIsShipped_of_agrees hagree⟩
      ((freightSystem P).alongActions_callAnd acts _ (sound_along P s acts) hsettled)
    exact agrees_of_selectedIsShipped hrun hboth.2 hshipment

/-! ## One simulation with two options -/

def quotedSimulation (id : Id) : FreightSimulation where
  id := id
  tenantId := "tenant"
  branchId := none
  customerId := none
  carrierId := none
  createdById := "ana"
  originPostalCode := "01001000"
  destinationPostalCode := "20010000"
  realWeightKg := .store 3 3
  cubicWeightKg := .store 3 1
  chargeableWeightKg := .store 3 3
  totalVolumeM3 := .store 6 0
  cargoValue := .store 2 100
  distanceKm := .store 2 360
  desiredShipDate := 0
  estimatedPrice := .store 2 20
  estimatedDeadlineDays := 5
  status := .calculated
  metadata := []
  createdAt := 1704067200000

def quotedOption (id simulationId : Id) (totalPrice : Decimal) (selected : Bool) :
    FreightSimulationOption where
  id := id
  tenantId := "tenant"
  simulationId := simulationId
  carrierId := "carrier"
  carrierServiceId := "service"
  rateTableId := "table"
  rateRangeId := "range"
  carrierName := "Transportadora"
  serviceName := "Expresso"
  serviceCode := "EXP"
  rateTableVersion := 1
  currency := "BRL"
  realWeightKg := .store 3 3
  cubicWeightKg := .store 3 1
  chargeableWeightKg := .store 3 3
  distanceKm := .store 2 360
  deadlineDays := 5
  estimatedDeliveryAt := 432000000
  totalPrice := .store 2 totalPrice
  cheapest := false
  fastest := false
  selected := selected
  selectedAt := if selected then some 0 else none

/-- A simulation with two options, none of them selected. -/
def twoOptions : Store :=
  { Store.empty with
    freightSimulations := ⟨[quotedSimulation "simulation"], by decide⟩
    freightSimulationOptions := ⟨[quotedOption "slow" "simulation" 20 false,
      quotedOption "fast" "simulation" 50 false], by decide⟩ }

def shippingInput (now : Time) (id : Id) : Input := ⟨now, fun _ => id, false, fun _ => 0⟩

/-- The slow option is selected, and a shipment is created. -/
def shipSlow : List FreightAction :=
  [.start (.selectOption "tenant" "ana" "simulation" "slow"),
    .start (.createShipment "tenant" "ana" "simulation"),
    .step 0 (shippingInput 1 ""), .step 0 (shippingInput 2 ""),
    .step 1 (shippingInput 3 ""), .step 1 (shippingInput 4 ""),
    .step 1 (shippingInput 5 "shipment")]

/-- Then the fast option is selected. -/
def thenSelectFast : List FreightAction :=
  [.start (.selectOption "tenant" "ana" "simulation" "fast"),
    .step 2 (shippingInput 6 ""), .step 2 (shippingInput 7 "")]

theorem consistent_twoOptions : Consistent twoOptions :=
  ⟨by decide +kernel, by decide +kernel, by simp [twoOptions, Store.empty, Table.empty]⟩

theorem shipment_carries_its_option_shipSlow :
    ∃ shipment ∈ ((freightSystem Quoting.plainPlatform).runActions (Config.initial twoOptions)
        shipSlow).store.shipments.rows,
      Agrees ((freightSystem Quoting.plainPlatform).runActions (Config.initial twoOptions)
        shipSlow).store shipment := by
  have hshipment : ∃ shipment ∈ ((freightSystem Quoting.plainPlatform).runActions
      (Config.initial twoOptions) shipSlow).store.shipments.rows, shipment.id = "shipment" := by
    decide +kernel
  obtain ⟨shipment, hshipment, -⟩ := hshipment
  have hagrees := (shipment_carries_its_option Quoting.plainPlatform twoOptions
    consistent_twoOptions shipSlow).2 (by simp [twoOptions, Store.empty, Table.empty])
    (by decide +kernel)
  exact ⟨shipment, hshipment, hagrees shipment hshipment⟩

/-- After another selection, the shipment is of an option that is not the selected
one. -/
theorem selection_after_shipment :
    Consistent twoOptions ∧
      ∃ shipment ∈ ((freightSystem Quoting.plainPlatform).runActions (Config.initial twoOptions)
          (shipSlow ++ thenSelectFast)).store.shipments.rows,
        ¬Agrees ((freightSystem Quoting.plainPlatform).runActions (Config.initial twoOptions)
          (shipSlow ++ thenSelectFast)).store shipment :=
  ⟨consistent_twoOptions, by decide +kernel⟩

end Logistics.Shipping
