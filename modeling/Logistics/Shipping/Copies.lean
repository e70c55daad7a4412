import Logistics.Shipping.Selection

/-!
# One shipment for a simulation

Calls that find no shipment may race to store one. The unique key on the
simulation lets one transaction commit, a transaction that fails leaves the
store as it was, and the calls that lose answer with a conflict. The addresses
and packages of the shipment are copied in the same transaction from rows that
never change, so they are those of the simulation, each once.
-/

namespace Logistics.Shipping

open Logistics.Library Logistics.Quoting

/-- The addresses and packages of the shipment are those of its simulation. -/
structure CopiedOnce (s : Store) (shipment : Shipment) : Prop where
  addresses : (s.shipmentAddresses.filter fun row => row.shipmentId == shipment.id) =
    (s.freightSimulationAddresses.filter fun row =>
      row.simulationId == shipment.simulationId).map (addressRow shipment.tenantId shipment.id)
  packages : (s.shipmentPackages.filter fun row => row.shipmentId == shipment.id) =
    (s.freightSimulationPackages.rows.filter fun row =>
      row.simulationId == shipment.simulationId).map (packageRow shipment.tenantId shipment.id)

def BelongTo {α : Type} (shipmentId : α → Id) (rows : List α) (shipments : List Shipment) : Prop :=
  ∀ row ∈ rows, ∃ shipment ∈ shipments, shipment.id = shipmentId row

theorem BelongTo.append {α : Type} {shipmentId : α → Id} {rows new : List α}
    {shipments : List Shipment} {created : Shipment} (h : BelongTo shipmentId rows shipments)
    (hnew : ∀ row ∈ new, shipmentId row = created.id) :
    BelongTo shipmentId (rows ++ new) (shipments ++ [created]) := by
  intro row hrow
  rcases List.mem_append.mp hrow with hrow | hrow
  · obtain ⟨shipment, hshipment, hid⟩ := h row hrow
    exact ⟨shipment, List.mem_append_left _ hshipment, hid⟩
  · exact ⟨created, List.mem_append_right _ List.mem_cons_self, (hnew row hrow).symm⟩

/-- Shipments are of stored simulations and have their copies, and there are no
other copies. -/
structure Copied (s : Store) : Prop where
  simulation : ∀ shipment ∈ s.shipments.rows,
    ∃ simulation ∈ s.freightSimulations.rows, simulation.id = shipment.simulationId
  copied : ∀ shipment ∈ s.shipments.rows, CopiedOnce s shipment
  addresses : BelongTo ShipmentAddress.shipmentId s.shipmentAddresses s.shipments.rows
  packages : BelongTo ShipmentPackage.shipmentId s.shipmentPackages s.shipments.rows

/-- The tables of shipments are as before. -/
structure SameShipments (s s' : Store) : Prop where
  shipments : s'.shipments = s.shipments
  shipmentAddresses : s'.shipmentAddresses = s.shipmentAddresses
  shipmentPackages : s'.shipmentPackages = s.shipmentPackages

theorem SameShipments.refl (s : Store) : SameShipments s s := ⟨rfl, rfl, rfl⟩

/-- The call is a transaction that stores a shipment of the simulation, and
commits. -/
def CreatesShipmentOf (P : Platform) (simulationId : Id) (s : Store) :
    freightInterface.Command → Input → Prop
  | .inr (.storeShipment tenantId actorId simulation selected), input =>
      simulation.simulation.id = simulationId ∧
        (execute P (.inr (.storeShipment tenantId actorId simulation selected)) input s).1.isOk =
          true
  | _, _ => False

instance (P : Platform) (simulationId : Id) (s : Store) (c : freightInterface.Command)
    (input : Input) : Decidable (CreatesShipmentOf P simulationId s c input) := by
  refine decideExtended (p := fun c => CreatesShipmentOf P simulationId s c input)
    (fun _ => isFalse id) (fun c => ?_) c
  apply @ShippingCommand.casesOn
    (fun c => Decidable (CreatesShipmentOf P simulationId s (.inr c) input)) c <;>
    intros <;> dsimp only [CreatesShipmentOf] <;> infer_instance

def shipmentsOf (simulationId : Id) (s : Store) : ℕ :=
  (s.shipments.rows.filter fun row => row.simulationId == simulationId).length

theorem shipmentsOf_le_one (simulationId : Id) (s : Store) : shipmentsOf simulationId s ≤ 1 := by
  apply s.shipments.length_filter_le_one (.simulationId simulationId)
  intro row _ hrow
  simp [Shipment.keys, beq_iff_eq.mp hrow]

section Execute

variable (P : Platform) (c : freightInterface.Command) (input : Input) {s : Store}

/-- A call leaves the tables of shipments as they were, and fails if it was to
store a shipment; or it stores one. -/
theorem shipments_cases (s : Store) :
    (SameShipments s (execute P c input s).2 ∧
      ∀ tenantId actorId simulation selected,
        c = .inr (.storeShipment tenantId actorId simulation selected) →
          ∃ error, (execute P c input s).1 = .error error) ∨
    ∃ tenantId actorId simulation selected,
      c = .inr (.storeShipment tenantId actorId simulation selected) ∧
      (execute P (.inr (.storeShipment tenantId actorId simulation selected)) input s).1 =
        .ok (shipmentRow P input tenantId actorId simulation selected) ∧
      Shipped s (execute P c input s).2 tenantId simulation
        (shipmentRow P input tenantId actorId simulation selected) := by
  obtain ⟨hsame, hfails⟩ | ⟨_, _, _, rfl, hquoted⟩ | ⟨_, _, _, rfl, -, hselected⟩ | hshipped :=
    execute_cases P c input s
  · exact .inl ⟨⟨hsame.shipments, hsame.shipmentAddresses, hsame.shipmentPackages⟩, hfails⟩
  · exact .inl ⟨⟨hquoted.shipments, hquoted.shipmentAddresses, hquoted.shipmentPackages⟩,
      fun _ _ _ _ hc => by cases hc⟩
  · exact .inl ⟨⟨hselected.shipments, hselected.shipmentAddresses, hselected.shipmentPackages⟩,
      fun _ _ _ _ hc => by cases hc⟩
  · exact .inr hshipped

theorem sameShipments_execute
    (hcreates : ∀ simulationId, ¬CreatesShipmentOf P simulationId s c input) :
    SameShipments s (execute P c input s).2 := by
  obtain ⟨hsame, -⟩ | ⟨tenantId, actorId, simulation, selected, rfl, hok, -⟩ :=
    shipments_cases P c input s
  · exact hsame
  · exact (hcreates simulation.simulation.id ⟨rfl, by rw [hok]; rfl⟩).elim

theorem not_creates_of_fails {simulationId : Id}
    (hfails : ∀ tenantId actorId simulation selected,
      c = .inr (.storeShipment tenantId actorId simulation selected) →
        ∃ error, (execute P c input s).1 = .error error) :
    ¬CreatesShipmentOf P simulationId s c input := by
  intro hcreates
  rcases c with c | c
  · exact hcreates
  · cases c with
    | storeShipment tenantId actorId simulation selected =>
        obtain ⟨error, herror⟩ := hfails _ _ _ _ rfl
        have hok := hcreates.2
        rw [herror] at hok
        cases hok
    | _ => exact hcreates

theorem shipmentsOf_execute (simulationId : Id) (s : Store) :
    (if CreatesShipmentOf P simulationId s c input then 1 else 0) + shipmentsOf simulationId s ≤
      shipmentsOf simulationId (execute P c input s).2 := by
  obtain ⟨hsame, hfails⟩ | ⟨tenantId, actorId, simulation, selected, rfl, -, hshipped⟩ :=
    shipments_cases P c input s
  · rw [if_neg (not_creates_of_fails P c input hfails), shipmentsOf, shipmentsOf, hsame.shipments,
      Nat.zero_add]
  · rw [shipmentsOf, shipmentsOf, hshipped.shipments, List.filter_append, List.length_append]
    by_cases hof : simulation.simulation.id = simulationId
    · have hrow : ([shipmentRow P input tenantId actorId simulation selected].filter fun row =>
          row.simulationId == simulationId).length = 1 := by
        simp [shipmentRow, hof]
      rw [hrow]
      split <;> omega
    · rw [if_neg fun h => hof h.1]
      omega

theorem Shipped.id_ne {s s' : Store} {tenantId : Id} {simulation : LoadedSimulation}
    {created : Shipment} (h : Shipped s s' tenantId simulation created) {shipment : Shipment}
    (hshipment : shipment ∈ s.shipments.rows) : shipment.id ≠ created.id := fun hsame =>
  h.fresh (.id created.id) (by simp [Shipment.keys]) shipment hshipment
    (by simp [Shipment.keys, hsame])

/-- What a shipment has copied is not changed by what is stored later. -/
theorem copiedOnce_execute (hs : Copied s) {shipment : Shipment}
    (h : shipment ∈ s.shipments.rows) : CopiedOnce (execute P c input s).2 shipment := by
  obtain ⟨simulation, hsimulation, hid⟩ := hs.simulation shipment h
  have hold := hs.copied shipment h
  have haddresses := addresses_execute P c input hsimulation
  have hpackages := packages_execute P c input hsimulation
  rw [hid] at haddresses hpackages
  obtain ⟨hsame, -⟩ | ⟨tenantId, actorId, loaded, selected, rfl, -, hshipped⟩ :=
    shipments_cases P c input s
  · constructor
    · rw [hsame.shipmentAddresses, haddresses]
      exact hold.addresses
    · rw [hsame.shipmentPackages, hpackages]
      exact hold.packages
  · have hother := (hshipped.id_ne h).symm
    constructor
    · rw [hshipped.shipmentAddresses, haddresses, filter_append_of_false, hold.addresses]
      intro row hrow
      obtain ⟨address, -, rfl⟩ := List.mem_map.mp hrow
      exact beq_false_of_ne hother
    · rw [hshipped.shipmentPackages, hpackages, filter_append_of_false, hold.packages]
      intro row hrow
      obtain ⟨item, -, rfl⟩ := List.mem_map.mp hrow
      exact beq_false_of_ne hother

theorem copiedOnce_of_shipped (hs : Copied s) {tenantId : Id} {simulation : LoadedSimulation}
    {created : Shipment} {s' : Store} (hstored : StillStored s simulation)
    (h : Shipped s s' tenantId simulation created) (htenant : created.tenantId = tenantId)
    (hof : created.simulationId = simulation.simulation.id) : CopiedOnce s' created := by
  subst htenant
  constructor
  · rw [h.shipmentAddresses, h.addresses, hof, ← hstored.addresses, filter_append_of_true]
    · intro row hrow
      obtain ⟨shipment, hshipment, hid⟩ := hs.addresses row hrow
      rw [← hid]
      exact beq_false_of_ne (h.id_ne hshipment)
    · intro row hrow
      obtain ⟨address, -, rfl⟩ := List.mem_map.mp hrow
      exact beq_self_eq_true _
  · rw [h.shipmentPackages, h.packages, hof, ← hstored.packages, filter_append_of_true]
    · intro row hrow
      obtain ⟨shipment, hshipment, hid⟩ := hs.packages row hrow
      rw [← hid]
      exact beq_false_of_ne (h.id_ne hshipment)
    · intro row hrow
      obtain ⟨item, -, rfl⟩ := List.mem_map.mp hrow
      exact beq_self_eq_true _

theorem copied_execute (hs : Copied s) (hsound : Sound s c) : Copied (execute P c input s).2 where
  simulation := by
    intro shipment hshipment
    rcases mem_shipments_execute P c input hshipment with
      hold | ⟨tenantId, actorId, simulation, selected, rfl, rfl, -, -⟩
    · obtain ⟨simulation, hsimulation, hid⟩ := hs.simulation shipment hold
      exact ⟨simulation, simulation_execute P c input hsimulation, hid⟩
    · exact ⟨simulation.simulation, simulation_execute P _ input hsound.1.simulation_mem, rfl⟩
  copied := by
    intro shipment hshipment
    rcases mem_shipments_execute P c input hshipment with
      hold | ⟨tenantId, actorId, simulation, selected, rfl, rfl, -, hshipped⟩
    · exact copiedOnce_execute P c input hs hold
    · exact copiedOnce_of_shipped hs hsound.1 hshipped rfl rfl
  addresses := by
    obtain ⟨hsame, -⟩ | ⟨tenantId, actorId, simulation, selected, rfl, -, hshipped⟩ :=
      shipments_cases P c input s
    · rw [hsame.shipmentAddresses, hsame.shipments]
      exact hs.addresses
    · rw [hshipped.shipmentAddresses, hshipped.shipments]
      apply hs.addresses.append
      intro row hrow
      obtain ⟨address, -, rfl⟩ := List.mem_map.mp hrow
      rfl
  packages := by
    obtain ⟨hsame, -⟩ | ⟨tenantId, actorId, simulation, selected, rfl, -, hshipped⟩ :=
      shipments_cases P c input s
    · rw [hsame.shipmentPackages, hsame.shipments]
      exact hs.packages
    · rw [hshipped.shipmentPackages, hshipped.shipments]
      apply hs.packages.append
      intro row hrow
      obtain ⟨item, -, rfl⟩ := List.mem_map.mp hrow
      rfl

end Execute

theorem copied_run (P : Platform) {s : Store} (hs : Copied s) (acts : List FreightAction) :
    Copied ((freightSystem P).runActions (Config.initial s) acts).store :=
  (freightSystem P).store_run (J := Copied)
    (fun _ cmd input hs hsound => copied_execute P cmd input hs hsound) acts _ hs
    (sound_along P s acts)

theorem shipmentsOf_next (P : Platform) (simulationId : Id) (c : FreightConfig)
    (a : FreightAction) :
    (if MakesCall (CreatesShipmentOf P simulationId) c a then 1 else 0) +
        shipmentsOf simulationId c.store ≤
      shipmentsOf simulationId ((freightSystem P).next c a).store := by
  obtain ⟨r, rfl, hn⟩ | ⟨i, input, r, h, cmd, k, rfl, hi, hcall, hn⟩ | ⟨hn, hcall⟩ :=
    (freightSystem P).next_cases c a
  · simp [MakesCall, Config.nextCall, hn]
  · have hexecute := shipmentsOf_execute P cmd input simulationId c.store
    simp only [MakesCall, hcall, hn]
    exact hexecute
  · simp [MakesCall, hcall, hn]

theorem sameShipments_next (P : Platform) (c : FreightConfig) (a : FreightAction)
    (hcreates : ∀ simulationId, ¬MakesCall (CreatesShipmentOf P simulationId) c a) :
    SameShipments c.store ((freightSystem P).next c a).store := by
  obtain ⟨r, rfl, hn⟩ | ⟨i, input, r, h, cmd, k, rfl, hi, hcall, hn⟩ | ⟨hn, hcall⟩ :=
    (freightSystem P).next_cases c a
  · rw [hn]
    exact .refl _
  · rw [hn]
    apply sameShipments_execute P cmd input
    intro simulationId hcreates'
    apply hcreates simulationId
    simpa only [MakesCall, hcall] using hcreates'
  · rw [hn]
    exact .refl _

/-- A call that answers with a shipment answers with the stored one of its
simulation. -/
theorem shipment_of_presented {c : FreightConfig} (hc : Informed c)
    {t : Thread freightInterface Request Reply} (ht : t ∈ c.threads)
    {tenantId actorId simulationId : Id}
    (hrequest : t.request = .createShipment tenantId actorId simulationId) {view : ShipmentView}
    (hview : t.program = .pure (.shipment view)) :
    ∃ shipment ∈ c.store.shipments.rows,
      shipment.simulationId = simulationId ∧ shipment.id = view.id := by
  have hobeys := hc.obeying t ht
  rw [hview] at hobeys
  obtain ⟨tenantId', actorId', simulationId', hr, shipment, row, hlearnt, hfound, hid⟩ :=
    hobeys.presented view rfl view rfl
  rw [hrequest] at hr
  obtain ⟨rfl, rfl, rfl⟩ := Request.createShipment.inj hr
  have hrow := hc.knowing t ht _ hfound row rfl
  obtain hlearnt | ⟨_, _, simulation, _, hload, hstore⟩ := hlearnt
  · obtain ⟨hmem, hof⟩ := hc.knowing t ht _ hlearnt shipment rfl
    exact ⟨shipment, hmem, hof, by rw [hid, hrow.2]⟩
  · obtain ⟨hmem, hof⟩ := hc.knowing t ht _ hstore shipment rfl
    obtain ⟨hloaded, -⟩ := hc.knowing t ht _ hload simulation rfl
    exact ⟨shipment, hmem, hof.trans hloaded, by rw [hid, hrow.2]⟩

/-- Two calls find no shipment, and both try to store one. -/
def shipmentRace : List FreightAction :=
  [.start (.selectOption "tenant" "ana" "simulation" "slow"),
    .step 0 (shippingInput 1 ""), .step 0 (shippingInput 2 ""),
    .start (.createShipment "tenant" "ana" "simulation"),
    .start (.createShipment "tenant" "bia" "simulation"),
    .step 1 (shippingInput 3 ""), .step 2 (shippingInput 4 ""),
    .step 1 (shippingInput 5 ""), .step 2 (shippingInput 6 ""),
    .step 1 (shippingInput 7 "first"), .step 2 (shippingInput 8 "second")]

theorem copied_twoOptions : Copied twoOptions := by
  constructor <;> simp [twoOptions, Store.empty, Table.empty, BelongTo]

/-- The second call is refused. -/
example : (((freightSystem plainPlatform).runActions (Config.initial twoOptions)
    shipmentRace).threads.map fun t => t.program.error?) =
      [none, none, some shipmentExists] := by
  decide +kernel

end Logistics.Shipping
