import Logistics.Shipping.Service

/-!
# What the calls do to quotes and shipments

Three transactions write these tables: storing a simulation, selecting one of
its options, and storing a shipment. `execute_cases` says all of what each of
them does when it commits, and that every other call leaves the tables as they
are. What a call reads of a simulation stays true except for the selection.
-/

namespace Logistics.Shipping

open Logistics.Library Logistics.Quoting

/-! ## Options up to their selection -/

/-- Apart from the selection, the same option. -/
def SameOption (a b : FreightSimulationOption) : Prop :=
  unselect a = unselect b

namespace SameOption

theorem refl (a : FreightSimulationOption) : SameOption a a := rfl

theorem trans {a b c : FreightSimulationOption} (hab : SameOption a b) (hbc : SameOption b c) :
    SameOption a c :=
  Eq.trans hab hbc

theorem field_eq {α : Type} {f : FreightSimulationOption → α}
    {a b : FreightSimulationOption} (h : SameOption a b)
    (hf : ∀ row, f (unselect row) = f row) : f a = f b := by
  rw [← hf a, ← hf b, show unselect a = unselect b from h]

theorem id_eq {a b : FreightSimulationOption} (h : SameOption a b) : a.id = b.id :=
  h.field_eq fun _ => rfl

theorem tenantId_eq {a b : FreightSimulationOption} (h : SameOption a b) :
    a.tenantId = b.tenantId :=
  h.field_eq fun _ => rfl

theorem simulationId_eq {a b : FreightSimulationOption} (h : SameOption a b) :
    a.simulationId = b.simulationId :=
  h.field_eq fun _ => rfl

end SameOption

/-- What selecting an option makes of a row. -/
def reselect (now : Time) (simulationId tenantId optionId : Id) (row : FreightSimulationOption) :
    FreightSimulationOption :=
  if row.id = optionId then select now row
  else if row.simulationId = simulationId ∧ row.tenantId = tenantId then unselect row
  else row

section Reselect

variable {now : Time} {simulationId tenantId optionId : Id} {row : FreightSimulationOption}

theorem sameOption_reselect (now : Time) (simulationId tenantId optionId : Id)
    (row : FreightSimulationOption) :
    SameOption (reselect now simulationId tenantId optionId row) row := by
  unfold reselect
  split
  · rfl
  · split <;> rfl

@[simp] theorem reselect_id :
    (reselect now simulationId tenantId optionId row).id = row.id :=
  (sameOption_reselect ..).id_eq

@[simp] theorem reselect_tenantId :
    (reselect now simulationId tenantId optionId row).tenantId = row.tenantId :=
  (sameOption_reselect ..).tenantId_eq

@[simp] theorem reselect_simulationId :
    (reselect now simulationId tenantId optionId row).simulationId = row.simulationId :=
  (sameOption_reselect ..).simulationId_eq

theorem reselect_selected :
    (reselect now simulationId tenantId optionId row).selected = true ↔
      row.id = optionId ∨
        ¬(row.simulationId = simulationId ∧ row.tenantId = tenantId) ∧ row.selected = true := by
  unfold reselect
  by_cases hid : row.id = optionId
  · simp [hid, select]
  · by_cases howner : row.simulationId = simulationId ∧ row.tenantId = tenantId
    · simp [hid, howner, unselect]
    · simp [hid, howner]

end Reselect

/-! ## The transactions -/

structure Untouched (s s' : Store) : Prop where
  freightSimulations : s'.freightSimulations = s.freightSimulations
  freightSimulationAddresses : s'.freightSimulationAddresses = s.freightSimulationAddresses
  freightSimulationPackages : s'.freightSimulationPackages = s.freightSimulationPackages
  freightSimulationOptions : s'.freightSimulationOptions = s.freightSimulationOptions
  shipments : s'.shipments = s.shipments
  shipmentAddresses : s'.shipmentAddresses = s.shipmentAddresses
  shipmentPackages : s'.shipmentPackages = s.shipmentPackages

theorem Untouched.refl (s : Store) : Untouched s s := ⟨rfl, rfl, rfl, rfl, rfl, rfl, rfl⟩

/-- A simulation is stored under a new identifier, with options of which none is
selected. -/
structure Quoted (s s' : Store) (simulation : FreightSimulation) : Prop where
  fresh : ∀ row ∈ s.freightSimulations.rows, row.id ≠ simulation.id
  freightSimulations : s'.freightSimulations.rows = s.freightSimulations.rows ++ [simulation]
  addresses : ∃ rows, s'.freightSimulationAddresses = s.freightSimulationAddresses ++ rows ∧
    ∀ row ∈ rows, row.simulationId = simulation.id
  packages : ∃ rows,
    s'.freightSimulationPackages.rows = s.freightSimulationPackages.rows ++ rows ∧
      ∀ row ∈ rows, row.simulationId = simulation.id
  options : ∃ rows,
    s'.freightSimulationOptions.rows = s.freightSimulationOptions.rows ++ rows ∧
      ∀ row ∈ rows, row.simulationId = simulation.id ∧ row.tenantId = simulation.tenantId ∧
        row.selected = false
  shipments : s'.shipments = s.shipments
  shipmentAddresses : s'.shipmentAddresses = s.shipmentAddresses
  shipmentPackages : s'.shipmentPackages = s.shipmentPackages

/-- The selection of a simulation is replaced. -/
structure Reselected (s s' : Store) (now : Time) (simulationId tenantId optionId : Id) :
    Prop where
  stored : ∃ row ∈ s.freightSimulationOptions.rows, row.id = optionId
  options : s'.freightSimulationOptions.rows =
    s.freightSimulationOptions.rows.map (reselect now simulationId tenantId optionId)
  freightSimulations : s'.freightSimulations = s.freightSimulations
  addresses : s'.freightSimulationAddresses = s.freightSimulationAddresses
  packages : s'.freightSimulationPackages = s.freightSimulationPackages
  shipments : s'.shipments = s.shipments
  shipmentAddresses : s'.shipmentAddresses = s.shipmentAddresses
  shipmentPackages : s'.shipmentPackages = s.shipmentPackages

/-- A shipment is stored with its copies, none of its keys being taken. -/
structure Shipped (s s' : Store) (tenantId : Id) (simulation : LoadedSimulation)
    (shipment : Shipment) : Prop where
  fresh : ∀ key ∈ shipment.keys, ∀ row ∈ s.shipments.rows, key ∉ row.keys
  shipments : s'.shipments.rows = s.shipments.rows ++ [shipment]
  shipmentAddresses : s'.shipmentAddresses =
    s.shipmentAddresses ++ simulation.addresses.map (addressRow tenantId shipment.id)
  shipmentPackages : s'.shipmentPackages =
    s.shipmentPackages ++ simulation.packages.map (packageRow tenantId shipment.id)
  freightSimulations : s'.freightSimulations = s.freightSimulations
  addresses : s'.freightSimulationAddresses = s.freightSimulationAddresses
  packages : s'.freightSimulationPackages = s.freightSimulationPackages
  options : s'.freightSimulationOptions = s.freightSimulationOptions

theorem storeSimulation_cases (P : Platform) (s : Store) (input : Input) (tenantId actorId : Id)
    (data : SimulationData) :
    (storeSimulation P s input tenantId actorId data).2 = s ∨
      Quoted s (storeSimulation P s input tenantId actorId data).2
        (simulationRow P s input tenantId actorId data) := by
  unfold storeSimulation
  dsimp only
  split
  · exact .inl rfl
  split
  · exact .inl rfl
  · split
    · next simulations packages options hsimulations hpackages hoptions =>
      refine .inr ⟨?_, Table.tryInsert_rows hsimulations, ⟨_, rfl, ?_⟩,
        ⟨_, Table.tryInsertAll_rows hpackages, ?_⟩, ⟨_, Table.tryInsertAll_rows hoptions, ?_⟩,
        rfl, rfl, rfl⟩
      · intro row hrow hid
        exact Table.fresh_of_tryInsert hsimulations _ List.mem_cons_self row hrow
          (List.mem_singleton.mpr hid.symm)
      · intro row hrow
        simp only [List.mem_cons, List.not_mem_nil, or_false] at hrow
        obtain rfl | rfl := hrow <;> rfl
      · intro row hrow
        obtain ⟨n, hn, rfl⟩ := List.mem_mapIdx.mp hrow
        rfl
      · intro row hrow
        obtain ⟨n, hn, rfl⟩ := List.mem_mapIdx.mp hrow
        exact ⟨rfl, rfl, rfl⟩
    · exact .inl rfl

theorem untouched_quoting (P : Platform) {c : Quoting.Command}
    (hc : ∀ tenantId actorId data, c ≠ .storeSimulation tenantId actorId data) (input : Input)
    (s : Store) : Untouched s (execute P (.inl c) input s).2 := by
  change Untouched s (Quoting.execute P c input s).2
  cases c with
  | now => exact .refl s
  | storeSimulation tenantId actorId data => exact absurd rfl (hc tenantId actorId data)
  | recordAudit audit =>
      by_cases hf : input.fault = true
      · rw [Quoting.execute, if_pos hf]
        exact .refl s
      · rw [Quoting.execute, if_neg hf]
        exact ⟨rfl, rfl, rfl, rfl, rfl, rfl, rfl⟩
  | _ =>
      by_cases hf : input.fault = true
      · rw [Quoting.execute, if_pos hf]
        exact .refl s
      · rw [Quoting.execute, if_neg hf]
        exact .refl s

theorem selectOptionRows_cases (s : Store) (now : Time) (simulationId tenantId optionId : Id) :
    selectOptionRows s now simulationId tenantId optionId = (.error .recordNotFound, s) ∨
      (selectOptionRows s now simulationId tenantId optionId).1 = .ok () ∧
        Reselected s (selectOptionRows s now simulationId tenantId optionId).2 now simulationId
          tenantId optionId := by
  unfold selectOptionRows
  split
  · next hstored =>
    refine .inr ⟨rfl, ⟨by simpa using hstored, ?_, rfl, rfl, rfl, rfl, rfl, rfl⟩⟩
    change (List.map _ (List.map _ s.freightSimulationOptions.rows)) = _
    rw [List.map_map]
    apply List.map_congr_left
    intro row _
    unfold reselect
    by_cases hid : row.id = optionId <;>
      by_cases howner : row.simulationId = simulationId ∧ row.tenantId = tenantId <;>
        simp [hid, howner, unselect, select]
  · exact .inl rfl

theorem storeShipmentRows_cases (P : Platform) (s : Store) (input : Input)
    (tenantId actorId : Id) (simulation : LoadedSimulation) (selected : FreightSimulationOption) :
    storeShipmentRows P s input tenantId actorId simulation selected =
        (.error .uniqueViolation, s) ∨
      (storeShipmentRows P s input tenantId actorId simulation selected).1 =
          .ok (shipmentRow P input tenantId actorId simulation selected) ∧
        Shipped s (storeShipmentRows P s input tenantId actorId simulation selected).2 tenantId
          simulation (shipmentRow P input tenantId actorId simulation selected) := by
  unfold storeShipmentRows
  dsimp only
  split
  · exact .inl rfl
  · next shipments hinsert =>
    exact .inr ⟨rfl, Table.fresh_of_tryInsert hinsert, Table.tryInsert_rows hinsert, rfl, rfl, rfl,
      rfl, rfl, rfl⟩

/-- A call leaves the tables of quotes and shipments as they were, and fails if it
was to store a shipment; or it is one of the three transactions, and commits. -/
theorem execute_cases (P : Platform) (c : freightInterface.Command) (input : Input) (s : Store) :
    (Untouched s (execute P c input s).2 ∧
      ∀ tenantId actorId simulation selected,
        c = .inr (.storeShipment tenantId actorId simulation selected) →
          ∃ error, (execute P c input s).1 = .error error) ∨
    (∃ tenantId actorId data, c = .inl (.storeSimulation tenantId actorId data) ∧
      Quoted s (execute P c input s).2 (simulationRow P s input tenantId actorId data)) ∨
    (∃ simulationId tenantId optionId,
      c = .inr (.selectOption simulationId tenantId optionId) ∧
        (execute P (.inr (.selectOption simulationId tenantId optionId)) input s).1 = .ok () ∧
        Reselected s (execute P c input s).2 input.now simulationId tenantId optionId) ∨
    ∃ tenantId actorId simulation selected,
      c = .inr (.storeShipment tenantId actorId simulation selected) ∧
        (execute P (.inr (.storeShipment tenantId actorId simulation selected)) input s).1 =
          .ok (shipmentRow P input tenantId actorId simulation selected) ∧
        Shipped s (execute P c input s).2 tenantId simulation
          (shipmentRow P input tenantId actorId simulation selected) := by
  cases c with
  | inl c =>
      cases c with
      | storeSimulation tenantId actorId data =>
          by_cases hf : input.fault = true
          · left
            refine ⟨?_, fun _ _ _ _ h => by cases h⟩
            simpa [execute, Backend.extend, Quoting.execute, hf] using Untouched.refl s
          · have hrun : (execute P (.inl (.storeSimulation tenantId actorId data)) input s).2 =
                (storeSimulation P s input tenantId actorId data).2 := by
              simp [execute, Backend.extend, Quoting.execute, hf]
            rcases storeSimulation_cases P s input tenantId actorId data with h | h
            · left
              rw [hrun, h]
              exact ⟨.refl s, fun _ _ _ _ h => by cases h⟩
            · right; left
              rw [hrun]
              exact ⟨tenantId, actorId, data, rfl, h⟩
      | _ => exact .inl ⟨untouched_quoting P (by simp) input s, fun _ _ _ _ h => by cases h⟩
  | inr c =>
      by_cases hf : input.fault = true
      · left
        have hrun : execute P (.inr c) input s = (.error .fault, s) := by
          simp [execute, Backend.extend, executeShipping, hf]
        rw [hrun]
        exact ⟨.refl s, fun _ _ _ _ _ => ⟨_, rfl⟩⟩
      · have hrun : execute P (.inr c) input s = answer P c input s := by
          simp [execute, Backend.extend, executeShipping, hf]
        rw [hrun]
        cases c with
        | selectOption simulationId tenantId optionId =>
            obtain h | ⟨hok, h⟩ :=
              selectOptionRows_cases s input.now simulationId tenantId optionId
            · left
              rw [answer, h]
              exact ⟨.refl s, fun _ _ _ _ h => by cases h⟩
            · right; right; left
              refine ⟨simulationId, tenantId, optionId, rfl, ?_, h⟩
              rw [hrun]
              exact hok
        | storeShipment tenantId actorId simulation selected =>
            obtain h | ⟨hok, h⟩ :=
              storeShipmentRows_cases P s input tenantId actorId simulation selected
            · left
              rw [answer, h]
              exact ⟨.refl s, fun _ _ _ _ _ => ⟨_, rfl⟩⟩
            · right; right; right
              refine ⟨tenantId, actorId, simulation, selected, rfl, ?_, h⟩
              rw [hrun]
              exact hok
        | _ => exact .inl ⟨.refl s, fun _ _ _ _ h => by cases h⟩

end Logistics.Shipping
