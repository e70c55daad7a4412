import Logistics.Carriers.Service

/-!
# Weight limits

The check of a request compares the limits that the request gives, as it gives
them. A stored service has the limits that were given last, rounded to the gram,
and an update may give one of them only. `updatedRow_ordered_iff` says which
requests leave ordered limits.
-/

namespace Logistics.Carriers

open Logistics.Library

def LimitsOrdered (row : CarrierService) : Prop :=
  ∀ low ∈ row.minWeightKg, ∀ high ∈ row.maxWeightKg, low.val < high.val

def AllOrdered (s : CarrierStore) : Prop :=
  ∀ row ∈ s.carrierServices.rows, LimitsOrdered row.toCarrierService

/-- Limits given together stay apart when they are rounded. -/
def RoundsApart (input : CreateCarrierServiceDto) : Prop :=
  ∀ low high, input.minWeightKg = .value low → input.maxWeightKg = .value high →
    low < high → roundHalfUp 3 low < roundHalfUp 3 high

/-- A limit given alone is on its side of the one that is stored. -/
structure FitsStored (input : CreateCarrierServiceDto) (row : CarrierTransportService) : Prop where
  min : input.maxWeightKg = .undefined → ∀ low, input.minWeightKg = .value low →
    ∀ high ∈ row.maxWeightKg, roundHalfUp 3 low < high.val
  max : input.minWeightKg = .undefined → ∀ high, input.maxWeightKg = .value high →
    ∀ low ∈ row.minWeightKg, low.val < roundHalfUp 3 high

theorem serviceRow_ordered_iff (id tenantId carrierId : Id) {input : CreateCarrierServiceDto}
    (hpass : limitsConflict input = false) :
    LimitsOrdered (serviceRow id tenantId carrierId input).toCarrierService ↔
      RoundsApart input := by
  unfold LimitsOrdered RoundsApart serviceRow
  unfold limitsConflict at hpass
  cases hmin : input.minWeightKg with
  | undefined => simp [Property.store]
  | null => simp [Property.store]
  | value low =>
      cases hmax : input.maxWeightKg with
      | undefined => simp [Property.store]
      | null => simp [Property.store]
      | value high =>
          have hlt : low < high := by
            simpa [hmin, hmax, Property.number?] using hpass
          simp [Property.store, hlt]

/-- What an update leaves of a service whose limits are in order. -/
theorem updatedRow_ordered_iff {input : CreateCarrierServiceDto} (status : CarrierServiceStatus)
    {row : CarrierTransportService} (hrow : LimitsOrdered row.toCarrierService)
    (hpass : limitsConflict input = false) :
    LimitsOrdered (updatedRow input status row).toCarrierService ↔
      RoundsApart input ∧ FitsStored input row := by
  have hfits : FitsStored input row ↔
      (input.maxWeightKg = .undefined → ∀ low, input.minWeightKg = .value low →
        ∀ high ∈ row.maxWeightKg, roundHalfUp 3 low < high.val) ∧
      (input.minWeightKg = .undefined → ∀ high, input.maxWeightKg = .value high →
        ∀ low ∈ row.minWeightKg, low.val < roundHalfUp 3 high) :=
    ⟨fun h => ⟨h.min, h.max⟩, fun h => ⟨h.1, h.2⟩⟩
  rw [hfits]
  unfold LimitsOrdered at hrow
  unfold LimitsOrdered RoundsApart updatedRow
  unfold limitsConflict at hpass
  cases hmin : input.minWeightKg with
  | undefined =>
      cases hmax : input.maxWeightKg with
      | undefined => simpa [Property.update] using hrow
      | null => simp [Property.update]
      | value high => simp [Property.update]
  | null =>
      cases hmax : input.maxWeightKg with
      | undefined => simp [Property.update]
      | null => simp [Property.update]
      | value high => simp [Property.update]
  | value low =>
      cases hmax : input.maxWeightKg with
      | undefined => simp [Property.update]
      | null => simp [Property.update]
      | value high =>
          have hlt : low < high := by
            simpa [hmin, hmax, Property.number?] using hpass
          simp [Property.update, hlt]

/-! ## The requests -/

/-- The request leaves the limits of the service in order. -/
def KeepsOrder (r : Request) (s : CarrierStore) : Prop :=
  match r with
  | .createService _ _ input => RoundsApart input
  | .updateService tenantId _ carrierId serviceId input =>
      RoundsApart input ∧ ∀ row ∈ s.carrierServices.rows, row.id = serviceId →
        row.carrierId = carrierId → row.tenantId = tenantId → FitsStored input row

section Requests

variable {s : CarrierStore}

def IsOther : Command → Prop
  | .createService .. | .updateService .. => False
  | _ => True

theorem execute_other {c : Command} (hc : IsOther c) (env : Input) :
    (execute c env s).2.carrierServices = s.carrierServices := by
  unfold execute
  split
  · rfl
  · cases c with
    | createService => exact hc.elim
    | updateService => exact hc.elim
    | _ => rfl

theorem AllOrdered.execute_other (hs : AllOrdered s) (c : Command) (hc : IsOther c) (env : Input) :
    AllOrdered (execute c env s).2 := by
  unfold AllOrdered
  rw [Carriers.execute_other hc]
  exact hs

theorem AllOrdered.execute_create (hs : AllOrdered s) {tenantId carrierId : Id}
    {input : CreateCarrierServiceDto} (hpass : limitsConflict input = false)
    (hinput : RoundsApart input) (env : Input) :
    AllOrdered (execute (.createService tenantId carrierId input) env s).2 := by
  unfold execute answer
  split
  · exact hs
  · dsimp only
    split
    · exact hs
    · split
      · next carrierServices hinsert =>
        intro row hrow
        change row ∈ carrierServices.rows at hrow
        rw [Table.tryInsert_rows hinsert] at hrow
        rcases List.mem_append.mp hrow with hold | hnew
        · exact hs row hold
        · obtain rfl := List.mem_singleton.mp hnew
          exact (serviceRow_ordered_iff _ _ _ hpass).mpr hinput
      · exact hs

theorem AllOrdered.execute_update (hs : AllOrdered s) {id : Id}
    {input : CreateCarrierServiceDto} (status : CarrierServiceStatus)
    (hpass : limitsConflict input = false) (hinput : RoundsApart input)
    (hfits : ∀ row ∈ s.carrierServices.rows, row.id = id → FitsStored input row) (env : Input) :
    AllOrdered (execute (.updateService id input status) env s).2 := by
  unfold execute answer
  split
  · exact hs
  · dsimp only
    split
    · exact hs
    · split
      · exact hs
      · split
        · next carrierServices hupdate =>
          intro row hrow
          change row ∈ carrierServices.rows at hrow
          rw [Table.tryUpdate_rows hupdate] at hrow
          obtain ⟨old, hold, rfl⟩ := List.mem_map.mp hrow
          split
          · next hid =>
            have hstored := hfits old hold (beq_iff_eq.mp hid)
            exact (updatedRow_ordered_iff status (hs old hold) hpass).mpr ⟨hinput, hstored⟩
          · exact hs old hold
        · exact hs

theorem service_eq_of_id {a b : CarrierTransportService} (ha : a ∈ s.carrierServices.rows)
    (hb : b ∈ s.carrierServices.rows) (hid : a.id = b.id) : a = b :=
  s.carrierServices.eq_of_key (k := .id a.id) ha hb (by simp [CarrierTransportService.keys])
    (by simp [CarrierTransportService.keys, hid])

theorem createService_ordered (hs : AllOrdered s) {tenantId carrierId : Id}
    {input : CreateCarrierServiceDto} (hinput : RoundsApart input) :
    (createService tenantId carrierId input).wp execute (fun _ _ _ => True) (fun _ _ _ => True)
      (fun _ s' => AllOrdered s') s := by
  apply Program.wp_perform_bind
  intro env _
  have hs₁ := hs.execute_other (.findCarrier carrierId tenantId) trivial env
  refine ⟨trivial, fun found _ => ?_, fun _ _ => hs₁⟩
  cases found with
  | none => exact hs₁
  | some carrier =>
      apply Program.wp_throwIf_bind fun _ => hs₁
      intro hpass
      rw [Bool.not_eq_true] at hpass
      have hstored : (Program.tryCatch (call (.createService tenantId carrierId input)) fun error =>
          if error = .uniqueViolation then
            throw (.conflict "Código de serviço já existe nesta transportadora.")
          else throw error).wp execute (fun _ _ _ => True) (fun _ _ _ => True)
            (fun _ s' => AllOrdered s') (execute (.findCarrier carrierId tenantId) env s).2 := by
        apply Program.wp_tryCatch (Q := fun _ s' => AllOrdered s')
        · exact Program.wp_perform (I := carrierInterface) (J := AllOrdered)
            (c := .createService tenantId carrierId input)
            fun env' _ => ⟨trivial, hs₁.execute_create hpass hinput env'⟩
        · exact fun _ _ hs' => hs'
        · intro error s' hs'
          split <;> exact hs'
      exact Program.wp_bind hstored (fun _ _ hs' => hs') fun _ _ hs' => hs'

theorem updateService_ordered (hs : AllOrdered s) {tenantId actorId carrierId serviceId : Id}
    {input : CreateCarrierServiceDto}
    (h : KeepsOrder (.updateService tenantId actorId carrierId serviceId input) s) :
    (updateService tenantId actorId carrierId serviceId input).wp execute (fun _ _ _ => True)
      (fun _ _ _ => True) (fun _ s' => AllOrdered s') s := by
  obtain ⟨hinput, hfits⟩ := h
  apply Program.wp_perform_bind
  intro env _
  have hs₁ := hs.execute_other (.findService serviceId carrierId tenantId) trivial env
  refine ⟨trivial, fun found hfound => ?_, fun _ _ => hs₁⟩
  have hread : (execute (.findService serviceId carrierId tenantId) env s).2 = s := by
    unfold execute
    split <;> rfl
  rw [hread]
  cases found with
  | none => exact hs
  | some service =>
      have hfind : s.carrierServices.rows.find? (fun row =>
          row.id == serviceId && row.carrierId == carrierId && row.tenantId == tenantId) =
            some service := by
        unfold execute at hfound
        split at hfound
        · cases hfound
        · exact Except.ok.inj hfound
      have hservice := List.mem_of_find?_eq_some hfind
      have hfields := List.find?_some hfind
      simp only [Bool.and_eq_true, beq_iff_eq] at hfields
      obtain ⟨⟨hid, hcarrier⟩, htenant⟩ := hfields
      -- the row that is updated is the one that was found
      have hstored : ∀ row ∈ s.carrierServices.rows, row.id = serviceId → FitsStored input row := by
        intro row hrow hrowId
        obtain rfl := service_eq_of_id hrow hservice (hrowId.trans hid.symm)
        exact hfits row hrow hid hcarrier htenant
      apply Program.wp_throwIf_bind fun _ => hs
      intro hpass
      rw [Bool.not_eq_true] at hpass
      apply Program.wp_perform_bind
      intro env' _
      have hs' := hs.execute_update (input.status.getD service.status) hpass hinput hstored env'
      refine ⟨trivial, fun updated _ => ?_, fun _ _ => hs'⟩
      apply Program.wp_perform_bind
      intro env'' _
      have hrecorded := fun audit => hs'.execute_other (.recordAudit audit) trivial env''
      exact ⟨trivial, fun _ _ => hrecorded _, fun _ _ => hrecorded _⟩

theorem request_ordered (hs : AllOrdered s) {r : Request} (h : KeepsOrder r s) (ω : ℕ → Input) :
    AllOrdered ((handle r).run execute ω s).2 := by
  cases r with
  | createService tenantId carrierId input =>
      exact Program.wp_run (createService_ordered hs h) (Program.along_true _ ω s)
  | updateService tenantId actorId carrierId serviceId input =>
      exact Program.wp_run (updateService_ordered hs h) (Program.along_true _ ω s)

end Requests

/-- In every run whose requests keep the order, every stored service has its limits in
order after each request. -/
theorem limits_stay_ordered (s : CarrierStore) (hs : AllOrdered s)
    (calls : List (Request × (ℕ → Input)))
    (hcalls : carrierSystem.AlongRuns (fun r _ before => KeepsOrder r before) calls s) :
    carrierSystem.AlongRuns
      (fun r ω before => AllOrdered ((handle r).run execute ω before).2) calls s :=
  System.alongRuns_of_invariant (J := AllOrdered) (fun _ ω _ hs h => request_ordered hs h ω)
    (fun _ ω _ hs h => request_ordered hs h ω) calls s hs hcalls

/-! ## A carrier with one service -/

def oneCarrier : CarrierStore :=
  ⟨⟨[⟨"carrier", "tenant", "Transportadora", true⟩], by decide⟩, .empty, []⟩

def express (minWeightKg maxWeightKg : Property Decimal) : CreateCarrierServiceDto where
  code := "EXP"
  name := "Expresso"
  modality := "Rodoviario"
  defaultDeadlineDays := 2
  cubicFactor := 300
  minWeightKg := minWeightKg
  maxWeightKg := maxWeightKg
  maxLengthCm := .undefined
  maxWidthCm := .undefined
  maxHeightCm := .undefined
  minimumValue := 10
  description := none
  status := none

def carrierInputs (start n : ℕ) : Input := ⟨n, fun k => toString (start + n + k), false, fun _ => 0⟩

/-- The service "1" is created with these limits, and then updated to those. -/
def createAndUpdate (first then' : Property Decimal × Property Decimal) :
    List (Request × (ℕ → Input)) :=
  [(.createService "tenant" "carrier" (express first.1 first.2), carrierInputs 0),
    (.updateService "tenant" "ana" "carrier" "1" (express then'.1 then'.2), carrierInputs 10)]

instance (row : CarrierService) : Decidable (LimitsOrdered row) := by
  unfold LimitsOrdered
  infer_instance

instance (s : CarrierStore) : Decidable (AllOrdered s) := by
  unfold AllOrdered
  infer_instance

theorem allOrdered_oneCarrier : AllOrdered oneCarrier := by
  intro row hrow
  cases hrow

/-- A minimum of 1 kg is created, and a maximum of 5 kg added. -/
theorem limits_stay_ordered_maximumAdded :
    AllOrdered (carrierSystem.runCalls
      (createAndUpdate (.value 1, .undefined) (.undefined, .value 5)) oneCarrier) := by
  have hkeeps : carrierSystem.AlongRuns (fun r _ before => KeepsOrder r before)
      (createAndUpdate (.value 1, .undefined) (.undefined, .value 5)) oneCarrier := by
    have hcreate : RoundsApart (express (.value 1) .undefined) := by
      intro low high _ hmax
      cases hmax
    have hupdate : RoundsApart (express .undefined (.value 5)) := by
      intro low high hmin
      cases hmin
    have hbelow : ∀ row ∈ (carrierSystem.runCalls [(.createService "tenant" "carrier"
        (express (.value 1) .undefined), carrierInputs 0)] oneCarrier).carrierServices.rows,
          ∀ low ∈ row.minWeightKg, low.val < roundHalfUp 3 5 := by
      decide +kernel
    refine ⟨hcreate, ⟨hupdate, fun row hrow _ _ _ => ⟨fun hmax => ?_, fun _ high hmax => ?_⟩⟩,
      trivial⟩
    · cases hmax
    · cases hmax
      exact hbelow row hrow
  exact (limits_stay_ordered oneCarrier allOrdered_oneCarrier _ hkeeps).2.1

/-- An update that gives only the maximum is not compared with the stored minimum;
and limits that differ by less than a gram are stored as the same weight. -/
theorem a_partial_update_swaps_the_limits :
    (express (.value 10) .undefined).isValid = true ∧
      (express .undefined (.value 5)).isValid = true ∧ AllOrdered oneCarrier ∧
      ¬AllOrdered (carrierSystem.runCalls
        (createAndUpdate (.value 10, .undefined) (.undefined, .value 5)) oneCarrier) ∧
      ¬AllOrdered (carrierSystem.runCalls [(.createService "tenant" "carrier"
        (express (.value (10001 / 10000)) (.value (10002 / 10000))), carrierInputs 0)]
          oneCarrier) := by
  decide +kernel

end Logistics.Carriers
