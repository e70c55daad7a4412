import Logistics.Quoting.Snapshot
import Logistics.RateTables.Checks

/-!
# Historical options keep their rate

A quote reads the rate tables, prices its options and stores them later, in a
transaction that looks at no rate table again; replacing a table deletes its ranges,
and counts the options of the table in an earlier call. A table can be replaced
between the reading and the storing of a quote, or between the counting and the
replacing of an update. The foreign keys of the options stand in between: a quote
whose range is gone cannot be stored, and a range with an option cannot be deleted. So
every option names a stored range with the values it was priced with, as long as no
new range takes the identifier of one that a quote under way has read.
-/

namespace Logistics.RateTables

open Logistics.Library Logistics.Pricing Logistics.Quoting

/-! ## What a quote has read -/

abbrev RateTableThread : Type := Thread rateTableInterface Request Reply

abbrev RateTableConfig : Type := Config rateTableInterface Request Reply Store

def tablesRead : Event rateTableInterface → List EligibleRateTable
  | ⟨.inl (.findServices ..), .ok services⟩ =>
      services.filterMap fun service => service.freightRateTables.head?
  | _ => []

def StoresQuoteCall : rateTableInterface.Command → Prop
  | .inl (.storeSimulation ..) => True
  | _ => False

instance : DecidablePred StoresQuoteCall := by
  intro c
  refine decideExtended (fun c => ?_) (fun _ => isFalse id) c
  apply @Quoting.Command.casesOn (fun c => Decidable (StoresQuoteCall (.inl c))) c <;>
    intros <;> dsimp only [StoresQuoteCall] <;> infer_instance

/-- The thread still has calls to make, and has not stored a quote. -/
def Unsettled (t : RateTableThread) : Prop :=
  (∃ c k, t.program = .call c k) ∧ ∀ e ∈ t.history, ¬StoresQuoteCall e.1

instance (t : RateTableThread) : Decidable (Unsettled t) := by
  unfold Unsettled
  cases t.program with
  | pure a => exact isFalse fun h => by obtain ⟨⟨_, _, hcall⟩, -⟩ := h; cases hcall
  | throw e => exact isFalse fun h => by obtain ⟨⟨_, _, hcall⟩, -⟩ := h; cases hcall
  | call c k =>
      exact decidable_of_iff (∀ e ∈ t.history, ¬StoresQuoteCall e.1)
        ⟨fun h => ⟨⟨c, k, rfl⟩, h⟩, And.right⟩

/-- The candidate was priced with a range of a table that was read. -/
def PricedWith (h : List (Event rateTableInterface)) (item : CandidateOption) : Prop :=
  (∃ e ∈ h, item.rateTable ∈ tablesRead e) ∧ item.rateRange ∈ item.rateTable.ranges ∧
    ∃ input date distanceKm, item.calculated = calculate
      (calculationInput input date distanceKm item.service.service item.rateTable item.rateRange)

/-- A quote is stored once, with candidates priced from what was read. -/
def QuoteCall (h : List (Event rateTableInterface)) : rateTableInterface.Command → Prop
  | .inl (.storeSimulation _ _ data) =>
      (∀ e ∈ h, ¬StoresQuoteCall e.1) ∧ ∀ item ∈ data.candidateOptions, PricedWith h item
  | _ => True

theorem quoteCall_of_not_stores {h : List (Event rateTableInterface)}
    {c : rateTableInterface.Command} (hc : ¬StoresQuoteCall c) : QuoteCall h c := by
  rcases c with c | c
  · cases c with
    | storeSimulation => exact (hc trivial).elim
    | _ => trivial
  · trivial

theorem not_stores_of_isRead {c : Quoting.Command} (hc : IsRead c) :
    ¬StoresQuoteCall (.inl c) := by
  cases c with
  | storeSimulation => exact hc.elim
  | _ => exact id

theorem obeys_of_issues {α : Type} {p : Program rateTableInterface α}
    (hp : p.Issues fun c => ¬StoresQuoteCall c) (h : List (Event rateTableInterface)) :
    p.Obeys QuoteCall (fun _ _ => True) h :=
  hp.obeys_each (fun _ hc _ => quoteCall_of_not_stores hc) h

theorem pricedWith_of_evaluateServices {P : Platform} {input : CreateFreightSimulationDto}
    {date : Time} {distanceKm : Decimal} {services : List EligibleCarrierService}
    {unavailable : List UnavailableService} {items : List CandidateOption}
    (h : evaluateServices P input date distanceKm services = .ok (unavailable, items))
    (tenantId : Id) (carrierServiceId carrierId : Option Id)
    (before : List (Event rateTableInterface)) :
    ∀ item ∈ items, PricedWith (before ++
      [⟨.inl (.findServices tenantId carrierServiceId carrierId date), .ok services⟩]) item := by
  intro item hitem
  obtain ⟨service, hservice, heval⟩ := evaluateServices_candidate h item hitem
  obtain ⟨rfl, htable, hrange, hcalculated⟩ := evaluateService_candidate heval
  refine ⟨⟨_, List.mem_append_right _ List.mem_cons_self, ?_⟩, hrange, input, date, distanceKm,
    hcalculated⟩
  exact List.mem_filterMap.mpr ⟨item.service, hservice, htable⟩

/-- A quote is stored once, and priced with what it has read. -/
theorem create_obeys (P : Platform) (tenantId actorId : Id)
    (input : CreateFreightSimulationDto) :
    (Quoting.create P tenantId actorId input).Obeys
      (fun h c => QuoteCall (h.map extendEvent) (.inl c)) (fun _ _ => True) [] := by
  -- before the transaction the thread has only made reads
  have hreads : ∀ {α : Type} {p : Program quotingInterface α} {h : List (Event quotingInterface)},
      p.Issues IsRead → (∀ e ∈ h, IsRead e.1) →
      p.Obeys (fun h c => QuoteCall (h.map extendEvent) (.inl c)) (fun h _ => ∀ e ∈ h, IsRead e.1)
        h := by
    intro α p h hp hh
    apply hp.obeys_growing ?_ ?_ hh
    · exact fun c hc h _ => quoteCall_of_not_stores (not_stores_of_isRead hc)
    · intro h e he hh e' he'
      rcases List.mem_append.mp he' with he' | he'
      · exact hh e' he'
      · exact List.mem_singleton.mp he' ▸ he
  unfold create
  apply Program.Obeys.bind (hreads (resolveShipDate_isRead _) (by simp)) ?_ fun _ _ _ => trivial
  intro h₁ date hh₁
  apply Program.Obeys.bind (hreads (resolveCustomer_isRead _) hh₁) ?_ fun _ _ _ => trivial
  intro h₂ customer hh₂
  apply Program.Obeys.ofExcept_bind ?_ fun _ _ => trivial
  intro distanceKm _
  apply Program.Obeys.perform_bind trivial ?_ fun _ => trivial
  intro services
  apply Program.Obeys.ofExcept_bind ?_ fun _ _ => trivial
  intro evaluated hevaluated
  apply Program.Obeys.ofExcept_bind ?_ fun _ _ => trivial
  intro data hdata
  apply Program.Obeys.perform_bind ?_ ?_ fun _ => trivial
  · constructor
    · intro e he
      obtain ⟨⟨c, x⟩, hmem, rfl⟩ := List.mem_map.mp he
      have hread : IsRead c := by
        rcases List.mem_append.mp hmem with hmem | hmem
        · exact hh₂ _ hmem
        · cases List.mem_singleton.mp hmem
          trivial
      exact not_stores_of_isRead hread
    · rw [candidateOptions_of_simulationData hdata, List.map_append]
      exact pricedWith_of_evaluateServices hevaluated tenantId (truthy input.carrierServiceId)
        (truthy input.carrierId) (h₂.map extendEvent)
  · intro simulation
    have hrest : ∀ {α : Type} {p : Program quotingInterface α} {h : List (Event quotingInterface)},
        p.Issues StoresNoQuote →
        p.Obeys (fun h c => QuoteCall (h.map extendEvent) (.inl c)) (fun _ _ => True) h := by
      intro α p h hp
      apply hp.obeys_each
      intro c hc h
      cases c with
      | storeSimulation => exact hc.elim
      | _ => trivial
    apply hrest
    apply (Program.Issues.perform trivial).bind
    intro _
    apply (Program.Issues.perform trivial).bind
    intro _
    apply (Program.Issues.perform trivial).bind
    intro found
    cases found <;> trivial

/-! ## Administering stores no quote -/

/-- A call of administering rate tables, or its audit. -/
def Administers : rateTableInterface.Command → Prop
  | .inl (.recordAudit _) => True
  | .inl _ => False
  | .inr _ => True

theorem not_stores_of_administers {c : rateTableInterface.Command} (hc : Administers c) :
    ¬StoresQuoteCall c := by
  rcases c with c | c
  · cases c with
    | recordAudit => exact id
    | _ => exact hc.elim
  · exact id

theorem administers_getRateTable (tenantId id : Id) :
    (getRateTable tenantId id).Issues Administers := by
  unfold getRateTable
  apply (Program.Issues.perform trivial).bind
  intro found
  cases found with
  | none => trivial
  | some record => exact (Program.Issues.perform trivial).bind fun _ => trivial

theorem administers_checkInput (tenantId : Id) (input : RateTableInputDto) :
    (checkInput tenantId input).Issues Administers := by
  unfold checkInput
  apply (Program.Issues.ofExcept _).bind
  intro _
  apply (Program.Issues.throwIf _ _).bind
  intro _
  apply (Program.Issues.perform trivial).bind
  intro service
  apply (Program.Issues.throwIf _ _).bind
  intro _
  apply (Program.Issues.perform trivial).bind
  intro coverages
  exact Program.Issues.throwIf _ _

theorem administers_createRateTable (tenantId actorId : Id) (input : RateTableInputDto)
    (previousVersionId : Option Id) :
    (createRateTable tenantId actorId input previousVersionId).Issues Administers := by
  unfold createRateTable
  apply (administers_checkInput tenantId input).bind
  intro _
  have hversion : (nextVersion tenantId input.carrierServiceId previousVersionId).Issues
      Administers := by
    cases previousVersionId with
    | none => trivial
    | some id => exact (Program.Issues.perform trivial).bind fun _ => trivial
  apply hversion.bind
  intro version
  apply (Program.Issues.perform trivial).bind
  intro table
  apply (Program.Issues.perform trivial).bind
  intro _
  exact administers_getRateTable tenantId table.id

theorem administers_updateRateTable (tenantId actorId id : Id) (input : RateTableInputDto) :
    (updateRateTable tenantId actorId id input).Issues Administers := by
  unfold updateRateTable
  apply (Program.Issues.perform trivial).bind
  intro found
  cases found with
  | none => trivial
  | some current =>
      apply (Program.Issues.perform trivial).bind
      intro (used : ℕ)
      apply (Program.Issues.throwIf _ _).bind
      intro _
      apply (administers_checkInput tenantId input).bind
      intro _
      apply (Program.Issues.perform trivial).bind
      intro _
      apply (Program.Issues.perform trivial).bind
      intro _
      exact administers_getRateTable tenantId id

theorem administers_updateRateTableStatus (tenantId actorId id : Id)
    (status : FreightRateTableStatus) :
    (updateRateTableStatus tenantId actorId id status).Issues Administers := by
  unfold updateRateTableStatus
  apply (Program.Issues.perform trivial).bind
  intro found
  cases found with
  | none => trivial
  | some table =>
      apply (Program.Issues.throwIf _ _).bind
      intro _
      apply (Program.Issues.perform trivial).bind
      intro updated
      exact (Program.Issues.perform trivial).bind fun _ => trivial

theorem administers_createCoverage (tenantId actorId : Id) (input : CoverageDto) :
    (createCoverage tenantId actorId input).Issues Administers := by
  unfold createCoverage
  apply (Program.Issues.perform trivial).bind
  intro found
  cases found with
  | none => trivial
  | some service =>
      apply (Program.Issues.perform trivial).bind
      intro item
      exact (Program.Issues.perform trivial).bind fun _ => trivial

theorem administers_updateCoverage (tenantId actorId id : Id) (input : CoverageDto) :
    (updateCoverage tenantId actorId id input).Issues Administers := by
  unfold updateCoverage
  apply (Program.Issues.perform trivial).bind
  intro current
  cases current with
  | none => trivial
  | some current =>
      apply (Program.Issues.perform trivial).bind
      intro found
      cases found with
      | none => trivial
      | some service =>
          apply (Program.Issues.perform trivial).bind
          intro item
          exact (Program.Issues.perform trivial).bind fun _ => trivial

theorem handle_obeys (P : Platform) (r : Request) :
    (handle P r).Obeys QuoteCall (fun _ _ => True) [] := by
  have hadministers : ∀ {α : Type} {p : Program rateTableInterface α} (f : α → Reply),
      p.Issues Administers → (f <$> p).Obeys QuoteCall (fun _ _ => True) [] := by
    intro α p f hp
    apply Program.Obeys.map (Q := fun _ _ => True) ?_ (fun _ _ _ => trivial) fun _ _ _ => trivial
    exact obeys_of_issues (hp.mono fun _ => not_stores_of_administers) []
  cases r with
  | createQuote tenantId actorId input =>
      have hcreate := Program.Obeys.lift (Q := fun _ _ => True)
        (create_obeys P tenantId actorId input)
      exact hcreate.map (fun _ _ _ => trivial) fun _ _ _ => trivial
  | createRateTable tenantId actorId input =>
      exact hadministers _ (administers_createRateTable tenantId actorId input none)
  | updateRateTable tenantId actorId id input =>
      exact hadministers _ (administers_updateRateTable tenantId actorId id input)
  | createRateTableVersion tenantId actorId id =>
      apply hadministers
      apply (Program.Issues.perform trivial).bind
      intro found
      cases found with
      | none => trivial
      | some current =>
          exact administers_createRateTable tenantId actorId (versionInput current) (some id)
  | updateRateTableStatus tenantId actorId id status =>
      exact hadministers _ (administers_updateRateTableStatus tenantId actorId id status)
  | createCoverage tenantId actorId input =>
      exact hadministers _ (administers_createCoverage tenantId actorId input)
  | updateCoverage tenantId actorId id input =>
      exact hadministers _ (administers_updateCoverage tenantId actorId id input)

/-! ## What the calls leave in place -/

/-- The ranges that a call stores. -/
def newRanges : rateTableInterface.Command → Input → List FreightRateRange
  | .inr (.storeRateTable tenantId _ _ dto), input => rangeRows input tenantId (input.ids 0) dto
  | .inr (.replaceRateTable tenantId id _ dto), input => rangeRows input tenantId id dto
  | _, _ => []

theorem mem_ranges_execute {P : Platform} {c : rateTableInterface.Command} {input : Input}
    {s : Store} {range : FreightRateRange}
    (h : range ∈ (execute P c input s).2.freightRateRanges.rows) :
    range ∈ s.freightRateRanges.rows ∨ range ∈ newRanges c input := by
  obtain hsame | ⟨_, _, _, _, _, _, rfl, -, hstored⟩ | ⟨_, _, _, _, _, _, rfl, -, hreplaced⟩ |
    ⟨_, _, rfl, hset⟩ | ⟨_, _, rfl, hset⟩ | ⟨_, _, rfl, hset⟩ := execute_cases P c input s
  · exact .inl (hsame.ranges ▸ h)
  · rw [hstored.ranges] at h
    exact List.mem_append.mp h
  · rw [hreplaced.ranges] at h
    rcases List.mem_append.mp h with h | h
    · exact .inl (List.mem_filter.mp h).1
    · exact .inr h
  · exact .inl (hset.ranges ▸ h)
  · exact .inl (hset.ranges ▸ h)
  · exact .inl (hset.ranges ▸ h)

/-- A range that an option names is not deleted. -/
theorem range_mem_execute (P : Platform) (c : rateTableInterface.Command) (input : Input)
    {s : Store} {option : FreightSimulationOption}
    (hoption : option ∈ s.freightSimulationOptions.rows) {range : FreightRateRange}
    (h : range ∈ s.freightRateRanges.rows) (hnamed : range.id = option.rateRangeId) :
    range ∈ (execute P c input s).2.freightRateRanges.rows := by
  obtain hsame | ⟨_, _, _, _, _, _, rfl, -, hstored⟩ | ⟨_, _, _, _, _, _, rfl, -, hreplaced⟩ |
    ⟨_, _, rfl, hset⟩ | ⟨_, _, rfl, hset⟩ | ⟨_, _, rfl, hset⟩ := execute_cases P c input s
  · rw [hsame.ranges]
    exact h
  · rw [hstored.ranges]
    exact List.mem_append_left _ h
  · rw [hreplaced.ranges]
    apply List.mem_append_left
    refine List.mem_filter.mpr ⟨h, ?_⟩
    have hfree := List.any_eq_false.mp hreplaced.unnamed option hoption
    have hkept := List.any_eq_false.mp (Bool.not_eq_true _ ▸ hfree) range h
    rw [hnamed, beq_self_eq_true, Bool.and_true, Bool.not_eq_true] at hkept
    rw [hkept]
    rfl
  · rw [hset.ranges]
    exact h
  · rw [hset.ranges]
    exact h
  · rw [hset.ranges]
    exact h

theorem options_administer (P : Platform) (c : RateTableCommand) (input : Input) (s : Store) :
    (execute P (.inr c) input s).2.freightSimulationOptions = s.freightSimulationOptions := by
  by_cases hf : input.fault = true
  · rw [execute_fault P c s hf]
  · rw [execute_answer P c s hf]
    cases c with
    | storeRateTable tenantId version previousVersionId dto =>
        simp only [answer, storeRateTable]
        split
        · rfl
        · split
          · rfl
          · split <;> rfl
    | replaceRateTable tenantId id status dto =>
        simp only [answer, replaceRateTable]
        split
        · rfl
        · split
          · rfl
          · split
            · rfl
            · split
              · rfl
              · split <;> rfl
    | setStatus id status =>
        simp only [answer, setStatus]
        split <;> rfl
    | storeCoverage tenantId dto =>
        simp only [answer, storeCoverage]
        split <;> rfl
    | updateCoverage id dto =>
        simp only [answer, updateCoverageRow]
        split <;> rfl
    | _ => rfl

theorem storeSimulation_options (P : Platform) (s : Store) (input : Input)
    (tenantId actorId : Id) (data : SimulationData) :
    (∃ error, storeSimulation P s input tenantId actorId data = (.error error, s)) ∨
      ∃ simulation s', storeSimulation P s input tenantId actorId data = (.ok simulation, s') ∧
        s'.freightSimulationOptions.rows = s.freightSimulationOptions.rows ++
          data.candidateOptions.mapIdx (fun n item =>
            optionRow data tenantId simulation.id (input.ids (2 * n + 2)) item) ∧
        ∀ item ∈ data.candidateOptions, ∃ range ∈ s.freightRateRanges.rows,
          range.id = item.rateRange.id := by
  simp only [storeSimulation]
  split
  · exact .inl ⟨_, rfl⟩
  split
  · exact .inl ⟨_, rfl⟩
  · next hrates =>
    split
    · next simulations packages options _ _ hoptions =>
      refine .inr ⟨_, _, rfl, Table.tryInsertAll_rows hoptions, fun item hitem => ?_⟩
      rw [Bool.not_eq_true', Bool.not_eq_false] at hrates
      obtain ⟨n, hn, rfl⟩ := List.mem_iff_getElem.mp hitem
      have hstored := List.all_eq_true.mp hrates _ (List.mem_mapIdx.mpr ⟨n, hn, rfl⟩)
      obtain ⟨range, hrange, hid⟩ := List.any_eq_true.mp (Bool.and_eq_true_iff.mp hstored).2
      exact ⟨range, hrange, beq_iff_eq.mp hid⟩
    · exact .inl ⟨_, rfl⟩

/-- A call leaves the options as they are, or it stores a quote. -/
theorem options_execute (P : Platform) (c : rateTableInterface.Command) (input : Input)
    (s : Store) :
    (execute P c input s).2.freightSimulationOptions = s.freightSimulationOptions ∨
      ∃ tenantId actorId data simulation, c = .inl (.storeSimulation tenantId actorId data) ∧
        (execute P (.inl (.storeSimulation tenantId actorId data)) input s).1 = .ok simulation ∧
        (execute P c input s).2.freightSimulationOptions.rows = s.freightSimulationOptions.rows ++
          data.candidateOptions.mapIdx (fun n item =>
            optionRow data tenantId simulation.id (input.ids (2 * n + 2)) item) ∧
        ∀ item ∈ data.candidateOptions, ∃ range ∈ s.freightRateRanges.rows,
          range.id = item.rateRange.id := by
  rcases c with c | c
  · by_cases hc : StoresNoQuote c
    · exact .inl (sameQuotes_execute P hc input s).options
    · cases c with
      | storeSimulation tenantId actorId data =>
          have hrun : execute P (.inl (.storeSimulation tenantId actorId data)) input s =
              if input.fault then (.error .fault, s)
              else storeSimulation P s input tenantId actorId data := rfl
          by_cases hf : input.fault = true
          · rw [hrun, if_pos hf]
            exact .inl rfl
          · rw [if_neg hf] at hrun
            rcases storeSimulation_options P s input tenantId actorId data with
              ⟨error, h⟩ | ⟨simulation, s', h, hoptions, hranges⟩
            · rw [hrun, h]
              exact .inl rfl
            · right
              rw [hrun, h]
              exact ⟨tenantId, actorId, data, simulation, rfl, congrArg Prod.fst (hrun.trans h),
                hoptions, hranges⟩
      | _ => exact (hc trivial).elim
  · exact .inl (options_administer P c input s)

theorem tablesRead_execute {P : Platform} {c : rateTableInterface.Command} {input : Input}
    {s : Store} {rateTable : EligibleRateTable}
    (h : rateTable ∈ tablesRead ⟨c, (execute P c input s).1⟩) :
    ∀ range ∈ rateTable.ranges, range ∈ (execute P c input s).2.freightRateRanges.rows ∧
      range.rateTableId = rateTable.table.id := by
  rcases c with c | c
  · cases c with
    | findServices tenantId carrierServiceId carrierId date =>
        have hrun : execute P (.inl (.findServices tenantId carrierServiceId carrierId date)) input
            s = if input.fault then (.error .fault, s) else
              (.ok (findServices P s input.tie tenantId carrierServiceId carrierId date), s) := rfl
        by_cases hf : input.fault = true
        · rw [hrun, if_pos hf] at h
          simp [tablesRead] at h
        · rw [if_neg hf] at hrun
          rw [hrun] at h ⊢
          obtain ⟨service, hservice, hhead⟩ := List.mem_filterMap.mp h
          obtain ⟨-, htables⟩ := mem_of_mem_findServices hservice
          have hmem := List.mem_of_mem_head? hhead
          rw [htables] at hmem
          obtain ⟨table, -, rfl⟩ := List.mem_map.mp hmem
          intro range hrange
          rw [eligibleRateTable, List.mem_insertionSort] at hrange
          obtain ⟨hstored, hof⟩ := List.mem_filter.mp hrange
          exact ⟨hstored, beq_iff_eq.mp hof⟩
    | _ => simp [tablesRead] at h
  · simp [tablesRead] at h

/-! ## Runs -/

/-- The option names this stored range, of its own table. -/
structure NamesRange (s : Store) (option : FreightSimulationOption) (range : FreightRateRange) :
    Prop where
  stored : range ∈ s.freightRateRanges.rows
  named : range.id = option.rateRangeId
  table : range.rateTableId = option.rateTableId

/-- The thread has stored the option for this candidate, priced with its range. -/
def PricedBy (t : RateTableThread) (option : FreightSimulationOption) (item : CandidateOption) :
    Prop :=
  (∃ tenantId actorId data simulation,
    (⟨.inl (.storeSimulation tenantId actorId data), .ok simulation⟩ :
      Event rateTableInterface) ∈ t.history ∧ item ∈ data.candidateOptions ∧
      option = optionRow data tenantId simulation.id option.id item) ∧
  ∃ input date distanceKm, item.calculated = calculate
    (calculationInput input date distanceKm item.service.service item.rateTable item.rateRange)

/-- A new range does not get the identifier of one that a quote under way has read. -/
def FreshRanges (c : RateTableConfig) (a : Action Request Input) : Prop :=
  match c.nextCall a with
  | some (cmd, input) => ∀ t ∈ c.threads, Unsettled t → ∀ e ∈ t.history,
      ∀ rateTable ∈ tablesRead e, ∀ range ∈ rateTable.ranges, ∀ new ∈ newRanges cmd input,
        new.id ≠ range.id
  | none => True

instance (c : RateTableConfig) (a : Action Request Input) : Decidable (FreshRanges c a) := by
  unfold FreshRanges
  split <;> infer_instance

/-- What holds of every configuration of such a run. -/
structure Historical (s₀ : Store) (c : RateTableConfig) : Prop where
  obeying : c.Obeying (fun _ => QuoteCall) fun _ _ _ => True
  reading : ∀ t ∈ c.threads, Unsettled t → ∀ e ∈ t.history, ∀ rateTable ∈ tablesRead e,
    ∀ range ∈ rateTable.ranges, range.rateTableId = rateTable.table.id ∧
      ∀ stored ∈ c.store.freightRateRanges.rows, stored.id = range.id → stored = range
  old : ∀ option ∈ s₀.freightSimulationOptions.rows,
    option ∈ c.store.freightSimulationOptions.rows ∧
      ∀ range, NamesRange s₀ option range → NamesRange c.store option range
  priced : ∀ option ∈ c.store.freightSimulationOptions.rows,
    option ∈ s₀.freightSimulationOptions.rows ∨
      ∃ t ∈ c.threads, ∃ item, PricedBy t option item ∧ NamesRange c.store option item.rateRange

theorem historical_initial (s : Store) : Historical s (Config.initial s) where
  obeying := Config.obeying_initial _ _ s
  reading := List.forall_mem_nil _
  old := fun _ hoption => ⟨hoption, fun _ h => h⟩
  priced := fun _ hoption => .inl hoption

theorem PricedBy.resume {r : Request} {h : List (Event rateTableInterface)}
    {c : rateTableInterface.Command} {k : Response rateTableInterface c →
      Program rateTableInterface Reply} {option : FreightSimulationOption} {item : CandidateOption}
    (hpriced : PricedBy ⟨r, h, .call c k⟩ option item) (x : Response rateTableInterface c) :
    PricedBy (Thread.resume r h c k x) option item := by
  obtain ⟨⟨tenantId, actorId, data, simulation, hevent, hrest⟩, hcalculated⟩ := hpriced
  exact ⟨⟨tenantId, actorId, data, simulation, List.mem_append_left _ hevent, hrest⟩, hcalculated⟩

/-- A thread that is unsettled after a call was so before, and did not store a
quote. -/
theorem Unsettled.of_resume {r : Request} {h : List (Event rateTableInterface)}
    {c : rateTableInterface.Command} {k : Response rateTableInterface c →
      Program rateTableInterface Reply} {x : Response rateTableInterface c}
    (hunsettled : Unsettled (Thread.resume r h c k x)) : Unsettled ⟨r, h, .call c k⟩ :=
  ⟨⟨c, k, rfl⟩, fun e he => hunsettled.2 e (List.mem_append_left _ he)⟩

theorem historical_next (P : Platform) (s₀ : Store) (c : RateTableConfig)
    (a : Action Request Input) (hc : Historical s₀ c) (hfresh : FreshRanges c a) :
    Historical s₀ ((rateTableSystem P).next c a) := by
  have hobeying := (rateTableSystem P).obeying_next (handle_obeys P) c a hc.obeying
  obtain ⟨r, rfl, hn⟩ | ⟨i, input, r, h, cmd, k, rfl, hi, hcall, hn⟩ | ⟨hn, -⟩ :=
    (rateTableSystem P).next_cases c a
  · refine ⟨hobeying, ?_, ?_, ?_⟩
    · rw [hn]
      intro t ht hunsettled e he
      rcases List.mem_append.mp ht with ht | ht
      · exact hc.reading t ht hunsettled e he
      · obtain rfl := List.mem_singleton.mp ht
        cases he
    · rw [hn]
      exact hc.old
    · rw [hn]
      intro option hoption
      rcases hc.priced option hoption with hold | ⟨t, ht, hpriced⟩
      · exact .inl hold
      · exact .inr ⟨t, List.mem_append_left _ ht, hpriced⟩
  · have ht := List.mem_of_getElem? hi
    rw [FreshRanges, hcall] at hfresh
    have hnamed : ∀ option ∈ c.store.freightSimulationOptions.rows, ∀ range,
        NamesRange c.store option range →
          NamesRange (execute P cmd input c.store).2 option range := by
      rintro option hoption range ⟨hstored, hid, htable⟩
      exact ⟨range_mem_execute P cmd input hoption hstored hid, hid, htable⟩
    -- a stored range with the identifier of one that was read is that one
    have hread : ∀ t ∈ c.threads, Unsettled t → ∀ e ∈ t.history, ∀ rateTable ∈ tablesRead e,
        ∀ range ∈ rateTable.ranges, range.rateTableId = rateTable.table.id ∧
          ∀ stored ∈ (execute P cmd input c.store).2.freightRateRanges.rows,
            stored.id = range.id → stored = range := by
      intro t ht' hunsettled e he rateTable hrateTable range hrange
      obtain ⟨hof, hsame⟩ := hc.reading t ht' hunsettled e he rateTable hrateTable range hrange
      refine ⟨hof, fun stored hstored hid => ?_⟩
      rcases mem_ranges_execute hstored with hold | hnew
      · exact hsame stored hold hid
      · exact absurd hid
          (hfresh t ht' hunsettled e he rateTable hrateTable range hrange stored hnew)
    refine ⟨hobeying, ?_, ?_, ?_⟩
    · rw [hn]
      intro t ht' hunsettled e he
      rcases List.mem_or_eq_of_mem_set ht' with ht' | rfl
      · exact hread t ht' hunsettled e he
      · rcases List.mem_append.mp he with he | he
        · exact hread _ ht hunsettled.of_resume e he
        · obtain rfl := List.mem_singleton.mp he
          intro rateTable hrateTable range hrange
          obtain ⟨hstored, hof⟩ := tablesRead_execute hrateTable range hrange
          exact ⟨hof, fun stored hmem hid =>
            Table.eq_of_key _ (k := range.id) hmem hstored (List.mem_singleton.mpr hid.symm)
              (List.mem_singleton.mpr rfl)⟩
    · rw [hn]
      intro option hoption
      obtain ⟨hmem, hnames⟩ := hc.old option hoption
      constructor
      · rcases options_execute P cmd input c.store with hsame | ⟨_, _, _, _, -, -, happended, -⟩
        · exact hsame ▸ hmem
        · change option ∈ (execute P cmd input c.store).2.freightSimulationOptions.rows
          rw [happended]
          exact List.mem_append_left _ hmem
      · exact fun range hrange => hnamed option hmem range (hnames range hrange)
    · rw [hn]
      have hresumed : Thread.resume r h cmd k (execute P cmd input c.store).1 ∈
          c.threads.set i (Thread.resume r h cmd k (execute P cmd input c.store).1) :=
        List.mem_set (List.getElem?_eq_some_iff.mp hi).1 _
      have hstay : ∀ option ∈ c.store.freightSimulationOptions.rows,
          option ∈ s₀.freightSimulationOptions.rows ∨
            ∃ t ∈ c.threads.set i (Thread.resume r h cmd k (execute P cmd input c.store).1),
              ∃ item, PricedBy t option item ∧
                NamesRange (execute P cmd input c.store).2 option item.rateRange := by
        intro option hoption
        rcases hc.priced option hoption with hold | ⟨t, ht', item, hpriced, hnames⟩
        · exact .inl hold
        · right
          rcases eq_or_mem_set hi ht'
            (Thread.resume r h cmd k (execute P cmd input c.store).1) with rfl | hmem
          · exact ⟨_, hresumed, item, hpriced.resume _, hnamed option hoption _ hnames⟩
          · exact ⟨t, hmem, item, hpriced, hnamed option hoption _ hnames⟩
      intro option hoption
      change option ∈ (execute P cmd input c.store).2.freightSimulationOptions.rows at hoption
      rcases options_execute P cmd input c.store with
        hsame | ⟨tenantId, actorId, data, simulation, rfl, hanswer, happended, hranges⟩
      · exact hstay option (hsame ▸ hoption)
      · rw [happended] at hoption
        rcases List.mem_append.mp hoption with hoption | hoption
        · exact hstay option hoption
        · -- the new options name stored ranges, and those are the ones that the quote has read
          obtain ⟨n, hitem, rfl⟩ := List.mem_mapIdx.mp hoption
          obtain ⟨hnone, hcandidates⟩ := Config.obeying_call hc.obeying hi
          obtain ⟨⟨e, he, hrateTable⟩, hrange, hcalculated⟩ :=
            hcandidates _ (List.getElem_mem hitem)
          obtain ⟨stored, hstored, hid⟩ := hranges _ (List.getElem_mem hitem)
          obtain ⟨hof, hsame⟩ := hc.reading _ ht ⟨⟨_, _, rfl⟩, hnone⟩ e he _ hrateTable _ hrange
          have hpriced := hsame stored hstored hid
          refine .inr ⟨_, hresumed, _, ⟨⟨tenantId, actorId, data, simulation, ?_,
            List.getElem_mem hitem, rfl⟩, hcalculated⟩, ?_, rfl, hof⟩
          · rw [hanswer]
            exact List.mem_append_right _ List.mem_cons_self
          · rw [← hpriced]
            change stored ∈ (execute P _ input c.store).2.freightRateRanges.rows
            rw [(untouched_quoting P _ input c.store).ranges]
            exact hstored
  · rw [hn]
    exact hc

/-- In every interleaving in which new ranges get new identifiers, every option that was
stored before names the ranges it named, and every option stored since names a stored
range of its table, with the values it was priced with. -/
theorem options_keep_their_rates (P : Platform) (s : Store) (acts : List (Action Request Input))
    (hfresh : (rateTableSystem P).AlongActions FreshRanges (Config.initial s) acts)
    (c : RateTableConfig) (hc : c = (rateTableSystem P).runActions (Config.initial s) acts) :
    (∀ option ∈ s.freightSimulationOptions.rows,
      option ∈ c.store.freightSimulationOptions.rows ∧
        ∀ range, NamesRange s option range → NamesRange c.store option range) ∧
    ∀ option ∈ c.store.freightSimulationOptions.rows,
      option ∈ s.freightSimulationOptions.rows ∨
        ∃ t ∈ c.threads, ∃ item, PricedBy t option item ∧
          NamesRange c.store option item.rateRange := by
  have hhistorical : Historical s c := hc ▸ (rateTableSystem P).run_invariant
    (fun c a hc hfresh => historical_next P s c a hc hfresh) acts _ (historical_initial s) hfresh
  exact ⟨hhistorical.old, hhistorical.priced⟩

/-- The next calls of a thread, with new identifiers for each. -/
def nextCalls (i : ℕ) (start : String) (calls : ℕ) : List (Action Request Input) :=
  (List.range calls).map fun n => .step i (plainInputs (start ++ toString n) n)

/-- An update has counted no option of its table when a quote stores one. The key of that
option refuses the update the deletion of its range. -/
def replacedMeanwhile : List (Action Request Input) :=
  [.start (.createQuote "tenant" "ana" (twoUnits 1)),
    .start (.updateRateTable "tenant" "ana" "table"
      (plainTable "service" none [] [plainRange 0 50]))] ++
    nextCalls 1 "a" 2 ++ nextCalls 0 "b" 6 ++ nextCalls 1 "c" 6

theorem options_keep_their_rates_replacedMeanwhile :
    (∃ option ∈ ((rateTableSystem plainPlatform).runActions (Config.initial oneService)
        replacedMeanwhile).store.freightSimulationOptions.rows, option.rateTableId = "table") ∧
      ∀ option ∈ ((rateTableSystem plainPlatform).runActions (Config.initial oneService)
          replacedMeanwhile).store.freightSimulationOptions.rows,
        option ∈ oneService.freightSimulationOptions.rows ∨
          ∃ t ∈ ((rateTableSystem plainPlatform).runActions (Config.initial oneService)
            replacedMeanwhile).threads, ∃ item, PricedBy t option item ∧
              NamesRange ((rateTableSystem plainPlatform).runActions (Config.initial oneService)
                replacedMeanwhile).store option item.rateRange :=
  ⟨by decide +kernel, (options_keep_their_rates plainPlatform oneService replacedMeanwhile
    (by decide +kernel) _ rfl).2⟩

end Logistics.RateTables
