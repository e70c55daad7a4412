import Logistics.Dashboard.Days

/-!
# Conversion rates

A conversion rate divides the shipments of a period by its simulations, each counted
by its own date. So it is never negative, and it is at most one hundred where every
shipment that is counted is of a simulation that is counted with it: over the period, and
among the listed rows under each label of the chart. A shipment of an earlier simulation
is what lifts it higher. A summary from the cache has the rates of the run that has put
it there.
-/

namespace Logistics.Dashboard

open Logistics.Library

/-- What a quotient of two counts keeps on its way through `percent`. -/
structure OrderedNumbers {N : Type} [Preorder N] (P : DashboardPlatform N) : Prop where
  zero_le : P.ofInt 0 ≤ P.ofInt 100
  quotient_nonneg : ∀ a b : ℕ, 0 < b → P.ofInt 0 ≤ P.div (P.ofInt a) (P.ofInt b)
  quotient_le : ∀ a b : ℕ, 0 < b → a ≤ b → P.div (P.ofInt a) (P.ofInt b) ≤ P.ofInt 1
  mul_le : ∀ x y, x ≤ y → P.mul x (P.ofInt 100) ≤ P.mul y (P.ofInt 100)
  div_le : ∀ x y, x ≤ y → P.div x (P.ofInt 100) ≤ P.div y (P.ofInt 100)
  round_le : ∀ x y, x ≤ y → P.mathRound x ≤ P.mathRound y
  mul_ofInt : ∀ n : ℕ, n ≤ 100 → P.mul (P.ofInt n) (P.ofInt 100) = P.ofInt (n * 100)
  div_ofInt : ∀ n : ℕ, n ≤ 100 → P.div (P.ofInt (n * 100)) (P.ofInt 100) = P.ofInt n
  round_ofInt : ∀ n : ℕ, n ≤ 10000 → P.mathRound (P.ofInt n) = P.ofInt n

section Rates

variable {N : Type} [Preorder N] {P : DashboardPlatform N}

theorem OrderedNumbers.round_mono (h : OrderedNumbers P) {x y : N} (hle : x ≤ y) :
    round P x ≤ round P y :=
  h.div_le _ _ (h.round_le _ _ (h.mul_le _ _ hle))

theorem OrderedNumbers.round_ofInt_eq (h : OrderedNumbers P) {n : ℕ} (hn : n ≤ 100) :
    round P (P.ofInt n) = P.ofInt n := by
  have hround := h.round_ofInt (n * 100) (by omega)
  push_cast at hround
  rw [round, h.mul_ofInt n hn, hround, h.div_ofInt n hn]

theorem OrderedNumbers.percent_nonneg (h : OrderedNumbers P) (a b : ℕ) :
    P.ofInt 0 ≤ percent P a b := by
  unfold percent
  split
  · next hb =>
    have hround := h.round_ofInt_eq (n := 0) (by omega)
    have hmul := h.mul_ofInt 0 (by omega)
    have hquotient := h.round_mono (h.mul_le _ _ (h.quotient_nonneg a b hb))
    push_cast at hround hmul
    rwa [hmul, hround] at hquotient
  · exact le_refl _

theorem OrderedNumbers.percent_le (h : OrderedNumbers P) {a b : ℕ} (hle : a ≤ b) :
    percent P a b ≤ P.ofInt 100 := by
  unfold percent
  split
  · next hb =>
    have hround := h.round_ofInt_eq (n := 100) (by omega)
    have hmul := h.mul_ofInt 1 (by omega)
    have hquotient := h.round_mono (h.mul_le _ _ (h.quotient_le a b hb hle))
    push_cast at hround hmul
    rwa [hmul, hround] at hquotient
  · exact h.zero_le

def FromZero (P : DashboardPlatform N) (summary : DashboardSummaryDto N) : Prop :=
  P.ofInt 0 ≤ summary.freight.conversionRate ∧
    ∀ point ∈ summary.charts.conversionByPeriod, P.ofInt 0 ≤ point.value

def ToHundred (P : DashboardPlatform N) (summary : DashboardSummaryDto N) : Prop :=
  summary.freight.conversionRate ≤ P.ofInt 100 ∧
    ∀ point ∈ summary.charts.conversionByPeriod, point.value ≤ P.ofInt 100

end Rates

section Counts

variable {N : Type} (P : DashboardPlatform N) (s : DashboardStore N)

/-- The simulations that the charts are made of. -/
def listedSimulations (tie : Id → ℕ) (queries : SummaryQueries) : List FreightSimulation :=
  (oldest FreightSimulation.createdAt FreightSimulation.id tie
    (matchingSimulations s queries.simulationWhere)).take 1000

def listedShipments (tie : Id → ℕ) (queries : SummaryQueries) : List Shipment :=
  (oldest Shipment.createdAt Shipment.id tie
    (s.shipments.filter queries.shipmentWhere.holds)).take 1000

/-- Every shipment that is counted is of a simulation that is counted with it: in the
period, and under its label, where this is one of the chart. By the unique key
`shipments_simulation_key` a simulation has one shipment at most. -/
structure ShippedAsQuoted (tie : Id → ℕ) (queries : SummaryQueries) : Prop where
  onePerSimulation : (s.shipments.map Shipment.simulationId).Nodup
  inPeriod : ∀ shipment ∈ s.shipments, queries.shipmentWhere.holds shipment = true →
    ∃ simulation ∈ matchingSimulations s queries.simulationWhere,
      simulation.id = shipment.simulationId
  underLabel : ∀ shipment ∈ listedShipments s tie queries,
    (∃ simulation ∈ listedSimulations s tie queries,
      monthDay simulation.createdAt = monthDay shipment.createdAt) →
    ∃ simulation ∈ listedSimulations s tie queries,
      simulation.id = shipment.simulationId ∧
        monthDay simulation.createdAt = monthDay shipment.createdAt

instance (tie : Id → ℕ) (queries : SummaryQueries) : Decidable (ShippedAsQuoted s tie queries) :=
  decidable_of_iff (_ ∧ _ ∧ _) ⟨fun h => ⟨h.1, h.2.1, h.2.2⟩,
    fun h => ⟨h.onePerSimulation, h.inPeriod, h.underLabel⟩⟩

variable {s}

/-- Where each shipment of a list has its own simulation in another, the other is no
shorter. -/
theorem length_le_of_simulations {shipments : List Shipment}
    {simulations : List FreightSimulation}
    (hone : (shipments.map Shipment.simulationId).Nodup)
    (hof : ∀ shipment ∈ shipments, ∃ simulation ∈ simulations,
      simulation.id = shipment.simulationId) :
    shipments.length ≤ simulations.length := by
  have hids : shipments.map Shipment.simulationId ⊆ simulations.map FreightSimulation.id := by
    intro id hid
    obtain ⟨shipment, hshipment, rfl⟩ := List.mem_map.mp hid
    obtain ⟨simulation, hsimulation, heq⟩ := hof shipment hshipment
    exact List.mem_map.mpr ⟨simulation, hsimulation, heq⟩
  have hle := (hone.subperm hids).length_le
  rwa [List.length_map, List.length_map] at hle

theorem ShippedAsQuoted.countShipments_le {tie : Id → ℕ} {queries : SummaryQueries}
    (h : ShippedAsQuoted s tie queries) :
    countShipments s queries.shipmentWhere ≤
      (matchingSimulations s queries.simulationWhere).length := by
  rw [countShipments, List.countP_eq_length_filter]
  refine length_le_of_simulations ?_ fun shipment hshipment => ?_
  · exact h.onePerSimulation.sublist (List.filter_sublist.map _)
  · obtain ⟨hmem, hholds⟩ := List.mem_filter.mp hshipment
    exact h.inPeriod shipment hmem hholds

theorem nodup_listedShipments (hone : (s.shipments.map Shipment.simulationId).Nodup)
    (tie : Id → ℕ) (queries : SummaryQueries) :
    ((listedShipments s tie queries).map Shipment.simulationId).Nodup := by
  have hmatching : ((s.shipments.filter queries.shipmentWhere.holds).map
      Shipment.simulationId).Nodup := hone.sublist (List.filter_sublist.map _)
  have hsorted : ((oldest Shipment.createdAt Shipment.id tie
      (s.shipments.filter queries.shipmentWhere.holds)).map Shipment.simulationId).Nodup :=
    ((List.perm_insertionSort _ _).map _).nodup_iff.mpr hmatching
  exact hsorted.sublist ((List.take_sublist 1000 _).map _)

theorem ShippedAsQuoted.length_ofLabel_le {tie : Id → ℕ} {queries : SummaryQueries}
    (h : ShippedAsQuoted s tie queries) {simulation : FreightSimulation}
    (hsimulation : simulation ∈ listedSimulations s tie queries) :
    (ofLabel Shipment.createdAt (listedShipments s tie queries)
        (monthDay simulation.createdAt)).length ≤
      (ofLabel FreightSimulation.createdAt (listedSimulations s tie queries)
        (monthDay simulation.createdAt)).length := by
  refine length_le_of_simulations ?_ fun shipment hshipment => ?_
  · exact (nodup_listedShipments h.onePerSimulation tie queries).sublist
      (List.filter_sublist.map _)
  · obtain ⟨hmem, hlabel⟩ := List.mem_filter.mp hshipment
    have hlabel := beq_iff_eq.mp hlabel
    obtain ⟨own, hown, hid, hownLabel⟩ :=
      h.underLabel shipment hmem ⟨simulation, hsimulation, hlabel.symm⟩
    exact ⟨own, List.mem_filter.mpr ⟨hown, beq_iff_eq.mpr (hownLabel.trans hlabel)⟩, hid⟩

variable (s)

theorem length_ofLabel_map {α β : Type} (f : α → β) {time : α → Time} {time' : β → Time}
    (htime : ∀ a, time' (f a) = time a) (records : List α) (label : String) :
    (ofLabel time' (records.map f) label).length = (ofLabel time records label).length := by
  unfold ofLabel
  rw [List.filter_map, List.length_map]
  simp only [Function.comp_def, htime]

theorem value_of_conversionByPeriod {tie : Id → ℕ} {queries : SummaryQueries}
    {point : DashboardPointDto N}
    (hpoint : point ∈ conversionByPeriod P
      ((summaryRows P s tie queries).chartSimulations.map simulationTime)
      ((summaryRows P s tie queries).chartShipments.map Prod.fst)) :
    ∃ simulation ∈ listedSimulations s tie queries, point.value = percent P
      (ofLabel Shipment.createdAt (listedShipments s tie queries)
        (monthDay simulation.createdAt)).length
      (ofLabel FreightSimulation.createdAt (listedSimulations s tie queries)
        (monthDay simulation.createdAt)).length := by
  have hshipments : (summaryRows P s tie queries).chartShipments.map Prod.fst =
      (listedShipments s tie queries).map Shipment.createdAt := by
    simp only [summaryRows, listedShipments, List.map_map, Function.comp_def]
  have hsimulations : (summaryRows P s tie queries).chartSimulations =
      (listedSimulations s tie queries).map (withOptions s tie) := rfl
  rw [hshipments, hsimulations, conversionByPeriod_eq] at hpoint
  obtain ⟨entry, hentry, rfl⟩ := List.mem_map.mp (mem_takeLast hpoint)
  obtain ⟨label, hlabel, rfl⟩ := List.mem_map.mp hentry
  rw [List.mem_eraseDups, List.map_map] at hlabel
  obtain ⟨simulation, hsimulation, rfl⟩ := List.mem_map.mp hlabel
  refine ⟨simulation, hsimulation, ?_⟩
  rw [length_ofLabel_map Shipment.createdAt (fun _ => rfl),
    length_ofLabel_map (withOptions s tie) (fun _ => rfl)]
  rfl

variable [Preorder N] {P s}

theorem presentSummary_fromZero (h : OrderedNumbers P) (tie : Id → ℕ) (queries : SummaryQueries)
    (tenantId : Id) (role : UserRole) (filters : DashboardFiltersDto)
    (period : InsightGenerationPeriod) (filterOptions : DashboardFilterOptionsDto)
    (generatedAt : Time) :
    FromZero P (presentSummary P tenantId role filters period (summaryRows P s tie queries)
      filterOptions generatedAt) := by
  refine ⟨h.percent_nonneg _ _, fun point hpoint => ?_⟩
  obtain ⟨simulation, -, hvalue⟩ := value_of_conversionByPeriod P s hpoint
  rw [hvalue]
  exact h.percent_nonneg _ _

theorem presentSummary_toHundred (h : OrderedNumbers P) {tie : Id → ℕ} {queries : SummaryQueries}
    (hquoted : ShippedAsQuoted s tie queries) (tenantId : Id) (role : UserRole)
    (filters : DashboardFiltersDto) (period : InsightGenerationPeriod)
    (filterOptions : DashboardFilterOptionsDto) (generatedAt : Time) :
    ToHundred P (presentSummary P tenantId role filters period (summaryRows P s tie queries)
      filterOptions generatedAt) := by
  refine ⟨h.percent_le hquoted.countShipments_le, fun point hpoint => ?_⟩
  obtain ⟨simulation, hsimulation, hvalue⟩ := value_of_conversionByPeriod P s hpoint
  rw [hvalue]
  exact h.percent_le (hquoted.length_ofLabel_le hsimulation)

end Counts

/-! ## The runs -/

section Runs

variable {N : Type} (P : DashboardPlatform N)
  (A : DashboardStore N → DashboardCommand N → Input → Prop)

/-- The stores of runs whose calls meet `A`. Between them the other services write their
rows and drop summaries from the cache. -/
inductive Reached : DashboardStore N → Prop
  | start {s : DashboardStore N} : s.cache = [] → Reached s
  | other {s s' : DashboardStore N} : Reached s → s'.cache ⊆ s.cache → Reached s'
  | summary {s : DashboardStore N} {tenantId : Id} {role : UserRole} {query : DashboardQueryDto}
      {ω : ℕ → Input} : Reached s →
      (getSummary P tenantId role query).Along (execute P) A ω s →
      Reached ((getSummary P tenantId role query).run (execute P) ω s).2

/-- What is put together of rows that meet `A` is of this kind. -/
def Presents (R : DashboardSummaryDto N → Prop) : Prop :=
  ∀ s queries input, A s (.summarize queries) input →
    ∀ tenantId role filters period filterOptions generatedAt,
      R (presentSummary P tenantId role filters period (summaryRows P s input.tie queries)
        filterOptions generatedAt)

/-- An answer is a summary of this kind, or an error. -/
def Answers (R : DashboardSummaryDto N → Prop)
    (r : Except ServiceError (DashboardSummaryDto N)) : Prop :=
  ∀ summary, r = .ok summary → R summary

/-- Every summary in the cache is of this kind. -/
def Caches (R : DashboardSummaryDto N → Prop) (s : DashboardStore N) : Prop :=
  ∀ entry ∈ s.cache, R entry.2

variable {P A} {R : DashboardSummaryDto N → Prop}

theorem answers_error (e : ServiceError) : Answers R (.error e) := fun _ h => nomatch h

theorem answers_ok {summary : DashboardSummaryDto N} (h : R summary) : Answers R (.ok summary) :=
  fun _ heq => Except.ok.inj heq ▸ h

theorem Caches.writeCache {s : DashboardStore N} (h : Caches R s) (key : CacheKey)
    {summary : DashboardSummaryDto N} (hsummary : R summary) :
    Caches R (writeCache s key summary) := by
  intro entry hentry
  rcases List.mem_cons.mp hentry with rfl | hold
  · exact hsummary
  · exact h entry (List.mem_filter.mp hold).1

theorem Caches.lookup {s : DashboardStore N} (h : Caches R s) {key : CacheKey}
    {summary : DashboardSummaryDto N} (hfound : s.cache.lookup key = some summary) : R summary := by
  obtain ⟨before, after, hsplit, -⟩ := List.lookup_eq_some_iff.mp hfound
  apply h (key, summary)
  rw [hsplit]
  exact List.mem_append_right before List.mem_cons_self

/-- The summary that is put together, at a store that stays as it was. -/
theorem calculateSummary_wp (hR : Presents P A R) (tenantId : Id) (role : UserRole)
    (filters : DashboardFiltersDto) (s : DashboardStore N) :
    (calculateSummary P tenantId role filters).wp (execute P) A (fun _ _ _ => True)
      (fun r s' => Answers R r ∧ s' = s) s := by
  unfold calculateSummary
  refine Program.wp_answered_bind fun today _ => ⟨trivial, today.now, s, rfl, ?_⟩
  refine Program.wp_ofExcept_bind (fun period _ => ?_) fun e _ => ⟨answers_error e, rfl⟩
  refine Program.wp_answered_bind fun now _ => ⟨trivial, now.now, s, rfl, ?_⟩
  refine Program.wp_answered_bind fun later _ => ⟨trivial, later.now, s, rfl, ?_⟩
  refine Program.wp_perform_bind fun input hA => ⟨trivial, ?_⟩
  have hpresents := hR _ _ _ hA tenantId role filters period
  cases hrows : input.fault with
  | true =>
      simp only [execute, hrows, if_true]
      exact ⟨fun _ h => (by cases h), fun e _ => ⟨answers_error e, trivial⟩⟩
  | false =>
      simp only [execute, hrows, Bool.false_eq_true, if_false]
      refine ⟨?_, fun _ h => by cases h⟩
      rintro _ ⟨⟩
      refine Program.wp_perform_bind fun other _ => ⟨trivial, ?_⟩
      cases hoptions : other.fault with
      | true =>
          simp only [execute, hoptions, if_true]
          exact ⟨fun _ h => (by cases h), fun e _ => ⟨answers_error e, trivial⟩⟩
      | false =>
          simp only [execute, hoptions, Bool.false_eq_true, if_false]
          refine ⟨?_, fun _ h => by cases h⟩
          rintro _ ⟨⟩
          refine Program.wp_answered_bind fun last _ => ⟨trivial, last.now, s, rfl, ?_⟩
          exact ⟨answers_ok (hpresents _ _), rfl⟩

theorem getSummary_wp (hR : Presents P A R) (tenantId : Id) (role : UserRole)
    (query : DashboardQueryDto) {s : DashboardStore N} (hs : Caches R s) :
    (getSummary P tenantId role query).wp (execute P) A (fun _ _ _ => True)
      (fun r s' => Answers R r ∧ Caches R s') s := by
  unfold getSummary
  have hread : ((call (.readCache ⟨tenantId, role, normalizeFilters query⟩)).tryCatch
      fun _ => pure none).wp (execute P) A (fun _ _ _ => True)
      (fun r s' => s' = s ∧ ∀ found, r = .ok (some found) → R found) s := by
    intro input _
    refine ⟨trivial, ?_⟩
    cases hfault : input.fault with
    | true =>
        simp only [execute, hfault, if_true]
        exact ⟨rfl, fun _ h => by cases h⟩
    | false =>
        simp only [execute, hfault, Bool.false_eq_true, if_false]
        exact ⟨rfl, fun found h => hs.lookup (Except.ok.inj h)⟩
  refine Program.wp_bind hread ?_ fun e _ h => ⟨answers_error e, h.1 ▸ hs⟩
  rintro cached _ ⟨rfl, hcached⟩
  cases cached with
  | some found => exact ⟨answers_ok (hcached found rfl), hs⟩
  | none =>
      refine Program.wp_bind (calculateSummary_wp hR tenantId role _ _) ?_ ?_
      · rintro summary s' ⟨hsummary, rfl⟩
        have hkept := hsummary summary rfl
        have hwrite : ((call (.writeCache ⟨tenantId, role, normalizeFilters query⟩
            summary)).tryCatch fun _ => pure ()).wp (execute P) A (fun _ _ _ => True)
            (fun _ s' => Caches R s') s' := by
          intro input _
          refine ⟨trivial, ?_⟩
          cases hfault : input.fault with
          | true =>
              simp only [execute, hfault, if_true]
              exact hs
          | false =>
              simp only [execute, hfault, Bool.false_eq_true, if_false]
              exact hs.writeCache _ hkept
        refine Program.wp_bind hwrite ?_ fun e _ h => ⟨answers_error e, h⟩
        exact fun _ s' hs' => ⟨answers_ok hkept, hs'⟩
      · rintro e _ ⟨-, rfl⟩
        exact ⟨answers_error e, hs⟩

theorem Reached.caches (hR : Presents P A R) {s : DashboardStore N} (h : Reached P A s) :
    Caches R s := by
  induction h with
  | start hempty =>
      intro entry hentry
      rw [hempty] at hentry
      cases hentry
  | other _ hcache ih => exact fun entry hentry => ih entry (hcache hentry)
  | summary _ hA ih => exact (Program.wp_run (getSummary_wp hR _ _ _ ih) hA).2

theorem Reached.answers_run (hR : Presents P A R) {s : DashboardStore N} (h : Reached P A s)
    {tenantId : Id} {role : UserRole} {query : DashboardQueryDto} {ω : ℕ → Input}
    (hA : (getSummary P tenantId role query).Along (execute P) A ω s) :
    Answers R ((getSummary P tenantId role query).run (execute P) ω s).1 :=
  (Program.wp_run (getSummary_wp hR _ _ _ (h.caches hR)) hA).1

end Runs

/-! ## The rates that are shown -/

/-- The rows of a summary, where it is put together. -/
def CountsQuoted {N : Type} (s : DashboardStore N) : DashboardCommand N → Input → Prop
  | .summarize queries, input => ShippedAsQuoted s input.tie queries
  | _, _ => True

instance {N : Type} (s : DashboardStore N) (c : DashboardCommand N) (input : Input) :
    Decidable (CountsQuoted s c input) := by
  cases c <;> unfold CountsQuoted <;> infer_instance

/-- Over any run the rates are not negative, and in a run whose summaries have been put
together of rows in which every counted shipment is of a simulation counted with it they
are at most one hundred. -/
theorem conversions_bounded {N : Type} [Preorder N] {P : DashboardPlatform N}
    (h : OrderedNumbers P) (s : DashboardStore N) (tenantId : Id) (role : UserRole)
    (query : DashboardQueryDto) (ω : ℕ → Input) :
    (Reached P (fun _ _ _ => True) s →
      Answers (FromZero P) ((getSummary P tenantId role query).run (execute P) ω s).1) ∧
    (Reached P CountsQuoted s →
      (getSummary P tenantId role query).Along (execute P) CountsQuoted ω s →
      Answers (ToHundred P) ((getSummary P tenantId role query).run (execute P) ω s).1) := by
  constructor
  · intro hs
    have hpresents : Presents P (fun _ _ _ => True) (FromZero P) := fun s queries input _ =>
      presentSummary_fromZero h input.tie queries
    exact hs.answers_run hpresents (Program.along_true _ ω s)
  · intro hs hA
    have hpresents : Presents P CountsQuoted (ToHundred P) := fun s queries input hquoted =>
      presentSummary_toHundred h hquoted
    exact hs.answers_run hpresents hA

theorem orderedNumbers_plainDashboard : OrderedNumbers plainDashboard where
  zero_le := by norm_num [plainDashboard]
  quotient_nonneg a b _ := by
    simp only [plainDashboard]
    positivity
  quotient_le a b hb hle := by
    simp only [plainDashboard]
    rw [div_le_iff₀ (by exact_mod_cast hb)]
    push_cast
    rw [one_mul]
    exact_mod_cast hle
  mul_le x y hle := by
    simp only [plainDashboard]
    gcongr
  div_le x y hle := by
    simp only [plainDashboard]
    gcongr
  round_le x y hle := by
    simp only [plainDashboard]
    gcongr
  mul_ofInt n _ := by simp [plainDashboard]
  div_ofInt n _ := by simp [plainDashboard]
  round_ofInt n _ := by
    simp only [plainDashboard]
    norm_cast
    rw [Int.floor_natCast_add]
    norm_num

def quote (id : Id) (createdAt : Time) : FreightSimulation :=
  { (quotedAt createdAt 10).simulation with id }

def shipped (simulationId : Id) (createdAt : Time) : Shipment where
  id := simulationId
  tenantId := "tenant"
  simulationId := simulationId
  selectedOptionId := simulationId
  customerId := none
  branchId := none
  carrierId := "carrier"
  carrierServiceId := "service"
  createdById := none
  trackingCode := simulationId
  externalReference := none
  realWeightKg := .store 3 1
  chargeableWeightKg := .store 3 1
  cargoValue := none
  freightValue := .store 2 10
  estimatedDeliveryAt := createdAt + 86400000
  deliveredAt := none
  status := .created
  createdAt := createdAt

def dashboardWith (freightSimulations : List FreightSimulation) (shipments : List Shipment) :
    DashboardStore ℚ :=
  { DashboardStore.empty ℚ with freightSimulations, shipments }

def sixtiethDay : Input := ⟨5184000000, fun _ => "", false, fun _ => 0⟩

/-- Two quotes on the fiftieth day, one of which is shipped. -/
theorem conversions_bounded_half :
    Answers (FromZero plainDashboard) ((getSummary plainDashboard "tenant" .operator noFilters).run
      (execute plainDashboard) (fun _ => sixtiethDay)
      (dashboardWith [quote "a" 4320000000, quote "b" 4320000000] [shipped "a" 4320000000])).1 ∧
    Answers (ToHundred plainDashboard) ((getSummary plainDashboard "tenant" .operator noFilters).run
      (execute plainDashboard) (fun _ => sixtiethDay)
      (dashboardWith [quote "a" 4320000000, quote "b" 4320000000] [shipped "a" 4320000000])).1 := by
  have hbounds := conversions_bounded orderedNumbers_plainDashboard
    (dashboardWith [quote "a" 4320000000, quote "b" 4320000000] [shipped "a" 4320000000])
    "tenant" .operator noFilters fun _ => sixtiethDay
  exact ⟨hbounds.1 (.start rfl), hbounds.2 (.start rfl) (by decide +kernel)⟩

/-- A quote of the tenth day and one of the fiftieth are both shipped on the fiftieth
day: two shipments for one quote of the last thirty days. -/
theorem conversion_of_two_hundred :
    ¬∀ (s : DashboardStore ℚ) (tenantId : Id) (role : UserRole) (query : DashboardQueryDto)
      (ω : ℕ → Input), Reached plainDashboard (fun _ _ _ => True) s →
        Answers (ToHundred plainDashboard)
          ((getSummary plainDashboard tenantId role query).run (execute plainDashboard) ω s).1 := by
  intro h
  have hanswers := h (dashboardWith [quote "a" 864000000, quote "b" 4320000000]
    [shipped "a" 4320000000, shipped "b" 4320000000]) "tenant" .operator noFilters
    (fun _ => sixtiethDay) (.start rfl)
  obtain ⟨summary, hrun, hrate⟩ : ∃ summary,
      ((getSummary plainDashboard "tenant" .operator noFilters).run (execute plainDashboard)
        (fun _ => sixtiethDay) (dashboardWith [quote "a" 864000000, quote "b" 4320000000]
          [shipped "a" 4320000000, shipped "b" 4320000000])).1 = .ok summary ∧
        summary.freight.conversionRate = 200 := ⟨_, rfl, by decide +kernel⟩
  have hle := (hanswers summary hrun).1
  rw [hrate] at hle
  exact absurd hle (by decide +kernel)

end Logistics.Dashboard
