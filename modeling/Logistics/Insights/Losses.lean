import Logistics.Insights.DedupeKeys

/-!
# What one refresh keeps

A refresh keeps every candidate in a row of its own exactly when no two routes that
one rule reports have figures that agree as far as a key shows them. For rises in
cost the figures are two averages and two counts: the route itself is beyond the end
of what is shown.
-/

namespace Logistics.Insights

open Logistics.Library

section Refresh

/-- What a refresh reads the rows with: its first two calls are made at their own
instants. -/
def refreshInput (formatMoney : Float → String) (tenantId : Id) (ω : ℕ → Input) :
    GeneratorInput where
  period := Dashboard.buildPeriod (ω 0).now
  tenantId := tenantId
  now := (ω 1).now
  tie := (ω 1).tie
  formatMoney := formatMoney

variable {formatMoney : Float → String} {s : InsightStore} {input : GeneratorInput}

theorem stableEvidenceKey_eq_iff {e e' : Evidence} (h : reading e ≠ []) (h' : reading e' ≠ []) :
    stableEvidenceKey e = stableEvidenceKey e' ↔ reading e = reading e' := by
  rw [stableEvidenceKey_eq, stableEvidenceKey_eq, if_neg h, if_neg h', String.ofList_inj]

theorem reading_ne_nil {label : String} {value : EvidenceValue} {rest : Evidence}
    (h : keyLetters (jsonString label) ≠ []) : reading ((label, value) :: rest) ≠ [] := by
  intro hnil
  rcases List.take_eq_nil_iff.mp hnil with hnone | hempty
  · cases hnone
  · exact h (List.append_eq_nil_iff.mp hempty).1

theorem reading_increase_ne_nil (increase : RouteIncrease) :
    reading increase.candidate.evidence ≠ [] :=
  reading_ne_nil (by decide)

theorem reading_outlier_ne_nil (prices : RoutePrices) : reading prices.candidate.evidence ≠ [] :=
  reading_ne_nil (by decide)

theorem candidate_increase_mem {increase : RouteIncrease}
    (h : increase ∈ routeIncreases s.sources input) :
    increase.candidate ∈ generate s.sources input := by
  have hmem : increase.candidate ∈ routeCostIncrease s.sources input := List.mem_map_of_mem h
  simp only [generate, costInsights, List.mem_append]
  exact .inl (.inl (.inl (.inr hmem)))

theorem candidate_outlier_mem {prices : RoutePrices} (h : prices ∈ routeOutliers s.sources input) :
    prices.candidate ∈ generate s.sources input := by
  have hmem : prices.candidate ∈ freightOutliers s.sources input := List.mem_map_of_mem h
  simp only [generate, costInsights, List.mem_append]
  exact .inl (.inr hmem)

/-- Without a resource, the evidence decides. -/
theorem dedupeKey_eq_iff_reading {c c' : InsightCandidate} (hc : c ∈ generate s.sources input)
    (hc' : c' ∈ generate s.sources input) (htype : c.type = c'.type)
    (hresource : c.resourceId = none) (hresource' : c'.resourceId = none)
    (hreading : reading c.evidence ≠ []) (hreading' : reading c'.evidence ≠ [])
    (period : Dashboard.InsightGenerationPeriod) :
    dedupeKey period c = dedupeKey period c' ↔ reading c.evidence = reading c'.evidence := by
  rw [dedupeKey_eq_iff (kind_mem hc) (kind_eq_of_type hc hc' htype)
    (length_keyId_le (by simp [hresource])) (length_keyId_le (by simp [hresource'])),
    keyId_of_none hresource, keyId_of_none hresource',
    stableEvidenceKey_eq_iff hreading hreading']

theorem dedupeKey_increase_iff {x y : RouteIncrease} (hx : x ∈ routeIncreases s.sources input)
    (hy : y ∈ routeIncreases s.sources input) (period : Dashboard.InsightGenerationPeriod) :
    dedupeKey period x.candidate = dedupeKey period y.candidate ↔
      AgreeUpTo 60 x.figures y.figures := by
  rw [dedupeKey_eq_iff_reading (candidate_increase_mem hx) (candidate_increase_mem hy) rfl rfl rfl
    (reading_increase_ne_nil x) (reading_increase_ne_nil y), reading_increase_iff]

theorem dedupeKey_outlier_iff {x y : RoutePrices} (hx : x ∈ routeOutliers s.sources input)
    (hy : y ∈ routeOutliers s.sources input) (period : Dashboard.InsightGenerationPeriod) :
    dedupeKey period x.candidate = dedupeKey period y.candidate ↔
      AgreeUpTo 60 x.figures y.figures := by
  rw [dedupeKey_eq_iff_reading (candidate_outlier_mem hx) (candidate_outlier_mem hy) rfl rfl rfl
    (reading_outlier_ne_nil x) (reading_outlier_ne_nil y), reading_outlier_iff]

/-- No two routes reported by the same rule have figures that agree as far as the key
shows them. -/
def RoutesApart (s : InsightSources) (input : GeneratorInput) : Prop :=
  (∀ x ∈ routeIncreases s input, ∀ y ∈ routeIncreases s input,
    x.current.route ≠ y.current.route → ¬AgreeUpTo 60 x.figures y.figures) ∧
  ∀ x ∈ routeOutliers s input, ∀ y ∈ routeOutliers s input,
    x.route ≠ y.route → ¬AgreeUpTo 60 x.figures y.figures

/-- Candidates with one key are about one subject. -/
theorem RoutesApart.subject_eq (h : RoutesApart s.sources input)
    (hids : ∀ job ∈ s.sources.importJobs.rows, job.id.length ≤ 36) {c c' : InsightCandidate}
    (hc : c ∈ generate s.sources input) (hc' : c' ∈ generate s.sources input)
    {period : Dashboard.InsightGenerationPeriod}
    (hkey : dedupeKey period c = dedupeKey period c') : c.subject = c'.subject := by
  have htype := type_eq_of_dedupeKey (kind_mem hc) (kind_mem hc') hkey
  obtain ⟨rule, hrule, hmem, hmem'⟩ := exists_rule_of_type hc hc' htype
  rcases List.mem_cons.mp hrule with rfl | hrule
  · obtain ⟨x, hx, rfl⟩ := exists_increase s.sources input hmem
    obtain ⟨y, hy, rfl⟩ := exists_increase s.sources input hmem'
    by_contra hne
    refine h.1 x hx y hy (fun hroute => hne ?_) ((dedupeKey_increase_iff hx hy period).mp hkey)
    rw [subject_increase, subject_increase, hroute]
  rcases List.mem_cons.mp hrule with rfl | hrule
  · obtain ⟨x, hx, rfl⟩ := exists_outlier s.sources input hmem
    obtain ⟨y, hy, rfl⟩ := exists_outlier s.sources input hmem'
    by_contra hne
    refine h.2 x hx y hy (fun hroute => hne ?_) ((dedupeKey_outlier_iff hx hy period).mp hkey)
    rw [subject_outlier, subject_outlier, hroute]
  rcases List.mem_cons.mp hrule with rfl | hrule
  · obtain ⟨job, hjob, hof⟩ := exists_job s.sources input hmem
    obtain ⟨job', hjob', hof'⟩ := exists_job s.sources input hmem'
    have hid := resourceId_of_job hof
    have hid' := resourceId_of_job hof'
    have hshort : c.keyId.length ≤ 60 := length_keyId_le (by simpa [hid] using hids job hjob)
    have hshort' : c'.keyId.length ≤ 60 := length_keyId_le (by simpa [hid'] using hids job' hjob')
    rw [dedupeKey_eq_iff (kind_mem hc) (kind_eq_of_type hc hc' htype) hshort hshort',
      keyId_of_some hid, keyId_of_some hid'] at hkey
    obtain rfl := s.sources.importJobs.eq_of_key hjob hjob' (List.mem_singleton.mpr rfl)
      (List.mem_singleton.mpr hkey)
    rw [eq_of_job hof hof' htype]
  · obtain ⟨kind, hone⟩ := exists_kind_of_mem_singleRules hrule
    rw [eq_of_makesOne hone hmem hmem']

/-- Different subjects have different keys, and after any refresh each candidate has
its own row. -/
structure LosesNothing (formatMoney : Float → String) (s : InsightStore)
    (input : GeneratorInput) : Prop where
  keys : ∀ c ∈ generate s.sources input, ∀ c' ∈ generate s.sources input,
    c.subject ≠ c'.subject → dedupeKey input.period c ≠ dedupeKey input.period c'
  rows : ∀ order actorId ω result s', input = refreshInput formatMoney input.tenantId ω →
    (refresh order input.tenantId actorId).run (execute formatMoney) ω s = (.ok result, s') →
    ∀ c ∈ generate s.sources input,
      ∃ row ∈ s'.insights.rows, row.Holds input.tenantId input.period c

theorem persisted_of_refresh {order : Arrangement} {tenantId actorId : Id} {ω : ℕ → Input}
    {result : RefreshInsightsResultDto} {s' : InsightStore}
    (h : (refresh order tenantId actorId).run (execute formatMoney) ω s = (.ok result, s')) :
    ∃ ω' s₁, (persistCandidates tenantId (refreshInput formatMoney tenantId ω).period
      (order.arrange (generate s.sources (refreshInput formatMoney tenantId ω)))).run
        (execute formatMoney) ω' s = (.ok (), s₁) ∧ s'.insights = s₁.insights := by
  obtain ⟨now, s₁, hnow, hrest⟩ := Program.run_perform_bind_eq_ok_iff.mp h
  obtain ⟨candidates, s₂, hgenerate, hstore⟩ := Program.run_perform_bind_eq_ok_iff.mp hrest
  obtain ⟨⟨⟩, ω', s₃, hpersist, hrecord⟩ := Program.exists_of_run_bind_ok hstore
  obtain ⟨_, s₄, haudit, hreturn⟩ := Program.run_perform_bind_eq_ok_iff.mp hrecord
  have hclock : (Except.ok (ω 0).now, s) = (Except.ok now, s₁) := answer_of_execute hnow
  obtain ⟨hinstant, rfl⟩ := Prod.mk.inj hclock
  obtain rfl := Except.ok.inj hinstant
  have hmade : (Except.ok (generate s.sources (refreshInput formatMoney tenantId ω)), s) =
      (Except.ok candidates, s₂) := answer_of_execute hgenerate
  obtain ⟨hcandidates, rfl⟩ := Prod.mk.inj hmade
  obtain rfl := Except.ok.inj hcandidates
  have hrecorded := (Prod.mk.inj (answer_of_execute haudit)).2
  have hend := (Prod.mk.inj hreturn).2
  refine ⟨_, s₃, hpersist, ?_⟩
  rw [← hend, ← hrecorded]
  rfl

/-- A refresh loses no candidate exactly when the figures tell the routes apart. The
identifiers of imports are of 36 characters. -/
theorem losesNothing_iff (hids : ∀ job ∈ s.sources.importJobs.rows, job.id.length ≤ 36) :
    LosesNothing formatMoney s input ↔ RoutesApart s.sources input := by
  constructor
  · intro h
    refine ⟨fun x hx y hy hne hagree => ?_, fun x hx y hy hne hagree => ?_⟩
    · have hsubject : x.candidate.subject ≠ y.candidate.subject := by
        simpa [subject_increase] using hne
      exact h.keys _ (candidate_increase_mem hx) _ (candidate_increase_mem hy) hsubject
        ((dedupeKey_increase_iff hx hy input.period).mpr hagree)
    · have hsubject : x.candidate.subject ≠ y.candidate.subject := by
        simpa [subject_outlier] using hne
      exact h.keys _ (candidate_outlier_mem hx) _ (candidate_outlier_mem hy) hsubject
        ((dedupeKey_outlier_iff hx hy input.period).mpr hagree)
  · intro h
    refine ⟨fun c hc c' hc' hne hkey => hne (h.subject_eq hids hc hc' hkey), ?_⟩
    intro order actorId ω result s' hinput hrun c hc
    obtain ⟨ω', s₁, hpersist, hinsights⟩ := persisted_of_refresh hrun
    rw [← hinput] at hpersist
    have hsame : ∀ c ∈ order.arrange (generate s.sources input),
        ∀ c' ∈ order.arrange (generate s.sources input),
        dedupeKey input.period c = dedupeKey input.period c' → c = c' := by
      intro c hc c' hc' hkey
      have hmem := (order.perm _).mem_iff.mp hc
      have hmem' := (order.perm _).mem_iff.mp hc'
      exact eq_of_subject hmem hmem' (h.subject_eq hids hmem hmem' hkey)
    rw [hinsights]
    exact holds_of_persistCandidates hpersist hsame c ((order.perm _).mem_iff.mpr hc)

/-! Two routes with two simulations each, which cost one hundred on average before, and
an import with errors. -/

def routeSimulation (id originPostalCode : String) (price : Decimal) (createdAt : Time) :
    Dashboard.FreightSimulation where
  id := id
  tenantId := "t"
  branchId := none
  customerId := none
  originPostalCode := originPostalCode
  destinationPostalCode := "20040002"
  cargoValue := none
  estimatedPrice := some (Fixed.store 2 price)
  status := .calculated
  createdAt := createdAt

def faultyJob : Imports.ImportJob where
  id := "5f0c7c1e-8f1c-4a57-9a0e-2b6a9c3d7e10"
  tenantId := "t"
  createdById := "u"
  type := .customers
  filename := "clientes.csv"
  fileType := "csv"
  storedFilename := none
  mimeType := none
  sizeBytes := 20
  fileHash := none
  status := .completed
  totalRows := 4
  counts := ⟨4, 1, 3, 0⟩
  progress := 100
  mapping := []
  duplicateStrategy := none
  startedAt := none
  finishedAt := none
  failureReason := none
  createdAt := 5000000000
  updatedAt := 5000000000

/-- The routes cost so much on average now. -/
def twoRoutes (price price' : Decimal) : InsightStore where
  sources := {
    freightSimulations := [routeSimulation "a" "01310100" price 5000000000,
      routeSimulation "b" "01310100" price 5000000000,
      routeSimulation "c" "30130010" price' 5000000000,
      routeSimulation "d" "30130010" price' 5000000000,
      routeSimulation "e" "01310100" 100 1000000000, routeSimulation "f" "01310100" 100 1000000000,
      routeSimulation "g" "30130010" 100 1000000000, routeSimulation "h" "30130010" 100 1000000000]
    freightSimulationOptions := []
    customers := []
    shipments := []
    importJobs := ⟨[faultyJob], by decide⟩ }
  insights := .empty
  auditLogs := []

def routesInput : GeneratorInput where
  period := Dashboard.buildPeriod 5184000000
  tenantId := "t"
  now := 5184000000
  tie := fun _ => 0
  formatMoney := fun _ => "R$ 0,00"

/-- Two routes of one price have one key. -/
theorem twoRoutes_share_key :
    ¬LosesNothing (fun _ => "R$ 0,00") (twoRoutes 200 200) routesInput := by
  intro h
  have hshared : ∃ c ∈ routeCostIncrease (twoRoutes 200 200).sources routesInput,
      ∃ c' ∈ routeCostIncrease (twoRoutes 200 200).sources routesInput, c.subject ≠ c'.subject ∧
        (c.type = c'.type ∧ c.resourceId = none ∧ c'.resourceId = none) ∧
        reading c.evidence ≠ [] ∧ reading c.evidence = reading c'.evidence := by
    decide +kernel
  have hgenerated : ∀ c ∈ routeCostIncrease (twoRoutes 200 200).sources routesInput,
      c ∈ generate (twoRoutes 200 200).sources routesInput := fun c hc =>
    List.mem_append_left _ (List.mem_append_left _ (List.mem_append_left _
      (List.mem_append_right _ hc)))
  obtain ⟨c, hc, c', hc', hne, ⟨htype, hid, hid'⟩, hread, hsame⟩ := hshared
  refine h.keys c (hgenerated c hc) c' (hgenerated c' hc') hne ?_
  exact (dedupeKey_eq_iff_reading (hgenerated c hc) (hgenerated c' hc') htype hid hid' hread
    (hsame ▸ hread) _).mpr hsame

theorem losesNothing_iff_twoRoutes :
    LosesNothing (fun _ => "R$ 0,00") (twoRoutes 200 300) routesInput := by
  have hids : ∀ job ∈ (twoRoutes 200 300).sources.importJobs.rows, job.id.length ≤ 36 := by
    decide
  have hapart : RoutesApart (twoRoutes 200 300).sources routesInput := by
    unfold RoutesApart
    decide +kernel
  exact (losesNothing_iff hids).mpr hapart

end Refresh

end Logistics.Insights
