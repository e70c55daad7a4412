import Logistics.Dashboard.Groups
import Logistics.Insights.Service
import Logistics.Library.Labels

/-!
# Dedupe keys

A candidate without a resource is told apart by the first sixty letters and digits of
its evidence. The evidence of a rise in cost begins with two averages and two counts
under labels that are fifty-four letters long, so that its route is never reached.
The rules make candidates of eleven kinds, each kind from one rule, and no rule makes
two candidates about one subject.
-/

namespace Logistics.Insights

open Logistics.Library

/-! ## Evidence as labelled letters -/

/-- What a key shows of a text. -/
def keyLetters (text : List Char) : List Char := text.filter isKeyChar

/-- What a key shows of the fields of the evidence. -/
def fields (evidence : Evidence) : List (List Char × List Char) :=
  evidence.map fun entry => (keyLetters (jsonString entry.1), keyLetters entry.2.json)

theorem keyLetters_append (s t : List Char) :
    keyLetters (s ++ t) = keyLetters s ++ keyLetters t :=
  List.filter_append ..

/-- The braces, colons and commas of the text are not shown. -/
theorem keyLetters_jsonEvidence (evidence : Evidence) :
    keyLetters (jsonEvidence evidence) = labelled (fields evidence) := by
  have hfield : ∀ entry : String × EvidenceValue,
      keyLetters (jsonString entry.1 ++ ':' :: entry.2.json) =
        keyLetters (jsonString entry.1) ++ keyLetters entry.2.json := by
    intro entry
    rw [keyLetters_append]
    rfl
  have hfields : ∀ evidence : Evidence,
      keyLetters ([','].intercalate (evidence.map fun entry =>
        jsonString entry.1 ++ ':' :: entry.2.json)) = labelled (fields evidence) := by
    intro evidence
    induction evidence with
    | nil => rfl
    | cons entry rest ih =>
        cases rest with
        | nil =>
            rw [List.map_singleton, List.intercalate_singleton, hfield]
            exact congrArg _ (List.append_nil _).symm
        | cons next rest =>
            rw [List.map_cons] at ih
            rw [List.map_cons, List.map_cons, List.intercalate_cons_cons, keyLetters_append,
              keyLetters_append, ih, hfield, List.append_assoc, List.append_assoc]
            rfl
  rw [jsonEvidence, keyLetters_append, ← hfields]
  exact List.append_nil _

/-- The letters of the evidence that reach the key. -/
def reading (evidence : Evidence) : List Char := (labelled (fields evidence)).take 60

theorem stableEvidenceKey_eq (evidence : Evidence) :
    stableEvidenceKey evidence =
      if reading evidence = [] then "global" else String.ofList (reading evidence) := by
  rw [reading, ← keyLetters_jsonEvidence]
  rfl

theorem length_stableEvidenceKey_le (evidence : Evidence) :
    (stableEvidenceKey evidence).length ≤ 60 := by
  rw [stableEvidenceKey_eq]
  split
  · decide
  · rw [String.length_ofList]
    exact List.length_take_le ..

/-! ## The parts of a key -/

/-- What stands for the subject in the key. -/
def InsightCandidate.keyId (candidate : InsightCandidate) : String :=
  candidate.resourceId.getD (stableEvidenceKey candidate.evidence)

theorem toList_dedupeKey (period : Dashboard.InsightGenerationPeriod)
    (candidate : InsightCandidate) :
    (dedupeKey period candidate).toList =
      (candidate.type.toList ++ ':' :: ((candidate.resourceType.getD "none").toList ++
        ':' :: (candidate.keyId.toList ++ ':' :: ((isoDay period.currentStart).toList ++
          ':' :: (isoDay period.currentEnd).toList)))).take 180 := by
  have hjoin : ∀ a b c d e : String, ":".intercalate [a, b, c, d, e] =
      a ++ ":" ++ b ++ ":" ++ c ++ ":" ++ d ++ ":" ++ e := fun _ _ _ _ _ => rfl
  have hcolon : ":".toList = [':'] := rfl
  rw [dedupeKey, String.toList_ofList, hjoin]
  simp only [String.toList_append, hcolon, List.append_assoc, List.singleton_append]
  rfl

/-! ## Kinds of candidates -/

def InsightCandidate.kind (candidate : InsightCandidate) : String × Option String :=
  (candidate.type, candidate.resourceType)

def MakesOne (rule : List InsightCandidate) (kind : String × Option String) : Prop :=
  ∀ c ∈ rule, c.kind = kind ∧ rule = [c]

theorem makesOne_nil (kind : String × Option String) : MakesOne [] kind := by
  intro c hc
  cases hc

theorem makesOne_singleton (c : InsightCandidate) : MakesOne [c] c.kind := by
  intro c' hc'
  obtain rfl := List.mem_singleton.mp hc'
  exact ⟨rfl, rfl⟩

section Rules

variable (s : InsightSources) (input : GeneratorInput)

/-- The rules with one candidate at most. -/
def singleRules : List (List InsightCandidate) :=
  [savingsOpportunity s input, cheapestCarrier s input, fastestCarrier s input,
    carrierDependency s input, routeConcentration s input, customerVolume s input,
    delayedShipments s input, lowConversion s input]

def singleKinds : List (String × Option String) :=
  [("COST_SAVINGS_NOT_SELECTED", some "FreightSimulation"), ("CHEAPEST_CARRIER", some "Carrier"),
    ("FASTEST_CARRIER", some "Carrier"), ("CARRIER_DEPENDENCY", some "Carrier"),
    ("ROUTE_NEGOTIATION_POTENTIAL", some "Route"), ("CUSTOMER_SIMULATION_VOLUME", some "Customer"),
    ("DELAYED_SHIPMENTS", some "Shipment"), ("LOW_SIMULATION_CONVERSION", none)]

theorem savingsOpportunity_makesOne :
    MakesOne (savingsOpportunity s input)
      ("COST_SAVINGS_NOT_SELECTED", some "FreightSimulation") := by
  unfold savingsOpportunity
  dsimp only
  split
  · exact makesOne_nil _
  · exact makesOne_singleton _

theorem cheapestCarrier_makesOne :
    MakesOne (cheapestCarrier s input) ("CHEAPEST_CARRIER", some "Carrier") := by
  unfold cheapestCarrier
  split
  · exact makesOne_nil _
  · exact makesOne_singleton _

theorem fastestCarrier_makesOne :
    MakesOne (fastestCarrier s input) ("FASTEST_CARRIER", some "Carrier") := by
  unfold fastestCarrier
  split
  · exact makesOne_nil _
  · exact makesOne_singleton _

theorem carrierDependency_makesOne :
    MakesOne (carrierDependency s input) ("CARRIER_DEPENDENCY", some "Carrier") := by
  unfold carrierDependency
  dsimp only
  split
  · exact makesOne_nil _
  · split
    · exact makesOne_nil _
    · split
      · exact makesOne_nil _
      · exact makesOne_singleton _

theorem routeConcentration_makesOne :
    MakesOne (routeConcentration s input) ("ROUTE_NEGOTIATION_POTENTIAL", some "Route") := by
  unfold routeConcentration
  dsimp only
  split
  · exact makesOne_nil _
  · split
    · exact makesOne_nil _
    · exact makesOne_singleton _

theorem customerVolume_makesOne :
    MakesOne (customerVolume s input) ("CUSTOMER_SIMULATION_VOLUME", some "Customer") := by
  unfold customerVolume
  dsimp only
  split
  · exact makesOne_nil _
  · split
    · exact makesOne_nil _
    · exact makesOne_singleton _

theorem delayedShipments_makesOne :
    MakesOne (delayedShipments s input) ("DELAYED_SHIPMENTS", some "Shipment") := by
  unfold delayedShipments
  dsimp only
  split
  · exact makesOne_nil _
  · exact makesOne_singleton _

theorem lowConversion_makesOne :
    MakesOne (lowConversion s input) ("LOW_SIMULATION_CONVERSION", none) := by
  unfold lowConversion
  dsimp only
  split
  · exact makesOne_nil _
  · exact makesOne_singleton _

theorem singleRules_makesOne : List.Forall₂ MakesOne (singleRules s input) singleKinds :=
  .cons (savingsOpportunity_makesOne s input) <| .cons (cheapestCarrier_makesOne s input) <|
    .cons (fastestCarrier_makesOne s input) <| .cons (carrierDependency_makesOne s input) <|
    .cons (routeConcentration_makesOne s input) <| .cons (customerVolume_makesOne s input) <|
    .cons (delayedShipments_makesOne s input) <| .cons (lowConversion_makesOne s input) .nil

def rules : List (List InsightCandidate) :=
  routeCostIncrease s input :: freightOutliers s input :: importQuality s input ::
    singleRules s input

theorem mem_rules_of_mem_generate {c : InsightCandidate} (hc : c ∈ generate s input) :
    c ∈ (rules s input).flatten := by
  simp only [generate, costInsights, performanceInsights, operationRisks, List.mem_append] at hc
  simp only [rules, singleRules, List.flatten_cons, List.flatten_nil, List.mem_append,
    List.not_mem_nil, or_false]
  rcases hc with (((hc | hc) | hc) | hc) | (((((hc | hc) | hc) | hc) | (hc | hc)) | hc) <;>
    simp only [hc, true_or, or_true]

theorem exists_increase {c : InsightCandidate} (hc : c ∈ routeCostIncrease s input) :
    ∃ increase ∈ routeIncreases s input, c = increase.candidate := by
  obtain ⟨increase, hincrease, rfl⟩ := List.mem_map.mp hc
  exact ⟨increase, hincrease, rfl⟩

theorem exists_outlier {c : InsightCandidate} (hc : c ∈ freightOutliers s input) :
    ∃ prices ∈ routeOutliers s input, c = prices.candidate := by
  obtain ⟨prices, hprices, rfl⟩ := List.mem_map.mp hc
  exact ⟨prices, hprices, rfl⟩

theorem exists_job {c : InsightCandidate} (hc : c ∈ importQuality s input) :
    ∃ job ∈ s.importJobs.rows, c ∈ highErrorRate job ∨ c ∈ stalledImport input.now job := by
  obtain ⟨job, hjob, hmem⟩ := List.mem_flatMap.mp (List.mem_of_mem_take hc)
  have hrow := (List.perm_insertionSort _ _).mem_iff.mp (List.mem_of_mem_take hjob)
  exact ⟨job, List.mem_of_mem_filter hrow, List.mem_append.mp hmem⟩

end Rules

theorem highErrorRate_makesOne (job : Imports.ImportJob) :
    MakesOne (highErrorRate job) ("IMPORT_HIGH_ERROR_RATE", some "ImportJob") := by
  unfold highErrorRate
  split
  · exact makesOne_nil _
  · exact makesOne_singleton _

theorem stalledImport_makesOne (now : Time) (job : Imports.ImportJob) :
    MakesOne (stalledImport now job) ("IMPORT_STALLED", some "ImportJob") := by
  unfold stalledImport
  split
  · exact makesOne_singleton _
  · exact makesOne_nil _

theorem resourceId_of_job {job : Imports.ImportJob} {now : Time} {c : InsightCandidate}
    (hc : c ∈ highErrorRate job ∨ c ∈ stalledImport now job) : c.resourceId = some job.id := by
  rcases hc with hc | hc
  · unfold highErrorRate at hc
    split at hc
    · cases hc
    · rw [List.mem_singleton.mp hc]
  · unfold stalledImport at hc
    split at hc
    · rw [List.mem_singleton.mp hc]
    · cases hc

def ruleKinds : List (List (String × Option String)) :=
  [("ROUTE_COST_INCREASE", some "Route")] :: [("FREIGHT_PRICE_OUTLIER", some "Route")] ::
    [("IMPORT_HIGH_ERROR_RATE", some "ImportJob"), ("IMPORT_STALLED", some "ImportJob")] ::
    singleKinds.map fun kind => [kind]

theorem rules_kinds (s : InsightSources) (input : GeneratorInput) :
    List.Forall₂ (fun rule kinds => ∀ c ∈ rule, c.kind ∈ kinds) (rules s input) ruleKinds := by
  refine .cons ?_ (.cons ?_ (.cons ?_ ?_))
  · intro c hc
    obtain ⟨increase, -, rfl⟩ := exists_increase s input hc
    exact List.mem_cons_self
  · intro c hc
    obtain ⟨prices, -, rfl⟩ := exists_outlier s input hc
    exact List.mem_cons_self
  · intro c hc
    obtain ⟨job, -, hc | hc⟩ := exists_job s input hc
    · rw [(highErrorRate_makesOne job c hc).1]
      exact List.mem_cons_self
    · rw [(stalledImport_makesOne input.now job c hc).1]
      exact List.mem_cons_of_mem _ List.mem_cons_self
  · rw [List.forall₂_map_right_iff]
    apply (singleRules_makesOne s input).imp
    intro rule kind hrule c hc
    exact List.mem_singleton.mpr (hrule c hc).1

theorem tag_mem_of_mem_parts {α τ : Type} {tag : α → τ} {parts : List (List α)}
    {tags : List (List τ)}
    (h : List.Forall₂ (fun part ts => ∀ a ∈ part, tag a ∈ ts) parts tags) {a : α}
    (ha : a ∈ parts.flatten) : tag a ∈ tags.flatten := by
  induction h with
  | nil => cases ha
  | cons hpart _ ih =>
      rw [List.flatten_cons, List.mem_append] at ha ⊢
      exact ha.imp (hpart a) ih

/-- Where the tags of the parts do not meet, members with one tag are of one part. -/
theorem exists_part_of_tag {α τ : Type} {tag : α → τ} {parts : List (List α)}
    {tags : List (List τ)}
    (h : List.Forall₂ (fun part ts => ∀ a ∈ part, tag a ∈ ts) parts tags)
    (hdistinct : tags.flatten.Nodup) {a b : α} (ha : a ∈ parts.flatten) (hb : b ∈ parts.flatten)
    (htag : tag a = tag b) : ∃ part ∈ parts, a ∈ part ∧ b ∈ part := by
  induction h with
  | nil => cases ha
  | cons hpart hrest ih =>
      obtain ⟨-, htail, happart⟩ := List.nodup_append.mp hdistinct
      rw [List.flatten_cons, List.mem_append] at ha hb
      rcases ha with ha | ha <;> rcases hb with hb | hb
      · exact ⟨_, List.mem_cons_self, ha, hb⟩
      · exact absurd htag (happart _ (hpart a ha) _ (tag_mem_of_mem_parts hrest hb))
      · exact absurd htag.symm (happart _ (hpart b hb) _ (tag_mem_of_mem_parts hrest ha))
      · obtain ⟨part, hmempart, hab⟩ := ih htail ha hb
        exact ⟨part, List.mem_cons_of_mem _ hmempart, hab⟩

section Generated

variable {s : InsightSources} {input : GeneratorInput} {c c' : InsightCandidate}

theorem kind_mem (hc : c ∈ generate s input) : c.kind ∈ ruleKinds.flatten :=
  tag_mem_of_mem_parts (rules_kinds s input) (mem_rules_of_mem_generate s input hc)

theorem ruleKinds_spec :
    ruleKinds.flatten.Nodup ∧
      (∀ kind ∈ ruleKinds.flatten, ':' ∉ kind.1.toList ∧ ':' ∉ (kind.2.getD "none").toList ∧
        kind.1.length + (kind.2.getD "none").length ≤ 60) ∧
      ∀ kind ∈ ruleKinds.flatten, ∀ kind' ∈ ruleKinds.flatten, kind.1 = kind'.1 → kind = kind' := by
  decide +kernel

theorem kind_eq_of_type (hc : c ∈ generate s input) (hc' : c' ∈ generate s input)
    (htype : c.type = c'.type) : c.kind = c'.kind :=
  ruleKinds_spec.2.2 _ (kind_mem hc) _ (kind_mem hc') htype

/-- Candidates of one type come from one rule. -/
theorem exists_rule_of_type (hc : c ∈ generate s input) (hc' : c' ∈ generate s input)
    (htype : c.type = c'.type) : ∃ rule ∈ rules s input, c ∈ rule ∧ c' ∈ rule :=
  exists_part_of_tag (rules_kinds s input) ruleKinds_spec.1 (mem_rules_of_mem_generate s input hc)
    (mem_rules_of_mem_generate s input hc') (kind_eq_of_type hc hc' htype)

end Generated

/-! ## When keys are the same -/

section Keys

variable {c c' : InsightCandidate} {period period' : Dashboard.InsightGenerationPeriod}

theorem length_isoDay_le (time : Time) : (isoDay time).length ≤ 10 := by
  rw [isoDay, String.length_ofList]
  exact List.length_take_le ..

theorem type_eq_of_dedupeKey (hc : c.kind ∈ ruleKinds.flatten) (hc' : c'.kind ∈ ruleKinds.flatten)
    (h : dedupeKey period c = dedupeKey period' c') : c.type = c'.type := by
  obtain ⟨hcolon, -, hlength⟩ := ruleKinds_spec.2.1 _ hc
  obtain ⟨hcolon', -, hlength'⟩ := ruleKinds_spec.2.1 _ hc'
  have htexts := congrArg String.toList h
  rw [toList_dedupeKey, toList_dedupeKey] at htexts
  have htypes : c.type.toList.take 180 = c'.type.toList.take 180 :=
    ((take_figure_append_eq_iff hcolon hcolon').mp htexts).1
  have hshort : c.type.toList.length ≤ 180 := by
    rw [String.length_toList]
    exact (Nat.le_add_right _ _).trans (hlength.trans (by decide))
  have hshort' : c'.type.toList.length ≤ 180 := by
    rw [String.length_toList]
    exact (Nat.le_add_right _ _).trans (hlength'.trans (by decide))
  rw [List.take_of_length_le hshort, List.take_of_length_le hshort'] at htypes
  exact String.toList_inj.mp htypes

/-- In one refresh, candidates of one kind have one key when the same stands in it for
their subjects. -/
theorem dedupeKey_eq_iff (hc : c.kind ∈ ruleKinds.flatten) (hkind : c.kind = c'.kind)
    (hshort : c.keyId.length ≤ 60) (hshort' : c'.keyId.length ≤ 60) :
    dedupeKey period c = dedupeKey period c' ↔ c.keyId = c'.keyId := by
  obtain ⟨-, -, hlength⟩ := ruleKinds_spec.2.1 _ hc
  obtain ⟨htype, hresource⟩ := Prod.mk.inj hkind
  have hstart := length_isoDay_le period.currentStart
  have hend := length_isoDay_le period.currentEnd
  dsimp only [InsightCandidate.kind] at hlength
  rw [← String.toList_inj, toList_dedupeKey, toList_dedupeKey, ← htype, ← hresource,
    List.take_of_length_le, List.take_of_length_le]
  · constructor
    · intro h
      have hrest := (List.cons.inj (List.append_cancel_left h)).2
      have hid := (List.cons.inj (List.append_cancel_left hrest)).2
      exact String.toList_inj.mp (List.append_cancel_right hid)
    · intro h
      rw [h]
  · simp only [List.length_append, List.length_cons, String.length_toList]
    omega
  · simp only [List.length_append, List.length_cons, String.length_toList]
    omega

theorem keyId_of_none (h : c.resourceId = none) : c.keyId = stableEvidenceKey c.evidence := by
  rw [InsightCandidate.keyId, h, Option.getD_none]

theorem keyId_of_some {id : Id} (h : c.resourceId = some id) : c.keyId = id := by
  rw [InsightCandidate.keyId, h, Option.getD_some]

theorem length_keyId_le (h : ∀ id ∈ c.resourceId, id.length ≤ 36) : c.keyId.length ≤ 60 := by
  cases hid : c.resourceId with
  | none =>
      rw [keyId_of_none hid]
      exact length_stableEvidenceKey_le _
  | some id =>
      rw [keyId_of_some hid]
      exact (h id hid).trans (by decide)

end Keys

/-! ## What reaches the key of a route -/

/-- What a key shows of a number holds no letter. -/
theorem notMem_keyLetters_number {a : Char} (ha : a.isDigit = false) (hsign : a ≠ '-')
    (value : Float) : a ∉ keyLetters (EvidenceValue.number value).json := by
  intro hmem
  obtain ⟨htext, hkey⟩ := List.mem_filter.mp hmem
  rcases mem_fixedText htext with hdigit | rfl | rfl
  · rw [ha] at hdigit
    cases hdigit
  · exact hsign rfl
  · exact absurd hkey (by decide)

theorem isKeyChar_of_isDigit {c : Char} (h : c.isDigit = true) : isKeyChar c = true := by
  simp only [Char.isDigit, Bool.and_eq_true, decide_eq_true_eq] at h
  have hlow : '0' ≤ c := h.1
  have hhigh : c ≤ '9' := h.2
  simp [isKeyChar, hlow, hhigh]

theorem keyLetters_number_ne_nil (value : Float) :
    keyLetters (EvidenceValue.number value).json ≠ [] := by
  obtain ⟨c, hc, hdigit⟩ :=
    exists_digit_mem_fixedText (decimalPlaces value) (nearestUnits (decimalPlaces value) value)
  exact List.ne_nil_of_mem (List.mem_filter.mpr ⟨hc, isKeyChar_of_isDigit hdigit⟩)

/-- The averages and counts of a rise, which come before its route. -/
def RouteIncrease.figures (increase : RouteIncrease) : List (List Char × List Char) :=
  fields increase.measures

/-- The average and the count of an outlier, and its route with all that follows. -/
def RoutePrices.figures (prices : RoutePrices) : List (List Char × List Char) :=
  fields prices.measures ++ [(keyLetters (jsonString "route"),
    keyLetters (jsonString prices.route) ++ labelled (fields prices.threshold))]

theorem labels_spec :
    (keyLetters (jsonString "currentCount")).head? = some 'c' ∧
      (keyLetters (jsonString "previousAverage")).head? = some 'p' ∧
      (keyLetters (jsonString "previousCount")).head? = some 'p' ∧
      (keyLetters (jsonString "route")).head? = some 'r' ∧
      (keyLetters (jsonString "outliers")).head? = some 'o' ∧
      54 ≤ (keyLetters (jsonString "currentAverage")).length +
        (keyLetters (jsonString "currentCount")).length +
        (keyLetters (jsonString "previousAverage")).length +
        (keyLetters (jsonString "previousCount")).length ∧
      5 ≤ (keyLetters (jsonString "route")).length := by
  decide

/-- The labels of a rise leave no room for its route. -/
theorem reading_increase_iff (x y : RouteIncrease) :
    reading x.candidate.evidence = reading y.candidate.evidence ↔
      AgreeUpTo 60 x.figures y.figures := by
  obtain ⟨hcount, hprevious, hpreviousCount, hroute, -, hlabels, hrouteLabel⟩ := labels_spec
  have hfree : ∀ a : Char, a.isDigit = false → a ≠ '-' → ∀ value : Float,
      a ∉ keyLetters (EvidenceValue.number value).json :=
    fun _ ha hsign => notMem_keyLetters_number ha hsign
  have hsame : SameLabels (fields x.candidate.evidence) (fields y.candidate.evidence) :=
    .cons hcount (hfree 'c' rfl (by decide) _) (hfree 'c' rfl (by decide) _) <|
      .cons hprevious (hfree 'p' rfl (by decide) _) (hfree 'p' rfl (by decide) _) <|
      .cons hpreviousCount (hfree 'p' rfl (by decide) _) (hfree 'p' rfl (by decide) _) <|
      .cons hroute (hfree 'r' rfl (by decide) _) (hfree 'r' rfl (by decide) _) <| .last ..
  have hroom : 60 - (labelled x.figures).length - (keyLetters (jsonString "route")).length = 0 := by
    have hfigure := List.length_pos_iff.mpr
      (keyLetters_number_ne_nil (Insights.round x.current.average))
    simp only [RouteIncrease.figures, RouteIncrease.measures, fields, List.map_cons, List.map_nil,
      labelled, List.length_append, figure]
    omega
  have hfields : ∀ z : RouteIncrease, fields z.candidate.evidence =
      z.figures ++ [(keyLetters (jsonString "route"), keyLetters (jsonString z.current.route))] :=
    fun _ => rfl
  have hlength : x.figures.length = y.figures.length := by
    simp only [RouteIncrease.figures, RouteIncrease.measures, fields, List.length_map,
      List.length_cons, List.length_nil]
  rw [reading, reading, take_labelled_eq_iff hsame, hfields, hfields, agreeUpTo_append hlength]
  simp only [AgreeUpTo, hroom, List.take_zero, and_true]

theorem reading_outlier_iff (x y : RoutePrices) :
    reading x.candidate.evidence = reading y.candidate.evidence ↔
      AgreeUpTo 60 x.figures y.figures := by
  obtain ⟨-, -, -, hroute, houtliers, -⟩ := labels_spec
  have hfree : ∀ a : Char, a.isDigit = false → a ≠ '-' → ∀ value : Float,
      a ∉ keyLetters (EvidenceValue.number value).json :=
    fun _ ha hsign => notMem_keyLetters_number ha hsign
  have hsame : SameLabels x.figures y.figures :=
    .cons houtliers (hfree 'o' rfl (by decide) _) (hfree 'o' rfl (by decide) _) <|
      .cons hroute (hfree 'r' rfl (by decide) _) (hfree 'r' rfl (by decide) _) <| .last ..
  have hfields : ∀ z : RoutePrices,
      labelled (fields z.candidate.evidence) = labelled z.figures := by
    intro z
    have hsplit : fields z.candidate.evidence = fields z.measures ++
        (keyLetters (jsonString "route"), keyLetters (jsonString z.route)) ::
          fields z.threshold := rfl
    rw [hsplit, RoutePrices.figures, labelled_append, labelled_append]
    simp only [labelled, List.append_nil]
  rw [reading, reading, hfields, hfields, take_labelled_eq_iff hsame]

/-! ## What a candidate is about -/

/-- The type of a candidate, with its resource and its route. -/
structure Subject where
  type : String
  resourceType : Option String
  resourceId : Option Id
  route : Option EvidenceValue
  deriving DecidableEq

def InsightCandidate.subject (candidate : InsightCandidate) : Subject where
  type := candidate.type
  resourceType := candidate.resourceType
  resourceId := candidate.resourceId
  route := candidate.evidence.lookup "route"

theorem subject_increase (increase : RouteIncrease) :
    increase.candidate.subject =
      ⟨"ROUTE_COST_INCREASE", some "Route", none, some (.text increase.current.route)⟩ :=
  rfl

theorem subject_outlier (prices : RoutePrices) :
    prices.candidate.subject =
      ⟨"FREIGHT_PRICE_OUTLIER", some "Route", none, some (.text prices.route)⟩ :=
  rfl

theorem eq_of_makesOne {rule : List InsightCandidate} {kind : String × Option String}
    (h : MakesOne rule kind) {c c' : InsightCandidate} (hc : c ∈ rule) (hc' : c' ∈ rule) :
    c = c' := by
  have honly := (h c' hc').2
  rw [honly] at hc
  exact List.mem_singleton.mp hc

/-- An import has one candidate of each type. -/
theorem eq_of_job {job : Imports.ImportJob} {now : Time} {c c' : InsightCandidate}
    (hc : c ∈ highErrorRate job ∨ c ∈ stalledImport now job)
    (hc' : c' ∈ highErrorRate job ∨ c' ∈ stalledImport now job) (htype : c.type = c'.type) :
    c = c' := by
  have hfirst := highErrorRate_makesOne job
  have hsecond := stalledImport_makesOne now job
  rcases hc with hc | hc <;> rcases hc' with hc' | hc'
  · exact eq_of_makesOne hfirst hc hc'
  · have hrate : c.type = "IMPORT_HIGH_ERROR_RATE" := congrArg Prod.fst (hfirst c hc).1
    have hstalled : c'.type = "IMPORT_STALLED" := congrArg Prod.fst (hsecond c' hc').1
    rw [hrate, hstalled] at htype
    exact absurd htype (by decide)
  · have hstalled : c.type = "IMPORT_STALLED" := congrArg Prod.fst (hsecond c hc).1
    have hrate : c'.type = "IMPORT_HIGH_ERROR_RATE" := congrArg Prod.fst (hfirst c' hc').1
    rw [hrate, hstalled] at htype
    exact absurd htype (by decide)
  · exact eq_of_makesOne hsecond hc hc'

section Subjects

variable {s : InsightSources} {input : GeneratorInput}

theorem routeAverages_unique {range : Dashboard.DateTimeFilter} {a b : RouteAverage}
    (ha : a ∈ routeAverages s input range) (hb : b ∈ routeAverages s input range)
    (hroute : a.route = b.route) : a = b := by
  obtain ⟨entry, hentry, rfl⟩ := List.mem_map.mp ha
  obtain ⟨entry', hentry', rfl⟩ := List.mem_map.mp hb
  have hkeys := Dashboard.nodup_keys_foldl_adjust (route)
    (⟨0, 0⟩ : Sum) (fun simulation current =>
      ⟨current.count + 1,
        current.sum + (simulation.estimatedPrice.map fun price => toNumber price.val).getD 0⟩)
    (thousandSimulations input ((simulationsIn s input range).filter fun row =>
      row.estimatedPrice.isSome))
  rw [List.inj_on_of_nodup_map hkeys hentry hentry' hroute]

theorem increaseOf_current {previous : List RouteAverage} {current : RouteAverage}
    {increase : RouteIncrease} (h : increaseOf previous current = some increase) :
    increase.current = current := by
  obtain ⟨prior, -, hrest⟩ := Option.bind_eq_some_iff.mp h
  dsimp only at hrest
  split at hrest
  · cases hrest
  · split at hrest
    · cases hrest
    · rw [← Option.some.inj hrest]

theorem routeIncreases_unique {x y : RouteIncrease} (hx : x ∈ routeIncreases s input)
    (hy : y ∈ routeIncreases s input) (hroute : x.current.route = y.current.route) : x = y := by
  obtain ⟨current, hcurrent, hof⟩ := List.mem_filterMap.mp (List.mem_of_mem_take hx)
  obtain ⟨current', hcurrent', hof'⟩ := List.mem_filterMap.mp (List.mem_of_mem_take hy)
  rw [increaseOf_current hof, increaseOf_current hof'] at hroute
  rw [routeAverages_unique hcurrent hcurrent' hroute, hof'] at hof
  exact (Option.some.inj hof).symm

theorem routeOutliers_unique {x y : RoutePrices} (hx : x ∈ routeOutliers s input)
    (hy : y ∈ routeOutliers s input) (hroute : x.route = y.route) : x = y := by
  obtain ⟨entry, hentry, rfl⟩ :=
    List.mem_map.mp (List.mem_of_mem_filter (List.mem_of_mem_take hx))
  obtain ⟨entry', hentry', rfl⟩ :=
    List.mem_map.mp (List.mem_of_mem_filter (List.mem_of_mem_take hy))
  have hkeys := Dashboard.nodup_keys_foldl_adjust (Prod.fst : String × Float → String)
    ([] : List Float) (fun priced values => values ++ [priced.2]) (pricedRoutes s input)
  rw [List.inj_on_of_nodup_map hkeys hentry hentry' hroute]

theorem exists_kind_of_mem_singleRules {rule : List InsightCandidate}
    (h : rule ∈ singleRules s input) : ∃ kind, MakesOne rule kind := by
  have hall : ∀ {rules : List (List InsightCandidate)} {kinds : List (String × Option String)},
      List.Forall₂ MakesOne rules kinds → ∀ rule ∈ rules, ∃ kind, MakesOne rule kind := by
    intro rules kinds hrules
    induction hrules with
    | nil =>
        intro rule hrule
        cases hrule
    | cons hfirst _ ih =>
        intro rule hrule
        rcases List.mem_cons.mp hrule with rfl | hrule
        · exact ⟨_, hfirst⟩
        · exact ih rule hrule
  exact hall (singleRules_makesOne s input) rule h

theorem eq_of_subject {c c' : InsightCandidate} (hc : c ∈ generate s input)
    (hc' : c' ∈ generate s input) (h : c.subject = c'.subject) : c = c' := by
  have htype : c.type = c'.type := congrArg Subject.type h
  obtain ⟨rule, hrule, hmem, hmem'⟩ := exists_rule_of_type hc hc' htype
  rcases List.mem_cons.mp hrule with rfl | hrule
  · obtain ⟨x, hx, rfl⟩ := exists_increase s input hmem
    obtain ⟨y, hy, rfl⟩ := exists_increase s input hmem'
    rw [subject_increase, subject_increase] at h
    rw [routeIncreases_unique hx hy (by simpa using h)]
  rcases List.mem_cons.mp hrule with rfl | hrule
  · obtain ⟨x, hx, rfl⟩ := exists_outlier s input hmem
    obtain ⟨y, hy, rfl⟩ := exists_outlier s input hmem'
    rw [subject_outlier, subject_outlier] at h
    rw [routeOutliers_unique hx hy (by simpa using h)]
  rcases List.mem_cons.mp hrule with rfl | hrule
  · obtain ⟨job, hjob, hof⟩ := exists_job s input hmem
    obtain ⟨job', hjob', hof'⟩ := exists_job s input hmem'
    have hid : some job.id = some job'.id := by
      rw [← resourceId_of_job hof, ← resourceId_of_job hof']
      exact congrArg Subject.resourceId h
    obtain rfl := s.importJobs.eq_of_key hjob hjob' (List.mem_singleton.mpr rfl)
      (List.mem_singleton.mpr (Option.some.inj hid))
    exact eq_of_job hof hof' htype
  · obtain ⟨kind, hone⟩ := exists_kind_of_mem_singleRules hrule
    exact eq_of_makesOne hone hmem hmem'

end Subjects

/-! ## Storing a candidate -/

structure Insight.Holds (row : Insight) (tenantId : Id)
    (period : Dashboard.InsightGenerationPeriod) (candidate : InsightCandidate) : Prop where
  tenantId : row.tenantId = tenantId
  dedupeKey : row.dedupeKey = Insights.dedupeKey period candidate
  content : updatedRow row.generatedAt period candidate row = row

section Upsert

variable {formatMoney : Float → String} {s s' : InsightStore} {input : Input} {tenantId : Id}
  {period : Dashboard.InsightGenerationPeriod} {candidate : InsightCandidate}

def hasKey (tenantId : Id) (period : Dashboard.InsightGenerationPeriod)
    (candidate : InsightCandidate) (row : Insight) : Prop :=
  row.tenantId = tenantId ∧ row.dedupeKey = dedupeKey period candidate

/-- A candidate is stored in the row of its key, or as a new one. -/
theorem upsertRow_cases (h : upsertRow s input tenantId period candidate = (.ok (), s')) :
    (∃ row ∈ s.insights.rows, hasKey tenantId period candidate row) ∧
        s' = s.modifyInsights (fun row => row.tenantId == tenantId &&
          row.dedupeKey == dedupeKey period candidate)
          (updatedRow input.now period candidate) (fun _ => rfl) ∨
      (∀ row ∈ s.insights.rows, ¬hasKey tenantId period candidate row) ∧
        s'.sources = s.sources ∧ s'.insights.rows =
          s.insights.rows ++ [createdRow input tenantId period candidate] := by
  unfold upsertRow at h
  dsimp only at h
  split at h
  · cases (Prod.mk.inj h).1
  split at h
  · next hany =>
    obtain ⟨row, hrow, hkey⟩ := List.any_eq_true.mp hany
    rw [Bool.and_eq_true, beq_iff_eq, beq_iff_eq] at hkey
    exact .inl ⟨⟨row, hrow, hkey⟩, (Prod.mk.inj h).2.symm⟩
  · next hnone =>
    have hfree : ∀ row ∈ s.insights.rows, ¬hasKey tenantId period candidate row := by
      rintro row hrow ⟨hrowTenant, hrowKey⟩
      exact hnone (List.any_eq_true.mpr ⟨row, hrow, by simp [hrowTenant, hrowKey]⟩)
    split at h
    · cases (Prod.mk.inj h).1
    · next insights hinsert =>
      rw [← (Prod.mk.inj h).2]
      exact .inr ⟨hfree, rfl, Table.tryInsert_rows hinsert⟩

theorem answer_of_execute {c : InsightCommand} {a : c.Result}
    (h : execute formatMoney c input s = (.ok a, s')) :
    answer formatMoney c input s = (.ok a, s') := by
  unfold execute at h
  split at h
  · cases (Prod.mk.inj h).1
  · exact h

theorem holds_of_upsertRow (h : upsertRow s input tenantId period candidate = (.ok (), s')) :
    ∃ row ∈ s'.insights.rows, row.Holds tenantId period candidate := by
  obtain ⟨⟨row, hrow, hkey⟩, rfl⟩ | ⟨-, -, hrows⟩ := upsertRow_cases h
  · refine ⟨updatedRow input.now period candidate row, ?_, ⟨hkey.1, hkey.2, rfl⟩⟩
    refine List.mem_map.mpr ⟨row, hrow, if_pos ?_⟩
    rw [Bool.and_eq_true, beq_iff_eq, beq_iff_eq]
    exact hkey
  · rw [hrows]
    exact ⟨_, List.mem_append_right _ (List.mem_singleton.mpr rfl), ⟨rfl, rfl, rfl⟩⟩

theorem mem_of_upsertRow (h : upsertRow s input tenantId period candidate = (.ok (), s'))
    {row : Insight} (hrow : row ∈ s.insights.rows) (hkey : ¬hasKey tenantId period candidate row) :
    row ∈ s'.insights.rows := by
  obtain ⟨-, rfl⟩ | ⟨-, -, hrows⟩ := upsertRow_cases h
  · refine List.mem_map.mpr ⟨row, hrow, if_neg ?_⟩
    rw [Bool.and_eq_true, beq_iff_eq, beq_iff_eq]
    exact hkey
  · rw [hrows]
    exact List.mem_append_left _ hrow

theorem mem_of_persistCandidates {candidates : List InsightCandidate} {ω : ℕ → Input}
    {s s' : InsightStore} {answer : Unit}
    (h : (persistCandidates tenantId period candidates).run (execute formatMoney) ω s =
      (.ok answer, s')) {row : Insight} (hrow : row ∈ s.insights.rows)
    (hkey : ∀ c ∈ candidates, ¬hasKey tenantId period c row) : row ∈ s'.insights.rows := by
  induction candidates generalizing ω s with
  | nil =>
      obtain rfl := (Prod.mk.inj h).2
      exact hrow
  | cons c rest ih =>
      obtain ⟨_, s₁, hfirst, hrest⟩ := Program.run_perform_bind_eq_ok_iff.mp h
      have hstays := mem_of_upsertRow (answer_of_execute hfirst) hrow (hkey c List.mem_cons_self)
      exact ih hrest hstays fun c' hc' => hkey c' (List.mem_cons_of_mem c hc')

/-- Where no two candidates share a key, each has its row in the end. -/
theorem holds_of_persistCandidates {candidates : List InsightCandidate} {ω : ℕ → Input}
    {s s' : InsightStore} {answer : Unit}
    (h : (persistCandidates tenantId period candidates).run (execute formatMoney) ω s =
      (.ok answer, s'))
    (hkeys : ∀ c ∈ candidates, ∀ c' ∈ candidates,
      dedupeKey period c = dedupeKey period c' → c = c') :
    ∀ c ∈ candidates, ∃ row ∈ s'.insights.rows, row.Holds tenantId period c := by
  induction candidates generalizing ω s with
  | nil =>
      intro c hc
      cases hc
  | cons first rest ih =>
      obtain ⟨_, s₁, hfirst, hrest⟩ := Program.run_perform_bind_eq_ok_iff.mp h
      have hlater := ih hrest fun c hc c' hc' =>
        hkeys c (List.mem_cons_of_mem _ hc) c' (List.mem_cons_of_mem _ hc')
      intro c hc
      by_cases hagain : c ∈ rest
      · exact hlater c hagain
      · obtain rfl := (List.mem_cons.mp hc).resolve_right hagain
        obtain ⟨row, hrow, hholds⟩ := holds_of_upsertRow (answer_of_execute hfirst)
        refine ⟨row, mem_of_persistCandidates hrest hrow ?_, hholds⟩
        rintro c' hc' ⟨-, hkey⟩
        have hsame := hkeys c hc c' (List.mem_cons_of_mem _ hc') (hholds.dedupeKey.symm.trans hkey)
        exact hagain (hsame ▸ hc')

end Upsert

end Logistics.Insights
