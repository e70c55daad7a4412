import Logistics.Dashboard.Groups
import Logistics.Dashboard.Prices

/-!
# The days of the charts

The charts over time group records by the month and the day of their instants, which
name the same day of every year. A point stands where its label is first met, so the
points are of single days, and of the latest ones, exactly when no latest day shares
its label with an earlier day of the list.
-/

namespace Logistics.Dashboard

open Logistics.Library

/-! ## Days and their labels -/

def utcDay (time : Time) : Int := time / 86400000

def dayLabel (day : Int) : String := monthDay (day * 86400000)

theorem monthDay_eq (time : Time) : monthDay time = dayLabel (utcDay time) := by
  have hday : time / 86400000 * 86400000 / 86400000 = time / 86400000 :=
    Int.mul_ediv_cancel _ (by decide)
  rw [dayLabel, utcDay, monthDay, monthDay, hday]

theorem utcDay_mono {a b : Time} (h : a ≤ b) : utcDay a ≤ utcDay b :=
  Int.ediv_le_ediv (by decide) h

section Days

variable {α V : Type} (createdAt : α → Time) (records : List α)

/-- The latest days with records, at most fourteen. -/
def latestDays : List Int :=
  takeLast 14 (records.map fun record => utcDay (createdAt record)).eraseDups

/-- The records that a point of this label takes together. -/
def ofLabel (label : String) : List α :=
  records.filter fun record => monthDay (createdAt record) == label

def ofDay (day : Int) : List α := records.filter fun record => utcDay (createdAt record) == day

/-- Each point is of one of the latest days, in order, and the records under its label
are the records of the day. -/
structure OfSingleDays (value : Int → V) (points : List (DashboardPointDto V)) : Prop where
  ascending : (latestDays createdAt records).Pairwise (· < ·)
  latest : ∀ record ∈ records, utcDay (createdAt record) ∉ latestDays createdAt records →
    (latestDays createdAt records).length = 14 ∧
      ∀ day ∈ latestDays createdAt records, utcDay (createdAt record) < day
  points : points = (latestDays createdAt records).map fun day => ⟨dayLabel day, value day⟩
  single : ∀ day ∈ latestDays createdAt records,
    ofLabel createdAt records (dayLabel day) = ofDay createdAt records day

/-- No latest day has the label of an earlier day with records. -/
def LabelsApart : Prop :=
  ∀ day ∈ latestDays createdAt records, ∀ record ∈ records,
    utcDay (createdAt record) < day → monthDay (createdAt record) ≠ dayLabel day

instance : Decidable (LabelsApart createdAt records) := by
  unfold LabelsApart
  infer_instance

variable {createdAt records}

theorem mem_takeLast {β : Type} {n : ℕ} {xs : List β} {x : β} (h : x ∈ takeLast n xs) : x ∈ xs :=
  List.mem_of_mem_drop h

theorem exists_record_of_latestDay {day : Int} (h : day ∈ latestDays createdAt records) :
    ∃ record ∈ records, utcDay (createdAt record) = day :=
  List.mem_map.mp (List.mem_eraseDups.mp (mem_takeLast h))

theorem ascending_days (hsorted : (records.map createdAt).Pairwise (· ≤ ·)) :
    (records.map fun record => utcDay (createdAt record)).eraseDups.Pairwise (· < ·) := by
  apply pairwise_lt_eraseDups
  rw [List.pairwise_map] at hsorted ⊢
  exact hsorted.imp fun h => utcDay_mono h

theorem latestDays_ascending (hsorted : (records.map createdAt).Pairwise (· ≤ ·)) :
    (latestDays createdAt records).Pairwise (· < ·) :=
  (ascending_days hsorted).sublist (List.drop_sublist _ _)

/-- A day that is not among the latest is before fourteen of them. -/
theorem latestDays_latest (hsorted : (records.map createdAt).Pairwise (· ≤ ·)) {record : α}
    (hrecord : record ∈ records)
    (hnot : utcDay (createdAt record) ∉ latestDays createdAt records) :
    (latestDays createdAt records).length = 14 ∧
      ∀ day ∈ latestDays createdAt records, utcDay (createdAt record) < day := by
  have hmem : utcDay (createdAt record) ∈
      (records.map fun record => utcDay (createdAt record)).eraseDups :=
    List.mem_eraseDups.mpr (List.mem_map_of_mem hrecord)
  have hascending := ascending_days hsorted
  unfold latestDays takeLast at hnot ⊢
  generalize (records.map fun record => utcDay (createdAt record)).eraseDups = days at *
  rw [← List.take_append_drop (days.length - 14) days, List.pairwise_append] at hascending
  rw [← List.take_append_drop (days.length - 14) days, List.mem_append] at hmem
  have hearly := hmem.resolve_right hnot
  refine ⟨?_, fun day hday => hascending.2.2 _ hearly day hday⟩
  have hlength := List.length_pos_of_mem hearly
  rw [List.length_take] at hlength
  rw [List.length_drop]
  omega

theorem takeLast_map {β γ : Type} (f : β → γ) (n : ℕ) (xs : List β) :
    takeLast n (xs.map f) = (takeLast n xs).map f := by
  rw [takeLast, takeLast, List.length_map, List.map_drop]

theorem latestLabels_eq (hsorted : (records.map createdAt).Pairwise (· ≤ ·))
    (h : ∀ day ∈ latestDays createdAt records, ∀ record ∈ records,
      dayLabel (utcDay (createdAt record)) = dayLabel day → utcDay (createdAt record) = day) :
    takeLast 14 (records.map fun record => monthDay (createdAt record)).eraseDups =
      (latestDays createdAt records).map dayLabel := by
  have hlabels : (records.map fun record => monthDay (createdAt record)).eraseDups =
      ((records.map fun record => utcDay (createdAt record)).eraseDups.map dayLabel).eraseDups := by
    rw [eraseDups_map_eraseDups, List.map_map]
    congr 1
    exact List.map_congr_left fun record _ => monthDay_eq (createdAt record)
  have hascending := ascending_days hsorted
  have hapart : ∀ day ∈ latestDays createdAt records,
      ∀ other ∈ (records.map fun record => utcDay (createdAt record)).eraseDups,
        dayLabel other = dayLabel day → other = day := by
    intro day hday other hother
    obtain ⟨record, hrecord, rfl⟩ := List.mem_map.mp (List.mem_eraseDups.mp hother)
    exact h day hday record hrecord
  rw [hlabels]
  unfold latestDays takeLast at hapart ⊢
  generalize (records.map fun record => utcDay (createdAt record)).eraseDups = days at *
  have hsplit := List.take_append_drop (days.length - 14) days
  have hboth : ((days.take (days.length - 14) ++ days.drop (days.length - 14)).map
      dayLabel).eraseDups = ((days.take (days.length - 14)).map dayLabel).eraseDups ++
        (days.drop (days.length - 14)).map dayLabel := by
    rw [← hsplit, List.pairwise_append] at hascending
    apply eraseDups_map_append
    · exact hascending.2.1.imp fun h => ne_of_lt h
    · intro day hday other hother
      rw [hsplit] at hother
      exact hapart day hday other hother
    · intro day hday hearly
      exact lt_irrefl day (hascending.2.2 day hearly day hday)
  rw [hsplit] at hboth
  rw [hboth]
  by_cases hfew : days.length ≤ 14
  · have hnone : days.length - 14 = 0 := by omega
    rw [hnone]
    simp only [List.take_zero, List.map_nil, List.eraseDups_nil, List.nil_append, List.drop_zero,
      List.length_map, hnone]
  · have hlength : ((days.drop (days.length - 14)).map dayLabel).length = 14 := by
      rw [List.length_map, List.length_drop]
      omega
    rw [List.length_append, hlength, Nat.add_sub_cancel, List.drop_left]

/-- The points of a chart are of single days exactly when the labels are apart. -/
theorem ofSingleDays_iff (hsorted : (records.map createdAt).Pairwise (· ≤ ·))
    (value : String → List α → V) {chart : List (DashboardPointDto V)}
    (hchart : chart = takeLast 14 (points ((records.map fun record =>
      monthDay (createdAt record)).eraseDups.map fun label =>
        (label, value label (ofLabel createdAt records label))))) :
    OfSingleDays createdAt records
        (fun day => value (dayLabel day) (ofDay createdAt records day)) chart ↔
      LabelsApart createdAt records := by
  constructor
  · intro h day hday record hrecord hearlier hlabel
    have hmem : record ∈ ofLabel createdAt records (dayLabel day) :=
      List.mem_filter.mpr ⟨hrecord, beq_iff_eq.mpr hlabel⟩
    rw [h.single day hday] at hmem
    have hsame := beq_iff_eq.mp (List.mem_filter.mp hmem).2
    exact absurd hsame (ne_of_lt hearlier)
  · intro h
    have hday : ∀ day ∈ latestDays createdAt records, ∀ record ∈ records,
        dayLabel (utcDay (createdAt record)) = dayLabel day → utcDay (createdAt record) = day := by
      intro day hday record hrecord hlabel
      rcases lt_trichotomy (utcDay (createdAt record)) day with hlt | heq | hgt
      · exact absurd ((monthDay_eq _).trans hlabel) (h day hday record hrecord hlt)
      · exact heq
      · -- the record is of a latest day too, whose label is that of the earlier one
        have hlate : utcDay (createdAt record) ∈ latestDays createdAt records := by
          by_contra hnot
          exact lt_asymm hgt ((latestDays_latest hsorted hrecord hnot).2 day hday)
        obtain ⟨earlier, hearlier, rfl⟩ := exists_record_of_latestDay hday
        exact absurd ((monthDay_eq _).trans hlabel.symm) (h _ hlate earlier hearlier hgt)
    have hsingle : ∀ day ∈ latestDays createdAt records,
        ofLabel createdAt records (dayLabel day) = ofDay createdAt records day := by
      intro day hmem
      apply List.filter_congr
      intro record hrecord
      rw [Bool.eq_iff_iff, beq_iff_eq, beq_iff_eq, monthDay_eq]
      constructor
      · exact hday day hmem record hrecord
      · rintro rfl
        rfl
    refine ⟨latestDays_ascending hsorted, fun record hrecord => latestDays_latest hsorted hrecord,
      ?_, hsingle⟩
    rw [hchart, points, List.map_map, takeLast_map, latestLabels_eq hsorted hday,
      List.map_map]
    apply List.map_congr_left
    intro day hmem
    simp only [Function.comp, hsingle day hmem]

theorem OfSingleDays.congr {value value' : Int → V} {chart : List (DashboardPointDto V)}
    (h : OfSingleDays createdAt records value chart)
    (hvalue : ∀ day ∈ latestDays createdAt records, value day = value' day) :
    OfSingleDays createdAt records value' chart where
  ascending := h.ascending
  latest := h.latest
  points := by
    rw [h.points]
    apply List.map_congr_left
    intro day hday
    rw [hvalue day hday]
  single := h.single

end Days

/-! ## The charts -/

def simulationTime (loaded : ChartSimulation) : Time := loaded.simulation.createdAt

/-- The simulations that the chart of costs counts, with their prices. -/
def pricedSimulations (simulations : List ChartSimulation) : List (Time × Fixed 2) :=
  simulations.filterMap fun loaded =>
    loaded.simulation.estimatedPrice.map fun price => (loaded.simulation.createdAt, price)

section Charts

variable {N : Type} (P : DashboardPlatform N)

def addCost (record : Time × Fixed 2) (current : CostSum N) : CostSum N :=
  ⟨current.count + 1, P.add current.sum (P.toNumber record.2.val)⟩

def averageCost (records : List (Time × Fixed 2)) : N :=
  let total := records.foldl (fun current record => addCost P record current) ⟨0, P.ofInt 0⟩
  round P (P.div total.sum (P.ofInt total.count))

theorem tally_eq (labels : List String) :
    tally labels = labels.eraseDups.map fun label =>
      (label, (labels.filter fun other => other == label).length) := by
  have hcount : ∀ (n : ℕ) (xs : List String),
      xs.foldl (fun count _ => count + 1) n = n + xs.length := by
    intro n xs
    induction xs generalizing n with
    | nil => rfl
    | cons x xs ih => rw [List.foldl_cons, ih, List.length_cons, Nat.add_assoc, Nat.add_comm 1]
  have hgroups := foldl_adjust (fun label : String => label) 0 (fun _ count => count + 1) labels
  rw [List.map_id'] at hgroups
  rw [tally, hgroups]
  apply List.map_congr_left
  intro label _
  rw [hcount, Nat.zero_add]

theorem length_filter_map_label {α : Type} (createdAt : α → Time) (records : List α)
    (label : String) :
    ((records.map fun record => monthDay (createdAt record)).filter fun other =>
      other == label).length = (ofLabel createdAt records label).length := by
  rw [List.filter_map, List.length_map]
  rfl

theorem lookup_map_labels {V : Type} (value : String → V) (labels : List String) (label : String) :
    (labels.map fun label => (label, value label)).lookup label =
      if label ∈ labels then some (value label) else none := by
  induction labels with
  | nil => rfl
  | cons first rest ih =>
      rw [List.map_cons, List.lookup_cons, ih]
      by_cases hfirst : label = first
      · subst hfirst
        simp
      · have hne : (label == first) = false := beq_eq_false_iff_ne.mpr hfirst
        simp [hne, hfirst]

theorem lookup_tally (shipments : List Time) (label : String) :
    ((tally (shipments.map monthDay)).lookup label).getD 0 =
      (ofLabel id shipments label).length := by
  have hlength := length_filter_map_label id shipments label
  rw [tally_eq, lookup_map_labels]
  split
  · exact hlength
  · next hnone =>
    rw [← hlength]
    have hempty : (shipments.map monthDay).filter (fun other => other == label) = [] := by
      rw [List.filter_eq_nil_iff]
      intro other hother heq
      rw [beq_iff_eq.mp heq] at hother
      exact hnone (List.mem_eraseDups.mpr hother)
    exact (congrArg List.length hempty).symm

theorem simulationsByPeriod_eq (simulations : List ChartSimulation) :
    simulationsByPeriod (simulations.map simulationTime) =
      takeLast 14 (points ((simulations.map fun loaded =>
        monthDay (simulationTime loaded)).eraseDups.map fun label =>
          (label, (ofLabel simulationTime simulations label).length))) := by
  rw [simulationsByPeriod, tally_eq, List.map_map]
  congr 2
  apply List.map_congr_left
  intro label _
  rw [← length_filter_map_label]
  rfl

theorem costByPeriod_eq (simulations : List ChartSimulation) :
    costByPeriod P simulations =
      takeLast 14 (points (((pricedSimulations simulations).map fun record =>
        monthDay record.1).eraseDups.map fun label =>
          (label, averageCost P (ofLabel Prod.fst (pricedSimulations simulations) label)))) := by
  have hloop : costByPeriod P simulations = takeLast 14 (points
      (((pricedSimulations simulations).foldl (fun map record =>
        adjust map (monthDay record.1) ⟨0, P.ofInt 0⟩ (addCost P record)) []).map fun entry =>
          (entry.1, round P (P.div entry.2.sum (P.ofInt entry.2.count))))) := by
    rw [pricedSimulations, List.foldl_filterMap, costByPeriod]
    congr 4
    funext map loaded
    cases loaded.simulation.estimatedPrice <;> rfl
  rw [hloop, foldl_adjust (fun record : Time × Fixed 2 => monthDay record.1)
    (⟨0, P.ofInt 0⟩ : CostSum N) (addCost P), List.map_map]
  rfl

theorem conversionByPeriod_eq (simulations : List ChartSimulation) (shipments : List Time) :
    conversionByPeriod P (simulations.map simulationTime) shipments =
      takeLast 14 (points ((simulations.map fun loaded =>
        monthDay (simulationTime loaded)).eraseDups.map fun label =>
          (label, percent P (ofLabel id shipments label).length
            (ofLabel simulationTime simulations label).length))) := by
  have htally := tally_eq ((simulations.map simulationTime).map monthDay)
  rw [conversionByPeriod, htally, List.map_map, List.map_map]
  congr 2
  apply List.map_congr_left
  intro label _
  simp only [Function.comp, lookup_tally, ← length_filter_map_label]
  rfl

/-- Every point of the three charts is of one of the latest days. -/
structure SingleDayCharts (simulations : List ChartSimulation) (shipments : List Time) : Prop where
  counts : OfSingleDays simulationTime simulations
    (fun day => (ofDay simulationTime simulations day).length)
    (simulationsByPeriod (simulations.map simulationTime))
  costs : OfSingleDays Prod.fst (pricedSimulations simulations)
    (fun day => averageCost P (ofDay Prod.fst (pricedSimulations simulations) day))
    (costByPeriod P simulations)
  conversions : OfSingleDays simulationTime simulations
    (fun day => percent P (ofDay id shipments day).length
      (ofDay simulationTime simulations day).length)
    (conversionByPeriod P (simulations.map simulationTime) shipments)
  shipments : ∀ day ∈ latestDays simulationTime simulations,
    ofLabel id shipments (dayLabel day) = ofDay id shipments day

theorem sorted_pricedSimulations {simulations : List ChartSimulation}
    (hsorted : (simulations.map simulationTime).Pairwise (· ≤ ·)) :
    ((pricedSimulations simulations).map Prod.fst).Pairwise (· ≤ ·) := by
  rw [List.pairwise_map] at hsorted ⊢
  refine List.Pairwise.filterMap _ ?_ hsorted
  intro loaded loaded' hle record hrecord record' hrecord'
  obtain ⟨price, -, rfl⟩ := Option.map_eq_some_iff.mp hrecord
  obtain ⟨price', -, rfl⟩ := Option.map_eq_some_iff.mp hrecord'
  exact hle

/-- The charts are of single days exactly when no latest day of one has the label of an
earlier day with records, nor a latest day with simulations that of another day with
shipments. -/
theorem singleDayCharts_iff {simulations : List ChartSimulation} (shipments : List Time)
    (hsorted : (simulations.map simulationTime).Pairwise (· ≤ ·)) :
    SingleDayCharts P simulations shipments ↔
      LabelsApart simulationTime simulations ∧
        LabelsApart Prod.fst (pricedSimulations simulations) ∧
        ∀ day ∈ latestDays simulationTime simulations, ∀ time ∈ shipments,
          utcDay time ≠ day → monthDay time ≠ dayLabel day := by
  have hcounts := ofSingleDays_iff hsorted
    (fun _ records => records.length) (simulationsByPeriod_eq simulations)
  have hcosts := ofSingleDays_iff (sorted_pricedSimulations hsorted)
    (fun _ records => averageCost P records) (costByPeriod_eq P simulations)
  have hconversions := ofSingleDays_iff hsorted
    (fun label records => percent P (ofLabel id shipments label).length records.length)
    (conversionByPeriod_eq P simulations shipments)
  constructor
  · intro h
    refine ⟨hcounts.mp h.counts, hcosts.mp h.costs, ?_⟩
    intro day hday time htime hother hlabel
    have hmem : time ∈ ofLabel id shipments (dayLabel day) :=
      List.mem_filter.mpr ⟨htime, beq_iff_eq.mpr hlabel⟩
    rw [h.shipments day hday] at hmem
    exact hother (beq_iff_eq.mp (List.mem_filter.mp hmem).2)
  · rintro ⟨hapart, hpriced, hshipments⟩
    have hsame : ∀ day ∈ latestDays simulationTime simulations,
        ofLabel id shipments (dayLabel day) = ofDay id shipments day := by
      intro day hday
      apply List.filter_congr
      intro time htime
      rw [Bool.eq_iff_iff, beq_iff_eq, beq_iff_eq]
      constructor
      · intro hlabel
        by_contra hother
        exact hshipments day hday time htime hother hlabel
      · rintro rfl
        exact monthDay_eq time
    refine ⟨hcounts.mpr hapart, hcosts.mpr hpriced, ?_, hsame⟩
    refine (hconversions.mpr hapart).congr fun day hday => ?_
    rw [hsame day hday]

def quotedAt (createdAt : Time) (price : ℚ) : ChartSimulation where
  simulation := {
    id := "simulation"
    tenantId := "tenant"
    branchId := none
    customerId := none
    originPostalCode := "01001000"
    destinationPostalCode := "20010000"
    cargoValue := none
    estimatedPrice := some (.store 2 price)
    status := .calculated
    createdAt := createdAt }
  options := []

/-- Two quotes on the first of January 2023, one on the second. -/
theorem singleDayCharts_two_days :
    SingleDayCharts plainDashboard [quotedAt 1672531200000 10, quotedAt 1672534800000 20,
      quotedAt 1672617600000 10] [1672617600001] := by
  have hsorted : ([quotedAt 1672531200000 10, quotedAt 1672534800000 20,
      quotedAt 1672617600000 10].map simulationTime).Pairwise (· ≤ ·) := by
    decide
  exact (singleDayCharts_iff plainDashboard [1672617600001] hsorted).mpr
    ⟨by decide +kernel, by decide +kernel, by decide +kernel⟩

/-- The first of January 2023 and that of 2024 make one point. -/
theorem singleDayCharts_two_years :
    ¬SingleDayCharts plainDashboard [quotedAt 1672531200000 10, quotedAt 1704067200000 20] [] := by
  intro h
  have hlength := congrArg List.length h.counts.points
  exact absurd hlength (by decide +kernel)

end Charts

end Logistics.Dashboard
