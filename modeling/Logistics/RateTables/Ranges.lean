import Logistics.Library.Intervals
import Logistics.RateTables.Activation

/-!
# Weight ranges of a rate table

A table is stored only with proper ranges that are apart in pairs, but the columns
keep three decimal places of the bounds that were checked. Bounds that are
different can become equal there, and then stored ranges touch or have no extent.
As long as the requests list no such bounds, stored ranges are apart, so a quote
finds the same range in any order and a table can be copied.
-/

namespace Logistics.RateTables

open Logistics.Library Logistics.Quoting

/-! ## The check of the ranges -/

/-- What is asked of one range of a request. -/
structure RateRangeInputDto.Proper (range : RateRangeInputDto) : Prop where
  weights : range.minWeightKg < range.maxWeightKg
  basePrice : 0 ≤ range.basePrice
  pricePerKg : 0 ≤ range.pricePerKg
  deadlineDays : 1 ≤ range.deadlineDays

/-- The listed ranges have no weight in common. -/
def ListedApart (ranges : List RateRangeInputDto) : Prop :=
  ranges.Pairwise (Apart RateRangeInputDto.minWeightKg RateRangeInputDto.maxWeightKg)

theorem haveOverlap_eq_false_iff (ranges : List RateRangeInputDto) :
    haveOverlap ranges = false ↔ ranges.IsChain fun a b => a.maxWeightKg < b.minWeightKg := by
  induction ranges using haveOverlap.induct with
  | case1 previous current rest ih =>
      rw [haveOverlap, List.isChain_cons_cons, ← ih]
      simp
  | case2 ranges hshort =>
      match ranges, hshort with
      | [], _ => simp [haveOverlap]
      | [range], _ => simp [haveOverlap]
      | previous :: current :: rest, hshort => exact (hshort previous current rest rfl).elim

/-- Ranges pass the check if each is proper and no two have a weight in common. -/
theorem validateRanges_eq_ok_iff (ranges : List RateRangeInputDto) :
    validateRanges ranges = .ok () ↔ (∀ range ∈ ranges, range.Proper) ∧ ListedApart ranges := by
  have hany : (ranges.insertionSort fun a b => a.minWeightKg ≤ b.minWeightKg).any (fun range =>
      range.maxWeightKg ≤ range.minWeightKg || range.basePrice < 0 || range.pricePerKg < 0 ||
        range.deadlineDays < 1) = false ↔ ∀ range ∈ ranges, range.Proper := by
    rw [List.any_eq_false]
    constructor
    · intro h range hrange
      have hrange := h range ((List.mem_insertionSort _).mpr hrange)
      simp only [Bool.or_eq_true, decide_eq_true_eq, not_or, not_le, not_lt] at hrange
      exact ⟨hrange.1.1.1, hrange.1.1.2, hrange.1.2, hrange.2⟩
    · intro h range hrange
      have hproper := h range ((List.mem_insertionSort _).mp hrange)
      simp only [Bool.or_eq_true, decide_eq_true_eq, not_or, not_le, not_lt]
      exact ⟨⟨⟨hproper.weights, hproper.basePrice⟩, hproper.pricePerKg⟩, hproper.deadlineDays⟩
  unfold validateRanges
  dsimp only
  by_cases hproper : ∀ range ∈ ranges, range.Proper
  · rw [if_neg (by rw [hany.mpr hproper]; exact Bool.false_ne_true)]
    have hchain := isChain_insertionSort_iff fun range hrange => (hproper range hrange).weights.le
    rw [and_iff_right hproper, ListedApart, ← hchain, ← haveOverlap_eq_false_iff]
    split
    · next hoverlap => simp [hoverlap]
    · next hoverlap => exact iff_of_true rfl (Bool.not_eq_true _ ▸ hoverlap)
  · rw [if_pos (by rw [← Bool.not_eq_false, hany]; exact hproper)]
    constructor
    · intro h
      cases h
    · intro h
      exact absurd h.1 hproper

/-- Ranges pass the check exactly when each is well formed and the closed intervals at
any two positions are disjoint. -/
theorem validateRanges_accepts_iff (ranges : List RateRangeInputDto) :
    validateRanges ranges = .ok () ↔
      (∀ range ∈ ranges, range.minWeightKg < range.maxWeightKg ∧ 0 ≤ range.basePrice ∧
        0 ≤ range.pricePerKg ∧ 1 ≤ range.deadlineDays) ∧
      ∀ (i j : ℕ) (hi : i < ranges.length) (hj : j < ranges.length), i ≠ j →
        Disjoint (Set.Icc ranges[i].minWeightKg ranges[i].maxWeightKg)
          (Set.Icc ranges[j].minWeightKg ranges[j].maxWeightKg) := by
  have hproper : (∀ range ∈ ranges, range.Proper) ↔ ∀ range ∈ ranges,
      range.minWeightKg < range.maxWeightKg ∧ 0 ≤ range.basePrice ∧ 0 ≤ range.pricePerKg ∧
        1 ≤ range.deadlineDays :=
    forall₂_congr fun _ _ =>
      ⟨fun h => ⟨h.1, h.2, h.3, h.4⟩, fun h => ⟨h.1, h.2.1, h.2.2.1, h.2.2.2⟩⟩
  rw [validateRanges_eq_ok_iff, ← hproper]
  refine and_congr_right fun hranges => ?_
  have hapart : ∀ (i j : ℕ) (hi : i < ranges.length) (hj : j < ranges.length),
      Apart RateRangeInputDto.minWeightKg RateRangeInputDto.maxWeightKg ranges[i] ranges[j] ↔
        Disjoint (Set.Icc ranges[i].minWeightKg ranges[i].maxWeightKg)
          (Set.Icc ranges[j].minWeightKg ranges[j].maxWeightKg) := fun i j hi hj =>
    apart_iff_disjoint (hranges _ (List.getElem_mem hi)).weights.le
      (hranges _ (List.getElem_mem hj)).weights.le
  rw [ListedApart, List.pairwise_iff_getElem]
  constructor
  · intro h i j hi hj hne
    rcases Nat.lt_or_gt_of_ne hne with hij | hij
    · exact (hapart i j hi hj).mp (h i j hi hj hij)
    · exact ((hapart j i hj hi).mp (h j i hj hi hij)).symm
  · intro h i j hi hj hij
    exact (hapart i j hi hj).mpr (h i j hi hj (Nat.ne_of_lt hij))

/-! ## What the columns keep of the bounds -/

def bounds (ranges : List RateRangeInputDto) : List Decimal :=
  ranges.flatMap fun range => [range.minWeightKg, range.maxWeightKg]

/-- Different bounds are different to three decimal places. -/
def BoundsApart (ranges : List RateRangeInputDto) : Prop :=
  ∀ a ∈ bounds ranges, ∀ b ∈ bounds ranges, a ≠ b → roundHalfUp 3 a ≠ roundHalfUp 3 b

instance (ranges : List RateRangeInputDto) : Decidable (BoundsApart ranges) := by
  unfold BoundsApart
  infer_instance

theorem mem_bounds {ranges : List RateRangeInputDto} {range : RateRangeInputDto}
    (h : range ∈ ranges) : range.minWeightKg ∈ bounds ranges ∧ range.maxWeightKg ∈ bounds ranges :=
  ⟨List.mem_flatMap.mpr ⟨range, h, by simp⟩, List.mem_flatMap.mpr ⟨range, h, by simp⟩⟩

theorem BoundsApart.lt {ranges : List RateRangeInputDto} (h : BoundsApart ranges) {a b : Decimal}
    (ha : a ∈ bounds ranges) (hb : b ∈ bounds ranges) (hab : a < b) :
    roundHalfUp 3 a < roundHalfUp 3 b :=
  (roundHalfUp_mono 3 hab.le).lt_of_ne (h a ha b hb hab.ne)

structure ProperRange (range : FreightRateRange) : Prop where
  weights : range.minWeightKg.val < range.maxWeightKg.val
  basePrice : 0 ≤ range.basePrice.val
  pricePerKg : 0 ≤ range.pricePerKg.val
  deadlineDays : 1 ≤ range.deadlineDays

/-- The stored ranges have no weight in common. -/
def StoredApart (ranges : List FreightRateRange) : Prop :=
  ranges.Pairwise (Apart (fun range => range.minWeightKg.val) fun range => range.maxWeightKg.val)

instance (ranges : List FreightRateRange) : Decidable (StoredApart ranges) := by
  unfold StoredApart
  infer_instance

theorem properRange_rangeRow {tenantId rateTableId id : Id} {range : RateRangeInputDto}
    (hproper : range.Proper) (hden : range.deadlineDays.den = 1)
    (hbounds : roundHalfUp 3 range.minWeightKg < roundHalfUp 3 range.maxWeightKg) :
    ProperRange (rangeRow tenantId rateTableId id range) where
  weights := hbounds
  basePrice := roundHalfUp_nonneg 2 hproper.basePrice
  pricePerKg := roundHalfUp_nonneg 4 hproper.pricePerKg
  deadlineDays := by
    have hdays := hproper.deadlineDays
    rw [← Rat.coe_int_num_of_den_eq_one hden] at hdays
    exact_mod_cast hdays

theorem properRange_of_mem_rangeRows {input : Input} {tenantId rateTableId : Id}
    {dto : RateTableInputDto} (hproper : ∀ range ∈ dto.ranges, range.Proper)
    (hfits : fitsColumns dto = true) (hbounds : BoundsApart dto.ranges) :
    ∀ row ∈ rangeRows input tenantId rateTableId dto, ProperRange row := by
  intro row hrow
  obtain ⟨n, hn, rfl⟩ := List.mem_mapIdx.mp hrow
  have hrange := List.getElem_mem hn
  have hcolumns := List.all_eq_true.mp hfits _ hrange
  simp only [Bool.and_eq_true, beq_iff_eq] at hcolumns
  have hmem := mem_bounds hrange
  exact properRange_rangeRow (hproper _ hrange) hcolumns.1
    (hbounds.lt hmem.1 hmem.2 (hproper _ hrange).weights)

theorem storedApart_rangeRows (input : Input) (tenantId rateTableId : Id)
    {dto : RateTableInputDto} (hapart : ListedApart dto.ranges)
    (hbounds : BoundsApart dto.ranges) :
    StoredApart (rangeRows input tenantId rateTableId dto) := by
  rw [StoredApart, List.pairwise_iff_getElem]
  intro m n hm hn hmn
  rw [rangeRows, List.length_mapIdx] at hm hn
  have hmem := mem_bounds (List.getElem_mem hm)
  have hmem' := mem_bounds (List.getElem_mem hn)
  simp only [rangeRows, List.getElem_mapIdx]
  rcases List.pairwise_iff_getElem.mp hapart m n hm hn hmn with h | h
  · exact .inl (hbounds.lt hmem.2 hmem'.1 h)
  · exact .inr (hbounds.lt hmem'.2 hmem.1 h)

/-- A copy lists bounds that are stored, so rounding leaves them alone. -/
theorem boundsApart_versionInput (current : LoadedRateTable) :
    BoundsApart (versionInput current).ranges := by
  have hstored : ∀ a ∈ bounds (versionInput current).ranges, roundHalfUp 3 a = a := by
    intro a ha
    apply roundHalfUp_of_mem
    obtain ⟨range, hrange, ha⟩ := List.mem_flatMap.mp ha
    obtain ⟨row, -, rfl⟩ := List.mem_map.mp hrange
    rcases List.mem_cons.mp ha with rfl | ha
    · exact row.minWeightKg.property
    · obtain rfl := List.mem_singleton.mp ha
      exact row.maxWeightKg.property
  intro a ha b hb hab
  rwa [hstored a ha, hstored b hb]

theorem validateRanges_versionInput {current : LoadedRateTable}
    (hproper : ∀ range ∈ current.ranges, ProperRange range)
    (hapart : StoredApart current.ranges) :
    validateRanges (versionInput current).ranges = .ok () := by
  rw [validateRanges_eq_ok_iff]
  constructor
  · intro range hrange
    obtain ⟨row, hrow, rfl⟩ := List.mem_map.mp hrange
    have hrow := hproper row hrow
    have hdays : (1 : Decimal) ≤ row.deadlineDays := by exact_mod_cast hrow.deadlineDays
    exact ⟨hrow.weights, hrow.basePrice, hrow.pricePerKg, hdays⟩
  · rw [ListedApart, versionInput, List.pairwise_map]
    exact hapart

/-! ## What the calls keep -/

/-- The ranges of every table are proper, and no two have a weight in common. -/
structure RangesDisjoint (s : Store) : Prop where
  proper : ∀ range ∈ s.freightRateRanges.rows, ProperRange range
  owned : ∀ range ∈ s.freightRateRanges.rows, ∃ table ∈ s.freightRateTables.rows,
    table.id = range.rateTableId ∧ table.tenantId = range.tenantId
  apart : ∀ rateTableId, StoredApart (rangesOf s rateTableId)

/-- A request that stores or replaces a table lists no two bounds that become equal
in the columns. -/
def BoundsKept : rateTableInterface.Command → Prop
  | .inr (.storeRateTable _ _ none dto) => BoundsApart dto.ranges
  | .inr (.replaceRateTable _ _ _ dto) => BoundsApart dto.ranges
  | _ => True

instance (c : rateTableInterface.Command) : Decidable (BoundsKept c) := by
  refine decideExtended (fun _ => isTrue trivial) (fun c => ?_) c
  apply @RateTableCommand.casesOn (fun c => Decidable (BoundsKept (.inr c))) c
  case storeRateTable =>
    intro tenantId version previous dto
    apply @Option.casesOn _ (fun previous =>
      Decidable (BoundsKept (.inr (.storeRateTable tenantId version previous dto)))) previous <;>
      intros <;> dsimp only [BoundsKept] <;> infer_instance
  all_goals intros; dsimp only [BoundsKept]; infer_instance

theorem RangesDisjoint.of_stored {s s' : Store} (hs : RangesDisjoint s) {table : FreightRateTable}
    {input : Input} {tenantId : Id} {dto : RateTableInputDto}
    {links : List FreightRateTableCoverage} (htenant : table.tenantId = tenantId)
    (hstored : Stored s s' table (rangeRows input tenantId table.id dto) links)
    (hranges : validateRanges dto.ranges = .ok ()) (hfits : fitsColumns dto = true)
    (hbounds : BoundsApart dto.ranges) : RangesDisjoint s' := by
  obtain ⟨hproper, hapart⟩ := (validateRanges_eq_ok_iff dto.ranges).mp hranges
  constructor
  · intro range hrange
    rw [hstored.ranges] at hrange
    rcases List.mem_append.mp hrange with hrange | hrange
    · exact hs.proper range hrange
    · exact properRange_of_mem_rangeRows hproper hfits hbounds range hrange
  · intro range hrange
    rw [hstored.ranges] at hrange
    rw [hstored.tables]
    rcases List.mem_append.mp hrange with hrange | hrange
    · obtain ⟨owner, howner, hof⟩ := hs.owned range hrange
      exact ⟨owner, List.mem_append_left _ howner, hof⟩
    · obtain ⟨hof, hofTenant⟩ := rateTableId_of_mem_rangeRows hrange
      exact ⟨table, List.mem_append_right _ List.mem_cons_self, hof.symm,
        htenant.trans hofTenant.symm⟩
  · intro rateTableId
    have hnew := storedApart_rangeRows input tenantId table.id hapart hbounds
    by_cases hid : rateTableId = table.id
    · -- the new table had no ranges before
      subst hid
      rw [rangesOf, hstored.ranges, filter_append_of_true ?_ ?_]
      · exact hnew
      · intro range hrange
        obtain ⟨owner, howner, hof, -⟩ := hs.owned range hrange
        have hfresh := hstored.fresh (.id table.id) (by simp [FreightRateTable.keys]) owner howner
        simp only [beq_eq_false_iff_ne]
        intro hsame
        exact hfresh (by simp [FreightRateTable.keys, hof, hsame])
      · intro range hrange
        simpa using (rateTableId_of_mem_rangeRows hrange).1
    · rw [rangesOf, hstored.ranges, filter_append_of_false]
      · exact hs.apart rateTableId
      · intro range hrange
        rw [(rateTableId_of_mem_rangeRows hrange).1]
        simpa using Ne.symm hid

theorem RangesDisjoint.of_replaced {s s' : Store} (hs : RangesDisjoint s) {P : Platform}
    {status : FreightRateTableStatus} {validFrom : Time} {validTo : Option Time} {input : Input}
    {tenantId id : Id} {dto : RateTableInputDto} {links : List FreightRateTableCoverage}
    (hreplaced : Replaced s s' tenantId id (replacedRow P status dto validFrom validTo)
      (rangeRows input tenantId id dto) links)
    {current : FreightRateTable} (hcurrent : current ∈ s.freightRateTables.rows)
    (hid : current.id = id) (htenant : current.tenantId = tenantId)
    (hranges : validateRanges dto.ranges = .ok ()) (hfits : fitsColumns dto = true)
    (hbounds : BoundsApart dto.ranges) : RangesDisjoint s' := by
  obtain ⟨hproper, hapart⟩ := (validateRanges_eq_ok_iff dto.ranges).mp hranges
  have hrewritten : ∀ owner ∈ s.freightRateTables.rows, ∃ table ∈ s'.freightRateTables.rows,
      table.id = owner.id ∧ table.tenantId = owner.tenantId := by
    intro owner howner
    rw [hreplaced.tables]
    refine ⟨_, List.mem_map.mpr ⟨owner, howner, rfl⟩, ?_⟩
    split <;> exact ⟨rfl, rfl⟩
  constructor
  · intro range hrange
    rw [hreplaced.ranges] at hrange
    rcases List.mem_append.mp hrange with hrange | hrange
    · exact hs.proper range (List.mem_filter.mp hrange).1
    · exact properRange_of_mem_rangeRows hproper hfits hbounds range hrange
  · intro range hrange
    rw [hreplaced.ranges] at hrange
    rcases List.mem_append.mp hrange with hrange | hrange
    · obtain ⟨owner, howner, hof, hofTenant⟩ := hs.owned range (List.mem_filter.mp hrange).1
      obtain ⟨table, htable, hsame, hsameTenant⟩ := hrewritten owner howner
      exact ⟨table, htable, hsame.trans hof, hsameTenant.trans hofTenant⟩
    · obtain ⟨hof, hofTenant⟩ := rateTableId_of_mem_rangeRows hrange
      obtain ⟨table, htable, hsame, hsameTenant⟩ := hrewritten current hcurrent
      exact ⟨table, htable, hsame.trans (hid.trans hof.symm),
        hsameTenant.trans (htenant.trans hofTenant.symm)⟩
  · intro rateTableId
    rw [rangesOf, hreplaced.ranges]
    by_cases hsame : rateTableId = id
    · -- none of the ranges that the table had before is kept
      subst hsame
      rw [filter_append_of_true ?_ ?_]
      · exact storedApart_rangeRows input tenantId rateTableId hapart hbounds
      · intro range hrange
        obtain ⟨hrange, hkept⟩ := List.mem_filter.mp hrange
        obtain ⟨owner, howner, hof, hofTenant⟩ := hs.owned range hrange
        simp only [beq_eq_false_iff_ne]
        intro hofSame
        obtain rfl := table_eq_of_id howner hcurrent (hof.trans (hofSame.trans hid.symm))
        simp [← hofTenant, htenant, hofSame] at hkept
      · intro range hrange
        simpa using (rateTableId_of_mem_rangeRows hrange).1
    · rw [filter_append_of_false]
      · exact List.Pairwise.sublist (List.filter_sublist.filter _) (hs.apart rateTableId)
      · intro range hrange
        rw [(rateTableId_of_mem_rangeRows hrange).1]
        simpa using Ne.symm hsame

theorem RangesDisjoint.of_tables {s s' : Store} (hs : RangesDisjoint s)
    (htables : ∀ owner ∈ s.freightRateTables.rows, ∃ table ∈ s'.freightRateTables.rows,
      table.id = owner.id ∧ table.tenantId = owner.tenantId)
    (hranges : s'.freightRateRanges = s.freightRateRanges) : RangesDisjoint s' := by
  constructor
  · rw [hranges]
    exact hs.proper
  · rw [hranges]
    intro range hrange
    obtain ⟨owner, howner, hof, hofTenant⟩ := hs.owned range hrange
    obtain ⟨table, htable, hsame, hsameTenant⟩ := htables owner howner
    exact ⟨table, htable, hsame.trans hof, hsameTenant.trans hofTenant⟩
  · unfold rangesOf
    rw [hranges]
    exact hs.apart

theorem rangesDisjoint_execute (P : Platform) (s : Store) (c : rateTableInterface.Command)
    (input : Input) (hs : RangesDisjoint s) (hsound : Sound s c) (hkept : BoundsKept c) :
    RangesDisjoint (execute P c input s).2 := by
  have hsame : ∀ owner ∈ s.freightRateTables.rows, ∃ table ∈ s.freightRateTables.rows,
      table.id = owner.id ∧ table.tenantId = owner.tenantId :=
    fun owner howner => ⟨owner, howner, rfl, rfl⟩
  obtain huntouched | ⟨tenantId, _, previousVersionId, dto, _, _, rfl, hfits, hstored⟩ |
    ⟨tenantId, id, status, dto, _, _, rfl, hfits, hreplaced⟩ | ⟨id, status, rfl, hset⟩ |
    ⟨_, _, rfl, hset⟩ | ⟨_, _, rfl, hset⟩ := execute_cases P c input s
  · exact hs.of_tables (huntouched.tables ▸ hsame) huntouched.ranges
  · obtain ⟨hchecked, -, hcopied⟩ := hsound
    apply hs.of_stored rfl hstored hchecked.ranges hfits
    cases previousVersionId with
    | none => exact hkept
    | some previous =>
        obtain ⟨tie, table, -, -, -, rfl⟩ := hcopied
        exact boundsApart_versionInput (loadedRateTable s tie table)
  · obtain ⟨hchecked, current, hcurrent, hid, htenant, -⟩ := hsound
    exact hs.of_replaced hreplaced hcurrent hid htenant hchecked.ranges hfits hkept
  · apply hs.of_tables ?_ hset.ranges
    intro owner howner
    rw [hset.tables]
    refine ⟨_, List.mem_map.mpr ⟨owner, howner, rfl⟩, ?_⟩
    split <;> exact ⟨rfl, rfl⟩
  · exact hs.of_tables (hset.tables ▸ hsame) hset.ranges
  · exact hs.of_tables (hset.tables ▸ hsame) hset.ranges

/-! ## Looking a range up -/

/-- The range is for this chargeable weight, as a quote asks it. -/
def weightInRange (chargeableWeightKg : Decimal) (range : FreightRateRange) : Bool :=
  chargeableWeightKg ≥ range.minWeightKg.val && chargeableWeightKg ≤ range.maxWeightKg.val

theorem contains_of_weightInRange {weight : Decimal} {range : FreightRateRange}
    (h : weightInRange weight range = true) :
    Contains (fun row : FreightRateRange => row.minWeightKg.val) (fun row => row.maxWeightKg.val)
      range weight := by
  simp only [weightInRange, ge_iff_le, Bool.and_eq_true, decide_eq_true_eq] at h
  exact h

/-- At most one range of a table is for a weight. -/
theorem RangesDisjoint.eq_of_weightInRange {s : Store} (hs : RangesDisjoint s) {rateTableId : Id}
    {a b : FreightRateRange} (ha : a ∈ rangesOf s rateTableId) (hb : b ∈ rangesOf s rateTableId)
    {weight : Decimal} (hwa : weightInRange weight a = true)
    (hwb : weightInRange weight b = true) : a = b :=
  eq_of_contains (hs.apart rateTableId) ha hb (contains_of_weightInRange hwa)
    (contains_of_weightInRange hwb)

/-- A quote finds the same range whatever the order of the ranges, so whatever their
priorities. -/
theorem RangesDisjoint.find?_eq {s : Store} (hs : RangesDisjoint s) (tie : Id → ℕ)
    (table : FreightRateTable) {ordered : List FreightRateRange}
    (hperm : ordered.Perm (rangesOf s table.id)) (weight : Decimal) :
    (eligibleRateTable s tie table).ranges.find? (weightInRange weight) =
      ordered.find? (weightInRange weight) := by
  have hsorted : (eligibleRateTable s tie table).ranges.Perm (rangesOf s table.id) :=
    List.perm_insertionSort _ _
  rw [find?_contains_perm hperm ?_ fun _ => contains_of_weightInRange,
    find?_contains_perm hsorted ?_ fun _ => contains_of_weightInRange]
  · exact (hsorted.pairwise_iff Apart.symm).mpr (hs.apart table.id)
  · exact (hperm.pairwise_iff Apart.symm).mpr (hs.apart table.id)

theorem RangesDisjoint.validateRanges_copy {s : Store} (hs : RangesDisjoint s) (tie : Id → ℕ)
    (table : FreightRateTable) :
    validateRanges (versionInput (loadedRateTable s tie table)).ranges = .ok () := by
  have hsorted : (loadedRateTable s tie table).ranges.Perm (rangesOf s table.id) :=
    List.perm_insertionSort _ _
  apply validateRanges_versionInput
  · intro range hrange
    exact hs.proper range (List.mem_filter.mp (hsorted.mem_iff.mp hrange)).1
  · exact (hsorted.pairwise_iff Apart.symm).mpr (hs.apart table.id)

/-- In every sequence of requests that list no two bounds that become equal in the
columns, the ranges of every table stay proper and apart. So at most one is for a
weight, a quote finds it in any order, and a copy of the table passes the check. -/
theorem stored_ranges_stay_disjoint (P : Platform) (s : Store) (hs : RangesDisjoint s)
    (calls : List (Request × (ℕ → Input)))
    (hkept : (rateTableSystem P).AlongCalls (fun _ c _ => BoundsKept c) calls s) :
    RangesDisjoint ((rateTableSystem P).runCalls calls s) ∧
      ∀ table ∈ ((rateTableSystem P).runCalls calls s).freightRateTables.rows,
        (∀ weight, ∀ a ∈ rangesOf ((rateTableSystem P).runCalls calls s) table.id,
          ∀ b ∈ rangesOf ((rateTableSystem P).runCalls calls s) table.id,
            weightInRange weight a = true → weightInRange weight b = true → a = b) ∧
        (∀ tie weight, ∀ ordered : List FreightRateRange,
          ordered.Perm (rangesOf ((rateTableSystem P).runCalls calls s) table.id) →
            (eligibleRateTable ((rateTableSystem P).runCalls calls s) tie table).ranges.find?
                (weightInRange weight) =
              ordered.find? (weightInRange weight)) ∧
        ∀ tie, validateRanges (versionInput (loadedRateTable
          ((rateTableSystem P).runCalls calls s) tie table)).ranges = .ok () := by
  have hdisjoint : RangesDisjoint ((rateTableSystem P).runCalls calls s) :=
    runCalls_keep P (fun s c input hs hsound hkept =>
      rangesDisjoint_execute P s c input hs hsound hkept) calls hs hkept
  refine ⟨hdisjoint, fun table _ => ⟨?_, ?_, ?_⟩⟩
  · intro weight a ha b hb hwa hwb
    exact hdisjoint.eq_of_weightInRange ha hb hwa hwb
  · intro tie weight ordered hperm
    exact hdisjoint.find?_eq tie table hperm weight
  · exact fun tie => hdisjoint.validateRanges_copy tie table

theorem rangesDisjoint_twoServices : RangesDisjoint twoServices :=
  ⟨by simp [twoServices, Table.empty], by simp [twoServices, Table.empty],
    by simp [rangesOf, StoredApart, twoServices, Table.empty]⟩

theorem stored_ranges_stay_disjoint_ratedCalls :
    RangesDisjoint ((rateTableSystem plainPlatform).runCalls ratedCalls twoServices) :=
  (stored_ranges_stay_disjoint plainPlatform twoServices rangesDisjoint_twoServices ratedCalls
    (by decide +kernel)).1

/-- A range up to 10 kg, and one from less than half a gram above. -/
def neighbouringCalls : List (Request × (ℕ → Input)) :=
  [(.createRateTable "tenant" "ana" (plainTable "service" none [] [plainRange 0 10,
    plainRange (100004 / 10000) 20]), plainInputs "a")]

/-- Both stored ranges are for 10 kg then, and no new version can be made. -/
theorem stored_ranges_meet :
    (plainTable "service" none [] [plainRange 0 10, plainRange (100004 / 10000) 20]).isValid =
        true ∧
      RangesDisjoint twoServices ∧
      ¬RangesDisjoint ((rateTableSystem plainPlatform).runCalls neighbouringCalls twoServices) ∧
      ((rangesOf ((rateTableSystem plainPlatform).runCalls neighbouringCalls twoServices) "a0"
        ).filter (weightInRange 10)).length = 2 ∧
      ((createRateTableVersion "tenant" "ana" "a0").run (execute plainPlatform) (plainInputs "c")
        ((rateTableSystem plainPlatform).runCalls neighbouringCalls twoServices)).1.map
          (fun _ => ()) = .error overlappingRanges := by
  refine ⟨by decide +kernel, rangesDisjoint_twoServices, fun hdisjoint => ?_, by decide +kernel,
    by decide +kernel⟩
  exact absurd (hdisjoint.apart "a0") (by decide +kernel)

end Logistics.RateTables
