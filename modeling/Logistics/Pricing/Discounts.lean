import Logistics.Pricing.Comparison

/-!
# Discounts

Nothing bounds the discounts of a calculation: each is taken on the undiscounted
subtotal, behind the minimum, and the total is negative when they exceed the rest. How
far they may go is read off the fields of the input. `listPrice`, `surcharges` and
`discounts` come from them without any rounding, and the rounding of the engine (of
weights to three places, of amounts to two, of every result to the precision of its
decimals) moves the total by at most `roundingError`.
-/

namespace Logistics.Pricing

open Logistics.Library FreightPricingEngine

/-- An input with no negative number. -/
structure Admitted (input : FreightCalculationInput) : Prop where
  cargoValue : 0 ≤ input.cargoValue
  cubicFactor : 0 ≤ input.cubicFactor
  minimumValue : 0 ≤ input.minimumValue
  basePrice : 0 ≤ input.rate.basePrice
  pricePerKg : 0 ≤ input.rate.pricePerKg
  minWeightKg : 0 ≤ input.rate.minWeightKg
  packages : ∀ item ∈ input.packages, item.Nonneg
  fixedAmount : ∀ charge ∈ input.charges, 0 ≤ charge.fixedAmount.getD 0
  percentage : ∀ charge ∈ input.charges, 0 ≤ charge.percentage.getD 0

/-! ## The price without any rounding -/

section Unrounded

variable (input : FreightCalculationInput)

def heaviestWeight : Decimal :=
  max (realWeight input.packages) (totalVolume input.packages * input.cubicFactor)

def rangePrice : Decimal :=
  input.rate.basePrice +
    max (heaviestWeight input - input.rate.minWeightKg) 0 * input.rate.pricePerKg

/-- The price before the charges. -/
def listPrice : Decimal := max input.minimumValue (rangePrice input)

/-- A charge whose percentage is taken on this price or on the cargo value. -/
def chargeValue (price : Decimal) (charge : ChargeInput) : Decimal :=
  charge.fixedAmount.getD 0 +
    chargeBasis charge.type input.cargoValue price * charge.percentage.getD 0

def discounts : Decimal :=
  ((input.charges.filter fun charge => charge.type = .discount).map
    (chargeValue input (listPrice input))).sum

def surcharges : Decimal :=
  ((input.charges.filter fun charge => charge.type ≠ .discount).map
    (chargeValue input (listPrice input))).sum

/-! ## What rounding can do -/

/-- Grams and cents that the price before the charges loses or gains. -/
def priceSlack : Decimal := input.rate.pricePerKg / 2000 + 3 / 200

/-- What the price before the charges is made of, all added up. -/
def priceSize : Decimal :=
  input.minimumValue + (input.rate.basePrice +
    (heaviestWeight input + input.rate.minWeightKg) * input.rate.pricePerKg)

/-- The share of that which a charge takes, with its own half a cent. -/
def chargeSlack (charge : ChargeInput) : Decimal :=
  priceSlack input * charge.percentage.getD 0 + 1 / 200

def roundingSlack : Decimal :=
  input.rate.pricePerKg / 1000 + 1 / 25 + (input.charges.map (chargeSlack input)).sum

/-- All amounts that the engine adds or takes off, added up. -/
def grossSize : Decimal :=
  2 * priceSize input + (input.charges.map (chargeValue input (priceSize input))).sum

/-- How far the total may be from the unrounded one. -/
def roundingError (p : Precision Decimal) : Decimal :=
  p.growth (input.packages.length + 12 + input.charges.length) * roundingSlack input +
    (p.growth (input.packages.length + 12 + input.charges.length) - 1) * grossSize input

end Unrounded

variable {p : Precision Decimal}

/-! ## Weights -/

theorem within_self {x : Decimal} (h : 0 ≤ x) (n : ℕ) : Within p n 0 x x x :=
  (Within.refl (abs_of_nonneg h).le).mono (Nat.zero_le n) le_rfl le_rfl le_rfl

theorem within_money {n : ℕ} {a s x y : Decimal} (h : Within p n a s x y) :
    Within p n (a + 1 / 200) s x (money y) := by
  have hround := h.round 2
  norm_num at hround ⊢
  exact hround

theorem within_grams {n : ℕ} {a s x y : Decimal} (h : Within p n a s x y) :
    Within p n (a + 1 / 2000) s x (scale y 3) := by
  have hround := h.round 3
  norm_num at hround ⊢
  exact hround

theorem within_volumeM3 {item : PackageInput} (h : item.Nonneg) :
    Within p 6 0 item.volumeM3 item.volumeM3 (volumeM3 p item) := by
  have hmetres : ∀ {x : Decimal}, 0 ≤ x → Within p 1 0 (x / 100) (x / 100) (p.keep (x / 100)) :=
    fun hx => (within_self (div_nonneg hx (by norm_num)) 0).keep
  have hbase := ((hmetres h.lengthCm).mul (hmetres h.widthCm)).keep
  have hvolume := ((hbase.mul (hmetres h.heightCm)).keep.mul_right h.quantity).keep
  rw [zero_mul] at hvolume
  exact hvolume

theorem within_accumulatePackage {packages : List PackageInput}
    (h : ∀ item ∈ packages, item.Nonneg) {n : ℕ} (hn : 6 ≤ n) {weight volume : Decimal}
    {total : Decimal × Decimal} (hweight : Within p n 0 weight weight total.1)
    (hvolume : Within p n 0 volume volume total.2) :
    Within p (n + packages.length) 0 (weight + realWeight packages)
        (weight + realWeight packages) (packages.foldl (accumulatePackage p) total).1 ∧
      Within p (n + packages.length) 0 (volume + totalVolume packages)
        (volume + totalVolume packages) (packages.foldl (accumulatePackage p) total).2 := by
  induction packages generalizing n weight volume total with
  | nil => simpa [realWeight, totalVolume] using ⟨hweight, hvolume⟩
  | cons item packages ih =>
      have hitem := h item List.mem_cons_self
      have hkilos : Within p 1 0 (item.weightKg * item.quantity) (item.weightKg * item.quantity)
          (p.keep (item.weightKg * item.quantity)) :=
        (within_self (mul_nonneg hitem.weightKg hitem.quantity) 0).keep
      have hweight' := (hweight.add (hkilos.mono (by omega) le_rfl le_rfl le_rfl)).keep
      have hvolume' :=
        (hvolume.add ((within_volumeM3 hitem).mono hn le_rfl le_rfl le_rfl)).keep
      rw [add_zero] at hweight' hvolume'
      have hlength : n + (item :: packages).length = n + 1 + packages.length := by
        rw [List.length_cons]
        omega
      rw [hlength, realWeight_cons, totalVolume_cons, ← add_assoc, ← add_assoc, List.foldl_cons]
      exact ih (fun other hother => h other (List.mem_cons_of_mem item hother)) (by omega)
        hweight' hvolume'

section Total

variable {input : FreightCalculationInput}

/-- The greater of the two weights that the engine has computed. -/
def computedWeight (p : Precision Decimal) (input : FreightCalculationInput) : Decimal :=
  let metrics := FreightPricingEngine.calculatePackageMetrics p input.packages
    input.cubicFactor
  maxDecimal metrics.realWeightKg metrics.cubicWeightKg

theorem within_computedWeight (h : Admitted input) :
    Within p (input.packages.length + 7) (1 / 2000) (heaviestWeight input)
      (heaviestWeight input) (computedWeight p input) := by
  have hstart : Within p 6 0 0 0 ((0, 0) : Decimal × Decimal).1 := within_self le_rfl 6
  have hstart' : Within p 6 0 0 0 ((0, 0) : Decimal × Decimal).2 := within_self le_rfl 6
  obtain ⟨hreal, hvolume⟩ := within_accumulatePackage h.packages le_rfl hstart hstart'
  rw [zero_add] at hreal hvolume
  have hcubic := (hvolume.mul_right h.cubicFactor).keep
  rw [zero_mul] at hcubic
  have hsteps : 6 + input.packages.length ≤ input.packages.length + 7 := by omega
  have hreal' := (within_grams hreal).mono hsteps le_rfl (by norm_num)
    (le_max_left _ (totalVolume input.packages * input.cubicFactor))
  have hcubic' := (within_grams hcubic).mono (by omega : _ ≤ input.packages.length + 7) le_rfl
    (by norm_num) (le_max_right (realWeight input.packages) _)
  rw [zero_add] at hreal' hcubic'
  rw [computedWeight, maxDecimal_eq]
  exact hreal'.maximum hcubic'

/-! ## The sum of the components -/

/-- The sum that `sumComponents` rounds to cents. -/
def runningTotal (p : Precision Decimal) (components : List PriceComponent) : Decimal :=
  components.foldl (fun total item => p.keep (total + item.amount)) 0

theorem runningTotal_push (components : List PriceComponent) (item : PriceComponent) :
    runningTotal p (components ++ [item]) =
      p.keep (runningTotal p components + item.amount) := by
  rw [runningTotal, List.foldl_append]
  rfl

/-- One component of this amount, or none where it is zero. -/
def Pushed (rest : List PriceComponent) (amount : Decimal) : Prop :=
  rest = [] ∧ amount = 0 ∨ ∃ item : PriceComponent, rest = [item] ∧ item.amount = amount

theorem within_push {components rest : List PriceComponent} {amount : Decimal}
    (hrest : Pushed rest amount)
    {n : ℕ} {a b s t x z : Decimal} (h : Within p n a s x (runningTotal p components))
    (hamount : Within p n b t z amount) (hslack : 0 ≤ a + b) :
    Within p (n + 1) (a + b) (s + t) (x + z) (runningTotal p (components ++ rest)) := by
  have hsum := h.add hamount
  obtain ⟨rfl, rfl⟩ | ⟨item, rfl, rfl⟩ := hrest
  · rw [List.append_nil]
    rw [add_zero] at hsum
    exact hsum.mono (Nat.le_succ n) le_rfl hslack le_rfl
  · rw [runningTotal_push]
    exact hsum.keep

theorem within_freightComponents (h : Admitted input) :
    Within p (input.packages.length + 10) (input.rate.pricePerKg / 2000 + 1 / 100)
      (input.rate.basePrice +
        (heaviestWeight input + input.rate.minWeightKg) * input.rate.pricePerKg)
      (rangePrice input)
      (runningTotal p (freightComponents p input.rate (computedWeight p input))) := by
  have hprice := h.pricePerKg
  have hbase : Within p (input.packages.length + 9) (1 / 200) input.rate.basePrice
      input.rate.basePrice
      (runningTotal p [component .base "Frete base" (money input.rate.basePrice) 10]) := by
    have hamount := (within_money (within_self (p := p) h.basePrice 0)).keep
    rw [← money_money] at hamount
    rw [runningTotal, List.foldl_cons, zero_add]
    exact hamount.mono (by omega) (by norm_num) (by norm_num) le_rfl
  have hextra : Within p (input.packages.length + 8) (1 / 2000)
      (heaviestWeight input + input.rate.minWeightKg)
      (max (heaviestWeight input - input.rate.minWeightKg) 0)
      (max (p.keep (computedWeight p input - input.rate.minWeightKg)) 0) := by
    have hminus := ((within_computedWeight (p := p) h).sub
      (within_self h.minWeightKg _)).keep
    rw [add_zero] at hminus
    exact hminus.maximum ((within_self le_rfl _).mono le_rfl (by norm_num) (by norm_num)
      hminus.size_nonneg)
  have hweight := (within_money (hextra.mul_right hprice).keep).mono le_rfl
    (by linarith : 1 / 2000 * input.rate.pricePerKg + 1 / 200 ≤
      input.rate.pricePerKg / 2000 + 1 / 200) (by linarith) le_rfl
  rw [rangePrice, freightComponents]
  refine (within_push ?_ hbase hweight (by linarith)).mono le_rfl (by linarith) (by linarith) le_rfl
  split
  · exact .inr ⟨_, rfl, money_money _⟩
  · next hnone =>
    refine .inl ⟨rfl, ?_⟩
    rw [le_antisymm (not_lt.mp hnone) (le_max_right _ _), zero_mul, p.keep_zero, money_zero]

/-! ## The subtotal -/

theorem priceSlack_nonneg (h : Admitted input) : 0 ≤ priceSlack input := by
  have hprice := h.pricePerKg
  unfold priceSlack
  linarith

/-- The components and the subtotal behind the minimum. -/
def computedAdjustment (p : Precision Decimal) (input : FreightCalculationInput) :
    List PriceComponent × Decimal :=
  adjustToMinimum p (freightComponents p input.rate (computedWeight p input))
    (money input.minimumValue)

theorem computedAdjustment_fst (p : Precision Decimal) (input : FreightCalculationInput) :
    let components := freightComponents p input.rate (computedWeight p input)
    (computedAdjustment p input).1 = components ++
      if sumComponents p components < money input.minimumValue then
        [component .minimumAdjustment "Ajuste ao valor minimo"
          (p.keep (money input.minimumValue - sumComponents p components)) 30]
      else [] := by
  simp only [computedAdjustment, adjustToMinimum]
  split
  · rfl
  · exact (List.append_nil _).symm

theorem computedAdjustment_snd (p : Precision Decimal) (input : FreightCalculationInput) :
    (computedAdjustment p input).2 = max (money input.minimumValue)
      (sumComponents p (freightComponents p input.rate (computedWeight p input))) := by
  simp only [computedAdjustment, adjustToMinimum]
  split
  · next hlt => exact (max_eq_left hlt.le).symm
  · next hle => exact (max_eq_right (not_lt.mp hle)).symm

theorem add_max_sub_zero (x y : Decimal) : y + max (x - y) 0 = max x y := by
  rw [← max_add_add_left, add_sub_cancel, add_zero]

theorem within_sumComponents (h : Admitted input) :
    Within p (input.packages.length + 10) (priceSlack input)
      (input.rate.basePrice +
        (heaviestWeight input + input.rate.minWeightKg) * input.rate.pricePerKg)
      (rangePrice input)
      (sumComponents p (freightComponents p input.rate (computedWeight p input))) :=
  (within_money (within_freightComponents h)).mono le_rfl (by unfold priceSlack; linarith)
    (priceSlack_nonneg h) le_rfl

theorem within_minimumValue (h : Admitted input) :
    Within p (input.packages.length + 10) (1 / 200) input.minimumValue
      input.minimumValue (money input.minimumValue) :=
  (within_money (within_self h.minimumValue _)).mono le_rfl (by norm_num) (by norm_num) le_rfl

theorem within_subtotal (h : Admitted input) :
    Within p (input.packages.length + 10) (priceSlack input) (priceSize input)
      (listPrice input) (computedAdjustment p input).2 := by
  have hsum := within_sumComponents (p := p) h
  have hleast := within_minimumValue (p := p) h
  have hprice := h.pricePerKg
  rw [computedAdjustment_snd]
  exact (hleast.mono le_rfl (by unfold priceSlack; linarith) (priceSlack_nonneg h)
      (le_add_of_nonneg_right hsum.size_nonneg)).maximum
    (hsum.mono le_rfl le_rfl (priceSlack_nonneg h) (le_add_of_nonneg_left h.minimumValue))

theorem within_computedAdjustment (h : Admitted input) :
    Within p (input.packages.length + 12) (input.rate.pricePerKg / 1000 + 7 / 200)
      (2 * priceSize input) (listPrice input)
      (runningTotal p (computedAdjustment p input).1) := by
  have hprice := h.pricePerKg
  have hsum := within_sumComponents (p := p) h
  have hgap := (within_minimumValue (p := p) h).sub hsum
  have hslack := priceSlack_nonneg h
  have hraised := within_money (hgap.maximum ((within_self le_rfl _).mono le_rfl (by linarith)
    (by linarith) hgap.size_nonneg)).keep
  have hfreight := (within_freightComponents (p := p) h).mono
    (Nat.le_succ (input.packages.length + 10)) le_rfl (by linarith) le_rfl
  rw [listPrice, ← add_max_sub_zero, computedAdjustment_fst]
  refine (within_push ?_ hfreight hraised (by linarith)).mono le_rfl
    (by unfold priceSlack; linarith) (by linarith) ?_
  · split
    · next hlt =>
      refine .inr ⟨_, rfl, ?_⟩
      rw [component, max_eq_left (sub_nonneg.mpr hlt.le)]
    · next hle =>
      refine .inl ⟨rfl, ?_⟩
      rw [max_eq_right (sub_nonpos.mpr (not_lt.mp hle)), p.keep_zero, money_zero]
  · have hminimum := h.minimumValue
    unfold priceSize
    linarith

/-! ## The charges -/

theorem chargeSign_mul_eq (type : FreightChargeType) (x : Decimal) :
    chargeSign type * x = if type = .discount then -x else x := by
  unfold chargeSign
  split <;> ring

theorem within_charge (h : Admitted input) {charge : ChargeInput}
    (hcharge : charge ∈ input.charges) :
    Within p (input.packages.length + 12)
      (chargeSlack input charge) (chargeValue input (priceSize input) charge)
      (chargeSign charge.type * chargeValue input (listPrice input) charge)
      (calculateChargeAmount p charge input.cargoValue (computedAdjustment p input).2) := by
  have hsubtotal := within_subtotal (p := p) h
  have hbasis : Within p (input.packages.length + 10) (priceSlack input)
      (chargeBasis charge.type input.cargoValue (priceSize input))
      (chargeBasis charge.type input.cargoValue (listPrice input))
      (chargeBasis charge.type input.cargoValue (computedAdjustment p input).2) := by
    unfold chargeBasis
    split
    · exact (within_self h.cargoValue _).mono le_rfl
        (priceSlack_nonneg h) (priceSlack_nonneg h) le_rfl
    · exact hsubtotal
  have hshare := (hbasis.mul_right (h.percentage charge hcharge)).keep
  have hamount := within_money ((within_self (h.fixedAmount charge hcharge) _).add hshare).keep
  rw [zero_add] at hamount
  rw [chargeSign_mul_eq]
  simp only [calculateChargeAmount]
  split
  · exact hamount.neg
  · exact hamount

theorem money_calculateChargeAmount (charge : ChargeInput) (cargoValue subtotal : Decimal) :
    money (calculateChargeAmount p charge cargoValue subtotal) =
      calculateChargeAmount p charge cargoValue subtotal := by
  simp only [calculateChargeAmount]
  split
  · rw [money, scale, roundHalfUp_neg]
    exact congrArg Neg.neg (money_money _)
  · exact money_money _

theorem pushed_chargeComponents (charge : ChargeInput) (cargoValue subtotal : Decimal) :
    Pushed (chargeComponents p cargoValue subtotal charge)
      (calculateChargeAmount p charge cargoValue subtotal) := by
  unfold chargeComponents
  split
  · next hzero => exact .inl ⟨rfl, hzero⟩
  · exact .inr ⟨_, rfl, money_calculateChargeAmount charge _ _⟩

theorem chargeSlack_nonneg (h : Admitted input) {charge : ChargeInput}
    (hcharge : charge ∈ input.charges) : 0 ≤ chargeSlack input charge :=
  add_nonneg (mul_nonneg (priceSlack_nonneg h) (h.percentage charge hcharge)) (by norm_num)

theorem within_pushCharges (h : Admitted input) {charges : List ChargeInput}
    (hcharges : ∀ charge ∈ charges, charge ∈ input.charges) {n : ℕ}
    (hn : input.packages.length + 12 ≤ n) {a s x : Decimal} (ha : 0 ≤ a)
    {components : List PriceComponent} (hsum : Within p n a s x (runningTotal p components)) :
    Within p (n + charges.length) (a + (charges.map (chargeSlack input)).sum)
      (s + (charges.map (chargeValue input (priceSize input))).sum)
      (x + (charges.map fun charge =>
        chargeSign charge.type * chargeValue input (listPrice input) charge).sum)
      (runningTotal p (charges.foldl
        (pushCharge p input.cargoValue (computedAdjustment p input).2) components)) := by
  induction charges generalizing n a s x components with
  | nil => simpa using hsum
  | cons charge charges ih =>
      rw [List.forall_mem_cons] at hcharges
      have hslack := add_nonneg ha (chargeSlack_nonneg h hcharges.1)
      have hamount := (within_charge (p := p) h hcharges.1).mono hn le_rfl
        (chargeSlack_nonneg h hcharges.1) le_rfl
      have hnext := within_push (pushed_chargeComponents charge _ _) hsum hamount hslack
      rw [← pushCharge_eq] at hnext
      have hlength : n + (charge :: charges).length = n + 1 + charges.length := by
        rw [List.length_cons]
        omega
      rw [hlength, List.map_cons, List.map_cons, List.map_cons, List.sum_cons, List.sum_cons,
        List.sum_cons, ← add_assoc a, ← add_assoc s, ← add_assoc x, List.foldl_cons]
      exact ih hcharges.2 (by omega) hslack hnext

theorem sum_chargeSign_mul (charges : List ChargeInput) (value : ChargeInput → Decimal) :
    (charges.map fun charge => chargeSign charge.type * value charge).sum =
      ((charges.filter fun charge => charge.type ≠ .discount).map value).sum -
        ((charges.filter fun charge => charge.type = .discount).map value).sum := by
  induction charges with
  | nil => simp
  | cons charge rest ih =>
      rw [List.map_cons, List.sum_cons, ih]
      by_cases htype : charge.type = .discount
      · simp [htype, chargeSign]
        ring
      · simp [htype, chargeSign]
        ring

/-- The total stays near the list price with the surcharges, less the discounts. -/
theorem abs_totalPrice_sub_le (h : Admitted input) :
    |(FreightPricingEngine.calculate p input).totalPrice -
        (listPrice input + surcharges input - discounts input)| ≤ roundingError input p := by
  have hprice := h.pricePerKg
  have hcharges := within_pushCharges h (fun _ hcharge => hcharge) le_rfl (by linarith)
    (within_computedAdjustment (p := p) h)
  have htotal := within_money hcharges
  rw [sum_chargeSign_mul, ← add_sub_assoc] at htotal
  have hslack : roundingSlack input = input.rate.pricePerKg / 1000 + 7 / 200 +
      (input.charges.map (chargeSlack input)).sum + 1 / 200 := by
    unfold roundingSlack
    ring
  rw [roundingError, hslack]
  exact htotal.near

/-! ## Without discounts -/

theorem money_nonneg {x : Decimal} (h : 0 ≤ x) : 0 ≤ money x := roundHalfUp_nonneg 2 h

theorem runningTotal_nonneg (hp : p.error ≤ 1) {components : List PriceComponent}
    (h : ∀ item ∈ components, 0 ≤ item.amount) : 0 ≤ runningTotal p components := by
  have hfold : ∀ (rest : List PriceComponent) (start : Decimal), 0 ≤ start →
      (∀ item ∈ rest, 0 ≤ item.amount) →
        0 ≤ rest.foldl (fun total item => p.keep (total + item.amount)) start := by
    intro rest
    induction rest with
    | nil => exact fun _ hstart _ => hstart
    | cons item rest ih =>
        intro start hstart hrest
        rw [List.forall_mem_cons] at hrest
        exact ih _ (p.keep_nonneg hp (add_nonneg hstart hrest.1)) hrest.2
  exact hfold components 0 le_rfl h

theorem computedAdjustment_nonneg (h : Admitted input) (hp : p.error ≤ 1) :
    ∀ item ∈ (computedAdjustment p input).1, 0 ≤ item.amount := by
  rw [computedAdjustment_fst]
  intro item hitem
  rcases List.mem_append.mp hitem with hfreight | hadjust
  · rcases List.mem_append.mp hfreight with hbase | hweight
    · rw [List.mem_singleton.mp hbase]
      exact money_nonneg (money_nonneg h.basePrice)
    · split at hweight
      · rw [List.mem_singleton.mp hweight]
        exact money_nonneg (money_nonneg (p.keep_nonneg hp
          (mul_nonneg (le_max_right _ _) h.pricePerKg)))
      · cases hweight
  · split at hadjust
    · next hlt =>
      rw [List.mem_singleton.mp hadjust]
      exact money_nonneg (p.keep_nonneg hp (sub_nonneg.mpr hlt.le))
    · cases hadjust

theorem calculateChargeAmount_nonneg (h : Admitted input) (hp : p.error ≤ 1)
    {charge : ChargeInput} (hcharge : charge ∈ input.charges) (htype : charge.type ≠ .discount)
    {subtotal : Decimal} (hsubtotal : 0 ≤ subtotal) :
    0 ≤ calculateChargeAmount p charge input.cargoValue subtotal := by
  have hbasis : 0 ≤ chargeBasis charge.type input.cargoValue subtotal := by
    unfold chargeBasis
    split
    · exact h.cargoValue
    · exact hsubtotal
  simp only [calculateChargeAmount]
  rw [if_neg htype]
  exact money_nonneg (p.keep_nonneg hp (add_nonneg (h.fixedAmount charge hcharge)
    (p.keep_nonneg hp (mul_nonneg hbasis (h.percentage charge hcharge)))))

theorem totalPrice_nonneg_of_no_discount (h : Admitted input) (hp : p.error ≤ 1)
    (hnone : ∀ charge ∈ input.charges, charge.type ≠ .discount) :
    0 ≤ (FreightPricingEngine.calculate p input).totalPrice := by
  have hsubtotal : 0 ≤ (computedAdjustment p input).2 := by
    rw [computedAdjustment_snd]
    exact le_max_of_le_left (money_nonneg h.minimumValue)
  have hpush : ∀ (charges : List ChargeInput) (components : List PriceComponent),
      (∀ charge ∈ charges, charge ∈ input.charges) → (∀ item ∈ components, 0 ≤ item.amount) →
        ∀ item ∈ charges.foldl (pushCharge p input.cargoValue
          (computedAdjustment p input).2) components, 0 ≤ item.amount := by
    intro charges
    induction charges with
    | nil => exact fun _ _ hcomponents => hcomponents
    | cons charge charges ih =>
        intro components hcharges hcomponents
        rw [List.forall_mem_cons] at hcharges
        refine ih _ hcharges.2 fun item hitem => ?_
        rw [pushCharge_eq] at hitem
        rcases List.mem_append.mp hitem with hold | hnew
        · exact hcomponents item hold
        · obtain ⟨hempty, -⟩ | ⟨new, hsingle, hamount⟩ := pushed_chargeComponents (p := p)
            charge input.cargoValue (computedAdjustment p input).2
          · rw [hempty] at hnew
            cases hnew
          · rw [hsingle] at hnew
            rw [List.mem_singleton.mp hnew, hamount]
            exact calculateChargeAmount_nonneg h hp hcharges.1 (hnone charge hcharges.1) hsubtotal
  exact money_nonneg (runningTotal_nonneg hp
    (hpush input.charges _ (fun _ hcharge => hcharge) (computedAdjustment_nonneg h hp)))

/-! ## The sign of the total -/

theorem prismaDecimal_error_le : prismaDecimal.error ≤ 1 := by
  have herror : prismaDecimal.error = 10 ^ (1 - 20 : ℤ) / 2 := rfl
  rw [herror]
  norm_num

/-- There are no discounts, or they leave something of the list price and the surcharges
that rounding cannot use up. -/
def DiscountsCovered (input : FreightCalculationInput) : Prop :=
  (∀ charge ∈ input.charges, charge.type ≠ .discount) ∨
    discounts input + roundingError input prismaDecimal ≤ listPrice input + surcharges input

/-- The total is not negative where the discounts are covered, and it is negative where
they exceed the list price and the surcharges by more than rounding can make up. -/
theorem totalPrice_sign (h : Admitted input) :
    (DiscountsCovered input →
        0 ≤ (FreightPricingEngine.calculate prismaDecimal input).totalPrice) ∧
      (listPrice input + surcharges input + roundingError input prismaDecimal < discounts input →
        (FreightPricingEngine.calculate prismaDecimal input).totalPrice < 0) := by
  have hnear := abs_le.mp (abs_totalPrice_sub_le (p := prismaDecimal) h)
  constructor
  · rintro (hnone | hcovered)
    · exact totalPrice_nonneg_of_no_discount h prismaDecimal_error_le hnone
    · linarith [hnear.1]
  · intro hexceeded
    linarith [hnear.2]

end Total

/-- Two discounts of this percentage each. -/
def discountedInput (percentage : Decimal) : FreightCalculationInput :=
  { plainInput with
    charges := [⟨none, "Desconto", some percentage, .discount⟩,
      ⟨none, "Desconto adicional", some percentage, .discount⟩] }

theorem admitted_discountedInput {percentage : Decimal} (h : 0 ≤ percentage) :
    Admitted (discountedInput percentage) where
  cargoValue := by norm_num [discountedInput, plainInput]
  cubicFactor := by norm_num [discountedInput, plainInput]
  minimumValue := by norm_num [discountedInput, plainInput]
  basePrice := by norm_num [discountedInput, plainInput]
  pricePerKg := by norm_num [discountedInput, plainInput]
  minWeightKg := by norm_num [discountedInput, plainInput]
  packages := by
    simp only [discountedInput, plainInput, List.forall_mem_cons, List.not_mem_nil, false_imp_iff,
      implies_true, and_true]
    exact ⟨by constructor <;> norm_num, by constructor <;> norm_num⟩
  fixedAmount := by simp [discountedInput]
  percentage := by simpa [discountedInput] using h

/-- Sixty percent twice are more than the price. -/
theorem a_discounted_price_is_negative :
    Admitted (discountedInput (3 / 5)) ∧
      (FreightPricingEngine.calculate prismaDecimal (discountedInput (3 / 5))).totalPrice < 0 :=
  ⟨admitted_discountedInput (by norm_num), by decide +kernel⟩

theorem totalPrice_sign_discounted :
    0 ≤ (FreightPricingEngine.calculate prismaDecimal (discountedInput (2 / 5))).totalPrice ∧
      (FreightPricingEngine.calculate prismaDecimal (discountedInput (3 / 5))).totalPrice < 0 :=
  ⟨(totalPrice_sign (admitted_discountedInput (by norm_num))).1 (.inr (by decide +kernel)),
    (totalPrice_sign (admitted_discountedInput (by norm_num))).2 (by decide +kernel)⟩

end Logistics.Pricing
