import Mathlib.Data.List.Forall2
import Mathlib.Algebra.Order.BigOperators.Group.List
import Mathlib.Tactic.GCongr
import Logistics.Pricing.Breakdown

/-!
# How prices compare

The closed form of the total says how one price relates to another. The weights and
volumes are sums, and each charge is a component of its own: neither the order of the
packages and the charges nor the grouping of equal packages matters. Everything but a
discount pushes the price up with what it is computed on.
-/

namespace Logistics.Pricing

open Logistics.Library FreightPricingEngine

/-! ## Order and grouping -/

/-- The packages in another order, or a package as two of the same kind. -/
inductive Regrouped : List PackageInput → List PackageInput → Prop
  | perm {xs ys : List PackageInput} (h : xs.Perm ys) : Regrouped xs ys
  | split (before after : List PackageInput) (item : PackageInput) (m n : ℤ)
      (h : item.quantity = m + n) :
      Regrouped (before ++ item :: after)
        (before ++ { item with quantity := m } :: { item with quantity := n } :: after)
  | trans {xs ys zs : List PackageInput} (h : Regrouped xs ys) (h' : Regrouped ys zs) :
      Regrouped xs zs

theorem realWeight_append (xs ys : List PackageInput) :
    realWeight (xs ++ ys) = realWeight xs + realWeight ys := by
  simp [realWeight]

theorem totalVolume_append (xs ys : List PackageInput) :
    totalVolume (xs ++ ys) = totalVolume xs + totalVolume ys := by
  simp [totalVolume]

theorem realWeight_cons (item : PackageInput) (rest : List PackageInput) :
    realWeight (item :: rest) = item.weightKg * item.quantity + realWeight rest := by
  simp [realWeight]

theorem totalVolume_cons (item : PackageInput) (rest : List PackageInput) :
    totalVolume (item :: rest) = item.volumeM3 + totalVolume rest := by
  simp [totalVolume]

theorem Regrouped.realWeight_eq {xs ys : List PackageInput} (h : Regrouped xs ys) :
    realWeight ys = realWeight xs := by
  induction h with
  | perm h => exact ((h.map _).sum_eq).symm
  | split before after item m n h =>
      simp only [realWeight_append, realWeight_cons, h]
      ring
  | trans _ _ ih ih' => exact ih'.trans ih

theorem Regrouped.totalVolume_eq {xs ys : List PackageInput} (h : Regrouped xs ys) :
    totalVolume ys = totalVolume xs := by
  induction h with
  | perm h => exact ((h.map _).sum_eq).symm
  | split before after item m n h =>
      simp only [totalVolume_append, totalVolume_cons, PackageInput.volumeM3, h]
      ring
  | trans _ _ ih ih' => exact ih'.trans ih

/-- The component that a charge pushes, if it pushes one. -/
def chargeComponents (arith : Precision Decimal) (cargoValue subtotal : Decimal)
    (charge : ChargeInput) : List PriceComponent :=
  if calculateChargeAmount arith charge cargoValue subtotal = 0 then []
  else [component (toComponentType charge.type) charge.name
    (calculateChargeAmount arith charge cargoValue subtotal) (componentSort charge.type)]

theorem pushCharge_eq (arith : Precision Decimal) (cargoValue subtotal : Decimal)
    (components : List PriceComponent) (charge : ChargeInput) :
    pushCharge arith cargoValue subtotal components charge =
      components ++ chargeComponents arith cargoValue subtotal charge := by
  simp only [pushCharge, chargeComponents]
  split
  · rw [List.append_nil]
  · rfl

theorem foldl_pushCharge_eq (cargoValue subtotal : Decimal) (charges : List ChargeInput)
    (components : List PriceComponent) :
    charges.foldl (pushCharge .exact cargoValue subtotal) components =
      components ++ charges.flatMap (chargeComponents .exact cargoValue subtotal) := by
  induction charges generalizing components with
  | nil => simp
  | cons charge rest ih =>
      rw [List.foldl_cons, ih, pushCharge_eq, List.flatMap_cons, List.append_assoc]

/-- A calculation looks at the packages for their weight and volume only, and takes the
charges one by one. -/
theorem calculate_reordered (input : FreightCalculationInput) {packages : List PackageInput}
    {charges : List ChargeInput} (hweight : realWeight packages = realWeight input.packages)
    (hvolume : totalVolume packages = totalVolume input.packages)
    (hcharges : input.charges.Perm charges) :
    (calculate { input with packages, charges }).totalPrice = (calculate input).totalPrice ∧
      (calculate { input with packages, charges }).components.Perm
        (calculate input).components := by
  have hchargeable : chargeableWeight packages input.cubicFactor =
      chargeableWeight input.packages input.cubicFactor := by
    rw [chargeableWeight, chargeableWeight, hweight, hvolume]
  have hsubtotal : freightSubtotal { input with packages, charges } = freightSubtotal input := by
    simp only [freightSubtotal, hchargeable]
  have htotal : (calculate { input with packages, charges }).totalPrice =
      (calculate input).totalPrice := by
    rw [calculate_totalPrice_eq, calculate_totalPrice_eq, hsubtotal]
    exact congrArg (freightSubtotal input + ·) (hcharges.symm.map _).sum_eq
  refine ⟨htotal, ?_⟩
  rw [calculate_components, calculate_components, htotal]
  apply List.Perm.append_right
  simp only [pricedComponents, hchargeable, foldl_pushCharge_eq]
  exact (hcharges.symm.flatMap_right _).append_left _

/-- Neither the order of the packages and of the charges nor the grouping of equal
packages changes the weights, the volume or the price, or which components there are. -/
theorem calculate_regrouped (input : FreightCalculationInput) {packages : List PackageInput}
    {charges : List ChargeInput} (hpackages : Regrouped input.packages packages)
    (hcharges : input.charges.Perm charges) :
    (calculate { input with packages, charges }).realWeightKg = (calculate input).realWeightKg ∧
      (calculate { input with packages, charges }).cubicWeightKg =
        (calculate input).cubicWeightKg ∧
      (calculate { input with packages, charges }).chargeableWeightKg =
        (calculate input).chargeableWeightKg ∧
      (calculate { input with packages, charges }).totalVolumeM3 =
        (calculate input).totalVolumeM3 ∧
      (calculate { input with packages, charges }).totalPrice = (calculate input).totalPrice ∧
      (calculate { input with packages, charges }).components.Perm
        (calculate input).components := by
  have hweight := hpackages.realWeight_eq
  have hvolume := hpackages.totalVolume_eq
  refine ⟨?_, ?_, ?_, ?_, calculate_reordered input hweight hvolume hcharges⟩
  · rw [calculate_realWeightKg, calculate_realWeightKg, hweight]
  · simp only [calculate, FreightPricingEngine.calculate, calculatePackageMetrics_exact,
      calculatePackageMetrics_eq, hvolume]
  · rw [calculate_chargeableWeightKg, calculate_chargeableWeightKg, chargeableWeight,
      chargeableWeight, hweight, hvolume]
  · rw [calculate_totalVolumeM3, calculate_totalVolumeM3, hvolume]

def plainInput : FreightCalculationInput where
  cargoValue := 1000
  charges := [⟨none, "Ad valorem", some (1 / 100), .adValorem⟩, ⟨some 8, "Pedagio", none, .toll⟩]
  cubicFactor := 300
  desiredShipDate := 0
  distanceKm := none
  minimumValue := 30
  packages := [⟨10, 20, 3, 5 / 4, 30⟩, ⟨40, 40, 1, 2, 40⟩]
  rate := ⟨20, 2, none, 100, 0, 3⟩

/-- The three packages as one and two, behind the other package. -/
theorem calculate_regrouped_plain :
    (calculate { plainInput with
      packages := [⟨40, 40, 1, 2, 40⟩, ⟨10, 20, 1, 5 / 4, 30⟩, ⟨10, 20, 2, 5 / 4, 30⟩]
      charges := plainInput.charges.reverse }).totalPrice = (calculate plainInput).totalPrice := by
  have hsplit : Regrouped plainInput.packages
      [⟨10, 20, 1, 5 / 4, 30⟩, ⟨10, 20, 2, 5 / 4, 30⟩, ⟨40, 40, 1, 2, 40⟩] := by
    have h := Regrouped.split [] [⟨40, 40, 1, 2, 40⟩] ⟨10, 20, 3, 5 / 4, 30⟩ 1 2 (by norm_num)
    simpa [plainInput] using h
  have hperm : List.Perm
      [⟨10, 20, 1, 5 / 4, 30⟩, ⟨10, 20, 2, 5 / 4, 30⟩, (⟨40, 40, 1, 2, 40⟩ : PackageInput)]
      [⟨40, 40, 1, 2, 40⟩, ⟨10, 20, 1, 5 / 4, 30⟩, ⟨10, 20, 2, 5 / 4, 30⟩] := by
    decide +kernel
  exact (calculate_regrouped plainInput (hsplit.trans (.perm hperm))
    (List.reverse_perm _).symm).2.2.2.2.1

/-! ## Monotonicity -/

/-- A package with no negative weight, dimension or quantity. -/
structure PackageInput.Nonneg (item : PackageInput) : Prop where
  weightKg : 0 ≤ item.weightKg
  lengthCm : 0 ≤ item.lengthCm
  widthCm : 0 ≤ item.widthCm
  heightCm : 0 ≤ item.heightCm
  quantity : 0 ≤ item.quantity

/-- The second package is at least as heavy, as large and as many as the first. -/
structure PackageInput.LE (a b : PackageInput) : Prop where
  weightKg : a.weightKg ≤ b.weightKg
  lengthCm : a.lengthCm ≤ b.lengthCm
  widthCm : a.widthCm ≤ b.widthCm
  heightCm : a.heightCm ≤ b.heightCm
  quantity : a.quantity ≤ b.quantity

/-- A charge that adds to the price, without a negative amount or percentage. -/
structure ChargeInput.Surcharge (charge : ChargeInput) : Prop where
  fixedAmount : ∀ amount ∈ charge.fixedAmount, 0 ≤ amount
  percentage : ∀ percentage ∈ charge.percentage, 0 ≤ percentage
  type : charge.type ≠ .discount

theorem PackageInput.Nonneg.volumeM3 {item : PackageInput} (h : item.Nonneg) :
    0 ≤ item.volumeM3 := by
  have := h.lengthCm
  have := h.widthCm
  have := h.heightCm
  have := h.quantity
  unfold PackageInput.volumeM3
  positivity

theorem PackageInput.LE.weight {a b : PackageInput} (h : a.LE b) (ha : a.Nonneg) (hb : b.Nonneg) :
    a.weightKg * a.quantity ≤ b.weightKg * b.quantity :=
  mul_le_mul h.weightKg h.quantity ha.quantity hb.weightKg

theorem PackageInput.LE.volumeM3 {a b : PackageInput} (h : a.LE b) (ha : a.Nonneg) :
    a.volumeM3 ≤ b.volumeM3 := by
  have hlength := ha.lengthCm
  have hwidth := ha.widthCm
  have hheight := ha.heightCm
  have hquantity := ha.quantity
  have hlength' := hlength.trans h.lengthCm
  have hwidth' := hwidth.trans h.widthCm
  have hheight' := hheight.trans h.heightCm
  unfold PackageInput.volumeM3
  gcongr
  · exact h.lengthCm
  · exact h.widthCm
  · exact h.heightCm
  · exact h.quantity

/-- Larger packages, and more of them, are heavier. -/
theorem realWeight_mono {xs ys : List PackageInput} (h : List.SublistForall₂ PackageInput.LE xs ys)
    (hxs : ∀ item ∈ xs, item.Nonneg) (hys : ∀ item ∈ ys, item.Nonneg) :
    realWeight xs ≤ realWeight ys := by
  induction h with
  | nil =>
      apply List.sum_nonneg
      intro weight hweight
      obtain ⟨item, hitem, rfl⟩ := List.mem_map.mp hweight
      exact mul_nonneg (hys item hitem).weightKg (hys item hitem).quantity
  | cons hitem _ ih =>
      rw [List.forall_mem_cons] at hxs hys
      rw [realWeight_cons, realWeight_cons]
      exact add_le_add (hitem.weight hxs.1 hys.1) (ih hxs.2 hys.2)
  | cons_right _ ih =>
      rw [List.forall_mem_cons] at hys
      rw [realWeight_cons]
      have hnonneg := mul_nonneg hys.1.weightKg hys.1.quantity
      linarith [ih hxs hys.2]

theorem totalVolume_mono {xs ys : List PackageInput} (h : List.SublistForall₂ PackageInput.LE xs ys)
    (hxs : ∀ item ∈ xs, item.Nonneg) (hys : ∀ item ∈ ys, item.Nonneg) :
    totalVolume xs ≤ totalVolume ys := by
  induction h with
  | nil =>
      apply List.sum_nonneg
      intro volume hvolume
      obtain ⟨item, hitem, rfl⟩ := List.mem_map.mp hvolume
      exact (hys item hitem).volumeM3
  | cons hitem _ ih =>
      rw [List.forall_mem_cons] at hxs hys
      rw [totalVolume_cons, totalVolume_cons]
      exact add_le_add (hitem.volumeM3 hxs.1) (ih hxs.2 hys.2)
  | cons_right _ ih =>
      rw [List.forall_mem_cons] at hys
      rw [totalVolume_cons]
      linarith [ih hxs hys.2, hys.1.volumeM3]

theorem money_mono : Monotone money := roundHalfUp_mono 2

theorem freightPrice_mono {a b : RateInput} {weight weight' : Decimal}
    (hweight : weight ≤ weight') (hminimum : a.minWeightKg = b.minWeightKg)
    (hbase : a.basePrice ≤ b.basePrice) (hprice : a.pricePerKg ≤ b.pricePerKg)
    (hnonneg : 0 ≤ a.pricePerKg) : freightPrice a weight ≤ freightPrice b weight' := by
  have hextra : max (weight - a.minWeightKg) 0 ≤ max (weight' - b.minWeightKg) 0 := by
    rw [hminimum]
    exact max_le_max_right 0 (sub_le_sub_right hweight _)
  exact add_le_add (money_mono hbase)
    (money_mono (mul_le_mul hextra hprice hnonneg (le_max_right _ _)))

theorem ChargeInput.Surcharge.chargePrice_mono {charge : ChargeInput} (h : charge.Surcharge)
    {cargoValue cargoValue' subtotal subtotal' : Decimal} (hcargo : cargoValue ≤ cargoValue')
    (hsubtotal : subtotal ≤ subtotal') :
    chargePrice cargoValue subtotal charge ≤ chargePrice cargoValue' subtotal' charge := by
  have hpercentage : 0 ≤ charge.percentage.getD 0 := by
    cases hcase : charge.percentage with
    | none => exact le_rfl
    | some percentage => exact h.percentage percentage hcase
  have hbasis : chargeBasis charge.type cargoValue subtotal ≤
      chargeBasis charge.type cargoValue' subtotal' := by
    unfold chargeBasis
    split
    · exact hcargo
    · exact hsubtotal
  rw [chargePrice, chargePrice, chargeSign, if_neg h.type, one_mul, one_mul]
  exact money_mono (add_le_add_right (mul_le_mul_of_nonneg_left hbasis hpercentage) _)

/-- Larger packages, more of them, and a greater cargo value, minimum or rate never make
the chargeable weight or the price smaller, as long as no charge is a discount. -/
theorem calculate_mono (input : FreightCalculationInput) {packages : List PackageInput}
    {cargoValue minimumValue basePrice pricePerKg : Decimal} (hfactor : 0 ≤ input.cubicFactor)
    (hinput : ∀ item ∈ input.packages, item.Nonneg) (hnonneg : ∀ item ∈ packages, item.Nonneg)
    (hrate : 0 ≤ input.rate.basePrice ∧ 0 ≤ input.rate.pricePerKg)
    (hcharges : ∀ charge ∈ input.charges, charge.Surcharge)
    (hpackages : List.SublistForall₂ PackageInput.LE input.packages packages)
    (hcargo : input.cargoValue ≤ cargoValue) (hminimum : input.minimumValue ≤ minimumValue)
    (hbase : input.rate.basePrice ≤ basePrice) (hprice : input.rate.pricePerKg ≤ pricePerKg) :
    (calculate input).chargeableWeightKg ≤
        (calculate { input with
          packages, cargoValue, minimumValue
          rate := { input.rate with basePrice, pricePerKg } }).chargeableWeightKg ∧
      (calculate input).totalPrice ≤
        (calculate { input with
          packages, cargoValue, minimumValue
          rate := { input.rate with basePrice, pricePerKg } }).totalPrice := by
  have hweight : chargeableWeight input.packages input.cubicFactor ≤
      chargeableWeight packages input.cubicFactor := by
    apply roundHalfUp_mono
    exact max_le_max (realWeight_mono hpackages hinput hnonneg)
      (mul_le_mul_of_nonneg_right (totalVolume_mono hpackages hinput hnonneg) hfactor)
  constructor
  · rw [calculate_chargeableWeightKg, calculate_chargeableWeightKg]
    exact hweight
  · rw [calculate_totalPrice_eq, calculate_totalPrice_eq]
    have hsubtotal : freightSubtotal input ≤ freightSubtotal { input with
        packages, cargoValue, minimumValue, rate := { input.rate with basePrice, pricePerKg } } :=
      max_le_max (money_mono hminimum) (freightPrice_mono hweight rfl hbase hprice hrate.2)
    refine add_le_add hsubtotal (List.sum_le_sum fun charge hcharge => ?_)
    exact (hcharges charge hcharge).chargePrice_mono hcargo hsubtotal

/-- One package grows and one is added. -/
theorem calculate_mono_plain :
    (calculate plainInput).totalPrice ≤
      (calculate { plainInput with
        packages := [⟨10, 20, 3, 5 / 4, 30⟩, ⟨10, 10, 1, 7, 10⟩, ⟨45, 40, 1, 2, 40⟩]
        cargoValue := 1200
        minimumValue := 30
        rate := { plainInput.rate with basePrice := 20, pricePerKg := 3 } }).totalPrice := by
  refine (calculate_mono plainInput ?_ ?_ ?_ ?_ ?_ ?_ ?_ ?_ ?_ ?_).2
  · norm_num [plainInput]
  · simp only [plainInput, List.forall_mem_cons, List.not_mem_nil, false_imp_iff, implies_true,
      and_true]
    exact ⟨by constructor <;> norm_num, by constructor <;> norm_num⟩
  · simp only [List.forall_mem_cons, List.not_mem_nil, false_imp_iff, implies_true, and_true]
    exact ⟨by constructor <;> norm_num, by constructor <;> norm_num, by constructor <;> norm_num⟩
  · norm_num [plainInput]
  · simp only [plainInput, List.forall_mem_cons, List.not_mem_nil, false_imp_iff, implies_true,
      and_true]
    exact ⟨⟨by simp, by norm_num, by simp⟩, ⟨by norm_num, by simp, by simp⟩⟩
  · exact .cons (by constructor <;> norm_num) (.cons_right (.cons (by constructor <;> norm_num)
      .nil))
  · norm_num [plainInput]
  · norm_num [plainInput]
  · norm_num [plainInput]
  · norm_num [plainInput]

end Logistics.Pricing
