import Logistics.Pricing.Engine

/-!
# The price breakdown

The engine rounds each amount to two places, sums, rounds the sum again and
pushes amounts derived from rounded sums. None of these repeated roundings
changes anything, because every amount is already a multiple of a cent: the
total is the exact sum of the other components, and it has a closed form in
which each rounded amount appears once.
-/

namespace Logistics.Pricing

open Logistics.Library FreightPricingEngine

def amountSum (components : List PriceComponent) : Decimal :=
  (components.map PriceComponent.amount).sum

def InCents (components : List PriceComponent) : Prop :=
  ∀ item ∈ components, item.amount ∈ decimals ℚ 2

@[simp] theorem amountSum_nil : amountSum [] = 0 := rfl

@[simp] theorem amountSum_append (xs ys : List PriceComponent) :
    amountSum (xs ++ ys) = amountSum xs + amountSum ys := by
  simp [amountSum]

@[simp] theorem amountSum_singleton (item : PriceComponent) :
    amountSum [item] = item.amount := by
  simp [amountSum]

theorem inCents_append {xs ys : List PriceComponent} :
    InCents (xs ++ ys) ↔ InCents xs ∧ InCents ys := by
  simp only [InCents, List.mem_append]
  constructor
  · intro h
    exact ⟨fun item hi => h item (.inl hi), fun item hi => h item (.inr hi)⟩
  · rintro ⟨hx, hy⟩ item (hi | hi)
    · exact hx item hi
    · exact hy item hi

theorem inCents_component (type : FreightPriceComponentType) (label : String)
    (amount : Decimal) (sortOrder : Nat) :
    InCents [component type label amount sortOrder] := by
  intro item hitem
  obtain rfl := List.mem_singleton.mp hitem
  exact money_mem amount

/-- Over amounts in cents the rounded sum is the exact sum. -/
theorem sumComponents_eq {components : List PriceComponent} (h : InCents components) :
    sumComponents .exact components = amountSum components := by
  have hfold : ∀ (xs : List PriceComponent) (start : Decimal),
      xs.foldl (fun total item => total + item.amount) start = start + amountSum xs := by
    intro xs
    induction xs with
    | nil => simp
    | cons item xs ih =>
        intro start
        rw [List.foldl_cons, ih, amountSum, amountSum, List.map_cons, List.sum_cons, add_assoc]
  simp only [sumComponents, Precision.exact_keep]
  rw [hfold, zero_add]
  apply roundHalfUp_list_sum
  intro amount hamount
  obtain ⟨item, hitem, rfl⟩ := List.mem_map.mp hamount
  exact h item hitem

/-! ## The subtotal -/

/-- What base and weight price come to, each rounded once. -/
def freightPrice (rate : RateInput) (chargeableWeightKg : Decimal) : Decimal :=
  money rate.basePrice +
    money (max (chargeableWeightKg - rate.minWeightKg) 0 * rate.pricePerKg)

/-- The basis of every charge that is not computed on the cargo value. -/
def freightSubtotal (input : FreightCalculationInput) : Decimal :=
  max (money input.minimumValue)
    (freightPrice input.rate (chargeableWeight input.packages input.cubicFactor))

theorem inCents_freightComponents (rate : RateInput) (weight : Decimal) :
    InCents (freightComponents .exact rate weight) := by
  unfold freightComponents
  refine inCents_append.mpr ⟨inCents_component _ _ _ _, ?_⟩
  split
  · exact inCents_component _ _ _ _
  · intro item hitem
    cases hitem

theorem amountSum_freightComponents (rate : RateInput) (weight : Decimal) :
    amountSum (freightComponents .exact rate weight) = freightPrice rate weight := by
  unfold freightComponents freightPrice
  rw [amountSum_append, amountSum_singleton]
  split
  · rw [amountSum_singleton]
    simp only [component, money_money, Precision.exact_keep]
  · next h =>
    have hzero : max (weight - rate.minWeightKg) 0 = 0 :=
      le_antisymm (not_lt.mp h) (le_max_right _ _)
    rw [hzero, zero_mul, money_zero, amountSum_nil]
    simp only [component, money_money]

/-- The adjustment brings the components to exactly the greater of the minimum
and their sum, and that is the subtotal. -/
theorem adjustToMinimum_spec {components : List PriceComponent} {minimumValue : Decimal}
    (h : InCents components) (hmin : minimumValue ∈ decimals ℚ 2) :
    InCents (adjustToMinimum .exact components minimumValue).1 ∧
      amountSum (adjustToMinimum .exact components minimumValue).1 =
        max minimumValue (amountSum components) ∧
      (adjustToMinimum .exact components minimumValue).2 =
        max minimumValue (amountSum components) := by
  have hsum : amountSum components ∈ decimals ℚ 2 := by
    rw [← sumComponents_eq h]
    exact money_mem _
  simp only [adjustToMinimum, sumComponents_eq h]
  split
  · next hlt =>
    have hadjust : money (minimumValue - amountSum components) =
        minimumValue - amountSum components := money_of_mem (sub_mem hmin hsum)
    refine ⟨inCents_append.mpr ⟨h, inCents_component _ _ _ _⟩, ?_, ?_⟩
    · rw [amountSum_append, amountSum_singleton, component, Precision.exact_keep, hadjust,
        max_eq_left hlt.le]
      ring
    · rw [max_eq_left hlt.le]
  · next hle => exact ⟨h, (max_eq_right (not_lt.mp hle)).symm, (max_eq_right (not_lt.mp hle)).symm⟩

/-! ## The charges -/

/-- `-1` exactly for a discount. -/
def chargeSign (type : FreightChargeType) : Decimal :=
  if type = .discount then -1 else 1

/-- What a charge is a percentage of: the cargo value for ad valorem and
insurance, the subtotal for every other type. -/
def chargeBasis (type : FreightChargeType) (cargoValue subtotal : Decimal) : Decimal :=
  if type = .adValorem ∨ type = .insurance then cargoValue else subtotal

/-- The signed amount of a charge, a missing fixed amount or percentage being
zero. -/
def chargePrice (cargoValue subtotal : Decimal) (charge : ChargeInput) : Decimal :=
  chargeSign charge.type *
    money (charge.fixedAmount.getD 0 +
      charge.percentage.getD 0 * chargeBasis charge.type cargoValue subtotal)

theorem calculateChargeAmount_eq (charge : ChargeInput) (cargoValue subtotal : Decimal) :
    calculateChargeAmount .exact charge cargoValue subtotal =
      chargePrice cargoValue subtotal charge := by
  unfold calculateChargeAmount chargePrice chargeSign chargeBasis
  simp only [mul_comm (charge.percentage.getD 0)]
  split <;> simp

theorem chargePrice_mem (cargoValue subtotal : Decimal) (charge : ChargeInput) :
    chargePrice cargoValue subtotal charge ∈ decimals ℚ 2 := by
  unfold chargePrice chargeSign
  split
  · rw [neg_one_mul]
    exact neg_mem (money_mem _)
  · rw [one_mul]
    exact money_mem _

theorem amountSum_pushCharge (cargoValue subtotal : Decimal)
    (components : List PriceComponent) (charge : ChargeInput) :
    amountSum (pushCharge .exact cargoValue subtotal components charge) =
      amountSum components + chargePrice cargoValue subtotal charge := by
  simp only [pushCharge, calculateChargeAmount_eq]
  split
  · next hzero => rw [hzero, add_zero]
  · rw [amountSum_append, amountSum_singleton, component,
      money_of_mem (chargePrice_mem cargoValue subtotal charge)]

theorem inCents_pushCharge {cargoValue subtotal : Decimal}
    {components : List PriceComponent} (charge : ChargeInput) (h : InCents components) :
    InCents (pushCharge .exact cargoValue subtotal components charge) := by
  simp only [pushCharge]
  split
  · exact h
  · exact inCents_append.mpr ⟨h, inCents_component _ _ _ _⟩

theorem foldl_pushCharge (cargoValue subtotal : Decimal) (charges : List ChargeInput)
    (components : List PriceComponent) (h : InCents components) :
    InCents (charges.foldl (pushCharge .exact cargoValue subtotal) components) ∧
      amountSum (charges.foldl (pushCharge .exact cargoValue subtotal) components) =
        amountSum components + (charges.map (chargePrice cargoValue subtotal)).sum := by
  induction charges generalizing components with
  | nil => exact ⟨h, by simp⟩
  | cons charge charges ih =>
      obtain ⟨hcents, hsum⟩ := ih _ (inCents_pushCharge charge h)
      refine ⟨hcents, ?_⟩
      rw [List.foldl_cons, hsum, amountSum_pushCharge, List.map_cons, List.sum_cons, add_assoc]

/-! ## No other component is a total -/

/-- No component is of type `TOTAL`. -/
def NoTotal (components : List PriceComponent) : Prop :=
  ∀ item ∈ components, item.type ≠ .total

theorem toComponentType_ne_total (type : FreightChargeType) :
    toComponentType type ≠ .total := by
  cases type <;> decide

theorem noTotal_push {components : List PriceComponent} {type : FreightPriceComponentType}
    (label : String) (amount : Decimal) (sortOrder : Nat) (h : NoTotal components)
    (htype : type ≠ .total) :
    NoTotal (components ++ [component type label amount sortOrder]) := by
  intro item hitem
  rcases List.mem_append.mp hitem with hitem | hitem
  · exact h item hitem
  · obtain rfl := List.mem_singleton.mp hitem
    exact htype

theorem noTotal_freightComponents (rate : RateInput) (weight : Decimal) :
    NoTotal (freightComponents .exact rate weight) := by
  simp only [freightComponents]
  have hbase : NoTotal [component .base "Frete base" (money rate.basePrice) 10] := by
    intro item hitem
    obtain rfl := List.mem_singleton.mp hitem
    exact (by decide : FreightPriceComponentType.base ≠ .total)
  split
  · exact noTotal_push _ _ _ hbase (by decide)
  · rw [List.append_nil]
    exact hbase

theorem noTotal_adjustToMinimum {components : List PriceComponent} (minimumValue : Decimal)
    (h : NoTotal components) : NoTotal (adjustToMinimum .exact components minimumValue).1 := by
  simp only [adjustToMinimum]
  split
  · exact noTotal_push _ _ _ h (by decide)
  · exact h

theorem noTotal_foldl_pushCharge (cargoValue subtotal : Decimal) (charges : List ChargeInput)
    (components : List PriceComponent) (h : NoTotal components) :
    NoTotal (charges.foldl (pushCharge .exact cargoValue subtotal) components) := by
  induction charges generalizing components with
  | nil => exact h
  | cons charge charges ih =>
      apply ih
      simp only [pushCharge]
      split
      · exact h
      · exact noTotal_push _ _ _ h (toComponentType_ne_total charge.type)

/-! ## The breakdown -/

/-- What is pushed before the total: freight, adjustment and charges. -/
def pricedComponents (input : FreightCalculationInput) : List PriceComponent :=
  let adjusted := adjustToMinimum .exact
    (freightComponents .exact input.rate (chargeableWeight input.packages input.cubicFactor))
    (money input.minimumValue)
  input.charges.foldl (pushCharge .exact input.cargoValue adjusted.2) adjusted.1

theorem calculate_components (input : FreightCalculationInput) :
    (calculate input).components =
      pricedComponents input ++ [component .total "Total" (calculate input).totalPrice 999] := by
  simp only [calculate, FreightPricingEngine.calculate, calculatePackageMetrics_exact,
    maxDecimal_metrics, pricedComponents]

theorem calculate_totalPrice (input : FreightCalculationInput) :
    (calculate input).totalPrice = sumComponents .exact (pricedComponents input) := by
  simp only [calculate, FreightPricingEngine.calculate, calculatePackageMetrics_exact,
    maxDecimal_metrics, pricedComponents]

theorem pricedComponents_spec (input : FreightCalculationInput) :
    InCents (pricedComponents input) ∧
      amountSum (pricedComponents input) =
        freightSubtotal input +
          (input.charges.map (chargePrice input.cargoValue (freightSubtotal input))).sum := by
  have hadjusted := adjustToMinimum_spec
    (inCents_freightComponents input.rate
      (chargeableWeight input.packages input.cubicFactor))
    (money_mem input.minimumValue)
  rw [amountSum_freightComponents] at hadjusted
  obtain ⟨hcents, hsum, hsubtotal⟩ := hadjusted
  simp only [pricedComponents]
  rw [hsubtotal]
  obtain ⟨hallCents, hall⟩ := foldl_pushCharge input.cargoValue (freightSubtotal input)
    input.charges _ hcents
  refine ⟨hallCents, ?_⟩
  rw [hsum] at hall
  exact hall

theorem noTotal_pricedComponents (input : FreightCalculationInput) :
    NoTotal (pricedComponents input) :=
  noTotal_foldl_pushCharge _ _ input.charges _
    (noTotal_adjustToMinimum _ (noTotal_freightComponents input.rate _))

/-- The total price in closed form. -/
theorem calculate_totalPrice_eq (input : FreightCalculationInput) :
    (calculate input).totalPrice =
      freightSubtotal input +
        (input.charges.map (chargePrice input.cargoValue (freightSubtotal input))).sum := by
  obtain ⟨hcents, hsum⟩ := pricedComponents_spec input
  rw [calculate_totalPrice, sumComponents_eq hcents, hsum]

theorem calculate_totalPrice_mem (input : FreightCalculationInput) :
    (calculate input).totalPrice ∈ decimals ℚ 2 := by
  rw [calculate_totalPrice]
  exact money_mem _

/-- The components of a calculation end with its only total, whose amount is the
total price and the exact sum of the others; and that price is the subtotal plus
the signed amount of every charge. -/
theorem calculate_breakdown (input : FreightCalculationInput) :
    ∃ parts total, (calculate input).components = parts ++ [total] ∧
      total.type = .total ∧ NoTotal parts ∧
      total.amount = (calculate input).totalPrice ∧
      (calculate input).totalPrice = amountSum parts ∧
      (calculate input).totalPrice =
        max (money input.minimumValue)
            (money input.rate.basePrice +
              money (max (chargeableWeight input.packages input.cubicFactor -
                input.rate.minWeightKg) 0 * input.rate.pricePerKg)) +
          (input.charges.map fun charge =>
            chargeSign charge.type *
              money (charge.fixedAmount.getD 0 + charge.percentage.getD 0 *
                chargeBasis charge.type input.cargoValue (freightSubtotal input))).sum := by
  obtain ⟨hcents, -⟩ := pricedComponents_spec input
  refine ⟨pricedComponents input, component .total "Total" (calculate input).totalPrice 999,
    calculate_components input, rfl, noTotal_pricedComponents input, ?_, ?_,
    calculate_totalPrice_eq input⟩
  · exact money_of_mem (calculate_totalPrice_mem input)
  · rw [calculate_totalPrice, sumComponents_eq hcents]

end Logistics.Pricing
