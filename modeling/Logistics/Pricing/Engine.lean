import Logistics.Library.Precision
import Logistics.Schema.Enums
import Logistics.Schema.Scalars

/-!
# The freight pricing engine

`calculate` prices one service for one request: the chargeable weight is the
greater of the real and the cubic weight, the base price and the weight price
are raised to the minimum of the service when they fall short of it, and every
charge adds one component. The components are listed in the order in which the
engine pushes them, and the total is pushed last.

Every sum, difference, product and quotient is rounded to the precision of the decimals;
rounding to places, comparisons and negation are exact. The engine is written for any
precision: `prismaDecimal` is the one that it runs with, and `calculate` is the engine on
exact decimals.
-/

namespace Logistics.Pricing

open Logistics.Library

structure PackageInput where
  heightCm : Decimal
  lengthCm : Decimal
  quantity : Decimal
  weightKg : Decimal
  widthCm : Decimal
  deriving DecidableEq

structure ChargeInput where
  fixedAmount : Option Decimal
  name : String
  percentage : Option Decimal
  type : FreightChargeType
  deriving DecidableEq

structure RateInput where
  basePrice : Decimal
  deadlineDays : Int
  excessPricePerKg : Option Decimal
  maxWeightKg : Decimal
  minWeightKg : Decimal
  pricePerKg : Decimal
  deriving DecidableEq

structure FreightCalculationInput where
  cargoValue : Decimal
  charges : List ChargeInput
  cubicFactor : Decimal
  desiredShipDate : Time
  distanceKm : Option Decimal
  minimumValue : Decimal
  packages : List PackageInput
  rate : RateInput

structure PriceComponent where
  amount : Decimal
  label : String
  sortOrder : Nat
  type : FreightPriceComponentType
  deriving DecidableEq

structure FreightCalculationResult where
  chargeableWeightKg : Decimal
  components : List PriceComponent
  cubicWeightKg : Decimal
  deadlineDays : Int
  estimatedDeliveryAt : Time
  realWeightKg : Decimal
  totalPrice : Decimal
  totalVolumeM3 : Decimal

structure PackageMetrics where
  cubicWeightKg : Decimal
  realWeightKg : Decimal
  totalVolumeM3 : Decimal

def scale (value : Decimal) (decimals : ℕ) : Decimal :=
  roundHalfUp decimals value

def money (value : Decimal) : Decimal :=
  scale value 2

def maxDecimal (left right : Decimal) : Decimal :=
  if left > right then left else right

def addDays (date : Time) (days : Int) : Time :=
  date + days * 86400000

def component (type : FreightPriceComponentType) (label : String)
    (amount : Decimal) (sortOrder : Nat) : PriceComponent :=
  { amount := money amount, label, sortOrder, type }

def componentSort : FreightChargeType → Nat
  | .fixed => 40
  | .adValorem => 50
  | .gris => 60
  | .toll => 70
  | .insurance => 80
  | .addition => 90
  | .discount => 100

def toComponentType : FreightChargeType → FreightPriceComponentType
  | .fixed => .fixed
  | .adValorem => .adValorem
  | .gris => .gris
  | .toll => .toll
  | .insurance => .insurance
  | .addition => .addition
  | .discount => .discount

/-- The whole volume of one package line, all its units included. -/
def PackageInput.volumeM3 (item : PackageInput) : Decimal :=
  item.lengthCm / 100 * (item.widthCm / 100) * (item.heightCm / 100) * item.quantity

/-- `Prisma.Decimal` keeps twenty significant digits of a result. -/
def prismaDecimal : Precision Decimal := .ofDigits 20

namespace FreightPricingEngine

variable (arith : Precision Decimal)

def volumeM3 (item : PackageInput) : Decimal :=
  let base := arith.keep (arith.keep (item.lengthCm / 100) * arith.keep (item.widthCm / 100))
  arith.keep (arith.keep (base * arith.keep (item.heightCm / 100)) * item.quantity)

/-- The accumulators of the loop over the packages: real weight and volume. -/
def accumulatePackage (total : Decimal × Decimal) (item : PackageInput) :
    Decimal × Decimal :=
  (arith.keep (total.1 + arith.keep (item.weightKg * item.quantity)),
    arith.keep (total.2 + volumeM3 arith item))

def calculatePackageMetrics (packages : List PackageInput)
    (cubicFactor : Decimal) : PackageMetrics :=
  let total := packages.foldl (accumulatePackage arith) (0, 0)
  { cubicWeightKg := scale (arith.keep (total.2 * cubicFactor)) 3
    realWeightKg := scale total.1 3
    totalVolumeM3 := scale total.2 6 }

def sumComponents (components : List PriceComponent) : Decimal :=
  money (components.foldl (fun total item => arith.keep (total + item.amount)) 0)

def calculateChargeAmount (charge : ChargeInput) (cargoValue subtotal : Decimal) :
    Decimal :=
  let fixed := charge.fixedAmount.getD 0
  let percentage := charge.percentage.getD 0
  let basis :=
    if charge.type = .adValorem ∨ charge.type = .insurance then cargoValue else subtotal
  let percentageAmount := arith.keep (basis * percentage)
  let amount := money (arith.keep (fixed + percentageAmount))
  if charge.type = .discount then -amount else amount

/-- The first components: the base price, and the weight price when some
chargeable weight exceeds the lower bound of the range. -/
def freightComponents (rate : RateInput) (chargeableWeightKg : Decimal) :
    List PriceComponent :=
  let base := money rate.basePrice
  let extraWeight := max (arith.keep (chargeableWeightKg - rate.minWeightKg)) 0
  [component .base "Frete base" base 10] ++
    if extraWeight > 0 then
      [component .weight "Peso cobrado" (money (arith.keep (extraWeight * rate.pricePerKg))) 20]
    else []

/-- Raise the components to the minimum value when their sum falls short of it;
the second value is the subtotal the charges are computed on. -/
def adjustToMinimum (components : List PriceComponent) (minimumValue : Decimal) :
    List PriceComponent × Decimal :=
  let subtotal := sumComponents arith components
  if subtotal < minimumValue then
    (components ++ [component .minimumAdjustment "Ajuste ao valor minimo"
      (arith.keep (minimumValue - subtotal)) 30], minimumValue)
  else (components, subtotal)

/-- One turn of the loop over the charges. A zero amount pushes nothing. -/
def pushCharge (cargoValue subtotal : Decimal) (components : List PriceComponent)
    (charge : ChargeInput) : List PriceComponent :=
  let amount := calculateChargeAmount arith charge cargoValue subtotal
  if amount = 0 then components
  else components ++
    [component (toComponentType charge.type) charge.name amount (componentSort charge.type)]

def calculate (input : FreightCalculationInput) : FreightCalculationResult :=
  let metrics := calculatePackageMetrics arith input.packages input.cubicFactor
  let minimumValue := money input.minimumValue
  let chargeableWeightKg := maxDecimal metrics.realWeightKg metrics.cubicWeightKg
  let adjusted :=
    adjustToMinimum arith (freightComponents arith input.rate chargeableWeightKg) minimumValue
  let components :=
    input.charges.foldl (pushCharge arith input.cargoValue adjusted.2) adjusted.1
  let total := sumComponents arith components
  { chargeableWeightKg := scale chargeableWeightKg 3
    components := components ++ [component .total "Total" total 999]
    cubicWeightKg := scale metrics.cubicWeightKg 3
    deadlineDays := input.rate.deadlineDays
    estimatedDeliveryAt := addDays input.desiredShipDate input.rate.deadlineDays
    realWeightKg := scale metrics.realWeightKg 3
    totalPrice := total
    totalVolumeM3 := scale metrics.totalVolumeM3 6 }

end FreightPricingEngine

open FreightPricingEngine (accumulatePackage)

def calculatePackageMetrics (packages : List PackageInput) (cubicFactor : Decimal) :
    PackageMetrics :=
  FreightPricingEngine.calculatePackageMetrics .exact packages cubicFactor

def calculate (input : FreightCalculationInput) : FreightCalculationResult :=
  FreightPricingEngine.calculate .exact input

/-! ## Rounded values -/

theorem money_mem (value : Decimal) : money value ∈ decimals ℚ 2 :=
  roundHalfUp_mem 2 value

theorem money_of_mem {value : Decimal} (h : value ∈ decimals ℚ 2) :
    money value = value :=
  roundHalfUp_of_mem h

@[simp] theorem money_money (value : Decimal) : money (money value) = money value :=
  money_of_mem (money_mem value)

@[simp] theorem money_zero : money 0 = 0 := by
  rw [money, scale, roundHalfUp_zero]

@[simp] theorem scale_scale (value : Decimal) (places : ℕ) :
    scale (scale value places) places = scale value places :=
  roundHalfUp_roundHalfUp places value

theorem maxDecimal_eq (left right : Decimal) :
    maxDecimal left right = max left right := by
  unfold maxDecimal
  split
  · next h => rw [max_eq_left h.le]
  · next h => rw [max_eq_right (not_lt.mp h)]

/-! ## Weights and volumes as sums over the packages -/

def realWeight (packages : List PackageInput) : Decimal :=
  (packages.map fun item => item.weightKg * item.quantity).sum

def totalVolume (packages : List PackageInput) : Decimal :=
  (packages.map PackageInput.volumeM3).sum

theorem accumulatePackage_exact (total : Decimal × Decimal) (item : PackageInput) :
    accumulatePackage .exact total item =
      (total.1 + item.weightKg * item.quantity, total.2 + item.volumeM3) := rfl

theorem foldl_accumulatePackage (packages : List PackageInput) (real volume : Decimal) :
    packages.foldl (accumulatePackage .exact) (real, volume) =
      (real + realWeight packages, volume + totalVolume packages) := by
  induction packages generalizing real volume with
  | nil => simp [realWeight, totalVolume]
  | cons item packages ih =>
      rw [List.foldl_cons, accumulatePackage_exact, ih]
      simp only [realWeight, totalVolume, List.map_cons, List.sum_cons, add_assoc]

theorem calculatePackageMetrics_eq (packages : List PackageInput) (cubicFactor : Decimal) :
    calculatePackageMetrics packages cubicFactor =
      { cubicWeightKg := scale (totalVolume packages * cubicFactor) 3
        realWeightKg := scale (realWeight packages) 3
        totalVolumeM3 := scale (totalVolume packages) 6 } := by
  rw [calculatePackageMetrics, FreightPricingEngine.calculatePackageMetrics,
    foldl_accumulatePackage]
  simp only [zero_add, Precision.exact_keep]

theorem calculatePackageMetrics_exact (packages : List PackageInput) (cubicFactor : Decimal) :
    FreightPricingEngine.calculatePackageMetrics .exact packages cubicFactor =
      calculatePackageMetrics packages cubicFactor := rfl

/-- The chargeable weight: the greater weight, rounded to three places. -/
def chargeableWeight (packages : List PackageInput) (cubicFactor : Decimal) : Decimal :=
  roundHalfUp 3 (max (realWeight packages) (totalVolume packages * cubicFactor))

theorem maxDecimal_metrics (packages : List PackageInput) (cubicFactor : Decimal) :
    maxDecimal (calculatePackageMetrics packages cubicFactor).realWeightKg
        (calculatePackageMetrics packages cubicFactor).cubicWeightKg =
      chargeableWeight packages cubicFactor := by
  rw [maxDecimal_eq, calculatePackageMetrics_eq, chargeableWeight, roundHalfUp_max]
  rfl

theorem calculate_chargeableWeightKg (input : FreightCalculationInput) :
    (calculate input).chargeableWeightKg =
      chargeableWeight input.packages input.cubicFactor := by
  have hmax := maxDecimal_metrics input.packages input.cubicFactor
  simp only [calculate, FreightPricingEngine.calculate, calculatePackageMetrics_exact, hmax, scale,
    chargeableWeight, roundHalfUp_roundHalfUp]

theorem calculate_realWeightKg (input : FreightCalculationInput) :
    (calculate input).realWeightKg = roundHalfUp 3 (realWeight input.packages) := by
  simp only [calculate, FreightPricingEngine.calculate, calculatePackageMetrics_exact,
    calculatePackageMetrics_eq, scale, roundHalfUp_roundHalfUp]

theorem calculate_totalVolumeM3 (input : FreightCalculationInput) :
    (calculate input).totalVolumeM3 = roundHalfUp 6 (totalVolume input.packages) := by
  simp only [calculate, FreightPricingEngine.calculate, calculatePackageMetrics_exact,
    calculatePackageMetrics_eq, scale, roundHalfUp_roundHalfUp]

end Logistics.Pricing
