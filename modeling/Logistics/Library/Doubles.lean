import Mathlib.Data.Rat.Floor
import Logistics.Library.Text

/-!
# Binary floating point

`Float` is binary64, and its operations round as those of the numbers of ECMAScript do.
Here are the rational that a finite number stands for, the number nearest to a decimal,
rounding to whole numbers, and the text that a number is written as: of the decimals
that denote it the nearest with the fewest places, without an exponent.
-/

namespace Logistics.Library

/-- The rational that a finite number stands for. -/
def rational (x : Float) : ℚ :=
  match x.toModel.unpack with
  | .finite sign mantissa exponent _ =>
      let magnitude : ℚ :=
        if 0 ≤ exponent then (mantissa * 2 ^ exponent.toNat : ℕ)
        else mantissa / (2 ^ (-exponent).toNat : ℕ)
      match sign with
      | .positive => magnitude
      | .negative => -magnitude
  | _ => 0

/-- The number nearest to `units / 10 ^ places`. -/
def ofDecimal (places : ℕ) : ℤ → Float
  | .ofNat units => .ofScientific units true places
  | .negSucc units => -.ofScientific (units + 1) true places

/-- To the nearest whole number, upwards on a tie: `Math.round`. -/
def mathRound (x : Float) : Float := .ofInt ⌊rational x + 1 / 2⌋

/-- To the nearest whole number, to an even one on a tie. -/
def nearestEven (x : ℚ) : ℤ :=
  if x - ⌊x⌋ < 1 / 2 ∨ x - ⌊x⌋ = 1 / 2 ∧ ⌊x⌋ % 2 = 0 then ⌊x⌋ else ⌊x⌋ + 1

/-! ## Writing -/

/-- How many units of the last of some decimal places are nearest to the number. -/
def nearestUnits (places : ℕ) (x : Float) : ℤ := nearestEven (rational x * (10 ^ places : ℕ))

/-- The fewest places of a decimal that denotes the number. -/
def decimalPlaces (x : Float) : ℕ :=
  ((List.range 20).find? fun places => ofDecimal places (nearestUnits places x) == x).getD 20

/-- The decimal that a number is written as. -/
def shortestDecimal (x : Float) : ℚ :=
  nearestUnits (decimalPlaces x) x / (10 ^ decimalPlaces x : ℕ)

def zeroPadded (width n : ℕ) : String :=
  String.ofList (List.replicate (width - (toString n).length) '0') ++ toString n

def fixedText (places : ℕ) (units : ℤ) : String :=
  (if units < 0 then "-" else "") ++ toString (units.natAbs / 10 ^ places) ++
    if places = 0 then "" else "." ++ zeroPadded places (units.natAbs % 10 ^ places)

/-- `String(x)` of a number below `10 ^ 21` that is zero or at least `10 ^ -6`: those beyond
are written with an exponent. -/
def decimalText (x : Float) : String :=
  fixedText (decimalPlaces x) (nearestUnits (decimalPlaces x) x)

theorem isDigit_of_mem_zeroPadded {width n : ℕ} {c : Char}
    (h : c ∈ (zeroPadded width n).toList) : c.isDigit = true := by
  rw [zeroPadded, String.toList_append, String.toList_ofList] at h
  rcases List.mem_append.mp h with hzero | hdigit
  · rw [(List.mem_replicate.mp hzero).2]
    rfl
  · exact isDigit_of_mem_toString hdigit

theorem mem_fixedText {places : ℕ} {units : ℤ} {c : Char}
    (h : c ∈ (fixedText places units).toList) : c.isDigit = true ∨ c = '-' ∨ c = '.' := by
  rw [fixedText, String.toList_append, String.toList_append] at h
  rcases List.mem_append.mp h with hwhole | hfraction
  · rcases List.mem_append.mp hwhole with hsign | hdigit
    · split at hsign
      · exact .inr (.inl (List.mem_singleton.mp hsign))
      · cases hsign
    · exact .inl (isDigit_of_mem_toString hdigit)
  · split at hfraction
    · cases hfraction
    · rw [String.toList_append] at hfraction
      rcases List.mem_append.mp hfraction with hpoint | hdigit
      · exact .inr (.inr (List.mem_singleton.mp hpoint))
      · exact .inl (isDigit_of_mem_zeroPadded hdigit)

theorem exists_digit_mem_fixedText (places : ℕ) (units : ℤ) :
    ∃ c ∈ (fixedText places units).toList, c.isDigit = true := by
  have hwhole : (toString (units.natAbs / 10 ^ places)).toList ≠ [] := by
    rw [Nat.toString_eq_ofList_toDigits, String.toList_ofList]
    exact Nat.toDigits_ne_nil
  have hhead := List.head_mem hwhole
  refine ⟨_, ?_, isDigit_of_mem_toString hhead⟩
  rw [fixedText, String.toList_append, String.toList_append]
  exact List.mem_append_left _ (List.mem_append_right _ hhead)

/-- A half that the product has lost is not rounded up. -/
example : decimalText (mathRound (1.005 * 100) / 100) = "1" ∧
    decimalText (0.1 + 0.2) = "0.30000000000000004" := by
  decide +kernel

end Logistics.Library
