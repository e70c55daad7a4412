import Mathlib.Algebra.Order.Field.Power
import Mathlib.Data.Rat.Defs
import Mathlib.Algebra.Order.Ring.Rat
import Mathlib.Tactic.FieldSimp
import Mathlib.Tactic.Ring
import Mathlib.Tactic.Positivity
import Mathlib.Tactic.Linarith
import Logistics.Library.Text

/-!
# Decimal numerals

A numeral is digits, and perhaps a separator with more digits behind it. `number`
reads the text of one, with a point for the separator, the way ECMAScript's `Number`
does, and `DecimalValue.text` writes a value the way its `String` does: plainly when
the point stands at most 21 places behind the first digit and fewer than six places
before it, else with an exponent.
-/

namespace Logistics.Library

abbrev Digits : Type := { cs : List Char // ∀ c ∈ cs, c.isDigit = true }

structure Numeral where
  integer : Digits
  /-- The digits behind the separator, where there is one. -/
  fraction : Option Digits

namespace Numeral

def fractionDigits (n : Numeral) : List Char := n.fraction.elim [] Subtype.val

def text (separator : Char) (n : Numeral) : List Char :=
  n.integer.val ++ n.fraction.elim [] fun digits => separator :: digits.val

def value (n : Numeral) : ℚ :=
  Nat.ofDigitChars 10 (n.integer.val ++ n.fractionDigits) 0 / 10 ^ n.fractionDigits.length

theorem isDigit_of_mem_fractionDigits {n : Numeral} {c : Char} (h : c ∈ n.fractionDigits) :
    c.isDigit = true := by
  unfold fractionDigits at h
  cases hfraction : n.fraction with
  | none => simp [hfraction] at h
  | some digits =>
      rw [hfraction] at h
      exact digits.property c h

end Numeral

/-! ## Reading -/

/-- Digits with at most one point, and at least one digit. -/
def unsignedNumber (cs : List Char) : Option ℚ :=
  let integer := cs.takeWhile Char.isDigit
  match cs.dropWhile Char.isDigit with
  | [] => if integer.isEmpty then none else some (Nat.ofDigitChars 10 integer 0)
  | '.' :: fraction =>
      if fraction.all Char.isDigit && !(integer.isEmpty && fraction.isEmpty) then
        some (Nat.ofDigitChars 10 (integer ++ fraction) 0 / 10 ^ fraction.length)
      else none
  | _ => none

/-- `Number` of a text of digits, points, commas and minus signs, when it is one. -/
def number : List Char → Option ℚ
  | [] => some 0
  | '-' :: cs => (unsignedNumber cs).map Neg.neg
  | cs => unsignedNumber cs

theorem takeWhile_digits {digits : List Char} (h : ∀ c ∈ digits, c.isDigit = true)
    (rest : List Char) :
    (digits ++ rest).takeWhile Char.isDigit = digits ++ rest.takeWhile Char.isDigit ∧
      (digits ++ rest).dropWhile Char.isDigit = rest.dropWhile Char.isDigit :=
  ⟨List.takeWhile_append_of_pos h, List.dropWhile_append_of_pos h⟩

theorem number_eq_unsignedNumber {cs : List Char} (hne : cs ≠ []) (hsign : cs.head? ≠ some '-') :
    number cs = unsignedNumber cs := by
  unfold number
  split
  · exact absurd rfl hne
  · exact absurd rfl hsign
  · rfl

theorem not_isDigit_point : Char.isDigit '.' = false := by decide

theorem not_isDigit_minus : Char.isDigit '-' = false := by decide

theorem number_text (n : Numeral) : (number (n.text '.')).getD 0 = n.value := by
  have hfirst : n.text '.' ≠ [] → (n.text '.').head? ≠ some '-' := by
    intro _ hminus
    have hmem := List.mem_of_head? hminus
    rcases List.mem_append.mp hmem with hinteger | hfraction
    · exact absurd (n.integer.property _ hinteger) (by decide)
    · cases hn : n.fraction with
      | none => simp [hn] at hfraction
      | some digits =>
          rw [hn] at hfraction
          rcases List.mem_cons.mp hfraction with hpoint | hdigit
          · exact absurd hpoint (by decide)
          · exact absurd (digits.property _ hdigit) (by decide)
  by_cases hempty : n.text '.' = []
  · rw [hempty]
    have hinteger : n.integer.val = [] := (List.append_eq_nil_iff.mp hempty).1
    have hfraction : n.fractionDigits = [] := by
      unfold Numeral.fractionDigits
      cases hn : n.fraction with
      | none => rfl
      | some digits =>
          have hnil := (List.append_eq_nil_iff.mp hempty).2
          rw [hn] at hnil
          cases hnil
    simp [number, Numeral.value, hinteger, hfraction]
  rw [number_eq_unsignedNumber hempty (hfirst hempty)]
  obtain ⟨htake, hdrop⟩ := takeWhile_digits n.integer.property
    (n.fraction.elim [] fun digits => '.' :: digits.val)
  unfold unsignedNumber Numeral.text
  rw [htake, hdrop]
  cases hn : n.fraction with
  | none =>
      have hne : n.integer.val ≠ [] := by
        intro hnil
        simp [Numeral.text, hn, hnil] at hempty
      simp [Numeral.value, Numeral.fractionDigits, hn, hne]
  | some digits =>
      have hall : digits.val.all Char.isDigit = true := List.all_eq_true.mpr digits.property
      by_cases hnone : n.integer.val = [] ∧ digits.val = []
      · simp [Numeral.value, Numeral.fractionDigits, hn, hnone.1, hnone.2, not_isDigit_point]
      · have hsome : (n.integer.val.isEmpty && digits.val.isEmpty) = false := by
          rw [Bool.eq_false_iff]
          simpa using hnone
        simp [Numeral.value, Numeral.fractionDigits, hn, not_isDigit_point, hall, hsome]

theorem ofDigitChars_lt {cs : List Char} (h : ∀ c ∈ cs, c.isDigit = true) :
    Nat.ofDigitChars 10 cs 0 < 10 ^ cs.length := by
  induction cs with
  | nil => simp
  | cons c cs ih =>
      have hrest := ih fun c hc => h c (List.mem_cons_of_mem _ hc)
      have hdigit := (digit_bounds (h c List.mem_cons_self)).2
      rw [Nat.ofDigitChars_cons, Nat.ofDigitChars_eq_ofDigitChars_zero, List.length_cons,
        Nat.pow_succ]
      have hvalue : c.toNat - '0'.toNat ≤ 9 := by omega
      nlinarith

theorem head_ne_minus {integer : List Char} (h : ∀ c ∈ integer, c.isDigit = true)
    (hne : integer ≠ []) (rest : List Char) : (integer ++ rest).head? ≠ some '-' := by
  obtain ⟨first, others, rfl⟩ := List.exists_cons_of_ne_nil hne
  rw [List.cons_append, List.head?_cons]
  rintro ⟨⟩
  exact absurd (h '-' List.mem_cons_self) (by decide)

/-- A minus sign behind a first digit makes no number. -/
theorem number_minus_eq_none {integer : List Char} (h : ∀ c ∈ integer, c.isDigit = true)
    (hne : integer ≠ []) (rest : List Char) : number (integer ++ '-' :: rest) = none := by
  obtain ⟨htake, hdrop⟩ := takeWhile_digits h ('-' :: rest)
  rw [number_eq_unsignedNumber (by simp) (head_ne_minus h hne _), unsignedNumber, htake, hdrop,
    List.dropWhile_cons_of_neg (by decide)]
  rfl

theorem number_point_minus_eq_none {integer : List Char} (h : ∀ c ∈ integer, c.isDigit = true)
    (hne : integer ≠ []) (fraction rest : List Char) :
    number (integer ++ '.' :: (fraction ++ '-' :: rest)) = none := by
  obtain ⟨htake, hdrop⟩ := takeWhile_digits h ('.' :: (fraction ++ '-' :: rest))
  rw [number_eq_unsignedNumber (by simp) (head_ne_minus h hne _), unsignedNumber, htake, hdrop,
    List.dropWhile_cons_of_neg (by decide)]
  simp [not_isDigit_minus]

/-! ## Writing -/

/-- A value by its shortest digits: the last of them is not zero. -/
structure DecimalValue where
  significand : ℕ
  exponent : ℤ
  shortest : significand % 10 ≠ 0 ∨ significand = 0 ∧ exponent = 0

namespace DecimalValue

def value (d : DecimalValue) : ℚ := d.significand * 10 ^ d.exponent

def digits (d : DecimalValue) : List Char := Nat.toDigits 10 d.significand

/-- How many places behind the first digit the point stands. -/
def place (d : DecimalValue) : ℤ := d.digits.length + d.exponent

def pointAfterFirst : List Char → List Char
  | first :: second :: rest => first :: '.' :: second :: rest
  | digits => digits

def text (d : DecimalValue) : List Char :=
  if 0 ≤ d.exponent ∧ d.place ≤ 21 then d.digits ++ List.replicate d.exponent.toNat '0'
  else if 0 < d.place ∧ d.place ≤ 21 then
    d.digits.take d.place.toNat ++ '.' :: d.digits.drop d.place.toNat
  else if -6 < d.place ∧ d.place ≤ 0 then
    '0' :: '.' :: (List.replicate (-d.place).toNat '0' ++ d.digits)
  else
    pointAfterFirst d.digits ++ 'e' :: (if 0 < d.place then '+' else '-') ::
      Nat.toDigits 10 (d.place - 1).natAbs

def IsPlain (d : DecimalValue) : Prop := -6 < d.place ∧ d.place ≤ 21

variable {d : DecimalValue}

theorem isDigit_of_mem_digits {c : Char} (h : c ∈ d.digits) : c.isDigit = true :=
  Nat.isDigit_of_mem_toDigits (by decide) (by decide) h

theorem digits_ne_nil : d.digits ≠ [] := Nat.toDigits_ne_nil

theorem ofDigitChars_digits : Nat.ofDigitChars 10 d.digits 0 = d.significand :=
  Nat.ofDigitChars_ten_toDigits

theorem div_pow_eq_value {count : ℕ} (h : (count : ℤ) = -d.exponent) :
    (d.significand : ℚ) / 10 ^ count = d.value := by
  have hexponent : d.exponent = -(count : ℤ) := by omega
  rw [value, hexponent, zpow_neg, zpow_natCast, div_eq_mul_inv]

/-- A value that is written without an exponent is written as a numeral of it. -/
theorem exists_numeral (h : d.IsPlain) :
    ∃ n : Numeral, d.text = n.text '.' ∧ n.value = d.value := by
  obtain ⟨hlow, hhigh⟩ := h
  by_cases hexponent : 0 ≤ d.exponent
  · refine ⟨⟨⟨d.digits ++ List.replicate d.exponent.toNat '0', ?_⟩, none⟩, ?_, ?_⟩
    · intro c hc
      rcases List.mem_append.mp hc with hdigit | hzero
      · exact isDigit_of_mem_digits hdigit
      · rw [(List.mem_replicate.mp hzero).2]
        decide
    · simp [text, hexponent, hhigh, Numeral.text]
    · have hpow : (10 : ℚ) ^ d.exponent = 10 ^ d.exponent.toNat := by
        rw [← zpow_natCast, Int.toNat_of_nonneg hexponent]
      simp only [Numeral.value, Numeral.fractionDigits, Option.elim_none, List.append_nil,
        List.length_nil, pow_zero, div_one, Nat.ofDigitChars_append, ofDigitChars_digits,
        Nat.ofDigitChars_replicate_zero]
      push_cast
      rw [value, hpow, mul_comm]
  · have hplace : d.place = d.digits.length + d.exponent := rfl
    by_cases hpositive : 0 < d.place
    · refine ⟨⟨⟨d.digits.take d.place.toNat, fun c hc => isDigit_of_mem_digits
        (List.mem_of_mem_take hc)⟩, some ⟨d.digits.drop d.place.toNat, fun c hc =>
          isDigit_of_mem_digits (List.mem_of_mem_drop hc)⟩⟩, ?_, ?_⟩
      · simp [text, hexponent, hpositive, hhigh, Numeral.text]
      · simp only [Numeral.value, Numeral.fractionDigits, Option.elim_some,
          List.take_append_drop, ofDigitChars_digits]
        apply div_pow_eq_value
        rw [List.length_drop]
        omega
    · have hnotPositive : ¬(0 < d.place ∧ d.place ≤ 21) := fun h => hpositive h.1
      have hsmall : -6 < d.place ∧ d.place ≤ 0 := ⟨hlow, by omega⟩
      refine ⟨⟨⟨['0'], List.all_eq_true.mp rfl⟩,
        some ⟨List.replicate (-d.place).toNat '0' ++ d.digits, ?_⟩⟩,
        ?_, ?_⟩
      · intro c hc
        rcases List.mem_append.mp hc with hzero | hdigit
        · rw [(List.mem_replicate.mp hzero).2]
          decide
        · exact isDigit_of_mem_digits hdigit
      · simp [text, hexponent, hnotPositive, hsmall, Numeral.text]
      · have hzero : Nat.ofDigitChars 10 ['0'] 0 = 0 := rfl
        simp only [Numeral.value, Numeral.fractionDigits, Option.elim_some,
          Nat.ofDigitChars_append, hzero, Nat.ofDigitChars_replicate_zero, Nat.mul_zero,
          ofDigitChars_digits]
        apply div_pow_eq_value
        rw [List.length_append, List.length_replicate]
        omega

theorem text_of_not_isPlain (h : ¬d.IsPlain) :
    d.text = pointAfterFirst d.digits ++ 'e' :: (if 0 < d.place then '+' else '-') ::
      Nat.toDigits 10 (d.place - 1).natAbs := by
  have hpositive : 0 < d.digits.length := Nat.length_toDigits_pos
  have hplace : d.place = d.digits.length + d.exponent := rfl
  unfold IsPlain at h
  unfold text
  rw [if_neg (by omega), if_neg (by omega), if_neg (by omega)]

/-- The point stands where the value is between two powers of ten. -/
theorem value_bounds (h : d.significand ≠ 0) :
    (10 : ℚ) ^ (d.place - 1) ≤ d.value ∧ d.value < 10 ^ d.place := by
  have hpositive : 0 < d.digits.length := Nat.length_toDigits_pos
  have hlt : d.significand < 10 ^ d.digits.length :=
    (Nat.length_toDigits_le_iff (by decide) hpositive).mp le_rfl
  have hle : 10 ^ (d.digits.length - 1) ≤ d.significand := by
    by_cases hone : d.digits.length = 1
    · rw [hone]
      omega
    · by_contra hnot
      have hshort := (Nat.length_toDigits_le_iff (by decide)
        (show 0 < d.digits.length - 1 by omega)).mpr (not_le.mp hnot)
      change d.digits.length ≤ _ at hshort
      omega
  have hten : (0 : ℚ) < 10 ^ d.exponent := by positivity
  have hsplit : d.place - 1 = ((d.digits.length - 1 : ℕ) : ℤ) + d.exponent := by
    rw [place]
    omega
  constructor
  · rw [hsplit, zpow_add₀ (by norm_num), zpow_natCast, value]
    gcongr
    exact_mod_cast hle
  · rw [place, zpow_add₀ (by norm_num), zpow_natCast, value]
    gcongr
    exact_mod_cast hlt

theorem value_eq_zero_iff : d.value = 0 ↔ d.significand = 0 := by
  have hten : (10 : ℚ) ^ d.exponent ≠ 0 := zpow_ne_zero _ (by norm_num)
  rw [value, mul_eq_zero, Nat.cast_eq_zero, or_iff_left hten]

theorem isPlain_zero (h : d.significand = 0) : d.IsPlain := by
  have hexponent : d.exponent = 0 := by
    rcases d.shortest with hlast | hzero
    · rw [h] at hlast
      exact absurd rfl hlast
    · exact hzero.2
  have hdigits : d.digits = ['0'] := by rw [digits, h, Nat.toDigits_zero]
  rw [IsPlain, place, hexponent, hdigits]
  decide

theorem isPlain_iff (h : d.significand ≠ 0) :
    d.IsPlain ↔ 1 / 10 ^ 6 ≤ d.value ∧ d.value < 10 ^ 21 := by
  obtain ⟨hlow, hhigh⟩ := value_bounds h
  have hsmall : (1 / 10 ^ 6 : ℚ) = 10 ^ (-6 : ℤ) := by norm_num
  have hlarge : (10 ^ 21 : ℚ) = 10 ^ (21 : ℤ) := by norm_num
  rw [hsmall, hlarge]
  constructor
  · rintro ⟨hfrom, hto⟩
    exact ⟨(zpow_le_zpow_right₀ (by norm_num) (by omega)).trans hlow,
      hhigh.trans_le (zpow_le_zpow_right₀ (by norm_num) hto)⟩
  · rintro ⟨hfrom, hto⟩
    have hfirst := (zpow_lt_zpow_iff_right₀ (by norm_num)).mp (hfrom.trans_lt hhigh)
    have hlast := (zpow_lt_zpow_iff_right₀ (by norm_num)).mp (hlow.trans_lt hto)
    exact ⟨hfirst, by omega⟩

end DecimalValue

end Logistics.Library
