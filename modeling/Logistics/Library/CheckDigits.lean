import Mathlib.Algebra.BigOperators.Group.List.Defs
import Mathlib.Tactic.Common
import Mathlib.Tactic.IntervalCases
import Logistics.Library.Text

/-!
# Check digits modulo 11

A number may end with check digits: each is computed from a weighted sum of the
digits before it, by its remainder modulo 11. The remainder of the sum decides, or
that of ten times the sum; the two rules give the same digit.
-/

namespace Logistics.Library

/-- The digits, each times its weight, added up. Digits without a weight do not count. -/
def weightedSum (weights digits : List ℕ) : ℕ := (List.zipWith (· * ·) digits weights).sum

/-- What is missing to a multiple of 11, and zero where that would not be a digit. -/
def checkDigit (sum : ℕ) : ℕ := if sum % 11 < 2 then 0 else 11 - sum % 11

theorem checkDigit_lt (sum : ℕ) : checkDigit sum < 10 := by
  unfold checkDigit
  split <;> omega

theorem checkDigit_eq_tenfold (sum : ℕ) :
    (if sum * 10 % 11 = 10 then 0 else sum * 10 % 11) = checkDigit sum := by
  have hrest : sum * 10 % 11 = sum % 11 * 10 % 11 := by rw [Nat.mul_mod]
  have hlt : sum % 11 < 11 := Nat.mod_lt _ (by decide)
  rw [checkDigit, hrest]
  generalize sum % 11 = remainder at hlt
  interval_cases remainder <;> rfl

/-- A sum over the digits with their places, as a loop adds it up. -/
theorem foldl_zipIdx_eq_weightedSum (weight : ℕ → ℕ) (digits : List ℕ) (start place : ℕ) :
    (digits.zipIdx place).foldl (fun total entry => total + entry.1 * weight entry.2) start =
      start + weightedSum ((List.range' place digits.length).map weight) digits := by
  induction digits generalizing start place with
  | nil => rfl
  | cons digit digits ih =>
      rw [List.zipIdx_cons, List.foldl_cons, ih, List.length_cons, List.range'_succ, List.map_cons]
      simp only [weightedSum, List.zipWith_cons_cons, List.sum_cons, Nat.add_assoc]

theorem map_getD_range' (weights : List ℕ) :
    (List.range' 0 weights.length).map (fun place => weights.getD place 0) = weights := by
  apply List.ext_getElem (by simp)
  intro place _ hplace
  simp [hplace]

theorem weightedSum_append {weights digits : List ℕ} (h : digits.length = weights.length)
    (further : List ℕ) : weightedSum weights (digits ++ further) = weightedSum weights digits := by
  have hweights : weights = weights ++ [] := (List.append_nil weights).symm
  unfold weightedSum
  conv_lhs => rw [hweights, List.zipWith_append h]
  rw [List.zipWith_nil_right, List.append_nil]

/-- Two check digits at the end, the second one over the first. -/
def HasCheckDigits (first second digits : List ℕ) : Prop :=
  digits.length = first.length + 2 ∧
    digits[first.length]? = some (checkDigit (weightedSum first digits)) ∧
    digits[first.length + 1]? = some (checkDigit (weightedSum second digits))

theorem hasCheckDigits_append_iff {first second body : List ℕ} (hfirst : body.length = first.length)
    (hsecond : second.length = first.length + 1) (a b : ℕ) :
    HasCheckDigits first second (body ++ [a, b]) ↔ a = checkDigit (weightedSum first body) ∧
      b = checkDigit (weightedSum second (body ++ [a])) := by
  have hlength : (body ++ [a, b]).length = first.length + 2 := by
    rw [List.length_append, hfirst]
    rfl
  have ha : (body ++ [a, b])[first.length]? = some a := by
    rw [← hfirst, List.getElem?_append_right (Nat.le_refl _), Nat.sub_self]
    rfl
  have hb : (body ++ [a, b])[first.length + 1]? = some b := by
    rw [← hfirst, List.getElem?_append_right (Nat.le_succ _), Nat.succ_sub (Nat.le_refl _),
      Nat.sub_self]
    rfl
  have hinner : (body ++ [a]).length = second.length := by
    rw [List.length_append, hfirst, hsecond]
    rfl
  have hsum : weightedSum second (body ++ [a, b]) = weightedSum second (body ++ [a]) := by
    rw [← weightedSum_append hinner [b], List.append_assoc]
    rfl
  rw [HasCheckDigits, ha, hb, weightedSum_append hfirst, hsum, Option.some_inj, Option.some_inj]
  exact and_iff_right hlength

/-- The same with the second digit over the computed first one. -/
theorem hasCheckDigits_iff_take (first second : List ℕ) {digits : List ℕ}
    (hlength : digits.length = first.length + 2) (hsecond : second.length = first.length + 1) :
    HasCheckDigits first second digits ↔
      digits[first.length]? = some (checkDigit (weightedSum first (digits.take first.length))) ∧
        digits[first.length + 1]? = some (checkDigit (weightedSum second
          (digits.take first.length ++
            [checkDigit (weightedSum first (digits.take first.length))]))) := by
  have hbody : (digits.take first.length).length = first.length := by
    rw [List.length_take, hlength]
    omega
  obtain ⟨a, b, hrest⟩ : ∃ a b, digits.drop first.length = [a, b] := by
    rw [← List.length_eq_two, List.length_drop, hlength, Nat.add_sub_cancel_left]
  have ha : digits[first.length]? = some a := by
    rw [← Nat.add_zero first.length, ← List.getElem?_drop, hrest]
    rfl
  have hb : digits[first.length + 1]? = some b := by
    rw [← List.getElem?_drop, hrest]
    rfl
  have happend := hasCheckDigits_append_iff hbody hsecond a b
  rw [← hrest, List.take_append_drop] at happend
  rw [happend, ha, hb, Option.some_inj, Option.some_inj]
  constructor
  · rintro ⟨hfirst, hvalue⟩
    exact ⟨hfirst, by rw [← hfirst]; exact hvalue⟩
  · rintro ⟨hfirst, hvalue⟩
    rw [← hfirst] at hvalue
    exact ⟨hfirst, hvalue⟩

/-! ## Digits in a text -/

def digitValue (c : Char) : ℕ := c.toNat - '0'.toNat

theorem digitValue_toString {n : ℕ} (h : n < 10) :
    ∃ c : Char, (toString n).toList = [c] ∧ c.isDigit = true ∧ digitValue c = n := by
  refine ⟨Nat.digitChar n, ?_, ?_, ?_⟩ <;> interval_cases n <;> rfl

theorem digitValue_inj {c d : Char} (hc : c.isDigit = true) (hd : d.isDigit = true)
    (h : digitValue c = digitValue d) : c = d := by
  have hc' := digit_bounds hc
  have hd' := digit_bounds hd
  rw [digitValue, digitValue] at h
  exact Char.toNat_inj.mp (by omega)

/-- `/^(\d)\1+$/` -/
def repeatsOneDigit (text : String) : Bool :=
  match text.toList with
  | c :: d :: rest => c.isDigit && (d :: rest).all (· == c)
  | _ => false

def AllEqual (digits : List ℕ) : Prop := ∃ digit, ∀ other ∈ digits, other = digit

theorem repeatsOneDigit_iff {text : String} (hdigits : ∀ c ∈ text.toList, c.isDigit = true)
    (hlength : 2 ≤ text.toList.length) :
    repeatsOneDigit text = true ↔ AllEqual (text.toList.map digitValue) := by
  unfold repeatsOneDigit
  split
  · next c d rest htext =>
    rw [htext] at hdigits ⊢
    have hc := hdigits c List.mem_cons_self
    rw [hc, Bool.true_and, List.all_eq_true]
    constructor
    · intro hall
      refine ⟨digitValue c, fun other hother => ?_⟩
      obtain ⟨e, he, rfl⟩ := List.mem_map.mp hother
      rcases List.mem_cons.mp he with rfl | he
      · rfl
      · rw [beq_iff_eq.mp (hall e he)]
    · rintro ⟨digit, hall⟩ e he
      have hsame := hall _ (List.mem_map_of_mem (List.mem_cons_of_mem c he))
      rw [← hall _ (List.mem_map_of_mem List.mem_cons_self)] at hsame
      exact beq_iff_eq.mpr (digitValue_inj (hdigits e (List.mem_cons_of_mem c he)) hc hsame)
  · next htext =>
    cases hlist : text.toList with
    | nil =>
        rw [hlist] at hlength
        exact absurd hlength (by decide)
    | cons c rest =>
        cases rest with
        | nil =>
            rw [hlist] at hlength
            exact absurd hlength (Nat.not_succ_le_self 1)
        | cons d rest => exact absurd hlist (htext c d rest)

/-- The text of the digits of a list that ends with two. -/
theorem eq_append_toString_iff {body : List Char} {x y : Char} {a b : ℕ}
    (hx : x.isDigit = true) (hy : y.isDigit = true) (ha : a < 10) (hb : b < 10) :
    String.ofList (body ++ [x, y]) = String.ofList body ++ toString a ++ toString b ↔
      digitValue x = a ∧ digitValue y = b := by
  obtain ⟨c, hc, hcdigit, rfl⟩ := digitValue_toString ha
  obtain ⟨d, hd, hddigit, rfl⟩ := digitValue_toString hb
  rw [← String.toList_inj, String.toList_append, String.toList_append, String.toList_ofList,
    String.toList_ofList, hc, hd, List.append_assoc, List.append_cancel_left_eq]
  constructor
  · intro h
    obtain ⟨hxc, hrest⟩ := List.cons.inj h
    obtain ⟨hyd, -⟩ := List.cons.inj hrest
    exact ⟨congrArg digitValue hxc, congrArg digitValue hyd⟩
  · rintro ⟨hxc, hyd⟩
    rw [digitValue_inj hx hcdigit hxc, digitValue_inj hy hddigit hyd]
    rfl

theorem utf16Length_of_digits {text : String} (h : ∀ c ∈ text.toList, c.isDigit = true) :
    utf16Length text = text.toList.length := by
  have hone : text.toList.map (fun c => if c.toNat < 0x10000 then 1 else 2) =
      text.toList.map fun _ => 1 := by
    apply List.map_congr_left
    intro c hc
    have hbounds := digit_bounds (h c hc)
    have hzero : '0'.toNat = 48 := rfl
    rw [if_pos (by omega)]
  rw [utf16Length, hone, List.map_const', List.sum_replicate_nat, mul_one]

end Logistics.Library
