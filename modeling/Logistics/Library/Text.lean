import Mathlib.Data.List.DropRight
import Mathlib.Data.List.TakeWhile
import Mathlib.Data.String.Basic
import Mathlib.Algebra.Order.BigOperators.Group.List
import Mathlib.Algebra.Order.Ring.Nat
import Mathlib.Tactic.Common

/-!
# Texts

`trim` removes white space and line terminators from both ends of a text and
`utf16Length` counts it, and `split` cuts it at a character, the way ECMAScript
strings do. A text trims to the empty text exactly when it is blank, that is,
made of white space only. What is stripped once from both ends of a list is not
found there again. Texts of equally many decimal digits are ordered like the
numbers they denote.
-/

namespace Logistics.Library

/-! ## Both ends of a list -/

section

variable {α : Type} {p : α → Bool}

/-- The list without the items at its ends that satisfy `p`. -/
def strip (p : α → Bool) (xs : List α) : List α := (xs.dropWhile p).rdropWhile p

theorem strip_isInfix (xs : List α) : strip p xs <:+: xs :=
  (List.rdropWhile_prefix p _).isInfix.trans (List.dropWhile_suffix p).isInfix

theorem strip_eq_self {xs : List α} (hfirst : ∀ x ∈ xs.head?, p x = false)
    (hlast : ∀ x ∈ xs.getLast?, p x = false) : strip p xs = xs := by
  have hkept : xs.dropWhile p = xs := by
    cases xs with
    | nil => rfl
    | cons x xs => exact List.dropWhile_cons_of_neg (by simp [hfirst x rfl])
  rw [strip, hkept, List.rdropWhile_eq_self_iff]
  intro hne
  simp [hlast _ (List.getLast?_eq_some_getLast hne)]

theorem head?_strip (xs : List α) : ∀ x ∈ (strip p xs).head?, p x = false := by
  intro x hx
  obtain ⟨rest, hrest⟩ := List.rdropWhile_prefix p (xs.dropWhile p)
  have hhead : (xs.dropWhile p).head? = some x := by
    rw [← hrest, List.head?_append_of_ne_nil]
    · exact hx
    · rintro hnil
      rw [strip, hnil] at hx
      cases hx
  have hnot := List.head?_dropWhile_not p xs
  rw [hhead] at hnot
  simpa using hnot

theorem getLast?_strip (xs : List α) : ∀ x ∈ (strip p xs).getLast?, p x = false := by
  intro x hx
  have hne : (xs.dropWhile p).rdropWhile p ≠ [] := by
    intro hnil
    rw [strip, hnil] at hx
    cases hx
  rw [strip, List.getLast?_eq_some_getLast hne] at hx
  obtain rfl := Option.some.inj hx
  simpa using List.rdropWhile_last_not p _ hne

theorem strip_idempotent (xs : List α) : strip p (strip p xs) = strip p xs :=
  strip_eq_self (head?_strip xs) (getLast?_strip xs)

/-- What satisfies `p` around a list is stripped with its own ends. -/
theorem strip_append {left right : List α} (hleft : ∀ x ∈ left, p x = true)
    (hright : ∀ x ∈ right, p x = true) (xs : List α) :
    strip p (left ++ xs ++ right) = strip p xs := by
  rw [strip, List.append_assoc, List.dropWhile_append_of_pos hleft, List.dropWhile_append]
  split
  · next hempty =>
    rw [List.isEmpty_iff] at hempty
    rw [strip, hempty, List.rdropWhile_nil, List.rdropWhile_eq_nil_iff]
    exact fun x hx => hright x ((List.dropWhile_sublist p).subset hx)
  · rw [strip, List.rdropWhile, List.rdropWhile, List.reverse_append,
      List.dropWhile_append_of_pos fun x hx => hright x (List.mem_reverse.mp hx)]

end

/-! ## White space -/

/-- White space and line terminators of ECMAScript. -/
def isWhiteSpace (c : Char) : Bool :=
  let n := c.toNat
  (0x09 ≤ n && n ≤ 0x0D) || n == 0x20 || n == 0xA0 || n == 0x1680 ||
    (0x2000 ≤ n && n ≤ 0x200A) || n == 0x2028 || n == 0x2029 || n == 0x202F ||
    n == 0x205F || n == 0x3000 || n == 0xFEFF

def trim (text : String) : String :=
  String.ofList ((text.toList.dropWhile isWhiteSpace).rdropWhile isWhiteSpace)

/-- The length of a text in UTF-16 code units. -/
def utf16Length (text : String) : ℕ :=
  (text.toList.map fun c => if c.toNat < 0x10000 then 1 else 2).sum

theorem length_le_utf16Length (text : String) : text.length ≤ utf16Length text := by
  rw [utf16Length, ← String.length_toList]
  calc text.toList.length
      = (text.toList.map fun _ => 1).sum := by simp
    _ ≤ _ := List.sum_le_sum fun c _ => by
          split
          · exact le_rfl
          · exact Nat.le_succ 1

/-- The pieces of a text between the occurrences of a character. -/
def split (text : String) (separator : Char) : List String :=
  (text.toList.splitOn separator).map String.ofList

/-- Made of white space only. -/
def isBlank (text : String) : Bool :=
  text.toList.all isWhiteSpace

theorem trim_eq_empty_iff (text : String) : trim text = "" ↔ isBlank text = true := by
  have hofList : ∀ cs : List Char, String.ofList cs = "" ↔ cs = [] := by
    intro cs
    constructor
    · intro h
      have htoList := congrArg String.toList h
      simpa using htoList
    · rintro rfl
      rfl
  rw [trim, hofList, List.rdropWhile_eq_nil_iff, isBlank, List.all_eq_true]
  constructor
  · intro h c hc
    by_contra hnot
    have hne : text.toList.dropWhile isWhiteSpace ≠ [] := by
      intro hnil
      exact hnot (List.dropWhile_eq_nil_iff.mp hnil c hc)
    have hhead := List.head_dropWhile_not isWhiteSpace hne
    have hblank := h _ (List.head_mem hne)
    rw [hblank] at hhead
    cases hhead
  · intro h c hc
    exact h c ((List.dropWhile_sublist _).subset hc)

theorem toList_trim (text : String) : (trim text).toList = strip isWhiteSpace text.toList :=
  String.toList_ofList

theorem trim_of_visible {cs : List Char} (h : ∀ c ∈ cs, isWhiteSpace c = false) :
    trim (String.ofList cs) = String.ofList cs := by
  rw [← String.toList_inj, toList_trim, String.toList_ofList]
  exact strip_eq_self (fun c hc => h c (List.mem_of_mem_head? hc))
    fun c hc => h c (List.mem_of_mem_getLast? hc)

@[simp] theorem trim_trim (text : String) : trim (trim text) = trim text := by
  rw [← String.toList_inj, toList_trim, toList_trim, strip_idempotent]

theorem trim_surrounded {left right : String} (hleft : isBlank left = true)
    (hright : isBlank right = true) (text : String) : trim (left ++ text ++ right) = trim text := by
  rw [← String.toList_inj, toList_trim, toList_trim, String.toList_append, String.toList_append]
  exact strip_append (List.all_eq_true.mp hleft) (List.all_eq_true.mp hright) _

theorem exists_surrounded (text : String) : ∃ left right, isBlank left = true ∧
    isBlank right = true ∧ text = left ++ trim text ++ right := by
  refine ⟨String.ofList (text.toList.takeWhile isWhiteSpace),
    String.ofList ((text.toList.dropWhile isWhiteSpace).rtakeWhile isWhiteSpace), ?_, ?_, ?_⟩
  · rw [isBlank, String.toList_ofList, List.all_eq_true]
    exact fun c hc => List.mem_takeWhile_imp hc
  · rw [isBlank, String.toList_ofList, List.all_eq_true]
    exact fun c hc => List.mem_rtakeWhile_imp hc
  · rw [← String.toList_inj, String.toList_append, String.toList_append, toList_trim,
      String.toList_ofList, String.toList_ofList, strip, List.append_assoc,
      List.rdropWhile_append_rtakeWhile, List.takeWhile_append_dropWhile]

/-! ## Decimal digits -/

/-- The number that decimal digits denote when they are read after `start`. -/
def readDigits (start : ℕ) (cs : List Char) : ℕ :=
  cs.foldl (fun value c => value * 10 + (c.toNat - '0'.toNat)) start

theorem isDigit_of_mem_toString {n : ℕ} {c : Char} (h : c ∈ (toString n).toList) :
    c.isDigit = true := by
  rw [Nat.toString_eq_ofList_toDigits, String.toList_ofList] at h
  exact Nat.isDigit_of_mem_toDigits (by decide) (by decide) h

theorem digit_bounds {c : Char} (h : c.isDigit = true) :
    '0'.toNat ≤ c.toNat ∧ c.toNat ≤ '0'.toNat + 9 := by
  simp only [Char.isDigit, Bool.and_eq_true, decide_eq_true_eq, ge_iff_le,
    UInt32.le_iff_toNat_le] at h
  exact h

theorem isWhiteSpace_of_isDigit {c : Char} (h : c.isDigit = true) : isWhiteSpace c = false := by
  obtain ⟨hlow, hhigh⟩ := digit_bounds h
  have hzero : '0'.toNat = 48 := rfl
  unfold isWhiteSpace
  simp only [Bool.or_eq_false_iff, Bool.and_eq_false_iff, decide_eq_false_iff_not,
    beq_eq_false_iff_ne]
  omega

theorem readDigits_lt_iff {xs ys : List Char} (hxs : ∀ c ∈ xs, c.isDigit = true)
    (hys : ∀ c ∈ ys, c.isDigit = true) (hlength : xs.length = ys.length) (a b : ℕ) :
    readDigits a xs < readDigits b ys ↔ a < b ∨ a = b ∧ xs < ys := by
  induction xs generalizing ys a b with
  | nil =>
      obtain rfl := List.length_eq_zero_iff.mp hlength.symm
      simp [readDigits]
  | cons x xs ih =>
      cases ys with
      | nil => cases hlength
      | cons y ys =>
          have hx := digit_bounds (hxs x List.mem_cons_self)
          have hy := digit_bounds (hys y List.mem_cons_self)
          have hlt : x < y ↔ x.toNat < y.toNat := Iff.rfl
          have heq : x = y ↔ x.toNat = y.toNat := Char.toNat_inj.symm
          have hrest := ih (fun c hc => hxs c (List.mem_cons_of_mem _ hc))
            (fun c hc => hys c (List.mem_cons_of_mem _ hc)) (Nat.succ.inj hlength)
            (a * 10 + (x.toNat - '0'.toNat)) (b * 10 + (y.toNat - '0'.toNat))
          rw [List.cons_lt_cons_iff, hlt, heq]
          refine hrest.trans ?_
          by_cases htail : xs < ys <;> simp only [htail, and_true, and_false, or_false] <;> omega

theorem le_iff_readDigits_le {s t : String} (hs : ∀ c ∈ s.toList, c.isDigit = true)
    (ht : ∀ c ∈ t.toList, c.isDigit = true) (hlength : s.length = t.length) :
    s ≤ t ↔ readDigits 0 s.toList ≤ readDigits 0 t.toList := by
  have hlist : t.toList.length = s.toList.length := by
    rw [String.length_toList, String.length_toList, hlength]
  have hlt := readDigits_lt_iff ht hs hlist 0 0
  rw [← not_lt, ← not_lt, String.lt_iff_toList_lt, hlt]
  simp

end Logistics.Library
