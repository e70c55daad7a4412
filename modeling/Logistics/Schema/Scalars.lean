import Mathlib.Data.List.DropRight
import Mathlib.Data.Rat.Defs

/-!
# Column types

Identifiers are the `CHAR(36)` strings of the schema, instants are milliseconds
since the epoch, and decimals are exact rationals: rounding happens where the
code or a column rounds, never in the arithmetic itself. Names, codes and
e-mails compare as their columns do, by the weights of a `Collation`.
-/

namespace Logistics

abbrev Id : Type := String

abbrev Time : Type := Int

abbrev Decimal : Type := ℚ

/-- `/[A-Z0-9_-]/` -/
def isCodeChar (c : Char) : Bool :=
  ('A' ≤ c && c ≤ 'Z') || ('0' ≤ c && c ≤ '9') || c == '_' || c == '-'

/-- How the text columns compare. They are `utf8mb4_unicode_ci`: texts that differ only in
case, in accents or in trailing blanks have one weight, and an equality of a query or a
unique key looks at the weights. Capitals, digits, `_` and `-` are not folded into each
other. -/
class Collation where
  weight : String → String
  weight_injOn : ∀ {a b : String}, a.toList.all isCodeChar = true →
    b.toList.all isCodeChar = true → weight a = weight b → a = b

/-- The database takes the texts to be equal. -/
def collates [Collation] (a b : String) : Bool := Collation.weight a == Collation.weight b

theorem collates_iff [Collation] {a b : String} :
    collates a b = true ↔ Collation.weight a = Collation.weight b := beq_iff_eq

@[simp] theorem collates_self [Collation] (a : String) : collates a a = true := beq_self_eq_true _

def foldText (text : String) : String :=
  String.ofList ((text.toList.map Char.toLower).rdropWhile (· == ' '))

theorem toNat_of_isCodeChar {c : Char} (h : isCodeChar c = true) :
    c.toNat = 45 ∨ 48 ≤ c.toNat ∧ c.toNat ≤ 57 ∨ 65 ≤ c.toNat ∧ c.toNat ≤ 90 ∨ c.toNat = 95 := by
  simp only [isCodeChar, Bool.or_eq_true, Bool.and_eq_true, decide_eq_true_eq, beq_iff_eq,
    Char.le_def, UInt32.le_iff_toNat_le] at h
  rcases h with ((hletter | hdigit) | rfl) | rfl
  · exact .inr (.inr (.inl hletter))
  · exact .inr (.inl hdigit)
  · exact .inr (.inr (.inr rfl))
  · exact .inl rfl

theorem toNat_toLower (c : Char) :
    c.toLower.toNat = if 65 ≤ c.toNat ∧ c.toNat ≤ 90 then c.toNat + 32 else c.toNat := by
  by_cases h : 65 ≤ c.toNat ∧ c.toNat ≤ 90
  · have hcapital : c.val ≥ 'A'.val ∧ c.val ≤ 'Z'.val :=
      ⟨UInt32.le_iff_toNat_le.mpr h.1, UInt32.le_iff_toNat_le.mpr h.2⟩
    rw [if_pos h]
    delta Char.toLower
    rw [dif_pos hcapital]
    change (c.val + 32).toNat = c.toNat + 32
    rw [UInt32.toNat_add]
    change (c.toNat + 32) % 2 ^ 32 = c.toNat + 32
    omega
  · have hother : ¬(c.val ≥ 'A'.val ∧ c.val ≤ 'Z'.val) := fun hcapital =>
      h ⟨UInt32.le_iff_toNat_le.mp hcapital.1, UInt32.le_iff_toNat_le.mp hcapital.2⟩
    rw [if_neg h]
    delta Char.toLower
    rw [dif_neg hother]

theorem toLower_injOn {c d : Char} (hc : isCodeChar c = true) (hd : isCodeChar d = true)
    (h : c.toLower = d.toLower) : c = d := by
  have hcodes := congrArg Char.toNat h
  rw [toNat_toLower, toNat_toLower] at hcodes
  have hcode := toNat_of_isCodeChar hc
  have hcode' := toNat_of_isCodeChar hd
  apply Char.toNat_inj.mp
  split at hcodes <;> split at hcodes <;> omega

theorem foldText_of_code {text : String} (h : text.toList.all isCodeChar = true) :
    foldText text = String.ofList (text.toList.map Char.toLower) := by
  rw [foldText, List.rdropWhile_eq_self_iff.mpr]
  intro hne hblank
  obtain ⟨c, hc, hlower⟩ := List.mem_map.mp (List.getLast_mem hne)
  have hcode := congrArg Char.toNat (hlower.trans (beq_iff_eq.mp hblank))
  rw [toNat_toLower] at hcode
  change _ = 32 at hcode
  have hrange := toNat_of_isCodeChar (List.all_eq_true.mp h c hc)
  split at hcode <;> omega

theorem map_toLower_injOn {a b : List Char} (ha : a.all isCodeChar = true)
    (hb : b.all isCodeChar = true) (h : a.map Char.toLower = b.map Char.toLower) : a = b := by
  induction a generalizing b with
  | nil => exact (List.map_eq_nil_iff.mp h.symm).symm
  | cons c a ih =>
      obtain ⟨d, b, rfl, hhead, htail⟩ := List.map_eq_cons_iff.mp h.symm
      rw [List.all_cons, Bool.and_eq_true] at ha hb
      rw [toLower_injOn ha.1 hb.1 hhead.symm, ih ha.2 hb.2 htail.symm]

/-- A collation for texts without accents: letters lose their case, and blanks at the end
are dropped. -/
@[reducible] def foldCase : Collation where
  weight := foldText
  weight_injOn ha hb h := by
    rw [foldText_of_code ha, foldText_of_code hb] at h
    exact String.toList_injective (map_toLower_injOn ha hb (String.ofList_injective h))

/-- A `VARCHAR` column of this many characters holds the text. -/
def fitsColumn (limit : ℕ) (text : String) : Bool := text.length ≤ limit

/-- A value of a `VARCHAR` column, which holds this many characters. -/
abbrev VarChar (n : ℕ) : Type := {text : String // text.length ≤ n}

/-- The text as a value of the column, if it is not too long for it. -/
def varChar? (n : ℕ) (text : String) : Option (VarChar n) :=
  if h : text.length ≤ n then some ⟨text, h⟩ else none

end Logistics
