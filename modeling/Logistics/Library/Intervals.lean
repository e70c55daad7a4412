import Mathlib.Data.List.Chain
import Mathlib.Data.List.Find
import Mathlib.Data.List.Sort
import Mathlib.Data.Set.BooleanAlgebra
import Mathlib.Order.CompletePartialOrder
import Mathlib.Order.Interval.Set.Basic

/-!
# Closed intervals

The elements of a list stand for closed intervals `[low a, high a]` over a linear
order. Two intervals are apart when one ends before the other begins. In a list
ordered by `low` it is enough to look at neighbours: proper intervals are apart in
pairs exactly if none reaches the next one. Intervals that are apart in pairs
contain a point at most once, so looking one up does not depend on the order of
the list.
-/

namespace Logistics.Library

section Intervals

variable {α K : Type*} [LinearOrder K] (low high : α → K)

def Apart (a b : α) : Prop := high a < low b ∨ high b < low a

instance : DecidableRel (Apart low high) := fun _ _ => inferInstanceAs (Decidable (_ ∨ _))

def Contains (a : α) (point : K) : Prop := low a ≤ point ∧ point ≤ high a

variable {low high}

theorem Apart.symm {a b : α} (h : Apart low high a b) : Apart low high b a := Or.symm h

instance : Std.Symm (Apart low high) := ⟨fun _ _ => Apart.symm⟩

theorem Apart.not_contains {a b : α} (h : Apart low high a b) {point : K}
    (ha : Contains low high a point) : ¬Contains low high b point := by
  intro hb
  rcases h with h | h
  · exact (hb.1.trans ha.2).not_gt h
  · exact (ha.1.trans hb.2).not_gt h

theorem apart_iff_disjoint {a b : α} (ha : low a ≤ high a) (hb : low b ≤ high b) :
    Apart low high a b ↔ Disjoint (Set.Icc (low a) (high a)) (Set.Icc (low b) (high b)) := by
  rw [Set.disjoint_left]
  constructor
  · intro h point hpoint hpoint'
    exact h.not_contains hpoint hpoint'
  · intro h
    by_contra hmeet
    rw [Apart, not_or, not_lt, not_lt] at hmeet
    rcases le_total (low a) (low b) with hlow | hlow
    · exact h ⟨hlow, hmeet.1⟩ ⟨le_rfl, hb⟩
    · exact h ⟨le_rfl, ha⟩ ⟨hlow, hmeet.2⟩

theorem pairwise_apart_of_isChain {xs : List α} (hproper : ∀ a ∈ xs, low a ≤ high a)
    (hchain : xs.IsChain fun a b => high a < low b) : xs.Pairwise (Apart low high) := by
  -- along the chain an interval ends before every later one begins
  have hbefore : xs.Pairwise fun a b => high a < low b := by
    induction xs with
    | nil => exact .nil
    | cons a rest ih =>
        have htail := ih (fun b hb => hproper b (List.mem_cons_of_mem a hb)) hchain.tail
        apply List.Pairwise.cons ?_ htail
        cases rest with
        | nil => simp
        | cons b rest =>
            have hab := (List.isChain_cons_cons.mp hchain).1
            intro c hc
            rcases List.mem_cons.mp hc with rfl | hc
            · exact hab
            · have hb := hproper b (List.mem_cons_of_mem a List.mem_cons_self)
              exact hab.trans (hb.trans_lt (List.rel_of_pairwise_cons htail hc))
  exact hbefore.imp Or.inl

theorem isChain_of_pairwise_apart {xs : List α} (hproper : ∀ a ∈ xs, low a ≤ high a)
    (hsorted : xs.Pairwise fun a b => low a ≤ low b) (hapart : xs.Pairwise (Apart low high)) :
    xs.IsChain fun a b => high a < low b := by
  apply List.Pairwise.isChain
  refine (hsorted.and hapart).imp_of_mem fun {a b} _ hb h => ?_
  rcases h.2 with hab | hba
  · exact hab
  · exact absurd (h.1.trans (hproper b hb)) (not_le.mpr hba)

/-- Sorting by the beginnings, proper intervals are apart if no neighbours meet. -/
theorem isChain_insertionSort_iff {xs : List α} (hproper : ∀ a ∈ xs, low a ≤ high a) :
    (xs.insertionSort fun a b => low a ≤ low b).IsChain (fun a b => high a < low b) ↔
      xs.Pairwise (Apart low high) := by
  have hperm := List.perm_insertionSort (fun a b => low a ≤ low b) xs
  have hsorted : ∀ a ∈ xs.insertionSort fun a b => low a ≤ low b, low a ≤ high a :=
    fun a ha => hproper a (hperm.mem_iff.mp ha)
  have hordered : (xs.insertionSort fun a b => low a ≤ low b).Pairwise
      fun a b => low a ≤ low b := by
    have : Std.Total fun a b : α => low a ≤ low b := ⟨fun a b => le_total (low a) (low b)⟩
    have : IsTrans α fun a b => low a ≤ low b := ⟨fun _ _ _ => le_trans⟩
    exact List.pairwise_insertionSort _ xs
  rw [← hperm.pairwise_iff Apart.symm]
  exact ⟨pairwise_apart_of_isChain hsorted, isChain_of_pairwise_apart hsorted hordered⟩

theorem eq_of_contains {xs : List α} (hapart : xs.Pairwise (Apart low high)) {a b : α}
    (ha : a ∈ xs) (hb : b ∈ xs) {point : K} (hpa : Contains low high a point)
    (hpb : Contains low high b point) : a = b := by
  by_contra hne
  exact (hapart.forall ha hb hne).not_contains hpa hpb

/-- Which interval contains a point does not depend on the order of the list. -/
theorem find?_contains_perm {xs ys : List α} (hperm : xs.Perm ys)
    (hapart : xs.Pairwise (Apart low high)) {p : α → Bool} {point : K}
    (hp : ∀ a, p a = true → Contains low high a point) : xs.find? p = ys.find? p := by
  apply List.find?_eq_find?_of_perm hperm
  rintro a ⟨ha, hpa⟩ b ⟨hb, hpb⟩
  exact eq_of_contains hapart ha hb (hp a hpa) (hp b hpb)

end Intervals

end Logistics.Library
