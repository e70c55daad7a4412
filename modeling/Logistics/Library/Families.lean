import Mathlib.Data.List.Pairwise
import Mathlib.Tactic.Common

/-!
# Families with one live member

A list of rows, each belonging to a family and live or not. `OneLive` says that
no family has two live rows and `Ended` that a family has none. Rewriting rows
keeps both as long as it moves no row to another family and revives none; a row
may join a family that has ended; and a row that is live is the only one, so a
rewriting that ends it ends its family.
-/

namespace Logistics.Library

variable {α φ : Type} {family : α → φ} {live : α → Bool}

def OneLive (family : α → φ) (live : α → Bool) (rows : List α) : Prop :=
  rows.Pairwise fun a b => live a = true → live b = true → family a ≠ family b

def Ended (family : α → φ) (live : α → Bool) (f : φ) (rows : List α) : Prop :=
  ∀ a ∈ rows, family a = f → live a = false

/-- The rewriting keeps every row in its family and revives none. -/
structure Rewrites (family : α → φ) (live : α → Bool) (g : α → α) : Prop where
  family_eq : ∀ a, family (g a) = family a
  live_of : ∀ a, live (g a) = true → live a = true

instance [DecidableEq φ] (rows : List α) : Decidable (OneLive family live rows) := by
  unfold OneLive
  infer_instance

theorem oneLive_nil : OneLive family live ([] : List α) := List.Pairwise.nil

theorem OneLive.map {g : α → α} (hg : Rewrites family live g) {rows : List α}
    (h : OneLive family live rows) : OneLive family live (rows.map g) := by
  rw [OneLive, List.pairwise_map]
  refine h.imp fun {a b} hab ha hb => ?_
  rw [hg.family_eq, hg.family_eq]
  exact hab (hg.live_of a ha) (hg.live_of b hb)

theorem Ended.map {g : α → α} (hg : Rewrites family live g) {f : φ} {rows : List α}
    (h : Ended family live f rows) : Ended family live f (rows.map g) := by
  intro b hb hf
  obtain ⟨a, ha, rfl⟩ := List.mem_map.mp hb
  rw [hg.family_eq] at hf
  by_contra hlive
  rw [Bool.not_eq_false] at hlive
  have hold := h a ha hf
  rw [hg.live_of a hlive] at hold
  cases hold

/-- Rewriting one row keeps it where it is, and revives it only where its family
has no other live row. -/
theorem OneLive.map_if {p : α → Bool} {f : α → α} {rows : List α} (h : OneLive family live rows)
    (hone : rows.Pairwise fun a b => ¬(p a = true ∧ p b = true))
    (hfamily : ∀ a, family (f a) = family a)
    (hrevive : ∀ a ∈ rows, p a = true → live (f a) = true → live a = true ∨
      ∀ b ∈ rows, p b = false → family b = family a → live b = false) :
    OneLive family live (rows.map fun a => if p a then f a else a) := by
  have halone : ∀ a ∈ rows, ∀ b ∈ rows, p a = true → p b = false → live (f a) = true →
      live b = true → (live a = true → live b = true → family a ≠ family b) →
        family a ≠ family b := by
    intro a ha b hb hpa hpb hfa hlive hab heq
    rcases hrevive a ha hpa hfa with hold | hothers
    · exact hab hold hlive heq
    · rw [hothers b hb hpb heq.symm] at hlive
      cases hlive
  rw [OneLive, List.pairwise_map]
  refine (h.and hone).imp_of_mem ?_
  rintro a b ha hb ⟨hab, hnot⟩ hlivea hliveb
  cases hpa : p a with
  | true =>
      cases hpb : p b with
      | true => exact absurd ⟨hpa, hpb⟩ hnot
      | false =>
          simp only [hpa, hpb, if_true, Bool.false_eq_true, if_false] at hlivea hliveb ⊢
          rw [hfamily]
          exact halone a ha b hb hpa hpb hlivea hliveb hab
  | false =>
      cases hpb : p b with
      | true =>
          simp only [hpa, hpb, if_true, Bool.false_eq_true, if_false] at hlivea hliveb ⊢
          rw [hfamily]
          exact (halone b hb a ha hpb hpa hliveb hlivea fun hb ha h => hab ha hb h.symm).symm
      | false =>
          simp only [hpa, hpb, Bool.false_eq_true, if_false] at hlivea hliveb ⊢
          exact hab hlivea hliveb

theorem OneLive.append_singleton {rows : List α} {b : α} (h : OneLive family live rows)
    (hended : Ended family live (family b) rows) : OneLive family live (rows ++ [b]) := by
  rw [OneLive, List.pairwise_append]
  refine ⟨h, List.pairwise_singleton _ b, fun a ha b' hb' => ?_⟩
  obtain rfl := List.mem_singleton.mp hb'
  intro hlive _ hfamily
  rw [hended a ha hfamily] at hlive
  cases hlive

theorem Ended.append_singleton {f : φ} {rows : List α} {b : α} (h : Ended family live f rows)
    (hb : family b ≠ f) : Ended family live f (rows ++ [b]) := by
  intro a ha hf
  rcases List.mem_append.mp ha with ha | ha
  · exact h a ha hf
  · obtain rfl := List.mem_singleton.mp ha
    exact absurd hf hb

theorem OneLive.eq_of_live {rows : List α} (h : OneLive family live rows) {a b : α}
    (ha : a ∈ rows) (hb : b ∈ rows) (hlivea : live a = true) (hliveb : live b = true)
    (hfamily : family a = family b) : a = b := by
  by_contra hne
  have hsymm : Std.Symm fun a b : α => live a = true → live b = true → family a ≠ family b :=
    ⟨fun x y hxy hy hx => (hxy hx hy).symm⟩
  exact h.forall ha hb hne hlivea hliveb hfamily

/-- Ending the live row of a family ends the family. -/
theorem OneLive.ended_map {g : α → α} (hg : Rewrites family live g) {rows : List α}
    (h : OneLive family live rows) {a : α} (ha : a ∈ rows) (hlive : live a = true)
    (hends : live (g a) = false) : Ended family live (family a) (rows.map g) := by
  intro c hc hf
  obtain ⟨b, hb, rfl⟩ := List.mem_map.mp hc
  rw [hg.family_eq] at hf
  by_contra hnot
  rw [Bool.not_eq_false] at hnot
  rw [h.eq_of_live hb ha (hg.live_of b hnot) hlive hf, hends] at hnot
  cases hnot

end Logistics.Library
