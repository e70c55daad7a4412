import Mathlib.Data.List.Nodup
import Mathlib.Data.List.Pairwise
import Mathlib.Data.List.Flatten
import Mathlib.Tactic.Common

/-!
# Tables with unique keys

A table is a list of rows in insertion order together with the proof that its
unique keys hold. `keys row` lists the key values of a row, tagged by the index
they belong to: the primary key, and every unique index whose columns are not
null. A null column contributes no key, so rows with a null key repeat freely.
A write that would break a key has no result.
-/

namespace Logistics.Library

theorem filter_append_of_false {α : Type} {p : α → Bool} {rows new : List α}
    (h : ∀ row ∈ new, p row = false) : (rows ++ new).filter p = rows.filter p := by
  have hnone : new.filter p = [] := by
    rw [List.filter_eq_nil_iff]
    intro row hrow
    rw [h row hrow]
    exact Bool.false_ne_true
  rw [List.filter_append, hnone, List.append_nil]

theorem filter_append_of_true {α : Type} {p : α → Bool} {rows new : List α}
    (hrows : ∀ row ∈ rows, p row = false) (hnew : ∀ row ∈ new, p row = true) :
    (rows ++ new).filter p = new := by
  have hnone : rows.filter p = [] := by
    rw [List.filter_eq_nil_iff]
    intro row hrow
    rw [hrows row hrow]
    exact Bool.false_ne_true
  rw [List.filter_append, hnone, List.nil_append, List.filter_eq_self.mpr hnew]

theorem filter_map_of_fixed {α : Type} {p : α → Bool} {f : α → α} {rows : List α}
    (hp : ∀ row ∈ rows, p (f row) = p row) (hf : ∀ row ∈ rows, p row = true → f row = row) :
    (rows.map f).filter p = rows.filter p := by
  have hsame : rows.filter (p ∘ f) = rows.filter p := List.filter_congr hp
  rw [List.filter_map, hsame]
  calc (rows.filter p).map f = (rows.filter p).map id := by
        apply List.map_congr_left
        intro row hrow
        rw [List.mem_filter] at hrow
        exact hf row hrow.1 hrow.2
    _ = rows.filter p := List.map_id _

structure Table (α κ : Type) (keys : α → List κ) where
  rows : List α
  distinct : (rows.flatMap keys).Nodup

namespace Table

variable {α κ : Type} {keys : α → List κ}

def empty : Table α κ keys := ⟨[], by simp⟩

theorem eq_of_key (t : Table α κ keys) {a b : α} {k : κ} (ha : a ∈ t.rows)
    (hb : b ∈ t.rows) (hka : k ∈ keys a) (hkb : k ∈ keys b) : a = b := by
  by_contra hab
  have hdisjoint := (List.nodup_flatMap.mp t.distinct).2
  have : Std.Symm (Function.onFun List.Disjoint keys) :=
    ⟨fun x y hxy k hx hy => hxy hy hx⟩
  have hpair := hdisjoint.forall ha hb hab
  exact hpair hka hkb

/-- A search that only a row with this key can answer finds that row. -/
theorem find?_eq_some_of_key (t : Table α κ keys) {a : α} {k : κ} {p : α → Bool}
    (ha : a ∈ t.rows) (hka : k ∈ keys a) (hpa : p a = true)
    (hp : ∀ b, p b = true → k ∈ keys b) : t.rows.find? p = some a := by
  cases hfind : t.rows.find? p with
  | none =>
      have hnone := List.find?_eq_none.mp hfind a ha
      exact absurd hpa hnone
  | some b =>
      have hb := List.mem_of_find?_eq_some hfind
      have hkb := hp b (List.find?_some hfind)
      rw [t.eq_of_key hb ha hkb hka]

theorem find?_eq_some (t : Table α κ keys) {a : α} {k : κ} {p : α → Bool}
    (ha : a ∈ t.rows) (hka : k ∈ keys a) (hp : ∀ b, p b = true ↔ k ∈ keys b) :
    t.rows.find? p = some a :=
  t.find?_eq_some_of_key ha hka ((hp a).mpr hka) fun b => (hp b).mp

theorem pairwise_of_key (t : Table α κ keys) {k : κ} {p : α → Bool}
    (hp : ∀ a, p a = true → k ∈ keys a) :
    t.rows.Pairwise fun a b => ¬(p a = true ∧ p b = true) :=
  (List.nodup_flatMap.mp t.distinct).2.imp fun hab ⟨ha, hb⟩ => hab (hp _ ha) (hp _ hb)

/-- At most one row has a given key. -/
theorem length_filter_le_one (t : Table α κ keys) (k : κ) (p : α → Bool)
    (hp : ∀ a ∈ t.rows, p a = true → k ∈ keys a) : (t.rows.filter p).length ≤ 1 := by
  have hdisjoint := (List.nodup_flatMap.mp t.distinct).2
  have hfilter := hdisjoint.filter p
  have hkey : ∀ a ∈ t.rows.filter p, k ∈ keys a := by
    intro a ha
    rw [List.mem_filter] at ha
    exact hp a ha.1 ha.2
  cases hrows : t.rows.filter p with
  | nil => simp
  | cons a rest =>
      rw [hrows] at hfilter hkey
      cases rest with
      | nil => simp
      | cons b rest =>
          have hab := List.rel_of_pairwise_cons hfilter List.mem_cons_self
          exact absurd (hkey b (by simp)) (hab (hkey a (by simp)))

section Write

variable [DecidableEq κ]

/-- Append a row, unless one of its keys is taken. -/
def tryInsert (t : Table α κ keys) (row : α) : Option (Table α κ keys) :=
  if h : (t.rows ++ [row]).flatMap keys |>.Nodup then some ⟨t.rows ++ [row], h⟩
  else none

theorem tryInsert_rows {t t' : Table α κ keys} {row : α}
    (h : t.tryInsert row = some t') : t'.rows = t.rows ++ [row] := by
  unfold tryInsert at h
  split at h
  · rw [← Option.some.inj h]
  · cases h

theorem tryInsert_isSome_iff (t : Table α κ keys) (row : α) :
    (∃ t', t.tryInsert row = some t') ↔
      (keys row).Nodup ∧ ∀ k ∈ keys row, ∀ a ∈ t.rows, k ∉ keys a := by
  have hkeys : ((t.rows ++ [row]).flatMap keys).Nodup ↔
      (keys row).Nodup ∧ ∀ k ∈ keys row, ∀ a ∈ t.rows, k ∉ keys a := by
    rw [List.flatMap_append, List.nodup_append]
    simp only [List.flatMap_cons, List.flatMap_nil, List.append_nil]
    constructor
    · rintro ⟨-, hrow, hdisjoint⟩
      refine ⟨hrow, fun k hk a ha hka => ?_⟩
      exact hdisjoint k (List.mem_flatMap.mpr ⟨a, ha, hka⟩) k hk rfl
    · rintro ⟨hrow, hfresh⟩
      refine ⟨t.distinct, hrow, ?_⟩
      rintro k hk k' hk' rfl
      obtain ⟨a, ha, hka⟩ := List.mem_flatMap.mp hk
      exact hfresh k hk' a ha hka
  unfold tryInsert
  rw [← hkeys]
  constructor
  · rintro ⟨t', h⟩
    by_contra hnot
    rw [dif_neg hnot] at h
    cases h
  · intro h
    exact ⟨_, dif_pos h⟩

/-- No key of an inserted row was taken. -/
theorem fresh_of_tryInsert {t t' : Table α κ keys} {row : α}
    (h : t.tryInsert row = some t') : ∀ k ∈ keys row, ∀ a ∈ t.rows, k ∉ keys a :=
  ((t.tryInsert_isSome_iff row).mp ⟨t', h⟩).2

/-- Append rows one after the other, unless a key is taken. -/
def tryInsertAll (t : Table α κ keys) (rows : List α) : Option (Table α κ keys) :=
  rows.foldlM tryInsert t

theorem tryInsertAll_rows {t t' : Table α κ keys} {rows : List α}
    (h : t.tryInsertAll rows = some t') : t'.rows = t.rows ++ rows := by
  induction rows generalizing t with
  | nil =>
      obtain rfl : t = t' := by simpa [tryInsertAll] using h
      rw [List.append_nil]
  | cons row rows ih =>
      rw [tryInsertAll, List.foldlM_cons] at h
      obtain ⟨t₁, hfirst, hrest⟩ := Option.bind_eq_some_iff.mp h
      rw [ih hrest, tryInsert_rows hfirst, List.append_assoc, List.singleton_append]

/-- Rewrite the rows selected by `p`, unless that breaks a key. -/
def tryUpdate (t : Table α κ keys) (p : α → Bool) (f : α → α) :
    Option (Table α κ keys) :=
  if h : (t.rows.map fun a => if p a then f a else a).flatMap keys |>.Nodup then
    some ⟨t.rows.map fun a => if p a then f a else a, h⟩
  else none

/-- A row is rewritten exactly when its new keys are distinct and no other row has
one of them. -/
theorem tryUpdate_isSome_iff (t : Table α κ keys) {p : α → Bool} {f : α → α} {a : α} {k : κ}
    (ha : a ∈ t.rows) (hka : k ∈ keys a) (hp : ∀ b ∈ t.rows, p b = true ↔ b = a) :
    (∃ t', t.tryUpdate p f = some t') ↔
      (keys (f a)).Nodup ∧ ∀ k ∈ keys (f a), ∀ b ∈ t.rows, b ≠ a → k ∉ keys b := by
  obtain ⟨before, after, hsplit⟩ := List.append_of_mem ha
  have hdistinct := t.distinct
  rw [hsplit, (List.perm_middle.flatMap_right keys).nodup_iff, List.flatMap_cons,
    List.nodup_append] at hdistinct
  obtain ⟨-, hothers, hapart⟩ := hdistinct
  have hother : ∀ b ∈ before ++ after, b ≠ a := by
    rintro b hb rfl
    exact hapart k hka k (List.mem_flatMap.mpr ⟨b, hb, hka⟩) rfl
  have hmem : ∀ b, b ∈ before ++ after ↔ b ∈ t.rows ∧ b ≠ a := by
    intro b
    rw [hsplit, List.perm_middle.mem_iff, List.mem_cons]
    constructor
    · exact fun hb => ⟨.inr hb, hother b hb⟩
    · rintro ⟨rfl | hb, hne⟩
      · exact absurd rfl hne
      · exact hb
  have hkept : ∀ b ∈ before ++ after, (if p b then f b else b) = b := by
    intro b hb
    obtain ⟨hrow, hne⟩ := (hmem b).mp hb
    exact if_neg fun hpb => hne ((hp b hrow).mp hpb)
  have hrewritten : (t.rows.map fun b => if p b then f b else b) = before ++ f a :: after := by
    rw [hsplit, List.map_append, List.map_cons, if_pos ((hp a ha).mpr rfl),
      List.map_congr_left fun b hb => hkept b (List.mem_append_left _ hb),
      List.map_congr_left fun b hb => hkept b (List.mem_append_right _ hb), List.map_id',
      List.map_id']
  have hkeys : ((t.rows.map fun b => if p b then f b else b).flatMap keys).Nodup ↔
      (keys (f a)).Nodup ∧ ∀ k ∈ keys (f a), ∀ b ∈ t.rows, b ≠ a → k ∉ keys b := by
    rw [hrewritten, (List.perm_middle.flatMap_right keys).nodup_iff, List.flatMap_cons,
      List.nodup_append]
    constructor
    · rintro ⟨hnodup, -, hfresh⟩
      refine ⟨hnodup, fun k hk b hb hne hkb => ?_⟩
      exact hfresh k hk k (List.mem_flatMap.mpr ⟨b, (hmem b).mpr ⟨hb, hne⟩, hkb⟩) rfl
    · rintro ⟨hnodup, hfresh⟩
      refine ⟨hnodup, hothers, ?_⟩
      rintro k hk k' hk' rfl
      obtain ⟨b, hb, hkb⟩ := List.mem_flatMap.mp hk'
      obtain ⟨hrow, hne⟩ := (hmem b).mp hb
      exact hfresh k hk b hrow hne hkb
  unfold tryUpdate
  rw [← hkeys]
  constructor
  · rintro ⟨t', h⟩
    by_contra hnot
    rw [dif_neg hnot] at h
    cases h
  · exact fun h => ⟨_, dif_pos h⟩

theorem tryUpdate_rows {t t' : Table α κ keys} {p : α → Bool} {f : α → α}
    (h : t.tryUpdate p f = some t') :
    t'.rows = t.rows.map fun a => if p a then f a else a := by
  unfold tryUpdate at h
  split at h
  · rw [← Option.some.inj h]
  · cases h

end Write

/-- Rewrite the rows selected by `p` without touching their keys. -/
def modify (t : Table α κ keys) (p : α → Bool) (f : α → α)
    (hf : ∀ a, keys (f a) = keys a) : Table α κ keys where
  rows := t.rows.map fun a => if p a then f a else a
  distinct := by
    have hkeys : (fun a => keys (if p a then f a else a)) = keys := by
      funext a
      split
      · exact hf a
      · rfl
    rw [List.flatMap_map, hkeys]
    exact t.distinct

@[simp] theorem modify_rows (t : Table α κ keys) (p : α → Bool) (f : α → α)
    (hf : ∀ a, keys (f a) = keys a) :
    (t.modify p f hf).rows = t.rows.map fun a => if p a then f a else a := rfl

def delete (t : Table α κ keys) (p : α → Bool) : Table α κ keys where
  rows := t.rows.filter fun a => !p a
  distinct := by
    have hsub : ((t.rows.filter fun a => !p a).flatMap keys).Sublist (t.rows.flatMap keys) :=
      List.filter_sublist.flatMap keys
    exact hsub.nodup t.distinct

@[simp] theorem delete_rows (t : Table α κ keys) (p : α → Bool) :
    (t.delete p).rows = t.rows.filter fun a => !p a := rfl

end Table

end Logistics.Library
