import Logistics.Library.Table

/-!
# Vouchers

Rows that are found by a secret and are good once: each has an identifier, the
hash of its secret and a mark that it was used. `Kept` says of two states of a
list of them that no voucher vanished or changed its secret and no mark was
taken back; marking and adding rows do so. A used voucher then stays used. Where a
new voucher takes the place of those its owner had, `OnlyLatest` holds.
-/

namespace Logistics.Library

/-- What makes a voucher of a row. -/
structure Voucher (α ι σ : Type) where
  id : α → ι
  secret : α → σ
  used : α → Bool

namespace Voucher

variable {α ι σ : Type} (v : Voucher α ι σ)

def Kept (rows rows' : List α) : Prop :=
  ∀ a ∈ rows, ∃ a' ∈ rows', v.id a' = v.id a ∧ v.secret a' = v.secret a ∧
    (v.used a = true → v.used a' = true)

def Used (id : ι) (rows : List α) : Prop :=
  ∃ a ∈ rows, v.id a = id ∧ v.used a = true

def unused [DecidableEq ι] (id : ι) (rows : List α) : Bool :=
  rows.all fun a => v.id a != id || !v.used a

def Stored (id : ι) (secret : σ) (rows : List α) : Prop :=
  ∃ a ∈ rows, v.id a = id ∧ v.secret a = secret

theorem kept_refl (rows : List α) : v.Kept rows rows :=
  fun a ha => ⟨a, ha, rfl, rfl, fun h => h⟩

theorem kept_append (rows new : List α) : v.Kept rows (rows ++ new) :=
  fun a ha => ⟨a, List.mem_append_left new ha, rfl, rfl, fun h => h⟩

variable {v}

theorem Kept.trans {rows rows' rows'' : List α} (h : v.Kept rows rows') (h' : v.Kept rows' rows'') :
    v.Kept rows rows'' := by
  intro a ha
  obtain ⟨a', ha', hid, hsecret, hused⟩ := h a ha
  obtain ⟨a'', ha'', hid', hsecret', hused'⟩ := h' a' ha'
  exact ⟨a'', ha'', hid'.trans hid, hsecret'.trans hsecret, fun h => hused' (hused h)⟩

theorem kept_map {p : α → Bool} {f : α → α} (hid : ∀ a, v.id (f a) = v.id a)
    (hsecret : ∀ a, v.secret (f a) = v.secret a) (hused : ∀ a, v.used (f a) = true)
    (rows : List α) : v.Kept rows (rows.map fun a => if p a then f a else a) := by
  intro a ha
  refine ⟨_, List.mem_map_of_mem ha, ?_⟩
  split
  · exact ⟨hid a, hsecret a, fun _ => hused a⟩
  · exact ⟨rfl, rfl, fun h => h⟩

theorem Kept.used {rows rows' : List α} (h : v.Kept rows rows') {id : ι}
    (hused : v.Used id rows) : v.Used id rows' := by
  obtain ⟨a, ha, rfl, hmark⟩ := hused
  obtain ⟨a', ha', hid, -, hkept⟩ := h a ha
  exact ⟨a', ha', hid, hkept hmark⟩

theorem not_used_of_unused [DecidableEq ι] {id : ι} {rows : List α}
    (h : v.unused id rows = true) : ¬v.Used id rows := by
  rintro ⟨a, ha, rfl, hused⟩
  have hunused := List.all_eq_true.mp h a ha
  simp [hused] at hunused

theorem Kept.stored {rows rows' : List α} (h : v.Kept rows rows') {id : ι} {secret : σ}
    (hstored : v.Stored id secret rows) : v.Stored id secret rows' := by
  obtain ⟨a, ha, rfl, rfl⟩ := hstored
  obtain ⟨a', ha', hid, hsecret, -⟩ := h a ha
  exact ⟨a', ha', hid, hsecret⟩

theorem used_map [DecidableEq ι] {f : α → α} (hid : ∀ a, v.id (f a) = v.id a)
    (hused : ∀ a, v.used (f a) = true) {rows : List α} {a : α} (ha : a ∈ rows) :
    v.Used (v.id a) (rows.map fun b => if v.id b == v.id a then f b else b) := by
  refine ⟨f a, List.mem_map.mpr ⟨a, ha, if_pos (beq_self_eq_true _)⟩, hid a, hused a⟩

/-- A secret that is a key of its table is that of one voucher. -/
theorem id_eq_of_stored {κ : Type} {keys : α → List κ} {t : Table α κ keys} {k : σ → κ}
    (hkey : ∀ a, k (v.secret a) ∈ keys a) {id id' : ι} {secret : σ}
    (h : v.Stored id secret t.rows) (h' : v.Stored id' secret t.rows) : id = id' := by
  obtain ⟨a, ha, rfl, rfl⟩ := h
  obtain ⟨a', ha', rfl, hsecret⟩ := h'
  have hsame : a = a' := t.eq_of_key ha ha' (hkey a) (hsecret ▸ hkey a')
  rw [hsame]

end Voucher

/-! ## One voucher for each owner -/

section Latest

variable {α κ : Type} {owner : α → Option κ} {used : α → Bool} {rows : List α}

/-- Of the vouchers of an owner all but the latest are used. -/
def OnlyLatest (owner : α → Option κ) (used : α → Bool) (rows : List α) : Prop :=
  rows.Pairwise fun earlier later =>
    ∀ k, owner earlier = some k → owner later = some k → used earlier = true

theorem OnlyLatest.map {f : α → α} (h : OnlyLatest owner used rows)
    (howner : ∀ a, owner (f a) = owner a) (hused : ∀ a, used a = true → used (f a) = true) :
    OnlyLatest owner used (rows.map f) := by
  apply List.pairwise_map.mpr
  refine List.Pairwise.imp (fun hpair k hearlier hlater => ?_) h
  rw [howner] at hearlier hlater
  exact hused _ (hpair k hearlier hlater)

/-- A new voucher of an owner whose others are used. -/
theorem OnlyLatest.append {a : α} (h : OnlyLatest owner used rows)
    (ha : ∀ b ∈ rows, ∀ k, owner b = some k → owner a = some k → used b = true) :
    OnlyLatest owner used (rows ++ [a]) := by
  apply List.pairwise_append.mpr
  refine ⟨h, List.pairwise_singleton _ _, fun b hb c hc => ?_⟩
  rw [List.mem_singleton.mp hc]
  exact ha b hb

theorem OnlyLatest.getLast?_eq [DecidableEq κ] (h : OnlyLatest owner used rows) {a : α} {k : κ}
    (ha : a ∈ rows) (howner : owner a = some k) (hunused : used a = false) :
    (rows.filter fun b => owner b == some k).getLast? = some a := by
  obtain ⟨before, after, rfl⟩ := List.append_of_mem ha
  have hafter : (after.filter fun b => owner b == some k) = [] := by
    apply List.filter_eq_nil_iff.mpr
    intro b hb hk
    have hpair := (List.pairwise_cons.mp (List.pairwise_append.mp h).2.1).1 b hb k howner
      (beq_iff_eq.mp hk)
    rw [hunused] at hpair
    cases hpair
  simp [howner, hafter]

end Latest

end Logistics.Library
