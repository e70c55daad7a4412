import Logistics.Auth.Gate
import Logistics.Branches.Service

/-!
# The main branch of a tenant

A registration stores a tenant with its main branch in one transaction. The
branches service clears the old main branch before it writes the new one, and
what it writes may be refused, may be inactive, or may be no main branch at all.
`KeepsMain` says when none of this happens; as long as it holds of every request,
every tenant has one main branch, which is active, and a request that fails
leaves the branches of every tenant as they were.
-/

namespace Logistics.Branches

open Logistics.Library Logistics.Auth

section

variable [Collation]

/-- Exactly one branch of the tenant is the main one, and it is active. -/
def HasOneMain (s : AuthStore) (tenantId : Id) : Prop :=
  ∃ branch ∈ s.branches.rows, branch.tenantId = tenantId ∧ branch.main = true ∧
    branch.active = true ∧ ∀ other ∈ s.branches.rows, other.tenantId = tenantId →
      other.main = true → other = branch

/-- Branches belong to registered tenants, each of which has one main branch. -/
structure MainBranches (s : AuthStore) : Prop where
  owned : ∀ row ∈ s.branches.rows, ∃ tenant ∈ s.tenants.rows, tenant.id = row.tenantId
  main : ∀ tenant ∈ s.tenants.rows, HasOneMain s tenant.id

def branchesOf (s : AuthStore) (tenantId : Id) : List Branch :=
  s.branches.rows.filter fun row => row.tenantId == tenantId

/-- Having one main branch is a matter of the branches of the tenant. -/
theorem HasOneMain.congr {s s' : AuthStore} {tenantId : Id} (h : HasOneMain s tenantId)
    (hsame : branchesOf s' tenantId = branchesOf s tenantId) : HasOneMain s' tenantId := by
  have hmem : ∀ row : Branch, row.tenantId = tenantId →
      (row ∈ s'.branches.rows ↔ row ∈ s.branches.rows) := by
    intro row hof
    have hiff : row ∈ branchesOf s' tenantId ↔ row ∈ branchesOf s tenantId := by rw [hsame]
    simpa [branchesOf, hof] using hiff
  obtain ⟨branch, hbranch, hof, hmain, hactive, honly⟩ := h
  refine ⟨branch, (hmem branch hof).mpr hbranch, hof, hmain, hactive, ?_⟩
  intro other hother hotherOf
  exact honly other ((hmem other hotherOf).mp hother) hotherOf

/-! ## The identity services -/

/-- A tenant is registered with its main branch, or neither table changes. -/
def Registers (s : AuthStore) (input : AuthInput) (s' : AuthStore) : Prop :=
  (s'.tenants = s.tenants ∧ s'.branches = s.branches) ∨
    ∃ tenant : Tenant, (∀ row ∈ s.tenants.rows, row.id ≠ tenant.id) ∧
      s'.tenants.rows = s.tenants.rows ++ [tenant] ∧
      s'.branches.rows = s.branches.rows ++ [mainBranchRow input tenant.id]

theorem apply_registers (w : Write) (s : AuthStore) (input : AuthInput) :
    Leaves (Registers s input) (w.apply s input) := by
  have hsame : Registers s input s := .inl ⟨rfl, rfl⟩
  cases w with
  | registerTenant data =>
      simp only [Write.apply, registerTenantRows, leaves_bind_iff, leaves_pure, orViolation_eq_ok]
      intro tenants htenants _ _ _ _ branches hbranches _ _ _ _
      refine .inr ⟨_, ?_, Table.tryInsert_rows htenants, Table.tryInsert_rows hbranches⟩
      intro row hrow hid
      exact Table.fresh_of_tryInsert htenants (.id (input.ids 1)) (by simp [Tenant.keys]) row hrow
        (by simp [Tenant.keys, hid])
  | updateUser id change =>
      simp only [Write.apply]
      split
      · exact leaves_error _
      · exact hsame
  | linkAccount | upsertOnboarding | completeOnboardingSettings | upsertInvitation =>
      simp only [Write.apply, linkAccountRows, upsertInvitationRows]
      split <;> simp only [leaves_bind_iff, leaves_pure, leaves_ok] <;> intros <;>
        exact .inl ⟨rfl, rfl⟩
  | _ =>
      simp only [Write.apply, confirmMfaRows, completeRegistrationRows, createIncompleteRows,
        acceptInvitationRows, leaves_bind_iff, leaves_pure, leaves_ok]
      intros
      exact .inl ⟨rfl, rfl⟩

theorem Registers.branchesOf {s s' : AuthStore} {input : AuthInput} (h : Registers s input s')
    {tenant : Tenant} (htenant : tenant ∈ s.tenants.rows) :
    branchesOf s' tenant.id = branchesOf s tenant.id := by
  obtain ⟨-, hbranches⟩ | ⟨new, hfresh, -, hbranches⟩ := h
  · rw [Branches.branchesOf, Branches.branchesOf, hbranches]
  · rw [Branches.branchesOf, hbranches]
    apply filter_append_of_false
    intro row hrow
    obtain rfl := List.mem_singleton.mp hrow
    exact beq_eq_false_iff_ne.mpr (hfresh tenant htenant).symm

theorem Registers.mainBranches {s s' : AuthStore} {input : AuthInput}
    (h : Registers s input s') (hs : MainBranches s) : MainBranches s' := by
  have hold : ∀ tenant ∈ s.tenants.rows, HasOneMain s' tenant.id := fun tenant htenant =>
    (hs.main tenant htenant).congr (h.branchesOf htenant)
  obtain ⟨htenants, hbranches⟩ | ⟨new, hfresh, htenants, hbranches⟩ := h
  · constructor
    · rw [htenants, hbranches]
      exact hs.owned
    · rw [htenants]
      exact hold
  · constructor
    · rw [htenants, hbranches]
      intro row hrow
      rcases List.mem_append.mp hrow with hrow | hadded
      · obtain ⟨tenant, htenant, hid⟩ := hs.owned row hrow
        exact ⟨tenant, List.mem_append_left _ htenant, hid⟩
      · obtain rfl := List.mem_singleton.mp hadded
        exact ⟨new, List.mem_append_right _ List.mem_cons_self, rfl⟩
    · rw [htenants]
      intro tenant htenant
      rcases List.mem_append.mp htenant with htenant | hadded
      · exact hold tenant htenant
      · obtain rfl := List.mem_singleton.mp hadded
        refine ⟨_, hbranches ▸ List.mem_append_right _ List.mem_cons_self, rfl, rfl, rfl, ?_⟩
        rw [hbranches]
        intro other hother hotherOf _
        rcases List.mem_append.mp hother with hother | hother
        · -- an older branch would belong to a tenant with this identifier
          obtain ⟨owner, howner, hid⟩ := hs.owned other hother
          exact absurd (hid.trans hotherOf) (hfresh owner howner)
        · exact List.mem_singleton.mp hother

/-! ## What a request may leave -/

/-- A request leaves one main branch to every tenant, and when it fails, the
branches of the tenants as they were. -/
structure Kept {α : Type} (s : AuthStore) (result : Except ServiceError α × AuthStore) :
    Prop where
  mainBranches : MainBranches result.2
  unchanged : ∀ error, result.1 = .error error → ∀ tenant ∈ s.tenants.rows,
    branchesOf result.2 tenant.id = branchesOf s tenant.id

section Kept

variable {α β : Type} {s : AuthStore}

theorem Kept.of_ok {s' : AuthStore} {a : α} (h : MainBranches s') :
    Kept s ((.ok a, s') : Except ServiceError α × AuthStore) :=
  ⟨h, fun error herror => by cases herror⟩

theorem Kept.of_same {s' : AuthStore} {x : Except ServiceError α} (hs : MainBranches s)
    (htenants : s'.tenants = s.tenants) (hbranches : s'.branches.rows = s.branches.rows) :
    Kept s (x, s') := by
  have hsame : ∀ tenantId, branchesOf s' tenantId = branchesOf s tenantId := by
    intro tenantId
    rw [branchesOf, hbranches, branchesOf]
  refine ⟨⟨?_, fun tenant htenant => ?_⟩, fun error _ tenant _ => hsame tenant.id⟩
  · rw [htenants, hbranches]
    exact hs.owned
  · rw [htenants] at htenant
    exact (hs.main tenant htenant).congr (hsame tenant.id)

end Kept

section Identity

variable (P : Platform)

theorem identity_kept {s : AuthStore} (hs : MainBranches s) (r : Auth.Request)
    (ω : ℕ → AuthInput) :
    Kept s ((handle P (.identity r)).run (branchSystem P).backend ω s) := by
  have hprogram : (handle P (.identity r)).Issues fun c => ∃ c', c = Sum.inl c' ∧ True := by
    change (Reply.identity <$> (Auth.handle P r).lift).Issues _
    rw [Program.issues_map_iff]
    exact Program.issues_lift (Program.issues_true _)
  have hwp : (handle P (.identity r)).wp (branchSystem P).backend
      (fun _ _ _ => True) (fun _ _ _ => True)
      (fun _ s' => MainBranches s' ∧ ∀ tenant ∈ s.tenants.rows, tenant ∈ s'.tenants.rows ∧
        branchesOf s' tenant.id = branchesOf s tenant.id) s := by
    apply Program.wp_of_issues hprogram
    · rintro _ ⟨c, rfl, -⟩ input s' ⟨hs', hsame⟩ _
      have hregisters : Registers s' input (execute c input s').2 :=
        execute_of_leaves (.inl ⟨rfl, rfl⟩) fun w _ => apply_registers w s' input
      refine ⟨trivial, hregisters.mainBranches hs', fun tenant htenant => ?_⟩
      obtain ⟨hstays, hbranches⟩ := hsame tenant htenant
      exact ⟨execute_tenants c input s' hstays, (hregisters.branchesOf hstays).trans hbranches⟩
    · exact ⟨hs, fun tenant htenant => ⟨htenant, rfl⟩⟩
  obtain ⟨hmain, hsame⟩ := Program.wp_run hwp (Program.along_true _ ω s)
  exact ⟨hmain, fun error _ tenant htenant => (hsame tenant htenant).2⟩

end Identity

/-! ## Rows under the calls -/

theorem branch_eq_of_id {s : AuthStore} {a b : Branch} (ha : a ∈ s.branches.rows)
    (hb : b ∈ s.branches.rows) (hid : a.id = b.id) : a = b :=
  s.branches.eq_of_key (k := .id a.id) ha hb (by simp [branchKeys]) (by simp [branchKeys, hid])

section Rows

variable {s s' : AuthStore} {f : Branch → Branch}

theorem owned_of_map (hs : MainBranches s) (htenants : s'.tenants = s.tenants)
    (hrows : s'.branches.rows = s.branches.rows.map f)
    (hf : ∀ row, (f row).tenantId = row.tenantId) :
    ∀ row ∈ s'.branches.rows, ∃ tenant ∈ s'.tenants.rows, tenant.id = row.tenantId := by
  rw [htenants, hrows]
  intro row hrow
  obtain ⟨old, hold, rfl⟩ := List.mem_map.mp hrow
  rw [hf]
  exact hs.owned old hold

theorem branchesOf_of_map {tenantId : Id} (hrows : s'.branches.rows = s.branches.rows.map f)
    (hf : ∀ row, (f row).tenantId = row.tenantId)
    (hfixed : ∀ row ∈ s.branches.rows, row.tenantId = tenantId → f row = row) :
    branchesOf s' tenantId = branchesOf s tenantId := by
  rw [branchesOf, hrows]
  apply filter_map_of_fixed
  · intro row _
    rw [hf]
  · intro row hrow hof
    exact hfixed row hrow (beq_iff_eq.mp hof)

end Rows

/-- What clearing the main branches makes of a row. -/
def cleared (now : Time) (tenantId : Id) (except : Option Id) (row : Branch) : Branch :=
  if isMainOf tenantId except row then clear now row else row

section Cleared

variable {now : Time} {tenantId : Id} {except : Option Id} {row : Branch}

theorem clearMain_rows (s : AuthStore) (now : Time) (tenantId : Id) (except : Option Id) :
    (clearMain s now tenantId except).branches.rows =
      s.branches.rows.map (cleared now tenantId except) := rfl

omit [Collation] in
@[simp] theorem cleared_id : (cleared now tenantId except row).id = row.id := by
  unfold cleared
  split <;> rfl

omit [Collation] in
@[simp] theorem cleared_tenantId :
    (cleared now tenantId except row).tenantId = row.tenantId := by
  unfold cleared
  split <;> rfl

omit [Collation] in
@[simp] theorem cleared_code : (cleared now tenantId except row).code = row.code := by
  unfold cleared
  split <;> rfl

omit [Collation] in
theorem cleared_of_ne (h : row.tenantId ≠ tenantId) : cleared now tenantId except row = row := by
  have hnot : isMainOf tenantId except row = false := by simp [isMainOf, h]
  rw [cleared, hnot]
  rfl

omit [Collation] in
theorem cleared_of_except : cleared now tenantId (some row.id) row = row := by
  have hnot : isMainOf tenantId (some row.id) row = false := by simp [isMainOf]
  rw [cleared, hnot]
  rfl

omit [Collation] in
theorem id_of_main_cleared (htenant : row.tenantId = tenantId)
    (hmain : (cleared now tenantId except row).main = true) : except = some row.id := by
  unfold cleared at hmain
  split at hmain
  · cases hmain
  · next hnot =>
    cases except with
    | none => simp [isMainOf, htenant, hmain] at hnot
    | some id =>
        have hid : row.id = id := by simpa [isMainOf, htenant, hmain] using hnot
        rw [hid]

end Cleared

/-- When the rows of one tenant change, the others keep their main branch. -/
theorem mainBranches_of_map {s s' : AuthStore} {f : Branch → Branch} (tenantId : Id)
    (hs : MainBranches s) (htenants : s'.tenants = s.tenants)
    (hrows : s'.branches.rows = s.branches.rows.map f)
    (hf : ∀ row, (f row).tenantId = row.tenantId)
    (hfixed : ∀ row ∈ s.branches.rows, row.tenantId ≠ tenantId → f row = row)
    (hmain : HasOneMain s' tenantId) : MainBranches s' where
  owned := owned_of_map hs htenants hrows hf
  main := by
    rw [htenants]
    intro tenant htenant
    by_cases hid : tenant.id = tenantId
    · rw [hid]
      exact hmain
    · apply (hs.main tenant htenant).congr
      apply branchesOf_of_map hrows hf
      intro row hrow hof
      exact hfixed row hrow (hof ▸ hid)

/-! ## Inserting a branch -/

section Insert

variable {s : AuthStore} {input : AuthInput} {tenantId : Id} {data : BranchData}

/-- No branch has the identifier, and none of the tenant has a code that the database takes
to be equal. -/
def IsFree (s : AuthStore) (tenantId id : Id) (code : String) : Prop :=
  ∀ row ∈ s.branches.rows, row.id ≠ id ∧ ¬(row.tenantId = tenantId ∧ collates row.code code)

def IsRegistered (s : AuthStore) (tenantId : Id) : Prop :=
  ∃ tenant ∈ s.tenants.rows, tenant.id = tenantId

theorem createBranch_cases (s : AuthStore) (input : AuthInput) (tenantId : Id)
    (data : BranchData) :
    (∃ error, executeBranches (.createBranch tenantId data) input s = (.error error, s)) ∨
      IsRegistered s tenantId ∧ ∃ branches,
        executeBranches (.createBranch tenantId data) input s =
          (.ok (branchRow input tenantId data), { s with branches }) ∧
        branches.rows = s.branches.rows ++ [branchRow input tenantId data] := by
  unfold executeBranches answer
  split
  · exact .inl ⟨_, rfl⟩
  · dsimp only
    split
    · next hregistered =>
      split
      · next branches hinsert =>
        rw [Bool.and_eq_true] at hregistered
        obtain ⟨tenant, htenant, hid⟩ := List.any_eq_true.mp hregistered.2
        exact .inr ⟨⟨tenant, htenant, beq_iff_eq.mp hid⟩, branches, rfl,
          Table.tryInsert_rows hinsert⟩
      · exact .inl ⟨_, rfl⟩
    · exact .inl ⟨_, rfl⟩

theorem createBranch_ok (data : BranchData) (hfault : input.fault = false)
    (hregistered : IsRegistered s tenantId) (hfits : data.fits = true)
    (hfree : IsFree s tenantId (input.ids 0) data.code) :
    ∃ branches, executeBranches (.createBranch tenantId data) input s =
      (.ok (branchRow input tenantId data), { s with branches }) ∧
        branches.rows = s.branches.rows ++ [branchRow input tenantId data] := by
  obtain ⟨branches, hinsert⟩ :
      ∃ branches, s.branches.tryInsert (branchRow input tenantId data) = some branches := by
    rw [Table.tryInsert_isSome_iff]
    refine ⟨by simp [branchKeys], fun key hkey row hrow hkey' => ?_⟩
    obtain ⟨hid, hcode⟩ := hfree row hrow
    simp only [branchKeys, List.mem_cons, List.not_mem_nil, or_false] at hkey hkey'
    rcases hkey with rfl | rfl
    · rcases hkey' with hsame | hsame
      · exact hid (BranchKey.id.inj hsame).symm
      · cases hsame
    · rcases hkey' with hsame | hsame
      · cases hsame
      · obtain ⟨htenant, hsame⟩ := BranchKey.code.inj hsame
        exact hcode ⟨htenant.symm, collates_iff.mpr hsame.symm⟩
  obtain ⟨tenant, htenant, hid⟩ := hregistered
  have hany : (s.tenants.rows.any fun tenant => tenant.id == tenantId) = true :=
    List.any_eq_true.mpr ⟨tenant, htenant, beq_iff_eq.mpr hid⟩
  refine ⟨branches, ?_, Table.tryInsert_rows hinsert⟩
  simp [executeBranches, answer, hfault, hfits, hany, hinsert]

theorem mainBranches_insert {s' : AuthStore} {row : Branch} (hs : MainBranches s)
    (hregistered : IsRegistered s row.tenantId) (hmain : row.main = false)
    (htenants : s'.tenants = s.tenants)
    (hrows : s'.branches.rows = s.branches.rows ++ [row]) : MainBranches s' := by
  constructor
  · rw [htenants, hrows]
    intro other hother
    rcases List.mem_append.mp hother with hother | hother
    · exact hs.owned other hother
    · obtain rfl := List.mem_singleton.mp hother
      exact hregistered
  · rw [htenants]
    intro tenant htenant
    obtain ⟨branch, hbranch, hof, hbranchMain, hactive, honly⟩ := hs.main tenant htenant
    refine ⟨branch, hrows ▸ List.mem_append_left _ hbranch, hof, hbranchMain, hactive, ?_⟩
    rw [hrows]
    intro other hother hotherOf hotherMain
    rcases List.mem_append.mp hother with hother | hother
    · exact honly other hother hotherOf hotherMain
    · obtain rfl := List.mem_singleton.mp hother
      rw [hmain] at hotherMain
      cases hotherMain

theorem mainBranches_insertMain {s' : AuthStore} {row : Branch} {now : Time}
    (hs : MainBranches s) (hregistered : IsRegistered s tenantId) (hof : row.tenantId = tenantId)
    (hmain : row.main = true) (hactive : row.active = true) (htenants : s'.tenants = s.tenants)
    (hrows : s'.branches.rows = (clearMain s now tenantId none).branches.rows ++ [row]) :
    MainBranches s' := by
  rw [clearMain_rows] at hrows
  subst hof
  constructor
  · rw [htenants, hrows]
    intro other hother
    rcases List.mem_append.mp hother with hother | hother
    · obtain ⟨old, hold, rfl⟩ := List.mem_map.mp hother
      rw [cleared_tenantId]
      exact hs.owned old hold
    · obtain rfl := List.mem_singleton.mp hother
      exact hregistered
  · rw [htenants]
    intro tenant htenant
    by_cases hid : tenant.id = row.tenantId
    · rw [hid]
      refine ⟨row, hrows ▸ List.mem_append_right _ List.mem_cons_self, rfl, hmain, hactive, ?_⟩
      rw [hrows]
      intro other hother hotherOf hotherMain
      rcases List.mem_append.mp hother with hother | hother
      · obtain ⟨old, -, rfl⟩ := List.mem_map.mp hother
        rw [cleared_tenantId] at hotherOf
        cases id_of_main_cleared hotherOf hotherMain
      · exact List.mem_singleton.mp hother
    · apply (hs.main tenant htenant).congr
      rw [branchesOf, hrows, filter_append_of_false]
      · apply filter_map_of_fixed
        · intro other _
          rw [cleared_tenantId]
        · intro other _ hof
          exact cleared_of_ne (beq_iff_eq.mp hof ▸ hid)
      · intro other hother
        obtain rfl := List.mem_singleton.mp hother
        exact beq_eq_false_iff_ne.mpr (Ne.symm hid)

end Insert

/-! ## Changing a branch -/

def atId (id : Id) (f : Branch → Branch) (row : Branch) : Branch :=
  if row.id == id then f row else row

section Change

variable {s s' : AuthStore} {current : Branch}

omit [Collation] in
theorem atId_self (f : Branch → Branch) (row : Branch) : atId row.id f row = f row := by
  rw [atId, if_pos (beq_self_eq_true _)]

omit [Collation] in
theorem atId_of_ne {id : Id} {f : Branch → Branch} {row : Branch} (h : row.id ≠ id) :
    atId id f row = row := by
  rw [atId, if_neg]
  simpa using h

omit [Collation] in
theorem atId_tenantId {id : Id} {f : Branch → Branch}
    (hf : ∀ row, (f row).tenantId = row.tenantId) (row : Branch) :
    (atId id f row).tenantId = row.tenantId := by
  unfold atId
  split
  · exact hf row
  · rfl

/-- No other branch of the tenant has a code that the database takes to be equal. -/
def IsFreeFor (s : AuthStore) (current : Branch) (code : String) : Prop :=
  ∀ row ∈ s.branches.rows, row.id ≠ current.id →
    ¬(row.tenantId = current.tenantId ∧ collates row.code code)

/-- The database takes the update of the branch, and does not break it off. -/
def Takes (s : AuthStore) (current : Branch) (data : BranchData) (input : AuthInput) : Prop :=
  IsFreeFor s current data.code ∧ data.fits = true ∧ input.fault = false

theorem updateBranch_cases (input : AuthInput) (data : BranchData)
    (hcurrent : current ∈ s.branches.rows) :
    (∃ error, executeBranches (.updateBranch current.id data) input s = (.error error, s) ∧
      ¬Takes s current data input) ∨
    Takes s current data input ∧ ∃ row branches,
      executeBranches (.updateBranch current.id data) input s = (.ok row, { s with branches }) ∧
        branches.rows = s.branches.rows.map (atId current.id (data.apply input.now)) := by
  have hfind : s.branches.rows.find? (fun row => row.id == current.id) = some current :=
    s.branches.find?_eq_some (k := .id current.id) hcurrent (by simp [branchKeys])
      fun row => by
        rw [beq_iff_eq]
        simp only [branchKeys, List.mem_cons, BranchKey.id.injEq, reduceCtorEq, List.not_mem_nil,
          or_false]
        exact eq_comm
  have hupdates : (∃ branches, s.branches.tryUpdate (fun row => row.id == current.id)
      (data.apply input.now) = some branches) ↔ IsFreeFor s current data.code := by
    rw [Table.tryUpdate_isSome_iff s.branches (k := .id current.id) hcurrent (by simp [branchKeys])]
    · constructor
      · rintro ⟨-, hfree⟩ row hrow hne ⟨htenant, hcode⟩
        have hrowNe : row ≠ current := fun hsame => hne (by rw [hsame])
        exact hfree (.code current.tenantId (Collation.weight data.code))
          (by simp [branchKeys, BranchData.apply]) row hrow hrowNe
          (by simp [branchKeys, htenant, collates_iff.mp hcode])
      · intro hfree
        refine ⟨by simp [branchKeys], fun key hkey row hrow hne hkey' => ?_⟩
        have hid : row.id ≠ current.id := fun hid => hne (branch_eq_of_id hrow hcurrent hid)
        simp only [branchKeys, List.mem_cons, List.not_mem_nil, or_false] at hkey hkey'
        rcases hkey with rfl | rfl
        · rcases hkey' with hsame | hsame
          · exact hid (BranchKey.id.inj hsame).symm
          · cases hsame
        · rcases hkey' with hsame | hsame
          · cases hsame
          · obtain ⟨htenant, hsame⟩ := BranchKey.code.inj hsame
            exact hfree row hrow hid ⟨htenant.symm, collates_iff.mpr hsame.symm⟩
    · intro row hrow
      rw [beq_iff_eq]
      exact ⟨fun hid => branch_eq_of_id hrow hcurrent hid, fun hrow => by rw [hrow]⟩
  unfold executeBranches answer
  split
  · next hfault =>
    refine .inl ⟨_, rfl, fun h => ?_⟩
    rw [h.2.2] at hfault
    cases hfault
  · next hfault =>
    simp only [hfind]
    split
    · next hfits =>
      split
      · next branches hupdate =>
        exact .inr ⟨⟨hupdates.mp ⟨branches, hupdate⟩, hfits, by simpa using hfault⟩, _, branches,
          rfl, Table.tryUpdate_rows hupdate⟩
      · next hrefused =>
        refine .inl ⟨_, rfl, fun h => ?_⟩
        obtain ⟨branches, hupdate⟩ := hupdates.mpr h.1
        rw [hrefused] at hupdate
        cases hupdate
    · next hlong => exact .inl ⟨_, rfl, fun h => hlong h.2.1⟩

theorem setActive_cases (s : AuthStore) (input : AuthInput) (id : Id) (active : Bool) :
    (∃ error, executeBranches (.setActive id active) input s = (.error error, s)) ∨
      input.fault = false ∧ ∃ row branches, executeBranches (.setActive id active) input s =
          (.ok row, { s with branches }) ∧
        branches.rows = s.branches.rows.map
          (atId id fun row => { row with active, updatedAt := input.now }) := by
  unfold executeBranches answer
  split
  · exact .inl ⟨_, rfl⟩
  · next hfault =>
    dsimp only
    split
    · exact .inl ⟨_, rfl⟩
    · exact .inr ⟨by simpa using hfault, _, _, rfl, rfl⟩

theorem mainBranches_update {data : BranchData} {now : Time} (hs : MainBranches s)
    (hcurrent : current ∈ s.branches.rows) (hmain : current.main = false)
    (hdata : data.main = false) (htenants : s'.tenants = s.tenants)
    (hrows : s'.branches.rows = s.branches.rows.map (atId current.id (data.apply now))) :
    MainBranches s' := by
  have htenant : ∀ row, (atId current.id (data.apply now) row).tenantId = row.tenantId :=
    atId_tenantId fun _ => rfl
  apply mainBranches_of_map current.tenantId hs htenants hrows htenant
  · intro row hrow hne
    exact atId_of_ne fun hid => hne (branch_eq_of_id hrow hcurrent hid ▸ rfl)
  · obtain ⟨owner, howner, hownerId⟩ := hs.owned current hcurrent
    obtain ⟨branch, hbranch, hof, hbranchMain, hactive, honly⟩ := hs.main owner howner
    have hfixed : ∀ row : Branch, row ∈ s.branches.rows → row.main = true →
        atId current.id (data.apply now) row = row := by
      intro row hrow hrowMain
      apply atId_of_ne
      intro hid
      obtain rfl := branch_eq_of_id hrow hcurrent hid
      rw [hmain] at hrowMain
      cases hrowMain
    have hstays := hfixed branch hbranch hbranchMain
    refine ⟨branch, ?_, hof.trans hownerId, hbranchMain, hactive, ?_⟩
    · rw [hrows]
      exact List.mem_map.mpr ⟨branch, hbranch, hstays⟩
    · rw [hrows]
      intro other hother hotherOf hotherMain
      obtain ⟨old, hold, rfl⟩ := List.mem_map.mp hother
      by_cases hid : old.id = current.id
      · obtain rfl := branch_eq_of_id hold hcurrent hid
        rw [atId_self] at hotherMain
        rw [show (data.apply now old).main = data.main from rfl, hdata] at hotherMain
        cases hotherMain
      · rw [atId_of_ne hid] at hotherOf hotherMain ⊢
        exact honly old hold (hotherOf.trans hownerId.symm) hotherMain

theorem mainBranches_updateMain {data : BranchData} {now now' : Time} (hs : MainBranches s)
    (hcurrent : current ∈ s.branches.rows) (hmain : data.main = true)
    (hactive : data.active = true) (htenants : s'.tenants = s.tenants)
    (hrows : s'.branches.rows =
      (clearMain s now current.tenantId (some current.id)).branches.rows.map
        (atId current.id (data.apply now'))) : MainBranches s' := by
  rw [clearMain_rows, List.map_map] at hrows
  have htenant : ∀ row, ((atId current.id (data.apply now') ∘
      cleared now current.tenantId (some current.id)) row).tenantId = row.tenantId := by
    intro row
    exact (atId_tenantId (f := data.apply now') (fun _ => rfl) _).trans cleared_tenantId
  apply mainBranches_of_map current.tenantId hs htenants hrows htenant
  · intro row hrow hne
    rw [Function.comp_apply, cleared_of_ne hne]
    exact atId_of_ne fun hid => hne (branch_eq_of_id hrow hcurrent hid ▸ rfl)
  · refine ⟨data.apply now' current, ?_, rfl, hmain, hactive, ?_⟩
    · rw [hrows]
      refine List.mem_map.mpr ⟨current, hcurrent, ?_⟩
      rw [Function.comp_apply, cleared_of_except, atId_self]
    · rw [hrows]
      intro other hother hotherOf hotherMain
      obtain ⟨old, hold, rfl⟩ := List.mem_map.mp hother
      rw [htenant] at hotherOf
      by_cases hid : old.id = current.id
      · obtain rfl := branch_eq_of_id hold hcurrent hid
        rw [Function.comp_apply, cleared_of_except, atId_self]
      · have hid' : (cleared now current.tenantId (some current.id) old).id ≠ current.id := by
          rw [cleared_id]
          exact hid
        rw [Function.comp_apply, atId_of_ne hid'] at hotherMain
        exact absurd (Option.some.inj (id_of_main_cleared hotherOf hotherMain)).symm hid

theorem mainBranches_setActive {now : Time} {active : Bool} (hs : MainBranches s)
    (hcurrent : current ∈ s.branches.rows) (hmain : current.main = true → active = true)
    (htenants : s'.tenants = s.tenants)
    (hrows : s'.branches.rows = s.branches.rows.map
      (atId current.id fun row => { row with active, updatedAt := now })) : MainBranches s' := by
  have htenant : ∀ row : Branch, (atId current.id
      (fun row => { row with active, updatedAt := now }) row).tenantId = row.tenantId :=
    atId_tenantId fun _ => rfl
  have hkeeps : ∀ row : Branch, (atId current.id
      (fun row => { row with active, updatedAt := now }) row).main = row.main := by
    intro row
    unfold atId
    split <;> rfl
  apply mainBranches_of_map current.tenantId hs htenants hrows htenant
  · intro row hrow hne
    exact atId_of_ne fun hid => hne (branch_eq_of_id hrow hcurrent hid ▸ rfl)
  · obtain ⟨owner, howner, hownerId⟩ := hs.owned current hcurrent
    obtain ⟨branch, hbranch, hof, hbranchMain, hactive, honly⟩ := hs.main owner howner
    refine ⟨_, hrows ▸ List.mem_map_of_mem hbranch, ?_, ?_, ?_, ?_⟩
    · rw [htenant, hof, hownerId]
    · rw [hkeeps, hbranchMain]
    · by_cases hid : branch.id = current.id
      · obtain rfl := branch_eq_of_id hbranch hcurrent hid
        rw [atId_self]
        exact hmain hbranchMain
      · rw [atId_of_ne hid]
        exact hactive
    · rw [hrows]
      intro other hother hotherOf hotherMain
      obtain ⟨old, hold, rfl⟩ := List.mem_map.mp hother
      rw [htenant] at hotherOf
      rw [hkeeps] at hotherMain
      rw [honly old hold (hotherOf.trans hownerId.symm) hotherMain]

end Change

/-! ## When a request keeps the main branches -/

/-- The main branch is replaced only by an active one, and only when the writes that
follow the clearing succeed; no update takes the flag from the main branch or
leaves it inactive; and the audit record of a change is written. -/
def KeepsMain (P : Platform) (r : Request) (ω : ℕ → AuthInput) (s : AuthStore) : Prop :=
  match r with
  | .identity _ => True
  | .create tenantId input =>
      input.main = some true → IsRegistered s tenantId → (ω 0).fault = false →
        input.active ≠ some false ∧ (ω 1).fault = false ∧
          (branchData P input (input.active.getD true)).fits = true ∧
          IsFree s tenantId ((ω 1).ids 0) (trim input.code)
  | .update tenantId _ id input =>
      (ω 0).fault = false → ∀ current ∈ s.branches.rows, current.id = id →
        current.tenantId = tenantId →
        let data := branchData P input (input.active.getD current.active)
        (input.main = some true → (ω 1).fault = false →
          (Takes s current data (ω 2) → data.active = true ∧ (ω 3).fault = false) ∧
          (¬Takes s current data (ω 2) → current.main = true)) ∧
        (input.main ≠ some true → Takes s current data (ω 1) →
          current.main = false ∧ (ω 2).fault = false)
  | .updateStatus tenantId _ id active =>
      (ω 0).fault = false → ∀ current ∈ s.branches.rows, current.id = id →
        current.tenantId = tenantId → (current.main = true → active = true) →
        (ω 1).fault = false → (ω 2).fault = false

section Requests

variable {P : Platform} {s s₀ : AuthStore} {ω : ℕ → AuthInput}

theorem Kept.map {α β : Type} {result : Except ServiceError α × AuthStore} (h : Kept s result)
    (f : α → β) : Kept s (result.1.map f, result.2) := by
  refine ⟨h.mainBranches, fun error herror => ?_⟩
  obtain ⟨x, s'⟩ := result
  cases x with
  | ok a => cases herror
  | error e => exact h.unchanged e rfl

/-- A request is followed along the answer of its next call. -/
theorem Kept.perform_bind {α : Type} {c : branchInterface.Command}
    {f : branchInterface.Result c → Program branchInterface α}
    (hok : ∀ a s₁, (branchSystem P).backend c (ω 0) s₀ = (.ok a, s₁) →
      Kept s ((f a).run (branchSystem P).backend (fun n => ω (n + 1)) s₁))
    (herror : ∀ e s₁, (branchSystem P).backend c (ω 0) s₀ = (.error e, s₁) →
      Kept s ((.error e, s₁) : Except ServiceError α × AuthStore)) :
    Kept s ((Program.perform c >>= f).run (branchSystem P).backend ω s₀) := by
  cases hanswer : (branchSystem P).backend c (ω 0) s₀ with
  | mk answer s₁ =>
      cases answer with
      | ok a =>
          rw [Program.run_perform_bind_ok hanswer]
          exact hok a s₁ hanswer
      | error e =>
          rw [Program.run_perform_bind_error hanswer]
          exact herror e s₁ hanswer

theorem clearMain_answer (tenantId : Id) (except : Option Id) (input : AuthInput) :
    executeBranches (.clearMain tenantId except) input s =
      if input.fault then (.error .fault, s)
      else (.ok (), clearMain s input.now tenantId except) := rfl

theorem findBranch_answer (id tenantId : Id) (input : AuthInput) :
    executeBranches (.findBranch id tenantId) input s =
      if input.fault then (.error .fault, s)
      else (.ok (s.branches.rows.find? fun row => row.id == id && row.tenantId == tenantId), s) :=
  rfl

omit [Collation] in
theorem lift_perform {I : Interface} {C : Type} {Result : C → Type} (c : I.Command) :
    ((Program.perform c).lift : Program (I.extend C Result) (I.Result c)) =
      @Program.perform (I.extend C Result) (.inl c) := by
  change Program.call _ _ = Program.call _ _
  congr 1
  funext answer
  cases answer <;> rfl

theorem recordAudit_answer {record : AuthAuditRecord} (hrecord : record.requestId = none)
    (input : AuthInput) :
    execute (.write (.recordAudit record)) input s =
      if input.fault then (.error .fault, s)
      else (.ok (), { s with auditLogs := s.auditLogs ++ [record] }) := by
  have hfits : requireFits 64 record.requestId = .ok () := by
    rw [hrecord]
    rfl
  simp only [execute, Write.apply, hfits]
  rfl

theorem Kept.recordChange_bind {α : Type} {tenantId actorId id : Id} {operation : String} {a : α}
    (hs : MainBranches s₀) (hfault : (ω 0).fault = false) :
    Kept s ((recordChange tenantId actorId id operation >>= fun _ => pure a).run
      (branchSystem P).backend ω s₀) := by
  rw [recordChange, recordAudit, lift_perform]
  apply Kept.perform_bind
  · intro _ s₁ hanswer
    change execute (.write (.recordAudit _)) (ω 0) s₀ = _ at hanswer
    rw [recordAudit_answer rfl, if_neg (by simp [hfault])] at hanswer
    obtain rfl := (Prod.mk.inj hanswer).2
    exact .of_ok ⟨hs.owned, hs.main⟩
  · intro e s₁ hanswer
    change execute (.write (.recordAudit _)) (ω 0) s₀ = _ at hanswer
    rw [recordAudit_answer rfl, if_neg (by simp [hfault])] at hanswer
    cases hanswer

theorem clearMain_rows_of_fixed {now : Time} {tenantId : Id} {except : Option Id}
    (h : ∀ row ∈ s.branches.rows, isMainOf tenantId except row = false) :
    (clearMain s now tenantId except).branches.rows = s.branches.rows := by
  rw [clearMain_rows]
  calc s.branches.rows.map (cleared now tenantId except) = s.branches.rows.map id := by
        apply List.map_congr_left
        intro row hrow
        rw [cleared, h row hrow]
        rfl
    _ = s.branches.rows := List.map_id _

theorem Kept.create_bind {tenantId : Id} {data : BranchData}
    (hok : ∀ branches,
      branches.rows = s₀.branches.rows ++ [branchRow (ω 0) tenantId data] →
      IsRegistered s₀ tenantId → MainBranches { s₀ with branches })
    (herror : ∀ error, executeBranches (.createBranch tenantId data) (ω 0) s₀ =
        (.error error, s₀) →
        Kept s ((.error error, s₀) : Except ServiceError BranchDto × AuthStore)) :
    Kept s ((call (.createBranch tenantId data) >>= fun branch => pure (presentBranch branch)).run
      (branchSystem P).backend ω s₀) := by
  have hcases := createBranch_cases s₀ (ω 0) tenantId data
  apply Kept.perform_bind
  · intro branch s₁ hanswer
    change executeBranches (.createBranch tenantId data) (ω 0) s₀ = _ at hanswer
    obtain ⟨error, hrun⟩ | ⟨hregistered, branches, hrun, hrows⟩ := hcases
    · rw [hrun] at hanswer
      cases hanswer
    · rw [hrun] at hanswer
      obtain rfl := (Prod.mk.inj hanswer).2
      exact .of_ok (hok branches hrows hregistered)
  · intro error s₁ hanswer
    change executeBranches (.createBranch tenantId data) (ω 0) s₀ = _ at hanswer
    obtain ⟨error', hrun⟩ | ⟨hregistered, branches, hrun, hrows⟩ := hcases
    · rw [hrun] at hanswer
      obtain ⟨herror', rfl⟩ := Prod.mk.inj hanswer
      obtain rfl := Except.error.inj herror'
      exact herror error' hrun
    · rw [hrun] at hanswer
      cases hanswer

theorem Kept.clear_bind {α : Type} (hs : MainBranches s) {tenantId : Id} {except : Option Id}
    {f : Unit → Program branchInterface α}
    (hok : (ω 0).fault = false → Kept s ((f ()).run (branchSystem P).backend
      (fun n => ω (n + 1)) (clearMain s (ω 0).now tenantId except))) :
    Kept s ((call (.clearMain tenantId except) >>= f).run (branchSystem P).backend ω s) := by
  apply Kept.perform_bind
  · intro a s₁ hanswer
    change executeBranches (.clearMain tenantId except) (ω 0) s = _ at hanswer
    rw [clearMain_answer] at hanswer
    split at hanswer
    · cases hanswer
    · next hfault =>
      obtain rfl := (Prod.mk.inj hanswer).2
      exact hok (by simpa using hfault)
  · intro error s₁ hanswer
    change executeBranches (.clearMain tenantId except) (ω 0) s = _ at hanswer
    rw [clearMain_answer] at hanswer
    split at hanswer
    · obtain rfl := (Prod.mk.inj hanswer).2
      exact .of_same hs rfl rfl
    · cases hanswer

theorem create_kept (hs : MainBranches s) {tenantId : Id} {input : CreateBranchDto}
    (h : KeepsMain P (.create tenantId input) ω s) :
    Kept s ((create P tenantId input).run (branchSystem P).backend ω s) := by
  unfold create
  by_cases hmain : input.main = some true
  · rw [if_pos hmain]
    apply Kept.clear_bind hs
    intro hfault
    apply Kept.create_bind
    · intro branches hrows hregistered
      obtain ⟨hactive, -, -⟩ := h hmain hregistered hfault
      refine mainBranches_insertMain hs ?_ ?_ ?_ ?_ rfl hrows
      · exact hregistered
      · rfl
      · simp [branchRow, branchData, hmain]
      · cases hgiven : input.active with
        | none => simp [branchRow, branchData]
        | some active =>
            have hnot : active ≠ false := fun hfalse => hactive (by rw [hgiven, hfalse])
            simpa [branchRow, branchData] using hnot
    · intro error hrefused
      by_cases hregistered : IsRegistered s tenantId
      · -- the insertion that follows the clearing succeeds
        obtain ⟨-, hfault', hfits, hfree⟩ := h hmain hregistered hfault
        have hfreeCleared : IsFree (clearMain s (ω 0).now tenantId none) tenantId
            ((ω 1).ids 0) (trim input.code) := by
          intro row hrow
          rw [clearMain_rows] at hrow
          obtain ⟨old, hold, rfl⟩ := List.mem_map.mp hrow
          rw [cleared_id, cleared_tenantId, cleared_code]
          exact hfree old hold
        obtain ⟨branches, hrun, -⟩ := createBranch_ok (s := clearMain s (ω 0).now tenantId none)
          (branchData P input (input.active.getD true)) hfault' hregistered hfits hfreeCleared
        rw [hrun] at hrefused
        cases hrefused
      · -- no branch belongs to the tenant, so none was cleared
        refine .of_same hs rfl (clearMain_rows_of_fixed fun row hrow => ?_)
        obtain ⟨tenant, htenant, hid⟩ := hs.owned row hrow
        have hother : row.tenantId ≠ tenantId := fun hsame =>
          hregistered ⟨tenant, htenant, hid.trans hsame⟩
        simp [isMainOf, hother]
  · rw [if_neg hmain]
    apply Kept.create_bind
    · intro branches hrows hregistered
      have hnot : input.main.getD false = false := by
        cases hgiven : input.main with
        | none => rfl
        | some main =>
            have hne : main ≠ true := fun htrue => hmain (by rw [hgiven, htrue])
            simpa using hne
      exact mainBranches_insert hs hregistered hnot rfl hrows
    · intro error _
      exact .of_same hs rfl rfl

theorem Kept.find_bind {α : Type} (hs : MainBranches s) {id tenantId : Id}
    {f : Option Branch → Program branchInterface α} (hnone : f none = .throw branchNotFound)
    (hsome : (ω 0).fault = false → ∀ current ∈ s.branches.rows, current.id = id →
      current.tenantId = tenantId →
        Kept s ((f (some current)).run (branchSystem P).backend (fun n => ω (n + 1)) s)) :
    Kept s ((call (.findBranch id tenantId) >>= f).run (branchSystem P).backend ω s) := by
  apply Kept.perform_bind
  · intro found s₁ hanswer
    change executeBranches (.findBranch id tenantId) (ω 0) s = _ at hanswer
    rw [findBranch_answer] at hanswer
    split at hanswer
    · cases hanswer
    · next hfault =>
      obtain ⟨hfound, rfl⟩ := Prod.mk.inj hanswer
      obtain rfl := Except.ok.inj hfound
      cases hfind : s.branches.rows.find? fun row => row.id == id && row.tenantId == tenantId with
      | none =>
          rw [hnone]
          exact .of_same hs rfl rfl
      | some current =>
          have hfields := List.find?_some hfind
          rw [Bool.and_eq_true, beq_iff_eq, beq_iff_eq] at hfields
          exact hsome (by simpa using hfault) current (List.mem_of_find?_eq_some hfind) hfields.1
            hfields.2
  · intro error s₁ hanswer
    change executeBranches (.findBranch id tenantId) (ω 0) s = _ at hanswer
    rw [findBranch_answer] at hanswer
    split at hanswer
    · obtain rfl := (Prod.mk.inj hanswer).2
      exact .of_same hs rfl rfl
    · cases hanswer

theorem Kept.update_bind {current : Branch} (hcurrent : current ∈ s₀.branches.rows)
    {data : BranchData} {tenantId actorId : Id}
    (hok : Takes s₀ current data (ω 0) → ∀ branches,
      branches.rows = s₀.branches.rows.map (atId current.id (data.apply (ω 0).now)) →
        (ω 1).fault = false ∧ MainBranches { s₀ with branches })
    (herror : ¬Takes s₀ current data (ω 0) → ∀ error,
      Kept s ((.error error, s₀) : Except ServiceError BranchDto × AuthStore)) :
    Kept s ((do
      let branch ← call (.updateBranch current.id data)
      recordChange tenantId actorId current.id "update"
      pure (presentBranch branch) : Program branchInterface BranchDto).run
        (branchSystem P).backend ω s₀) := by
  have hcases := updateBranch_cases (ω 0) data hcurrent
  apply Kept.perform_bind
  · intro branch s₁ hanswer
    change executeBranches (.updateBranch current.id data) (ω 0) s₀ = _ at hanswer
    obtain ⟨error, hrun, -⟩ | ⟨hupdates, row, branches, hrun, hrows⟩ := hcases
    · rw [hrun] at hanswer
      cases hanswer
    · rw [hrun] at hanswer
      obtain rfl := (Prod.mk.inj hanswer).2
      obtain ⟨hfault, hmain⟩ := hok hupdates branches hrows
      exact Kept.recordChange_bind hmain hfault
  · intro error s₁ hanswer
    change executeBranches (.updateBranch current.id data) (ω 0) s₀ = _ at hanswer
    obtain ⟨error', hrun, hrefused⟩ | ⟨hupdates, row, branches, hrun, hrows⟩ := hcases
    · rw [hrun] at hanswer
      obtain rfl := (Prod.mk.inj hanswer).2
      exact herror hrefused error
    · rw [hrun] at hanswer
      cases hanswer

theorem update_kept (hs : MainBranches s) {tenantId actorId id : Id} {input : CreateBranchDto}
    (h : KeepsMain P (.update tenantId actorId id input) ω s) :
    Kept s ((update P tenantId actorId id input).run (branchSystem P).backend ω s) := by
  apply Kept.find_bind hs rfl
  rintro hfault current hcurrent rfl rfl
  dsimp only
  obtain ⟨hreplaces, hchanges⟩ := h hfault current hcurrent rfl rfl
  by_cases hmain : input.main = some true
  · rw [if_pos hmain]
    apply Kept.clear_bind hs
    intro hfault'
    obtain ⟨hupdated, hrefused⟩ := hreplaces hmain hfault'
    have hstored : current ∈ (clearMain s (ω 1).now current.tenantId
        (some current.id)).branches.rows := by
      rw [clearMain_rows]
      exact List.mem_map.mpr ⟨current, hcurrent, cleared_of_except⟩
    have htakes : ∀ data, Takes (clearMain s (ω 1).now current.tenantId (some current.id)) current
        data (ω 2) ↔ Takes s current data (ω 2) := by
      intro data
      unfold Takes IsFreeFor
      rw [clearMain_rows]
      simp only [List.forall_mem_map, cleared_id, cleared_tenantId, cleared_code]
    apply Kept.update_bind hstored
    · intro htaken branches hrows
      obtain ⟨hactive, haudited⟩ := hupdated ((htakes _).mp htaken)
      refine ⟨haudited, mainBranches_updateMain hs hcurrent ?_ hactive rfl hrows⟩
      simp [branchData, hmain]
    · intro hnot error
      -- the branch was the main one already, so none was cleared
      have hcurrentMain := hrefused fun htaken => hnot ((htakes _).mpr htaken)
      refine .of_same hs rfl (clearMain_rows_of_fixed fun row hrow => ?_)
      obtain ⟨owner, howner, hid⟩ := hs.owned current hcurrent
      obtain ⟨branch, -, -, -, -, honly⟩ := hs.main owner howner
      by_cases hrowMain : row.tenantId = current.tenantId ∧ row.main = true
      · have hrowOnly := honly row hrow (hrowMain.1.trans hid.symm) hrowMain.2
        have hcurrentOnly := honly current hcurrent hid.symm hcurrentMain
        simp [isMainOf, hrowOnly, hcurrentOnly]
      · simp only [isMainOf, Bool.and_eq_false_iff, beq_eq_false_iff_ne]
        by_cases htenant : row.tenantId = current.tenantId
        · exact .inl (.inr (by simpa [htenant] using hrowMain))
        · exact .inl (.inl htenant)
  · rw [if_neg hmain]
    have hdata : input.main.getD false = false := by
      cases hgiven : input.main with
      | none => rfl
      | some main =>
          have hne : main ≠ true := fun htrue => hmain (by rw [hgiven, htrue])
          simpa using hne
    apply Kept.update_bind hcurrent
    · intro hupdates branches hrows
      obtain ⟨hcurrentMain, haudited⟩ := hchanges hmain hupdates
      exact ⟨haudited, mainBranches_update hs hcurrent hcurrentMain hdata rfl hrows⟩
    · intro _ error
      exact .of_same hs rfl rfl

theorem updateStatus_kept (hs : MainBranches s) {tenantId actorId id : Id} {active : Bool}
    (h : KeepsMain P (.updateStatus tenantId actorId id active) ω s) :
    Kept s ((updateStatus tenantId actorId id active).run (branchSystem P).backend ω s) := by
  apply Kept.find_bind hs rfl
  rintro hfault current hcurrent rfl rfl
  dsimp only
  unfold Program.throwIf
  by_cases hguard : active = false ∧ current.main = true
  · rw [if_pos hguard]
    exact .of_same hs rfl rfl
  · rw [if_neg hguard]
    have hmain : current.main = true → active = true := by
      intro hcurrentMain
      by_contra hnot
      exact hguard ⟨by simpa using hnot, hcurrentMain⟩
    have hcases := setActive_cases s (ω 1) current.id active
    apply Kept.perform_bind
    · intro branch s₁ hanswer
      change executeBranches (.setActive current.id active) (ω 1) s = _ at hanswer
      obtain ⟨error, hrun⟩ | ⟨hwritten, row, branches, hrun, hrows⟩ := hcases
      · rw [hrun] at hanswer
        cases hanswer
      · rw [hrun] at hanswer
        obtain rfl := (Prod.mk.inj hanswer).2
        have haudited := h hfault current hcurrent rfl rfl hmain hwritten
        exact Kept.recordChange_bind (mainBranches_setActive hs hcurrent hmain rfl hrows) haudited
    · intro error s₁ hanswer
      change executeBranches (.setActive current.id active) (ω 1) s = _ at hanswer
      obtain ⟨error', hrun⟩ | ⟨hwritten, row, branches, hrun, hrows⟩ := hcases
      · rw [hrun] at hanswer
        obtain rfl := (Prod.mk.inj hanswer).2
        exact .of_same hs rfl rfl
      · rw [hrun] at hanswer
        cases hanswer

theorem request_kept (hs : MainBranches s) {r : Request} (h : KeepsMain P r ω s) :
    Kept s ((handle P r).run (branchSystem P).backend ω s) := by
  cases r with
  | identity r => exact identity_kept P hs r ω
  | create tenantId input =>
      rw [handle, Program.run_map]
      exact (create_kept hs h).map _
  | update tenantId actorId id input =>
      rw [handle, Program.run_map]
      exact (update_kept hs h).map _
  | updateStatus tenantId actorId id active =>
      rw [handle, Program.run_map]
      exact (updateStatus_kept hs h).map _

end Requests

/-- In every run of requests to the identity services and the branches service that
keep the main branches, every request leaves each registered tenant exactly one
main branch, which is active, and a request that fails leaves the branches of
every tenant unchanged. -/
theorem main_branches_are_kept (P : Platform) (s : AuthStore) (hs : MainBranches s)
    (calls : List (Request × (ℕ → AuthInput)))
    (hcalls : (branchSystem P).AlongRuns (KeepsMain P) calls s) :
    (branchSystem P).AlongRuns
      (fun r ω before => Kept before ((handle P r).run (branchSystem P).backend ω before))
      calls s :=
  System.alongRuns_of_invariant (J := MainBranches)
    (fun _ _ _ hs h => (request_kept hs h).mainBranches) (fun _ _ _ hs h => request_kept hs h)
    calls s hs hcalls

end

/-! ## A registered tenant -/

attribute [local instance] foldCase

def branchInputs (start n : ℕ) : AuthInput where
  now := (start + n : ℕ)
  ids := fun k => toString (10 * (start + n) + k)
  fault := false
  bytes := fun _ => 97
  uuid := "uuid"
  locked := false
  identity := .error .fault

def registration : Request × (ℕ → AuthInput) :=
  (.identity (.registerTenant ⟨"Ana", "Acme", "ana@acme.com", "Senha-1234", "Senha-1234", true,
    true⟩ ⟨none, none, none⟩), branchInputs 0)

def registered : AuthStore :=
  (branchSystem plainPlatform).runCalls [registration] .empty

def newMain (code : String) : CreateBranchDto where
  name := "Segunda"
  code := code
  postalCode := none
  email := none
  phone := none
  complement := none
  country := none
  active := none
  street := none
  number := none
  district := none
  city := none
  state := none
  main := some true

instance (s : AuthStore) (tenantId : Id) : Decidable (HasOneMain s tenantId) := by
  unfold HasOneMain
  infer_instance

instance (s : AuthStore) (tenantId id : Id) (code : String) :
    Decidable (IsFree s tenantId id code) := by
  unfold IsFree
  infer_instance

theorem mainBranches_empty : MainBranches .empty := by
  constructor
  · intro row hrow
    cases hrow
  · intro tenant htenant
    cases htenant

/-- A tenant is registered and gets another main branch. -/
theorem main_branches_are_kept_newMain :
    HasOneMain ((branchSystem plainPlatform).runCalls
      [registration, (.create "31" (newMain "FILIAL"), branchInputs 100)] .empty) "31" := by
  have hkeeps : (branchSystem plainPlatform).AlongRuns (KeepsMain plainPlatform)
      [registration, (.create "31" (newMain "FILIAL"), branchInputs 100)] .empty := by
    refine ⟨trivial, fun _ _ _ => ⟨by decide, rfl, by decide +kernel, ?_⟩, trivial⟩
    change IsFree registered "31" "1010" "FILIAL"
    decide +kernel
  obtain ⟨-, hkept, -⟩ := main_branches_are_kept plainPlatform .empty mainBranches_empty _ hkeeps
  have htenant : ∃ tenant ∈ ((branchSystem plainPlatform).runCalls
      [registration, (.create "31" (newMain "FILIAL"), branchInputs 100)]
        .empty).tenants.rows, tenant.id = "31" := by
    decide +kernel
  obtain ⟨tenant, hstored, hid⟩ := htenant
  have hmain := hkept.mainBranches.main tenant hstored
  rw [hid] at hmain
  exact hmain

/-- A main branch whose code is taken is refused after the old main branch was
cleared: the tenant is left without one. -/
theorem a_refused_branch_leaves_no_main :
    (newMain "MATRIZ").isValid (fun _ => true) = true ∧ HasOneMain registered "31" ∧
      ((branchSystem plainPlatform).outcomes
        [(.create "31" (newMain "MATRIZ"), branchInputs 100)] registered).all
          (fun outcome => !outcome.isOk) = true ∧
      ¬HasOneMain ((branchSystem plainPlatform).runCalls
        [(.create "31" (newMain "MATRIZ"), branchInputs 100)] registered) "31" := by
  decide +kernel

end Logistics.Branches
