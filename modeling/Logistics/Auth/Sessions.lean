import Logistics.Auth.Execution
import Logistics.Library.Families

/-!
# Refresh tokens under the calls

`execute_refreshTokens` says all of what a call does to the refresh tokens: it
leaves them, revokes the rows a write selects, adds the first token of a
session, or rotates one: revokes it and adds its successor. A revoked token is
never live again, whatever is called.
-/

namespace Logistics.Auth

open Logistics.Library

def RefreshToken.live (row : RefreshToken) : Bool :=
  row.revokedAt.isNone

def Write.revokes : Write → RefreshToken → Bool
  | .revokeRefreshToken tokenId, row => row.id == tokenId
  | .revokeRefreshTokenFamily familyId, row => row.familyId == familyId && row.revokedAt.isNone
  | .revokeSession sessionId tenantId userId, row =>
      row.id == sessionId && row.tenantId == tenantId && row.userId == userId
  | .revokeSessions tenantId userId exceptHash, row =>
      row.tenantId == tenantId && row.userId == userId && row.revokedAt.isNone &&
        exceptHash.all (row.tokenHash != ·)
  | .changePassword userId tenantId _, row =>
      row.userId == userId && row.tenantId == tenantId && row.revokedAt.isNone
  | .resetPassword userId _ _, row => row.userId == userId && row.revokedAt.isNone
  | _, _ => false

def revokedRows (p : RefreshToken → Bool) (now : Time) (rows : List RefreshToken) :
    List RefreshToken :=
  rows.map fun row => if p row then row.revoke now else row

def rotatedRows (id : Id) (now : Time) (rows : List RefreshToken) : List RefreshToken :=
  rows.map fun row => if row.id == id then row.rotate now else row

theorem rewrites_revoke (p : RefreshToken → Bool) (now : Time) :
    Rewrites RefreshToken.familyId RefreshToken.live
      (fun row => if p row then row.revoke now else row) where
  family_eq row := by split <;> rfl
  live_of row hlive := by
    split at hlive
    · cases hlive
    · exact hlive

theorem rewrites_rotate (id : Id) (now : Time) :
    Rewrites RefreshToken.familyId RefreshToken.live
      (fun row => if row.id == id then row.rotate now else row) where
  family_eq row := by split <;> rfl
  live_of row hlive := by
    split at hlive
    · cases hlive
    · exact hlive

theorem orViolation_eq_ok {α : Type} {result : Option α} {a : α} :
    orViolation result = .ok a ↔ result = some a := by
  cases result <;> simp [orViolation]

theorem requireFits_eq_ok {limit : ℕ} {text : Option String} {u : Unit} :
    requireFits limit text = .ok u ↔ ∀ value ∈ text, value.length ≤ limit := by
  unfold requireFits
  cases text with
  | none => simp
  | some value => simp [fitsColumn]

theorem requireRow_eq_ok {α : Type} {rows : List α} {p : α → Bool} {u : Unit} :
    requireRow rows p = .ok u ↔ ∃ row ∈ rows, p row = true := by
  unfold requireRow
  split <;> simp_all

theorem tryInsert_of_modify {α κ : Type} {keys : α → List κ} [DecidableEq κ]
    {t t' : Table α κ keys} {p : α → Bool} {f : α → α} {hf : ∀ a, keys (f a) = keys a} {row : α}
    (h : (t.modify p f hf).tryInsert row = some t') :
    ∃ t'', t.tryInsert row = some t'' := by
  obtain ⟨hnodup, hfree⟩ := ((t.modify p f hf).tryInsert_isSome_iff row).mp ⟨t', h⟩
  refine (t.tryInsert_isSome_iff row).mpr ⟨hnodup, fun k hk a ha hka => ?_⟩
  have hkeys : keys (if p a then f a else a) = keys a := by
    split
    · exact hf a
    · rfl
  exact hfree k hk _ (List.mem_map_of_mem ha) (hkeys ▸ hka)

theorem revokedRows_of_none {w : Write} (h : ∀ row, w.revokes row = false) (now : Time)
    (rows : List RefreshToken) : revokedRows w.revokes now rows = rows := by
  simp [revokedRows, h]

variable [Collation]

/-- What a call does to the refresh tokens. -/
inductive TokenStep (c : Command) (input : AuthInput) (s s' : AuthStore) : Prop
  /-- The call reads, fails, or is outside the database. -/
  | same (h : s'.refreshTokens.rows = s.refreshTokens.rows)
      (hfails : ∀ w, c = .write w → ∃ error, (execute c input s).1 = .error error)
  | revoked (w : Write) (hw : c = .write w) (hfault : input.fault = false)
      (hkind : w.kind ≠ .createRefreshToken ∧ w.kind ≠ .rotateRefreshToken)
      (h : s'.refreshTokens.rows = revokedRows w.revokes input.now s.refreshTokens.rows)
  | created (data : RefreshTokenData) (hc : c = .write (.createRefreshToken data))
      (h : s'.refreshTokens.rows = s.refreshTokens.rows ++ [refreshTokenRow input data])
  | rotated (id : Id) (data : RefreshTokenData) (hc : c = .write (.rotateRefreshToken id data))
      (hfault : input.fault = false) (hfits : requireFits 255 data.userAgent = .ok ())
      (hfree : ∃ t, s.refreshTokens.tryInsert (refreshTokenRow input data) = some t)
      (hrow : ∃ row ∈ s.refreshTokens.rows, row.id = id)
      (hok : (execute c input s).1.isOk = true)
      (h : s'.refreshTokens.rows =
        rotatedRows id input.now s.refreshTokens.rows ++ [refreshTokenRow input data])

theorem apply_refreshTokens (w : Write) (s : AuthStore) (input : AuthInput)
    (hkind : w.kind ≠ .createRefreshToken ∧ w.kind ≠ .rotateRefreshToken) :
    Leaves (fun s' => s'.refreshTokens.rows = revokedRows w.revokes input.now s.refreshTokens.rows)
      (w.apply s input) := by
  cases w with
  | createRefreshToken => exact absurd rfl hkind.1
  | rotateRefreshToken => exact absurd rfl hkind.2
  | revokeRefreshToken | revokeRefreshTokenFamily | revokeSession | revokeSessions
  | changePassword | resetPassword =>
      simp only [Write.apply, leaves_bind_iff, leaves_pure, leaves_ok]
      intros
      rfl
  | updateUser id change =>
      rw [revokedRows_of_none fun _ => rfl, Write.apply]
      split
      · exact leaves_error _
      · rfl
  | linkAccount | upsertOnboarding | completeOnboardingSettings | upsertInvitation =>
      rw [revokedRows_of_none fun _ => rfl]
      simp only [Write.apply, linkAccountRows, upsertInvitationRows]
      split <;> simp only [leaves_bind_iff, leaves_pure, leaves_ok, implies_true]
  | _ =>
      rw [revokedRows_of_none fun _ => rfl]
      simp only [Write.apply, registerTenantRows, acceptInvitationRows, createIncompleteRows,
        completeRegistrationRows, confirmMfaRows, updateUsers, leaves_bind_iff,
        leaves_pure, leaves_ok, implies_true]

omit [Collation] in
/-- A write adds the first token of a session, rotates one, or does neither. -/
theorem Write.token_cases (w : Write) :
    (∃ data, w = .createRefreshToken data) ∨ (∃ id data, w = .rotateRefreshToken id data) ∨
      w.kind ≠ .createRefreshToken ∧ w.kind ≠ .rotateRefreshToken := by
  cases w with
  | updateUser id change => cases change <;> simp [Write.kind]
  | _ => simp [Write.kind]

theorem execute_write_eq {w : Write} {input : AuthInput} {s s' : AuthStore} {result : w.Result}
    (hfault : input.fault = false) (h : w.apply s input = .ok (result, s')) :
    execute (.write w) input s = (.ok result, s') := by
  simp [execute, hfault, h]

theorem execute_of_leaves {Q : AuthStore → Prop} {c : Command} {input : AuthInput} {s : AuthStore}
    (hs : Q s) (hw : ∀ w, c = .write w → Leaves Q (w.apply s input)) :
    Q (execute c input s).2 := by
  cases c with
  | query q => exact hs
  | external e => exact hs
  | write w =>
      by_cases hfault : input.fault = true
      · simpa [execute, hfault] using hs
      · rw [Bool.not_eq_true] at hfault
        have hleaves := hw w rfl
        cases happly : w.apply s input with
        | error error => simpa [execute, hfault, happly] using hs
        | ok answer =>
            rw [happly] at hleaves
            rw [execute_write_eq hfault happly]
            exact hleaves

theorem apply_of_write_ok {w : Write} {input : AuthInput} {s : AuthStore} {result : w.Result}
    (h : (execute (.write w) input s).1 = .ok result) :
    w.apply s input = .ok (result, (execute (.write w) input s).2) := by
  by_cases hfault : input.fault = true
  · simp [execute, hfault] at h
  · rw [Bool.not_eq_true] at hfault
    cases happly : w.apply s input with
    | error error => simp [execute, hfault, happly] at h
    | ok answer =>
        obtain ⟨result', s'⟩ := answer
        have hexecute := execute_write_eq hfault happly
        rw [hexecute] at h ⊢
        obtain rfl := Except.ok.inj h
        rfl

/-- What a call does to the refresh tokens, all of it. -/
theorem execute_refreshTokens (c : Command) (input : AuthInput) (s : AuthStore) :
    TokenStep c input s (execute c input s).2 := by
  cases c with
  | query q => exact .same rfl (by simp)
  | external e => exact .same rfl (by simp)
  | write w =>
      by_cases hfault : input.fault = true
      · exact .same (by simp [execute, hfault]) fun _ _ => ⟨.fault, by simp [execute, hfault]⟩
      · rw [Bool.not_eq_true] at hfault
        cases happly : w.apply s input with
        | error error =>
            exact .same (by simp [execute, hfault, happly])
              fun _ _ => ⟨error, by simp [execute, hfault, happly]⟩
        | ok answer =>
            obtain ⟨result, s'⟩ := answer
            have hexecute := execute_write_eq hfault happly
            obtain ⟨data, rfl⟩ | ⟨id, data, rfl⟩ | hkind := w.token_cases
            · simp only [Write.apply, Program.except_bind_eq_ok, orViolation_eq_ok] at happly
              obtain ⟨-, -, refreshTokens, hinsert, hresult⟩ := happly
              obtain rfl := congrArg Prod.snd (Except.ok.inj hresult)
              rw [hexecute]
              exact .created data rfl (Table.tryInsert_rows hinsert)
            · simp only [Write.apply, Program.except_bind_eq_ok, orViolation_eq_ok,
                requireRow_eq_ok] at happly
              obtain ⟨-, ⟨row, hrow, hid⟩, _, hfits, refreshTokens, hinsert, hresult⟩ := happly
              obtain rfl := congrArg Prod.snd (Except.ok.inj hresult)
              have hok :
                  (execute (.write (.rotateRefreshToken id data)) input s).1.isOk = true := by
                rw [hexecute]
                rfl
              rw [hexecute]
              exact .rotated id data rfl hfault hfits (tryInsert_of_modify hinsert)
                ⟨row, hrow, by simpa using hid⟩ hok (Table.tryInsert_rows hinsert)
            · have hleaves := apply_refreshTokens w s input hkind
              rw [happly] at hleaves
              rw [hexecute]
              exact .revoked w rfl hfault hkind hleaves

/-! ## What no call undoes -/

/-- The same token, at a later time: it keeps its identity and does not revive. -/
structure Later (row row' : RefreshToken) : Prop where
  id : row'.id = row.id
  familyId : row'.familyId = row.familyId
  tenantId : row'.tenantId = row.tenantId
  userId : row'.userId = row.userId
  tokenHash : row'.tokenHash = row.tokenHash
  live_of : row'.live = true → row.live = true

omit [Collation] in
theorem later_refl (row : RefreshToken) : Later row row := ⟨rfl, rfl, rfl, rfl, rfl, id⟩

omit [Collation] in
theorem later_revoke (p : RefreshToken → Bool) (now : Time) (row : RefreshToken) :
    Later row (if p row then row.revoke now else row) := by
  split
  · exact ⟨rfl, rfl, rfl, rfl, rfl, fun h => by cases h⟩
  · exact later_refl row

omit [Collation] in
theorem later_rotate (id : Id) (now : Time) (row : RefreshToken) :
    Later row (if row.id == id then row.rotate now else row) := by
  split
  · exact ⟨rfl, rfl, rfl, rfl, rfl, fun h => by cases h⟩
  · exact later_refl row

theorem exists_later_execute {s : AuthStore} {row : RefreshToken}
    (h : row ∈ s.refreshTokens.rows) (c : Command) (input : AuthInput) :
    ∃ row' ∈ (execute c input s).2.refreshTokens.rows, Later row row' := by
  cases execute_refreshTokens c input s with
  | same hrows => exact ⟨row, hrows ▸ h, later_refl row⟩
  | revoked w _ _ _ hrows =>
      exact ⟨_, hrows ▸ List.mem_map_of_mem h, later_revoke w.revokes input.now row⟩
  | created data _ hrows => exact ⟨row, hrows ▸ List.mem_append_left _ h, later_refl row⟩
  | rotated id data _ _ _ _ _ _ hrows =>
      exact ⟨_, hrows ▸ List.mem_append_left _ (List.mem_map_of_mem h),
        later_rotate id input.now row⟩

/-- A search that looks at what no call changes finds the same token later. -/
theorem find_execute {p : RefreshToken → Bool} (hp : ∀ a b, Later a b → p b = p a)
    {s : AuthStore} {row : RefreshToken} (h : s.refreshTokens.rows.find? p = some row)
    (c : Command) (input : AuthInput) :
    ∃ row', (execute c input s).2.refreshTokens.rows.find? p = some row' ∧ Later row row' := by
  have hmap : ∀ g : RefreshToken → RefreshToken, (∀ a, Later a (g a)) →
      (s.refreshTokens.rows.map g).find? p = some (g row) := by
    intro g hg
    have hsame : p ∘ g = p := funext fun a => hp a (g a) (hg a)
    rw [List.find?_map, hsame, h]
    rfl
  cases execute_refreshTokens c input s with
  | same hrows => exact ⟨row, hrows ▸ h, later_refl row⟩
  | revoked w _ _ _ hrows =>
      refine ⟨_, ?_, later_revoke w.revokes input.now row⟩
      rw [hrows]
      exact hmap _ (later_revoke w.revokes input.now)
  | created data _ hrows =>
      refine ⟨row, ?_, later_refl row⟩
      rw [hrows, List.find?_append, h]
      rfl
  | rotated id data _ _ _ _ _ _ hrows =>
      refine ⟨_, ?_, later_rotate id input.now row⟩
      rw [hrows, List.find?_append, rotatedRows, hmap _ (later_rotate id input.now)]
      rfl

omit [Collation] in
theorem Later.trans {a b c : RefreshToken} (hab : Later a b) (hbc : Later b c) : Later a c :=
  ⟨hbc.id.trans hab.id, hbc.familyId.trans hab.familyId, hbc.tenantId.trans hab.tenantId,
    hbc.userId.trans hab.userId, hbc.tokenHash.trans hab.tokenHash,
    fun h => hab.live_of (hbc.live_of h)⟩

theorem refreshToken_eq_of_id {s : AuthStore} {a b : RefreshToken}
    (ha : a ∈ s.refreshTokens.rows) (hb : b ∈ s.refreshTokens.rows) (hid : a.id = b.id) :
    a = b := by
  apply s.refreshTokens.eq_of_key ha hb (k := .id a.id)
  · simp [RefreshToken.keys]
  · simp [RefreshToken.keys, hid]

def RevokedToken (id : Id) (s : AuthStore) : Prop :=
  ∃ row ∈ s.refreshTokens.rows, row.id = id ∧ row.live = false

theorem revokedToken_execute {s : AuthStore} {id : Id} (h : RevokedToken id s) (c : Command)
    (input : AuthInput) : RevokedToken id (execute c input s).2 := by
  obtain ⟨row, hrow, hid, hdead⟩ := h
  obtain ⟨row', hrow', hlater⟩ := exists_later_execute hrow c input
  refine ⟨row', hrow', hlater.id.trans hid, ?_⟩
  by_contra hlive
  rw [Bool.not_eq_false] at hlive
  rw [hlater.live_of hlive] at hdead
  cases hdead

theorem RevokedToken.live_eq_false {s : AuthStore} {row : RefreshToken}
    (h : RevokedToken row.id s) (hrow : row ∈ s.refreshTokens.rows) : row.live = false := by
  obtain ⟨row', hrow', hid, hdead⟩ := h
  rw [refreshToken_eq_of_id hrow hrow' hid.symm]
  exact hdead

/-! ## Families -/

abbrev OneLiveToken (s : AuthStore) : Prop :=
  OneLive RefreshToken.familyId RefreshToken.live s.refreshTokens.rows

abbrev EndedFamily (familyId : Id) (s : AuthStore) : Prop :=
  Ended RefreshToken.familyId RefreshToken.live familyId s.refreshTokens.rows

/-- A new session starts a new family, and a rotation is of a live token, within
its family. -/
def KeepsFamilies (s : AuthStore) : Command → Prop
  | .write (.createRefreshToken data) =>
      ∀ row ∈ s.refreshTokens.rows, row.familyId ≠ data.familyId
  | .write (.rotateRefreshToken id data) =>
      ∀ row ∈ s.refreshTokens.rows, row.id = id →
        row.live = true ∧ row.familyId = data.familyId
  | _ => True

/-- Rotating a live token ends its family before the successor joins it. -/
theorem ended_rotatedRows {s : AuthStore} (h : OneLiveToken s) {row : RefreshToken}
    (hrow : row ∈ s.refreshTokens.rows) (hlive : row.live = true) (now : Time) :
    Ended RefreshToken.familyId RefreshToken.live row.familyId
      (rotatedRows row.id now s.refreshTokens.rows) := by
  refine OneLive.ended_map (rewrites_rotate row.id now) h hrow hlive ?_
  simp [RefreshToken.rotate, RefreshToken.live]

theorem oneLive_execute {s : AuthStore} (h : OneLiveToken s) {c : Command}
    (hc : KeepsFamilies s c) (input : AuthInput) : OneLiveToken (execute c input s).2 := by
  unfold OneLiveToken
  cases execute_refreshTokens c input s with
  | same hrows =>
      rw [hrows]
      exact h
  | revoked w _ _ _ hrows =>
      rw [hrows]
      exact h.map (rewrites_revoke w.revokes input.now)
  | created data hcommand hrows =>
      subst hcommand
      rw [hrows]
      exact h.append_singleton fun row hrow hfamily => absurd hfamily (hc row hrow)
  | rotated id data hcommand _ _ _ hrow _ hrows =>
      subst hcommand
      obtain ⟨row, hrow, rfl⟩ := hrow
      obtain ⟨hlive, hfamily⟩ := hc row hrow rfl
      rw [hrows]
      refine (h.map (rewrites_rotate row.id input.now)).append_singleton ?_
      have hended := ended_rotatedRows h hrow hlive input.now
      rw [hfamily] at hended
      exact hended

/-- A family that has ended, of which a token is stored. -/
structure OverFamily (familyId : Id) (s : AuthStore) : Prop where
  oneLive : OneLiveToken s
  ended : EndedFamily familyId s
  stored : ∃ row ∈ s.refreshTokens.rows, row.familyId = familyId

theorem overFamily_execute {s : AuthStore} {familyId : Id} (h : OverFamily familyId s)
    {c : Command} (hc : KeepsFamilies s c) (input : AuthInput) :
    OverFamily familyId (execute c input s).2 where
  oneLive := oneLive_execute h.oneLive hc input
  stored := by
    obtain ⟨row, hrow, hfamily⟩ := h.stored
    obtain ⟨row', hrow', hlater⟩ := exists_later_execute hrow c input
    exact ⟨row', hrow', hlater.familyId.trans hfamily⟩
  ended := by
    unfold EndedFamily
    cases execute_refreshTokens c input s with
    | same hrows =>
        rw [hrows]
        exact h.ended
    | revoked w _ _ _ hrows =>
        rw [hrows]
        exact h.ended.map (rewrites_revoke w.revokes input.now)
    | created data hcommand hrows =>
        subst hcommand
        obtain ⟨row, hrow, hfamily⟩ := h.stored
        rw [hrows]
        refine h.ended.append_singleton fun hnew => hc row hrow ?_
        exact hfamily.trans hnew.symm
    | rotated id data hcommand _ _ _ hrow _ hrows =>
        subst hcommand
        obtain ⟨row, hrow, rfl⟩ := hrow
        obtain ⟨hlive, hfamily⟩ := hc row hrow rfl
        rw [hrows]
        refine (h.ended.map (rewrites_rotate row.id input.now)).append_singleton fun hnew => ?_
        -- the rotated token is live, so its family is another one
        have hdead := h.ended row hrow (hfamily.trans hnew)
        rw [hlive] at hdead
        cases hdead

end Logistics.Auth
