import Logistics.Auth.Mfa
import Logistics.Auth.Rotation
import Logistics.Library.Vouchers

/-!
# One-time credentials

Password reset tokens, login challenges, recovery codes and completion tokens
are looked up among the unused rows and marked as used by a later write, which
selects the row by its identifier alone. Between the two any number of calls of
other requests happen. Each is used once as long as the writes that commit find
it still unused.
-/

namespace Logistics.Auth

open Logistics.Library

section

variable [Collation]

/-- A credential that is good once, by the identifier of its row. -/
inductive Credential
  | passwordReset (id : Id)
  | mfaChallenge (id : Id)
  | recoveryCode (id : Id)
  | completion (id : Id)
  deriving DecidableEq

def Write.uses : Write → Option Credential
  | .resetPassword _ resetId _ => some (.passwordReset resetId)
  | .useMfaChallenge id => some (.mfaChallenge id)
  | .useRecoveryCode id => some (.recoveryCode id)
  | .completeRegistration stateId _ _ => some (.completion stateId)
  | _ => none

def resetVoucher : Voucher PasswordResetToken Id String where
  id row := row.id
  secret row := row.tokenHash
  used row := row.usedAt.isSome

def challengeVoucher : Voucher MfaChallenge Id String where
  id row := row.id
  secret row := row.challengeTokenHash
  used row := row.usedAt.isSome

def codeVoucher : Voucher MfaRecoveryCode Id String where
  id row := row.id
  secret row := row.codeHash
  used row := row.usedAt.isSome

def stateVoucher : Voucher OAuthState Id String where
  id row := row.id
  secret row := row.stateHash
  used row := row.usedAt.isSome

def Credential.unused (s : AuthStore) : Credential → Bool
  | .passwordReset id => resetVoucher.unused id s.passwordResetTokens.rows
  | .mfaChallenge id => challengeVoucher.unused id s.mfaChallenges.rows
  | .recoveryCode id => codeVoucher.unused id s.mfaRecoveryCodes.rows
  | .completion id => stateVoucher.unused id s.oauthStates.rows

/-- A write that commits finds the credential that it uses up unused. -/
def UnusedAtUse (s : AuthStore) : authInterface.Command → AuthInput → Prop
  | .write w, input =>
      (execute (.write w) input s).1.isOk = true → w.uses.all (Credential.unused s) = true
  | _, _ => True

instance (s : AuthStore) (c : Command) (input : AuthInput) : Decidable (UnusedAtUse s c input) := by
  unfold UnusedAtUse
  split <;> infer_instance

def usesUp (credential : Credential) (e : Event authInterface) : Bool :=
  match e with
  | ⟨.write w, x⟩ => w.uses == some credential && x.isOk
  | _ => false

/-- New recovery codes do not take the identifiers of used ones. -/
def FreshRecoveryCodes (c : AuthConfig) (a : AuthAction) : Prop :=
  match c.nextCall a with
  | some (.write (.confirmMfa _ _ codeHashes), input) =>
      ∀ k < codeHashes.length, ∀ t ∈ c.threads, ∀ e ∈ t.history,
        usesUp (.recoveryCode (input.ids k)) e = false
  | _ => True

instance (c : AuthConfig) (a : AuthAction) : Decidable (FreshRecoveryCodes c a) := by
  unfold FreshRecoveryCodes
  split <;> infer_instance

/-! ## What the calls do to the rows -/

/-- The tokens, the challenges and the states are kept. -/
structure KeepsVouchers (s s' : AuthStore) : Prop where
  resets : resetVoucher.Kept s.passwordResetTokens.rows s'.passwordResetTokens.rows
  challenges : challengeVoucher.Kept s.mfaChallenges.rows s'.mfaChallenges.rows
  states : stateVoucher.Kept s.oauthStates.rows s'.oauthStates.rows

theorem keepsVouchers_of_eq {s s' : AuthStore}
    (hresets : s'.passwordResetTokens = s.passwordResetTokens)
    (hchallenges : s'.mfaChallenges = s.mfaChallenges) (hstates : s'.oauthStates = s.oauthStates) :
    KeepsVouchers s s' where
  resets := hresets ▸ Voucher.kept_refl _ _
  challenges := hchallenges ▸ Voucher.kept_refl _ _
  states := hstates ▸ Voucher.kept_refl _ _

omit [Collation] in
theorem kept_resets (p : PasswordResetToken → Bool) (now : Time)
    (rows : List PasswordResetToken) :
    resetVoucher.Kept rows
      (rows.map fun row => if p row then { row with usedAt := some now } else row) := by
  apply Voucher.kept_map <;> exact fun _ => rfl

omit [Collation] in
theorem kept_challenges (p : MfaChallenge → Bool) (now : Time) (rows : List MfaChallenge) :
    challengeVoucher.Kept rows
      (rows.map fun row => if p row then { row with usedAt := some now } else row) := by
  apply Voucher.kept_map <;> exact fun _ => rfl

omit [Collation] in
theorem kept_states (p : OAuthState → Bool) (now : Time) (rows : List OAuthState) :
    stateVoucher.Kept rows
      (rows.map fun row => if p row then { row with usedAt := some now } else row) := by
  apply Voucher.kept_map <;> exact fun _ => rfl

omit [Collation] in
theorem kept_completed (p : OAuthState → Bool) (tenantId : Id) (now : Time)
    (rows : List OAuthState) :
    stateVoucher.Kept rows (rows.map fun row =>
      if p row then { row with tenantId := some tenantId, usedAt := some now } else row) := by
  apply Voucher.kept_map <;> exact fun _ => rfl

theorem keepsVouchers_apply (w : Write) (s : AuthStore) (input : AuthInput) :
    Leaves (KeepsVouchers s) (w.apply s input) := by
  cases w with
  | resetPassword userId resetId passwordHash =>
      simp only [Write.apply, leaves_bind_iff, leaves_pure]
      intros
      exact ⟨kept_resets _ _ _, Voucher.kept_refl _ _, Voucher.kept_refl _ _⟩
  | requestPasswordReset userId tenantId emailHash tokenHash expiresAt =>
      simp only [Write.apply, leaves_bind_iff, leaves_pure, orViolation_eq_ok]
      intro passwordResetTokens hinsert
      refine ⟨?_, Voucher.kept_refl _ _, Voucher.kept_refl _ _⟩
      rw [Table.tryInsert_rows hinsert]
      exact (kept_resets _ _ _).trans (Voucher.kept_append _ _ _)
  | createMfaChallenge challengeTokenHash expiresAt tenantId userId =>
      simp only [Write.apply, leaves_bind_iff, leaves_pure, orViolation_eq_ok]
      intro mfaChallenges hinsert
      refine ⟨Voucher.kept_refl _ _, ?_, Voucher.kept_refl _ _⟩
      rw [Table.tryInsert_rows hinsert]
      exact Voucher.kept_append _ _ _
  | useMfaChallenge id =>
      simp only [Write.apply, leaves_bind_iff, leaves_pure]
      intros
      exact ⟨Voucher.kept_refl _ _, kept_challenges _ _ _, Voucher.kept_refl _ _⟩
  | resetMfa userId tenantId =>
      simp only [Write.apply, leaves_bind_iff, leaves_pure]
      intros
      exact ⟨Voucher.kept_refl _ _, kept_challenges _ _ _, Voucher.kept_refl _ _⟩
  | createOAuthState data =>
      simp only [Write.apply, leaves_bind_iff, leaves_pure, orViolation_eq_ok]
      intro row _ oauthStates hinsert
      refine ⟨Voucher.kept_refl _ _, Voucher.kept_refl _ _, ?_⟩
      rw [Table.tryInsert_rows hinsert]
      exact Voucher.kept_append _ _ _
  | useOAuthState id =>
      simp only [Write.apply, leaves_bind_iff, leaves_pure]
      intros
      exact ⟨Voucher.kept_refl _ _, Voucher.kept_refl _ _, kept_states _ _ _⟩
  | completeRegistration stateId userId tenantId =>
      simp only [Write.apply, completeRegistrationRows, leaves_bind_iff, leaves_pure]
      intros
      exact ⟨Voucher.kept_refl _ _, Voucher.kept_refl _ _, kept_completed _ _ _ _⟩
  | createIncompleteUser identity state =>
      simp only [Write.apply, createIncompleteRows, leaves_bind_iff, leaves_pure,
        orViolation_eq_ok]
      intro users _ oauthAccounts _ row _ oauthStates hinsert
      refine ⟨Voucher.kept_refl _ _, Voucher.kept_refl _ _, ?_⟩
      rw [Table.tryInsert_rows hinsert]
      exact Voucher.kept_append _ _ _
  | updateUser id change =>
      rw [Write.apply]
      split
      · exact leaves_error _
      · exact keepsVouchers_of_eq rfl rfl rfl
  | linkAccount | upsertOnboarding | completeOnboardingSettings | upsertInvitation =>
      simp only [Write.apply, linkAccountRows, upsertInvitationRows]
      split <;> simp only [leaves_bind_iff, leaves_pure, leaves_ok] <;> intros <;>
        exact keepsVouchers_of_eq rfl rfl rfl
  | _ =>
      simp only [Write.apply, registerTenantRows, acceptInvitationRows, confirmMfaRows,
        updateUsers, revokeTokens, leaves_bind_iff, leaves_pure, leaves_ok]
      intros
      exact keepsVouchers_of_eq rfl rfl rfl

theorem keepsVouchers_execute (c : Command) (input : AuthInput) (s : AuthStore) :
    KeepsVouchers s (execute c input s).2 :=
  execute_of_leaves (keepsVouchers_of_eq rfl rfl rfl) fun w _ => keepsVouchers_apply w s input

/-- An unused recovery code was there before, or the confirmation of MFA has just
drawn it. -/
theorem unusedCodes_apply (w : Write) (s : AuthStore) (input : AuthInput) :
    Leaves (fun s' => ∀ row ∈ s'.mfaRecoveryCodes.rows, row.usedAt = none →
      row ∈ s.mfaRecoveryCodes.rows ∨ ∃ userId tenantId codeHashes k,
        w = .confirmMfa userId tenantId codeHashes ∧ k < codeHashes.length ∧
          row.id = input.ids k) (w.apply s input) := by
  cases w with
  | useRecoveryCode id =>
      simp only [Write.apply, leaves_bind_iff, leaves_pure]
      intro _ _ row hrow hunused
      obtain ⟨row', hrow', rfl⟩ := List.mem_map.mp hrow
      split at hunused
      · cases hunused
      · next hother =>
          rw [if_neg hother]
          exact .inl hrow'
  | confirmMfa userId tenantId codeHashes =>
      simp only [Write.apply, confirmMfaRows, leaves_bind_iff, leaves_pure, orViolation_eq_ok]
      intro _ _ mfaRecoveryCodes hinsert row hrow hunused
      rw [Table.tryInsertAll_rows hinsert] at hrow
      rcases List.mem_append.mp hrow with hrow | hrow
      · exact .inl (List.mem_of_mem_filter hrow)
      · obtain ⟨k, hk, rfl⟩ := List.mem_mapIdx.mp hrow
        exact .inr ⟨userId, tenantId, codeHashes, k, rfl, hk, rfl⟩
  | disableMfa | resetMfa =>
      simp only [Write.apply, leaves_bind_iff, leaves_pure]
      intro _ _ row hrow _
      exact .inl (List.mem_of_mem_filter hrow)
  | updateUser id change =>
      rw [Write.apply]
      split
      · exact leaves_error _
      · exact fun row hrow _ => .inl hrow
  | linkAccount | upsertOnboarding | completeOnboardingSettings | upsertInvitation =>
      simp only [Write.apply, linkAccountRows, upsertInvitationRows]
      split <;> simp only [leaves_bind_iff, leaves_pure, leaves_ok] <;> intros <;>
        exact .inl ‹_›
  | _ =>
      simp only [Write.apply, registerTenantRows, acceptInvitationRows, createIncompleteRows,
        completeRegistrationRows, updateUsers, revokeTokens, leaves_bind_iff, leaves_pure,
        leaves_ok]
      intros
      exact .inl ‹_›

/-! ## A used credential stays used -/

/-- The credential was used. A recovery code may be gone since. -/
def Credential.Spent (s : AuthStore) : Credential → Prop
  | .passwordReset id => resetVoucher.Used id s.passwordResetTokens.rows
  | .mfaChallenge id => challengeVoucher.Used id s.mfaChallenges.rows
  | .recoveryCode id => ∀ row ∈ s.mfaRecoveryCodes.rows, row.id = id → row.usedAt ≠ none
  | .completion id => stateVoucher.Used id s.oauthStates.rows

theorem spent_execute {credential : Credential} {s : AuthStore} (h : credential.Spent s)
    (c : Command) (input : AuthInput)
    (hfresh : ∀ userId tenantId codeHashes k, c = .write (.confirmMfa userId tenantId codeHashes) →
      k < codeHashes.length → credential ≠ .recoveryCode (input.ids k)) :
    credential.Spent (execute c input s).2 := by
  have hkept := keepsVouchers_execute c input s
  cases credential with
  | passwordReset id => exact hkept.resets.used h
  | mfaChallenge id => exact hkept.challenges.used h
  | completion id => exact hkept.states.used h
  | recoveryCode id =>
      refine execute_of_leaves (Q := fun s' => Credential.Spent s' (.recoveryCode id)) h
        fun w hw => ?_
      have hcodes := unusedCodes_apply w s input
      cases happly : w.apply s input with
      | error error => trivial
      | ok answer =>
          rw [happly] at hcodes
          intro row hrow hid hunused
          obtain hbefore | ⟨userId, tenantId, codeHashes, k, rfl, hk, hdrawn⟩ :=
            hcodes row hrow hunused
          · exact h row hbefore hid hunused
          · exact hfresh userId tenantId codeHashes k hw hk (by rw [← hid, hdrawn])

theorem spent_of_use {credential : Credential} {w : Write} {input : AuthInput} {s : AuthStore}
    (huses : w.uses = some credential) (hok : (execute (.write w) input s).1.isOk = true)
    (hunused : credential.unused s = true) :
    ¬credential.Spent s ∧ credential.Spent (execute (.write w) input s).2 := by
  obtain ⟨result, hresult⟩ : ∃ result, (execute (.write w) input s).1 = .ok result := by
    cases hexecute : (execute (.write w) input s).1 with
    | ok result => exact ⟨result, rfl⟩
    | error error =>
        rw [hexecute] at hok
        cases hok
  have happly := apply_of_write_ok hresult
  cases w with
  | resetPassword userId resetId passwordHash =>
      obtain rfl := Option.some.inj huses
      simp only [Write.apply, Program.except_bind_eq_ok, requireRow_eq_ok, beq_iff_eq] at happly
      obtain ⟨-, -, -, ⟨row, hrow, rfl⟩, hstore⟩ := happly
      rw [← congrArg Prod.snd (Except.ok.inj hstore)]
      exact ⟨Voucher.not_used_of_unused hunused, Voucher.used_map (v := resetVoucher)
        (f := fun row => { row with usedAt := some input.now }) (fun _ => rfl) (fun _ => rfl) hrow⟩
  | useMfaChallenge id =>
      obtain rfl := Option.some.inj huses
      simp only [Write.apply, Program.except_bind_eq_ok, requireRow_eq_ok, beq_iff_eq] at happly
      obtain ⟨-, ⟨row, hrow, rfl⟩, hstore⟩ := happly
      rw [← congrArg Prod.snd (Except.ok.inj hstore)]
      exact ⟨Voucher.not_used_of_unused hunused, Voucher.used_map (v := challengeVoucher)
        (f := fun row => { row with usedAt := some input.now }) (fun _ => rfl) (fun _ => rfl) hrow⟩
  | useRecoveryCode id =>
      obtain rfl := Option.some.inj huses
      simp only [Write.apply, Program.except_bind_eq_ok, requireRow_eq_ok, beq_iff_eq] at happly
      obtain ⟨-, ⟨row, hrow, rfl⟩, hstore⟩ := happly
      rw [← congrArg Prod.snd (Except.ok.inj hstore)]
      refine ⟨fun hspent => ?_, fun row' hrow' hid hnone => ?_⟩
      · exact Voucher.not_used_of_unused hunused
          ⟨row, hrow, rfl, Option.isSome_iff_ne_none.mpr (hspent row hrow rfl)⟩
      · obtain ⟨before, -, rfl⟩ := List.mem_map.mp hrow'
        split at hnone
        · cases hnone
        · next hother =>
            rw [if_neg hother] at hid
            simp [hid] at hother
  | completeRegistration stateId userId tenantId =>
      obtain rfl := Option.some.inj huses
      simp only [Write.apply, completeRegistrationRows, Program.except_bind_eq_ok,
        requireRow_eq_ok, beq_iff_eq] at happly
      obtain ⟨-, -, users, -, accounts, -, -, ⟨row, hrow, rfl⟩, hstore⟩ := happly
      rw [← congrArg Prod.snd (Except.ok.inj hstore)]
      exact ⟨Voucher.not_used_of_unused hunused, Voucher.used_map (v := stateVoucher)
        (f := fun row => { row with tenantId := some tenantId, usedAt := some input.now })
        (fun _ => rfl) (fun _ => rfl) hrow⟩
  | _ => cases huses

/-- Whatever is called in between, a credential is used up at most once. -/
theorem uses_le_one (P : Platform) (credential : Credential) (s : AuthStore)
    (acts : List AuthAction)
    (hunused : (authSystem P).AlongActions (CallCondition UnusedAtUse) (Config.initial s) acts)
    (hfresh : (authSystem P).AlongActions FreshRecoveryCodes (Config.initial s) acts) :
    ((authSystem P).runActions (Config.initial s) acts).eventCount (usesUp credential) ≤ 1 := by
  refine (authSystem P).eventCount_run_le_one credential.Spent
    (P := fun c a => CallCondition UnusedAtUse c a ∧ FreshRecoveryCodes c a) ?_ ?_ acts s
    ((authSystem P).alongActions_and acts _ hunused hfresh)
  · rintro c a cmd input ⟨-, hfresh⟩ hcall ⟨t, ht, e, he, hused⟩ hspent
    refine spent_execute hspent cmd input ?_
    rintro userId tenantId codeHashes k rfl hk rfl
    rw [FreshRecoveryCodes, hcall] at hfresh
    have hnot := hfresh k hk t ht e he
    rw [hused] at hnot
    cases hnot
  · rintro c a cmd input ⟨hunused, -⟩ hcall huse
    rw [CallCondition, hcall] at hunused
    cases cmd with
    | query q => cases huse
    | external e => cases huse
    | write w =>
        obtain ⟨huses, hok⟩ := Bool.and_eq_true_iff.mp huse
        rw [beq_iff_eq] at huses
        have hall := hunused hok
        rw [huses] at hall
        exact spent_of_use huses hok hall

/-! ## Tokens -/

/-- The one-time token that a request presents. -/
inductive OneTimeToken
  | passwordReset (token : String)
  | mfaChallenge (token : String)
  | completion (token : String)

def Request.presents : Request → Option OneTimeToken
  | .resetPassword dto _ => some (.passwordReset dto.token)
  | .verifyMfaLogin dto _ => some (.mfaChallenge dto.challengeToken)
  | .completeOAuthRegistration token _ => some (.completion token)
  | _ => none

/-- A token stored under this hash was found with this identifier. -/
def FoundVoucher (s : AuthStore) : Event authInterface → Prop
  | ⟨.query (.findPasswordReset tokenHash), .ok (some reset)⟩ =>
      resetVoucher.Stored reset.id tokenHash s.passwordResetTokens.rows
  | ⟨.query (.findMfaChallenge challengeTokenHash), .ok (some found)⟩ =>
      challengeVoucher.Stored found.challenge.id challengeTokenHash s.mfaChallenges.rows
  | ⟨.query (.findCompletionState stateHash), .ok (some state)⟩ =>
      stateVoucher.Stored state.id stateHash s.oauthStates.rows
  | _ => True

theorem foundVoucher_execute (c : Command) (input : AuthInput) (s : AuthStore) :
    FoundVoucher (execute c input s).2 ⟨c, (execute c input s).1⟩ := by
  cases c with
  | external e => trivial
  | write w => trivial
  | query q =>
      by_cases hfault : input.fault = true
      · simp only [execute, hfault, if_true]
        cases q <;> trivial
      · simp only [execute, hfault, Bool.false_eq_true, if_false]
        cases q with
        | findPasswordReset tokenHash =>
            cases hfound : (Query.findPasswordReset tokenHash).answer s input.now with
            | none => trivial
            | some reset =>
                have hhash := List.find?_some hfound
                simp only [Bool.and_eq_true, beq_iff_eq] at hhash
                exact ⟨reset, List.mem_of_find?_eq_some hfound, rfl, hhash.1⟩
        | findMfaChallenge challengeTokenHash =>
            cases hfound : (Query.findMfaChallenge challengeTokenHash).answer s input.now with
            | none => trivial
            | some found =>
                obtain ⟨challenge, hchallenge, hrest⟩ := Option.bind_eq_some_iff.mp hfound
                obtain ⟨record, -, hrest⟩ := Option.bind_eq_some_iff.mp hrest
                obtain rfl := Option.some.inj hrest
                have hhash := List.find?_some hchallenge
                simp only [Bool.and_eq_true, beq_iff_eq] at hhash
                exact ⟨challenge, List.mem_of_find?_eq_some hchallenge, rfl, hhash.1⟩
        | findCompletionState stateHash =>
            cases hfound : (Query.findCompletionState stateHash).answer s input.now with
            | none => trivial
            | some state =>
                have hhash := List.find?_some hfound
                simp only [Bool.and_eq_true, beq_iff_eq] at hhash
                exact ⟨state, List.mem_of_find?_eq_some hfound, rfl, hhash.1.2⟩
        | _ => trivial

theorem FoundVoucher.execute {s : AuthStore} {e : Event authInterface} (h : FoundVoucher s e)
    (c : Command) (input : AuthInput) : FoundVoucher (execute c input s).2 e := by
  have hkept := keepsVouchers_execute c input s
  unfold FoundVoucher at h ⊢
  split
  · exact hkept.resets.stored h
  · exact hkept.challenges.stored h
  · exact hkept.states.stored h
  · trivial

variable (P : Platform)

/-- The credential was found under the token, by an earlier call. -/
def LookedUp (h : List (Event authInterface)) : OneTimeToken → Credential → Prop
  | .passwordReset token, .passwordReset id => ∃ reset, reset.id = id ∧
      (⟨.query (.findPasswordReset (hashOpaqueToken P token)), .ok (some reset)⟩ :
        Event authInterface) ∈ h
  | .mfaChallenge token, .mfaChallenge id => ∃ found, found.challenge.id = id ∧
      (⟨.query (.findMfaChallenge (hashOpaqueToken P token)), .ok (some found)⟩ :
        Event authInterface) ∈ h
  | .completion token, .completion id => ∃ state, state.id = id ∧
      (⟨.query (.findCompletionState (hashOpaqueToken P token)), .ok (some state)⟩ :
        Event authInterface) ∈ h
  | _, _ => False

/-- The credential of the token was looked up and used up. -/
def Redeemed (token : OneTimeToken) (h : List (Event authInterface)) : Prop :=
  ∃ credential, LookedUp P h token credential ∧ ∃ e ∈ h, usesUp credential e = true

/-- Whoever has found the token has found the same row. -/
theorem lookedUp_unique {s : AuthStore} {h h' : List (Event authInterface)}
    (hfound : ∀ e ∈ h, FoundVoucher s e) (hfound' : ∀ e ∈ h', FoundVoucher s e)
    {token : OneTimeToken} {credential credential' : Credential}
    (hlooked : LookedUp P h token credential) (hlooked' : LookedUp P h' token credential') :
    credential = credential' := by
  cases token <;> cases credential <;> first | exact hlooked.elim | skip
  all_goals cases credential' <;> first | exact hlooked'.elim | skip
  · obtain ⟨reset, rfl, hevent⟩ := hlooked
    obtain ⟨reset', rfl, hevent'⟩ := hlooked'
    rw [Voucher.id_eq_of_stored (k := .hash)
      (fun _ => by simp [resetVoucher, PasswordResetToken.keys])
      (hfound _ hevent) (hfound' _ hevent')]
  · obtain ⟨found, rfl, hevent⟩ := hlooked
    obtain ⟨found', rfl, hevent'⟩ := hlooked'
    rw [Voucher.id_eq_of_stored (k := .hash)
      (fun _ => by simp [challengeVoucher, MfaChallenge.keys])
      (hfound _ hevent) (hfound' _ hevent')]
  · obtain ⟨state, rfl, hevent⟩ := hlooked
    obtain ⟨state', rfl, hevent'⟩ := hlooked'
    rw [Voucher.id_eq_of_stored (k := .hash)
      (fun _ => by simp [stateVoucher, OAuthState.keys]) (hfound _ hevent) (hfound' _ hevent')]

/-! ## One request and its own calls -/

def storesSession : Command → Bool
  | .write w => w.kind == .createRefreshToken
  | _ => false

/-- A session of a login with a challenge is stored after the challenge was used
up, and once. -/
def Redeems (r : Request) (h : List (Event authInterface)) (c : Command) : Prop :=
  storesSession c = true → ∀ token, r.presents = some token →
    Redeemed P token h ∧ h.countP (fun e => storesSession e.1) < 1

/-- A request that presents a token succeeds with it used up. -/
def RedeemedAtEnd (r : Request) (h : List (Event authInterface))
    (outcome : Except ServiceError Reply) : Prop :=
  outcome.isOk = true → ∀ token, r.presents = some token → Redeemed P token h

omit [Collation] in
theorem storesSession_of_within {K : List WriteKind} (hcreate : .createRefreshToken ∉ K)
    {c : Command} (hc : c.Within K) : storesSession c = false := by
  cases c with
  | query q => rfl
  | external e => rfl
  | write w =>
      rw [storesSession, beq_eq_false_iff_ne]
      rintro hkind
      exact hcreate (hkind ▸ hc)

omit [Collation] in
theorem LookedUp.mono {token : OneTimeToken} {credential : Credential}
    {h h' : List (Event authInterface)} (hlooked : LookedUp P h token credential)
    (hsub : h ⊆ h') : LookedUp P h' token credential := by
  cases token <;> cases credential <;> first | exact hlooked.elim | skip
  all_goals
    obtain ⟨found, hid, hmem⟩ := hlooked
    exact ⟨found, hid, hsub hmem⟩

omit [Collation] in
theorem LookedUp.append {token : OneTimeToken} {credential : Credential}
    {h : List (Event authInterface)} (hlooked : LookedUp P h token credential)
    (e : Event authInterface) : LookedUp P (h ++ [e]) token credential :=
  hlooked.mono P (List.subset_append_left h [e])

omit [Collation] in
theorem Redeemed.mono {token : OneTimeToken} {h h' : List (Event authInterface)}
    (hdone : Redeemed P token h) (hsub : h ⊆ h') : Redeemed P token h' := by
  obtain ⟨credential, hlooked, e, he, hused⟩ := hdone
  exact ⟨credential, hlooked.mono P hsub, e, hsub he, hused⟩

omit [Collation] in
theorem Redeemed.append {token : OneTimeToken} {h : List (Event authInterface)}
    (hdone : Redeemed P token h) (e : Event authInterface) : Redeemed P token (h ++ [e]) :=
  hdone.mono P (List.subset_append_left h [e])

omit [Collation] in
theorem redeemed_of_use {token : OneTimeToken} {credential : Credential} {w : Write}
    {h : List (Event authInterface)} (hlooked : LookedUp P h token credential)
    (huses : w.uses = some credential) (result : w.Result) :
    Redeemed P token (h ++ [⟨.write w, .ok result⟩]) := by
  refine ⟨credential, hlooked.append P _, _,
    List.mem_append_right _ (List.mem_singleton_self _), ?_⟩
  simp [usesUp, huses, Except.isOk, Except.toBool]

omit [Collation] in
theorem obeys_of_within {α : Type} {K : List WriteKind} {J : List (Event authInterface) → Prop}
    {p : Program authInterface α} (hp : p.Issues (Command.Within K))
    (hcreate : .createRefreshToken ∉ K) (hgrow : ∀ h e, J h → J (h ++ [e]))
    {h : List (Event authInterface)} (hJ : J h) :
    p.Obeys (fun _ c => storesSession c = false) (fun h' _ => J h') h :=
  hp.obeys (fun _ hc _ _ => storesSession_of_within hcreate hc) hgrow hJ

omit [Collation] in
theorem resetPassword_redeems (dto : ResetPasswordDto) (metadata : AuthRequestMetadata) :
    (resetPassword P dto metadata).Obeys (fun _ c => storesSession c = false)
      (fun h outcome => outcome = .ok () → Redeemed P (.passwordReset dto.token) h) [] := by
  refine Program.Obeys.ofExcept_bind (fun _ _ => ?_) fun _ _ hok => by cases hok
  refine Program.Obeys.perform_bind rfl (fun found => ?_) fun _ hok => by cases hok
  split
  · next resetId userId tenantId hreset =>
      obtain ⟨reset, rfl, hrest⟩ := Option.bind_eq_some_iff.mp hreset
      obtain ⟨userId', -, hrest⟩ := Option.bind_eq_some_iff.mp hrest
      obtain ⟨tenantId', -, hrest⟩ := Option.bind_eq_some_iff.mp hrest
      obtain ⟨rfl, -⟩ := Prod.mk.inj (Option.some.inj hrest)
      refine Program.Obeys.bind (obeys_of_within (K := [])
        (J := fun h => LookedUp P h (.passwordReset dto.token) (.passwordReset reset.id))
        (by simp [newPasswordHash]) (by simp) (fun h e hlooked => hlooked.append P e) ?_)
        (fun h₁ passwordHash hlooked => ?_) fun _ _ _ hok => by cases hok
      · exact ⟨reset, rfl, by simp⟩
      · refine Program.Obeys.perform_bind rfl (fun u => ?_) fun _ hok => by cases hok
        have hdone := redeemed_of_use P hlooked
          (w := .resetPassword userId reset.id passwordHash) rfl u
        exact (obeys_of_within (K := [.audit]) (by simp) (by simp)
          (fun h e hdone => hdone.append P e) hdone).mono (fun _ _ h => h) fun _ _ hdone _ => hdone
  · exact fun hok => by cases hok

omit [Collation] in
theorem completeOAuthRegistration_redeems (token tenantSlug : String) :
    (completeOAuthRegistration P token tenantSlug).Obeys (fun _ c => storesSession c = false)
      (fun h outcome => outcome = .ok () → Redeemed P (.completion token) h) [] := by
  refine Program.Obeys.perform_bind rfl (fun found => ?_) fun _ hok => by cases hok
  split
  · next stateId userId hstate =>
      obtain ⟨state, rfl, hrest⟩ := Option.bind_eq_some_iff.mp hstate
      obtain ⟨userId', -, hrest⟩ := Option.bind_eq_some_iff.mp hrest
      obtain ⟨rfl, rfl⟩ := Prod.mk.inj (Option.some.inj hrest)
      refine Program.Obeys.perform_bind rfl (fun tenant => ?_) fun _ hok => by cases hok
      cases tenant with
      | none => exact fun hok => by cases hok
      | some tenant =>
          refine ⟨rfl, fun x => ?_⟩
          cases x with
          | error error => exact fun hok => by cases hok
          | ok u =>
              intro _
              refine redeemed_of_use P (w := .completeRegistration state.id userId' tenant.id)
                ?_ rfl u
              exact ⟨state, rfl, by simp⟩
  · exact fun hok => by cases hok

omit [Collation] in
theorem verifyMfaLogin_redeems (dto : VerifyMfaLoginDto) (metadata : AuthRequestMetadata) :
    (verifyMfaLogin P dto metadata).Obeys
      (fun h c => storesSession c = true → Redeemed P (.mfaChallenge dto.challengeToken) h)
      (fun h outcome => outcome.isOk = true → Redeemed P (.mfaChallenge dto.challengeToken) h)
      [] := by
  have hquiet : ∀ {K : List WriteKind} {c : Command} {h : List (Event authInterface)},
      .createRefreshToken ∉ K → c.Within K → storesSession c = true →
      Redeemed P (.mfaChallenge dto.challengeToken) h := by
    intro K c h hcreate hc hstores
    rw [storesSession_of_within hcreate hc] at hstores
    cases hstores
  have hrejected : ∀ (tenantId actorId : Option Id) (reason : String) (error : ServiceError)
      (h : List (Event authInterface)),
      (recordAuthFailure P metadata tenantId actorId reason >>= fun _ =>
        (.throw error : Program authInterface AuthResult)).Obeys
        (fun h c => storesSession c = true → Redeemed P (.mfaChallenge dto.challengeToken) h)
        (fun h outcome => outcome.isOk = true → Redeemed P (.mfaChallenge dto.challengeToken) h)
        h := by
    intro tenantId actorId reason error h
    exact Program.Obeys.perform_bind (fun hstores => by cases hstores)
      (fun _ hok => by cases hok) fun _ hok => by cases hok
  refine Program.Obeys.perform_bind (fun hstores => by cases hstores) (fun found => ?_)
    fun _ hok => by cases hok
  cases found with
  | none => exact hrejected _ _ _ _ _
  | some found =>
      dsimp only
      split
      · next secret hsecret =>
          refine Program.Obeys.bind (Program.Issues.obeys (C := Command.Within [.useRecoveryCode])
            (J := fun h => LookedUp P h (.mfaChallenge dto.challengeToken)
              (.mfaChallenge found.challenge.id))
            (verifyMfaOrRecovery_within P _ _ _ _ (by simp)) (fun c hc h _ => hquiet (by simp) hc)
            (fun h e hlooked => hlooked.append P e) ⟨found, rfl, by simp⟩)
            (fun h₁ verified hlooked => ?_) fun _ _ _ hok => by cases hok
          split
          · refine Program.Obeys.perform_bind (fun hstores => by cases hstores) (fun u => ?_)
              fun _ hok => by cases hok
            have hdone := redeemed_of_use P hlooked (w := .useMfaChallenge found.challenge.id) rfl u
            refine issueSession_obeys P (fun h e hdone => hdone.append P e) ?_ ?_ ?_ ?_ hdone
            · exact fun c hc h => hquiet (by simp) hc
            · exact fun data _ h hdone _ => hdone
            · exact fun data h result hdone _ _ => hdone
            · exact fun h error hok => by cases hok
          · exact hrejected _ _ _ _ _
      · exact hrejected _ _ _ _ _

omit [Collation] in
theorem storeRefreshToken_storesOnce (rotatedSession : Option RefreshTokenRecord)
    (data : RefreshTokenData) :
    (storeRefreshToken rotatedSession data).CallsAtMost storesSession 1 := by
  cases rotatedSession with
  | some session =>
      have hquiet : (storeRefreshToken (some session) data).Issues fun c =>
          storesSession c = false := Program.Issues.perform rfl
      exact hquiet.callsAtMost 1
  | none =>
      refine ⟨fun _ => Nat.one_pos, fun x => ?_⟩
      cases x <;> trivial

omit [Collation] in
theorem issueSession_storesOnce (user : AuthUserRecord) (metadata : AuthRequestMetadata)
    (auditResult : String) (rotatedSession : Option RefreshTokenRecord) :
    (issueSession P user metadata auditResult rotatedSession).CallsAtMost storesSession 1 := by
  have hquiet : ∀ {α : Type} {p : Program authInterface α},
      p.Issues (Command.Within [.updateUser, .audit]) →
      p.Issues fun c => storesSession c = false :=
    fun hp => hp.mono fun c hc => storesSession_of_within (by simp) hc
  unfold issueSession
  split
  · apply Program.Issues.callsAtMost_bind
      (hquiet (Program.Issues.perform (within_external .now)))
    intro now
    apply Program.Issues.callsAtMost_bind (hquiet (by simp))
    intro accessToken
    apply Program.Issues.callsAtMost_bind
      (hquiet (Program.Issues.perform (within_external .randomUUID)))
    intro familyId
    apply Program.Issues.callsAtMost_bind (hquiet (by simp [randomToken]))
    intro refreshToken
    apply Program.Issues.callsAtMost_bind (hquiet (by simp [configuredSeconds]))
    intro seconds
    apply Program.Issues.callsAtMost_bind (hquiet (by simp [expiresIn]))
    intro expiresAt
    apply (storeRefreshToken_storesOnce _ _).bind_issues
    intro _
    apply hquiet
    simp only [Program.issues_perform_bind_iff, within_write_iff]
    refine ⟨by simp [Write.kind], fun _ => ?_⟩
    split <;> simp
  · trivial

omit [Collation] in
theorem verifyMfaLogin_storesOnce (dto : VerifyMfaLoginDto) (metadata : AuthRequestMetadata) :
    (verifyMfaLogin P dto metadata).CallsAtMost storesSession 1 := by
  have hquiet : ∀ {α : Type} {p : Program authInterface α},
      p.Issues (Command.Within [.useRecoveryCode, .useMfaChallenge, .audit]) →
      p.Issues fun c => storesSession c = false :=
    fun hp => hp.mono fun c hc => storesSession_of_within (by simp) hc
  unfold verifyMfaLogin
  apply Program.Issues.callsAtMost_bind (hquiet (Program.Issues.perform (within_query _)))
  rintro (_ | found)
  · exact (hquiet (by simp)).callsAtMost 1
  · dsimp only
    split
    · apply Program.Issues.callsAtMost_bind
        (hquiet (verifyMfaOrRecovery_within P _ _ _ _ (by simp)))
      intro verified
      split
      · apply Program.Issues.callsAtMost_bind
          (hquiet (Program.Issues.perform (by simp [Write.kind])))
        exact fun _ => issueSession_storesOnce P _ _ _ _
      · exact (hquiet (by simp)).callsAtMost 1
    · exact (hquiet (by simp)).callsAtMost 1

omit [Collation] in
/-- Every request uses up what it presents, and stores one session for it. -/
theorem handle_redeems (r : Request) :
    (handle P r).Obeys (Redeems P r) (RedeemedAtEnd P r) [] := by
  have hnothing : r.presents = none → (handle P r).Obeys (Redeems P r) (RedeemedAtEnd P r) [] := by
    intro hnone
    refine ((handle P r).issues_true.obeys_each (fun c _ h _ token htoken => ?_) []).mono
      (fun _ _ h => h) fun h outcome _ _ token htoken => ?_
    · rw [hnone] at htoken
      cases htoken
    · rw [hnone] at htoken
      cases htoken
  have hredeemed : ∀ {token : OneTimeToken} {p : Program authInterface Unit},
      r.presents = some token → p.Obeys (fun _ c => storesSession c = false)
        (fun h outcome => outcome = .ok () → Redeemed P token h) [] →
      ((fun _ => Reply.ok) <$> p).Obeys (Redeems P r) (RedeemedAtEnd P r) [] := by
    intro token p htoken hp
    rw [map_eq_pure_bind]
    have hquiet : p.Obeys (Redeems P r)
        (fun h outcome => outcome = .ok () → Redeemed P token h) [] := by
      refine hp.mono (fun h c hquiet hstores => ?_) fun _ _ hdone => hdone
      rw [hquiet] at hstores
      cases hstores
    refine Program.Obeys.bind hquiet (fun h u hdone _ token' htoken' => ?_) fun _ _ _ hok => by
      cases hok
    obtain rfl := Option.some.inj (htoken.symm.trans htoken')
    exact hdone rfl
  cases r with
  | resetPassword dto metadata => exact hredeemed rfl (resetPassword_redeems P dto metadata)
  | completeOAuthRegistration token tenantSlug =>
      exact hredeemed rfl (completeOAuthRegistration_redeems P token tenantSlug)
  | verifyMfaLogin dto metadata =>
      rw [handle, map_eq_pure_bind]
      have honce := (verifyMfaLogin_storesOnce P dto metadata).obeys (n := 1) (h := []) le_rfl
      have hboth : (verifyMfaLogin P dto metadata).Obeys (Redeems P (.verifyMfaLogin dto metadata))
          (fun h outcome => outcome.isOk = true → Redeemed P (.mfaChallenge dto.challengeToken) h)
          [] := by
        refine ((verifyMfaLogin_redeems P dto metadata).and honce).mono (fun h c hc => ?_)
          fun _ _ hdone => hdone.1
        rintro hstores token htoken
        obtain rfl := Option.some.inj htoken
        exact ⟨hc.1 hstores, hc.2 hstores⟩
      refine Program.Obeys.bind hboth (fun h result hdone _ token htoken => ?_)
        fun _ _ _ hok => by cases hok
      obtain rfl := Option.some.inj htoken
      exact hdone rfl
  | _ => exact hnothing rfl

/-! ## Runs -/

/-- In every interleaving in which the writes that commit find their credential
unused: no two calls complete with one reset token, or with one completion token;
no two sessions are stored for one challenge; and a recovery code is used up at
most once. -/
theorem credentials_are_single_use (s : AuthStore) (acts : List AuthAction)
    (hunused : (authSystem P).AlongActions (CallCondition UnusedAtUse) (Config.initial s) acts)
    (hfresh : (authSystem P).AlongActions FreshRecoveryCodes (Config.initial s) acts) :
    (∀ (i j : ℕ) (t u : Thread authInterface Request Reply) (dto dto' : ResetPasswordDto)
        (metadata metadata' : AuthRequestMetadata) (reply reply' : Reply),
      ((authSystem P).runActions (Config.initial s) acts).threads[i]? = some t →
      ((authSystem P).runActions (Config.initial s) acts).threads[j]? = some u →
      t.request = .resetPassword dto metadata → u.request = .resetPassword dto' metadata' →
      dto.token = dto'.token → t.program = .pure reply → u.program = .pure reply' → i = j) ∧
    (∀ (i j m n : ℕ) (t u : Thread authInterface Request Reply) (dto dto' : VerifyMfaLoginDto)
        (metadata metadata' : AuthRequestMetadata) (e e' : Event authInterface),
      ((authSystem P).runActions (Config.initial s) acts).threads[i]? = some t →
      ((authSystem P).runActions (Config.initial s) acts).threads[j]? = some u →
      t.request = .verifyMfaLogin dto metadata → u.request = .verifyMfaLogin dto' metadata' →
      dto.challengeToken = dto'.challengeToken →
      t.history[m]? = some e → u.history[n]? = some e' →
      storesSession e.1 = true → storesSession e'.1 = true → i = j ∧ m = n) ∧
    (∀ id, ((authSystem P).runActions (Config.initial s) acts).eventCount
      (usesUp (.recoveryCode id)) ≤ 1) ∧
    (∀ (i j : ℕ) (t u : Thread authInterface Request Reply) (token tenantSlug tenantSlug' : String)
        (reply reply' : Reply),
      ((authSystem P).runActions (Config.initial s) acts).threads[i]? = some t →
      ((authSystem P).runActions (Config.initial s) acts).threads[j]? = some u →
      t.request = .completeOAuthRegistration token tenantSlug →
      u.request = .completeOAuthRegistration token tenantSlug' →
      t.program = .pure reply → u.program = .pure reply' → i = j) := by
  have hobeys := (authSystem P).obeying_run (handle_redeems P) acts (Config.initial s)
    (Config.obeying_initial _ _ s)
  have hbefore := (authSystem P).obeyedBefore_run (handle_redeems P) acts s
  have hknown := (authSystem P).knowing_run (P := fun _ _ _ => True)
    (fun cmd i s _ => foundVoucher_execute cmd i s) (fun cmd i s e _ h => h.execute cmd i) acts
    (Config.initial s) (Config.knowing_initial _ s) ((authSystem P).alongActions_callTrue acts _)
  -- two threads that have used up the same token are one
  have hsame : ∀ (token : OneTimeToken) {i j : ℕ} {t u : Thread authInterface Request Reply},
      ((authSystem P).runActions (Config.initial s) acts).threads[i]? = some t →
      ((authSystem P).runActions (Config.initial s) acts).threads[j]? = some u →
      Redeemed P token t.history → Redeemed P token u.history → i = j := by
    rintro token i j t u ht hu ⟨credential, hlooked, hused⟩ ⟨credential', hlooked', hused'⟩
    obtain rfl := lookedUp_unique P (hknown t (List.mem_of_getElem? ht))
      (hknown u (List.mem_of_getElem? hu)) hlooked hlooked'
    exact Config.eq_of_eventCount_le_one (uses_le_one P credential s acts hunused hfresh)
      ht hu hused hused'
  have hended : ∀ {t : Thread authInterface Request Reply} {token : OneTimeToken} {reply : Reply},
      t ∈ ((authSystem P).runActions (Config.initial s) acts).threads →
      t.request.presents = some token → t.program = .pure reply → Redeemed P token t.history := by
    intro t token reply ht htoken hreply
    have hend := hobeys t ht
    rw [hreply] at hend
    exact hend rfl token htoken
  refine ⟨?_, ?_, fun id => uses_le_one P _ s acts hunused hfresh, ?_⟩
  · intro i j t u dto dto' metadata metadata' reply reply' ht hu htr hur htoken htp hup
    exact hsame (.passwordReset dto.token) ht hu
      (hended (List.mem_of_getElem? ht) (by rw [htr, Request.presents]) htp)
      (hended (List.mem_of_getElem? hu) (by rw [hur, Request.presents, htoken]) hup)
  · intro i j m n t u dto dto' metadata metadata' e e' ht hu htr hur htoken hm hn he he'
    have hstored := hbefore.take (List.mem_of_getElem? ht) hm he (.mfaChallenge dto.challengeToken)
      (by rw [htr, Request.presents])
    have hstored' := hbefore.take (List.mem_of_getElem? hu) hn he'
      (.mfaChallenge dto.challengeToken) (by rw [hur, Request.presents, htoken])
    obtain rfl := hsame _ ht hu (hstored.1.mono P (List.take_subset m _))
      (hstored'.1.mono P (List.take_subset n _))
    obtain rfl := Option.some.inj (ht.symm.trans hu)
    -- no session was stored before the first, nor before the second
    have hnone : ∀ {a b : ℕ} {x : Event authInterface}, t.history[a]? = some x →
        storesSession x.1 = true → (t.history.take b).countP (fun e => storesSession e.1) < 1 →
        b ≤ a := by
      intro a b x hx hstores hcount
      by_contra hlt
      have hmem : x ∈ t.history.take b := by
        obtain ⟨ha, hget⟩ := List.getElem?_eq_some_iff.mp hx
        exact List.mem_take_iff_getElem.mpr ⟨a, by omega, hget⟩
      have hpos : 0 < (t.history.take b).countP fun e => storesSession e.1 :=
        List.countP_pos_iff.mpr ⟨x, hmem, hstores⟩
      omega
    exact ⟨rfl, le_antisymm (hnone hn he' hstored.2) (hnone hm he hstored'.2)⟩
  · intro i j t u token tenantSlug tenantSlug' reply reply' ht hu htr hur htp hup
    exact hsame (.completion token) ht hu
      (hended (List.mem_of_getElem? ht) (by rw [htr, Request.presents]) htp)
      (hended (List.mem_of_getElem? hu) (by rw [hur, Request.presents]) hup)

end

/-! ## One credential in two calls -/

attribute [local instance] foldCase

def fourteenSteps (thread request : ℕ) : List AuthAction :=
  (List.range 14).map fun n => .step thread (drawn request n)

/-- A user with MFA on and one recovery code has started to log in twice. -/
def challengedTwice : AuthStore :=
  { oneUser with
    users := oneUser.users.modify (fun _ => true)
      (fun row => { row with mfaEnabled := true, mfaSecret := some ⟨"iv.tag.text", by decide⟩ })
      fun _ => rfl
    mfaRecoveryCodes := ⟨[⟨"code", "tenant", "ana", "DEFG-HIJK", none⟩], by decide⟩
    mfaChallenges := ⟨[⟨"first", "tenant", "ana", "one", 1000, none⟩,
      ⟨"second", "tenant", "ana", "two", 1000, none⟩], by decide⟩ }

/-- She meets both challenges with the code. -/
def recoveryRun : List AuthAction :=
  [.start (.verifyMfaLogin ⟨"one", "DEFG-HIJK"⟩ noMetadata),
    .start (.verifyMfaLogin ⟨"two", "DEFG-HIJK"⟩ noMetadata)] ++
    fourteenSteps 0 6 ++ fourteenSteps 1 7

/-- The code is accepted the first time only. -/
theorem recoveryRun_uses_once :
    hasReturned ((authSystem plainPlatform).runActions (Config.initial challengedTwice)
      recoveryRun) 0 = true ∧
    hasReturned ((authSystem plainPlatform).runActions (Config.initial challengedTwice)
      recoveryRun) 1 = false ∧
    ((authSystem plainPlatform).runActions (Config.initial challengedTwice)
      recoveryRun).eventCount (usesUp (.recoveryCode "code")) ≤ 1 :=
  ⟨by decide +kernel, by decide +kernel, (credentials_are_single_use plainPlatform challengedTwice
    recoveryRun (by decide +kernel) (by decide +kernel)).2.2.1 "code"⟩

/-- A user has asked for a reset of the password. -/
def resetRequested : AuthStore :=
  (authSystem plainPlatform).runCalls
    [(.forgotPassword "ana@acme" noMetadata, drawn 1)] oneUser

/-- Two calls read the reset token before either uses it up. -/
def resetRun : List AuthAction :=
  [.start (.resetPassword ⟨drawnToken 1, "Segredo-12", "Segredo-12"⟩ noMetadata),
    .start (.resetPassword ⟨drawnToken 1, "Segredo-34", "Segredo-34"⟩ noMetadata),
    .step 0 (drawn 2 0), .step 1 (drawn 3 0)] ++ eightSteps 0 4 ++ eightSteps 1 5

/-- Both set a password. -/
theorem resetRun_succeeds_twice :
    hasReturned ((authSystem plainPlatform).runActions (Config.initial resetRequested)
      resetRun) 0 = true ∧
    hasReturned ((authSystem plainPlatform).runActions (Config.initial resetRequested)
      resetRun) 1 = true ∧
    ((authSystem plainPlatform).runActions (Config.initial resetRequested)
      resetRun).eventCount (usesUp (.passwordReset "130")) = 2 := by
  decide +kernel

end Logistics.Auth
