import Logistics.Auth.Users

/-!
# What the requests call and what the calls do

The writes a request may issue are a matter of its text: `handle_within` walks
over every program once, and the modules that follow read off what a request
never does. What a call does to the refresh tokens is `execute_refreshTokens`:
nothing, a revocation of the rows a write selects, a new row, or a rotation.
-/

namespace Logistics.Auth

open Logistics.Library

/-! ## Footprints -/

inductive WriteKind
  | registerTenant | createRefreshToken | rotateRefreshToken | revokeTokens
  | changePassword | resetPassword | requestPasswordReset | createMfaChallenge
  | useMfaChallenge | useRecoveryCode | enableMfa | clearMfa | createUser | updateUser
  | administerUser
  | createOAuthState | useOAuthState | completeRegistration | createIncompleteUser
  | linkAccount | unlinkAccounts | onboarding | invitation | acceptInvitation | audit
  deriving DecidableEq

@[simp] def UserChange.kind : UserChange → WriteKind
  | .admin .. | .approve _ => .administerUser
  | _ => .updateUser

def Write.kind : Write → WriteKind
  | .registerTenant _ => .registerTenant
  | .createRefreshToken _ => .createRefreshToken
  | .rotateRefreshToken .. => .rotateRefreshToken
  | .revokeRefreshToken _ | .revokeRefreshTokenFamily _ | .revokeSession .. | .revokeSessions .. =>
      .revokeTokens
  | .changePassword .. => .changePassword
  | .resetPassword .. => .resetPassword
  | .requestPasswordReset .. => .requestPasswordReset
  | .createMfaChallenge .. => .createMfaChallenge
  | .useMfaChallenge _ => .useMfaChallenge
  | .useRecoveryCode _ => .useRecoveryCode
  | .confirmMfa .. => .enableMfa
  | .disableMfa .. | .resetMfa .. => .clearMfa
  | .createUser _ => .createUser
  | .updateUser _ change => change.kind
  | .createOAuthState _ => .createOAuthState
  | .useOAuthState _ => .useOAuthState
  | .completeRegistration .. => .completeRegistration
  | .createIncompleteUser .. => .createIncompleteUser
  | .linkAccount .. => .linkAccount
  | .unlinkAccounts .. => .unlinkAccounts
  | .upsertOnboarding .. | .completeOnboardingSettings _ => .onboarding
  | .upsertInvitation _ => .invitation
  | .acceptInvitation .. => .acceptInvitation
  | .recordAudit _ => .audit

/-- The kinds of writes a request may issue. -/
def Request.footprint : Request → List WriteKind
  | .registerTenant .. => [.registerTenant, .createRefreshToken, .updateUser, .audit]
  | .login .. => [.createOAuthState, .createMfaChallenge, .createRefreshToken, .updateUser, .audit]
  | .verifyMfaLogin .. =>
      [.useRecoveryCode, .useMfaChallenge, .createRefreshToken, .updateUser, .audit]
  | .refresh .. => [.revokeTokens, .rotateRefreshToken, .updateUser, .audit]
  | .logout .. | .revokeSession .. | .revokeOtherSessions .. | .revokeUserSessions .. =>
      [.revokeTokens, .audit]
  | .forgotPassword .. => [.requestPasswordReset, .audit]
  | .resetPassword .. => [.resetPassword, .audit]
  | .changePassword .. => [.changePassword, .audit]
  | .beginMfaSetup .. => [.updateUser]
  | .confirmMfa .. => [.enableMfa, .audit]
  | .disableMfa .. | .resetUserMfa .. => [.clearMfa, .audit]
  | .getCurrentUser .. | .getProfile .. => []
  | .updateProfile .. => [.updateUser, .audit]
  | .getOnboarding _ => [.onboarding]
  | .updateOnboarding .. => [.onboarding, .audit]
  | .startOAuth .. => [.createOAuthState]
  | .handleOAuthCallback .. =>
      [.useOAuthState, .linkAccount, .createOAuthState, .createIncompleteUser,
        .createRefreshToken, .updateUser, .audit]
  | .completeOAuthRegistration .. => [.completeRegistration]
  | .unlinkProvider .. => [.unlinkAccounts, .audit]
  | .createUser .. => [.createUser, .audit]
  | .inviteUser .. => [.invitation, .audit]
  | .acceptInvite .. => [.acceptInvitation, .createRefreshToken]
  | .updateUser .. => [.administerUser, .revokeTokens, .audit]
  | .approveUser .. => [.administerUser, .audit]

def Command.Within (kinds : List WriteKind) : Command → Prop
  | .write w => w.kind ∈ kinds
  | _ => True

theorem Command.Within.mono {kinds kinds' : List WriteKind} {c : Command}
    (hc : c.Within kinds) (hsub : kinds ⊆ kinds') : c.Within kinds' := by
  cases c with
  | write w => exact hsub hc
  | _ => trivial

section Walk

variable {kinds : List WriteKind} {α : Type}

@[simp] theorem within_query (q : Query) : (Command.query q).Within kinds := trivial

@[simp] theorem within_external (e : External) : (Command.external e).Within kinds := trivial

@[simp] theorem within_write_iff (w : Write) :
    (Command.write w).Within kinds ↔ w.kind ∈ kinds := Iff.rfl

@[simp] theorem issues_recordAudit_iff (record : AuthAuditRecord) :
    (recordAudit record).Issues (Command.Within kinds) ↔ WriteKind.audit ∈ kinds :=
  Program.issues_perform_iff _

@[simp] theorem issues_recordAudit_bind_iff (record : AuthAuditRecord)
    (f : Unit → Program authInterface α) :
    (recordAudit record >>= f).Issues (Command.Within kinds) ↔
      WriteKind.audit ∈ kinds ∧ (f ()).Issues (Command.Within kinds) := by
  simp only [recordAudit, Program.issues_perform_bind_iff, within_write_iff, Write.kind]
  exact and_congr_right fun _ => ⟨fun h => h (), fun h _ => h⟩

@[simp] theorem issues_expiresIn_bind_iff (seconds : ℕ) (f : Time → Program authInterface α) :
    (expiresIn seconds >>= f).Issues (Command.Within kinds) ↔
      ∀ now : Time, (f (now + seconds * 1000)).Issues (Command.Within kinds) := by
  simp [expiresIn]

variable (P : Platform)

@[simp] theorem issues_recordAuthFailure_bind_iff (metadata : AuthRequestMetadata)
    (tenantId actorId : Option Id) (reason : String) (f : Unit → Program authInterface α) :
    (recordAuthFailure P metadata tenantId actorId reason >>= f).Issues (Command.Within kinds) ↔
      WriteKind.audit ∈ kinds ∧ (f ()).Issues (Command.Within kinds) := by
  simp [recordAuthFailure]

@[simp] theorem issues_randomToken_bind_iff (f : String → Program authInterface α) :
    (randomToken P >>= f).Issues (Command.Within kinds) ↔
      ∀ bytes, (f (P.base64url bytes)).Issues (Command.Within kinds) := by
  simp [randomToken]

@[simp] theorem issues_newPasswordHash_bind_iff (password : String)
    (f : String → Program authInterface α) :
    (newPasswordHash P password >>= f).Issues (Command.Within kinds) ↔
      ∀ salt, (f (hashPassword P salt password)).Issues (Command.Within kinds) := by
  simp [newPasswordHash]

@[simp] theorem issues_configuredSeconds_bind_iff (value : String)
    (f : ℕ → Program authInterface α) :
    (configuredSeconds value >>= f).Issues (Command.Within kinds) ↔
      ∀ seconds, parseDurationToSeconds value = some seconds →
        (f seconds).Issues (Command.Within kinds) := by
  cases h : parseDurationToSeconds value <;> simp [configuredSeconds, h, Program.ofExcept]

theorem issueSession_within (user : AuthUserRecord) (metadata : AuthRequestMetadata)
    (auditResult : String) (rotatedSession : Option RefreshTokenRecord)
    (hstore : (if rotatedSession.isSome then WriteKind.rotateRefreshToken
      else WriteKind.createRefreshToken) ∈ kinds)
    (hkinds : [WriteKind.updateUser, WriteKind.audit] ⊆ kinds) :
    (issueSession P user metadata auditResult rotatedSession).Issues (Command.Within kinds) := by
  have hupdate : WriteKind.updateUser ∈ kinds := hkinds (by simp)
  have haudit : WriteKind.audit ∈ kinds := hkinds (by simp)
  have hstored : ∀ data, (storeRefreshToken rotatedSession data).Issues (Command.Within kinds) := by
    intro data
    cases rotatedSession <;> exact Program.Issues.perform hstore
  unfold issueSession
  split
  · simp only [Program.issues_perform_bind_iff, within_external, true_and,
      Program.issues_ofExcept_bind_iff, issues_randomToken_bind_iff,
      issues_configuredSeconds_bind_iff, issues_expiresIn_bind_iff]
    intro _ _ _ _ _ _ _ _
    refine (hstored _).bind fun _ => ?_
    simp only [Program.issues_perform_bind_iff, within_write_iff, Write.kind, UserChange.kind,
      hupdate, true_and]
    intro _
    split <;> simp [haudit]
  · simp

theorem blockNonActiveLogin_within (user : AuthUserRecord) (provider : Option OAuthProvider)
    (metadata : AuthRequestMetadata) (hkinds : WriteKind.createOAuthState ∈ kinds) :
    (blockNonActiveLogin P user provider metadata).Issues (Command.Within kinds) := by
  unfold blockNonActiveLogin
  split <;> simp [createCompletionToken, Write.kind, hkinds]

theorem freeTenantSlug_within (base : String) (tries : ℕ) :
    (freeTenantSlug P base tries).Issues (Command.Within kinds) := by
  induction tries with
  | zero => simp [freeTenantSlug]
  | succ tries ih =>
      rw [freeTenantSlug]
      refine (Program.Issues.perform trivial).bind fun found => ?_
      split
      · simp
      · exact ih

theorem uniqueTenantSlug_within (companyName : String) :
    (uniqueTenantSlug P companyName).Issues (Command.Within kinds) := by
  have hslugify : (slugify P companyName).Issues (Command.Within kinds) := by
    unfold slugify
    split <;> simp
  exact hslugify.bind fun base => freeTenantSlug_within P base 20

theorem getProfile_within (userId tenantId : Id) (currentRefreshToken : Option String) :
    (getProfile P userId tenantId currentRefreshToken).Issues (Command.Within kinds) := by
  simp only [getProfile, Program.issues_perform_bind_iff, within_query, true_and]
  rintro (_ | record)
  · simp
  · dsimp only
    split <;> simp

end Walk

section Requests

variable (P : Platform)

theorem registerTenant_within (dto : RegisterTenantDto) (metadata : AuthRequestMetadata) :
    (registerTenant P dto metadata).Issues
      (Command.Within (Request.registerTenant dto metadata).footprint) := by
  unfold registerTenant
  generalize assertStrongPassword dto.password dto.passwordConfirmation = accepted
  have hslugs : (uniqueTenantSlug P dto.companyName).Issues
      (Command.Within (Request.registerTenant dto metadata).footprint) :=
    uniqueTenantSlug_within P _
  generalize uniqueTenantSlug P dto.companyName = slugs at hslugs ⊢
  simp only [Program.issues_ofExcept_bind_iff, Program.issues_throwIf_bind_iff,
    Program.issues_perform_bind_iff, within_query, true_and, issues_newPasswordHash_bind_iff]
  intro _ _ _ _ _ _
  refine hslugs.bind fun _ => ?_
  simp only [Program.issues_perform_bind_iff, within_write_iff]
  refine ⟨by simp [Request.footprint, Write.kind], fun user => ?_⟩
  exact issueSession_within P _ _ _ none (by simp [Request.footprint])
    (by simp [Request.footprint])

theorem login_within (dto : LoginDto) (metadata : AuthRequestMetadata) :
    (login P dto metadata).Issues (Command.Within (Request.login dto metadata).footprint) := by
  unfold login
  refine Program.Issues.bind ?_ fun _ => ?_
  · exact Program.Issues.tryCatch (Program.Issues.perform trivial)
      fun _ => by simp [Request.footprint]
  · simp only [Program.issues_perform_bind_iff, within_query, true_and]
    intro candidates
    split
    · simp only [Program.issues_perform_bind_iff, within_external, true_and]
      intro _
      refine (blockNonActiveLogin_within P _ _ _ (by simp [Request.footprint])).bind fun _ => ?_
      split
      · simp
      · split
        · unfold openLogin
          split
          · simp [Write.kind, Request.footprint]
          · refine Program.Issues.bind ?_ fun _ => by simp
            exact issueSession_within P _ _ _ none (by simp [Request.footprint])
              (by simp [Request.footprint])
        · simp [Request.footprint]
    · simp [rejectLogin, Request.footprint]

theorem verifyMfaOrRecovery_within {kinds : List WriteKind} (tenantId userId : Id)
    (secret : SealedSecret) (code : String) (hkinds : WriteKind.useRecoveryCode ∈ kinds) :
    (verifyMfaOrRecovery P tenantId userId secret code).Issues (Command.Within kinds) := by
  unfold verifyMfaOrRecovery
  refine Program.Issues.bind ?_ fun accepted => ?_
  · unfold acceptsTotp
    split <;> simp
  · split
    · simp
    · simp only [Program.issues_perform_bind_iff, within_query, true_and]
      rintro (_ | recovery) <;> simp [Write.kind, hkinds]

theorem verifyMfaLogin_within (dto : VerifyMfaLoginDto) (metadata : AuthRequestMetadata) :
    (verifyMfaLogin P dto metadata).Issues
      (Command.Within (Request.verifyMfaLogin dto metadata).footprint) := by
  simp only [verifyMfaLogin, Program.issues_perform_bind_iff, within_query, true_and]
  rintro (_ | found)
  · simp [Request.footprint]
  · dsimp only
    split
    · refine (verifyMfaOrRecovery_within P _ _ _ _ (by simp [Request.footprint])).bind
        fun verified => ?_
      split
      · simp only [Program.issues_perform_bind_iff, within_write_iff]
        refine ⟨by simp [Request.footprint, Write.kind], fun _ => ?_⟩
        exact issueSession_within P _ _ _ none (by simp [Request.footprint])
          (by simp [Request.footprint])
      · simp [Request.footprint]
    · simp [Request.footprint]

theorem rejectRefresh_within {kinds : List WriteKind} (metadata : AuthRequestMetadata)
    (tenantId userId : Option Id) (hkinds : WriteKind.audit ∈ kinds) :
    (rejectRefresh P metadata tenantId userId).Issues (Command.Within kinds) := by
  simp [rejectRefresh, hkinds]

theorem getValidRefreshSession_within {kinds : List WriteKind} (refreshToken : Option String)
    (metadata : AuthRequestMetadata) (hrevoke : WriteKind.revokeTokens ∈ kinds)
    (haudit : WriteKind.audit ∈ kinds) :
    (getValidRefreshSession P refreshToken metadata).Issues (Command.Within kinds) := by
  unfold getValidRefreshSession
  split
  · simp only [Program.issues_perform_bind_iff, within_query, true_and]
    rintro (_ | session)
    · exact rejectRefresh_within P _ _ _ haudit
    · dsimp only
      split
      · simp only [Program.issues_perform_bind_iff, within_write_iff]
        refine ⟨hrevoke, fun _ => ?_⟩
        exact rejectRefresh_within P _ _ _ haudit
      · simp only [Program.issues_perform_bind_iff, within_external, true_and]
        intro now
        split
        · exact rejectRefresh_within P _ _ _ haudit
        · simp
  · exact rejectRefresh_within P _ _ _ haudit

theorem refresh_within (refreshToken : Option String) (metadata : AuthRequestMetadata) :
    (refresh P refreshToken metadata).Issues
      (Command.Within (Request.refresh refreshToken metadata).footprint) := by
  refine Program.Issues.bind ?_ fun session =>
    issueSession_within P _ _ _ (some session) (by simp [Request.footprint])
      (by simp [Request.footprint])
  exact getValidRefreshSession_within P _ _ (by simp [Request.footprint])
    (by simp [Request.footprint])

theorem logout_within (refreshToken : Option String) (metadata : AuthRequestMetadata) :
    (logout P refreshToken metadata).Issues
      (Command.Within (Request.logout refreshToken metadata).footprint) := by
  unfold logout
  split
  · simp only [Program.issues_perform_bind_iff, within_query, true_and]
    rintro (_ | session)
    · simp
    · dsimp only
      split <;> simp [Write.kind, Request.footprint]
  · simp

theorem forgotPassword_within (email : String) (metadata : AuthRequestMetadata) :
    (forgotPassword P email metadata).Issues
      (Command.Within (Request.forgotPassword email metadata).footprint) := by
  simp only [forgotPassword, Program.issues_perform_bind_iff, within_query, true_and]
  rintro (_ | found) <;> simp [Write.kind, Request.footprint]

theorem resetPassword_within (dto : ResetPasswordDto) (metadata : AuthRequestMetadata) :
    (resetPassword P dto metadata).Issues
      (Command.Within (Request.resetPassword dto metadata).footprint) := by
  simp only [resetPassword, Program.issues_ofExcept_bind_iff, Program.issues_perform_bind_iff,
    within_query, true_and]
  intro _ _ reset
  split <;> simp [Write.kind, Request.footprint]

theorem confirmMfa_within (userId tenantId : Id) (code : String) :
    (confirmMfa P userId tenantId code).Issues
      (Command.Within (Request.confirmMfa userId tenantId code).footprint) := by
  simp only [confirmMfa, Program.issues_perform_bind_iff, within_query, true_and]
  intro found
  split <;> simp [Write.kind, Request.footprint]

theorem disableMfa_within (userId tenantId : Id) (code : String) :
    (disableMfa P userId tenantId code).Issues
      (Command.Within (Request.disableMfa userId tenantId code).footprint) := by
  simp only [disableMfa, Program.issues_perform_bind_iff, within_query, true_and]
  intro found
  split <;> simp [Write.kind, Request.footprint]

theorem handleOAuthCallback_within (provider : OAuthProvider) (code state : String)
    (metadata : AuthRequestMetadata) :
    (handleOAuthCallback P provider code state metadata).Issues
      (Command.Within (Request.handleOAuthCallback provider code state metadata).footprint) := by
  simp only [handleOAuthCallback, Program.issues_perform_bind_iff, within_query, true_and]
  rintro (_ | storedState)
  · simp
  · simp only [Program.issues_perform_bind_iff, within_write_iff, within_external, true_and]
    refine ⟨by simp [Request.footprint, Write.kind], fun _ identity => ?_⟩
    split
    · split
      · refine Program.Issues.bind ?_ fun _ => by simp
        simp only [linkProvider, Program.issues_perform_bind_iff, within_query, true_and]
        rintro (_ | found) <;> simp [Write.kind, Request.footprint]
      · simp
    · simp only [Program.issues_perform_bind_iff, within_query, true_and]
      rintro (_ | existing)
      · dsimp only
        split
        · simp [createIncompleteOAuthUser, Write.kind, Request.footprint]
        · simp
      · refine Program.Issues.bind
          (blockNonActiveLogin_within P _ _ _ (by simp [Request.footprint])) fun _ => ?_
        split
        · simp
        · simp
        · refine Program.Issues.bind ?_ fun _ => by simp
          exact issueSession_within P _ _ _ none (by simp [Request.footprint])
            (by simp [Request.footprint])

theorem completeOAuthRegistration_within (token tenantSlug : String) :
    (completeOAuthRegistration P token tenantSlug).Issues
      (Command.Within (Request.completeOAuthRegistration token tenantSlug).footprint) := by
  simp only [completeOAuthRegistration, Program.issues_perform_bind_iff, within_query, true_and]
  intro state
  split
  · simp only [Program.issues_perform_bind_iff, within_query, true_and]
    rintro (_ | tenant)
    · simp
    · exact Program.Issues.perform (by simp [Request.footprint, Write.kind])
  · simp

theorem acceptInvite_within (dto : AcceptInviteDto) (metadata : AuthRequestMetadata) :
    (Users.acceptInvite P dto metadata).Issues
      (Command.Within (Request.acceptInvite dto metadata).footprint) := by
  simp only [Users.acceptInvite, Program.issues_ofExcept_bind_iff,
    Program.issues_perform_bind_iff, within_query, true_and]
  rintro _ _ (_ | invitation)
  · simp
  · simp only [issues_newPasswordHash_bind_iff, Program.issues_perform_bind_iff,
      within_write_iff]
    intro _
    refine ⟨by simp [Request.footprint, Write.kind], fun user => ?_⟩
    split <;> simp [Users.issueSession, Write.kind, Request.footprint]

theorem assertMayAssign_within {K : List WriteKind} (tenantId actorId : Id)
    (role : Option UserRole) :
    (Users.assertMayAssign tenantId actorId role).Issues (Command.Within K) := by
  unfold Users.assertMayAssign
  split <;> simp [Users.assertActorIsAdmin]

theorem assertLastAdminSafe_within {kinds : List WriteKind} (tenantId : Id) (current : User)
    (dto : UpdateAdminUserDto) :
    (Users.assertLastAdminSafe tenantId current dto).Issues (Command.Within kinds) := by
  unfold Users.assertLastAdminSafe
  dsimp only
  split <;> simp

theorem createUser_within (tenantId actorId : Id) (dto : CreateAdminUserDto) :
    (Users.create P tenantId actorId dto).Issues
      (Command.Within (Request.createUser tenantId actorId dto).footprint) := by
  refine (assertMayAssign_within tenantId actorId _).bind fun _ => ?_
  refine Program.Issues.bind ?_ fun passwordHash => ?_
  · unfold Users.optionalPasswordHash
    split <;> simp
  · refine Program.Issues.tryCatch ?_ fun error => ?_
    · simp [Write.kind, Request.footprint]
    · split <;> simp

theorem revokeUnlessActive_within {kinds : List WriteKind} (tenantId targetUserId : Id)
    (status : Option UserStatus) (hkinds : WriteKind.revokeTokens ∈ kinds) :
    (Users.revokeUnlessActive tenantId targetUserId status).Issues (Command.Within kinds) := by
  unfold Users.revokeUnlessActive
  split
  · exact Program.Issues.perform hkinds
  · simp

theorem updateUser_within (tenantId actorId targetUserId : Id) (dto : UpdateAdminUserDto) :
    (Users.update tenantId actorId targetUserId dto).Issues
      (Command.Within (Request.updateUser tenantId actorId targetUserId dto).footprint) := by
  simp only [Users.update, Program.issues_perform_bind_iff, within_query, true_and]
  rintro (_ | found)
  · simp
  · refine (assertMayAssign_within tenantId actorId _).bind fun _ => ?_
    refine Program.Issues.bind ?_ fun _ => ?_
    · unfold Users.assertChangeSafe
      split
      · exact assertLastAdminSafe_within ..
      · simp
    · simp only [Program.issues_perform_bind_iff, within_write_iff]
      refine ⟨by simp [Request.footprint, Write.kind], fun user => ?_⟩
      refine (revokeUnlessActive_within _ _ _ (by simp [Request.footprint])).bind fun _ => ?_
      simp [Request.footprint]

theorem approveUser_within (tenantId actorId targetUserId : Id) (role : UserRole) :
    (Users.approve tenantId actorId targetUserId role).Issues
      (Command.Within (Request.approveUser tenantId actorId targetUserId role).footprint) := by
  simp only [Users.approve, Program.issues_perform_bind_iff, within_query, true_and]
  rintro (_ | found) <;> simp [Request.footprint, Write.kind]

theorem unlinkProvider_within (userId tenantId : Id) (provider : OAuthProvider) :
    (unlinkProvider userId tenantId provider).Issues
      (Command.Within (Request.unlinkProvider userId tenantId provider).footprint) := by
  simp only [unlinkProvider, Program.issues_perform_bind_iff, within_query, true_and]
  rintro (_ | found) <;> simp [Request.footprint, Write.kind]

theorem beginMfaSetup_within (userId tenantId : Id) :
    (beginMfaSetup P userId tenantId).Issues
      (Command.Within (Request.beginMfaSetup userId tenantId).footprint) := by
  simp only [beginMfaSetup, Program.issues_perform_bind_iff, within_query, true_and]
  rintro (_ | found) <;> simp [Request.footprint, Write.kind]

theorem getCurrentUser_within (userId tenantId : Id) :
    (getCurrentUser userId tenantId).Issues
      (Command.Within (Request.getCurrentUser userId tenantId).footprint) := by
  simp only [getCurrentUser, Program.issues_perform_bind_iff, within_query, true_and]
  intro found
  split <;> simp

theorem updateOnboarding_within (tenantId actorId : Id) (dto : OnboardingChange) :
    (updateOnboarding tenantId actorId dto).Issues
      (Command.Within (Request.updateOnboarding tenantId actorId dto).footprint) := by
  simp only [updateOnboarding, Program.issues_perform_bind_iff, within_write_iff]
  refine ⟨by simp [Request.footprint, Write.kind], fun onboarding => ?_⟩
  split <;> simp [Request.footprint, Write.kind]

/-- A request issues only the writes of its footprint. -/
theorem handle_within (r : Request) : (handle P r).Issues (Command.Within r.footprint) := by
  cases r with
  | registerTenant => simpa only [handle, Program.issues_map_iff] using registerTenant_within P _ _
  | login => simpa only [handle, Program.issues_map_iff] using login_within P _ _
  | verifyMfaLogin => simpa only [handle, Program.issues_map_iff] using verifyMfaLogin_within P _ _
  | refresh => simpa only [handle, Program.issues_map_iff] using refresh_within P _ _
  | logout => simpa only [handle, Program.issues_map_iff] using logout_within P _ _
  | forgotPassword => simpa only [handle, Program.issues_map_iff] using forgotPassword_within P _ _
  | resetPassword => simpa only [handle, Program.issues_map_iff] using resetPassword_within P _ _
  | beginMfaSetup => simpa only [handle, Program.issues_map_iff] using beginMfaSetup_within P _ _
  | confirmMfa => simpa only [handle, Program.issues_map_iff] using confirmMfa_within P _ _ _
  | disableMfa => simpa only [handle, Program.issues_map_iff] using disableMfa_within P _ _ _
  | getCurrentUser => simpa only [handle, Program.issues_map_iff] using getCurrentUser_within _ _
  | getProfile => simpa only [handle, Program.issues_map_iff] using getProfile_within P _ _ _
  | updateOnboarding =>
      simpa only [handle, Program.issues_map_iff] using updateOnboarding_within _ _ _
  | handleOAuthCallback =>
      simpa only [handle, Program.issues_map_iff] using handleOAuthCallback_within P _ _ _ _
  | completeOAuthRegistration =>
      simpa only [handle, Program.issues_map_iff] using completeOAuthRegistration_within P _ _
  | unlinkProvider => simpa only [handle, Program.issues_map_iff] using unlinkProvider_within _ _ _
  | createUser => simpa only [handle, Program.issues_map_iff] using createUser_within P _ _ _
  | acceptInvite => simpa only [handle, Program.issues_map_iff] using acceptInvite_within P _ _
  | updateUser => simpa only [handle, Program.issues_map_iff] using updateUser_within _ _ _ _
  | approveUser => simpa only [handle, Program.issues_map_iff] using approveUser_within _ _ _ _
  | revokeSession => simp [handle, revokeSession, Request.footprint, Write.kind]
  | revokeOtherSessions => simp [handle, revokeOtherSessions, Request.footprint, Write.kind]
  | changePassword => simp [handle, changePassword, Request.footprint, Write.kind]
  | getOnboarding =>
      simp only [handle, Program.issues_map_iff]
      exact Program.Issues.perform (by simp [Request.footprint, Write.kind])
  | updateProfile userId tenantId name =>
      simp only [handle, Program.issues_map_iff, updateProfile, Program.issues_perform_bind_iff,
        within_write_iff, issues_recordAudit_bind_iff]
      exact ⟨by simp [Request.footprint, Write.kind], fun _ => ⟨by simp [Request.footprint],
        getProfile_within P _ _ _⟩⟩
  | startOAuth => simp [handle, startOAuth, Request.footprint, Write.kind]
  | inviteUser => simp [handle, Users.invite, Request.footprint, Write.kind]
  | revokeUserSessions =>
      simp [handle, Users.revokeSessions, Users.assertTargetUserExists, Request.footprint,
        Write.kind]
  | resetUserMfa =>
      simp [handle, Users.resetMfa, Users.assertTargetUserExists, Request.footprint, Write.kind]

end Requests

/-! ## Writes -/

/-- The store that a write leaves, if it succeeds, satisfies `Q`. -/
def Leaves [Collation] {α : Type} (Q : AuthStore → Prop) :
    Except ServiceError (α × AuthStore) → Prop
  | .ok (_, s') => Q s'
  | .error _ => True

section Leaves

variable [Collation] {α β : Type} {Q : AuthStore → Prop}

@[simp] theorem leaves_ok (a : α) (s : AuthStore) : Leaves Q (.ok (a, s)) ↔ Q s := Iff.rfl

@[simp] theorem leaves_pure (a : α) (s : AuthStore) :
    Leaves Q (pure (a, s) : Except ServiceError (α × AuthStore)) ↔ Q s := Iff.rfl

@[simp] theorem leaves_error (e : ServiceError) :
    Leaves Q (.error e : Except ServiceError (α × AuthStore)) := trivial

@[simp] theorem leaves_bind_iff (x : Except ServiceError β)
    (f : β → Except ServiceError (α × AuthStore)) :
    Leaves Q (x >>= f) ↔ ∀ b, x = .ok b → Leaves Q (f b) := by
  cases x with
  | ok b => simp [Bind.bind, Except.bind]
  | error e => simp [Bind.bind, Except.bind, Leaves]

theorem Leaves.mono {Q' : AuthStore → Prop} {x : Except ServiceError (α × AuthStore)}
    (h : Leaves Q x) (hQ : ∀ s, Q s → Q' s) : Leaves Q' x := by
  cases x with
  | ok answer => exact hQ answer.2 h
  | error e => trivial

end Leaves

/-! ## Issuing a session -/

theorem execute_of_within_nil [Collation] {c : Command} (hc : c.Within []) (input : AuthInput)
    (s : AuthStore) : (execute c input s).2 = s := by
  cases c with
  | query q => rfl
  | external e => rfl
  | write w => cases hc

theorem execute_recordAudit [Collation] (record : AuthAuditRecord) (input : AuthInput)
    (s : AuthStore) :
    ∃ auditLogs, (execute (.write (.recordAudit record)) input s).2 = { s with auditLogs } := by
  cases hfault : input.fault with
  | true => exact ⟨s.auditLogs, by simp [execute, hfault]⟩
  | false =>
      cases hfits : requireFits 64 record.requestId with
      | error e =>
          exact ⟨s.auditLogs, by simp [execute, hfault, Write.apply, hfits, Bind.bind, Except.bind]⟩
      | ok u =>
          exact ⟨s.auditLogs ++ [record], by
            simp [execute, hfault, Write.apply, hfits, Bind.bind, Except.bind, pure, Except.pure]⟩

/-- What a new session of the user stores: in the family of the token it
rotates, if it rotates one. -/
structure SessionData (user : AuthUserRecord) (rotatedSession : Option RefreshTokenRecord)
    (data : RefreshTokenData) : Prop where
  userId : data.userId = user.user.id
  familyId : ∀ session, rotatedSession = some session → data.familyId = session.token.familyId
  tenantId : ∃ tenant, activeTenant user = some tenant ∧ data.tenantId = tenant.id

def storeCommand (rotatedSession : Option RefreshTokenRecord) (data : RefreshTokenData) : Command :=
  .write (match rotatedSession with
    | some session => .rotateRefreshToken session.token.id data
    | none => .createRefreshToken data)

/-- A session is stored after reads only, and what follows its storage is the
login time and the audit record: `J` holds up to the storage and `K` from then
on. The session answered is that of the user. -/
theorem issueSession_wp_answer (P : Platform) {S : Type} {b : Backend authInterface AuthInput S}
    {A G : S → authInterface.Command → AuthInput → Prop} {J K : S → Prop} {user : AuthUserRecord}
    {metadata : AuthRequestMetadata} {auditResult : String}
    {rotatedSession : Option RefreshTokenRecord}
    (hread : ∀ c : Command, c.Within [] → ∀ i s, J s → A s c i → G s c i ∧ J (b c i s).2)
    (hstore : ∀ data, SessionData user rotatedSession data → ∀ i s, J s →
      A s (storeCommand rotatedSession data) i → G s (storeCommand rotatedSession data) i ∧
        K (b (storeCommand rotatedSession data) i s).2)
    (hafter : ∀ c : Command, c.Within [.updateUser, .audit] → ∀ i s, K s → A s c i →
      G s c i ∧ K (b c i s).2)
    {s : S} (hs : J s) :
    (issueSession P user metadata auditResult rotatedSession).wp b A G
      (fun outcome s' => ∀ result, outcome = .ok result → K s' ∧
        ∃ tenant, activeTenant user = some tenant ∧ result.user = presentUser user.user tenant)
      s := by
  have hreads : ∀ {β : Type} {p : Program authInterface β}, p.Issues (Command.Within []) →
      ∀ s, J s → p.wp b A G (fun _ s' => J s') s :=
    fun hp => Program.wp_of_issues hp hread
  have hafters : ∀ {β : Type} {p : Program authInterface β},
      p.Issues (Command.Within [.updateUser, .audit]) →
      ∀ s, K s → p.wp b A G (fun _ s' => K s') s :=
    fun hp => Program.wp_of_issues hp hafter
  unfold issueSession
  cases htenant : activeTenant user with
  | none => exact fun _ h => by cases h
  | some tenant =>
      refine Program.wp_bind (hreads (Program.Issues.perform (within_external .now)) s hs)
        (fun now s₁ hs₁ => ?_) fun _ _ _ _ h => by cases h
      refine Program.wp_ofExcept_bind (fun accessToken _ => ?_) fun _ _ _ h => by cases h
      refine Program.wp_bind (hreads (Program.Issues.perform (within_external .randomUUID)) s₁ hs₁)
        (fun familyId s₂ hs₂ => ?_) fun _ _ _ _ h => by cases h
      refine Program.wp_bind (hreads (by simp [randomToken]) s₂ hs₂)
        (fun refreshToken s₃ hs₃ => ?_) fun _ _ _ _ h => by cases h
      refine Program.wp_ofExcept_bind (fun seconds _ => ?_) fun _ _ _ h => by cases h
      refine Program.wp_bind (hreads (by simp [expiresIn]) s₃ hs₃)
        (fun expiresAt s₄ hs₄ => ?_) fun _ _ _ _ h => by cases h
      have hdata : SessionData user rotatedSession {
          expiresAt := expiresAt
          familyId := (rotatedSession.map fun session => session.token.familyId).getD familyId
          tenantId := (presentUser user.user tenant).tenant.id
          tokenHash := hashRefreshToken P refreshToken
          userId := (presentUser user.user tenant).id
          ipHash := hashMetadata P metadata.ip
          userAgent := present metadata.userAgent } := by
        refine ⟨rfl, ?_, tenant, htenant, rfl⟩
        rintro session rfl
        rfl
      refine Program.wp_bind (Q := fun _ s' => K s') ?_ (fun _ s₅ hs₅ => ?_)
        fun _ _ _ _ h => by cases h
      · cases rotatedSession with
        | none =>
            intro i hi
            obtain ⟨hG, hK⟩ := hstore _ hdata i s₄ hs₄ hi
            refine ⟨hG, ?_⟩
            dsimp only [storeCommand] at hK
            cases (b _ i s₄).1 <;> exact hK
        | some session =>
            intro i hi
            obtain ⟨hG, hK⟩ := hstore _ hdata i s₄ hs₄ hi
            refine ⟨hG, ?_⟩
            dsimp only [storeCommand] at hK
            cases (b _ i s₄).1 <;> exact hK
      · refine Program.wp_bind (Q := fun _ s' => K s') ?_ (fun _ s₆ hs₆ => ?_)
          fun _ _ _ _ h => by cases h
        · refine hafters (Program.Issues.perform ?_) s₅ hs₅
          simp [Write.kind]
        · have hdone : ∀ s' result,
              (Except.ok (⟨accessToken.token, accessToken.expiresAt, presentUser user.user tenant,
                refreshToken⟩ : AuthResult) : Except ServiceError AuthResult) = .ok result →
              K s' → K s' ∧ ∃ tenant', some tenant = some tenant' ∧
                result.user = presentUser user.user tenant' := by
            intro s' result hresult hK
            obtain rfl := Except.ok.inj hresult
            exact ⟨hK, tenant, rfl, rfl⟩
          split
          · refine Program.wp_bind (Q := fun _ s' => K s') ?_ (fun _ s₇ hs₇ => ?_)
              fun _ _ _ _ h => by cases h
            · exact hafters (by simp) s₆ hs₆
            · exact fun result hresult => hdone s₇ result hresult hs₇
          · exact fun result hresult => hdone s₆ result hresult hs₆

theorem issueSession_wp (P : Platform) {S : Type} {b : Backend authInterface AuthInput S}
    {A G : S → authInterface.Command → AuthInput → Prop} {J : S → Prop} {user : AuthUserRecord}
    {metadata : AuthRequestMetadata} {auditResult : String}
    {rotatedSession : Option RefreshTokenRecord}
    (hread : ∀ c : Command, c.Within [] → ∀ i s, J s → A s c i → G s c i ∧ J (b c i s).2)
    (hstore : ∀ data, SessionData user rotatedSession data → ∀ i s, J s →
      A s (storeCommand rotatedSession data) i → G s (storeCommand rotatedSession data) i)
    (hafter : ∀ c : Command, c.Within [.updateUser, .audit] → ∀ i s, A s c i → G s c i)
    {s : S} (hs : J s) :
    (issueSession P user metadata auditResult rotatedSession).wp b A G (fun _ _ => True) s := by
  refine Program.wp_mono (issueSession_wp_answer P (K := fun _ => True) hread ?_ ?_ hs)
    fun _ _ _ => trivial
  · exact fun data hdata i s hs hi => ⟨hstore data hdata i s hs hi, trivial⟩
  · exact fun c hc i s _ hi => ⟨hafter c hc i s hi, trivial⟩

theorem storeRefreshToken_obeys {C : List (Event authInterface) → Command → Prop}
    {J : List (Event authInterface) → Prop} {rotatedSession : Option RefreshTokenRecord}
    {data : RefreshTokenData} {h : List (Event authInterface)}
    (hstore : C h (storeCommand rotatedSession data)) (hgrow : ∀ h e, J h → J (h ++ [e]))
    (hJ : J h) :
    (storeRefreshToken rotatedSession data).Obeys C
      (fun h' outcome => J h' ∧
        (outcome = .ok () → Succeeded (storeCommand rotatedSession data) h')) h := by
  cases rotatedSession with
  | none =>
      refine ⟨hstore, fun x => ?_⟩
      cases x with
      | ok u => exact ⟨hgrow _ _ hJ, fun _ => succeeded_append_singleton rfl⟩
      | error e => exact ⟨hgrow _ _ hJ, fun h => by cases h⟩
  | some session =>
      refine ⟨hstore, fun x => ?_⟩
      cases x with
      | ok u => exact ⟨hgrow _ _ hJ, fun _ => succeeded_append_singleton rfl⟩
      | error e => exact ⟨hgrow _ _ hJ, fun h => by cases h⟩

theorem issueSession_obeys (P : Platform) {C : List (Event authInterface) → Command → Prop}
    {Q : List (Event authInterface) → Except ServiceError AuthResult → Prop}
    {J : List (Event authInterface) → Prop} {user : AuthUserRecord}
    {metadata : AuthRequestMetadata} {auditResult : String}
    {rotatedSession : Option RefreshTokenRecord} (hgrow : ∀ h e, J h → J (h ++ [e]))
    (hread : ∀ c : Command, c.Within [.updateUser, .audit] → ∀ h, C h c)
    (hstore : ∀ data, SessionData user rotatedSession data → ∀ h, J h →
      C h (storeCommand rotatedSession data))
    (hok : ∀ data h result, J h → Succeeded (storeCommand rotatedSession data) h →
      Q h (.ok result))
    (herr : ∀ h error, Q h (.error error)) {h : List (Event authInterface)} (hJ : J h) :
    (issueSession P user metadata auditResult rotatedSession).Obeys C Q h := by
  have hreads : ∀ {β : Type} {p : Program authInterface β}, p.Issues (Command.Within []) →
      ∀ h, J h → p.Obeys C (fun h' _ => J h') h :=
    fun hp h hJ => hp.obeys (fun c hc h _ => hread c (hc.mono (List.nil_subset _)) h) hgrow hJ
  unfold issueSession
  cases htenant : activeTenant user with
  | none => exact herr h _
  | some tenant =>
      refine Program.Obeys.bind (hreads (Program.Issues.perform (within_external .now)) h hJ)
        (fun h₁ now hJ => ?_) fun h₁ error _ => herr h₁ error
      refine Program.Obeys.ofExcept_bind (fun accessToken _ => ?_) fun error _ => herr h₁ error
      refine Program.Obeys.bind
        (hreads (Program.Issues.perform (within_external .randomUUID)) h₁ hJ)
        (fun h₂ familyId hJ => ?_) fun h₂ error _ => herr h₂ error
      refine Program.Obeys.bind (hreads (by simp [randomToken]) h₂ hJ)
        (fun h₃ refreshToken hJ => ?_) fun h₃ error _ => herr h₃ error
      refine Program.Obeys.ofExcept_bind (fun seconds _ => ?_) fun error _ => herr h₃ error
      refine Program.Obeys.bind (hreads (by simp [expiresIn]) h₃ hJ)
        (fun h₄ expiresAt hJ => ?_) fun h₄ error _ => herr h₄ error
      have hdata : SessionData user rotatedSession {
          expiresAt := expiresAt
          familyId := (rotatedSession.map fun session => session.token.familyId).getD familyId
          tenantId := (presentUser user.user tenant).tenant.id
          tokenHash := hashRefreshToken P refreshToken
          userId := (presentUser user.user tenant).id
          ipHash := hashMetadata P metadata.ip
          userAgent := present metadata.userAgent } := by
        refine ⟨rfl, ?_, tenant, htenant, rfl⟩
        rintro session rfl
        rfl
      refine Program.Obeys.bind (storeRefreshToken_obeys (hstore _ hdata h₄ hJ) hgrow hJ)
        (fun h₅ _ h₅' => ?_) fun h₅ error _ => herr h₅ error
      obtain ⟨hJ, hstored⟩ := h₅'
      have hdone : J h₅ ∧ Succeeded (storeCommand rotatedSession _) h₅ := ⟨hJ, hstored rfl⟩
      have hafter : ∀ {β : Type} {p : Program authInterface β} {c : Command},
          p.Issues (Command.Within [.updateUser, .audit]) → ∀ h, (J h ∧ Succeeded c h) →
          p.Obeys C (fun h' _ => J h' ∧ Succeeded c h') h :=
        fun hp h hJ => hp.obeys (fun c hc h _ => hread c hc h)
          (fun h e hJ => ⟨hgrow h e hJ.1, hJ.2.append e⟩) hJ
      refine Program.Obeys.bind (hafter (Program.Issues.perform ?_) h₅ hdone)
        (fun h₆ _ h₆' => ?_) fun h₆ error _ => herr h₆ error
      · simp [Write.kind]
      · split
        · refine Program.Obeys.bind (hafter (by simp) h₆ h₆') (fun h₇ _ h₇' => ?_)
            fun h₇ error _ => herr h₇ error
          exact hok _ h₇ _ h₇'.1 h₇'.2
        · exact hok _ h₆ _ h₆'.1 h₆'.2

end Logistics.Auth
