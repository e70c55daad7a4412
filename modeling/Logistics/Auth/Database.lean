import Mathlib.Data.List.Sort
import Logistics.Auth.Platform
import Logistics.Library.Interleaving

/-!
# The calls of the identity services

What `AuthService` and `UsersService` call: reads of the store, writes (a single
statement, or a transaction of several that happen together or not at all), and
what lies outside the database: the clock, random bytes, the login attempt
counter, the identity provider and the mail delivery. A call that the database
breaks off is a fault and changes nothing.
-/

namespace Logistics.Auth

open Logistics.Library

variable [Collation]

/-! ## Reads -/

/-- The conditions of `prisma.user` reads; an absent one selects every row. -/
structure UserFilter where
  id : Option Id := none
  tenantId : Option Id := none
  email : Option String := none
  status : Option UserStatus := none
  notStatus : Option UserStatus := none
  role : Option UserRole := none
  activeTenant : Bool := false
  tenantSlug : Option String := none

inductive Query
  | findUser (filter : UserFilter)
  | findUsers (filter : UserFilter) (take : ℕ)
  | countUsers (filter : UserFilter)
  | findTenantBySlug (slug : String)
  | findActiveTenantBySlug (slug : String)
  | findRefreshTokenByHash (tokenHash : String)
  /-- An active user with its twenty latest refresh tokens. -/
  | findProfile (userId tenantId : Id)
  | findMfaChallenge (challengeTokenHash : String)
  | findRecoveryCode (tenantId userId : Id) (codeHash : String)
  | findPasswordReset (tokenHash : String)
  | findOAuthState (provider : OAuthProvider) (stateHash : String)
  | findCompletionState (stateHash : String)
  | findOAuthAccount (provider : OAuthProvider) (providerUserId : String)
  | findInvitation (tokenHash : String)

@[reducible] def Query.Result : Query → Type
  | .findUser _ => Option AuthUserRecord
  | .findUsers .. => List AuthUserRecord
  | .countUsers _ => ℕ
  | .findTenantBySlug _ | .findActiveTenantBySlug _ => Option Tenant
  | .findRefreshTokenByHash _ => Option RefreshTokenRecord
  | .findProfile .. => Option ProfileRecord
  | .findMfaChallenge _ => Option MfaChallengeRecord
  | .findRecoveryCode .. => Option MfaRecoveryCode
  | .findPasswordReset _ => Option PasswordResetToken
  | .findOAuthState .. | .findCompletionState _ => Option OAuthState
  | .findOAuthAccount .. => Option OAuthAccountRecord
  | .findInvitation _ => Option UserInvitation

def findTenant (s : AuthStore) (id : Id) : Option Tenant :=
  s.tenants.rows.find? fun row => row.id == id

/-- A user with the rows its reads include. -/
def userRecord (s : AuthStore) (user : User) : AuthUserRecord where
  user := user
  tenant := user.tenantId.bind (findTenant s)
  oauthAccounts := s.oauthAccounts.rows.filter fun row => row.userId == user.id

def UserFilter.selects (filter : UserFilter) (s : AuthStore) (row : User) : Bool :=
  filter.id.all (row.id == ·) &&
    filter.tenantId.all (fun tenantId => row.tenantId == some tenantId) &&
    filter.email.all (collates row.email) &&
    filter.status.all (row.status == ·) &&
    filter.notStatus.all (row.status != ·) &&
    filter.role.all (row.role == ·) &&
    (!filter.activeTenant || (userRecord s row).tenant.any Tenant.active) &&
    filter.tenantSlug.all fun slug =>
      (userRecord s row).tenant.any fun tenant => collates tenant.slug slug

def findUserById (s : AuthStore) (id : Id) : Option AuthUserRecord :=
  (s.users.rows.find? fun row => row.id == id).map (userRecord s)

/-- Unexpired and not used, at the clock of the read. -/
def isOpen (expiresAt : Time) (usedAt : Option Time) (now : Time) : Bool :=
  now < expiresAt && usedAt.isNone

def Query.answer (s : AuthStore) (now : Time) : (q : Query) → q.Result
  | .findUser filter => (s.users.rows.find? (filter.selects s)).map (userRecord s)
  | .findUsers filter take =>
      ((s.users.rows.filter (filter.selects s)).take take).map (userRecord s)
  | .countUsers filter => (s.users.rows.filter (filter.selects s)).length
  | .findTenantBySlug slug => s.tenants.rows.find? fun row => collates row.slug slug
  | .findActiveTenantBySlug slug =>
      s.tenants.rows.find? fun row => collates row.slug slug && row.active
  | .findRefreshTokenByHash tokenHash => do
      let token ← s.refreshTokens.rows.find? fun row => row.tokenHash == tokenHash
      let user ← findUserById s token.userId
      pure ⟨token, user⟩
  | .findProfile userId tenantId => do
      let user ← s.users.rows.find? fun row =>
        row.id == userId && row.tenantId == some tenantId && row.status == .active
      pure ⟨userRecord s user,
        ((s.refreshTokens.rows.filter fun row => row.userId == userId).insertionSort
          fun a b => b.createdAt ≤ a.createdAt).take 20⟩
  | .findMfaChallenge challengeTokenHash => do
      let challenge ← s.mfaChallenges.rows.find? fun row =>
        row.challengeTokenHash == challengeTokenHash && isOpen row.expiresAt row.usedAt now
      let user ← findUserById s challenge.userId
      pure ⟨challenge, user⟩
  | .findRecoveryCode tenantId userId codeHash =>
      s.mfaRecoveryCodes.rows.find? fun row =>
        row.codeHash == codeHash && row.tenantId == tenantId && row.userId == userId &&
          row.usedAt.isNone
  | .findPasswordReset tokenHash =>
      s.passwordResetTokens.rows.find? fun row =>
        row.tokenHash == tokenHash && isOpen row.expiresAt row.usedAt now
  | .findOAuthState provider stateHash =>
      s.oauthStates.rows.find? fun row =>
        row.provider == provider && row.stateHash == stateHash &&
          isOpen row.expiresAt row.usedAt now
  | .findCompletionState stateHash =>
      s.oauthStates.rows.find? fun row =>
        row.mode.val == "complete_registration" && row.stateHash == stateHash &&
          isOpen row.expiresAt row.usedAt now
  | .findOAuthAccount provider providerUserId => do
      let account ← s.oauthAccounts.rows.find? fun row =>
        row.provider == provider && row.providerUserId == providerUserId
      let user ← findUserById s account.userId
      pure ⟨account, user⟩
  | .findInvitation tokenHash =>
      s.userInvitations.rows.find? fun row =>
        row.tokenHash == tokenHash && row.status == .pending && now < row.expiresAt

/-! ## Writes -/

structure RegisterTenantData where
  companyName : String
  slug : String
  email : String
  name : String
  passwordHash : String
  requestId : Option String

structure RefreshTokenData where
  expiresAt : Time
  familyId : Id
  tenantId : Id
  tokenHash : String
  userId : Id
  ipHash : Option String
  userAgent : Option String

structure UserData where
  tenantId : Option Id
  email : String
  name : String
  passwordHash : Option String
  passwordChangeRequired : Bool
  role : UserRole
  status : UserStatus

/-- What a single update of a user changes. -/
inductive UserChange
  | profile (name : String)
  | lastLogin
  | mfaSetup (secret : SealedSecret)
  | admin (name : Option String) (role : Option UserRole) (status : Option UserStatus)
  | approve (role : UserRole)

structure OAuthStateData where
  expiresAt : Time
  mode : String
  provider : OAuthProvider
  stateHash : String
  tenantId : Option Id
  userId : Option Id
  metadata : List (String × Option String)

structure OnboardingChange where
  companyDone : Option Bool
  branchDone : Option Bool
  inviteDone : Option Bool
  completed : Option Bool
  currentStep : Option String

structure InvitationData where
  email : String
  expiresAt : Time
  invitedById : Id
  role : UserRole
  tenantId : Id
  tokenHash : String

inductive Write
  | registerTenant (data : RegisterTenantData)
  | createRefreshToken (data : RefreshTokenData)
  | rotateRefreshToken (currentTokenId : Id) (data : RefreshTokenData)
  | revokeRefreshToken (tokenId : Id)
  | revokeRefreshTokenFamily (familyId : Id)
  | revokeSession (sessionId tenantId userId : Id)
  /-- The live tokens of a user within a tenant, save the one with this hash. -/
  | revokeSessions (tenantId userId : Id) (exceptHash : Option String)
  | changePassword (userId tenantId : Id) (passwordHash : String)
  | resetPassword (userId resetId : Id) (passwordHash : String)
  | requestPasswordReset (userId : Id) (tenantId : Option Id) (emailHash tokenHash : String)
      (expiresAt : Time)
  | createMfaChallenge (challengeTokenHash : String) (expiresAt : Time) (tenantId userId : Id)
  | useMfaChallenge (id : Id)
  | useRecoveryCode (id : Id)
  | confirmMfa (userId tenantId : Id) (codeHashes : List String)
  | disableMfa (userId tenantId : Id)
  | resetMfa (userId tenantId : Id)
  | createUser (data : UserData)
  | updateUser (id : Id) (change : UserChange)
  | createOAuthState (data : OAuthStateData)
  | useOAuthState (id : Id)
  | completeRegistration (stateId userId tenantId : Id)
  | createIncompleteUser (identity : OAuthIdentity) (state : OAuthStateData)
  | linkAccount (userId tenantId : Id) (identity : OAuthIdentity)
  | unlinkAccounts (userId tenantId : Id) (provider : OAuthProvider)
  | upsertOnboarding (tenantId : Id) (create : TenantOnboarding) (update : OnboardingChange)
  | completeOnboardingSettings (tenantId : Id)
  | upsertInvitation (data : InvitationData)
  | acceptInvitation (invitation : UserInvitation) (name passwordHash : String)
      (requestId : Option String)
  | recordAudit (record : AuthAuditRecord)

@[reducible] def Write.Result : Write → Type
  | .registerTenant _ | .createUser _ | .updateUser .. | .acceptInvitation .. => AuthUserRecord
  | .createIncompleteUser .. => User
  | .upsertOnboarding .. => TenantOnboarding
  | .upsertInvitation _ => UserInvitation
  | _ => Unit

def refreshTokenRow (input : AuthInput) (data : RefreshTokenData) : RefreshToken where
  id := input.ids 0
  tenantId := data.tenantId
  userId := data.userId
  tokenHash := data.tokenHash
  familyId := data.familyId
  userAgent := data.userAgent
  ipHash := data.ipHash
  expiresAt := data.expiresAt
  revokedAt := none
  createdAt := input.now
  rotatedAt := none

def RefreshToken.revoke (now : Time) (row : RefreshToken) : RefreshToken :=
  { row with revokedAt := some now }

def RefreshToken.rotate (now : Time) (row : RefreshToken) : RefreshToken :=
  { row with revokedAt := some now, rotatedAt := some now }

def userRow (input : AuthInput) (data : UserData) (branchId : Option Id) : User where
  id := input.ids 0
  tenantId := data.tenantId
  branchId := branchId
  name := data.name
  email := data.email
  passwordHash := data.passwordHash
  role := data.role
  status := data.status
  mfaEnabled := false
  mfaSecret := none
  passwordChangeRequired := data.passwordChangeRequired
  lastLoginAt := none
  deletedAt := none
  createdAt := input.now

def UserChange.apply (now : Time) (row : User) : UserChange → User
  | .profile name => { row with name }
  | .lastLogin => { row with lastLoginAt := some now }
  | .mfaSetup secret => { row with mfaSecret := some secret, mfaEnabled := false }
  | .admin name role status =>
      { row with
        name := name.getD row.name
        role := role.getD row.role
        status := status.getD row.status
        deletedAt := match status with
          | some .deleted => some now
          | some _ => none
          | none => row.deletedAt }
  | .approve role => { row with role, status := .active }

theorem UserChange.apply_keys (now : Time) (change : UserChange) (row : User) :
    (change.apply now row).keys = row.keys := by
  cases change <;> rfl

def setPassword (passwordHash : String) (row : User) : User :=
  { row with passwordChangeRequired := false, passwordHash := some passwordHash }

def enableMfa (row : User) : User :=
  { row with mfaEnabled := true }

def clearMfa (row : User) : User :=
  { row with mfaEnabled := false, mfaSecret := none }

/-- A unique key is violated. -/
def orViolation {α : Type} (result : Option α) : Except ServiceError α :=
  result.elim (.error .uniqueViolation) .ok

/-- A text that is too long for its column breaks the call off. -/
def requireFits (limit : ℕ) (text : Option String) : Except ServiceError Unit :=
  if text.all (fitsColumn limit) then .ok () else .error .fault

/-- The row to update is not there. -/
def requireRow {α : Type} (rows : List α) (p : α → Bool) : Except ServiceError Unit :=
  if rows.any p then .ok () else .error .recordNotFound

def updateUsers (s : AuthStore) (id : Id) (f : User → User) (hf : ∀ row, (f row).keys = row.keys) :
    AuthStore :=
  { s with users := s.users.modify (fun row => row.id == id) f hf }

/-- Revoke the tokens selected by `p`. -/
def revokeTokens (s : AuthStore) (p : RefreshToken → Bool) (now : Time) : AuthStore :=
  { s with refreshTokens := s.refreshTokens.modify p (.revoke now) fun _ => rfl }

def moveAccounts (s : AuthStore) (userId tenantId : Id) :
    Option (Table OAuthAccount OAuthAccountKey OAuthAccount.keys) :=
  s.oauthAccounts.tryUpdate (fun row => row.userId == userId)
    fun row => { row with tenantId := some tenantId }

def OnboardingChange.apply (change : OnboardingChange) (row : TenantOnboarding) :
    TenantOnboarding :=
  { row with
    companyDone := change.companyDone.getD row.companyDone
    branchDone := change.branchDone.getD row.branchDone
    inviteDone := change.inviteDone.getD row.inviteDone
    completed := change.completed.getD row.completed
    currentStep := change.currentStep.getD row.currentStep }

def auditRecord (action : AuditAction) (actorId entityId : Option Id)
    (entityType : Option String) (metadata : List (String × Option String))
    (tenantId : Option Id) : AuthAuditRecord :=
  ⟨action, actorId, entityId, entityType, none, metadata, none, tenantId⟩

def oauthStateRow (id : Id) (data : OAuthStateData) : Except ServiceError OAuthState := do
  let mode ← (varChar? 20 data.mode).elim (.error .fault) .ok
  pure ⟨id, data.stateHash, data.provider, mode, data.tenantId, data.userId, data.metadata,
    data.expiresAt, none⟩

def mainBranchRow (input : AuthInput) (tenantId : Id) : Branch where
  id := input.ids 2
  tenantId := tenantId
  name := "Matriz"
  code := "MATRIZ"
  postalCode := none
  street := none
  number := none
  complement := none
  district := none
  city := none
  state := none
  country := "BR"
  email := none
  phone := none
  main := true
  active := true
  createdAt := input.now
  updatedAt := input.now

/-- The transaction of `registerTenant`: the tenant with its settings and
onboarding, the main branch, the administrator and the audit record. -/
def registerTenantRows (s : AuthStore) (input : AuthInput) (data : RegisterTenantData) :
    Except ServiceError (AuthUserRecord × AuthStore) := do
  let tenant : Tenant := ⟨input.ids 1, data.companyName, data.slug, true⟩
  let tenants ← orViolation (s.tenants.tryInsert tenant)
  let tenantSettings ← orViolation (s.tenantSettings.tryInsert
    ⟨tenant.id, "BR", "BRL", "America/Sao_Paulo", false⟩)
  let tenantOnboardings ← orViolation (s.tenantOnboardings.tryInsert
    ⟨tenant.id, true, false, false, false, "branch"⟩)
  let branches ← orViolation (s.branches.tryInsert (mainBranchRow input tenant.id))
  let user := userRow input
    ⟨some tenant.id, data.email, data.name, some data.passwordHash, false, .admin, .active⟩
    (some (input.ids 2))
  let users ← orViolation (s.users.tryInsert user)
  requireFits 64 data.requestId
  let audit : AuthAuditRecord := ⟨.tenantRegistered, some user.id, some tenant.id, some "Tenant",
    none, [("source", some "public_register")], data.requestId, some tenant.id⟩
  pure (⟨user, some tenant, []⟩,
    { s with tenants, tenantSettings, tenantOnboardings, branches, users
             auditLogs := s.auditLogs ++ [audit] })

/-- The transaction of `acceptInvite`. -/
def acceptInvitationRows (s : AuthStore) (input : AuthInput) (invitation : UserInvitation)
    (name passwordHash : String) (requestId : Option String) :
    Except ServiceError (AuthUserRecord × AuthStore) := do
  let user := userRow input
    ⟨some invitation.tenantId, invitation.email, name, some passwordHash, false,
      invitation.role, .active⟩ none
  let users ← orViolation (s.users.tryInsert user)
  requireRow s.userInvitations.rows fun row => row.id == invitation.id
  let userInvitations ← orViolation (s.userInvitations.tryUpdate
    (fun row => row.id == invitation.id) fun row =>
      { row with acceptedAt := some input.now, acceptedById := some user.id, status := .accepted })
  requireFits 64 requestId
  let audit : AuthAuditRecord := ⟨.userCreated, some user.id, some user.id, some "User", none,
    [("invited", some "true")], requestId, some invitation.tenantId⟩
  let s' := { s with users, userInvitations, auditLogs := s.auditLogs ++ [audit] }
  pure (userRecord s' user, s')

/-- The transaction of `createIncompleteOAuthUser`. -/
def createIncompleteRows (s : AuthStore) (input : AuthInput) (identity : OAuthIdentity)
    (state : OAuthStateData) : Except ServiceError (User × AuthStore) := do
  let user := userRow input ⟨none, identity.email, identity.name, none, false, .operator,
    .incomplete⟩ none
  let users ← orViolation (s.users.tryInsert user)
  let oauthAccounts ← orViolation (s.oauthAccounts.tryInsert
    ⟨input.ids 1, none, user.id, identity.provider, identity.providerUserId, identity.email⟩)
  let row ← oauthStateRow (input.ids 2) { state with userId := some user.id }
  let oauthStates ← orViolation (s.oauthStates.tryInsert row)
  pure (user, { s with users, oauthAccounts, oauthStates })

/-- The transaction of `completeOAuthRegistration`. -/
def completeRegistrationRows (s : AuthStore) (input : AuthInput) (stateId userId tenantId : Id) :
    Except ServiceError (Unit × AuthStore) := do
  requireRow s.users.rows fun row => row.id == userId
  let users ← orViolation (s.users.tryUpdate (fun row => row.id == userId) fun row =>
    { row with role := .operator, status := .pending, tenantId := some tenantId })
  let oauthAccounts ← orViolation (moveAccounts s userId tenantId)
  requireRow s.oauthStates.rows fun row => row.id == stateId
  let oauthStates := s.oauthStates.modify (fun row => row.id == stateId)
    (fun row => { row with tenantId := some tenantId, usedAt := some input.now }) fun _ => rfl
  let audit := auditRecord .userUpdated (some userId) (some userId) (some "User")
    [("operation", some "oauth_complete_registration"), ("status", some "PENDING")]
    (some tenantId)
  pure ((), { s with users, oauthAccounts, oauthStates, auditLogs := s.auditLogs ++ [audit] })

/-- The transaction of `confirmMfa`: the old recovery codes make room for the
new ones. -/
def confirmMfaRows (s : AuthStore) (input : AuthInput) (userId tenantId : Id)
    (codeHashes : List String) : Except ServiceError (Unit × AuthStore) := do
  let remaining := s.mfaRecoveryCodes.delete fun row =>
    row.userId == userId && row.tenantId == tenantId
  requireRow s.users.rows fun row => row.id == userId
  let codes := codeHashes.mapIdx fun i codeHash =>
    (⟨input.ids i, tenantId, userId, codeHash, none⟩ : MfaRecoveryCode)
  let mfaRecoveryCodes ← orViolation (remaining.tryInsertAll codes)
  pure ((), { updateUsers s userId enableMfa (fun _ => rfl) with mfaRecoveryCodes })

/-- `OAuthAccount` upsert on the tenant, the user and the provider. -/
def linkAccountRows (s : AuthStore) (input : AuthInput) (userId tenantId : Id)
    (identity : OAuthIdentity) : Except ServiceError (Unit × AuthStore) := do
  let selects := fun row : OAuthAccount =>
    row.tenantId == some tenantId && row.userId == userId && row.provider == identity.provider
  let oauthAccounts ←
    if s.oauthAccounts.rows.any selects then
      orViolation (s.oauthAccounts.tryUpdate selects fun row =>
        { row with email := identity.email, providerUserId := identity.providerUserId })
    else
      orViolation (s.oauthAccounts.tryInsert ⟨input.ids 0, some tenantId, userId,
        identity.provider, identity.providerUserId, identity.email⟩)
  pure ((), { s with oauthAccounts })

/-- `UserInvitation` upsert on the pending one of the tenant and the address. -/
def upsertInvitationRows (s : AuthStore) (input : AuthInput) (data : InvitationData) :
    Except ServiceError (UserInvitation × AuthStore) :=
  let selects := fun row : UserInvitation =>
    row.tenantId == data.tenantId && collates row.email data.email && row.status == .pending
  let renewed := fun row : UserInvitation =>
    { row with
      expiresAt := data.expiresAt, invitedById := data.invitedById, role := data.role
      tokenHash := data.tokenHash }
  match s.userInvitations.rows.find? selects with
  | some row => do
      let userInvitations ← orViolation (s.userInvitations.tryUpdate selects renewed)
      pure (renewed row, { s with userInvitations })
  | none => do
      let row : UserInvitation := ⟨input.ids 0, data.tenantId, data.email, data.role,
        data.tokenHash, .pending, data.invitedById, none, data.expiresAt, none⟩
      let userInvitations ← orViolation (s.userInvitations.tryInsert row)
      pure (row, { s with userInvitations })

def Write.apply (s : AuthStore) (input : AuthInput) :
    (w : Write) → Except ServiceError (w.Result × AuthStore)
  | .registerTenant data => registerTenantRows s input data
  | .createRefreshToken data => do
      requireFits 255 data.userAgent
      let refreshTokens ← orViolation (s.refreshTokens.tryInsert (refreshTokenRow input data))
      pure ((), { s with refreshTokens })
  | .rotateRefreshToken currentTokenId data => do
      requireRow s.refreshTokens.rows fun row => row.id == currentTokenId
      let revoked := s.refreshTokens.modify (fun row => row.id == currentTokenId)
        (.rotate input.now) fun _ => rfl
      requireFits 255 data.userAgent
      let refreshTokens ← orViolation (revoked.tryInsert (refreshTokenRow input data))
      pure ((), { s with refreshTokens })
  | .revokeRefreshToken tokenId => do
      requireRow s.refreshTokens.rows fun row => row.id == tokenId
      pure ((), revokeTokens s (fun row => row.id == tokenId) input.now)
  | .revokeRefreshTokenFamily familyId =>
      .ok ((), revokeTokens s (fun row => row.familyId == familyId && row.revokedAt.isNone)
        input.now)
  | .revokeSession sessionId tenantId userId =>
      .ok ((), revokeTokens s (fun row =>
        row.id == sessionId && row.tenantId == tenantId && row.userId == userId) input.now)
  | .revokeSessions tenantId userId exceptHash =>
      .ok ((), revokeTokens s (fun row =>
        row.tenantId == tenantId && row.userId == userId && row.revokedAt.isNone &&
          exceptHash.all (row.tokenHash != ·)) input.now)
  | .changePassword userId tenantId passwordHash => do
      requireRow s.users.rows fun row => row.id == userId
      let s' := updateUsers s userId (setPassword passwordHash) fun _ => rfl
      pure ((), revokeTokens s' (fun row =>
        row.userId == userId && row.tenantId == tenantId && row.revokedAt.isNone) input.now)
  | .resetPassword userId resetId passwordHash => do
      requireRow s.users.rows fun row => row.id == userId
      requireRow s.passwordResetTokens.rows fun row => row.id == resetId
      let s' := updateUsers s userId (setPassword passwordHash) fun _ => rfl
      let passwordResetTokens := s.passwordResetTokens.modify (fun row => row.id == resetId)
        (fun row => { row with usedAt := some input.now }) fun _ => rfl
      pure ((), revokeTokens { s' with passwordResetTokens }
        (fun row => row.userId == userId && row.revokedAt.isNone) input.now)
  | .requestPasswordReset userId tenantId emailHash tokenHash expiresAt => do
      let used := s.passwordResetTokens.modify
        (fun row => row.userId == some userId && row.tenantId == tenantId && row.usedAt.isNone)
        (fun row => { row with usedAt := some input.now }) fun _ => rfl
      let passwordResetTokens ← orViolation (used.tryInsert
        ⟨input.ids 0, tenantId, some userId, emailHash, tokenHash, expiresAt, none⟩)
      pure ((), { s with passwordResetTokens })
  | .createMfaChallenge challengeTokenHash expiresAt tenantId userId => do
      let mfaChallenges ← orViolation (s.mfaChallenges.tryInsert
        ⟨input.ids 0, tenantId, userId, challengeTokenHash, expiresAt, none⟩)
      pure ((), { s with mfaChallenges })
  | .useMfaChallenge id => do
      requireRow s.mfaChallenges.rows fun row => row.id == id
      let mfaChallenges := s.mfaChallenges.modify (fun row => row.id == id)
        (fun row => { row with usedAt := some input.now }) fun _ => rfl
      pure ((), { s with mfaChallenges })
  | .useRecoveryCode id => do
      requireRow s.mfaRecoveryCodes.rows fun row => row.id == id
      let mfaRecoveryCodes := s.mfaRecoveryCodes.modify (fun row => row.id == id)
        (fun row => { row with usedAt := some input.now }) fun _ => rfl
      pure ((), { s with mfaRecoveryCodes })
  | .confirmMfa userId tenantId codeHashes => confirmMfaRows s input userId tenantId codeHashes
  | .disableMfa userId tenantId => do
      requireRow s.users.rows fun row => row.id == userId
      let mfaRecoveryCodes := s.mfaRecoveryCodes.delete fun row =>
        row.tenantId == tenantId && row.userId == userId
      pure ((), { updateUsers s userId clearMfa (fun _ => rfl) with mfaRecoveryCodes })
  | .resetMfa userId tenantId => do
      requireRow s.users.rows fun row => row.id == userId
      let mfaRecoveryCodes := s.mfaRecoveryCodes.delete fun row =>
        row.tenantId == tenantId && row.userId == userId
      let mfaChallenges := s.mfaChallenges.modify
        (fun row => row.tenantId == tenantId && row.userId == userId && row.usedAt.isNone)
        (fun row => { row with usedAt := some input.now }) fun _ => rfl
      pure ((), { updateUsers s userId clearMfa (fun _ => rfl) with
        mfaRecoveryCodes, mfaChallenges })
  | .createUser data => do
      let user := userRow input data none
      let users ← orViolation (s.users.tryInsert user)
      let s' := { s with users }
      pure (userRecord s' user, s')
  | .updateUser id change =>
      match s.users.rows.find? fun row => row.id == id with
      | none => .error .recordNotFound
      | some row =>
          let s' := updateUsers s id (change.apply input.now) (change.apply_keys input.now)
          .ok (userRecord s' (change.apply input.now row), s')
  | .createOAuthState data => do
      let row ← oauthStateRow (input.ids 0) data
      let oauthStates ← orViolation (s.oauthStates.tryInsert row)
      pure ((), { s with oauthStates })
  | .useOAuthState id => do
      requireRow s.oauthStates.rows fun row => row.id == id
      let oauthStates := s.oauthStates.modify (fun row => row.id == id)
        (fun row => { row with usedAt := some input.now }) fun _ => rfl
      pure ((), { s with oauthStates })
  | .completeRegistration stateId userId tenantId =>
      completeRegistrationRows s input stateId userId tenantId
  | .createIncompleteUser identity state => createIncompleteRows s input identity state
  | .linkAccount userId tenantId identity => linkAccountRows s input userId tenantId identity
  | .unlinkAccounts userId tenantId provider =>
      let oauthAccounts := s.oauthAccounts.delete fun row =>
        row.tenantId == some tenantId && row.userId == userId && row.provider == provider
      .ok ((), { s with oauthAccounts })
  | .upsertOnboarding tenantId create update =>
      match s.tenantOnboardings.rows.find? fun row => row.tenantId == tenantId with
      | some row =>
          let tenantOnboardings := s.tenantOnboardings.modify
            (fun row => row.tenantId == tenantId) update.apply fun _ => rfl
          .ok (update.apply row, { s with tenantOnboardings })
      | none => do
          let tenantOnboardings ← orViolation (s.tenantOnboardings.tryInsert create)
          pure (create, { s with tenantOnboardings })
  | .completeOnboardingSettings tenantId =>
      if s.tenantSettings.rows.any fun row => row.tenantId == tenantId then
        let tenantSettings := s.tenantSettings.modify (fun row => row.tenantId == tenantId)
          (fun row => { row with onboardingCompleted := true }) fun _ => rfl
        .ok ((), { s with tenantSettings })
      else do
        let tenantSettings ← orViolation (s.tenantSettings.tryInsert
          ⟨tenantId, "BR", "BRL", "America/Sao_Paulo", true⟩)
        pure ((), { s with tenantSettings })
  | .upsertInvitation data => upsertInvitationRows s input data
  | .acceptInvitation invitation name passwordHash requestId =>
      acceptInvitationRows s input invitation name passwordHash requestId
  | .recordAudit record => do
      requireFits 64 record.requestId
      pure ((), { s with auditLogs := s.auditLogs ++ [record] })

/-! ## Calls -/

inductive External
  | now
  | randomBytes (length : ℕ)
  | randomUUID
  | assertCanAttempt (identifier : String)
  | recordFailedAttempt (identifier : String)
  | clearAttempts (identifier : String)
  | exchange (provider : OAuthProvider) (code : String)

@[reducible] def External.Result : External → Type
  | .now => Time
  | .randomBytes _ => List UInt8
  | .randomUUID => Id
  | .assertCanAttempt _ => Unit
  | .recordFailedAttempt _ => Bool
  | .clearAttempts _ => Unit
  | .exchange .. => OAuthIdentity

def External.answer (input : AuthInput) : (e : External) → Except ServiceError e.Result
  | .now => .ok input.now
  | .randomBytes length => .ok ((List.range length).map input.bytes)
  | .randomUUID => .ok input.uuid
  | .assertCanAttempt _ => if input.locked then .error .tooManyRequests else .ok ()
  | .recordFailedAttempt _ => .ok input.locked
  | .clearAttempts _ => .ok ()
  | .exchange .. => input.identity

inductive Command
  | query (q : Query)
  | write (w : Write)
  | external (e : External)

@[reducible] def Command.Result : Command → Type
  | .query q => q.Result
  | .write w => w.Result
  | .external e => e.Result

@[reducible] def authInterface : Interface := ⟨Command, Command.Result, ServiceError⟩

def execute : (c : Command) → AuthInput → AuthStore → Response authInterface c × AuthStore
  | .query q, input, s => (if input.fault then .error .fault else .ok (q.answer s input.now), s)
  | .external e, input, s => (e.answer input, s)
  | .write w, input, s =>
      if input.fault then (.error .fault, s)
      else
        match w.apply s input with
        | .ok (result, s') => (.ok result, s')
        | .error error => (.error error, s)

omit [Collation] in
@[simp] theorem throw_eq {α : Type} (e : ServiceError) :
    (MonadExcept.throw e : Program authInterface α) = .throw e := rfl

abbrev query (q : Query) : Program authInterface q.Result :=
  @Program.perform authInterface (.query q)

abbrev write (w : Write) : Program authInterface w.Result :=
  @Program.perform authInterface (.write w)

abbrev external (e : External) : Program authInterface e.Result :=
  @Program.perform authInterface (.external e)

end Logistics.Auth
