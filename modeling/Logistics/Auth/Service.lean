import Logistics.Auth.Database

/-!
# The authentication service

`AuthService` as programs over the calls they make. Sessions are issued in one
place, `issueSession`; the operations differ in what they check before.
-/

namespace Logistics.Auth

open Logistics.Library

structure AuthRequestMetadata where
  ip : Option String
  requestId : Option String
  userAgent : Option String

/-- The access token, the refresh token and the user of an issued session. -/
structure AuthResult where
  accessToken : String
  accessTokenExpiresAt : Time
  user : AuthenticatedUser
  refreshToken : String

inductive LoginResponse
  | session (result : AuthResult)
  | mfaRequired (challengeToken : String) (expiresAt : Time) (userHint : String)
  | pendingApproval (message : String)
  | incompleteRegistration (completionToken : String)

structure OAuthRedirect where
  redirectUrl : String
  session : Option AuthResult

structure SessionView where
  createdAt : Time
  current : Bool
  expiresAt : Time
  id : Id
  lastUsedAt : Option Time
  userAgent : Option String

structure Profile where
  email : String
  id : Id
  linkedProviders : List (String × OAuthProvider)
  mfaEnabled : Bool
  name : String
  role : UserRole
  sessions : List SessionView
  tenant : TenantView

structure MfaSetup where
  manualKey : String
  otpauthUrl : String
  qrCodeDataUrl : String

structure RegisterTenantDto where
  name : String
  companyName : String
  email : String
  password : String
  passwordConfirmation : String
  acceptedTerms : Bool
  acceptedPrivacy : Bool

structure LoginDto where
  email : String
  password : String
  tenantSlug : Option String

structure VerifyMfaLoginDto where
  challengeToken : String
  code : String

structure ResetPasswordDto where
  token : String
  password : String
  passwordConfirmation : String

structure ChangePasswordDto where
  currentPassword : String
  newPassword : String
  newPasswordConfirmation : String

inductive OAuthMode
  | login | register | link
  deriving DecidableEq

def OAuthMode.text : OAuthMode → String
  | .login => "login"
  | .register => "register"
  | .link => "link"

def genericLoginError : ServiceError := .unauthorized "Invalid email or password."

def contextRequired : ServiceError := .unauthorized "Authentication context is required."

def invalidRefreshSession : ServiceError := .unauthorized "Refresh session is invalid."

def invalidMfaChallenge : ServiceError := .unauthorized "MFA challenge is invalid."

/-! ## Shared steps -/

variable (P : Platform)

def activeTenant (user : AuthUserRecord) : Option Tenant :=
  if user.user.status = .active then user.tenant.filter Tenant.active else none

def hasActiveTenant (user : AuthUserRecord) : Bool :=
  (activeTenant user).isSome

def recordAudit (record : AuthAuditRecord) : Program authInterface Unit :=
  write (.recordAudit { record with
    actorId := present record.actorId
    entityId := present record.entityId
    entityType := present record.entityType
    ipHash := present record.ipHash
    requestId := present record.requestId
    tenantId := present record.tenantId })

def recordAuthFailure (metadata : AuthRequestMetadata) (tenantId actorId : Option Id)
    (reason : String) : Program authInterface Unit :=
  recordAudit ⟨.authFailure, actorId, actorId, actorId.map fun _ => "User",
    hashMetadata P metadata.ip, [("reason", some reason), ("result", some "failure")],
    metadata.requestId, tenantId⟩

def randomToken : Program authInterface String := do
  let bytes ← external (.randomBytes 48)
  pure (P.base64url bytes)

def expiresIn (seconds : ℕ) : Program authInterface Time := do
  let now ← external .now
  pure (now + seconds * 1000)

def newPasswordHash (password : String) : Program authInterface String := do
  let salt ← external (.randomBytes 16)
  pure (hashPassword P salt password)

/-- A duration of the configuration; an invalid one fails the call. -/
def configuredSeconds (value : String) : Program authInterface ℕ :=
  Program.ofExcept ((parseDurationToSeconds value).elim (.error .fault) .ok)

/-- Store the refresh token: in place of the one it rotates, or as a new one. -/
def storeRefreshToken (rotatedSession : Option RefreshTokenRecord) (data : RefreshTokenData) :
    Program authInterface Unit :=
  match rotatedSession with
  | some session => write (.rotateRefreshToken session.token.id data)
  | none => write (.createRefreshToken data)

def issueSession (user : AuthUserRecord) (metadata : AuthRequestMetadata) (auditResult : String)
    (rotatedSession : Option RefreshTokenRecord) : Program authInterface AuthResult := do
  let some tenant := activeTenant user | throw (.unauthorized "User is not active.")
  let authUser := presentUser user.user tenant
  let now ← external .now
  let accessToken ← Program.ofExcept (createAccessToken P authUser now)
  let familyId ← external .randomUUID
  let refreshToken ← randomToken P
  let seconds ← configuredSeconds P.config.jwtRefreshExpiresIn
  let expiresAt ← expiresIn seconds
  storeRefreshToken rotatedSession {
    expiresAt := expiresAt
    familyId := (rotatedSession.map fun session => session.token.familyId).getD familyId
    tenantId := authUser.tenant.id
    tokenHash := hashRefreshToken P refreshToken
    userId := authUser.id
    ipHash := hashMetadata P metadata.ip
    userAgent := present metadata.userAgent }
  let _ ← write (.updateUser authUser.id .lastLogin)
  if auditResult ≠ "refresh" then
    recordAudit ⟨.login, some authUser.id, some authUser.id, some "User",
      hashMetadata P metadata.ip, [("result", some auditResult)], metadata.requestId,
      some authUser.tenant.id⟩
  pure ⟨accessToken.token, accessToken.expiresAt, authUser, refreshToken⟩

def createCompletionToken (userId : Id) (provider : OAuthProvider)
    (metadata : AuthRequestMetadata) : Program authInterface String := do
  let completionToken ← randomToken P
  let expiresAt ← expiresIn 3600
  write (.createOAuthState ⟨expiresAt, "complete_registration", provider,
    hashOpaqueToken P completionToken, none, some userId, [("requestId", metadata.requestId)]⟩)
  pure completionToken

/-- The answer to a user who is not active: to wait, to complete the
registration, or an error. -/
def blockNonActiveLogin (user : AuthUserRecord) (provider : Option OAuthProvider)
    (metadata : AuthRequestMetadata) : Program authInterface (Option LoginResponse) :=
  match user.user.status with
  | .active => pure none
  | .pending | .invited =>
      pure (some (.pendingApproval "Aguardando aprovação do Administrador."))
  | .incomplete => do
      let token ← createCompletionToken P user.user.id (provider.getD .google) metadata
      pure (some (.incompleteRegistration token))
  | .blocked | .disabled | .deleted => throw genericLoginError

/-! ## Registration and login -/

/-- A slug that no tenant has, in at most this many tries; the last resort is a
random suffix. -/
def freeTenantSlug (base : String) : ℕ → Program authInterface String
  | 0 => do
      let suffix ← external (.randomBytes 3)
      pure (base ++ "-" ++ P.hex suffix)
  | tries + 1 => do
      let index := 19 - tries
      let candidate := if index = 0 then base else base ++ "-" ++ toString (index + 1)
      match ← query (.findTenantBySlug candidate) with
      | none => pure candidate
      | some _ => freeTenantSlug base tries

def slugify (value : String) : Program authInterface String :=
  match slugBase P value with
  | [] => do
      let suffix ← external (.randomBytes 3)
      pure ("tenant-" ++ P.hex suffix)
  | slug => pure (String.ofList slug)

def uniqueTenantSlug (companyName : String) : Program authInterface String := do
  let base ← slugify P companyName
  freeTenantSlug P base 20

def registerTenant (dto : RegisterTenantDto) (metadata : AuthRequestMetadata) :
    Program authInterface AuthResult := do
  let email := normalizeEmail P dto.email
  Program.ofExcept (assertStrongPassword dto.password dto.passwordConfirmation)
  Program.throwIf (¬(dto.acceptedTerms ∧ dto.acceptedPrivacy))
    (.badRequest "Terms and privacy policy must be accepted.")
  let existingUser ← query (.findUser { email := some email })
  Program.throwIf (existingUser.isSome = true) (.conflict "This e-mail is already registered.")
  let passwordHash ← newPasswordHash P dto.password
  let slug ← uniqueTenantSlug P dto.companyName
  let user ← write (.registerTenant
    ⟨trim dto.companyName, slug, email, trim dto.name, passwordHash, metadata.requestId⟩)
  issueSession P user metadata "register" none

def buildIdentifier (email : String) (ip tenantSlug : Option String) : String :=
  hashOpaqueToken P (P.toLowerCase (trim email) ++ "|" ++
    (tenantSlug.map fun slug => P.toLowerCase (trim slug)).getD "any" ++ "|" ++
    ip.getD "unknown")

def rejectLogin (identifier : String) (user : Option AuthUserRecord)
    (metadata : AuthRequestMetadata) : Program authInterface LoginResponse := do
  let isLocked ← external (.recordFailedAttempt identifier)
  recordAuthFailure P metadata (user.bind fun user => user.user.tenantId)
    (user.map fun user => user.user.id) (if isLocked then "rate_limited" else "invalid_credentials")
  Program.throwIf (isLocked = true) .tooManyRequests
  throw genericLoginError

/-- The login of an active user of an active tenant: a challenge when MFA is on. -/
def openLogin (user : AuthUserRecord) (tenant : Tenant) (metadata : AuthRequestMetadata) :
    Program authInterface LoginResponse :=
  if user.user.mfaEnabled = true ∧ user.user.mfaSecret.isSome = true then do
    let challengeToken ← randomToken P
    let expiresAt ← expiresIn 300
    write (.createMfaChallenge (hashOpaqueToken P challengeToken) expiresAt tenant.id user.user.id)
    let shownExpiresAt ← expiresIn 300
    pure (.mfaRequired challengeToken shownExpiresAt (maskEmail user.user.email))
  else do
    let session ← issueSession P user metadata "login" none
    pure (.session session)

def login (dto : LoginDto) (metadata : AuthRequestMetadata) :
    Program authInterface LoginResponse := do
  let email := normalizeEmail P dto.email
  let tenantSlug := dto.tenantSlug.map trim
  let attemptIdentifier := buildIdentifier P email metadata.ip tenantSlug
  Program.tryCatch (external (.assertCanAttempt attemptIdentifier)) fun error => do
    recordAuthFailure P metadata none none "rate_limited"
    throw error
  let filter : UserFilter := {
    email := some email, notStatus := some .deleted
    activeTenant := true, tenantSlug := present tenantSlug }
  let candidates ← query (.findUsers filter 3)
  let candidate := match candidates with
    | [user] => some user
    | _ => none
  let some user := candidate.filter fun user =>
      user.user.passwordHash.any (verifyPassword P dto.password)
    | rejectLogin P attemptIdentifier candidate metadata
  external (.clearAttempts attemptIdentifier)
  match ← blockNonActiveLogin P user none metadata with
  | some blocked => pure blocked
  | none =>
      match activeTenant user with
      | some tenant => openLogin P user tenant metadata
      | none => do
          recordAuthFailure P metadata user.user.tenantId (some user.user.id) "inactive_tenant"
          throw genericLoginError

/-! ## MFA login -/

def isSixDigits (code : String) : Bool :=
  code.toList.length = 6 ∧ code.toList.all Char.isDigit

def acceptsTotp (encryptedSecret : SealedSecret) (code : String) :
    Program authInterface Bool :=
  if isSixDigits code then do
    let secret ← Program.ofExcept (decrypt P encryptedSecret)
    let now ← external .now
    pure (verifyCode P secret code now)
  else pure false

def verifyMfaOrRecovery (tenantId userId : Id) (encryptedSecret : SealedSecret) (code : String) :
    Program authInterface Bool := do
  let normalized := P.toUpperCase (removeWhiteSpace code)
  let accepted ← acceptsTotp P encryptedSecret normalized
  if accepted then pure true
  else
    match ← query (.findRecoveryCode tenantId userId (hashOpaqueToken P normalized)) with
    | none => pure false
    | some recovery => do
        write (.useRecoveryCode recovery.id)
        pure true

def verifyMfaLogin (dto : VerifyMfaLoginDto) (metadata : AuthRequestMetadata) :
    Program authInterface AuthResult := do
  let some found ← query (.findMfaChallenge (hashOpaqueToken P dto.challengeToken))
    | do
      recordAuthFailure P metadata none none "invalid_mfa_challenge"
      throw invalidMfaChallenge
  let challenge := found.challenge
  let some secret := found.user.user.mfaSecret.filter fun _ =>
      found.user.user.mfaEnabled && hasActiveTenant found.user
    | do
      recordAuthFailure P metadata (some challenge.tenantId) (some challenge.userId)
        "invalid_mfa_challenge"
      throw invalidMfaChallenge
  let verified ← verifyMfaOrRecovery P challenge.tenantId challenge.userId secret dto.code
  if verified then
    write (.useMfaChallenge challenge.id)
    issueSession P found.user metadata "login_mfa" none
  else
    recordAuthFailure P metadata (some challenge.tenantId) (some challenge.userId)
      "invalid_mfa_code"
    throw (.unauthorized "MFA code is invalid.")

/-! ## Sessions -/

def rejectRefresh (metadata : AuthRequestMetadata) (tenantId userId : Option Id) :
    Program authInterface RefreshTokenRecord := do
  recordAuthFailure P metadata tenantId userId "invalid_credentials"
  throw invalidRefreshSession

def getValidRefreshSession (refreshToken : Option String) (metadata : AuthRequestMetadata) :
    Program authInterface RefreshTokenRecord := do
  let some refreshToken := present refreshToken | rejectRefresh P metadata none none
  let some session ← query (.findRefreshTokenByHash (hashRefreshToken P refreshToken))
    | rejectRefresh P metadata none none
  if session.token.revokedAt.isSome then
    write (.revokeRefreshTokenFamily session.token.familyId)
    rejectRefresh P metadata (some session.token.tenantId) (some session.token.userId)
  else
    let now ← external .now
    if session.token.expiresAt ≤ now ∨ hasActiveTenant session.user = false then
      rejectRefresh P metadata (some session.token.tenantId) (some session.token.userId)
    else pure session

def refresh (refreshToken : Option String) (metadata : AuthRequestMetadata) :
    Program authInterface AuthResult := do
  let session ← getValidRefreshSession P refreshToken metadata
  issueSession P session.user metadata "refresh" (some session)

def logout (refreshToken : Option String) (metadata : AuthRequestMetadata) :
    Program authInterface Unit := do
  let some refreshToken := present refreshToken | pure ()
  let some session ← query (.findRefreshTokenByHash (hashRefreshToken P refreshToken))
    | pure ()
  if session.token.revokedAt.isSome then pure ()
  else
    write (.revokeRefreshToken session.token.id)
    recordAudit ⟨.logout, some session.token.userId, some session.token.userId, some "User",
      hashMetadata P metadata.ip, [("result", some "success")], metadata.requestId,
      some session.token.tenantId⟩

def revokeSession (userId tenantId sessionId : Id) : Program authInterface Unit := do
  write (.revokeSession sessionId tenantId userId)
  recordAudit (auditRecord .sessionRevoked (some userId) (some sessionId) (some "RefreshToken") []
    (some tenantId))

def revokeOtherSessions (userId tenantId : Id) (currentRefreshToken : Option String) :
    Program authInterface Unit := do
  let currentHash := (present currentRefreshToken).map (hashRefreshToken P)
  write (.revokeSessions tenantId userId currentHash)
  recordAudit (auditRecord .sessionRevoked (some userId) none (some "RefreshToken")
    [("scope", some "others")] (some tenantId))

/-! ## Passwords -/

/-- `forgotPassword`; outside production the answer carries the link. -/
def forgotPassword (email : String) (metadata : AuthRequestMetadata) :
    Program authInterface (Option String) := do
  let email := normalizeEmail P email
  let emailHash := hashOpaqueToken P email
  let audit := fun (user : Option User) => recordAudit ⟨.passwordResetRequested,
    user.map fun user => user.id, user.map fun user => user.id, user.map fun _ => "User",
    hashMetadata P metadata.ip, [("result", some "accepted")], metadata.requestId,
    user.bind fun user => user.tenantId⟩
  match ← query (.findUser {
      email := some email, status := some .active, activeTenant := true }) with
  | none => do
      audit none
      pure none
  | some found => do
      let token ← randomToken P
      let expiresAt ← expiresIn 3600
      write (.requestPasswordReset found.user.id found.user.tenantId emailHash
        (hashOpaqueToken P token) expiresAt)
      audit (some found.user)
      let resetUrl := P.config.webPublicUrl ++ "/reset-password?token=" ++
        P.encodeURIComponent token
      pure (if P.config.production then none else some resetUrl)

def resetPassword (dto : ResetPasswordDto) (metadata : AuthRequestMetadata) :
    Program authInterface Unit := do
  Program.ofExcept (assertStrongPassword dto.password dto.passwordConfirmation)
  let reset ← query (.findPasswordReset (hashOpaqueToken P dto.token))
  let some (resetId, userId, tenantId) := do
      let reset ← reset
      let userId ← present reset.userId
      let tenantId ← present reset.tenantId
      pure (reset.id, userId, tenantId)
    | throw (.badRequest "Password reset token is invalid or expired.")
  let passwordHash ← newPasswordHash P dto.password
  write (.resetPassword userId resetId passwordHash)
  recordAudit ⟨.passwordResetCompleted, some userId, some userId, some "User",
    hashMetadata P metadata.ip, [], metadata.requestId, some tenantId⟩

def changePassword (userId tenantId : Id) (dto : ChangePasswordDto) :
    Program authInterface Unit := do
  Program.ofExcept (assertStrongPassword dto.newPassword dto.newPasswordConfirmation)
  let found ← query (.findUser { id := some userId, tenantId := some tenantId })
  Program.throwIf (¬(found.bind fun found => found.user.passwordHash).any
      (verifyPassword P dto.currentPassword))
    (.unauthorized "Current password is invalid.")
  let passwordHash ← newPasswordHash P dto.newPassword
  write (.changePassword userId tenantId passwordHash)
  recordAudit (auditRecord .userUpdated (some userId) (some userId) (some "User")
    [("operation", some "change_password")] (some tenantId))

/-! ## MFA setup -/

def beginMfaSetup (userId tenantId : Id) : Program authInterface MfaSetup := do
  let some found ← query (.findUser {
      id := some userId, tenantId := some tenantId, status := some .active })
    | throw contextRequired
  let secretBytes ← external (.randomBytes 20)
  let secret := generateSecret secretBytes
  let iv ← external (.randomBytes 12)
  let _ ← write (.updateUser userId (.mfaSetup (encrypt P iv secret)))
  let url := otpauthUrl P found.user.email secret
  pure ⟨secret, url, P.qrCodeDataUrl url⟩

def confirmMfa (userId tenantId : Id) (code : String) : Program authInterface (List String) := do
  let found ← query (.findUser { id := some userId, tenantId := some tenantId })
  let some encryptedSecret := found.bind fun found => found.user.mfaSecret
    | throw (.badRequest "MFA setup was not started.")
  let secret ← Program.ofExcept (decrypt P encryptedSecret)
  let now ← external .now
  Program.throwIf (verifyCode P secret code now = false) (.badRequest "MFA code is invalid.")
  let bytes ← external (.randomBytes 80)
  let recoveryCodes := generateRecoveryCodes P bytes
  write (.confirmMfa userId tenantId (recoveryCodes.map (hashOpaqueToken P)))
  recordAudit (auditRecord .mfaChanged (some userId) (some userId) (some "User")
    [("enabled", some "true")] (some tenantId))
  pure recoveryCodes

def disableMfa (userId tenantId : Id) (code : String) : Program authInterface Unit := do
  let found ← query (.findUser { id := some userId, tenantId := some tenantId })
  let some encryptedSecret := found.bind fun found => found.user.mfaSecret
    | throw (.badRequest "MFA code is invalid.")
  let secret ← Program.ofExcept (decrypt P encryptedSecret)
  let now ← external .now
  Program.throwIf (verifyCode P secret code now = false) (.badRequest "MFA code is invalid.")
  write (.disableMfa userId tenantId)
  recordAudit (auditRecord .mfaChanged (some userId) (some userId) (some "User")
    [("enabled", some "false")] (some tenantId))

/-! ## Profile and onboarding -/

def getCurrentUser (userId tenantId : Id) : Program authInterface AuthenticatedUser := do
  let found ← query (.findUser {
    id := some userId, tenantId := some tenantId
    status := some .active, activeTenant := true })
  let some (user, tenant) := do
      let found ← found
      let tenant ← found.tenant
      pure (found.user, tenant)
    | throw contextRequired
  pure (presentUser user tenant)

def presentSession (currentHash : Option String) (session : RefreshToken) : SessionView :=
  ⟨session.createdAt, currentHash == some session.tokenHash, session.expiresAt, session.id,
    session.rotatedAt, session.userAgent⟩

def getProfile (userId tenantId : Id) (currentRefreshToken : Option String) :
    Program authInterface Profile := do
  let some record ← query (.findProfile userId tenantId) | throw contextRequired
  let some tenant := record.user.tenant | throw contextRequired
  let user := record.user.user
  let currentHash := (present currentRefreshToken).map (hashRefreshToken P)
  pure ⟨user.email, user.id,
    record.user.oauthAccounts.map fun account => (account.email, account.provider),
    user.mfaEnabled, user.name, user.role, record.refreshTokens.map (presentSession currentHash),
    ⟨tenant.id, tenant.name, tenant.slug⟩⟩

def updateProfile (userId tenantId : Id) (name : String) : Program authInterface Profile := do
  let _ ← write (.updateUser userId (.profile (trim name)))
  recordAudit (auditRecord .userUpdated (some userId) (some userId) (some "User") []
    (some tenantId))
  getProfile P userId tenantId none

def getOnboarding (tenantId : Id) : Program authInterface TenantOnboarding :=
  write (.upsertOnboarding tenantId ⟨tenantId, false, false, false, false, "company"⟩
    ⟨none, none, none, none, none⟩)

def updateOnboarding (tenantId actorId : Id) (dto : OnboardingChange) :
    Program authInterface TenantOnboarding := do
  let completed := dto.completed = some true ∨
    dto.companyDone = some true ∧ dto.branchDone = some true
  let onboarding ← write (.upsertOnboarding tenantId
    ⟨tenantId, dto.companyDone.getD false, dto.branchDone.getD false, dto.inviteDone.getD false,
      decide completed, dto.currentStep.getD (if completed then "done" else "branch")⟩
    { dto with completed :=
        if dto.completed.isSome = true ∨ completed then some (decide completed) else none })
  if completed then
    write (.completeOnboardingSettings tenantId)
  recordAudit (auditRecord .onboardingUpdated (some actorId) (some tenantId)
    (some "TenantOnboarding") [] (some tenantId))
  pure onboarding

/-! ## OAuth -/

def startOAuth (provider : OAuthProvider) (mode : OAuthMode) (tenantId userId : Option Id) :
    Program authInterface String := do
  Program.throwIf (mode = .link ∧ ((present tenantId).isNone ∨ (present userId).isNone))
    (.unauthorized "Authentication is required to link providers.")
  let state ← randomToken P
  let expiresAt ← expiresIn 600
  write (.createOAuthState ⟨expiresAt, mode.text, provider, hashOpaqueToken P state,
    present tenantId, present userId, []⟩)
  Program.ofExcept (authorizationUrl P provider state)

def linkProvider (userId tenantId : Id) (identity : OAuthIdentity) :
    Program authInterface Unit := do
  let some found ← query (.findUser {
      id := some userId, tenantId := some tenantId, status := some .active })
    | throw contextRequired
  Program.throwIf (normalizeEmail P found.user.email ≠ normalizeEmail P identity.email)
    (.conflict "Provider e-mail must match the authenticated user e-mail.")
  write (.linkAccount userId tenantId identity)
  recordAudit (auditRecord .oauthLinked (some userId) (some userId) (some "User")
    [("provider", some identity.provider.text)] (some tenantId))

def createIncompleteOAuthUser (identity : OAuthIdentity) (metadata : AuthRequestMetadata) :
    Program authInterface String := do
  let existingUser ← query (.findUser {
    email := some identity.email, notStatus := some .deleted })
  Program.throwIf (existingUser.isSome = true) (.conflict "This e-mail is already registered.")
  let completionToken ← randomToken P
  let expiresAt ← expiresIn 3600
  let user ← write (.createIncompleteUser identity ⟨expiresAt, "complete_registration",
    identity.provider, hashOpaqueToken P completionToken, none, none,
    [("email", some identity.email), ("requestId", metadata.requestId)]⟩)
  recordAudit (auditRecord .userCreated (some user.id) (some user.id) (some "User")
    [("status", some "INCOMPLETE"), ("source", some "oauth_register")] none)
  pure completionToken

def completionUrl (token : String) : String :=
  P.config.webPublicUrl ++ "/completar-cadastro?token=" ++ P.encodeURIComponent token

/-- The callback for an identity whose account is linked to a user. -/
def loginLinkedAccount (provider : OAuthProvider) (existing : OAuthAccountRecord)
    (metadata : AuthRequestMetadata) : Program authInterface OAuthRedirect := do
  match ← blockNonActiveLogin P existing.user (some provider) metadata with
  | some (.pendingApproval _) =>
      pure ⟨P.config.webPublicUrl ++ "/login?reason=pending-approval", none⟩
  | some (.incompleteRegistration token) => pure ⟨completionUrl P token, none⟩
  | _ => do
      let session ← issueSession P existing.user metadata "oauth_login" none
      pure ⟨P.config.webPublicUrl ++ "/dashboard", some session⟩

def handleOAuthCallback (provider : OAuthProvider) (code state : String)
    (metadata : AuthRequestMetadata) : Program authInterface OAuthRedirect := do
  let some storedState ← query (.findOAuthState provider (hashOpaqueToken P state))
    | throw (.badRequest "OAuth state is invalid or expired.")
  write (.useOAuthState storedState.id)
  let identity ← external (.exchange provider code)
  if storedState.mode.val = "link" then
    let some (userId, tenantId) := do
        let userId ← present storedState.userId
        let tenantId ← present storedState.tenantId
        pure (userId, tenantId)
      | throw (.badRequest "OAuth state is invalid.")
    linkProvider P userId tenantId identity
    pure ⟨P.config.webPublicUrl ++ "/settings/profile?linked=" ++ providerPath provider, none⟩
  else
    match ← query (.findOAuthAccount provider identity.providerUserId) with
    | some existing => loginLinkedAccount P provider existing metadata
    | none =>
        if storedState.mode.val = "register" then do
          let token ← createIncompleteOAuthUser P identity metadata
          pure ⟨completionUrl P token, none⟩
        else throw (.notFound "No linked account was found for this provider.")

def completeOAuthRegistration (token tenantSlug : String) : Program authInterface Unit := do
  let state ← query (.findCompletionState (hashOpaqueToken P token))
  let some (stateId, userId) := do
      let state ← state
      let userId ← present state.userId
      pure (state.id, userId)
    | throw (.badRequest "Cadastro OAuth inválido ou expirado.")
  let some tenant ← query (.findActiveTenantBySlug (trim tenantSlug))
    | throw (.notFound "Empresa não encontrada.")
  write (.completeRegistration stateId userId tenant.id)

def unlinkProvider (userId tenantId : Id) (provider : OAuthProvider) :
    Program authInterface Unit := do
  let some found ← query (.findUser { id := some userId, tenantId := some tenantId })
    | throw contextRequired
  let remainingProviders := found.oauthAccounts.filter fun account => account.provider ≠ provider
  Program.throwIf ((present found.user.passwordHash).isNone ∧ remainingProviders = [])
    (.forbidden "At least one sign-in method must remain active.")
  write (.unlinkAccounts userId tenantId provider)
  recordAudit (auditRecord .oauthUnlinked (some userId) (some userId) (some "User")
    [("provider", some provider.text)] (some tenantId))

end Logistics.Auth
