import Logistics.Auth.Service

/-!
# User administration

`UsersService` as programs, and the two services together as one system of
requests. Accepting an invitation issues a session on a path of its own.
-/

namespace Logistics.Auth

open Logistics.Library

variable [Collation]

structure AdminUser where
  createdAt : Time
  email : String
  id : Id
  invited : Bool
  lastLoginAt : Option Time
  mfaEnabled : Bool
  name : String
  providers : List (String × OAuthProvider)
  role : UserRole
  status : UserStatus

structure InviteUserResponse where
  invitationId : Id
  devInviteUrl : Option String

structure CreateAdminUserDto where
  name : String
  email : String
  role : UserRole
  password : Option String
  passwordChangeRequired : Option Bool

structure AcceptInviteDto where
  token : String
  name : String
  password : String
  passwordConfirmation : String

structure UpdateAdminUserDto where
  name : Option String
  role : Option UserRole
  status : Option UserStatus

def presentAdminUser (record : AuthUserRecord) : AdminUser where
  createdAt := record.user.createdAt
  email := record.user.email
  id := record.user.id
  invited := record.user.status = .invited
  lastLoginAt := record.user.lastLoginAt
  mfaEnabled := record.user.mfaEnabled
  name := record.user.name
  providers := record.oauthAccounts.map fun account => (account.email, account.provider)
  role := record.user.role
  status := record.user.status

def userNotFound : ServiceError := .notFound "User was not found."

namespace Users

variable (P : Platform)

def assertActorIsAdmin (tenantId actorId : Id) : Program authInterface Unit := do
  let actor ← query (.findUser {
    id := some actorId, tenantId := some tenantId, role := some .admin, status := some .active })
  Program.throwIf (actor.isNone = true)
    (.forbidden "Only administrators can perform this action.")

/-- An active administrator is demoted or disabled only beside another one. -/
def assertLastAdminSafe (tenantId : Id) (current : User) (dto : UpdateAdminUserDto) :
    Program authInterface Unit :=
  let demotesAdmin := dto.role.isSome = true ∧ dto.role ≠ some .admin
  let disablesAdmin := dto.status.isSome = true ∧ dto.status ≠ some .active
  if current.role ≠ .admin ∨ current.status ≠ .active ∨ ¬demotesAdmin ∧ ¬disablesAdmin then
    pure ()
  else do
    let activeAdmins ← query (.countUsers {
      tenantId := some tenantId, role := some .admin, status := some .active })
    Program.throwIf (activeAdmins ≤ 1)
      (.forbidden "The last active administrator cannot be removed.")

/-- The guard of an update that changes the role or the status. -/
def assertChangeSafe (tenantId : Id) (current : User) (dto : UpdateAdminUserDto) :
    Program authInterface Unit :=
  if dto.role.any (· ≠ current.role) ∨ dto.status.any (· ≠ current.status) then
    assertLastAdminSafe tenantId current dto
  else pure ()

/-- A user who leaves the status `ACTIVE` loses the sessions. -/
def revokeUnlessActive (tenantId targetUserId : Id) (status : Option UserStatus) :
    Program authInterface Unit :=
  if status.any (· ≠ .active) then write (.revokeSessions tenantId targetUserId none)
  else pure ()

def assertTargetUserExists (tenantId targetUserId : Id) : Program authInterface Unit := do
  let user ← query (.findUser {
    id := some targetUserId, tenantId := some tenantId, notStatus := some .deleted })
  Program.throwIf (user.isNone = true) userNotFound

/-- The actor of an assignment of the `ADMIN` role is one. -/
def assertMayAssign (tenantId actorId : Id) (role : Option UserRole) :
    Program authInterface Unit :=
  if role = some .admin then assertActorIsAdmin tenantId actorId else pure ()

def optionalPasswordHash (password : Option String) : Program authInterface (Option String) :=
  match present password with
  | some password => do
      let passwordHash ← newPasswordHash P password
      pure (some passwordHash)
  | none => pure none

def create (tenantId actorId : Id) (dto : CreateAdminUserDto) :
    Program authInterface AdminUser := do
  let email := normalizeEmail P dto.email
  assertMayAssign tenantId actorId (some dto.role)
  let passwordHash ← optionalPasswordHash P dto.password
  let guarded : Program authInterface AdminUser := do
    let user ← write (.createUser ⟨some tenantId, email, trim dto.name, passwordHash,
      dto.passwordChangeRequired.getD (present dto.password).isSome, dto.role,
      if passwordHash.isSome then .active else .invited⟩)
    recordAudit (auditRecord .userCreated (some actorId) (some user.user.id) (some "User")
      [("role", some user.user.role.text), ("directCreate", some "true")] (some tenantId))
    pure (presentAdminUser user)
  Program.tryCatch guarded fun error =>
    if error = .uniqueViolation then
      throw (.conflict "User e-mail already exists in this tenant.")
    else throw error

def invite (tenantId actorId : Id) (email : String) (role : UserRole) :
    Program authInterface InviteUserResponse := do
  let email := normalizeEmail P email
  let existingUser ← query (.findUser {
    tenantId := some tenantId, email := some email, notStatus := some .deleted })
  Program.throwIf (existingUser.isSome = true)
    (.conflict "User e-mail already exists in this tenant.")
  let token ← randomToken P
  let expiresAt ← expiresIn (7 * 24 * 3600)
  let invitation ← write (.upsertInvitation
    ⟨email, expiresAt, actorId, role, tenantId, hashOpaqueToken P token⟩)
  recordAudit (auditRecord .userInvited (some actorId) (some invitation.id)
    (some "UserInvitation") [("email", some email), ("role", some role.text)] (some tenantId))
  let inviteUrl := P.config.webPublicUrl ++ "/accept-invite?token=" ++ P.encodeURIComponent token
  pure ⟨invitation.id, if P.config.production then none else some inviteUrl⟩

/-- The session of an accepted invitation; nothing is asked of its user. -/
def issueSession (user : User) (tenant : Tenant) (metadata : AuthRequestMetadata) :
    Program authInterface AuthResult := do
  let authUser := presentUser user tenant
  let now ← external .now
  let accessToken ← Program.ofExcept (createAccessToken P authUser now)
  let familyId ← external .randomUUID
  let refreshToken ← randomToken P
  let seconds ← configuredSeconds P.config.jwtRefreshExpiresIn
  let expiresAt ← expiresIn seconds
  write (.createRefreshToken {
    expiresAt := expiresAt
    familyId := familyId
    tenantId := authUser.tenant.id
    tokenHash := hashRefreshToken P refreshToken
    userId := authUser.id
    ipHash := none
    userAgent := present metadata.userAgent })
  pure ⟨accessToken.token, accessToken.expiresAt, authUser, refreshToken⟩

def acceptInvite (dto : AcceptInviteDto) (metadata : AuthRequestMetadata) :
    Program authInterface AuthResult := do
  Program.ofExcept (assertStrongPassword dto.password dto.passwordConfirmation)
  let some invitation ← query (.findInvitation (hashOpaqueToken P dto.token))
    | throw (.badRequest "Invitation is invalid or expired.")
  let passwordHash ← newPasswordHash P dto.password
  let user ← write (.acceptInvitation invitation (trim dto.name) passwordHash metadata.requestId)
  let some tenant := user.tenant | throw (.badRequest "Invitation tenant is invalid.")
  issueSession P user.user tenant metadata

def update (tenantId actorId targetUserId : Id) (dto : UpdateAdminUserDto) :
    Program authInterface AdminUser := do
  let some found ← query (.findUser { id := some targetUserId, tenantId := some tenantId })
    | throw userNotFound
  let current := found.user
  assertMayAssign tenantId actorId dto.role
  assertChangeSafe tenantId current dto
  let user ← write (.updateUser targetUserId (.admin (dto.name.map trim) dto.role dto.status))
  revokeUnlessActive tenantId targetUserId dto.status
  let action := if dto.role.any (· ≠ current.role) then .roleChanged else .userUpdated
  recordAudit (auditRecord action (some actorId) (some targetUserId) (some "User")
    [("after.role", some user.user.role.text), ("after.status", some user.user.status.text),
      ("before.role", some current.role.text), ("before.status", some current.status.text)]
    (some tenantId))
  pure (presentAdminUser user)

def approve (tenantId actorId targetUserId : Id) (role : UserRole) :
    Program authInterface AdminUser := do
  let some found ← query (.findUser { id := some targetUserId, tenantId := some tenantId })
    | throw userNotFound
  Program.throwIf (found.user.status ≠ .pending ∧ found.user.status ≠ .invited)
    (.badRequest "Only pending or invited users can be approved.")
  let user ← write (.updateUser targetUserId (.approve role))
  recordAudit (auditRecord .userUpdated (some actorId) (some targetUserId) (some "User")
    [("operation", some "approve"), ("role", some role.text)] (some tenantId))
  pure (presentAdminUser user)

def revokeSessions (tenantId actorId targetUserId : Id) : Program authInterface Unit := do
  assertTargetUserExists tenantId targetUserId
  write (.revokeSessions tenantId targetUserId none)
  recordAudit (auditRecord .sessionRevoked (some actorId) (some targetUserId) (some "User") []
    (some tenantId))

def resetMfa (tenantId actorId targetUserId : Id) : Program authInterface Unit := do
  assertTargetUserExists tenantId targetUserId
  write (.resetMfa targetUserId tenantId)
  recordAudit (auditRecord .mfaChanged (some actorId) (some targetUserId) (some "User")
    [("resetByAdmin", some "true")] (some tenantId))

end Users

/-! ## Requests -/

inductive Request
  | registerTenant (dto : RegisterTenantDto) (metadata : AuthRequestMetadata)
  | login (dto : LoginDto) (metadata : AuthRequestMetadata)
  | verifyMfaLogin (dto : VerifyMfaLoginDto) (metadata : AuthRequestMetadata)
  | refresh (refreshToken : Option String) (metadata : AuthRequestMetadata)
  | logout (refreshToken : Option String) (metadata : AuthRequestMetadata)
  | revokeSession (userId tenantId sessionId : Id)
  | revokeOtherSessions (userId tenantId : Id) (currentRefreshToken : Option String)
  | forgotPassword (email : String) (metadata : AuthRequestMetadata)
  | resetPassword (dto : ResetPasswordDto) (metadata : AuthRequestMetadata)
  | changePassword (userId tenantId : Id) (dto : ChangePasswordDto)
  | beginMfaSetup (userId tenantId : Id)
  | confirmMfa (userId tenantId : Id) (code : String)
  | disableMfa (userId tenantId : Id) (code : String)
  | getCurrentUser (userId tenantId : Id)
  | getProfile (userId tenantId : Id) (currentRefreshToken : Option String)
  | updateProfile (userId tenantId : Id) (name : String)
  | getOnboarding (tenantId : Id)
  | updateOnboarding (tenantId actorId : Id) (dto : OnboardingChange)
  | startOAuth (provider : OAuthProvider) (mode : OAuthMode) (tenantId userId : Option Id)
  | handleOAuthCallback (provider : OAuthProvider) (code state : String)
      (metadata : AuthRequestMetadata)
  | completeOAuthRegistration (token tenantSlug : String)
  | unlinkProvider (userId tenantId : Id) (provider : OAuthProvider)
  | createUser (tenantId actorId : Id) (dto : CreateAdminUserDto)
  | inviteUser (tenantId actorId : Id) (email : String) (role : UserRole)
  | acceptInvite (dto : AcceptInviteDto) (metadata : AuthRequestMetadata)
  | updateUser (tenantId actorId targetUserId : Id) (dto : UpdateAdminUserDto)
  | approveUser (tenantId actorId targetUserId : Id) (role : UserRole)
  | revokeUserSessions (tenantId actorId targetUserId : Id)
  | resetUserMfa (tenantId actorId targetUserId : Id)

inductive Reply
  | ok
  | session (result : AuthResult)
  | login (response : LoginResponse)
  | redirect (redirect : OAuthRedirect)
  | link (url : Option String)
  | recoveryCodes (codes : List String)
  | mfaSetup (setup : MfaSetup)
  | user (user : AuthenticatedUser)
  | profile (profile : Profile)
  | onboarding (onboarding : TenantOnboarding)
  | adminUser (user : AdminUser)
  | invitation (response : InviteUserResponse)

def handle (P : Platform) : Request → Program authInterface Reply
  | .registerTenant dto metadata => Reply.session <$> registerTenant P dto metadata
  | .login dto metadata => Reply.login <$> login P dto metadata
  | .verifyMfaLogin dto metadata => Reply.session <$> verifyMfaLogin P dto metadata
  | .refresh refreshToken metadata => Reply.session <$> refresh P refreshToken metadata
  | .logout refreshToken metadata => (fun _ => .ok) <$> logout P refreshToken metadata
  | .revokeSession userId tenantId sessionId =>
      (fun _ => .ok) <$> revokeSession userId tenantId sessionId
  | .revokeOtherSessions userId tenantId currentRefreshToken =>
      (fun _ => .ok) <$> revokeOtherSessions P userId tenantId currentRefreshToken
  | .forgotPassword email metadata => Reply.link <$> forgotPassword P email metadata
  | .resetPassword dto metadata => (fun _ => .ok) <$> resetPassword P dto metadata
  | .changePassword userId tenantId dto => (fun _ => .ok) <$> changePassword P userId tenantId dto
  | .beginMfaSetup userId tenantId => Reply.mfaSetup <$> beginMfaSetup P userId tenantId
  | .confirmMfa userId tenantId code => Reply.recoveryCodes <$> confirmMfa P userId tenantId code
  | .disableMfa userId tenantId code => (fun _ => .ok) <$> disableMfa P userId tenantId code
  | .getCurrentUser userId tenantId => Reply.user <$> getCurrentUser userId tenantId
  | .getProfile userId tenantId currentRefreshToken =>
      Reply.profile <$> getProfile P userId tenantId currentRefreshToken
  | .updateProfile userId tenantId name => Reply.profile <$> updateProfile P userId tenantId name
  | .getOnboarding tenantId => Reply.onboarding <$> getOnboarding tenantId
  | .updateOnboarding tenantId actorId dto =>
      Reply.onboarding <$> updateOnboarding tenantId actorId dto
  | .startOAuth provider mode tenantId userId =>
      (fun url => .link (some url)) <$> startOAuth P provider mode tenantId userId
  | .handleOAuthCallback provider code state metadata =>
      Reply.redirect <$> handleOAuthCallback P provider code state metadata
  | .completeOAuthRegistration token tenantSlug =>
      (fun _ => .ok) <$> completeOAuthRegistration P token tenantSlug
  | .unlinkProvider userId tenantId provider =>
      (fun _ => .ok) <$> unlinkProvider userId tenantId provider
  | .createUser tenantId actorId dto => Reply.adminUser <$> Users.create P tenantId actorId dto
  | .inviteUser tenantId actorId email role =>
      Reply.invitation <$> Users.invite P tenantId actorId email role
  | .acceptInvite dto metadata => Reply.session <$> Users.acceptInvite P dto metadata
  | .updateUser tenantId actorId targetUserId dto =>
      Reply.adminUser <$> Users.update tenantId actorId targetUserId dto
  | .approveUser tenantId actorId targetUserId role =>
      Reply.adminUser <$> Users.approve tenantId actorId targetUserId role
  | .revokeUserSessions tenantId actorId targetUserId =>
      (fun _ => .ok) <$> Users.revokeSessions tenantId actorId targetUserId
  | .resetUserMfa tenantId actorId targetUserId =>
      (fun _ => .ok) <$> Users.resetMfa tenantId actorId targetUserId

def authSystem (P : Platform) : System authInterface Request Reply AuthInput AuthStore :=
  ⟨execute, handle P⟩

end Logistics.Auth
