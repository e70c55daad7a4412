import Logistics.Library.Table
import Logistics.Schema.Catalog
import Logistics.Schema.Enums
import Logistics.Schema.Errors
import Logistics.Schema.Store

/-!
# The identity store

Tenants, users and their credentials: password reset tokens, invitations,
recovery codes, login challenges, OAuth states and accounts, and refresh tokens.
E-mails, slugs and branch codes compare by their collation; identifiers, hashes and
names of modes, written in one case and without accents, compare exactly. Rows belong to
stored users and tenants by the foreign keys of the schema, so a read that joins them
finds them.
-/

namespace Logistics.Auth

open Logistics.Library

variable [Collation]

/-- A text that is never empty, as the one `encrypt` writes. A stored secret is
therefore as good as present wherever the services test its truth. -/
structure SealedSecret where
  text : String
  nonempty : text ≠ ""
  deriving DecidableEq

structure Tenant where
  id : Id
  name : String
  slug : String
  active : Bool
  deriving DecidableEq

structure User where
  id : Id
  tenantId : Option Id
  branchId : Option Id
  name : String
  email : String
  passwordHash : Option String
  role : UserRole
  status : UserStatus
  mfaEnabled : Bool
  mfaSecret : Option SealedSecret
  passwordChangeRequired : Bool
  lastLoginAt : Option Time
  deletedAt : Option Time
  createdAt : Time
  deriving DecidableEq

structure OAuthAccount where
  id : Id
  tenantId : Option Id
  userId : Id
  provider : OAuthProvider
  providerUserId : String
  email : String
  deriving DecidableEq

structure PasswordResetToken where
  id : Id
  tenantId : Option Id
  userId : Option Id
  emailHash : String
  tokenHash : String
  expiresAt : Time
  usedAt : Option Time
  deriving DecidableEq

structure UserInvitation where
  id : Id
  tenantId : Id
  email : String
  role : UserRole
  tokenHash : String
  status : UserInvitationStatus
  invitedById : Id
  acceptedById : Option Id
  expiresAt : Time
  acceptedAt : Option Time
  deriving DecidableEq

structure MfaRecoveryCode where
  id : Id
  tenantId : Id
  userId : Id
  codeHash : String
  usedAt : Option Time
  deriving DecidableEq

structure MfaChallenge where
  id : Id
  tenantId : Id
  userId : Id
  challengeTokenHash : String
  expiresAt : Time
  usedAt : Option Time
  deriving DecidableEq

structure OAuthState where
  id : Id
  stateHash : String
  provider : OAuthProvider
  mode : VarChar 20
  tenantId : Option Id
  userId : Option Id
  metadata : List (String × Option String)
  expiresAt : Time
  usedAt : Option Time
  deriving DecidableEq

structure RefreshToken where
  id : Id
  tenantId : Id
  userId : Id
  tokenHash : String
  familyId : Id
  userAgent : Option String
  ipHash : Option String
  expiresAt : Time
  revokedAt : Option Time
  createdAt : Time
  rotatedAt : Option Time
  deriving DecidableEq

structure TenantOnboarding where
  tenantId : Id
  companyDone : Bool
  branchDone : Bool
  inviteDone : Bool
  completed : Bool
  currentStep : String
  deriving DecidableEq

structure TenantSettings where
  tenantId : Id
  country : String
  currency : String
  timezone : String
  onboardingCompleted : Bool
  deriving DecidableEq

/-! ## Unique keys

The texts of a key are the weights that the index compares. -/

inductive TenantKey
  | id (id : Id)
  | slug (slug : String)
  deriving DecidableEq

def Tenant.keys (row : Tenant) : List TenantKey :=
  [.id row.id, .slug (Collation.weight row.slug)]

inductive UserKey
  | id (id : Id)
  | email (tenantId : Id) (email : String)
  deriving DecidableEq

def User.keys (row : User) : List UserKey :=
  .id row.id ::
    (row.tenantId.map fun tenantId => .email tenantId (Collation.weight row.email)).toList

inductive OAuthAccountKey
  | id (id : Id)
  | providerUser (provider : OAuthProvider) (providerUserId : String)
  | tenantUser (tenantId userId : Id) (provider : OAuthProvider)
  deriving DecidableEq

def OAuthAccount.keys (row : OAuthAccount) : List OAuthAccountKey :=
  [.id row.id, .providerUser row.provider row.providerUserId] ++
    (row.tenantId.map fun tenantId => .tenantUser tenantId row.userId row.provider).toList

/-- Rows with an identifier and a unique hash of the secret they stand for. -/
inductive HashKey
  | id (id : Id)
  | hash (hash : String)
  deriving DecidableEq

def PasswordResetToken.keys (row : PasswordResetToken) : List HashKey :=
  [.id row.id, .hash row.tokenHash]

def MfaChallenge.keys (row : MfaChallenge) : List HashKey :=
  [.id row.id, .hash row.challengeTokenHash]

def OAuthState.keys (row : OAuthState) : List HashKey :=
  [.id row.id, .hash row.stateHash]

inductive UserInvitationKey
  | id (id : Id)
  | hash (hash : String)
  | email (tenantId : Id) (email : String) (status : UserInvitationStatus)
  deriving DecidableEq

def UserInvitation.keys (row : UserInvitation) : List UserInvitationKey :=
  [.id row.id, .hash row.tokenHash,
    .email row.tenantId (Collation.weight row.email) row.status]

inductive MfaRecoveryCodeKey
  | id (id : Id)
  | code (tenantId userId : Id) (codeHash : String)
  deriving DecidableEq

def MfaRecoveryCode.keys (row : MfaRecoveryCode) : List MfaRecoveryCodeKey :=
  [.id row.id, .code row.tenantId row.userId row.codeHash]

inductive RefreshTokenKey
  | id (id : Id)
  | hash (tenantId : Id) (hash : String)
  deriving DecidableEq

def RefreshToken.keys (row : RefreshToken) : List RefreshTokenKey :=
  [.id row.id, .hash row.tenantId row.tokenHash]

inductive BranchKey
  | id (id : Id)
  | code (tenantId : Id) (code : String)
  deriving DecidableEq

def branchKeys (row : Branch) : List BranchKey :=
  [.id row.id, .code row.tenantId (Collation.weight row.code)]

structure AuthAuditRecord where
  action : AuditAction
  actorId : Option Id
  entityId : Option Id
  entityType : Option String
  ipHash : Option String
  metadata : List (String × Option String)
  requestId : Option String
  tenantId : Option Id
  deriving DecidableEq

structure AuthStore where
  tenants : Table Tenant TenantKey Tenant.keys
  users : Table User UserKey User.keys
  branches : Table Branch BranchKey branchKeys
  oauthAccounts : Table OAuthAccount OAuthAccountKey OAuthAccount.keys
  passwordResetTokens : Table PasswordResetToken HashKey PasswordResetToken.keys
  userInvitations : Table UserInvitation UserInvitationKey UserInvitation.keys
  mfaRecoveryCodes : Table MfaRecoveryCode MfaRecoveryCodeKey MfaRecoveryCode.keys
  mfaChallenges : Table MfaChallenge HashKey MfaChallenge.keys
  oauthStates : Table OAuthState HashKey OAuthState.keys
  refreshTokens : Table RefreshToken RefreshTokenKey RefreshToken.keys
  tenantOnboardings : IdTable TenantOnboarding TenantOnboarding.tenantId
  tenantSettings : IdTable TenantSettings TenantSettings.tenantId
  auditLogs : List AuthAuditRecord

def AuthStore.empty : AuthStore where
  tenants := .empty
  users := .empty
  branches := .empty
  oauthAccounts := .empty
  passwordResetTokens := .empty
  userInvitations := .empty
  mfaRecoveryCodes := .empty
  mfaChallenges := .empty
  oauthStates := .empty
  refreshTokens := .empty
  tenantOnboardings := .empty
  tenantSettings := .empty
  auditLogs := []

/-- `User & { tenant: Tenant | null }` with the accounts some reads include. -/
structure AuthUserRecord where
  user : User
  tenant : Option Tenant
  oauthAccounts : List OAuthAccount

structure RefreshTokenRecord where
  token : RefreshToken
  user : AuthUserRecord

structure MfaChallengeRecord where
  challenge : MfaChallenge
  user : AuthUserRecord

structure OAuthAccountRecord where
  account : OAuthAccount
  user : AuthUserRecord

structure ProfileRecord where
  user : AuthUserRecord
  refreshTokens : List RefreshToken

structure OAuthIdentity where
  email : String
  emailVerified : Bool
  name : String
  provider : OAuthProvider
  providerUserId : String
  deriving DecidableEq

/-- What the environment decides about one call: besides the clock and the row
identifiers, the random bytes, the state of the attempt counter and the answer
of the identity provider. -/
structure AuthInput where
  now : Time
  ids : ℕ → Id
  fault : Bool
  bytes : ℕ → UInt8
  uuid : Id
  locked : Bool
  identity : Except ServiceError OAuthIdentity

end Logistics.Auth
