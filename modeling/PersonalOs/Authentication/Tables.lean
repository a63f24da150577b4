import PersonalOs.Authentication.Locks
import PersonalOs.Basis.Tables

/-!
# The authentication tables

The rows of the authentication schema with the columns its transactions read and write. Times
are the caller's `database_now`, in seconds; secrets appear as the digests the tables store.

`resetsSeen` is no column: it is how many emergency resets of the row's user had been committed
when the transaction that inserted the row began.
-/

namespace PersonalOs.Authentication

abbrev WorkspaceId := Nat
abbrev RotationId := Nat
abbrev Instant := Nat
abbrev KeyId := String
abbrev SecretHash := String

/-! ## Identities -/

structure UserRow where
  userId : UserId
  username : String
  isActive : Bool
deriving DecidableEq

structure WorkspaceRow where
  workspaceId : WorkspaceId
  ownerUserId : UserId
  isActive : Bool
deriving DecidableEq

structure UserCredentialRow where
  userId : UserId
  workspaceId : WorkspaceId
  passwordHash : SecretHash
  credentialRevision : Nat
deriving DecidableEq

/-! ## Web sessions and second factors -/

inductive WebSessionState
  | pendingTotp
  | active
  | recoveryLimited
  | revoked
deriving DecidableEq

inductive AuthenticationMethod
  | password
  | totp
  | recovery
deriving DecidableEq

structure WebSessionRow where
  webSessionId : WebSessionId
  userId : UserId
  workspaceId : WorkspaceId
  sessionSecretHash : SecretHash
  csrfSecretHash : SecretHash
  state : WebSessionState
  credentialRevision : Nat
  authenticationMethod : AuthenticationMethod
  createdAt : Instant
  authenticatedAt : Option Instant
  reauthenticatedAt : Option Instant
  lastSeenAt : Option Instant
  idleExpiresAt : Instant
  absoluteExpiresAt : Instant
  revokedAt : Option Instant
  resetsSeen : Nat
deriving DecidableEq

inductive TotpCredentialState
  | pending
  | active
  | replaced
deriving DecidableEq

structure TotpCredentialRow where
  totpCredentialId : TotpCredentialId
  userId : UserId
  state : TotpCredentialState
  secret : List UInt8
  lastAcceptedTimeStep : Option Nat
  enrollmentExpiresAt : Option Instant
  revision : Nat
  resetsSeen : Nat
deriving DecidableEq

structure TotpRecoveryCodeRow where
  recoveryCodeId : RecoveryCodeId
  totpCredentialId : TotpCredentialId
  userId : UserId
  revision : Nat
  codeHash : SecretHash
  usedAt : Option Instant
  resetsSeen : Nat
deriving DecidableEq

/-! ## Devices and their tokens -/

inductive DeviceKind
  | system
  | obsidian
deriving DecidableEq

inductive DeviceStatus
  | active
  | revoked
deriving DecidableEq

structure DeviceRow where
  deviceId : DeviceId
  workspaceId : WorkspaceId
  userId : UserId
  deviceName : String
  deviceKind : DeviceKind
  status : DeviceStatus
  lastSeenAt : Option Instant
  revokedAt : Option Instant
  resetsSeen : Nat
deriving DecidableEq

inductive DeviceTokenFamilyState
  | active
  | revoked
deriving DecidableEq

inductive RevocationReason
  | tokenReuse
  | selfRevoked
  | adminRevoked
  | emergencyReset
deriving DecidableEq

structure TokenFamilyRow where
  tokenFamilyId : TokenFamilyId
  userId : UserId
  workspaceId : WorkspaceId
  deviceId : DeviceId
  state : DeviceTokenFamilyState
  currentRefreshGeneration : Nat
  lastRefreshedAt : Instant
  inactivityExpiresAt : Instant
  absoluteExpiresAt : Instant
  revokedAt : Option Instant
  revocationReason : Option RevocationReason
  resetsSeen : Nat
deriving DecidableEq

inductive DeviceTokenKind
  | access
  | refresh
deriving DecidableEq

inductive DeviceTokenState
  | active
  | rotated
  | revoked
deriving DecidableEq

structure DeviceTokenRow where
  deviceTokenId : DeviceTokenId
  tokenFamilyId : TokenFamilyId
  userId : UserId
  workspaceId : WorkspaceId
  deviceId : DeviceId
  tokenKind : DeviceTokenKind
  generation : Nat
  secretHash : SecretHash
  state : DeviceTokenState
  predecessorTokenId : Option DeviceTokenId
  successorTokenId : Option DeviceTokenId
  rotationId : Option RotationId
  derivationKeyId : KeyId
  issuedAt : Instant
  expiresAt : Instant
  rotatedAt : Option Instant
  revokedAt : Option Instant
  resetsSeen : Nat
deriving DecidableEq

/-! ## Grants -/

inductive DeviceAuthorizationGrantState
  | pending
  | approved
  | denied
  | exchanged
deriving DecidableEq

structure ExchangeAnchors where
  exchangedAt : Instant
  deviceId : DeviceId
  tokenFamilyId : TokenFamilyId
  initialAccessTokenId : DeviceTokenId
  initialRefreshTokenId : DeviceTokenId
  derivationKeyId : KeyId
deriving DecidableEq

structure GrantRow where
  grantId : GrantId
  pollingSecretHash : SecretHash
  claimedDeviceId : Option DeviceId
  deviceName : String
  state : DeviceAuthorizationGrantState
  expiresAt : Instant
  approvedByUserId : Option UserId
  approvedWebSessionId : Option WebSessionId
  approvedAt : Option Instant
  deniedAt : Option Instant
  exchange : Option ExchangeAnchors
deriving DecidableEq

/-! ## Audit -/

inductive AuditAction
  | deviceAuthorizationApproved
  | deviceAuthorizationDenied
  | deviceRegistered
  | deviceTokenFamilyCreated
  | deviceTokenReuseDetected
  | deviceTokenFamilyRevoked
  | deviceRevoked
  | webAuthenticationReset
deriving DecidableEq

structure AuditEventRow where
  action : AuditAction
  actorId : Nat
  targetId : Nat
  occurredAt : Instant
deriving DecidableEq

/-! ## The database -/

structure Db where
  users : List UserRow
  workspaces : List WorkspaceRow
  userCredentials : List UserCredentialRow
  webSessions : List WebSessionRow
  totpCredentials : List TotpCredentialRow
  totpRecoveryCodes : List TotpRecoveryCodeRow
  devices : List DeviceRow
  deviceTokenFamilies : List TokenFamilyRow
  deviceTokens : List DeviceTokenRow
  deviceAuthorizationGrants : List GrantRow
  auditEvents : List AuditEventRow
  resets : List UserId
deriving DecidableEq

open Tables

def Db.user (db : Db) (id : UserId) : Option UserRow :=
  lookup UserRow.userId db.users id

def Db.device (db : Db) (id : DeviceId) : Option DeviceRow :=
  lookup DeviceRow.deviceId db.devices id

def Db.family (db : Db) (id : TokenFamilyId) : Option TokenFamilyRow :=
  lookup TokenFamilyRow.tokenFamilyId db.deviceTokenFamilies id

def Db.token (db : Db) (id : DeviceTokenId) : Option DeviceTokenRow :=
  lookup DeviceTokenRow.deviceTokenId db.deviceTokens id

def Db.grant (db : Db) (id : GrantId) : Option GrantRow :=
  lookup GrantRow.grantId db.deviceAuthorizationGrants id

def Db.tokenOfKind (db : Db) (kind : DeviceTokenKind) (id : DeviceTokenId) :
    Option DeviceTokenRow :=
  (db.token id).filter fun token => token.tokenKind = kind

def Db.tokensOf (db : Db) (family : TokenFamilyId) : List DeviceTokenRow :=
  db.deviceTokens.filter fun token => token.tokenFamilyId = family

/-- How many emergency resets of a user are committed. -/
def Db.resetCount (db : Db) (userId : UserId) : Nat := db.resets.count userId

end PersonalOs.Authentication
