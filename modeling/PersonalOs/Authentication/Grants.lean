import PersonalOs.Authentication.DeviceTokens

/-!
# The device-authorization store

`DeviceAuthorizationStore`: the creation of a pending grant, its approval or denial, and the
exchange of an approved grant with its replay. The throttle buckets of creation and of polling
are left out: they refuse a call before it reaches the grants.
-/

namespace PersonalOs.Authentication

open Transactions Tables

/-! ## Commands -/

structure InsertPendingGrantCommand where
  grantId : GrantId
  pollingSecretHash : SecretHash
  claimedDeviceId : Option DeviceId
  deviceName : String
  expiresAt : Instant
  databaseNow : Instant

/-- `ApproveGrantCommand` and `DenyGrantCommand`. -/
structure DecideGrantCommand where
  grantId : GrantId
  userId : UserId
  webSessionId : WebSessionId
  databaseNow : Instant

structure ExchangeGrantCommand where
  grantId : GrantId
  pollingSecretHash : SecretHash
  previousPollingSecretHash : Option SecretHash
  deviceId : DeviceId
  tokenFamilyId : TokenFamilyId
  accessTokenId : DeviceTokenId
  refreshTokenId : DeviceTokenId
  accessSecretHash : SecretHash
  refreshSecretHash : SecretHash
  derivationKeyId : KeyId
  accessExpiresAt : Instant
  refreshExpiresAt : Instant
  familyAbsoluteExpiresAt : Instant
  databaseNow : Instant

/-! ## Creation -/

/-- The primary key and `uq_device_authorization_grants__polling_secret_hash`. -/
def insertGrant (grants : List GrantRow) (grant : GrantRow) :
    Except AuthErrorCode (List GrantRow) :=
  if grants.any fun g => g.grantId = grant.grantId ∨
      g.pollingSecretHash = grant.pollingSecretHash then
    .error .internalError
  else .ok (grants ++ [grant])

def insertPendingGrant (command : InsertPendingGrantCommand) : AuthProgram :=
  runAuthenticationTransaction <| commit
    (fun db => do
      let grants ← insertGrant db.deviceAuthorizationGrants {
        grantId := command.grantId
        pollingSecretHash := command.pollingSecretHash
        claimedDeviceId := command.claimedDeviceId
        deviceName := command.deviceName
        state := .pending
        expiresAt := command.expiresAt
        approvedByUserId := none
        approvedWebSessionId := none
        approvedAt := none
        deniedAt := none
        exchange := none }
      return ({ db with deviceAuthorizationGrants := grants },
        { grantId := command.grantId
          expiresAt := command.expiresAt
          databaseNow := command.databaseNow }))
    .inserted

/-! ## Decisions -/

def resolveTerminalRejectionCode (grant : GrantRow) (databaseNow : Instant) :
    Option AuthErrorCode :=
  if grant.state ≠ .pending then some .deviceAuthorizationStateInvalid
  else if databaseNow ≥ grant.expiresAt then some .deviceAuthorizationExpired
  else none

/-- The values of an approval or of a denial. -/
def GrantRow.decide (grant : GrantRow) (approves : Bool) (command : DecideGrantCommand) :
    GrantRow :=
  if approves then
    { grant with
      state := .approved
      approvedAt := some command.databaseNow
      approvedByUserId := some command.userId
      approvedWebSessionId := some command.webSessionId }
  else { grant with state := .denied, deniedAt := some command.databaseNow }

/-- `_terminal_transition`: `approve_grant` and `deny_grant`. -/
def decideGrant (approves : Bool) (command : DecideGrantCommand) : AuthProgram :=
  runAuthenticationTransaction <|
    .selectForUpdate (fun db => db.grant command.grantId)
      (fun grant => .deviceAuthorizationGrant grant.grantId) (reject .deviceCredentialInvalid)
      fun grant =>
        match resolveTerminalRejectionCode grant command.databaseNow with
        | some code => reject code
        | none => commit
          (fun db => do
            let grants ← updateGuarded db.deviceAuthorizationGrants
              (fun g => g.grantId = command.grantId ∧ g.state = .pending)
              (fun g => g.decide approves command) .deviceAuthorizationStateInvalid
            return ({ db with deviceAuthorizationGrants := grants }.insertAudit
              { action := if approves then .deviceAuthorizationApproved
                  else .deviceAuthorizationDenied
                actorId := command.userId
                targetId := command.grantId
                occurredAt := command.databaseNow },
              { grantId := command.grantId
                state := if approves then .approved else .denied
                decidedAt := command.databaseNow
                databaseNow := command.databaseNow }))
          .decided

/-! ## Exchange -/

def initialToken (command : ExchangeGrantCommand) (userId : UserId) (workspaceId : WorkspaceId)
    (resetsSeen : Nat) (tokenKind : DeviceTokenKind) (tokenId : DeviceTokenId)
    (secretHash : SecretHash) (expiresAt : Instant) : DeviceTokenRow where
  deviceTokenId := tokenId
  tokenFamilyId := command.tokenFamilyId
  userId := userId
  workspaceId := workspaceId
  deviceId := command.deviceId
  tokenKind := tokenKind
  generation := initialRefreshGeneration
  secretHash := secretHash
  state := .active
  predecessorTokenId := none
  successorTokenId := none
  rotationId := none
  derivationKeyId := command.derivationKeyId
  issuedAt := command.databaseNow
  expiresAt := expiresAt
  rotatedAt := none
  revokedAt := none
  resetsSeen := resetsSeen

/-- The primary key of `devices`. -/
def insertDevice (devices : List DeviceRow) (device : DeviceRow) :
    Except AuthErrorCode (List DeviceRow) :=
  if devices.any fun d => d.deviceId = device.deviceId then .error .internalError
  else .ok (devices ++ [device])

/-- The primary key, `uq_device_token_families__active_device` and
`ck_device_token_families__expiry`. -/
def insertFamily (families : List TokenFamilyRow) (family : TokenFamilyRow) :
    Except AuthErrorCode (List TokenFamilyRow) :=
  if (families.any fun f => f.tokenFamilyId = family.tokenFamilyId ∨
      (f.deviceId = family.deviceId ∧ f.state = .active)) ∨
      family.absoluteExpiresAt < family.inactivityExpiresAt then
    .error .internalError
  else .ok (families ++ [family])

def ExchangeGrantCommand.anchors (command : ExchangeGrantCommand) : ExchangeAnchors where
  exchangedAt := command.databaseNow
  deviceId := command.deviceId
  tokenFamilyId := command.tokenFamilyId
  initialAccessTokenId := command.accessTokenId
  initialRefreshTokenId := command.refreshTokenId
  derivationKeyId := command.derivationKeyId

def ExchangeGrantCommand.device (command : ExchangeGrantCommand) (grant : GrantRow)
    (userId : UserId) (workspaceId : WorkspaceId) (resetsSeen : Nat) : DeviceRow where
  deviceId := command.deviceId
  workspaceId := workspaceId
  userId := userId
  deviceName := grant.deviceName
  deviceKind := .obsidian
  status := .active
  lastSeenAt := none
  revokedAt := none
  resetsSeen := resetsSeen

def ExchangeGrantCommand.family (command : ExchangeGrantCommand) (userId : UserId)
    (workspaceId : WorkspaceId) (resetsSeen : Nat) : TokenFamilyRow where
  tokenFamilyId := command.tokenFamilyId
  userId := userId
  workspaceId := workspaceId
  deviceId := command.deviceId
  state := .active
  currentRefreshGeneration := initialRefreshGeneration
  lastRefreshedAt := command.databaseNow
  inactivityExpiresAt := command.refreshExpiresAt
  absoluteExpiresAt := command.familyAbsoluteExpiresAt
  revokedAt := none
  revocationReason := none
  resetsSeen := resetsSeen

/-- The nine steps of `_commit_first_exchange`; the grant's own update is not counted. -/
def firstExchangeWrites (grant : GrantRow) (command : ExchangeGrantCommand) (userId : UserId)
    (workspaceId : WorkspaceId) (resetsSeen : Nat) (db : Db) :
    Except AuthErrorCode (Db × ExchangeProvisioning) := do
  let devices ← insertDevice db.devices (command.device grant userId workspaceId resetsSeen)
  let deviceTokenFamilies ←
    insertFamily db.deviceTokenFamilies (command.family userId workspaceId resetsSeen)
  let tokens ← insertToken db.deviceTokens (initialToken command userId workspaceId resetsSeen
    .access command.accessTokenId command.accessSecretHash command.accessExpiresAt)
  let deviceTokens ← insertToken tokens (initialToken command userId workspaceId resetsSeen
    .refresh command.refreshTokenId command.refreshSecretHash command.refreshExpiresAt)
  let deviceAuthorizationGrants := updateWhere db.deviceAuthorizationGrants
    (fun g => g.grantId = command.grantId ∧ g.state = .approved)
    (fun g => { g with state := .exchanged, exchange := some command.anchors })
  let db := { db with
    devices, deviceTokenFamilies, deviceTokens, deviceAuthorizationGrants }
  let db := db.insertAudit {
    action := .deviceRegistered
    actorId := userId
    targetId := command.deviceId
    occurredAt := command.databaseNow }
  let db := db.insertAudit {
    action := .deviceTokenFamilyCreated
    actorId := userId
    targetId := command.tokenFamilyId
    occurredAt := command.databaseNow }
  return (db,
    { grantId := command.grantId
      deviceId := command.deviceId
      tokenFamilyId := command.tokenFamilyId
      accessTokenId := command.accessTokenId
      refreshTokenId := command.refreshTokenId
      derivationKeyId := command.derivationKeyId
      refreshGeneration := initialRefreshGeneration
      accessIssuedAt := command.databaseNow
      accessExpiresAt := command.accessExpiresAt
      refreshExpiresAt := command.refreshExpiresAt
      databaseNow := command.databaseNow })

def Db.activeUser (db : Db) (userId : Option UserId) : Option UserRow :=
  (userId.bind db.user).filter UserRow.isActive

def Db.ownedWorkspace (db : Db) (userId : UserId) : Option WorkspaceRow :=
  db.workspaces.find? fun w => w.ownerUserId = userId ∧ w.isActive

def commitFirstExchange (grant : GrantRow) (command : ExchangeGrantCommand) (begun : Db) :
    AuthProgram :=
  if command.databaseNow ≥ grant.expiresAt then reject .deviceAuthorizationExpired
  else readRow (fun db => db.activeUser grant.approvedByUserId) .deviceAuthorizationStateInvalid
    fun user =>
  readRow (fun db => db.ownedWorkspace user.userId) .deviceAuthorizationStateInvalid
    fun workspace =>
  commit (firstExchangeWrites grant command user.userId workspace.workspaceId
    (begun.resetCount user.userId)) .exchanged

/-- `_replay_committed_exchange`: the rows are read one after another, none of them locked. -/
def replayCommittedExchange (grant : GrantRow) (anchors : ExchangeAnchors)
    (command : ExchangeGrantCommand) : AuthProgram :=
  .read fun db =>
    let refresh := db.token anchors.initialRefreshTokenId
    readRow (fun db => db.family anchors.tokenFamilyId) .deviceAuthorizationStateInvalid
      fun family =>
    match refresh with
    | none => reject .deviceAuthorizationStateInvalid
    | some refresh =>
      if refresh.state = .active ∧ family.currentRefreshGeneration = refresh.generation then
        readRow (fun db => db.token anchors.initialAccessTokenId) .deviceAuthorizationStateInvalid
          fun access =>
        .rollback (answer (.exchanged {
          grantId := grant.grantId
          deviceId := anchors.deviceId
          tokenFamilyId := anchors.tokenFamilyId
          accessTokenId := anchors.initialAccessTokenId
          refreshTokenId := anchors.initialRefreshTokenId
          derivationKeyId := anchors.derivationKeyId
          refreshGeneration := refresh.generation
          accessIssuedAt := access.issuedAt
          accessExpiresAt := access.expiresAt
          refreshExpiresAt := refresh.expiresAt
          databaseNow := command.databaseNow }))
      else reject .deviceAuthorizationStateInvalid

def ExchangeGrantCommand.matchableDigests (command : ExchangeGrantCommand) : List SecretHash :=
  command.pollingSecretHash :: command.previousPollingSecretHash.toList

def Db.grantsByDigest (db : Db) (digests : List SecretHash) : List GrantRow :=
  db.deviceAuthorizationGrants.filter fun g => g.pollingSecretHash ∈ digests

def pollExchange (command : ExchangeGrantCommand) : AuthProgram :=
  runAuthenticationTransaction <| .read fun begun =>
    .updateRows (fun db => db.grantsByDigest command.matchableDigests)
      (fun grant => .deviceAuthorizationGrant grant.grantId) fun found =>
    .read fun db =>
      match (db.grantsByDigest command.matchableDigests).filter fun g =>
        g.grantId ∈ found.map GrantRow.grantId with
      | [] => reject .deviceCredentialInvalid
      | [grant] =>
        if grant.grantId ≠ command.grantId then reject .deviceCredentialInvalid
        else match grant.state, grant.exchange with
          | .denied, _ => reject .deviceAuthorizationDenied
          | .pending, _ =>
            if command.databaseNow ≥ grant.expiresAt then reject .deviceAuthorizationExpired
            else reject .deviceAuthorizationPending
          | .exchanged, some anchors => replayCommittedExchange grant anchors command
          | .exchanged, none => reject .internalError
          | .approved, _ => commitFirstExchange grant command begun
      | _ => reject .internalError

end PersonalOs.Authentication
