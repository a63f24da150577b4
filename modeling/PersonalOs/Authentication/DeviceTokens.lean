import PersonalOs.Authentication.Answers

/-!
# The device-token store

`DeviceTokenStore`: rotation and replay of refresh credentials, the revocations and the
authentication of access credentials, each one transaction under READ COMMITTED.
-/

namespace PersonalOs.Authentication

open Transactions Tables

/-! ## Lifetimes -/

def accessTokenLifetime : Nat := 15 * 60
def refreshInactivityLifetime : Nat := 30 * 24 * 60 * 60
def refreshAbsoluteLifetime : Nat := 90 * 24 * 60 * 60
def initialRefreshGeneration : Nat := 1
def deviceLastSeenMaximumUpdateInterval : Nat := 5 * 60

/-! ## Classification -/

inductive RefreshPresentationKind
  | newRotation
  | exactReplay
  | reuseDetected
deriving DecidableEq

def classifyRefreshPresentation (predecessor : DeviceTokenRow) (successor : Option DeviceTokenRow)
    (family : TokenFamilyRow) (presentedRotationId : RotationId) (databaseNow : Instant) :
    RefreshPresentationKind :=
  if family.state = .revoked then .reuseDetected
  else match predecessor.state with
    | .revoked => .reuseDetected
    | .rotated =>
      match successor with
      | none => .reuseDetected
      | some successor =>
        if successor.rotationId = some presentedRotationId ∧ successor.state = .active ∧
            family.currentRefreshGeneration = successor.generation then .exactReplay
        else .reuseDetected
    | .active =>
      if family.currentRefreshGeneration ≠ predecessor.generation then .reuseDetected
      else if databaseNow ≥ predecessor.expiresAt then .reuseDetected
      else if databaseNow ≥ family.inactivityExpiresAt then .reuseDetected
      else if databaseNow ≥ family.absoluteExpiresAt then .reuseDetected
      else .newRotation

/-! ## Commands -/

abbrev PresentedHashes := List (KeyId × SecretHash)

/-- The digest under the key the row is anchored to is the stored one. -/
def PresentedHashes.verify (hashes : PresentedHashes) (token : DeviceTokenRow) : Bool :=
  hashes.lookup token.derivationKeyId = some token.secretHash

structure RefreshRotationCommand where
  predecessorTokenId : DeviceTokenId
  predecessorSecretHashesByKeyId : PresentedHashes
  rotationId : RotationId
  successorRefreshTokenId : DeviceTokenId
  successorAccessTokenId : DeviceTokenId
  successorRefreshSecretHash : SecretHash
  successorAccessSecretHash : SecretHash
  derivationKeyId : KeyId
  accessExpiresAt : Instant
  databaseNow : Instant

structure RevokeCurrentRefreshCommand where
  refreshTokenId : DeviceTokenId
  secretHashesByKeyId : PresentedHashes
  databaseNow : Instant

structure AdminRevokeDeviceCommand where
  deviceId : DeviceId
  workspaceId : WorkspaceId
  actorUserId : UserId
  deviceNameConfirmation : String
  databaseNow : Instant

structure AccessTokenAuthenticationCommand where
  tokenId : DeviceTokenId
  secretHashesByKeyId : PresentedHashes
  databaseNow : Instant

/-! ## Writes -/

/-- `uq_device_tokens__current_refresh_generation`, `uq_device_tokens__successor_per_predecessor`,
`uq_device_tokens__secret_hash` and the primary key. -/
def tokenConflicts (token row : DeviceTokenRow) : Bool :=
  row.deviceTokenId = token.deviceTokenId ∨ row.secretHash = token.secretHash ∨
    (token.tokenKind = .refresh ∧ token.state = .active ∧ row.tokenKind = .refresh ∧
      row.state = .active ∧ row.tokenFamilyId = token.tokenFamilyId) ∨
    (token.predecessorTokenId ≠ none ∧ row.predecessorTokenId = token.predecessorTokenId)

def insertToken (tokens : List DeviceTokenRow) (token : DeviceTokenRow) :
    Except AuthErrorCode (List DeviceTokenRow) :=
  if tokens.any (tokenConflicts token) then .error .internalError else .ok (tokens ++ [token])

/-- The refresh expiry of a new rotation, which never passes the absolute one. -/
def successorExpiresAt (family : TokenFamilyRow) (databaseNow : Instant) : Instant :=
  min (databaseNow + refreshInactivityLifetime) family.absoluteExpiresAt

/-- The successor pair shares its family, generation, key and issue time. -/
def successorToken (predecessor : DeviceTokenRow) (command : RefreshRotationCommand)
    (resetsSeen : Nat) (tokenKind : DeviceTokenKind) (tokenId : DeviceTokenId)
    (secretHash : SecretHash) (expiresAt : Instant) : DeviceTokenRow where
  deviceTokenId := tokenId
  tokenFamilyId := predecessor.tokenFamilyId
  userId := predecessor.userId
  workspaceId := predecessor.workspaceId
  deviceId := predecessor.deviceId
  tokenKind := tokenKind
  generation := predecessor.generation + 1
  secretHash := secretHash
  state := .active
  predecessorTokenId := if tokenKind = .refresh then some predecessor.deviceTokenId else none
  successorTokenId := none
  rotationId := if tokenKind = .refresh then some command.rotationId else none
  derivationKeyId := command.derivationKeyId
  issuedAt := command.databaseNow
  expiresAt := expiresAt
  rotatedAt := none
  revokedAt := none
  resetsSeen := resetsSeen

def TokenFamilyRow.advance (f : TokenFamilyRow) (generation : Nat)
    (lastRefreshedAt inactivityExpiresAt : Instant) : TokenFamilyRow :=
  { f with currentRefreshGeneration := generation, lastRefreshedAt, inactivityExpiresAt }

/-- `_commit_new_rotation`. -/
def newRotationWrites (predecessor : DeviceTokenRow) (family : TokenFamilyRow)
    (command : RefreshRotationCommand) (resetsSeen : Nat) (db : Db) :
    Except AuthErrorCode (Db × CommittedRefreshRotation) := do
  let refreshExpiresAt := successorExpiresAt family command.databaseNow
  let tokens ← updateGuarded db.deviceTokens
    (fun t => t.deviceTokenId = predecessor.deviceTokenId ∧ t.state = .active)
    (fun t => { t with state := .rotated, rotatedAt := some command.databaseNow })
    .deviceTokenReuseDetected
  let tokens ← insertToken tokens (successorToken predecessor command resetsSeen .refresh
    command.successorRefreshTokenId command.successorRefreshSecretHash refreshExpiresAt)
  let tokens ← insertToken tokens (successorToken predecessor command resetsSeen .access
    command.successorAccessTokenId command.successorAccessSecretHash command.accessExpiresAt)
  let tokens ← updateGuarded tokens
    (fun t => t.deviceTokenId = predecessor.deviceTokenId ∧ t.state = .rotated)
    (fun t => { t with successorTokenId := some command.successorRefreshTokenId })
    .deviceTokenReuseDetected
  let families ← updateGuarded db.deviceTokenFamilies
    (fun f => f.tokenFamilyId = predecessor.tokenFamilyId ∧
      f.currentRefreshGeneration = predecessor.generation)
    (fun f => f.advance (predecessor.generation + 1) command.databaseNow refreshExpiresAt)
    .deviceTokenReuseDetected
  return ({ db with deviceTokens := tokens, deviceTokenFamilies := families },
    { tokenFamilyId := predecessor.tokenFamilyId
      successorRefreshTokenId := command.successorRefreshTokenId
      successorAccessTokenId := command.successorAccessTokenId
      successorGeneration := predecessor.generation + 1
      derivationKeyId := command.derivationKeyId
      rotatedAt := command.databaseNow
      accessExpiresAt := command.accessExpiresAt
      refreshExpiresAt
      familyInactivityExpiresAt := refreshExpiresAt
      familyAbsoluteExpiresAt := family.absoluteExpiresAt
      databaseNow := command.databaseNow })

/-- What a revocation found: the rows its updates wait for. -/
structure RevokedRows where
  families : List TokenFamilyId
  tokens : List DeviceTokenId
  devices : List DeviceId

def DeviceRow.revoke (d : DeviceRow) (revokedAt : Instant) : DeviceRow :=
  { d with status := .revoked, revokedAt := some revokedAt }

def TokenFamilyRow.revoke (f : TokenFamilyRow) (reason : RevocationReason) (revokedAt : Instant) :
    TokenFamilyRow :=
  { f with state := .revoked, revokedAt := some revokedAt, revocationReason := some reason }

def DeviceTokenRow.revoke (t : DeviceTokenRow) (revokedAt : Instant) : DeviceTokenRow :=
  { t with state := .revoked, revokedAt := some revokedAt }

def RevokedRows.admitsFamily (rows : RevokedRows) (f : TokenFamilyRow) : Bool :=
  f.tokenFamilyId ∈ rows.families ∧ f.state = .active

def RevokedRows.admitsToken (rows : RevokedRows) (t : DeviceTokenRow) : Bool :=
  t.deviceTokenId ∈ rows.tokens ∧ t.state = .active

def RevokedRows.admitsDevice (rows : RevokedRows) (d : DeviceRow) : Bool :=
  d.deviceId ∈ rows.devices ∧ d.status = .active

/-- The updates of a revocation: of the rows found, those still active. -/
def Db.revoke (db : Db) (rows : RevokedRows) (reason : RevocationReason) (revokedAt : Instant) :
    Db :=
  { db with
    deviceTokenFamilies :=
      updateWhere db.deviceTokenFamilies rows.admitsFamily (·.revoke reason revokedAt)
    deviceTokens := updateWhere db.deviceTokens rows.admitsToken (·.revoke revokedAt)
    devices := updateWhere db.devices rows.admitsDevice (·.revoke revokedAt) }

def Db.insertAudit (db : Db) (event : AuditEventRow) : Db :=
  { db with auditEvents := db.auditEvents ++ [event] }

def Db.activeTokensOf (db : Db) (families : List TokenFamilyId) : List DeviceTokenRow :=
  db.deviceTokens.filter fun t => t.tokenFamilyId ∈ families ∧ t.state = .active

/-! ## Presentations -/

/-- The rows of a presented refresh credential, locked and verified: its token, then the family
of the token. -/
def lockPresentation (tokenId : DeviceTokenId) (hashes : PresentedHashes)
    (next : DeviceTokenRow → TokenFamilyRow → AuthProgram) : AuthProgram :=
  .selectForUpdate (fun db => db.tokenOfKind .refresh tokenId)
    (fun token => .deviceToken token.deviceTokenId) (reject .deviceCredentialInvalid)
    fun predecessor =>
      if hashes.verify predecessor then
        .selectForUpdate (fun db => db.family predecessor.tokenFamilyId)
          (fun family => .deviceTokenFamily family.tokenFamilyId)
          (reject .deviceCredentialInvalid) (next predecessor)
      else reject .deviceCredentialInvalid

/-- `_revoke_family_for_reuse`, committed before the rejection is raised. -/
def revokeFamilyForReuse (family : TokenFamilyRow) (decidedAt : Instant) : AuthProgram :=
  let raised := answer (.rejected .deviceTokenReuseDetected)
  if family.state = .revoked then .rollback raised
  else
    .updateRows (fun db => db.activeTokensOf [family.tokenFamilyId])
      (fun token => .deviceToken token.deviceTokenId) fun tokens =>
    .updateRows (fun db => (db.device family.deviceId).toList.filter fun d => d.status = .active)
      (fun device => .device device.deviceId) fun devices =>
    .finish
      (fun db => some ((db.revoke
        { families := [family.tokenFamilyId]
          tokens := tokens.map DeviceTokenRow.deviceTokenId
          devices := devices.map DeviceRow.deviceId } .tokenReuse decidedAt).insertAudit
        { action := .deviceTokenReuseDetected
          actorId := family.deviceId
          targetId := family.tokenFamilyId
          occurredAt := decidedAt }))
      (fun _ => raised) (fun _ => raised)

/-! ## Rotation and replay -/

def Db.successorOf (db : Db) (tokenId : DeviceTokenId) : Option DeviceTokenRow :=
  db.deviceTokens.find? fun t => t.predecessorTokenId = some tokenId ∧ t.tokenKind = .refresh

/-- The access token of a generation; `ORDER BY issued_at DESC` takes the latest. -/
def Db.accessTokenOf (db : Db) (family : TokenFamilyId) (generation : Nat) :
    Option DeviceTokenRow :=
  ((db.tokensOf family).filter fun t => t.tokenKind = .access ∧ t.generation = generation).foldl
    (fun latest t =>
      match latest with
      | none => some t
      | some other => if other.issuedAt < t.issuedAt then some t else some other) none

def replayCommittedRotation (predecessor successor : DeviceTokenRow) (family : TokenFamilyRow)
    (command : RefreshRotationCommand) : AuthProgram :=
  .read fun db =>
    match db.accessTokenOf predecessor.tokenFamilyId successor.generation,
      predecessor.rotatedAt with
    | some access, some rotatedAt => .rollback (answer (.rotated {
        tokenFamilyId := predecessor.tokenFamilyId
        successorRefreshTokenId := successor.deviceTokenId
        successorAccessTokenId := access.deviceTokenId
        successorGeneration := successor.generation
        derivationKeyId := successor.derivationKeyId
        rotatedAt
        accessExpiresAt := access.expiresAt
        refreshExpiresAt := successor.expiresAt
        familyInactivityExpiresAt := family.inactivityExpiresAt
        familyAbsoluteExpiresAt := family.absoluteExpiresAt
        databaseNow := command.databaseNow }))
    | _, _ => revokeFamilyForReuse family command.databaseNow

def refreshRotation (command : RefreshRotationCommand) : AuthProgram :=
  runAuthenticationTransaction <| .read fun begun =>
    lockPresentation command.predecessorTokenId command.predecessorSecretHashesByKeyId
      fun predecessor family => .read fun db =>
        let successor :=
          if predecessor.state = .rotated then db.successorOf command.predecessorTokenId else none
        match classifyRefreshPresentation predecessor successor family command.rotationId
            command.databaseNow, successor with
        | .newRotation, _ =>
          commit (newRotationWrites predecessor family command (begun.resetCount predecessor.userId))
            .rotated
        | .exactReplay, some successor =>
          replayCommittedRotation predecessor successor family command
        | _, _ => revokeFamilyForReuse family command.databaseNow

/-! ## Revocations -/

def revokeCurrentRefresh (command : RevokeCurrentRefreshCommand) : AuthProgram :=
  runAuthenticationTransaction <|
    lockPresentation command.refreshTokenId command.secretHashesByKeyId fun predecessor family =>
      if family.state = .revoked ∨ predecessor.state = .revoked then reject .deviceRevoked
      else if predecessor.state = .rotated ∨
          family.currentRefreshGeneration ≠ predecessor.generation then
        revokeFamilyForReuse family command.databaseNow
      else
        .updateRows (fun db => db.activeTokensOf [family.tokenFamilyId])
          (fun token => .deviceToken token.deviceTokenId) fun tokens =>
        .finish
          (fun db => some ((db.revoke
            { families := [family.tokenFamilyId]
              tokens := tokens.map DeviceTokenRow.deviceTokenId
              devices := [] } .selfRevoked command.databaseNow).insertAudit
            { action := .deviceTokenFamilyRevoked
              actorId := predecessor.deviceId
              targetId := family.tokenFamilyId
              occurredAt := command.databaseNow }))
          (fun _ => answer (.familyRevoked {
            tokenFamilyId := family.tokenFamilyId
            deviceId := predecessor.deviceId
            revokedAt := command.databaseNow
            databaseNow := command.databaseNow }))
          (fun _ => answer (.rejected .internalError))

def denyGrants (grants : List GrantRow) (found : List GrantId) (deniedAt : Instant) :
    List GrantRow :=
  updateWhere grants
    (fun g => g.grantId ∈ found ∧ (g.state = .pending ∨ g.state = .approved))
    (fun g => { g with state := .denied, deniedAt := some deniedAt })

def adminRevokeDevice (command : AdminRevokeDeviceCommand) : AuthProgram :=
  runAuthenticationTransaction <|
    .selectForUpdate (fun db => db.device command.deviceId) (fun device => .device device.deviceId)
      (reject .deviceCredentialInvalid) fun device =>
        if device.deviceKind = .system ∨ device.workspaceId ≠ command.workspaceId then
          reject .deviceCredentialInvalid
        else if device.deviceName ≠ command.deviceNameConfirmation then
          reject .deviceRevocationConfirmationInvalid
        else if device.status = .revoked then
          match device.revokedAt with
          | some revokedAt => .rollback (answer (.deviceRevoked {
              deviceId := command.deviceId, revokedAt, databaseNow := command.databaseNow }))
          | none => reject .internalError
        else
          .updateRows (fun db => db.deviceTokenFamilies.filter fun f =>
              f.deviceId = command.deviceId ∧ f.state = .active)
            (fun family => .deviceTokenFamily family.tokenFamilyId) fun families =>
          .updateRows (fun db => db.activeTokensOf ((db.deviceTokenFamilies.filter fun f =>
              f.deviceId = command.deviceId).map TokenFamilyRow.tokenFamilyId))
            (fun token => .deviceToken token.deviceTokenId) fun tokens =>
          .updateRows (fun db => db.deviceAuthorizationGrants.filter fun g =>
              g.claimedDeviceId = some command.deviceId ∧
                (g.state = .pending ∨ g.state = .approved))
            (fun grant => .deviceAuthorizationGrant grant.grantId) fun grants =>
          .finish
            (fun db =>
              let revoked := db.revoke
                { families := families.map TokenFamilyRow.tokenFamilyId
                  tokens := tokens.map DeviceTokenRow.deviceTokenId
                  devices := [command.deviceId] } .adminRevoked command.databaseNow
              some ({ revoked with
                deviceAuthorizationGrants := denyGrants db.deviceAuthorizationGrants
                  (grants.map GrantRow.grantId) command.databaseNow }.insertAudit
                { action := .deviceRevoked
                  actorId := command.actorUserId
                  targetId := command.deviceId
                  occurredAt := command.databaseNow }))
            (fun _ => answer (.deviceRevoked {
              deviceId := command.deviceId
              revokedAt := command.databaseNow
              databaseNow := command.databaseNow }))
            (fun _ => answer (.rejected .internalError))

/-! ## Authentication -/

/-- The update of `devices.last_seen_at`. -/
def Db.touchDevices (db : Db) (found : List DeviceId) (databaseNow : Instant) : Db :=
  { db with
    devices := updateWhere db.devices (fun d => d.deviceId ∈ found)
      (fun d => { d with lastSeenAt := some databaseNow }) }

/-- `authenticate_access_token`: the rows are read one after another, none of them locked. -/
def authenticateAccessToken (command : AccessTokenAuthenticationCommand) : AuthProgram :=
  runAuthenticationTransaction <|
    readRow (fun db => db.tokenOfKind .access command.tokenId) .deviceCredentialInvalid
      fun token =>
    if command.secretHashesByKeyId.verify token = false then reject .deviceCredentialInvalid
    else if token.state = .revoked then reject .deviceRevoked
    else if token.state ≠ .active then reject .deviceCredentialInvalid
    else if command.databaseNow ≥ token.expiresAt then reject .deviceCredentialInvalid
    else readRow (fun db => db.family token.tokenFamilyId) .deviceCredentialInvalid fun family =>
    if family.state = .revoked then reject .deviceRevoked
    else if command.databaseNow ≥ family.absoluteExpiresAt then reject .deviceCredentialInvalid
    else readRow (fun db => db.device token.deviceId) .deviceRevoked fun device =>
    if device.status = .revoked then reject .deviceRevoked
    else readRow (fun db => (db.user token.userId).filter UserRow.isActive)
      .deviceCredentialInvalid fun _ =>
    readRow (fun db => (db.workspaces.find? fun w => w.workspaceId = token.workspaceId).filter
      WorkspaceRow.isActive) .deviceCredentialInvalid fun _ =>
    let authenticated := answer (.authenticated {
      userId := token.userId
      workspaceId := token.workspaceId
      deviceId := token.deviceId
      databaseNow := command.databaseNow })
    if device.lastSeenAt.all fun lastSeenAt =>
        lastSeenAt + deviceLastSeenMaximumUpdateInterval ≤ command.databaseNow then
      .updateRows (fun db => (db.device token.deviceId).toList) (fun d => .device d.deviceId)
        fun devices =>
      .finish (fun db => some (db.touchDevices (devices.map DeviceRow.deviceId)
          command.databaseNow))
        (fun _ => authenticated) (fun _ => answer (.rejected .internalError))
    else .rollback authenticated

end PersonalOs.Authentication
