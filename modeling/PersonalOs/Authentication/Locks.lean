import PersonalOs.Basis.LockOrder

/-!
# The row locks of the authentication transactions

Every transaction of the authentication stores takes its row locks one after another and keeps them
to its end. This module names the rows and gives, for each transaction, the list in the order its
code acquires them. An update of several rows takes them in the order its scan meets them, which
the code does not fix; a row locked again is listed once.
-/

namespace PersonalOs.Authentication

abbrev UserId := Nat
abbrev WebSessionId := Nat
abbrev TotpCredentialId := Nat
abbrev RecoveryCodeId := Nat
abbrev DeviceId := Nat
abbrev TokenFamilyId := Nat
abbrev DeviceTokenId := Nat
abbrev GrantId := Nat

/-! ## Rows -/

/-- The buckets the transactions reset; a bucket is named by its kind and hash. -/
inductive ThrottleBucketKind
  | loginUsername
  | totpVerification
deriving DecidableEq

/-- A row a transaction waits for. -/
inductive AuthRow
  | user (userId : UserId)
  | userCredential (userId : UserId)
  | totpCredential (totpCredentialId : TotpCredentialId)
  | totpRecoveryCode (recoveryCodeId : RecoveryCodeId)
  | webSession (webSessionId : WebSessionId)
  | device (deviceId : DeviceId)
  | deviceTokenFamily (tokenFamilyId : TokenFamilyId)
  | deviceToken (deviceTokenId : DeviceTokenId)
  | deviceAuthorizationGrant (grantId : GrantId)
  | throttleBucket (bucketKind : ThrottleBucketKind) (bucketHash : String)
deriving DecidableEq

/-! ## Transactions -/

/-- How far a presentation of a refresh token comes behind its token and family rows. -/
inductive RefreshBranch
  /-- A new rotation or an exact replay: no further row. -/
  | rotation
  /-- `revoke_current_refresh`: the active tokens of the family. -/
  | selfRevocation (activeTokens : List DeviceTokenId)
  /-- `_revoke_family_for_reuse`: the active tokens of the family and its device. -/
  | reuse (activeTokens : List DeviceTokenId) (device : Option DeviceId)
deriving DecidableEq

/-- An authentication transaction with the rows its statements find. -/
inductive AuthTransaction
  | commitLoginSuccess (userId : UserId) (usernameBucket : Option String)
  | changePassword (userId : UserId) (otherSessions : List WebSessionId)
      (currentSession : Option WebSessionId)
  | verifyTotp (userId : UserId) (activeCredential : TotpCredentialId)
      (verificationBucket : Option String)
  | activateEnrollment (userId : UserId) (enrollment : TotpCredentialId)
      (previous : Option TotpCredentialId) (recoverySession : Option WebSessionId)
  | recoverSession (userId : UserId) (activeCredential : TotpCredentialId)
      (recoveryCode : Option RecoveryCodeId) (session : Option WebSessionId)
  | disableTotp (userId : UserId) (activeCredential : Option TotpCredentialId)
      (pendingCredential : Option TotpCredentialId) (unusedCodes : List RecoveryCodeId)
      (otherSessions : List WebSessionId) (currentSession : Option WebSessionId)
  | decideGrant (grantId : GrantId)
  | pollExchange (grantId : GrantId)
  | refreshRotation (token : DeviceTokenId) (family : Option (TokenFamilyId × RefreshBranch))
  | revokeCurrentRefresh (token : DeviceTokenId)
      (family : Option (TokenFamilyId × RefreshBranch))
  | adminRevokeDevice (deviceId : DeviceId) (activeFamilies : List TokenFamilyId)
      (activeTokens : List DeviceTokenId) (claimingGrants : List GrantId)
  | resetWebAuthentication (userId : UserId) (liveCredentials : List TotpCredentialId)
      (unusedCodes : List RecoveryCodeId) (liveSessions : List WebSessionId)
      (activeDevices : List DeviceId) (activeFamilies : List TokenFamilyId)
      (activeTokens : List DeviceTokenId) (openGrants : List GrantId)
deriving DecidableEq

/-- The rows behind a presented token. -/
def RefreshBranch.rows : RefreshBranch → List AuthRow
  | .rotation => []
  | .selfRevocation activeTokens => activeTokens.map .deviceToken
  | .reuse activeTokens device => activeTokens.map .deviceToken ++ device.toList.map .device

def presentationRows (token : DeviceTokenId) (family : Option (TokenFamilyId × RefreshBranch)) :
    List AuthRow :=
  .deviceToken token ::
    match family with
    | none => []
    | some (familyId, branch) => .deviceTokenFamily familyId :: branch.rows

/-- The rows of one transaction, in the order the code locks them. -/
def authRows : AuthTransaction → List AuthRow
  | .commitLoginSuccess userId usernameBucket =>
    .userCredential userId :: usernameBucket.toList.map (.throttleBucket .loginUsername)
  | .changePassword userId otherSessions currentSession =>
    .userCredential userId :: (otherSessions ++ currentSession.toList).map .webSession
  | .verifyTotp _ activeCredential verificationBucket =>
    .totpCredential activeCredential ::
      verificationBucket.toList.map (.throttleBucket .totpVerification)
  | .activateEnrollment _ enrollment previous recoverySession =>
    .totpCredential enrollment :: previous.toList.map .totpCredential ++
      recoverySession.toList.map .webSession
  | .recoverSession _ activeCredential recoveryCode session =>
    .totpCredential activeCredential :: recoveryCode.toList.map .totpRecoveryCode ++
      session.toList.map .webSession
  | .disableTotp userId activeCredential pendingCredential unusedCodes otherSessions
      currentSession =>
    .userCredential userId ::
      (activeCredential.toList ++ pendingCredential.toList).map .totpCredential ++
      unusedCodes.map .totpRecoveryCode ++
      (otherSessions ++ currentSession.toList).map .webSession
  | .decideGrant grantId => [.deviceAuthorizationGrant grantId]
  | .pollExchange grantId => [.deviceAuthorizationGrant grantId]
  | .refreshRotation token family => presentationRows token family
  | .revokeCurrentRefresh token family => presentationRows token family
  | .adminRevokeDevice deviceId activeFamilies activeTokens claimingGrants =>
    .device deviceId :: activeFamilies.map .deviceTokenFamily ++ activeTokens.map .deviceToken ++
      claimingGrants.map .deviceAuthorizationGrant
  | .resetWebAuthentication userId liveCredentials unusedCodes liveSessions activeDevices
      activeFamilies activeTokens openGrants =>
    [.user userId, .userCredential userId] ++ liveCredentials.map .totpCredential ++
      unusedCodes.map .totpRecoveryCode ++ liveSessions.map .webSession ++
      activeDevices.map .device ++ activeFamilies.map .deviceTokenFamily ++
      activeTokens.map .deviceToken ++ openGrants.map .deviceAuthorizationGrant

/-! ## Owners -/

/-- The user columns of the rows, which no statement changes. -/
structure RowOwners where
  totpUser : TotpCredentialId → UserId
  codeUser : RecoveryCodeId → UserId
  sessionUser : WebSessionId → UserId
  deviceUser : DeviceId → UserId

/-- A statement that names a user finds rows of that user. -/
def AuthTransaction.Finds (owners : RowOwners) : AuthTransaction → Prop
  | .changePassword userId otherSessions currentSession =>
    ∀ s ∈ otherSessions ++ currentSession.toList, owners.sessionUser s = userId
  | .verifyTotp userId activeCredential _ => owners.totpUser activeCredential = userId
  | .activateEnrollment userId enrollment previous _ =>
    ∀ c ∈ enrollment :: previous.toList, owners.totpUser c = userId
  | .recoverSession userId activeCredential _ _ => owners.totpUser activeCredential = userId
  | .disableTotp userId activeCredential pendingCredential unusedCodes otherSessions
      currentSession =>
    (∀ c ∈ activeCredential.toList ++ pendingCredential.toList, owners.totpUser c = userId) ∧
    (∀ c ∈ unusedCodes, owners.codeUser c = userId) ∧
    ∀ s ∈ otherSessions ++ currentSession.toList, owners.sessionUser s = userId
  | .resetWebAuthentication userId liveCredentials unusedCodes liveSessions activeDevices _ _ _ =>
    (∀ c ∈ liveCredentials, owners.totpUser c = userId) ∧
    (∀ c ∈ unusedCodes, owners.codeUser c = userId) ∧
    (∀ s ∈ liveSessions, owners.sessionUser s = userId) ∧
    ∀ d ∈ activeDevices, owners.deviceUser d = userId
  | _ => True

end PersonalOs.Authentication
