import PersonalOs.Authentication.Tables
import PersonalOs.Basis.RowUpdates

/-!
# Answers and the transaction runner

What the authentication stores return, and `run_authentication_transaction`, which runs a
transaction up to three times.
-/

namespace PersonalOs.Authentication

open Transactions

inductive AuthErrorCode
  | deviceCredentialInvalid
  | deviceTokenReuseDetected
  | deviceRevoked
  | deviceRevocationConfirmationInvalid
  | deviceAuthorizationPending
  | deviceAuthorizationDenied
  | deviceAuthorizationExpired
  | deviceAuthorizationStateInvalid
  | authenticationFailed
  | authenticationRequired
  | totpEnrollmentStateInvalid
  | internalError
deriving DecidableEq

structure CommittedRefreshRotation where
  tokenFamilyId : TokenFamilyId
  successorRefreshTokenId : DeviceTokenId
  successorAccessTokenId : DeviceTokenId
  successorGeneration : Nat
  derivationKeyId : KeyId
  rotatedAt : Instant
  accessExpiresAt : Instant
  refreshExpiresAt : Instant
  familyInactivityExpiresAt : Instant
  familyAbsoluteExpiresAt : Instant
  databaseNow : Instant
deriving DecidableEq

structure RevokedCurrentTokenFamily where
  tokenFamilyId : TokenFamilyId
  deviceId : DeviceId
  revokedAt : Instant
  databaseNow : Instant
deriving DecidableEq

structure AdminRevokedDevice where
  deviceId : DeviceId
  revokedAt : Instant
  databaseNow : Instant
deriving DecidableEq

structure AuthenticatedAccessToken where
  userId : UserId
  workspaceId : WorkspaceId
  deviceId : DeviceId
  databaseNow : Instant
deriving DecidableEq

structure ExchangeProvisioning where
  grantId : GrantId
  deviceId : DeviceId
  tokenFamilyId : TokenFamilyId
  accessTokenId : DeviceTokenId
  refreshTokenId : DeviceTokenId
  derivationKeyId : KeyId
  refreshGeneration : Nat
  accessIssuedAt : Instant
  accessExpiresAt : Instant
  refreshExpiresAt : Instant
  databaseNow : Instant
deriving DecidableEq

/-- `ApprovedGrant` and `DeniedGrant`. -/
structure DecidedGrant where
  grantId : GrantId
  state : DeviceAuthorizationGrantState
  decidedAt : Instant
  databaseNow : Instant
deriving DecidableEq

structure InsertedPendingGrant where
  grantId : GrantId
  expiresAt : Instant
  databaseNow : Instant
deriving DecidableEq

inductive AuthAnswer
  | rejected (code : AuthErrorCode)
  | rotated (rotation : CommittedRefreshRotation)
  | familyRevoked (family : RevokedCurrentTokenFamily)
  | deviceRevoked (device : AdminRevokedDevice)
  | authenticated (token : AuthenticatedAccessToken)
  | exchanged (provisioning : ExchangeProvisioning)
  | decided (grant : DecidedGrant)
  | inserted (grant : InsertedPendingGrant)
deriving DecidableEq

/-- The tables an emergency reset sweeps before its grants. -/
inductive SweptTable
  | totpCredentials
  | totpRecoveryCodes
  | webSessions
  | devices
  | deviceTokenFamilies
  | deviceTokens
deriving DecidableEq

/-- The note of a reset: it has swept a table of its user. -/
structure Sweep where
  userId : UserId
  table : SweptTable
deriving DecidableEq

abbrev AuthProgram := Program Db AuthRow Sweep AuthAnswer
abbrev AuthOwn := Own AuthRow Sweep

def answer (result : AuthAnswer) : AuthProgram := .done result

def reject (code : AuthErrorCode) : AuthProgram := .rollback (answer (.rejected code))

def commit {α : Type} (writes : Db → Except AuthErrorCode (Db × α)) (result : α → AuthAnswer) :
    AuthProgram :=
  .commitOrAbort writes (fun value => answer (result value)) fun code => answer (.rejected code)

def maximumTransactionAttempts : Nat := 3

/-- `run_authentication_transaction`: contention is retried, any other failure is internal. -/
def runAttempts (operation : AuthProgram) : Nat → AuthProgram
  | 0 => answer (.rejected .internalError)
  | attempts + 1 => .begin false
      (fun failure =>
        match failure with
        | .contention => runAttempts operation attempts
        | .unavailable | .unclassified => answer (.rejected .internalError))
      operation

def runAuthenticationTransaction (operation : AuthProgram) : AuthProgram :=
  runAttempts operation maximumTransactionAttempts

def readRow {α : Type} (find : Db → Option α) (code : AuthErrorCode) (next : α → AuthProgram) :
    AuthProgram :=
  .read fun db =>
    match find db with
    | none => reject code
    | some row => next row

/-! ## The rules of the statements -/

section Rules

variable {Call : Type} {R : Rules Db AuthRow Sweep AuthAnswer Call} {call : Call}
  {born s : Snapshot Db} {o : AuthOwn}

theorem safe_rollback {r : AuthAnswer}
    (hg : ∀ s', Rely R .none s s' → R.Inv s' → R.Good call born s' r) :
    Safe R call born (.rollback (answer r)) o s :=
  .rollback fun _ ho _ s' ho' inv => hg s' (ho.toNone.trans ho'.toNone) inv

theorem safe_readRow {α : Type} {f : Db → Option α} {c : AuthErrorCode}
    {n : α → AuthProgram}
    (hm : ∀ s', Rely R o s s' → R.Inv s' → f s'.db = none → Safe R call born (reject c) o s')
    (hfo : ∀ s' row, Rely R o s s' → R.Inv s' → f s'.db = some row →
      Safe R call born (n row) o s') : Safe R call born (readRow f c n) o s := by
  intro s' ho inv
  cases hf : f s'.db with
  | none => simpa only [hf] using hm s' ho inv hf
  | some row => simpa only [hf] using hfo s' row ho inv hf

theorem safe_runAuthenticationTransaction {op : AuthProgram}
    (hf : ∀ s, Rely R .none born s → R.Inv s → R.Good call born s (.rejected .internalError))
    (hs : ∀ s, Rely R .none born s → R.Inv s → Safe R call born op .none s)
    (inv : R.Inv born) : Safe R call born (runAuthenticationTransaction op) .none born := by
  suffices all : ∀ a, SafeAfter R call born (runAttempts op a) from
    all maximumTransactionAttempts born .refl inv
  intro a
  induction a with
  | zero => exact fun s hl _ s' ho hi' => hf s' (hl.trans ho) hi'
  | succ a ih =>
    intro s hl _
    refine Safe.begin hl (fun f => ?_) fun s' ho hi' =>
      hs s' (hl.trans ho) hi'
    cases f with
    | contention => exact ih
    | unavailable => exact fun s hl _ s' ho hi' => hf s' (hl.trans ho) hi'
    | unclassified => exact fun s hl _ s' ho hi' => hf s' (hl.trans ho) hi'

end Rules

end PersonalOs.Authentication
