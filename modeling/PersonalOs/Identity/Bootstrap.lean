import PersonalOs.SourceStore.DatabaseRetry

/-!
# Identity bootstrap

The bootstrap transaction statement by statement, beside the transactions that register and revoke
devices later. The advisory lock is taken under a key derived from the names in the command; users,
workspaces and devices are then read one table at a time, each read seeing what is committed at its
own moment.

Identifiers are drawn from one sequence. The transaction timestamps are part of a call's context.
-/

namespace PersonalOs.Identity

open Transactions
open SourceStore (DatabaseFailureKind LockWord encodeUtf8)

abbrev UserId := Nat
abbrev WorkspaceId := Nat
abbrev DeviceId := Nat

/-! ## Commands and results -/

inductive BootstrapDeviceKind
  | obsidian
  | web
  | system
deriving DecidableEq

inductive BootstrapIdentityOutcome
  | created
  | existing
deriving DecidableEq

structure BootstrapIdentityCommand where
  username : String
  userDisplayName : String
  workspaceKey : String
  workspaceDisplayName : String
  deviceName : String
  deviceKind : BootstrapDeviceKind
deriving DecidableEq

structure BootstrapIdentityResult where
  userId : UserId
  workspaceId : WorkspaceId
  deviceId : DeviceId
  outcome : BootstrapIdentityOutcome
  committedAt : Nat
deriving DecidableEq

/-- `IdentityBootstrapError` as the store raises it. -/
inductive IdentityBootstrapError
  | stateConflict
deriving DecidableEq

/-! ## Rows -/

inductive UserStatus
  | active
  | disabled
deriving DecidableEq

inductive WorkspaceStatus
  | active
  | archived
deriving DecidableEq

inductive DeviceStatus
  | active
  | revoked
deriving DecidableEq

structure UserRow where
  userId : UserId
  username : String
  displayName : String
  status : UserStatus
  createdAt : Nat
  updatedAt : Nat
deriving DecidableEq

structure WorkspaceRow where
  workspaceId : WorkspaceId
  ownerUserId : UserId
  workspaceKey : String
  displayName : String
  status : WorkspaceStatus
  createdAt : Nat
  updatedAt : Nat
deriving DecidableEq

structure DeviceRow where
  deviceId : DeviceId
  workspaceId : WorkspaceId
  userId : UserId
  deviceName : String
  deviceKind : BootstrapDeviceKind
  status : DeviceStatus
  registeredAt : Nat
  lastSeenAt : Option Nat
  revokedAt : Option Nat
deriving DecidableEq

inductive IdentityAuditAction
  | bootstrapCompleted
  | bootstrapRejected
deriving DecidableEq

/-- An audit row of the two bootstrap actions; the actor is the system, the target the workspace,
and the action decides the result and the reason. -/
structure AuditEventRow where
  auditEventId : Nat
  workspaceId : WorkspaceId
  action : IdentityAuditAction
  requestId : Nat
  clientRequestId : Option Nat
  traceId : String
  occurredAt : Nat
deriving DecidableEq

structure WorkspacePolicyStateRow where
  workspaceId : WorkspaceId
  activePolicyRevisionId : Option Nat
  activeRevisionNumber : Nat
  createdAt : Nat
  updatedAt : Nat
deriving DecidableEq

structure PolicyDraftRow where
  policyDraftId : Nat
  workspaceId : WorkspaceId
  draftVersion : Nat
  basePolicyRevisionId : Option Nat
  createdByUserId : Option UserId
  updatedByUserId : Option UserId
  createdAt : Nat
  updatedAt : Nat
deriving DecidableEq

/-- What a committed bootstrap created: its command and the result it answered or would have. -/
structure Creation where
  command : BootstrapIdentityCommand
  result : BootstrapIdentityResult
deriving DecidableEq

/-- The tables of the identity; `creations` is no table but the history of the committed
bootstraps, oldest first, and no statement reads it. -/
structure Db where
  users : List UserRow
  workspaces : List WorkspaceRow
  devices : List DeviceRow
  auditEvents : List AuditEventRow
  workspacePolicyState : List WorkspacePolicyStateRow
  policyDrafts : List PolicyDraftRow
  creations : List Creation
deriving DecidableEq

def Db.empty : Db := ⟨[], [], [], [], [], [], []⟩

/-! ## Classification -/

structure ExistingIdentityUser where
  userId : UserId
  username : String
  displayName : String
  status : UserStatus

structure ExistingIdentityWorkspace where
  workspaceId : WorkspaceId
  ownerUserId : UserId
  workspaceKey : String
  displayName : String
  status : WorkspaceStatus
  createdAt : Nat

structure ExistingIdentityDevice where
  deviceId : DeviceId
  workspaceId : WorkspaceId
  userId : UserId
  deviceName : String
  deviceKind : BootstrapDeviceKind
  status : DeviceStatus
  revokedAt : Option Nat

structure ExistingIdentityState where
  users : List ExistingIdentityUser
  workspaces : List ExistingIdentityWorkspace
  devices : List ExistingIdentityDevice

def UserRow.view (row : UserRow) : ExistingIdentityUser :=
  ⟨row.userId, row.username, row.displayName, row.status⟩

def WorkspaceRow.view (row : WorkspaceRow) : ExistingIdentityWorkspace :=
  ⟨row.workspaceId, row.ownerUserId, row.workspaceKey, row.displayName, row.status, row.createdAt⟩

def DeviceRow.view (row : DeviceRow) : ExistingIdentityDevice :=
  ⟨row.deviceId, row.workspaceId, row.userId, row.deviceName, row.deviceKind, row.status,
    row.revokedAt⟩

def hydrateIdentityState (users : List UserRow) (workspaces : List WorkspaceRow)
    (devices : List DeviceRow) : ExistingIdentityState :=
  let devicesForState := match workspaces with
    | [workspace] => devices.filter fun row : DeviceRow => row.workspaceId = workspace.workspaceId
    | _ => devices
  { users := users.map UserRow.view
    workspaces := workspaces.map WorkspaceRow.view
    devices := devicesForState.map DeviceRow.view }

/-- `_is_empty_state`. -/
def ExistingIdentityState.isEmpty (state : ExistingIdentityState) : Bool :=
  state.users.isEmpty && state.workspaces.isEmpty && state.devices.isEmpty

def resolveTrustedWorkspaceId (state : ExistingIdentityState)
    (command : BootstrapIdentityCommand) : Option WorkspaceId :=
  match state.workspaces.filter fun workspace =>
      workspace.status = .active && workspace.workspaceKey = command.workspaceKey with
  | [workspace] => some workspace.workspaceId
  | _ => none

def classifyExistingIdentity (state : ExistingIdentityState) (command : BootstrapIdentityCommand) :
    Except IdentityBootstrapError BootstrapIdentityResult :=
  match state.users, state.workspaces with
  | [user], [workspace] =>
    if user.username ≠ command.username ∨ user.displayName ≠ command.userDisplayName ∨
        user.status ≠ .active ∨ workspace.workspaceKey ≠ command.workspaceKey ∨
        workspace.displayName ≠ command.workspaceDisplayName ∨ workspace.status ≠ .active ∨
        workspace.ownerUserId ≠ user.userId then
      .error .stateConflict
    else
      match state.devices.filter fun device =>
          device.workspaceId = workspace.workspaceId && device.deviceName = command.deviceName &&
            device.deviceKind = command.deviceKind with
      | [device] =>
        if device.status ≠ .active ∨ device.revokedAt ≠ none ∨ device.userId ≠ user.userId then
          .error .stateConflict
        else
          .ok {
            userId := user.userId
            workspaceId := workspace.workspaceId
            deviceId := device.deviceId
            outcome := .existing
            committedAt := workspace.createdAt }
      | _ => .error .stateConflict
  | _, _ => .error .stateConflict

/-! ## Writes -/

/-- The context of a call: its diagnostics, and what `SELECT now()` answers in its transaction and
in that of a rejection. -/
structure BootstrapContext where
  requestId : Nat
  clientRequestId : Option Nat
  traceId : String
  transactionNow : Nat
  rejectionNow : Nat
deriving DecidableEq

/-- The identifiers a creation allocates. -/
structure FreshIds where
  userId : UserId
  workspaceId : WorkspaceId
  deviceId : DeviceId
  auditEventId : Nat
  policyDraftId : Nat
deriving DecidableEq

def FreshIds.result (ids : FreshIds) (context : BootstrapContext) : BootstrapIdentityResult where
  userId := ids.userId
  workspaceId := ids.workspaceId
  deviceId := ids.deviceId
  outcome := .created
  committedAt := context.transactionNow

namespace Creation

variable (creation : Creation)

def userRow : UserRow where
  userId := creation.result.userId
  username := creation.command.username
  displayName := creation.command.userDisplayName
  status := .active
  createdAt := creation.result.committedAt
  updatedAt := creation.result.committedAt

def workspaceRow : WorkspaceRow where
  workspaceId := creation.result.workspaceId
  ownerUserId := creation.result.userId
  workspaceKey := creation.command.workspaceKey
  displayName := creation.command.workspaceDisplayName
  status := .active
  createdAt := creation.result.committedAt
  updatedAt := creation.result.committedAt

def deviceRow : DeviceRow where
  deviceId := creation.result.deviceId
  workspaceId := creation.result.workspaceId
  userId := creation.result.userId
  deviceName := creation.command.deviceName
  deviceKind := creation.command.deviceKind
  status := .active
  registeredAt := creation.result.committedAt
  lastSeenAt := none
  revokedAt := none

end Creation

/-- `build_identity_audit_values` and `build_identity_rejection_audit_values`. -/
def buildIdentityAuditValues (action : IdentityAuditAction) (auditEventId : Nat)
    (workspaceId : WorkspaceId) (context : BootstrapContext) (occurredAt : Nat) : AuditEventRow where
  auditEventId := auditEventId
  workspaceId := workspaceId
  action := action
  requestId := context.requestId
  clientRequestId := context.clientRequestId
  traceId := context.traceId
  occurredAt := occurredAt

def buildWorkspacePolicyStateValues (workspaceId : WorkspaceId) (occurredAt : Nat) :
    WorkspacePolicyStateRow where
  workspaceId := workspaceId
  activePolicyRevisionId := none
  activeRevisionNumber := 0
  createdAt := occurredAt
  updatedAt := occurredAt

def buildPolicyDraftValues (workspaceId : WorkspaceId) (policyDraftId occurredAt : Nat) :
    PolicyDraftRow where
  policyDraftId := policyDraftId
  workspaceId := workspaceId
  draftVersion := 1
  basePolicyRevisionId := none
  createdByUserId := none
  updatedByUserId := none
  createdAt := occurredAt
  updatedAt := occurredAt

/-- The unique constraints of users and of workspaces a new identity would violate. -/
def Db.violates (db : Db) (creation : Creation) : Bool :=
  (db.users.any fun row => row.userId = creation.result.userId ||
    row.username = creation.command.username) ||
  (db.workspaces.any fun row => row.workspaceId = creation.result.workspaceId ||
    row.ownerUserId = creation.result.userId ||
    row.workspaceKey = creation.command.workspaceKey) ||
  db.devices.any fun row => row.deviceId = creation.result.deviceId

/-- The inserts of `_create_identity`. -/
def insertIdentity (command : BootstrapIdentityCommand) (context : BootstrapContext)
    (ids : FreshIds) (db : Db) : Option Db :=
  let creation : Creation := ⟨command, ids.result context⟩
  if db.violates creation then none
  else some {
    users := db.users ++ [creation.userRow]
    workspaces := db.workspaces ++ [creation.workspaceRow]
    devices := db.devices ++ [creation.deviceRow]
    auditEvents := db.auditEvents ++ [buildIdentityAuditValues .bootstrapCompleted
      ids.auditEventId ids.workspaceId context context.transactionNow]
    workspacePolicyState := db.workspacePolicyState ++
      [buildWorkspacePolicyStateValues ids.workspaceId context.transactionNow]
    policyDrafts := db.policyDrafts ++
      [buildPolicyDraftValues ids.workspaceId ids.policyDraftId context.transactionNow]
    creations := db.creations ++ [creation] }

/-- The insert of `_write_rejection_audit`. -/
def insertRejectionAudit (workspaceId : WorkspaceId) (context : BootstrapContext)
    (auditEventId : Nat) (db : Db) : Db :=
  { db with auditEvents := db.auditEvents ++ [buildIdentityAuditValues .bootstrapRejected
      auditEventId workspaceId context context.rejectionNow] }

/-- The device insert of `_commit_first_exchange`. -/
def insertDevice (row : DeviceRow) (db : Db) : Option Db :=
  if db.devices.any fun device => device.deviceId = row.deviceId then none
  else some { db with devices := db.devices ++ [row] }

/-- Which active devices a revocation updates: one device, or, at an emergency reset, all of a
user. -/
inductive RevocationTarget
  | device (deviceId : DeviceId)
  | user (userId : UserId)
deriving DecidableEq

def RevocationTarget.meets (target : RevocationTarget) (row : DeviceRow) : Bool :=
  match target with
  | .device deviceId => row.deviceId = deviceId
  | .user userId => row.userId = userId

def DeviceRow.revoke (target : RevocationTarget) (databaseNow : Nat) (row : DeviceRow) :
    DeviceRow :=
  if target.meets row && row.status = .active then
    { row with status := .revoked, revokedAt := some databaseNow }
  else row

def revokeDevices (target : RevocationTarget) (databaseNow : Nat) (db : Db) : Db :=
  { db with devices := db.devices.map (DeviceRow.revoke target databaseNow) }

/-! ## Programs -/

structure ApprovedGrant where
  approvedByUserId : UserId
  deviceName : String
  databaseNow : Nat
deriving DecidableEq

inductive Call
  | bootstrap (command : BootstrapIdentityCommand) (context : BootstrapContext)
  | exchange (grant : ApprovedGrant)
  | revoke (target : RevocationTarget) (databaseNow : Nat)

/-- `existing` also carries the device rows the answer was found in, which the caller does not
see. -/
inductive Answer
  | created (result : BootstrapIdentityResult)
  | existing (result : BootstrapIdentityResult) (deviceRows : List DeviceRow)
  | stateConflict
  | databaseFailure (kind : DatabaseFailureKind)
  | exchanged (deviceId : DeviceId)
  | exchangeInvalid
  | revoked

/-- What a session has read: all three tables empty. -/
inductive ReadNote
  | sawEmpty
deriving DecidableEq

abbrev BootstrapProgram := Program Db (Int × Int) ReadNote Answer

def identityBootstrapLockNamespace : Int := 0x53564342

/-- `bootstrap_lock_key`, for `signed_first_sha256_word`. -/
def bootstrapLockKey (word : LockWord) (command : BootstrapIdentityCommand) : Int :=
  word (encodeUtf8 (command.username ++ ":" ++ command.workspaceKey))

/-- `bootstrap_lock_statement`. -/
def bootstrapLock (word : LockWord) (command : BootstrapIdentityCommand) : Int × Int :=
  (identityBootstrapLockNamespace, bootstrapLockKey word command)

/-- `classify_database_failure` of what a failing transaction raises. -/
def failureKind : Failure → DatabaseFailureKind
  | .contention => .contention
  | .unavailable => .unavailable
  | .unclassified => .unclassifiedDatabase

def databaseFailed (failure : Failure) : BootstrapProgram :=
  .done (.databaseFailure (failureKind failure))

def writeRejectionAudit (workspaceId : WorkspaceId) (context : BootstrapContext) :
    BootstrapProgram :=
  .begin false databaseFailed <|
  .draw fun auditEventId =>
  .finish (fun db => some (insertRejectionAudit workspaceId context auditEventId db))
    (fun _ => .done .stateConflict) (fun _ => .halt)

/-- `_record_conflict_rejection`, after which the conflict is raised. -/
def recordConflictRejection (state : ExistingIdentityState) (command : BootstrapIdentityCommand)
    (context : BootstrapContext) : BootstrapProgram :=
  match resolveTrustedWorkspaceId state command with
  | none => .done .stateConflict
  | some workspaceId => writeRejectionAudit workspaceId context

def createIdentity (command : BootstrapIdentityCommand) (context : BootstrapContext) :
    BootstrapProgram :=
  .draw fun userId => .draw fun workspaceId => .draw fun deviceId =>
  .draw fun auditEventId => .draw fun policyDraftId =>
  let ids : FreshIds := ⟨userId, workspaceId, deviceId, auditEventId, policyDraftId⟩
  .finish (insertIdentity command context ids) (fun _ => .done (.created (ids.result context)))
    (fun _ => .done (.databaseFailure .integrity))

/-- The decision of `_bootstrap_once` on the rows it has read. -/
def decideBootstrap (command : BootstrapIdentityCommand) (context : BootstrapContext)
    (users : List UserRow) (workspaces : List WorkspaceRow) (devices : List DeviceRow) :
    BootstrapProgram :=
  let state := hydrateIdentityState users workspaces devices
  if state.isEmpty then createIdentity command context
  else
    match classifyExistingIdentity state command with
    -- a replay writes nothing; its transaction commits all the same
    | .ok result => .finish some (fun _ => .done (.existing result devices)) (fun _ => .halt)
    | .error .stateConflict => .rollback (recordConflictRejection state command context)

/-- `bootstrap`. -/
def bootstrapProgram (word : LockWord) (command : BootstrapIdentityCommand)
    (context : BootstrapContext) : BootstrapProgram :=
  .begin false databaseFailed <|
  .lock (bootstrapLock word command) <|
  .read fun atUsers =>
  .read fun atWorkspaces =>
  .note (fun db =>
      if (hydrateIdentityState atUsers.users atWorkspaces.workspaces db.devices).isEmpty then
        [.sawEmpty]
      else []) fun db =>
    decideBootstrap command context atUsers.users atWorkspaces.workspaces db.devices

/-- `_commit_first_exchange` as far as it reads and writes these tables. -/
def exchangeProgram (grant : ApprovedGrant) : BootstrapProgram :=
  .begin false databaseFailed <|
  .read fun db =>
  match db.users.find? fun row => row.userId = grant.approvedByUserId with
  | none => .rollback (.done .exchangeInvalid)
  | some user =>
    if user.status ≠ .active then .rollback (.done .exchangeInvalid)
    else
      .read fun db =>
      match db.workspaces.filter fun row =>
          row.ownerUserId = grant.approvedByUserId && row.status = .active with
      | [workspace] =>
        .draw fun deviceId =>
        .finish (insertDevice {
            deviceId := deviceId
            workspaceId := workspace.workspaceId
            userId := grant.approvedByUserId
            deviceName := grant.deviceName
            deviceKind := .obsidian
            status := .active
            registeredAt := grant.databaseNow
            lastSeenAt := none
            revokedAt := none })
          (fun _ => .done (.exchanged deviceId)) (fun _ => .done (.databaseFailure .integrity))
      | _ => .rollback (.done .exchangeInvalid)

/-- The device updates of `revoke_device`, of a refresh-token reuse and of an emergency reset. -/
def revokeProgram (target : RevocationTarget) (databaseNow : Nat) : BootstrapProgram :=
  .begin false databaseFailed <|
  .finish (fun db => some (revokeDevices target databaseNow db)) (fun _ => .done .revoked)
    (fun _ => .halt)

def program (word : LockWord) : Call → BootstrapProgram
  | .bootstrap command context => bootstrapProgram word command context
  | .exchange grant => exchangeProgram grant
  | .revoke target databaseNow => revokeProgram target databaseNow

abbrev BootstrapWorld := World Db (Int × Int) ReadNote Answer Call

/-- All interleavings of bootstraps, registrations and revocations on a database that starts
empty. -/
def bootstrapMachine (word : LockWord) : Machine BootstrapWorld (Action Call) :=
  machine (program word) fun snapshot => snapshot.db = .empty

end PersonalOs.Identity
