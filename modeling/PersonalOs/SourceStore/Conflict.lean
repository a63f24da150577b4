import PersonalOs.SourceStore.Publication

/-!
# The conflict store

`PostgresqlSourceConflictStore`: capture of a conflict's evidence and the explicit
resolution, which records a stale attempt, keeps the remote or publishes the winner.
-/

namespace PersonalOs.SourceStore

open Transactions

/-! ## Lookups -/

/-- `capture_replay_by_key_statement`. -/
def Db.conflictByCaptureKey (db : Db) (workspaceId : WorkspaceId) (key : IdempotencyKey) :
    Option SourceConflict :=
  db.conflicts.find? fun c => c.workspaceId = workspaceId ∧ c.captureIdempotencyKey = key

/-- `captured_conflict_by_event_statement`. -/
def Db.conflictByOriginatingEvent (db : Db) (workspaceId : WorkspaceId) (eventId : EventId) :
    Option SourceConflict :=
  db.conflicts.find? fun c => c.workspaceId = workspaceId ∧ c.originatingEventId = eventId

/-- `_resolution_replay_by_event_statement`. -/
def Db.conflictByResolutionEvent (db : Db) (workspaceId : WorkspaceId) (eventId : EventId) :
    Option SourceConflict :=
  db.conflicts.find? fun c =>
    c.workspaceId = workspaceId ∧ c.resolution.any fun r => r.resolutionEventId = eventId

/-- `_resolution_key_reuse_statement`. -/
def Db.conflictByResolutionKey (db : Db) (workspaceId : WorkspaceId) (key : IdempotencyKey) :
    Option SourceConflict :=
  db.conflicts.find? fun c =>
    c.workspaceId = workspaceId ∧ c.resolution.any fun r => r.resolutionIdempotencyKey = key

/-- `_sync_event_key_held_by_another_event`. -/
def Db.keyHeldByAnotherEvent (db : Db) (workspaceId : WorkspaceId) (key : IdempotencyKey)
    (eventId : EventId) : Bool :=
  (db.eventByKey workspaceId key).any fun e => e.eventId ≠ eventId

def captureEvidenceMatches (row : SourceConflict) (command : CaptureConflictCommand) : Bool :=
  row.workspaceId = command.workspaceId ∧ row.sourceId = command.sourceId ∧
    row.conflictKind = command.conflictKind ∧
    row.originatingDeviceId = command.originatingDeviceId ∧
    row.baseVersionId = command.baseVersionId ∧
    row.observedRemoteVersionId = command.observedRemoteVersionId ∧
    row.candidate = command.candidate ∧ row.normalizedLocator = command.normalizedLocator

/-- `_validate_capture_references`: every foreign-key target exists. -/
def validateCaptureReferences (env : Environment) (command : CaptureConflictCommand) (db : Db) :
    Bool :=
  let versionExists (sourceId : SourceId) (version : Option SourceVersionId) : Bool :=
    version.all fun v => (db.version command.workspaceId sourceId v).isSome
  env.workspaceActive command.workspaceId &&
  env.deviceActive command.workspaceId command.originatingDeviceId &&
  (match command.candidate with
    | .content object => (db.object object).isSome
    | .delete => true) &&
  (match command.sourceId with
    | none => true
    | some sourceId =>
      (db.sourceInWorkspace command.workspaceId sourceId).isSome &&
        versionExists sourceId command.baseVersionId &&
        versionExists sourceId command.observedRemoteVersionId)

/-! ## Retry -/

/-- `SourceConflictDatabaseRetryPolicy.run`: every failure but a broken constraint is tried
again, for the next attempt's replay lookup finds what was committed. -/
def conflictRetry (attempt : (Failure → StoreProgram) → StoreProgram)
    (raise : SourceConflictError → StoreProgram) : Nat → StoreProgram
  | 0 => .halt
  | remaining + 1 => attempt fun failure =>
    if remaining = 0 then
      match failure with
      | .contention => raise .dependencyUnavailable
      | .unavailable | .unclassified => raise .commitOutcomeUnknown
    else conflictRetry attempt raise remaining

/-- The end of a conflict transaction. -/
def commitConflict {α : Type} (writes : Db → Except (Refusal SourceConflictError) (Db × α))
    (answer : Except SourceConflictError α → StoreProgram) : StoreProgram :=
  .commitOrAbort writes (fun result => answer (.ok result))
    (fun refusal =>
      match refusal with
      | .constraint => answer (.error .internalError)
      | .rejected error => answer (.error error))

/-! ## Capture -/

/-- One service invocation with the conflict identity allocated for it. -/
structure CaptureRequest where
  command : CaptureConflictCommand
  conflictId : ConflictId
deriving DecidableEq

def answerCapture (result : Except SourceConflictError SourceConflict) : StoreProgram :=
  .done (.capture result)

/-- `_insert_conflict_event`. -/
def captureEvent (env : Environment) (command : CaptureConflictCommand) (sourceId : SourceId)
    (eventSequence : Nat) : SyncEvent where
  eventId := command.originatingEventId
  workspaceId := command.workspaceId
  eventSequence := eventSequence
  sourceId := sourceId
  deviceId := some command.originatingDeviceId
  committedVersionId := none
  baseVersionId := command.baseVersionId
  idempotencyKey := command.idempotencyKey
  requestFingerprint := env.captureDigest command
  eventType := .conflictCapture

/-- `_insert_conflict_row`. -/
def capturedConflict (command : CaptureConflictCommand) (conflictId : ConflictId) :
    SourceConflict where
  conflictId := conflictId
  workspaceId := command.workspaceId
  sourceId := command.sourceId
  conflictKind := command.conflictKind
  status := .open
  originatingEventId := command.originatingEventId
  originatingDeviceId := command.originatingDeviceId
  captureIdempotencyKey := command.idempotencyKey
  baseVersionId := command.baseVersionId
  observedRemoteVersionId := command.observedRemoteVersionId
  candidate := command.candidate
  normalizedLocator := command.normalizedLocator
  resolution := none

def insertConflictEvent (event : Option SyncEvent) (db : Db) :
    Except (Refusal SourceConflictError) Db :=
  match event with
  | none => .ok db
  | some event => db.insertEvent event

def captureWrites (request : CaptureRequest) (event : Option SyncEvent) (db : Db) :
    Except (Refusal SourceConflictError) (Db × SourceConflict) := do
  let db ← insertConflictEvent event db
  let row := capturedConflict request.command request.conflictId
  let db ← db.insertConflict row
  return (db, row)

def captureOnce (env : Environment) (request : CaptureRequest)
    (onFailure : Failure → StoreProgram) : StoreProgram :=
  let command := request.command
  let raise (error : SourceConflictError) : StoreProgram :=
    .rollback (answerCapture (.error error))
  .begin false onFailure <|
  .lock (idempotencyLock env.word command.workspaceId command.idempotencyKey) <|
  .read fun db =>
  match db.conflictByCaptureKey command.workspaceId command.idempotencyKey with
  | some row =>
    if row.originatingEventId ≠ command.originatingEventId ∨
        !captureEvidenceMatches row command then raise .idempotencyMismatch
    else .rollback (answerCapture (.ok row))
  | none =>
    if (db.conflictByOriginatingEvent command.workspaceId command.originatingEventId).isSome then
      raise .idempotencyMismatch
    else if db.keyHeldByAnotherEvent command.workspaceId command.idempotencyKey
        command.originatingEventId then raise .idempotencyMismatch
    else if !validateCaptureReferences env command db then raise .inputInvalid
    else
      match command.sourceId with
      | none => commitConflict (captureWrites request none) answerCapture
      | some sourceId =>
        .lock (sourceLock env.word sourceId) <|
        .draw fun eventSequence =>
        commitConflict
          (captureWrites request (some (captureEvent env command sourceId eventSequence)))
          answerCapture

/-- `capture`. -/
def captureConflict (env : Environment) (request : CaptureRequest) : StoreProgram :=
  conflictRetry (captureOnce env request) (fun error => answerCapture (.error error))
    maximumAttempts

/-! ## Resolution -/

structure ConflictResolutionIdentities where
  successorConflictId : ConflictId
  resultingVersionId : SourceVersionId
deriving DecidableEq

/-- One service invocation with its identities. -/
structure ResolutionRequest where
  command : ResolveConflictCommand
  workspaceId : WorkspaceId
  identities : ConflictResolutionIdentities
deriving DecidableEq

def answerResolution (result : Except SourceConflictError ConflictResolutionResult) :
    StoreProgram :=
  .done (.resolution result)

/-- `_insert_resolution_event`. -/
def resolutionEvent (env : Environment) (request : ResolutionRequest) (conflict : SourceConflict)
    (sourceId : SourceId) (committedVersionId : Option SourceVersionId) (eventSequence : Nat) :
    SyncEvent where
  eventId := request.command.resolutionEventId
  workspaceId := request.workspaceId
  eventSequence := eventSequence
  sourceId := sourceId
  deviceId := some conflict.originatingDeviceId
  committedVersionId := committedVersionId
  baseVersionId := request.command.reviewedRemoteVersionId
  idempotencyKey := request.command.idempotencyKey
  requestFingerprint := env.resolutionDigest request.command
  eventType := .conflictResolve

def insertResolutionEvent (env : Environment) (request : ResolutionRequest)
    (conflict : SourceConflict) (committedVersionId : Option SourceVersionId)
    (eventSequence : Nat) (db : Db) : Except (Refusal SourceConflictError) Db :=
  match conflict.sourceId with
  | none => .ok db
  | some sourceId =>
    db.insertEvent
      (resolutionEvent env request conflict sourceId committedVersionId eventSequence)

/-- The guarded close of the open conflict, behind `uq_source_conflicts__resolution_event`. -/
def closeConflict (request : ResolutionRequest) (status : ConflictStatus)
    (resultingVersionId : Option SourceVersionId) (successorConflictId : Option ConflictId)
    (db : Db) : Except (Refusal SourceConflictError) Db := do
  let command := request.command
  let db ← unlessTaken
    (db.conflictByResolutionEvent request.workspaceId command.resolutionEventId).isSome db
  let conflicts ← guardedUpdate db.conflicts
    (fun c => c.conflictId = command.conflictId ∧ c.workspaceId = request.workspaceId ∧
      c.status = .open)
    (fun c => { c with
      status
      resolution := some {
        resolutionKind := command.resolutionKind
        resolutionEventId := command.resolutionEventId
        resolutionIdempotencyKey := command.idempotencyKey
        resultingVersionId, successorConflictId } })
    .stateInvalid
  return { db with conflicts }

def resolutionResult (request : ResolutionRequest) (kind : ConflictResolutionOutcome)
    (resultingVersionId : Option SourceVersionId) (successor : Option SourceConflict) :
    ConflictResolutionResult where
  kind := kind
  conflictId := request.command.conflictId
  resolutionEventId := request.command.resolutionEventId
  resolutionKind := request.command.resolutionKind
  resultingVersionId := resultingVersionId
  successor := successor

abbrev ResolutionWrites :=
  Except (Refusal SourceConflictError) (Db × ConflictResolutionResult)

/-- `_stale_successor_transition`. -/
def staleSuccessorWrites (env : Environment) (request : ResolutionRequest)
    (conflict : SourceConflict) (currentVersionId : Option SourceVersionId)
    (eventSequence : Nat) (db : Db) : ResolutionWrites := do
  let db ← insertResolutionEvent env request conflict none eventSequence db
  let successor : SourceConflict := {
    conflict with
    conflictId := request.identities.successorConflictId
    status := .open
    originatingEventId := request.command.resolutionEventId
    captureIdempotencyKey := request.command.idempotencyKey
    observedRemoteVersionId := currentVersionId
    resolution := none }
  let db ← db.insertConflict successor
  let db ← closeConflict request .superseded none
    (some request.identities.successorConflictId) db
  return (db, resolutionResult request .staleSuccessor none (some successor))

/-- `keep_remote` of `_winner_transition`: the reviewed remote already is current. -/
def keepRemoteWrites (env : Environment) (request : ResolutionRequest)
    (conflict : SourceConflict) (eventSequence : Nat) (db : Db) : ResolutionWrites := do
  let db ← insertResolutionEvent env request conflict request.command.reviewedRemoteVersionId
    eventSequence db
  let db ← closeConflict request .resolved none none db
  return (db, resolutionResult request .resolved none none)

/-- The version `_winner_transition` publishes over the locked pointer, or no version when the
pointer's row cannot be numbered. -/
def winningVersion (request : ResolutionRequest) (sourceId : SourceId)
    (parentVersionId : Option SourceVersionId) (contentObjectId : ContentObjectId) (db : Db) :
    Option SourceVersion :=
  let version (contentVersion : Nat) : SourceVersion :=
    { sourceVersionId := request.identities.resultingVersionId
      workspaceId := request.workspaceId
      sourceId, contentObjectId, contentVersion, parentVersionId }
  match parentVersionId with
  | none => some (version 1)
  | some parent =>
    match db.version request.workspaceId sourceId parent with
    | none => none
    | some row => if row.contentVersion < 1 then none else some (version (row.contentVersion + 1))

/-- The publishing part of `_winner_transition`. -/
def winnerWrites (env : Environment) (request : ResolutionRequest) (conflict : SourceConflict)
    (sourceId : SourceId) (version : SourceVersion) (eventSequence : Nat) (db : Db) :
    ResolutionWrites := do
  let db ← db.insertVersion version
  let sources ← guardedUpdate db.sources
    (fun s => s.sourceId = sourceId ∧ s.workspaceId = request.workspaceId ∧
      s.currentVersionId = request.command.reviewedRemoteVersionId)
    (fun s => { s with currentVersionId := some version.sourceVersionId })
    .stateInvalid
  let db ← insertResolutionEvent env request conflict (some version.sourceVersionId)
    eventSequence { db with sources }
  let db ← closeConflict request .resolved (some version.sourceVersionId) none db
  return (db, resolutionResult request .resolved (some version.sourceVersionId) none)

def resolutionReplayResult (db : Db) (row : SourceConflict) :
    Except SourceConflictError ConflictResolutionResult :=
  match row.status, row.resolution with
  | .resolved, some r =>
    .ok ⟨.resolved, row.conflictId, r.resolutionEventId, r.resolutionKind,
      r.resultingVersionId, none⟩
  | .superseded, some r =>
    match r.successorConflictId.bind (db.conflict row.workspaceId) with
    | none => .error .stateInvalid
    | some successor =>
      .ok ⟨.staleSuccessor, row.conflictId, r.resolutionEventId, r.resolutionKind, none,
        some successor⟩
  | _, _ => .error .stateInvalid

/-- The locked source state of `_select_locked_source_state`. -/
structure LockedSourceState where
  syncState : Option SyncState
  currentVersionId : Option SourceVersionId
deriving DecidableEq

/-- The object a version-publishing resolution publishes. -/
def winningObject (command : ResolveConflictCommand) (conflict : SourceConflict) :
    Option ContentObjectId :=
  match command.resolutionKind, conflict.candidate with
  | .keepLocal, .content object => some object
  | .keepLocal, .delete => none
  | _, _ => command.verifiedCandidateObjectId

def numberResolutionEvent (conflict : SourceConflict) (next : Nat → StoreProgram) :
    StoreProgram :=
  match conflict.sourceId with
  | none => next 0
  | some _ => .draw next

def winnerTransition (env : Environment) (request : ResolutionRequest)
    (conflict : SourceConflict) (state : LockedSourceState) : StoreProgram :=
  let command := request.command
  let raise (error : SourceConflictError) : StoreProgram :=
    .rollback (answerResolution (.error error))
  if command.resolutionKind = .keepRemote then
    numberResolutionEvent conflict fun eventSequence =>
    commitConflict (keepRemoteWrites env request conflict eventSequence) answerResolution
  else
    match conflict.sourceId with
    | none => raise .inputInvalid
    | some sourceId =>
      if !(state.syncState.any updateableSourceState) then raise .stateInvalid
      else
        match conflict.candidate, winningObject command conflict with
        -- applying a deletion intent is lifecycle work
        | .delete, _ | .content _, none => raise .inputInvalid
        | .content _, some objectId =>
          .read fun db =>
          if (db.object objectId).isNone then raise .inputInvalid
          else .read fun db =>
          match winningVersion request sourceId state.currentVersionId objectId db with
          | none => raise .stateInvalid
          | some version =>
            .draw fun eventSequence =>
            commitConflict (winnerWrites env request conflict sourceId version eventSequence)
              answerResolution

/-- The transition of a resolution against the locked source state. -/
def resolutionTransition (env : Environment) (request : ResolutionRequest)
    (conflict : SourceConflict) (state : LockedSourceState) : StoreProgram :=
  if request.command.reviewedRemoteVersionId ≠ state.currentVersionId then
    numberResolutionEvent conflict fun eventSequence =>
    commitConflict
      (staleSuccessorWrites env request conflict state.currentVersionId eventSequence)
      answerResolution
  else winnerTransition env request conflict state

def resolveOnce (env : Environment) (request : ResolutionRequest)
    (onFailure : Failure → StoreProgram) : StoreProgram :=
  let command := request.command
  let workspaceId := request.workspaceId
  let raise (error : SourceConflictError) : StoreProgram :=
    .rollback (answerResolution (.error error))
  .begin false onFailure <|
  .lock (idempotencyLock env.word workspaceId command.idempotencyKey) <|
  .read fun db =>
  match db.conflictByResolutionEvent workspaceId command.resolutionEventId with
  | some row =>
    if row.resolution.any fun r => r.resolutionIdempotencyKey ≠ command.idempotencyKey then
      raise .idempotencyMismatch
    else .rollback (answerResolution (resolutionReplayResult db row))
  | none =>
    if (db.conflictByResolutionKey workspaceId command.idempotencyKey).isSome ∨
        (db.conflictByCaptureKey workspaceId command.idempotencyKey).isSome ∨
        db.keyHeldByAnotherEvent workspaceId command.idempotencyKey
          command.resolutionEventId then raise .idempotencyMismatch
    else if !env.workspaceActive workspaceId then raise .inputInvalid
    else
      .selectForUpdate (fun db => db.conflict workspaceId command.conflictId)
        (fun _ => .conflictRow command.conflictId) (raise .notFound) fun conflict =>
      if conflict.status ≠ .open then raise .stateInvalid
      else
        match conflict.sourceId with
        | none => resolutionTransition env request conflict ⟨none, none⟩
        | some sourceId =>
          .lock (sourceLock env.word sourceId) <|
          .selectForUpdate (fun db => db.sourceInWorkspace workspaceId sourceId)
            (fun _ => .sourceRow sourceId) (raise .inputInvalid) fun source =>
          resolutionTransition env request conflict
            ⟨some source.syncState, source.currentVersionId⟩

/-- `resolve`. -/
def resolveConflict (env : Environment) (request : ResolutionRequest) : StoreProgram :=
  conflictRetry (resolveOnce env request) (fun error => answerResolution (.error error))
    maximumAttempts

end PersonalOs.SourceStore
