import PersonalOs.SourceStore.Manifest

/-!
# The device event store over the canonical tables

`PostgresqlDeviceEventStore`: the pull of a page, hydrated from the canonical rows, and the
acknowledgement of a device's cursor, statement by statement. The page arithmetic and the
answers are those of `DeviceSync.EventStore`.
-/

namespace PersonalOs.SourceStore

open Transactions
open DeviceSync (DeviceEventOperation DeviceEventPage DeviceSyncErrorCode DeviceSyncEvent EventRow
  Fingerprint)

/-! ## Hydration -/

/-- `EVENT_TYPE_BY_DATABASE_TOKEN`, whose tokens are `DEVICE_DELIVERABLE_EVENT_TOKENS`. -/
def EventType.operation : EventType → Option DeviceEventOperation
  | .create => some .created
  | .update => some .updated
  | .rename => some .renamed
  | .move => some .moved
  | .delete => some .deleted
  | .restore => some .restored
  | .conflictCapture | .conflictResolve => none

/-- `DeviceSyncEvent.__post_init__`: which operands an operation carries. -/
def eventShape (operation : DeviceEventOperation) (priorLocator resultingLocator :
    Option NormalizedLocator) (tombstoneId : Option SourceTombstoneId) : Bool :=
  (match operation with
    | .created | .renamed | .moved | .restored => resultingLocator.isSome
    | .deleted => resultingLocator.isNone
    | .updated => true) &&
  (match operation with
    | .renamed | .moved | .deleted => priorLocator.isSome
    | .created | .updated | .restored => priorLocator.isNone) &&
  (match operation with
    | .deleted | .restored => tombstoneId.isSome
    | .created | .updated | .renamed | .moved => tombstoneId.isNone)

/-- `_hydrate_fingerprint` behind the joins of a version to its content object. -/
def Db.fingerprint (db : Db) (e : SyncEvent) (missing : DeviceSyncErrorCode) :
    Option SourceVersionId → Except DeviceSyncErrorCode (Option Fingerprint)
  | none => .ok none
  | some versionId =>
    match (db.version e.workspaceId e.sourceId versionId).bind fun v =>
        db.object v.contentObjectId with
    | some object => .ok (some object.fingerprint)
    | none => .error missing

def Db.openedBy (db : Db) (e : SyncEvent) : Option SourceLocator :=
  db.locators.find? fun l =>
    l.workspaceId = e.workspaceId ∧ l.sourceId = e.sourceId ∧ l.openedEventId = e.eventId

def Db.closedBy (db : Db) (e : SyncEvent) : Option SourceLocator :=
  db.locators.find? fun l => l.workspaceId = e.workspaceId ∧ l.sourceId = e.sourceId ∧
    l.closure.map LocatorClosure.closedEventId = some e.eventId

/-- The tombstone an event made, else the one it restored. -/
def Db.tombstoneOf (db : Db) (e : SyncEvent) : Option SourceTombstone :=
  let ofSource (t : SourceTombstone) : Bool :=
    t.workspaceId = e.workspaceId ∧ t.sourceId = e.sourceId
  (db.tombstones.find? fun t => ofSource t ∧ t.deleteEventId = e.eventId) <|>
    db.tombstones.find? fun t => ofSource t ∧ t.restoreEventId = some e.eventId

/-- The resulting locator of an event's row: an update's is where the source lay at its
sequence. -/
def Db.resultingLocator (db : Db) (e : SyncEvent) : Option NormalizedLocator :=
  (if e.eventType = .update then db.locatorAt e.workspaceId e.sourceId e.eventSequence
    else db.openedBy e).map SourceLocator.normalizedLocator

/-- `hydrate_device_event` over the joined row of `device_pull_page_statement`. -/
def hydrateDeviceEvent (db : Db) (e : SyncEvent) : Except DeviceSyncErrorCode DeviceSyncEvent := do
  let some operation := e.eventType.operation | throw .eventIntegrityFailed
  let baseFingerprint ← db.fingerprint e .cursorGap e.baseVersionId
  let currentFingerprint ← db.fingerprint e .eventIntegrityFailed e.committedVersionId
  let tombstoneId := (db.tombstoneOf e).map SourceTombstone.sourceTombstoneId
  let priorLocator := (db.closedBy e).map SourceLocator.normalizedLocator
  let resultingLocator := db.resultingLocator e
  if operation = .updated ∧ resultingLocator = none then throw .eventIntegrityFailed
  if !eventShape operation priorLocator resultingLocator tombstoneId then
    throw .eventIntegrityFailed
  return {
    eventId := e.eventId
    eventSequence := e.eventSequence
    operation
    sourceId := e.sourceId
    originDeviceId := e.deviceId
    baseVersionId := e.baseVersionId
    currentVersionId := e.committedVersionId
    baseFingerprint
    currentFingerprint
    priorLocator
    resultingLocator
    tombstoneId }

theorem hydrateDeviceEvent_sequence {db : Db} {e : SyncEvent} {ev : DeviceSyncEvent}
    (hh : hydrateDeviceEvent db e = .ok ev) : ev.eventSequence = e.eventSequence := by
  unfold hydrateDeviceEvent at hh
  cases ho : e.eventType.operation with
  | none => simp [ho, throw, throwThe, MonadExceptOf.throw] at hh
  | some ho =>
    simp only [ho] at hh
    cases hb : db.fingerprint e .cursorGap e.baseVersionId with
    | error c => simp [hb, bind, Except.bind] at hh
    | ok bf =>
      cases hc : db.fingerprint e .eventIntegrityFailed e.committedVersionId with
      | error c => simp [hb, hc, bind, Except.bind] at hh
      | ok cf =>
        simp only [hb, hc, bind, Except.bind] at hh
        split at hh
        · cases hh
        · split at hh
          · cases hh
          · cases hh
            rfl

/-! ## Pull -/

def Db.eventRow (db : Db) (e : SyncEvent) : EventRow where
  eventSequence := e.eventSequence
  isDeliverable := e.eventType.operation.isSome
  hydrated := hydrateDeviceEvent db e
  copiesSequence := fun _ hydrated => hydrateDeviceEvent_sequence hydrated

def Db.eventRows (db : Db) (workspaceId : WorkspaceId) : List EventRow :=
  ((db.events.filter fun e => e.workspaceId = workspaceId).insertionSort
    fun a b => a.eventSequence ≤ b.eventSequence).map db.eventRow

def DeviceCursor.watermarks (c : DeviceCursor) : DeviceSync.DeviceCursor :=
  ⟨c.acknowledgedSequence, c.deliveredThroughSequence⟩

/-- `_read_floor`: the smallest acknowledged sequence of the workspace's active devices. -/
def Environment.floor (env : Environment) (db : Db) (workspaceId : WorkspaceId) : Nat :=
  ((db.cursors.filter fun c => c.workspaceId = workspaceId ∧
    env.deviceActive workspaceId c.deviceId).map DeviceCursor.acknowledgedSequence).min?.getD 0

/-- `device_cursor_bootstrap_insert_statement` and
`device_delivered_watermark_advance_statement`. -/
def advanceDelivered (cursors : List DeviceCursor) (context : DeviceSyncContext)
    (delivered : Nat) : List DeviceCursor :=
  updateCursor (bootstrapCursor cursors context 0 delivered) context fun c =>
    if c.deliveredThroughSequence < delivered then
      { c with deliveredThroughSequence := delivered }
    else c

/-- The page with no events of a device that has reached the workspace's checkpoint. -/
def idlePage (cursor : DeviceSync.DeviceCursor) : DeviceEventPage :=
  ⟨cursor.acknowledgedSequence, cursor.deliveredThroughSequence, cursor.deliveredThroughSequence,
    [], false⟩

/-- The tail of `_pull_once`: the page past the delivered watermark, and the watermark moved to
its last event. -/
def pullPageThen (context : DeviceSyncContext) (limit : Nat) (cursor : DeviceSync.DeviceCursor)
    (checkpoint : Option Nat) (answer : Except DeviceEventError DeviceEventPage → StoreProgram) :
    StoreProgram :=
  let delivered := cursor.deliveredThroughSequence
  match checkpoint with
  | none => .rollback (answer (.ok (idlePage cursor)))
  | some checkpoint =>
    if checkpoint ≤ delivered then .rollback (answer (.ok (idlePage cursor)))
    else .read fun db =>
      let rows :=
        DeviceSync.pullPage (db.eventRows context.workspaceId) delivered checkpoint (limit + 1)
      match (rows.take limit).mapM (·.hydrated) with
      | .error code => .rollback (answer (.error (.closed code)))
      | .ok events =>
        let newDelivered := (events.getLast?.map (·.eventSequence)).getD delivered
        let page : DeviceEventPage :=
          ⟨cursor.acknowledgedSequence, checkpoint, newDelivered, events, rows.length > limit⟩
        if newDelivered ≤ delivered then .rollback (answer (.ok page))
        else .lock (.deviceCursorRow context.workspaceId context.deviceId) <|
          commitThen
            (fun db => { db with cursors := advanceDelivered db.cursors context newDelivered })
            (answer (.ok page))

def pullOnce (env : Environment) (context : DeviceSyncContext) (limit : Nat)
    (onFailure : Failure → StoreProgram) : StoreProgram :=
  let answer (result : Except DeviceEventError DeviceEventPage) : StoreProgram :=
    .done (.pull result)
  .begin false onFailure <| .read fun db =>
  let cursor := DeviceSync.readCursor ((db.cursor context).map DeviceCursor.watermarks)
  .read fun db =>
  let checkpoint := db.eventCheckpoint context.workspaceId
  if 0 < cursor.deliveredThroughSequence ∧
      checkpoint.all (· < cursor.deliveredThroughSequence) then
    .read fun db =>
    if DeviceSync.classifyCursorGap cursor.deliveredThroughSequence checkpoint
        (env.floor db context.workspaceId) then
      .rollback (answer (.error (.closed .cursorGap)))
    else pullPageThen context limit cursor checkpoint answer
  else pullPageThen context limit cursor checkpoint answer

/-! ## Acknowledge -/

/-- `device_acknowledged_advance_statement`. -/
def advanceAcknowledged (cursors : List DeviceCursor) (context : DeviceSyncContext)
    (appliedThrough : Nat) : List DeviceCursor :=
  updateCursor cursors context fun c => { c with acknowledgedSequence := appliedThrough }

/-- `_acknowledge_once`. Without a row the locked read holds nothing, and the insert gives way
to a row another call has made by then. -/
def acknowledgeOnce (context : DeviceSyncContext) (expectedPrevious appliedThrough : Nat)
    (onFailure : Failure → StoreProgram) : StoreProgram :=
  let answer (result : Except DeviceEventError DeviceCursorReceipt) : StoreProgram :=
    .done (.acknowledgement result)
  let closed (code : DeviceSyncErrorCode) : StoreProgram := answer (.error (.closed code))
  let cursorLock : LockName := .deviceCursorRow context.workspaceId context.deviceId
  .begin false onFailure <|
  .selectForUpdate (fun db => db.cursor context) (fun _ => cursorLock)
    (match DeviceSync.acknowledgeOnce none expectedPrevious appliedThrough with
      | .error code => .rollback (closed code)
      | .ok (row, _) => .lock cursorLock <|
        commitThen (fun db => { db with cursors := bootstrapCursor db.cursors context 0 0 })
          (answer (.ok ⟨row.acknowledgedSequence, row.deliveredThroughSequence⟩)))
    fun cursor =>
      match DeviceSync.acknowledgeOnce (some cursor.watermarks) expectedPrevious
          appliedThrough with
      | .error code => .rollback (closed code)
      | .ok (row, _) =>
        let next := answer (.ok ⟨row.acknowledgedSequence, row.deliveredThroughSequence⟩)
        if appliedThrough = cursor.acknowledgedSequence then .rollback next
        else
          commitThen
            (fun db => { db with cursors := advanceAcknowledged db.cursors context appliedThrough })
            next

/-! ## The entries -/

inductive DeviceCommand
  | pull (limit : Nat)
  | acknowledge (expectedPrevious appliedThrough : Nat)
deriving DecidableEq

structure DeviceCall where
  context : DeviceSyncContext
  command : DeviceCommand
deriving DecidableEq

def deviceProgram (env : Environment) (call : DeviceCall) : StoreProgram :=
  match call.command with
  | .pull limit =>
    deviceSyncRetry (pullOnce env call.context limit)
      (.done (.pull (.error .dependencyUnavailable))) (.done (.pull (.error .internalError)))
      maximumAttempts
  | .acknowledge expectedPrevious appliedThrough =>
    deviceSyncRetry (acknowledgeOnce call.context expectedPrevious appliedThrough)
      (.done (.acknowledgement (.error .dependencyUnavailable)))
      (.done (.acknowledgement (.error .internalError))) maximumAttempts

end PersonalOs.SourceStore
