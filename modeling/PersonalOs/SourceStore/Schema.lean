import PersonalOs.SourceStore.ManifestPlanning

/-!
# The canonical tables

The rows of the canonical source graph, the lookups and guarded writes the stores issue
against them and the unique constraints PostgreSQL enforces on every insert. A write that
breaks a constraint is refused as such; a store refuses for reasons of its own.

Rows stand in the order they were inserted. Timestamps, titles' history and the projection
intents are left out: no modelled function reads them.
-/

namespace PersonalOs.SourceStore

/-! ## Rows -/

/-- `ck_sync_events__event_type` with the two conflict tokens. -/
inductive EventType
  | create
  | update
  | rename
  | move
  | delete
  | restore
  | conflictCapture
  | conflictResolve
deriving DecidableEq

/-- The events of the conflict store, which the policy row does not order. -/
def EventType.isConflict : EventType → Bool
  | .conflictCapture | .conflictResolve => true
  | _ => false

structure SyncEvent where
  eventId : EventId
  workspaceId : WorkspaceId
  eventSequence : Nat
  sourceId : SourceId
  deviceId : Option DeviceId
  committedVersionId : Option SourceVersionId
  baseVersionId : Option SourceVersionId
  idempotencyKey : IdempotencyKey
  requestFingerprint : RequestFingerprint
  eventType : EventType
deriving DecidableEq

/-- `ck_sources__sync_state`. By `ck_sources__deletion` a source has a deletion time exactly
in the deleted state. -/
inductive SyncState
  | pending
  | active
  | storedNotIndexed
  | deleted
deriving DecidableEq

structure Source where
  sourceId : SourceId
  workspaceId : WorkspaceId
  sourceType : String
  syncState : SyncState
  currentVersionId : Option SourceVersionId
deriving DecidableEq

structure SourceVersion where
  sourceVersionId : SourceVersionId
  workspaceId : WorkspaceId
  sourceId : SourceId
  contentObjectId : ContentObjectId
  contentVersion : Nat
  parentVersionId : Option SourceVersionId
deriving DecidableEq

structure ContentObject where
  contentObjectId : ContentObjectId
  contentHash : String
  objectKey : String
  byteSize : Nat
  mediaType : String
deriving DecidableEq

/-- The two closing columns, which are null together. -/
structure LocatorClosure where
  closedEventId : EventId
  closedSequence : Nat
deriving DecidableEq

structure SourceLocator where
  sourceLocatorId : SourceLocatorId
  workspaceId : WorkspaceId
  sourceId : SourceId
  normalizedLocator : NormalizedLocator
  openedEventId : EventId
  openedSequence : Nat
  closure : Option LocatorClosure
deriving DecidableEq

structure SourceTombstone where
  sourceTombstoneId : SourceTombstoneId
  workspaceId : WorkspaceId
  sourceId : SourceId
  deleteEventId : EventId
  retainedVersionId : SourceVersionId
  retainedLocator : NormalizedLocator
  restoreEventId : Option EventId
deriving DecidableEq

inductive ConflictStatus
  | open
  | resolved
  | superseded
deriving DecidableEq

/-- The columns a resolution fills in. -/
structure ConflictResolution where
  resolutionKind : ConflictResolutionKind
  resolutionEventId : EventId
  resolutionIdempotencyKey : IdempotencyKey
  resultingVersionId : Option SourceVersionId
  successorConflictId : Option ConflictId
deriving DecidableEq

structure SourceConflict where
  conflictId : ConflictId
  workspaceId : WorkspaceId
  sourceId : Option SourceId
  conflictKind : ConflictKind
  status : ConflictStatus
  originatingEventId : EventId
  originatingDeviceId : DeviceId
  captureIdempotencyKey : IdempotencyKey
  baseVersionId : Option SourceVersionId
  observedRemoteVersionId : Option SourceVersionId
  candidate : ConflictCandidate
  normalizedLocator : Option NormalizedLocator
  resolution : Option ConflictResolution
deriving DecidableEq

/-- A rejection audit row: the rejected action, the source it targets and the reason. -/
structure RejectionAudit where
  workspaceId : WorkspaceId
  action : String
  targetId : SourceId
  reasonCode : Option String
deriving DecidableEq

/-- The two watermarks of a device. -/
structure DeviceCursor where
  workspaceId : WorkspaceId
  deviceId : DeviceId
  acknowledgedSequence : Nat
  deliveredThroughSequence : Nat
deriving DecidableEq

inductive ManifestRunState
  | collecting
  | planned
  | applying
  | completed
  | failed
  | expired
deriving DecidableEq

/-- An accepted page of a manifest run, by its evidence. -/
structure ManifestPage where
  pageNumber : Nat
  entryCount : Nat
  pageDigest : String
deriving DecidableEq

/-- A manifest run with its accepted pages, the resolutions of their entries and its plan. -/
structure ManifestRun where
  manifestRunId : ManifestRunId
  workspaceId : WorkspaceId
  deviceId : DeviceId
  baseAcknowledgedSequence : Nat
  checkpointSequence : Nat
  policyRevisionNumber : Nat
  clientObservationGeneration : Nat
  nextPageNumber : Nat
  entryCount : Nat
  pages : List ManifestPage
  resolutions : List EntryResolutionRow
  actions : List ManifestAction
  finalDigest : Option String
  state : ManifestRunState
deriving DecidableEq

/-- The committed canonical graph with the device rows that refer to its event sequence. -/
structure Db where
  events : List SyncEvent
  sources : List Source
  versions : List SourceVersion
  objects : List ContentObject
  locators : List SourceLocator
  tombstones : List SourceTombstone
  conflicts : List SourceConflict
  rejectionAudits : List RejectionAudit
  cursors : List DeviceCursor
  manifestRuns : List ManifestRun
deriving DecidableEq

def Db.empty : Db := ⟨[], [], [], [], [], [], [], [], [], []⟩

/-! ## Lookups -/

def Db.eventByKey (db : Db) (workspaceId : WorkspaceId) (key : IdempotencyKey) :
    Option SyncEvent :=
  db.events.find? fun e => e.workspaceId = workspaceId ∧ e.idempotencyKey = key

def Db.eventById (db : Db) (eventId : EventId) : Option SyncEvent :=
  db.events.find? fun e => e.eventId = eventId

def Db.source (db : Db) (sourceId : SourceId) : Option Source :=
  db.sources.find? fun s => s.sourceId = sourceId

/-- A version by the key all foreign keys use. -/
def Db.version (db : Db) (workspaceId : WorkspaceId) (sourceId : SourceId)
    (versionId : SourceVersionId) : Option SourceVersion :=
  db.versions.find? fun v =>
    v.workspaceId = workspaceId ∧ v.sourceId = sourceId ∧ v.sourceVersionId = versionId

def Db.object (db : Db) (objectId : ContentObjectId) : Option ContentObject :=
  db.objects.find? fun o => o.contentObjectId = objectId

/-- `content_object_by_hash_statement`. -/
def Db.objectByHash (db : Db) (contentHash : String) : Option ContentObject :=
  db.objects.find? fun o => o.contentHash = contentHash

def Db.openLocator (db : Db) (sourceId : SourceId) : Option SourceLocator :=
  db.locators.find? fun l => l.sourceId = sourceId ∧ l.closure = none

def Db.openLocatorAt (db : Db) (workspaceId : WorkspaceId) (locator : NormalizedLocator) :
    Option SourceLocator :=
  db.locators.find? fun l =>
    l.workspaceId = workspaceId ∧ l.normalizedLocator = locator ∧ l.closure = none

/-- `tombstone_lookup_by_id_statement`. -/
def Db.tombstone (db : Db) (workspaceId : WorkspaceId) (tombstoneId : SourceTombstoneId) :
    Option SourceTombstone :=
  db.tombstones.find? fun t => t.workspaceId = workspaceId ∧ t.sourceTombstoneId = tombstoneId

def Db.conflict (db : Db) (workspaceId : WorkspaceId) (conflictId : ConflictId) :
    Option SourceConflict :=
  db.conflicts.find? fun c => c.workspaceId = workspaceId ∧ c.conflictId = conflictId

/-! ## Guarded writes -/

/-- Why a transaction writes nothing: a broken constraint, or a rejection of the store. -/
inductive Refusal (ρ : Type)
  | constraint
  | rejected (reason : ρ)
deriving DecidableEq

variable {ρ : Type}

/-- An insert refused when a row already stands for one of its unique keys. -/
def unlessTaken (taken : Bool) (db : Db) : Except (Refusal ρ) Db :=
  if taken then .error .constraint else .ok db

/-- `pk_sync_events`, `uq_sync_events__idempotency_key`. -/
def Db.insertEvent (db : Db) (e : SyncEvent) : Except (Refusal ρ) Db :=
  unlessTaken (db.events.any fun x => x.eventId = e.eventId ∨
      x.workspaceId = e.workspaceId ∧ x.idempotencyKey = e.idempotencyKey)
    { db with events := db.events ++ [e] }

/-- `pk_sources`. -/
def Db.insertSource (db : Db) (s : Source) : Except (Refusal ρ) Db :=
  unlessTaken (db.sources.any fun x => x.sourceId = s.sourceId)
    { db with sources := db.sources ++ [s] }

/-- `pk_source_versions`, `uq_source_versions__source_ordinal`. -/
def Db.insertVersion (db : Db) (v : SourceVersion) : Except (Refusal ρ) Db :=
  unlessTaken (db.versions.any fun x => x.sourceVersionId = v.sourceVersionId ∨
      x.workspaceId = v.workspaceId ∧ x.sourceId = v.sourceId ∧
        x.contentVersion = v.contentVersion)
    { db with versions := db.versions ++ [v] }

/-- `content_object_upsert_statement`: an object with the hash survives unchanged;
`pk_content_objects` otherwise. -/
def Db.upsertObject (db : Db) (o : ContentObject) : Except (Refusal ρ) Db :=
  if (db.objectByHash o.contentHash).isSome then .ok db
  else unlessTaken (db.objects.any fun x => x.contentObjectId = o.contentObjectId)
    { db with objects := db.objects ++ [o] }

/-- `pk_source_locators`, `uq_source_locators_active_workspace_path`,
`uq_source_locators_active_source`. -/
def Db.insertLocator (db : Db) (l : SourceLocator) : Except (Refusal ρ) Db :=
  unlessTaken (db.locators.any fun x => x.sourceLocatorId = l.sourceLocatorId ∨
      x.closure = none ∧ (x.sourceId = l.sourceId ∨
        x.workspaceId = l.workspaceId ∧ x.normalizedLocator = l.normalizedLocator))
    { db with locators := db.locators ++ [l] }

/-- `pk_source_tombstones`, `uq_source_tombstones__delete_event`,
`uq_source_tombstones_open_source`. -/
def Db.insertTombstone (db : Db) (t : SourceTombstone) : Except (Refusal ρ) Db :=
  unlessTaken (db.tombstones.any fun x => x.sourceTombstoneId = t.sourceTombstoneId ∨
      x.deleteEventId = t.deleteEventId ∨ x.restoreEventId = none ∧ x.sourceId = t.sourceId)
    { db with tombstones := db.tombstones ++ [t] }

/-- `pk_source_conflicts`, `uq_source_conflicts__capture_idempotency`,
`uq_source_conflicts__originating_event`. -/
def Db.insertConflict (db : Db) (c : SourceConflict) : Except (Refusal ρ) Db :=
  unlessTaken (db.conflicts.any fun x => x.conflictId = c.conflictId ∨
      x.workspaceId = c.workspaceId ∧ (x.captureIdempotencyKey = c.captureIdempotencyKey ∨
        x.originatingEventId = c.originatingEventId))
    { db with conflicts := db.conflicts ++ [c] }

/-- Rewrite the rows a guard admits, or refuse when there is none (`rowcount != 1`; the
guards name a primary key). -/
def guardedUpdate {α : Type} (rows : List α) (guard : α → Bool) (write : α → α)
    (refusal : ρ) : Except (Refusal ρ) (List α) :=
  if rows.any guard then .ok (rows.map fun r => if guard r then write r else r)
  else .error (.rejected refusal)

def Db.insertRejectionAudit (db : Db) (audit : RejectionAudit) : Db :=
  { db with rejectionAudits := db.rejectionAudits ++ [audit] }

end PersonalOs.SourceStore
