import PersonalOs.SourceStore.DeviceTables
import PersonalOs.SourceStore.Lineages
import PersonalOs.SourceStore.Replays

/-!
# The stores as one machine, and its rules

Any number of calls of the publication, lifecycle, conflict and manifest stores, interleaved
at every statement. What a commit of each may do is the guarantee of the logic: it appends one
event of its call under the locks that event needs, or it touches no canonical row.
-/

namespace PersonalOs.SourceStore

open Transactions

/-! ## The machine -/

inductive StoreCall
  | publication (request : PublicationRequest)
  | lifecycle (call : LifecycleCall)
  | capture (request : CaptureRequest)
  | resolve (request : ResolutionRequest)
  | manifest (call : ManifestCall)
  | device (call : DeviceCall)

def storeProgram (env : Environment) : StoreCall → StoreProgram
  | .publication request => commitPublicationRequest env request
  | .lifecycle call => commitLifecycle env call
  | .capture request => captureConflict env request
  | .resolve request => resolveConflict env request
  | .manifest call => manifestProgram env call
  | .device call => deviceProgram env call

abbrev StoreWorld := World Db LockName LifecycleRequest StoreAnswer StoreCall

/-- The stores over an empty database; identity columns count from one. -/
def storeMachine (env : Environment) : Machine StoreWorld (Action StoreCall) :=
  machine (storeProgram env) fun s => s = ⟨.empty, 1⟩

/-! ## Calls and their events -/

/-- The workspace a manifest call is scoped to. -/
def ManifestCommand.context : ManifestCommand → DeviceSyncContext
  | .start c => c.context
  | .append c => c.context
  | .finalize c => c.context
  | .readActions q => q.context
  | .complete c => c.context

def StoreCall.workspaceId : StoreCall → WorkspaceId
  | .publication request => request.command.workspaceId
  | .lifecycle call => call.request.device.workspaceId
  | .capture request => request.command.workspaceId
  | .resolve request => request.workspaceId
  | .manifest call => call.command.context.workspaceId
  | .device call => call.context.workspaceId

def StoreCall.captureRequest : StoreCall → Option CaptureRequest
  | .capture request => some request
  | _ => none

def StoreCall.resolutionRequest : StoreCall → Option ResolutionRequest
  | .resolve request => some request
  | _ => none

def StoreCall.manifestCall : StoreCall → Option ManifestCall
  | .manifest call => some call
  | _ => none

def StoreCall.deviceCall : StoreCall → Option DeviceCall
  | .device call => some call
  | _ => none

def Publishes (env : Environment) (command : SourceVersionCommand) (e : SyncEvent) : Prop :=
  match command with
  | .create c => ∃ n version, e = createEvent c (env.fingerprint command) n version
  | .update c => ∃ n version,
      e = updateEvent c (env.fingerprint command) n c.baseVersionId version

def LifecycleRequest.Commits (env : Environment) (request : LifecycleRequest) (e : SyncEvent) :
    Prop :=
  ∃ version n, e = lifecycleEvent env request version n

def StoreCall.Announces (env : Environment) (call : StoreCall) (e : SyncEvent) : Prop :=
  match call with
  | .publication request => Publishes env request.command e
  | .lifecycle call => call.request.Commits env e
  | .capture request => ∃ x n, e = captureEvent env request.command x n
  | .resolve request => ∃ conflict x version n,
      e = resolutionEvent env request conflict x version n
  | .manifest _ | .device _ => False

/-- The trust checks in front of a publication and a lifecycle commit. -/
def StoreCall.Trusted (env : Environment) : StoreCall → Prop
  | .publication request => env.workspaceActive request.command.workspaceId = true ∧
      env.actorValid request.command.workspaceId request.command.actor = true
  | .lifecycle call => env.trusts call.request.device = true
  | .capture _ | .resolve _ | .manifest _ | .device _ => True

theorem StoreCall.Announces.workspace {env : Environment} {call : StoreCall} {e : SyncEvent}
    (ha : call.Announces env e) : e.workspaceId = call.workspaceId := by
  match call, ha with
  | .publication ⟨.create _, _, _⟩, ⟨_, _, is⟩ => rw [is]; rfl
  | .publication ⟨.update _, _, _⟩, ⟨_, _, is⟩ => rw [is]; rfl
  | .lifecycle _, ⟨_, _, is⟩ => rw [is]; rfl
  | .capture _, ⟨_, _, is⟩ => rw [is]; rfl
  | .resolve _, ⟨_, _, _, _, is⟩ => rw [is]; rfl

/-! ## The invariant -/

/-- What holds of every committed state. -/
structure StoreInv (env : Environment) (s : Snapshot Db) : Prop where
  keyed : Keyed s.db
  history : ∀ x, SourceHistory x (s.db.graph x)
  started : 1 ≤ s.sequence
  numbered : ∀ e ∈ s.db.events, 1 ≤ e.eventSequence ∧ e.eventSequence < s.sequence
  distinct : s.db.events.Pairwise fun a b => a.eventSequence ≠ b.eventSequence
  authored : ∀ e ∈ s.db.events, ∃ call : StoreCall, call.Announces env e ∧ call.Trusted env
  devices : DeviceTables env s.db
  conflictTable : ConflictTable s.db.conflicts
  conflictEvents : ConflictEvents s.db.conflicts s.db.events

theorem storeInv_initial (env : Environment) : StoreInv env ⟨.empty, 1⟩ where
  keyed := keyed_empty
  history := fun _ => .empty
  started := Nat.le_refl 1
  numbered := by simp [Db.empty]
  distinct := .nil
  authored := by simp [Db.empty]
  devices := deviceTables_empty env
  conflictTable := conflictTable_empty
  conflictEvents := conflictEvents_empty

/-! ## The guarantee -/

abbrev StoreOwn := Own LockName LifecycleRequest

/-- A commit that appends an event: what it checked, and under which locks and number. -/
structure EventCommit (env : Environment) (call : StoreCall) (o : StoreOwn) (s : Snapshot Db)
    (db' : Db) (e : SyncEvent) : Prop where
  commit : CommitOf e s.db db'
  announces : call.Announces env e
  trusted : call.Trusted env
  source : sourceLock env.word e.sourceId ∈ o.locks
  idempotency : idempotencyLock env.word e.workspaceId e.idempotencyKey ∈ o.locks
  policy : e.eventType.isConflict = false → .policyStateRow e.workspaceId ∈ o.locks
  number : e.eventSequence ∈ o.drawn
  positive : 1 ≤ e.eventSequence
  unused : ∀ x ∈ s.db.events, x.eventSequence ≠ e.eventSequence
  behind : ∀ x ∈ s.db.events, x.sourceId = e.sourceId → x.eventSequence < e.eventSequence
  governed : e.eventType.isConflict = false → ∀ x ∈ s.db.events,
    x.workspaceId = e.workspaceId → x.eventType.isConflict = false →
      x.eventSequence < e.eventSequence
  conflicts : ConflictMove call.captureRequest call.resolutionRequest (some e) s.db.conflicts
    db'.conflicts

def LifecycleRequest.CommittedIn (env : Environment) (request : LifecycleRequest) (db : Db) :
    Prop :=
  ∃ e ∈ db.events, request.Commits env e

/-- A commit that touches no canonical row. In strict runs a lifecycle call audits a rejection
only while its request has no committed event. -/
structure SideCommit (env : Environment) (strict : Prop) (call : StoreCall) (o : StoreOwn)
    (s : Snapshot Db) (db' : Db) : Prop where
  sameCanon : ∃ conflicts audits cursors runs, db' = { s.db with
    conflicts := conflicts, rejectionAudits := audits, cursors := cursors, manifestRuns := runs }
  conflicts : ConflictMove call.captureRequest call.resolutionRequest none s.db.conflicts
    db'.conflicts
  devices : DeviceMove env call.deviceCall call.manifestCall o.locks s.db db'
  audits : db'.rejectionAudits = s.db.rejectionAudits ∨
    ∃ audit, db'.rejectionAudits = s.db.rejectionAudits ++ [audit] ∧
      ∀ l : LifecycleCall, call = .lifecycle l → strict → ¬l.request.CommittedIn env s.db

/-- What a commit of a call may do. -/
def StoreGuar (env : Environment) (strict : Prop) (call : StoreCall) (o : StoreOwn)
    (s : Snapshot Db) (db' : Db) : Prop :=
  (∃ e, EventCommit env call o s db' e) ∨ SideCommit env strict call o s db'

variable {env : Environment} {strict : Prop} {call : StoreCall} {o : StoreOwn} {s : Snapshot Db}
  {db' : Db}

theorem SideCommit.events (hs : SideCommit env strict call o s db') : db'.events = s.db.events := by
  obtain ⟨_, _, _, _, rfl⟩ := hs.sameCanon
  rfl

theorem SideCommit.graph (hs : SideCommit env strict call o s db') : db'.graph = s.db.graph := by
  obtain ⟨_, _, _, _, rfl⟩ := hs.sameCanon
  rfl

theorem StoreGuar.conflictMove (hg : StoreGuar env strict call o s db') :
    ∃ ev, db'.events = s.db.events ++ ev.toList ∧
      ConflictMove call.captureRequest call.resolutionRequest ev s.db.conflicts db'.conflicts := by
  rcases hg with ⟨e, he⟩ | hs
  · exact ⟨some e, he.commit.events, he.conflicts⟩
  · exact ⟨none, by simp [hs.events], hs.conflicts⟩

theorem StoreGuar.grows (hg : StoreGuar env strict call o s db') : Grows s.db db' := by
  rcases hg with ⟨e, he⟩ | hs
  · exact he.commit.grows
  · obtain ⟨_, _, _, _, rfl⟩ := hs.sameCanon
    exact ⟨fun _ hm => hm, fun _ hm => hm, fun _ hm => hm⟩

theorem StoreInv.draw (inv : StoreInv env s) : StoreInv env ⟨s.db, s.sequence + 1⟩ :=
  { inv with
    started := Nat.le_succ_of_le inv.started
    numbered := fun e ht => ⟨(inv.numbered e ht).1,
      Nat.lt_succ_of_lt (inv.numbered e ht).2⟩ }

theorem still_devices {db : Db} (hr : db'.manifestRuns = db.manifestRuns)
    (hc : db'.cursors = db.cursors) : DeviceMove env none none [] db db' :=
  .still hr hc

theorem StoreInv.commit (inv : StoreInv env s) (hn : ∀ n ∈ o.drawn, n < s.sequence)
    (hg : StoreGuar env strict call o s db') : StoreInv env ⟨db', s.sequence⟩ := by
  obtain ⟨ev, hap, hv⟩ := hg.conflictMove
  have hta := inv.conflictTable.move hv
  have ha := inv.conflictEvents.move hv
  rw [← hap] at ha
  rcases hg with ⟨e, he⟩ | hs
  · have hc := he.commit
    have hev {Fact : SyncEvent → Prop} (old : ∀ x ∈ s.db.events, Fact x) (new : Fact e) :
        ∀ x ∈ db'.events, Fact x := by
      intro x hm
      rw [hc.events] at hm
      rcases List.mem_append.mp hm with ht | had
      · exact old x ht
      · rw [List.mem_singleton.mp had]
        exact new
    refine ⟨hc.keyed, ?_, inv.started, hev inv.numbered ?_, ?_, hev inv.authored ?_, ?_, hta, ha⟩
    · intro x
      by_cases hsa : x = e.sourceId
      · subst hsa
        refine .step (inv.history _) rfl ?_ ?_ hc.step
        · intro y hm
          obtain ⟨ht, ho⟩ := List.mem_filter.mp hm
          exact he.behind y ht (by simpa using ho)
        · intro y hm
          exact (hc.fresh y (List.mem_filter.mp hm).1).1
      · show SourceHistory x (db'.graph x)
        rw [hc.others hsa]
        exact inv.history x
    · exact ⟨he.positive, hn _ he.number⟩
    · show db'.events.Pairwise _
      rw [hc.events]
      exact KeyedLemmas.pairwise_snoc inv.distinct he.unused
    · exact ⟨call, he.announces, he.trusted⟩
    · exact (still_devices hc.rest.manifestRuns hc.rest.cursors).tables inv.devices hc.grows.events
  · have hd := hs.devices.tables inv.devices (by simp [hs.events])
    obtain ⟨c, a, cu, r, rfl⟩ := hs.sameCanon
    exact { inv with
      keyed := { inv.keyed with }
      devices := hd
      conflictTable := hta
      conflictEvents := ha }

/-! ## Answers -/

/-- The committed event of a request's identity: its key, event and fingerprint. -/
structure EventOf (db : Db) (workspaceId : WorkspaceId) (key : IdempotencyKey) (eventId : EventId)
    (fingerprint : RequestFingerprint) (e : SyncEvent) : Prop where
  stands : e ∈ db.events
  workspace : e.workspaceId = workspaceId
  key : e.idempotencyKey = key
  event : e.eventId = eventId
  fingerprint : e.requestFingerprint = fingerprint

abbrev PublicationEvent (env : Environment) (command : SourceVersionCommand) (db : Db)
    (e : SyncEvent) : Prop :=
  EventOf db command.workspaceId command.idempotencyKey command.eventId (env.fingerprint command) e

/-- The base of an update is not the current version of its source, from the state of its
call on: it is an older version, or none that is ever published. -/
def StaleBase (command : UpdateSourceVersion) (born now : Db) : Prop :=
  ∃ row, (born.graph command.sourceId).rows = [row] ∧ row.workspaceId = command.workspaceId ∧
    row.currentVersionId ≠ some command.baseVersionId ∧
    ((∃ v ∈ born.versions, v.sourceVersionId = command.baseVersionId) ∨
      ∀ v ∈ now.versions, v.sourceVersionId ≠ command.baseVersionId)

/-- Neither the key nor the event identity of a command is in use. -/
def Unidentified (command : SourceVersionCommand) (db : Db) : Prop :=
  ∀ e ∈ db.events, e.eventId ≠ command.eventId ∧
    ¬(e.workspaceId = command.workspaceId ∧ e.idempotencyKey = command.idempotencyKey)

/-- The key or the event identity of a command belongs to another request's event. -/
def IdentityTaken (env : Environment) (command : SourceVersionCommand) (db : Db) : Prop :=
  ∃ e ∈ db.events, (e.workspaceId = command.workspaceId ∧
      e.idempotencyKey = command.idempotencyKey ∨ e.eventId = command.eventId) ∧
    ¬PublicationEvent env command db e

/-- No two requests share a fingerprint. -/
structure Environment.CollisionFree (env : Environment) : Prop where
  publication : Function.Injective env.publicationDigest
  lifecycle : ∀ envelope command, env.publicationDigest envelope ≠ env.lifecycleDigest command
  capture : ∀ envelope command, env.publicationDigest envelope ≠ env.captureDigest command
  resolution : ∀ envelope command, env.publicationDigest envelope ≠ env.resolutionDigest command

def PublicationRequest.Denied (request : PublicationRequest) : Prop :=
  ∃ db, request.permits (authoritativeSubject db request.command) = false

/-- What a publication may answer, given the state it was called in. -/
def GoodPublication (env : Environment) (request : PublicationRequest) (born now : Db) :
    Except PublicationError SourceVersionPublicationResult → Prop
  | .ok result => ∃ e, PublicationEvent env request.command now e ∧
      hydrateReplayResult (now.replayRow e) request.command = some result
  | .error error =>
    (env.CollisionFree → (∃ e, PublicationEvent env request.command born e) →
      error.isRetryable = true ∨ error = .policyDenied ∧ request.Denied) ∧
    (∀ command, request.command = .update command → StaleBase command born now →
      Unidentified request.command now →
        error.isRetryable = true ∨ error = .policyDenied ∧ request.Denied ∨
        error = .inputInvalid ∧ ¬(StoreCall.publication request).Trusted env ∨
        error = .sourceStateInvalid .deleted ∨
        ∃ current ordinal, error = .versionConflict current ordinal ∧
          current ≠ command.baseVersionId) ∧
    (IdentityTaken env request.command born →
      error.isRetryable = true ∨ error = .idempotencyMismatch ∨ error = .eventIdentityMismatch ∨
      error = .inputInvalid ∧ ¬(StoreCall.publication request).Trusted env)

abbrev LifecycleEvent (env : Environment) (request : LifecycleRequest) (db : Db)
    (e : SyncEvent) : Prop :=
  EventOf db request.device.workspaceId request.command.idempotencyKey request.command.eventId
    (env.lifecycleDigest request.command) e

def KeyTaken (env : Environment) (request : LifecycleRequest) (db : Db) : Prop :=
  ∃ e ∈ db.events, e.workspaceId = request.device.workspaceId ∧
    e.idempotencyKey = request.command.idempotencyKey ∧ ¬request.Commits env e

/-- What a lifecycle call may answer, given the state it was called in. -/
def GoodLifecycle (env : Environment) (strict : Prop) (request : LifecycleRequest)
    (born now : Db) : Except LifecycleFailure SourceLifecycleCommitResult → Prop
  | .ok result => ∃ e, LifecycleEvent env request now e ∧ e.sourceId = request.command.sourceId ∧
      hydrateLifecycleReplay (now.lifecycleReplayRow e) request.command = .ok result
  | .error failure =>
    (strict → failure.isRetryable = true ∨ ¬request.CommittedIn env now) ∧
    (KeyTaken env request born → failure.isRetryable = true ∨
      failure = .lifecycle .inputInvalid ∨ failure = .lifecycle .locatorConflict ∨
      failure = .driverFailure)

structure CapturedBy (command : CaptureConflictCommand) (c : SourceConflict) : Prop where
  workspace : c.workspaceId = command.workspaceId
  event : c.originatingEventId = command.originatingEventId
  key : c.captureIdempotencyKey = command.idempotencyKey
  evidence : captureEvidenceMatches c command = true

/-- The key or the event of a capture belongs to a conflict row, or its key to another event. -/
def CaptureTaken (command : CaptureConflictCommand) (db : Db) : Prop :=
  (∃ c ∈ db.conflicts, c.workspaceId = command.workspaceId ∧
    (c.captureIdempotencyKey = command.idempotencyKey ∨
      c.originatingEventId = command.originatingEventId)) ∨
  ∃ e ∈ db.events, e.workspaceId = command.workspaceId ∧
    e.idempotencyKey = command.idempotencyKey ∧ e.eventId ≠ command.originatingEventId

/-- What a capture may answer, given the state it was called in. -/
def GoodCapture (request : CaptureRequest) (born now : Db) :
    Except SourceConflictError SourceConflict → Prop
  | .ok row => ∃ c ∈ now.conflicts, CapturedBy request.command c ∧ c.conflictId = row.conflictId
  | .error error => CaptureTaken request.command born →
      error = .idempotencyMismatch ∨ error = .dependencyUnavailable ∨
      error = .commitOutcomeUnknown

/-- The closed row a resolution's outcome was stored in. -/
structure ResolvedBy (request : ResolutionRequest) (result : ConflictResolutionResult)
    (c : SourceConflict) (r : ConflictResolution) : Prop where
  workspace : c.workspaceId = request.workspaceId
  closed : c.status ≠ .open
  resolution : c.resolution = some r
  event : r.resolutionEventId = request.command.resolutionEventId
  key : r.resolutionIdempotencyKey = request.command.idempotencyKey
  result : result.conflictId = c.conflictId ∧ result.resolutionEventId = r.resolutionEventId ∧
    result.resolutionKind = r.resolutionKind ∧ result.resultingVersionId = r.resultingVersionId

/-- What a resolution may answer. -/
def GoodResolution (request : ResolutionRequest) (now : Db) :
    Except SourceConflictError ConflictResolutionResult → Prop
  | .ok result => ∃ c ∈ now.conflicts, ∃ r, ResolvedBy request result c r
  | .error _ => True

/-! ## Answers to devices -/

structure RunOf (db : Db) (context : DeviceSyncContext) (runId : ManifestRunId)
    (r : ManifestRun) : Prop where
  stands : r ∈ db.manifestRuns
  context : r.context = context
  id : r.manifestRunId = runId

/-- What a start may answer: a run of the device for the client's observation. -/
def GoodStart (command : StartManifestCommand) (now : Db) :
    Except ManifestError ManifestRun → Prop
  | .ok run => run.context = command.context ∧
      run.clientObservationGeneration = command.clientObservationGeneration ∧
      ∃ r ∈ now.manifestRuns, RunKept run r
  | .error _ => True

/-- What a page may be answered: an accepted page is stored, a page that replaces another one
has failed the run, and a page whose number was taken before is refused only by a failure of the
database, a new policy or a run that no longer collects. -/
def GoodAppend (command : AppendManifestPageCommand) (born now : Db) :
    Except ManifestError ManifestPageReceipt → Prop
  | .ok receipt => receipt.manifestRunId = command.manifestRunId ∧
      receipt.pageNumber = command.pageNumber ∧
      receipt.acceptedEntryCount = command.entries.length ∧
      ∃ r, RunOf now command.context command.manifestRunId r ∧ command.page ∈ r.pages
  | .error error =>
    (error = .pageReplayMismatch → ∃ r, RunOf now command.context command.manifestRunId r ∧
      r.state = .failed ∧ command.pageNumber < r.nextPageNumber ∧ command.page ∉ r.pages) ∧
    ((∃ r, RunOf born command.context command.manifestRunId r ∧
        command.pageNumber < r.nextPageNumber) →
      error = .dependencyUnavailable ∨ error = .internalError ∨ error = .policyAdvanced ∨
      ∃ r, RunOf now command.context command.manifestRunId r ∧ r.state ≠ .collecting)

/-- What a finalization may answer: the planned run of the counted and digested pages. -/
def GoodFinalize (command : FinalizeManifestCommand) (now : Db) :
    Except ManifestError ManifestRun → Prop
  | .ok run => run.context = command.context ∧ run.manifestRunId = command.manifestRunId ∧
      run.state ≠ .collecting ∧ run.entryCount = command.totalEntryCount ∧
      run.finalDigest = some command.finalDigest ∧ ∃ r ∈ now.manifestRuns, RunKept run r
  | .error _ => True

/-- What an action read may answer: a stretch of the plan. -/
def GoodActions (query : ManifestActionsQuery) (now : Db) :
    Except ManifestError ManifestActionPage → Prop
  | .ok page => ∃ r, RunOf now query.context query.manifestRunId r ∧ r.state ≠ .collecting ∧
      page.actions.map DeliveredAction.action = (r.actions.filter fun action =>
        query.afterActionIndex ≤ action.actionIndex).take query.limit
  | .error _ => True

/-- What a completion may answer: the run is completed, and the receipt is the cursor of some
moment of the call; a completion that was accepted before is refused only by a failure of the
database. -/
def GoodCompletion (command : CompleteManifestCommand) (born now : Db) :
    Except ManifestError DeviceCursorReceipt → Prop
  | .ok receipt => (∃ r, RunOf now command.context command.manifestRunId r ∧
      r.state = .completed ∧ r.finalDigest = some command.finalDigest ∧
      r.checkpointSequence ≤ receipt.acknowledgedSequence) ∧
      Behind (born.watermarks command.context)
        ⟨receipt.acknowledgedSequence, receipt.deliveredThroughSequence⟩ ∧
      Behind ⟨receipt.acknowledgedSequence, receipt.deliveredThroughSequence⟩
        (now.watermarks command.context)
  | .error error => (∃ r, RunOf born command.context command.manifestRunId r ∧
      r.state = .completed ∧ r.finalDigest = some command.finalDigest) →
    error = .dependencyUnavailable ∨ error = .internalError

def GoodManifest (call : ManifestCall) (born now : Db) (answer : StoreAnswer) : Prop :=
  match call.command, answer with
  | .start command, .manifest result => GoodStart command now result
  | .append command, .page result => GoodAppend command born now result
  | .finalize command, .manifest result => GoodFinalize command now result
  | .readActions query, .actions result => GoodActions query now result
  | .complete command, .completion result => GoodCompletion command born now result
  | _, _ => False

/-- What a pull may answer: its page ends at a watermark the device has reached. -/
def GoodPull (context : DeviceSyncContext) (now : Db) :
    Except DeviceEventError DeviceSync.DeviceEventPage → Prop
  | .ok page => Behind ⟨page.acknowledgedSequence, page.deliveredThroughSequence⟩
      (now.watermarks context)
  | .error _ => True

/-- What an acknowledgement may answer: what its rule says of the cursor of some moment of the
call, or that the database failed. -/
def GoodAcknowledgement (context : DeviceSyncContext) (expectedPrevious appliedThrough : Nat)
    (born now : Db) (result : Except DeviceEventError DeviceCursorReceipt) : Prop :=
  result = .error .dependencyUnavailable ∨ result = .error .internalError ∨
  ∃ cursor : Option DeviceSync.DeviceCursor,
    Behind (born.watermarks context) (DeviceSync.readCursor cursor) ∧
    Behind (DeviceSync.readCursor cursor) (now.watermarks context) ∧
    match DeviceSync.acknowledgeOnce cursor expectedPrevious appliedThrough with
    | .error code => result = .error (.closed code)
    | .ok (row, _) => result = .ok ⟨row.acknowledgedSequence, row.deliveredThroughSequence⟩ ∧
        Behind row (now.watermarks context)

def GoodDevice (call : DeviceCall) (born now : Db) (answer : StoreAnswer) : Prop :=
  match call.command, answer with
  | .pull _, .pull result => GoodPull call.context now result
  | .acknowledge expectedPrevious appliedThrough, .acknowledgement result =>
    GoodAcknowledgement call.context expectedPrevious appliedThrough born now result
  | _, _ => False

def GoodAnswer (env : Environment) (strict : Prop) (call : StoreCall) (born now : Db)
    (answer : StoreAnswer) : Prop :=
  match call, answer with
  | .publication request, .publication result => GoodPublication env request born now result
  | .lifecycle call, .lifecycle result => GoodLifecycle env strict call.request born now result
  | .capture request, .capture result => GoodCapture request born now result
  | .resolve request, .resolution result => GoodResolution request now result
  | .manifest call, answer => GoodManifest call born now answer
  | .device call, answer => GoodDevice call born now answer
  | _, _ => False

/-! ## The rules -/

/-- The rules of the stores. A strict run asks that nobody commits the event of a request that
another session still believes absent. -/
def rules (env : Environment) (strict : Prop) :
    Rules Db LockName LifecycleRequest StoreAnswer StoreCall where
  Inv := StoreInv env
  Guar := StoreGuar env strict
  Respects := fun notes before after => strict → ∀ request ∈ notes,
    LifecycleRequest.CommittedIn env request after → request.CommittedIn env before
  Good := fun call born now answer => GoodAnswer env strict call born.db now.db answer
  inv_draw := StoreInv.draw
  inv_commit := StoreInv.commit
  respects_nil := by simp

/-! ## What the locks protect -/

/-- What stands still while a lock is held: the graph of a source, the events of a key, the
publication and lifecycle events of a workspace, a run and the cursor of a device. -/
structure Unchanged (env : Environment) (l : LockName) (before after : Db) : Prop where
  source : ∀ x, sourceLock env.word x = l → after.graph x = before.graph x
  key : ∀ e : SyncEvent, idempotencyLock env.word e.workspaceId e.idempotencyKey = l →
    (e ∈ after.events ↔ e ∈ before.events)
  policy : ∀ e : SyncEvent, .policyStateRow e.workspaceId = l → e.eventType.isConflict = false →
    (e ∈ after.events ↔ e ∈ before.events)
  run : ∀ r ∈ before.manifestRuns, .manifestRunRow r.manifestRunId = l → r ∈ after.manifestRuns
  cursor : ∀ context : DeviceSyncContext,
    .deviceCursorRow context.workspaceId context.deviceId = l →
      after.cursor context = before.cursor context

theorem Unchanged.refl (l : LockName) (db : Db) : Unchanged env l db db :=
  ⟨fun _ _ => rfl, fun _ _ => .rfl, fun _ _ _ => .rfl, fun _ ht _ => ht, fun _ _ => rfl⟩

theorem Unchanged.trans (l : LockName) (a b c : Db) (hf : Unchanged env l a b)
    (hs : Unchanged env l b c) : Unchanged env l a c :=
  ⟨fun x hl => (hs.source x hl).trans (hf.source x hl),
    fun e hl => (hs.key e hl).trans (hf.key e hl),
    fun e hl hty => (hs.policy e hl hty).trans (hf.policy e hl hty),
    fun r ht hl => hs.run r (hf.run r ht hl) hl,
    fun co hl => (hs.cursor co hl).trans (hf.cursor co hl)⟩

theorem unchanged_of_unlocked (env : Environment) (strict : Prop) :
    Protects (rules env strict) (Unchanged env) := by
  rintro call o s db _ (⟨e, he⟩ | hs) l hf
  · have hev {x : SyncEvent} (ho : x = e → False) : x ∈ db.events ↔ x ∈ s.db.events := by
      rw [he.commit.events, List.mem_append, List.mem_singleton]
      exact ⟨fun hm => hm.resolve_right ho, .inl⟩
    refine ⟨fun x hl => ?_, fun x hl => hev ?_, fun x hl hty => hev ?_,
      fun r ht _ => ?_, fun c _ => ?_⟩
    · refine he.commit.others ?_
      rintro rfl
      exact hf (hl ▸ he.source)
    · rintro rfl
      exact hf (hl ▸ he.idempotency)
    · rintro rfl
      exact hf (hl ▸ he.policy hty)
    · rw [he.commit.rest.manifestRuns]
      exact ht
    · rw [Db.cursor, he.commit.rest.cursors]
      rfl
  · refine ⟨fun x _ => by rw [hs.graph], fun e _ => by rw [hs.events],
      fun e _ _ => by rw [hs.events], ?_, ?_⟩
    · rintro r ht rfl
      obtain ⟨r', has, _, hsa⟩ := hs.devices.runs.kept ht
      exact hsa hf ▸ has
    · rintro c rfl
      exact hs.devices.cursors.frame hf

end PersonalOs.SourceStore
