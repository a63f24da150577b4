import PersonalOs.SourceStore.ManifestEvidence

/-!
# The manifest store

`PostgresqlDeviceManifestStore`: start, page, plan, action read and completion of a device's
manifest run, with the checkpoint a start freezes and the cursor a completion advances to it.

The clock and the workspace's policy pointer are outside these transactions: a call brings
what its statements observe of them. The idle-expiry anchor a call refreshes is part of that
clock.
-/

namespace PersonalOs.SourceStore

open Transactions

/-! ## Commands -/

structure DeviceSyncContext where
  workspaceId : WorkspaceId
  deviceId : DeviceId
deriving DecidableEq

/-- What a call observes outside the modelled tables: whether the run's effective deadline
has passed, the workspace's active policy revision, and whether the revision a run is bound to
can still be loaded. -/
structure ManifestObservation where
  deadlinePassed : Bool
  activePolicyRevision : Option Nat
  boundRevisionFound : Bool
deriving DecidableEq

/-- `StartManifestCommand` with the run identity allocated for it. -/
structure StartManifestCommand where
  context : DeviceSyncContext
  clientObservationGeneration : Nat
  runId : ManifestRunId
deriving DecidableEq

structure AppendManifestPageCommand where
  context : DeviceSyncContext
  manifestRunId : ManifestRunId
  pageNumber : Nat
  entries : List ManifestEntry
  pageDigest : String
deriving DecidableEq

/-- The evidence an accepted page is stored as. -/
def AppendManifestPageCommand.page (command : AppendManifestPageCommand) : ManifestPage :=
  ⟨command.pageNumber, command.entries.length, command.pageDigest⟩

structure FinalizeManifestCommand where
  context : DeviceSyncContext
  manifestRunId : ManifestRunId
  totalEntryCount : Nat
  finalDigest : String
deriving DecidableEq

/-- `MAX_MANIFEST_PAGE_ENTRIES`, the bound of an action page too. -/
def maxManifestPageEntries : Nat := 500

structure ManifestActionsQuery where
  context : DeviceSyncContext
  manifestRunId : ManifestRunId
  afterActionIndex : Nat
  limit : Nat
deriving DecidableEq

structure CompleteManifestCommand where
  context : DeviceSyncContext
  manifestRunId : ManifestRunId
  finalDigest : String
deriving DecidableEq

inductive ManifestCommand
  | start (command : StartManifestCommand)
  | append (command : AppendManifestPageCommand)
  | finalize (command : FinalizeManifestCommand)
  | readActions (query : ManifestActionsQuery)
  | complete (command : CompleteManifestCommand)
deriving DecidableEq

structure ManifestCall where
  command : ManifestCommand
  observed : ManifestObservation
deriving DecidableEq

/-! ## Lookups -/

/-- `MANIFEST_UNFINISHED_STATES`. -/
def ManifestRunState.unfinished : ManifestRunState → Bool
  | .collecting | .planned | .applying => true
  | _ => false

def ManifestRun.context (r : ManifestRun) : DeviceSyncContext := ⟨r.workspaceId, r.deviceId⟩

/-- `manifest_run_select_statement`. -/
def Db.manifestRun (db : Db) (context : DeviceSyncContext) (runId : ManifestRunId) :
    Option ManifestRun :=
  db.manifestRuns.find? fun r => r.context = context ∧ r.manifestRunId = runId

/-- `manifest_unfinished_run_select_statement`. -/
def Db.unfinishedRun (db : Db) (context : DeviceSyncContext) : Option ManifestRun :=
  db.manifestRuns.find? fun r => r.context = context ∧ r.state.unfinished

def DeviceCursor.context (c : DeviceCursor) : DeviceSyncContext := ⟨c.workspaceId, c.deviceId⟩

def DeviceCursor.ownedBy (context : DeviceSyncContext) (c : DeviceCursor) : Bool :=
  c.context = context

/-- `device_cursor_select_statement`. -/
def Db.cursor (db : Db) (context : DeviceSyncContext) : Option DeviceCursor :=
  db.cursors.find? (DeviceCursor.ownedBy context)

/-- `_read_acknowledged_sequence`. -/
def Db.acknowledgedSequence (db : Db) (context : DeviceSyncContext) : Nat :=
  ((db.cursor context).map DeviceCursor.acknowledgedSequence).getD 0

/-- `device_event_checkpoint_statement`: the greatest visible event sequence. -/
def Db.eventCheckpoint (db : Db) (workspaceId : WorkspaceId) : Option Nat :=
  ((db.events.filter fun e => e.workspaceId = workspaceId).map SyncEvent.eventSequence).max?

/-! ## Writes -/

/-- Rewrite the runs of an identity that stand in an admitted state. -/
def updateRun (runs : List ManifestRun) (runId : ManifestRunId)
    (admitted : ManifestRunState → Bool) (write : ManifestRun → ManifestRun) : List ManifestRun :=
  runs.map fun r => if r.manifestRunId = runId ∧ admitted r.state then write r else r

/-- `manifest_run_expire_statement`. -/
def expireRun (runs : List ManifestRun) (runId : ManifestRunId) : List ManifestRun :=
  updateRun runs runId ManifestRunState.unfinished fun r => { r with state := .expired }

/-- `manifest_run_fail_statement`. -/
def failRun (runs : List ManifestRun) (runId : ManifestRunId) : List ManifestRun :=
  updateRun runs runId ManifestRunState.unfinished fun r => { r with state := .failed }

/-- An insert `ON CONFLICT (workspace_id, device_id) DO NOTHING`. -/
def bootstrapCursor (cursors : List DeviceCursor) (context : DeviceSyncContext)
    (acknowledged delivered : Nat) : List DeviceCursor :=
  if cursors.any (DeviceCursor.ownedBy context) then cursors
  else cursors ++ [⟨context.workspaceId, context.deviceId, acknowledged, delivered⟩]

def updateCursor (cursors : List DeviceCursor) (context : DeviceSyncContext)
    (write : DeviceCursor → DeviceCursor) : List DeviceCursor :=
  cursors.map fun c => if c.ownedBy context then write c else c

/-- `device_cursor_completion_bootstrap_statement` and
`device_cursor_completion_advance_statement`. -/
def advanceCursor (cursors : List DeviceCursor) (context : DeviceSyncContext)
    (checkpoint : Nat) : List DeviceCursor :=
  updateCursor (bootstrapCursor cursors context checkpoint checkpoint) context fun c =>
    if c.acknowledgedSequence < checkpoint then
      { c with
        acknowledgedSequence := checkpoint
        deliveredThroughSequence := max c.deliveredThroughSequence checkpoint }
    else c

/-- The row a start inserts. -/
def startedRun (command : StartManifestCommand) (revision acknowledged checkpoint : Nat) :
    ManifestRun where
  manifestRunId := command.runId
  workspaceId := command.context.workspaceId
  deviceId := command.context.deviceId
  baseAcknowledgedSequence := acknowledged
  checkpointSequence := max checkpoint acknowledged
  policyRevisionNumber := revision
  clientObservationGeneration := command.clientObservationGeneration
  nextPageNumber := 0
  entryCount := 0
  pages := []
  resolutions := []
  actions := []
  finalDigest := none
  state := .collecting

abbrev ManifestWrites := Except (Refusal ManifestError) (Db × ManifestRun)

/-- The runs after a start has expired the one it supersedes. -/
def supersededRuns (runs : List ManifestRun) : Option ManifestRun → List ManifestRun
  | none => runs
  | some run => expireRun runs run.manifestRunId

/-- The writes of `_start_once`: the superseded run expires, and the fresh run is inserted
unless a concurrent start holds the unfinished slot, which is then resumed. -/
def startWrites (command : StartManifestCommand) (superseded : Option ManifestRun)
    (revision acknowledged checkpoint : Nat) (db : Db) : ManifestWrites :=
  let runs := supersededRuns db.manifestRuns superseded
  match Db.unfinishedRun { db with manifestRuns := runs } command.context with
  | some winner =>
    if winner.clientObservationGeneration ≠ command.clientObservationGeneration then
      .error (.rejected .stateInvalid)
    else .ok ({ db with manifestRuns := runs }, winner)
  | none =>
    if runs.any fun r => r.manifestRunId = command.runId then .error .constraint
    else
      let run := startedRun command revision acknowledged checkpoint
      .ok ({ db with manifestRuns := runs ++ [run] }, run)

/-! ## The transactions -/

/-- Commit without a guard and go on. -/
def commitThen (writes : Db → Db) (next : StoreProgram) : StoreProgram :=
  .finish (fun db => some (writes db)) (fun _ => next) (fun _ => .halt)

/-- A failure mark, under the row's lock, that outlives the rejection it belongs to. -/
def markRunThen (mark : List ManifestRun → ManifestRunId → List ManifestRun)
    (runId : ManifestRunId) (next : StoreProgram) : StoreProgram :=
  .lock (.manifestRunRow runId) <|
  commitThen (fun db => { db with manifestRuns := mark db.manifestRuns runId }) next

/-- `DeviceSyncDatabaseRetryPolicy.run`. -/
def deviceSyncRetry (attempt : (Failure → StoreProgram) → StoreProgram)
    (dependencyUnavailable internalError : StoreProgram) : Nat → StoreProgram
  | 0 => .halt
  | remaining + 1 => attempt fun failure =>
    match failure with
    | .contention =>
      if remaining = 0 then dependencyUnavailable
      else deviceSyncRetry attempt dependencyUnavailable internalError remaining
    | .unavailable => dependencyUnavailable
    | .unclassified => internalError

/-- `_start_once`: no lock but that of a superseded run's row. -/
def startOnce (command : StartManifestCommand) (observed : ManifestObservation)
    (onFailure : Failure → StoreProgram) : StoreProgram :=
  let answer (result : Except ManifestError ManifestRun) : StoreProgram := .done (.manifest result)
  let start (superseded : Option ManifestRun) : StoreProgram :=
    match observed.activePolicyRevision with
    | none => .rollback (answer (.error .policyAdvanced))
    | some revision => .read fun db =>
      let acknowledged := db.acknowledgedSequence command.context
      .read fun db =>
      let checkpoint := (db.eventCheckpoint command.context.workspaceId).getD acknowledged
      .commitOrAbort (startWrites command superseded revision acknowledged checkpoint)
        (fun run => answer (.ok run))
        (fun refusal =>
          match refusal with
          | .constraint => answer (.error .internalError)
          | .rejected error => answer (.error error))
  .begin false onFailure <| .read fun db =>
  match db.unfinishedRun command.context with
  | none => start none
  | some run =>
    if !observed.deadlinePassed ∧
        run.clientObservationGeneration = command.clientObservationGeneration then
      .rollback (answer (.ok run))
    else .lock (.manifestRunRow run.manifestRunId) <| start (some run)

/-- `_lock_run`. -/
def withLockedRun (context : DeviceSyncContext) (runId : ManifestRunId)
    (raise : ManifestError → StoreProgram) (onFailure : Failure → StoreProgram)
    (next : ManifestRun → StoreProgram) : StoreProgram :=
  .begin false onFailure <|
  .selectForUpdate (fun db => db.manifestRun context runId)
    (fun r => .manifestRunRow r.manifestRunId) (.rollback (raise .notFound)) next

def rejectExpiredRun (observed : ManifestObservation) (run : ManifestRun)
    (raise : ManifestError → StoreProgram) (next : StoreProgram) : StoreProgram :=
  if run.state.unfinished ∧ observed.deadlinePassed then
    markRunThen expireRun run.manifestRunId (raise .expired)
  else next

def rejectPolicyStaleRun (observed : ManifestObservation) (run : ManifestRun)
    (raise : ManifestError → StoreProgram) (next : StoreProgram) : StoreProgram :=
  match observed.activePolicyRevision with
  | none => .rollback (raise .policyAdvanced)
  | some active =>
    if active ≠ run.policyRevisionNumber then
      markRunThen failRun run.manifestRunId (raise .policyAdvanced)
    else next

def maxManifestRunEntries : Nat := 100000

/-- The policy verdicts of the revision a run is bound to. -/
def Environment.runPolicy (env : Environment) (run : ManifestRun) : ManifestSubject → Bool :=
  env.manifestPolicy run.policyRevisionNumber

def acceptedRun (command : AppendManifestPageCommand) (resolutions : List EntryResolutionRow)
    (run r : ManifestRun) : ManifestRun :=
  { r with
    nextPageNumber := command.pageNumber + 1
    entryCount := run.entryCount + command.entries.length
    pages := r.pages ++ [command.page]
    resolutions := r.resolutions ++ resolutions }

def acceptPage (env : Environment) (command : AppendManifestPageCommand)
    (observed : ManifestObservation) (run : ManifestRun) : StoreProgram :=
  let answer (result : Except ManifestError ManifestPageReceipt) : StoreProgram :=
    .done (.page result)
  let receipt (next : Nat) : ManifestPageReceipt :=
    ⟨command.manifestRunId, command.pageNumber, command.entries.length, next⟩
  let workspaceId := command.context.workspaceId
  let locators := command.entries.map ManifestEntry.normalizedLocator
  if run.nextPageNumber < command.pageNumber then .rollback (answer (.error .pageInvalid))
  else if command.pageNumber < run.nextPageNumber then
    if command.page ∈ run.pages then .rollback (answer (.ok (receipt run.nextPageNumber)))
    else markRunThen failRun run.manifestRunId (answer (.error .pageReplayMismatch))
  else if maxManifestRunEntries < run.entryCount + command.entries.length then
    .rollback (answer (.error .pageInvalid))
  else if !observed.boundRevisionFound then .rollback (answer (.error .policyAdvanced))
  else .read fun db =>
    let rows := db.locatorCandidates workspaceId run.checkpointSequence locators
    .read fun db =>
    let tombstones := db.tombstoneCandidates workspaceId run.checkpointSequence locators
    .read fun db =>
    let states := db.canonicalStates workspaceId run.checkpointSequence
      (rows.map SourceLocator.sourceId ++ tombstones.map (·.tombstone.sourceId))
    match resolvePageEntries (env.runPolicy run) workspaceId run.checkpointSequence
        ⟨rows, tombstones, states⟩ command.entries with
    | .error error => .rollback (answer (.error error))
    | .ok resolutions =>
      commitThen
        (fun db => { db with
          manifestRuns := updateRun db.manifestRuns run.manifestRunId (fun _ => true)
            (acceptedRun command resolutions run) })
        (answer (.ok (receipt (command.pageNumber + 1))))

def appendOnce (env : Environment) (command : AppendManifestPageCommand)
    (observed : ManifestObservation) (onFailure : Failure → StoreProgram) : StoreProgram :=
  let raise (error : ManifestError) : StoreProgram := .done (.page (.error error))
  withLockedRun command.context command.manifestRunId raise onFailure fun run =>
  if run.state = .expired then .rollback (raise .expired)
  else rejectExpiredRun observed run raise <|
  if run.state ≠ .collecting then .rollback (raise .stateInvalid)
  else rejectPolicyStaleRun observed run raise <| acceptPage env command observed run

def plannedReplayOrReject (command : FinalizeManifestCommand) (run : ManifestRun) :
    Except ManifestError ManifestRun :=
  if command.totalEntryCount = run.entryCount ∧ run.finalDigest = some command.finalDigest then
    .ok run
  else .error .digestMismatch

/-- The insert of the planned actions and `manifest_run_planned_statement`. -/
def planRun (runs : List ManifestRun) (runId : ManifestRunId) (finalDigest : String)
    (actions : List ManifestAction) : List ManifestRun :=
  updateRun runs runId (fun state => state = .collecting) fun r =>
    { r with state := .planned, finalDigest := some finalDigest, actions := actions }

def finalizeOnce (env : Environment) (command : FinalizeManifestCommand)
    (observed : ManifestObservation) (onFailure : Failure → StoreProgram) : StoreProgram :=
  let answer (result : Except ManifestError ManifestRun) : StoreProgram := .done (.manifest result)
  let raise (error : ManifestError) : StoreProgram := answer (.error error)
  withLockedRun command.context command.manifestRunId raise onFailure fun run =>
  if run.state = .planned ∨ run.state = .applying then
    rejectExpiredRun observed run raise <|
    .rollback (answer (plannedReplayOrReject command run))
  else if run.state = .expired then .rollback (raise .expired)
  else if run.state ≠ .collecting then .rollback (raise .stateInvalid)
  else rejectExpiredRun observed run raise <|
  if command.totalEntryCount ≠ run.entryCount ∨
      env.manifestFinalDigest run.pages ≠ command.finalDigest then
    markRunThen failRun run.manifestRunId (raise .digestMismatch)
  else if !observed.boundRevisionFound then .rollback (raise .policyAdvanced)
  else .read fun db =>
    let states := db.canonicalStates run.workspaceId run.checkpointSequence run.resolvedSourceIds
    .read fun db =>
    let bases := db.knownBases run.workspaceId run.knownVersionIds
    .read fun db =>
    let downloads := db.canonicalOnlyDownloads run.workspaceId run.checkpointSequence
      run.resolvedSourceIds
    let actions := planActions (env.runPolicy run) run ⟨states, bases, downloads⟩
    commitThen
      (fun db => { db with
        manifestRuns := planRun db.manifestRuns run.manifestRunId command.finalDigest actions })
      (answer (.ok { run with
        state := .planned, finalDigest := some command.finalDigest, actions := actions }))

/-- `manifest_run_applying_transition_statement`. -/
def applyRun (runs : List ManifestRun) (runId : ManifestRunId) : List ManifestRun :=
  updateRun runs runId (fun state => state = .planned) fun r => { r with state := .applying }

/-- `_hydrate_checkpoint_locator`: only a download names the locator row it is placed at. -/
def deliverAction (db : Db) (workspaceId : WorkspaceId) (action : ManifestAction) :
    Except ManifestError DeliveredAction :=
  if action.actionKind = .download then
    match db.locators.find? fun l =>
        l.workspaceId = workspaceId ∧ some l.sourceLocatorId = action.sourceLocatorId with
    | some l => .ok ⟨action, some l.normalizedLocator⟩
    | none => .error .stateInvalid
  else .ok ⟨action, none⟩

/-- `manifest_action_page_statement` and the page built of its rows. -/
def actionPage (db : Db) (query : ManifestActionsQuery) (run : ManifestRun) :
    Except ManifestError ManifestActionPage := do
  let rows := (run.actions.filter fun action =>
    query.afterActionIndex ≤ action.actionIndex).take (query.limit + 1)
  let actions ← (rows.take query.limit).mapM (deliverAction db query.context.workspaceId)
  return ⟨query.manifestRunId, actions, query.limit < rows.length⟩

/-- `_read_actions_once`: the run is read without a lock, its actions once more at the end. -/
def readActionsOnce (query : ManifestActionsQuery) (observed : ManifestObservation)
    (onFailure : Failure → StoreProgram) : StoreProgram :=
  let answer (result : Except ManifestError ManifestActionPage) : StoreProgram :=
    .done (.actions result)
  let raise (error : ManifestError) : StoreProgram := answer (.error error)
  let page (next : ManifestActionPage → StoreProgram) : StoreProgram := .read fun db =>
    match db.manifestRun query.context query.manifestRunId with
    | none => .rollback (raise .notFound)
    | some run =>
      match actionPage db query run with
      | .error error => .rollback (raise error)
      | .ok page => next page
  .begin false onFailure <| .read fun db =>
  match db.manifestRun query.context query.manifestRunId with
  | none => .rollback (raise .notFound)
  | some run =>
    match run.state with
    | .collecting =>
      rejectExpiredRun observed run raise <| rejectPolicyStaleRun observed run raise <|
      .rollback (raise .stateInvalid)
    | .planned | .applying =>
      rejectExpiredRun observed run raise <| rejectPolicyStaleRun observed run raise <|
      .lock (.manifestRunRow run.manifestRunId) <|
      page fun page => commitThen
        (fun db => { db with manifestRuns := applyRun db.manifestRuns run.manifestRunId })
        (answer (.ok page))
    | .expired => .rollback (raise .expired)
    | .failed => .rollback (raise .stateInvalid)
    | .completed => page fun page => .rollback (answer (.ok page))

def completionReceipt (context : DeviceSyncContext) (checkpoint : Nat) (db : Db) :
    Except ManifestError DeviceCursorReceipt :=
  match db.cursor context with
  | none => .error .stateInvalid
  | some cursor =>
    .ok ⟨cursor.acknowledgedSequence, max cursor.deliveredThroughSequence checkpoint⟩

/-- `manifest_run_completion_transition_statement`. -/
def completeRun (runs : List ManifestRun) (runId : ManifestRunId) :
    Except (Refusal ManifestError) (List ManifestRun) :=
  guardedUpdate runs (fun r => r.manifestRunId = runId ∧ r.state = .applying)
    (fun r => { r with state := .completed }) .stateInvalid

/-- The writes of `_complete_once`: the completion fence and the cursor advance behind it. -/
def completionWrites (context : DeviceSyncContext) (run : ManifestRun) (db : Db) :
    Except (Refusal ManifestError) (Db × DeviceCursorReceipt) := do
  let manifestRuns ← completeRun db.manifestRuns run.manifestRunId
  let cursors := advanceCursor db.cursors context run.checkpointSequence
  let db := { db with manifestRuns, cursors }
  match completionReceipt context run.checkpointSequence db with
  | .error error => throw (.rejected error)
  | .ok receipt => return (db, receipt)

def completeOnce (command : CompleteManifestCommand) (observed : ManifestObservation)
    (onFailure : Failure → StoreProgram) : StoreProgram :=
  let answer (result : Except ManifestError DeviceCursorReceipt) : StoreProgram :=
    .done (.completion result)
  let raise (error : ManifestError) : StoreProgram := answer (.error error)
  withLockedRun command.context command.manifestRunId raise onFailure fun run =>
  if run.state = .completed then
    if run.finalDigest ≠ some command.finalDigest then .rollback (raise .digestMismatch)
    else .read fun db =>
      .rollback (answer (completionReceipt command.context run.checkpointSequence db))
  else if run.state = .failed then .rollback (raise .stateInvalid)
  else if run.state = .expired then .rollback (raise .expired)
  else rejectExpiredRun observed run raise <|
  if run.state ≠ .applying then .rollback (raise .stateInvalid)
  else rejectPolicyStaleRun observed run raise <|
  if run.finalDigest ≠ some command.finalDigest then .rollback (raise .digestMismatch)
  else .lock (.deviceCursorRow command.context.workspaceId command.context.deviceId) <|
    .commitOrAbort (completionWrites command.context run)
      (fun receipt => answer (.ok receipt))
      (fun refusal =>
        match refusal with
        | .constraint => raise .internalError
        | .rejected error => raise error)

/-- The manifest store's entries, each behind the retry policy. -/
def manifestProgram (env : Environment) (call : ManifestCall) : StoreProgram :=
  let observed := call.observed
  match call.command with
  | .start command =>
    deviceSyncRetry (startOnce command observed) (.done (.manifest (.error .dependencyUnavailable)))
      (.done (.manifest (.error .internalError))) maximumAttempts
  | .append command =>
    deviceSyncRetry (appendOnce env command observed)
      (.done (.page (.error .dependencyUnavailable))) (.done (.page (.error .internalError)))
      maximumAttempts
  | .finalize command =>
    deviceSyncRetry (finalizeOnce env command observed)
      (.done (.manifest (.error .dependencyUnavailable)))
      (.done (.manifest (.error .internalError))) maximumAttempts
  | .readActions query =>
    deviceSyncRetry (readActionsOnce query observed)
      (.done (.actions (.error .dependencyUnavailable))) (.done (.actions (.error .internalError)))
      maximumAttempts
  | .complete command =>
    deviceSyncRetry (completeOnce command observed)
      (.done (.completion (.error .dependencyUnavailable)))
      (.done (.completion (.error .internalError))) maximumAttempts

end PersonalOs.SourceStore
