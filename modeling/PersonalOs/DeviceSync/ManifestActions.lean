import PersonalOs.Basis.EarlyReturns
import PersonalOs.DeviceSync.ReconciliationTables
import PersonalOs.SourceStore.Manifest

/-!
# The action pass of a reconciliation

The end of `runOne` in the plugin's manifest reconciler: the durable progress is read, the frozen
actions of the planned run are listed page by page and applied one by one, and the run is
completed. The ports it drives (journal, applier, downloader, wire) are parameters that may answer
anything, may fail at any call and may let other lanes call the repository meanwhile.
-/

namespace PersonalOs.DeviceSync

open SourceStore (ManifestEntry ManifestRunId ManifestError)

/-! ## Verdicts -/

/-- `DEVICE_SYNC_RECONCILE_STAGES`. -/
inductive ReconcileFailureStage
  | start
  | page
  | finalize
  | actions
  | complete
deriving DecidableEq

/-- What `closedFailureOf` makes of a thrown value. -/
structure ClosedFailure where
  reason : DeviceSyncReason
  retryable : Bool
deriving DecidableEq

/-- `RunStep`; the stage and reason of a stale checkpoint are constants. -/
inductive RunStep
  | completed (checkpointSequence : Nat)
  | retry (reason : DeviceSyncReason)
  | blocked (reason : DeviceSyncReason)
  | restartRun (stage : ReconcileFailureStage) (reason : DeviceSyncReason)
  | staleCheckpoint
deriving DecidableEq

def runRestartReasons : List DeviceSyncReason :=
  [.deviceManifestExpired, .deviceManifestPolicyAdvanced, .deviceManifestDigestMismatch]

/-! ## Actions on the wire -/

/-- One action as the plugin receives it. -/
structure ManifestAction where
  actionIndex : Nat
  actionKind : ManifestActionKind
  localEntryId : Option String
  sourceId : Option Nat
  sourceVersionId : Option Nat
  sourceTombstoneId : Option Nat
  reason : Option DeviceSyncReason
  checkpointLocator : Option Locator
deriving DecidableEq

def parseManifestActionKind : SourceStore.ManifestActionKind → ManifestActionKind
  | .noChange => .noChange
  | .upload => .upload
  | .download => .download
  | .applyTombstone => .applyTombstone
  | .excluded => .excluded
  | .conflict => .conflict

def parseManifestActionReason : SourceStore.ManifestActionReason → DeviceSyncReason
  | .identityAmbiguous => .deviceManifestIdentityAmbiguous
  | .localDiverged => .deviceManifestLocalDiverged
  | .policyExcluded => .deviceManifestPolicyExcluded

/-- `parseManifestAction` of a delivered action. -/
def parseManifestAction (delivered : SourceStore.DeliveredAction) : ManifestAction where
  actionIndex := delivered.action.actionIndex
  actionKind := parseManifestActionKind delivered.action.actionKind
  localEntryId := delivered.action.localEntryId
  sourceId := delivered.action.sourceId
  sourceVersionId := delivered.action.sourceVersionId
  sourceTombstoneId := delivered.action.sourceTombstoneId
  reason := delivered.action.reason.map parseManifestActionReason
  checkpointLocator := delivered.checkpointLocator

/-! ## Ports -/

inductive ManifestRepairActionKind
  | download
  | applyTombstone
  | upload
deriving DecidableEq

structure RepairActionRecheckInput where
  normalizedLocator : Locator
  entryFingerprint : Fingerprint
  actionKind : ManifestRepairActionKind
deriving DecidableEq

inductive RepairActionRecheckOutcome
  | safe
  | blocked (reason : DeviceSyncReason)
deriving DecidableEq

inductive RepairUploadAdmission
  | recorded
  | alreadyCurrent
  | refused
deriving DecidableEq

structure VerifiedDownload where
  declaredSha256 : String
  sizeBytes : Nat
  mediaType : String
deriving DecidableEq

/-- The calls that leave the progress of the manifest run alone: all but the reconciler's own. -/
def RepositoryCall.keepsProgress : RepositoryCall → Bool
  | .recordManifestPage _ | .recordManifestAction _ => false
  | .completeRepair _ | .discardActiveManifestRun => false
  | _ => true

/-- A repository call the applier or another lane may make while the pass waits. -/
abbrev LaneCall := { call : RepositoryCall // call.keepsProgress }

/-- What a port hands back: its answer, the repository calls made meanwhile, and its own next
state. -/
structure PortAnswer (W α : Type) where
  answer : Except ClosedFailure α
  calls : List LaneCall
  world : W

abbrev Port (W α : Type) := DeviceSyncRepository → W → PortAnswer W α

structure PlannedRun where
  context : SourceStore.DeviceSyncContext
  manifestRunId : ManifestRunId
  actions : List SourceStore.ManifestAction
  indexed : actions.map SourceStore.ManifestAction.actionIndex = List.range actions.length

/-- A database a request may be served from: the run stands there with its plan. -/
structure Served (run : PlannedRun) where
  db : SourceStore.Db
  row : SourceStore.ManifestRun
  found : db.manifestRun run.context run.manifestRunId = some row
  frozen : row.actions = run.actions

/-- The injected ports. `store` is asked before each repository mutation (a fault rolls the
mutation back) and `read` before each read; a listing is lost, or refused by the server, or
served; `rejection` is what the client makes of an error of the served read. -/
structure ReconcilerPorts (run : PlannedRun) (W : Type) where
  store : Port W Unit
  read : Port W Unit
  recheckManifestActionTarget : RepairActionRecheckInput → Port W RepairActionRecheckOutcome
  admitRepairUpload : Locator → Port W RepairUploadAdmission
  downloader : Nat → Nat → Port W VerifiedDownload
  apply : DeviceSyncEvent → Option VerifiedDownload → Port W TerminalDeviceEvent
  settleVaultFailedApply : DeviceSyncEvent → DeviceSyncReason → Port W TerminalDeviceEvent
  deterministicActionEventId : Nat → Nat → Except ClosedFailure Nat
  listManifestActions : Option Nat → Nat → Port W (Served run)
  rejection : ManifestError → ClosedFailure
  completeManifest : String → Port W Nat

/-! ## The state of a pass -/

/-- What an observer of the pass sees: a request for a page, an action begun, and the completion
with the progress rows at that moment. -/
inductive PassEvent
  | listed (afterActionIndex : Option Nat)
  | executed (actionIndex : Nat)
  | completeSent (progress : List LocalManifestActionProgress)
deriving DecidableEq

structure PassState (W : Type) where
  repository : DeviceSyncRepository
  world : W
  terminalActionIndexes : List Nat
  attemptedActionIndexes : List Nat
  observations : List (ReconcileFailureStage × DeviceSyncReason)
  events : List PassEvent

abbrev Body (W α : Type) := EarlyReturn RunStep (PassState W) α

structure ActionPass (run : PlannedRun) (W : Type) where
  ports : ReconcilerPorts run W
  world : W
  actionPageLimit : Nat
  checkpointSequence : Nat
  finalDigest : String
  barrierGeneration : Nat
  isRetryAttempt : Bool
  entriesByLocalId : String → Option ManifestEntry

section Plumbing

variable {W α : Type}

def log (event : PassEvent) : Body W Unit :=
  modify fun s => { s with events := s.events ++ [event] }

/-- One closed observation on the diagnostics trail. -/
def observe (stage : ReconcileFailureStage) (reason : DeviceSyncReason) : Body W Unit :=
  modify fun s => { s with observations := s.observations ++ [(stage, reason)] }

def runFailure (stage : ReconcileFailureStage) (failure : ClosedFailure) : Body W α := do
  observe stage failure.reason
  throw <|
    if failure.reason ∈ runRestartReasons then .restartRun stage failure.reason
    else if failure.retryable then .retry failure.reason
    else .blocked failure.reason

def blocked (stage : ReconcileFailureStage) (reason : DeviceSyncReason) : Body W α := do
  observe stage reason
  throw (.blocked reason)

/-- `try` a call, or return the run failure of what it threw. -/
def orFail (stage : ReconcileFailureStage) : Except ClosedFailure α → Body W α
  | .ok a => pure a
  | .error failure => runFailure stage failure

def afterLanes (repo : DeviceSyncRepository) (calls : List LaneCall) : DeviceSyncRepository :=
  calls.foldl (fun repo call => (repo.call call).repository) repo

def ask (port : Port W α) : Body W (Except ClosedFailure α) :=
  modifyGet fun s =>
    let reply := port s.repository s.world
    (reply.answer,
      { s with repository := afterLanes s.repository reply.calls, world := reply.world })

/-- One mutation of the durable repository; a rejected one is thrown as `journal_mutation_failed`. -/
def mutate (store : Port W Unit) (call : RepositoryCall) : Body W (Except ClosedFailure Unit) := do
  match ← ask store with
  | .error fault => return .error fault
  | .ok () => modifyGet fun s =>
    let outcome := s.repository.call call
    (match outcome.rejection with
      | none => .ok ()
      | some _ => .error ⟨.journalMutationFailed, false⟩,
      { s with repository := outcome.repository })

def readState (read : Port W Unit) : Body W (Except ClosedFailure DeviceSyncState) := do
  match ← ask read with
  | .error fault => return .error fault
  | .ok () => return .ok (← get).repository.state

end Plumbing

/-! ## One action -/

section Actions

variable {run : PlannedRun} {W : Type} (pass : ActionPass run W) (action : ManifestAction)

def terminal (reason : Option DeviceSyncReason) : Body W Unit := do
  orFail .actions (← mutate pass.ports.store (.recordManifestAction
    { manifestRunId := run.manifestRunId
      actionIndex := action.actionIndex
      actionKind := action.actionKind
      outcome := .terminalSafe
      reason }))
  match reason with
  | some reason => observe .actions reason
  | none => pure ()
  modify fun s => { s with
    terminalActionIndexes := action.actionIndex :: s.terminalActionIndexes }

/-- The end of `applySyntheticEvent`: only a conflict keeps its reason on the row. -/
def settleSyntheticEvent (settled : TerminalDeviceEvent) : Body W Unit :=
  terminal pass action (if settled.outcome = .conflict then settled.reason else none)

def applySyntheticEvent (event : DeviceSyncEvent) (verified : Option VerifiedDownload) :
    Body W Unit := do
  match ← ask (pass.ports.apply event verified) with
  | .ok settled => settleSyntheticEvent pass action settled
  | .error failure =>
    -- The second refusal of the Vault settles the action; the first fails the run.
    if failure.reason = .deviceApplyVaultFailed ∧
        action.actionIndex ∈ (← get).attemptedActionIndexes then
      let settled ← orFail .actions
        (← ask (pass.ports.settleVaultFailedApply event failure.reason))
      settleSyntheticEvent pass action settled
    else runFailure .actions failure

def tombstoneEvent (eventId eventSequence sourceId : Nat) (entry : ManifestEntry) :
    DeviceSyncEvent where
  eventId
  eventSequence
  operation := .deleted
  sourceId
  originDeviceId := none
  baseVersionId := none
  currentVersionId := none
  baseFingerprint := some entry.fingerprint
  currentFingerprint := none
  priorLocator := some entry.normalizedLocator
  resultingLocator := none
  tombstoneId := action.sourceTombstoneId

/-- The synthetic update of a known entry, or the synthetic create of a canonical-only download. -/
def downloadEvent (eventId eventSequence sourceId sourceVersionId : Nat)
    (entry : Option ManifestEntry) (canonicalOnlyLocator : Option Locator)
    (verified : VerifiedDownload) : DeviceSyncEvent where
  eventId
  eventSequence
  operation := if entry.isSome then .updated else .created
  sourceId
  originDeviceId := none
  baseVersionId := entry.bind ManifestEntry.knownVersionId
  currentVersionId := some sourceVersionId
  baseFingerprint := entry.map ManifestEntry.fingerprint
  currentFingerprint :=
    some ⟨verified.declaredSha256, verified.sizeBytes, verified.mediaType⟩
  priorLocator := none
  resultingLocator := match entry with
    | some entry => some entry.normalizedLocator
    | none => canonicalOnlyLocator
  tombstoneId := none

/-- The gap becomes the reason of the barrier, if there is one. -/
def persistCursorGap (state : DeviceSyncState) : Body W Unit := do
  if state.barrierReason ≠ none ∧ state.barrierReason ≠ some .deviceCursorGap then
    orFail .actions
      (← mutate pass.ports.store (.persistRepairBarrierReason .deviceCursorGap))

/-- The synthetic event would pass the run checkpoint. -/
def refuseBeyondCheckpoint (state : DeviceSyncState) : Body W Unit := do
  persistCursorGap pass state
  if pass.isRetryAttempt ∧ pass.checkpointSequence ≤ state.appliedSequence then
    terminal pass action (some .deviceCursorGap)
  else if state.barrierReason ≠ some .deviceCursorGap then
    blocked .actions .deviceCursorGap
  else
    observe .actions .deviceCursorGap
    throw .staleCheckpoint

/-- A download or a tombstone, through the applier. -/
def applyPlacement (entry : Option ManifestEntry) (canonicalOnlyLocator : Option Locator) :
    Body W Unit := do
  match action.sourceId with
  | none => terminal pass action (some .deviceManifestIdentityAmbiguous)
  | some sourceId =>
    let state ← orFail .actions (← readState pass.ports.read)
    let eventSequence := state.appliedSequence + 1
    if pass.checkpointSequence < eventSequence then refuseBeyondCheckpoint pass action state
    else
      let eventId ← orFail .actions
        (pass.ports.deterministicActionEventId run.manifestRunId action.actionIndex)
      if action.actionKind = .applyTombstone then
        match entry with
        | none => terminal pass action (some .deviceManifestIdentityAmbiguous)
        | some entry =>
          applySyntheticEvent pass action
            (tombstoneEvent action eventId eventSequence sourceId entry) none
      else
        match action.sourceVersionId with
        | none => terminal pass action (some .deviceManifestIdentityAmbiguous)
        | some sourceVersionId =>
          let verified ← orFail .actions (← ask (pass.ports.downloader sourceId sourceVersionId))
          applySyntheticEvent pass action
            (downloadEvent eventId eventSequence sourceId sourceVersionId entry
              canonicalOnlyLocator verified)
            (some verified)

/-- An action of a proven entry: recheck the target first, then upload or place. -/
def applyToEntry (entry : ManifestEntry) : Body W Unit := do
  let recheck ← orFail .actions (← ask (pass.ports.recheckManifestActionTarget
    { normalizedLocator := entry.normalizedLocator
      entryFingerprint := entry.fingerprint
      actionKind :=
        if action.actionKind = .upload then .upload
        else if action.actionKind = .applyTombstone then .applyTombstone
        else .download }))
  match recheck with
  | .blocked reason => terminal pass action (some reason)
  | .safe =>
    if action.actionKind = .upload then
      match ← orFail .actions (← ask (pass.ports.admitRepairUpload entry.normalizedLocator)) with
      | .refused => blocked .actions .journalMutationFailed
      | .recorded | .alreadyCurrent => terminal pass action none
    else applyPlacement pass action (some entry) none

/-- The body of an action behind its `received` row. -/
def executeAction : Body W Unit :=
  if action.actionKind = .conflict ∨ action.actionKind = .noChange ∨
      action.actionKind = .excluded then
    terminal pass action action.reason
  else
    match action.localEntryId.bind pass.entriesByLocalId with
    | some entry => applyToEntry pass action entry
    | none =>
      -- Only a download may place through the locator of the wire.
      match if action.actionKind = .download then action.checkpointLocator else none with
      | some locator => applyPlacement pass action none (some locator)
      | none =>
        terminal pass action <|
          if action.actionKind = .download then some .deviceManifestStateInvalid
          else some .deviceManifestIdentityAmbiguous

def applyAction : Body W Unit := do
  if action.actionIndex ∈ (← get).terminalActionIndexes then pure ()
  else
    log (.executed action.actionIndex)
    orFail .actions (← mutate pass.ports.store (.recordManifestAction
      { manifestRunId := run.manifestRunId
        actionIndex := action.actionIndex
        actionKind := action.actionKind
        outcome := .received
        reason := action.reason }))
    executeAction pass action

/-- The actions of one page in order; the first that does not settle ends the pass. -/
def applyActions : List ManifestAction → PassState W → PassState W × Option (Nat × RunStep)
  | [], s => (s, none)
  | action :: rest, s =>
    match (applyAction pass action).runFrom s with
    | (.ok _, t) => applyActions rest t
    | (.error step, t) => (t, some (action.actionIndex, step))

end Actions

/-! ## The paging loop -/

/-- Where the loop stands: about to ask for the page after an index, at its end, or returned with
a step, of a request or of an action. -/
inductive Paging
  | listing (afterActionIndex : Option Nat)
  | ended
  | refused (step : RunStep)
  | failed (actionIndex : Nat) (step : RunStep)
deriving DecidableEq

section Loop

variable {run : PlannedRun} {W : Type} (pass : ActionPass run W)

/-- The route's query: an absent cursor is 0. -/
def actionsQuery (run : PlannedRun) (afterActionIndex : Option Nat) (limit : Nat) :
    SourceStore.ManifestActionsQuery where
  context := run.context
  manifestRunId := run.manifestRunId
  afterActionIndex := afterActionIndex.getD 0
  limit

/-- `api.listManifestActions` and the check of the run the page names. -/
def listManifestActions (afterActionIndex : Option Nat) :
    Body W SourceStore.ManifestActionPage := do
  log (.listed afterActionIndex)
  let served ← orFail .actions
    (← ask (pass.ports.listManifestActions afterActionIndex pass.actionPageLimit))
  let page ← orFail .actions <|
    (SourceStore.actionPage served.db
      (actionsQuery run afterActionIndex pass.actionPageLimit) served.row).mapError
        pass.ports.rejection
  if page.manifestRunId = run.manifestRunId then pure page
  else blocked .actions .deviceManifestStateInvalid

/-- One turn of the loop. -/
def nextRequest : PassState W × Paging → PassState W × Paging
  | (s, .listing afterActionIndex) =>
    match (listManifestActions pass afterActionIndex).runFrom s with
    | (.error step, t) => (t, .refused step)
    | (.ok page, t) =>
      match (page.actions.map parseManifestAction).getLast? with
      | none => (t, .ended)
      | some last =>
        match applyActions pass (page.actions.map parseManifestAction) t with
        | (u, some (actionIndex, step)) => (u, .failed actionIndex step)
        | (u, none) => (u, if page.hasMore then .listing (some last.actionIndex) else .ended)
  | (s, paging) => (s, paging)

/-- The recorded progress of the bound run. -/
def DeviceSyncRepository.readManifestActionProgress (repo : DeviceSyncRepository) :
    List LocalManifestActionProgress :=
  match repo.state.activeManifestRunId with
  | none => []
  | some run => repo.manifestActions.filter fun progress => progress.manifestRunId == run

/-- The indices whose progress has one outcome. -/
def DeviceSyncRepository.indexesOf (repo : DeviceSyncRepository)
    (outcome : ManifestActionProgressOutcome) : List Nat :=
  (repo.readManifestActionProgress.filter fun progress => progress.outcome == outcome).map
    (·.actionIndex)

/-- The pass when the loop is entered. -/
def ActionPass.start (repo : DeviceSyncRepository) : PassState W where
  repository := repo
  world := pass.world
  terminalActionIndexes := repo.indexesOf .terminalSafe
  attemptedActionIndexes := repo.indexesOf .received
  observations := []
  events := []

def ActionPass.requests (repo : DeviceSyncRepository) (count : Nat) : PassState W × Paging :=
  (nextRequest pass)^[count] (pass.start repo, .listing none)

/-! ## Behind the loop -/

def completeManifest : Body W Nat := do
  log (.completeSent (← get).repository.manifestActions)
  orFail .complete (← ask (pass.ports.completeManifest pass.finalDigest))

/-- The server completion, then the local one: its two transactions one after the other. -/
def completeRun : Body W RunStep := do
  let acknowledgedSequence ← completeManifest pass
  if acknowledgedSequence < pass.checkpointSequence then
    blocked .complete .deviceManifestStateInvalid
  else
    orFail .complete (← mutate pass.ports.store (.completeRepair
      ⟨run.manifestRunId, pass.checkpointSequence, pass.barrierGeneration⟩))
    orFail .complete (← mutate pass.ports.store .retireEchoMarkers)
    return .completed pass.checkpointSequence

/-- The local binding goes first; then the server closes the run at its own checkpoint. -/
def closeStaleCheckpoint : Body W RunStep := do
  orFail .actions (← mutate pass.ports.store .discardActiveManifestRun)
  let acknowledgedSequence ← completeManifest pass
  if acknowledgedSequence < pass.checkpointSequence then
    blocked .complete .deviceManifestStateInvalid
  else return .restartRun .actions .deviceCursorGap

def settleStep (body : Body W RunStep) (s : PassState W) : RunStep × PassState W :=
  match body.runFrom s with
  | (.ok step, t) => (step, t)
  | (.error step, t) => (step, t)

/-- The end of `runOne` once the loop has returned. -/
def finishRun : PassState W × Paging → Option (RunStep × PassState W)
  | (_, .listing _) => none
  | (s, .ended) => some (settleStep (completeRun pass) s)
  | (s, .refused step) => some (step, s)
  | (s, .failed _ .staleCheckpoint) => some (settleStep (closeStaleCheckpoint pass) s)
  | (s, .failed _ step) => some (step, s)

end Loop

end PersonalOs.DeviceSync
