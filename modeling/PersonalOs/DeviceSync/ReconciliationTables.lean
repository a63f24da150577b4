import PersonalOs.Basis.Machine
import PersonalOs.DeviceSync.Repository

/-!
# All tables of the reconciliation repository

The whole `DeviceSyncRepository`: the cursors, the apply lattice and the echo markers of the
base repository, the fields that bind one manifest run, and the page and action progress of that
run. A call hands back the repository it leaves and how it was rejected, because a blocked call
commits the writes it made before its blocker together with the barrier reason.
-/

namespace PersonalOs.DeviceSync

/-- `MANIFEST_ACTION_KINDS`. -/
inductive ManifestActionKind
  | upload
  | download
  | applyTombstone
  | conflict
  | noChange
  | excluded
deriving DecidableEq

/-- `MANIFEST_ACTION_PROGRESS_OUTCOMES`. -/
inductive ManifestActionProgressOutcome
  | received
  | terminalSafe
deriving DecidableEq

/-- The operand of `recordManifestPage`. -/
structure LocalManifestPageReceipt where
  manifestRunId : Nat
  pageNumber : Nat
  entryCount : Nat
  pageDigest : String
  checkpointSequence : Nat
  finalDigest : Option String
deriving DecidableEq

/-- One `manifest_page_progress` row. -/
structure ManifestPageProgress where
  manifestRunId : Nat
  pageNumber : Nat
  entryCount : Nat
  pageDigest : String
deriving DecidableEq

/-- The operand of `recordManifestAction`, and one `manifest_action_progress` row. -/
structure LocalManifestActionProgress where
  manifestRunId : Nat
  actionIndex : Nat
  actionKind : ManifestActionKind
  outcome : ManifestActionProgressOutcome
  reason : Option DeviceSyncReason
deriving DecidableEq

/-- The operand of `completeRepair`. -/
structure CompleteLocalRepair where
  manifestRunId : Nat
  checkpointSequence : Nat
  barrierGeneration : Nat
deriving DecidableEq

/-- The operand of `transitionRemoteApply`; an absent token field is `none`. -/
structure RemoteApplyTransition where
  eventSequence : Nat
  state : RemoteApplyState
  tempToken : Option (Option Nat)
  rollbackToken : Option (Option Nat)
deriving DecidableEq

/-- One watcher or recovery observation. -/
structure VaultObservation where
  eventSequence : Nat
  sourceId : Option Nat
  operation : Option DeviceEventOperation
  priorLocator : Option Locator
  targetLocator : Option Locator
  fingerprint : Option Fingerprint
deriving DecidableEq

/-- Every table of the reconciliation repository. -/
structure DeviceSyncRepository extends Repository where
  manifestCheckpointSequence : Option Nat
  manifestFinalDigest : Option String
  manifestPages : List ManifestPageProgress
  manifestActions : List LocalManifestActionProgress
deriving DecidableEq

/-- What one call leaves: the durable repository, and the rejection if the call rejected. -/
structure Call where
  repository : DeviceSyncRepository
  rejection : Option Refusal
deriving DecidableEq

/-- Every member the marker pins must equal the observation's. -/
def isExactEchoMatch (marker : EchoMarker) (observation : VaultObservation) : Bool :=
  observation.sourceId == some marker.sourceId &&
    observation.operation == some marker.operation &&
    (marker.priorLocator.isNone || observation.priorLocator == marker.priorLocator) &&
    (marker.targetLocator.isNone || observation.targetLocator == marker.targetLocator) &&
    (marker.finalFingerprint.isNone || observation.fingerprint == marker.finalFingerprint)

namespace DeviceSyncRepository

/-- The zeroed singleton and the empty tables of a fresh journal. -/
def seeded : DeviceSyncRepository where
  state :=
    { appliedSequence := 0
      acknowledgedSequence := 0
      observationGeneration := 0
      barrierGeneration := none
      barrierReason := none
      activeManifestRunId := none }
  remoteApplyOperations := []
  echoMarkers := []
  manifestCheckpointSequence := none
  manifestFinalDigest := none
  manifestPages := []
  manifestActions := []

/-! ## How a call ends -/

def commit (repo : DeviceSyncRepository) : Call := ⟨repo, none⟩

def refuse (repo : DeviceSyncRepository) : Call := ⟨repo, some .refused⟩

/-- The blocker writes the barrier over whatever the transaction has written so far, and the
transaction commits before the call rejects. -/
def block (repo : DeviceSyncRepository) (reason : DeviceSyncReason) : Call :=
  ⟨{ repo with toRepository := repo.toRepository.withBarrier reason }, some (.blocked reason)⟩

/-- A call that reads and writes the base tables only. -/
def lift (repo : DeviceSyncRepository) (mutation : Mutation) : Call where
  repository := { repo with toRepository := repo.toRepository.after mutation }
  rejection := match mutation with
    | .ok _ => none
    | .error refusal => some refusal

/-! ## The repair barrier -/

def persistRepairBarrierReason (repo : DeviceSyncRepository) (reason : DeviceSyncReason) : Call :=
  if repo.state.barrierGeneration.isNone then repo.refuse
  else commit { repo with state := { repo.state with barrierReason := some reason } }

def advanceRepairBarrierGeneration (repo : DeviceSyncRepository) (reason : DeviceSyncReason) :
    Call :=
  if repo.state.barrierGeneration.isNone then repo.refuse
  else commit { repo with state :=
    { repo.state with
      observationGeneration := repo.state.observationGeneration + 1
      barrierGeneration := some (repo.state.observationGeneration + 1)
      barrierReason := some reason } }

/-! ## Manifest pages and actions -/

def pageRunBlocker (repo : DeviceSyncRepository) (input : LocalManifestPageReceipt) :
    Option DeviceSyncReason :=
  match repo.state.activeManifestRunId with
  | none => if input.pageNumber == 0 then none else some .deviceManifestPageInvalid
  | some run =>
    if input.manifestRunId != run then some .deviceManifestStateInvalid
    else match repo.manifestCheckpointSequence with
      | some checkpoint =>
        if input.checkpointSequence != checkpoint then some .deviceManifestStateInvalid else none
      | none => none

def readManifestPage (repo : DeviceSyncRepository) (run pageNumber : Nat) :
    Option ManifestPageProgress :=
  repo.manifestPages.find? fun page => page.manifestRunId == run && page.pageNumber == pageNumber

def pagesOf (repo : DeviceSyncRepository) (run : Nat) : List ManifestPageProgress :=
  repo.manifestPages.filter fun page => page.manifestRunId == run

/-- One past the largest recorded page number of the run, 0 without one. -/
def expectedPageNumber (repo : DeviceSyncRepository) (run : Nat) : Nat :=
  match ((repo.pagesOf run).map (·.pageNumber)).max? with
  | some largest => largest + 1
  | none => 0

/-- A new page in its turn; the first accepted page binds the run and its checkpoint. -/
def acceptPage (repo : DeviceSyncRepository) (input : LocalManifestPageReceipt) : Call :=
  match repo.readManifestPage input.manifestRunId input.pageNumber with
  | some existing =>
    if existing.entryCount != input.entryCount || existing.pageDigest != input.pageDigest then
      repo.block .deviceManifestPageReplayMismatch
    else repo.commit
  | none =>
    if input.pageNumber != repo.expectedPageNumber input.manifestRunId then
      repo.block .deviceManifestPageInvalid
    else
      let inserted : DeviceSyncRepository := { repo with
        manifestPages := repo.manifestPages ++
          [{ manifestRunId := input.manifestRunId
             pageNumber := input.pageNumber
             entryCount := input.entryCount
             pageDigest := input.pageDigest }] }
      if repo.state.activeManifestRunId.isNone then
        commit { inserted with
          state := { inserted.state with activeManifestRunId := some input.manifestRunId }
          manifestCheckpointSequence := some input.checkpointSequence }
      else inserted.commit

def recordManifestPage (repo : DeviceSyncRepository) (input : LocalManifestPageReceipt) : Call :=
  if !isSha256Hex input.pageDigest || input.finalDigest.any (fun digest => !isSha256Hex digest) then
    repo.refuse
  else if repo.state.barrierGeneration.isNone then repo.block .deviceManifestStateInvalid
  else match repo.pageRunBlocker input with
    | some reason => repo.block reason
    | none =>
      match input.finalDigest, repo.manifestFinalDigest with
      | none, _ => repo.acceptPage input
      -- The digest is written before the page is checked, and a blocked page leaves it written.
      | some digest, none => acceptPage { repo with manifestFinalDigest := some digest } input
      | some digest, some recorded =>
        if recorded != digest then repo.block .deviceManifestDigestMismatch
        else repo.acceptPage input

def readManifestAction (repo : DeviceSyncRepository) (run actionIndex : Nat) :
    Option LocalManifestActionProgress :=
  repo.manifestActions.find? fun action =>
    action.manifestRunId == run && action.actionIndex == actionIndex

/-- Progress only upgrades to `terminal_safe`; a stale receipt changes nothing. -/
def recordManifestAction (repo : DeviceSyncRepository) (input : LocalManifestActionProgress) :
    Call :=
  if repo.state.activeManifestRunId != some input.manifestRunId then
    repo.block .deviceManifestStateInvalid
  else match repo.readManifestAction input.manifestRunId input.actionIndex with
    | none => commit { repo with manifestActions := repo.manifestActions ++ [input] }
    | some existing =>
      if existing.actionKind != input.actionKind then repo.block .deviceManifestStateInvalid
      else if input.outcome == .terminalSafe && existing.outcome != .terminalSafe then
        commit { repo with
          manifestActions := repo.manifestActions.map fun action =>
            if action.manifestRunId == input.manifestRunId &&
                action.actionIndex == input.actionIndex then
              { action with outcome := .terminalSafe, reason := input.reason }
            else action }
      else repo.commit

/-! ## The end of a run -/

/-- One transaction moves both cursors to the checkpoint, clears the barrier and the run, and
settles the applied rows through the checkpoint. -/
def completeRepair (repo : DeviceSyncRepository) (input : CompleteLocalRepair) : Call :=
  if repo.state.barrierGeneration != some input.barrierGeneration ||
      repo.state.activeManifestRunId != some input.manifestRunId then
    repo.block .deviceManifestStateInvalid
  else if input.checkpointSequence < repo.state.appliedSequence then
    repo.block .deviceCursorRegression
  else commit
    { repo with
      state :=
        { repo.state with
          appliedSequence := input.checkpointSequence
          acknowledgedSequence := input.checkpointSequence
          barrierGeneration := none
          barrierReason := none
          activeManifestRunId := none }
      remoteApplyOperations := repo.remoteApplyOperations.map fun row =>
        if row.eventSequence ≤ input.checkpointSequence && row.state == .locallyApplied then
          { row with state := .serverAcknowledged }
        else row
      manifestCheckpointSequence := none
      manifestFinalDigest := none
      manifestPages := repo.manifestPages.filter (·.manifestRunId != input.manifestRunId)
      manifestActions := repo.manifestActions.filter (·.manifestRunId != input.manifestRunId) }

/-- The journal's `discardActiveManifestRun`: only the temporary progress goes. -/
def discardActiveManifestRun (repo : DeviceSyncRepository) : Call :=
  if repo.state.barrierGeneration.isNone then repo.refuse
  else commit
    { repo with
      state := { repo.state with activeManifestRunId := none }
      manifestCheckpointSequence := none
      manifestFinalDigest := none
      manifestPages := []
      manifestActions := [] }

/-! ## Echo markers -/

def matchAndConsumeEcho (repo : DeviceSyncRepository) (input : VaultObservation) : Call :=
  if input.eventSequence == 0 then repo.refuse
  else match repo.echoMarkers.find? fun marker => marker.eventSequence == input.eventSequence with
    | none => repo.commit
    | some marker =>
      if isExactEchoMatch marker input then
        commit { repo with
          echoMarkers := repo.echoMarkers.filter fun marker =>
            marker.eventSequence != input.eventSequence }
      else repo.commit

/-- The second transaction of the journal's `completeDeviceSyncRepair`: the markers at or below
the acknowledged cursor retire. -/
def retireEchoMarkers (repo : DeviceSyncRepository) : Call :=
  commit { repo with
    echoMarkers := repo.echoMarkers.filter fun marker =>
      marker.eventSequence > repo.state.acknowledgedSequence }

end DeviceSyncRepository

/-! ## The machine of repository calls -/

/-- Every mutating call, with its operand. -/
inductive RepositoryCall
  | nextObservationGeneration
  | startRepairBarrier (generation : Nat) (reason : DeviceSyncReason)
  | persistRepairBarrierReason (reason : DeviceSyncReason)
  | advanceRepairBarrierGeneration (reason : DeviceSyncReason)
  | recordManifestPage (input : LocalManifestPageReceipt)
  | recordManifestAction (input : LocalManifestActionProgress)
  | prepareRemoteApply (input : PreparedRemoteApply)
  | abandonRemoteApply (eventSequence : Nat)
  | transitionRemoteApply (input : RemoteApplyTransition)
  | terminalizeEvent (input : TerminalDeviceEvent)
  | recordServerAcknowledgement (sequence : Nat)
  | completeRepair (input : CompleteLocalRepair)
  | recordEchoMarker (input : EchoMarker)
  | matchAndConsumeEcho (input : VaultObservation)
  | discardActiveManifestRun
  | retireEchoMarkers
deriving DecidableEq

def DeviceSyncRepository.call (repo : DeviceSyncRepository) : RepositoryCall → Call
  | .nextObservationGeneration => repo.lift (.ok repo.toRepository.nextObservationGeneration)
  | .startRepairBarrier generation reason => repo.lift (repo.startRepairBarrier generation reason)
  | .persistRepairBarrierReason reason => repo.persistRepairBarrierReason reason
  | .advanceRepairBarrierGeneration reason => repo.advanceRepairBarrierGeneration reason
  | .recordManifestPage input => repo.recordManifestPage input
  | .recordManifestAction input => repo.recordManifestAction input
  | .prepareRemoteApply input => repo.lift (repo.prepareRemoteApply input)
  | .abandonRemoteApply eventSequence => repo.lift (repo.abandonRemoteApply eventSequence)
  | .transitionRemoteApply input =>
    if input.eventSequence == 0 then repo.refuse
    else repo.lift <|
      repo.transitionRemoteApply input.eventSequence input.state input.tempToken
        input.rollbackToken
  | .terminalizeEvent input =>
    repo.lift (repo.terminalizeEvent input.eventSequence input.outcome input.reason)
  | .recordServerAcknowledgement sequence =>
    repo.lift (repo.recordServerAcknowledgement sequence)
  | .completeRepair input => repo.completeRepair input
  | .recordEchoMarker input => repo.lift (repo.recordEchoMarker input)
  | .matchAndConsumeEcho input => repo.matchAndConsumeEcho input
  | .discardActiveManifestRun => repo.discardActiveManifestRun
  | .retireEchoMarkers => repo.retireEchoMarkers

/-- The durable repository under any sequence of calls. -/
def deviceSyncMachine : Machine DeviceSyncRepository RepositoryCall where
  Init := fun repo => repo = .seeded
  step := fun repo input => some (repo.call input).repository

end PersonalOs.DeviceSync
