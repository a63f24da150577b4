import PersonalOs.DeviceSync.Contracts

/-!
# The plugin's durable reconciliation repository

`DeviceSyncRepository`: the `device_sync_state` singleton with its two local cursors, the repair
barrier, the `remote_apply_operations` lattice and the echo markers. Every function below is one
serialized journal mutation. An invariant blocker persists the closed barrier reason in the same
transaction and then rejects, so a refused call may still change the repository.
-/

namespace PersonalOs.DeviceSync

/-- The `device_sync_state` singleton. -/
structure DeviceSyncState where
  appliedSequence : Nat
  acknowledgedSequence : Nat
  observationGeneration : Nat
  barrierGeneration : Option Nat
  barrierReason : Option DeviceSyncReason
  activeManifestRunId : Option Nat
deriving DecidableEq

/-- The operand of `prepareRemoteApply`, persisted before any Vault mutation. -/
structure PreparedRemoteApply where
  eventSequence : Nat
  eventId : Nat
  sourceId : Nat
  operation : DeviceEventOperation
  priorLocator : Option Locator
  targetLocator : Option Locator
  baseFingerprint : Option Fingerprint
  finalFingerprint : Option Fingerprint
  tempToken : Option Nat
  rollbackToken : Option Nat
deriving DecidableEq

/-- One `remote_apply_operations` row. -/
structure RemoteApplyOperation extends PreparedRemoteApply where
  state : RemoteApplyState
  safeErrorCode : Option DeviceSyncReason
deriving DecidableEq

structure EchoMarker where
  eventSequence : Nat
  sourceId : Nat
  operation : DeviceEventOperation
  priorLocator : Option Locator
  targetLocator : Option Locator
  finalFingerprint : Option Fingerprint
deriving DecidableEq

/-- A terminal outcome the plugin recorded with its cursor advance. -/
structure TerminalDeviceEvent where
  eventSequence : Nat
  outcome : TerminalOutcome
  reason : Option DeviceSyncReason
deriving DecidableEq

/-- The reconciliation tables of the plugin journal. -/
structure Repository where
  state : DeviceSyncState
  remoteApplyOperations : List RemoteApplyOperation
  echoMarkers : List EchoMarker
deriving DecidableEq

/-- How a mutation rejects: `blocked` has persisted its barrier reason, `refused`
has changed nothing. -/
inductive Refusal
  | blocked (reason : DeviceSyncReason)
  | refused
deriving DecidableEq

abbrev Mutation := Except Refusal Repository

/-! ## The apply lattice -/

/-- Whether the operation stages temporary bytes. -/
def isContentApplyOperation : DeviceEventOperation → Bool
  | .created | .updated => true
  | _ => false

def isLegalRemoteApplyTransition (operation : DeviceEventOperation)
    (source target : RemoteApplyState) : Bool :=
  let isContentApply := isContentApplyOperation operation
  match target with
  | .prepared => false
  | .tempVerified => source == .prepared && isContentApply
  | .vaultMutated => (source == .prepared && !isContentApply) || source == .tempVerified
  | .locallyApplied =>
    source == .vaultMutated || (source == .tempVerified && isContentApply) ||
      (source == .prepared && !isContentApply)
  | .serverAcknowledged => source == .locallyApplied

/-! ## Row access -/

namespace Repository

/-- The row of one event sequence, the table's primary key. -/
def readRemoteApply (repo : Repository) (eventSequence : Nat) : Option RemoteApplyOperation :=
  repo.remoteApplyOperations.find? fun row => row.eventSequence == eventSequence

/-- The oldest operation the server has not acknowledged. -/
def readUnfinishedApply (repo : Repository) : Option RemoteApplyOperation :=
  (repo.remoteApplyOperations.filter fun row => row.state != .serverAcknowledged).argmin
    (·.eventSequence)

def updateRow (repo : Repository) (eventSequence : Nat)
    (change : RemoteApplyOperation → RemoteApplyOperation) : Repository :=
  { repo with
    remoteApplyOperations := repo.remoteApplyOperations.map fun row =>
      if row.eventSequence == eventSequence then change row else row }

/-! ## Mutations -/

/-- The barrier a blocker persists before it rejects. -/
def withBarrier (repo : Repository) (reason : DeviceSyncReason) : Repository :=
  { repo with state :=
    { repo.state with
      barrierGeneration :=
        some (repo.state.barrierGeneration.getD repo.state.observationGeneration)
      barrierReason := some reason } }

/-- The durable repository after a call, rejected or not. -/
def after (repo : Repository) : Mutation → Repository
  | .ok next => next
  | .error (.blocked reason) => repo.withBarrier reason
  | .error .refused => repo

def nextObservationGeneration (repo : Repository) : Repository :=
  { repo with state :=
    { repo.state with observationGeneration := repo.state.observationGeneration + 1 } }

def startRepairBarrier (repo : Repository) (generation : Nat) (reason : DeviceSyncReason) :
    Mutation :=
  if repo.state.barrierGeneration.isSome || repo.state.activeManifestRunId.isSome ||
      generation != repo.state.observationGeneration then
    .error .refused
  else
    .ok { repo with state :=
      { repo.state with barrierGeneration := some generation, barrierReason := some reason } }

def prepareRemoteApply (repo : Repository) (input : PreparedRemoteApply) : Mutation :=
  if input.eventSequence == 0 then .error .refused
  else match repo.readRemoteApply input.eventSequence with
    | some existing =>
      if existing.state != .prepared || existing.toPreparedRemoteApply != input then
        .error (.blocked .deviceApplyRecoveryAmbiguous)
      else .ok repo
    | none =>
      .ok { repo with
        remoteApplyOperations := repo.remoteApplyOperations ++
          [{ input with state := .prepared, safeErrorCode := none }] }

def recordEchoMarker (repo : Repository) (input : EchoMarker) : Mutation :=
  if input.eventSequence == 0 then .error .refused
  else match repo.echoMarkers.find? fun marker => marker.eventSequence == input.eventSequence with
    | some existing => if existing == input then .ok repo else .error .refused
    | none => .ok { repo with echoMarkers := repo.echoMarkers ++ [input] }

/-- Only a `prepared` intent may be abandoned: any later state owns a Vault effect. -/
def abandonRemoteApply (repo : Repository) (eventSequence : Nat) : Mutation :=
  match repo.readRemoteApply eventSequence with
  | some operation =>
    if operation.state != .prepared then .error .refused
    else .ok { repo with
      remoteApplyOperations :=
        repo.remoteApplyOperations.filter fun row => row.eventSequence != eventSequence
      echoMarkers := repo.echoMarkers.filter fun marker => marker.eventSequence != eventSequence }
  | none => .error .refused

/-- Absent token fields leave the stored token untouched. -/
def transitionRemoteApply (repo : Repository) (eventSequence : Nat) (target : RemoteApplyState)
    (tempToken rollbackToken : Option (Option Nat)) : Mutation :=
  match repo.readRemoteApply eventSequence with
  | none => .error (.blocked .deviceApplyRecoveryAmbiguous)
  | some operation =>
    if !isLegalRemoteApplyTransition operation.operation operation.state target then
      .error (.blocked .deviceApplyRecoveryAmbiguous)
    else .ok <| repo.updateRow eventSequence fun row =>
      { row with
        state := target
        tempToken := tempToken.getD row.tempToken
        rollbackToken := rollbackToken.getD row.rollbackToken }

def terminalizeEvent (repo : Repository) (eventSequence : Nat) (outcome : TerminalOutcome)
    (reason : Option DeviceSyncReason) : Mutation :=
  let advance (repo : Repository) : Repository :=
    { repo with state := { repo.state with appliedSequence := eventSequence } }
  if eventSequence == 0 then .error .refused
  else if eventSequence > repo.state.appliedSequence + 1 then .error (.blocked .deviceCursorGap)
  else if eventSequence ≤ repo.state.appliedSequence then .error (.blocked .deviceCursorRegression)
  else match outcome, repo.readRemoteApply eventSequence with
    | .applied, none => .error (.blocked .deviceApplyRecoveryAmbiguous)
    | .applied, some operation =>
      match operation.state with
      | .prepared | .tempVerified => .error (.blocked .deviceApplyRecoveryAmbiguous)
      | .vaultMutated =>
        .ok <| advance <| repo.updateRow eventSequence fun row =>
          { row with state := .locallyApplied }
      | .locallyApplied | .serverAcknowledged => .ok (advance repo)
    | _, none => .ok (advance repo)
    | _, some operation =>
      match operation.state with
      | .locallyApplied | .serverAcknowledged => .ok (advance repo)
      | .prepared | .tempVerified | .vaultMutated =>
        .ok <| advance <| repo.updateRow eventSequence fun row =>
          { row with state := .locallyApplied, safeErrorCode := reason }

def recordServerAcknowledgement (repo : Repository) (sequence : Nat) : Mutation :=
  if sequence < repo.state.acknowledgedSequence then .error (.blocked .deviceCursorRegression)
  else if sequence == repo.state.acknowledgedSequence then .ok repo
  else if sequence > repo.state.appliedSequence then .error (.blocked .deviceCursorAckAhead)
  else .ok
    { repo with
      state := { repo.state with acknowledgedSequence := sequence }
      remoteApplyOperations := repo.remoteApplyOperations.map fun row =>
        if row.eventSequence ≤ sequence && row.state == .locallyApplied then
          { row with state := .serverAcknowledged }
        else row }

/-! ## Rows -/

def rowSequences (repo : Repository) : List Nat :=
  repo.remoteApplyOperations.map (·.eventSequence)

def SameCursors (repo next : Repository) : Prop :=
  next.state.appliedSequence = repo.state.appliedSequence ∧
    next.state.acknowledgedSequence = repo.state.acknowledgedSequence

theorem after_error (repo : Repository) (r : Refusal) : SameCursors repo (repo.after (.error r)) ∧
      (repo.after (.error r)).remoteApplyOperations = repo.remoteApplyOperations := by
  cases r <;> exact ⟨⟨rfl, rfl⟩, rfl⟩

variable {repo : Repository} {sequence : Nat}

theorem updateRow_rowSequences {c : RemoteApplyOperation → RemoteApplyOperation}
    (hk : ∀ row, (c row).eventSequence = row.eventSequence) :
    (repo.updateRow sequence c).rowSequences = repo.rowSequences := by
  simp only [updateRow, rowSequences, List.map_map]
  apply List.map_congr_left
  intro row _
  simp only [Function.comp_apply]
  split
  · exact hk row
  · rfl

/-! ## What a committed mutation is -/

theorem prepareRemoteApply_cases {input : PreparedRemoteApply} {n : Repository}
    (hc : repo.prepareRemoteApply input = .ok n) :
    n = repo ∧ (∃ existing, repo.readRemoteApply input.eventSequence = some existing ∧
      existing.toPreparedRemoteApply = input) ∨
    repo.readRemoteApply input.eventSequence = none ∧ n = { repo with
      remoteApplyOperations := repo.remoteApplyOperations ++
        [{ input with state := .prepared, safeErrorCode := none }] } := by
  unfold prepareRemoteApply at hc
  split at hc
  · cases hc
  split at hc
  · next existing hf =>
    split at hc
    · cases hc
    · next hma =>
      cases hc
      simp only [Bool.not_eq_true, Bool.or_eq_false_iff, bne_eq_false_iff_eq] at hma
      exact .inl ⟨rfl, existing, hf, hma.2⟩
  · next hn =>
    cases hc
    exact .inr ⟨hn, rfl⟩

theorem abandonRemoteApply_cases {n : Repository} (hc : repo.abandonRemoteApply sequence = .ok n) :
    ∃ operation, repo.readRemoteApply sequence = some operation ∧ operation.state = .prepared ∧
      n = { repo with
        remoteApplyOperations :=
          repo.remoteApplyOperations.filter fun row => row.eventSequence != sequence
        echoMarkers := repo.echoMarkers.filter fun marker => marker.eventSequence != sequence } := by
  unfold abandonRemoteApply at hc
  split at hc
  · next operation hf =>
    split at hc
    · cases hc
    · next hp =>
      cases hc
      exact ⟨operation, hf, by simpa using hp, rfl⟩
  · cases hc

theorem transitionRemoteApply_cases {target : RemoteApplyState}
    {tempToken rollbackToken : Option (Option Nat)} {n : Repository}
    (hc : repo.transitionRemoteApply sequence target tempToken rollbackToken = .ok n) :
    ∃ operation, repo.readRemoteApply sequence = some operation ∧
      isLegalRemoteApplyTransition operation.operation operation.state target = true ∧
      n = repo.updateRow sequence fun row =>
        { row with
          state := target
          tempToken := tempToken.getD row.tempToken
          rollbackToken := rollbackToken.getD row.rollbackToken } := by
  unfold transitionRemoteApply at hc
  split at hc
  · cases hc
  next operation hf =>
    split at hc
    · cases hc
    next hl =>
      cases hc
      exact ⟨operation, hf, by simpa using hl, rfl⟩

/-- A terminal outcome moves the applied cursor to the next sequence, and closes the row of its
event unless that is settled. -/
theorem terminalizeEvent_cases {n : Repository} {outcome : TerminalOutcome}
    {reason : Option DeviceSyncReason}
    (hc : repo.terminalizeEvent sequence outcome reason = .ok n) :
    sequence = repo.state.appliedSequence + 1 ∧ ∃ closed : Repository,
      n = { closed with state := { closed.state with appliedSequence := sequence } } ∧
      (closed = repo ∧ (∀ operation, repo.readRemoteApply sequence = some operation →
          operation.state = .locallyApplied ∨ operation.state = .serverAcknowledged) ∨
        ∃ (operation : RemoteApplyOperation) (code : RemoteApplyOperation → Option DeviceSyncReason),
          repo.readRemoteApply sequence = some operation ∧
          operation.state ≠ .serverAcknowledged ∧
          closed = repo.updateRow sequence fun row =>
            { row with state := .locallyApplied, safeErrorCode := code row }) := by
  simp only [terminalizeEvent] at hc
  split at hc
  · cases hc
  split at hc
  · cases hc
  split at hc
  · cases hc
  refine ⟨by omega, ?_⟩
  split at hc
  · cases hc
  · next operation hf =>
    rw [hf]
    split at hc
    · cases hc
    · cases hc
    · next hs =>
      cases hc
      exact ⟨_, rfl, .inr ⟨operation, (·.safeErrorCode), rfl, by simp [hs], rfl⟩⟩
    · next hs =>
      cases hc
      exact ⟨repo, rfl, .inl ⟨rfl, fun _ he => Option.some.inj he ▸ .inl hs⟩⟩
    · next hs =>
      cases hc
      exact ⟨repo, rfl, .inl ⟨rfl, fun _ he => Option.some.inj he ▸ .inr hs⟩⟩
  · next hn =>
    cases hc
    exact ⟨repo, rfl, .inl ⟨rfl, fun _ he => nomatch hn.symm.trans he⟩⟩
  · next operation _ hf =>
    rw [hf]
    split at hc
    · next hs =>
      cases hc
      exact ⟨repo, rfl, .inl ⟨rfl, fun _ he => Option.some.inj he ▸ .inl hs⟩⟩
    · next hs =>
      cases hc
      exact ⟨repo, rfl, .inl ⟨rfl, fun _ he => Option.some.inj he ▸ .inr hs⟩⟩
    all_goals
      next hs =>
        cases hc
        exact ⟨_, rfl, .inr ⟨operation, fun _ => reason, rfl, by simp [hs], rfl⟩⟩

/-! ## What a committed mutation does to the cursors -/

/-- A terminal event moves the applied cursor by exactly one, to its own sequence. -/
theorem terminalizeEvent_ok {n : Repository} {o : TerminalOutcome}
    {r : Option DeviceSyncReason}
    (hc : repo.terminalizeEvent sequence o r = .ok n) :
    sequence = repo.state.appliedSequence + 1 ∧ n.state.appliedSequence = sequence ∧
      n.state.acknowledgedSequence = repo.state.acknowledgedSequence ∧
      n.rowSequences = repo.rowSequences := by
  obtain ⟨hco, _, rfl, ⟨rfl, -⟩ | ⟨_, _, -, -, rfl⟩⟩ := terminalizeEvent_cases hc
  · exact ⟨hco, rfl, rfl, rfl⟩
  · exact ⟨hco, rfl, rfl, updateRow_rowSequences fun _ => rfl⟩

theorem recordServerAcknowledgement_ok {n : Repository}
    (hc : repo.recordServerAcknowledgement sequence = .ok n) :
    n.state.appliedSequence = repo.state.appliedSequence ∧ n.state.acknowledgedSequence = sequence ∧
      repo.state.acknowledgedSequence ≤ sequence ∧
      (sequence = repo.state.acknowledgedSequence ∨ sequence ≤ repo.state.appliedSequence) ∧
      n.rowSequences = repo.rowSequences := by
  simp only [recordServerAcknowledgement] at hc
  split at hc
  · cases hc
  split at hc
  · next hs =>
    cases hc
    have he : sequence = repo.state.acknowledgedSequence := by simpa using hs
    exact ⟨rfl, he.symm, by omega, .inl he, rfl⟩
  split at hc
  · cases hc
  · cases hc
    refine ⟨rfl, rfl, by omega, .inr (by omega), ?_⟩
    simp only [rowSequences, List.map_map]
    apply List.map_congr_left
    intro row _
    simp only [Function.comp_apply]
    split <;> rfl

end Repository
end PersonalOs.DeviceSync
