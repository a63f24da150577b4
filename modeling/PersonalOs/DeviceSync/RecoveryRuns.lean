import PersonalOs.DeviceSync.RepositoryRuns

/-!
# Recovery of interrupted applies

The applier prepares an event only right above the applied cursor, so an interrupted apply is the
next thing the cursor has to pass. The cursor has a second way forward: `completeRepair` sets it
to the checkpoint of a manifest run and settles only the rows that were locally applied. A row
whose apply was interrupted then stays behind the cursor, where no terminal outcome is accepted.
-/

namespace PersonalOs.DeviceSync

/-- The states of an apply that has no terminal outcome yet. -/
def RemoteApplyState.isUnsettled : RemoteApplyState → Bool
  | .prepared | .tempVerified | .vaultMutated => true
  | .locallyApplied | .serverAcknowledged => false

/-! ## The calls of the applier and the reconciler -/

/-- The calls as the applier, its Vault writer and the manifest reconciler make them: an apply is
prepared right above the cursor it has just read, and a transition goes to one of the two states
before the terminal outcome. -/
def isApplierUse (repo : DeviceSyncRepository) : RepositoryCall → Bool
  | .prepareRemoteApply input => input.eventSequence == repo.state.appliedSequence + 1
  | .transitionRemoteApply input => input.state == .tempVerified || input.state == .vaultMutated
  | _ => true

/-- The durable repository under the calls of the applier and the reconciler, in any order. -/
def applierMachine : Machine DeviceSyncRepository RepositoryCall where
  Init := fun repo => repo = .seeded
  step := fun repo input =>
    if isApplierUse repo input then some (repo.call input).repository else none

/-- A repair that passes its checks has no unsettled row at or below its checkpoint. -/
def CompletesClear (repo : DeviceSyncRepository) : RepositoryCall → Prop
  | .completeRepair input =>
    repo.state.barrierGeneration = some input.barrierGeneration →
      repo.state.activeManifestRunId = some input.manifestRunId →
        repo.state.appliedSequence ≤ input.checkpointSequence →
          ∀ row ∈ repo.remoteApplyOperations, row.state.isUnsettled = true →
            input.checkpointSequence < row.eventSequence
  | _ => True

/-! ## Recovery -/

/-- What the writer's `recover` proves about the Vault. -/
inductive RemoteApplyRecovery
  | clean
  | mutated (rollbackToken : Option Nat)
  | restored (reason : DeviceSyncReason)
  | blocked (reason : DeviceSyncReason)
deriving DecidableEq

/-- The writer's `recover`: a verdict about one row, or a closed failure. -/
abbrev Recover := RemoteApplyOperation → Except DeviceSyncReason RemoteApplyRecovery

/-- The verdicts `recover` gives in each state: only a settled row is cleaned up without proof, and
bytes are only restored over a staged replace. -/
def isPossibleVerdict : RemoteApplyState → RemoteApplyRecovery → Bool
  | .prepared, .restored _ => false
  | .prepared, _ => true
  | .tempVerified, .clean => false
  | .tempVerified, _ => true
  | .vaultMutated, .clean => false
  | .vaultMutated, .restored _ => false
  | .vaultMutated, _ => true
  | .locallyApplied, verdict => verdict == .clean
  | .serverAcknowledged, verdict => verdict == .clean

/-- A further call, unless this one was rejected. -/
def Call.andThen (done : Call) (next : DeviceSyncRepository → Call) : Call :=
  match done.rejection with
  | none => next done.repository
  | some _ => done

namespace DeviceSyncRepository

/-- A repair barrier over a fresh observation generation. -/
def requestRepair (repo : DeviceSyncRepository) (reason : DeviceSyncReason) : Call :=
  (repo.call .nextObservationGeneration).andThen fun repo =>
    repo.call (.startRepairBarrier repo.state.observationGeneration reason)

def recoverUnfinishedApply (repo : DeviceSyncRepository) (recover : Recover) : Call :=
  match repo.readUnfinishedApply with
  | none => repo.commit
  | some operation =>
    match recover operation with
    | .error _ => repo.refuse
    | .ok .clean =>
      if operation.state == .locallyApplied || operation.state == .serverAcknowledged then
        repo.commit
      else (repo.call (.abandonRemoteApply operation.eventSequence)).andThen fun repo =>
        -- A bound run already is the reconciliation that a barrier would force.
        if repo.state.activeManifestRunId.isSome then repo.commit
        else repo.requestRepair .deviceApplyRecoveryAbandoned
    | .ok (.mutated rollbackToken) =>
      let proven :=
        if operation.state == .vaultMutated || operation.state == .locallyApplied ||
            operation.state == .serverAcknowledged then repo.commit
        else repo.call <| .transitionRemoteApply
          { eventSequence := operation.eventSequence
            state := .vaultMutated
            tempToken := none
            rollbackToken := some rollbackToken }
      proven.andThen fun repo => repo.call <| .terminalizeEvent
        { eventSequence := operation.eventSequence
          outcome := if operation.operation == .deleted then .tombstoneHandled else .applied
          reason := none }
    | .ok (.restored reason) =>
      repo.call (.terminalizeEvent ⟨operation.eventSequence, .conflict, some reason⟩)
    | .ok (.blocked reason) => repo.requestRepair reason

/-- `acknowledgeOwedCursor`, with the sequence the server's receipt names. -/
def acknowledgeOwedCursor (repo : DeviceSyncRepository) (receipt : Nat) : Call :=
  if repo.state.appliedSequence ≤ repo.state.acknowledgedSequence then repo.commit
  else
    let acknowledged := min receipt repo.state.appliedSequence
    if acknowledged ≤ repo.state.acknowledgedSequence then repo.commit
    else repo.call (.recordServerAcknowledgement acknowledged)

/-- The recovery of one cycle and, when it did not throw, the acknowledgement of all the device
has applied. -/
def recoveryCycle (repo : DeviceSyncRepository) (recover : Recover) : DeviceSyncRepository :=
  ((repo.recoverUnfinishedApply recover).andThen fun repo =>
    repo.acknowledgeOwedCursor repo.state.appliedSequence).repository

end DeviceSyncRepository

/-- The writer proves the row recovery reads: it gives a verdict the row's state has, does not
block, and does not find the final bytes of a created or updated row that has staged nothing (the
lattice has no transition for that proof). -/
def DeviceSyncRepository.Proves (repo : DeviceSyncRepository) (recover : Recover) : Prop :=
  ∀ operation, repo.readUnfinishedApply = some operation →
    ∃ verdict, recover operation = .ok verdict ∧
      isPossibleVerdict operation.state verdict = true ∧
      (∀ reason, verdict ≠ .blocked reason) ∧
      (operation.state = .prepared → isContentApplyOperation operation.operation = true →
        verdict = .clean)

/-! ## Where the rows stand -/

/-- An unsettled row is the next sequence of the cursor; a locally applied row is owed to the
server. -/
structure Placed (rows : List RemoteApplyOperation) (applied acknowledged : Nat) : Prop where
  unsettled : ∀ row ∈ rows, row.state.isUnsettled = true → row.eventSequence = applied + 1
  owed : ∀ row ∈ rows, row.state = .locallyApplied →
    acknowledged < row.eventSequence ∧ row.eventSequence ≤ applied

/-- Where the rows of a repository stand. -/
def DeviceSyncRepository.IsPlaced (repo : DeviceSyncRepository) : Prop :=
  Placed repo.remoteApplyOperations repo.state.appliedSequence repo.state.acknowledgedSequence

namespace RecoveryRunsLemmas

open RepositoryRunsLemmas

variable {repo next : DeviceSyncRepository} {input : RepositoryCall}
  {rows : List RemoteApplyOperation} {applied acknowledged : Nat}

/-- The tables and cursors the placement reads. -/
structure SameRows (repo next : DeviceSyncRepository) : Prop where
  rows : next.remoteApplyOperations = repo.remoteApplyOperations
  applied : next.state.appliedSequence = repo.state.appliedSequence
  acknowledged : next.state.acknowledgedSequence = repo.state.acknowledgedSequence

theorem SameRows.placed (he : SameRows repo next) (hp : repo.IsPlaced) : next.IsPlaced := by
  unfold DeviceSyncRepository.IsPlaced
  rw [he.rows, he.applied, he.acknowledged]
  exact hp

theorem sameRows_refl : SameRows repo repo := ⟨rfl, rfl, rfl⟩

theorem sameRows_block {reason : DeviceSyncReason} : SameRows repo (repo.block reason).repository :=
  ⟨rfl, rfl, rfl⟩

variable {mutation : Mutation} {operation : RemoteApplyOperation} {sequence : Nat}
  {outcome : TerminalOutcome} {reason : Option DeviceSyncReason}
  {further : DeviceSyncRepository → Call} {recover : Recover} {refusal : Refusal}

theorem lift_placed (hp : repo.IsPlaced) (hc : ∀ next, mutation = .ok next →
      Placed next.remoteApplyOperations next.state.appliedSequence
        next.state.acknowledgedSequence) :
    (repo.lift mutation).repository.IsPlaced := by
  rcases mutation with (reason | _) | next
  · exact (@sameRows_block repo reason).placed hp
  · exact hp
  · exact hc next rfl

/-! ## One write to the lattice -/

theorem placed_inserted {o : PreparedRemoteApply} (hp : Placed rows applied acknowledged)
    (next : o.eventSequence = applied + 1) :
    Placed (rows ++ [{ o with state := .prepared, safeErrorCode := none }]) applied
      acknowledged := by
  constructor
  · intro row hm hu
    rcases List.mem_append.mp hm with old | new
    · exact hp.unsettled row old hu
    · rw [List.mem_singleton.mp new]
      exact next
  · intro row hm hl
    rcases List.mem_append.mp hm with old | new
    · exact hp.owed row old hl
    · cases List.mem_singleton.mp new
      exact nomatch hl

theorem placed_filter {k : RemoteApplyOperation → Bool} (hp : Placed rows applied acknowledged) :
    Placed (rows.filter k) applied acknowledged :=
  ⟨fun row hm => hp.unsettled row (List.mem_filter.mp hm).1,
    fun row hm => hp.owed row (List.mem_filter.mp hm).1⟩

theorem placed_updateRow {repo : Repository} {c : RemoteApplyOperation → RemoteApplyOperation}
    (hs : SoundLattice repo.remoteApplyOperations)
    (hf : repo.readRemoteApply sequence = some operation)
    (key : (c operation).eventSequence = operation.eventSequence)
    (hb : operation.state.isUnsettled = true)
    (haf : (c operation).state.isUnsettled = true)
    (hp : Placed repo.remoteApplyOperations applied acknowledged) :
    Placed (repo.updateRow sequence c).remoteApplyOperations applied acknowledged := by
  have hh := hp.unsettled operation (List.mem_of_find?_eq_some hf) hb
  constructor
  · intro r' hm hu
    obtain ⟨row, old, rfl⟩ := List.mem_map.mp hm
    by_cases he : row.eventSequence = sequence
    · rw [if_pos (by simpa using he), eq_of_readRemoteApply hs hf old he, key]
      exact hh
    · rw [if_neg (by simpa using he)] at hu ⊢
      exact hp.unsettled row old hu
  · intro r' hm ha
    obtain ⟨row, old, rfl⟩ := List.mem_map.mp hm
    by_cases he : row.eventSequence = sequence
    · rw [if_pos (by simpa using he), eq_of_readRemoteApply hs hf old he] at ha
      rw [ha] at haf
      exact nomatch haf
    · rw [if_neg (by simpa using he)] at ha ⊢
      exact hp.owed row old ha

/-- What the terminal outcome of a sequence leaves in the table: the closed row, and rows that
were there and are not unsettled at that sequence. -/
theorem terminalizeEvent_rows {repo next : Repository}
    (hso : SoundLattice repo.remoteApplyOperations)
    (hc : repo.terminalizeEvent sequence outcome reason = .ok next) :
    ∀ r' ∈ next.remoteApplyOperations,
      (r' ∈ repo.remoteApplyOperations ∧
        (r'.eventSequence = sequence → r'.state.isUnsettled = false)) ∨
      (r'.eventSequence = sequence ∧ r'.state = .locallyApplied) := by
  obtain ⟨-, repo, rfl, ⟨rfl, hk⟩ | ⟨_, _, -, -, rfl⟩⟩ := Repository.terminalizeEvent_cases hc
  · intro r' hm
    refine .inl ⟨hm, fun he => ?_⟩
    cases hf : repo.readRemoteApply sequence with
    | none => exact absurd he (fresh_of_readRemoteApply hf r' hm)
    | some operation =>
      rw [eq_of_readRemoteApply hso hf hm he]
      rcases hk operation hf with hs | hs
      · rw [hs]
        rfl
      · rw [hs]
        rfl
  · intro r' hm
    obtain ⟨row, old, rfl⟩ := List.mem_map.mp hm
    by_cases he : row.eventSequence = sequence
    · rw [if_pos (by simpa using he)]
      exact .inr ⟨he, rfl⟩
    · rw [if_neg (by simpa using he)]
      exact .inl ⟨old, fun hh => absurd hh he⟩

theorem terminalizeEvent_placed {repo next : Repository}
    (hso : SoundLattice repo.remoteApplyOperations) (hd : acknowledged ≤ applied)
    (hc : sequence = applied + 1)
    (hco : repo.terminalizeEvent sequence outcome reason = .ok next)
    (hp : Placed repo.remoteApplyOperations applied acknowledged) :
    Placed next.remoteApplyOperations sequence acknowledged := by
  have rows := terminalizeEvent_rows hso hco
  constructor
  · intro r' hm hu
    rcases rows r' hm with ⟨old, hs⟩ | ⟨_, hs⟩
    · -- An unsettled row stood at the sequence that has just been closed.
      have hh := hp.unsettled r' old hu
      rw [hs (hh.trans hc.symm)] at hu
      exact nomatch hu
    · rw [hs] at hu
      exact nomatch hu
  · intro r' hm ha
    rcases rows r' hm with ⟨old, _⟩ | ⟨hh, _⟩
    · obtain ⟨ho, hw⟩ := hp.owed r' old ha
      exact ⟨ho, by omega⟩
    · rw [hh, hc]
      exact ⟨Nat.lt_succ_of_le hd, Nat.le_refl _⟩

theorem acknowledged_placed {c : Nat} (hp : Placed rows applied acknowledged)
    (hu : ∀ row ∈ rows,
      row.state.isUnsettled = true → row.eventSequence = c + 1) (hw : applied ≤ c) :
    Placed (rows.map fun row =>
      if row.eventSequence ≤ sequence && row.state == .locallyApplied then
        { row with state := .serverAcknowledged }
      else row) c sequence := by
  constructor
  · intro r' hm ho
    obtain ⟨row, old, rfl⟩ := List.mem_map.mp hm
    split at ho
    · exact nomatch ho
    · next hk =>
      rw [if_neg hk]
      exact hu row old ho
  · intro r' hm ha
    obtain ⟨row, old, rfl⟩ := List.mem_map.mp hm
    split at ha
    · exact nomatch ha
    · next hk =>
      rw [if_neg hk]
      simp only [ha, beq_self_eq_true, Bool.and_true, decide_eq_true_eq] at hk
      exact ⟨Nat.lt_of_not_le hk, Nat.le_trans (hp.owed row old ha).2 hw⟩

/-! ## Every call -/

/-- The calls that touch neither the lattice nor a cursor. -/
def leavesRows : RepositoryCall → Bool
  | .prepareRemoteApply _ | .abandonRemoteApply _ | .transitionRemoteApply _
  | .terminalizeEvent _ | .recordServerAcknowledgement _ | .completeRepair _ => false
  | _ => true

theorem acceptPage_sameRows {o : LocalManifestPageReceipt} :
    SameRows repo (repo.acceptPage o).repository := by
  unfold DeviceSyncRepository.acceptPage
  split
  · split
    · exact sameRows_block
    · exact sameRows_refl
  · split
    · exact sameRows_block
    · dsimp only
      split
      · exact ⟨rfl, rfl, rfl⟩
      · exact ⟨rfl, rfl, rfl⟩

theorem recordManifestPage_sameRows {o : LocalManifestPageReceipt} :
    SameRows repo (repo.recordManifestPage o).repository := by
  unfold DeviceSyncRepository.recordManifestPage
  split
  · exact sameRows_refl
  split
  · exact sameRows_block
  split
  · exact sameRows_block
  split
  · exact acceptPage_sameRows
  · next d _ _ =>
    have hw := @acceptPage_sameRows { repo with manifestFinalDigest := some d } o
    exact ⟨hw.rows, hw.applied, hw.acknowledged⟩
  · split
    · exact sameRows_block
    · exact acceptPage_sameRows

theorem recordManifestAction_sameRows {o : LocalManifestActionProgress} :
    SameRows repo (repo.recordManifestAction o).repository := by
  unfold DeviceSyncRepository.recordManifestAction
  split
  · exact sameRows_block
  split
  · exact ⟨rfl, rfl, rfl⟩
  split
  · exact sameRows_block
  split
  · exact ⟨rfl, rfl, rfl⟩
  · exact sameRows_refl

theorem lift_sameRows (hc : ∀ next, mutation = .ok next →
      next.remoteApplyOperations = repo.remoteApplyOperations ∧
      next.state.appliedSequence = repo.state.appliedSequence ∧
      next.state.acknowledgedSequence = repo.state.acknowledgedSequence) :
    SameRows repo (repo.lift mutation).repository := by
  rcases mutation with (reason | _) | next
  · exact sameRows_block
  · exact sameRows_refl
  · obtain ⟨rows, applied, acknowledged⟩ := hc next rfl
    exact ⟨rows, applied, acknowledged⟩

theorem call_sameRows (hl : leavesRows input = true) :
    SameRows repo (repo.call input).repository := by
  cases input with
  | nextObservationGeneration => exact ⟨rfl, rfl, rfl⟩
  | startRepairBarrier g reason =>
    refine lift_sameRows fun next hc => ?_
    unfold Repository.startRepairBarrier at hc
    split at hc
    · cases hc
    · cases hc
      exact ⟨rfl, rfl, rfl⟩
  | persistRepairBarrierReason reason =>
    show SameRows repo (repo.persistRepairBarrierReason reason).repository
    unfold DeviceSyncRepository.persistRepairBarrierReason
    split
    · exact sameRows_refl
    · exact ⟨rfl, rfl, rfl⟩
  | advanceRepairBarrierGeneration reason =>
    show SameRows repo (repo.advanceRepairBarrierGeneration reason).repository
    unfold DeviceSyncRepository.advanceRepairBarrierGeneration
    split
    · exact sameRows_refl
    · exact ⟨rfl, rfl, rfl⟩
  | recordManifestPage op => exact recordManifestPage_sameRows
  | recordManifestAction op => exact recordManifestAction_sameRows
  | recordEchoMarker m =>
    refine lift_sameRows fun next hc => ?_
    unfold Repository.recordEchoMarker at hc
    split at hc
    · cases hc
    split at hc
    · split at hc
      · cases hc
        exact ⟨rfl, rfl, rfl⟩
      · cases hc
    · cases hc
      exact ⟨rfl, rfl, rfl⟩
  | matchAndConsumeEcho o =>
    show SameRows repo (repo.matchAndConsumeEcho o).repository
    unfold DeviceSyncRepository.matchAndConsumeEcho
    split
    · exact sameRows_refl
    split
    · exact sameRows_refl
    split
    · exact ⟨rfl, rfl, rfl⟩
    · exact sameRows_refl
  | discardActiveManifestRun =>
    show SameRows repo repo.discardActiveManifestRun.repository
    unfold DeviceSyncRepository.discardActiveManifestRun
    split
    · exact sameRows_refl
    · exact ⟨rfl, rfl, rfl⟩
  | retireEchoMarkers => exact ⟨rfl, rfl, rfl⟩
  | _ => exact nomatch hl

theorem unsettled_of_legal {operation : DeviceEventOperation} {s t : RemoteApplyState}
    (hl : isLegalRemoteApplyTransition operation s t = true)
    (ho : t.isUnsettled = true) : s.isUnsettled = true := by
  revert hl ho
  cases operation <;> cases s <;> cases t <;> decide

/-- Every call of the applier and the reconciler keeps the placement, the completion of a repair
under its condition. -/
theorem placed_call (hs : repo.Sound) (hp : repo.IsPlaced)
    (hu : isApplierUse repo input = true) (hcl : CompletesClear repo input) :
    (repo.call input).repository.IsPlaced := by
  cases input with
  | prepareRemoteApply o =>
    refine lift_placed hp fun next hc => ?_
    rcases Repository.prepareRemoteApply_cases hc with ⟨rfl, -⟩ | ⟨-, rfl⟩
    · exact hp
    · exact placed_inserted hp (by simpa [isApplierUse] using hu)
  | abandonRemoteApply sequence =>
    refine lift_placed hp fun next hc => ?_
    obtain ⟨_, -, -, rfl⟩ := Repository.abandonRemoteApply_cases hc
    exact placed_filter hp
  | transitionRemoteApply o =>
    unfold DeviceSyncRepository.call
    dsimp only
    split
    · exact hp
    refine lift_placed hp fun next hc => ?_
    obtain ⟨operation, hfo, hl, rfl⟩ := Repository.transitionRemoteApply_cases hc
    have ho : o.state.isUnsettled = true := by
      simp only [isApplierUse, Bool.or_eq_true, beq_iff_eq] at hu
      rcases hu with hst | hmu
      · rw [hst]
        rfl
      · rw [hmu]
        rfl
    exact placed_updateRow hs.lattice hfo rfl (unsettled_of_legal hl ho) ho hp
  | terminalizeEvent o =>
    refine lift_placed hp fun next hc => ?_
    obtain ⟨hco, hcu, acknowledged, -⟩ := Repository.terminalizeEvent_ok hc
    rw [hcu, acknowledged]
    exact terminalizeEvent_placed hs.lattice hs.state.acknowledged hco hc hp
  | recordServerAcknowledgement sequence =>
    refine lift_placed hp fun next hc => ?_
    unfold Repository.recordServerAcknowledgement at hc
    split at hc
    · cases hc
    split at hc
    · cases hc
      exact hp
    split at hc
    · cases hc
    · cases hc
      exact acknowledged_placed hp hp.unsettled (Nat.le_refl _)
  | completeRepair o =>
    show (repo.completeRepair o).repository.IsPlaced
    unfold DeviceSyncRepository.completeRepair
    split
    · exact sameRows_block.placed hp
    next hbo =>
    split
    · exact sameRows_block.placed hp
    · next hf =>
      have ha := Nat.le_of_not_lt hf
      simp only [Bool.or_eq_true, bne_iff_ne, ne_eq, not_or, not_not] at hbo
      refine acknowledged_placed hp ?_ ha
      -- An unsettled row is above the checkpoint and right above the cursor below it.
      intro row hm ho
      have hab := hcl hbo.1 hbo.2 ha row hm ho
      have hh := hp.unsettled row hm ho
      show row.eventSequence = o.checkpointSequence + 1
      omega
  | _ => exact (call_sameRows rfl).placed hp

theorem placed_reachable (hr : applierMachine.GuardedReachable CompletesClear repo) :
    repo.Sound ∧ repo.IsPlaced := by
  refine @Machine.GuardedReachable.invariant _ _ applierMachine CompletesClear
    (fun repo => repo.Sound ∧ repo.IsPlaced) ?_ ?_ repo hr
  · rintro _ rfl
    exact ⟨sound_seeded, fun _ hm => absurd hm List.not_mem_nil,
      fun _ hm => absurd hm List.not_mem_nil⟩
  · rintro b input a ⟨hs, hp⟩ hc hv
    simp only [applierMachine] at hv
    split at hv
    · next hu =>
      cases hv
      exact ⟨sound_call hs input, placed_call hs hp hu hc⟩
    · cases hv

/-! ## The row recovery reads -/

theorem unfinished_none (hn : repo.readUnfinishedApply = none) :
    ∀ row ∈ repo.remoteApplyOperations, row.state = .serverAcknowledged := by
  intro row hm
  have he := List.argmin_eq_none.mp hn
  have hs := List.filter_eq_nil_iff.mp he row hm
  simpa using hs

theorem unfinished_eq_none (hs : ∀ row ∈ repo.remoteApplyOperations,
    row.state = .serverAcknowledged) : repo.readUnfinishedApply = none := by
  refine List.argmin_eq_none.mpr (List.filter_eq_nil_iff.mpr fun row hm => ?_)
  simp [hs row hm]

theorem unfinished_mem (hr : repo.readUnfinishedApply = some operation) :
    operation ∈ repo.remoteApplyOperations ∧ operation.state ≠ .serverAcknowledged := by
  have hm := List.argmin_mem hr
  obtain ⟨old, ho⟩ := List.mem_filter.mp hm
  exact ⟨old, by simpa using ho⟩

theorem unfinished_oldest {row : RemoteApplyOperation}
    (hr : repo.readUnfinishedApply = some operation) (hm : row ∈ repo.remoteApplyOperations)
    (ho : row.state ≠ .serverAcknowledged) :
    operation.eventSequence ≤ row.eventSequence := by
  have ha : row ∈ repo.remoteApplyOperations.filter (·.state != .serverAcknowledged) :=
    List.mem_filter.mpr ⟨hm, by simpa using ho⟩
  exact List.le_of_mem_argmin (f := fun row : RemoteApplyOperation => row.eventSequence) ha hr

theorem none_owed_of_unsettled (hp : repo.IsPlaced)
    (hr : repo.readUnfinishedApply = some operation) (ho : operation.state.isUnsettled = true)
    :
    ∀ row ∈ repo.remoteApplyOperations, row.state ≠ .locallyApplied := by
  intro row hm ha
  have hol := unfinished_oldest hr hm (by rw [ha]; exact nofun)
  have hh := hp.unsettled operation (unfinished_mem hr).1 ho
  have hw := (hp.owed row hm ha).2
  omega

theorem readRemoteApply_of_mem (hs : SoundLattice repo.remoteApplyOperations)
    (hm : operation ∈ repo.remoteApplyOperations) :
    repo.readRemoteApply operation.eventSequence = some operation := by
  have hf := hs.keys.lookup_of_mem hm
  unfold Tables.lookup at hf
  unfold Repository.readRemoteApply
  rw [← hf]
  rfl

theorem readRemoteApply_updateRow {repo : Repository}
    {c : RemoteApplyOperation → RemoteApplyOperation}
    (hf : repo.readRemoteApply sequence = some operation)
    (key : ∀ row, (c row).eventSequence = row.eventSequence) :
    (repo.updateRow sequence c).readRemoteApply sequence = some (c operation) := by
  have hh : operation.eventSequence = sequence := by
    simpa using List.find?_some hf
  unfold Repository.readRemoteApply Repository.updateRow
  rw [List.find?_map]
  have he : ((fun row : RemoteApplyOperation => row.eventSequence == sequence) ∘ fun row =>
      if row.eventSequence == sequence then c row else row) =
      fun row => row.eventSequence == sequence := by
    funext row
    simp only [Function.comp_apply]
    split
    · rw [key]
    · rfl
  rw [he]
  unfold Repository.readRemoteApply at hf
  rw [hf, Option.map_some, if_pos (by simpa using hh)]

/-! ## What recovery's calls answer -/

theorem terminalizeEvent_no_regression {repo : Repository}
    (next : sequence = repo.state.appliedSequence + 1) :
    repo.terminalizeEvent sequence outcome reason ≠ .error (.blocked .deviceCursorRegression) := by
  intro hb
  simp only [Repository.terminalizeEvent] at hb
  split at hb
  · cases hb
  split at hb
  · cases hb
  split at hb
  · next hbe => omega
  split at hb
  · cases hb
  · split at hb <;> cases hb
  · cases hb
  · split at hb <;> cases hb

theorem terminalizeEvent_accepts {repo : Repository} {sequence : Nat} {outcome : TerminalOutcome}
    {reason : Option DeviceSyncReason} {operation : RemoteApplyOperation}
    (next : sequence = repo.state.appliedSequence + 1)
    (hf : repo.readRemoteApply sequence = some operation)
    (hpr : outcome = .applied → operation.state = .vaultMutated) :
    ∃ a, repo.terminalizeEvent sequence outcome reason = .ok a := by
  have hp : (sequence == 0) = false := by simp [next]
  have hno : ¬sequence > repo.state.appliedSequence + 1 := by omega
  have hn : ¬sequence ≤ repo.state.appliedSequence := by omega
  simp only [Repository.terminalizeEvent, hp, hno, hn, hf, Bool.false_eq_true, if_false]
  cases outcome with
  | applied =>
    simp only [hpr rfl]
    exact ⟨_, rfl⟩
  | _ =>
    cases hs : operation.state <;> simp only [hs, Except.ok.injEq, exists_eq']

theorem andThen_keeps {P : DeviceSyncRepository → Prop} {d : Call} (hh : P d.repository)
    (ht : ∀ repo, P repo → P (further repo).repository) :
    P (d.andThen further).repository := by
  unfold Call.andThen
  split
  · exact ht _ hh
  · exact hh

def Standing (repo : DeviceSyncRepository) : Prop := repo.Sound ∧ repo.IsPlaced

theorem standing_call (hst : Standing repo) (hu : isApplierUse repo input = true)
    (hc : CompletesClear repo input) : Standing (repo.call input).repository :=
  ⟨sound_call hst.1 input, placed_call hst.1 hst.2 hu hc⟩

theorem standing_requestRepair {reason : DeviceSyncReason} (hst : Standing repo) :
    Standing (repo.requestRepair reason).repository :=
  andThen_keeps (standing_call hst rfl trivial) fun _ hr =>
    standing_call hr rfl trivial

theorem standing_recover {recover : Recover} (hst : Standing repo) :
    Standing (repo.recoverUnfinishedApply recover).repository := by
  unfold DeviceSyncRepository.recoverUnfinishedApply
  split
  · exact hst
  split
  · exact hst
  · split
    · exact hst
    · refine andThen_keeps (standing_call hst rfl trivial) fun a ha => ?_
      split
      · exact ha
      · exact standing_requestRepair ha
  · refine andThen_keeps ?_ fun a hp => standing_call hp rfl trivial
    split
    · exact hst
    · exact standing_call hst rfl trivial
  · exact standing_call hst rfl trivial
  · exact standing_requestRepair hst

theorem requestRepair_rows {reason : DeviceSyncReason} :
    (repo.requestRepair reason).repository.remoteApplyOperations = repo.remoteApplyOperations := by
  refine andThen_keeps (P := fun a =>
    a.remoteApplyOperations = repo.remoteApplyOperations) ?_ ?_
  · exact (call_sameRows rfl).rows
  · intro a he
    exact (call_sameRows rfl).rows.trans he

/-! ## Recovery settles the row it reads -/

theorem terminalize_settles {o : TerminalDeviceEvent} {operation : RemoteApplyOperation}
    (hst : Standing repo) (next : o.eventSequence = repo.state.appliedSequence + 1)
    (hf : repo.readRemoteApply o.eventSequence = some operation)
    (hp : o.outcome = .applied → operation.state = .vaultMutated) :
    (repo.call (.terminalizeEvent o)).rejection = none ∧
      ∀ row ∈ (repo.call (.terminalizeEvent o)).repository.remoteApplyOperations,
        row.state.isUnsettled = false := by
  obtain ⟨a, hc⟩ := @terminalizeEvent_accepts repo.toRepository o.eventSequence
    o.outcome o.reason operation next hf hp
  have he : repo.call (.terminalizeEvent o) = repo.lift (.ok a) := by
    show repo.lift _ = _
    rw [hc]
  rw [he]
  refine ⟨rfl, fun row hm => ?_⟩
  rcases terminalizeEvent_rows hst.1.lattice hc row hm with ⟨old, hs⟩ | ⟨_, ap⟩
  · by_contra ho
    have hu : row.state.isUnsettled = true := by simpa using ho
    exact ho (hs ((hst.2.unsettled row old hu).trans next.symm))
  · rw [ap]
    rfl

def AllAcknowledged (repo : DeviceSyncRepository) : Prop :=
  ∀ row ∈ repo.remoteApplyOperations, row.state = .serverAcknowledged

/-- No row is unsettled. -/
def AllSettled (repo : DeviceSyncRepository) : Prop :=
  ∀ row ∈ repo.remoteApplyOperations, row.state.isUnsettled = false

theorem abandon_settles (hst : Standing repo)
    (hr : repo.readUnfinishedApply = some operation) (hp : operation.state = .prepared)
    (hk : ∀ a, (further a).repository.remoteApplyOperations = a.remoteApplyOperations) :
    AllAcknowledged ((repo.call (.abandonRemoteApply operation.eventSequence)).andThen
      further).repository := by
  have hm := (unfinished_mem hr).1
  have ho : operation.state.isUnsettled = true := by
    rw [hp]
    rfl
  have hf := readRemoteApply_of_mem hst.1.lattice hm
  have hd :
      (repo.call (.abandonRemoteApply operation.eventSequence)).repository.remoteApplyOperations =
        repo.remoteApplyOperations.filter fun row =>
          row.eventSequence != operation.eventSequence := by
    simp only [DeviceSyncRepository.call, Repository.abandonRemoteApply, hf, hp,
      bne_self_eq_false, Bool.false_eq_true, if_false]
    rfl
  refine andThen_keeps (P := fun a => AllAcknowledged a) ?_ ?_
  · intro row hke
    rw [hd] at hke
    obtain ⟨old, hot⟩ := List.mem_filter.mp hke
    -- No other row is unsettled, and none is owed while this one is the oldest.
    have hn : row.state.isUnsettled ≠ true := fun hu => by
      have he := (hst.2.unsettled row old hu).trans (hst.2.unsettled operation hm ho).symm
      simp [he] at hot
    have hno := none_owed_of_unsettled hst.2 hr ho row old
    cases hse : row.state with
    | serverAcknowledged => rfl
    | locallyApplied => exact absurd hse hno
    | _ => exact absurd (by rw [hse]; rfl) hn
  · intro a hs row hm
    rw [hk] at hm
    exact hs row hm

theorem mutated_settles {operation : RemoteApplyOperation} {rt : Option Nat}
    (hst : Standing repo) (hr : repo.readUnfinishedApply = some operation)
    (ho : operation.state.isUnsettled = true)
    (hss : operation.state = .prepared → isContentApplyOperation operation.operation = false) :
    let d := repo.recoverUnfinishedApply fun _ => .ok (.mutated rt)
    d.rejection = none ∧ AllSettled d.repository := by
  have hme := (unfinished_mem hr).1
  have hh := hst.2.unsettled operation hme ho
  have hf := readRemoteApply_of_mem hst.1.lattice hme
  unfold DeviceSyncRepository.recoverUnfinishedApply
  rw [hr]
  dsimp only
  by_cases hm : operation.state = .vaultMutated
  · -- The row already carries its proof.
    rw [if_pos (by simp [hm])]
    exact terminalize_settles hst hh hf fun _ => hm
  · have hu : (operation.state == .vaultMutated || operation.state == .locallyApplied ||
        operation.state == .serverAcknowledged) = false := by
      cases hs : operation.state with
      | vaultMutated => exact absurd hs hm
      | locallyApplied => exact absurd ho (by rw [hs]; exact nofun)
      | serverAcknowledged => exact absurd ho (by rw [hs]; exact nofun)
      | _ => rfl
    have hl : isLegalRemoteApplyTransition operation.operation operation.state .vaultMutated =
        true := by
      cases hs : operation.state with
      | prepared => simp [isLegalRemoteApplyTransition, hss hs]
      | tempVerified => simp [isLegalRemoteApplyTransition]
      | vaultMutated => exact absurd hs hm
      | locallyApplied => exact absurd ho (by rw [hs]; exact nofun)
      | serverAcknowledged => exact absurd ho (by rw [hs]; exact nofun)
    let p : RemoteApplyTransition := ⟨operation.eventSequence, .vaultMutated, none, some rt⟩
    have hp : (operation.eventSequence == 0) = false := by simp [hh]
    have hpr : repo.call (.transitionRemoteApply p) = repo.lift (.ok
        (repo.updateRow operation.eventSequence fun row =>
          { row with
            state := .vaultMutated
            tempToken := row.tempToken
            rollbackToken := rt })) := by
      simp only [DeviceSyncRepository.call, p, hp, Bool.false_eq_true, if_false,
        Repository.transitionRemoteApply, hf, hl, Bool.not_true]
      rfl
    rw [if_neg (by rw [hu]; exact Bool.false_ne_true)]
    have ha : Standing (repo.call (.transitionRemoteApply p)).repository :=
      standing_call hst rfl trivial
    show (Call.andThen (repo.call (.transitionRemoteApply p)) _).rejection = none ∧
      AllSettled (Call.andThen (repo.call (.transitionRemoteApply p)) _).repository
    rw [hpr] at ha ⊢
    exact terminalize_settles ha hh (readRemoteApply_updateRow hf fun _ => rfl) fun _ => rfl

/-- What one recovery leaves: either every row is acknowledged, or it did not throw, and left an
unsettled row only behind one that is owed to the server. -/
theorem recover_settles (hst : Standing repo) (hps : repo.Proves recover) :
    AllAcknowledged (repo.recoverUnfinishedApply recover).repository ∨
      ((repo.recoverUnfinishedApply recover).rejection = none ∧
        ((∃ row ∈ repo.remoteApplyOperations, row.state = .locallyApplied) ∨
          AllSettled (repo.recoverUnfinishedApply recover).repository)) := by
  cases hr : repo.readUnfinishedApply with
  | none =>
    left
    unfold DeviceSyncRepository.recoverUnfinishedApply
    rw [hr]
    exact unfinished_none hr
  | some operation =>
    obtain ⟨v, han, hp, hu, hsd⟩ := hps operation hr
    have hm := (unfinished_mem hr).1
    -- Recovery asks about this row alone.
    have he : repo.recoverUnfinishedApply recover = repo.recoverUnfinishedApply fun _ => .ok v := by
      unfold DeviceSyncRepository.recoverUnfinishedApply
      rw [hr]
      dsimp only
      rw [han]
    rw [he]
    cases ho : operation.state.isUnsettled with
    | false =>
      have ha : operation.state = .locallyApplied := by
        cases hs : operation.state with
        | locallyApplied => rfl
        | serverAcknowledged => exact absurd hs (unfinished_mem hr).2
        | _ => exact absurd ho (by rw [hs]; decide)
      right
      have hcl : v = .clean := by
        rw [ha] at hp
        simpa [isPossibleVerdict] using hp
      refine ⟨?_, .inl ⟨operation, hm, ha⟩⟩
      unfold DeviceSyncRepository.recoverUnfinishedApply
      rw [hr, hcl]
      simp [ha, DeviceSyncRepository.commit]
    | true =>
      cases v with
      | clean =>
        have hpr : operation.state = .prepared := by
          cases hs : operation.state with
          | prepared => rfl
          | tempVerified => exact absurd hp (by rw [hs]; decide)
          | vaultMutated => exact absurd hp (by rw [hs]; decide)
          | locallyApplied => exact absurd ho (by rw [hs]; decide)
          | serverAcknowledged => exact absurd ho (by rw [hs]; decide)
        left
        unfold DeviceSyncRepository.recoverUnfinishedApply
        rw [hr]
        dsimp only
        rw [if_neg (by rw [hpr]; decide)]
        refine abandon_settles hst hr hpr fun a => ?_
        split
        · rfl
        · exact requestRepair_rows
      | mutated rt =>
        have hss : operation.state = .prepared →
            isContentApplyOperation operation.operation = false := fun hpr => by
          by_contra hc
          cases hsd hpr (by simpa using hc)
        obtain ⟨hac, hse⟩ := @mutated_settles repo operation rt hst hr ho hss
        exact .inr ⟨hac, .inr hse⟩
      | restored reason =>
        have outcome := @terminalize_settles repo
          ⟨operation.eventSequence, .conflict, some reason⟩ operation hst
          (hst.2.unsettled operation hm ho)
          (readRemoteApply_of_mem hst.1.lattice hm) (by simp)
        right
        unfold DeviceSyncRepository.recoverUnfinishedApply
        rw [hr]
        exact ⟨outcome.1, .inr outcome.2⟩
      | blocked reason => exact absurd rfl (hu reason)

/-! ## A cycle -/

theorem acknowledge_settles (hst : Standing repo) :
    Standing (repo.acknowledgeOwedCursor repo.state.appliedSequence).repository ∧
      ∀ row ∈ (repo.acknowledgeOwedCursor repo.state.appliedSequence).repository
          |>.remoteApplyOperations,
        row.state = .serverAcknowledged ∨
          (row ∈ repo.remoteApplyOperations ∧ row.state.isUnsettled = true) := by
  have hs (row : RemoteApplyOperation) (hn : row.state ≠ .locallyApplied)
      (hm : row ∈ repo.remoteApplyOperations) : row.state = .serverAcknowledged ∨
        (row ∈ repo.remoteApplyOperations ∧ row.state.isUnsettled = true) := by
    cases hse : row.state with
    | serverAcknowledged => exact .inl rfl
    | locallyApplied => exact absurd hse hn
    | _ => exact .inr ⟨hm, rfl⟩
  unfold DeviceSyncRepository.acknowledgeOwedCursor
  split
  · next hno =>
    refine ⟨hst, fun row hm => hs row ?_ hm⟩
    intro ha
    obtain ⟨ho, hw⟩ := hst.2.owed row hm ha
    omega
  · next hde =>
    dsimp only
    rw [Nat.min_self, if_neg hde]
    refine ⟨standing_call hst rfl trivial, ?_⟩
    have hah : ¬repo.state.appliedSequence < repo.state.acknowledgedSequence := by omega
    have hd : (repo.state.appliedSequence == repo.state.acknowledgedSequence) = false := by
      simpa using fun he => hde (Nat.le_of_eq he)
    intro r' hm
    simp only [DeviceSyncRepository.call, Repository.recordServerAcknowledgement, hah, if_false,
      hd, Bool.false_eq_true, Nat.lt_irrefl, gt_iff_lt] at hm
    obtain ⟨row, old, rfl⟩ := List.mem_map.mp hm
    split
    · exact .inl rfl
    · next hk =>
      refine hs row ?_ old
      intro ha
      exact hk (by simp [ha, (hst.2.owed row old ha).2])

/-- After a cycle nothing is owed to the server, and when nothing was owed before it, nothing is
left at all. -/
theorem cycle_settles (hst : Standing repo) (hp : repo.Proves recover) :
    Standing (repo.recoveryCycle recover) ∧
      (∀ row ∈ (repo.recoveryCycle recover).remoteApplyOperations, row.state ≠ .locallyApplied) ∧
      ((∀ row ∈ repo.remoteApplyOperations, row.state ≠ .locallyApplied) →
        AllAcknowledged (repo.recoveryCycle recover)) := by
  have hr := @standing_recover repo recover hst
  unfold DeviceSyncRepository.recoveryCycle Call.andThen
  rcases recover_settles hst hp with all | ⟨hac, hl⟩
  · split
    · obtain ⟨haf, rows⟩ := acknowledge_settles hr
      have acknowledged : AllAcknowledged _ := fun row hm => by
        rcases rows row hm with hd | ⟨old, ho⟩
        · exact hd
        · rw [all row old] at ho
          exact nomatch ho
      exact ⟨haf, fun row hm => by rw [acknowledged row hm]; exact nofun, fun _ => acknowledged⟩
    · exact ⟨hr, fun row hm => by rw [all row hm]; exact nofun, fun _ => all⟩
  · rw [hac]
    obtain ⟨haf, rows⟩ := acknowledge_settles hr
    refine ⟨haf, ?_, ?_⟩
    · intro row hm
      rcases rows row hm with hd | ⟨_, ho⟩
      · rw [hd]
        exact nofun
      · intro ha
        rw [ha] at ho
        exact nomatch ho
    · intro hn row hm
      rcases rows row hm with hd | ⟨old, ho⟩
      · exact hd
      · rcases hl with ⟨o, hh, ha⟩ | hs
        · exact absurd ha (hn o hh)
        · rw [hs row old] at ho
          exact nomatch ho

/-! ## Recovery is no regression -/

theorem andThen_rejection {d : Call} (hr : (d.andThen further).rejection = some refusal)
    :
    d.rejection = some refusal ∨ (further d.repository).rejection = some refusal := by
  unfold Call.andThen at hr
  split at hr
  · exact .inr hr
  · exact .inl hr

theorem lift_rejection (hr : (repo.lift mutation).rejection = some refusal) :
    mutation = .error refusal := by
  cases mutation with
  | ok next => exact nomatch hr
  | error reason =>
    cases Option.some.inj hr
    rfl

theorem requestRepair_refused {reason : DeviceSyncReason}
    (hre : (repo.requestRepair reason).rejection = some refusal) : refusal = .refused := by
  rcases andThen_rejection hre with hra | hs
  · exact nomatch hra
  · have hr := lift_rejection hs
    unfold Repository.startRepairBarrier at hr
    split at hr
    · cases hr
      rfl
    · cases hr

theorem abandon_refused
    (hre : (repo.call (.abandonRemoteApply sequence)).rejection = some refusal) :
    refusal = .refused := by
  have hr := lift_rejection hre
  unfold Repository.abandonRemoteApply at hr
  split at hr
  · split at hr
    · cases hr
      rfl
    · cases hr
  · cases hr
    rfl

theorem transition_blocked {o : RemoteApplyTransition}
    (hr : (repo.call (.transitionRemoteApply o)).rejection = some refusal) :
    refusal = .refused ∨ refusal = .blocked .deviceApplyRecoveryAmbiguous := by
  unfold DeviceSyncRepository.call at hr
  dsimp only at hr
  split at hr
  · cases Option.some.inj hr
    exact .inl rfl
  have hb := lift_rejection hr
  unfold Repository.transitionRemoteApply at hb
  split at hb
  · cases hb
    exact .inr rfl
  split at hb
  · cases hb
    exact .inr rfl
  · cases hb

theorem transition_applied {o : RemoteApplyTransition} :
    (repo.call (.transitionRemoteApply o)).repository.state.appliedSequence =
      repo.state.appliedSequence := by
  unfold DeviceSyncRepository.call
  dsimp only
  split
  · rfl
  unfold Repository.transitionRemoteApply
  split
  · rfl
  split
  · rfl
  · rfl

theorem recover_no_regression (hst : Standing repo)
    (hpo : ∀ operation v, recover operation = .ok v →
      isPossibleVerdict operation.state v = true) :
    (repo.recoverUnfinishedApply recover).rejection ≠ some (.blocked .deviceCursorRegression) := by
  intro hr
  unfold DeviceSyncRepository.recoverUnfinishedApply at hr
  split at hr
  · exact nomatch hr
  next operation hrd =>
    have hm := (unfinished_mem hrd).1
    -- A verdict other than `clean` is about an unsettled row, the next sequence of the cursor.
    have next (v : RemoteApplyRecovery) (ha : recover operation = .ok v)
        (hp : v ≠ .clean) :
        operation.eventSequence = repo.state.appliedSequence + 1 := by
      refine hst.2.unsettled operation hm ?_
      have hv := hpo operation v ha
      cases hs : operation.state with
      | locallyApplied =>
        rw [hs] at hv
        exact absurd (by simpa [isPossibleVerdict] using hv) hp
      | serverAcknowledged =>
        rw [hs] at hv
        exact absurd (by simpa [isPossibleVerdict] using hv) hp
      | _ => rfl
    split at hr
    · exact nomatch hr
    · split at hr
      · exact nomatch hr
      · rcases andThen_rejection hr with hab | hre
        · exact nomatch abandon_refused hab
        · split at hre
          · exact nomatch hre
          · exact nomatch requestRepair_refused hre
    · next rt ha =>
      have hc := next _ ha nofun
      rcases andThen_rejection hr with hp | outcome
      · split at hp
        · exact nomatch hp
        · exact (transition_blocked hp).elim (nomatch ·) (nomatch ·)
      · refine terminalizeEvent_no_regression ?_ (lift_rejection outcome)
        refine hc.trans (congrArg (· + 1) ?_)
        split
        · rfl
        · exact transition_applied.symm
    · next reason ha =>
      exact terminalizeEvent_no_regression (next _ ha nofun) (lift_rejection hr)
    · exact nomatch requestRepair_refused hr

end RecoveryRunsLemmas

open RecoveryRunsLemmas

/-! ## Recovery along guarded runs -/

/-- In a run that completes no repair over an unsettled row, every unsettled row is ahead of the
cursor, no terminal outcome that recovery reports is refused as a regression, and two recovery
cycles in which the writer proves its row leave nothing unfinished. -/
theorem guarded_recovery_settles {repo : DeviceSyncRepository}
    (reached : applierMachine.GuardedReachable CompletesClear repo) :
    (∀ row ∈ repo.remoteApplyOperations, row.state.isUnsettled = true →
      repo.state.appliedSequence < row.eventSequence) ∧
    (∀ row outcome reason, repo.readUnfinishedApply = some row → row.state.isUnsettled = true →
      repo.terminalizeEvent row.eventSequence outcome reason ≠
        .error (.blocked .deviceCursorRegression)) ∧
    (∀ recover : Recover, (∀ operation verdict, recover operation = .ok verdict →
        isPossibleVerdict operation.state verdict = true) →
      (repo.recoverUnfinishedApply recover).rejection ≠ some (.blocked .deviceCursorRegression)) ∧
    ∀ first second, repo.Proves first → (repo.recoveryCycle first).Proves second →
      ((repo.recoveryCycle first).recoveryCycle second).readUnfinishedApply = none := by
  have hst : Standing repo := placed_reachable reached
  refine ⟨?_, ?_, ?_, ?_⟩
  · intro row hm ho
    rw [hst.2.unsettled row hm ho]
    exact Nat.lt_succ_self _
  · intro row outcome reason hr ho
    exact terminalizeEvent_no_regression (hst.2.unsettled row (unfinished_mem hr).1 ho)
  · intro recover hp
    exact recover_no_regression hst hp
  · intro first second hpr hag
    obtain ⟨ha, hn, _⟩ := cycle_settles hst hpr
    exact unfinished_eq_none ((cycle_settles ha hag).2.2 hn)

/-- The executable check of `CompletesClear`. -/
def completesClear (repo : DeviceSyncRepository) : RepositoryCall → Bool
  | .completeRepair input => repo.remoteApplyOperations.all fun row =>
    !row.state.isUnsettled || input.checkpointSequence < row.eventSequence
  | _ => true

theorem completesClear_sound (repo : DeviceSyncRepository) (input : RepositoryCall)
    (hc : completesClear repo input = true) : CompletesClear repo input := by
  cases input with
  | completeRepair o =>
    intro _ _ _ row hm ho
    have hh := List.all_eq_true.mp hc row hm
    rw [ho] at hh
    simpa using hh
  | _ => trivial

/-- A writer that finds the final bytes wherever bytes were staged, and nothing changed before. -/
def stagedWriter : Recover := fun operation =>
  match operation.state with
  | .tempVerified | .vaultMutated => .ok (.mutated operation.tempToken)
  | _ => .ok .clean

def repairAcross (states : List RemoteApplyState) (checkpoint : Nat) : List RepositoryCall :=
  let digest := "00112233445566778899aabbccddeeff00112233445566778899aabbccddeeff"
  [.prepareRemoteApply ⟨1, 1, 1, .created, none, some "a.md", none,
      some ⟨digest, 4, "text/markdown"⟩, some 5, none⟩] ++
    states.map (fun state => .transitionRemoteApply ⟨1, state, none, none⟩) ++
    [.nextObservationGeneration,
      .startRepairBarrier 1 .deviceApplyRecoveryAmbiguous,
      .recordManifestPage ⟨7, 0, 1, digest, checkpoint, some digest⟩,
      .recordManifestAction ⟨7, 0, .conflict, .terminalSafe, none⟩,
      .completeRepair ⟨7, checkpoint, 1⟩]

/-- The repair completes below the interrupted apply. -/
theorem guarded_recovery_settles_staged : ∃ repo,
    applierMachine.GuardedReachable CompletesClear repo ∧
    (repo.readUnfinishedApply.map (·.state) = some .tempVerified) ∧
    ((repo.recoveryCycle stagedWriter).recoveryCycle stagedWriter).readUnfinishedApply = none := by
  have outcome : (applierMachine.run .seeded (repairAcross [.tempVerified] 0)).map
      (fun repo => repo.readUnfinishedApply.map (·.state)) = some (some .tempVerified) := by
    decide +kernel
  have hc : applierMachine.runChecks completesClear .seeded
      (repairAcross [.tempVerified] 0) = true := by
    decide +kernel
  obtain ⟨repo, ran, hst⟩ := Option.map_eq_some_iff.mp outcome
  have hr := Machine.guardedReachable_of_run completesClear_sound rfl ran hc
  have hp (repo : DeviceSyncRepository) : repo.Proves stagedWriter := by
    intro operation _
    cases hs : operation.state with
    | tempVerified =>
      exact ⟨.mutated operation.tempToken, by simp only [stagedWriter, hs], rfl, nofun, nofun⟩
    | vaultMutated =>
      exact ⟨.mutated operation.tempToken, by simp only [stagedWriter, hs], rfl, nofun, nofun⟩
    | _ => exact ⟨.clean, by simp only [stagedWriter, hs], rfl, nofun, fun _ _ => rfl⟩
  exact ⟨repo, hr, hst, (guarded_recovery_settles hr).2.2.2 _ _ (hp _) (hp _)⟩

/-- A created file is in place and its apply interrupted; the writer finds other bytes, asks for
a repair, and the repair completes at a checkpoint that covers the event. From then on the row is
behind the cursor, and every recovery that proves it is refused. -/
theorem repair_over_row_wedges : ∃ repo, applierMachine.Reachable repo ∧
    (∃ row ∈ repo.remoteApplyOperations, row.state.isUnsettled = true ∧
      row.eventSequence ≤ repo.state.appliedSequence) ∧
    ∀ count : Nat, let later := (·.recoveryCycle stagedWriter)^[count] repo
      later.readUnfinishedApply ≠ none ∧ (later.recoverUnfinishedApply stagedWriter).rejection =
          some (.blocked .deviceCursorRegression) := by
  let s := repairAcross [.tempVerified, .vaultMutated] 1
  let r : Option Refusal := some (.blocked .deviceCursorRegression)
  have hb : (applierMachine.run .seeded s).map (fun repo =>
      (repo.remoteApplyOperations.map fun row => (row.eventSequence, row.state),
        repo.state.appliedSequence)) = some ([(1, .vaultMutated)], 1) := by
    decide +kernel
  have hr : (applierMachine.run .seeded s).map (fun repo =>
      (repo.readUnfinishedApply.isSome,
        (repo.recoverUnfinishedApply stagedWriter).rejection)) = some (true, r) := by
    decide +kernel
  have ha : (applierMachine.run .seeded s).map (fun repo =>
      ((repo.recoveryCycle stagedWriter).readUnfinishedApply.isSome,
        ((repo.recoveryCycle stagedWriter).recoverUnfinishedApply stagedWriter).rejection)) =
      some (true, r) := by
    decide +kernel
  have hu : (applierMachine.run .seeded s).map (fun repo =>
      decide ((repo.recoveryCycle stagedWriter).recoveryCycle stagedWriter =
        repo.recoveryCycle stagedWriter)) = some true := by
    decide +kernel
  obtain ⟨repo, ran, ho⟩ := Option.map_eq_some_iff.mp hb
  rw [ran, Option.map_some, Option.some.injEq, Prod.mk.injEq] at hr ha
  rw [ran, Option.map_some, Option.some.injEq, decide_eq_true_eq] at hu
  obtain ⟨rows, applied⟩ := Prod.mk.inj ho
  obtain ⟨hon, hrd⟩ := hr
  obtain ⟨hop, hre⟩ := ha
  refine ⟨repo, Machine.reachable_of_run rfl ran, ?_, ?_⟩
  · have hm : (1, RemoteApplyState.vaultMutated) ∈
        repo.remoteApplyOperations.map fun row => (row.eventSequence, row.state) := by
      rw [rows]
      exact List.mem_singleton_self _
    obtain ⟨row, old, he⟩ := List.mem_map.mp hm
    simp only [Prod.mk.injEq] at he
    refine ⟨row, old, by rw [he.2]; rfl, ?_⟩
    rw [he.1, applied]
  · -- The first refused recovery writes the barrier, and no later one changes anything.
    have hs (count : Nat) : (·.recoveryCycle stagedWriter)^[count + 1] repo =
        repo.recoveryCycle stagedWriter := by
      induction count with
      | zero => rfl
      | succ count ih => rw [Function.iterate_succ_apply', ih, hu]
    intro count
    cases count with
    | zero => exact ⟨Option.isSome_iff_ne_none.mp hon, hrd⟩
    | succ count =>
      dsimp only
      rw [hs count]
      exact ⟨Option.isSome_iff_ne_none.mp hop, hre⟩

end PersonalOs.DeviceSync
