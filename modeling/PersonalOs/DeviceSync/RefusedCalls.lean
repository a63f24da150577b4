import PersonalOs.DeviceSync.ReconciliationTables

/-!
# What a refused call leaves

A blocked call of the repository commits its transaction to keep the repair barrier, so whatever it
wrote before its blocker stays too. One operation writes before its last check: the first final
digest of a run is stored before the page that brings it is checked.

The end of a repair checks the barrier and the run, but not the checkpoint and the actions the run
recorded.
-/

namespace PersonalOs.DeviceSync

/-- The calls that are refused leave nothing but the barrier of a blocked one. -/
structure Call.Atomic (repo : DeviceSyncRepository) (call : Call) : Prop where
  blocked : ∀ reason, call.rejection = some (.blocked reason) →
    call.repository = { repo with toRepository := repo.toRepository.withBarrier reason }
  refused : call.rejection = some .refused → call.repository = repo
  /-- The run's records in particular stay. -/
  manifest : call.rejection.isSome = true →
    call.repository.manifestPages = repo.manifestPages ∧
      call.repository.manifestActions = repo.manifestActions ∧
      call.repository.manifestCheckpointSequence = repo.manifestCheckpointSequence ∧
      call.repository.manifestFinalDigest = repo.manifestFinalDigest

theorem Call.Atomic.of {repo : DeviceSyncRepository} {c : Call}
    (hb : ∀ reason, c.rejection = some (.blocked reason) →
      c.repository = { repo with toRepository := repo.toRepository.withBarrier reason })
    (hre : c.rejection = some .refused → c.repository = repo) : c.Atomic repo := by
  refine ⟨hb, hre, fun hrd => ?_⟩
  obtain ⟨r, hr⟩ := Option.isSome_iff_exists.mp hrd
  cases r with
  | blocked reason =>
    rw [hb reason hr]
    exact ⟨rfl, rfl, rfl, rfl⟩
  | refused =>
    rw [hre hr]
    exact ⟨rfl, rfl, rfl, rfl⟩

namespace DeviceSyncRepository

variable (repo : DeviceSyncRepository)

/-- The page is neither the exact replay of a recorded one nor the next in turn. -/
def RefusesPage (input : LocalManifestPageReceipt) : Prop :=
  match repo.readManifestPage input.manifestRunId input.pageNumber with
  | some existing =>
    existing.entryCount ≠ input.entryCount ∨ existing.pageDigest ≠ input.pageDigest
  | none => input.pageNumber ≠ repo.expectedPageNumber input.manifestRunId

/-- A page of the run under repair that brings its first final digest. -/
structure BringsDigest (input : LocalManifestPageReceipt) : Prop where
  pageDigest : isSha256Hex input.pageDigest = true
  finalDigest : ∃ digest, input.finalDigest = some digest ∧ isSha256Hex digest = true
  repairing : repo.state.barrierGeneration.isSome = true
  fits : repo.pageRunBlocker input = none
  first : repo.manifestFinalDigest = none

/-- The call is a page that brings the first final digest and is refused. -/
def DigestBeforePage : RepositoryCall → Prop
  | .recordManifestPage input => repo.BringsDigest input ∧ repo.RefusesPage input
  | _ => False

end DeviceSyncRepository

/-! ## One operation -/

namespace RefusedCallsLemmas

variable {repo : DeviceSyncRepository} {reason : DeviceSyncReason}
  {input : LocalManifestPageReceipt}

theorem commit_atomic (n : DeviceSyncRepository) : n.commit.Atomic repo := .of nofun nofun

theorem refuse_atomic : repo.refuse.Atomic repo := .of nofun fun _ => rfl

theorem block_atomic : (repo.block reason).Atomic repo := by
  refine .of ?_ nofun
  rintro _ ⟨⟩
  rfl

theorem lift_atomic (m : Mutation) : (repo.lift m).Atomic repo := by
  cases m with
  | ok n => exact .of nofun nofun
  | error r =>
    cases r with
    | blocked reason =>
      refine .of ?_ nofun
      rintro _ ⟨⟩
      rfl
    | refused => exact .of nofun fun _ => rfl

theorem acceptPage_atomic : (repo.acceptPage input).Atomic repo := by
  unfold DeviceSyncRepository.acceptPage
  split
  · split
    · exact block_atomic
    · exact commit_atomic _
  · split
    · exact block_atomic
    · dsimp only
      split
      · exact commit_atomic _
      · exact commit_atomic _

theorem acceptPage_accepted (ha : ¬repo.RefusesPage input) :
    (repo.acceptPage input).rejection = none := by
  unfold DeviceSyncRepository.RefusesPage at ha
  unfold DeviceSyncRepository.acceptPage
  split <;> rename_i hf <;> simp only [hf] at ha
  · push Not at ha
    simp [ha, DeviceSyncRepository.commit]
  · push Not at ha
    simp only [ha, bne_self_eq_false, Bool.false_eq_true, if_false]
    split <;> rfl

theorem acceptPage_refused (hr : repo.RefusesPage input) :
    ∃ reason, repo.acceptPage input = repo.block reason := by
  unfold DeviceSyncRepository.RefusesPage at hr
  unfold DeviceSyncRepository.acceptPage
  split <;> rename_i hf <;> simp only [hf] at hr
  · rw [if_pos (by simpa using hr)]
    exact ⟨_, rfl⟩
  · rw [if_pos (by simpa using hr)]
    exact ⟨_, rfl⟩

theorem refusesPage_withDigest {d : Option String} :
    { repo with manifestFinalDigest := d }.RefusesPage input ↔ repo.RefusesPage input :=
  Iff.rfl

theorem recordManifestPage_brings (hb : repo.BringsDigest input) :
    ∃ d, input.finalDigest = some d ∧ repo.recordManifestPage input =
      { repo with manifestFinalDigest := some d }.acceptPage input := by
  obtain ⟨d, hd, hex⟩ := hb.finalDigest
  refine ⟨d, hd, ?_⟩
  have hr : repo.state.barrierGeneration.isNone = false := by
    rw [← Option.not_isSome, hb.repairing]
    rfl
  simp [DeviceSyncRepository.recordManifestPage, hb.pageDigest, hd, hex, hr, hb.fits, hb.first]

theorem recordManifestPage_atomic_iff : (repo.recordManifestPage input).Atomic repo ↔
      ¬(repo.BringsDigest input ∧ repo.RefusesPage input) := by
  constructor
  · rintro hat ⟨hb, hr⟩
    obtain ⟨d, _, ran⟩ := recordManifestPage_brings hb
    obtain ⟨reason, hbl⟩ := acceptPage_refused (refusesPage_withDigest.mpr hr)
    rw [ran, hbl] at hat
    have hk := (hat.manifest rfl).2.2.2
    rw [hb.first] at hk
    cases hk
  · intro hs
    by_cases hb : repo.BringsDigest input
    · obtain ⟨d, _, ran⟩ := recordManifestPage_brings hb
      have hac : ¬{ repo with manifestFinalDigest := some d }.RefusesPage input :=
        fun hr => hs ⟨hb, hr⟩
      have ha := acceptPage_accepted hac
      rw [← ran] at ha
      exact .of (fun reason hbl => by simp [ha] at hbl) (fun hrd => by simp [ha] at hrd)
    · unfold DeviceSyncRepository.recordManifestPage
      split
      · exact refuse_atomic
      next hex =>
      split
      · exact block_atomic
      next hre =>
      split
      · exact block_atomic
      next hf =>
      split
      · exact acceptPage_atomic
      next d hd hn =>
        -- the only branch that writes first
        refine absurd ⟨?_, ⟨d, hd, ?_⟩, ?_, hf, hn⟩ hb
        · by_contra bad
          simp [bad] at hex
        · by_contra bad
          simp [hd, bad] at hex
        · simpa [Option.isNone_iff_eq_none, Option.isSome_iff_ne_none] using hre
      · split
        · exact block_atomic
        · exact acceptPage_atomic

end RefusedCallsLemmas

open RefusedCallsLemmas

/-! ## Every operation -/

/-- A refused call leaves its barrier at most, unless it is a page that brings the first final
digest and is refused. -/
theorem refused_calls_atomic_iff (repo : DeviceSyncRepository) (input : RepositoryCall) :
    (repo.call input).Atomic repo ↔ ¬repo.DigestBeforePage input := by
  cases input with
  | recordManifestPage input => exact recordManifestPage_atomic_iff
  | nextObservationGeneration | startRepairBarrier | prepareRemoteApply | abandonRemoteApply
  | terminalizeEvent | recordServerAcknowledgement | recordEchoMarker =>
    exact iff_of_true (lift_atomic _) id
  | retireEchoMarkers => exact iff_of_true (commit_atomic _) id
  | persistRepairBarrierReason reason =>
    refine iff_of_true ?_ id
    show (repo.persistRepairBarrierReason reason).Atomic repo
    unfold DeviceSyncRepository.persistRepairBarrierReason
    split
    · exact refuse_atomic
    · exact commit_atomic _
  | advanceRepairBarrierGeneration reason =>
    refine iff_of_true ?_ id
    show (repo.advanceRepairBarrierGeneration reason).Atomic repo
    unfold DeviceSyncRepository.advanceRepairBarrierGeneration
    split
    · exact refuse_atomic
    · exact commit_atomic _
  | discardActiveManifestRun =>
    refine iff_of_true ?_ id
    show repo.discardActiveManifestRun.Atomic repo
    unfold DeviceSyncRepository.discardActiveManifestRun
    split
    · exact refuse_atomic
    · exact commit_atomic _
  | transitionRemoteApply input =>
    refine iff_of_true ?_ id
    unfold DeviceSyncRepository.call
    dsimp only
    split
    · exact refuse_atomic
    · exact lift_atomic _
  | recordManifestAction input =>
    refine iff_of_true ?_ id
    show (repo.recordManifestAction input).Atomic repo
    unfold DeviceSyncRepository.recordManifestAction
    split
    · exact block_atomic
    split
    · exact commit_atomic _
    split
    · exact block_atomic
    split
    · exact commit_atomic _
    · exact commit_atomic _
  | completeRepair input =>
    refine iff_of_true ?_ id
    show (repo.completeRepair input).Atomic repo
    unfold DeviceSyncRepository.completeRepair
    split
    · exact block_atomic
    split
    · exact block_atomic
    · exact commit_atomic _
  | matchAndConsumeEcho input =>
    refine iff_of_true ?_ id
    show (repo.matchAndConsumeEcho input).Atomic repo
    unfold DeviceSyncRepository.matchAndConsumeEcho
    split
    · exact refuse_atomic
    split
    · exact commit_atomic _
    split
    · exact commit_atomic _
    · exact commit_atomic _

/-- A run under repair whose page 1 arrives, with a final digest, before page 0. -/
def repairing : DeviceSyncRepository :=
  { DeviceSyncRepository.seeded with
    state := ⟨0, 0, 1, some 1, some .deviceCursorGap, some 7⟩
    manifestCheckpointSequence := some 4 }

def latePage : LocalManifestPageReceipt where
  manifestRunId := 7
  pageNumber := 1
  entryCount := 1
  pageDigest := String.ofList (List.replicate 64 'a')
  checkpointSequence := 4
  finalDigest := some (String.ofList (List.replicate 64 'b'))

theorem refused_page_keeps_digest :
    ¬∀ (repo : DeviceSyncRepository) (input : RepositoryCall), (repo.call input).Atomic repo := by
  intro ha
  have hk := (ha repairing (.recordManifestPage latePage)).manifest (by decide +kernel)
  exact absurd hk.2.2.2 (by decide +kernel)

/-! ## The end of a repair -/

namespace DeviceSyncRepository

/-- The call is for the active run under its barrier. -/
structure IsBound (repo : DeviceSyncRepository) (input : CompleteLocalRepair) : Prop where
  run : repo.state.activeManifestRunId = some input.manifestRunId
  generation : repo.state.barrierGeneration = some input.barrierGeneration

/-- The call names the recorded checkpoint, and every recorded action of its run is settled. -/
structure IsSettled (repo : DeviceSyncRepository) (input : CompleteLocalRepair) : Prop where
  checkpoint : repo.manifestCheckpointSequence = some input.checkpointSequence
  actions : ∀ action ∈ repo.manifestActions, action.manifestRunId = input.manifestRunId →
    action.outcome = .terminalSafe

def IsBarred (repo : DeviceSyncRepository) (reason : DeviceSyncReason) : Prop :=
  repo.state.barrierGeneration.isSome = true ∧ repo.state.barrierReason = some reason

end DeviceSyncRepository

/-- A repair completes only for the active run, at its recorded checkpoint, with every recorded
action settled and under its barrier; any other call leaves the barrier, the run and the
cursors. -/
structure RepairCompletion (repo : DeviceSyncRepository) (input : CompleteLocalRepair)
    (call : Call) : Prop where
  completed : call.rejection = none → repo.IsBound input ∧ repo.IsSettled input
  otherwise : ¬(repo.IsBound input ∧ repo.IsSettled input) → call.repository = repo

namespace RefusedCallsLemmas

variable {repo : DeviceSyncRepository} {reason : DeviceSyncReason} {input : CompleteLocalRepair}

theorem completeRepair_unbound (hb : ¬repo.IsBound input) :
    repo.completeRepair input = repo.block .deviceManifestStateInvalid := by
  unfold DeviceSyncRepository.completeRepair
  rw [if_pos]
  by_contra hn
  simp only [Bool.or_eq_true, bne_iff_ne, ne_eq, not_or, not_not] at hn
  exact hb ⟨hn.2, hn.1⟩

theorem completeRepair_behind (hb : repo.IsBound input)
    (hl : input.checkpointSequence < repo.state.appliedSequence) :
    repo.completeRepair input = repo.block .deviceCursorRegression := by
  simp [DeviceSyncRepository.completeRepair, hb.run, hb.generation, hl]

theorem completeRepair_completes (hb : repo.IsBound input)
    (hl : ¬input.checkpointSequence < repo.state.appliedSequence) :
    (repo.completeRepair input).rejection = none := by
  simp [DeviceSyncRepository.completeRepair, hb.run, hb.generation, hl,
    DeviceSyncRepository.commit]

theorem block_same_iff : (repo.block reason).repository = repo ↔ repo.IsBarred reason := by
  rcases repo with ⟨⟨⟨applied, acknowledged, observed, generation, barrier, run⟩, rows⟩, _⟩
  cases generation <;> cases barrier <;>
    simp [DeviceSyncRepository.block, Repository.withBarrier, DeviceSyncRepository.IsBarred,
      eq_comm]

end RefusedCallsLemmas

/-- A call meets its contract exactly when it matches what is recorded, or when it is refused and
the barrier that is up names its refusal already. It completes for what is recorded only, exactly
when a call that passes the three checks made has the recorded checkpoint and settled actions. -/
theorem repair_completion_iff (repo : DeviceSyncRepository) (input : CompleteLocalRepair) :
    (RepairCompletion repo input (repo.completeRepair input) ↔
      repo.IsBound input ∧ repo.IsSettled input ∨
      ¬repo.IsBound input ∧ repo.IsBarred .deviceManifestStateInvalid ∨
      repo.IsBound input ∧ input.checkpointSequence < repo.state.appliedSequence ∧
        repo.IsBarred .deviceCursorRegression) ∧
    (((repo.completeRepair input).rejection = none → repo.IsBound input ∧ repo.IsSettled input) ↔
      (repo.IsBound input → repo.state.appliedSequence ≤ input.checkpointSequence →
        repo.IsSettled input)) ∧
    ∀ reason, (repo.completeRepair input).rejection = some (.blocked reason) →
      (repo.completeRepair input).repository =
        { repo with toRepository := repo.toRepository.withBarrier reason } := by
  refine ⟨?_, ?_, ((refused_calls_atomic_iff repo (.completeRepair input)).mpr id).blocked⟩
  · by_cases hm : repo.IsBound input ∧ repo.IsSettled input
    · exact iff_of_true ⟨fun _ => hm, fun h => absurd hm h⟩ (.inl hm)
    by_cases hb : repo.IsBound input
    · by_cases hl : input.checkpointSequence < repo.state.appliedSequence
      · rw [completeRepair_behind hb hl]
        refine ⟨fun hc => .inr (.inr ⟨hb, hl, block_same_iff.mp (hc.otherwise hm)⟩), ?_⟩
        rintro (h | ⟨h, -⟩ | ⟨-, -, h⟩)
        · exact absurd h hm
        · exact absurd hb h
        · exact ⟨nofun, fun _ => block_same_iff.mpr h⟩
      · -- the call completes although the checkpoint or an action does not match
        refine iff_of_false (fun hc => hm (hc.completed (completeRepair_completes hb hl))) ?_
        rintro (h | ⟨h, -⟩ | ⟨-, h, -⟩)
        · exact hm h
        · exact h hb
        · exact hl h
    · rw [completeRepair_unbound hb]
      refine ⟨fun hc => .inr (.inl ⟨hb, block_same_iff.mp (hc.otherwise hm)⟩), ?_⟩
      rintro (h | ⟨-, h⟩ | ⟨h, -⟩)
      · exact absurd h hm
      · exact ⟨nofun, fun _ => block_same_iff.mpr h⟩
      · exact absurd h hb
  · constructor
    · intro hc hb hl
      exact (hc (completeRepair_completes hb (Nat.not_lt.mpr hl))).2
    · intro hs hc
      by_cases hb : repo.IsBound input
      · refine ⟨hb, hs hb (Nat.not_lt.mp fun hl => ?_)⟩
        rw [completeRepair_behind hb hl] at hc
        cases hc
      · rw [completeRepair_unbound hb] at hc
        cases hc

/-- The run under repair recorded checkpoint 4; completed at 3 it moves both cursors there. -/
theorem repair_completes_elsewhere :
    ¬∀ (repo : DeviceSyncRepository) (input : CompleteLocalRepair),
      RepairCompletion repo input (repo.completeRepair input) := by
  intro hc
  have hs := ((hc repairing ⟨7, 3, 1⟩).completed (by decide)).2.checkpoint
  exact absurd hs (by decide)

end PersonalOs.DeviceSync
