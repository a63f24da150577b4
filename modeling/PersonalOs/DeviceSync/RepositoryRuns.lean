import PersonalOs.Basis.Tables
import PersonalOs.DeviceSync.ReconciliationTables

/-!
# What holds in every run of the reconciliation repository

The invariant spans the tables: the two cursors and the barrier of the singleton, the pages and
actions of the one active manifest run, and the keys and states of the apply lattice. Each call
is first described by what it can write to each table; the rest follows from that description.
-/

namespace PersonalOs.DeviceSync

/-! ## The lattice -/

/-- The place of a state in the order of the lattice. -/
def RemoteApplyState.rank : RemoteApplyState → Nat
  | .prepared => 0
  | .tempVerified => 1
  | .vaultMutated => 2
  | .locallyApplied => 3
  | .serverAcknowledged => 4

/-- Where legal transitions of an operation lead. -/
abbrev Forward (operation : DeviceEventOperation) : RemoteApplyState → RemoteApplyState → Prop :=
  Relation.ReflTransGen fun source target =>
    isLegalRemoteApplyTransition operation source target = true

/-- A row after a call: the operand it was prepared with, apart from its two tokens, and a state
the lattice leads to. -/
structure RowMoves (row row' : RemoteApplyOperation) : Prop where
  operand : { row'.toPreparedRemoteApply with
    tempToken := row.tempToken
    rollbackToken := row.rollbackToken } = row.toPreparedRemoteApply
  forward : Forward row.operation row.state row'.state
  rank : row.state.rank ≤ row'.state.rank

/-! ## The invariant -/

structure SoundState (state : DeviceSyncState) : Prop where
  acknowledged : state.acknowledgedSequence ≤ state.appliedSequence
  barrier : ∀ generation, state.barrierGeneration = some generation →
    generation ≤ state.observationGeneration
  repairing : state.activeManifestRunId.isSome = true → state.barrierGeneration.isSome = true

structure SoundLattice (rows : List RemoteApplyOperation) : Prop where
  keys : Tables.Unique (·.eventSequence) rows
  staged : ∀ row ∈ rows, row.state = .tempVerified → isContentApplyOperation row.operation = true

/-- The sound progress of the active run: only its own rows, its pages in contiguous order. -/
structure SoundProgress (run : Option Nat) (pages : List ManifestPageProgress)
    (actions : List LocalManifestActionProgress) : Prop where
  ownPages : ∀ page ∈ pages, run = some page.manifestRunId
  ownActions : ∀ action ∈ actions, run = some action.manifestRunId
  contiguous : pages.map (·.pageNumber) = List.range pages.length
  actionKeys : Tables.Unique (fun action => (action.manifestRunId, action.actionIndex)) actions

/-- The invariant of the whole repository. -/
structure DeviceSyncRepository.Sound (repo : DeviceSyncRepository) : Prop where
  state : SoundState repo.state
  lattice : SoundLattice repo.remoteApplyOperations
  progress : SoundProgress repo.state.activeManifestRunId repo.manifestPages repo.manifestActions

/-! ## What a call writes -/

/-- What a call leaves of the singleton. -/
structure StateWrites (state next : DeviceSyncState) : Prop where
  applied : state.appliedSequence ≤ next.appliedSequence
  acknowledged : state.acknowledgedSequence ≤ next.acknowledgedSequence
  sound : SoundState next

inductive LatticeWrites (input : RepositoryCall) (rows : List RemoteApplyOperation) :
    List RemoteApplyOperation → Prop
  | inserted (operand : PreparedRemoteApply)
      (fresh : ∀ row ∈ rows, row.eventSequence ≠ operand.eventSequence) :
      LatticeWrites input rows
        (rows ++ [{ operand with state := .prepared, safeErrorCode := none }])
  | abandoned (sequence : Nat) (asked : input = .abandonRemoteApply sequence)
      (prepared : ∀ row ∈ rows, row.eventSequence = sequence → row.state = .prepared) :
      LatticeWrites input rows (rows.filter fun row => row.eventSequence != sequence)
  | moved (change : RemoteApplyOperation → RemoteApplyOperation)
      (moves : ∀ row ∈ rows, RowMoves row (change row)) :
      LatticeWrites input rows (rows.map change)

inductive ProgressWrites (run : Option Nat) (pages : List ManifestPageProgress)
    (actions : List LocalManifestActionProgress) :
    Option Nat → List ManifestPageProgress → List LocalManifestActionProgress → Prop
  | kept : ProgressWrites run pages actions run pages actions
  | page (page : ManifestPageProgress) (bound : run = none ∨ run = some page.manifestRunId)
      (next : page.pageNumber = pages.length) :
      ProgressWrites run pages actions (some page.manifestRunId) (pages ++ [page]) actions
  | action (action : LocalManifestActionProgress) (bound : run = some action.manifestRunId)
      (fresh : ∀ other ∈ actions, other.manifestRunId = action.manifestRunId →
        other.actionIndex ≠ action.actionIndex) :
      ProgressWrites run pages actions run pages (actions ++ [action])
  | settled (change : LocalManifestActionProgress → LocalManifestActionProgress)
      (key : ∀ action, (change action).manifestRunId = action.manifestRunId ∧
        (change action).actionIndex = action.actionIndex)
      (kind : ∀ action, (change action).actionKind = action.actionKind)
      (terminal : ∀ action ∈ actions, action.outcome = .terminalSafe → change action = action) :
      ProgressWrites run pages actions run pages (actions.map change)
  | ended : ProgressWrites run pages actions none [] []

structure Writes (repo next : DeviceSyncRepository) (input : RepositoryCall) : Prop where
  state : StateWrites repo.state next.state
  lattice : LatticeWrites input repo.remoteApplyOperations next.remoteApplyOperations
  progress : ProgressWrites repo.state.activeManifestRunId repo.manifestPages repo.manifestActions
    next.state.activeManifestRunId next.manifestPages next.manifestActions

/-- What stays of the records of a repository when a call is made. -/
structure Advances (repo next : DeviceSyncRepository) (input : RepositoryCall) : Prop where
  applied : repo.state.appliedSequence ≤ next.state.appliedSequence
  acknowledged : repo.state.acknowledgedSequence ≤ next.state.acknowledgedSequence
  /-- A page stays as it was recorded until its run ends. -/
  pages : ∀ page ∈ repo.manifestPages, page ∈ next.manifestPages ∨
    (next.state.activeManifestRunId = none ∧ next.manifestPages = [])
  /-- An action keeps its kind, and does not change at all once terminal-safe, until its run
  ends. -/
  actions : ∀ action ∈ repo.manifestActions,
    (∃ action' ∈ next.manifestActions, action'.manifestRunId = action.manifestRunId ∧
      action'.actionIndex = action.actionIndex ∧ action'.actionKind = action.actionKind ∧
      (action.outcome = .terminalSafe → action' = action)) ∨
    (next.state.activeManifestRunId = none ∧ next.manifestActions = [])
  /-- A row moves forward, or was `prepared` and is abandoned. -/
  rows : ∀ row ∈ repo.remoteApplyOperations,
    (∃ row' ∈ next.remoteApplyOperations, RowMoves row row') ∨
    (row.state = .prepared ∧ input = .abandonRemoteApply row.eventSequence ∧
      ∀ other ∈ next.remoteApplyOperations, other.eventSequence ≠ row.eventSequence)

namespace RepositoryRunsLemmas

/-! ## Moving along the lattice -/

variable {source : RemoteApplyState} {row row' : RemoteApplyOperation} {repo : DeviceSyncRepository}
  {reason : DeviceSyncReason} {sequence : Nat} {operand : LocalManifestPageReceipt}

theorem legal_rank {o : DeviceEventOperation} {t : RemoteApplyState}
    (hl : isLegalRemoteApplyTransition o source t = true) :
    source.rank < t.rank := by
  revert hl
  cases o <;> cases source <;> cases t <;> decide

theorem forward_rank {o : DeviceEventOperation} {t : RemoteApplyState}
    (hf : Forward o source t) : source.rank ≤ t.rank := by
  induction hf with
  | refl => exact Nat.le_refl _
  | tail _ hl ih => exact Nat.le_trans ih (Nat.le_of_lt (legal_rank hl))

theorem forward_tempVerified {o : DeviceEventOperation} (hf : Forward o source .tempVerified) :
    source = .tempVerified ∨ isContentApplyOperation o = true := by
  rcases Relation.ReflTransGen.cases_tail hf with he | ⟨b, _, hl⟩
  · exact .inl he.symm
  · simp only [isLegalRemoteApplyTransition, Bool.and_eq_true] at hl
    exact .inr hl.2

theorem forward_locallyApplied {o : DeviceEventOperation}
    (hs : source = .tempVerified → isContentApplyOperation o = true)
    (hu : source ≠ .serverAcknowledged) :
    Forward o source .locallyApplied := by
  cases source with
  | prepared =>
    cases hc : isContentApplyOperation o with
    | true =>
      -- A content operation passes through `temp_verified` on the way.
      refine .head (b := .tempVerified) ?_ (.single ?_)
      · simp [isLegalRemoteApplyTransition, hc]
      · simp [isLegalRemoteApplyTransition, hc]
    | false => exact .single (by simp [isLegalRemoteApplyTransition, hc])
  | tempVerified => exact .single (by simp [isLegalRemoteApplyTransition, hs rfl])
  | vaultMutated => exact .single (by simp [isLegalRemoteApplyTransition])
  | locallyApplied => exact .refl
  | serverAcknowledged => exact absurd rfl hu

theorem RowMoves.of_forward (operand : { row'.toPreparedRemoteApply with
      tempToken := row.tempToken
      rollbackToken := row.rollbackToken } = row.toPreparedRemoteApply)
    (hf : Forward row.operation row.state row'.state) : RowMoves row row' :=
  ⟨operand, hf, forward_rank hf⟩

theorem RowMoves.refl (row : RemoteApplyOperation) : RowMoves row row :=
  RowMoves.of_forward rfl .refl

theorem RowMoves.eventSequence (hm : RowMoves row row') :
    row'.eventSequence = row.eventSequence := by
  have he := congrArg PreparedRemoteApply.eventSequence hm.operand
  exact he

theorem RowMoves.operation (hm : RowMoves row row') : row'.operation = row.operation := by
  have he := congrArg PreparedRemoteApply.operation hm.operand
  exact he

variable {input : RepositoryCall} {rows rows' : List RemoteApplyOperation}

theorem LatticeWrites.same : LatticeWrites input rows rows := by
  have hv : LatticeWrites input rows (rows.map id) := .moved id fun row _ => RowMoves.refl row
  rwa [List.map_id] at hv

theorem sound_lattice (hw : LatticeWrites input rows rows') (hs : SoundLattice rows) :
    SoundLattice rows' := by
  cases hw with
  | inserted operand hfr =>
    refine ⟨hs.keys.snoc (Tables.lookup_none_iff.mpr hfr), ?_⟩
    intro row hm hst
    rcases List.mem_append.mp hm with old | new
    · exact hs.staged row old hst
    · cases List.mem_singleton.mp new
      exact nomatch hst
  | abandoned sequence _ _ =>
    refine ⟨hs.keys.sublist (List.filter_sublist.map _), ?_⟩
    intro row hm
    exact hs.staged row (List.mem_filter.mp hm).1
  | moved c hmo =>
    constructor
    · have he : (rows.map c).map (·.eventSequence) = rows.map (·.eventSequence) := by
        rw [List.map_map]
        exact List.map_congr_left fun row hm => RowMoves.eventSequence (hmo row hm)
      rw [Tables.Unique, he]
      exact hs.keys
    · intro row' hm hst
      obtain ⟨row, old, rfl⟩ := List.mem_map.mp hm
      have hme := hmo row old
      have hf := hme.forward
      rw [hst] at hf
      rw [RowMoves.operation hme]
      rcases forward_tempVerified hf with hb | hc
      · exact hs.staged row old hb
      · exact hc

theorem rows_advance (hw : LatticeWrites input rows rows') :
    ∀ row ∈ rows, (∃ row' ∈ rows', RowMoves row row') ∨
      (row.state = .prepared ∧ input = .abandonRemoteApply row.eventSequence ∧
        ∀ o ∈ rows', o.eventSequence ≠ row.eventSequence) := by
  intro row hm
  cases hw with
  | inserted operand hf => exact .inl ⟨row, List.mem_append_left _ hm, RowMoves.refl row⟩
  | abandoned sequence ha hp =>
    by_cases hd : row.eventSequence = sequence
    · refine .inr ⟨hp row hm hd, by rw [ha, hd], ?_⟩
      intro o hk he
      have hdi := (List.mem_filter.mp hk).2
      rw [he, hd] at hdi
      simp at hdi
    · exact .inl ⟨row, List.mem_filter.mpr ⟨hm, by simpa using hd⟩, RowMoves.refl row⟩
  | moved c hmo =>
    exact .inl ⟨c row, List.mem_map_of_mem hm, hmo row hm⟩

/-! ## The progress of a run -/

variable {run run' : Option Nat} {pages pages' : List ManifestPageProgress}
  {actions actions' : List LocalManifestActionProgress}

theorem sound_progress (hw : ProgressWrites run pages actions run' pages' actions')
    (hs : SoundProgress run pages actions) : SoundProgress run' pages' actions' := by
  cases hw with
  | kept => exact hs
  | page p hb hn =>
    refine ⟨?_, ?_, ?_, hs.actionKeys⟩
    · intro o hm
      rcases List.mem_append.mp hm with old | new
      · rcases hb with hu | hb
        · exact absurd (hs.ownPages o old) (by simp [hu])
        · rw [← hb]
          exact hs.ownPages o old
      · rw [List.mem_singleton.mp new]
    · intro a hm
      rcases hb with hu | hb
      · exact absurd (hs.ownActions a hm) (by simp [hu])
      · rw [← hb]
        exact hs.ownActions a hm
    · rw [List.map_append, hs.contiguous, List.length_append, List.length_singleton,
        List.range_succ, List.map_singleton, hn]
  | action a hb hf =>
    refine ⟨hs.ownPages, ?_, hs.contiguous, ?_⟩
    · intro o hm
      rcases List.mem_append.mp hm with old | new
      · exact hs.ownActions o old
      · rw [List.mem_singleton.mp new]
        exact hb
    · refine hs.actionKeys.snoc (Tables.lookup_none_iff.mpr ?_)
      intro o hm he
      exact hf o hm (congrArg Prod.fst he) (congrArg Prod.snd he)
  | settled c key hk ht =>
    refine ⟨hs.ownPages, ?_, hs.contiguous, ?_⟩
    · intro a' hm
      obtain ⟨a, old, rfl⟩ := List.mem_map.mp hm
      rw [(key a).1]
      exact hs.ownActions a old
    · have he : (actions.map c).map (fun a => (a.manifestRunId, a.actionIndex))
          = actions.map (fun a => (a.manifestRunId, a.actionIndex)) := by
        rw [List.map_map]
        exact List.map_congr_left fun a _ => Prod.ext (key a).1 (key a).2
      rw [Tables.Unique, he]
      exact hs.actionKeys
  | ended => exact ⟨by simp, by simp, rfl, List.nodup_nil⟩

theorem pages_advance (hw : ProgressWrites run pages actions run' pages' actions') :
    ∀ p ∈ pages, p ∈ pages' ∨ (run' = none ∧ pages' = []) := by
  intro p hm
  cases hw with
  | page new _ _ => exact .inl (List.mem_append_left _ hm)
  | ended => exact .inr ⟨rfl, rfl⟩
  | kept => exact .inl hm
  | action _ _ _ => exact .inl hm
  | settled _ _ _ _ => exact .inl hm

theorem actions_advance (hw : ProgressWrites run pages actions run' pages' actions') :
    ∀ a ∈ actions, (∃ a' ∈ actions', a'.manifestRunId = a.manifestRunId ∧
        a'.actionIndex = a.actionIndex ∧ a'.actionKind = a.actionKind ∧
        (a.outcome = .terminalSafe → a' = a)) ∨
      (run' = none ∧ actions' = []) := by
  intro a hm
  cases hw with
  | kept => exact .inl ⟨a, hm, rfl, rfl, rfl, fun _ => rfl⟩
  | page _ _ _ => exact .inl ⟨a, hm, rfl, rfl, rfl, fun _ => rfl⟩
  | action _ _ _ =>
    exact .inl ⟨a, List.mem_append_left _ hm, rfl, rfl, rfl, fun _ => rfl⟩
  | settled c key hk ht =>
    exact .inl ⟨c a, List.mem_map_of_mem hm, (key a).1, (key a).2, hk a, ht a hm⟩
  | ended => exact .inr ⟨rfl, rfl⟩

theorem sound_of_writes {n : DeviceSyncRepository} (hw : Writes repo n input)
    (hs : repo.Sound) : n.Sound :=
  ⟨hw.state.sound, sound_lattice hw.lattice hs.lattice, sound_progress hw.progress hs.progress⟩

theorem advances_of_writes {n : DeviceSyncRepository} (hw : Writes repo n input) :
    Advances repo n input :=
  ⟨hw.state.applied, hw.state.acknowledged, pages_advance hw.progress,
    actions_advance hw.progress, rows_advance hw.lattice⟩

/-! ## The singleton -/

theorem StateWrites.same {s : DeviceSyncState} (hs : SoundState s) : StateWrites s s :=
  ⟨Nat.le_refl _, Nat.le_refl _, hs⟩

theorem barrier_writes {repo : Repository} (hs : SoundState repo.state)
    (reason : DeviceSyncReason) : StateWrites repo.state (repo.withBarrier reason).state := by
  refine ⟨Nat.le_refl _, Nat.le_refl _, hs.acknowledged, ?_, fun _ => rfl⟩
  intro g ho
  cases ha : repo.state.barrierGeneration with
  | none =>
    simp only [Repository.withBarrier, ha, Option.getD_none, Option.some.injEq] at ho
    exact Nat.le_of_eq ho.symm
  | some f =>
    simp only [Repository.withBarrier, ha, Option.getD_some, Option.some.injEq] at ho
    exact hs.barrier g (by rw [ha, ho])

theorem block_writes (hs : SoundState repo.state) (reason : DeviceSyncReason) :
    Writes repo (repo.block reason).repository input :=
  ⟨barrier_writes hs reason, LatticeWrites.same, .kept⟩

theorem same_writes (hs : SoundState repo.state) : Writes repo repo input :=
  ⟨StateWrites.same hs, LatticeWrites.same, .kept⟩

theorem lift_writes {m : Mutation} (hs : SoundState repo.state)
    (hc : ∀ n, m = .ok n → StateWrites repo.state n.state ∧
      n.state.activeManifestRunId = repo.state.activeManifestRunId ∧
      LatticeWrites input repo.remoteApplyOperations n.remoteApplyOperations) :
    Writes repo (repo.lift m).repository input := by
  rcases m with (reason | _) | n
  · exact block_writes hs reason
  · exact same_writes hs
  · obtain ⟨hst, run, hl⟩ := hc n rfl
    refine ⟨hst, hl, ?_⟩
    show ProgressWrites _ _ _ n.state.activeManifestRunId _ _
    rw [run]
    exact .kept

/-! ## The base mutations -/

theorem nextObservationGeneration_writes (hs : SoundState repo.state) :
    Writes repo (repo.call .nextObservationGeneration).repository input := by
  refine lift_writes hs ?_
  intro n hc
  cases hc
  refine ⟨⟨Nat.le_refl _, Nat.le_refl _, hs.acknowledged, ?_, hs.repairing⟩, rfl,
    LatticeWrites.same⟩
  intro g ha
  exact Nat.le_succ_of_le (hs.barrier g ha)

theorem startRepairBarrier_writes {g : Nat} (hs : SoundState repo.state) :
    Writes repo (repo.call (.startRepairBarrier g reason)).repository input := by
  refine lift_writes hs ?_
  intro n hc
  unfold Repository.startRepairBarrier at hc
  split at hc
  · cases hc
  · next hfr =>
    cases hc
    simp only [Bool.or_eq_true, not_or, bne_iff_ne, ne_eq, not_not] at hfr
    refine ⟨⟨Nat.le_refl _, Nat.le_refl _, hs.acknowledged, ?_, fun _ => rfl⟩, rfl,
      LatticeWrites.same⟩
    intro s hf
    cases hf
    exact Nat.le_of_eq hfr.2

theorem fresh_of_readRemoteApply {repo : Repository} (hm : repo.readRemoteApply sequence = none) :
    ∀ row ∈ repo.remoteApplyOperations, row.eventSequence ≠ sequence := by
  intro row hme he
  have hd := List.find?_eq_none.mp hm row hme
  simp [he] at hd

theorem eq_of_readRemoteApply {repo : Repository} {o : RemoteApplyOperation}
    (hs : SoundLattice repo.remoteApplyOperations)
    (hf : repo.readRemoteApply sequence = some o)
    (hm : row ∈ repo.remoteApplyOperations) (he : row.eventSequence = sequence) :
    row = o := by
  refine hs.keys.eq_of_key hm (List.mem_of_find?_eq_some hf) ?_
  have key : o.eventSequence = sequence := by
    simpa using List.find?_some hf
  rw [he, key]

theorem prepareRemoteApply_writes {operand : PreparedRemoteApply} (hs : SoundState repo.state) :
    Writes repo (repo.call (.prepareRemoteApply operand)).repository input := by
  refine lift_writes hs ?_
  intro n hc
  rcases Repository.prepareRemoteApply_cases hc with ⟨rfl, -⟩ | ⟨hm, rfl⟩
  · exact ⟨StateWrites.same hs, rfl, LatticeWrites.same⟩
  · exact ⟨StateWrites.same hs, rfl, .inserted operand (fresh_of_readRemoteApply hm)⟩

theorem recordEchoMarker_writes {m : EchoMarker} (hs : SoundState repo.state) :
    Writes repo (repo.call (.recordEchoMarker m)).repository input := by
  refine lift_writes hs ?_
  intro n hc
  unfold Repository.recordEchoMarker at hc
  split at hc
  · cases hc
  split at hc
  · split at hc
    · cases hc
      exact ⟨StateWrites.same hs, rfl, LatticeWrites.same⟩
    · cases hc
  · cases hc
    exact ⟨StateWrites.same hs, rfl, LatticeWrites.same⟩

theorem abandonRemoteApply_writes (hs : repo.Sound) :
    Writes repo (repo.call (.abandonRemoteApply sequence)).repository
      (.abandonRemoteApply sequence) := by
  refine lift_writes hs.state ?_
  intro n hc
  obtain ⟨o, hf, hp, rfl⟩ := Repository.abandonRemoteApply_cases hc
  refine ⟨StateWrites.same hs.state, rfl, .abandoned sequence rfl ?_⟩
  intro row hm he
  rw [eq_of_readRemoteApply hs.lattice hf hm he]
  exact hp

theorem updateRow_writes {repo : Repository} {o : RemoteApplyOperation}
    {c : RemoteApplyOperation → RemoteApplyOperation}
    (hs : SoundLattice repo.remoteApplyOperations)
    (hf : repo.readRemoteApply sequence = some o)
    (hmo : RowMoves o (c o)) :
    LatticeWrites input repo.remoteApplyOperations
      (repo.updateRow sequence c).remoteApplyOperations := by
  refine .moved _ fun row hm => ?_
  split
  · next he =>
    rw [eq_of_readRemoteApply hs hf hm (by simpa using he)]
    exact hmo
  · exact RowMoves.refl row

theorem transitionRemoteApply_writes {operand : RemoteApplyTransition} (hs : repo.Sound) :
    Writes repo (repo.call (.transitionRemoteApply operand)).repository input := by
  unfold DeviceSyncRepository.call
  dsimp only
  split
  · exact same_writes hs.state
  refine lift_writes hs.state ?_
  intro n hc
  obtain ⟨o, hf, hl, rfl⟩ := Repository.transitionRemoteApply_cases hc
  refine ⟨StateWrites.same hs.state, rfl, updateRow_writes hs.lattice hf ?_⟩
  exact RowMoves.of_forward rfl (.single hl)

theorem closes_row {o : RemoteApplyOperation} (hs : SoundLattice rows)
    (hm : o ∈ rows) (hu : o.state ≠ .serverAcknowledged)
    (reason : Option DeviceSyncReason) :
    RowMoves o { o with state := .locallyApplied, safeErrorCode := reason } :=
  RowMoves.of_forward rfl (forward_locallyApplied (hs.staged o hm) hu)

/-- A terminal outcome moves the applied cursor, and leaves the lattice alone or closes the row
of its event. -/
theorem terminalizeEvent_commits {repo n : Repository} {oc : TerminalOutcome}
    {reason : Option DeviceSyncReason} (hs : SoundLattice repo.remoteApplyOperations)
    (hc : repo.terminalizeEvent sequence oc reason = .ok n) :
    n.state = { repo.state with appliedSequence := sequence } ∧
      LatticeWrites input repo.remoteApplyOperations n.remoteApplyOperations := by
  obtain ⟨-, _, rfl, ⟨rfl, -⟩ | ⟨o, c, hf, hu, rfl⟩⟩ := Repository.terminalizeEvent_cases hc
  · exact ⟨rfl, LatticeWrites.same⟩
  · exact ⟨rfl, updateRow_writes hs hf (closes_row hs (List.mem_of_find?_eq_some hf) hu (c o))⟩

theorem terminalizeEvent_writes {operand : TerminalDeviceEvent} (hs : repo.Sound) :
    Writes repo (repo.call (.terminalizeEvent operand)).repository input := by
  refine lift_writes hs.state ?_
  intro n hc
  have hco := (Repository.terminalizeEvent_ok hc).1
  have hcs : _ ∧ LatticeWrites input _ _ := terminalizeEvent_commits hs.lattice hc
  obtain ⟨hst, hl⟩ := hcs
  rw [hst]
  have ha : repo.state.appliedSequence ≤ operand.eventSequence := hco ▸ Nat.le_succ _
  exact ⟨⟨ha, Nat.le_refl _, Nat.le_trans hs.state.acknowledged ha, hs.state.barrier,
    hs.state.repairing⟩, rfl, hl⟩

theorem acknowledged_writes (sequence : Nat) : LatticeWrites input rows (rows.map fun row =>
      if row.eventSequence ≤ sequence && row.state == .locallyApplied then
        { row with state := .serverAcknowledged }
      else row) := by
  refine .moved _ fun row _ => ?_
  split
  · next hs =>
    simp only [Bool.and_eq_true, beq_iff_eq] at hs
    refine RowMoves.of_forward rfl (.single ?_)
    simp [isLegalRemoteApplyTransition, hs.2]
  · exact RowMoves.refl row

theorem recordServerAcknowledgement_writes (hs : SoundState repo.state) :
    Writes repo (repo.call (.recordServerAcknowledgement sequence)).repository input := by
  refine lift_writes hs ?_
  intro n hc
  unfold Repository.recordServerAcknowledgement at hc
  split at hc
  · cases hc
  split at hc
  · cases hc
    exact ⟨StateWrites.same hs, rfl, LatticeWrites.same⟩
  split at hc
  · cases hc
  next hf _ hw =>
    cases hc
    exact ⟨⟨Nat.le_refl _, Nat.le_of_not_lt hf, Nat.le_of_not_lt hw, hs.barrier,
      hs.repairing⟩, rfl, acknowledged_writes sequence⟩

/-! ## The barrier and the manifest run -/

theorem persistRepairBarrierReason_writes (hs : SoundState repo.state) :
    Writes repo (repo.call (.persistRepairBarrierReason reason)).repository input := by
  unfold DeviceSyncRepository.call DeviceSyncRepository.persistRepairBarrierReason
  dsimp only
  split
  · exact same_writes hs
  · exact ⟨⟨Nat.le_refl _, Nat.le_refl _, hs.acknowledged, hs.barrier, hs.repairing⟩,
      LatticeWrites.same, .kept⟩

theorem advanceRepairBarrierGeneration_writes (hs : SoundState repo.state) :
    Writes repo (repo.call (.advanceRepairBarrierGeneration reason)).repository input := by
  unfold DeviceSyncRepository.call DeviceSyncRepository.advanceRepairBarrierGeneration
  dsimp only
  split
  · exact same_writes hs
  · refine ⟨⟨Nat.le_refl _, Nat.le_refl _, hs.acknowledged, ?_, fun _ => rfl⟩,
      LatticeWrites.same, .kept⟩
    intro g ha
    cases ha
    exact Nat.le_refl _

theorem pagesOf_bound {run : Nat} (hs : repo.Sound)
    (hb : repo.state.activeManifestRunId = none ∨ repo.state.activeManifestRunId = some run) :
    repo.pagesOf run = repo.manifestPages := by
  refine List.filter_eq_self.mpr fun p hm => ?_
  have own := hs.progress.ownPages p hm
  rcases hb with hu | hb
  · rw [hu] at own
    exact nomatch own
  · rw [hb] at own
    simpa using (Option.some.inj own).symm

theorem expectedPageNumber_bound {run : Nat} (hs : repo.Sound)
    (hb : repo.state.activeManifestRunId = none ∨ repo.state.activeManifestRunId = some run) :
    repo.expectedPageNumber run = repo.manifestPages.length := by
  unfold DeviceSyncRepository.expectedPageNumber
  rw [pagesOf_bound hs hb, hs.progress.contiguous]
  cases repo.manifestPages.length with
  | zero => rfl
  | succ c =>
    have hl : (List.range (c + 1)).max? = some c := by
      refine List.max?_eq_some_iff.mpr ⟨List.mem_range.mpr (Nat.lt_succ_self _), ?_⟩
      intro n hm
      exact Nat.le_of_lt_succ (List.mem_range.mp hm)
    rw [hl]

theorem acceptPage_writes (hs : repo.Sound) (hr : repo.state.barrierGeneration.isSome = true)
    (hb : repo.state.activeManifestRunId = none ∨
      repo.state.activeManifestRunId = some operand.manifestRunId) :
    Writes repo (repo.acceptPage operand).repository input := by
  unfold DeviceSyncRepository.acceptPage
  split
  · split
    · exact block_writes hs.state _
    · exact same_writes hs.state
  split
  · exact block_writes hs.state _
  next hi =>
    have hn : operand.pageNumber = repo.manifestPages.length := by
      rw [← expectedPageNumber_bound hs hb]
      simpa using hi
    dsimp only
    split
    · exact ⟨⟨Nat.le_refl _, Nat.le_refl _, hs.state.acknowledged, hs.state.barrier,
        fun _ => hr⟩, LatticeWrites.same, .page ⟨_, _, _, _⟩ hb hn⟩
    · next ha =>
      have run : repo.state.activeManifestRunId = some operand.manifestRunId := by
        rcases hb with hu | hb
        · exact absurd (by rw [hu]; rfl) ha
        · exact hb
      let p : ManifestPageProgress :=
        ⟨operand.manifestRunId, operand.pageNumber, operand.entryCount, operand.pageDigest⟩
      have hw : ProgressWrites repo.state.activeManifestRunId repo.manifestPages
          repo.manifestActions (some operand.manifestRunId) (repo.manifestPages ++ [p])
          repo.manifestActions := .page p hb hn
      rw [← run] at hw
      exact ⟨StateWrites.same hs.state, LatticeWrites.same, hw⟩

theorem bound_of_pageRunBlocker (hf : repo.pageRunBlocker operand = none) :
    repo.state.activeManifestRunId = none ∨
      repo.state.activeManifestRunId = some operand.manifestRunId := by
  unfold DeviceSyncRepository.pageRunBlocker at hf
  split at hf
  · next hu => exact .inl hu
  · next run hb =>
    split at hf
    · cases hf
    · next hs =>
      have he : operand.manifestRunId = run := by simpa using hs
      exact .inr (by rw [hb, he])

theorem recordManifestPage_writes (hs : repo.Sound) :
    Writes repo (repo.call (.recordManifestPage operand)).repository input := by
  unfold DeviceSyncRepository.call DeviceSyncRepository.recordManifestPage
  dsimp only
  split
  · exact same_writes hs.state
  split
  · exact block_writes hs.state _
  next hc =>
    have hr : repo.state.barrierGeneration.isSome = true := by
      cases hba : repo.state.barrierGeneration with
      | none => exact absurd (by rw [hba]; rfl) hc
      | some _ => rfl
    split
    · exact block_writes hs.state _
    · next hf =>
      have hb := bound_of_pageRunBlocker hf
      split
      · exact acceptPage_writes hs hr hb
      · next d _ _ =>
        -- The digest column is no part of the invariant, so the written repository is as sound.
        have hwr : ({ repo with manifestFinalDigest := some d } :
            DeviceSyncRepository).Sound := ⟨hs.state, hs.lattice, hs.progress⟩
        have hw : Writes _ _ input := acceptPage_writes hwr hr hb
        exact ⟨hw.state, hw.lattice, hw.progress⟩
      · split
        · exact block_writes hs.state _
        · exact acceptPage_writes hs hr hb

theorem recordManifestAction_writes {operand : LocalManifestActionProgress} (hs : repo.Sound) :
    Writes repo (repo.call (.recordManifestAction operand)).repository input := by
  unfold DeviceSyncRepository.call DeviceSyncRepository.recordManifestAction
  dsimp only
  split
  · exact block_writes hs.state _
  next hb =>
    split
    · next hmi =>
      refine ⟨StateWrites.same hs.state, LatticeWrites.same, .action operand (by simpa using hb) ?_⟩
      intro o hm hsn hsa
      have hd := List.find?_eq_none.mp hmi o hm
      simp [hsn, hsa] at hd
    · next e hf =>
      split
      · exact block_writes hs.state _
      split
      · next hu =>
        simp only [Bool.and_eq_true, bne_iff_ne, ne_eq] at hu
        refine ⟨StateWrites.same hs.state, LatticeWrites.same, .settled _ ?_ ?_ ?_⟩
        · intro a
          split
          · exact ⟨rfl, rfl⟩
          · exact ⟨rfl, rfl⟩
        · intro a
          split
          · rfl
          · rfl
        · intro a hm ht
          split
          · next he =>
            -- The upgraded row is the one that was found, which was not terminal-safe.
            have key := List.find?_some hf
            simp only [Bool.and_eq_true, beq_iff_eq] at key he
            have heq : a = e := hs.progress.actionKeys.eq_of_key hm (List.mem_of_find?_eq_some hf)
                (Prod.ext (he.1.trans key.1.symm) (he.2.trans key.2.symm))
            rw [heq] at ht
            exact absurd ht hu.2
          · rfl
      · exact same_writes hs.state

/-! ## The end of a run -/

theorem completed_progress {run : Nat} (hs : repo.Sound)
    (hb : repo.state.activeManifestRunId = some run) :
    repo.manifestPages.filter (·.manifestRunId != run) = [] ∧
      repo.manifestActions.filter (·.manifestRunId != run) = [] := by
  constructor
  · refine List.filter_eq_nil_iff.mpr fun p hm => ?_
    have own := hs.progress.ownPages p hm
    rw [hb] at own
    simp [Option.some.inj own]
  · refine List.filter_eq_nil_iff.mpr fun a hm => ?_
    have own := hs.progress.ownActions a hm
    rw [hb] at own
    simp [Option.some.inj own]

theorem completeRepair_writes {operand : CompleteLocalRepair} (hs : repo.Sound) :
    Writes repo (repo.call (.completeRepair operand)).repository input := by
  unfold DeviceSyncRepository.call DeviceSyncRepository.completeRepair
  dsimp only
  split
  · exact block_writes hs.state _
  next hm =>
    split
    · exact block_writes hs.state _
    next hf =>
      simp only [Bool.or_eq_true, bne_iff_ne, ne_eq, not_or, not_not] at hm
      have ha := Nat.le_of_not_lt hf
      obtain ⟨pages, actions⟩ := completed_progress hs hm.2
      refine ⟨⟨ha, Nat.le_trans hs.state.acknowledged ha, Nat.le_refl _, nofun, nofun⟩,
        acknowledged_writes operand.checkpointSequence, ?_⟩
      show ProgressWrites _ _ _ none _ _
      simp only [DeviceSyncRepository.commit]
      rw [pages, actions]
      exact .ended

theorem discardActiveManifestRun_writes (hs : SoundState repo.state) :
    Writes repo (repo.call .discardActiveManifestRun).repository input := by
  unfold DeviceSyncRepository.call DeviceSyncRepository.discardActiveManifestRun
  dsimp only
  split
  · exact same_writes hs
  · exact ⟨⟨Nat.le_refl _, Nat.le_refl _, hs.acknowledged, hs.barrier, nofun⟩,
      LatticeWrites.same, .ended⟩

theorem matchAndConsumeEcho_writes {o : VaultObservation} (hs : SoundState repo.state) :
    Writes repo (repo.call (.matchAndConsumeEcho o)).repository input := by
  unfold DeviceSyncRepository.call DeviceSyncRepository.matchAndConsumeEcho
  dsimp only
  split
  · exact same_writes hs
  split
  · exact same_writes hs
  split
  · exact ⟨StateWrites.same hs, LatticeWrites.same, .kept⟩
  · exact same_writes hs

/-! ## Every call -/

theorem call_writes (hs : repo.Sound) (input : RepositoryCall) :
    Writes repo (repo.call input).repository input := by
  cases input with
  | nextObservationGeneration => exact nextObservationGeneration_writes hs.state
  | startRepairBarrier g reason => exact startRepairBarrier_writes hs.state
  | persistRepairBarrierReason reason => exact persistRepairBarrierReason_writes hs.state
  | advanceRepairBarrierGeneration reason =>
    exact advanceRepairBarrierGeneration_writes hs.state
  | recordManifestPage operand => exact recordManifestPage_writes hs
  | recordManifestAction operand => exact recordManifestAction_writes hs
  | prepareRemoteApply operand => exact prepareRemoteApply_writes hs.state
  | abandonRemoteApply sequence => exact abandonRemoteApply_writes hs
  | transitionRemoteApply operand => exact transitionRemoteApply_writes hs
  | terminalizeEvent operand => exact terminalizeEvent_writes hs
  | recordServerAcknowledgement sequence => exact recordServerAcknowledgement_writes hs.state
  | completeRepair operand => exact completeRepair_writes hs
  | recordEchoMarker m => exact recordEchoMarker_writes hs.state
  | matchAndConsumeEcho o => exact matchAndConsumeEcho_writes hs.state
  | discardActiveManifestRun => exact discardActiveManifestRun_writes hs.state
  | retireEchoMarkers => exact ⟨StateWrites.same hs.state, LatticeWrites.same, .kept⟩

theorem sound_seeded : DeviceSyncRepository.seeded.Sound where
  state := ⟨Nat.le_refl _, fun _ ha => (nomatch (ha : none = some _)), fun ha => ha⟩
  lattice := ⟨List.nodup_nil, fun _ hm => absurd hm List.not_mem_nil⟩
  progress := ⟨fun _ hm => absurd hm List.not_mem_nil,
    fun _ hm => absurd hm List.not_mem_nil, rfl, List.nodup_nil⟩

theorem sound_call (hs : repo.Sound) (input : RepositoryCall) :
    (repo.call input).repository.Sound :=
  sound_of_writes (call_writes hs input) hs

theorem sound_reachable (hr : deviceSyncMachine.Reachable repo) : repo.Sound := by
  refine hr.invariant ?_ ?_
  · rintro _ rfl
    exact sound_seeded
  · intro b input a hs hv
    cases hv
    exact sound_call hs input

theorem cursors_of_leads {l : DeviceSyncRepository} (hs : repo.Sound)
    (hl : deviceSyncMachine.Leads repo l) :
    l.Sound ∧ repo.state.appliedSequence ≤ l.state.appliedSequence ∧
      repo.state.acknowledgedSequence ≤ l.state.acknowledgedSequence := by
  induction hl with
  | refl => exact ⟨hs, Nat.le_refl _, Nat.le_refl _⟩
  | tail _ hv ih =>
    obtain ⟨input, hv⟩ := hv
    cases hv
    obtain ⟨hb, hap, ha⟩ := ih
    have hw := call_writes hb input
    exact ⟨sound_call hb input, Nat.le_trans hap hw.state.applied,
      Nat.le_trans ha hw.state.acknowledged⟩

end RepositoryRunsLemmas

open RepositoryRunsLemmas

/-! ## Every run -/

/-- In every reachable repository the debt, the barrier, the run's pages and the lattice are
sound; no further run takes a cursor back, and no call changes what was recorded. -/
theorem reachable_repository_advances {repo : DeviceSyncRepository}
    (reached : deviceSyncMachine.Reachable repo) :
    repo.Sound ∧ (∀ later, deviceSyncMachine.Leads repo later →
        repo.state.appliedSequence ≤ later.state.appliedSequence ∧
          repo.state.acknowledgedSequence ≤ later.state.acknowledgedSequence) ∧
      ∀ input, Advances repo (repo.call input).repository input := by
  have hs := sound_reachable reached
  refine ⟨hs, ?_, ?_⟩
  · intro later hl
    exact (cursors_of_leads hs hl).2
  · intro input
    exact advances_of_writes (call_writes hs input)

/-- A repair that records two pages and one settled action, is blocked by a replay of the second
page with another digest, and stages the bytes of a created file. -/
def sampleRepair : List RepositoryCall :=
  let digest := "00112233445566778899aabbccddeeff00112233445566778899aabbccddeeff"
  let other := "ffeeddccbbaa99887766554433221100ffeeddccbbaa99887766554433221100"
  [.startRepairBarrier 0 .deviceCursorGap,
    .recordManifestPage ⟨7, 0, 2, digest, 3, none⟩,
    .recordManifestPage ⟨7, 1, 1, digest, 3, some digest⟩,
    .recordManifestAction ⟨7, 0, .download, .terminalSafe, none⟩,
    .recordManifestPage ⟨7, 1, 1, other, 3, none⟩,
    .nextObservationGeneration,
    .prepareRemoteApply ⟨1, 1, 1, .created, none, some "a.md", none, none, some 5, none⟩,
    .transitionRemoteApply ⟨1, .tempVerified, none, none⟩]

theorem reachable_repository_advances_repaired : ∃ repo, deviceSyncMachine.Reachable repo ∧
    repo.state.barrierReason = some .deviceManifestPageReplayMismatch ∧
    repo.manifestPages.length = 2 ∧ repo.manifestActions.length = 1 ∧
    repo.remoteApplyOperations.length = 1 ∧ repo.Sound ∧
    ∀ input, Advances repo (repo.call input).repository input := by
  have hou : (deviceSyncMachine.run .seeded sampleRepair).map (fun repo =>
      (repo.state.barrierReason, repo.manifestPages.length, repo.manifestActions.length,
        repo.remoteApplyOperations.length)) =
      some (some .deviceManifestPageReplayMismatch, 2, 1, 1) := by
    decide +kernel
  obtain ⟨repo, ran, ho⟩ := Option.map_eq_some_iff.mp hou
  simp only [Prod.mk.injEq] at ho
  obtain ⟨reason, pages, actions, rows⟩ := ho
  have hr := Machine.reachable_of_run rfl ran
  obtain ⟨hs, _, ha⟩ := reachable_repository_advances hr
  exact ⟨repo, hr, reason, pages, actions, rows, hs, ha⟩

end PersonalOs.DeviceSync
