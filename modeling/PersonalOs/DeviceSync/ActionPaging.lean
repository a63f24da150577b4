import PersonalOs.DeviceSync.ManifestActions
import PersonalOs.SourceStore.ManifestSafety

/-!
# Paging through the actions of a planned run

The cursor the plugin pages with is the last index it received, and the store reads it as
inclusive: two pages overlap in one action. With pages of at least two actions a pass over `m`
actions ends within `m + 1` requests. With pages of one action and a plan of two or more, the page of
action 0 is answered to every request and the pass never ends.
-/

namespace PersonalOs.DeviceSync

open PersonalOs.EarlyReturn (Meets)
open SourceStore (ManifestEntry)

/-! ## Progress rows -/

/-- An index with a `terminal_safe` row of the run. -/
def TerminalSafe (rows : List LocalManifestActionProgress) (run index : Nat) : Prop :=
  ∃ row ∈ rows, row.manifestRunId = run ∧ row.actionIndex = index ∧ row.outcome = .terminalSafe

theorem lane_progress (repo : DeviceSyncRepository) (c : LaneCall) :
    (repo.call c).repository.manifestActions = repo.manifestActions := by
  obtain ⟨c, hk⟩ := c
  cases c with
  | recordManifestPage | recordManifestAction | completeRepair | discardActiveManifestRun =>
    cases hk
  | persistRepairBarrierReason r =>
    simp only [DeviceSyncRepository.call, DeviceSyncRepository.persistRepairBarrierReason]
    split <;> rfl
  | advanceRepairBarrierGeneration r =>
    simp only [DeviceSyncRepository.call, DeviceSyncRepository.advanceRepairBarrierGeneration]
    split <;> rfl
  | transitionRemoteApply it =>
    simp only [DeviceSyncRepository.call]
    split <;> rfl
  | matchAndConsumeEcho it =>
    simp only [DeviceSyncRepository.call, DeviceSyncRepository.matchAndConsumeEcho]
    split
    · rfl
    · split
      · rfl
      · split <;> rfl
  | _ => rfl

theorem afterLanes_progress (repo : DeviceSyncRepository) (c : List LaneCall) :
    (afterLanes repo c).manifestActions = repo.manifestActions := by
  induction c generalizing repo with
  | nil => rfl
  | cons ca c ih => exact (ih _).trans (lane_progress repo ca)

section RecordedActions

variable {repo : DeviceSyncRepository} {it : LocalManifestActionProgress} {run index : Nat}

theorem recordManifestAction_rejected (hr : (repo.recordManifestAction it).rejection ≠ none) :
    (repo.recordManifestAction it).repository.manifestActions = repo.manifestActions := by
  unfold DeviceSyncRepository.recordManifestAction at *
  split at hr
  next hu => rw [if_pos hu]; rfl
  next hb =>
    rw [if_neg hb]
    split at hr
    · exact absurd rfl hr
    · split at hr
      next ho => simp only [ho, if_true]; rfl
      next => split at hr <;> exact absurd rfl hr

/-- An accepted receipt settles its own index if it says `terminal_safe`, and nothing else. -/
theorem recordManifestAction_accepted (hac : (repo.recordManifestAction it).rejection = none) :
    TerminalSafe (repo.recordManifestAction it).repository.manifestActions run index ↔
      TerminalSafe repo.manifestActions run index ∨
        (it.outcome = .terminalSafe ∧ it.manifestRunId = run ∧ it.actionIndex = index) := by
  unfold DeviceSyncRepository.recordManifestAction at *
  split at hac
  next => cases hac
  next hb =>
    rw [if_neg hb]
    split at hac
    next hn =>
      simp only [DeviceSyncRepository.commit, TerminalSafe, List.mem_append, List.mem_singleton]
      constructor
      · rintro ⟨row, (old | rfl), ho, ha, hs⟩
        · exact .inl ⟨row, old, ho, ha, hs⟩
        · exact .inr ⟨hs, ho, ha⟩
      · rintro (⟨row, old, hfi⟩ | ⟨hs, ho, ha⟩)
        · exact ⟨row, .inl old, hfi⟩
        · exact ⟨it, .inr rfl, ho, ha, hs⟩
    next e hf =>
      have hst := List.mem_of_find?_eq_some hf
      have hk := List.find?_some hf
      simp only [Bool.and_eq_true, beq_iff_eq] at hk
      split at hac
      next => cases hac
      next hki =>
        simp only [if_neg hki]
        split
        next hu =>
          simp only [Bool.and_eq_true, beq_iff_eq] at hu
          simp only [DeviceSyncRepository.commit, TerminalSafe, List.mem_map]
          constructor
          · rintro ⟨_, ⟨row, old, rfl⟩, ho, ha, hs⟩
            split at ho
            next key =>
              simp only [Bool.and_eq_true, beq_iff_eq] at key
              simp only [key.1, key.2, beq_self_eq_true, Bool.and_self, if_true] at ha
              exact .inr ⟨hu.1, key.1.symm.trans ho, ha⟩
            next key =>
              simp only [key, Bool.false_eq_true, if_false] at ha hs
              exact .inl ⟨row, old, ho, ha, hs⟩
          · rintro (⟨row, old, ho, ha, hs⟩ | ⟨-, ho, ha⟩)
            · refine ⟨_, ⟨row, old, rfl⟩, ?_⟩
              split <;> simp_all
            · refine ⟨_, ⟨e, hst, rfl⟩, ?_⟩
              simp [hk.1, hk.2, ho, ha]
        next he =>
          simp only [Bool.and_eq_true, beq_iff_eq, bne_iff_ne, not_and, not_not] at he
          simp only [DeviceSyncRepository.commit]
          refine (or_iff_left_of_imp ?_).symm
          rintro ⟨hs, ho, ha⟩
          exact ⟨e, hst, hk.1.trans ho, hk.2.trans ha, he hs⟩

end RecordedActions

/-! ## What one action leaves -/

/-- The indices of the actions begun. -/
def executedIn (events : List PassEvent) : List Nat :=
  events.filterMap fun
    | .executed actionIndex => some actionIndex
    | _ => none

def completionsIn (events : List PassEvent) : List (List LocalManifestActionProgress) :=
  events.filterMap fun
    | .completeSent progress => some progress
    | _ => none

variable {W α : Type}

/-- Nothing an observer of the progress sees has changed. -/
structure SameProgress (run : Nat) (s t : PassState W) : Prop where
  rows : ∀ i, TerminalSafe t.repository.manifestActions run i ↔
    TerminalSafe s.repository.manifestActions run i
  terminal : t.terminalActionIndexes = s.terminalActionIndexes
  executed : executedIn t.events = executedIn s.events
  completions : completionsIn t.events = completionsIn s.events

/-- One index has become terminal, in the rows and in the set the pass keeps. -/
structure Settled (run index : Nat) (s t : PassState W) : Prop where
  rows : ∀ i, TerminalSafe t.repository.manifestActions run i ↔
    TerminalSafe s.repository.manifestActions run i ∨ i = index
  terminal : t.terminalActionIndexes = index :: s.terminalActionIndexes
  executed : executedIn t.events = executedIn s.events
  completions : completionsIn t.events = completionsIn s.events

variable {run index : Nat} {s t u : PassState W}

@[refl] theorem SameProgress.refl (s : PassState W) : SameProgress run s s :=
  ⟨fun _ => .rfl, rfl, rfl, rfl⟩

theorem SameProgress.trans (hf : SameProgress run s t) (hs : SameProgress run t u) :
    SameProgress run s u :=
  ⟨fun i => (hs.rows i).trans (hf.rows i), hs.terminal.trans hf.terminal,
    hs.executed.trans hf.executed, hs.completions.trans hf.completions⟩

theorem SameProgress.settled (hf : SameProgress run s t) (hs : Settled run index t u) :
    Settled run index s u where
  rows i := (hs.rows i).trans (or_congr (hf.rows i) .rfl)
  terminal := hs.terminal.trans (congrArg _ hf.terminal)
  executed := hs.executed.trans hf.executed
  completions := hs.completions.trans hf.completions

/-- A body that leaves the progress as it was, however it ends. -/
abbrev Silent (run : Nat) (body : Body W α) : Prop :=
  Meets (SameProgress run) (SameProgress run) body

/-- A body that settles one index if it runs to its end, and nothing otherwise. -/
abbrev Settles (run index : Nat) (body : Body W Unit) : Prop :=
  Meets (Settled run index) (SameProgress run) body

theorem Silent.andThen {β : Type} {b : Body W α} {r : α → Body W β}
    (hf : Silent run b) (hs : ∀ a, Silent run (r a)) : Silent run (b >>= r) :=
  Meets.bind hf hs (fun _ _ _ => .trans) (fun _ _ _ => .trans)

theorem Silent.settles {b : Body W α} {r : α → Body W Unit} (hf : Silent run b)
    (hs : ∀ a, Settles run index (r a)) : Settles run index (b >>= r) :=
  Meets.bind hf hs (fun _ _ _ => SameProgress.settled) (fun _ _ _ => .trans)

theorem ask_silent (po : Port W α) : Silent run (ask po) := Meets.modifyGet fun s =>
    ⟨fun i => by simp only [afterLanes_progress], rfl, rfl, rfl⟩

theorem observe_silent (st : ReconcileFailureStage) (r : DeviceSyncReason) :
    Silent (W := W) run (observe st r) :=
  Meets.change fun _ => ⟨fun _ => .rfl, rfl, rfl, rfl⟩

theorem throw_silent (st : RunStep) : Silent run (throw st : Body W α) :=
  Meets.throw (fun s => .refl s) st

theorem pure_silent (a : α) : Silent run (pure a : Body W α) := Meets.pure (fun s => .refl s) a

theorem get_silent : Silent run (get : Body W (PassState W)) := Meets.get fun s => .refl s

theorem runFailure_silent (st : ReconcileFailureStage) (f : ClosedFailure) :
    Silent run (runFailure st f : Body W α) :=
  (observe_silent st f.reason).andThen fun _ => throw_silent _

theorem blocked_silent (st : ReconcileFailureStage) (r : DeviceSyncReason) :
    Silent run (blocked st r : Body W α) :=
  (observe_silent st r).andThen fun _ => throw_silent _

theorem orFail_silent (st : ReconcileFailureStage) (r : Except ClosedFailure α) :
    Silent (W := W) run (orFail st r) := by
  cases r with
  | ok a => exact pure_silent a
  | error f => exact runFailure_silent st f

theorem orFail_ok {st : ReconcileFailureStage} {r : Except ClosedFailure α} {a : α}
    (ran : (orFail st r).runFrom s = (.ok a, t)) : r = .ok a := by
  cases r with
  | ok b =>
    simp only [orFail, EarlyReturn.runFrom_pure, Prod.mk.injEq] at ran
    exact congrArg _ (Except.ok.inj ran.1)
  | error f =>
    obtain ⟨_, _, -, ht⟩ := EarlyReturn.runFrom_bind_ok ran
    simp at ht

theorem Silent.orFail {b : Body W (Except ClosedFailure α)} (hs : Silent run b)
    (st : ReconcileFailureStage) : Silent run (b >>= orFail st) :=
  hs.andThen (orFail_silent st)

theorem readState_silent (r : Port W Unit) : Silent run (readState r) :=
  (ask_silent r).andThen fun an => by
    cases an with
    | error f => exact pure_silent _
    | ok _ => exact get_silent.andThen fun _ => pure_silent _

theorem mutate_silent (st : Port W Unit) {c : RepositoryCall}
    (hk : ∀ repo : DeviceSyncRepository, ∀ i,
      TerminalSafe (repo.call c).repository.manifestActions run i ↔
        TerminalSafe repo.manifestActions run i) : Silent run (mutate st c) :=
  (ask_silent st).andThen fun an => by
    cases an with
    | error f => exact pure_silent _
    | ok _ => exact Meets.modifyGet fun s => ⟨hk s.repository, rfl, rfl, rfl⟩

theorem lane_silent (st : Port W Unit) (c : LaneCall) : Silent run (mutate st c) :=
  mutate_silent st fun repo _ => by rw [lane_progress repo c]

theorem received_silent (st : Port W Unit) {it : LocalManifestActionProgress}
    (hre : it.outcome = .received) :
    Silent run (mutate st (.recordManifestAction it)) :=
  mutate_silent st fun repo i => by
    show TerminalSafe (repo.recordManifestAction it).repository.manifestActions run i ↔ _
    cases hr : (repo.recordManifestAction it).rejection with
    | none => rw [recordManifestAction_accepted hr]; simp [hre]
    | some _ => rw [recordManifestAction_rejected (by simp [hr])]

theorem throw_settles (st : RunStep) : Settles run index (throw st : Body W Unit) :=
  Meets.throw (fun s => .refl s) st

theorem runFailure_settles (st : ReconcileFailureStage) (f : ClosedFailure) :
    Settles run index (runFailure st f : Body W Unit) :=
  (observe_silent st f.reason).settles fun _ => throw_settles _

theorem blocked_settles (st : ReconcileFailureStage) (r : DeviceSyncReason) :
    Settles run index (blocked st r : Body W Unit) :=
  (observe_silent st r).settles fun _ => throw_settles _

/-! ## The branches of an action -/

section Branches

variable {plan : PlannedRun} (p : ActionPass plan W) (ac : ManifestAction)

theorem recordTerminal_meets (r : Option DeviceSyncReason) : Meets (fun s t : PassState W =>
        (∀ i, TerminalSafe t.repository.manifestActions plan.manifestRunId i ↔
          TerminalSafe s.repository.manifestActions plan.manifestRunId i ∨ i = ac.actionIndex) ∧
        t.terminalActionIndexes = s.terminalActionIndexes ∧ t.events = s.events)
      (SameProgress plan.manifestRunId)
      (mutate p.ports.store (.recordManifestAction
        ⟨plan.manifestRunId, ac.actionIndex, ac.actionKind, .terminalSafe, r⟩) >>=
          orFail .actions) := by
  intro s
  simp only [mutate, ask, EarlyReturn.runFrom_bind, EarlyReturn.runFrom_modifyGet]
  cases hs : (p.ports.store s.repository s.world).answer with
  | error f =>
    exact ⟨fun i => by simp only [afterLanes_progress], rfl, rfl, rfl⟩
  | ok _ =>
    simp only [EarlyReturn.runFrom_modifyGet]
    generalize hl : afterLanes s.repository _ = repo
    have hk : repo.manifestActions = s.repository.manifestActions := by
      rw [← hl, afterLanes_progress]
    simp only [DeviceSyncRepository.call]
    cases hr : (repo.recordManifestAction
        ⟨plan.manifestRunId, ac.actionIndex, ac.actionKind, .terminalSafe, r⟩).rejection with
    | none =>
      refine ⟨fun i => ?_, rfl, rfl⟩
      rw [recordManifestAction_accepted hr, hk]
      simp [eq_comm]
    | some _ =>
      refine ⟨fun i => ?_, rfl, rfl, rfl⟩
      show TerminalSafe (repo.recordManifestAction _).repository.manifestActions _ _ ↔ _
      rw [recordManifestAction_rejected (by simp [hr]), hk]

/-- The only branch that ends an action well: the row first, then the set the pass keeps. -/
theorem terminal_settles (r : Option DeviceSyncReason) :
    Settles plan.manifestRunId ac.actionIndex (terminal p ac r) := by
  unfold terminal
  rw [← bind_assoc]
  refine Meets.bind (recordTerminal_meets p ac r) (fun _ => (?_ : Meets
    (fun s t : PassState W => t.repository = s.repository ∧
      t.terminalActionIndexes = ac.actionIndex :: s.terminalActionIndexes ∧ t.events = s.events)
    (fun _ _ => False) _)) ?_ (fun _ _ _ _ => False.elim)
  · intro s
    cases r <;> exact ⟨rfl, rfl, rfl⟩
  rintro s t u ⟨hr, set, he⟩ ⟨repo, ha, hs⟩
  exact ⟨fun i => by rw [repo]; exact hr i, by rw [ha, set], by rw [hs, he], by rw [hs, he]⟩

theorem applySyntheticEvent_settles (e : DeviceSyncEvent) (v : Option VerifiedDownload) :
    Settles plan.manifestRunId ac.actionIndex (applySyntheticEvent p ac e v) := by
  refine (ask_silent _).settles fun an => ?_
  cases an with
  | ok se => exact terminal_settles p ac _
  | error f =>
    refine get_silent.settles fun s => ?_
    split
    · refine (ask_silent _).settles fun an => (orFail_silent _ an).settles fun se => ?_
      exact terminal_settles p ac _
    · exact runFailure_settles _ _

theorem persistCursorGap_silent (st : DeviceSyncState) :
    Silent plan.manifestRunId (persistCursorGap p st) := by
  unfold persistCursorGap
  split
  · exact (lane_silent _ ⟨.persistRepairBarrierReason .deviceCursorGap, rfl⟩).orFail _
  · exact pure_silent _

theorem refuseBeyondCheckpoint_settles (st : DeviceSyncState) :
    Settles plan.manifestRunId ac.actionIndex (refuseBeyondCheckpoint p ac st) := by
  refine (persistCursorGap_silent p st).settles fun _ => ?_
  split
  · exact terminal_settles p ac _
  · split
    · exact blocked_settles _ _
    · exact (observe_silent _ _).settles fun _ => throw_settles _

theorem applyPlacement_settles (e : Option ManifestEntry) (co : Option Locator) :
    Settles plan.manifestRunId ac.actionIndex (applyPlacement p ac e co) := by
  unfold applyPlacement
  split
  · exact terminal_settles p ac _
  refine (readState_silent _).settles fun an => (orFail_silent _ an).settles fun st => ?_
  simp only
  split
  · exact refuseBeyondCheckpoint_settles p ac st
  refine (orFail_silent _ _).settles fun ei => ?_
  split
  · split
    · exact terminal_settles p ac _
    · exact applySyntheticEvent_settles p ac _ _
  · split
    · exact terminal_settles p ac _
    · refine (ask_silent _).settles fun an => (orFail_silent _ an).settles fun _ => ?_
      exact applySyntheticEvent_settles p ac _ _

theorem applyToEntry_settles (e : ManifestEntry) :
    Settles plan.manifestRunId ac.actionIndex (applyToEntry p ac e) := by
  refine (ask_silent _).settles fun an => (orFail_silent _ an).settles fun r => ?_
  cases r with
  | blocked re => exact terminal_settles p ac _
  | safe =>
    simp only
    split
    · refine (ask_silent _).settles fun an => (orFail_silent _ an).settles fun a => ?_
      cases a with
      | refused => exact blocked_settles _ _
      | recorded | alreadyCurrent => exact terminal_settles p ac _
    · exact applyPlacement_settles p ac _ _

theorem executeAction_settles : Settles plan.manifestRunId ac.actionIndex (executeAction p ac) := by
  unfold executeAction
  split
  · exact terminal_settles p ac _
  · split
    · exact applyToEntry_settles p ac _
    · split
      · exact applyPlacement_settles p ac _ _
      · exact terminal_settles p ac _

end Branches

/-! ## How far a pass has come -/

/-- The repository a pass starts from binds the run of the pass or none. -/
def BoundTo (repo : DeviceSyncRepository) (run : Nat) : Prop :=
  ∀ bound ∈ repo.state.activeManifestRunId, bound = run

theorem terminalSafe_of_indexesOf {repo : DeviceSyncRepository} (hb : BoundTo repo run)
    (hs : index ∈ repo.indexesOf .terminalSafe) :
    TerminalSafe repo.manifestActions run index := by
  simp only [DeviceSyncRepository.indexesOf, DeviceSyncRepository.readManifestActionProgress,
    List.mem_map, List.mem_filter, beq_iff_eq] at hs
  obtain ⟨row, ⟨hr, hsa⟩, hat⟩ := hs
  cases ha : repo.state.activeManifestRunId with
  | none =>
    rw [ha] at hr
    cases hr
  | some c =>
    rw [ha] at hr
    obtain ⟨hst, ho⟩ := List.mem_filter.1 hr
    have he := hb c ha
    exact ⟨row, hst, (beq_iff_eq.1 ho).trans he, hat, hsa⟩

/-- The pass has taken every action below `front`, in order, and no other. -/
structure Tracked (repo : DeviceSyncRepository) (run front : Nat) (s : PassState W) : Prop where
  rows : ∀ i, TerminalSafe s.repository.manifestActions run i ↔
    TerminalSafe repo.manifestActions run i ∨ i < front
  terminal : ∀ i, i ∈ s.terminalActionIndexes ↔ i ∈ repo.indexesOf .terminalSafe ∨ i < front
  executed : executedIn s.events =
    (List.range front).filter fun i => i ∉ repo.indexesOf .terminalSafe
  completions : completionsIn s.events = []

/-- The pass has taken every action below `index` and returned from that of `index`. -/
structure StoppedAt (repo : DeviceSyncRepository) (run index : Nat) (s : PassState W) : Prop where
  rows : ∀ i, TerminalSafe s.repository.manifestActions run i ↔
    TerminalSafe repo.manifestActions run i ∨ i < index
  executed : executedIn s.events =
    (List.range (index + 1)).filter fun i => i ∉ repo.indexesOf .terminalSafe
  completions : completionsIn s.events = []

section Tracking

variable {repo : DeviceSyncRepository} {plan : PlannedRun} {p : ActionPass plan W}
  {front : Nat}

theorem Tracked.same (ht : Tracked repo run front s) (he : SameProgress run s t) :
    Tracked repo run front t where
  rows i := (he.rows i).trans (ht.rows i)
  terminal i := by rw [he.terminal]; exact ht.terminal i
  executed := he.executed.trans ht.executed
  completions := he.completions.trans ht.completions

theorem Tracked.skip (hbo : BoundTo repo run) (ht : Tracked repo run front s)
    (hs : front ∈ repo.indexesOf .terminalSafe) : Tracked repo run (front + 1) s where
  rows i := by
    have hsa := terminalSafe_of_indexesOf hbo hs
    rw [ht.rows i, Nat.lt_succ_iff_lt_or_eq]
    constructor
    · exact Or.imp_right .inl
    · rintro (he | hb | rfl)
      · exact .inl he
      · exact .inr hb
      · exact .inl hsa
  terminal i := by
    rw [ht.terminal i, Nat.lt_succ_iff_lt_or_eq]
    constructor
    · exact Or.imp_right .inl
    · rintro (he | hb | rfl)
      · exact .inl he
      · exact .inr hb
      · exact .inl hs
  executed := by simp [ht.executed, List.range_succ, hs]
  completions := ht.completions

theorem Tracked.logged (ht : Tracked repo run front s) (hf : front ∉ repo.indexesOf .terminalSafe) :
    executedIn (s.events ++ [.executed front]) =
      (List.range (front + 1)).filter fun i => i ∉ repo.indexesOf .terminalSafe := by
  have hb := ht.executed
  simp only [executedIn, List.filterMap_append] at *
  simp [hb, List.range_succ, hf]

theorem attempt_settles (p : ActionPass plan W) (ac : ManifestAction) :
    Settles plan.manifestRunId ac.actionIndex (do
      orFail .actions (← mutate p.ports.store (.recordManifestAction
        ⟨plan.manifestRunId, ac.actionIndex, ac.actionKind, .received, ac.reason⟩))
      executeAction p ac) :=
  (received_silent _ rfl).settles fun an => (orFail_silent _ an).settles fun _ =>
    executeAction_settles p ac

/-- One action in its turn is passed over or settled, or the pass stops at it. -/
theorem applyAction_tracked (hbo : BoundTo repo plan.manifestRunId) {ac : ManifestAction}
    (ht : Tracked repo plan.manifestRunId front s) (htu : ac.actionIndex ≤ front) :
    match (applyAction p ac).runFrom s with
    | (.ok _, t) => Tracked repo plan.manifestRunId (max front (ac.actionIndex + 1)) t
    | (.error _, t) => ac.actionIndex = front ∧ StoppedAt repo plan.manifestRunId front t := by
  by_cases hk : ac.actionIndex ∈ s.terminalActionIndexes
  · have hp : (applyAction p ac).runFrom s = (.ok (), s) := by
      simp [applyAction, EarlyReturn.runFrom_bind, hk]
    rw [hp]
    rcases Nat.lt_or_eq_of_le htu with hbe | rfl
    · rw [max_eq_left (Nat.succ_le_of_lt hbe)]
      exact ht
    · rw [max_eq_right (Nat.le_succ _)]
      refine ht.skip hbo ?_
      exact ((ht.terminal _).1 hk).resolve_right (Nat.lt_irrefl _)
  · have hf := mt (ht.terminal ac.actionIndex).2 hk
    push Not at hf
    obtain rfl : ac.actionIndex = front := Nat.le_antisymm htu hf.2
    have hb : (applyAction p ac).runFrom s = EarlyReturn.runFrom (do
          orFail .actions (← mutate p.ports.store (.recordManifestAction
            ⟨plan.manifestRunId, ac.actionIndex, ac.actionKind, .received, ac.reason⟩))
          executeAction p ac)
        { s with events := s.events ++ [.executed ac.actionIndex] } := by
      simp [applyAction, EarlyReturn.runFrom_bind, hk, log]
    have hl := ht.logged hf.1
    have hs : completionsIn (s.events ++ [.executed ac.actionIndex]) = [] := by
      simpa [completionsIn] using ht.completions
    have met := attempt_settles p ac
      { s with events := s.events ++ [.executed ac.actionIndex] }
    rw [hb, max_eq_right (Nat.le_succ _)]
    split <;> rename_i ran <;> rw [ran] at met
    · exact
        { rows := fun i => by
            rw [met.rows i, Nat.lt_succ_iff_lt_or_eq, ← or_assoc]
            exact or_congr (ht.rows i) .rfl
          terminal := fun i => by
            rw [met.terminal, List.mem_cons, Nat.lt_succ_iff_lt_or_eq, ← or_assoc, or_comm]
            exact or_congr (ht.terminal i) .rfl
          executed := met.executed.trans hl
          completions := met.completions.trans hs }
    · exact ⟨rfl,
        { rows := fun i => (met.rows i).trans (ht.rows i)
          executed := met.executed.trans hl
          completions := met.completions.trans hs }⟩

/-- The actions of a page, whose indices run on from one the pass has reached. -/
theorem applyActions_tracked (hb : BoundTo repo plan.manifestRunId) {x : Nat}
    {a : List ManifestAction} (ht : Tracked repo plan.manifestRunId front s)
    (hr : x ≤ front)
    (hn : a.map ManifestAction.actionIndex = List.range' x a.length) :
    match applyActions p a s with
    | (t, none) => Tracked repo plan.manifestRunId (max front (x + a.length)) t
    | (t, some (index, _)) =>
      index < x + a.length ∧ StoppedAt repo plan.manifestRunId index t := by
  induction a generalizing x front s with
  | nil => simpa [applyActions, hr] using ht
  | cons ac r ih =>
    simp only [List.map_cons, List.length_cons, List.range'_succ, List.cons.injEq] at hn
    obtain ⟨rfl, hn⟩ := hn
    have met := applyAction_tracked (p := p) hb ht hr
    unfold applyActions
    rcases ran : (applyAction p ac).runFrom s with ⟨(st | _), t⟩ <;> rw [ran] at met
    · obtain ⟨he, hs⟩ := met
      simp only [List.length_cons]
      exact ⟨by omega, he ▸ hs⟩
    · have hl := ih met (le_max_right _ _) hn
      have hj : max (max front (ac.actionIndex + 1)) (ac.actionIndex + 1 + r.length) =
            max front (ac.actionIndex + (ac :: r).length) := by
        rw [List.length_cons]
        omega
      simp only
      split <;> rename_i ha <;> rw [ha] at hl
      · exact hj ▸ hl
      · rw [List.length_cons]
        exact ⟨by omega, hl.2⟩

end Tracking

/-! ## The pages of a plan -/

theorem range_filter_le (b x : Nat) :
    (List.range b).filter (fun i => x ≤ i) = List.range' x (b - x) := by
  induction b with
  | zero => simp
  | succ b ih =>
    rw [List.range_succ, List.filter_append, ih]
    by_cases hr : x ≤ b
    · rw [Nat.succ_sub hr, List.range'_concat]
      simp [hr]
    · simp [hr, Nat.sub_eq_zero_of_le (Nat.le_of_lt (Nat.lt_of_not_le hr)),
        Nat.sub_eq_zero_of_le (Nat.lt_of_not_le hr)]

theorem take_range' (x c l : Nat) : (List.range' x c).take l = List.range' x (min l c) := by
  rcases Nat.le_total l c with hs | hl
  · rw [List.take_range'_of_length_ge hs, min_eq_left hs]
  · rw [List.take_range'_of_length_le hl, min_eq_right hl]

section Pages

variable {plan : PlannedRun}

theorem PlannedRun.indexed_from (plan : PlannedRun) (x : Nat) :
    (plan.actions.filter fun ac => x ≤ ac.actionIndex).map SourceStore.ManifestAction.actionIndex =
      List.range' x (plan.actions.length - x) := by
  rw [← range_filter_le, ← plan.indexed, List.filter_map]
  rfl

/-- What the server answers: the plan's indices from the cursor on, up to the limit, and whether
the look-ahead row exists. -/
theorem actionPage_ok {se : Served plan} {a : Option Nat} {l : Nat}
    {pa : SourceStore.ManifestActionPage}
    (hp : SourceStore.actionPage se.db (actionsQuery plan a l) se.row = .ok pa) :
    (pa.actions.map parseManifestAction).map ManifestAction.actionIndex =
        List.range' (a.getD 0) (min l (plan.actions.length - a.getD 0)) ∧
      (pa.hasMore = true ↔ a.getD 0 + l < plan.actions.length) := by
  have hs := SourceStore.actionPage_actions hp
  have hc := congrArg List.length (plan.indexed_from (actionsQuery plan a l).afterActionIndex)
  rw [List.length_map, List.length_range'] at hc
  rw [se.frozen] at hs
  constructor
  · have hn := plan.indexed_from (a.getD 0)
    rw [List.map_map]
    have he : ManifestAction.actionIndex ∘ parseManifestAction =
        SourceStore.ManifestAction.actionIndex ∘ SourceStore.DeliveredAction.action := rfl
    rw [he, ← List.map_map, hs, List.map_take, actionsQuery, hn, take_range']
  · unfold SourceStore.actionPage at hp
    simp only [bind, Except.bind] at hp
    split at hp
    · cases hp
    · simp only [pure, Except.pure, Except.ok.injEq] at hp
      rw [← hp, decide_eq_true_eq, List.length_take, se.frozen]
      rw [hc]
      show l < min (l + 1) (plan.actions.length - a.getD 0) ↔ _
      omega

end Pages

/-! ## Requests -/

section Requests

variable {repo : DeviceSyncRepository} {plan : PlannedRun} {p : ActionPass plan W}

/-- The first index the pass has not taken when it asks behind a cursor. -/
def frontOf : Option Nat → Nat
  | none => 0
  | some last => last + 1

theorem listManifestActions_silent (a : Option Nat) :
    Silent plan.manifestRunId (listManifestActions p a) := by
  have hl : Silent (W := W) plan.manifestRunId (log (.listed a)) := Meets.change fun _ =>
      ⟨fun _ => .rfl, rfl, by simp [executedIn], by simp [completionsIn]⟩
  refine hl.andThen fun _ => (ask_silent _).andThen fun an =>
    (orFail_silent _ an).andThen fun se => (orFail_silent _ _).andThen fun pa => ?_
  split
  · exact pure_silent _
  · exact blocked_silent _ _

theorem listManifestActions_page {a : Option Nat} {pa : SourceStore.ManifestActionPage}
    (ran : (listManifestActions p a).runFrom s = (.ok pa, t)) :
    ∃ se : Served plan,
      SourceStore.actionPage se.db (actionsQuery plan a p.actionPageLimit) se.row = .ok pa := by
  obtain ⟨_, _, -, ran⟩ := EarlyReturn.runFrom_bind_ok ran
  obtain ⟨an, _, -, ran⟩ := EarlyReturn.runFrom_bind_ok ran
  obtain ⟨se, _, -, ran⟩ := EarlyReturn.runFrom_bind_ok ran
  obtain ⟨r, _, hd, ran⟩ := EarlyReturn.runFrom_bind_ok ran
  refine ⟨se, ?_⟩
  have hp := orFail_ok hd
  split at ran
  · simp only [EarlyReturn.runFrom_pure, Prod.mk.injEq, Except.ok.injEq] at ran
    rw [← ran.1]
    cases ha : SourceStore.actionPage se.db (actionsQuery plan a p.actionPageLimit) se.row with
    | error e =>
      rw [ha] at hp
      cases hp
    | ok q =>
      rw [ha] at hp
      exact congrArg _ (Except.ok.inj hp)
  · obtain ⟨_, _, -, ht⟩ := EarlyReturn.runFrom_bind_ok ran
    simp at ht

/-- A request changes no progress, and a page it brings was served from the frozen plan. -/
theorem listManifestActions_cases (a : Option Nat) (s : PassState W) :
    match (listManifestActions p a).runFrom s with
    | (.error _, t) => SameProgress plan.manifestRunId s t
    | (.ok pa, t) => SameProgress plan.manifestRunId s t ∧ ∃ se : Served plan,
        SourceStore.actionPage se.db (actionsQuery plan a p.actionPageLimit) se.row = .ok pa := by
  have hs := listManifestActions_silent (p := p) a s
  split <;> rename_i ran <;> rw [ran] at hs
  · exact hs
  · exact ⟨hs, listManifestActions_page ran⟩

/-- What one request can do to a pass that has taken every action below its cursor. -/
theorem nextRequest_cases (hb : BoundTo repo plan.manifestRunId)
    (had : 1 ≤ p.actionPageLimit) {a : Option Nat}
    (ht : Tracked repo plan.manifestRunId (frontOf a) s)
    (hw : frontOf a ≤ plan.actions.length) :
    (∃ t st, nextRequest p (s, .listing a) = (t, .refused st) ∧
      Tracked repo plan.manifestRunId (frontOf a) t) ∨
    (∃ t index st, nextRequest p (s, .listing a) = (t, .failed index st) ∧
      index < plan.actions.length ∧ StoppedAt repo plan.manifestRunId index t) ∨
    (∃ t, nextRequest p (s, .listing a) = (t, .ended) ∧
      plan.actions.length ≤ a.getD 0 + p.actionPageLimit ∧
      Tracked repo plan.manifestRunId plan.actions.length t) ∨
    (∃ t l, nextRequest p (s, .listing a) = (t, .listing (some l)) ∧
      l + 1 = a.getD 0 + p.actionPageLimit ∧ l + 1 < plan.actions.length ∧
      Tracked repo plan.manifestRunId (l + 1) t) := by
  have hcu : a.getD 0 ≤ frontOf a ∧ frontOf a ≤ a.getD 0 + 1 := by
    cases a <;> simp [frontOf]
  have hli := listManifestActions_cases (p := p) a s
  rcases ran : (listManifestActions p a).runFrom s with ⟨(st | pa), t⟩ <;>
    rw [ran] at hli <;> simp only [nextRequest, ran]
  · exact .inl ⟨t, st, rfl, ht.same hli⟩
  obtain ⟨he, se, hp⟩ := hli
  obtain ⟨hn, hme⟩ := actionPage_ok hp
  have hc := congrArg List.length hn
  rw [List.length_map, List.length_range'] at hc
  have ht := ht.same he
  cases hl : (pa.actions.map parseManifestAction).getLast? with
  | none =>
    rw [List.getLast?_eq_none_iff] at hl
    rw [hl, List.length_nil] at hc
    refine .inr (.inr (.inl ⟨t, rfl, by omega, ?_⟩))
    have all : frontOf a = plan.actions.length := by
      cases a with
      | none => simp only [frontOf, Option.getD_none] at *; omega
      | some l => simp only [frontOf, Option.getD_some] at *; omega
    rw [← all]
    exact ht
  | some l =>
    have hla : a.getD 0 + (pa.actions.map parseManifestAction).length = l.actionIndex + 1 := by
      have hm := congrArg List.getLast? hn
      rw [List.getLast?_map, hl, List.getLast?_range', ← hc] at hm
      split at hm
      · cases hm
      · have he := Option.some.inj hm
        omega
    have hta := applyActions_tracked (p := p) hb ht hcu.1 (hc ▸ hn)
    rw [hla] at hta
    rcases ha : applyActions p (pa.actions.map parseManifestAction) t with
      ⟨u, (_ | ⟨index, st⟩)⟩ <;> rw [ha] at hta <;> simp only
    · by_cases hmo : pa.hasMore = true
      · rw [if_pos hmo]
        have hbe := hme.1 hmo
        refine .inr (.inr (.inr ⟨u, l.actionIndex, rfl, by omega, by omega, ?_⟩))
        rwa [max_eq_right (by omega)] at hta
      · rw [if_neg hmo]
        have hf := mt hme.2 hmo
        refine .inr (.inr (.inl ⟨u, rfl, by omega, ?_⟩))
        have all : max (frontOf a) (l.actionIndex + 1) = plan.actions.length := by omega
        rwa [all] at hta
    · exact .inr (.inl ⟨u, index, st, rfl, by omega, hta.2⟩)

/-- What the loop has come to: the pass it would go on with, or how it ended. -/
def Standing (repo : DeviceSyncRepository) (plan : PlannedRun) :
    PassState W × Paging → Prop
  | (s, .listing after) => frontOf after ≤ plan.actions.length ∧
      Tracked repo plan.manifestRunId (frontOf after) s
  | (s, .ended) => Tracked repo plan.manifestRunId plan.actions.length s
  | (s, .refused _) => ∃ front, Tracked repo plan.manifestRunId front s
  | (s, .failed index _) =>
    index < plan.actions.length ∧ StoppedAt repo plan.manifestRunId index s

theorem start_tracked (p : ActionPass plan W) (repo : DeviceSyncRepository) :
    Tracked repo run 0 (p.start repo) where
  rows := by simp [ActionPass.start]
  terminal := by simp [ActionPass.start]
  executed := by simp [ActionPass.start, executedIn]
  completions := by simp [ActionPass.start, completionsIn]

theorem nextRequest_standing (hbo : BoundTo repo plan.manifestRunId)
    (ha : 1 ≤ p.actionPageLimit) {at_ : PassState W × Paging}
    (hst : Standing repo plan at_) : Standing repo plan (nextRequest p at_) := by
  obtain ⟨s, pa⟩ := at_
  cases pa with
  | listing a =>
    obtain ⟨hw, ht⟩ := hst
    obtain ⟨t, st, hn, ht⟩ | ⟨t, index, st, hn, hb, hs⟩ | ⟨t, hn, -, ht⟩ | ⟨t, l, hn, -, hm, ht⟩ :=
      nextRequest_cases (p := p) hbo ha ht hw
    · rw [hn]; exact ⟨_, ht⟩
    · rw [hn]; exact ⟨hb, hs⟩
    · rw [hn]; exact ht
    · rw [hn]; exact ⟨Nat.le_of_lt hm, ht⟩
  | ended | refused st | failed index st => exact hst

theorem requests_standing (hb : BoundTo repo plan.manifestRunId)
    (ha : 1 ≤ p.actionPageLimit) (c : Nat) :
    Standing repo plan (p.requests repo c) := by
  induction c with
  | zero => exact ⟨Nat.zero_le _, start_tracked p repo⟩
  | succ c ih =>
    unfold ActionPass.requests at *
    rw [Function.iterate_succ_apply']
    exact nextRequest_standing hb ha ih

/-! ## When the loop ends -/

/-- With pages of two actions every request brings an index the pass had not taken. -/
theorem listing_advances (hb : BoundTo repo plan.manifestRunId)
    (hwi : 2 ≤ p.actionPageLimit) (c : Nat) {a : Option Nat}
    (hl : (p.requests repo c).2 = .listing a) : c ≤ frontOf a := by
  induction c generalizing a with
  | zero => exact Nat.zero_le _
  | succ c ih =>
    have hst := requests_standing (p := p) hb (by omega) c
    unfold ActionPass.requests at *
    rw [Function.iterate_succ_apply'] at hl
    rcases hbe : (nextRequest p)^[c] (p.start repo, .listing none) with ⟨s, pa⟩
    rw [hbe] at hst hl ih
    cases pa with
    | listing l =>
      have ha := ih rfl
      obtain ⟨hw, ht⟩ := hst
      obtain ⟨t, st, hn, -⟩ | ⟨t, index, st, hn, -⟩ | ⟨t, hn, -⟩ | ⟨t, l', hn, hr, -⟩ :=
        nextRequest_cases (p := p) hb (by omega) ht hw
      all_goals rw [hn] at hl
      all_goals cases hl
      cases l with
      | none => simp only [frontOf, Option.getD_none] at *; omega
      | some l => simp only [frontOf, Option.getD_some] at *; omega
    | ended | refused st | failed index st => cases hl

theorem returns_within (hbo : BoundTo repo plan.manifestRunId) (ha : 1 ≤ p.actionPageLimit)
    (hw : 2 ≤ p.actionPageLimit ∨ plan.actions.length ≤ 1) (a : Option Nat) :
    (p.requests repo (plan.actions.length + 1)).2 ≠ .listing a := by
  intro hl
  have hb := requests_standing (p := p) hbo ha plan.actions.length
  unfold ActionPass.requests at *
  rw [Function.iterate_succ_apply'] at hl
  rcases hs : (nextRequest p)^[plan.actions.length] (p.start repo, .listing none) with
    ⟨s, pa⟩
  rw [hs] at hb hl
  cases pa with
  | listing l =>
    obtain ⟨hwi, ht⟩ := hb
    obtain ⟨t, st, hn, -⟩ | ⟨t, index, st, hn, -⟩ | ⟨t, hn, -⟩ | ⟨t, l', hn, hr, hm, -⟩ :=
      nextRequest_cases (p := p) hbo ha ht hwi
    all_goals rw [hn] at hl
    all_goals cases hl
    rcases hw with hw | hsh
    · -- By now every index has been taken, so no request could bring another.
      have hli : (p.requests repo plan.actions.length).2 = .listing l := by
        unfold ActionPass.requests
        rw [hs]
      have had := listing_advances hbo hw plan.actions.length hli
      cases l with
      | none => simp only [frontOf, Option.getD_none] at *; omega
      | some l => simp only [frontOf, Option.getD_some] at *; omega
    · omega
  | ended | refused st | failed index st => cases hl

/-- With pages of one action and a longer plan, a pass in which nothing fails asks for the page
of index 0 again and again. -/
theorem never_ends (hb : BoundTo repo plan.manifestRunId) (hsi : p.actionPageLimit = 1)
    (hlo : 2 ≤ plan.actions.length)
    (hs : ∀ c st, (p.requests repo c).2 ≠ .refused st ∧
      ∀ index, (p.requests repo c).2 ≠ .failed index st) (c : Nat) :
    ∃ a, (p.requests repo c).2 = .listing a ∧ a.getD 0 = 0 := by
  induction c with
  | zero => exact ⟨none, rfl, rfl⟩
  | succ c ih =>
    obtain ⟨a, hl, hsta⟩ := ih
    have hst := requests_standing (p := p) hb (by omega) c
    have hf := hs (c + 1)
    unfold ActionPass.requests at *
    rw [Function.iterate_succ_apply'] at hf ⊢
    rcases hbe : (nextRequest p)^[c] (p.start repo, .listing none) with ⟨s, pa⟩
    rw [hbe] at hst hl hf
    subst hl
    obtain ⟨hw, ht⟩ := hst
    obtain ⟨t, st, hn, -⟩ | ⟨t, index, st, hn, -⟩ | ⟨t, hn, hfi, -⟩ | ⟨t, l, hn, hr, -⟩ :=
      nextRequest_cases (p := p) hb (by omega) ht hw
    · exact absurd (congrArg Prod.snd hn) (hf st).1
    · exact absurd (congrArg Prod.snd hn) ((hf st).2 index)
    · omega
    · refine ⟨some l, congrArg Prod.snd hn, ?_⟩
      simp only [Option.getD_some]
      omega

end Requests

/-! ## The completion -/

section Completion

/-- A body that sends no completion and takes no action. -/
abbrev Unlogged (body : Body W α) : Prop :=
  Meets (fun s t : PassState W => t.events = s.events) (fun s t => t.events = s.events) body

theorem Unlogged.andThen {β : Type} {b : Body W α} {r : α → Body W β}
    (hf : Unlogged b) (hs : ∀ a, Unlogged (r a)) : Unlogged (b >>= r) :=
  Meets.bind hf hs (fun _ _ _ hl hr => hr.trans hl) (fun _ _ _ hl hr => hr.trans hl)

theorem pure_unlogged (a : α) : Unlogged (pure a : Body W α) := fun _ => rfl

theorem throw_unlogged (st : RunStep) : Unlogged (throw st : Body W α) := fun _ => rfl

theorem observe_unlogged (st : ReconcileFailureStage) (r : DeviceSyncReason) :
    Unlogged (W := W) (observe st r) :=
  Meets.change fun _ => rfl

theorem ask_unlogged (po : Port W α) : Unlogged (ask po) := Meets.modifyGet fun _ => rfl

theorem blocked_unlogged (st : ReconcileFailureStage) (r : DeviceSyncReason) :
    Unlogged (blocked st r : Body W α) :=
  (observe_unlogged st r).andThen fun _ => throw_unlogged _

theorem orFail_unlogged (st : ReconcileFailureStage) (r : Except ClosedFailure α) :
    Unlogged (W := W) (orFail st r) := by
  cases r with
  | ok a => exact pure_unlogged a
  | error f => exact (observe_unlogged st f.reason).andThen fun _ => throw_unlogged _

theorem mutate_unlogged (st : Port W Unit) (c : RepositoryCall) : Unlogged (mutate st c) :=
  (ask_unlogged st).andThen fun an => by
    cases an with
    | error f => exact pure_unlogged _
    | ok _ => exact Meets.modifyGet fun _ => rfl

variable {plan : PlannedRun}

/-- The progress rows of the moment are what a completion is sent on. -/
abbrev Sent (s t : PassState W) : Prop :=
  completionsIn t.events = completionsIn s.events ++ [s.repository.manifestActions]

theorem completeManifest_sent (p : ActionPass plan W) : Meets Sent Sent (completeManifest p) := by
  intro s
  have hb : (completeManifest p).runFrom s =
      EarlyReturn.runFrom (ask (p.ports.completeManifest p.finalDigest) >>= orFail .complete)
        { s with events := s.events ++ [.completeSent s.repository.manifestActions] } := rfl
  have hu := (ask_unlogged (p.ports.completeManifest p.finalDigest)).andThen
    (orFail_unlogged .complete)
    { s with events := s.events ++ [.completeSent s.repository.manifestActions] }
  rw [hb]
  split <;> rename_i ran <;> rw [ran] at hu <;> simp [Sent, hu, completionsIn]

/-- A finished loop is followed by one completion, on the rows the loop left. -/
theorem completeRun_sent (p : ActionPass plan W) (s : PassState W) :
    Sent s (settleStep (completeRun p) s).2 := by
  have hre (ac : Nat) : Unlogged (W := W) (α := RunStep) ( if ac < p.checkpointSequence then
        blocked .complete .deviceManifestStateInvalid
      else do
        orFail .complete (← mutate p.ports.store (.completeRepair
          ⟨plan.manifestRunId, p.checkpointSequence, p.barrierGeneration⟩))
        orFail .complete (← mutate p.ports.store .retireEchoMarkers)
        return .completed p.checkpointSequence) := by
    split
    · exact blocked_unlogged _ _
    · refine (mutate_unlogged _ _).andThen fun an => (orFail_unlogged _ an).andThen fun _ => ?_
      exact (mutate_unlogged _ _).andThen fun an =>
        (orFail_unlogged _ an).andThen fun _ => pure_unlogged _
  have hs : Meets Sent Sent (completeRun p) := Meets.bind (completeManifest_sent p) hre
      (fun s t u hl hr => (congrArg completionsIn hr).trans hl)
      (fun s t u hl hr => (congrArg completionsIn hr).trans hl)
  have met := hs s
  unfold settleStep
  split <;> rename_i ran <;> rw [ran] at met <;> exact met

end Completion

/-! ## Every pass -/

section Passes

variable {plan : PlannedRun}

def ActionPass.AllSettle (p : ActionPass plan W) (repo : DeviceSyncRepository) : Prop :=
  ∀ count step, (p.requests repo count).2 ≠ .refused step ∧
    ∀ index, (p.requests repo count).2 ≠ .failed index step

/-- Paging is complete, ends, and takes no action twice. -/
structure ActionPass.PagingHolds (p : ActionPass plan W) (repo : DeviceSyncRepository) :
    Prop where
  ends : p.AllSettle repo → ∃ count, (p.requests repo count).2 = .ended
  complete : ∀ count step t, finishRun p (p.requests repo count) = some (step, t) →
    ∀ rows ∈ completionsIn t.events,
      (∃ index, (p.requests repo count).2 = .failed index .staleCheckpoint) ∨
        ∀ index < plan.actions.length, TerminalSafe rows plan.manifestRunId index
  ordered : ∀ count, (executedIn (p.requests repo count).1.events).Pairwise (· < ·)
  failed : ∀ count index step, (p.requests repo count).2 = .failed index step →
    step ≠ .staleCheckpoint →
      finishRun p (p.requests repo count) = some (step, (p.requests repo count).1) ∧
      completionsIn (p.requests repo count).1.events = [] ∧
      ∀ i, TerminalSafe (p.requests repo count).1.repository.manifestActions
          plan.manifestRunId i ↔
        TerminalSafe repo.manifestActions plan.manifestRunId i ∨ i < index

variable {p : ActionPass plan W} {repo : DeviceSyncRepository}

theorem ends_of_wide (hb : BoundTo repo plan.manifestRunId) (ha : 1 ≤ p.actionPageLimit)
    (hw : 2 ≤ p.actionPageLimit ∨ plan.actions.length ≤ 1) (hse : p.AllSettle repo) :
    (p.requests repo (plan.actions.length + 1)).2 = .ended := by
  have hs := hse (plan.actions.length + 1)
  cases hp : (p.requests repo (plan.actions.length + 1)).2 with
  | listing a => exact absurd hp (returns_within hb ha hw a)
  | ended => rfl
  | refused st => exact absurd hp (hs st).1
  | failed index st => exact absurd hp ((hs st).2 index)

theorem complete_of_finish (hbo : BoundTo repo plan.manifestRunId)
    (ha : 1 ≤ p.actionPageLimit) {c : Nat} {st : RunStep} {t : PassState W}
    (hf : finishRun p (p.requests repo c) = some (st, t))
    {rs : List LocalManifestActionProgress} (hs : rs ∈ completionsIn t.events) :
    (∃ index, (p.requests repo c).2 = .failed index .staleCheckpoint) ∨
      ∀ index < plan.actions.length, TerminalSafe rs plan.manifestRunId index := by
  have hst := requests_standing (p := p) hbo ha c
  rcases hsd : p.requests repo c with ⟨s, pa⟩
  rw [hsd] at hst hf
  cases pa with
  | listing a => cases hf
  | ended =>
    refine .inr fun index hb => ?_
    have hl := completeRun_sent p s
    rw [show settleStep (completeRun p) s = (st, t) from Option.some.inj hf] at hl
    rw [hl, hst.completions, List.nil_append, List.mem_singleton] at hs
    exact hs ▸ (hst.rows index).2 (.inr hb)
  | refused st =>
    obtain ⟨front, ht⟩ := hst
    cases hf
    rw [ht.completions] at hs
    cases hs
  | failed index st =>
    by_cases hse : st = .staleCheckpoint
    · exact .inl ⟨index, by rw [hse]⟩
    · have hss : finishRun p (s, .failed index st) = some (st, s) := by
        cases st <;> first | rfl | exact absurd rfl hse
      rw [hss] at hf
      cases hf
      rw [hst.2.completions] at hs
      cases hs

theorem executed_ordered (hb : BoundTo repo plan.manifestRunId)
    (ha : 1 ≤ p.actionPageLimit) (c : Nat) :
    (executedIn (p.requests repo c).1.events).Pairwise (· < ·) := by
  have hst := requests_standing (p := p) hb ha c
  have hs (front : Nat) : ((List.range front).filter fun i =>
      i ∉ repo.indexesOf .terminalSafe).Pairwise (· < ·) :=
    List.pairwise_lt_range.filter _
  rcases hsd : p.requests repo c with ⟨s, pa⟩
  rw [hsd] at hst
  cases pa with
  | listing a => exact hst.2.executed ▸ hs _
  | ended => exact hst.executed ▸ hs _
  | refused st =>
    obtain ⟨front, ht⟩ := hst
    exact ht.executed ▸ hs _
  | failed index st => exact hst.2.executed ▸ hs _

theorem stopped_of_failed (hb : BoundTo repo plan.manifestRunId)
    (ha : 1 ≤ p.actionPageLimit) {c index : Nat} {st : RunStep}
    (hf : (p.requests repo c).2 = .failed index st) :
    StoppedAt repo plan.manifestRunId index (p.requests repo c).1 := by
  have hst := requests_standing (p := p) hb ha c
  rcases hs : p.requests repo c with ⟨s, pa⟩
  rw [hs] at hst hf
  subst hf
  exact hst.2

/-- Every pass keeps order, completes only what is settled and stops where an action fails; a pass
in which nothing fails ends exactly when its pages hold two actions or its plan holds one. -/
theorem action_paging_holds_iff (plan : PlannedRun) (p : ActionPass plan W)
    (repo : DeviceSyncRepository) (bound : BoundTo repo plan.manifestRunId)
    (admitted : 1 ≤ p.actionPageLimit ∧ p.actionPageLimit ≤ SourceStore.maxManifestPageEntries) :
    (p.AllSettle repo → (p.PagingHolds repo ↔ 2 ≤ p.actionPageLimit ∨ plan.actions.length ≤ 1)) ∧
    (¬ p.AllSettle repo → p.PagingHolds repo) := by
  have holds (ends : p.AllSettle repo → ∃ count, (p.requests repo count).2 = .ended) :
      p.PagingHolds repo :=
    { ends
      complete := fun count step t finished rows sent =>
        complete_of_finish bound admitted.1 finished sent
      ordered := executed_ordered bound admitted.1
      failed := fun count index step failed stale => by
        have stopped := stopped_of_failed bound admitted.1 failed
        refine ⟨?_, stopped.completions, stopped.rows⟩
        rcases stood : p.requests repo count with ⟨s, paging⟩
        rw [stood] at failed
        subst failed
        cases step <;> first | rfl | exact absurd rfl stale }
  constructor
  · refine fun settles => ⟨fun paging => ?_, fun wide =>
      holds fun _ => ⟨_, ends_of_wide bound admitted.1 wide settles⟩⟩
    by_contra narrow
    push Not at narrow
    obtain ⟨count, ended⟩ := paging.ends settles
    obtain ⟨after, listing, -⟩ := never_ends bound (by omega) narrow.2 settles count
    rw [listing] at ended
    cases ended
  · exact fun fails => holds fun settles => absurd settles fails

end Passes

/-! ## Two excluded entries -/

def twoExclusions : PlannedRun where
  context := ⟨1, 1⟩
  manifestRunId := 7
  actions :=
    [⟨0, .excluded, some "a", none, none, none, none, some .policyExcluded⟩,
      ⟨1, .excluded, some "b", none, none, none, none, some .policyExcluded⟩]
  indexed := rfl

/-- The run as the server keeps it while it is applied. -/
def twoExclusionsServed : Served twoExclusions where
  db := { SourceStore.Db.empty with manifestRuns :=
    [⟨7, 1, 1, 0, 0, 1, 1, 1, 2, [], [], twoExclusions.actions, none, .applying⟩] }
  row := ⟨7, 1, 1, 0, 0, 1, 1, 1, 2, [], [], twoExclusions.actions, none, .applying⟩
  found := rfl
  frozen := rfl

def answering (a : α) : Port Unit α := fun _ _ => ⟨.ok a, [], ()⟩

def answeredPass (actionPageLimit : Nat) : ActionPass twoExclusions Unit where
  ports :=
    { store := answering ()
      read := answering ()
      recheckManifestActionTarget := fun _ => answering .safe
      admitRepairUpload := fun _ => answering .recorded
      downloader := fun _ _ => answering ⟨"", 0, ""⟩
      apply := fun event _ => answering ⟨event.eventSequence, .applied, none⟩
      settleVaultFailedApply := fun event reason =>
        answering ⟨event.eventSequence, .conflict, some reason⟩
      deterministicActionEventId := fun _ actionIndex => .ok actionIndex
      listManifestActions := fun _ _ => answering twoExclusionsServed
      rejection := fun _ => ⟨.deviceManifestStateInvalid, false⟩
      completeManifest := fun _ => answering 0 }
  world := ()
  actionPageLimit
  checkpointSequence := 0
  finalDigest := ""
  barrierGeneration := 1
  isRetryAttempt := false
  entriesByLocalId := fun _ => none

def pagesRecorded : DeviceSyncRepository :=
  { DeviceSyncRepository.seeded with
    state := ⟨0, 0, 1, some 1, some .deviceManifestStateInvalid, some 7⟩
    manifestCheckpointSequence := some 0 }

theorem answered_wide_ends (c : Nat) :
    ((answeredPass 2).requests pagesRecorded (c + 1)).2 = .ended := by
  have hf : ((answeredPass 2).requests pagesRecorded 1).2 = .ended := by decide +kernel
  induction c with
  | zero => exact hf
  | succ c ih =>
    unfold ActionPass.requests at *
    rw [Function.iterate_succ_apply']
    rcases hs : (nextRequest (answeredPass 2))^[c + 1]
        ((answeredPass 2).start pagesRecorded, .listing none) with ⟨s, pa⟩
    rw [hs] at ih
    subst ih
    rfl

theorem action_paging_holds_wide :
    (answeredPass 2).AllSettle pagesRecorded ∧ (answeredPass 2).PagingHolds pagesRecorded := by
  have hs : (answeredPass 2).AllSettle pagesRecorded := by
    intro c st
    cases c with
    | zero => simp [ActionPass.requests]
    | succ c => simp [answered_wide_ends c]
  exact ⟨hs, ((action_paging_holds_iff twoExclusions (answeredPass 2) pagesRecorded
    (fun _ ha => (Option.some.inj ha).symm) ⟨by decide, by decide⟩).1 hs).2 (.inl (Nat.le_refl 2))⟩

/-- Once action 0 is settled its page is asked for again, and brings nothing else. -/
theorem answered_single_repeats (s : PassState Unit) (hs : 0 ∈ s.terminalActionIndexes) :
    nextRequest (answeredPass 1) (s, .listing (some 0)) =
      ({ s with events := s.events ++ [.listed (some 0)] }, .listing (some 0)) := by
  have hl : (listManifestActions (answeredPass 1) (some 0)).runFrom s =
      (.ok ⟨7, [⟨⟨0, .excluded, some "a", none, none, none, none, some .policyExcluded⟩, none⟩],
        true⟩, { s with events := s.events ++ [.listed (some 0)] }) := rfl
  simp only [nextRequest, hl, List.map_cons, List.map_nil, List.getLast?_singleton]
  simp [applyActions, applyAction, parseManifestAction, EarlyReturn.runFrom_bind, hs]

/-- The page of action 0 is answered again and again, and no action 1 is ever seen. -/
theorem single_pages_never_end : ¬ (answeredPass 1).PagingHolds pagesRecorded := by
  have hr (c : Nat) : ((answeredPass 1).requests pagesRecorded (c + 1)).2 = .listing (some 0) ∧
        0 ∈ ((answeredPass 1).requests pagesRecorded (c + 1)).1.terminalActionIndexes := by
    induction c with
    | zero => decide +kernel
    | succ c ih =>
      unfold ActionPass.requests at *
      rw [Function.iterate_succ_apply']
      rcases hsd : (nextRequest (answeredPass 1))^[c + 1]
          ((answeredPass 1).start pagesRecorded, .listing none) with ⟨s, pa⟩
      rw [hsd] at ih
      obtain ⟨rfl, hs⟩ := ih
      rw [answered_single_repeats s hs]
      exact ⟨rfl, hs⟩
  have hl (c : Nat) : ∃ a, ((answeredPass 1).requests pagesRecorded c).2 = .listing a := by
    cases c with
    | zero => exact ⟨none, rfl⟩
    | succ c => exact ⟨_, (hr c).1⟩
  intro hh
  obtain ⟨c, he⟩ := hh.ends fun c st => by
    obtain ⟨a, hst⟩ := hl c
    simp [hst]
  obtain ⟨a, hst⟩ := hl c
  rw [hst] at he
  cases he

end PersonalOs.DeviceSync
