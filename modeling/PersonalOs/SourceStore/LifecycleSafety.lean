import PersonalOs.SourceStore.Safety

/-!
# The lifecycle store is safe

A lifecycle call looks its event up without a lock and decides under locks. Where nobody
commits the event of a request that another call has looked for in vain, the decision and the
answer agree with what is committed.
-/

namespace PersonalOs.SourceStore

open Transactions LookupLemmas

variable {env : Environment} {strict : Prop} {o : StoreOwn} {born s s' : Snapshot Db}
  {request : LifecycleRequest}

/-! ## Requests without an event -/

/-- In strict runs the request's event is not committed, whatever the others do. -/
def Hopeless (env : Environment) (strict : Prop) (request : LifecycleRequest) (o : StoreOwn)
    (s : Snapshot Db) : Prop :=
  strict → ∀ s', Rely (rules env strict) o s s' → ¬request.CommittedIn env s'.db

theorem Hopeless.move (hh : Hopeless env strict request o s)
    (ho : Rely (rules env strict) o s s') : Hopeless env strict request o s' :=
  fun hs t ho' => hh hs t (ho.trans ho')

theorem hopeless_noted (hn : request ∈ o.notes)
    (absent : strict → ¬request.CommittedIn env s.db) : Hopeless env strict request o s := by
  intro hs t ho
  refine Rely.stable (fun t => ¬request.CommittedIn env t.db) ?_ ho (absent hs)
  intro a b hst absent hc
  cases hst with
  | draw => exact absent hc
  | commit call o' _ _ _ _ hr => exact absent (hr hs request hn hc)

theorem hopeless_taken (inv : StoreInv env s) {e : SyncEvent} (ht : e ∈ s.db.events)
    (hw : e.workspaceId = request.device.workspaceId)
    (key : e.idempotencyKey = request.command.idempotencyKey) (hot : ¬request.Commits env e)
    (o : StoreOwn) : Hopeless env strict request o s := by
  rintro _ t ho ⟨e', ht', hc⟩
  have hi' : StoreInv env t := Rely.inv ho inv
  have he : e' = e := by
    obtain ⟨v, n, rfl⟩ := hc
    have hh := (eventByKey_eq_some hi'.keyed).mpr ⟨ht', rfl, rfl⟩
    have hth := (eventByKey_eq_some hi'.keyed).mpr ⟨(grows_of_rely ho).events e ht, hw, key⟩
    exact Option.some.inj (hh.symm.trans hth)
  exact hot (he ▸ hc)

theorem trusted_of_committed (inv : StoreInv env s) (hc : request.CommittedIn env s.db) :
    env.trusts request.device = true := by
  obtain ⟨e, hs, v, n, rfl⟩ := hc
  obtain ⟨a, ha, htr⟩ := inv.authored _ hs
  have ht : (lifecycleEvent env request v n).eventType =
      eventTypeByOperation request.command.operation := rfl
  cases a with
  | publication p =>
    obtain ⟨c, _, _⟩ := p
    cases c with
    | create c =>
      obtain ⟨m, v', is⟩ := ha
      rw [is] at ht
      cases ho : request.command.operation <;> rw [ho] at ht <;> cases ht
    | update c =>
      obtain ⟨m, v', is⟩ := ha
      rw [is] at ht
      cases ho : request.command.operation <;> rw [ho] at ht <;> cases ht
  | lifecycle call =>
    obtain ⟨v', m, is⟩ := ha
    simp only [lifecycleEvent, SyncEvent.mk.injEq, Option.some.injEq] at is
    have hd : request.device = call.request.device :=
      congrArg₂ LifecycleDeviceContext.mk is.2.1 is.2.2.2.2.1
    rw [hd]
    exact htr
  | capture ca =>
    obtain ⟨x, m, is⟩ := ha
    rw [is] at ht
    cases ho : request.command.operation <;> rw [ho] at ht <;> cases ht
  | resolve r =>
    obtain ⟨co, x, v', m, is⟩ := ha
    rw [is] at ht
    cases ho : request.command.operation <;> rw [ho] at ht <;> cases ht
  | manifest _ | device _ => exact ha.elim

theorem hopeless_untrusted (inv : StoreInv env s) (hu : env.trusts request.device = false)
    (o : StoreOwn) : Hopeless env strict request o s := by
  intro _ t ho hc
  rw [trusted_of_committed (Rely.inv ho inv) hc] at hu
  cases hu

/-! ## The replay lookup -/

section Lookup

variable {db : Db}

theorem resolveCommittedLifecycle_found {r : SourceLifecycleCommitResult}
    (hr : resolveCommittedLifecycle env request db = .ok (some r)) :
    ∃ e, LifecycleEvent env request db e ∧ e.sourceId = request.command.sourceId ∧
      hydrateLifecycleReplay (db.lifecycleReplayRow e) request.command = .ok r := by
  unfold resolveCommittedLifecycle at hr
  simp only at hr
  split at hr
  · cases hr
  next e found =>
    split at hr
    · cases hr
    split at hr
    · cases hr
    next hs =>
      split at hr
      · cases hr
      next hf =>
        split at hr
        · cases hr
        next he =>
          have hn := List.find?_some found
          simp only [decide_eq_true_eq] at hn
          refine ⟨e, ⟨List.mem_of_find?_eq_some found, hn.1, hn.2, not_not.mp he,
            not_not.mp hf⟩, not_not.mp hs, ?_⟩
          cases hh : hydrateLifecycleReplay (db.lifecycleReplayRow e) request.command with
          | error c =>
            rw [hh] at hr
            cases hr
          | ok re =>
            rw [hh] at hr
            cases hr
            rfl

theorem resolveCommittedLifecycle_unkeyed
    (hr : resolveCommittedLifecycle env request db = .ok none) :
    ∀ e ∈ db.events, ¬(e.workspaceId = request.device.workspaceId ∧
      e.idempotencyKey = request.command.idempotencyKey) := by
  unfold resolveCommittedLifecycle at hr
  simp only at hr
  split at hr
  next hu =>
    rw [Db.eventByKey, List.find?_eq_none] at hu
    exact fun e ht => by simpa using hu e ht
  next e found =>
    split at hr
    · cases hr
    split at hr
    · cases hr
    split at hr
    · cases hr
    split at hr
    · cases hr
    · cases hh : hydrateLifecycleReplay (db.lifecycleReplayRow e) request.command <;>
        rw [hh] at hr <;> cases hr

theorem resolveCommittedLifecycle_absent
    (hr : resolveCommittedLifecycle env request db = .ok none) :
    ¬request.CommittedIn env db := by
  rintro ⟨e, ht, v, n, rfl⟩
  exact resolveCommittedLifecycle_unkeyed hr _ ht ⟨rfl, rfl⟩

theorem hydrateLifecycleReplay_error {row : LifecycleReplayLookupRow}
    {c : SourceLifecycleCommand} {co : SourceLifecycleErrorCode}
    (hf : hydrateLifecycleReplay row c = .error co) :
    co = .commitOutcomeUnknown := by
  unfold hydrateLifecycleReplay at hf
  simp only at hf
  split at hf
  · split at hf <;> cases hf
    rfl
  · split at hf <;> cases hf
    rfl
  · split at hf <;> cases hf
    rfl
  · split at hf <;> cases hf
    rfl
  · cases hf
    rfl

/-- A lookup that fails proves nothing, or has found another event of the key. -/
theorem resolveCommittedLifecycle_refused {c : SourceLifecycleErrorCode}
    (hr : resolveCommittedLifecycle env request db = .error c) :
    c = .commitOutcomeUnknown ∨ (c = .inputInvalid ∨ c = .locatorConflict) ∧
      ∃ e ∈ db.events, e.workspaceId = request.device.workspaceId ∧
        e.idempotencyKey = request.command.idempotencyKey ∧ ¬request.Commits env e := by
  unfold resolveCommittedLifecycle at hr
  simp only at hr
  split at hr
  · cases hr
  next e found =>
    have hn := List.find?_some found
    simp only [decide_eq_true_eq] at hn
    have ho (hd : ¬request.Commits env e) :
        ∃ e ∈ db.events, e.workspaceId = request.device.workspaceId ∧
          e.idempotencyKey = request.command.idempotencyKey ∧ ¬request.Commits env e :=
      ⟨e, List.mem_of_find?_eq_some found, hn.1, hn.2, hd⟩
    split at hr
    · cases hr
      exact .inl rfl
    split at hr
    next hs =>
      cases hr
      refine .inr ⟨.inl rfl, ho ?_⟩
      rintro ⟨v, n, rfl⟩
      exact hs rfl
    split at hr
    next hf =>
      cases hr
      refine .inr ⟨.inr rfl, ho ?_⟩
      rintro ⟨v, n, rfl⟩
      exact hf rfl
    split at hr
    next he =>
      cases hr
      refine .inr ⟨.inl rfl, ho ?_⟩
      rintro ⟨v, n, rfl⟩
      exact he rfl
    · cases hh : hydrateLifecycleReplay (db.lifecycleReplayRow e) request.command with
      | error c' =>
        rw [hh] at hr
        cases hr
        exact .inl (hydrateLifecycleReplay_error hh)
      | ok r =>
        rw [hh] at hr
        cases hr

end Lookup

/-! ## Answers -/

section Answers

variable {call : LifecycleCall}

theorem lifecycleEvent_later {e : SyncEvent} {r : SourceLifecycleCommitResult}
    (ho : Rely (rules env strict) o s s') (he : LifecycleEvent env request s.db e)
    (hh : hydrateLifecycleReplay (s.db.lifecycleReplayRow e) request.command = .ok r) :
    LifecycleEvent env request s'.db e ∧
      hydrateLifecycleReplay (s'.db.lifecycleReplayRow e) request.command = .ok r := by
  refine Rely.stable (fun t => LifecycleEvent env request t.db e ∧
    hydrateLifecycleReplay (t.db.lifecycleReplayRow e) request.command = .ok r) ?_ ho
    ⟨he, hh⟩
  rintro a b hst ⟨he, hh⟩
  cases hst with
  | draw => exact ⟨he, hh⟩
  | commit call o' _ _ _ hg =>
    refine ⟨{ he with stands := (StoreGuar.grows hg).events e he.stands }, ?_⟩
    rcases hg with ⟨e', hev⟩ | hs
    · rw [hev.commit.lifecycleReplayRow he.stands]
      exact hh
    · rw [lifecycleReplayRow_graph, hs.graph, ← lifecycleReplayRow_graph]
      exact hh

theorem answerLifecycleOk_safe {e : SyncEvent} {r : SourceLifecycleCommitResult}
    (he : LifecycleEvent env call.request s.db e)
    (hs : e.sourceId = call.request.command.sourceId)
    (hh : hydrateLifecycleReplay (s.db.lifecycleReplayRow e) call.request.command = .ok r) :
    Safe (rules env strict) (.lifecycle call) born (answerLifecycle (.ok r)) o s := by
  intro s' ho _
  obtain ⟨he', hh'⟩ := lifecycleEvent_later ho he hh
  exact ⟨e, he', hs, hh'⟩

/-- An error a request whose key is taken may get. -/
def Yields (failure : LifecycleFailure) : Prop :=
  failure.isRetryable = true ∨ failure = .lifecycle .inputInvalid ∨
    failure = .lifecycle .locatorConflict ∨ failure = .driverFailure

theorem answerLifecycleError_safe {f : LifecycleFailure}
    (hg : f.isRetryable = true ∨ Hopeless env strict call.request o s)
    (hy : KeyTaken env call.request born.db → Yields f) :
    Safe (rules env strict) (.lifecycle call) born (answerLifecycle (.error f)) o s :=
  fun s' ho _ => ⟨fun hs => hg.imp_right fun hh => hh hs s' ho, hy⟩

theorem answerLifecycleRetryable_safe {f : LifecycleFailure} (hr : f.isRetryable = true) :
    Safe (rules env strict) (.lifecycle call) born (answerLifecycle (.error f)) o s :=
  answerLifecycleError_safe (.inl hr) fun _ => .inl hr

theorem raiseLifecycle_safe {c : SourceLifecycleErrorCode} {notes : List LifecycleRequest}
    (hg : c = .commitOutcomeUnknown ∨ Hopeless env strict call.request ⟨[], [], notes⟩ s)
    (hy : KeyTaken env call.request born.db → Yields (.lifecycle c)) :
    Safe (rules env strict) (.lifecycle call) born (raiseLifecycle call.request c)
      ⟨[], [], notes⟩ s := by
  unfold raiseLifecycle
  split
  next hc =>
    have hh := hg.resolve_left (by simp [hc])
    refine writeRejectionAudit_safe (fun t ho _ _ => answerLifecycleError_safe (.inr (hh.move ho))
        fun _ => .inr (.inr (.inr rfl))) ?_
      (fun t ho _ => answerLifecycleError_safe (.inr (hh.move ho)) hy)
    rintro t ho l ⟨⟩ hs
    exact hh hs t ho
  next =>
    refine answerLifecycleError_safe (hg.imp_left ?_) hy
    rintro rfl
    rfl

end Answers

/-! ## The lookup with its retries -/

section Resolve

variable {call : LifecycleCall} {notes : Db → List LifecycleRequest}
  {found : SourceLifecycleCommitResult → StoreProgram}
  {raised : SourceLifecycleErrorCode → StoreProgram} {absent : StoreProgram}

theorem resolveCommitted_safe (hfo : ∀ t o' e r, LifecycleEvent env call.request t.db e →
      e.sourceId = call.request.command.sourceId →
      hydrateLifecycleReplay (t.db.lifecycleReplayRow e) call.request.command = .ok r →
        Safe (rules env strict) (.lifecycle call) born (found r) o' t)
    (hra : ∀ t c ta, c = .commitOutcomeUnknown ∨
      Hopeless env strict call.request ⟨[], [], ta⟩ t → Yields (.lifecycle c) →
        Safe (rules env strict) (.lifecycle call) born (raised c) ⟨[], [], ta⟩ t)
    (ha : ∀ s, resolveCommittedLifecycle env call.request s.db = .ok none →
      Rely (rules env strict) .none born s → env.trusts call.request.device = true →
      ∀ t, Rely (rules env strict) ⟨[], [], notes s.db⟩ s t → StoreInv env t →
        Safe (rules env strict) (.lifecycle call) born absent ⟨[], [], notes s.db⟩ t) :
    SafeAfter (rules env strict) (.lifecycle call) born
      (resolveCommitted env call.request notes found raised absent) := by
  refine databaseRetry_safe (fun _ oe hf s hl inv => ?_) (by rintro _ ⟨⟩) ?_ ?_ _
  · refine Safe.begin hl hf fun s₁ ho₁ hi₁ => ?_
    split
    next hu =>
      refine Safe.rollback fun s₂ ho₂ hi₂ => hra s₂ _ [] (.inr ?_) (.inr (.inl rfl))
      exact hopeless_untrusted hi₂ (by simpa using hu) _
    next ht =>
    refine Safe.note fun s₂ ho₂ hi₂ => ?_
    have hl₂ : Rely (rules env strict) .none born s₂ := hl.trans (ho₁.trans ho₂)
    split
    next c hr =>
      refine Safe.rollback fun s₃ ho₃ hi₃ => ?_
      rcases resolveCommittedLifecycle_refused hr with
        rfl | ⟨hc, e, hst, hw, key, ho⟩
      · exact hra s₃ _ _ (.inl rfl) (.inl rfl)
      · refine hra s₃ _ _ (.inr ((hopeless_taken hi₂ hst hw key ho _).move ho₃)) (.inr ?_)
        rcases hc with rfl | rfl
        · exact .inl rfl
        · exact .inr (.inl rfl)
    next r hr =>
      obtain ⟨e, he, hs, hh⟩ := resolveCommittedLifecycle_found hr
      refine Safe.rollback fun s₃ ho₃ hi₃ => ?_
      obtain ⟨he', hh'⟩ := lifecycleEvent_later ho₃ he hh
      exact hfo s₃ _ e r he' hs hh'
    next hr =>
      exact Safe.rollback fun s₃ ho₃ hi₃ =>
        ha s₂ hr hl₂ (by simpa using ht) s₃ ho₃ hi₃
  · exact fun _ _ _ => answerLifecycleRetryable_safe rfl
  · exact fun _ _ _ => answerLifecycleRetryable_safe rfl

end Resolve

/-! ## The transition -/

/-- A lifecycle call behind its key and source locks, whose lookup found nothing, with the graph
of its source. -/
structure AtLifecycle (env : Environment) (strict : Prop) (request : LifecycleRequest)
    (g : SourceGraph) (o : StoreOwn) (born s : Snapshot Db) : Prop where
  idempotency : idempotencyLock env.word request.device.workspaceId
    request.command.idempotencyKey ∈ o.locks
  source : sourceLock env.word request.command.sourceId ∈ o.locks
  drawn : o.drawn = []
  notes : o.notes = [request]
  later : Rely (rules env strict) .none born s
  inv : StoreInv env s
  trusted : env.trusts request.device = true
  absent : strict → ¬request.CommittedIn env s.db
  unclaimed : ¬KeyTaken env request born.db
  graph : s.db.graph request.command.sourceId = g

section Transition

variable {g : SourceGraph}

theorem AtLifecycle.hopeless (hst : AtLifecycle env strict request g o born s) :
    Hopeless env strict request o s :=
  hopeless_noted (by simp [hst.notes]) hst.absent

theorem AtLifecycle.move (hst : AtLifecycle env strict request g o born s)
    (ho : Rely (rules env strict) o s s') (inv : StoreInv env s') :
    AtLifecycle env strict request g o born s' :=
  { hst with
    later := hst.later.trans ho.toNone
    inv := inv
    absent := fun hs => hst.hopeless hs s' ho
    graph := (frozen_source hst.source ho).trans hst.graph }

theorem AtLifecycle.withLock (hst : AtLifecycle env strict request g o born s)
    (l : LockName) : AtLifecycle env strict request g (o.withLock l) born s :=
  { hst with
    idempotency := List.mem_cons_of_mem _ hst.idempotency
    source := List.mem_cons_of_mem _ hst.source }

/-- What `_lock_source_row` joins, from the graph of the source. -/
def SourceGraph.lockedLifecycleSource (g : SourceGraph) : Option LockedLifecycleSource :=
  g.rows.head?.map fun s => ⟨s.syncState, s.currentVersionId,
    (g.locators.find? fun l => l.closure = none).map SourceLocator.normalizedLocator⟩

theorem source_graph (db : Db) (x : SourceId) : db.source x = (db.graph x).rows.head? := by
  rw [Db.source, Db.graph, List.head?_filter]

theorem lockedLifecycleSource_graph (db : Db) (x : SourceId) :
    db.lockedLifecycleSource x = (db.graph x).lockedLifecycleSource := by
  rw [Db.lockedLifecycleSource, SourceGraph.lockedLifecycleSource, source_graph, openLocator_graph]

variable {call : LifecycleCall}

theorem AtLifecycle.rejects {c : SourceLifecycleErrorCode}
    (hst : AtLifecycle env strict call.request g o born s) :
    Safe (rules env strict) (.lifecycle call) born (.rollback (raiseLifecycle call.request c))
      o s := by
  refine Safe.rollback fun t hot inv => ?_
  have ho := hst.move hot inv
  rw [Own.released, ho.notes]
  exact raiseLifecycle_safe (.inr (hopeless_noted (by simp) ho.absent))
    fun ht => absurd ht hst.unclaimed

theorem lockAll_safe {lo : List LockName} {n : StoreProgram}
    (hst : AtLifecycle env strict call.request g o born s)
    (ha : ∀ o' t, AtLifecycle env strict call.request g o' born t →
      Safe (rules env strict) (.lifecycle call) born n o' t) :
    Safe (rules env strict) (.lifecycle call) born (lockAll lo n) o s := by
  induction lo generalizing o s with
  | nil => exact ha o s hst
  | cons l lo ih =>
    exact Safe.lock fun t ho inv => ih ((hst.move ho inv).withLock l)

theorem maybeLockTombstone_safe {n : Option SourceTombstone → StoreProgram}
    (hst : AtLifecycle env strict call.request g o born s)
    (ha : ∀ o' t tombstone, AtLifecycle env strict call.request g o' born t →
      (∀ row ∈ tombstone, row ∈ t.db.tombstones ∧
        some row.sourceTombstoneId = call.request.command.tombstoneId ∧
        call.request.command.operation = .restore) →
      Safe (rules env strict) (.lifecycle call) born (n tombstone) o' t) :
    Safe (rules env strict) (.lifecycle call) born (maybeLockTombstone call.request n) o s := by
  have hw {t : Snapshot Db} {o' : StoreOwn}
      (hst : AtLifecycle env strict call.request g o' born t) :
      Safe (rules env strict) (.lifecycle call) born (n none) o' t :=
    ha o' t none hst (by simp)
  unfold maybeLockTombstone
  split
  next ti hop hn =>
    refine Safe.selectForUpdate (fun t ho inv _ => hw (hst.move ho inv))
      (fun t _ ho inv _ => hw ((hst.move ho inv).withLock _)) ?_
    intro t row l ho inv found
    obtain ⟨ht, _, id⟩ := tombstone_eq_some found
    refine ha _ t (some row) ((hst.move ho inv).withLock _) ?_
    rintro _ ⟨⟩
    exact ⟨ht, by rw [id, hn], hop⟩
  next => exact hw hst

theorem lockTargetLocatorRow_safe {c n : StoreProgram}
    (hst : AtLifecycle env strict call.request g o born s)
    (hc : ∀ o' t, AtLifecycle env strict call.request g o' born t →
      Safe (rules env strict) (.lifecycle call) born c o' t)
    (ha : ∀ o' t, AtLifecycle env strict call.request g o' born t →
      .policyStateRow call.request.device.workspaceId ∈ o'.locks →
      Safe (rules env strict) (.lifecycle call) born n o' t)
    (hp : .policyStateRow call.request.device.workspaceId ∈ o.locks) :
    Safe (rules env strict) (.lifecycle call) born (lockTargetLocatorRow call.request c n) o s := by
  unfold lockTargetLocatorRow
  split
  · exact ha o s hst hp
  · exact ha o s hst hp
  next _ tg _ _ =>
    refine Safe.selectForUpdate (fun t ho inv _ => ha o t (hst.move ho inv) hp)
      (fun t _ ho inv _ => ha _ t ((hst.move ho inv).withLock _) (List.mem_cons_of_mem _ hp)) ?_
    intro t row l ho inv _
    have hon := (hst.move ho inv).withLock (.openLocatorRow call.request.device.workspaceId tg)
    split
    · exact hc _ t hon
    · exact ha _ t hon (List.mem_cons_of_mem _ hp)

variable {current : SourceVersionId} {tombstone : Option SourceTombstone}

/-- What the preconditions and the policy evidence read is what the graph of the source says,
so it holds at commit too. -/
theorem transitionFacts {l : LockedLifecycleSource} {t : Snapshot Db}
    (hl : g.lockedLifecycleSource = some l)
    (hv : validatePreconditions call.request.command (some l) tombstone = .ok current)
    (hr : ∀ row ∈ tombstone, row ∈ g.tombstones ∧
      some row.sourceTombstoneId = call.request.command.tombstoneId)
    (hw : ∃ row, g.rows.head? = some row ∧
      row.workspaceId = call.request.device.workspaceId)
    (hg : t.db.graph call.request.command.sourceId = g) :
    TransitionFacts call.request current l.activeLocator tombstone t.db where
  valid := by
    rw [lockedLifecycleSource_graph, hg, hl]
    exact hv
  active := by
    obtain ⟨row, _, is⟩ := Option.map_eq_some_iff.mp hl
    rw [openLocator_graph, hg, ← is]
  workspace := by
    obtain ⟨row, hf, hn⟩ := hw
    refine ⟨row, ?_⟩
    rw [Db.sourceInWorkspace, source_graph, hg, hf, Option.filter_some]
    simp [hn]
  tombstone := by
    rw [hg]
    exact hr

/-- The writes of a transition commit the request's event, or are refused while it has none. -/
theorem commitLifecycleWrites_safe {al : Option NormalizedLocator} {o' : StoreOwn}
    (i : LifecycleIdentities) (hst : AtLifecycle env strict call.request g o born s)
    (hp : .policyStateRow call.request.device.workspaceId ∈ o.locks)
    (hfa : ∀ t : Snapshot Db, t.db.graph call.request.command.sourceId = g →
      TransitionFacts call.request current al tombstone t.db)
    (hmo : ∀ l ∈ o.locks, l ∈ o'.locks) (hd : o'.drawn = [s.sequence])
    (notes : o'.notes = o.notes)
    (hot : Rely (rules env strict) (o.withNumber s.sequence) ⟨s.db, s.sequence + 1⟩ s') :
    Safe (rules env strict) (.lifecycle call) born
      (.commitOrAbort
        (lifecycleWrites env call.request i current al s.sequence)
        (fun rs => answerLifecycle (.ok rs))
        (fun r =>
          match r with
          | .constraint => answerLifecycle (.error .internalError)
          | .rejected c => raiseLifecycle call.request c)) o' s' := by
  have hw {t : Snapshot Db} (ho : Rely (rules env strict) o' s' t) :
      Rely (rules env strict) (o.withNumber s.sequence) ⟨s.db, s.sequence + 1⟩ t := by
    refine hot.trans (ho.weaken hmo ?_ notes.symm)
    intro n hm
    rw [hd]
    simpa [Own.withNumber, hst.drawn] using hm
  refine Safe.commitOrAbort ?_ ?_
  · intro t db rs ho inv hwr
    have hr := hw ho
    have hhe : sourceLock env.word call.request.command.sourceId ∈
        (o.withNumber s.sequence).locks := hst.source
    have hf := frozen_source hhe hr
    obtain ⟨hc, hl⟩ :=
      lifecycleWrites_commit inv.keyed (hfa t (hf.trans hst.graph)) hwr
    have ht : (lifecycleEvent env call.request current s.sequence).eventType.isConflict =
        false := by
      simp only [lifecycleEvent]
      cases call.request.command.operation <;> rfl
    have hgu : EventCommit env (.lifecycle call) (o.withNumber s.sequence) t db
        (lifecycleEvent env call.request current s.sequence) :=
      eventCommit_of hst.inv hr hc rfl ⟨current, s.sequence, rfl⟩ hst.trusted
        hst.source hst.idempotency (fun _ => hp) (conflicts_still hc ht)
    have hg : StoreGuar env strict (.lifecycle call) o' t db :=
      .inl ⟨_, { hgu with
        source := hmo _ hst.source
        idempotency := hmo _ hst.idempotency
        policy := fun _ => hmo _ hp
        number := by rw [hd]; exact List.mem_singleton.mpr rfl }⟩
    have hb : ∀ n ∈ o'.drawn, n < t.sequence := by
      intro n hm
      refine drawn_behind hst.drawn hr n ?_
      rw [hd] at hm
      simpa [Own.withNumber, hst.drawn] using hm
    have hi' : StoreInv env ⟨db, t.sequence⟩ := StoreInv.commit inv hb hg
    refine ⟨hg, answerLifecycleOk_safe (e := lifecycleEvent env call.request current
      s.sequence) ⟨?_, rfl, rfl, rfl, rfl⟩ rfl ?_⟩
    · show _ ∈ db.events
      rw [hc.events]
      simp
    · exact lifecycleWrites_result (hi'.history _) hl
  · intro t r ho inv _
    have hr := hw ho
    have absent : strict → ¬call.request.CommittedIn env t.db := by
      intro hs
      have hh : Hopeless env strict call.request (o.withNumber s.sequence)
          ⟨s.db, s.sequence + 1⟩ :=
        hopeless_noted (by simp [Own.withNumber, hst.notes]) hst.absent
      exact hh hs t hr
    have hn : o'.released = ⟨[], [], [call.request]⟩ := by
      rw [Own.released, notes, hst.notes]
    rw [hn]
    have hgo : Hopeless env strict call.request ⟨[], [], [call.request]⟩ t :=
      hopeless_noted (by simp) absent
    cases r with
    | constraint => exact answerLifecycleError_safe (.inr hgo) (absurd · hst.unclaimed)
    | rejected c => exact raiseLifecycle_safe (.inr hgo) (absurd · hst.unclaimed)

theorem commitLifecycleTransition_safe {lo : LockedLifecycleSource} {r : Nat}
    (hst : AtLifecycle env strict call.request g o born s)
    (hl : g.lockedLifecycleSource = some lo)
    (hv : validatePreconditions call.request.command (some lo) tombstone = .ok current)
    (hr : ∀ row ∈ tombstone, row ∈ g.tombstones ∧
      some row.sourceTombstoneId = call.request.command.tombstoneId) :
    Safe (rules env strict) (.lifecycle call) born
      (commitLifecycleTransition env call r current lo.activeLocator) o s := by
  unfold commitLifecycleTransition
  refine Safe.lock fun s₁ ho₁ hi₁ => ?_
  have hst₁ := (hst.move ho₁ hi₁).withLock
    (.policyStateRow call.request.device.workspaceId)
  split
  next hu =>
    refine Safe.rollback fun t ho inv => ?_
    have hon := hst₁.move ho inv
    rw [Own.released, hon.notes]
    exact answerLifecycleError_safe (.inr (hopeless_noted (by simp) hon.absent))
      (absurd · hst.unclaimed)
  refine Safe.read fun s₂ ho₂ hi₂ => ?_
  have hst₂ := hst₁.move ho₂ hi₂
  split
  · exact hst₂.rejects
  next he =>
  have hw : ∃ row, g.rows.head? = some row ∧
      row.workspaceId = call.request.device.workspaceId := by
    obtain ⟨row, found⟩ := Option.ne_none_iff_exists'.mp (by simpa using he)
    rw [Db.sourceInWorkspace, source_graph, hst₂.graph, Option.filter_eq_some_iff] at found
    exact ⟨row, found.1, by simpa using found.2⟩
  refine lockTargetLocatorRow_safe hst₂ (fun o' t at' => at'.rejects) ?_ List.mem_cons_self
  intro o' s₃ hst₃ hp
  refine Safe.draw fun s₄ ho₄ hi₄ => ?_
  have hst₄ := hst₃.move ho₄ hi₄
  have hc {o'' : StoreOwn} {t : Snapshot Db} (hm : ∀ l ∈ o'.locks, l ∈ o''.locks)
      (hd : o''.drawn = [s₄.sequence]) (notes : o''.notes = o'.notes)
      (ho : Rely (rules env strict) (o'.withNumber s₄.sequence)
        ⟨s₄.db, s₄.sequence + 1⟩ t) :=
    commitLifecycleWrites_safe (call.identities r) hst₄ hp
      (fun t hg => transitionFacts (t := t) hl hv hr hw hg)
      hm hd notes ho
  have hn : (o'.withNumber s₄.sequence).drawn = [s₄.sequence] := by
    simp [Own.withNumber, hst₄.drawn]
  unfold lockClosedLocatorRow
  split
  · exact hc (fun l hh => hh) hn rfl .refl
  · exact hc (fun l hh => hh) hn rfl .refl
  · refine Safe.lock fun t ho _ => ?_
    exact hc (fun l hh => List.mem_cons_of_mem _ hh) hn rfl ho

/-! ## The call -/

theorem commitLifecycleOnce_safe {r : Nat} {oe : Failure → StoreProgram}
    (hf : ∀ f,
      SafeAfter (rules env strict) (.lifecycle call) born (oe f)) :
    SafeAfter (rules env strict) (.lifecycle call) born
      (commitLifecycleOnce env call r oe) := by
  unfold commitLifecycleOnce
  refine resolveCommitted_safe ?_ ?_ ?_
  · exact fun t o' e rs he hso hhy =>
      answerLifecycleOk_safe he hso hhy
  · exact fun t c ta hg hy => raiseLifecycle_safe hg fun _ => hy
  intro s₀ hm hl htr s ho inv
  have hno : missedLookup env call.request s₀.db = [call.request] := by
    rw [missedLookup, hm]
  rw [hno] at ho ⊢
  have hh : Hopeless env strict call.request ⟨[], [], [call.request]⟩ s₀ :=
    hopeless_noted (by simp) fun _ => resolveCommittedLifecycle_absent hm
  refine Safe.begin (hl.trans ho.toNone) hf fun s₁ ho₁ hi₁ => ?_
  split
  next hu =>
    rw [htr] at hu
    cases hu
  refine Safe.lock fun s₂ ho₂ hi₂ => Safe.lock fun s₃ ho₃ hi₃ => ?_
  have hwe : Rely (rules env strict) ⟨[], [], [call.request]⟩ s₂ s₃ :=
    ho₃.weaken (by simp) (by simp)
  have hon : Rely (rules env strict) ⟨[], [], [call.request]⟩ s₀ s₃ :=
    ho.trans (ho₁.trans (ho₂.trans hwe))
  have hst₃ : AtLifecycle env strict call.request
      (s₃.db.graph call.request.command.sourceId)
      ⟨[sourceLock env.word call.request.command.sourceId,
        idempotencyLock env.word call.request.device.workspaceId
          call.request.command.idempotencyKey], [], [call.request]⟩ born s₃ := {
    idempotency := List.mem_cons_of_mem _ List.mem_cons_self
    source := List.mem_cons_self
    drawn := rfl
    notes := rfl
    later := hl.trans hon.toNone
    inv := hi₃
    trusted := htr
    absent := fun hsy => hh hsy s₃ hon
    unclaimed := fun ⟨e, hs, hw, key, _⟩ => resolveCommittedLifecycle_unkeyed hm e
      ((grows_of_rely hl).events e hs) ⟨hw, key⟩
    graph := rfl }
  generalize s₃.db.graph call.request.command.sourceId = g at hst₃
  have hmi {o' : StoreOwn} {t : Snapshot Db} {b : Option SourceTombstone → StoreProgram}
      (hr : ∀ tombstone {o'' t'}, AtLifecycle env strict call.request g o'' born t' →
        Safe (rules env strict) (.lifecycle call) born (b tombstone) o'' t')
      (hst : AtLifecycle env strict call.request g o' born t) {l : List LockName} :
      Safe (rules env strict) (.lifecycle call) born
        (lockAll l <| maybeLockTombstone call.request b) o' t :=
    lockAll_safe hst fun _ _ at₁ => maybeLockTombstone_safe at₁ fun _ _ tombstone at₂ _ =>
      hr tombstone at₂
  refine Safe.selectForUpdate
    (fun t ho inv _ => hmi (fun _ _ _ at₂ => at₂.rejects) (hst₃.move ho inv))
    (fun t _ ho inv _ => hmi (fun _ _ _ at₂ => at₂.rejects)
      ((hst₃.move ho inv).withLock _)) ?_
  intro s₄ lo row ho₄ hi₄ found
  have hst₄ := (hst₃.move ho₄ hi₄).withLock
    (.sourceRow call.request.command.sourceId)
  rw [lockedLifecycleSource_graph, hst₄.graph] at found
  refine lockAll_safe hst₄ fun _ _ at₁ => maybeLockTombstone_safe at₁ ?_
  intro o' t tombstone at₂ ht
  split
  · exact at₂.rejects
  next current hv =>
    refine commitLifecycleTransition_safe at₂ found hv fun row is => ?_
    obtain ⟨hs, hn, hop⟩ := ht row is
    refine ⟨?_, hn⟩
    obtain ⟨_, _, ha⟩ := validatePreconditions_ok hv
    cases ha with
    | relocation _ _ hot => simp [hop] at hot
    | deletion _ hd => simp [hop] at hd
    | restoration _ op _ _ _ hod _ hof =>
      rw [Option.mem_def.mp is] at hod
      cases hod
      rw [← at₂.graph]
      exact List.mem_filter.mpr ⟨hs, by simpa using hof⟩

theorem commitLifecycle_safe (inv : StoreInv env s) :
    Safe (rules env strict) (.lifecycle call) s (commitLifecycle env call) .none s := by
  refine databaseRetry_safe (fun r oe hf => commitLifecycleOnce_safe hf) ?_ ?_ ?_ _ s .refl inv
  · rintro re ⟨⟩ n hn
    refine resolveCommitted_safe ?_ ?_ ?_
    · exact fun t o' e rs he hs hh =>
        answerLifecycleOk_safe he hs hh
    · exact fun t c ta _ _ => answerLifecycleRetryable_safe rfl
    · exact fun s₀ _ hl _ t ho inv => hn t (hl.trans ho.toNone) inv
  · exact fun _ _ _ => answerLifecycleRetryable_safe rfl
  · exact fun _ _ _ => answerLifecycleRetryable_safe rfl

end Transition

end PersonalOs.SourceStore
