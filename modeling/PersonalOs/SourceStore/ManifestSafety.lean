import PersonalOs.SourceStore.Safety

/-!
# The manifest store is safe

Every commit of a manifest call is a move of the devices' rows: a run that is read under its
row lock still stands when the call writes, so a page goes to the run it was checked against,
a plan to the pages it was made of and a completion to the run that was applying.
-/

namespace PersonalOs.SourceStore

open Transactions

variable {env : Environment} {strict : Prop} {o : StoreOwn} {born s s' : Snapshot Db}

/-! ## How the rows of devices develop -/

variable {call : StoreCall} {r : ManifestRun} {context : DeviceSyncContext} {runId : ManifestRunId}
  {admitted : ManifestRunState → Bool} {write : ManifestRun → ManifestRun}

theorem StoreGuar.deviceMove {db' : Db} (hg : StoreGuar env strict call o s db') :
    DeviceMove env call.deviceCall call.manifestCall o.locks s.db db' := by
  rcases hg with ⟨e, he⟩ | hs
  · exact .still he.commit.rest.manifestRuns he.commit.rest.cursors
  · exact hs.devices

theorem run_later (ho : Rely (rules env strict) o s s') (ht : r ∈ s.db.manifestRuns) :
    ∃ r' ∈ s'.db.manifestRuns, RunKept r r' := by
  refine Rely.stable (fun t => ∃ r' ∈ t.db.manifestRuns, RunKept r r') ?_ ho ⟨r, ht, .refl r⟩
  rintro a b hs ⟨r₁, has, hk⟩
  cases hs with
  | draw => exact ⟨r₁, has, hk⟩
  | commit call o' _ _ _ hg =>
    obtain ⟨r₂, hh', hk', _⟩ := (StoreGuar.deviceMove hg).runs.kept has
    exact ⟨r₂, hh', hk.trans hk'⟩

theorem behind_later (ho : Rely (rules env strict) o s s') :
    Behind (s.db.watermarks context) (s'.db.watermarks context) := by
  induction ho with
  | refl => exact .refl _
  | tail _ hs ih =>
    cases hs with
    | draw => exact ih
    | commit call o' _ _ _ hg => exact ih.trans (StoreGuar.deviceMove hg).behind

theorem frozen_run (hh : .manifestRunRow r.manifestRunId ∈ o.locks)
    (ho : Rely (rules env strict) o s s') (ht : r ∈ s.db.manifestRuns) :
    r ∈ s'.db.manifestRuns :=
  (unchanged_of_rely hh ho).run r ht rfl

theorem frozen_cursor (hh : .deviceCursorRow context.workspaceId context.deviceId ∈ o.locks)
    (ho : Rely (rules env strict) o s s') : s'.db.cursor context = s.db.cursor context :=
  (unchanged_of_rely hh ho).cursor context rfl

theorem run_unique (inv : StoreInv env s) {r' : ManifestRun} (ht : r ∈ s.db.manifestRuns)
    (ht' : r' ∈ s.db.manifestRuns) (he : r.manifestRunId = r'.manifestRunId) : r = r' := by
  by_contra hd
  have hs : Std.Symm fun a b : ManifestRun => a.manifestRunId ≠ b.manifestRunId :=
    ⟨fun _ _ => Ne.symm⟩
  exact inv.devices.runs.apart.forall ht ht' hd he

theorem RunOf.later (ho : Rely (rules env strict) o s s') (hn : RunOf s.db context runId r) :
    ∃ r', RunOf s'.db context runId r' ∧ RunKept r r' := by
  obtain ⟨r', ht, hk⟩ := run_later ho hn.stands
  exact ⟨r', ⟨ht, hk.context.trans hn.context, hk.id.trans hn.id⟩, hk⟩

theorem runOf_of_found {db : Db} (hf : db.manifestRun context runId = some r) :
    RunOf db context runId r := by
  have hh := List.find?_some hf
  simp only [decide_eq_true_eq] at hh
  exact ⟨List.mem_of_find?_eq_some hf, hh.1, hh.2⟩

/-! ## Commits of runs -/

theorem sideCommit_devices {db' : Db} {ru : List ManifestRun} {c : List DeviceCursor}
    (hv : DeviceMove env call.deviceCall call.manifestCall o.locks s.db db')
    (is : db' = { s.db with manifestRuns := ru, cursors := c }) :
    StoreGuar env strict call o s db' := by
  subst is
  exact .inr ⟨⟨_, _, _, _, rfl⟩, .still (by simp), hv, .inl rfl⟩

theorem commitThen_safe {w : Db → Db} {next : StoreProgram}
    (hc : ∀ t, Rely (rules env strict) o s t → StoreInv env t →
      StoreGuar env strict call o t (w t.db) ∧
        Safe (rules env strict) call born next o.released ⟨w t.db, t.sequence⟩) :
    Safe (rules env strict) call born (commitThen w next) o s := by
  intro t ho inv
  refine ⟨?_, by simp⟩
  rintro db ⟨⟩
  exact hc t ho inv

theorem RunsMove.update {manifest : ManifestCall} {l : List LockName} {db : Db}
    (hh : .manifestRunRow runId ∈ l)
    (hs : ∀ r ∈ db.manifestRuns, r.manifestRunId = runId → admitted r.state = true →
      RunStep env manifest r (write r)) :
    RunsMove env (some manifest) l db (updateRun db.manifestRuns runId admitted write) := by
  have hv : RunsMove env (some manifest) l db (db.manifestRuns.map (fun r =>
      if r.manifestRunId = runId ∧ admitted r.state then write r else r) ++ none.toList) := by
    refine .move _ none (fun r ht => ?_) (by simp)
    split
    next hn =>
      exact .inr ⟨hn.1 ▸ hh, manifest, rfl, hs r ht hn.1 hn.2⟩
    · exact .inl rfl
  rw [Option.toList_none, List.append_nil] at hv
  exact hv

theorem updateRun_commit {manifest : ManifestCall} (hh : .manifestRunRow runId ∈ o.locks)
    (hs : ∀ r ∈ s.db.manifestRuns, r.manifestRunId = runId → admitted r.state = true →
      RunStep env manifest r (write r) ∧ (write r).state ≠ .completed) :
    StoreGuar env strict (.manifest manifest) o s
      { s.db with manifestRuns := updateRun s.db.manifestRuns runId admitted write } := by
  refine sideCommit_devices ⟨.update hh fun r ht hn ha =>
    (hs r ht hn ha).1, .still, fun r ht hc => ?_⟩ rfl
  obtain ⟨r₀, hb, rfl⟩ := List.mem_map.mp ht
  split at hc
  next hn => exact absurd hc (hs r₀ hb hn.1 hn.2).2
  next ho => simpa only [if_neg ho] using Or.inl hb

theorem updateRun_mem {ru : List ManifestRun} (ht : r ∈ ru)
    (ha : admitted r.state = true) :
    write r ∈ updateRun ru r.manifestRunId admitted write := by
  refine List.mem_map.mpr ⟨r, ht, ?_⟩
  rw [if_pos ⟨rfl, ha⟩]

/-! ## A locked run -/

/-- Where a call stands that holds the lock of its run. -/
structure AtRun (env : Environment) (strict : Prop) (context : DeviceSyncContext)
    (runId : ManifestRunId) (run : ManifestRun) (o : StoreOwn) (born s : Snapshot Db) : Prop where
  later : Rely (rules env strict) .none born s
  inv : StoreInv env s
  named : RunOf s.db context runId run
  held : .manifestRunRow runId ∈ o.locks
  drawn : o.drawn = []

section Locked

variable {context : DeviceSyncContext} {runId : ManifestRunId} {run : ManifestRun}
  {manifest : ManifestCall} {raise : ManifestError → StoreProgram}

theorem AtRun.move (hh : AtRun env strict context runId run o born s)
    (ho : Rely (rules env strict) o s s') (inv : StoreInv env s') :
    AtRun env strict context runId run o born s' where
  later := hh.later.trans (Rely.toNone ho)
  inv := inv
  named := ⟨frozen_run (by rw [hh.named.id]; exact hh.held) ho hh.named.stands,
    hh.named.context, hh.named.id⟩
  held := hh.held
  drawn := hh.drawn

theorem AtRun.withLock (hh : AtRun env strict context runId run o born s) (l : LockName) :
    AtRun env strict context runId run (o.withLock l) born s :=
  { hh with held := List.mem_cons_of_mem _ hh.held }

theorem AtRun.only (hh : AtRun env strict context runId run o born s) {r : ManifestRun}
    (ht : r ∈ s.db.manifestRuns) (hn : r.manifestRunId = runId) : r = run :=
  run_unique hh.inv ht hh.named.stands (hn.trans hh.named.id.symm)

theorem AtRun.before (hh : AtRun env strict context runId run o born s) {r : ManifestRun}
    (hn : RunOf born.db context runId r) : RunKept r run := by
  obtain ⟨r', now, hk⟩ := hn.later hh.later
  rw [hh.only now.stands now.id] at hk
  exact hk

theorem withLockedRun_safe {call : StoreCall} {oe : Failure → StoreProgram}
    {next : ManifestRun → StoreProgram}
    (hf : ∀ f, SafeAfter (rules env strict) call born (oe f))
    (hm : (¬∃ r, RunOf born.db context runId r) → ∀ o t,
      Safe (rules env strict) call born (raise .notFound) o t)
    (hp : ∀ o t run, AtRun env strict context runId run o born t →
      Safe (rules env strict) call born (next run) o t) :
    SafeAfter (rules env strict) call born (withLockedRun context runId raise oe next) := by
  intro s hl inv
  refine Safe.begin hl hf fun s₁ ho₁ hi₁ => ?_
  have hl₁ : Rely (rules env strict) .none born s₁ := hl.trans ho₁
  have hab {t : Snapshot Db} {o' : StoreOwn} (hr : Rely (rules env strict) .none born t)
      (hn : t.db.manifestRun context runId = none) :
      Safe (rules env strict) call born (.rollback (raise .notFound)) o' t := by
    refine Safe.rollback fun t' _ _ => hm ?_ _ _
    rintro ⟨r, hna⟩
    obtain ⟨r', now, _⟩ := hna.later hr
    rw [Db.manifestRun, List.find?_eq_none] at hn
    exact hn r' now.stands (by simp [now.context, now.id])
  refine Safe.selectForUpdate_found (fun t ho _ hn => hab (hl₁.trans (Rely.toNone ho)) hn)
    (fun t _ ho _ hn => hab (hl₁.trans (Rely.toNone ho)) hn) ?_
  intro t row db l ho hi' hw hfo
  have hne : LockName.manifestRunRow l.manifestRunId = .manifestRunRow runId := by
    rw [(runOf_of_found hw).id]
  exact hp _ t row ⟨hl₁.trans (Rely.toNone ho), hi', runOf_of_found hfo,
    hne ▸ List.mem_cons_self, rfl⟩

/-! ## Failure marks -/

inductive Marks : (List ManifestRun → ManifestRunId → List ManifestRun) →
    ManifestRunState → Prop
  | expire : Marks expireRun .expired
  | fail : Marks failRun .failed

variable {mark : List ManifestRun → ManifestRunId → List ManifestRun} {state : ManifestRunState}

theorem Marks.commit (hm : Marks mark state) (hh : .manifestRunRow runId ∈ o.locks) :
    StoreGuar env strict (.manifest manifest) o s
      { s.db with manifestRuns := mark s.db.manifestRuns runId } := by
  cases hm with
  | expire =>
    exact updateRun_commit hh fun r _ _ hu =>
      ⟨.expire hu, show ManifestRunState.expired ≠ .completed by decide⟩
  | fail =>
    exact updateRun_commit hh fun r _ _ hu =>
      ⟨.fail hu, show ManifestRunState.failed ≠ .completed by decide⟩

theorem Marks.mem (hm : Marks mark state) {ru : List ManifestRun} (ht : run ∈ ru)
    (hu : run.state.unfinished = true) :
    { run with state } ∈ mark ru run.manifestRunId := by
  cases hm with
  | expire => exact updateRun_mem ht hu
  | fail => exact updateRun_mem ht hu

variable {next : StoreProgram}

theorem markRunThen_safe (hm : Marks mark state)
    (ha : ∀ t, Rely (rules env strict) o s t → StoreInv env t →
      Safe (rules env strict) (.manifest manifest) born next
        (o.withLock (.manifestRunRow runId)).released
        ⟨{ t.db with manifestRuns := mark t.db.manifestRuns runId }, t.sequence⟩) :
    Safe (rules env strict) (.manifest manifest) born (markRunThen mark runId next) o s := by
  refine Safe.lock fun s₁ ho₁ _ => commitThen_safe fun t ho inv => ?_
  refine ⟨hm.commit List.mem_cons_self, ha t (ho₁.trans ?_) inv⟩
  exact Rely.weaken ho (fun l hh => List.mem_cons_of_mem _ hh) (fun n hd => hd)

theorem AtRun.mark_safe (hm : Marks mark state)
    (hh : AtRun env strict context runId run o born s) (hu : run.state.unfinished = true)
    (ha : ∀ o t, RunOf t.db context runId { run with state } →
      Safe (rules env strict) (.manifest manifest) born next o t) :
    Safe (rules env strict) (.manifest manifest) born (markRunThen mark run.manifestRunId next)
      o s := by
  refine markRunThen_safe hm fun t ho inv => ?_
  have ht := hh.move ho inv
  exact ha _ _ ⟨hm.mem ht.named.stands hu, ht.named.context, ht.named.id⟩

theorem AtRun.rejectExpired_safe {observed : ManifestObservation}
    (hh : AtRun env strict context runId run o born s)
    (hr : ∀ o t, RunOf t.db context runId { run with state := .expired } →
      Safe (rules env strict) (.manifest manifest) born (raise .expired) o t)
    (hc : (run.state.unfinished = true → observed.deadlinePassed = false) →
      Safe (rules env strict) (.manifest manifest) born next o s) :
    Safe (rules env strict) (.manifest manifest) born (rejectExpiredRun observed run raise next)
      o s := by
  unfold rejectExpiredRun
  split
  next hl => exact hh.mark_safe .expire hl.1 hr
  next he =>
    refine hc fun hu => ?_
    rw [hu] at he
    simpa using he

theorem AtRun.rejectPolicyStale_safe {observed : ManifestObservation}
    (hh : AtRun env strict context runId run o born s) (hu : run.state.unfinished = true)
    (hr : ∀ o t, Safe (rules env strict) (.manifest manifest) born (raise .policyAdvanced) o t)
    (hc : observed.activePolicyRevision = some run.policyRevisionNumber →
      Safe (rules env strict) (.manifest manifest) born next o s) :
    Safe (rules env strict) (.manifest manifest) born
      (rejectPolicyStaleRun observed run raise next) o s := by
  unfold rejectPolicyStaleRun
  split
  next => exact Safe.rollback fun _ _ _ => hr _ _
  next a ha =>
    split
    next => exact hh.mark_safe .fail hu fun _ _ _ => hr _ _
    next he => exact hc (by rw [ha, not_not.mp he])

end Locked

/-! ## Start -/

section Start

variable {command : StartManifestCommand} {observed : ManifestObservation}

theorem startError_safe {e : ManifestError} :
    Safe (rules env strict) (.manifest ⟨.start command, observed⟩) born
      (.done (.manifest (.error e))) o s :=
  fun _ _ _ => trivial

theorem startRun_safe {run : ManifestRun} (ht : run ∈ s.db.manifestRuns)
    (how : run.context = command.context)
    (hg : run.clientObservationGeneration = command.clientObservationGeneration) :
    Safe (rules env strict) (.manifest ⟨.start command, observed⟩) born
      (.done (.manifest (.ok run))) o s :=
  fun _ ho _ => ⟨how, hg, run_later ho ht⟩

theorem acknowledged_reached (inv : StoreInv env s) (context : DeviceSyncContext) :
    Reached s.db context.workspaceId (s.db.acknowledgedSequence context) := by
  unfold Db.acknowledgedSequence
  cases hf : s.db.cursor context with
  | none => exact .inl rfl
  | some c =>
    have ht := List.mem_of_find?_eq_some hf
    have ho := CursorLemmas.ownedBy_iff.mp (List.find?_some hf)
    have hw : c.workspaceId = context.workspaceId := by
      rw [← ho]
      rfl
    rw [← hw]
    exact (inv.devices.cursors.reached c ht).le (inv.devices.cursors.ordered c ht)

theorem checkpoint_anchored {db : Db} {wi : WorkspaceId} {a : Nat} (hr : Reached db wi a) :
    Anchored db wi (max ((db.eventCheckpoint wi).getD a) a) := by
  cases hf : db.eventCheckpoint wi with
  | none =>
    have he := List.max?_eq_none_iff.mp hf
    rcases hr with rfl | ⟨e, ht, hw, _⟩
    · exact .inl rfl
    · have hi : e ∈ db.events.filter fun e => e.workspaceId = wi :=
        List.mem_filter.mpr ⟨ht, decide_eq_true hw⟩
      rw [List.map_eq_nil_iff.mp he] at hi
      cases hi
  | some c =>
    obtain ⟨hm, hl⟩ := List.max?_eq_some_iff.mp hf
    have hb : a ≤ c := by
      rcases hr with rfl | ⟨e, ht, hw, ha⟩
      · exact Nat.zero_le _
      · exact Nat.le_trans ha (hl _ (List.mem_map_of_mem
          (List.mem_filter.mpr ⟨ht, decide_eq_true hw⟩)))
    obtain ⟨e, hi, hs⟩ := List.mem_map.mp hm
    obtain ⟨ht, hw⟩ := List.mem_filter.mp hi
    refine .inr ⟨e, ht, of_decide_eq_true hw, ?_⟩
    rw [Option.getD_some, Nat.max_eq_left hb, hs]

theorem superseded_move (env : Environment) (manifest : ManifestCall)
    {su : Option ManifestRun} (ru : List ManifestRun) (hh : ∀ r ∈ su, .manifestRunRow r.manifestRunId ∈ o.locks) :
    ∃ write : ManifestRun → ManifestRun, supersededRuns ru su = ru.map write ∧
      ∀ r ∈ ru, write r = r ∨ .manifestRunRow r.manifestRunId ∈ o.locks ∧
        (write r).state ≠ .completed ∧ RunStep env manifest r (write r) := by
  cases su with
  | none => exact ⟨id, (List.map_id _).symm, fun _ _ => .inl rfl⟩
  | some run =>
    refine ⟨_, rfl, fun r ht => ?_⟩
    dsimp only
    split
    next hn =>
      refine .inr ⟨?_, show ManifestRunState.expired ≠ .completed by decide, .expire hn.2⟩
      rw [hn.1]
      exact hh run rfl
    · exact .inl rfl

theorem startWrites_safe {su : Option ManifestRun} {re a c : Nat}
    {db' : Db} {run : ManifestRun}
    (hhe : ∀ r ∈ su, .manifestRunRow r.manifestRunId ∈ o.locks)
    (ha : Anchored s.db command.context.workspaceId (max c a))
    (hw : startWrites command su re a c s.db = .ok (db', run)) :
    StoreGuar env strict (.manifest ⟨.start command, observed⟩) o s db' ∧
      run ∈ db'.manifestRuns ∧ run.context = command.context ∧
      run.clientObservationGeneration = command.clientObservationGeneration := by
  obtain ⟨write, hma, hste⟩ := superseded_move env ⟨.start command, observed⟩ s.db.manifestRuns hhe
  simp only [startWrites, hma] at hw
  have hm (st : Option ManifestRun) (hss : ∀ r ∈ st, Started ⟨.start command, observed⟩ s.db
        (s.db.manifestRuns.map write) r) :
      StoreGuar env strict (.manifest ⟨.start command, observed⟩) o s
        { s.db with manifestRuns := s.db.manifestRuns.map write ++ st.toList } := by
    refine sideCommit_devices ⟨.move write st ?_ ?_, .still, ?_⟩ rfl
    · intro r ht
      exact (hste r ht).imp_right fun ⟨hl, _, hsp⟩ => ⟨hl, _, rfl, hsp⟩
    · exact fun r hst => ⟨_, rfl, hss r hst⟩
    · intro r ht hc
      rcases List.mem_append.mp ht with old | new
      · obtain ⟨r₀, hb, rfl⟩ := List.mem_map.mp old
        rcases hste r₀ hb with he | ⟨_, hot, _⟩
        · rw [he]
          exact .inl hb
        · exact absurd hc hot
      · obtain ⟨_, _, _, _, _, rfl⟩ := (hss r (by simpa using new)).asked
        cases hc
  split at hw
  next w hwi =>
    have hh := List.find?_some hwi
    simp only [Bool.decide_and, Bool.and_eq_true, decide_eq_true_eq] at hh
    split at hw
    · cases hw
    next he =>
      cases hw
      have hv := hm none (by simp)
      rw [Option.toList_none, List.append_nil] at hv
      exact ⟨hv, List.mem_of_find?_eq_some hwi, hh.1, not_not.mp he⟩
  next hn =>
    split at hw
    · cases hw
    next hf =>
      cases hw
      refine ⟨hm (some _) ?_, List.mem_append_right _ List.mem_cons_self, rfl, rfl⟩
      rintro _ ⟨⟩
      refine ⟨⟨command, re, a, c, rfl, rfl⟩, ?_, ?_, ha⟩
      · simpa [startedRun] using hf
      · intro x ht hs
        rw [Db.unfinishedRun, List.find?_eq_none] at hn
        have hfr := hn x ht
        have ho : x.context = command.context := hs
        simpa [ho] using hfr

def startBehind (command : StartManifestCommand) (observed : ManifestObservation)
    (superseded : Option ManifestRun) : StoreProgram :=
  match observed.activePolicyRevision with
  | none => .rollback (.done (.manifest (.error .policyAdvanced)))
  | some revision => .read fun db => .read fun db' =>
    .commitOrAbort (startWrites command superseded revision
        (db.acknowledgedSequence command.context)
        ((db'.eventCheckpoint command.context.workspaceId).getD
          (db.acknowledgedSequence command.context)))
      (fun run => .done (.manifest (.ok run)))
      (fun refusal => match refusal with
        | .constraint => .done (.manifest (.error .internalError))
        | .rejected error => .done (.manifest (.error error)))

theorem startBehind_safe {su : Option ManifestRun} {t : Snapshot Db}
    (hh : ∀ r ∈ su, .manifestRunRow r.manifestRunId ∈ o.locks) :
    Safe (rules env strict) (.manifest ⟨.start command, observed⟩) born
      (startBehind command observed su) o t := by
  unfold startBehind
  split
  · exact Safe.rollback fun _ _ _ => startError_safe
  next rn _ =>
    refine Safe.read fun t₁ _ hi₁ => Safe.read fun t₂ ho₂ hi₂ =>
      Safe.commitOrAbort (fun t₃ db' run ho₃ hi₃ hw => ?_) (fun _ re _ _ _ => ?_)
    · have hr := (acknowledged_reached hi₁ command.context).mono (grows_of_rely ho₂).events
      have ha := (checkpoint_anchored hr).mono (grows_of_rely ho₃).events
      obtain ⟨hgu, ht, ho, hg⟩ := startWrites_safe hh ha hw
      exact ⟨hgu, startRun_safe ht ho hg⟩
    · cases re <;> exact startError_safe

theorem startOnce_safe {oe : Failure → StoreProgram}
    (hf : ∀ f, SafeAfter (rules env strict) (.manifest ⟨.start command, observed⟩) born (oe f)) :
    SafeAfter (rules env strict) (.manifest ⟨.start command, observed⟩) born
      (startOnce command observed oe) := by
  intro s hl inv
  refine Safe.begin hl hf fun s₁ ho₁ hi₁ => Safe.read fun s₂ ho₂ hi₂ => ?_
  dsimp only
  split
  · exact startBehind_safe (by simp)
  next run hfo =>
    have hh := List.find?_some hfo
    simp only [Bool.decide_and, Bool.and_eq_true, decide_eq_true_eq] at hh
    split
    next hr =>
      refine Safe.rollback fun t ho _ => ?_
      intro t' ho' _
      refine ⟨hh.1, hr.2, run_later ((Rely.toNone ho).trans (Rely.toNone ho'))
        (List.mem_of_find?_eq_some hfo)⟩
    · refine Safe.lock fun _ _ _ => @startBehind_safe _ _ _ _ _ _ (some run) _ ?_
      rintro r ⟨⟩
      exact List.mem_cons_self

end Start

/-! ## Append -/

section Append

variable {command : AppendManifestPageCommand} {observed : ManifestObservation}
  {run : ManifestRun}

def AcceptedBefore (command : AppendManifestPageCommand) (born : Db) : Prop :=
  ∃ r, RunOf born command.context command.manifestRunId r ∧ command.pageNumber < r.nextPageNumber

theorem pageError_safe {e : ManifestError} (hot : e ≠ .pageReplayMismatch)
    (hg : AcceptedBefore command born.db →
      e = .dependencyUnavailable ∨ e = .internalError ∨ e = .policyAdvanced ∨
      ∃ r, RunOf s.db command.context command.manifestRunId r ∧ r.state ≠ .collecting) :
    Safe (rules env strict) (.manifest ⟨.append command, observed⟩) born
      (.done (.page (.error e))) o s := by
  intro t ho _
  refine ⟨fun is => absurd is hot, fun ha => ?_⟩
  refine (hg ha).imp_right (Or.imp_right (Or.imp_right ?_))
  rintro ⟨r, hn, hl⟩
  obtain ⟨r', hn', hk⟩ := hn.later ho
  exact ⟨r', hn', (hk.planned hl).1⟩

theorem pageReceipt_safe {next : Nat} {r : ManifestRun}
    (hn : RunOf s.db command.context command.manifestRunId r) (hs : command.page ∈ r.pages) :
    Safe (rules env strict) (.manifest ⟨.append command, observed⟩) born
      (.done (.page (.ok ⟨command.manifestRunId, command.pageNumber, command.entries.length,
        next⟩))) o s := by
  intro t ho _
  obtain ⟨r', hn', hk⟩ := hn.later ho
  exact ⟨rfl, rfl, rfl, r', hn', hk.pages.subset hs⟩

theorem AtRun.accepted (hh : AtRun env strict command.context command.manifestRunId run o born s)
    (ha : AcceptedBefore command born.db) : command.pageNumber < run.nextPageNumber := by
  obtain ⟨r, hn, hb⟩ := ha
  exact Nat.lt_of_lt_of_le hb (hh.before hn).next

theorem acceptPage_safe
    (hh : AtRun env strict command.context command.manifestRunId run o born s)
    (hc : run.state = .collecting)
    (hcu : observed.activePolicyRevision = some run.policyRevisionNumber)
    (hun : observed.deadlinePassed = false) :
    Safe (rules env strict) (.manifest ⟨.append command, observed⟩) born
      (acceptPage env command observed run) o s := by
  simp only [acceptPage]
  by_cases he : run.nextPageNumber < command.pageNumber
  · rw [if_pos he]
    refine Safe.rollback fun t ho inv => pageError_safe (by decide) fun ha => ?_
    exact absurd (hh.accepted ha) (Nat.lt_asymm he)
  rw [if_neg he]
  by_cases hr : command.pageNumber < run.nextPageNumber
  · rw [if_pos hr]
    split
    next hs =>
      refine Safe.rollback fun t ho inv => ?_
      have ht := hh.move ho inv
      exact pageReceipt_safe ht.named hs
    next hfo =>
      refine hh.mark_safe .fail (unfinished_of_collecting hc) fun o t hn => ?_
      intro t' ho _
      obtain ⟨r, hn', hk⟩ := hn.later ho
      have hf : r = { run with state := .failed } := hk.final rfl
      subst hf
      refine ⟨fun _ => ⟨_, hn', rfl, hr, hfo⟩, fun _ => .inr (.inr (.inr ?_))⟩
      exact ⟨_, hn', show ManifestRunState.failed ≠ .collecting by decide⟩
  rw [if_neg hr]
  have hu : ¬AcceptedBefore command born.db := fun ha =>
    hr (hh.accepted ha)
  by_cases hfu : maxManifestRunEntries < run.entryCount + command.entries.length
  · rw [if_pos hfu]
    exact Safe.rollback fun _ _ _ => pageError_safe (by decide) fun ha =>
      absurd ha hu
  rw [if_neg hfu]
  split
  · exact Safe.rollback fun _ _ _ => pageError_safe (by decide) fun ha =>
      absurd ha hu
  refine Safe.read fun s₁ ho₁ hi₁ => Safe.read fun s₂ ho₂ hi₂ =>
    Safe.read fun s₃ ho₃ hi₃ => ?_
  split
  next e hf =>
    rw [resolvePageEntries_error hf]
    exact Safe.rollback fun _ _ _ => pageError_safe (by decide) fun ha =>
      absurd ha hu
  next re hre =>
    have next : command.pageNumber = run.nextPageNumber :=
      Nat.le_antisymm (Nat.le_of_not_lt he) (Nat.le_of_not_lt hr)
    refine commitThen_safe fun t ho₄ inv => ?_
    have ht := (((hh.move ho₁ hi₁).move ho₂ hi₂).move ho₃ hi₃).move ho₄ inv
    have hsp : RunStep env ⟨.append command, observed⟩ run
        (acceptedRun command re run run) :=
      .accept command re rfl ht.named.id hc hcu hun next
        (resolvePageEntries_length hre)
    refine ⟨updateRun_commit (ht.named.id ▸ ht.held) fun r hst hn _ => ?_, ?_⟩
    · rw [ht.only hst (hn.trans ht.named.id)]
      refine ⟨hsp, ?_⟩
      show run.state ≠ .completed
      rw [hc]
      decide
    · have mem : acceptedRun command re run run ∈
          updateRun t.db.manifestRuns run.manifestRunId (fun _ => true)
            (acceptedRun command re run) := updateRun_mem ht.named.stands rfl
      have hs : RunOf { t.db with
          manifestRuns := updateRun t.db.manifestRuns run.manifestRunId (fun _ => true)
            (acceptedRun command re run) } command.context command.manifestRunId
          (acceptedRun command re run run) :=
        ⟨mem, ht.named.context, ht.named.id⟩
      exact pageReceipt_safe hs (List.mem_append_right _ List.mem_cons_self)

theorem appendOnce_safe {oe : Failure → StoreProgram}
    (hf : ∀ f, SafeAfter (rules env strict) (.manifest ⟨.append command, observed⟩) born (oe f)) :
    SafeAfter (rules env strict) (.manifest ⟨.append command, observed⟩) born
      (appendOnce env command observed oe) := by
  unfold appendOnce
  refine withLockedRun_safe hf (fun hab o t => ?_) fun o s run hh => ?_
  · refine pageError_safe (by decide) ?_
    rintro ⟨r, hn, _⟩
    exact absurd ⟨r, hn⟩ hab
  have hla {e : ManifestError} (hot : e ≠ .pageReplayMismatch)
      (hl : run.state ≠ .collecting) : Safe (rules env strict)
        (.manifest ⟨.append command, observed⟩) born
        (.rollback (.done (.page (.error e)))) o s := by
    refine Safe.rollback fun t ho inv => pageError_safe hot fun _ => ?_
    exact .inr (.inr (.inr ⟨run, (hh.move ho inv).named, hl⟩))
  split
  next he => exact hla (by decide) (by rw [he]; decide)
  refine hh.rejectExpired_safe (fun o t hn => pageError_safe (by decide) fun _ => ?_) fun hun => ?_
  · exact .inr (.inr (.inr ⟨_, hn, show ManifestRunState.expired ≠ .collecting by decide⟩))
  split
  next hl => exact hla (by decide) hl
  next hc =>
    have hc := not_not.mp hc
    have hu := unfinished_of_collecting hc
    refine hh.rejectPolicyStale_safe hu (fun _ _ => pageError_safe (by decide)
      fun _ => .inr (.inr (.inl rfl))) fun hcu => ?_
    exact acceptPage_safe hh hc hcu (hun hu)

end Append

/-! ## Finalize -/

section Finalize

variable {command : FinalizeManifestCommand} {observed : ManifestObservation}
  {run : ManifestRun}

theorem finalizeError_safe {e : ManifestError} :
    Safe (rules env strict) (.manifest ⟨.finalize command, observed⟩) born
      (.done (.manifest (.error e))) o s :=
  fun _ _ _ => trivial

theorem finalizedRun_safe (hn : RunOf s.db command.context command.manifestRunId run)
    (hl : run.state ≠ .collecting) (hc : run.entryCount = command.totalEntryCount)
    (hd : run.finalDigest = some command.finalDigest) :
    Safe (rules env strict) (.manifest ⟨.finalize command, observed⟩) born
      (.done (.manifest (.ok run))) o s :=
  fun _ ho _ => ⟨hn.context, hn.id, hl, hc, hd, run_later ho hn.stands⟩

theorem finalizeOnce_safe {oe : Failure → StoreProgram}
    (hf : ∀ f, SafeAfter (rules env strict) (.manifest ⟨.finalize command, observed⟩) born (oe f)) :
    SafeAfter (rules env strict) (.manifest ⟨.finalize command, observed⟩) born
      (finalizeOnce env command observed oe) := by
  unfold finalizeOnce
  refine withLockedRun_safe hf (fun _ _ _ => finalizeError_safe) fun o s run hh => ?_
  split
  next hp =>
    refine hh.rejectExpired_safe (fun _ _ _ => finalizeError_safe) fun _ => ?_
    refine Safe.rollback fun t ho inv => ?_
    unfold plannedReplayOrReject
    split
    next he =>
      have hl : run.state ≠ .collecting := by
        rcases hp with is | is <;> rw [is] <;> decide
      exact finalizedRun_safe (hh.move ho inv).named hl he.1.symm he.2
    · exact finalizeError_safe
  split
  · exact Safe.rollback fun _ _ _ => finalizeError_safe
  split
  · exact Safe.rollback fun _ _ _ => finalizeError_safe
  next hc =>
    have hc := not_not.mp hc
    have hu := unfinished_of_collecting hc
    refine hh.rejectExpired_safe (fun _ _ _ => finalizeError_safe) fun hun => ?_
    split
    · exact hh.mark_safe .fail hu fun _ _ _ => finalizeError_safe
    next hco =>
      rw [not_or, not_not, not_not] at hco
      split
      · exact Safe.rollback fun _ _ _ => finalizeError_safe
      refine Safe.read fun s₁ ho₁ hi₁ => Safe.read fun s₂ ho₂ hi₂ =>
        Safe.read fun s₃ ho₃ hi₃ => commitThen_safe fun t ho₄ inv => ?_
      have ht := (((hh.move ho₁ hi₁).move ho₂ hi₂).move ho₃ hi₃).move ho₄ inv
      refine ⟨updateRun_commit (ht.named.id ▸ ht.held) fun r hs hn _ => ?_, ?_⟩
      · rw [ht.only hs (hn.trans ht.named.id)]
        exact ⟨.plan command _ rfl ht.named.id hc (hun hu) hco.1
          hco.2 (planActions_indexed _ _ _), show ManifestRunState.planned ≠ .completed by
            decide⟩
      · refine finalizedRun_safe ⟨?_, ht.named.context, ht.named.id⟩
          (show ManifestRunState.planned ≠ .collecting by decide) hco.1.symm rfl
        refine List.mem_map.mpr ⟨run, ht.named.stands, ?_⟩
        rw [if_pos ⟨rfl, by simp [hc]⟩]

end Finalize

/-! ## Actions -/

section Actions

variable {query : ManifestActionsQuery} {observed : ManifestObservation} {run : ManifestRun}

theorem actionsError_safe {e : ManifestError} :
    Safe (rules env strict) (.manifest ⟨.readActions query, observed⟩) born
      (.done (.actions (.error e))) o s :=
  fun _ _ _ => trivial

theorem actionPage_actions {db : Db} {p : ManifestActionPage}
    (hp : actionPage db query run = .ok p) :
    p.actions.map DeliveredAction.action = (run.actions.filter fun a =>
      query.afterActionIndex ≤ a.actionIndex).take query.limit := by
  unfold actionPage at hp
  simp only [List.take_take, Nat.min_eq_left (Nat.le_succ query.limit)] at hp
  cases hd : ((run.actions.filter fun a =>
      decide (query.afterActionIndex ≤ a.actionIndex)).take query.limit).mapM
        (deliverAction db query.context.workspaceId) with
  | error e => simp [hd, bind, Except.bind] at hp
  | ok ac =>
    simp only [hd, bind, Except.bind, pure, Except.pure, Except.ok.injEq] at hp
    subst hp
    have he := forall₂_of_mapM hd
    clear hd
    generalize (run.actions.filter fun a =>
      decide (query.afterActionIndex ≤ a.actionIndex)).take query.limit = st at he
    induction he with
    | nil => rfl
    | @cons a d _ _ hh _ ih =>
      have hs : d.action = a := by
        unfold deliverAction at hh
        split at hh
        · split at hh
          · exact (Except.ok.inj hh) ▸ rfl
          · cases hh
        · exact (Except.ok.inj hh) ▸ rfl
      rw [List.map_cons, ih, hs]

theorem rejectExpired_safe {manifest : ManifestCall} {raise : ManifestError → StoreProgram}
    {next : StoreProgram}
    (hr : ∀ o t, Safe (rules env strict) (.manifest manifest) born (raise .expired) o t)
    (hc : Safe (rules env strict) (.manifest manifest) born next o s) :
    Safe (rules env strict) (.manifest manifest) born (rejectExpiredRun observed run raise next)
      o s := by
  unfold rejectExpiredRun
  split
  · exact markRunThen_safe .expire fun _ _ _ => hr _ _
  · exact hc

theorem rejectPolicyStale_safe {manifest : ManifestCall} {raise : ManifestError → StoreProgram}
    {next : StoreProgram}
    (hr : ∀ o t, Safe (rules env strict) (.manifest manifest) born (raise .policyAdvanced) o t)
    (hc : Safe (rules env strict) (.manifest manifest) born next o s) :
    Safe (rules env strict) (.manifest manifest) born
      (rejectPolicyStaleRun observed run raise next) o s := by
  unfold rejectPolicyStaleRun
  split
  · exact Safe.rollback fun _ _ _ => hr _ _
  · split
    · exact markRunThen_safe .fail fun _ _ _ => hr _ _
    · exact hc

/-- A page, read from what became of the run. -/
def pageBehind (query : ManifestActionsQuery) (next : ManifestActionPage → StoreProgram) :
    StoreProgram :=
  .read fun db =>
    match db.manifestRun query.context query.manifestRunId with
    | none => .rollback (.done (.actions (.error .notFound)))
    | some run =>
      match actionPage db query run with
      | .error error => .rollback (.done (.actions (.error error)))
      | .ok page => next page

theorem pageBehind_safe {t : Snapshot Db}
    (hn : RunOf s.db query.context query.manifestRunId run) (hl : run.state ≠ .collecting)
    (hr : Rely (rules env strict) .none s t) {next : ManifestActionPage → StoreProgram}
    (hc : ∀ t' p, (∀ t'' o₀, Rely (rules env strict) o₀ t' t'' → GoodActions query t''.db (.ok p)) →
      Safe (rules env strict) (.manifest ⟨.readActions query, observed⟩) born (next p) o t') :
    Safe (rules env strict) (.manifest ⟨.readActions query, observed⟩) born
      (pageBehind query next) o t := by
  refine Safe.read fun t' ho' hi' => ?_
  split
  · exact Safe.rollback fun _ _ _ => actionsError_safe
  next r' hf' =>
    split
    · exact Safe.rollback fun _ _ _ => actionsError_safe
    next rs hpa =>
      refine hc t' rs fun t'' o₀ ho'' => ?_
      obtain ⟨r, hn', hk⟩ := hn.later (hr.trans (Rely.toNone ho'))
      have now := runOf_of_found hf'
      have he := run_unique hi' hn'.stands now.stands (hn'.id.trans now.id.symm)
      subst he
      obtain ⟨r'', hn'', hk''⟩ := hn'.later ho''
      have hp := hk''.planned (hk.planned hl).1
      refine ⟨r'', hn'', hp.1, ?_⟩
      rw [hp.2.2.2.2]
      exact actionPage_actions hpa

theorem readActionsOnce_safe {oe : Failure → StoreProgram}
    (hf : ∀ f, SafeAfter (rules env strict) (.manifest ⟨.readActions query, observed⟩)
      born (oe f)) :
    SafeAfter (rules env strict) (.manifest ⟨.readActions query, observed⟩) born
      (readActionsOnce query observed oe) := by
  intro s hl inv
  simp only [readActionsOnce]
  refine Safe.begin hl hf fun s₁ ho₁ hi₁ => Safe.read fun s₂ ho₂ hi₂ => ?_
  have hra (e : ManifestError) (o' : StoreOwn) (t : Snapshot Db) :
      Safe (rules env strict) (.manifest ⟨.readActions query, observed⟩) born
        (.done (.actions (.error e))) o' t := actionsError_safe
  have hr (e : ManifestError) (o' : StoreOwn) (t : Snapshot Db) :
      Safe (rules env strict) (.manifest ⟨.readActions query, observed⟩) born
        (.rollback (.done (.actions (.error e)))) o' t :=
    Safe.rollback fun _ _ _ => actionsError_safe
  split
  · exact hr _ _ _
  next run hfo =>
    have hn := runOf_of_found hfo
    cases state : run.state with
    | collecting =>
      exact rejectExpired_safe (hra _) (rejectPolicyStale_safe (hra _) (hr _ _ _))
    | expired => exact hr _ _ _
    | failed => exact hr _ _ _
    | completed =>
      refine pageBehind_safe hn (by rw [state]; decide) .refl fun t' rs hgo => ?_
      exact Safe.rollback fun t'' ho _ t₃ ho₃ _ =>
        hgo t₃ .none ((Rely.toNone ho).trans (Rely.toNone ho₃))
    | planned | applying =>
      refine rejectExpired_safe (hra _) (rejectPolicyStale_safe (hra _)
        (Safe.lock fun s₃ ho₃ hi₃ => ?_))
      refine pageBehind_safe hn (by rw [state]; decide) (Rely.toNone ho₃) fun t' rs hgo => ?_
      refine commitThen_safe fun t ho inv => ?_
      have hg : StoreGuar env strict (.manifest ⟨.readActions query, observed⟩)
          (Own.none.withLock (.manifestRunRow run.manifestRunId)) t { t.db with
            manifestRuns := applyRun t.db.manifestRuns run.manifestRunId } :=
        updateRun_commit List.mem_cons_self fun r _ _ hp =>
          ⟨.apply query rfl (by simpa using hp),
            show ManifestRunState.applying ≠ .completed by decide⟩
      refine ⟨hg, fun t'' ho'' _ => hgo t'' .none (.trans ?_ (Rely.toNone ho''))⟩
      exact Rely.own_commit (Rely.toNone ho) inv (by simp [Own.withLock, Own.none]) hg

end Actions

/-! ## Complete -/

section Complete

variable {command : CompleteManifestCommand} {observed : ManifestObservation}
  {run : ManifestRun}

def CompletedBefore (command : CompleteManifestCommand) (born : Db) : Prop :=
  ∃ r, RunOf born command.context command.manifestRunId r ∧ r.state = .completed ∧
    r.finalDigest = some command.finalDigest

theorem completeError_safe {e : ManifestError} (hg : CompletedBefore command born.db →
      e = .dependencyUnavailable ∨ e = .internalError) :
    Safe (rules env strict) (.manifest ⟨.complete command, observed⟩) born
      (.done (.completion (.error e))) o s :=
  fun _ _ _ => hg

theorem AtRun.completed (hh : AtRun env strict command.context command.manifestRunId run o born s)
    (hb : CompletedBefore command born.db) :
    run.state = .completed ∧ run.finalDigest = some command.finalDigest := by
  obtain ⟨r, hn, hc, hd⟩ := hb
  have he : run = r := (hh.before hn).final (by rw [hc]; rfl)
  subst he
  exact ⟨hc, hd⟩

theorem advanceCursor_reaches (cu : List DeviceCursor) (context : DeviceSyncContext)
    (ch : Nat) : ∃ c, (advanceCursor cu context ch).find?
        (DeviceCursor.ownedBy context) = some c ∧ ch ≤ c.acknowledgedSequence := by
  rw [advanceCursor, CursorLemmas.find?_updateCursor (by intro c; split <;> rfl),
    CursorLemmas.find?_bootstrapCursor, if_pos rfl, if_pos rfl]
  refine ⟨_, rfl, ?_⟩
  dsimp only
  split
  · exact Nat.le_refl _
  next hr => exact Nat.le_of_not_lt hr

variable {receipt : DeviceCursorReceipt}

theorem completionReceipt_ok {db : Db} {c : Nat} {context : DeviceSyncContext}
    (hc : CursorTable db) (hre : c ≤ (db.watermarks context).acknowledgedSequence)
    (hr : completionReceipt context c db = .ok receipt) :
    db.watermarks context = ⟨receipt.acknowledgedSequence, receipt.deliveredThroughSequence⟩ := by
  unfold completionReceipt at hr
  unfold Db.watermarks at hre ⊢
  cases hf : db.cursor context with
  | none =>
    rw [hf] at hr
    cases hr
  | some cu =>
    simp only [hf, Except.ok.injEq] at hr
    rw [hf] at hre
    subst hr
    have ho := hc.ordered cu (List.mem_of_find?_eq_some hf)
    have le : c ≤ cu.deliveredThroughSequence := Nat.le_trans hre ho
    show cu.watermarks = ⟨_, max cu.deliveredThroughSequence c⟩
    rw [Nat.max_eq_left le]
    rfl

theorem completionReceipt_safe {b' : Snapshot Db} (hl : Rely (rules env strict) .none b' s)
    (hn : RunOf s.db command.context command.manifestRunId run)
    (hc : run.state = .completed) (hd : run.finalDigest = some command.finalDigest)
    (hr : run.checkpointSequence ≤ (s.db.watermarks command.context).acknowledgedSequence)
    (is : s.db.watermarks command.context =
      ⟨receipt.acknowledgedSequence, receipt.deliveredThroughSequence⟩) :
    Safe (rules env strict) (.manifest ⟨.complete command, observed⟩) b'
      (.done (.completion (.ok receipt))) o s := by
  intro t ho _
  obtain ⟨r, hn', hk⟩ := hn.later ho
  have he : r = run := hk.final (by rw [hc]; rfl)
  subst he
  rw [is] at hr
  refine ⟨⟨r, hn', hc, hd, hr⟩, ?_, ?_⟩
  · rw [← is]
    exact behind_later hl
  · rw [← is]
    exact behind_later ho

theorem completeRun_ok {ru r' : List ManifestRun} {runId : ManifestRunId}
    (hc : completeRun ru runId = .ok r') :
    r' = updateRun ru runId (fun state => state = .applying)
      fun r => { r with state := .completed } := by
  unfold completeRun guardedUpdate at hc
  split at hc
  · cases hc
    simp [updateRun]
  · cases hc

theorem completionWrites_safe {db' : Db}
    (hh : AtRun env strict command.context command.manifestRunId run o born s)
    (ha : run.state = .applying)
    (hcu : observed.activePolicyRevision = some run.policyRevisionNumber)
    (hun : observed.deadlinePassed = false)
    (hd : run.finalDigest = some command.finalDigest)
    (hhe : .deviceCursorRow command.context.workspaceId command.context.deviceId ∈ o.locks)
    (hw : completionWrites command.context run s.db = .ok (db', receipt)) :
    StoreGuar env strict (.manifest ⟨.complete command, observed⟩) o s db' ∧
      RunOf db' command.context command.manifestRunId { run with state := .completed } ∧
      run.checkpointSequence ≤ (db'.watermarks command.context).acknowledgedSequence ∧
      completionReceipt command.context run.checkpointSequence db' = .ok receipt := by
  unfold completionWrites at hw
  cases hc : completeRun s.db.manifestRuns run.manifestRunId with
  | error re => simp [hc, bind, Except.bind] at hw
  | ok ru =>
    simp only [hc, bind, Except.bind] at hw
    split at hw
    · cases hw
    next r' hre =>
      simp only [pure, Except.pure, Except.ok.injEq, Prod.mk.injEq] at hw
      obtain ⟨rfl, rfl⟩ := hw
      have hu := completeRun_ok hc
      have ht : { run with state := .completed } ∈ ru := by
        rw [hu]
        refine List.mem_map.mpr ⟨run, hh.named.stands, ?_⟩
        rw [if_pos ⟨rfl, by simp [ha]⟩]
      obtain ⟨c, hf, hrs⟩ := advanceCursor_reaches s.db.cursors command.context
        run.checkpointSequence
      have hr : run.checkpointSequence ≤ (Db.watermarks { s.db with
          manifestRuns := ru
          cursors := advanceCursor s.db.cursors command.context run.checkpointSequence }
            command.context).acknowledgedSequence := by
        simp only [Db.watermarks, Db.cursor, hf]
        exact hrs
      have hcr : (Db.cursor { s.db with
          manifestRuns := ru
          cursors := advanceCursor s.db.cursors command.context run.checkpointSequence }
            command.context).isSome = true := by
        rw [Db.cursor, hf]
        rfl
      refine ⟨sideCommit_devices ⟨?_, ?_, ?_⟩ rfl,
        ⟨ht, hh.named.context, hh.named.id⟩, hr, hre⟩
      · show RunsMove env _ _ _ ru
        rw [hu]
        refine .update (hh.named.id ▸ hh.held) fun r hm hn hap => ?_
        rw [hh.only hm (hn.trans hh.named.id)]
        exact .complete command rfl hh.named.id hh.named.context ha hcu hun
          hd
      · exact .complete _ command run rfl rfl hhe hh.named.stands hh.named.context ha
          ht
      · intro r hm hco
        have hm : r ∈ ru := hm
        rw [hu] at hm
        obtain ⟨r₀, hb, rfl⟩ := List.mem_map.mp hm
        split at hco
        next hn =>
          right
          rw [if_pos hn, hh.only hb (hn.1.trans hh.named.id)]
          show (Db.cursor _ run.context).isSome = true ∧
            run.checkpointSequence ≤ (Db.watermarks _ run.context).acknowledgedSequence
          rw [hh.named.context]
          exact ⟨hcr, hr⟩
        next ho => exact .inl (by rw [if_neg ho]; exact hb)

theorem completeOnce_safe {oe : Failure → StoreProgram}
    (hf : ∀ f, SafeAfter (rules env strict) (.manifest ⟨.complete command, observed⟩) born (oe f)) :
    SafeAfter (rules env strict) (.manifest ⟨.complete command, observed⟩) born
      (completeOnce command observed oe) := by
  unfold completeOnce
  refine withLockedRun_safe hf (fun hab _ _ => completeError_safe ?_) fun o s run hh => ?_
  · rintro ⟨r, hna, _⟩
    exact absurd ⟨r, hna⟩ hab
  split
  next hc =>
    split
    next hdi =>
      exact Safe.rollback fun _ _ _ => completeError_safe fun hb =>
        absurd (hh.completed hb).2 hdi
    next hd =>
      refine Safe.read fun s₁ ho₁ hi₁ => Safe.rollback fun s₂ ho₂ hi₂ => ?_
      have ht := hh.move ho₁ hi₁
      obtain ⟨hcu, hre⟩ := ht.inv.devices.completed run ht.named.stands hc
      rw [ht.named.context] at hcu hre
      cases hr : completionReceipt command.context run.checkpointSequence s₁.db with
      | error e =>
        obtain ⟨c, hfo⟩ := Option.isSome_iff_exists.mp hcu
        rw [completionReceipt, hfo] at hr
        cases hr
      | ok receipt =>
        intro t ho inv
        exact completionReceipt_safe ht.later ht.named hc (not_not.mp hd)
          hre (completionReceipt_ok ht.inv.devices.cursors hre hr) t
          ((Rely.toNone ho₂).trans (Rely.toNone ho)) inv
  next hi =>
    have new {e : ManifestError} (hb : CompletedBefore command born.db) :
        e = .dependencyUnavailable ∨ e = .internalError :=
      absurd (hh.completed hb).1 hi
    have hrd {e : ManifestError} : Safe (rules env strict)
        (.manifest ⟨.complete command, observed⟩) born
        (.rollback (.done (.completion (.error e)))) o s :=
      Safe.rollback fun _ _ _ => completeError_safe new
    split
    · exact hrd
    split
    · exact hrd
    refine hh.rejectExpired_safe (fun _ _ _ => completeError_safe new) fun hun => ?_
    split
    · exact hrd
    next ha =>
      have ha := not_not.mp ha
      have hu : run.state.unfinished = true := by
        rw [ha]
        rfl
      refine hh.rejectPolicyStale_safe hu (fun _ _ => completeError_safe new) fun hct => ?_
      split
      · exact hrd
      next hd =>
        refine Safe.lock fun s₁ ho₁ hi₁ => Safe.commitOrAbort
          (fun t db' receipt ho inv hw => ?_) (fun t re _ _ _ => ?_)
        · have ht := ((hh.move ho₁ hi₁).withLock (.deviceCursorRow
            command.context.workspaceId command.context.deviceId)).move ho inv
          obtain ⟨hg, hna, hre, hr⟩ := completionWrites_safe ht ha
            hct (hun hu) (not_not.mp hd) List.mem_cons_self hw
          have hn : ∀ n ∈ (o.withLock (.deviceCursorRow command.context.workspaceId
              command.context.deviceId)).drawn, n < t.sequence := by
            rw [ht.drawn]
            simp
          have haf := StoreInv.commit inv hn hg
          exact ⟨hg, completionReceipt_safe
            (Rely.own_commit ht.later inv hn hg) hna rfl (not_not.mp hd)
            hre (completionReceipt_ok haf.devices.cursors hre hr)⟩
        · cases re <;> exact completeError_safe new

end Complete

theorem manifestProgram_safe (env : Environment) (strict : Prop) (call : ManifestCall)
    (s : Snapshot Db) (inv : StoreInv env s) :
    Safe (rules env strict) (.manifest call) s (manifestProgram env call) .none s := by
  obtain ⟨command, observed⟩ := call
  cases command with
  | start command =>
    exact deviceSyncRetry_safe (fun _ hf => startOnce_safe hf)
      (fun _ _ _ => startError_safe) (fun _ _ _ => startError_safe) _ s .refl inv
  | append command =>
    exact deviceSyncRetry_safe (fun _ hf => appendOnce_safe hf)
      (fun _ _ _ => pageError_safe (by decide) fun _ => .inl rfl)
      (fun _ _ _ => pageError_safe (by decide) fun _ => .inr (.inl rfl)) _ s .refl inv
  | finalize command =>
    exact deviceSyncRetry_safe (fun _ hf => finalizeOnce_safe hf)
      (fun _ _ _ => finalizeError_safe) (fun _ _ _ => finalizeError_safe) _ s .refl inv
  | readActions query =>
    exact deviceSyncRetry_safe (fun _ hf => readActionsOnce_safe hf)
      (fun _ _ _ => actionsError_safe) (fun _ _ _ => actionsError_safe) _ s .refl inv
  | complete command =>
    exact deviceSyncRetry_safe (fun _ hf => completeOnce_safe hf)
      (fun _ _ _ => completeError_safe fun _ => .inl rfl)
      (fun _ _ _ => completeError_safe fun _ => .inr rfl) _ s .refl inv

end PersonalOs.SourceStore
