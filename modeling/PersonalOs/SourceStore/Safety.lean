import PersonalOs.SourceStore.Stores

/-!
# Safety of the stores' common parts

What every store's proof uses: how committed state develops under the rules, the retry
policies and the rejection audit.
-/

namespace PersonalOs.SourceStore

open Transactions

variable {env : Environment} {hstr : Prop} {c : StoreCall} {o : StoreOwn}
  {hbo s s' : Snapshot Db}

/-! ## Development of the committed state -/

theorem grows_of_rely (ho : Rely (rules env hstr) o s s') : Grows s.db s'.db := by
  induction ho with
  | refl => exact Grows.refl _
  | tail _ hs ih =>
    cases hs with
    | draw => exact ih
    | commit c o' _ _ _ hg => exact ih.trans (StoreGuar.grows hg)

theorem unchanged_of_rely {l : LockName} (hh : l ∈ o.locks)
    (ho : Rely (rules env hstr) o s s') : Unchanged env l s.db s'.db :=
  Rely.unchanged (unchanged_of_unlocked env hstr) Unchanged.refl Unchanged.trans hh ho

theorem frozen_source {x : SourceId} (hh : sourceLock env.word x ∈ o.locks)
    (ho : Rely (rules env hstr) o s s') : s'.db.graph x = s.db.graph x :=
  (unchanged_of_rely hh ho).source x rfl

variable {e : SyncEvent}

theorem frozen_key {wi : WorkspaceId} {key : IdempotencyKey}
    (hh : idempotencyLock env.word wi key ∈ o.locks)
    (ho : Rely (rules env hstr) o s s') (hw : e.workspaceId = wi)
    (hn : e.idempotencyKey = key) : e ∈ s'.db.events ↔ e ∈ s.db.events :=
  (unchanged_of_rely hh ho).key e (by rw [hw, hn])

/-- No publication or lifecycle event of a workspace is committed under its policy row. -/
theorem frozen_policy {wi : WorkspaceId} (hh : .policyStateRow wi ∈ o.locks)
    (ho : Rely (rules env hstr) o s s') (hw : e.workspaceId = wi)
    (ht : e.eventType.isConflict = false) : e ∈ s'.db.events ↔ e ∈ s.db.events :=
  (unchanged_of_rely hh ho).policy e (by rw [hw]) ht

theorem unused_of_rely {n : Nat} (hd : n ∈ o.drawn) (ho : Rely (rules env hstr) o s s')
    (hu : ∀ e ∈ s.db.events, e.eventSequence ≠ n) :
    ∀ e ∈ s'.db.events, e.eventSequence ≠ n := by
  refine Rely.stable (fun s => ∀ e ∈ s.db.events, e.eventSequence ≠ n) ?_ ho hu
  intro a b hst hf
  cases hst with
  | draw => exact hf
  | commit c o' ha _ _ hg =>
    rcases hg with ⟨e, he⟩ | hs
    · show ∀ x ∈ _, _
      rw [he.commit.events]
      refine HistoryLemmas.forall_snoc hf ?_
      rintro rfl
      exact ha.2 _ hd he.number
    · intro x hm
      exact hf x (hs.events ▸ hm)

/-! ## Rows of sources -/

/-- What a step does to the row of a source: the pointer stays, or names a new version. -/
theorem GraphStep.row {g g' : SourceGraph} {row : Source} (hv : GraphStep e g g')
    (ht : g.rows = [row]) :
    ∃ r', g'.rows = [r'] ∧ r'.workspaceId = row.workspaceId ∧
      (r'.currentVersionId = row.currentVersionId ∨
        ∃ v ∈ g'.versions, r'.currentVersionId = some v.sourceVersionId ∧
          ∀ w ∈ g.versions, w.sourceVersionId ≠ v.sourceVersionId) := by
  have he {r' : Source} (ht' : g.rows = [r']) : r' = row := by
    rw [ht] at ht'
    exact (List.cons.inj ht').1.symm
  cases hv with
  | create _ _ _ hn =>
    rw [ht] at hn
    cases hn
  | repeatCurrent | relocate | record => exact ⟨row, ht, rfl, .inl rfl⟩
  | publish r' _ ve ht' _ _ _ _ _ _ _ _ hf =>
    rw [he ht']
    exact ⟨_, rfl, rfl, .inr ⟨ve, by simp, rfl, hf⟩⟩
  | delete r' _ _ _ ht' =>
    rw [he ht']
    exact ⟨_, rfl, rfl, .inl rfl⟩
  | restore r' _ _ _ ht' =>
    rw [he ht']
    exact ⟨_, rfl, rfl, .inl rfl⟩

theorem row_later {x : SourceId} {row : Source} (hl : Rely (rules env hstr) o s s')
    (ht : (s.db.graph x).rows = [row]) :
    ∃ r', (s'.db.graph x).rows = [r'] ∧ r'.workspaceId = row.workspaceId := by
  refine Rely.stable (fun t => ∃ r', (t.db.graph x).rows = [r'] ∧
    r'.workspaceId = row.workspaceId) ?_ hl ⟨row, ht, rfl⟩
  rintro a b hst ⟨r', ht', hw⟩
  cases hst with
  | draw => exact ⟨r', ht', hw⟩
  | commit c o' _ _ _ hg =>
    rcases hg with ⟨e, he⟩ | hs
    · by_cases ho : x = e.sourceId
      · subst ho
        obtain ⟨r'', ht'', hw', _⟩ := he.commit.step.row ht'
        exact ⟨r'', ht'', hw'.trans hw⟩
      · exact ⟨r', by rw [he.commit.others ho]; exact ht', hw⟩
    · exact ⟨r', by rw [hs.graph]; exact ht', hw⟩

/-! ## Retry -/

section Retry

variable {a : Nat → (Failure → StoreProgram) → StoreProgram}
  {hre : Option (StoreProgram → StoreProgram)} {hbu ho : StoreProgram}

/-- What the attempts and the recovery of a retried call hand on, the call has. -/
theorem databaseRetry_of {Q : StoreProgram → Prop} (hh : Q .halt)
    (ha : ∀ r oe, (∀ f, Q (oe f)) → Q (a r oe)) (hr : ∀ re ∈ hre, ∀ n, Q n → Q (re n))
    (hb : Q hbu) (hu : Q ho) (r : Nat) : Q (databaseRetry a hre hbu ho r) := by
  induction r with
  | zero => exact hh
  | succ r ih =>
    refine ha r _ fun f => ?_
    cases f with
    | contention =>
      by_cases hl : r = 0
      · simpa [hl] using hb
      · simpa [hl] using ih
    | unavailable =>
      cases hre with
      | none => exact hu
      | some re =>
        refine hr re rfl _ ?_
        split
        · exact hu
        · exact ih
    | unclassified =>
      cases hre <;> exact hu

theorem databaseRetry_safe (ha : ∀ r oe, (∀ f, SafeAfter (rules env hstr) c hbo (oe f)) →
        SafeAfter (rules env hstr) c hbo (a r oe))
    (hr : ∀ re ∈ hre, ∀ n, SafeAfter (rules env hstr) c hbo n →
      SafeAfter (rules env hstr) c hbo (re n))
    (hb : SafeAfter (rules env hstr) c hbo hbu)
    (hu : SafeAfter (rules env hstr) c hbo ho) (r : Nat) :
    SafeAfter (rules env hstr) c hbo (databaseRetry a hre hbu ho r) :=
  databaseRetry_of (fun _ _ _ => trivial) ha hr hb hu r

theorem conflictRetry_of {a : (Failure → StoreProgram) → StoreProgram}
    {ra : SourceConflictError → StoreProgram} {Q : StoreProgram → Prop} (hh : Q .halt)
    (ha : ∀ oe, (∀ f, Q (oe f)) → Q (a oe))
    (hr : ∀ er, er = .dependencyUnavailable ∨ er = .commitOutcomeUnknown → Q (ra er)) (r : Nat) :
    Q (conflictRetry a ra r) := by
  induction r with
  | zero => exact hh
  | succ r ih =>
    refine ha _ fun f => ?_
    by_cases hl : r = 0
    · cases f with
      | contention => simpa [hl] using hr _ (.inl rfl)
      | unavailable | unclassified => simpa [hl] using hr _ (.inr rfl)
    · simpa [hl] using ih

theorem conflictRetry_safe {a : (Failure → StoreProgram) → StoreProgram}
    {ra : SourceConflictError → StoreProgram}
    (ha : ∀ oe, (∀ f, SafeAfter (rules env hstr) c hbo (oe f)) →
        SafeAfter (rules env hstr) c hbo (a oe))
    (hr : ∀ er, er = .dependencyUnavailable ∨ er = .commitOutcomeUnknown →
      SafeAfter (rules env hstr) c hbo (ra er)) (r : Nat) :
    SafeAfter (rules env hstr) c hbo (conflictRetry a ra r) :=
  conflictRetry_of (fun _ _ _ => trivial) ha hr r

theorem deviceSyncRetry_safe {a : (Failure → StoreProgram) → StoreProgram}
    {du ie : StoreProgram}
    (ha : ∀ oe, (∀ f, SafeAfter (rules env hstr) c hbo (oe f)) →
        SafeAfter (rules env hstr) c hbo (a oe))
    (hu : SafeAfter (rules env hstr) c hbo du)
    (hi : SafeAfter (rules env hstr) c hbo ie) (r : Nat) :
    SafeAfter (rules env hstr) c hbo (deviceSyncRetry a du ie r) := by
  induction r with
  | zero => exact fun _ _ _ => trivial
  | succ r ih =>
    refine ha _ fun f => ?_
    cases f with
    | contention =>
      by_cases hl : r = 0
      · simpa [hl] using hu
      · simpa [hl] using ih
    | unavailable => exact hu
    | unclassified => exact hi

end Retry

/-! ## Rejection audits -/

theorem writeRejectionAudit_safe {a : RejectionAudit} {oe : Failure → StoreProgram}
    {ne : StoreProgram} {n : List LifecycleRequest}
    (hf : ∀ s', Rely (rules env hstr) ⟨[], [], n⟩ s s' → StoreInv env s' →
      ∀ f, Safe (rules env hstr) c hbo (oe f) ⟨[], [], n⟩ s')
    (hj : ∀ s', Rely (rules env hstr) ⟨[], [], n⟩ s s' →
      ∀ l : LifecycleCall, c = .lifecycle l → hstr → ¬l.request.CommittedIn env s'.db)
    (hco : ∀ s', Rely (rules env hstr) ⟨[], [], n⟩ s s' → StoreInv env s' →
      Safe (rules env hstr) c hbo ne ⟨[], [], n⟩ s') :
    Safe (rules env hstr) c hbo (writeRejectionAudit a oe ne) ⟨[], [], n⟩ s := by
  intro s₁ ho₁ hi₁
  refine ⟨hf s₁ ho₁ hi₁, ?_⟩
  intro s₂ ho₂ hi₂
  refine ⟨?_, by simp⟩
  rintro db ⟨⟩
  have ho : Rely (rules env hstr) ⟨[], [], n⟩ s s₂ := ho₁.trans ho₂
  have hg : StoreGuar env hstr c ⟨[], [], n⟩ s₂ (s₂.db.insertRejectionAudit a) :=
    .inr ⟨⟨_, _, _, _, rfl⟩, .still (by simp), .still rfl rfl,
      .inr ⟨a, rfl, fun l hl hs => hj s₂ ho l hl hs⟩⟩
  -- the audit's own commit is one the others could have made: it appends no event
  refine ⟨hg, hco _ (ho.tail (.commit c ⟨[], [], n⟩
    (Own.apart_of_empty rfl rfl) hi₂ (by simp) hg fun _ _ _ hc => hc)) ?_⟩
  exact StoreInv.commit hi₂ (by simp) hg

/-! ## Numbered commits -/

/-- An event whose number was drawn under its source's lock, and under its workspace's policy
row unless it is a conflict's, follows everything it has to follow. -/
theorem eventCommit_of {db' : Db} (inv : StoreInv env s)
    (ho : Rely (rules env hstr) (o.withNumber s.sequence) ⟨s.db, s.sequence + 1⟩ s')
    (hco : CommitOf e s'.db db') (hn : e.eventSequence = s.sequence)
    (ha : c.Announces env e) (htr : c.Trusted env)
    (hs : sourceLock env.word e.sourceId ∈ o.locks)
    (hi : idempotencyLock env.word e.workspaceId e.idempotencyKey ∈ o.locks)
    (hp : e.eventType.isConflict = false → .policyStateRow e.workspaceId ∈ o.locks)
    (hc : ConflictMove c.captureRequest c.resolutionRequest (some e) s'.db.conflicts
      db'.conflicts) :
    EventCommit env c (o.withNumber s.sequence) s' db' e where
  commit := hco
  announces := ha
  trusted := htr
  source := hs
  idempotency := hi
  policy := hp
  number := by
    rw [hn]
    exact List.mem_cons_self
  positive := hn ▸ inv.started
  unused := by
    rw [hn]
    exact unused_of_rely List.mem_cons_self ho fun x ht => Nat.ne_of_lt (inv.numbered x ht).2
  behind := by
    intro x ht hof
    rw [hn]
    have hh : sourceLock env.word e.sourceId ∈ (o.withNumber s.sequence).locks := hs
    have hf := frozen_source hh ho
    have hin : x ∈ (s'.db.graph e.sourceId).events := List.mem_filter.mpr ⟨ht, by simpa using hof⟩
    rw [hf] at hin
    exact (inv.numbered x (List.mem_filter.mp hin).1).2
  governed := by
    intro hty x ht hw hu
    rw [hn]
    have hh : .policyStateRow e.workspaceId ∈ (o.withNumber s.sequence).locks := hp hty
    exact (inv.numbered x ((frozen_policy hh ho hw hu).mp ht)).2
  conflicts := hc

/-- The events of publications and lifecycle calls leave the conflict rows alone. -/
theorem conflicts_still {db db' : Db} (hc : CommitOf e db db')
    (ht : e.eventType.isConflict = false) :
    ConflictMove c.captureRequest c.resolutionRequest (some e) db.conflicts db'.conflicts := by
  rw [hc.conflicts ht]
  exact .still (by simpa using ht)

theorem drawn_behind (hd : o.drawn = [])
    (ho : Rely (rules env hstr) (o.withNumber s.sequence) ⟨s.db, s.sequence + 1⟩ s') :
    ∀ n ∈ (o.withNumber s.sequence).drawn, n < s'.sequence := by
  intro n hm
  have he : n = s.sequence := by simpa [Own.withNumber, hd] using hm
  rw [he]
  exact Nat.lt_of_succ_le ho.sequence_le

end PersonalOs.SourceStore
