import PersonalOs.SourceStore.Safety

/-!
# The conflict store is safe

A capture or a resolution commits its event and its move of the conflict rows under the locks
of its key and its source, and answers what a row of the table says.
-/

namespace PersonalOs.SourceStore

open Transactions LookupLemmas

variable {env : Environment} {hstr : Prop} {o : StoreOwn} {hb s s' : Snapshot Db}

/-! ## Rows stay -/

theorem evidence_later {c : SourceConflict} (ho : Rely (rules env hstr) o s s')
    (ht : c ∈ s.db.conflicts) : ∃ d ∈ s'.db.conflicts, SameEvidence c d := by
  refine Rely.stable (fun t => ∃ d ∈ t.db.conflicts, SameEvidence c d) ?_ ho ⟨c, ht, .refl c⟩
  rintro a b hs ⟨d, has, he⟩
  cases hs with
  | draw => exact ⟨d, has, he⟩
  | commit ca o' _ _ _ hg =>
    obtain ⟨e, _, hv⟩ := StoreGuar.conflictMove hg
    obtain ⟨d', hh', he'⟩ := hv.evidence_kept has
    exact ⟨d', hh', he.trans he'⟩

theorem closed_later {c : SourceConflict} (ho : Rely (rules env hstr) o s s')
    (ht : c ∈ s.db.conflicts) (hc : c.status ≠ .open) : c ∈ s'.db.conflicts := by
  refine Rely.stable (fun t => c ∈ t.db.conflicts) ?_ ho ht
  intro a b hs has
  cases hs with
  | draw => exact has
  | commit ca o' _ _ _ hg =>
    obtain ⟨e, _, hv⟩ := StoreGuar.conflictMove hg
    exact hv.closed_kept has hc

theorem sideCommit_conflicts {c : StoreCall} {db' : Db} {conflicts : List SourceConflict}
    (hv : ConflictMove c.captureRequest c.resolutionRequest none s.db.conflicts
      db'.conflicts) (is : db' = { s.db with conflicts }) :
    SideCommit env hstr c o s db' where
  sameCanon := ⟨conflicts, _, _, _, is⟩
  conflicts := hv
  devices := by
    subst is
    exact .still rfl rfl
  audits := by
    subst is
    exact .inl rfl

/-! ## Capture -/

section Capture

variable {request : CaptureRequest}

def CapturedIn (request : CaptureRequest) (id : ConflictId) (db : Db) : Prop :=
  ∃ c ∈ db.conflicts, CapturedBy request.command c ∧ c.conflictId = id

theorem CapturedIn.later {id : ConflictId} (hc : CapturedIn request id s.db)
    (ho : Rely (rules env hstr) o s s') : CapturedIn request id s'.db := by
  obtain ⟨c, ht, by', hs⟩ := hc
  obtain ⟨d, has, he⟩ := evidence_later ho ht
  refine ⟨d, has, ⟨he.workspace.trans by'.workspace, he.event.trans by'.event,
    he.key.trans by'.key, ?_⟩, he.id.trans hs⟩
  have hm := by'.evidence
  unfold captureEvidenceMatches at hm ⊢
  rw [he.workspace, he.source, he.kind, he.device, he.base, he.observed, he.candidate, he.locator]
  exact hm

theorem answerCapture_safe {row : SourceConflict} (hc : CapturedIn request row.conflictId s.db) :
    Safe (rules env hstr) (.capture request) hb (answerCapture (.ok row)) o s :=
  fun _ ho _ => hc.later ho

theorem capturedIn_appended {db db' : Db} (ha : db'.conflicts =
      db.conflicts ++ [capturedConflict request.command request.conflictId]) :
    CapturedIn request (capturedConflict request.command request.conflictId).conflictId db' := by
  refine ⟨_, by rw [ha]; exact List.mem_append_right _ List.mem_cons_self, ⟨rfl, rfl, rfl, ?_⟩, rfl⟩
  simp [captureEvidenceMatches, capturedConflict]

/-- An error a capture may always get, or gets while its identities are free. -/
theorem captureError_safe {e : SourceConflictError}
    (hg : CaptureTaken request.command hb.db → e = .idempotencyMismatch ∨
      e = .dependencyUnavailable ∨ e = .commitOutcomeUnknown) :
    Safe (rules env hstr) (.capture request) hb (answerCapture (.error e)) o s :=
  fun _ _ _ => hg

theorem untaken_of_lookups (hl : Rely (rules env hstr) .none hb s)
    (hk : s.db.conflictByCaptureKey request.command.workspaceId
      request.command.idempotencyKey = none)
    (hev : ¬(s.db.conflictByOriginatingEvent request.command.workspaceId
      request.command.originatingEventId).isSome)
    (hu : ¬s.db.keyHeldByAnotherEvent request.command.workspaceId
      request.command.idempotencyKey request.command.originatingEventId = true)
    (inv : StoreInv env s) : ¬CaptureTaken request.command hb.db := by
  rintro (⟨c, ht, hw, hh⟩ | ⟨e, ht, hw, key, ho⟩)
  · obtain ⟨d, has, he⟩ := evidence_later hl ht
    rcases hh with key | het
    · rw [Db.conflictByCaptureKey, List.find?_eq_none] at hk
      refine hk d has ?_
      simp [he.workspace, hw, he.key, key]
    · rw [Db.conflictByOriginatingEvent, Option.not_isSome_iff_eq_none, List.find?_eq_none] at hev
      refine hev d has ?_
      simp [he.workspace, hw, he.event, het]
  · have hf := (eventByKey_eq_some inv.keyed).mpr ⟨(grows_of_rely hl).events e ht, hw, key⟩
    rw [Db.keyHeldByAnotherEvent, hf] at hu
    exact hu (by simpa using ho)

theorem captureOnce_safe {oe : Failure → StoreProgram} (hfa : ∀ f,
      SafeAfter (rules env hstr) (.capture request) hb (oe f)) :
    SafeAfter (rules env hstr) (.capture request) hb (captureOnce env request oe) := by
  intro s hl inv
  unfold captureOnce
  refine Safe.begin hl hfa fun s₁ ho₁ hi₁ => Safe.lock fun s₂ ho₂ hi₂ =>
    Safe.read fun s₃ ho₃ hi₃ => ?_
  have hl₃ : Rely (rules env hstr) .none hb s₃ := hl.trans (ho₁.trans (ho₂.trans (Rely.toNone ho₃)))
  have hm {o' : StoreOwn} {t : Snapshot Db} : Safe (rules env hstr) (.capture request)
      hb (.rollback (answerCapture (.error .idempotencyMismatch))) o' t :=
    Safe.rollback fun _ _ _ => captureError_safe fun _ => .inl rfl
  split
  next row hf =>
    have hn := List.find?_some hf
    simp only [decide_eq_true_eq] at hn
    have ht := List.mem_of_find?_eq_some hf
    split
    · exact hm
    next same =>
      rw [not_or, not_not] at same
      have hc : CapturedIn request row.conflictId s₃.db :=
        ⟨row, ht, ⟨hn.1, same.1, hn.2, by simpa using same.2⟩, rfl⟩
      exact Safe.rollback fun s₄ ho₄ _ => answerCapture_safe (hc.later ho₄)
  next hk =>
    split
    · exact hm
    next he =>
    split
    · exact hm
    next hun =>
    have hu := untaken_of_lookups hl₃ hk he hun hi₃
    have hr {o' : StoreOwn} {t : Snapshot Db} (e : SourceConflictError) :
        Safe (rules env hstr) (.capture request) hb (answerCapture (.error e)) o' t :=
      captureError_safe fun hta => absurd hta hu
    split
    · exact Safe.rollback fun _ _ _ => hr _
    next hva =>
    split
    next hs =>
      refine Safe.commitOrAbort ?_ ?_
      · intro t db row ho inv hw
        obtain ⟨rfl, ha, hv⟩ := captureWrites_move env (by simp [hs]) (by simp) hw
        obtain ⟨c, hsa⟩ := captureWrites_sourceless hw
        refine ⟨.inr (sideCommit_conflicts hv hsa), answerCapture_safe ?_⟩
        exact capturedIn_appended ha
      · intro t r ho _ _
        cases r <;> exact hr _
    next x hso =>
      have hse : (s₃.db.sourceInWorkspace request.command.workspaceId x).isSome := by
        simp only [validateCaptureReferences, hso, Bool.not_eq_true, Bool.not_eq_false',
          Bool.and_eq_true] at hva
        exact hva.2.1.1
      refine Safe.lock fun s₄ ho₄ hi₄ => Safe.draw fun s₅ ho₅ hi₅ => ?_
      refine Safe.commitOrAbort ?_ ?_
      · intro t db row ho inv hw
        obtain ⟨rfl, ha, hv⟩ := captureWrites_move env (by simp [hso])
          (by rintro _ ⟨⟩; exact ⟨_, _, rfl⟩) hw
        obtain ⟨so, hf⟩ := Option.isSome_iff_exists.mp hse
        obtain ⟨ht, hwo⟩ := (sourceInWorkspace_eq_some hi₃.keyed).mp hf
        have hon : Rely (rules env hstr) .none s₃ t :=
          (Rely.toNone ho₄).trans ((Rely.toNone ho₅).trans
            ((Rely.own_draw .refl).trans (Rely.toNone ho)))
        obtain ⟨so', ht', hw'⟩ := row_later hon ht
        have hco := captureWrites_commit inv.keyed
          ((sourceInWorkspace_eq_some inv.keyed).mpr ⟨ht', hw'.trans hwo⟩) hw
        refine ⟨.inl ⟨_, eventCommit_of hi₅ ho hco rfl ⟨x, _, rfl⟩ trivial
          List.mem_cons_self (List.mem_cons_of_mem _ List.mem_cons_self) (by simp [captureEvent,
            EventType.isConflict]) hv⟩, answerCapture_safe (capturedIn_appended ha)⟩
      · intro t r ho _ _
        cases r <;> exact hr _

theorem captureConflict_safe (inv : StoreInv env s) :
    Safe (rules env hstr) (.capture request) s (captureConflict env request) .none s := by
  refine conflictRetry_safe (fun oe hf => captureOnce_safe hf) ?_ _ s .refl inv
  exact fun e hr _ _ _ => captureError_safe fun _ => .inr hr

end Capture

/-! ## Resolution -/

section Resolution

variable {request : ResolutionRequest}

/-- A closed row that says what a resolution answers. -/
def ResolvedIn (request : ResolutionRequest) (result : ConflictResolutionResult) (db : Db) :
    Prop :=
  ∃ c ∈ db.conflicts, ∃ r, ResolvedBy request result c r

variable {result : ConflictResolutionResult} {db : Db}

theorem ResolvedIn.later (hr : ResolvedIn request result s.db) (ho : Rely (rules env hstr) o s s') :
    ResolvedIn request result s'.db := by
  obtain ⟨c, ht, r, by'⟩ := hr
  exact ⟨c, closed_later ho ht by'.closed, r, by'⟩

theorem answerResolution_safe (hr : ResolvedIn request result s.db) :
    Safe (rules env hstr) (.resolve request) hb (answerResolution (.ok result)) o s :=
  fun _ ho _ => hr.later ho

theorem resolutionError_safe {e : SourceConflictError} :
    Safe (rules env hstr) (.resolve request) hb (answerResolution (.error e)) o s :=
  fun _ _ _ => trivial

theorem raiseResolution_safe {e : SourceConflictError} : Safe (rules env hstr) (.resolve request) hb
      (.rollback (answerResolution (.error e))) o s :=
  Safe.rollback fun _ _ _ => resolutionError_safe

theorem resolutionReplay_resolved {row : SourceConflict} (hta : ConflictTable db.conflicts)
    (hf : db.conflictByResolutionEvent request.workspaceId
      request.command.resolutionEventId = some row) (key : ¬(row.resolution.any fun r =>
      r.resolutionIdempotencyKey ≠ request.command.idempotencyKey) = true)
    (hre : resolutionReplayResult db row = .ok result) : ResolvedIn request result db := by
  have ht := List.mem_of_find?_eq_some hf
  have hn := List.find?_some hf
  have hsh := hta.shaped row ht
  unfold resolutionReplayResult at hre
  split at hre
  next r hs hr =>
    cases hre
    simp only [hr, Option.any_some, decide_eq_true_eq, not_not] at hn key
    exact ⟨row, ht, r, hn.1, by simp [hs], hr, hn.2, key, rfl, rfl, rfl, rfl⟩
  next r hs hr =>
    split at hre
    · cases hre
    · cases hre
      simp only [hr, Option.any_some, decide_eq_true_eq, not_not] at hn key
      rw [SourceConflict.Shaped, hs] at hsh
      obtain ⟨r', s, is, _, hno⟩ := hsh
      rw [hr] at is
      cases is
      exact ⟨row, ht, r, hn.1, by simp [hs], hr, hn.2, key, rfl, rfl, rfl, hno.symm⟩
  next => cases hre

theorem resolvedIn_of_closed {c : SourceConflict} {st : ConflictStatus}
    {r : Option SourceVersionId} {si : Option ConflictId}
    {oc : ConflictResolutionOutcome} {su : Option SourceConflict}
    (ht : c ∈ db.conflicts)
    (hc : ClosedFor request st (closureOf request r si) c)
    (hcl : st ≠ .open) :
    ResolvedIn request (resolutionResult request oc r su) db :=
  ⟨c, ht, _, hc.workspace, hc.status ▸ hcl, hc.resolution, rfl, rfl, hc.id.symm, rfl, rfl, rfl⟩

/-- A resolution behind the lock of its key, with its conflict row and the locked state of its
source. -/
structure AtResolution (env : Environment) (request : ResolutionRequest)
    (conflict : SourceConflict) (state : LockedSourceState) (o : StoreOwn) (s : Snapshot Db) :
    Prop where
  idempotency :
    idempotencyLock env.word request.workspaceId request.command.idempotencyKey ∈ o.locks
  inv : StoreInv env s
  named : conflict.conflictId = request.command.conflictId
  stands : ∃ c ∈ s.db.conflicts, SameEvidence conflict c
  source : ∀ x, conflict.sourceId = some x → sourceLock env.word x ∈ o.locks ∧
    ∃ row, (s.db.graph x).rows = [row] ∧ row.workspaceId = request.workspaceId ∧
      state = ⟨some row.syncState, row.currentVersionId⟩

variable {conflict : SourceConflict} {state : LockedSourceState}

theorem AtResolution.move (hst : AtResolution env request conflict state o s)
    (ho : Rely (rules env hstr) o s s') (inv : StoreInv env s') :
    AtResolution env request conflict state o s' :=
  { hst with
    inv := inv
    stands := by
      obtain ⟨c, has, he⟩ := hst.stands
      obtain ⟨d, has', he'⟩ := evidence_later ho has
      exact ⟨d, has', he.trans he'⟩
    source := by
      intro x hs
      obtain ⟨hh, row, rows, workspace, is⟩ := hst.source x hs
      exact ⟨hh, row, (congrArg SourceGraph.rows (frozen_source hh ho)).trans rows,
        workspace, is⟩ }

theorem stillNamed (hta : ConflictTable db.conflicts)
    (hn : conflict.conflictId = request.command.conflictId)
    (ht : ∃ c ∈ db.conflicts, SameEvidence conflict c) : StillNamed request conflict db := by
  obtain ⟨c, has, he⟩ := ht
  intro d hh isD
  have isC : d = c := named_unique hta.apart hh has (isD.trans (hn.symm.trans he.id.symm))
  exact isC ▸ he

theorem AtResolution.draw (hst : AtResolution env request conflict state o s) :
    AtResolution env request conflict state (o.withNumber s.sequence) ⟨s.db, s.sequence + 1⟩ :=
  { hst with inv := hst.inv.draw }

structure Resolves (env : Environment) (request : ResolutionRequest) (conflict : SourceConflict)
    (n : Nat) (before after : Db) (result : ConflictResolutionResult)
    (committed : Option SourceVersionId) : Prop where
  answers : ResolvedIn request result after
  moves : ConflictMove none (some request) (resolutionEventOf env request conflict committed n)
    before.conflicts after.conflicts
  sourced : ∀ x, conflict.sourceId = some x →
    CommitOf (resolutionEvent env request conflict x committed n) before after
  sourceless : conflict.sourceId = none → ∃ conflicts, after = { before with conflicts }

theorem commitResolution_safe {w : Nat → Db → ResolutionWrites}
    (hst : AtResolution env request conflict state o s)
    (hc : ∀ n o' t db result, AtResolution env request conflict state o' t →
      Grows s.db t.db → w n t.db = .ok (db, result) →
        ∃ c, Resolves env request conflict n t.db db result c) :
    Safe (rules env hstr) (.resolve request) hb
      (numberResolutionEvent conflict fun n => commitConflict (w n) answerResolution)
      o s := by
  unfold numberResolutionEvent
  cases hs : conflict.sourceId with
  | none =>
    refine Safe.commitOrAbort ?_ ?_
    · intro t db result ho inv hw
      obtain ⟨c, hr⟩ := hc 0 o t db result (hst.move ho inv) (grows_of_rely ho) hw
      obtain ⟨co, is⟩ := hr.sourceless hs
      have hv := hr.moves
      rw [resolutionEventOf, hs] at hv
      exact ⟨.inr (sideCommit_conflicts hv is), answerResolution_safe hr.answers⟩
    · intro t r _ _ _
      cases r <;> exact resolutionError_safe
  | some x =>
    refine Safe.draw fun s₁ ho₁ hi₁ => Safe.commitOrAbort ?_ ?_
    · intro t db result ho inv hw
      have hst₁ := hst.move ho₁ hi₁
      have hg := grows_of_rely ho
      obtain ⟨c, hr⟩ := hc s₁.sequence _ t db result
        (hst₁.draw.move ho inv) ((grows_of_rely ho₁).trans hg) hw
      have hv := hr.moves
      rw [resolutionEventOf, hs] at hv
      refine ⟨.inl ⟨_, eventCommit_of hi₁ ho (hr.sourced x hs) rfl
        ⟨conflict, x, c, _, rfl⟩ trivial (hst.source x hs).1
        hst.idempotency (by simp [resolutionEvent, EventType.isConflict]) hv⟩,
        answerResolution_safe hr.answers⟩
    · intro t r _ _ _
      cases r <;> exact resolutionError_safe

theorem AtResolution.found (hst : AtResolution env request conflict state o s)
    {x : SourceId} (hs : conflict.sourceId = some x) :
    ∃ row, (s.db.graph x).rows = [row] ∧ s.db.sourceInWorkspace request.workspaceId x = some row ∧
      state = ⟨some row.syncState, row.currentVersionId⟩ := by
  obtain ⟨_, row, hr, hw, is⟩ := hst.source x hs
  exact ⟨row, hr, (sourceInWorkspace_eq_some hst.inv.keyed).mpr ⟨hr, hw⟩, is⟩

theorem AtResolution.stillNamed (hst : AtResolution env request conflict state o s) :
    StillNamed request conflict s.db :=
  SourceStore.stillNamed hst.inv.conflictTable hst.named hst.stands

theorem staleSuccessor_resolves {n : Nat} (hst : AtResolution env request conflict state o s)
    (hw : staleSuccessorWrites env request conflict state.currentVersionId n s.db =
      .ok (db, result)) : Resolves env request conflict n s.db db result none := by
  obtain ⟨c, has, he⟩ := hst.stands
  obtain ⟨⟨d, hh, si, hc⟩, ⟨su, rfl⟩, hv⟩ :=
    staleSuccessorWrites_move hst.stillNamed ⟨c, has, he.id.trans hst.named⟩ hw
  refine ⟨resolvedIn_of_closed hh hc (by simp), hv, fun x hs => ?_,
    fun hso => resolutionWrites_sourceless _ hso (.inl hw)⟩
  obtain ⟨row, _, hf, _⟩ := hst.found hs
  exact staleSuccessorWrites_commit hst.inv.keyed hs hf hw

theorem keepRemote_resolves {n : Nat} (hst : AtResolution env request conflict state o s)
    (hr : request.command.reviewedRemoteVersionId = state.currentVersionId)
    (hw : keepRemoteWrites env request conflict n s.db = .ok (db, result)) :
    Resolves env request conflict n s.db db result request.command.reviewedRemoteVersionId := by
  obtain ⟨⟨d, hh, hc⟩, rfl, hv⟩ := keepRemoteWrites_move hst.stillNamed hw
  refine ⟨resolvedIn_of_closed hh hc (by simp), hv, fun x hs => ?_,
    fun hso => resolutionWrites_sourceless none hso (.inr hw)⟩
  obtain ⟨row, _, hf, is⟩ := hst.found hs
  rw [is] at hr
  exact keepRemoteWrites_commit hst.inv.keyed hs hf hr hw

/-- The version a winner publishes follows the current one of the locked source. -/
theorem winningVersion_next {x : SourceId} {oi : ContentObjectId} {ve : SourceVersion}
    (hst : AtResolution env request conflict state o s) (hs : conflict.sourceId = some x)
    (won : winningVersion request x state.currentVersionId oi s.db = some ve) :
    ∃ row p, (s.db.graph x).rows = [row] ∧ p ∈ (s.db.graph x).versions ∧
      row.currentVersionId = some p.sourceVersionId ∧
      ve.workspaceId = request.workspaceId ∧ ve.sourceId = x ∧
      ve.contentObjectId = oi ∧
      ve.contentVersion = p.contentVersion + 1 ∧
      ve.parentVersionId = some p.sourceVersionId := by
  obtain ⟨row, hr, _, is⟩ := hst.found hs
  rcases (hst.inv.history x).current with hb | ⟨r', hc⟩
  · rw [hb] at hr
    cases hr
  have he := hc.row_eq hr
  subst he
  obtain ⟨v, hh, hp⟩ := hc.pointer
  rw [is] at won
  simp only [winningVersion, hp] at won
  split at won
  · cases won
  next p hf =>
    obtain ⟨hi, _, ofX, hn⟩ := (version_eq_some hst.inv.keyed).mp hf
    split at won
    · cases won
    · cases won
      exact ⟨row, p, hr, mem_graph_versions.mpr ⟨hi, ofX⟩, by rw [hp, hn],
        rfl, rfl, rfl, rfl, by rw [hn]⟩

theorem winnerTransition_safe (hst : AtResolution env request conflict state o s)
    (hr : request.command.reviewedRemoteVersionId = state.currentVersionId) :
    Safe (rules env hstr) (.resolve request) hb
      (winnerTransition env request conflict state) o s := by
  unfold winnerTransition
  simp only
  by_cases hk : request.command.resolutionKind = .keepRemote
  · rw [if_pos hk]
    exact commitResolution_safe hst fun n o' t db result at' _ hw =>
      ⟨_, keepRemote_resolves at' hr hw⟩
  rw [if_neg hk]
  cases hs : conflict.sourceId with
  | none => exact raiseResolution_safe
  | some x =>
  simp only
  split
  · exact raiseResolution_safe
  next hu =>
  split
  · exact raiseResolution_safe
  · exact raiseResolution_safe
  next oi _ _ =>
  refine Safe.read fun s₁ ho₁ hi₁ => ?_
  split
  · exact raiseResolution_safe
  next ho =>
  refine Safe.read fun s₂ ho₂ hi₂ => ?_
  split
  · exact raiseResolution_safe
  next v won =>
  have hst₂ := (hst.move ho₁ hi₁).move ho₂ hi₂
  obtain ⟨ob, hfo⟩ := Option.ne_none_iff_exists'.mp (by simpa using ho)
  obtain ⟨hsd, hna⟩ := (object_eq_some hi₁.keyed).mp hfo
  have hs₂ := (grows_of_rely ho₂).objects ob hsd
  obtain ⟨row, p, hrs, hh, hpo, hwo, ofX, hof, hne, hp⟩ := winningVersion_next hst₂ hs won
  have hl : row.syncState ≠ .deleted := by
    obtain ⟨r', hr', _, is⟩ := hst₂.found hs
    rw [hrs] at hr'
    cases hr'
    rintro hd
    rw [is] at hu
    simp [hd, updateableSourceState] at hu
  have hn : numberResolutionEvent conflict (fun n =>
      commitConflict (winnerWrites env request conflict x v n) answerResolution) =
      .draw fun n => commitConflict (winnerWrites env request conflict x v n) answerResolution := by
    rw [numberResolutionEvent, hs]
  rw [← hn]
  refine commitResolution_safe hst₂ fun n o' t db result at' hg hw => ?_
  obtain ⟨⟨d, hha, hc⟩, rfl, hv⟩ := winnerWrites_move at'.stillNamed hw
  refine ⟨_, resolvedIn_of_closed hha hc (by simp), hv, ?_, fun hso => ?_⟩
  · intro y isY
    rw [hs] at isY
    cases isY
    obtain ⟨rt, hrt, hf, isT⟩ := at'.found hs
    obtain ⟨rs, hro, _, isS⟩ := hst₂.found hs
    rw [hrs] at hro
    cases hro
    rw [isS, LockedSourceState.mk.injEq, Option.some.injEq] at isT
    obtain ⟨hi, ho'⟩ := mem_graph_versions.mp hh
    refine winnerWrites_commit at'.inv.keyed hs hf (isT.1 ▸ hl) (isT.2 ▸ hpo) ?_
      (mem_graph_versions.mpr ⟨hg.versions p hi, ho'⟩) hwo ofX hne hp
      ⟨ob, hg.objects ob hs₂, hna.trans hof.symm⟩ hw
    rw [hr, isS, isT.2]
  · rw [hs] at hso
    cases hso

theorem resolutionTransition_safe (hst : AtResolution env request conflict state o s) :
    Safe (rules env hstr) (.resolve request) hb
      (resolutionTransition env request conflict state) o s := by
  unfold resolutionTransition
  split
  · exact commitResolution_safe hst fun n o' t db result at' _ hw =>
      ⟨_, staleSuccessor_resolves at' hw⟩
  next hr => exact winnerTransition_safe hst (not_not.mp hr)

theorem resolveOnce_safe {oe : Failure → StoreProgram} (hfa : ∀ f,
      SafeAfter (rules env hstr) (.resolve request) hb (oe f)) :
    SafeAfter (rules env hstr) (.resolve request) hb (resolveOnce env request oe) := by
  intro s hl inv
  unfold resolveOnce
  refine Safe.begin hl hfa fun s₁ ho₁ hi₁ => Safe.lock fun s₂ ho₂ hi₂ =>
    Safe.read fun s₃ ho₃ hi₃ => ?_
  split
  next row hf =>
    split
    · exact raiseResolution_safe
    next key =>
      refine Safe.rollback fun s₄ ho₄ hi₄ => ?_
      cases hr : resolutionReplayResult s₃.db row with
      | error e => exact resolutionError_safe
      | ok result =>
        have hre := resolutionReplay_resolved hi₃.conflictTable hf key hr
        exact answerResolution_safe (hre.later ho₄)
  next =>
  split
  · exact raiseResolution_safe
  split
  · exact raiseResolution_safe
  refine Safe.selectForUpdate (fun _ _ _ _ => raiseResolution_safe)
    (fun _ _ _ _ _ => raiseResolution_safe) ?_
  intro s₄ conflict l ho₄ hi₄ hf
  have ht := List.mem_of_find?_eq_some hf
  have hn := List.find?_some hf
  simp only [decide_eq_true_eq] at hn
  split
  · exact raiseResolution_safe
  split
  next hso =>
    refine resolutionTransition_safe {
      idempotency := List.mem_cons_of_mem _ List.mem_cons_self
      inv := hi₄
      named := hn.2
      stands := ⟨conflict, ht, .refl conflict⟩
      source := fun x hs => ?_ }
    rw [hso] at hs
    cases hs
  next x hsd =>
    refine Safe.lock fun s₅ ho₅ hi₅ => ?_
    refine Safe.selectForUpdate (fun _ _ _ _ => raiseResolution_safe)
      (fun _ _ _ _ _ => raiseResolution_safe) ?_
    intro s₆ so ls ho₆ hi₆ hs
    obtain ⟨hro, hw⟩ := (sourceInWorkspace_eq_some hi₆.keyed).mp hs
    have ho : Rely (rules env hstr) .none s₄ s₆ := (Rely.toNone ho₅).trans (Rely.toNone ho₆)
    refine resolutionTransition_safe {
      idempotency := List.mem_cons_of_mem _ (List.mem_cons_of_mem _
        (List.mem_cons_of_mem _ List.mem_cons_self))
      inv := hi₆
      named := hn.2
      stands := evidence_later ho ht
      source := fun y isY => ?_ }
    rw [hsd] at isY
    cases isY
    exact ⟨List.mem_cons_of_mem _ List.mem_cons_self, so, hro, hw, rfl⟩

theorem resolveConflict_safe (inv : StoreInv env s) :
    Safe (rules env hstr) (.resolve request) s (resolveConflict env request) .none s := by
  refine conflictRetry_safe (fun oe hf => resolveOnce_safe hf) ?_ _ s .refl inv
  exact fun e _ _ _ _ => resolutionError_safe

end Resolution

end PersonalOs.SourceStore
