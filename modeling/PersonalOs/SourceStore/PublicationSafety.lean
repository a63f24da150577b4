import PersonalOs.SourceStore.Safety

/-!
# The publication store is safe

Wherever other calls lead between its statements, a publication commits its own event at
most, on the source as its locks hold it still, and answers as `GoodPublication` says.
-/

namespace PersonalOs.SourceStore

open Transactions LookupLemmas

variable {env : Environment} {strict : Prop} {ca : StoreCall} {o : StoreOwn}
  {born s s' : Snapshot Db}

/-! ## Stale bases -/

def PointsElsewhere (x : SourceId) (workspaceId : WorkspaceId) (version : SourceVersionId)
    (db : Db) : Prop :=
  ∃ row, (db.graph x).rows = [row] ∧ row.workspaceId = workspaceId ∧
    row.currentVersionId ≠ some version

theorem version_unique {db : Db} (hk : Keyed db) {v w : SourceVersion} (hh : v ∈ db.versions)
    (hha : w ∈ db.versions) (he : v.sourceVersionId = w.sourceVersionId) : v = w := by
  have hf (r : SourceVersion) (hm : r ∈ db.versions) (hn : r.sourceVersionId = w.sourceVersionId) :
      db.versions.find? (fun v => v.sourceVersionId = w.sourceVersionId) = some r :=
    find?_unique hk.versions hm (by simp [hn]) (fun a b ha hb => ha (by simp_all))
  exact Option.some.inj ((hf v hh he).symm.trans (hf w hha rfl))

theorem pointsElsewhere_commit {x : SourceId} {wi : WorkspaceId}
    {ve : SourceVersionId} {db' : Db} (hg : StoreGuar env strict ca o s db')
    (hpu : ∃ v ∈ s.db.versions, v.sourceVersionId = ve)
    (hel : PointsElsewhere x wi ve s.db) :
    PointsElsewhere x wi ve db' := by
  obtain ⟨row, ht, hw, hp⟩ := hel
  rcases hg with ⟨e, he⟩ | hsi
  · by_cases ho : x = e.sourceId
    · subst ho
      have hc := he.commit
      obtain ⟨r', ht', hw', hm⟩ := hc.step.row ht
      refine ⟨r', ht', hw'.trans hw, ?_⟩
      rcases hm with hk | ⟨v, hh, hna, hf⟩
      · rw [hk]
        exact hp
      · rw [hna]
        rintro ⟨⟩
        obtain ⟨w, hha, hn⟩ := hpu
        have hs := version_unique hc.keyed (hc.versions w hha) (mem_graph_versions.mp hh).1 hn
        subst hs
        exact hf w (mem_graph_versions.mpr ⟨hha, (mem_graph_versions.mp hh).2⟩) rfl
    · exact ⟨row, by rw [he.commit.others ho]; exact ht, hw, hp⟩
  · exact ⟨row, by rw [hsi.graph]; exact ht, hw, hp⟩

/-- A stale base is not current in any state between the call and the answer. -/
theorem stale_later {command : UpdateSourceVersion} {now : Db}
    (hs : StaleBase command born.db now) (hl : Rely (rules env strict) .none born s)
    (inv : StoreInv env s) (hgr : Grows s.db now) :
    PointsElsewhere command.sourceId command.workspaceId command.baseVersionId s.db := by
  obtain ⟨row, ht, hw, hpo, hp | hu⟩ := hs
  · refine (Rely.stable (fun t => (∃ v ∈ t.db.versions, v.sourceVersionId = command.baseVersionId) ∧
      PointsElsewhere command.sourceId command.workspaceId command.baseVersionId t.db) ?_ hl
      ⟨hp, row, ht, hw, hpo⟩).2
    rintro a b hst ⟨⟨v, hh, hn⟩, he⟩
    cases hst with
    | draw => exact ⟨⟨v, hh, hn⟩, he⟩
    | commit ca o' _ _ _ hg =>
      exact ⟨⟨v, (StoreGuar.grows hg).versions v hh, hn⟩, pointsElsewhere_commit hg ⟨v, hh, hn⟩ he⟩
  · obtain ⟨r', ht', hw'⟩ := row_later hl ht
    refine ⟨r', ht', hw'.trans hw, fun hc => ?_⟩
    rcases (inv.history command.sourceId).current with hb | ⟨r'', hcu⟩
    · rw [hb] at ht'
      cases ht'
    · obtain ⟨v, hh, hna⟩ := hcu.pointer
      rw [hcu.row_eq ht', hna] at hc
      exact hu v (hgr.versions v (mem_graph_versions.mp hh).1) (Option.some.inj hc)

/-! ## The replay lookup -/

section Identity

variable {command : SourceVersionCommand} {db : Db}

theorem resolveIdentity_found {r : SourceVersionPublicationResult}
    (hr : resolveIdentity db command (env.fingerprint command) = .ok (some r)) :
    ∃ e, PublicationEvent env command db e ∧
      hydrateReplayResult (db.replayRow e) command = some r := by
  unfold resolveIdentity at hr
  split at hr
  next e hf =>
    split at hr
    · cases hr
    next he =>
      rw [not_or, not_not, not_not] at he
      split at hr
      next hh =>
        cases hr
        have hn := List.find?_some hf
        simp only [decide_eq_true_eq] at hn
        exact ⟨e, ⟨List.mem_of_find?_eq_some hf, hn.1, hn.2, he.1, he.2⟩, hh⟩
      · cases hr
  next => split at hr <;> cases hr

theorem resolveIdentity_absent {f : RequestFingerprint}
    (hr : resolveIdentity db command f = .ok none) : Unidentified command db := by
  unfold resolveIdentity at hr
  split at hr
  · split at hr
    · cases hr
    · split at hr <;> cases hr
  next hu =>
    split at hr
    · cases hr
    next hun =>
      intro e ht
      rw [Db.eventById, Option.not_isSome_iff_eq_none, List.find?_eq_none] at hun
      rw [Db.eventByKey, List.find?_eq_none] at hu
      exact ⟨by simpa using hun e ht, by simpa using hu e ht⟩

theorem event_unique (hk : Keyed db) {a b : SyncEvent} (hh : a ∈ db.events)
    (hha : b ∈ db.events) (he : a.eventId = b.eventId) : a = b := by
  have hf (e : SyncEvent) (hm : e ∈ db.events) (hn : e.eventId = b.eventId) :
      db.events.find? (fun e => e.eventId = b.eventId) = some e :=
    find?_unique hk.events hm (by simp [hn]) (fun x y ha hb => ha.1 (by simp_all))
  exact Option.some.inj ((hf a hh he).symm.trans (hf b hha rfl))

/-- A refusal by identity: the key or the event is in use, and by no event whose result the
command could be given. -/
theorem resolveIdentity_refused {rn : PendingRejection} (hke : Keyed db)
    (hr : resolveIdentity db command (env.fingerprint command) = .error rn) :
    ¬Unidentified command db ∧ (∀ e, PublicationEvent env command db e →
      hydrateReplayResult (db.replayRow e) command = none) ∧
    (IdentityTaken env command db →
      rn.error = .idempotencyMismatch ∨ rn.error = .eventIdentityMismatch) := by
  unfold resolveIdentity at hr
  split at hr
  next e hf =>
    have hn := (eventByKey_eq_some hke).mp hf
    have hk {x : SyncEvent} (ht : x ∈ db.events) (hw : x.workspaceId = command.workspaceId)
        (key : x.idempotencyKey = command.idempotencyKey) : x = e := by
      have ha := (eventByKey_eq_some hke).mpr ⟨ht, hw, key⟩
      rw [hf] at ha
      exact (Option.some.inj ha).symm
    refine ⟨fun hfr => (hfr e hn.1).2 hn.2, fun x he => ?_, ?_⟩
    · have hs : x = e := hk he.stands he.workspace he.key
      subst hs
      rw [if_neg (by simp [he.event, he.fingerprint])] at hr
      split at hr
      · cases hr
      next hh => exact hh
    · rintro ⟨x, ht, hho, ho⟩
      split at hr
      · cases hr
        exact .inl rfl
      next own =>
        rw [not_or, not_not, not_not] at own
        have he : PublicationEvent env command db e := ⟨hn.1, hn.2.1, hn.2.2, own.1, own.2⟩
        have hs : x = e := by
          rcases hho with ⟨hw, key⟩ | hev
          · exact hk ht hw key
          · exact event_unique hke ht hn.1 (hev.trans own.1.symm)
        exact absurd (hs ▸ he) ho
  next hu =>
    split at hr
    next hta =>
      cases hr
      obtain ⟨e, hf⟩ := Option.isSome_iff_exists.mp hta
      refine ⟨fun hfr => (hfr e (List.mem_of_find?_eq_some hf)).1
        (by simpa using List.find?_some hf), fun x he => ?_, fun _ => .inr rfl⟩
      rw [(eventByKey_eq_some hke).mpr ⟨he.stands, he.workspace, he.key⟩] at hu
      cases hu
    · cases hr

variable {e : SyncEvent} {c' : SourceVersionCommand}

/-- A publication event of a collision-free world is that of the very request. -/
theorem author_of_publication (hf : env.CollisionFree) (inv : StoreInv env s)
    (he : PublicationEvent env command s.db e) :
    ∃ request : PublicationRequest, Publishes env request.command e ∧
      requestEnvelope request.command = requestEnvelope command ∧
      (StoreCall.publication request).Trusted env := by
  obtain ⟨a, ha, ht⟩ := inv.authored e he.stands
  have hs := he.fingerprint
  cases a with
  | publication request =>
    refine ⟨request, ha, hf.publication ?_, ht⟩
    obtain ⟨c, _, _⟩ := request
    cases c with
    | create c =>
      obtain ⟨n, v, rfl⟩ := ha
      exact hs
    | update c =>
      obtain ⟨n, v, rfl⟩ := ha
      exact hs
  | lifecycle ca =>
    obtain ⟨v, n, rfl⟩ := ha
    exact absurd hs.symm (hf.lifecycle _ _)
  | capture request =>
    obtain ⟨x, n, rfl⟩ := ha
    exact absurd hs.symm (hf.capture _ _)
  | resolve request =>
    obtain ⟨co, x, v, n, rfl⟩ := ha
    exact absurd hs.symm (hf.resolution _ _)
  | manifest _ | device _ => exact ha.elim

theorem requestEnvelope_same (he : requestEnvelope c' = requestEnvelope command) :
    c'.workspaceId = command.workspaceId ∧ c'.sourceId = command.sourceId ∧
      c'.actor = command.actor := by
  cases c' with
  | create c =>
    cases command with
    | create d =>
      simp only [requestEnvelope, RequestEnvelope.create.injEq] at he
      exact ⟨he.1, he.2.1, he.2.2.2.1⟩
    | update d => cases he
  | update c =>
    cases command with
    | create d => cases he
    | update d =>
      simp only [requestEnvelope, RequestEnvelope.update.injEq] at he
      exact ⟨he.1, he.2.1, he.2.2.2.1⟩

/-- The event of a publication is one of its workspace and source, with an outcome. -/
theorem Publishes.classified (hp : Publishes env c' e) :
    e.workspaceId = c'.workspaceId ∧ e.sourceId = c'.sourceId ∧
      (∃ id, e.committedVersionId = some id) ∧
      ∃ oc, classifyReplay e.eventType e.baseVersionId e.committedVersionId = some oc := by
  cases c' with
  | create c =>
    obtain ⟨n, v, rfl⟩ := hp
    exact ⟨rfl, rfl, ⟨v, rfl⟩, .published, rfl⟩
  | update c =>
    obtain ⟨n, v, rfl⟩ := hp
    refine ⟨rfl, rfl, ⟨v, rfl⟩, ?_⟩
    by_cases hr : v = c.baseVersionId
    · exact ⟨.noChange, by simp [classifyReplay, updateEvent, hr]⟩
    · exact ⟨.published, by simp [classifyReplay, updateEvent, hr]⟩

theorem hydrates_of_author (inv : StoreInv env s) (ht : e ∈ s.db.events) (hp : Publishes env c' e)
    (he : requestEnvelope c' = requestEnvelope command) :
    ∃ r, hydrateReplayResult (s.db.replayRow e) command = some r := by
  obtain ⟨hw, source, ⟨id, hc⟩, oc, hcl⟩ := hp.classified
  obtain ⟨hs, hsa, _⟩ := requestEnvelope_same he
  have hi : e ∈ (s.db.graph e.sourceId).events := List.mem_filter.mpr ⟨ht, by simp⟩
  rcases (inv.history e.sourceId).current with hb | ⟨row, hcu⟩
  · rw [hb] at hi
    cases hi
  · obtain ⟨ho, hst⟩ := hcu.events e hi
    obtain ⟨v, hha, hn⟩ := hst id hc
    obtain ⟨hv, hvs, hpo⟩ := hcu.versions v hha
    have hin := (mem_graph_versions.mp hha).1
    obtain ⟨object, hh, hob⟩ := inv.keyed.stored v hin
    exact ⟨⟨e.sourceId, v.sourceVersionId, v.contentVersion, e.eventId, e.eventSequence,
        object.contentHash, oc⟩, (hydrateReplayResult_eq_some inv.keyed).mpr ⟨v, object,
      ⟨hin, hv.trans ho.symm, hvs⟩, by rw [hc, hn],
      ⟨hh, hob⟩, hw.trans hs, source.trans hsa,
      ⟨(inv.numbered e ht).1, hpo⟩, hcl, rfl⟩⟩

end Identity

/-! ## Answers -/

section Answers

variable {request : PublicationRequest}

theorem publicationEvent_later {e : SyncEvent} {r : SourceVersionPublicationResult}
    (inv : StoreInv env s) (ho : Rely (rules env strict) o s s')
    (he : PublicationEvent env request.command s.db e)
    (hh : hydrateReplayResult (s.db.replayRow e) request.command = some r) :
    PublicationEvent env request.command s'.db e ∧
      hydrateReplayResult (s'.db.replayRow e) request.command = some r := by
  have hg := grows_of_rely ho
  have hi' : StoreInv env s' := Rely.inv ho inv
  exact ⟨{ he with stands := hg.events e he.stands }, hg.hydrates inv.keyed hi'.keyed hh⟩

theorem answerOk_safe {e : SyncEvent} {r : SourceVersionPublicationResult}
    (inv : StoreInv env s) (he : PublicationEvent env request.command s.db e)
    (hh : hydrateReplayResult (s.db.replayRow e) request.command = some r) :
    Safe (rules env strict) (.publication request) born (answerPublication (.ok r)) o s := by
  intro s' ho _
  obtain ⟨he', hh'⟩ := publicationEvent_later inv ho he hh
  exact ⟨e, he', hh'⟩

/-- An error that is good whatever else is committed later. -/
def Refuses (env : Environment) (request : PublicationRequest) (born : Snapshot Db) (db : Db)
    (error : PublicationError) : Prop :=
  ∀ now, Grows db now → GoodPublication env request born.db now (.error error)

variable {error : PublicationError} {rn : PendingRejection}

theorem Refuses.later {db db' : Db} (hr : Refuses env request born db error) (hg : Grows db db') :
    Refuses env request born db' error :=
  fun now hl => hr now (hg.trans hl)

theorem answerError_safe (hr : Refuses env request born s.db error) :
    Safe (rules env strict) (.publication request) born (answerPublication (.error error)) o s :=
  fun _ ho _ => hr _ (grows_of_rely ho)

theorem refuses_retryable (hr : error.isRetryable = true) (db : Db) :
    Refuses env request born db error :=
  fun _ _ => ⟨fun _ _ => .inl hr, fun _ _ _ _ => .inl hr, fun _ => .inl hr⟩

/-- A lookup that lets a request go on has found no other request under its identity. -/
theorem untaken_of_resolved (inv : StoreInv env s) (hl : Rely (rules env strict) .none born s)
    {f : Option SourceVersionPublicationResult}
    (hr : resolveIdentity s.db request.command (env.fingerprint request.command) =
      .ok f) : ¬IdentityTaken env request.command born.db := by
  rintro ⟨e, stands, hh, hot⟩
  have has := (grows_of_rely hl).events e stands
  have ho : ¬PublicationEvent env request.command s.db e := fun he => hot { he with stands }
  cases f with
  | none =>
    have hf := resolveIdentity_absent hr e has
    exact hh.elim hf.2 hf.1
  | some r =>
    obtain ⟨x, he, _⟩ := resolveIdentity_found hr
    have hs : e = x := by
      rcases hh with ⟨hw, key⟩ | hev
      · have hhe := (eventByKey_eq_some inv.keyed).mpr ⟨has, hw, key⟩
        have ht := (eventByKey_eq_some inv.keyed).mpr ⟨he.stands, he.workspace, he.key⟩
        exact Option.some.inj (hhe.symm.trans ht)
      · exact event_unique inv.keyed has he.stands (hev.trans he.event.symm)
    exact ho (hs ▸ he)

theorem refuses_denied (hd : request.Denied)
    (hu : ¬IdentityTaken env request.command born.db) (db : Db) :
    Refuses env request born db .policyDenied :=
  fun _ _ => ⟨fun _ _ => .inr ⟨rfl, hd⟩, fun _ _ _ _ => .inr (.inl ⟨rfl, hd⟩),
    fun ht => absurd ht hu⟩

theorem refuses_untrusted (inv : StoreInv env s) (hl : Rely (rules env strict) .none born s)
    (hu : ¬(StoreCall.publication request).Trusted env) :
    Refuses env request born s.db .inputInvalid := by
  refine fun now _ => ⟨fun hf ⟨e, he⟩ => ?_, fun _ _ _ _ => .inr (.inr (.inl ⟨rfl, hu⟩)),
    fun _ => .inr (.inr (.inr ⟨rfl, hu⟩))⟩
  have he' : PublicationEvent env request.command s.db e :=
    { he with stands := (grows_of_rely hl).events e he.stands }
  obtain ⟨a, _, hs, ht⟩ := author_of_publication hf inv he'
  obtain ⟨hw, _, ha⟩ := requestEnvelope_same hs
  simp only [StoreCall.Trusted, hw, ha] at ht
  exact absurd ht hu

theorem refuses_identity (inv : StoreInv env s) (hl : Rely (rules env strict) .none born s)
    (hr : resolveIdentity s.db request.command (env.fingerprint request.command) = .error rn) :
    Refuses env request born s.db rn.error := by
  obtain ⟨hi, hun, hm⟩ := resolveIdentity_refused inv.keyed hr
  refine fun now hg => ⟨fun hf ⟨e, he⟩ => ?_, fun _ _ _ hu => ?_, ?_⟩
  · have he' : PublicationEvent env request.command s.db e :=
      { he with stands := (grows_of_rely hl).events e he.stands }
    obtain ⟨a, hp, hs, _⟩ := author_of_publication hf inv he'
    obtain ⟨r, hh⟩ := hydrates_of_author inv he'.stands hp hs
    rw [hun e he'] at hh
    cases hh
  · exact absurd (fun e stands => hu e (hg.events e stands)) hi
  · rintro ⟨e, stands, hho, ho⟩
    have has := (grows_of_rely hl).events e stands
    have ht : IdentityTaken env request.command s.db :=
      ⟨e, has, hho, fun he => ho { he with stands }⟩
    exact (hm ht).elim (fun is => .inr (.inl is)) fun is => .inr (.inr (.inl is))

theorem auditAndRaise_safe {hoe : Failure → StoreProgram}
    (hla : Rely (rules env strict) .none born s) (hf : ∀ f,
      SafeAfter (rules env strict) (.publication request) born (hoe f))
    (hr : Refuses env request born s.db rn.error) :
    Safe (rules env strict) (.publication request) born
      (auditAndRaise request.command hoe rn) .none s := by
  refine writeRejectionAudit_safe (fun t ho inv f => hf f t (hla.trans ho) inv)
    (fun _ _ _ hl => by cases hl) fun t ho _ => ?_
  exact answerError_safe (hr.later (grows_of_rely ho))

/-- The rollback of a rejected transaction with the audit and the error after it. -/
theorem abortRejected_safe {hoe : Failure → StoreProgram} (hn : o.notes = [])
    (hl : Rely (rules env strict) .none born s) (hf : ∀ f,
      SafeAfter (rules env strict) (.publication request) born (hoe f))
    (hre : Refuses env request born s.db rn.error) :
    Safe (rules env strict) (.publication request) born
      (abortRejected request.command hoe rn) o s := by
  refine Safe.rollback fun s' ho _ => ?_
  have hr : o.released = Own.none := by
    rw [Own.released, hn]
    rfl
  rw [hr]
  exact auditAndRaise_safe (hl.trans ho.toNone) hf (hre.later (grows_of_rely ho))

end Answers

/-! ## The transition -/

/-- A publication behind its locks, whose key is free. -/
structure AtTransition (env : Environment) (strict : Prop) (request : PublicationRequest)
    (o : StoreOwn) (born s : Snapshot Db) : Prop where
  idempotency :
    idempotencyLock env.word request.command.workspaceId request.command.idempotencyKey ∈ o.locks
  policy : .policyStateRow request.command.workspaceId ∈ o.locks
  source : sourceLock env.word request.command.sourceId ∈ o.locks
  drawn : o.drawn = []
  notes : o.notes = []
  later : Rely (rules env strict) .none born s
  inv : StoreInv env s
  trusted : (StoreCall.publication request).Trusted env
  fresh : ∀ e ∈ s.db.events, ¬(e.workspaceId = request.command.workspaceId ∧
    e.idempotencyKey = request.command.idempotencyKey)
  untaken : ¬IdentityTaken env request.command born.db

section Transition

variable {request : PublicationRequest} {hoe : Failure → StoreProgram}

theorem AtTransition.move (hst : AtTransition env strict request o born s)
    (ho : Rely (rules env strict) o s s') (inv : StoreInv env s') :
    AtTransition env strict request o born s' :=
  { hst with
    later := hst.later.trans ho.toNone
    inv := inv
    fresh := fun e ht he => hst.fresh e
      ((frozen_key hst.idempotency ho he.1 he.2).mp ht) he }

theorem AtTransition.withLock (hst : AtTransition env strict request o born s)
    (l : LockName) : AtTransition env strict request (o.withLock l) born s :=
  { hst with
    idempotency := List.mem_cons_of_mem _ hst.idempotency
    policy := List.mem_cons_of_mem _ hst.policy
    source := List.mem_cons_of_mem _ hst.source }

/-- With the key free the request replays nothing; what is left is a stale base. -/
theorem AtTransition.refuses {error : PublicationError} {db : Db}
    (hst : AtTransition env strict request o born s)
    (hse : ∀ command, request.command = .update command → ∀ now, Grows db now →
      StaleBase command born.db now → error = .sourceStateInvalid .deleted ∨
        ∃ c ol, error = .versionConflict c ol ∧ c ≠ command.baseVersionId) :
    Refuses env request born db error := by
  refine fun now hl => ⟨fun _ ⟨e, he⟩ => ?_, fun command hu hs _ =>
    .inr (.inr (.inr (hse command hu now hl hs))),
    fun ht => absurd ht hst.untaken⟩
  exact absurd ⟨he.workspace, he.key⟩ (hst.fresh e ((grows_of_rely hst.later).events e he.stands))

/-- The writes of a transition commit the request's event, or are refused for a reason that is
good whatever else is committed. -/
theorem commitPublication_safe {w : Db → PublicationWrites}
    (hst : AtTransition env strict request o born s)
    (hf : ∀ f, SafeAfter (rules env strict) (.publication request) born (hoe f))
    (hot : Rely (rules env strict) (o.withNumber s.sequence) ⟨s.db, s.sequence + 1⟩ s')
    (hco : ∀ t db r, Rely (rules env strict) (o.withNumber s.sequence) ⟨s.db, s.sequence + 1⟩ t →
      StoreInv env t → w t.db = .ok (db, r) →
        ∃ e, CommitOf e t.db db ∧ e.eventSequence = s.sequence ∧ Publishes env request.command e ∧
          hydrateReplayResult (db.replayRow e) request.command = some r)
    (hr : ∀ db error, Grows s.db db → Refuses env request born db error) :
    Safe (rules env strict) (.publication request) born
      (commitPublication request.command hoe w) (o.withNumber s.sequence) s' := by
  have hl : Rely (rules env strict) .none born s' := (Rely.own_draw hst.later).trans hot.toNone
  have hgr := grows_of_rely hot
  refine Safe.commitOrAbort ?_ ?_
  · intro t db r ho' inv hwr
    have ho := hot.trans ho'
    obtain ⟨e, hc, hn, hp, hh⟩ := hco t db r ho inv hwr
    obtain ⟨hw, source, _, _⟩ := hp.classified
    have hi : e.idempotencyKey = request.command.idempotencyKey ∧
        e.eventId = request.command.eventId ∧
        e.requestFingerprint = env.fingerprint request.command ∧
        e.eventType.isConflict = false := by
      revert hp
      cases request.command with
      | create c =>
        rintro ⟨n, v, rfl⟩
        exact ⟨rfl, rfl, rfl, rfl⟩
      | update c =>
        rintro ⟨n, v, rfl⟩
        exact ⟨rfl, rfl, rfl, rfl⟩
    have hg : StoreGuar env strict (.publication request) (o.withNumber s.sequence) t db :=
      .inl ⟨e, eventCommit_of hst.inv ho hc hn hp hst.trusted (by rw [source]; exact hst.source)
        (by rw [hw, hi.1]; exact hst.idempotency)
        (fun _ => by rw [hw]; exact hst.policy)
        (conflicts_still hc hi.2.2.2)⟩
    have hi' : StoreInv env ⟨db, t.sequence⟩ := StoreInv.commit inv (drawn_behind hst.drawn ho) hg
    refine ⟨hg, answerOk_safe hi' ⟨?_, hw, hi.1, hi.2.1, hi.2.2.1⟩ hh⟩
    rw [hc.events]
    simp
  · intro t re ho' _ _
    have hg' : Grows s.db t.db := hgr.trans (grows_of_rely ho')
    have hre : (o.withNumber s.sequence).released = Own.none := by
      simp [Own.released, Own.withNumber, hst.notes, Own.none]
    cases re with
    | constraint => exact answerError_safe (hr t.db _ hg')
    | rejected rn =>
      rw [hre]
      exact auditAndRaise_safe (hl.trans (Rely.toNone ho')) hf (hr t.db _ hg')

theorem createTransition_safe {command : CreateSourceVersion}
    (hc : request.command = .create command)
    (hst : AtTransition env strict request o born s)
    (hf : ∀ f, SafeAfter (rules env strict) (.publication request) born (hoe f)) :
    Safe (rules env strict) (.publication request) born
      (createTransition env command request.identities hoe) o s := by
  have hr {t : Snapshot Db} (hst : AtTransition env strict request o born t) (db : Db)
      (error : PublicationError) : Refuses env request born db error :=
    hst.refuses fun _ hu => by rw [hc] at hu; cases hu
  have ha {t : Snapshot Db} (o' : StoreOwn) (rn : PendingRejection)
      (hst : AtTransition env strict request o born t) (hn : o'.notes = [])
      {t' : Snapshot Db} (hl : Rely (rules env strict) .none born t') :
      Safe (rules env strict) (.publication request) born
        (abortRejected (.create command) hoe rn) o' t' := by
    rw [← hc]
    exact abortRejected_safe hn hl hf (hr hst _ _)
  unfold createTransition
  refine Safe.read fun s₁ ho₁ hi₁ => ?_
  have hst₁ := hst.move ho₁ hi₁
  split
  · exact ha o _ hst₁ hst₁.notes hst₁.later
  refine Safe.read fun s₂ ho₂ hi₂ => ?_
  have hst₂ := hst₁.move ho₂ hi₂
  split
  · exact ha o _ hst₂ hst₂.notes hst₂.later
  refine Safe.draw fun s₃ ho₃ hi₃ => ?_
  have hst₃ := hst₂.move ho₃ hi₃
  refine Safe.read fun s₄ ho₄ _ => ?_
  split
  · exact ha (o.withNumber s₃.sequence) _ hst₃ hst₃.notes
      ((Rely.own_draw hst₃.later).trans (Rely.toNone ho₄))
  rw [← hc]
  refine commitPublication_safe hst₃ hf ho₄ ?_ fun db error _ => hr hst₃ db error
  intro t db r _ inv hw
  have hco := createWrites_commit inv.keyed hw
  rw [hc] at hco ⊢
  exact ⟨_, hco, rfl, ⟨_, _, rfl⟩, createWrites_result inv.keyed hi₃.started (hc ▸ hw)⟩

section Update

variable {command : UpdateSourceVersion}

/-- An update whose base is current has no stale base, so any refusal of it is good. -/
theorem AtTransition.refuses_current {row : Source} {error : PublicationError} {db : Db}
    (hu : request.command = .update command)
    (hst : AtTransition env strict request o born s)
    (ht : (s.db.graph command.sourceId).rows = [row])
    (hp : row.currentVersionId = some command.baseVersionId) (hg : Grows s.db db) :
    Refuses env request born db error := by
  refine hst.refuses fun c' hu' now hl hs => ?_
  rw [hu] at hu'
  cases hu'
  obtain ⟨r', ht', _, he⟩ := stale_later hs hst.later hst.inv (hg.trans hl)
  rw [ht] at ht'
  cases ht'
  exact absurd hp he

structure LockedCurrent (command : UpdateSourceVersion) (current : SourceVersion)
    (object : ContentObject) (source : Source) (db : Db) : Prop where
  stands : (db.graph command.sourceId).rows = [source]
  workspace : source.workspaceId = command.workspaceId
  live : source.syncState ≠ .deleted
  pointer : source.currentVersionId = some current.sourceVersionId
  version : db.versionWithObject command.workspaceId command.sourceId current.sourceVersionId =
    some (current, object)

theorem versionWithObject_later {wi : WorkspaceId} {x : SourceId}
    {id : SourceVersionId} {f : SourceVersion × ContentObject} (inv : StoreInv env s)
    (hi' : StoreInv env s') (hg : Grows s.db s'.db)
    (ht : s.db.versionWithObject wi x id = some f) :
    s'.db.versionWithObject wi x id = some f := by
  obtain ⟨v, hv, hp⟩ := Option.bind_eq_some_iff.mp ht
  obtain ⟨object, ho, rfl⟩ := Option.map_eq_some_iff.mp hp
  obtain ⟨hi, hr⟩ := (version_eq_some inv.keyed).mp hv
  obtain ⟨hs, hn⟩ := (object_eq_some inv.keyed).mp ho
  rw [Db.versionWithObject,
    (version_eq_some hi'.keyed).mpr ⟨hg.versions v hi, hr⟩, Option.bind_some,
    (object_eq_some hi'.keyed).mpr ⟨hg.objects object hs, hn⟩, Option.map_some]

variable {object : ContentObject} {source : Source}

theorem LockedCurrent.later {c : SourceVersion}
    (hl : LockedCurrent command c object source s.db) (inv : StoreInv env s)
    (hi' : StoreInv env s') (hg : Grows s.db s'.db)
    (hf : s'.db.graph command.sourceId = s.db.graph command.sourceId) :
    LockedCurrent command c object source s'.db :=
  { hl with
    stands := hf ▸ hl.stands
    version := versionWithObject_later inv hi' hg hl.version }

theorem LockedCurrent.current {c : SourceVersion}
    (hl : LockedCurrent command c object source s.db) (inv : StoreInv env s) :
    c ∈ (s.db.graph command.sourceId).versions ∧ 1 ≤ c.contentVersion := by
  obtain ⟨v, hv, hp⟩ := Option.bind_eq_some_iff.mp hl.version
  obtain ⟨_, _, hpa⟩ := Option.map_eq_some_iff.mp hp
  cases hpa
  obtain ⟨hin, _, ho, _⟩ := (version_eq_some inv.keyed).mp hv
  have hi := mem_graph_versions.mpr ⟨hin, ho⟩
  rcases (inv.history command.sourceId).current with hb | ⟨row, hc⟩
  · rw [hb] at hi
    cases hi
  · exact ⟨hi, (hc.versions c hi).2.2⟩

theorem updateFromCurrent_safe {c : SourceVersion} (hu : request.command = .update command)
    (hst : AtTransition env strict request o born s) (hf : ∀ f,
      SafeAfter (rules env strict) (.publication request) born (hoe f))
    (hlo : LockedCurrent command c object source s.db) :
    Safe (rules env strict) (.publication request) born
      (updateFromCurrent env command request.identities hoe c object) o s := by
  have hh : sourceLock env.word command.sourceId ∈ o.locks := by
    have source := hst.source
    rwa [hu] at source
  have ha {t : Snapshot Db} {rn : PendingRejection} (hst : AtTransition env strict request o born t)
      (hr : Refuses env request born t.db rn.error) :
      Safe (rules env strict) (.publication request) born
        (abortRejected (.update command) hoe rn) o t := by
    rw [← hu]
    exact abortRejected_safe hst.notes hst.later hf hr
  unfold updateFromCurrent
  split
  next hbl =>
    have := (hlo.current hst.inv).2
    omega
  split
  next hs =>
    refine ha hst (hst.refuses fun c' hu' _ _ _ => ?_)
    rw [hu] at hu'
    cases hu'
    exact .inr ⟨_, _, rfl, Ne.symm hs⟩
  next hb =>
    rw [not_not] at hb
    have hr {t : Snapshot Db} (hst : AtTransition env strict request o born t)
        (hlo : LockedCurrent command c object source t.db) (db : Db)
        (error : PublicationError) (hg : Grows t.db db) : Refuses env request born db error :=
      hst.refuses_current hu hlo.stands (hb ▸ hlo.pointer) hg
    -- under the source's lock the current version is still the locked one at commit
    have hon {t t' : Snapshot Db}
        (hlo : LockedCurrent command c object source t.db) (inv : StoreInv env t)
        (ho : Rely (rules env strict) (o.withNumber t.sequence) ⟨t.db, t.sequence + 1⟩ t')
        (hi' : StoreInv env t') : LockedCurrent command c object source t'.db := by
      have hh' : sourceLock env.word command.sourceId ∈ (o.withNumber t.sequence).locks := hh
      have hfr := frozen_source hh' ho
      have hg := grows_of_rely ho
      exact hlo.later inv hi' hg hfr
    split
    next hm =>
      refine Safe.draw fun s₁ ho₁ hi₁ => ?_
      have hst₁ := hst.move ho₁ hi₁
      have hl₁ := hlo.later hst.inv hi₁ (grows_of_rely ho₁) (frozen_source hh ho₁)
      rw [← hu]
      refine commitPublication_safe hst₁ hf .refl ?_ (hr hst₁ hl₁)
      intro t db r ho inv hw
      have hl := hon hl₁ hi₁ ho inv
      refine ⟨_, noChangeWrites_commit inv.keyed hl.stands hl.workspace hl.live
        hl.pointer hw, rfl, ?_, ?_⟩
      · rw [hu]
        exact ⟨_, _, by rw [hb]⟩
      · rw [hu] at hw ⊢
        exact noChangeWrites_result inv.keyed hi₁.started hl.version (hl.current inv).2 hm hw
    refine Safe.read fun s₁ ho₁ hi₁ => ?_
    have hst₁ := hst.move ho₁ hi₁
    have hl₁ := hlo.later hst.inv hi₁ (grows_of_rely ho₁) (frozen_source hh ho₁)
    split
    · exact ha hst₁ (hr hst₁ hl₁ _ _ (Grows.refl _))
    refine Safe.draw fun s₂ ho₂ hi₂ => ?_
    have hst₂ := hst₁.move ho₂ hi₂
    have hl₂ := hl₁.later hi₁ hi₂ (grows_of_rely ho₂) (frozen_source hh ho₂)
    rw [← hu]
    refine commitPublication_safe hst₂ hf .refl ?_ (hr hst₂ hl₂)
    intro t db r ho inv hw
    have hl := hon hl₂ hi₂ ho inv
    refine ⟨_, changedWrites_commit inv.keyed hl.stands hl.workspace hl.live
      hl.pointer (hl.current inv).1 hb hw, rfl, ?_, ?_⟩
    · rw [hu]
      exact ⟨_, _, rfl⟩
    · rw [hu] at hw ⊢
      exact changedWrites_result inv.keyed hi₂.started hl.stands hl.workspace
        hl.live hl.pointer (hl.current inv).1 hb hw

theorem updateTransition_safe (hu : request.command = .update command)
    (hst : AtTransition env strict request o born s)
    (hfa : ∀ f, SafeAfter (rules env strict) (.publication request) born (hoe f)) :
    Safe (rules env strict) (.publication request) born
      (updateTransition env command request.identities hoe) o s := by
  have hhe : sourceLock env.word command.sourceId ∈ o.locks := by
    have source := hst.source
    rwa [hu] at source
  -- what a stale base knows of the source in a state of the transition
  have hse {t : Snapshot Db} {o' : StoreOwn}
      (hst : AtTransition env strict request o' born t) {error : PublicationError}
      (hal : PointsElsewhere command.sourceId command.workspaceId command.baseVersionId t.db →
        error = .sourceStateInvalid .deleted ∨
        ∃ c ol, error = .versionConflict c ol ∧ c ≠ command.baseVersionId) :
      Refuses env request born t.db error := by
    refine hst.refuses fun c' hu' now hl hs => ?_
    rw [hu] at hu'
    cases hu'
    exact hal (stale_later hs hst.later hst.inv hl)
  have ha {t : Snapshot Db} {o' : StoreOwn} {rn : PendingRejection}
      (hst : AtTransition env strict request o' born t)
      (hr : Refuses env request born t.db rn.error) :
      Safe (rules env strict) (.publication request) born
        (abortRejected (.update command) hoe rn) o' t := by
    rw [← hu]
    exact abortRejected_safe hst.notes hst.later hfa hr
  have hm {t : Snapshot Db} {o' : StoreOwn} (hst : AtTransition env strict request o' born t)
      (hn : t.db.sourceInWorkspace command.workspaceId command.sourceId = none) :
      Safe (rules env strict) (.publication request) born
        (abortRejected (.update command) hoe ⟨some "source_not_found", .sourceNotFound⟩)
        o' t := by
    refine ha hst (hse hst fun ⟨row, ht, hw, _⟩ => ?_)
    rw [(sourceInWorkspace_eq_some hst.inv.keyed).mpr ⟨ht, hw⟩] at hn
    cases hn
  unfold updateTransition
  refine Safe.selectForUpdate (fun s₁ ho₁ hi₁ hn => hm (hst.move ho₁ hi₁)
      hn) (fun s₁ _ ho₁ hi₁ hn =>
        hm ((hst.move ho₁ hi₁).withLock _) hn) ?_
  intro s₁ source row ho₁ hi₁ hfo
  have hst₁ := (hst.move ho₁ hi₁).withLock (.sourceRow command.sourceId)
  obtain ⟨ht, hw⟩ := (sourceInWorkspace_eq_some hi₁.keyed).mp hfo
  obtain hb | ⟨so', hc⟩ := (hi₁.history command.sourceId).current
  · rw [hb] at ht
    cases ht
  have he := hc.row_eq ht
  subst he
  split
  next hf =>
    refine ha hst₁ (hse hst₁ fun _ => .inl ?_)
    rcases hc.state with hac | hd
    · simp [hac, updateableSourceState] at hf
    · rw [hd]
  next hup =>
    have hli : source.syncState ≠ .deleted := fun hd => by
      simp [hd, updateableSourceState] at hup
    obtain ⟨v, hh, hpo⟩ := hc.pointer
    simp only [hpo]
    -- the pointer's version stands with its object wherever the others lead
    have hpr {t : Snapshot Db} (inv : StoreInv env t)
        (hf : t.db.graph command.sourceId = s₁.db.graph command.sourceId) :
        ∃ object, t.db.versionWithObject command.workspaceId command.sourceId v.sourceVersionId =
          some (v, object) := by
      rw [← hf] at hh
      obtain ⟨hi, ho⟩ := mem_graph_versions.mp hh
      obtain ⟨object, hsd, hna⟩ := inv.keyed.stored v hi
      rw [hf] at hh
      refine ⟨object, ?_⟩
      rw [Db.versionWithObject, (version_eq_some inv.keyed).mpr ⟨hi,
        (hc.versions v hh).1.trans hw, ho, rfl⟩, Option.bind_some,
        (object_eq_some inv.keyed).mpr ⟨hsd, hna⟩, Option.map_some]
    have hh₁ : sourceLock env.word command.sourceId ∈
        (o.withLock (.sourceRow command.sourceId)).locks := List.mem_cons_of_mem _ hhe
    refine Safe.selectForUpdate ?_ ?_ ?_
    · intro s₂ ho₂ hi₂ hn
      obtain ⟨object, hfo⟩ := hpr hi₂ (frozen_source hh₁ ho₂)
      rw [hfo] at hn
      cases hn
    · intro s₂ _ ho₂ hi₂ hn
      obtain ⟨object, hfo⟩ := hpr hi₂ (frozen_source hh₁ ho₂)
      rw [hfo] at hn
      cases hn
    · intro s₂ hfo lr ho₂ hi₂ hfd
      have hf := frozen_source hh₁ ho₂
      have hst₂ := (hst₁.move ho₂ hi₂).withLock (.versionRow command.sourceId lr.1.sourceVersionId)
      obtain ⟨object, hp⟩ := hpr hi₂ hf
      rw [hp] at hfd
      cases hfd
      refine Safe.lock fun s₃ ho₃ hi₃ => ?_
      have hh₂ : sourceLock env.word command.sourceId ∈ ((o.withLock
          (.sourceRow command.sourceId)).withLock
            (.versionRow command.sourceId lr.1.sourceVersionId)).locks :=
        List.mem_cons_of_mem _ hh₁
      have hl₂ : LockedCurrent command v object source s₂.db := ⟨hf ▸ ht, hw, hli, hpo, hp⟩
      exact updateFromCurrent_safe hu ((hst₂.move ho₃ hi₃).withLock _) hfa
        (hl₂.later hi₂ hi₃ (grows_of_rely ho₃) (frozen_source hh₂ ho₃))

end Update

theorem publicationTransition_safe (hst : AtTransition env strict request o born s) (hf : ∀ f,
      SafeAfter (rules env strict) (.publication request) born (hoe f)) :
    Safe (rules env strict) (.publication request) born
      (publicationTransition env request hoe) o s := by
  unfold publicationTransition
  cases hc : request.command with
  | create command => exact createTransition_safe hc hst hf
  | update command => exact updateTransition_safe hc hst hf

/-! ## The call -/

theorem runLockedTransition_safe (failing : ∀ failure,
      SafeAfter (rules env strict) (.publication request) born (hoe failure)) :
    SafeAfter (rules env strict) (.publication request) born
      (runLockedTransition env request hoe) := by
  intro s later inv
  unfold runLockedTransition
  refine Safe.begin later failing fun s₁ others₁ inv₁ => ?_
  refine Safe.lock fun s₂ others₂ inv₂ => ?_
  have later₂ : Rely (rules env strict) .none born s₂ := later.trans (others₁.trans others₂)
  split
  next inactive =>
    refine Safe.rollback fun s₃ others₃ inv₃ => ?_
    have later₃ := later₂.trans (Rely.toNone others₃)
    refine answerError_safe (refuses_untrusted inv₃ later₃ ?_)
    simp [StoreCall.Trusted, Bool.eq_false_iff.mpr (by simpa using inactive)]
  next active =>
  split
  next invalid =>
    refine abortRejected_safe rfl later₂ failing (refuses_untrusted inv₂ later₂ ?_)
    simp [StoreCall.Trusted, Bool.eq_false_iff.mpr (by simpa using invalid)]
  next valid =>
  refine Safe.read fun s₃ others₃ inv₃ => ?_
  have later₃ : Rely (rules env strict) .none born s₃ := later₂.trans (Rely.toNone others₃)
  split
  next rn resolved =>
    exact abortRejected_safe rfl later₃ failing (refuses_identity inv₃ later₃ resolved)
  next found resolved =>
    refine Safe.read fun s₄ others₄ inv₄ => Safe.lock fun s₅ others₅ inv₅ => ?_
    have later₅ : Rely (rules env strict) .none born s₅ :=
      later₃.trans (Rely.toNone (others₄.trans others₅))
    split
    next denied =>
      refine Safe.rollback fun s₆ others₆ _ => answerError_safe
        (refuses_denied ⟨s₄.db, ?_⟩ (untaken_of_resolved inv₃ later₃ resolved) _)
      simpa using denied
    next permitted =>
    split
    next result =>
      obtain ⟨e, isEvent, hydrated⟩ := resolveIdentity_found resolved
      refine Safe.rollback fun s₆ others₆ inv₆ => ?_
      have onward : Rely (rules env strict) .none s₃ s₆ :=
        (Rely.toNone (others₄.trans others₅)).trans (Rely.toNone others₆)
      obtain ⟨isEvent', hydrated'⟩ := publicationEvent_later inv₃ onward isEvent hydrated
      exact answerOk_safe inv₆ isEvent' hydrated'
    next =>
      refine Safe.lock fun s₆ others₆ inv₆ => ?_
      have unidentified := resolveIdentity_absent resolved
      -- the key stays free, for its lock is held since before the lookup
      have fresh : ∀ e ∈ s₆.db.events, ¬(e.workspaceId = request.command.workspaceId ∧
          e.idempotencyKey = request.command.idempotencyKey) := by
        intro e stands same
        have at₅ := (frozen_key (List.mem_cons_of_mem _ List.mem_cons_self) others₆ same.1
          same.2).mp stands
        have at₃ := (frozen_key List.mem_cons_self (others₄.trans others₅) same.1 same.2).mp at₅
        exact (unidentified e at₃).2 same
      have standing : AtTransition env strict request
          (((Own.none.withLock (idempotencyLock env.word request.command.workspaceId
            request.command.idempotencyKey)).withLock
              (.policyStateRow request.command.workspaceId)).withLock
                (sourceLock env.word request.command.sourceId)) born s₆ := {
        idempotency := List.mem_cons_of_mem _ (List.mem_cons_of_mem _ List.mem_cons_self)
        policy := List.mem_cons_of_mem _ List.mem_cons_self
        source := List.mem_cons_self
        drawn := rfl
        notes := rfl
        later := later₅.trans (Rely.toNone others₆)
        inv := inv₆
        trusted := ⟨by simpa using active, by simpa using valid⟩
        fresh
        untaken := untaken_of_resolved inv₃ later₃ resolved }
      exact publicationTransition_safe standing failing

theorem resolveCommittedPublication_safe {a : StoreProgram}
    (ha : SafeAfter (rules env strict) (.publication request) born a) :
    SafeAfter (rules env strict) (.publication request) born
      (resolveCommittedPublication env request.command a) := by
  intro s hl inv
  have hu : ∀ f : Failure, SafeAfter (rules env strict) (.publication request) born
      ((fun _ => answerPublication (.error .commitOutcomeUnknown)) f) :=
    fun _ _ _ _ => answerError_safe (refuses_retryable rfl _)
  unfold resolveCommittedPublication
  refine Safe.begin hl hu fun s₁ ho₁ hi₁ => ?_
  have hl₁ : Rely (rules env strict) .none born s₁ := hl.trans ho₁
  split
  next hi =>
    refine Safe.rollback fun s₂ ho₂ hi₂ => ?_
    refine answerError_safe (refuses_untrusted hi₂ (hl₁.trans ho₂) ?_)
    simp [StoreCall.Trusted, Bool.eq_false_iff.mpr (by simpa using hi)]
  split
  next hin =>
    refine Safe.rollback fun s₂ ho₂ hi₂ => ?_
    refine auditAndRaise_safe (hl₁.trans ho₂) hu (refuses_untrusted hi₂ (hl₁.trans ho₂) ?_)
    simp [StoreCall.Trusted, Bool.eq_false_iff.mpr (by simpa using hin)]
  refine Safe.read fun s₂ ho₂ hi₂ => ?_
  have hl₂ : Rely (rules env strict) .none born s₂ := hl₁.trans ho₂
  split
  next rn hr =>
    refine Safe.rollback fun s₃ ho₃ hi₃ => ?_
    exact auditAndRaise_safe (hl₂.trans ho₃) hu
      ((refuses_identity hi₂ hl₂ hr).later (grows_of_rely ho₃))
  next r hr =>
    obtain ⟨e, he, hh⟩ := resolveIdentity_found hr
    refine Safe.rollback fun s₃ ho₃ hi₃ => ?_
    obtain ⟨he', hh'⟩ := publicationEvent_later hi₂ ho₃ he hh
    exact answerOk_safe hi₃ he' hh'
  next =>
    exact Safe.rollback fun s₃ ho₃ hi₃ => ha s₃ (hl₂.trans ho₃) hi₃

theorem commitPublicationRequest_safe (inv : StoreInv env s) :
    Safe (rules env strict) (.publication request) s (commitPublicationRequest env request)
      .none s := by
  refine databaseRetry_safe (fun _ _ hf => runLockedTransition_safe hf) ?_ ?_ ?_ _ s .refl inv
  · rintro r ⟨⟩ n hn
    exact resolveCommittedPublication_safe hn
  · exact fun _ _ _ => answerError_safe (refuses_retryable rfl _)
  · exact fun _ _ _ => answerError_safe (refuses_retryable rfl _)

end Transition

end PersonalOs.SourceStore
