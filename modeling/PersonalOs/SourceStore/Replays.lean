import PersonalOs.SourceStore.Commits

/-!
# Replays return the original result

The result a commit answers with is what the replay lookup rebuilds from its event, in the
state of the commit and in every later one.
-/

namespace PersonalOs.SourceStore

open LookupLemmas

variable {db db' : Db}

/-! ## Growth -/

/-- What no commit takes away. -/
structure Grows (db db' : Db) : Prop where
  events : ∀ e ∈ db.events, e ∈ db'.events
  versions : ∀ v ∈ db.versions, v ∈ db'.versions
  objects : ∀ o ∈ db.objects, o ∈ db'.objects

theorem Grows.refl (db : Db) : Grows db db := ⟨fun _ hm => hm, fun _ hm => hm, fun _ hm => hm⟩

theorem Grows.trans {d'' : Db} (hf : Grows db db') (hs : Grows db' d'') : Grows db d'' :=
  ⟨fun e hm => hs.events e (hf.events e hm), fun v hm => hs.versions v (hf.versions v hm),
    fun o hm => hs.objects o (hf.objects o hm)⟩

variable {e : SyncEvent} {result : SourceVersionPublicationResult}
  {f : RequestFingerprint} {n : Nat}

theorem CommitOf.grows (hc : CommitOf e db db') : Grows db db' where
  events := fun x hm => by
    rw [hc.events]
    exact List.mem_append_left _ hm
  versions := hc.versions
  objects := hc.objects

/-! ## Publication -/

/-- The rows behind a publication's replay result. -/
structure Hydrates (db : Db) (e : SyncEvent) (command : SourceVersionCommand)
    (result : SourceVersionPublicationResult) (v : SourceVersion) (o : ContentObject) : Prop where
  version : v ∈ db.versions ∧ v.workspaceId = e.workspaceId ∧ v.sourceId = e.sourceId
  committed : e.committedVersionId = some v.sourceVersionId
  object : o ∈ db.objects ∧ o.contentObjectId = v.contentObjectId
  workspace : e.workspaceId = command.workspaceId
  source : e.sourceId = command.sourceId
  numbered : 1 ≤ e.eventSequence ∧ 1 ≤ v.contentVersion
  outcome : classifyReplay e.eventType e.baseVersionId e.committedVersionId =
    some result.outcome
  result : result = ⟨e.sourceId, v.sourceVersionId, v.contentVersion, e.eventId,
    e.eventSequence, o.contentHash, result.outcome⟩

/-- `hydrate_replay_result` rebuilds a result from the event's version and object. -/
theorem hydrateReplayResult_eq_some (hk : Keyed db) {c : SourceVersionCommand} :
    hydrateReplayResult (db.replayRow e) c = some result ↔ ∃ v o, Hydrates db e c result v o := by
  constructor
  · intro hh
    unfold hydrateReplayResult at hh
    split at hh
    · cases hh
    next he =>
      simp only [Db.replayRow, not_or, not_not] at he hh
      split at hh
      next ve ch ho hv hha hou =>
        obtain ⟨hn, hre⟩ := Option.ite_none_left_eq_some.mp hh
        cases hre
        obtain ⟨id, hc, hf⟩ := Option.bind_eq_some_iff.mp hv
        obtain ⟨hi, hw, hso, hna⟩ := (version_eq_some hk).mp hf
        rw [hv, Option.bind_some, Option.map_eq_some_iff] at hha
        obtain ⟨o, hs, rfl⟩ := hha
        refine ⟨ve, o, ⟨hi, hw, hso⟩, by rw [hc, hna],
          (object_eq_some hk).mp hs, he.1, he.2, by omega, hou, rfl⟩
      next => cases hh
  · rintro ⟨v, o, hr⟩
    have hf : db.version e.workspaceId e.sourceId v.sourceVersionId = some v :=
      (version_eq_some hk).mpr ⟨hr.version.1, hr.version.2.1, hr.version.2.2, rfl⟩
    have hs : db.object v.contentObjectId = some o := (object_eq_some hk).mpr hr.object
    have ho := hr.outcome
    have hn := hr.numbered
    rw [hr.committed] at ho
    rw [hr.result]
    simp only [hydrateReplayResult, Db.replayRow, hr.workspace, hr.source, hr.committed,
      Option.bind_some, ho]
    rw [hr.workspace, hr.source] at hf
    simp only [hf, hs, Option.bind_some, Option.map_some, ne_eq, not_true_eq_false, or_self,
      if_false]
    rw [if_neg (by omega)]

theorem Grows.hydrates (hg : Grows db db') (hk : Keyed db) (hk' : Keyed db')
    {c : SourceVersionCommand}
    (hh : hydrateReplayResult (db.replayRow e) c = some result) :
    hydrateReplayResult (db'.replayRow e) c = some result := by
  obtain ⟨v, o, hr⟩ := (hydrateReplayResult_eq_some hk).mp hh
  exact (hydrateReplayResult_eq_some hk').mpr ⟨v, o, { hr with
    version := ⟨hg.versions v hr.version.1, hr.version.2⟩
    object := ⟨hg.objects o hr.object.1, hr.object.2⟩ }⟩

theorem createWrites_result {c : CreateSourceVersion} {i : PublicationIdentities}
    (hk : Keyed db) (hn : 1 ≤ n)
    (hw : createWrites c f i n db = .ok (db', result)) :
    hydrateReplayResult (db'.replayRow (createEvent c f n i.sourceVersionId)) (.create c) =
        some result := by
  have hk' := (createWrites_commit hk hw).keyed
  unfold createWrites at hw
  obtain ⟨⟨db₁, o⟩, hi₁, hw⟩ := bind_ok hw
  obtain ⟨db₂, hi₂, hw⟩ := bind_ok hw
  obtain ⟨db₃, hi₃, hw⟩ := bind_ok hw
  obtain ⟨s, _, hw⟩ := bind_ok hw
  obtain ⟨db₄, hi₄, hw⟩ := bind_ok hw
  obtain ⟨db₅, hi₅, hw⟩ := bind_ok hw
  cases hw
  obtain ⟨hk₁, hs, hh, _, _⟩ := KeyedLemmas.insertContentObject hk hi₁
  obtain ⟨_, is₂⟩ := Db.insertSource_ok hi₂
  obtain ⟨_, is₃⟩ := Db.insertVersion_ok hi₃
  obtain ⟨_, is₄⟩ := Db.insertEvent_ok hi₄
  have is₅ : db'.versions = db₃.versions ∧ db'.objects = db₃.objects := by
    unfold insertInitialLocator at hi₅
    split at hi₅
    · cases hi₅
      rw [is₄]
      exact ⟨rfl, rfl⟩
    · obtain ⟨_, rfl⟩ := Db.insertLocator_ok hi₅
      rw [is₄]
      exact ⟨rfl, rfl⟩
  refine (hydrateReplayResult_eq_some hk').mpr ⟨versionOne c i.sourceVersionId o.contentObjectId, o,
      ⟨?_, rfl, rfl⟩, rfl, ⟨?_, rfl⟩, rfl, rfl, ⟨hn, Nat.le_refl 1⟩, rfl, ?_⟩
  · rw [is₅.1, is₃]
    simp
  · rw [is₅.2, is₃, is₂]
    exact hs
  · rw [hh]
    rfl

theorem noChangeWrites_result {cm : UpdateSourceVersion} {c : SourceVersion}
    {ob : ContentObject} (hk : Keyed db) (hn : 1 ≤ n)
    (hf : db.versionWithObject cm.workspaceId cm.sourceId c.sourceVersionId =
      some (c, ob)) (hp : 1 ≤ c.contentVersion)
    (hm : receiptMatchesCurrentObject cm.expectedObject ob)
    (hw : noChangeWrites cm f c n db = .ok (db', result)) :
    hydrateReplayResult (db'.replayRow (updateEvent cm f n
      c.sourceVersionId c.sourceVersionId)) (.update cm) = some result := by
  unfold noChangeWrites at hw
  obtain ⟨db₁, hi, hw⟩ := bind_ok hw
  cases hw
  have hk₁ := KeyedLemmas.insertEvent hk hi
  obtain ⟨_, is₁⟩ := Db.insertEvent_ok hi
  obtain ⟨v, hv, hpa⟩ := Option.bind_eq_some_iff.mp hf
  obtain ⟨o, hst, hpr⟩ := Option.map_eq_some_iff.mp hpa
  cases hpr
  obtain ⟨hin, hwo, hs, _⟩ := (version_eq_some hk).mp hv
  refine (hydrateReplayResult_eq_some hk₁).mpr ⟨c, ob, ⟨?_, hwo, hs⟩, rfl,
    ?_, rfl, rfl, ⟨hn, hp⟩, by simp [classifyReplay, updateEvent], ?_⟩
  · rw [is₁]
    exact hin
  · rw [is₁]
    exact (object_eq_some hk).mp hst
  · rw [(of_decide_eq_true hm).1]
    rfl

theorem changedWrites_result {c : UpdateSourceVersion} {i : PublicationIdentities}
    {cu : SourceVersion} {row : Source} (hk : Keyed db) (hn : 1 ≤ n)
    (ht : (db.graph c.sourceId).rows = [row])
    (hwo : row.workspaceId = c.workspaceId) (hl : row.syncState ≠ .deleted)
    (hp : row.currentVersionId = some cu.sourceVersionId)
    (hc : cu ∈ (db.graph c.sourceId).versions)
    (hb : c.baseVersionId = cu.sourceVersionId)
    (hw : changedWrites c f i cu n db = .ok (db', result)) :
    hydrateReplayResult (db'.replayRow (updateEvent c f n
      c.baseVersionId i.sourceVersionId)) (.update c) = some result := by
  have hk' := (changedWrites_commit hk ht hwo hl hp hc hb hw).keyed
  unfold changedWrites at hw
  obtain ⟨⟨db₁, o⟩, hi₁, hw⟩ := bind_ok hw
  obtain ⟨db₂, hi₂, hw⟩ := bind_ok hw
  obtain ⟨s, _, hw⟩ := bind_ok hw
  obtain ⟨db₃, hi₃, hw⟩ := bind_ok hw
  cases hw
  obtain ⟨_, hs, hh, ⟨_, is₁⟩, _⟩ := KeyedLemmas.insertContentObject hk hi₁
  obtain ⟨hu, is₂⟩ := Db.insertVersion_ok hi₂
  obtain ⟨_, is₃⟩ := Db.insertEvent_ok hi₃
  have hf : i.sourceVersionId ≠ c.baseVersionId := by
    rw [hb]
    refine (hu cu ?_).symm
    rw [is₁]
    exact (mem_graph_versions.mp hc).1
  refine (hydrateReplayResult_eq_some hk').mpr
    ⟨nextVersion c i.sourceVersionId o.contentObjectId cu, o,
      ⟨?_, rfl, rfl⟩, rfl, ⟨?_, rfl⟩, rfl, rfl, ⟨hn, Nat.le_add_left 1 _⟩, ?_, ?_⟩
  · rw [is₃, is₂]
    simp
  · rw [is₃, is₂]
    exact hs
  · simp [classifyReplay, updateEvent, hf]
  · rw [hh]
    rfl

/-! ## Lifecycle -/

namespace SourceGraph

def opened (g : SourceGraph) (e : SyncEvent) : Option NormalizedLocator :=
  (g.locators.find? fun l =>
    l.openedEventId = e.eventId ∧ l.workspaceId = e.workspaceId).map SourceLocator.normalizedLocator

def tombstoned (g : SourceGraph) (e : SyncEvent) : Option SourceTombstoneId :=
  (g.tombstones.find? fun t =>
    t.deleteEventId = e.eventId ∧ t.workspaceId = e.workspaceId).map
      SourceTombstone.sourceTombstoneId

end SourceGraph

theorem lifecycleReplayRow_graph (e : SyncEvent) : db.lifecycleReplayRow e =
      ⟨e, (db.graph e.sourceId).opened e, (db.graph e.sourceId).tombstoned e⟩ := by
  have hl : db.openedLocator e = (db.graph e.sourceId).locators.find? fun l =>
      l.openedEventId = e.eventId ∧ l.workspaceId = e.workspaceId := by
    simp only [Db.openedLocator, Db.graph, List.find?_filter]
    congr 1
    funext l
    by_cases he : l.sourceId = e.sourceId <;> simp [he]
  have ht : db.createdTombstone e = (db.graph e.sourceId).tombstones.find? fun t =>
      t.deleteEventId = e.eventId ∧ t.workspaceId = e.workspaceId := by
    simp only [Db.createdTombstone, Db.graph, List.find?_filter]
    congr 1
    funext t
    by_cases he : t.sourceId = e.sourceId <;> simp [he]
  rw [Db.lifecycleReplayRow, hl, ht]
  rfl

namespace ReplayLemmas

variable {e e' : SyncEvent} {g g' : SourceGraph}

theorem find?_map_append {α β : Type} {rs m : List α} {w : α → α} {p : α → Bool}
    {nm : α → β} (hk : ∀ r, p (w r) = p r) (hna : ∀ r, nm (w r) = nm r)
    (hf : ∀ r ∈ m, p r = false) :
    ((rs.map w ++ m).find? p).map nm = (rs.find? p).map nm := by
  have hn : m.find? p = none := List.find?_eq_none.mpr fun r hm => by
    simp [hf r hm]
  have he : p ∘ w = p := funext hk
  rw [List.find?_append, hn, Option.or_none, List.find?_map, Option.map_map, he]
  congr 1
  funext r
  exact hna r

theorem opened_of (m : List SourceLocator) (c : SourceLocator → SourceLocator)
    (hl : g'.locators = g.locators.map c ++ m) (hot : e'.eventId ≠ e.eventId)
    (ho : ∀ l ∈ m, Opens e' l)
    (hk : ∀ l, (c l).openedEventId = l.openedEventId ∧ (c l).workspaceId = l.workspaceId ∧
      (c l).normalizedLocator = l.normalizedLocator) : g'.opened e = g.opened e := by
  unfold SourceGraph.opened
  rw [hl]
  refine find?_map_append (fun l => ?_) (fun l => (hk l).2.2) fun l hm => ?_
  · rw [(hk l).1, (hk l).2.1]
  · simp [(ho l hm).event, hot]

theorem tombstoned_of (m : List SourceTombstone) (r : SourceTombstone → SourceTombstone)
    (ht : g'.tombstones = g.tombstones.map r ++ m)
    (ho : e'.eventId ≠ e.eventId) (hd : ∀ t ∈ m, t.deleteEventId = e'.eventId)
    (hk : ∀ t, (r t).deleteEventId = t.deleteEventId ∧ (r t).workspaceId = t.workspaceId ∧
      (r t).sourceTombstoneId = t.sourceTombstoneId) :
    g'.tombstoned e = g.tombstoned e := by
  unfold SourceGraph.tombstoned
  rw [ht]
  refine find?_map_append (fun t => ?_) (fun t => (hk t).2.2) fun t hm => ?_
  · rw [(hk t).1, (hk t).2.1]
  · simp [hd t hm, ho]

theorem opened_step (hv : GraphStep e' g g') (hot : e'.eventId ≠ e.eventId) :
    g'.opened e = g.opened e := by
  cases hv with
  | repeatCurrent | publish | record => rfl
  | create _ _ lo _ _ _ _ _ _ _ _ _ _ _ ho =>
    exact opened_of _ id (by rw [List.map_id]) hot
      (fun l hm => ho l (by simpa using hm)) (fun _ => ⟨rfl, rfl, rfl⟩)
  | relocate _ _ _ _ _ _ _ _ _ _ _ _ ho =>
    refine opened_of _ _ rfl hot (by simpa using ho) fun l => ?_
    split <;> exact ⟨rfl, rfl, rfl⟩
  | delete =>
    refine opened_of [] _ (List.append_nil _).symm hot (by simp) fun l => ?_
    split <;> exact ⟨rfl, rfl, rfl⟩
  | restore _ _ _ o _ _ _ _ _ _ _ _ _ ho =>
    exact opened_of _ id (by rw [List.map_id]) hot (by simpa using ho) (fun _ => ⟨rfl, rfl, rfl⟩)

theorem tombstoned_step (hv : GraphStep e' g g') (ho : e'.eventId ≠ e.eventId) :
    g'.tombstoned e = g.tombstoned e := by
  cases hv with
  | create | repeatCurrent | publish | relocate | record => rfl
  | delete _ _ _ te _ _ _ _ _ _ _ _ _ _ hd =>
    exact tombstoned_of _ id (by rw [List.map_id]) ho (by simpa using hd) (fun _ => ⟨rfl, rfl, rfl⟩)
  | restore =>
    refine tombstoned_of [] _ (List.append_nil _).symm ho (by simp) fun t => ?_
    split <;> exact ⟨rfl, rfl, rfl⟩

end ReplayLemmas

/-- Later commits change nothing of what the lifecycle lookup finds of an event. -/
theorem CommitOf.lifecycleReplayRow {e' : SyncEvent} (hc : CommitOf e' db db')
    (ht : e ∈ db.events) : db'.lifecycleReplayRow e = db.lifecycleReplayRow e := by
  rw [lifecycleReplayRow_graph, lifecycleReplayRow_graph]
  by_cases ho : e.sourceId = e'.sourceId
  · have hot : e'.eventId ≠ e.eventId := (hc.fresh e ht).1.symm
    have hv := hc.step
    rw [← ho] at hv
    rw [ReplayLemmas.opened_step hv hot, ReplayLemmas.tombstoned_step hv hot]
  · rw [hc.others ho]

theorem lifecycleWrites_result {env : Environment} {q : LifecycleRequest}
    {c : SourceVersionId} {result : SourceLifecycleCommitResult}
    (hh : SourceHistory q.command.sourceId (db.graph q.command.sourceId))
    (hl : Leaves q c n result (db.graph q.command.sourceId)) :
    hydrateLifecycleReplay (db.lifecycleReplayRow (lifecycleEvent env q c n))
      q.command = .ok result := by
  rw [lifecycleReplayRow_graph]
  simp only [show (lifecycleEvent env q c n).sourceId = q.command.sourceId from rfl]
  cases hl with
  | active o ho ht he hw ha =>
    have hf : (db.graph q.command.sourceId).opened
        (lifecycleEvent env q c n) = some o.normalizedLocator := by
      rw [SourceGraph.opened, find?_unique hh.locators_opened.2 ht
        (by simp [he, hw, lifecycleEvent]) (fun a b hap hb => hap (by simp_all))]
      rfl
    rw [hf, ha]
    cases hk : q.command.operation with
    | delete => exact absurd hk ho
    | rename | move | restore =>
      simp [hydrateLifecycleReplay, lifecycleEvent, hk, eventTypeByOperation, lifecycleResult]
  | deleted t ho ht he hw ha =>
    have hf : (db.graph q.command.sourceId).tombstoned
        (lifecycleEvent env q c n) = some t.sourceTombstoneId := by
      rw [SourceGraph.tombstoned, find?_unique hh.tombstones_deleted.2 ht
        (by simp [he, hw, lifecycleEvent]) (fun a b hap hb => hap (by simp_all))]
      rfl
    rw [hf, ha]
    simp [hydrateLifecycleReplay, lifecycleEvent, ho, eventTypeByOperation, lifecycleResult]

end PersonalOs.SourceStore
