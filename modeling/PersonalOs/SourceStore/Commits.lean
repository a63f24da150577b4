import PersonalOs.SourceStore.Writes

/-!
# What a commit does to the source graph

Each transition of the three stores, once its writes are accepted, appends its event, keeps
the unique constraints and takes one step of the history of the event's source.
-/

namespace PersonalOs.SourceStore

/-- The tables outside the source graph that no commit of a source event touches. -/
structure SameRest (db db' : Db) : Prop where
  audits : db'.rejectionAudits = db.rejectionAudits
  cursors : db'.cursors = db.cursors
  manifestRuns : db'.manifestRuns = db.manifestRuns

structure CommitOf (e : SyncEvent) (db db' : Db) : Prop where
  fresh : ∀ x ∈ db.events, x.eventId ≠ e.eventId ∧
    ¬(x.workspaceId = e.workspaceId ∧ x.idempotencyKey = e.idempotencyKey)
  events : db'.events = db.events ++ [e]
  keyed : Keyed db'
  graph : ∃ g, db'.graph = Function.update db.graph e.sourceId g ∧
    GraphStep e (db.graph e.sourceId) g
  versions : ∀ v ∈ db.versions, v ∈ db'.versions
  objects : ∀ o ∈ db.objects, o ∈ db'.objects
  quiet : db'.versions = db.versions → db'.objects = db.objects
  conflicts : e.eventType.isConflict = false → db'.conflicts = db.conflicts
  rest : SameRest db db'

variable {db db' : Db}

theorem CommitOf.others {e : SyncEvent} (hc : CommitOf e db db') {x : SourceId}
    (ho : x ≠ e.sourceId) : db'.graph x = db.graph x := by
  obtain ⟨g, hg, _⟩ := hc.graph
  rw [hg, Function.update_of_ne ho]

theorem CommitOf.step {e : SyncEvent} (hc : CommitOf e db db') :
    GraphStep e (db.graph e.sourceId) (db'.graph e.sourceId) := by
  obtain ⟨g, hg, hs⟩ := hc.graph
  rw [hg, Function.update_self]
  exact hs

/-! ## Lookups by key -/

namespace LookupLemmas

theorem find?_unique {α : Type} {rs : List α} {d : α → α → Prop} {p : α → Bool} {r : α}
    (ha : rs.Pairwise d) (hm : r ∈ rs) (hho : p r = true)
    (hc : ∀ a b, d a b → ¬(p a = true ∧ p b = true)) : rs.find? p = some r := by
  induction rs with
  | nil => simp at hm
  | cons h t ih =>
    obtain ⟨hh, ht⟩ := List.pairwise_cons.mp ha
    by_cases hhe : p h = true
    · rcases List.mem_cons.mp hm with rfl | hl
      · simp [hhe]
      · exact absurd ⟨hhe, hho⟩ (hc _ _ (hh r hl))
    · rcases List.mem_cons.mp hm with rfl | hl
      · exact absurd hho hhe
      · simpa [List.find?_cons, hhe] using ih ht hl

variable {x : SourceId} {ws : WorkspaceId}

theorem source_eq_some (hk : Keyed db) {row : Source} :
    db.source x = some row ↔ (db.graph x).rows = [row] := by
  constructor
  · intro hf
    have hm := List.mem_of_find?_eq_some hf
    have ofX : row.sourceId = x := by simpa using List.find?_some hf
    have hu : ∀ s ∈ (db.graph x).rows, s = row := by
      intro s ht
      obtain ⟨hi, hs⟩ := List.mem_filter.mp ht
      have hag := find?_unique (p := fun s => s.sourceId = x) hk.sources hi hs
        (fun a b ha hb => ha (by simp_all))
      rw [Db.source] at hf
      rw [hf] at hag
      exact (Option.some.inj hag).symm
    have ha : (db.graph x).rows.Pairwise fun a b => a.sourceId ≠ b.sourceId := hk.sources.filter _
    have ht : row ∈ (db.graph x).rows := List.mem_filter.mpr ⟨hm, by simpa using ofX⟩
    match hr : (db.graph x).rows with
    | [] =>
      rw [hr] at ht
      cases ht
    | [s] =>
      rw [hr] at hu
      rw [hu s (by simp)]
    | s :: t :: m =>
      rw [hr] at hu ha
      refine absurd ?_ ((List.pairwise_cons.mp ha).1 t (by simp))
      rw [hu s (by simp), hu t (by simp)]
  · intro hr
    have ht : row ∈ (db.graph x).rows := by simp [hr]
    obtain ⟨hi, ofX⟩ := List.mem_filter.mp ht
    exact find?_unique hk.sources hi ofX (fun a b ha hb => ha (by simp_all))

theorem sourceInWorkspace_eq_some (hk : Keyed db) {row : Source} :
    db.sourceInWorkspace ws x = some row ↔ (db.graph x).rows = [row] ∧ row.workspaceId = ws := by
  rw [Db.sourceInWorkspace, Option.filter_eq_some_iff, source_eq_some hk]
  simp

theorem version_eq_some (hk : Keyed db) {id : SourceVersionId} {v : SourceVersion} :
    db.version ws x id = some v ↔
      v ∈ db.versions ∧ v.workspaceId = ws ∧ v.sourceId = x ∧ v.sourceVersionId = id := by
  constructor
  · intro hf
    exact ⟨List.mem_of_find?_eq_some hf, by simpa using List.find?_some hf⟩
  · rintro ⟨hm, rfl, rfl, rfl⟩
    exact find?_unique hk.versions hm (by simp) (fun a b ha hb => ha (by simp_all))

theorem object_eq_some (hk : Keyed db) {id : ContentObjectId} {o : ContentObject} :
    db.object id = some o ↔ o ∈ db.objects ∧ o.contentObjectId = id := by
  constructor
  · intro hf
    exact ⟨List.mem_of_find?_eq_some hf, by simpa using List.find?_some hf⟩
  · rintro ⟨hm, rfl⟩
    exact find?_unique hk.objects hm (by simp) (fun a b ha hb => ha.1 (by simp_all))

theorem eventByKey_eq_some (hk : Keyed db) {key : IdempotencyKey} {e : SyncEvent} :
    db.eventByKey ws key = some e ↔
      e ∈ db.events ∧ e.workspaceId = ws ∧ e.idempotencyKey = key := by
  constructor
  · intro hf
    exact ⟨List.mem_of_find?_eq_some hf, by simpa using List.find?_some hf⟩
  · rintro ⟨hm, rfl, rfl⟩
    exact find?_unique hk.events hm (by simp) (fun a b ha hb => ha.2 (by simp_all))

theorem tombstone_eq_some {id : SourceTombstoneId} {t : SourceTombstone}
    (hf : db.tombstone ws id = some t) :
    t ∈ db.tombstones ∧ t.workspaceId = ws ∧ t.sourceTombstoneId = id :=
  ⟨List.mem_of_find?_eq_some hf, by simpa using List.find?_some hf⟩

theorem openLocator_eq_some {l : SourceLocator} (hf : db.openLocator x = some l) :
    l ∈ (db.graph x).locators ∧ l.closure = none := by
  have hh := List.find?_some hf
  simp only [decide_eq_true_eq] at hh
  exact ⟨List.mem_filter.mpr ⟨List.mem_of_find?_eq_some hf, by simpa using hh.1⟩, hh.2⟩

theorem mem_graph_versions {v : SourceVersion} :
    v ∈ (db.graph x).versions ↔ v ∈ db.versions ∧ v.sourceId = x := by
  simp [Db.graph]

end LookupLemmas

open LookupLemmas

/-! ## Publication -/

namespace CommitLemmas

theorem insertInitialLocator {c : CreateSourceVersion} {id : SourceLocatorId} {n : Nat}
    (hk : Keyed db)
    (hi : insertInitialLocator c id n db = .ok db') :
    ∃ lo : Option SourceLocator,
      (∀ l ∈ lo, l.workspaceId = c.workspaceId ∧ l.sourceId = c.sourceId ∧
        l.openedEventId = c.eventId ∧ l.openedSequence = n ∧ l.closure = none) ∧
      db' = { db with locators := db.locators ++ lo.toList } ∧ Keyed db' ∧
      db'.graph = Function.update db.graph c.sourceId { db.graph c.sourceId with
        locators := (db.graph c.sourceId).locators ++ lo.toList } := by
  unfold SourceStore.insertInitialLocator at hi
  split at hi
  next =>
    cases hi
    exact ⟨none, by simp, by simp, hk, by simp⟩
  next hn =>
    have hk' := KeyedLemmas.insertLocator hk hi
    have hg := GraphLemmas.insertLocator (x := c.sourceId) rfl hi
    obtain ⟨_, rfl⟩ := Db.insertLocator_ok hi
    exact ⟨some _, by rintro l ⟨⟩; exact ⟨rfl, rfl, rfl, rfl, rfl⟩, rfl, hk', hg⟩

end CommitLemmas

variable {f : RequestFingerprint} {n : Nat} {result : SourceVersionPublicationResult}
  {current : SourceVersionId} {tombstone : Option SourceTombstone}

theorem createWrites_commit {c : CreateSourceVersion} {i : PublicationIdentities} (hke : Keyed db)
    (hw : createWrites c f i n db = .ok (db', result)) :
    CommitOf (createEvent c f n i.sourceVersionId) db db' := by
  unfold createWrites at hw
  obtain ⟨⟨db₁, ob⟩, hi₁, hw⟩ := bind_ok hw
  obtain ⟨db₂, hi₂, hw⟩ := bind_ok hw
  obtain ⟨db₃, hi₃, hw⟩ := bind_ok hw
  obtain ⟨so, hu, hw⟩ := bind_ok hw
  obtain ⟨db₄, hi₄, hw⟩ := bind_ok hw
  obtain ⟨db₅, hi₅, hw⟩ := bind_ok hw
  cases hw
  obtain ⟨hk₁, ht, _, ⟨os, is₁⟩, hgn⟩ := KeyedLemmas.insertContentObject hke hi₁
  have hk₂ := KeyedLemmas.insertSource hk₁ hi₂
  obtain ⟨hn, hg₂⟩ := GraphLemmas.insertSource (x := c.sourceId) rfl hi₂
  obtain ⟨_, is₂⟩ := Db.insertSource_ok hi₂
  have hk₃ := KeyedLemmas.insertVersion hk₂ ⟨ob, by rw [is₂]; exact ht, rfl⟩ hi₃
  have hg₃ := GraphLemmas.insertVersion (x := c.sourceId) rfl hi₃
  obtain ⟨_, is₃⟩ := Db.insertVersion_ok hi₃
  have hk := KeyedLemmas.updateSources hk₃ hu (fun _ => rfl)
  have hr₃ : (db₃.graph c.sourceId).rows = [pendingSource c] := by
    rw [hg₃, hg₂, Function.update_self, Function.update_self]
  obtain ⟨_, hgr⟩ := GraphLemmas.updateSources hr₃ hu
    (fun s hg => (of_decide_eq_true hg).1) (fun _ => rfl)
  have hk₄ := KeyedLemmas.insertEvent hk hi₄
  have hg₄ := GraphLemmas.insertEvent (x := c.sourceId) rfl hi₄
  obtain ⟨hf, is₄⟩ := Db.insertEvent_ok hi₄
  obtain ⟨lo, hop, is₅, hk₅, hg₅⟩ := CommitLemmas.insertInitialLocator hk₄ hi₅
  have hg₁ : db₁.graph = db.graph := by rw [is₁]; rfl
  let g := db.graph c.sourceId
  let ve := versionOne c i.sourceVersionId ob.contentObjectId
  let e := createEvent c f n i.sourceVersionId
  have hgh : db'.graph = Function.update db.graph c.sourceId ⟨[{ pendingSource c with
          currentVersionId := some i.sourceVersionId
          syncState := .active }],
        g.versions ++ [ve], g.locators ++ lo.toList, g.tombstones,
        g.events ++ [e]⟩ := by
    rw [hg₅, hg₄, hgr, hg₃, hg₂, hg₁]
    simp only [Function.update_self, Function.update_idem]
    rfl
  rw [hg₁] at hn
  refine ⟨?_, ?_, hk₅, ⟨_, hgh, ?_⟩, ?_, ?_, ?_, ?_, ?_⟩
  · simpa only [is₃, is₂, is₁] using hf
  · simp only [is₅, is₄, is₃, is₂, is₁]
  · exact .create _ ve lo hn rfl rfl rfl rfl rfl rfl rfl ⟨rfl, rfl⟩ rfl rfl fun l hm => by
        obtain ⟨hwo, hso, ho, hs, hun⟩ := hop l hm
        exact ⟨hwo, hso, ho, hs, hun⟩
  · intro v hm
    simp only [is₅, is₄, is₃, is₂, is₁]
    exact List.mem_append_left _ hm
  · intro o hm
    simp only [is₅, is₄, is₃, is₂]
    exact hgn o hm
  · intro he
    simp only [is₅, is₄, is₃, is₂, is₁] at he
    simp at he
  · intro _
    simp only [is₅, is₄, is₃, is₂, is₁]
  · constructor <;> simp only [is₅, is₄, is₃, is₂, is₁]

theorem noChangeWrites_commit {c : UpdateSourceVersion} {current : SourceVersion}
    {row : Source} (hk : Keyed db) (ht : (db.graph c.sourceId).rows = [row])
    (hwo : row.workspaceId = c.workspaceId) (hl : row.syncState ≠ .deleted)
    (hp : row.currentVersionId = some current.sourceVersionId)
    (hw : noChangeWrites c f current n db = .ok (db', result)) :
    CommitOf (updateEvent c f n current.sourceVersionId current.sourceVersionId) db db' := by
  unfold noChangeWrites at hw
  obtain ⟨db₁, hi, hw⟩ := bind_ok hw
  cases hw
  have hk₁ := KeyedLemmas.insertEvent hk hi
  have hg₁ := GraphLemmas.insertEvent (x := c.sourceId) rfl hi
  obtain ⟨hf, is₁⟩ := Db.insertEvent_ok hi
  refine ⟨hf, by rw [is₁], hk₁, ⟨_, hg₁, ?_⟩, ?_, ?_, ?_, ?_, ?_⟩
  · exact .repeatCurrent row current.sourceVersionId ht hwo hl hp rfl rfl rfl
  · intro v hm
    rw [is₁]
    exact hm
  · intro o hm
    rw [is₁]
    exact hm
  · intro _
    rw [is₁]
  · intro _
    rw [is₁]
  · constructor <;> rw [is₁]

theorem changedWrites_commit {c : UpdateSourceVersion} {i : PublicationIdentities}
    {current : SourceVersion} {row : Source} (hke : Keyed db)
    (ht : (db.graph c.sourceId).rows = [row])
    (hwo : row.workspaceId = c.workspaceId) (hl : row.syncState ≠ .deleted)
    (hp : row.currentVersionId = some current.sourceVersionId)
    (hc : current ∈ (db.graph c.sourceId).versions)
    (hb : c.baseVersionId = current.sourceVersionId)
    (hw : changedWrites c f i current n db = .ok (db', result)) :
    CommitOf (updateEvent c f n c.baseVersionId i.sourceVersionId) db db' := by
  unfold changedWrites at hw
  obtain ⟨⟨db₁, ob⟩, hi₁, hw⟩ := bind_ok hw
  obtain ⟨db₂, hi₂, hw⟩ := bind_ok hw
  obtain ⟨so, hu, hw⟩ := bind_ok hw
  obtain ⟨db₃, hi₃, hw⟩ := bind_ok hw
  cases hw
  obtain ⟨hk₁, hs, _, ⟨os, is₁⟩, hgn⟩ := KeyedLemmas.insertContentObject hke hi₁
  have hk₂ := KeyedLemmas.insertVersion hk₁ ⟨ob, hs, rfl⟩ hi₂
  have hg₂ := GraphLemmas.insertVersion (x := c.sourceId) rfl hi₂
  obtain ⟨hun, is₂⟩ := Db.insertVersion_ok hi₂
  have hk := KeyedLemmas.updateSources hk₂ hu (fun _ => rfl)
  have hg₁ : db₁.graph = db.graph := by rw [is₁]; rfl
  have hr₂ : (db₂.graph c.sourceId).rows = [row] := by
    rw [hg₂, Function.update_self, hg₁]
    exact ht
  obtain ⟨_, hgr⟩ := GraphLemmas.updateSources hr₂ hu
    (fun s hg => (of_decide_eq_true hg).1) (fun _ => rfl)
  have hk₃ := KeyedLemmas.insertEvent hk hi₃
  have hg₃ := GraphLemmas.insertEvent (x := c.sourceId) rfl hi₃
  obtain ⟨hf, is₃⟩ := Db.insertEvent_ok hi₃
  let g := db.graph c.sourceId
  let ve := nextVersion c i.sourceVersionId ob.contentObjectId current
  let e := updateEvent c f n c.baseVersionId i.sourceVersionId
  have hgh : db'.graph = Function.update db.graph c.sourceId { g with
      rows := [{ row with currentVersionId := some i.sourceVersionId }]
      versions := g.versions ++ [ve]
      events := g.events ++ [e] } := by
    rw [hg₃, hgr, hg₂, hg₁]
    simp only [Function.update_self, Function.update_idem]
    rfl
  have hu' : ∀ v ∈ g.versions, v.sourceVersionId ≠ i.sourceVersionId := by
    intro v hm
    refine hun v ?_
    rw [is₁]
    exact (mem_graph_versions.mp hm).1
  refine ⟨?_, ?_, hk₃, ⟨_, hgh, ?_⟩, ?_, ?_, ?_, ?_, ?_⟩
  · simpa only [is₂, is₁] using hf
  · simp only [is₃, is₂, is₁]
  · exact .publish row current ve ht hwo hl hp hc (.inl rfl)
      (congrArg some hb) rfl ⟨rfl, rfl⟩ hu' rfl rfl
  · intro v hm
    simp only [is₃, is₂, is₁]
    exact List.mem_append_left _ hm
  · intro o hm
    simp only [is₃, is₂]
    exact hgn o hm
  · intro he
    simp only [is₃, is₂, is₁] at he
    simp at he
  · intro _
    simp only [is₃, is₂, is₁]
  · constructor <;> simp only [is₃, is₂, is₁]

/-! ## Lifecycle -/

/-- What the preconditions of an operation admit: the source's state and the operands that
the transition goes on with. -/
inductive Admitted (command : SourceLifecycleCommand) (source : LockedLifecycleSource)
    (tombstone : Option SourceTombstone) : Prop
  | relocation (expected target : NormalizedLocator)
      (operation : command.operation = .rename ∨ command.operation = .move)
      (active : source.syncState = .active) (locator : source.activeLocator = some expected)
      (targeted : command.targetLocator = some target) (moves : target ≠ expected)
  | deletion (expected : NormalizedLocator) (operation : command.operation = .delete)
      (active : source.syncState = .active) (locator : source.activeLocator = some expected)
      (expects : command.expectedLocator = some expected)
  | restoration (target : NormalizedLocator) (open' : SourceTombstone)
      (operation : command.operation = .restore) (deleted : source.syncState = .deleted)
      (targeted : command.targetLocator = some target) (found : tombstone = some open')
      (unrestored : open'.restoreEventId = none) (ofSource : open'.sourceId = command.sourceId)
      (retained : open'.retainedVersionId = command.expectedVersionId)

namespace AdmissionLemmas

theorem classifyLocatorConflict_none {e a : Option NormalizedLocator}
    (ha : classifyLocatorConflict e a = none) (hg : e.isSome) :
    ∃ l, e = some l ∧ a = some l := by
  obtain ⟨l, rfl⟩ := Option.isSome_iff_exists.mp hg
  cases a with
  | none => simp [classifyLocatorConflict] at ha
  | some f =>
    simp only [classifyLocatorConflict, ite_eq_left_iff, reduceCtorEq, imp_false, not_not] at ha
    exact ⟨l, rfl, by rw [ha]⟩

theorem validateTombstone_none {c : SourceLifecycleCommand} {current : SourceVersionId}
    {tombstone : Option SourceTombstone}
    (ha : validateTombstone c current tombstone = none) :
    ∃ t, tombstone = some t ∧ t.restoreEventId = none ∧ t.sourceId = c.sourceId ∧
      t.retainedVersionId = current := by
  unfold validateTombstone at ha
  split at ha
  · cases ha
  next t =>
    split at ha
    · cases ha
    next hu =>
      split at ha
      · cases ha
      next ho =>
        split at ha
        · cases ha
        next hr =>
          exact ⟨t, rfl, by simpa using hu, not_not.mp ho, not_not.mp hr⟩

end AdmissionLemmas

/-- A command that passes its preconditions names the current version and is admitted. -/
theorem validatePreconditions_ok {c : SourceLifecycleCommand} {s : LockedLifecycleSource}
    (hv : validatePreconditions c (some s) tombstone = .ok current) :
    s.currentVersionId = some current ∧ c.expectedVersionId = current ∧ Admitted c s tombstone := by
  unfold validatePreconditions at hv
  simp only at hv
  split at hv
  · cases hv
  next hss =>
    split at hv
    · cases hv
    next v hp =>
      split at hv
      · cases hv
      next hex =>
        rw [not_not] at hex
        split at hv
        · cases hv
        next ha =>
          cases hv
          refine ⟨hp, hex.symm, ?_⟩
          have hs := c.shape
          cases ho : c.operation <;>
            simp only [ho, operationShape, Bool.and_eq_true, Option.isNone_iff_eq_none] at hs ha
          case rename | move =>
            obtain ⟨⟨⟨he, ht⟩, _⟩, hd⟩ := hs
            obtain ⟨tg, hta⟩ := Option.isSome_iff_exists.mp ht
            simp only [hta, Option.or_eq_none_iff] at ha
            obtain ⟨e, he', hl⟩ := AdmissionLemmas.classifyLocatorConflict_none ha.1 he
            refine .relocation e tg (by simp [ho]) ?_ hl hta ?_
            · cases hst : s.syncState <;> simp_all [classifyStateMismatch]
            · rintro rfl
              simp [he', hta] at hd
          case delete =>
            obtain ⟨⟨⟨he, _⟩, _⟩, _⟩ := hs
            obtain ⟨e, he', hl⟩ := AdmissionLemmas.classifyLocatorConflict_none ha he
            refine .deletion e ho ?_ hl he'
            cases hst : s.syncState <;> simp_all [classifyStateMismatch]
          case restore =>
            obtain ⟨⟨⟨_, ht⟩, _⟩, _⟩ := hs
            obtain ⟨tg, hta⟩ := Option.isSome_iff_exists.mp ht
            obtain ⟨t, hf, hu, hof, hr⟩ := AdmissionLemmas.validateTombstone_none ha
            refine .restoration tg t ho ?_ hta hf hu hof (hr.trans hex)
            cases hst : s.syncState <;> simp_all [classifyStateMismatch]

namespace LookupLemmas

theorem openLocator_graph (x : SourceId) :
    db.openLocator x = (db.graph x).locators.find? fun l => l.closure = none := by
  simp only [Db.openLocator, Db.graph, List.find?_filter]
  congr 1
  funext l
  simp

theorem open_unique (hk : Keyed db) {x : SourceId} {l m : SourceLocator}
    (hh : l ∈ (db.graph x).locators) (ho : l.closure = none)
    (hha : m ∈ (db.graph x).locators) (hop : m.closure = none) : l = m := by
  obtain ⟨inL, ofL⟩ := List.mem_filter.mp hh
  obtain ⟨inM, ofM⟩ := List.mem_filter.mp hha
  have hf (r : SourceLocator) (hm : r ∈ db.locators) (ofX : r.sourceId = x)
      (hu : r.closure = none) :
      db.locators.find? (fun l => l.sourceId = x ∧ l.closure = none) = some r :=
    find?_unique hk.locators hm (by simp [ofX, hu])
      (fun a b ha hb => (ha.2 (by simp_all) (by simp_all)).1 (by simp_all))
  have he := (hf l inL (by simpa using ofL) ho).symm.trans (hf m inM (by simpa using ofM) hop)
  exact Option.some.inj he

theorem locator_unique (hk : Keyed db) {l m : SourceLocator} (hh : l ∈ db.locators)
    (hha : m ∈ db.locators) (he : l.sourceLocatorId = m.sourceLocatorId) : l = m := by
  have hf (r : SourceLocator) (hm : r ∈ db.locators) (hn : r.sourceLocatorId = m.sourceLocatorId) :
      db.locators.find? (fun l => l.sourceLocatorId = m.sourceLocatorId) = some r :=
    find?_unique hk.locators hm (by simp [hn]) (fun a b ha hb => ha.1 (by simp_all))
  exact Option.some.inj ((hf l hh he).symm.trans (hf m hha rfl))

theorem tombstone_unique (hk : Keyed db) {t u : SourceTombstone} (hh : t ∈ db.tombstones)
    (hha : u ∈ db.tombstones) (he : t.sourceTombstoneId = u.sourceTombstoneId) : t = u := by
  have hf (r : SourceTombstone) (hm : r ∈ db.tombstones)
      (hn : r.sourceTombstoneId = u.sourceTombstoneId) :
      db.tombstones.find? (fun t => t.sourceTombstoneId = u.sourceTombstoneId) = some r :=
    find?_unique hk.tombstones hm (by simp [hn]) (fun a b ha hb => ha (by simp_all))
  exact Option.some.inj ((hf t hh he).symm.trans (hf u hha rfl))

end LookupLemmas

namespace CommitLemmas

theorem closeExistingLocator {c : SourceLifecycleCommand} {ac : NormalizedLocator}
    {e : SyncEvent} {l : SourceLocator} (hk : Keyed db)
    (hn : e.eventId = c.eventId) (ht : l ∈ (db.graph c.sourceId).locators)
    (hw : l.closure = none) (at' : l.normalizedLocator = ac) :
    (∃ locators, closeExistingLocator db c ac e.eventSequence = { db with locators }) ∧
      Keyed (closeExistingLocator db c ac e.eventSequence) ∧
      (closeExistingLocator db c ac e.eventSequence).graph =
        Function.update db.graph c.sourceId { db.graph c.sourceId with
          locators := (db.graph c.sourceId).closeLocators e } := by
  obtain ⟨hi, ho⟩ := List.mem_filter.mp ht
  have hfo : db.locators.find? (fun l => l.sourceId = c.sourceId ∧
      l.normalizedLocator = ac ∧ l.closure = none) = some l :=
    find?_unique hk.locators hi (by simp_all)
      (fun a b ha hb => (ha.2 (by simp_all) (by simp_all)).1 (by simp_all))
  simp only [SourceStore.closeExistingLocator, hfo]
  refine ⟨⟨_, rfl⟩, ?_, ?_⟩
  · have hc := KeyedLemmas.closeLocators
      (fun r => r.sourceLocatorId = l.sourceLocatorId ∧ r.closure = none)
      ⟨c.eventId, e.eventSequence⟩ hk
    simpa only [decide_eq_true_eq] using hc
  · have hcl : ((db.graph c.sourceId).locators.map fun r =>
        if r.sourceLocatorId = l.sourceLocatorId ∧ r.closure = none then
          { r with closure := some ⟨c.eventId, e.eventSequence⟩ }
        else r) = (db.graph c.sourceId).closeLocators e := by
      refine List.map_congr_left fun r hm => ?_
      by_cases hu : r.closure = none
      · have he : r = l := open_unique hk hm hu ht hw
        simp [he, hw, hn]
      · simp [hu]
    rw [← hcl]
    refine GraphLemmas.writeLocators (by intro r; split <;> rfl) ?_
    intro r hm hf
    rw [if_neg]
    rintro ⟨he, _⟩
    have isL := locator_unique hk hm hi he
    exact hf (by simpa [isL] using ho)

end CommitLemmas

/-- The row, pointer and open locator a lifecycle transition goes on with. -/
structure TransitionFacts (request : LifecycleRequest) (current : SourceVersionId)
    (activeLocator : Option NormalizedLocator) (tombstone : Option SourceTombstone) (db : Db) :
    Prop where
  valid : validatePreconditions request.command
    (db.lockedLifecycleSource request.command.sourceId) tombstone = .ok current
  active : activeLocator =
    (db.openLocator request.command.sourceId).map SourceLocator.normalizedLocator
  workspace : ∃ row, db.sourceInWorkspace request.device.workspaceId request.command.sourceId =
    some row
  tombstone : ∀ t ∈ tombstone, t ∈ (db.graph request.command.sourceId).tombstones ∧
    some t.sourceTombstoneId = request.command.tombstoneId

theorem TransitionFacts.row {request : LifecycleRequest} {activeLocator : Option NormalizedLocator}
    (hk : Keyed db) (hf : TransitionFacts request current activeLocator tombstone db) :
    ∃ row, (db.graph request.command.sourceId).rows = [row] ∧
      row.workspaceId = request.device.workspaceId ∧ row.currentVersionId = some current ∧
      request.command.expectedVersionId = current ∧
      Admitted request.command ⟨row.syncState, row.currentVersionId, activeLocator⟩ tombstone := by
  obtain ⟨row, hfo⟩ := hf.workspace
  obtain ⟨ht, hi⟩ := (sourceInWorkspace_eq_some hk).mp hfo
  have hv := hf.valid
  rw [Db.lockedLifecycleSource, (source_eq_some hk).mpr ht, Option.map_some, ← hf.active] at hv
  obtain ⟨hp, he, ha⟩ := validatePreconditions_ok hv
  exact ⟨row, ht, hi, hp, he, ha⟩

theorem TransitionFacts.openLocator {request : LifecycleRequest}
    {activeLocator : Option NormalizedLocator} {a : NormalizedLocator}
    (hf : TransitionFacts request current activeLocator tombstone db)
    (ha : activeLocator = some a) :
    ∃ l ∈ (db.graph request.command.sourceId).locators,
      l.closure = none ∧ l.normalizedLocator = a := by
  obtain ⟨l, hfo, hn⟩ := Option.map_eq_some_iff.mp (hf.active.symm.trans ha)
  obtain ⟨ht, hw⟩ := openLocator_eq_some hfo
  exact ⟨l, ht, hw, hn⟩

section Lifecycle

variable {env : Environment} {request : LifecycleRequest} {i : LifecycleIdentities}
  {current : SourceVersionId} {activeLocator : Option NormalizedLocator}
  {tombstone : Option SourceTombstone} {n : Nat} {result : SourceLifecycleCommitResult}

/-- What a lifecycle commit leaves behind for its result to be rebuilt from: the locator it
opened or the tombstone it made. -/
inductive Leaves (request : LifecycleRequest) (current : SourceVersionId) (n : Nat)
    (result : SourceLifecycleCommitResult) (g : SourceGraph) : Prop
  | active (opened : SourceLocator) (operation : request.command.operation ≠ .delete)
      (stands : opened ∈ g.locators) (event : opened.openedEventId = request.command.eventId)
      (workspace : opened.workspaceId = request.device.workspaceId)
      (answers : result =
        lifecycleResult request current n .active none (some opened.normalizedLocator))
  | deleted (tombstone : SourceTombstone) (operation : request.command.operation = .delete)
      (stands : tombstone ∈ g.tombstones)
      (event : tombstone.deleteEventId = request.command.eventId)
      (workspace : tombstone.workspaceId = request.device.workspaceId)
      (answers : result =
        lifecycleResult request current n .deleted (some tombstone.sourceTombstoneId) none)

theorem renameOrMoveWrites_commit (hk : Keyed db)
    (hf : TransitionFacts request current activeLocator tombstone db)
    (ho : request.command.operation = .rename ∨ request.command.operation = .move)
    (hw : renameOrMoveWrites env request i current activeLocator n db = .ok (db', result)) :
    CommitOf (lifecycleEvent env request current n) db db' ∧
      Leaves request current n result (db'.graph request.command.sourceId) := by
  obtain ⟨row, hs, hwo, hp, _, had⟩ := hf.row hk
  cases had with
  | deletion _ hd => simp [hd] at ho
  | restoration _ _ hre => simp [hre] at ho
  | relocation ex t _ ha hl ht hmo =>
  simp only at ha hl
  obtain ⟨c, hc, hwa, hcl⟩ := hf.openLocator hl
  subst hl
  simp only [renameOrMoveWrites, ht] at hw
  obtain ⟨db₁, hi₁, hw⟩ := bind_ok hw
  obtain ⟨db₂, hi₂, hw⟩ := bind_ok hw
  cases hw
  let ev := lifecycleEvent env request current n
  have hk₁ := KeyedLemmas.insertEvent hk hi₁
  have hg₁ := GraphLemmas.insertEvent (x := request.command.sourceId) rfl hi₁
  obtain ⟨hfr, is₁⟩ := Db.insertEvent_ok hi₁
  have ht₁ : c ∈ (db₁.graph request.command.sourceId).locators := by
    rw [hg₁, Function.update_self]
    exact hc
  obtain ⟨⟨l, isC⟩, hke, hgr⟩ := CommitLemmas.closeExistingLocator (e := ev) hk₁ rfl ht₁ hwa hcl
  have hk₂ := KeyedLemmas.insertLocator hke hi₂
  have hg₂ := GraphLemmas.insertLocator (x := request.command.sourceId) rfl hi₂
  obtain ⟨_, is₂⟩ := Db.insertLocator_ok hi₂
  rw [show closeExistingLocator db₁ request.command ex n = _ from isC] at is₂
  let g := db.graph request.command.sourceId
  have hg : db'.graph = Function.update db.graph request.command.sourceId { g with
      locators := g.closeLocators ev ++ [openedLocatorRow request i t n]
      events := g.events ++ [ev] } := by
    rw [hg₂]
    simp only [show (closeExistingLocator db₁ request.command ex n).graph = _ from hgr,
      hg₁, Function.update_self, Function.update_idem]
    rfl
  refine ⟨⟨hfr, by simp only [is₂, is₁], hk₂, ⟨_, hg, ?_⟩, ?_, ?_, ?_, ?_, ?_⟩, ?_⟩
  · refine .relocate row current c _ hs hwo ha hp hc hwa ?_ rfl ⟨rfl, rfl, rfl, rfl, rfl⟩ ?_
    · rcases ho with hr | hm
      · exact .inl (by simp [lifecycleEvent, hr, eventTypeByOperation])
      · exact .inr (by simp [lifecycleEvent, hm, eventTypeByOperation])
    · rw [hcl]
      exact hmo
  · simp only [is₂, is₁]
    exact fun v hme => hme
  · simp only [is₂, is₁]
    exact fun o hme => hme
  · simp only [is₂, is₁, implies_true]
  · simp only [is₂, is₁, implies_true]
  · constructor <;> simp only [is₂, is₁]
  · refine .active (openedLocatorRow request i t n) ?_ ?_ rfl rfl rfl
    · rcases ho with hr | hm
      · simp [hr]
      · simp [hm]
    · rw [hg, Function.update_self]
      simp

theorem deleteWrites_commit (hk : Keyed db)
    (hf : TransitionFacts request current activeLocator tombstone db)
    (ho : request.command.operation = .delete)
    (hw : deleteWrites env request i current activeLocator n db = .ok (db', result)) :
    CommitOf (lifecycleEvent env request current n) db db' ∧
      Leaves request current n result (db'.graph request.command.sourceId) := by
  obtain ⟨row, ht, hwo, hp, _, had⟩ := hf.row hk
  cases had with
  | relocation _ _ hot => simp [ho] at hot
  | restoration _ _ hr => simp [ho] at hr
  | deletion ex _ ha hl he =>
  simp only at ha hl
  obtain ⟨c, hc, hwa, hcl⟩ := hf.openLocator hl
  subst hl
  simp only [deleteWrites, he, Option.getD_some] at hw
  obtain ⟨db₁, hi₁, hw⟩ := bind_ok hw
  obtain ⟨so, hu, hw⟩ := bind_ok hw
  obtain ⟨db₂, hi₂, hw⟩ := bind_ok hw
  cases hw
  let ev := lifecycleEvent env request current n
  have hk₁ := KeyedLemmas.insertEvent hk hi₁
  have hg₁ := GraphLemmas.insertEvent (x := request.command.sourceId) rfl hi₁
  obtain ⟨hfr, is₁⟩ := Db.insertEvent_ok hi₁
  have ht₁ : c ∈ (db₁.graph request.command.sourceId).locators := by
    rw [hg₁, Function.update_self]
    exact hc
  obtain ⟨⟨l, isC⟩, hke, hg⟩ := CommitLemmas.closeExistingLocator (e := ev) hk₁ rfl ht₁ hwa hcl
  have hro : ((closeExistingLocator db₁ request.command ex n).graph
      request.command.sourceId).rows = [row] := by
    simp only [show (closeExistingLocator db₁ request.command ex n).graph = _ from hg,
      hg₁, Function.update_self]
    exact ht
  have hks := KeyedLemmas.updateSources hke hu (fun _ => rfl)
  obtain ⟨_, hgs⟩ := GraphLemmas.updateSources hro hu
    (fun s hgu => (of_decide_eq_true hgu).1) (fun _ => rfl)
  have hk₂ := KeyedLemmas.insertTombstone hks hi₂
  have hg₂ := GraphLemmas.insertTombstone (x := request.command.sourceId) rfl hi₂
  obtain ⟨_, is₂⟩ := Db.insertTombstone_ok hi₂
  rw [show closeExistingLocator db₁ request.command ex n = _ from isC] at is₂
  let g := db.graph request.command.sourceId
  let d : SourceTombstone := ⟨i.tombstoneId, request.device.workspaceId, request.command.sourceId,
      request.command.eventId, current, ex, none⟩
  have hgr : db'.graph = Function.update db.graph request.command.sourceId { g with
      rows := [{ row with syncState := .deleted }]
      locators := g.closeLocators ev
      tombstones := g.tombstones ++ [d]
      events := g.events ++ [ev] } := by
    rw [hg₂, hgs]
    simp only [show (closeExistingLocator db₁ request.command ex n).graph = _ from hg,
      hg₁, Function.update_self, Function.update_idem]
    rfl
  refine ⟨⟨hfr, by simp only [is₂, is₁], hk₂, ⟨_, hgr, ?_⟩, ?_, ?_, ?_, ?_, ?_⟩, ?_⟩
  · exact .delete row current c d ht hwo ha hp hc hwa
      (by simp [lifecycleEvent, ho, eventTypeByOperation]) rfl rfl rfl rfl rfl hcl.symm
      rfl
  · simp only [is₂, is₁]
    exact fun v hm => hm
  · simp only [is₂, is₁]
    exact fun o hm => hm
  · simp only [is₂, is₁, implies_true]
  · simp only [is₂, is₁, implies_true]
  · constructor <;> simp only [is₂, is₁]
  · refine .deleted d ho ?_ rfl rfl rfl
    rw [hgr, Function.update_self]
    simp

theorem restoreWrites_commit (hk : Keyed db)
    (hf : TransitionFacts request current activeLocator tombstone db)
    (ho : request.command.operation = .restore)
    (hw : restoreWrites env request i current n db = .ok (db', result)) :
    CommitOf (lifecycleEvent env request current n) db db' ∧
      Leaves request current n result (db'.graph request.command.sourceId) := by
  obtain ⟨row, ht, hwo, hp, he, ha⟩ := hf.row hk
  cases ha with
  | relocation _ _ hot => simp [ho] at hot
  | deletion _ hde => simp [ho] at hde
  | restoration tg op _ hd hta hfo hun hof hr =>
  simp only at hd
  obtain ⟨hop, hn⟩ := hf.tombstone op hfo
  simp only [restoreWrites, hta, ← hn] at hw
  obtain ⟨db₁, hi₁, hw⟩ := bind_ok hw
  obtain ⟨tombstones, hup, hw⟩ := bind_ok hw
  obtain ⟨sources, hu, hw⟩ := bind_ok hw
  obtain ⟨db₂, hi₂, hw⟩ := bind_ok hw
  cases hw
  let e := lifecycleEvent env request current n
  have hk₁ := KeyedLemmas.insertEvent hk hi₁
  have hg₁ := GraphLemmas.insertEvent (x := request.command.sourceId) rfl hi₁
  obtain ⟨hfr, is₁⟩ := Db.insertEvent_ok hi₁
  have hkt := KeyedLemmas.updateTombstones hk₁ hup (fun _ => rfl)
  have hgr := GraphLemmas.updateTombstones (x := request.command.sourceId) hup (by
      intro t hm hg
      rw [is₁] at hm
      have hod := tombstone_unique hk hm (List.mem_filter.mp hop).1 (of_decide_eq_true hg).1
      rw [hod, hof])
    (fun _ => rfl)
  have hke := KeyedLemmas.updateSources hkt hu (fun _ => rfl)
  have hro : (Db.graph { db₁ with tombstones } request.command.sourceId).rows = [row] := by
    rw [hgr, Function.update_self, hg₁, Function.update_self]
    exact ht
  obtain ⟨_, hgs⟩ := GraphLemmas.updateSources hro hu
    (fun s hg => (of_decide_eq_true hg).1) (fun _ => rfl)
  have hk₂ := KeyedLemmas.insertLocator hke hi₂
  have hg₂ := GraphLemmas.insertLocator (x := request.command.sourceId) rfl hi₂
  obtain ⟨_, is₂⟩ := Db.insertLocator_ok hi₂
  let g := db.graph request.command.sourceId
  have hgh : db'.graph = Function.update db.graph request.command.sourceId { g with
      rows := [{ row with syncState := .active }]
      locators := g.locators ++ [openedLocatorRow request i tg n]
      tombstones := g.restoreTombstone op.sourceTombstoneId e
      events := g.events ++ [e] } := by
    rw [hg₂, show Db.graph { db₁ with tombstones, sources } = _ from hgs, hgr, hg₁]
    simp only [Function.update_self, Function.update_idem, decide_eq_true_eq]
    rfl
  refine ⟨⟨hfr, by simp only [is₂, is₁], hk₂, ⟨_, hgh, ?_⟩, ?_, ?_, ?_, ?_, ?_⟩, ?_⟩
  · exact .restore row current op _ ht hwo hd hp hop hun
      (hr.trans he) (by simp [lifecycleEvent, ho, eventTypeByOperation]) rfl
      ⟨rfl, rfl, rfl, rfl, rfl⟩
  · simp only [is₂, is₁]
    exact fun v hm => hm
  · simp only [is₂, is₁]
    exact fun o hm => hm
  · simp only [is₂, is₁, implies_true]
  · simp only [is₂, is₁, implies_true]
  · constructor <;> simp only [is₂, is₁]
  · refine .active (openedLocatorRow request i tg n) ?_ ?_ rfl rfl rfl
    · simp [ho]
    · rw [hgh, Function.update_self]
      simp

theorem lifecycleWrites_commit (hk : Keyed db)
    (hf : TransitionFacts request current activeLocator tombstone db)
    (hw : lifecycleWrites env request i current activeLocator n db = .ok (db', result)) :
    CommitOf (lifecycleEvent env request current n) db db' ∧
      Leaves request current n result (db'.graph request.command.sourceId) := by
  unfold lifecycleWrites at hw
  cases ho : request.command.operation with
  | rename =>
    rw [ho] at hw
    exact renameOrMoveWrites_commit hk hf (.inl ho) hw
  | move =>
    rw [ho] at hw
    exact renameOrMoveWrites_commit hk hf (.inr ho) hw
  | delete =>
    rw [ho] at hw
    exact deleteWrites_commit hk hf ho hw
  | restore =>
    rw [ho] at hw
    exact restoreWrites_commit hk hf ho hw

end Lifecycle

/-! ## Conflict -/

namespace CommitLemmas

theorem withConflicts {e : SyncEvent} {conflicts : List SourceConflict}
    (ht : e.eventType.isConflict = true) (hc : CommitOf e db db') :
    CommitOf e db { db' with conflicts } :=
  { fresh := hc.fresh
    events := hc.events
    keyed := { hc.keyed with }
    graph := hc.graph
    versions := hc.versions
    objects := hc.objects
    quiet := hc.quiet
    conflicts := fun ho => by
      rw [ht] at ho
      cases ho
    rest := { hc.rest with } }

theorem record {ρ : Type} {e : SyncEvent} {row : Source} (hk : Keyed db)
    (ht : (db.graph e.sourceId).rows = [row]) (hw : row.workspaceId = e.workspaceId)
    (hty : e.eventType = .conflictCapture ∨ e.eventType = .conflictResolve)
    (hc : e.committedVersionId = none ∨ e.committedVersionId = row.currentVersionId)
    (hi : db.insertEvent e = (.ok db' : Except (Refusal ρ) Db)) : CommitOf e db db' := by
  have hk' := KeyedLemmas.insertEvent hk hi
  have hg := GraphLemmas.insertEvent (x := e.sourceId) rfl hi
  obtain ⟨hf, rfl⟩ := Db.insertEvent_ok hi
  exact {
    fresh := hf
    events := rfl
    keyed := hk'
    graph := ⟨_, hg, .record row ht hw hty hc⟩
    versions := fun _ hm => hm
    objects := fun _ hm => hm
    quiet := fun _ => rfl
    conflicts := fun _ => rfl
    rest := ⟨rfl, rfl, rfl⟩ }

theorem closeConflict {request : ResolutionRequest} {st : ConflictStatus}
    {rv : Option SourceVersionId} {s : Option ConflictId}
    (hc : closeConflict request st rv s db = .ok db') :
    ∃ conflicts, db' = { db with conflicts } := by
  unfold SourceStore.closeConflict at hc
  obtain ⟨db₁, hf, hc⟩ := bind_ok hc
  obtain ⟨conflicts, _, hc⟩ := bind_ok hc
  cases hc
  obtain ⟨_, rfl⟩ := unlessTaken_ok.mp hf
  exact ⟨conflicts, rfl⟩

end CommitLemmas

theorem captureWrites_commit {env : Environment} {request : CaptureRequest} {x : SourceId}
    {result : SourceConflict} {row : Source} (hk : Keyed db)
    (hf : db.sourceInWorkspace request.command.workspaceId x = some row)
    (hw : captureWrites request (some (captureEvent env request.command x n)) db =
      .ok (db', result)) :
    CommitOf (captureEvent env request.command x n) db db' := by
  obtain ⟨ht, hi⟩ := (sourceInWorkspace_eq_some hk).mp hf
  unfold captureWrites at hw
  obtain ⟨db₁, hi₁, hw⟩ := bind_ok hw
  obtain ⟨db₂, hi₂, hw⟩ := bind_ok hw
  cases hw
  have hc := CommitLemmas.record hk ht hi (.inl rfl) (.inl rfl) hi₁
  rw [Db.insertConflict_ok hi₂]
  exact CommitLemmas.withConflicts rfl hc

theorem captureWrites_sourceless {request : CaptureRequest} {result : SourceConflict}
    (hw : captureWrites request none db = .ok (db', result)) :
    ∃ conflicts, db' = { db with conflicts } := by
  unfold captureWrites at hw
  obtain ⟨db₁, hi₁, hw⟩ := bind_ok hw
  obtain ⟨db₂, hi₂, hw⟩ := bind_ok hw
  cases hw
  cases hi₁
  exact ⟨_, Db.insertConflict_ok hi₂⟩

section Resolution

variable {env : Environment} {request : ResolutionRequest} {hct : SourceConflict}
  {n : Nat} {result : ConflictResolutionResult}

variable {x : SourceId}

/-- The event of a resolution with a source, when it commits no version of its own. -/
theorem insertResolutionEvent_commit {c : Option SourceVersionId} {row : Source}
    (hk : Keyed db) (ho : hct.sourceId = some x)
    (hf : db.sourceInWorkspace request.workspaceId x = some row)
    (hr : c = none ∨ c = row.currentVersionId)
    (hin : insertResolutionEvent env request hct c n db = .ok db') :
    CommitOf (resolutionEvent env request hct x c n) db db' := by
  obtain ⟨ht, hi⟩ := (sourceInWorkspace_eq_some hk).mp hf
  simp only [insertResolutionEvent, ho] at hin
  exact CommitLemmas.record hk ht hi (.inr rfl) hr hin

theorem staleSuccessorWrites_commit {current : Option SourceVersionId} {row : Source}
    (hk : Keyed db) (ho : hct.sourceId = some x)
    (hf : db.sourceInWorkspace request.workspaceId x = some row)
    (hw : staleSuccessorWrites env request hct current n db = .ok (db', result)) :
    CommitOf (resolutionEvent env request hct x none n) db db' := by
  unfold staleSuccessorWrites at hw
  obtain ⟨db₁, hi₁, hw⟩ := bind_ok hw
  obtain ⟨db₂, hi₂, hw⟩ := bind_ok hw
  obtain ⟨db₃, hc, hw⟩ := bind_ok hw
  cases hw
  have hco := insertResolutionEvent_commit hk ho hf (.inl rfl) hi₁
  obtain ⟨c, rfl⟩ := CommitLemmas.closeConflict hc
  rw [Db.insertConflict_ok hi₂]
  exact CommitLemmas.withConflicts rfl (CommitLemmas.withConflicts rfl hco)

theorem keepRemoteWrites_commit {row : Source} (hk : Keyed db) (ho : hct.sourceId = some x)
    (hf : db.sourceInWorkspace request.workspaceId x = some row)
    (hr : request.command.reviewedRemoteVersionId = row.currentVersionId)
    (hw : keepRemoteWrites env request hct n db = .ok (db', result)) :
    CommitOf (resolutionEvent env request hct x request.command.reviewedRemoteVersionId n)
      db db' := by
  unfold keepRemoteWrites at hw
  obtain ⟨db₁, hi₁, hw⟩ := bind_ok hw
  obtain ⟨db₂, hc, hw⟩ := bind_ok hw
  cases hw
  have hco := insertResolutionEvent_commit hk ho hf (.inr hr) hi₁
  obtain ⟨c, rfl⟩ := CommitLemmas.closeConflict hc
  exact CommitLemmas.withConflicts rfl hco

theorem resolutionWrites_sourceless (current : Option SourceVersionId) (hs : hct.sourceId = none)
    (hw : staleSuccessorWrites env request hct current n db = .ok (db', result) ∨
      keepRemoteWrites env request hct n db = .ok (db', result)) :
    ∃ conflicts, db' = { db with conflicts } := by
  rcases hw with hw | hw
  · unfold staleSuccessorWrites at hw
    obtain ⟨db₁, hi₁, hw⟩ := bind_ok hw
    obtain ⟨db₂, hi₂, hw⟩ := bind_ok hw
    obtain ⟨db₃, hc, hw⟩ := bind_ok hw
    cases hw
    simp only [insertResolutionEvent, hs] at hi₁
    cases hi₁
    obtain ⟨conflicts, rfl⟩ := CommitLemmas.closeConflict hc
    rw [Db.insertConflict_ok hi₂]
    exact ⟨conflicts, rfl⟩
  · unfold keepRemoteWrites at hw
    obtain ⟨db₁, hi₁, hw⟩ := bind_ok hw
    obtain ⟨db₂, hc, hw⟩ := bind_ok hw
    cases hw
    simp only [insertResolutionEvent, hs] at hi₁
    cases hi₁
    exact CommitLemmas.closeConflict hc

theorem winnerWrites_commit {row : Source} {p ve : SourceVersion} (hk : Keyed db)
    (ho : hct.sourceId = some x)
    (hf : db.sourceInWorkspace request.workspaceId x = some row)
    (hl : row.syncState ≠ .deleted) (hpo : row.currentVersionId = some p.sourceVersionId)
    (hr : request.command.reviewedRemoteVersionId = row.currentVersionId)
    (hp : p ∈ (db.graph x).versions)
    (hwo : ve.workspaceId = request.workspaceId) (ofX : ve.sourceId = x)
    (hn : ve.contentVersion = p.contentVersion + 1)
    (hpa : ve.parentVersionId = some p.sourceVersionId)
    (hs : ∃ o ∈ db.objects, o.contentObjectId = ve.contentObjectId)
    (hw : winnerWrites env request hct x ve n db = .ok (db', result)) :
    CommitOf (resolutionEvent env request hct x (some ve.sourceVersionId) n) db db' := by
  obtain ⟨ht, hi⟩ := (sourceInWorkspace_eq_some hk).mp hf
  unfold winnerWrites at hw
  obtain ⟨db₁, hi₁, hw⟩ := bind_ok hw
  obtain ⟨so, hu, hw⟩ := bind_ok hw
  obtain ⟨db₂, hi₂, hw⟩ := bind_ok hw
  obtain ⟨db₃, hc, hw⟩ := bind_ok hw
  cases hw
  simp only [insertResolutionEvent, ho] at hi₂
  have hk₁ := KeyedLemmas.insertVersion hk hs hi₁
  have hg₁ := GraphLemmas.insertVersion ofX hi₁
  obtain ⟨hun, is₁⟩ := Db.insertVersion_ok hi₁
  have hke := KeyedLemmas.updateSources hk₁ hu (fun _ => rfl)
  have hr₁ : (db₁.graph x).rows = [row] := by
    rw [hg₁, Function.update_self]
    exact ht
  obtain ⟨_, hgr⟩ := GraphLemmas.updateSources hr₁ hu
    (fun s hg => (of_decide_eq_true hg).1) (fun _ => rfl)
  have hk₂ := KeyedLemmas.insertEvent hke hi₂
  have hg₂ := GraphLemmas.insertEvent (x := x) rfl hi₂
  obtain ⟨hfr, is₂⟩ := Db.insertEvent_ok hi₂
  let g := db.graph x
  let e := resolutionEvent env request hct x (some ve.sourceVersionId) n
  have hgh : db₂.graph = Function.update db.graph x { g with
      rows := [{ row with currentVersionId := some ve.sourceVersionId }]
      versions := g.versions ++ [ve]
      events := g.events ++ [e] } := by
    rw [hg₂, hgr, hg₁]
    simp only [Function.update_self, Function.update_idem]
    rfl
  have hu' : ∀ v ∈ g.versions, v.sourceVersionId ≠ ve.sourceVersionId :=
    fun v hm => hun v (mem_graph_versions.mp hm).1
  have hco : CommitOf e db db₂ := by
    refine ⟨?_, ?_, hk₂, ⟨_, hgh, ?_⟩, ?_, ?_, ?_, ?_, ?_⟩
    · simpa only [is₁] using hfr
    · simp only [is₂, is₁, e]
    · exact .publish row p ve ht hi hl hpo hp (.inr rfl) (hr.trans hpo) rfl ⟨hwo, ofX⟩ hu' hn hpa
    · intro v hm
      simp only [is₂, is₁]
      exact List.mem_append_left _ hm
    · intro o hm
      simp only [is₂, is₁]
      exact hm
    · intro he
      simp only [is₂, is₁] at he
      simp at he
    · intro _
      simp only [is₂, is₁]
    · constructor <;> simp only [is₂, is₁]
  obtain ⟨c, rfl⟩ := CommitLemmas.closeConflict hc
  exact CommitLemmas.withConflicts rfl hco

end Resolution

end PersonalOs.SourceStore
