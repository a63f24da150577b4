import PersonalOs.Basis.Fallible
import PersonalOs.SourceStore.Conflict
import PersonalOs.SourceStore.Lifecycle
import PersonalOs.SourceStore.SourceGraph

/-!
# What the guarded writes do

One lemma for each write of the stores: when it is accepted, the tables stay within their
unique constraints and the graph of one source changes, that of no other.
-/

namespace PersonalOs.SourceStore

/-! ## Accepted writes -/

variable {ρ : Type} {db db' : Db}

theorem unlessTaken_ok {t : Bool} {a : Db} :
    unlessTaken t a = (.ok db' : Except (Refusal ρ) Db) ↔ t = false ∧ db' = a := by
  unfold unlessTaken
  cases t with
  | true => simp
  | false => simp [eq_comm]

theorem Db.insertEvent_ok {e : SyncEvent}
    (inserted : db.insertEvent e = (.ok db' : Except (Refusal ρ) Db)) :
    (∀ x ∈ db.events, x.eventId ≠ e.eventId ∧
      ¬(x.workspaceId = e.workspaceId ∧ x.idempotencyKey = e.idempotencyKey)) ∧
    db' = { db with events := db.events ++ [e] } := by
  unfold Db.insertEvent at inserted
  obtain ⟨free, rfl⟩ := unlessTaken_ok.mp inserted
  refine ⟨fun x member => ?_, rfl⟩
  have := List.any_eq_false.mp free x member
  simpa only [decide_eq_true_eq, not_or] using this

theorem Db.insertSource_ok {s : Source}
    (inserted : db.insertSource s = (.ok db' : Except (Refusal ρ) Db)) :
    (∀ x ∈ db.sources, x.sourceId ≠ s.sourceId) ∧
    db' = { db with sources := db.sources ++ [s] } := by
  unfold Db.insertSource at inserted
  obtain ⟨free, rfl⟩ := unlessTaken_ok.mp inserted
  refine ⟨fun x member => ?_, rfl⟩
  have := List.any_eq_false.mp free x member
  simpa only [decide_eq_true_eq] using this

theorem Db.insertVersion_ok {v : SourceVersion}
    (inserted : db.insertVersion v = (.ok db' : Except (Refusal ρ) Db)) :
    (∀ x ∈ db.versions, x.sourceVersionId ≠ v.sourceVersionId) ∧
    db' = { db with versions := db.versions ++ [v] } := by
  unfold Db.insertVersion at inserted
  obtain ⟨free, rfl⟩ := unlessTaken_ok.mp inserted
  refine ⟨fun x member same => ?_, rfl⟩
  have := List.any_eq_false.mp free x member
  simp only [decide_eq_true_eq, not_or] at this
  exact this.1 same

theorem Db.insertLocator_ok {l : SourceLocator}
    (inserted : db.insertLocator l = (.ok db' : Except (Refusal ρ) Db)) :
    (∀ x ∈ db.locators, x.sourceLocatorId ≠ l.sourceLocatorId ∧
      (x.closure = none → x.sourceId ≠ l.sourceId ∧
        ¬(x.workspaceId = l.workspaceId ∧ x.normalizedLocator = l.normalizedLocator))) ∧
    db' = { db with locators := db.locators ++ [l] } := by
  unfold Db.insertLocator at inserted
  obtain ⟨free, rfl⟩ := unlessTaken_ok.mp inserted
  refine ⟨fun x member => ?_, rfl⟩
  have := List.any_eq_false.mp free x member
  simp only [decide_eq_true_eq, not_or, not_and] at this
  exact ⟨this.1, fun unclosed => ⟨(this.2 unclosed).1, fun same => (this.2 unclosed).2 same.1 same.2⟩⟩

theorem Db.insertTombstone_ok {t : SourceTombstone}
    (inserted : db.insertTombstone t = (.ok db' : Except (Refusal ρ) Db)) :
    (∀ x ∈ db.tombstones, x.sourceTombstoneId ≠ t.sourceTombstoneId) ∧
    db' = { db with tombstones := db.tombstones ++ [t] } := by
  unfold Db.insertTombstone at inserted
  obtain ⟨free, rfl⟩ := unlessTaken_ok.mp inserted
  refine ⟨fun x member same => ?_, rfl⟩
  have := List.any_eq_false.mp free x member
  simp only [decide_eq_true_eq, not_or] at this
  exact this.1 same

theorem Db.insertConflict_ok {c : SourceConflict}
    (hi : db.insertConflict c = (.ok db' : Except (Refusal ρ) Db)) :
    db' = { db with conflicts := db.conflicts ++ [c] } := by
  unfold Db.insertConflict at hi
  exact (unlessTaken_ok.mp hi).2

theorem guardedUpdate_ok {α : Type} {rs rs' : List α} {g : α → Bool} {w : α → α}
    {re : ρ} (hu : guardedUpdate rs g w re = .ok rs') :
    (∃ r ∈ rs, g r = true) ∧ rs' = rs.map fun r => if g r then w r else r := by
  unfold guardedUpdate at hu
  split at hu
  next hf =>
    cases hu
    exact ⟨List.any_eq_true.mp hf, rfl⟩
  next => cases hu

/-! ## Unique constraints -/

/-- The unique constraints of the tables with the foreign key to the content objects. -/
structure Keyed (db : Db) : Prop where
  events : db.events.Pairwise fun a b => a.eventId ≠ b.eventId ∧
    ¬(a.workspaceId = b.workspaceId ∧ a.idempotencyKey = b.idempotencyKey)
  sources : db.sources.Pairwise fun a b => a.sourceId ≠ b.sourceId
  versions : db.versions.Pairwise fun a b => a.sourceVersionId ≠ b.sourceVersionId
  objects : db.objects.Pairwise fun a b =>
    a.contentObjectId ≠ b.contentObjectId ∧ a.contentHash ≠ b.contentHash
  locators : db.locators.Pairwise fun a b => a.sourceLocatorId ≠ b.sourceLocatorId ∧
    (a.closure = none → b.closure = none → a.sourceId ≠ b.sourceId ∧
      ¬(a.workspaceId = b.workspaceId ∧ a.normalizedLocator = b.normalizedLocator))
  tombstones : db.tombstones.Pairwise fun a b => a.sourceTombstoneId ≠ b.sourceTombstoneId
  stored : ∀ v ∈ db.versions, ∃ o ∈ db.objects, o.contentObjectId = v.contentObjectId

theorem keyed_empty : Keyed .empty := by
  constructor <;> simp [Db.empty]

namespace KeyedLemmas

theorem pairwise_snoc {α : Type} {R : α → α → Prop} {rs : List α} {new : α}
    (old : rs.Pairwise R) (hd : ∀ x ∈ rs, R x new) : (rs ++ [new]).Pairwise R := by
  rw [List.pairwise_append]
  exact ⟨old, List.pairwise_singleton _ _, by simpa using hd⟩

theorem insertEvent {e : SyncEvent} (hk : Keyed db)
    (hi : db.insertEvent e = (.ok db' : Except (Refusal ρ) Db)) : Keyed db' := by
  obtain ⟨hf, rfl⟩ := Db.insertEvent_ok hi
  exact { hk with events := pairwise_snoc hk.events hf }

theorem insertSource {s : Source} (hk : Keyed db)
    (hi : db.insertSource s = (.ok db' : Except (Refusal ρ) Db)) : Keyed db' := by
  obtain ⟨hf, rfl⟩ := Db.insertSource_ok hi
  exact { hk with sources := pairwise_snoc hk.sources hf }

theorem insertVersion {v : SourceVersion} (hk : Keyed db)
    (hs : ∃ o ∈ db.objects, o.contentObjectId = v.contentObjectId)
    (hi : db.insertVersion v = (.ok db' : Except (Refusal ρ) Db)) : Keyed db' := by
  obtain ⟨hf, rfl⟩ := Db.insertVersion_ok hi
  refine { hk with versions := pairwise_snoc hk.versions hf, stored := ?_ }
  intro x hm
  rcases List.mem_append.mp hm with old | new
  · exact hk.stored x old
  · rw [List.mem_singleton.mp new]
    exact hs

theorem insertLocator {l : SourceLocator} (hk : Keyed db)
    (hi : db.insertLocator l = (.ok db' : Except (Refusal ρ) Db)) : Keyed db' := by
  obtain ⟨hf, rfl⟩ := Db.insertLocator_ok hi
  refine { hk with locators := pairwise_snoc hk.locators fun x hm => ?_ }
  exact ⟨(hf x hm).1, fun hu _ => (hf x hm).2 hu⟩

theorem insertTombstone {t : SourceTombstone} (hk : Keyed db)
    (hi : db.insertTombstone t = (.ok db' : Except (Refusal ρ) Db)) : Keyed db' := by
  obtain ⟨hf, rfl⟩ := Db.insertTombstone_ok hi
  exact { hk with tombstones := pairwise_snoc hk.tombstones hf }

theorem pairwise_map {α κ : Type} {rs : List α} {w : α → α} (key : α → κ)
    (hk : ∀ r, key (w r) = key r) (old : rs.Pairwise fun a b => key a ≠ key b) :
    (rs.map w).Pairwise fun a b => key a ≠ key b := by
  rw [List.pairwise_map]
  exact old.imp fun {a b} hd => by rw [hk a, hk b]; exact hd

theorem guarded_kept {α κ : Type} (key : α → κ) {g : α → Bool} {w : α → α}
    (hk : ∀ r, key (w r) = key r) (r : α) : key (if g r then w r else r) = key r := by
  split
  · exact hk r
  · rfl

theorem updateSources {g : Source → Bool} {w : Source → Source} {r : ρ}
    {sources : List Source} (hk : Keyed db)
    (hu : guardedUpdate db.sources g w r = .ok sources)
    (hke : ∀ s, (w s).sourceId = s.sourceId) :
    Keyed { db with sources } := by
  obtain ⟨_, rfl⟩ := guardedUpdate_ok hu
  exact { hk with
    sources := pairwise_map Source.sourceId (guarded_kept Source.sourceId hke) hk.sources }

theorem updateTombstones {g : SourceTombstone → Bool}
    {w : SourceTombstone → SourceTombstone} {r : ρ} {tombstones : List SourceTombstone}
    (hk : Keyed db)
    (hu : guardedUpdate db.tombstones g w r = .ok tombstones)
    (hke : ∀ t, (w t).sourceTombstoneId = t.sourceTombstoneId) :
    Keyed { db with tombstones } := by
  obtain ⟨_, rfl⟩ := guardedUpdate_ok hu
  exact { hk with
    tombstones := pairwise_map SourceTombstone.sourceTombstoneId
      (guarded_kept SourceTombstone.sourceTombstoneId hke) hk.tombstones }

theorem closeLocators (ch : SourceLocator → Bool) (c : LocatorClosure) (hk : Keyed db) :
    Keyed { db with
      locators := db.locators.map fun l =>
        if ch l then { l with closure := some c } else l } := by
  refine { hk with locators := ?_ }
  simp only [List.pairwise_map]
  refine hk.locators.imp fun {a b} ha => ?_
  split
  · split <;> simp [ha.1]
  · split
    · simp [ha.1]
    · exact ha

theorem upsertObject {o : ContentObject} (hk : Keyed db)
    (hu : db.upsertObject o = (.ok db' : Except (Refusal ρ) Db)) : Keyed db' := by
  unfold Db.upsertObject at hu
  split at hu
  next =>
    cases hu
    exact hk
  next hmi =>
    obtain ⟨hf, rfl⟩ := unlessTaken_ok.mp hu
    refine { hk with objects := pairwise_snoc hk.objects fun x hm => ?_, stored := ?_ }
    · have hi := List.any_eq_false.mp hf x hm
      simp only [decide_eq_true_eq] at hi
      refine ⟨hi, fun he => hmi ?_⟩
      rw [Db.objectByHash, List.find?_isSome]
      exact ⟨x, hm, by simpa using he⟩
    · intro v hm
      obtain ⟨x, ht, he⟩ := hk.stored v hm
      exact ⟨x, List.mem_append_left _ ht, he⟩

theorem insertContentObject {r : VerifiedObjectReceipt} {oi : ContentObjectId}
    {ob : ContentObject} (hk : Keyed db)
    (hi : insertContentObject db oi r = .ok (db', ob)) :
    Keyed db' ∧ ob ∈ db'.objects ∧ ob.contentHash = r.contentDigest ∧
      (∃ objects, db' = { db with objects }) ∧ ∀ o ∈ db.objects, o ∈ db'.objects := by
  unfold SourceStore.insertContentObject at hi
  obtain ⟨a, hu, hf⟩ := bind_ok hi
  have hk' := upsertObject hk hu
  have hg : (∃ objects, a = { db with objects }) ∧ ∀ o ∈ db.objects, o ∈ a.objects := by
    unfold Db.upsertObject at hu
    split at hu
    · cases hu
      exact ⟨⟨db.objects, rfl⟩, fun o hm => hm⟩
    · obtain ⟨_, rfl⟩ := unlessTaken_ok.mp hu
      exact ⟨⟨_, rfl⟩, fun o hm => List.mem_append_left _ hm⟩
  split at hf
  next => cases hf
  next o' ht =>
    split at hf
    next =>
      cases hf
      have hm := List.mem_of_find?_eq_some ht
      have hma := List.find?_some ht
      exact ⟨hk', hm, by simpa using hma, hg⟩
    next => cases hf

end KeyedLemmas

/-! ## Graphs -/

namespace GraphLemmas

variable {x : SourceId}

theorem insertEvent {e : SyncEvent} (ofX : e.sourceId = x)
    (hi : db.insertEvent e = (.ok db' : Except (Refusal ρ) Db)) :
    db'.graph = Function.update db.graph x
      { db.graph x with events := (db.graph x).events ++ [e] } := by
  obtain ⟨_, rfl⟩ := Db.insertEvent_ok hi
  subst ofX
  funext x
  by_cases he : x = e.sourceId
  · subst he
    simp [Db.graph]
  · simp [Db.graph, he, Ne.symm he]

theorem insertSource {s : Source} (ofX : s.sourceId = x)
    (hi : db.insertSource s = (.ok db' : Except (Refusal ρ) Db)) :
    (db.graph x).rows = [] ∧
    db'.graph = Function.update db.graph x { db.graph x with rows := [s] } := by
  obtain ⟨hf, rfl⟩ := Db.insertSource_ok hi
  subst ofX
  have hn : (db.graph s.sourceId).rows = [] := by
    simpa [Db.graph, List.filter_eq_nil_iff] using hf
  refine ⟨hn, ?_⟩
  funext x
  by_cases he : x = s.sourceId
  · subst he
    simp only [Db.graph] at hn
    simp [Db.graph, hn]
  · simp [Db.graph, he, Ne.symm he]

theorem insertVersion {v : SourceVersion} (ofX : v.sourceId = x)
    (hi : db.insertVersion v = (.ok db' : Except (Refusal ρ) Db)) :
    db'.graph = Function.update db.graph x
      { db.graph x with versions := (db.graph x).versions ++ [v] } := by
  obtain ⟨_, rfl⟩ := Db.insertVersion_ok hi
  subst ofX
  funext x
  by_cases he : x = v.sourceId
  · subst he
    simp [Db.graph]
  · simp [Db.graph, he, Ne.symm he]

theorem insertLocator {l : SourceLocator} {x : SourceId} (ofX : l.sourceId = x)
    (hi : db.insertLocator l = (.ok db' : Except (Refusal ρ) Db)) :
    db'.graph = Function.update db.graph x
      { db.graph x with locators := (db.graph x).locators ++ [l] } := by
  obtain ⟨_, rfl⟩ := Db.insertLocator_ok hi
  subst ofX
  funext x
  by_cases he : x = l.sourceId
  · subst he
    simp [Db.graph]
  · simp [Db.graph, he, Ne.symm he]

theorem insertTombstone {t : SourceTombstone} (ofX : t.sourceId = x)
    (hi : db.insertTombstone t = (.ok db' : Except (Refusal ρ) Db)) :
    db'.graph = Function.update db.graph x
      { db.graph x with tombstones := (db.graph x).tombstones ++ [t] } := by
  obtain ⟨_, rfl⟩ := Db.insertTombstone_ok hi
  subst ofX
  funext x
  by_cases he : x = t.sourceId
  · subst he
    simp [Db.graph]
  · simp [Db.graph, he, Ne.symm he]

theorem filter_map {α : Type} (so : α → SourceId) (w : α → α) (rs : List α)
    (hk : ∀ r, so (w r) = so r) (x : SourceId) :
    (rs.map w).filter (fun r => so r = x) = (rs.filter fun r => so r = x).map w := by
  rw [List.filter_map]
  congr 1
  refine List.filter_congr fun r _ => ?_
  simp [hk r]

theorem map_filter_of_eq {α : Type} (so : α → SourceId) (w : α → α) (rs : List α)
    (x : SourceId) (hi : ∀ r ∈ rs, so r = x → w r = r) :
    (rs.filter fun r => so r = x).map w = rs.filter fun r => so r = x := by
  conv_rhs => rw [← List.map_id (rs.filter fun r => so r = x)]
  refine List.map_congr_left fun r hm => ?_
  obtain ⟨ht, he⟩ := List.mem_filter.mp hm
  exact hi r ht (by simpa using he)

theorem updateSources {g : Source → Bool} {w : Source → Source} {re : ρ}
    {sources : List Source} {x : SourceId} {row : Source}
    (hr : (db.graph x).rows = [row])
    (hu : guardedUpdate db.sources g w re = .ok sources)
    (ofX : ∀ s, g s = true → s.sourceId = x) (hk : ∀ s, (w s).sourceId = s.sourceId) :
    g row = true ∧ Db.graph { db with sources } =
      Function.update db.graph x { db.graph x with rows := [w row] } := by
  obtain ⟨⟨s, hm, hg⟩, rfl⟩ := guardedUpdate_ok hu
  have ha : g row = true := by
    have ht : s ∈ (db.graph x).rows := List.mem_filter.mpr ⟨hm, by simpa using ofX s hg⟩
    rw [hr] at ht
    rw [List.mem_singleton.mp ht] at hg
    exact hg
  refine ⟨ha, ?_⟩
  have hp (y : SourceId) := filter_map Source.sourceId (fun r => if g r then w r else r) db.sources
    (KeyedLemmas.guarded_kept Source.sourceId hk) y
  funext y
  by_cases he : y = x
  · subst he
    simp only [Db.graph] at hr
    simp only [Function.update_self, Db.graph, hp, hr, List.map_cons, List.map_nil, ha, if_true]
  · simp only [Function.update_of_ne he, Db.graph, hp]
    rw [map_filter_of_eq Source.sourceId _ db.sources y]
    intro s _ ofY
    rw [if_neg fun hg => he (ofY ▸ ofX s hg)]

theorem updateTombstones {g : SourceTombstone → Bool}
    {w : SourceTombstone → SourceTombstone} {re : ρ} {tombstones : List SourceTombstone}
    (hu : guardedUpdate db.tombstones g w re = .ok tombstones)
    (ofX : ∀ t ∈ db.tombstones, g t = true → t.sourceId = x)
    (hk : ∀ t, (w t).sourceId = t.sourceId) :
    Db.graph { db with tombstones } = Function.update db.graph x { db.graph x with
      tombstones := (db.graph x).tombstones.map fun t => if g t then w t else t } := by
  obtain ⟨_, rfl⟩ := guardedUpdate_ok hu
  have hp (y : SourceId) := filter_map SourceTombstone.sourceId
    (fun r => if g r then w r else r) db.tombstones
    (KeyedLemmas.guarded_kept SourceTombstone.sourceId hk) y
  funext y
  by_cases he : y = x
  · subst he
    simp only [Function.update_self, Db.graph, hp]
  · simp only [Function.update_of_ne he, Db.graph, hp]
    rw [map_filter_of_eq SourceTombstone.sourceId _ db.tombstones y]
    intro t hm ofY
    rw [if_neg fun hg => he (ofY ▸ ofX t hm hg)]

theorem writeLocators {w : SourceLocator → SourceLocator} (hk : ∀ l, (w l).sourceId = l.sourceId)
    (hi : ∀ l ∈ db.locators, l.sourceId ≠ x → w l = l) :
    Db.graph { db with locators := db.locators.map w } = Function.update db.graph x
        { db.graph x with locators := (db.graph x).locators.map w } := by
  funext y
  by_cases he : y = x
  · subst he
    simp only [Function.update_self, Db.graph, filter_map SourceLocator.sourceId w db.locators hk]
  · simp only [Function.update_of_ne he, Db.graph,
      filter_map SourceLocator.sourceId w db.locators hk]
    rw [map_filter_of_eq SourceLocator.sourceId w db.locators y
      (fun l hm ofY => hi l hm (ofY ▸ he))]

end GraphLemmas

end PersonalOs.SourceStore
