import PersonalOs.SourceStore.LifecycleRuns

/-!
# What devices are told of an event

A pull joins an event with versions, objects, locators and tombstones. Later commits close and
restore some of these rows; what devices are told of the event stays the same. Deliverable events
appear in the order of their numbers, so a watermark passes none that is still to come. An event
of a source that was created without a locator is never told; no other event fails the check of
its operands.
-/

namespace PersonalOs.SourceStore

open LookupLemmas ReplayLemmas Transactions
open DeviceSync (DeviceEventOperation DeviceSyncErrorCode DeviceSyncEvent Fingerprint rowsAbove
  readCursor)

def ClosesAtMost (e : SyncEvent) (l l' : SourceLocator) : Prop :=
  l' = l ∨ l.closure = none ∧ l' = { l with closure := some ⟨e.eventId, e.eventSequence⟩ }

def RestoresAtMost (e : SyncEvent) (t t' : SourceTombstone) : Prop :=
  t' = t ∨ t.restoreEventId = none ∧ t' = { t with restoreEventId := some e.eventId }

namespace DeliveredEventsLemmas

variable {db db' : Db} {e x : SyncEvent} {g g' : SourceGraph} {ev : DeviceSyncEvent}

theorem locators_step (hv : GraphStep x g g') : ∃ c m, (∀ l, ClosesAtMost x l (c l)) ∧
    (∀ l ∈ m, Opens x l) ∧ g'.locators = g.locators.map c ++ m := by
  obtain ⟨m, ho, _, hl | hl⟩ := hv.locators
  · exact ⟨id, m, fun _ => .inl rfl, ho, by rw [hl, List.map_id]⟩
  · refine ⟨_, m, fun l => ?_, ho, hl⟩
    split
    next hn => exact .inr ⟨hn, rfl⟩
    next => exact .inl rfl

theorem tombstones_step (hv : GraphStep x g g') : ∃ r m, (∀ t, RestoresAtMost x t (r t)) ∧
    (∀ t ∈ m, t.deleteEventId = x.eventId ∧ t.restoreEventId = none) ∧
      g'.tombstones = g.tombstones.map r ++ m := by
  cases hv with
  | create | repeatCurrent | publish | relocate | record =>
    exact ⟨id, [], fun _ => .inl rfl, by simp, by simp⟩
  | delete _ _ _ t _ _ _ _ _ _ _ _ _ _ hd _ _ hr =>
    exact ⟨id, [t], fun _ => .inl rfl, by simpa using ⟨hd, hr⟩, by simp⟩
  | restore =>
    refine ⟨_, [], fun t => ?_, by simp, (List.append_nil _).symm⟩
    split
    next h => exact .inr ⟨h.2, rfl⟩
    next => exact .inl rfl

theorem argmax_map {α : Type} {c : α → α} {f : α → Nat} (hf : ∀ a, f (c a) = f a) (rs : List α) :
    (rs.map c).argmax f = (rs.argmax f).map c := by
  induction rs using List.reverseRecOn with
  | nil => rfl
  | append_singleton rs a ih =>
    rw [List.map_append, List.map_singleton, List.argmax_concat, List.argmax_concat, ih]
    cases rs.argmax f with
    | none => rfl
    | some b =>
      simp only [Option.map_some, hf]
      split <;> rfl

theorem locator_kept (hc : CommitOf x db db') {w : WorkspaceId} {s : SourceId}
    {q : SourceLocator → Prop} [DecidablePred q]
    (hk : s = x.sourceId → ∀ l l', ClosesAtMost x l l' → (q l' ↔ q l))
    (hn : s = x.sourceId → ∀ l, Opens x l → ¬q l) :
    let p (l : SourceLocator) : Bool := l.workspaceId = w ∧ l.sourceId = s ∧ q l
    (db'.locators.find? p).map SourceLocator.normalizedLocator =
        (db.locators.find? p).map SourceLocator.normalizedLocator ∧
      ((db'.locators.filter p).argmax SourceLocator.openedSequence).map
          SourceLocator.normalizedLocator =
        ((db.locators.filter p).argmax SourceLocator.openedSequence).map
          SourceLocator.normalizedLocator := by
  intro p
  let p' (l : SourceLocator) : Bool := l.workspaceId = w ∧ q l
  have hp (l : SourceLocator) : p l = (decide (l.sourceId = s) && p' l) := by
    by_cases h : l.sourceId = s <;> simp [p, p', h]
  have hf (d : Db) : d.locators.find? p = (d.graph s).locators.find? p' := by
    simp only [Db.graph, List.find?_filter, funext hp, Bool.decide_and, Bool.decide_eq_true]
  have ha (d : Db) : d.locators.filter p = (d.graph s).locators.filter p' := by
    simp only [Db.graph, List.filter_filter, funext hp, Bool.and_comm]
  rw [hf, hf, ha, ha]
  by_cases ho : s = x.sourceId
  · have hv := hc.step
    rw [← ho] at hv
    obtain ⟨c, m, hc, hm, hl⟩ := locators_step hv
    have hs (l : SourceLocator) : (c l).workspaceId = l.workspaceId ∧
        (c l).openedSequence = l.openedSequence ∧
        (c l).normalizedLocator = l.normalizedLocator := by
      rcases hc l with h | ⟨-, h⟩ <;> simp [h]
    have hkp (l : SourceLocator) : p' (c l) = p' l := by
      simp only [p', hk ho l _ (hc l), (hs l).1]
    have hnp : ∀ l ∈ m, p' l = false := fun l h => by simp [p', hn ho l (hm l h)]
    rw [hl]
    refine ⟨find?_map_append hkp (fun l => (hs l).2.2) hnp, ?_⟩
    rw [List.filter_append, show m.filter p' = [] by simpa using hnp, List.append_nil,
      List.filter_map, show p' ∘ c = p' from funext hkp, argmax_map fun l => (hs l).2.1,
      Option.map_map]
    exact congrArg (Option.map · _) (funext fun l => (hs l).2.2)
  · rw [hc.others ho]
    exact ⟨rfl, rfl⟩

theorem tombstone_kept (hc : CommitOf x db db') {w : WorkspaceId} {s : SourceId}
    {q : SourceTombstone → Prop} [DecidablePred q]
    (hk : s = x.sourceId → ∀ t t', RestoresAtMost x t t' → (q t' ↔ q t))
    (hn : s = x.sourceId → ∀ t, t.deleteEventId = x.eventId ∧ t.restoreEventId = none → ¬q t) :
    let p (t : SourceTombstone) : Bool :=
      decide (t.workspaceId = w ∧ t.sourceId = s) = true ∧ q t
    (db'.tombstones.find? p).map SourceTombstone.sourceTombstoneId =
      (db.tombstones.find? p).map SourceTombstone.sourceTombstoneId := by
  intro p
  let p' (t : SourceTombstone) : Bool := t.workspaceId = w ∧ q t
  have hp (t : SourceTombstone) : p t = (decide (t.sourceId = s) && p' t) := by
    by_cases h : t.sourceId = s <;> simp [p, p', h]
  have hf (d : Db) : d.tombstones.find? p = (d.graph s).tombstones.find? p' := by
    simp only [Db.graph, List.find?_filter, funext hp, Bool.decide_and, Bool.decide_eq_true]
  rw [hf, hf]
  by_cases ho : s = x.sourceId
  · have hv := hc.step
    rw [← ho] at hv
    obtain ⟨r, m, hr, hd, ht⟩ := tombstones_step hv
    rw [ht]
    refine find?_map_append (fun t => ?_) (fun t => ?_) fun t h => ?_
    · have hw : (r t).workspaceId = t.workspaceId := by rcases hr t with h | ⟨-, h⟩ <;> simp [h]
      simp only [p', hk ho _ _ (hr t), hw]
    · rcases hr t with h | ⟨-, h⟩ <;> simp [h]
    · simp [p', hn ho t (hd t h)]
  · rw [hc.others ho]

theorem fingerprint_kept (hk : Keyed db) (hk' : Keyed db') (hg : Grows db db')
    {missing : DeviceSyncErrorCode} {id : Option SourceVersionId} {f : Option Fingerprint}
    (hf : db.fingerprint e missing id = .ok f) : db'.fingerprint e missing id = .ok f := by
  cases id with
  | none => exact hf
  | some id =>
    unfold Db.fingerprint at hf ⊢
    dsimp only at hf ⊢
    split at hf
    next o ho =>
      obtain ⟨v, hv, ho⟩ := Option.bind_eq_some_iff.mp ho
      have hv' := (version_eq_some hk).mp hv
      have ho' := (object_eq_some hk).mp ho
      rw [(version_eq_some hk').mpr ⟨hg.versions v hv'.1, hv'.2⟩, Option.bind_some,
        (object_eq_some hk').mpr ⟨hg.objects o ho'.1, ho'.2⟩]
      exact hf
    next => cases hf

theorem joined_kept (hc : CommitOf x db db') (he : e ∈ db.events)
    (hs : e.sourceId = x.sourceId → e.eventSequence < x.eventSequence) :
    (db'.closedBy e).map SourceLocator.normalizedLocator =
        (db.closedBy e).map SourceLocator.normalizedLocator ∧
      db'.resultingLocator e = db.resultingLocator e ∧
      (db'.tombstoneOf e).map SourceTombstone.sourceTombstoneId =
        (db.tombstoneOf e).map SourceTombstone.sourceTombstoneId := by
  have hf : x.eventId ≠ e.eventId := (hc.fresh e he).1.symm
  have hd := tombstone_kept (w := e.workspaceId) (s := e.sourceId)
    (q := fun t => t.deleteEventId = e.eventId) hc
    (fun _ t t' h => by rcases h with h | ⟨-, h⟩ <;> simp [h]) fun _ t h => by simp [h.1, hf]
  have hr := tombstone_kept (w := e.workspaceId) (s := e.sourceId)
    (q := fun t => t.restoreEventId = some e.eventId) hc
    (fun _ t t' h => by rcases h with h | ⟨hn, h⟩ <;> simp [*]) fun _ t h => by simp [h.2]
  refine ⟨(locator_kept hc (fun _ l l' h => ?_) fun _ l h => ?_).1, ?_, ?_⟩
  · rcases h with h | ⟨hn, h⟩ <;> simp [*]
  · simp [h.unclosed]
  · unfold Db.resultingLocator
    split
    · refine (locator_kept hc (fun ho l l' h => ?_) fun ho l h => ?_).2
      · have hl := hs ho
        rcases h with h | ⟨hn, h⟩ <;> simp [*, SourceLocator.closedBy]
      · have hl := hs ho
        simp [h.sequence, hl]
    · refine (locator_kept hc (fun _ l l' h => ?_) fun _ l h => ?_).1
      · rcases h with h | ⟨-, h⟩ <;> simp [h]
      · simp [h.event, hf]
  · simpa [Db.tombstoneOf, Option.map_or] using congrArg₂ Option.or hd hr

theorem hydrate_commit (hk : Keyed db) (hc : CommitOf x db db') (he : e ∈ db.events)
    (hs : e.sourceId = x.sourceId → e.eventSequence < x.eventSequence)
    (hh : hydrateDeviceEvent db e = .ok ev) : hydrateDeviceEvent db' e = .ok ev := by
  obtain ⟨hcl, hr, ht⟩ := joined_kept hc he hs
  unfold hydrateDeviceEvent at hh ⊢
  cases op : e.eventType.operation with
  | none =>
    rw [op] at hh
    cases hh
  | some o =>
    rw [op] at hh
    obtain ⟨b, hb, hh⟩ := bind_ok hh
    obtain ⟨cu, hcu, hh⟩ := bind_ok hh
    show (db'.fingerprint e _ _ >>= _) = _
    rw [fingerprint_kept hk hc.keyed hc.grows hb]
    show (db'.fingerprint e _ _ >>= _) = _
    rw [fingerprint_kept hk hc.keyed hc.grows hcu]
    simp only [ht, hcl, hr]
    exact hh

variable {env : Environment} {w w' : StoreWorld}

theorem hydrate_step {a : Action StoreCall} (hr : (storeMachine env).Reachable w)
    (ht : e ∈ w.snapshot.db.events ∧ hydrateDeviceEvent w.snapshot.db e = .ok ev)
    (hv : (storeMachine env).step w a = some w') :
    e ∈ w'.snapshot.db.events ∧ hydrateDeviceEvent w'.snapshot.db e = .ok ev := by
  obtain ⟨he, hh⟩ := ht
  rcases commit_of_change (sound_of_reachable hr) hv with
    hsa | ⟨i, s, _, _, ⟨x, hx⟩ | hsi⟩
  · exact hsa ▸ ⟨he, hh⟩
  · exact ⟨hx.commit.grows.events e he,
      hydrate_commit (inv_of_reachable hr).keyed hx.commit he (hx.behind e he) hh⟩
  · obtain ⟨c, au, cu, r, hsc⟩ := hsi.sameCanon
    rw [hsc]
    exact ⟨he, hh⟩

end DeliveredEventsLemmas

variable {env : Environment} {w w' : StoreWorld}

/-- An event that a device could once be told is told in the same words for ever. -/
theorem delivered_event_kept (reached : (storeMachine env).Reachable w)
    (leads : (storeMachine env).Leads w w') {e : SyncEvent} (stands : e ∈ w.snapshot.db.events)
    {ev : DeviceSyncEvent} (told : hydrateDeviceEvent w.snapshot.db e = .ok ev) :
    e ∈ w'.snapshot.db.events ∧ hydrateDeviceEvent w'.snapshot.db e = .ok ev :=
  leads.keeps (fun _ _ _ => DeliveredEventsLemmas.hydrate_step) reached ⟨stands, told⟩

/-- The create of a note is told the same after its rename. -/
theorem delivered_event_kept_renamed : ∃ w w' e ev,
    (storeMachine sampleEnvironment).Leads w w' ∧
    w'.snapshot.db.locators.length = w.snapshot.db.locators.length + 1 ∧
    hydrateDeviceEvent w.snapshot.db e = .ok ev ∧ hydrateDeviceEvent w'.snapshot.db e = .ok ev := by
  obtain ⟨w, ran⟩ : ∃ w,
      (storeMachine sampleEnvironment).run emptyWorld createScript = some w := ⟨_, rfl⟩
  obtain ⟨w', on⟩ : ∃ w', (storeMachine sampleEnvironment).run w
      (.spawn (.lifecycle sampleRename) :: advances 1 17) = some w' := by
    cases ran
    exact ⟨_, rfl⟩
  have leads := Machine.leads_of_run on
  have reached := Machine.reachable_of_run (emptyWorld_init _) ran
  cases ran
  cases on
  exact ⟨_, _, _, _, leads, rfl, rfl,
    (delivered_event_kept reached leads List.mem_cons_self rfl).2⟩

/-! ## Pulls along a run -/

/-- The numbers of the deliverable events of a workspace above a watermark, in order. -/
def Db.feed (db : Db) (workspaceId : WorkspaceId) (watermark : Nat) : List Nat :=
  (rowsAbove (db.eventRows workspaceId) watermark).map fun row => row.eventSequence

/-- What a device receives that pulls at later and later states of a run, with any limits. -/
inductive PullsAlong (env : Environment) (workspaceId : WorkspaceId) : StoreWorld →
    Option DeviceSync.DeviceCursor → List DeviceSyncEvent → StoreWorld →
    Option DeviceSync.DeviceCursor → Prop
  | idle {w w' : StoreWorld} {cursor : Option DeviceSync.DeviceCursor}
      (leads : (storeMachine env).Leads w w') : PullsAlong env workspaceId w cursor [] w' cursor
  | pull {w u w' : StoreWorld} {cursor next last : Option DeviceSync.DeviceCursor}
      {page : DeviceSync.DeviceEventPage} {events : List DeviceSyncEvent} (floor limit : Nat)
      (leads : (storeMachine env).Leads w u)
      (served : DeviceSync.pullOnce (u.snapshot.db.eventRows workspaceId) cursor floor limit =
        .ok (page, next))
      (rest : PullsAlong env workspaceId u next events w' last) :
      PullsAlong env workspaceId w cursor (page.events ++ events) w' last
  | acknowledge {w w' : StoreWorld} {cursor next last : Option DeviceSync.DeviceCursor}
      {expectedPrevious appliedThrough : Nat} {row : DeviceSync.DeviceCursor}
      {events : List DeviceSyncEvent}
      (accepted : DeviceSync.acknowledgeOnce cursor expectedPrevious appliedThrough =
        .ok (row, next))
      (rest : PullsAlong env workspaceId w next events w' last) :
      PullsAlong env workspaceId w cursor events w' last

namespace FeedLemmas

variable {wi : WorkspaceId} {d n : Nat}

theorem mem_feed {db : Db} : n ∈ db.feed wi d ↔ d < n ∧ ∃ e ∈ db.events,
    e.workspaceId = wi ∧ e.eventType.operation.isSome ∧ e.eventSequence = n := by
  simp only [Db.feed, rowsAbove, Db.eventRows, Db.eventRow, List.mem_map, List.mem_filter,
    List.mem_insertionSort]
  constructor
  · rintro ⟨_, ⟨⟨e, ⟨hm, hw⟩, rfl⟩, hd⟩, rfl⟩
    simp only [Bool.and_eq_true, decide_eq_true_eq] at hd hw
    exact ⟨hd.1, e, hm, hw, hd.2, rfl⟩
  · rintro ⟨hd, e, hm, hw, ho, rfl⟩
    exact ⟨_, ⟨⟨e, ⟨hm, by simpa using hw⟩, rfl⟩, by simpa [hd] using ho⟩, rfl⟩

theorem feed_ascends {s : Snapshot Db} (inv : StoreInv env s) :
    (s.db.feed wi d).Pairwise (· < ·) := by
  have hs := List.pairwise_insertionSort (fun a b : SyncEvent => a.eventSequence ≤ b.eventSequence)
    (s.db.events.filter fun e => e.workspaceId = wi)
  have hd := (List.perm_insertionSort (fun a b : SyncEvent => a.eventSequence ≤ b.eventSequence)
    (s.db.events.filter fun e => e.workspaceId = wi)).symm.pairwise (inv.distinct.filter _)
    Ne.symm
  refine List.pairwise_map.mpr (List.Pairwise.filter _ (List.pairwise_map.mpr ?_))
  exact hs.imp₂ (fun a b => Nat.lt_of_le_of_ne) hd

theorem deliverable {t : EventType} (ho : t.operation.isSome) : t.isConflict = false := by
  cases t <;> first | rfl | cases ho

theorem feed_step {a : Action StoreCall} (hr : (storeMachine env).Reachable w)
    (hv : (storeMachine env).step w a = some w') :
    w.snapshot.db.feed wi d <+: w'.snapshot.db.feed wi d := by
  have inv := inv_of_reachable hr
  have ha : (w.snapshot.db.feed wi d).Pairwise (· < ·) := feed_ascends inv
  have ha' : (w'.snapshot.db.feed wi d).Pairwise (· < ·) :=
    feed_ascends (inv_of_reachable (.step hr hv))
  have same (h : ∀ n, n ∈ w.snapshot.db.feed wi d ↔ n ∈ w'.snapshot.db.feed wi d) :
      w.snapshot.db.feed wi d <+: w'.snapshot.db.feed wi d := by
    rw [ha.eq_of_mem_iff ha' (fun {n} => h n)]
  rcases commit_of_change (sound_of_reachable hr) hv with
    hsa | ⟨i, s, _, _, ⟨x, hx⟩ | hsi⟩
  · exact same fun n => by rw [hsa]
  · have hm (n : Nat) : n ∈ w'.snapshot.db.feed wi d ↔ n ∈ w.snapshot.db.feed wi d ∨
        d < n ∧ x.workspaceId = wi ∧ x.eventType.operation.isSome ∧ x.eventSequence = n := by
      simp only [mem_feed, hx.commit.events, List.mem_append, List.mem_singleton, or_and_right,
        exists_or, exists_eq_left, and_or_left]
    by_cases hn : d < x.eventSequence ∧ x.workspaceId = wi ∧ x.eventType.operation.isSome
    · have hl : ∀ n ∈ w.snapshot.db.feed wi d, n < x.eventSequence := by
        intro n h
        obtain ⟨-, e, he, hw, ho, rfl⟩ := mem_feed.mp h
        exact hx.governed (deliverable hn.2.2) e he (hw.trans hn.2.1.symm) (deliverable ho)
      have hs := List.pairwise_append.mpr ⟨ha, List.pairwise_singleton (· < ·) x.eventSequence,
        fun n h _ hx => List.mem_singleton.mp hx ▸ hl n h⟩
      refine ⟨[x.eventSequence], hs.eq_of_mem_iff ha' fun {n} => ?_⟩
      rw [hm, List.mem_append, List.mem_singleton]
      exact or_congr_right ⟨fun h => ⟨h ▸ hn.1, hn.2.1, hn.2.2, h.symm⟩, fun h => h.2.2.2.symm⟩
    · refine same fun n => ?_
      rw [hm]
      refine ⟨.inl, fun h => h.resolve_right fun ⟨hd, hw, ho, he⟩ => hn ⟨he ▸ hd, hw, ho⟩⟩
  · exact same fun n => by simp only [mem_feed, hsi.events]

theorem feed_grows (hr : (storeMachine env).Reachable w) (hl : (storeMachine env).Leads w w') :
    w.snapshot.db.feed wi d <+: w'.snapshot.db.feed wi d :=
  hl.keeps (fun _ _ _ hr ih hv => ih.trans (feed_step hr hv)) hr (List.prefix_refl _)

theorem feed_tiles {u : StoreWorld} (hr : (storeMachine env).Reachable u)
    (hl : (storeMachine env).Leads u w') {cursor next : Option DeviceSync.DeviceCursor}
    {f l : Nat} {page : DeviceSync.DeviceEventPage}
    (hs : DeviceSync.pullOnce (u.snapshot.db.eventRows wi) cursor f l = .ok (page, next)) :
    w'.snapshot.db.feed wi (readCursor cursor).deliveredThroughSequence =
      page.events.map DeviceSyncEvent.eventSequence ++
        w'.snapshot.db.feed wi (readCursor next).deliveredThroughSequence := by
  obtain ⟨hp, hn⟩ := DeviceSync.pullOnce_spec hs
  generalize (readCursor cursor).deliveredThroughSequence = d at hp hn ⊢
  obtain ⟨t, ht⟩ : u.snapshot.db.feed wi d <+: w'.snapshot.db.feed wi d := feed_grows hr hl
  have ha : (w'.snapshot.db.feed wi d).Pairwise (· < ·) :=
    feed_ascends (inv_of_reachable (Machine.Leads.reachable hr hl))
  have hp : page.events.map DeviceSyncEvent.eventSequence = (u.snapshot.db.feed wi d).take l := by
    rw [hp, Db.feed, List.map_take]
  rcases List.eq_nil_or_concat page.events with he | ⟨es, x, he⟩
  · simp [hn, he]
  · -- the watermark moves to the last event of the page
    have hx : page.events.map DeviceSyncEvent.eventSequence =
        es.map DeviceSyncEvent.eventSequence ++ [x.eventSequence] := by simp [he]
    obtain ⟨r, hw⟩ : ∃ r, w'.snapshot.db.feed wi d =
        page.events.map DeviceSyncEvent.eventSequence ++ r :=
      ⟨(u.snapshot.db.feed wi d).drop l ++ t,
        by rw [hp, ← ht, ← List.append_assoc, List.take_append_drop]⟩
    have hd : d < x.eventSequence := by
      have hm : x.eventSequence ∈ w'.snapshot.db.feed wi d := by simp [hw, hx]
      exact (mem_feed.mp hm).1
    have hn : (readCursor next).deliveredThroughSequence = x.eventSequence := by
      simp [hn, he, Nat.le_of_lt hd]
    rw [hw] at ha
    obtain ⟨hb, hc, hab⟩ := List.pairwise_append.mp ha
    rw [hw, hn, List.append_cancel_left_eq]
    refine hc.eq_of_mem_iff (feed_ascends (inv_of_reachable (Machine.Leads.reachable hr hl)))
      fun {n} => ?_
    have hm : n ∈ w'.snapshot.db.feed wi x.eventSequence ↔
        x.eventSequence < n ∧ n ∈ w'.snapshot.db.feed wi d := by
      simp only [mem_feed]
      exact ⟨fun h => ⟨h.1, hd.trans h.1, h.2⟩, fun h => ⟨h.1, h.2.2⟩⟩
    rw [hm, hw, List.mem_append]
    constructor
    · exact fun h => ⟨hab _ (by simp [hx]) n h, .inr h⟩
    · rintro ⟨hlt, h | h⟩
      · rw [hx] at h hb
        rcases List.mem_append.mp h with h | h
        · exact absurd ((List.pairwise_append.mp hb).2.2 n h _ List.mem_cons_self)
            (Nat.not_lt_of_lt hlt)
        · exact absurd hlt (by simp [List.mem_singleton.mp h])
      · exact h

theorem page_hydrated {rows : List DeviceSync.EventRow} {c c' : Option DeviceSync.DeviceCursor}
    {f l : Nat} {page : DeviceSync.DeviceEventPage}
    (hs : DeviceSync.pullOnce rows c f l = .ok (page, c')) :
    ∀ ev ∈ page.events, ∃ row ∈ rows, row.hydrated = .ok ev := by
  simp only [DeviceSync.pullOnce, bind, Except.bind] at hs
  split at hs
  · cases hs
  split at hs
  · cases hs
    simp
  split at hs
  · cases hs
    simp
  split at hs
  · cases hs
  next evs hh =>
    cases hs
    intro ev hm
    obtain ⟨row, hr, ho⟩ := (mem_of_mapM hh).1 ev hm
    exact ⟨row, (List.mem_filter.mp (List.mem_of_mem_take (List.mem_of_mem_take hr))).1, ho⟩

theorem page_told {u : StoreWorld} (hr : (storeMachine env).Reachable u)
    (hl : (storeMachine env).Leads u w') {c c' : Option DeviceSync.DeviceCursor} {f l : Nat}
    {page : DeviceSync.DeviceEventPage}
    (hs : DeviceSync.pullOnce (u.snapshot.db.eventRows wi) c f l = .ok (page, c')) :
    ∀ ev ∈ page.events, ∃ e ∈ w'.snapshot.db.events, e.workspaceId = wi ∧
      hydrateDeviceEvent w'.snapshot.db e = .ok ev := by
  intro ev hm
  obtain ⟨row, hrow, hh⟩ := page_hydrated hs ev hm
  obtain ⟨e, he, rfl⟩ := List.mem_map.mp hrow
  obtain ⟨he, hw⟩ := List.mem_filter.mp ((List.mem_insertionSort _).mp he)
  have told : e ∈ w'.snapshot.db.events ∧ hydrateDeviceEvent w'.snapshot.db e = .ok ev :=
    hl.keeps (fun _ _ _ => DeliveredEventsLemmas.hydrate_step) hr ⟨he, hh⟩
  exact ⟨e, told.1, by simpa using hw, told.2⟩

theorem pulls_lead {cursor last : Option DeviceSync.DeviceCursor} {events : List DeviceSyncEvent}
    (hp : PullsAlong env wi w cursor events w' last) : (storeMachine env).Leads w w' := by
  induction hp with
  | idle hl => exact hl
  | pull _ _ hl _ _ ih => exact hl.trans ih
  | acknowledge _ _ ih => exact ih

end FeedLemmas

/-- Pulls along a run deliver the deliverable events one after another, each once and as they stand
at the end, whatever commits in between. -/
theorem pulls_deliver_once {workspaceId : WorkspaceId}
    {cursor last : Option DeviceSync.DeviceCursor} {events : List DeviceSyncEvent}
    (reached : (storeMachine env).Reachable w)
    (pulls : PullsAlong env workspaceId w cursor events w' last) :
    w'.snapshot.db.feed workspaceId (readCursor cursor).deliveredThroughSequence =
        events.map DeviceSyncEvent.eventSequence ++
          w'.snapshot.db.feed workspaceId (readCursor last).deliveredThroughSequence ∧
      ∀ ev ∈ events, ∃ e ∈ w'.snapshot.db.events, e.workspaceId = workspaceId ∧
        hydrateDeviceEvent w'.snapshot.db e = .ok ev := by
  induction pulls with
  | idle => simp
  | pull f l leads served rest ih =>
    have hu := Machine.Leads.reachable reached leads
    have on := FeedLemmas.pulls_lead rest
    obtain ⟨tiles, told⟩ := ih hu
    rw [FeedLemmas.feed_tiles hu on served, tiles, List.map_append, List.append_assoc]
    exact ⟨rfl, List.forall_mem_append.mpr ⟨FeedLemmas.page_told hu on served, told⟩⟩
  | acknowledge accepted _ ih =>
    have ha := (DeviceSync.acknowledgeOnce_spec accepted).2.2.1
    rw [← show (readCursor _).deliveredThroughSequence = _ from congrArg _ ha]
    exact ih reached

/-- A device pulls after the create of a note and after its rename. -/
theorem pulls_deliver_once_renamed : ∃ w' events last,
    PullsAlong sampleEnvironment 1 emptyWorld none events w' last ∧
    events.map DeviceSyncEvent.eventSequence = [1, 2] ∧
    w'.snapshot.db.feed 1 0 = events.map DeviceSyncEvent.eventSequence ++
      w'.snapshot.db.feed 1 (readCursor last).deliveredThroughSequence := by
  obtain ⟨w, ran⟩ : ∃ w,
      (storeMachine sampleEnvironment).run emptyWorld createScript = some w := ⟨_, rfl⟩
  obtain ⟨w', on⟩ : ∃ w', (storeMachine sampleEnvironment).run w
      (.spawn (.lifecycle sampleRename) :: advances 1 17) = some w' := by
    cases ran
    exact ⟨_, rfl⟩
  have first := Machine.leads_of_run ran
  have second := Machine.leads_of_run on
  cases ran
  cases on
  have pulls : PullsAlong sampleEnvironment 1 emptyWorld none _ _ _ :=
    .pull 0 1 first rfl (.pull 0 1 second rfl (.idle .refl))
  exact ⟨_, _, _, pulls, rfl, (pulls_deliver_once (.init (emptyWorld_init _)) pulls).1⟩

/-! ## Events that no device is told -/

def Db.OperandsFit (db : Db) (e : SyncEvent) (operation : DeviceEventOperation) : Prop :=
  (operation = .updated → db.resultingLocator e ≠ none) ∧
    eventShape operation ((db.closedBy e).map SourceLocator.normalizedLocator)
      (db.resultingLocator e)
      ((db.tombstoneOf e).map SourceTombstone.sourceTombstoneId) = true

namespace UntoldLemmas

open DeliveredEventsLemmas HistoryLemmas

variable {db db' : Db} {e x : SyncEvent} {g g' : SourceGraph} {o : DeviceEventOperation}

theorem hydrate_fits (ho : e.eventType.operation = some o) {f : Option Fingerprint}
    (hc : db.fingerprint e .eventIntegrityFailed e.committedVersionId = .ok f) :
    (db.OperandsFit e o → (∃ ev, hydrateDeviceEvent db e = .ok ev) ∨
        hydrateDeviceEvent db e = .error .cursorGap) ∧
      ((∃ ev, hydrateDeviceEvent db e = .ok ev) → db.OperandsFit e o) := by
  unfold hydrateDeviceEvent
  cases hb : db.fingerprint e .cursorGap e.baseVersionId with
  | error c =>
    have hn : c = .cursorGap := by
      unfold Db.fingerprint at hb
      split at hb
      · cases hb
      · split at hb <;> cases hb
        rfl
    simp [ho, bind, Except.bind, hn]
  | ok b =>
    simp only [ho, bind, Except.bind, hc, Db.OperandsFit]
    split
    next hu => exact ⟨fun hf => absurd hu.2 (hf.1 hu.1), fun ⟨_, h⟩ => by cases h⟩
    next hu =>
      split
      next hs => exact ⟨fun hf => by simp [hf.2] at hs, fun ⟨_, h⟩ => by cases h⟩
      next hs =>
        exact ⟨fun _ => .inl ⟨_, rfl⟩, fun _ => ⟨fun h hn => hu ⟨h, hn⟩, by simpa using hs⟩⟩

theorem joins_isSome : ((db.openedBy e).isSome ↔ ∃ l ∈ (db.graph e.sourceId).locators,
      l.workspaceId = e.workspaceId ∧ l.openedEventId = e.eventId) ∧
    ((db.closedBy e).isSome ↔ ∃ l ∈ (db.graph e.sourceId).locators,
      l.workspaceId = e.workspaceId ∧
        l.closure.map LocatorClosure.closedEventId = some e.eventId) ∧
    ((db.tombstoneOf e).isSome ↔ ∃ t ∈ (db.graph e.sourceId).tombstones,
      t.workspaceId = e.workspaceId ∧
        (t.deleteEventId = e.eventId ∨ t.restoreEventId = some e.eventId)) ∧
    ((db.locatorAt e.workspaceId e.sourceId e.eventSequence).isSome ↔
      ∃ l ∈ (db.graph e.sourceId).locators, l.workspaceId = e.workspaceId ∧
        l.openedSequence ≤ e.eventSequence ∧ l.closedBy e.eventSequence = false) := by
  refine ⟨?_, ?_, ?_, ?_⟩
  · simp [Db.openedBy, Db.graph, and_assoc, and_left_comm]
  · simp [Db.closedBy, Db.graph, and_assoc, and_left_comm]
  · simp [Db.tombstoneOf, Db.graph, Option.isSome_or, and_assoc, and_left_comm, and_or_left,
      exists_or]
  · rw [← Option.ne_none_iff_isSome, Db.locatorAt, ne_eq, List.argmax_eq_none]
    simp [Db.graph, List.filter_eq_nil_iff, and_assoc, and_left_comm]

theorem tombstones_restored {s : SourceId} (hh : SourceHistory s g) :
    ∀ t ∈ g.tombstones, ∀ id ∈ t.restoreEventId, ∃ y ∈ g.events, y.eventId = id := by
  induction hh with
  | empty => simp [SourceGraph.empty]
  | @step g g' e _ _ _ _ hv ih =>
    obtain ⟨r, m, hr, hm, ht⟩ := tombstones_step hv
    rw [ht, hv.events]
    intro t hmt id hid
    rcases List.mem_append.mp hmt with old | new
    · obtain ⟨t', ht', rfl⟩ := List.mem_map.mp old
      rcases hr t' with h | ⟨-, h⟩
      · obtain ⟨y, hy, hn⟩ := ih t' ht' id (h ▸ hid)
        exact ⟨y, List.mem_append_left _ hy, hn⟩
      · rw [h] at hid
        exact ⟨e, by simp, Option.some.inj hid⟩
    · rw [(hm t new).2] at hid
      cases hid

theorem closed_mem {l : SourceLocator} (hm : l ∈ g.locators) (hu : l.closure = none) :
    { l with closure := some ⟨x.eventId, x.eventSequence⟩ } ∈ g.closeLocators x :=
  List.mem_map.mpr ⟨l, hm, if_pos hu⟩

theorem fits_of_commit (hh : SourceHistory x.sourceId (db.graph x.sourceId))
    (hc : CommitOf x db db')
    (hb : ∀ y ∈ db.events, y.sourceId = x.sourceId → y.eventSequence < x.eventSequence)
    (ho : x.eventType.operation = some o) :
    db'.OperandsFit x o ↔ (db'.graph x.sourceId).locators ≠ [] := by
  have hv := hc.step
  obtain ⟨h1, h2, h3, h4⟩ := @joins_isSome db' x
  have hf : ∀ y ∈ (db.graph x.sourceId).events,
      y.eventId ≠ x.eventId ∧ y.eventSequence < x.eventSequence := by
    intro y hy
    obtain ⟨hy, hs⟩ := List.mem_filter.mp hy
    exact ⟨(hc.fresh y hy).1, hb y hy (by simpa using hs)⟩
  generalize db'.graph x.sourceId = g' at *
  generalize db.graph x.sourceId = g at *
  have f1 : ∀ l ∈ g.locators, l.openedEventId ≠ x.eventId ∧
      l.openedSequence < x.eventSequence := by
    intro l hl
    obtain ⟨y, hy, hi, -, hs⟩ := hh.locators_opened.1 l hl
    exact hi ▸ hs _ rfl ▸ hf y hy
  have fw {row : Source} (hr : g.rows = [row]) (hw : row.workspaceId = x.workspaceId)
      {id : EventId} {w : WorkspaceId} {n : Option Nat} (h : g.Recorded id w n) :
      w = x.workspaceId := by
    obtain ⟨y, hy, -, rfl, -⟩ := h
    rcases hh.current with rfl | ⟨row', hcu⟩
    · cases hr
    · rw [(hcu.events y hy).1, ← hw, hcu.row_eq hr]
  have n2 (hl : ∀ l ∈ g'.locators, l ∈ g.locators ∨ l.closure = none) :
      db'.closedBy x = none := by
    refine Option.not_isSome_iff_eq_none.mp fun h => ?_
    obtain ⟨l, hm, -, hc⟩ := h2.mp h
    rcases hl l hm with old | new
    · obtain ⟨c, hc, h⟩ := Option.map_eq_some_iff.mp hc
      obtain ⟨-, y, hy, hi, -⟩ := hh.timeline.forward l old c hc
      exact (hf y hy).1 (hi.trans h)
    · simp [new] at hc
  have n3 (ht : g'.tombstones = g.tombstones) : db'.tombstoneOf x = none := by
    refine Option.not_isSome_iff_eq_none.mp fun h => ?_
    obtain ⟨t, hm, -, hd | hr⟩ := h3.mp h
    · obtain ⟨y, hy, hi, -⟩ := hh.tombstones_deleted.1 t (ht ▸ hm)
      exact (hf y hy).1 (hi.trans hd)
    · obtain ⟨y, hy, hi⟩ := tombstones_restored hh t (ht ▸ hm) _ hr
      exact (hf y hy).1 hi
  have still {row : Source} (hr : g.rows = [row]) (hw : row.workspaceId = x.workspaceId)
      (hs : row.syncState ≠ .deleted) (ty : x.eventType = .update)
      (hl : g'.locators = g.locators) (ht : g'.tombstones = g.tombstones) :
      db'.OperandsFit x o ↔ g'.locators ≠ [] := by
    have fits : db'.OperandsFit x o ↔
        (db'.locatorAt x.workspaceId x.sourceId x.eventSequence).isSome := by
      rw [ty] at ho
      cases ho
      simp [Db.OperandsFit, eventShape, Db.resultingLocator, ty, n2 fun l h => .inl (hl ▸ h),
        n3 ht, Option.ne_none_iff_isSome]
    rw [fits, h4, hl]
    cases located_row hh.located hr with
    | unbound _ hn => simp [hn]
    | bound p l _ hat _ hun =>
      have hm : l ∈ g.locators := by simp [hat]
      refine iff_of_true ⟨l, hm, fw hr hw (hh.locators_opened.1 l hm), (f1 l hm).2.le, ?_⟩
        (List.ne_nil_of_mem hm)
      simp [SourceLocator.closedBy, hun]
    | deleted _ _ _ _ _ hd => exact absurd hd hs
  cases hv with
  | create row v lo hn ty _ _ _ _ _ _ _ _ _ hop =>
    obtain rfl : g = .empty := hh.current.resolve_right fun ⟨row', hcu⟩ => by
      rw [hcu.stands] at hn
      cases hn
    rw [ty] at ho
    cases ho
    cases lo with
    | none =>
      simp [SourceGraph.empty] at h1
      simp [Db.OperandsFit, eventShape, Db.resultingLocator, ty, h1, SourceGraph.empty]
    | some l =>
      have hl := hop l rfl
      simp [SourceGraph.empty, hl.unclosed, hl.workspace, hl.event] at h1 h2 h3
      simp [Db.OperandsFit, eventShape, Db.resultingLocator, ty, h1, h2, h3]
  | repeatCurrent row _ hr hw hli _ ty => exact still hr hw hli ty rfl rfl
  | publish row _ _ hr hw hli _ _ ty =>
    rcases ty with ty | ty
    · exact still hr hw hli ty rfl rfl
    · rw [ty] at ho
      cases ho
  | relocate row _ l l' hr hw _ _ hm hun ty _ hop =>
    have c1 := h1.mpr ⟨l', by simp, hop.workspace, hop.event⟩
    have c2 := h2.mpr ⟨_, List.mem_append_left _ (closed_mem hm hun),
      fw hr hw (hh.locators_opened.1 l hm), rfl⟩
    rcases ty with ty | ty <;> rw [ty] at ho <;> cases ho <;>
      simp [Db.OperandsFit, eventShape, Db.resultingLocator, ty, c1, c2, n3]
  | delete row _ l t hr hw _ _ hm hun ty _ hts htw hd =>
    have hl := closed_mem (x := x) hm hun
    have c2 := h2.mpr ⟨_, hl, fw hr hw (hh.locators_opened.1 l hm), rfl⟩
    have c3 := h3.mpr ⟨t, by simp, htw, .inl hd⟩
    have c1 : db'.openedBy x = none := by
      refine Option.not_isSome_iff_eq_none.mp fun h => ?_
      obtain ⟨l, hm, -, hc⟩ := h1.mp h
      obtain ⟨l', hm', rfl⟩ := List.mem_map.mp hm
      exact (f1 l' hm').1 (by split at hc <;> exact hc)
    rw [ty] at ho
    cases ho
    simp [Db.OperandsFit, eventShape, Db.resultingLocator, ty, c1, c2, c3, List.ne_nil_of_mem hl]
  | restore row _ t l hr hw _ _ hm hun _ ty _ hop =>
    have c1 := h1.mpr ⟨l, by simp, hop.workspace, hop.event⟩
    have c3 := h3.mpr ⟨{ t with restoreEventId := some x.eventId },
      List.mem_map.mpr ⟨t, hm, if_pos ⟨rfl, hun⟩⟩, fw hr hw (hh.tombstones_deleted.1 t hm),
      .inr rfl⟩
    have c2 := n2 fun l' h => (List.mem_append.mp h).imp_right fun h => by
      rw [List.mem_singleton.mp h, hop.unclosed]
    rw [ty] at ho
    cases ho
    simp [Db.OperandsFit, eventShape, Db.resultingLocator, ty, c1, c2, c3]
  | record row hr hw ty => rcases ty with ty | ty <;> rw [ty] at ho <;> cases ho

theorem unlocated_kept {s : SourceId} (hh : SourceHistory s (db.graph s))
    (hc : CommitOf x db db') (he : e ∈ (db.graph s).events) :
    (db'.graph s).locators ≠ [] ↔ (db.graph s).locators ≠ [] := by
  by_cases ho : s = x.sourceId
  · subst ho
    have hv := hc.step
    generalize db'.graph x.sourceId = g' at *
    generalize db.graph x.sourceId = g at *
    cases hv with
    | create row v lo hn =>
      rcases hh.current with rfl | ⟨row', hcu⟩
      · cases he
      · rw [hcu.stands] at hn
        cases hn
    | repeatCurrent | publish | record => rfl
    | relocate row cu cl op _ _ _ _ hm =>
      exact iff_of_true (by simp) (List.ne_nil_of_mem hm)
    | delete row cu cl t _ _ _ _ hm hun =>
      exact iff_of_true (List.ne_nil_of_mem (closed_mem hm hun)) (List.ne_nil_of_mem hm)
    | restore row cu t op hr _ hd _ hm =>
      refine iff_of_true (by simp) ?_
      cases located_row hh.located hr with
      | unbound _ _ ht => simp [ht] at hm
      | bound _ _ _ hl | deleted _ _ _ _ _ _ hl => simp [hl]
  · rw [hc.others ho]

theorem fits_reachable (hr : (storeMachine env).Reachable w) : ∀ e ∈ w.snapshot.db.events, ∀ o,
    e.eventType.operation = some o →
      (w.snapshot.db.OperandsFit e o ↔ (w.snapshot.db.graph e.sourceId).locators ≠ []) := by
  induction hr with
  | init hi => simp [hi.1, Db.empty]
  | step hr hv ih =>
    rcases commit_of_change (sound_of_reachable hr) hv with
      hsa | ⟨i, s, _, _, ⟨x, hx⟩ | hsi⟩
    · rwa [hsa]
    · intro e he o ho
      have hh := (inv_of_reachable hr).history
      rw [hx.commit.events] at he
      rcases List.mem_append.mp he with old | new
      · obtain ⟨hcl, hr, ht⟩ := joined_kept hx.commit old (hx.behind e old)
        rw [unlocated_kept (hh e.sourceId) hx.commit (List.mem_filter.mpr ⟨old, by simp⟩),
          ← ih e old o ho, Db.OperandsFit, Db.OperandsFit, hcl, hr, ht]
      · obtain rfl := List.mem_singleton.mp new
        exact fits_of_commit (hh _) hx.commit hx.behind ho
    · obtain ⟨c, au, cu, r, hsc⟩ := hsi.sameCanon
      rw [hsc]
      exact ih

theorem committed_fingerprint {s : Snapshot Db} (inv : StoreInv env s) (he : e ∈ s.db.events) :
    ∃ f, s.db.fingerprint e .eventIntegrityFailed e.committedVersionId = .ok f := by
  have hm : e ∈ (s.db.graph e.sourceId).events := List.mem_filter.mpr ⟨he, by simp⟩
  rcases (inv.history e.sourceId).current with hb | ⟨row, hcu⟩
  · rw [hb] at hm
    cases hm
  · cases hc : e.committedVersionId with
    | none => exact ⟨_, rfl⟩
    | some id =>
      obtain ⟨hw, hv⟩ := hcu.events e hm
      obtain ⟨v, hv, rfl⟩ := hv id hc
      obtain ⟨hvw, hvs, -⟩ := hcu.versions v hv
      have hv := (List.mem_filter.mp hv).1
      obtain ⟨ob, hob, hid⟩ := inv.keyed.stored v hv
      simp [Db.fingerprint, (object_eq_some inv.keyed).mpr ⟨hob, hid⟩,
        (version_eq_some inv.keyed).mpr ⟨hv, hvw.trans hw.symm, hvs, rfl⟩]

end UntoldLemmas

/-- An event of a source that has a locator can be told, unless its base version is gone; no other
event ever is. -/
theorem only_located_events_hydrate (reached : (storeMachine env).Reachable w) {e : SyncEvent}
    (stands : e ∈ w.snapshot.db.events) (deliverable : e.eventType.operation.isSome) :
    ((∃ l ∈ w.snapshot.db.locators, l.sourceId = e.sourceId) →
        (∃ ev, hydrateDeviceEvent w.snapshot.db e = .ok ev) ∨
          hydrateDeviceEvent w.snapshot.db e = .error .cursorGap) ∧
      ((∃ ev, hydrateDeviceEvent w.snapshot.db e = .ok ev) →
        ∃ l ∈ w.snapshot.db.locators, l.sourceId = e.sourceId) := by
  obtain ⟨o, ho⟩ := Option.isSome_iff_exists.mp deliverable
  obtain ⟨f, hc⟩ := UntoldLemmas.committed_fingerprint (inv_of_reachable reached) stands
  obtain ⟨told, fits⟩ := UntoldLemmas.hydrate_fits ho hc
  rw [UntoldLemmas.fits_reachable reached e stands o ho] at told fits
  simp only [Db.graph, ne_eq, List.filter_eq_nil_iff, decide_eq_true_eq, not_forall,
    not_not, exists_prop] at told fits
  exact ⟨told, fits⟩

/-- The create of a note at a path can be told. -/
theorem only_located_events_hydrate_created : ∃ w e, (storeMachine sampleEnvironment).Reachable w ∧
    e ∈ w.snapshot.db.events ∧
      ((∃ ev, hydrateDeviceEvent w.snapshot.db e = .ok ev) ∨
        hydrateDeviceEvent w.snapshot.db e = .error .cursorGap) := by
  obtain ⟨w, ran⟩ : ∃ w,
      (storeMachine sampleEnvironment).run emptyWorld createScript = some w := ⟨_, rfl⟩
  have reached := Machine.reachable_of_run (emptyWorld_init _) ran
  cases ran
  exact ⟨_, _, reached, List.mem_cons_self, (only_located_events_hydrate reached List.mem_cons_self rfl).1
    ⟨_, List.mem_cons_self, rfl⟩⟩

end PersonalOs.SourceStore
