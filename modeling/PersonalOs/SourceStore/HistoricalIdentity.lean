import PersonalOs.SourceStore.LifecycleRuns

/-!
# The proof of a historical identity

What the entry at a locator is resolved to, against the history of the locator up to the
checkpoint: which sources ever held it, which of them live at the checkpoint, and how often.
-/

namespace PersonalOs.SourceStore

open Transactions
open DeviceSync (Fingerprint)
open HistoryLemmas LookupLemmas

/-! ## Places of a source -/

variable {x : SourceId} {g g' : SourceGraph} {e : SyncEvent}

/-- The event that opened a locator, as a checkpoint read finds it. -/
def SourceGraph.OpenedByCommit (g : SourceGraph) (l : SourceLocator) : Prop :=
  ∃ e ∈ g.events, e.eventSequence = l.openedSequence ∧ e.committedVersionId.isSome

/-- The locator a tombstone retains, closed by its deletion. -/
def SourceGraph.Retains (g : SourceGraph) (t : SourceTombstone) : Prop :=
  ∃ l ∈ g.locators, l.normalizedLocator = t.retainedLocator ∧
    l.closure.map LocatorClosure.closedEventId = some t.deleteEventId

/-- Every locator was opened by an event that committed a version, and every tombstone retains a
locator its deletion closed. -/
theorem SourceHistory.places (hh : SourceHistory x g) :
    (∀ l ∈ g.locators, g.OpenedByCommit l) ∧ ∀ t ∈ g.tombstones, g.Retains t := by
  induction hh with
  | empty => exact ⟨by simp [SourceGraph.empty], by simp [SourceGraph.empty]⟩
  | @step g g' e _ _ _ _ hv ih =>
    have hd : ∀ l ∈ g.locators, g'.OpenedByCommit l := by
      intro l ht
      obtain ⟨y, he, hre⟩ := ih.1 l ht
      exact ⟨y, by rw [hv.events]; exact List.mem_append_left _ he, hre⟩
    have hcg : ∀ l ∈ g.closeLocators e, g'.OpenedByCommit l := by
      intro l hm
      obtain ⟨old, ht, rfl⟩ := List.mem_map.mp hm
      split <;> exact hd old ht
    have hop {l : SourceLocator} (ho : Opens e l) (hco : e.committedVersionId.isSome) :
        g'.OpenedByCommit l :=
      ⟨e, hv.recorded_self, ho.sequence.symm, hco⟩
    have hr (hke : ∀ l ∈ g.locators, l.closure ≠ none → l ∈ g'.locators) :
        ∀ t ∈ g.tombstones, g'.Retains t := by
      intro t ht
      obtain ⟨l, hl, hte, hcl⟩ := ih.2 t ht
      exact ⟨l, hke l hl (by rintro hu; simp [hu] at hcl), hte, hcl⟩
    have hk : ∀ l ∈ g.locators, l.closure ≠ none → l ∈ g.closeLocators e :=
      fun l ht hcl => List.mem_map.mpr ⟨l, ht, if_neg hcl⟩
    cases hv with
    | repeatCurrent | publish | record => exact ⟨hd, hr fun _ ht _ => ht⟩
    | create _ _ lo _ _ _ hc _ _ _ _ _ _ _ ho =>
      refine ⟨fun l hm => ?_, hr fun _ ht _ => List.mem_append_left _ ht⟩
      rcases List.mem_append.mp hm with old | new
      · exact hd l old
      · exact hop (ho l (by simpa using new)) (by simp [hc])
    | relocate _ _ _ _ _ _ _ _ _ _ _ hc ho =>
      exact ⟨forall_snoc hcg (hop ho (by simp [hc])),
        hr fun l ht hcl => List.mem_append_left _ (hk l ht hcl)⟩
    | delete _ _ hcl te _ _ _ _ hcs hw _ _ _ _ hde _ hte =>
      refine ⟨hcg, forall_snoc (hr hk) ?_⟩
      exact ⟨_, List.mem_map.mpr ⟨hcl, hcs, if_pos hw⟩, hte.symm, by
        simp [hde]⟩
    | restore _ _ _ _ _ _ _ _ _ _ _ _ hc ho =>
      refine ⟨forall_snoc hd (hop ho (by simp [hc])), fun t hm => ?_⟩
      obtain ⟨old, ht, rfl⟩ := List.mem_map.mp hm
      have hke := hr (fun _ ht _ => List.mem_append_left _ ht) old ht
      split <;> exact hke

/-! ## The history of a locator -/

/-- The statements of a page at one committed state. -/
def Db.pageEvidence (db : Db) (workspaceId : WorkspaceId) (checkpoint : Nat)
    (locators : List NormalizedLocator) : PageEvidence :=
  let rows := db.locatorCandidates workspaceId checkpoint locators
  let tombstones := db.tombstoneCandidates workspaceId checkpoint locators
  ⟨rows, tombstones, db.canonicalStates workspaceId checkpoint
    (rows.map SourceLocator.sourceId ++ tombstones.map (·.tombstone.sourceId))⟩

/-- One page that lists a locator, at a checkpoint of a workspace. -/
structure LocatorQuery where
  workspaceId : WorkspaceId
  checkpoint : Nat
  locator : NormalizedLocator
  locators : List NormalizedLocator
  listed : locator ∈ locators

namespace LocatorQuery

variable (q : LocatorQuery) (db : Db)

def evidence : PageEvidence := db.pageEvidence q.workspaceId q.checkpoint q.locators

/-- The rows of the locator up to the checkpoint. -/
def tenures : List SourceLocator :=
  db.locators.filter fun l => l.workspaceId = q.workspaceId ∧
    l.openedSequence ≤ q.checkpoint ∧ l.normalizedLocator = q.locator

/-- The source held the locator up to the checkpoint. -/
def HeldBy (x : SourceId) : Prop := ∃ l ∈ q.tenures db, l.sourceId = x

def alive (x : SourceId) : Bool := db.tombstoneAt q.workspaceId x q.checkpoint = none

/-- No source holds the locator at the checkpoint. -/
def Vacant : Prop := ∀ l ∈ q.tenures db, l.closedBy q.checkpoint = true

structure SoleHolder (x : SourceId) : Prop where
  held : q.HeldBy db x
  alive : q.alive db x = true
  sole : ∀ y, q.HeldBy db y → q.alive db y = true → y = x

/-- The fingerprint of the source's version at the checkpoint. -/
def fingerprintOf (x : SourceId) : Option Fingerprint :=
  (((db.versionAt q.workspaceId x q.checkpoint).bind (db.version q.workspaceId x)).bind
    fun v => db.object v.contentObjectId).map ContentObject.fingerprint

def Resolves (permits : ManifestSubject → Bool) (entry : ManifestEntry)
    (sourceId : Option SourceId) : Prop :=
  ∃ row, resolveEntry permits q.workspaceId q.checkpoint (q.evidence db) entry = .ok row ∧
    row.resolvedSourceId = sourceId

/-- The law of the historical identity proof at a locator. -/
structure ProvesIdentity (permits : ManifestSubject → Bool) : Prop where
  sole : ∀ entry x, entry.normalizedLocator = q.locator →
    entry.knownSourceId.all (x = ·) → q.SoleHolder db x → q.Vacant db →
    q.fingerprintOf db x = some entry.fingerprint → q.Resolves db permits entry (some x)
  ambiguous : ∀ entry x y, entry.normalizedLocator = q.locator → entry.knownSourceId = none →
    q.Vacant db → x ≠ y → q.HeldBy db x → q.alive db x = true → q.HeldBy db y →
    q.alive db y = true → q.Resolves db permits entry none
  sound : ∀ entry x, entry.normalizedLocator = q.locator →
    q.Resolves db permits entry (some x) → q.HeldBy db x ∧ entry.knownSourceId.all (x = ·)

end LocatorQuery

/-! ## Evidence and candidates -/

/-- A candidate is the source an entry names, or the entry names none. -/
def ManifestEntry.admits (entry : ManifestEntry) (c : CanonicalManifestSource) : Bool :=
  entry.knownSourceId.all (c.sourceId = ·)

theorem PageEvidence.entryEvidence_eq (ev : PageEvidence) (n : Nat) (entry : ManifestEntry) :
    ev.entryEvidence n entry = ⟨entry,
      (ev.candidates (ev.locatorRows n false entry.normalizedLocator)).filter entry.admits,
      (ev.candidates ((ev.locatorRows n true entry.normalizedLocator).filter fun l =>
        (stateOf ev.states l.sourceId).all fun s => s.openTombstoneId = none)).filter
        entry.admits,
      ((ev.tombstoneRows entry.normalizedLocator).map tombstoneCandidate).filter entry.admits⟩ := by
  unfold PageEvidence.entryEvidence ManifestEntry.admits
  cases entry.knownSourceId <;> simp

inductive ProvenBy (evidence : ManifestIdentityEvidence) : ManifestIdentityResolution → Prop
  | unproven : ProvenBy evidence .unproven
  | current {c : CanonicalManifestSource} (one : evidence.currentLocatorCandidates = [c]) :
      ProvenBy evidence (.proven c .currentLocator)
  | historical {c : CanonicalManifestSource} (one : evidence.historicalLocatorCandidates = [c]) :
      ProvenBy evidence (.proven c .historicalLocatorFingerprint)
  | tombstone {c : CanonicalManifestSource} (one : evidence.openTombstoneCandidates = [c]) :
      ProvenBy evidence (.proven c .openTombstoneFingerprint)

theorem resolveManifestIdentity_provenBy (ev : ManifestIdentityEvidence) :
    ProvenBy ev (resolveManifestIdentity ev) := by
  unfold resolveManifestIdentity
  split
  · exact .unproven
  · exact .current ‹_›
  · split
    · exact .unproven
    · split
      · exact .unproven
      · exact .historical ‹_›
    · split
      · split
        · exact .tombstone ‹_›
        · exact .unproven
      · exact .unproven

theorem filterMap_forall₂ {α β : Type} {f : α → Option β} {go : α → β → Prop} {rs : List α}
    (he : ∀ a ∈ rs, ∃ b, f a = some b ∧ go a b) :
    List.Forall₂ go rs (rs.filterMap f) := by
  induction rs with
  | nil => exact .nil
  | cons a r ih =>
    obtain ⟨b, hf, hh⟩ := he a List.mem_cons_self
    rw [List.filterMap_cons_some hf]
    exact .cons hh (ih fun a hm => he a (List.mem_cons_of_mem _ hm))

section Candidates

variable {env : Environment} {s : Snapshot Db} {q : LocatorQuery} {l : SourceLocator}
  {entry : ManifestEntry} {c : CanonicalManifestSource} {permits : ManifestSubject → Bool}

theorem LocatorQuery.locatorRows_eq (db : Db) (cl : Bool) :
    (q.evidence db).locatorRows q.checkpoint cl q.locator =
      (q.tenures db).filter fun l => l.closedBy q.checkpoint = cl := by
  have hl := q.listed
  simp only [LocatorQuery.evidence, Db.pageEvidence, PageEvidence.locatorRows,
    Db.locatorCandidates, LocatorQuery.tenures, List.filter_filter]
  refine List.filter_congr fun l _ => ?_
  by_cases ht : l.normalizedLocator = q.locator <;> simp [ht, hl, and_comm]

/-- A source that held the locator stands in its workspace with a version and its content. -/
theorem held_state (inv : StoreInv env s) (hhe : l ∈ q.tenures s.db) :
    ∃ row ∈ s.db.sources, row.sourceId = l.sourceId ∧ row.workspaceId = q.workspaceId ∧
      ∃ v o, (s.db.versionAt q.workspaceId l.sourceId q.checkpoint).bind
        (s.db.version q.workspaceId l.sourceId) = some v ∧
        s.db.object v.contentObjectId = some o := by
  obtain ⟨ht, hco⟩ := List.mem_filter.mp hhe
  obtain ⟨hw, hop, _⟩ : l.workspaceId = q.workspaceId ∧
    l.openedSequence ≤ q.checkpoint ∧ _ := by simpa using hco
  have hh := inv.history l.sourceId
  have hi : l ∈ (s.db.graph l.sourceId).locators := List.mem_filter.mpr ⟨ht, by simp⟩
  obtain ⟨y, hd, hse, hcs⟩ := hh.places.1 l hi
  obtain ⟨op, he, _, hs, _⟩ := hh.locators_opened.1 l hi
  rcases hh.current with hb | ⟨row, hc⟩
  · rw [hb] at hd
    cases hd
  · have hin : row ∈ (s.db.graph l.sourceId).rows := by simp [hc.stands]
    have ho : row.workspaceId = q.workspaceId := by
      rw [← (hc.events op he).1, hs, hw]
    refine ⟨row, (List.mem_filter.mp hin).1, hc.source, ho, ?_⟩
    have ha : y ∈ s.db.events.filter fun e => e.workspaceId = q.workspaceId ∧
        e.sourceId = l.sourceId ∧ e.eventSequence ≤ q.checkpoint ∧
        e.committedVersionId.isSome := by
      obtain ⟨he, hof⟩ := List.mem_filter.mp hd
      refine List.mem_filter.mpr ⟨he, ?_⟩
      simp only [decide_eq_true_eq] at hof ⊢
      exact ⟨(hc.events y hd).1.trans ho, hof, by omega, hcs⟩
    obtain ⟨la, hl⟩ := Option.ne_none_iff_exists'.mp
      (mt (List.argmax_eq_none (f := SyncEvent.eventSequence)).mp (List.ne_nil_of_mem ha))
    obtain ⟨he, hco⟩ := List.mem_filter.mp (List.argmax_mem hl)
    obtain ⟨_, hof, _, hcs⟩ : la.workspaceId = q.workspaceId ∧
      la.sourceId = l.sourceId ∧ _ ∧ la.committedVersionId.isSome := by
        simpa using hco
    obtain ⟨id, hcd⟩ := Option.isSome_iff_exists.mp hcs
    obtain ⟨v, hv, hn⟩ := (hc.events la (List.mem_filter.mpr ⟨he, by simpa using hof⟩)).2 id hcd
    obtain ⟨hs, hsa, _⟩ := hc.versions v hv
    obtain ⟨o, hst, hob⟩ := inv.keyed.stored v (List.mem_filter.mp hv).1
    refine ⟨v, o, ?_, (object_eq_some inv.keyed).mpr ⟨hst, hob⟩⟩
    rw [Db.versionAt, hl, Option.bind_some, hcd, Option.bind_some]
    exact (version_eq_some inv.keyed).mpr ⟨(List.mem_filter.mp hv).1, hs.trans ho, hsa, hn⟩

/-- The state behind a row of the locator: a candidate of its source, alive or not. -/
theorem held_candidate (inv : StoreInv env s) (hh : l ∈ q.tenures s.db) :
    ∃ c, (stateOf (q.evidence s.db).states l.sourceId).bind (·.manifestSource true) = some c ∧
      c.sourceId = l.sourceId ∧
      q.fingerprintOf s.db l.sourceId = some c.currentFingerprint ∧
      (stateOf (q.evidence s.db).states l.sourceId).all (fun s => s.openTombstoneId = none) =
        q.alive s.db l.sourceId := by
  obtain ⟨row, hi, hs, hw, v, o, hv, ho⟩ := held_state inv hh
  obtain ⟨ht, hc⟩ := List.mem_filter.mp hh
  have hl : l.sourceId ∈ ((q.evidence s.db).locators.map SourceLocator.sourceId ++
      (q.evidence s.db).tombstones.map (·.tombstone.sourceId)) := by
    refine List.mem_append_left _ (List.mem_map_of_mem (List.mem_filter.mpr ⟨ht, ?_⟩))
    simp only [decide_eq_true_eq] at hc ⊢
    exact ⟨hc.1, hc.2.1, hc.2.2 ▸ q.listed⟩
  have hf : stateOf (q.evidence s.db).states l.sourceId =
      some (s.db.canonicalState q.workspaceId q.checkpoint row) := by
    refine (List.find?_map ..).trans (Option.map_eq_some_iff.mpr ⟨row, ?_, rfl⟩)
    refine find?_unique (inv.keyed.sources.filter _) (List.mem_filter.mpr ⟨hi, ?_⟩)
      (decide_eq_true hs) fun a b ha hb =>
        ha ((of_decide_eq_true hb.1).trans (of_decide_eq_true hb.2).symm)
    exact decide_eq_true ⟨hw, hs ▸ hl⟩
  refine ⟨_, by
    rw [hf, Option.bind_some, CanonicalState.manifestSource, Db.canonicalState, hs, hv]
    simp only [Option.bind_some, ho, Option.bind_eq_bind]
    rfl, rfl, ?_, ?_⟩
  · simp [LocatorQuery.fingerprintOf, hv, ho]
  · rw [hf]
    simp [Db.canonicalState, LocatorQuery.alive, hs]

theorem candidates_forall₂ (inv : StoreInv env s) {rs : List SourceLocator}
    (ha : ∀ l ∈ rs, l ∈ q.tenures s.db) :
    List.Forall₂ (fun l c => c.sourceId = l.sourceId ∧
      q.fingerprintOf s.db l.sourceId = some c.currentFingerprint) rs
      ((q.evidence s.db).candidates rs) :=
  filterMap_forall₂ fun l hm => by
    obtain ⟨c, hfo, hs, hf, _⟩ := held_candidate inv (ha l hm)
    exact ⟨c, hfo, hs, hf⟩

theorem candidate_row (inv : StoreInv env s) {rs : List SourceLocator}
    (ham : ∀ l ∈ rs, l ∈ q.tenures s.db)
    (hm : c ∈ ((q.evidence s.db).candidates rs).filter entry.admits) :
    (∃ l ∈ rs, l.sourceId = c.sourceId) ∧ entry.knownSourceId.all (c.sourceId = ·) := by
  obtain ⟨hc, ha⟩ := List.mem_filter.mp hm
  obtain ⟨l, hh, hf⟩ := List.mem_filterMap.mp hc
  obtain ⟨c', hf', hs, _⟩ := held_candidate inv (ham l hh)
  rw [hf] at hf'
  cases hf'
  exact ⟨⟨l, hh, hs.symm⟩, ha⟩

theorem tombstone_held (inv : StoreInv env s) {t : SourceTombstone} (ht : t ∈ s.db.tombstones)
    (hw : t.workspaceId = q.workspaceId)
    (hon : s.db.tombstoneOpenAt t q.checkpoint = true) (hte : t.retainedLocator = q.locator) :
    q.HeldBy s.db t.sourceId := by
  have hh := inv.history t.sourceId
  have hi : t ∈ (s.db.graph t.sourceId).tombstones := List.mem_filter.mpr ⟨ht, by simp⟩
  obtain ⟨l, hha, hs, hcd⟩ := hh.places.2 t hi
  obtain ⟨c, hcl, hn⟩ := Option.map_eq_some_iff.mp hcd
  obtain ⟨hfo, y, he, hcs, hse⟩ := hh.timeline.forward l hha c hcl
  obtain ⟨d, hd, _, ho, _⟩ := hh.tombstones_deleted.1 t hi
  obtain ⟨o, hop, _, hof, _⟩ := hh.locators_opened.1 l hha
  rcases hh.current with hbl | ⟨row, hc⟩
  · rw [hbl] at he
    cases he
  · have hr := (hc.events d hd).1.symm.trans ho
    have hf : s.db.sequenceOf t.workspaceId t.deleteEventId = some y.eventSequence := by
      rw [Db.sequenceOf, find?_unique inv.keyed.events (List.mem_filter.mp he).1]
      · rfl
      · simpa using ⟨(hc.events y he).1.trans hr, hcs.trans hn⟩
      · intro a b ha hb
        simp only [decide_eq_true_eq] at hb
        exact ha.1 (hb.1.2.trans hb.2.2.symm)
    have hp : y.eventSequence ≤ q.checkpoint := by
      simpa [Db.tombstoneOpenAt, hf] using (Bool.and_eq_true_iff.mp hon).1
    obtain ⟨hin, hoe⟩ := List.mem_filter.mp hha
    refine ⟨l, List.mem_filter.mpr ⟨hin, ?_⟩, by simpa using hoe⟩
    simp only [decide_eq_true_eq]
    exact ⟨by rw [← hof, (hc.events o hop).1, hr, hw], by omega, hs.trans hte⟩

/-- Every entry of the locator is resolved, and to a source only that held the locator and that
the entry admits. -/
theorem resolves_identity (inv : StoreInv env s) (hat : entry.normalizedLocator = q.locator) :
    let i := resolveManifestIdentity ((q.evidence s.db).entryEvidence q.checkpoint entry)
    q.Resolves s.db permits entry i.sourceId ∧ ∀ x, i.sourceId = some x →
      q.HeldBy s.db x ∧ entry.knownSourceId.all (x = ·) := by
  intro i
  have hr (hma : ∃ ids, (q.evidence s.db).matched q.checkpoint entry i =
      .ok ids) : q.Resolves s.db permits entry i.sourceId := by
    obtain ⟨ids, ho⟩ := hma
    have is : (q.evidence s.db).matched q.checkpoint entry (resolveManifestIdentity
      ((q.evidence s.db).entryEvidence q.checkpoint entry)) = .ok ids := ho
    simp only [LocatorQuery.Resolves, resolveEntry, is, bind, Except.bind]
    exact ⟨_, rfl, rfl⟩
  have ht {cl : Bool} : ∀ l ∈ (q.evidence s.db).locatorRows q.checkpoint cl
      entry.normalizedLocator, l ∈ q.tenures s.db := by
    rw [hat, q.locatorRows_eq]
    exact fun l hm => (List.mem_filter.mp hm).1
  have hp : ProvenBy _ i := resolveManifestIdentity_provenBy _
  rw [PageEvidence.entryEvidence_eq] at hp
  clear_value i
  cases hp with
  | unproven => exact ⟨hr ⟨_, rfl⟩, fun x hn => nomatch hn⟩
  | @current c one =>
    obtain ⟨⟨l, hh, he⟩, ha⟩ := candidate_row inv ht (one ▸ List.mem_singleton_self c)
    refine ⟨hr (by
      simp only [PageEvidence.matched, ManifestIdentityResolution.proven]
      split
      · exact ⟨_, rfl⟩
      · next hn => exact absurd (by simp [he]) (List.find?_eq_none.mp hn l hh)), ?_⟩
    rintro _ ⟨⟩
    exact ⟨⟨l, ht l hh, he⟩, ha⟩
  | @historical c one =>
    obtain ⟨⟨l, hm, he⟩, ha⟩ := candidate_row inv
      (fun l hm => ht l (List.mem_filter.mp hm).1) (one ▸ List.mem_singleton_self c)
    have hh := (List.mem_filter.mp hm).1
    refine ⟨hr (by
      simp only [PageEvidence.matched, ManifestIdentityResolution.proven]
      split
      · exact ⟨_, rfl⟩
      · next hn => exact absurd (by simp [he]) (List.find?_eq_none.mp hn l hh)), ?_⟩
    rintro _ ⟨⟩
    exact ⟨⟨l, ht l hh, he⟩, ha⟩
  | @tombstone c one =>
    have hm : c ∈ [c] := List.mem_singleton_self c
    rw [← one] at hm
    obtain ⟨hca, ha⟩ := List.mem_filter.mp hm
    obtain ⟨t, hha, rfl⟩ := List.mem_map.mp hca
    obtain ⟨hin, hte⟩ := List.mem_filter.mp hha
    obtain ⟨t₀, hi, is⟩ := List.mem_filterMap.mp hin
    refine ⟨hr (by
      simp only [PageEvidence.matched, ManifestIdentityResolution.proven]
      split
      · exact ⟨_, rfl⟩
      · next hn =>
        exact absurd (by simp [PageEvidence.tombstoneCandidate])
          (List.find?_eq_none.mp hn t hha)), ?_⟩
    rintro _ ⟨⟩
    obtain ⟨hs, hc⟩ := List.mem_filter.mp hi
    obtain rfl : t₀ = t.tombstone := by
      simp only [Option.bind_eq_bind, Option.bind_eq_some_iff] at is
      obtain ⟨_, _, _, _, ⟨⟩⟩ := is
      rfl
    simp only [decide_eq_true_eq] at hc hte
    exact ⟨tombstone_held inv hs hc.1 hc.2.2 (hte.trans hat), ha⟩

/-- Where nobody holds the locator, the candidates are the rows of its living holders. -/
theorem vacant_evidence (inv : StoreInv env s) (ha : entry.normalizedLocator = q.locator)
    (hv : q.Vacant s.db) :
    ((q.evidence s.db).entryEvidence q.checkpoint entry).currentLocatorCandidates = [] ∧
    ∃ cs, List.Forall₂ (fun l c => c.sourceId = l.sourceId ∧
        q.fingerprintOf s.db l.sourceId = some c.currentFingerprint)
      ((q.tenures s.db).filter fun l => q.alive s.db l.sourceId) cs ∧
    ((q.evidence s.db).entryEvidence q.checkpoint entry).historicalLocatorCandidates =
      cs.filter entry.admits := by
  rw [PageEvidence.entryEvidence_eq, ha, q.locatorRows_eq, q.locatorRows_eq]
  have hn : ((q.tenures s.db).filter fun l => l.closedBy q.checkpoint = false) = [] :=
    List.filter_eq_nil_iff.mpr fun l hh => by simp [hv l hh]
  have hl : (((q.tenures s.db).filter fun l => l.closedBy q.checkpoint = true).filter fun l =>
      (stateOf (q.evidence s.db).states l.sourceId).all fun s => s.openTombstoneId = none) =
      (q.tenures s.db).filter fun l => q.alive s.db l.sourceId := by
    rw [List.filter_filter]
    refine List.filter_congr fun l hh => ?_
    obtain ⟨_, _, _, _, hli⟩ := held_candidate inv hh
    rw [hli, hv l hh]
    simp
  rw [hn, hl]
  exact ⟨rfl, _, candidates_forall₂ inv fun l hm => (List.mem_filter.mp hm).1, rfl⟩

end Candidates

/-! ## The proof of an identity -/

theorem LocatorQuery.Resolves.unique {q : LocatorQuery} {db : Db}
    {permits : ManifestSubject → Bool} {entry : ManifestEntry} {x y : Option SourceId}
    (hf : q.Resolves db permits entry x) (hs : q.Resolves db permits entry y) : x = y := by
  obtain ⟨row, hr, rfl⟩ := hf
  obtain ⟨r', hr', rfl⟩ := hs
  rw [hr] at hr'
  cases hr'
  rfl

/-- At every reachable state the law holds exactly where a sole historical holder held the locator
once. -/
theorem identity_proof_iff {env : Environment} {w : StoreWorld}
    (reached : (storeMachine env).Reachable w) (q : LocatorQuery)
    (permits : ManifestSubject → Bool) :
    q.ProvesIdentity w.snapshot.db permits ↔
      ∀ x, q.SoleHolder w.snapshot.db x → q.Vacant w.snapshot.db →
        ((q.tenures w.snapshot.db).filter fun l => l.sourceId = x).length = 1 := by
  have inv := inv_of_reachable reached
  have hso {x : SourceId} (hse : q.SoleHolder w.snapshot.db x) :
      ((q.tenures w.snapshot.db).filter fun l => q.alive w.snapshot.db l.sourceId) =
        (q.tenures w.snapshot.db).filter fun l => l.sourceId = x := by
    refine List.filter_congr fun l hhe => ?_
    rw [Bool.eq_iff_iff, decide_eq_true_eq]
    exact ⟨hse.sole _ ⟨l, hhe, rfl⟩, fun he => he ▸ hse.alive⟩
  constructor
  · intro law x hse hv
    obtain ⟨l, hhe, rfl⟩ := hse.held
    obtain ⟨c, _, _, hf, _⟩ := held_candidate inv hhe
    let entry : ManifestEntry := ⟨"", none, none, q.locator, c.currentFingerprint, 0⟩
    have ha : entry.normalizedLocator = q.locator := rfl
    have hr := law.sole entry l.sourceId ha rfl hse hv hf
    have hi := hr.unique (resolves_identity inv ha).1
    obtain ⟨hn, cs, hro, hh⟩ := vacant_evidence inv ha hv
    rw [hso hse] at hro
    have had : cs.filter entry.admits = cs := List.filter_eq_self.mpr fun _ _ => rfl
    rw [resolveManifestIdentity, hn, hh, had] at hi
    rw [hro.length_eq]
    match cs, hro, hi with
    | [], hro, _ =>
      have hne := List.forall₂_nil_right_iff.mp hro
      exact absurd (List.mem_filter.mpr ⟨hhe, by simp⟩) (hne ▸ List.not_mem_nil)
    | [_], _, _ => rfl
    | _ :: _ :: _, _, hi => cases hi
  · intro ho
    refine ⟨?_, ?_, ?_⟩
    · intro entry x ha has hse hv hf
      obtain ⟨hn, cs, hro, hh⟩ := vacant_evidence inv ha hv
      rw [hso hse] at hro
      obtain ⟨l, one⟩ := List.length_eq_one_iff.mp (ho x hse hv)
      have isX : l.sourceId = x := by
        have hm : l ∈ [l] := List.mem_singleton_self l
        rw [← one] at hm
        simpa using (List.mem_filter.mp hm).2
      rw [one] at hro
      obtain ⟨c, r, ⟨hsou, hs⟩, hno, rfl⟩ := List.forall₂_cons_left_iff.mp hro
      obtain rfl := List.forall₂_nil_left_iff.mp hno
      rw [isX] at hsou hs
      rw [hf] at hs
      have hi : resolveManifestIdentity ((q.evidence w.snapshot.db).entryEvidence
          q.checkpoint entry) = .proven c .historicalLocatorFingerprint := by
        rw [resolveManifestIdentity, hn, hh, List.filter_eq_self.mpr (by
          simpa [ManifestEntry.admits, hsou] using has)]
        simp only [PageEvidence.entryEvidence_eq, Option.some.inj hs, ne_eq,
          not_true_eq_false, ↓reduceIte]
      have hr := (@resolves_identity _ _ _ _ permits inv ha).1
      rw [hi] at hr
      exact hsou ▸ hr
    · rintro entry x y ha hna hv hap ⟨l, hhe, rfl⟩ hl ⟨m, hh', rfl⟩ hl'
      obtain ⟨hn, cs, hro, hh⟩ := vacant_evidence inv ha hv
      have hli {l} (hhe : l ∈ q.tenures w.snapshot.db)
          (hl : q.alive w.snapshot.db l.sourceId = true) :
          l ∈ (q.tenures w.snapshot.db).filter fun l => q.alive w.snapshot.db l.sourceId :=
        List.mem_filter.mpr ⟨hhe, hl⟩
      have hha := hli hhe hl
      have hhm := hli hh' hl'
      have hr := (@resolves_identity _ _ _ _ permits inv ha).1
      rw [resolveManifestIdentity, hn, hh, List.filter_eq_self.mpr (by
        simp [ManifestEntry.admits, hna])] at hr
      generalize (q.tenures w.snapshot.db).filter (fun l => q.alive w.snapshot.db l.sourceId) = ls
        at hro hha hhm
      cases hro with
      | nil => cases hha
      | cons _ hmo =>
        cases hmo with
        | nil =>
          rw [List.mem_singleton.mp hha, List.mem_singleton.mp hhm] at hap
          exact absurd rfl hap
        | cons _ _ => exact hr
    · intro entry x ha hr
      have ⟨hid, hsd⟩ := @resolves_identity _ _ _ _ permits inv ha
      exact hsd x (hid.unique hr)

/-! ## A source that returned to a locator -/

def sampleQuery : LocatorQuery := ⟨1, 9, "a.md", ["a.md"], List.mem_singleton_self _⟩

def sampleEntry : ManifestEntry := ⟨"e", none, none, "a.md", ⟨"ab", 2, "text/plain"⟩, 0⟩

theorem identity_proof_renamed : ∃ w, (storeMachine sampleEnvironment).Reachable w ∧
    w.snapshot.db.locators.length = 2 ∧
    sampleQuery.ProvesIdentity w.snapshot.db fun _ => true := by
  have ho : ((storeMachine sampleEnvironment).run emptyWorld renamedScript).map (fun w =>
      (w.snapshot.db.locators.length, (sampleQuery.tenures w.snapshot.db).length)) =
      some (2, 1) := by decide +kernel
  obtain ⟨w, ran, hf⟩ := Option.map_eq_some_iff.mp ho
  have hr := Machine.reachable_of_run (emptyWorld_init _) ran
  obtain ⟨row, one⟩ := List.length_eq_one_iff.mp (Prod.mk.inj hf).2
  refine ⟨w, hr, (Prod.mk.inj hf).1, (identity_proof_iff hr _ _).mpr ?_⟩
  rintro _ ⟨⟨l, hh, rfl⟩, _, _⟩ _
  rw [one] at hh ⊢
  rw [List.mem_singleton.mp hh]
  simp

def moveNote (k : Nat) (source target : NormalizedLocator)
    (shape : operationShape .rename (some source) (some target) none = true) : LifecycleCall where
  request := { sampleRename.request with
    command := { sampleRename.request.command with
      eventId := 500 + k
      idempotencyKey := "move " ++ toString k
      expectedLocator := some source
      targetLocator := some target
      shape := shape } }
  identities := fun remaining => ⟨600 + 10 * k + remaining, 700 + 10 * k + remaining⟩

/-- The renamed note returns to its path and leaves it again. -/
def returnedScript : List (Action StoreCall) :=
  renamedScript ++ .spawn (.lifecycle (moveNote 1 "b.md" "a.md" rfl)) :: advances 2 17 ++
    .spawn (.lifecycle (moveNote 2 "a.md" "c.md" rfl)) :: advances 3 17

/-- The one source that ever held the path is not proven, for it held it twice. -/
theorem returned_source_unproven : ¬ ∀ w, (storeMachine sampleEnvironment).Reachable w →
    ∀ (q : LocatorQuery) permits, q.ProvesIdentity w.snapshot.db permits := by
  intro hc
  have ho : ((storeMachine sampleEnvironment).run emptyWorld returnedScript).map (fun w =>
      ((sampleQuery.tenures w.snapshot.db).map fun l => (l.sourceId, l.closedBy 9),
        sampleQuery.alive w.snapshot.db 1, sampleQuery.fingerprintOf w.snapshot.db 1,
        (resolveManifestIdentity ((sampleQuery.evidence w.snapshot.db).entryEvidence 9
          sampleEntry)).sourceId)) =
      some ([(1, true), (1, true)], true, some ⟨"ab", 2, "text/plain"⟩, none) := by
    decide +kernel
  obtain ⟨w, ran, hfa⟩ := Option.map_eq_some_iff.mp ho
  simp only [Prod.mk.injEq] at hfa
  obtain ⟨hro, ha, hf, hu⟩ := hfa
  have hr := Machine.reachable_of_run (emptyWorld_init _) ran
  have ht : ∀ l ∈ sampleQuery.tenures w.snapshot.db, l.sourceId = 1 ∧ l.closedBy 9 = true := by
    intro l hh
    have hm := List.mem_map_of_mem (f := fun l : SourceLocator => (l.sourceId, l.closedBy 9)) hh
    rw [hro] at hm
    simpa using hm
  have hh : sampleQuery.HeldBy w.snapshot.db 1 := by
    obtain ⟨l, r, is, _⟩ := List.map_eq_cons_iff.mp hro
    have hm : l ∈ sampleQuery.tenures w.snapshot.db := is ▸ List.mem_cons_self
    exact ⟨l, hm, (ht l hm).1⟩
  have hre := (hc w hr sampleQuery fun _ => true).sole sampleEntry 1 rfl rfl
    ⟨hh, ha, fun y ⟨l, hm, he⟩ _ => he ▸ (ht l hm).1⟩
    (fun l hm => (ht l hm).2) hf
  have he := hre.unique (resolves_identity (inv_of_reachable hr) rfl).1
  rw [show (sampleQuery.evidence w.snapshot.db).entryEvidence sampleQuery.checkpoint sampleEntry =
    (sampleQuery.evidence w.snapshot.db).entryEvidence 9 sampleEntry from rfl, hu] at he
  cases he

end PersonalOs.SourceStore
