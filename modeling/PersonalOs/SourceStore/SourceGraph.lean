import PersonalOs.SourceStore.Schema

/-!
# The graph of one source and its history

What the canonical tables say about one source, and the seven things a committed event can
do to it: create it, repeat its current version, publish a version, relocate, delete or
restore it, or only be recorded. Every claim about single sources is an induction over the
history of such steps; the stores' transactions are shown to take one of them each.
-/

namespace PersonalOs.SourceStore

/-- The rows of one source, in the order of insertion. -/
structure SourceGraph where
  rows : List Source
  versions : List SourceVersion
  locators : List SourceLocator
  tombstones : List SourceTombstone
  events : List SyncEvent
deriving DecidableEq

namespace SourceGraph

def empty : SourceGraph := ⟨[], [], [], [], []⟩

def closeLocators (g : SourceGraph) (e : SyncEvent) : List SourceLocator :=
  g.locators.map fun l =>
    if l.closure = none then { l with closure := some ⟨e.eventId, e.eventSequence⟩ } else l

def restoreTombstone (g : SourceGraph) (tombstoneId : SourceTombstoneId) (e : SyncEvent) :
    List SourceTombstone :=
  g.tombstones.map fun t =>
    if t.sourceTombstoneId = tombstoneId ∧ t.restoreEventId = none then
      { t with restoreEventId := some e.eventId }
    else t

end SourceGraph

structure Opens (e : SyncEvent) (l : SourceLocator) : Prop where
  workspace : l.workspaceId = e.workspaceId
  source : l.sourceId = e.sourceId
  event : l.openedEventId = e.eventId
  sequence : l.openedSequence = e.eventSequence
  unclosed : l.closure = none

structure VersionOf (e : SyncEvent) (v : SourceVersion) : Prop where
  workspace : v.workspaceId = e.workspaceId
  source : v.sourceId = e.sourceId

inductive GraphStep (e : SyncEvent) : SourceGraph → SourceGraph → Prop
  | create {g : SourceGraph} (row : Source) (version : SourceVersion)
      (locator : Option SourceLocator) (absent : g.rows = [])
      (type : e.eventType = .create) (base : e.baseVersionId = none)
      (committed : e.committedVersionId = some version.sourceVersionId)
      (source : row.sourceId = e.sourceId) (workspace : row.workspaceId = e.workspaceId)
      (active : row.syncState = .active)
      (pointer : row.currentVersionId = some version.sourceVersionId)
      (versionOf : VersionOf e version) (first : version.contentVersion = 1)
      (parentless : version.parentVersionId = none) (opens : ∀ l ∈ locator, Opens e l) :
      GraphStep e g ⟨[row], g.versions ++ [version], g.locators ++ locator.toList,
        g.tombstones, g.events ++ [e]⟩
  | repeatCurrent {g : SourceGraph} (row : Source) (current : SourceVersionId)
      (stands : g.rows = [row]) (workspace : row.workspaceId = e.workspaceId)
      (live : row.syncState ≠ .deleted) (pointer : row.currentVersionId = some current)
      (type : e.eventType = .update) (base : e.baseVersionId = some current)
      (committed : e.committedVersionId = some current) :
      GraphStep e g { g with events := g.events ++ [e] }
  | publish {g : SourceGraph} (row : Source) (parent version : SourceVersion)
      (stands : g.rows = [row]) (workspace : row.workspaceId = e.workspaceId)
      (live : row.syncState ≠ .deleted)
      (pointer : row.currentVersionId = some parent.sourceVersionId)
      (parentStands : parent ∈ g.versions)
      (type : e.eventType = .update ∨ e.eventType = .conflictResolve)
      (base : e.baseVersionId = some parent.sourceVersionId)
      (committed : e.committedVersionId = some version.sourceVersionId)
      (versionOf : VersionOf e version)
      (fresh : ∀ v ∈ g.versions, v.sourceVersionId ≠ version.sourceVersionId)
      (next : version.contentVersion = parent.contentVersion + 1)
      (parented : version.parentVersionId = some parent.sourceVersionId) :
      GraphStep e g { g with
        rows := [{ row with currentVersionId := some version.sourceVersionId }]
        versions := g.versions ++ [version]
        events := g.events ++ [e] }
  | relocate {g : SourceGraph} (row : Source) (current : SourceVersionId)
      (closed opened : SourceLocator)
      (stands : g.rows = [row]) (workspace : row.workspaceId = e.workspaceId)
      (active : row.syncState = .active) (pointer : row.currentVersionId = some current)
      (closedStands : closed ∈ g.locators) (wasOpen : closed.closure = none)
      (type : e.eventType = .rename ∨ e.eventType = .move)
      (committed : e.committedVersionId = some current) (opens : Opens e opened)
      (moves : opened.normalizedLocator ≠ closed.normalizedLocator) :
      GraphStep e g { g with
        locators := g.closeLocators e ++ [opened]
        events := g.events ++ [e] }
  | delete {g : SourceGraph} (row : Source) (current : SourceVersionId)
      (closed : SourceLocator) (tombstone : SourceTombstone)
      (stands : g.rows = [row]) (workspace : row.workspaceId = e.workspaceId)
      (active : row.syncState = .active) (pointer : row.currentVersionId = some current)
      (closedStands : closed ∈ g.locators) (wasOpen : closed.closure = none)
      (type : e.eventType = .delete) (committed : e.committedVersionId = some current)
      (tombstoneSource : tombstone.sourceId = e.sourceId)
      (tombstoneWorkspace : tombstone.workspaceId = e.workspaceId)
      (deleted : tombstone.deleteEventId = e.eventId)
      (retained : tombstone.retainedVersionId = current)
      (retainedLocator : tombstone.retainedLocator = closed.normalizedLocator)
      (unrestored : tombstone.restoreEventId = none) :
      GraphStep e g { g with
        rows := [{ row with syncState := .deleted }]
        locators := g.closeLocators e
        tombstones := g.tombstones ++ [tombstone]
        events := g.events ++ [e] }
  | restore {g : SourceGraph} (row : Source) (current : SourceVersionId)
      (tombstone : SourceTombstone) (opened : SourceLocator)
      (stands : g.rows = [row]) (workspace : row.workspaceId = e.workspaceId)
      (deleted : row.syncState = .deleted) (pointer : row.currentVersionId = some current)
      (tombstoneStands : tombstone ∈ g.tombstones) (unrestored : tombstone.restoreEventId = none)
      (retained : tombstone.retainedVersionId = current)
      (type : e.eventType = .restore) (committed : e.committedVersionId = some current)
      (opens : Opens e opened) :
      GraphStep e g { g with
        rows := [{ row with syncState := .active }]
        locators := g.locators ++ [opened]
        tombstones := g.restoreTombstone tombstone.sourceTombstoneId e
        events := g.events ++ [e] }
  | record {g : SourceGraph} (row : Source)
      (stands : g.rows = [row]) (workspace : row.workspaceId = e.workspaceId)
      (type : e.eventType = .conflictCapture ∨ e.eventType = .conflictResolve)
      (committed : e.committedVersionId = none ∨
        e.committedVersionId = row.currentVersionId) :
      GraphStep e g { g with events := g.events ++ [e] }

/-- The graphs of a source that grow from nothing by events, each numbered behind all before
it and with an identity of its own. -/
inductive SourceHistory (sourceId : SourceId) : SourceGraph → Prop
  | empty : SourceHistory sourceId .empty
  | step {g g' : SourceGraph} {e : SyncEvent} (before : SourceHistory sourceId g)
      (ofSource : e.sourceId = sourceId)
      (behind : ∀ x ∈ g.events, x.eventSequence < e.eventSequence)
      (fresh : ∀ x ∈ g.events, x.eventId ≠ e.eventId) (moved : GraphStep e g g') :
      SourceHistory sourceId g'

/-! ## What events leave behind -/

variable {e : SyncEvent} {g g' : SourceGraph} {x : SourceId}

theorem GraphStep.events (hv : GraphStep e g g') : g'.events = g.events ++ [e] := by
  cases hv <;> rfl

/-- The locators after a step are those before it, perhaps closed, and those it opens. -/
theorem GraphStep.locators (hv : GraphStep e g g') :
    ∃ o : List SourceLocator, (∀ l ∈ o, Opens e l) ∧ o.length ≤ 1 ∧
      (g'.locators = g.locators ++ o ∨ g'.locators = g.closeLocators e ++ o) := by
  cases hv with
  | repeatCurrent | publish | record => exact ⟨[], by simp, by simp, .inl (by simp)⟩
  | create _ _ lo _ _ _ _ _ _ _ _ _ _ _ ho =>
    refine ⟨lo.toList, fun l hm => ho l (by simpa using hm), ?_, .inl rfl⟩
    cases lo <;> simp
  | relocate _ _ _ o _ _ _ _ _ _ _ _ ho =>
    exact ⟨[o], by simpa using ho, by simp, .inr rfl⟩
  | delete => exact ⟨[], by simp, by simp, .inr (List.append_nil _).symm⟩
  | restore _ _ _ o _ _ _ _ _ _ _ _ _ ho =>
    exact ⟨[o], by simpa using ho, by simp, .inl rfl⟩

/-- The tombstones after a step are those before it, perhaps restored, and the one it makes. -/
theorem GraphStep.tombstones (hv : GraphStep e g g') : ∃ d : List SourceTombstone,
      (∀ t ∈ d, t.deleteEventId = e.eventId ∧ t.workspaceId = e.workspaceId ∧
        t.sourceId = e.sourceId) ∧
      d.length ≤ 1 ∧ (g'.tombstones = g.tombstones ++ d ∨
        ∃ id, g'.tombstones = g.restoreTombstone id e ++ d) := by
  cases hv with
  | create | repeatCurrent | publish | relocate | record =>
    exact ⟨[], by simp, by simp, .inl (by simp)⟩
  | delete _ _ _ te _ _ _ _ _ _ _ _ hs hw d =>
    exact ⟨[te], by simpa using ⟨d, hw, hs⟩, by simp, .inl rfl⟩
  | restore _ _ te => exact ⟨[], by simp, by simp, .inr ⟨_, (List.append_nil _).symm⟩⟩

namespace HistoryLemmas

theorem forall_map {α : Type} {rs : List α} {w : α → α} {f : α → Prop}
    (hk : ∀ r, f r → f (w r)) (old : ∀ r ∈ rs, f r) :
    ∀ r ∈ rs.map w, f r := by
  intro r hm
  obtain ⟨r₀, ht, rfl⟩ := List.mem_map.mp hm
  exact hk r₀ (old r₀ ht)

theorem pairwise_append {α κ : Type} {rs m : List α} (key : α → κ)
    (old : rs.Pairwise fun a b => key a ≠ key b) (hs : m.length ≤ 1)
    (hf : ∀ a ∈ rs, ∀ b ∈ m, key a ≠ key b) :
    (rs ++ m).Pairwise fun a b => key a ≠ key b := by
  refine List.pairwise_append.mpr ⟨old, ?_, hf⟩
  match m, hs with
  | [], _ => exact .nil
  | [b], _ => exact List.pairwise_singleton _ b

end HistoryLemmas

open HistoryLemmas

/-- An event of the source with the given identity stands behind a row. -/
def SourceGraph.Recorded (g : SourceGraph) (eventId : EventId) (workspaceId : WorkspaceId)
    (sequence : Option Nat) : Prop :=
  ∃ e ∈ g.events, e.eventId = eventId ∧ e.workspaceId = workspaceId ∧
    ∀ n ∈ sequence, e.eventSequence = n

theorem GraphStep.recorded (hv : GraphStep e g g') {ei : EventId}
    {wi : WorkspaceId} {s : Option Nat}
    (hd : g.Recorded ei wi s) :
    g'.Recorded ei wi s := by
  obtain ⟨x, ht, hr⟩ := hd
  exact ⟨x, by rw [hv.events]; exact List.mem_append_left _ ht, hr⟩

theorem GraphStep.recorded_self (hv : GraphStep e g g') : e ∈ g'.events := by
  rw [hv.events]
  simp

/-- Every locator was opened by a recorded event, and by one event at most one. -/
theorem SourceHistory.locators_opened (hh : SourceHistory x g) :
    (∀ l ∈ g.locators, g.Recorded l.openedEventId l.workspaceId (some l.openedSequence)) ∧
      g.locators.Pairwise fun a b => a.openedEventId ≠ b.openedEventId := by
  induction hh with
  | empty => exact ⟨by simp [SourceGraph.empty], .nil⟩
  | @step g g' e _ _ _ hfr hv ih =>
    obtain ⟨hd, hap⟩ := ih
    obtain ⟨o, ho, hs, hl⟩ := hv.locators
    have hke : ∀ l ∈ g.closeLocators e,
        g.Recorded l.openedEventId l.workspaceId (some l.openedSequence) :=
      forall_map (fun l ht => by
        split <;> exact ht) hd
    have hk : (g.closeLocators e).Pairwise fun a b => a.openedEventId ≠ b.openedEventId :=
      List.pairwise_map.mpr (hap.imp fun {a b} hdi => by
        split <;> split <;> exact hdi)
    have new : ∀ l ∈ o, g'.Recorded l.openedEventId l.workspaceId (some l.openedSequence) :=
      fun l hm => ⟨e, hv.recorded_self, (ho l hm).event.symm,
        (ho l hm).workspace.symm, by simp [(ho l hm).sequence]⟩
    have hf {rs : List SourceLocator}
        (old : ∀ l ∈ rs, g.Recorded l.openedEventId l.workspaceId (some l.openedSequence)) :
        ∀ a ∈ rs, ∀ b ∈ o, a.openedEventId ≠ b.openedEventId := by
      intro a hha b hhb he
      obtain ⟨x, ht, hn, _⟩ := old a hha
      exact hfr x ht (by rw [hn, he, (ho b hhb).event])
    rcases hl with hu | hc
    · rw [hu]
      refine ⟨fun l hm => ?_, pairwise_append _ hap hs (hf hd)⟩
      rcases List.mem_append.mp hm with old | ha
      · exact hv.recorded (hd l old)
      · exact new l ha
    · rw [hc]
      refine ⟨fun l hm => ?_, pairwise_append _ hk hs (hf hke)⟩
      rcases List.mem_append.mp hm with old | ha
      · exact hv.recorded (hke l old)
      · exact new l ha

/-- Every tombstone was made by a recorded event, and by one event at most one. -/
theorem SourceHistory.tombstones_deleted (hh : SourceHistory x g) :
    (∀ t ∈ g.tombstones, g.Recorded t.deleteEventId t.workspaceId none) ∧
      g.tombstones.Pairwise fun a b => a.deleteEventId ≠ b.deleteEventId := by
  induction hh with
  | empty => exact ⟨by simp [SourceGraph.empty], .nil⟩
  | @step g g' e _ _ _ hfr hv ih =>
    obtain ⟨hd, hap⟩ := ih
    obtain ⟨d, hde, hs, hto⟩ := hv.tombstones
    have hke (id : SourceTombstoneId) : ∀ t ∈ g.restoreTombstone id e,
        g.Recorded t.deleteEventId t.workspaceId none :=
      forall_map (fun t ht => by split <;> exact ht) hd
    have hk (id : SourceTombstoneId) :
        (g.restoreTombstone id e).Pairwise fun a b => a.deleteEventId ≠ b.deleteEventId :=
      List.pairwise_map.mpr (hap.imp fun {a b} hdi => by
        split <;> split <;> exact hdi)
    have new : ∀ t ∈ d, g'.Recorded t.deleteEventId t.workspaceId none :=
      fun t hm => ⟨e, hv.recorded_self, (hde t hm).1.symm, (hde t hm).2.1.symm, by simp⟩
    have hf {rs : List SourceTombstone}
        (old : ∀ t ∈ rs, g.Recorded t.deleteEventId t.workspaceId none) :
        ∀ a ∈ rs, ∀ b ∈ d, a.deleteEventId ≠ b.deleteEventId := by
      intro a hha b hhb he
      obtain ⟨x, ht, hn, _⟩ := old a hha
      exact hfr x ht (by rw [hn, he, (hde b hhb).1])
    rcases hto with hu | ⟨id, hr⟩
    · rw [hu]
      refine ⟨fun t hm => ?_, pairwise_append _ hap hs (hf hd)⟩
      rcases List.mem_append.mp hm with old | ha
      · exact hv.recorded (hd t old)
      · exact new t ha
    · rw [hr]
      refine ⟨fun t hm => ?_, pairwise_append _ (hk id) hs (hf (hke id))⟩
      rcases List.mem_append.mp hm with old | ha
      · exact hv.recorded (hke id t old)
      · exact new t ha

/-! ## The current version -/

structure Current (x : SourceId) (g : SourceGraph) (row : Source) : Prop where
  stands : g.rows = [row]
  source : row.sourceId = x
  state : row.syncState = .active ∨ row.syncState = .deleted
  pointer : ∃ v ∈ g.versions, row.currentVersionId = some v.sourceVersionId
  versions : ∀ v ∈ g.versions,
    v.workspaceId = row.workspaceId ∧ v.sourceId = x ∧ 1 ≤ v.contentVersion
  events : ∀ e ∈ g.events, e.workspaceId = row.workspaceId ∧
    ∀ id ∈ e.committedVersionId, ∃ v ∈ g.versions, v.sourceVersionId = id

namespace HistoryLemmas

theorem forall_snoc {α : Type} {rs : List α} {new : α} {f : α → Prop}
    (old : ∀ r ∈ rs, f r) (ha : f new) : ∀ r ∈ rs ++ [new], f r := by
  intro r hm
  rcases List.mem_append.mp hm with ht | is
  · exact old r ht
  · rw [List.mem_singleton.mp is]
    exact ha

end HistoryLemmas

theorem Current.row_eq {row r' : Source} (hc : Current x g row) (ht : g.rows = [r']) :
    r' = row := by
  rw [hc.stands] at ht
  exact (List.cons.inj ht).1.symm

theorem Current.keep {row r' : Source} (hcu : Current x g row) (ht : g'.rows = [r'])
    (he : r'.sourceId = row.sourceId ∧ r'.workspaceId = row.workspaceId ∧
      r'.currentVersionId = row.currentVersionId)
    (hs : r'.syncState = .active ∨ r'.syncState = .deleted)
    (hv : g'.versions = g.versions) (hev : g'.events = g.events ++ [e])
    (hw : row.workspaceId = e.workspaceId)
    (hco : e.committedVersionId = none ∨ e.committedVersionId = row.currentVersionId) :
    Current x g' r' where
  stands := ht
  source := he.1.trans hcu.source
  state := hs
  pointer := by
    rw [hv, he.2.2]
    exact hcu.pointer
  versions := by
    rw [hv, he.2.1]
    exact hcu.versions
  events := by
    rw [hv, hev, he.2.1]
    refine forall_snoc hcu.events ⟨hw.symm, fun id hc => ?_⟩
    rcases hco with hn | hct
    · rw [hn] at hc
      cases hc
    · obtain ⟨v, ht, hp⟩ := hcu.pointer
      rw [hct, hp] at hc
      cases hc
      exact ⟨v, ht, rfl⟩

/-- A source with a history has no row and nothing else, or a row whose pointer names one of
its versions. -/
theorem SourceHistory.current (hh : SourceHistory x g) : g = .empty ∨ ∃ row, Current x g row := by
  induction hh with
  | empty => exact .inl rfl
  | @step g g' e _ ho _ _ hmo ih =>
    refine .inr ?_
    have hf (row : Source) (ht : g.rows = [row]) : Current x g row := by
      rcases ih with rfl | ⟨r', hcu⟩
      · cases ht
      · exact hcu.row_eq ht ▸ hcu
    cases hmo with
    | create row ve l hn _ _ hc hso hw ha hp hv hfi =>
      have hb : g = .empty := ih.resolve_right fun ⟨r', hcu⟩ => by
        rw [hcu.stands] at hn
        cases hn
      subst hb
      refine ⟨row, rfl, hso.trans ho, .inl ha, ⟨ve, by simp, hp⟩, ?_, ?_⟩
      · simp only [SourceGraph.empty, List.nil_append, List.mem_singleton, forall_eq]
        exact ⟨hv.workspace.trans hw.symm, hv.source.trans ho, by omega⟩
      · simp only [SourceGraph.empty, List.nil_append, List.mem_singleton, forall_eq]
        refine ⟨hw.symm, fun id hco => ⟨ve, rfl, ?_⟩⟩
        rw [hc] at hco
        exact Option.some.inj hco
    | repeatCurrent row hcu ht hw _ hp _ _ hc =>
      have now := hf row ht
      exact ⟨row, now.keep ht ⟨rfl, rfl, rfl⟩ now.state rfl rfl hw (.inr (hc.trans hp.symm))⟩
    | publish row p ve ht hw _ _ hpa _ _ hc hv _ hne =>
      have now := hf row ht
      refine ⟨_, rfl, now.source, now.state, ⟨ve, by simp, rfl⟩, ?_, ?_⟩
      · exact forall_snoc now.versions ⟨hv.workspace.trans hw.symm, hv.source.trans ho, by omega⟩
      · refine forall_snoc ?_ ⟨hw.symm, fun id hco => ⟨ve, by simp, ?_⟩⟩
        · intro y hm
          obtain ⟨hs, hst⟩ := now.events y hm
          refine ⟨hs, fun id hco => ?_⟩
          obtain ⟨v, ht, hna⟩ := hst id hco
          exact ⟨v, List.mem_append_left _ ht, hna⟩
        · rw [hc] at hco
          exact Option.some.inj hco
    | relocate row hcu _ _ ht hw ha hp _ _ _ hc =>
      exact ⟨row, (hf row ht).keep ht ⟨rfl, rfl, rfl⟩ (.inl ha) rfl rfl hw
        (.inr (hc.trans hp.symm))⟩
    | delete row hcu _ _ ht hw _ hp _ _ _ hc =>
      exact ⟨_, (hf row ht).keep rfl ⟨rfl, rfl, rfl⟩ (.inr rfl) rfl rfl hw
        (.inr (hc.trans hp.symm))⟩
    | restore row hcu _ _ ht hw _ hp _ _ _ _ hc =>
      exact ⟨_, (hf row ht).keep rfl ⟨rfl, rfl, rfl⟩ (.inl rfl) rfl rfl hw
        (.inr (hc.trans hp.symm))⟩
    | record row ht hw _ hc =>
      have now := hf row ht
      exact ⟨row, now.keep ht ⟨rfl, rfl, rfl⟩ now.state rfl rfl hw hc⟩

/-! ## One source's part of the tables -/

def Db.graph (db : Db) (sourceId : SourceId) : SourceGraph where
  rows := db.sources.filter fun s => s.sourceId = sourceId
  versions := db.versions.filter fun v => v.sourceId = sourceId
  locators := db.locators.filter fun l => l.sourceId = sourceId
  tombstones := db.tombstones.filter fun t => t.sourceId = sourceId
  events := db.events.filter fun e => e.sourceId = sourceId

end PersonalOs.SourceStore
