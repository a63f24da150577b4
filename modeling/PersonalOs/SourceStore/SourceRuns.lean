import PersonalOs.SourceStore.CallPoints
import PersonalOs.SourceStore.Timelines
import PersonalOs.SourceStore.VersionChains

/-!
# Sources and publications in every run

What runs of the stores keep of the sources and answer to publications.
-/

namespace PersonalOs.SourceStore

open Transactions

abbrev StoreSession := Session Db LockName LifecycleRequest StoreAnswer StoreCall

/-! ## A sample environment -/

/-- An environment of active workspaces and devices for the concrete runs. Digests name the
operation and the content. -/
def sampleEnvironment : Environment where
  word := fun bytes => bytes.foldl (fun n b => 256 * n + b.toNat) 0
  publicationDigest
    | .create _ _ eventId _ contentSha256 .. => "create " ++ toString eventId ++ contentSha256
    | .update _ _ eventId _ contentSha256 .. => "update " ++ toString eventId ++ contentSha256
  lifecycleDigest := fun command => "lifecycle " ++ toString command.eventId
  captureDigest := fun command => "capture " ++ toString command.originatingEventId
  resolutionDigest := fun command => "resolution " ++ toString command.resolutionEventId
  workspaceActive := fun _ => true
  actorValid := fun _ _ => true
  deviceActive := fun _ _ => true
  policyLoaded := fun _ => true
  manifestPolicy := fun _ _ => true
  manifestFinalDigest := fun pages => String.join (pages.map ManifestPage.pageDigest)

def emptyWorld : StoreWorld := ⟨⟨.empty, 1⟩, []⟩

theorem emptyWorld_init (env : Environment) : (storeMachine env).Init emptyWorld := ⟨rfl, rfl⟩

/-- A device creates a note at a path. -/
def sampleCreate (sourceId : SourceId) (key : IdempotencyKey) (locator : NormalizedLocator) :
    PublicationRequest where
  command := .create {
    workspaceId := 1
    sourceId
    eventId := 100 + sourceId
    idempotencyKey := key
    sourceType := "note"
    title := "Note"
    actor := ⟨.device, some 7⟩
    expectedObject := ⟨"ab", "objects/ab", 2, "text/plain"⟩
    clientTimestamp := none
    initialLocator := some locator }
  identities := ⟨200 + sourceId, 300 + sourceId, 400 + sourceId⟩
  permits := fun _ => true

/-- A device publishes other bytes over the first version of the first note. -/
def sampleUpdate : PublicationRequest where
  command := .update {
    workspaceId := 1
    sourceId := 1
    eventId := 111
    idempotencyKey := "k3"
    baseVersionId := 301
    actor := ⟨.device, some 7⟩
    expectedObject := ⟨"cd", "objects/cd", 2, "text/plain"⟩
    clientTimestamp := none }
  identities := ⟨211, 311, 411⟩
  permits := fun _ => true

/-! ## Sources -/

/-- In every reachable state every source keeps the invariant of its open rows and its
intervals, and no two open locators of a workspace are the same path. -/
theorem source_graph_invariant {env : Environment} {w : StoreWorld}
    (reached : (storeMachine env).Reachable w) :
    (∀ row ∈ w.snapshot.db.sources, SourceInvariant (w.snapshot.db.graph row.sourceId) row) ∧
      w.snapshot.db.locators.Pairwise fun a b => a.closure = none → b.closure = none →
        ¬(a.workspaceId = b.workspaceId ∧ a.normalizedLocator = b.normalizedLocator) := by
  have inv := inv_of_reachable reached
  refine ⟨fun row ht => ?_, inv.keyed.locators.imp fun ha hu hu' =>
    (ha.2 hu hu').2⟩
  have hf : w.snapshot.db.source row.sourceId = some row :=
    LookupLemmas.find?_unique inv.keyed.sources ht (by simp) (fun a b ha hb =>
      ha (by simp_all))
  exact (inv.history row.sourceId).sourceInvariant ((LookupLemmas.source_eq_some inv.keyed).mp hf)

/-- One session takes a number of statements. -/
def advances (i count : Nat) : List (Action StoreCall) := List.replicate count (.advance i)

def createScript : List (Action StoreCall) :=
  .spawn (.publication (sampleCreate 1 "k1" "a.md")) :: advances 0 11

/-- Two notes are created and the first one is updated. -/
def updatedScript : List (Action StoreCall) :=
  createScript ++ .spawn (.publication (sampleCreate 2 "k2" "b.md")) :: advances 1 11 ++
    .spawn (.publication sampleUpdate) :: advances 2 17

theorem source_graph_invariant_created : ∃ w, (storeMachine sampleEnvironment).Reachable w ∧
    w.snapshot.db.sources.map Source.sourceId = [1, 2] ∧
    (∀ row ∈ w.snapshot.db.sources,
      SourceInvariant (w.snapshot.db.graph row.sourceId) row) ∧
    (w.snapshot.db.graph 1).versions.length = 2 ∧
    w.snapshot.db.locators.Pairwise fun a b => a.closure = none → b.closure = none →
      ¬(a.workspaceId = b.workspaceId ∧ a.normalizedLocator = b.normalizedLocator) := by
  obtain ⟨w, ran⟩ : ∃ w,
      (storeMachine sampleEnvironment).run emptyWorld updatedScript = some w := ⟨_, rfl⟩
  have hr := Machine.reachable_of_run (emptyWorld_init _) ran
  obtain ⟨hi, hp⟩ := source_graph_invariant hr
  refine ⟨w, hr, ?_, hi, ?_, hp⟩
  · cases ran
    rfl
  · cases ran
    rfl

/-! ## Publications -/

/-- What an event that commits its base again leaves of its source: everything else. -/
theorem GraphStep.noChange {e : SyncEvent} {g g' : SourceGraph} (hv : GraphStep e g g')
    (ht : e.eventType = .update) (he : e.committedVersionId = e.baseVersionId) :
    g' = { g with events := g.events ++ [e] } := by
  cases hv with
  | repeatCurrent => rfl
  | publish _ p v _ _ _ _ hp _ hb hc _ hf =>
    rw [hb, hc] at he
    exact absurd (Option.some.inj he).symm (hf p hp)
  | create _ _ _ _ ho | delete _ _ _ _ _ _ _ _ _ _ ho | restore _ _ _ _ _ _ _ _ _ _ _ ho =>
    exact nomatch ht.symm.trans ho
  | relocate _ _ _ _ _ _ _ _ _ _ ho | record _ _ _ ho =>
    rcases ho with ho | ho
    · exact nomatch ht.symm.trans ho
    · exact nomatch ht.symm.trans ho

end PersonalOs.SourceStore
