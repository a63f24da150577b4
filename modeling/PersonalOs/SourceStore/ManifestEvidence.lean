import PersonalOs.Basis.Fallible
import PersonalOs.SourceStore.Answers

/-!
# Checkpoint evidence of a manifest run

What the manifest store reads of the canonical graph at a frozen checkpoint, the resolution
of a page's entries against it and the plan of a run.

The chunked lookups of the source are one read each: their union is the lookup. Candidates
stand in row order; the source sorts them for the evidence digest alone.
-/

namespace PersonalOs.SourceStore

open DeviceSync (Fingerprint)

/-! ## The canonical state at a checkpoint -/

def ContentObject.fingerprint (o : ContentObject) : Fingerprint :=
  ⟨o.contentHash, o.byteSize, o.mediaType⟩

def SourceLocator.closedBy (l : SourceLocator) (sequence : Nat) : Bool :=
  l.closure.any fun c => c.closedSequence ≤ sequence

/-- `_active_locator_lateral`: the newest locator of a source open at a sequence. -/
def Db.locatorAt (db : Db) (workspaceId : WorkspaceId) (sourceId : SourceId) (sequence : Nat) :
    Option SourceLocator :=
  (db.locators.filter fun l => l.workspaceId = workspaceId ∧ l.sourceId = sourceId ∧
    l.openedSequence ≤ sequence ∧ !l.closedBy sequence).argmax SourceLocator.openedSequence

/-- `_checkpoint_version_lateral`: what the latest event that commits a version committed. -/
def Db.versionAt (db : Db) (workspaceId : WorkspaceId) (sourceId : SourceId) (sequence : Nat) :
    Option SourceVersionId :=
  ((db.events.filter fun e => e.workspaceId = workspaceId ∧ e.sourceId = sourceId ∧
    e.eventSequence ≤ sequence ∧ e.committedVersionId.isSome).argmax
      SyncEvent.eventSequence).bind SyncEvent.committedVersionId

def Db.sequenceOf (db : Db) (workspaceId : WorkspaceId) (eventId : EventId) : Option Nat :=
  (db.events.find? fun e => e.workspaceId = workspaceId ∧ e.eventId = eventId).map
    SyncEvent.eventSequence

/-- A tombstone is open at a sequence: its delete event stands and no restore does. -/
def Db.tombstoneOpenAt (db : Db) (t : SourceTombstone) (sequence : Nat) : Bool :=
  (db.sequenceOf t.workspaceId t.deleteEventId).any (· ≤ sequence) &&
    match t.restoreEventId with
    | none => true
    | some restored => (db.sequenceOf t.workspaceId restored).any (sequence < ·)

/-- `_open_tombstone_lateral`. -/
def Db.tombstoneAt (db : Db) (workspaceId : WorkspaceId) (sourceId : SourceId)
    (sequence : Nat) : Option SourceTombstone :=
  (db.tombstones.filter fun t => t.workspaceId = workspaceId ∧ t.sourceId = sourceId ∧
    db.tombstoneOpenAt t sequence).argmax fun t =>
      (db.sequenceOf t.workspaceId t.deleteEventId).getD 0

/-- A row of `manifest_canonical_source_state_statement`. -/
structure CanonicalState where
  source : Source
  version : Option SourceVersion
  object : Option ContentObject
  activeLocator : Option SourceLocator
  openTombstoneId : Option SourceTombstoneId
deriving DecidableEq

def Db.canonicalState (db : Db) (workspaceId : WorkspaceId) (checkpoint : Nat)
    (source : Source) : CanonicalState :=
  let version := (db.versionAt workspaceId source.sourceId checkpoint).bind
    (db.version workspaceId source.sourceId)
  { source := source
    version := version
    object := version.bind fun v => db.object v.contentObjectId
    activeLocator := db.locatorAt workspaceId source.sourceId checkpoint
    openTombstoneId := (db.tombstoneAt workspaceId source.sourceId checkpoint).map
      SourceTombstone.sourceTombstoneId }

def Db.canonicalStates (db : Db) (workspaceId : WorkspaceId) (checkpoint : Nat)
    (sourceIds : List SourceId) : List CanonicalState :=
  (db.sources.filter fun s => s.workspaceId = workspaceId ∧ s.sourceId ∈ sourceIds).map
    (db.canonicalState workspaceId checkpoint)

def stateOf (states : List CanonicalState) (sourceId : SourceId) : Option CanonicalState :=
  states.find? fun state => state.source.sourceId = sourceId

/-- `_canonical_manifest_source`. A source without an open locator is given the text of
Python's `None`. -/
def CanonicalState.manifestSource (state : CanonicalState) (isPolicyAllowed : Bool) :
    Option CanonicalManifestSource := do
  let version ← state.version
  let object ← state.object
  some {
    sourceId := state.source.sourceId
    currentVersionId := version.sourceVersionId
    currentFingerprint := object.fingerprint
    locator := (state.activeLocator.map SourceLocator.normalizedLocator).getD "None"
    activeLocatorId := state.activeLocator.map SourceLocator.sourceLocatorId
    tombstoneId := state.openTombstoneId
    isPolicyAllowed }

/-! ## Resolution of a page -/

/-- A row of `manifest_tombstone_candidates_statement`. -/
structure TombstoneCandidate where
  tombstone : SourceTombstone
  retained : Fingerprint
deriving DecidableEq

/-- `manifest_locator_candidates_statement`. -/
def Db.locatorCandidates (db : Db) (workspaceId : WorkspaceId) (checkpoint : Nat)
    (locators : List NormalizedLocator) : List SourceLocator :=
  db.locators.filter fun l =>
    l.workspaceId = workspaceId ∧ l.openedSequence ≤ checkpoint ∧ l.normalizedLocator ∈ locators

/-- `manifest_tombstone_candidates_statement`. -/
def Db.tombstoneCandidates (db : Db) (workspaceId : WorkspaceId) (checkpoint : Nat)
    (locators : List NormalizedLocator) : List TombstoneCandidate :=
  (db.tombstones.filter fun t => t.workspaceId = workspaceId ∧ t.retainedLocator ∈ locators ∧
    db.tombstoneOpenAt t checkpoint).filterMap fun t => do
      let version ← db.versions.find? fun v =>
        v.workspaceId = workspaceId ∧ v.sourceVersionId = t.retainedVersionId
      let object ← db.object version.contentObjectId
      some ⟨t, object.fingerprint⟩

/-- What the statements of a page read. -/
structure PageEvidence where
  locators : List SourceLocator
  tombstones : List TombstoneCandidate
  states : List CanonicalState
deriving DecidableEq

namespace PageEvidence

def locatorRows (evidence : PageEvidence) (checkpoint : Nat) (closed : Bool)
    (locator : NormalizedLocator) : List SourceLocator :=
  evidence.locators.filter fun l =>
    l.normalizedLocator = locator ∧ l.closedBy checkpoint = closed

def tombstoneRows (evidence : PageEvidence) (locator : NormalizedLocator) :
    List TombstoneCandidate :=
  evidence.tombstones.filter fun t => t.tombstone.retainedLocator = locator

def candidates (evidence : PageEvidence) (rows : List SourceLocator) :
    List CanonicalManifestSource :=
  rows.filterMap fun l => (stateOf evidence.states l.sourceId).bind (·.manifestSource true)

/-- An open tombstone as a candidate: its retained version. -/
def tombstoneCandidate (t : TombstoneCandidate) : CanonicalManifestSource where
  sourceId := t.tombstone.sourceId
  currentVersionId := t.tombstone.retainedVersionId
  currentFingerprint := t.retained
  locator := t.tombstone.retainedLocator
  activeLocatorId := none
  tombstoneId := some t.tombstone.sourceTombstoneId
  isPolicyAllowed := true

/-- `_entry_evidence`. A closed locator proves only sources alive at the checkpoint; a source
the client names empties the evidence of all others. -/
def entryEvidence (evidence : PageEvidence) (checkpoint : Nat) (entry : ManifestEntry) :
    ManifestIdentityEvidence :=
  let alive (l : SourceLocator) : Bool :=
    (stateOf evidence.states l.sourceId).all fun state => state.openTombstoneId = none
  let current := evidence.candidates (evidence.locatorRows checkpoint false entry.normalizedLocator)
  let historical := evidence.candidates
    ((evidence.locatorRows checkpoint true entry.normalizedLocator).filter alive)
  let tombstones :=
    (evidence.tombstoneRows entry.normalizedLocator).map tombstoneCandidate
  let scope (candidates : List CanonicalManifestSource) : List CanonicalManifestSource :=
    match entry.knownSourceId with
    | none => candidates
    | some known => candidates.filter fun candidate => candidate.sourceId = known
  ⟨entry, scope current, scope historical, scope tombstones⟩

/-- The rows a proven entry matched: the locator or the tombstone of its source. -/
def matched (evidence : PageEvidence) (checkpoint : Nat) (entry : ManifestEntry)
    (identity : ManifestIdentityResolution) :
    Except ManifestError (Option SourceLocatorId × Option SourceTombstoneId) :=
  let locatorRow (closed : Bool) :=
    match (evidence.locatorRows checkpoint closed entry.normalizedLocator).find? fun l =>
        some l.sourceId = identity.sourceId with
    | some l => .ok (some l.sourceLocatorId, none)
    | none => .error .stateInvalid
  match identity.matchKind with
  | .currentLocator => locatorRow false
  | .historicalLocatorFingerprint => locatorRow true
  | .openTombstoneFingerprint =>
    match (evidence.tombstoneRows entry.normalizedLocator).find? fun t =>
        some t.tombstone.sourceId = identity.sourceId with
    | some t => .ok (none, some t.tombstone.sourceTombstoneId)
    | none => .error .stateInvalid
  | .unproven => .ok (none, none)

end PageEvidence

/-- `_submitted_entry_is_allowed`. -/
def submittedSubject (workspaceId : WorkspaceId) (entry : ManifestEntry) : ManifestSubject where
  workspaceId := workspaceId
  sourceId := entry.knownSourceId
  normalizedLocator := some entry.normalizedLocator
  sourceType := none
  mediaType := some entry.fingerprint.mediaType
  sizeBytes := some entry.fingerprint.sizeBytes

def resolveEntry (permits : ManifestSubject → Bool) (workspaceId : WorkspaceId)
    (checkpoint : Nat) (evidence : PageEvidence) (entry : ManifestEntry) :
    Except ManifestError EntryResolutionRow := do
  let identity := resolveManifestIdentity (evidence.entryEvidence checkpoint entry)
  let (locatorId, tombstoneId) ← evidence.matched checkpoint entry identity
  return {
    localEntryId := entry.localEntryId
    knownSourceId := entry.knownSourceId
    knownVersionId := entry.knownVersionId
    submitted := entry.fingerprint
    resolvedSourceId := identity.sourceId
    resolvedSourceVersionId := identity.sourceVersionId
    resolvedSourceLocatorId := locatorId
    resolvedSourceTombstoneId := tombstoneId
    matchKind := identity.matchKind
    submittedPolicyAllowed := permits (submittedSubject workspaceId entry) }

def resolvePageEntries (permits : ManifestSubject → Bool) (workspaceId : WorkspaceId)
    (checkpoint : Nat) (evidence : PageEvidence) (entries : List ManifestEntry) :
    Except ManifestError (List EntryResolutionRow) :=
  entries.mapM (resolveEntry permits workspaceId checkpoint evidence)

variable {checkpoint : Nat} {evidence : PageEvidence}

theorem matched_error {en : ManifestEntry} {i : ManifestIdentityResolution}
    {e : ManifestError} (hf : evidence.matched checkpoint en i = .error e) :
    e = .stateInvalid := by
  unfold PageEvidence.matched at hf
  cases hk : i.matchKind <;> simp only [hk] at hf
  case unproven => cases hf
  all_goals
    split at hf
    · cases hf
    · exact (Except.error.inj hf).symm

theorem resolvePageEntries_error {p : ManifestSubject → Bool} {wi : WorkspaceId}
    {en : List ManifestEntry} {er : ManifestError}
    (hf : resolvePageEntries p wi checkpoint evidence en = .error er) :
    er = .stateInvalid := by
  obtain ⟨ey, _, hf⟩ := error_of_mapM hf
  unfold resolveEntry at hf
  cases hm : evidence.matched checkpoint ey
      (resolveManifestIdentity (evidence.entryEvidence checkpoint ey)) with
  | error e =>
    simp only [hm, bind, Except.bind, Except.error.injEq] at hf
    exact hf ▸ matched_error hm
  | ok ids => simp [hm, bind, Except.bind, pure, Except.pure] at hf

theorem resolvePageEntries_length {p : ManifestSubject → Bool} {wi : WorkspaceId}
    {e : List ManifestEntry} {rs : List EntryResolutionRow}
    (hr : resolvePageEntries p wi checkpoint evidence e = .ok rs) :
    rs.length = e.length :=
  (forall₂_of_mapM hr).length_eq.symm

/-! ## The plan of a run -/

/-- `_source_is_policy_allowed`. -/
def sourceSubject (workspaceId : WorkspaceId) (state : CanonicalState) : ManifestSubject where
  workspaceId := workspaceId
  sourceId := some state.source.sourceId
  normalizedLocator := state.activeLocator.map SourceLocator.normalizedLocator
  sourceType := some state.source.sourceType
  mediaType := state.object.map ContentObject.mediaType
  sizeBytes := state.object.map ContentObject.byteSize

/-- A row of `known_base_fingerprints_statement`. -/
structure KnownBase where
  sourceVersionId : SourceVersionId
  sourceId : SourceId
  fingerprint : Fingerprint
deriving DecidableEq

/-- `known_base_fingerprints_statement`. -/
def Db.knownBases (db : Db) (workspaceId : WorkspaceId) (versionIds : List SourceVersionId) :
    List KnownBase :=
  (db.versions.filter fun v => v.workspaceId = workspaceId ∧ v.sourceVersionId ∈ versionIds ∧
    db.sources.any fun s => s.workspaceId = workspaceId ∧ s.sourceId = v.sourceId).filterMap
      fun v => (db.object v.contentObjectId).map fun o =>
        ⟨v.sourceVersionId, v.sourceId, o.fingerprint⟩

/-- `manifest_canonical_only_downloads_statement`: the sources of no entry that hold an open
locator and no open tombstone, in the order of locators. -/
def Db.canonicalOnlyDownloads (db : Db) (workspaceId : WorkspaceId) (checkpoint : Nat)
    (resolvedSourceIds : List SourceId) : List (SourceLocator × CanonicalState) :=
  ((db.sources.filter fun s => s.workspaceId = workspaceId ∧
      s.sourceId ∉ resolvedSourceIds).filterMap fun s =>
    let state := db.canonicalState workspaceId checkpoint s
    if state.openTombstoneId = none then state.activeLocator.map fun l => (l, state)
    else none).insertionSort fun a b =>
      toLex (a.1.normalizedLocator, a.2.source.sourceId) ≤
        toLex (b.1.normalizedLocator, b.2.source.sourceId)

def ManifestRun.resolvedSourceIds (run : ManifestRun) : List SourceId :=
  run.resolutions.filterMap EntryResolutionRow.resolvedSourceId

def ManifestRun.knownVersionIds (run : ManifestRun) : List SourceVersionId :=
  run.resolutions.filterMap EntryResolutionRow.knownVersionId

structure PlanReads where
  states : List CanonicalState
  bases : List KnownBase
  downloads : List (SourceLocator × CanonicalState)

/-- The fingerprint of an entry's known version, where the version is the known source's. -/
def trustedBase (bases : List KnownBase) (row : EntryResolutionRow) : Option Fingerprint := do
  let version ← row.knownVersionId
  let base ← bases.find? fun base => base.sourceVersionId = version
  if some base.sourceId = row.knownSourceId then some base.fingerprint else none

/-- The action of the resolution row at an ordinal. -/
def entryAction (permits : ManifestSubject → Bool) (workspaceId : WorkspaceId)
    (reads : PlanReads) (ordinal : Nat) (row : EntryResolutionRow) : ManifestAction :=
  planManifestAction ⟨row, ordinal, trustedBase reads.bases row⟩ <| do
    let state ← stateOf reads.states (← row.resolvedSourceId)
    state.manifestSource (permits (sourceSubject workspaceId state))

def downloadAction (actionIndex : Nat) (download : SourceLocator × CanonicalState)
    (version : SourceVersion) : ManifestAction where
  actionIndex := actionIndex
  actionKind := .download
  localEntryId := none
  sourceId := some download.2.source.sourceId
  sourceVersionId := some version.sourceVersionId
  sourceLocatorId := some download.1.sourceLocatorId
  sourceTombstoneId := none
  reason := none

def planActions (permits : ManifestSubject → Bool) (run : ManifestRun) (reads : PlanReads) :
    List ManifestAction :=
  let downloads := reads.downloads.filterMap fun download =>
    if permits (sourceSubject run.workspaceId download.2) then
      download.2.version.map fun version => (download, version)
    else none
  run.resolutions.mapIdx (entryAction permits run.workspaceId reads) ++
    downloads.mapIdx fun i (download, version) =>
      downloadAction (run.resolutions.length + i) download version

theorem planActions_indexed (p : ManifestSubject → Bool) (run : ManifestRun) (r : PlanReads) :
    (planActions p run r).map ManifestAction.actionIndex =
      List.range (planActions p run r).length := by
  refine List.ext_getElem (by simp) fun i hin hi => ?_
  simp only [planActions, List.getElem_map, List.getElem_range, List.getElem_append]
  split
  · rw [List.getElem_mapIdx]
    exact planManifestAction_index _ _
  next hl =>
    rw [List.getElem_mapIdx]
    simp only [List.length_mapIdx] at hl ⊢
    exact Nat.add_sub_of_le (Nat.le_of_not_lt hl)

end PersonalOs.SourceStore
