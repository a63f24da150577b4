import PersonalOs.DeviceSync.Contracts
import PersonalOs.SourceStore.Commands

/-!
# Manifest planning

The entries of a device's manifest, the identity proof of one entry and the action it is
planned: `planning.py` over the frozen values of `contracts.py`.

Locators and digests are the texts they are; the locator-evidence digest is left out, nothing
reads it.
-/

namespace PersonalOs.SourceStore

open DeviceSync (Fingerprint)

/-! ## Entries, resolutions and actions -/

/-- One locally observed file. -/
structure ManifestEntry where
  localEntryId : String
  knownSourceId : Option SourceId
  knownVersionId : Option SourceVersionId
  normalizedLocator : NormalizedLocator
  fingerprint : Fingerprint
  observationGeneration : Nat
deriving DecidableEq

inductive ManifestMatchKind
  | currentLocator
  | historicalLocatorFingerprint
  | openTombstoneFingerprint
  | unproven
deriving DecidableEq

inductive ManifestActionKind
  | noChange
  | upload
  | download
  | applyTombstone
  | excluded
  | conflict
deriving DecidableEq

inductive ManifestActionReason
  | identityAmbiguous
  | localDiverged
  | policyExcluded
deriving DecidableEq

/-- A row of `manifest_entry_resolutions`, in the order of pages and entries. -/
structure EntryResolutionRow where
  localEntryId : String
  knownSourceId : Option SourceId
  knownVersionId : Option SourceVersionId
  submitted : Fingerprint
  resolvedSourceId : Option SourceId
  resolvedSourceVersionId : Option SourceVersionId
  resolvedSourceLocatorId : Option SourceLocatorId
  resolvedSourceTombstoneId : Option SourceTombstoneId
  matchKind : ManifestMatchKind
  submittedPolicyAllowed : Bool
deriving DecidableEq

/-- A resolution as the planner reads it: the row, its place in the run and the fingerprint of
the trusted local base. -/
structure ManifestEntryResolution where
  row : EntryResolutionRow
  entryOrdinal : Nat
  knownBaseFingerprint : Option Fingerprint
deriving DecidableEq

/-- A row of `manifest_actions`. -/
structure ManifestAction where
  actionIndex : Nat
  actionKind : ManifestActionKind
  localEntryId : Option String
  sourceId : Option SourceId
  sourceVersionId : Option SourceVersionId
  sourceLocatorId : Option SourceLocatorId
  sourceTombstoneId : Option SourceTombstoneId
  reason : Option ManifestActionReason
deriving DecidableEq

/-! ## Identity -/

structure CanonicalManifestSource where
  sourceId : SourceId
  currentVersionId : SourceVersionId
  currentFingerprint : Fingerprint
  locator : NormalizedLocator
  activeLocatorId : Option SourceLocatorId
  tombstoneId : Option SourceTombstoneId
  isPolicyAllowed : Bool
deriving DecidableEq

structure ManifestIdentityEvidence where
  localEntry : ManifestEntry
  currentLocatorCandidates : List CanonicalManifestSource
  historicalLocatorCandidates : List CanonicalManifestSource
  openTombstoneCandidates : List CanonicalManifestSource
deriving DecidableEq

structure ManifestIdentityResolution where
  sourceId : Option SourceId
  sourceVersionId : Option SourceVersionId
  matchKind : ManifestMatchKind
deriving DecidableEq

namespace ManifestIdentityResolution

def unproven : ManifestIdentityResolution := ⟨none, none, .unproven⟩

def proven (candidate : CanonicalManifestSource) (matchKind : ManifestMatchKind) :
    ManifestIdentityResolution :=
  ⟨some candidate.sourceId, some candidate.currentVersionId, matchKind⟩

end ManifestIdentityResolution

def resolveManifestIdentity (evidence : ManifestIdentityEvidence) : ManifestIdentityResolution :=
  match evidence.currentLocatorCandidates with
  | _ :: _ :: _ => .unproven
  | [candidate] => .proven candidate .currentLocator
  | [] =>
    match evidence.historicalLocatorCandidates with
    | _ :: _ :: _ => .unproven
    | [candidate] =>
      if candidate.currentFingerprint ≠ evidence.localEntry.fingerprint then .unproven
      else .proven candidate .historicalLocatorFingerprint
    | [] =>
      match evidence.openTombstoneCandidates with
      | [candidate] =>
        if candidate.currentFingerprint = evidence.localEntry.fingerprint then
          .proven candidate .openTombstoneFingerprint
        else .unproven
      | _ => .unproven

/-! ## Actions -/

namespace ManifestEntryResolution

def action (resolution : ManifestEntryResolution) (kind : ManifestActionKind)
    (reason : Option ManifestActionReason) : ManifestAction where
  actionIndex := resolution.entryOrdinal
  actionKind := kind
  localEntryId := some resolution.row.localEntryId
  sourceId := none
  sourceVersionId := none
  sourceLocatorId := none
  sourceTombstoneId := none
  reason := reason

def conflict (resolution : ManifestEntryResolution) (reason : ManifestActionReason) :
    ManifestAction :=
  resolution.action .conflict (some reason)

def excluded (resolution : ManifestEntryResolution) : ManifestAction :=
  resolution.action .excluded (some .policyExcluded)

/-- An action that places or names the current version where it lives at the checkpoint. -/
def placement (resolution : ManifestEntryResolution) (kind : ManifestActionKind)
    (sourceId : Option SourceId) (canonical : CanonicalManifestSource) : ManifestAction :=
  { resolution.action kind none with
    sourceId := sourceId
    sourceVersionId := some canonical.currentVersionId
    sourceLocatorId := canonical.activeLocatorId }

end ManifestEntryResolution

def planUnproven (resolution : ManifestEntryResolution)
    (canonical : Option CanonicalManifestSource) : ManifestAction :=
  if canonical.isSome ∨ resolution.row.knownSourceId.isSome ∨
      resolution.row.knownVersionId.isSome then
    resolution.conflict .identityAmbiguous
  else if !resolution.row.submittedPolicyAllowed then resolution.excluded
  else resolution.action .upload none

/-- The planner's branch for a proven source that lives at the checkpoint. -/
def planLiveSource (resolution : ManifestEntryResolution) (canonical : CanonicalManifestSource) :
    ManifestAction :=
  let row := resolution.row
  let trustedBase := row.knownSourceId = some canonical.sourceId ∧
    row.knownVersionId.isSome ∧ resolution.knownBaseFingerprint.isSome
  if !canonical.isPolicyAllowed then resolution.excluded
  else if row.submitted = canonical.currentFingerprint then
    resolution.placement .noChange row.resolvedSourceId canonical
  else if trustedBase ∧ row.knownVersionId = some canonical.currentVersionId then
    resolution.placement .upload (some canonical.sourceId) canonical
  else if trustedBase ∧ resolution.knownBaseFingerprint = some row.submitted then
    resolution.placement .download (some canonical.sourceId) canonical
  else resolution.conflict .localDiverged

def planManifestAction (resolution : ManifestEntryResolution)
    (canonical : Option CanonicalManifestSource) : ManifestAction :=
  if resolution.row.matchKind = .unproven then planUnproven resolution canonical
  else match canonical with
    | none => resolution.conflict .identityAmbiguous
    | some canonical =>
      match canonical.tombstoneId with
      | some tombstoneId =>
        { resolution.action .applyTombstone none with
          sourceId := resolution.row.resolvedSourceId
          sourceLocatorId := resolution.row.resolvedSourceLocatorId
          sourceTombstoneId :=
            some (resolution.row.resolvedSourceTombstoneId.getD tombstoneId) }
      | none => planLiveSource resolution canonical

theorem planUnproven_index (r : ManifestEntryResolution) (c : Option CanonicalManifestSource) :
    (planUnproven r c).actionIndex = r.entryOrdinal := by
  unfold planUnproven
  split
  · rfl
  · split <;> rfl

theorem planLiveSource_index (r : ManifestEntryResolution) (c : CanonicalManifestSource) :
    (planLiveSource r c).actionIndex = r.entryOrdinal := by
  simp only [planLiveSource]
  by_cases ha : !c.isPolicyAllowed
  · rw [if_pos ha]
    rfl
  · rw [if_neg ha]
    split
    · rfl
    · split
      · rfl
      · split <;> rfl

theorem planManifestAction_index (r : ManifestEntryResolution)
    (c : Option CanonicalManifestSource) :
    (planManifestAction r c).actionIndex = r.entryOrdinal := by
  unfold planManifestAction
  split
  · exact planUnproven_index r c
  · cases c with
    | none => rfl
    | some c =>
      dsimp only
      cases c.tombstoneId with
      | some ti => rfl
      | none => exact planLiveSource_index r c

end PersonalOs.SourceStore
