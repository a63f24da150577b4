import PersonalOs.Basis.Tables
import PersonalOs.ExclusionPolicy.SourceDecisions
import PersonalOs.SourceStore.ManifestEvidence
import PersonalOs.SourceStore.Writes

/-!
# What is offered and what may be read

Four boundaries decide about the content of one version. The manifest planner and the preflight
of an update carry the locator into the subject they evaluate; so does the store behind the
canonical read. The exact-version download and the guard of the canonical read carry none.
-/

namespace PersonalOs.ExclusionPolicy

open Json
open SourceStore (Db Source SourceVersion ContentObject SourceLocator ManifestRun ManifestAction
  ManifestSubject Keyed)

/-! ## Stored content -/

/-- `ContentDigest`: 64 lowercase hexadecimal characters. -/
def isContentDigest (value : Text) : Bool :=
  value.length = 64 && value.all fun c => ('0' ≤ c && c ≤ '9') || ('a' ≤ c && c ≤ 'f')

structure ContentDigest where
  hexadecimal : Text
  canonical : isContentDigest hexadecimal = true
deriving DecidableEq

/-- `ContentDigest.parse`. -/
def ContentDigest.parse (value : Text) : Option ContentDigest :=
  if canonical : isContentDigest value = true then some ⟨value, canonical⟩ else none

def deriveCanonicalObjectKey (digest : ContentDigest) : Text :=
  "objects/sha256/".toList ++ digest.hexadecimal.take 2 ++ '/' ::
    (digest.hexadecimal.drop 2).take 2 ++ '/' :: digest.hexadecimal

/-! ## The exact-version download -/

inductive DeviceContentError
  | eventUnavailable
  | downloadIntegrityFailed
  | policyDenied
  | policy (error : ExclusionPolicyError)
deriving DecidableEq

structure DeviceContentDescriptor where
  sourceId : Uuid
  sourceVersionId : Uuid
  contentDigest : ContentDigest
  sizeBytes : Nat
  mediaType : CanonicalMediaType
deriving DecidableEq

/-- `device_content_descriptor_statement`: the source's type and the version's content. -/
def deviceContentRow (db : Db) (workspaceId sourceId sourceVersionId : Uuid) :
    Option (String × ContentObject) := do
  let version ← db.version workspaceId sourceId sourceVersionId
  let source ← db.sources.find? fun s => s.workspaceId = workspaceId ∧ s.sourceId = version.sourceId
  let object ← db.object version.contentObjectId
  return (source.sourceType, object)

def hydrateDeviceContentDescriptor (sourceId sourceVersionId : Uuid)
    (row : Option (String × ContentObject)) : Except DeviceContentError DeviceContentDescriptor :=
  match row with
  | none => .error .eventUnavailable
  | some (_, content) =>
    match ContentDigest.parse content.contentHash.toList,
        CanonicalMediaType.parse content.mediaType.toList with
    | some contentDigest, some mediaType =>
      .ok ⟨sourceId, sourceVersionId, contentDigest, content.byteSize, mediaType⟩
    | _, _ => .error .downloadIntegrityFailed

section Boundaries

variable (nfc : Text → Text)

/-- `evaluate_device_content_policy`: no locator; a type that does not parse is absent. -/
def evaluateDeviceContentPolicy (revision : ExclusionPolicyRevision)
    (workspaceId sourceId : Uuid) (sourceType : String) (mediaType : CanonicalMediaType)
    (sizeBytes : Nat) : Except DeviceContentError Unit := do
  let outcome ← (evaluatePolicy nfc revision {
    workspaceId
    sourceId := some sourceId
    normalizedLocator := none
    sourceType := SourceType.parse sourceType
    mediaType := some mediaType
    sizeBytes := some sizeBytes }).mapError DeviceContentError.policy
  if outcome.enforced ≠ .allowed then throw .policyDenied

/-- `resolve_descriptor`. Without an active published revision everything is denied. -/
def resolveDescriptor (active : Option ExclusionPolicyRevision) (db : Db)
    (workspaceId sourceId sourceVersionId : Uuid) :
    Except DeviceContentError DeviceContentDescriptor := do
  let row := deviceContentRow db workspaceId sourceId sourceVersionId
  let descriptor ← hydrateDeviceContentDescriptor sourceId sourceVersionId row
  match active with
  | none => throw .policyDenied
  | some revision =>
    evaluateDeviceContentPolicy nfc revision workspaceId sourceId ((row.map Prod.fst).getD "")
      descriptor.mediaType descriptor.sizeBytes
    return descriptor

/-! ## The canonical read -/

inductive CanonicalReadError
  | sourceNotFound
  | readStateInvalid
  | internalError
  | policy (error : ExclusionPolicyError)
deriving DecidableEq

structure ExpectedObject where
  contentDigest : ContentDigest
  sizeBytes : Nat
  mediaType : CanonicalMediaType
deriving DecidableEq

structure CanonicalSourceReference where
  workspaceId : Uuid
  sourceId : Uuid
  sourceVersionId : Uuid
  contentVersion : Nat
  sourceType : SourceType
  expectedObject : ExpectedObject
deriving DecidableEq

/-- A row of `current_reference_lookup_statement`. -/
structure CurrentReferenceRow where
  source : Source
  version : Option SourceVersion
  object : Option ContentObject
  normalizedLocator : Option String
deriving DecidableEq

/-- `current_reference_lookup_statement`, its joins on the current version, the content and the
open locator. -/
def currentReferenceLookup (db : Db) (workspaceId sourceId : Uuid) : Option CurrentReferenceRow :=
  (db.sources.find? fun s => s.workspaceId = workspaceId ∧ s.sourceId = sourceId).map fun source =>
    let version := source.currentVersionId.bind fun current =>
      db.versions.find? fun v => v.sourceVersionId = current
    { source
      version
      object := version.bind fun v => db.object v.contentObjectId
      normalizedLocator := (db.locators.find? fun l => l.workspaceId = source.workspaceId ∧
        l.sourceId = source.sourceId ∧ l.closure = none).map SourceLocator.normalizedLocator }

def hydrateCanonicalSourceReference (row : CurrentReferenceRow) :
    Except CanonicalReadError CanonicalSourceReference :=
  if row.source.syncState ≠ .active ∧ row.source.syncState ≠ .storedNotIndexed then
    .error .readStateInvalid
  else match row.version, row.object with
    | some version, some content =>
      if version.workspaceId ≠ row.source.workspaceId ∨ version.sourceId ≠ row.source.sourceId ∨
          row.source.currentVersionId ≠ some version.sourceVersionId ∨
          version.contentVersion < 1 then
        .error .readStateInvalid
      else match ContentDigest.parse content.contentHash.toList,
          CanonicalMediaType.parse content.mediaType.toList with
        | some contentDigest, some mediaType =>
          match SourceType.parse row.source.sourceType with
          | none => .error .internalError
          | some sourceType =>
            if content.objectKey.toList ≠ deriveCanonicalObjectKey contentDigest then
              .error .readStateInvalid
            else .ok {
              workspaceId := row.source.workspaceId
              sourceId := row.source.sourceId
              sourceVersionId := version.sourceVersionId
              contentVersion := version.contentVersion
              sourceType
              expectedObject := ⟨contentDigest, content.byteSize, mediaType⟩ }
        | _, _ => .error .readStateInvalid
    | _, _ => .error .readStateInvalid

def buildCanonicalReadPolicySubject (reference : CanonicalSourceReference)
    (normalizedLocator : Option String) : PolicySubject where
  workspaceId := reference.workspaceId
  sourceId := some reference.sourceId
  normalizedLocator := normalizedLocator.map String.toList
  sourceType := some reference.sourceType
  mediaType := some reference.expectedObject.mediaType
  sizeBytes := some reference.expectedObject.sizeBytes

/-- `resolve_current`: the policy is evaluated in the transaction that reads the source. -/
def resolveCurrent (active : Except ExclusionPolicyError ExclusionPolicyRevision) (db : Db)
    (workspaceId sourceId : Uuid) : Except CanonicalReadError CanonicalSourceReference :=
  match currentReferenceLookup db workspaceId sourceId with
  | none => .error .sourceNotFound
  | some row => do
    let reference ← hydrateCanonicalSourceReference row
    let _ ← (authorizePreflight nfc active
      (buildCanonicalReadPolicySubject reference row.normalizedLocator)).mapError
        CanonicalReadError.policy
    return reference

/-- `authorize_read`: the resolved reference without a locator. -/
def authorizeRead (active : Except ExclusionPolicyError ExclusionPolicyRevision)
    (reference : CanonicalSourceReference) : Except ExclusionPolicyError PolicyDecision :=
  authorizePreflight nfc active (buildCanonicalReadPolicySubject reference none)

/-- `open_current_source` up to the first byte. -/
def openCurrentSource (active : Except ExclusionPolicyError ExclusionPolicyRevision) (db : Db)
    (workspaceId sourceId : Uuid) : Except CanonicalReadError CanonicalSourceReference := do
  let reference ← resolveCurrent nfc active db workspaceId sourceId
  let _ ← (authorizeRead nfc active reference).mapError CanonicalReadError.policy
  return reference

/-! ## The manifest planner -/

/-- `_source_is_policy_allowed` on the row's texts. -/
def plannerSubject (subject : ManifestSubject) : PolicySubject where
  workspaceId := subject.workspaceId
  sourceId := subject.sourceId
  normalizedLocator := subject.normalizedLocator.map String.toList
  sourceType := subject.sourceType.bind SourceType.parse
  mediaType := subject.mediaType.bind fun text => CanonicalMediaType.parse text.toList
  sizeBytes := subject.sizeBytes

/-- The planner's verdict; where the evaluator raises there is no plan at all. -/
def plannerPermits (revision : ExclusionPolicyRevision) (subject : ManifestSubject) : Bool :=
  match evaluatePolicy nfc revision (plannerSubject subject) with
  | .ok outcome => outcome.enforced = .allowed
  | .error _ => false

def plannedActions (revision : ExclusionPolicyRevision) (db : Db) (run : ManifestRun) :
    List ManifestAction :=
  SourceStore.planActions (plannerPermits nfc revision) run
    { states := db.canonicalStates run.workspaceId run.checkpointSequence run.resolvedSourceIds
      bases := db.knownBases run.workspaceId run.knownVersionIds
      downloads := db.canonicalOnlyDownloads run.workspaceId run.checkpointSequence
        run.resolvedSourceIds }

end Boundaries

/-! ## Live sources -/

/-- What is known about one version and its content. The last three fields are `CHECK`
constraints of the content table. -/
structure StoredVersion (db : Db) (s : Source) (v : SourceVersion) (o : ContentObject)
    (e : SourceEvidence) : Prop where
  keyed : Keyed db
  source : s ∈ db.sources
  version : v ∈ db.versions
  content : o ∈ db.objects
  ofSource : v.workspaceId = s.workspaceId ∧ v.sourceId = s.sourceId
  ofContent : v.contentObjectId = o.contentObjectId
  identity : e.workspaceId = s.workspaceId ∧ e.sourceId = s.sourceId
  typed : SourceType.parse s.sourceType = some e.sourceType
  size : o.byteSize = e.sizeBytes
  media : CanonicalMediaType.parse o.mediaType.toList = some e.mediaType
  digest : isContentDigest o.contentHash.toList = true
  key : o.objectKey.toList = deriveCanonicalObjectKey ⟨o.contentHash.toList, digest⟩

/-- An active source with an open locator and a current version. -/
structure LiveSource (db : Db) (s : Source) (v : SourceVersion) (o : ContentObject)
    (e : SourceEvidence) : Prop extends StoredVersion db s v o e where
  active : s.syncState = .active
  current : s.currentVersionId = some v.sourceVersionId
  numbered : 1 ≤ v.contentVersion
  located : ∃ l ∈ db.locators, l.workspaceId = s.workspaceId ∧ l.sourceId = s.sourceId ∧
    l.closure = none ∧ l.normalizedLocator.toList = e.normalizedLocator

/-- The locator is one the evaluator accepts. -/
def PolicyLocator (nfc : Text → Text) (locator : Text) : Prop :=
  normalizeLocator nfc (locator.map .scalar) = .ok locator

theorem find_only {α : Type} {rs : List α} {p : α → Bool} {row : α} (hm : row ∈ rs)
    (hh : p row = true) (ho : ∀ x ∈ rs, p x = true → x = row) :
    rs.find? p = some row := by
  cases hf : rs.find? p with
  | none => exact absurd hh (List.find?_eq_none.mp hf row hm)
  | some x =>
    rw [ho x (List.mem_of_find?_eq_some hf) (List.find?_some hf)]

section Lookups

variable {db : Db} {s : Source} {v : SourceVersion} {o : ContentObject} {e : SourceEvidence}

theorem unique_of_pairwise {α κ : Type} {rs : List α} {key : α → κ}
    (ha : rs.Pairwise fun a b => key a ≠ key b) : Tables.Unique key rs :=
  List.pairwise_map.mpr ha

namespace StoredVersion

theorem source_of_id (hs : StoredVersion db s v o e) {x : Source} (hm : x ∈ db.sources)
    (he : x.sourceId = s.sourceId) : x = s :=
  (unique_of_pairwise hs.keyed.sources).eq_of_key hm hs.source he

theorem version_of_id (hs : StoredVersion db s v o e) {x : SourceVersion}
    (hm : x ∈ db.versions) (he : x.sourceVersionId = v.sourceVersionId) : x = v :=
  (unique_of_pairwise hs.keyed.versions).eq_of_key hm hs.version he

theorem find_source (hs : StoredVersion db s v o e) :
    (db.sources.find? fun x => x.workspaceId = s.workspaceId ∧ x.sourceId = s.sourceId) = some s :=
  find_only hs.source (by simp) fun x hm hh =>
    hs.source_of_id hm (of_decide_eq_true hh).2

theorem find_version (hs : StoredVersion db s v o e) :
    (db.versions.find? fun x => x.sourceVersionId = v.sourceVersionId) = some v :=
  find_only hs.version (by simp) fun x hm hh =>
    hs.version_of_id hm (of_decide_eq_true hh)

theorem version_of_source (hs : StoredVersion db s v o e) :
    db.version s.workspaceId s.sourceId v.sourceVersionId = some v :=
  find_only hs.version (by simp [hs.ofSource]) fun x hm hh =>
    hs.version_of_id hm (of_decide_eq_true hh).2.2

theorem object (hs : StoredVersion db s v o e) : db.object v.contentObjectId = some o :=
  find_only hs.content (by simp [hs.ofContent]) fun x hm hh =>
    (unique_of_pairwise (hs.keyed.objects.imp And.left)).eq_of_key hm hs.content
      ((of_decide_eq_true hh).trans hs.ofContent)

theorem parsed_digest (hs : StoredVersion db s v o e) :
    ContentDigest.parse o.contentHash.toList = some ⟨o.contentHash.toList, hs.digest⟩ :=
  dif_pos hs.digest

end StoredVersion

theorem LiveSource.find_locator (hl : LiveSource db s v o e) :
    ((db.locators.find? fun l => l.workspaceId = s.workspaceId ∧ l.sourceId = s.sourceId ∧
      l.closure = none).map fun l => l.normalizedLocator.toList) = some e.normalizedLocator := by
  obtain ⟨l, hm, hw, hs, ho, ht⟩ := hl.located
  have hf : (db.locators.find? fun l => l.workspaceId = s.workspaceId ∧
      l.sourceId = s.sourceId ∧ l.closure = none) = some l := by
    refine find_only hm (by simp [hw, hs, ho]) fun x hr hh => ?_
    have hh := of_decide_eq_true hh
    by_contra hd
    have hsy : Std.Symm fun a b : SourceLocator =>
        a.closure = none → b.closure = none → a.sourceId ≠ b.sourceId :=
      ⟨fun _ _ ha ho ho' => (ha ho' ho).symm⟩
    have ha := hl.keyed.locators.imp fun h ho ho' => (h.2 ho ho').1
    exact ha.forall hr hm hd hh.2.2 ho (hh.2.1.trans hs.symm)
  rw [hf, Option.map_some, ht]

end Lookups

/-! ## Who is let through -/

section Reads

variable {nfc : Text → Text} {revision : ExclusionPolicyRevision} {db : Db} {s : Source}
  {v : SourceVersion} {o : ContentObject} {e : SourceEvidence}

theorem evaluatePolicy_workspace {su : PolicySubject} {oc : PolicyEvaluationOutcome}
    (hr : evaluatePolicy nfc revision su = .ok oc) :
    su.workspaceId = revision.workspaceId ∧ su.sourceId ≠ some 0 := by
  have hv := (evaluatePolicy_ok hr).1
  unfold validateSubject at hv
  split at hv
  · exact nomatch hv
  next he =>
    split at hv
    · exact nomatch hv
    next hn => exact ⟨not_not.mp he, hn⟩

/-- A preflight is let through exactly when the evaluator allows its subject. -/
theorem authorizePreflight_ok_iff {su : PolicySubject} :
    (∃ d, authorizePreflight nfc (.ok revision) su = .ok d) ↔
      ∃ oc, evaluatePolicy nfc revision su = .ok oc ∧ oc.enforced = .allowed := by
  cases hr : evaluatePolicy nfc revision su with
  | error er =>
    simp [authorizePreflight, enforceRevision, hr, bind, Except.bind]
  | ok oc =>
    have he := evaluatePolicy_enforced hr
    simp only [authorizePreflight, bind, Except.bind, enforceRevision_ok hr]
    cases raw : oc.raw <;> simp [raw, he]

theorem subject_allowed (nfc : Text → Text) (hsa : e.workspaceId = revision.workspaceId)
    (hn : e.sourceId ≠ 0) :
    (∃ oc, evaluatePolicy nfc revision e.subject = .ok oc ∧ oc.enforced = .allowed) ↔
      PolicyLocator nfc e.normalizedLocator ∧ revision.Spares e := by
  have hv : validateSubject nfc revision e.subject = .ok () ↔
      PolicyLocator nfc e.normalizedLocator := by
    rw [validateSubject, if_neg (by simp [SourceEvidence.subject, hsa]),
      if_neg (by simp [SourceEvidence.subject, hn])]
    simp only [SourceEvidence.subject, PolicyLocator]
    cases normalizeLocator nfc (e.normalizedLocator.map .scalar) with
    | error er => simp [bind, Except.bind]
    | ok n => by_cases he : n = e.normalizedLocator <;> simp [bind, Except.bind, he]
  constructor
  · rintro ⟨oc, hr, hal⟩
    exact ⟨hv.mp (evaluatePolicy_ok hr).1, (subject_allowed_iff hr).mp hal⟩
  · rintro ⟨ha, hs⟩
    obtain ⟨oc, hr⟩ := evaluatePolicy_of_valid (hv.mpr ha)
    exact ⟨oc, hr, (subject_allowed_iff hr).mpr hs⟩

theorem unlocated_allowed (nfc : Text → Text) (he : e.workspaceId = revision.workspaceId)
    (hn : e.sourceId ≠ 0) :
    (∃ oc, evaluatePolicy nfc revision e.unlocated = .ok oc ∧ oc.enforced = .allowed) ↔
      revision.Spares e ∧ ¬ revision.HasPathRule := by
  obtain ⟨oc, hr⟩ : ∃ oc, evaluatePolicy nfc revision e.unlocated = .ok oc :=
    unlocated_decided he hn
  constructor
  · rintro ⟨oc, hr, ha⟩
    exact (unlocated_allowed_iff hr).mp ha
  · intro hs
    exact ⟨oc, hr, (unlocated_allowed_iff hr).mpr hs⟩

theorem deviceContentRow_stored (hs : StoredVersion db s v o e) :
    deviceContentRow db s.workspaceId s.sourceId v.sourceVersionId = some (s.sourceType, o) := by
  simp only [deviceContentRow, hs.version_of_source, Option.bind_eq_bind, Option.bind_some,
    hs.ofSource.2, hs.find_source, hs.object]
  rfl

/-- The download's decision on stored content is the one on the subject without its locator. -/
theorem resolveDescriptor_stored (hs : StoredVersion db s v o e) :
    resolveDescriptor nfc (some revision) db s.workspaceId s.sourceId v.sourceVersionId = (do
        let oc ← (evaluatePolicy nfc revision e.unlocated).mapError DeviceContentError.policy
        if oc.enforced ≠ .allowed then throw .policyDenied
        return ⟨s.sourceId, v.sourceVersionId, ⟨o.contentHash.toList, hs.digest⟩,
          o.byteSize, e.mediaType⟩) := by
  have hsu : e.unlocated = ⟨s.workspaceId, some s.sourceId, none,
      SourceType.parse s.sourceType, some e.mediaType, some o.byteSize⟩ := by
    simp [SourceEvidence.unlocated, SourceEvidence.subject, hs.identity, hs.typed, hs.size]
  simp only [resolveDescriptor, deviceContentRow_stored hs, hydrateDeviceContentDescriptor,
    hs.parsed_digest, hs.media, evaluateDeviceContentPolicy, Option.map_some,
    Option.getD_some, hsu, bind, Except.bind]
  cases evaluatePolicy nfc revision ⟨s.workspaceId, some s.sourceId, none,
      SourceType.parse s.sourceType, some e.mediaType, some o.byteSize⟩ with
  | error er => rfl
  | ok oc =>
    by_cases ha : oc.enforced = .allowed <;> simp [Except.mapError, ha, pure, Except.pure]

theorem resolveDescriptor_ok_iff (hs : StoredVersion db s v o e)
    (he : e.workspaceId = revision.workspaceId) (hn : e.sourceId ≠ 0) :
    (∃ d, resolveDescriptor nfc (some revision) db s.workspaceId s.sourceId
        v.sourceVersionId = .ok d) ↔
      revision.Spares e ∧ ¬ revision.HasPathRule := by
  rw [← unlocated_allowed nfc he hn, resolveDescriptor_stored hs]
  cases evaluatePolicy nfc revision e.unlocated with
  | error er => simp [bind, Except.bind, Except.mapError]
  | ok oc =>
    by_cases ha : oc.enforced = .allowed <;>
      simp [bind, Except.bind, Except.mapError, ha, throw, throwThe, MonadExceptOf.throw,
        pure, Except.pure]

/-- What is not let through is denied, in every state that stores the content. -/
theorem resolveDescriptor_denied (hs : StoredVersion db s v o e)
    (hsa : e.workspaceId = revision.workspaceId) (hn : e.sourceId ≠ 0)
    (hre : ¬ (revision.Spares e ∧ ¬ revision.HasPathRule)) :
    resolveDescriptor nfc (some revision) db s.workspaceId s.sourceId v.sourceVersionId =
      .error .policyDenied := by
  obtain ⟨oc, hr⟩ : ∃ oc, evaluatePolicy nfc revision e.unlocated = .ok oc :=
    unlocated_decided hsa hn
  have he : oc.enforced ≠ .allowed := fun ha =>
    hre ((unlocated_allowed_iff hr).mp ha)
  rw [resolveDescriptor_stored hs, hr]
  simp [bind, Except.bind, Except.mapError, he, throw, throwThe, MonadExceptOf.throw]

/-- A live source is read with its locator by the store and without it by the guard. -/
theorem openCurrentSource_live (nfc : Text → Text) (revision : ExclusionPolicyRevision)
    (hl : LiveSource db s v o e) :
    ∃ r, openCurrentSource nfc (.ok revision) db s.workspaceId s.sourceId = (do
        let _ ← (authorizePreflight nfc (.ok revision) e.subject).mapError CanonicalReadError.policy
        let _ ← (authorizePreflight nfc (.ok revision) e.unlocated).mapError
          CanonicalReadError.policy
        return r) := by
  have hlo := hl.find_locator
  cases hf : db.locators.find? fun l => l.workspaceId = s.workspaceId ∧
      l.sourceId = s.sourceId ∧ l.closure = none with
  | none =>
    rw [hf] at hlo
    exact nomatch hlo
  | some l =>
    rw [hf, Option.map_some, Option.some.injEq] at hlo
    have row : currentReferenceLookup db s.workspaceId s.sourceId =
        some ⟨s, some v, some o, some l.normalizedLocator⟩ := by
      simp only [currentReferenceLookup, hl.find_source, hl.current, Option.bind_some,
        hl.find_version, hl.object, hf, Option.map_some]
    let r : CanonicalSourceReference :=
      ⟨s.workspaceId, s.sourceId, v.sourceVersionId, v.contentVersion, e.sourceType,
        ⟨⟨o.contentHash.toList, hl.digest⟩, o.byteSize, e.mediaType⟩⟩
    have hh : hydrateCanonicalSourceReference ⟨s, some v, some o, some l.normalizedLocator⟩ =
        .ok r := by
      simp [hydrateCanonicalSourceReference, hl.active, hl.ofSource, hl.current,
        hl.parsed_digest, hl.media, hl.typed, hl.key, r,
        Nat.pos_iff_ne_zero.mp hl.numbered]
    have hwi : buildCanonicalReadPolicySubject r (some l.normalizedLocator) = e.subject := by
      simp [buildCanonicalReadPolicySubject, SourceEvidence.subject, r, hl.identity, hl.size, hlo]
    have hw : buildCanonicalReadPolicySubject r none = e.unlocated := by
      simp [buildCanonicalReadPolicySubject, SourceEvidence.unlocated, SourceEvidence.subject,
        r, hl.identity, hl.size]
    refine ⟨r, ?_⟩
    simp only [openCurrentSource, resolveCurrent, row, hh, bind, Except.bind, hwi, authorizeRead]
    cases authorizePreflight nfc (.ok revision) e.subject with
    | error er => rfl
    | ok d => simp only [Except.mapError, pure, Except.pure, hw]

theorem openCurrentSource_ok_iff (hl : LiveSource db s v o e)
    (he : e.workspaceId = revision.workspaceId) (hn : e.sourceId ≠ 0) :
    (∃ r, openCurrentSource nfc (.ok revision) db s.workspaceId s.sourceId = .ok r) ↔
      PolicyLocator nfc e.normalizedLocator ∧ revision.Spares e ∧ ¬ revision.HasPathRule := by
  obtain ⟨r, ran⟩ := openCurrentSource_live nfc revision hl
  have hs := authorizePreflight_ok_iff.trans (subject_allowed nfc he hn)
  have hg := authorizePreflight_ok_iff.trans (unlocated_allowed nfc he hn)
  rw [ran]
  have hb : PolicyLocator nfc e.normalizedLocator ∧ revision.Spares e ∧
      ¬ revision.HasPathRule ↔ (PolicyLocator nfc e.normalizedLocator ∧ revision.Spares e) ∧
        revision.Spares e ∧ ¬ revision.HasPathRule := by
    tauto
  rw [hb, ← hs, ← hg]
  cases authorizePreflight nfc (.ok revision) e.subject with
  | error er => simp [bind, Except.bind, Except.mapError]
  | ok d =>
    cases authorizePreflight nfc (.ok revision) e.unlocated <;>
      simp [bind, Except.bind, Except.mapError, pure, Except.pure]

end Reads

/-! ## What was offered -/

/-- The content was offered under the revision: a plan downloads the version, or a preflight
allows an update of the source at its locator with the same media type and size. -/
inductive Offered (nfc : Text → Text) (revision : ExclusionPolicyRevision) (db : Db) (s : Source)
    (v : SourceVersion) (e : SourceEvidence) : Prop
  | planned (run : ManifestRun) (action : ManifestAction)
      (ofWorkspace : run.workspaceId = s.workspaceId)
      (bound : run.policyRevisionNumber = revision.revisionNumber)
      (isPlanned : action ∈ plannedActions nfc revision db run)
      (downloads : action.actionKind = .download)
      (ofSource : action.sourceId = some s.sourceId)
      (ofVersion : action.sourceVersionId = some v.sourceVersionId)
  | authorized (accepted : smallFileDecision nfc (.ok revision) e.workspaceId e.updatePreflight =
      some .allowed)

section Offers

open SourceStore (CanonicalState CanonicalManifestSource ManifestEntryResolution planManifestAction
  planLiveSource planUnproven sourceSubject)

variable {nfc : Text → Text} {revision : ExclusionPolicyRevision} {db : Db} {s : Source}
  {v : SourceVersion} {o : ContentObject} {e : SourceEvidence}

theorem planManifestAction_download {r : ManifestEntryResolution}
    {ca : Option CanonicalManifestSource}
    (hd : (planManifestAction r ca).actionKind = .download) :
    ∃ c, ca = some c ∧ c.isPolicyAllowed = true ∧
      (planManifestAction r ca).sourceId = some c.sourceId ∧
      (planManifestAction r ca).sourceVersionId = some c.currentVersionId := by
  unfold planManifestAction at hd ⊢
  split at hd
  · unfold planUnproven at hd
    split at hd
    · cases hd
    · split at hd <;> cases hd
  next hp =>
    cases ca with
    | none => cases hd
    | some c =>
      dsimp only at hd ⊢
      cases ht : c.tombstoneId with
      | some _ =>
        rw [ht] at hd
        cases hd
      | none =>
        rw [if_neg hp]
        simp only [ht, planLiveSource] at hd ⊢
        split at hd
        · cases hd
        next ha =>
          rw [if_neg ha]
          refine ⟨c, rfl, by simpa using ha, ?_⟩
          split at hd
          · cases hd
          next hc =>
            rw [if_neg hc]
            split at hd
            · cases hd
            next hb =>
              rw [if_neg hb]
              split at hd
              next hat =>
                rw [if_pos hat]
                exact ⟨rfl, rfl⟩
              · cases hd

theorem download_of_planned {run : ManifestRun} {a : ManifestAction}
    (hp : a ∈ plannedActions nfc revision db run)
    (hd : a.actionKind = .download) :
    ∃ x ∈ db.sources, ∃ y, x.workspaceId = run.workspaceId ∧ a.sourceId = some x.sourceId ∧
      (db.canonicalState run.workspaceId run.checkpointSequence x).version = some y ∧
      a.sourceVersionId = some y.sourceVersionId ∧
      plannerPermits nfc revision (sourceSubject run.workspaceId
        (db.canonicalState run.workspaceId run.checkpointSequence x)) = true := by
  rcases List.mem_append.mp hp with he | hon
  · -- The action of an entry, on the state of the source it resolved to.
    obtain ⟨i, hi, rfl⟩ := List.mem_mapIdx.mp he
    obtain ⟨c, hc, ha, hoe, hof⟩ := planManifestAction_download hd
    simp only [Option.bind_eq_bind, Option.bind_eq_some_iff] at hc
    obtain ⟨si, _, st, hf, hb⟩ := hc
    have hm := List.mem_of_find?_eq_some hf
    simp only [Db.canonicalStates, List.mem_map, List.mem_filter, decide_eq_true_eq] at hm
    obtain ⟨x, ⟨hst, ho, _⟩, rfl⟩ := hm
    simp only [CanonicalState.manifestSource, Option.bind_eq_bind, Option.bind_eq_some_iff] at hb
    obtain ⟨y, hv, _, _, hsa⟩ := hb
    cases hsa
    exact ⟨x, hst, y, ho, hoe, hv, hof, ha⟩
  · -- The download of a source no entry names.
    obtain ⟨i, hi, rfl⟩ := List.mem_mapIdx.mp hon
    generalize hdo : (List.filterMap _ _)[i] = d at hd ⊢
    have hm := hdo ▸ List.getElem_mem hi
    obtain ⟨lo, hr, ha⟩ := List.mem_filterMap.mp hm
    split at ha
    next hpe =>
      obtain ⟨y, hv, rfl⟩ := Option.map_eq_some_iff.mp ha
      rw [SourceStore.Db.canonicalOnlyDownloads, List.mem_insertionSort] at hr
      obtain ⟨x, hs, row⟩ := List.mem_filterMap.mp hr
      simp only [List.mem_filter, decide_eq_true_eq] at hs
      dsimp only at row
      split at row
      · obtain ⟨l, _, rfl⟩ := Option.map_eq_some_iff.mp row
        exact ⟨x, hs.1, y, hs.2.1, rfl, hv, rfl, hpe⟩
      · exact nomatch row
    · exact nomatch ha

/-- Every rule but a path rule spares what was offered, in the revision's own workspace. -/
theorem offered_spares (hs : StoredVersion db s v o e) (hod : Offered nfc revision db s v e) :
    e.workspaceId = revision.workspaceId ∧ e.sourceId ≠ 0 ∧
      ∀ r ∈ revision.rules, ¬ r.operand.AsksLocator →
        ruleMatches r.operand e.subject = some false := by
  cases hod with
  | authorized ha =>
    obtain ⟨oc, hr, _⟩ := smallFileDecision_some ha
    obtain ⟨he, hn⟩ := evaluatePolicy_workspace hr
    have hsp := ((device_decision ha).mp rfl).1
    exact ⟨he, fun hz => hn (congrArg some hz), fun r hm _ => hsp r hm⟩
  | planned run a ho _ hpl hd hoe hof =>
    obtain ⟨x, hm, y, _, hso, hv, hve, hp⟩ := download_of_planned hpl hd
    have hse : x = s := hs.source_of_id hm (Option.some.inj (hso.symm.trans hoe))
    subst hse
    have hsa : y = v := by
      have hin : y ∈ db.versions := by
        simp only [Db.canonicalState, Option.bind_eq_some_iff] at hv
        obtain ⟨_, _, hf⟩ := hv
        exact List.mem_of_find?_eq_some hf
      exact hs.version_of_id hin (Option.some.inj (hve.symm.trans hof))
    subst hsa
    rw [ho] at hv hp
    -- The planner's subject is the source's, but for the locator it had at the checkpoint.
    obtain ⟨l, hsu⟩ : ∃ l, plannerSubject (sourceSubject x.workspaceId
        (db.canonicalState x.workspaceId run.checkpointSequence x)) =
          { e.subject with normalizedLocator := l } := by
      have hc : (db.canonicalState x.workspaceId run.checkpointSequence x).object = some o := by
        have hf := congrArg (Option.bind · fun v => db.object v.contentObjectId) hv
        exact hf.trans hs.object
      refine ⟨(sourceSubject x.workspaceId (db.canonicalState x.workspaceId
        run.checkpointSequence x)).normalizedLocator.map String.toList, ?_⟩
      simp only [plannerSubject, sourceSubject, hc, SourceEvidence.subject, hs.identity,
        Option.map_some, Option.bind_some, hs.media, hs.size]
      rw [← hs.typed]
      rfl
    rw [plannerPermits, hsu] at hp
    cases hr : evaluatePolicy nfc revision { e.subject with normalizedLocator := l } with
    | error er =>
      rw [hr] at hp
      cases hp
    | ok oc =>
      rw [hr] at hp
      obtain ⟨he, hn⟩ := evaluatePolicy_workspace hr
      refine ⟨he, fun hz => hn (congrArg some hz), fun r hi has => ?_⟩
      rw [← (evaluatePolicy_allowed hr).mp (of_decide_eq_true hp) r hi]
      rcases hop : r.operand with _ | _ | _ | _ | (_ | _) | _ | _ <;>
        first | rfl | exact absurd (by rw [hop]; trivial) has

/-- The version may be read: the exact-version download and the canonical read are let
through. -/
def MayRead (nfc : Text → Text) (revision : ExclusionPolicyRevision) (db : Db) (s : Source)
    (v : SourceVersion) : Prop :=
  (∃ descriptor, resolveDescriptor nfc (some revision) db s.workspaceId s.sourceId
    v.sourceVersionId = .ok descriptor) ∧
  ∃ reference, openCurrentSource nfc (.ok revision) db s.workspaceId s.sourceId = .ok reference

/-- **What was offered may be read** exactly when the revision has no path rule and the evaluator
accepts the source's open locator. Under a path rule the download of the offered version is
denied in every state that stores it. -/
theorem offered_content_readable (live : LiveSource db s v o e)
    (offered : Offered nfc revision db s v e) :
    (MayRead nfc revision db s v ↔ ¬ revision.HasPathRule ∧ PolicyLocator nfc e.normalizedLocator) ∧
    (revision.HasPathRule → ∀ later s', StoredVersion later s' v o e →
      resolveDescriptor nfc (some revision) later s'.workspaceId s'.sourceId v.sourceVersionId =
        .error .policyDenied) := by
  obtain ⟨he, hn, hs⟩ := offered_spares live.toStoredVersion offered
  have hsp : ¬ revision.HasPathRule → revision.Spares e := fun hno r hm =>
    hs r hm fun has => hno ⟨r, hm, has⟩
  constructor
  · rw [MayRead, resolveDescriptor_ok_iff live.toStoredVersion he hn,
      openCurrentSource_ok_iff live he hn]
    tauto
  · intro hp later s' hst
    exact resolveDescriptor_denied hst he hn fun ha => ha.2 hp

end Offers

/-! ### A planned download -/

def noteDigest : Text := List.replicate 64 'a'

theorem noteDigest_canonical : isContentDigest noteDigest = true := by
  decide

def noteVersion : SourceVersion := ⟨4, 1, 3, 5, 1, none⟩

def noteContent : ContentObject :=
  ⟨5, String.ofList noteDigest,
    String.ofList (deriveCanonicalObjectKey ⟨noteDigest, noteDigest_canonical⟩), 5,
    String.ofList ['t', '/', 'm']⟩

def storedNoteDb : Db := { noteDb with objects := [noteContent] }

theorem note_live : LiveSource storedNoteDb noteSource noteVersion noteContent noteEvidence where
  keyed := by constructor <;> simp [storedNoteDb, noteDb, Db.empty, noteContent]
  source := List.mem_cons_self
  version := List.mem_cons_self
  content := List.mem_cons_self
  ofSource := ⟨rfl, rfl⟩
  ofContent := rfl
  identity := ⟨rfl, rfl⟩
  typed := by decide
  size := rfl
  media := by
    simp only [noteContent, String.toList_ofList]
    rfl
  digest := by
    simp only [noteContent, String.toList_ofList]
    exact noteDigest_canonical
  key := by simp [noteContent, String.toList_ofList]
  active := rfl
  current := rfl
  numbered := by decide
  located := ⟨_, List.mem_cons_self, rfl, rfl, rfl, by simp [noteEvidence]⟩

/-- A run of a device that holds no file, bound to the folder rule's revision. -/
def emptyRun : ManifestRun where
  manifestRunId := 1
  workspaceId := 1
  deviceId := 1
  baseAcknowledgedSequence := 1
  checkpointSequence := 1
  policyRevisionNumber := 2
  clientObservationGeneration := 1
  nextPageNumber := 1
  entryCount := 0
  pages := []
  resolutions := []
  actions := []
  finalDigest := none
  state := .collecting

def noteDownload : ManifestAction where
  actionIndex := 0
  actionKind := .download
  localEntryId := none
  sourceId := some 3
  sourceVersionId := some 4
  sourceLocatorId := some 7
  sourceTombstoneId := none
  reason := none

theorem note_planned : plannedActions id folderRevision storedNoteDb emptyRun = [noteDownload] := by
  decide +kernel

theorem note_offered : Offered id folderRevision storedNoteDb noteSource noteVersion noteEvidence :=
  .planned emptyRun noteDownload rfl rfl (note_planned ▸ List.mem_cons_self) rfl rfl rfl

/-- A planned download and an allowed update of the note, whose download is denied. -/
theorem offered_content_refused :
    LiveSource storedNoteDb noteSource noteVersion noteContent noteEvidence ∧
      Offered id folderRevision storedNoteDb noteSource noteVersion noteEvidence ∧
      smallFileDecision id (.ok folderRevision) 1 noteEvidence.updatePreflight = some .allowed ∧
      resolveDescriptor id (some folderRevision) storedNoteDb 1 3 4 = .error .policyDenied ∧
      ¬ MayRead id folderRevision storedNoteDb noteSource noteVersion := by
  have hp : folderRevision.HasPathRule := ⟨_, List.mem_cons_self, trivial⟩
  have hd : resolveDescriptor id (some folderRevision) storedNoteDb 1 3 4 = .error .policyDenied :=
    resolveDescriptor_denied note_live.toStoredVersion rfl (by decide) fun ha => ha.2 hp
  refine ⟨note_live, note_offered, note_decision, hd, fun may => ?_⟩
  obtain ⟨⟨d, ha⟩, _⟩ := may
  exact nomatch hd.symm.trans ha

/-- A revision that excludes files of more than ten bytes. -/
def sizeRevision : ExclusionPolicyRevision :=
  { folderRevision with
    rules := [⟨8, .maximumSize, .maximumSize 10, "s10", exclusionRule_identified, rfl⟩]
    bounded := by decide
    ruleIds := by decide
    fingerprints := by decide }

theorem note_readable : MayRead id sizeRevision storedNoteDb noteSource noteVersion := by
  have ho : Offered id sizeRevision storedNoteDb noteSource noteVersion noteEvidence :=
    .authorized (by decide)
  refine (offered_content_readable note_live ho).1.mpr ⟨?_, by unfold PolicyLocator; decide⟩
  rintro ⟨r, hm, ha⟩
  cases List.mem_singleton.mp hm
  exact ha

end PersonalOs.ExclusionPolicy
