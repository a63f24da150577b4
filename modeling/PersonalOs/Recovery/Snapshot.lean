import PersonalOs.Recovery.Manifest

/-!
# The canonical database, its snapshot and the bucket

What a backup reads: the tables of one database state with the evidence `backup_snapshot.py`
takes of them, and the content-addressed objects of the bucket through the verified operations of
the object store. The tables of no modelled row are one opaque component with its row counts.
-/

namespace PersonalOs.Recovery

open ExclusionPolicy (ContentDigest CanonicalMediaType ExpectedObject deriveCanonicalObjectKey)
open SourceStore (Db ContentObject Keyed)

/-! ## The database -/

/-- One committed state of the database with the constraints its tables enforce: the unique keys
and the references to the content objects. -/
structure CanonicalDatabase (Rest : Type) where
  schemaHead : Text
  graph : Db
  rest : Rest
  keyed : Keyed graph
  candidateStored : ∀ conflict ∈ graph.conflicts, ∀ objectId, conflict.candidate = .content objectId →
    ∃ row ∈ graph.objects, row.contentObjectId = objectId

section Counts

variable {Rest : Type} (restCount : Rest → String → Nat)

/-- `table_count_statement`. -/
def CanonicalDatabase.tableCount (database : CanonicalDatabase Rest) : String → Nat
  | "content_objects" => database.graph.objects.length
  | "sources" => database.graph.sources.length
  | "source_versions" => database.graph.versions.length
  | "sync_events" => database.graph.events.length
  | "source_locators" => database.graph.locators.length
  | "source_tombstones" => database.graph.tombstones.length
  | "device_cursors" => database.graph.cursors.length
  | "manifest_runs" => database.graph.manifestRuns.length
  | table => restCount database.rest table

def CanonicalDatabase.readTableCounts (database : CanonicalDatabase Rest) (tables : List String) :
    List (Text × Nat) :=
  tables.map fun table => (table.toList, database.tableCount restCount table)

end Counts

def snapshotLockOrder : List String :=
  ["users", "workspaces", "devices", "content_objects", "sources", "source_versions",
    "sync_events", "source_locators", "source_tombstones", "projection_intents", "audit_events",
    "user_credentials", "web_sessions", "totp_credentials", "totp_recovery_codes",
    "device_token_families", "device_tokens", "device_authorization_grants",
    "authentication_throttle_buckets", "workspace_policy_state", "policy_signing_keys",
    "policy_keysets", "policy_keyset_signatures", "source_policies", "policy_rules",
    "policy_drafts", "policy_draft_rules", "policy_evaluations", "policy_reconciliation_intents",
    "small_file_upload_operations", "device_cursors", "manifest_runs", "manifest_pages",
    "manifest_entry_resolutions", "manifest_actions"]

/-! ## The objects of a snapshot -/

/-- `referenced_objects_statement`: the rows that some source version names. -/
def referencedRows (graph : Db) : List ContentObject :=
  graph.objects.filter fun row =>
    graph.versions.any fun version => version.contentObjectId = row.contentObjectId

def hydrateExpectedObject (row : ContentObject) : Option ExpectedObject :=
  if row.byteSize ≤ maximumObjectSizeBytes then
    match ContentDigest.parse row.contentHash.toList,
        CanonicalMediaType.parse row.mediaType.toList with
    | some contentDigest, some mediaType =>
      if row.objectKey.toList = deriveCanonicalObjectKey contentDigest then
        some ⟨contentDigest, row.byteSize, mediaType⟩
      else none
    | _, _ => none
  else none

/-- `hydrate_referenced_objects`, over what was hydrated before. -/
def hydrateReferencedObjects (hydrated : List ExpectedObject) :
    List ContentObject → Option (List ExpectedObject)
  | [] => some hydrated
  | row :: rows =>
    match hydrateExpectedObject row with
    | none => none
    | some expected =>
      match hydrated.find? fun e => e.contentDigest = expected.contentDigest with
      | none => hydrateReferencedObjects (hydrated ++ [expected]) rows
      | some seen =>
        if seen.sizeBytes = expected.sizeBytes ∧ seen.mediaType = expected.mediaType then
          hydrateReferencedObjects hydrated rows
        else none

/-- `CanonicalBackupSnapshot`, its token read as the state it denotes. -/
structure Snapshot (Rest : Type) where
  database : CanonicalDatabase Rest
  serverVersion : Text
  tableCounts : List (Text × Nat)
  referencedObjects : List ExpectedObject

/-- `_read_quiesced_snapshot`: all evidence from one state of the database. -/
def readQuiescedSnapshot {Rest : Type} (restCount : Rest → String → Nat)
    (database : CanonicalDatabase Rest) (serverVersion : Text) : Option (Snapshot Rest) :=
  (hydrateReferencedObjects [] (referencedRows database.graph)).map fun referencedObjects =>
    { database, serverVersion, referencedObjects
      tableCounts := database.readTableCounts restCount snapshotLockOrder }

namespace SnapshotLemmas

theorem hydrated_spec {rows : List ContentObject} {before after : List ExpectedObject}
    (hydrated : hydrateReferencedObjects before rows = some after) :
    (∀ e, e ∈ after ↔ e ∈ before ∨ ∃ row ∈ rows, hydrateExpectedObject row = some e) ∧
    (∀ row ∈ rows, ∃ e, hydrateExpectedObject row = some e) ∧
    ((before.Pairwise fun a b => a.contentDigest ≠ b.contentDigest) →
      after.Pairwise fun a b => a.contentDigest ≠ b.contentDigest) := by
  induction rows generalizing before with
  | nil =>
    cases hydrated
    simp
  | cons row rows ih =>
    rw [hydrateReferencedObjects] at hydrated
    split at hydrated
    next => cases hydrated
    next expected is =>
      split at hydrated
      next fresh =>
        obtain ⟨members, total, distinct⟩ := ih hydrated
        refine ⟨fun e => ?_, List.forall_mem_cons.mpr ⟨⟨expected, is⟩, total⟩, fun pairwise => ?_⟩
        · rw [members, List.mem_append, List.mem_singleton, eq_comm (a := e), or_assoc]
          simp only [List.mem_cons, exists_eq_or_imp, is, Option.some.injEq]
        · refine distinct (List.pairwise_append.mpr ⟨pairwise, List.pairwise_singleton _ _, ?_⟩)
          intro a member b new
          rw [List.mem_singleton.mp new]
          exact of_decide_eq_false (Bool.eq_false_iff.mpr (List.find?_eq_none.mp fresh a member))
      next seen found =>
        split at hydrated
        next agrees =>
          obtain ⟨members, total, distinct⟩ := ih hydrated
          refine ⟨fun e => ?_, List.forall_mem_cons.mpr ⟨⟨expected, is⟩, total⟩, distinct⟩
          have same : seen = expected := by
            have digest : seen.contentDigest = expected.contentDigest := by
              have := List.find?_some found
              exact of_decide_eq_true this
            cases seen
            cases expected
            cases digest
            cases agrees.1
            cases agrees.2
            rfl
          have kept : expected ∈ before := same ▸ List.mem_of_find?_eq_some found
          rw [members]
          simp only [List.mem_cons, exists_eq_or_imp, is, Option.some.injEq]
          constructor
          · exact Or.imp_right .inr
          · rintro (old | rfl | new)
            · exact .inl old
            · exact .inl kept
            · exact .inr new
        next => cases hydrated

end SnapshotLemmas

/-- The evidence has one claim for each object that a source version refers to. -/
theorem hydrated_iff {Rest : Type} {restCount : Rest → String → Nat}
    {d : CanonicalDatabase Rest} {sv : Text} {s : Snapshot Rest}
    (hr : readQuiescedSnapshot restCount d sv = some s) :
    s.database = d ∧
    (∀ e, e ∈ s.referencedObjects ↔
      ∃ row ∈ referencedRows d.graph, hydrateExpectedObject row = some e) ∧
    (∀ row ∈ referencedRows d.graph, ∃ e, hydrateExpectedObject row = some e) ∧
    s.referencedObjects.Pairwise fun a b => a.contentDigest ≠ b.contentDigest := by
  unfold readQuiescedSnapshot at hr
  obtain ⟨ro, hh, rfl⟩ := Option.map_eq_some_iff.mp hr
  obtain ⟨hm, ht, hd⟩ := SnapshotLemmas.hydrated_spec hh
  exact ⟨rfl, by simpa using hm, ht, hd .nil⟩

/-! ## The bucket -/

/-- An object as the provider keeps it. -/
structure StoredObject where
  bytes : Bytes
  mediaType : Text
deriving DecidableEq

abbrev Bucket := Text → Option StoredObject

inductive ObjectStorageError
  | objectMissing
  | integrityFailed
  | metadataConflict
  | inputInvalid
deriving DecidableEq

section Objects

variable (sha256 : Bytes → ContentDigest)

/-- `_verify_to_spool`: the bytes of a claim after exact metadata and a full read. -/
def verifyToSpool (bucket : Bucket) (expected : ExpectedObject) :
    Except ObjectStorageError Bytes :=
  match bucket (deriveCanonicalObjectKey expected.contentDigest) with
  | none => .error .objectMissing
  | some object =>
    if object.bytes.length ≠ expected.sizeBytes then .error .integrityFailed
    else if object.mediaType ≠ expected.mediaType.value then .error .metadataConflict
    else if sha256 object.bytes ≠ expected.contentDigest then .error .integrityFailed
    else .ok object.bytes

/-- `resolve_verified_object`: whether there is an object, which then is the claimed one. -/
def resolveVerifiedObject (bucket : Bucket) (expected : ExpectedObject) :
    Except ObjectStorageError Bool :=
  match verifyToSpool sha256 bucket expected with
  | .ok _ => .ok true
  | .error .objectMissing => .ok false
  | .error error => .error error

def verifyExistingObject (bucket : Bucket) (expected : ExpectedObject) :
    Except ObjectStorageError ExpectedObject :=
  (verifyToSpool sha256 bucket expected).map fun _ => expected

/-- `_resolve_store_method`: an object that is there stays as it is. -/
def putIfAbsent (bucket : Bucket) (key : Text) (object : StoredObject) : Bucket :=
  match bucket key with
  | some _ => bucket
  | none => fun k => if k = key then some object else bucket k

def storeStream (bucket : Bucket) (bytes : Bytes) (expectedSizeBytes : Nat) (mediaType : Text)
    (claimedSha256 : Text) : Except ObjectStorageError (Bucket × ExpectedObject) :=
  match CanonicalMediaType.parse mediaType, ContentDigest.parse claimedSha256 with
  | some canonicalMedia, some claimedDigest =>
    if bytes.length ≠ expectedSizeBytes then .error .inputInvalid
    else if sha256 bytes ≠ claimedDigest then .error .inputInvalid
    else
      let expected : ExpectedObject := ⟨sha256 bytes, bytes.length, canonicalMedia⟩
      let bucket := putIfAbsent bucket (deriveCanonicalObjectKey expected.contentDigest)
        ⟨bytes, canonicalMedia.value⟩
      (verifyExistingObject sha256 bucket expected).map fun receipt => (bucket, receipt)
  | _, _ => .error .inputInvalid

end Objects

/-- A bucket serves a claim: the bytes under its key are of the claimed size, media type and
digest. -/
def Serves (sha256 : Bytes → ContentDigest) (bucket : Bucket) (expected : ExpectedObject) : Prop :=
  ∃ bytes, verifyToSpool sha256 bucket expected = .ok bytes

variable {sha256 : Bytes → ContentDigest} {bucket : Bucket} {expected : ExpectedObject}

theorem verifiedObject_ok {b : Bytes} : verifyToSpool sha256 bucket expected = .ok b ↔
      bucket (deriveCanonicalObjectKey expected.contentDigest) =
        some ⟨b, expected.mediaType.value⟩ ∧
      b.length = expected.sizeBytes ∧ sha256 b = expected.contentDigest := by
  unfold verifyToSpool
  cases hst : bucket (deriveCanonicalObjectKey expected.contentDigest) with
  | none => simp
  | some o =>
    obtain ⟨c, hm⟩ := o
    simp only [Option.some.injEq, StoredObject.mk.injEq]
    constructor
    · intro ho
      split at ho
      · cases ho
      split at ho
      · cases ho
      split at ho
      · cases ho
      next hs hm hd =>
        cases ho
        exact ⟨⟨rfl, not_not.mp hm⟩, not_not.mp hs, not_not.mp hd⟩
    · rintro ⟨⟨rfl, rfl⟩, hs, hd⟩
      simp [hs, hd]

theorem putIfAbsent_other {key k' : Text} {c : StoredObject} (ho : k' ≠ key) :
    putIfAbsent bucket key c k' = bucket k' := by
  unfold putIfAbsent
  cases bucket key with
  | none => exact if_neg ho
  | some => rfl

theorem storeStream_ok {b : Bytes} {sb : Nat} {mt c : Text}
    {b' : Bucket} {r : ExpectedObject}
    (hs : storeStream sha256 bucket b sb mt c = .ok (b', r)) :
    Serves sha256 b' r ∧ r.contentDigest.hexadecimal = c ∧
    ∀ key, key ≠ deriveCanonicalObjectKey r.contentDigest → b' key = bucket key := by
  unfold storeStream at hs
  split at hs
  next cm cd _ hp =>
    split at hs
    · cases hs
    split at hs
    · cases hs
    next he =>
      obtain ⟨r', hv, hpa⟩ := map_ok hs
      obtain ⟨co, ho, rfl⟩ := map_ok hv
      cases hpa
      rw [not_not] at he
      refine ⟨⟨co, ho⟩, ?_, fun key hot => ?_⟩
      · unfold ContentDigest.parse at hp
        split at hp
        · cases hp
          rw [he]
        · cases hp
      · exact putIfAbsent_other hot
  next => cases hs

end PersonalOs.Recovery
