import PersonalOs.Recovery.BackupRuns

/-!
# Restoring a bundle

`restore_empty`: the offline verification of a bundle, its objects into a bucket, its dump into an
empty database, and the verification of what was restored. The order in which the objects are
written is the schedule of the task group.

What `pg_restore` makes of a dump is a parameter, as is the acceptance probe that may follow.
-/

namespace PersonalOs.Recovery

open ExclusionPolicy (ContentDigest CanonicalMediaType ExpectedObject deriveCanonicalObjectKey)
open SourceStore (Db ContentObject Keyed)

variable {Rest : Type}

/-! ## The target -/

/-- The database a restore writes to, `none` before there is an application schema. -/
structure RestoreTarget (Rest : Type) where
  database : Option (CanonicalDatabase Rest)
  serverVersion : Text

def emptyBucket : Bucket := fun _ => none

/-- The order in which the task group writes the objects. -/
structure Schedule where
  order : List ManifestObjectEntry → List ManifestObjectEntry
  perm : ∀ entries, (order entries).Perm entries

inductive RestoreFailure
  | bundle (failure : BundleFailure)
  | targetNotEmpty
  | dependencyUnavailable
  | objectStorage (error : ObjectStorageError)
  | integrityFailed
  | restoreFailed
  | fileNotFound
  | valueError
deriving DecidableEq

def postgresqlServerVersion : Text := "18.4".toList

/-- `current_pointer_resolution_statement`: the sources whose pointer has no version of their own
with a content object. -/
def unresolvedPointers (graph : Db) : Nat :=
  graph.sources.countP fun source =>
    !graph.versions.any fun version =>
      source.currentVersionId = some version.sourceVersionId ∧
        version.sourceId = source.sourceId ∧
        graph.objects.any fun row => row.contentObjectId = version.contentObjectId

def admitRestoreTarget (target : RestoreTarget Rest) : Except RestoreFailure Unit :=
  if target.database.isSome then .error .targetNotEmpty
  else if target.serverVersion ≠ postgresqlServerVersion then .error .dependencyUnavailable
  else .ok ()

/-! ## The objects -/

def expectedObjectFromEntry (entry : ManifestObjectEntry) : Except RestoreFailure ExpectedObject :=
  match ContentDigest.parse entry.contentSha256, CanonicalMediaType.parse entry.mediaType with
  | some contentDigest, some mediaType => .ok ⟨contentDigest, entry.sizeBytes, mediaType⟩
  | _, _ => .error .valueError

def requireMatchingReceipt (receipt expected : ExpectedObject) : Except RestoreFailure Unit :=
  if receipt = expected then .ok () else .error .integrityFailed

/-- `_read_bundle_object_bytes`. -/
def readBundleFile (tree : Tree) (path : Text) : Except RestoreFailure Bytes :=
  match tree.lookup path with
  | some (.file file) => .ok file.bytes
  | _ => .error .fileNotFound

section Restoring

variable (sha256 : Bytes → ContentDigest) (recursionLimit : Nat) (restCount : Rest → String → Nat)

def restoreSingleObject (tree : Tree) (bucket : Bucket) (entry : ManifestObjectEntry) :
    Except RestoreFailure Bucket := do
  let expected ← expectedObjectFromEntry entry
  let isExisting ← (resolveVerifiedObject sha256 bucket expected).mapError .objectStorage
  if isExisting then
    let receipt ← (verifyExistingObject sha256 bucket expected).mapError .objectStorage
    requireMatchingReceipt receipt expected
    return bucket
  else
    let bytes ← readBundleFile tree (deriveCanonicalObjectKey expected.contentDigest)
    let (bucket, receipt) ← (storeStream sha256 bucket bytes entry.sizeBytes entry.mediaType
      entry.contentSha256).mapError .objectStorage
    requireMatchingReceipt receipt expected
    return bucket

/-- `_restore_object_set`, in the order of a schedule. -/
def restoreObjectSet (tree : Tree) : Bucket → List ManifestObjectEntry →
    Except RestoreFailure Bucket
  | bucket, [] => .ok bucket
  | bucket, entry :: entries =>
    (restoreSingleObject sha256 tree bucket entry).bind fun bucket =>
      restoreObjectSet tree bucket entries

/-- The last check of `_verify_restored_graph`. -/
def verifyRestoredObject (bucket : Bucket) (entry : ManifestObjectEntry) :
    Except RestoreFailure Unit := do
  let expected ← expectedObjectFromEntry entry
  let receipt ← (verifyExistingObject sha256 bucket expected).mapError .objectStorage
  requireMatchingReceipt receipt expected

def verifyRestoredGraph (manifest : RecoveryManifest) (database : CanonicalDatabase Rest)
    (bucket : Bucket) : Except RestoreFailure Unit :=
  if database.schemaHead ≠ manifest.postgresqlSchemaRevision then .error .restoreFailed
  else if !manifest.canonicalCounts.all fun count =>
      database.tableCount restCount (String.ofList count.1) = count.2 then .error .restoreFailed
  else if unresolvedPointers database.graph ≠ 0 then .error .restoreFailed
  else (manifest.objects.mapM (verifyRestoredObject sha256 bucket)).map fun _ => ()

/-- `restore_empty`, with the database and the bucket it leaves. -/
def restoreEmpty (pgRestore : Bytes → Option (CanonicalDatabase Rest))
    (smoke : CanonicalDatabase Rest → Bucket → Bool) (root : BackupRoot) (bundleId : BundleId)
    (target : RestoreTarget Rest) (bucket : Bucket) (schedule : Schedule) :
    Except RestoreFailure (CanonicalDatabase Rest × Bucket) := do
  let manifest ← (verifyOffline sha256 recursionLimit root bundleId).mapError .bundle
  let tree ← (requireFinalDirectory (root bundleId.text)).mapError .bundle
  admitRestoreTarget target
  let bucket ← restoreObjectSet sha256 tree bucket (schedule.order manifest.objects)
  let dump ← readBundleFile tree postgresDumpRelativePath
  match pgRestore dump with
  | none => throw .restoreFailed
  | some database =>
    verifyRestoredGraph sha256 restCount manifest database bucket
    if smoke database bucket then return (database, bucket) else throw .restoreFailed

end Restoring

/-! ## What an accepted restore has done -/

namespace RestoreLemmas

variable {sha256 : Bytes → ContentDigest} {recursionLimit : Nat} {restCount : Rest → String → Nat}

variable {tree : Tree}

theorem readBundleFile_ok {p : Text} {b : Bytes} (hr : readBundleFile tree p = .ok b) :
    ∃ f, tree.lookup p = some (.file f) ∧ f.bytes = b := by
  unfold readBundleFile at hr
  split at hr
  next f hf =>
    cases hr
    exact ⟨f, hf, rfl⟩
  next => cases hr

theorem requireMatchingReceipt_ok {r e : ExpectedObject}
    (hm : requireMatchingReceipt r e = .ok ()) : r = e := by
  unfold requireMatchingReceipt at hm
  split at hm
  next he => exact he
  next => cases hm

theorem verifyExistingObject_ok {bucket : Bucket} {e r : ExpectedObject}
    (hv : verifyExistingObject sha256 bucket e = .ok r) :
    Serves sha256 bucket e := by
  obtain ⟨b, ho, -⟩ := map_ok hv
  exact ⟨b, ho⟩

theorem verifyRestoredObject_ok {bucket : Bucket} {en : ManifestObjectEntry}
    (hv : verifyRestoredObject sha256 bucket en = .ok ()) :
    ∃ e, expectedObjectFromEntry en = .ok e ∧ Serves sha256 bucket e := by
  obtain ⟨e, is, hv⟩ := bind_ok hv
  obtain ⟨r, he, -⟩ := bind_ok hv
  exact ⟨e, is, verifyExistingObject_ok (mapError_ok.mp he)⟩

theorem restoreSingleObject_ok {bucket bucket' : Bucket} {en : ManifestObjectEntry}
    (hr : restoreSingleObject sha256 tree bucket en = .ok bucket') :
    ∃ e, expectedObjectFromEntry en = .ok e ∧
      ∀ key, key ≠ deriveCanonicalObjectKey e.contentDigest → bucket' key = bucket key := by
  obtain ⟨e, is, hr⟩ := bind_ok hr
  obtain ⟨ie, -, hr⟩ := bind_ok hr
  refine ⟨e, is, fun key ho => ?_⟩
  split at hr
  next =>
    obtain ⟨r, -, hr⟩ := bind_ok hr
    obtain ⟨_, -, hr⟩ := bind_ok hr
    cases hr
    rfl
  next =>
    obtain ⟨b, -, hr⟩ := bind_ok hr
    obtain ⟨⟨b'', r⟩, hs, hr⟩ := bind_ok hr
    obtain ⟨⟨⟩, hm, hr⟩ := bind_ok hr
    cases hr
    obtain ⟨-, -, hk⟩ := storeStream_ok (mapError_ok.mp hs)
    rw [requireMatchingReceipt_ok hm] at hk
    exact hk key ho

theorem restoreObjectSet_ok {bucket bucket' : Bucket} {en : List ManifestObjectEntry}
    (hr : restoreObjectSet sha256 tree bucket en = .ok bucket') :
    ∀ key, bucket' key = bucket key ∨ ∃ ey ∈ en, ∃ e, expectedObjectFromEntry ey = .ok e ∧
        key = deriveCanonicalObjectKey e.contentDigest := by
  induction en generalizing bucket with
  | nil =>
    cases hr
    exact fun _ => .inl rfl
  | cons ey en ih =>
    obtain ⟨b, hf, hre⟩ := bind_ok hr
    obtain ⟨e, is, hk⟩ := restoreSingleObject_ok hf
    intro key
    rcases ih hre key with he | ⟨l, hm, e', is', hk'⟩
    · by_cases own : key = deriveCanonicalObjectKey e.contentDigest
      · exact .inr ⟨ey, List.mem_cons_self, e, is, own⟩
      · exact .inl (he.trans (hk key own))
    · exact .inr ⟨l, List.mem_cons_of_mem _ hm, e', is', hk'⟩

end RestoreLemmas

open RestoreLemmas BackupLemmas

variable {sha256 : Bytes → ContentDigest} {recursionLimit : Nat} {restCount : Rest → String → Nat}
  {pgDump : CanonicalDatabase Rest → Bytes} {pgRestore : Bytes → Option (CanonicalDatabase Rest)}
  {smoke : CanonicalDatabase Rest → Bucket → Bool} {root : BackupRoot} {bundleId : BundleId}
  {target : RestoreTarget Rest} {bucket bucket' : Bucket} {schedule : Schedule}
  {database : CanonicalDatabase Rest}

/-- What an accepted restore has done: the dump of a verified bundle is in the database, and the
bucket serves every object of its manifest and has nothing else that is new. -/
theorem restoreEmpty_ok
    (hre : restoreEmpty sha256 recursionLimit restCount pgRestore smoke root bundleId target
      bucket schedule = .ok (database, bucket')) :
    ∃ m tree d, verifyOffline sha256 recursionLimit root bundleId = .ok m ∧
      root bundleId.text = some (.directory tree) ∧
      (∃ f, tree.lookup postgresDumpRelativePath = some (.file f) ∧ f.bytes = d) ∧
      pgRestore d = some database ∧
      (∀ en ∈ m.objects, ∃ e, expectedObjectFromEntry en = .ok e ∧ Serves sha256 bucket' e) ∧
      ∀ key, bucket' key = bucket key ∨ ∃ en ∈ m.objects, ∃ e, expectedObjectFromEntry en = .ok e ∧
          key = deriveCanonicalObjectKey e.contentDigest := by
  obtain ⟨m, hve, hop⟩ := bind_ok hre
  obtain ⟨tree, ho, ha⟩ := bind_ok hop
  obtain ⟨_, -, hf⟩ := bind_ok ha
  obtain ⟨fi, hob, hrg⟩ := bind_ok hf
  obtain ⟨d, hrd, hl⟩ := bind_ok hrg
  have hv := mapError_ok.mp hve
  obtain ⟨-, t', ht, -⟩ := verifyOffline_ok_iff.mp hv
  have hs : t' = tree := by
    have ho := mapError_ok.mp ho
    rw [ht] at ho
    cases ho
    rfl
  subst hs
  split at hl
  next => cases hl
  next rd hr =>
    obtain ⟨_, hg, hc⟩ := bind_ok hl
    split at hc
    next =>
      cases hc
      refine ⟨m, t', d, hv, ht, readBundleFile_ok hrd, hr, ?_, ?_⟩
      · unfold verifyRestoredGraph at hg
        split at hg
        · cases hg
        split at hg
        · cases hg
        split at hg
        · cases hg
        obtain ⟨u, hma, -⟩ := map_ok hg
        exact fun en hm =>
          verifyRestoredObject_ok (BundleLemmas.mapM_unit_ok.mp ⟨u, hma⟩ en hm)
      · intro key
        rcases restoreObjectSet_ok hob key with he | ⟨en, hm, e, is⟩
        · exact .inl he
        · exact .inr ⟨en, (schedule.perm _).mem_iff.mp hm, e, is⟩
    next => cases hc

/-! ## The moment of a snapshot -/

section Moments

variable {job : Job} {s t start : BackupState Rest}

theorem moves_snapshot {a : BackupAction Rest}
    (hv : Moves sha256 restCount pgDump job s a t) : t.snapshot = s.snapshot ∨
      ∃ snapshot, t.snapshot = some snapshot ∧ snapshot.database = s.database := by
  cases hv with
  | opened _ hr => exact .inr ⟨_, rfl, (hydrated_iff hr).1⟩
  | publish _ hv =>
    left
    cases publishMoves_of_step hv <;> rfl
  | failPublish _ hv =>
    left
    rcases failPublishStep_cases hv with ⟨-, root, -, rfl⟩ | ⟨-, rfl⟩
    · obtain ⟨n, r, is, -⟩ := failPublication_cases { s with root }
      rw [is]
    · rfl
  | @rollbackEnded _ _ root _ _ _ _ =>
    left
    obtain ⟨n, r, is, -⟩ := failPublication_cases { s with root }
    rw [is]
  | _ => exact .inl rfl

theorem snapshot_of_moment (hi : (machine sha256 restCount pgDump job).Init start)
    (hl : (machine sha256 restCount pgDump job).Leads start s) {snapshot : Snapshot Rest}
    (ht : s.snapshot = some snapshot) :
    ∃ m, (machine sha256 restCount pgDump job).Leads start m ∧
      (machine sha256 restCount pgDump job).Leads m s ∧
      snapshot.database = m.database := by
  induction hl with
  | refl =>
    obtain ⟨-, -, -, hn, -⟩ := hi
    rw [hn] at ht
    cases ht
  | @tail r t hb hv ih =>
    obtain ⟨a, hv⟩ := id hv
    rcases moves_snapshot (moves_of_step hv) with he | ⟨f, is, database⟩
    · obtain ⟨m, hr, hf, is⟩ := ih (he ▸ ht)
      exact ⟨m, hr, hf.tail ⟨a, hv⟩, is⟩
    · rw [ht] at is
      cases is
      exact ⟨r, hb, .single ⟨a, hv⟩, database⟩

end Moments

/-! ## What a restored row refers to -/

/-- A row names a content object: as the content of a version or as the candidate of a conflict,
open or resolved. -/
def IsReferred (graph : Db) (row : ContentObject) : Prop :=
  (∃ version ∈ graph.versions, version.contentObjectId = row.contentObjectId) ∨
    ∃ conflict ∈ graph.conflicts, conflict.candidate = .content row.contentObjectId

def Opens (sha256 : Bytes → ContentDigest) (bucket : Bucket) (row : ContentObject) : Prop :=
  ∃ expected, hydrateExpectedObject row = some expected ∧ Serves sha256 bucket expected

/-- Every candidate of a conflict is also the content of some version. -/
def CandidatesRetained (graph : Db) : Prop :=
  ∀ conflict ∈ graph.conflicts, ∀ objectId, conflict.candidate = .content objectId →
    ∃ version ∈ graph.versions, version.contentObjectId = objectId

namespace RestoreLemmas

theorem expectedObject_of_entry (e : ExpectedObject) :
    expectedObjectFromEntry (objectEntry e) = .ok e := by
  have hd : ContentDigest.parse (objectEntry e).contentSha256 =
      some e.contentDigest := dif_pos e.contentDigest.canonical
  have hm : CanonicalMediaType.parse (objectEntry e).mediaType =
      some e.mediaType := dif_pos e.mediaType.canonical
  rw [expectedObjectFromEntry, hd, hm]
  rfl

variable {row : ContentObject}

theorem mem_referencedRows {g : Db} : row ∈ referencedRows g ↔ row ∈ g.objects ∧
      ∃ v ∈ g.versions, v.contentObjectId = row.contentObjectId := by
  simp [referencedRows, List.any_eq_true]

theorem hydrated_hash {e : ExpectedObject} (hh : hydrateExpectedObject row = some e) :
    e.contentDigest.hexadecimal = row.contentHash.toList := by
  unfold hydrateExpectedObject at hh
  split at hh
  next =>
    split at hh
    next d m hp _ =>
      split at hh
      · cases hh
        exact BundleLemmas.parse_hexadecimal hp
      · cases hh
    next => cases hh
  next => cases hh

theorem row_of_hash {g : Db} (hk : Keyed g) {r' : ContentObject}
    (hm : row ∈ g.objects) (hm' : r' ∈ g.objects)
    (he : row.contentHash = r'.contentHash) : row = r' := by
  have ho : (g.objects.map ContentObject.contentHash).Nodup := by
    rw [List.Nodup, List.pairwise_map]
    exact hk.objects.imp fun ha => ha.2
  exact List.inj_on_of_nodup_map ho hm hm' he

end RestoreLemmas

/-! ## A finished bundle restores -/

namespace RestoreLemmas

theorem putIfAbsent_own {key : Text} {c : StoredObject} (hn : bucket key = none) :
    putIfAbsent bucket key c key = some c := by
  rw [putIfAbsent, hn]
  exact if_pos rfl

variable {tree : Tree}

theorem restoreSingleObject_absent {e : ExpectedObject} {b : Bytes}
    (hn : bucket (deriveCanonicalObjectKey e.contentDigest) = none)
    (hr : readBundleFile tree (deriveCanonicalObjectKey e.contentDigest) = .ok b)
    (hs : b.length = e.sizeBytes) (hd : sha256 b = e.contentDigest) :
    restoreSingleObject sha256 tree bucket (objectEntry e) =
      .ok (putIfAbsent bucket (deriveCanonicalObjectKey e.contentDigest)
        ⟨b, e.mediaType.value⟩) := by
  have hm : resolveVerifiedObject sha256 bucket e = .ok false := by
    rw [resolveVerifiedObject, verifyToSpool, hn]
  have hk : putIfAbsent bucket (deriveCanonicalObjectKey e.contentDigest)
      ⟨b, e.mediaType.value⟩ (deriveCanonicalObjectKey e.contentDigest) =
        some ⟨b, e.mediaType.value⟩ := putIfAbsent_own hn
  have ho := verifiedObject_ok.mpr ⟨hk, hs, hd⟩
  have hme : CanonicalMediaType.parse (objectEntry e).mediaType =
      some e.mediaType := dif_pos e.mediaType.canonical
  have hc : ContentDigest.parse (objectEntry e).contentSha256 =
      some e.contentDigest := dif_pos e.contentDigest.canonical
  have hst : storeStream sha256 bucket b (objectEntry e).sizeBytes
      (objectEntry e).mediaType (objectEntry e).contentSha256 =
        .ok (putIfAbsent bucket (deriveCanonicalObjectKey e.contentDigest)
          ⟨b, e.mediaType.value⟩, e) := by
    have he : (objectEntry e).sizeBytes = b.length := hs.symm
    simp only [storeStream, hme, hc, he, hd, ne_eq, not_true_eq_false, ↓reduceIte]
    rw [hs, show (⟨e.contentDigest, e.sizeBytes, e.mediaType⟩ :
      ExpectedObject) = e from rfl, verifyExistingObject, ho]
    rfl
  simp only [restoreSingleObject, expectedObject_of_entry, hm, hr, hst,
    requireMatchingReceipt, bind, Except.bind, Except.mapError, pure, Except.pure, ↓reduceIte,
    Bool.false_eq_true]

theorem restoreObjectSet_absent {en : List ManifestObjectEntry}
    (hi : ∀ ey ∈ en, ∃ ex bs, objectEntry ex = ey ∧
      readBundleFile tree (deriveCanonicalObjectKey ex.contentDigest) = .ok bs ∧
      bs.length = ex.sizeBytes ∧ sha256 bs = ex.contentDigest)
    (hd : en.Pairwise fun a b => a.objectKey ≠ b.objectKey)
    (hn : ∀ ey ∈ en, bucket ey.objectKey = none) :
    ∃ bucket', restoreObjectSet sha256 tree bucket en = .ok bucket' ∧
      (∀ ex, objectEntry ex ∈ en → Serves sha256 bucket' ex) ∧
      ∀ key, (∀ ey ∈ en, ey.objectKey ≠ key) → bucket' key = bucket key := by
  induction en generalizing bucket with
  | nil => exact ⟨bucket, rfl, by simp, fun _ _ => rfl⟩
  | cons ey en ih =>
    obtain ⟨ex, bs, rfl, hre, hse, hdi⟩ := hi ey List.mem_cons_self
    have hsi := restoreSingleObject_absent (hn _ List.mem_cons_self) hre hse hdi
    obtain ⟨ha, hd⟩ := List.pairwise_cons.mp hd
    obtain ⟨bucket', hr, hs, hk⟩ := ih (fun e hm => hi e (List.mem_cons_of_mem _ hm)) hd fun e hm =>
        (putIfAbsent_other (ha e hm).symm).trans (hn e (List.mem_cons_of_mem _ hm))
    have own : bucket' (deriveCanonicalObjectKey ex.contentDigest) =
        some ⟨bs, ex.mediaType.value⟩ :=
      (hk _ fun e hm => (ha e hm).symm).trans (putIfAbsent_own (hn _ List.mem_cons_self))
    refine ⟨bucket', ?_, fun o hm => ?_, fun key ho => ?_⟩
    · rw [restoreObjectSet, hsi]
      exact hr
    · rcases List.mem_cons.mp hm with he | hl
      · have key : (objectEntry o).objectKey = (objectEntry ex).objectKey := by rw [he]
        have heq : o = ex := by
          have hh := expectedObject_of_entry o
          rw [he, expectedObject_of_entry] at hh
          exact (Except.ok.inj hh).symm
        subst heq
        exact ⟨bs, verifiedObject_ok.mpr ⟨own, hse, hdi⟩⟩
      · exact hs o hl
    · rw [hk key fun e hm => ho e (List.mem_cons_of_mem _ hm)]
      exact putIfAbsent_other fun he => ho _ List.mem_cons_self he.symm

theorem readBundleFile_of_holds {p : Text} {b : Bytes} (hh : tree.Holds p b) :
    readBundleFile tree p = .ok b := by
  obtain ⟨f, hf, -, rfl⟩ := hh
  rw [readBundleFile, hf]

end RestoreLemmas

variable {snapshot : Snapshot Rest}

/-- A finished bundle restores into an empty target, to the database of its snapshot. -/
theorem restoreEmpty_succeeds {job : Job} {s : BackupState Rest} (hde : 3 ≤ recursionLimit)
    (hrea : (machine sha256 restCount pgDump job).Reachable s) (hret : s.phase = .returned)
    (ht : s.snapshot = some snapshot)
    (hre : pgRestore (pgDump snapshot.database) = some snapshot.database)
    (hres : unresolvedPointers snapshot.database.graph = 0)
    (hpr : ∀ bucket, smoke snapshot.database bucket = true)
    (hrd : root job.bundleId.text = s.root job.bundleId.text) :
    ∃ bucket', restoreEmpty sha256 recursionLimit restCount pgRestore smoke root job.bundleId
      ⟨none, postgresqlServerVersion⟩ emptyBucket schedule = .ok (snapshot.database, bucket') := by
  obtain ⟨s', m, p, f, ht', hp, hfo, he⟩ := finished_published hrea (.inl hret)
  rw [ht] at ht'
  cases ht'
  have hf : root job.bundleId.text = some (.directory f) := hrd.trans hfo
  have hr : Registered sha256 recursionLimit f job.bundleId m := hp.registered hde he
  have hv : verifyOffline sha256 recursionLimit root job.bundleId = .ok m :=
    verifyOffline_ok_iff.mpr ⟨job.version7, f, hf, hr⟩
  obtain ⟨-, hc⟩ := hp.complete hde (fun en => (he en).mpr) hr
  -- Distinct digests have distinct keys, so no object finds another one's bytes in its place.
  have hd : (schedule.order m.objects).Pairwise fun a b => a.objectKey ≠ b.objectKey := by
    refine (schedule.perm m.objects).symm.pairwise ?_ fun hap => hap.symm
    have ha := hp.rules.ascending
    refine ha.imp_of_mem fun {a b} hfi hs hl hk => ?_
    obtain ⟨e, -, rfl⟩ := (hp.mem_objects a).mp hfi
    obtain ⟨e', -, rfl⟩ := (hp.mem_objects b).mp hs
    exact absurd hl (by
      rw [show (objectEntry e).contentSha256 = (objectEntry e').contentSha256 from
        BundleLemmas.key_injective hk]
      exact lt_irrefl _)
  have hin : ∀ en ∈ schedule.order m.objects, ∃ e bs, objectEntry e = en ∧
      readBundleFile f (deriveCanonicalObjectKey e.contentDigest) = .ok bs ∧
      bs.length = e.sizeBytes ∧ sha256 bs = e.contentDigest := by
    intro en hm
    obtain ⟨e, hi, is⟩ := (hp.mem_objects en).mp ((schedule.perm _).mem_iff.mp hm)
    obtain ⟨bs, hh, hsi, hdi⟩ := hc.objects e hi
    exact ⟨e, bs, is, readBundleFile_of_holds hh, hsi, hdi⟩
  have hn : ∀ en ∈ schedule.order m.objects, emptyBucket en.objectKey = none := fun _ _ => rfl
  obtain ⟨bucket', restored, hse, -⟩ := restoreObjectSet_absent hin hd hn
  have hg : verifyRestoredGraph sha256 restCount m snapshot.database bucket' = .ok () := by
    obtain ⟨hrn, hcs⟩ := hp.counts
    have hco : (m.canonicalCounts.all fun c =>
        snapshot.database.tableCount restCount (String.ofList c.1) = c.2) = true := by
      rw [List.all_eq_true, hcs]
      intro c hm
      obtain ⟨ta, -, rfl⟩ := List.mem_map.mp ((List.mem_insertionSort _).mp hm)
      exact decide_eq_true (congrArg _ String.ofList_toList)
    obtain ⟨u, ho⟩ := BundleLemmas.mapM_unit_ok.mpr fun en hm => by
      obtain ⟨e, -, rfl⟩ := (hp.mem_objects en).mp hm
      obtain ⟨bs, hop⟩ := hse e ((schedule.perm _).mem_iff.mpr hm)
      exact (show verifyRestoredObject sha256 bucket' (objectEntry e) = .ok () by
        simp [verifyRestoredObject, expectedObject_of_entry, verifyExistingObject, hop,
          requireMatchingReceipt, bind, Except.bind, Except.map, Except.mapError])
    simp only [verifyRestoredGraph, hrn, hco, hres, ho, ne_eq, not_true_eq_false,
      Bool.not_true, Bool.false_eq_true, ↓reduceIte]
    rfl
  refine ⟨bucket', ?_⟩
  simp only [restoreEmpty, hv, hf, requireFinalDirectory, admitRestoreTarget, restored,
    readBundleFile_of_holds hc.dump, hre, hg, hpr, bind, Except.bind,
    Except.mapError, pure, Except.pure, Option.isSome_none, ne_eq, not_true_eq_false, ↓reduceIte,
    Bool.false_eq_true]

/-- A restored bucket has the objects of the versions. So all that the restored rows refer to opens
exactly when the candidates of the conflicts are among them. -/
theorem restored_opens_iff {m : RecoveryManifest} (he :
      readQuiescedSnapshot restCount snapshot.database snapshot.serverVersion = some snapshot)
    (ho : ∀ en, en ∈ m.objects ↔ ∃ e ∈ snapshot.referencedObjects, objectEntry e = en)
    (hs : ∀ en ∈ m.objects, ∃ e, expectedObjectFromEntry en = .ok e ∧ Serves sha256 bucket' e)
    (hf : ∀ key, bucket' key = none ∨ ∃ en ∈ m.objects, ∃ e, expectedObjectFromEntry en = .ok e ∧
        key = deriveCanonicalObjectKey e.contentDigest) :
    (∀ row ∈ snapshot.database.graph.objects, IsReferred snapshot.database.graph row →
      Opens sha256 bucket' row) ↔ CandidatesRetained snapshot.database.graph := by
  obtain ⟨-, hme, hhy, -⟩ := hydrated_iff he
  have hv : ∀ row ∈ referencedRows snapshot.database.graph, Opens sha256 bucket' row := by
    intro row hm
    obtain ⟨e, hh⟩ := hhy row hm
    have hi := (hme e).mpr ⟨row, hm, hh⟩
    obtain ⟨e', is, hop⟩ := hs _ ((ho _).mpr ⟨e, hi, rfl⟩)
    rw [expectedObject_of_entry] at is
    cases is
    exact ⟨e, hh, hop⟩
  constructor
  · intro hop c hm oi hc
    obtain ⟨row, hr, rfl⟩ := snapshot.database.candidateStored c hm oi hc
    obtain ⟨e, hh, b, hod⟩ := hop row hr (.inr ⟨c, hm, hc⟩)
    have hst := (verifiedObject_ok.mp hod).1
    -- What the bucket has under the key of the row it has of some inventoried object.
    rcases hf (deriveCanonicalObjectKey e.contentDigest) with hno | hot
    · rw [hst] at hno
      cases hno
    · obtain ⟨en, hin, e', is, key⟩ := hot
      obtain ⟨i, hi, rfl⟩ := (ho en).mp hin
      rw [expectedObject_of_entry] at is
      cases is
      obtain ⟨r', hre, hh'⟩ := (hme _).mp hi
      obtain ⟨hr', v, hve, hn⟩ := mem_referencedRows.mp hre
      have hha : r'.contentHash = row.contentHash := by
        have hd := BundleLemmas.key_injective key
        rw [hydrated_hash hh, hydrated_hash hh'] at hd
        exact String.toList_injective hd.symm
      rw [row_of_hash snapshot.database.keyed hr' hr hha] at hn
      exact ⟨v, hve, hn⟩
  · rintro hrd row hr (hna | ⟨c, hm, hc⟩)
    · exact hv row (mem_referencedRows.mpr ⟨hr, hna⟩)
    · exact hv row (mem_referencedRows.mpr ⟨hr, hrd c hm _ hc⟩)

theorem restored_snapshot {job : Job} {s : BackupState Rest} (hd : 3 ≤ recursionLimit)
    (hrea : (machine sha256 restCount pgDump job).Reachable s) (hret : s.phase = .returned)
    (hta : s.snapshot = some snapshot)
    (hre : pgRestore (pgDump snapshot.database) = some snapshot.database)
    (hrd : root job.bundleId.text = s.root job.bundleId.text)
    (hres : restoreEmpty sha256 recursionLimit restCount pgRestore smoke root job.bundleId
      target emptyBucket schedule = .ok (database, bucket')) :
    database = snapshot.database ∧
      ((∀ row ∈ snapshot.database.graph.objects, IsReferred snapshot.database.graph row →
        Opens sha256 bucket' row) ↔ CandidatesRetained snapshot.database.graph) := by
  obtain ⟨s', pl, p, f, hta', hp, hfo, he⟩ := finished_published hrea (.inl hret)
  rw [hta] at hta'
  cases hta'
  obtain ⟨m, tree, d, hv, ht, ⟨fl, hf, hb⟩, hl, hse, hfr⟩ := restoreEmpty_ok hres
  have hs : tree = f := by
    rw [hrd, show s.root job.bundleId.text = _ from hfo] at ht
    cases ht
    rfl
  subst hs
  obtain ⟨-, t', ht', hr⟩ := verifyOffline_ok_iff.mp hv
  rw [ht] at ht'
  cases ht'
  obtain ⟨rfl, hc⟩ := hp.complete hd (fun e => (he e).mpr) hr
  have hw : d = pgDump snapshot.database := by
    obtain ⟨f', hf', -, hb'⟩ := hc.dump
    rw [hf] at hf'
    cases hf'
    rw [← hb, hb']
  rw [hw, hre] at hl
  cases hl
  exact ⟨rfl, restored_opens_iff hp.evidence hp.mem_objects hse hfr⟩

/-- A restored backup is the database of one moment of the backup's run; and every object that a
restored row refers to opens exactly when no conflict of that moment has a candidate of its own. -/
theorem restored_complete_iff {job : Job} {start s : BackupState Rest} (deep : 3 ≤ recursionLimit)
    (initial : (machine sha256 restCount pgDump job).Init start)
    (leads : (machine sha256 restCount pgDump job).Leads start s) (returned : s.phase = .returned)
    (reproduces : ∀ snapshot, s.snapshot = some snapshot →
      pgRestore (pgDump snapshot.database) = some snapshot.database)
    (relocated : root job.bundleId.text = s.root job.bundleId.text)
    (restored : restoreEmpty sha256 recursionLimit restCount pgRestore smoke root job.bundleId
      target emptyBucket schedule = .ok (database, bucket')) :
    ∃ moment, (machine sha256 restCount pgDump job).Leads start moment ∧
      (machine sha256 restCount pgDump job).Leads moment s ∧ database = moment.database ∧
      ((∀ row ∈ database.graph.objects, IsReferred database.graph row → Opens sha256 bucket' row) ↔
        CandidatesRetained moment.database.graph) := by
  have hr : (machine sha256 restCount pgDump job).Reachable s :=
    Machine.Leads.reachable (.init initial) leads
  obtain ⟨snapshot, -, -, -, ht, -⟩ := finished_published hr (.inl returned)
  obtain ⟨moment, hb, ha, hm⟩ := snapshot_of_moment initial leads ht
  obtain ⟨rfl, ho⟩ := restored_snapshot deep hr returned ht (reproduces snapshot ht)
    relocated restored
  exact ⟨moment, hb, ha, hm, hm ▸ ho⟩

/-! ### A candidate that is not restored -/

/-- The content of the first version, of the second, and what a device made of the first. -/
def firstBytes : Bytes := [111, 110, 101, 10]

def secondBytes : Bytes := [116, 119, 111, 10]

def mineBytes : Bytes := [109, 105, 110, 101, 10]

def digestOf (hexadecimal : String) : ContentDigest :=
  if canonical : ExclusionPolicy.isContentDigest hexadecimal.toList = true then
    ⟨hexadecimal.toList, canonical⟩
  else ⟨List.replicate 64 '0', by decide⟩

def firstHash : String := "2c8b08da5ce60398e1f19af0e5dccc744df274b826abe585eaba68c525434806"

def secondHash : String := "27dd8ed44a83ff94d557f9fd0412ed5a8cbca69ea04922d88c01184a07300a5a"

def mineHash : String := "fcbc800db3f1867000b852f1ce0044b8f1584f76ade1ed6e65189824f95c3cda"

/-- SHA-256 on the contents, the dump and the line of the manifest. -/
def conflictSha256 (bytes : Bytes) : ContentDigest :=
  if bytes = firstBytes then digestOf firstHash
  else if bytes = secondBytes then digestOf secondHash
  else if bytes = mineBytes then digestOf mineHash
  else if bytes = sampleDump then
    digestOf "b5a26a21290c39819235a235b8ed66b3bd98ed90c8316c8949bfbb7419cac878"
  else digestOf "93346b5f414e44672675911315ec922a542e43090f5bce40ef11a6fb859fb82e"

def markdownRow (contentObjectId : Nat) (hash : String) (byteSize : Nat) : ContentObject where
  contentObjectId := contentObjectId
  contentHash := hash
  objectKey := String.ofList (deriveCanonicalObjectKey (digestOf hash))
  byteSize := byteSize
  mediaType := "text/markdown"

/-- A note at its second version, and a conflict with a device that had edited the first. -/
def conflictedGraph : Db :=
  { Db.empty with
    events := [⟨41, 1, 1, 3, some 51, some 11, none, "first", default, .create⟩,
      ⟨42, 1, 2, 3, some 52, some 12, some 11, "second", default, .update⟩,
      ⟨43, 1, 3, 3, some 51, none, some 11, "mine", default, .conflictCapture⟩]
    sources := [⟨3, 1, "note", .active, some 12⟩]
    versions := [⟨11, 1, 3, 21, 1, none⟩, ⟨12, 1, 3, 22, 2, some 11⟩]
    objects := [markdownRow 21 firstHash 4, markdownRow 22 secondHash 4, markdownRow 23 mineHash 5]
    conflicts := [
      { conflictId := 31
        workspaceId := 1
        sourceId := some 3
        conflictKind := .staleContent
        status := .open
        originatingEventId := 43
        originatingDeviceId := 51
        captureIdempotencyKey := "mine"
        baseVersionId := some 11
        observedRemoteVersionId := some 12
        candidate := .content 23
        normalizedLocator := none
        resolution := none }] }

def conflictedDatabase : CanonicalDatabase Unit where
  schemaHead := postgresqlSchemaRevision
  graph := conflictedGraph
  rest := ()
  keyed := by constructor <;> decide
  candidateStored := by
    intro conflict member objectId candidate
    cases List.mem_singleton.mp member
    cases candidate
    exact ⟨_, List.mem_cons_of_mem _ (List.mem_cons_of_mem _ List.mem_cons_self), rfl⟩

def conflictedStart : BackupState Unit :=
  { sampleStart with
    database := conflictedDatabase
    bucket := fun key =>
      if key = deriveCanonicalObjectKey (digestOf firstHash) then
        some ⟨firstBytes, "text/markdown".toList⟩
      else if key = deriveCanonicalObjectKey (digestOf secondHash) then
        some ⟨secondBytes, "text/markdown".toList⟩
      else if key = deriveCanonicalObjectKey (digestOf mineHash) then
        some ⟨mineBytes, "text/markdown".toList⟩
      else none }

def conflictedMachine : Machine (BackupState Unit) (BackupAction Unit) :=
  machine conflictSha256 (fun _ _ => 0) (fun _ => sampleDump) sampleJob

def markdownObject (hash : String) (sizeBytes : Nat) : ExpectedObject :=
  ⟨digestOf hash, sizeBytes, ⟨"text/markdown".toList, by decide⟩⟩

def conflictedScript : List (BackupAction Unit) :=
  [.openSnapshot "18.4".toList, .admitStaging true, .makeStaging true, .importSnapshot,
    .finishDump, .readObject (markdownObject firstHash 4), .readObject (markdownObject secondHash 4),
    .writeObject ⟨objectEntry (markdownObject firstHash 4), firstBytes⟩,
    .writeObject ⟨objectEntry (markdownObject secondHash 4), secondBytes⟩,
    .observePendingWriters 0 sampleMoment] ++ List.replicate 13 .publish ++
  [.closeSnapshot true, .report true]

theorem conflictedStart_initial : conflictedMachine.Init conflictedStart :=
  ⟨rfl, rfl, rfl, rfl, rfl, rfl, rfl, rfl, rfl⟩

theorem conflicted_restores : ∃ s bucket', conflictedMachine.Leads conflictedStart s ∧
    s.phase = .returned ∧
    (∃ snapshot, s.snapshot = some snapshot ∧ snapshot.database = conflictedDatabase) ∧
    restoreEmpty conflictSha256 1000 (fun _ _ => 0) (fun _ => some conflictedDatabase)
      (fun _ _ => true) s.root sampleJob.bundleId ⟨none, postgresqlServerVersion⟩ emptyBucket
      ⟨id, fun _ => .refl _⟩ = .ok (conflictedDatabase, bucket') := by
  have ho : (conflictedMachine.run conflictedStart conflictedScript).map (fun s => (s.phase,
      s.snapshot.map fun snapshot => (snapshot.database.schemaHead, snapshot.database.graph))) =
        some (.returned, some (postgresqlSchemaRevision, conflictedGraph)) := by
    decide +kernel
  obtain ⟨s, ran, is⟩ := Option.map_eq_some_iff.mp ho
  obtain ⟨hre, he⟩ := Prod.mk.inj is
  obtain ⟨snapshot, ht, hs⟩ := Option.map_eq_some_iff.mp he
  have database : snapshot.database = conflictedDatabase := by
    obtain ⟨⟨sh, g, _, _, _⟩, _, _, _⟩ := snapshot
    obtain ⟨rfl, rfl⟩ := Prod.mk.inj hs
    rfl
  have hl := Machine.leads_of_run ran
  have hrd : conflictedMachine.Reachable s :=
    Machine.Leads.reachable (.init conflictedStart_initial) hl
  have hr : ∃ bucket', restoreEmpty conflictSha256 1000 (fun _ _ => 0)
      (fun _ => some conflictedDatabase) (fun _ _ => true) s.root sampleJob.bundleId
      ⟨none, postgresqlServerVersion⟩ emptyBucket ⟨id, fun _ => .refl _⟩ =
        .ok (snapshot.database, bucket') :=
    restoreEmpty_succeeds (by decide) hrd hre ht (congrArg some database.symm)
      (by rw [database]; decide) (fun _ => rfl) rfl
  rw [database] at hr
  obtain ⟨bucket', hr⟩ := hr
  exact ⟨s, bucket', hl, hre, ⟨snapshot, ht, database⟩, hr⟩

/-- The backup of the note leaves a complete bundle. -/
theorem createBackup_returned : ∃ s, conflictedMachine.Reachable s ∧ s.phase = .returned ∧
    (∃ snapshot, s.snapshot = some snapshot ∧ snapshot.database = conflictedDatabase) ∧
    StandsComplete conflictSha256 (fun _ => sampleDump) sampleJob 1000 s := by
  obtain ⟨s, -, hl, hr, ht, -⟩ := conflicted_restores
  have hre : conflictedMachine.Reachable s :=
    Machine.Leads.reachable (.init conflictedStart_initial) hl
  obtain ⟨hs, -⟩ := createBackup_all_or_nothing conflictSha256 (fun _ _ => 0)
    (fun _ => sampleDump) sampleJob (show 3 ≤ 1000 by decide)
  exact ⟨s, hre, hr, ht, (hs s hre).1 (.inl hr)⟩

/-- The restored note is the one of a moment of its backup. -/
theorem restored_complete_conflicted : ∃ s bucket' moment,
    conflictedMachine.Leads conflictedStart moment ∧ conflictedMachine.Leads moment s ∧
    s.phase = .returned ∧ moment.database = conflictedDatabase ∧
    ((∀ row ∈ conflictedGraph.objects, IsReferred conflictedGraph row →
      Opens conflictSha256 bucket' row) ↔ CandidatesRetained conflictedGraph) := by
  obtain ⟨s, bucket', hl, hr, ⟨snapshot, ht, database⟩, hrd⟩ := conflicted_restores
  have hre : ∀ t', s.snapshot = some t' → some conflictedDatabase = some t'.database := by
    intro t' is
    rw [ht] at is
    cases is
    rw [database]
  obtain ⟨moment, hb, ha, he, ho⟩ := restored_complete_iff (show 3 ≤ 1000 by decide)
    conflictedStart_initial hl hr hre rfl hrd
  rw [← he] at ho
  exact ⟨s, bucket', moment, hb, ha, hr, he.symm, ho⟩

/-- The bucket of the backup has every object, the restored one does not open the candidate. -/
theorem candidate_not_restored :
    (∀ row ∈ conflictedGraph.objects, Opens conflictSha256 conflictedStart.bucket row) ∧
    ¬∀ s bucket', conflictedMachine.Leads conflictedStart s → s.phase = .returned →
      restoreEmpty conflictSha256 1000 (fun _ _ => 0) (fun _ => some conflictedDatabase)
        (fun _ _ => true) s.root sampleJob.bundleId ⟨none, postgresqlServerVersion⟩ emptyBucket
        ⟨id, fun _ => .refl _⟩ = .ok (conflictedDatabase, bucket') →
      ∀ row ∈ conflictedGraph.objects, IsReferred conflictedGraph row →
        Opens conflictSha256 bucket' row := by
  constructor
  · have hs : ∀ row ∈ conflictedGraph.objects, ((hydrateExpectedObject row).map fun e =>
        (verifyToSpool conflictSha256 conflictedStart.bucket e).isOk) = some true := by
      decide +kernel
    intro row hm
    obtain ⟨e, hh, ho⟩ := Option.map_eq_some_iff.mp (hs row hm)
    refine ⟨e, hh, ?_⟩
    unfold Serves
    cases is : verifyToSpool conflictSha256 conflictedStart.bucket e with
    | ok b => exact ⟨b, rfl⟩
    | error er =>
      rw [is] at ho
      cases ho
  · intro hcl
    obtain ⟨s, bucket', hl, hre, ⟨snapshot, ht, database⟩, hr⟩ := conflicted_restores
    have ho := hcl s bucket' hl hre hr
    have hrea : conflictedMachine.Reachable s :=
      Machine.Leads.reachable (.init conflictedStart_initial) hl
    have hlo : ¬CandidatesRetained conflictedGraph := by
      intro hrd
      obtain ⟨v, hm, hn⟩ := hrd _ List.mem_cons_self 23 rfl
      have hot : ∀ v ∈ conflictedGraph.versions, v.contentObjectId ≠ 23 := by decide
      exact hot v hm hn
    obtain ⟨-, hc⟩ := restored_snapshot (show 3 ≤ 1000 by decide) hrea hre ht
      (congrArg some database.symm) rfl hr
    rw [database] at hc
    exact hlo (hc.mp ho)

end PersonalOs.Recovery
