import PersonalOs.Recovery.Backup

/-!
# The staged tree and what it publishes

The staging directory of a call that copies objects, and the tree its publication sets out to
leave: the staged files with the manifest of the snapshot and its sidecar.
-/

namespace PersonalOs.Recovery

open ExclusionPolicy (ContentDigest CanonicalMediaType ExpectedObject deriveCanonicalObjectKey utf8)

/-! ## Trees -/

/-- Every directory above an entry is one. -/
def Tree.IsClosed (tree : Tree) : Prop :=
  ∀ entry ∈ tree, ∀ path ∈ parents entry.1, (path, Node.directory) ∈ tree

/-- A tree with all of a snapshot: its dump and every object of its inventory. -/
structure Complete {Rest : Type} (sha256 : Bytes → ContentDigest)
    (pgDump : CanonicalDatabase Rest → Bytes) (snapshot : Snapshot Rest) (tree : Tree) : Prop where
  dump : tree.Holds postgresDumpRelativePath (pgDump snapshot.database)
  objects : ∀ expected ∈ snapshot.referencedObjects, ∃ bytes,
    tree.Holds (deriveCanonicalObjectKey expected.contentDigest) bytes ∧
      bytes.length = expected.sizeBytes ∧ sha256 bytes = expected.contentDigest

namespace TreeLemmas

variable {tree part : Tree}

variable {path : Text} {bytes : Bytes}

theorem lookup_of_mem (hd : (tree.map Prod.fst).Nodup) (hw : part ⊆ tree) {n : Node}
    (hm : (path, n) ∈ part) : part.lookup path = some n := by
  have hp : (part.lookup path).isSome = true := by
    rw [List.lookup_isSome_iff]
    exact ⟨_, hm, beq_self_eq_true _⟩
  obtain ⟨f, is⟩ := Option.isSome_iff_exists.mp hp
  have hi := hw (BundleLemmas.mem_of_lookup is)
  have he := List.inj_on_of_nodup_map hd hi (hw hm) rfl
  rw [is]
  exact congrArg some (congrArg Prod.snd he)

theorem holds_of_mem (hd : (tree.map Prod.fst).Nodup) (hw : part ⊆ tree)
    (hm : (path, freshFile bytes) ∈ part) : part.Holds path bytes :=
  ⟨⟨bytes, 1⟩, lookup_of_mem hd hw hm, le_rfl, rfl⟩

theorem bytes_of_holds (hd : (tree.map Prod.fst).Nodup) (hw : part ⊆ tree)
    {b' : Bytes} (hm : (path, freshFile bytes) ∈ tree) (hh : part.Holds path b') :
    b' = bytes := by
  obtain ⟨f, hf, -, rfl⟩ := hh
  have he := List.inj_on_of_nodup_map hd (hw (BundleLemmas.mem_of_lookup hf)) hm rfl
  cases congrArg Prod.snd he
  rfl

theorem fresh_of_lookup (hn : (tree.lookup path).isNone = true) : path ∉ tree.map Prod.fst := by
  intro hm
  obtain ⟨e, hi, rfl⟩ := List.mem_map.mp hm
  have hp : (tree.lookup e.1).isSome = true := by
    rw [List.lookup_isSome_iff]
    exact ⟨_, hi, beq_self_eq_true _⟩
  rw [Option.isNone_iff_eq_none.mp hn] at hp
  cases hp

theorem addFile_spec {a : Tree} (ha : addFile tree path bytes = some a) :
    a = tree ++ [(path, freshFile bytes)] ∧ path ∉ tree.map Prod.fst := by
  unfold addFile at ha
  split at ha
  next hn =>
    cases ha
    exact ⟨rfl, fresh_of_lookup hn⟩
  next => cases ha

theorem distinct_snoc {n : Node} (hd : (tree.map Prod.fst).Nodup)
    (hf : path ∉ tree.map Prod.fst) : ((tree ++ [(path, n)]).map Prod.fst).Nodup := by
  rw [List.map_append, List.nodup_append]
  refine ⟨hd, List.nodup_singleton _, ?_⟩
  intro nm hm n' new he
  rw [List.map_singleton, List.mem_singleton] at new
  rw [he, new] at hm
  exact hf hm

theorem addDirectories_spec {p : List Text} {a : Tree} (ha : addDirectories tree p = some a) :
    tree ⊆ a ∧ (∀ e ∈ a, e ∈ tree ∨ e.1 ∈ p ∧ e.2 = .directory) ∧
    (∀ path ∈ p, (path, Node.directory) ∈ a) ∧
    ((tree.map Prod.fst).Nodup → (a.map Prod.fst).Nodup) := by
  induction p generalizing tree with
  | nil =>
    cases ha
    exact ⟨List.Subset.refl _, fun _ => .inl, by simp, id⟩
  | cons path p ih =>
    rw [addDirectories] at ha
    split at ha
    next hn =>
      obtain ⟨hk, ho, hp, hd⟩ := ih ha
      have hfr := fresh_of_lookup (Option.isNone_iff_eq_none.mpr hn)
      refine ⟨fun e hm => hk (List.mem_append_left _ hm), fun e hm => ?_,
        List.forall_mem_cons.mpr ⟨hk (by simp), hp⟩,
        fun hb => hd (distinct_snoc hb hfr)⟩
      rcases ho e hm with old | ⟨hi, is⟩
      · rcases List.mem_append.mp old with old | new
        · exact .inl old
        · rw [List.mem_singleton.mp new]
          exact .inr ⟨List.mem_cons_self, rfl⟩
      · exact .inr ⟨List.mem_cons_of_mem _ hi, is⟩
    next hf =>
      obtain ⟨hk, ho, hp, hd⟩ := ih ha
      refine ⟨hk, fun e hm => ?_,
        List.forall_mem_cons.mpr ⟨hk (BundleLemmas.mem_of_lookup hf), hp⟩, hd⟩
      exact (ho e hm).imp_right fun ⟨hi, is⟩ => ⟨List.mem_cons_of_mem _ hi, is⟩
    next => cases ha

/-! ### Paths -/

theorem mem_parents {p : Text} : p ∈ parents path ↔ ∃ r, path = p ++ '/' :: r := by
  unfold parents
  rw [List.mem_filterMap]
  constructor
  · rintro ⟨i, -, hc⟩
    split at hc
    next hs =>
      cases hc
      refine ⟨path.drop (i + 1), ?_⟩
      obtain ⟨hb, is⟩ := List.getElem?_eq_some_iff.mp hs
      rw [← is, List.getElem_cons_drop, List.take_append_drop]
    next => cases hc
  · rintro ⟨r, rfl⟩
    refine ⟨p.length, by simp, ?_⟩
    simp

theorem parents_trans {p a : Text} (hi : a ∈ parents p)
    (ho : p ∈ parents path) : a ∈ parents path := by
  obtain ⟨r, rfl⟩ := mem_parents.mp hi
  obtain ⟨r', rfl⟩ := mem_parents.mp ho
  exact mem_parents.mpr ⟨_, by rw [List.append_assoc]; rfl⟩

theorem top_name (path : Text) :
    '/' ∉ path ∨ ∃ n ∈ parents path, '/' ∉ n ∧ isUnder n path = true := by
  by_cases hn : '/' ∈ path
  · obtain ⟨n, r, rfl, top⟩ := List.eq_append_cons_of_mem hn
    refine .inr ⟨n, mem_parents.mpr ⟨r, rfl⟩, top, ?_⟩
    rw [isUnder, Bool.or_eq_true, List.isPrefixOf_iff_prefix]
    exact .inr ⟨r, by simp⟩
  · exact .inl hn

theorem under_entryName (hc : tree.IsClosed) :
    ∀ en ∈ tree, ∃ n ∈ entryNames tree, isUnder n en.1 = true := by
  intro en hm
  have hl : ∀ e ∈ tree, '/' ∉ e.1 → e.1 ∈ entryNames tree := by
    intro e hi top
    rw [entryNames, List.mem_insertionSort, List.mem_filter]
    exact ⟨List.mem_map_of_mem hi, decide_eq_true top⟩
  rcases top_name en.1 with top | ⟨n, hp, top, hu⟩
  · exact ⟨_, hl en hm top, by simp [isUnder]⟩
  · exact ⟨n, hl _ (hc en hm n hp) top, hu⟩

theorem key_head (d : ContentDigest)
    (is : path = deriveCanonicalObjectKey d ∨ path ∈ parents (deriveCanonicalObjectKey d))
    :
    path.head? = some 'o' := by
  have hh : (deriveCanonicalObjectKey d).head? = some 'o' := rfl
  rcases is with rfl | ha
  · exact hh
  · obtain ⟨r, key⟩ := mem_parents.mp ha
    rw [key] at hh
    cases path with
    | nil => cases hh
    | cons c path => exact hh

end TreeLemmas

open TreeLemmas

/-! ## Copying -/

section Copying

variable {Rest : Type} (sha256 : Bytes → ContentDigest)
  (pgDump : CanonicalDatabase Rest → Bytes)

def ManifestObjectEntry.Describes (entry : ManifestObjectEntry) (bytes : Bytes) : Prop :=
  bytes.length = entry.sizeBytes ∧ (sha256 bytes).hexadecimal = entry.contentSha256

/-- The staging directory of a call that has `pending` objects to read, `writes` to write and
`copied` behind it. -/
structure Staged (snapshot : Snapshot Rest) (pending : List ExpectedObject)
    (writes : List ObjectWrite) (copied : List ManifestObjectEntry) (tree : Tree) : Prop where
  distinct : (tree.map Prod.fst).Nodup
  closed : tree.IsClosed
  dump : (postgresDumpRelativePath, freshFile (pgDump snapshot.database)) ∈ tree
  held : ∀ entry ∈ copied, ∃ bytes,
    (entry.relativePath, freshFile bytes) ∈ tree ∧ entry.Describes sha256 bytes
  accounted : ∀ entry ∈ tree,
    (entry.2 = .directory ∧
      entry.1 ∈ registeredDirectoryPaths (copied.map ManifestObjectEntry.relativePath)) ∨
    ((∃ bytes, entry.2 = freshFile bytes) ∧
      (entry.1 = postgresDumpRelativePath ∨
        entry.1 ∈ copied.map ManifestObjectEntry.relativePath))
  verified : ∀ write ∈ writes, write.entry.Describes sha256 write.bytes
  split : (pending.map objectEntry ++ writes.map ObjectWrite.entry ++ copied).Perm
    (snapshot.referencedObjects.map objectEntry)

variable {sha256 pgDump} {snapshot : Snapshot Rest} {pending : List ExpectedObject}
  {writes : List ObjectWrite} {copied : List ManifestObjectEntry} {tree : Tree}

theorem staged_dump (snapshot : Snapshot Rest) :
    Staged sha256 pgDump snapshot snapshot.referencedObjects [] []
      [(postgresDumpRelativePath, freshFile (pgDump snapshot.database))] where
  distinct := List.nodup_singleton _
  closed e hm path ha := by
    have hn : parents postgresDumpRelativePath = [] := by decide
    rw [List.mem_singleton.mp hm, hn] at ha
    cases ha
  dump := List.mem_cons_self
  held := by simp
  accounted e hm := by
    rw [List.mem_singleton.mp hm]
    exact .inr ⟨⟨_, rfl⟩, .inl rfl⟩
  verified := by simp
  split := by simp

theorem Staged.readObject (hs : Staged sha256 pgDump snapshot pending writes copied tree)
    {e : ExpectedObject} {bytes : Bytes} (hm : e ∈ pending)
    (hd : (objectEntry e).Describes sha256 bytes) :
    Staged sha256 pgDump snapshot (pending.erase e)
      (⟨objectEntry e, bytes⟩ :: writes) copied tree where
  distinct := hs.distinct
  closed := hs.closed
  dump := hs.dump
  held := hs.held
  accounted := hs.accounted
  verified := List.forall_mem_cons.mpr ⟨hd, hs.verified⟩
  split := by
    have hv := (List.perm_cons_erase hm).map objectEntry
    refine ((List.Perm.append_right copied ?_).trans hs.split)
    exact List.perm_middle.trans (hv.symm.append_right _)

theorem Staged.writeObject (hs : Staged sha256 pgDump snapshot pending writes copied tree)
    {w : ObjectWrite} {a : Tree} (hm : w ∈ writes)
    (had : addObject tree w.entry.relativePath w.bytes = some a) :
    Staged sha256 pgDump snapshot pending (writes.erase w) (w.entry :: copied) a := by
  obtain ⟨b, hds, hfi⟩ := Option.bind_eq_some_iff.mp had
  obtain ⟨hk, ho, hpr, hdt⟩ := addDirectories_spec hds
  obtain ⟨rfl, hf⟩ := addFile_spec hfi
  have hg : tree ⊆ b ++ [(w.entry.relativePath, freshFile w.bytes)] :=
    fun e hi => List.mem_append_left _ (hk hi)
  have ha : ∀ path ∈ parents w.entry.relativePath,
      (path, Node.directory) ∈ b ++ [(w.entry.relativePath, freshFile w.bytes)] :=
    fun path hi => List.mem_append_left _ (hpr path hi)
  have hdi : registeredDirectoryPaths ((w.entry :: copied).map ManifestObjectEntry.relativePath) =
        parents w.entry.relativePath ++
          registeredDirectoryPaths (copied.map ManifestObjectEntry.relativePath) := by
    rw [registeredDirectoryPaths, List.map_cons, List.flatMap_cons]
    rfl
  refine ⟨distinct_snoc (hdt hs.distinct) hf, ?_, hg hs.dump, ?_, ?_, ?_, ?_⟩
  · intro e hi path hp
    rcases List.mem_append.mp hi with old | new
    · rcases ho e old with hb | ⟨hd, -⟩
      · exact hg (hs.closed e hb path hp)
      · exact ha path (parents_trans hp hd)
    · rw [List.mem_singleton.mp new] at hp
      exact ha path hp
  · refine List.forall_mem_cons.mpr ⟨⟨w.bytes, by simp, hs.verified w hm⟩, ?_⟩
    intro e hi
    obtain ⟨bytes, hh, hde⟩ := hs.held e hi
    exact ⟨bytes, hg hh, hde⟩
  · intro e hi
    rw [hdi, List.map_cons]
    rcases List.mem_append.mp hi with old | new
    · rcases ho e old with hb | ⟨hd, is⟩
      · rcases hs.accounted e hb with ⟨is, hr⟩ | ⟨is, hr⟩
        · exact .inl ⟨is, List.mem_append_right _ hr⟩
        · exact .inr ⟨is, hr.imp_right (List.mem_cons_of_mem _)⟩
      · exact .inl ⟨is, List.mem_append_left _ hd⟩
    · rw [List.mem_singleton.mp new]
      exact .inr ⟨⟨_, rfl⟩, .inr List.mem_cons_self⟩
  · exact fun o hi => hs.verified o (List.mem_of_mem_erase hi)
  · have hv := (List.perm_cons_erase hm).map ObjectWrite.entry
    refine List.Perm.trans ?_ hs.split
    refine List.perm_middle.trans ?_
    rw [← List.cons_append]
    refine List.Perm.append_right copied ?_
    exact List.perm_middle.symm.trans (hv.symm.append_left _)

end Copying

/-! ## The published tree -/

section Publishing

variable {Rest : Type} (sha256 : Bytes → ContentDigest) (restCount : Rest → String → Nat)
  (pgDump : CanonicalDatabase Rest → Bytes) (job : Job)

/-- What a publication of a snapshot sets out to leave. -/
structure Publication (snapshot : Snapshot Rest) (manifest : RecoveryManifest) (target : Tree) :
    Prop where
  evidence :
    readQuiescedSnapshot restCount snapshot.database snapshot.serverVersion = some snapshot
  revision : snapshot.database.schemaHead = postgresqlSchemaRevision
  assembled : ∃ staged copied now rawManifest, Staged sha256 pgDump snapshot [] [] copied staged ∧
    manifest = createManifest job snapshot (dumpEntry sha256 (pgDump snapshot.database)) copied now ∧
    encodeManifest manifest = .ok rawManifest ∧
    target = staged ++ [(manifestRelativePath, freshFile rawManifest),
      (sidecarRelativePath, freshFile (sidecarBytes sha256 rawManifest))]

end Publishing

namespace TreeLemmas

theorem hexadecimal_injective {a b : ContentDigest} (he : a.hexadecimal = b.hexadecimal) :
    a = b := by
  cases a
  cases b
  cases he
  rfl

theorem objectEntry_rules {e : ExpectedObject} {row : SourceStore.ContentObject}
    (hh : hydrateExpectedObject row = some e) : EntryRules (objectEntry e) where
  derived := ⟨e.contentDigest, dif_pos e.contentDigest.canonical, rfl, rfl⟩
  media := by
    rw [show CanonicalMediaType.parse (objectEntry e).mediaType = some e.mediaType
      from dif_pos e.mediaType.canonical]
    rfl
  bounded := by
    unfold hydrateExpectedObject at hh
    split at hh
    next hb =>
      split at hh
      next d m _ _ =>
        split at hh
        · cases hh
          exact hb
        · cases hh
      next => cases hh
    next => cases hh

theorem lockOrder_perm : snapshotLockOrder.Perm canonicalCountTables := by decide

theorem sortMembers_idempotent {β : Type} (ms : List (Text × β)) :
    Json.sortMembers (Json.sortMembers ms) = Json.sortMembers ms := by
  have hto : Std.Total fun m n : Text × β => Json.utf16 m.1 ≤ Json.utf16 n.1 :=
    ⟨fun m n => le_total _ _⟩
  have ht : IsTrans (Text × β) fun m n => Json.utf16 m.1 ≤ Json.utf16 n.1 := ⟨fun _ _ _ => le_trans⟩
  exact (List.pairwise_insertionSort _ ms).insertionSort_eq

theorem createManifest_rules {Rest : Type} {sha256 : Bytes → ContentDigest}
    {restCount : Rest → String → Nat} {job : Job} {snapshot : Snapshot Rest} {bytes : Bytes}
    {copied : List ManifestObjectEntry} {now : Timestamp}
    (he : readQuiescedSnapshot restCount snapshot.database snapshot.serverVersion = some snapshot)
    (hr : snapshot.database.schemaHead = postgresqlSchemaRevision)
    (all : copied.Perm (snapshot.referencedObjects.map objectEntry)) :
    KeepsRules (createManifest job snapshot (dumpEntry sha256 bytes) copied now) := by
  obtain ⟨-, hm, -, hdi⟩ := hydrated_iff he
  obtain ⟨_, _, hc⟩ := Option.map_eq_some_iff.mp he
  have ho : ∀ e, e ∈ (createManifest job snapshot (dumpEntry sha256 bytes) copied
      now).objects ↔ e ∈ copied := fun e => List.mem_insertionSort _
  refine ⟨job.version7, hr, rfl, ?_, ⟨canonicalCountTables, List.mem_singleton.mpr rfl, ?_⟩,
    sortMembers_idempotent _, ?_, ?_⟩
  · obtain ⟨hl, hex⟩ := BundleLemmas.digest_hex (sha256 bytes)
    show isLowercaseHex64 (sha256 bytes).hexadecimal = true
    rw [isLowercaseHex64, Bool.and_eq_true, decide_eq_true_eq, List.all_eq_true]
    exact ⟨hl, hex⟩
  · have hn : snapshot.tableCounts.map Prod.fst = snapshotLockOrder.map String.toList := by
      rw [← hc]
      show (CanonicalDatabase.readTableCounts _ _ _).map Prod.fst = _
      rw [CanonicalDatabase.readTableCounts, List.map_map]
      rfl
    have hso : (Json.sortMembers snapshot.tableCounts).Perm snapshot.tableCounts :=
      List.perm_insertionSort _ _
    exact (hso.map Prod.fst).trans (hn ▸ lockOrder_perm.map String.toList)
  · intro e hme
    obtain ⟨ex, hi, rfl⟩ := List.mem_map.mp (all.mem_iff.mp ((ho e).mp hme))
    obtain ⟨row, -, hh⟩ := (hm ex).mp hi
    exact objectEntry_rules hh
  · have hto : Std.Total fun a b : ManifestObjectEntry => a.contentSha256 ≤ b.contentSha256 :=
      ⟨fun a b => le_total _ _⟩
    have ht : IsTrans ManifestObjectEntry fun a b => a.contentSha256 ≤ b.contentSha256 :=
      ⟨fun _ _ _ => le_trans⟩
    have hon : (snapshot.referencedObjects.map objectEntry).Pairwise
        fun a b => a.contentSha256 ≠ b.contentSha256 := by
      rw [List.pairwise_map]
      exact hdi.imp fun hd hs => hd (hexadecimal_injective hs)
    have ha : (createManifest job snapshot (dumpEntry sha256 bytes) copied now).objects.Pairwise
        fun a b => a.contentSha256 ≠ b.contentSha256 := by
      refine ((List.perm_insertionSort _ copied).trans all).symm.pairwise hon ?_
      exact fun hd hs => hd hs.symm
    exact (List.Pairwise.and (List.pairwise_insertionSort _ copied) ha).imp
      fun ⟨le, ne⟩ => lt_of_le_of_ne le ne

end TreeLemmas

section Published

variable {Rest : Type} {sha256 : Bytes → ContentDigest} {restCount : Rest → String → Nat}
  {pgDump : CanonicalDatabase Rest → Bytes} {job : Job} {snapshot : Snapshot Rest}
  {manifest : RecoveryManifest} {target part : Tree} {recursionLimit : Nat}

theorem Staged.all_copied {copied : List ManifestObjectEntry}
    (hs : Staged sha256 pgDump snapshot [] [] copied part) :
    copied.Perm (snapshot.referencedObjects.map objectEntry) := hs.split

theorem Staged.head_of_path {copied : List ManifestObjectEntry}
    (hs : Staged sha256 pgDump snapshot [] [] copied part) {path : Text}
    (hm : path ∈ part.map Prod.fst) : path.head? = some 'o' ∨ path.head? = some 'p' := by
  obtain ⟨en, hi, rfl⟩ := List.mem_map.mp hm
  have hk : ∀ p ∈ copied.map ManifestObjectEntry.relativePath,
      ∃ d, p = deriveCanonicalObjectKey d := by
    intro p hp
    obtain ⟨e, hc, rfl⟩ := List.mem_map.mp hp
    obtain ⟨ex, -, rfl⟩ := List.mem_map.mp (hs.all_copied.mem_iff.mp hc)
    exact ⟨ex.contentDigest, rfl⟩
  rcases hs.accounted en hi with ⟨-, hd⟩ | ⟨-, hdu | ho⟩
  · obtain ⟨p, hp, hpa⟩ := List.mem_flatMap.mp hd
    obtain ⟨d, rfl⟩ := hk p hp
    exact .inl (key_head d (.inr hpa))
  · rw [hdu]
    exact .inr rfl
  · obtain ⟨d, is⟩ := hk _ ho
    exact .inl (key_head d (.inl is))

theorem Publication.distinct
    (hp : Publication sha256 restCount pgDump job snapshot manifest target) :
    (target.map Prod.fst).Nodup := by
  obtain ⟨s, copied, _, rm, tree, -, -, rfl⟩ := hp.assembled
  have ha : ∀ path, path.head? = some 'm' → path ∉ s.map Prod.fst := by
    intro path hh hm
    rcases tree.head_of_path hm with ho | ho
    · rw [hh] at ho
      cases ho
    · rw [hh] at ho
      cases ho
  have hon : ((s ++ [(manifestRelativePath, freshFile rm)]).map Prod.fst).Nodup :=
    distinct_snoc tree.distinct (ha manifestRelativePath rfl)
  have ht : ((s ++ [(manifestRelativePath, freshFile rm)] ++
      [(sidecarRelativePath, freshFile (sidecarBytes sha256 rm))]).map Prod.fst).Nodup :=
    distinct_snoc hon ?_
  · rwa [List.append_assoc] at ht
  · rw [List.map_append, List.mem_append, List.map_singleton, List.mem_singleton]
    rintro (old | he)
    · exact ha sidecarRelativePath rfl old
    · exact absurd (show sidecarRelativePath = manifestRelativePath from he) (by decide)

theorem Publication.closed
    (hpu : Publication sha256 restCount pgDump job snapshot manifest target) :
    target.IsClosed := by
  obtain ⟨s, copied, _, rm, tree, -, -, rfl⟩ := hpu.assembled
  intro e hm path hp
  rcases List.mem_append.mp hm with old | new
  · exact List.mem_append_left _ (tree.closed e old path hp)
  · simp only [List.mem_cons, List.not_mem_nil, or_false] at new
    rcases new with rfl | rfl
    · have hn : parents manifestRelativePath = [] := by decide
      rw [hn] at hp
      cases hp
    · have hn : parents sidecarRelativePath = [] := by decide
      rw [hn] at hp
      cases hp

theorem Publication.rules (hp : Publication sha256 restCount pgDump job snapshot manifest target) :
    KeepsRules manifest := by
  obtain ⟨s, copied, now, rm, tree, rfl, -, -⟩ := hp.assembled
  exact createManifest_rules hp.evidence hp.revision tree.all_copied

theorem Publication.counts (hp : Publication sha256 restCount pgDump job snapshot manifest target) :
    manifest.postgresqlSchemaRevision = snapshot.database.schemaHead ∧ manifest.canonicalCounts =
        Json.sortMembers (snapshot.database.readTableCounts restCount snapshotLockOrder) := by
  obtain ⟨s, copied, now, rm, tree, rfl, -, -⟩ := hp.assembled
  obtain ⟨_, _, hc⟩ := Option.map_eq_some_iff.mp hp.evidence
  exact ⟨rfl, congrArg Json.sortMembers (congrArg Snapshot.tableCounts hc).symm⟩

theorem Publication.described
    (hp : Publication sha256 restCount pgDump job snapshot manifest target)
    (hd : 3 ≤ recursionLimit) :
    ∃ rm, (manifestRelativePath, freshFile rm) ∈ target ∧
      parseManifest recursionLimit rm = .ok manifest ∧
      (sidecarRelativePath, freshFile (sidecarBytes sha256 rm)) ∈ target := by
  have hr := hp.rules
  obtain ⟨s, copied, now, rm, -, rfl, he, rfl⟩ := hp.assembled
  exact ⟨rm, by simp, parseManifest_encoded hr hd he, by simp⟩

theorem Publication.dump (hp : Publication sha256 restCount pgDump job snapshot manifest target) :
    (postgresDumpRelativePath, freshFile (pgDump snapshot.database)) ∈ target ∧
      manifest.postgresDump = dumpEntry sha256 (pgDump snapshot.database) ∧
      manifest.bundleId = job.bundleId := by
  obtain ⟨s, copied, now, rm, tree, rfl, -, rfl⟩ := hp.assembled
  exact ⟨List.mem_append_left _ tree.dump, rfl, rfl⟩

theorem Publication.mem_objects
    (hp : Publication sha256 restCount pgDump job snapshot manifest target)
    (e : ManifestObjectEntry) :
    e ∈ manifest.objects ↔ ∃ ex ∈ snapshot.referencedObjects, objectEntry ex = e := by
  obtain ⟨s, copied, now, rm, tree, rfl, -, rfl⟩ := hp.assembled
  show e ∈ copied.insertionSort _ ↔ _
  rw [List.mem_insertionSort, tree.all_copied.mem_iff, List.mem_map]

theorem Publication.object (hp : Publication sha256 restCount pgDump job snapshot manifest target)
    {e : ManifestObjectEntry} (hm : e ∈ manifest.objects) :
    ∃ bytes, (e.relativePath, freshFile bytes) ∈ target ∧ e.Describes sha256 bytes := by
  obtain ⟨s, copied, now, rm, tree, rfl, -, rfl⟩ := hp.assembled
  obtain ⟨bytes, hh, hd⟩ := tree.held e ((List.mem_insertionSort _).mp hm)
  exact ⟨bytes, List.mem_append_left _ hh, hd⟩

theorem Publication.accounted
    (hp : Publication sha256 restCount pgDump job snapshot manifest target) :
    ∀ e ∈ target, (e.2 = .directory ∧ e.1 ∈ registeredDirectoryPaths (registeredFiles manifest)) ∨
      (∃ bytes, e.2 = freshFile bytes) ∧ e.1 ∈ registeredFiles manifest := by
  obtain ⟨s, copied, now, rm, tree, rfl, -, rfl⟩ := hp.assembled
  have hr : ∀ path ∈ copied.map ManifestObjectEntry.relativePath,
      path ∈ registeredFiles (createManifest job snapshot
        (dumpEntry sha256 (pgDump snapshot.database)) copied now) := by
    intro path hm
    obtain ⟨e, hi, rfl⟩ := List.mem_map.mp hm
    exact List.mem_append_right _ (List.mem_map_of_mem ((List.mem_insertionSort _).mpr hi))
  intro e hm
  rcases List.mem_append.mp hm with old | new
  · rcases tree.accounted e old with ⟨is, hd⟩ | ⟨is, hdu | ho⟩
    · obtain ⟨path, hpa, hpt⟩ := List.mem_flatMap.mp hd
      exact .inl ⟨is, List.mem_flatMap.mpr ⟨path, hr path hpa, hpt⟩⟩
    · exact .inr ⟨is, by simp [registeredFiles, hdu]⟩
    · exact .inr ⟨is, hr _ ho⟩
  · simp only [List.mem_cons, List.not_mem_nil, or_false] at new
    rcases new with rfl | rfl
    · exact .inr ⟨⟨_, rfl⟩, by simp [registeredFiles]⟩
    · exact .inr ⟨⟨_, rfl⟩, by simp [registeredFiles]⟩

theorem Publication.registered
    (hp : Publication sha256 restCount pgDump job snapshot manifest target)
    (hde : 3 ≤ recursionLimit) (he : ∀ e, e ∈ target ↔ e ∈ part) :
    Registered sha256 recursionLimit part job.bundleId manifest := by
  have hon := hp.distinct
  have hw : part ⊆ target := fun e hm => (he e).mpr hm
  have hh : ∀ {path bytes}, (path, freshFile bytes) ∈ target → part.Holds path bytes :=
    fun hm => holds_of_mem hon hw ((he _).mp hm)
  obtain ⟨rm, hma, hpa, hs⟩ := hp.described hde
  obtain ⟨hdu, hre, hi⟩ := hp.dump
  refine ⟨?_, ?_, ?_, ⟨rm, hh hma, hpa, hh hs⟩, hi,
    ⟨_, hh hdu, by rw [hre]; rfl, by rw [hre]; rfl⟩, ?_⟩
  · intro e hm
    rcases hp.accounted e (hw hm) with ⟨is, -⟩ | ⟨⟨bytes, is⟩, -⟩
    · rw [is]
      exact Node.noConfusion
    · rw [is]
      exact Node.noConfusion
  · intro path
    rw [BundleLemmas.mem_filePaths]
    constructor
    · rintro ⟨hf, hm⟩
      rcases hp.accounted _ (hw hm) with ⟨is, -⟩ | ⟨-, hr⟩
      · cases is
      · exact hr
    · intro hr
      have hf : ∀ {bytes}, (path, freshFile bytes) ∈ target →
          ∃ hf, (path, Node.file hf) ∈ part := fun hm => ⟨_, (he _).mp hm⟩
      rcases List.mem_append.mp hr with hfi | ho
      · simp only [List.mem_cons, List.not_mem_nil, or_false] at hfi
        rcases hfi with rfl | rfl | rfl
        · exact hf hma
        · exact hf hs
        · exact hf hdu
      · obtain ⟨e, hm, rfl⟩ := List.mem_map.mp ho
        obtain ⟨bytes, hhe, -⟩ := hp.object hm
        exact hf hhe
  · intro path hm
    obtain ⟨e, hin, is⟩ := List.mem_filterMap.mp hm
    rcases hp.accounted e (hw hin) with ⟨hn, hr⟩ | ⟨⟨bytes, hn⟩, -⟩
    · rw [hn] at is
      cases is
      exact hr
    · rw [hn] at is
      cases is
  · intro e hm
    obtain ⟨bytes, hhe, hd⟩ := hp.object hm
    exact ⟨bytes, hh hhe, hd⟩

theorem Publication.complete
    (hp : Publication sha256 restCount pgDump job snapshot manifest target)
    (hde : 3 ≤ recursionLimit) (hw : part ⊆ target) {bi : BundleId}
    {r : RecoveryManifest}
    (hr : Registered sha256 recursionLimit part bi r) :
    r = manifest ∧ Complete sha256 pgDump snapshot part := by
  have ho := hp.distinct
  obtain ⟨rm, hm, hpa, -⟩ := hp.described hde
  have he : r = manifest := by
    obtain ⟨raw, hh, hp', -⟩ := hr.described
    rw [bytes_of_holds ho hw hm hh, hpa] at hp'
    exact (Except.ok.inj hp').symm
  subst he
  refine ⟨rfl, ?_, ?_⟩
  · obtain ⟨hdu, -, -⟩ := hp.dump
    obtain ⟨bytes, hh, -⟩ := hr.dump
    rwa [bytes_of_holds ho hw hdu hh] at hh
  · intro e hme
    obtain ⟨bytes, hh, hs, hd⟩ := hr.objects (objectEntry e)
      ((hp.mem_objects _).mpr ⟨e, hme, rfl⟩)
    exact ⟨bytes, hh, hs, hexadecimal_injective hd⟩

end Published

end PersonalOs.Recovery
