import PersonalOs.Recovery.ManifestRoundTrips

/-!
# Offline verification of a bundle

`bundle.py`: a bundle directory as its tree of files, and `verify_offline`, which accepts it only
when the tree is the one its manifest registers. A directory stands by the relative POSIX paths
beneath it. The second barrier against hard links, the map of inodes, is left out: the first one
refuses what it would.
-/

namespace PersonalOs.Recovery

open Json
open ExclusionPolicy (ContentDigest deriveCanonicalObjectKey utf8)

/-! ## Trees -/

structure RegularFile where
  bytes : Bytes
  linkCount : Nat
deriving DecidableEq

/-- What a path stands for. `other` is a symlink, a reparse point, a device or a FIFO. -/
inductive Node
  | directory
  | file (content : RegularFile)
  | other
deriving DecidableEq

/-- What lies beneath a directory, by relative path. -/
abbrev Tree := List (Text × Node)

/-- What a name beneath the backup root stands for. -/
inductive RootEntry
  | directory (tree : Tree)
  | other
deriving DecidableEq

abbrev BackupRoot := Text → Option RootEntry

/-- A tree has a file at a path, under no other name. -/
def Tree.Holds (tree : Tree) (path : Text) (bytes : Bytes) : Prop :=
  ∃ file : RegularFile, tree.lookup path = some (.file file) ∧ file.linkCount ≤ 1 ∧
    file.bytes = bytes

def manifestRelativePath : Text := "manifest.json".toList

def sidecarRelativePath : Text := "manifest.sha256".toList

def objectTreePrefix : Text := "objects/sha256/".toList

/-! ## Verification -/

section Verification

variable (sha256 : Bytes → ContentDigest) (recursionLimit : Nat)

def manifestDigest (rawManifest : Bytes) : Text := (sha256 (rawManifest ++ [10])).hexadecimal

def canonicalBundleIdText (bundleId : BundleId) : Except BundleFailure Text :=
  if bundleId.isVersion7 then .ok bundleId.text else reject .bundleIdInvalid

/-- `_require_final_directory`. A staging name is no identifier. -/
def requireFinalDirectory : Option RootEntry → Except BundleFailure Tree
  | some (.directory tree) => .ok tree
  | _ => reject .fileTreeMismatch

def Tree.filePaths (tree : Tree) : List Text :=
  (tree.filterMap fun entry =>
    match entry.2 with
    | .file _ => some entry.1
    | _ => none).dedup

def Tree.directoryPaths (tree : Tree) : List Text :=
  tree.filterMap fun entry =>
    match entry.2 with
    | .directory => some entry.1
    | _ => none

def collectBundleFileTree (tree : Tree) : Except BundleFailure (List Text × List Text) :=
  if tree.any fun entry => entry.2 = .other then reject .fileTreeMismatch
  else .ok (tree.filePaths, tree.directoryPaths)

/-- The directories above a path. -/
def parents (path : Text) : List Text :=
  (List.range path.length).filterMap fun i =>
    if path[i]? = some '/' then some (path.take i) else none

def registeredDirectoryPaths (registeredFiles : List Text) : List Text :=
  registeredFiles.flatMap parents

def streamFileBytes (tree : Tree) (path : Text) : Except BundleFailure Bytes :=
  match tree.lookup path with
  | some (.file file) =>
    if 1 < file.linkCount then reject .fileTreeMismatch else .ok file.bytes
  | _ => reject .fileTreeMismatch

def isHexByte (byte : UInt8) : Bool := (48 ≤ byte && byte ≤ 57) || (97 ≤ byte && byte ≤ 102)

def verifySidecar (sidecar rawManifest : Bytes) : Except BundleFailure Unit :=
  if sidecar.length ≠ 65 ∨ sidecar.getLast? ≠ some 10 ∨ !(sidecar.take 64).all isHexByte then
    reject .checksumMismatch
  else if sidecar.take 64 ≠ utf8 (manifestDigest sha256 rawManifest) then reject .checksumMismatch
  else .ok ()

def registeredFiles (manifest : RecoveryManifest) : List Text :=
  [manifestRelativePath, sidecarRelativePath, postgresDumpRelativePath] ++
    manifest.objects.map ManifestObjectEntry.relativePath

def verifyFile (tree : Tree) (path : Text) (sizeBytes : Nat) (digest : Text) :
    Except BundleFailure Unit := do
  let bytes ← streamFileBytes tree path
  if bytes.length ≠ sizeBytes ∨ (sha256 bytes).hexadecimal ≠ digest then reject .checksumMismatch
  else return ()

def discoveredFileSize (tree : Tree) (path : Text) : Except BundleFailure Nat :=
  match tree.lookup path with
  | some (.file file) => .ok file.bytes.length
  | _ => reject .fileTreeMismatch

/-- `verify_offline` on the tree of the final directory. -/
def verifyTree (tree : Tree) (bundleId : BundleId) : Except BundleFailure RecoveryManifest := do
  let (fileTree, directoryTree) ← collectBundleFileTree tree
  if manifestRelativePath ∉ fileTree ∨ postgresDumpRelativePath ∉ fileTree then
    reject .fileTreeMismatch
  else if sidecarRelativePath ∉ fileTree then reject .sidecarMissing
  else
    let rawManifest ← streamFileBytes tree manifestRelativePath
    let sidecar ← streamFileBytes tree sidecarRelativePath
    verifySidecar sha256 sidecar rawManifest
    let manifest ← parseManifest recursionLimit rawManifest
    if manifest.bundleId ≠ bundleId then reject .bundleIdInvalid
    else
      let registered := registeredFiles manifest
      if !(fileTree.all (· ∈ registered) && registered.all (· ∈ fileTree)) then
        reject .fileTreeMismatch
      else if !directoryTree.all (· ∈ registeredDirectoryPaths registered) then
        reject .fileTreeMismatch
      else
        let sizes ← (fileTree.filter fun path => objectTreePrefix.isPrefixOf path).mapM
          (discoveredFileSize tree)
        verifyFile sha256 tree postgresDumpRelativePath manifest.postgresDump.sizeBytes
          manifest.postgresDump.sha256
        let _ ← manifest.objects.mapM fun entry =>
          verifyFile sha256 tree entry.relativePath entry.sizeBytes entry.contentSha256
        if sizes.length ≠ manifest.objects.length ∨
            sizes.sum ≠ (manifest.objects.map ManifestObjectEntry.sizeBytes).sum then
          reject .checksumMismatch
        else return manifest

def verifyOffline (root : BackupRoot) (bundleId : BundleId) :
    Except BundleFailure RecoveryManifest := do
  let name ← canonicalBundleIdText bundleId
  let tree ← requireFinalDirectory (root name)
  verifyTree sha256 recursionLimit tree bundleId

end Verification

/-! ## What is accepted -/

/-- The tree a manifest registers: its files with their sizes and digests, and nothing else. -/
structure Registered (sha256 : Bytes → ContentDigest) (recursionLimit : Nat) (tree : Tree)
    (bundleId : BundleId) (manifest : RecoveryManifest) : Prop where
  regular : ∀ entry ∈ tree, entry.2 ≠ .other
  files : ∀ path, path ∈ tree.filePaths ↔ path ∈ registeredFiles manifest
  directories : ∀ path ∈ tree.directoryPaths,
    path ∈ registeredDirectoryPaths (registeredFiles manifest)
  described : ∃ rawManifest, tree.Holds manifestRelativePath rawManifest ∧
    parseManifest recursionLimit rawManifest = .ok manifest ∧
    tree.Holds sidecarRelativePath (utf8 (manifestDigest sha256 rawManifest) ++ [10])
  identified : manifest.bundleId = bundleId
  dump : ∃ bytes, tree.Holds postgresDumpRelativePath bytes ∧
    bytes.length = manifest.postgresDump.sizeBytes ∧
    (sha256 bytes).hexadecimal = manifest.postgresDump.sha256
  objects : ∀ entry ∈ manifest.objects, ∃ bytes, tree.Holds entry.relativePath bytes ∧
    bytes.length = entry.sizeBytes ∧ (sha256 bytes).hexadecimal = entry.contentSha256

namespace BundleLemmas

variable {sha256 : Bytes → ContentDigest} {recursionLimit : Nat} {tree : Tree}

variable {path : Text}

theorem streamFileBytes_ok {b : Bytes} : streamFileBytes tree path = .ok b ↔ tree.Holds path b := by
  unfold streamFileBytes Tree.Holds
  split
  next f hf =>
    split
    next ha =>
      constructor
      · intro hr
        cases hr
      · rintro ⟨f', hf', hs, -⟩
        rw [hf] at hf'
        cases hf'
        omega
    next hs =>
      constructor
      · intro hr
        cases hr
        exact ⟨f, hf, by omega, rfl⟩
      · rintro ⟨f', hf', -, rfl⟩
        rw [hf] at hf'
        cases hf'
        rfl
  next hn =>
    constructor
    · intro hr
      cases hr
    · rintro ⟨f, hf, -⟩
      exact absurd hf (hn f)

theorem hexByte {c : Char} (hex : isLowercaseHex c = true) :
    ∃ b, String.utf8EncodeChar c = [b] ∧ isHexByte b = true := by
  have hc : ∀ n, (48 ≤ n ∧ n ≤ 57 ∨ 97 ≤ n ∧ n ≤ 102) →
      ∃ b, String.utf8EncodeChar (Char.ofNat n) = [b] ∧ isHexByte b = true := by
    rintro n (⟨low, hh⟩ | ⟨low, hh⟩) <;> interval_cases n <;> exact ⟨_, rfl, rfl⟩
  have he := Char.ofNat_toNat c
  simp only [isLowercaseHex, Bool.or_eq_true, Bool.and_eq_true, decide_eq_true_eq] at hex
  rw [← he]
  exact hc c.toNat hex

theorem hexBytes {t : Text} (hex : ∀ c ∈ t, isLowercaseHex c = true) :
    (utf8 t).length = t.length ∧ (utf8 t).all isHexByte = true := by
  induction t with
  | nil => exact ⟨rfl, rfl⟩
  | cons c t ih =>
    obtain ⟨b, hs, hh⟩ := hexByte (hex c List.mem_cons_self)
    obtain ⟨hl, all⟩ := ih fun d hm => hex d (List.mem_cons_of_mem _ hm)
    have hf : utf8 (c :: t) = b :: utf8 t := by
      rw [utf8, List.flatMap_cons, hs]
      rfl
    rw [hf]
    exact ⟨by rw [List.length_cons, hl, List.length_cons],
      by rw [List.all_cons, hh, all, Bool.and_self]⟩

theorem digest_hex (d : ContentDigest) :
    d.hexadecimal.length = 64 ∧ ∀ c ∈ d.hexadecimal, isLowercaseHex c = true := by
  have hc := d.canonical
  simp only [ExclusionPolicy.isContentDigest, Bool.and_eq_true, decide_eq_true_eq,
    List.all_eq_true] at hc
  exact hc

theorem verifySidecar_ok {s rm : Bytes} : verifySidecar sha256 s rm = .ok () ↔
      s = utf8 (manifestDigest sha256 rm) ++ [10] := by
  obtain ⟨hlo, hex⟩ := digest_hex (sha256 (rm ++ [10]))
  obtain ⟨hl, all⟩ := hexBytes hex
  rw [hlo] at hl
  unfold verifySidecar manifestDigest
  constructor
  · intro ha
    split at ha
    · cases ha
    next hs =>
      split at ha
      · cases ha
      next he =>
        simp only [not_or, not_not] at hs he
        have hsp : s = s.take 64 ++ s.drop 64 := (List.take_append_drop 64 s).symm
        obtain ⟨b, hla⟩ : ∃ b, s.drop 64 = [b] :=
          List.length_eq_one_iff.mp (by rw [List.length_drop, hs.1])
        have hn := hs.2.1
        rw [hsp, hla, List.getLast?_concat] at hn
        cases hn
        rw [hsp, hla, he]
  · rintro rfl
    rw [if_neg, if_neg]
    · rw [not_not, List.take_left' hl]
    · simp [hl, List.take_left' hl, all]

theorem verifyFile_ok {d : Text} {sb : Nat} : verifyFile sha256 tree path sb d = .ok () ↔
      ∃ b, tree.Holds path b ∧ b.length = sb ∧ (sha256 b).hexadecimal = d := by
  constructor
  · intro ha
    obtain ⟨b, hr, ha⟩ := bind_ok ha
    split at ha
    · cases ha
    next he =>
      rw [not_or, not_not, not_not] at he
      exact ⟨b, streamFileBytes_ok.mp hr, he⟩
  · rintro ⟨b, hh, rfl, rfl⟩
    simp [verifyFile, streamFileBytes_ok.mpr hh, bind, Except.bind, pure, Except.pure]

theorem mapM_unit_ok {α ε : Type} {f : α → Except ε Unit} {xs : List α} :
    (∃ u, xs.mapM f = .ok u) ↔ ∀ x ∈ xs, f x = .ok () := by
  induction xs with
  | nil => exact ⟨fun _ => by simp, fun _ => ⟨[], rfl⟩⟩
  | cons x xs ih =>
    rw [List.forall_mem_cons, ← ih, List.mapM_cons]
    constructor
    · rintro ⟨u, hm⟩
      obtain ⟨_, hfi, hm⟩ := bind_ok hm
      obtain ⟨r, hf, -⟩ := bind_ok hm
      exact ⟨hfi, r, hf⟩
    · rintro ⟨hfi, r, hf⟩
      exact ⟨() :: r, by rw [hfi, hf]; rfl⟩

theorem mem_filePaths : path ∈ tree.filePaths ↔ ∃ f, (path, Node.file f) ∈ tree := by
  unfold Tree.filePaths
  rw [List.mem_dedup, List.mem_filterMap]
  constructor
  · rintro ⟨⟨nm, n⟩, hm, is⟩
    cases n with
    | file f =>
      cases is
      exact ⟨f, hm⟩
    | directory => cases is
    | other => cases is
  · rintro ⟨f, hm⟩
    exact ⟨_, hm, rfl⟩

theorem mem_of_lookup {n : Node} (hf : tree.lookup path = some n) : (path, n) ∈ tree := by
  obtain ⟨b, a, rfl, -⟩ := List.lookup_eq_some_iff.mp hf
  exact List.mem_append_right _ List.mem_cons_self

theorem filePath_of_holds {b : Bytes} (hh : tree.Holds path b) : path ∈ tree.filePaths := by
  obtain ⟨f, hf, -⟩ := hh
  exact mem_filePaths.mpr ⟨f, mem_of_lookup hf⟩

/-! ### Totals -/

theorem parse_hexadecimal {v : Text} {d : ContentDigest}
    (hp : ContentDigest.parse v = some d) : d.hexadecimal = v := by
  unfold ContentDigest.parse at hp
  split at hp
  · cases hp
    rfl
  · cases hp

theorem key_pieces (d : ContentDigest) : deriveCanonicalObjectKey d =
    objectTreePrefix ++ (d.hexadecimal.take 2 ++ '/' :: ((d.hexadecimal.drop 2).take 2 ++
      '/' :: d.hexadecimal)) := by
  unfold deriveCanonicalObjectKey objectTreePrefix
  generalize "objects/sha256/".toList = s
  simp only [List.append_assoc, List.cons_append]

theorem drop_key (d : ContentDigest) : (deriveCanonicalObjectKey d).drop 21 = d.hexadecimal := by
  obtain ⟨hl, -⟩ := digest_hex d
  have hf : objectTreePrefix.length = 15 := rfl
  rw [key_pieces]
  generalize objectTreePrefix = s at hf
  have hp : s ++ (d.hexadecimal.take 2 ++ '/' :: ((d.hexadecimal.drop 2).take 2 ++
      '/' :: d.hexadecimal)) = (s ++ d.hexadecimal.take 2 ++ ['/'] ++
        (d.hexadecimal.drop 2).take 2 ++ ['/']) ++ d.hexadecimal := by
    simp
  rw [hp]
  refine List.drop_left' ?_
  simp [hl, hf]

theorem key_injective {a b : ContentDigest}
    (he : deriveCanonicalObjectKey a = deriveCanonicalObjectKey b) :
    a.hexadecimal = b.hexadecimal := by
  rw [← drop_key a, ← drop_key b, he]

theorem key_prefix (d : ContentDigest) :
    objectTreePrefix.isPrefixOf (deriveCanonicalObjectKey d) = true := by
  rw [List.isPrefixOf_iff_prefix, key_pieces]
  exact List.prefix_append _ _

theorem objectPaths_perm {m : RecoveryManifest} (he : ∀ e ∈ m.objects, EntryRules e)
    (ha : m.objects.Pairwise fun a b => a.contentSha256 < b.contentSha256)
    (hfi : ∀ path, path ∈ tree.filePaths ↔ path ∈ registeredFiles m) :
    (tree.filePaths.filter fun path => objectTreePrefix.isPrefixOf path).Perm
      (m.objects.map ManifestObjectEntry.relativePath) := by
  have hd : (m.objects.map ManifestObjectEntry.relativePath).Nodup := by
    rw [List.Nodup, List.pairwise_map]
    refine ha.imp_of_mem fun {a b} hft hs hl hsa => ?_
    obtain ⟨d, hr, -, path⟩ := (he a hft).derived
    obtain ⟨d', hr', -, hp'⟩ := (he b hs).derived
    rw [path, hp'] at hsa
    have heq := key_injective hsa
    rw [parse_hexadecimal hr, parse_hexadecimal hr'] at heq
    exact absurd hl (by rw [heq]; exact lt_irrefl _)
  have hon : tree.filePaths.Nodup := List.nodup_dedup _
  refine (List.perm_ext_iff_of_nodup (hon.filter _) hd).mpr fun path => ?_
  rw [List.mem_filter, hfi, registeredFiles, List.mem_append]
  constructor
  · rintro ⟨hf | ho, hi⟩
    · simp only [List.mem_cons, List.not_mem_nil, or_false] at hf
      rcases hf with rfl | rfl | rfl <;> exact absurd hi (by decide)
    · exact ho
  · intro ho
    obtain ⟨e, hm, rfl⟩ := List.mem_map.mp ho
    obtain ⟨d, -, -, path⟩ := (he e hm).derived
    exact ⟨.inr ho, by rw [path]; exact key_prefix d⟩

theorem discovered_totals {m : RecoveryManifest} (he : ∀ e ∈ m.objects, EntryRules e)
    (ha : m.objects.Pairwise fun a b => a.contentSha256 < b.contentSha256)
    (hf : ∀ path, path ∈ tree.filePaths ↔ path ∈ registeredFiles m)
    (hsi : ∀ e ∈ m.objects, ∃ bs, tree.Holds e.relativePath bs ∧ bs.length = e.sizeBytes) :
    ∃ f, (tree.filePaths.filter fun path => objectTreePrefix.isPrefixOf path).mapM
        (discoveredFileSize tree) = .ok f ∧ f.length = m.objects.length ∧
      f.sum = (m.objects.map ManifestObjectEntry.sizeBytes).sum := by
  have hp := objectPaths_perm he ha hf
  let s : Text → Nat := fun path =>
    match discoveredFileSize tree path with
    | .ok n => n
    | .error _ => 0
  have hs : ∀ e ∈ m.objects, discoveredFileSize tree e.relativePath = .ok e.sizeBytes := by
    intro e hm
    obtain ⟨bs, ⟨fl, f, -, rfl⟩, hl⟩ := hsi e hm
    rw [discoveredFileSize, f, ← hl]
  have hma : ∀ pa : List Text, (∀ path ∈ pa, ∃ n, discoveredFileSize tree path = .ok n) →
      pa.mapM (discoveredFileSize tree) = .ok (pa.map s) := by
    intro pa ht
    induction pa with
    | nil => rfl
    | cons path pa ih =>
      obtain ⟨n, is⟩ := ht path List.mem_cons_self
      have hv : s path = n := by simp only [s, is]
      rw [List.mapM_cons, is, ih fun p hm => ht p (List.mem_cons_of_mem _ hm), List.map_cons, hv]
      rfl
  refine ⟨_, hma _ ?_, ?_, ?_⟩
  · intro path hm
    obtain ⟨e, hi, rfl⟩ := List.mem_map.mp (hp.mem_iff.mp hm)
    exact ⟨_, hs e hi⟩
  · rw [List.length_map, hp.length_eq, List.length_map]
  · rw [(hp.map s).sum_nat, List.map_map]
    refine congrArg List.sum (List.map_congr_left fun e hm => ?_)
    simp only [Function.comp_apply, s, hs e hm]

end BundleLemmas

open BundleLemmas

variable {sha256 : Bytes → ContentDigest} {recursionLimit : Nat} {tree : Tree}

theorem verifyTree_ok_iff {bi : BundleId} {m : RecoveryManifest} :
    verifyTree sha256 recursionLimit tree bi = .ok m ↔
      Registered sha256 recursionLimit tree bi m := by
  constructor
  · intro ha
    obtain ⟨⟨ft, dt⟩, hc, ha⟩ := bind_ok ha
    unfold collectBundleFileTree at hc
    split at hc
    · cases hc
    next hr =>
      cases hc
      simp only at ha
      split at ha
      · cases ha
      split at ha
      · cases ha
      obtain ⟨rm, raw, ha⟩ := bind_ok ha
      obtain ⟨s, hse, ha⟩ := bind_ok ha
      obtain ⟨_, hsu, ha⟩ := bind_ok ha
      obtain ⟨m', hp, ha⟩ := bind_ok ha
      split at ha
      · cases ha
      next hi =>
        split at ha
        · cases ha
        next hf =>
          split at ha
          · cases ha
          next hd =>
            obtain ⟨hsiz, -, ha⟩ := bind_ok ha
            obtain ⟨_, hdp, ha⟩ := bind_ok ha
            obtain ⟨u, ho, ha⟩ := bind_ok ha
            split at ha
            · cases ha
            next =>
              cases ha
              simp only [Bool.not_eq_true', Bool.not_eq_false, Bool.and_eq_true, List.all_eq_true,
                decide_eq_true_eq] at hf hd
              have hss := verifySidecar_ok.mp hsu
              subst hss
              refine ⟨?_, ?_, hd, ⟨rm, streamFileBytes_ok.mp raw, hp,
                streamFileBytes_ok.mp hse⟩, not_not.mp hi, verifyFile_ok.mp hdp, ?_⟩
              · intro e hm is
                exact hr (List.any_eq_true.mpr ⟨e, hm, decide_eq_true is⟩)
              · exact fun path => ⟨hf.1 path, hf.2 path⟩
              · exact fun e hm =>
                  verifyFile_ok.mp (mapM_unit_ok.mp ⟨u, ho⟩ e hm)
  · rintro ⟨hr, hf, hd, ⟨rm, raw, hp, hse⟩, hi, hdp, ho⟩
    obtain ⟨he, has⟩ := entries_of_parsed hp
    obtain ⟨db, hds, _⟩ := id hdp
    obtain ⟨f, hsiz, hco, ht⟩ := discovered_totals he has hf
      fun e hm => (ho e hm).imp fun b hh => ⟨hh.1, hh.2.1⟩
    obtain ⟨u, hv⟩ := mapM_unit_ok.mpr fun e hm =>
      verifyFile_ok.mpr (ho e hm)
    have hc : collectBundleFileTree tree = .ok (tree.filePaths, tree.directoryPaths) := by
      rw [collectBundleFileTree, if_neg]
      rw [List.any_eq_true]
      rintro ⟨e, hm, is⟩
      exact hr e hm (of_decide_eq_true is)
    have hsa : (tree.filePaths.all (· ∈ registeredFiles m) &&
        (registeredFiles m).all (· ∈ tree.filePaths)) = true := by
      simp only [Bool.and_eq_true, List.all_eq_true, decide_eq_true_eq]
      exact ⟨fun path => (hf path).mp, fun path => (hf path).mpr⟩
    have hs : tree.directoryPaths.all
        (· ∈ registeredDirectoryPaths (registeredFiles m)) = true := by
      simpa only [List.all_eq_true, decide_eq_true_eq] using hd
    have hpr := filePath_of_holds raw
    have hsi := filePath_of_holds hse
    have hdt := filePath_of_holds hds
    have hdu := verifyFile_ok.mpr hdp
    simp only [verifyTree, hc, hpr, hsi, hdt,
      streamFileBytes_ok.mpr raw, streamFileBytes_ok.mpr hse, verifySidecar_ok.mpr rfl, hp,
      hi, hsa, hs, hsiz, hdu, hv, hco, ht, bind,
      Except.bind, pure, Except.pure, not_true_eq_false, or_self, ne_eq, Bool.not_true,
      Bool.false_eq_true, ↓reduceIte]

/-- What is accepted is exactly a directory, under the identifier's name, of the files its
manifest registers. -/
theorem verifyOffline_ok_iff {r : BackupRoot} {bi : BundleId}
    {m : RecoveryManifest} :
    verifyOffline sha256 recursionLimit r bi = .ok m ↔
      bi.isVersion7 = true ∧ ∃ tree, r bi.text = some (.directory tree) ∧
        Registered sha256 recursionLimit tree bi m := by
  constructor
  · intro ha
    obtain ⟨n, hc, ho⟩ := bind_ok ha
    obtain ⟨tree, hf, hve⟩ := bind_ok ho
    unfold canonicalBundleIdText at hc
    split at hc
    next hv =>
      cases hc
      unfold requireFinalDirectory at hf
      split at hf
      next t' is =>
        cases hf
        exact ⟨hv, _, is, verifyTree_ok_iff.mp hve⟩
      next => cases hf
    next => cases hc
  · rintro ⟨hv, tree, is, hr⟩
    simp only [verifyOffline, canonicalBundleIdText, hv, is, requireFinalDirectory, bind,
      Except.bind, ↓reduceIte]
    exact verifyTree_ok_iff.mpr hr

end PersonalOs.Recovery
