import PersonalOs.Recovery.Bundle
import PersonalOs.Recovery.Snapshot

/-!
# One run of `create_backup`

The coroutine with its nested contexts, the worker threads it starts and the world around them. A
thread keeps running when its awaiter is cancelled; a stop of the process ends them all. Every file
operation that another party can see half done is a step of its own.

The identifier of the bundle and the nonce of the staging directory are fresh. What `pg_dump`
writes of a snapshot is a parameter. A torn file is what a failed write leaves behind.
-/

namespace PersonalOs.Recovery

open ExclusionPolicy (ContentDigest ExpectedObject deriveCanonicalObjectKey utf8)

/-! ## Trees under construction -/

/-- A file as the writer creates it. -/
def freshFile (bytes : Bytes) : Node := .file ⟨bytes, 1⟩

/-- `_write_file_exclusively`. -/
def addFile (tree : Tree) (path : Text) (bytes : Bytes) : Option Tree :=
  if (tree.lookup path).isNone then some (tree ++ [(path, freshFile bytes)]) else none

/-- `_create_directories_private`. -/
def addDirectories (tree : Tree) : List Text → Option Tree
  | [] => some tree
  | path :: paths =>
    match tree.lookup path with
    | none => addDirectories (tree ++ [(path, .directory)]) paths
    | some .directory => addDirectories tree paths
    | some _ => none

/-- `_write_object_file_exclusively`. -/
def addObject (tree : Tree) (key : Text) (bytes : Bytes) : Option Tree :=
  (addDirectories tree (parents key)).bind fun tree => addFile tree key bytes

/-- A file that a failed write may have left. -/
def tear (tree : Tree) (path : Text) : Option Bytes → Tree
  | none => tree
  | some bytes => (addFile tree path bytes).getD tree

/-- A path is an entry or lies beneath it. -/
def isUnder (name path : Text) : Bool := path = name || (name ++ ['/']).isPrefixOf path

/-- `sorted(directory.iterdir())`. -/
def entryNames (tree : Tree) : List Text :=
  ((tree.map Prod.fst).filter fun path => '/' ∉ path).insertionSort (· ≤ ·)

/-- Take out one path nothing lies beneath. -/
def dropPath (tree : Tree) (path : Text) : Option Tree :=
  if (tree.lookup path).isSome ∧ tree.all fun entry => !(path ++ ['/']).isPrefixOf entry.1 then
    some (tree.filter fun entry => entry.1 ≠ path)
  else none

/-! ## The state -/

/-- The values of one call. -/
structure Job where
  bundleId : BundleId
  version7 : bundleId.isVersion7 = true
  nonce : Text
  environment : RecoveryEnvironment

def Job.finalName (job : Job) : Text := job.bundleId.text

def Job.stagingName (job : Job) : Text :=
  ".staging-".toList ++ job.bundleId.text ++ '-' :: job.nonce

/-- A verified object handed to a worker thread. -/
structure ObjectWrite where
  entry : ManifestObjectEntry
  bytes : Bytes
deriving DecidableEq

/-- Where `_publish_staged_bundle` stands. -/
inductive PublishStage
  | writingManifest
  | writingSidecar
  | syncing
  | claiming
  | permitting
  | listing
  | moving (entries : List Text)
  | droppingStaging
  | syncingRoot
  | rollingBack
deriving DecidableEq

structure Publisher where
  manifest : RecoveryManifest
  stage : PublishStage
deriving DecidableEq

/-- Where the coroutine stands. `discarding` awaits a removal of the staging directory and knows
how many more the enclosing handlers will start; `finalized` says that `finalize` has returned. -/
inductive Phase
  | opening
  | admitting
  | staging
  | dumping (imported : Bool)
  | copying (dump : ManifestDumpEntry) (pending : List ExpectedObject)
      (copied : List ManifestObjectEntry)
  | publishing
  | discarding (further : Nat)
  | closing (finalized : Bool)
  | reporting
  | returned
  | raised (finalized : Bool)
  | stopped
deriving DecidableEq

/-- The world and the call. `removers` are the threads removing the staging directory, the newest
first, each with whether it has opened the object tree; `target` records the tree that the
publication set out to publish. -/
structure BackupState (Rest : Type) where
  database : CanonicalDatabase Rest
  bucket : Bucket
  root : BackupRoot
  snapshot : Option (Snapshot Rest)
  sessionAlive : Bool
  phase : Phase
  makerRunning : Bool
  writes : List ObjectWrite
  publisher : Option Publisher
  removers : List Bool
  isAbandoned : Bool
  target : Option Tree

variable {Rest : Type}

def BackupState.setRoot (s : BackupState Rest) (name : Text) (entry : Option RootEntry) :
    BackupState Rest :=
  { s with root := fun n => if n = name then entry else s.root n }

/-- The tree of a directory beneath the root. -/
def BackupState.tree (s : BackupState Rest) (name : Text) : Option Tree :=
  match s.root name with
  | some (.directory tree) => some tree
  | _ => none

/-- Hand the removal of the staging directory to a thread and wait for it. -/
def BackupState.discard (s : BackupState Rest) (further : Nat) : BackupState Rest :=
  { s with phase := .discarding further, removers := false :: s.removers }

/-- The awaited removal is over. -/
def BackupState.afterRemoval (s : BackupState Rest) : BackupState Rest :=
  match s.phase with
  | .discarding 0 => { s with phase := .closing false }
  | .discarding (further + 1) => s.discard further
  | _ => s

inductive BackupAction (Rest : Type)
  | commit (database : CanonicalDatabase Rest)
  | changeBucket (bucket : Bucket)
  | changeOther (name : Text) (entry : Option RootEntry)
  | endSession
  | stop
  | openSnapshot (serverVersion : Text)
  | failOpening
  | admitStaging (freeSpace : Bool)
  | importSnapshot
  | finishDump
  | failDump (torn : Option Bytes)
  | readObject (expected : ExpectedObject)
  | failCopy
  | observePendingWriters (count : Nat) (now : Timestamp)
  | closeSnapshot (succeeds : Bool)
  | report (succeeds : Bool)
  | cancel
  | makeStaging (succeeds : Bool)
  | writeObject (write : ObjectWrite)
  | failWrite (write : ObjectWrite) (torn : Option Bytes)
  | publish
  | failPublish (torn : Option Bytes)
  | rollBack (path : Text)
  | finishRollback (complete : Bool)
  | enterObjects (index : Nat)
  | removeStaged (index : Nat) (path : Text)
  | removeMoved (index : Nat) (path : Text)
  | finishRemoval (index : Nat)
  | failRemoval (index : Nat)

/-! ## Steps -/

def objectEntry (expected : ExpectedObject) : ManifestObjectEntry where
  contentSha256 := expected.contentDigest.hexadecimal
  objectKey := deriveCanonicalObjectKey expected.contentDigest
  sizeBytes := expected.sizeBytes
  mediaType := expected.mediaType.value
  relativePath := deriveCanonicalObjectKey expected.contentDigest

def backupObjectReadConcurrency : Nat := 4

section Steps

variable (sha256 : Bytes → ContentDigest) (restCount : Rest → String → Nat)
  (pgDump : CanonicalDatabase Rest → Bytes) (job : Job)

/-- The receipt of a completed dump. -/
def dumpEntry (bytes : Bytes) : ManifestDumpEntry :=
  ⟨postgresDumpRelativePath, bytes.length, (sha256 bytes).hexadecimal⟩

/-- The manifest of a call that has copied all objects. -/
def createManifest (snapshot : Snapshot Rest) (dump : ManifestDumpEntry)
    (copied : List ManifestObjectEntry) (now : Timestamp) : RecoveryManifest where
  bundleId := job.bundleId
  createdAt := now
  sourceEnvironment := job.environment
  postgresqlServerVersion := pyString snapshot.serverVersion
  postgresqlSchemaRevision := snapshot.database.schemaHead
  postgresDump := dump
  canonicalCounts := Json.sortMembers snapshot.tableCounts
  objects := copied.insertionSort fun a b => a.contentSha256 ≤ b.contentSha256
  contract := .v4

def sidecarBytes (rawManifest : Bytes) : Bytes := utf8 (manifestDigest sha256 rawManifest) ++ [10]

def publicationTarget (staged : Tree) (manifest : RecoveryManifest) : Option Tree :=
  match encodeManifest manifest with
  | .error _ => none
  | .ok rawManifest => some (staged ++ [(manifestRelativePath, freshFile rawManifest),
      (sidecarRelativePath, freshFile (sidecarBytes sha256 rawManifest))])

def BackupState.stageFile (s : BackupState Rest) (path : Text) (bytes : Bytes) :
    Option (BackupState Rest) :=
  (s.tree job.stagingName).bind fun tree =>
    (addFile tree path bytes).map fun tree => s.setRoot job.stagingName (some (.directory tree))

/-- A failed write to the staging directory. -/
def BackupState.tearFile (s : BackupState Rest) (path : Text) (torn : Option Bytes) :
    BackupState Rest :=
  match s.tree job.stagingName with
  | none => s
  | some tree => s.setRoot job.stagingName (some (.directory (tear tree path torn)))

def BackupState.setStage (s : BackupState Rest) (publisher : Publisher) (stage : PublishStage) :
    BackupState Rest :=
  { s with publisher := some { publisher with stage := stage } }

/-- The thread has failed, its rollback over. -/
def BackupState.failPublication (s : BackupState Rest) : BackupState Rest :=
  let s := { s with publisher := none }
  if s.phase = .publishing then s.discard 2 else s

/-- `_publish_staged_bundle`: the next operation, succeeding. -/
def publishStep (s : BackupState Rest) (publisher : Publisher) : Option (BackupState Rest) :=
  match publisher.stage with
  | .writingManifest =>
    match encodeManifest publisher.manifest with
    | .error _ => none
    | .ok rawManifest => (s.stageFile job manifestRelativePath rawManifest).map fun s =>
        s.setStage publisher .writingSidecar
  | .writingSidecar =>
    match encodeManifest publisher.manifest with
    | .error _ => none
    | .ok rawManifest => (s.stageFile job sidecarRelativePath (sidecarBytes sha256 rawManifest)).map
        fun s => s.setStage publisher .syncing
  | .syncing => (s.tree job.stagingName).map fun _ => s.setStage publisher .claiming
  | .claiming =>
    if (s.root job.finalName).isNone then
      some ((s.setRoot job.finalName (some (.directory []))).setStage publisher .permitting)
    else none
  | .permitting => some (s.setStage publisher .listing)
  | .listing => (s.tree job.stagingName).map fun tree =>
      s.setStage publisher (.moving (entryNames tree))
  | .moving [] => some (s.setStage publisher .droppingStaging)
  | .moving (entry :: entries) =>
    match s.tree job.stagingName, s.tree job.finalName with
    | some staged, some final =>
      if (staged.lookup entry).isSome then
        let s := s.setRoot job.stagingName
          (some (.directory (staged.filter fun e => !isUnder entry e.1)))
        let s := s.setRoot job.finalName
          (some (.directory (final ++ staged.filter fun e => isUnder entry e.1)))
        some (s.setStage publisher (.moving entries))
      else none
    | _, _ => none
  | .droppingStaging =>
    if s.tree job.stagingName = some [] then
      some ((s.setRoot job.stagingName none).setStage publisher .syncingRoot)
    else none
  | .syncingRoot =>
    let s := { s with publisher := none }
    some (if s.phase = .publishing then { s with phase := .closing true } else s)
  | .rollingBack => none

/-- `_publish_staged_bundle`: the next operation, failing. What fails after the moves have begun
is rolled back; before the claim, and in giving the claimed directory its permissions, nothing is. -/
def failPublishStep (s : BackupState Rest) (publisher : Publisher) (torn : Option Bytes) :
    Option (BackupState Rest) :=
  match publisher.stage with
  | .writingManifest => some (s.tearFile job manifestRelativePath torn).failPublication
  | .writingSidecar => some (s.tearFile job sidecarRelativePath torn).failPublication
  | .syncing | .claiming | .permitting => some s.failPublication
  | .listing | .moving _ | .droppingStaging | .syncingRoot =>
    some (s.setStage publisher .rollingBack)
  | .rollingBack => none

/-- A cancellation arrives at the await the call stands at. -/
def cancelStep (s : BackupState Rest) : Option (BackupState Rest) :=
  match s.phase with
  | .opening | .admitting | .staging => some { s with phase := .closing false }
  | .dumping _ | .copying _ _ _ => some (s.discard 1)
  | .publishing => some (s.discard 2)
  | .discarding _ => some s.afterRemoval
  | .closing finalized => some { s with phase := .raised finalized }
  | .reporting | .returned | .raised _ | .stopped => none

/-- A remover ends; the call goes on when it was the one awaited. -/
def endRemoval (s : BackupState Rest) (index : Nat) : BackupState Rest :=
  let s := { s with removers := s.removers.eraseIdx index }
  if index = 0 then s.afterRemoval else s

def step (s : BackupState Rest) : BackupAction Rest → Option (BackupState Rest)
  | .commit database => some { s with database := database }
  | .changeBucket bucket => some { s with bucket := bucket }
  | .changeOther name entry =>
    if name ≠ job.finalName ∧ name ≠ job.stagingName then some (s.setRoot name entry) else none
  | .endSession => some { s with sessionAlive := false }
  | .stop => some { s with phase := .stopped, makerRunning := false, writes := [],
                           publisher := none, removers := [] }
  | .openSnapshot serverVersion =>
    if s.phase = .opening then
      match readQuiescedSnapshot restCount s.database serverVersion with
      | none => some { s with phase := .closing false, sessionAlive := true }
      | some snapshot =>
        some { s with phase := .admitting, snapshot := some snapshot, sessionAlive := true }
    else none
  | .failOpening => if s.phase = .opening then some { s with phase := .closing false } else none
  | .admitStaging freeSpace =>
    if s.phase = .admitting then
      match s.snapshot with
      | none => none
      | some snapshot =>
        if snapshot.database.schemaHead = postgresqlSchemaRevision ∧
            (s.root job.finalName).isNone ∧ freeSpace = true then
          some { s with phase := .staging, makerRunning := true }
        else some { s with phase := .closing false }
    else none
  | .importSnapshot =>
    if s.phase = .dumping false ∧ s.sessionAlive = true then some { s with phase := .dumping true }
    else none
  | .finishDump =>
    match s.phase, s.snapshot with
    | .dumping true, some snapshot =>
      let bytes := pgDump snapshot.database
      (s.stageFile job postgresDumpRelativePath bytes).map fun s =>
        { s with phase := .copying (dumpEntry sha256 bytes) snapshot.referencedObjects [] }
    | _, _ => none
  | .failDump torn =>
    match s.phase with
    | .dumping _ => some ((s.tearFile job postgresDumpRelativePath torn).discard 1)
    | _ => none
  | .readObject expected =>
    match s.phase with
    | .copying dump pending copied =>
      if expected ∈ pending ∧ s.writes.length < backupObjectReadConcurrency then
        match verifyToSpool sha256 s.bucket expected with
        | .error _ => none
        | .ok bytes =>
          some { s with phase := .copying dump (pending.erase expected) copied,
                        writes := ⟨objectEntry expected, bytes⟩ :: s.writes }
      else none
    | _ => none
  | .failCopy =>
    match s.phase with
    | .copying _ _ _ => some (s.discard 1)
    | _ => none
  | .observePendingWriters count now =>
    match s.phase, s.snapshot, s.tree job.stagingName with
    | .copying dump [] copied, some snapshot, some tree =>
      if s.writes = [] then
        if count = 0 then
          let manifest := createManifest job snapshot dump copied now
          some { s with phase := .publishing, publisher := some ⟨manifest, .writingManifest⟩,
                        target := publicationTarget sha256 tree manifest }
        else some (s.discard 1)
      else none
    | _, _, _ => none
  | .closeSnapshot succeeds =>
    match s.phase with
    | .closing finalized =>
      if succeeds = true then
        if s.sessionAlive = true then
          some { s with phase := if finalized then .reporting else .raised false }
        else none
      else some { s with phase := .raised finalized }
    | _ => none
  | .report succeeds =>
    if s.phase = .reporting then
      some { s with phase := if succeeds then .returned else .raised true }
    else none
  | .cancel => cancelStep s
  | .makeStaging succeeds =>
    if s.makerRunning = true then
      if succeeds = true then
        if (s.root job.stagingName).isNone then
          let s := { s.setRoot job.stagingName (some (.directory [])) with makerRunning := false }
          some (if s.phase = .staging then { s with phase := .dumping false } else s)
        else none
      else
        let s := { s with makerRunning := false }
        some (if s.phase = .staging then { s with phase := .closing false } else s)
    else none
  | .writeObject write =>
    if write ∈ s.writes then
      match s.root job.stagingName with
      | some .other => none
      | _ =>
        let tree := (s.tree job.stagingName).getD []
        (addObject tree write.entry.relativePath write.bytes).map fun tree =>
          let s := { s.setRoot job.stagingName (some (.directory tree)) with
                     writes := s.writes.erase write }
          match s.phase with
          | .copying dump pending copied =>
            { s with phase := .copying dump pending (write.entry :: copied) }
          | _ => s
    else none
  | .failWrite write torn =>
    if write ∈ s.writes then
      let s := { s.tearFile job write.entry.relativePath torn with
                 writes := s.writes.erase write }
      match s.phase with
      | .copying _ _ _ => some (s.discard 1)
      | _ => some s
    else none
  | .publish => s.publisher.bind (publishStep sha256 job s)
  | .failPublish torn => s.publisher.bind fun publisher => failPublishStep job s publisher torn
  | .rollBack path =>
    match s.publisher, s.tree job.finalName with
    | some ⟨_, .rollingBack⟩, some tree =>
      (dropPath tree path).map fun tree => s.setRoot job.finalName (some (.directory tree))
    | _, _ => none
  | .finishRollback complete =>
    match s.publisher with
    | some ⟨_, .rollingBack⟩ =>
      if complete = true then
        if s.tree job.finalName = some [] then
          some (s.setRoot job.finalName none).failPublication
        else none
      else some s.failPublication
    | _ => none
  | .enterObjects index =>
    match s.removers[index]?, s.tree job.stagingName with
    | some _, some tree =>
      if tree.lookup "objects".toList = some .directory then
        some { s with removers := s.removers.set index true }
      else none
    | _, _ => none
  | .removeStaged index path =>
    match s.removers[index]?, s.tree job.stagingName with
    | some _, some tree =>
      (dropPath tree path).map fun tree => s.setRoot job.stagingName (some (.directory tree))
    | _, _ => none
  | .removeMoved index path =>
    match s.removers[index]?, s.tree job.finalName with
    | some true, some tree =>
      if "objects/".toList.isPrefixOf path then
        (dropPath tree path).map fun tree => s.setRoot job.finalName (some (.directory tree))
      else none
    | _, _ => none
  | .finishRemoval index =>
    match s.removers[index]? with
    | none => none
    | some _ =>
      if s.isAbandoned = true then some (endRemoval s index)
      else if s.root job.stagingName = none ∨ s.tree job.stagingName = some [] then
        some (endRemoval { s.setRoot job.stagingName none with isAbandoned := true } index)
      else none
  | .failRemoval index =>
    match s.removers[index]? with
    | none => none
    | some _ => some (endRemoval s index)

def machine : Machine (BackupState Rest) (BackupAction Rest) where
  Init s := s.phase = .opening ∧ s.root job.finalName = none ∧ s.root job.stagingName = none ∧
    s.snapshot = none ∧ s.makerRunning = false ∧ s.writes = [] ∧ s.publisher = none ∧
    s.removers = [] ∧ s.target = none
  step := step sha256 restCount pgDump job

end Steps

end PersonalOs.Recovery
