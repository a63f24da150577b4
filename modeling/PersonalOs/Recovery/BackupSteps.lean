import PersonalOs.Recovery.StagedTrees

/-!
# What a step of a backup can do

One inversion of the step function; every invariant of a run is derived from it.
-/

namespace PersonalOs.Recovery

open ExclusionPolicy (ContentDigest ExpectedObject)

variable {Rest : Type}

def SameBeside (names : List Text) (root root' : BackupRoot) : Prop :=
  ∀ name, name ∉ names → root' name = root name

/-- The directories of a root have only lost entries. -/
def Shrinks (root root' : BackupRoot) : Prop :=
  (∀ name tree', root' name = some (.directory tree') →
    ∃ tree, root name = some (.directory tree) ∧ tree' ⊆ tree) ∧
  ∀ name, root name = none → root' name = none

section Moves

variable (sha256 : Bytes → ContentDigest) (restCount : Rest → String → Nat)
  (pgDump : CanonicalDatabase Rest → Bytes) (job : Job)

/-- The cases of a step. A case that several actions share leaves the action open. -/
inductive Moves (s : BackupState Rest) : BackupAction Rest → BackupState Rest → Prop
  | world {action : BackupAction Rest} (database : CanonicalDatabase Rest) (bucket : Bucket)
      (sessionAlive : Bool) : Moves s action { s with database, bucket, sessionAlive }
  | changeOther {name : Text} {entry : Option RootEntry} (final : name ≠ job.finalName)
      (staging : name ≠ job.stagingName) : Moves s (.changeOther name entry) (s.setRoot name entry)
  | stop : Moves s .stop { s with phase := .stopped, makerRunning := false, writes := [],
                                  publisher := none, removers := [] }
  | opened {serverVersion : Text} {snapshot : Snapshot Rest} (phase : s.phase = .opening)
      (read : readQuiescedSnapshot restCount s.database serverVersion = some snapshot) :
      Moves s (.openSnapshot serverVersion)
        { s with phase := .admitting, snapshot := some snapshot, sessionAlive := true }
  | refused {action : BackupAction Rest} (sessionAlive makerRunning : Bool)
      (phase : s.phase = .opening ∨ s.phase = .admitting ∨ s.phase = .staging) :
      Moves s action { s with phase := .closing false, sessionAlive, makerRunning }
  | admitted {snapshot : Snapshot Rest} {freeSpace : Bool} (phase : s.phase = .admitting)
      (taken : s.snapshot = some snapshot)
      (revision : snapshot.database.schemaHead = postgresqlSchemaRevision) :
      Moves s (.admitStaging freeSpace) { s with phase := .staging, makerRunning := true }
  | made {succeeds : Bool} (phase : s.phase = .staging) :
      Moves s (.makeStaging succeeds) { s.setRoot job.stagingName (some (.directory [])) with
        makerRunning := false, phase := .dumping false }
  | madeLate {succeeds : Bool} {root : BackupRoot} (running : s.makerRunning = true)
      (late : s.phase ≠ .staging) (beside : SameBeside [job.stagingName] s.root root) :
      Moves s (.makeStaging succeeds) { s with root, makerRunning := false }
  | imported (phase : s.phase = .dumping false) :
      Moves s .importSnapshot { s with phase := .dumping true }
  | dumped {snapshot : Snapshot Rest} {tree after : Tree} (phase : s.phase = .dumping true)
      (taken : s.snapshot = some snapshot) (found : s.tree job.stagingName = some tree)
      (added : addFile tree postgresDumpRelativePath (pgDump snapshot.database) = some after) :
      Moves s .finishDump { s.setRoot job.stagingName (some (.directory after)) with
        phase := .copying (dumpEntry sha256 (pgDump snapshot.database))
          snapshot.referencedObjects [] }
  | read {expected : ExpectedObject} {dump : ManifestDumpEntry} {pending : List ExpectedObject}
      {copied : List ManifestObjectEntry} {bytes : Bytes}
      (phase : s.phase = .copying dump pending copied) (member : expected ∈ pending)
      (verified : verifyToSpool sha256 s.bucket expected = .ok bytes) :
      Moves s (.readObject expected)
        { s with phase := .copying dump (pending.erase expected) copied,
                 writes := ⟨objectEntry expected, bytes⟩ :: s.writes }
  | written {write : ObjectWrite} {dump : ManifestDumpEntry} {pending : List ExpectedObject}
      {copied : List ManifestObjectEntry} {after : Tree}
      (phase : s.phase = .copying dump pending copied) (member : write ∈ s.writes)
      (added : addObject ((s.tree job.stagingName).getD []) write.entry.relativePath write.bytes =
        some after) :
      Moves s (.writeObject write) { s.setRoot job.stagingName (some (.directory after)) with
        writes := s.writes.erase write, phase := .copying dump pending (write.entry :: copied) }
  | lateWrite {action : BackupAction Rest} {write : ObjectWrite} {root : BackupRoot}
      (member : write ∈ s.writes)
      (late : ∀ dump pending copied, s.phase ≠ .copying dump pending copied)
      (beside : SameBeside [job.stagingName] s.root root) :
      Moves s action { s with root, writes := s.writes.erase write }
  | discarded {action : BackupAction Rest} {root : BackupRoot} (writes : List ObjectWrite)
      (phase : (∃ imported, s.phase = .dumping imported) ∨
        ∃ dump pending copied, s.phase = .copying dump pending copied)
      (beside : SameBeside [job.stagingName] s.root root) :
      Moves s action { s with root, writes, phase := .discarding 1,
                              removers := false :: s.removers }
  | observed {now : Timestamp} {dump : ManifestDumpEntry} {copied : List ManifestObjectEntry}
      {snapshot : Snapshot Rest} {tree : Tree} (phase : s.phase = .copying dump [] copied)
      (taken : s.snapshot = some snapshot) (found : s.tree job.stagingName = some tree)
      (idle : s.writes = []) :
      Moves s (.observePendingWriters 0 now)
        { s with phase := .publishing,
                 publisher := some ⟨createManifest job snapshot dump copied now, .writingManifest⟩,
                 target := publicationTarget sha256 tree
                   (createManifest job snapshot dump copied now) }
  | cancelled (phase : s.phase = .publishing) : Moves s .cancel (s.discard 2)
  | ended {action : BackupAction Rest} {finalized : Bool} {next : Phase}
      (phase : s.phase = .closing finalized)
      (is : next = .raised finalized ∨ finalized = true ∧ next = .reporting) :
      Moves s action { s with phase := next }
  | reported {succeeds : Bool} (phase : s.phase = .reporting) :
      Moves s (.report succeeds) { s with phase := if succeeds then .returned else .raised true }
  | removal {action : BackupAction Rest} {root : BackupRoot} (removers : List Bool)
      (isAbandoned : Bool) {next : Phase}
      (removing : s.removers ≠ [] ∨ ∃ further, s.phase = .discarding further)
      (is : next = s.phase ∨ (∃ further, s.phase = .discarding further) ∧
        (next = .closing false ∨ ∃ further, next = .discarding further))
      (beside : SameBeside [job.finalName, job.stagingName] s.root root)
      (shrinks : Shrinks s.root root) :
      Moves s action { s with root, removers, isAbandoned, phase := next }
  | publish {publisher : Publisher} {t : BackupState Rest} (running : s.publisher = some publisher)
      (moved : publishStep sha256 job s publisher = some t) : Moves s .publish t
  | failPublish {publisher : Publisher} {torn : Option Bytes} {t : BackupState Rest}
      (running : s.publisher = some publisher)
      (moved : failPublishStep job s publisher torn = some t) : Moves s (.failPublish torn) t
  | rolledBack {path : Text} {manifest : RecoveryManifest} {root : BackupRoot}
      (running : s.publisher = some ⟨manifest, .rollingBack⟩)
      (beside : SameBeside [job.finalName] s.root root) (shrinks : Shrinks s.root root) :
      Moves s (.rollBack path) { s with root }
  | rollbackEnded {complete : Bool} {manifest : RecoveryManifest} {root : BackupRoot}
      (running : s.publisher = some ⟨manifest, .rollingBack⟩)
      (beside : SameBeside [job.finalName] s.root root) (shrinks : Shrinks s.root root)
      (gone : complete = true → root job.finalName = none) :
      Moves s (.finishRollback complete) { s with root }.failPublication

/-- The cases of an operation of the publishing thread. -/
inductive PublishMoves (s : BackupState Rest) (publisher : Publisher) : BackupState Rest → Prop
  | wroteManifest {rawManifest : Bytes} {staged : Tree} (stage : publisher.stage = .writingManifest)
      (encoded : encodeManifest publisher.manifest = .ok rawManifest)
      (found : s.root job.stagingName = some (.directory staged)) :
      PublishMoves s publisher ((s.setRoot job.stagingName (some (.directory
        (staged ++ [(manifestRelativePath, freshFile rawManifest)])))).setStage publisher
          .writingSidecar)
  | wroteSidecar {rawManifest : Bytes} {staged : Tree} (stage : publisher.stage = .writingSidecar)
      (encoded : encodeManifest publisher.manifest = .ok rawManifest)
      (found : s.root job.stagingName = some (.directory staged)) :
      PublishMoves s publisher ((s.setRoot job.stagingName (some (.directory
        (staged ++ [(sidecarRelativePath, freshFile (sidecarBytes sha256 rawManifest))])))).setStage
          publisher .syncing)
  | synced (stage : publisher.stage = .syncing) :
      PublishMoves s publisher (s.setStage publisher .claiming)
  | claimed (stage : publisher.stage = .claiming) :
      PublishMoves s publisher
        ((s.setRoot job.finalName (some (.directory []))).setStage publisher .permitting)
  | permitted (stage : publisher.stage = .permitting) :
      PublishMoves s publisher (s.setStage publisher .listing)
  | listed {staged : Tree} (stage : publisher.stage = .listing)
      (found : s.root job.stagingName = some (.directory staged)) :
      PublishMoves s publisher (s.setStage publisher (.moving (entryNames staged)))
  | movedAll (stage : publisher.stage = .moving []) :
      PublishMoves s publisher (s.setStage publisher .droppingStaging)
  | moved {name : Text} {names : List Text} {staged final : Tree}
      (stage : publisher.stage = .moving (name :: names))
      (isStaged : s.root job.stagingName = some (.directory staged))
      (isFinal : s.root job.finalName = some (.directory final)) :
      PublishMoves s publisher (((s.setRoot job.stagingName
        (some (.directory (staged.filter fun e => !isUnder name e.1)))).setRoot job.finalName
          (some (.directory (final ++ staged.filter fun e => isUnder name e.1)))).setStage publisher
            (.moving names))
  | dropped (stage : publisher.stage = .droppingStaging)
      (empty : s.root job.stagingName = some (.directory [])) :
      PublishMoves s publisher ((s.setRoot job.stagingName none).setStage publisher .syncingRoot)
  | finished (stage : publisher.stage = .syncingRoot) (phase : s.phase = .publishing) :
      PublishMoves s publisher { s with publisher := none, phase := .closing true }
  | finishedLate (stage : publisher.stage = .syncingRoot) (late : s.phase ≠ .publishing) :
      PublishMoves s publisher { s with publisher := none }

end Moves

namespace BackupLemmas

variable {sha256 : Bytes → ContentDigest} {restCount : Rest → String → Nat}
  {pgDump : CanonicalDatabase Rest → Bytes} {job : Job} {s t : BackupState Rest}

theorem sameBeside_refl (n : List Text) (r : BackupRoot) : SameBeside n r r := fun _ _ => rfl

theorem shrinks_refl (r : BackupRoot) : Shrinks r r :=
  ⟨fun _ tree is => ⟨tree, is, List.Subset.refl _⟩, fun _ => id⟩

variable {name : Text} {tree : Tree}

theorem sameBeside_setRoot {n : List Text} {e : Option RootEntry} (own : name ∈ n) :
    SameBeside n s.root (s.setRoot name e).root := by
  intro o hf
  refine if_neg fun he => ?_
  rw [he] at hf
  exact hf own

theorem tree_some : s.tree name = some tree ↔ s.root name = some (.directory tree) := by
  unfold BackupState.tree
  split
  next t' is => simp [is]
  next ho =>
    constructor
    · intro is
      cases is
    · intro is
      exact absurd is (ho tree)

theorem dropPath_subset {a : Tree} {p : Text} (hd : dropPath tree p = some a) : a ⊆ tree := by
  unfold dropPath at hd
  split at hd
  next =>
    cases hd
    exact List.filter_sublist.subset
  next => cases hd

theorem shrinks_drop {p : Text} {a : Tree} (hf : s.tree name = some tree)
    (hdr : dropPath tree p = some a) :
    Shrinks s.root (s.setRoot name (some (.directory a))).root := by
  have hb := tree_some.mp hf
  constructor
  · intro o t' is
    by_cases he : o = name
    · subst he
      rw [show (s.setRoot o _).root o = _ from if_pos rfl] at is
      cases is
      exact ⟨tree, hb, dropPath_subset hdr⟩
    · rw [show (s.setRoot name _).root o = _ from if_neg he] at is
      exact ⟨t', is, List.Subset.refl _⟩
  · intro o hn
    have hd : o ≠ name := by
      rintro rfl
      rw [hb] at hn
      cases hn
    rw [← hn]
    exact if_neg hd

theorem shrinks_remove : Shrinks s.root (s.setRoot name none).root := by
  constructor
  · intro o t' is
    by_cases he : o = name
    · rw [show (s.setRoot name none).root o = _ from if_pos he] at is
      cases is
    · rw [show (s.setRoot name none).root o = _ from if_neg he] at is
      exact ⟨t', is, List.Subset.refl _⟩
  · intro o hn
    by_cases he : o = name
    · exact if_pos he
    · exact (if_neg he).trans hn

theorem tearFile_root (job : Job) (s : BackupState Rest) (p : Text) (tn : Option Bytes) :
    ∃ root, SameBeside [job.stagingName] s.root root ∧ s.tearFile job p tn = { s with root } := by
  unfold BackupState.tearFile
  split
  · exact ⟨s.root, sameBeside_refl _ _, rfl⟩
  · exact ⟨_, sameBeside_setRoot (List.mem_singleton.mpr rfl), rfl⟩

theorem afterRemoval_cases (s : BackupState Rest) :
    ∃ removers n, s.afterRemoval = { s with removers, phase := n } ∧
      (n = s.phase ∨ (∃ f, s.phase = .discarding f) ∧
        (n = .closing false ∨ ∃ f, n = .discarding f)) := by
  unfold BackupState.afterRemoval
  split
  next is => exact ⟨s.removers, _, rfl, .inr ⟨⟨_, is⟩, .inl rfl⟩⟩
  next f is => exact ⟨_, _, rfl, .inr ⟨⟨_, is⟩, .inr ⟨f, rfl⟩⟩⟩
  next => exact ⟨s.removers, s.phase, rfl, .inl rfl⟩

theorem endRemoval_cases (s : BackupState Rest) (i : Nat) :
    ∃ removers n, endRemoval s i = { s with removers, phase := n } ∧
      (n = s.phase ∨ (∃ f, s.phase = .discarding f) ∧
        (n = .closing false ∨ ∃ f, n = .discarding f)) := by
  unfold endRemoval
  split
  · obtain ⟨removers, n, is, hc⟩ := afterRemoval_cases { s with removers := s.removers.eraseIdx i }
    exact ⟨removers, n, is, hc⟩
  · exact ⟨_, s.phase, rfl, .inl rfl⟩

theorem removers_open {i : Nat} {e : Bool} (hf : s.removers[i]? = some e) :
    s.removers ≠ [] ∨ ∃ f, s.phase = .discarding f := by
  left
  intro hn
  rw [hn] at hf
  cases hf

end BackupLemmas

open BackupLemmas

variable {sha256 : Bytes → ContentDigest} {restCount : Rest → String → Nat}
  {pgDump : CanonicalDatabase Rest → Bytes} {job : Job} {s t : BackupState Rest}

theorem moves_of_step {a : BackupAction Rest} (hv : step sha256 restCount pgDump job s a = some t) :
    Moves sha256 restCount pgDump job s a t := by
  have own : job.stagingName ∈ [job.stagingName] := List.mem_singleton.mpr rfl
  have hk := sameBeside_refl [job.stagingName] s.root
  cases a with
  | commit d =>
    cases hv
    exact .world d s.bucket s.sessionAlive
  | changeBucket b =>
    cases hv
    exact .world s.database b s.sessionAlive
  | endSession =>
    cases hv
    exact .world s.database s.bucket false
  | changeOther name en =>
    rw [step] at hv
    split at hv
    next ho =>
      cases hv
      exact .changeOther ho.1 ho.2
    next => cases hv
  | stop =>
    cases hv
    exact .stop
  | openSnapshot sv =>
    rw [step] at hv
    split at hv
    next hp =>
      split at hv
      next =>
        cases hv
        exact .refused true s.makerRunning (.inl hp)
      next sn hrd =>
        cases hv
        exact .opened hp hrd
    next => cases hv
  | failOpening =>
    rw [step] at hv
    split at hv
    next hp =>
      cases hv
      exact .refused s.sessionAlive s.makerRunning (.inl hp)
    next => cases hv
  | admitStaging fs =>
    rw [step] at hv
    split at hv
    next hp =>
      split at hv
      next => cases hv
      next sn ht =>
        split at hv
        next hal =>
          cases hv
          exact .admitted hp ht hal.1
        next =>
          cases hv
          exact .refused s.sessionAlive s.makerRunning (.inr (.inl hp))
    next => cases hv
  | importSnapshot =>
    rw [step] at hv
    split at hv
    next hre =>
      cases hv
      exact .imported hre.1
    next => cases hv
  | finishDump =>
    rw [step] at hv
    split at hv
    next sn hp ht =>
      obtain ⟨_, hs, rfl⟩ := Option.map_eq_some_iff.mp hv
      obtain ⟨tree, hf, hs⟩ := Option.bind_eq_some_iff.mp hs
      obtain ⟨af, ha, rfl⟩ := Option.map_eq_some_iff.mp hs
      exact .dumped hp ht hf ha
    next => cases hv
  | failDump tn =>
    rw [step] at hv
    split at hv
    next im hp =>
      cases hv
      obtain ⟨ro, hb, is⟩ := tearFile_root job s postgresDumpRelativePath tn
      rw [is]
      exact .discarded s.writes (.inl ⟨_, hp⟩) hb
    next => cases hv
  | readObject e =>
    rw [step] at hv
    split at hv
    next du p c hp =>
      split at hv
      next hre =>
        split at hv
        next => cases hv
        next bs hve =>
          cases hv
          exact .read hp hre.1 hve
      next => cases hv
    next => cases hv
  | failCopy =>
    rw [step] at hv
    split at hv
    next hp =>
      cases hv
      exact .discarded s.writes (.inr ⟨_, _, _, hp⟩) hk
    next => cases hv
  | observePendingWriters co now =>
    rw [step] at hv
    split at hv
    next du c sn tree hp ht hf =>
      split at hv
      next hid =>
        split at hv
        next hn =>
          cases hv
          subst hn
          exact .observed hp ht hf hid
        next =>
          cases hv
          exact .discarded s.writes (.inr ⟨_, _, _, hp⟩) hk
      next => cases hv
    next => cases hv
  | closeSnapshot su =>
    rw [step] at hv
    split at hv
    next f hp =>
      split at hv
      next =>
        split at hv
        next =>
          cases hv
          refine .ended hp ?_
          cases f with
          | true => exact .inr ⟨rfl, rfl⟩
          | false => exact .inl rfl
        next => cases hv
      next =>
        cases hv
        exact .ended hp (.inl rfl)
    next => cases hv
  | report su =>
    rw [step] at hv
    split at hv
    next hp =>
      cases hv
      exact .reported hp
    next => cases hv
  | cancel =>
    rw [step, cancelStep] at hv
    split at hv
    next hp =>
      cases hv
      exact .refused s.sessionAlive s.makerRunning (.inl hp)
    next hp =>
      cases hv
      exact .refused s.sessionAlive s.makerRunning (.inr (.inl hp))
    next hp =>
      cases hv
      exact .refused s.sessionAlive s.makerRunning (.inr (.inr hp))
    next hp =>
      cases hv
      exact .discarded s.writes (.inl ⟨_, hp⟩) hk
    next hp =>
      cases hv
      exact .discarded s.writes (.inr ⟨_, _, _, hp⟩) hk
    next hp =>
      cases hv
      exact .cancelled hp
    next fu hp =>
      cases hv
      obtain ⟨r, n, is, hc⟩ := afterRemoval_cases s
      rw [is]
      exact .removal r s.isAbandoned (.inr ⟨_, hp⟩) hc (sameBeside_refl _ _) (shrinks_refl _)
    next hp =>
      cases hv
      exact .ended hp (.inl rfl)
    all_goals cases hv
  | makeStaging su =>
    rw [step] at hv
    split at hv
    next hr =>
      split at hv
      next =>
        split at hv
        next =>
          cases hv
          split
          next hp => exact .made hp
          next hl => exact .madeLate hr hl (sameBeside_setRoot own)
        next => cases hv
      next =>
        cases hv
        split
        next hp => exact .refused s.sessionAlive false (.inr (.inr hp))
        next hl => exact .madeLate hr hl hk
    next => cases hv
  | writeObject w =>
    rw [step] at hv
    split at hv
    next hm =>
      split at hv
      next => cases hv
      next =>
        obtain ⟨af, ha, rfl⟩ := Option.map_eq_some_iff.mp hv
        dsimp only
        split
        next du p c hp => exact .written hp hm ha
        next hl => exact .lateWrite hm hl (sameBeside_setRoot own)
    next => cases hv
  | failWrite w tn =>
    rw [step] at hv
    split at hv
    next hm =>
      obtain ⟨ro, hb, is⟩ := tearFile_root job s w.entry.relativePath tn
      rw [is] at hv
      dsimp only at hv
      split at hv
      next hp =>
        cases hv
        exact .discarded _ (.inr ⟨_, _, _, hp⟩) hb
      next hl =>
        cases hv
        exact .lateWrite hm hl hb
    next => cases hv
  | publish =>
    obtain ⟨publisher, hr, hv⟩ := Option.bind_eq_some_iff.mp hv
    exact .publish hr hv
  | failPublish tn =>
    obtain ⟨publisher, hr, hv⟩ := Option.bind_eq_some_iff.mp hv
    exact .failPublish hr hv
  | rollBack pt =>
    rw [step] at hv
    split at hv
    next m tree hr hf =>
      obtain ⟨af, hd, rfl⟩ := Option.map_eq_some_iff.mp hv
      exact .rolledBack hr (sameBeside_setRoot (List.mem_singleton.mpr rfl)) (shrinks_drop hf hd)
    next => cases hv
  | finishRollback hco =>
    rw [step] at hv
    split at hv
    next m hr =>
      split at hv
      next =>
        split at hv
        next =>
          cases hv
          exact .rollbackEnded hr (sameBeside_setRoot (List.mem_singleton.mpr rfl))
            shrinks_remove fun _ => if_pos rfl
        next => cases hv
      next hi =>
        cases hv
        exact .rollbackEnded hr (sameBeside_refl _ _) (shrinks_refl _) fun hco => absurd hco hi
    next => cases hv
  | enterObjects i =>
    rw [step] at hv
    split at hv
    next hf _ =>
      split at hv
      next =>
        cases hv
        exact .removal _ s.isAbandoned (removers_open hf) (.inl rfl) (sameBeside_refl _ _)
          (shrinks_refl _)
      next => cases hv
    next => cases hv
  | removeStaged i pt =>
    rw [step] at hv
    split at hv
    next tree hf hh =>
      obtain ⟨af, hd, rfl⟩ := Option.map_eq_some_iff.mp hv
      exact .removal s.removers s.isAbandoned (removers_open hf) (.inl rfl)
        (sameBeside_setRoot (by simp)) (shrinks_drop hh hd)
    next => cases hv
  | removeMoved i pt =>
    rw [step] at hv
    split at hv
    next tree hf hh =>
      split at hv
      next =>
        obtain ⟨af, hd, rfl⟩ := Option.map_eq_some_iff.mp hv
        exact .removal s.removers s.isAbandoned (removers_open hf) (.inl rfl)
          (sameBeside_setRoot (by simp)) (shrinks_drop hh hd)
      next => cases hv
    next => cases hv
  | finishRemoval i =>
    rw [step] at hv
    split at hv
    next => cases hv
    next hf =>
      split at hv
      next =>
        cases hv
        obtain ⟨r, n, is, hc⟩ := endRemoval_cases s i
        rw [is]
        exact .removal r s.isAbandoned (removers_open hf) hc (sameBeside_refl _ _) (shrinks_refl _)
      next =>
        split at hv
        next =>
          cases hv
          obtain ⟨r, n, is, hc⟩ := endRemoval_cases
            { s.setRoot job.stagingName none with isAbandoned := true } i
          rw [is]
          exact .removal r true (removers_open hf) hc (sameBeside_setRoot (by simp)) shrinks_remove
        next => cases hv
  | failRemoval i =>
    rw [step] at hv
    split at hv
    next => cases hv
    next hf =>
      cases hv
      obtain ⟨r, n, is, hc⟩ := endRemoval_cases s i
      rw [is]
      exact .removal r s.isAbandoned (removers_open hf) hc (sameBeside_refl _ _) (shrinks_refl _)

/-! ## The names of the call -/

namespace BackupLemmas

theorem failPublication_root (s : BackupState Rest) : s.failPublication.root = s.root := by
  unfold BackupState.failPublication
  dsimp only
  split
  · rfl
  · rfl

theorem stageFile_some {p : Text} {b : Bytes} (hs : s.stageFile job p b = some t) :
    ∃ tree a, s.tree job.stagingName = some tree ∧ addFile tree p b = some a ∧
      t = s.setRoot job.stagingName (some (.directory a)) := by
  obtain ⟨tree, hf, hg⟩ := Option.bind_eq_some_iff.mp hs
  obtain ⟨a, ha, rfl⟩ := Option.map_eq_some_iff.mp hg
  exact ⟨tree, a, hf, ha, rfl⟩

variable {publisher : Publisher}

theorem publishMoves_of_step (hv : publishStep sha256 job s publisher = some t) :
    PublishMoves sha256 job s publisher t := by
  unfold publishStep at hv
  split at hv
  next hs =>
    split at hv
    · cases hv
    next rm he =>
      obtain ⟨r, hst, rfl⟩ := Option.map_eq_some_iff.mp hv
      obtain ⟨tree, a, hf, ha, rfl⟩ := stageFile_some hst
      obtain ⟨rfl, -⟩ := TreeLemmas.addFile_spec ha
      exact .wroteManifest hs he (tree_some.mp hf)
  next hs =>
    split at hv
    · cases hv
    next rm he =>
      obtain ⟨r, hst, rfl⟩ := Option.map_eq_some_iff.mp hv
      obtain ⟨tree, a, hf, ha, rfl⟩ := stageFile_some hst
      obtain ⟨rfl, -⟩ := TreeLemmas.addFile_spec ha
      exact .wroteSidecar hs he (tree_some.mp hf)
  next hs =>
    obtain ⟨tree, -, rfl⟩ := Option.map_eq_some_iff.mp hv
    exact .synced hs
  next hs =>
    split at hv
    · cases hv
      exact .claimed hs
    · cases hv
  next hs =>
    cases hv
    exact .permitted hs
  next hs =>
    obtain ⟨tree, hf, rfl⟩ := Option.map_eq_some_iff.mp hv
    exact .listed hs (tree_some.mp hf)
  next hs =>
    cases hv
    exact .movedAll hs
  next name n hs =>
    split at hv
    next hst f hsd hfi =>
      dsimp only at hv
      split at hv
      · cases hv
        exact .moved hs (tree_some.mp hsd) (tree_some.mp hfi)
      · cases hv
    · cases hv
  next hs =>
    split at hv
    next hem =>
      cases hv
      exact .dropped hs (tree_some.mp hem)
    · cases hv
  next hs =>
    cases hv
    split
    next hp => exact .finished hs hp
    next hl => exact .finishedLate hs hl
  next => cases hv

theorem publishStep_beside (hv : publishStep sha256 job s publisher = some t) :
    SameBeside [job.finalName, job.stagingName] s.root t.root := by
  have hfi : ∀ (r : BackupState Rest) (e : Option RootEntry),
      SameBeside [job.finalName, job.stagingName] r.root (r.setRoot job.finalName e).root :=
    fun r e => sameBeside_setRoot (by simp)
  have hs : ∀ (r : BackupState Rest) (e : Option RootEntry),
      SameBeside [job.finalName, job.stagingName] r.root (r.setRoot job.stagingName e).root :=
    fun r e => sameBeside_setRoot (by simp)
  cases publishMoves_of_step hv with
  | wroteManifest => exact hs s _
  | wroteSidecar => exact hs s _
  | synced => exact sameBeside_refl _ _
  | claimed => exact hfi s _
  | permitted => exact sameBeside_refl _ _
  | listed => exact sameBeside_refl _ _
  | movedAll => exact sameBeside_refl _ _
  | moved =>
    intro name hf
    exact (hfi _ _ name hf).trans (hs s _ name hf)
  | dropped => exact hs s _
  | finished => exact sameBeside_refl _ _
  | finishedLate => exact sameBeside_refl _ _

theorem failPublication_cases (s : BackupState Rest) :
    ∃ n removers, s.failPublication = { s with publisher := none, phase := n, removers } ∧
      (n = s.phase ∧ s.phase ≠ .publishing ∨ s.phase = .publishing ∧ n = .discarding 2) := by
  unfold BackupState.failPublication
  dsimp only
  split
  next hp => exact ⟨_, _, rfl, .inr ⟨hp, rfl⟩⟩
  next hl => exact ⟨_, _, rfl, .inl ⟨rfl, hl⟩⟩

theorem failPublishStep_cases {tn : Option Bytes}
    (hv : failPublishStep job s publisher tn = some t) :
    (publisher.stage ∈ [.writingManifest, .writingSidecar, .syncing, .claiming, .permitting] ∧
      ∃ root, SameBeside [job.stagingName] s.root root ∧ t = { s with root }.failPublication) ∨
    publisher.stage ≠ .writingManifest ∧ t = s.setStage publisher .rollingBack := by
  unfold failPublishStep at hv
  split at hv
  next hs =>
    cases hv
    obtain ⟨root, hb, is⟩ := tearFile_root job s manifestRelativePath tn
    exact .inl ⟨by simp [hs], root, hb, by rw [is]⟩
  next hs =>
    cases hv
    obtain ⟨root, hb, is⟩ := tearFile_root job s sidecarRelativePath tn
    exact .inl ⟨by simp [hs], root, hb, by rw [is]⟩
  next hs =>
    cases hv
    exact .inl ⟨by simp [hs], s.root, sameBeside_refl _ _, rfl⟩
  next hs =>
    cases hv
    exact .inl ⟨by simp [hs], s.root, sameBeside_refl _ _, rfl⟩
  next hs =>
    cases hv
    exact .inl ⟨by simp [hs], s.root, sameBeside_refl _ _, rfl⟩
  next hs =>
    cases hv
    exact .inr ⟨by simp [hs], rfl⟩
  next hs =>
    cases hv
    exact .inr ⟨by simp [hs], rfl⟩
  next hs =>
    cases hv
    exact .inr ⟨by simp [hs], rfl⟩
  next hs =>
    cases hv
    exact .inr ⟨by simp [hs], rfl⟩
  next => cases hv

theorem failPublishStep_beside {tn : Option Bytes}
    (hv : failPublishStep job s publisher tn = some t) :
    SameBeside [job.stagingName] s.root t.root := by
  rcases failPublishStep_cases hv with ⟨-, r, hb, rfl⟩ | ⟨-, rfl⟩
  · rw [failPublication_root]
    exact hb
  · exact sameBeside_refl _ _

end BackupLemmas

theorem step_other_names {a : BackupAction Rest}
    (hv : step sha256 restCount pgDump job s a = some t) {name : Text}
    (hno : name ≠ job.finalName) (hn : name ≠ job.stagingName)
    (own : ∀ e, a ≠ .changeOther name e) : t.root name = s.root name := by
  have hf : name ∉ [job.finalName, job.stagingName] := by
    simp [hno, hn]
  have hs : ∀ {r : BackupRoot}, SameBeside [job.stagingName] s.root r →
      r name = s.root name := fun hb => hb name (by simp [hn])
  have hfi : ∀ {r : BackupRoot}, SameBeside [job.finalName] s.root r →
      r name = s.root name := fun hb => hb name (by simp [hno])
  cases moves_of_step hv with
  | changeOther =>
    refine if_neg fun he => ?_
    subst he
    exact own _ rfl
  | made => exact if_neg hn
  | dumped => exact if_neg hn
  | written => exact if_neg hn
  | madeLate _ _ hb => exact hs hb
  | lateWrite _ _ hb => exact hs hb
  | discarded _ _ hb => exact hs hb
  | removal _ _ _ _ hb => exact hb name hf
  | publish _ hv => exact publishStep_beside hv name hf
  | failPublish _ hv => exact hs (failPublishStep_beside hv)
  | rolledBack _ hb => exact hfi hb
  | rollbackEnded _ hb =>
    rw [failPublication_root]
    exact hfi hb
  | world => rfl
  | stop => rfl
  | opened => rfl
  | refused => rfl
  | admitted => rfl
  | imported => rfl
  | read => rfl
  | observed => rfl
  | cancelled => rfl
  | ended => rfl
  | reported => rfl

end PersonalOs.Recovery
