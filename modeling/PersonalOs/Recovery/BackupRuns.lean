import PersonalOs.Recovery.BackupSteps

/-!
# Runs of a backup

As long as nothing has gone wrong, `MainLine` says how far the two directories have come. What
holds also beside the main line, with threads that nobody awaits any more, is `World`: before a
publication the final directory does not exist, and afterwards it is a part of the tree the
publication set out to leave.
-/

namespace PersonalOs.Recovery

open ExclusionPolicy (ContentDigest ExpectedObject)

variable {Rest : Type}

/-- The phases before a publication. -/
def Phase.isEarly : Phase → Bool
  | .opening | .admitting | .staging | .dumping _ | .copying _ _ _ => true
  | _ => false

/-- The phases a disturbed call ends in. -/
def Phase.isAside : Phase → Bool
  | .discarding _ | .closing false | .raised false | .stopped => true
  | _ => false

section Invariants

variable (sha256 : Bytes → ContentDigest) (restCount : Rest → String → Nat)
  (pgDump : CanonicalDatabase Rest → Bytes) (job : Job)

/-- No thread of the call is running. -/
def BackupState.Quiet (s : BackupState Rest) : Prop :=
  s.makerRunning = false ∧ s.writes = [] ∧ s.publisher = none ∧ s.removers = []

/-- The snapshot of the call and its evidence. -/
def BackupState.Taken (s : BackupState Rest) (snapshot : Snapshot Rest) : Prop :=
  s.snapshot = some snapshot ∧
    readQuiescedSnapshot restCount snapshot.database snapshot.serverVersion = some snapshot

def BackupState.Admitted (s : BackupState Rest) (snapshot : Snapshot Rest) : Prop :=
  s.Taken restCount snapshot ∧ snapshot.database.schemaHead = postgresqlSchemaRevision

/-- How far an undisturbed publication has come. -/
def Progress (s : BackupState Rest) (publisher : Publisher) : Prop :=
  match publisher.stage with
  | .writingManifest => ∃ staged, s.root job.stagingName = some (.directory staged) ∧
      s.target = publicationTarget sha256 staged publisher.manifest ∧ s.root job.finalName = none
  | .writingSidecar => ∃ staged rawManifest, encodeManifest publisher.manifest = .ok rawManifest ∧
      s.root job.stagingName = some (.directory
        (staged ++ [(manifestRelativePath, freshFile rawManifest)])) ∧
      s.target = publicationTarget sha256 staged publisher.manifest ∧ s.root job.finalName = none
  | .syncing | .claiming => ∃ target, s.target = some target ∧
      s.root job.stagingName = some (.directory target) ∧ s.root job.finalName = none
  | .permitting | .listing => ∃ target, s.target = some target ∧
      s.root job.stagingName = some (.directory target) ∧
      s.root job.finalName = some (.directory [])
  | .moving names => ∃ target staged final, s.target = some target ∧
      s.root job.stagingName = some (.directory staged) ∧
      s.root job.finalName = some (.directory final) ∧
      (∀ entry, entry ∈ target ↔ entry ∈ staged ∨ entry ∈ final) ∧
      ∀ entry ∈ staged, ∃ name ∈ names, isUnder name entry.1 = true
  | .droppingStaging => ∃ target staged final, s.target = some target ∧
      s.root job.stagingName = some (.directory staged) ∧
      s.root job.finalName = some (.directory final) ∧
      (∀ entry, entry ∈ target ↔ entry ∈ staged ∨ entry ∈ final)
  | .syncingRoot => ∃ target final, s.target = some target ∧
      s.root job.finalName = some (.directory final) ∧ ∀ entry, entry ∈ target ↔ entry ∈ final
  | .rollingBack => True

/-- The call is finished with its bundle: nothing is running and the published tree is there. -/
def Finished (s : BackupState Rest) : Prop :=
  s.Quiet ∧ ∃ target final, s.target = some target ∧
    s.root job.finalName = some (.directory final) ∧ ∀ entry, entry ∈ target ↔ entry ∈ final

/-- How far a call has come that nothing has disturbed. -/
def MainLine (s : BackupState Rest) : Prop :=
  match s.phase with
  | .opening => s.Quiet ∧ s.root job.stagingName = none ∧ s.target = none
  | .admitting => s.Quiet ∧ s.root job.stagingName = none ∧ s.target = none ∧
      ∃ snapshot, s.Taken restCount snapshot
  | .staging => s.writes = [] ∧ s.publisher = none ∧ s.removers = [] ∧ s.target = none ∧
      ∃ snapshot, s.Admitted restCount snapshot
  | .dumping _ => s.Quiet ∧ s.root job.stagingName = some (.directory []) ∧ s.target = none ∧
      ∃ snapshot, s.Admitted restCount snapshot
  | .copying dump pending copied => s.makerRunning = false ∧ s.publisher = none ∧
      s.removers = [] ∧ s.target = none ∧ ∃ snapshot staged, s.Admitted restCount snapshot ∧
        dump = dumpEntry sha256 (pgDump snapshot.database) ∧
        s.root job.stagingName = some (.directory staged) ∧
        Staged sha256 pgDump snapshot pending s.writes copied staged
  | .publishing => s.makerRunning = false ∧ s.writes = [] ∧ s.removers = [] ∧
      ∃ publisher, s.publisher = some publisher ∧ Progress sha256 job s publisher
  | .closing true | .reporting | .returned | .raised true => Finished job s
  | .discarding _ | .closing false | .raised false | .stopped => True

/-- What a publication has to do with the directories, awaited or not. -/
structure Underway (s : BackupState Rest) (snapshot : Snapshot Rest) (manifest : RecoveryManifest)
    (target : Tree) : Prop where
  taken : s.snapshot = some snapshot
  publication : Publication sha256 restCount pgDump job snapshot manifest target
  maker : s.makerRunning = false
  writes : s.writes = []
  publisher : ∀ publisher, s.publisher = some publisher → publisher.manifest = manifest ∧
    (publisher.stage ≠ .rollingBack →
      ∀ staged, s.root job.stagingName = some (.directory staged) → staged ⊆ target)
  final : ∀ final, s.root job.finalName = some (.directory final) → final ⊆ target

structure World (s : BackupState Rest) : Prop where
  unpublished : s.target = none → s.root job.finalName = none ∧
    ∀ publisher, s.publisher = some publisher → publisher.stage = .writingManifest ∧
      ∀ rawManifest, encodeManifest publisher.manifest ≠ .ok rawManifest
  published : ∀ target, s.target = some target → ∃ snapshot manifest,
    Underway sha256 restCount pgDump job s snapshot manifest target

end Invariants

namespace BackupLemmas

variable {sha256 : Bytes → ContentDigest} {restCount : Rest → String → Nat}
  {pgDump : CanonicalDatabase Rest → Bytes} {job : Job} {s t : BackupState Rest}

theorem names_differ (job : Job) : job.finalName ≠ job.stagingName := by
  intro same
  have inside : '.' ∈ job.bundleId.text := by
    have : '.' ∈ job.stagingName := List.mem_append_left _ (List.mem_append_left _ (by decide))
    rwa [← same] at this
  rcases job.bundleId.mem_text inside with dash | hex
  · cases dash
  · exact absurd hex (by decide)

theorem root_setRoot (s : BackupState Rest) (n : Text) (e : Option RootEntry) :
    (s.setRoot n e).root n = e := if_pos rfl

theorem final_setStaging (s : BackupState Rest) (e : Option RootEntry) :
    (s.setRoot job.stagingName e).root job.finalName = s.root job.finalName :=
  if_neg (names_differ job)

theorem staging_setFinal (s : BackupState Rest) (e : Option RootEntry) :
    (s.setRoot job.finalName e).root job.stagingName = s.root job.stagingName :=
  if_neg (names_differ job).symm

/-! ### Before a publication -/

theorem early_unpublished (hl : MainLine sha256 restCount pgDump job s)
    (he : s.phase.isEarly = true) : s.target = none ∧ s.publisher = none := by
  unfold MainLine at hl
  split at hl
  · exact ⟨hl.2.2, hl.1.2.2.1⟩
  · exact ⟨hl.2.2.1, hl.1.2.2.1⟩
  · exact ⟨hl.2.2.2.1, hl.2.1⟩
  · exact ⟨hl.2.2.1, hl.1.2.2.1⟩
  · exact ⟨hl.2.2.2.1, hl.2.1⟩
  all_goals rename_i hp; rw [hp] at he; cases he

theorem world_early (hw : World sha256 restCount pgDump job s)
    (hl : MainLine sha256 restCount pgDump job s) (he : s.phase.isEarly = true)
    (target : t.target = s.target) (publisher : t.publisher = s.publisher)
    (hf : t.root job.finalName = s.root job.finalName) :
    World sha256 restCount pgDump job t := by
  obtain ⟨hno, hn⟩ := early_unpublished hl he
  constructor
  · intro _
    refine ⟨hf.trans (hw.unpublished hno).1, fun r is => ?_⟩
    rw [publisher, hn] at is
    cases is
  · intro tree is
    rw [target, hno] at is
    cases is

/-- What a step beside the main line may do to the world. -/
structure Aside (job : Job) (s t : BackupState Rest) : Prop where
  target : t.target = s.target
  snapshot : t.snapshot = s.snapshot
  publisher : t.publisher = s.publisher ∨ t.publisher = none
  maker : s.makerRunning = false → t.makerRunning = false
  writes : s.writes = [] → t.writes = []
  shrinks : s.target ≠ none → t.publisher = none ∨ ∀ tree',
    t.root job.stagingName = some (.directory tree') →
      ∃ tree, s.root job.stagingName = some (.directory tree) ∧ tree' ⊆ tree
  final : ∀ tree', t.root job.finalName = some (.directory tree') →
    ∃ tree, s.root job.finalName = some (.directory tree) ∧ tree' ⊆ tree
  absent : s.root job.finalName = none → t.root job.finalName = none

theorem world_aside (hw : World sha256 restCount pgDump job s) (ha : Aside job s t) :
    World sha256 restCount pgDump job t := by
  have hr : ∀ {publisher}, t.publisher = some publisher → s.publisher = some publisher := by
    intro publisher is
    rcases ha.publisher with hsa | he
    · rw [← hsa, is]
    · rw [he] at is
      cases is
  constructor
  · intro hno
    obtain ⟨hn, hst⟩ := hw.unpublished (ha.target ▸ hno)
    exact ⟨ha.absent hn, fun publisher is => hst publisher (hr is)⟩
  · intro target is
    rw [ha.target] at is
    obtain ⟨snapshot, m, hu⟩ := hw.published target is
    refine ⟨snapshot, m, ha.snapshot.trans hu.taken, hu.publication,
      ha.maker hu.maker, ha.writes hu.writes, ?_, ?_⟩
    · intro publisher hr'
      obtain ⟨hsa, hwi⟩ := hu.publisher publisher (hr hr')
      refine ⟨hsa, fun hac st hf => ?_⟩
      rcases ha.shrinks (by simp [is]) with he | hs
      · rw [he] at hr'
        cases hr'
      · obtain ⟨b, hf', hl⟩ := hs st hf
        exact fun e hm => hwi hac b hf' (hl hm)
    · intro f hf
      obtain ⟨b, hf', hl⟩ := ha.final f hf
      exact fun e hm => hu.final b hf' (hl hm)

theorem aside_of_same (target : t.target = s.target) (snapshot : t.snapshot = s.snapshot)
    (publisher : t.publisher = s.publisher ∨ t.publisher = none)
    (hm : s.makerRunning = false → t.makerRunning = false)
    (hw : s.writes = [] → t.writes = []) (hs : Shrinks s.root t.root) : Aside job s t where
  target := target
  snapshot := snapshot
  publisher := publisher
  maker := hm
  writes := hw
  shrinks _ := .inr (hs.1 job.stagingName)
  final := hs.1 job.finalName
  absent := hs.2 job.finalName

theorem shrinks_of_eq {r r' : BackupRoot} {n : Text} (he : r' n = r n) :
    ∀ t', r' n = some (.directory t') → ∃ tree, r n = some (.directory tree) ∧ t' ⊆ tree :=
  fun t' is => ⟨t', he ▸ is, List.Subset.refl _⟩

/-- A step beside the main line that only touches the staging directory, when nobody publishes. -/
theorem aside_of_staging {r : BackupRoot} (hb : SameBeside [job.stagingName] s.root r)
    (target : t.target = s.target) (snapshot : t.snapshot = s.snapshot)
    (publisher : t.publisher = s.publisher ∨ t.publisher = none)
    (hm : s.makerRunning = false → t.makerRunning = false)
    (hw : s.writes = [] → t.writes = []) (is : t.root = r)
    (hi : s.target ≠ none → t.publisher = none) : Aside job s t := by
  have he : t.root job.finalName = s.root job.finalName := by
    rw [is]
    exact hb _ (by simp [names_differ job])
  exact ⟨target, snapshot, publisher, hm, hw, fun hs => .inl (hi hs),
    shrinks_of_eq he, fun hn => he.trans hn⟩

/-! ### During a publication -/

variable {snapshot : Snapshot Rest} {target tree : Tree} {publisher : Publisher}
  {copied : List ManifestObjectEntry} {now : Timestamp}

theorem closing_files {m : RecoveryManifest} {rm : Bytes}
    (hp : Publication sha256 restCount pgDump job snapshot m target)
    (he : encodeManifest m = .ok rm) :
    (manifestRelativePath, freshFile rm) ∈ target ∧
      (sidecarRelativePath, freshFile (sidecarBytes sha256 rm)) ∈ target := by
  obtain ⟨st, copied, now, raw, -, -, he', rfl⟩ := hp.assembled
  rw [he] at he'
  cases he'
  exact ⟨by simp, by simp⟩

theorem snoc_subset {en : Text × Node} (hw : tree ⊆ target) (new : en ∈ target) :
    tree ++ [en] ⊆ target := by
  intro e hm
  rcases List.mem_append.mp hm with old | hl
  · exact hw old
  · rwa [List.mem_singleton.mp hl]

theorem world_publish (hw : World sha256 restCount pgDump job s)
    (hr : s.publisher = some publisher) (hv : PublishMoves sha256 job s publisher t) :
    World sha256 restCount pgDump job t := by
  -- Without a target the manifest has no encoding, and the thread cannot take its first step.
  have hso : (∀ rm, encodeManifest publisher.manifest = .ok rm → False) →
      publisher.stage = .writingManifest → False := by
    intro hsk hs
    cases hv with
    | wroteManifest _ he => exact hsk _ he
    | wroteSidecar ho => cases ho.symm.trans hs
    | synced ho => cases ho.symm.trans hs
    | claimed ho => cases ho.symm.trans hs
    | permitted ho => cases ho.symm.trans hs
    | listed ho => cases ho.symm.trans hs
    | movedAll ho => cases ho.symm.trans hs
    | moved ho => cases ho.symm.trans hs
    | dropped ho => cases ho.symm.trans hs
    | finished ho => cases ho.symm.trans hs
    | finishedLate ho => cases ho.symm.trans hs
  obtain ⟨target, ht⟩ : ∃ target, s.target = some target := by
    rcases hn : s.target with - | target
    · obtain ⟨hs, hsk⟩ := (hw.unpublished hn).2 publisher hr
      exact (hso hsk hs).elim
    · exact ⟨target, rfl⟩
  obtain ⟨snapshot, m, hu⟩ := hw.published target ht
  obtain ⟨hsa, hwi⟩ := hu.publisher publisher hr
  have hp := hu.publication
  have ha : ∀ {hs : PublishStage}, publisher.stage = hs → hs ≠ .rollingBack →
      ∀ st, s.root job.stagingName = some (.directory st) → st ⊆ target :=
    fun is ha => hwi (is ▸ ha)
  -- What is left to show is what the two directories are after the step.
  have hk : ∀ {r : BackupState Rest} (hs : PublishStage), r.target = s.target →
      r.snapshot = s.snapshot → r.makerRunning = s.makerRunning → r.writes = s.writes →
      (∀ st, r.root job.stagingName = some (.directory st) → st ⊆ target) →
      (∀ f, r.root job.finalName = some (.directory f) → f ⊆ target) →
      World sha256 restCount pgDump job (r.setStage publisher hs) := by
    intro r hs ht' hs' hma hwr st f
    constructor
    · intro hn
      rw [show (r.setStage publisher hs).target = r.target from rfl, ht', ht] at hn
      cases hn
    · intro tree is
      rw [show (r.setStage publisher hs).target = r.target from rfl, ht', ht] at is
      cases is
      refine ⟨snapshot, m, hs'.trans hu.taken, hp, hma.trans hu.maker, hwr.trans hu.writes, ?_, f⟩
      intro r' is'
      cases is'
      exact ⟨hsa, fun _ => st⟩
  cases hv with
  | wroteManifest hs he hf =>
    refine hk _ rfl rfl rfl rfl (fun st is => ?_) fun f is => ?_
    · rw [root_setRoot] at is
      cases is
      rw [hsa] at he
      exact snoc_subset (ha hs (by simp) _ hf) (closing_files hp he).1
    · rw [final_setStaging] at is
      exact hu.final f is
  | wroteSidecar hs he hf =>
    refine hk _ rfl rfl rfl rfl (fun st is => ?_) fun f is => ?_
    · rw [root_setRoot] at is
      cases is
      rw [hsa] at he
      exact snoc_subset (ha hs (by simp) _ hf) (closing_files hp he).2
    · rw [final_setStaging] at is
      exact hu.final f is
  | synced hs => exact hk _ rfl rfl rfl rfl (ha hs (by simp)) hu.final
  | claimed hs =>
    refine hk _ rfl rfl rfl rfl (fun st is => ?_) fun f is => ?_
    · rw [staging_setFinal] at is
      exact ha hs (by simp) st is
    · rw [root_setRoot] at is
      cases is
      exact List.nil_subset _
  | permitted hs => exact hk _ rfl rfl rfl rfl (ha hs (by simp)) hu.final
  | listed hs => exact hk _ rfl rfl rfl rfl (ha hs (by simp)) hu.final
  | movedAll hs => exact hk _ rfl rfl rfl rfl (ha hs (by simp)) hu.final
  | moved hs hst hfi =>
    have hi := ha hs (by simp) _ hst
    refine hk _ rfl rfl rfl rfl (fun st is => ?_) fun f is => ?_
    · rw [staging_setFinal, root_setRoot] at is
      cases is
      exact fun e hm => hi (List.mem_of_mem_filter hm)
    · rw [root_setRoot] at is
      cases is
      exact List.append_subset.mpr ⟨hu.final _ hfi, fun e hm => hi (List.mem_of_mem_filter hm)⟩
  | dropped hs =>
    refine hk _ rfl rfl rfl rfl (fun st is => ?_) fun f is => ?_
    · rw [root_setRoot] at is
      cases is
    · rw [final_setStaging] at is
      exact hu.final f is
  | finished =>
    exact world_aside hw (aside_of_same rfl rfl (.inr rfl) id id (shrinks_refl _))
  | finishedLate =>
    exact world_aside hw (aside_of_same rfl rfl (.inr rfl) id id (shrinks_refl _))

theorem publication_of_staged {st : Tree} (ha : s.Admitted restCount snapshot)
    (tree : Staged sha256 pgDump snapshot [] [] copied st)
    (is : publicationTarget sha256 st (createManifest job snapshot
      (dumpEntry sha256 (pgDump snapshot.database)) copied now) = some target) :
    Publication sha256 restCount pgDump job snapshot (createManifest job snapshot
      (dumpEntry sha256 (pgDump snapshot.database)) copied now) target ∧ st ⊆ target := by
  unfold publicationTarget at is
  split at is
  · cases is
  next rm he =>
    cases is
    exact ⟨⟨ha.1.2, ha.2, st, copied, now, rm, tree, rfl, he, rfl⟩, List.subset_append_left _ _⟩

theorem world_observed {d : ManifestDumpEntry} (hwo : World sha256 restCount pgDump job s)
    (hl : MainLine sha256 restCount pgDump job s) (hph : s.phase = .copying d [] copied)
    (ht : s.snapshot = some snapshot) (hf : s.tree job.stagingName = some tree)
    (hi : s.writes = []) :
    World sha256 restCount pgDump job
      { s with phase := .publishing,
               publisher := some ⟨createManifest job snapshot d copied now, .writingManifest⟩,
               target := publicationTarget sha256 tree
                 (createManifest job snapshot d copied now) } := by
  rw [MainLine, hph] at hl
  obtain ⟨hm, -, -, hno, s', st, ha, rfl, hs, hc⟩ := hl
  obtain ⟨⟨hsa, he⟩, hr⟩ := ha
  rw [ht] at hsa
  cases hsa
  rw [tree_some, hs] at hf
  cases hf
  rw [hi] at hc
  have hn := (hwo.unpublished hno).1
  constructor
  · intro hne
    refine ⟨hn, fun publisher is => ?_⟩
    cases is
    refine ⟨rfl, fun rm hen => ?_⟩
    simp only [publicationTarget, hen] at hne
    cases hne
  · intro target is
    obtain ⟨hp, hw⟩ := publication_of_staged ⟨⟨ht, he⟩, hr⟩ hc is
    refine ⟨snapshot, _, ht, hp, hm, hi, ?_, ?_⟩
    · intro publisher is'
      cases is'
      refine ⟨rfl, fun _ o hf => ?_⟩
      rw [show s.root job.stagingName = _ from hs] at hf
      cases hf
      exact hw
    · intro f hf
      rw [show s.root job.finalName = none from hn] at hf
      cases hf

theorem world_step {a : BackupAction Rest} (hv : Moves sha256 restCount pgDump job s a t)
    (hl : MainLine sha256 restCount pgDump job s) (hw : World sha256 restCount pgDump job s) :
    World sha256 restCount pgDump job t := by
  have hsa : ∀ {root : BackupRoot}, SameBeside [job.stagingName] s.root root →
      root job.finalName = s.root job.finalName :=
    fun hb => hb _ (by simp [names_differ job])
  -- A maker or a write that still runs belongs to a call that never came to publish.
  have hi : s.makerRunning = true ∨ s.writes ≠ [] → s.target = none := by
    intro hr
    rcases is : s.target with - | target
    · rfl
    · obtain ⟨snapshot, m, hu⟩ := hw.published target is
      rcases hr with hma | hwr
      · rw [hu.maker] at hma
        cases hma
      · exact absurd hu.writes hwr
  cases hv with
  | world => exact world_aside hw (aside_of_same rfl rfl (.inl rfl) id id (shrinks_refl _))
  | @changeOther n e hf hst =>
    have hk : (s.setRoot n e).root job.finalName = s.root job.finalName := if_neg (Ne.symm hf)
    have hke : (s.setRoot n e).root job.stagingName = s.root job.stagingName := if_neg (Ne.symm hst)
    exact world_aside hw ⟨rfl, rfl, .inl rfl, id, id, fun _ => .inr (shrinks_of_eq hke),
      shrinks_of_eq hk, fun hn => hk.trans hn⟩
  | stop =>
    exact world_aside hw (aside_of_same rfl rfl (.inr rfl) (fun _ => rfl) (fun _ => rfl)
      (shrinks_refl _))
  | opened hp => exact world_early hw hl (by rw [hp]; rfl) rfl rfl rfl
  | refused _ _ hp =>
    have he : s.phase.isEarly = true := by
      rcases hp with is | is | is <;> rw [is] <;> rfl
    exact world_early hw hl he rfl rfl rfl
  | admitted hp => exact world_early hw hl (by rw [hp]; rfl) rfl rfl rfl
  | made hp => exact world_early hw hl (by rw [hp]; rfl) rfl rfl (final_setStaging s _)
  | madeLate hr hla hb =>
    exact world_aside hw (aside_of_staging hb rfl rfl (.inl rfl) (fun _ => rfl) id rfl
      fun hso => absurd (hi (.inl hr)) hso)
  | imported hp => exact world_early hw hl (by rw [hp]; rfl) rfl rfl rfl
  | dumped hp => exact world_early hw hl (by rw [hp]; rfl) rfl rfl (final_setStaging s _)
  | read hp => exact world_early hw hl (by rw [hp]; rfl) rfl rfl rfl
  | written hp =>
    exact world_early hw hl (by rw [hp]; rfl) rfl rfl (final_setStaging s _)
  | @lateWrite _ w _ hm hla hb =>
    refine world_aside hw (aside_of_staging hb rfl rfl (.inl rfl) id (fun hn => ?_) rfl
      fun hso => absurd (hi (.inr (List.ne_nil_of_mem hm))) hso)
    rw [hn] at hm
    cases hm
  | discarded _ hp hb =>
    have he : s.phase.isEarly = true := by
      rcases hp with ⟨_, is⟩ | ⟨_, _, _, is⟩ <;> rw [is] <;> rfl
    exact world_early hw hl he rfl rfl (hsa hb)
  | observed hp ht hfo hwr => exact world_observed hw hl hp ht hfo hwr
  | cancelled => exact world_aside hw (aside_of_same rfl rfl (.inl rfl) id id (shrinks_refl _))
  | ended => exact world_aside hw (aside_of_same rfl rfl (.inl rfl) id id (shrinks_refl _))
  | reported => exact world_aside hw (aside_of_same rfl rfl (.inl rfl) id id (shrinks_refl _))
  | removal _ _ _ _ _ hs =>
    exact world_aside hw (aside_of_same rfl rfl (.inl rfl) id id hs)
  | publish hr hv => exact world_publish hw hr (publishMoves_of_step hv)
  | failPublish hr hv =>
    rcases failPublishStep_cases hv with ⟨-, root, hb, rfl⟩ | ⟨ha, rfl⟩
    · obtain ⟨ne, r, is, -⟩ := failPublication_cases { s with root }
      rw [is]
      exact world_aside hw (aside_of_staging hb rfl rfl (.inr rfl) id id rfl fun _ => rfl)
    · constructor
      · intro hn
        exact absurd ((hw.unpublished hn).2 _ hr).1 ha
      · intro target is
        obtain ⟨snapshot, m, hu⟩ := hw.published target is
        refine ⟨snapshot, m, hu.taken, hu.publication, hu.maker,
          hu.writes, fun p' is' => ?_, hu.final⟩
        cases is'
        exact ⟨(hu.publisher _ hr).1, fun hre => absurd rfl hre⟩
  | rolledBack hr hb hs =>
    exact world_aside hw (aside_of_same rfl rfl (.inl rfl) id id hs)
  | rollbackEnded hr hb hs =>
    rename_i root _
    obtain ⟨ne, r, is, -⟩ := failPublication_cases { s with root }
    rw [is]
    exact world_aside hw (aside_of_same rfl rfl (.inr rfl) id id hs)

/-! ### The main line -/

theorem mainLine_aside (ha : t.phase.isAside = true) : MainLine sha256 restCount pgDump job t := by
  unfold MainLine
  split
  all_goals first
    | trivial
    | (rename_i hp; rw [hp] at ha; cases ha)

theorem mainLine_threads (hl : MainLine sha256 restCount pgDump job s) :
    s.phase.isAside = true ∨ s.removers = [] ∧ (s.makerRunning = true → s.phase = .staging) ∧
      (s.writes ≠ [] → ∃ d p copied, s.phase = .copying d p copied) ∧
      (s.publisher ≠ none → s.phase = .publishing) := by
  have hq : s.Quiet → s.removers = [] ∧ (s.makerRunning = true → s.phase = .staging) ∧
      (s.writes ≠ [] → ∃ d p copied, s.phase = .copying d p copied) ∧
      (s.publisher ≠ none → s.phase = .publishing) := by
    rintro ⟨hm, hw, publisher, hr⟩
    exact ⟨hr, by simp [hm], by simp [hw], by simp [publisher]⟩
  unfold MainLine at hl
  split at hl
  next => exact .inr (hq hl.1)
  next => exact .inr (hq hl.1)
  next hp =>
    obtain ⟨hw, publisher, hr, -⟩ := hl
    exact .inr ⟨hr, fun _ => hp, by simp [hw], by simp [publisher]⟩
  next => exact .inr (hq hl.1)
  next d p copied hp =>
    obtain ⟨hm, publisher, hr, -⟩ := hl
    exact .inr ⟨hr, by simp [hm], fun _ => ⟨_, _, _, hp⟩, by simp [publisher]⟩
  next hp =>
    obtain ⟨hm, hw, hr, -⟩ := hl
    exact .inr ⟨hr, by simp [hm], by simp [hw], fun _ => hp⟩
  next => exact .inr (hq hl.1)
  next => exact .inr (hq hl.1)
  next => exact .inr (hq hl.1)
  next => exact .inr (hq hl.1)
  next hp => exact .inl (by rw [hp]; rfl)
  next hp => exact .inl (by rw [hp]; rfl)
  next hp => exact .inl (by rw [hp]; rfl)
  next hp => exact .inl (by rw [hp]; rfl)

theorem evidence_of_read {d : CanonicalDatabase Rest} {sv : Text}
    (hr : readQuiescedSnapshot restCount d sv = some snapshot) :
    readQuiescedSnapshot restCount snapshot.database snapshot.serverVersion = some snapshot := by
  obtain ⟨ro, hh, rfl⟩ := Option.map_eq_some_iff.mp hr
  exact hr

theorem progress_step (hp : Progress sha256 job s publisher)
    (hv : PublishMoves sha256 job s publisher t) (hcl : ∀ target, s.target = some target →
      target.IsClosed) (hph : s.phase = .publishing) (hq : s.makerRunning = false ∧
        s.writes = [] ∧ s.removers = []) : MainLine sha256 restCount pgDump job t := by
  have hf : ∀ {r : BackupState Rest} {hst : PublishStage}, r.phase = s.phase →
      r.makerRunning = s.makerRunning → r.writes = s.writes → r.removers = s.removers →
      Progress sha256 job (r.setStage publisher hst) { publisher with stage := hst } →
      MainLine sha256 restCount pgDump job (r.setStage publisher hst) := by
    intro r hst hp' hma hw hr hfu
    rw [MainLine, show (r.setStage publisher hst).phase = .publishing from hp'.trans hph]
    exact ⟨hma.trans hq.1, hw.trans hq.2.1, hr.trans hq.2.2, _, rfl, hfu⟩
  cases hv with
  | wroteManifest hst he hfo =>
    rw [Progress, hst] at hp
    obtain ⟨st, hs, target, hn⟩ := hp
    rw [hs] at hfo
    cases hfo
    exact hf rfl rfl rfl rfl ⟨_, _, he, root_setRoot _ _ _, target, (final_setStaging s _).trans hn⟩
  | @wroteSidecar rm _ hst he hfo =>
    rw [Progress, hst] at hp
    obtain ⟨st, _, he', hs, target, hn⟩ := hp
    rw [he] at he'
    cases he'
    rw [hs] at hfo
    cases hfo
    have hwh : s.target = some (st ++ [(manifestRelativePath, freshFile rm)] ++
        [(sidecarRelativePath, freshFile (sidecarBytes sha256 rm))]) := by
      rw [target, publicationTarget, he, List.append_assoc]
      rfl
    exact hf rfl rfl rfl rfl ⟨_, hwh, root_setRoot _ _ _, (final_setStaging s _).trans hn⟩
  | synced hst =>
    rw [Progress, hst] at hp
    exact hf rfl rfl rfl rfl hp
  | claimed hst =>
    rw [Progress, hst] at hp
    obtain ⟨target, ht, hs, -⟩ := hp
    exact hf rfl rfl rfl rfl ⟨target, ht, (staging_setFinal s _).trans hs, root_setRoot _ _ _⟩
  | permitted hst =>
    rw [Progress, hst] at hp
    exact hf rfl rfl rfl rfl hp
  | @listed tree hst hfo =>
    rw [Progress, hst] at hp
    obtain ⟨target, ht, hs, hfi⟩ := hp
    rw [hs] at hfo
    cases hfo
    exact hf rfl rfl rfl rfl ⟨tree, tree, [], ht, hs, hfi, by simp,
      TreeLemmas.under_entryName (hcl tree ht)⟩
  | movedAll hst =>
    rw [Progress, hst] at hp
    obtain ⟨target, st, f, ht, hs, hfi, hsp, -⟩ := hp
    exact hf rfl rfl rfl rfl ⟨target, st, f, ht, hs, hfi, hsp⟩
  | @moved n na tree a hst hs' hf' =>
    rw [Progress, hst] at hp
    obtain ⟨target, st, f, ht, hs, hfi, hsp, hc⟩ := hp
    rw [hs] at hs'
    cases hs'
    rw [hfi] at hf'
    cases hf'
    refine hf rfl rfl rfl rfl ⟨target, tree.filter fun e => !isUnder n e.1,
      a ++ tree.filter fun e => isUnder n e.1, ht, ?_, root_setRoot _ _ _, ?_, ?_⟩
    · exact (staging_setFinal _ _).trans (root_setRoot _ _ _)
    · intro en
      rw [hsp, List.mem_filter, List.mem_append, List.mem_filter]
      cases isUnder n en.1 <;> simp [or_comm]
    · intro en hm
      obtain ⟨hi, ho⟩ := List.mem_filter.mp hm
      obtain ⟨a, hl, hu⟩ := hc en hi
      rcases List.mem_cons.mp hl with rfl | hla
      · rw [hu] at ho
        cases ho
      · exact ⟨a, hla, hu⟩
  | dropped hst hem =>
    rw [Progress, hst] at hp
    obtain ⟨target, st, f, ht, hs, hfi, hsp⟩ := hp
    rw [hs] at hem
    cases hem
    exact hf rfl rfl rfl rfl ⟨target, f, ht, (final_setStaging s _).trans hfi, by simpa using hsp⟩
  | finished hst =>
    rw [Progress, hst] at hp
    exact ⟨⟨hq.1, hq.2.1, rfl, hq.2.2⟩, hp⟩
  | finishedLate _ hle => exact absurd hph hle

theorem mainLine_same (hl : MainLine sha256 restCount pgDump job s) (hp : t.phase = s.phase)
    (snapshot : t.snapshot = s.snapshot) (hm : t.makerRunning = s.makerRunning)
    (hw : t.writes = s.writes) (publisher : t.publisher = s.publisher)
    (hr : t.removers = s.removers) (target : t.target = s.target)
    (hf : t.root job.finalName = s.root job.finalName)
    (hs : t.root job.stagingName = s.root job.stagingName) :
    MainLine sha256 restCount pgDump job t := by
  simpa only [MainLine, Finished, Progress, BackupState.Quiet, BackupState.Admitted,
    BackupState.Taken, hp, snapshot, hm, hw, publisher, hr, target, hf,
    hs] using hl

theorem mainLine_observed {d : ManifestDumpEntry} (hl : MainLine sha256 restCount pgDump job s)
    (hw : World sha256 restCount pgDump job s) (hp : s.phase = .copying d [] copied)
    (hf : s.tree job.stagingName = some tree) (hi : s.writes = []) :
    MainLine sha256 restCount pgDump job
      { s with phase := .publishing,
               publisher := some ⟨createManifest job snapshot d copied now, .writingManifest⟩,
               target := publicationTarget sha256 tree
                 (createManifest job snapshot d copied now) } := by
  rw [MainLine, hp] at hl
  obtain ⟨hm, -, hr, hn, -⟩ := hl
  exact ⟨hm, hi, hr, _, rfl, tree, tree_some.mp hf, rfl, (hw.unpublished hn).1⟩

theorem publisher_phase (hl : MainLine sha256 restCount pgDump job s)
    (hr : s.publisher = some publisher) :
    s.phase.isAside = true ∨ s.phase = .publishing := by
  rcases mainLine_threads hl with ha | ⟨-, -, -, hp⟩
  · exact .inl ha
  · exact .inr (hp (by simp [hr]))

theorem mainLine_failed (hp : s.phase.isAside = true ∨ s.phase = .publishing) :
    MainLine sha256 restCount pgDump job s.failPublication := by
  obtain ⟨n, r, is, ⟨rfl, ho⟩ | ⟨-, rfl⟩⟩ := failPublication_cases s
  · rw [is]
    exact mainLine_aside (hp.resolve_right ho)
  · rw [is]
    exact mainLine_aside rfl

theorem mainLine_rollingBack (hl : MainLine sha256 restCount pgDump job s)
    {m : RecoveryManifest} (hru : s.publisher = some publisher)
    (hs : t.publisher = some ⟨m, .rollingBack⟩) (he : t.phase = s.phase)
    (hm : t.makerRunning = s.makerRunning) (hw : t.writes = s.writes)
    (hr : t.removers = s.removers) : MainLine sha256 restCount pgDump job t := by
  rcases publisher_phase hl hru with ha | hp
  · exact mainLine_aside (he ▸ ha)
  · rw [MainLine, hp] at hl
    rw [MainLine, he, hp]
    exact ⟨hm.trans hl.1, hw.trans hl.2.1, hr.trans hl.2.2.1, _, hs, trivial⟩

theorem mainLine_step {a : BackupAction Rest} (hv : Moves sha256 restCount pgDump job s a t)
    (hl : MainLine sha256 restCount pgDump job s) (hwo : World sha256 restCount pgDump job s) :
    MainLine sha256 restCount pgDump job t := by
  have ht := mainLine_threads hl
  cases hv with
  | world => exact mainLine_same hl rfl rfl rfl rfl rfl rfl rfl rfl rfl
  | changeOther hfi hst =>
    exact mainLine_same hl rfl rfl rfl rfl rfl rfl rfl (if_neg hfi.symm) (if_neg hst.symm)
  | stop => exact mainLine_aside rfl
  | opened hp hrd =>
    rw [MainLine, hp] at hl
    exact ⟨hl.1, hl.2.1, hl.2.2, _, rfl, evidence_of_read hrd⟩
  | refused => exact mainLine_aside rfl
  | admitted hp hta hrn =>
    rw [MainLine, hp] at hl
    obtain ⟨⟨-, hw, publisher, hr⟩, -, target, snapshot, ha⟩ := hl
    have he := hta.symm.trans ha.1
    cases he
    exact ⟨hw, publisher, hr, target, _, ha, hrn⟩
  | made hp =>
    rw [MainLine, hp] at hl
    obtain ⟨hw, publisher, hr, target, ha⟩ := hl
    exact ⟨⟨rfl, hw, publisher, hr⟩, root_setRoot _ _ _, target, ha⟩
  | madeLate hru hla =>
    rcases ht with has | ⟨-, hm, -⟩
    · exact mainLine_aside has
    · exact absurd (hm hru) hla
  | imported hp =>
    rw [MainLine, hp] at hl
    exact hl
  | dumped hp hta hf had =>
    rw [MainLine, hp] at hl
    obtain ⟨⟨hm, hw, publisher, hr⟩, hs, target, snapshot, ha⟩ := hl
    have he := hta.symm.trans ha.1.1
    cases he
    rw [tree_some, hs] at hf
    cases hf
    obtain ⟨rfl, -⟩ := TreeLemmas.addFile_spec had
    refine ⟨hm, publisher, hr, target, _, _, ha, rfl, root_setRoot _ _ _, ?_⟩
    show Staged _ _ _ _ s.writes _ _
    rw [hw]
    exact staged_dump _
  | read hp hme hve =>
    rw [MainLine, hp] at hl
    obtain ⟨hm, publisher, hr, target, snapshot, st, ha, is, hs, hc⟩ := hl
    obtain ⟨-, hsi, hd⟩ := verifiedObject_ok.mp hve
    exact ⟨hm, publisher, hr, target, snapshot, st, ha, is, hs,
      hc.readObject hme ⟨hsi, congrArg _ hd⟩⟩
  | written hp hme had =>
    rw [MainLine, hp] at hl
    obtain ⟨hm, publisher, hr, target, snapshot, st, ha, is, hs, hc⟩ := hl
    rw [tree_some.mpr hs] at had
    exact ⟨hm, publisher, hr, target, snapshot, _, ha, is, root_setRoot _ _ _,
      hc.writeObject hme had⟩
  | lateWrite hme hla =>
    rcases ht with has | ⟨-, -, hw, -⟩
    · exact mainLine_aside has
    · obtain ⟨d, p, copied, hp⟩ := hw (List.ne_nil_of_mem hme)
      exact absurd hp (hla d p copied)
  | discarded => exact mainLine_aside rfl
  | observed hp hta hf hi => exact mainLine_observed hl hwo hp hf hi
  | cancelled => exact mainLine_aside rfl
  | @ended _ f n hp is =>
    cases f with
    | true =>
      rw [MainLine, hp] at hl
      rcases is with rfl | ⟨-, rfl⟩
      · exact hl
      · exact hl
    | false =>
      rcases is with rfl | ⟨hwr, -⟩
      · exact mainLine_aside rfl
      · cases hwr
  | @reported su hp =>
    rw [MainLine, hp] at hl
    cases su
    · exact hl
    · exact hl
  | removal _ _ hre is =>
    -- The main line has no remover, so the call stands aside already.
    have has : s.phase.isAside = true := by
      rcases ht with has | ⟨hn, -⟩
      · exact has
      · rcases hre with hso | ⟨fu, hp⟩
        · exact absurd hn hso
        · rw [hp]
          rfl
    rcases is with rfl | ⟨-, rfl | ⟨fu, rfl⟩⟩
    · exact mainLine_aside has
    · exact mainLine_aside rfl
    · exact mainLine_aside rfl
  | @publish publisher _ hru hv =>
    have hmo := publishMoves_of_step hv
    rcases ht with has | ⟨-, -, -, hpu⟩
    · have hk : t.phase = s.phase := by
        cases hmo with
        | finished _ hp =>
          rw [hp] at has
          cases has
        | _ => rfl
      exact mainLine_aside (hk ▸ has)
    · have hp := hpu (by simp [hru])
      rw [MainLine, hp] at hl
      obtain ⟨hm, hw, hr, p', hr', hpr⟩ := hl
      rw [hru] at hr'
      cases hr'
      refine progress_step hpr hmo (fun target is => ?_) hp ⟨hm, hw, hr⟩
      obtain ⟨_, _, hu⟩ := hwo.published target is
      exact hu.publication.closed
  | @failPublish publisher _ _ hru hv =>
    rcases failPublishStep_cases hv with ⟨-, r, -, rfl⟩ | ⟨-, rfl⟩
    · have hp := publisher_phase hl hru
      exact mainLine_failed hp
    · exact mainLine_rollingBack hl hru rfl rfl rfl rfl rfl
  | rolledBack hru => exact mainLine_rollingBack hl hru hru rfl rfl rfl rfl
  | rollbackEnded hru =>
    have hp := publisher_phase hl hru
    exact mainLine_failed hp

end BackupLemmas

open BackupLemmas

variable {sha256 : Bytes → ContentDigest} {restCount : Rest → String → Nat}
  {pgDump : CanonicalDatabase Rest → Bytes} {job : Job} {s : BackupState Rest}
  {recursionLimit : Nat}

theorem backup_invariant (hre : (machine sha256 restCount pgDump job).Reachable s) :
    World sha256 restCount pgDump job s ∧ MainLine sha256 restCount pgDump job s := by
  have hi : ∀ r, (machine sha256 restCount pgDump job).Init r →
      World sha256 restCount pgDump job r ∧ MainLine sha256 restCount pgDump job r := by
    rintro r ⟨hp, hf, hs, -, hma, hw, publisher, hr, target⟩
    refine ⟨⟨fun _ => ⟨hf, by simp [publisher]⟩, by simp [target]⟩, ?_⟩
    rw [MainLine, hp]
    exact ⟨⟨hma, hw, publisher, hr⟩, hs, target⟩
  refine Machine.Reachable.invariant hi (fun r a r' inv hv => ?_) hre
  have hm := moves_of_step hv
  exact ⟨world_step hm inv.2 inv.1, mainLine_step hm inv.2 inv.1⟩

/-! ## What a call leaves behind -/

/-- A snapshot stands complete, and verified, under a job's name. -/
def StandsComplete (sha256 : Bytes → ContentDigest) (pgDump : CanonicalDatabase Rest → Bytes)
    (job : Job) (recursionLimit : Nat) (s : BackupState Rest) : Prop :=
  ∃ snapshot manifest tree, s.snapshot = some snapshot ∧
    s.root job.finalName = some (.directory tree) ∧
    verifyOffline sha256 recursionLimit s.root job.bundleId = .ok manifest ∧
    Complete sha256 pgDump snapshot tree

/-- A final directory that verifies is complete, whatever state it is found in. -/
theorem verified_complete (hre : (machine sha256 restCount pgDump job).Reachable s)
    (hd : 3 ≤ recursionLimit) {m : RecoveryManifest}
    (hv : verifyOffline sha256 recursionLimit s.root job.bundleId = .ok m) :
    StandsComplete sha256 pgDump job recursionLimit s := by
  obtain ⟨hw, -⟩ := backup_invariant hre
  obtain ⟨-, tree, hf, hr⟩ := verifyOffline_ok_iff.mp hv
  rcases ht : s.target with - | target
  · have hn := (hw.unpublished ht).1
    rw [Job.finalName, hf] at hn
    cases hn
  · obtain ⟨snapshot, p, hu⟩ := hw.published target ht
    obtain ⟨-, hc⟩ := hu.publication.complete hd (hu.final tree hf) hr
    exact ⟨snapshot, m, tree, hu.taken, hf, hv, hc⟩

theorem finished_published (hr : (machine sha256 restCount pgDump job).Reachable s)
    (he : s.phase = .returned ∨ s.phase = .raised true) :
    ∃ snapshot m target f, s.snapshot = some snapshot ∧
      Publication sha256 restCount pgDump job snapshot m target ∧
      s.root job.finalName = some (.directory f) ∧ ∀ e, e ∈ target ↔ e ∈ f := by
  obtain ⟨hw, hl⟩ := backup_invariant hr
  have hf : Finished job s := by
    rw [MainLine] at hl
    rcases he with hp | hp
    · rwa [hp] at hl
    · rwa [hp] at hl
  obtain ⟨-, target, f, ht, hfo, hs⟩ := hf
  obtain ⟨snapshot, m, hu⟩ := hw.published target ht
  exact ⟨snapshot, m, target, f, hu.taken, hu.publication, hfo, hs⟩

theorem returned_complete (hre : (machine sha256 restCount pgDump job).Reachable s)
    (hd : 3 ≤ recursionLimit) (he : s.phase = .returned ∨ s.phase = .raised true) :
    StandsComplete sha256 pgDump job recursionLimit s := by
  obtain ⟨snapshot, m, target, f, -, hp, hf, hs⟩ := finished_published hre he
  have hr : Registered sha256 recursionLimit f job.bundleId m := hp.registered hd hs
  exact verified_complete hre hd (verifyOffline_ok_iff.mpr ⟨job.version7, f, hf, hr⟩)

/-! ## A call that raises before its bundle is finished -/

/-- A step that does not keep the publishing thread from cleaning up: no cancellation while it
runs, no failure to give the claimed directory its permissions, a rollback that removes it. -/
def Undisturbed (s : BackupState Rest) : BackupAction Rest → Prop
  | .cancel => s.phase ≠ .publishing
  | .failPublish _ => ∀ publisher, s.publisher = some publisher → publisher.stage ≠ .permitting
  | .finishRollback complete => complete = true
  | _ => True

def Phase.mayKeep : Phase → Bool
  | .closing true | .reporting | .returned | .raised true | .stopped => true
  | _ => false

/-- Without a disturbance the final directory is there only while the call publishes it and after
it has finished. -/
structure Tidy (job : Job) (s : BackupState Rest) : Prop where
  absent : s.publisher = none → s.phase.mayKeep = false → s.root job.finalName = none
  publishing : ∀ publisher, s.publisher = some publisher → s.phase = .publishing ∧
    (publisher.stage ∈ [.writingManifest, .writingSidecar, .syncing, .claiming] →
      s.root job.finalName = none)

namespace BackupLemmas

variable {t : BackupState Rest}

theorem tidy_same (ht : Tidy job s) (hph : t.phase = s.phase)
    (publisher : t.publisher = s.publisher)
    (hf : s.root job.finalName = none → t.root job.finalName = none) : Tidy job t := by
  constructor
  · intro hn hk
    exact hf (ht.absent (publisher ▸ hn) (hph ▸ hk))
  · intro r is
    obtain ⟨hp, he⟩ := ht.publishing r (publisher ▸ is)
    exact ⟨hph.trans hp, fun hs => hf (he hs)⟩

theorem tidy_absent (publisher : t.publisher = none) (hf : t.root job.finalName = none) :
    Tidy job t := by
  constructor
  · exact fun _ _ => hf
  · intro r is
    rw [publisher] at is
    cases is

theorem tidy_kept (publisher : t.publisher = none) (hk : t.phase.mayKeep = true) : Tidy job t := by
  constructor
  · intro _ hl
    rw [hk] at hl
    cases hl
  · intro r is
    rw [publisher] at is
    cases is

theorem tidy_publish (ht : Tidy job s) {publisher : Publisher}
    (hr : s.publisher = some publisher) (hv : PublishMoves sha256 job s publisher t) :
    Tidy job t := by
  obtain ⟨hp, he⟩ := ht.publishing publisher hr
  -- A thread that goes on is at a stage before its claim only as long as nothing is there.
  have hf : ∀ {r : BackupState Rest} {hs : PublishStage}, r.phase = s.phase →
      (hs ∈ [.writingManifest, .writingSidecar, .syncing, .claiming] →
        r.root job.finalName = none) → Tidy job (r.setStage publisher hs) := by
    intro r hs hsa hfi
    constructor
    · rintro ⟨⟩
    · intro r' is
      cases is
      exact ⟨hsa.trans hp, hfi⟩
  cases hv with
  | wroteManifest hs =>
    exact hf rfl fun _ => (final_setStaging s _).trans (he (by simp [hs]))
  | wroteSidecar hs =>
    exact hf rfl fun _ => (final_setStaging s _).trans (he (by simp [hs]))
  | synced hs => exact hf rfl fun _ => he (by simp [hs])
  | claimed => exact hf rfl (by simp)
  | permitted => exact hf rfl (by simp)
  | listed => exact hf rfl (by simp)
  | movedAll => exact hf rfl (by simp)
  | moved => exact hf rfl (by simp)
  | dropped => exact hf rfl (by simp)
  | finished => exact tidy_kept rfl rfl
  | finishedLate _ hl => exact absurd hp hl

theorem tidy_step {a : BackupAction Rest} (hv : Moves sha256 restCount pgDump job s a t)
    (hw : World sha256 restCount pgDump job s) (hl : MainLine sha256 restCount pgDump job s)
    (hu : Undisturbed s a) (ht : Tidy job s) : Tidy job t := by
  have he : s.phase.isEarly = true → s.publisher = none ∧ s.root job.finalName = none := by
    intro is
    obtain ⟨target, publisher⟩ := early_unpublished hl is
    exact ⟨publisher, (hw.unpublished target).1⟩
  have hsa : ∀ {root : BackupRoot}, SameBeside [job.stagingName] s.root root →
      s.root job.finalName = none → root job.finalName = none :=
    fun hb hn => (hb _ (by simp [names_differ job])).trans hn
  cases hv with
  | world => exact tidy_same ht rfl rfl id
  | changeOther hf => exact tidy_same ht rfl rfl fun hn => (if_neg hf.symm).trans hn
  | stop => exact tidy_kept rfl rfl
  | opened hp =>
    obtain ⟨publisher, hf⟩ := he (by rw [hp]; rfl)
    exact tidy_absent publisher hf
  | refused _ _ hp =>
    obtain ⟨publisher, hf⟩ := he (by rcases hp with is | is | is <;> rw [is] <;> rfl)
    exact tidy_absent publisher hf
  | admitted hp =>
    obtain ⟨publisher, hf⟩ := he (by rw [hp]; rfl)
    exact tidy_absent publisher hf
  | made hp =>
    obtain ⟨publisher, hf⟩ := he (by rw [hp]; rfl)
    exact tidy_absent publisher ((final_setStaging s _).trans hf)
  | madeLate _ _ hb => exact tidy_same ht rfl rfl (hsa hb)
  | imported hp =>
    obtain ⟨publisher, hf⟩ := he (by rw [hp]; rfl)
    exact tidy_absent publisher hf
  | dumped hp =>
    obtain ⟨publisher, hf⟩ := he (by rw [hp]; rfl)
    exact tidy_absent publisher ((final_setStaging s _).trans hf)
  | read hp =>
    obtain ⟨publisher, hf⟩ := he (by rw [hp]; rfl)
    exact tidy_absent publisher hf
  | written hp =>
    obtain ⟨publisher, hf⟩ := he (by rw [hp]; rfl)
    exact tidy_absent publisher ((final_setStaging s _).trans hf)
  | lateWrite _ _ hb => exact tidy_same ht rfl rfl (hsa hb)
  | discarded _ hp hb =>
    obtain ⟨publisher, hf⟩ := he (by
      rcases hp with ⟨_, is⟩ | ⟨_, _, _, is⟩ <;> rw [is] <;> rfl)
    exact tidy_absent publisher (hsa hb hf)
  | observed hp =>
    obtain ⟨-, hf⟩ := he (by rw [hp]; rfl)
    constructor
    · rintro ⟨⟩
    · intro hr is
      cases is
      exact ⟨rfl, fun _ => hf⟩
  | cancelled hp => exact absurd hp hu
  | @ended _ f n hp is =>
    have publisher : s.publisher = none := by
      rcases hr : s.publisher with - | publisher
      · rfl
      · rw [(ht.publishing publisher hr).1] at hp
        cases hp
    cases f with
    | true => exact tidy_kept publisher (by rcases is with rfl | ⟨-, rfl⟩ <;> rfl)
    | false => exact tidy_absent publisher (ht.absent publisher (by rw [hp]; rfl))
  | @reported su hp =>
    have publisher : s.publisher = none := by
      rcases hr : s.publisher with - | publisher
      · rfl
      · rw [(ht.publishing publisher hr).1] at hp
        cases hp
    exact tidy_kept publisher (by cases su <;> rfl)
  | removal _ _ _ is _ hs =>
    rcases is with rfl | ⟨⟨fu, hp⟩, -⟩
    · exact tidy_same ht rfl rfl (hs.2 job.finalName)
    · have publisher : s.publisher = none := by
        rcases hr : s.publisher with - | publisher
        · rfl
        · rw [(ht.publishing publisher hr).1] at hp
          cases hp
      exact tidy_absent publisher (hs.2 _ (ht.absent publisher (by rw [hp]; rfl)))
  | publish hr hv => exact tidy_publish ht hr (publishMoves_of_step hv)
  | @failPublish publisher _ _ hr hv =>
    obtain ⟨hp, hn⟩ := ht.publishing _ hr
    rcases failPublishStep_cases hv with ⟨hst, root, hb, rfl⟩ | ⟨-, rfl⟩
    · have hc : publisher.stage ≠ .permitting := hu publisher hr
      have hf := hsa hb (hn (by
        simp only [List.mem_cons, List.not_mem_nil, or_false] at hst ⊢
        tauto))
      obtain ⟨n, r, is, -⟩ := failPublication_cases { s with root }
      rw [is]
      exact tidy_absent rfl hf
    · constructor
      · rintro ⟨⟩
      · intro r' is
        cases is
        exact ⟨hp, by simp⟩
  | rolledBack hr _ hs => exact tidy_same ht rfl rfl (hs.2 job.finalName)
  | @rollbackEnded _ _ root hr _ _ hg =>
    obtain ⟨n, r, is, -⟩ := failPublication_cases { s with root }
    rw [is]
    exact tidy_absent rfl (hg hu)

end BackupLemmas

theorem tidy_of_reachable
    (hr : (machine sha256 restCount pgDump job).GuardedReachable Undisturbed s) :
    Tidy job s := by
  induction hr with
  | init hi =>
    obtain ⟨-, hf, -, -, -, -, publisher, -⟩ := hi
    exact tidy_absent publisher hf
  | step hb hu hv ht =>
    obtain ⟨hw, hl⟩ := backup_invariant hb.reachable
    exact tidy_step (moves_of_step hv) hw hl hu ht

/-- A call that raises before its bundle is finished leaves no final directory. -/
theorem raised_absent (hre : (machine sha256 restCount pgDump job).GuardedReachable Undisturbed s)
    (hr : s.phase = .raised false) : s.root job.finalName = none := by
  have ht := tidy_of_reachable hre
  rcases hru : s.publisher with - | publisher
  · exact ht.absent hru (by rw [hr]; rfl)
  · rw [(ht.publishing publisher hru).1] at hr
    cases hr

/-- A backup is all or nothing, up to the end of its publication: what it returns with, or raises
with afterwards, is verified and complete; a directory that verifies is complete, whenever the
process stopped; an earlier failure leaves nothing; and no other bundle is touched. -/
theorem createBackup_all_or_nothing (sha256 : Bytes → ContentDigest)
    (restCount : Rest → String → Nat) (pgDump : CanonicalDatabase Rest → Bytes) (job : Job)
    {recursionLimit : Nat} (deep : 3 ≤ recursionLimit) :
    (∀ s, (machine sha256 restCount pgDump job).Reachable s →
      (s.phase = .returned ∨ s.phase = .raised true →
        StandsComplete sha256 pgDump job recursionLimit s) ∧
      ∀ manifest, verifyOffline sha256 recursionLimit s.root job.bundleId = .ok manifest →
        StandsComplete sha256 pgDump job recursionLimit s) ∧
    (∀ s, (machine sha256 restCount pgDump job).GuardedReachable Undisturbed s →
      s.phase = .raised false → s.root job.finalName = none) ∧
    (∀ s action t, (machine sha256 restCount pgDump job).step s action = some t →
      ∀ name, name ≠ job.finalName → name ≠ job.stagingName →
        (∀ entry, action ≠ .changeOther name entry) → t.root name = s.root name) ∧
    ∀ root bundleId manifest, verifyOffline sha256 recursionLimit root bundleId = .ok manifest ↔
      bundleId.isVersion7 = true ∧ ∃ tree, root bundleId.text = some (.directory tree) ∧
        Registered sha256 recursionLimit tree bundleId manifest := by
  refine ⟨fun s hr => ⟨returned_complete hr deep, fun manifest hv => ?_⟩, ?_, ?_, ?_⟩
  · exact verified_complete hr deep hv
  · exact fun s hr hra => raised_absent hr hra
  · exact fun s action t hm name hf hs own =>
      step_other_names hm hf hs own
  · exact fun root bundleId manifest => verifyOffline_ok_iff

/-! ### A run -/

/-- A database without rows. -/
def emptyDatabase : CanonicalDatabase Unit where
  schemaHead := postgresqlSchemaRevision
  graph := .empty
  rest := ()
  keyed := SourceStore.keyed_empty
  candidateStored := by simp [SourceStore.Db.empty]

def sampleJob : Job where
  bundleId := ⟨"0198a1b2c3d47e5f8a9b0c1d2e3f4a5b".toList, by decide⟩
  version7 := by decide
  nonce := "00112233445566778899aabbccddeeff".toList
  environment := .test

def sampleMoment : Timestamp := ⟨2026, 9, 2, 8, 30, 0, 0, by decide⟩

def sampleDump : Bytes := [80, 71, 68, 77, 80]

/-- SHA-256 on the dump and on the line of the manifest. -/
def sampleSha256 (bytes : Bytes) : ContentDigest :=
  if bytes = sampleDump then
    ⟨"b5a26a21290c39819235a235b8ed66b3bd98ed90c8316c8949bfbb7419cac878".toList, by decide +kernel⟩
  else
    ⟨"67c2dfc96b9c92b349f4956934777c24eac9d32920bf65a812e1a5e4d5b4c596".toList, by decide +kernel⟩

def sampleMachine : Machine (BackupState Unit) (BackupAction Unit) :=
  machine sampleSha256 (fun _ _ => 0) (fun _ => sampleDump) sampleJob

def sampleStart : BackupState Unit where
  database := emptyDatabase
  bucket _ := none
  root _ := none
  snapshot := none
  sessionAlive := false
  phase := .opening
  makerRunning := false
  writes := []
  publisher := none
  removers := []
  isAbandoned := false
  target := none

/-- The backup of a database without objects, to the return of `finalize`. -/
def sampleScript : List (BackupAction Unit) :=
  [.openSnapshot "18.4".toList, .admitStaging true, .makeStaging true, .importSnapshot,
    .finishDump, .observePendingWriters 0 sampleMoment] ++ List.replicate 12 .publish

theorem sampleStart_initial : sampleMachine.Init sampleStart :=
  ⟨rfl, rfl, rfl, rfl, rfl, rfl, rfl, rfl, rfl⟩

/-- A cancellation after `finalize` raises and keeps the bundle. -/
theorem createBackup_cancelled_late : ¬∀ s, sampleMachine.Reachable s →
    (∃ finalized, s.phase = .raised finalized) → s.root sampleJob.finalName = none := by
  intro hc
  have ho : (sampleMachine.run sampleStart (sampleScript ++ [.cancel])).map
      (fun s => (s.phase, (s.root sampleJob.finalName).isNone)) = some (.raised true, false) := by
    decide +kernel
  obtain ⟨s, ran, is⟩ := Option.map_eq_some_iff.mp ho
  obtain ⟨hr, hk⟩ := Prod.mk.inj is
  rw [hc s (Machine.reachable_of_run sampleStart_initial ran) ⟨true, hr⟩] at hk
  cases hk

end PersonalOs.Recovery
