import PersonalOs.Journal.JournalMachine

/-!
# The endpoints of rename intents

A rename intent reserves the path its file will move to. An admission looks for such a reservation
before it awaits the bytes of a path, and inserts a file for them later.
-/

namespace PersonalOs.Journal

open PersonalOs.DeviceSync (Locator)

/-! ## Admissions and renames -/

/-- An admission that awaits the bytes of its path, with the row it has read. -/
structure PathAdmission where
  normalizedPath : Locator
  trackedFile : Option LocalFile
deriving DecidableEq

/-- The journal and the admissions under way. -/
structure EndpointWorld where
  journal : JournalRepository
  admissions : List PathAdmission
deriving DecidableEq

/-- The calls of captures and renames, cut at their awaits. -/
inductive EndpointAction
  | beginAdmission (normalizedPath : Locator)
  | leaveAdmission (admission : PathAdmission)
  | admitBytes (admission : PathAdmission) (fingerprint : FrozenFingerprint)
      (policyRevisionNumber : Nat) (isAllowed : Bool) (draw : Draw)
  | deferMissing (eventId : Nat) (input : AttemptInput) (due : Nat)
  | restoreTombstoned (localFileId : Nat) (operands : LifecycleEventOperands)
      (tombstoneId : Option Nat) (draw : Draw)
  | reconcileTombstoned (localFileId : Nat)
  | observeRename (localFileId : Nat) (prior current : Locator)
  | materialize (localFileId : Nat) (captured : FrozenFingerprint) (draw : Draw)
deriving DecidableEq

namespace JournalRepository

variable (journal : JournalRepository)

def readPendingRenameIntentByCurrentPath (currentPath : Locator) : Option PendingRenameIntent :=
  Tables.lookup (·.currentPath) journal.pendingRenameIntents currentPath

/-- The durable part of `#isLifecycleDeferredPath`. -/
def isLifecycleDeferredPath (normalizedPath : Locator) : Bool :=
  (journal.readLocalFileByPath normalizedPath).any fun file =>
    file.lifecycleState == .restorePending ||
      journal.journalEvents.any fun event =>
        event.localFileId == file.localFileId && event.state == .deferredLifecycle

/-- The path belongs to a file with an identity and an open tombstone: the restore detector owns
it. -/
def isTombstonedPath (normalizedPath : Locator) : Bool :=
  (journal.readLocalFileByPath normalizedPath).any fun file =>
    file.sourceId.isSome && file.baseVersionId.isSome && file.openTombstoneId.isSome

end JournalRepository

/-- The verdict of `#admitNormalizedPath` on the bytes. -/
def captureAdmission (fingerprint : FrozenFingerprint) (isAllowed : Bool) :
    JournalCaptureAdmission :=
  if maxMultipartFileSizeBytes < fingerprint.sizeBytes then .blockedSize
  else if isAllowed then .policyAllowed
  else .excludedPolicy

def EndpointWorld.step (world : EndpointWorld) : EndpointAction → Option EndpointWorld
  | .beginAdmission normalizedPath =>
    if world.journal.isLifecycleDeferredPath normalizedPath ||
        (world.journal.readPendingRenameIntentByCurrentPath normalizedPath).isSome ||
        world.journal.isTombstonedPath normalizedPath then none
    else some { world with
      admissions := world.admissions ++ [{ normalizedPath := normalizedPath
                                           trackedFile :=
                                            world.journal.readLocalFileByPath normalizedPath }] }
  | .leaveAdmission admission =>
    some { world with admissions := world.admissions.erase admission }
  | .admitBytes admission fingerprint policyRevisionNumber isAllowed draw =>
    let verdict := captureAdmission fingerprint isAllowed
    if !world.admissions.contains admission || verdict == .policyAllowed &&
        (admission.trackedFile.bind (·.lastCommittedFingerprint)) == some fingerprint then none
    else (answered (world.journal.recordCapture
      { normalizedPath := admission.normalizedPath
        fingerprint := fingerprint
        policyRevisionNumber := policyRevisionNumber
        admission := verdict } draw)).map fun journal =>
          { journal := journal, admissions := world.admissions.erase admission }
  | .deferMissing eventId input due =>
    (answered (world.journal.resolveIntentAwareLocalFileMissing eventId input due)).map
      fun journal => { world with journal }
  | .restoreTombstoned localFileId operands tombstoneId draw =>
    if operands.operation == .restore then
      (answered (world.journal.recordLifecycleEventWithFreeze localFileId operands tombstoneId none
        draw)).map fun journal => { world with journal }
    else none
  | .reconcileTombstoned localFileId =>
    (accepted (world.journal.recordLifecycleReconcileForLocalFile localFileId)).map
      fun journal => { world with journal }
  | .observeRename localFileId prior current =>
    (answered (world.journal.recordOrComposePendingRenameIntent localFileId prior current)).map
      fun journal => { world with journal }
  | .materialize localFileId captured draw =>
    (answered (world.journal.recordPendingRenameLifecycleEvent localFileId captured draw)).map
      fun journal => { world with journal }

/-- No other file is at the endpoint of an intent, and no other intent ends there. -/
def EndpointsReserved (journal : JournalRepository) : Prop :=
  ∀ intent ∈ journal.pendingRenameIntents,
    (∀ row ∈ journal.localFiles, row.localFileId ≠ intent.localFileId →
      row.normalizedPath ≠ intent.currentPath) ∧
    ∀ other ∈ journal.pendingRenameIntents, other.localFileId ≠ intent.localFileId →
      other.currentPath ≠ intent.currentPath

/-- Captures and renames of any files, from any journal with reserved endpoints. -/
def endpointMachine : Machine EndpointWorld EndpointAction where
  Init := fun world => EndpointsReserved world.journal ∧ world.admissions = []
  step := EndpointWorld.step

/-- An admission does not insert a file at the endpoint of an intent. -/
def EndpointWorld.sparesEndpoint (world : EndpointWorld) : EndpointAction → Bool
  | .admitBytes admission _ _ _ draw =>
    (world.journal.readLocalFileByPath admission.normalizedPath).isSome ||
      world.journal.isAtQueueLimit draw.imageBytes ||
        (world.journal.readPendingRenameIntentByCurrentPath admission.normalizedPath).isNone
  | _ => true

/-! ## What the calls do to paths and intents -/

/-- Paths and intents only go. -/
structure EndpointsKept (before after : JournalRepository) : Prop where
  rows : ∀ row' ∈ after.localFiles, ∃ row ∈ before.localFiles,
    row.localFileId = row'.localFileId ∧ row.normalizedPath = row'.normalizedPath
  intents : ∀ intent ∈ after.pendingRenameIntents, intent ∈ before.pendingRenameIntents

theorem EndpointsKept.of_same {b a : JournalRepository} (hf : a.localFiles = b.localFiles)
    (hi : a.pendingRenameIntents ⊆ b.pendingRenameIntents) :
    EndpointsKept b a :=
  ⟨fun r' hm => ⟨r', hf ▸ hm, rfl, rfl⟩, fun _ hm => hi hm⟩

theorem EndpointsKept.trans {a b c : JournalRepository} (hf : EndpointsKept a b)
    (hse : EndpointsKept b c) : EndpointsKept a c where
  rows := fun r'' hm => by
    obtain ⟨r', hm', hsa', hs'⟩ := hse.rows r'' hm
    obtain ⟨row, hm, hsa, hs⟩ := hf.rows r' hm'
    exact ⟨row, hm, hsa.trans hsa', hs.trans hs'⟩
  intents := fun i hm => hf.intents i (hse.intents i hm)

theorem EndpointsReserved.kept {b a : JournalRepository}
    (hr : EndpointsReserved b) (hk : EndpointsKept b a) :
    EndpointsReserved a := by
  intro i hm
  obtain ⟨hno, hn⟩ := hr i (hk.intents i hm)
  refine ⟨fun r' hro ha => ?_, fun o ho => hn o (hk.intents o ho)⟩
  obtain ⟨row, hi, hsa, hs⟩ := hk.rows r' hro
  rw [← hs]
  exact hno row hi (hsa ▸ ha)

namespace EndpointsLemmas

open MoveLemmas

variable {journal next : JournalRepository} {localFileId : Nat}

theorem endpoints_updateLocalFile {w : LocalFile → LocalFile}
    (hk : ∀ row, (w row).localFileId = row.localFileId ∧
      (w row).normalizedPath = row.normalizedPath) :
    EndpointsKept journal (journal.updateLocalFile localFileId w) := by
  refine ⟨fun r' hm => ?_, fun _ hm => hm⟩
  obtain ⟨row, hs, hw⟩ := Tables.mem_updateWhere.mp hm
  refine ⟨row, hs, ?_⟩
  rw [← hw]
  split
  · exact ⟨(hk row).1.symm, (hk row).2.symm⟩
  · exact ⟨rfl, rfl⟩

variable {path : Locator} {draw : Draw}

theorem reserved_rebind {w : LocalFile → LocalFile} (hre : EndpointsReserved journal)
    (hfr : ∀ i ∈ journal.pendingRenameIntents, i.localFileId ≠ localFileId → i.currentPath ≠ path)
    (hr : journal.rebindLocalFile localFileId path w = .ok next)
    (hk : ∀ row, (w row).localFileId = row.localFileId) : EndpointsReserved next := by
  unfold JournalRepository.rebindLocalFile at hr
  split at hr
  · exact nomatch hr
  cases hr
  intro i hm
  obtain ⟨hno, hn⟩ := hre i hm
  refine ⟨fun r' hro ha => ?_, hn⟩
  obtain ⟨row, hs, hw⟩ := Tables.mem_updateWhere.mp hro
  split at hw
  · next hf =>
    rw [← hw] at ha ⊢
    refine fun he => hfr i hm (fun ho => ha ?_) he.symm
    exact (hk row).trans ((beq_iff_eq.mp hf).trans ho.symm)
  · rw [← hw] at ha ⊢
    exact hno row hs ha

theorem endpoints_dropIntent :
    EndpointsKept journal ((journal.dropDeferralOfFile localFileId).dropIntent localFileId) :=
  .of_same rfl fun _ hm => (List.mem_filter.mp hm).1

theorem reserved_reparent {r : Bool} (hre : EndpointsReserved journal)
    (hfr : ∀ i ∈ journal.pendingRenameIntents, i.localFileId ≠ localFileId → i.currentPath ≠ path)
    (hv : journal.reparentAndClearIntent localFileId path r = .ok next) :
    EndpointsReserved next := by
  obtain ⟨re, hr, hv⟩ := bind_ok hv
  have hc : EndpointsReserved ((journal.dropDeferralOfFile localFileId).dropIntent localFileId) :=
    hre.kept endpoints_dropIntent
  have hf : EndpointsReserved re := reserved_rebind hc
    (fun i hm => hfr i (List.mem_filter.mp hm).1) hr fun _ => rfl
  cases hv
  split <;> exact hf

theorem reserved_reconcile (hre : EndpointsReserved journal)
    (hfr : ∀ i ∈ journal.pendingRenameIntents, i.localFileId ≠ localFileId → i.currentPath ≠ path)
    (hv : journal.reconcilePendingRenameIntent localFileId path = .ok next) :
    EndpointsReserved next := by
  obtain ⟨r, hr, hv⟩ := bind_ok hv
  have hc : EndpointsReserved ((journal.dropDeferralOfFile localFileId).dropIntent localFileId) :=
    hre.kept endpoints_dropIntent
  have hf : EndpointsReserved r := reserved_rebind hc
    (fun i hm => hfr i (List.mem_filter.mp hm).1) hr fun _ => rfl
  cases hv
  exact hf

theorem reserved_conflictOut {α : Type} {an : PendingRename α} (hre : EndpointsReserved journal)
    (hf : ∀ i ∈ journal.pendingRenameIntents, i.localFileId ≠ localFileId →
      i.currentPath ≠ path) (hv : journal.conflictOut localFileId path = .ok (an, next))
    :
    EndpointsReserved next := by
  obtain ⟨r, hr, hv⟩ := bind_ok hv
  cases hv
  exact reserved_reconcile hre hf hr

theorem free_endpoint (hr : EndpointsReserved journal) {i : PendingRenameIntent}
    (hf : journal.readPendingRenameIntentForLocalFile localFileId = some i) :
    ∀ o ∈ journal.pendingRenameIntents, o.localFileId ≠ localFileId →
      o.currentPath ≠ i.currentPath := by
  have ho : i.localFileId = localFileId := Tables.key_of_lookup hf
  intro o hm ha
  exact (hr i (Tables.mem_of_lookup hf)).2 o hm (ho ▸ ha)

theorem free_path (hr : EndpointsReserved journal) {f : LocalFile}
    (hf : journal.readLocalFileByLocalFileId localFileId = some f) :
    ∀ o ∈ journal.pendingRenameIntents, o.localFileId ≠ localFileId →
      o.currentPath ≠ f.normalizedPath := by
  have ho : f.localFileId = localFileId := Tables.key_of_lookup hf
  intro o hm ha he
  refine (hr o hm).1 f (Tables.mem_of_lookup hf) ?_ he.symm
  rw [ho]
  exact ha.symm

/-! Captures. -/

theorem endpoints_recordCapture {i : JournalCaptureInput} {an : JournalCaptureResult}
    (hr : EndpointsReserved journal)
    (hs : (journal.readLocalFileByPath i.normalizedPath).isSome = true ∨
      journal.isAtQueueLimit draw.imageBytes = true ∨
        journal.readPendingRenameIntentByCurrentPath i.normalizedPath = none)
    (hd : journal.recordCapture i draw = .ok (an, next)) :
    EndpointsReserved next := by
  have ho : ∀ (m : JournalRepository) (id : Nat),
      EndpointsKept m (m.writeObservedFingerprint id i) := fun _ _ =>
    endpoints_updateLocalFile fun _ => ⟨rfl, rfl⟩
  unfold JournalRepository.recordCapture at hd
  split at hd
  · exact nomatch hd
  split at hd
  · next e hc =>
    cases hd
    have hre : EndpointsKept journal (journal.updateEvent e.eventId (journal.coalescedRow i)) :=
      .of_same rfl (List.Subset.refl _)
    exact hr.kept (hre.trans (ho _ _))
  · split at hd
    · cases hd
      exact hr.kept (.of_same rfl (List.Subset.refl _))
    next hb =>
    obtain ⟨m, hw, hd⟩ := bind_ok hd
    obtain ⟨w, ha, hd⟩ := bind_ok hd
    have hf : EndpointsReserved m := by
      unfold JournalRepository.captureFile at hw
      split at hw
      · cases hw
        exact hr.kept (ho _ _)
      next hun =>
      split at hw
      · exact nomatch hw
      cases hw
      -- the inserted file is at a path no intent ends at
      have hu : journal.readPendingRenameIntentByCurrentPath i.normalizedPath = none := by
        rcases hs with ht | hat | hu
        · rw [hun] at ht
          exact nomatch ht
        · exact absurd hat hb
        · exact hu
      intro it hm
      obtain ⟨hno, hn⟩ := hr it hm
      refine ⟨fun row hro hap => ?_, hn⟩
      rcases List.mem_append.mp hro with old | hne
      · exact hno row old hap
      · rw [List.mem_singleton.mp hne]
        exact fun he => Tables.lookup_none_iff.mp hu it hm he.symm
    have hj : EndpointsReserved w := by
      rw [appendEvent_ok ha]
      exact hf.kept (.of_same rfl (List.Subset.refl _))
    cases hd
    split <;> exact hj

theorem endpoints_resolveLocalFileMissing {ei due : Nat} {i : AttemptInput}
    {an : LocalFileMissingResolution} (hre : EndpointsReserved journal)
    (hr : journal.resolveIntentAwareLocalFileMissing ei i due =
      .ok (an, next)) : EndpointsReserved next := by
  obtain ⟨_, _, hr⟩ := bind_ok hr
  obtain ⟨e, hf, hr⟩ := bind_ok hr
  obtain ⟨_, _, hr⟩ := bind_ok hr
  dsimp only at hr
  split at hr
  · cases hr
    exact hre.kept (.of_same rfl (List.Subset.refl _))
  · next it hh =>
    split at hr
    · cases hr
      exact hre.kept (.of_same rfl (List.Subset.refl _))
    · split at hr
      · obtain ⟨r, hrd, hr⟩ := bind_ok hr
        cases hr
        have hc : EndpointsReserved ((journal.recordAttempt (i.row ei
            .deferredLifecycle)).closeContentEvent ei .deferredLifecycle .deferredLifecycle) :=
          hre.kept (.of_same rfl (List.Subset.refl _))
        exact reserved_reparent hc (free_endpoint hre hh) hrd
      · cases hr
        exact hre.kept (.of_same rfl (List.Subset.refl _))

/-! Renames. -/

theorem unreserved_spec (hf : journal.isTargetReserved localFileId path = false) :
    (∀ row ∈ journal.localFiles, row.localFileId ≠ localFileId → row.normalizedPath ≠ path) ∧
      ∀ o ∈ journal.pendingRenameIntents, o.localFileId ≠ localFileId →
        o.currentPath ≠ path := by
  simp only [JournalRepository.isTargetReserved, Bool.or_eq_false_iff, List.any_eq_false,
    Bool.and_eq_true, beq_iff_eq, bne_iff_ne, not_and] at hf
  obtain ⟨hno, hn⟩ := hf
  exact ⟨fun row hm ha he => hno row hm he ha,
    fun o hm ha he => hn o hm he ha⟩

theorem reserved_extended (hr : EndpointsReserved journal)
    (hfr : journal.isTargetReserved localFileId path = false)
    (hf : next.localFiles = journal.localFiles) (hi : ∀ i ∈ next.pendingRenameIntents,
      i ∈ journal.pendingRenameIntents ∧ i.localFileId ≠ localFileId ∨
        i.localFileId = localFileId ∧ i.currentPath = path) :
    EndpointsReserved next := by
  obtain ⟨hno, hn⟩ := unreserved_spec hfr
  intro i hm
  rw [hf]
  rcases hi i hm with ⟨hs, ho⟩ | ⟨own, hp⟩
  · refine ⟨(hr i hs).1, fun i' hm' ha => ?_⟩
    rcases hi i' hm' with ⟨hs', _⟩ | ⟨_, hp⟩
    · exact (hr i hs).2 i' hs' ha
    · rw [hp]
      exact (hn i hs ho).symm
  · rw [hp, own]
    refine ⟨hno, fun i' hm' ha => ?_⟩
    rcases hi i' hm' with ⟨hs', ho'⟩ | ⟨own', _⟩
    · exact hn i' hs' ho'
    · exact absurd own' ha

theorem endpoints_recordOrCompose {p c : Locator}
    {an : PendingRename PendingRenameIntentOutcome} (hr : EndpointsReserved journal)
    (hd : journal.recordOrComposePendingRenameIntent localFileId p c =
      .ok (an, next)) : EndpointsReserved next := by
  have he : ∀ path : Locator, journal.isTargetReserved localFileId path = false →
      EndpointsReserved (journal.setIntentCurrentPath localFileId path) := by
    intro path hf
    refine reserved_extended hr hf rfl fun i hm => ?_
    obtain ⟨sd, hi, hw⟩ := Tables.mem_updateWhere.mp hm
    split at hw
    · next ho =>
      rw [← hw]
      exact .inr ⟨beq_iff_eq.mp ho, rfl⟩
    · next hot =>
      rw [← hw]
      exact .inl ⟨hi, fun hs => hot (beq_iff_eq.mpr hs)⟩
  unfold JournalRepository.recordOrComposePendingRenameIntent at hd
  split at hd
  · exact nomatch hd
  split at hd
  · exact nomatch hd
  next f hfo =>
  split at hd
  · exact nomatch hd
  dsimp only at hd
  split at hd
  · next hn =>
    split at hd
    · exact reserved_conflictOut hr (free_path hr hfo) hd
    next ha =>
    cases hd
    rw [Bool.or_eq_true, not_or] at ha
    refine reserved_extended hr (Bool.not_eq_true _ ▸ ha.2) rfl fun i hm => ?_
    rcases List.mem_append.mp hm with old | hne
    · exact .inl ⟨old, Tables.lookup_none_iff.mp hn i old⟩
    · rw [List.mem_singleton.mp hne]
      exact .inr ⟨rfl, rfl⟩
  · next sd hh =>
    split at hd
    · cases hd
      exact hr
    split at hd
    · exact reserved_conflictOut hr (free_endpoint hr hh) hd
    next ha =>
    rw [Bool.or_eq_true, not_or] at ha
    have hf : journal.isTargetReserved localFileId c = false := Bool.not_eq_true _ ▸ ha.2
    split at hd
    · next hre =>
      split at hd
      · cases hd
        exact hr.kept endpoints_dropIntent
      · cases hd
        exact he _ (beq_iff_eq.mp hre ▸ hf)
      · exact reserved_conflictOut hr (free_endpoint hr hh) hd
    · cases hd
      exact he _ hf

theorem endpoints_writeLifecycleEvent {o : LifecycleEventOperands} {ti : Option Nat}
    {np : Option Locator} {an : LifecycleRecordResult}
    (hr : EndpointsReserved journal)
    (hf : ∀ path ∈ JournalRepository.recordedPath o np,
      ∀ i ∈ journal.pendingRenameIntents, i.localFileId ≠ localFileId → i.currentPath ≠ path)
    (hw : journal.writeLifecycleEvent localFileId o ti np draw =
      .ok (an, next)) : EndpointsReserved next := by
  rcases writeLifecycleEvent_ok hw with ⟨_, rfl⟩ | ⟨_, _, _, hi⟩
  · exact hr
  obtain ⟨we, ha, hi⟩ := bind_ok hi
  obtain ⟨wo, ho, hw⟩ := bind_ok hi
  have hj := appendOperands_ok ho
  rw [appendEvent_ok ha] at hj
  have hjo : EndpointsReserved wo := by
    rw [hj]
    exact hr.kept (.of_same rfl (List.Subset.refl _))
  have hs : wo.pendingRenameIntents = journal.pendingRenameIntents := by
    rw [hj]
  unfold JournalRepository.writeRecordedFile at hw
  split at hw
  · next path hp =>
    refine reserved_rebind hjo (fun i hm => ?_) hw fun _ => rfl
    exact hf path hp i (hs ▸ hm)
  · cases hw
    exact hjo.kept (endpoints_updateLocalFile fun _ => ⟨rfl, rfl⟩)

theorem endpoints_materialize {c : FrozenFingerprint}
    {an : PendingRename (Option LifecycleRecordResult)} (hr : EndpointsReserved journal)
    (hd : journal.recordPendingRenameLifecycleEvent localFileId c draw =
      .ok (an, next)) : EndpointsReserved next := by
  unfold JournalRepository.recordPendingRenameLifecycleEvent at hd
  split at hd
  · cases hd
    exact hr
  next i hh =>
  have hf := free_endpoint hr hh
  split at hd
  · split at hd
    · exact reserved_conflictOut hr hf hd
    split at hd
    · exact nomatch hd
    split at hd
    · exact nomatch hd
    split at hd
    · split at hd
      · exact nomatch hd
      · obtain ⟨⟨an', n'⟩, hm, hd⟩ := bind_ok hd
        cases hd
        have hfr : EndpointsReserved (((journal.freezeEvents
            localFileId).dropMultipartOfFile localFileId fun e =>
              e.state == .deferredLifecycle).dropDeferralOfFile localFileId) :=
          hr.kept (.of_same rfl (List.Subset.refl _))
        refine endpoints_writeLifecycleEvent hfr (fun path hp => ?_) hm
        unfold JournalRepository.recordedPath at hp
        split at hp
        · obtain rfl : i.currentPath = path := Option.some.inj hp
          exact hf
        · exact nomatch hp
    · cases hd
      exact hr
  · unfold JournalRepository.answerOpenPrefix at hd
    split at hd
    · split at hd
      · exact reserved_conflictOut hr hf hd
      · cases hd
        exact hr
    · exact nomatch hd
  · exact nomatch hd

theorem endpoints_restore {o : LifecycleEventOperands} {ti : Option Nat}
    {an : LifecycleRecordResult} (hre : EndpointsReserved journal)
    (hr : o.operation = .restore)
    (hd : journal.recordLifecycleEventWithFreeze localFileId o ti none draw =
      .ok (an, next)) : EndpointsReserved next := by
  unfold JournalRepository.recordLifecycleEventWithFreeze at hd
  split at hd
  · have hf : EndpointsReserved
        ((journal.freezeEvents localFileId).dropDeferralOfFile localFileId) :=
      hre.kept (.of_same rfl (List.Subset.refl _))
    refine endpoints_writeLifecycleEvent hf (fun path hp => ?_) hd
    rw [JournalRepository.recordedPath, hr] at hp
    exact nomatch hp
  · exact nomatch hd

theorem endpoints_reconcile (hre : EndpointsReserved journal)
    (hr : journal.recordLifecycleReconcileForLocalFile localFileId = .ok next) :
    EndpointsReserved next := by
  unfold JournalRepository.recordLifecycleReconcileForLocalFile at hr
  split at hr
  · exact nomatch hr
  next f hf =>
  refine reserved_reconcile hre ?_ hr
  cases hh : journal.readPendingRenameIntentForLocalFile localFileId with
  | none => exact free_path hre hf
  | some i => exact free_endpoint hre hh

theorem endpoints_step {w w' : EndpointWorld} {ac : EndpointAction}
    (hr : EndpointsReserved w.journal) (hs : w.sparesEndpoint ac = true)
    (hv : endpointMachine.step w ac = some w') :
    EndpointsReserved w'.journal := by
  cases ac with
  | beginAdmission np =>
    change w.step (.beginAdmission np) = some w' at hv
    rw [EndpointWorld.step] at hv
    split at hv
    · exact nomatch hv
    · cases hv
      exact hr
  | leaveAdmission a =>
    cases hv
    exact hr
  | admitBytes a f pr ia draw =>
    change w.step (.admitBytes a f pr ia draw) = some w' at hv
    rw [EndpointWorld.step] at hv
    split at hv
    · exact nomatch hv
    obtain ⟨j', ha, rfl⟩ := Option.map_eq_some_iff.mp hv
    obtain ⟨_, hd⟩ := answered_some ha
    refine endpoints_recordCapture hr ?_ hd
    rw [EndpointWorld.sparesEndpoint, Bool.or_eq_true, Bool.or_eq_true, or_assoc] at hs
    exact hs.imp_right (Or.imp_right Option.isNone_iff_eq_none.mp)
  | deferMissing ei i due =>
    obtain ⟨j', ha, rfl⟩ := Option.map_eq_some_iff.mp hv
    obtain ⟨_, hrd⟩ := answered_some ha
    exact endpoints_resolveLocalFileMissing hr hrd
  | restoreTombstoned localFileId o ti draw =>
    change w.step (.restoreTombstoned localFileId o ti draw) = some w' at hv
    rw [EndpointWorld.step] at hv
    split at hv
    · next hre =>
      obtain ⟨j', ha, rfl⟩ := Option.map_eq_some_iff.mp hv
      obtain ⟨_, hd⟩ := answered_some ha
      exact endpoints_restore hr (beq_iff_eq.mp hre) hd
    · exact nomatch hv
  | reconcileTombstoned localFileId =>
    obtain ⟨j', hac, rfl⟩ := Option.map_eq_some_iff.mp hv
    exact endpoints_reconcile hr (accepted_some hac)
  | observeRename localFileId p cu =>
    obtain ⟨j', ha, rfl⟩ := Option.map_eq_some_iff.mp hv
    obtain ⟨_, hd⟩ := answered_some ha
    exact endpoints_recordOrCompose hr hd
  | materialize localFileId c draw =>
    obtain ⟨j', ha, rfl⟩ := Option.map_eq_some_iff.mp hv
    obtain ⟨_, hd⟩ := answered_some ha
    exact endpoints_materialize hr hd

theorem endpoints_init {w : EndpointWorld} (hi : endpointMachine.Init w) :
    EndpointsReserved w.journal := hi.1

theorem rebind_endpoint (hr : EndpointsReserved journal) {i : PendingRenameIntent}
    (hm : i ∈ journal.pendingRenameIntents) (hf : next.localFiles = journal.localFiles)
    (w : LocalFile → LocalFile) :
    ∃ r, next.rebindLocalFile i.localFileId i.currentPath w = .ok r := by
  have hfr : next.isPathTaken i.localFileId i.currentPath = false := by
    rw [JournalRepository.isPathTaken, hf]
    refine Bool.and_eq_false_iff.mpr (.inr (List.any_eq_false.mpr fun row hro ht => ?_))
    rw [Bool.and_eq_true, bne_iff_ne, beq_iff_eq] at ht
    exact (hr i hm).1 row hro ht.1 ht.2
  rw [JournalRepository.rebindLocalFile, hfr, if_neg Bool.false_ne_true]
  exact ⟨_, rfl⟩

end EndpointsLemmas

open EndpointsLemmas in
/-- Along every run in which no admission inserts a file at an endpoint, the endpoints are
reserved: reconciling an intent succeeds, and so does every rebind of its file to its endpoint. -/
theorem endpoints_stay_reserved {world : EndpointWorld} (reached : endpointMachine.GuardedReachable
      (fun world action => world.sparesEndpoint action = true) world) :
    EndpointsReserved world.journal ∧ ∀ intent ∈ world.journal.pendingRenameIntents,
      (∃ next, world.journal.reconcilePendingRenameIntent intent.localFileId intent.currentPath =
        .ok next) ∧
      ∀ journal : JournalRepository, journal.localFiles = world.journal.localFiles →
        ∀ write, ∃ next, journal.rebindLocalFile intent.localFileId intent.currentPath write =
          .ok next := by
  have hr : EndpointsReserved world.journal := reached.invariant
    (fun _ hi => endpoints_init hi) fun _ _ _ hr hs hv =>
      endpoints_step hr hs hv
  refine ⟨hr, fun intent hm => ⟨?_, fun journal hf write =>
    rebind_endpoint hr hm hf write⟩⟩
  obtain ⟨r, hre⟩ := @rebind_endpoint world.journal
    ((world.journal.dropDeferralOfFile intent.localFileId).dropIntent intent.localFileId) hr
    intent hm rfl fun row =>
      { row with lifecycleState := .reconcileRequired, openTombstoneId := none }
  refine ⟨r.persistReconcileRequired, ?_⟩
  rw [JournalRepository.reconcilePendingRenameIntent]
  exact congrArg (· >>= fun r => .ok (JournalRepository.persistReconcileRequired r)) hre

/-! ## Runs of one note -/

/-- A tracked note, and no admission under way. -/
def EndpointWorld.ofNote : EndpointWorld where
  journal := ((journalMachine.run .start (trackFile 1 "a.md" 10)).map (·.journal)).getD .empty
  admissions := []

theorem EndpointWorld.ofNote_init : endpointMachine.Init .ofNote := by
  refine ⟨fun i hm => ?_, rfl⟩
  have hn : EndpointWorld.ofNote.journal.pendingRenameIntents = [] := by decide +kernel
  rw [hn] at hm
  exact nomatch hm

def newPathAdmission : PathAdmission where
  normalizedPath := "b.md"
  trackedFile := none

def renameObserved : List EndpointAction :=
  [.observeRename 1 "a.md" "b.md", .materialize 1 (sampleFingerprint "aa") (sampleDraw 1 11),
    .observeRename 1 "b.md" "c.md"]

/-- A note is renamed twice, and another one is admitted meanwhile. -/
def admittedBeside : List EndpointAction :=
  .beginAdmission "d.md" :: renameObserved ++
    [.admitBytes { newPathAdmission with normalizedPath := "d.md" } (sampleFingerprint "bb") 1 true
      (sampleDraw 2 12)]

theorem endpoints_stay_reserved_twice : ∃ world : EndpointWorld,
    endpointMachine.run .ofNote admittedBeside = some world ∧
      world.journal.pendingRenameIntents = [⟨1, "a.md", "c.md"⟩] ∧
      world.journal.localFiles.length = 2 ∧ EndpointsReserved world.journal := by
  have ho : (endpointMachine.run .ofNote admittedBeside).map (fun world =>
      (world.journal.pendingRenameIntents, world.journal.localFiles.length)) =
        some ([⟨1, "a.md", "c.md"⟩], 2) := by decide +kernel
  have hc : endpointMachine.runChecks EndpointWorld.sparesEndpoint .ofNote
      admittedBeside = true := by decide +kernel
  obtain ⟨world, ran, hw⟩ := Option.map_eq_some_iff.mp ho
  obtain ⟨hi, hf⟩ := Prod.mk.inj hw
  exact ⟨world, ran, hi, hf, (endpoints_stay_reserved
    (Machine.guardedReachable_of_run (fun _ _ => id) EndpointWorld.ofNote_init ran hc)).1⟩

/-- An admission of the new path begins, the rename is observed, and the bytes are admitted. -/
def renameDuringAdmission : List EndpointAction :=
  [.beginAdmission "b.md", .observeRename 1 "a.md" "b.md",
    .admitBytes newPathAdmission (sampleFingerprint "aa") 1 true (sampleDraw 2 11)]

/-- An admission that began before the rename was observed inserts a file at the endpoint of the
intent, and materializing the intent fails. -/
theorem admission_takes_endpoint : ∃ world : EndpointWorld, endpointMachine.Reachable world ∧
    ¬ EndpointsReserved world.journal ∧
      world.journal.recordPendingRenameLifecycleEvent 1 (sampleFingerprint "aa")
        (sampleDraw 1 12) = .error .journalMutationFailed := by
  have ho : (endpointMachine.run .ofNote renameDuringAdmission).map (fun world =>
      (world.journal.pendingRenameIntents, world.journal.localFiles.map fun row =>
        (row.localFileId, row.normalizedPath))) =
          some ([⟨1, "a.md", "b.md"⟩], [(1, "a.md"), (2, "b.md")]) := by decide +kernel
  have hf : (endpointMachine.run .ofNote renameDuringAdmission).map (fun world =>
      match world.journal.recordPendingRenameLifecycleEvent 1 (sampleFingerprint "aa")
        (sampleDraw 1 12) with
      | .error r => some r
      | .ok _ => none) = some (some .journalMutationFailed) := by decide +kernel
  obtain ⟨world, ran, hs⟩ := Option.map_eq_some_iff.mp ho
  obtain ⟨hi, ha⟩ := Prod.mk.inj hs
  refine ⟨world, Machine.reachable_of_run EndpointWorld.ofNote_init ran, fun hr => ?_, ?_⟩
  · have hm : (⟨1, "a.md", "b.md"⟩ : PendingRenameIntent) ∈
        world.journal.pendingRenameIntents := by rw [hi]; exact List.mem_cons_self
    have ht : ((2, "b.md") : Nat × Locator) ∈ world.journal.localFiles.map fun row =>
        (row.localFileId, row.normalizedPath) := by
      rw [ha]
      exact List.mem_cons_of_mem _ List.mem_cons_self
    obtain ⟨row, hro, hc⟩ := List.mem_map.mp ht
    obtain ⟨hid, hp⟩ := Prod.mk.inj hc
    refine (hr _ hm).1 row hro ?_ hp
    rw [hid]
    decide
  · rw [ran, Option.map_some, Option.some.injEq] at hf
    split at hf
    · next r he =>
      rw [he, Option.some.inj hf]
    · exact nomatch hf

end PersonalOs.Journal
