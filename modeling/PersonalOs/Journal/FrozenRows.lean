import PersonalOs.Journal.FileCoherence

/-!
# Frozen and closed journal rows

Every call of both repositories, with whatever arguments, on a journal that starts empty; a recorded
lifecycle event may name any stored predecessor. A frozen row keeps what it froze for as long as it
exists. A closed row keeps its state unless the receipt of a lifecycle commit arrives: that
statement finds its row by id alone.
-/

namespace PersonalOs.Journal

open PersonalOs.DeviceSync (Locator)

/-! ## Calls -/

/-- A mutation of either repository. -/
inductive RepositoryOperation
  | mutation (action : JournalAction)
  | recordLifecycleEvent (localFileId : Nat) (operands : LifecycleEventOperands)
      (tombstoneId : Option Nat) (newPath : Option Locator) (draw : Draw)
  | recordLifecycleEventWithFreeze (localFileId : Nat) (operands : LifecycleEventOperands)
      (tombstoneId : Option Nat) (newPath : Option Locator) (draw : Draw)
deriving DecidableEq

def RepositoryOperation.receiptOf : RepositoryOperation → Option Nat
  | .mutation action => action.receiptOf
  | _ => none

/-- The world after a lifecycle event is recorded under fresh ids. -/
def JournalWorld.record (world : JournalWorld) (draw : Draw)
    (recorded : Except JournalStoreError (LifecycleRecordResult × JournalRepository)) :
    Option JournalWorld :=
  if world.issuedEventIds.contains draw.eventId then none
  else (answered recorded).map fun journal =>
    { world with journal := journal, issuedEventIds := draw.eventId :: world.issuedEventIds }

/-- The world after an accepted call. -/
def JournalWorld.perform (world : JournalWorld) : RepositoryOperation → Option JournalWorld
  | .mutation action => world.step action
  | .recordLifecycleEvent localFileId operands tombstoneId newPath draw =>
    world.record draw
      (world.journal.writeLifecycleEvent localFileId operands tombstoneId newPath draw)
  | .recordLifecycleEventWithFreeze localFileId operands tombstoneId newPath draw =>
    world.record draw
      (world.journal.recordLifecycleEventWithFreeze localFileId operands tombstoneId newPath draw)

def repositoryMachine : Machine JournalWorld RepositoryOperation where
  Init := journalMachine.Init
  step := JournalWorld.perform

/-- A lifecycle receipt finds its event pending, or already committed. -/
def CommitsOpen (world : JournalWorld) (operation : RepositoryOperation) : Prop :=
  ∀ row ∈ world.journal.journalEvents, operation.receiptOf = some row.eventId →
    row.state.isPending = true ∨ row.state = .committed

/-! ## What calls keep -/

/-- What a call keeps of a row: a closed state unless it is the row's lifecycle receipt. -/
def KeptBy (operation : RepositoryOperation) (row row' : StoredJournalEvent) : Prop :=
  RowKept row row' ∧ (operation.receiptOf ≠ some row.eventId → KeepsClosed row row')

variable {world world' before middle after : JournalWorld} {operation : RepositoryOperation}
  {P : StoredJournalEvent → StoredJournalEvent → Prop}

/-- The rows of events issued before stem from rows before, by rewrites `P`. -/
structure JournalWorld.Keeps (P : StoredJournalEvent → StoredJournalEvent → Prop)
    (before after : JournalWorld) : Prop where
  sound : after.Sound
  issued : before.issuedEventIds ⊆ after.issuedEventIds
  rows : ∀ row' ∈ after.journal.journalEvents, row'.eventId ∈ before.issuedEventIds →
    ∃ row ∈ before.journal.journalEvents, row'.eventId = row.eventId ∧ P row row'

theorem JournalWorld.Keeps.refl (he : ∀ row, P row row) (hso : world.Sound) : world.Keeps P world :=
  ⟨hso, List.Subset.refl _, fun row hs _ => ⟨row, hs, rfl, he row⟩⟩

theorem JournalWorld.Keeps.trans (hc : ∀ a b c, P a b → P b c → P a c)
    (hf : before.Keeps P middle) (hs : middle.Keeps P after) : before.Keeps P after := by
  refine ⟨hs.sound, List.Subset.trans hf.issued hs.issued, fun r'' hm old => ?_⟩
  obtain ⟨r', hs', he', hl⟩ := hs.rows r'' hm (hf.issued old)
  obtain ⟨row, hst, hsa, he⟩ := hf.rows r' hs' (he' ▸ old)
  exact ⟨row, hst, he'.trans hsa, hc row r' r'' he hl⟩

theorem JournalWorld.Keeps.mono {Q : StoredJournalEvent → StoredJournalEvent → Prop}
    (hk : before.Keeps P after)
    (hw : ∀ row ∈ before.journal.journalEvents, ∀ r', P row r' → Q row r') :
    before.Keeps Q after := by
  refine ⟨hk.sound, hk.issued, fun r' hm old => ?_⟩
  obtain ⟨row, hs, he, hr⟩ := hk.rows r' hm old
  exact ⟨row, hs, he, hw row hs r' hr⟩

theorem JournalWorld.Keeps.read {ei : Nat} {row r' : StoredJournalEvent}
    (hk : before.Keeps P after) (hs : before.Sound)
    (hf : before.journal.readEvent ei = some row)
    (hf' : after.journal.readEvent ei = some r') : P row r' := by
  have hi := Tables.mem_of_lookup hf
  have he : r'.eventId = row.eventId :=
    (Tables.key_of_lookup hf').trans (Tables.key_of_lookup hf).symm
  obtain ⟨old, hst, hsa, hr⟩ := hk.rows r' (Tables.mem_of_lookup hf') (he ▸ hs.issued row hi)
  rwa [hs.unique.eq_of_key hst hi (hsa.symm.trans he)] at hr

namespace FrozenRowsLemmas

open MoveLemmas

theorem recorded_keeps {li : Nat} {o : LifecycleEventOperands}
    {ti : Option Nat} {np : Option Locator} {d : Draw}
    {f : JournalRepository} (hso : world.Sound) (hq : Quiet world.journal f)
    (hp : world.record d
      (f.writeLifecycleEvent li o ti np d) = some world') :
    world.Keeps RowQuiet world' := by
  unfold JournalWorld.record at hp
  split at hp
  · cases hp
  next hfr =>
  obtain ⟨n, hn, rfl⟩ := Option.map_eq_some_iff.mp hp
  obtain ⟨an, hw⟩ := answered_some hn
  have hf : d.eventId ∉ world.issuedEventIds := by simpa using hfr
  have hst : UniqueEvents n ∧ ∀ r' ∈ n.journalEvents,
      (∃ row ∈ world.journal.journalEvents, RowQuiet row r') ∨ r'.eventId = d.eventId := by
    rcases writeLifecycleEvent_ok hw with ⟨_, rfl⟩ | ⟨_, hl, _, hi⟩
    · exact ⟨hq.unique hso.unique, fun r' hm => .inl (hq.rows r' hm)⟩
    · have hj := joins_insertLifecycleEvent hl hi
      exact ⟨hj.unique hq hso.unique fun row hs he =>
        hf (he ▸ hso.issued row hs), hj.rows hq⟩
  refine ⟨⟨hst.1, fun r' hm => ?_⟩, fun _ => List.mem_cons_of_mem _,
    fun r' hm old => ?_⟩
  · rcases hst.2 r' hm with ⟨row, hs, hk⟩ | hd
    · exact List.mem_cons_of_mem _ (hk.eventId ▸ hso.issued row hs)
    · exact hd ▸ List.mem_cons_self
  · rcases hst.2 r' hm with ⟨row, hs, hk⟩ | hd
    · exact ⟨row, hs, hk.eventId, hk⟩
    · exact absurd (hd ▸ old) hf

theorem performed_keeps (hs : world.Sound) (hp : world.perform operation = some world') :
    world.Keeps (KeptBy operation) world' := by
  have ho : world.Keeps RowQuiet world' → world.Keeps (KeptBy operation) world' :=
    fun hk => hk.mono fun _ _ _ hr => ⟨hr.toRowKept, fun _ => hr.closed⟩
  cases operation with
  | mutation a =>
    obtain ⟨ha, hm, _, hi⟩ := step_some hp
    refine ⟨hs.step hp, ?_, fun r' hme old => ?_⟩
    · rw [hi]
      exact List.subset_append_right _ _
    rcases (moves_of_mutate hs.unique hm).rows r' hme with
      ⟨row, hst, hke⟩ | ⟨d, hdr, hd⟩
    · exact ⟨row, hst, hke.1.eventId, hke⟩
    · exact absurd (hd ▸ old) (draw_fresh ha hdr).1
  | recordLifecycleEvent li o ti np d =>
    exact ho (recorded_keeps hs (.refl world.journal) hp)
  | recordLifecycleEventWithFreeze li o ti np d =>
    simp only [JournalWorld.perform, JournalRepository.recordLifecycleEventWithFreeze] at hp
    split at hp
    · have hf : Quiet world.journal
          ((world.journal.freezeEvents li).dropDeferralOfFile li) :=
        (quiet_freezeEvents li).writes rfl rfl
      exact ho (recorded_keeps hs hf hp)
    · unfold JournalWorld.record at hp
      split at hp <;> cases hp

theorem keepsClosed_of_commitsOpen (hco : CommitsOpen world operation)
    {row r' : StoredJournalEvent} (hs : row ∈ world.journal.journalEvents)
    (hk : KeptBy operation row r') : KeepsClosed row r' := by
  by_cases hr : operation.receiptOf = some row.eventId
  · rcases hco row hs hr with hp | hc
    · exact keepsClosed_of_pending hp
    · exact fun _ => (hk.1.committed hc).trans hc.symm
  · exact hk.2 hr

theorem sound_of_init (hi : journalMachine.Init world) : world.Sound := by
  have he : world.journal = .empty := hi
  refine ⟨?_, fun row hm => ?_⟩
  · rw [he]
    exact List.nodup_nil
  · rw [he] at hm
    cases hm

end FrozenRowsLemmas

open FrozenRowsLemmas

/-! ## Runs -/

/-- Along every run a frozen row keeps its fingerprint, operation and idempotency key; along every
run whose lifecycle receipts find their event pending or committed, a closed row keeps its state. -/
theorem frozen_and_closed_rows_stay {eventId : Nat} {row row' : StoredJournalEvent}
    (reached : repositoryMachine.Reachable before)
    (found : before.journal.readEvent eventId = some row)
    (found' : after.journal.readEvent eventId = some row') :
    ((repositoryMachine.startedAt before).Reachable after → KeepsFrozen row row') ∧
      ((repositoryMachine.startedAt before).GuardedReachable CommitsOpen after →
        KeepsClosed row row') := by
  have hs : before.Sound := Machine.Reachable.invariant (M := repositoryMachine)
    (fun _ => sound_of_init)
    (fun _ _ _ hs hp => (performed_keeps hs hp).sound) reached
  constructor
  · intro hl
    refine JournalWorld.Keeps.read (P := KeepsFrozen) ?_ hs found found'
    refine hl.invariant (fun s hi => ?_) fun _ _ _ hk hp => ?_
    · rw [show s = before from hi]
      exact .refl (fun row => (RowKept.refl row).frozen) hs
    · exact hk.trans (fun _ _ _ => KeepsFrozen.trans)
        ((performed_keeps hk.sound hp).mono fun _ _ _ hr => hr.1.frozen)
  · intro hl
    refine JournalWorld.Keeps.read (P := KeepsClosed) ?_ hs found found'
    refine hl.invariant (fun s hi => ?_) fun _ _ _ hk hc hp => ?_
    · rw [show s = before from hi]
      exact .refl (fun _ _ => rfl) hs
    · exact hk.trans (fun _ _ _ => KeepsClosed.trans)
        ((performed_keeps hk.sound hp).mono fun _ hst _ hr =>
          keepsClosed_of_commitsOpen hc hst hr)

/-- The note's delete is recorded, and closed by a conflict. -/
def conflictNote : List RepositoryOperation :=
  (trackFile 1 "a.md" 10 ++
    [deleteNote 11 21, .markEventTerminal 11 .blockedConflict .blockedConflict]).map .mutation

/-- The state of the delete before and after one more call. -/
def statesBehind (operation : RepositoryOperation) :
    Option (JournalEventState × JournalEventState) :=
  (repositoryMachine.run .start conflictNote).bind fun before =>
    (before.perform operation).bind fun after => (before.journal.readEvent 11).bind fun row =>
      (after.journal.readEvent 11).map fun row' => (row.state, row'.state)

theorem exists_statesBehind {s : JournalEventState × JournalEventState}
    (ho : statesBehind operation = some s) :
    ∃ (before after : JournalWorld) (row r' : StoredJournalEvent),
      repositoryMachine.Reachable before ∧ before.perform operation = some after ∧
        before.journal.readEvent 11 = some row ∧ after.journal.readEvent 11 = some r' ∧
        row.state = s.1 ∧ r'.state = s.2 := by
  obtain ⟨before, ran, ho⟩ := Option.bind_eq_some_iff.mp ho
  obtain ⟨after, hp, ho⟩ := Option.bind_eq_some_iff.mp ho
  obtain ⟨row, hf, ho⟩ := Option.bind_eq_some_iff.mp ho
  obtain ⟨r', hf', rfl⟩ := Option.map_eq_some_iff.mp ho
  exact ⟨before, after, row, r', Machine.reachable_of_run start_init ran, hp, hf, hf', rfl, rfl⟩

/-- A receipt that arrives behind the conflict turns the closed row into a committed one. -/
theorem late_receipt_reopens : ∃ (before after : JournalWorld) (row row' : StoredJournalEvent),
    repositoryMachine.Reachable before ∧
      before.perform (.mutation (.recordLifecycleCommittedReceipt 11 (some 21))) = some after ∧
      before.journal.readEvent 11 = some row ∧ after.journal.readEvent 11 = some row' ∧
      row.state = .blockedConflict ∧ row'.state = .committed :=
  have ho : statesBehind (.mutation (.recordLifecycleCommittedReceipt 11 (some 21))) =
      some (.blockedConflict, .committed) := by
    decide +kernel
  exists_statesBehind ho

/-- A later freeze of the note's file leaves the closed delete alone. -/
theorem frozen_and_closed_rows_stay_conflicted :
    ∃ (after : JournalWorld) (row row' : StoredJournalEvent),
      after.journal.readEvent 11 = some row' ∧ row.state = .blockedConflict ∧
        KeepsFrozen row row' ∧ KeepsClosed row row' := by
  have ho : statesBehind (.mutation (.freezePendingForLocalFile 1)) =
      some (.blockedConflict, .blockedConflict) := by
    decide +kernel
  obtain ⟨before, after, row, row', hr, hp, hf, hf', hs, _⟩ := exists_statesBehind ho
  have hv : (repositoryMachine.startedAt before).step before
      (.mutation (.freezePendingForLocalFile 1)) = some after := hp
  have hc : CommitsOpen before (.mutation (.freezePendingForLocalFile 1)) :=
    fun _ _ hre => by cases hre
  have hst := frozen_and_closed_rows_stay hr hf hf'
  exact ⟨after, row, row', hf', hs, hst.1 (.step (.init rfl) hv), hst.2 (.step (.init rfl) hc hv)⟩

end PersonalOs.Journal
