import PersonalOs.Journal.FrozenRows

/-!
# Restore reservations and the phantoms they release

`reserveRestoreTarget` deletes the mapping and the events of a target's occupant that has no server
identity. A pass takes an event up (`markEventPreflightStarted`) before it sends anything for it, and
may send for it at any time from then on, whatever has become of the row.
-/

namespace PersonalOs.Journal

open PersonalOs.DeviceSync (Locator)

/-! ## One reservation -/

namespace JournalRepository

variable (journal : JournalRepository) (localFileId : Nat) (targetPath : Locator)

/-- The reservation comes as far as its target's occupant. -/
def reachesOccupant : Bool :=
  !targetPath.isEmpty &&
    (journal.readLocalFileByLocalFileId localFileId).any journal.isRestorable &&
    !journal.hasPendingRestore localFileId &&
    !journal.pendingRenameIntents.any fun row =>
      row.priorPath == targetPath || row.currentPath == targetPath

/-- The occupant is another file without server identity, and no event of it is in flight. -/
def isPhantom (occupant : LocalFile) : Bool :=
  occupant.localFileId != localFileId && occupant.sourceId.isNone &&
    !journal.journalEvents.any fun event =>
      event.localFileId == occupant.localFileId && event.state.isStarted

/-- No event of the file has its fingerprint frozen. -/
def isUnfrozen (occupant : LocalFile) : Bool :=
  journal.journalEvents.all fun event =>
    event.localFileId != occupant.localFileId || !event.isFingerprintFrozen

/-- The phantom the reservation would release, if any, has no frozen event. -/
def sparesFrozen : Bool :=
  !journal.reachesOccupant localFileId targetPath ||
    (journal.readLocalFileByPath targetPath).all fun occupant =>
      !journal.isPhantom localFileId occupant || journal.isUnfrozen occupant

inductive Reserves (next : JournalRepository) : RestoreReservationResult → Prop
  | refused {answer : RestoreReservationResult} (refuses : ∀ path, answer ≠ .reserved path)
      (same : next = journal) : Reserves next answer
  | moved {answer : RestoreReservationResult} {file : LocalFile}
      (found : journal.readLocalFileByLocalFileId localFileId = some file)
      (restorable : journal.isRestorable file = true)
      (moves : journal.reserveRow file targetPath = .ok (answer, next)) : Reserves next answer
  | released {answer : RestoreReservationResult} {file occupant : LocalFile}
      (found : journal.readLocalFileByLocalFileId localFileId = some file)
      (restorable : journal.isRestorable file = true)
      (reaches : journal.reachesOccupant localFileId targetPath = true)
      (occupies : journal.readLocalFileByPath targetPath = some occupant)
      (phantom : journal.isPhantom localFileId occupant = true)
      (moves : (journal.removeLocalMapping occupant.localFileId).reserveRow file targetPath =
        .ok (answer, next)) : Reserves next answer

end JournalRepository

variable {journal next : JournalRepository} {localFileId : Nat} {targetPath : Locator}

theorem reserveRestoreTarget_ok {answer : RestoreReservationResult}
    (h : journal.reserveRestoreTarget localFileId targetPath = .ok (answer, next)) :
    journal.Reserves localFileId targetPath next answer := by
  unfold JournalRepository.reserveRestoreTarget at h
  split at h
  · cases h
  next hp =>
  split at h
  · cases h
  next file hf =>
  split at h
  · cases h
  next hr =>
  have hr : journal.isRestorable file = true := by simpa using hr
  split at h
  · cases h
    exact .refused nofun rfl
  next hn =>
  split at h
  · cases h
    exact .refused nofun rfl
  next hi =>
  split at h
  · exact .moved hf hr h
  next occupant ho =>
  split at h
  · exact .moved hf hr h
  next hs =>
  split at h
  · cases h
    exact .refused nofun rfl
  next hd =>
  split at h
  · cases h
    exact .refused nofun rfl
  next hu =>
  refine .released hf hr ?_ ho ?_ h
  · simp only [Bool.not_eq_true] at hp hn hi
    simp [JournalRepository.reachesOccupant, hp, hf, hr, hn, hi]
  · simp only [Bool.not_eq_true] at hu
    simp_all [JournalRepository.isPhantom]

theorem reserveRestoreTarget_refused {answer : RestoreReservationResult}
    (h : journal.reserveRestoreTarget localFileId targetPath = .ok (answer, next))
    (hr : ∀ path, answer ≠ .reserved path) : next = journal := by
  have hw {j : JournalRepository} {file : LocalFile}
      (hw : j.reserveRow file targetPath = .ok (answer, next)) : False := by
    obtain ⟨_, _, hn⟩ := bind_ok hw
    cases hn
    exact hr _ rfl
  cases reserveRestoreTarget_ok h with
  | refused _ same => exact same
  | moved _ _ moves => exact (hw moves).elim
  | released _ _ _ _ _ moves => exact (hw moves).elim

theorem reserveRow_events {file : LocalFile} {answer : RestoreReservationResult}
    (h : journal.reserveRow file targetPath = .ok (answer, next)) :
    next.journalEvents = journal.journalEvents := by
  obtain ⟨_, hb, h⟩ := bind_ok h
  cases h
  unfold JournalRepository.rebindLocalFile at hb
  split at hb
  · cases hb
  · cases hb
    rfl

theorem mem_reserved {answer : RestoreReservationResult}
    (h : journal.reserveRestoreTarget localFileId targetPath = .ok (answer, next))
    {row : StoredJournalEvent} (hm : row ∈ journal.journalEvents)
    (hn : row ∉ next.journalEvents) :
    journal.reachesOccupant localFileId targetPath = true ∧
      ∃ occupant, journal.readLocalFileByPath targetPath = some occupant ∧
        journal.isPhantom localFileId occupant = true ∧
        row.localFileId = occupant.localFileId := by
  cases reserveRestoreTarget_ok h with
  | refused _ same => exact absurd (same ▸ hm) hn
  | moved _ _ moves => exact absurd (reserveRow_events moves ▸ hm) hn
  | released _ _ reaches occupies phantom moves =>
    refine ⟨reaches, _, occupies, phantom, ?_⟩
    rw [reserveRow_events moves] at hn
    unfold JournalRepository.removeLocalMapping at hn
    split at hn
    · by_contra ho
      exact hn (List.mem_filter.mpr ⟨hm, by simpa using ho⟩)
    · exact absurd hm hn

/-! ## Runs with transmissions -/

/-- The journal, the events taken up, those a preflight, upload or multipart request was sent for,
and those a reservation deleted. -/
structure TransmittingJournal where
  base : JournalWorld
  started : List Nat
  transmitted : List Nat
  released : List Nat
deriving DecidableEq

inductive TransmittingAction
  | call (operation : RepositoryOperation)
  | transmit (eventId : Nat)
deriving DecidableEq

/-- The event a call takes up. -/
def RepositoryOperation.startedEvent : RepositoryOperation → Option Nat
  | .mutation (.markEventPreflightStarted eventId) => some eventId
  | _ => none

/-- The reservation a call asks for. -/
def RepositoryOperation.reservation : RepositoryOperation → Option (Nat × Locator)
  | .mutation (.reserveRestoreTarget localFileId targetPath) => some (localFileId, targetPath)
  | _ => none

/-- The events a reservation deleted. -/
def releasedEvents (operation : RepositoryOperation) (before after : JournalRepository) :
    List Nat :=
  if operation.reservation.isSome then
    (before.journalEvents.map (·.eventId)).filter fun eventId =>
      !after.journalEvents.any (·.eventId == eventId)
  else []

def TransmittingJournal.step (w : TransmittingJournal) :
    TransmittingAction → Option TransmittingJournal
  | .call operation => (w.base.perform operation).map fun next =>
    { w with
      base := next
      started := operation.startedEvent.toList ++ w.started
      released := releasedEvents operation w.base.journal next.journal ++ w.released }
  | .transmit eventId =>
    if w.started.contains eventId then some { w with transmitted := eventId :: w.transmitted }
    else none

/-- Both repositories and the requests of the passes, from the creation of the journal on. -/
def transmittingMachine : Machine TransmittingJournal TransmittingAction where
  Init := fun w =>
    w.base.journal = .empty ∧ w.started = [] ∧ w.transmitted = [] ∧ w.released = []
  step := TransmittingJournal.step

/-- A reservation releases no frozen event. -/
def releasesUnfrozen (w : TransmittingJournal) : TransmittingAction → Bool
  | .call operation => operation.reservation.all fun asked =>
    w.base.journal.sparesFrozen asked.1 asked.2
  | .transmit _ => true

variable {w v : TransmittingJournal} {operation : RepositoryOperation}

/-- What was taken up is frozen, and what was released is gone and was not taken up. -/
structure TransmittingJournal.Sound (w : TransmittingJournal) : Prop where
  base : w.base.Sound
  transmitted : w.transmitted ⊆ w.started
  frozen : ∀ row ∈ w.base.journal.journalEvents, row.eventId ∈ w.started →
    row.isFingerprintFrozen = true
  issued : ∀ eventId ∈ w.started ++ w.released, eventId ∈ w.base.issuedEventIds
  gone : ∀ eventId ∈ w.released, eventId ∉ w.started ∧
    ∀ row ∈ w.base.journal.journalEvents, row.eventId ≠ eventId

namespace RestoreReservationsLemmas

open MoveLemmas FrozenRowsLemmas

theorem started_row {world world' : JournalWorld}
    (hp : world.perform operation = some world') {eventId : Nat}
    (he : operation.startedEvent = some eventId) :
    (∃ row ∈ world.journal.journalEvents, row.eventId = eventId) ∧
      ∀ row ∈ world'.journal.journalEvents, row.eventId = eventId →
        row.isFingerprintFrozen = true := by
  unfold RepositoryOperation.startedEvent at he
  split at he
  · cases he
    obtain ⟨_, hm, _, _⟩ := step_some hp
    obtain ⟨event, hf, hm⟩ := bind_ok (accepted_some hm)
    obtain ⟨_, _, hm⟩ := bind_ok hm
    have hf := requireEvent_ok hf
    refine ⟨⟨event, Tables.mem_of_lookup hf, Tables.key_of_lookup hf⟩, fun row hr he => ?_⟩
    have hr : row ∈ Tables.updateWhere world.journal.journalEvents _ _ :=
      Except.ok.inj hm ▸ hr
    obtain ⟨old, _, ho⟩ := Tables.mem_updateWhere.mp hr
    split at ho
    · rw [← ho]
    · next hn => exact absurd (beq_iff_eq.mpr (ho ▸ he)) hn
  · cases he

theorem sound_transmit (hs : w.Sound) {eventId : Nat} (he : eventId ∈ w.started) :
    TransmittingJournal.Sound { w with transmitted := eventId :: w.transmitted } :=
  { hs with transmitted := List.cons_subset.mpr ⟨he, hs.transmitted⟩ }

theorem released_spec {world world' : JournalWorld}
    (hp : world.perform operation = some world')
    (hu : operation.reservation.all (fun asked => world.journal.sparesFrozen asked.1 asked.2) = true)
    {eventId : Nat}
    (hm : eventId ∈ releasedEvents operation world.journal world'.journal) :
    operation.startedEvent = none ∧
      (∀ row ∈ world'.journal.journalEvents, row.eventId ≠ eventId) ∧
      ∃ row ∈ world.journal.journalEvents, row.eventId = eventId ∧
        row.isFingerprintFrozen = false := by
  unfold releasedEvents at hm
  split at hm
  swap
  · cases hm
  next hr =>
  obtain ⟨hm, hg⟩ := List.mem_filter.mp hm
  obtain ⟨row, hi, rfl⟩ := List.mem_map.mp hm
  have hg : ∀ other ∈ world'.journal.journalEvents, other.eventId ≠ row.eventId := by
    simpa using hg
  unfold RepositoryOperation.reservation at hr hu
  split at hr
  swap
  · cases hr
  next localFileId targetPath =>
  refine ⟨rfl, hg, row, hi, rfl, ?_⟩
  obtain ⟨_, hm, _, _⟩ := step_some hp
  obtain ⟨answer, hm⟩ := answered_some hm
  obtain ⟨hc, occupant, ho, hph, hf⟩ := mem_reserved hm hi fun h => hg row h rfl
  simp only [Option.all_some, JournalRepository.sparesFrozen, hc, ho, hph, Bool.not_true,
    Bool.false_or, JournalRepository.isUnfrozen, List.all_eq_true] at hu
  simpa [hf] using hu row hi

theorem sound_call (hs : w.Sound) (hu : releasesUnfrozen w (.call operation) = true)
    {world : JournalWorld} (hp : w.base.perform operation = some world) :
    TransmittingJournal.Sound { w with
      base := world
      started := operation.startedEvent.toList ++ w.started
      released := releasedEvents operation w.base.journal world.journal ++ w.released } := by
  have hk := performed_keeps hs.base hp
  have hb {eventId : Nat} (he : operation.startedEvent = some eventId) :=
    started_row hp he
  have hold {eventId : Nat} (he : eventId ∈ operation.startedEvent.toList) :
      ∃ row ∈ w.base.journal.journalEvents, row.eventId = eventId :=
    (hb (Option.mem_toList.mp he)).1
  refine ⟨hk.sound, List.Subset.trans hs.transmitted (List.subset_append_right _ _), ?_, ?_, ?_⟩
  · intro row hm he
    rcases List.mem_append.mp he with hn | ho
    · exact (hb (Option.mem_toList.mp hn)).2 row hm rfl
    · obtain ⟨old, hi, hsa, hr⟩ := hk.rows row hm (hs.issued _ (List.mem_append_left _ ho))
      exact (hr.1.frozen (hs.frozen old hi (hsa ▸ ho))).1
  · intro eventId hm
    have hst {row : StoredJournalEvent} (hi : row ∈ w.base.journal.journalEvents)
        (he : row.eventId = eventId) : eventId ∈ world.issuedEventIds :=
      hk.issued (he ▸ hs.base.issued row hi)
    simp only [List.mem_append] at hm
    rcases hm with (hn | ho) | hn | ho
    · obtain ⟨row, hi, he⟩ := hold hn
      exact hst hi he
    · exact hk.issued (hs.issued _ (List.mem_append_left _ ho))
    · obtain ⟨_, _, row, hi, he, _⟩ := released_spec hp hu hn
      exact hst hi he
    · exact hk.issued (hs.issued _ (List.mem_append_right _ ho))
  · intro eventId hm
    rcases List.mem_append.mp hm with hn | ho
    · obtain ⟨hno, hg, row, hi, he, hf⟩ := released_spec hp hu hn
      refine ⟨fun h => ?_, hg⟩
      rw [hno] at h
      have := hs.frozen row hi (he ▸ h)
      exact Bool.noConfusion (this.symm.trans hf)
    · obtain ⟨hno, hg⟩ := hs.gone eventId ho
      refine ⟨fun h => ?_, fun row hm he => ?_⟩
      · rcases List.mem_append.mp h with hn | h
        · obtain ⟨row, hi, he⟩ := hold hn
          exact hg row hi he
        · exact hno h
      · obtain ⟨old, hi, hsa, _⟩ :=
          hk.rows row hm (he ▸ hs.issued _ (List.mem_append_right _ ho))
        exact hg old hi (hsa.symm.trans he)

theorem sound_step {action : TransmittingAction} (hs : w.Sound)
    (hu : releasesUnfrozen w action = true) (hm : transmittingMachine.step w action = some v) : v.Sound := by
  cases action with
  | call operation =>
    obtain ⟨world, hp, rfl⟩ := Option.map_eq_some_iff.mp hm
    exact sound_call hs hu hp
  | transmit eventId =>
    simp only [transmittingMachine, TransmittingJournal.step] at hm
    split at hm
    · next he =>
      cases hm
      exact sound_transmit hs (List.contains_iff_mem.mp he)
    · cases hm

theorem sound_init (hi : transmittingMachine.Init w) : w.Sound := by
  obtain ⟨hb, hs, ht, hr⟩ := hi
  refine ⟨sound_of_init hb, ?_, ?_, ?_, ?_⟩ <;> simp [hb, hs, ht, hr, JournalRepository.empty]

end RestoreReservationsLemmas

open RestoreReservationsLemmas in
/-- Along every run whose reservations release no frozen event, nothing was ever sent for a released
event; and a reservation that is refused changes no row. -/
theorem released_never_transmitted
    (reached : transmittingMachine.GuardedReachable
      (fun w action => releasesUnfrozen w action = true) w) :
    (∀ eventId ∈ w.released, eventId ∉ w.transmitted) ∧
      ∀ localFileId targetPath answer next,
        w.base.journal.reserveRestoreTarget localFileId targetPath = .ok (answer, next) →
          (∀ path, answer ≠ .reserved path) → next = w.base.journal := by
  have hs : w.Sound := reached.invariant (fun _ hi => sound_init hi)
    fun _ _ _ hs hu hm => sound_step hs hu hm
  exact ⟨fun eventId hm ht => (hs.gone eventId hm).1 (hs.transmitted ht),
    fun _ _ _ _ h hr => reserveRestoreTarget_refused h hr⟩

/-! ### A create on the way -/

/-- A note is tracked and deleted; another one comes to be at `b.md`. -/
def phantomAtTarget : List TransmittingAction :=
  (trackFile 1 "a.md" 10 ++ [deleteNote 11 21, .recordCapture (sampleCapture "b.md" "bb")
    (sampleDraw 2 12)]).map fun action => .call (.mutation action)

def TransmittingJournal.start : TransmittingJournal := ⟨.start, [], [], []⟩

theorem TransmittingJournal.start_init : transmittingMachine.Init .start := ⟨rfl, rfl, rfl, rfl⟩

/-- The note is restored to where the other one has not been taken up yet, given back, and restored
to a path that a tracked note has meanwhile come to. -/
def releaseQueued : List TransmittingAction :=
  phantomAtTarget ++ [.call (.mutation (.reserveRestoreTarget 1 "b.md")),
    .call (.mutation (.releaseRestoreTarget 1))] ++
    (trackFile 3 "c.md" 13).map (fun action => .call (.mutation action)) ++ [.transmit 13]

theorem released_never_transmitted_queued : ∃ w : TransmittingJournal,
    w.released = [12] ∧ w.transmitted = [13] ∧ (∀ eventId ∈ w.released, eventId ∉ w.transmitted) ∧
      w.base.journal.reserveRestoreTarget 1 "c.md" =
        .ok (.restoreTargetOccupied, w.base.journal) := by
  have hw : (transmittingMachine.run .start releaseQueued).map (fun w =>
      (w.released, w.transmitted, (w.base.journal.reserveRestoreTarget 1 "c.md").map Prod.fst)) =
        some ([12], [13], .ok .restoreTargetOccupied) := by
    decide +kernel
  have hc : transmittingMachine.runChecks releasesUnfrozen .start releaseQueued = true := by
    decide +kernel
  obtain ⟨w, hr, hw⟩ := Option.map_eq_some_iff.mp hw
  obtain ⟨hre, htr⟩ := Prod.mk.inj hw
  obtain ⟨ht, ha⟩ := Prod.mk.inj htr
  have reached := Machine.guardedReachable_of_run (fun _ _ => id) TransmittingJournal.start_init hr hc
  obtain ⟨hs, hn⟩ := released_never_transmitted reached
  refine ⟨w, hre, ht, hs, ?_⟩
  cases h : w.base.journal.reserveRestoreTarget 1 "c.md" with
  | error => rw [h] at ha; cases ha
  | ok reserved =>
    rw [h] at ha
    obtain ⟨answer, next⟩ := reserved
    obtain rfl : answer = .restoreTargetOccupied := Except.ok.inj ha
    rw [hn _ _ _ _ h nofun]

/-- The create at `b.md` is sent, its answer is lost, and the note is restored to `b.md`. -/
def releaseParked : List TransmittingAction :=
  phantomAtTarget ++ [.call (.mutation (.markEventPreflightStarted 12)), .transmit 12,
    .call (.mutation (.markEventWaitingRetry 12 .networkTimeout 1000)),
    .call (.mutation (.reserveRestoreTarget 1 "b.md"))]

/-- The reservation deletes an event a request was sent for. -/
theorem parked_create_released : ∃ w : TransmittingJournal, transmittingMachine.Reachable w ∧
    12 ∈ w.released ∧ 12 ∈ w.transmitted := by
  have hw : (transmittingMachine.run .start releaseParked).map (fun w =>
      (w.released, w.transmitted)) = some ([12], [12]) := by
    decide +kernel
  obtain ⟨w, hr, hw⟩ := Option.map_eq_some_iff.mp hw
  obtain ⟨hre, ht⟩ := Prod.mk.inj hw
  exact ⟨w, Machine.reachable_of_run TransmittingJournal.start_init hr, by simp [hre],
    by simp [ht]⟩

end PersonalOs.Journal
