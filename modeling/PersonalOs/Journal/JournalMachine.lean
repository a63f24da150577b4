import PersonalOs.Journal.EventMoves
import PersonalOs.Basis.Machine

/-!
# The journal as a machine

Every mutation of the journal's events as an action on a journal, a clock and the event ids issued
so far. Ids are drawn fresh, the clock does not run backwards, and a lifecycle event names its
predecessor among the events of its own file.
-/

namespace PersonalOs.Journal

open PersonalOs.DeviceSync (Locator)

/-- The mutations of the journal. `writeElsewhere` stands for what other writers of the journal
image do to the tables without events. -/
inductive JournalAction
  | advanceClock (elapsedMs : Nat)
  | recordCapture (input : JournalCaptureInput) (draw : Draw)
  | markEventPreflightStarted (eventId : Nat)
  | markEventWaitingRetry (eventId : Nat) (safeError : JournalSafeErrorLabel) (due : Nat)
  | markEventUploading (eventId : Nat) (operationId : String)
  | markEventTerminal (eventId : Nat) (terminalState : JournalNonRetryEventState)
      (safeError : JournalSafeErrorLabel)
  | resolveLocalFileMissing (eventId : Nat) (input : AttemptInput) (due : Nat)
  | resolveContentTerminal (eventId : Nat) (terminalState : JournalNonRetryEventState)
      (safeError : JournalSafeErrorLabel) (input : AttemptInput)
  | freezePendingForLocalFile (localFileId : Nat)
  | removeLocalMapping (localFileId : Nat)
  | recordCommittedReceipt (eventId sourceId baseVersionId : Nat)
  | recordNoChangeReceipt (eventId sourceId baseVersionId : Nat)
  | recordEventAttempt (eventId : Nat) (input : AttemptInput) (label : JournalSafeErrorLabel)
  | recordOrComposePendingRenameIntent (localFileId : Nat) (prior current : Locator)
  | reparentAndClearPendingRenameIntent (localFileId : Nat)
  | recordLifecycleEventWithFreeze (localFileId : Nat) (operands : LifecycleEventOperands)
      (tombstoneId : Option Nat) (newPath : Option Locator) (draw : Draw)
  | recordPendingRenameLifecycleEvent (localFileId : Nat) (captured : FrozenFingerprint)
      (draw : Draw)
  | resolveLifecycleTerminal (eventId : Nat) (terminalState : LifecycleTerminalState)
      (input : AttemptInput)
  | recordLifecycleCommittedReceipt (eventId : Nat) (serverTombstoneId : Option Nat)
  | consumeRestoreSuccessor (localFileId : Nat)
  | recordLifecycleReconcile (localFileId : Nat)
  | reserveRestoreTarget (localFileId : Nat) (targetPath : Locator)
  | releaseRestoreTarget (localFileId : Nat)
  | writeElsewhere (localFiles : List LocalFile) (pendingRenameIntents : List PendingRenameIntent)
      (missingFileDeferrals : List MissingFileDeferral) (multipartUploadProgress : List Nat)
      (isReconcileRequired : Bool)
deriving DecidableEq

def JournalAction.draw : JournalAction → Option Draw
  | .recordCapture _ draw => some draw
  | .recordLifecycleEventWithFreeze _ _ _ _ draw => some draw
  | .recordPendingRenameLifecycleEvent _ _ draw => some draw
  | _ => none

/-- The journal an accepted call commits. -/
def accepted {ε α : Type} : Except ε α → Option α
  | .ok a => some a
  | .error _ => none

/-- The journal a call that also answers commits. -/
def answered {ε α β : Type} : Except ε (α × β) → Option β
  | .ok (_, next) => some next
  | .error _ => none

def JournalRepository.isOwnPredecessor (journal : JournalRepository) (localFileId : Nat)
    (operands : LifecycleEventOperands) : Bool :=
  operands.predecessorEventId.all fun eventId =>
    (journal.readEvent eventId).all fun event => event.localFileId == localFileId

/-- What an action does to the journal; `none` when the call is refused. -/
def JournalRepository.mutate (journal : JournalRepository) :
    JournalAction → Option JournalRepository
  | .advanceClock _ => some journal
  | .recordCapture input draw => answered (journal.recordCapture input draw)
  | .markEventPreflightStarted eventId => accepted (journal.markEventPreflightStarted eventId)
  | .markEventWaitingRetry eventId safeError due =>
    accepted (journal.markEventWaitingRetry eventId safeError due)
  | .markEventUploading eventId operationId =>
    accepted (journal.markEventUploading eventId operationId)
  | .markEventTerminal eventId terminalState safeError =>
    accepted (journal.markEventTerminal eventId terminalState safeError)
  | .resolveLocalFileMissing eventId input due =>
    answered (journal.resolveIntentAwareLocalFileMissing eventId input due)
  | .resolveContentTerminal eventId terminalState safeError input =>
    answered (journal.resolveIntentAwareContentTerminal eventId terminalState safeError input)
  | .freezePendingForLocalFile localFileId =>
    accepted (journal.freezePendingForLocalFile localFileId)
  | .removeLocalMapping localFileId => some (journal.removeLocalMapping localFileId)
  | .recordCommittedReceipt eventId sourceId baseVersionId =>
    accepted (journal.recordCommittedReceipt eventId sourceId baseVersionId)
  | .recordNoChangeReceipt eventId sourceId baseVersionId =>
    accepted (journal.recordNoChangeReceipt eventId sourceId baseVersionId)
  | .recordEventAttempt eventId input label =>
    accepted (journal.recordEventAttempt eventId input label)
  | .recordOrComposePendingRenameIntent localFileId prior current =>
    answered (journal.recordOrComposePendingRenameIntent localFileId prior current)
  | .reparentAndClearPendingRenameIntent localFileId =>
    accepted (journal.reparentAndClearPendingRenameIntent localFileId)
  | .recordLifecycleEventWithFreeze localFileId operands tombstoneId newPath draw =>
    if journal.isOwnPredecessor localFileId operands then
      answered (journal.recordLifecycleEventWithFreeze localFileId operands tombstoneId newPath draw)
    else none
  | .recordPendingRenameLifecycleEvent localFileId captured draw =>
    answered (journal.recordPendingRenameLifecycleEvent localFileId captured draw)
  | .resolveLifecycleTerminal eventId terminalState input =>
    answered (journal.resolveIntentAwareLifecycleTerminal eventId terminalState input)
  | .recordLifecycleCommittedReceipt eventId serverTombstoneId =>
    accepted (journal.recordLifecycleCommittedReceipt eventId serverTombstoneId)
  | .consumeRestoreSuccessor localFileId => accepted (journal.consumeRestoreSuccessor localFileId)
  | .recordLifecycleReconcile localFileId =>
    accepted (journal.recordLifecycleReconcileForLocalFile localFileId)
  | .reserveRestoreTarget localFileId targetPath =>
    answered (journal.reserveRestoreTarget localFileId targetPath)
  | .releaseRestoreTarget localFileId => accepted (journal.releaseRestoreTarget localFileId)
  | .writeElsewhere localFiles pendingRenameIntents missingFileDeferrals multipartUploadProgress
      isReconcileRequired =>
    some { journal with
      localFiles := localFiles
      pendingRenameIntents := pendingRenameIntents
      missingFileDeferrals := missingFileDeferrals
      multipartUploadProgress := multipartUploadProgress
      isReconcileRequired := isReconcileRequired }

/-- A journal, the clock and the event ids issued so far. -/
structure JournalWorld where
  journal : JournalRepository
  nowEpochMs : Nat
  issuedEventIds : List Nat
deriving DecidableEq

def JournalWorld.nextClock (world : JournalWorld) : JournalAction → Nat
  | .advanceClock elapsedMs => world.nowEpochMs + elapsedMs
  | _ => world.nowEpochMs

/-- Event ids are fresh and creation times are the clock's. -/
def JournalWorld.allowsDraw (world : JournalWorld) (action : JournalAction) : Bool :=
  action.draw.all fun draw =>
    !world.issuedEventIds.contains draw.eventId && draw.nowEpochMs == world.nowEpochMs

def JournalWorld.step (world : JournalWorld) (action : JournalAction) : Option JournalWorld :=
  if world.allowsDraw action then
    (world.journal.mutate action).map fun journal =>
      { journal := journal
        nowEpochMs := world.nextClock action
        issuedEventIds := (action.draw.map (·.eventId)).toList ++ world.issuedEventIds }
  else none

def journalMachine : Machine JournalWorld JournalAction where
  Init := fun world => world.journal = .empty
  step := JournalWorld.step

/-- A fresh journal at the clock's first instant. -/
def JournalWorld.start : JournalWorld where
  journal := .empty
  nowEpochMs := 0
  issuedEventIds := []

theorem start_init : journalMachine.Init .start := rfl

/-! ## What one action does -/

/-- A rewrite that is quiet about every event but one. -/
def RowParked (eventId : Nat) (row row' : StoredJournalEvent) : Prop :=
  (RowKept row row' ∧ KeepsClosed row row') ∧ (row.eventId ≠ eventId → RowQuiet row row')

/-- A rewrite that is quiet about every event but one, which may close again as committed. -/
def RowReceived (eventId : Nat) (row row' : StoredJournalEvent) : Prop :=
  RowReady row row' ∧ (row.eventId ≠ eventId → KeepsClosed row row')

structure Joins (before : JournalRepository) (new : StoredJournalEvent)
    (operands : Option StoredOperands) (draw : Draw) (after : JournalRepository) : Prop where
  events : after.journalEvents = before.journalEvents ++ [new]
  lifecycleOperands : after.lifecycleOperands = before.lifecycleOperands ++ operands.toList
  rowid : new.rowid = before.nextRowid
  eventId : new.eventId = draw.eventId
  createdAt : new.createdAtEpochMs = draw.nowEpochMs
  isContent : new.operation.isContent = operands.isNone
  operandsOf : ∀ stored ∈ operands, stored.eventId = draw.eventId

/-- The exit of a missing file keeps the event for a later retry: its file has an intent, whose
deferral counts this event and is not used up. -/
def JournalRepository.parksMissing (journal : JournalRepository) (eventId : Nat) : Bool :=
  (journal.readEvent eventId).any fun event =>
    (journal.readPendingRenameIntentForLocalFile event.localFileId).isSome &&
      (Tables.lookup (·.localFileId) journal.missingFileDeferrals event.localFileId).all
        fun deferral => deferral.eventId == eventId &&
          deferral.deferredAttemptCount != pendingRenameMissingFileMaxDeferrals

def JournalAction.lifecycleFile : JournalAction → Option Nat
  | .recordLifecycleEventWithFreeze localFileId _ _ _ _ => some localFileId
  | .recordPendingRenameLifecycleEvent localFileId _ _ => some localFileId
  | _ => none

inductive Moves (before after : JournalRepository) : JournalAction → Prop
  | quiet {action : JournalAction} (quiet : Quiet before after) : Moves before after action
  | parked {eventId due : Nat} {safeError : JournalSafeErrorLabel}
      (stems : Stems (RowParked eventId) before after) :
      Moves before after (.markEventWaitingRetry eventId safeError due)
  | parkedMissing {eventId due : Nat} {input : AttemptInput}
      (parks : before.parksMissing eventId = true)
      (stems : Stems (RowParked eventId) before after) :
      Moves before after (.resolveLocalFileMissing eventId input due)
  | received {eventId : Nat} {serverTombstoneId : Option Nat}
      (stems : Stems (RowReceived eventId) before after) :
      Moves before after (.recordLifecycleCommittedReceipt eventId serverTombstoneId)
  | captured {input : JournalCaptureInput} {draw : Draw} {middle : JournalRepository}
      {new : StoredJournalEvent} (fresh : before.captureCoalesces input draw = none)
      (quiet : Quiet before middle) (joins : Joins middle new none draw after)
      (file : new.localFileId = before.captureFileId input draw)
      (born : new.state = input.admission.birth.1) :
      Moves before after (.recordCapture input draw)
  | recorded {action : JournalAction} {localFileId : Nat} {draw : Draw}
      {middle : JournalRepository} {new : StoredJournalEvent} {operands : StoredOperands}
      (file : action.lifecycleFile = some localFileId) (drawn : action.draw = some draw)
      (quiet : Quiet before middle)
      (frozen : ∀ row ∈ middle.journalEvents, row.localFileId = localFileId →
        row.operation.isContent = true → row.state.isPending = false)
      (own : ∀ eventId, operands.predecessorEventId = some eventId →
        ∃ row ∈ middle.journalEvents, row.eventId = eventId ∧ row.localFileId = localFileId)
      (joins : Joins middle new (some operands) draw after)
      (newFile : new.localFileId = localFileId) : Moves before after action

/-! ## The mutations, one by one -/

namespace MoveLemmas

variable {journal next : JournalRepository}

theorem accepted_some {ε α : Type} {x : Except ε α} {a : α} (hs : accepted x = some a) :
    x = .ok a := by
  cases x with
  | error e => cases hs
  | ok b =>
    cases hs
    rfl

theorem answered_some {ε α β : Type} {x : Except ε (α × β)} {b : β}
    (hs : answered x = some b) : ∃ a, x = .ok (a, b) := by
  cases x with
  | error e => cases hs
  | ok p =>
    obtain ⟨a, b'⟩ := p
    cases hs
    exact ⟨a, rfl⟩

variable {event : StoredJournalEvent} {eventId localFileId : Nat} {path : Locator}
  {safeError : JournalSafeErrorLabel} {terminalState : JournalNonRetryEventState}
  {input : JournalCaptureInput} {newPath : Option Locator} {operands : LifecycleEventOperands}
  {tombstoneId : Option Nat} {an : LifecycleRecordResult}

theorem requireEvent_ok (hf : journal.requireEvent eventId = .ok event) :
    journal.readEvent eventId = some event := by
  unfold JournalRepository.requireEvent at hf
  split at hf
  · next hs =>
    cases hf
    exact hs
  · exact nomatch hf

theorem requirePendingEvent_ok (hf : journal.requirePendingEvent eventId = .ok event) :
    journal.readEvent eventId = some event ∧ event.state.isPending = true := by
  unfold JournalRepository.requirePendingEvent at hf
  split at hf
  · next hs =>
    split at hf
    · next hp =>
      cases hf
      exact ⟨hs, hp⟩
    · exact nomatch hf
  · exact nomatch hf

theorem row_eq (hu : UniqueEvents journal) {row : StoredJournalEvent}
    (hf : journal.readEvent eventId = some event) (hs : row ∈ journal.journalEvents)
    (he : row.eventId = eventId) : row = event :=
  hu.eq_of_key hs (Tables.mem_of_lookup hf) (he.trans (Tables.key_of_lookup hf).symm)

theorem rebind_ok {w : LocalFile → LocalFile}
    (hr : journal.rebindLocalFile localFileId path w = .ok next) : Quiet journal next := by
  unfold JournalRepository.rebindLocalFile at hr
  split at hr
  · exact nomatch hr
  · cases hr
    exact quiet_of_same rfl rfl

theorem quiet_reparent {r : Bool}
    (hv : journal.reparentAndClearIntent localFileId path r = .ok next) :
    Quiet journal next := by
  obtain ⟨re, hr, hv⟩ := bind_ok hv
  have hf : Quiet journal re := (rebind_ok hr).after rfl rfl
  cases hv
  split
  · exact hf.writes rfl rfl
  · exact hf

theorem quiet_reconcile (hv : journal.reconcilePendingRenameIntent localFileId path = .ok next) :
    Quiet journal next := by
  obtain ⟨r, hr, hv⟩ := bind_ok hv
  have hf : Quiet journal r := (rebind_ok hr).after rfl rfl
  cases hv
  exact hf.writes rfl rfl

theorem quiet_conflictOut {α : Type} {an : PendingRename α}
    (hv : journal.conflictOut localFileId path = .ok (an, next)) : Quiet journal next := by
  obtain ⟨r, hr, hv⟩ := bind_ok hv
  cases hv
  exact quiet_reconcile hr

theorem quiet_close (hu : UniqueEvents journal) (hf : journal.readEvent eventId = some event)
    (hp : event.state.isPending = true) :
    Quiet journal (journal.updateEvent eventId
      (JournalRepository.closedRow terminalState safeError)) := by
  refine quiet_updateEvent (fun row hs he => ?_) fun _ => rfl
  rw [row_eq hu hf hs he]
  exact .close (.rewrite rfl rfl rfl rfl rfl (fun _ => ⟨rfl, rfl, rfl, rfl⟩) hp) hp
    (by cases terminalState <;> rfl)

theorem quiet_closeContentEvent (hu : UniqueEvents journal)
    (hf : journal.readEvent eventId = some event) (hp : event.state.isPending = true) :
    Quiet journal (journal.closeContentEvent eventId terminalState safeError) :=
  (quiet_close hu hf hp).writes rfl rfl

/-! Capture. -/

theorem mem_argmax {rs : List StoredJournalEvent} (hn : rs.argmax (·.age) = some event) :
    event ∈ rs :=
  List.argmax_mem (Option.mem_def.mpr hn)

theorem coalescable_spec {draw : Draw} (hc : journal.captureCoalesces input draw = some event) :
    event ∈ journal.journalEvents ∧ event.localFileId = journal.captureFileId input draw ∧
      event.state.isCoalescable = true ∧ event.operation.isContent = true ∧
      event.isFingerprintFrozen = false := by
  unfold JournalRepository.captureCoalesces at hc
  split at hc
  · unfold JournalRepository.readCoalescableEvent at hc
    split at hc
    · exact nomatch hc
    · obtain ⟨hst, ha⟩ := List.mem_filter.mp (mem_argmax hc)
      simp only [Bool.and_eq_true, beq_iff_eq, Bool.not_eq_true'] at ha
      obtain ⟨⟨⟨hs, hco⟩, hct⟩, hu⟩ := ha
      exact ⟨hst, hs, hco, hct, hu⟩
  · exact nomatch hc

theorem captureOperation_isContent (input : JournalCaptureInput) :
    (journal.captureOperation input).isContent = true := by
  unfold JournalRepository.captureOperation
  split <;> rfl

theorem quiet_coalesceInto (hun : UniqueEvents journal) {draw : Draw}
    (hc : journal.captureCoalesces input draw = some event) :
    Quiet journal (journal.coalesceInto event input) := by
  obtain ⟨hs, _, _, hco, hu⟩ := coalescable_spec hc
  have hr : Quiet journal (journal.updateEvent event.eventId (journal.coalescedRow input)) := by
    refine quiet_updateEvent (fun row hi he => ?_) fun _ => rfl
    rw [hun.eq_of_key hi hs he]
    exact ⟨⟨⟨rfl, rfl, rfl, (captureOperation_isContent input).trans hco.symm, rfl, id, id,
      fun hf => absurd (hu.symm.trans hf) Bool.false_ne_true⟩,
      fun _ hre => hre⟩, fun _ => rfl⟩
  exact hr.writes rfl rfl

theorem captureFile_ok {draw : Draw} (hw : journal.captureFile input draw = .ok next) :
    next.journalEvents = journal.journalEvents ∧
      next.lifecycleOperands = journal.lifecycleOperands := by
  unfold JournalRepository.captureFile at hw
  split at hw
  · cases hw
    exact ⟨rfl, rfl⟩
  · split at hw
    · exact nomatch hw
    · cases hw
      exact ⟨rfl, rfl⟩

theorem appendEvent_ok (ha : journal.appendEvent event = .ok next) :
    next = { journal with
      journalEvents := journal.journalEvents ++ [{ event with rowid := journal.nextRowid }] } := by
  unfold JournalRepository.appendEvent at ha
  split at ha
  · exact nomatch ha
  · cases ha
    rfl

theorem moves_recordCapture (hu : UniqueEvents journal) {draw : Draw}
    {an : JournalCaptureResult}
    (hd : journal.recordCapture input draw = .ok (an, next)) :
    Moves journal next (.recordCapture input draw) := by
  unfold JournalRepository.recordCapture at hd
  split at hd
  · exact nomatch hd
  split at hd
  · next event hc =>
    cases hd
    exact .quiet (quiet_coalesceInto hu hc)
  · next hf =>
    split at hd
    · cases hd
      exact .quiet (quiet_of_same rfl rfl)
    obtain ⟨middle, hwr, hd⟩ := bind_ok hd
    obtain ⟨w, ha, hd⟩ := bind_ok hd
    have hw := appendEvent_ok ha
    obtain ⟨hsa, hs⟩ := captureFile_ok hwr
    cases hd
    have he : (if w.isAtQueueLimit draw.imageBytes = true then
        w.persistReconcileRequired else w).journalEvents = w.journalEvents := by
      split <;> rfl
    have operands : (if w.isAtQueueLimit draw.imageBytes = true then
        w.persistReconcileRequired else w).lifecycleOperands = w.lifecycleOperands := by
      split <;> rfl
    have hj : Joins middle
        { input.newEvent (journal.captureFileId input draw) (journal.captureOperation input) draw
          with rowid := middle.nextRowid } none draw
        (if w.isAtQueueLimit draw.imageBytes = true then w.persistReconcileRequired
          else w) := by
      refine ⟨?_, ?_, rfl, rfl, rfl, captureOperation_isContent input, nofun⟩
      · rw [he, hw]
      · rw [operands, hw]
        exact (List.append_nil _).symm
    exact .captured hf (quiet_of_same hsa hs) hj rfl rfl

/-! The transitions of one event. -/

theorem pending_of_coalescable {s : JournalEventState} (is : s.isCoalescable = true) :
    s.isPending = true := by
  cases s <;> first | rfl | cases is

theorem pending_of_started {s : JournalEventState} (is : s.isStarted = true) :
    s.isPending = true := by
  cases s <;> first | rfl | cases is

theorem quiet_markEventPreflightStarted (hu : UniqueEvents journal)
    (hs : journal.markEventPreflightStarted eventId = .ok next) : Quiet journal next := by
  obtain ⟨event, hf, hs⟩ := bind_ok hs
  obtain ⟨_, hc, hs⟩ := bind_ok hs
  cases hs
  refine quiet_updateEvent (fun row hst he => ?_) fun _ => rfl
  rw [row_eq hu (requireEvent_ok hf) hst he]
  have hp := pending_of_coalescable (ensure_ok.mp hc)
  exact ⟨⟨.rewrite rfl rfl rfl rfl rfl (fun _ => ⟨rfl, rfl, rfl, rfl⟩) hp,
    fun _ _ => .inl rfl⟩, keepsClosed_of_pending hp⟩

theorem quiet_markEventUploading (hu : UniqueEvents journal) {oi : String}
    (hs : journal.markEventUploading eventId oi = .ok next) :
    Quiet journal next := by
  obtain ⟨_, _, hs⟩ := bind_ok hs
  obtain ⟨event, hf, hs⟩ := bind_ok hs
  obtain ⟨_, hst, hs⟩ := bind_ok hs
  cases hs
  refine quiet_updateEvent (fun row hsd he => ?_) fun _ => rfl
  rw [row_eq hu (requireEvent_ok hf) hsd he]
  have hp := pending_of_started (ensure_ok.mp hst)
  exact ⟨⟨.rewrite rfl rfl rfl rfl rfl (fun _ => ⟨rfl, rfl, rfl, rfl⟩) hp,
    fun _ _ => .inl rfl⟩, keepsClosed_of_pending hp⟩

theorem stems_park (hu : UniqueEvents journal) {w : StoredJournalEvent → StoredJournalEvent}
    (hfo : journal.readEvent eventId = some event) (hp : event.state.isPending = true)
    (hk : ∀ row, (w row).age = row.age ∧ (w row).eventId = row.eventId ∧
      (w row).localFileId = row.localFileId ∧ (w row).operation = row.operation ∧
      (w row).createdAtEpochMs = row.createdAtEpochMs ∧ KeepsFrozen row (w row)) :
    Stems (RowParked eventId) journal (journal.updateEvent eventId w) := by
  refine stems_updateWhere (fun _ _ hr => hr.1.1)
    (fun row => ⟨⟨.refl row, fun _ => rfl⟩, fun _ => .refl row⟩)
    (fun row hs ha => ?_) fun row => (hk row).2.1
  have he := beq_iff_eq.mp ha
  obtain ⟨age, id, hfi, ho, hc, hf⟩ := hk row
  rw [← row_eq hu hfo hs he] at hp
  exact ⟨⟨.rewrite age id hfi (by rw [ho]) hc hf hp,
    keepsClosed_of_pending hp⟩, fun hot => absurd he hot⟩

theorem stems_markEventWaitingRetry (hu : UniqueEvents journal) {due : Nat}
    (hp : journal.markEventWaitingRetry eventId safeError due = .ok next) :
    Stems (RowParked eventId) journal next := by
  obtain ⟨event, hfo, hp⟩ := bind_ok hp
  obtain ⟨hs, hpe⟩ := requirePendingEvent_ok hfo
  cases hp
  exact stems_park hu hs hpe fun _ =>
    ⟨rfl, rfl, rfl, rfl, rfl, fun hf => ⟨hf, rfl, rfl, rfl⟩⟩

theorem quiet_markEventTerminal (hu : UniqueEvents journal)
    (hc : journal.markEventTerminal eventId terminalState safeError = .ok next) :
    Quiet journal next := by
  obtain ⟨event, hf, hc⟩ := bind_ok hc
  obtain ⟨hs, hp⟩ := requirePendingEvent_ok hf
  cases hc
  exact quiet_closeContentEvent hu hs hp

theorem moves_resolveLocalFileMissing (hu : UniqueEvents journal) {due : Nat}
    {input : AttemptInput} {an : LocalFileMissingResolution}
    (hr : journal.resolveIntentAwareLocalFileMissing eventId input due = .ok (an, next)) :
    Moves journal next (.resolveLocalFileMissing eventId input due) := by
  obtain ⟨_, _, hr⟩ := bind_ok hr
  obtain ⟨event, hfo, hr⟩ := bind_ok hr
  obtain ⟨_, _, hr⟩ := bind_ok hr
  obtain ⟨hs, hp⟩ := requirePendingEvent_ok hfo
  -- the attempt writes no event, so closing and parking start from the journal itself
  have ha : UniqueEvents (journal.recordAttempt (input.row eventId .deferredLifecycle)) := hu
  have hc : Quiet journal ((journal.recordAttempt (input.row eventId
      .deferredLifecycle)).closeContentEvent eventId .deferredLifecycle .deferredLifecycle) :=
    (quiet_closeContentEvent ha hs hp).after rfl rfl
  have hpa : ∀ middle : JournalRepository, middle.journalEvents = journal.journalEvents →
      middle.lifecycleOperands = journal.lifecycleOperands →
      Stems (RowParked eventId) journal (middle.parkForRename eventId due) := by
    intro middle he operands
    have hpd : Stems (RowParked eventId) journal (journal.parkForRename eventId due) :=
      stems_park hu hs hp fun _ =>
    ⟨rfl, rfl, rfl, rfl, rfl, fun hf => ⟨hf, rfl, rfl, rfl⟩⟩
    obtain ⟨hro, hun, hpr, hcs, ho⟩ := hpd
    refine ⟨?_, ?_, ?_, ?_, ?_⟩
    all_goals simp only [JournalRepository.parkForRename, JournalRepository.updateEvent,
      JournalRepository.predecessorOf, JournalRepository.readOperands, CommittedIn, UniqueEvents,
      he, operands] at *
    all_goals assumption
  dsimp only at hr
  split at hr
  · cases hr
    exact .quiet hc
  · next i hh =>
    split at hr
    · next hn =>
      cases hr
      refine .parkedMissing ?_ (hpa _ rfl rfl)
      simp only [JournalRepository.parksMissing, hs, Option.any_some]
      rw [show journal.readPendingRenameIntentForLocalFile event.localFileId = some i from
        hh, show Tables.lookup (·.localFileId) journal.missingFileDeferrals
          event.localFileId = none from hn]
      rfl
    · next d hha =>
      split at hr
      · obtain ⟨r, hre, hr⟩ := bind_ok hr
        cases hr
        exact .quiet (hc.trans (quiet_reparent hre))
      · next hco =>
        cases hr
        refine .parkedMissing ?_ (hpa _ rfl rfl)
        simp only [JournalRepository.parksMissing, hs, Option.any_some]
        rw [show journal.readPendingRenameIntentForLocalFile event.localFileId = some i from
          hh, show Tables.lookup (·.localFileId) journal.missingFileDeferrals
            event.localFileId = some d from hha]
        simp only [Option.isSome_some, Bool.true_and, Option.all_some]
        rw [Bool.or_eq_true, not_or] at hco
        simpa using hco

theorem quiet_resolveContentTerminal (hu : UniqueEvents journal) {input : AttemptInput}
    {an : ContentTerminalResolution}
    (hr : journal.resolveIntentAwareContentTerminal eventId terminalState safeError input =
      .ok (an, next)) : Quiet journal next := by
  obtain ⟨_, _, hr⟩ := bind_ok hr
  obtain ⟨event, hf, hr⟩ := bind_ok hr
  obtain ⟨_, _, hr⟩ := bind_ok hr
  obtain ⟨hs, hp⟩ := requirePendingEvent_ok hf
  have ha : UniqueEvents (journal.recordAttempt (input.row eventId safeError)) := hu
  have hc : Quiet journal ((journal.recordAttempt (input.row eventId
      safeError)).closeContentEvent eventId terminalState safeError) :=
    (quiet_closeContentEvent ha hs hp).after rfl rfl
  dsimp only at hr
  split at hr
  · cases hr
    exact hc
  · split at hr
    · exact nomatch hr
    · split at hr
      · cases hr
        exact hc
      · obtain ⟨r, hre, hr⟩ := bind_ok hr
        cases hr
        exact hc.trans (quiet_reparent hre)

theorem quiet_freezePendingForLocalFile
    (hf : journal.freezePendingForLocalFile localFileId = .ok next) : Quiet journal next := by
  unfold JournalRepository.freezePendingForLocalFile at hf
  split at hf
  · cases hf
    exact (quiet_freezeEvents localFileId).writes rfl rfl
  · exact nomatch hf

theorem quiet_recordReceipt (hu : UniqueEvents journal) {s : JournalEventState}
    {si bv : Nat} (hc : s.isPending = false)
    (hd : journal.recordReceipt s eventId si bv = .ok next) :
    Quiet journal next := by
  obtain ⟨event, hf, hd⟩ := bind_ok hd
  obtain ⟨hs, hp⟩ := requirePendingEvent_ok hf
  cases hd
  have hr : Quiet journal (journal.updateEvent eventId (JournalRepository.receiptRow s)) := by
    refine quiet_updateEvent (fun row hst he => ?_) fun _ => rfl
    rw [row_eq hu hs hst he]
    exact .close (.rewrite rfl rfl rfl rfl rfl (fun _ => ⟨rfl, rfl, rfl, rfl⟩) hp) hp hc
  exact hr.writes rfl rfl

theorem quiet_recordEventAttempt {input : AttemptInput} {l : JournalSafeErrorLabel}
    (hd : journal.recordEventAttempt eventId input l = .ok next) :
    Quiet journal next := by
  obtain ⟨_, _, hd⟩ := bind_ok hd
  obtain ⟨_, _, hd⟩ := bind_ok hd
  cases hd
  exact quiet_of_same rfl rfl

/-! The lifecycle repository. -/

theorem quiet_recordOrComposePendingRenameIntent {p c : Locator}
    {an : PendingRename PendingRenameIntentOutcome}
    (hd : journal.recordOrComposePendingRenameIntent localFileId p c =
      .ok (an, next)) : Quiet journal next := by
  unfold JournalRepository.recordOrComposePendingRenameIntent at hd
  dsimp only at hd
  repeat' split at hd
  all_goals first
    | contradiction
    | exact quiet_conflictOut hd
    | (cases hd; exact quiet_of_same rfl rfl)

theorem quiet_reparentAndClear
    (hv : journal.reparentAndClearPendingRenameIntent localFileId = .ok next) :
    Quiet journal next := by
  unfold JournalRepository.reparentAndClearPendingRenameIntent at hv
  split at hv
  · exact nomatch hv
  · exact quiet_reparent hv

theorem writeRecordedFile_ok
    (hw : journal.writeRecordedFile localFileId operands tombstoneId newPath = .ok next) :
    next.journalEvents = journal.journalEvents ∧
      next.lifecycleOperands = journal.lifecycleOperands := by
  unfold JournalRepository.writeRecordedFile at hw
  split at hw
  · unfold JournalRepository.rebindLocalFile at hw
    split at hw
    · exact nomatch hw
    · cases hw
      exact ⟨rfl, rfl⟩
  · cases hw
    exact ⟨rfl, rfl⟩

theorem appendOperands_ok {sd : StoredOperands} (ha : journal.appendOperands sd = .ok next) :
    next = { journal with lifecycleOperands := journal.lifecycleOperands ++ [sd] } := by
  unfold JournalRepository.appendOperands at ha
  split at ha
  · exact nomatch ha
  · cases ha
    rfl

theorem joins_insertLifecycleEvent {draw : Draw} (hl : operands.operation.isContent = false)
    (hi : journal.insertLifecycleEvent localFileId operands tombstoneId newPath draw = .ok next) :
    Joins journal
      { JournalRepository.lifecycleEventRow localFileId operands.operation draw with
        rowid := journal.nextRowid }
      (some (JournalRepository.operandsRow operands tombstoneId draw.eventId)) draw next := by
  obtain ⟨we, ha, hi⟩ := bind_ok hi
  obtain ⟨wo, ho, hw⟩ := bind_ok hi
  obtain ⟨hsa, hs⟩ := writeRecordedFile_ok hw
  rw [appendOperands_ok ho, appendEvent_ok ha] at hsa hs
  refine ⟨hsa, hs, rfl, rfl, rfl, hl, fun sd hso => ?_⟩
  cases hso
  rfl

theorem lifecycle_of_validateOptions (hv : validateOptions operands tombstoneId = true) :
    operands.operation.isContent = false := by
  unfold validateOptions at hv
  split at hv
  all_goals first
    | contradiction
    | next ho => rw [ho]; rfl

theorem writeLifecycleEvent_ok {draw : Draw}
    (hw : journal.writeLifecycleEvent localFileId operands tombstoneId newPath draw =
      .ok (an, next)) :
    (journal.findReplay localFileId operands = some an ∧ next = journal) ∨
      (journal.findReplay localFileId operands = none ∧ operands.operation.isContent = false ∧
        journal.isPredecessorStored operands.predecessorEventId = true ∧
        journal.insertLifecycleEvent localFileId operands tombstoneId newPath draw = .ok next) := by
  unfold JournalRepository.writeLifecycleEvent at hw
  split at hw
  · exact nomatch hw
  next hv =>
  have hl := lifecycle_of_validateOptions (by simpa using hv)
  split at hw
  · next r hr =>
    cases hw
    exact .inl ⟨hr, rfl⟩
  · next hn =>
    split at hw
    · exact nomatch hw
    next hs =>
    obtain ⟨i, hi, hw⟩ := bind_ok hw
    cases hw
    exact .inr ⟨hn, hl, by simpa using hs, hi⟩

theorem frozen_content {row : StoredJournalEvent}
    (hm : row ∈ (journal.freezeEvents localFileId).journalEvents)
    (hf : row.localFileId = localFileId) (hc : row.operation.isContent = true) :
    row.state.isPending = false := by
  obtain ⟨old, hst, hw⟩ := Tables.mem_updateWhere.mp hm
  split at hw
  · rw [← hw]
    rfl
  · next hs =>
    rw [hw] at hs
    cases hp : row.state.isPending with
    | false => rfl
    | true => exact absurd (by simp [hf, hc, hp]) hs

theorem own_predecessor (hu : UniqueEvents journal) {middle : JournalRepository}
    (hq : Quiet journal middle) (own : journal.isOwnPredecessor localFileId operands = true)
    (hs : middle.isPredecessorStored operands.predecessorEventId = true)
    (hn : operands.predecessorEventId = some eventId) :
    ∃ row ∈ middle.journalEvents, row.eventId = eventId ∧ row.localFileId = localFileId := by
  rw [JournalRepository.isPredecessorStored, hn, Option.all_some] at hs
  obtain ⟨r', hf⟩ := Option.isSome_iff_exists.mp hs
  have hm := Tables.mem_of_lookup hf
  have he : r'.eventId = eventId := Tables.key_of_lookup hf
  obtain ⟨row, hst, hk⟩ := hq.rows r' hm
  have before : journal.readEvent eventId = some row :=
    hu.lookup_iff.mpr ⟨hst, hk.eventId.symm.trans he⟩
  rw [JournalRepository.isOwnPredecessor, hn, Option.all_some, before, Option.all_some,
    beq_iff_eq] at own
  exact ⟨r', hm, he, hk.localFileId.trans own⟩

theorem moves_recorded (hu : UniqueEvents journal) {middle : JournalRepository}
    {action : JournalAction} {draw : Draw}
    (hw : middle.writeLifecycleEvent localFileId operands tombstoneId newPath draw =
      .ok (an, next)) (hfi : action.lifecycleFile = some localFileId)
    (hd : action.draw = some draw)
    (he : middle.journalEvents = (journal.freezeEvents localFileId).journalEvents)
    (hs : middle.lifecycleOperands = journal.lifecycleOperands)
    (own : journal.isOwnPredecessor localFileId operands = true) : Moves journal next action := by
  have hq : Quiet journal middle := (quiet_freezeEvents localFileId).writes he hs
  rcases writeLifecycleEvent_ok hw with ⟨_, hsa⟩ | ⟨_, hl, hst, hi⟩
  · exact .quiet (hsa ▸ hq)
  · refine .recorded hfi hd hq (fun row hm hf hc => ?_) (fun eventId hn => ?_)
      (joins_insertLifecycleEvent hl hi) rfl
    · rw [he] at hm
      exact frozen_content hm hf hc
    · exact own_predecessor hu hq own hst hn

theorem moves_recordLifecycleEventWithFreeze (hu : UniqueEvents journal) {draw : Draw}
    (own : journal.isOwnPredecessor localFileId operands = true)
    (hd : journal.recordLifecycleEventWithFreeze localFileId operands tombstoneId newPath
      draw = .ok (an, next)) :
    Moves journal next (.recordLifecycleEventWithFreeze localFileId operands tombstoneId newPath
      draw) := by
  unfold JournalRepository.recordLifecycleEventWithFreeze at hd
  split at hd
  · exact moves_recorded hu hd rfl rfl rfl rfl own
  · exact nomatch hd

theorem quiet_answerOpenPrefix {i : PendingRenameIntent}
    {an : PendingRename (Option LifecycleRecordResult)}
    (ha : journal.answerOpenPrefix localFileId i = .ok (an, next)) :
    Quiet journal next := by
  unfold JournalRepository.answerOpenPrefix at ha
  split at ha
  · split at ha
    · exact quiet_conflictOut ha
    · cases ha
      exact .refl journal
  · exact nomatch ha

theorem moves_recordPendingRename (hu : UniqueEvents journal) {c : FrozenFingerprint}
    {draw : Draw} {an : PendingRename (Option LifecycleRecordResult)}
    (hd : journal.recordPendingRenameLifecycleEvent localFileId c draw = .ok (an, next)) :
    Moves journal next (.recordPendingRenameLifecycleEvent localFileId c draw) := by
  unfold JournalRepository.recordPendingRenameLifecycleEvent at hd
  split at hd
  · cases hd
    exact .quiet (.refl journal)
  split at hd
  · split at hd
    · exact .quiet (quiet_conflictOut hd)
    split at hd
    · exact nomatch hd
    split at hd
    · exact nomatch hd
    split at hd
    · split at hd
      · exact nomatch hd
      · obtain ⟨⟨an', n'⟩, hm, hd⟩ := bind_ok hd
        cases hd
        exact moves_recorded hu hm rfl rfl rfl rfl rfl
    · cases hd
      exact .quiet (.refl journal)
  · exact .quiet (quiet_answerOpenPrefix hd)
  · exact nomatch hd

theorem readLifecycleEvent_some {f : FrozenLifecycleEvent}
    (hf : journal.readLifecycleEvent eventId = some f) :
    journal.readEvent eventId = some f.event ∧ journal.readOperands eventId = some f.operands := by
  obtain ⟨event, he, hf⟩ := Option.bind_eq_some_iff.mp hf
  obtain ⟨operands, ho, rfl⟩ := Option.map_eq_some_iff.mp hf
  exact ⟨he, ho⟩

theorem quiet_resolveLifecycleTerminal (hu : UniqueEvents journal)
    {terminalState : LifecycleTerminalState} {input : AttemptInput}
    {an : LifecycleTerminalResolution}
    (hr : journal.resolveIntentAwareLifecycleTerminal eventId terminalState input =
      .ok (an, next)) : Quiet journal next := by
  obtain ⟨_, _, hr⟩ := bind_ok hr
  split at hr
  · exact nomatch hr
  next f hf =>
  split at hr
  · exact nomatch hr
  next ho =>
  rw [Bool.or_eq_true, not_or] at ho
  have hp : f.event.state.isPending = true := by simpa using ho.2
  have ha : UniqueEvents (journal.recordAttempt (input.row eventId terminalState.label)) := hu
  have hop : Quiet journal (journal.recordAttempt (input.row eventId terminalState.label)) :=
    quiet_of_same rfl rfl
  have hcl : Quiet (journal.recordAttempt (input.row eventId terminalState.label))
      ((journal.recordAttempt (input.row eventId terminalState.label)).updateEvent eventId
        (JournalRepository.closedRow terminalState.state terminalState.label)) :=
    quiet_close ha (readLifecycleEvent_some hf).1 hp
  have hc : Quiet journal (((journal.recordAttempt (input.row eventId
      terminalState.label)).updateEvent eventId (JournalRepository.closedRow terminalState.state
        terminalState.label)).dropMultipartOfEvent eventId) :=
    (hop.trans hcl).writes rfl rfl
  dsimp only at hr
  split at hr
  · cases hr
    exact hc
  · obtain ⟨r, hre, hr⟩ := bind_ok hr
    cases hr
    exact hc.trans (quiet_reconcile hre)

theorem received_quiet {middle : JournalRepository}
    (hr : Stems (RowReceived eventId) journal middle) (hq : Quiet middle next) :
    Stems (RowReceived eventId) journal next := by
  refine hr.behind hq (fun _ _ hre => hre.toRowKept)
    fun row r' r'' hf hs => ⟨hf.1.trans hs.toRowReady, fun ho => ?_⟩
  exact (hf.2 ho).trans hs.closed

theorem received_commitLifecycleEvent (eventId : Nat) (st : Option Nat) :
    Stems (RowReceived eventId) journal (journal.commitLifecycleEvent eventId st) := by
  have hc : Stems (RowReceived eventId) journal (journal.updateEvent eventId fun row =>
      { row with state := .committed, nextEligibleRetryEpochMs := none, safeError := none }) := by
    refine stems_updateWhere (fun _ _ hr => hr.1.toRowKept)
      (fun row => ⟨(RowQuiet.refl row).toRowReady, fun _ _ => rfl⟩)
      (fun row _ ha => ⟨?_, fun ho => absurd (beq_iff_eq.mp ha) ho⟩) fun _ => rfl
    refine ⟨⟨rfl, rfl, rfl, rfl, rfl, fun hp => ?_, fun _ => rfl,
      fun hf => ⟨hf, rfl, rfl, rfl⟩⟩, fun hp => ?_⟩
    all_goals exact absurd hp Bool.false_ne_true
  unfold JournalRepository.commitLifecycleEvent
  split
  · exact hc
  · refine received_quiet hc ⟨fun r' hm => ⟨r', hm, .refl r'⟩, id, fun r' _ => ?_,
      fun _ _ _ before => before, fun sd' hm => ?_⟩
    · simp only [JournalRepository.predecessorOf, JournalRepository.readOperands]
      rw [Tables.lookup_updateWhere, Option.map_map]
      · refine congrArg (fun f => Option.map f _) (funext fun sd => ?_)
        show StoredOperands.predecessorEventId (if _ then _ else _) = _
        split <;> rfl
      · exact fun _ => rfl
    · obtain ⟨sd, hi, hw⟩ := Tables.mem_updateWhere.mp hm
      refine ⟨sd, hi, ?_⟩
      rw [← hw]
      split <;> exact ⟨rfl, rfl⟩

theorem quiet_commitRebind (localFileId : Nat) (t : Locator) :
    Quiet journal (journal.commitRebind localFileId t) := by
  have hr : Quiet journal (journal.deleteEvents fun event =>
      event.localFileId == localFileId && event.state == .deferredLifecycle) := by
    refine quiet_deleteEvents fun row _ hd => ?_
    rw [Bool.and_eq_true, beq_iff_eq, beq_iff_eq] at hd
    rw [hd.2]
    exact nofun
  unfold JournalRepository.commitRebind
  dsimp only
  split
  · exact hr.writes rfl rfl
  · split
    · exact hr.writes rfl rfl
    · exact hr.writes rfl rfl

theorem received_recordLifecycleCommittedReceipt {st : Option Nat}
    (hd : journal.recordLifecycleCommittedReceipt eventId st = .ok next) :
    Stems (RowReceived eventId) journal next := by
  have hb : ∀ {middle}, Quiet (journal.commitLifecycleEvent eventId st) middle →
      Stems (RowReceived eventId) journal middle :=
    received_quiet (received_commitLifecycleEvent eventId st)
  unfold JournalRepository.recordLifecycleCommittedReceipt at hd
  split at hd
  · exact nomatch hd
  dsimp only at hd
  repeat' split at hd
  all_goals first
    | contradiction
    | exact hb (rebind_ok hd)
    | (cases hd; exact hb (quiet_commitRebind _ _))
    | (cases hd; exact hb (quiet_of_same rfl rfl))

theorem quiet_reserveRow {f : LocalFile} {tp : Locator}
    {an : RestoreReservationResult}
    (hr : journal.reserveRow f tp = .ok (an, next)) : Quiet journal next := by
  obtain ⟨r, hre, hr⟩ := bind_ok hr
  cases hr
  exact rebind_ok hre

theorem quiet_reserveRestoreTarget (hu : UniqueEvents journal) {tp : Locator}
    {an : RestoreReservationResult}
    (hr : journal.reserveRestoreTarget localFileId tp = .ok (an, next)) :
    Quiet journal next := by
  unfold JournalRepository.reserveRestoreTarget at hr
  repeat' split at hr
  all_goals first
    | contradiction
    | exact quiet_reserveRow hr
    | exact (quiet_removeLocalMapping hu _).trans (quiet_reserveRow hr)
    | (cases hr; exact .refl journal)

end MoveLemmas

open MoveLemmas in
theorem moves_of_mutate {journal next : JournalRepository} {action : JournalAction}
    (hu : UniqueEvents journal) (hv : journal.mutate action = some next) :
    Moves journal next action := by
  cases action with
  | advanceClock em =>
    cases hv
    exact .quiet (.refl journal)
  | recordCapture input draw =>
    obtain ⟨_, hd⟩ := answered_some hv
    exact moves_recordCapture hu hd
  | markEventPreflightStarted eventId =>
    exact .quiet (quiet_markEventPreflightStarted hu (accepted_some hv))
  | markEventWaitingRetry eventId safeError due =>
    exact .parked (stems_markEventWaitingRetry hu (accepted_some hv))
  | markEventUploading eventId oi =>
    exact .quiet (quiet_markEventUploading hu (accepted_some hv))
  | markEventTerminal eventId terminalState safeError =>
    exact .quiet (quiet_markEventTerminal hu (accepted_some hv))
  | resolveLocalFileMissing eventId input due =>
    obtain ⟨_, hre⟩ := answered_some hv
    exact moves_resolveLocalFileMissing hu hre
  | resolveContentTerminal eventId terminalState safeError input =>
    obtain ⟨_, hre⟩ := answered_some hv
    exact .quiet (quiet_resolveContentTerminal hu hre)
  | freezePendingForLocalFile localFileId =>
    exact .quiet (quiet_freezePendingForLocalFile (accepted_some hv))
  | removeLocalMapping localFileId =>
    cases hv
    exact .quiet (quiet_removeLocalMapping hu localFileId)
  | recordCommittedReceipt eventId si bv =>
    exact .quiet (quiet_recordReceipt hu rfl (accepted_some hv))
  | recordNoChangeReceipt eventId si bv =>
    exact .quiet (quiet_recordReceipt hu rfl (accepted_some hv))
  | recordEventAttempt eventId input l =>
    exact .quiet (quiet_recordEventAttempt (accepted_some hv))
  | recordOrComposePendingRenameIntent localFileId pr cu =>
    obtain ⟨_, hd⟩ := answered_some hv
    exact .quiet (quiet_recordOrComposePendingRenameIntent hd)
  | reparentAndClearPendingRenameIntent localFileId =>
    exact .quiet (quiet_reparentAndClear (accepted_some hv))
  | recordLifecycleEventWithFreeze localFileId operands tombstoneId newPath draw =>
    simp only [JournalRepository.mutate] at hv
    split at hv
    · next own =>
      obtain ⟨_, hd⟩ := answered_some hv
      exact moves_recordLifecycleEventWithFreeze hu own hd
    · exact nomatch hv
  | recordPendingRenameLifecycleEvent localFileId c draw =>
    obtain ⟨_, hd⟩ := answered_some hv
    exact moves_recordPendingRename hu hd
  | resolveLifecycleTerminal eventId terminalState input =>
    obtain ⟨_, hre⟩ := answered_some hv
    exact .quiet (quiet_resolveLifecycleTerminal hu hre)
  | recordLifecycleCommittedReceipt eventId st =>
    exact .received (received_recordLifecycleCommittedReceipt (accepted_some hv))
  | consumeRestoreSuccessor localFileId =>
    have hc := accepted_some hv
    unfold JournalRepository.consumeRestoreSuccessor at hc
    split at hc
    · cases hc
      exact .quiet (quiet_of_same rfl rfl)
    · exact nomatch hc
  | recordLifecycleReconcile localFileId =>
    have hr := accepted_some hv
    unfold JournalRepository.recordLifecycleReconcileForLocalFile at hr
    split at hr
    · exact nomatch hr
    · exact .quiet (quiet_reconcile hr)
  | reserveRestoreTarget localFileId tp =>
    obtain ⟨_, hres⟩ := answered_some hv
    exact .quiet (quiet_reserveRestoreTarget hu hres)
  | releaseRestoreTarget localFileId =>
    have hrd := accepted_some hv
    unfold JournalRepository.releaseRestoreTarget at hrd
    repeat' split at hrd
    all_goals first
      | contradiction
      | exact .quiet (rebind_ok hrd)
  | writeElsewhere lf i d p ir =>
    cases hv
    exact .quiet (quiet_of_same rfl rfl)

/-! ## Runs -/

section Runs

variable {before after : JournalRepository} {action : JournalAction}

/-- The event whose lifecycle receipt an action records. -/
def JournalAction.receiptOf : JournalAction → Option Nat
  | .recordLifecycleCommittedReceipt eventId _ => some eventId
  | _ => none

variable {middle : JournalRepository} {new : StoredJournalEvent} {operands : Option StoredOperands}
  {draw : Draw}

theorem Joins.rows (hj : Joins middle new operands draw after) (hq : Quiet before middle) :
    ∀ r' ∈ after.journalEvents, (∃ row ∈ before.journalEvents, RowQuiet row r') ∨
      r'.eventId = draw.eventId := by
  intro r' hm
  rw [hj.events] at hm
  rcases List.mem_append.mp hm with hs | hn
  · exact .inl (hq.rows r' hs)
  · rw [List.mem_singleton.mp hn]
    exact .inr hj.eventId

theorem Joins.unique (hj : Joins middle new operands draw after) (hq : Quiet before middle)
    (hu : UniqueEvents before)
    (hf : ∀ row ∈ before.journalEvents, row.eventId ≠ draw.eventId) : UniqueEvents after := by
  rw [UniqueEvents, hj.events]
  refine (hq.unique hu).snoc (Tables.lookup_none_iff.mpr fun r' hs he => ?_)
  obtain ⟨row, hi, hk⟩ := hq.rows r' hs
  exact hf row hi (hk.eventId.symm.trans (he.trans hj.eventId))

/-- The rows after an action stem from rows before it, or carry the id it has drawn; only a
lifecycle receipt changes a closed state. -/
theorem Moves.rows (hmo : Moves before after action) :
    ∀ r' ∈ after.journalEvents, (∃ row ∈ before.journalEvents, RowKept row r' ∧
        (action.receiptOf ≠ some row.eventId → KeepsClosed row r')) ∨
      ∃ draw, action.draw = some draw ∧ r'.eventId = draw.eventId := by
  intro r' hm
  cases hmo with
  | quiet hq =>
    obtain ⟨row, hs, hk⟩ := hq.rows r' hm
    exact .inl ⟨row, hs, hk.toRowKept, fun _ => hk.closed⟩
  | parked hst =>
    obtain ⟨row, hs, hk⟩ := hst.rows r' hm
    exact .inl ⟨row, hs, hk.1.1, fun _ => hk.1.2⟩
  | parkedMissing _ hst =>
    obtain ⟨row, hs, hk⟩ := hst.rows r' hm
    exact .inl ⟨row, hs, hk.1.1, fun _ => hk.1.2⟩
  | received hst =>
    obtain ⟨row, hs, hk⟩ := hst.rows r' hm
    exact .inl ⟨row, hs, hk.1.toRowKept, fun ho =>
      hk.2 fun he => ho (congrArg some he.symm)⟩
  | captured _ hq hj =>
    rcases hj.rows hq r' hm with ⟨row, hs, hk⟩ | hd
    · exact .inl ⟨row, hs, hk.toRowKept, fun _ => hk.closed⟩
    · exact .inr ⟨_, rfl, hd⟩
  | recorded _ hdr hq _ _ hj =>
    rcases hj.rows hq r' hm with ⟨row, hs, hk⟩ | hd
    · exact .inl ⟨row, hs, hk.toRowKept, fun _ => hk.closed⟩
    · exact .inr ⟨_, hdr, hd⟩

theorem Moves.unique (hm : Moves before after action) (hu : UniqueEvents before)
    (hf : ∀ draw, action.draw = some draw →
      ∀ row ∈ before.journalEvents, row.eventId ≠ draw.eventId) : UniqueEvents after := by
  cases hm with
  | quiet hq => exact hq.unique hu
  | parked hs => exact hs.unique hu
  | parkedMissing _ hs => exact hs.unique hu
  | received hs => exact hs.unique hu
  | captured _ hq hj => exact hj.unique hq hu (hf _ rfl)
  | recorded _ hd hq _ _ hj => exact hj.unique hq hu (hf _ hd)

/-- Event ids are a key and have all been issued. -/
structure JournalWorld.Sound (world : JournalWorld) : Prop where
  unique : UniqueEvents world.journal
  issued : ∀ row ∈ world.journal.journalEvents, row.eventId ∈ world.issuedEventIds

variable {world w' : JournalWorld}

theorem step_some (hv : world.step action = some w') :
    world.allowsDraw action = true ∧ world.journal.mutate action = some w'.journal ∧
      w'.nowEpochMs = world.nextClock action ∧
      w'.issuedEventIds = (action.draw.map (·.eventId)).toList ++ world.issuedEventIds := by
  unfold JournalWorld.step at hv
  split at hv
  · next ha =>
    obtain ⟨next, hm, rfl⟩ := Option.map_eq_some_iff.mp hv
    exact ⟨ha, hm, rfl, rfl⟩
  · exact nomatch hv

/-- A drawn id has not been issued before, and the drawn time is the clock's. -/
theorem draw_fresh (ha : world.allowsDraw action = true) {draw : Draw}
    (hd : action.draw = some draw) :
    draw.eventId ∉ world.issuedEventIds ∧ draw.nowEpochMs = world.nowEpochMs := by
  simpa [JournalWorld.allowsDraw, hd] using ha

theorem JournalWorld.Sound.fresh (hso : world.Sound) (ha : world.allowsDraw action = true) :
    ∀ draw, action.draw = some draw →
      ∀ row ∈ world.journal.journalEvents, row.eventId ≠ draw.eventId :=
  fun _ hd row hs he =>
    (draw_fresh ha hd).1 (he ▸ hso.issued row hs)

theorem JournalWorld.Sound.step (hs : world.Sound) (hv : world.step action = some w') :
    w'.Sound := by
  obtain ⟨ha, hm, _, hi⟩ := step_some hv
  have hmo := moves_of_mutate hs.unique hm
  refine ⟨hmo.unique hs.unique (hs.fresh ha), fun r' hme => ?_⟩
  rw [hi]
  rcases hmo.rows r' hme with ⟨row, hst, hk, _⟩ | ⟨draw, hdr, hd⟩
  · rw [hk.eventId]
    exact List.mem_append_right _ (hs.issued row hst)
  · rw [hd, hdr]
    exact List.mem_append_left _ (List.mem_singleton_self _)

def JournalWorld.HasClosed (world : JournalWorld) (eventId : Nat) : Prop :=
  eventId ∈ world.issuedEventIds ∧
    ∀ row ∈ world.journal.journalEvents, row.eventId = eventId → row.state.isPending = false

theorem JournalWorld.HasClosed.step (hso : world.Sound) {eventId : Nat}
    (hc : world.HasClosed eventId) (hv : world.step action = some w') :
    w'.HasClosed eventId := by
  obtain ⟨ha, hm, _, hi⟩ := step_some hv
  have hmo := moves_of_mutate hso.unique hm
  refine ⟨?_, fun r' hme he => ?_⟩
  · rw [hi]
    exact List.mem_append_right _ hc.1
  rcases hmo.rows r' hme with ⟨row, hs, hk, _⟩ | ⟨draw, hdr, hd⟩
  · have hw := hc.2 row hs (hk.eventId.symm.trans he)
    cases hp : r'.state.isPending with
    | false => rfl
    | true => exact absurd (hk.pending hp) (by rw [hw]; exact Bool.false_ne_true)
  · rw [← he, hd] at hc
    exact absurd hc.1 (draw_fresh ha hdr).1

theorem closed_leads (sound : world.Sound) {eventId : Nat} (closed : world.HasClosed eventId)
    (leads : journalMachine.Leads world w') : w'.HasClosed eventId := by
  suffices w'.Sound ∧ w'.HasClosed eventId from this.2
  induction leads with
  | refl => exact ⟨sound, closed⟩
  | tail _ moved ih =>
    obtain ⟨action, moved⟩ := moved
    exact ⟨ih.1.step moved, ih.2.step ih.1 moved⟩

end Runs

/-! ## Scripts -/

/-- Fresh ids at the clock's first instant, in an empty image. -/
def sampleDraw (localFileId eventId : Nat) : Draw where
  localFileId := localFileId
  eventId := eventId
  idempotencyKey := eventId
  nowEpochMs := 0
  imageBytes := 0

/-- Bytes told apart by their digest. -/
def sampleFingerprint (sha256 : String) : FrozenFingerprint where
  sha256 := sha256
  sizeBytes := 1
  mediaType := "text/markdown"

/-- An allowed observation. -/
def sampleCapture (path : Locator) (sha256 : String) : JournalCaptureInput where
  normalizedPath := path
  fingerprint := sampleFingerprint sha256
  policyRevisionNumber := 1
  admission := .policyAllowed

/-- The first capture of a path, its preflight and its receipt: the file is tracked. -/
def trackFile (localFileId : Nat) (path : Locator) (eventId : Nat) : List JournalAction :=
  [.recordCapture (sampleCapture path "aa") (sampleDraw localFileId eventId),
   .markEventPreflightStarted eventId,
   .recordCommittedReceipt eventId eventId eventId]

end PersonalOs.Journal
