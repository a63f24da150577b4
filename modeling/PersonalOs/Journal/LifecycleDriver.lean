import PersonalOs.Journal.JournalMachine

/-!
# The lifecycle driver

`LifecycleDriverImpl.runOne`: select the oldest eligible lifecycle event, send it, and persist what
the server answered. A rejection either closes the event or parks it for a later try.
-/

namespace PersonalOs.Journal

open PersonalOs.DeviceSync (Locator)

inductive LifecycleApiFailureKind
  | networkOffline
  | networkTimeout
  | networkRateLimited
  | serverError
  | loginRequired
  | conflict
  | integrity
  | integrity5xx
deriving DecidableEq

inductive LifecycleRunOutcome
  | idle
  | committed
  | blocked
  | retry
  | loginRequired
deriving DecidableEq

/-- What the API call ends in: a receipt, a closed rejection, or any other thrown value. -/
inductive LifecycleApiAnswer
  | receipt (tombstoneId : Option Nat)
  | rejected (kind : LifecycleApiFailureKind)
  | thrown
deriving DecidableEq

def retryLabelForKind : LifecycleApiFailureKind → JournalSafeErrorLabel
  | .networkOffline => .networkOffline
  | .networkTimeout => .networkTimeout
  | .networkRateLimited => .networkRateLimited
  | _ => .serverError

def LifecycleApiFailureKind.terminalState : LifecycleApiFailureKind → Option LifecycleTerminalState
  | .conflict => some .blockedConflict
  | .integrity | .integrity5xx => some .integrityFailed
  | _ => none

/-! ## Backoff -/

def retryBackoffInitialMs : Nat := 1000

def retryBackoffMaximumMs : Nat := 300000

def exponentialDelayMs (attemptCount : Nat) : Nat :=
  min retryBackoffMaximumMs (retryBackoffInitialMs * 2 ^ min (attemptCount - 1) 30)

/-- `computeLifecycleRetryBackoffMs`; `Math.round` rounds halves up. -/
def computeLifecycleRetryBackoffMs (attemptCount : Nat) (randomJitter : ℚ) : Nat :=
  let delay : ℚ := exponentialDelayMs attemptCount
  min retryBackoffMaximumMs ⌊delay + delay * (1 / 4) * randomJitter + 1 / 2⌋.toNat

/-! ## The driver -/

/-- The clock reads, the correlation id and the jitter of one run, as their sources give them. -/
structure RunInputs where
  attemptedAtEpochMs : Nat
  scheduledAtEpochMs : Nat
  requestCorrelationId : String
  randomJitter : ℚ
  attempted_pos : 0 < attemptedAtEpochMs
  correlation_valid : isRequestCorrelationId requestCorrelationId = true
  jitter_nonneg : 0 ≤ randomJitter
  jitter_lt_one : randomJitter < 1

def RunInputs.attempt (inputs : RunInputs) : AttemptInput where
  attemptedAtEpochMs := inputs.attemptedAtEpochMs
  requestCorrelationId := inputs.requestCorrelationId

abbrev RunResult := JournalRepository × Except JournalStoreError LifecycleRunOutcome

namespace LifecycleDriver

/-- `#closeTerminal`; the repair barrier that may follow writes no table of this model. -/
def closeTerminal (journal : JournalRepository) (eventId : Nat)
    (terminalState : LifecycleTerminalState) (inputs : RunInputs) : RunResult :=
  match journal.resolveIntentAwareLifecycleTerminal eventId terminalState inputs.attempt with
  | .ok (_, next) => (next, .ok .blocked)
  | .error error => (journal, .error error)

/-- `#scheduleRetry`: an attempt, then the park, each its own transaction. -/
def scheduleRetry (journal : JournalRepository) (eventId : Nat) (safeError : JournalSafeErrorLabel)
    (inputs : RunInputs) (outcome : LifecycleRunOutcome) : RunResult :=
  match journal.readEvent eventId with
  | none => (journal, .ok outcome)
  | some event =>
    match journal.recordEventAttempt eventId inputs.attempt safeError with
    | .error error => (journal, .error error)
    | .ok attempted =>
      match attempted.markEventWaitingRetry eventId safeError (inputs.scheduledAtEpochMs +
          computeLifecycleRetryBackoffMs (event.attemptCount + 1) inputs.randomJitter) with
      | .error error => (attempted, .error error)
      | .ok next => (next, .ok outcome)

def mapApiError (journal : JournalRepository) (eventId : Nat) (kind : LifecycleApiFailureKind)
    (inputs : RunInputs) : RunResult :=
  match kind with
  | .conflict => closeTerminal journal eventId .blockedConflict inputs
  | .integrity | .integrity5xx => closeTerminal journal eventId .integrityFailed inputs
  | .loginRequired => scheduleRetry journal eventId .loginRequired inputs .loginRequired
  | .networkOffline | .networkTimeout | .networkRateLimited | .serverError =>
    scheduleRetry journal eventId (retryLabelForKind kind) inputs .retry

/-- The receipt of a committed event, and the tombstone a restore consumes. -/
def persistReceipt (journal : JournalRepository) (frozen : FrozenLifecycleEvent)
    (tombstoneId : Option Nat) (inputs : RunInputs) : RunResult :=
  match journal.recordEventAttempt frozen.event.eventId inputs.attempt .committed with
  | .error error => (journal, .error error)
  | .ok attempted =>
    match attempted.recordLifecycleCommittedReceipt frozen.event.eventId tombstoneId with
    | .error error => (attempted, .error error)
    | .ok committed =>
      if frozen.event.operation == .restore then
        match committed.consumeRestoreSuccessor frozen.event.localFileId with
        | .error error => (committed, .error error)
        | .ok consumed => (consumed, .ok .committed)
      else (committed, .ok .committed)

def settle (later : JournalRepository) (frozen : FrozenLifecycleEvent) (answer : LifecycleApiAnswer)
    (isCancelled : Bool) (inputs : RunInputs) : RunResult :=
  if isCancelled then (later, .ok .idle)
  else match answer with
    | .receipt tombstoneId => persistReceipt later frozen tombstoneId inputs
    | .rejected kind => mapApiError later frozen.event.eventId kind inputs
    | .thrown => (later, .ok .retry)

/-- `runOne`: `journal` is what the selection reads, `later` what the answer finds. -/
def runOne (journal later : JournalRepository) (nowEpochMs : Nat) (answer : LifecycleApiAnswer)
    (isCancelled : Bool) (inputs : RunInputs) : RunResult :=
  match journal.readOldestEligibleLifecycleEvent nowEpochMs with
  | .error error => (journal, .error error)
  | .ok none => (journal, .ok .idle)
  | .ok (some frozen) => settle later frozen answer isCancelled inputs

end LifecycleDriver

/-! ## Settling -/

theorem retry_backoff_pos (ac : Nat) (inputs : RunInputs) :
    0 < computeLifecycleRetryBackoffMs ac inputs.randomJitter := by
  have hd : 1000 ≤ exponentialDelayMs ac := by
    have hp : 1 ≤ 2 ^ min (ac - 1) 30 := Nat.one_le_two_pow
    exact le_min (by decide) (Nat.le_mul_of_pos_right _ hp)
  have hde : (1000 : ℚ) ≤ (exponentialDelayMs ac : ℚ) := by
    exact_mod_cast hd
  have hj : (0 : ℚ) ≤ (exponentialDelayMs ac : ℚ) * (1 / 4) * inputs.randomJitter :=
    mul_nonneg (by positivity) inputs.jitter_nonneg
  have hr : (1 : ℤ) ≤ ⌊(exponentialDelayMs ac : ℚ) +
      (exponentialDelayMs ac : ℚ) * (1 / 4) * inputs.randomJitter + 1 / 2⌋ := by
    rw [Int.le_floor]
    push_cast
    linarith
  exact lt_min (by decide) (Int.lt_toNat.mpr (by exact_mod_cast hr))

/-- The event is selected by no later run of the driver. -/
def NeverSelectedAgain (journal : JournalRepository) (eventId : Nat) : Prop :=
  ∀ world world' : JournalWorld, world.journal = journal → world.Sound →
    journalMachine.Leads world world' → ∀ nowEpochMs frozen,
      world'.journal.readOldestEligibleLifecycleEvent nowEpochMs = .ok (some frozen) →
        frozen.event.eventId ≠ eventId

/-- A verdict has settled: the run resolved, and the event is closed for good or waits for a time
after the run. -/
def VerdictSettled (result : RunResult) (eventId : Nat) (kind : LifecycleApiFailureKind)
    (inputs : RunInputs) : Prop :=
  (∃ outcome, result.2 = .ok outcome) ∧
    match kind.terminalState with
    | some terminalState =>
      (∃ row, result.1.readEvent eventId = some row ∧ row.state = terminalState.state.state) ∧
        NeverSelectedAgain result.1 eventId
    | none =>
      ∃ row due, result.1.readEvent eventId = some row ∧ row.state = .waitingRetry ∧
        row.nextEligibleRetryEpochMs = some due ∧ inputs.scheduledAtEpochMs < due

/-- The terminal exit takes the event: a rename or move, whose file's intent, if it has one, ends at
a path no other tracked file holds. -/
def AcceptsTerminal (journal : JournalRepository) (event : StoredJournalEvent) : Prop :=
  event.operation.isRebind = true ∧
    ∀ intent, journal.readPendingRenameIntentForLocalFile event.localFileId = some intent →
      journal.isPathTaken event.localFileId intent.currentPath = false

namespace LifecycleDriverLemmas

open LifecycleDriver

variable {journal : JournalRepository} {eventId : Nat} {event : StoredJournalEvent}
  {op : StoredOperands} {inputs : RunInputs}

theorem selected_pending {ne : Nat} {f : FrozenLifecycleEvent}
    (hs : journal.readOldestEligibleLifecycleEvent ne = .ok (some f)) :
    f.event ∈ journal.journalEvents ∧ f.event.state.isPending = true := by
  unfold JournalRepository.readOldestEligibleLifecycleEvent at hs
  split at hs
  · exact nomatch hs
  obtain ⟨event, hse, hs⟩ := Option.bind_eq_some_iff.mp (Except.ok.inj hs)
  obtain ⟨op, _, rfl⟩ := Option.map_eq_some_iff.mp hs
  obtain ⟨hst, ha, _⟩ := Lanes.oldest_spec hse
  refine ⟨hst, ?_⟩
  simp only [JournalRepository.admitsLifecycle, JournalRepository.isEligible, Bool.and_eq_true,
    Bool.or_eq_true] at ha
  rcases ha.1.2 with ⟨hc, _⟩ | hsd
  · cases hsta : event.state <;>
      simp_all [JournalEventState.isCoalescable, JournalEventState.isPending]
  · cases hsta : event.state <;> simp_all [JournalEventState.isStarted, JournalEventState.isPending]

theorem neverSelected_of_closed {row : StoredJournalEvent}
    (hf : journal.readEvent eventId = some row) (hcd : row.state.isPending = false) :
    NeverSelectedAgain journal eventId := by
  rintro w w' rfl hso hl ne f hse hsa
  have hcl : w.HasClosed eventId := by
    refine ⟨?_, fun o hs he => ?_⟩
    · have hi := hso.issued row (Tables.mem_of_lookup hf)
      rwa [show row.eventId = eventId from Tables.key_of_lookup hf] at hi
    · rw [MoveLemmas.row_eq hso.unique hf hs he]
      exact hcd
  obtain ⟨hs, hp⟩ := selected_pending hse
  have hc := (closed_leads hso hcl hl).2 f.event hs hsa
  exact Bool.false_ne_true (hc.symm.trans hp)

theorem readEvent_updateEvent {w : StoredJournalEvent → StoredJournalEvent}
    (hk : ∀ row, (w row).eventId = row.eventId)
    (hf : journal.readEvent eventId = some event) :
    (journal.updateEvent eventId w).readEvent eventId = some (w event) :=
  Tables.lookup_written hk hf (beq_iff_eq.mpr (Tables.key_of_lookup hf))

def closedJournal (journal : JournalRepository) (eventId : Nat)
    (terminalState : LifecycleTerminalState) (inputs : RunInputs) : JournalRepository :=
  ((journal.recordAttempt (inputs.attempt.row eventId terminalState.label)).updateEvent eventId
    (JournalRepository.closedRow terminalState.state terminalState.label)).dropMultipartOfEvent
      eventId

theorem attempt_valid : ensure inputs.attempt.isValid JournalStoreError.journalMutationFailed =
    .ok () := by
  refine ensure_ok.mpr (Bool.and_eq_true_iff.mpr ⟨?_, inputs.correlation_valid⟩)
  exact decide_eq_true inputs.attempted_pos

theorem resolve_eq (hf : journal.readEvent eventId = some event)
    (hw : journal.readOperands eventId = some op)
    (hp : event.state.isPending = true) (ts : LifecycleTerminalState) :
    journal.resolveIntentAwareLifecycleTerminal eventId ts inputs.attempt =
      if event.operation.isRebind then
        match journal.readPendingRenameIntentForLocalFile event.localFileId with
        | none => .ok (.noIntent, closedJournal journal eventId ts inputs)
        | some i =>
          ((closedJournal journal eventId ts inputs).reconcilePendingRenameIntent
            event.localFileId i.currentPath).map fun n => (.intentReconciled, n)
      else .error .journalMutationFailed := by
  have hj : journal.readLifecycleEvent eventId = some { event := event, operands := op } := by
    simp [JournalRepository.readLifecycleEvent, hf, hw]
  unfold JournalRepository.resolveIntentAwareLifecycleTerminal
  simp only [attempt_valid, bind, Except.bind, hj]
  cases hr : event.operation.isRebind
  · simp
  simp only [hp, Bool.not_true, Bool.or_self, Bool.false_eq_true, if_false, if_true]
  have hs : (closedJournal journal eventId ts
      inputs).readPendingRenameIntentForLocalFile event.localFileId =
      journal.readPendingRenameIntentForLocalFile event.localFileId := rfl
  unfold closedJournal at hs ⊢
  rw [hs]
  cases journal.readPendingRenameIntentForLocalFile event.localFileId <;> rfl

theorem reconcile_eq {li : Nat} {p : Locator} : journal.reconcilePendingRenameIntent li p =
      if journal.isPathTaken li p then .error .journalMutationFailed
      else .ok (((((journal.dropDeferralOfFile li).dropIntent li).updateLocalFile li fun row =>
          { row with
            lifecycleState := .reconcileRequired
            openTombstoneId := none
            normalizedPath := p }).persistReconcileRequired)) := by
  unfold JournalRepository.reconcilePendingRenameIntent JournalRepository.rebindLocalFile
  show (if journal.isPathTaken li p then _ else _) >>= _ = _
  split <;> rfl

theorem closeTerminal_closes (hf : journal.readEvent eventId = some event)
    (hw : journal.readOperands eventId = some op)
    (hp : event.state.isPending = true) (ha : AcceptsTerminal journal event)
    (ts : LifecycleTerminalState) :
    ∃ n row, closeTerminal journal eventId ts inputs = (n, .ok .blocked) ∧
      n.readEvent eventId = some row ∧ row.state = ts.state.state := by
  have hc : (closedJournal journal eventId ts inputs).readEvent eventId =
      some (JournalRepository.closedRow ts.state ts.label event) :=
    readEvent_updateEvent (fun _ => rfl) hf
  obtain ⟨hr, hfe⟩ := ha
  unfold closeTerminal
  rw [resolve_eq hf hw hp, if_pos hr]
  cases hh : journal.readPendingRenameIntentForLocalFile event.localFileId with
  | none => exact ⟨_, _, rfl, hc, rfl⟩
  | some i =>
    have hfr : (closedJournal journal eventId ts inputs).isPathTaken
        event.localFileId i.currentPath = false := hfe i hh
    obtain ⟨n, hn, hs⟩ : ∃ n, (closedJournal journal eventId ts inputs).reconcilePendingRenameIntent
          event.localFileId i.currentPath = .ok n ∧
        n.readEvent eventId = (closedJournal journal eventId ts inputs).readEvent eventId := by
      rw [reconcile_eq, hfr]
      exact ⟨_, rfl, rfl⟩
    refine ⟨n, _, ?_, hs.trans hc, rfl⟩
    dsimp only
    rw [hn]
    rfl

theorem closeTerminal_throws (hf : journal.readEvent eventId = some event)
    (hw : journal.readOperands eventId = some op)
    (hp : event.state.isPending = true) (hre : ¬ AcceptsTerminal journal event)
    (ts : LifecycleTerminalState) :
    closeTerminal journal eventId ts inputs = (journal, .error .journalMutationFailed) := by
  unfold closeTerminal
  rw [resolve_eq hf hw hp]
  cases hr : event.operation.isRebind with
  | false => rfl
  | true =>
    cases hh : journal.readPendingRenameIntentForLocalFile event.localFileId with
    | none =>
      refine absurd ⟨hr, fun i hs => ?_⟩ hre
      rw [hh] at hs
      cases hs
    | some i =>
      have ht : (closedJournal journal eventId ts inputs).isPathTaken
          event.localFileId i.currentPath = true := by
        cases hta : journal.isPathTaken event.localFileId i.currentPath with
        | true => exact hta
        | false =>
          refine absurd ⟨hr, fun o hs => ?_⟩ hre
          rw [hh] at hs
          cases hs
          exact hta
      have hrd : (closedJournal journal eventId ts
          inputs).reconcilePendingRenameIntent event.localFileId i.currentPath =
            .error .journalMutationFailed := by
        rw [reconcile_eq, ht]
        rfl
      rw [if_pos rfl]
      dsimp only
      rw [hrd]
      rfl

theorem scheduleRetry_parks (hf : journal.readEvent eventId = some event)
    (hp : event.state.isPending = true) (se : JournalSafeErrorLabel)
    (o : LifecycleRunOutcome) :
    ∃ ne row due, scheduleRetry journal eventId se inputs o =
        (ne, .ok o) ∧ ne.readEvent eventId = some row ∧ row.state = .waitingRetry ∧
      row.nextEligibleRetryEpochMs = some due ∧ inputs.scheduledAtEpochMs < due := by
  have ha : journal.recordEventAttempt eventId inputs.attempt se =
      .ok (journal.recordAttempt (inputs.attempt.row eventId se)) := by
    unfold JournalRepository.recordEventAttempt JournalRepository.requireEvent
    rw [show ensure (isRequestCorrelationId inputs.attempt.requestCorrelationId)
      JournalStoreError.journalMutationFailed = .ok () from
        ensure_ok.mpr inputs.correlation_valid, hf]
    rfl
  have hs : (journal.recordAttempt (inputs.attempt.row eventId se)).readEvent eventId =
      some event := hf
  have hpa : ∀ due, (journal.recordAttempt (inputs.attempt.row eventId
      se)).markEventWaitingRetry eventId se due =
        .ok ((journal.recordAttempt (inputs.attempt.row eventId se)).updateEvent eventId
          (JournalRepository.parkedRow se due)) := by
    intro due
    unfold JournalRepository.markEventWaitingRetry JournalRepository.requirePendingEvent
    simp only [hs, hp, if_true]
    rfl
  have hd := Nat.lt_add_of_pos_right (n := inputs.scheduledAtEpochMs)
    (retry_backoff_pos (event.attemptCount + 1) inputs)
  refine ⟨_, JournalRepository.parkedRow se _ event, _, ?_,
    readEvent_updateEvent (fun _ => rfl) hs, rfl, rfl, hd⟩
  · unfold scheduleRetry
    simp only [hf, ha, hpa]

end LifecycleDriverLemmas

open LifecycleDriver LifecycleDriverLemmas in
/-- A rejection of a pending lifecycle event settles exactly when it asks for a retry or the
terminal exit accepts the event: `runOne` then resolves, the event is closed for good or parked. -/
theorem lifecycle_verdict_settles_iff {journal later : JournalRepository} {nowEpochMs : Nat}
    {frozen current : FrozenLifecycleEvent} (kind : LifecycleApiFailureKind) (inputs : RunInputs)
    (selected : journal.readOldestEligibleLifecycleEvent nowEpochMs = .ok (some frozen))
    (inFlight : later.readLifecycleEvent frozen.event.eventId = some current)
    (pending : current.event.state.isPending = true) :
    VerdictSettled (runOne journal later nowEpochMs (.rejected kind) false inputs)
        frozen.event.eventId kind inputs ↔
      (kind.terminalState.isSome = true → AcceptsTerminal later current.event) := by
  obtain ⟨hf, hw⟩ := MoveLemmas.readLifecycleEvent_some inFlight
  have ran : runOne journal later nowEpochMs (.rejected kind) false inputs =
      mapApiError later frozen.event.eventId kind inputs := by
    unfold runOne
    rw [selected]
    rfl
  have hcl : ∀ ts, kind.terminalState = some ts →
      mapApiError later frozen.event.eventId kind inputs =
        closeTerminal later frozen.event.eventId ts inputs := by
    cases kind <;> intro ts hso <;> cases hso <;> rfl
  have hp : kind.terminalState = none → ∃ se o, mapApiError later frozen.event.eventId kind inputs =
        scheduleRetry later frozen.event.eventId se inputs o := by
    cases kind <;> intro hno <;> first | exact ⟨_, _, rfl⟩ | cases hno
  rw [ran, VerdictSettled]
  cases ht : kind.terminalState with
  | none =>
    obtain ⟨se, o, hs⟩ := hp ht
    obtain ⟨n, row, due, hn, hro, hwa, hd, hl⟩ := scheduleRetry_parks hf pending se o
    rw [hs, hn]
    exact ⟨fun _ => nofun, fun _ => ⟨⟨o, rfl⟩, row, due, hro, hwa, hd, hl⟩⟩
  | some ts =>
    rw [hcl ts ht]
    constructor
    · rintro ⟨⟨o, hr⟩, _⟩ _
      by_contra hre
      rw [closeTerminal_throws hf hw pending hre] at hr
      cases hr
    · intro ha
      obtain ⟨n, row, hn, hro, hc⟩ := closeTerminal_closes hf hw pending (ha rfl) ts
      rw [hn]
      refine ⟨⟨_, rfl⟩, ⟨row, hro, hc⟩, neverSelected_of_closed hro ?_⟩
      rw [hc]
      cases ts <;> rfl

namespace LifecycleDriverLemmas

/-- A run at one instant without jitter. -/
def sampleInputs : RunInputs where
  attemptedAtEpochMs := 5000
  scheduledAtEpochMs := 5000
  requestCorrelationId := "run-1"
  randomJitter := 0
  attempted_pos := by decide
  correlation_valid := by decide +kernel
  jitter_nonneg := le_rfl
  jitter_lt_one := by decide

/-- The delete of one tracked note, then the rename of another one. -/
def deleteThenRename : List JournalAction :=
  trackFile 1 "a.md" 10 ++ trackFile 2 "b.md" 20 ++
    [.recordLifecycleEventWithFreeze 1
       { operation := .delete
         sourceId := 10
         expectedVersionId := 10
         expectedLocator := some "a.md"
         targetLocator := none
         tombstoneId := some 7
         policyRevision := 1
         predecessorEventId := none
         capturedFingerprint := none } (some 7) none (sampleDraw 1 11),
     .recordLifecycleEventWithFreeze 2
       { operation := .rename
         sourceId := 20
         expectedVersionId := 20
         expectedLocator := some "b.md"
         targetLocator := some "c.md"
         tombstoneId := none
         policyRevision := 1
         predecessorEventId := none
         capturedFingerprint := none } none none (sampleDraw 2 21)]

/-- What the driver selects after the script, and what else it could have sent. -/
def deleteThenRenameOutcome (journal : JournalRepository) : Bool :=
  match journal.readOldestEligibleLifecycleEvent 5000 with
  | .ok (some frozen) =>
    frozen.event.eventId == 11 && frozen.event.operation == .delete &&
      journal.readLifecycleEvent 11 == some frozen && frozen.event.state.isPending &&
      (journal.readEvent 21).any fun other =>
        other.eventId != 11 && journal.admitsLifecycle 5000 other
  | _ => false

theorem deleteThenRename_selects : ∃ (w : JournalWorld) (f : FrozenLifecycleEvent),
    journalMachine.Reachable w ∧ w.journal.readOldestEligibleLifecycleEvent 5000 = .ok (some f) ∧
      w.journal.readLifecycleEvent f.event.eventId = some f ∧
      f.event.operation = .delete ∧ f.event.state.isPending = true ∧
      ∃ o, o.eventId ≠ f.event.eventId ∧ w.journal.admitsLifecycle 5000 o = true := by
  have hou : (journalMachine.run .start deleteThenRename).map
      (fun w => deleteThenRenameOutcome w.journal) = some true := by
    decide +kernel
  obtain ⟨w, ran, hs⟩ := Option.map_eq_some_iff.mp hou
  unfold deleteThenRenameOutcome at hs
  split at hs
  · next f hse =>
    simp only [Bool.and_eq_true, beq_iff_eq, Option.any_eq_true, bne_iff_ne] at hs
    obtain ⟨⟨⟨⟨hd, ho⟩, hj⟩, hp⟩, o, _, hot, ha⟩ := hs
    exact ⟨w, f, Machine.reachable_of_run start_init ran, hse, hd ▸ hj, ho, hp, o, hd ▸ hot, ha⟩
  · exact absurd hs Bool.false_ne_true

end LifecycleDriverLemmas

open LifecycleDriver LifecycleDriverLemmas in
/-- A timeout of the delete settles. -/
theorem lifecycle_verdict_settles_sample : ∃ (world : JournalWorld) (frozen : FrozenLifecycleEvent),
    journalMachine.Reachable world ∧ frozen.event.operation = .delete ∧
      VerdictSettled (runOne world.journal world.journal 5000 (.rejected .networkTimeout) false
        sampleInputs) frozen.event.eventId .networkTimeout sampleInputs := by
  obtain ⟨world, frozen, hr, hs, hj, hd, hp, _⟩ := deleteThenRename_selects
  exact ⟨world, frozen, hr, hd,
    (lifecycle_verdict_settles_iff .networkTimeout sampleInputs hs hj hp).mpr nofun⟩

open LifecycleDriver LifecycleDriverLemmas in
/-- A conflict of the delete throws, leaves the journal as it was and the delete at the head of the
lane, before an event the lane could send. -/
theorem rejected_delete_keeps_head : ∃ (world : JournalWorld) (frozen : FrozenLifecycleEvent),
    journalMachine.Reachable world ∧
      world.journal.readOldestEligibleLifecycleEvent 5000 = .ok (some frozen) ∧
      frozen.event.operation = .delete ∧
      runOne world.journal world.journal 5000 (.rejected .conflict) false sampleInputs =
        (world.journal, .error .journalMutationFailed) ∧
      ¬ VerdictSettled (runOne world.journal world.journal 5000 (.rejected .conflict) false
        sampleInputs) frozen.event.eventId .conflict sampleInputs ∧
      ∃ other, other.eventId ≠ frozen.event.eventId ∧
        world.journal.admitsLifecycle 5000 other = true := by
  obtain ⟨world, frozen, hre, hs, hj, hd, hp, hst⟩ := deleteThenRename_selects
  obtain ⟨hf, hw⟩ := MoveLemmas.readLifecycleEvent_some hj
  have ht : runOne world.journal world.journal 5000 (.rejected .conflict) false sampleInputs =
      (world.journal, .error .journalMutationFailed) := by
    unfold runOne
    rw [hs]
    refine closeTerminal_throws hf hw hp (fun ha => ?_) .blockedConflict
    rw [AcceptsTerminal, hd] at ha
    exact Bool.false_ne_true ha.1
  refine ⟨world, frozen, hre, hs, hd, ht, fun hse => ?_, hst⟩
  obtain ⟨⟨o, hr⟩, _⟩ := hse
  rw [ht] at hr
  cases hr

end PersonalOs.Journal
