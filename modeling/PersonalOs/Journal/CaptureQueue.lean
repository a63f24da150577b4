import PersonalOs.Journal.JournalMachine

/-!
# One tracked file between capture and the queue

A note whose saves are settled, admitted and dispatched: the settle timer, the serialized admissions
of `JournalCapture.#admitNormalizedPath`, the steps of `JournalQueueDriver.#processEvent` for the
event a pass has selected, and a server that accepts every upload. The admission reads the tracked
row first, the bytes later and decides on both; a pass keeps the event it has selected in memory.
-/

namespace PersonalOs.Journal

open PersonalOs.DeviceSync (Locator)

def fileSettleDelayMs : Nat := 250

/-- How far a pass has come with the event it has selected. -/
inductive PassStage
  | idle
  | selected (event : StoredJournalEvent)
  | preflighting (event : StoredJournalEvent)
  | granted (event : StoredJournalEvent) (isMultipart : Bool)
  | sending (event : StoredJournalEvent)
  | accepted (event : StoredJournalEvent) (sourceId baseVersionId : Nat)
deriving DecidableEq

/-- A running admission: the committed fingerprint of the tracked row it has read, and the
fingerprint of the settled bytes once it has read these. -/
structure Admission where
  lastCommitted : Option FrozenFingerprint
  observed : Option FrozenFingerprint
deriving DecidableEq

inductive PreflightAnswer
  | noChange (sourceId baseVersionId : Nat)
  | singlePartUpload (operationId : String)
  | multipartUpload
deriving DecidableEq

/-- The note, its observations, its journal, the pass and the server's current content. -/
structure CaptureWorld (Bytes : Type) where
  journal : JournalRepository
  nowEpochMs : Nat
  issuedEventIds : List Nat
  vault : Bytes
  settled : FrozenFingerprint
  settleTimer : Option Nat
  queuedAdmissions : Nat
  admission : Option Admission
  pass : PassStage
  server : FrozenFingerprint
deriving DecidableEq

/-- The interleaved steps of the note. -/
inductive CaptureAction (Bytes : Type)
  | advanceClock (elapsedMs : Nat)
  | save (bytes : Bytes)
  | settle
  | startAdmission
  | readSettledBytes
  | admitObserved (policyRevisionNumber : Nat) (draw : Draw)
  | selectEvent
  | startPreflight
  | answerPreflight (answer : PreflightAnswer)
  | reachDeadline
  | rereadBytes
  | acceptUpload (sourceId baseVersionId : Nat)
  | persistReceipt

namespace CaptureWorld

section Steps

variable {Bytes : Type} (deriveFrozenFingerprint : Bytes → FrozenFingerprint) (path : Locator)
  (world : CaptureWorld Bytes)

/-- The end of `#admitNormalizedPath`: bytes that match the committed ones of the row read before
owe nothing, others are captured. -/
def admitObserved (lastCommitted : Option FrozenFingerprint) (observed : FrozenFingerprint)
    (policyRevisionNumber : Nat) (draw : Draw) : Option (CaptureWorld Bytes) :=
  let decided := { world with admission := none, settled := observed }
  if maxMultipartFileSizeBytes < observed.sizeBytes then none
  else if lastCommitted == some observed then some decided
  else if world.journal.isAtQueueLimit draw.imageBytes ||
      world.issuedEventIds.contains draw.eventId || draw.nowEpochMs != world.nowEpochMs then none
  else (answered (world.journal.recordCapture
    { normalizedPath := path
      fingerprint := observed
      policyRevisionNumber := policyRevisionNumber
      admission := .policyAllowed } draw)).map fun journal =>
        { decided with
          journal := journal
          issuedEventIds := draw.eventId :: world.issuedEventIds }

/-- The first transition of `#processEvent`. -/
def startPreflight (event : StoredJournalEvent) : Option (CaptureWorld Bytes) :=
  if event.state.isCoalescable then
    (accepted (world.journal.markEventPreflightStarted event.eventId)).map fun journal =>
      { world with journal := journal, pass := .preflighting event }
  else some { world with pass := .preflighting event }

def closeSelected (written : Except JournalStoreError JournalRepository) :
    Option (CaptureWorld Bytes) :=
  (accepted written).map fun journal => { world with journal := journal, pass := .idle }

/-- `no_change` comes for the server's current content only; the size decides the route. -/
def answerPreflight (event : StoredJournalEvent) : PreflightAnswer → Option (CaptureWorld Bytes)
  | .noChange sourceId baseVersionId =>
    if event.fingerprint == world.server then
      world.closeSelected (world.journal.recordNoChangeReceipt event.eventId sourceId baseVersionId)
    else none
  | .singlePartUpload operationId =>
    if event.fingerprint.sizeBytes ≤ maxFileSizeBytes then
      (accepted (world.journal.markEventUploading event.eventId operationId)).map fun journal =>
        { world with journal := journal, pass := .granted event false }
    else none
  | .multipartUpload =>
    if maxFileSizeBytes < event.fingerprint.sizeBytes then
      some { world with pass := .granted event true }
    else none

/-- The client re-fingerprint: bytes that match the frozen digest and size are sent, an event whose
bytes have changed closes. -/
def rereadBytes (event : StoredJournalEvent) (isMultipart : Bool) : Option (CaptureWorld Bytes) :=
  let current := deriveFrozenFingerprint world.vault
  if !isMultipart && maxFileSizeBytes < current.sizeBytes then
    world.closeSelected
      (world.journal.markEventTerminal event.eventId .blockedSize .blockedSize)
  else if current.sha256 == event.fingerprint.sha256 &&
      current.sizeBytes == event.fingerprint.sizeBytes then
    some { world with pass := .sending event }
  else world.closeSelected (world.journal.markEventTerminal event.eventId .integrityFailed
    (if isMultipart then .multipartLocalContentChanged else .integrityFailed))

/-- One step; a step that is not due, or not next, is refused. -/
def step : CaptureAction Bytes → Option (CaptureWorld Bytes)
  | .advanceClock elapsedMs => some { world with nowEpochMs := world.nowEpochMs + elapsedMs }
  | .save bytes =>
    some { world with vault := bytes, settleTimer := some (world.nowEpochMs + fileSettleDelayMs) }
  | .settle =>
    if world.settleTimer.any (· ≤ world.nowEpochMs) then
      some { world with settleTimer := none, queuedAdmissions := world.queuedAdmissions + 1 }
    else none
  | .startAdmission =>
    match world.admission, world.queuedAdmissions with
    | none, queued + 1 =>
      some { world with
        queuedAdmissions := queued
        admission := some
          { lastCommitted := (world.journal.readLocalFileByPath path).bind (·.lastCommittedFingerprint)
            observed := none } }
    | _, _ => none
  | .readSettledBytes =>
    world.admission.bind fun admission =>
      if admission.observed.isNone then
        some { world with
          admission := some
            { admission with observed := some (deriveFrozenFingerprint world.vault) } }
      else none
  | .admitObserved policyRevisionNumber draw =>
    world.admission.bind fun admission => admission.observed.bind fun observed =>
      world.admitObserved path admission.lastCommitted observed policyRevisionNumber draw
  | .selectEvent =>
    if world.pass == .idle then
      (world.journal.readOldestEligibleEvent world.nowEpochMs).map fun event =>
        { world with pass := .selected event }
    else none
  | .startPreflight =>
    match world.pass with
    | .selected event => world.startPreflight event
    | _ => none
  | .answerPreflight answer =>
    match world.pass with
    | .preflighting event => world.answerPreflight event answer
    | _ => none
  | .reachDeadline =>
    match world.pass with
    | .granted _ _ => some { world with pass := .idle }
    | _ => none
  | .rereadBytes =>
    match world.pass with
    | .granted event isMultipart => world.rereadBytes deriveFrozenFingerprint event isMultipart
    | _ => none
  | .acceptUpload sourceId baseVersionId =>
    match world.pass with
    | .sending event =>
      some { world with
        server := event.fingerprint
        pass := .accepted event sourceId baseVersionId }
    | _ => none
  | .persistReceipt =>
    match world.pass with
    | .accepted event sourceId baseVersionId =>
      world.closeSelected
        (world.journal.recordCommittedReceipt event.eventId sourceId baseVersionId)
    | _ => none

end Steps

/-! ## What is still owed -/

variable {Bytes : Type} (path : Locator) (world : CaptureWorld Bytes)

def lastCommitted : Option FrozenFingerprint :=
  (world.journal.readLocalFileByPath path).bind (·.lastCommittedFingerprint)

/-- A timer or an admission of the note is outstanding. -/
def isOwed : Bool :=
  world.settleTimer.isSome || 0 < world.queuedAdmissions || world.admission.isSome

def pendingCarries (fingerprint : FrozenFingerprint) (besides : Option Nat) : Bool :=
  world.journal.journalEvents.any fun row =>
    row.state.isPending && row.fingerprint == fingerprint && besides != some row.eventId

/-- The bytes are what the note comes to when nothing more is saved: past its re-fingerprint an
event commits its bytes, before it a pending event does when they are the ones in the vault. -/
def carries (fingerprint : FrozenFingerprint) : Bool :=
  match world.pass with
  | .sending event | .accepted event _ _ =>
    event.fingerprint == fingerprint || world.pendingCarries fingerprint (some event.eventId)
  | _ => world.lastCommitted path == some fingerprint || world.pendingCarries fingerprint none

def rewritesSelected (draw : Draw) (input : JournalCaptureInput) : Option StoredJournalEvent :=
  match world.pass with
  | .selected event =>
    if (world.journal.captureCoalesces input draw).any (·.eventId == event.eventId) then some event
    else none
  | _ => none

/-- An admission finds the committed bytes only while the note still comes to them, and no capture
changes the bytes of the event that a pass has selected and not yet frozen. -/
def undisturbed : CaptureAction Bytes → Bool
  | .admitObserved policyRevisionNumber draw =>
    world.admission.all fun admission => admission.observed.all fun observed =>
      if admission.lastCommitted == some observed then world.carries path observed
      else (world.rewritesSelected draw
        { normalizedPath := path
          fingerprint := observed
          policyRevisionNumber := policyRevisionNumber
          admission := .policyAllowed }).all fun event => event.fingerprint == observed
  | _ => true

end CaptureWorld

/-! ## The machine -/

/-- A tracked note with nothing pending: the server, the journal and the vault agree. -/
structure CaptureWorld.Init {Bytes : Type} (deriveFrozenFingerprint : Bytes → FrozenFingerprint)
    (path : Locator) (world : CaptureWorld Bytes) : Prop where
  file : ∃ file, world.journal.localFiles = [file] ∧ file.normalizedPath = path ∧
    file.sourceId.isSome = true ∧ file.baseVersionId.isSome = true ∧
    file.lastCommittedFingerprint = some world.settled ∧
    ∀ row ∈ world.journal.journalEvents, row.localFileId = file.localFileId ∧
      row.operation.isContent = true ∧ row.state.isPending = false ∧
      row.createdAtEpochMs ≤ world.nowEpochMs ∧ row.eventId ∈ world.issuedEventIds
  unique : UniqueEvents world.journal
  operands : world.journal.lifecycleOperands = []
  vault : deriveFrozenFingerprint world.vault = world.settled
  server : world.server = world.settled
  idle : world.settleTimer = none ∧ world.queuedAdmissions = 0 ∧ world.admission = none ∧
    world.pass = .idle

/-- The note from a committed version on. -/
def captureMachine {Bytes : Type} (deriveFrozenFingerprint : Bytes → FrozenFingerprint)
    (path : Locator) : Machine (CaptureWorld Bytes) (CaptureAction Bytes) where
  Init := CaptureWorld.Init deriveFrozenFingerprint path
  step := fun world action => world.step deriveFrozenFingerprint path action

/-- Equal digests of equal sizes come from equal bytes. -/
def CollisionFree {Bytes : Type} (deriveFrozenFingerprint : Bytes → FrozenFingerprint) : Prop :=
  ∀ a b, (deriveFrozenFingerprint a).sha256 = (deriveFrozenFingerprint b).sha256 →
    (deriveFrozenFingerprint a).sizeBytes = (deriveFrozenFingerprint b).sizeBytes → a = b

end PersonalOs.Journal
