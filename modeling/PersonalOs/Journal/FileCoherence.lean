import PersonalOs.Journal.FileMoves

/-!
# The lifecycle columns of the files fit together

A file keeps the path it came from exactly while its restore is reserved, keeps a tombstone only
while it is deleted or being restored, and loses the tombstone a committed restore was for.
-/

namespace PersonalOs.Journal

open PersonalOs.DeviceSync (Locator)

/-! ## The journal with its reservations -/

namespace JournalRepository

variable (journal : JournalRepository)

def isRestorePending (localFileId : Nat) : Bool :=
  (journal.readLocalFileByLocalFileId localFileId).any (·.lifecycleState == .restorePending)

/-- The file a call reserves. -/
def newlyReserved : JournalAction → List Nat
  | .reserveRestoreTarget localFileId targetPath =>
    match journal.reserveRestoreTarget localFileId targetPath with
    | .ok (.reserved _, _) => [localFileId]
    | _ => []
  | _ => []

/-- How capture, driver and restore command call: a receipt of the content lane is for a content
event, a delete mints its tombstone id, a restore names the tombstone it is for, and nobody else
writes the files. -/
def issues : JournalAction → Bool
  | .recordCommittedReceipt eventId _ _ | .recordNoChangeReceipt eventId _ _ =>
    (journal.readEvent eventId).all (·.operation.isContent)
  | .recordLifecycleEventWithFreeze _ operands tombstoneId _ _ =>
    match operands.operation with
    | .delete => tombstoneId.all fun minted =>
        journal.lifecycleOperands.all (·.tombstoneId != some minted)
    | .restore => tombstoneId.isSome
    | _ => true
  | .writeElsewhere localFiles pendingRenameIntents _ _ _ =>
    localFiles == journal.localFiles && pendingRenameIntents == journal.pendingRenameIntents
  | _ => true

end JournalRepository

/-- The journal machine's world, and the files that are being restored through a reservation. -/
structure FileWorld where
  base : JournalWorld
  reserved : List Nat
deriving DecidableEq

/-- One call. A file stays reserved while it is being restored. -/
def FileWorld.step (world : FileWorld) (action : JournalAction) : Option FileWorld :=
  if world.base.journal.issues action then
    (world.base.step action).map fun next =>
      { base := next
        reserved := (world.base.journal.newlyReserved action ++ world.reserved).filter
          next.journal.isRestorePending }
  else none

/-- The journal from its creation on, with its reservations. -/
def fileMachine : Machine FileWorld JournalAction where
  Init := fun world => world.base.journal = .empty ∧ world.reserved = []
  step := FileWorld.step

namespace FileCoherenceLemmas

open MoveLemmas FileMovesLemmas

variable {journal next : JournalRepository} {reserved reserved' : List Nat}
  {file file' : LocalFile} {localFileId : Nat}

variable {operation : JournalOperation} {tombstoneId : Option Nat}

variable {world world' : FileWorld} {action : JournalAction}

end FileCoherenceLemmas

def FileWorld.start : FileWorld where
  base := .start
  reserved := []

theorem FileWorld.start_init : fileMachine.Init .start := ⟨rfl, rfl⟩

/-- The delete of a tracked note, as the capture records it. -/
def deleteNote (eventId tombstoneId : Nat) : JournalAction :=
  .recordLifecycleEventWithFreeze 1
    { operation := .delete
      sourceId := 10
      expectedVersionId := 10
      expectedLocator := some "a.md"
      targetLocator := none
      tombstoneId := some tombstoneId
      policyRevision := 1
      predecessorEventId := none
      capturedFingerprint := none }
    (some tombstoneId) none (sampleDraw 1 eventId)

end PersonalOs.Journal
