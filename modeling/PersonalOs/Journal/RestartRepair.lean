import PersonalOs.Journal.Repository

/-!
# The repair of pending renames at restart

A recovered journal is served only after `#repairInvalidPendingRenameState`: an intent or a
deferral that its file and events no longer bear out is dropped, its file waits for a
reconciliation, and the journal is flagged.

Result: `repairInvalidPendingRenameState_quiet`: a repair that reports nothing leaves the journal
as it was.
-/

namespace PersonalOs.Journal

open PersonalOs.DeviceSync (Locator)

def isPendingRenamePath (path : Locator) : Bool :=
  !path.toList.isEmpty && !path.toList.contains '\\' &&
    (path.toList.splitOn '/').all fun segment =>
      segment != [] && segment != ['.'] && segment != ['.', '.']

namespace JournalRepository

variable (journal : JournalRepository)

def openRebinds (localFileId : Nat) : List (StoredJournalEvent × StoredOperands) :=
  (journal.journalEvents.filter fun event =>
    event.localFileId == localFileId && event.operation.isRebind && event.state.isPending).filterMap
      fun event => (journal.readOperands event.eventId).map (event, ·)

def isPendingRenameIntentRestartValid (intent : PendingRenameIntent) (owner : LocalFile) : Bool :=
  if owner.lifecycleState == .restorePending || owner.lifecycleState == .reconcileRequired then
    false
  else if journal.localFiles.any fun row =>
      row.normalizedPath == intent.currentPath && row.localFileId != intent.localFileId then
    false
  else match journal.openRebinds intent.localFileId with
    | [] =>
      intent.priorPath != intent.currentPath && owner.normalizedPath == intent.priorPath &&
        owner.lifecycleState == .active
    | [(event, operands)] =>
      operands.expectedLocator == some intent.priorPath &&
        operands.targetLocator.any isPendingRenamePath &&
        operands.targetLocator == some owner.normalizedPath &&
        owner.lifecycleState == (if event.operation == .rename then .renamePending
          else .movePending)
    | _ => false

def isPendingRenameDeferralRestartValid (deferral : MissingFileDeferral) : Bool :=
  match journal.readEvent deferral.eventId with
  | none => false
  | some event =>
    event.localFileId == deferral.localFileId && event.operation.isContent &&
      event.state == .waitingRetry && event.safeError == some .deferredLifecycle

end JournalRepository

/-- The journal under repair, and whether anything was repaired. -/
structure RestartRepair where
  journal : JournalRepository
  didRepair : Bool
deriving DecidableEq

namespace RestartRepair

variable (repair : RestartRepair)

def markReconcileRequired : RestartRepair := ⟨repair.journal.persistReconcileRequired, true⟩

def clearIntentOnly (localFileId : Nat) : RestartRepair :=
  markReconcileRequired
    { repair with journal := (repair.journal.dropDeferralOfFile localFileId).dropIntent localFileId }

/-- The file follows its intent when the path is free, and waits for a reconciliation. -/
def reconcileOwner (localFileId : Nat) (currentPath : Locator) : RestartRepair :=
  let cleared := (repair.journal.dropDeferralOfFile localFileId).dropIntent localFileId
  let isOccupied := cleared.localFiles.any fun row =>
    row.normalizedPath == currentPath && row.localFileId != localFileId
  markReconcileRequired
    { repair with
      journal := cleared.updateLocalFile localFileId fun row =>
        { row with
          normalizedPath :=
            if !isOccupied && isPendingRenamePath currentPath then currentPath
            else row.normalizedPath
          lifecycleState := .reconcileRequired
          openTombstoneId := none } }

def reconcileOwnerWithoutIntent (localFileId : Nat) : RestartRepair :=
  markReconcileRequired
    { repair with
      journal := (repair.journal.dropDeferralOfFile localFileId).updateLocalFile localFileId
        fun row => { row with lifecycleState := .reconcileRequired, openTombstoneId := none } }

def reconcileInvalidPendingRenameDeferral (localFileId : Nat) : RestartRepair :=
  match repair.journal.readPendingRenameIntentForLocalFile localFileId,
      repair.journal.readLocalFileByLocalFileId localFileId with
  | some intent, some _ =>
    if isPendingRenamePath intent.currentPath then
      repair.reconcileOwner localFileId intent.currentPath
    else (repair.clearIntentOnly localFileId).reconcileOwnerWithoutIntent localFileId
  | none, some _ => repair.reconcileOwnerWithoutIntent localFileId
  | some _, none =>
    markReconcileRequired
      { repair.clearIntentOnly localFileId with
        journal := (repair.clearIntentOnly localFileId).journal.dropDeferralOfFile localFileId }
  | none, none =>
    markReconcileRequired
      { repair with journal := repair.journal.dropDeferralOfFile localFileId }

/-- One row of the intents read at the start. -/
def checkIntent (intent : PendingRenameIntent) : RestartRepair :=
  if !isPendingRenamePath intent.priorPath || !isPendingRenamePath intent.currentPath then
    repair.clearIntentOnly intent.localFileId
  else match repair.journal.readLocalFileByLocalFileId intent.localFileId with
    | none => repair.clearIntentOnly intent.localFileId
    | some owner =>
      if repair.journal.isPendingRenameIntentRestartValid intent owner then repair
      else repair.reconcileOwner intent.localFileId intent.currentPath

/-- One row of the deferrals read after the intents. -/
def checkDeferral (deferral : MissingFileDeferral) : RestartRepair :=
  if deferral.deferredAttemptCount < 1 ||
      pendingRenameMissingFileMaxDeferrals < deferral.deferredAttemptCount then
    repair.reconcileInvalidPendingRenameDeferral deferral.localFileId
  else match repair.journal.readPendingRenameIntentForLocalFile deferral.localFileId with
    | none => repair.reconcileInvalidPendingRenameDeferral deferral.localFileId
    | some intent =>
      if isPendingRenamePath intent.currentPath &&
          repair.journal.isPendingRenameDeferralRestartValid deferral then repair
      else repair.reconcileInvalidPendingRenameDeferral deferral.localFileId

end RestartRepair

def repairInvalidPendingRenameState (journal : JournalRepository) : RestartRepair :=
  let intents := journal.pendingRenameIntents.foldl RestartRepair.checkIntent ⟨journal, false⟩
  intents.journal.missingFileDeferrals.foldl RestartRepair.checkDeferral intents

/-! ## A repair that reports nothing -/

namespace RestartRepairLemmas

/-- A step that changes nothing unless it reports a repair. -/
def Quiet (step : RestartRepair → RestartRepair) : Prop :=
  ∀ repair, (step repair).didRepair = false → step repair = repair

theorem reconcileInvalid_reports (li : Nat) (repair : RestartRepair) :
    (repair.reconcileInvalidPendingRenameDeferral li).didRepair = true := by
  unfold RestartRepair.reconcileInvalidPendingRenameDeferral
  split
  · split
    · rfl
    · rfl
  · rfl
  · rfl
  · rfl

theorem quiet_checkIntent (i : PendingRenameIntent) : Quiet fun repair => repair.checkIntent i := by
  intro repair hs
  dsimp only at hs ⊢
  unfold RestartRepair.checkIntent at hs ⊢
  split at hs
  · exact nomatch hs
  next hp =>
    rw [if_neg hp]
    split at hs
    · exact nomatch hs
    · split at hs
      · next hv => rw [if_pos hv]
      · exact nomatch hs

theorem quiet_checkDeferral (d : MissingFileDeferral) :
    Quiet fun repair => repair.checkDeferral d := by
  have hr := reconcileInvalid_reports d.localFileId
  intro repair hs
  dsimp only at hs ⊢
  unfold RestartRepair.checkDeferral at hs ⊢
  split at hs
  · exact nomatch (hr repair).symm.trans hs
  next hc =>
    rw [if_neg hc]
    split at hs
    · exact nomatch (hr repair).symm.trans hs
    · split at hs
      · next hv => rw [if_pos hv]
      · exact nomatch (hr repair).symm.trans hs

theorem quiet_foldl {α : Type} {s : RestartRepair → α → RestartRepair}
    (hq : ∀ row, Quiet fun repair => s repair row)
    (hk : ∀ row repair, repair.didRepair = true → (s repair row).didRepair = true)
    (rs : List α) : Quiet fun repair => rs.foldl s repair := by
  have hl (rs : List α) (repair : RestartRepair) (did : repair.didRepair = true) :
      (rs.foldl s repair).didRepair = true := by
    induction rs generalizing repair with
    | nil => exact did
    | cons row r ih => exact ih (s repair row) (hk row repair did)
  intro repair hs
  induction rs generalizing repair with
  | nil => rfl
  | cons row r ih =>
    dsimp only [List.foldl_cons] at hs ⊢
    have hf : (s repair row).didRepair = false := by
      by_contra did
      rw [hl r (s repair row) (by simpa using did)] at hs
      exact nomatch hs
    have he : s repair row = repair := hq row repair hf
    rw [he] at hs ⊢
    exact ih repair hs

theorem checkIntent_kept (i : PendingRenameIntent) (repair : RestartRepair)
    (did : repair.didRepair = true) : (repair.checkIntent i).didRepair = true := by
  unfold RestartRepair.checkIntent
  split
  · rfl
  split
  · rfl
  split
  · exact did
  · rfl

theorem checkDeferral_kept (d : MissingFileDeferral) (repair : RestartRepair)
    (did : repair.didRepair = true) : (repair.checkDeferral d).didRepair = true := by
  unfold RestartRepair.checkDeferral
  split
  · exact reconcileInvalid_reports _ _
  split
  · exact reconcileInvalid_reports _ _
  split
  · exact did
  · exact reconcileInvalid_reports _ _

end RestartRepairLemmas

open RestartRepairLemmas

theorem repairInvalidPendingRenameState_quiet {journal : JournalRepository}
    (hs : (repairInvalidPendingRenameState journal).didRepair = false) :
    (repairInvalidPendingRenameState journal).journal = journal := by
  unfold repairInvalidPendingRenameState at hs ⊢
  dsimp only at hs ⊢
  have hd := quiet_foldl quiet_checkDeferral checkDeferral_kept _ _ hs
  dsimp only at hd
  rw [hd] at hs ⊢
  have hi := quiet_foldl quiet_checkIntent checkIntent_kept _ _ hs
  dsimp only at hi
  rw [hi]

end PersonalOs.Journal
