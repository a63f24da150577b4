import PersonalOs.Journal.JournalMachine

/-!
# Renames and the events they leave

A recorded rename is live when exactly one pending event of the file carries its edge and the file
has moved to the target. The writer answers a call with operands it has stored before by the stored
event, whatever became of it: the edge is then not live.
-/

namespace PersonalOs.Journal

open PersonalOs.DeviceSync (Locator)

namespace JournalRepository

variable (journal : JournalRepository)

/-- A pending rename or move of the file along one edge. -/
def isLiveEdge (localFileId : Nat) (prior current : Locator) (event : StoredJournalEvent) : Bool :=
  isOpenRename localFileId event && (journal.readOperands event.eventId).any fun stored =>
    stored.expectedLocator == some prior && stored.targetLocator == some current

def hasStoredOperands (localFileId : Nat) (operands : LifecycleEventOperands) : Bool :=
  journal.journalEvents.any (journal.storesOperands localFileId operands)

end JournalRepository

/-- Exactly one pending event carries the edge, and the file is at its target. -/
structure EdgeIsLive (journal : JournalRepository) (localFileId : Nat)
    (prior current : Locator) : Prop where
  oneEvent : (journal.journalEvents.filter
    (journal.isLiveEdge localFileId prior current)).length = 1
  rebound : (journal.readLocalFileByLocalFileId localFileId).map (·.normalizedPath) = some current

/-- A file whose rename the journal records: known to the server, not reserved for a restore,
without an open rename or move. -/
structure Renamable (journal : JournalRepository) (localFileId : Nat) (file : LocalFile) :
    Prop where
  found : journal.readLocalFileByLocalFileId localFileId = some file
  hasSource : file.sourceId.isSome = true
  hasBase : file.baseVersionId.isSome = true
  notRestoring : file.lifecycleState ≠ .restorePending
  noneOpen : journal.openRenamePrefixCount localFileId = 0

/-- The two calls that record a rename or move of a file, with the operands they record. -/
inductive RecordsRename (journal : JournalRepository) (localFileId : Nat) (file : LocalFile)
    (prior current : Locator) : LifecycleEventOperands → JournalRepository → Prop
  | pending {sourceId baseVersionId : Nat} {captured : FrozenFingerprint} {draw : Draw}
      {answer : PendingRename (Option LifecycleRecordResult)} {next : JournalRepository}
      (intent : journal.readPendingRenameIntentForLocalFile localFileId =
        some { localFileId := localFileId, priorPath := prior, currentPath := current })
      (moves : prior ≠ current) (source : file.sourceId = some sourceId)
      (base : file.baseVersionId = some baseVersionId)
      (succeeds : journal.recordPendingRenameLifecycleEvent localFileId captured draw =
        .ok (answer, next)) :
      RecordsRename journal localFileId file prior current
        (JournalRepository.pendingRenameOperands file
          { localFileId := localFileId, priorPath := prior, currentPath := current }
          sourceId baseVersionId captured) next
  | frozen {operands : LifecycleEventOperands} {tombstoneId : Option Nat}
      {newPath : Option Locator} {draw : Draw} {answer : LifecycleRecordResult}
      {next : JournalRepository} (isRebind : operands.operation.isRebind = true)
      (expected : operands.expectedLocator = some prior)
      (target : operands.targetLocator = some current)
      (path : newPath = none ∨ newPath = some current)
      (succeeds : journal.recordLifecycleEventWithFreeze localFileId operands tombstoneId newPath
        draw = .ok (answer, next)) :
      RecordsRename journal localFileId file prior current operands next

namespace RenameEdgesLemmas

open MoveLemmas

variable {journal m next : JournalRepository} {localFileId : Nat} {file : LocalFile}
  {prior current : Locator} {operands : LifecycleEventOperands}

theorem findReplay_none_iff (hf : journal.readLocalFileByLocalFileId localFileId = some file) :
    journal.findReplay localFileId operands = none ↔
      journal.hasStoredOperands localFileId operands = false := by
  rw [JournalRepository.findReplay, hf, JournalRepository.hasStoredOperands]
  simp [List.argmax_eq_none, List.filter_eq_nil_iff]

theorem liveEdge_nil (hn : journal.openRenamePrefixCount localFileId = 0) :
    journal.journalEvents.filter (next.isLiveEdge localFileId prior current) = [] := by
  have hni := List.length_eq_zero_iff.mp hn
  rw [List.filter_eq_nil_iff] at hni ⊢
  intro e hm hl
  exact hni e hm (Bool.and_eq_true _ _ ▸ hl).1

theorem rebindLocalFile_read {p : Locator} {w : LocalFile → LocalFile}
    (hk : ∀ row, (w row).localFileId = row.localFileId)
    (hf : journal.readLocalFileByLocalFileId localFileId = some file)
    (hr : journal.rebindLocalFile localFileId p w = .ok next) :
    (next.readLocalFileByLocalFileId localFileId).map (·.normalizedPath) = some p := by
  unfold JournalRepository.rebindLocalFile at hr
  split at hr
  · exact nomatch hr
  · cases hr
    have ha : (file.localFileId == localFileId) = true := beq_iff_eq.mpr (Tables.key_of_lookup hf)
    have hw : Tables.lookup (·.localFileId) (Tables.updateWhere journal.localFiles
        (·.localFileId == localFileId) fun row => { w row with normalizedPath := p })
          localFileId = some { w file with normalizedPath := p } :=
      Tables.lookup_written hk hf ha
    exact congrArg (Option.map _) hw

theorem appendOperands_fresh {sd : StoredOperands} (ha : journal.appendOperands sd = .ok next) :
    journal.readOperands sd.eventId = none := by
  unfold JournalRepository.appendOperands at ha
  split at ha
  · exact nomatch ha
  · next hm =>
    refine Tables.lookup_none_iff.mpr fun row hme he => hm ?_
    exact List.any_eq_true.mpr ⟨row, hme, beq_iff_eq.mpr he⟩

variable {draw : Draw} {newPath : Option Locator} {tombstoneId : Option Nat}

/-- The insert of a rename or move along an edge, in a journal without an open one: the edge is
live. -/
theorem edgeIsLive_of_inserted (hf : journal.readLocalFileByLocalFileId localFileId = some file)
    (hn : journal.openRenamePrefixCount localFileId = 0)
    (hr : operands.operation.isRebind = true)
    (hex : operands.expectedLocator = some prior)
    (ht : operands.targetLocator = some current)
    (hp : newPath = none ∨ newPath = some current)
    (hi : journal.insertLifecycleEvent localFileId operands tombstoneId newPath draw =
      .ok next) : EdgeIsLive next localFileId prior current := by
  obtain ⟨we, ha, hi⟩ := bind_ok hi
  obtain ⟨wo, ho, hw⟩ := bind_ok hi
  have hfr := appendOperands_fresh ho
  obtain ⟨hsa, hs⟩ := writeRecordedFile_ok hw
  have he := appendEvent_ok ha
  have hop := appendOperands_ok ho
  have hd : JournalRepository.recordedPath operands newPath = some current := by
    rw [JournalRepository.recordedPath, if_pos hr, ht]
    rcases hp with rfl | rfl <;> rfl
  refine ⟨?_, ?_⟩
  · rw [hsa, hop, he]
    dsimp only
    rw [List.filter_append, liveEdge_nil hn, List.nil_append, List.filter_cons_of_pos]
    · rfl
    · -- the new event is the only open rename, and its operands are the appended ones
      have hon : JournalRepository.isOpenRename localFileId
          { JournalRepository.lifecycleEventRow localFileId operands.operation draw with
            rowid := journal.nextRowid } = true := by
        show (localFileId == localFileId && operands.operation.isRebind && true) = true
        rw [hr, beq_self_eq_true]
        rfl
      rw [JournalRepository.isLiveEdge, hon, Bool.true_and]
      have hst : next.readOperands draw.eventId =
          some (JournalRepository.operandsRow operands tombstoneId draw.eventId) := by
        rw [JournalRepository.readOperands, hs, hop]
        exact Tables.lookup_snoc_new hfr
      show (next.readOperands draw.eventId).any _ = true
      rw [hst, Option.any_some, Bool.and_eq_true, beq_iff_eq, beq_iff_eq]
      exact ⟨hex, ht⟩
  · unfold JournalRepository.writeRecordedFile at hw
    rw [hd] at hw
    have hk : ∀ row, (JournalRepository.recordedFile operands tombstoneId row).localFileId =
        row.localFileId := fun _ => rfl
    have hse : wo.readLocalFileByLocalFileId localFileId = some file := by
      rw [hop, he]
      exact hf
    exact rebindLocalFile_read hk hse hw

/-- The writer, over any journal in which the file is stored and has no open rename: the edge is
live exactly when the operands are new to the file. -/
theorem writes_live_edge_iff {an : LifecycleRecordResult}
    (hf : journal.readLocalFileByLocalFileId localFileId = some file)
    (hn : journal.openRenamePrefixCount localFileId = 0)
    (hr : operands.operation.isRebind = true)
    (he : operands.expectedLocator = some prior)
    (ht : operands.targetLocator = some current)
    (hp : newPath = none ∨ newPath = some current)
    (hw : journal.writeLifecycleEvent localFileId operands tombstoneId newPath draw =
      .ok (an, next)) :
    EdgeIsLive next localFileId prior current ↔
      journal.hasStoredOperands localFileId operands = false := by
  rw [← findReplay_none_iff hf]
  rcases writeLifecycleEvent_ok hw with ⟨hre, rfl⟩ | ⟨hne, _, _, hi⟩
  · refine ⟨fun hl => ?_, fun hne => ?_⟩
    · have one := hl.oneEvent
      rw [liveEdge_nil hn] at one
      contradiction
    · rw [hre] at hne
      contradiction
  · exact ⟨fun _ => hne, fun _ => edgeIsLive_of_inserted hf hn hr he ht hp hi⟩

theorem noneOpen_of_frozen (hn : journal.openRenamePrefixCount localFileId = 0)
    (he : m.journalEvents = (journal.freezeEvents localFileId).journalEvents) :
    m.openRenamePrefixCount localFileId = 0 := by
  have hni := List.length_eq_zero_iff.mp hn
  rw [List.filter_eq_nil_iff] at hni
  refine List.length_eq_zero_iff.mpr (List.filter_eq_nil_iff.mpr fun r' hm ho => ?_)
  rw [he] at hm
  obtain ⟨row, hs, hw⟩ := Tables.mem_updateWhere.mp hm
  split at hw
  · rw [← hw] at ho
    simp [JournalRepository.isOpenRename, JournalRepository.closedRow,
      JournalNonRetryEventState.state, JournalEventState.isPending] at ho
  · exact hni row hs (hw ▸ ho)

theorem hasStoredOperands_of_frozen
    (he : m.journalEvents = (journal.freezeEvents localFileId).journalEvents)
    (hs : m.lifecycleOperands = journal.lifecycleOperands) :
    m.hasStoredOperands localFileId operands = journal.hasStoredOperands localFileId operands := by
  unfold JournalRepository.hasStoredOperands
  rw [he, JournalRepository.freezeEvents]
  unfold Tables.updateWhere
  rw [List.any_map]
  refine congrArg (List.any _) (funext fun row => ?_)
  unfold JournalRepository.storesOperands
  rw [hs]
  show List.any _ _ = _
  dsimp only [Function.comp_apply]
  split <;> rfl

theorem records_live_edge_iff {an : LifecycleRecordResult} (hr : Renamable journal localFileId file)
    (he : m.journalEvents = (journal.freezeEvents localFileId).journalEvents)
    (hs : m.lifecycleOperands = journal.lifecycleOperands)
    (hsa : m.localFiles = journal.localFiles)
    (hre : operands.operation.isRebind = true)
    (hex : operands.expectedLocator = some prior)
    (ht : operands.targetLocator = some current)
    (hp : newPath = none ∨ newPath = some current)
    (hw : m.writeLifecycleEvent localFileId operands tombstoneId newPath draw = .ok (an, next)) :
    EdgeIsLive next localFileId prior current ↔
      journal.hasStoredOperands localFileId operands = false := by
  rw [← hasStoredOperands_of_frozen he hs]
  have hse : m.readLocalFileByLocalFileId localFileId = some file := by
    rw [JournalRepository.readLocalFileByLocalFileId, hsa]
    exact hr.found
  exact writes_live_edge_iff hse (noneOpen_of_frozen hr.noneOpen he) hre hex ht hp hw

theorem pendingRenameOperands_isRebind {i : PendingRenameIntent} {si bv : Nat}
    {c : FrozenFingerprint} :
    (JournalRepository.pendingRenameOperands file i si bv c).operation.isRebind = true := by
  unfold JournalRepository.pendingRenameOperands
  dsimp only
  split <;> rfl

theorem pending_live_edge_iff {si bv : Nat} {c : FrozenFingerprint}
    {an : PendingRename (Option LifecycleRecordResult)}
    (hr : Renamable journal localFileId file)
    (hi : journal.readPendingRenameIntentForLocalFile localFileId =
      some { localFileId := localFileId, priorPath := prior, currentPath := current })
    (hmo : prior ≠ current) (hso : file.sourceId = some si)
    (hb : file.baseVersionId = some bv)
    (hs : journal.recordPendingRenameLifecycleEvent localFileId c draw = .ok (an, next)) :
    EdgeIsLive next localFileId prior current ↔ journal.hasStoredOperands localFileId
      (JournalRepository.pendingRenameOperands file
        { localFileId := localFileId, priorPath := prior, currentPath := current }
        si bv c) = false := by
  have ho : (prior == current) = false := beq_eq_false_iff_ne.mpr hmo
  have hn : (file.lifecycleState == .restorePending) = false :=
    beq_eq_false_iff_ne.mpr hr.notRestoring
  unfold JournalRepository.recordPendingRenameLifecycleEvent at hs
  simp only [hi, hr.noneOpen, ho, hr.found, hn, hso, hb, Bool.false_eq_true, if_false] at hs
  split at hs
  · exact nomatch hs
  · obtain ⟨⟨r, n'⟩, hm, ha⟩ := bind_ok hs
    cases ha
    refine records_live_edge_iff hr ?_ ?_ ?_ pendingRenameOperands_isRebind rfl rfl (.inr rfl) hm
    · rfl
    · rfl
    · rfl

end RenameEdgesLemmas

open RenameEdgesLemmas in
/-- A recorded rename or move is live exactly when no event of the file has been stored with the
same operands before, whatever that event's state. -/
theorem rename_becomes_live_iff {journal next : JournalRepository} {localFileId : Nat}
    {file : LocalFile} {prior current : Locator} {operands : LifecycleEventOperands}
    (renamable : Renamable journal localFileId file)
    (records : RecordsRename journal localFileId file prior current operands next) :
    EdgeIsLive next localFileId prior current ↔
      journal.hasStoredOperands localFileId operands = false := by
  cases records with
  | pending hi hm hso hb hs =>
    exact pending_live_edge_iff renamable hi hm hso hb hs
  | frozen hr he ht hp hs =>
    unfold JournalRepository.recordLifecycleEventWithFreeze at hs
    split at hs
    · refine records_live_edge_iff renamable ?_ ?_ ?_ hr he ht hp hs
      · rfl
      · rfl
      · rfl
    · exact nomatch hs

namespace RenameEdgesLemmas

/-- One rename of the sample note, from its observation to its receipt. -/
def renameNote (prior current : Locator) (eventId : Nat) : List JournalAction :=
  [.recordOrComposePendingRenameIntent 1 prior current,
   .recordPendingRenameLifecycleEvent 1 (sampleFingerprint "aa") (sampleDraw 1 eventId),
   .recordLifecycleCommittedReceipt eventId none]

/-- The sample note is tracked, renamed as often as told, and a rename from `a.md` to `b.md` is
observed. -/
def beforeRename (history : List JournalAction) : List JournalAction :=
  trackFile 1 "a.md" 10 ++ history ++ [.recordOrComposePendingRenameIntent 1 "a.md" "b.md"]

/-- The sample note as the receipt of its first capture left it, but for the given columns. -/
def sampleFile (policyRevisionNumber : Nat) (lastLocator : Option Locator) : LocalFile where
  localFileId := 1
  normalizedPath := "a.md"
  sourceId := some 10
  observedFingerprint := sampleFingerprint "aa"
  baseVersionId := some 10
  policyRevisionNumber := policyRevisionNumber
  lastCommittedFingerprint := some (sampleFingerprint "aa")
  lastLocator := lastLocator
  openTombstoneId := none
  lifecycleState := .active
  restorePriorPath := none

/-- The pending rename of the sample note can be recorded, and its operands are stored or not. -/
def renamesNote (file : LocalFile) (isStored : Bool) (journal : JournalRepository) : Bool :=
  journal.readLocalFileByLocalFileId 1 == some file &&
    journal.openRenamePrefixCount 1 == 0 &&
    journal.readPendingRenameIntentForLocalFile 1 ==
      some { localFileId := 1, priorPath := "a.md", currentPath := "b.md" } &&
    journal.hasStoredOperands 1 (JournalRepository.pendingRenameOperands file
      { localFileId := 1, priorPath := "a.md", currentPath := "b.md" } 10 10
      (sampleFingerprint "aa")) == isStored &&
    (answered (journal.recordPendingRenameLifecycleEvent 1 (sampleFingerprint "aa")
      (sampleDraw 1 30))).isSome

theorem answered_isSome {ε α β : Type} {x : Except ε (α × β)}
    (hs : (answered x).isSome = true) : ∃ a b, x = .ok (a, b) := by
  obtain ⟨b, hs⟩ := Option.isSome_iff_exists.mp hs
  obtain ⟨a, ho⟩ := MoveLemmas.answered_some hs
  exact ⟨a, b, ho⟩

theorem sample_edge_moves : ("a.md" : Locator) ≠ "b.md" := by decide +kernel

theorem renamesNote_spec {ll : Option Locator} {isS : Bool}
    {journal : JournalRepository}
    (hh : renamesNote (sampleFile 1 ll) isS journal = true) :
    Renamable journal 1 (sampleFile 1 ll) ∧ journal.readPendingRenameIntentForLocalFile 1 =
        some { localFileId := 1, priorPath := "a.md", currentPath := "b.md" } ∧
      journal.hasStoredOperands 1 (JournalRepository.pendingRenameOperands (sampleFile 1 ll)
        { localFileId := 1, priorPath := "a.md", currentPath := "b.md" } 10 10
        (sampleFingerprint "aa")) = isS ∧
      ∃ an next, journal.recordPendingRenameLifecycleEvent 1 (sampleFingerprint "aa")
        (sampleDraw 1 30) = .ok (an, next) := by
  simp only [renamesNote, Bool.and_eq_true, beq_iff_eq] at hh
  obtain ⟨⟨⟨⟨hf, hn⟩, hi⟩, hst⟩, hs⟩ := hh
  exact ⟨⟨hf, rfl, rfl, nofun, hn⟩, hi, hst, answered_isSome hs⟩

end RenameEdgesLemmas

open RenameEdgesLemmas in
/-- The first rename of a tracked note. -/
theorem rename_becomes_live_first : ∃ (world : JournalWorld) (next : JournalRepository)
    (operands : LifecycleEventOperands), journalMachine.Reachable world ∧
      RecordsRename world.journal 1 (sampleFile 1 none) "a.md" "b.md" operands next ∧
      EdgeIsLive next 1 "a.md" "b.md" := by
  have ho : (journalMachine.run .start (beforeRename [])).map
      (fun world => renamesNote (sampleFile 1 none) false world.journal) = some true := by
    decide +kernel
  obtain ⟨world, ran, hh⟩ := Option.map_eq_some_iff.mp ho
  obtain ⟨hre, hi, hn, an, next, hs⟩ := renamesNote_spec hh
  have hr : RecordsRename world.journal 1 (sampleFile 1 none) "a.md" "b.md" _ next :=
    .pending hi sample_edge_moves rfl rfl hs
  exact ⟨world, next, _, Machine.reachable_of_run start_init ran, hr,
    (rename_becomes_live_iff hre hr).mpr hn⟩

open RenameEdgesLemmas in
/-- A note renamed, renamed back and renamed again: the last rename is answered by the first one's
event, nothing of it is pending and the note stays where it was. -/
theorem rename_again_is_replayed : ∃ (world : JournalWorld) (next : JournalRepository)
    (file : LocalFile) (operands : LifecycleEventOperands), journalMachine.Reachable world ∧
      Renamable world.journal 1 file ∧
      RecordsRename world.journal 1 file "a.md" "b.md" operands next ∧
      ¬ EdgeIsLive next 1 "a.md" "b.md" := by
  have ho : (journalMachine.run .start
      (beforeRename (renameNote "a.md" "b.md" 11 ++ renameNote "b.md" "a.md" 12))).map
        (fun world => renamesNote (sampleFile 1 (some "a.md")) true world.journal) = some true := by
    decide +kernel
  obtain ⟨world, ran, hh⟩ := Option.map_eq_some_iff.mp ho
  obtain ⟨hr, hi, hst, an, next, hs⟩ := renamesNote_spec hh
  refine ⟨world, next, _, _, Machine.reachable_of_run start_init ran, hr,
    .pending hi sample_edge_moves rfl rfl hs, fun hl => ?_⟩
  have hn := (pending_live_edge_iff hr hi sample_edge_moves rfl rfl hs).mp hl
  rw [hst] at hn
  contradiction

end PersonalOs.Journal
