import PersonalOs.Journal.RenameEdges

/-!
# Chains of renames

One file is renamed again and again while its renames are recorded and acknowledged. The journal
holds the chain as a committed part, at most one prefix under way and an intent with the rest.
-/

namespace PersonalOs.Journal

open PersonalOs.DeviceSync (Locator)

/-! ## One chain as a machine -/

abbrev Edge := Locator × Locator

inductive EdgePath (start : Locator) : List Edge → Locator → Prop
  | nil : EdgePath start [] start
  | snoc {edges : List Edge} {a b : Locator} (before : EdgePath start edges a) :
      EdgePath start (edges ++ [(a, b)]) b

/-- The journal, the edges observed so far with their last endpoint, and the committed ones. -/
structure ChainWorld where
  journal : JournalRepository
  endpoint : Locator
  observed : List Edge
  committed : List Edge
deriving DecidableEq

/-- The calls of a chain: the next edge is observed from the last endpoint. -/
inductive ChainAction
  | observe (next : Locator)
  | materialize (captured : FrozenFingerprint) (draw : Draw)
  | receive (eventId : Nat) (serverTombstoneId : Option Nat)
deriving DecidableEq

/-- The edge of a rename or move. -/
def FrozenLifecycleEvent.edge (frozen : FrozenLifecycleEvent) : List Edge :=
  match frozen.event.operation.isRebind, frozen.operands.expectedLocator,
    frozen.operands.targetLocator with
  | true, some expected, some target => [(expected, target)]
  | _, _, _ => []

/-- One call. An observed target is not reserved by another file; a receipt is for an event of the
file. -/
def ChainWorld.step (localFileId : Nat) (world : ChainWorld) : ChainAction → Option ChainWorld
  | .observe next =>
    if world.journal.isTargetReserved localFileId next then none
    else (answered (world.journal.recordOrComposePendingRenameIntent localFileId world.endpoint
      next)).map fun journal =>
        { world with journal, endpoint := next
                     observed := world.observed ++ [(world.endpoint, next)] }
  | .materialize captured draw =>
    (answered (world.journal.recordPendingRenameLifecycleEvent localFileId captured draw)).map
      fun journal => { world with journal }
  | .receive eventId serverTombstoneId =>
    match world.journal.readLifecycleEvent eventId with
    | none => none
    | some frozen =>
      if frozen.event.localFileId == localFileId then
        (accepted (world.journal.recordLifecycleCommittedReceipt eventId serverTombstoneId)).map
          fun journal => { world with journal, committed := world.committed ++ frozen.edge }
      else none

namespace JournalRepository

/-- The renames and moves of a file that are under way. -/
def openRenames (journal : JournalRepository) (localFileId : Nat) : List StoredJournalEvent :=
  journal.journalEvents.filter (isOpenRename localFileId)

/-- The file is at the start of a chain: no intent and no lifecycle event of it is pending. -/
def startsChain (journal : JournalRepository) (localFileId : Nat) (start : Locator) : Bool :=
  (journal.readLocalFileByLocalFileId localFileId).any (·.normalizedPath == start) &&
    (journal.readPendingRenameIntentForLocalFile localFileId).isNone &&
      journal.journalEvents.all fun event => !(event.localFileId == localFileId &&
        event.state.isPending && !event.operation.isContent)

end JournalRepository

def chainMachine (localFileId : Nat) (start : Locator) : Machine ChainWorld ChainAction where
  Init := fun world => world.journal.startsChain localFileId start = true ∧
    world.endpoint = start ∧ world.observed = [] ∧ world.committed = []
  step := ChainWorld.step localFileId

/-- A receipt is for an event that is pending, as the driver selects it. -/
def ChainWorld.owesReceipt (world : ChainWorld) : ChainAction → Bool
  | .receive eventId _ => (world.journal.readEvent eventId).any (·.state.isPending)
  | _ => true

/-! ## The parts of a chain -/

/-- Where the chain stands: the file at `path`, the committed part up to `reached`, the last
endpoint `endpoint`. -/
inductive ChainStage (journal : JournalRepository) (localFileId : Nat) (path : Locator) :
    Locator → Locator → Prop
  | settled (noIntent : journal.readPendingRenameIntentForLocalFile localFileId = none)
      (noneOpen : journal.openRenames localFileId = []) :
      ChainStage journal localFileId path path path
  | owed {endpoint : Locator}
      (intent : journal.readPendingRenameIntentForLocalFile localFileId =
        some ⟨localFileId, path, endpoint⟩)
      (noneOpen : journal.openRenames localFileId = []) (apart : path ≠ endpoint) :
      ChainStage journal localFileId path path endpoint
  | inFlight {reached endpoint : Locator} {event : StoredJournalEvent} {stored : StoredOperands}
      (intent : journal.readPendingRenameIntentForLocalFile localFileId =
        some ⟨localFileId, reached, endpoint⟩)
      (oneOpen : journal.openRenames localFileId = [event])
      (operands : journal.readOperands event.eventId = some stored)
      (expected : stored.expectedLocator = some reached)
      (target : stored.targetLocator = some path) :
      ChainStage journal localFileId path reached endpoint

/-- Whatever lifecycle event of the file is pending is a rename or a move. -/
def PendingRebinds (journal : JournalRepository) (localFileId : Nat) : Prop :=
  ∀ event ∈ journal.journalEvents, event.localFileId = localFileId →
    event.state.isPending = true → event.operation.isContent = false →
      event.operation.isRebind = true

/-- The parts of a chain fit together. -/
structure ChainSound (localFileId : Nat) (start : Locator) (world : ChainWorld) : Prop where
  stage : ∃ file reached, world.journal.readLocalFileByLocalFileId localFileId = some file ∧
    ChainStage world.journal localFileId file.normalizedPath reached world.endpoint ∧
      EdgePath start world.committed reached
  observed : EdgePath start world.observed world.endpoint
  rebinds : PendingRebinds world.journal localFileId

namespace RenameChainsLemmas

open MoveLemmas RenameEdgesLemmas

variable {journal next : JournalRepository} {localFileId : Nat} {file : LocalFile}
  {path reached endpoint : Locator}

/-! ### Writes -/

theorem openRenames_freeze : (journal.freezeEvents localFileId).openRenames localFileId =
      journal.openRenames localFileId := by
  refine Tables.filter_updateWhere_of_apart fun row ha => ⟨?_, ?_⟩
  · -- a frozen row was on the content surface
    have hc : row.operation.isContent = true := (Bool.and_eq_true _ _ ▸ ha).2
    have hn : row.operation.isRebind = false := by
      cases ho : row.operation <;> rw [ho] at hc <;> first | rfl | cases hc
    rw [JournalRepository.isOpenRename, hn, Bool.and_false, Bool.false_and]
  · show (row.localFileId == localFileId && row.operation.isRebind && false) = false
    rw [Bool.and_false]

theorem read_setIntentCurrentPath {p c c' : Locator}
    (hi : journal.readPendingRenameIntentForLocalFile localFileId = some ⟨localFileId, p, c⟩) :
    (journal.setIntentCurrentPath localFileId c').readPendingRenameIntentForLocalFile
      localFileId = some ⟨localFileId, p, c'⟩ := by
  have hk : ∀ row : PendingRenameIntent,
      ({ row with currentPath := c' } : PendingRenameIntent).localFileId = row.localFileId :=
    fun _ => rfl
  show Tables.lookup (·.localFileId) (Tables.updateWhere journal.pendingRenameIntents
    (·.localFileId == localFileId) fun row => { row with currentPath := c' }) _ = _
  exact Tables.lookup_written hk hi (beq_self_eq_true localFileId)

theorem read_setIntentPriorPath {p p' c : Locator}
    (hi : journal.readPendingRenameIntentForLocalFile localFileId = some ⟨localFileId, p, c⟩) :
    (journal.setIntentPriorPath localFileId p').readPendingRenameIntentForLocalFile
      localFileId = some ⟨localFileId, p', c⟩ := by
  have hk : ∀ row : PendingRenameIntent,
      ({ row with priorPath := p' } : PendingRenameIntent).localFileId = row.localFileId :=
    fun _ => rfl
  show Tables.lookup (·.localFileId) (Tables.updateWhere journal.pendingRenameIntents
    (·.localFileId == localFileId) fun row => { row with priorPath := p' }) _ = _
  exact Tables.lookup_written hk hi (beq_self_eq_true localFileId)

theorem read_dropIntent :
    (journal.dropIntent localFileId).readPendingRenameIntentForLocalFile localFileId = none := by
  refine Tables.lookup_none_iff.mpr fun row hm he => ?_
  have ho := (List.mem_filter.mp hm).2
  rw [bne_iff_ne] at ho
  exact ho he

/-! ### An observed edge -/

theorem stage_observe {n' : Locator} {an : PendingRename PendingRenameIntentOutcome}
    (hf : journal.readLocalFileByLocalFileId localFileId = some file)
    (hst : ChainStage journal localFileId file.normalizedPath reached endpoint)
    (hfr : journal.isTargetReserved localFileId n' = false)
    (ho : journal.recordOrComposePendingRenameIntent localFileId endpoint n' = .ok (an, next)) :
    next.localFiles = journal.localFiles ∧ next.journalEvents = journal.journalEvents ∧
      ChainStage next localFileId file.normalizedPath reached n' := by
  unfold JournalRepository.recordOrComposePendingRenameIntent at ho
  rw [hf, hfr] at ho
  split at ho
  · cases ho
  next hs =>
    have hm : endpoint ≠ n' := by
      rintro rfl
      simp at hs
    dsimp only at ho
    split at ho
    · cases ho
    cases hst with
    | settled hnt hno =>
      rw [hnt] at ho
      simp only [bne_self_eq_false, Bool.or_self, Bool.false_eq_true, if_false] at ho
      cases ho
      exact ⟨rfl, rfl, .owed (Tables.lookup_snoc_new hnt) hno hm⟩
    | owed hi hno ha =>
      rw [hi] at ho
      have hn : (file.normalizedPath == endpoint) = false := beq_eq_false_iff_ne.mpr ha
      simp only [hn, Bool.false_and, bne_self_eq_false, Bool.or_self, Bool.false_eq_true,
        if_false] at ho
      split at ho
      · -- back to the start: nothing is under way, so the intent is cancelled
        next hr =>
        have hnd : journal.openRenamePrefixCount localFileId = 0 := congrArg List.length hno
        rw [hnd] at ho
        cases ho
        rw [beq_iff_eq.mp hr]
        exact ⟨rfl, rfl, .settled read_dropIntent hno⟩
      · next honw =>
        cases ho
        refine ⟨rfl, rfl, .owed (read_setIntentCurrentPath hi) hno fun hsa => ?_⟩
        exact honw (beq_iff_eq.mpr hsa.symm)
    | inFlight hi hon hop he ht =>
      rw [hi] at ho
      have hn : (reached == endpoint && endpoint == n') = false := by
        rw [beq_eq_false_iff_ne.mpr hm, Bool.and_false]
      simp only [hn, bne_self_eq_false, Bool.or_self, Bool.false_eq_true, if_false] at ho
      split at ho
      · -- back to the start behind a prefix under way: the intent keeps the way back
        next hr =>
        have hod : journal.openRenamePrefixCount localFileId = 1 := congrArg List.length hon
        rw [hod] at ho
        cases ho
        rw [beq_iff_eq.mp hr]
        exact ⟨rfl, rfl, .inFlight (read_setIntentCurrentPath hi) hon hop he ht⟩
      · cases ho
        exact ⟨rfl, rfl, .inFlight (read_setIntentCurrentPath hi) hon hop he ht⟩

/-! ### A materialized prefix -/

theorem rebinds_freeze (hr : PendingRebinds journal localFileId) :
    PendingRebinds (journal.freezeEvents localFileId) localFileId := by
  intro e' hm file hp hl
  obtain ⟨e, hs, hw⟩ := Tables.mem_updateWhere.mp hm
  split at hw
  · rw [← hw] at hp
    cases hp
  · subst hw
    exact hr e hs file hp hl

theorem writeRecordedFile_intents {o : LifecycleEventOperands} {ti : Option Nat}
    {np : Option Locator}
    (hw : journal.writeRecordedFile localFileId o ti np = .ok next) :
    next.pendingRenameIntents = journal.pendingRenameIntents := by
  unfold JournalRepository.writeRecordedFile at hw
  split at hw
  · unfold JournalRepository.rebindLocalFile at hw
    split at hw
    · exact nomatch hw
    · cases hw
      rfl
  · cases hw
    rfl

theorem stage_insert {o : LifecycleEventOperands} {d : Draw}
    (hfo : journal.readLocalFileByLocalFileId localFileId = some file)
    (hin : journal.readPendingRenameIntentForLocalFile localFileId =
      some ⟨localFileId, reached, endpoint⟩)
    (hn : journal.openRenames localFileId = [])
    (hre : PendingRebinds journal localFileId)
    (hr : o.operation.isRebind = true)
    (he : o.expectedLocator = some reached)
    (ht : o.targetLocator = some endpoint)
    (hi : journal.insertLifecycleEvent localFileId o none (some endpoint) d = .ok next) :
    PendingRebinds next localFileId ∧ ∃ f', next.readLocalFileByLocalFileId localFileId =
      some f' ∧ ChainStage next localFileId f'.normalizedPath reached endpoint := by
  have hli := edgeIsLive_of_inserted hfo (congrArg List.length hn) hr he ht (.inr rfl) hi
  obtain ⟨f', hf', hat⟩ := Option.map_eq_some_iff.mp hli.rebound
  obtain ⟨we, ha, hi⟩ := bind_ok hi
  obtain ⟨wo, ho, hwr⟩ := bind_ok hi
  have hf := appendOperands_fresh ho
  obtain ⟨hs, hsa⟩ := writeRecordedFile_ok hwr
  have hss := writeRecordedFile_intents hwr
  have hw := appendOperands_ok ho
  rw [appendEvent_ok ha] at hw
  rw [hw] at hs hsa hss
  have hop : JournalRepository.isOpenRename localFileId
      { JournalRepository.lifecycleEventRow localFileId o.operation d with
        rowid := journal.nextRowid } = true := by
    show (localFileId == localFileId && o.operation.isRebind && true) = true
    rw [hr, beq_self_eq_true]
    rfl
  have hon : next.openRenames localFileId =
      [{ JournalRepository.lifecycleEventRow localFileId o.operation d with
        rowid := journal.nextRowid }] := by
    rw [JournalRepository.openRenames] at hn ⊢
    rw [hs]
    dsimp only
    rw [List.filter_append, hn, List.nil_append, List.filter_cons_of_pos hop, List.filter_nil]
  have hsd : next.readOperands d.eventId =
      some (JournalRepository.operandsRow o none d.eventId) := by
    rw [JournalRepository.readOperands, hsa]
    rw [appendEvent_ok ha] at hf
    exact Tables.lookup_snoc_new hf
  have hst : next.readPendingRenameIntentForLocalFile localFileId =
      some ⟨localFileId, reached, endpoint⟩ := by
    rw [JournalRepository.readPendingRenameIntentForLocalFile, hss]
    exact hin
  refine ⟨fun e hm how hp hl => ?_, f', hf', .inFlight hst hon hsd he ?_⟩
  · rw [hs] at hm
    rcases List.mem_append.mp hm with old | new
    · exact hre e old how hp hl
    · rw [List.mem_singleton.mp new]
      exact hr
  · rw [hat]
    exact ht

theorem stage_materialize {c : FrozenFingerprint} {d : Draw}
    {an : PendingRename (Option LifecycleRecordResult)}
    (hf : journal.readLocalFileByLocalFileId localFileId = some file)
    (hst : ChainStage journal localFileId file.normalizedPath reached endpoint)
    (hr : PendingRebinds journal localFileId)
    (hd : journal.recordPendingRenameLifecycleEvent localFileId c d = .ok (an, next)) :
    PendingRebinds next localFileId ∧ ∃ f', next.readLocalFileByLocalFileId localFileId =
      some f' ∧ ChainStage next localFileId f'.normalizedPath reached endpoint := by
  unfold JournalRepository.recordPendingRenameLifecycleEvent at hd
  cases hst with
  | settled hno hn =>
    rw [hno] at hd
    cases hd
    exact ⟨hr, file, hf, .settled hno hn⟩
  | owed hi hn ha =>
    have hnd : journal.openRenamePrefixCount localFileId = 0 := congrArg List.length hn
    have hnt : (file.normalizedPath == endpoint) = false := beq_eq_false_iff_ne.mpr ha
    rw [hi] at hd
    simp only [hnd, hnt, hf, Bool.false_eq_true, if_false] at hd
    split at hd
    · cases hd
    split at hd
    · split at hd
      · cases hd
      · obtain ⟨⟨r, n'⟩, hm, hd⟩ := bind_ok hd
        cases hd
        -- the frozen journal stands at the same stage
        have hfr := rebinds_freeze hr
        rcases writeLifecycleEvent_ok hm with ⟨_, rfl⟩ | ⟨_, _, _, hid⟩
        · exact ⟨hfr, file, hf, .owed hi (openRenames_freeze.trans hn) ha⟩
        · have hk : (((journal.freezeEvents localFileId).dropMultipartOfFile localFileId
              fun e => e.state == .deferredLifecycle).dropDeferralOfFile
                localFileId).readLocalFileByLocalFileId localFileId = some file := hf
          refine stage_insert hk hi ?_ hfr pendingRenameOperands_isRebind rfl rfl hid
          exact openRenames_freeze.trans hn
    · cases hd
      exact ⟨hr, file, hf, .owed hi hn ha⟩
  | inFlight hi hon hop he ht =>
    have hod : journal.openRenamePrefixCount localFileId = 1 := congrArg List.length hon
    rw [hi] at hd
    simp only [hod] at hd
    unfold JournalRepository.answerOpenPrefix at hd
    split at hd
    · next e sd f' hp _ =>
      -- the prefix that is read is the one under way
      obtain ⟨e', hl, hs⟩ := Option.bind_eq_some_iff.mp hp
      obtain ⟨sd', ho, hsa⟩ := Option.map_eq_some_iff.mp hs
      have hme : e' ∈ journal.openRenames localFileId := by
        have hin := (List.mem_argmin_iff.mp hl).1
        obtain ⟨hin, hope⟩ := List.mem_filter.mp hin
        exact List.mem_filter.mpr ⟨hin, (Bool.and_eq_true _ _ ▸ hope).1⟩
      rw [hon] at hme
      rw [List.mem_singleton.mp hme, hop, Option.some.injEq] at ho
      obtain ⟨rfl, rfl⟩ := Prod.mk.inj hsa
      rw [← ho, he] at hd
      simp only [bne_self_eq_false, Bool.false_eq_true, if_false] at hd
      cases hd
      exact ⟨hr, file, hf, .inFlight hi hon hop he ht⟩
    · cases hd

/-! ### A receipt -/

variable {serverTombstoneId : Option Nat}

theorem openRenames_commit {e : StoredJournalEvent} (hon : journal.openRenames localFileId = [e]) :
    (journal.commitLifecycleEvent e.eventId serverTombstoneId).openRenames localFileId = [] := by
  have hs : (journal.commitLifecycleEvent e.eventId
      serverTombstoneId).journalEvents = Tables.updateWhere journal.journalEvents
        (·.eventId == e.eventId) fun row =>
          { row with state := .committed, nextEligibleRetryEpochMs := none, safeError := none } := by
    unfold JournalRepository.commitLifecycleEvent
    split <;> rfl
  rw [JournalRepository.openRenames, hs, List.filter_eq_nil_iff]
  intro r' hm ho
  obtain ⟨row, hst, hw⟩ := Tables.mem_updateWhere.mp hm
  split at hw
  · -- the committed row is not pending
    rw [← hw, JournalRepository.isOpenRename, Bool.and_eq_true] at ho
    exact absurd ho.2 Bool.false_ne_true
  · next hot =>
    subst hw
    have hoe : row ∈ journal.openRenames localFileId := List.mem_filter.mpr ⟨hst, ho⟩
    rw [hon, List.mem_singleton] at hoe
    exact hot (by rw [hoe]; exact beq_self_eq_true _)

theorem stage_commitRebind {t : Locator}
    (hf : journal.readLocalFileByLocalFileId localFileId = some file)
    (hi : journal.readPendingRenameIntentForLocalFile localFileId =
      some ⟨localFileId, reached, endpoint⟩)
    (hno : journal.openRenames localFileId = [])
    (hat : file.normalizedPath = t) :
    ∃ f', (journal.commitRebind localFileId t).readLocalFileByLocalFileId localFileId =
      some f' ∧ ChainStage (journal.commitRebind localFileId t) localFileId
        f'.normalizedPath t endpoint := by
  have ha : (file.localFileId == localFileId) = true := beq_iff_eq.mpr (Tables.key_of_lookup hf)
  have hac : Tables.lookup (·.localFileId) (Tables.updateWhere journal.localFiles
      (·.localFileId == localFileId) fun row => { row with lifecycleState := .active })
        localFileId = some { file with lifecycleState := .active } :=
    Tables.lookup_written (fun _ => rfl) hf ha
  have hs : (journal.journalEvents.filter fun e =>
      !(e.localFileId == localFileId && e.state == .deferredLifecycle)).filter
        (JournalRepository.isOpenRename localFileId) = [] := by
    rw [List.filter_eq_nil_iff]
    intro e hm
    exact List.filter_eq_nil_iff.mp hno e (List.mem_of_mem_filter hm)
  have hk : ∀ j' : JournalRepository, j'.localFiles = Tables.updateWhere
      journal.localFiles (·.localFileId == localFileId) (fun row =>
        { row with lifecycleState := .active }) →
      j'.readLocalFileByLocalFileId localFileId = some { file with lifecycleState := .active } := by
    intro j' he
    rw [JournalRepository.readLocalFileByLocalFileId, he]
    exact hac
  refine ⟨{ file with lifecycleState := .active }, ?_⟩
  subst hat
  unfold JournalRepository.commitRebind
  dsimp only
  split
  · next hn => cases hn.symm.trans hi
  · next i' hin =>
    obtain rfl : i' = ⟨localFileId, reached, endpoint⟩ := Option.some.inj (hin.symm.trans hi)
    split
    · next met =>
      rw [show endpoint = file.normalizedPath from beq_iff_eq.mp met]
      exact ⟨hk _ rfl, .settled read_dropIntent hs⟩
    · next ho =>
      refine ⟨hk _ rfl, .owed (read_setIntentPriorPath hi) hs fun he => ?_⟩
      exact ho (beq_iff_eq.mpr he.symm)

theorem rebinds_commit {ei : Nat} {t : Locator} (hr : PendingRebinds journal localFileId) :
    PendingRebinds ((journal.commitLifecycleEvent ei serverTombstoneId).commitRebind
      localFileId t) localFileId := by
  have hc : PendingRebinds (journal.commitLifecycleEvent ei serverTombstoneId) localFileId := by
    have hs : (journal.commitLifecycleEvent ei serverTombstoneId).journalEvents =
        Tables.updateWhere journal.journalEvents (·.eventId == ei) fun row =>
          { row with state := .committed, nextEligibleRetryEpochMs := none, safeError := none } := by
      unfold JournalRepository.commitLifecycleEvent
      split <;> rfl
    intro e' hm ho hp hl
    rw [hs] at hm
    obtain ⟨e, hst, hw⟩ := Tables.mem_updateWhere.mp hm
    split at hw
    · rw [← hw] at hp
      cases hp
    · subst hw
      exact hr e hst ho hp hl
  have hk : ∀ e ∈ ((journal.commitLifecycleEvent ei serverTombstoneId).commitRebind
      localFileId t).journalEvents,
      e ∈ (journal.commitLifecycleEvent ei serverTombstoneId).journalEvents := by
    intro e hm
    unfold JournalRepository.commitRebind at hm
    dsimp only at hm
    split at hm
    · exact List.mem_of_mem_filter hm
    · split at hm
      · exact List.mem_of_mem_filter hm
      · exact List.mem_of_mem_filter hm
  intro e hm
  exact hc e (hk e hm)

theorem stage_receive {ei : Nat} {f : FrozenLifecycleEvent}
    (hfo : journal.readLocalFileByLocalFileId localFileId = some file)
    (hse : ChainStage journal localFileId file.normalizedPath reached endpoint)
    (hrs : PendingRebinds journal localFileId)
    (hf : journal.readLifecycleEvent ei = some f)
    (how : f.event.localFileId = localFileId) (hp : f.event.state.isPending = true)
    (hr : journal.recordLifecycleCommittedReceipt ei serverTombstoneId = .ok next) :
    PendingRebinds next localFileId ∧ f.edge = [(reached, file.normalizedPath)] ∧
      ∃ f', next.readLocalFileByLocalFileId localFileId = some f' ∧
        ChainStage next localFileId f'.normalizedPath file.normalizedPath endpoint := by
  obtain ⟨hev, hope⟩ := readLifecycleEvent_some hf
  have hst := Tables.mem_of_lookup hev
  have hsd : f.event.eventId = ei := Tables.key_of_lookup hev
  unfold JournalRepository.recordLifecycleCommittedReceipt at hr
  rw [hf] at hr
  dsimp only at hr
  have hl : f.event.operation.isContent = false := by
    cases hop : f.event.operation <;> rw [hop] at hr <;>
      first | rfl | cases hr
  have hre := hrs f.event hst how hp hl
  have ho : f.event ∈ journal.openRenames localFileId := by
    refine List.mem_filter.mpr ⟨hst, ?_⟩
    rw [JournalRepository.isOpenRename, hre, hp, how, beq_self_eq_true]
    rfl
  cases hse with
  | settled _ hn =>
    rw [hn] at ho
    cases ho
  | owed _ hn _ =>
    rw [hn] at ho
    cases ho
  | @inFlight _ _ e sr hi hon hos he ht =>
    rw [hon, List.mem_singleton] at ho
    rw [← ho, hsd, hope, Option.some.injEq] at hos
    rw [← hos] at he ht
    have hco : next = (journal.commitLifecycleEvent ei serverTombstoneId).commitRebind
        localFileId file.normalizedPath := by
      rw [how] at hr
      cases hop : f.event.operation <;> rw [hop] at hr hre <;>
        first
          | (dsimp only at hr; rw [ht] at hr
             exact (Except.ok.inj hr).symm)
          | cases hre
    have hk : ∀ j' : JournalRepository, j'.localFiles = journal.localFiles →
        j'.readLocalFileByLocalFileId localFileId = some file := by
      intro j' same
      rw [JournalRepository.readLocalFileByLocalFileId, same]
      exact hfo
    have hs : (journal.commitLifecycleEvent ei serverTombstoneId).localFiles =
          journal.localFiles ∧
        (journal.commitLifecycleEvent ei serverTombstoneId).pendingRenameIntents =
          journal.pendingRenameIntents := by
      unfold JournalRepository.commitLifecycleEvent
      split <;> exact ⟨rfl, rfl⟩
    have hn : (journal.commitLifecycleEvent ei serverTombstoneId).openRenames
        localFileId = [] := by
      have hc : (journal.commitLifecycleEvent e.eventId
          serverTombstoneId).openRenames localFileId = [] := openRenames_commit hon
      rwa [← ho, hsd] at hc
    have hsa : (journal.commitLifecycleEvent ei
        serverTombstoneId).readPendingRenameIntentForLocalFile localFileId =
          some ⟨localFileId, reached, endpoint⟩ := by
      rw [JournalRepository.readPendingRenameIntentForLocalFile, hs.2]
      exact hi
    rw [hco]
    refine ⟨rebinds_commit hrs, ?_,
      stage_commitRebind (hk _ hs.1) hsa hn rfl⟩
    rw [FrozenLifecycleEvent.edge, hre, he, ht]

/-! ### The calls -/

theorem chainSound_init {start : Locator} {world : ChainWorld}
    (hi : (chainMachine localFileId start).Init world) :
    ChainSound localFileId start world := by
  obtain ⟨hs, ha, hno, hn⟩ := hi
  rw [JournalRepository.startsChain, Bool.and_eq_true, Bool.and_eq_true] at hs
  obtain ⟨⟨hf, hnt⟩, hng⟩ := hs
  obtain ⟨file, hfo, hpa⟩ := (Option.any_eq_true _ _).mp hf
  have hat : file.normalizedPath = start := beq_iff_eq.mp hpa
  have hq : ∀ e ∈ world.journal.journalEvents, e.localFileId = localFileId →
      e.state.isPending = true → e.operation.isContent = false → False := by
    intro e hm ho hp hl
    have he := List.all_eq_true.mp hng e hm
    rw [ho, hp, hl, beq_self_eq_true] at he
    cases he
  have hnn : world.journal.openRenames localFileId = [] := by
    refine List.filter_eq_nil_iff.mpr fun e hm hon => ?_
    rw [JournalRepository.isOpenRename, Bool.and_eq_true, Bool.and_eq_true] at hon
    obtain ⟨⟨ho, hr⟩, hp⟩ := hon
    refine hq e hm (beq_iff_eq.mp ho) hp ?_
    cases hop : e.operation <;> rw [hop] at hr <;> first | rfl | cases hr
  refine ⟨⟨file, start, hfo, ?_, ?_⟩, ?_, fun e hm ho hp hl =>
    (hq e hm ho hp hl).elim⟩
  · rw [ha, ← hat]
    exact .settled (Option.isNone_iff_eq_none.mp hnt) hnn
  · rw [hn]
    exact .nil
  · rw [hno, ha]
    exact .nil

theorem chainSound_step {start : Locator} {world w' : ChainWorld} {a : ChainAction}
    (hs : ChainSound localFileId start world)
    (how : world.owesReceipt a = true)
    (hv : (chainMachine localFileId start).step world a = some w') :
    ChainSound localFileId start w' := by
  obtain ⟨file, reached, hfo, hst, hc⟩ := hs.stage
  cases a with
  | observe next =>
    change world.step localFileId (.observe next) = some w' at hv
    rw [ChainWorld.step] at hv
    split at hv
    · cases hv
    next hu =>
      obtain ⟨j', ha, rfl⟩ := Option.map_eq_some_iff.mp hv
      obtain ⟨an, ho⟩ := answered_some ha
      obtain ⟨hss, hsa, hs'⟩ := stage_observe hfo hst (Bool.not_eq_true _ ▸ hu) ho
      have hf' : j'.readLocalFileByLocalFileId localFileId = some file := by
        rw [JournalRepository.readLocalFileByLocalFileId, hss]
        exact hfo
      have hr : PendingRebinds j' localFileId := by
        rw [PendingRebinds, hsa]
        exact hs.rebinds
      exact ⟨⟨file, reached, hf', hs', hc⟩, .snoc hs.observed, hr⟩
  | materialize c d =>
    obtain ⟨j', ha, rfl⟩ := Option.map_eq_some_iff.mp hv
    obtain ⟨an, hd⟩ := answered_some ha
    obtain ⟨hr, f', hf', hs'⟩ := stage_materialize hfo hst hs.rebinds hd
    exact ⟨⟨f', reached, hf', hs', hc⟩, hs.observed, hr⟩
  | receive ei serverTombstoneId =>
    change world.step localFileId (.receive ei serverTombstoneId) = some w' at hv
    rw [ChainWorld.step] at hv
    split at hv
    · cases hv
    next f hf =>
      split at hv
      · next hor =>
        obtain ⟨j', hac, rfl⟩ := Option.map_eq_some_iff.mp hv
        have hre := accepted_some hac
        have hp : f.event.state.isPending = true := by
          rw [ChainWorld.owesReceipt, (readLifecycleEvent_some hf).1] at how
          exact how
        obtain ⟨hr, he, f', hf', hs'⟩ := stage_receive hfo hst hs.rebinds
          hf (beq_iff_eq.mp hor) hp hre
        refine ⟨⟨f', file.normalizedPath, hf', hs', ?_⟩, hs.observed, hr⟩
        show EdgePath start (world.committed ++ f.edge) file.normalizedPath
        rw [he]
        exact .snoc hc
      · cases hv

end RenameChainsLemmas

/-! ## The chain of a file -/

structure RenameChain (localFileId : Nat) (start : Locator) (world : ChainWorld)
    (file : LocalFile) : Prop where
  isFile : world.journal.readLocalFileByLocalFileId localFileId = some file
  /-- The observed edges lead from the start to the last endpoint. -/
  observed : EdgePath start world.observed world.endpoint
  /-- An intent leads to the last endpoint. -/
  leadsOn : ∀ intent, world.journal.readPendingRenameIntentForLocalFile localFileId =
    some intent → intent.currentPath = world.endpoint
  /-- With nothing under way the file is where the intent starts. -/
  owed : ∀ intent, world.journal.readPendingRenameIntentForLocalFile localFileId = some intent →
    world.journal.openRenames localFileId = [] →
      file.normalizedPath = intent.priorPath ∧ intent.priorPath ≠ intent.currentPath
  /-- One prefix is under way at most: from where the intent starts to where the file is. -/
  inFlight : world.journal.openRenames localFileId ≠ [] → ∃ intent event stored,
    world.journal.readPendingRenameIntentForLocalFile localFileId = some intent ∧
      world.journal.openRenames localFileId = [event] ∧
      world.journal.readOperands event.eventId = some stored ∧
      stored.expectedLocator = some intent.priorPath ∧
      stored.targetLocator = some file.normalizedPath
  /-- Without an intent the file is at the last endpoint. -/
  settled : world.journal.readPendingRenameIntentForLocalFile localFileId = none →
    file.normalizedPath = world.endpoint
  /-- The committed edges form a path from the start, and the intent leads on from its end. -/
  composed : ∃ committedTo, EdgePath start world.committed committedTo ∧
    (∀ intent, world.journal.readPendingRenameIntentForLocalFile localFileId = some intent →
      intent.priorPath = committedTo) ∧
    (world.journal.readPendingRenameIntentForLocalFile localFileId = none →
      committedTo = world.endpoint)

namespace RenameChainsLemmas

variable {localFileId : Nat} {start : Locator} {world : ChainWorld}

theorem renameChain_of_sound (hso : ChainSound localFileId start world) :
    ∃ file, RenameChain localFileId start world file := by
  obtain ⟨file, reached, hf, hst, hc⟩ := hso.stage
  refine ⟨file, ?_⟩
  have ho := hso.observed
  generalize he : world.endpoint = endpoint at hst ho
  generalize hp : file.normalizedPath = path at hst
  have only {i} (hi : world.journal.readPendingRenameIntentForLocalFile localFileId = some i) row
      (hr : world.journal.readPendingRenameIntentForLocalFile localFileId = some row) : row = i :=
    Option.some.inj (hr.symm.trans hi)
  cases hst with
  | settled hn hno =>
    exact {
      isFile := hf
      observed := he ▸ ho
      leadsOn := fun hi hin => nomatch hn.symm.trans hin
      owed := fun hi hin => nomatch hn.symm.trans hin
      inFlight := fun hs => absurd hno hs
      settled := fun _ => hp.trans he.symm
      composed := ⟨_, hc, fun _ hin => (nomatch hn.symm.trans hin),
        fun _ => he.symm⟩ }
  | owed hi hno ha =>
    have hon := only hi
    exact {
      isFile := hf
      observed := he ▸ ho
      leadsOn := fun row hr => by rw [hon row hr, he]
      owed := fun row hr _ => by rw [hon row hr]; exact ⟨hp, ha⟩
      inFlight := fun hs => absurd hno hs
      settled := fun hn => nomatch hn.symm.trans hi
      composed := ⟨_, hc, fun row hr => by rw [hon row hr],
        fun hn => (nomatch hn.symm.trans hi)⟩ }
  | inFlight hi hone hop hex ht =>
    have hon := only hi
    exact {
      isFile := hf
      observed := he ▸ ho
      leadsOn := fun row hr => by rw [hon row hr, he]
      owed := fun _ _ hno => nomatch hone.symm.trans hno
      inFlight := fun _ =>
        ⟨_, _, _, hi, hone, hop, hex, ht.trans (congrArg some hp.symm)⟩
      settled := fun hn => nomatch hn.symm.trans hi
      composed := ⟨_, hc, fun row hr => by rw [hon row hr],
        fun hn => (nomatch hn.symm.trans hi)⟩ }

end RenameChainsLemmas

open RenameChainsLemmas in
/-- Along every run whose receipts are for pending events the renames of a file compose. -/
theorem rename_chain_composes {localFileId : Nat} {start : Locator} {world : ChainWorld}
    (reached : (chainMachine localFileId start).GuardedReachable
      (fun world action => world.owesReceipt action = true) world) :
    ∃ file, RenameChain localFileId start world file :=
  renameChain_of_sound (reached.invariant (fun _ hi => chainSound_init hi)
    fun _ _ _ hs ho hv => chainSound_step hs ho hv)

/-! ## A run of one note -/

def trackedNote : JournalRepository :=
  ((journalMachine.run .start (trackFile 1 "a.md" 10)).map (·.journal)).getD .empty

def ChainWorld.ofNote : ChainWorld where
  journal := trackedNote
  endpoint := "a.md"
  observed := []
  committed := []

theorem trackedNote_starts : (chainMachine 1 "a.md").Init .ofNote := by
  refine ⟨?_, rfl, rfl, rfl⟩
  decide +kernel

/-- The note is renamed while its first rename is under way. -/
def renameTwice : List ChainAction :=
  [.observe "b.md", .materialize (sampleFingerprint "aa") (sampleDraw 1 11), .observe "c.md",
    .receive 11 none]

/-- A note is renamed twice, and the first rename is committed. -/
theorem rename_chain_composes_twice : ∃ world : ChainWorld,
    (chainMachine 1 "a.md").run .ofNote renameTwice = some world ∧
      world.committed = [("a.md", "b.md")] ∧ world.endpoint = "c.md" ∧
      ∃ file, RenameChain 1 "a.md" world file := by
  have ho : ((chainMachine 1 "a.md").run .ofNote renameTwice).map (fun world =>
      (world.committed, world.endpoint)) = some ([("a.md", "b.md")], "c.md") := by
    decide +kernel
  have hch : (chainMachine 1 "a.md").runChecks ChainWorld.owesReceipt .ofNote
      renameTwice = true := by decide +kernel
  obtain ⟨world, ran, hs⟩ := Option.map_eq_some_iff.mp ho
  obtain ⟨hc, he⟩ := Prod.mk.inj hs
  exact ⟨world, ran, hc, he, rename_chain_composes
    (Machine.guardedReachable_of_run (fun _ _ => id) trackedNote_starts ran hch)⟩

/-- The note is renamed there and back, and again; then the first receipt is repeated. -/
def repeatReceipt : List ChainAction :=
  [.observe "b.md", .materialize (sampleFingerprint "aa") (sampleDraw 1 11), .receive 11 none,
    .observe "a.md", .materialize (sampleFingerprint "aa") (sampleDraw 1 12), .receive 12 none,
    .observe "b.md", .receive 11 none]

open RenameChainsLemmas in
/-- A receipt repeated for a committed rename drops the intent: the note stays where it was and
nothing leads on to the last endpoint. -/
theorem late_receipt_drops_intent : ∃ world : ChainWorld,
    (chainMachine 1 "a.md").Reachable world ∧ ¬ ∃ file, RenameChain 1 "a.md" world file := by
  have ho : ((chainMachine 1 "a.md").run .ofNote repeatReceipt).map (fun world =>
      ((world.journal.readLocalFileByLocalFileId 1).map (·.normalizedPath), world.endpoint,
        world.journal.readPendingRenameIntentForLocalFile 1)) =
          some (some "a.md", "b.md", none) := by
    decide +kernel
  obtain ⟨world, ran, hs⟩ := Option.map_eq_some_iff.mp ho
  simp only [Prod.mk.injEq] at hs
  obtain ⟨hp, he, hn⟩ := hs
  refine ⟨world, Machine.reachable_of_run trackedNote_starts ran, fun ⟨file, hc⟩ => ?_⟩
  have ha := hc.settled hn
  rw [hc.isFile, Option.map_some, Option.some.injEq, ha, he] at hp
  exact absurd hp (by decide +kernel)

end PersonalOs.Journal
