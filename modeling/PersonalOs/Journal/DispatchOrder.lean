import PersonalOs.Journal.JournalMachine

/-!
# The order of dispatch within one file

The two selectors serve the oldest event they admit. An event that waits for a retry time, or for
a predecessor, is not admitted and a younger event of its file can be served before it. No file is
served out of order in a run that never parks an event with a younger one behind it, never
records an event behind one that cannot be served, and takes a content event only when the
lifecycle lane has none of its file to serve.
-/

namespace PersonalOs.Journal

open PersonalOs.DeviceSync (Locator)

namespace JournalRepository

variable (journal : JournalRepository)

/-- The lane of the event admits it at every clock value. -/
def isReady (event : StoredJournalEvent) : Bool :=
  (event.state.isStarted ||
      event.state == .queued && event.nextEligibleRetryEpochMs.isNone) &&
    (event.operation.isContent ||
      (journal.readOperands event.eventId).any journal.isPredecessorCommitted)

def allPendingOf (localFileId : Nat) (test : StoredJournalEvent → Bool) : Bool :=
  journal.journalEvents.all fun row =>
    !(row.localFileId == localFileId && row.state.isPending) || test row

def isYoungestPending (eventId : Nat) : Bool :=
  (journal.readEvent eventId).all fun event =>
    journal.allPendingOf event.localFileId fun row => row.age ≤ event.age

/-- The lifecycle lane has no event of the file to serve. -/
def isLifecycleIdleFor (nowEpochMs localFileId : Nat) : Bool :=
  journal.journalEvents.all fun row =>
    row.localFileId != localFileId || !journal.admitsLifecycle nowEpochMs row

end JournalRepository

/-- An event is parked only when it is the youngest pending one of its file, and recorded only
behind pending events its file's lanes can serve. A lifecycle event freezes the content events it
is recorded behind. -/
def JournalWorld.undisturbed (world : JournalWorld) : JournalAction → Bool
  | .recordCapture input draw =>
    (world.journal.captureCoalesces input draw).isSome || input.admission != .policyAllowed ||
      world.journal.allPendingOf (world.journal.captureFileId input draw) world.journal.isReady
  | .markEventWaitingRetry eventId _ _ => world.journal.isYoungestPending eventId
  | .resolveLocalFileMissing eventId _ _ =>
    !world.journal.parksMissing eventId || world.journal.isYoungestPending eventId
  | .recordLifecycleEventWithFreeze localFileId _ _ _ _
  | .recordPendingRenameLifecycleEvent localFileId _ _ =>
    world.journal.allPendingOf localFileId fun row =>
      row.operation.isContent || world.journal.isReady row
  | _ => true

/-! ## The order -/

abbrev Owed (row : StoredJournalEvent) : Prop := row.state.isPending = true

/-- An event its lane serves at every clock value. -/
def Ready (journal : JournalRepository) (row : StoredJournalEvent) : Prop :=
  StateReady row ∧ ∀ eventId, journal.predecessorOf row.eventId = some (some eventId) →
    CommittedIn journal row.localFileId eventId

/-- What the order of a file rests on. -/
structure Ordered (world : JournalWorld) : Prop extends world.Sound where
  operandsIssued : ∀ stored ∈ world.journal.lifecycleOperands,
    stored.eventId ∈ world.issuedEventIds
  predecessorsIssued : ∀ stored ∈ world.journal.lifecycleOperands,
    ∀ eventId ∈ stored.predecessorEventId, eventId ∈ world.issuedEventIds
  created : ∀ row ∈ world.journal.journalEvents, row.createdAtEpochMs ≤ world.nowEpochMs
  lanes : ∀ row ∈ world.journal.journalEvents,
    row.operation.isContent = (world.journal.predecessorOf row.eventId).isNone
  ownPredecessor : ∀ row ∈ world.journal.journalEvents, ∀ eventId,
    world.journal.predecessorOf row.eventId = some (some eventId) →
      ∀ other ∈ world.journal.journalEvents, other.eventId = eventId →
        other.localFileId = row.localFileId
  lifecycleFirst : ∀ row ∈ world.journal.journalEvents, ∀ other ∈ world.journal.journalEvents,
    Owed row → Owed other → row.localFileId = other.localFileId →
      row.operation.isContent = true → other.operation.isContent = false → other.age < row.age
  inOrder : Lanes.InOrder (·.age) (·.localFileId) Owed (Ready world.journal)
    world.journal.journalEvents

namespace DispatchOrderLemmas

variable {world world' : JournalWorld} {journal before after : JournalRepository}
  {row row' new : StoredJournalEvent} {localFileId : Nat}

theorem exists_of_any {α : Type} {an : Option α} {t : α → Bool}
    (hh : an.any t = true) : ∃ a, an = some a ∧ t a = true := by
  cases an with
  | none => contradiction
  | some a => exact ⟨a, rfl, hh⟩

theorem hasOperands_iff (eventId : Nat) :
    journal.hasOperands eventId = (journal.predecessorOf eventId).isSome := by
  unfold JournalRepository.hasOperands JournalRepository.predecessorOf
    JournalRepository.readOperands Tables.lookup
  rw [Option.isSome_map, List.isSome_find?]
  refine congrArg (List.any _) (funext fun sd => ?_)
  exact beq_eq_decide _ _

theorem stateReady_iff : StateReady row ↔ (row.state.isStarted ||
    row.state == .queued && row.nextEligibleRetryEpochMs.isNone) = true := by
  simp [StateReady]

variable {eventId nowEpochMs : Nat} {issuedEventIds : List Nat} {draw : Draw}
  {operands : Option StoredOperands} {middle : JournalRepository} {action : JournalAction}

theorem committedIn_of_committed (own : ∀ o ∈ journal.journalEvents, o.eventId = eventId →
      o.localFileId = localFileId)
    (hc : (journal.readEvent eventId).any (·.state == .committed) = true) :
    CommittedIn journal localFileId eventId := by
  obtain ⟨o, hf, hco⟩ := exists_of_any hc
  have hs := Tables.mem_of_lookup hf
  have he : o.eventId = eventId := Tables.key_of_lookup hf
  exact ⟨o, hs, he, own o hs he, beq_iff_eq.mp hco⟩

theorem committed_of_committedIn (hu : UniqueEvents journal)
    (hco : CommittedIn journal localFileId eventId) :
    (journal.readEvent eventId).any (·.state == .committed) = true := by
  obtain ⟨o, hs, he, _, hc⟩ := hco
  have hf : journal.readEvent eventId = some o := hu.lookup_iff.mpr ⟨hs, he⟩
  rw [hf, Option.any_some, hc]
  rfl

theorem ready_iff (ho : Ordered world) (hs : row ∈ world.journal.journalEvents) :
    world.journal.isReady row = true ↔ Ready world.journal row := by
  have hl := ho.lanes row hs
  have own := ho.ownPredecessor row hs
  rw [Ready, stateReady_iff, JournalRepository.isReady, Bool.and_eq_true]
  refine and_congr_right fun _ => ?_
  rw [hl]
  unfold JournalRepository.predecessorOf at own ⊢
  cases operands : world.journal.readOperands row.eventId with
  | none => simp
  | some f =>
    rw [operands] at own
    unfold JournalRepository.isPredecessorCommitted
    cases hn : f.predecessorEventId with
    | none => simp [hn]
    | some eventId =>
      -- the named event counts only as a committed event of the same file
      have how := own eventId (by rw [Option.map_some, hn])
      simp only [Option.map_some, hn, Option.isNone_some, Bool.false_or, Option.any_some,
        Option.all_some, Option.some.injEq, forall_eq']
      exact ⟨committedIn_of_committed how, committed_of_committedIn ho.unique⟩

theorem allPendingOf_iff {t : StoredJournalEvent → Bool} :
    journal.allPendingOf localFileId t = true ↔ ∀ row ∈ journal.journalEvents,
      row.localFileId = localFileId → Owed row → t row = true := by
  simp only [JournalRepository.allPendingOf, List.all_eq_true, Bool.or_eq_true,
    Bool.not_eq_true', Bool.and_eq_false_iff, beq_eq_false_iff_ne]
  refine forall₂_congr fun row _ => ?_
  rw [Owed]
  cases row.state.isPending <;> by_cases he : row.localFileId = localFileId <;> simp [he]

/-! ## Steps without a new event -/

/-- Events that stem from ordered events are ordered when those with a younger one behind them
stay ready. -/
theorem ordered_of_stems {P : StoredJournalEvent → StoredJournalEvent → Prop}
    (ho : Ordered world) (hst : Stems P world.journal after)
    (hkt : ∀ row row', P row row' → RowKept row row') (hla : world.nowEpochMs ≤ nowEpochMs)
    (his : ∀ eventId ∈ world.issuedEventIds, eventId ∈ issuedEventIds)
    (hrea : ∀ row ∈ world.journal.journalEvents, ∀ row' ∈ after.journalEvents, P row row' →
      Owed row' → StateReady row → (∃ y ∈ after.journalEvents, Owed y ∧
        y.localFileId = row'.localFileId ∧ row'.age < y.age) → StateReady row') :
    Ordered ⟨after, nowEpochMs, issuedEventIds⟩ := by
  refine ⟨⟨hst.unique ho.unique, fun row' hm => ?_⟩, fun sd' hm => ?_,
    fun sd' hm eventId hn => ?_, fun row' hm => ?_, fun row' hm => ?_,
    fun row' hm eventId hn o' hi hot => ?_,
    fun row' hm o' hi hod how he hc hl => ?_,
    ho.inOrder.image fun row' hm => ?_⟩
  · obtain ⟨row, hs, hr⟩ := hst.rows row' hm
    rw [(hkt row row' hr).eventId]
    exact his _ (ho.issued row hs)
  · obtain ⟨hs, hi, hsd, _⟩ := hst.operands sd' hm
    exact his _ (hsd ▸ ho.operandsIssued hs hi)
  · obtain ⟨hs, hi, _, hsa⟩ := hst.operands sd' hm
    exact his _ (ho.predecessorsIssued hs hi eventId (hsa ▸ hn))
  · obtain ⟨row, hs, hr⟩ := hst.rows row' hm
    rw [(hkt row row' hr).createdAt]
    exact (ho.created row hs).trans hla
  · obtain ⟨row, hs, hr⟩ := hst.rows row' hm
    have hke := hkt row row' hr
    rw [hke.isContent, hst.predecessor row' hm, hke.eventId]
    exact ho.lanes row hs
  · obtain ⟨row, hs, hr⟩ := hst.rows row' hm
    obtain ⟨o, hsr, hre⟩ := hst.rows o' hi
    have hke := hkt row row' hr
    have hk := hkt o o' hre
    rw [hst.predecessor row' hm, hke.eventId] at hn
    rw [hke.localFileId, hk.localFileId]
    exact ho.ownPredecessor row hs eventId hn o hsr (hk.eventId.symm.trans hot)
  · obtain ⟨row, hs, hr⟩ := hst.rows row' hm
    obtain ⟨o, hsr, hre⟩ := hst.rows o' hi
    have hke := hkt row row' hr
    have hk := hkt o o' hre
    rw [hke.localFileId, hk.localFileId] at he
    rw [hke.isContent] at hc
    rw [hk.isContent] at hl
    rw [hke.age, hk.age]
    exact ho.lifecycleFirst row hs o hsr (hke.pending hod) (hk.pending how) he hc hl
  · obtain ⟨row, hs, hr⟩ := hst.rows row' hm
    have hke := hkt row row' hr
    refine ⟨row, hs, hke.age, hke.localFileId, hke.pending, fun hod hry hb =>
      ⟨hrea row hs row' hm hr hod hry.1 hb, fun eventId hn => ?_⟩⟩
    rw [hst.predecessor row' hm, hke.eventId] at hn
    refine hst.committed row' hm eventId ?_
    rw [hke.localFileId]
    exact hry.2 eventId hn

theorem ordered_of_quiet (ho : Ordered world) (hq : Quiet world.journal after)
    (hl : world.nowEpochMs ≤ nowEpochMs)
    (hi : ∀ eventId ∈ world.issuedEventIds, eventId ∈ issuedEventIds) :
    Ordered ⟨after, nowEpochMs, issuedEventIds⟩ :=
  ordered_of_stems ho hq (fun _ _ hr => hr.toRowKept) hl hi
    fun _ _ _ _ hr how hre _ => hr.ready how hre

theorem ordered_of_parked (ho : Ordered world) (hss : Stems (RowParked eventId) world.journal after)
    (hy : world.journal.isYoungestPending eventId = true)
    (hl : world.nowEpochMs ≤ nowEpochMs)
    (his : ∀ eventId ∈ world.issuedEventIds, eventId ∈ issuedEventIds) :
    Ordered ⟨after, nowEpochMs, issuedEventIds⟩ := by
  refine ordered_of_stems ho hss (fun _ _ hre => hre.1.1) hl his
    fun row hsd row' hm hre hod hry hb => ?_
  by_cases hp : row.eventId = eventId
  · -- a younger pending event of the file would have kept this one from being parked
    obtain ⟨y', hi, how, hs, hol⟩ := hb
    obtain ⟨y, hst, hr⟩ := hss.rows y' hi
    have hf : world.journal.readEvent eventId = some row := ho.unique.lookup_iff.mpr ⟨hsd, hp⟩
    rw [JournalRepository.isYoungestPending, hf, Option.all_some, allPendingOf_iff] at hy
    rw [hr.1.1.localFileId, hre.1.1.localFileId] at hs
    have hn := hy y hst hs (hr.1.1.pending how)
    rw [hre.1.1.age, hr.1.1.age] at hol
    exact absurd (of_decide_eq_true hn) (not_le.mpr hol)
  · exact (hre.2 hp).ready hod hry

/-! ## Steps that record an event -/

theorem le_foldl_max (nu : List Nat) (s : Nat) :
    s ≤ nu.foldl max s ∧ ∀ n ∈ nu, n ≤ nu.foldl max s := by
  induction nu generalizing s with
  | nil => exact ⟨le_refl s, nofun⟩
  | cons x r ih =>
    obtain ⟨hf, hfr⟩ := ih (max s x)
    refine ⟨(le_max_left s x).trans hf, fun n hm => ?_⟩
    rcases List.mem_cons.mp hm with rfl | hi
    · exact (le_max_right s n).trans hf
    · exact hfr n hi

theorem rowid_lt_nextRowid (hs : row ∈ journal.journalEvents) : row.rowid < journal.nextRowid :=
  Nat.lt_succ_of_le ((le_foldl_max _ 0).2 row.rowid (List.mem_map_of_mem hs))

theorem age_lt_joined (hj : Joins before new operands draw after)
    (hc : row.createdAtEpochMs ≤ draw.nowEpochMs) (hst : row ∈ before.journalEvents) :
    row.age < new.age := by
  refine Prod.Lex.toLex_lt_toLex.mpr ?_
  rw [hj.createdAt, hj.rowid]
  rcases hc.lt_or_eq with he | hs
  · exact .inl he
  · exact .inr ⟨hs, rowid_lt_nextRowid hst⟩

theorem predecessorOf_joined_old (hj : Joins before new operands draw after)
    (hot : eventId ≠ draw.eventId) :
    after.predecessorOf eventId = before.predecessorOf eventId := by
  unfold JournalRepository.predecessorOf JournalRepository.readOperands
  rw [hj.lifecycleOperands]
  cases ho : operands with
  | none => rw [Option.toList_none, List.append_nil]
  | some sd =>
    have hd := hj.operandsOf sd (Option.mem_def.mpr ho)
    rw [Option.toList_some, Tables.lookup_snoc_other (hd ▸ hot.symm)]

theorem predecessorOf_joined_new (hj : Joins before new operands draw after)
    (hf : ∀ sd ∈ before.lifecycleOperands, sd.eventId ≠ draw.eventId) :
    after.predecessorOf draw.eventId = operands.map (·.predecessorEventId) := by
  unfold JournalRepository.predecessorOf JournalRepository.readOperands
  rw [hj.lifecycleOperands]
  have hm : ∀ eventId, eventId = draw.eventId →
      Tables.lookup (·.eventId) before.lifecycleOperands eventId = none := by
    rintro eventId rfl
    exact Tables.lookup_none_iff.mpr hf
  cases ho : operands with
  | none =>
    rw [Option.toList_none, List.append_nil, hm _ rfl]
  | some sd =>
    have hd := hj.operandsOf sd (Option.mem_def.mpr ho)
    rw [Option.toList_some, ← hd, Tables.lookup_snoc_new (hm _ hd)]

theorem ordered_of_joined (ho : Ordered ⟨middle, nowEpochMs, issuedEventIds⟩)
    (hj : Joins middle new operands draw after) (hfr : draw.eventId ∉ issuedEventIds)
    (hd : draw.nowEpochMs = nowEpochMs)
    (own : ∀ hs ∈ operands, ∀ eventId ∈ hs.predecessorEventId,
      ∃ row ∈ middle.journalEvents, row.eventId = eventId ∧ row.localFileId = new.localFileId)
    (hfn : new.operation.isContent = false → ∀ row ∈ middle.journalEvents,
      row.localFileId = new.localFileId → row.operation.isContent = true → ¬ Owed row)
    (hsd : Owed new → ∀ row ∈ middle.journalEvents, Owed row →
      row.localFileId = new.localFileId → Ready middle row) :
    Ordered ⟨after, nowEpochMs, draw.eventId :: issuedEventIds⟩ := by
  have hr : ∀ row ∈ after.journalEvents, row ∈ middle.journalEvents ∨ row = new := by
    intro row hm
    rw [hj.events] at hm
    exact (List.mem_append.mp hm).imp id List.mem_singleton.mp
  have hold : ∀ row ∈ middle.journalEvents, row.eventId ≠ draw.eventId :=
    fun row hs hsa => hfr (hsa ▸ ho.issued row hs)
  have hol : ∀ row ∈ middle.journalEvents,
      after.predecessorOf row.eventId = middle.predecessorOf row.eventId :=
    fun row hs => predecessorOf_joined_old hj (hold row hs)
  have hne : after.predecessorOf new.eventId = operands.map (·.predecessorEventId) := by
    rw [hj.eventId]
    exact predecessorOf_joined_new hj fun hs hi hsa =>
      hfr (hsa ▸ ho.operandsIssued hs hi)
  have hop : ∀ hs ∈ after.lifecycleOperands,
      hs ∈ middle.lifecycleOperands ∨ hs ∈ operands := by
    intro hs hm
    rw [hj.lifecycleOperands] at hm
    exact (List.mem_append.mp hm).imp id Option.mem_toList.mp
  have hy : ∀ row ∈ middle.journalEvents, row.age < new.age := fun row hs =>
    age_lt_joined hj (hd ▸ ho.created row hs) hs
  have hrr : ∀ row ∈ middle.journalEvents, Ready middle row → Ready after row := by
    refine fun row hs hre => ⟨hre.1, fun eventId hn => ?_⟩
    rw [hol row hs] at hn
    obtain ⟨o, hi, hco⟩ := hre.2 eventId hn
    exact ⟨o, hj.events ▸ List.mem_append_left _ hi, hco⟩
  have hu : UniqueEvents after := by
    rw [UniqueEvents, hj.events]
    exact ho.unique.snoc
      (Tables.lookup_none_iff.mpr fun row hs => hj.eventId ▸ hold row hs)
  refine ⟨⟨hu, fun row hm => ?_⟩, fun hs hm => ?_,
    fun hs hm eventId hn => ?_, fun row hm => ?_, fun row hm => ?_,
    fun row hm eventId hn o hi hot => ?_,
    fun row hm o hi hod how hsa hc hl => ?_, ?_⟩
  · rcases hr row hm with hs | rfl
    · exact List.mem_cons_of_mem _ (ho.issued row hs)
    · exact hj.eventId ▸ List.mem_cons_self
  · rcases hop hs hm with hi | hnw
    · exact List.mem_cons_of_mem _ (ho.operandsIssued hs hi)
    · exact hj.operandsOf hs hnw ▸ List.mem_cons_self
  · refine List.mem_cons_of_mem _ ?_
    rcases hop hs hm with hi | hnw
    · exact ho.predecessorsIssued hs hi eventId hn
    · obtain ⟨row, hi, he, _⟩ := own hs hnw eventId hn
      exact he ▸ ho.issued row hi
  · rcases hr row hm with hs | rfl
    · exact ho.created row hs
    · exact le_of_eq (hj.createdAt.trans hd)
  · rcases hr row hm with hs | rfl
    · rw [hol row hs]
      exact ho.lanes row hs
    · rw [hne, hj.isContent, Option.isNone_map]
  · rcases hr row hm with hs | rfl
    · rw [hol row hs] at hn
      rcases hr o hi with hst | rfl
      · exact ho.ownPredecessor row hs eventId hn o hst hot
      · -- a predecessor has been issued before, so the new event is none
        obtain ⟨f, hf, hna⟩ := Option.map_eq_some_iff.mp hn
        have his := ho.predecessorsIssued f (Tables.mem_of_lookup hf) eventId hna
        exact absurd his (hot ▸ hj.eventId ▸ hfr)
    · rw [hne] at hn
      obtain ⟨f, hf, hna⟩ := Option.map_eq_some_iff.mp hn
      obtain ⟨own, hsn, he, hse⟩ := own f hf eventId hna
      rw [hu.eq_of_key hi (hj.events ▸ List.mem_append_left _ hsn)
        (hot.trans he.symm)]
      exact hse
  · rcases hr o hi with hst | rfl
    · rcases hr row hm with hs | rfl
      · exact ho.lifecycleFirst row hs o hst hod how hsa hc
          hl
      · exact hy o hst
    · rcases hr row hm with hs | rfl
      · exact absurd hod (hfn hl row hs hsa hc)
      · rw [hc] at hl
        contradiction
  · rw [hj.events]
    refine Lanes.InOrder.snoc ?_ hy fun howe row hs hod hsa =>
      hrr row hs (hsd howe row hs hod hsa)
    exact ho.inOrder.image fun row hs =>
      ⟨row, hs, rfl, rfl, id, fun _ hre _ => hrr row hs hre⟩

theorem ready_of_quiet (hq : Quiet before after)
    (hre : ∀ row ∈ before.journalEvents, RowQuiet row row' → Ready before row)
    (hm : row' ∈ after.journalEvents) (ho : Owed row') : Ready after row' := by
  obtain ⟨row, hs, hk⟩ := hq.rows row' hm
  have hr := hre row hs hk
  refine ⟨hk.ready ho hr.1, fun eventId hn => ?_⟩
  rw [hq.predecessor row' hm, hk.eventId] at hn
  refine hq.committed row' hm eventId ?_
  rw [hk.localFileId]
  exact hr.2 eventId hn

theorem ordered_of_captured {i : JournalCaptureInput} (ho : Ordered world)
    (hu : world.undisturbed (.recordCapture i draw) = true)
    (ha : world.allowsDraw (.recordCapture i draw) = true)
    (hn : world.journal.captureCoalesces i draw = none) (hq : Quiet world.journal middle)
    (hj : Joins middle new none draw after)
    (hfi : new.localFileId = world.journal.captureFileId i draw)
    (hb : new.state = i.admission.birth.1) :
    Ordered ⟨after, world.nowEpochMs, draw.eventId :: world.issuedEventIds⟩ := by
  obtain ⟨hf, hd⟩ := draw_fresh ha rfl
  refine ordered_of_joined (ordered_of_quiet ho hq (le_refl _) fun _ => id) hj hf
    hd nofun (fun hl => ?_) fun hod row' hm how he => ?_
  · rw [hj.isContent] at hl
    contradiction
  · refine ready_of_quiet hq (fun row hst hk => ?_) hm how
    have had : i.admission = .policyAllowed := by
      rw [Owed, hb] at hod
      revert hod
      cases i.admission <;> decide
    simp only [JournalWorld.undisturbed, hn, had, Option.isSome_none, bne_self_eq_false,
      Bool.false_or, allPendingOf_iff] at hu
    have hs := hk.localFileId.symm.trans (he.trans hfi)
    exact (ready_iff ho hst).mp (hu row hst hs (hk.pending how))

theorem served_of_undisturbed (hu : world.undisturbed action = true)
    (hf : action.lifecycleFile = some localFileId) : ∀ row ∈ world.journal.journalEvents,
      row.localFileId = localFileId → Owed row →
        (row.operation.isContent || world.journal.isReady row) = true := by
  unfold JournalAction.lifecycleFile at hf
  split at hf
  · cases hf
    exact allPendingOf_iff.mp hu
  · cases hf
    exact allPendingOf_iff.mp hu
  · exact nomatch hf

theorem nextClock_of_recorded (hf : action.lifecycleFile = some localFileId) :
    world.nextClock action = world.nowEpochMs := by
  unfold JournalAction.lifecycleFile at hf
  split at hf
  · rfl
  · rfl
  · exact nomatch hf

theorem ordered_of_recorded {operands : StoredOperands} (hor : Ordered world)
    (hse : ∀ row ∈ world.journal.journalEvents, row.localFileId = localFileId → Owed row →
      (row.operation.isContent || world.journal.isReady row) = true)
    (hfr : draw.eventId ∉ world.issuedEventIds) (hd : draw.nowEpochMs = world.nowEpochMs)
    (hq : Quiet world.journal middle)
    (hf : ∀ row ∈ middle.journalEvents, row.localFileId = localFileId →
      row.operation.isContent = true → row.state.isPending = false)
    (own : ∀ eventId, operands.predecessorEventId = some eventId →
      ∃ row ∈ middle.journalEvents, row.eventId = eventId ∧ row.localFileId = localFileId)
    (hj : Joins middle new (some operands) draw after) (hn : new.localFileId = localFileId)
    :
    Ordered ⟨after, world.nowEpochMs, draw.eventId :: world.issuedEventIds⟩ := by
  refine ordered_of_joined (ordered_of_quiet hor hq (le_refl _) fun _ => id) hj hfr
    hd (fun hst hne eventId hna => ?_) (fun _ row' hm he hc ho => ?_)
    fun _ row' hm ho he => ?_
  · cases hne
    rw [hn]
    exact own eventId hna
  · rw [Owed, hf row' hm (he.trans hn) hc] at ho
    contradiction
  · refine ready_of_quiet hq (fun row hst hk => ?_) hm ho
    have hs := hse row hst (hk.localFileId.symm.trans (he.trans hn)) (hk.pending ho)
    -- pending content has been frozen, so what is still pending is a lifecycle event
    cases hc : row.operation.isContent with
    | true =>
      have hcl := hf row' hm (he.trans hn) (hk.isContent.trans hc)
      rw [Owed, hcl] at ho
      contradiction
    | false =>
      rw [hc, Bool.false_or] at hs
      exact (ready_iff hor hst).mp hs

theorem clock_le : world.nowEpochMs ≤ world.nextClock action := by
  unfold JournalWorld.nextClock
  split
  · exact Nat.le_add_right _ _
  · exact le_refl _

end DispatchOrderLemmas

open DispatchOrderLemmas

theorem Ordered.step {world world' : JournalWorld} {action : JournalAction}
    (ho : Ordered world) (hu : world.undisturbed action = true)
    (hv : world.step action = some world') : Ordered world' := by
  obtain ⟨ha, hm, hc, hi⟩ := step_some hv
  obtain ⟨j', ne', ie'⟩ := world'
  dsimp only at hm hc hi
  rw [hc, hi]
  have hmo := moves_of_mutate ho.unique hm
  have hk : ∀ eventId ∈ world.issuedEventIds,
      eventId ∈ (action.draw.map (·.eventId)).toList ++ world.issuedEventIds :=
    fun eventId hme => List.mem_append_right _ hme
  cases hmo with
  | quiet hq => exact ordered_of_quiet ho hq clock_le hk
  | parked hs => exact ordered_of_parked ho hs hu clock_le hk
  | parkedMissing hp hs =>
    rw [JournalWorld.undisturbed, hp, Bool.not_true, Bool.false_or] at hu
    exact ordered_of_parked ho hs hu clock_le hk
  | received hs =>
    exact ordered_of_stems ho hs (fun _ _ hr => hr.1.toRowKept) clock_le hk
      fun _ _ _ _ hr how hre _ => hr.1.ready how hre
  | captured hne hq hj hf hb =>
    exact ordered_of_captured ho hu ha hne hq hj hf hb
  | recorded hf hdr hq hfr own hj hn =>
    obtain ⟨hfh, hd⟩ := draw_fresh ha hdr
    rw [nextClock_of_recorded hf, hdr]
    exact ordered_of_recorded ho (served_of_undisturbed hu hf) hfh hd hq
      hfr own hj hn

variable {world : JournalWorld} {nowEpochMs : Nat}

theorem ordered_of_init (hi : journalMachine.Init world) : Ordered world := by
  have he : world.journal = .empty := hi
  have hn : ∀ row, row ∉ world.journal.journalEvents := by
    rw [he]
    exact fun _ => List.not_mem_nil
  have hno : ∀ sd, sd ∉ world.journal.lifecycleOperands := by
    rw [he]
    exact fun _ => List.not_mem_nil
  refine ⟨⟨?_, fun row hm => absurd hm (hn row)⟩, fun sd hm => absurd hm (hno sd),
    fun sd hm => absurd hm (hno sd),
    fun row hm => absurd hm (hn row), fun row hm => absurd hm (hn row),
    fun row hm => absurd hm (hn row), fun row hm => absurd hm (hn row),
    fun row hm => absurd hm (hn row)⟩
  rw [he]
  exact List.nodup_nil

/-! ## The order of the selectors -/

section Selectors

variable {world : JournalWorld} {event old : StoredJournalEvent}

def OldestOf (journal : JournalRepository) (lane : StoredJournalEvent → Prop)
    (event : StoredJournalEvent) : Prop :=
  ∀ old ∈ journal.journalEvents, old.localFileId = event.localFileId → Owed old → lane old →
    ¬ old.age < event.age

variable {nowEpochMs : Nat} {journal : JournalRepository}

theorem owed_of_isEligible (he : JournalRepository.isEligible nowEpochMs event = true) :
    Owed event := by
  unfold JournalRepository.isEligible at he
  rw [Owed]
  cases hs : event.state
  all_goals first
    | rfl
    | (rw [hs] at he; exact absurd he (by simp [JournalEventState.isCoalescable,
        JournalEventState.isStarted]))

theorem isEligible_of_ready (hr : StateReady event) (nowEpochMs : Nat) :
    JournalRepository.isEligible nowEpochMs event = true := by
  unfold JournalRepository.isEligible JournalRepository.isRetryDue
  rcases hr with hs | ⟨hq, hu⟩
  · rw [hs, Bool.or_true]
  · rw [hq, hu]
    rfl

theorem readOldestEligibleEvent_some
    (hs : journal.readOldestEligibleEvent nowEpochMs = some event) :
    event ∈ journal.journalEvents ∧ JournalRepository.isEligible nowEpochMs event = true ∧
      journal.predecessorOf event.eventId = none := by
  obtain ⟨hst, ha, _⟩ := Lanes.oldest_spec hs
  rw [JournalRepository.admitsContent, Bool.and_eq_true, hasOperands_iff, Bool.not_eq_true',
    Option.isSome_eq_false_iff, Option.isNone_iff_eq_none] at ha
  exact ⟨hst, ha⟩

theorem readOldestEligibleLifecycleEvent_some {f : FrozenLifecycleEvent}
    (hs : journal.readOldestEligibleLifecycleEvent nowEpochMs = .ok (some f)) :
    Lanes.oldest (·.age) (journal.admitsLifecycle nowEpochMs) journal.journalEvents =
      some f.event := by
  unfold JournalRepository.readOldestEligibleLifecycleEvent at hs
  split at hs
  · exact nomatch hs
  · obtain ⟨event, ho, hj⟩ := Option.bind_eq_some_iff.mp (Except.ok.inj hs)
    obtain ⟨operands, _, rfl⟩ := Option.map_eq_some_iff.mp hj
    exact ho

theorem admitsContent_of_ready (ho : Ordered world) (hs : old ∈ world.journal.journalEvents)
    (hc : old.operation.isContent = true) (hr : Ready world.journal old)
    (nowEpochMs : Nat) : world.journal.admitsContent nowEpochMs old = true := by
  have hl := ho.lanes old hs
  rw [JournalRepository.admitsContent, isEligible_of_ready hr.1, hasOperands_iff, Bool.true_and]
  rw [hc] at hl
  rw [Option.isNone_iff_eq_none.mp hl.symm]
  rfl

theorem admitsLifecycle_of_ready (ho : Ordered world)
    (hs : old ∈ world.journal.journalEvents) (hl : old.operation.isContent = false)
    (hre : Ready world.journal old) (nowEpochMs : Nat) :
    world.journal.admitsLifecycle nowEpochMs old = true := by
  have hr := (ready_iff ho hs).mpr hre
  rw [JournalRepository.isReady, hl, Bool.false_or, Bool.and_eq_true] at hr
  rw [JournalRepository.admitsLifecycle, hl, isEligible_of_ready hre.1, Bool.not_false,
    Bool.true_and, Bool.true_and]
  exact hr.2

/-- Neither selector serves an event while an older one of its file is owed in its lane; the
lifecycle selector never, and the content selector not when the lifecycle lane has none of the
file to serve, while one is owed in either lane. -/
structure KeepsFileOrder (journal : JournalRepository) (nowEpochMs : Nat) : Prop where
  content : ∀ event, journal.readOldestEligibleEvent nowEpochMs = some event →
    OldestOf journal (·.operation.isContent = true) event
  lifecycle : ∀ frozen, journal.readOldestEligibleLifecycleEvent nowEpochMs = .ok (some frozen) →
    OldestOf journal (fun _ => True) frozen.event
  acrossLanes : ∀ event, journal.readOldestEligibleEvent nowEpochMs = some event →
    journal.isLifecycleIdleFor nowEpochMs event.localFileId = true →
      OldestOf journal (fun _ => True) event

end Selectors

/-! ## The result -/

theorem Ordered.content (ho : Ordered world) {event : StoredJournalEvent}
    (hse : world.journal.readOldestEligibleEvent nowEpochMs = some event) :
    OldestOf world.journal (·.operation.isContent = true) event := by
  obtain ⟨hst, he, _⟩ := readOldestEligibleEvent_some hse
  intro old hs hsa how hc hol
  obtain ⟨_, _, hl⟩ := Lanes.oldest_spec hse
  have hr := ho.inOrder old hs event hst how (owed_of_isEligible he) hsa hol
  exact hl old hs (admitsContent_of_ready ho hs hc hr nowEpochMs) hol

theorem Ordered.lifecycle (hor : Ordered world) {f : FrozenLifecycleEvent}
    (hse : world.journal.readOldestEligibleLifecycleEvent nowEpochMs = .ok (some f)) :
    OldestOf world.journal (fun _ => True) f.event := by
  obtain ⟨hst, ha, hle⟩ := Lanes.oldest_spec (readOldestEligibleLifecycleEvent_some hse)
  simp only [JournalRepository.admitsLifecycle, Bool.and_eq_true, Bool.not_eq_true'] at ha
  obtain ⟨⟨hl, he⟩, _⟩ := ha
  have ho := owed_of_isEligible he
  intro old hs hsa how _ hol
  cases hc : old.operation.isContent with
  | true =>
    have hy := hor.lifecycleFirst old hs f.event hst how ho hsa hc hl
    exact lt_asymm hol hy
  | false =>
    have hr := hor.inOrder old hs f.event hst how ho hsa hol
    exact hle old hs (admitsLifecycle_of_ready hor hs hc hr nowEpochMs) hol

theorem Ordered.acrossLanes (ho : Ordered world) {event : StoredJournalEvent}
    (hse : world.journal.readOldestEligibleEvent nowEpochMs = some event)
    (hid : world.journal.isLifecycleIdleFor nowEpochMs event.localFileId = true) :
    OldestOf world.journal (fun _ => True) event := by
  obtain ⟨hst, he, _⟩ := readOldestEligibleEvent_some hse
  intro old hs hsa how _ hol
  cases hc : old.operation.isContent with
  | true => exact ho.content hse old hs hsa how hc hol
  | false =>
    have hr := ho.inOrder old hs event hst how (owed_of_isEligible he) hsa hol
    -- a ready lifecycle event of the file would have been served before
    have ha := admitsLifecycle_of_ready ho hs hc hr nowEpochMs
    have hn := List.all_eq_true.mp hid old hs
    rw [hsa, ha, bne_self_eq_false] at hn
    contradiction

theorem Ordered.keepsFileOrder (ho : Ordered world) : KeepsFileOrder world.journal nowEpochMs where
  content := fun _ => ho.content
  lifecycle := fun _ => ho.lifecycle
  acrossLanes := fun _ => ho.acrossLanes

/-! ## Passes

A pass takes one event at a time from one of the two lanes. What it does with the event, and what
the watcher records meanwhile, are actions on the journal.
-/

inductive DispatchLane where
  | lifecycle
  | content
deriving DecidableEq

/-- The event a lane hands to the pass. -/
def JournalRepository.selected (journal : JournalRepository) (nowEpochMs : Nat) :
    DispatchLane → Option StoredJournalEvent
  | .content => journal.readOldestEligibleEvent nowEpochMs
  | .lifecycle =>
    match journal.readOldestEligibleLifecycleEvent nowEpochMs with
    | .ok frozen => frozen.map (·.event)
    | .error _ => none

inductive DispatchAction where
  | mutate (action : JournalAction)
  | send (lane : DispatchLane) (nowEpochMs : Nat)

/-- The journal, and every event sent so far with the journal it was taken from. -/
structure DispatchWorld where
  world : JournalWorld
  sent : List (JournalRepository × StoredJournalEvent)

namespace DispatchWorld

def step (dispatch : DispatchWorld) : DispatchAction → Option DispatchWorld
  | .mutate action => (dispatch.world.step action).map fun next => { dispatch with world := next }
  | .send lane nowEpochMs =>
    (dispatch.world.journal.selected nowEpochMs lane).map fun event =>
      { dispatch with sent := (dispatch.world.journal, event) :: dispatch.sent }

/-- The journal step is undisturbed, and a content event is taken only when the lifecycle lane has
none of its file to serve. -/
def inTurn (dispatch : DispatchWorld) : DispatchAction → Bool
  | .mutate action => dispatch.world.undisturbed action
  | .send .lifecycle _ => true
  | .send .content nowEpochMs =>
    (dispatch.world.journal.selected nowEpochMs .content).all fun event =>
      dispatch.world.journal.isLifecycleIdleFor nowEpochMs event.localFileId

end DispatchWorld

def dispatchMachine : Machine DispatchWorld DispatchAction where
  Init := fun dispatch => journalMachine.Init dispatch.world ∧ dispatch.sent = []
  step := DispatchWorld.step

/-- The runs of passes, captures, retries and the clock in which every step is in turn. -/
abbrev DispatchRun : DispatchWorld → Prop :=
  dispatchMachine.GuardedReachable fun before action => before.inTurn action = true

/-- No event was sent while an older one of its file was owed. -/
def SentInOrder (sent : List (JournalRepository × StoredJournalEvent)) : Prop :=
  ∀ entry ∈ sent, OldestOf entry.1 (fun _ => True) entry.2

theorem Ordered.selected (ho : Ordered world) {lane : DispatchLane} {event : StoredJournalEvent}
    (hse : world.journal.selected nowEpochMs lane = some event)
    (hid : lane = .content →
      world.journal.isLifecycleIdleFor nowEpochMs event.localFileId = true) :
    OldestOf world.journal (fun _ => True) event := by
  cases lane with
  | content => exact ho.acrossLanes hse (hid rfl)
  | lifecycle =>
    simp only [JournalRepository.selected] at hse
    split at hse
    · next frozen hf =>
      obtain ⟨f, rfl, rfl⟩ := Option.map_eq_some_iff.mp hse
      exact ho.lifecycle hf
    · contradiction

theorem DispatchWorld.step_in_order {dispatch next : DispatchWorld} {action : DispatchAction}
    (ho : Ordered dispatch.world) (hs : SentInOrder dispatch.sent)
    (hu : dispatch.inTurn action = true) (hv : dispatch.step action = some next) :
    Ordered next.world ∧ SentInOrder next.sent := by
  cases action with
  | mutate action =>
    obtain ⟨world, hm, rfl⟩ := Option.map_eq_some_iff.mp hv
    exact ⟨ho.step hu hm, hs⟩
  | send lane nowEpochMs =>
    obtain ⟨event, hse, rfl⟩ := Option.map_eq_some_iff.mp hv
    refine ⟨ho, List.forall_mem_cons.mpr ⟨ho.selected hse ?_, hs⟩⟩
    rintro rfl
    rw [DispatchWorld.inTurn, hse] at hu
    exact hu

/-- No file is dispatched out of order in a run that parks no event with a younger one behind it,
records none behind an event that cannot be served, and takes no content event while the lifecycle
lane has one of its file to serve. -/
theorem dispatch_in_file_order {dispatch : DispatchWorld} (reached : DispatchRun dispatch) :
    (∀ nowEpochMs, KeepsFileOrder dispatch.world.journal nowEpochMs) ∧
      SentInOrder dispatch.sent := by
  have hio : Ordered dispatch.world ∧ SentInOrder dispatch.sent :=
    reached.invariant
      (fun _ hi => ⟨ordered_of_init hi.1, hi.2 ▸ List.forall_mem_nil _⟩)
      fun _ _ _ hio hu hv => DispatchWorld.step_in_order hio.1 hio.2 hu hv
  exact ⟨fun _ => hio.1.keepsFileOrder, hio.2⟩

namespace DispatchOrderLemmas

/-- A capture of a fresh path, then what its preflight comes to, then a later capture of it. -/
def saveTwice (between : List JournalAction) : List JournalAction :=
  [.recordCapture (sampleCapture "a.md" "aa") (sampleDraw 1 10), .markEventPreflightStarted 10] ++
    between ++ [.recordCapture (sampleCapture "a.md" "bb") (sampleDraw 1 20)]

/-- The content lane serves one event while the other is pending, the first save being older. -/
def servesOf (served owed : Nat) (journal : JournalRepository) : Bool :=
  (journal.readOldestEligibleEvent 1).any fun event => event.eventId == served &&
    journal.journalEvents.any fun other => other.eventId == owed &&
      other.localFileId == event.localFileId && other.state.isPending &&
        other.operation.isContent && (decide (other.age < event.age) == (served == 20))

theorem servesOf_spec {s ow : Nat} {journal : JournalRepository}
    (hse : servesOf s ow journal = true) : ∃ event o,
      journal.readOldestEligibleEvent 1 = some event ∧ event.eventId = s ∧
        o ∈ journal.journalEvents ∧ o.eventId = ow ∧
        o.localFileId = event.localFileId ∧ Owed o ∧ o.operation.isContent = true ∧
        (o.age < event.age ↔ s = 20) := by
  obtain ⟨event, hs, hh⟩ := exists_of_any hse
  simp only [Bool.and_eq_true, beq_iff_eq, List.any_eq_true] at hh
  obtain ⟨he, o, hst, ⟨⟨⟨ho, hsa⟩, how⟩, hc⟩, hor⟩ := hh
  refine ⟨event, o, hs, he, hst, ho, hsa, how, hc, ?_⟩
  rw [Bool.eq_iff_iff, decide_eq_true_iff, beq_iff_eq] at hor
  exact hor

/-- A tracked note is renamed and saved; the rename is sent and received, then the save is sent. -/
def renameThenSave : List DispatchAction :=
  (trackFile 1 "a.md" 10 ++
    [JournalAction.recordLifecycleEventWithFreeze 1
       { operation := .rename
         sourceId := 10
         expectedVersionId := 10
         expectedLocator := some "a.md"
         targetLocator := some "c.md"
         tombstoneId := none
         policyRevision := 1
         predecessorEventId := none
         capturedFingerprint := none } none (some "c.md") (sampleDraw 1 11),
     .recordCapture (sampleCapture "c.md" "bb") (sampleDraw 2 12)]).map .mutate ++
    [.send .lifecycle 1, .mutate (.recordLifecycleCommittedReceipt 11 none), .send .content 1]

def sentBefore (sent owed : Nat) (entries : List (JournalRepository × StoredJournalEvent)) : Bool :=
  entries.any fun entry => entry.2.eventId == sent &&
    entry.1.journalEvents.any fun other => other.eventId == owed &&
      other.localFileId == entry.2.localFileId && other.state.isPending

end DispatchOrderLemmas

/-- A rename and a later save of one note are sent in this order. -/
theorem dispatch_in_file_order_renamed : ∃ dispatch : DispatchWorld, DispatchRun dispatch ∧
    KeepsFileOrder dispatch.world.journal 1 ∧ SentInOrder dispatch.sent ∧
      dispatch.sent.map (·.2.eventId) = [12, 11] ∧ sentBefore 11 12 dispatch.sent = true := by
  have hou : (dispatchMachine.run ⟨.start, []⟩ renameThenSave).map (fun dispatch =>
      (dispatch.sent.map (·.2.eventId), sentBefore 11 12 dispatch.sent)) =
        some ([12, 11], true) := by
    decide +kernel
  obtain ⟨dispatch, ran, hse⟩ := Option.map_eq_some_iff.mp hou
  obtain ⟨hsent, hbefore⟩ := Prod.mk.injEq .. ▸ hse
  have hc : dispatchMachine.runChecks DispatchWorld.inTurn ⟨.start, []⟩ renameThenSave = true := by
    decide +kernel
  have hr : DispatchRun dispatch :=
    Machine.guardedReachable_of_run (fun _ _ => id) ⟨start_init, rfl⟩ ran hc
  obtain ⟨hk, hs⟩ := dispatch_in_file_order hr
  exact ⟨dispatch, hr, hk 1, hs, hsent, hbefore⟩

/-- The first save waits for its retry time and the later one is served. -/
theorem parked_save_overtaken : ∃ world : JournalWorld, journalMachine.Reachable world ∧
    ¬ KeepsFileOrder world.journal 1 := by
  have ho : (journalMachine.run .start
      (saveTwice [.markEventWaitingRetry 10 .networkOffline 5000])).map
        (fun world => servesOf 20 10 world.journal) = some true := by
    decide +kernel
  obtain ⟨world, ran, hse⟩ := Option.map_eq_some_iff.mp ho
  obtain ⟨event, o, hs, he, hst, _, hsa, how, hc, hor⟩ := servesOf_spec hse
  refine ⟨world, Machine.reachable_of_run start_init ran, fun hk => ?_⟩
  exact hk.content event hs o hst hsa how hc (hor.mpr rfl)

end PersonalOs.Journal
