import PersonalOs.Journal.CaptureQueue
import PersonalOs.Journal.DispatchOrder

/-!
# The slots of one tracked file

As long as nothing of a tracked note is parked, its journal owes at most two events: one a pass has
started on, and behind it one that later captures still rewrite.
-/

namespace PersonalOs.Journal

open PersonalOs.DeviceSync (Locator)

/-- The journal of one tracked file whose pending events are a started one and a queued one. -/
structure Slots (journal : JournalRepository) (path : Locator) (nowEpochMs : Nat)
    (issuedEventIds : List Nat) (file : LocalFile) (started queued : Option StoredJournalEvent) :
    Prop where
  unique : UniqueEvents journal
  tracked : journal.localFiles = [file]
  located : file.normalizedPath = path
  identity : file.sourceId.isSome = true
  operands : journal.lifecycleOperands = []
  owned : ∀ row ∈ journal.journalEvents, row.localFileId = file.localFileId
  content : ∀ row ∈ journal.journalEvents, row.operation.isContent = true
  created : ∀ row ∈ journal.journalEvents, row.createdAtEpochMs ≤ nowEpochMs
  issued : ∀ row ∈ journal.journalEvents, row.eventId ∈ issuedEventIds
  pending : journal.journalEvents.filter (·.state.isPending) = started.toList ++ queued.toList
  startedRow : ∀ row ∈ started, row.state.isStarted = true
  queuedRow : ∀ row ∈ queued, row.state = .queued ∧ row.isFingerprintFrozen = false ∧
    row.nextEligibleRetryEpochMs = none
  older : ∀ first ∈ started, ∀ second ∈ queued, first.age < second.age

namespace SlotsLemmas

open MoveLemmas

variable {journal next : JournalRepository} {path : Locator} {nowEpochMs : Nat}
  {issuedEventIds : List Nat} {file : LocalFile} {started queued : Option StoredJournalEvent}
  {event row : StoredJournalEvent}

variable {state : JournalEventState} {write : StoredJournalEvent → StoredJournalEvent}

theorem isPending_of_coalescable (hc : state.isCoalescable = true) : state.isPending = true := by
  revert hc
  cases state <;> decide

theorem isPending_of_started (started : state.isStarted = true) : state.isPending = true := by
  revert started
  cases state <;> decide

theorem coalescable_not_started (hc : state.isCoalescable = true) : state.isStarted ≠ true := by
  revert hc
  cases state <;> decide

theorem filter_slots (hs : Slots journal path nowEpochMs issuedEventIds file started queued)
    {c : StoredJournalEvent → Bool}
    (hp : ∀ row, c row = true → row.state.isPending = true) :
    journal.journalEvents.filter c = started.toList.filter c ++ queued.toList.filter c := by
  rw [← List.filter_append, ← hs.pending, List.filter_filter]
  refine List.filter_congr fun row _ => ?_
  cases hh : c row with
  | false => rfl
  | true => rw [hp row hh]; rfl

theorem mem_slots (hs : Slots journal path nowEpochMs issuedEventIds file started queued) :
    (row ∈ journal.journalEvents ∧ row.state.isPending = true) ↔
      started = some row ∨ queued = some row := by
  have hm : row ∈ journal.journalEvents.filter (·.state.isPending) ↔
      row ∈ journal.journalEvents ∧ row.state.isPending = true := List.mem_filter
  rw [← hm, hs.pending, List.mem_append, Option.mem_toList, Option.mem_toList]

theorem readLocalFileByPath_slots
    (hs : Slots journal path nowEpochMs issuedEventIds file started queued) :
    journal.readLocalFileByPath path = some file := by
  rw [JournalRepository.readLocalFileByPath, hs.tracked]
  simp [Tables.lookup, hs.located]

theorem slots_distinct (hsl : Slots journal path nowEpochMs issuedEventIds file started queued)
    {x y : StoredJournalEvent} (hs : started = some x)
    (hq : queued = some y) : x.eventId ≠ y.eventId := by
  intro he
  have hf := (mem_slots hsl).mpr (.inl hs)
  have hse := (mem_slots hsl).mpr (.inr hq)
  have hon := hsl.unique.eq_of_key hf.1 hse.1 he
  have ho := hsl.older x hs y hq
  rw [hon] at ho
  exact lt_irrefl _ ho

theorem admitsContent_slots (hsl : Slots journal path nowEpochMs issuedEventIds file started queued)
    (hsd : started = some row ∨ queued = some row) :
    journal.admitsContent nowEpochMs row = true := by
  have hn : journal.hasOperands row.eventId = false := by
    rw [JournalRepository.hasOperands, hsl.operands]
    rfl
  rw [JournalRepository.admitsContent, hn, Bool.not_false, Bool.and_true]
  rcases hsd with hs | hq
  · exact isEligible_of_ready (.inl (hsl.startedRow row hs)) nowEpochMs
  · obtain ⟨hst, _, hu⟩ := hsl.queuedRow row hq
    exact isEligible_of_ready (.inr ⟨hst, hu⟩) nowEpochMs

theorem rewrite_queued {x : StoredJournalEvent}
    (hs : Slots journal path nowEpochMs issuedEventIds file (some x) queued) :
    (queued.toList.map fun row => if row.eventId == x.eventId then write row else row).filter
      (·.state.isPending) = queued.toList := by
  cases hq : queued with
  | none => rfl
  | some y =>
    have ho : y.eventId ≠ x.eventId := (slots_distinct hs rfl hq).symm
    have hp : y.state.isPending = true := by
      rw [(hs.queuedRow y hq).1]
      rfl
    simp [ho, hp]

theorem rewrite_started {y : StoredJournalEvent}
    (hsl : Slots journal path nowEpochMs issuedEventIds file started (some y)) :
    (started.toList.map fun row => if row.eventId == y.eventId then write row else row).filter
      (·.state.isPending) = started.toList := by
  cases hs : started with
  | none => rfl
  | some x =>
    have ho : x.eventId ≠ y.eventId := slots_distinct hsl hs rfl
    have hp : x.state.isPending = true := isPending_of_started (hsl.startedRow x hs)
    simp [ho, hp]

/-- A rewrite of one row that is not about its place. -/
structure KeepsPlace (write : StoredJournalEvent → StoredJournalEvent) : Prop where
  eventId : ∀ row, (write row).eventId = row.eventId
  localFileId : ∀ row, (write row).localFileId = row.localFileId
  age : ∀ row, (write row).age = row.age
  createdAt : ∀ row, (write row).createdAtEpochMs = row.createdAtEpochMs
  content : ∀ row, row.operation.isContent = true → (write row).operation.isContent = true

theorem slots_updateEvent {s' q' : Option StoredJournalEvent}
    (hs : Slots journal path nowEpochMs issuedEventIds file started queued)
    (hk : KeepsPlace write) (hsd : started = some event ∨ queued = some event)
    (hpe : ((started.toList ++ queued.toList).map fun row =>
      if row.eventId == event.eventId then write row else row).filter (·.state.isPending) =
        s'.toList ++ q'.toList)
    (hst : ∀ row ∈ s', row.state.isStarted = true)
    (hq : ∀ row ∈ q', row.state = .queued ∧ row.isFingerprintFrozen = false ∧
      row.nextEligibleRetryEpochMs = none)
    (hol : ∀ x ∈ s', ∀ y ∈ q', x.age < y.age) :
    Slots (journal.updateEvent event.eventId write) path nowEpochMs issuedEventIds file s' q' := by
  have hf : ∀ r' ∈ (journal.updateEvent event.eventId write).journalEvents,
      ∃ row ∈ journal.journalEvents, r' = if row.eventId == event.eventId then write row else row := by
    intro r' hm
    obtain ⟨row, hi, hw⟩ := Tables.mem_updateWhere.mp hm
    exact ⟨row, hi, hw.symm⟩
  refine ⟨hs.unique.updateWhere hk.eventId, hs.tracked, hs.located, hs.identity,
    hs.operands, fun r' hm => ?_, fun r' hm => ?_, fun r' hm => ?_,
    fun r' hm => ?_, ?_, hst, hq, hol⟩
  · obtain ⟨row, hi, rfl⟩ := hf r' hm
    split
    · exact (hk.localFileId row).trans (hs.owned row hi)
    · exact hs.owned row hi
  · obtain ⟨row, hi, rfl⟩ := hf r' hm
    split
    · exact hk.content row (hs.content row hi)
    · exact hs.content row hi
  · obtain ⟨row, hi, rfl⟩ := hf r' hm
    split
    · exact (hk.createdAt row).trans_le (hs.created row hi)
    · exact hs.created row hi
  · obtain ⟨row, hi, rfl⟩ := hf r' hm
    split
    · rw [hk.eventId]
      exact hs.issued row hi
    · exact hs.issued row hi
  · rw [← hpe, ← hs.pending]
    show List.filter _ (List.map _ journal.journalEvents) = _
    rw [List.filter_map, List.filter_map, List.filter_filter]
    refine congrArg _ (List.filter_congr fun row hi => ?_)
    -- a row that is not pending is another one than the event's, and stays as it is
    cases hp : row.state.isPending with
    | true => rw [Bool.and_true]
    | false =>
      have ho : row.eventId ≠ event.eventId := by
        intro he
        have hin := (mem_slots hs).mpr hsd
        rw [hs.unique.eq_of_key hi hin.1 he, hin.2] at hp
        contradiction
      rw [Bool.and_false, Function.comp_apply, if_neg (by simpa using ho), hp]

theorem slots_of_same (hs : Slots journal path nowEpochMs issuedEventIds file started queued)
    (he : next.journalEvents = journal.journalEvents)
    (ho : next.lifecycleOperands = journal.lifecycleOperands)
    (hf : next.localFiles = journal.localFiles) :
    Slots next path nowEpochMs issuedEventIds file started queued where
  unique := by
    rw [UniqueEvents, he]
    exact hs.unique
  tracked := hf.trans hs.tracked
  located := hs.located
  identity := hs.identity
  operands := ho.trans hs.operands
  owned := he ▸ hs.owned
  content := he ▸ hs.content
  created := he ▸ hs.created
  issued := he ▸ hs.issued
  pending := he ▸ hs.pending
  startedRow := hs.startedRow
  queuedRow := hs.queuedRow
  older := hs.older

theorem slots_updateLocalFile {write : LocalFile → LocalFile}
    (hs : Slots journal path nowEpochMs issuedEventIds file started queued)
    (hsd : (write file).localFileId = file.localFileId)
    (hsa : (write file).normalizedPath = file.normalizedPath)
    (hi : (write file).sourceId.isSome = true) :
    Slots (journal.updateLocalFile file.localFileId write) path nowEpochMs issuedEventIds
      (write file) started queued where
  unique := hs.unique
  tracked := by
    show Tables.updateWhere journal.localFiles _ _ = _
    rw [hs.tracked]
    simp [Tables.updateWhere]
  located := hsa.trans hs.located
  identity := hi
  operands := hs.operands
  owned := fun row hst => (hs.owned row hst).trans hsd.symm
  content := hs.content
  created := hs.created
  issued := hs.issued
  pending := hs.pending
  startedRow := hs.startedRow
  queuedRow := hs.queuedRow
  older := hs.older

end SlotsLemmas

open SlotsLemmas MoveLemmas DispatchOrderLemmas

section Calls

variable {journal next : JournalRepository} {path : Locator} {nowEpochMs : Nat}
  {issuedEventIds : List Nat} {file : LocalFile} {started queued : Option StoredJournalEvent}
  {event : StoredJournalEvent}

/-- A pass selects the started event, and the queued one when none is started. -/
theorem Slots.selects (hsl : Slots journal path nowEpochMs issuedEventIds file started queued)
    (hse : journal.readOldestEligibleEvent nowEpochMs = some event) :
    started = some event ∨ started = none ∧ queued = some event := by
  obtain ⟨hst, ha, hl⟩ := Lanes.oldest_spec hse
  rw [JournalRepository.admitsContent, Bool.and_eq_true] at ha
  rcases (mem_slots hsl).mp ⟨hst, owed_of_isEligible ha.1⟩ with hs | hq
  · exact .inl hs
  · cases hs : started with
    | none => exact .inr ⟨rfl, hq⟩
    | some x =>
      have hf := (mem_slots hsl).mpr (.inl hs)
      have ho := hsl.older x hs event hq
      exact absurd ho
        (hl x hf.1 (admitsContent_slots hsl (.inl hs)))

theorem Slots.starts (hs : Slots journal path nowEpochMs issuedEventIds file none (some event))
    (hm : journal.markEventPreflightStarted event.eventId = .ok next) :
    Slots next path nowEpochMs issuedEventIds file
      (some { event with state := .preflight, isFingerprintFrozen := true }) none := by
  obtain ⟨_, _, hm⟩ := bind_ok hm
  obtain ⟨_, _, hm⟩ := bind_ok hm
  cases hm
  refine slots_updateEvent hs ⟨fun _ => rfl, fun _ => rfl, fun _ => rfl, fun _ => rfl,
    fun _ => id⟩ (.inr rfl) ?_ ?_ (fun _ hme => absurd hme (Option.not_mem_none _))
    fun _ _ _ hme => absurd hme (Option.not_mem_none _)
  · simp [JournalEventState.isPending]
  · rintro row ⟨⟩
    rfl

theorem Slots.uploads (hs : Slots journal path nowEpochMs issuedEventIds file (some event) queued)
    {oi : String}
    (hm : journal.markEventUploading event.eventId oi = .ok next) :
    Slots next path nowEpochMs issuedEventIds file (some { event with
        state := .uploading
        operationId := some oi
        isFingerprintFrozen := true }) queued := by
  obtain ⟨_, _, hm⟩ := bind_ok hm
  obtain ⟨_, _, hm⟩ := bind_ok hm
  obtain ⟨_, _, hm⟩ := bind_ok hm
  cases hm
  refine slots_updateEvent hs ⟨fun _ => rfl, fun _ => rfl, fun _ => rfl, fun _ => rfl,
    fun _ => id⟩ (.inl rfl) ?_ ?_ hs.queuedRow ?_
  · rw [Option.toList_some, Option.toList_some, List.singleton_append, List.map_cons, if_pos (by simp),
      List.singleton_append, List.filter_cons_of_pos (by rfl), rewrite_queued hs]
  · rintro row ⟨⟩
    rfl
  · rintro x ⟨⟩
    exact hs.older event rfl

theorem Slots.leaves {write : StoredJournalEvent → StoredJournalEvent}
    (hs : Slots journal path nowEpochMs issuedEventIds file (some event) queued)
    (hk : KeepsPlace write) (hc : ∀ row, (write row).state.isPending = false) :
    Slots (journal.updateEvent event.eventId write) path nowEpochMs issuedEventIds file none
      queued := by
  refine slots_updateEvent hs hk (.inl rfl) ?_
    (fun _ hm => absurd hm (Option.not_mem_none _)) hs.queuedRow
    fun _ hm => absurd hm (Option.not_mem_none _)
  rw [Option.toList_some, List.singleton_append, List.map_cons, if_pos (by simp),
    List.filter_cons_of_neg (by rw [hc]; exact Bool.false_ne_true), rewrite_queued hs]
  rfl

theorem Slots.closes (hs : Slots journal path nowEpochMs issuedEventIds file (some event) queued)
    {ts : JournalNonRetryEventState} {se : JournalSafeErrorLabel}
    (hc : journal.markEventTerminal event.eventId ts se = .ok next) :
    Slots next path nowEpochMs issuedEventIds file none queued := by
  obtain ⟨_, _, hc⟩ := bind_ok hc
  cases hc
  have hk : KeepsPlace (JournalRepository.closedRow ts se) :=
    ⟨fun _ => rfl, fun _ => rfl, fun _ => rfl, fun _ => rfl, fun _ => id⟩
  have hl := hs.leaves hk fun _ => by cases ts <;> rfl
  exact slots_of_same hl rfl rfl rfl

def receiptFile (file : LocalFile) (sourceId baseVersionId : Nat) (fingerprint : FrozenFingerprint) :
    LocalFile :=
  { file with
    sourceId := some sourceId
    baseVersionId := some baseVersionId
    lastCommittedFingerprint := some fingerprint }

theorem Slots.receives
    (hs : Slots journal path nowEpochMs issuedEventIds file (some event) queued)
    {state : JournalEventState} {si bv : Nat} (hc : state.isPending = false)
    (hr : journal.recordReceipt state event.eventId si bv = .ok next) :
    Slots next path nowEpochMs issuedEventIds
      (receiptFile file si bv event.fingerprint) none queued := by
  obtain ⟨row, hfo, hr⟩ := bind_ok hr
  have hro : row = event := by
    have hst := (mem_slots hs).mpr (.inl rfl)
    exact (row_eq hs.unique (requirePendingEvent_ok hfo).1 hst.1 rfl).symm
  have hf : row.localFileId = file.localFileId := by
    rw [hro]
    exact hs.owned event ((mem_slots hs).mpr (.inl rfl)).1
  cases hr
  have hk : KeepsPlace (JournalRepository.receiptRow state) :=
    ⟨fun _ => rfl, fun _ => rfl, fun _ => rfl, fun _ => rfl, fun _ => id⟩
  have hl := hs.leaves hk fun _ => hc
  rw [hf, hro]
  exact slots_updateLocalFile (slots_of_same hl rfl rfl rfl) rfl rfl rfl

def observedFile (file : LocalFile) (input : JournalCaptureInput) : LocalFile :=
  { file with
    observedFingerprint := input.fingerprint
    policyRevisionNumber := input.policyRevisionNumber }

variable {draw : Draw} {input : JournalCaptureInput}

theorem Slots.coalescable (hs : Slots journal path nowEpochMs issuedEventIds file started queued)
    (hl : input.normalizedPath = path) (hal : input.admission = .policyAllowed) :
    journal.captureCoalesces input draw = queued := by
  have hf : journal.captureFileId input draw = file.localFileId := by
    rw [JournalRepository.captureFileId, hl, readLocalFileByPath_slots hs]
    rfl
  have hno : (journal.journalEvents.any fun event =>
      event.localFileId == file.localFileId && !event.operation.isContent) = false := by
    rw [List.any_eq_false]
    intro row hst hh
    rw [hs.content row hst, Bool.not_true, Bool.and_false] at hh
    contradiction
  rw [JournalRepository.captureCoalesces, hal, if_pos (by rfl), hf,
    JournalRepository.readCoalescableEvent, hno, if_neg Bool.false_ne_true]
  have hp : ∀ row : StoredJournalEvent,
      (row.localFileId == file.localFileId && row.state.isCoalescable && row.operation.isContent &&
        !row.isFingerprintFrozen) = true → row.state.isPending = true := by
    intro row hh
    simp only [Bool.and_eq_true] at hh
    exact isPending_of_coalescable hh.1.1.2
  rw [filter_slots hs hp]
  have hn : started.toList.filter (fun row => row.localFileId == file.localFileId &&
      row.state.isCoalescable && row.operation.isContent && !row.isFingerprintFrozen) = [] := by
    rw [List.filter_eq_nil_iff]
    intro row hm hh
    simp only [Bool.and_eq_true] at hh
    have hsd := hs.startedRow row (Option.mem_toList.mp hm)
    exact coalescable_not_started hh.1.1.2 hsd
  rw [hn, List.nil_append]
  cases hq : queued with
  | none => rfl
  | some y =>
    obtain ⟨hse, hu, _⟩ := hs.queuedRow y hq
    have hst := ((mem_slots hs).mpr (.inr hq)).1
    have ha : (y.localFileId == file.localFileId && y.state.isCoalescable &&
        y.operation.isContent && !y.isFingerprintFrozen) = true := by
      rw [hs.owned y hst, hs.content y hst, hse, hu]
      simp [JournalEventState.isCoalescable]
    simp only [Option.toList_some, List.filter_cons, List.filter_nil, ha, if_true,
      List.argmax_singleton]

theorem Slots.coalesces
    (hs : Slots journal path nowEpochMs issuedEventIds file started (some event)) :
    Slots (journal.coalesceInto event input) path nowEpochMs issuedEventIds
      (observedFile file input) started (some (journal.coalescedRow input event)) := by
  have hk : KeepsPlace (journal.coalescedRow input) :=
    ⟨fun _ => rfl, fun _ => rfl, fun _ => rfl, fun _ => rfl,
      fun _ _ => captureOperation_isContent input⟩
  have hf := hs.owned event ((mem_slots hs).mpr (.inr rfl)).1
  have hr : Slots (journal.updateEvent event.eventId (journal.coalescedRow input)) path
      nowEpochMs issuedEventIds file started (some (journal.coalescedRow input event)) := by
    refine slots_updateEvent hs hk (.inr rfl) ?_ hs.startedRow ?_ ?_
    · rw [List.map_append, List.filter_append, rewrite_started hs]
      have hp : (journal.coalescedRow input event).state.isPending = true := by
        show event.state.isPending = true
        rw [(hs.queuedRow event rfl).1]
        rfl
      simp [hp]
    · rintro row ⟨⟩
      exact hs.queuedRow event rfl
    · rintro x hst row ⟨⟩
      exact hs.older x hst event rfl
  rw [JournalRepository.coalesceInto, JournalRepository.writeObservedFingerprint, hf]
  exact slots_updateLocalFile hr rfl rfl hs.identity

theorem Slots.joins (hsl : Slots journal path nowEpochMs issuedEventIds file started none)
    (hj : Joins journal event none draw next) (hfi : next.localFiles = [file])
    (hn : draw.nowEpochMs = nowEpochMs) (hfr : draw.eventId ∉ issuedEventIds)
    (hf : event.localFileId = file.localFileId)
    (hq : event.state = .queued ∧ event.isFingerprintFrozen = false ∧
      event.nextEligibleRetryEpochMs = none) :
    Slots next path nowEpochMs (draw.eventId :: issuedEventIds) file started (some event) := by
  have hr : ∀ row ∈ next.journalEvents, row ∈ journal.journalEvents ∨ row = event := by
    intro row hm
    rw [hj.events] at hm
    exact (List.mem_append.mp hm).imp id List.mem_singleton.mp
  have hp : event.state.isPending = true := by
    rw [hq.1]
    rfl
  refine ⟨?_, hfi, hsl.located, hsl.identity, ?_, fun row hm => ?_, fun row hm => ?_,
    fun row hm => ?_, fun row hm => ?_, ?_, hsl.startedRow, ?_, fun x hst => ?_⟩
  · rw [UniqueEvents, hj.events]
    refine hsl.unique.snoc (Tables.lookup_none_iff.mpr fun row hs he => ?_)
    exact hfr (hj.eventId ▸ he ▸ hsl.issued row hs)
  · rw [hj.lifecycleOperands, hsl.operands]
    rfl
  · rcases hr row hm with hs | rfl
    · exact hsl.owned row hs
    · exact hf
  · rcases hr row hm with hs | rfl
    · exact hsl.content row hs
    · exact hj.isContent
  · rcases hr row hm with hs | rfl
    · exact hsl.created row hs
    · exact le_of_eq (hj.createdAt.trans hn)
  · rcases hr row hm with hs | rfl
    · exact List.mem_cons_of_mem _ (hsl.issued row hs)
    · exact hj.eventId ▸ List.mem_cons_self
  · rw [hj.events, List.filter_append, hsl.pending]
    simp [hp]
  · rintro row ⟨⟩
    exact hq
  · rintro y ⟨⟩
    have hs := ((mem_slots hsl).mpr (.inl hst)).1
    exact age_lt_joined hj (hn ▸ hsl.created x hs) hs

theorem Slots.appends (hs : Slots journal path nowEpochMs issuedEventIds file started none)
    {an : JournalCaptureResult} (hl : input.normalizedPath = path)
    (hal : input.admission = .policyAllowed) (hn : draw.nowEpochMs = nowEpochMs)
    (hfr : draw.eventId ∉ issuedEventIds)
    (hd : journal.appendCapture input draw = .ok (an, next)) :
    ∃ new, new.eventId = draw.eventId ∧ new.fingerprint = input.fingerprint ∧
      Slots next path nowEpochMs (draw.eventId :: issuedEventIds) (observedFile file input) started
        (some new) := by
  obtain ⟨wf, hwr, hd⟩ := bind_ok hd
  obtain ⟨w, ha, hd⟩ := bind_ok hd
  have hw := appendEvent_ok ha
  have hwi : wf = journal.updateLocalFile file.localFileId fun row =>
      observedFile row input := by
    unfold JournalRepository.captureFile at hwr
    rw [hl, readLocalFileByPath_slots hs] at hwr
    exact (Except.ok.inj hwr).symm
  have hf : journal.captureFileId input draw = file.localFileId := by
    rw [JournalRepository.captureFileId, hl, readLocalFileByPath_slots hs]
    rfl
  have ho : Slots wf path nowEpochMs issuedEventIds (observedFile file input) started none := by
    rw [hwi]
    exact slots_updateLocalFile hs rfl rfl hs.identity
  let new : StoredJournalEvent :=
    { input.newEvent (journal.captureFileId input draw) (journal.captureOperation input) draw with
      rowid := wf.nextRowid }
  have hj : Joins wf new none draw w := by
    refine ⟨?_, ?_, rfl, rfl, rfl, captureOperation_isContent input, fun _ hm =>
      absurd hm (Option.not_mem_none _)⟩
    · rw [hw]
    · rw [hw]
      exact (List.append_nil _).symm
  have hb : new.state = .queued ∧ new.isFingerprintFrozen = false ∧
      new.nextEligibleRetryEpochMs = none := by
    show input.admission.birth.1 = .queued ∧ (input.admission != .policyAllowed) = false ∧ _
    rw [hal]
    exact ⟨rfl, rfl, rfl⟩
  have hfi : w.localFiles = [observedFile file input] := by
    rw [hw]
    exact ho.tracked
  have haf := ho.joins hj hfi hn hfr hf hb
  refine ⟨new, rfl, rfl, ?_⟩
  cases hd
  split
  · exact slots_of_same haf rfl rfl rfl
  · exact haf

theorem Slots.captures (hs : Slots journal path nowEpochMs issuedEventIds file started queued)
    {an : JournalCaptureResult} (hl : input.normalizedPath = path)
    (ha : input.admission = .policyAllowed)
    (hb : journal.isAtQueueLimit draw.imageBytes = false) (hno : draw.nowEpochMs = nowEpochMs)
    (hf : draw.eventId ∉ issuedEventIds)
    (hd : journal.recordCapture input draw = .ok (an, next)) :
    ∃ new, new.fingerprint = input.fingerprint ∧
      (∀ old, queued = some old → new.eventId = old.eventId) ∧
      (queued = none → new.eventId = draw.eventId) ∧
      Slots next path nowEpochMs (draw.eventId :: issuedEventIds) (observedFile file input) started
        (some new) := by
  unfold JournalRepository.recordCapture at hd
  split at hd
  · exact nomatch hd
  rw [hs.coalescable hl ha, hb, if_neg Bool.false_ne_true] at hd
  cases queued with
  | some old =>
    cases hd
    have hr : Slots (journal.coalesceInto old input) path nowEpochMs issuedEventIds
        (observedFile file input) started (some (journal.coalescedRow input old)) :=
      hs.coalesces
    refine ⟨journal.coalescedRow input old, rfl, ?_,
      fun hn => (Option.some_ne_none old hn).elim, { hr with issued := ?_ }⟩
    · rintro row ⟨⟩
      rfl
    · exact fun row hst => List.mem_cons_of_mem _ (hr.issued row hst)
  | none =>
    obtain ⟨new, hdr, ho, haf⟩ := hs.appends hl ha hno hf hd
    exact ⟨new, ho, fun old hso => (Option.some_ne_none old hso.symm).elim, fun _ => hdr, haf⟩

theorem Slots.advance (hs : Slots journal path nowEpochMs issuedEventIds file started queued)
    {l : Nat} (hl : nowEpochMs ≤ l) :
    Slots journal path l issuedEventIds file started queued :=
  { hs with created := fun row hst => (hs.created row hst).trans hl }

end Calls

end PersonalOs.Journal
