import PersonalOs.Journal.CaptureSlots

/-!
# No update is lost between capture and the queue

An observation that matches the committed bytes is dropped, and an event whose bytes have changed
closes. Both are right while the note still comes to the observed bytes. They are not when other
bytes are past their re-fingerprint, or when a capture has changed an event that a pass keeps in
memory.
-/

namespace PersonalOs.Journal

open PersonalOs.DeviceSync (Locator)

/-- The started slot holds the event a pass keeps in memory. -/
def Holds (started : Option StoredJournalEvent) (event : StoredJournalEvent) : Prop :=
  ∃ row, started = some row ∧ row.eventId = event.eventId ∧ row.fingerprint = event.fingerprint

inductive InStage (started queued : Option StoredJournalEvent) : PassStage → Prop
  | idle : InStage started queued .idle
  | selectedStarted {event : StoredJournalEvent} (isStarted : started = some event) :
      InStage started queued (.selected event)
  | selectedQueued {event : StoredJournalEvent} (coalescable : event.state.isCoalescable = true)
      (noneStarted : started = none) (holds : Holds queued event) :
      InStage started queued (.selected event)
  | preflighting {event : StoredJournalEvent} (holds : Holds started event) :
      InStage started queued (.preflighting event)
  | granted {event : StoredJournalEvent} {isMultipart : Bool} (holds : Holds started event)
      (fits : isMultipart = false → event.fingerprint.sizeBytes ≤ maxFileSizeBytes) :
      InStage started queued (.granted event isMultipart)
  | sending {event : StoredJournalEvent} (holds : Holds started event) :
      InStage started queued (.sending event)
  | accepted {event : StoredJournalEvent} {sourceId baseVersionId : Nat}
      (holds : Holds started event) : InStage started queued (.accepted event sourceId baseVersionId)

/-- The bytes a slot will have committed, or the file has, when nothing more is saved. -/
def Coming (file : LocalFile) (started queued : Option StoredJournalEvent) (pass : PassStage)
    (fingerprint : FrozenFingerprint) : Prop :=
  (∃ row, queued = some row ∧ row.fingerprint = fingerprint) ∨
    match pass with
    | .sending event | .accepted event _ _ => event.fingerprint = fingerprint
    | _ => file.lastCommittedFingerprint = some fingerprint ∨
      ∃ row, started = some row ∧ row.fingerprint = fingerprint

/-- The server's content is the committed one, but for an upload whose receipt is on its way. -/
def ServerAgrees (file : LocalFile) (server : FrozenFingerprint) : PassStage → Prop
  | .accepted event _ _ => server = event.fingerprint
  | _ => file.lastCommittedFingerprint = some server

/-- The invariant of the note. -/
structure Tracked {Bytes : Type} (deriveFrozenFingerprint : Bytes → FrozenFingerprint)
    (path : Locator) (world : CaptureWorld Bytes) (file : LocalFile)
    (started queued : Option StoredJournalEvent) : Prop where
  slots : Slots world.journal path world.nowEpochMs world.issuedEventIds file started queued
  stage : InStage started queued world.pass
  server : ServerAgrees file world.server world.pass
  derived : ∀ row, started = some row ∨ queued = some row →
    ∃ bytes, row.fingerprint = deriveFrozenFingerprint bytes
  observed : ∀ admission ∈ world.admission, ∀ fingerprint ∈ admission.observed,
    ∃ bytes, fingerprint = deriveFrozenFingerprint bytes
  lastRead : world.settleTimer = none → world.queuedAdmissions = 0 →
    ∀ admission ∈ world.admission, ∀ fingerprint ∈ admission.observed,
      fingerprint = deriveFrozenFingerprint world.vault
  lastSettled : world.isOwed = false → world.settled = deriveFrozenFingerprint world.vault
  coming : world.isOwed = false → Coming file started queued world.pass world.settled

namespace CaptureRunsLemmas

open SlotsLemmas MoveLemmas

variable {Bytes : Type} {deriveFrozenFingerprint : Bytes → FrozenFingerprint} {path : Locator}
  {world world' : CaptureWorld Bytes} {file : LocalFile}
  {started queued : Option StoredJournalEvent} {event : StoredJournalEvent}

theorem isOwed_iff : world.isOwed = false ↔
    world.settleTimer = none ∧ world.queuedAdmissions = 0 ∧ world.admission = none := by
  simp [CaptureWorld.isOwed, and_assoc]

theorem lastCommitted_eq (ht : Tracked deriveFrozenFingerprint path world file started queued) :
    world.lastCommitted path = file.lastCommittedFingerprint := by
  rw [CaptureWorld.lastCommitted, readLocalFileByPath_slots ht.slots]
  rfl

theorem pendingCarries_spec (ht : Tracked deriveFrozenFingerprint path world file started queued)
    {f : FrozenFingerprint} {b : Option Nat}
    (hh : world.pendingCarries f b = true) :
    ∃ row, (started = some row ∨ queued = some row) ∧ row.fingerprint = f ∧
      b ≠ some row.eventId := by
  obtain ⟨row, hs, hc⟩ := List.any_eq_true.mp hh
  simp only [Bool.and_eq_true, beq_iff_eq, bne_iff_ne] at hc
  exact ⟨row, (mem_slots ht.slots).mp ⟨hs, hc.1.1⟩, hc.1.2, hc.2⟩

theorem coming_of_carries (ht : Tracked deriveFrozenFingerprint path world file started queued)
    {f : FrozenFingerprint} (hho : world.carries path f = true) :
    Coming file started queued world.pass f := by
  have hi : ∀ event, Holds started event → (event.fingerprint == f ||
        world.pendingCarries f (some event.eventId)) = true →
      (∃ row, queued = some row ∧ row.fingerprint = f) ∨ event.fingerprint = f := by
    intro event hh hc
    rcases Bool.or_eq_true _ _ ▸ hc with he | hp
    · exact .inr (beq_iff_eq.mp he)
    · obtain ⟨row, hin, hca, ho⟩ := pendingCarries_spec ht hp
      rcases hin with hs | hq
      · obtain ⟨h, hhe, hsa, _⟩ := hh
        rw [hs] at hhe
        cases hhe
        exact absurd (congrArg some hsa.symm) ho
      · exact .inl ⟨row, hq, hca⟩
  have hb : (world.lastCommitted path == some f || world.pendingCarries f none) = true →
      (∃ row, queued = some row ∧ row.fingerprint = f) ∨ file.lastCommittedFingerprint = some f ∨
          ∃ row, started = some row ∧ row.fingerprint = f := by
    intro hc
    rcases Bool.or_eq_true _ _ ▸ hc with he | hp
    · exact .inr (.inl (lastCommitted_eq ht ▸ beq_iff_eq.mp he))
    · obtain ⟨row, hs | hq, hca, _⟩ := pendingCarries_spec ht hp
      · exact .inr (.inr ⟨row, hs, hca⟩)
      · exact .inl ⟨row, hq, hca⟩
  have hst := ht.stage
  unfold CaptureWorld.carries at hho
  unfold Coming
  cases hpa : world.pass with
  | sending event =>
    rw [hpa] at hho hst
    cases hst with
    | sending hh => exact hi event hh hho
  | accepted event sourceId baseVersionId =>
    rw [hpa] at hho hst
    cases hst with
    | accepted hh => exact hi event hh hho
  | _ =>
    rw [hpa] at hho
    exact hb hho

/-! The steps of the watcher. -/

theorem tracked_advance (ht : Tracked deriveFrozenFingerprint path world file started queued)
    (em : Nat) :
    Tracked deriveFrozenFingerprint path
      { world with nowEpochMs := world.nowEpochMs + em } file started queued where
  slots := ht.slots.advance (Nat.le_add_right _ _)
  stage := ht.stage
  server := ht.server
  derived := ht.derived
  observed := ht.observed
  lastRead := ht.lastRead
  lastSettled := ht.lastSettled
  coming := ht.coming

theorem tracked_save (ht : Tracked deriveFrozenFingerprint path world file started queued)
    (b : Bytes) (due : Nat) :
    Tracked deriveFrozenFingerprint path { world with vault := b, settleTimer := some due } file
      started queued where
  slots := ht.slots
  stage := ht.stage
  server := ht.server
  derived := ht.derived
  observed := ht.observed
  lastRead := fun hn => (Option.some_ne_none due hn).elim
  lastSettled := fun hi => (Option.some_ne_none due (isOwed_iff.mp hi).1).elim
  coming := fun hi => (Option.some_ne_none due (isOwed_iff.mp hi).1).elim

theorem tracked_settle (ht : Tracked deriveFrozenFingerprint path world file started queued) :
    Tracked deriveFrozenFingerprint path
      { world with settleTimer := none, queuedAdmissions := world.queuedAdmissions + 1 } file
      started queued where
  slots := ht.slots
  stage := ht.stage
  server := ht.server
  derived := ht.derived
  observed := ht.observed
  lastRead := fun _ hn => (Nat.succ_ne_zero _ hn).elim
  lastSettled := fun hi => (Nat.succ_ne_zero _ (isOwed_iff.mp hi).2.1).elim
  coming := fun hi => (Nat.succ_ne_zero _ (isOwed_iff.mp hi).2.1).elim

variable {admission : Admission} {baseVersionId sourceId : Nat} {isMultipart : Bool}

theorem tracked_admission (ht : Tracked deriveFrozenFingerprint path world file started queued)
    {qa : Nat} (hre : ∀ f ∈ admission.observed, f = deriveFrozenFingerprint world.vault) :
    Tracked deriveFrozenFingerprint path
      { world with queuedAdmissions := qa, admission := some admission } file started
      queued where
  slots := ht.slots
  stage := ht.stage
  server := ht.server
  derived := ht.derived
  observed := by
    rintro _ ⟨⟩ f hr
    exact ⟨world.vault, hre f hr⟩
  lastRead := by
    rintro _ _ _ ⟨⟩ f hr
    exact hre f hr
  lastSettled := fun hi => (Option.some_ne_none admission (isOwed_iff.mp hi).2.2).elim
  coming := fun hi => (Option.some_ne_none admission (isOwed_iff.mp hi).2.2).elim

theorem tracked_decided {o : FrozenFingerprint} {j : JournalRepository}
    {ie : List Nat} {f' : LocalFile} {q' : Option StoredJournalEvent}
    (ht : Tracked deriveFrozenFingerprint path world file started queued)
    (hr : world.admission = some admission) (hre : admission.observed = some o)
    (hsl : Slots j path world.nowEpochMs ie f' started q')
    (hsta : InStage started q' world.pass)
    (hs : f'.lastCommittedFingerprint = file.lastCommittedFingerprint)
    (hd : ∀ row, q' = some row → ∃ b, row.fingerprint = deriveFrozenFingerprint b)
    (hc : Coming f' started q' world.pass o) :
    Tracked deriveFrozenFingerprint path
      { world with
        journal := j
        issuedEventIds := ie
        admission := none
        settled := o } f' started q' where
  slots := hsl
  stage := hsta
  server := by
    have hse := ht.server
    show ServerAgrees f' world.server world.pass
    cases hp : world.pass <;> rw [hp] at hse <;> first | exact hse | exact hs.trans hse
  derived := by
    rintro row (hst | hq)
    · exact ht.derived row (.inl hst)
    · exact hd row hq
  observed := fun _ hm => (Option.not_mem_none _ hm).elim
  lastRead := fun _ _ _ hm => (Option.not_mem_none _ hm).elim
  lastSettled := fun hi => by
    obtain ⟨hno, hn, _⟩ := isOwed_iff.mp hi
    exact ht.lastRead hno hn admission hr o hre
  coming := fun _ => hc

/-- The rewrite of the queued slot leaves the stage of a pass, when it keeps the bytes of an event
that the pass has selected from it. -/
theorem inStage_of_captured {new : StoredJournalEvent} {p : PassStage}
    (hst : InStage started queued p)
    (hsd : ∀ old, queued = some old → new.eventId = old.eventId)
    (hsa : ∀ event, p = .selected event → Holds queued event →
      new.fingerprint = event.fingerprint) : InStage started (some new) p := by
  cases hst with
  | idle => exact .idle
  | selectedStarted hs => exact .selectedStarted hs
  | @selectedQueued event hc hn hh =>
    obtain ⟨old, hq, he, _⟩ := id hh
    exact .selectedQueued hc hn ⟨new, rfl, (hsd old hq).trans he, hsa event rfl hh⟩
  | preflighting hh => exact .preflighting hh
  | granted hh hf => exact .granted hh hf
  | sending hh => exact .sending hh
  | accepted hh => exact .accepted hh

theorem tracked_admitObserved (ht : Tracked deriveFrozenFingerprint path world file started queued)
    {o : FrozenFingerprint} {pr : Nat} {d : Draw}
    (hr : world.admission = some admission) (hre : admission.observed = some o)
    (hu : world.undisturbed path (.admitObserved pr d) = true)
    (hv : world.admitObserved path admission.lastCommitted o pr d = some world') :
    ∃ f' q', Tracked deriveFrozenFingerprint path world' f' started q' := by
  rw [CaptureWorld.undisturbed, hr, Option.all_some, hre, Option.all_some] at hu
  unfold CaptureWorld.admitObserved at hv
  dsimp only at hv
  split at hv
  · exact nomatch hv
  split at hv
  · next hm =>
    cases hv
    rw [if_pos hm] at hu
    exact ⟨file, queued, tracked_decided ht hr hre ht.slots ht.stage rfl
      (fun row hq => ht.derived row (.inr hq))
      (coming_of_carries ht hu)⟩
  · next hdi =>
    split at hv
    · exact nomatch hv
    next ha =>
    simp only [Bool.or_eq_true, not_or, Bool.not_eq_true, bne_eq_false_iff_eq] at ha
    obtain ⟨⟨hb, hfr⟩, hn⟩ := ha
    have hfh : d.eventId ∉ world.issuedEventIds := by simpa using hfr
    obtain ⟨j, hw, rfl⟩ := Option.map_eq_some_iff.mp hv
    obtain ⟨_, hd⟩ := answered_some hw
    obtain ⟨new, hc, hsa, _, haf⟩ := ht.slots.captures rfl rfl hb hn hfh hd
    have hf := ht.observed admission hr o hre
    refine ⟨_, _, tracked_decided ht hr hre haf ?_ rfl ?_ (.inl ⟨new, rfl, hc⟩)⟩
    · refine inStage_of_captured ht.stage hsa fun event hs hh => ?_
      rw [if_neg hdi, CaptureWorld.rewritesSelected, hs] at hu
      dsimp only at hu
      obtain ⟨old, hq, he, _⟩ := hh
      rw [ht.slots.coalescable rfl rfl, hq, Option.any_some, he,
        if_pos (beq_self_eq_true _), Option.all_some, beq_iff_eq] at hu
      exact hc.trans hu.symm
    · rintro row ⟨⟩
      exact hc ▸ hf

/-! The steps of a pass. -/

theorem tracked_pass (ht : Tracked deriveFrozenFingerprint path world file started queued)
    {j : JournalRepository} {p : PassStage} {s : FrozenFingerprint} {f' : LocalFile}
    {s' : Option StoredJournalEvent} {q' : Option StoredJournalEvent}
    (hs : Slots j path world.nowEpochMs world.issuedEventIds f' s' q')
    (hst : InStage s' q' p) (ha : ServerAgrees f' s p)
    (hd : ∀ row, s' = some row ∨ q' = some row → ∃ b, row.fingerprint = deriveFrozenFingerprint b)
    (hc : world.settled = deriveFrozenFingerprint world.vault →
      Coming file started queued world.pass world.settled → Coming f' s' q' p world.settled) :
    Tracked deriveFrozenFingerprint path
      { world with journal := j, pass := p, server := s } f' s' q' where
  slots := hs
  stage := hst
  server := ha
  derived := hd
  observed := ht.observed
  lastRead := ht.lastRead
  lastSettled := ht.lastSettled
  coming := fun hi => hc (ht.lastSettled hi) (ht.coming hi)

theorem tracked_selectEvent (ht : Tracked deriveFrozenFingerprint path world file started queued)
    (hi : world.pass = .idle)
    (hse : world.journal.readOldestEligibleEvent world.nowEpochMs = some event) :
    Tracked deriveFrozenFingerprint path { world with pass := .selected event } file started
      queued := by
  have ha := ht.server
  rw [hi] at ha
  refine tracked_pass ht ht.slots ?_ ha ht.derived fun _ hc => ?_
  · rcases ht.slots.selects hse with hs | ⟨hn, hq⟩
    · exact .selectedStarted hs
    · refine .selectedQueued ?_ hn ⟨event, hq, rfl, rfl⟩
      rw [(ht.slots.queuedRow event hq).1]
      rfl
  · rw [hi] at hc
    exact hc

theorem tracked_startPreflight (ht : Tracked deriveFrozenFingerprint path world file started queued)
    (hs : world.pass = .selected event) (hv : world.startPreflight event = some world') :
    ∃ s' q', Tracked deriveFrozenFingerprint path world' file s' q' := by
  have hse := ht.stage
  have ha := ht.server
  rw [hs] at hse ha
  unfold CaptureWorld.startPreflight at hv
  cases hse with
  | selectedStarted hst =>
    have hr := ht.slots.startedRow event hst
    rw [if_neg fun hc => coalescable_not_started hc hr] at hv
    cases hv
    refine ⟨started, queued, tracked_pass ht ht.slots
      (.preflighting ⟨event, hst, rfl, rfl⟩) ha ht.derived fun _ hco => ?_⟩
    rw [hs] at hco
    exact hco
  | selectedQueued hc hn hh =>
    obtain ⟨row, hq, he, hsa⟩ := hh
    subst hn hq
    rw [if_pos hc, ← he] at hv
    obtain ⟨j, hm, rfl⟩ := Option.map_eq_some_iff.mp hv
    have haf := ht.slots.starts (accepted_some hm)
    refine ⟨_, _, tracked_pass ht haf (.preflighting ⟨_, rfl, he, hsa⟩) ha ?_ fun _ hco => ?_⟩
    · rintro o (hne | hno)
      · rw [← Option.some.inj hne]
        exact ht.derived row (.inr rfl)
      · exact (Option.some_ne_none o hno.symm).elim
    · rw [hs] at hco
      -- the bytes the queued slot had coming are now the started slot's
      rcases hco with ⟨_, ⟨⟩, hca⟩ | hcd | ⟨_, ⟨⟩, _⟩
      · exact .inr (.inr ⟨_, rfl, hca⟩)
      · exact .inr (.inl hcd)

theorem tracked_received {row : StoredJournalEvent} {s : JournalEventState}
    (ht : Tracked deriveFrozenFingerprint path world file (some row) queued)
    (he : row.eventId = event.eventId) (hs : row.fingerprint = event.fingerprint)
    (hcl : s.isPending = false) (ha : world.server = event.fingerprint)
    (hv : world.closeSelected
      (world.journal.recordReceipt s event.eventId sourceId baseVersionId) = some world')
    (hc : Coming file (some row) queued world.pass world.settled →
      (∃ row, queued = some row ∧ row.fingerprint = world.settled) ∨
        event.fingerprint = world.settled) :
    ∃ f', Tracked deriveFrozenFingerprint path world' f' none queued := by
  rw [← he] at hv
  obtain ⟨j, hr, rfl⟩ := Option.map_eq_some_iff.mp hv
  have haf := ht.slots.receives hcl (accepted_some hr)
  refine ⟨_, tracked_pass ht haf .idle ?_ (fun o hi => ?_) fun _ hco => ?_⟩
  · exact congrArg some (hs.trans ha.symm)
  · rcases hi with hn | hq
    · exact (Option.some_ne_none o hn.symm).elim
    · exact ht.derived o (.inr hq)
  · rcases hc hco with hq | hse
    · exact .inl hq
    · exact .inr (.inl (congrArg some (hs.trans hse)))

theorem tracked_answerPreflight {an : PreflightAnswer}
    (ht : Tracked deriveFrozenFingerprint path world file started queued)
    (hp : world.pass = .preflighting event)
    (hv : world.answerPreflight event an = some world') :
    ∃ f' s', Tracked deriveFrozenFingerprint path world' f' s' queued := by
  have hst := ht.stage
  have hag := ht.server
  rw [hp] at hst hag
  cases hst with
  | preflighting hh =>
  obtain ⟨row, rfl, he, hs⟩ := id hh
  unfold CaptureWorld.answerPreflight at hv
  cases an with
  | noChange sourceId baseVersionId =>
    dsimp only at hv
    split at hv
    · next hcu =>
      have ha := (beq_iff_eq.mp hcu).symm
      obtain ⟨f', haf⟩ := tracked_received ht he hs rfl ha hv fun hc => by
          rw [hp] at hc
          -- the server's content is the committed one, and the event carries it
          rcases hc with hq | hco | ⟨_, ⟨⟩, hca⟩
          · exact .inl hq
          · have had : file.lastCommittedFingerprint = some world.server := hag
            rw [had, ha] at hco
            exact .inr (Option.some.inj hco)
          · exact .inr (hs.symm.trans hca)
      exact ⟨f', none, haf⟩
    · exact nomatch hv
  | singlePartUpload oi =>
    dsimp only at hv
    split at hv
    · next hf =>
      rw [← he] at hv
      obtain ⟨j, hm, rfl⟩ := Option.map_eq_some_iff.mp hv
      have haf := ht.slots.uploads (accepted_some hm)
      refine ⟨_, _, tracked_pass ht haf
        (.granted ⟨_, rfl, he, hs⟩ fun _ => hf) hag ?_ fun _ hc => ?_⟩
      · rintro o (hn | hq)
        · rw [← Option.some.inj hn]
          exact ht.derived row (.inl rfl)
        · exact ht.derived o (.inr hq)
      · rw [hp] at hc
        rcases hc with hq | hco | ⟨_, ⟨⟩, hca⟩
        · exact .inl hq
        · exact .inr (.inl hco)
        · exact .inr (.inr ⟨_, rfl, hca⟩)
    · exact nomatch hv
  | multipartUpload =>
    dsimp only at hv
    split at hv
    · cases hv
      refine ⟨_, _, tracked_pass ht ht.slots (.granted hh nofun) hag ht.derived fun _ hc => ?_⟩
      rw [hp] at hc
      exact hc
    · exact nomatch hv

theorem tracked_reachDeadline (ht : Tracked deriveFrozenFingerprint path world file started queued)
    (hg : world.pass = .granted event isMultipart) :
    Tracked deriveFrozenFingerprint path { world with pass := .idle } file started queued := by
  have ha := ht.server
  rw [hg] at ha
  refine tracked_pass ht ht.slots .idle ha ht.derived fun _ hc => ?_
  rw [hg] at hc
  exact hc

theorem tracked_closed {row : StoredJournalEvent} {ts : JournalNonRetryEventState}
    {se : JournalSafeErrorLabel}
    (ht : Tracked deriveFrozenFingerprint path world file (some row) queued)
    (he : row.eventId = event.eventId) (hg : world.pass = .granted event isMultipart)
    (hd : row.fingerprint ≠ deriveFrozenFingerprint world.vault) (hm : world.closeSelected
      (world.journal.markEventTerminal event.eventId ts se) = some world') :
    Tracked deriveFrozenFingerprint path world' file none queued := by
  have ha := ht.server
  rw [hg] at ha
  rw [← he] at hm
  obtain ⟨j, hcl, rfl⟩ := Option.map_eq_some_iff.mp hm
  have haf := ht.slots.closes (accepted_some hcl)
  refine tracked_pass ht haf .idle ha (fun o hi => ?_) fun hv hco => ?_
  · rcases hi with hn | hq
    · exact (Option.some_ne_none o hn.symm).elim
    · exact ht.derived o (.inr hq)
  · rw [hg] at hco
    rcases hco with hq | hc | ⟨_, ⟨⟩, hca⟩
    · exact .inl hq
    · exact .inr (.inl hc)
    · exact absurd (hca.trans hv) hd

theorem tracked_rereadBytes (hc : CollisionFree deriveFrozenFingerprint)
    (ht : Tracked deriveFrozenFingerprint path world file started queued)
    (hg : world.pass = .granted event isMultipart)
    (hv : world.rereadBytes deriveFrozenFingerprint event isMultipart = some world') :
    ∃ s', Tracked deriveFrozenFingerprint path world' file s' queued := by
  have hst := ht.stage
  have ha := ht.server
  rw [hg] at hst ha
  cases hst with
  | granted hh hfi =>
  obtain ⟨row, rfl, he, hs⟩ := id hh
  unfold CaptureWorld.rereadBytes at hv
  dsimp only at hv
  split at hv
  · next hto =>
    simp only [Bool.and_eq_true, Bool.not_eq_true', decide_eq_true_eq] at hto
    refine ⟨none, tracked_closed ht he hg (fun hsa => ?_) hv⟩
    -- the event's own size fits the single-part lane
    rw [hs] at hsa
    rw [← hsa] at hto
    exact absurd hto.2 (not_lt.mpr (hfi hto.1))
  split at hv
  · next hm =>
    simp only [Bool.and_eq_true, beq_iff_eq] at hm
    cases hv
    refine ⟨_, tracked_pass ht ht.slots (.sending hh) ha ht.derived fun hva _ => .inr ?_⟩
    obtain ⟨b, hd⟩ := ht.derived row (.inl rfl)
    have hf : event.fingerprint = deriveFrozenFingerprint b := hs.symm.trans hd
    rw [hf] at hm
    rw [← hc _ _ hm.1 hm.2] at hf
    exact hf.trans hva.symm
  · next hch =>
    refine ⟨none, tracked_closed ht he hg (fun hsa => hch ?_) hv⟩
    rw [← hs, hsa]
    simp

theorem tracked_acceptUpload (ht : Tracked deriveFrozenFingerprint path world file started queued)
    (hs : world.pass = .sending event) :
    Tracked deriveFrozenFingerprint path
      { world with
        server := event.fingerprint
        pass := .accepted event sourceId baseVersionId } file started queued := by
  have hst := ht.stage
  rw [hs] at hst
  cases hst with
  | sending hh =>
  refine tracked_pass ht ht.slots (.accepted hh) rfl ht.derived fun _ hc => ?_
  rw [hs] at hc
  exact hc

theorem tracked_persistReceipt (ht : Tracked deriveFrozenFingerprint path world file started queued)
    (ha : world.pass = .accepted event sourceId baseVersionId)
    (hv : world.closeSelected (world.journal.recordCommittedReceipt event.eventId sourceId
      baseVersionId) = some world') :
    ∃ f', Tracked deriveFrozenFingerprint path world' f' none queued := by
  have hst := ht.stage
  have hag := ht.server
  rw [ha] at hst hag
  cases hst with
  | accepted hh =>
  obtain ⟨row, rfl, he, hs⟩ := hh
  refine tracked_received ht he hs rfl hag hv fun hc => ?_
  rw [ha] at hc
  exact hc

end CaptureRunsLemmas

open CaptureRunsLemmas

/-- The invariant, with its slots left open. -/
def TrackedNote {Bytes : Type} (deriveFrozenFingerprint : Bytes → FrozenFingerprint)
    (path : Locator) (world : CaptureWorld Bytes) : Prop :=
  ∃ file started queued, Tracked deriveFrozenFingerprint path world file started queued

theorem TrackedNote.step {Bytes : Type} {deriveFrozenFingerprint : Bytes → FrozenFingerprint}
    {path : Locator} {world world' : CaptureWorld Bytes} {a : CaptureAction Bytes}
    (hc : CollisionFree deriveFrozenFingerprint)
    (hno : TrackedNote deriveFrozenFingerprint path world)
    (hu : world.undisturbed path a = true)
    (hv : world.step deriveFrozenFingerprint path a = some world') :
    TrackedNote deriveFrozenFingerprint path world' := by
  obtain ⟨file, started, queued, ht⟩ := hno
  cases a with
  | advanceClock em =>
    cases hv
    exact ⟨_, _, _, tracked_advance ht em⟩
  | save b =>
    cases hv
    exact ⟨_, _, _, tracked_save ht b _⟩
  | settle =>
    simp only [CaptureWorld.step] at hv
    split at hv
    · cases hv
      exact ⟨_, _, _, tracked_settle ht⟩
    · exact nomatch hv
  | startAdmission =>
    simp only [CaptureWorld.step] at hv
    split at hv
    · cases hv
      exact ⟨_, _, _, tracked_admission ht fun _ hn =>
        (Option.not_mem_none _ hn).elim⟩
    · exact nomatch hv
  | readSettledBytes =>
    obtain ⟨admission, hr, hv⟩ := Option.bind_eq_some_iff.mp hv
    split at hv
    · cases hv
      refine ⟨_, _, _, tracked_admission ht ?_⟩
      rintro f ⟨⟩
      rfl
    · exact nomatch hv
  | admitObserved pr d =>
    obtain ⟨admission, hr, hv⟩ := Option.bind_eq_some_iff.mp hv
    obtain ⟨o, hre, hv⟩ := Option.bind_eq_some_iff.mp hv
    obtain ⟨f', q', ha⟩ := tracked_admitObserved ht hr hre hu hv
    exact ⟨_, _, _, ha⟩
  | selectEvent =>
    simp only [CaptureWorld.step] at hv
    split at hv
    · next hi =>
      obtain ⟨event, hsd, rfl⟩ := Option.map_eq_some_iff.mp hv
      exact ⟨_, _, _, tracked_selectEvent ht (beq_iff_eq.mp hi) hsd⟩
    · exact nomatch hv
  | startPreflight =>
    simp only [CaptureWorld.step] at hv
    split at hv
    · next event hs =>
      obtain ⟨s', q', ha⟩ := tracked_startPreflight ht hs hv
      exact ⟨_, _, _, ha⟩
    · exact nomatch hv
  | answerPreflight an =>
    simp only [CaptureWorld.step] at hv
    split at hv
    · next event hp =>
      obtain ⟨f', s', ha⟩ := tracked_answerPreflight ht hp hv
      exact ⟨_, _, _, ha⟩
    · exact nomatch hv
  | reachDeadline =>
    simp only [CaptureWorld.step] at hv
    split at hv
    · next hg =>
      cases hv
      exact ⟨_, _, _, tracked_reachDeadline ht hg⟩
    · exact nomatch hv
  | rereadBytes =>
    simp only [CaptureWorld.step] at hv
    split at hv
    · next event isMultipart hg =>
      obtain ⟨s', ha⟩ := tracked_rereadBytes hc ht hg hv
      exact ⟨_, _, _, ha⟩
    · exact nomatch hv
  | acceptUpload sourceId baseVersionId =>
    simp only [CaptureWorld.step] at hv
    split at hv
    · next event hse =>
      cases hv
      exact ⟨_, _, _, tracked_acceptUpload ht hse⟩
    · exact nomatch hv
  | persistReceipt =>
    simp only [CaptureWorld.step] at hv
    split at hv
    · next event sourceId baseVersionId hac =>
      obtain ⟨f', ha⟩ := tracked_persistReceipt ht hac hv
      exact ⟨_, _, _, ha⟩
    · exact nomatch hv

theorem TrackedNote.init {Bytes : Type} {deriveFrozenFingerprint : Bytes → FrozenFingerprint}
    {path : Locator} {world : CaptureWorld Bytes}
    (hi : CaptureWorld.Init deriveFrozenFingerprint path world) :
    TrackedNote deriveFrozenFingerprint path world := by
  obtain ⟨file, ht, hl, hh, _, hc, hr⟩ := hi.file
  obtain ⟨hnr, hnd, hn, hid⟩ := hi.idle
  have hno : world.journal.journalEvents.filter (·.state.isPending) = [] := by
    rw [List.filter_eq_nil_iff]
    intro row hs hp
    rw [(hr row hs).2.2.1] at hp
    contradiction
  refine ⟨file, none, none, ⟨hi.unique, ht, hl, hh, hi.operands,
    fun row hs => (hr row hs).1, fun row hs => (hr row hs).2.1,
    fun row hs => (hr row hs).2.2.2.1, fun row hs => (hr row hs).2.2.2.2,
    hno, fun _ hm => (Option.not_mem_none _ hm).elim,
    fun _ hm => (Option.not_mem_none _ hm).elim,
    fun _ hm => (Option.not_mem_none _ hm).elim⟩, hid ▸ .idle, ?_, ?_, ?_, ?_,
    fun _ => hi.vault.symm, fun _ => ?_⟩
  · rw [hid, hi.server]
    exact hc
  · rintro row (hne | hne) <;> exact (Option.some_ne_none row hne.symm).elim
  · rw [hn]
    exact fun _ hm => (Option.not_mem_none _ hm).elim
  · rw [hn]
    exact fun _ _ _ hm => (Option.not_mem_none _ hm).elim
  · rw [hid]
    exact .inr (.inl hc)

/-- Once nothing of the note is pending, its committed bytes are the ones last settled, or a later
settle is owed. -/
def NothingLost {Bytes : Type} (path : Locator) (world : CaptureWorld Bytes) : Prop :=
  (∀ row ∈ world.journal.journalEvents, row.state.isPending = false) →
    world.lastCommitted path = some world.settled ∨ world.isOwed = true

/-- No update is lost in a run in which an admission finds the committed bytes only while the note
still comes to them, and no capture changes the bytes of an event a pass has selected. -/
theorem no_lost_local_update {Bytes : Type} {deriveFrozenFingerprint : Bytes → FrozenFingerprint}
    (collisionFree : CollisionFree deriveFrozenFingerprint) {path : Locator}
    {world : CaptureWorld Bytes}
    (reached : (captureMachine deriveFrozenFingerprint path).GuardedReachable
      (fun before action => before.undisturbed path action = true) world) :
    NothingLost path world := by
  have hno : TrackedNote deriveFrozenFingerprint path world :=
    reached.invariant (fun _ => TrackedNote.init) fun _ _ _ hno hu hv =>
      hno.step collisionFree hu hv
  obtain ⟨file, started, queued, ht⟩ := hno
  intro hn
  cases ho : world.isOwed with
  | true => exact .inr rfl
  | false =>
    have he : ∀ row, ¬ (started = some row ∨ queued = some row) := by
      intro row hi
      obtain ⟨hsd, hp⟩ := (SlotsLemmas.mem_slots ht.slots).mpr hi
      rw [hn row hsd] at hp
      contradiction
    have hst := ht.stage
    rw [lastCommitted_eq ht]
    rcases ht.coming ho with ⟨row, hq, _⟩ | hr
    · exact absurd (.inr hq) (he row)
    · cases hpa : world.pass <;> rw [hpa] at hr hst
      case sending event =>
        cases hst with
        | sending hh =>
          obtain ⟨row, hs, _⟩ := hh
          exact absurd (.inl hs) (he row)
      case accepted event sourceId baseVersionId =>
        cases hst with
        | accepted hh =>
          obtain ⟨row, hs, _⟩ := hh
          exact absurd (.inl hs) (he row)
      all_goals
        rcases hr with hc | ⟨row, hs, _⟩
        · exact .inl hc
        · exact absurd (.inl hs) (he row)

/-! ## Runs of one note -/

namespace CaptureRunsLemmas

/-- A tracked note whose committed bytes are `aa`. -/
def sampleNote : CaptureWorld String where
  journal :=
    { JournalRepository.empty with
      localFiles :=
        [{ localFileId := 1
           normalizedPath := "a.md"
           sourceId := some 10
           observedFingerprint := sampleFingerprint "aa"
           baseVersionId := some 10
           policyRevisionNumber := 1
           lastCommittedFingerprint := some (sampleFingerprint "aa")
           lastLocator := none
           openTombstoneId := none
           lifecycleState := .active
           restorePriorPath := none }] }
  nowEpochMs := 0
  issuedEventIds := []
  vault := "aa"
  settled := sampleFingerprint "aa"
  settleTimer := none
  queuedAdmissions := 0
  admission := none
  pass := .idle
  server := sampleFingerprint "aa"

theorem sampleNote_init : CaptureWorld.Init sampleFingerprint "a.md" sampleNote := by
  refine ⟨⟨_, rfl, rfl, rfl, rfl, rfl, ?_⟩, List.nodup_nil, rfl, rfl, rfl, rfl, rfl, rfl, rfl⟩
  exact fun row hm => (List.not_mem_nil hm).elim

theorem sampleFingerprint_collisionFree : CollisionFree sampleFingerprint := fun _ _ he _ => he

/-- A save and its settled admission, a quarter of a second later. -/
def saveAndAdmit (bytes : String) (eventId nowEpochMs : Nat) : List (CaptureAction String) :=
  [.save bytes, .advanceClock 250, .settle, .startAdmission, .readSettledBytes,
   .admitObserved 1 { sampleDraw 1 eventId with nowEpochMs := nowEpochMs }]

/-- A pass up to the bytes that are on their way. -/
def sendSelected : List (CaptureAction String) :=
  [.startPreflight, .answerPreflight (.singlePartUpload "operation-token-operation-token-1"),
   .rereadBytes]

/-- A save, a pass that sends it, and what happens until the server has accepted it. -/
def sendSave (meanwhile : List (CaptureAction String)) : List (CaptureAction String) :=
  saveAndAdmit "bb" 20 250 ++ [.selectEvent] ++ sendSelected ++ meanwhile ++
    [.acceptUpload 10 30, .persistReceipt]

/-- Nothing is pending or owed, and the note stands at the given digests. -/
def standsAt (committed settled : String) (world : CaptureWorld String) : Bool :=
  world.journal.journalEvents.all (fun row => !row.state.isPending) && !world.isOwed &&
    world.lastCommitted "a.md" == some (sampleFingerprint committed) &&
    world.settled == sampleFingerprint settled

theorem standsAt_spec {c s : String} {world : CaptureWorld String}
    (ht : standsAt c s world = true) :
    (∀ row ∈ world.journal.journalEvents, row.state.isPending = false) ∧ world.isOwed = false ∧
      world.lastCommitted "a.md" = some (sampleFingerprint c) ∧
      world.settled = sampleFingerprint s := by
  simpa [standsAt, and_assoc] using ht

theorem not_nothingLost {c s : String} {world : CaptureWorld String}
    (hd : sampleFingerprint c ≠ sampleFingerprint s)
    (ht : standsAt c s world = true) : ¬ NothingLost "a.md" world := by
  obtain ⟨hn, hi, hc, hs⟩ := standsAt_spec ht
  intro hno
  rcases hno hn with he | ho
  · rw [hc, hs] at he
    exact hd (Option.some.inj he)
  · rw [hi] at ho
    contradiction

end CaptureRunsLemmas

/-- A save that is captured, sent and committed. -/
theorem no_lost_local_update_one_save : ∃ world : CaptureWorld String,
    NothingLost "a.md" world ∧ world.lastCommitted "a.md" = some (sampleFingerprint "bb") ∧
      world.settled = sampleFingerprint "bb" := by
  have ho : ((captureMachine sampleFingerprint "a.md").run sampleNote (sendSave [])).map
      (standsAt "bb" "bb") = some true := by
    decide +kernel
  obtain ⟨world, ran, ht⟩ := Option.map_eq_some_iff.mp ho
  have hch : (captureMachine sampleFingerprint "a.md").runChecks
      (fun b a => b.undisturbed "a.md" a) sampleNote (sendSave []) = true := by
    decide +kernel
  have hr := Machine.guardedReachable_of_run (fun _ _ => id) sampleNote_init ran hch
  obtain ⟨_, _, hc, hs⟩ := standsAt_spec ht
  exact ⟨world, no_lost_local_update sampleFingerprint_collisionFree hr, hc, hs⟩

/-- The edit is on its way when its revert settles: the admission finds the committed bytes, drops
the revert, and the edit commits. -/
theorem reverted_save_lost : ∃ world : CaptureWorld String,
    (captureMachine sampleFingerprint "a.md").Reachable world ∧ ¬ NothingLost "a.md" world := by
  have ho : ((captureMachine sampleFingerprint "a.md").run sampleNote
      (sendSave (saveAndAdmit "aa" 21 500))).map (standsAt "bb" "aa") = some true := by
    decide +kernel
  obtain ⟨world, ran, ht⟩ := Option.map_eq_some_iff.mp ho
  exact ⟨world, Machine.reachable_of_run sampleNote_init ran,
    not_nothingLost (by decide +kernel) ht⟩

/-- A capture rewrites the event that a pass has selected: the pass compares the later bytes with
the earlier ones and closes the event that carries the later. -/
theorem rewritten_selection_lost : ∃ world : CaptureWorld String,
    (captureMachine sampleFingerprint "a.md").Reachable world ∧ ¬ NothingLost "a.md" world := by
  have ho : ((captureMachine sampleFingerprint "a.md").run sampleNote
      (saveAndAdmit "bb" 20 250 ++ [.selectEvent] ++ saveAndAdmit "cc" 21 500 ++ sendSelected)).map
        (standsAt "aa" "cc") = some true := by
    decide +kernel
  obtain ⟨world, ran, ht⟩ := Option.map_eq_some_iff.mp ho
  exact ⟨world, Machine.reachable_of_run sampleNote_init ran,
    not_nothingLost (by decide +kernel) ht⟩

end PersonalOs.Journal
