import PersonalOs.Journal.LifecycleRepository

/-!
# What the journal's mutations do to its events

Each mutation of the journal rewrites, drops or appends event rows. A quiet one appends nothing,
makes no closed event pending again and keeps a ready event ready; the others park one event for a
later retry or append one.
-/

namespace PersonalOs.Journal

/-! ## Rows -/

/-- A frozen row stays frozen, with its fingerprint, operation and idempotency key. -/
def KeepsFrozen (row row' : StoredJournalEvent) : Prop :=
  row.isFingerprintFrozen = true → row'.isFingerprintFrozen = true ∧
    row'.fingerprint = row.fingerprint ∧ row'.operation = row.operation ∧
    row'.idempotencyKey = row.idempotencyKey

def KeepsClosed (row row' : StoredJournalEvent) : Prop :=
  row.state.isPending = false → row'.state = row.state

structure RowKept (row row' : StoredJournalEvent) : Prop where
  age : row'.age = row.age
  eventId : row'.eventId = row.eventId
  localFileId : row'.localFileId = row.localFileId
  isContent : row'.operation.isContent = row.operation.isContent
  createdAt : row'.createdAtEpochMs = row.createdAtEpochMs
  pending : row'.state.isPending = true → row.state.isPending = true
  committed : row.state = .committed → row'.state = .committed
  frozen : KeepsFrozen row row'

/-- A pass may select the row at any time: it is started, or queued without a retry time. -/
def StateReady (row : StoredJournalEvent) : Prop :=
  row.state.isStarted = true ∨ row.state = .queued ∧ row.nextEligibleRetryEpochMs = none

/-- A rewrite that is also quiet about readiness. -/
structure RowReady (row row' : StoredJournalEvent) : Prop extends RowKept row row' where
  ready : row'.state.isPending = true → StateReady row → StateReady row'

/-- A rewrite that is also quiet about closed states. -/
structure RowQuiet (row row' : StoredJournalEvent) : Prop extends RowReady row row' where
  closed : KeepsClosed row row'

theorem KeepsFrozen.trans {a b c : StoredJournalEvent} (hfi : KeepsFrozen a b)
    (hs : KeepsFrozen b c) : KeepsFrozen a c := by
  intro hfr
  obtain ⟨hfr', hf, ho, key⟩ := hfi hfr
  obtain ⟨hf'', hf', ho', hk'⟩ := hs hfr'
  exact ⟨hf'', hf'.trans hf, ho'.trans ho, hk'.trans key⟩

theorem KeepsClosed.trans {a b c : StoredJournalEvent} (hf : KeepsClosed a b)
    (hs : KeepsClosed b c) : KeepsClosed a c := by
  intro hc
  have he := hf hc
  exact (hs (he ▸ hc)).trans he

theorem keepsClosed_of_pending {row r' : StoredJournalEvent}
    (hp : row.state.isPending = true) : KeepsClosed row r' :=
  fun hc => absurd (hp.symm.trans hc) Bool.noConfusion

theorem RowKept.refl (row : StoredJournalEvent) : RowKept row row :=
  ⟨rfl, rfl, rfl, rfl, rfl, id, id, fun hf => ⟨hf, rfl, rfl, rfl⟩⟩

theorem RowQuiet.refl (row : StoredJournalEvent) : RowQuiet row row :=
  ⟨⟨.refl row, fun _ hr => hr⟩, fun _ => rfl⟩

theorem RowKept.trans {a b c : StoredJournalEvent} (hf : RowKept a b) (hs : RowKept b c) :
    RowKept a c where
  age := hs.age.trans hf.age
  eventId := hs.eventId.trans hf.eventId
  localFileId := hs.localFileId.trans hf.localFileId
  isContent := hs.isContent.trans hf.isContent
  createdAt := hs.createdAt.trans hf.createdAt
  pending := fun hp => hf.pending (hs.pending hp)
  committed := fun hc => hs.committed (hf.committed hc)
  frozen := hf.frozen.trans hs.frozen

theorem RowReady.trans {a b c : StoredJournalEvent} (hf : RowReady a b)
    (hs : RowReady b c) : RowReady a c where
  toRowKept := hf.toRowKept.trans hs.toRowKept
  ready := fun hp hr =>
    hs.ready hp (hf.ready (hs.pending hp) hr)

theorem RowQuiet.trans {a b c : StoredJournalEvent} (hf : RowQuiet a b)
    (hs : RowQuiet b c) : RowQuiet a c :=
  ⟨hf.toRowReady.trans hs.toRowReady, hf.closed.trans hs.closed⟩

theorem RowKept.rewrite {row r' : StoredJournalEvent} (age : r'.age = row.age)
    (he : r'.eventId = row.eventId) (hl : r'.localFileId = row.localFileId)
    (hco : r'.operation.isContent = row.operation.isContent)
    (hcr : r'.createdAtEpochMs = row.createdAtEpochMs)
    (hf : KeepsFrozen row r') (hp : row.state.isPending = true) : RowKept row r' where
  age := age
  eventId := he
  localFileId := hl
  isContent := hco
  createdAt := hcr
  pending := fun _ => hp
  committed := fun hc => by
    rw [hc] at hp
    exact absurd hp Bool.false_ne_true
  frozen := hf

theorem RowQuiet.close {row r' : StoredJournalEvent} (hk : RowKept row r')
    (hpe : row.state.isPending = true) (hc : r'.state.isPending = false) :
    RowQuiet row r' where
  toRowKept := hk
  ready := fun hp => absurd (hc ▸ hp) Bool.false_ne_true
  closed := keepsClosed_of_pending hpe

/-! ## Journals -/

/-- The predecessor the event's operands name; `none` without operands. -/
def JournalRepository.predecessorOf (journal : JournalRepository) (eventId : Nat) :
    Option (Option Nat) :=
  (journal.readOperands eventId).map (·.predecessorEventId)

/-- Event ids are the key of `journal_events`. -/
abbrev UniqueEvents (journal : JournalRepository) : Prop :=
  Tables.Unique (·.eventId) journal.journalEvents

def CommittedIn (journal : JournalRepository) (localFileId eventId : Nat) : Prop :=
  ∃ row ∈ journal.journalEvents, row.eventId = eventId ∧ row.localFileId = localFileId ∧
    row.state = .committed

/-- The events of `after` stem, one by one and in their order, from those of `before` by rewrites
`P`; operands and committed events that matter to them are still there. -/
structure Stems (P : StoredJournalEvent → StoredJournalEvent → Prop)
    (before after : JournalRepository) : Prop where
  rows : ∀ row' ∈ after.journalEvents, ∃ row ∈ before.journalEvents, P row row'
  unique : UniqueEvents before → UniqueEvents after
  predecessor : ∀ row' ∈ after.journalEvents,
    after.predecessorOf row'.eventId = before.predecessorOf row'.eventId
  committed : ∀ row' ∈ after.journalEvents, ∀ eventId,
    CommittedIn before row'.localFileId eventId → CommittedIn after row'.localFileId eventId
  operands : ∀ stored' ∈ after.lifecycleOperands, ∃ stored ∈ before.lifecycleOperands,
    stored.eventId = stored'.eventId ∧ stored.predecessorEventId = stored'.predecessorEventId

/-- Besides, a ready event that is still pending is still ready. -/
abbrev Quiet : JournalRepository → JournalRepository → Prop := Stems RowQuiet

variable {before a b c : JournalRepository}

theorem Stems.behind {P Q R : StoredJournalEvent → StoredJournalEvent → Prop}
    (hf : Stems P a b) (hs : Stems Q b c)
    (hk : ∀ row r', Q row r' → RowKept row r')
    (hc : ∀ row r' r'', P row r' → Q r' r'' → R row r'') : Stems R a c where
  rows := fun r'' hm => by
    obtain ⟨r', hs', hl⟩ := hs.rows r'' hm
    obtain ⟨row, sd, he⟩ := hf.rows r' hs'
    exact ⟨row, sd, hc row r' r'' he hl⟩
  unique := fun hu => hs.unique (hf.unique hu)
  predecessor := fun r'' hm => by
    obtain ⟨r', hs', hl⟩ := hs.rows r'' hm
    rw [hs.predecessor r'' hm, (hk r' r'' hl).eventId, hf.predecessor r' hs']
  committed := fun r'' hm ei before => by
    obtain ⟨r', hs', hl⟩ := hs.rows r'' hm
    refine hs.committed r'' hm ei ?_
    rw [(hk r' r'' hl).localFileId] at before ⊢
    exact hf.committed r' hs' ei before
  operands := fun sd'' hm => by
    obtain ⟨hs', hi', hsd', hsa'⟩ := hs.operands sd'' hm
    obtain ⟨sd, hi, hsd, hsa⟩ := hf.operands hs' hi'
    exact ⟨sd, hi, hsd.trans hsd', hsa.trans hsa'⟩

theorem Quiet.trans (hf : Quiet a b) (hs : Quiet b c) : Quiet a c :=
  hf.behind hs (fun _ _ hr => hr.toRowKept) fun _ _ _ => RowQuiet.trans

theorem quiet_of_same {af : JournalRepository} (he : af.journalEvents = before.journalEvents)
    (ho : af.lifecycleOperands = before.lifecycleOperands) : Quiet before af where
  rows := fun r' hm => ⟨r', he ▸ hm, .refl r'⟩
  unique := fun hu => by
    rw [UniqueEvents, he]
    exact hu
  predecessor := fun r' _ => by
    simp only [JournalRepository.predecessorOf, JournalRepository.readOperands, ho]
  committed := fun r' _ ei before => by
    rw [CommittedIn, he]
    exact before
  operands := fun sd' hm => ⟨sd', ho ▸ hm, rfl, rfl⟩

theorem Quiet.refl (journal : JournalRepository) : Quiet journal journal := quiet_of_same rfl rfl

theorem Quiet.writes (hq : Quiet a b) (he : c.journalEvents = b.journalEvents)
    (ho : c.lifecycleOperands = b.lifecycleOperands) : Quiet a c :=
  hq.trans (quiet_of_same he ho)

theorem Quiet.after (hq : Quiet b c) (he : b.journalEvents = a.journalEvents)
    (ho : b.lifecycleOperands = a.lifecycleOperands) : Quiet a c :=
  (quiet_of_same he ho).trans hq

/-! ## Statements -/

section Statements

variable {journal : JournalRepository}

theorem stems_updateWhere {P : StoredJournalEvent → StoredJournalEvent → Prop}
    {g : StoredJournalEvent → Bool} {w : StoredJournalEvent → StoredJournalEvent}
    (hke : ∀ row r', P row r' → RowKept row r') (hsa : ∀ row, P row row)
    (hr : ∀ row ∈ journal.journalEvents, g row = true → P row (w row))
    (hk : ∀ row, (w row).eventId = row.eventId) :
    Stems P journal
      { journal with journalEvents := Tables.updateWhere journal.journalEvents g w } where
  rows := fun r' hm => by
    obtain ⟨row, hs, hw⟩ := Tables.mem_updateWhere.mp hm
    refine ⟨row, hs, ?_⟩
    split at hw
    · next ha => exact hw ▸ hr row hs ha
    · exact hw ▸ hsa row
  unique := fun hu => hu.updateWhere hk
  predecessor := fun _ _ => rfl
  committed := fun r' _ ei before => by
    obtain ⟨row, hs, he, hf, hc⟩ := before
    refine ⟨if g row then w row else row, Tables.mem_updateWhere.mpr ⟨row, hs, rfl⟩, ?_⟩
    have hre : RowKept row (if g row then w row else row) := by
      split
      · next ha => exact hke row _ (hr row hs ha)
      · exact .refl row
    exact ⟨hre.eventId.trans he, hre.localFileId.trans hf, hre.committed hc⟩
  operands := fun sd' hm => ⟨sd', hm, rfl, rfl⟩

theorem quiet_updateEvent {ei : Nat} {w : StoredJournalEvent → StoredJournalEvent}
    (hr : ∀ row ∈ journal.journalEvents, row.eventId = ei → RowQuiet row (w row))
    (hk : ∀ row, (w row).eventId = row.eventId) :
    Quiet journal (journal.updateEvent ei w) :=
  stems_updateWhere (fun _ _ hre => hre.toRowKept) RowQuiet.refl
    (fun row hs ha => hr row hs (beq_iff_eq.mp ha)) hk

theorem quiet_freezeEvents (li : Nat) : Quiet journal (journal.freezeEvents li) := by
  refine stems_updateWhere (fun _ _ hr => hr.toRowKept) RowQuiet.refl
    (fun row _ ha => ?_) fun _ => rfl
  simp only [Bool.and_eq_true] at ha
  exact .close (.rewrite rfl rfl rfl rfl rfl (fun _ => ⟨rfl, rfl, rfl, rfl⟩) ha.1.2) ha.1.2 rfl

theorem quiet_deleteEvents {co : StoredJournalEvent → Bool}
    (hsp : ∀ row ∈ journal.journalEvents, co row = true → row.state ≠ .committed) :
    Quiet journal (journal.deleteEvents co) where
  rows := fun r' hm => ⟨r', (List.mem_filter.mp hm).1, .refl r'⟩
  unique := fun hu => (List.filter_sublist.map _).nodup hu
  predecessor := fun _ _ => rfl
  committed := fun r' _ ei before => by
    obtain ⟨row, hs, he, hf, hc⟩ := before
    refine ⟨row, List.mem_filter.mpr ⟨hs, ?_⟩, he, hf, hc⟩
    cases hd : co row with
    | true => exact absurd hc (hsp row hs hd)
    | false => rfl
  operands := fun sd' hm => ⟨sd', hm, rfl, rfl⟩

/-- A removed mapping takes the file's events and operands with it, and nothing of another file. -/
theorem quiet_removeLocalMapping (hu : UniqueEvents journal) (li : Nat) :
    Quiet journal (journal.removeLocalMapping li) := by
  unfold JournalRepository.removeLocalMapping
  split
  · refine ⟨fun r' hm => ⟨r', (List.mem_filter.mp hm).1, .refl r'⟩,
      fun hu => (List.filter_sublist.map _).nodup hu, fun r' hm => ?_,
      fun r' hm ei before => ?_,
      fun sd' hm => ⟨sd', (List.mem_filter.mp hm).1, rfl, rfl⟩⟩
    · obtain ⟨sd', ho⟩ := List.mem_filter.mp hm
      have hsp : ∀ e ∈ journal.journalEvents, e.eventId = r'.eventId → e.localFileId ≠ li := by
        intro e hi hs
        rw [hu.eq_of_key hi sd' hs]
        exact bne_iff_ne.mp ho
      refine congrArg (Option.map _) ?_
      unfold JournalRepository.readOperands Tables.lookup
      rw [List.find?_filter]
      congr 1
      funext op
      by_cases hs : op.eventId = r'.eventId
      · simp only [hs, Bool.not_eq_true', List.any_eq_false, Bool.and_eq_true, beq_iff_eq, not_and]
        exact decide_eq_true ⟨hsp, decide_true _⟩
      · simp [hs]
    · obtain ⟨row, hst, he, hf, hc⟩ := before
      have ho := (List.mem_filter.mp hm).2
      refine ⟨row, List.mem_filter.mpr ⟨hst, ?_⟩, he, hf, hc⟩
      rw [hf]
      exact ho
  · exact .refl journal

end Statements

end PersonalOs.Journal
