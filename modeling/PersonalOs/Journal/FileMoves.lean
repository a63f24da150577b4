import PersonalOs.Journal.JournalMachine

/-!
# What the journal's mutations do to its files

Each mutation rewrites the lifecycle columns of one file row at most, and only a receipt commits a
restore.
-/

namespace PersonalOs.Journal

open PersonalOs.DeviceSync (Locator)

/-! ## Rows -/

/-- The lifecycle columns of a row are untouched, and its identity is not lost. -/
structure SameLifecycle (file file' : LocalFile) : Prop where
  localFileId : file'.localFileId = file.localFileId
  state : file'.lifecycleState = file.lifecycleState
  tombstone : file'.openTombstoneId = file.openTombstoneId
  priorPath : file'.restorePriorPath = file.restorePriorPath
  identity : file.sourceId.isSome = true ∧ file.baseVersionId.isSome = true →
    file'.sourceId.isSome = true ∧ file'.baseVersionId.isSome = true

/-- A row as the first capture inserts it. -/
structure IsNewFile (file : LocalFile) : Prop where
  state : file.lifecycleState = .active
  tombstone : file.openTombstoneId = none
  priorPath : file.restorePriorPath = none

/-- The row of `localFileId` is rewritten by `P`, the other rows keep their lifecycle columns. -/
def FileMove (localFileId : Nat) (P : LocalFile → LocalFile → Prop)
    (before after : JournalRepository) : Prop :=
  ∀ id file', after.readLocalFileByLocalFileId id = some file' → IsNewFile file' ∨
    ∃ file, before.readLocalFileByLocalFileId id = some file ∧
      if id = localFileId then P file file' else SameLifecycle file file'

/-- Every row keeps its lifecycle columns. -/
def FilesKept (before after : JournalRepository) : Prop :=
  ∀ id file', after.readLocalFileByLocalFileId id = some file' → IsNewFile file' ∨
    ∃ file, before.readLocalFileByLocalFileId id = some file ∧ SameLifecycle file file'

def JournalRepository.isRestored (journal : JournalRepository) (localFileId tombstoneId : Nat) :
    Bool :=
  journal.journalEvents.any fun event => event.localFileId == localFileId &&
    event.operation == .restore && event.state == .committed &&
      journal.lifecycleOperands.any fun stored => stored.eventId == event.eventId &&
        stored.tombstoneId == some tombstoneId

def RestoresKept (localFileId : Nat) (before after : JournalRepository) : Prop :=
  ∀ tombstoneId, after.isRestored localFileId tombstoneId = true →
    before.isRestored localFileId tombstoneId = true

/-! ## Relations -/

section Relations

variable {journal middle next : JournalRepository} {localFileId : Nat}
  {P : LocalFile → LocalFile → Prop}

theorem SameLifecycle.refl (f : LocalFile) : SameLifecycle f f := ⟨rfl, rfl, rfl, rfl, id⟩

theorem SameLifecycle.trans {a b c : LocalFile} (hf : SameLifecycle a b)
    (hs : SameLifecycle b c) : SameLifecycle a c where
  localFileId := hs.localFileId.trans hf.localFileId
  state := hs.state.trans hf.state
  tombstone := hs.tombstone.trans hf.tombstone
  priorPath := hs.priorPath.trans hf.priorPath
  identity := fun hk => hs.identity (hf.identity hk)

theorem filesKept_of_same (hfi : next.localFiles = journal.localFiles) :
    FilesKept journal next := by
  intro id f' hf
  rw [JournalRepository.readLocalFileByLocalFileId, hfi] at hf
  exact .inr ⟨f', hf, .refl f'⟩

theorem FilesKept.trans (hfi : FilesKept journal middle) (hs : FilesKept middle next) :
    FilesKept journal next := by
  intro id f'' hf
  rcases hs id f'' hf with hn | ⟨f', hf', hl⟩
  · exact .inl hn
  rcases hfi id f' hf' with hn | ⟨f, hf, he⟩
  · exact .inl ⟨hl.state.trans hn.state, hl.tombstone.trans hn.tombstone,
      hl.priorPath.trans hn.priorPath⟩
  · exact .inr ⟨f, hf, .trans he hl⟩

theorem FileMove.after (hm : FileMove localFileId P middle next)
    (hfi : middle.localFiles = journal.localFiles) : FileMove localFileId P journal next := by
  intro id f' hf
  rcases hm id f' hf with hn | ⟨f, hf, hv⟩
  · exact .inl hn
  · rw [JournalRepository.readLocalFileByLocalFileId, hfi] at hf
    exact .inr ⟨f, hf, hv⟩

theorem FileMove.writes (hm : FileMove localFileId P journal middle)
    (hfi : next.localFiles = middle.localFiles) : FileMove localFileId P journal next := by
  intro id f' hf
  rw [JournalRepository.readLocalFileByLocalFileId, hfi] at hf
  exact hm id f' hf

theorem FileMove.mono {Q : LocalFile → LocalFile → Prop} (hm : FileMove localFileId P journal next)
    (hw : ∀ f f', journal.readLocalFileByLocalFileId localFileId = some f →
      P f f' → Q f f') : FileMove localFileId Q journal next := by
  intro id f' hf
  rcases hm id f' hf with hn | ⟨f, hf, hv⟩
  · exact .inl hn
  · refine .inr ⟨f, hf, ?_⟩
    split at hv
    · next he =>
      rw [if_pos he]
      exact hw f f' (he ▸ hf) hv
    · next ho =>
      rw [if_neg ho]
      exact hv

theorem FileMove.kept (hm : FileMove localFileId SameLifecycle journal next) :
    FilesKept journal next := by
  intro id f' hf
  rcases hm id f' hf with hn | ⟨f, hf, hv⟩
  · exact .inl hn
  · refine .inr ⟨f, hf, ?_⟩
    split at hv <;> exact hv

variable {write : LocalFile → LocalFile}

theorem RestoresKept.refl : RestoresKept localFileId journal journal := fun _ => id

theorem RestoresKept.trans (hf : RestoresKept localFileId journal middle)
    (hs : RestoresKept localFileId middle next) : RestoresKept localFileId journal next :=
  fun tombstoneId hr => hf tombstoneId (hs tombstoneId hr)

theorem isRestored_iff {tombstoneId : Nat} :
    journal.isRestored localFileId tombstoneId = true ↔ ∃ e ∈ journal.journalEvents,
      e.localFileId = localFileId ∧ e.operation = .restore ∧ e.state = .committed ∧
        ∃ sd ∈ journal.lifecycleOperands, sd.eventId = e.eventId ∧
          sd.tombstoneId = some tombstoneId := by
  simp only [JournalRepository.isRestored, List.any_eq_true, Bool.and_eq_true, beq_iff_eq,
    and_assoc]

theorem restoresKept_of (he : ∀ e' ∈ next.journalEvents, e'.localFileId = localFileId →
      e'.operation = .restore → e'.state = .committed →
      ∃ e ∈ journal.journalEvents, e.eventId = e'.eventId ∧
        e.localFileId = localFileId ∧ e.operation = .restore ∧ e.state = .committed)
    (operands : ∀ sd' ∈ next.lifecycleOperands, ∀ e ∈ journal.journalEvents,
      sd'.eventId = e.eventId → ∃ sd ∈ journal.lifecycleOperands,
        sd.eventId = sd'.eventId ∧ sd.tombstoneId = sd'.tombstoneId) :
    RestoresKept localFileId journal next := by
  intro tombstoneId hrd
  obtain ⟨e', hm, ho, hre, hc, sd', hi, hsd, ht⟩ :=
    isRestored_iff.mp hrd
  obtain ⟨e, sd, hsa, hr⟩ := he e' hm ho hre hc
  obtain ⟨op, hst, hss, hs⟩ :=
    operands sd' hi e sd (hsd.trans hsa.symm)
  exact isRestored_iff.mpr ⟨e, sd, hr.1, hr.2.1, hr.2.2, op,
    hst, hss.trans (hsd.trans hsa.symm), hs.trans ht⟩

theorem restoresKept_of_subset (he : next.journalEvents ⊆ journal.journalEvents)
    (operands : next.lifecycleOperands ⊆ journal.lifecycleOperands) :
    RestoresKept localFileId journal next :=
  restoresKept_of (fun e' hm ho hr hc =>
      ⟨e', he hm, rfl, ho, hr, hc⟩)
    fun sd' hi _ _ _ => ⟨sd', operands hi, rfl, rfl⟩

theorem restoresKept_of_same (he : next.journalEvents = journal.journalEvents)
    (operands : next.lifecycleOperands = journal.lifecycleOperands) :
    RestoresKept localFileId journal next :=
  restoresKept_of_subset (he ▸ List.Subset.refl _) (operands ▸ List.Subset.refl _)

end Relations

/-! ## The mutations, one by one -/

/-- Neither the lifecycle columns nor the restored tombstones change. -/
structure LifecycleKept (before after : JournalRepository) : Prop where
  files : FilesKept before after
  restores : ∀ localFileId, RestoresKept localFileId before after

/-- One row moves by `P`, and no tombstone is restored. -/
structure LifecycleMove (localFileId : Nat) (P : LocalFile → LocalFile → Prop)
    (before after : JournalRepository) : Prop where
  files : FileMove localFileId P before after
  restores : ∀ localFileId, RestoresKept localFileId before after

section Kept

variable {journal middle next : JournalRepository} {localFileId : Nat}
  {P : LocalFile → LocalFile → Prop}

theorem LifecycleKept.trans (hf : LifecycleKept journal middle)
    (hs : LifecycleKept middle next) : LifecycleKept journal next :=
  ⟨hf.files.trans hs.files, fun id => (hf.restores id).trans (hs.restores id)⟩

theorem LifecycleKept.writes (hk : LifecycleKept journal middle)
    (hf : next.localFiles = middle.localFiles)
    (he : next.journalEvents = middle.journalEvents)
    (operands : next.lifecycleOperands = middle.lifecycleOperands) : LifecycleKept journal next :=
  hk.trans ⟨filesKept_of_same hf, fun _ => restoresKept_of_same he operands⟩

theorem LifecycleKept.after (hk : LifecycleKept middle next)
    (hf : middle.localFiles = journal.localFiles)
    (he : middle.journalEvents = journal.journalEvents)
    (operands : middle.lifecycleOperands = journal.lifecycleOperands) :
    LifecycleKept journal next :=
  LifecycleKept.trans ⟨filesKept_of_same hf, fun _ => restoresKept_of_same he operands⟩ hk

theorem LifecycleMove.writes (hm : LifecycleMove localFileId P journal middle)
    (hf : next.localFiles = middle.localFiles)
    (he : next.journalEvents = middle.journalEvents)
    (operands : next.lifecycleOperands = middle.lifecycleOperands) :
    LifecycleMove localFileId P journal next :=
  ⟨hm.files.writes hf,
    fun id => (hm.restores id).trans (restoresKept_of_same he operands)⟩

theorem LifecycleMove.behind (hm : LifecycleMove localFileId P middle next)
    (hk : LifecycleKept journal middle) (hf : middle.localFiles = journal.localFiles) :
    LifecycleMove localFileId P journal next :=
  ⟨hm.files.after hf, fun id => (hk.restores id).trans (hm.restores id)⟩

end Kept

namespace FileMovesLemmas

open MoveLemmas

variable {journal middle next : JournalRepository} {localFileId : Nat}
  {P : LocalFile → LocalFile → Prop}

variable {eventId due : Nat} {safeError : JournalSafeErrorLabel}
  {terminalState : JournalNonRetryEventState} {path : Locator} {write : LocalFile → LocalFile}
  {draw : Draw} {input : AttemptInput} {newPath : Option Locator}
  {operands : LifecycleEventOperands} {tombstoneId : Option Nat}

end FileMovesLemmas

end PersonalOs.Journal
