import PersonalOs.Journal.GenerationRuns

/-!
# Commits that reject

`commitGeneration` runs the mutation in a transaction on the database in memory, and publishes the
database only after its COMMIT. A mutation that throws is rolled back. A publication that fails is
not: the promise rejects, and the transaction stays in memory for the next commit to publish.
-/

namespace PersonalOs.Journal

/-- How a file answers a write and its read back. -/
inductive FileAnswer (α : Type)
  | writeFails
  | readFails
  | reads (found : α)
deriving DecidableEq

/-- What one commit meets. The manifest read back is parsed, and `none` where it does not parse. -/
structure CommitAnswers (β : Type) where
  /-- The BEGIN, the operation or the read of the meta row throws. -/
  operationThrows : Option JournalStoreError
  /-- The meta row is written and the COMMIT succeeds. -/
  isSealed : Bool
  isExported : Bool
  image : FileAnswer (List β)
  manifest : FileAnswer (Option JournalGenerationManifest)
deriving DecidableEq

/-- What may follow a commit. -/
inductive LaterCall (ρ β : Type)
  | commit (answers : CommitAnswers β) (operation : JournalDatabase ρ → JournalDatabase ρ)
  | markReconcileComplete

namespace JournalPersistence

variable {ρ β : Type} (engine : SqliteEngine ρ β)

section Commits

variable (answers : CommitAnswers β) (persistence : JournalPersistence ρ)

def publishGeneration : Except JournalStoreError (JournalPersistence ρ) :=
  let current := engine.describe persistence.nextGenerationNumber persistence.database
  let manifest : JournalGenerationManifest := ⟨current, persistence.verifiedGeneration⟩
  if !answers.isExported then .error .journalQueryFailed
  else match answers.image with
    | .writeFails | .readFails => .error .journalGenerationWriteFailed
    | .reads readBack =>
      if readBack.length != current.sizeBytes || engine.sha256Hex readBack != current.sha256 then
        .error .journalGenerationWriteFailed
      else match answers.manifest with
        | .writeFails | .readFails => .error .journalManifestInvalid
        | .reads readBack =>
          if readBack != some manifest then .error .journalManifestInvalid
          else .ok (persistence.switchChain current)

/-- `#executeGenerationCommit`: the instance after it, and the reason of a rejection. The reconcile
flag is merged before the meta row is written. -/
def executeGenerationCommit (operation : JournalDatabase ρ → JournalDatabase ρ) :
    JournalPersistence ρ × Option JournalStoreError :=
  let committed := persistence.executeTransaction operation
  match answers.operationThrows with
  | some reason => (persistence, some reason)
  | none =>
    if answers.isSealed then
      match committed.publishGeneration engine answers with
      | .error reason => (committed, some reason)
      | .ok published => (published, none)
    else
      ({ persistence with isReconcileRequired := committed.isReconcileRequired },
        some .journalMutationFailed)

end Commits

/-! ## Traces -/

/-- The generation a later call publishes, and the instance after it. -/
def later (persistence : JournalPersistence ρ) :
    LaterCall ρ β → Option (Publication ρ) × JournalPersistence ρ
  | .commit answers operation =>
    let (after, rejection) := persistence.executeGenerationCommit engine answers operation
    (if rejection.isNone then
      some (PersistedJournal.inProgress engine (persistence.executeTransaction operation))
    else none, after)
  | .markReconcileComplete => (none, persistence.markReconcileComplete)

/-- The generations later calls publish. -/
def publications (persistence : JournalPersistence ρ) :
    List (LaterCall ρ β) → List (Publication ρ)
  | [] => []
  | call :: rest => (persistence.later engine call).1.toList ++
    (persistence.later engine call).2.publications rest

/-- The database is as it was, and so is every generation published later. -/
def Traceless (before after : JournalPersistence ρ) : Prop :=
  after.database = before.database ∧
    ∀ calls, after.publications engine calls = before.publications engine calls

/-- The operation throws; or what it makes of the database, with the meta row stamped, is the
database as it was, where that is sealed, and the reconcile flag, where it counts, is not raised. -/
def Undone (persistence : JournalPersistence ρ) (answers : CommitAnswers β)
    (operation : JournalDatabase ρ → JournalDatabase ρ) : Prop :=
  let changed := operation persistence.database
  let isReconcileRequired :=
    persistence.mergeReconcileRequired changed.journal.isReconcileRequired
  answers.operationThrows.isSome = true ∨
    (answers.isSealed = true →
      { changed with
        dirtyGeneration := persistence.nextGenerationNumber
        journal := { changed.journal with isReconcileRequired } } = persistence.database) ∧
      (persistence.isReconcileComplete = true ∨
        isReconcileRequired = persistence.isReconcileRequired)

/-- The same instance, but for a reconcile flag that no longer counts. -/
structure Alike (before after : JournalPersistence ρ) : Prop where
  rest : after = { before with isReconcileRequired := after.isReconcileRequired }
  flag : before.isReconcileComplete = true ∨
    after.isReconcileRequired = before.isReconcileRequired

end JournalPersistence

namespace RejectedCommitsLemmas

open JournalPersistence

variable {ρ β : Type} {engine : SqliteEngine ρ β} {answers : CommitAnswers β}
  {operation : JournalDatabase ρ → JournalDatabase ρ}
  {persistence before after : JournalPersistence ρ}

theorem rejected_persistence
    (hr : (persistence.executeGenerationCommit engine answers operation).2.isSome = true) :
    (persistence.executeGenerationCommit engine answers operation).1 =
      if answers.operationThrows.isSome then persistence
      else if answers.isSealed then persistence.executeTransaction operation
      else { persistence with
        isReconcileRequired :=
          (persistence.executeTransaction operation).isReconcileRequired } := by
  unfold executeGenerationCommit at hr ⊢
  cases ht : answers.operationThrows with
  | some reason => rfl
  | none =>
    cases hs : answers.isSealed with
    | false => rfl
    | true =>
      rw [ht, hs] at hr
      cases hp : (persistence.executeTransaction operation).publishGeneration engine answers with
      | error reason => simp [hp]
      | ok published => simp [hp] at hr

theorem executeTransaction_alike (hs : before.Alike after)
    (operation : JournalDatabase ρ → JournalDatabase ρ) :
    after.executeTransaction operation = before.executeTransaction operation := by
  rcases hs.flag with hc | hf
  -- Once the reconcile is complete, the flag of the meta row alone counts.
  · rw [hs.rest]
    simp [executeTransaction, mergeReconcileRequired, hc, nextGenerationNumber]
  · rw [hs.rest, hf]

theorem later_alike (hs : before.Alike after) (call : LaterCall ρ β) :
    (after.later engine call).1 = (before.later engine call).1 ∧
      (before.later engine call).2.Alike (after.later engine call).2 := by
  cases call with
  | markReconcileComplete =>
    refine ⟨rfl, ?_, .inr rfl⟩
    show after.markReconcileComplete = before.markReconcileComplete
    rw [hs.rest]
    rfl
  | commit answers operation =>
    have ht := executeTransaction_alike hs operation
    obtain ⟨thrown, isSealed, isExported, image, manifest⟩ := answers
    simp only [later, executeGenerationCommit, ht]
    cases thrown with
    | some reason => exact ⟨rfl, hs⟩
    | none =>
      cases isSealed with
      | true => exact ⟨rfl, rfl, .inr rfl⟩
      | false =>
        refine ⟨rfl, ?_, .inr rfl⟩
        rw [hs.rest]

theorem publications_alike (hs : before.Alike after) (calls : List (LaterCall ρ β)) :
    after.publications engine calls = before.publications engine calls := by
  induction calls generalizing before after with
  | nil => rfl
  | cons call rest ih =>
    obtain ⟨same, alike⟩ : (after.later engine call).1 = (before.later engine call).1 ∧ _ :=
      later_alike hs call
    rw [publications, publications, same, ih alike]

/-- The answers to a commit of this database whose files read back what was written. -/
def keeps (engine : SqliteEngine ρ β) (committed : JournalPersistence ρ) : CommitAnswers β where
  operationThrows := none
  isSealed := true
  isExported := true
  image := .reads (engine.exportImage committed.database)
  manifest := .reads (some
    ⟨engine.describe committed.nextGenerationNumber committed.database,
      committed.verifiedGeneration⟩)

theorem later_keeps : (persistence.later engine
      (.commit (keeps engine (persistence.executeTransaction operation)) operation)).1 =
    some (PersistedJournal.inProgress engine (persistence.executeTransaction operation)) := by
  simp [later, executeGenerationCommit, publishGeneration, keeps, SqliteEngine.describe]

theorem later_database {publication : Publication ρ}
    (hp : (persistence.later engine (.commit answers operation)).1 = some publication) :
    publication.database = (persistence.executeTransaction operation).database := by
  simp only [later] at hp
  split at hp
  · cases hp
    rfl
  · cases hp

theorem flag_published (hn : before.isReconcileComplete = false)
    (hc : after.isReconcileComplete = false)
    (hp : ∀ calls, after.publications engine calls = before.publications engine calls) :
    after.isReconcileRequired = before.isReconcileRequired := by
  let clears : JournalDatabase ρ → JournalDatabase ρ := fun database =>
    { database with journal := { database.journal with isReconcileRequired := false } }
  -- The commit resolves for the instance after; so it does for the one before, with one database.
  have hl := hp [.commit (keeps engine (after.executeTransaction clears)) clears]
  simp only [publications, later_keeps, List.append_nil, Option.toList_some] at hl
  have hb := later_database (Option.toList_eq_singleton_iff.mp hl.symm)
  have hw := congrArg (fun database => database.journal.isReconcileRequired) hb
  simpa [PersistedJournal.inProgress, executeTransaction, clears, mergeReconcileRequired, hn, hc]
    using hw

theorem traceless_iff (hs : after = { before with
      database := after.database, isReconcileRequired := after.isReconcileRequired }) :
    before.Traceless engine after ↔ after.database = before.database ∧
      (before.isReconcileComplete = true ∨
        after.isReconcileRequired = before.isReconcileRequired) := by
  constructor
  · rintro ⟨hd, hp⟩
    refine ⟨hd, ?_⟩
    by_cases hc : before.isReconcileComplete = true
    · exact .inl hc
    · have hn : before.isReconcileComplete = false := by simpa using hc
      refine .inr (flag_published hn ?_ hp)
      rw [hs]
      exact hn
  · rintro ⟨hd, hf⟩
    rw [hd] at hs
    exact ⟨hd, publications_alike ⟨hs, hf⟩⟩

end RejectedCommitsLemmas

open JournalPersistence RejectedCommitsLemmas in
/-- A commit that rejects leaves the database as it was, and every later generation too, exactly
when its operation throws or what was committed in memory changes nothing. -/
theorem rejected_commit_traceless_iff {ρ β : Type} (engine : SqliteEngine ρ β)
    (answers : CommitAnswers β) (operation : JournalDatabase ρ → JournalDatabase ρ)
    (persistence : JournalPersistence ρ)
    (rejects : (persistence.executeGenerationCommit engine answers operation).2.isSome = true) :
    persistence.Traceless engine
        (persistence.executeGenerationCommit engine answers operation).1 ↔
      persistence.Undone answers operation := by
  rw [rejected_persistence rejects, Undone]
  cases thrown : answers.operationThrows with
  | some reason => simp [Traceless]
  | none =>
    cases answers.isSealed with
    | true => exact (traceless_iff rfl).trans (by simp [executeTransaction])
    | false => exact (traceless_iff rfl).trans (by simp [executeTransaction])

/-! ### A note of an upload -/

def openInstance : JournalPersistence Unit :=
  rebuildEmptyJournal twoCellEngine ⟨[], none⟩ ⟨false⟩ false

def imageFails : CommitAnswers (Option (JournalDatabase Unit)) where
  operationThrows := none
  isSealed := true
  isExported := true
  image := .writeFails
  manifest := .writeFails

theorem rejected_commit_traceless_thrown : openInstance.Traceless twoCellEngine
    (openInstance.executeGenerationCommit twoCellEngine
      { imageFails with operationThrows := some .journalMutationFailed } (noteUpload 1)).1 :=
  (rejected_commit_traceless_iff twoCellEngine _ (noteUpload 1) openInstance rfl).mpr (.inl rfl)

/-- The image write fails and the promise rejects, and the note stays in memory. -/
theorem rejected_note_stays :
    let outcome := openInstance.executeGenerationCommit twoCellEngine imageFails (noteUpload 1)
    outcome.2 = some .journalGenerationWriteFailed ∧
      ¬ openInstance.Traceless twoCellEngine outcome.1 := by
  refine ⟨rfl, fun traceless => ?_⟩
  have kept : ([1] : List Nat) = [] :=
    congrArg (fun database => database.journal.multipartUploadProgress) traceless.1
  cases kept

end PersonalOs.Journal
