import PersonalOs.Basis.Histories
import PersonalOs.ExclusionPolicy.ReadDecisions
import PersonalOs.SourceStore.SourceRuns

/-!
# Canonical reads among writers

The store behind the canonical read takes two statements: it reads the source's current row, and
then it locks the workspace's policy state and evaluates the active revision. Between them the
whole stores may commit to the source, and a policy may be published.

The row was current when it was read, so a revision that allowed it then, or that was published
while the row stood, gives the read one moment. There is none when the row was refused, left the
source, and only then came a revision that allows it.
-/

namespace PersonalOs.ExclusionPolicy

open Transactions
open SourceStore (Db LockName StoreAnswer StoreCall Environment)

/-! ## The database -/

/-- A row of `workspace_policy_state`, with what its active snapshot verifies and parses to. -/
structure PolicyState where
  activeRevisionNumber : Nat
  snapshot : Except ExclusionPolicyError ExclusionPolicyRevision

structure ReadDb where
  store : Db
  policyState : Uuid → Option PolicyState

/-- `load_locked_active_policy_snapshot`, verified and parsed. -/
def ReadDb.active (db : ReadDb) (workspaceId : Uuid) :
    Except ExclusionPolicyError ExclusionPolicyRevision :=
  match db.policyState workspaceId with
  | none => .error .notInitialized
  | some state => state.snapshot

/-! ## The programs -/

/-- A row a read holds behind its first statement, and the database that statement read. -/
structure HeldRow where
  read : Recorded ReadDb
  workspaceId : Uuid
  sourceId : Uuid
  row : CurrentReferenceRow
  reference : CanonicalSourceReference

inductive PublishPolicyError
  | notInitialized
  | snapshotOutdated
  | previewStale
deriving DecidableEq

inductive ReadAnswer
  | store (answer : StoreAnswer)
  | published (result : Except PublishPolicyError Unit)
  | resolved (result : Except CanonicalReadError CanonicalSourceReference)
  | unavailable (failure : Failure)

abbrev ReadProgram := Program (Recorded ReadDb) LockName HeldRow ReadAnswer

/-- What a publication is bound to, and the revision its signed snapshot parses to. -/
structure PublishPolicyCommand where
  workspaceId : Uuid
  expectedActiveRevisionNumber : Nat
  sourceCheckpoint : Nat
  revision : ExclusionPolicyRevision

/-- `source_checkpoint_select_statement`. -/
def ReadDb.sourceCheckpoint (db : ReadDb) (workspaceId : Uuid) : Nat :=
  (db.store.eventCheckpoint workspaceId).getD 0

/-- `swap_active_pointer_statement`. -/
def ReadDb.publish (db : ReadDb) (command : PublishPolicyCommand) : ReadDb :=
  let swapped := PolicyState.mk (command.expectedActiveRevisionNumber + 1) (.ok command.revision)
  { db with policyState := Function.update db.policyState command.workspaceId swapped }

/-- `_publish_locked`, on the state row, the active parent and the source checkpoint; its draft,
preview and idempotency rows belong to publications alone. -/
def publishPolicy (command : PublishPolicyCommand) : ReadProgram :=
  let refuse (error : PublishPolicyError) : ReadProgram :=
    .rollback (.done (.published (.error error)))
  .begin false (fun failure => .done (.unavailable failure)) <|
  .lock (.policyStateRow command.workspaceId) <|
  .read fun r =>
  match r.now.policyState command.workspaceId with
  | none => refuse .notInitialized
  | some state =>
    if state.activeRevisionNumber ≠ command.expectedActiveRevisionNumber then
      refuse .snapshotOutdated
    else .read fun r =>
    if r.now.sourceCheckpoint command.workspaceId ≠ command.sourceCheckpoint then
      refuse .previewStale
    else
      .finish (fun r => some (r.commit (r.now.publish command)))
        (fun _ => .done (.published (.ok ()))) (fun _ => .halt)

section Reads

variable (nfc : Text → Text)

/-- The verdict of `evaluate_locked_policy_decision` on a row. -/
def decideRow (db : ReadDb) (workspaceId : Uuid) (row : CurrentReferenceRow)
    (reference : CanonicalSourceReference) : Except ExclusionPolicyError PolicyDecision :=
  authorizePreflight nfc (db.active workspaceId)
    (buildCanonicalReadPolicySubject reference row.normalizedLocator)

/-- The row of a read that the revision active at its first statement refuses. -/
def refusedRows (workspaceId sourceId : Uuid) (r : Recorded ReadDb) : List HeldRow :=
  match currentReferenceLookup r.now.store workspaceId sourceId with
  | none => []
  | some row =>
    match hydrateCanonicalSourceReference row with
    | .error _ => []
    | .ok reference =>
      match decideRow nfc r.now workspaceId row reference with
      | .ok _ => []
      | .error _ => [⟨r, workspaceId, sourceId, row, reference⟩]

/-- `resolve_current`, statement by statement. The row statement takes no lock. -/
def resolveCurrentProgram (workspaceId sourceId : Uuid) : ReadProgram :=
  let answer (result : Except CanonicalReadError CanonicalSourceReference) : ReadProgram :=
    .rollback (.done (.resolved result))
  .begin false (fun failure => .done (.unavailable failure)) <|
  .note (refusedRows nfc workspaceId sourceId) fun r =>
  match currentReferenceLookup r.now.store workspaceId sourceId with
  | none => answer (.error .sourceNotFound)
  | some row =>
    match hydrateCanonicalSourceReference row with
    | .error error => answer (.error error)
    | .ok reference =>
      .lock (.policyStateRow workspaceId) <|
      .note (fun _ => []) fun r =>
      match decideRow nfc r.now workspaceId row reference with
      | .error error => answer (.error (.policy error))
      | .ok _ => answer (.ok reference)

/-- One call: of a store under its environment, of the policy publication, or of the read. -/
inductive ReadCall
  | store (env : Environment) (call : StoreCall)
  | publish (command : PublishPolicyCommand)
  | resolve (workspaceId sourceId : Uuid)

def readProgram : ReadCall → ReadProgram
  | .store env call =>
    (SourceStore.storeProgram env call).through (fun r => r.now.store)
      (fun r store => r.commit { r.now with store }) .store
  | .publish command => publishPolicy command
  | .resolve workspaceId sourceId => resolveCurrentProgram nfc workspaceId sourceId

abbrev ReadWorld := World (Recorded ReadDb) LockName HeldRow ReadAnswer ReadCall

/-- All interleavings from empty stores and any policies. -/
def readMachine : Machine ReadWorld (Action ReadCall) :=
  machine (readProgram nfc) fun s => s.db.past = [] ∧ s.db.now.store = .empty ∧ s.sequence = 1

/-! ## The rules -/

/-- A committed state at which a reference is the current one of its source, and its row allowed. -/
structure CurrentAt (workspaceId sourceId : Uuid) (reference : CanonicalSourceReference)
    (row : CurrentReferenceRow) (moment : ReadDb) : Prop where
  standing : currentReferenceLookup moment.store workspaceId sourceId = some row
  hydrated : hydrateCanonicalSourceReference row = .ok reference
  allowed : ∃ decision, decideRow nfc moment workspaceId row reference = .ok decision

namespace HeldRow

variable (held : HeldRow)

/-- The revision active in a state allows the row. -/
def Allowed (db : ReadDb) : Prop :=
  ∃ decision, decideRow nfc db held.workspaceId held.row held.reference = .ok decision

/-- Some moment since the row was read had it current and allowed. -/
def Answerable (r : Recorded ReadDb) : Prop :=
  ∃ moment ∈ held.read.since r,
    CurrentAt nfc held.workspaceId held.sourceId held.reference held.row moment

/-- A commit that first lets the row through finds it still current. -/
def Respected (before after : Recorded ReadDb) : Prop :=
  ¬held.Answerable nfc before → ¬held.Allowed nfc before.now → held.Allowed nfc after.now →
    currentReferenceLookup before.now.store held.workspaceId held.sourceId = some held.row

end HeldRow

/-- What each call may commit, and which answers are good. -/
def readRules : Rules (Recorded ReadDb) LockName HeldRow ReadAnswer ReadCall where
  Inv := fun _ => True
  Guar := fun call _ s db =>
    match call with
    | .store _ _ => ∃ store, db = s.db.commit { s.db.now with store }
    | .publish command => db = s.db.commit (s.db.now.publish command)
    | .resolve _ _ => False
  Respects := fun rows before after => ∀ held ∈ rows, held.Respected nfc before after
  Good := fun call born s out =>
    match call, out with
    | .resolve workspaceId sourceId, .resolved (.ok reference) =>
      ∃ moment ∈ born.db.since s.db, ∃ row,
        CurrentAt nfc workspaceId sourceId reference row moment
    | _, _ => True
  inv_draw := fun _ => trivial
  inv_commit := fun _ _ _ => trivial
  respects_nil := by simp

/-! ## The writers -/

variable {nfc} {s s' born : Snapshot (Recorded ReadDb)} {o : Own LockName HeldRow}
  {workspaceId sourceId : Uuid}

theorem extends_of_rely (ho : Rely (readRules nfc) o s s') : s.db.Extends s'.db := by
  refine ho.stable (fun t => s.db.Extends t.db) ?_ (.refl _)
  rintro _ _ (_ | ⟨c, _, _, _, _, hg, _⟩) hb
  · exact hb
  · cases c with
    | store _ _ =>
      obtain ⟨st, rfl⟩ := hg
      exact hb.trans (.commit _ _)
    | publish _ =>
      cases hg
      exact hb.trans (.commit _ _)
    | resolve _ _ => exact hg.elim

theorem store_safe (env : Environment) (c : SourceStore.StoreCall) :
    Safe (readRules nfc) (.store env c) born (readProgram nfc (.store env c)) o s := by
  refine Safe.through (fun _ _ st _ => ?_) (fun _ _ => ?_) _ _ _
  · exact ⟨st, rfl⟩
  · trivial

theorem publish_safe (c : PublishPolicyCommand) :
    Safe (readRules nfc) (.publish c) born (publishPolicy c) o s := by
  have hr {o : Own LockName HeldRow} {s : Snapshot (Recorded ReadDb)}
      (e : PublishPolicyError) : Safe (readRules nfc) (.publish c) born
        (Program.rollback (.done (.published (.error e)))) o s :=
    Safe.rollback fun _ _ _ _ _ _ => trivial
  refine fun s₁ _ _ => ⟨fun _ _ _ _ => trivial, fun s₂ _ _ s₃ _ _ => ?_⟩
  dsimp only
  split
  · exact hr _
  split
  · exact hr _
  intro s₄ _ _
  dsimp only
  split
  · exact hr _
  · refine fun s₅ _ _ => ⟨?_, nofun⟩
    rintro _ ⟨⟩
    exact ⟨rfl, fun _ _ _ => trivial⟩

/-! ## The read -/

/-- A row that is let through was current and allowed at some moment since it was read. -/
theorem HeldRow.answerable_of_allowed (held : HeldRow) (hr : held.read = s.db)
    (hst : currentReferenceLookup s.db.now.store held.workspaceId held.sourceId = some held.row)
    (hh : hydrateCanonicalSourceReference held.row = .ok held.reference)
    (hot : Rely (readRules nfc) o s s')
    (hn : ¬held.Allowed nfc s.db.now → held ∈ o.notes) (hal : held.Allowed nfc s'.db.now) :
    held.Answerable nfc s'.db := by
  by_cases hat : held.Allowed nfc s.db.now
  · refine ⟨s.db.now, ?_, hst, hh, hat⟩
    rw [hr]
    exact (Recorded.Extends.refl _).mem_since (extends_of_rely hot)
  -- a store leaves the revision, a publication leaves the row
  suffices hke : s.db.Extends s'.db ∧ (held.Answerable nfc s'.db ∨ ¬held.Allowed nfc s'.db.now) from
    hke.2.resolve_right fun hre => hre hal
  refine hot.stable (fun t => s.db.Extends t.db ∧
    (held.Answerable nfc t.db ∨ ¬held.Allowed nfc t.db.now)) ?_ ⟨.refl _, .inr hat⟩
  intro t t' hsp ⟨hb, hs⟩
  cases hsp with
  | draw => exact ⟨hb, hs⟩
  | @commit db ca _ _ _ _ hg hrs =>
    have ho (haf : t.db.Extends db) : s.db.Extends db ∧
        (held.Answerable nfc t.db → held.Answerable nfc db) := by
      refine ⟨hb.trans haf, ?_⟩
      rintro ⟨m, hm, hc⟩
      rw [hr] at hm
      exact ⟨m, hr ▸ hb.since_subset haf hm, hc⟩
    cases ca with
    | store _ _ =>
      obtain ⟨st, rfl⟩ := hg
      obtain ⟨haf, hk⟩ := ho (.commit _ _)
      exact ⟨haf, hs.imp hk fun hre => hre⟩
    | publish c =>
      cases hg
      obtain ⟨haf, hk⟩ := ho (.commit _ _)
      refine ⟨haf, ?_⟩
      by_cases ha : held.Answerable nfc t.db
      · exact .inl (hk ha)
      refine or_iff_not_imp_right.mpr fun hl => ?_
      have hl := not_not.mp hl
      have ht := hrs held (hn hat) ha (hs.resolve_left ha) hl
      refine ⟨(t.db.commit (t.db.now.publish c)).now, ?_, ht, hh, hl⟩
      rw [hr]
      exact haf.mem_since (.refl _)
    | resolve _ _ => exact hg.elim

theorem resolve_safe (hl : born.db.Extends s.db) :
    Safe (readRules nfc) (.resolve workspaceId sourceId) born
      (resolveCurrentProgram nfc workspaceId sourceId) .none s := by
  have hr {o : Own LockName HeldRow} {s : Snapshot (Recorded ReadDb)}
      (e : CanonicalReadError) : Safe (readRules nfc) (.resolve workspaceId sourceId) born
        (Program.rollback (.done (.resolved (.error e)))) o s :=
    Safe.rollback fun _ _ _ _ _ _ => trivial
  refine fun s₁ ho₁ _ => ⟨fun _ _ _ _ => trivial, fun s₂ ho₂ _ => ?_⟩
  dsimp only
  split
  · exact hr _
  next row hst =>
  split
  · exact hr _
  next r hh =>
  refine fun s₃ ho₃ _ s₄ ho₄ _ => ?_
  dsimp only
  split
  · exact hr _
  next d ha =>
  refine Safe.rollback fun s₅ ho₅ _ s₆ ho₆ _ => ?_
  have hti : born.db.Extends s₂.db := hl.trans ((extends_of_rely ho₁).trans (extends_of_rely ho₂))
  have ht : s₄.db.Extends s₆.db := (extends_of_rely ho₅).trans (extends_of_rely ho₆)
  have hw : Rely (readRules nfc) _ s₂ s₄ :=
    ho₃.trans (ho₄.weaken (fun _ => List.mem_cons_of_mem _) fun _ hdr => hdr)
  let held : HeldRow := ⟨s₂.db, workspaceId, sourceId, row, r⟩
  have hn : ¬held.Allowed nfc s₂.db.now → held ∈ refusedRows nfc workspaceId sourceId s₂.db := by
    intro hd
    simp only [refusedRows, hst, hh]
    split
    next d ha => exact absurd ⟨d, ha⟩ hd
    · exact List.mem_cons_self
  obtain ⟨m, hm, hc⟩ := held.answerable_of_allowed rfl hst hh hw hn ⟨d, ha⟩
  obtain ⟨mid, hf, hto, rfl⟩ := (Recorded.mem_since_iff (extends_of_rely hw)).mp hm
  exact ⟨_, (hti.trans hf).mem_since (hto.trans ht), row, hc⟩

/-! ## Runs -/

theorem resolveCurrent_ok_iff {db : ReadDb} {r : CanonicalSourceReference} :
    resolveCurrent nfc (db.active workspaceId) db.store workspaceId sourceId = .ok r ↔
      ∃ row, CurrentAt nfc workspaceId sourceId r row db := by
  unfold resolveCurrent
  constructor
  · intro hr
    split at hr
    · cases hr
    next row hst =>
    cases hh : hydrateCanonicalSourceReference row with
    | error e => simp [hh, bind, Except.bind] at hr
    | ok f =>
      cases hd : decideRow nfc db workspaceId row f with
      | error e =>
        rw [decideRow] at hd
        simp [hh, hd, bind, Except.bind, Except.mapError] at hr
      | ok d =>
        have ha := hd
        rw [decideRow] at hd
        simp only [hh, hd, bind, Except.bind, Except.mapError, pure, Except.pure,
          Except.ok.injEq] at hr
        subst hr
        exact ⟨row, hst, hh, d, ha⟩
  · rintro ⟨row, hst, hh, d, ha⟩
    rw [decideRow] at ha
    simp [hst, hh, ha, bind, Except.bind, Except.mapError, pure, Except.pure]

theorem hydrate_ok {row : CurrentReferenceRow} {r : CanonicalSourceReference}
    (hh : hydrateCanonicalSourceReference row = .ok r) :
    row.source.syncState ≠ .deleted ∧ row.source.currentVersionId = some r.sourceVersionId := by
  unfold hydrateCanonicalSourceReference at hh
  split at hh
  · cases hh
  next hr =>
  split at hh
  next v c hv _ =>
    split at hh
    · cases hh
    next hc =>
    split at hh
    next cd mt _ _ =>
      split at hh
      · cases hh
      next st _ =>
      split at hh <;> cases hh
      refine ⟨fun hd => hr (by simp [hd]), ?_⟩
      have hcu := (not_or.mp (not_or.mp (not_or.mp hc).2).2).1
      exact not_not.mp hcu
    · cases hh
  · cases hh

variable (nfc) in
/-- What canonical reads answer: what stood at one moment of the call, and nothing that was
deleted or refused at all of them. -/
structure ReadsLinearize (w : ReadWorld) : Prop where
  moments : ∀ s ∈ w.sessions, ∀ workspaceId sourceId reference,
    s.call = .resolve workspaceId sourceId → s.program = .done (.resolved (.ok reference)) →
      ∃ moment ∈ s.born.db.since w.snapshot.db, ∃ row,
        CurrentAt nfc workspaceId sourceId reference row moment ∧
          row.source.currentVersionId = some reference.sourceVersionId
  deleted : ∀ s ∈ w.sessions, ∀ workspaceId sourceId, s.call = .resolve workspaceId sourceId →
    (∀ moment ∈ s.born.db.since w.snapshot.db, ∀ row,
      currentReferenceLookup moment.store workspaceId sourceId = some row →
        row.source.syncState = .deleted) →
    ∀ reference, s.program ≠ .done (.resolved (.ok reference))
  excluded : ∀ s ∈ w.sessions, ∀ workspaceId sourceId, s.call = .resolve workspaceId sourceId →
    (∀ moment ∈ s.born.db.since w.snapshot.db, ∀ row reference,
      currentReferenceLookup moment.store workspaceId sourceId = some row →
        hydrateCanonicalSourceReference row = .ok reference →
          ∀ decision, decideRow nfc moment workspaceId row reference ≠ .ok decision) →
    ∀ reference, s.program ≠ .done (.resolved (.ok reference))

/-- No publication first lets a row through that a read still holds and that has left its
source. -/
abbrev Undisturbed (nfc : Text → Text) (w : ReadWorld) (a : Action ReadCall) : Prop :=
  RespectsNotes (readRules nfc) w a

theorem sound_of_undisturbed {w : ReadWorld}
    (hr : (readMachine nfc).GuardedReachable (Undisturbed nfc) w) :
    Sound (readRules nfc) w := by
  refine Rules.sound (fun _ _ => trivial) ?_ hr
  intro ca s _
  cases ca with
  | store env ca => exact store_safe env ca
  | publish c => exact publish_safe c
  | resolve workspaceId sourceId => exact resolve_safe (.refl _)

/-- Every reference a canonical read returns is the one the atomic read returns at some moment of
the call. -/
theorem canonical_read_linearizable (nfc : Text → Text) (w : ReadWorld)
    (reached : (readMachine nfc).GuardedReachable (Undisturbed nfc) w) : ReadsLinearize nfc w := by
  have hs := sound_of_undisturbed reached
  have hmo : ∀ s ∈ w.sessions, ∀ workspaceId sourceId r,
      s.call = .resolve workspaceId sourceId → s.program = .done (.resolved (.ok r)) →
        ∃ m ∈ s.born.db.since w.snapshot.db, ∃ row, CurrentAt nfc workspaceId sourceId r row m := by
    intro s hm workspaceId sourceId r hca hr
    obtain ⟨i, ht⟩ := List.getElem?_of_mem hm
    have hsa := hs.safe i s ht
    rw [hr, hca] at hsa
    exact hsa _ .refl hs.inv
  refine ⟨?_, ?_, ?_⟩
  · intro s hm workspaceId sourceId r hca hr
    obtain ⟨m, hd, row, hc⟩ := hmo s hm _ _ _ hca hr
    exact ⟨m, hd, row, hc, (hydrate_ok hc.hydrated).2⟩
  · intro s hm workspaceId sourceId hca hg r hr
    obtain ⟨m, hd, row, hc⟩ := hmo s hm _ _ _ hca hr
    exact (hydrate_ok hc.hydrated).1 (hg m hd row hc.standing)
  · intro s hm workspaceId sourceId hca hre r hr
    obtain ⟨m, hd, row, hc⟩ := hmo s hm _ _ _ hca hr
    obtain ⟨d, ha⟩ := hc.allowed
    exact hre m hd row r hc.standing hc.hydrated d ha

end Reads

/-! ## Sample runs -/

/-- A revision without rules. -/
def openRevision (revisionNumber : Nat) (numbered : 1 ≤ revisionNumber) :
    ExclusionPolicyRevision where
  policyRevisionId := revisionNumber
  workspaceId := 1
  revisionNumber
  rules := []
  identified := ⟨Nat.ne_of_gt numbered, by decide⟩
  numbered
  bounded := by decide
  ruleIds := by decide
  fingerprints := by decide

def openWorld : ReadWorld where
  snapshot := ⟨⟨⟨.empty, fun _ => some ⟨1, .ok (openRevision 1 (by decide))⟩⟩, []⟩, 1⟩
  sessions := []

/-- A device creates a note in the folder `p`. -/
def folderNote : SourceStore.PublicationRequest where
  command := .create {
    workspaceId := 1
    sourceId := 1
    eventId := 101
    idempotencyKey := "k1"
    sourceType := "markdown"
    title := "Note"
    actor := ⟨.device, some 7⟩
    expectedObject := {
      contentDigest := String.ofList (List.replicate 64 'a')
      objectKey := "objects/sha256/aa/aa/" ++ String.ofList (List.replicate 64 'a')
      sizeBytes := 2
      mediaType := "text/plain" }
    clientTimestamp := none
    initialLocator := some "p/a.md" }
  identities := ⟨201, 301, 401⟩
  permits := fun _ => true

def folderNoteDeletion : SourceStore.LifecycleCall where
  request := {
    command := {
      sourceId := 1
      eventId := 500
      idempotencyKey := "k2"
      operation := .delete
      expectedVersionId := 301
      expectedLocator := some "p/a.md"
      targetLocator := none
      tombstoneId := none
      policyRevision := 1
      clientTimestamp := none
      shape := rfl }
    device := ⟨1, 7⟩ }
  identities := fun remaining => ⟨600 + remaining, 700 + remaining⟩

def advances (i count : Nat) : List (Action ReadCall) := List.replicate count (.advance i)

/-- A note is created and read. -/
def readScript : List (Action ReadCall) :=
  .spawn (.store SourceStore.sampleEnvironment (.publication folderNote)) :: advances 0 11 ++
    .spawn (.resolve 1 1) :: advances 1 5

theorem canonical_read_linearizable_read : ∃ w,
    (readMachine id).GuardedReachable (Undisturbed id) w ∧
      (∃ s ∈ w.sessions, ∃ reference, s.program = .done (.resolved (.ok reference))) ∧
      ReadsLinearize id w := by
  obtain ⟨w, ran⟩ : ∃ w, (readMachine id).run openWorld readScript = some w := ⟨_, rfl⟩
  have run : (readMachine id).GuardedReachable (Undisturbed id) w :=
    Machine.guardedReachable_of_run (fun _ _ => respectsNotes_of_quiet) ⟨⟨rfl, rfl, rfl⟩, rfl⟩ ran
      (by decide)
  have law := canonical_read_linearizable id w run
  cases ran
  exact ⟨_, run, ⟨_, List.mem_cons_of_mem _ List.mem_cons_self, _, rfl⟩, law⟩

/-- A note is created and its folder excluded. A read selects the row, the note is deleted, the
exclusion is withdrawn, and the read goes on. -/
def disturbedScript : List (Action ReadCall) :=
  .spawn (.store SourceStore.sampleEnvironment (.publication folderNote)) :: advances 0 11 ++
    .spawn (.publish ⟨1, 1, 1, folderRevision⟩) :: advances 1 5 ++
    .spawn (.resolve 1 1) :: advances 2 2 ++
    .spawn (.store SourceStore.sampleEnvironment (.lifecycle folderNoteDeletion)) ::
      advances 3 15 ++
    .spawn (.publish ⟨1, 2, 2, openRevision 3 (by decide)⟩) :: advances 4 5 ++
    advances 2 3

/-- A source is returned that was excluded until it was deleted. -/
theorem deleted_source_is_read :
    ¬∀ (nfc : Text → Text) (w : ReadWorld), (readMachine nfc).Reachable w → ReadsLinearize nfc w := by
  intro hc
  obtain ⟨w, ran⟩ : ∃ w, (readMachine id).run openWorld disturbedScript = some w := ⟨_, rfl⟩
  have law := hc id w (Machine.reachable_of_run ⟨⟨rfl, rfl, rfl⟩, rfl⟩ ran)
  cases ran
  obtain ⟨m, hd, row, hcu, _⟩ := law.moments _
    (List.mem_cons_of_mem _ (List.mem_cons_of_mem _ List.mem_cons_self)) 1 1 _ rfl rfl
  let r (db : ReadDb) : Bool := (resolveCurrent id (db.active 1) db.store 1 1).toOption.isNone
  have hr : (resolveCurrent id (m.active 1) m.store 1 1).toOption.isNone = true :=
    (List.all_eq_true (p := r)).mp (by decide +kernel) m hd
  rw [resolveCurrent_ok_iff.mpr ⟨row, hcu⟩] at hr
  cases hr

end PersonalOs.ExclusionPolicy
