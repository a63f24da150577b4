import PersonalOs.SourceStore.Checkpoints

/-!
# One accepted outcome per device event

Publications, lifecycle commits and captures of conflicts share the event table. What each of
them accepts, except the capture of a conflict without a source, is one of its events.
-/

namespace PersonalOs.SourceStore

open Transactions

variable {env : Environment} {w : StoreWorld}

/-! ## Domains -/

inductive OutcomeDomain
  | publication
  | lifecycle
  | conflict
deriving DecidableEq

def EventType.domain : EventType → OutcomeDomain
  | .create | .update => .publication
  | .rename | .move | .delete | .restore => .lifecycle
  | .conflictCapture | .conflictResolve => .conflict

def AcceptedAs (env : Environment) (call : StoreCall) (answer : StoreAnswer) (db : Db)
    (e : SyncEvent) : Prop :=
  match call, answer with
  | .publication request, .publication (.ok result) =>
    PublicationEvent env request.command db e ∧ e.eventType.domain = .publication ∧
      e.committedVersionId = some result.sourceVersionId
  | .lifecycle call, .lifecycle (.ok result) =>
    LifecycleEvent env call.request db e ∧ e.eventType.domain = .lifecycle ∧
      e.committedVersionId = some result.sourceVersionId
  | .capture request, .capture (.ok row) =>
    (e ∈ db.events ∧ e.workspaceId = request.command.workspaceId ∧
      e.idempotencyKey = request.command.idempotencyKey ∧
      e.eventId = request.command.originatingEventId) ∧ e.eventType.domain = .conflict ∧
      e.committedVersionId = none ∧
      ∃ c ∈ db.conflicts, CapturedBy request.command c ∧ c.conflictId = row.conflictId
  | _, _ => False

/-- A call that accepts its outcome as an event: a publication, a lifecycle commit or the
capture of a conflict with a source. -/
def StoreCall.acceptsEvent : StoreCall → Bool
  | .publication _ | .lifecycle _ => true
  | .capture request => request.command.sourceId.isSome
  | .resolve _ | .manifest _ | .device _ => false

/-- A successful answer of one of the three domains. -/
def StoreAnswer.accepted : StoreAnswer → Bool
  | .publication (.ok _) | .lifecycle (.ok _) | .capture (.ok _) => true
  | _ => false

/-- The answer of a call whose key or event another outcome had in an earlier state. -/
def LosingAnswer (env : Environment) (call : StoreCall) (born : Db) (answer : StoreAnswer) :
    Prop :=
  match call, answer with
  | .publication request, .publication (.error error) =>
    IdentityTaken env request.command born → error.isRetryable = true ∨
      error = .idempotencyMismatch ∨ error = .eventIdentityMismatch ∨
      error = .inputInvalid ∧ ¬call.Trusted env
  | .lifecycle call, .lifecycle (.error failure) =>
    KeyTaken env call.request born → failure.isRetryable = true ∨
      failure = .lifecycle .inputInvalid ∨ failure = .lifecycle .locatorConflict ∨
      failure = .driverFailure
  | .capture request, .capture (.error error) =>
    CaptureTaken request.command born → error = .idempotencyMismatch ∨
      error = .dependencyUnavailable ∨ error = .commitOutcomeUnknown
  | _, _ => True

/-- What every state keeps of the outcomes that its calls have accepted. -/
structure OneOutcome (env : Environment) (w : StoreWorld) : Prop where
  /-- One event per event identity and per key of a workspace, in all domains. -/
  events : w.snapshot.db.events.Pairwise fun a b => a.eventId ≠ b.eventId ∧
    ¬(a.workspaceId = b.workspaceId ∧ a.idempotencyKey = b.idempotencyKey)
  /-- One conflict row per event identity and per key of a workspace. -/
  conflicts : w.snapshot.db.conflicts.Pairwise fun a b => ¬(a.workspaceId = b.workspaceId ∧
    (a.captureIdempotencyKey = b.captureIdempotencyKey ∨
      a.originatingEventId = b.originatingEventId))
  /-- A success is an event of its own identity and domain. -/
  accepted : ∀ s ∈ w.sessions, ∀ answer, s.program = .done answer → answer.accepted = true →
    s.call.acceptsEvent = true → ∃ e, AcceptedAs env s.call answer w.snapshot.db e
  /-- A capture answers a row of its identity and evidence. -/
  captured : ∀ s ∈ w.sessions, ∀ request row, s.call = .capture request →
    s.program = .done (.capture (.ok row)) →
      ∃ c ∈ w.snapshot.db.conflicts, CapturedBy request.command c ∧ c.conflictId = row.conflictId
  /-- A call whose identity is taken is refused as such. -/
  losing : ∀ s ∈ w.sessions, ∀ answer, s.program = .done answer →
    LosingAnswer env s.call s.born.db answer
  /-- The event of a conflict with a source has produced no version. -/
  observed : ∀ c ∈ w.snapshot.db.conflicts, c.sourceId.isSome → ∀ e ∈ w.snapshot.db.events,
    e.eventId = c.originatingEventId → e.committedVersionId = none

theorem AcceptedAs.stands {c : StoreCall} {an : StoreAnswer} {db : Db} {e : SyncEvent}
    (ha : AcceptedAs env c an db e) : e ∈ db.events := by
  unfold AcceptedAs at ha
  split at ha
  · exact ha.1.stands
  · exact ha.1.stands
  · exact ha.1.1
  · cases ha

/-- Accepted outcomes with one event identity, or one key of a workspace, are one event. -/
theorem OneOutcome.same {c c' : StoreCall} {an an' : StoreAnswer}
    {e e' : SyncEvent} (law : OneOutcome env w)
    (ha : AcceptedAs env c an w.snapshot.db e)
    (ha' : AcceptedAs env c' an' w.snapshot.db e')
    (hs : e.eventId = e'.eventId ∨
      e.workspaceId = e'.workspaceId ∧ e.idempotencyKey = e'.idempotencyKey) : e = e' := by
  rcases ordered_of_pairwise law.events ha.stands ha'.stands with
    he | ⟨hap, _⟩ | ⟨hap, _⟩
  · exact he
  · exact (hs.elim hap.1 hap.2).elim
  · rcases hs with hev | ⟨hw, key⟩
    · exact absurd hev.symm hap.1
    · exact absurd ⟨hw.symm, key.symm⟩ hap.2

def StoreCall.identity : StoreCall → Option (EventId × IdempotencyKey)
  | .publication request => some (request.command.eventId, request.command.idempotencyKey)
  | .lifecycle call => some (call.request.command.eventId, call.request.command.idempotencyKey)
  | .capture request => some (request.command.originatingEventId, request.command.idempotencyKey)
  | .resolve request => some (request.command.resolutionEventId, request.command.idempotencyKey)
  | .manifest _ | .device _ => none

def Db.Holds (db : Db) (workspaceId : WorkspaceId) (eventId : EventId) (key : IdempotencyKey) :
    Prop :=
  (∃ e ∈ db.events, e.eventId = eventId ∨
    e.workspaceId = workspaceId ∧ e.idempotencyKey = key) ∨
  ∃ c ∈ db.conflicts, c.workspaceId = workspaceId ∧
    (c.originatingEventId = eventId ∨ c.captureIdempotencyKey = key)

instance (db : Db) (workspaceId : WorkspaceId) (eventId : EventId) (key : IdempotencyKey) :
    Decidable (db.Holds workspaceId eventId key) :=
  inferInstanceAs (Decidable (_ ∨ _))

/-- A row after a commit has the identity of a row before it, or that of the call, with an event
unless it has no source. -/
theorem ConflictMove.identities {call : StoreCall} {event : Option SyncEvent}
    {rows rows' : List SourceConflict}
    (hv : ConflictMove call.captureRequest call.resolutionRequest event rows rows') :
    ∀ c ∈ rows', (∃ d ∈ rows, d.workspaceId = c.workspaceId ∧ d.sourceId = c.sourceId ∧
        d.originatingEventId = c.originatingEventId ∧
        d.captureIdempotencyKey = c.captureIdempotencyKey) ∨
      c.workspaceId = call.workspaceId ∧ event.isSome = c.sourceId.isSome ∧
        call.identity = some (c.originatingEventId, c.captureIdempotencyKey) := by
  have closed {request : ResolutionRequest} {status : ConflictStatus} {r : ConflictResolution}
      {c : SourceConflict} (hm : c ∈ rows.map (closeRow request status r)) :
      ∃ d ∈ rows, d.workspaceId = c.workspaceId ∧ d.sourceId = c.sourceId ∧
        d.originatingEventId = c.originatingEventId ∧
        d.captureIdempotencyKey = c.captureIdempotencyKey := by
    obtain ⟨d, hd, rfl⟩ := List.mem_map.mp hm
    refine ⟨d, hd, ?_⟩
    unfold closeRow
    split <;> exact ⟨rfl, rfl, rfl, rfl⟩
  intro c hm
  cases hv with
  | still => exact .inl ⟨c, hm, rfl, rfl, rfl, rfl⟩
  | capture request captures _ sourced =>
    rcases List.mem_append.mp hm with old | new
    · exact .inl ⟨c, old, rfl, rfl, rfl, rfl⟩
    · cases call with
      | capture q =>
        cases captures
        rw [List.mem_singleton.mp new]
        exact .inr ⟨rfl, sourced, rfl⟩
      | _ => cases captures
  | resolve => exact .inl (closed hm)
  | supersede request row successor resolves _ _ _ _ _ of recorded =>
    rcases List.mem_append.mp hm with old | new
    · exact .inl (closed old)
    · cases call with
      | resolve q =>
        cases resolves
        rw [List.mem_singleton.mp new]
        obtain ⟨hw, hs, he, hk⟩ := of
        exact .inr ⟨hw, recorded.sourced.trans (by rw [hs]), by rw [he, hk]; rfl⟩
      | _ => cases resolves

/-- What a successful call has accepted: an event, or the row of a conflict without a source. -/
inductive AcceptedOutcome
  | event (e : SyncEvent)
  | collision (c : SourceConflict)

def AcceptedOutcome.identity : AcceptedOutcome → WorkspaceId × EventId × IdempotencyKey
  | .event e => (e.workspaceId, e.eventId, e.idempotencyKey)
  | .collision c => (c.workspaceId, c.originatingEventId, c.captureIdempotencyKey)

end PersonalOs.SourceStore
