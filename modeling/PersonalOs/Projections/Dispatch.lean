import PersonalOs.Basis.Machine
import PersonalOs.Basis.Outbox

/-!
# Dispatching projection intents

Every committed source event leaves an intent per projection. Dispatchers reclaim overdue leases,
claim due intents, start the event's ingestion workflow under its deterministic identity and
acknowledge, release or end the lease.

The engine runs at most one execution per workflow id. A start that meets an execution is joined
to it while it runs (`USE_EXISTING`) or is rejected (`REJECT_DUPLICATE`), and is resolved by a
describe. Answers may be lost. Database times and the dispatchers' clocks are apart.
-/

namespace PersonalOs.Projections

abbrev Uuid := Nat
abbrev LeaseToken := Nat
abbrev Instant := Nat

/-! ## The intent row -/

/-- `ProjectionIntentOriginKind` with the reference its kind requires. -/
inductive IntentOrigin
  | sourceEvent (eventId : Uuid)
  | policyTransition (policyRevisionId : Uuid)
deriving DecidableEq

inductive ProjectionKind
  | qdrant | neo4j
deriving DecidableEq

inductive ProjectionOperation
  | upsert | delete
deriving DecidableEq

/-- `ProjectionIntentStatus` with the columns its state requires: the lease columns are set in
`leased` only and the dispatch time in `dispatched` only. -/
inductive IntentState
  | pending
  | leased (leaseToken : LeaseToken) (leasedUntil : Instant)
  | dispatched (dispatchedAt : Instant)
  | terminal
deriving DecidableEq

structure IntentIdentity where
  projectionIntentId : Uuid
  workspaceId : Uuid
  origin : IntentOrigin
  sourceId : Uuid
  sourceVersionId : Option Uuid
  projectionKind : ProjectionKind
  operation : ProjectionOperation
deriving DecidableEq

/-- A row of `projection_intents`. -/
structure ProjectionIntent extends IntentIdentity where
  state : IntentState
  attemptCount : Nat
  availableAt : Instant
  createdAt : Instant
  lastErrorCode : Option String
deriving DecidableEq

def projectionClaimBatchLimit : Nat := 50

def projectionLeaseSeconds : Nat := 60

def projectionBackoffCapSeconds : Nat := 300

def projectionRetryBackoffSeconds (priorAttemptCount : Nat) : Nat :=
  min projectionBackoffCapSeconds (2 ^ priorAttemptCount)

namespace ProjectionIntent

def FromSourceEvent (row : ProjectionIntent) : Prop :=
  match row.origin with
  | .sourceEvent _ => True
  | .policyTransition _ => False

instance (row : ProjectionIntent) : Decidable row.FromSourceEvent := by
  unfold FromSourceEvent
  split <;> infer_instance

/-- Due at a reading of a dispatcher's clock. -/
def Due (row : ProjectionIntent) (now : Instant) : Prop :=
  row.state = .pending ∧ row.availableAt ≤ now ∧ row.FromSourceEvent

instance (row : ProjectionIntent) (now : Instant) : Decidable (row.Due now) :=
  inferInstanceAs (Decidable (_ ∧ _))

/-- The lease has run out at a reading of a dispatcher's clock. -/
def Overdue (row : ProjectionIntent) (now : Instant) : Prop :=
  match row.state with
  | .leased _ leasedUntil => leasedUntil ≤ now
  | _ => False

instance (row : ProjectionIntent) (now : Instant) : Decidable (row.Overdue now) := by
  unfold Overdue
  split <;> infer_instance

def Holds (row : ProjectionIntent) (intentId : Uuid) (leaseToken : LeaseToken) : Prop :=
  row.projectionIntentId = intentId ∧
    match row.state with
    | .leased token _ => token = leaseToken
    | _ => False

instance (row : ProjectionIntent) (id : Uuid) (token : LeaseToken) :
    Decidable (row.Holds id token) := by
  unfold Holds
  split <;> infer_instance

/-- `lease_intent_update_statement`. -/
def lease (row : ProjectionIntent) (clock : Instant) (leaseToken : LeaseToken) :
    ProjectionIntent :=
  { row with state := .leased leaseToken (clock + projectionLeaseSeconds) }

/-- `reclaim_lease_update_statement`. -/
def reclaimed (row : ProjectionIntent) (clock : Instant) : ProjectionIntent :=
  { row with
    state := .pending
    attemptCount := row.attemptCount + 1
    availableAt := clock + projectionRetryBackoffSeconds row.attemptCount
    lastErrorCode := some "projection_dispatch_lease_expired" }

/-- `acknowledge_dispatched_statement`. -/
def dispatched (row : ProjectionIntent) (clock : Instant) : ProjectionIntent :=
  { row with
    state := .dispatched clock
    attemptCount := row.attemptCount + 1
    lastErrorCode := none }

/-- `release_retry_statement`. -/
def released (row : ProjectionIntent) (availableAt : Instant) : ProjectionIntent :=
  { row with
    state := .pending
    attemptCount := row.attemptCount + 1
    availableAt := availableAt
    lastErrorCode := some "projection_dispatch_unavailable" }

/-- `mark_terminal_statement`. -/
def terminated (row : ProjectionIntent) : ProjectionIntent :=
  { row with
    state := .terminal
    attemptCount := row.attemptCount + 1
    lastErrorCode := some "projection_intent_contract_invalid" }

end ProjectionIntent

def claimOrder (first second : ProjectionIntent) : Prop :=
  first.availableAt < second.availableAt ∨
    (first.availableAt = second.availableAt ∧
      (first.createdAt < second.createdAt ∨
        (first.createdAt = second.createdAt ∧
          first.projectionIntentId ≤ second.projectionIntentId)))

instance : DecidableRel claimOrder := fun _ _ => inferInstanceAs (Decidable (_ ∨ _))

/-! ### Statements -/

/-- `expired_lease_select_statement` with the guarded returns, passing over the rows another
transaction has locked. -/
def reclaimExpired (rows : List ProjectionIntent) (clock now : Instant) (locked : List Uuid) :
    List ProjectionIntent :=
  rows.map fun row =>
    if row.Overdue now ∧ row.projectionIntentId ∉ locked then row.reclaimed clock else row

/-- `claim_available_select_statement`: the first due rows that no other transaction has
locked. -/
def claimAvailable (rows : List ProjectionIntent) (now : Instant) (locked : List Uuid) :
    List ProjectionIntent :=
  Outbox.batch claimOrder projectionClaimBatchLimit
    (fun row => row.Due now ∧ row.projectionIntentId ∉ locked) rows

/-- The lease writes of one claim: the claimed intents take consecutive fresh tokens. -/
def leaseClaimed (rows : List ProjectionIntent) (clock : Instant) (claimed : List Uuid)
    (token : LeaseToken) : List ProjectionIntent :=
  Outbox.leaseAll (·.projectionIntentId) (fun k row => row.lease clock (token + k)) claimed rows

/-- The fenced transition of one row (`_fenced_transition_once`). -/
def fencedTransition (rows : List ProjectionIntent) (intentId : Uuid) (leaseToken : LeaseToken)
    (write : ProjectionIntent → ProjectionIntent) : List ProjectionIntent :=
  rows.map fun row => if row.Holds intentId leaseToken then write row else row

/-- The release writes an availability that the `CHECK` of the table refuses when it precedes the
row's creation. -/
def releaseRetry (rows : List ProjectionIntent) (intentId : Uuid) (leaseToken : LeaseToken)
    (availableAt : Instant) : List ProjectionIntent :=
  fencedTransition rows intentId leaseToken fun row =>
    if row.createdAt ≤ availableAt then row.released availableAt else row

/-! ## The engine -/

/-- `projection_workflow_id`: the fixed prefix, the workspace and the event. -/
structure WorkflowId where
  workspaceId : Uuid
  eventId : Uuid
deriving DecidableEq

def projectionWorkflowTypeName : String := "SourceIngestionWorkflow"

def projectionWorkflowTaskQueue : String := "source-ingestion"

/-- `source_ingestion_reference/v1`. -/
structure SourceIngestionReference where
  workspaceId : Uuid
  eventId : Uuid
  sourceId : Uuid
  sourceVersionId : Uuid
deriving DecidableEq

def projectionWorkflowId (reference : SourceIngestionReference) : WorkflowId :=
  ⟨reference.workspaceId, reference.eventId⟩

def sourceIngestionReferenceForIntent (intent : IntentIdentity) :
    Option SourceIngestionReference :=
  match intent.sourceVersionId, intent.origin with
  | some sourceVersionId, .sourceEvent eventId =>
    some ⟨intent.workspaceId, eventId, intent.sourceId, sourceVersionId⟩
  | _, _ => none

inductive WorkflowExecutionStatus
  | running | completed | failed | canceled | terminated | continuedAsNew | timedOut
deriving DecidableEq

/-- `_ACCEPTED_EXECUTION_STATUSES`. -/
def WorkflowExecutionStatus.Accepted : WorkflowExecutionStatus → Prop
  | .running | .completed | .continuedAsNew => True
  | .failed | .canceled | .terminated | .timedOut => False

instance (status : WorkflowExecutionStatus) : Decidable status.Accepted := by
  cases status <;> unfold WorkflowExecutionStatus.Accepted <;> infer_instance

/-- An execution the engine has accepted; a dispatcher's carries its reference. -/
structure Execution where
  workflowId : WorkflowId
  workflowType : String
  taskQueue : String
  reference : Option SourceIngestionReference
  status : WorkflowExecutionStatus
deriving DecidableEq

/-- Another type or another queue. -/
def Execution.Foreign (execution : Execution) : Prop :=
  execution.workflowType ≠ projectionWorkflowTypeName ∨
    execution.taskQueue ≠ projectionWorkflowTaskQueue

instance (execution : Execution) : Decidable execution.Foreign :=
  inferInstanceAs (Decidable (_ ∨ _))

def startedExecution (reference : SourceIngestionReference) : Execution where
  workflowId := projectionWorkflowId reference
  workflowType := projectionWorkflowTypeName
  taskQueue := projectionWorkflowTaskQueue
  reference := some reference
  status := .running

def findExecution (executions : List Execution) (workflowId : WorkflowId) : Option Execution :=
  executions.find? fun execution => execution.workflowId = workflowId

/-- How the engine answers a start that meets an execution. -/
inductive DuplicateAnswer
  | joined | rejected
deriving DecidableEq

/-- `start_workflow`: a start under a fresh id is accepted; a running execution is joined or the
start is rejected; a closed execution rejects it. Whether the start is answered with a handle. -/
def startWorkflow (executions : List Execution) (reference : SourceIngestionReference)
    (answer : DuplicateAnswer) : List Execution × Bool :=
  match findExecution executions (projectionWorkflowId reference) with
  | none => (executions ++ [startedExecution reference], true)
  | some execution => (executions, execution.status = .running ∧ answer = .joined)

/-- The verdict of `_resolve_existing_execution`: accepted, or the terminal contract failure. -/
def resolveExistingExecution (execution : Execution) : Bool :=
  ¬ execution.Foreign ∧ execution.status.Accepted

/-! ## The machine -/

/-- What a dispatcher knows of the start of a leased intent. -/
inductive TaskPhase
  | leased
  /-- The start was rejected; the existing execution is to be described. -/
  | duplicate
  /-- `ProjectionWorkflowStartResult`. -/
  | answered
  /-- The retryable failure. -/
  | unavailable
  /-- The terminal contract failure. -/
  | refused
deriving DecidableEq

/-- `LeasedProjectionIntent` in the hands of a dispatcher. -/
structure DispatchTask where
  intent : IntentIdentity
  attemptCount : Nat
  leaseToken : LeaseToken
  phase : TaskPhase
deriving DecidableEq

structure State where
  clock : Instant
  rows : List ProjectionIntent
  nextToken : LeaseToken
  tasks : List DispatchTask
  executions : List Execution
deriving DecidableEq

def State.initial : State := ⟨0, [], 0, [], []⟩

def State.setTask (st : State) (i : Nat) (task : DispatchTask) : State :=
  { st with tasks := st.tasks.set i task }

/-- Task `i` with what its dispatcher learns. -/
def State.advance (st : State) (i : Nat) (task : DispatchTask) (phase : TaskPhase) : State :=
  st.setTask i { task with phase := phase }

inductive Action
  /-- Time passes on the database. -/
  | tick (seconds : Nat)
  /-- A transaction leaves an intent. -/
  | enqueue (intent : IntentIdentity)
  /-- `reclaim_expired` at a reading of a dispatcher's clock. -/
  | reclaim (now : Instant) (locked : List Uuid)
  /-- `claim_batch` at a reading of a dispatcher's clock. -/
  | claim (now : Instant) (locked : List Uuid)
  /-- Task `i` has no workflow input. -/
  | refuse (i : Nat)
  /-- The start of task `i` reaches the engine. -/
  | start (i : Nat) (answer : DuplicateAnswer) (lost : Bool)
  /-- The start of task `i` does not reach the engine. -/
  | miss (i : Nat)
  /-- The describe of task `i`. -/
  | describe (i : Nat) (lost : Bool)
  | acknowledge (i : Nat)
  /-- `release_retry` at a reading of the dispatcher's clock. -/
  | release (i : Nat) (now : Instant)
  | markTerminal (i : Nat)
  /-- The dispatcher of task `i` stops, or leaves it after an unexpected failure. -/
  | crash (i : Nat)
  /-- An execution closes. -/
  | close (workflowId : WorkflowId) (status : WorkflowExecutionStatus)
  /-- Another client starts an execution of another type or on another queue. -/
  | startForeign (workflowId : WorkflowId) (workflowType taskQueue : String)
deriving DecidableEq

def closeExecution (executions : List Execution) (workflowId : WorkflowId)
    (status : WorkflowExecutionStatus) : List Execution :=
  executions.map fun execution =>
    if execution.workflowId = workflowId ∧ execution.status = .running then
      { execution with status := status }
    else execution

def startPhase (handled lost : Bool) : TaskPhase :=
  if lost then .unavailable else if handled then .answered else .duplicate

def describePhase (execution : Option Execution) (lost : Bool) : TaskPhase :=
  match execution with
  | none => .unavailable
  | some execution =>
    if lost then .unavailable
    else if resolveExistingExecution execution then .answered else .refused

def step (st : State) : Action → Option State
  | .tick seconds => some { st with clock := st.clock + seconds }
  | .enqueue intent =>
    if ∀ row ∈ st.rows, row.projectionIntentId ≠ intent.projectionIntentId then
      some { st with rows := st.rows ++ [⟨intent, .pending, 0, st.clock, st.clock, none⟩] }
    else none
  | .reclaim now locked => some { st with rows := reclaimExpired st.rows st.clock now locked }
  | .claim now locked =>
    let taken := claimAvailable st.rows now locked
    let claimed := taken.map (·.projectionIntentId)
    some { st with
      rows := leaseClaimed st.rows st.clock claimed st.nextToken
      nextToken := st.nextToken + taken.length
      tasks := st.tasks ++ taken.mapIdx fun k row =>
        ⟨row.toIntentIdentity, row.attemptCount, st.nextToken + k, .leased⟩ }
  | .refuse i => do
    let task ← st.tasks[i]?
    guard (task.phase = .leased ∧ sourceIngestionReferenceForIntent task.intent = none)
    return st.advance i task .refused
  | .start i answer lost => do
    let task ← st.tasks[i]?
    guard (task.phase = .leased)
    let reference ← sourceIngestionReferenceForIntent task.intent
    let (executions, handled) := startWorkflow st.executions reference answer
    return { st.advance i task (startPhase handled lost) with executions }
  | .miss i => do
    let task ← st.tasks[i]?
    guard (task.phase = .leased)
    return st.advance i task .unavailable
  | .describe i lost => do
    let task ← st.tasks[i]?
    guard (task.phase = .duplicate)
    let reference ← sourceIngestionReferenceForIntent task.intent
    return st.advance i task
      (describePhase (findExecution st.executions (projectionWorkflowId reference)) lost)
  | .acknowledge i => do
    let task ← st.tasks[i]?
    guard (task.phase = .answered)
    return { st with
      rows := fencedTransition st.rows task.intent.projectionIntentId task.leaseToken
        (·.dispatched st.clock) }
  | .release i now => do
    let task ← st.tasks[i]?
    guard (task.phase = .unavailable)
    return { st with
      rows := releaseRetry st.rows task.intent.projectionIntentId task.leaseToken
        (now + projectionRetryBackoffSeconds task.attemptCount) }
  | .markTerminal i => do
    let task ← st.tasks[i]?
    guard (task.phase = .refused)
    return { st with
      rows := fencedTransition st.rows task.intent.projectionIntentId task.leaseToken
        (·.terminated) }
  | .crash i =>
    if i < st.tasks.length then some { st with tasks := st.tasks.eraseIdx i } else none
  | .close workflowId status =>
    some { st with executions := closeExecution st.executions workflowId status }
  | .startForeign workflowId workflowType taskQueue =>
    let execution : Execution := ⟨workflowId, workflowType, taskQueue, none, .running⟩
    if findExecution st.executions workflowId = none ∧ execution.Foreign then
      some { st with executions := st.executions ++ [execution] }
    else none

def machine : Machine State Action where
  Init := fun st => st = .initial
  step := step

/-- The engine rejects a start that meets a running execution of another type or queue. -/
def RejectsForeign (st : State) : Action → Prop
  | .start i .joined _ => ∀ task ∈ st.tasks[i]?, ∀ reference,
      sourceIngestionReferenceForIntent task.intent = some reference →
      ∀ execution ∈ findExecution st.executions (projectionWorkflowId reference),
        ¬ execution.Foreign
  | _ => True

/-! ## What is asked of it -/

def ingestions (st : State) (workspaceId eventId : Uuid) : List Execution :=
  st.executions.filter fun execution =>
    execution.reference.any fun reference =>
      reference.workspaceId = workspaceId ∧ reference.eventId = eventId

/-- The execution under the id of the intent's event. -/
def Execution.Of (execution : Execution) (intent : IntentIdentity) : Prop :=
  ∃ eventId, intent.origin = .sourceEvent eventId ∧
    execution.workflowId = ⟨intent.workspaceId, eventId⟩

/-- The engine has accepted an ingestion of the intent's event. -/
def Accepted (executions : List Execution) (intent : IntentIdentity) : Prop :=
  ∃ execution ∈ executions, execution.Of intent ∧ ¬ execution.Foreign

/-- The execution under the id of the intent's event is foreign or has closed abnormally. -/
def Spoiled (executions : List Execution) (intent : IntentIdentity) : Prop :=
  ∃ execution ∈ executions, execution.Of intent ∧
    (execution.Foreign ∨ ¬ execution.status.Accepted)

/-- The intent is leased under a token not handed out before. -/
def LeasedAnew (st st' : State) (intentId : Uuid) : Prop :=
  ∃ row ∈ st'.rows, row.projectionIntentId = intentId ∧
    ∃ token leasedUntil, row.state = .leased token leasedUntil ∧ st.nextToken ≤ token

/-- The state after a claim that meets no locked row. -/
def claimed (now : Instant) (st : State) : State := (step st (.claim now [])).getD st

/-- Dispatchers that claim at a reading come to lease the intent. -/
def ClaimedAt (st : State) (now : Instant) (intentId : Uuid) : Prop :=
  ∃ n, LeasedAnew st ((claimed now)^[n + 1] st) intentId

/-- A lease that was handed out and is no longer the row's. -/
def Lost (st : State) (leaseToken : LeaseToken) : Prop :=
  leaseToken < st.nextToken ∧ ∀ row ∈ st.rows, ∀ leasedUntil,
    row.state ≠ .leased leaseToken leasedUntil

/-- The dispatcher steps that write for the lease of task `i`. -/
def writesFor (i : Nat) : Action → Prop
  | .acknowledge j | .release j _ | .markTerminal j => j = i
  | _ => False

/-- A dispatcher that has lost its lease never changes the rows. -/
def Fenced (st : State) : Prop :=
  ∀ leaseToken, Lost st leaseToken → ∀ st', machine.Leads st st' →
    ∀ i task, st'.tasks[i]? = some task → task.leaseToken = leaseToken →
      ∀ action, writesFor i action → ∀ st'', step st' action = some st'' → st''.rows = st'.rows

/-- No intent is lost and no event is started twice. -/
structure NoneLost (st : State) : Prop where
  startedOnce : ∀ workspaceId eventId, (ingestions st workspaceId eventId).length ≤ 1
  dispatched : ∀ row ∈ st.rows, ∀ dispatchedAt, row.state = .dispatched dispatchedAt →
    Accepted st.executions row.toIntentIdentity
  terminal : ∀ row ∈ st.rows, row.state = .terminal →
    row.sourceVersionId = none ∨ Spoiled st.executions row.toIntentIdentity
  claimable : ∀ row ∈ st.rows, row.state = .pending → row.FromSourceEvent →
    ∀ now, row.availableAt ≤ now → ClaimedAt st now row.projectionIntentId
  reclaimable : ∀ row ∈ st.rows, ∀ token leasedUntil, row.state = .leased token leasedUntil →
    ∀ now, leasedUntil ≤ now → ∀ locked, row.projectionIntentId ∉ locked →
      ∃ st', step st (.reclaim now locked) = some st' ∧
        ∀ now', st.clock + projectionBackoffCapSeconds ≤ now' →
          ClaimedAt st' now' row.projectionIntentId
  fenced : Fenced st
  policy : ∀ row ∈ st.rows, ¬ row.FromSourceEvent →
    row.state = .pending ∧ ∀ task ∈ st.tasks,
      task.intent.projectionIntentId ≠ row.projectionIntentId

end PersonalOs.Projections
