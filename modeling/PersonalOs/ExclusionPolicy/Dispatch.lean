import PersonalOs.Basis.Machine

/-!
# Dispatching reconciliations

A publication leaves one durable intent per revision. Dispatchers lease due intents, start the
revision's workflow under its deterministic identity and acknowledge, release or end the lease;
a failing activity of the workflow returns the intent by itself.

The engine runs at most one execution per workflow id. A start joins the running execution, is
answered by a completed one, and starts anew after a failed one; its answer may be lost. The last
attempt of an activity releases the intent in a transaction of its own, which may be missing, and
then the execution closes as failed.
-/

namespace PersonalOs.ExclusionPolicy.Dispatch

abbrev Uuid := Nat
abbrev LeaseToken := Nat
abbrev Instant := Nat

/-! ## The intent row -/

/-- The lifecycle of an intent; the lease columns are set in `leased` only and the dispatch time
in `dispatched` only. -/
inductive IntentState
  | pending
  | leased (leaseToken : LeaseToken) (leasedUntil : Instant)
  | dispatched (dispatchedAt : Instant)
  | terminal
deriving DecidableEq

/-- A row of `policy_reconciliation_intents`. -/
structure IntentRow where
  workspaceId : Uuid
  policyRevisionId : Uuid
  state : IntentState
  attemptCount : Nat
  availableAt : Instant
  createdAt : Instant
  safeErrorCode : Option String
deriving DecidableEq

def policyReconciliationLeaseSeconds : Nat := 60

def policyReconciliationClaimBatchLimit : Nat := 20

def policyReconciliationBackoffCapSeconds : Nat := 300

/-- The largest value of the SQL type the power is cast to. -/
def maximumInteger : Nat := 2147483647

/-- `_bounded_backoff_interval`. The power is cast before it is capped, and the cast refuses
what does not fit. -/
def boundedBackoffInterval (attemptCount : Nat) : Option Nat :=
  if 2 ^ attemptCount ≤ maximumInteger then
    some (min policyReconciliationBackoffCapSeconds (2 ^ attemptCount))
  else none

/-- The return to `pending` shared by reclaim, release and retryable failure. -/
def IntentRow.returned (row : IntentRow) (clock : Instant) (errorCode : String) :
    Option IntentRow :=
  (boundedBackoffInterval row.attemptCount).map fun backoff =>
    { row with
      state := .pending
      attemptCount := row.attemptCount + 1
      availableAt := clock + backoff
      safeErrorCode := some errorCode }

/-- The row's lease has run out at a reading of the clock. -/
def IntentRow.Overdue (row : IntentRow) (now : Instant) : Prop :=
  match row.state with
  | .leased _ leasedUntil => leasedUntil ≤ now
  | _ => False

instance (row : IntentRow) (now : Instant) : Decidable (row.Overdue now) := by
  unfold IntentRow.Overdue
  split <;> infer_instance

def IntentRow.Holds (row : IntentRow) (policyRevisionId : Uuid) (leaseToken : LeaseToken) : Prop :=
  row.policyRevisionId = policyRevisionId ∧
    match row.state with
    | .leased token _ => token = leaseToken
    | _ => False

instance (row : IntentRow) (id : Uuid) (token : LeaseToken) : Decidable (row.Holds id token) := by
  unfold IntentRow.Holds
  split <;> infer_instance

/-- Due at a reading of the clock. -/
def IntentRow.Due (row : IntentRow) (now : Instant) : Prop :=
  row.state = .pending ∧ row.availableAt ≤ now

instance (row : IntentRow) (now : Instant) : Decidable (row.Due now) :=
  inferInstanceAs (Decidable (_ ∧ _))

/-- `_EXECUTABLE_STATES`. -/
def IntentState.Executable : IntentState → Prop
  | .leased _ _ | .dispatched _ => True
  | .pending | .terminal => False

instance (state : IntentState) : Decidable state.Executable := by
  cases state <;> unfold IntentState.Executable <;> infer_instance

/-! ### Statements -/

/-- `reclaim_lease_update_statement`: one statement over every overdue row. -/
def reclaimLeases (rows : List IntentRow) (clock now : Instant) : Option (List IntentRow) :=
  rows.mapM fun row =>
    if row.Overdue now then row.returned clock "reconciliation_lease_expired" else some row

def claimOrder (first second : IntentRow) : Prop :=
  first.availableAt < second.availableAt ∨
    (first.availableAt = second.availableAt ∧
      (first.createdAt < second.createdAt ∨
        (first.createdAt = second.createdAt ∧
          first.policyRevisionId ≤ second.policyRevisionId)))

instance : DecidableRel claimOrder := fun _ _ => inferInstanceAs (Decidable (_ ∨ _))

/-- `claim_pending_reconciliations_select_statement`: the first due rows in order, passing over
those another transaction has locked. -/
def claimable (rows : List IntentRow) (now : Instant) (locked : List Uuid) : List IntentRow :=
  ((rows.filter fun row => row.Due now ∧ row.policyRevisionId ∉ locked).insertionSort
    claimOrder).take policyReconciliationClaimBatchLimit

/-- `lease_reconciliation_update_statement`. -/
def IntentRow.lease (row : IntentRow) (clock : Instant) (leaseToken : LeaseToken) : IntentRow :=
  { row with
    state := .leased leaseToken (clock + policyReconciliationLeaseSeconds)
    attemptCount := row.attemptCount + 1 }

/-- The lease writes of one claim: the claimed revisions take consecutive fresh tokens. -/
def leaseClaimed (rows : List IntentRow) (clock : Instant) (claimed : List Uuid)
    (token : LeaseToken) : List IntentRow :=
  rows.map fun row =>
    match claimed.idxOf? row.policyRevisionId with
    | some k => row.lease clock (token + k)
    | none => row

/-- `acknowledge_dispatched_statement`. -/
def acknowledgeDispatched (rows : List IntentRow) (clock : Instant) (policyRevisionId : Uuid)
    (leaseToken : LeaseToken) : List IntentRow :=
  rows.map fun row =>
    if row.Holds policyRevisionId leaseToken then { row with state := .dispatched clock } else row

/-- `release_retry_statement`. -/
def releaseRetry (rows : List IntentRow) (clock : Instant) (policyRevisionId : Uuid)
    (leaseToken : LeaseToken) (errorCode : String) : Option (List IntentRow) :=
  rows.mapM fun row =>
    if row.Holds policyRevisionId leaseToken then row.returned clock errorCode else some row

/-- `mark_terminal_statement`. -/
def markTerminal (rows : List IntentRow) (policyRevisionId : Uuid) (leaseToken : LeaseToken)
    (errorCode : String) : List IntentRow :=
  rows.map fun row =>
    if row.Holds policyRevisionId leaseToken then
      { row with state := .terminal, safeErrorCode := some errorCode }
    else row

/-- `fail_dispatched_statement`. -/
def failDispatched (rows : List IntentRow) (clock : Instant) (policyRevisionId : Uuid)
    (errorCode : String) (retryable : Bool) : Option (List IntentRow) :=
  rows.mapM fun row =>
    if row.policyRevisionId = policyRevisionId ∧ row.state.Executable then
      if retryable then row.returned clock errorCode
      else some { row with state := .terminal, safeErrorCode := some errorCode }
    else some row

/-! ## The engine -/

/-- The latest execution of a workflow id. `released` when the last attempt of an activity has
released the intent and the execution is about to close as failed; `scanned` says whether the
execution has ended its scan. -/
inductive ExecutionPhase
  | absent
  | running (scanned : Bool)
  | released (scanned : Bool)
  | failed
  | completed
  | superseded
deriving DecidableEq

/-- What the engine and the audit know of a revision: its latest execution, and whether any
execution has ended the scan. -/
structure WorkflowRecord where
  phase : ExecutionPhase
  scanCompleted : Bool
deriving DecidableEq

inductive PolicyReconciliationStartOutcome
  | started | existing
deriving DecidableEq

/-- A start under `ALLOW_DUPLICATE_FAILED_ONLY` and `USE_EXISTING`; a completed execution is
resolved by `_resolve_existing_execution`. -/
def startPolicyReconciliation (record : WorkflowRecord) :
    WorkflowRecord × PolicyReconciliationStartOutcome :=
  match record.phase with
  | .absent | .failed => ({ record with phase := .running false }, .started)
  | .running _ | .released _ => (record, .started)
  | .completed | .superseded => (record, .existing)

/-! ## The machine -/

/-- What a dispatcher knows of a start it asked for. -/
inductive TaskPhase
  | leased
  | answered (outcome : PolicyReconciliationStartOutcome)
  | unavailable
  | refused
deriving DecidableEq

/-- A leased intent in the hands of a dispatcher. -/
structure DispatchTask where
  policyRevisionId : Uuid
  leaseToken : LeaseToken
  phase : TaskPhase
deriving DecidableEq

structure State where
  clock : Instant
  rows : List IntentRow
  nextToken : LeaseToken
  tasks : List DispatchTask
  workflow : Uuid → WorkflowRecord
  active : Uuid → Option Uuid

def State.initial : State where
  clock := 0
  rows := []
  nextToken := 0
  tasks := []
  workflow := fun _ => ⟨.absent, false⟩
  active := fun _ => none

def State.setTask (st : State) (i : Nat) (task : DispatchTask) : State :=
  { st with tasks := st.tasks.set i task }

def State.setWorkflow (st : State) (policyRevisionId : Uuid) (record : WorkflowRecord) : State :=
  { st with workflow := fun id => if id = policyRevisionId then record else st.workflow id }

inductive Action
  /-- Time passes on the database. -/
  | tick (seconds : Nat)
  /-- A publication makes its revision the active one of its workspace. -/
  | publish (workspaceId policyRevisionId : Uuid)
  /-- `reclaim_expired` at a reading of a dispatcher's clock. -/
  | reclaim (now : Instant)
  /-- `claim_pending` at a reading, with rows other transactions have locked. -/
  | claim (now : Instant) (locked : List Uuid)
  /-- The start of task `i` reaches the engine; its answer may be lost. -/
  | start (i : Nat) (lost : Bool)
  /-- The start of task `i` does not reach the engine. -/
  | miss (i : Nat)
  /-- The start of task `i` meets the terminal contract failure. -/
  | refuse (i : Nat)
  | acknowledge (i : Nat)
  | release (i : Nat) (errorCode : String)
  | markTerminal (i : Nat)
  /-- The dispatcher of task `i` stops, or leaves it after an unexpected failure. -/
  | crash (i : Nat)
  /-- The last batch of the running execution answers. -/
  | scan (policyRevisionId : Uuid)
  /-- The completion activity of the running execution answers. -/
  | complete (policyRevisionId : Uuid)
  /-- A batch finds another revision active. -/
  | supersede (policyRevisionId : Uuid)
  /-- `fail_reconciliation` by the attempt that fails the running execution. -/
  | fail (policyRevisionId : Uuid) (errorCode : String) (retryable : Bool)
  /-- `fail_reconciliation` by an attempt the engine no longer waits for. -/
  | lateFail (policyRevisionId : Uuid) (errorCode : String) (retryable : Bool)
  /-- The engine never learns of a failure whose attempt was not the last, and retries it. -/
  | retry (policyRevisionId : Uuid)
  /-- The execution closes as failed. -/
  | close (policyRevisionId : Uuid)

def step (st : State) : Action → Option State
  | .tick seconds => some { st with clock := st.clock + seconds }
  | .publish workspaceId policyRevisionId =>
    if (∀ row ∈ st.rows, row.policyRevisionId ≠ policyRevisionId) ∧
        st.workflow policyRevisionId = ⟨.absent, false⟩ then
      some { st with
        rows := st.rows ++ [⟨workspaceId, policyRevisionId, .pending, 0, st.clock, st.clock, none⟩]
        active := fun id => if id = workspaceId then some policyRevisionId else st.active id }
    else none
  | .reclaim now =>
    (reclaimLeases st.rows st.clock now).map fun rows => { st with rows }
  | .claim now locked =>
    let claimed := (claimable st.rows now locked).map IntentRow.policyRevisionId
    some { st with
      rows := leaseClaimed st.rows st.clock claimed st.nextToken
      nextToken := st.nextToken + claimed.length
      tasks := st.tasks ++ claimed.mapIdx fun k id => ⟨id, st.nextToken + k, .leased⟩ }
  | .start i lost =>
    match st.tasks[i]? with
    | some ⟨id, token, .leased⟩ =>
      let (record, outcome) := startPolicyReconciliation (st.workflow id)
      let answer : TaskPhase := if lost then .unavailable else .answered outcome
      some ((st.setWorkflow id record).setTask i ⟨id, token, answer⟩)
    | _ => none
  | .miss i =>
    match st.tasks[i]? with
    | some ⟨id, token, .leased⟩ => some (st.setTask i ⟨id, token, .unavailable⟩)
    | _ => none
  | .refuse i =>
    match st.tasks[i]? with
    | some ⟨id, token, .leased⟩ => some (st.setTask i ⟨id, token, .refused⟩)
    | _ => none
  | .acknowledge i =>
    match st.tasks[i]? with
    | some ⟨id, token, .answered _⟩ =>
      some { st with rows := acknowledgeDispatched st.rows st.clock id token }
    | _ => none
  | .release i errorCode =>
    match st.tasks[i]? with
    | some ⟨id, token, .unavailable⟩ =>
      (releaseRetry st.rows st.clock id token errorCode).map fun rows => { st with rows }
    | _ => none
  | .markTerminal i =>
    match st.tasks[i]? with
    | some ⟨id, token, .refused⟩ =>
      some { st with
        rows := Dispatch.markTerminal st.rows id token "reconciliation_dispatch_terminal" }
    | _ => none
  | .crash i =>
    if i < st.tasks.length then some { st with tasks := st.tasks.eraseIdx i } else none
  | .scan id =>
    match st.workflow id with
    | ⟨.running _, _⟩ => some (st.setWorkflow id ⟨.running true, true⟩)
    | _ => none
  | .complete id =>
    match st.workflow id with
    | ⟨.running true, scanCompleted⟩ => some (st.setWorkflow id ⟨.completed, scanCompleted⟩)
    | _ => none
  | .supersede id =>
    match st.workflow id with
    | ⟨.running false, scanCompleted⟩ =>
      if ∀ row ∈ st.rows, row.policyRevisionId = id → st.active row.workspaceId ≠ some id then
        some (st.setWorkflow id ⟨.superseded, scanCompleted⟩)
      else none
    | _ => none
  | .fail id errorCode retryable =>
    match st.workflow id with
    | ⟨.running scanned, scanCompleted⟩ =>
      (failDispatched st.rows st.clock id errorCode retryable).map fun rows =>
        { st.setWorkflow id ⟨.released scanned, scanCompleted⟩ with rows }
    | _ => none
  | .lateFail id errorCode retryable =>
    if st.workflow id = ⟨.absent, false⟩ then none
    else (failDispatched st.rows st.clock id errorCode retryable).map fun rows => { st with rows }
  | .retry id =>
    match st.workflow id with
    | ⟨.released scanned, scanCompleted⟩ =>
      some (st.setWorkflow id ⟨.running scanned, scanCompleted⟩)
    | _ => none
  | .close id =>
    match st.workflow id with
    | ⟨.running _, scanCompleted⟩ | ⟨.released _, scanCompleted⟩ =>
      some (st.setWorkflow id ⟨.failed, scanCompleted⟩)
    | _ => none

def machine : Machine State Action where
  Init := fun st => st = .initial
  step := step

/-! ## What is asked of it -/

/-- An execution is running: it has been started and has not closed. -/
def Running (record : WorkflowRecord) : Prop :=
  match record.phase with
  | .running _ | .released _ => True
  | _ => False

/-- The intent of the active revision rests in `dispatched` only while its workflow takes care
of it. -/
def Cared (st : State) (row : IntentRow) : Prop :=
  ∀ dispatchedAt, row.state = .dispatched dispatchedAt →
    st.active row.workspaceId = some row.policyRevisionId →
    Running (st.workflow row.policyRevisionId) ∨
      (st.workflow row.policyRevisionId).scanCompleted = true

/-- Time passes and dispatchers that read the database's time reclaim and claim. -/
inductive Awaits : State → State → Prop
  | refl (st : State) : Awaits st st
  | wait {st st' : State} (seconds : Nat)
      (rest : Awaits { st with clock := st.clock + seconds } st') : Awaits st st'
  | reclaim {st next st' : State} (moved : step st (.reclaim st.clock) = some next)
      (rest : Awaits next st') : Awaits st st'
  | claim {st next st' : State} (moved : step st (.claim st.clock []) = some next)
      (rest : Awaits next st') : Awaits st st'

/-- After a finite wait the row is leased anew. -/
def Reclaimable (st : State) (row : IntentRow) : Prop :=
  ∃ st', Awaits st st' ∧ ∃ row' ∈ st'.rows, row'.policyRevisionId = row.policyRevisionId ∧
    ∃ token leasedUntil, row'.state = .leased token leasedUntil ∧ st.nextToken ≤ token

/-- A lease that was handed out and is no longer the row's. -/
def Lost (st : State) (leaseToken : LeaseToken) : Prop :=
  leaseToken < st.nextToken ∧ ∀ row ∈ st.rows, ∀ leasedUntil,
    row.state ≠ .leased leaseToken leasedUntil

/-- The dispatcher steps that write for the lease of task `i`. -/
def writesFor (i : Nat) : Action → Prop
  | .acknowledge j | .release j _ | .markTerminal j => j = i
  | _ => False

/-- A dispatcher that has lost its lease never changes the rows. -/
def Fenced (st : State) : Prop :=
  ∀ leaseToken, Lost st leaseToken → ∀ st', machine.Leads st st' →
    ∀ i task, st'.tasks[i]? = some task → task.leaseToken = leaseToken →
      ∀ action, writesFor i action → ∀ st'', step st' action = some st'' → st''.rows = st'.rows

structure NoneLost (st : State) : Prop where
  cared : ∀ row ∈ st.rows, Cared st row
  reclaimable : ∀ row ∈ st.rows,
    (row.state = .pending ∨ ∃ token leasedUntil, row.state = .leased token leasedUntil) →
      Reclaimable st row
  fenced : Fenced st

/-- The steps that lose none: a row is claimed while its backoff still fits the cast; no start
joins an execution that has released its intent; and an execution closes as failed only after
that release, or after a completed scan. -/
def Careful (st : State) : Action → Prop
  | .claim now locked => ∀ row ∈ st.rows,
      row.policyRevisionId ∈ (claimable st.rows now locked).map IntentRow.policyRevisionId →
        row.attemptCount < 30
  | .start i _ => ∀ task ∈ st.tasks[i]?, ∀ scanned,
      (st.workflow task.policyRevisionId).phase = .released scanned →
        (st.workflow task.policyRevisionId).scanCompleted = true
  | .close id => (∃ scanned, (st.workflow id).phase = .released scanned) ∨
      (st.workflow id).scanCompleted = true
  | _ => True

end PersonalOs.ExclusionPolicy.Dispatch
