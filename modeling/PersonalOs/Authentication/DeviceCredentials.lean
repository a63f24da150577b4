import PersonalOs.Basis.Machine

/-!
# The credentials of a device

`DeviceTokenSession` and `DeviceAuthorizationController` of the plugin share one durable secret
record, the pending grant of the settings and one stop flag. Each of their asynchronous methods
runs to its next `await`. Answers of the server are arbitrary and come in any order.

The history is not part of the plugin: it records the writes and calls the properties are about,
the latest first.
-/

namespace PersonalOs.Authentication.DeviceCredentials

abbrev Credential := Nat
abbrev RotationId := Nat
abbrev GrantId := Nat
abbrev Login := Nat

/-! ## Records and answers -/

/-- `CLEARED_REASONS`. -/
inductive ClearedReason
  | grantDenied | grantExpired | loginCancelled | grantInvalid
  | tokenReuse | credentialInvalid | deviceRevoked | selfDisconnect
deriving DecidableEq

inductive DeviceSecretRecord
  | pendingGrant (pollingSecret : Credential)
  | active (refreshCredential : Credential) (refreshGeneration : Nat)
      (pendingRotationId : Option RotationId)
  | cleared (clearedReason : ClearedReason)
deriving DecidableEq

def DeviceSecretRecord.isActive : DeviceSecretRecord → Bool
  | .active _ _ _ => true
  | _ => false

/-- The `pending_grant` of the settings. `login` is no field of it: it names the login whose
grant it is. -/
structure PendingGrant where
  grantId : GrantId
  expiresAtEpochSeconds : Nat
  pollIntervalSeconds : Nat
  login : Login
deriving DecidableEq

/-- The credentials of a rotation or an exchange. -/
structure Credentials where
  refreshCredential : Credential
  refreshGeneration : Nat
  accessCredential : Credential
deriving DecidableEq

/-- What `createGrant` answers. -/
structure CreatedGrant where
  grantId : GrantId
  pollingSecret : Credential
  expiresInSeconds : Nat
  pollIntervalSeconds : Nat
deriving DecidableEq

/-- The codes of a failed call the methods tell apart. -/
inductive FailureCode
  | deviceTokenReuseDetected | deviceRevoked | deviceCredentialInvalid | networkUnavailable
  | deviceAuthorizationPending | deviceAuthorizationSlowDown | deviceAuthorizationDenied
  | deviceAuthorizationExpired | deviceAuthorizationStateInvalid | other
deriving DecidableEq

structure Failure where
  code : FailureCode
  retryAfterSeconds : Option Nat
deriving DecidableEq

/-- The tombstone a failed rotation leaves, if any. -/
def surfaceRefreshFailure (failure : Failure) : Option ClearedReason :=
  match failure.code with
  | .deviceTokenReuseDetected => some .tokenReuse
  | .deviceRevoked => some .deviceRevoked
  | .deviceCredentialInvalid => some .credentialInvalid
  | _ => none

/-- Whether a failed self-disconnect ends the record all the same. -/
def endsDisconnect (failure : Failure) : Bool :=
  match failure.code with
  | .deviceCredentialInvalid | .deviceRevoked | .deviceTokenReuseDetected => true
  | _ => false

inductive PollFailure
  | continue (intervalSeconds : Option Nat)
  | terminal (clearedReason : ClearedReason)
  | offline
deriving DecidableEq

def classifyPollFailure (failure : Failure) : PollFailure :=
  match failure.code with
  | .deviceAuthorizationPending | .deviceAuthorizationSlowDown =>
    match failure.retryAfterSeconds with
    | some retryHint => if retryHint < 1 then .continue none else .continue (some retryHint)
    | none => .continue none
  | .deviceAuthorizationDenied => .terminal .grantDenied
  | .deviceAuthorizationExpired => .terminal .grantExpired
  | .deviceCredentialInvalid | .deviceAuthorizationStateInvalid => .terminal .grantInvalid
  | _ => .offline

/-! ## The machine -/

/-- A method suspended at an `await`. -/
inductive Task
  /-- `#rotateOnce` at its request. -/
  | refreshing (refreshCredential : Credential) (rotationId : RotationId)
  /-- `#clearTerminalRecord` of a rotation at `persistSettings`. -/
  | clearing
  /-- `disconnect` at its request. -/
  | disconnecting (refreshCredential : Credential)
  /-- A `persistSettings` nothing follows. -/
  | settling
  /-- `login` at `createGrant`. -/
  | creating (login : Login)
  /-- `login` at `persistSettings`, its grant stored. -/
  | opening
  /-- The poll loop at its delay. -/
  | delaying (intervalSeconds : Nat)
  /-- The poll loop at `pollGrant`. -/
  | polling (grant : PendingGrant) (pollingSecret : Credential) (intervalSeconds : Nat)
  /-- The poll loop at `persistSettings`, the exchange stored. -/
  | storing (grant : PendingGrant) (exchange : Credentials)
  /-- `onExchange` at its `persistSettings`. -/
  | identifying (grant : PendingGrant) (exchange : Credentials)
  /-- `onExchange` after the session has adopted the exchange. -/
  | bootstrapping
deriving DecidableEq

inductive Origin
  | refresh
  | exchange (login : Login)
deriving DecidableEq

inductive Event
  | loginStarted (login : Login)
  /-- A login under way is cancelled. -/
  | cancelled
  /-- The session replaces the record by a tombstone. -/
  | tombstone (clearedReason : ClearedReason)
  /-- An active record is written. -/
  | activated (origin : Origin)
  /-- The session adopts the exchange of a login. -/
  | adopted (login : Login)
deriving DecidableEq

structure State where
  record : Option DeviceSecretRecord
  pendingGrant : Option PendingGrant
  stopRequested : Bool
  accessCredential : Option Credential
  refreshInFlight : Bool
  nowEpochMs : Nat
  tasks : List Task
  nextLogin : Login
  history : List Event

def State.hasActive (st : State) : Bool :=
  st.record.any DeviceSecretRecord.isActive

def State.end (st : State) (i : Nat) : State :=
  { st with tasks := st.tasks.eraseIdx i }

/-- A finished task goes on as another. -/
def State.goOn (st : State) (i : Nat) (task : Task) : State :=
  { st with tasks := st.tasks.eraseIdx i ++ [task] }

def State.enter (st : State) (task : Task) : State :=
  { st with tasks := st.tasks ++ [task] }

def State.log (st : State) (event : Event) : State :=
  { st with history := event :: st.history }

/-- The writes of `#clearTerminalRecord` before its `await`. -/
def State.clearTerminalRecord (st : State) (reason : ClearedReason) : State :=
  { st with
    record := some (.cleared reason)
    accessCredential := none
    history := .tombstone reason :: st.history }

/-- The writes of `#terminatePendingGrant` before its `await`. -/
def State.terminatePendingGrant (st : State) (reason : ClearedReason) : State :=
  { st with record := some (.cleared reason), pendingGrant := none }

/-- The latest login waits for the answer to its grant request. -/
def State.latestCreating (st : State) : Bool :=
  st.tasks.any fun task =>
    match task with
    | .creating login => login + 1 = st.nextLogin
    | _ => false

inductive Action
  | tick (milliseconds : Nat)
  /-- `login`, with valid settings or not. -/
  | login (configured : Bool)
  | cancelPendingLogin
  | resumePendingGrant
  /-- `stop`, at unload. -/
  | stop
  /-- `refresh`, drawing a rotation identity should it need one. -/
  | refresh (createdRotationId : RotationId)
  | disconnect
  /-- The answers of the server to suspended task `i`. -/
  | grantAnswer (i : Nat) (answer : Except Failure CreatedGrant)
  | pollAnswer (i : Nat) (answer : Except Failure Credentials)
  | refreshAnswer (i : Nat) (answer : Except Failure Credentials)
  | disconnectAnswer (i : Nat) (answer : Except Failure Unit)
  /-- The delay of task `i` is over. -/
  | delayOver (i : Nat)
  /-- The `persistSettings` of task `i` is done, or has failed. -/
  | persisted (i : Nat) (done : Bool)
  /-- The rest of `onExchange` is done, or has failed. -/
  | bootstrapped (i : Nat)

/-- `login` up to its first `await`. -/
def login (st : State) (configured : Bool) : State :=
  let st := { st with stopRequested := false }
  if st.hasActive ∨ configured = false then st
  else
    ({ st with nextLogin := st.nextLogin + 1 }.enter (.creating st.nextLogin)).log
      (.loginStarted st.nextLogin)

/-- There is a login under way to cancel. -/
def State.cancels (st : State) : Bool :=
  st.latestCreating || (st.pendingGrant.isSome && !st.hasActive)

/-- `cancelPendingLogin` up to its `await`. -/
def cancelPendingLogin (st : State) : State :=
  let st := { st with
    stopRequested := true
    history := if st.cancels then .cancelled :: st.history else st.history }
  if st.pendingGrant = none then st
  else if st.hasActive then { st with pendingGrant := none }.enter .settling
  else (st.terminatePendingGrant .loginCancelled).enter .settling

/-- `resumePendingGrant` up to its first `await`. -/
def resumePendingGrant (st : State) : State :=
  match st.pendingGrant, st.record with
  | some grant, some (.pendingGrant _) =>
    if st.nowEpochMs ≥ grant.expiresAtEpochSeconds * 1000 then
      (st.terminatePendingGrant .grantExpired).enter .settling
    else { st with stopRequested := false }.enter (.delaying grant.pollIntervalSeconds)
  | none, some (.pendingGrant _) => (st.terminatePendingGrant .grantInvalid).enter .settling
  | _, _ => st

/-- `refresh`: a concurrent caller joins the rotation in flight. -/
def refresh (st : State) (createdRotationId : RotationId) : State :=
  if st.refreshInFlight then st
  else match st.record with
    | some (.active refreshCredential refreshGeneration pendingRotationId) =>
      let rotationId := pendingRotationId.getD createdRotationId
      ({ st with
        record := some (.active refreshCredential refreshGeneration (some rotationId))
        refreshInFlight := true }.enter (.refreshing refreshCredential rotationId)).log
          (.activated .refresh)
    | _ => st

/-- `disconnect` up to its request. -/
def disconnect (st : State) : State :=
  match st.record with
  | some (.active refreshCredential _ _) => st.enter (.disconnecting refreshCredential)
  | _ => st

/-- `login` from the answer to its grant request to its next `await`. -/
def grantAnswer (st : State) (i : Nat) (login : Login) :
    Except Failure CreatedGrant → State
  | .error _ => st.end i
  | .ok grant =>
    { st with
      record := some (.pendingGrant grant.pollingSecret)
      pendingGrant := some {
        grantId := grant.grantId
        expiresAtEpochSeconds := st.nowEpochMs / 1000 + grant.expiresInSeconds
        pollIntervalSeconds := grant.pollIntervalSeconds
        login } }.goOn i .opening

/-- The poll loop from the end of its delay to its next `await`. -/
def delayOver (st : State) (i intervalSeconds : Nat) : State :=
  if st.stopRequested then st.end i
  else match st.pendingGrant with
    | none => st.end i
    | some grant =>
      if st.nowEpochMs ≥ grant.expiresAtEpochSeconds * 1000 then
        (st.terminatePendingGrant .grantExpired).goOn i .settling
      else match st.record with
        | some (.pendingGrant pollingSecret) =>
          st.goOn i (.polling grant pollingSecret intervalSeconds)
        | _ => st.end i

/-- The poll loop from the answer to its poll to its next `await`. -/
def pollAnswer (st : State) (i : Nat) (grant : PendingGrant) (intervalSeconds : Nat) :
    Except Failure Credentials → State
  | .error failure =>
    match classifyPollFailure failure with
    | .continue interval => st.goOn i (.delaying (interval.getD intervalSeconds))
    | .terminal reason => (st.terminatePendingGrant reason).goOn i .settling
    | .offline => st.end i
  | .ok exchange =>
    if st.stopRequested ∨ st.pendingGrant = none then st.end i
    else
      ({ st with
        record := some (.active exchange.refreshCredential exchange.refreshGeneration none)
        pendingGrant := none }.goOn i (.storing grant exchange)).log
          (.activated (.exchange grant.login))

/-- `#rotateOnce` from the answer to its request. -/
def refreshAnswer (st : State) (i : Nat) : Except Failure Credentials → State
  | .ok successor =>
    { st.end i with
      record := some (.active successor.refreshCredential successor.refreshGeneration none)
      accessCredential := some successor.accessCredential
      refreshInFlight := false }.log (.activated .refresh)
  | .error failure =>
    match surfaceRefreshFailure failure with
    | some reason => (st.clearTerminalRecord reason).goOn i .clearing
    | none => { st.end i with refreshInFlight := false }

/-- `disconnect` from the answer to its request. -/
def disconnectAnswer (st : State) (i : Nat) : Except Failure Unit → State
  | .ok _ => (st.clearTerminalRecord .selfDisconnect).goOn i .settling
  | .error failure =>
    if endsDisconnect failure then (st.clearTerminalRecord .selfDisconnect).goOn i .settling
    else st.end i

/-- What follows a `persistSettings`. -/
def persisted (st : State) (i : Nat) : Task → Option State
  | .settling => some (st.end i)
  | .clearing => some { st.end i with refreshInFlight := false }
  | .opening =>
    match st.pendingGrant with
    | none => some (st.end i)
    | some grant => some (st.goOn i (.delaying grant.pollIntervalSeconds))
  | .storing grant exchange => some (st.goOn i (.identifying grant exchange))
  | .identifying grant exchange =>
    some (({ st with accessCredential := some exchange.accessCredential }.goOn i
      .bootstrapping).log (.adopted grant.login))
  | _ => none

/-- A failed `persistSettings` ends its method. -/
def persistFailed (st : State) (i : Nat) : Task → Option State
  | .clearing => some { st.end i with refreshInFlight := false }
  | .settling | .opening | .storing _ _ | .identifying _ _ => some (st.end i)
  | _ => none

def step (st : State) : Action → Option State
  | .tick milliseconds => some { st with nowEpochMs := st.nowEpochMs + milliseconds }
  | .login configured => some (login st configured)
  | .cancelPendingLogin => some (cancelPendingLogin st)
  | .resumePendingGrant => some (resumePendingGrant st)
  | .stop => some { st with stopRequested := true }
  | .refresh createdRotationId => some (refresh st createdRotationId)
  | .disconnect => some (disconnect st)
  | .grantAnswer i answer =>
    match st.tasks[i]? with
    | some (.creating login) => some (grantAnswer st i login answer)
    | _ => none
  | .pollAnswer i answer =>
    match st.tasks[i]? with
    | some (.polling grant _ intervalSeconds) => some (pollAnswer st i grant intervalSeconds answer)
    | _ => none
  | .refreshAnswer i answer =>
    match st.tasks[i]? with
    | some (.refreshing _ _) => some (refreshAnswer st i answer)
    | _ => none
  | .disconnectAnswer i answer =>
    match st.tasks[i]? with
    | some (.disconnecting _) => some (disconnectAnswer st i answer)
    | _ => none
  | .delayOver i =>
    match st.tasks[i]? with
    | some (.delaying intervalSeconds) => some (delayOver st i intervalSeconds)
    | _ => none
  | .persisted i done =>
    match st.tasks[i]? with
    | some task => if done then persisted st i task else persistFailed st i task
    | _ => none
  | .bootstrapped i =>
    match st.tasks[i]? with
    | some .bootstrapping => some (st.end i)
    | _ => none

/-- At startup the record and the pending grant are as an earlier run left them; a grant of
that time is of login 0. -/
def Initial (st : State) : Prop :=
  st.stopRequested = false ∧ st.accessCredential = none ∧ st.refreshInFlight = false ∧
    st.tasks = [] ∧ st.nextLogin = 1 ∧ st.history = [.loginStarted 0] ∧
    ∀ grant ∈ st.pendingGrant, grant.login = 0

def machine : Machine State Action where
  Init := Initial
  step := step

/-! ## Resurrection -/

/-- The tombstones of a session; those of a pending grant are written by the login itself. -/
def Event.isTombstone : Event → Bool
  | .tombstone _ => true
  | _ => false

def sinceTombstone (history : List Event) : List Event :=
  history.takeWhile fun event => !event.isTombstone

def sinceLogin (history : List Event) (login : Login) : List Event :=
  history.takeWhile (· ≠ .loginStarted login)

/-- An active record may be written: there was no tombstone, or a login started after the last
one completes, or has completed, its exchange. -/
def Permitted (origin : Origin) (before : List Event) : Prop :=
  (∀ event ∈ before, event.isTombstone = false) ∨
    ∃ login, .loginStarted login ∈ sinceTombstone before ∧
      (origin = .exchange login ∨ .activated (.exchange login) ∈ sinceTombstone before)

/-- The login was cancelled, or superseded by another. -/
def Stale (before : List Event) (login : Login) : Prop :=
  .cancelled ∈ sinceLogin before login ∨
    ∃ other, .loginStarted other ∈ sinceLogin before login

def Respects (before : List Event) : Event → Prop
  | .activated origin => Permitted origin before ∧
      ∀ login, origin = .exchange login → ¬ Stale before login
  | .adopted login => ¬ Stale before login
  | _ => True

/-- No tombstone is undone and no stale exchange is stored or adopted. -/
def NoResurrection : List Event → Prop
  | [] => True
  | event :: before => Respects before event ∧ NoResurrection before

/-- The answers that are taken in time: that of a rotation, and one that ends the record, while
the record is active; that of a grant request while its login is the latest and not cancelled
since; an exchange while its grant is still the pending one and no newer login has been started,
unless it is discarded; and an exchange is adopted before a newer login is started. -/
def InTime (st : State) : Action → Prop
  | .refreshAnswer _ (.ok _) => st.hasActive = true
  | .refreshAnswer _ (.error failure) =>
    surfaceRefreshFailure failure ≠ none → st.hasActive = true
  | .disconnectAnswer _ (.ok _) => st.hasActive = true
  | .disconnectAnswer _ (.error failure) => endsDisconnect failure = true → st.hasActive = true
  | .grantAnswer i (.ok _) => ∀ login, st.tasks[i]? = some (.creating login) →
      login + 1 = st.nextLogin ∧ .cancelled ∉ sinceLogin st.history login
  | .pollAnswer i (.ok _) => ∀ grant pollingSecret intervalSeconds,
      st.tasks[i]? = some (.polling grant pollingSecret intervalSeconds) →
      st.stopRequested = true ∨ st.pendingGrant = none ∨
        (st.pendingGrant = some grant ∧ grant.login + 1 = st.nextLogin)
  | .persisted i true => ∀ grant exchange, st.tasks[i]? = some (.identifying grant exchange) →
      grant.login + 1 = st.nextLogin
  | _ => True

end PersonalOs.Authentication.DeviceCredentials
