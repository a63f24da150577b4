import PersonalOs.SourceStore.Runs

/-!
# What the calls of the stores come to

Every point of a publication, a lifecycle commit and a capture: where the lookups of its
identity begin, what the end of a transaction may commit, and behind which statements it answers
with an error outside its vocabulary.
-/

namespace PersonalOs.SourceStore

open Transactions

abbrev StorePoint := Point Db LockName LifecycleRequest StoreAnswer

/-! ## Points -/

/-- Nothing of the canonical graph differs. -/
def SameCanon (db db' : Db) : Prop :=
  ∃ conflicts audits cursors runs, db' = { db with
    conflicts := conflicts, rejectionAudits := audits, cursors := cursors, manifestRuns := runs }

/-- The pending writes of a publication change no canonical row unless it goes on to answer
with its result, or its client is gone. -/
def PublicationFinish (writes : Db → Option Db) (committed : Db → StoreProgram) : Prop :=
  ∀ db db', writes db = some db' → SameCanon db db' ∨
    (∃ result, committed db = .done (.publication (.ok result))) ∨ committed db = .halt

/-- The writes of a transition as the end of its transaction makes them. -/
def pending {ρ α : Type} (writes : Db → Except (Refusal ρ) (Db × α)) (db : Db) : Option Db :=
  (writes db).toOption.map Prod.fst

/-- The writes that commit the outcome of a call: its event, or the row of a conflict. -/
inductive OutcomeWrites (env : Environment) : StoreCall → (Db → Option Db) → Prop
  | create {request : PublicationRequest} (command : CreateSourceVersion) (n : Nat)
      (asks : request.command = .create command) :
      OutcomeWrites env (.publication request)
        (pending (createWrites command (env.fingerprint (.create command)) request.identities n))
  | noChange {request : PublicationRequest} (command : UpdateSourceVersion)
      (current : SourceVersion) (n : Nat) (asks : request.command = .update command) :
      OutcomeWrites env (.publication request)
        (pending (noChangeWrites command (env.fingerprint (.update command)) current n))
  | change {request : PublicationRequest} (command : UpdateSourceVersion)
      (current : SourceVersion) (n : Nat) (asks : request.command = .update command) :
      OutcomeWrites env (.publication request)
        (pending (changedWrites command (env.fingerprint (.update command)) request.identities
          current n))
  | lifecycle {call : LifecycleCall} (remaining : Nat) (current : SourceVersionId)
      (active : Option NormalizedLocator) (n : Nat) :
      OutcomeWrites env (.lifecycle call)
        (pending (lifecycleWrites env call.request (call.identities remaining) current active n))
  | capture {request : CaptureRequest} (event : Option SyncEvent) :
      OutcomeWrites env (.capture request) (pending (captureWrites request event))

/-- An error that only says that a statement of the database was refused. -/
def StoreAnswer.unclassified : StoreAnswer → Bool
  | .publication (.error .internalError) | .lifecycle (.error .internalError)
  | .lifecycle (.error .driverFailure) | .capture (.error .internalError) => true
  | _ => false

/-- The lock in front of the lookups of a publication or a capture. -/
def StoreCall.identityLock (env : Environment) : StoreCall → Option LockName
  | .publication request => some
      (idempotencyLock env.word request.command.workspaceId request.command.idempotencyKey)
  | .capture request => some
      (idempotencyLock env.word request.command.workspaceId request.command.idempotencyKey)
  | _ => none

/-- From here on the call is safe as if it was made now. -/
def Anew (env : Environment) (call : StoreCall) (point : StorePoint) : Prop :=
  point.own = .none ∧ ∃ onFailure, point.onFailure = some (.none, onFailure) ∧
    ∀ born, SafeAfter (rules env False) call born (.begin false onFailure point.statement)

def Looks (env : Environment) (call : StoreCall) (point : StorePoint) : Prop :=
  match point.statement with
  | .lock l _ => call.identityLock env = some l ∧ l ∉ point.own.locks
  | _ => False

/-- What the end of a transaction of a call may commit. -/
def Ends (env : Environment) (call : StoreCall) (writes : Db → Option Db)
    (committed : Db → StoreProgram) : Prop :=
  match call with
  | .publication _ => PublicationFinish writes committed ∧ (OutcomeWrites env call writes ∨
      ∀ db db', writes db = some db' → db'.events = db.events ∧ db'.conflicts = db.conflicts)
  | .lifecycle _ | .capture _ => OutcomeWrites env call writes ∨
      ∀ db db', writes db = some db' → db'.events = db.events ∧ db'.conflicts = db.conflicts
  | .resolve _ | .manifest _ | .device _ => True

def StandsAtOutcome (env : Environment) (call : StoreCall) (point : StorePoint) : Prop :=
  ∃ writes committed refused, point.statement = .finish writes committed refused ∧
    OutcomeWrites env call writes

/-- A call of the three domains that accept the events of a device. -/
def StoreCall.accepts : StoreCall → Bool
  | .publication _ | .lifecycle _ | .capture _ => true
  | .resolve _ | .manifest _ | .device _ => false

def CallPoint (env : Environment) (call : StoreCall) (before point : StorePoint) : Prop :=
  (Looks env call point → Anew env call point) ∧
  match point.statement with
  | .finish writes committed _ => Ends env call writes committed
  | .done answer => call.accepts = true → answer.unclassified = true →
      StandsAtOutcome env call before ∨
        answer = .lifecycle (.error .driverFailure) ∧ before = .start
  | _ => True

/-! ## Walking through a program -/

section Walks

variable {env : Environment} {call : StoreCall} {o : StoreOwn}
  {h : Option (StoreOwn × (Failure → StoreProgram))} {n : StoreProgram}

/-- Every point of a program is one of the call's, whatever stands before it. -/
def Walks (env : Environment) (call : StoreCall) (o : StoreOwn)
    (h : Option (StoreOwn × (Failure → StoreProgram))) (p : StoreProgram) : Prop :=
  ∀ before, p.Along (CallPoint env call) before o h

/-- The lock of the call's identity is held, if it has one. -/
def Locked (env : Environment) (call : StoreCall) (o : StoreOwn) : Prop :=
  ∀ l ∈ call.identityLock env, l ∈ o.locks

theorem Locked.withLock (hl : Locked env call o) (l : LockName) :
    Locked env call (o.withLock l) :=
  fun k hk => List.mem_cons_of_mem _ (hl k hk)

theorem Walks.halt : Walks env call o h .halt := fun _ => trivial

theorem Walks.begin {k : Bool} {oe : Failure → StoreProgram}
    (hf : ∀ f, (oe f).Along (CallPoint env call) .start (o.kept k) none)
    (hb : Walks env call o (some (o.kept k, oe)) n) :
    Walks env call o h (.begin k oe n) :=
  fun _ => ⟨⟨False.elim, trivial⟩, hf, hb _⟩

theorem Walks.lock {l : LockName} (hl : Locked env call o)
    (hn : Walks env call (o.withLock l) h n) : Walks env call o h (.lock l n) :=
  fun _ => ⟨⟨fun hk => absurd (hl l hk.1) hk.2, trivial⟩, hn _⟩

theorem Walks.read {ne : Db → StoreProgram} (hn : ∀ db, Walks env call o h (ne db)) :
    Walks env call o h (.read ne) :=
  fun _ => ⟨⟨False.elim, trivial⟩, fun db => hn db _⟩

theorem Walks.draw {ne : Nat → StoreProgram}
    (hn : ∀ k, Walks env call (o.withNumber k) h (ne k)) : Walks env call o h (.draw ne) :=
  fun _ => ⟨⟨False.elim, trivial⟩, fun k => hn k _⟩

theorem Walks.note {notes : Db → List LifecycleRequest} {ne : Db → StoreProgram}
    (hn : ∀ db, Walks env call (o.withNotes (notes db)) h (ne db)) :
    Walks env call o h (.note notes ne) :=
  fun _ => ⟨⟨False.elim, trivial⟩, fun db => hn db _⟩

theorem Walks.answer {an : StoreAnswer} (hc : an.unclassified = false) :
    Walks env call o h (.done an) :=
  fun _ => ⟨False.elim, fun _ hu => absurd (hc.symm.trans hu) Bool.false_ne_true⟩

theorem ends_still {w : Db → Option Db} {c : Db → StoreProgram}
    (hs : ∀ db db', w db = some db' → SameCanon db db' ∧ db'.events = db.events ∧
      db'.conflicts = db.conflicts) : Ends env call w c := by
  cases call with
  | publication =>
    exact ⟨fun db db' hw => .inl (hs db db' hw).1, .inr fun db db' hw => (hs db db' hw).2⟩
  | lifecycle | capture => exact .inr fun db db' hw => (hs db db' hw).2
  | _ => trivial

theorem Walks.rollback (hn : Walks env call o.released none n) :
    Walks env call o h n.rollback :=
  fun _ => ⟨⟨False.elim, ends_still fun _ _ hw => nomatch hw⟩, fun _ => trivial, fun _ => hn _⟩

theorem Walks.selectForUpdate {α : Type} {f : Db → Option α} {name : α → LockName}
    {m : StoreProgram} {fo : α → StoreProgram} (hl : Locked env call o)
    (hm : Walks env call o h m) (hg : ∀ row, Walks env call (o.withLock (name row)) h m)
    (hp : ∀ row found, Walks env call (o.withLock (name row)) h (fo found)) :
    Walks env call o h (.selectForUpdate f name m fo) := by
  refine .read fun db => ?_
  split
  · exact hm
  · refine .lock hl (.read fun db => ?_)
    split
    · exact hg _
    · exact hp _ _

/-- The commit of a call's outcome. Only it may be refused with an error that says no more. -/
theorem Walks.outcome {ρ α : Type} {w : Db → Except (Refusal ρ) (Db × α)} {c : α → StoreProgram}
    {ab : Refusal ρ → StoreProgram} (ho : OutcomeWrites env call (pending w))
    (hf : ∀ request, call = .publication request →
      ∀ a, ∃ result, c a = .done (.publication (.ok result)))
    (hc : ∀ a, Walks env call o.released none (c a))
    (ha : ∀ db r, w db = .error r → ∀ before, StandsAtOutcome env call before →
      (ab r).Along (CallPoint env call) before o.released none) :
    Walks env call o h (.commitOrAbort w c ab) := by
  intro before
  refine ⟨⟨False.elim, ?_⟩, fun db => ?_, fun db => ?_⟩
  · show Ends _ _ _ _
    cases call with
    | publication request =>
      refine ⟨fun db db' _ => .inr ?_, .inl ho⟩
      dsimp only
      split
      · exact .inl (hf request rfl _)
      · exact .inr rfl
    | lifecycle | capture => exact .inl ho
    | _ => trivial
  · dsimp only
    split
    · exact hc _ _
    · trivial
  · dsimp only
    split
    · trivial
    · next r hw => exact ha db r hw _ ⟨_, _, _, rfl, ho⟩

theorem Walks.writeRejectionAudit {a : RejectionAudit} {oe : Failure → StoreProgram}
    (hf : ∀ f, (oe f).Along (CallPoint env call) .start (o.kept true) none)
    (hn : Walks env call o.released none n) :
    Walks env call o h (writeRejectionAudit a oe n) := by
  refine .begin hf fun _ => ⟨⟨False.elim, ends_still ?_⟩, fun _ => hn _, fun _ => trivial⟩
  rintro db _ ⟨⟩
  exact ⟨⟨_, _, _, _, rfl⟩, rfl, rfl⟩

end Walks

/-! ## Publications -/

section Publication

variable {env : Environment} {request : PublicationRequest} {o : StoreOwn}
  {h : Option (StoreOwn × (Failure → StoreProgram))} {ho : Failure → StoreProgram}

end Publication

/-! ## Captures -/

section Capture

variable {env : Environment} {request : CaptureRequest} {o : StoreOwn}
  {h : Option (StoreOwn × (Failure → StoreProgram))}

end Capture

/-! ## Lifecycle commits -/

section Lifecycle

variable {env : Environment} {call : LifecycleCall} {o : StoreOwn}
  {h : Option (StoreOwn × (Failure → StoreProgram))} {n : StoreProgram}

end Lifecycle

/-! ## Runs -/

section Runs

variable {env : Environment} {w w' w'' : StoreWorld}

end Runs

end PersonalOs.SourceStore
