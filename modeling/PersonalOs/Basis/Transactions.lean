import PersonalOs.Basis.Machine

/-!
# Interleaved transactions and a rely-guarantee logic for them

Client programs run transactions against one database: they take exclusive locks, read the
committed state, draw numbers from a sequence (never returned) and finish by committing writes or
rolling back. Programs interleave at every statement. A transaction may fail at any point, and a
client may stop, or lose the acknowledgement of a commit that the server completes later.

A program is *safe* when, from any state the others may lead to while its locks are held, each of
its commits meets the guarantee and each outcome it returns is good. The others are constrained by
their own guarantee: they hold none of its locks and none of the numbers it drew.
-/

namespace Transactions

/-- A failure the environment can cause in a transaction, which rolls it back. -/
inductive Failure
  | contention
  | unavailable
  | unclassified
deriving DecidableEq

/-- A client program. `begin` opens a transaction and says how the client goes on when it
fails; `finish` evaluates the pending writes at the current database: it commits them, or
rolls back where they are refused. A note is a label others can be asked to respect; it is
taken together with a read and outlives the transaction, a failed one only where `begin` says
so. -/
inductive Program (Db Lock Note Out : Type)
  | begin (keepsNotes : Bool) (onFailure : Failure → Program Db Lock Note Out)
      (body : Program Db Lock Note Out)
  | lock (l : Lock) (next : Program Db Lock Note Out)
  | read (next : Db → Program Db Lock Note Out)
  | draw (next : Nat → Program Db Lock Note Out)
  | note (notes : Db → List Note) (next : Db → Program Db Lock Note Out)
  | finish (writes : Db → Option Db) (committed refused : Db → Program Db Lock Note Out)
  | done (out : Out)
  | halt

/-- What a session has taken: locks, numbers of the sequence, notes. -/
structure Own (Lock Note : Type) where
  locks : List Lock
  drawn : List Nat
  notes : List Note

namespace Own

variable {Lock Note : Type}

def none : Own Lock Note := ⟨[], [], []⟩

/-- The end of a transaction gives back its locks and numbers. -/
def released (o : Own Lock Note) : Own Lock Note := ⟨[], [], o.notes⟩

/-- What a failure of a transaction leaves of what was taken when it was opened. -/
def kept (o : Own Lock Note) (keepsNotes : Bool) : Own Lock Note :=
  ⟨[], [], if keepsNotes then o.notes else []⟩

def withLock (o : Own Lock Note) (l : Lock) : Own Lock Note := { o with locks := l :: o.locks }

def withNumber (o : Own Lock Note) (n : Nat) : Own Lock Note := { o with drawn := n :: o.drawn }

def withNotes (o : Own Lock Note) (notes : List Note) : Own Lock Note := { o with notes }

/-- Two sessions never hold one lock or one number. -/
def Apart (o o' : Own Lock Note) : Prop :=
  (∀ l ∈ o.locks, l ∉ o'.locks) ∧ ∀ n ∈ o.drawn, n ∉ o'.drawn

theorem Apart.symm {o o' : Own Lock Note} (ha : Apart o o') : Apart o' o :=
  ⟨fun l ht ht' => ha.1 l ht' ht, fun n hd hd' => ha.2 n hd' hd⟩

theorem apart_none (o : Own Lock Note) : Apart none o := by
  simp [Apart, none]

theorem apart_of_empty {o o' : Own Lock Note} (hl : o.locks = []) (hd : o.drawn = []) :
    Apart o o' := by
  simp [Apart, hl, hd]

end Own

/-- The committed database and the next number of the sequence. -/
structure Snapshot (Db : Type) where
  db : Db
  sequence : Nat

/-- One client: the call it serves, the state it was called in, the rest of its program, what
it has taken, and what it keeps and how it goes on should its open transaction fail. -/
structure Session (Db Lock Note Out Call : Type) where
  call : Call
  born : Snapshot Db
  program : Program Db Lock Note Out
  own : Own Lock Note
  onFailure : Option (Own Lock Note × (Failure → Program Db Lock Note Out))

structure World (Db Lock Note Out Call : Type) where
  snapshot : Snapshot Db
  sessions : List (Session Db Lock Note Out Call)

inductive Action (Call : Type)
  /-- A new client starts a call. -/
  | spawn (call : Call)
  /-- The session executes its next statement. -/
  | advance (i : Nat)
  /-- The session's open transaction fails and rolls back. -/
  | fail (i : Nat) (failure : Failure)
  /-- The acknowledgement of the commit is lost: the client goes on as after an
  unavailable server, the server still has the commit before it. -/
  | lose (i : Nat)
  /-- The client stops; its open transaction rolls back. -/
  | crash (i : Nat)

variable {Db Lock Note Out Call : Type}

/-! ## The machine -/

/-- The session after its client has stopped or returned. -/
def Session.stopped (s : Session Db Lock Note Out Call) : Session Db Lock Note Out Call :=
  { s with program := .halt, own := .none, onFailure := none }

def Session.failed (s : Session Db Lock Note Out Call) (kept : Own Lock Note)
    (next : Program Db Lock Note Out) : Session Db Lock Note Out Call :=
  { s with program := next, own := kept, onFailure := none }

/-- The session can still move, by itself or by a failure. -/
def Session.Running (s : Session Db Lock Note Out Call) : Prop :=
  s.program ≠ .halt ∨ s.onFailure.isSome

/-- The session after the end of its transaction. -/
def Session.finished (s : Session Db Lock Note Out Call) (next : Program Db Lock Note Out) :
    Session Db Lock Note Out Call :=
  { s with program := next, own := s.own.released, onFailure := none }

/-- What is left on the server of a session whose client lost the connection at commit. -/
def Session.orphan (s : Session Db Lock Note Out Call) (writes : Db → Option Db) :
    Session Db Lock Note Out Call :=
  { s with
    program := .finish writes (fun _ => .halt) (fun _ => .halt)
    onFailure := none }

def World.put (w : World Db Lock Note Out Call) (i : Nat) (s : Session Db Lock Note Out Call) :
    World Db Lock Note Out Call :=
  { w with sessions := w.sessions.set i s }

section Machine

variable [DecidableEq Lock]

/-- The next statement of session `i`. A lock is granted when no other session holds it. -/
def advance (w : World Db Lock Note Out Call) (i : Nat) (s : Session Db Lock Note Out Call) :
    Option (World Db Lock Note Out Call) :=
  match s.program with
  | .begin keepsNotes onFailure body =>
    some (w.put i { s with program := body, onFailure := some (s.own.kept keepsNotes, onFailure) })
  | .lock l next =>
    if ∀ t ∈ w.sessions.eraseIdx i, l ∉ t.own.locks then
      some (w.put i { s with program := next, own := s.own.withLock l })
    else none
  | .read next => some (w.put i { s with program := next w.snapshot.db })
  | .draw next =>
    some { (w.put i { s with
        program := next w.snapshot.sequence
        own := s.own.withNumber w.snapshot.sequence }) with
      snapshot := ⟨w.snapshot.db, w.snapshot.sequence + 1⟩ }
  | .note notes next =>
    some (w.put i { s with
      program := next w.snapshot.db
      own := s.own.withNotes (notes w.snapshot.db) })
  | .finish writes committed refused =>
    match writes w.snapshot.db with
    | some db =>
      some { (w.put i (s.finished (committed w.snapshot.db))) with
        snapshot := ⟨db, w.snapshot.sequence⟩ }
    | none => some (w.put i (s.finished (refused w.snapshot.db)))
  | .done _ => some (w.put i s.stopped)
  | .halt => none

def step (program : Call → Program Db Lock Note Out) (w : World Db Lock Note Out Call) :
    Action Call → Option (World Db Lock Note Out Call)
  | .spawn call =>
    some { w with sessions := w.sessions ++ [⟨call, w.snapshot, program call, .none, none⟩] }
  | .advance i =>
    match w.sessions[i]? with
    | none => none
    | some s => advance w i s
  | .fail i failure =>
    match w.sessions[i]? with
    | none => none
    | some s =>
      match s.onFailure, s.program with
      | some (kept, onFailure), _ => some (w.put i (s.failed kept (onFailure failure)))
      | none, .begin keepsNotes onFailure _ =>
        some (w.put i (s.failed (s.own.kept keepsNotes) (onFailure failure)))
      | none, _ => none
  | .lose i =>
    match w.sessions[i]? with
    | none => none
    | some s =>
      match s.onFailure, s.program with
      | some (kept, onFailure), .finish writes _ _ =>
        let client := w.put i (s.failed kept (onFailure .unavailable))
        some { client with sessions := client.sessions ++ [s.orphan writes] }
      | _, _ => none
  | .crash i =>
    match w.sessions[i]? with
    | none => none
    | some s => some (w.put i s.stopped)

/-! ### What a step does -/

/-- The moves of the machine, one for each statement and each accident. -/
inductive Moves (program : Call → Program Db Lock Note Out) (w : World Db Lock Note Out Call) :
    Action Call → World Db Lock Note Out Call → Prop
  | spawn (call : Call) : Moves program w (.spawn call)
      { w with sessions := w.sessions ++ [⟨call, w.snapshot, program call, .none, none⟩] }
  | begin {i : Nat} {s : Session Db Lock Note Out Call} {keepsNotes : Bool}
      {onFailure : Failure → Program Db Lock Note Out} {body : Program Db Lock Note Out}
      (stands : w.sessions[i]? = some s) (stmt : s.program = .begin keepsNotes onFailure body) :
      Moves program w (.advance i) (w.put i { s with
        program := body, onFailure := some (s.own.kept keepsNotes, onFailure) })
  | lock {i : Nat} {s : Session Db Lock Note Out Call} {l : Lock}
      {next : Program Db Lock Note Out} (stands : w.sessions[i]? = some s)
      (stmt : s.program = .lock l next) (free : ∀ t ∈ w.sessions.eraseIdx i, l ∉ t.own.locks) :
      Moves program w (.advance i) (w.put i { s with program := next, own := s.own.withLock l })
  | read {i : Nat} {s : Session Db Lock Note Out Call} {next : Db → Program Db Lock Note Out}
      (stands : w.sessions[i]? = some s) (stmt : s.program = .read next) :
      Moves program w (.advance i) (w.put i { s with program := next w.snapshot.db })
  | draw {i : Nat} {s : Session Db Lock Note Out Call} {next : Nat → Program Db Lock Note Out}
      (stands : w.sessions[i]? = some s) (stmt : s.program = .draw next) :
      Moves program w (.advance i) { (w.put i { s with
          program := next w.snapshot.sequence
          own := s.own.withNumber w.snapshot.sequence }) with
        snapshot := ⟨w.snapshot.db, w.snapshot.sequence + 1⟩ }
  | note {i : Nat} {s : Session Db Lock Note Out Call} {notes : Db → List Note}
      {next : Db → Program Db Lock Note Out} (stands : w.sessions[i]? = some s)
      (stmt : s.program = .note notes next) :
      Moves program w (.advance i) (w.put i { s with
        program := next w.snapshot.db, own := s.own.withNotes (notes w.snapshot.db) })
  | commit {i : Nat} {s : Session Db Lock Note Out Call} {writes : Db → Option Db}
      {committed refused : Db → Program Db Lock Note Out} {db : Db}
      (stands : w.sessions[i]? = some s) (stmt : s.program = .finish writes committed refused)
      (written : writes w.snapshot.db = some db) :
      Moves program w (.advance i) { (w.put i (s.finished (committed w.snapshot.db))) with
        snapshot := ⟨db, w.snapshot.sequence⟩ }
  | refuse {i : Nat} {s : Session Db Lock Note Out Call} {writes : Db → Option Db}
      {committed refused : Db → Program Db Lock Note Out}
      (stands : w.sessions[i]? = some s) (stmt : s.program = .finish writes committed refused)
      (unwritten : writes w.snapshot.db = none) :
      Moves program w (.advance i) (w.put i (s.finished (refused w.snapshot.db)))
  | answer {i : Nat} {s : Session Db Lock Note Out Call} {out : Out}
      (stands : w.sessions[i]? = some s) (stmt : s.program = .done out) :
      Moves program w (.advance i) (w.put i s.stopped)
  | fail {i : Nat} {s : Session Db Lock Note Out Call} {failure : Failure} {kept : Own Lock Note}
      {onFailure : Failure → Program Db Lock Note Out} (stands : w.sessions[i]? = some s)
      (handler : s.onFailure = some (kept, onFailure)) :
      Moves program w (.fail i failure) (w.put i (s.failed kept (onFailure failure)))
  | failBegin {i : Nat} {s : Session Db Lock Note Out Call} {failure : Failure}
      {keepsNotes : Bool} {onFailure : Failure → Program Db Lock Note Out}
      {body : Program Db Lock Note Out} (stands : w.sessions[i]? = some s)
      (handler : s.onFailure = none) (stmt : s.program = .begin keepsNotes onFailure body) :
      Moves program w (.fail i failure)
        (w.put i (s.failed (s.own.kept keepsNotes) (onFailure failure)))
  | lose {i : Nat} {s : Session Db Lock Note Out Call} {kept : Own Lock Note}
      {onFailure : Failure → Program Db Lock Note Out} {writes : Db → Option Db}
      {committed refused : Db → Program Db Lock Note Out} (stands : w.sessions[i]? = some s)
      (handler : s.onFailure = some (kept, onFailure))
      (stmt : s.program = .finish writes committed refused) :
      Moves program w (.lose i) { (w.put i (s.failed kept (onFailure .unavailable))) with
        sessions := (w.put i (s.failed kept (onFailure .unavailable))).sessions ++
          [s.orphan writes] }
  | crash {i : Nat} {s : Session Db Lock Note Out Call} (stands : w.sessions[i]? = some s) :
      Moves program w (.crash i) (w.put i s.stopped)

theorem step_iff_moves {program : Call → Program Db Lock Note Out}
    {w w' : World Db Lock Note Out Call} {a : Action Call} :
    step program w a = some w' ↔ Moves program w a w' := by
  constructor
  · intro hv
    cases a with
    | spawn call =>
      cases hv
      exact .spawn call
    | advance i =>
      simp only [step] at hv
      split at hv
      · cases hv
      next s ht =>
        unfold advance at hv
        split at hv
        next hp =>
          cases hv
          exact .begin ht hp
        next hp =>
          split at hv
          next hf =>
            cases hv
            exact .lock ht hp hf
          next => cases hv
        next hp =>
          cases hv
          exact .read ht hp
        next hp =>
          cases hv
          exact .draw ht hp
        next hp =>
          cases hv
          exact .note ht hp
        next hp =>
          split at hv
          next hw =>
            cases hv
            exact .commit ht hp hw
          next hw =>
            cases hv
            exact .refuse ht hp hw
        next hp =>
          cases hv
          exact .answer ht hp
        next => cases hv
    | fail i f =>
      simp only [step] at hv
      split at hv
      · cases hv
      next s ht =>
        split at hv
        next ho =>
          cases hv
          exact .fail ht ho
        next ho hp =>
          cases hv
          exact .failBegin ht ho hp
        next => cases hv
    | lose i =>
      simp only [step] at hv
      split at hv
      · cases hv
      next s ht =>
        split at hv
        next ho hp =>
          cases hv
          exact .lose ht ho hp
        next => cases hv
    | crash i =>
      simp only [step] at hv
      split at hv
      · cases hv
      next s ht =>
        cases hv
        exact .crash ht
  · intro hm
    cases hm <;> simp_all [step, advance]

/-- All interleavings of any number of calls, from a given database. -/
def machine (program : Call → Program Db Lock Note Out) (initial : Snapshot Db → Prop) :
    Machine (World Db Lock Note Out Call) (Action Call) where
  Init w := initial w.snapshot ∧ w.sessions = []
  step := step program

end Machine

/-! ## The logic -/

/-- An invariant of the committed state, what a commit of a call may do given what its session
has taken, what respecting a note means, and which outcomes of a call are good in the state
they are returned in, given the state the call was made in. -/
structure Rules (Db Lock Note Out Call : Type) where
  Inv : Snapshot Db → Prop
  Guar : Call → Own Lock Note → Snapshot Db → Db → Prop
  Respects : List Note → Db → Db → Prop
  Good : Call → Snapshot Db → Snapshot Db → Out → Prop
  inv_draw : ∀ {s}, Inv s → Inv ⟨s.db, s.sequence + 1⟩
  inv_commit : ∀ {call o s db}, Inv s → (∀ n ∈ o.drawn, n < s.sequence) → Guar call o s db →
    Inv ⟨db, s.sequence⟩
  respects_nil : ∀ before after, Respects [] before after

variable (R : Rules Db Lock Note Out Call)

/-- One step of the others, as a session that has taken `o` sees it. -/
inductive Interference (o : Own Lock Note) : Snapshot Db → Snapshot Db → Prop
  | draw {s : Snapshot Db} : Interference o s ⟨s.db, s.sequence + 1⟩
  | commit {s : Snapshot Db} {db : Db} (call : Call) (o' : Own Lock Note) (apart : o.Apart o')
      (invariant : R.Inv s) (numbers : ∀ n ∈ o'.drawn, n < s.sequence)
      (guarantee : R.Guar call o' s db) (respects : R.Respects o.notes s.db db) :
      Interference o s ⟨db, s.sequence⟩

/-- What the others may do while a session has taken `o`. -/
abbrev Rely (o : Own Lock Note) : Snapshot Db → Snapshot Db → Prop :=
  Relation.ReflTransGen (Interference R o)

/-- The rest of a program is safe from a state: wherever the others lead before its next
statement, the statement keeps the guarantee and the rest is safe after it. -/
def Safe (call : Call) (born : Snapshot Db) :
    Program Db Lock Note Out → Own Lock Note → Snapshot Db → Prop
  | .begin keepsNotes onFailure body, o, s => ∀ s', Rely R o s s' → R.Inv s' →
    (∀ failure, Safe call born (onFailure failure) (o.kept keepsNotes) s') ∧
      Safe call born body o s'
  | .lock l next, o, s => ∀ s', Rely R o s s' → R.Inv s' →
    Safe call born next (o.withLock l) s'
  | .read next, o, s => ∀ s', Rely R o s s' → R.Inv s' → Safe call born (next s'.db) o s'
  | .draw next, o, s => ∀ s', Rely R o s s' → R.Inv s' →
    Safe call born (next s'.sequence) (o.withNumber s'.sequence) ⟨s'.db, s'.sequence + 1⟩
  | .note notes next, o, s => ∀ s', Rely R o s s' → R.Inv s' →
    Safe call born (next s'.db) (o.withNotes (notes s'.db)) s'
  | .finish writes committed refused, o, s => ∀ s', Rely R o s s' → R.Inv s' →
    (∀ db, writes s'.db = some db → R.Guar call o s' db ∧
      Safe call born (committed s'.db) o.released ⟨db, s'.sequence⟩) ∧
    (writes s'.db = none → Safe call born (refused s'.db) o.released s')
  | .done out, o, s => ∀ s', Rely R o s s' → R.Inv s' → R.Good call born s' out
  | .halt, _, _ => True

variable {R}

variable {born s s' : Snapshot Db} {call : Call} {o o' : Own Lock Note} {a : Action Call}
  {w w' : World Db Lock Note Out Call}

theorem Safe.interference {p : Program Db Lock Note Out} (ho : Rely R o s s')
    (hs : Safe R call born p o s) : Safe R call born p o s' := by
  cases p with
  | halt => trivial
  | begin | lock | read | draw | note | finish | done =>
    intro s'' ho'
    exact hs s'' (ho.trans ho')

theorem Interference.mono (hl : ∀ l ∈ o.locks, l ∈ o'.locks) (hd : ∀ n ∈ o.drawn, n ∈ o'.drawn)
    (hno : ∀ {b af}, R.Respects o'.notes b af → R.Respects o.notes b af)
    (ho : Interference R o' s s') : Interference R o s s' := by
  cases ho with
  | draw => exact .draw
  | commit call o'' ha hi hn hg hr =>
    exact .commit call o'' ⟨fun l ht => ha.1 l (hl l ht), fun n ht =>
      ha.2 n (hd n ht)⟩ hi hn hg (hno hr)

theorem Rely.mono (ho : Rely R o' s s') (hl : ∀ l ∈ o.locks, l ∈ o'.locks)
    (hd : ∀ n ∈ o.drawn, n ∈ o'.drawn)
    (hn : ∀ {b af}, R.Respects o'.notes b af → R.Respects o.notes b af) : Rely R o s s' := by
  induction ho with
  | refl => exact .refl
  | tail _ hs ih => exact ih.tail (hs.mono hl hd hn)

theorem Rely.weaken (ho : Rely R o' s s') (hl : ∀ l ∈ o.locks, l ∈ o'.locks)
    (hd : ∀ n ∈ o.drawn, n ∈ o'.drawn) (hn : o.notes = o'.notes := by rfl) : Rely R o s s' :=
  ho.mono hl hd fun hk => hn ▸ hk

theorem Rely.toNone (ho : Rely R o s s') : Rely R .none s s' :=
  ho.mono (by simp [Own.none]) (by simp [Own.none]) fun _ => R.respects_nil _ _

theorem Rely.sequence_le (ho : Rely R o s s') : s.sequence ≤ s'.sequence := by
  induction ho with
  | refl => exact Nat.le_refl _
  | tail _ hs ih =>
    cases hs with
    | draw => exact Nat.le_succ_of_le ih
    | commit => exact ih

/-- A fact that no single step of the others destroys survives all they do. -/
theorem Rely.stable (Fact : Snapshot Db → Prop)
    (hk : ∀ s s', Interference R o s s' → Fact s → Fact s') (ho : Rely R o s s')
    (hf : Fact s) : Fact s' := by
  induction ho with
  | refl => exact hf
  | tail _ hs ih => exact hk _ _ hs ih

theorem Rely.inv (ho : Rely R o s s') (inv : R.Inv s) : R.Inv s' := by
  induction ho with
  | refl => exact inv
  | tail _ hs ih =>
    cases hs with
    | draw => exact R.inv_draw ih
    | commit call o' _ _ hn hg => exact R.inv_commit ih hn hg

/-- To someone who has taken nothing, a session's own commit is one of the others'. -/
theorem Rely.own_commit {db : Db} (hl : Rely R .none born s) (inv : R.Inv s)
    (hn : ∀ n ∈ o.drawn, n < s.sequence) (hg : R.Guar call o s db) :
    Rely R .none born ⟨db, s.sequence⟩ :=
  hl.tail (.commit call o (Own.apart_none o) inv hn hg (R.respects_nil _ _))

theorem Rely.own_draw (hl : Rely R .none born s) : Rely R .none born ⟨s.db, s.sequence + 1⟩ :=
  hl.tail .draw

/-- A program is safe at every later state of its call, with nothing taken. -/
def SafeAfter (R : Rules Db Lock Note Out Call) (call : Call) (born : Snapshot Db)
    (p : Program Db Lock Note Out) : Prop :=
  ∀ s, Rely R .none born s → R.Inv s → Safe R call born p .none s

/-! ## The rules of the statements -/

section Statements

variable {call : Call} {born s : Snapshot Db} {o : Own Lock Note}

theorem Safe.begin {oe : Failure → Program Db Lock Note Out}
    {b : Program Db Lock Note Out} (hl : Rely R .none born s)
    (hf : ∀ f, SafeAfter R call born (oe f))
    (hb : ∀ s', Rely R o s s' → R.Inv s' → Safe R call born b o s') :
    Safe R call born (.begin false oe b) o s :=
  fun s' ho inv => ⟨fun f => hf f s' (hl.trans ho.toNone) inv, hb s' ho inv⟩

theorem Safe.lock {l : Lock} {n : Program Db Lock Note Out}
    (ha : ∀ s', Rely R o s s' → R.Inv s' → Safe R call born n (o.withLock l) s') :
    Safe R call born (.lock l n) o s :=
  ha

theorem Safe.read {n : Db → Program Db Lock Note Out}
    (ha : ∀ s', Rely R o s s' → R.Inv s' → Safe R call born (n s'.db) o s') :
    Safe R call born (.read n) o s :=
  ha

theorem Safe.draw {n : Nat → Program Db Lock Note Out} (ha : ∀ s', Rely R o s s' → R.Inv s' →
      Safe R call born (n s'.sequence) (o.withNumber s'.sequence) ⟨s'.db, s'.sequence + 1⟩) :
    Safe R call born (.draw n) o s :=
  ha

theorem Safe.note {n : Db → List Note} {ne : Db → Program Db Lock Note Out}
    (ha : ∀ s', Rely R o s s' → R.Inv s' → Safe R call born (ne s'.db) (o.withNotes (n s'.db)) s') :
    Safe R call born (.note n ne) o s :=
  ha

end Statements

/-! ## Derived statements -/

namespace Program

/-- End the transaction without writing. -/
def rollback (next : Program Db Lock Note Out) : Program Db Lock Note Out :=
  .finish (fun _ => none) (fun _ => .halt) (fun _ => next)

/-- Commit the writes and go on with what they return, or roll back with their error. -/
def commitOrAbort {ε α : Type} (writes : Db → Except ε (Db × α))
    (committed : α → Program Db Lock Note Out) (aborted : ε → Program Db Lock Note Out) :
    Program Db Lock Note Out :=
  .finish (fun db => (writes db).toOption.map Prod.fst)
    (fun db =>
      match writes db with
      | .ok (_, a) => committed a
      | .error _ => .halt)
    (fun db =>
      match writes db with
      | .ok _ => .halt
      | .error e => aborted e)

/-- `SELECT … FOR UPDATE`: find a row, wait for its lock, find it again. -/
def selectForUpdate {α : Type} (find : Db → Option α) (name : α → Lock)
    (missing : Program Db Lock Note Out) (found : α → Program Db Lock Note Out) :
    Program Db Lock Note Out :=
  .read fun db =>
    match find db with
    | none => missing
    | some row => .lock (name row) <| .read fun db =>
      match find db with
      | none => missing
      | some row => found row

end Program

theorem Safe.rollback {n : Program Db Lock Note Out}
    (ha : ∀ s', Rely R o s s' → R.Inv s' → Safe R call born n o.released s') :
    Safe R call born n.rollback o s := by
  intro s' ho inv
  exact ⟨fun db hw => by simp at hw, fun _ => ha s' ho inv⟩

theorem Safe.commitOrAbort {ε α : Type} {wr : Db → Except ε (Db × α)}
    {c : α → Program Db Lock Note Out} {ab : ε → Program Db Lock Note Out}
    (hc : ∀ s' db a, Rely R o s s' → R.Inv s' → wr s'.db = .ok (db, a) →
      R.Guar call o s' db ∧ Safe R call born (c a) o.released ⟨db, s'.sequence⟩)
    (ha : ∀ s' e, Rely R o s s' → R.Inv s' → wr s'.db = .error e →
      Safe R call born (ab e) o.released s') :
    Safe R call born (.commitOrAbort wr c ab) o s := by
  intro s' hot inv
  cases ho : wr s'.db with
  | ok wn =>
    obtain ⟨db, a⟩ := wn
    refine ⟨?_, by simp [ho, Except.toOption]⟩
    intro db' he
    simp only [ho, Except.toOption, Option.map_some, Option.some.injEq] at he
    subst he
    simpa only [ho] using hc s' db a hot inv ho
  | error e =>
    refine ⟨by simp [ho, Except.toOption], fun _ => ?_⟩
    simpa only [ho] using ha s' e hot inv ho

/-- The lock is that of the row found first, which need not be the row found last. -/
theorem Safe.selectForUpdate_found {α : Type} {f : Db → Option α} {nm : α → Lock}
    {m : Program Db Lock Note Out} {fo : α → Program Db Lock Note Out}
    (hn : ∀ s', Rely R o s s' → R.Inv s' → f s'.db = none → Safe R call born m o s')
    (hg : ∀ s' row, Rely R o s s' → R.Inv s' → f s'.db = none →
      Safe R call born m (o.withLock (nm row)) s')
    (hp : ∀ s' row db lo, Rely R o s s' → R.Inv s' → f db = some lo →
      f s'.db = some row → Safe R call born (fo row) (o.withLock (nm lo)) s') :
    Safe R call born (.selectForUpdate f nm m fo) o s := by
  intro s₁ ho₁ hi₁
  cases hf : f s₁.db with
  | none =>
    simpa only [hf] using hn s₁ ho₁ hi₁ hf
  | some row =>
    simp only [hf]
    intro s₂ ho₂ hi₂ s₃ ho₃ hi₃
    have ho : Rely R o s s₃ :=
      ho₁.trans (ho₂.trans (ho₃.weaken (fun l hh => List.mem_cons_of_mem _ hh) (fun n hd => hd)))
    cases hs : f s₃.db with
    | none => simpa only [hs] using hg s₃ row ho hi₃ hs
    | some r' => simpa only [hs] using hp s₃ r' s₁.db row ho hi₃ hf hs

theorem Safe.selectForUpdate {α : Type} {f : Db → Option α} {n : α → Lock}
    {m : Program Db Lock Note Out} {fo : α → Program Db Lock Note Out}
    (hn : ∀ s', Rely R o s s' → R.Inv s' → f s'.db = none → Safe R call born m o s')
    (hg : ∀ s' row, Rely R o s s' → R.Inv s' → f s'.db = none →
      Safe R call born m (o.withLock (n row)) s')
    (hp : ∀ s' row l, Rely R o s s' → R.Inv s' → f s'.db = some row →
      Safe R call born (fo row) (o.withLock (n l)) s') :
    Safe R call born (.selectForUpdate f n m fo) o s :=
  .selectForUpdate_found hn hg fun s' row _ l ho inv _ hf =>
    hp s' row l ho inv hf

/-! ## What a program can still commit -/

/-- Every commit of the rest of a program meets a condition on its writes and on what follows
them. -/
def Program.Finishes (P : (Db → Option Db) → (Db → Program Db Lock Note Out) → Prop) :
    Program Db Lock Note Out → Prop
  | .begin _ onFailure body => (∀ failure, (onFailure failure).Finishes P) ∧ body.Finishes P
  | .lock _ next => next.Finishes P
  | .read next => ∀ db, (next db).Finishes P
  | .draw next => ∀ n, (next n).Finishes P
  | .note _ next => ∀ db, (next db).Finishes P
  | .finish writes committed refused =>
    P writes committed ∧ (∀ db, (committed db).Finishes P) ∧ ∀ db, (refused db).Finishes P
  | .done _ => True
  | .halt => True

section Finishes

variable {P : (Db → Option Db) → (Db → Program Db Lock Note Out) → Prop}

theorem Program.Finishes.rollback {n : Program Db Lock Note Out}
    (hr : ∀ c, P (fun _ => none) c) (ha : n.Finishes P) :
    n.rollback.Finishes P :=
  ⟨hr _, fun _ => trivial, fun _ => ha⟩

end Finishes

/-! ## What a program can come to -/

/-- A statement a session stands at, what it has taken and what a failure leads to. -/
structure Point (Db Lock Note Out : Type) where
  statement : Program Db Lock Note Out
  own : Own Lock Note
  onFailure : Option (Own Lock Note × (Failure → Program Db Lock Note Out))

/-- The point before a call or behind a failure. -/
def Point.start : Point Db Lock Note Out := ⟨.halt, .none, none⟩

def Session.point (s : Session Db Lock Note Out Call) : Point Db Lock Note Out :=
  ⟨s.program, s.own, s.onFailure⟩

/-- Every point the rest of a program can come to meets a condition, together with the point
before it. -/
def Program.Along (P : Point Db Lock Note Out → Point Db Lock Note Out → Prop) :
    Program Db Lock Note Out → Point Db Lock Note Out → Own Lock Note →
      Option (Own Lock Note × (Failure → Program Db Lock Note Out)) → Prop
  | .begin keepsNotes onFailure body, prev, o, h =>
    P prev ⟨.begin keepsNotes onFailure body, o, h⟩ ∧
    (∀ failure, (onFailure failure).Along P .start (o.kept keepsNotes) none) ∧
    body.Along P ⟨.begin keepsNotes onFailure body, o, h⟩ o (some (o.kept keepsNotes, onFailure))
  | .lock l next, prev, o, h =>
    P prev ⟨.lock l next, o, h⟩ ∧ next.Along P ⟨.lock l next, o, h⟩ (o.withLock l) h
  | .read next, prev, o, h =>
    P prev ⟨.read next, o, h⟩ ∧ ∀ db, (next db).Along P ⟨.read next, o, h⟩ o h
  | .draw next, prev, o, h =>
    P prev ⟨.draw next, o, h⟩ ∧ ∀ n, (next n).Along P ⟨.draw next, o, h⟩ (o.withNumber n) h
  | .note notes next, prev, o, h =>
    P prev ⟨.note notes next, o, h⟩ ∧
      ∀ db, (next db).Along P ⟨.note notes next, o, h⟩ (o.withNotes (notes db)) h
  | .finish writes committed refused, prev, o, h =>
    P prev ⟨.finish writes committed refused, o, h⟩ ∧
    (∀ db, (committed db).Along P ⟨.finish writes committed refused, o, h⟩ o.released none) ∧
    ∀ db, (refused db).Along P ⟨.finish writes committed refused, o, h⟩ o.released none
  | .done out, prev, o, h => P prev ⟨.done out, o, h⟩
  | .halt, _, _, _ => True

section Along

variable {P : Point Db Lock Note Out → Point Db Lock Note Out → Prop}
  {p : Program Db Lock Note Out} {prev : Point Db Lock Note Out}
  {h : Option (Own Lock Note × (Failure → Program Db Lock Note Out))}

theorem Program.Along.here (ha : p.Along P prev o h) (hp : p ≠ .halt) : P prev ⟨p, o, h⟩ := by
  cases p with
  | halt => exact absurd rfl hp
  | done => exact ha
  | _ => exact ha.1

theorem Program.Finishes.along {Q : (Db → Option Db) → (Db → Program Db Lock Note Out) → Prop}
    (hf : p.Finishes Q) : p.Along (fun _ point => point.statement.Finishes Q) prev o h := by
  induction p generalizing prev o h with
  | begin _ _ _ ihf ihb => exact ⟨hf, fun f => ihf f (hf.1 f), ihb hf.2⟩
  | lock _ _ ih => exact ⟨hf, ih hf⟩
  | read _ ih => exact ⟨hf, fun db => ih db (hf db)⟩
  | draw _ ih => exact ⟨hf, fun n => ih n (hf n)⟩
  | note _ _ ih => exact ⟨hf, fun db => ih db (hf db)⟩
  | finish _ _ _ ihc ihr => exact ⟨hf, fun db => ihc db (hf.2.1 db), fun db => ihr db (hf.2.2 db)⟩
  | done => exact hf
  | halt => trivial

end Along

/-! ## What locks protect -/

/-- Commits change what a lock stands for only while they hold it. -/
def Protects (R : Rules Db Lock Note Out Call) (Unchanged : Lock → Db → Db → Prop) : Prop :=
  ∀ call o s db, R.Inv s → R.Guar call o s db → ∀ l, l ∉ o.locks → Unchanged l s.db db

theorem Rely.unchanged {Unchanged : Lock → Db → Db → Prop} (hp : Protects R Unchanged)
    (hr : ∀ l db, Unchanged l db db)
    (ht : ∀ l a b c, Unchanged l a b → Unchanged l b c → Unchanged l a c) {l : Lock}
    (hh : l ∈ o.locks) (ho : Rely R o s s') : Unchanged l s.db s'.db := by
  induction ho with
  | refl => exact hr _ _
  | tail _ hs ih =>
    cases hs with
    | draw => exact ih
    | commit call o' ha hi _ hg =>
      exact ht _ _ _ _ ih (hp call o' _ _ hi hg l (ha.1 l hh))

/-! ## Soundness -/

variable (R)

/-- The invariant holds and every session is safe where it stands; sessions have nothing in
common and the numbers they drew are behind the sequence. -/
structure Sound (w : World Db Lock Note Out Call) : Prop where
  inv : R.Inv w.snapshot
  safe : ∀ (i : Nat) (s : Session Db Lock Note Out Call), w.sessions[i]? = some s →
    Safe R s.call s.born s.program s.own w.snapshot
  handlers : ∀ (i : Nat) (s : Session Db Lock Note Out Call), w.sessions[i]? = some s →
    ∀ h ∈ s.onFailure, h.1.locks = [] ∧ h.1.drawn = [] ∧ ∀ failure,
      Safe R s.call s.born (h.2 failure) h.1 w.snapshot
  apart : ∀ (i j : Nat) (s t : Session Db Lock Note Out Call), i ≠ j →
    w.sessions[i]? = some s → w.sessions[j]? = some t → s.own.Apart t.own
  numbers : ∀ (i : Nat) (s : Session Db Lock Note Out Call), w.sessions[i]? = some s →
    ∀ n ∈ s.own.drawn, n < w.snapshot.sequence

/-- No commit breaks a note another running session holds, or would keep at a failure. -/
def RespectsNotes (w : World Db Lock Note Out Call) : Action Call → Prop
  | .advance i => ∀ s writes committed refused db, w.sessions[i]? = some s →
    s.program = .finish writes committed refused → writes w.snapshot.db = some db →
    ∀ j t, j ≠ i → w.sessions[j]? = some t → t.Running →
      R.Respects t.own.notes w.snapshot.db db ∧
        ∀ h ∈ t.onFailure, R.Respects h.1.notes w.snapshot.db db
  | _ => True

variable {R}

/-- No session but the mover's has a note. -/
def World.quiet (w : World Db Lock Note Out Call) : Action Call → Bool
  | .advance i => (w.sessions.eraseIdx i).all fun t =>
    t.own.notes.isEmpty && t.onFailure.all fun h => h.1.notes.isEmpty
  | _ => true

theorem respectsNotes_of_quiet (hq : w.quiet a = true) : RespectsNotes R w a := by
  cases a with
  | advance i =>
    intro s wr c r db _ _ _ j t ho ha _
    have hm : t ∈ w.sessions.eraseIdx i := List.mem_eraseIdx_iff_getElem?.mpr ⟨j, ho, ha⟩
    have hn := List.all_eq_true.mp hq t hm
    rw [Bool.and_eq_true, List.isEmpty_iff] at hn
    refine ⟨?_, fun h has => ?_⟩
    · rw [hn.1]
      exact R.respects_nil _ _
    · have hk := hn.2
      rw [Option.mem_def.mp has, Option.all_some, List.isEmpty_iff] at hk
      rw [hk]
      exact R.respects_nil _ _
  | spawn => trivial
  | fail => trivial
  | lose => trivial
  | crash => trivial

theorem getElem?_snoc {α : Type} {l : List α} {x t : α} {j : Nat}
    (hf : (l ++ [x])[j]? = some t) : l[j]? = some t ∨ j = l.length ∧ t = x := by
  rw [List.getElem?_append] at hf
  split at hf
  · exact .inl hf
  next hl =>
    obtain ⟨hsh, rfl⟩ := List.getElem?_eq_some_iff.mp hf
    simp only [List.length_singleton] at hsh
    exact .inr ⟨by omega, by simp⟩

theorem getElem?_of_set {α : Type} {l : List α} {x t : α} {i j : Nat}
    (hf : (l.set i x)[j]? = some t) : j = i ∧ t = x ∨ j ≠ i ∧ l[j]? = some t := by
  by_cases he : j = i
  · subst he
    have hi := (List.getElem?_eq_some_iff.mp hf).1
    rw [List.length_set] at hi
    rw [List.getElem?_set_self hi] at hf
    exact .inl ⟨rfl, (Option.some.inj hf).symm⟩
  · rw [List.getElem?_set_ne (Ne.symm he)] at hf
    exact .inr ⟨he, hf⟩

namespace SoundLemmas

variable {i : Nat} {s s' : Session Db Lock Note Out Call} {w : World Db Lock Note Out Call}

/-- One session and the committed state change; the other sessions see interference. -/
theorem put {af : Snapshot Db} (hs : Sound R w) (ht : w.sessions[i]? = some s)
    (inv : R.Inv af) (ho : ∀ j t, j ≠ i → w.sessions[j]? = some t → t.Running →
      Rely R t.own w.snapshot af ∧ ∀ h ∈ t.onFailure, Rely R h.1 w.snapshot af)
    (hse : w.snapshot.sequence ≤ af.sequence)
    (hsa : Safe R s'.call s'.born s'.program s'.own af)
    (hhs : ∀ h ∈ s'.onFailure, h.1.locks = [] ∧ h.1.drawn = [] ∧ ∀ f,
      Safe R s'.call s'.born (h.2 f) h.1 af)
    (hap : ∀ j t, j ≠ i → w.sessions[j]? = some t → s'.own.Apart t.own)
    (hn : ∀ n ∈ s'.own.drawn, n < af.sequence) :
    Sound R { (w.put i s') with snapshot := af } := by
  refine ⟨inv, ?_, ?_, ?_, ?_⟩
  · intro j t ha
    rcases getElem?_of_set ha with ⟨rfl, rfl⟩ | ⟨he, ha⟩
    · exact hsa
    · by_cases hha : t.program = .halt
      · rw [hha]
        trivial
      · exact (hs.safe j t ha).interference (ho j t he ha (.inl hha)).1
  · intro j t ha
    rcases getElem?_of_set ha with ⟨rfl, rfl⟩ | ⟨he, ha⟩
    · exact hhs
    · intro h has
      obtain ⟨hl, hdr, hh⟩ := hs.handlers j t ha h has
      have hr : t.Running := .inr (by rw [Option.mem_def.mp has]; rfl)
      exact ⟨hl, hdr, fun f =>
        (hh f).interference ((ho j t he ha hr).2 h has)⟩
  · intro j k t u hd ha hak
    rcases getElem?_of_set ha with ⟨rfl, rfl⟩ | ⟨hj, hat⟩
    · rcases getElem?_of_set hak with ⟨rfl, -⟩ | ⟨-, hk⟩
      · exact absurd rfl hd
      · exact hap k u hd.symm hk
    · rcases getElem?_of_set hak with ⟨rfl, rfl⟩ | ⟨-, hk⟩
      · exact (hap j t hj hat).symm
      · exact hs.apart j k t u hd hat hk
  · intro j t ha
    rcases getElem?_of_set ha with ⟨rfl, rfl⟩ | ⟨-, ha⟩
    · exact hn
    · exact fun n hdr => Nat.lt_of_lt_of_le (hs.numbers j t ha n hdr) hse

theorem put_alone (hs : Sound R w) (ht : w.sessions[i]? = some s)
    (hsa : Safe R s'.call s'.born s'.program s'.own w.snapshot)
    (hh : ∀ h ∈ s'.onFailure, h.1.locks = [] ∧ h.1.drawn = [] ∧ ∀ f,
      Safe R s'.call s'.born (h.2 f) h.1 w.snapshot)
    (ha : ∀ j t, j ≠ i → w.sessions[j]? = some t → s'.own.Apart t.own)
    (hn : ∀ n ∈ s'.own.drawn, n < w.snapshot.sequence) : Sound R (w.put i s') :=
  put hs ht hs.inv (fun _ _ _ _ _ => ⟨.refl, fun _ _ => .refl⟩) (Nat.le_refl _) hsa hh ha hn

theorem put_keeping (hs : Sound R w) (ht : w.sessions[i]? = some s)
    (hl : s'.own.locks = s.own.locks) (hd : s'.own.drawn = s.own.drawn)
    (hsa : Safe R s'.call s'.born s'.program s'.own w.snapshot)
    (hh : ∀ h ∈ s'.onFailure, h.1.locks = [] ∧ h.1.drawn = [] ∧ ∀ f,
      Safe R s'.call s'.born (h.2 f) h.1 w.snapshot) : Sound R (w.put i s') := by
  refine put_alone hs ht hsa hh ?_ ?_
  · intro j t ho hat
    have ha := hs.apart i j s t ho.symm ht hat
    rw [Own.Apart, hl, hd]
    exact ha
  · rw [hd]
    exact hs.numbers i s ht

theorem put_released (hs : Sound R w) (ht : w.sessions[i]? = some s)
    (hl : s'.own.locks = []) (hd : s'.own.drawn = [])
    (hsa : Safe R s'.call s'.born s'.program s'.own w.snapshot) (hn : s'.onFailure = none) :
    Sound R (w.put i s') := by
  refine put_alone hs ht hsa (by simp [hn]) ?_ (by simp [hd])
  exact fun _ _ _ _ => Own.apart_of_empty hl hd

theorem fail {k : Own Lock Note} {n : Program Db Lock Note Out} (hs : Sound R w)
    (ht : w.sessions[i]? = some s) (hl : k.locks = []) (hd : k.drawn = [])
    (hsa : Safe R s.call s.born n k w.snapshot) :
    Sound R (w.put i (s.failed k n)) :=
  put_released hs ht hl hd hsa rfl

theorem append (hs : Sound R w) (hsa : Safe R s.call s.born s.program s.own w.snapshot)
    (hn : s.onFailure = none)
    (hap : ∀ (j : Nat) (t : Session Db Lock Note Out Call), w.sessions[j]? = some t →
      s.own.Apart t.own) (hnu : ∀ n ∈ s.own.drawn, n < w.snapshot.sequence) :
    Sound R { w with sessions := w.sessions ++ [s] } := by
  refine ⟨hs.inv, ?_, ?_, ?_, ?_⟩
  · intro j t hf
    rcases getElem?_snoc hf with old | ⟨_, rfl⟩
    · exact hs.safe j t old
    · exact hsa
  · intro j t hf
    rcases getElem?_snoc hf with old | ⟨_, rfl⟩
    · exact hs.handlers j t old
    · simp [hn]
  · intro j k t u hd hfo hfk
    rcases getElem?_snoc hfo with ho | ⟨rfl, rfl⟩ <;> rcases getElem?_snoc hfk with hol | ⟨rfl, rfl⟩
    · exact hs.apart j k t u hd ho hol
    · exact (hap j t ho).symm
    · exact hap k u hol
    · exact absurd rfl hd
  · intro j t hf
    rcases getElem?_snoc hf with old | ⟨_, rfl⟩
    · exact hs.numbers j t old
    · exact hnu

/-- The server keeps the commit of a session whose client has gone on. -/
theorem lose {k : Own Lock Note} {n : Program Db Lock Note Out} {wr : Db → Option Db}
    {c r : Db → Program Db Lock Note Out} (hs : Sound R w)
    (ht : w.sessions[i]? = some s) (hf : s.program = .finish wr c r)
    (hl : k.locks = []) (hd : k.drawn = [])
    (hsa : Safe R s.call s.born n k w.snapshot) :
    Sound R { (w.put i (s.failed k n)) with
      sessions := (w.put i (s.failed k n)).sessions ++ [s.orphan wr] } := by
  have hp := hs.safe i s ht
  rw [hf] at hp
  refine append (fail hs ht hl hd hsa) ?_ rfl ?_ (hs.numbers i s ht)
  · intro s' ho inv
    obtain ⟨hc, _⟩ := hp s' ho inv
    exact ⟨fun db hw => ⟨(hc db hw).1, trivial⟩, fun _ => trivial⟩
  · intro j t ha
    rcases getElem?_of_set ha with ⟨rfl, rfl⟩ | ⟨he, ha⟩
    · exact (Own.apart_of_empty hl hd).symm
    · exact hs.apart i j s t (Ne.symm he) ht ha

end SoundLemmas

variable [DecidableEq Lock] {program : Call → Program Db Lock Note Out}
  {initial : Snapshot Db → Prop}

open SoundLemmas in
theorem Sound.step (hsa : ∀ call s, R.Inv s → Safe R call s (program call) .none s)
    (hs : Sound R w) (hrd : RespectsNotes R w a) (hv : Transactions.step program w a = some w') :
    Sound R w' := by
  cases step_iff_moves.mp hv with
  | spawn call =>
    exact append hs (hsa call _ hs.inv) rfl (fun _ _ _ => Own.apart_none _) (by simp [Own.none])
  | begin ht hp =>
    have hb := hs.safe _ _ ht
    rw [hp] at hb
    obtain ⟨hon, hb⟩ := hb _ .refl hs.inv
    refine put_keeping hs ht rfl rfl hb ?_
    rintro _ ⟨⟩
    exact ⟨rfl, rfl, hon⟩
  | @lock i s l n ht hp hfr =>
    have hl := hs.safe _ _ ht
    rw [hp] at hl
    have hn := hs.numbers _ _ ht
    refine put_alone hs ht (hl _ .refl hs.inv) (hs.handlers i s ht) ?_ hn
    intro j t ho ha
    have hap := hs.apart i j s t ho.symm ht ha
    refine ⟨fun l' hta hhe => ?_, hap.2⟩
    rcases List.mem_cons.mp hta with rfl | old
    · exact hfr t (List.mem_eraseIdx_iff_getElem?.mpr ⟨j, ho, ha⟩) hhe
    · exact hap.1 l' old hhe
  | read ht hp =>
    have hn := hs.safe _ _ ht
    have hh := hs.handlers _ _ ht
    rw [hp] at hn
    exact put_keeping hs ht rfl rfl (hn _ .refl hs.inv) hh
  | @draw i s n ht hp =>
    have hn := hs.safe _ _ ht
    rw [hp] at hn
    refine put hs ht (R.inv_draw hs.inv)
      (fun _ _ _ _ _ => ⟨.single .draw, fun _ _ => .single .draw⟩) (Nat.le_succ _)
      (hn _ .refl hs.inv) ?_ ?_ ?_
    · intro h has
      obtain ⟨hl, hd, hha⟩ := hs.handlers _ _ ht h has
      exact ⟨hl, hd, fun f => (hha f).interference (.single .draw)⟩
    · intro j t ho ha
      have hap := hs.apart i j s t ho.symm ht ha
      refine ⟨hap.1, fun n hd hhe => ?_⟩
      rcases List.mem_cons.mp hd with rfl | old
      · exact absurd (hs.numbers j t ha _ hhe) (Nat.lt_irrefl _)
      · exact hap.2 n old hhe
    · intro n hd
      rcases List.mem_cons.mp hd with rfl | old
      · exact Nat.lt_succ_self _
      · exact Nat.lt_succ_of_lt (hs.numbers _ _ ht n old)
  | note ht hp =>
    have hn := hs.safe _ _ ht
    have hh := hs.handlers _ _ ht
    rw [hp] at hn
    exact put_keeping hs ht rfl rfl (hn _ .refl hs.inv) hh
  | @commit i s wr c r db ht hp hw =>
    have hc := hs.safe _ _ ht
    rw [hp] at hc
    obtain ⟨hg, hne⟩ := (hc _ .refl hs.inv).1 db hw
    have hn := hs.numbers _ _ ht
    refine put hs ht (R.inv_commit hs.inv hn hg) ?_ (Nat.le_refl _) hne
      (by simp [Session.finished]) (fun _ _ _ _ => Own.apart_of_empty rfl rfl)
      (by simp [Session.finished, Own.released])
    intro j t ho ha hru
    obtain ⟨hr, hre⟩ := hrd s wr c r db ht hp hw j t ho ha hru
    refine ⟨.single (.commit s.call s.own (hs.apart j i t s ho ha ht) hs.inv hn hg hr),
      fun h has => ?_⟩
    obtain ⟨hl, hd, _⟩ := hs.handlers j t ha h has
    exact .single (.commit s.call s.own (Own.apart_of_empty hl hd) hs.inv hn hg (hre h has))
  | refuse ht hp hw =>
    have hr := hs.safe _ _ ht
    rw [hp] at hr
    exact put_released hs ht rfl rfl ((hr _ .refl hs.inv).2 hw) rfl
  | answer ht _ => exact put_released hs ht rfl rfl trivial rfl
  | fail ht ho =>
    obtain ⟨hl, hd, hh⟩ := hs.handlers _ _ ht _ ho
    exact SoundLemmas.fail hs ht hl hd (hh _)
  | failBegin ht _ hp =>
    have hb := hs.safe _ _ ht
    rw [hp] at hb
    exact SoundLemmas.fail hs ht rfl rfl ((hb _ .refl hs.inv).1 _)
  | lose ht ho hp =>
    obtain ⟨hl, hd, hh⟩ := hs.handlers _ _ ht _ ho
    exact SoundLemmas.lose hs ht hp hl hd (hh .unavailable)
  | crash ht => exact put_released hs ht rfl rfl trivial rfl

/-- When every client program is safe from every state, all stays sound in runs whose commits
respect the notes of the other sessions. -/
theorem Rules.sound (hst : ∀ s, initial s → R.Inv s)
    (hsa : ∀ call s, R.Inv s → Safe R call s (program call) .none s)
    (hre : (machine program initial).GuardedReachable (RespectsNotes R) w) : Sound R w := by
  refine hre.invariant ?_ fun _ _ _ hs hr hv => Sound.step hsa hs hr hv
  rintro w ⟨hsta, hn⟩
  constructor <;> simp [hn, hst _ hsta]

theorem step_finish (hv : step program w a = some w') : w'.snapshot.db = w.snapshot.db ∨
      ∃ (i : Nat) (s : Session Db Lock Note Out Call) (wr : Db → Option Db)
        (c r : Db → Program Db Lock Note Out), a = .advance i ∧
        w.sessions[i]? = some s ∧ s.program = .finish wr c r ∧
        wr w.snapshot.db = some w'.snapshot.db ∧
        w'.sessions[i]? = some (s.finished (c w.snapshot.db)) := by
  cases step_iff_moves.mp hv with
  | @commit i s wr c r db ht hp hw =>
    obtain ⟨hi, _⟩ := List.getElem?_eq_some_iff.mp ht
    exact .inr ⟨i, s, wr, c, r, rfl, ht, hp, hw, by simp [World.put, hi]⟩
  | _ => exact .inl rfl

/-- Every change of the database is a commit its session could guarantee. -/
theorem Rules.changes_are_guaranteed (hs : Sound R w) (hv : step program w a = some w') :
    w'.snapshot.db = w.snapshot.db ∨
      ∃ (i : Nat) (s : Session Db Lock Note Out Call), a = .advance i ∧
        w.sessions[i]? = some s ∧ (∀ n ∈ s.own.drawn, n < w.snapshot.sequence) ∧
        R.Guar s.call s.own w.snapshot w'.snapshot.db := by
  refine (step_finish hv).imp_right ?_
  rintro ⟨i, s, wr, c, r, ha, ht, hf, hw, _⟩
  have hsa := hs.safe i s ht
  rw [hf] at hsa
  exact ⟨i, s, ha, ht, hs.numbers i s ht, ((hsa _ .refl hs.inv).1 _ hw).1⟩

/-- A step leaves the snapshot alone, draws a number or makes a guaranteed commit. -/
theorem Rules.step_interferes (hs : Sound R w) (hv : step program w a = some w') :
    Rely R .none w.snapshot w'.snapshot := by
  cases step_iff_moves.mp hv with
  | draw => exact .single .draw
  | commit ht hp hw =>
    have hsa := hs.safe _ _ ht
    rw [hp] at hsa
    exact Rely.own_commit .refl hs.inv (hs.numbers _ _ ht) ((hsa _ .refl hs.inv).1 _ hw).1
  | _ => exact .refl

omit [DecidableEq Lock] in
theorem respectsNotes_of_trivial (hf : ∀ n b af, R.Respects n b af) : RespectsNotes R w a := by
  cases a with
  | advance i => exact fun _ _ _ _ _ _ _ _ _ _ _ _ _ => ⟨hf _ _ _, fun _ _ => hf _ _ _⟩
  | _ => trivial

theorem Rules.guarded_of_reachable (hf : ∀ n b af, R.Respects n b af)
    (hr : (machine program initial).Reachable w) :
    (machine program initial).GuardedReachable (RespectsNotes R) w := by
  induction hr with
  | init hs => exact .init hs
  | step b hv ih => exact .step ih (respectsNotes_of_trivial hf) hv

/-! ## Numbers in flight -/

/-- A number a session holds after a step was just drawn, or was held before by a session of
the same call. -/
theorem step_drawn (hs : Sound R w) (hv : step program w a = some w') :
    ∀ s' ∈ w'.sessions, ∀ n ∈ s'.own.drawn, n = w.snapshot.sequence ∨
      ∃ s ∈ w.sessions, n ∈ s.own.drawn ∧ s.call = s'.call := by
  have put {i : Nat} {s s' : Session Db Lock Note Out Call} (ht : w.sessions[i]? = some s)
      (he : s'.call = s.call)
      (hd : ∀ n ∈ s'.own.drawn, n = w.snapshot.sequence ∨ n ∈ s.own.drawn) :
      ∀ t ∈ (w.put i s').sessions, ∀ n ∈ t.own.drawn, n = w.snapshot.sequence ∨
        ∃ s ∈ w.sessions, n ∈ s.own.drawn ∧ s.call = t.call := by
    intro t hm n hh
    rcases List.mem_or_eq_of_mem_set hm with old | rfl
    · exact .inr ⟨t, old, hh, rfl⟩
    · exact (hd n hh).imp_right fun hb =>
        ⟨s, List.mem_of_getElem? ht, hb, he.symm⟩
  have hnone {kept : Own Lock Note} (hn : kept.drawn = []) : ∀ n ∈ kept.drawn, False := by
    rw [hn]
    exact fun _ => List.not_mem_nil
  cases step_iff_moves.mp hv with
  | spawn call =>
    intro t hm n hh
    rcases List.mem_append.mp hm with old | new
    · exact .inr ⟨t, old, hh, rfl⟩
    · rw [List.mem_singleton.mp new] at hh
      cases hh
  | begin ht | lock ht | read ht | note ht => exact put ht rfl fun _ => .inr
  | draw ht => exact put ht rfl fun _ => List.mem_cons.mp
  | commit ht | refuse ht | answer ht | crash ht | failBegin ht =>
    exact put ht rfl fun n hh => absurd hh List.not_mem_nil
  | fail ht ho =>
    have hd := (hs.handlers _ _ ht _ ho).2.1
    exact put ht rfl fun n hh => (hnone hd n hh).elim
  | @lose i s kept oe _ _ _ ht ho =>
    have hd := (hs.handlers _ _ ht _ ho).2.1
    have hc := @put i s (s.failed kept (oe .unavailable)) ht rfl fun n hh => (hnone hd n hh).elim
    intro t hm n hh
    rcases List.mem_append.mp hm with old | new
    · exact hc t old n hh
    · rw [List.mem_singleton.mp new] at hh ⊢
      exact .inr ⟨_, List.mem_of_getElem? ht, hh, rfl⟩

/-! ## What sessions come to -/

/-- The rest of a session's program and what a failure leads to meet a condition. -/
def Session.Along (P : Call → Point Db Lock Note Out → Point Db Lock Note Out → Prop)
    (s : Session Db Lock Note Out Call) : Prop :=
  (∃ prev, s.program.Along (P s.call) prev s.own s.onFailure) ∧
    ∀ h ∈ s.onFailure, ∀ f, (h.2 f).Along (P s.call) .start h.1 none

variable {P : Call → Point Db Lock Note Out → Point Db Lock Note Out → Prop}

/-- A session stands where it stood, or has come to a point that meets the condition: from the
statement it was at, or from a failure; the commit a client has lost answers nothing. -/
theorem along_step (hor : ∀ call prev wr c r o h, P call prev ⟨.finish wr c r, o, h⟩ →
      P call prev ⟨.finish wr (fun _ => .halt) fun _ => .halt, o, none⟩)
    (hs : ∀ call, (program call).Along (P call) .start .none none)
    (all : ∀ s ∈ w.sessions, s.Along P) (hv : step program w a = some w') :
    ∀ i s', w'.sessions[i]? = some s' → w.sessions[i]? = some s' ∨ s'.Along P ∧
      ∀ out, s'.program = .done out → ∃ prev, P s'.call prev s'.point ∧
        ((prev = .start ∧ ∀ j, a ≠ .advance j) ∨ ∃ s, a = .advance i ∧
          w.sessions[i]? = some s ∧ s.call = s'.call ∧ prev = s.point) := by
  have put {j : Nat} {s t : Session Db Lock Note Out Call}
      {prev : Point Db Lock Note Out} (ht : w.sessions[j]? = some s) (hc : t.call = s.call)
      (ha : t.program.Along (P s.call) prev t.own t.onFailure)
      (hh : ∀ h ∈ t.onFailure, ∀ f, (h.2 f).Along (P s.call) .start h.1 none)
      (hp : ∀ out, t.program = .done out → (prev = .start ∧ ∀ j, a ≠ .advance j) ∨
        a = .advance j ∧ prev = s.point) :
      ∀ i s', (w.put j t).sessions[i]? = some s' → w.sessions[i]? = some s' ∨ s'.Along P ∧
        ∀ out, s'.program = .done out → ∃ prev, P s'.call prev s'.point ∧
          ((prev = .start ∧ ∀ j, a ≠ .advance j) ∨ ∃ s, a = .advance i ∧
            w.sessions[i]? = some s ∧ s.call = s'.call ∧ prev = s.point) := by
    intro i s' ht'
    rcases getElem?_of_set ht' with ⟨rfl, rfl⟩ | ⟨-, ht'⟩
    · rw [← hc] at ha hh
      refine .inr ⟨⟨⟨prev, ha⟩, hh⟩, fun out hd => ⟨prev, ?_, (hp out hd).imp_right ?_⟩⟩
      · exact ha.here (hd ▸ nofun)
      · exact fun ⟨hadv, hprev⟩ => ⟨s, hadv, ht, hc.symm, hprev⟩
    · exact .inl ht'
  have hall {j : Nat} {s : Session Db Lock Note Out Call} (ht : w.sessions[j]? = some s) :=
    all s (List.mem_of_getElem? ht)
  cases step_iff_moves.mp hv with
  | spawn call =>
    intro i s' ht'
    rcases getElem?_snoc ht' with old | new
    · exact .inl old
    · cases new.2
      refine .inr ⟨⟨⟨.start, hs call⟩, nofun⟩, fun out hd => ⟨.start, ?_, .inl ⟨rfl, nofun⟩⟩⟩
      have hd : program call = .done out := hd
      exact (hs call).here (hd ▸ nofun)
  | begin ht hp =>
    obtain ⟨⟨prev, hm⟩, _⟩ := hall ht
    rw [hp] at hm
    refine put ht rfl hm.2.2 ?_ fun _ _ => .inr ⟨rfl, by rw [Session.point, hp]⟩
    rintro h ⟨⟩
    exact hm.2.1
  | lock ht hp =>
    obtain ⟨⟨prev, hm⟩, hh⟩ := hall ht
    rw [hp] at hm
    exact put ht rfl hm.2 hh fun _ _ => .inr ⟨rfl, by rw [Session.point, hp]⟩
  | read ht hp =>
    obtain ⟨⟨prev, hm⟩, hh⟩ := hall ht
    rw [hp] at hm
    exact put ht rfl (hm.2 _) hh fun _ _ => .inr ⟨rfl, by rw [Session.point, hp]⟩
  | draw ht hp =>
    obtain ⟨⟨prev, hm⟩, hh⟩ := hall ht
    rw [hp] at hm
    exact put ht rfl (hm.2 _) hh fun _ _ => .inr ⟨rfl, by rw [Session.point, hp]⟩
  | note ht hp =>
    obtain ⟨⟨prev, hm⟩, hh⟩ := hall ht
    rw [hp] at hm
    exact put ht rfl (hm.2 _) hh fun _ _ => .inr ⟨rfl, by rw [Session.point, hp]⟩
  | commit ht hp =>
    obtain ⟨⟨prev, hm⟩, _⟩ := hall ht
    rw [hp] at hm
    exact put ht rfl (hm.2.1 _) nofun fun _ _ => .inr ⟨rfl, by rw [Session.point, hp]⟩
  | refuse ht hp =>
    obtain ⟨⟨prev, hm⟩, _⟩ := hall ht
    rw [hp] at hm
    exact put ht rfl (hm.2.2 _) nofun fun _ _ => .inr ⟨rfl, by rw [Session.point, hp]⟩
  | answer ht | crash ht => exact @put _ _ _ .start ht rfl trivial nofun nofun
  | fail ht ho => exact put ht rfl ((hall ht).2 _ ho _) nofun fun _ _ => .inl ⟨rfl, nofun⟩
  | failBegin ht _ hp =>
    obtain ⟨⟨prev, hm⟩, _⟩ := hall ht
    rw [hp] at hm
    exact put ht rfl (hm.2.1 _) nofun fun _ _ => .inl ⟨rfl, nofun⟩
  | @lose j s kept oe _ _ _ ht ho hp =>
    have hc := @put j s (s.failed kept (oe .unavailable)) .start ht rfl ((hall ht).2 _ ho _) nofun
      fun _ _ => .inl ⟨rfl, nofun⟩
    intro i s' ht'
    rcases getElem?_snoc ht' with old | new
    · exact hc i s' old
    · cases new.2
      obtain ⟨⟨prev, hm⟩, _⟩ := hall ht
      rw [hp] at hm
      exact .inr ⟨⟨⟨prev, hor _ _ _ _ _ _ _ hm.1, fun _ => trivial, fun _ => trivial⟩, nofun⟩,
        nofun⟩

theorem along_of_reachable (hor : ∀ call prev wr c r o h, P call prev ⟨.finish wr c r, o, h⟩ →
      P call prev ⟨.finish wr (fun _ => .halt) fun _ => .halt, o, none⟩)
    (hs : ∀ call, (program call).Along (P call) .start .none none)
    (hr : (machine program initial).Reachable w) : ∀ s ∈ w.sessions, s.Along P := by
  induction hr with
  | init hst => simp [hst.2]
  | step _ hv ih =>
    intro s' hm
    obtain ⟨i, ht'⟩ := List.mem_iff_getElem?.mp hm
    rcases along_step hor hs ih hv i s' ht' with old | new
    · exact ih s' (List.mem_of_getElem? old)
    · exact new.1

/-- What every program of a machine commits holds of the rest of every session's program. -/
theorem finishes_of_reachable {Q : Call → (Db → Option Db) → (Db → Program Db Lock Note Out) → Prop}
    (hor : ∀ call wr c, Q call wr c → Q call wr fun _ => .halt)
    (hs : ∀ call, (program call).Finishes (Q call))
    (hr : (machine program initial).Reachable w) :
    ∀ s ∈ w.sessions, s.program.Finishes (Q s.call) := by
  intro s hm
  obtain ⟨⟨prev, ha⟩, _⟩ := along_of_reachable
    (P := fun call _ point => point.statement.Finishes (Q call))
    (fun _ _ _ _ _ _ _ hf => ⟨hor _ _ _ hf.1, fun _ => trivial, fun _ => trivial⟩)
    (fun call => (hs call).along) hr s hm
  by_cases hh : s.program = .halt
  · rw [hh]
    trivial
  · exact ha.here hh

/-! ## Later births -/

/-- The world as if one session had been called in another state. -/
def World.reborn (w : World Db Lock Note Out Call) (i : Nat) (b : Snapshot Db) :
    World Db Lock Note Out Call :=
  { w with sessions := w.sessions.modify i fun s => { s with born := b } }

section Reborn

omit [DecidableEq Lock]

variable {i j : Nat} {b : Snapshot Db} {s : Session Db Lock Note Out Call}

@[simp] theorem World.reborn_snapshot (w : World Db Lock Note Out Call) (i : Nat)
    (b : Snapshot Db) : (w.reborn i b).snapshot = w.snapshot := rfl

theorem World.getElem?_reborn (w : World Db Lock Note Out Call) (i j : Nat) (b : Snapshot Db) :
    (w.reborn i b).sessions[j]? =
      (w.sessions[j]?).map fun s => { s with born := if i = j then b else s.born } := by
  rw [World.reborn, List.getElem?_modify]
  by_cases hij : i = j
  · simp [hij]
  · simp [hij]

/-- Safe as if the session had been called in another state. -/
def BornSafe (R : Rules Db Lock Note Out Call) (w : World Db Lock Note Out Call) (i : Nat)
    (b : Snapshot Db) : Prop :=
  ∀ s, w.sessions[i]? = some s → Safe R s.call b s.program s.own w.snapshot ∧
    ∀ h ∈ s.onFailure, ∀ f, Safe R s.call b (h.2 f) h.1 w.snapshot

theorem Sound.reborn (hs : Sound R w) (hb : BornSafe R w i b) : Sound R (w.reborn i b) := by
  refine ⟨hs.inv, fun j t ht => ?_, fun j t ht => ?_, fun j k t u hd ht hu => ?_, fun j t ht => ?_⟩
  all_goals
    rw [World.getElem?_reborn, Option.map_eq_some_iff] at ht
    obtain ⟨t, ht, rfl⟩ := ht
  · by_cases hij : i = j
    · subst hij
      simpa using (hb t ht).1
    · simpa [hij] using hs.safe j t ht
  · intro h hh
    obtain ⟨hl, hdr, hf⟩ := hs.handlers j t ht h hh
    refine ⟨hl, hdr, fun f => ?_⟩
    by_cases hij : i = j
    · subst hij
      simpa using (hb t ht).2 h hh f
    · simpa [hij] using hf f
  · rw [World.getElem?_reborn, Option.map_eq_some_iff] at hu
    obtain ⟨u, hu, rfl⟩ := hu
    exact hs.apart j k t u hd ht hu
  · exact hs.numbers j t ht

end Reborn

omit [DecidableEq Lock] in
theorem World.put_calls {i : Nat} {s s' : Session Db Lock Note Out Call}
    (ht : w.sessions[i]? = some s) (he : s'.call = s.call) :
    (w.put i s').sessions.map Session.call = w.sessions.map Session.call := by
  show (w.sessions.set i s').map Session.call = w.sessions.map Session.call
  have hth : (w.sessions.map Session.call)[i]? = some s'.call := by
    rw [List.getElem?_map, ht, he]
    rfl
  obtain ⟨hb, is⟩ := List.getElem?_eq_some_iff.mp hth
  rw [List.map_set, ← is, List.set_getElem_self]

theorem step_calls (hv : step program w a = some w') :
    w.sessions.map Session.call <+: w'.sessions.map Session.call := by
  have put {i : Nat} {s s' : Session Db Lock Note Out Call} (ht : w.sessions[i]? = some s)
      (he : s'.call = s.call) :
      w.sessions.map Session.call <+: (w.put i s').sessions.map Session.call := by
    exact World.put_calls ht he ▸ List.prefix_refl _
  cases step_iff_moves.mp hv with
  | spawn call =>
    rw [List.map_append]
    exact List.prefix_append _ _
  | lose ht =>
    rw [List.map_append]
    refine List.IsPrefix.trans ?_ (List.prefix_append _ _)
    exact put ht rfl
  | begin ht | lock ht | read ht | draw ht | note ht | commit ht | refuse ht | answer ht
  | fail ht | failBegin ht | crash ht => exact put ht rfl

theorem calls_of_leads (hl : (machine program initial).Leads w w')
    {s : Session Db Lock Note Out Call} (hr : s ∈ w.sessions) :
    ∃ s' ∈ w'.sessions, s'.call = s.call := by
  have hk : w.sessions.map Session.call <+: w'.sessions.map Session.call := by
    induction hl with
    | refl => exact List.prefix_refl _
    | tail _ hv ih =>
      obtain ⟨a, hv⟩ := hv
      exact ih.trans (step_calls hv)
  exact List.mem_map.mp (hk.subset (List.mem_map_of_mem hr))

end Transactions
