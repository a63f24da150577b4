import PersonalOs.Basis.Machine

/-!
# The permits of the part uploads

`PartPutSemaphore` of the multipart runner. A release gives its permit back and resolves the
promise of the first waiter; the waiter goes on in a later microtask and takes the permit only then.
In between the counter is below the limit and an `acquire` that starts now is let through.

Resolved promises resume in the order they were resolved.
-/

namespace PersonalOs.Multipart

/-- `MultipartUploadPlatform`. -/
inductive UploadPlatform
  | desktop
  | mobile
deriving DecidableEq

def multipartPartConcurrency : UploadPlatform → Nat
  | .mobile => 2
  | .desktop => 3

variable {Worker : Type}

/-- The members of `PartPutSemaphore`; a waiter is the worker its promise belongs to. -/
structure PartPutSemaphore (Worker : Type) where
  limit : Nat
  activeCount : Nat
  waiters : List Worker

/-- A semaphore and its workers: the resolved promises still to resume, and the workers between a
completed `acquire` and their `release`. All who ever queued and all who were served from the queue
are kept in order. -/
structure SemaphoreWorld (Worker : Type) where
  semaphore : PartPutSemaphore Worker
  woken : List Worker
  holding : List Worker
  queued : List Worker
  served : List Worker

inductive SemaphoreAction (Worker : Type)
  | acquire (worker : Worker)
  /-- The promise resolved first resumes its `acquire`. -/
  | resume
  | release (worker : Worker)

namespace SemaphoreWorld

variable [DecidableEq Worker] (world : SemaphoreWorld Worker)

/-- `acquire` up to its `await`, or to its end where it does not wait. -/
def acquire (worker : Worker) : SemaphoreWorld Worker :=
  let semaphore := world.semaphore
  if semaphore.limit ≤ semaphore.activeCount then
    { world with
      semaphore := { semaphore with waiters := semaphore.waiters ++ [worker] }
      queued := world.queued ++ [worker] }
  else
    { world with
      semaphore := { semaphore with activeCount := semaphore.activeCount + 1 }
      holding := worker :: world.holding }

/-- The rest of `acquire` of the worker woken first. -/
def resume : Option (SemaphoreWorld Worker) :=
  match world.woken with
  | [] => none
  | worker :: rest => some { world with
      semaphore := { world.semaphore with activeCount := world.semaphore.activeCount + 1 }
      woken := rest
      holding := worker :: world.holding
      served := world.served ++ [worker] }

def release (worker : Worker) : SemaphoreWorld Worker :=
  let semaphore := { world.semaphore with activeCount := world.semaphore.activeCount - 1 }
  let holding := world.holding.erase worker
  match semaphore.waiters with
  | [] => { world with semaphore, holding }
  | waiter :: rest => { world with
      semaphore := { semaphore with waiters := rest }
      woken := world.woken ++ [waiter]
      holding }

/-- A worker acquires when it is neither queued nor holding, and releases what it holds. -/
def step : SemaphoreAction Worker → Option (SemaphoreWorld Worker)
  | .acquire worker =>
    if worker ∈ world.semaphore.waiters ∨ worker ∈ world.woken ∨ worker ∈ world.holding then none
    else some (world.acquire worker)
  | .resume => world.resume
  | .release worker => if worker ∈ world.holding then some (world.release worker) else none

end SemaphoreWorld

def semaphoreMachine (Worker : Type) [DecidableEq Worker] (limit : Nat) :
    Machine (SemaphoreWorld Worker) (SemaphoreAction Worker) where
  Init := fun world => world = ⟨⟨limit, 0, []⟩, [], [], [], []⟩
  step := SemaphoreWorld.step

/-! ## What holds of every run -/

namespace SemaphoreWorld

variable (limit : Nat) (world : SemaphoreWorld Worker)

structure Sound : Prop where
  limited : world.semaphore.limit = limit
  counted : world.semaphore.activeCount = world.holding.length
  ordered : world.served ++ world.woken ++ world.semaphore.waiters = world.queued

/-- No more workers hold a permit than there are permits, and waiters are served in order. -/
structure Lawful : Prop where
  bounded : world.holding.length ≤ limit
  ordered : world.served ++ world.woken ++ world.semaphore.waiters = world.queued

/-- No worker takes a permit that woken waiters are on their way to. -/
def LeavesPermits : SemaphoreAction Worker → Prop
  | .acquire _ => world.semaphore.limit ≤ world.semaphore.activeCount ∨
      world.semaphore.activeCount + world.woken.length < world.semaphore.limit
  | .resume | .release _ => True

instance : (action : SemaphoreAction Worker) → Decidable (world.LeavesPermits action)
  | .acquire _ => inferInstanceAs (Decidable (_ ∨ _))
  | .resume | .release _ => inferInstanceAs (Decidable True)

end SemaphoreWorld

open SemaphoreWorld

variable [DecidableEq Worker] {limit : Nat} {world next : SemaphoreWorld Worker}
  {action : SemaphoreAction Worker}

theorem sound_step (hs : world.Sound limit)
    (hv : (semaphoreMachine Worker limit).step world action = some next) :
    next.Sound limit := by
  obtain ⟨hl, hc, ho⟩ := hs
  cases action with
  | acquire w =>
    simp only [semaphoreMachine, step] at hv
    split at hv
    · cases hv
    cases hv
    unfold acquire
    dsimp only
    split
    · exact ⟨hl, hc, by simp [← ho]⟩
    · exact ⟨hl, by simp [hc], ho⟩
  | resume =>
    simp only [semaphoreMachine, step, resume] at hv
    split at hv <;> cases hv
    next w r hwo =>
      rw [hwo] at ho
      exact ⟨hl, by simp [hc], by simp [← ho]⟩
  | release w =>
    simp only [semaphoreMachine, step] at hv
    split at hv
    · rename_i hh
      cases hv
      have he := List.length_erase_of_mem hh
      unfold release
      dsimp only
      split
      next hn => exact ⟨hl, by simp [he, hc], ho⟩
      next wa r hw =>
        rw [hw] at ho
        exact ⟨hl, by simp [he, hc], by simp [← ho]⟩
    · cases hv

theorem sound_reachable (hr : (semaphoreMachine Worker limit).Reachable world) :
    world.Sound limit := by
  refine hr.invariant ?_ fun _ _ _ hs hv => sound_step hs hv
  rintro _ rfl
  exact ⟨rfl, rfl, rfl⟩

/-- The permits held and the permits woken waiters are on their way to stay within the limit. -/
theorem promised_step (hs : world.Sound limit)
    (hw : world.holding.length + world.woken.length ≤ limit)
    (hle : world.LeavesPermits action)
    (hv : (semaphoreMachine Worker limit).step world action = some next) :
    next.holding.length + next.woken.length ≤ limit := by
  obtain ⟨hl, hc, ho⟩ := hs
  cases action with
  | acquire w =>
    simp only [semaphoreMachine, step] at hv
    split at hv
    · cases hv
    cases hv
    unfold acquire
    dsimp only
    split
    · exact hw
    next hf =>
      have hr := hle.resolve_left hf
      rw [hl, hc] at hr
      simp only [List.length_cons]
      omega
  | resume =>
    simp only [semaphoreMachine, step, resume] at hv
    split at hv <;> cases hv
    next w r hwo =>
      rw [hwo] at hw
      simp only [List.length_cons] at hw ⊢
      omega
  | release w =>
    simp only [semaphoreMachine, step] at hv
    split at hv
    · rename_i hh
      cases hv
      have he := List.length_erase_of_mem hh
      have hso := List.length_pos_of_mem hh
      unfold release
      dsimp only
      split
      · simp only [he]
        omega
      · simp only [he, List.length_append, List.length_singleton]
        omega
    · cases hv

theorem woken_resume (limit : Nat) (world : SemaphoreWorld Worker) :
    ∃ t, (semaphoreMachine Worker limit).Leads world t ∧
      t.holding.length = world.holding.length + world.woken.length := by
  induction wa : world.woken generalizing world with
  | nil => exact ⟨world, .refl, rfl⟩
  | cons w rs ih =>
    let r : SemaphoreWorld Worker := { world with
      semaphore := { world.semaphore with activeCount := world.semaphore.activeCount + 1 }
      woken := rs
      holding := w :: world.holding
      served := world.served ++ [w] }
    have hv : (semaphoreMachine Worker limit).step world .resume = some r := by
      simp only [semaphoreMachine, step, resume, wa]
      rfl
    obtain ⟨t, hl, hc⟩ := ih r rfl
    refine ⟨t, .head ⟨_, hv⟩ hl, ?_⟩
    rw [hc]
    simp only [r, List.length_cons]
    omega

/-- The limit holds, first come first served, along every run in which no worker takes the permit
of a woken waiter; a worker that takes it can be followed by a state beyond the limit. -/
theorem part_permits_bounded (Worker : Type) [DecidableEq Worker] (limit : Nat) :
    (∀ world, (semaphoreMachine Worker limit).GuardedReachable LeavesPermits world →
      world.Lawful limit) ∧
    ∀ world action next, (semaphoreMachine Worker limit).Reachable world →
      (semaphoreMachine Worker limit).step world action = some next → ¬world.LeavesPermits action →
          ∃ t, (semaphoreMachine Worker limit).Leads next t ∧ ¬t.Lawful limit := by
  constructor
  · intro world hr
    have hw : world.holding.length + world.woken.length ≤ limit ∧ world.Sound limit := by
      refine @Machine.GuardedReachable.invariant _ _ (semaphoreMachine Worker limit) _
        (fun w => w.holding.length + w.woken.length ≤ limit ∧ w.Sound limit) ?_
        (fun _ _ _ hk hl hv =>
          ⟨promised_step hk.2 hk.1 hl hv, sound_step hk.2 hv⟩) _ hr
      rintro _ rfl
      exact ⟨Nat.zero_le _, rfl, rfl, rfl⟩
    exact ⟨by omega, hw.2.ordered⟩
  · intro world action next hr hv ht
    have hs := sound_reachable hr
    obtain ⟨t, hle, hc⟩ := woken_resume limit next
    refine ⟨t, hle, fun law => ?_⟩
    have hb := law.bounded
    cases action with
    | acquire wo =>
      simp only [LeavesPermits, not_or, not_le, not_lt] at ht
      simp only [semaphoreMachine, step] at hv
      split at hv
      · cases hv
      cases hv
      have hco := hs.counted
      have hli := hs.limited
      simp only [acquire, if_neg (Nat.not_le_of_gt ht.1), List.length_cons] at hc
      omega
    | resume => exact ht trivial
    | release wo => exact ht trivial

/-- Two parts upload on a phone, a third queues; the first releases and the third resumes. -/
def queuedScript : List (SemaphoreAction Nat) :=
  [.acquire 1, .acquire 2, .acquire 3, .release 1, .resume, .release 2, .release 3]

theorem part_permits_bounded_queued : ∃ world,
    (semaphoreMachine Nat (multipartPartConcurrency .mobile)).GuardedReachable LeavesPermits
      world ∧ world.served = [3] ∧ world.Lawful (multipartPartConcurrency .mobile) := by
  obtain ⟨world, ran⟩ : ∃ world, (semaphoreMachine Nat (multipartPartConcurrency .mobile)).run
      ⟨⟨2, 0, []⟩, [], [], [], []⟩ queuedScript = some world := ⟨_, rfl⟩
  have hr : (semaphoreMachine Nat (multipartPartConcurrency .mobile)).GuardedReachable
      LeavesPermits world :=
    Machine.guardedReachable_of_run (fun world action
      (hl : decide (world.LeavesPermits action) = true) => of_decide_eq_true hl) rfl ran
      (by decide)
  have law := (part_permits_bounded Nat _).1 world hr
  cases ran
  exact ⟨_, hr, rfl, law⟩

/-- A fourth part asks for a permit between the release and the resumption. -/
def bargingScript : List (SemaphoreAction Nat) :=
  [.acquire 1, .acquire 2, .acquire 3, .release 1, .acquire 4, .resume]

theorem barging_worker_exceeds : ¬∀ (limit : Nat) (world : SemaphoreWorld Nat), 1 ≤ limit →
    (semaphoreMachine Nat limit).Reachable world → world.Lawful limit := by
  intro hc
  obtain ⟨world, ran⟩ : ∃ world, (semaphoreMachine Nat (multipartPartConcurrency .mobile)).run
      ⟨⟨2, 0, []⟩, [], [], [], []⟩ bargingScript = some world := ⟨_, rfl⟩
  have law := hc 2 world (by decide) (Machine.reachable_of_run rfl ran)
  cases ran
  exact absurd law.bounded (by decide)

/-! ## The queue drains -/

/-- No wakeup is lost: while a worker waits, every permit is held or promised to a woken one. -/
theorem awaited_step (hs : world.Sound limit)
    (ha : world.semaphore.waiters ≠ [] → limit ≤ world.holding.length + world.woken.length)
    (hv : (semaphoreMachine Worker limit).step world action = some next)
    (hw : next.semaphore.waiters ≠ []) : limit ≤ next.holding.length + next.woken.length := by
  obtain ⟨hl, hc, -⟩ := hs
  cases action with
  | acquire w =>
    simp only [semaphoreMachine, step] at hv
    split at hv <;> cases hv
    revert hw
    unfold acquire
    dsimp only
    split
    next hf =>
      intro _
      dsimp only
      omega
    next hf =>
      intro hw
      have := ha hw
      simp only [List.length_cons]
      omega
  | resume =>
    simp only [semaphoreMachine, step, resume] at hv
    split at hv <;> cases hv
    next w r hwo =>
      have := ha hw
      simp only [hwo, List.length_cons] at this ⊢
      omega
  | release w =>
    simp only [semaphoreMachine, step] at hv
    split at hv <;> cases hv
    next hh =>
      have he := List.length_erase_of_mem hh
      have hp := List.length_pos_of_mem hh
      revert hw
      unfold release
      dsimp only
      split
      next hn => exact fun hw => absurd hn hw
      next x r hn =>
        intro _
        have := ha (by simp [hn])
        simp only [he, List.length_append, List.length_singleton]
        omega

theorem awaited_reachable (hr : (semaphoreMachine Worker limit).Reachable world)
    (hw : world.semaphore.waiters ≠ []) : limit ≤ world.holding.length + world.woken.length := by
  induction hr with
  | init hi =>
    cases hi
    exact absurd rfl hw
  | step hr hv ih => exact awaited_step (sound_reachable hr) ih hv hw

/-- A step in which no worker asks for a permit: a holder releases or a woken waiter resumes. -/
def SemaphoreAction.isServing : SemaphoreAction Worker → Bool
  | .acquire _ => false
  | .release _ | .resume => true

theorem drains (hp : 0 < limit) (n : Nat) (hr : (semaphoreMachine Worker limit).Reachable world)
    (hn : 2 * world.semaphore.waiters.length + world.woken.length = n) :
    ∃ script t, (∀ action ∈ script, action.isServing) ∧
      (semaphoreMachine Worker limit).run world script = some t ∧ t.semaphore.waiters = [] ∧
      t.woken = [] ∧ t.queued = world.queued := by
  induction n using Nat.strong_induction_on generalizing world with
  | h n ih =>
    have on (action : SemaphoreAction Worker) (next) (serving : action.isServing)
        (hv : (semaphoreMachine Worker limit).step world action = some next)
        (hlt : 2 * next.semaphore.waiters.length + next.woken.length < n)
        (hq : next.queued = world.queued) : ∃ script t, (∀ action ∈ script, action.isServing) ∧
          (semaphoreMachine Worker limit).run world script = some t ∧ t.semaphore.waiters = [] ∧
          t.woken = [] ∧ t.queued = world.queued := by
      obtain ⟨script, t, hs, ran, hw, hwo, hqt⟩ := ih _ hlt (.step hr hv) rfl
      refine ⟨action :: script, t, List.forall_mem_cons.mpr ⟨serving, hs⟩, ?_, hw, hwo, hqt.trans hq⟩
      rw [Machine.run, hv]
      exact ran
    cases hwo : world.woken with
    | cons w r =>
      have hv : (semaphoreMachine Worker limit).step world .resume = world.resume := rfl
      simp only [resume, hwo] at hv
      refine on _ _ rfl hv ?_ rfl
      simp only [hwo, List.length_cons] at hn
      dsimp only
      omega
    | nil =>
      cases hw : world.semaphore.waiters with
      | nil => exact ⟨[], world, List.forall_mem_nil _, rfl, hw, hwo, rfl⟩
      | cons x r =>
        have ha := awaited_reachable hr (by simp [hw])
        simp only [hwo, hw, List.length_cons, List.length_nil] at ha hn
        obtain ⟨w, hh⟩ := List.exists_mem_of_length_pos (l := world.holding) (by omega)
        have hv : (semaphoreMachine Worker limit).step world (.release w) =
            some (world.release w) := if_pos hh
        refine on _ _ rfl hv ?_ ?_ <;> simp only [release, hw]
        simp only [hwo, List.nil_append, List.length_singleton]
        omega

/-- No worker waits for ever: from every state releases by the holders and resumptions of woken
waiters, and no other step, serve the whole queue in its order. -/
theorem queued_workers_served (positive : 0 < limit)
    (reached : (semaphoreMachine Worker limit).Reachable world) :
    (world.semaphore.waiters ≠ [] → limit ≤ world.holding.length + world.woken.length) ∧
      ∃ script t, (∀ action ∈ script, action.isServing) ∧
        (semaphoreMachine Worker limit).run world script = some t ∧ t.semaphore.waiters = [] ∧
        t.woken = [] ∧ t.served = world.queued := by
  obtain ⟨script, t, hs, ran, hw, hwo, hq⟩ := drains positive _ reached rfl
  have ho := (sound_reachable (reached.append_run ran)).ordered
  rw [hw, hwo, List.append_nil, List.append_nil] at ho
  exact ⟨awaited_reachable reached, script, t, hs, ran, hw, hwo, ho.trans hq⟩

theorem queued_workers_served_phone : ∃ world : SemaphoreWorld Nat,
    world.semaphore.waiters = [3] ∧ world.holding.length = 2 ∧
      ∃ script t, (∀ action ∈ script, action.isServing) ∧
        (semaphoreMachine Nat 2).run world script = some t ∧ t.semaphore.waiters = [] ∧
        t.woken = [] ∧ t.served = world.queued := by
  obtain ⟨world, ran⟩ : ∃ world, (semaphoreMachine Nat 2).run ⟨⟨2, 0, []⟩, [], [], [], []⟩
      [.acquire 1, .acquire 2, .acquire 3] = some world := ⟨_, rfl⟩
  have served := (queued_workers_served (by decide) (Machine.reachable_of_run rfl ran)).2
  cases ran
  exact ⟨_, rfl, rfl, served⟩

end PersonalOs.Multipart
