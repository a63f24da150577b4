import PersonalOs.Basis.Machine

/-!
# The login throttle

One throttle bucket and the login attempts that read and write it: a lock-free resolve, then a
recorded failure, a rejection that writes no bucket row, or a committed success, each with the
moment the attempt started at. A bucket row's writers are serialised, and the guarded first insert
makes a cold bucket no exception.
-/

namespace PersonalOs.Authentication.LoginThrottle

/-! ## Throttle transitions -/

structure ThrottleWindowPolicy where
  failureThreshold : Nat
  windowDuration : Nat
  lockDuration : Nat

structure ThrottleBucketState where
  windowStartedAt : Nat
  failedAttemptCount : Nat
  lockedUntil : Option Nat
deriving DecidableEq

structure ThrottleFailureTransition extends ThrottleBucketState where
  becameLocked : Bool

def isThrottleBucketLocked (state : Option ThrottleBucketState) (databaseNow : Nat) : Bool :=
  match state.bind (·.lockedUntil) with
  | none => false
  | some lockedUntil => databaseNow < lockedUntil

def nextLoginFailureTransition (policy : ThrottleWindowPolicy) (databaseNow : Nat)
    (previous : Option ThrottleBucketState) : ThrottleFailureTransition :=
  match previous with
  | none => ⟨⟨databaseNow, 1, none⟩, false⟩
  | some state =>
    if state.windowStartedAt + policy.windowDuration ≤ databaseNow then
      ⟨⟨databaseNow, 1, none⟩, false⟩
    else if isThrottleBucketLocked (some state) databaseNow then ⟨state, false⟩
    else
      let becomesLocked := policy.failureThreshold ≤ state.failedAttemptCount + 1
      ⟨⟨state.windowStartedAt, state.failedAttemptCount + 1,
        if becomesLocked then some (databaseNow + policy.lockDuration) else none⟩, becomesLocked⟩

inductive ThrottleBucketKind
  | loginUsername
  | loginSource
deriving DecidableEq

/-! ## Attempts and their commits -/

/-- An attempt resolves the bucket; one that found it locked, or gave up, has ended. -/
inductive AttemptStage
  | started
  | resolved (seen : Option ThrottleBucketState)
  | ended
deriving DecidableEq

structure LoginAttempt where
  moment : Nat
  stage : AttemptStage
deriving DecidableEq

/-- A committed write of the bucket row: a failure, kept out of the count by a lock or not, or the
reset of a success. -/
inductive BucketWrite
  | failure (moment : Nat) (keptByLock : Bool)
  | reset (moment : Nat)
deriving DecidableEq

def BucketWrite.moment : BucketWrite → Nat
  | .failure moment _ => moment
  | .reset moment => moment

def BucketWrite.strikes : BucketWrite → Nat
  | .failure _ false => 1
  | _ => 0

/-- A lock as the failure that reached the threshold set it. -/
structure LoginLock where
  setAt : Nat
  lockedUntil : Nat
deriving DecidableEq

/-- A committed session and the locks set before it. -/
structure LoginSession where
  moment : Nat
  committedAt : Nat
  locks : List LoginLock
deriving DecidableEq

/-- The clock, the bucket row, the attempts in flight, and what has been committed, newest
first. -/
structure ThrottleWorld where
  now : Nat
  bucket : Option ThrottleBucketState
  attempts : List LoginAttempt
  writes : List BucketWrite
  locks : List LoginLock
  sessions : List LoginSession
deriving DecidableEq

inductive LoginAction
  | tick (elapsed : Nat)
  | start
  | resolve (attempt : Nat)
  | recordFailure (attempt : Nat)
  | commitSuccess (attempt : Nat)
  | abandon (attempt : Nat)

namespace ThrottleWorld

variable (policy : ThrottleWindowPolicy) (kind : ThrottleBucketKind) (w : ThrottleWorld)

def setStage (i : Nat) (attempt : LoginAttempt) (stage : AttemptStage) : ThrottleWorld :=
  { w with attempts := w.attempts.set i { attempt with stage } }

/-- Whether a failure inside the counting window meets a lock, which keeps the state. -/
def keptByLock (moment : Nat) : Bool :=
  match w.bucket with
  | none => false
  | some state => moment < state.windowStartedAt + policy.windowDuration &&
      isThrottleBucketLocked w.bucket moment

/-- `apply_throttle_bucket_failure` for an attempt's moment. -/
def applyThrottleBucketFailure (moment : Nat) : ThrottleWorld :=
  let transition := nextLoginFailureTransition policy moment w.bucket
  { w with
    bucket := some transition.toThrottleBucketState
    writes := .failure moment (w.keptByLock policy moment) :: w.writes
    locks := match transition.becameLocked, transition.lockedUntil with
      | true, some lockedUntil => ⟨moment, lockedUntil⟩ :: w.locks
      | _, _ => w.locks }

/-- `commit_login_success`: it resets the row of the username's bucket, where there is one. -/
def commitLoginSuccess (moment : Nat) : ThrottleWorld :=
  let session := ⟨moment, w.now, w.locks⟩
  match kind, w.bucket with
  | .loginUsername, some _ =>
    { w with
      bucket := some ⟨moment, 0, none⟩
      writes := .reset moment :: w.writes
      sessions := session :: w.sessions }
  | _, _ => { w with sessions := session :: w.sessions }

def step (w : ThrottleWorld) : LoginAction → Option ThrottleWorld
  | .tick elapsed => some { w with now := w.now + elapsed }
  | .start => some { w with attempts := w.attempts ++ [⟨w.now, .started⟩] }
  | .resolve i =>
    match w.attempts[i]? with
    | some ⟨moment, .started⟩ => some <| w.setStage i ⟨moment, .started⟩ <|
        if isThrottleBucketLocked w.bucket moment then .ended else .resolved w.bucket
    | _ => none
  | .recordFailure i =>
    match w.attempts[i]? with
    | some ⟨moment, .resolved seen⟩ =>
      some <| (w.setStage i ⟨moment, .resolved seen⟩ .ended).applyThrottleBucketFailure policy
        moment
    | _ => none
  | .commitSuccess i =>
    match w.attempts[i]? with
    | some ⟨moment, .resolved seen⟩ =>
      some <| (w.setStage i ⟨moment, .resolved seen⟩ .ended).commitLoginSuccess kind moment
    | _ => none
  | .abandon i =>
    match w.attempts[i]? with
    | some attempt => some <| w.setStage i attempt .ended
    | none => none

def initial : ThrottleWorld := ⟨0, none, [], [], [], []⟩

end ThrottleWorld

/-- One bucket under every interleaving of the attempts. -/
def throttleMachine (policy : ThrottleWindowPolicy) (kind : ThrottleBucketKind) :
    Machine ThrottleWorld LoginAction where
  Init w := w = .initial
  step := ThrottleWorld.step policy kind

/-! ## What the throttle promises -/

/-- The count is that of the failures since the window opened that no lock kept out. -/
def CountsFailures (policy : ThrottleWindowPolicy) (w : ThrottleWorld) : Prop :=
  match w.bucket with
  | none => w.writes = []
  | some state => ∃ newer opening older, w.writes = newer ++ opening :: older ∧
      opening.moment = state.windowStartedAt ∧
      (∀ write ∈ newer, (∃ kept, write = .failure write.moment kept) ∧
        write.moment < state.windowStartedAt + policy.windowDuration) ∧
      state.failedAttemptCount = opening.strikes + (newer.map BucketWrite.strikes).sum

structure Sound (policy : ThrottleWindowPolicy) (w : ThrottleWorld) : Prop where
  counted : CountsFailures policy w
  thresholdLocks : ∀ state, w.bucket = some state → 0 < state.failedAttemptCount →
    policy.failureThreshold ≤ state.failedAttemptCount →
    ∃ lock ∈ w.locks, state.lockedUntil = some lock.lockedUntil ∧
      lock.lockedUntil = lock.setAt + policy.lockDuration
  lockStands : ∀ lock ∈ w.locks, w.now < lock.lockedUntil →
    w.bucket.bind (·.lockedUntil) = some lock.lockedUntil
  notOutrun : ∀ session ∈ w.sessions, ∀ lock ∈ session.locks,
    session.committedAt < lock.lockedUntil →
    ¬ (lock.setAt ≤ session.moment ∧ session.moment < lock.lockedUntil)

/-- A failure is recorded under a threshold of at least two and, while a lock stands, inside the
counting window; a success commits under the lock its attempt has resolved. -/
def respectsLock (policy : ThrottleWindowPolicy) (w : ThrottleWorld) : LoginAction → Bool
  | .recordFailure i =>
    match w.attempts[i]?, w.bucket with
    | some attempt, some state => 2 ≤ policy.failureThreshold &&
        (!isThrottleBucketLocked w.bucket w.now ||
          attempt.moment < state.windowStartedAt + policy.windowDuration)
    | _, _ => 2 ≤ policy.failureThreshold
  | .commitSuccess i =>
    match w.attempts[i]? with
    | some ⟨_, .resolved seen⟩ => seen.bind (·.lockedUntil) = w.bucket.bind (·.lockedUntil)
    | _ => true
  | _ => true

/-! ## What one commit preserves -/

section Commits

variable {policy : ThrottleWindowPolicy} {kind : ThrottleBucketKind} {w : ThrottleWorld}
  {moment : Nat}

theorem failure_cases :
    ((∀ s, w.bucket = some s → s.windowStartedAt + policy.windowDuration ≤ moment) ∧
      w.applyThrottleBucketFailure policy moment =
        { w with bucket := some ⟨moment, 1, none⟩, writes := .failure moment false :: w.writes }) ∨
    ∃ s, w.bucket = some s ∧ moment < s.windowStartedAt + policy.windowDuration ∧
      (isThrottleBucketLocked w.bucket moment = true ∧ w.applyThrottleBucketFailure policy moment =
          { w with writes := .failure moment true :: w.writes } ∨
      isThrottleBucketLocked w.bucket moment = false ∧ w.applyThrottleBucketFailure policy moment =
          if policy.failureThreshold ≤ s.failedAttemptCount + 1 then
            { w with
              bucket := some ⟨s.windowStartedAt, s.failedAttemptCount + 1,
                some (moment + policy.lockDuration)⟩
              writes := .failure moment false :: w.writes
              locks := ⟨moment, moment + policy.lockDuration⟩ :: w.locks }
          else
            { w with
              bucket := some ⟨s.windowStartedAt, s.failedAttemptCount + 1, none⟩
              writes := .failure moment false :: w.writes }) := by
  obtain ⟨now, b, a, wr, l, se⟩ := w
  cases b with
  | none => exact .inl ⟨by simp, by
      simp [ThrottleWorld.applyThrottleBucketFailure, nextLoginFailureTransition,
        ThrottleWorld.keptByLock]⟩
  | some s =>
    by_cases he : s.windowStartedAt + policy.windowDuration ≤ moment
    · refine .inl ⟨by simpa using he, ?_⟩
      simp [ThrottleWorld.applyThrottleBucketFailure, nextLoginFailureTransition,
        ThrottleWorld.keptByLock, he, Nat.not_lt.mpr he]
    · refine .inr ⟨s, rfl, by omega, ?_⟩
      cases hl : isThrottleBucketLocked (some s) moment with
      | true =>
        refine .inl ⟨rfl, ?_⟩
        simp [ThrottleWorld.applyThrottleBucketFailure, nextLoginFailureTransition,
          ThrottleWorld.keptByLock, he, hl, Nat.lt_of_not_le he]
      | false =>
        refine .inr ⟨rfl, ?_⟩
        split <;> simp [ThrottleWorld.applyThrottleBucketFailure, nextLoginFailureTransition,
          ThrottleWorld.keptByLock, *]

theorem Sound.passed (hs : Sound policy w) (hf : isThrottleBucketLocked w.bucket w.now = false)
    (l : LoginLock) (hw : l ∈ w.locks) : l.lockedUntil ≤ w.now := by
  by_contra ht
  have hh := hs.lockStands l hw (by omega)
  simp [isThrottleBucketLocked, hh] at hf
  omega

theorem unlocked_mono {b : Option ThrottleBucketState} {l : Nat} (hu : moment ≤ l)
    (hf : isThrottleBucketLocked b moment = false) :
    isThrottleBucketLocked b l = false := by
  unfold isThrottleBucketLocked at hf ⊢
  split <;> simp_all
  omega

theorem failure_keeps (hso : Sound policy w) (hpa : moment ≤ w.now)
    (hen : 2 ≤ policy.failureThreshold)
    (hin : ∀ s, w.bucket = some s → isThrottleBucketLocked w.bucket w.now = false ∨
      moment < s.windowStartedAt + policy.windowDuration) :
    Sound policy (w.applyThrottleBucketFailure policy moment) := by
  have hc := hso.counted
  rcases @failure_cases policy w moment with ⟨he, ha⟩ | ⟨s, hs, hwi, ⟨hl, ha⟩ | ⟨hf, ha⟩⟩
  -- a new window: the lock of the old one has passed
  · have hf : isThrottleBucketLocked w.bucket w.now = false := by
      cases hs : w.bucket with
      | none => rfl
      | some s =>
        have := he s hs
        rcases hin s hs with hf | hwi
        · exact hs ▸ hf
        · omega
    rw [ha]
    refine ⟨⟨[], _, w.writes, rfl, rfl, by simp, by simp [BucketWrite.strikes]⟩, ?_, ?_,
      hso.notOutrun⟩
    · rintro _ ⟨⟩ _ hr
      simp at hr
      omega
    · intro l hw ht
      exact absurd ht (Nat.not_lt.mpr (hso.passed hf l hw))
  -- kept by the lock
  · simp only [CountsFailures, hs] at hc
    obtain ⟨n, o, ol, hsp, ho, hi, hco⟩ := hc
    rw [ha]
    refine ⟨?_, hso.thresholdLocks, hso.lockStands, hso.notOutrun⟩
    simp only [CountsFailures, hs]
    refine ⟨.failure moment true :: n, o, ol, by simp [hsp], ho, ?_, ?_⟩
    · rintro wr (_ | ⟨_, ham⟩)
      · exact ⟨⟨true, rfl⟩, hwi⟩
      · exact hi wr ham
    · simpa [BucketWrite.strikes] using hco
  -- counted: whatever lock there was has passed
  · simp only [CountsFailures, hs] at hc
    obtain ⟨n, o, ol, hsp, ho, hi, hco⟩ := hc
    have hp := hso.passed (unlocked_mono hpa hf)
    have hcs : ∀ lu lo, CountsFailures policy
        { w with
          bucket := some ⟨s.windowStartedAt, s.failedAttemptCount + 1, lu⟩
          writes := .failure moment false :: w.writes
          locks := lo } := by
      intro lu lo
      refine ⟨.failure moment false :: n, o, ol, by simp [hsp], ho, ?_, ?_⟩
      · rintro wr (_ | ⟨_, ham⟩)
        · exact ⟨⟨false, rfl⟩, hwi⟩
        · exact hi wr ham
      · simp [BucketWrite.strikes, hco]
        omega
    rw [ha]
    split
    · refine ⟨hcs _ _, ?_, ?_, hso.notOutrun⟩
      · rintro _ ⟨⟩ _ _
        exact ⟨_, List.mem_cons_self, rfl, rfl⟩
      · rintro l (_ | ⟨_, hw⟩) ht
        · rfl
        · exact absurd ht (Nat.not_lt.mpr (hp l hw))
    · refine ⟨hcs _ _, ?_, ?_, hso.notOutrun⟩
      · rintro _ ⟨⟩ _ hr
        contradiction
      · intro l hw ht
        exact absurd ht (Nat.not_lt.mpr (hp l hw))

theorem success_keeps (hs : Sound policy w) (hpa : moment ≤ w.now)
    (hf : isThrottleBucketLocked w.bucket moment = false) :
    Sound policy (w.commitLoginSuccess kind moment) := by
  have hp := hs.passed (unlocked_mono hpa hf)
  have ho : ∀ s ∈ (⟨moment, w.now, w.locks⟩ : LoginSession) :: w.sessions,
      ∀ l ∈ s.locks, s.committedAt < l.lockedUntil →
      ¬ (l.setAt ≤ s.moment ∧ s.moment < l.lockedUntil) := by
    rintro s (_ | ⟨_, ha⟩) l hw ht
    · exact absurd ht (Nat.not_lt.mpr (hp l hw))
    · exact hs.notOutrun s ha l hw ht
  unfold ThrottleWorld.commitLoginSuccess
  split
  · refine ⟨⟨[], _, w.writes, rfl, rfl, by simp, by simp [BucketWrite.strikes]⟩, ?_, ?_, ho⟩
    · rintro _ ⟨⟩ hpo
      simp at hpo
    · intro l hw ht
      exact absurd ht (Nat.not_lt.mpr (hp l hw))
  · exact ⟨hs.counted, hs.thresholdLocks, hs.lockStands, ho⟩

end Commits

/-! ## Runs -/

/-- Attempts start in the past, and one that goes on resolved no lock over its moment. -/
def AttemptsSound (w : ThrottleWorld) : Prop :=
  ∀ attempt ∈ w.attempts, attempt.moment ≤ w.now ∧
    ∀ seen, attempt.stage = .resolved seen → isThrottleBucketLocked seen attempt.moment = false

section Runs

variable {policy : ThrottleWindowPolicy} {kind : ThrottleBucketKind} {w w' : ThrottleWorld}
  {moment i : Nat} {attempt : LoginAttempt} {stage : AttemptStage}

theorem attempts_setStage (hs : AttemptsSound w) (ha : w.attempts[i]? = some attempt)
    (hr : ∀ s, stage = .resolved s → isThrottleBucketLocked s attempt.moment = false) :
    AttemptsSound (w.setStage i attempt stage) := by
  intro o ham
  rcases List.mem_or_eq_of_mem_set ham with hst | rfl
  · exact hs o hst
  · exact ⟨(hs attempt (List.mem_of_getElem? ha)).1, hr⟩

theorem sound_setStage (hs : Sound policy w) : Sound policy (w.setStage i attempt stage) :=
  ⟨hs.counted, hs.thresholdLocks, hs.lockStands, hs.notOutrun⟩

theorem step_keeps {a : LoginAction} (hs : Sound policy w ∧ AttemptsSound w)
    (hr : respectsLock policy w a = true)
    (hv : w.step policy kind a = some w') : Sound policy w' ∧ AttemptsSound w' := by
  obtain ⟨hs, hat⟩ := hs
  cases a with
  | tick e =>
    cases hv
    exact ⟨⟨hs.counted, hs.thresholdLocks, fun l hw ht => hs.lockStands l hw (by simp at ht; omega),
      hs.notOutrun⟩, fun attempt ham => ⟨Nat.le_add_right_of_le (hat attempt ham).1,
      (hat attempt ham).2⟩⟩
  | start =>
    cases hv
    refine ⟨⟨hs.counted, hs.thresholdLocks, hs.lockStands, hs.notOutrun⟩, ?_⟩
    intro attempt ham
    rcases List.mem_append.mp ham with hss | hn
    · exact hat attempt hss
    · cases List.mem_singleton.mp hn
      exact ⟨le_refl _, by simp⟩
  | resolve i =>
    simp only [ThrottleWorld.step] at hv
    split at hv <;> cases hv
    next ha =>
    refine ⟨sound_setStage hs, attempts_setStage hat ha ?_⟩
    intro se hre
    split at hre <;> cases hre
    next hf => exact Bool.eq_false_iff.mpr hf
  | recordFailure i =>
    simp only [ThrottleWorld.step] at hv
    split at hv <;> cases hv
    next ha =>
    refine ⟨?_, attempts_setStage hat ha (by simp)⟩
    simp only [respectsLock, ha] at hr
    refine failure_keeps (sound_setStage hs) (hat _ (List.mem_of_getElem? ha)).1 ?_ ?_
    · split at hr <;> simp_all
    · intro s hst
      replace hst : w.bucket = some s := hst
      simp [hst] at hr
      simpa [ThrottleWorld.setStage, hst] using hr.2
  | commitSuccess i =>
    simp only [ThrottleWorld.step] at hv
    split at hv <;> cases hv
    next ha =>
    have ⟨hp, hf⟩ := hat _ (List.mem_of_getElem? ha)
    simp only [respectsLock, ha, decide_eq_true_eq] at hr
    have hu := hf _ rfl
    simp only [isThrottleBucketLocked, hr] at hu
    refine ⟨success_keeps (sound_setStage hs) hp hu, ?_⟩
    have he := @attempts_setStage _ _ _ .ended hat ha (by simp)
    unfold ThrottleWorld.commitLoginSuccess
    split <;> exact he
  | abandon i =>
    simp only [ThrottleWorld.step] at hv
    split at hv <;> cases hv
    exact ⟨sound_setStage hs, attempts_setStage hat ‹_› (by simp)⟩

/-- In every run whose failures are recorded inside the window while a lock stands, and whose
successes commit under the lock they resolved, no failure is lost, the threshold locks, and no
lock is shortened or outrun. -/
theorem login_lock_holds (policy : ThrottleWindowPolicy) (kind : ThrottleBucketKind)
    (w : ThrottleWorld)
    (run : (throttleMachine policy kind).GuardedReachable
      (fun before a => respectsLock policy before a = true) w) : Sound policy w := by
  refine (@Machine.GuardedReachable.invariant _ _ (throttleMachine policy kind) _
    (fun w => Sound policy w ∧ AttemptsSound w) ?_ ?_ w run).1
  · rintro _ rfl
    exact ⟨⟨rfl, by simp [ThrottleWorld.initial], by simp [ThrottleWorld.initial],
      by simp [ThrottleWorld.initial]⟩, by simp [AttemptsSound, ThrottleWorld.initial]⟩
  · exact fun _ _ _ hs hr hv => step_keeps hs hr hv

end Runs

/-! ## Failures around the end of the window -/

def samplePolicy : ThrottleWindowPolicy := ⟨3, 15, 15⟩

def attemptOf (i : Nat) : List LoginAction := [.start, .resolve i, .recordFailure i]

/-- Three failures of one window lock the bucket; the fourth attempt finds it locked, and the fifth
succeeds after the lock. -/
def lockScript : List LoginAction :=
  attemptOf 0 ++ attemptOf 1 ++ [.tick 14] ++ attemptOf 2 ++ [.start, .resolve 3, .tick 15, .start,
    .resolve 4, .commitSuccess 4]

theorem login_lock_holds_locked : ∃ w, Sound samplePolicy w ∧
    w.locks = [⟨14, 29⟩] ∧ w.attempts[3]? = some ⟨14, .ended⟩ ∧
    w.sessions = [⟨29, 29, [⟨14, 29⟩]⟩] ∧ w.bucket = some ⟨29, 0, none⟩ := by
  obtain ⟨w, ran⟩ : ∃ w, (throttleMachine samplePolicy .loginUsername).run .initial lockScript =
    some w := ⟨_, rfl⟩
  have run := Machine.guardedReachable_of_run (fun _ _ => id) rfl ran
    (by decide : (throttleMachine samplePolicy .loginUsername).runChecks
      (respectsLock samplePolicy) .initial lockScript = true)
  have hs := login_lock_holds samplePolicy .loginUsername w run
  cases ran
  exact ⟨_, hs, rfl, rfl, rfl, rfl⟩

/-- The attempts 2 and 3 start on the two sides of the window's end and resolve no lock; the
failure of the first locks the bucket and that of the second opens a new window. -/
def clearScript : List LoginAction :=
  attemptOf 0 ++ attemptOf 1 ++ [.tick 14, .start, .tick 1, .start, .resolve 2, .resolve 3,
    .recordFailure 2, .recordFailure 3]

theorem recorded_failure_clears_lock : ¬ ∀ policy kind w,
    0 < policy.windowDuration → 0 < policy.lockDuration →
    (throttleMachine policy kind).Reachable w → Sound policy w := by
  intro hc
  obtain ⟨w, ran⟩ : ∃ w, (throttleMachine samplePolicy .loginUsername).run .initial clearScript =
    some w := ⟨_, rfl⟩
  have hs := hc samplePolicy .loginUsername w (by decide) (by decide)
    (Machine.reachable_of_run rfl ran)
  cases ran
  have ht := hs.lockStands ⟨14, 29⟩ List.mem_cons_self (by decide)
  revert ht
  decide

end PersonalOs.Authentication.LoginThrottle
