import PersonalOs.SourceStore.Answers

/-!
# The retry policy of the database

`DatabaseRetryPolicy.run` over every schedule of attempts: how a driver failure is classified and
mapped, the turns of the loop, and the lookup after an uncertain commit. An attempt whose commit is
not acknowledged may have committed, may not have, or may commit after later lookups.
-/

namespace PersonalOs.SourceStore

/-! ## Driver failures -/

/-- The closed classification of a driver or database failure. -/
inductive DatabaseFailureKind
  | contention
  | integrity
  | unavailable
  | unclassifiedDatabase
  | notDatabase
deriving DecidableEq

/-- What the instance checks tell of an exception: an interface or operational error, another
error of the driver, or none of it. -/
inductive ExceptionShape
  | connection
  | database
  | other
deriving DecidableEq

/-- An exception as it is classified: the SQLSTATE of its wrapped origin, its own, its shape. -/
structure DriverException where
  origSqlstate : Option String
  sqlstate : Option String
  shape : ExceptionShape
deriving DecidableEq

def retryableContentionSqlstates : List String := ["40001", "40P01", "55P03", "57014"]

def unavailableSqlstates : List String := ["53300", "57P01", "57P02", "57P03"]

def extractSqlstate (cause : DriverException) : Option String :=
  [cause.origSqlstate, cause.sqlstate].findSome? fun candidate => candidate.filter (· ≠ "")

def classifyShape : ExceptionShape → DatabaseFailureKind
  | .connection => .unavailable
  | .database => .unclassifiedDatabase
  | .other => .notDatabase

def classifyDatabaseFailure (cause : DriverException) : DatabaseFailureKind :=
  match extractSqlstate cause with
  | none => classifyShape cause.shape
  | some sqlstate =>
    if sqlstate ∈ retryableContentionSqlstates then .contention
    else if "23".toList.isPrefixOf sqlstate.toList then .integrity
    else if "08".toList.isPrefixOf sqlstate.toList ∨ sqlstate ∈ unavailableSqlstates then
      .unavailable
    else classifyShape cause.shape

/-! ## Errors -/

/-- The codes the policy maps to, and the other codes of the registry with their retryability. -/
inductive RegistryCode
  | sourceConcurrencyBusy
  | sourceCommitOutcomeUnknown
  | internalError
  | registered (code : Nat) (isRetryable : Bool)
deriving DecidableEq

/-- A typed error of one of the two store families: an `ApplicationError` or a
`SourceLifecycleError`, which is none. -/
inductive TypedError
  | application (code : RegistryCode)
  | lifecycle (code : SourceLifecycleErrorCode)
deriving DecidableEq

def TypedError.isRetryable : TypedError → Bool
  | .application .sourceConcurrencyBusy | .application .sourceCommitOutcomeUnknown => true
  | .application .internalError => false
  | .application (.registered _ isRetryable) => isRetryable
  | .lifecycle code => code = .commitOutcomeUnknown

def mapDatabaseFailure (cause : DriverException) : TypedError :=
  match classifyDatabaseFailure cause with
  | .contention => .application .sourceConcurrencyBusy
  | .integrity | .notDatabase => .application .internalError
  | .unavailable | .unclassifiedDatabase => .application .sourceCommitOutcomeUnknown

/-! ## Schedules -/

/-- What an attempt comes to. Only a failed connection leaves a commit unacknowledged: it lands
before the lookup of the attempt so many turns later, or never. -/
inductive AttemptOutcome (T : Type)
  | acknowledged (result : T)
  | rejected (error : TypedError)
  | rolledBack (cause : DriverException)
  | lost (cause : { cause // classifyDatabaseFailure cause = .unavailable })
      (landsAfter : Option Nat) (result : T)

/-- A run of `recover`: it looks the result up and, where nothing has landed, proves absence or
raises a typed error; or the lookup fails otherwise. -/
inductive LookupOutcome
  | answers (absent : Option TypedError)
  | fails

/-- What happens at each attempt, numbered from one, and at the lookup after it. -/
structure RetrySchedule (T : Type) where
  attempts : Nat → AttemptOutcome T
  recover : Option (Nat → LookupOutcome)

inductive RetryOutcome (T : Type)
  | returned (result : T)
  | raised (error : TypedError)
  | exhausted

/-- How a run ends, and the number of its last attempt. -/
structure RetryRun (T : Type) where
  outcome : RetryOutcome T
  attempts : Nat

namespace RetrySchedule

variable {T : Type} (s : RetrySchedule T)

def failure (attempt : Nat) : Option DriverException :=
  match s.attempts attempt with
  | .rolledBack cause => some cause
  | .lost cause _ _ => some cause.1
  | _ => none

/-- The result the attempt commits and how many turns later it lands. -/
def commitOf (attempt : Nat) : Option (T × Nat) :=
  match s.attempts attempt with
  | .acknowledged result => some (result, 0)
  | .lost _ landsAfter result => landsAfter.map (result, ·)
  | _ => none

/-- What the lookup after an attempt can find. -/
def landed (attempt : Nat) : Option T :=
  (List.range' 1 attempt).findSome? fun earlier =>
    (s.commitOf earlier).bind fun commit =>
      if earlier + commit.2 ≤ attempt then some commit.1 else none

def resolveUncertainOutcome (lookup : LookupOutcome) (attempt : Nat) :
    Except TypedError (Option T) :=
  match lookup, s.landed attempt with
  | .answers _, some result => .ok (some result)
  | .answers none, none => .ok none
  | .answers (some (.application code)), none => .error (.application code)
  | .answers (some (.lifecycle _)), none | .fails, _ =>
    .error (.application .sourceCommitOutcomeUnknown)

/-- What a failed attempt ends the loop with, if it does. -/
def turnFailed (maximumAttempts attempt : Nat) (cause : DriverException) :
    Option (RetryOutcome T) :=
  let raised := some (.raised (mapDatabaseFailure cause))
  let next := if attempt = maximumAttempts then raised else none
  match classifyDatabaseFailure cause, s.recover with
  | .contention, _ => next
  | .unavailable, some lookup =>
    match s.resolveUncertainOutcome (lookup attempt) attempt with
    | .error error => some (.raised error)
    | .ok (some result) => some (.returned result)
    | .ok none => next
  | _, _ => raised

/-- One turn of the loop: what ends it, if it does. -/
def turn (maximumAttempts attempt : Nat) : Option (RetryOutcome T) :=
  match s.attempts attempt with
  | .acknowledged result => some (.returned result)
  | .rejected error => some (.raised error)
  | .rolledBack cause => s.turnFailed maximumAttempts attempt cause
  | .lost cause _ _ => s.turnFailed maximumAttempts attempt cause

def runFrom (maximumAttempts : Nat) : (remaining attempt : Nat) → RetryRun T
  | 0, attempt => ⟨.exhausted, attempt - 1⟩
  | remaining + 1, attempt =>
    match s.turn maximumAttempts attempt with
    | some outcome => ⟨outcome, attempt⟩
    | none => runFrom maximumAttempts remaining (attempt + 1)

/-- `DatabaseRetryPolicy.run`. -/
def run (maximumAttempts : Nat) : RetryRun T := s.runFrom maximumAttempts maximumAttempts 1

/-! ## Soundness -/

def LookupRaises (attempt : Nat) (error : TypedError) : Prop :=
  (∃ cause, s.failure attempt = some cause ∧ classifyDatabaseFailure cause = .unavailable) ∧
  (∃ lookup, s.recover = some lookup ∧ lookup attempt = .answers (some error)) ∧
  s.landed attempt = none

/-- The four promises of a run under the policy. -/
structure Sound (maximumAttempts : Nat) : Prop where
  committedOnce : ∀ j k, 1 ≤ j → j < k → k ≤ (s.run maximumAttempts).attempts →
    (s.commitOf j).isSome → s.commitOf k = none
  returnedCommitted : ∀ result, (s.run maximumAttempts).outcome = .returned result →
    ∃ k delay, 1 ≤ k ∧ k ≤ (s.run maximumAttempts).attempts ∧
      s.commitOf k = some (result, delay)
  definiteUncommitted : ∀ error, (s.run maximumAttempts).outcome = .raised error →
    error.isRetryable = false →
    ∀ k, 1 ≤ k → k ≤ (s.run maximumAttempts).attempts → s.commitOf k = none
  lookupErrorRaised : ∀ k error, 1 ≤ k → k ≤ (s.run maximumAttempts).attempts →
    s.LookupRaises k error → (s.run maximumAttempts).outcome = .raised error

/-- The attempt failed and may be followed by another: by contention, or by a failed connection
after which the lookup proved absence. -/
def GoesOn (attempt : Nat) : Prop :=
  ∃ cause, s.failure attempt = some cause ∧
    (classifyDatabaseFailure cause = .contention ∨
      classifyDatabaseFailure cause = .unavailable ∧ s.landed attempt = none ∧
      ∃ lookup, s.recover = some lookup ∧ lookup attempt = .answers none)

/-- Every attempt before this one went on. -/
def Reached (attempt : Nat) : Prop := ∀ j, 1 ≤ j → j < attempt → s.GoesOn j

def LandsLate (attempt : Nat) : Prop := ∃ result delay, s.commitOf attempt = some (result, delay + 1)

/-- The attempt is refused for good: by a typed error, by the database or by its lookup. -/
def RefusedForGood (attempt : Nat) : Prop :=
  (∃ error, s.attempts attempt = .rejected error ∧ error.isRetryable = false) ∨
  (∃ cause, s.failure attempt = some cause ∧
    (classifyDatabaseFailure cause = .integrity ∨ classifyDatabaseFailure cause = .notDatabase)) ∨
  ∃ code, s.LookupRaises attempt (.application code) ∧
    (TypedError.application code).isRetryable = false

/-- No attempt that is reached meets the late commit of another, as a commit or refused for good,
and no lookup raises a lifecycle error. -/
structure Spared (maximumAttempts : Nat) : Prop where
  noLifecycleError : ∀ k code, 1 ≤ k → k ≤ maximumAttempts → s.Reached k →
    ¬ s.LookupRaises k (.lifecycle code)
  noLateCommit : ∀ j k, 1 ≤ j → j ≤ k → k ≤ maximumAttempts → s.Reached k → s.LandsLate j →
    (j < k → s.commitOf k = none) ∧ ¬ s.RefusedForGood k

/-! ## The loop -/

section Loop

variable {s} {k n maximumAttempts : Nat} {cause : DriverException} {result : T}
  {error : TypedError}

theorem landed_committed (hf : s.landed k = some result) :
    ∃ j d, 1 ≤ j ∧ j ≤ k ∧ s.commitOf j = some (result, d) := by
  obtain ⟨j, ha, hl⟩ := List.exists_of_findSome?_eq_some hf
  obtain ⟨⟨_, d⟩, hc, hi⟩ := Option.bind_eq_some_iff.mp hl
  have := List.mem_range'_1.mp ha
  split at hi
  · cases hi
    exact ⟨j, d, by omega, by omega, hc⟩
  · cases hi

theorem landed_of_commit (hf : 1 ≤ k) (hc : s.commitOf k = some (result, 0)) :
    s.landed k ≠ none := by
  intro hn
  have hs := List.findSome?_eq_none_iff.mp hn k (List.mem_range'_1.mpr (by omega))
  simp [hc] at hs

theorem turn_of_failure (hf : s.failure k = some cause) :
    s.turn maximumAttempts k = s.turnFailed maximumAttempts k cause := by
  cases ha : s.attempts k <;> simp only [failure, ha, Option.some.injEq, reduceCtorEq] at hf
    <;> subst hf <;> simp only [turn, ha]

theorem turn_of_lookupRaises (hra : s.LookupRaises k error) :
    s.turn maximumAttempts k = some (.raised (match error with
        | .application c => .application c
        | .lifecycle _ => .application .sourceCommitOutcomeUnknown)) := by
  obtain ⟨⟨cause, hf, hl⟩, ⟨l, hr, ha⟩, hn⟩ := hra
  rw [turn_of_failure hf]
  cases error <;> simp [turnFailed, hl, hr, resolveUncertainOutcome, ha, hn]

/-- The loop goes on exactly after an attempt that may be followed and is not the last. -/
theorem turn_none_iff : s.turn maximumAttempts k = none ↔ s.GoesOn k ∧ k ≠ maximumAttempts := by
  cases hf : s.failure k with
  | none =>
    refine iff_of_false ?_ fun ⟨⟨_, hfa, _⟩, _⟩ => by simp [hf] at hfa
    cases hat : s.attempts k <;> simp [failure, turn, hat] at hf ⊢
  | some cause =>
    rw [turn_of_failure hf]
    unfold turnFailed GoesOn
    cases hk : classifyDatabaseFailure cause <;> cases hr : s.recover <;> simp [hf, hk]
    next l =>
    cases ha : l k with
    | fails => simp [resolveUncertainOutcome]
    | answers a =>
      cases hl : s.landed k with
      | some _ => simp [resolveUncertainOutcome, hl]
      | none =>
        rcases a with _ | c | c <;> simp [resolveUncertainOutcome, hl]

theorem late_of_goesOn (hfi : 1 ≤ k) (hg : s.GoesOn k) (hco : s.commitOf k ≠ none) :
    s.LandsLate k := by
  obtain ⟨cause, hf, hk⟩ := hg
  obtain ⟨⟨result, d⟩, hc⟩ := Option.ne_none_iff_exists'.mp hco
  rcases d with _ | d
  · cases ha : s.attempts k with
    | acknowledged _ => simp [failure, ha] at hf
    | rejected _ => simp [failure, ha] at hf
    | rolledBack _ => simp [commitOf, ha] at hc
    | lost l _ _ =>
      simp only [failure, ha, Option.some.injEq] at hf
      have hu := l.2
      rcases hk with hk | ⟨_, hn, _⟩
      · simp [hf, hk] at hu
      · exact absurd hn (landed_of_commit hfi hc)
  · exact ⟨result, d, hc⟩

theorem turn_of_refused (hr : s.RefusedForGood k) : ∃ error,
    s.turn maximumAttempts k = some (.raised error) ∧ error.isRetryable = false := by
  rcases hr with ⟨error, ha, hd⟩ | ⟨cause, hf, hk | hk⟩ | ⟨c, hra, hd⟩
  · exact ⟨error, by simp [turn, ha], hd⟩
  · exact ⟨_, (turn_of_failure hf).trans (by simp [turnFailed, hk]; rfl),
      by simp [mapDatabaseFailure, hk, TypedError.isRetryable]⟩
  · exact ⟨_, (turn_of_failure hf).trans (by simp [turnFailed, hk]; rfl),
      by simp [mapDatabaseFailure, hk, TypedError.isRetryable]⟩
  · exact ⟨_, turn_of_lookupRaises hra, hd⟩

theorem turnFailed_definite (ht : s.turnFailed maximumAttempts k cause = some (.raised error))
    (hd : error.isRetryable = false) :
    (classifyDatabaseFailure cause = .integrity ∨ classifyDatabaseFailure cause = .notDatabase) ∨
    classifyDatabaseFailure cause = .unavailable ∧ s.landed k = none ∧ ∃ l c, s.recover = some l ∧
        l k = .answers (some (.application c)) ∧ error = .application c := by
  unfold turnFailed at ht
  cases hk : classifyDatabaseFailure cause <;> cases hr : s.recover <;>
    simp [hk, hr, mapDatabaseFailure] at ht ⊢
  case unavailable.some l =>
    cases ha : l k with
    | fails =>
      simp [resolveUncertainOutcome, ha] at ht
      simp [← ht, TypedError.isRetryable] at hd
    | answers a =>
      cases hl : s.landed k with
      | some _ => simp [resolveUncertainOutcome, ha, hl] at ht
      | none =>
        rcases a with _ | c | c <;> simp [resolveUncertainOutcome, ha, hl] at ht
        · simp [← ht.2, TypedError.isRetryable] at hd
        · exact ⟨rfl, c, rfl, ht.symm⟩
        · simp [← ht, TypedError.isRetryable] at hd
  all_goals first
    | simp [← ht.2, TypedError.isRetryable] at hd
    | simp [← ht, TypedError.isRetryable] at hd

/-- A definite error refuses the attempt for good, and its own commit, if it has one, is late. -/
theorem refused_of_turn (hfi : 1 ≤ k) (ht : s.turn maximumAttempts k = some (.raised error))
    (hd : error.isRetryable = false) :
    s.RefusedForGood k ∧ (s.commitOf k ≠ none → s.LandsLate k) := by
  cases hf : s.failure k with
  | none =>
    cases hat : s.attempts k <;> simp [failure, turn, commitOf, hat] at hf ht ⊢
    exact .inl ⟨error, by rw [hat, ht], hd⟩
  | some cause =>
    rw [turn_of_failure hf] at ht
    rcases turnFailed_definite ht hd with
      hr | ⟨lo, hn, l, c, hre, ha, rfl⟩
    · refine ⟨.inr (.inl ⟨cause, hf, hr⟩), fun hc => absurd ?_ hc⟩
      cases hat : s.attempts k <;> simp [failure, commitOf, hat] at hf ⊢
      next lo _ _ =>
      have hu := lo.2
      simp [hf] at hu
      simp [hu] at hr
    · refine ⟨.inr (.inr ⟨c, ⟨⟨cause, hf, lo⟩, ⟨l, hre, ha⟩, hn⟩, hd⟩), fun hc => ?_⟩
      obtain ⟨⟨result, _ | d⟩, hco⟩ := Option.ne_none_iff_exists'.mp hc
      · exact absurd hn (landed_of_commit hfi hco)
      · exact ⟨result, d, hco⟩

theorem returned_landed (ht : s.turn maximumAttempts k = some (.returned result)) :
    s.commitOf k = some (result, 0) ∨ s.landed k = some result := by
  cases hf : s.failure k with
  | none =>
    cases hat : s.attempts k <;> simp [failure, turn, commitOf, hat] at hf ht ⊢
    exact .inl ht
  | some cause =>
    rw [turn_of_failure hf] at ht
    unfold turnFailed at ht
    cases hk : classifyDatabaseFailure cause <;> cases hr : s.recover <;> simp [hk, hr] at ht
    next l =>
    cases ha : l k with
    | fails => simp [resolveUncertainOutcome, ha] at ht
    | answers a =>
      cases hl : s.landed k with
      | some _ =>
        simp [resolveUncertainOutcome, ha, hl] at ht
        exact .inr (by rw [ht])
      | none =>
        rcases a with _ | c | c <;> simp [resolveUncertainOutcome, ha, hl] at ht

theorem runFrom_ends (r a : Nat) (hs : 0 < r) (hc : a + r = maximumAttempts + 1) : ∃ o n,
    s.runFrom maximumAttempts r a = ⟨o, n⟩ ∧ a ≤ n ∧
    n ≤ maximumAttempts ∧ (∀ j, a ≤ j → j < n → s.GoesOn j) ∧
    s.turn maximumAttempts n = some o := by
  induction r generalizing a with
  | zero => omega
  | succ r ih =>
    cases ht : s.turn maximumAttempts a with
    | some o =>
      exact ⟨o, a, by simp [runFrom, ht], le_refl _, by omega, fun j _ _ => by omega, ht⟩
    | none =>
      obtain ⟨hg, hn⟩ := turn_none_iff.mp ht
      obtain ⟨o, n, ran, hl, hw, hbe, he⟩ := ih (a + 1) (by omega) (by omega)
      refine ⟨o, n, by simp [runFrom, ht, ran], by omega, hw, ?_, he⟩
      intro j hf hb
      rcases Nat.eq_or_lt_of_le hf with rfl | ha
      · exact hg
      · exact hbe j ha hb

/-- A run of at least one attempt ends at an attempt all earlier ones went on to. -/
theorem run_ends (hp : 0 < maximumAttempts) : ∃ o n,
    s.run maximumAttempts = ⟨o, n⟩ ∧ 1 ≤ n ∧ n ≤ maximumAttempts ∧ s.Reached n ∧
    s.turn maximumAttempts n = some o :=
  runFrom_ends maximumAttempts 1 hp (by omega)

theorem attempts_of_reached (hfi : 1 ≤ k) (hw : k ≤ maximumAttempts)
    (hr : s.Reached k) : k ≤ (s.run maximumAttempts).attempts := by
  obtain ⟨o, n, ran, hf, _, _, he⟩ := run_ends (by omega : 0 < maximumAttempts)
  rw [ran]
  by_contra hb
  rw [turn_none_iff.mpr ⟨hr n hf (by simpa using hb), by grind⟩] at he
  cases he

theorem run_of_turn {o : RetryOutcome T} (hf : 1 ≤ k) (hw : k ≤ maximumAttempts)
    (hr : s.Reached k) (ht : s.turn maximumAttempts k = some o) :
    s.run maximumAttempts = ⟨o, k⟩ := by
  have hc := attempts_of_reached hf hw hr
  obtain ⟨o', n, ran, _, _, hb, hen⟩ := run_ends (by omega : 0 < maximumAttempts)
  rw [ran] at hc ⊢
  rcases Nat.eq_or_lt_of_le hc with rfl | he
  · rw [ht] at hen
    cases hen
    rfl
  · rw [turn_none_iff.mpr ⟨hb k hf he, by simp at he; omega⟩] at ht
    cases ht

end Loop

/-! ## When a run is sound -/

variable {s} {maximumAttempts : Nat}

theorem Sound.spared (hs : s.Sound maximumAttempts) : s.Spared maximumAttempts where
  noLifecycleError k c hf hw hr hrs := by
    have hc := attempts_of_reached hf hw hr
    have hra := hs.lookupErrorRaised k _ hf hc hrs
    rw [run_of_turn hf hw hr (turn_of_lookupRaises hrs)] at hra
    cases hra
  noLateCommit j k hf hb hw hr hl := by
    obtain ⟨result, d, hco⟩ := hl
    have hc := attempts_of_reached (by omega) hw hr
    refine ⟨fun he => hs.committedOnce j k hf he hc (by simp [hco]), ?_⟩
    intro hre
    obtain ⟨error, ht, hd⟩ := turn_of_refused hre
    have ran := run_of_turn (by omega) hw hr ht
    have hu := hs.definiteUncommitted error (by rw [ran]) hd j hf (by rw [ran]; exact hb)
    simp [hu] at hco

theorem Spared.sound (hs : s.Spared maximumAttempts) : s.Sound maximumAttempts := by
  rcases Nat.eq_zero_or_pos maximumAttempts with rfl | hp
  · constructor <;> simp [run, runFrom] <;> omega
  obtain ⟨o, n, ran, hfr, hw, hr, hen⟩ := run_ends hp
  have he : ∀ j, 1 ≤ j → j < n → s.commitOf j ≠ none → s.LandsLate j :=
    fun j hf hb => late_of_goesOn hf (hr j hf hb)
  constructor
  · rw [ran]
    intro j k hf hb hu hc
    have hl := he j hf (by simp at hu; omega) (Option.isSome_iff_ne_none.mp hc)
    exact (hs.noLateCommit j k hf (by omega) (by simp at hu; omega)
      (fun i hfi hbe => hr i hfi (by simp at hu; omega)) hl).1 hb
  · rw [ran]
    rintro result rfl
    rcases returned_landed hen with hc | hfo
    · exact ⟨n, 0, hfr, le_refl _, hc⟩
    · obtain ⟨j, d, hf, hu, hc⟩ := landed_committed hfo
      exact ⟨j, d, hf, hu, hc⟩
  · rw [ran]
    rintro error rfl hd k hf hu
    by_contra hc
    obtain ⟨hrd, own⟩ := refused_of_turn hfr hen hd
    have hl : s.LandsLate k := by
      rcases Nat.eq_or_lt_of_le hu with rfl | hb
      · exact own hc
      · exact he k hf hb hc
    exact (hs.noLateCommit k n hf hu hw hr hl).2 hrd
  · rw [ran]
    intro k error hf hu hra
    rcases Nat.eq_or_lt_of_le hu with rfl | hb
    · have ht : s.turn maximumAttempts k = _ := turn_of_lookupRaises hra
      cases error with
      | application c => simpa [hen] using ht
      | lifecycle c => exact absurd hra (hs.noLifecycleError _ c hfr hw hr)
    · obtain ⟨cause, hfs, hk⟩ := hr k hf hb
      obtain ⟨⟨_, hfa, hlo⟩, ⟨l, hre, ha⟩, _⟩ := hra
      rw [hfs] at hfa
      cases hfa
      rcases hk with hk | ⟨_, _, _, hr', ha'⟩
      · simp [hlo] at hk
      · rw [hre] at hr'
        cases hr'
        simp [ha] at ha'

/-- A run under the policy keeps its four promises exactly when no attempt it reaches meets the
late commit of another and no lookup raises a lifecycle error. -/
theorem retry_sound_iff (s : RetrySchedule T) (maximumAttempts : Nat) :
    s.Sound maximumAttempts ↔ s.Spared maximumAttempts :=
  ⟨Sound.spared, Spared.sound⟩

end RetrySchedule

/-! ## A masked error and a late commit -/

/-- The connection is lost at the first attempt, and its lookup finds the identity misused. -/
def misusedIdentity : RetrySchedule Nat where
  attempts _ := .lost ⟨⟨none, none, .connection⟩, by decide⟩ none 0
  recover := some fun _ => .answers (some (.lifecycle .locatorConflict))

/-- The connection is lost twice; the first commit lands after the lookup that missed it. -/
def lateCommit : RetrySchedule Nat where
  attempts attempt :=
    if attempt = 1 then .lost ⟨⟨none, some "08006", .connection⟩, by decide⟩ (some 1) 1
    else .acknowledged 2
  recover := some fun _ => .answers none

/-- The caller of the first run is not told of the misuse; the effect of the second is committed
twice. -/
theorem masked_error_and_late_commit :
    ¬ misusedIdentity.Sound maximumAttempts ∧ ¬ lateCommit.Sound maximumAttempts := by
  refine ⟨fun hs => ?_, fun hs => ?_⟩
  · have hr := hs.lookupErrorRaised 1 _ (le_refl _) (by decide)
      ⟨⟨_, rfl, by decide⟩, ⟨_, rfl, rfl⟩, rfl⟩
    cases hr
  · have ho := hs.committedOnce 1 2 (le_refl _) (by decide) (by decide) rfl
    cases ho

end PersonalOs.SourceStore
