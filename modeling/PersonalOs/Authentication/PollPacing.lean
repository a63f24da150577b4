import PersonalOs.Authentication.LoginThrottle

/-!
# Poll pacing

The grant-poll bucket of one polling credential and the clients that poll with it. A poll reads the
bucket's row without a lock, decides on what it read and writes the row afterwards: it opens a
window of five seconds, or doubles the interval of the window that stands, up to a minute from its
start. A poll inside the window is told to wait for the end of the interval it found; the row it
leaves behind holds the doubled one. The clients interleave at the statements.
-/

namespace PersonalOs.Authentication.PollPacing

open LoginThrottle (ThrottleBucketState)

/-! ## The pacing transaction -/

/-- Moments are counted in microseconds, as the database's timestamps are. -/
def second : Nat := 1000000

def grantPollBaseIntervalSeconds : Nat := 5

def grantPollMaximumIntervalSeconds : Nat := 60

/-- The seconds from the start of a window to its deadline. -/
def intervalSeconds (level : Nat) : Nat :=
  min (grantPollBaseIntervalSeconds * 2 ^ level) grantPollMaximumIntervalSeconds

def openedWindow (databaseNow : Nat) : ThrottleBucketState :=
  ⟨databaseNow, 0, some (databaseNow + grantPollBaseIntervalSeconds * second)⟩

/-- The row a too-fast poll leaves for the one it read. -/
def doubledWindow (state : ThrottleBucketState) : ThrottleBucketState :=
  ⟨state.windowStartedAt, state.failedAttemptCount + 1,
    some (state.windowStartedAt + intervalSeconds (state.failedAttemptCount + 1) * second)⟩

/-- Whole seconds, rounded up. -/
def ceilSeconds (duration : Nat) : Nat := (duration + (second - 1)) / second

/-- What a poll decides on the row it has read: the row it writes, and the seconds to wait where it
comes too fast. -/
def paced (state : ThrottleBucketState) (databaseNow : Nat) : ThrottleBucketState × Option Nat :=
  match state.lockedUntil with
  | none => (openedWindow databaseNow, none)
  | some lockedUntil =>
    if lockedUntil ≤ databaseNow then (openedWindow databaseNow, none)
    else (doubledWindow state, some (max 1 (ceilSeconds (lockedUntil - databaseNow))))

/-! ## Clients -/

/-- The answer of a too-fast poll: its moment, the row it had read and the wait it was told. -/
structure SlowDown where
  moment : Nat
  state : ThrottleBucketState
  retryAfterSeconds : Nat
deriving DecidableEq

/-- A poll reads the clock first, then the row. -/
inductive PollStage
  | idle
  | started (databaseNow : Nat)
  | selected (databaseNow : Nat) (state : Option ThrottleBucketState)
deriving DecidableEq

/-- A client and the too-fast answer its last poll ended with, if it did. -/
structure PollClient where
  stage : PollStage
  told : Option SlowDown
deriving DecidableEq

/-- A recorded poll: what its client had been told before, what it is told, and the levels of the
row before and after. -/
structure RecordedPoll where
  told : Option SlowDown
  moment : Nat
  retryAfterSeconds : Option Nat
  levelBefore : Nat
  levelAfter : Nat
deriving DecidableEq

/-- The clock, the bucket's row, the clients, the polls recorded so far, newest first, and who
recorded the newest. -/
structure PacingWorld where
  now : Nat
  bucket : Option ThrottleBucketState
  clients : List PollClient
  recorded : List RecordedPoll
  recorder : Option Nat
deriving DecidableEq

inductive PollAction
  | tick (elapsed : Nat)
  /-- A client appears. -/
  | join
  /-- The clock is read for a poll of client `i`. -/
  | start (i : Nat)
  /-- The row is read; a poll that lost the first insert reads it again. -/
  | select (i : Nat)
  /-- The row is written and the transaction commits; the answer may be lost. -/
  | record (i : Nat) (lost : Bool)
  /-- The transaction rolls back and is tried again, or the poll ends with no answer. -/
  | rollback (i : Nat) (retried : Bool)
deriving DecidableEq

namespace PacingWorld

variable (w : PacingWorld)

def setClient (i : Nat) (client : PollClient) : PacingWorld :=
  { w with clients := w.clients.set i client }

/-- The level of the row, before there is one too. -/
def level : Nat := (w.bucket.map (·.failedAttemptCount)).getD 0

/-- A poll of client `i` writes its row. -/
def write (i : Nat) (client : PollClient) (databaseNow : Nat) (row : ThrottleBucketState)
    (told : Option SlowDown) (lost : Bool) : PacingWorld :=
  { w with
    bucket := some row
    clients := w.clients.set i ⟨.idle, if lost then none else told⟩
    recorded := ⟨client.told, databaseNow, told.map (·.retryAfterSeconds), w.level,
      row.failedAttemptCount⟩ :: w.recorded
    recorder := some i }

/-- The statements of `pace_grant_poll`, one step each. -/
def step (w : PacingWorld) : PollAction → Option PacingWorld
  | .tick elapsed => some { w with now := w.now + elapsed }
  | .join => some { w with clients := w.clients ++ [⟨.idle, none⟩] }
  | .start i =>
    match w.clients[i]? with
    | some ⟨.idle, told⟩ => some (w.setClient i ⟨.started w.now, told⟩)
    | _ => none
  | .select i =>
    match w.clients[i]? with
    | some ⟨.started databaseNow, told⟩ =>
      some (w.setClient i ⟨.selected databaseNow w.bucket, told⟩)
    | _ => none
  | .record i lost =>
    match w.clients[i]? with
    | some ⟨.selected databaseNow none, told⟩ =>
      match w.bucket with
      | none =>
        some (w.write i ⟨.selected databaseNow none, told⟩ databaseNow (openedWindow databaseNow)
          none lost)
      | some _ => some (w.setClient i ⟨.started databaseNow, told⟩)
    | some ⟨.selected databaseNow (some state), told⟩ =>
      let (row, retryAfter) := paced state databaseNow
      some (w.write i ⟨.selected databaseNow (some state), told⟩ databaseNow row
        (retryAfter.map fun seconds => ⟨databaseNow, state, seconds⟩) lost)
    | _ => none
  | .rollback i retried =>
    match w.clients[i]? with
    | some ⟨.started databaseNow, told⟩ | some ⟨.selected databaseNow _, told⟩ =>
      some (w.setClient i (if retried then ⟨.started databaseNow, told⟩ else ⟨.idle, none⟩))
    | _ => none

def initial : PacingWorld := ⟨0, none, [], [], none⟩

end PacingWorld

/-- A row holds the deadline its level gives. -/
def Anchored (state : ThrottleBucketState) : Prop :=
  state.lockedUntil =
    some (state.windowStartedAt + intervalSeconds state.failedAttemptCount * second)

/-- An answer as the transaction gives it. -/
structure SlowDown.Sound (told : SlowDown) : Prop where
  anchored : Anchored told.state
  tooFast : told.moment <
    told.state.windowStartedAt + intervalSeconds told.state.failedAttemptCount * second
  hinted : told.retryAfterSeconds = max 1 (ceilSeconds (told.state.windowStartedAt +
    intervalSeconds told.state.failedAttemptCount * second - told.moment))

section Hints

variable {state : ThrottleBucketState} {told : SlowDown} {t : Nat}

theorem ceilSeconds_covers (d : Nat) : d ≤ ceilSeconds d * second := by
  unfold ceilSeconds second
  omega

theorem ceilSeconds_tight (d : Nat) : ceilSeconds d * second < d + second := by
  unfold ceilSeconds second
  omega

theorem ceilSeconds_mono {s l : Nat} (le : s ≤ l) : ceilSeconds s ≤ ceilSeconds l :=
  Nat.div_le_div_right (Nat.add_le_add_right le _)

/-- Below the cap a too-fast poll moves the deadline by at least five seconds, at the cap not at
all. -/
theorem interval_grows (l : Nat) : (l < 4 ∧ intervalSeconds l + 5 ≤ intervalSeconds (l + 1)) ∨
      (4 ≤ l ∧ intervalSeconds l = 60 ∧ intervalSeconds (l + 1) = 60) := by
  have hc (l : Nat) (hh : 4 ≤ l) : intervalSeconds l = 60 := by
    have hl : 2 ^ 4 ≤ 2 ^ l := Nat.pow_le_pow_right (by decide) hh
    unfold intervalSeconds grantPollBaseIntervalSeconds grantPollMaximumIntervalSeconds
    omega
  rcases Nat.lt_or_ge l 4 with low | hh
  · refine .inl ⟨low, ?_⟩
    interval_cases l <;> decide
  · exact .inr ⟨hh, hc l hh, hc (l + 1) (by omega)⟩

theorem anchored_opened (t : Nat) : Anchored (openedWindow t) := rfl

theorem anchored_doubled (state : ThrottleBucketState) : Anchored (doubledWindow state) := rfl

theorem Anchored.any (ha : Anchored state) (p : Nat → Bool) : state.lockedUntil.any p =
      p (state.windowStartedAt + intervalSeconds state.failedAttemptCount * second) := by
  rw [show state.lockedUntil = _ from ha]
  rfl

theorem paced_cases (ha : Anchored state) (t : Nat) :
    (state.windowStartedAt + intervalSeconds state.failedAttemptCount * second ≤ t ∧
      paced state t = (openedWindow t, none)) ∨
    ∃ told : SlowDown, told.Sound ∧ told.moment = t ∧ told.state = state ∧
      paced state t = (doubledWindow state, some told.retryAfterSeconds) := by
  unfold paced
  rw [show state.lockedUntil = _ from ha]
  by_cases hp : state.windowStartedAt + intervalSeconds state.failedAttemptCount * second ≤ t
  · exact .inl ⟨hp, by simp [hp]⟩
  · refine .inr ⟨⟨t, state, max 1 (ceilSeconds (state.windowStartedAt +
      intervalSeconds state.failedAttemptCount * second - t))⟩,
      ⟨ha, Nat.lt_of_not_le hp, rfl⟩, rfl, rfl, by simp [hp]⟩

theorem SlowDown.Sound.reaches (hs : told.Sound) :
    told.state.windowStartedAt + intervalSeconds told.state.failedAttemptCount * second ≤
        told.moment + told.retryAfterSeconds * second ∧
      told.moment + told.retryAfterSeconds * second <
        told.state.windowStartedAt + intervalSeconds told.state.failedAttemptCount * second +
          second := by
  have ht := hs.tooFast
  rw [hs.hinted]
  generalize told.state.windowStartedAt + intervalSeconds told.state.failedAttemptCount * second =
    d at ht ⊢
  have hc := ceilSeconds_covers (d - told.moment)
  have hti := ceilSeconds_tight (d - told.moment)
  have hp : 1 ≤ ceilSeconds (d - told.moment) := by
    by_contra hn
    rw [Nat.lt_one_iff.mp (Nat.lt_of_not_le hn), Nat.zero_mul] at hc
    omega
  rw [Nat.max_eq_right hp]
  constructor <;> omega

end Hints

/-! ## What pacing promises -/

/-- A client that has waited out its hint is admitted, a hint is never shorter than the one before
it, and a too-fast poll raises the level. -/
structure Honoured (poll : RecordedPoll) : Prop where
  admitted : ∀ told, poll.told = some told →
    told.moment + told.retryAfterSeconds * second ≤ poll.moment → poll.retryAfterSeconds = none
  grows : ∀ told seconds, poll.told = some told → poll.retryAfterSeconds = some seconds →
    told.retryAfterSeconds ≤ seconds
  raises : ∀ seconds, poll.retryAfterSeconds = some seconds → poll.levelBefore < poll.levelAfter

/-- A client that has waited out its hint was the last to be recorded and had met the interval at
its cap, or comes no sooner than the deadline its own poll left; one that comes too fast again was
the last to be recorded, and comes no later after its last poll than that one moved the deadline. A
too-fast poll is recorded while the level is not above the one it read. -/
def honours (w : PacingWorld) : PollAction → Bool
  | .select i =>
    match w.clients[i]?, w.bucket with
    | some ⟨.started t, some told⟩, some row =>
      let level := told.state.failedAttemptCount
      (told.moment + told.retryAfterSeconds * second ≤ t → w.recorder = some i ∧
        (4 ≤ level ∨ told.state.windowStartedAt + intervalSeconds (level + 1) * second ≤ t)) ∧
      (row.lockedUntil.any (t < ·) → w.recorder = some i ∧
        t + intervalSeconds level * second ≤ told.moment + intervalSeconds (level + 1) * second)
    | _, _ => true
  | .record i _ =>
    match w.clients[i]? with
    | some ⟨.selected t (some state), _⟩ =>
      state.lockedUntil.any (t < ·) → w.level ≤ state.failedAttemptCount
    | _ => true
  | _ => true

/-! ## The step -/

/-- What the condition on a select makes of the decision that follows. -/
structure Decided (told : SlowDown) (t : Nat) (state : ThrottleBucketState) : Prop where
  admitted : told.moment + told.retryAfterSeconds * second ≤ t → (paced state t).2 = none
  grows : ∀ seconds, (paced state t).2 = some seconds → told.retryAfterSeconds ≤ seconds

structure ClientSound (w : PacingWorld) (i : Nat) (client : PollClient) : Prop where
  told : ∀ told, client.told = some told →
    told.Sound ∧ (w.recorder = some i → w.bucket = some (doubledWindow told.state))
  seen : ∀ t state, client.stage = .selected t (some state) →
    Anchored state ∧ ∀ told, client.told = some told → Decided told t state

structure WorldSound (w : PacingWorld) : Prop where
  anchored : ∀ row, w.bucket = some row → Anchored row
  clients : ∀ i client, w.clients[i]? = some client → ClientSound w i client
  recorded : ∀ poll ∈ w.recorded, Honoured poll

section Steps

variable {w w' : PacingWorld} {i t : Nat} {client hc' : PollClient}

/-- On the row its own too-fast poll left, a client meets the deadline that poll set. -/
theorem decided_own {told : SlowDown} (hso : told.Sound)
    (hwa : told.moment + told.retryAfterSeconds * second ≤ t →
      4 ≤ told.state.failedAttemptCount ∨ told.state.windowStartedAt +
        intervalSeconds (told.state.failedAttemptCount + 1) * second ≤ t)
    (hhu : (doubledWindow told.state).lockedUntil.any (t < ·) = true →
      t + intervalSeconds told.state.failedAttemptCount * second ≤
        told.moment + intervalSeconds (told.state.failedAttemptCount + 1) * second) :
    Decided told t (doubledWindow told.state) := by
  have hr := hso.reaches.1
  rcases paced_cases (anchored_doubled told.state) t with
    ⟨hp, hd⟩ | ⟨a, ha, rfl, hst, hd⟩
  · exact ⟨fun _ => by rw [hd], by simp [hd]⟩
  · have ht := ha.tooFast
    have hh := ha.hinted
    rw [hst] at ht hh
    simp only [doubledWindow] at ht hh
    refine ⟨fun hw => ?_, fun s hs => ?_⟩
    · rcases hwa hw with hhi | hp
      · rcases interval_grows told.state.failedAttemptCount with ⟨low, -⟩ | ⟨-, hhe, hn⟩
        · omega
        · rw [hhe] at hr
          rw [hn] at ht
          exact absurd (hr.trans hw) (Nat.not_le.mpr ht)
      · exact absurd hp (Nat.not_le.mpr ht)
    · have he := hhu (by
        rw [(anchored_doubled told.state).any]
        exact decide_eq_true ht)
      rw [hd] at hs
      obtain rfl := Option.some.inj hs
      rw [hh, hso.hinted]
      exact max_le_max le_rfl (ceilSeconds_mono (by omega))

theorem WorldSound.setClient (hs : WorldSound w) (new : ClientSound w i hc') :
    WorldSound (w.setClient i hc') where
  anchored := hs.anchored
  clients j o hc := by
    rw [PacingWorld.setClient, List.getElem?_set] at hc
    split at hc
    next he =>
      subst he
      split at hc <;> cases hc
      exact ⟨new.told, new.seen⟩
    next =>
      have hb := hs.clients j o hc
      exact ⟨hb.told, hb.seen⟩
  recorded := hs.recorded

theorem WorldSound.write {row : ThrottleBucketState} {told : Option SlowDown} {l : Bool}
    (hs : WorldSound w) (han : Anchored row)
    (hl : ∀ an, told = some an → an.Sound ∧ row = doubledWindow an.state)
    (hh : Honoured ⟨client.told, t, told.map (·.retryAfterSeconds), w.level,
      row.failedAttemptCount⟩) : WorldSound (w.write i client t row told l) where
  anchored := by
    rintro _ ⟨⟩
    exact han
  clients j o hc := by
    rw [PacingWorld.write, List.getElem?_set] at hc
    split at hc
    next he =>
      subst he
      split at hc <;> cases hc
      refine ⟨fun an ht => ?_, nofun⟩
      have har : told = some an := by
        cases l with
        | true => cases ht
        | false => exact ht
      obtain ⟨ha, rfl⟩ := hl an har
      exact ⟨ha, fun _ => rfl⟩
    next hap =>
      have hb := hs.clients j o hc
      exact ⟨fun an ht => ⟨(hb.told an ht).1, fun hr =>
        absurd (Option.some.inj hr) hap⟩, hb.seen⟩
  recorded := by
    rw [PacingWorld.write, List.forall_mem_cons]
    exact ⟨hh, hs.recorded⟩

theorem WorldSound.select (hs : WorldSound w) {told : Option SlowDown}
    (hcl : w.clients[i]? = some ⟨.started t, told⟩)
    (hc : honours w (.select i) = true) :
    ClientSound w i ⟨.selected t w.bucket, told⟩ := by
  have hb := hs.clients i _ hcl
  refine ⟨hb.told, fun t' state hst => ?_⟩
  obtain ⟨rfl, hro⟩ := PollStage.selected.inj hst
  refine ⟨hs.anchored state hro, fun an hto => ?_⟩
  cases hto
  obtain ⟨ha, hl⟩ := hb.told an rfl
  simp only [honours, hcl, hro, decide_eq_true_eq] at hc
  obtain ⟨hwa, hh⟩ := hc
  by_cases hr : w.recorder = some i
  · cases hro.symm.trans (hl hr)
    exact decided_own ha (fun hw => (hwa hw).2) (fun ht => (hh ht).2)
  -- another client was recorded last: the poll has not waited and does not come too fast
  · rcases paced_cases (hs.anchored state hro) t with
      ⟨hp, hd⟩ | ⟨a, hag, rfl, hse, hd⟩
    · exact ⟨fun _ => by rw [hd], by simp [hd]⟩
    · have ht : state.lockedUntil.any (a.moment < ·) = true := by
        have he := hag.tooFast
        rw [hse] at he
        rw [(hs.anchored state hro).any]
        exact decide_eq_true he
      exact absurd (hh ht).1 hr

theorem WorldSound.step {a : PollAction} (hs : WorldSound w) (hco : honours w a = true)
    (hv : w.step a = some w') : WorldSound w' := by
  cases a with
  | tick e =>
    cases hv
    exact ⟨hs.anchored, fun i client hc =>
      ⟨(hs.clients i client hc).told, (hs.clients i client hc).seen⟩,
      hs.recorded⟩
  | join =>
    cases hv
    refine ⟨hs.anchored, fun i client hc => ?_, hs.recorded⟩
    rw [List.getElem?_append] at hc
    split at hc
    · exact ⟨(hs.clients i client hc).told, (hs.clients i client hc).seen⟩
    · cases List.mem_singleton.mp (List.mem_of_getElem? hc)
      exact ⟨nofun, nofun⟩
  | start i =>
    simp only [PacingWorld.step] at hv
    split at hv <;> cases hv
    next told hc =>
    exact hs.setClient ⟨(hs.clients i _ hc).told, nofun⟩
  | select i =>
    simp only [PacingWorld.step] at hv
    split at hv <;> cases hv
    next hc => exact hs.setClient (hs.select hc hco)
  | record i l =>
    simp only [PacingWorld.step] at hv
    split at hv
    -- the first insert: it opens a window, or another's row was there first
    next t told hc =>
      split at hv <;> cases hv
      · exact hs.write (anchored_opened t) nofun ⟨by simp, by simp, by simp⟩
      · exact hs.setClient ⟨(hs.clients i _ hc).told, nofun⟩
    next t state told hc =>
      obtain ⟨ha, hde⟩ := (hs.clients i _ hc).seen t state rfl
      rcases paced_cases ha t with
        ⟨hp, hd⟩ | ⟨⟨t, state, h⟩, ⟨-, hto, hh⟩, rfl, rfl, hd⟩
      · rw [hd] at hv
        cases hv
        exact hs.write (anchored_opened t) nofun ⟨by simp, by simp, by simp⟩
      · have own : w.level ≤ state.failedAttemptCount := by
          simp only [honours, hc, decide_eq_true_eq] at hco
          exact hco (by
            rw [Anchored.any ha]
            exact decide_eq_true hto)
        rw [hd] at hv
        cases hv
        refine hs.write (anchored_doubled state) ?_ ⟨?_, ?_, ?_⟩
        · rintro _ ⟨⟩
          exact ⟨⟨ha, hto, hh⟩, rfl⟩
        · intro an ht hw
          exact nomatch hd ▸ (hde an ht).admitted hw
        · rintro an s ht ⟨⟩
          exact (hde an ht).grows _ (by rw [hd])
        · intro s _
          exact Nat.lt_succ_of_le own
    · cases hv
  | rollback i r =>
    simp only [PacingWorld.step] at hv
    split at hv <;> cases hv
    all_goals
      next hc =>
      have hb := (hs.clients i _ hc).told
      cases r with
      | true => exact hs.setClient ⟨hb, nofun⟩
      | false => exact hs.setClient ⟨nofun, nofun⟩

end Steps

/-! ## Runs -/

/-- One poll, from the clock to the commit. -/
def poll (i : Nat) : List PollAction := [.start i, .select i, .record i false]

end PersonalOs.Authentication.PollPacing
