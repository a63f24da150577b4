import PersonalOs.Journal.QueueDriver

/-!
# Passes of the queue driver that overlap

`requestPass`, `runPass` and `stop` in `queue-driver.ts` over the members they share: the stop flag,
the running flag, the controller and the start of the active pass. A pass whose await does not settle
is recovered by a later trigger and stays suspended; the `finally` block of every pass clears the
running flag.
-/

namespace PersonalOs.Journal

open QueueDriver

structure StartedPass where
  passDeadlineEpochMs : Nat
  run : PassRun

/-- The members of the driver, the clock and the passes it has started. `isRecovered` marks the
passes that a stall recovery has aborted; `lateCalls` is what a pass called after its recovery or
after `stop()`. -/
structure DriverWorld where
  nowEpochMs : Nat
  isStopped : Bool
  isPassRunning : Bool
  activePassController : Option Nat
  passStartedAtEpochMs : Option Nat
  passes : List StartedPass
  isRecovered : Nat → Bool
  lateCalls : List (Nat × DriverCall)

/-- What a resumption finds of the rest of the plugin. -/
structure PassView where
  isOutboundDispatchPaused : Bool
  journal : JournalRepository

/-- One step: a trigger, the clock, the unload, a settled await, or calls of a lane inside its
await. -/
inductive DriverAction
  | requestPass (view : PassView)
  | advance (elapsedMs : Nat)
  | stop
  | settle (pass : Nat) (settled : PassSettled) (view : PassView)
  | laneCalls (pass : Nat) (calls : List DriverCall)

section Driver

variable (passDeadlineMs : Nat) (hasLifecycleDriver : Bool)

namespace DriverWorld

variable (world : DriverWorld)

/-- What a resumption reads. -/
def environment (passDeadlineEpochMs : Nat) (view : PassView) : PassEnvironment where
  passDeadlineEpochMs := passDeadlineEpochMs
  nowEpochMs := world.nowEpochMs
  isStopped := world.isStopped
  hasLifecycleDriver := hasLifecycleDriver
  isOutboundDispatchPaused := view.isOutboundDispatchPaused
  journal := view.journal

/-- The `finally` block of a pass. -/
def endPass (pass : Nat) : DriverWorld :=
  { world with
    activePassController :=
      if world.activePassController = some pass then none else world.activePassController
    passStartedAtEpochMs :=
      if world.activePassController = some pass then none else world.passStartedAtEpochMs
    isPassRunning := false }

def put (pass : Nat) (next : StartedPass) : DriverWorld :=
  let moved := { world with passes := world.passes.set pass next }
  if next.run.point.isNone then moved.endPass pass else moved

def isLate (pass : Nat) : Bool := world.isStopped || world.isRecovered pass

def record (pass : Nat) (calls : List DriverCall) : DriverWorld :=
  if world.isLate pass then
    { world with lateCalls := world.lateCalls ++ calls.map fun call => (pass, call) }
  else world

def freshRun : PassRun where
  hasRefreshed := false
  requiresLogin := false
  processedEventCount := 0
  point := none
  passOutcome := .completed

/-- `runPass`, up to its first await. -/
def runPass (view : PassView) : DriverWorld :=
  let deadline := world.nowEpochMs + passDeadlineMs
  let started := { world with
    isPassRunning := true
    activePassController := some world.passes.length
    passStartedAtEpochMs := some world.nowEpochMs
    passes := world.passes ++ [StartedPass.mk deadline freshRun] }
  let first := passLoop (world.environment hasLifecycleDriver deadline view) freshRun
  started.put world.passes.length { passDeadlineEpochMs := deadline, run := first.1 }

/-- The stall recovery of `requestPass`. -/
def recoverStall : DriverWorld :=
  { world with
    isRecovered := fun pass =>
      world.isRecovered pass || world.activePassController = some pass
    activePassController := none
    passStartedAtEpochMs := none
    isPassRunning := false }

def requestPass (view : PassView) : DriverWorld :=
  if world.isStopped then world
  else if world.isPassRunning then
    match world.passStartedAtEpochMs with
    | none => world
    | some startedAtEpochMs =>
      if world.nowEpochMs - startedAtEpochMs < 2 * passDeadlineMs then world
      else world.recoverStall.runPass passDeadlineMs hasLifecycleDriver view
  else world.runPass passDeadlineMs hasLifecycleDriver view

def settle (pass : Nat) (settled : PassSettled) (view : PassView) : Option DriverWorld :=
  match world.passes[pass]? with
  | none => none
  | some started =>
    match started.run.point with
    | none => none
    | some point =>
      (resume (world.environment hasLifecycleDriver started.passDeadlineEpochMs view) started.run
        point settled).map fun move =>
          (world.record pass move.2).put pass { started with run := move.1 }

/-- The awaits inside which a lane is under way. -/
def isLanePoint : PassPoint → Bool
  | .lifecycleRun _ | .multipartRun _ _ => true
  | _ => false

def isInLane (pass : Nat) : Bool :=
  (world.passes[pass]?.bind fun started => started.run.point).any isLanePoint

def step : DriverAction → Option DriverWorld
  | .requestPass view => some (world.requestPass passDeadlineMs hasLifecycleDriver view)
  | .advance elapsedMs => some { world with nowEpochMs := world.nowEpochMs + elapsedMs }
  | .stop => some { world with isStopped := true }
  | .settle pass settled view => world.settle hasLifecycleDriver pass settled view
  | .laneCalls pass calls => if world.isInLane pass then some (world.record pass calls) else none

/-- A recovered or stopped pass goes on only after a quiet await, its lanes call nothing, and a
recovered pass does not end while the running flag is set. -/
def isHarmless : DriverAction → Bool
  | .settle pass settled view =>
    match world.passes[pass]? with
    | none => true
    | some started =>
      match started.run.point with
      | none => true
      | some point =>
        !world.isLate pass ||
          isQuiet (world.environment hasLifecycleDriver started.passDeadlineEpochMs view)
              started.run point settled &&
            (world.isStopped || !world.isRecovered pass || !world.isPassRunning ||
              suspends point settled)
  | .laneCalls pass calls => !world.isLate pass || calls.isEmpty
  | _ => true

end DriverWorld

def driverMachine : Machine DriverWorld DriverAction where
  Init := fun world => world.isStopped = false ∧ world.isPassRunning = false ∧
    world.activePassController = none ∧ world.passStartedAtEpochMs = none ∧ world.passes = [] ∧
      (∀ pass, world.isRecovered pass = false) ∧ world.lateCalls = []
  step := fun world => world.step passDeadlineMs hasLifecycleDriver

end Driver

/-! ## One live pass -/

namespace DriverWorld

variable (world : DriverWorld)

/-- A pass is running, and no recovery has aborted it. -/
def IsLive (pass : Nat) : Prop :=
  world.isRecovered pass = false ∧
    ∃ started, world.passes[pass]? = some started ∧ started.run.point ≠ none

/-- At most one pass is live, and what is recovered or stopped has called nothing. -/
structure OnePass : Prop where
  unique : ∀ first second, world.IsLive first → world.IsLive second → first = second
  silent : world.lateCalls = []

/-- The recovered passes are known, and past their deadlines. -/
structure RecoveredExpired : Prop where
  known : ∀ pass, world.isRecovered pass = true → pass < world.passes.length
  expired : ∀ pass started, world.isRecovered pass = true → world.passes[pass]? = some started →
    started.passDeadlineEpochMs ≤ world.nowEpochMs

/-- The controller and the start belong to a live pass. -/
def ActiveIsLive (passDeadlineMs : Nat) : Prop :=
  ∃ pass started startedAtEpochMs, world.activePassController = some pass ∧
    world.isRecovered pass = false ∧ world.passes[pass]? = some started ∧
    started.run.point ≠ none ∧ world.passStartedAtEpochMs = some startedAtEpochMs ∧
    startedAtEpochMs ≤ world.nowEpochMs ∧
    started.passDeadlineEpochMs = startedAtEpochMs + passDeadlineMs

/-- The members of the driver agree with its passes; the flags count while it is not stopped. -/
structure Coherent (passDeadlineMs : Nat) : Prop extends world.OnePass, world.RecoveredExpired where
  idle : world.isStopped = false → world.isPassRunning = false → ∀ pass, ¬ world.IsLive pass
  active : world.isStopped = false → world.isPassRunning = true →
    world.ActiveIsLive passDeadlineMs

end DriverWorld

namespace PassRunsLemmas

variable {world w' : DriverWorld} {passDeadlineMs : Nat} {hasLifecycleDriver : Bool}
  {pass : Nat} {started next : StartedPass}

theorem live_of_set (hp : world.passes[pass]? = some started)
    (hwa : started.run.point ≠ none) {o : Nat}
    (hl : { world with passes := world.passes.set pass next }.IsLive o) :
    world.IsLive o := by
  obtain ⟨hu, r, hr, hw⟩ := hl
  refine ⟨hu, ?_⟩
  by_cases he : pass = o
  · subst he
    exact ⟨started, hp, hwa⟩
  · change (world.passes.set pass next)[o]? = some r at hr
    rw [List.getElem?_set_ne he] at hr
    exact ⟨r, hr, hw⟩

theorem getElem?_set_of_some (hp : world.passes[pass]? = some started) :
    (world.passes.set pass next)[pass]? = some next := by
  obtain ⟨hi, _⟩ := List.getElem?_eq_some_iff.mp hp
  rw [List.getElem?_set_self hi]

theorem expired_set (he : world.RecoveredExpired) (hp : world.passes[pass]? = some started)
    (hd : next.passDeadlineEpochMs = started.passDeadlineEpochMs) :
    { world with passes := world.passes.set pass next }.RecoveredExpired := by
  refine ⟨fun o hre => ?_, fun o r hre hr => ?_⟩
  · change o < (world.passes.set pass next).length
    rw [List.length_set]
    exact he.known o hre
  · change (world.passes.set pass next)[o]? = some r at hr
    by_cases hs : pass = o
    · subst hs
      rw [getElem?_set_of_some hp, Option.some.injEq] at hr
      rw [← hr, hd]
      exact he.expired pass started hre hp
    · rw [List.getElem?_set_ne hs] at hr
      exact he.expired o r hre hr

theorem coherent_await (hc : world.Coherent passDeadlineMs)
    (hp : world.passes[pass]? = some started) (hw : started.run.point ≠ none)
    (hwa : next.run.point ≠ none)
    (hde : next.passDeadlineEpochMs = started.passDeadlineEpochMs) :
    { world with passes := world.passes.set pass next }.Coherent passDeadlineMs := by
  have hk := expired_set hc.toRecoveredExpired hp hde
  refine ⟨⟨fun x y hf hse => ?_, hc.silent⟩, hk, ?_, ?_⟩
  · exact hc.unique x y (live_of_set hp hw hf) (live_of_set hp hw hse)
  · intro hr hi ot hl
    exact hc.idle hr hi ot (live_of_set hp hw hl)
  · intro hr ha
    obtain ⟨o, ow, sa, hco, hu, ho, how, hs, hpa, hd⟩ := hc.active hr ha
    by_cases he : pass = o
    · subst he
      rw [hp, Option.some.injEq] at ho
      exact ⟨pass, next, sa, hco, hu, getElem?_set_of_some hp, hwa,
        hs, hpa, (hde.trans (ho ▸ rfl)).trans hd⟩
    · refine ⟨o, ow, sa, hco, hu, ?_, how, hs, hpa, hd⟩
      exact (List.getElem?_set_ne he).trans ho

theorem coherent_end (hc : world.Coherent passDeadlineMs)
    (hp : world.passes[pass]? = some started) (hw : started.run.point ≠ none)
    (he : next.run.point = none)
    (hd : next.passDeadlineEpochMs = started.passDeadlineEpochMs)
    (hal : world.isStopped = true ∨ world.isRecovered pass = false ∨ world.isPassRunning = false) :
    ({ world with passes := world.passes.set pass next }.endPass pass).Coherent passDeadlineMs := by
  have hk := expired_set hc.toRecoveredExpired hp hd
  refine ⟨⟨fun x y hf hse => ?_, hc.silent⟩, ⟨hk.known, hk.expired⟩, ?_, ?_⟩
  · exact hc.unique x y (live_of_set hp hw hf) (live_of_set hp hw hse)
  · intro hru _ o hl
    have hb : world.IsLive o := live_of_set hp hw hl
    rcases hal with hs | hu | hi
    · have hru : world.isStopped = false := hru
      rw [hru] at hs
      cases hs
    · -- the pass that ends was the live one
      cases hc.unique pass o ⟨hu, started, hp, hw⟩ hb
      obtain ⟨_, r, hr, hwa⟩ := hl
      change (world.passes.set pass next)[pass]? = some r at hr
      rw [getElem?_set_of_some hp, Option.some.injEq] at hr
      exact hwa (hr ▸ he)
    · exact hc.idle hru hi o hb
  · intro _ ha
    cases ha

theorem coherent_put (hc : world.Coherent passDeadlineMs)
    (hp : world.passes[pass]? = some started) (hwa : started.run.point ≠ none)
    (hd : next.passDeadlineEpochMs = started.passDeadlineEpochMs)
    (ha : next.run.point = none → world.isStopped = true ∨ world.isRecovered pass = false ∨
      world.isPassRunning = false) :
    (world.put pass next).Coherent passDeadlineMs := by
  rw [DriverWorld.put]
  split
  next he =>
    have he := Option.isNone_iff_eq_none.mp he
    exact coherent_end hc hp hwa he hd (ha he)
  next hw =>
    refine coherent_await hc hp hwa (fun he => hw ?_) hd
    rw [he]
    rfl

/-! ### Triggers -/

variable {l : DriverWorld}

theorem live_of_snoc {o : Nat} (hp : l.passes = world.passes ++ [next])
    (hre : l.isRecovered = world.isRecovered) (hli : l.IsLive o) :
    world.IsLive o ∨ o = world.passes.length ∧ next.run.point ≠ none := by
  obtain ⟨hu, r, hr, hw⟩ := hli
  rw [hre] at hu
  rw [hp, List.getElem?_append] at hr
  split at hr
  · exact .inl ⟨hu, r, hr, hw⟩
  · next hb =>
    rw [List.getElem?_singleton] at hr
    split at hr
    · next hl =>
      cases hr
      exact .inr ⟨le_antisymm (Nat.sub_eq_zero_iff_le.mp hl) (not_lt.mp hb), hw⟩
    · cases hr

theorem expired_of_snoc (he : world.RecoveredExpired) (hp : l.passes = world.passes ++ [next])
    (hrd : l.isRecovered = world.isRecovered)
    (hc : l.nowEpochMs = world.nowEpochMs) : l.RecoveredExpired := by
  refine ⟨fun o hr => ?_, fun o r hr hre => ?_⟩
  · rw [hrd] at hr
    rw [hp, List.length_append]
    exact Nat.lt_add_right _ (he.known o hr)
  · rw [hrd] at hr
    rw [hp, List.getElem?_append_left (he.known o hr)] at hre
    rw [hc]
    exact he.expired o r hr hre

theorem coherent_of_snoc (he : world.RecoveredExpired) (hn : ∀ pass, ¬ world.IsLive pass)
    (hp : l.passes = world.passes ++ [next])
    (hr : l.isRecovered = world.isRecovered)
    (hc : l.nowEpochMs = world.nowEpochMs) (hsi : l.lateCalls = [])
    (hi : l.isPassRunning = false → next.run.point = none)
    (ha : l.isPassRunning = true → l.ActiveIsLive passDeadlineMs) :
    l.Coherent passDeadlineMs := by
  have hl : ∀ o, l.IsLive o → o = world.passes.length ∧ next.run.point ≠ none :=
    fun o hli => (live_of_snoc hp hr hli).resolve_left (hn o)
  refine ⟨⟨fun x y hf hs => ?_, hsi⟩,
    expired_of_snoc he hp hr hc, fun _ hst o hli => ?_, fun _ => ha⟩
  · exact (hl x hf).1.trans (hl y hs).1.symm
  · exact (hl o hli).2 (hi hst)

theorem coherent_runPass (v : PassView) (hs : world.lateCalls = [])
    (he : world.RecoveredExpired) (hn : ∀ pass, ¬ world.IsLive pass) :
    (world.runPass passDeadlineMs hasLifecycleDriver v).Coherent passDeadlineMs := by
  have hf : world.isRecovered world.passes.length = false := by
    by_contra hr
    exact absurd (he.known _ (Bool.eq_true_of_not_eq_false hr)) (lt_irrefl _)
  rw [DriverWorld.runPass]
  set d := world.nowEpochMs + passDeadlineMs with hd
  set x := (passLoop (world.environment hasLifecycleDriver d v) DriverWorld.freshRun).1
  have hsn : (world.passes ++ [StartedPass.mk d DriverWorld.freshRun]).set
      world.passes.length ⟨d, x⟩ = world.passes ++ [⟨d, x⟩] := by
    rw [List.set_append_right _ _ le_rfl, Nat.sub_self]
    rfl
  rw [DriverWorld.put]
  split
  · next hen =>
    refine coherent_of_snoc he hn hsn rfl rfl hs
      (fun _ => Option.isNone_iff_eq_none.mp hen) (fun ha => ?_)
    cases ha
  · next hw =>
    refine coherent_of_snoc he hn hsn rfl rfl hs (fun hi => ?_) fun _ => ?_
    · cases hi
    · refine ⟨world.passes.length, ⟨d, x⟩, world.nowEpochMs, rfl, hf, ?_,
        fun hen => hw (Option.isNone_iff_eq_none.mpr hen), rfl, le_rfl, hd⟩
      exact (congrArg (·[world.passes.length]?) hsn).trans List.getElem?_concat_length

theorem nothing_of_recovered (hco : world.Coherent passDeadlineMs)
    (hru : world.isStopped = false) (ha : world.isPassRunning = true) (o : Nat) :
    ¬ world.recoverStall.IsLive o := by
  rintro ⟨hun, hr⟩
  obtain ⟨hb, hn⟩ := Bool.or_eq_false_iff.mp hun
  obtain ⟨own, ow, _, hc, hu, ho, hw, _⟩ := hco.active hru ha
  cases hco.unique own o ⟨hu, ow, ho, hw⟩ ⟨hb, hr⟩
  exact of_decide_eq_false hn hc

theorem expired_of_recovered (hc : world.Coherent passDeadlineMs)
    (hru : world.isStopped = false) (ha : world.isPassRunning = true)
    {sa : Nat} (hst : world.passStartedAtEpochMs = some sa)
    (hsd : ¬ world.nowEpochMs - sa < 2 * passDeadlineMs) :
    world.recoverStall.RecoveredExpired := by
  obtain ⟨own, ow, st, hco, _, how, _, hs, hp, hd⟩ := hc.active hru ha
  cases Option.some.inj (hs.symm.trans hst)
  have hov : ow.passDeadlineEpochMs ≤ world.nowEpochMs := by
    rw [hd]
    omega
  have ho : ∀ o, world.recoverStall.isRecovered o = true →
      world.isRecovered o = true ∨ own = o := by
    intro o hr
    rcases Bool.or_eq_true_iff.mp hr with hb | hcs
    · exact .inl hb
    · exact .inr (Option.some.inj (hco.symm.trans (of_decide_eq_true hcs)))
  refine ⟨fun o hr => ?_, fun o r hr hre => ?_⟩
  · rcases ho o hr with hb | rfl
    · exact hc.known o hb
    · exact (List.getElem?_eq_some_iff.mp how).1
  · rcases ho o hr with hb | rfl
    · exact hc.expired o r hb hre
    · cases Option.some.inj (how.symm.trans hre)
      exact hov

theorem coherent_requestPass (v : PassView) (hc : world.Coherent passDeadlineMs) :
    (world.requestPass passDeadlineMs hasLifecycleDriver v).Coherent passDeadlineMs := by
  rw [DriverWorld.requestPass]
  split
  · exact hc
  next hr =>
    have hr := Bool.eq_false_iff.mpr hr
    split
    next ha =>
      split
      · exact hc
      next sa hs =>
        split
        · exact hc
        next hst =>
          exact coherent_runPass v hc.silent (expired_of_recovered hc hr ha hs hst)
            (nothing_of_recovered hc hr ha)
    next hi =>
      exact coherent_runPass v hc.silent hc.toRecoveredExpired
        (hc.idle hr (Bool.eq_false_iff.mpr hi))

/-! ### Settled awaits -/

theorem record_silent {c : List DriverCall}
    (hs : world.isLate pass = true → c = []) : world.record pass c = world := by
  rw [DriverWorld.record]
  split
  next hl =>
    rw [hs hl, List.map_nil, List.append_nil]
  next => rfl

theorem coherent_settle {s : PassSettled} {v : PassView} (hc : world.Coherent passDeadlineMs)
    (hh : world.isHarmless hasLifecycleDriver (.settle pass s v) = true)
    (hv : world.settle hasLifecycleDriver pass s v = some w') :
    w'.Coherent passDeadlineMs := by
  rw [DriverWorld.settle] at hv
  rw [DriverWorld.isHarmless] at hh
  split at hv
  · cases hv
  next started hp =>
    rw [hp] at hh
    dsimp only at hh
    split at hv
    · cases hv
    next p hpo =>
      rw [hpo] at hh
      dsimp only at hh
      obtain ⟨m, hre, rfl⟩ := Option.map_eq_some_iff.mp hv
      have hwa : started.run.point ≠ none := by
        rw [hpo]
        exact Option.some_ne_none _
      have hpa : world.isLate pass = true → IsOver (world.environment hasLifecycleDriver
          started.passDeadlineEpochMs v) := fun hl =>
        (Bool.or_eq_true_iff.mp hl).imp_right fun hr =>
          hc.expired pass started hr hp
      have hq : world.isLate pass = true → _ := fun hl =>
        (Bool.or_eq_true_iff.mp hh).resolve_left fun hf => by
          rw [hl] at hf
          cases hf
      rw [record_silent fun hl =>
        resume_quiet (hpa hl) (Bool.and_eq_true_iff.mp (hq hl)).1 hre]
      refine coherent_put hc hp hwa rfl fun he => ?_
      by_contra ho
      rw [not_or, not_or] at ho
      obtain ⟨hru, hr, ha⟩ := ho
      have hr := Bool.eq_true_of_not_eq_false hr
      have hl : world.isLate pass = true := by
        rw [DriverWorld.isLate, hr, Bool.or_true]
      obtain ⟨hq', hw⟩ := Bool.and_eq_true_iff.mp (hq hl)
      rw [Bool.eq_false_iff.mpr hru, hr, Bool.eq_true_of_not_eq_false ha] at hw
      exact resume_suspends (Bool.eq_false_iff.mpr hru) hq' hw hre he

theorem coherent_later (em : Nat) (hc : world.Coherent passDeadlineMs) :
    { world with nowEpochMs := world.nowEpochMs + em }.Coherent passDeadlineMs := by
  refine ⟨⟨hc.unique, hc.silent⟩, ⟨hc.known, fun o r hre hr =>
    Nat.le_add_right_of_le (hc.expired o r hre hr)⟩, hc.idle,
    fun hru ha => ?_⟩
  obtain ⟨own, ow, sa, hco, hu, ho, hw, hs, hp, hd⟩ := hc.active hru ha
  exact ⟨own, ow, sa, hco, hu, ho, hw, hs, Nat.le_add_right_of_le hp, hd⟩

theorem coherent_stop (hc : world.Coherent passDeadlineMs) :
    { world with isStopped := true }.Coherent passDeadlineMs :=
  ⟨⟨hc.unique, hc.silent⟩, ⟨hc.known, hc.expired⟩, (fun hr => nomatch hr), (fun hr => nomatch hr)⟩

theorem onePass_step {a : DriverAction} (hc : world.Coherent passDeadlineMs)
    (hh : world.isHarmless hasLifecycleDriver a = true)
    (hv : (driverMachine passDeadlineMs hasLifecycleDriver).step world a = some w') :
    w'.Coherent passDeadlineMs := by
  change world.step passDeadlineMs hasLifecycleDriver a = some w' at hv
  cases a with
  | requestPass v =>
    cases hv
    exact coherent_requestPass v hc
  | advance em =>
    cases hv
    exact coherent_later em hc
  | stop =>
    cases hv
    exact coherent_stop hc
  | settle pass s v => exact coherent_settle hc hh hv
  | laneCalls pass c =>
    rw [DriverWorld.step] at hv
    split at hv
    · cases hv
      have hs : world.isLate pass = true → c = [] := fun hl => by
        rw [DriverWorld.isHarmless, hl, Bool.not_true, Bool.false_or] at hh
        exact List.isEmpty_iff.mp hh
      rw [record_silent hs]
      exact hc
    · cases hv

theorem coherent_init (hi : (driverMachine passDeadlineMs hasLifecycleDriver).Init world) :
    world.Coherent passDeadlineMs := by
  obtain ⟨_, hid, _, _, hno, hu, hs⟩ := hi
  have hn : ∀ pass, ¬ world.IsLive pass := by
    rintro pass ⟨_, r, hre, _⟩
    rw [hno] at hre
    cases hre
  refine ⟨⟨fun x _ hl => absurd hl (hn x), hs⟩, ⟨fun pass hr => ?_,
    fun pass _ hr => ?_⟩, fun _ _ => hn, fun _ ha => ?_⟩
  · rw [hu pass] at hr
    cases hr
  · rw [hu pass] at hr
    cases hr
  · rw [hid] at ha
    cases ha

end PassRunsLemmas

open PassRunsLemmas in
/-- Along every run in which a recovered or stopped pass goes on only after a quiet await, with
nothing called in its lanes, and in which no recovered pass ends while the running flag is set, at
most one pass is live, and no recovered or stopped pass calls the journal or the network. -/
theorem one_live_pass {passDeadlineMs : Nat} {hasLifecycleDriver : Bool} {world : DriverWorld}
    (reached : (driverMachine passDeadlineMs hasLifecycleDriver).GuardedReachable
      (fun world action => world.isHarmless hasLifecycleDriver action = true) world) :
    world.OnePass := by
  have hc : world.Coherent passDeadlineMs := reached.invariant (fun _ hi => coherent_init hi)
      fun _ _ _ hc hh hv => onePass_step hc hh hv
  exact hc.toOnePass

/-! ## Runs over one queued event -/

namespace PassRunsLemmas

/-- A driver that has just been constructed. -/
def newDriver : DriverWorld where
  nowEpochMs := 0
  isStopped := false
  isPassRunning := false
  activePassController := none
  passStartedAtEpochMs := none
  passes := []
  isRecovered := fun _ => false
  lateCalls := []

/-- The content lane alone, with the default deadline of a pass. -/
def contentDriver : Machine DriverWorld DriverAction := driverMachine 60000 false

theorem newDriver_init : contentDriver.Init newDriver :=
  ⟨rfl, rfl, rfl, rfl, rfl, fun _ => rfl, rfl⟩

/-- The journal of one captured note. -/
def capturedView : PassView where
  isOutboundDispatchPaused := false
  journal := ((journalMachine.run .start
    [.recordCapture (sampleCapture "a.md" "aa") (sampleDraw 1 10)]).map (·.journal)).getD .empty

/-- The journal once the event has gone. -/
def emptyView : PassView where
  isOutboundDispatchPaused := false
  journal := .empty

/-- A pass waits for its first journal mutation beyond twice its deadline, and a trigger recovers
it. -/
def stalledPass : List DriverAction :=
  [.requestPass capturedView, .advance 120000, .requestPass capturedView]

/-- `IsLive`, computed. -/
def isLiveNow (world : DriverWorld) (pass : Nat) : Bool :=
  !world.isRecovered pass && world.passes[pass]?.any fun started => started.run.point.isSome

theorem live_of_now {world : DriverWorld} {pass : Nat} (now : isLiveNow world pass = true) :
    world.IsLive pass := by
  obtain ⟨hu, hw⟩ := Bool.and_eq_true_iff.mp now
  cases hp : world.passes[pass]? with
  | none =>
    rw [hp] at hw
    cases hw
  | some started =>
    rw [hp, Option.any_some] at hw
    refine ⟨(Bool.not_eq_true' _).mp hu, started, hp, fun he => ?_⟩
    rw [he] at hw
    cases hw

end PassRunsLemmas

open PassRunsLemmas in
/-- A stalled pass is recovered, the next one drains the queue, and the first one goes on once its
event has gone. -/
theorem one_live_pass_recovered : ∃ world,
    contentDriver.run newDriver (stalledPass ++ [.settle 1 .resolved capturedView,
      .settle 1 (.preflight .excluded) capturedView, .settle 1 .resolved emptyView,
      .settle 0 (.rejected .other) emptyView]) = some world ∧
    world.isRecovered 0 = true ∧ world.passes.length = 2 ∧ world.OnePass := by
  have ho : (contentDriver.run newDriver (stalledPass ++
      [.settle 1 .resolved capturedView, .settle 1 (.preflight .excluded) capturedView,
        .settle 1 .resolved emptyView, .settle 0 (.rejected .other) emptyView])).map
          (fun world => (world.isRecovered 0, world.passes.length)) = some (true, 2) := by
    decide +kernel
  have hc : contentDriver.runChecks (fun world => world.isHarmless false) newDriver
      (stalledPass ++ [.settle 1 .resolved capturedView,
        .settle 1 (.preflight .excluded) capturedView, .settle 1 .resolved emptyView,
        .settle 0 (.rejected .other) emptyView]) = true := by
    decide +kernel
  obtain ⟨world, ran, he⟩ := Option.map_eq_some_iff.mp ho
  obtain ⟨hr, hco⟩ := Prod.mk.inj he
  exact ⟨world, ran, hr, hco,
    one_live_pass (Machine.guardedReachable_of_run (fun _ _ => id) newDriver_init ran hc)⟩

open PassRunsLemmas in
/-- A recovered pass goes on with its preflight once its journal mutation settles, parks its event,
and clears the running flag of the second pass: a third one runs beside it. -/
theorem recovered_pass_goes_on : ∃ world, contentDriver.Reachable world ∧
    world.IsLive 1 ∧ world.IsLive 2 ∧
    world.lateCalls = [(0, .preflightJournalEvent 10), (0, .recordEventAttempt 10 .networkTimeout),
      (0, .markEventWaitingRetry 10 .networkTimeout)] := by
  have ho : (contentDriver.run newDriver (stalledPass ++ [.settle 0 .resolved capturedView,
      .settle 0 (.rejected (.sync .networkTimeout false)) capturedView,
      .settle 0 .resolved capturedView, .settle 0 .resolved capturedView,
      .requestPass capturedView])).map
        (fun world => (isLiveNow world 1, isLiveNow world 2, world.lateCalls)) =
      some (true, true, [(0, .preflightJournalEvent 10),
        (0, .recordEventAttempt 10 .networkTimeout),
        (0, .markEventWaitingRetry 10 .networkTimeout)]) := by
    decide +kernel
  obtain ⟨world, ran, he⟩ := Option.map_eq_some_iff.mp ho
  obtain ⟨hf, hr⟩ := Prod.mk.inj he
  obtain ⟨hs, hl⟩ := Prod.mk.inj hr
  exact ⟨world, Machine.reachable_of_run newDriver_init ran, live_of_now hf, live_of_now hs, hl⟩

end PersonalOs.Journal
