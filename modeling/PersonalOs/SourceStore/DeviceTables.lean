import PersonalOs.SourceStore.DeviceEvents

/-!
# Manifest runs and device cursors

What a commit may do to the rows of a device: a run row advances through its states under its
row lock, a start adds one, and the cursor moves forward under its own. The rows of every
database that grows so fit their state, a device has one unfinished run at most and its
watermarks stay in order.
-/

namespace PersonalOs.SourceStore

open Transactions

/-! ## Anchors -/

/-- A number that is zero or that of a committed event. -/
def Anchored (db : Db) (workspaceId : WorkspaceId) (n : Nat) : Prop :=
  n = 0 ∨ ∃ e ∈ db.events, e.workspaceId = workspaceId ∧ e.eventSequence = n

variable {n : Nat} {workspaceId : WorkspaceId}

theorem Anchored.mono {db db' : Db} (hg : ∀ e ∈ db.events, e ∈ db'.events)
    (ha : Anchored db workspaceId n) :
    Anchored db' workspaceId n :=
  ha.imp_right fun ⟨e, ht, hr⟩ => ⟨e, hg e ht, hr⟩

/-- A number that some committed event has reached. -/
def Reached (db : Db) (workspaceId : WorkspaceId) (n : Nat) : Prop :=
  n = 0 ∨ ∃ e ∈ db.events, e.workspaceId = workspaceId ∧ n ≤ e.eventSequence

theorem Reached.mono {db db' : Db} (hg : ∀ e ∈ db.events, e ∈ db'.events)
    (hr : Reached db workspaceId n) :
    Reached db' workspaceId n :=
  hr.imp_right fun ⟨e, ht, hre⟩ => ⟨e, hg e ht, hre⟩

theorem Reached.le {db : Db} {m : Nat} (le : m ≤ n) (hr : Reached db workspaceId n) :
    Reached db workspaceId m := by
  rcases hr with rfl | ⟨e, ht, hw, ha⟩
  · exact .inl (Nat.le_zero.mp le)
  · exact .inr ⟨e, ht, hw, Nat.le_trans le ha⟩

theorem Anchored.reached {db : Db} (ha : Anchored db workspaceId n) : Reached db workspaceId n :=
  ha.imp_right fun ⟨e, ht, hw, he⟩ => ⟨e, ht, hw, Nat.le_of_eq he.symm⟩

/-! ## Steps of a run -/

inductive RunStep (env : Environment) (call : ManifestCall) (r : ManifestRun) :
    ManifestRun → Prop
  | expire (unfinished : r.state.unfinished = true) :
      RunStep env call r { r with state := .expired }
  | fail (unfinished : r.state.unfinished = true) :
      RunStep env call r { r with state := .failed }
  | accept (command : AppendManifestPageCommand) (resolutions : List EntryResolutionRow)
      (asked : call.command = .append command) (named : r.manifestRunId = command.manifestRunId)
      (collecting : r.state = .collecting)
      (current : call.observed.activePolicyRevision = some r.policyRevisionNumber)
      (unexpired : call.observed.deadlinePassed = false)
      (next : command.pageNumber = r.nextPageNumber)
      (resolved : resolutions.length = command.entries.length) :
      RunStep env call r (acceptedRun command resolutions r r)
  | plan (command : FinalizeManifestCommand) (actions : List ManifestAction)
      (asked : call.command = .finalize command) (named : r.manifestRunId = command.manifestRunId)
      (collecting : r.state = .collecting) (unexpired : call.observed.deadlinePassed = false)
      (complete : command.totalEntryCount = r.entryCount)
      (digested : env.manifestFinalDigest r.pages = command.finalDigest)
      (indexed : actions.map ManifestAction.actionIndex = List.range actions.length) :
      RunStep env call r { r with
        state := .planned, finalDigest := some command.finalDigest, actions := actions }
  | apply (query : ManifestActionsQuery) (asked : call.command = .readActions query)
      (planned : r.state = .planned) : RunStep env call r { r with state := .applying }
  | complete (command : CompleteManifestCommand) (asked : call.command = .complete command)
      (named : r.manifestRunId = command.manifestRunId) (owned : r.context = command.context)
      (applying : r.state = .applying)
      (current : call.observed.activePolicyRevision = some r.policyRevisionNumber)
      (unexpired : call.observed.deadlinePassed = false)
      (digest : r.finalDigest = some command.finalDigest) :
      RunStep env call r { r with state := .completed }

/-- What of a run's row never changes, and what changes only while it collects. -/
structure RunKept (r r' : ManifestRun) : Prop where
  id : r'.manifestRunId = r.manifestRunId
  context : r'.context = r.context
  checkpoint : r'.checkpointSequence = r.checkpointSequence
  policy : r'.policyRevisionNumber = r.policyRevisionNumber
  generation : r'.clientObservationGeneration = r.clientObservationGeneration
  pages : r.pages <+: r'.pages
  next : r.nextPageNumber ≤ r'.nextPageNumber
  planned : r.state ≠ .collecting → r'.state ≠ .collecting ∧ r'.pages = r.pages ∧
    r'.entryCount = r.entryCount ∧ r'.finalDigest = r.finalDigest ∧ r'.actions = r.actions
  final : r.state.unfinished = false → r' = r

theorem RunKept.refl (r : ManifestRun) : RunKept r r where
  id := rfl
  context := rfl
  checkpoint := rfl
  policy := rfl
  generation := rfl
  pages := List.prefix_rfl
  next := Nat.le_refl _
  planned := fun hl => ⟨hl, rfl, rfl, rfl, rfl⟩
  final := fun _ => rfl

theorem RunKept.trans {a b c : ManifestRun} (hf : RunKept a b) (hs : RunKept b c) :
    RunKept a c where
  id := hs.id.trans hf.id
  context := hs.context.trans hf.context
  checkpoint := hs.checkpoint.trans hf.checkpoint
  policy := hs.policy.trans hf.policy
  generation := hs.generation.trans hf.generation
  pages := hf.pages.trans hs.pages
  next := Nat.le_trans hf.next hs.next
  planned := by
    intro hl
    obtain ⟨hl', hp, hc, hd, ha⟩ := hf.planned hl
    obtain ⟨hl'', hp', hc', hd', ha'⟩ := hs.planned hl'
    exact ⟨hl'', hp'.trans hp, hc'.trans hc, hd'.trans hd, ha'.trans ha⟩
  final := by
    intro hfi
    have he := hf.final hfi
    rw [← he]
    exact hs.final (by rw [he]; exact hfi)

variable {env : Environment} {call : ManifestCall} {r r' : ManifestRun}

theorem unfinished_of_collecting (hc : r.state = .collecting) : r.state.unfinished = true := by
  rw [hc]
  rfl

theorem RunKept.state {state : ManifestRunState} (hu : r.state.unfinished = true)
    (hl : state ≠ .collecting) : RunKept r { r with state } :=
  { RunKept.refl r with
    planned := fun _ => ⟨hl, rfl, rfl, rfl, rfl⟩
    final := fun hf => absurd hu (by rw [hf]; exact Bool.false_ne_true) }

theorem RunStep.unfinished (hs : RunStep env call r r') : r.state.unfinished = true := by
  cases hs with
  | expire hu | fail hu => exact hu
  | accept _ _ _ _ hc | plan _ _ _ _ hc => exact unfinished_of_collecting hc
  | apply _ _ hp =>
    rw [hp]
    rfl
  | complete _ _ _ _ ha =>
    rw [ha]
    rfl

theorem RunStep.kept (hst : RunStep env call r r') : RunKept r r' := by
  have hu := hst.unfinished
  have hs (hf : r.state.unfinished = false) : r' = r :=
    absurd hu (by rw [hf]; exact Bool.false_ne_true)
  cases hst with
  | expire => exact .state hu (by decide)
  | fail => exact .state hu (by decide)
  | apply => exact .state hu (by decide)
  | complete => exact .state hu (by decide)
  | accept c re _ _ hc _ _ hn =>
    exact { RunKept.refl r with
      pages := List.prefix_append _ _
      next := by
        show r.nextPageNumber ≤ c.pageNumber + 1
        rw [hn]
        exact Nat.le_succ _
      planned := fun hl => absurd hc hl
      final := hs }
  | plan c a _ _ hc =>
    exact { RunKept.refl r with
      planned := fun hl => absurd hc hl
      final := hs }

/-- The columns of a run fit its state: pages are numbered in order, entries counted, the plan
is indexed without gaps and stands with the digest of the pages from planning on. -/
structure ManifestRun.Shaped (env : Environment) (r : ManifestRun) : Prop where
  numbered : r.pages.map ManifestPage.pageNumber = List.range r.nextPageNumber
  counted : r.entryCount = (r.pages.map ManifestPage.entryCount).sum
  resolved : r.resolutions.length = r.entryCount
  unplanned : r.state = .collecting → r.actions = [] ∧ r.finalDigest = none
  digested : ∀ digest ∈ r.finalDigest, env.manifestFinalDigest r.pages = digest
  planned : r.state = .planned ∨ r.state = .applying ∨ r.state = .completed →
    r.finalDigest.isSome
  indexed : r.actions.map ManifestAction.actionIndex = List.range r.actions.length

theorem ManifestRun.Shaped.started (env : Environment) (cm : StartManifestCommand)
    (re acknowledged c : Nat) :
    (startedRun cm re acknowledged c).Shaped env where
  numbered := rfl
  counted := rfl
  resolved := rfl
  unplanned := fun _ => ⟨rfl, rfl⟩
  digested := by simp [startedRun]
  planned := by simp [startedRun]
  indexed := rfl

theorem RunStep.shaped (hst : RunStep env call r r') (hs : r.Shaped env) : r'.Shaped env := by
  cases hst with
  | expire | fail =>
    exact { hs with
      unplanned := by simp
      planned := by simp }
  | accept c re _ _ hc _ _ hne hr =>
    obtain ⟨hno, hn⟩ := hs.unplanned hc
    refine ⟨?_, ?_, ?_, fun _ => ⟨hno, hn⟩, ?_, ?_, ?_⟩
    · show (r.pages ++ [c.page]).map _ = List.range (c.pageNumber + 1)
      rw [List.map_append, hs.numbered, hne, List.range_succ, ← hne]
      rfl
    · show r.entryCount + _ = ((r.pages ++ [c.page]).map _).sum
      rw [List.map_append, List.sum_append, ← hs.counted]
      rfl
    · show (r.resolutions ++ re).length = r.entryCount + c.entries.length
      rw [List.length_append, hs.resolved, hr]
    · show ∀ d ∈ r.finalDigest, _
      simp [hn]
    · show r.state = .planned ∨ r.state = .applying ∨ r.state = .completed → _
      simp [hc]
    · exact hs.indexed
  | plan c a _ _ hc _ _ hd hi =>
    exact { hs with
      unplanned := by simp
      digested := by simpa using hd
      planned := fun _ => rfl
      indexed := hi }
  | apply _ _ hp =>
    exact { hs with
      unplanned := by simp
      planned := fun _ => hs.planned (.inl hp) }
  | complete _ _ _ _ ha =>
    exact { hs with
      unplanned := by simp
      planned := fun _ => hs.planned (.inr (.inl ha)) }

/-! ## Moves of the runs -/

structure Started (call : ManifestCall) (db : Db) (others : List ManifestRun)
    (r : ManifestRun) : Prop where
  asked : ∃ command revision acknowledged checkpoint, call.command = .start command ∧
    r = startedRun command revision acknowledged checkpoint
  fresh : ∀ x ∈ others, x.manifestRunId ≠ r.manifestRunId
  vacant : ∀ x ∈ others, x.context = r.context → x.state.unfinished = false
  anchored : Anchored db r.workspaceId r.checkpointSequence

/-- What a commit does to the runs: locked rows take a step, and a start may add one. -/
inductive RunsMove (env : Environment) (manifest : Option ManifestCall) (locks : List LockName)
    (db : Db) : List ManifestRun → Prop
  | move (write : ManifestRun → ManifestRun) (started : Option ManifestRun)
      (steps : ∀ r ∈ db.manifestRuns, write r = r ∨
        .manifestRunRow r.manifestRunId ∈ locks ∧
          ∃ call, manifest = some call ∧ RunStep env call r (write r))
      (starts : ∀ r ∈ started, ∃ call, manifest = some call ∧
        Started call db (db.manifestRuns.map write) r) :
      RunsMove env manifest locks db (db.manifestRuns.map write ++ started.toList)

/-- The runs of a committed state. -/
structure ManifestTable (env : Environment) (runs : List ManifestRun) : Prop where
  apart : runs.Pairwise fun a b => a.manifestRunId ≠ b.manifestRunId
  single : runs.Pairwise fun a b =>
    a.context = b.context → ¬(a.state.unfinished = true ∧ b.state.unfinished = true)
  shaped : ∀ r ∈ runs, r.Shaped env

theorem manifestTable_empty (env : Environment) : ManifestTable env [] := by
  constructor <;> simp

variable {manifest : Option ManifestCall} {locks : List LockName} {db db' : Db}
  {runs : List ManifestRun}

theorem RunsMove.still (he : runs = db.manifestRuns) : RunsMove env manifest locks db runs := by
  have hv : RunsMove env manifest locks db (db.manifestRuns.map id ++ none.toList) :=
    .move id none (fun _ _ => .inl rfl) (by simp)
  rw [List.map_id, Option.toList_none, List.append_nil] at hv
  rw [he]
  exact hv

theorem RunsMove.kept (hv : RunsMove env manifest locks db runs) (ht : r ∈ db.manifestRuns) :
    ∃ r' ∈ runs, RunKept r r' ∧ (.manifestRunRow r.manifestRunId ∉ locks → r' = r) := by
  cases hv with
  | move write s hs =>
    refine ⟨write r, List.mem_append_left _ (List.mem_map_of_mem ht), ?_⟩
    rcases hs r ht with he | ⟨hh, call, _, hst⟩
    · rw [he]
      exact ⟨.refl r, fun _ => rfl⟩
    · exact ⟨hst.kept, fun hf => absurd hh hf⟩

theorem RunsMove.origin (hv : RunsMove env manifest locks db runs) (ht : r' ∈ runs) :
    (∃ r ∈ db.manifestRuns, RunKept r r') ∨ Anchored db r'.workspaceId r'.checkpointSequence := by
  cases hv with
  | move write s hss hst =>
    rcases List.mem_append.mp ht with old | new
    · obtain ⟨r, hb, rfl⟩ := List.mem_map.mp old
      rcases hss r hb with he | ⟨_, call, _, hsp⟩
      · refine .inl ⟨r, hb, ?_⟩
        rw [he]
        exact .refl r
      · exact .inl ⟨r, hb, hsp.kept⟩
    · obtain ⟨call, _, hs⟩ := hst r' (by simpa using new)
      exact .inr hs.anchored

theorem RunsMove.table (hv : RunsMove env manifest locks db runs)
    (hta : ManifestTable env db.manifestRuns) : ManifestTable env runs := by
  cases hv with
  | move write s hss hst =>
    have hk {r : ManifestRun} (ht : r ∈ db.manifestRuns) :
        RunKept r (write r) ∧ ((write r).state.unfinished = true → r.state.unfinished = true) := by
      rcases hss r ht with he | ⟨_, call, _, hsp⟩
      · rw [he]
        exact ⟨.refl r, id⟩
      · exact ⟨hsp.kept, fun _ => hsp.unfinished⟩
    refine ⟨?_, ?_, ?_⟩
    · refine List.pairwise_append.mpr ⟨?_, ?_, ?_⟩
      · refine List.pairwise_map.mpr (hta.apart.imp_of_mem fun {a b} hh hha hd => ?_)
        rw [(hk hh).1.id, (hk hha).1.id]
        exact hd
      · cases s <;> simp
      · intro a hh b hha
        obtain ⟨call, _, hs⟩ := hst b (by simpa using hha)
        exact hs.fresh a hh
    · refine List.pairwise_append.mpr ⟨?_, ?_, ?_⟩
      · refine List.pairwise_map.mpr (hta.single.imp_of_mem fun {a b} hh hha one => ?_)
        rw [(hk hh).1.context, (hk hha).1.context]
        rintro he ⟨hf, hse⟩
        exact one he ⟨(hk hh).2 hf, (hk hha).2 hse⟩
      · cases s <;> simp
      · intro a hh b hha he
        obtain ⟨call, _, hs⟩ := hst b (by simpa using hha)
        simp [hs.vacant a hh he]
    · intro r ht
      rcases List.mem_append.mp ht with old | new
      · obtain ⟨r₀, hb, rfl⟩ := List.mem_map.mp old
        rcases hss r₀ hb with he | ⟨_, call, _, hsp⟩
        · rw [he]
          exact hta.shaped r₀ hb
        · exact hsp.shaped (hta.shaped r₀ hb)
      · obtain ⟨call, _, hs⟩ := hst r (by simpa using new)
        obtain ⟨cm, re, acknowledged, c, _, rfl⟩ := hs.asked
        exact .started env cm re acknowledged c

/-! ## Cursors -/

/-- A pair of watermarks is not ahead of another. -/
structure Behind (a b : DeviceSync.DeviceCursor) : Prop where
  acknowledged : a.acknowledgedSequence ≤ b.acknowledgedSequence
  delivered : a.deliveredThroughSequence ≤ b.deliveredThroughSequence

theorem Behind.refl (a : DeviceSync.DeviceCursor) : Behind a a := ⟨Nat.le_refl _, Nat.le_refl _⟩

theorem Behind.trans {a b c : DeviceSync.DeviceCursor} (hf : Behind a b)
    (hs : Behind b c) : Behind a c :=
  ⟨Nat.le_trans hf.acknowledged hs.acknowledged, Nat.le_trans hf.delivered hs.delivered⟩

/-- The watermarks of a device; one without a row reads as zero and zero. -/
def Db.watermarks (db : Db) (context : DeviceSyncContext) : DeviceSync.DeviceCursor :=
  DeviceSync.readCursor ((db.cursor context).map DeviceCursor.watermarks)

inductive CursorMove (device : Option DeviceCall) (manifest : Option ManifestCall)
    (locks : List LockName) (db : Db) (runs : List ManifestRun) : List DeviceCursor → Prop
  | still : CursorMove device manifest locks db runs db.cursors
  | deliver (context : DeviceSyncContext) (limit n : Nat)
      (asked : device = some ⟨context, .pull limit⟩)
      (held : .deviceCursorRow context.workspaceId context.deviceId ∈ locks)
      (reached : Reached db context.workspaceId n) :
      CursorMove device manifest locks db runs (advanceDelivered db.cursors context n)
  | bootstrap (context : DeviceSyncContext) (expectedPrevious appliedThrough : Nat)
      (asked : device = some ⟨context, .acknowledge expectedPrevious appliedThrough⟩)
      (held : .deviceCursorRow context.workspaceId context.deviceId ∈ locks) :
      CursorMove device manifest locks db runs (bootstrapCursor db.cursors context 0 0)
  | acknowledge (context : DeviceSyncContext) (expectedPrevious appliedThrough : Nat)
      (cursor : DeviceCursor)
      (asked : device = some ⟨context, .acknowledge expectedPrevious appliedThrough⟩)
      (held : .deviceCursorRow context.workspaceId context.deviceId ∈ locks)
      (stands : db.cursor context = some cursor)
      (expected : expectedPrevious = cursor.acknowledgedSequence)
      (above : cursor.acknowledgedSequence < appliedThrough)
      (below : appliedThrough ≤ cursor.deliveredThroughSequence) :
      CursorMove device manifest locks db runs
        (advanceAcknowledged db.cursors context appliedThrough)
  | complete (call : ManifestCall) (command : CompleteManifestCommand) (run : ManifestRun)
      (asked : manifest = some call) (isComplete : call.command = .complete command)
      (held : .deviceCursorRow command.context.workspaceId command.context.deviceId ∈ locks)
      (stands : run ∈ db.manifestRuns) (owned : run.context = command.context)
      (applying : run.state = .applying)
      (completed : { run with state := .completed } ∈ runs) :
      CursorMove device manifest locks db runs
        (advanceCursor db.cursors command.context run.checkpointSequence)

/-- The cursors of a committed state: one row a device, its watermarks in order and within the
events of the workspace. -/
structure CursorTable (db : Db) : Prop where
  apart : db.cursors.Pairwise fun a b => a.context ≠ b.context
  ordered : ∀ c ∈ db.cursors, c.acknowledgedSequence ≤ c.deliveredThroughSequence
  reached : ∀ c ∈ db.cursors, Reached db c.workspaceId c.deliveredThroughSequence

namespace CursorLemmas

variable {cursors : List DeviceCursor} {context other : DeviceSyncContext}

theorem ownedBy_iff {c : DeviceCursor} : c.ownedBy context = true ↔ c.context = context := by
  simp [DeviceCursor.ownedBy]

variable {write : DeviceCursor → DeviceCursor} {acknowledged delivered : Nat}

theorem find?_updateCursor (hk : ∀ c, (write c).context = c.context) :
    (updateCursor cursors context write).find? (DeviceCursor.ownedBy other) =
      if other = context then (cursors.find? (DeviceCursor.ownedBy other)).map write
      else cursors.find? (DeviceCursor.ownedBy other) := by
  have ho : DeviceCursor.ownedBy other ∘
      (fun c => if c.ownedBy context = true then write c else c) = DeviceCursor.ownedBy other := by
    funext c
    by_cases ho : c.ownedBy context = true
    · show (if c.ownedBy context = true then write c else c).ownedBy other = c.ownedBy other
      rw [if_pos ho, DeviceCursor.ownedBy, DeviceCursor.ownedBy, hk]
    · simp [Function.comp, ho]
  rw [updateCursor, List.find?_map, ho]
  cases hf : cursors.find? (DeviceCursor.ownedBy other) with
  | none => simp
  | some c =>
    have how := ownedBy_iff.mp (List.find?_some hf)
    simp only [Option.map_some, ownedBy_iff, how]
    split <;> rfl

theorem find?_bootstrapCursor :
    (bootstrapCursor cursors context acknowledged delivered).find? (DeviceCursor.ownedBy other) =
      if other = context then
        some ((cursors.find? (DeviceCursor.ownedBy other)).getD
          ⟨context.workspaceId, context.deviceId, acknowledged, delivered⟩)
      else cursors.find? (DeviceCursor.ownedBy other) := by
  unfold bootstrapCursor
  by_cases he : other = context
  · subst he
    rw [if_pos rfl]
    split
    next hp =>
      obtain ⟨c, hf⟩ := Option.isSome_iff_exists.mp (by rw [List.find?_isSome]; simpa using hp)
      rw [hf]
      rfl
    next hn =>
      have hno : cursors.find? (DeviceCursor.ownedBy other) = none := by
        rw [List.find?_eq_none]
        simpa using hn
      rw [List.find?_append, hno]
      simp [DeviceCursor.ownedBy, DeviceCursor.context]
  · rw [if_neg he]
    split
    · rfl
    · rw [List.find?_append, List.find?_cons_of_neg, List.find?_nil, Option.or_none]
      rw [ownedBy_iff]
      exact fun hc => he hc.symm

theorem mem_updateCursor {f : DeviceCursor → Prop} (old : ∀ c ∈ cursors, f c)
    (new : ∀ c ∈ cursors, c.context = context → f (write c)) :
    ∀ c ∈ updateCursor cursors context write, f c := by
  intro c hm
  obtain ⟨c₀, ht, rfl⟩ := List.mem_map.mp hm
  split
  next ho => exact new c₀ ht (ownedBy_iff.mp ho)
  next => exact old c₀ ht

theorem mem_bootstrapCursor {f : DeviceCursor → Prop} (old : ∀ c ∈ cursors, f c)
    (new : f ⟨context.workspaceId, context.deviceId, acknowledged, delivered⟩) :
    ∀ c ∈ bootstrapCursor cursors context acknowledged delivered, f c := by
  unfold bootstrapCursor
  split
  · exact old
  · intro c hm
    rcases List.mem_append.mp hm with ht | ha
    · exact old c ht
    · rw [List.mem_singleton.mp ha]
      exact new

theorem apart_updateCursor (hk : ∀ c, (write c).context = c.context)
    (ha : cursors.Pairwise fun a b => a.context ≠ b.context) :
    (updateCursor cursors context write).Pairwise fun a b => a.context ≠ b.context := by
  have he (c : DeviceCursor) :
      (if c.ownedBy context = true then write c else c).context = c.context := by
    split
    · exact hk c
    · rfl
  refine List.pairwise_map.mpr (ha.imp fun {a b} hd => ?_)
  rw [he, he]
  exact hd

theorem apart_bootstrapCursor (ha : cursors.Pairwise fun a b => a.context ≠ b.context) :
    (bootstrapCursor cursors context acknowledged delivered).Pairwise
      fun a b => a.context ≠ b.context := by
  unfold bootstrapCursor
  split
  · exact ha
  next hn =>
    refine List.pairwise_append.mpr ⟨ha, List.pairwise_singleton _ _, ?_⟩
    intro a ht b had
    rw [List.mem_singleton.mp had]
    intro he
    exact hn (List.any_eq_true.mpr ⟨a, ht, ownedBy_iff.mpr he⟩)

end CursorLemmas

open CursorLemmas

theorem cursorTable_empty : CursorTable .empty := by
  constructor <;> simp [Db.empty]

/-- The cursor of a run's device has been brought to the checkpoint of the run. -/
def BroughtTo (db : Db) (r : ManifestRun) : Prop :=
  (db.cursor r.context).isSome = true ∧
    r.checkpointSequence ≤ (db.watermarks r.context).acknowledgedSequence

structure DeviceTables (env : Environment) (db : Db) : Prop where
  runs : ManifestTable env db.manifestRuns
  anchored : ∀ r ∈ db.manifestRuns, Anchored db r.workspaceId r.checkpointSequence
  cursors : CursorTable db
  completed : ∀ r ∈ db.manifestRuns, r.state = .completed → BroughtTo db r

/-- What a commit does to the rows of the devices. -/
structure DeviceMove (env : Environment) (device : Option DeviceCall)
    (manifest : Option ManifestCall) (locks : List LockName) (db db' : Db) : Prop where
  runs : RunsMove env manifest locks db db'.manifestRuns
  cursors : CursorMove device manifest locks db db'.manifestRuns db'.cursors
  advances : ∀ r ∈ db'.manifestRuns, r.state = .completed → r ∈ db.manifestRuns ∨ BroughtTo db' r

variable {device : Option DeviceCall} {cursors : List DeviceCursor}
  {context : DeviceSyncContext}

theorem DeviceMove.still (runs : db'.manifestRuns = db.manifestRuns)
    (cursors : db'.cursors = db.cursors) : DeviceMove env device manifest locks db db' where
  runs := .still runs
  cursors := by
    rw [cursors]
    exact .still
  advances := by
    rw [runs]
    exact fun r ht _ => .inl ht

theorem CursorMove.frame (hv : CursorMove device manifest locks db runs cursors)
    (hf : .deviceCursorRow context.workspaceId context.deviceId ∉ locks) :
    cursors.find? (DeviceCursor.ownedBy context) = db.cursor context := by
  have ho {a : DeviceSyncContext}
      (hh : .deviceCursorRow a.workspaceId a.deviceId ∈ locks) : context ≠ a := by
    rintro rfl
    exact hf hh
  cases hv with
  | still => rfl
  | deliver a l n _ hh =>
    rw [advanceDelivered, find?_updateCursor (by intro c; split <;> rfl), if_neg (ho hh),
      find?_bootstrapCursor, if_neg (ho hh)]
    rfl
  | bootstrap a ep ap _ hh =>
    rw [find?_bootstrapCursor, if_neg (ho hh)]
    rfl
  | acknowledge a ep ap cu _ hh =>
    rw [advanceAcknowledged, find?_updateCursor (by intro c; rfl), if_neg (ho hh)]
    rfl
  | complete call cm run _ _ hh =>
    rw [advanceCursor, find?_updateCursor (by intro c; split <;> rfl), if_neg (ho hh),
      find?_bootstrapCursor, if_neg (ho hh)]
    rfl

/-- How a commit moves the two watermarks of a device, from the values it stands on. -/
inductive WatermarkMove (device : Option DeviceCall) (manifest : Option ManifestCall) (db : Db)
    (runs : List ManifestRun) (context : DeviceSyncContext) (before : DeviceSync.DeviceCursor) :
    DeviceSync.DeviceCursor → Prop
  | still : WatermarkMove device manifest db runs context before before
  | deliver (limit n : Nat) (asked : device = some ⟨context, .pull limit⟩)
      (above : before.deliveredThroughSequence < n)
      (reached : Reached db context.workspaceId n) :
      WatermarkMove device manifest db runs context before
        { before with deliveredThroughSequence := n }
  | acknowledge (appliedThrough : Nat)
      (asked : device = some ⟨context, .acknowledge before.acknowledgedSequence appliedThrough⟩)
      (above : before.acknowledgedSequence < appliedThrough)
      (below : appliedThrough ≤ before.deliveredThroughSequence) :
      WatermarkMove device manifest db runs context before
        { before with acknowledgedSequence := appliedThrough }
  | complete (call : ManifestCall) (command : CompleteManifestCommand) (run : ManifestRun)
      (asked : manifest = some call) (isComplete : call.command = .complete command)
      (stands : run ∈ db.manifestRuns) (owned : run.context = context)
      (applying : run.state = .applying) (completed : { run with state := .completed } ∈ runs)
      (above : before.acknowledgedSequence < run.checkpointSequence) :
      WatermarkMove device manifest db runs context before
        ⟨run.checkpointSequence, max before.deliveredThroughSequence run.checkpointSequence⟩

theorem WatermarkMove.behind {b a : DeviceSync.DeviceCursor}
    (hv : WatermarkMove device manifest db runs context b a) :
    Behind b a := by
  cases hv with
  | still => exact .refl _
  | deliver _ _ _ ha => exact ⟨Nat.le_refl _, Nat.le_of_lt ha⟩
  | acknowledge _ _ ha => exact ⟨Nat.le_of_lt ha, Nat.le_refl _⟩
  | complete _ _ _ _ _ _ _ _ _ ha => exact ⟨Nat.le_of_lt ha, Nat.le_max_left _ _⟩

def watermarksIn (cursors : List DeviceCursor) (context : DeviceSyncContext) :
    DeviceSync.DeviceCursor :=
  DeviceSync.readCursor ((cursors.find? (DeviceCursor.ownedBy context)).map
    DeviceCursor.watermarks)

/-- The watermarks after a write that bootstraps the row of a device and rewrites it. -/
theorem watermarksIn_written {a : DeviceSyncContext} {write : DeviceCursor → DeviceCursor}
    {acknowledged delivered : Nat} (hk : ∀ c, (write c).context = c.context) :
    watermarksIn (updateCursor (bootstrapCursor cursors a acknowledged delivered) a write) context =
      if context = a then
        (write ((cursors.find? (DeviceCursor.ownedBy context)).getD
          ⟨context.workspaceId, context.deviceId, acknowledged, delivered⟩)).watermarks
      else watermarksIn cursors context := by
  rw [watermarksIn, find?_updateCursor hk, find?_bootstrapCursor]
  by_cases he : context = a
  · subst he
    rw [if_pos rfl, if_pos rfl, if_pos rfl]
    rfl
  · rw [if_neg he, if_neg he, if_neg he]
    rfl

theorem watermarksIn_delivered : watermarksIn (advanceDelivered cursors context n) context =
      if (watermarksIn cursors context).deliveredThroughSequence < n then
        { watermarksIn cursors context with deliveredThroughSequence := n }
      else watermarksIn cursors context := by
  rw [advanceDelivered, watermarksIn_written (by intro c; split <;> rfl), if_pos rfl, watermarksIn]
  cases cursors.find? (DeviceCursor.ownedBy context) with
  | none =>
    rcases Nat.eq_zero_or_pos n with rfl | hp
    · rfl
    · simp [DeviceSync.readCursor, DeviceCursor.watermarks, hp]
  | some c =>
    show DeviceCursor.watermarks (if c.deliveredThroughSequence < n then _ else c) =
      if c.deliveredThroughSequence < n then _ else c.watermarks
    split <;> rfl

theorem watermarksIn_completed : watermarksIn (advanceCursor cursors context n) context =
      if (watermarksIn cursors context).acknowledgedSequence < n then
        ⟨n, max (watermarksIn cursors context).deliveredThroughSequence n⟩
      else watermarksIn cursors context := by
  rw [advanceCursor, watermarksIn_written (by intro c; split <;> rfl), if_pos rfl, watermarksIn]
  cases cursors.find? (DeviceCursor.ownedBy context) with
  | none =>
    rcases Nat.eq_zero_or_pos n with rfl | hp
    · rfl
    · simp [DeviceSync.readCursor, DeviceCursor.watermarks, hp]
  | some c =>
    show DeviceCursor.watermarks (if c.acknowledgedSequence < n then _ else c) =
      if c.acknowledgedSequence < n then _ else c.watermarks
    split <;> rfl

theorem CursorMove.watermarks (hv : CursorMove device manifest locks db runs cursors) :
    WatermarkMove device manifest db runs context (db.watermarks context)
      (watermarksIn cursors context) := by
  have hs {af : DeviceSync.DeviceCursor} (he : af = db.watermarks context) :
      WatermarkMove device manifest db runs context (db.watermarks context) af := by
    rw [he]
    exact .still
  cases hv with
  | still => exact .still
  | deliver a l n ha _ hr =>
    by_cases he : context = a
    · subst he
      rw [watermarksIn_delivered]
      split
      next hab => exact .deliver l n ha hab hr
      next => exact .still
    · refine hs ?_
      rw [advanceDelivered, watermarksIn_written (by intro c; split <;> rfl), if_neg he]
      rfl
  | bootstrap a =>
    refine hs ?_
    rw [watermarksIn, find?_bootstrapCursor, Db.watermarks, Db.cursor]
    by_cases he : context = a
    · subst he
      rw [if_pos rfl]
      cases db.cursors.find? (DeviceCursor.ownedBy context) <;> rfl
    · rw [if_neg he]
  | acknowledge a ep ap cu ha _ ht hex hab hbe =>
    rw [advanceAcknowledged, watermarksIn, find?_updateCursor (by intro c; rfl)]
    by_cases he : context = a
    · subst he
      have hf : db.cursors.find? (DeviceCursor.ownedBy context) = some cu := ht
      have hb : db.watermarks context = cu.watermarks := by
        rw [Db.watermarks, ht]
        rfl
      rw [if_pos rfl, hf, hb]
      subst hex
      exact .acknowledge ap ha hab hbe
    · rw [if_neg he]
      exact .still
  | complete call cm run ha hc _ ht ho hap hco =>
    by_cases he : context = cm.context
    · subst he
      rw [watermarksIn_completed]
      split
      next hab =>
        exact .complete call cm run ha hc ht ho hap hco hab
      next => exact .still
    · refine hs ?_
      rw [advanceCursor, watermarksIn_written (by intro c; split <;> rfl), if_neg he]
      rfl

theorem CursorMove.behind (hv : CursorMove device manifest locks db runs cursors) :
    Behind (db.watermarks context) (watermarksIn cursors context) :=
  hv.watermarks.behind

theorem CursorMove.table (hv : CursorMove device manifest locks db runs db'.cursors)
    (hta : CursorTable db) (hg : ∀ e ∈ db.events, e ∈ db'.events)
    (ha : ∀ r ∈ db.manifestRuns, Anchored db r.workspaceId r.checkpointSequence) :
    CursorTable db' := by
  suffices hap : db'.cursors.Pairwise (fun a b => a.context ≠ b.context) ∧
      ∀ c ∈ db'.cursors, c.acknowledgedSequence ≤ c.deliveredThroughSequence ∧
        Reached db c.workspaceId c.deliveredThroughSequence from
    ⟨hap.1, fun c ht => (hap.2 c ht).1, fun c ht => (hap.2 c ht).2.mono hg⟩
  have hf : ∀ c ∈ db.cursors, c.acknowledgedSequence ≤ c.deliveredThroughSequence ∧
      Reached db c.workspaceId c.deliveredThroughSequence :=
    fun c ht => ⟨hta.ordered c ht, hta.reached c ht⟩
  generalize db'.cursors = af at hv
  cases hv with
  | still => exact ⟨hta.apart, hf⟩
  | deliver context l n _ _ hr =>
    refine ⟨apart_updateCursor (by intro c; split <;> rfl) (apart_bootstrapCursor hta.apart), ?_⟩
    have hb : ∀ c ∈ bootstrapCursor db.cursors context 0 n,
        c.acknowledgedSequence ≤ c.deliveredThroughSequence ∧
          Reached db c.workspaceId c.deliveredThroughSequence :=
      mem_bootstrapCursor hf ⟨Nat.zero_le _, hr⟩
    refine mem_updateCursor hb fun c ht how => ?_
    split
    next hl =>
      have hw : c.workspaceId = context.workspaceId := by rw [← how]; rfl
      exact ⟨Nat.le_trans (hb c ht).1 (Nat.le_of_lt hl), hw ▸ hr⟩
    · exact hb c ht
  | bootstrap context =>
    exact ⟨apart_bootstrapCursor hta.apart, mem_bootstrapCursor hf ⟨Nat.le_refl _, .inl rfl⟩⟩
  | acknowledge context ep ap cu _ _ ht _ _ hbe =>
    refine ⟨apart_updateCursor (fun c => rfl) hta.apart, mem_updateCursor hf ?_⟩
    intro c hm how
    have he : c = cu := by
      by_contra hd
      have hs : Std.Symm fun a b : DeviceCursor => a.context ≠ b.context := ⟨fun _ _ => Ne.symm⟩
      refine hta.apart.forall hm (List.mem_of_find?_eq_some ht) hd ?_
      exact how.trans (ownedBy_iff.mp (List.find?_some ht)).symm
    subst he
    exact ⟨hbe, (hf c hm).2⟩
  | complete call cm run _ _ _ ht how =>
    have hw : run.workspaceId = cm.context.workspaceId := by rw [← how]; rfl
    have hr : Reached db cm.context.workspaceId run.checkpointSequence := hw ▸ (ha run ht).reached
    refine ⟨apart_updateCursor (by intro c; split <;> rfl) (apart_bootstrapCursor hta.apart), ?_⟩
    have hb : ∀ c ∈ bootstrapCursor db.cursors cm.context run.checkpointSequence
        run.checkpointSequence, c.acknowledgedSequence ≤ c.deliveredThroughSequence ∧
          Reached db c.workspaceId c.deliveredThroughSequence :=
      mem_bootstrapCursor hf ⟨Nat.le_refl _, hr⟩
    refine mem_updateCursor hb fun c hm hod => ?_
    split
    · refine ⟨Nat.le_max_right _ _, ?_⟩
      have ho : c.workspaceId = cm.context.workspaceId := by rw [← hod]; rfl
      show Reached db c.workspaceId (max c.deliveredThroughSequence run.checkpointSequence)
      rcases Nat.le_total c.deliveredThroughSequence run.checkpointSequence with le | le
      · rw [Nat.max_eq_right le, ho]
        exact hr
      · rw [Nat.max_eq_left le]
        exact (hb c hm).2
    · exact hb c hm

theorem CursorMove.present (hv : CursorMove device manifest locks db runs cursors)
    (hp : (db.cursor context).isSome = true) :
    (cursors.find? (DeviceCursor.ownedBy context)).isSome = true := by
  obtain ⟨c, hf⟩ := Option.isSome_iff_exists.mp hp
  have hf : db.cursors.find? (DeviceCursor.ownedBy context) = some c := hf
  have hb (a : DeviceSyncContext) (acknowledged delivered : Nat) :
      ((bootstrapCursor db.cursors a acknowledged delivered).find?
        (DeviceCursor.ownedBy context)).isSome = true := by
    rw [find?_bootstrapCursor, hf]
    split <;> rfl
  cases hv with
  | still => rw [hf]; rfl
  | deliver =>
    rw [advanceDelivered, find?_updateCursor (by intro c; split <;> rfl)]
    split
    · rw [Option.isSome_map]
      exact hb _ _ _
    · exact hb _ _ _
  | bootstrap => exact hb _ _ _
  | acknowledge =>
    rw [advanceAcknowledged, find?_updateCursor (by intro c; rfl), hf]
    split <;> rfl
  | complete =>
    rw [advanceCursor, find?_updateCursor (by intro c; split <;> rfl)]
    split
    · rw [Option.isSome_map]
      exact hb _ _ _
    · exact hb _ _ _

theorem DeviceMove.behind (hv : DeviceMove env device manifest locks db db') :
    Behind (db.watermarks context) (db'.watermarks context) :=
  hv.cursors.behind

theorem DeviceMove.tables (hv : DeviceMove env device manifest locks db db')
    (ht : DeviceTables env db) (hg : ∀ e ∈ db.events, e ∈ db'.events) :
    DeviceTables env db' where
  runs := hv.runs.table ht.runs
  anchored := by
    intro r hs
    rcases hv.runs.origin hs with ⟨r₀, hb, hk⟩ | han
    · have he : r.workspaceId = r₀.workspaceId := congrArg DeviceSyncContext.workspaceId hk.context
      rw [he, hk.checkpoint]
      exact (ht.anchored r₀ hb).mono hg
    · exact han.mono hg
  cursors := hv.cursors.table ht.cursors hg ht.anchored
  completed := by
    intro r hs hc
    rcases hv.advances r hs hc with hb | ha
    · obtain ⟨hcu, hbr⟩ := ht.completed r hb hc
      exact ⟨hv.cursors.present hcu, Nat.le_trans hbr (DeviceMove.behind hv).acknowledged⟩
    · exact ha

theorem deviceTables_empty (env : Environment) : DeviceTables env .empty where
  runs := manifestTable_empty env
  anchored := by simp [Db.empty]
  cursors := cursorTable_empty
  completed := by simp [Db.empty]

end PersonalOs.SourceStore
