import PersonalOs.SourceStore.SourceRuns

/-!
# The checkpoint of a manifest run

A start freezes the greatest visible event sequence as the checkpoint of its run. Numbers are
drawn before they are visible, so an event below the checkpoint may still be in flight.
Publications and lifecycle commits draw theirs under the policy row of the workspace, one
after another; captures and resolutions of conflicts do not.
-/

namespace PersonalOs.SourceStore

open Transactions

variable {env : Environment} {w w' : StoreWorld}

/-! ## Numbers in flight -/

/-- A number a session holds at the end of a run was drawn on it, or held at its start. -/
theorem drawn_on_run (hr : (storeMachine env).Reachable w) (hl : (storeMachine env).Leads w w') :
    ∀ s' ∈ w'.sessions, ∀ n ∈ s'.own.drawn, w.snapshot.sequence ≤ n ∨
      ∃ s ∈ w.sessions, n ∈ s.own.drawn ∧ s.call = s'.call := by
  induction hl with
  | refl => exact fun s' hru n hh => .inr ⟨s', hru, hh, rfl⟩
  | @tail v v' hb hv ih =>
    obtain ⟨a, hv⟩ := hv
    have hhe := Machine.Leads.reachable hr hb
    intro s' hru n hh
    rcases step_drawn (sound_of_reachable hhe) hv s' hru n hh with hd | ⟨s, was, had, he⟩
    · exact .inl (hd ▸ (later_of_leads hr hb).sequence_le)
    · exact (ih s was n had).imp_right fun ⟨s₀, hw₀, hh₀, he₀⟩ =>
        ⟨s₀, hw₀, hh₀, he₀.trans he⟩

/-- A conflict transaction: the policy row does not order its events. -/
def StoreCall.isConflict : StoreCall → Bool
  | .capture _ | .resolve _ => true
  | _ => false

variable {e : SyncEvent}

theorem StoreCall.Announces.type {ca : StoreCall} (ha : ca.Announces env e)
    (ho : ca.isConflict = false) :
    e.eventType.isConflict = false := by
  cases ca with
  | publication q =>
    obtain ⟨c, _, _⟩ := q
    cases c with
    | create c =>
      obtain ⟨_, _, rfl⟩ := ha
      rfl
    | update c =>
      obtain ⟨_, _, rfl⟩ := ha
      rfl
  | lifecycle ca =>
    obtain ⟨_, _, rfl⟩ := ha
    show (eventTypeByOperation ca.request.command.operation).isConflict = false
    cases ca.request.command.operation <;> rfl
  | capture | resolve => cases ho
  | manifest | device => cases ha

/-- An event that a run makes visible was committed on it, by a session whose number it has. -/
theorem late_event_was_drawn (hr : (storeMachine env).Reachable w)
    (hl : (storeMachine env).Leads w w') (hla : e ∉ w.snapshot.db.events)
    (ht : e ∈ w'.snapshot.db.events) : ∃ (v v' : StoreWorld) (s : StoreSession),
      (storeMachine env).Leads w v ∧ s ∈ v.sessions ∧
      EventCommit env s.call s.own v.snapshot v'.snapshot.db e := by
  induction hl with
  | refl => exact absurd ht hla
  | @tail v v' hb hv ih =>
    by_cases hea : e ∈ v.snapshot.db.events
    · exact ih hea
    obtain ⟨a, hv⟩ := hv
    have hs := sound_of_reachable (Machine.Leads.reachable hr hb)
    rcases commit_of_change hs hv with
      hsa | ⟨i, s, _, hru, ⟨e', he⟩ | hsi⟩
    · exact absurd (hsa ▸ ht) hea
    · rw [he.commit.events] at ht
      rcases List.mem_append.mp ht with old | new
      · exact absurd old hea
      · rw [← List.mem_singleton.mp new] at he
        exact ⟨v, v', s, hb, List.mem_of_getElem? hru, he⟩
    · exact absurd (hsi.events ▸ ht) hea

/-! ## Settled checkpoints -/

/-- No session of the workspace holds a number up to the checkpoint, or only publications and
lifecycle calls do, which a checkpoint that is their own event's or none is never ahead of. -/
def CheckpointSettled (w : StoreWorld) (workspaceId : WorkspaceId) (checkpoint : Nat) : Prop :=
  ∀ s ∈ w.sessions, s.call.workspaceId = workspaceId → ∀ n ∈ s.own.drawn, n ≤ checkpoint →
    s.call.isConflict = false ∧ ∀ e ∈ w.snapshot.db.events, e.workspaceId = workspaceId →
      e.eventSequence = checkpoint → e.eventType.isConflict = false

theorem settled_complete (hr : (storeMachine env).Reachable w) {wi : WorkspaceId}
    {ch : Nat} (ha : Anchored w.snapshot.db wi ch)
    (hse : CheckpointSettled w wi ch) (hl : (storeMachine env).Leads w w')
    (ht : e ∈ w'.snapshot.db.events) (hw : e.workspaceId = wi)
    (hb : e.eventSequence ≤ ch) : e ∈ w.snapshot.db.events := by
  by_contra hla
  obtain ⟨v, v', s, hbe, hru, hco⟩ := late_event_was_drawn hr hl hla ht
  have inv := inv_of_reachable hr
  rcases ha with rfl | ⟨c, hv, hc, rfl⟩
  · exact absurd hco.positive (Nat.not_le_of_lt (Nat.lt_succ_of_le hb))
  rcases drawn_on_run hr hbe s hru _ hco.number with hd | ⟨s₀, hr₀, hh, he⟩
  · -- a number drawn on the run is behind every visible event
    exact absurd (Nat.le_trans hd hb) (Nat.not_le_of_lt (inv.numbered c hv).2)
  · have ho : s₀.call.workspaceId = wi := by
      rw [he, ← hco.announces.workspace, hw]
    obtain ⟨hor, hs⟩ := hse s₀ hr₀ ho _ hh hb
    have hty := hco.announces.type (he ▸ hor)
    have hv' : c ∈ v.snapshot.db.events := (grows_of_rely (later_of_leads hr hbe)).events c hv
    have hbd := hco.governed hty c hv' (hc.trans hw.symm) (hs c hv hc rfl)
    exact absurd hb (Nat.not_le_of_lt hbd)

/-- While the checkpoint of a run is settled, every event up to it that ever becomes visible
already is, and a completion advances the cursor over no other. -/
theorem checkpoint_sound (reached : (storeMachine env).Reachable w) {r : ManifestRun}
    (stands : r ∈ w.snapshot.db.manifestRuns)
    (settled : CheckpointSettled w r.workspaceId r.checkpointSequence)
    (leads : (storeMachine env).Leads w w') :
    (∀ e ∈ w'.snapshot.db.events, e.workspaceId = r.workspaceId →
      e.eventSequence ≤ r.checkpointSequence → e ∈ w.snapshot.db.events) ∧
    ∃ r' ∈ w'.snapshot.db.manifestRuns, RunKept r r' ∧ (r'.state = .completed →
      r.checkpointSequence ≤ (w'.snapshot.db.watermarks r.context).acknowledgedSequence) := by
  have inv := inv_of_reachable reached
  refine ⟨fun e hm hw hb => settled_complete reached
    (inv.devices.anchored r stands) settled leads hm hw hb, ?_⟩
  obtain ⟨r', ht', hk⟩ := run_later (later_of_leads reached leads) stands
  refine ⟨r', ht', hk, fun hc => ?_⟩
  have ⟨_, ha⟩ := (inv_of_reachable (Machine.Leads.reachable reached leads)).devices.completed r'
    ht' hc
  rw [hk.checkpoint, hk.context] at ha
  exact ha

/-! ## A skipped create -/

/-- The device captures a conflict of the first note. -/
def sampleCapture : CaptureRequest where
  command := {
    workspaceId := 1
    sourceId := some 1
    conflictKind := .staleContent
    originatingEventId := 510
    originatingDeviceId := 7
    idempotencyKey := "c1"
    baseVersionId := some 301
    observedRemoteVersionId := some 301
    candidate := .content 201
    normalizedLocator := none
    shape := rfl }
  conflictId := 800

def sampleManifest (command : ManifestCommand) : StoreCall :=
  .manifest ⟨command, ⟨false, some 1, true⟩⟩

def sampleContext : DeviceSyncContext := ⟨1, 8⟩

/-- The run of another device, from its start to the last statement of its plan. -/
def manifestToPlan (i : Nat) : List (Action StoreCall) :=
  .spawn (sampleManifest (.start ⟨sampleContext, 1, 900⟩)) :: advances i 5 ++
    .spawn (sampleManifest (.finalize ⟨sampleContext, 900, 0, ""⟩)) :: advances (i + 1) 7

/-- The run from its plan to its completion. -/
def manifestToCompletion (i : Nat) : List (Action StoreCall) :=
  .spawn (sampleManifest (.readActions ⟨sampleContext, 900, 0, 100⟩)) :: advances i 5 ++
    .spawn (sampleManifest (.complete ⟨sampleContext, 900, ""⟩)) :: advances (i + 1) 6

/-- A second create has its number when a conflict is captured and a run is planned. -/
def lateCreateScript : List (Action StoreCall) :=
  createScript ++ .spawn (.publication (sampleCreate 2 "k2" "b.md")) :: advances 1 9 ++
    .spawn (.capture sampleCapture) :: advances 2 6 ++ manifestToPlan 3

/-- A run planned without the second create. -/
def settledScript : List (Action StoreCall) :=
  createScript ++ .spawn (.capture sampleCapture) :: advances 1 6 ++ manifestToPlan 2

theorem checkpoint_sound_completed : ∃ w w' r r',
    (storeMachine sampleEnvironment).Reachable w ∧ (storeMachine sampleEnvironment).Leads w w' ∧
    w.snapshot.db.manifestRuns = [r] ∧ r.checkpointSequence = 2 ∧
    w'.snapshot.db.manifestRuns = [r'] ∧ r'.state = .completed ∧
    (∀ e ∈ w'.snapshot.db.events, e.workspaceId = r.workspaceId →
      e.eventSequence ≤ r.checkpointSequence → e ∈ w.snapshot.db.events) ∧
    r.checkpointSequence ≤ (w'.snapshot.db.watermarks r.context).acknowledgedSequence := by
  obtain ⟨w, ran⟩ : ∃ w,
      (storeMachine sampleEnvironment).run emptyWorld settledScript = some w := ⟨_, rfl⟩
  obtain ⟨w', hc⟩ : ∃ w', (storeMachine sampleEnvironment).run w
      (.advance 3 :: manifestToCompletion 4) = some w' := by
    cases ran
    exact ⟨_, rfl⟩
  have hr := Machine.reachable_of_run (emptyWorld_init _) ran
  have hl := Machine.leads_of_run hc
  have hi : ∀ s ∈ w.sessions, s.own.drawn = [] := by
    cases ran
    decide
  have hs (r : ManifestRun) (ht : r ∈ w.snapshot.db.manifestRuns) :=
    checkpoint_sound hr ht (fun s hru _ n hh _ => by
      rw [hi s hru] at hh
      cases hh) hl
  cases ran
  cases hc
  obtain ⟨hco, r', ht, _, ha⟩ := hs _ (List.mem_singleton.mpr rfl)
  obtain rfl := List.mem_singleton.mp ht
  exact ⟨_, _, _, _, hr, hl, rfl, rfl, rfl, rfl, hco, ha rfl⟩

/-- A completed run can skip an event: one that had its number when the run was planned. -/
theorem late_create_is_skipped : ¬∀ (env : Environment) (w w' later : StoreWorld)
    (a : Action StoreCall), (storeMachine env).Reachable w →
      (storeMachine env).step w a = some w' → (storeMachine env).Leads w' later →
        ∀ r ∈ w.snapshot.db.manifestRuns, r.state = .collecting →
          (∃ p ∈ w'.snapshot.db.manifestRuns, p.manifestRunId = r.manifestRunId ∧
            p.state = .planned) →
          (∃ c ∈ later.snapshot.db.manifestRuns, c.manifestRunId = r.manifestRunId ∧
            c.state = .completed) →
          ∀ e ∈ later.snapshot.db.events, e.workspaceId = r.workspaceId →
            e.eventSequence ≤ r.checkpointSequence → e ∈ w.snapshot.db.events := by
  intro hcl
  obtain ⟨w, ran⟩ : ∃ w,
      (storeMachine sampleEnvironment).run emptyWorld lateCreateScript = some w := ⟨_, rfl⟩
  obtain ⟨w', hp⟩ : ∃ w', (storeMachine sampleEnvironment).step w (.advance 4) = some w' := by
    cases ran
    exact ⟨_, rfl⟩
  obtain ⟨later, hc⟩ : ∃ later, (storeMachine sampleEnvironment).run w'
      (manifestToCompletion 5 ++ advances 1 2) = some later := by
    cases ran
    cases hp
    exact ⟨_, rfl⟩
  have hv := hcl sampleEnvironment w w' later _
    (Machine.reachable_of_run (emptyWorld_init _) ran) hp (Machine.leads_of_run hc)
  cases ran
  cases hp
  cases hc
  have hs := hv _ (List.mem_singleton.mpr rfl) rfl ⟨_, List.mem_singleton.mpr rfl, rfl, rfl⟩
    ⟨_, List.mem_singleton.mpr rfl, rfl, rfl⟩ _
    (List.mem_cons_of_mem _ (List.mem_cons_of_mem _ List.mem_cons_self)) rfl (by decide)
  revert hs
  decide

end PersonalOs.SourceStore
