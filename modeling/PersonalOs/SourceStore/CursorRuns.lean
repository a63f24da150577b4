import PersonalOs.SourceStore.Checkpoints

/-!
# Device cursors in every run

Pulls, acknowledgements and completions of manifest runs write the two watermarks of a device.
Each writes under the row lock of the cursor, and only forward from the values it stands on.
-/

namespace PersonalOs.SourceStore

open Transactions

variable {env : Environment} {w w' : StoreWorld}

/-! ## The law -/

def acknowledgementCall (context : DeviceSyncContext) (expectedPrevious appliedThrough : Nat) :
    StoreCall :=
  .device ⟨context, .acknowledge expectedPrevious appliedThrough⟩

def DatabaseFailed (result : Except DeviceEventError DeviceCursorReceipt) : Prop :=
  result = .error .dependencyUnavailable ∨ result = .error .internalError

/-- An acknowledgement is accepted at watermarks that admit it. -/
structure Admits (cursor : DeviceSync.DeviceCursor) (expectedPrevious appliedThrough : Nat)
    (receipt : DeviceCursorReceipt) : Prop where
  above : cursor.acknowledgedSequence ≤ appliedThrough
  below : appliedThrough ≤ cursor.deliveredThroughSequence
  expected : appliedThrough = cursor.acknowledgedSequence ∧
      expectedPrevious ≤ cursor.acknowledgedSequence ∨
    expectedPrevious = cursor.acknowledgedSequence
  receipt : receipt = ⟨appliedThrough, cursor.deliveredThroughSequence⟩

variable {appliedThrough expectedPrevious : Nat} {cursor : Option DeviceSync.DeviceCursor}

theorem acknowledgeOnce_admits {row : DeviceSync.DeviceCursor}
    {sd : Option DeviceSync.DeviceCursor}
    (ha : DeviceSync.acknowledgeOnce cursor expectedPrevious appliedThrough = .ok (row, sd)) :
    Admits (DeviceSync.readCursor cursor) expectedPrevious appliedThrough
      ⟨row.acknowledgedSequence, row.deliveredThroughSequence⟩ := by
  unfold DeviceSync.acknowledgeOnce at ha
  cases cursor with
  | none =>
    simp only at ha
    split at ha
    · cases ha
    next hn =>
      split at ha
      · cases ha
      next he =>
        cases ha
        have hz : appliedThrough = 0 := Nat.eq_zero_of_not_pos hn
        subst hz
        exact ⟨Nat.le_refl _, Nat.le_refl _, .inr (not_not.mp he), rfl⟩
  | some c =>
    simp only at ha
    split at ha
    · cases ha
    next hab =>
      split at ha
      · cases ha
      next hb =>
        have hab := Nat.le_of_not_lt hab
        have hb := Nat.le_of_not_lt hb
        split at ha
        next hs =>
          split at ha
          · cases ha
          next he =>
            cases ha
            exact ⟨hab, hb, .inl ⟨hs, Nat.le_of_not_lt he⟩, by rw [hs]; rfl⟩
        next =>
          split at ha
          · cases ha
          next he =>
            cases ha
            exact ⟨hab, hb, .inr (not_not.mp he), rfl⟩

/-- Where the cursor has been brought, the acknowledgement that brought it there is accepted
again and changes nothing. -/
theorem acknowledgeOnce_again
    (he : expectedPrevious ≤ (DeviceSync.readCursor cursor).acknowledgedSequence)
    (ho : (DeviceSync.readCursor cursor).acknowledgedSequence ≤
      (DeviceSync.readCursor cursor).deliveredThroughSequence) :
    ∃ sd, DeviceSync.acknowledgeOnce cursor expectedPrevious
        (DeviceSync.readCursor cursor).acknowledgedSequence =
      .ok (DeviceSync.readCursor cursor, sd) := by
  cases cursor with
  | none =>
    have hz : expectedPrevious = 0 := Nat.le_zero.mp he
    subst hz
    exact ⟨_, rfl⟩
  | some c =>
    have he : expectedPrevious ≤ c.acknowledgedSequence := he
    have ho : c.acknowledgedSequence ≤ c.deliveredThroughSequence := ho
    refine ⟨some c, ?_⟩
    show DeviceSync.acknowledgeOnce (some c) expectedPrevious c.acknowledgedSequence = _
    simp only [DeviceSync.acknowledgeOnce]
    rw [if_neg (Nat.lt_irrefl _), if_neg (Nat.not_lt.mpr ho), if_pos trivial,
      if_neg (Nat.not_lt.mpr he)]
    rfl

theorem acknowledgeOnce_regression
    (ho : appliedThrough < (DeviceSync.readCursor cursor).acknowledgedSequence) :
    DeviceSync.acknowledgeOnce cursor expectedPrevious appliedThrough =
      .error .cursorRegression := by
  cases cursor with
  | none => exact absurd ho (Nat.not_lt_zero _)
  | some c =>
    have ho : appliedThrough < c.acknowledgedSequence := ho
    simp only [DeviceSync.acknowledgeOnce]
    rw [if_pos ho]

/-- What every run keeps of the cursors of its devices. -/
structure CursorLaw (env : Environment) (w : StoreWorld) : Prop where
  /-- The watermarks are in order and within the events of the workspace. -/
  ordered : ∀ context, (w.snapshot.db.watermarks context).acknowledgedSequence ≤
      (w.snapshot.db.watermarks context).deliveredThroughSequence ∧
    (w.snapshot.db.watermarks context).deliveredThroughSequence ≤
      (w.snapshot.db.eventCheckpoint context.workspaceId).getD 0
  /-- They never decrease: what an acknowledgement or a completion has reached stays. -/
  forward : ∀ w', (storeMachine env).Leads w w' → ∀ context,
    Behind (w.snapshot.db.watermarks context) (w'.snapshot.db.watermarks context)
  /-- A step moves them as its call asks, from the values it finds. -/
  moves : ∀ a w', (storeMachine env).step w a = some w' → ∀ context,
    w'.snapshot.db.watermarks context = w.snapshot.db.watermarks context ∨
      ∃ (i : Nat) (s : StoreSession), a = .advance i ∧ w.sessions[i]? = some s ∧
        WatermarkMove s.call.deviceCall s.call.manifestCall w.snapshot.db
          w'.snapshot.db.manifestRuns context (w.snapshot.db.watermarks context)
          (w'.snapshot.db.watermarks context)
  /-- An acknowledgement is accepted at watermarks of the call that admit it, and its receipt is
  not ahead of the cursor. -/
  accepted : ∀ s ∈ w.sessions, ∀ context expectedPrevious appliedThrough receipt,
    s.call = acknowledgementCall context expectedPrevious appliedThrough →
    s.program = .done (.acknowledgement (.ok receipt)) →
      ∃ cursor, Behind (s.born.db.watermarks context) cursor ∧
        Behind ⟨receipt.acknowledgedSequence, receipt.deliveredThroughSequence⟩
          (w.snapshot.db.watermarks context) ∧
        Admits cursor expectedPrevious appliedThrough receipt
  /-- Repeated while the cursor stands where it left it, it returns its receipt; repeated after
  a greater value has been acknowledged, it is refused. -/
  repeated : ∀ s ∈ w.sessions, ∀ context expectedPrevious appliedThrough receipt,
    s.call = acknowledgementCall context expectedPrevious appliedThrough →
    s.program = .done (.acknowledgement (.ok receipt)) →
    ∀ u w', (storeMachine env).Leads w u → (storeMachine env).Leads u w' →
    ∀ s' ∈ w'.sessions, s'.call = acknowledgementCall context expectedPrevious appliedThrough →
    s'.born = u.snapshot → ∀ result, s'.program = .done (.acknowledgement result) →
      (w'.snapshot.db.watermarks context =
          ⟨receipt.acknowledgedSequence, receipt.deliveredThroughSequence⟩ →
        result = .ok receipt ∨ DatabaseFailed result) ∧
      (appliedThrough < (u.snapshot.db.watermarks context).acknowledgedSequence →
        result = .error (.closed .cursorRegression) ∨ DatabaseFailed result)
  /-- A completed run stays as it is, so it moves the cursor in the step of its completion
  only. -/
  once : ∀ r ∈ w.snapshot.db.manifestRuns, r.state = .completed →
    r.checkpointSequence ≤ (w.snapshot.db.watermarks r.context).acknowledgedSequence ∧
    ∀ w', (storeMachine env).Leads w w' → ∀ r' ∈ w'.snapshot.db.manifestRuns,
      r'.manifestRunId = r.manifestRunId → r' = r

/-! ## What keeps it -/

theorem reached_checkpoint {db : Db} {wi : WorkspaceId} {n : Nat}
    (hr : Reached db wi n) : n ≤ (db.eventCheckpoint wi).getD 0 := by
  rcases hr with rfl | ⟨e, ht, hw, ha⟩
  · exact Nat.zero_le _
  · have hm : e.eventSequence ∈ (db.events.filter fun e => e.workspaceId = wi).map
        SyncEvent.eventSequence :=
      List.mem_map_of_mem (List.mem_filter.mpr ⟨ht, decide_eq_true hw⟩)
    cases hf : db.eventCheckpoint wi with
    | none =>
      rw [List.max?_eq_none_iff.mp hf] at hm
      cases hm
    | some c =>
      exact Nat.le_trans ha ((List.max?_eq_some_iff.mp hf).2 _ hm)

theorem CursorTable.watermarks_ordered {db : Db} (hta : CursorTable db)
    (co : DeviceSyncContext) : (db.watermarks co).acknowledgedSequence ≤
        (db.watermarks co).deliveredThroughSequence ∧
      Reached db co.workspaceId (db.watermarks co).deliveredThroughSequence := by
  unfold Db.watermarks
  cases hf : db.cursor co with
  | none => exact ⟨Nat.le_refl _, .inl rfl⟩
  | some c =>
    have ht := List.mem_of_find?_eq_some hf
    have ho := CursorLemmas.ownedBy_iff.mp (List.find?_some hf)
    have hw : c.workspaceId = co.workspaceId := congrArg DeviceSyncContext.workspaceId ho
    exact ⟨hta.ordered c ht, hw ▸ hta.reached c ht⟩

theorem watermarks_forward (hr : (storeMachine env).Reachable w)
    (hl : (storeMachine env).Leads w w') (c : DeviceSyncContext) :
    Behind (w.snapshot.db.watermarks c) (w'.snapshot.db.watermarks c) :=
  behind_later (later_of_leads hr hl)

theorem acknowledgement_answer (hr : (storeMachine env).Reachable w) {s : StoreSession}
    (hru : s ∈ w.sessions) {c : DeviceSyncContext}
    {r : Except DeviceEventError DeviceCursorReceipt}
    (is : s.call = acknowledgementCall c expectedPrevious appliedThrough)
    (hre : s.program = .done (.acknowledgement r)) :
    GoodAcknowledgement c expectedPrevious appliedThrough s.born.db w.snapshot.db r := by
  obtain ⟨i, ht⟩ := List.mem_iff_getElem?.mp hru
  have hg := answer_good (sound_of_reachable hr) ht hre
  rw [is] at hg
  exact hg

theorem accepted_acknowledgement (hr : (storeMachine env).Reachable w) {s : StoreSession}
    (hru : s ∈ w.sessions) {c : DeviceSyncContext} {r : DeviceCursorReceipt}
    (is : s.call = acknowledgementCall c expectedPrevious appliedThrough)
    (hre : s.program = .done (.acknowledgement (.ok r))) :
    ∃ cursor, Behind (s.born.db.watermarks c) cursor ∧
      Behind ⟨r.acknowledgedSequence, r.deliveredThroughSequence⟩ (w.snapshot.db.watermarks c) ∧
      Admits cursor expectedPrevious appliedThrough r := by
  rcases acknowledgement_answer hr hru is hre with
    hf | hf | ⟨cursor, haf, _, ha⟩
  · cases hf
  · cases hf
  · cases hac : DeviceSync.acknowledgeOnce cursor expectedPrevious appliedThrough with
    | error co =>
      rw [hac] at ha
      cases ha
    | ok an =>
      rw [hac] at ha
      obtain ⟨han, hb⟩ := ha
      cases han
      exact ⟨_, haf, hb, acknowledgeOnce_admits hac⟩

theorem Behind.antisymm {a b : DeviceSync.DeviceCursor} (ht : Behind a b) (hb : Behind b a) :
    a = b := by
  obtain ⟨ac, d⟩ := a
  obtain ⟨a', d'⟩ := b
  have ha := Nat.le_antisymm ht.acknowledged hb.acknowledged
  have hd := Nat.le_antisymm ht.delivered hb.delivered
  exact congrArg₂ DeviceSync.DeviceCursor.mk ha hd

/-- In every run the cursor of a device is ordered, moves forward only, and is acknowledged and
completed as the law says. -/
theorem cursor_invariant (reached : (storeMachine env).Reachable w) : CursorLaw env w where
  ordered := by
    intro c
    obtain ⟨ordered, hw⟩ := (inv_of_reachable reached).devices.cursors.watermarks_ordered c
    exact ⟨ordered, reached_checkpoint hw⟩
  forward := fun w' hl => watermarks_forward reached hl
  moves := by
    intro a w' hv c
    rcases commit_of_change (sound_of_reachable reached) hv with
      he | ⟨i, s, hae, ht, hg⟩
    · exact .inl (by rw [he])
    · exact .inr ⟨i, s, hae, ht, hg.deviceMove.cursors.watermarks⟩
  accepted := fun _ runs _ _ _ _ is hrs => accepted_acknowledgement reached runs is hrs
  repeated := by
    intro s runs c expectedPrevious appliedThrough re is hrs u w' toU hfr s' hru' is' hla rs hre'
    obtain ⟨cursor, _, hr, had⟩ := accepted_acknowledgement reached runs is hrs
    have hre := had.receipt
    have hru := Machine.Leads.reachable reached toU
    have hr' := Machine.Leads.reachable hru hfr
    rcases acknowledgement_answer hr' hru' is' hre' with
      hf | hf | ⟨c', haf, hb, han⟩
    · exact ⟨fun _ => .inr (.inl hf), fun _ => .inr (.inl hf)⟩
    · exact ⟨fun _ => .inr (.inr hf), fun _ => .inr (.inr hf)⟩
    rw [hla] at haf
    constructor
    · intro hun
      have hon := hr.trans ((watermarks_forward reached toU c).trans haf)
      rw [hun] at hb
      have he := hb.antisymm hon
      have ha : (DeviceSync.readCursor c').acknowledgedSequence = appliedThrough := by
        rw [he, hre]
      have hex : expectedPrevious ≤ appliedThrough := by
        rcases had.expected with ⟨heq, le⟩ | heq
        · exact heq ▸ le
        · exact heq ▸ had.above
      obtain ⟨sd, hag⟩ := acknowledgeOnce_again (ha.symm ▸ hex) (by rw [he, hre]; exact had.below)
      rw [ha] at hag
      rw [hag] at han
      left
      rw [han.1, he]
    · intro ho
      rw [acknowledgeOnce_regression (Nat.lt_of_lt_of_le ho haf.acknowledged)] at han
      exact .inl han
  once := by
    intro r ht hc
    refine ⟨(inv_of_reachable reached).devices.completed r ht hc |>.2, ?_⟩
    intro w' hl r' ht' he
    obtain ⟨k, has, hrt⟩ := run_later (later_of_leads reached hl) ht
    have hu := hrt.final (by rw [hc]; rfl)
    rw [hu] at has
    exact run_unique (inv_of_reachable (Machine.Leads.reachable reached hl)) ht' has he

/-! ## Concrete runs -/

/-- A device pulls and acknowledges what it was delivered. -/
def syncedScript : List (Action StoreCall) :=
  createScript ++ .spawn (.device ⟨sampleContext, .pull 10⟩) :: advances 1 6 ++
    .spawn (acknowledgementCall sampleContext 0 1) :: advances 2 5

theorem cursor_invariant_synced : ∃ w, (storeMachine sampleEnvironment).Reachable w ∧
    w.snapshot.db.watermarks sampleContext = ⟨1, 1⟩ ∧ CursorLaw sampleEnvironment w := by
  obtain ⟨w, ran⟩ : ∃ w,
      (storeMachine sampleEnvironment).run emptyWorld syncedScript = some w := ⟨_, rfl⟩
  have hr := Machine.reachable_of_run (emptyWorld_init _) ran
  have law := cursor_invariant hr
  cases ran
  exact ⟨_, hr, rfl, law⟩

/-- After a second event is pulled and acknowledged the first acknowledgement is repeated. -/
def overtakenScript : List (Action StoreCall) :=
  syncedScript ++ .spawn (.publication (sampleCreate 2 "k2" "b.md")) :: advances 3 11 ++
    .spawn (.device ⟨sampleContext, .pull 10⟩) :: advances 4 6 ++
    .spawn (acknowledgementCall sampleContext 1 2) :: advances 5 5 ++
    .spawn (acknowledgementCall sampleContext 0 1) :: advances 6 5

/-- An acknowledgement that a later one has overtaken is refused when it is repeated. -/
theorem repeated_acknowledgement_regresses : ¬∀ (env : Environment) (w : StoreWorld),
    (storeMachine env).Reachable w → ∀ s ∈ w.sessions, ∀ s' ∈ w.sessions,
      ∀ context expectedPrevious appliedThrough receipt result,
      s.call = acknowledgementCall context expectedPrevious appliedThrough →
      s.program = .done (.acknowledgement (.ok receipt)) →
      s'.call = acknowledgementCall context expectedPrevious appliedThrough →
      s'.program = .done (.acknowledgement result) →
        result = .ok receipt ∨ DatabaseFailed result := by
  intro hc
  obtain ⟨w, ran⟩ : ∃ w,
      (storeMachine sampleEnvironment).run emptyWorld overtakenScript = some w := ⟨_, rfl⟩
  have hr := hc sampleEnvironment w (Machine.reachable_of_run (emptyWorld_init _) ran)
  cases ran
  rcases hr _ (List.mem_of_getElem? (i := 2) rfl) _ (List.mem_of_getElem? (i := 6) rfl)
      sampleContext 0 1 _ _ rfl rfl rfl rfl with he | hf | hf
  · cases he
  · cases hf
  · cases hf

end PersonalOs.SourceStore
