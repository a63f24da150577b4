import PersonalOs.SourceStore.ManifestSafety

/-!
# The device event store is safe

A pull moves the delivered watermark of its device to an event of its workspace, an
acknowledgement moves the acknowledged one within the cursor it has locked, and both answer
for a cursor of some moment of the call.
-/

namespace PersonalOs.SourceStore

open Transactions CursorLemmas

variable {env : Environment} {hst : Prop} {o : StoreOwn} {hbo s s' : Snapshot Db}
  {context : DeviceSyncContext}

/-! ## Pull -/

section Pull

variable {l : Nat}

theorem pullError_safe {e : DeviceEventError} :
    Safe (rules env hst) (.device ⟨context, .pull l⟩) hbo (.done (.pull (.error e))) o s :=
  fun _ _ _ => trivial

theorem pullPage_safe {p : DeviceSync.DeviceEventPage}
    (hb : Behind ⟨p.acknowledgedSequence, p.deliveredThroughSequence⟩ (s.db.watermarks context)) :
    Safe (rules env hst) (.device ⟨context, .pull l⟩) hbo (.done (.pull (.ok p))) o s :=
  fun _ ho _ => hb.trans (behind_later ho)

theorem page_reached {db : Db} {wi : WorkspaceId} {d c : Nat}
    {ev : List DeviceSync.DeviceSyncEvent}
    (hh : ((DeviceSync.pullPage (db.eventRows wi) d c (l + 1)).take l).mapM (·.hydrated) = .ok ev)
    {et : DeviceSync.DeviceSyncEvent} (hl : ev.getLast? = some et) :
    Reached db wi et.eventSequence := by
  have hs := DeviceSync.EventStoreLemmas.hydrated_sequences hh
  have hm := List.mem_map_of_mem (f := DeviceSync.DeviceSyncEvent.eventSequence)
    (List.mem_of_getLast? hl)
  rw [hs] at hm
  obtain ⟨row, hi, he⟩ := List.mem_map.mp hm
  have hin := (List.mem_filter.mp (List.mem_of_mem_take (List.mem_of_mem_take hi))).1
  obtain ⟨e, hso, rfl⟩ := List.mem_map.mp hin
  obtain ⟨ht, hw⟩ := List.mem_filter.mp (List.mem_insertionSort _ |>.mp hso)
  exact .inr ⟨e, ht, of_decide_eq_true hw, Nat.le_of_eq he.symm⟩

theorem reached_later {wi : WorkspaceId} {n : Nat}
    (ho : Rely (rules env hst) o s s') (hr : Reached s.db wi n) :
    Reached s'.db wi n :=
  hr.mono (grows_of_rely ho).events

theorem advanceDelivered_reaches (cu : List DeviceCursor) (context : DeviceSyncContext)
    (d : Nat) : ∃ c, (advanceDelivered cu context d).find?
        (DeviceCursor.ownedBy context) = some c ∧ d ≤ c.deliveredThroughSequence := by
  rw [advanceDelivered, find?_updateCursor (by intro c; split <;> rfl), find?_bootstrapCursor,
    if_pos rfl, if_pos rfl]
  refine ⟨_, rfl, ?_⟩
  dsimp only
  split
  · exact Nat.le_refl _
  next hr => exact Nat.le_of_not_lt hr

theorem pullPageThen_safe {cu : DeviceSync.DeviceCursor} {ch : Option Nat}
    (hb : Behind cu (s.db.watermarks context)) :
    Safe (rules env hst) (.device ⟨context, .pull l⟩) hbo
      (pullPageThen context l cu ch fun rs => .done (.pull rs)) .none s := by
  have hi : Safe (rules env hst) (.device ⟨context, .pull l⟩) hbo
      (.rollback (.done (.pull (.ok (idlePage cu))))) .none s :=
    Safe.rollback fun t ho _ => pullPage_safe (hb.trans (behind_later ho))
  unfold pullPageThen
  dsimp only
  split
  · exact hi
  split
  · exact hi
  refine Safe.read fun s₁ ho₁ hi₁ => ?_
  split
  · exact Safe.rollback fun _ _ _ => pullError_safe
  next e hh =>
    by_cases hs : (e.getLast?.map (·.eventSequence)).getD cu.deliveredThroughSequence ≤
        cu.deliveredThroughSequence
    · rw [if_pos hs]
      refine Safe.rollback fun t ho _ => pullPage_safe ?_
      have hr := (hb.trans (behind_later ho₁)).trans (behind_later ho)
      exact ⟨hr.acknowledged, Nat.le_trans hs hr.delivered⟩
    · rw [if_neg hs]
      cases hl : e.getLast? with
      | none => simp [hl] at hs
      | some ev =>
        have hr := page_reached hh hl
        simp only [Option.map_some, Option.getD_some]
        refine Safe.lock fun s₂ ho₂ hi₂ => commitThen_safe fun s₃ ho₃ hi₃ => ?_
        have ho : Rely (rules env hst) .none s₁ s₃ := (Rely.toNone ho₂).trans (Rely.toNone ho₃)
        have hg : StoreGuar env hst (.device ⟨context, .pull l⟩)
            (Own.none.withLock (.deviceCursorRow context.workspaceId context.deviceId)) s₃
            { s₃.db with cursors := advanceDelivered s₃.db.cursors context ev.eventSequence } :=
          sideCommit_devices ⟨.still rfl, .deliver context l _ rfl List.mem_cons_self
            (reached_later ho hr), fun r ht _ => .inl ht⟩ rfl
        refine ⟨hg, pullPage_safe ⟨?_, ?_⟩⟩
        · have hs₃ := (hb.trans (behind_later ho₁)).trans (behind_later ho)
          exact Nat.le_trans hs₃.acknowledged (StoreGuar.deviceMove hg).behind.acknowledged
        · obtain ⟨c, hf, hre⟩ := advanceDelivered_reaches s₃.db.cursors context ev.eventSequence
          simp only [Db.watermarks, Db.cursor, hf]
          exact hre

theorem pullOnce_safe {oe : Failure → StoreProgram}
    (hf : ∀ f, SafeAfter (rules env hst) (.device ⟨context, .pull l⟩) hbo (oe f)) :
    SafeAfter (rules env hst) (.device ⟨context, .pull l⟩) hbo (pullOnce env context l oe) := by
  intro s hl inv
  simp only [pullOnce]
  refine Safe.begin hl hf fun s₁ ho₁ hi₁ => Safe.read fun s₂ ho₂ hi₂ =>
    Safe.read fun s₃ ho₃ hi₃ => ?_
  have hb : Behind (s₂.db.watermarks context) (s₃.db.watermarks context) := behind_later ho₃
  split
  · refine Safe.read fun s₄ ho₄ hi₄ => ?_
    split
    · exact Safe.rollback fun _ _ _ => pullError_safe
    · exact pullPageThen_safe (hb.trans (behind_later ho₄))
  · exact pullPageThen_safe hb

end Pull

/-! ## Acknowledge -/

section Acknowledge

variable {expectedPrevious appliedThrough : Nat}

theorem acknowledgeError_safe {e : DeviceEventError}
    (hg : e = .dependencyUnavailable ∨ e = .internalError) :
    Safe (rules env hst) (.device ⟨context, .acknowledge expectedPrevious appliedThrough⟩) hbo
      (.done (.acknowledgement (.error e))) o s := by
  intro _ _ _
  rcases hg with rfl | rfl
  · exact .inl rfl
  · exact .inr (.inl rfl)

theorem acknowledged_expected {c : DeviceSync.DeviceCursor}
    {r : DeviceSync.DeviceCursor × Option DeviceSync.DeviceCursor}
    (ha : DeviceSync.acknowledgeOnce (some c) expectedPrevious appliedThrough =
      .ok r) (hm : appliedThrough ≠ c.acknowledgedSequence) :
    expectedPrevious = c.acknowledgedSequence := by
  simp only [DeviceSync.acknowledgeOnce] at ha
  by_contra hd
  rw [if_neg hm, if_pos hd] at ha
  split at ha
  · cases ha
  split at ha <;> cases ha

/-- The answer to an acknowledgement is what its rule says of a cursor of the call. -/
theorem acknowledged_safe {c : Option DeviceSync.DeviceCursor}
    {row : DeviceSync.DeviceCursor} {w : Option DeviceSync.DeviceCursor}
    (hb : Behind (hbo.db.watermarks context) (DeviceSync.readCursor c))
    (haf : Behind (DeviceSync.readCursor c) (s.db.watermarks context))
    (ha : DeviceSync.acknowledgeOnce c expectedPrevious appliedThrough =
      .ok (row, w)) (hr : Behind row (s.db.watermarks context)) :
    Safe (rules env hst) (.device ⟨context, .acknowledge expectedPrevious appliedThrough⟩) hbo
      (.done (.acknowledgement (.ok ⟨row.acknowledgedSequence, row.deliveredThroughSequence⟩)))
      o s := by
  intro t ho _
  refine .inr (.inr ⟨c, hb, haf.trans (behind_later ho), ?_⟩)
  rw [ha]
  exact ⟨rfl, hr.trans (behind_later ho)⟩

theorem refused_safe {c : Option DeviceSync.DeviceCursor} {co : DeviceSync.DeviceSyncErrorCode}
    (hb : Behind (hbo.db.watermarks context) (DeviceSync.readCursor c))
    (ha : Behind (DeviceSync.readCursor c) (s.db.watermarks context))
    (hr : DeviceSync.acknowledgeOnce c expectedPrevious appliedThrough = .error co) :
    Safe (rules env hst) (.device ⟨context, .acknowledge expectedPrevious appliedThrough⟩) hbo
      (.rollback (.done (.acknowledgement (.error (.closed co))))) o s := by
  refine Safe.rollback fun t ho _ t' ho' _ => ?_
  refine .inr (.inr ⟨c, hb, ha.trans ((behind_later ho).trans (behind_later ho')), ?_⟩)
  rw [hr]

/-- An acknowledgement without a cursor row, in front of the lock or behind it. -/
def acknowledgeAbsent (context : DeviceSyncContext) (expectedPrevious appliedThrough : Nat) :
    StoreProgram :=
  match DeviceSync.acknowledgeOnce none expectedPrevious appliedThrough with
  | .error code => .rollback (.done (.acknowledgement (.error (.closed code))))
  | .ok (row, _) => .lock (.deviceCursorRow context.workspaceId context.deviceId) <|
    commitThen (fun db => { db with cursors := bootstrapCursor db.cursors context 0 0 })
      (.done (.acknowledgement (.ok ⟨row.acknowledgedSequence, row.deliveredThroughSequence⟩)))

theorem acknowledgeAbsent_safe {t : Snapshot Db} (hr : Rely (rules env hst) .none hbo t)
    (hn : t.db.cursor context = none) :
    Safe (rules env hst) (.device ⟨context, .acknowledge expectedPrevious appliedThrough⟩)
      hbo (acknowledgeAbsent context expectedPrevious appliedThrough) o t := by
  unfold acknowledgeAbsent
  have hz : t.db.watermarks context = ⟨0, 0⟩ := by
    rw [Db.watermarks, hn]
    rfl
  have hb : Behind (hbo.db.watermarks context) (DeviceSync.readCursor none) := by
    rw [show DeviceSync.readCursor none = t.db.watermarks context from hz.symm]
    exact behind_later hr
  have hl (c : DeviceSync.DeviceCursor) : Behind ⟨0, 0⟩ c := ⟨Nat.zero_le _, Nat.zero_le _⟩
  cases ha : DeviceSync.acknowledgeOnce none expectedPrevious appliedThrough with
  | error co => exact refused_safe hb (hl _) ha
  | ok rs =>
    obtain ⟨row, w⟩ := rs
    have hf : row = ⟨0, 0⟩ := by
      have hs := DeviceSync.acknowledgeOnce_spec ha
      have hap : appliedThrough = 0 := Nat.le_zero.mp hs.2.1
      rw [hs.2.2.2, hs.2.2.1, hap]
      rfl
    refine Safe.lock fun s₂ ho₂ hi₂ => commitThen_safe fun s₃ ho₃ hi₃ => ⟨?_, ?_⟩
    · exact sideCommit_devices ⟨.still rfl, .bootstrap context expectedPrevious appliedThrough rfl
        List.mem_cons_self, fun r ht _ => .inl ht⟩ rfl
    · refine acknowledged_safe hb (hl _) ha ?_
      rw [hf]
      exact hl _

theorem acknowledgeOnce_safe {oe : Failure → StoreProgram} (hf : ∀ f, SafeAfter (rules env hst)
      (.device ⟨context, .acknowledge expectedPrevious appliedThrough⟩) hbo (oe f)) :
    SafeAfter (rules env hst) (.device ⟨context, .acknowledge expectedPrevious appliedThrough⟩)
      hbo (acknowledgeOnce context expectedPrevious appliedThrough oe) := by
  intro s hl inv
  simp only [acknowledgeOnce]
  refine Safe.begin hl hf fun s₁ ho₁ hi₁ => ?_
  have hl₁ : Rely (rules env hst) .none hbo s₁ := hl.trans ho₁
  refine Safe.selectForUpdate (fun t ho _ hn => acknowledgeAbsent_safe (hl₁.trans ho) hn)
    (fun t _ ho _ hn => acknowledgeAbsent_safe (hl₁.trans ho) hn) ?_
  intro t cu _ ho inv hfo
  have hh : t.db.watermarks context = cu.watermarks := by
    rw [Db.watermarks, hfo]
    rfl
  have hb : Behind (hbo.db.watermarks context) (DeviceSync.readCursor (some cu.watermarks)) := by
    rw [show DeviceSync.readCursor (some cu.watermarks) = t.db.watermarks context from hh.symm]
    exact behind_later (hl₁.trans ho)
  have ht : Behind (DeviceSync.readCursor (some cu.watermarks)) (t.db.watermarks context) := by
    rw [hh]
    exact .refl _
  split
  next co hre => exact refused_safe hb ht hre
  next row w ha =>
    have hs := DeviceSync.acknowledgeOnce_spec ha
    have hr : row = { cu.watermarks with acknowledgedSequence := appliedThrough } :=
      hs.2.2.2.trans hs.2.2.1
    split
    next he =>
      refine Safe.rollback fun t' ho' _ => acknowledged_safe hb (ht.trans (behind_later ho')) ha ?_
      rw [hr, he]
      exact ht.trans (behind_later ho')
    next hm =>
      refine commitThen_safe fun t' ho' hi' => ?_
      have hf' : t'.db.cursor context = some cu := (frozen_cursor List.mem_cons_self ho').trans hfo
      have hbe : cu.acknowledgedSequence < appliedThrough := Nat.lt_of_le_of_ne hs.1 (Ne.symm hm)
      refine ⟨sideCommit_devices ⟨.still rfl, .acknowledge context expectedPrevious appliedThrough
        cu rfl List.mem_cons_self hf' (acknowledged_expected ha hm) hbe hs.2.1,
        fun r ht _ => .inl ht⟩ rfl, ?_⟩
      have had : Db.watermarks { t'.db with
          cursors := advanceAcknowledged t'.db.cursors context appliedThrough } context =
            { cu.watermarks with acknowledgedSequence := appliedThrough } := by
        have how : t'.db.cursors.find? (DeviceCursor.ownedBy context) = some cu := hf'
        rw [Db.watermarks, Db.cursor, advanceAcknowledged, find?_updateCursor (by intro c; rfl),
          if_pos rfl, how]
        rfl
      refine acknowledged_safe hb ?_ ha ?_
      · rw [had]
        exact ⟨Nat.le_of_lt hbe, Nat.le_refl _⟩
      · rw [had, hr]
        exact .refl _

end Acknowledge

theorem deviceProgram_safe (env : Environment) (hst : Prop) (ca : DeviceCall)
    (s : Snapshot Db) (inv : StoreInv env s) :
    Safe (rules env hst) (.device ca) s (deviceProgram env ca) .none s := by
  obtain ⟨context, c⟩ := ca
  cases c with
  | pull l =>
    exact deviceSyncRetry_safe (fun _ hf => pullOnce_safe hf)
      (fun _ _ _ => pullError_safe) (fun _ _ _ => pullError_safe) _ s .refl inv
  | acknowledge expectedPrevious appliedThrough =>
    exact deviceSyncRetry_safe (fun _ hf => acknowledgeOnce_safe hf)
      (fun _ _ _ => acknowledgeError_safe (.inl rfl))
      (fun _ _ _ => acknowledgeError_safe (.inr rfl)) _ s .refl inv

end PersonalOs.SourceStore
