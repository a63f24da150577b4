import PersonalOs.DeviceSync.Contracts

/-!
# The device event store: pull pages and the fenced cursor row

`PostgresqlDeviceEventStore` over one workspace and one device. A pull freezes the
workspace head as its checkpoint, pages the deliverable rows strictly above the
delivered watermark and moves the watermark inside its own transaction; an
acknowledgement advances the acknowledged cursor behind the locked row.
-/

namespace PersonalOs.DeviceSync

/-- The closed failures of a pull or an acknowledgement. -/
inductive DeviceSyncErrorCode
  | cursorGap
  | cursorRegression
  | cursorAckAhead
  | eventIntegrityFailed
deriving DecidableEq

/-- One row of the pull's join: the event's own sequence, whether its token is in
`DEVICE_DELIVERABLE_EVENT_TOKENS`, and what `hydrate_device_event` makes of it. -/
structure EventRow where
  eventSequence : Nat
  isDeliverable : Bool
  hydrated : Except DeviceSyncErrorCode DeviceSyncEvent
  /-- Hydration copies the row's sequence into the event. -/
  copiesSequence : ∀ event, hydrated = .ok event → event.eventSequence = eventSequence

/-- The `device_cursors` row of one device. -/
structure DeviceCursor where
  acknowledgedSequence : Nat
  deliveredThroughSequence : Nat
deriving DecidableEq

structure DeviceEventPage where
  acknowledgedSequence : Nat
  pageCheckpointSequence : Nat
  deliveredThroughSequence : Nat
  events : List DeviceSyncEvent
  hasMore : Bool
deriving DecidableEq

def maxPullEvents : Nat := 200

/-- `validate_pull_limit`. -/
def isValidPullLimit (limit : Nat) : Bool := 1 ≤ limit && limit ≤ maxPullEvents

/-! ## Pull -/

def classifyCursorGap (delivered : Nat) (checkpoint : Option Nat) (floor : Nat) : Bool :=
  if delivered ≤ floor then false
  else match checkpoint with
    | none => true
    | some checkpoint => checkpoint < delivered

/-- `device_event_checkpoint_statement`: the largest event sequence of the workspace. -/
def checkpointOf (rows : List EventRow) : Option Nat :=
  (rows.map (·.eventSequence)).max?

/-- `device_pull_page_statement` over rows in sequence order. -/
def pullPage (rows : List EventRow) (after through limit : Nat) : List EventRow :=
  (rows.filter fun row =>
    after < row.eventSequence && row.eventSequence ≤ through && row.isDeliverable).take limit

/-- `_read_cursor`: a device without a row reads as zero and zero. -/
def readCursor (cursor : Option DeviceCursor) : DeviceCursor :=
  cursor.getD ⟨0, 0⟩

/-- `_advance_delivered_watermark`: the conflict-tolerant bootstrap insert followed by
the guarded forward update. -/
def advanceDeliveredWatermark (cursor : Option DeviceCursor) (previous next : Nat) :
    Option DeviceCursor :=
  if next ≤ previous then cursor
  else match cursor with
    | none => some ⟨0, next⟩
    | some row =>
      if row.deliveredThroughSequence < next then
        some { row with deliveredThroughSequence := next }
      else some row

/-- `_pull_once`. `floor` is the workspace compaction floor, read only when retained
history no longer reaches the watermark. -/
def pullOnce (rows : List EventRow) (cursor : Option DeviceCursor) (floor limit : Nat) :
    Except DeviceSyncErrorCode (DeviceEventPage × Option DeviceCursor) := do
  let acknowledged := (readCursor cursor).acknowledgedSequence
  let delivered := (readCursor cursor).deliveredThroughSequence
  let checkpoint := checkpointOf rows
  if delivered > 0 && checkpoint.all (· < delivered) &&
      classifyCursorGap delivered checkpoint floor then
    throw .cursorGap
  match checkpoint with
  | none => return (⟨acknowledged, delivered, delivered, [], false⟩, cursor)
  | some checkpoint =>
    if checkpoint ≤ delivered then
      return (⟨acknowledged, delivered, delivered, [], false⟩, cursor)
    else
      let page := pullPage rows delivered checkpoint (limit + 1)
      let events ← (page.take limit).mapM (·.hydrated)
      let newDelivered := (events.getLast?.map (·.eventSequence)).getD delivered
      return (⟨acknowledged, checkpoint, newDelivered, events, decide (page.length > limit)⟩,
        advanceDeliveredWatermark cursor delivered newDelivered)

/-! ## Acknowledge -/

def acknowledgeOnce (cursor : Option DeviceCursor) (expectedPrevious appliedThrough : Nat) :
    Except DeviceSyncErrorCode (DeviceCursor × Option DeviceCursor) :=
  match cursor with
  | none =>
    if appliedThrough > 0 then .error .cursorAckAhead
    else if expectedPrevious ≠ 0 then .error .cursorRegression
    else .ok (⟨0, 0⟩, some ⟨0, 0⟩)
  | some row =>
    if appliedThrough < row.acknowledgedSequence then .error .cursorRegression
    else if appliedThrough > row.deliveredThroughSequence then .error .cursorAckAhead
    else if appliedThrough = row.acknowledgedSequence then
      if expectedPrevious > row.acknowledgedSequence then .error .cursorRegression
      else .ok (row, some row)
    else if expectedPrevious ≠ row.acknowledgedSequence then .error .cursorRegression
    else
      let advanced := { row with acknowledgedSequence := appliedThrough }
      .ok (advanced, some advanced)

/-! ## What a pull and an acknowledgement do -/

def rowsAbove (rows : List EventRow) (watermark : Nat) : List EventRow :=
  rows.filter fun row => watermark < row.eventSequence && row.isDeliverable

namespace EventStoreLemmas

variable {checkpoint : Nat} {rows : List EventRow}

theorem le_checkpoint {row : EventRow} (hm : row ∈ rows)
    (hf : checkpointOf rows = some checkpoint) :
    row.eventSequence ≤ checkpoint := by
  have hl := (List.max?_eq_some_iff.mp hf).2
  exact hl _ (List.mem_map_of_mem hm)

theorem checkpoint_none (hn : checkpointOf rows = none) : rows = [] := by
  simpa [checkpointOf] using hn

theorem pullPage_eq_rowsAbove {a l : Nat} (hf : checkpointOf rows = some checkpoint) :
    pullPage rows a checkpoint l = (rowsAbove rows a).take l := by
  simp only [pullPage, rowsAbove]
  congr 1
  apply List.filter_congr
  intro row hm
  simp [le_checkpoint hm hf]

theorem rowsAbove_eq_nil {w : Nat} (hf : checkpointOf rows = some checkpoint)
    (hr : checkpoint ≤ w) :
    rowsAbove rows w = [] := by
  simp only [rowsAbove, List.filter_eq_nil_iff]
  intro row hm
  have hb := le_checkpoint hm hf
  simp only [Bool.and_eq_true, decide_eq_true_eq, not_and]
  intro ha
  omega

theorem hydrated_sequences {e : List DeviceSyncEvent} (hh : rows.mapM (·.hydrated) = .ok e) :
    e.map (·.eventSequence) = rows.map (·.eventSequence) := by
  induction rows generalizing e with
  | nil =>
    cases hh
    rfl
  | cons row r ih =>
    rw [List.mapM_cons] at hh
    cases hhe : row.hydrated with
    | error c => simp [hhe, bind, Except.bind] at hh
    | ok ev =>
      cases ht : r.mapM (·.hydrated) with
      | error c => simp [hhe, ht, bind, Except.bind] at hh
      | ok o =>
        simp only [hhe, ht, bind, Except.bind, pure, Except.pure, Except.ok.injEq] at hh
        subst hh
        simp [ih ht, row.copiesSequence ev hhe]

theorem readCursor_advance {c : Option DeviceCursor} {n : Nat} : readCursor
        (advanceDeliveredWatermark c (readCursor c).deliveredThroughSequence n) =
      { readCursor c with
        deliveredThroughSequence := max (readCursor c).deliveredThroughSequence n } := by
  cases c with
  | none =>
    simp only [advanceDeliveredWatermark, readCursor, Option.getD_none, Nat.le_zero]
    split
    · next hz => simp [hz]
    · simp
  | some row =>
    simp only [advanceDeliveredWatermark, readCursor, Option.getD_some]
    rcases Nat.lt_or_ge row.deliveredThroughSequence n with ha | hr
    · simp [ha, Nat.not_le.mpr ha, Nat.max_eq_right (Nat.le_of_lt ha)]
    · simp [hr]

end EventStoreLemmas

open EventStoreLemmas

/-- A served pull returns the first deliverable rows above the delivered watermark, moves
the watermark to the last of them, and leaves the acknowledged cursor alone. -/
theorem pullOnce_spec {rows : List EventRow} {c c' : Option DeviceCursor}
    {f l : Nat} {p : DeviceEventPage}
    (hs : pullOnce rows c f l = .ok (p, c')) :
    p.events.map (·.eventSequence) =
        ((rowsAbove rows (readCursor c).deliveredThroughSequence).take l).map (·.eventSequence) ∧
      readCursor c' =
        { readCursor c with
          deliveredThroughSequence := max (readCursor c).deliveredThroughSequence
            ((p.events.getLast?.map (·.eventSequence)).getD
              (readCursor c).deliveredThroughSequence) } := by
  simp only [pullOnce, bind, Except.bind] at hs
  split at hs
  · simp at hs
  split at hs
  · next hn =>
    cases hs
    simp [rowsAbove, checkpoint_none hn]
  · next checkpoint hf =>
    split at hs
    · next hr =>
      cases hs
      simp [rowsAbove_eq_nil hf hr]
    · split at hs
      · simp at hs
      · next e hh =>
        cases hs
        refine ⟨?_, readCursor_advance⟩
        rw [hydrated_sequences hh, pullPage_eq_rowsAbove hf, List.take_take]
        simp

/-- An accepted acknowledgement lies between the two cursors and becomes the
acknowledged one; the delivered watermark stays put. -/
theorem acknowledgeOnce_spec {c c' : Option DeviceCursor}
    {ep ap : Nat} {r : DeviceCursor}
    (ha : acknowledgeOnce c ep ap = .ok (r, c')) :
    (readCursor c).acknowledgedSequence ≤ ap ∧ ap ≤ (readCursor c).deliveredThroughSequence ∧
      readCursor c' = { readCursor c with acknowledgedSequence := ap } ∧
      r = readCursor c' := by
  cases c with
  | none =>
    simp only [acknowledgeOnce] at ha
    split at ha
    · cases ha
    split at ha
    · cases ha
    cases ha
    have hz : ap = 0 := by omega
    simp [readCursor, hz]
  | some row =>
    simp only [acknowledgeOnce] at ha
    split at ha
    · cases ha
    split at ha
    · cases ha
    split at ha
    · next he =>
      split at ha
      · cases ha
      cases ha
      simp only [readCursor, Option.getD_some]
      exact ⟨by omega, by omega, by rw [he], trivial⟩
    split at ha
    · cases ha
    cases ha
    simp only [readCursor, Option.getD_some]
    exact ⟨by omega, by omega, trivial, trivial⟩

end PersonalOs.DeviceSync
