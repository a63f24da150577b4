import PersonalOs.Basis.Chains
import PersonalOs.SourceStore.Commits

/-!
# Conflict rows and their lineages

What a commit may do to the conflict rows: nothing, add a captured row, close an open row, or
close it and open its successor. The rows of every table that grows so fall into lineages,
each a chain of superseded rows that ends in one open or resolved row.
-/

namespace PersonalOs.SourceStore

/-! ## Moves -/

/-- The successor a row names. -/
def SourceConflict.successorId (c : SourceConflict) : Option ConflictId :=
  c.resolution.bind ConflictResolution.successorConflictId

/-- Two rows that share nothing a unique constraint covers, the second not before the first. -/
structure RowsApart (a b : SourceConflict) : Prop where
  id : a.conflictId ≠ b.conflictId
  capture : ¬(a.workspaceId = b.workspaceId ∧ (a.captureIdempotencyKey = b.captureIdempotencyKey ∨
    a.originatingEventId = b.originatingEventId))
  resolution : a.workspaceId = b.workspaceId → ∀ r ∈ a.resolution, ∀ r' ∈ b.resolution,
    r.resolutionEventId ≠ r'.resolutionEventId
  onward : b.successorId ≠ some a.conflictId
  single : ∀ s, a.successorId = some s → b.successorId ≠ some s

/-- The columns of a row fit its status. -/
def SourceConflict.Shaped (c : SourceConflict) : Prop :=
  match c.status with
  | .open => c.resolution = none
  | .resolved => ∃ r, c.resolution = some r ∧ r.successorConflictId = none
  | .superseded => ∃ r s, c.resolution = some r ∧ r.successorConflictId = some s ∧
      r.resultingVersionId = none

structure ConflictTable (rows : List SourceConflict) : Prop where
  apart : rows.Pairwise RowsApart
  selfless : ∀ c ∈ rows, c.successorId ≠ some c.conflictId
  shaped : ∀ c ∈ rows, c.Shaped
  successors : ∀ c ∈ rows, ∀ s, c.successorId = some s →
    ∃ d ∈ rows, d.conflictId = s ∧ d.workspaceId = c.workspaceId

theorem conflictTable_empty : ConflictTable [] := by
  constructor <;> simp

/-- The columns a resolution writes into its row. -/
def closureOf (request : ResolutionRequest) (resultingVersionId : Option SourceVersionId)
    (successorConflictId : Option ConflictId) : ConflictResolution where
  resolutionKind := request.command.resolutionKind
  resolutionEventId := request.command.resolutionEventId
  resolutionIdempotencyKey := request.command.idempotencyKey
  resultingVersionId := resultingVersionId
  successorConflictId := successorConflictId

def Names (request : ResolutionRequest) (c : SourceConflict) : Prop :=
  c.conflictId = request.command.conflictId ∧ c.workspaceId = request.workspaceId ∧
    c.status = .open

instance (request : ResolutionRequest) (c : SourceConflict) : Decidable (Names request c) := by
  unfold Names
  infer_instance

def closeRow (request : ResolutionRequest) (status : ConflictStatus)
    (resolution : ConflictResolution) (c : SourceConflict) : SourceConflict :=
  if Names request c then { c with status, resolution := some resolution } else c

/-- A row that shares no identity with the rows of a table. -/
def FreshRow (rows : List SourceConflict) (row : SourceConflict) : Prop :=
  ∀ c ∈ rows, c.conflictId ≠ row.conflictId ∧
    ¬(c.workspaceId = row.workspaceId ∧ (c.captureIdempotencyKey = row.captureIdempotencyKey ∨
      c.originatingEventId = row.originatingEventId))

def UnusedResolution (rows : List SourceConflict) (request : ResolutionRequest) : Prop :=
  ∀ c ∈ rows, c.workspaceId = request.workspaceId → ∀ r ∈ c.resolution,
    r.resolutionEventId ≠ request.command.resolutionEventId

structure ResolutionEvent (request : ResolutionRequest) (row : SourceConflict)
    (committed : SyncEvent → Prop) (event : Option SyncEvent) : Prop where
  sourced : event.isSome = row.sourceId.isSome
  event : ∀ e ∈ event, e.eventType = .conflictResolve ∧
    e.eventId = request.command.resolutionEventId ∧ e.workspaceId = request.workspaceId ∧
    e.idempotencyKey = request.command.idempotencyKey ∧ committed e

/-- What a commit does to the conflict rows, with the event it appends. -/
inductive ConflictMove (capture : Option CaptureRequest) (resolution : Option ResolutionRequest)
    (event : Option SyncEvent) (rows : List SourceConflict) : List SourceConflict → Prop
  | still (quiet : ∀ e ∈ event, e.eventType.isConflict = false) :
      ConflictMove capture resolution event rows rows
  | capture (request : CaptureRequest) (captures : capture = some request)
      (fresh : FreshRow rows (capturedConflict request.command request.conflictId))
      (sourced : event.isSome = request.command.sourceId.isSome)
      (recorded : ∀ e ∈ event, e.eventType = .conflictCapture ∧
        e.eventId = request.command.originatingEventId ∧
        e.workspaceId = request.command.workspaceId ∧
        e.idempotencyKey = request.command.idempotencyKey ∧ e.committedVersionId = none) :
      ConflictMove capture resolution event rows
        (rows ++ [capturedConflict request.command request.conflictId])
  | resolve (request : ResolutionRequest) (row : SourceConflict)
      (resultingVersionId : Option SourceVersionId) (resolves : resolution = some request)
      (stands : row ∈ rows) (named : Names request row) (unused : UnusedResolution rows request)
      (recorded : ResolutionEvent request row (fun e =>
        resultingVersionId = none ∧ e.committedVersionId = e.baseVersionId ∨
        ∃ v, resultingVersionId = some v ∧ e.committedVersionId = some v) event) :
      ConflictMove capture resolution event rows
        (rows.map (closeRow request .resolved (closureOf request resultingVersionId none)))
  | supersede (request : ResolutionRequest) (row successor : SourceConflict)
      (resolves : resolution = some request) (stands : row ∈ rows) (named : Names request row)
      (unused : UnusedResolution rows request) (fresh : FreshRow rows successor)
      (opened : successor.status = .open ∧ successor.resolution = none)
      (of : successor.workspaceId = request.workspaceId ∧ successor.sourceId = row.sourceId ∧
        successor.originatingEventId = request.command.resolutionEventId ∧
        successor.captureIdempotencyKey = request.command.idempotencyKey)
      (recorded : ResolutionEvent request row (fun e => e.committedVersionId = none) event) :
      ConflictMove capture resolution event rows
        (rows.map (closeRow request .superseded
          (closureOf request none (some successor.conflictId))) ++ [successor])

/-! ## What moves keep -/

section Close

variable {request : ResolutionRequest} {status : ConflictStatus}
  {resolution : ConflictResolution} {c : SourceConflict}

theorem closeRow_of_not (ho : ¬Names request c) :
    closeRow request status resolution c = c := if_neg ho

theorem closeRow_of_named (hn : Names request c) :
    closeRow request status resolution c = { c with status, resolution := some resolution } :=
  if_pos hn

@[simp] theorem closeRow_conflictId :
    (closeRow request status resolution c).conflictId = c.conflictId := by
  unfold closeRow
  split <;> rfl

@[simp] theorem closeRow_workspaceId :
    (closeRow request status resolution c).workspaceId = c.workspaceId := by
  unfold closeRow
  split <;> rfl

@[simp] theorem closeRow_sourceId :
    (closeRow request status resolution c).sourceId = c.sourceId := by
  unfold closeRow
  split <;> rfl

@[simp] theorem closeRow_captureIdempotencyKey :
    (closeRow request status resolution c).captureIdempotencyKey = c.captureIdempotencyKey := by
  unfold closeRow
  split <;> rfl

@[simp] theorem closeRow_originatingEventId :
    (closeRow request status resolution c).originatingEventId = c.originatingEventId := by
  unfold closeRow
  split <;> rfl

theorem named_unique {rows : List SourceConflict} (ha : rows.Pairwise RowsApart)
    {a b : SourceConflict} (hh : a ∈ rows) (hha : b ∈ rows)
    (he : a.conflictId = b.conflictId) : a = b := by
  have hf (r : SourceConflict) (hm : r ∈ rows) (hn : r.conflictId = b.conflictId) :
      rows.find? (fun c => c.conflictId = b.conflictId) = some r :=
    LookupLemmas.find?_unique ha hm (by simp [hn]) (fun x y hd hb => hd.id (by simp_all))
  exact Option.some.inj ((hf a hh he).symm.trans (hf b hha rfl))

theorem apart_close {rows : List SourceConflict} (ha : rows.Pairwise RowsApart)
    (hun : UnusedResolution rows request)
    (event : resolution.resolutionEventId = request.command.resolutionEventId)
    (hab : ∀ c ∈ rows, resolution.successorConflictId ≠ some c.conflictId)
    (hu : ∀ c ∈ rows, ∀ s, c.successorId = some s → resolution.successorConflictId ≠ some s) :
    (rows.map (closeRow request status resolution)).Pairwise RowsApart := by
  rw [List.pairwise_map]
  refine ha.imp_of_mem fun {a b} hh hha ha => ?_
  by_cases hna : Names request a
  · have ho : ¬Names request b := fun hn => ha.id (hna.1.trans hn.1.symm)
    rw [closeRow_of_not ho, closeRow_of_named hna]
    refine ⟨ha.id, ha.capture, ?_, ha.onward, ?_⟩
    · rintro hs r ⟨⟩ r' isB
      rw [event]
      exact (hun b hha (hs.symm.trans hna.2.1) r' isB).symm
    · intro s hsu ht
      exact hu b hha s ht hsu
  · rw [closeRow_of_not hna]
    by_cases hn : Names request b
    · rw [closeRow_of_named hn]
      refine ⟨ha.id, ha.capture, ?_, ?_, ?_⟩
      · rintro hs r isA r' ⟨⟩
        rw [event]
        exact hun a hh (hs.trans hn.2.1) r isA
      · exact hab a hh
      · exact fun s hsu ht => hu a hh s hsu ht
    · rw [closeRow_of_not hn]
      exact ha

end Close

section Moves

variable {capture : Option CaptureRequest} {resolution : Option ResolutionRequest}
  {event : Option SyncEvent} {rows rows' : List SourceConflict}

theorem ConflictTable.append {row : SourceConflict} (ht : ConflictTable rows)
    (hf : FreshRow rows row) (ho : row.status = .open) (hu : row.resolution = none) :
    ConflictTable (rows ++ [row]) := by
  have hun : row.successorId = none := by rw [SourceConflict.successorId, hu]; rfl
  have hn (c : SourceConflict) (hm : c ∈ rows) : c.successorId ≠ some row.conflictId := by
    intro hs
    obtain ⟨d, hst, he, _⟩ := ht.successors c hm _ hs
    exact (hf d hst).1 he
  refine ⟨KeyedLemmas.pairwise_snoc ht.apart ?_, ?_, ?_, ?_⟩
  · intro c hm
    refine ⟨(hf c hm).1, (hf c hm).2, ?_, ?_, ?_⟩
    · rintro _ r _ r' hr
      rw [hu] at hr
      cases hr
    · rw [hun]
      simp
    · intro s _
      rw [hun]
      simp
  · refine HistoryLemmas.forall_snoc ht.selfless ?_
    rw [hun]
    simp
  · refine HistoryLemmas.forall_snoc ht.shaped ?_
    rw [SourceConflict.Shaped, ho]
    exact hu
  · refine HistoryLemmas.forall_snoc ?_ ?_
    · intro c hm s hs
      obtain ⟨d, hst, he⟩ := ht.successors c hm s hs
      exact ⟨d, List.mem_append_left _ hst, he⟩
    · intro s hs
      rw [hun] at hs
      cases hs

variable {c : SourceConflict}

theorem closeRow_successorId {request : ResolutionRequest} {status : ConflictStatus}
    {cl : ConflictResolution} :
    (closeRow request status cl c).successorId =
      if Names request c then cl.successorConflictId else c.successorId := by
  by_cases hn : Names request c
  · rw [closeRow_of_named hn, if_pos hn]
    rfl
  · rw [closeRow_of_not hn, if_neg hn]

theorem ConflictTable.move (ht : ConflictTable rows)
    (hv : ConflictMove capture resolution event rows rows') : ConflictTable rows' := by
  cases hv with
  | still => exact ht
  | capture request _ hf => exact ht.append hf rfl rfl
  | resolve request row re _ hst hn hun =>
    refine ⟨apart_close ht.apart hun rfl (by simp [closureOf]) (by simp [closureOf]),
      ?_, ?_, ?_⟩
    · intro c hm
      obtain ⟨c₀, old, rfl⟩ := List.mem_map.mp hm
      rw [closeRow_successorId, closeRow_conflictId]
      split
      · simp [closureOf]
      · exact ht.selfless c₀ old
    · intro c hm
      obtain ⟨c₀, old, rfl⟩ := List.mem_map.mp hm
      by_cases hn : Names request c₀
      · rw [closeRow_of_named hn]
        exact ⟨_, rfl, rfl⟩
      · rw [closeRow_of_not hn]
        exact ht.shaped c₀ old
    · intro c hm s hs
      obtain ⟨c₀, old, rfl⟩ := List.mem_map.mp hm
      rw [closeRow_successorId] at hs
      split at hs
      · cases hs
      · obtain ⟨d, has, he, hw⟩ := ht.successors c₀ old s hs
        exact ⟨_, List.mem_map_of_mem has, by rw [closeRow_conflictId, he],
          by rw [closeRow_workspaceId, closeRow_workspaceId, hw]⟩
  | supersede request row su _ hst hn hun hf ho of =>
    have hab : ∀ c ∈ rows, (closureOf request none
        (some su.conflictId)).successorConflictId ≠ some c.conflictId := by
      intro c hm he
      exact (hf c hm).1 (Option.some.inj he).symm
    have hud : ∀ c ∈ rows, ∀ s, c.successorId = some s → (closureOf request none
        (some su.conflictId)).successorConflictId ≠ some s := by
      intro c hm s hs he
      obtain ⟨d, has, hna, _⟩ := ht.successors c hm s hs
      exact hab d has (by rw [hna, he])
    have hu : su.successorId = none := by
      rw [SourceConflict.successorId, ho.2]
      rfl
    refine ⟨KeyedLemmas.pairwise_snoc (apart_close ht.apart hun rfl hab hud) ?_,
      ?_, ?_, ?_⟩
    · intro c hm
      obtain ⟨c₀, old, rfl⟩ := List.mem_map.mp hm
      refine ⟨?_, ?_, ?_, ?_, ?_⟩
      · rw [closeRow_conflictId]
        exact (hf c₀ old).1
      · rw [closeRow_workspaceId, closeRow_captureIdempotencyKey, closeRow_originatingEventId]
        exact (hf c₀ old).2
      · rintro _ r _ r' hr
        rw [ho.2] at hr
        cases hr
      · simp [hu]
      · simp [hu]
    · refine HistoryLemmas.forall_snoc ?_ (by simp [hu])
      intro c hm
      obtain ⟨c₀, old, rfl⟩ := List.mem_map.mp hm
      rw [closeRow_successorId, closeRow_conflictId]
      split
      · exact hab c₀ old
      · exact ht.selfless c₀ old
    · refine HistoryLemmas.forall_snoc ?_ ?_
      · intro c hm
        obtain ⟨c₀, old, rfl⟩ := List.mem_map.mp hm
        by_cases hn : Names request c₀
        · rw [closeRow_of_named hn]
          exact ⟨_, _, rfl, rfl, rfl⟩
        · rw [closeRow_of_not hn]
          exact ht.shaped c₀ old
      · rw [SourceConflict.Shaped, ho.1]
        exact ho.2
    · refine HistoryLemmas.forall_snoc ?_ (by simp [hu])
      intro c hm s hs
      obtain ⟨c₀, old, rfl⟩ := List.mem_map.mp hm
      rw [closeRow_successorId] at hs
      rw [closeRow_workspaceId]
      split at hs
      next hn =>
        cases hs
        exact ⟨su, by simp, rfl, of.1.trans hn.2.1.symm⟩
      next =>
        obtain ⟨d, has, he, hw⟩ := ht.successors c₀ old s hs
        exact ⟨_, List.mem_append_left _ (List.mem_map_of_mem has),
          by rw [closeRow_conflictId, he], by rw [closeRow_workspaceId, hw]⟩

theorem ConflictMove.closed_kept (hv : ConflictMove capture resolution event rows rows')
    (ht : c ∈ rows) (hc : c.status ≠ .open) : c ∈ rows' := by
  have hk (request : ResolutionRequest) (status : ConflictStatus)
      (cl : ConflictResolution) : c ∈ rows.map (closeRow request status cl) := by
    refine List.mem_map.mpr ⟨c, ht, closeRow_of_not fun hn => hc hn.2.2⟩
  cases hv with
  | still => exact ht
  | capture => exact List.mem_append_left _ ht
  | resolve => exact hk _ _ _
  | supersede => exact List.mem_append_left _ (hk _ _ _)

structure ClosedWith (request : ResolutionRequest) (c : SourceConflict)
    (r : ConflictResolution) : Prop where
  resolution : c.resolution = some r
  workspace : c.workspaceId = request.workspaceId
  id : c.conflictId = request.command.conflictId
  kind : r.resolutionKind = request.command.resolutionKind
  event : r.resolutionEventId = request.command.resolutionEventId
  key : r.resolutionIdempotencyKey = request.command.idempotencyKey

theorem ConflictMove.closed_by (hv : ConflictMove capture resolution event rows rows')
    (ht : c ∈ rows') (hc : c.status ≠ .open) (new : c ∉ rows) :
    ∃ request r, resolution = some request ∧ ClosedWith request c r := by
  have by' (request : ResolutionRequest) (status : ConflictStatus)
      (re : Option SourceVersionId) (si : Option ConflictId)
      (hm : c ∈ rows.map (closeRow request status (closureOf request re si))) :
      ∃ r, ClosedWith request c r := by
    obtain ⟨c₀, old, rfl⟩ := List.mem_map.mp hm
    by_cases hn : Names request c₀
    · rw [closeRow_of_named hn]
      exact ⟨_, rfl, hn.2.1, hn.1, rfl, rfl, rfl⟩
    · rw [closeRow_of_not hn] at new
      exact absurd old new
  cases hv with
  | still => exact absurd ht new
  | capture request =>
    rcases List.mem_append.mp ht with old | ha
    · exact absurd old new
    · rw [List.mem_singleton.mp ha] at hc
      exact absurd rfl hc
  | resolve request row re hr =>
    obtain ⟨r, hw'⟩ := by' request _ _ _ ht
    exact ⟨request, r, hr, hw'⟩
  | supersede request row s hr _ _ _ _ ho =>
    rcases List.mem_append.mp ht with hm | ha
    · obtain ⟨r, hw'⟩ := by' request _ _ _ hm
      exact ⟨request, r, hr, hw'⟩
    · rw [List.mem_singleton.mp ha] at hc
      exact absurd ho.1 hc

/-- What a row was captured with stays. -/
structure SameEvidence (c d : SourceConflict) : Prop where
  id : d.conflictId = c.conflictId
  workspace : d.workspaceId = c.workspaceId
  source : d.sourceId = c.sourceId
  kind : d.conflictKind = c.conflictKind
  event : d.originatingEventId = c.originatingEventId
  device : d.originatingDeviceId = c.originatingDeviceId
  key : d.captureIdempotencyKey = c.captureIdempotencyKey
  base : d.baseVersionId = c.baseVersionId
  observed : d.observedRemoteVersionId = c.observedRemoteVersionId
  candidate : d.candidate = c.candidate
  locator : d.normalizedLocator = c.normalizedLocator

theorem SameEvidence.refl (c : SourceConflict) : SameEvidence c c := by
  constructor <;> rfl

theorem SameEvidence.trans {d e : SourceConflict} (hf : SameEvidence c d)
    (hs : SameEvidence d e) : SameEvidence c e where
  id := hs.id.trans hf.id
  workspace := hs.workspace.trans hf.workspace
  source := hs.source.trans hf.source
  kind := hs.kind.trans hf.kind
  event := hs.event.trans hf.event
  device := hs.device.trans hf.device
  key := hs.key.trans hf.key
  base := hs.base.trans hf.base
  observed := hs.observed.trans hf.observed
  candidate := hs.candidate.trans hf.candidate
  locator := hs.locator.trans hf.locator

theorem closeRow_evidence {request : ResolutionRequest} {status : ConflictStatus}
    {cl : ConflictResolution} (c : SourceConflict) :
    SameEvidence c (closeRow request status cl c) := by
  unfold closeRow
  split <;> constructor <;> rfl

theorem ConflictMove.evidence_kept (hv : ConflictMove capture resolution event rows rows')
    (ht : c ∈ rows) : ∃ d ∈ rows', SameEvidence c d := by
  have hk (request : ResolutionRequest) (status : ConflictStatus) (cl : ConflictResolution) :
      ∃ d ∈ rows.map (closeRow request status cl), SameEvidence c d :=
    ⟨_, List.mem_map_of_mem ht, closeRow_evidence c⟩
  cases hv with
  | still => exact ⟨c, ht, .refl c⟩
  | capture => exact ⟨c, List.mem_append_left _ ht, .refl c⟩
  | resolve => exact hk _ _ _
  | supersede =>
    obtain ⟨d, has, he⟩ := hk _ _ _
    exact ⟨d, List.mem_append_left _ has, he⟩

end Moves

/-! ## Lineages -/

section Lineages

open Chains

variable {rows : List SourceConflict}

/-- The row a superseded row names as its successor. -/
def Succeeds (rows : List SourceConflict) (c d : SourceConflict) : Prop :=
  d ∈ rows ∧ c.successorId = some d.conflictId

theorem ordered_of_pairwise {α : Type} [DecidableEq α] {R : α → α → Prop} {rows : List α}
    (hap : rows.Pairwise R) {a b : α} (hh : a ∈ rows) (hha : b ∈ rows) :
    a = b ∨ R a b ∧ rows.idxOf a < rows.idxOf b ∨ R b a ∧ rows.idxOf b < rows.idxOf a := by
  induction rows with
  | nil => cases hh
  | cons h t ih =>
    obtain ⟨hf, hr⟩ := List.pairwise_cons.mp hap
    by_cases isA : a = h
    · by_cases isB : b = h
      · exact .inl (isA.trans isB.symm)
      · have hi : b ∈ t := (List.mem_cons.mp hha).resolve_left isB
        refine .inr (.inl ⟨isA ▸ hf b hi, ?_⟩)
        rw [isA, List.idxOf_cons_self, List.idxOf_cons_ne _ (Ne.symm isB)]
        exact Nat.succ_pos _
    · have ha : a ∈ t := (List.mem_cons.mp hh).resolve_left isA
      by_cases isB : b = h
      · refine .inr (.inr ⟨isB ▸ hf a ha, ?_⟩)
        rw [isB, List.idxOf_cons_self, List.idxOf_cons_ne _ (Ne.symm isA)]
        exact Nat.succ_pos _
      · have hb : b ∈ t := (List.mem_cons.mp hha).resolve_left isB
        rw [List.idxOf_cons_ne _ (Ne.symm isA), List.idxOf_cons_ne _ (Ne.symm isB)]
        simpa using ih hr ha hb

theorem ConflictTable.chained (ht : ConflictTable rows) :
    Chained (· ∈ rows) (Succeeds rows) fun c => rows.idxOf c where
  target := fun _ hl => hl.1
  functional := by
    rintro c d e _ ⟨hh, toD⟩ ⟨hhe, toE⟩
    rw [toD] at toE
    exact named_unique ht.apart hh hhe (Option.some.inj toE)
  injective := by
    rintro c d e hha hh ⟨_, toC⟩ ⟨_, toD⟩
    rcases ordered_of_pairwise ht.apart hha hh with he | ⟨ha, _⟩ | ⟨ha, _⟩
    · exact he
    · exact absurd toD (ha.single _ toC)
    · exact absurd toC (ha.single _ toD)
  rises := by
    rintro c d hha ⟨hh, toD⟩
    rcases ordered_of_pairwise ht.apart hha hh with he | ⟨_, hb⟩ | ⟨ha, _⟩
    · rw [← he] at toD
      exact absurd toD (ht.selfless c hha)
    · exact hb
    · exact absurd toD ha.onward
  bounded := ⟨rows.length, fun c hm => List.idxOf_lt_length_of_mem hm⟩

/-- A row without a successor is open or resolved, and the others are superseded. -/
theorem ConflictTable.last_iff (ht : ConflictTable rows) {c : SourceConflict}
    (hm : c ∈ rows) : Last (Succeeds rows) c ↔ c.status ≠ .superseded := by
  have hs := ht.shaped c hm
  constructor
  · intro hla hsu
    rw [SourceConflict.Shaped, hsu] at hs
    obtain ⟨r, s, is, hn, _⟩ := hs
    have hl : c.successorId = some s := by rw [SourceConflict.successorId, is]; exact hn
    obtain ⟨d, has, he, _⟩ := ht.successors c hm s hl
    exact hla d ⟨has, by rw [he, hl]⟩
  · rintro hf d ⟨_, hl⟩
    cases status : c.status with
    | «open» =>
      rw [SourceConflict.Shaped, status] at hs
      rw [SourceConflict.successorId, hs] at hl
      cases hl
    | resolved =>
      rw [SourceConflict.Shaped, status] at hs
      obtain ⟨r, is, hno⟩ := hs
      rw [SourceConflict.successorId, is] at hl
      exact absurd hl (by simp [hno])
    | superseded => exact hf status

end Lineages

/-! ## Rows and events -/

structure ConflictEvents (rows : List SourceConflict) (events : List SyncEvent) : Prop where
  recorded : ∀ c ∈ rows, c.sourceId.isSome → ∃ e ∈ events, e.workspaceId = c.workspaceId ∧
    e.eventId = c.originatingEventId ∧ e.idempotencyKey = c.captureIdempotencyKey ∧
    e.committedVersionId = none
  resolved : ∀ e ∈ events, e.eventType = .conflictResolve → ∃ c ∈ rows,
    c.workspaceId = e.workspaceId ∧ ∃ r, c.resolution = some r ∧
      r.resolutionEventId = e.eventId ∧
      (c.status = .superseded ∧ e.committedVersionId = none ∨
        c.status = .resolved ∧ (r.resultingVersionId = none ∧
            e.committedVersionId = e.baseVersionId ∨
          ∃ v, r.resultingVersionId = some v ∧ e.committedVersionId = some v))

theorem conflictEvents_empty : ConflictEvents [] [] := by
  constructor <;> simp

theorem ConflictEvents.move {capture : Option CaptureRequest}
    {resolution : Option ResolutionRequest} {event : Option SyncEvent}
    {rows rows' : List SourceConflict} {events : List SyncEvent}
    (agree : ConflictEvents rows events)
    (moved : ConflictMove capture resolution event rows rows') :
    ConflictEvents rows' (events ++ event.toList) := by
  have grown {e : SyncEvent} (stands : e ∈ events) : e ∈ events ++ event.toList :=
    List.mem_append_left _ stands
  have added {e : SyncEvent} (is : event = some e) : e ∈ events ++ event.toList := by
    simp [is]
  -- the events of old rows stay, so does what old events say of closed rows
  have old {c : SourceConflict} (stands : c ∈ rows) (sourced : c.sourceId.isSome) :
      ∃ e ∈ events ++ event.toList, e.workspaceId = c.workspaceId ∧
        e.eventId = c.originatingEventId ∧ e.idempotencyKey = c.captureIdempotencyKey ∧
        e.committedVersionId = none := by
    obtain ⟨e, has, rest⟩ := agree.recorded c stands sourced
    exact ⟨e, grown has, rest⟩
  have oldEvents : ∀ e ∈ events, e.eventType = .conflictResolve → ∃ c ∈ rows',
      c.workspaceId = e.workspaceId ∧ ∃ r, c.resolution = some r ∧
        r.resolutionEventId = e.eventId ∧
        (c.status = .superseded ∧ e.committedVersionId = none ∨
          c.status = .resolved ∧ (r.resultingVersionId = none ∧
              e.committedVersionId = e.baseVersionId ∨
            ∃ v, r.resultingVersionId = some v ∧ e.committedVersionId = some v)) := by
    intro e stands type
    obtain ⟨c, has, workspace, r, is, names, closed⟩ := agree.resolved e stands type
    refine ⟨c, moved.closed_kept has ?_, workspace, r, is, names, closed⟩
    rintro isOpen
    rcases closed with ⟨superseded, _⟩ | ⟨resolved, _⟩
    · rw [isOpen] at superseded
      cases superseded
    · rw [isOpen] at resolved
      cases resolved
  have split {Fact : SyncEvent → Prop} (before : ∀ e ∈ events, Fact e)
      (new : ∀ e ∈ event, Fact e) : ∀ e ∈ events ++ event.toList, Fact e := by
    intro e member
    rcases List.mem_append.mp member with stands | isNew
    · exact before e stands
    · exact new e (by simpa using isNew)
  cases moved with
  | still quiet =>
    refine ⟨fun c stands => old stands, split oldEvents ?_⟩
    intro e is type
    have := quiet e is
    rw [type] at this
    cases this
  | capture request _ _ sourced recorded =>
    refine ⟨HistoryLemmas.forall_snoc (fun c stands => old stands) ?_, split oldEvents ?_⟩
    · intro hasSource
      obtain ⟨e, is⟩ := Option.isSome_iff_exists.mp (sourced.trans hasSource)
      obtain ⟨_, named, workspace, key, uncommitted⟩ := recorded e is
      exact ⟨e, added is, workspace, named, key, uncommitted⟩
    · intro e is type
      rw [(recorded e is).1] at type
      cases type
  | resolve request row resulting _ stands named _ recorded =>
    refine ⟨?_, split oldEvents ?_⟩
    · intro c member sourced
      obtain ⟨c₀, has, rfl⟩ := List.mem_map.mp member
      rw [closeRow_sourceId] at sourced
      simpa using old has sourced
    · intro e is _
      obtain ⟨_, names, workspace, _, committed⟩ := recorded.event e is
      refine ⟨_, List.mem_map_of_mem stands, ?_⟩
      rw [closeRow_of_named named]
      exact ⟨named.2.1.trans workspace.symm, _, rfl, names.symm, .inr ⟨rfl, committed⟩⟩
  | supersede request row successor _ stands named _ fresh opened of recorded =>
    refine ⟨HistoryLemmas.forall_snoc ?_ ?_, split oldEvents ?_⟩
    · intro c member sourced
      obtain ⟨c₀, has, rfl⟩ := List.mem_map.mp member
      rw [closeRow_sourceId] at sourced
      simpa using old has sourced
    · intro hasSource
      rw [of.2.1] at hasSource
      obtain ⟨e, is⟩ := Option.isSome_iff_exists.mp (recorded.sourced.trans hasSource)
      obtain ⟨_, names, workspace, key, uncommitted⟩ := recorded.event e is
      exact ⟨e, added is, workspace.trans of.1.symm, names.trans of.2.2.1.symm,
        key.trans of.2.2.2.symm, uncommitted⟩
    · intro e is _
      obtain ⟨_, names, workspace, _, uncommitted⟩ := recorded.event e is
      refine ⟨_, List.mem_append_left _ (List.mem_map_of_mem stands), ?_⟩
      rw [closeRow_of_named named]
      exact ⟨named.2.1.trans workspace.symm, _, rfl, names.symm, .inl ⟨rfl, uncommitted⟩⟩

/-! ## The writes of the conflict store -/

section Writes

variable {ρ : Type} {db db' : Db}

theorem Db.insertConflict_fresh {c : SourceConflict}
    (inserted : db.insertConflict c = (.ok db' : Except (Refusal ρ) Db)) :
    FreshRow db.conflicts c := by
  unfold Db.insertConflict at inserted
  obtain ⟨free, _⟩ := unlessTaken_ok.mp inserted
  intro x member
  have := List.any_eq_false.mp free x member
  simpa only [decide_eq_true_eq, not_or] using this

theorem closeConflict_ok {request : ResolutionRequest} {status : ConflictStatus}
    {resultingVersionId : Option SourceVersionId} {successor : Option ConflictId}
    (closed : closeConflict request status resultingVersionId successor db = .ok db') :
    UnusedResolution db.conflicts request ∧ (∃ c ∈ db.conflicts, Names request c) ∧ db' = { db with
        conflicts := db.conflicts.map
          (closeRow request status (closureOf request resultingVersionId successor)) } := by
  unfold closeConflict at closed
  obtain ⟨db₁, free, closed⟩ := bind_ok closed
  obtain ⟨conflicts, updated, closed⟩ := bind_ok closed
  cases closed
  obtain ⟨unfound, rfl⟩ := unlessTaken_ok.mp free
  obtain ⟨⟨c, stands, named⟩, rfl⟩ := guardedUpdate_ok updated
  refine ⟨?_, ⟨c, stands, of_decide_eq_true named⟩, ?_⟩
  · intro x member workspace r is same
    rw [Db.conflictByResolutionEvent, Option.isSome_eq_false_iff, Option.isNone_iff_eq_none,
      List.find?_eq_none] at unfound
    have := unfound x member
    simp [workspace, Option.mem_def.mp is, same] at this
  · simp only [decide_eq_true_eq]
    rfl

theorem captureWrites_move (env : Environment) {request : CaptureRequest} {event : Option SyncEvent}
    {result : SourceConflict} (hs : event.isSome = request.command.sourceId.isSome)
    (hd : ∀ e ∈ event, ∃ x n, e = captureEvent env request.command x n)
    (hw : captureWrites request event db = .ok (db', result)) :
    result = capturedConflict request.command request.conflictId ∧
      db'.conflicts = db.conflicts ++ [result] ∧
      ConflictMove (some request) none event db.conflicts db'.conflicts := by
  unfold captureWrites at hw
  obtain ⟨db₁, hi₁, hw⟩ := bind_ok hw
  obtain ⟨db₂, hi₂, hw⟩ := bind_ok hw
  cases hw
  have hst : db₁.conflicts = db.conflicts := by
    unfold insertConflictEvent at hi₁
    split at hi₁
    · cases hi₁
      rfl
    · obtain ⟨_, rfl⟩ := Db.insertEvent_ok hi₁
      rfl
  have hf := Db.insertConflict_fresh hi₂
  rw [Db.insertConflict_ok hi₂, ← hst]
  refine ⟨rfl, rfl, .capture request rfl hf hs ?_⟩
  intro e is
  obtain ⟨x, n, rfl⟩ := hd e is
  exact ⟨rfl, rfl, rfl, rfl, rfl⟩

section Resolution

variable {env : Environment} {request : ResolutionRequest} {conflict : SourceConflict} {n : Nat}
  {result : ConflictResolutionResult}

def resolutionEventOf (env : Environment) (request : ResolutionRequest)
    (conflict : SourceConflict) (committed : Option SourceVersionId) (n : Nat) :
    Option SyncEvent :=
  conflict.sourceId.map fun x => resolutionEvent env request conflict x committed n

theorem insertResolutionEvent_conflicts {co : Option SourceVersionId}
    (hi : insertResolutionEvent env request conflict co n db = .ok db') :
    db'.conflicts = db.conflicts := by
  unfold insertResolutionEvent at hi
  split at hi
  · cases hi
    rfl
  · obtain ⟨_, rfl⟩ := Db.insertEvent_ok hi
    rfl

theorem resolutionEvent_recorded {row : SourceConflict} {co : Option SourceVersionId}
    {Committed : SyncEvent → Prop} (he : row.sourceId = conflict.sourceId)
    (hf : ∀ x, Committed (resolutionEvent env request conflict x co n)) :
    ResolutionEvent request row Committed (resolutionEventOf env request conflict co n) where
  sourced := by rw [resolutionEventOf, Option.isSome_map, he]
  event := by
    intro e is
    obtain ⟨x, _, rfl⟩ := Option.map_eq_some_iff.mp is
    exact ⟨rfl, rfl, rfl, rfl, hf x⟩

structure ClosedFor (request : ResolutionRequest) (status : ConflictStatus)
    (closure : ConflictResolution) (c : SourceConflict) : Prop where
  resolution : c.resolution = some closure
  status : c.status = status
  workspace : c.workspaceId = request.workspaceId
  id : c.conflictId = request.command.conflictId

theorem closedFor_of_named {status : ConflictStatus} {cl : ConflictResolution}
    {c : SourceConflict} (hn : Names request c) :
    ClosedFor request status cl (closeRow request status cl c) := by
  rw [closeRow_of_named hn]
  exact ⟨rfl, rfl, hn.2.1, hn.1⟩

def StillNamed (request : ResolutionRequest) (conflict : SourceConflict) (db : Db) : Prop :=
  ∀ c ∈ db.conflicts, c.conflictId = request.command.conflictId → SameEvidence conflict c

theorem keepRemoteWrites_move (ht : StillNamed request conflict db)
    (hw : keepRemoteWrites env request conflict n db = .ok (db', result)) :
    (∃ c ∈ db'.conflicts, ClosedFor request .resolved (closureOf request none none) c) ∧
    result = resolutionResult request .resolved none none ∧
    ConflictMove none (some request)
      (resolutionEventOf env request conflict request.command.reviewedRemoteVersionId n)
      db.conflicts db'.conflicts := by
  unfold keepRemoteWrites at hw
  obtain ⟨db₁, hi, hw⟩ := bind_ok hw
  obtain ⟨db₂, hc, hw⟩ := bind_ok hw
  cases hw
  have hs := insertResolutionEvent_conflicts hi
  obtain ⟨hu, ⟨row, has, hn⟩, rfl⟩ := closeConflict_ok hc
  rw [hs] at hu has
  simp only [hs]
  refine ⟨⟨_, List.mem_map_of_mem has, closedFor_of_named hn⟩, trivial, ?_⟩
  refine .resolve request row none rfl has hn hu ?_
  exact resolutionEvent_recorded (ht row has hn.1).source fun x => .inl ⟨rfl, rfl⟩

theorem winnerWrites_move {x : SourceId} {v : SourceVersion} (ht : StillNamed request conflict db)
    (hw : winnerWrites env request conflict x v n db = .ok (db', result)) :
    (∃ c ∈ db'.conflicts, ClosedFor request .resolved
      (closureOf request (some v.sourceVersionId) none) c) ∧
    result = resolutionResult request .resolved (some v.sourceVersionId) none ∧
    ConflictMove none (some request)
      (resolutionEventOf env request conflict (some v.sourceVersionId) n)
      db.conflicts db'.conflicts := by
  unfold winnerWrites at hw
  obtain ⟨db₁, hi₁, hw⟩ := bind_ok hw
  obtain ⟨s, hup, hw⟩ := bind_ok hw
  obtain ⟨db₂, hi₂, hw⟩ := bind_ok hw
  obtain ⟨db₃, hc, hw⟩ := bind_ok hw
  cases hw
  obtain ⟨_, is₁⟩ := Db.insertVersion_ok hi₁
  have hs : db₂.conflicts = db.conflicts := by
    rw [insertResolutionEvent_conflicts hi₂, is₁]
  obtain ⟨hu, ⟨row, has, hn⟩, rfl⟩ := closeConflict_ok hc
  rw [hs] at hu has
  simp only [hs]
  refine ⟨⟨_, List.mem_map_of_mem has, closedFor_of_named hn⟩, trivial, ?_⟩
  refine .resolve request row (some v.sourceVersionId) rfl has hn hu ?_
  exact resolutionEvent_recorded (ht row has hn.1).source fun x => .inr ⟨_, rfl, rfl⟩

theorem staleSuccessorWrites_move {cu : Option SourceVersionId}
    (hst : StillNamed request conflict db)
    (hp : ∃ c ∈ db.conflicts, c.conflictId = request.command.conflictId)
    (hw : staleSuccessorWrites env request conflict cu n db = .ok (db', result)) :
    (∃ c ∈ db'.conflicts, ∃ s, ClosedFor request .superseded (closureOf request none (some s)) c) ∧
    (∃ s, result = resolutionResult request .staleSuccessor none (some s)) ∧
    ConflictMove none (some request) (resolutionEventOf env request conflict none n)
      db.conflicts db'.conflicts := by
  unfold staleSuccessorWrites at hw
  obtain ⟨db₁, hi₁, hw⟩ := bind_ok hw
  obtain ⟨db₂, hi₂, hw⟩ := bind_ok hw
  obtain ⟨db₃, hc, hw⟩ := bind_ok hw
  cases hw
  have hs := insertResolutionEvent_conflicts hi₁
  have hf := Db.insertConflict_fresh hi₂
  have is₂ := Db.insertConflict_ok hi₂
  obtain ⟨hu, ⟨row, has, hn⟩, rfl⟩ := closeConflict_ok hc
  rw [hs] at hf
  simp only [is₂, hs] at hu has ⊢
  obtain ⟨t, hh, ht⟩ := hp
  have hi : row ∈ db.conflicts := by
    rcases List.mem_append.mp has with old | new
    · exact old
    · rw [List.mem_singleton.mp new] at hn
      exact absurd (ht.trans hn.1.symm) (hf t hh).1
  have he := hst row hi hn.1
  rw [List.map_append, List.map_singleton, closeRow_of_not
    (fun ho => (hf row hi).1 (hn.1.trans ho.1.symm))]
  refine ⟨⟨_, List.mem_append_left _ (List.mem_map_of_mem hi), _, closedFor_of_named hn⟩,
    ⟨_, rfl⟩, ?_⟩
  refine .supersede request row _ rfl hi hn (fun c hm => hu c
    (List.mem_append_left _ hm)) hf ⟨rfl, rfl⟩ ⟨?_, he.source.symm, rfl, rfl⟩ ?_
  · exact he.workspace.symm.trans hn.2.1
  · exact resolutionEvent_recorded he.source fun x => rfl

end Resolution

end Writes

end PersonalOs.SourceStore
