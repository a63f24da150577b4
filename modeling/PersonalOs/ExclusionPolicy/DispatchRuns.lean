import PersonalOs.ExclusionPolicy.Dispatch
import PersonalOs.Basis.Fallible

/-!
# No reconciliation is lost
-/

namespace PersonalOs.ExclusionPolicy.Dispatch

variable {st st' : State} {row row' : IntentRow}

/-! ## Statements -/

/-- A row that keeps its identity. -/
def SameIntent (row row' : IntentRow) : Prop :=
  row'.workspaceId = row.workspaceId ∧ row'.policyRevisionId = row.policyRevisionId

/-- Rows kept, or taken out of the dispatchers' and the workflow's hands. -/
def Withdraws (rows rows' : List IntentRow) : Prop :=
  ∀ row' ∈ rows', ∃ row ∈ rows, SameIntent row row' ∧
    (row' = row ∨ row'.state = .pending ∨ row'.state = .terminal)

variable {c now : Instant} {ec : String} {rows rows' : List IntentRow} {id : Uuid}
  {token : LeaseToken} {record : WorkflowRecord}

theorem returned_pending (hr : row.returned c ec = some row') :
    SameIntent row row' ∧ row'.state = .pending ∧
      row'.availableAt ≤ c + policyReconciliationBackoffCapSeconds := by
  obtain ⟨b, hf, rfl⟩ := Option.map_eq_some_iff.mp hr
  unfold boundedBackoffInterval at hf
  split at hf
  · cases hf
    exact ⟨⟨rfl, rfl⟩, rfl, Nat.add_le_add_left (Nat.min_le_left _ _) _⟩
  · exact nomatch hf

theorem returned_of_fits (c : Instant) (ec : String) (hf : row.attemptCount ≤ 30) :
    ∃ row', row.returned c ec = some row' := by
  have hs : 2 ^ row.attemptCount ≤ maximumInteger :=
    calc 2 ^ row.attemptCount ≤ 2 ^ 30 := Nat.pow_le_pow_right (by decide) hf
      _ ≤ maximumInteger := by decide
  unfold IntentRow.returned boundedBackoffInterval
  rw [if_pos hs]
  exact ⟨_, rfl⟩

theorem returns_withdraws {p : IntentRow → Prop} [DecidablePred p]
    (hr : (rows.mapM fun row => if p row then row.returned c ec else some row) = some rows') :
    Withdraws rows rows' := by
  intro row' hm
  obtain ⟨row, hro, hi⟩ := (mem_of_mapM_some hr).1 row' hm
  split at hi
  · obtain ⟨he, hp, _⟩ := returned_pending hi
    exact ⟨row, hro, he, .inr (.inl hp)⟩
  · cases hi
    exact ⟨row', hro, ⟨rfl, rfl⟩, .inl rfl⟩

theorem reclaimLeases_withdraws (hr : reclaimLeases rows c now = some rows') :
    Withdraws rows rows' :=
  returns_withdraws hr

theorem releaseRetry_withdraws (hr : releaseRetry rows c id token ec = some rows') :
    Withdraws rows rows' :=
  returns_withdraws hr

theorem markTerminal_withdraws : Withdraws rows (markTerminal rows id token ec) := by
  intro row' hm
  obtain ⟨row, hr, rfl⟩ := List.mem_map.mp hm
  split
  · exact ⟨row, hr, ⟨rfl, rfl⟩, .inr (.inr rfl)⟩
  · exact ⟨row, hr, ⟨rfl, rfl⟩, .inl rfl⟩

/-- A failure takes every executable row of its revision out of the workflow's hands. -/
theorem failDispatched_withdraws {r : Bool} (hf : failDispatched rows c id ec r = some rows') :
    Withdraws rows rows' ∧
      ∀ row' ∈ rows', row'.policyRevisionId = id → ¬ row'.state.Executable := by
  have hfa : ∀ row' ∈ rows', ∃ row ∈ rows, SameIntent row row' ∧
      ((row' = row ∧ ¬ (row.policyRevisionId = id ∧ row.state.Executable)) ∨
        row'.state = .pending ∨ row'.state = .terminal) := by
    intro row' hm
    obtain ⟨row, hr, hi⟩ := (mem_of_mapM_some hf).1 row' hm
    split at hi
    · split at hi
      · obtain ⟨hsa, hp, _⟩ := returned_pending hi
        exact ⟨row, hr, hsa, .inr (.inl hp)⟩
      · cases hi
        exact ⟨row, hr, ⟨rfl, rfl⟩, .inr (.inr rfl)⟩
    next hs =>
      cases hi
      exact ⟨row', hr, ⟨rfl, rfl⟩, .inl ⟨rfl, hs⟩⟩
  constructor
  · intro row' hm
    obtain ⟨row, hr, hsa, ho⟩ := hfa row' hm
    exact ⟨row, hr, hsa, ho.imp_left And.left⟩
  · intro row' hm hre he
    obtain ⟨row, hr, hsa, ⟨rfl, hs⟩ | hp | ht⟩ := hfa row' hm
    · exact hs ⟨hre, he⟩
    · rw [hp] at he
      exact he
    · rw [ht] at he
      exact he

/-! ## The invariant -/

/-- The revision's workflow takes care of it, or another revision has become active. -/
def Owned (st : State) (row : IntentRow) : Prop :=
  (∃ scanned, (st.workflow row.policyRevisionId).phase = .running scanned) ∨
    (st.workflow row.policyRevisionId).scanCompleted = true ∨
    st.active row.workspaceId ≠ some row.policyRevisionId

structure RowSound (st : State) (row : IntentRow) : Prop where
  dispatched : ∀ dispatchedAt, row.state = .dispatched dispatchedAt → Owned st row
  leased : ∀ token leasedUntil, row.state = .leased token leasedUntil →
    token < st.nextToken ∧ row.attemptCount ≤ 30 ∧
      ∀ task ∈ st.tasks, task.policyRevisionId = row.policyRevisionId →
        task.leaseToken = token → ∀ outcome, task.phase = .answered outcome → Owned st row
  superseded : (st.workflow row.policyRevisionId).phase = .superseded →
    st.active row.workspaceId ≠ some row.policyRevisionId

/-- A scan that has ended is known to have. -/
def WorkflowSound (record : WorkflowRecord) : Prop :=
  (record.phase = .completed → record.scanCompleted = true) ∧
    (record.phase = .running true → record.scanCompleted = true) ∧
    (record.phase = .released true → record.scanCompleted = true)

structure Sound (st : State) : Prop where
  rows : ∀ row ∈ st.rows, RowSound st row
  tasks : ∀ task ∈ st.tasks, task.leaseToken < st.nextToken
  workflows : ∀ id, WorkflowSound (st.workflow id)

theorem Owned.of_same (ho : Owned st row) (he : SameIntent row row')
    (hw : st'.workflow row.policyRevisionId = st.workflow row.policyRevisionId)
    (ha : st'.active = st.active) : Owned st' row' := by
  unfold Owned at ho ⊢
  rw [he.1, he.2, hw, ha]
  exact ho

theorem RowSound.of_withdrawn (hw : row.state = .pending ∨ row.state = .terminal)
    (hs : (st.workflow row.policyRevisionId).phase = .superseded →
      st.active row.workspaceId ≠ some row.policyRevisionId) : RowSound st row where
  dispatched da hd := by
    rcases hw with is | is <;> exact nomatch is.symm.trans hd
  leased token lu hl := by
    rcases hw with is | is <;> exact nomatch is.symm.trans hl
  superseded := hs

theorem Sound.withdraw (hsd : Sound st) (hws : Withdraws st.rows st'.rows)
    (ht : st'.tasks ⊆ st.tasks) (token : st'.nextToken = st.nextToken)
    (hw : st'.workflow = st.workflow) (ha : st'.active = st.active) : Sound st' where
  rows row' hm := by
    obtain ⟨row, hr, he, hf⟩ := hws row' hm
    have hso := hsd.rows row hr
    have hs : (st'.workflow row'.policyRevisionId).phase = .superseded →
        st'.active row'.workspaceId ≠ some row'.policyRevisionId := by
      rw [hw, ha, he.1, he.2]
      exact hso.superseded
    rcases hf with rfl | hwi
    · refine ⟨fun at_ is => (hso.dispatched at_ is).of_same he (by rw [hw]) ha,
        fun h u is => ?_, hs⟩
      obtain ⟨hb, hfi, han⟩ := hso.leased h u is
      exact ⟨token ▸ hb, hfi, fun t hta hn hh o hp =>
        (han t (ht hta) hn hh o hp).of_same he (by rw [hw]) ha⟩
    · exact .of_withdrawn hwi hs
  tasks t hm := token ▸ hsd.tasks t (ht hm)
  workflows id := hw ▸ hsd.workflows id

/-! ## Steps of the engine -/

theorem setWorkflow_self (st : State) (id : Uuid) (record : WorkflowRecord) :
    (st.setWorkflow id record).workflow id = record := if_pos rfl

theorem setWorkflow_other {o : Uuid} (hd : o ≠ id) :
    (st.setWorkflow id record).workflow o = st.workflow o := if_neg hd

theorem Sound.setWorkflow (hso : Sound st) (hr : WorkflowSound record)
    (ho : ∀ row ∈ st.rows, row.policyRevisionId = id → Owned st row →
      Owned (st.setWorkflow id record) row)
    (hsu : record.phase = .superseded → ∀ row ∈ st.rows, row.policyRevisionId = id →
      st.active row.workspaceId ≠ some id) : Sound (st.setWorkflow id record) where
  rows row hm := by
    have hs := hso.rows row hm
    have hst : Owned st row → Owned (st.setWorkflow id record) row := fun hb => by
      by_cases hh : row.policyRevisionId = id
      · exact ho row hm hh hb
      · exact hb.of_same ⟨rfl, rfl⟩ (setWorkflow_other hh) rfl
    refine ⟨fun at_ is => hst (hs.dispatched at_ is), fun token u is => ?_, ?_⟩
    · obtain ⟨hbe, hf, ha⟩ := hs.leased token u is
      exact ⟨hbe, hf, fun t ht hn hho o hp =>
        hst (ha t ht hn hho o hp)⟩
    · by_cases hh : row.policyRevisionId = id
      · rw [hh, setWorkflow_self]
        exact fun is => hsu is row hm hh
      · rw [setWorkflow_other hh]
        exact hs.superseded
  tasks := hso.tasks
  workflows ot := by
    by_cases hh : ot = id
    · rw [hh, setWorkflow_self]
      exact hr
    · rw [setWorkflow_other hh]
      exact hso.workflows ot

theorem owned_of_setWorkflow
    (hk : (st.workflow id).scanCompleted = true → record.scanCompleted = true)
    (hr : (∃ s, (st.workflow id).phase = .running s) →
      (∃ s, record.phase = .running s) ∨ record.scanCompleted = true ∨
        st.active row.workspaceId ≠ some id) (hh : row.policyRevisionId = id)
    (ho : Owned st row) :
    Owned (st.setWorkflow id record) row := by
  unfold Owned at ho ⊢
  rw [hh] at ho ⊢
  rw [setWorkflow_self]
  rcases ho with hru | s | hi
  · exact hr hru
  · exact .inr (.inl (hk s))
  · exact .inr (.inr hi)

/-! ## Steps of the dispatchers -/

/-- What an answered start says of its revision, from the record it was answered with. -/
theorem owned_of_answer (hso : Sound st) (hj : ∀ s, (st.workflow id).phase = .released s →
      (st.workflow id).scanCompleted = true) (hm : row ∈ st.rows)
    (hh : row.policyRevisionId = id) :
    Owned (st.setWorkflow id (startPolicyReconciliation (st.workflow id)).1) row := by
  unfold Owned
  rw [hh, setWorkflow_self]
  unfold startPolicyReconciliation
  have hr := hso.workflows id
  have hs := (hso.rows row hm).superseded
  rw [hh] at hs
  cases hp : (st.workflow id).phase with
  | absent => exact .inl ⟨false, rfl⟩
  | running s => exact .inl ⟨s, hp⟩
  | released s => exact .inr (.inl (hj s hp))
  | failed => exact .inl ⟨false, rfl⟩
  | completed => exact .inr (.inl (hr.1 hp))
  | superseded => exact .inr (.inr (hs hp))

theorem startPolicyReconciliation_sound (hs : WorkflowSound record) :
    WorkflowSound (startPolicyReconciliation record).1 := by
  unfold startPolicyReconciliation
  split
  · refine ⟨?_, ?_, ?_⟩ <;> exact fun h => nomatch h
  · refine ⟨?_, ?_, ?_⟩ <;> exact fun h => nomatch h
  all_goals exact hs

theorem startPolicyReconciliation_superseded
    (hs : (startPolicyReconciliation record).1.phase = .superseded) :
    record.phase = .superseded := by
  unfold startPolicyReconciliation at hs
  split at hs
  · exact nomatch hs
  · exact nomatch hs
  all_goals exact hs

theorem Sound.setTask (hso : Sound st) {i : Nat} {b t : DispatchTask}
    (hst : st.tasks[i]? = some b) (token : t.leaseToken = b.leaseToken)
    (ha : ∀ o, t.phase = .answered o → ∀ row ∈ st.rows,
      t.policyRevisionId = row.policyRevisionId → Owned st row) :
    Sound (st.setTask i t) where
  rows row hm := by
    have hs := hso.rows row hm
    refine ⟨hs.dispatched, fun h u is => ?_, hs.superseded⟩
    obtain ⟨hb, hf, b⟩ := hs.leased h u is
    refine ⟨hb, hf, fun ot ht hn hh o hp => ?_⟩
    rcases List.mem_or_eq_of_mem_set ht with old | rfl
    · exact b ot old hn hh o hp
    · exact ha o hp row hm hn
  tasks ot ht := by
    rcases List.mem_or_eq_of_mem_set ht with old | rfl
    · exact hso.tasks ot old
    · rw [token]
      exact hso.tasks b (List.mem_of_getElem? hst)
  workflows := hso.workflows

theorem Sound.start (hs : Sound st) {i : Nat} {id : Uuid} {token : LeaseToken} {l : Bool}
    (ht : st.tasks[i]? = some ⟨id, token, .leased⟩) (hc : Careful st (.start i l))
    (an : TaskPhase) :
    Sound ((st.setWorkflow id (startPolicyReconciliation (st.workflow id)).1).setTask i
      ⟨id, token, an⟩) := by
  have hj : ∀ s, (st.workflow id).phase = .released s →
      (st.workflow id).scanCompleted = true := hc _ ht
  have hst : Sound (st.setWorkflow id (startPolicyReconciliation (st.workflow id)).1) :=
    hs.setWorkflow (startPolicyReconciliation_sound (hs.workflows id))
      (fun row hm hh _ => owned_of_answer hs hj hm hh)
      fun hsu row hm hh => by
        have hb := (hs.rows row hm).superseded
        rw [hh] at hb
        exact hb (startPolicyReconciliation_superseded hsu)
  refine hst.setTask ht rfl fun o _ row hm hn => ?_
  exact owned_of_answer hs hj hm hn.symm

theorem Sound.acknowledge (hso : Sound st) {id : Uuid} {token : LeaseToken}
    {o : PolicyReconciliationStartOutcome}
    (ht : ⟨id, token, .answered o⟩ ∈ st.tasks) :
    Sound { st with rows := acknowledgeDispatched st.rows st.clock id token } where
  rows row' hm := by
    obtain ⟨row, hr, rfl⟩ := List.mem_map.mp hm
    have hs := hso.rows row hr
    split
    next hho =>
      obtain ⟨hn, hh⟩ := hho
      split at hh
      next lt lu hl =>
        have ha := (hs.leased lt lu hl).2.2 _ ht hn.symm hh.symm o rfl
        exact ⟨fun _ _ => ha.of_same ⟨rfl, rfl⟩ rfl rfl, fun _ _ is => (by cases is), hs.superseded⟩
      next => exact hh.elim
    next => exact ⟨hs.dispatched, hs.leased, hs.superseded⟩
  tasks := hso.tasks
  workflows := hso.workflows

theorem Sound.publish (hsd : Sound st) {wi policyRevisionId : Uuid}
    (hf : ∀ row ∈ st.rows, row.policyRevisionId ≠ policyRevisionId)
    (hn : st.workflow policyRevisionId = ⟨.absent, false⟩) :
    Sound { st with
      rows := st.rows ++ [⟨wi, policyRevisionId, .pending, 0, st.clock, st.clock, none⟩]
      active := fun id => if id = wi then some policyRevisionId else st.active id } where
  rows row hm := by
    rcases List.mem_append.mp hm with old | new
    · have hso := hsd.rows row old
      -- An inactive revision stays inactive: the new active one is another.
      have hi : st.active row.workspaceId ≠ some row.policyRevisionId →
          (if row.workspaceId = wi then some policyRevisionId
            else st.active row.workspaceId) ≠ some row.policyRevisionId := by
        intro hb
        split
        · exact fun he => hf row old (Option.some.inj he).symm
        · exact hb
      have ho : Owned st row → Owned { st with
          rows := st.rows ++
            [⟨wi, policyRevisionId, .pending, 0, st.clock, st.clock, none⟩]
          active := fun id => if id = wi then some policyRevisionId else st.active id }
          row :=
        Or.imp_right (Or.imp_right hi)
      refine ⟨fun at_ is => ho (hso.dispatched at_ is), fun token u is => ?_,
        fun is => hi (hso.superseded is)⟩
      obtain ⟨hbe, hfi, ha⟩ := hso.leased token u is
      exact ⟨hbe, hfi, fun t ht hna hh o hp =>
        ho (ha t ht hna hh o hp)⟩
    · rw [List.mem_singleton.mp new]
      refine .of_withdrawn (.inl rfl) fun hs => ?_
      dsimp only at hs
      rw [hn] at hs
      exact nomatch hs
  tasks := hsd.tasks
  workflows := hsd.workflows

theorem claimable_mem {l : List Uuid} (hm : row ∈ claimable rows now l) :
    row ∈ rows ∧ row.Due now ∧ row.policyRevisionId ∉ l := by
  have hs := List.mem_of_mem_take hm
  have hf := List.mem_filter.mp ((List.mem_insertionSort claimOrder).mp hs)
  exact ⟨hf.1, of_decide_eq_true hf.2⟩

theorem Sound.claim (hso : Sound st) {c : List Uuid}
    (hfi : ∀ row ∈ st.rows, row.policyRevisionId ∈ c → row.attemptCount < 30) :
    Sound { st with
      rows := leaseClaimed st.rows st.clock c st.nextToken
      nextToken := st.nextToken + c.length
      tasks := st.tasks ++ c.mapIdx fun k id => ⟨id, st.nextToken + k, .leased⟩ } where
  rows row' hm := by
    obtain ⟨row, hr, rfl⟩ := List.mem_map.mp hm
    have hs := hso.rows row hr
    have hn : ∀ t ∈ c.mapIdx fun k id => (⟨id, st.nextToken + k, .leased⟩ :
        DispatchTask), t.phase = .leased := by
      intro t ht
      obtain ⟨k, _, rfl⟩ := List.mem_mapIdx.mp ht
      rfl
    split
    next k hf =>
      obtain ⟨hi, hid, _⟩ := List.idxOf?_eq_some_iff.mp hf
      have hc : row.policyRevisionId ∈ c := hid ▸ List.getElem_mem hi
      refine ⟨fun _ is => (nomatch is), fun token lu is => ?_, hs.superseded⟩
      cases is
      refine ⟨Nat.add_lt_add_left hi _, hfi row hr hc, fun t ht _ hh o hp => ?_⟩
      rcases List.mem_append.mp ht with old | new
      · have hb := hso.tasks t old
        rw [hh] at hb
        exact absurd hb (Nat.not_lt.mpr (Nat.le_add_right _ _))
      · exact nomatch (hn t new).symm.trans hp
    next =>
      refine ⟨hs.dispatched, fun token lu is => ?_, hs.superseded⟩
      obtain ⟨hb, hsm, ha⟩ := hs.leased token lu is
      refine ⟨Nat.lt_of_lt_of_le hb (Nat.le_add_right _ _), hsm, fun t ht hna hh o hp => ?_⟩
      rcases List.mem_append.mp ht with old | new
      · exact ha t old hna hh o hp
      · exact nomatch (hn t new).symm.trans hp
  tasks t hm := by
    rcases List.mem_append.mp hm with old | new
    · exact Nat.lt_of_lt_of_le (hso.tasks t old) (Nat.le_add_right _ _)
    · obtain ⟨k, hi, rfl⟩ := List.mem_mapIdx.mp new
      exact Nat.add_lt_add_left hi _
  workflows := hso.workflows

/-! ## The step -/

theorem Withdraws.refl (rows : List IntentRow) : Withdraws rows rows :=
  fun row hm => ⟨row, hm, ⟨rfl, rfl⟩, .inl rfl⟩

/-- A failing attempt releases the intent, then its execution is about to close. -/
theorem Sound.fail (hso : Sound st) {s sc r : Bool} (hru : st.workflow id = ⟨.running s, sc⟩)
    (hf : failDispatched st.rows st.clock id ec r = some rows) :
    Sound { st.setWorkflow id ⟨.released s, sc⟩ with rows } := by
  obtain ⟨hwi, hw⟩ := failDispatched_withdraws hf
  have hsd : Sound { st with rows } := hso.withdraw hwi (List.Subset.refl _) rfl rfl rfl
  have hr := hso.workflows id
  rw [hru] at hr
  refine { rows := fun row hm => ?_, tasks := hso.tasks, workflows := ?_ }
  · by_cases hh : row.policyRevisionId = id
    · have hn := hw row hm hh
      refine .of_withdrawn ?_ fun hs => ?_
      · cases is : row.state with
        | pending => exact .inl rfl
        | terminal => exact .inr rfl
        | leased token lu => exact absurd (by rw [is]; trivial) hn
        | dispatched at_ => exact absurd (by rw [is]; trivial) hn
      · rw [hh] at hs
        exact nomatch (congrArg WorkflowRecord.phase
          (setWorkflow_self st id ⟨.released s, sc⟩)).symm.trans hs
    · have hb := hsd.rows row hm
      have he : (st.setWorkflow id ⟨.released s, sc⟩).workflow
          row.policyRevisionId = st.workflow row.policyRevisionId := setWorkflow_other hh
      refine ⟨fun at_ is => (hb.dispatched at_ is).of_same ⟨rfl, rfl⟩ he rfl,
        fun token lu is => ?_, fun is => hb.superseded (he ▸ is)⟩
      obtain ⟨hbe, hfi, ha⟩ := hb.leased token lu is
      exact ⟨hbe, hfi, fun t ht hna hho oc hp =>
        (ha t ht hna hho oc hp).of_same ⟨rfl, rfl⟩ he rfl⟩
  · intro o
    show WorkflowSound ((st.setWorkflow id _).workflow o)
    by_cases hh : o = id
    · rw [hh, setWorkflow_self]
      refine ⟨fun is => (nomatch is), fun is => (nomatch is), fun is => ?_⟩
      cases is
      exact hr.2.1 rfl
    · rw [setWorkflow_other hh]
      exact hso.workflows o

theorem Sound.step (hs : Sound st) {a : Action} (hc : Careful st a)
    (hv : step st a = some st') : Sound st' := by
  cases a with
  | tick se =>
    cases hv
    exact hs.withdraw (.refl _) (List.Subset.refl _) rfl rfl rfl
  | publish wi id =>
    simp only [Dispatch.step] at hv
    split at hv
    next hfr =>
      cases hv
      exact hs.publish hfr.1 hfr.2
    next => exact nomatch hv
  | reclaim now =>
    obtain ⟨rows, hrd, rfl⟩ := Option.map_eq_some_iff.mp hv
    exact hs.withdraw (reclaimLeases_withdraws hrd) (List.Subset.refl _) rfl rfl rfl
  | claim now l =>
    cases hv
    exact hs.claim hc
  | start i lo =>
    simp only [Dispatch.step] at hv
    split at hv
    next ht =>
      cases hv
      exact hs.start ht hc _
    next => exact nomatch hv
  | miss i =>
    simp only [Dispatch.step] at hv
    split at hv
    next ht =>
      cases hv
      exact hs.setTask ht rfl fun _ hp => nomatch hp
    next => exact nomatch hv
  | refuse i =>
    simp only [Dispatch.step] at hv
    split at hv
    next ht =>
      cases hv
      exact hs.setTask ht rfl fun _ hp => nomatch hp
    next => exact nomatch hv
  | acknowledge i =>
    simp only [Dispatch.step] at hv
    split at hv
    next ht =>
      cases hv
      exact hs.acknowledge (List.mem_of_getElem? ht)
    next => exact nomatch hv
  | release i ec =>
    simp only [Dispatch.step] at hv
    split at hv
    · obtain ⟨rows, hre, rfl⟩ := Option.map_eq_some_iff.mp hv
      exact hs.withdraw (releaseRetry_withdraws hre) (List.Subset.refl _) rfl rfl rfl
    · exact nomatch hv
  | markTerminal i =>
    simp only [Dispatch.step] at hv
    split at hv
    · cases hv
      exact hs.withdraw markTerminal_withdraws (List.Subset.refl _) rfl rfl rfl
    · exact nomatch hv
  | crash i =>
    simp only [Dispatch.step] at hv
    split at hv
    · cases hv
      exact hs.withdraw (.refl _) (fun _ => List.mem_of_mem_eraseIdx) rfl rfl rfl
    · exact nomatch hv
  | scan id =>
    simp only [Dispatch.step] at hv
    split at hv
    next hru =>
      cases hv
      refine hs.setWorkflow ⟨fun _ => rfl, fun _ => rfl, fun _ => rfl⟩
        (fun row _ hh => owned_of_setWorkflow (fun _ => rfl) (fun _ => .inl ⟨true, rfl⟩) hh)
        fun is => nomatch is
    next => exact nomatch hv
  | complete id =>
    simp only [Dispatch.step] at hv
    split at hv
    next sc hru =>
      cases hv
      have hr := hs.workflows id
      rw [hru] at hr
      have hsc : sc = true := hr.2.1 rfl
      refine hs.setWorkflow ⟨fun _ => hsc, fun is => (nomatch is), fun is => (nomatch is)⟩
        (fun row _ hh => owned_of_setWorkflow (fun _ => hsc)
          (fun _ => .inr (.inl hsc)) hh) fun is => nomatch is
    next => exact nomatch hv
  | supersede id =>
    simp only [Dispatch.step] at hv
    split at hv
    next sc hru =>
      split at hv
      next hi =>
        cases hv
        refine hs.setWorkflow ⟨fun is => (nomatch is), fun is => (nomatch is),
          fun is => (nomatch is)⟩ (fun row hm hh => owned_of_setWorkflow (fun hb => ?_)
            (fun _ => .inr (.inr (hi row hm hh))) hh)
          fun _ row hm hh => hi row hm hh
        rw [hru] at hb
        exact hb
      next => exact nomatch hv
    next => exact nomatch hv
  | fail id ec r =>
    simp only [Dispatch.step] at hv
    split at hv
    next hru =>
      obtain ⟨rows, hf, rfl⟩ := Option.map_eq_some_iff.mp hv
      exact hs.fail hru hf
    next => exact nomatch hv
  | lateFail id ec r =>
    simp only [Dispatch.step] at hv
    split at hv
    · exact nomatch hv
    · obtain ⟨rows, hf, rfl⟩ := Option.map_eq_some_iff.mp hv
      exact hs.withdraw (failDispatched_withdraws hf).1 (List.Subset.refl _) rfl rfl rfl
  | retry id =>
    simp only [Dispatch.step] at hv
    split at hv
    next s sc hre =>
      cases hv
      have hr := hs.workflows id
      rw [hre] at hr
      refine hs.setWorkflow ⟨fun is => (nomatch is), fun is => hr.2.2 (by cases is; rfl),
        fun is => (nomatch is)⟩ (fun row _ hh => owned_of_setWorkflow (fun hb => ?_)
          (fun _ => .inl ⟨s, rfl⟩) hh) fun is => nomatch is
      rw [hre] at hb
      exact hb
    next => exact nomatch hv
  | close id =>
    have hcl : ∀ sc, (st.workflow id).scanCompleted = sc →
        Sound (st.setWorkflow id ⟨.failed, sc⟩) := by
      rintro sc rfl
      refine hs.setWorkflow ⟨fun is => (nomatch is), fun is => (nomatch is),
        fun is => (nomatch is)⟩ (fun row _ hh => owned_of_setWorkflow (fun hb => hb)
          (fun ⟨s, hru⟩ => ?_) hh) fun is => nomatch is
      rcases hc with ⟨_, hre⟩ | hsc
      · exact nomatch hru.symm.trans hre
      · exact .inr (.inl hsc)
    simp only [Dispatch.step] at hv
    split at hv
    next is =>
      cases hv
      exact hcl _ (by rw [is])
    next is =>
      cases hv
      exact hcl _ (by rw [is])
    next => exact nomatch hv

theorem Sound.initial : Sound .initial where
  rows _ h := nomatch h
  tasks _ h := nomatch h
  workflows _ := ⟨fun h => (nomatch h), fun h => (nomatch h), fun h => (nomatch h)⟩

theorem Sound.of_reachable (hr : machine.GuardedReachable Careful st) : Sound st :=
  hr.invariant (fun _ hi => hi ▸ Sound.initial) fun _ _ _ hs hc hv => hs.step hc hv

/-! ## Lost leases -/

/-- A lease in a row is one that was there, or a fresh one; tokens only go up. -/
theorem step_leases {a : Action} (hv : step st a = some st') :
    st.nextToken ≤ st'.nextToken ∧
      ∀ row' ∈ st'.rows, ∀ token lu, row'.state = .leased token lu →
        (∃ row ∈ st.rows, row.state = .leased token lu) ∨ st.nextToken ≤ token := by
  have hw {rows rows' : List IntentRow} (hwi : Withdraws rows rows') :
      ∀ row' ∈ rows', ∀ token lu, row'.state = .leased token lu →
        (∃ row ∈ rows, row.state = .leased token lu) ∨ st.nextToken ≤ token := by
    intro row' hm token lu is
    obtain ⟨row, hr, _, rfl | hp | ht⟩ := hwi row' hm
    · exact .inl ⟨row', hr, is⟩
    · exact nomatch hp.symm.trans is
    · exact nomatch ht.symm.trans is
  cases a with
  | publish wi id =>
    simp only [Dispatch.step] at hv
    split at hv <;> cases hv
    refine ⟨Nat.le_refl _, fun row' hm token lu is => ?_⟩
    rcases List.mem_append.mp hm with old | new
    · exact .inl ⟨row', old, is⟩
    · rw [List.mem_singleton.mp new] at is
      exact nomatch is
  | reclaim now =>
    obtain ⟨rows, hre, rfl⟩ := Option.map_eq_some_iff.mp hv
    exact ⟨Nat.le_refl _, hw (reclaimLeases_withdraws hre)⟩
  | claim now l =>
    cases hv
    refine ⟨Nat.le_add_right _ _, fun row' hm token lu is => ?_⟩
    obtain ⟨row, hr, rfl⟩ := List.mem_map.mp hm
    split at is
    · cases is
      exact .inr (Nat.le_add_right _ _)
    · exact .inl ⟨row, hr, is⟩
  | acknowledge i =>
    simp only [Dispatch.step] at hv
    split at hv <;> cases hv
    refine ⟨Nat.le_refl _, fun row' hm token lu is => ?_⟩
    obtain ⟨row, hr, rfl⟩ := List.mem_map.mp hm
    split at is
    · exact nomatch is
    · exact .inl ⟨row, hr, is⟩
  | release i ec =>
    simp only [Dispatch.step] at hv
    split at hv
    · obtain ⟨rows, hrd, rfl⟩ := Option.map_eq_some_iff.mp hv
      exact ⟨Nat.le_refl _, hw (releaseRetry_withdraws hrd)⟩
    · exact nomatch hv
  | markTerminal i =>
    simp only [Dispatch.step] at hv
    split at hv <;> cases hv
    exact ⟨Nat.le_refl _, hw markTerminal_withdraws⟩
  | fail id ec r =>
    simp only [Dispatch.step] at hv
    split at hv
    · obtain ⟨rows, hf, rfl⟩ := Option.map_eq_some_iff.mp hv
      exact ⟨Nat.le_refl _, hw (failDispatched_withdraws hf).1⟩
    · exact nomatch hv
  | lateFail id ec r =>
    simp only [Dispatch.step] at hv
    split at hv
    · exact nomatch hv
    · obtain ⟨rows, hf, rfl⟩ := Option.map_eq_some_iff.mp hv
      exact ⟨Nat.le_refl _, hw (failDispatched_withdraws hf).1⟩
  | supersede id =>
    simp only [Dispatch.step] at hv
    split at hv
    · split at hv <;> cases hv
      exact ⟨Nat.le_refl _, hw (.refl _)⟩
    · exact nomatch hv
  | _ =>
    simp only [Dispatch.step] at hv
    first
    | cases hv
      exact ⟨Nat.le_refl _, hw (.refl _)⟩
    | split at hv <;> cases hv <;> exact ⟨Nat.le_refl _, hw (.refl _)⟩

theorem lost_stays_lost (hlo : Lost st token) (hle : machine.Leads st st') : Lost st' token := by
  induction hle with
  | refl => exact hlo
  | tail _ hv ih =>
    obtain ⟨a, hv⟩ := hv
    obtain ⟨hg, hl⟩ := step_leases hv
    refine ⟨Nat.lt_of_lt_of_le ih.1 hg, fun row' hm lu is => ?_⟩
    rcases hl row' hm token lu is with ⟨row, hr, was⟩ | hf
    · exact ih.2 row hr lu was
    · exact absurd ih.1 (Nat.not_lt.mpr hf)

theorem not_holds_of_lost (hl : Lost st token) (hm : row ∈ st.rows) : ¬ row.Holds id token := by
  rintro ⟨_, hh⟩
  split at hh
  next lt lu is => exact hl.2 row hm lu (hh ▸ is)
  next => exact hh

theorem fenced (st : State) : Fenced st := by
  intro token hl st' hle i t hst hh a hw s'' hv
  have hl := lost_stays_lost hl hle
  have hs : ∀ id, ∀ row ∈ st'.rows, ¬ row.Holds id t.leaseToken := by
    rw [hh]
    exact fun id row hm => not_holds_of_lost hl hm
  have hk (id : Uuid) (write : IntentRow → IntentRow) : (st'.rows.map fun row =>
      if row.Holds id t.leaseToken then write row else row) = st'.rows :=
    (List.map_congr_left fun row hm => if_neg (hs id row hm)).trans (List.map_id' _)
  cases a with
  | acknowledge j =>
    obtain rfl : j = i := hw
    simp only [Dispatch.step, hst] at hv
    split at hv
    next ht =>
      cases ht
      cases hv
      exact hk _ _
    next => exact nomatch hv
  | release j ec =>
    obtain rfl : j = i := hw
    simp only [Dispatch.step, hst] at hv
    split at hv
    next id h ht =>
      cases ht
      obtain ⟨rows, hr, rfl⟩ := Option.map_eq_some_iff.mp hv
      have hsa : releaseRetry st'.rows st'.clock id h ec = some st'.rows :=
        mapM_some_self fun row hm => if_neg (hs id row hm)
      exact Option.some.inj (hr.symm.trans hsa)
    next => exact nomatch hv
  | markTerminal j =>
    obtain rfl : j = i := hw
    simp only [Dispatch.step, hst] at hv
    split at hv
    next ht =>
      cases ht
      cases hv
      exact hk _ _
    next => exact nomatch hv
  | _ => exact hw.elim

/-! ## Claims after a wait -/

/-- How many rows are due at the database's time. -/
def dueCount (st : State) : Nat :=
  (st.rows.filter fun row => row.Due st.clock).length

def State.leasedIn (st : State) (claimed : List Uuid) (row : IntentRow) : IntentRow :=
  match claimed.idxOf? row.policyRevisionId with
  | some k => row.lease st.clock (st.nextToken + k)
  | none => row

theorem claim_progress (hm : row ∈ st.rows) (due : row.Due st.clock) :
    ∃ st', step st (.claim st.clock []) = some st' ∧ st.nextToken ≤ st'.nextToken ∧
      ((∃ row' ∈ st'.rows, row'.policyRevisionId = row.policyRevisionId ∧
          ∃ token lu, row'.state = .leased token lu ∧ st.nextToken ≤ token) ∨
        (row ∈ st'.rows ∧ row.Due st'.clock ∧ dueCount st' < dueCount st)) := by
  set c := (claimable st.rows st.clock []).map IntentRow.policyRevisionId with hcl
  refine ⟨_, rfl, Nat.le_add_right _ _, ?_⟩
  by_cases hta : row.policyRevisionId ∈ c
  · left
    obtain ⟨k, hf⟩ : ∃ k, c.idxOf? row.policyRevisionId = some k := by
      cases hf : c.idxOf? row.policyRevisionId with
      | none => exact absurd hta (List.idxOf?_eq_none_iff.mp hf)
      | some k => exact ⟨k, rfl⟩
    refine ⟨row.lease st.clock (st.nextToken + k), List.mem_map.mpr ⟨row, hm, ?_⟩, rfl,
      _, _, rfl, Nat.le_add_right _ _⟩
    rw [← hcl, hf]
  · right
    set l := leaseClaimed st.rows st.clock c st.nextToken with hl
    have hk : ∀ o ∈ st.rows, o.policyRevisionId ∉ c → o ∈ l := by
      intro o hr hs
      refine List.mem_map.mpr ⟨o, hr, ?_⟩
      rw [List.idxOf?_eq_none_iff.mpr hs]
    refine ⟨hk row hm hta, due, ?_⟩
    -- The batch is full, so some other due row has been taken.
    obtain ⟨o, ht⟩ : ∃ o, o ∈ claimable st.rows st.clock [] := by
      refine List.exists_mem_of_ne_nil _ fun he => ?_
      have few : ((st.rows.filter fun row =>
          row.Due st.clock ∧ row.policyRevisionId ∉ []).insertionSort claimOrder) = [] := by
        have hn := congrArg List.length he
        unfold claimable at hn
        rw [List.length_take, List.length_nil] at hn
        refine List.eq_nil_of_length_eq_zero ?_
        unfold policyReconciliationClaimBatchLimit at hn
        omega
      have hir : row ∈ st.rows.filter fun row =>
          row.Due st.clock ∧ row.policyRevisionId ∉ [] :=
        List.mem_filter.mpr ⟨hm, decide_eq_true ⟨due, List.not_mem_nil⟩⟩
      have hin := (List.mem_insertionSort claimOrder).mpr hir
      rw [few] at hin
      cases hin
    obtain ⟨hr, hd, _⟩ := claimable_mem ht
    have hc : o.policyRevisionId ∈ c := List.mem_map_of_mem ht
    have hno : ∀ r : IntentRow, r.policyRevisionId ∈ c → ¬ (st.leasedIn c r).Due st.clock := by
      intro r hi
      unfold State.leasedIn
      cases hf : c.idxOf? r.policyRevisionId with
      | none => exact absurd hi (List.idxOf?_eq_none_iff.mp hf)
      | some k => exact fun hd => by cases hd.1
    show (l.filter fun row => row.Due st.clock).length < _
    rw [hl, leaseClaimed, List.filter_map, List.length_map]
    have hfe : st.rows.filter (fun r => decide ((st.leasedIn c r).Due st.clock)) =
        (st.rows.filter fun r => r.Due st.clock).filter fun r =>
          r.policyRevisionId ∉ c := by
      rw [List.filter_filter]
      refine List.filter_congr fun r _ => ?_
      by_cases hi : r.policyRevisionId ∈ c
      · simp [hno r hi, hi]
      · simp [State.leasedIn, List.idxOf?_eq_none_iff.mpr hi, hi]
    refine (congrArg List.length hfe).trans_lt ?_
    exact List.length_filter_lt_length_iff_exists.mpr
      ⟨o, List.mem_filter.mpr ⟨hr, decide_eq_true hd⟩, by simp [hc]⟩

theorem claimed_after_claims (c : Nat) : ∀ st : State, dueCount st ≤ c →
    ∀ row ∈ st.rows, row.Due st.clock → Reclaimable st row := by
  induction c with
  | zero =>
    intro st few row hm due
    have hno := List.eq_nil_of_length_eq_zero (Nat.le_zero.mp few)
    have hd : row ∈ st.rows.filter fun row => row.Due st.clock :=
      List.mem_filter.mpr ⟨hm, decide_eq_true due⟩
    rw [hno] at hd
    exact nomatch hd
  | succ c ih =>
    intro st few row hm due
    obtain ⟨st₁, hv, hg, hle | ⟨hst, hs, hfe⟩⟩ := claim_progress hm due
    · exact ⟨st₁, .claim hv (.refl _), hle⟩
    · obtain ⟨st', ha, row', hr, hn, token, lu, hl, hf⟩ := ih st₁ (by omega) row hst hs
      exact ⟨st', .claim hv ha, row', hr, hn, token, lu, hl, Nat.le_trans hg hf⟩

theorem claimed_after_wait (hm : row ∈ st.rows) (hp : row.state = .pending) :
    Reclaimable st row := by
  have due : row.Due (st.clock + row.availableAt) := ⟨hp, Nat.le_add_left _ _⟩
  obtain ⟨st', ha, hl⟩ := claimed_after_claims _
    { st with clock := st.clock + row.availableAt } (Nat.le_refl _) row hm due
  exact ⟨st', .wait row.availableAt ha, hl⟩

theorem reclaimed_after_wait (hs : Sound st) (hm : row ∈ st.rows) {lu : Instant}
    (hle : row.state = .leased token lu) :
    Reclaimable st row := by
  have ht : ∀ o ∈ st.rows, ∃ hr, (if o.Overdue (st.clock + lu) then
      o.returned (st.clock + lu) "reconciliation_lease_expired"
      else some o) = some hr := by
    intro o hro
    split
    next ho =>
      unfold IntentRow.Overdue at ho
      split at ho
      next h u hl =>
        exact returned_of_fits _ _ ((hs.rows o hro).leased h u hl).2.1
      next => exact ho.elim
    next => exact ⟨o, rfl⟩
  obtain ⟨rows, hre⟩ := mapM_some_of_forall ht
  obtain ⟨row', hi, hr⟩ := (mem_of_mapM_some hre).2 row hm
  have ho : row.Overdue (st.clock + lu) := by
    unfold IntentRow.Overdue
    rw [hle]
    exact Nat.le_add_left _ _
  rw [if_pos ho] at hr
  obtain ⟨he, hp, _⟩ := returned_pending hr
  have hv : step { st with clock := st.clock + lu } (.reclaim (st.clock + lu)) =
        some { st with clock := st.clock + lu, rows } := by
    show Option.map _ (reclaimLeases st.rows (st.clock + lu) _) = _
    rw [reclaimLeases, hre]
    rfl
  have hc : Reclaimable { st with clock := st.clock + lu, rows } row' := claimed_after_wait hi hp
  obtain ⟨st', ha, r'', hro, hn, hag⟩ := hc
  exact ⟨st', .wait lu (.reclaim hv ha), r'', hro, hn.trans he.2, hag⟩

/-! ## No reconciliation is lost -/

/-- Along careful runs no reconciliation is lost. -/
theorem none_lost (st : State) (reached : machine.GuardedReachable Careful st) : NoneLost st := by
  have hso := Sound.of_reachable reached
  refine ⟨fun row hm at_ hd ha => ?_, fun row hm hw => ?_, fenced st⟩
  · rcases (hso.rows row hm).dispatched at_ hd with ⟨hs, hr⟩ | hs | ho
    · left
      unfold Running
      rw [hr]
      trivial
    · exact .inr hs
    · exact absurd ha ho
  · rcases hw with hp | ⟨token, lu, hl⟩
    · exact claimed_after_wait hm hp
    · exact reclaimed_after_wait hso hm hl

/-! ### A start that joins a closing execution -/

/-- The first execution fails for good and releases its intent; the intent is claimed again and
its start joins that execution before it closes. -/
def joiningScript : List Action :=
  [.publish 1 11, .claim 0 [], .start 0 false, .acknowledge 0,
    .fail 11 "source_commit_outcome_unknown" true, .tick 4, .claim 4 [], .start 1 false,
    .acknowledge 1, .close 11]

/-- The intent of the active revision rests in `dispatched`, its only execution has failed and
its scan has not ended. -/
theorem joined_while_closing : ¬ ∀ st, machine.Reachable st → NoneLost st := by
  intro hn
  obtain ⟨st, ran⟩ : ∃ st, machine.run .initial joiningScript = some st := ⟨_, rfl⟩
  have hr := Machine.reachable_of_run (M := machine) rfl ran
  cases ran
  rcases (hn _ hr).cared _ List.mem_cons_self 4 rfl rfl with hru | hs
  · exact hru
  · exact nomatch hs

/-- One overdue row whose backoff overflows refuses every reclaim. -/
theorem reclaim_refused (hm : row ∈ st.rows) (hov : row.Overdue now)
    (ho : 31 ≤ row.attemptCount) : step st (.reclaim now) = none := by
  have hl : ¬ 2 ^ row.attemptCount ≤ maximumInteger := by
    have hg : 2 ^ 31 ≤ 2 ^ row.attemptCount := Nat.pow_le_pow_right (by decide) ho
    have he : maximumInteger < 2 ^ 31 := by decide
    omega
  have hre : row.returned st.clock "reconciliation_lease_expired" = none := by
    unfold IntentRow.returned boundedBackoffInterval
    rw [if_neg hl]
    rfl
  cases hr : reclaimLeases st.rows st.clock now with
  | none => exact congrArg (Option.map _) hr
  | some rows =>
    obtain ⟨row', _, hi⟩ := (mem_of_mapM_some hr).2 row hm
    rw [if_pos hov, hre] at hi
    exact nomatch hi

/-- Fifteen starts that do not reach the engine, each released with its backoff, then a claim. -/
def outageScript : List Action :=
  .publish 1 11 :: (List.range 15).flatMap (fun i =>
    [.claim (300 * i) [], .miss i, .release i "exclusion_policy_commit_outcome_unknown",
      .tick 300]) ++ [.claim 4500 []]

/-- After them the lease can be neither released nor reclaimed. -/
theorem outage_strands_lease :
    ∃ st, machine.Reachable st ∧ ∃ row ∈ st.rows, row.state = .leased 15 4560 ∧
      ∀ now, 4560 ≤ now → step st (.reclaim now) = none := by
  obtain ⟨st, ran⟩ : ∃ st, machine.run .initial outageScript = some st := ⟨_, rfl⟩
  have hr := Machine.reachable_of_run (M := machine) rfl ran
  refine ⟨st, hr, ?_⟩
  cases ran
  exact ⟨_, List.mem_cons_self, rfl, fun now hp =>
    reclaim_refused List.mem_cons_self hp (by decide)⟩

/-! ### A dispatched revision -/

def dispatchScript : List Action :=
  [.publish 1 11, .claim 0 [], .start 0 false, .acknowledge 0, .scan 11, .complete 11]

/-- Whether a step is careful, for steps that close no execution and join none. -/
def checksCareful (st : State) : Action → Bool
  | .claim _ _ => st.rows.all fun row => row.attemptCount < 30
  | .start i _ => st.tasks[i]?.all fun task =>
      (st.workflow task.policyRevisionId).phase = .absent
  | .close _ => false
  | _ => true

theorem checksCareful_sound (st : State) (a : Action)
    (hc : checksCareful st a = true) : Careful st a := by
  cases a with
  | claim now l =>
    intro row hm _
    exact of_decide_eq_true (List.all_eq_true.mp hc row hm)
  | start i lo =>
    intro t ht s hr
    simp only [checksCareful, Option.mem_def.mp ht, Option.all_some, decide_eq_true_eq] at hc
    exact nomatch hc.symm.trans hr
  | close id => exact nomatch hc
  | _ => trivial

/-- A revision dispatched and scanned. -/
theorem dispatched_revision_none_lost :
    ∃ st, machine.run .initial dispatchScript = some st ∧ NoneLost st := by
  obtain ⟨st, ran⟩ : ∃ st, machine.run .initial dispatchScript = some st := ⟨_, rfl⟩
  have hc : machine.runChecks checksCareful .initial dispatchScript = true := rfl
  exact ⟨st, ran, none_lost st (Machine.guardedReachable_of_run checksCareful_sound rfl ran hc)⟩

end PersonalOs.ExclusionPolicy.Dispatch
