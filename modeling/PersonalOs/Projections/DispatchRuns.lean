import PersonalOs.Basis.Tables
import PersonalOs.Projections.Dispatch

/-!
# No intent is lost
-/

namespace PersonalOs.Projections

variable {st st' : State} {row row' : ProjectionIntent} {executions executions' : List Execution}
  {intent : IntentIdentity}

/-! ## What a step does -/

inductive Moves (st : State) : Action → State → Prop
  | tick (seconds : Nat) : Moves st (.tick seconds) { st with clock := st.clock + seconds }
  | enqueue (intent : IntentIdentity)
      (fresh : ∀ row ∈ st.rows, row.projectionIntentId ≠ intent.projectionIntentId) :
      Moves st (.enqueue intent)
        { st with rows := st.rows ++ [⟨intent, .pending, 0, st.clock, st.clock, none⟩] }
  | reclaim (now : Instant) (locked : List Uuid) : Moves st (.reclaim now locked)
      { st with rows := reclaimExpired st.rows st.clock now locked }
  | claim (now : Instant) (locked : List Uuid) (taken : List ProjectionIntent)
      (batch : taken = claimAvailable st.rows now locked) : Moves st (.claim now locked)
      { st with
        rows := leaseClaimed st.rows st.clock (taken.map (·.projectionIntentId)) st.nextToken
        nextToken := st.nextToken + taken.length
        tasks := st.tasks ++ taken.mapIdx fun k row =>
          ⟨row.toIntentIdentity, row.attemptCount, st.nextToken + k, .leased⟩ }
  | refuse {i : Nat} {task : DispatchTask} (stands : st.tasks[i]? = some task)
      (none : sourceIngestionReferenceForIntent task.intent = none) :
      Moves st (.refuse i) (st.advance i task .refused)
  | start {i : Nat} {task : DispatchTask} {reference : SourceIngestionReference}
      (answer : DuplicateAnswer) (lost : Bool) (stands : st.tasks[i]? = some task)
      (refers : sourceIngestionReferenceForIntent task.intent = some reference) :
      Moves st (.start i answer lost)
        { st.advance i task (startPhase (startWorkflow st.executions reference answer).2 lost) with
          executions := (startWorkflow st.executions reference answer).1 }
  | miss {i : Nat} {task : DispatchTask} (stands : st.tasks[i]? = some task) :
      Moves st (.miss i) (st.advance i task .unavailable)
  | describe {i : Nat} {task : DispatchTask} {reference : SourceIngestionReference} (lost : Bool)
      (stands : st.tasks[i]? = some task)
      (refers : sourceIngestionReferenceForIntent task.intent = some reference) :
      Moves st (.describe i lost) (st.advance i task
        (describePhase (findExecution st.executions (projectionWorkflowId reference)) lost))
  | acknowledge {i : Nat} {task : DispatchTask} (stands : st.tasks[i]? = some task)
      (answered : task.phase = .answered) : Moves st (.acknowledge i)
      { st with
        rows := fencedTransition st.rows task.intent.projectionIntentId task.leaseToken
          (·.dispatched st.clock) }
  | release {i : Nat} {task : DispatchTask} (now : Instant) (stands : st.tasks[i]? = some task) :
      Moves st (.release i now)
      { st with
        rows := releaseRetry st.rows task.intent.projectionIntentId task.leaseToken
          (now + projectionRetryBackoffSeconds task.attemptCount) }
  | markTerminal {i : Nat} {task : DispatchTask} (stands : st.tasks[i]? = some task)
      (refused : task.phase = .refused) : Moves st (.markTerminal i)
      { st with
        rows := fencedTransition st.rows task.intent.projectionIntentId task.leaseToken
          (·.terminated) }
  | crash (i : Nat) : Moves st (.crash i) { st with tasks := st.tasks.eraseIdx i }
  | close (workflowId : WorkflowId) (status : WorkflowExecutionStatus) :
      Moves st (.close workflowId status)
        { st with executions := closeExecution st.executions workflowId status }
  | startForeign (workflowId : WorkflowId) (workflowType taskQueue : String)
      (fresh : findExecution st.executions workflowId = none) :
      Moves st (.startForeign workflowId workflowType taskQueue)
        { st with executions :=
            st.executions ++ [⟨workflowId, workflowType, taskQueue, none, .running⟩] }

variable {action : Action} {execution : Execution} {task : DispatchTask} {now : Instant}
  {token : LeaseToken}

theorem moves_of_step (hv : step st action = some st') : Moves st action st' := by
  cases action with
  | tick | reclaim | close =>
    cases hv
    constructor
  | claim now l =>
    cases hv
    exact .claim now l _ rfl
  | enqueue intent =>
    simp only [step] at hv
    split at hv
    next hf =>
      cases hv
      exact .enqueue intent hf
    · exact nomatch hv
  | crash i =>
    simp only [step] at hv
    split at hv
    · cases hv
      exact .crash i
    · exact nomatch hv
  | startForeign wi wt tq =>
    simp only [step] at hv
    split at hv
    next hf =>
      cases hv
      exact .startForeign wi wt tq hf.1
    · exact nomatch hv
  | refuse i =>
    simp only [step, Option.bind_eq_bind, Option.bind_eq_some_iff, Option.guard_eq_some'] at hv
    obtain ⟨task, ht, _, ⟨_, hn⟩, hv⟩ := hv
    cases hv
    exact .refuse ht hn
  | start i an lo =>
    simp only [step, Option.bind_eq_bind, Option.bind_eq_some_iff, Option.guard_eq_some'] at hv
    obtain ⟨task, ht, _, _, r, hr, hv⟩ := hv
    cases hv
    exact .start an lo ht hr
  | miss i =>
    simp only [step, Option.bind_eq_bind, Option.bind_eq_some_iff, Option.guard_eq_some'] at hv
    obtain ⟨task, ht, _, _, hv⟩ := hv
    cases hv
    exact .miss ht
  | describe i lo =>
    simp only [step, Option.bind_eq_bind, Option.bind_eq_some_iff, Option.guard_eq_some'] at hv
    obtain ⟨task, ht, _, _, r, hr, hv⟩ := hv
    cases hv
    exact .describe lo ht hr
  | acknowledge i =>
    simp only [step, Option.bind_eq_bind, Option.bind_eq_some_iff, Option.guard_eq_some'] at hv
    obtain ⟨task, ht, _, ha, hv⟩ := hv
    cases hv
    exact .acknowledge ht ha
  | release i now =>
    simp only [step, Option.bind_eq_bind, Option.bind_eq_some_iff, Option.guard_eq_some'] at hv
    obtain ⟨task, ht, _, _, hv⟩ := hv
    cases hv
    exact .release now ht
  | markTerminal i =>
    simp only [step, Option.bind_eq_bind, Option.bind_eq_some_iff, Option.guard_eq_some'] at hv
    obtain ⟨task, ht, _, hre, hv⟩ := hv
    cases hv
    exact .markTerminal ht hre

/-! ## Executions -/

/-- What an execution has become known for stays. -/
def Grows (executions executions' : List Execution) : Prop :=
  ∀ execution ∈ executions, ∃ after ∈ executions', after.workflowId = execution.workflowId ∧
    (after.Foreign ↔ execution.Foreign) ∧
    (¬ execution.status.Accepted → after.status = execution.status)

theorem Grows.refl (executions : List Execution) : Grows executions executions :=
  fun execution hm => ⟨execution, hm, rfl, .rfl, fun _ => rfl⟩

theorem Grows.append (executions a : List Execution) : Grows executions (executions ++ a) :=
  fun execution hm =>
    ⟨execution, List.mem_append_left _ hm, rfl, .rfl, fun _ => rfl⟩

theorem Grows.close (executions : List Execution) (wi : WorkflowId) (s : WorkflowExecutionStatus) :
    Grows executions (closeExecution executions wi s) := by
  intro execution hm
  refine ⟨_, List.mem_map_of_mem hm, ?_⟩
  split
  next hc =>
    refine ⟨rfl, .rfl, fun ha => absurd ?_ ha⟩
    rw [hc.2]
    trivial
  · exact ⟨rfl, .rfl, fun _ => rfl⟩

theorem Accepted.grows (ha : Accepted executions intent)
    (hg : Grows executions executions') : Accepted executions' intent := by
  obtain ⟨execution, hm, ⟨ei, he, hn⟩, own⟩ := ha
  obtain ⟨a, hm', hs, hf, _⟩ := hg execution hm
  exact ⟨a, hm', ⟨ei, he, hs.trans hn⟩, fun is => own (hf.mp is)⟩

theorem Spoiled.grows (hs : Spoiled executions intent)
    (hg : Grows executions executions') : Spoiled executions' intent := by
  obtain ⟨execution, hm, ⟨ei, he, hn⟩, hsp⟩ := hs
  obtain ⟨a, hm', hsa, hfo, hc⟩ := hg execution hm
  refine ⟨a, hm', ⟨ei, he, hsa.trans hn⟩, ?_⟩
  rcases hsp with hf | ha
  · exact .inl (hfo.mpr hf)
  · exact .inr (hc ha ▸ ha)

theorem startWorkflow_grows (r : SourceIngestionReference) (an : DuplicateAnswer) :
    Grows executions (startWorkflow executions r an).1 := by
  unfold startWorkflow
  split
  · exact .append _ _
  · exact .refl _

theorem mem_of_findExecution {wi : WorkflowId} (hf : findExecution executions wi = some execution) :
    execution ∈ executions ∧ execution.workflowId = wi :=
  ⟨List.mem_of_find?_eq_some hf, of_decide_eq_true (List.find?_some hf :)⟩

theorem of_reference {r : SourceIngestionReference}
    (hr : sourceIngestionReferenceForIntent intent = some r)
    (hn : execution.workflowId = projectionWorkflowId r) : execution.Of intent := by
  unfold sourceIngestionReferenceForIntent at hr
  split at hr
  next sv ei _ he =>
    cases hr
    exact ⟨ei, he, hn⟩
  · exact nomatch hr

/-- A start that is answered with a handle was accepted, unless it joined a foreign execution. -/
theorem startWorkflow_accepted {r : SourceIngestionReference} {an : DuplicateAnswer}
    (hr : sourceIngestionReferenceForIntent intent = some r)
    (hre : an = .joined → ∀ execution ∈
      findExecution executions (projectionWorkflowId r), ¬ execution.Foreign)
    (hh : (startWorkflow executions r an).2 = true) :
    Accepted (startWorkflow executions r an).1 intent := by
  cases hf : findExecution executions (projectionWorkflowId r) with
  | none =>
    simp only [startWorkflow, hf]
    refine ⟨startedExecution r, by simp, of_reference hr rfl, ?_⟩
    rintro (ho | ho) <;> exact ho rfl
  | some execution =>
    simp only [startWorkflow, hf, decide_eq_true_eq] at hh ⊢
    obtain ⟨hm, hn⟩ := mem_of_findExecution hf
    exact ⟨execution, hm, of_reference hr hn, hre hh.2 execution hf⟩

theorem describe_resolves {r : SourceIngestionReference} {l : Bool}
    (hre : sourceIngestionReferenceForIntent intent = some r) :
    (describePhase (findExecution executions (projectionWorkflowId r)) l = .answered →
      Accepted executions intent) ∧
    (describePhase (findExecution executions (projectionWorkflowId r)) l = .refused →
      Spoiled executions intent) := by
  cases hfo : findExecution executions (projectionWorkflowId r) with
  | none => exact ⟨nofun, nofun⟩
  | some execution =>
    obtain ⟨hm, hn⟩ := mem_of_findExecution hfo
    have ho : execution.Of intent := of_reference hre hn
    cases l with
    | true => exact ⟨nofun, nofun⟩
    | false =>
      simp only [describePhase, Bool.false_eq_true, if_false]
      split
      next hr =>
        have own : ¬ execution.Foreign ∧ execution.status.Accepted := of_decide_eq_true hr
        exact ⟨fun _ => ⟨execution, hm, ho, own.1⟩, nofun⟩
      next hf =>
        refine ⟨nofun, fun _ => ⟨execution, hm, ho, ?_⟩⟩
        by_contra hs
        push Not at hs
        exact hf (decide_eq_true hs)

/-! ## Rows -/

def Rewrites (rows rows' : List ProjectionIntent) : Prop :=
  ∃ write : ProjectionIntent → ProjectionIntent, rows' = rows.map write ∧
    ∀ row, (write row).toIntentIdentity = row.toIntentIdentity

section Rewriting

variable {rows rows' : List ProjectionIntent}

theorem Rewrites.unique (hr : Rewrites rows rows')
    (hu : Tables.Unique (·.projectionIntentId) rows) :
    Tables.Unique (·.projectionIntentId) rows' := by
  obtain ⟨w, rfl, he⟩ := hr
  have ids : (rows.map w).map (·.projectionIntentId) = rows.map (·.projectionIntentId) := by
    rw [List.map_map]
    exact List.map_congr_left fun row _ => congrArg IntentIdentity.projectionIntentId (he row)
  show (List.map _ (rows.map w)).Nodup
  rw [ids]
  exact hu

theorem Rewrites.image (hr : Rewrites rows rows') (hm : row ∈ rows) :
    ∃ row' ∈ rows', row'.toIntentIdentity = row.toIntentIdentity := by
  obtain ⟨w, rfl, he⟩ := hr
  exact ⟨w row, List.mem_map_of_mem hm, he row⟩

theorem rewrites_reclaim (rows : List ProjectionIntent) (c now : Instant)
    (l : List Uuid) : Rewrites rows (reclaimExpired rows c now l) :=
  ⟨_, rfl, fun row => by split <;> rfl⟩

theorem rewrites_claim (rows : List ProjectionIntent) (cl : Instant) (c : List Uuid)
    (token : LeaseToken) : Rewrites rows (leaseClaimed rows cl c token) :=
  ⟨_, rfl, fun row => by dsimp only; split <;> rfl⟩

theorem rewrites_fenced (rows : List ProjectionIntent) (ii : Uuid)
    (lt : LeaseToken) {w : ProjectionIntent → ProjectionIntent}
    (he : ∀ row, (w row).toIntentIdentity = row.toIntentIdentity) :
    Rewrites rows (fencedTransition rows ii lt w) := by
  refine ⟨_, rfl, fun row => ?_⟩
  split
  · exact he row
  · rfl

end Rewriting

/-! ## The invariant -/

structure RowSound (executions : List Execution) (nextToken : LeaseToken)
    (row : ProjectionIntent) : Prop where
  dispatched : ∀ dispatchedAt, row.state = .dispatched dispatchedAt →
    Accepted executions row.toIntentIdentity
  terminal : row.state = .terminal →
    row.sourceVersionId = none ∨ Spoiled executions row.toIntentIdentity
  leased : ∀ token leasedUntil, row.state = .leased token leasedUntil → row.FromSourceEvent
  policy : ¬ row.FromSourceEvent → row.state = .pending

/-- What a task rests on: the row it was leased from, and what its dispatcher has learned. -/
structure TaskSound (rows : List ProjectionIntent) (executions : List Execution)
    (task : DispatchTask) : Prop where
  ofRow : ∃ row ∈ rows, row.toIntentIdentity = task.intent ∧ row.FromSourceEvent
  answered : task.phase = .answered → Accepted executions task.intent
  refused : task.phase = .refused →
    task.intent.sourceVersionId = none ∨ Spoiled executions task.intent

structure Sound (st : State) : Prop where
  unique : Tables.Unique (·.projectionIntentId) st.rows
  rows : ∀ row ∈ st.rows, RowSound st.executions st.nextToken row
  tasks : ∀ task ∈ st.tasks, TaskSound st.rows st.executions task
  single : Tables.Unique (·.workflowId) st.executions
  references : ∀ execution ∈ st.executions, ∀ reference ∈ execution.reference,
    execution.workflowId = projectionWorkflowId reference

theorem fromSourceEvent_of_same (he : row'.toIntentIdentity = row.toIntentIdentity) :
    row'.FromSourceEvent ↔ row.FromSourceEvent := by
  unfold ProjectionIntent.FromSourceEvent
  rw [he]

theorem RowSound.of_pending {nt : LeaseToken} (hp : row.state = .pending) :
    RowSound executions nt row where
  dispatched _ is := nomatch hp.symm.trans is
  terminal is := nomatch hp.symm.trans is
  leased _ _ is := nomatch hp.symm.trans is
  policy _ := hp

theorem RowSound.grows {nt nt' : LeaseToken}
    (hs : RowSound executions nt row) (hg : Grows executions executions') :
    RowSound executions' nt' row where
  dispatched da is := (hs.dispatched da is).grows hg
  terminal is := (hs.terminal is).imp_right fun hsp => hsp.grows hg
  leased := hs.leased
  policy := hs.policy

theorem TaskSound.grows {rows : List ProjectionIntent} (hs : TaskSound rows executions task)
    (hg : Grows executions executions') :
    TaskSound rows executions' task where
  ofRow := hs.ofRow
  answered is := (hs.answered is).grows hg
  refused is := (hs.refused is).imp_right fun hsp => hsp.grows hg

theorem TaskSound.rewrite {rows rows' : List ProjectionIntent}
    (hs : TaskSound rows executions task) (hr : Rewrites rows rows') :
    TaskSound rows' executions task where
  ofRow := by
    obtain ⟨row, hm, he, hf⟩ := hs.ofRow
    obtain ⟨row', hm', hk⟩ := hr.image hm
    exact ⟨row', hm', hk.trans he, (fromSourceEvent_of_same hk).mpr hf⟩
  answered := hs.answered
  refused := hs.refused

theorem Sound.held_row (hso : Sound st) (ht : task ∈ st.tasks) (hm : row ∈ st.rows)
    (hh : row.Holds task.intent.projectionIntentId task.leaseToken) :
    row.toIntentIdentity = task.intent ∧ row.FromSourceEvent := by
  obtain ⟨s, hs, he, hf⟩ := (hso.tasks task ht).ofRow
  have hn : row.projectionIntentId = s.projectionIntentId :=
    hh.1.trans (congrArg IntentIdentity.projectionIntentId he).symm
  obtain rfl : row = s := hso.unique.eq_of_key hm hs hn
  exact ⟨he, hf⟩

theorem Sound.rewrite (hs : Sound st) {rows' : List ProjectionIntent} (hr : Rewrites st.rows rows')
    (he : ∀ row' ∈ rows', RowSound st.executions st.nextToken row') :
    Sound { st with rows := rows' } where
  unique := hr.unique hs.unique
  rows := he
  tasks task ht := (hs.tasks task ht).rewrite hr
  single := hs.single
  references := hs.references

theorem Sound.fencedTransition (hs : Sound st) (ht : task ∈ st.tasks)
    {w : ProjectionIntent → ProjectionIntent}
    (he : ∀ row, (w row).toIntentIdentity = row.toIntentIdentity)
    (hw : ∀ row ∈ st.rows, row.toIntentIdentity = task.intent → row.FromSourceEvent →
      RowSound st.executions st.nextToken (w row)) :
    Sound { st with
      rows := fencedTransition st.rows task.intent.projectionIntentId task.leaseToken w } := by
  refine hs.rewrite (rewrites_fenced _ _ _ he) fun row' hm => ?_
  obtain ⟨row, hr, rfl⟩ := List.mem_map.mp hm
  split
  next hh =>
    obtain ⟨hi, hf⟩ := hs.held_row ht hr hh
    exact hw row hr hi hf
  · exact hs.rows row hr

theorem Sound.advance (hs : Sound st) {i : Nat} {p : TaskPhase}
    (hst : st.tasks[i]? = some task) (hg : Grows st.executions executions')
    (hsi : Tables.Unique (·.workflowId) executions')
    (hr : ∀ execution ∈ executions', ∀ r ∈ execution.reference,
      execution.workflowId = projectionWorkflowId r)
    (ha : p = .answered → Accepted executions' task.intent) (hre : p = .refused →
      task.intent.sourceVersionId = none ∨ Spoiled executions' task.intent) :
    Sound { st.advance i task p with executions := executions' } where
  unique := hs.unique
  rows row hm := (hs.rows row hm).grows hg
  tasks o ht := by
    rcases List.mem_or_eq_of_mem_set ht with old | rfl
    · exact (hs.tasks o old).grows hg
    · exact ⟨(hs.tasks task (List.mem_of_getElem? hst)).ofRow, ha, hre⟩
  single := hsi
  references := hr

/-! ## The step -/

theorem single_append (hs : Tables.Unique (·.workflowId) executions)
    (hf : findExecution executions execution.workflowId = none) :
    Tables.Unique (·.workflowId) (executions ++ [execution]) := by
  refine hs.snoc ?_
  rw [Tables.lookup_none_iff]
  intro o hm
  have hd := List.find?_eq_none.mp hf o hm
  exact of_decide_eq_false (Bool.eq_false_iff.mpr hd)

theorem startWorkflow_single (r : SourceIngestionReference) (an : DuplicateAnswer)
    (hs : Tables.Unique (·.workflowId) executions) :
    Tables.Unique (·.workflowId) (startWorkflow executions r an).1 := by
  unfold startWorkflow
  split
  next hf => exact single_append hs hf
  · exact hs

theorem startWorkflow_references (r : SourceIngestionReference) (an : DuplicateAnswer)
    (hre : ∀ execution ∈ executions, ∀ r ∈ execution.reference,
      execution.workflowId = projectionWorkflowId r) :
    ∀ execution ∈ (startWorkflow executions r an).1, ∀ r ∈ execution.reference,
        execution.workflowId = projectionWorkflowId r := by
  unfold startWorkflow
  split
  · intro execution hm h hr
    rcases List.mem_append.mp hm with old | new
    · exact hre execution old h hr
    · cases List.mem_singleton.mp new
      cases hr
      rfl
  · exact hre

theorem Sound.claim (hs : Sound st) {l : List Uuid} {t : List ProjectionIntent}
    (hb : t = claimAvailable st.rows now l) :
    Sound { st with
      rows := leaseClaimed st.rows st.clock (t.map (·.projectionIntentId)) st.nextToken
      nextToken := st.nextToken + t.length
      tasks := st.tasks ++ t.mapIdx fun k row =>
        ⟨row.toIntentIdentity, row.attemptCount, st.nextToken + k, .leased⟩ } := by
  have hr := rewrites_claim st.rows st.clock (t.map (·.projectionIntentId)) st.nextToken
  have hd {row : ProjectionIntent} (ht : row ∈ t) : row ∈ st.rows ∧ row.Due now := by
    rw [hb] at ht
    obtain ⟨hm, due⟩ := Outbox.mem_batch ht
    exact ⟨hm, (of_decide_eq_true due).1⟩
  refine ⟨hr.unique hs.unique, fun row' hm => ?_, fun task hta => ?_, hs.single, hs.references⟩
  · obtain ⟨row, hro, rfl | ⟨k, hfo, rfl⟩⟩ := Outbox.mem_leaseAll hm
    · exact (hs.rows _ hro).grows (.refl _)
    · -- The claimed row is the due row of its id, so it comes from a source event.
      have hi : row.projectionIntentId ∈ t.map (·.projectionIntentId) := by
        by_contra hsp
        exact nomatch (List.idxOf?_eq_none_iff.mpr hsp).symm.trans hfo
      obtain ⟨due, ht, hn⟩ := List.mem_map.mp hi
      obtain ⟨hr', _, _, hf⟩ := hd ht
      obtain rfl : due = row := hs.unique.eq_of_key hr' hro hn
      exact ⟨nofun, nofun, fun _ _ _ => hf, fun hp => absurd hf hp⟩
  · rcases List.mem_append.mp hta with old | new
    · exact (hs.tasks task old).rewrite hr
    · obtain ⟨k, hin, rfl⟩ := List.mem_mapIdx.mp new
      obtain ⟨hro, _, _, hf⟩ := hd (List.getElem_mem hin)
      obtain ⟨row', hm', he⟩ := hr.image hro
      exact ⟨⟨row', hm', he, (fromSourceEvent_of_same he).mpr hf⟩, nofun, nofun⟩

theorem Sound.enqueue (hs : Sound st)
    (hfr : ∀ row ∈ st.rows, row.projectionIntentId ≠ intent.projectionIntentId) :
    Sound { st with
      rows := st.rows ++ [⟨intent, .pending, 0, st.clock, st.clock, none⟩] } where
  unique := hs.unique.snoc (Tables.lookup_none_iff.mpr hfr)
  rows row hm := by
    rcases List.mem_append.mp hm with old | new
    · exact hs.rows row old
    · cases List.mem_singleton.mp new
      exact .of_pending rfl
  tasks task ht := by
    obtain ⟨⟨row, hm, he, hf⟩, ha, hr⟩ := hs.tasks task ht
    exact ⟨⟨row, List.mem_append_left _ hm, he, hf⟩, ha, hr⟩
  single := hs.single
  references := hs.references

theorem Sound.engine (hs : Sound st) (hg : Grows st.executions executions')
    (hsi : Tables.Unique (·.workflowId) executions')
    (hr : ∀ execution ∈ executions', ∀ r ∈ execution.reference,
      execution.workflowId = projectionWorkflowId r) :
    Sound { st with executions := executions' } where
  unique := hs.unique
  rows row hm := (hs.rows row hm).grows hg
  tasks task ht := (hs.tasks task ht).grows hg
  single := hsi
  references := hr

theorem Sound.close (hs : Sound st) (wi : WorkflowId) (s : WorkflowExecutionStatus) :
    Sound { st with executions := closeExecution st.executions wi s } := by
  refine hs.engine (.close _ _ _) ?_ ?_
  · have ids : (closeExecution st.executions wi s).map (·.workflowId) =
        st.executions.map (·.workflowId) := by
      rw [closeExecution, List.map_map]
      refine List.map_congr_left fun execution _ => ?_
      show Execution.workflowId (if _ then _ else _) = _
      split <;> rfl
    show (List.map _ (closeExecution st.executions wi s)).Nodup
    rw [ids]
    exact hs.single
  · intro execution hm
    obtain ⟨b, hb, rfl⟩ := List.mem_map.mp hm
    split <;> exact hs.references b hb

/-- What intents and tasks rest on survives every step of an engine that joins no start to a
foreign execution. -/
theorem Sound.moves (hs : Sound st) (hrej : RejectsForeign st action)
    (hmo : Moves st action st') : Sound st' := by
  cases hmo with
  | tick se => exact ⟨hs.unique, hs.rows, hs.tasks, hs.single, hs.references⟩
  | enqueue intent hfr => exact hs.enqueue hfr
  | reclaim now l =>
    refine hs.rewrite (rewrites_reclaim _ _ _ _) fun row' hm => ?_
    obtain ⟨row, hro, rfl⟩ := List.mem_map.mp hm
    split
    · exact .of_pending rfl
    · exact hs.rows row hro
  | claim now l t hb => exact hs.claim hb
  | refuse ht hno =>
    refine hs.advance ht (.refl _) hs.single hs.references (by simp) fun _ => .inl ?_
    obtain ⟨row, _, hsa, hf⟩ := (hs.tasks _ (List.mem_of_getElem? ht)).ofRow
    unfold ProjectionIntent.FromSourceEvent at hf
    rw [hsa] at hf
    unfold sourceIngestionReferenceForIntent at hno
    split at hno
    · cases hno
    next hn =>
      split at hf
      next ei he =>
        exact Option.eq_none_iff_forall_ne_some.mpr fun v hv =>
          hn v ei hv he
      · exact hf.elim
  | @start i task r an lo ht hrs =>
    refine hs.advance ht (startWorkflow_grows r an) (startWorkflow_single r an hs.single)
      (startWorkflow_references r an hs.references) (fun ha => ?_)
      fun hr => ?_
    · refine startWorkflow_accepted hrs ?_ ?_
      · rintro rfl
        exact hrej task ht r hrs
      · by_contra hu
        unfold startPhase at ha
        split at ha
        · cases ha
        · cases ha
    · unfold startPhase at hr
      split at hr
      · cases hr
      · split at hr <;> cases hr
  | miss ht =>
    exact hs.advance ht (.refl _) hs.single hs.references (by simp) (by simp)
  | @describe i task r lo ht hrs =>
    have hres := @describe_resolves st.executions task.intent r lo hrs
    exact hs.advance ht (.refl _) hs.single hs.references hres.1 fun hr => .inr (hres.2 hr)
  | @acknowledge i task ht ha =>
    have hta := List.mem_of_getElem? ht
    refine hs.fencedTransition hta (fun _ => rfl) fun row _ hi hf => ?_
    refine ⟨fun _ _ => ?_, fun is => (by cases is), fun _ _ is => (by cases is),
      fun hp => absurd hf hp⟩
    show Accepted st.executions row.toIntentIdentity
    rw [hi]
    exact (hs.tasks task hta).answered ha
  | @release i task now ht =>
    refine hs.fencedTransition (List.mem_of_getElem? ht) (fun row => by split <;> rfl)
      fun row hro _ _ => ?_
    split
    · exact .of_pending rfl
    · exact hs.rows row hro
  | @markTerminal i task ht hr =>
    have hta := List.mem_of_getElem? ht
    refine hs.fencedTransition hta (fun _ => rfl) fun row _ hi hf => ?_
    refine ⟨fun _ is => (by cases is), fun _ => ?_, fun _ _ is => (by cases is),
      fun hp => absurd hf hp⟩
    show row.sourceVersionId = none ∨ Spoiled st.executions row.toIntentIdentity
    rw [hi]
    exact (hs.tasks task hta).refused hr
  | crash i =>
    exact ⟨hs.unique, hs.rows, fun task hta =>
      hs.tasks task (List.mem_of_mem_eraseIdx hta), hs.single, hs.references⟩
  | close wi s => exact hs.close wi s
  | startForeign wi wt tq hfr =>
    refine hs.engine (.append _ _) (single_append hs.single hfr) fun execution hm r hre => ?_
    rcases List.mem_append.mp hm with old | new
    · exact hs.references execution old r hre
    · cases List.mem_singleton.mp new
      cases hre

theorem Sound.initial : Sound .initial where
  unique := List.nodup_nil
  rows _ hm := nomatch hm
  tasks _ hm := nomatch hm
  single := List.nodup_nil
  references _ hm := nomatch hm

theorem Sound.of_reachable (hr : machine.GuardedReachable RejectsForeign st) : Sound st :=
  hr.invariant (fun _ hi => hi ▸ Sound.initial)
    fun _ _ _ hs hre hv => hs.moves hre (moves_of_step hv)

/-! ## Lost leases -/

/-- A lease in a row is one that was there, or a fresh one; tokens only go up. -/
theorem moves_leases (hmo : Moves st action st') : st.nextToken ≤ st'.nextToken ∧
      ∀ row' ∈ st'.rows, ∀ token lu, row'.state = .leased token lu →
        (∃ row ∈ st.rows, row.state = .leased token lu) ∨ st.nextToken ≤ token := by
  have hk : ∀ row' ∈ st.rows, ∀ token lu, row'.state = .leased token lu →
      (∃ row ∈ st.rows, row.state = .leased token lu) ∨ st.nextToken ≤ token :=
    fun row' hm token lu is => .inl ⟨row', hm, is⟩
  -- A write that leases nothing anew.
  have hr {w : ProjectionIntent → ProjectionIntent}
      (hf : ∀ row token lu, (w row).state = .leased token lu → row.state = .leased token lu) :
      ∀ row' ∈ st.rows.map w, ∀ token lu, row'.state = .leased token lu →
        (∃ row ∈ st.rows, row.state = .leased token lu) ∨ st.nextToken ≤ token := by
    intro row' hm token lu is
    obtain ⟨row, hro, rfl⟩ := List.mem_map.mp hm
    exact .inl ⟨row, hro, hf row token lu is⟩
  cases hmo with
  | tick | refuse | start | miss | describe | crash | close | startForeign =>
    exact ⟨Nat.le_refl _, hk⟩
  | enqueue intent hfr =>
    refine ⟨Nat.le_refl _, fun row' hm token lu is => ?_⟩
    rcases List.mem_append.mp hm with old | new
    · exact hk row' old token lu is
    · rw [List.mem_singleton.mp new] at is
      exact nomatch is
  | claim now l t hb =>
    refine ⟨Nat.le_add_right _ _, fun row' hm token lu is => ?_⟩
    obtain ⟨row, hro, rfl | ⟨k, _, rfl⟩⟩ := Outbox.mem_leaseAll hm
    · exact .inl ⟨_, hro, is⟩
    · cases is
      exact .inr (Nat.le_add_right _ _)
  | reclaim now l =>
    refine ⟨Nat.le_refl _, hr fun row token lu is => ?_⟩
    split at is
    · exact nomatch is
    · exact is
  | acknowledge | markTerminal =>
    refine ⟨Nat.le_refl _, hr fun row token lu is => ?_⟩
    split at is
    · exact nomatch is
    · exact is
  | release now ht =>
    refine ⟨Nat.le_refl _, hr fun row token lu is => ?_⟩
    split at is
    · dsimp only at is
      split at is
      · exact nomatch is
      · exact is
    · exact is

theorem lost_stays_lost (hlo : Lost st token) (hle : machine.Leads st st') : Lost st' token := by
  induction hle with
  | refl => exact hlo
  | tail _ hv ih =>
    obtain ⟨action, hv⟩ := hv
    obtain ⟨hg, hl⟩ := moves_leases (moves_of_step hv)
    refine ⟨Nat.lt_of_lt_of_le ih.1 hg, fun row' hm lu is => ?_⟩
    rcases hl row' hm token lu is with ⟨row, hr, was⟩ | hf
    · exact ih.2 row hr lu was
    · exact absurd ih.1 (Nat.not_lt.mpr hf)

theorem fencedTransition_of_lost (hl : Lost st token) (ii : Uuid)
    (w : ProjectionIntent → ProjectionIntent) :
    fencedTransition st.rows ii token w = st.rows := by
  have hs (row : ProjectionIntent) (hm : row ∈ st.rows) : ¬ row.Holds ii token := by
    rintro ⟨_, hh⟩
    split at hh
    next lt lu is => exact hl.2 row hm lu (hh ▸ is)
    next => exact hh
  exact (List.map_congr_left fun row hm => if_neg (hs row hm)).trans (List.map_id' _)

theorem fenced (st : State) : Fenced st := by
  intro token hl st' hle i task ht hh action hw s'' hv
  have hl := lost_stays_lost hl hle
  have hm := moves_of_step hv
  subst hh
  cases hm with
  | acknowledge ht' | markTerminal ht' =>
    cases hw
    cases ht.symm.trans ht'
    exact fencedTransition_of_lost hl _ _
  | release now ht' =>
    cases hw
    cases ht.symm.trans ht'
    exact fencedTransition_of_lost hl _ _
  | _ => exact hw.elim

/-! ## Claims -/

/-- How many rows are due at a reading. -/
def dueCount (now : Instant) (st : State) : Nat :=
  (st.rows.filter fun row => row.Due now ∧ row.projectionIntentId ∉ []).length

/-- The intent is due, and no token of a later state has been handed out. -/
def Awaits (st : State) (now : Instant) (intentId : Uuid) (later : State) : Prop :=
  st.nextToken ≤ later.nextToken ∧
    ∃ row ∈ later.rows, row.projectionIntentId = intentId ∧ row.Due now

theorem claimed_progress {ii : Uuid} (l : State) (hw : Awaits st now ii l) :
    LeasedAnew st (claimed now l) ii ∨ (Awaits st now ii (claimed now l) ∧
        dueCount now (claimed now l) < dueCount now l) := by
  obtain ⟨ho, row, hm, rfl, due⟩ := hw
  let ie (row : ProjectionIntent) : Bool := row.Due now ∧ row.projectionIntentId ∉ []
  let le (k : Nat) (row : ProjectionIntent) : ProjectionIntent :=
    row.lease l.clock (l.nextToken + k)
  have hl (k : Nat) (row : ProjectionIntent) : ie (le k row) = false :=
    decide_eq_false fun due => nomatch due.1.1
  have hp : 0 < projectionClaimBatchLimit := by decide
  have hpr := Outbox.claim_progress hp hl
    (show _ = (Outbox.batch claimOrder _ ie l.rows).map (·.projectionIntentId) from rfl)
    hm (decide_eq_true ⟨due, List.not_mem_nil⟩)
  rcases hpr with ⟨k, hfo⟩ | ⟨hs, hf⟩
  · exact .inl ⟨_, Outbox.mem_leaseAll_of_claimed hm hfo, rfl, _, _, rfl,
      Nat.le_trans ho (Nat.le_add_right _ _)⟩
  · exact .inr ⟨⟨Nat.le_trans ho (Nat.le_add_right _ _), row,
      Outbox.mem_leaseAll_of_spared hm hs, rfl, due⟩, hf⟩

theorem claimed_when_due (hm : row ∈ st.rows) (due : row.Due now) :
    ClaimedAt st now row.projectionIntentId := by
  let w : State → Prop := Awaits st now row.projectionIntentId
  let g (l : State) : Prop := LeasedAnew st l row.projectionIntentId
  have hp (l : State) (ha : w l) : g (claimed now l) ∨
      (w (claimed now l) ∧ dueCount now (claimed now l) < dueCount now l) :=
    claimed_progress l ha
  exact Outbox.exists_iterate hp st ⟨Nat.le_refl _, row, hm, rfl, due⟩

/-- A lease that has run out is reclaimed, and its intent is due within the backoff's cap. -/
theorem reclaimed_when_passed (hs : Sound st) (hm : row ∈ st.rows) {lu : Instant}
    (hl : row.state = .leased token lu) (hp : lu ≤ now)
    {l : List Uuid} (hu : row.projectionIntentId ∉ l) :
    ∃ st', step st (.reclaim now l) = some st' ∧ ∀ n', st.clock + projectionBackoffCapSeconds ≤ n' →
        ClaimedAt st' n' row.projectionIntentId := by
  refine ⟨_, rfl, fun n' hla => ?_⟩
  have ho : row.Overdue now := by
    unfold ProjectionIntent.Overdue
    rw [hl]
    exact hp
  have ht : row.reclaimed st.clock ∈ reclaimExpired st.rows st.clock now l :=
    List.mem_map.mpr ⟨row, hm, if_pos ⟨ho, hu⟩⟩
  have hf : row.FromSourceEvent := (hs.rows row hm).leased token lu hl
  have hso : st.clock + projectionRetryBackoffSeconds row.attemptCount ≤
      st.clock + projectionBackoffCapSeconds := Nat.add_le_add_left (Nat.min_le_left _ _) _
  have due : (row.reclaimed st.clock).Due n' := ⟨rfl, Nat.le_trans hso hla, hf⟩
  have ha : ClaimedAt { st with rows := reclaimExpired st.rows st.clock now l } n'
      (row.reclaimed st.clock).projectionIntentId := claimed_when_due ht due
  exact ha

/-! ## No intent is lost -/

theorem Sound.startedOnce (hs : Sound st) (wi ei : Uuid) : (ingestions st wi ei).length ≤ 1 := by
  have hn : ∀ execution ∈ ingestions st wi ei, execution.workflowId = ⟨wi, ei⟩ := by
    intro execution hm
    obtain ⟨he, hre⟩ := List.mem_filter.mp hm
    obtain ⟨r, hr, hsa⟩ := (Option.any_eq_true _ _).mp hre
    obtain ⟨rfl, rfl⟩ := of_decide_eq_true hsa
    exact hs.references execution he r hr
  have hd : ((ingestions st wi ei).map (·.workflowId)).Nodup :=
    List.Nodup.sublist (List.filter_sublist.map _) hs.single
  have hsa : (ingestions st wi ei).map (·.workflowId) =
      List.replicate (ingestions st wi ei).length ⟨wi, ei⟩ := by
    rw [List.eq_replicate_iff, List.length_map]
    exact ⟨rfl, List.forall_mem_map.mpr hn⟩
  rw [hsa, List.nodup_replicate] at hd
  exact hd

/-- **Projection dispatch loses nothing and starts each event once**, as long as the engine
rejects a start that meets a running execution of another type or queue. -/
theorem intents_dispatched_once (st : State)
    (reached : machine.GuardedReachable RejectsForeign st) : NoneLost st := by
  have hs := Sound.of_reachable reached
  refine ⟨hs.startedOnce, fun row hm => (hs.rows row hm).dispatched,
    fun row hm => (hs.rows row hm).terminal,
    fun row hm hpe hf now ha =>
      claimed_when_due hm ⟨hpe, ha, hf⟩,
    fun row hm token lu hl now hpa l hu =>
      reclaimed_when_passed hs hm hl hpa hu,
    fenced st, fun row hm hp => ?_⟩
  refine ⟨(hs.rows row hm).policy hp, fun task ht he => ?_⟩
  obtain ⟨s, hso, hi, hf⟩ := (hs.tasks task ht).ofRow
  have hn : s.projectionIntentId = row.projectionIntentId :=
    (congrArg IntentIdentity.projectionIntentId hi).trans he
  exact hp (hs.unique.eq_of_key hso hm hn ▸ hf)

/-! ### Two intents of one event -/

def eventIntent (projectionIntentId : Uuid) (projectionKind : ProjectionKind) :
    IntentIdentity where
  projectionIntentId := projectionIntentId
  workspaceId := 1
  origin := .sourceEvent 7
  sourceId := 3
  sourceVersionId := some 4
  projectionKind := projectionKind
  operation := .upsert

/-- Both intents of an event are claimed; the start of the first is accepted and its answer lost,
the second joins it; the first is released, claimed again and resolved after the execution has
completed. -/
def eventScript : List Action :=
  [.enqueue (eventIntent 1 .qdrant), .enqueue (eventIntent 2 .neo4j), .claim 0 [],
    .start 0 .rejected true, .start 1 .joined false, .acknowledge 1, .release 0 0,
    .close ⟨1, 7⟩ .completed, .claim 1 [], .start 2 .rejected false, .describe 2 false,
    .acknowledge 2]

/-- Whether the engine's answer joins no foreign execution. -/
def checksForeign (st : State) : Action → Bool
  | .start i .joined _ => st.tasks[i]?.all fun task =>
      (sourceIngestionReferenceForIntent task.intent).all fun reference =>
        (findExecution st.executions (projectionWorkflowId reference)).all fun execution =>
          ¬ execution.Foreign
  | _ => true

theorem checksForeign_sound (st : State) (action : Action)
    (hc : checksForeign st action = true) : RejectsForeign st action := by
  cases action with
  | start i an l =>
    cases an with
    | rejected => trivial
    | joined =>
      intro task ht r hr execution hf
      simp only [checksForeign, Option.mem_def.mp ht, hr, Option.mem_def.mp hf,
        Option.all_some, decide_eq_true_eq] at hc
      exact hc
  | _ => trivial

theorem event_dispatched_once :
    ∃ st, machine.run .initial eventScript = some st ∧
      st.rows.map (·.state) = [.dispatched 0, .dispatched 0] ∧ st.executions.length = 1 ∧
      NoneLost st := by
  obtain ⟨st, ran⟩ : ∃ st, machine.run .initial eventScript = some st := ⟨_, rfl⟩
  have hc : machine.runChecks checksForeign .initial eventScript = true := rfl
  have hr := Machine.guardedReachable_of_run checksForeign_sound rfl ran hc
  refine ⟨st, ran, ?_, ?_, intents_dispatched_once st hr⟩
  · cases ran
    rfl
  · cases ran
    rfl

end PersonalOs.Projections
