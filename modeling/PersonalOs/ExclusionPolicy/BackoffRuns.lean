import PersonalOs.ExclusionPolicy.DispatchRuns
import PersonalOs.Projections.Dispatch

/-!
# The backoff of the reconciliation outbox

Every claim and every return of an intent counts an attempt, nothing ever resets the count, and the
delay of a return is two to the power of it, cast to a 32-bit `integer` before it is capped. So the
statements succeed for as long as the cast does, and the attempts of an intent that is out are one
less than twice its claims. A statement that fails leaves the rows alone.
-/

namespace PersonalOs.ExclusionPolicy.Dispatch

/-! ## What a return is to do -/

/-- A row returned to `pending`, due again after the delay of the projection outbox. -/
structure BackedOff (clock : Instant) (row row' : IntentRow) : Prop where
  pending : row'.state = .pending
  counted : row'.attemptCount = row.attemptCount + 1
  delay : row'.availableAt = clock + Projections.projectionRetryBackoffSeconds row.attemptCount
  bounded : row'.availableAt ≤ clock + 300

/-- A statement succeeds, backs off the rows it selects and leaves the others alone. -/
def Returns (clock : Instant) (selected : IntentRow → Prop) (rows : List IntentRow)
    (result : Option (List IntentRow)) : Prop :=
  ∃ rows', result = some rows' ∧ List.Forall₂ (fun row row' =>
    (selected row → BackedOff clock row row') ∧ (¬ selected row → row' = row)) rows rows'

/-- Whatever a reclaim, a release or a retryable failure selects, it succeeds. -/
structure NeverWedges (st : State) : Prop where
  reclaim : ∀ now, Returns st.clock (fun row => row.Overdue now) st.rows
    (reclaimLeases st.rows st.clock now)
  release : ∀ id leaseToken errorCode, Returns st.clock (fun row => row.Holds id leaseToken)
    st.rows (releaseRetry st.rows st.clock id leaseToken errorCode)
  fail : ∀ id errorCode, Returns st.clock
    (fun row => row.policyRevisionId = id ∧ row.state.Executable) st.rows
    (failDispatched st.rows st.clock id errorCode true)

section Returns

variable {st : State} {row row' : IntentRow} {rows : List IntentRow} {clock : Instant}
  {errorCode : String}

theorem fits_iff (ac : Nat) : 2 ^ ac ≤ maximumInteger ↔ ac ≤ 30 := by
  constructor
  · intro hf
    by_contra hex
    have hl : 2 ^ 31 ≤ 2 ^ ac := Nat.pow_le_pow_right (by decide) (by omega)
    have he : maximumInteger < 2 ^ 31 := by decide
    omega
  · intro hs
    calc 2 ^ ac ≤ 2 ^ 30 := Nat.pow_le_pow_right (by decide) hs
      _ ≤ maximumInteger := by decide

theorem returned_backedOff (hr : row.returned clock errorCode = some row') :
    row.attemptCount ≤ 30 ∧ BackedOff clock row row' := by
  obtain ⟨b, hf, rfl⟩ := Option.map_eq_some_iff.mp hr
  unfold boundedBackoffInterval at hf
  split at hf
  next hs =>
    cases hf
    exact ⟨(fits_iff _).mp hs, rfl, rfl, rfl, Nat.add_le_add_left (Nat.min_le_left _ _) _⟩
  · cases hf

/-- A return over some rows succeeds when their counts allow it, and only then. -/
theorem returns_iff {s : IntentRow → Prop} [DecidablePred s] :
    Returns clock s rows (rows.mapM fun row =>
        if s row then row.returned clock errorCode else some row) ↔
      ∀ row ∈ rows, s row → row.attemptCount ≤ 30 := by
  constructor
  · rintro ⟨rs', hm, -⟩ row hme hs
    obtain ⟨row', -, hi⟩ := (mem_of_mapM_some hm).2 row hme
    rw [if_pos hs] at hi
    exact (returned_backedOff hi).1
  · intro hsm
    obtain ⟨rs', hm⟩ : ∃ rs', rows.mapM (fun row =>
        if s row then row.returned clock errorCode else some row) = some rs' := by
      refine mapM_some_of_forall fun row hme => ?_
      by_cases hs : s row
      · simpa [hs] using returned_of_fits clock errorCode (hsm row hme hs)
      · exact ⟨row, by simp [hs]⟩
    refine ⟨rs', hm, (forall₂_of_mapM_some hm).imp fun row row' hi => ?_⟩
    by_cases hs : s row
    · rw [if_pos hs] at hi
      exact ⟨fun _ => (returned_backedOff hi).2, fun hsp => absurd hs hsp⟩
    · rw [if_neg hs] at hi
      exact ⟨fun ht => absurd ht hs, fun _ => (Option.some.inj hi).symm⟩

theorem executable_of_overdue {now : Instant} (ho : row.Overdue now) : row.state.Executable := by
  unfold IntentRow.Overdue at ho
  unfold IntentState.Executable
  split at ho <;> simp_all

theorem executable_of_holds {id : Uuid} {lt : LeaseToken} (hh : row.Holds id lt) :
    row.state.Executable := by
  obtain ⟨-, hh⟩ := hh
  unfold IntentState.Executable
  split at hh <;> simp_all

/-- The returns of a state all succeed when the counts of the rows that are out allow it. -/
theorem neverWedges_iff :
    NeverWedges st ↔ ∀ row ∈ st.rows, row.state.Executable → row.attemptCount ≤ 30 := by
  have hf (id : Uuid) (errorCode : String) :
      failDispatched st.rows st.clock id errorCode true = st.rows.mapM fun row =>
        if row.policyRevisionId = id ∧ row.state.Executable then row.returned st.clock errorCode
        else some row := rfl
  constructor
  · intro hn row hm he
    have hr := hn.fail row.policyRevisionId ""
    rw [hf] at hr
    exact returns_iff.mp hr row hm ⟨rfl, he⟩
  · intro hsm
    refine ⟨fun now => ?_, fun id lt errorCode => ?_, fun id errorCode => ?_⟩
    · exact returns_iff.mpr fun row hm ho =>
        hsm row hm (executable_of_overdue ho)
    · exact returns_iff.mpr fun row hm hh => hsm row hm (executable_of_holds hh)
    · rw [hf]
      exact returns_iff.mpr fun row hm hs => hsm row hm hs.2

end Returns

/-! ## What a step makes of a row -/

def claimsIntent (policyRevisionId : Uuid) (st : State) : Action → Bool
  | .claim now locked =>
    policyRevisionId ∈ (claimable st.rows now locked).map IntentRow.policyRevisionId
  | _ => false

/-- How many claims of a run take the intent of the revision. -/
def claimCount (policyRevisionId : Uuid) (script : List Action) : Nat :=
  machine.runCount (claimsIntent policyRevisionId) .initial script

/-- A row is kept, leased, dispatched, returned or ended. -/
inductive RowStep (clock : Instant) : Bool → IntentRow → IntentRow → Prop
  | kept {row : IntentRow} : RowStep clock false row row
  | leased {row : IntentRow} (pending : row.state = .pending) (token : LeaseToken) :
      RowStep clock true row (row.lease clock token)
  | dispatched {row : IntentRow} (executable : row.state.Executable) :
      RowStep clock false row { row with state := .dispatched clock }
  | returned {row row' : IntentRow} {errorCode : String} (executable : row.state.Executable)
      (returned : row.returned clock errorCode = some row') : RowStep clock false row row'
  | ended {row : IntentRow} (executable : row.state.Executable) (errorCode : String) :
      RowStep clock false row { row with state := .terminal, safeErrorCode := some errorCode }

def Apart (rows : List IntentRow) : Prop := (rows.map IntentRow.policyRevisionId).Nodup

section Steps

variable {st st' : State} {row row' : IntentRow} {clock : Instant} {claimed : Bool} {n : Nat}
  {id : Uuid} {action : Action}

theorem RowStep.same (hv : RowStep clock claimed row row') :
    row'.policyRevisionId = row.policyRevisionId := by
  cases hv with
  | returned _ hr => exact (returned_pending hr).1.2
  | _ => rfl

theorem rows_kept (rows : List IntentRow) :
    List.Forall₂ (fun row row' => RowStep clock false row row') rows rows :=
  List.forall₂_same.mpr fun _ _ => .kept

theorem rows_returned {s : IntentRow → Prop} [DecidablePred s] {errorCode : String}
    {rows rs' : List IntentRow} (he : ∀ row, s row → row.state.Executable)
    (hm : (rows.mapM fun row =>
      if s row then row.returned clock errorCode else some row) = some rs') :
    List.Forall₂ (fun row row' => RowStep clock false row row') rows rs' := by
  refine (forall₂_of_mapM_some hm).imp fun row row' hi => ?_
  split at hi
  next hs => exact .returned (he row hs) hi
  next =>
    cases hi
    exact .kept

theorem rows_failed {errorCode : String} {r : Bool} {rows rs' : List IntentRow}
    (hf : failDispatched rows clock id errorCode r = some rs') :
    List.Forall₂ (fun row row' => RowStep clock false row row') rows rs' := by
  cases r with
  | true => exact rows_returned (fun row hs => hs.2) hf
  | false =>
    refine (forall₂_of_mapM_some hf).imp fun row row' hi => ?_
    split at hi
    next hs =>
      cases hi
      exact .ended hs.2 errorCode
    next =>
      cases hi
      exact .kept

theorem rows_claimed (ha : Apart st.rows) (now : Instant) (l : List Uuid) (t : LeaseToken) :
    List.Forall₂ (fun row row' =>
        RowStep st.clock (claimsIntent row.policyRevisionId st (.claim now l)) row row')
      st.rows (leaseClaimed st.rows st.clock
        ((claimable st.rows now l).map IntentRow.policyRevisionId) t) := by
  unfold leaseClaimed
  rw [List.forall₂_map_right_iff]
  refine List.forall₂_same.mpr fun row hm => ?_
  by_cases ht : row.policyRevisionId ∈ (claimable st.rows now l).map IntentRow.policyRevisionId
  · obtain ⟨k, hf⟩ := Outbox.idxOf?_of_mem ht
    obtain ⟨o, hc, he⟩ := List.mem_map.mp ht
    obtain ⟨hr, due, -⟩ := claimable_mem hc
    have hs : o = row := List.inj_on_of_nodup_map ha hr hm he
    have hcl : claimsIntent row.policyRevisionId st (.claim now l) = true := decide_eq_true ht
    rw [hf, hcl]
    exact .leased (hs ▸ due.1) _
  · have hsp : claimsIntent row.policyRevisionId st (.claim now l) = false := decide_eq_false ht
    rw [List.idxOf?_eq_none_iff.mpr ht, hsp]
    exact .kept

/-- What a step makes of the rows: a publication adds one, any other step goes row by row. -/
theorem step_rows (ha : Apart st.rows) (hv : step st action = some st') :
    (∃ row, (∀ o ∈ st.rows, o.policyRevisionId ≠ row.policyRevisionId) ∧
      row.state = .pending ∧ row.attemptCount = 0 ∧ st'.rows = st.rows ++ [row] ∧
      ∀ id, claimsIntent id st action = false) ∨
    List.Forall₂ (fun row row' =>
      RowStep st.clock (claimsIntent row.policyRevisionId st action) row row')
      st.rows st'.rows := by
  cases action with
  | publish wi id =>
    simp only [Dispatch.step] at hv
    split at hv <;> cases hv
    next hfr => exact .inl ⟨_, hfr.1, rfl, rfl, rfl, fun _ => rfl⟩
  | reclaim now =>
    obtain ⟨rows, hr, rfl⟩ := Option.map_eq_some_iff.mp hv
    exact .inr (rows_returned (fun row => executable_of_overdue) hr)
  | claim now l =>
    cases hv
    exact .inr (rows_claimed ha now l st.nextToken)
  | acknowledge i =>
    simp only [Dispatch.step] at hv
    split at hv <;> cases hv
    refine .inr ?_
    unfold acknowledgeDispatched
    rw [List.forall₂_map_right_iff]
    refine List.forall₂_same.mpr fun row _ => ?_
    split
    next hh => exact .dispatched (executable_of_holds hh)
    next => exact .kept
  | release i errorCode =>
    simp only [Dispatch.step] at hv
    split at hv
    · obtain ⟨rows, hre, rfl⟩ := Option.map_eq_some_iff.mp hv
      exact .inr (rows_returned (fun row => executable_of_holds) hre)
    · cases hv
  | markTerminal i =>
    simp only [Dispatch.step] at hv
    split at hv <;> cases hv
    refine .inr ?_
    unfold Dispatch.markTerminal
    rw [List.forall₂_map_right_iff]
    refine List.forall₂_same.mpr fun row _ => ?_
    split
    next hh => exact .ended (executable_of_holds hh) _
    next => exact .kept
  | fail id errorCode r =>
    simp only [Dispatch.step] at hv
    split at hv
    · obtain ⟨rows, hf, rfl⟩ := Option.map_eq_some_iff.mp hv
      exact .inr (rows_failed hf)
    · cases hv
  | lateFail id errorCode r =>
    simp only [Dispatch.step] at hv
    split at hv
    · cases hv
    · obtain ⟨rows, hf, rfl⟩ := Option.map_eq_some_iff.mp hv
      exact .inr (rows_failed hf)
  | supersede id =>
    simp only [Dispatch.step] at hv
    split at hv
    · split at hv <;> cases hv
      exact .inr (rows_kept _)
    · cases hv
  | _ =>
    simp only [Dispatch.step] at hv
    first
    | cases hv
      exact .inr (rows_kept _)
    | split at hv <;> cases hv <;> exact .inr (rows_kept _)

/-! ## Counts along runs -/

/-- The attempts of a row whose revision has been claimed so often. -/
def Counted (n : Nat) (row : IntentRow) : Prop :=
  match row.state with
  | .pending => row.attemptCount = 2 * n
  | .leased _ _ | .dispatched _ => row.attemptCount + 1 = 2 * n
  | .terminal => True

theorem Counted.of_executable (hc : Counted n row) (he : row.state.Executable) :
    row.attemptCount + 1 = 2 * n := by
  unfold Counted at hc
  unfold IntentState.Executable at he
  split at hc <;> simp_all

theorem Counted.step (hc : Counted n row) (hv : RowStep clock claimed row row') :
    Counted (n + claimed.toNat) row' := by
  cases hv with
  | kept => exact hc
  | leased hp t =>
    simp only [Counted, hp] at hc
    simp only [Counted, IntentRow.lease, Bool.toNat_true]
    omega
  | dispatched he => exact hc.of_executable he
  | returned he hr =>
    have hb := hc.of_executable he
    have ha := (returned_backedOff hr).2
    simp only [Counted, ha.pending, ha.counted, Bool.toNat_false]
    omega
  | ended he errorCode => exact trivial

/-- The intent of the revision has been claimed so often. -/
structure Tallied (id : Uuid) (n : Nat) (st : State) : Prop where
  apart : Apart st.rows
  counted : ∀ row ∈ st.rows, row.policyRevisionId = id → Counted n row
  absent : (∀ row ∈ st.rows, row.policyRevisionId ≠ id) → n = 0

theorem ids_of_rows {rows rs' : List IntentRow} {claimed : IntentRow → Bool}
    (hr : List.Forall₂ (fun row row' => RowStep clock (claimed row) row row') rows rs') :
    rs'.map IntentRow.policyRevisionId = rows.map IntentRow.policyRevisionId := by
  induction hr with
  | nil => rfl
  | cons hv _ ih => rw [List.map_cons, List.map_cons, hv.same, ih]

theorem apart_of_ids {rows rs' : List IntentRow} (ha : Apart rows)
    (ids : rs'.map IntentRow.policyRevisionId = rows.map IntentRow.policyRevisionId) :
    Apart rs' := by
  unfold Apart
  rw [ids]
  exact ha

theorem Apart.publish {rows : List IntentRow} {new : IntentRow} (ha : Apart rows)
    (hf : ∀ row ∈ rows, row.policyRevisionId ≠ new.policyRevisionId) :
    Apart (rows ++ [new]) := by
  rw [Apart, List.map_append, List.map_singleton]
  refine List.Nodup.append ha (List.nodup_singleton _) ?_
  rw [List.disjoint_singleton]
  intro old
  obtain ⟨row, hm, he⟩ := List.mem_map.mp old
  exact hf row hm he

theorem Tallied.step (ht : Tallied id n st) (hv : step st action = some st') :
    Tallied id (n + (claimsIntent id st action).toNat) st' := by
  rcases step_rows ht.apart hv with ⟨new, hf, hp, hz, rows, hu⟩ | rows
  · rw [hu id, Bool.toNat_false, Nat.add_zero]
    refine ⟨rows ▸ ht.apart.publish hf, fun row hm hr => ?_, fun hn => ?_⟩
    · rw [rows] at hm
      rcases List.mem_append.mp hm with old | hne
      · exact ht.counted row old hr
      · cases List.mem_singleton.mp hne
        have hun := ht.absent fun o ho => hr ▸ hf o ho
        simp [Counted, hp, hz, hun]
    · exact ht.absent fun row hm => hn row (rows ▸ List.mem_append_left _ hm)
  · have ids := ids_of_rows rows
    refine ⟨apart_of_ids ht.apart ids, fun row' hm hr => ?_, fun hn => ?_⟩
    · obtain ⟨row, hro, hv⟩ := (mem_of_forall₂ rows).1 row' hm
      have he : row.policyRevisionId = id := hv.same.symm.trans hr
      exact he ▸ (ht.counted row hro he).step hv
    · have hb : ∀ row ∈ st.rows, row.policyRevisionId ≠ id := by
        intro row hm hr
        obtain ⟨row', hr', hv⟩ := (mem_of_forall₂ rows).2 row hm
        exact hn row' hr' (hv.same.trans hr)
      have hu : claimsIntent id st action = false := by
        cases action with
        | claim now l =>
          refine decide_eq_false fun hta => ?_
          obtain ⟨row, hc, hr⟩ := List.mem_map.mp hta
          exact hb row (claimable_mem hc).1 hr
        | _ => rfl
      rw [ht.absent hb, hu, Bool.toNat_false]

theorem tallied_of_run {s : List Action} (id : Uuid)
    (ran : machine.run .initial s = some st) : Tallied id (claimCount id s) st := by
  have hc : Tallied id (0 + claimCount id s) st :=
    Machine.run_counted (fun _ _ _ _ ht hv => Tallied.step ht hv)
      ⟨by simp [Apart, State.initial], by simp [State.initial], fun _ => rfl⟩ ran
  rwa [Nat.zero_add] at hc

/-- The attempts of an intent that is out are one less than twice its claims. -/
theorem attemptCount_of_run {s : List Action} (ran : machine.run .initial s = some st)
    (hm : row ∈ st.rows) (he : row.state.Executable) :
    row.attemptCount + 1 = 2 * claimCount row.policyRevisionId s :=
  ((tallied_of_run row.policyRevisionId ran).counted row hm rfl).of_executable he

theorem exists_of_claimed (ha : Apart st.rows) (hv : step st action = some st')
    (claimed : claimsIntent id st action = true) :
    ∃ row ∈ st'.rows, row.policyRevisionId = id ∧ row.state.Executable := by
  cases action with
  | claim now l =>
    obtain ⟨row, hc, hr⟩ := List.mem_map.mp (of_decide_eq_true claimed)
    rcases step_rows ha hv with ⟨_, _, _, _, _, hu⟩ | rows
    · exact nomatch claimed.symm.trans (hu id)
    · obtain ⟨row', hm, hv⟩ := (mem_of_forall₂ rows).2 row (claimable_mem hc).1
      rw [hr, claimed] at hv
      refine ⟨row', hm, hv.same.trans hr, ?_⟩
      cases hv
      trivial
  | _ => cases claimed

end Steps

/-! ## Runs -/

/-- Along a run every return succeeds with the projection outbox's delay exactly when no intent is
claimed more than fifteen times. -/
theorem backoff_never_wedges_iff (script : List Action) (st : State)
    (ran : machine.run .initial script = some st) :
    (∀ earlier later before, script = earlier ++ later →
      machine.run .initial earlier = some before → NeverWedges before) ↔
    ∀ policyRevisionId, claimCount policyRevisionId script ≤ 15 := by
  constructor
  · intro hn id
    induction script using List.reverseRecOn generalizing st with
    | nil => exact Nat.zero_le _
    | append_singleton script action ih =>
      rw [Machine.run_snoc] at ran
      obtain ⟨before, hr, hv⟩ := Option.bind_eq_some_iff.mp ran
      have hf := ih before hr fun earlier later b hs =>
        hn earlier (later ++ [action]) b (by rw [hs, List.append_assoc])
      have hc : claimCount id (script ++ [action]) =
          claimCount id script + (claimsIntent id before action).toNat :=
        Machine.runCount_snoc hr
      cases claimed : claimsIntent id before action with
      | false =>
        rw [claimed] at hc
        exact hc ▸ hf
      | true =>
        obtain ⟨row, hm, hre, he⟩ := exists_of_claimed (tallied_of_run id hr).apart hv claimed
        have hw : machine.run .initial (script ++ [action]) = some st := by
          rw [Machine.run_snoc, hr]
          exact hv
        have ha := attemptCount_of_run hw hm he
        have few := neverWedges_iff.mp (hn _ [] st (List.append_nil _).symm hw) row hm he
        rw [hre] at ha
        omega
  · intro few earlier later before hs hr
    refine neverWedges_iff.mpr fun row hm he => ?_
    have ha := attemptCount_of_run hr hm he
    have hg : claimCount row.policyRevisionId earlier ≤ claimCount row.policyRevisionId script :=
      hs ▸ Machine.runCount_le_append _ _ _ _ _
    have hat := few row.policyRevisionId
    omega

/-! ### An outage of the engine -/

/-- The sixteenth claim of an outage leaves a lease nothing can return, and no reclaim that meets it
succeeds. -/
theorem sixteenth_claim_wedges : ¬ ∀ st, machine.Reachable st → NeverWedges st := by
  intro hn
  obtain ⟨st, ran⟩ : ∃ st, machine.run .initial outageScript = some st := ⟨_, rfl⟩
  have hr := Machine.reachable_of_run (M := machine) rfl ran
  have few := neverWedges_iff.mp (hn st hr)
  cases ran
  exact absurd (few _ List.mem_cons_self trivial) (by decide)

/-- After two claims of the outage the lease still returns. -/
theorem backoff_never_wedges_dispatched :
    ∃ st, machine.run .initial (outageScript.take 6) = some st ∧
      st.rows.map (fun row => (row.state, row.attemptCount)) = [(.leased 1 360, 3)] ∧
      NeverWedges st := by
  obtain ⟨st, ran⟩ : ∃ st, machine.run .initial (outageScript.take 6) = some st := ⟨_, rfl⟩
  have hw := (backoff_never_wedges_iff _ st ran).mpr
    (fun id => (Machine.runCount_le_length _ _ _ _).trans (by decide))
    _ [] st (List.append_nil _).symm ran
  refine ⟨st, ran, ?_, hw⟩
  cases ran
  rfl

end PersonalOs.ExclusionPolicy.Dispatch
