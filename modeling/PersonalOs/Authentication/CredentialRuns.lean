import PersonalOs.Authentication.DeviceCredentials

/-!
# No credential comes back
-/

namespace PersonalOs.Authentication.DeviceCredentials

variable {st st' : State} {history : List Event} {event : Event} {n : Login}

/-! ## Logins in the history -/

/-- Nothing has ended the login since it was started but, perhaps, a cancellation. -/
def Standing (history : List Event) (n : Login) : Prop :=
  .loginStarted n ∈ history ∧ ∀ event ∈ sinceLogin history n,
    event.isTombstone = false ∧ ∀ other, event ≠ .loginStarted other

/-- Nothing has ended the login since it was started. -/
def Live (history : List Event) (n : Login) : Prop :=
  Standing history n ∧ .cancelled ∉ sinceLogin history n

/-- The record is active by right. -/
def Alive (history : List Event) : Prop :=
  (∀ event ∈ history, event.isTombstone = false) ∨
    ∃ login, .loginStarted login ∈ sinceTombstone history ∧
      .activated (.exchange login) ∈ sinceTombstone history

/-- The event ends no login that stands. -/
def Event.Quiet (event : Event) : Prop :=
  event.isTombstone = false ∧ ∀ other, event ≠ .loginStarted other

theorem sinceLogin_cons (ho : event ≠ .loginStarted n) :
    sinceLogin (event :: history) n = event :: sinceLogin history n :=
  List.takeWhile_cons_of_pos (by simpa using ho)

theorem sinceLogin_started : sinceLogin (.loginStarted n :: history) n = [] :=
  List.takeWhile_cons_of_neg (by simp)

theorem sinceTombstone_cons (hn : event.isTombstone = false) :
    sinceTombstone (event :: history) = event :: sinceTombstone history :=
  List.takeWhile_cons_of_pos (by simp [hn])

theorem Standing.cons (hst : Standing history n) (hq : event.Quiet) :
    Standing (event :: history) n := by
  refine ⟨List.mem_cons_of_mem _ hst.1, ?_⟩
  rw [sinceLogin_cons (hq.2 n)]
  exact List.forall_mem_cons.mpr ⟨hq, hst.2⟩

theorem Standing.new : Standing (.loginStarted n :: history) n := by
  refine ⟨List.mem_cons_self, ?_⟩
  rw [sinceLogin_started]
  exact fun _ h => nomatch h

theorem Live.cons (hl : Live history n) (hq : event.Quiet) (hk : event ≠ .cancelled) :
    Live (event :: history) n := by
  refine ⟨hl.1.cons hq, ?_⟩
  rw [sinceLogin_cons (hq.2 n)]
  exact fun hm => (List.mem_cons.mp hm).elim (fun he => hk he.symm) hl.2

theorem Live.not_stale (hl : Live history n) : ¬ Stale history n := by
  rintro (hc | ⟨o, hs⟩)
  · exact hl.2 hc
  · exact (hl.1.2 _ hs).2 o rfl

theorem not_stale_cons (hf : ¬ Stale history n) (hk : event ≠ .cancelled)
    (hn : ∀ o, event ≠ .loginStarted o) : ¬ Stale (event :: history) n := by
  unfold Stale at hf ⊢
  rw [sinceLogin_cons (hn n)]
  rintro (hc | ⟨o, hs⟩)
  · rcases List.mem_cons.mp hc with hsa | he
    · exact hk hsa.symm
    · exact hf (.inl he)
  · rcases List.mem_cons.mp hs with hsa | he
    · exact hn o hsa.symm
    · exact hf (.inr ⟨o, he⟩)

theorem Standing.started_since (hst : Standing history n) :
    .loginStarted n ∈ sinceTombstone history := by
  induction history with
  | nil => exact nomatch hst.1
  | cons event history ih =>
    by_cases hl : event = .loginStarted n
    · subst hl
      rw [sinceTombstone_cons rfl]
      exact List.mem_cons_self
    · obtain ⟨hs, hq⟩ := hst
      rw [sinceLogin_cons hl, List.forall_mem_cons] at hq
      rw [sinceTombstone_cons hq.1.1]
      refine List.mem_cons_of_mem _ (ih ⟨?_, hq.2⟩)
      exact (List.mem_cons.mp hs).resolve_left fun he => hl he.symm

theorem Alive.cons (ha : Alive history) (hn : event.isTombstone = false) :
    Alive (event :: history) := by
  rcases ha with hne | ⟨l, hs, hst⟩
  · exact .inl (List.forall_mem_cons.mpr ⟨hn, hne⟩)
  · right
    rw [sinceTombstone_cons hn]
    exact ⟨l, List.mem_cons_of_mem _ hs, List.mem_cons_of_mem _ hst⟩

theorem Alive.permitted (ha : Alive history) {o : Origin} : Permitted o history :=
  ha.imp_right fun ⟨l, hs, hst⟩ => ⟨l, hs, .inr hst⟩

theorem Standing.alive (hst : Standing history n) :
    Alive (.activated (.exchange n) :: history) := by
  right
  rw [sinceTombstone_cons rfl]
  exact ⟨n, List.mem_cons_of_mem _ hst.started_since, List.mem_cons_self⟩

/-! ## The invariant -/

def Task.owner : Task → Option Login
  | .creating login => some login
  | .storing grant _ | .identifying grant _ => some grant.login
  | _ => none

/-- A login waits for its grant in one task, and has stored no exchange. -/
def Apart (task task' : Task) : Prop :=
  ∀ login, (task = .creating login → task'.owner ≠ some login) ∧
    (task' = .creating login → task.owner ≠ some login)

/-- What a suspended task may still do. -/
def TaskSound (st : State) : Task → Prop
  | .creating login => login < st.nextLogin ∧
      (∀ grant, st.pendingGrant = some grant → grant.login ≠ login) ∧
      (login + 1 = st.nextLogin → Standing st.history login ∧ st.hasActive = false)
  | .polling grant _ _ => grant.login < st.nextLogin ∧
      (st.pendingGrant = some grant → grant.login + 1 = st.nextLogin →
        Live st.history grant.login ∧ st.hasActive = false)
  | .storing grant _ | .identifying grant _ => grant.login < st.nextLogin ∧
      (grant.login + 1 = st.nextLogin →
        ¬ Stale st.history grant.login ∧ st.pendingGrant = none)
  | _ => True

structure Sound (st : State) : Prop where
  logins : ∀ login, .loginStarted login ∈ st.history → login < st.nextLogin
  granted : ∀ grant, st.pendingGrant = some grant → grant.login < st.nextLogin
  pending : ∀ grant pollingSecret, st.pendingGrant = some grant →
    grant.login + 1 = st.nextLogin → st.record = some (.pendingGrant pollingSecret) →
    Live st.history grant.login
  tasks : ∀ task ∈ st.tasks, TaskSound st task
  apart : st.tasks.Pairwise Apart
  alive : st.hasActive = true → Alive st.history
  respected : NoResurrection st.history

variable {task : Task} {i : Nat} {record : Option DeviceSecretRecord} {grant : PendingGrant}

theorem Apart.symm {t' : Task} (ha : Apart task t') : Apart t' task := fun l => (ha l).symm

instance : Std.Symm Apart := ⟨fun _ _ => Apart.symm⟩

theorem apart_of_unowned {t' : Task} (hu : t'.owner = none) : Apart task t' := by
  intro l
  constructor
  · intro _ ho
    exact nomatch hu.symm.trans ho
  · rintro rfl
    exact nomatch hu

theorem apart_of_erased {t : List Task} (ha : t.Pairwise Apart) (ht : t[i]? = some task) :
    ∀ o ∈ t.eraseIdx i, Apart task o := by
  obtain ⟨hi, rfl⟩ := List.getElem?_eq_some_iff.mp ht
  have hp := List.getElem_cons_eraseIdx_perm hi
  have all := (hp.pairwise_iff fun h => Apart.symm h).mpr ha
  exact (List.pairwise_cons.mp all).1

theorem pairwise_snoc {t : List Task} (ha : t.Pairwise Apart)
    (new : ∀ o ∈ t, Apart o task) : (t ++ [task]).Pairwise Apart := by
  rw [List.pairwise_append]
  refine ⟨ha, List.pairwise_singleton _ _, fun o hm n' hn => ?_⟩
  rw [List.mem_singleton.mp hn]
  exact new o hm

/-! ### Steps that write nothing -/

/-- The state as the invariant sees it, besides the tasks. -/
def SameView (st st' : State) : Prop :=
  st'.record = st.record ∧ st'.pendingGrant = st.pendingGrant ∧ st'.nextLogin = st.nextLogin ∧
    st'.history = st.history

theorem SameView.taskSound (he : SameView st st') (hs : TaskSound st task) :
    TaskSound st' task := by
  obtain ⟨record, hp, hn, hh⟩ := he
  unfold TaskSound State.hasActive at hs ⊢
  rw [record, hp, hn, hh]
  exact hs

theorem Sound.of_view (hs : Sound st) (he : SameView st st')
    (hta : ∀ task ∈ st'.tasks, task ∈ st.tasks ∨ TaskSound st task)
    (ha : st'.tasks.Pairwise Apart) : Sound st' := by
  have ht : ∀ task ∈ st'.tasks, TaskSound st' task := fun task hm =>
    he.taskSound ((hta task hm).elim (hs.tasks task) id)
  obtain ⟨record, hp, hn, hh⟩ := he
  refine ⟨?_, ?_, ?_, ht, ha, ?_, ?_⟩
  · rw [hh, hn]
    exact hs.logins
  · rw [hp, hn]
    exact hs.granted
  · rw [record, hp, hn, hh]
    exact hs.pending
  · unfold State.hasActive
    rw [record, hh]
    exact hs.alive
  · rw [hh]
    exact hs.respected

theorem Sound.end (hs : Sound st) (i : Nat) : Sound (st.end i) :=
  hs.of_view ⟨rfl, rfl, rfl, rfl⟩ (fun _ hm => .inl (List.mem_of_mem_eraseIdx hm))
    (hs.apart.sublist (List.eraseIdx_sublist _ _))

theorem Sound.enter (hs : Sound st) (ht : TaskSound st task)
    (ha : ∀ o ∈ st.tasks, Apart o task) : Sound (st.enter task) := by
  refine hs.of_view ⟨rfl, rfl, rfl, rfl⟩ (fun o hm => ?_) (pairwise_snoc hs.apart ha)
  rcases List.mem_append.mp hm with old | new
  · exact .inl old
  · rw [List.mem_singleton.mp new]
    exact .inr ht

theorem Sound.goOn (hs : Sound st) (i : Nat) (ht : TaskSound st task)
    (ha : ∀ o ∈ st.tasks.eraseIdx i, Apart o task) : Sound (st.goOn i task) := by
  have hv : SameView st (st.end i) := ⟨rfl, rfl, rfl, rfl⟩
  exact (hs.end i).enter (hv.taskSound ht) ha

theorem Sound.goOnUnowned (hs : Sound st) (i : Nat) (hu : task.owner = none)
    (ht : TaskSound st task) : Sound (st.goOn i task) :=
  hs.goOn i ht fun _ _ => apart_of_unowned hu

/-! ### Steps that write the record -/

theorem Sound.withoutGrant (hs : Sound st)
    (hw : record.any DeviceSecretRecord.isActive = true → st.hasActive = true) :
    Sound { st with record, pendingGrant := none } where
  logins := hs.logins
  granted _ h := nomatch h
  pending _ _ h := nomatch h
  tasks task hm := by
    have ht := hs.tasks task hm
    cases task with
    | creating l =>
      refine ⟨ht.1, fun _ h => (nomatch h), fun hl => ?_⟩
      obtain ⟨hst, hi⟩ := ht.2.2 hl
      refine ⟨hst, Bool.eq_false_iff.mpr fun ha => ?_⟩
      exact Bool.eq_false_iff.mp hi (hw ha)
    | polling grant s il => exact ⟨ht.1, fun h => (nomatch h)⟩
    | storing grant e =>
      exact ⟨ht.1, fun hl => ⟨(ht.2 hl).1, rfl⟩⟩
    | identifying grant e =>
      exact ⟨ht.1, fun hl => ⟨(ht.2 hl).1, rfl⟩⟩
    | _ => trivial
  apart := hs.apart
  alive ha := hs.alive (hw ha)
  respected := hs.respected

theorem Sound.terminate (hs : Sound st) (r : ClearedReason) : Sound (st.terminatePendingGrant r) :=
  hs.withoutGrant fun ha => nomatch ha

/-- The login under way is cancelled: it waits for its grant, or its grant is dropped. No
exchange of it has been stored. -/
theorem Sound.cancelled (hs : Sound st) (he : record.any DeviceSecretRecord.isActive = st.hasActive)
    (hc : st.latestCreating = true ∨ st.pendingGrant ≠ none) :
    Sound { st with record, pendingGrant := none, history := .cancelled :: st.history } := by
  have hq : Event.Quiet .cancelled := ⟨rfl, fun _ h => (nomatch h)⟩
  have hu {task : Task} {l : Login} (hm : task ∈ st.tasks)
      (how : task.owner = some l) (hwa : ∀ o, task ≠ .creating o)
      (hl : l + 1 = st.nextLogin) (hn : st.pendingGrant = none) : False := by
    rcases hc with hw | hg
    · obtain ⟨o, ho, hla⟩ := List.any_eq_true.mp hw
      cases o with
      | creating ne =>
        have eq : ne = l := Nat.succ.inj ((of_decide_eq_true hla).trans hl.symm)
        have hap := hs.apart.forall ho hm (hwa ne).symm
        exact (hap ne).1 rfl (eq ▸ how)
      | _ => exact nomatch hla
    · exact hg hn
  have hd : Sound { st with record, pendingGrant := none } :=
    hs.withoutGrant fun ha => he.symm.trans ha
  refine ⟨?_, fun _ h => (nomatch h), fun _ _ h => (nomatch h), ?_, hs.apart, ?_,
    ⟨trivial, hs.respected⟩⟩
  · intro l hsd
    exact hs.logins l ((List.mem_cons.mp hsd).resolve_left fun h => nomatch h)
  · intro task hm
    have ht := hs.tasks task hm
    cases task with
    | creating l =>
      refine ⟨ht.1, fun _ h => (nomatch h), fun hl => ?_⟩
      obtain ⟨hst, hi⟩ := ht.2.2 hl
      exact ⟨hst.cons hq, he.trans hi⟩
    | polling grant s il => exact ⟨ht.1, fun h => (nomatch h)⟩
    | storing grant e =>
      refine ⟨ht.1, fun hl => ?_⟩
      exact (hu hm rfl (fun _ h => nomatch h) hl (ht.2 hl).2).elim
    | identifying grant e =>
      refine ⟨ht.1, fun hl => ?_⟩
      exact (hu hm rfl (fun _ h => nomatch h) hl (ht.2 hl).2).elim
    | _ => trivial
  · exact fun ha => (hd.alive ha).cons rfl

/-- An event that is no cancellation and no login, beside a record that stays as active as it
is. -/
theorem Sound.logged (hs : Sound st) {a : Option Credential} (hq : event.Quiet)
    (hk : event ≠ .cancelled) (hr : Respects st.history event)
    (he : record.any DeviceSecretRecord.isActive = st.hasActive)
    (hn : ∀ s, record = some (.pendingGrant s) → record = st.record) :
    Sound { st with record, accessCredential := a, history := event :: st.history } where
  logins l hsd := by
    refine hs.logins l ((List.mem_cons.mp hsd).resolve_left fun he => ?_)
    exact hq.2 l he.symm
  granted := hs.granted
  pending grant s hg hl hp := by
    have hb : st.record = some (.pendingGrant s) := (hn s hp) ▸ hp
    exact (hs.pending grant s hg hl hb).cons hq hk
  tasks task hm := by
    have ht := hs.tasks task hm
    cases task with
    | creating l =>
      refine ⟨ht.1, ht.2.1, fun hl => ?_⟩
      obtain ⟨hst, hi⟩ := ht.2.2 hl
      exact ⟨hst.cons hq, he.trans hi⟩
    | polling grant s il =>
      refine ⟨ht.1, fun hg hl => ?_⟩
      obtain ⟨hli, hi⟩ := ht.2 hg hl
      exact ⟨hli.cons hq hk, he.trans hi⟩
    | storing grant e =>
      refine ⟨ht.1, fun hl => ?_⟩
      obtain ⟨hf, hno⟩ := ht.2 hl
      exact ⟨not_stale_cons hf hk hq.2, hno⟩
    | identifying grant e =>
      refine ⟨ht.1, fun hl => ?_⟩
      obtain ⟨hf, hno⟩ := ht.2 hl
      exact ⟨not_stale_cons hf hk hq.2, hno⟩
    | _ => trivial
  apart := hs.apart
  alive ha := (hs.alive (he.symm.trans ha)).cons hq.1
  respected := ⟨hr, hs.respected⟩

theorem Sound.tombstone (hs : Sound st) (ha : st.hasActive = true)
    (r : ClearedReason) : Sound (st.clearTerminalRecord r) where
  logins l hst := by
    refine hs.logins l ((List.mem_cons.mp hst).resolve_left fun he => ?_)
    exact nomatch he
  granted := hs.granted
  pending _ _ _ _ h := nomatch h
  tasks task hm := by
    have ht := hs.tasks task hm
    have hn : ∀ o, (.tombstone r : Event) ≠ .loginStarted o := fun _ h => nomatch h
    cases task with
    | creating l =>
      refine ⟨ht.1, ht.2.1, fun hl => ?_⟩
      exact nomatch ha.symm.trans (ht.2.2 hl).2
    | polling grant s il =>
      refine ⟨ht.1, fun hg hl => ?_⟩
      exact nomatch ha.symm.trans (ht.2 hg hl).2
    | storing grant e =>
      refine ⟨ht.1, fun hl => ?_⟩
      obtain ⟨hf, hno⟩ := ht.2 hl
      exact ⟨not_stale_cons hf (fun h => nomatch h) hn, hno⟩
    | identifying grant e =>
      refine ⟨ht.1, fun hl => ?_⟩
      obtain ⟨hf, hno⟩ := ht.2 hl
      exact ⟨not_stale_cons hf (fun h => nomatch h) hn, hno⟩
    | _ => trivial
  apart := hs.apart
  alive h := nomatch h
  respected := ⟨trivial, hs.respected⟩

theorem Sound.newLogin (hs : Sound st) (hi : st.hasActive = false) :
    Sound (({ st with nextLogin := st.nextLogin + 1 }.enter (.creating st.nextLogin)).log
      (.loginStarted st.nextLogin)) where
  logins l hst := by
    rcases List.mem_cons.mp hst with he | hea
    · cases he
      exact Nat.lt_succ_self _
    · exact Nat.lt_succ_of_lt (hs.logins l hea)
  granted grant hg := Nat.lt_succ_of_lt (hs.granted grant hg)
  pending grant s hg hl := by
    have hb := hs.granted grant hg
    exact absurd (Nat.succ.inj hl) (Nat.ne_of_lt hb)
  tasks task hm := by
    have hol {l : Login} (hb : l < st.nextLogin) : l + 1 ≠ st.nextLogin + 1 :=
      Nat.ne_of_lt (Nat.succ_lt_succ hb)
    rcases List.mem_append.mp hm with old | new
    · have ht := hs.tasks task old
      cases task with
      | creating l =>
        exact ⟨Nat.lt_succ_of_lt ht.1, ht.2.1, fun hl => absurd hl (hol ht.1)⟩
      | polling grant s il =>
        exact ⟨Nat.lt_succ_of_lt ht.1, fun _ hl => absurd hl (hol ht.1)⟩
      | storing grant e =>
        exact ⟨Nat.lt_succ_of_lt ht.1, fun hl => absurd hl (hol ht.1)⟩
      | identifying grant e =>
        exact ⟨Nat.lt_succ_of_lt ht.1, fun hl => absurd hl (hol ht.1)⟩
      | _ => trivial
    · rw [List.mem_singleton.mp new]
      exact ⟨Nat.lt_succ_self _, fun grant hg => Nat.ne_of_lt (hs.granted grant hg),
        fun _ => ⟨.new, hi⟩⟩
  apart := by
    refine pairwise_snoc hs.apart fun o hm l => ⟨?_, ?_⟩
    · rintro rfl ho
      cases ho
      exact Nat.lt_irrefl _ (hs.tasks _ hm).1
    · intro hn ho
      cases hn
      have hb : st.nextLogin < st.nextLogin := by
        have ht := hs.tasks o hm
        cases o with
        | creating l => cases ho; exact ht.1
        | storing grant e =>
          have he : grant.login = st.nextLogin := Option.some.inj ho
          exact he ▸ ht.1
        | identifying grant e =>
          have he : grant.login = st.nextLogin := Option.some.inj ho
          exact he ▸ ht.1
        | _ => exact nomatch ho
      exact Nat.lt_irrefl _ hb
  alive ha := nomatch hi.symm.trans ha
  respected := ⟨trivial, hs.respected⟩

theorem Sound.opened (hs : Sound st) {l : Login}
    (hss : st.tasks[i]? = some (.creating l)) (hla : l + 1 = st.nextLogin)
    (hk : .cancelled ∉ sinceLogin st.history l) (s : Credential)
    (hlo : grant.login = l) :
    Sound ({ st with
      record := some (.pendingGrant s), pendingGrant := some grant }.goOn i .opening) := by
  obtain ⟨hi, hst, hin⟩ : l < st.nextLogin ∧ Standing st.history l ∧ st.hasActive = false := by
    have ht := hs.tasks _ (List.mem_of_getElem? hss)
    exact ⟨ht.1, ht.2.2 hla⟩
  have hli : Live st.history l := ⟨hst, hk⟩
  have hap := apart_of_erased hs.apart hss
  have hot := (hs.end i).apart
  refine ⟨hs.logins, ?_, ?_, ?_, pairwise_snoc hot fun _ _ => apart_of_unowned rfl,
    fun ha => (nomatch ha), hs.respected⟩
  · intro o hg
    cases hg
    exact hlo ▸ hi
  · intro o _ hg _ _
    cases hg
    exact hlo ▸ hli
  · intro task hm
    rcases List.mem_append.mp hm with old | new
    · have ht := hs.tasks task (List.mem_of_mem_eraseIdx old)
      have hta := (hap task old l).1 rfl
      have hf {o : Login} (how : task.owner = some o) : o ≠ l := fun he => hta (he ▸ how)
      have ho {o : Login} (how : task.owner = some o) : o + 1 ≠ st.nextLogin :=
        fun hl => hf how (Nat.succ.inj (hl.trans hla.symm))
      cases task with
      | creating o =>
        refine ⟨ht.1, ?_, fun hl => absurd hl (ho rfl)⟩
        intro p hg
        cases hg
        exact fun he => hf rfl (he.symm.trans hlo)
      | polling p _ _ =>
        refine ⟨ht.1, fun hg _ => ?_⟩
        cases hg
        exact ⟨hlo ▸ hli, rfl⟩
      | storing p _ =>
        exact ⟨ht.1, fun hl => absurd hl (ho rfl)⟩
      | identifying p _ =>
        exact ⟨ht.1, fun hl => absurd hl (ho rfl)⟩
      | _ => trivial
    · rw [List.mem_singleton.mp new]
      trivial

theorem Sound.stored (hs : Sound st) {int : Nat} {s : Credential}
    (hss : st.tasks[i]? = some (.polling grant s int))
    (hg : st.pendingGrant = some grant) (hla : grant.login + 1 = st.nextLogin)
    (e : Credentials) :
    Sound (({ st with
      record := some (.active e.refreshCredential e.refreshGeneration none)
      pendingGrant := none }.goOn i (.storing grant e)).log
        (.activated (.exchange grant.login))) := by
  have hq : Event.Quiet (.activated (.exchange grant.login)) := ⟨rfl, fun _ h => (nomatch h)⟩
  obtain ⟨hi, hli, -⟩ : grant.login < st.nextLogin ∧ Live st.history grant.login ∧
      st.hasActive = false := by
    have ht := hs.tasks _ (List.mem_of_getElem? hss)
    exact ⟨ht.1, ht.2 hg hla⟩
  refine ⟨?_, fun _ h => (nomatch h), fun _ _ h => (nomatch h), ?_, ?_,
    fun _ => hli.1.alive, ⟨⟨?_, ?_⟩, hs.respected⟩⟩
  · intro l hst
    exact hs.logins l ((List.mem_cons.mp hst).resolve_left fun h => nomatch h)
  · intro task hm
    rcases List.mem_append.mp hm with old | new
    · have ht := hs.tasks task (List.mem_of_mem_eraseIdx old)
      cases task with
      | creating l =>
        refine ⟨ht.1, fun _ h => (nomatch h), fun hl => ?_⟩
        have hsa : grant.login = l := Nat.succ.inj (hla.trans hl.symm)
        exact absurd hsa (ht.2.1 grant hg)
      | polling o _ _ => exact ⟨ht.1, fun h => (nomatch h)⟩
      | storing o _ =>
        exact ⟨ht.1, fun hl => nomatch hg.symm.trans (ht.2 hl).2⟩
      | identifying o _ =>
        exact ⟨ht.1, fun hl => nomatch hg.symm.trans (ht.2 hl).2⟩
      | _ => trivial
    · rw [List.mem_singleton.mp new]
      exact ⟨hi, fun _ => ⟨(hli.cons hq fun h => nomatch h).not_stale, rfl⟩⟩
  · refine pairwise_snoc (hs.end i).apart fun o hm l => ⟨?_, fun h => (nomatch h)⟩
    rintro rfl ho
    have ht := hs.tasks _ (List.mem_of_mem_eraseIdx hm)
    exact ht.2.1 grant hg (Option.some.inj ho)
  · exact .inr ⟨grant.login, hli.1.started_since, .inl rfl⟩
  · intro l he
    cases he
    exact hli.not_stale

/-! ## Steps -/

theorem Sound.stopped (hs : Sound st) (stopRequested : Bool) : Sound { st with stopRequested } :=
  hs.of_view ⟨rfl, rfl, rfl, rfl⟩ (fun _ hm => .inl hm) hs.apart

theorem Sound.login (hs : Sound st) (c : Bool) : Sound (login st c) := by
  unfold DeviceCredentials.login
  dsimp only
  split
  · exact hs.stopped false
  next hid =>
    have hi : st.hasActive = false := Bool.eq_false_iff.mpr fun ha => hid (.inl ha)
    exact (hs.stopped false).newLogin hi

theorem Sound.inactive_of_latestCreating (hs : Sound st) (hw : st.latestCreating = true) :
    st.hasActive = false := by
  obtain ⟨task, hm, hl⟩ := List.any_eq_true.mp hw
  cases task with
  | creating l => exact ((hs.tasks _ hm).2.2 (of_decide_eq_true hl)).2
  | _ => exact nomatch hl

theorem cancels_iff : st.cancels = true ↔
    st.latestCreating = true ∨ (st.pendingGrant ≠ none ∧ st.hasActive = false) := by
  unfold State.cancels
  cases st.pendingGrant <;> simp

theorem Sound.cancelPendingLogin (hs : Sound st) : Sound (cancelPendingLogin st) := by
  unfold DeviceCredentials.cancelPendingLogin
  cases hc : st.cancels
  · have hu : Sound { st with stopRequested := true } := hs.stopped true
    simp only [Bool.false_eq_true, if_false]
    split
    · exact hu
    next grant =>
      split
      · exact (hu.withoutGrant fun ha => ha).enter trivial fun _ _ => apart_of_unowned rfl
      · next hid =>
        -- a pending grant beside an inactive record is always cancelled
        have hi : st.hasActive = false := Bool.eq_false_iff.mpr hid
        exact nomatch hc.symm.trans (cancels_iff.mpr (.inr ⟨grant, hi⟩))
  · have hca := cancels_iff.mp hc
    have hi : st.hasActive = false := hca.elim hs.inactive_of_latestCreating (·.2)
    have hd {record : Option DeviceSecretRecord}
        (he : record.any DeviceSecretRecord.isActive = st.hasActive) :=
      (hs.cancelled he (hca.imp_right (·.1))).stopped true
    simp only [if_true]
    split
    · next hn =>
      have hu := hd (rfl : st.record.any DeviceSecretRecord.isActive = st.hasActive)
      rw [← show st.pendingGrant = none from hn] at hu
      exact hu
    next grant =>
      split
      · next ha => exact nomatch hi.symm.trans ha
      · have hcl : (some (.cleared .loginCancelled) : Option DeviceSecretRecord).any
            DeviceSecretRecord.isActive = st.hasActive := hi.symm
        exact (hd hcl).enter trivial fun _ _ => apart_of_unowned rfl

theorem Sound.resumePendingGrant (hs : Sound st) : Sound (resumePendingGrant st) := by
  unfold DeviceCredentials.resumePendingGrant
  split
  · split
    · exact (hs.terminate _).enter trivial fun _ _ => apart_of_unowned rfl
    · exact (hs.stopped false).enter trivial fun _ _ => apart_of_unowned rfl
  · exact (hs.terminate _).enter trivial fun _ _ => apart_of_unowned rfl
  · exact hs

theorem Sound.refresh (hs : Sound st) (cr : RotationId) : Sound (refresh st cr) := by
  unfold DeviceCredentials.refresh
  split
  · exact hs
  · split
    · next rc rg pr hac =>
      have ha : st.hasActive = true := by
        unfold State.hasActive
        rw [hac]
        rfl
      let ri := pr.getD cr
      have he : Sound (st.enter (.refreshing rc ri)) :=
        hs.enter trivial fun _ _ => apart_of_unowned rfl
      have hl : Sound { st.enter (.refreshing rc ri) with
          record := some (.active rc rg (some ri))
          accessCredential := st.accessCredential
          history := .activated .refresh :: st.history } :=
        he.logged ⟨rfl, fun _ h => (nomatch h)⟩ (fun h => nomatch h)
          ⟨(hs.alive ha).permitted, fun _ h => (nomatch h)⟩ ha.symm
          fun _ h => (nomatch h)
      exact hl.of_view ⟨rfl, rfl, rfl, rfl⟩ (fun _ hm => .inl hm) hl.apart
    · exact hs

theorem Sound.disconnect (hs : Sound st) : Sound (disconnect st) := by
  unfold DeviceCredentials.disconnect
  split
  · exact hs.enter trivial fun _ _ => apart_of_unowned rfl
  · exact hs

theorem Sound.refreshAnswer (hs : Sound st) (i : Nat) (an : Except Failure Credentials)
    (hi : InTime st (.refreshAnswer i an)) : Sound (refreshAnswer st i an) := by
  unfold DeviceCredentials.refreshAnswer
  split
  · next s =>
    have ha : st.hasActive = true := hi
    have hl : Sound { st.end i with
        record := some (.active s.refreshCredential s.refreshGeneration none)
        accessCredential := some s.accessCredential
        history := .activated .refresh :: st.history } :=
      (hs.end i).logged ⟨rfl, fun _ h => (nomatch h)⟩ (fun h => nomatch h)
        ⟨(hs.alive ha).permitted, fun _ h => (nomatch h)⟩ ha.symm
        fun _ h => (nomatch h)
    exact hl.of_view ⟨rfl, rfl, rfl, rfl⟩ (fun _ hm => .inl hm) hl.apart
  · next f =>
    split
    · next r hsu =>
      have ha : st.hasActive = true := hi (by simp [hsu])
      exact (hs.tombstone ha r).goOnUnowned i rfl trivial
    · have he := hs.end i
      exact he.of_view ⟨rfl, rfl, rfl, rfl⟩ (fun _ hm => .inl hm) he.apart

theorem Sound.disconnectAnswer (hs : Sound st) (i : Nat) (an : Except Failure Unit)
    (hi : InTime st (.disconnectAnswer i an)) : Sound (disconnectAnswer st i an) := by
  unfold DeviceCredentials.disconnectAnswer
  split
  · exact (hs.tombstone hi _).goOnUnowned i rfl trivial
  · split
    · next he => exact (hs.tombstone (hi he) _).goOnUnowned i rfl trivial
    · exact hs.end i

theorem Sound.grantAnswer (hs : Sound st) {l : Login}
    (ht : st.tasks[i]? = some (.creating l)) (an : Except Failure CreatedGrant)
    (hi : InTime st (.grantAnswer i an)) : Sound (grantAnswer st i l an) := by
  unfold DeviceCredentials.grantAnswer
  split
  · exact hs.end i
  · obtain ⟨hl, hk⟩ := hi l ht
    exact hs.opened ht hl hk _ rfl

theorem Sound.delayOver (hs : Sound st) (i int : Nat) : Sound (delayOver st i int) := by
  unfold DeviceCredentials.delayOver
  split
  · exact hs.end i
  split
  · exact hs.end i
  next grant hg =>
    split
    · exact (hs.terminate _).goOnUnowned i rfl trivial
    split
    · next s hp =>
      refine hs.goOnUnowned i rfl ⟨hs.granted grant hg, fun _ hl => ?_⟩
      refine ⟨hs.pending grant s hg hl hp, ?_⟩
      unfold State.hasActive
      rw [hp]
      rfl
    · exact hs.end i

theorem Sound.pollAnswer (hs : Sound st) {int : Nat} {s : Credential}
    (ht : st.tasks[i]? = some (.polling grant s int))
    (an : Except Failure Credentials) (hi : InTime st (.pollAnswer i an)) :
    Sound (pollAnswer st i grant int an) := by
  unfold DeviceCredentials.pollAnswer
  split
  · split
    · exact hs.goOnUnowned i rfl trivial
    · exact (hs.terminate _).goOnUnowned i rfl trivial
    · exact hs.end i
  · next e =>
    split
    · exact hs.end i
    next hta =>
      rw [not_or, Bool.not_eq_true] at hta
      rcases hi grant s int ht with hst | hd | ⟨hg, hl⟩
      · exact nomatch hta.1.symm.trans hst
      · exact absurd hd hta.2
      · exact hs.stored ht hg hl e

theorem Sound.persisted (hs : Sound st) (hst : st.tasks[i]? = some task)
    (hi : InTime st (.persisted i true)) (ran : persisted st i task = some st') :
    Sound st' := by
  unfold DeviceCredentials.persisted at ran
  split at ran
  · cases ran
    exact hs.end i
  · cases ran
    have hen := hs.end i
    exact hen.of_view ⟨rfl, rfl, rfl, rfl⟩ (fun _ hm => .inl hm) hen.apart
  · split at ran <;> cases ran
    · exact hs.end i
    · exact hs.goOnUnowned i rfl trivial
  · next grant e =>
    cases ran
    have ht := hs.tasks _ (List.mem_of_getElem? hst)
    refine hs.goOn i ht fun o hm l => ?_
    exact ⟨(apart_of_erased hs.apart hst o hm l).2, fun h => (nomatch h)⟩
  · next grant e =>
    cases ran
    have hl := hi grant e hst
    have ht := hs.tasks _ (List.mem_of_getElem? hst)
    have hf : ¬ Stale st.history grant.login := (ht.2 hl).1
    have he : Sound (st.goOn i .bootstrapping) := hs.goOnUnowned i rfl trivial
    have hsa : (st.record.any DeviceSecretRecord.isActive) = (st.goOn i .bootstrapping).hasActive :=
      rfl
    exact he.logged ⟨rfl, fun _ h => (nomatch h)⟩ (fun h => nomatch h) hf hsa fun _ _ => rfl
  · exact nomatch ran

theorem Sound.persistFailed (hs : Sound st) (ran : persistFailed st i task = some st') :
    Sound st' := by
  have he := hs.end i
  unfold DeviceCredentials.persistFailed at ran
  split at ran
  · cases ran
    exact he.of_view ⟨rfl, rfl, rfl, rfl⟩ (fun _ hm => .inl hm) he.apart
  all_goals
    first
      | cases ran
        exact he
      | exact nomatch ran

theorem Sound.step {a : Action} (hs : Sound st) (hi : InTime st a)
    (ran : step st a = some st') : Sound st' := by
  cases a with
  | tick m =>
    cases ran
    exact hs.of_view ⟨rfl, rfl, rfl, rfl⟩ (fun _ hm => .inl hm) hs.apart
  | login c => exact Option.some.inj ran ▸ hs.login c
  | cancelPendingLogin => exact Option.some.inj ran ▸ hs.cancelPendingLogin
  | resumePendingGrant => exact Option.some.inj ran ▸ hs.resumePendingGrant
  | stop => exact Option.some.inj ran ▸ hs.stopped true
  | refresh cr => exact Option.some.inj ran ▸ hs.refresh cr
  | disconnect => exact Option.some.inj ran ▸ hs.disconnect
  | grantAnswer i an =>
    dsimp only [DeviceCredentials.step] at ran
    split at ran
    · next l ht => exact Option.some.inj ran ▸ hs.grantAnswer ht an hi
    · exact nomatch ran
  | pollAnswer i an =>
    dsimp only [DeviceCredentials.step] at ran
    split at ran
    · next grant s il ht =>
      exact Option.some.inj ran ▸ hs.pollAnswer ht an hi
    · exact nomatch ran
  | refreshAnswer i an =>
    dsimp only [DeviceCredentials.step] at ran
    split at ran
    · exact Option.some.inj ran ▸ hs.refreshAnswer i an hi
    · exact nomatch ran
  | disconnectAnswer i an =>
    dsimp only [DeviceCredentials.step] at ran
    split at ran
    · exact Option.some.inj ran ▸ hs.disconnectAnswer i an hi
    · exact nomatch ran
  | delayOver i =>
    dsimp only [DeviceCredentials.step] at ran
    split at ran
    · next il ht => exact Option.some.inj ran ▸ hs.delayOver i il
    · exact nomatch ran
  | persisted i d =>
    dsimp only [DeviceCredentials.step] at ran
    split at ran
    · next task ht =>
      split at ran
      · next hd =>
        subst hd
        exact hs.persisted ht hi ran
      · exact hs.persistFailed ran
    · exact nomatch ran
  | bootstrapped i =>
    dsimp only [DeviceCredentials.step] at ran
    split at ran
    · exact Option.some.inj ran ▸ hs.end i
    · exact nomatch ran

theorem Sound.init (hi : machine.Init st) : Sound st := by
  obtain ⟨-, -, -, ht, hn, hh, hgr⟩ := hi
  have hst : Standing st.history 0 := hh ▸ .new
  have hu : Event.cancelled ∉ sinceLogin st.history 0 := by
    rw [hh, sinceLogin_started]
    exact fun h => nomatch h
  refine ⟨?_, ?_, ?_, ?_, ?_, ?_, ?_⟩
  · intro l hs
    rw [hh, List.mem_singleton] at hs
    cases hs
    rw [hn]
    exact Nat.one_pos
  · intro grant hg
    rw [hgr grant hg, hn]
    exact Nat.one_pos
  · intro grant s hg _ _
    rw [hgr grant hg]
    exact ⟨hst, hu⟩
  · rw [ht]
    exact fun _ h => nomatch h
  · rw [ht]
    exact .nil
  · intro _
    rw [hh]
    exact .inl fun event hm => by rw [List.mem_singleton.mp hm]; rfl
  · rw [hh]
    exact ⟨trivial, trivial⟩

/-- Along runs whose answers are all taken in time, no tombstone is undone and no exchange of a
cancelled or superseded login is stored or adopted. -/
theorem no_resurrection (st : State) (reached : machine.GuardedReachable InTime st) :
    NoResurrection st.history :=
  (reached.invariant (fun _ => Sound.init) fun _ _ _ hs hi ran =>
    hs.step hi ran).respected

/-! ## Answers that come late -/

def startup (record : Option DeviceSecretRecord) : State where
  record
  pendingGrant := none
  stopRequested := false
  accessCredential := none
  refreshInFlight := false
  nowEpochMs := 0
  tasks := []
  nextLogin := 1
  history := [.loginStarted 0]

theorem startup_init (record : Option DeviceSecretRecord) : machine.Init (startup record) :=
  ⟨rfl, rfl, rfl, rfl, rfl, rfl, fun _ h => (nomatch h)⟩

/-- A disconnect overtakes a rotation in flight. -/
def overtakenScript : List Action :=
  [.refresh 7, .disconnect, .disconnectAnswer 1 (.ok ()), .refreshAnswer 0 (.ok ⟨2, 2, 20⟩)]

/-- The answer of the rotation writes an active record over the tombstone. -/
theorem refresh_undoes_disconnect : ¬ ∀ st, machine.Reachable st → NoResurrection st.history := by
  intro hn
  obtain ⟨st, ran⟩ :
      ∃ st, machine.run (startup (some (.active 1 1 none))) overtakenScript = some st := ⟨_, rfl⟩
  have hre := Machine.reachable_of_run (M := machine) (startup_init _) ran
  have hr := hn st hre
  cases ran
  rcases hr.1.1 with hne | ⟨l, hs, -⟩
  · exact nomatch hne (.tombstone .selfDisconnect) List.mem_cons_self
  · exact nomatch hs

/-- A login is cancelled while its poll is in flight, and the user logs in again. -/
def cancelledScript : List Action :=
  [.login true, .grantAnswer 0 (.ok ⟨1, 10, 600, 5⟩), .persisted 0 true, .delayOver 0,
    .cancelPendingLogin, .persisted 1 true, .login true, .grantAnswer 1 (.ok ⟨2, 20, 600, 5⟩),
    .pollAnswer 0 (.ok ⟨3, 1, 30⟩)]

/-- The stop flag is reset and a grant is pending again: the exchange of the cancelled login is
stored. -/
theorem cancelled_exchange_stored : ∃ st b, machine.Reachable st ∧
    st.history = .activated (.exchange 1) :: b ∧ Stale b 1 := by
  obtain ⟨st, ran⟩ : ∃ st, machine.run (startup none) cancelledScript = some st := ⟨_, rfl⟩
  have hr := Machine.reachable_of_run (M := machine) (startup_init _) ran
  cases ran
  exact ⟨_, _, hr, rfl, .inl (by decide)⟩

/-! ### A device that reconnects -/

/-- A device disconnects, then logs in and adopts the exchange. -/
def reconnectScript : List Action :=
  [.disconnect, .disconnectAnswer 0 (.ok ()), .persisted 0 true,
    .login true, .grantAnswer 0 (.ok ⟨1, 10, 600, 5⟩), .persisted 0 true, .delayOver 0,
    .pollAnswer 0 (.ok ⟨3, 1, 30⟩), .persisted 0 true, .persisted 0 true, .bootstrapped 0,
    .refresh 7, .refreshAnswer 0 (.ok ⟨4, 2, 40⟩)]

/-- Whether an answer is taken in time. -/
def checksInTime (st : State) : Action → Bool
  | .refreshAnswer _ _ | .disconnectAnswer _ _ => st.hasActive
  | .grantAnswer i _ => st.tasks[i]?.all fun task =>
      match task with
      | .creating login =>
        login + 1 = st.nextLogin && !(sinceLogin st.history login).contains .cancelled
      | _ => true
  | .pollAnswer i _ => st.tasks[i]?.all fun task =>
      match task with
      | .polling grant _ _ => st.pendingGrant = some grant && grant.login + 1 = st.nextLogin
      | _ => true
  | .persisted i _ => st.tasks[i]?.all fun task =>
      match task with
      | .identifying grant _ => grant.login + 1 = st.nextLogin
      | _ => true
  | _ => true

theorem checksInTime_sound (st : State) (a : Action)
    (hc : checksInTime st a = true) : InTime st a := by
  cases a with
  | refreshAnswer i an =>
    cases an with
    | ok s => exact hc
    | error f => exact fun _ => hc
  | disconnectAnswer i an =>
    cases an with
    | ok _ => exact hc
    | error f => exact fun _ => hc
  | grantAnswer i an =>
    cases an with
    | error f => trivial
    | ok grant =>
      intro l ht
      simp only [checksInTime, ht, Option.all_some, Bool.and_eq_true,
        decide_eq_true_eq, Bool.not_eq_true', List.contains_eq_mem,
        decide_eq_false_iff_not] at hc
      exact hc
  | pollAnswer i an =>
    cases an with
    | error f => trivial
    | ok e =>
      intro grant se il ht
      simp only [checksInTime, ht, Option.all_some, Bool.and_eq_true, decide_eq_true_eq] at hc
      exact .inr (.inr hc)
  | persisted i d =>
    cases d with
    | false => trivial
    | true =>
      intro grant e ht
      simpa only [checksInTime, ht, Option.all_some, decide_eq_true_eq] using hc
  | _ => trivial

/-- A device disconnected, connected again by a login and refreshed. -/
theorem reconnected_no_resurrection :
    ∃ st, machine.run (startup (some (.active 1 1 none))) reconnectScript = some st ∧
      st.hasActive = true ∧ NoResurrection st.history := by
  obtain ⟨st, ran⟩ :
      ∃ st, machine.run (startup (some (.active 1 1 none))) reconnectScript = some st := ⟨_, rfl⟩
  have hc : machine.runChecks checksInTime (startup (some (.active 1 1 none)))
      reconnectScript = true := rfl
  have hr := Machine.guardedReachable_of_run checksInTime_sound (startup_init _) ran hc
  have hn := no_resurrection st hr
  cases ran
  exact ⟨_, rfl, rfl, hn⟩

end PersonalOs.Authentication.DeviceCredentials
