import PersonalOs.Basis.Machine

/-!
# Exclusive locks taken from fixed lists

A finite family of transactions, each with the list of exclusive locks it acquires in order and
holds until it finishes. Acquisitions interleave freely; a lock already held is granted again.

Whether some interleaving deadlocks is a question about the lists alone: a `Ring` is a set of
transactions with a stopping point each, such that the locks taken up to there are disjoint, each
one's next lock is among another's and each one has a lock another asks for.
-/

open scoped List

namespace LockOrder

variable {Txn Lock : Type*}

/-- How far each transaction has come. -/
structure Progress (Txn : Type*) where
  position : Txn → Nat
  finished : Txn → Bool

inductive LockAction (Txn : Type*)
  | acquire (t : Txn)
  | finish (t : Txn)

/-- The locks a transaction holds. -/
def held (locks : Txn → List Lock) (s : Progress Txn) (t : Txn) : List Lock :=
  if s.finished t then [] else (locks t).take (s.position t)

def next (locks : Txn → List Lock) (s : Progress Txn) (t : Txn) : Option Lock :=
  if s.finished t then none else (locks t)[s.position t]?

/-- `t` waits for `u`: its next lock is held by the other. -/
def WaitsFor (locks : Txn → List Lock) (s : Progress Txn) (t u : Txn) : Prop :=
  u ≠ t ∧ ∃ l ∈ next locks s t, l ∈ held locks s u

/-- A cycle of the wait-for graph. -/
def Deadlocked (locks : Txn → List Lock) (s : Progress Txn) : Prop :=
  ∃ t, Relation.TransGen (WaitsFor locks s) t t

section Interleaving

variable [Fintype Txn] [DecidableEq Txn] [DecidableEq Lock]

/-- One acquisition, granted when no other transaction holds the lock, or one end of a
transaction, which releases everything it holds. -/
def step (locks : Txn → List Lock) (s : Progress Txn) : LockAction Txn → Option (Progress Txn)
  | .acquire t =>
    match next locks s t with
    | none => none
    | some l =>
      if ∀ u, u ≠ t → l ∉ held locks s u then
        some { s with position := Function.update s.position t (s.position t + 1) }
      else none
  | .finish t => some { s with finished := Function.update s.finished t true }

/-- Every interleaving of the acquisitions of the family. -/
def lockMachine (locks : Txn → List Lock) : Machine (Progress Txn) (LockAction Txn) where
  Init s := s = ⟨fun _ => 0, fun _ => false⟩
  step := step locks

/-- No lock is held twice. -/
def Exclusive (locks : Txn → List Lock) (s : Progress Txn) : Prop :=
  ∀ t u, t ≠ u → ∀ l ∈ held locks s t, l ∉ held locks s u

end Interleaving

/-- A set of transactions stopped where each waits for a lock that another one took on its
way: the locks up to the stopping points can all be held at once, and nobody moves on. -/
structure Ring (locks : Txn → List Lock) (members : Finset Txn) (stop : Txn → Nat) : Prop where
  nonempty : members.Nonempty
  exclusive : ∀ t ∈ members, ∀ u ∈ members, t ≠ u →
    ∀ l ∈ (locks t).take (stop t), l ∉ (locks u).take (stop u)
  waits : ∀ t ∈ members, ∃ u ∈ members, u ≠ t ∧
    ∃ l ∈ (locks t)[stop t]?, l ∈ (locks u).take (stop u)
  awaited : ∀ t ∈ members, ∃ u ∈ members, u ≠ t ∧
    ∃ l ∈ (locks u)[stop u]?, l ∈ (locks t).take (stop t)

/-! ## Disciplines -/

/-- Whenever `l` is taken, `g` has been taken before. -/
def Guards (g l : Lock) (locks : List Lock) : Prop :=
  ∀ i, locks[i]? = some l → g ∈ locks.take i

namespace Guards

variable {g l : Lock}

/-- A guard that is taken whenever the guarded lock is, and never after it. -/
theorem of_pairwise {locks : List Lock} {before : Lock → Lock → Prop}
    (ordered : locks.Pairwise before) (present : l ∈ locks → g ∈ locks) (different : g ≠ l)
    (notAfter : ¬ before l g) : Guards g l locks := by
  intro i taken
  obtain ⟨j, inRange, at_g⟩ := List.mem_iff_getElem.mp (present (List.mem_of_getElem? taken))
  obtain ⟨iRange, at_l⟩ := List.getElem?_eq_some_iff.mp taken
  rcases Nat.lt_trichotomy j i with early | rfl | late
  · rw [List.mem_take_iff_getElem]
    exact ⟨j, by omega, at_g⟩
  · exact absurd (at_g.symm.trans at_l) different
  · have := List.pairwise_iff_getElem.mp ordered i j iRange inRange late
    rw [at_l, at_g] at this
    exact absurd this notAfter

end Guards

theorem sublist_of_taken {locks : List Lock} {i : Nat} {l l' : Lock} (hc : l ∈ locks[i]?)
    (ht : l' ∈ locks.take i) : [l', l] <+ locks := by
  obtain ⟨hsh, ha⟩ := List.getElem?_eq_some_iff.mp hc
  have hs : locks = locks.take i ++ locks.drop i := (List.take_append_drop i locks).symm
  have hl : [l] <+ locks.drop i := by
    rw [List.singleton_sublist, List.mem_drop_iff_getElem]
    exact ⟨0, by omega, by simpa using ha⟩
  rw [hs]
  exact (List.singleton_sublist.mpr ht).append hl

namespace Ring

variable {locks : Txn → List Lock} {members : Finset Txn} {stop : Txn → Nat}

/-- Locks with a rank are only taken after locks of smaller rank, so following the waits
backwards from a ranked lock descends for ever: no member waits for one. -/
theorem not_waits_of_ranked (hri : Ring locks members stop) {ra : Lock → Option Nat}
    (hr : ∀ t, (locks t).Pairwise fun l' l =>
      ∀ r, ra l = some r → ∃ r' < r, ra l' = some r') :
    ∀ t ∈ members, ∀ l ∈ (locks t)[stop t]?, ra l = none := by
  have hd : ∀ r, ∀ t ∈ members, ∀ l ∈ (locks t)[stop t]?, ra l ≠ some r := by
    intro r
    induction r using Nat.strong_induction_on with
    | _ r ih =>
      intro t hm l hw hh
      obtain ⟨u, hu, _, l', huw, hb⟩ := hri.awaited t hm
      have ho := List.pairwise_iff_forall_sublist.mp (hr t) (sublist_of_taken hw hb)
      obtain ⟨r', hs, hh'⟩ := ho r hh
      exact ih r' hs u hu l' huw hh'
  intro t hm l hw
  cases hh : ra l with
  | none => rfl
  | some r => exact absurd hh (hd r t hm l hw)

/-- Since nobody waits for a ranked lock, every member holds another one too. -/
theorem exists_held_unranked (hri : Ring locks members stop) {ra : Lock → Option Nat}
    (hr : ∀ t, (locks t).Pairwise fun l' l =>
      ∀ r, ra l = some r → ∃ r' < r, ra l' = some r') :
    ∀ t ∈ members, ∃ l ∈ (locks t).take (stop t), ra l = none := by
  intro t hm
  obtain ⟨u, hu, _, l, huw, hh⟩ := hri.awaited t hm
  exact ⟨l, hh, hri.not_waits_of_ranked hr u hu l huw⟩

/-- A lock that every transaction takes under a guard of its own is never waited for: the
waiting member and the holder would share the guard. -/
theorem not_waits_of_guarded (hr : Ring locks members stop) {g l : Lock}
    (hg : ∀ t, Guards g l (locks t)) : ∀ t ∈ members, l ∉ (locks t)[stop t]? := by
  intro t hm hw
  obtain ⟨u, hu, ho, l', hw', hh⟩ := hr.waits t hm
  obtain rfl : l' = l := Option.mem_unique hw' hw
  obtain ⟨i, hb, ha⟩ := List.mem_take_iff_getElem.mp hh
  have ht : (locks u)[i]? = some l' := by
    rw [List.getElem?_eq_getElem (by omega), ha]
  have hug : g ∈ (locks u).take (stop u) :=
    (List.take_prefix_take_left (by omega)).subset (hg u i ht)
  exact hr.exclusive t hm u hu ho.symm g (hg t (stop t) hw) hug

/-- A lock that is only ever a transaction's last is never waited for. -/
theorem not_waits_of_last (hr : Ring locks members stop) {l : Lock}
    (hl : ∀ t, l ∉ (locks t).dropLast) : ∀ t ∈ members, l ∉ (locks t)[stop t]? := by
  intro t hm hw
  obtain ⟨u, hu, _, l', hw', hh⟩ := hr.waits t hm
  obtain rfl : l' = l := Option.mem_unique hw' hw
  obtain ⟨_, _, _, _, huw, _⟩ := hr.waits u hu
  obtain ⟨hs, _⟩ := List.getElem?_eq_some_iff.mp huw
  refine hl u ?_
  rw [List.dropLast_eq_take]
  exact (List.take_prefix_take_left (by omega)).subset hh

end Ring

/-! ## Cycles and rings -/

namespace CycleLemmas

variable {locks : Txn → List Lock}

variable {s : Progress Txn} {t : Txn} {members : Finset Txn} {stop : Txn → Nat}

theorem held_of_unfinished (hr : s.finished t = false) :
    held locks s t = (locks t).take (s.position t) := by
  simp [held, hr]

theorem next_eq_some {l : Lock} :
    next locks s t = some l ↔ s.finished t = false ∧ (locks t)[s.position t]? = some l := by
  unfold next
  split <;> simp_all

theorem running_of_waitsFor {u : Txn} (hw : WaitsFor locks s t u) : s.finished t = false := by
  obtain ⟨_, l, ha, _⟩ := hw
  exact (next_eq_some.mp ha).1

/-- Nobody finished; the transactions of `advanced` stand at their stopping points. -/
def stoppedAt [DecidableEq Txn] (stop : Txn → Nat) (advanced : Finset Txn) : Progress Txn :=
  ⟨fun t => if t ∈ advanced then stop t else 0, fun _ => false⟩

theorem next_stoppedAt [DecidableEq Txn] (hm : t ∈ members) :
    next locks (stoppedAt stop members) t = (locks t)[stop t]? := by
  simp [next, stoppedAt, hm]

theorem held_stoppedAt [DecidableEq Txn] (hm : t ∈ members) :
    held locks (stoppedAt stop members) t = (locks t).take (stop t) := by
  simp [held, stoppedAt, hm]

/-- The transactions on a common cycle with a deadlocked one are a ring. -/
theorem ring_of_deadlocked [Fintype Txn] (hap : Exclusive locks s)
    (hd : Deadlocked locks s) : ∃ members, Ring locks members s.position := by
  classical
  obtain ⟨t, hc⟩ := hd
  let oc (v : Txn) : Prop :=
    Relation.TransGen (WaitsFor locks s) t v ∧ Relation.TransGen (WaitsFor locks s) v t
  have hwa : ∀ v, oc v → ∃ u, oc u ∧ WaitsFor locks s v u := by
    rintro v ⟨out, hb⟩
    obtain ⟨u, hw, hre⟩ := Relation.TransGen.head'_iff.mp hb
    rcases Relation.reflTransGen_iff_eq_or_transGen.mp hre with rfl | ho
    · exact ⟨t, ⟨hc, hc⟩, hw⟩
    · exact ⟨u, ⟨out.tail hw, ho⟩, hw⟩
  have ha : ∀ v, oc v → ∃ u, oc u ∧ WaitsFor locks s u v := by
    rintro v ⟨out, hb⟩
    obtain ⟨u, hre, hw⟩ := Relation.TransGen.tail'_iff.mp out
    rcases Relation.reflTransGen_iff_eq_or_transGen.mp hre with rfl | ho
    · exact ⟨u, ⟨hc, hc⟩, hw⟩
    · exact ⟨u, ⟨ho, .head hw hb⟩, hw⟩
  have hr : ∀ v, oc v → s.finished v = false := by
    intro v on
    obtain ⟨u, _, hw⟩ := hwa v on
    exact running_of_waitsFor hw
  refine ⟨Finset.univ.filter oc, ⟨t, by simp [oc, hc]⟩, ?_, ?_, ?_⟩
  · intro v vOn u uOn hdi l hv hu
    rw [Finset.mem_filter] at vOn uOn
    refine hap v u hdi l ?_ ?_
    · rwa [held_of_unfinished (hr v vOn.2)]
    · rwa [held_of_unfinished (hr u uOn.2)]
  · intro v vOn
    rw [Finset.mem_filter] at vOn
    obtain ⟨u, uOn, hot, l, has, hh⟩ := hwa v vOn.2
    rw [held_of_unfinished (hr u uOn)] at hh
    exact ⟨u, by simp [uOn], hot, l, (next_eq_some.mp has).2, hh⟩
  · intro v vOn
    rw [Finset.mem_filter] at vOn
    obtain ⟨u, uOn, hot, l, has, hh⟩ := ha v vOn.2
    rw [held_of_unfinished (hr v vOn.2)] at hh
    exact ⟨u, by simp [uOn], hot.symm, l, (next_eq_some.mp has).2, hh⟩

variable [DecidableEq Txn]

/-- What a granted acquisition adds to the locks of its transaction. -/
theorem held_acquire {l : Lock} (ha : next locks s t = some l) (u : Txn) :
    held locks { s with position := Function.update s.position t (s.position t + 1) } u =
      if u = t then held locks s t ++ [l] else held locks s u := by
  obtain ⟨hr, hat⟩ := next_eq_some.mp ha
  by_cases he : u = t
  · subst he
    simp [held, hr, List.take_add_one, hat]
  · simp [held, he]

theorem held_finish (u : Txn) :
    held locks { s with finished := Function.update s.finished t true } u =
      if u = t then [] else held locks s u := by
  by_cases he : u = t
  · subst he
    simp [held]
  · simp [held, he]

/-- Where every member waits for a member, following the waits round closes a cycle. -/
theorem deadlocked_of_ring [Fintype Txn] (hr : Ring locks members stop) :
    Deadlocked locks (stoppedAt stop members) := by
  by_contra ha
  let a (t u : Txn) : Prop := Relation.TransGen (WaitsFor locks (stoppedAt stop members)) u t
  have : IsTrans Txn a := ⟨fun _ _ _ hf hs => hs.trans hf⟩
  have : Std.Irrefl a := ⟨fun t hc => ha ⟨t, hc⟩⟩
  -- with no cycle the waits of a finite family lead to a member that waits for none
  obtain ⟨t, hm, hl⟩ := (Finite.wellFounded_of_trans_of_irrefl a).has_min members hr.nonempty
  obtain ⟨u, hu, ho, l, has, hh⟩ := hr.waits t hm
  refine hl u hu (.single ⟨ho, l, ?_, ?_⟩)
  · rwa [next_stoppedAt hm]
  · rwa [held_stoppedAt hu]

variable [Fintype Txn] [DecidableEq Lock]

theorem exclusive (hr : (lockMachine locks).Reachable s) : Exclusive locks s := by
  refine hr.invariant ?_ ?_
  · rintro s rfl t u _ l hh
    simp [held] at hh
  · intro s a s' hb hm
    cases a with
    | acquire t =>
      simp only [lockMachine, step] at hm
      split at hm
      · cases hm
      next l ha =>
        split at hm
        next hf =>
          cases hm
          intro v u hd l' hv hu
          rw [held_acquire ha] at hv hu
          split at hv
          next isT =>
            -- the transaction that moved: its new lock is free, its old ones were exclusive
            subst isT
            rw [if_neg hd.symm] at hu
            rcases List.mem_append.mp hv with old | new
            · exact hb v u hd l' old hu
            · obtain rfl := List.mem_singleton.mp new
              exact hf u hd.symm hu
          next =>
            split at hu
            next isT =>
              subst isT
              rcases List.mem_append.mp hu with old | new
              · exact hb v u hd l' hv old
              · obtain rfl := List.mem_singleton.mp new
                exact hf v hd hv
            next => exact hb v u hd l' hv hu
        next => cases hm
    | finish t =>
      cases hm
      intro v u hd l' hv hu
      rw [held_finish] at hv hu
      split at hv
      · simp at hv
      · split at hu
        · simp at hu
        · exact hb v u hd l' hv hu

/-- A member of a ring is granted every lock before its stopping point while only other
members have moved. -/
theorem acquire_granted {a : Finset Txn} {k : Nat} (hr : Ring locks members stop)
    (ht : t ∈ members) (ho : ∀ u ∈ a, u ∈ members) (hb : k + 1 ≤ stop t) :
    (lockMachine locks).step
        ⟨Function.update (stoppedAt stop a).position t k, fun _ => false⟩ (.acquire t) =
      some ⟨Function.update (stoppedAt stop a).position t (k + 1), fun _ => false⟩ := by
  obtain ⟨_, _, _, _, hw, _⟩ := hr.waits t ht
  obtain ⟨hs, _⟩ := List.getElem?_eq_some_iff.mp hw
  obtain ⟨l, hi, hta⟩ : ∃ l ∈ (locks t).take (stop t), (locks t)[k]? = some l := by
    refine ⟨(locks t).get ⟨k, by omega⟩, ?_, by simp⟩
    rw [List.mem_take_iff_getElem]
    exact ⟨k, by omega, rfl⟩
  have ha : next locks
      ⟨Function.update (stoppedAt stop a).position t k, fun _ => false⟩ t = some l := by
    rw [next_eq_some]
    exact ⟨rfl, by simpa using hta⟩
  have hf : ∀ u, u ≠ t → l ∉ held locks
      ⟨Function.update (stoppedAt stop a).position t k, fun _ => false⟩ u := by
    intro u hd
    rw [held_of_unfinished rfl]
    simp only [Function.update_of_ne hd, stoppedAt]
    split
    next on => exact hr.exclusive t ht u (ho u on) hd.symm _ hi
    next => simp
  simp only [lockMachine, step, ha]
  rw [if_pos hf]
  simp

/-- The members of a ring can be brought to their stopping points one after another: the
locks on their ways are apart. -/
theorem stoppedAt_reachable (hr : Ring locks members stop) {a : Finset Txn} (hs : a ⊆ members) :
    (lockMachine locks).Reachable (stoppedAt stop a) := by
  induction a using Finset.induction_on with
  | empty => exact .init (by simp [lockMachine, stoppedAt])
  | insert t a hfr ih =>
    have ht : t ∈ members := hs (Finset.mem_insert_self t a)
    have ho : ∀ u ∈ a, u ∈ members := fun u on =>
      hs (Finset.mem_insert_of_mem on)
    obtain ⟨_, _, _, l, hw, _⟩ := hr.waits t ht
    obtain ⟨hsh, _⟩ := List.getElem?_eq_some_iff.mp hw
    -- `t` comes one lock at a time as far as its stopping point
    have ha : ∀ k ≤ stop t, (lockMachine locks).Reachable
        ⟨Function.update (stoppedAt stop a).position t k, fun _ => false⟩ := by
      intro k
      induction k with
      | zero =>
        intro _
        have hu : Function.update (stoppedAt stop a).position t 0 =
            (stoppedAt stop a).position := by
          rw [Function.update_eq_self_iff]
          simp [stoppedAt, hfr]
        rw [hu]
        exact ih fun u on => ho u on
      | succ k ihk =>
        intro hb
        exact .step (ihk (by omega)) (acquire_granted hr ht ho hb)
    have hf := ha (stop t) le_rfl
    have har : Function.update (stoppedAt stop a).position t (stop t) =
        (stoppedAt stop (insert t a)).position := by
      funext u
      by_cases he : u = t
      · subst he
        simp [stoppedAt]
      · simp [stoppedAt, he]
    rwa [har] at hf

end CycleLemmas

open CycleLemmas

/-! ## Cycles of ordered lists -/

section Ordered

variable {locks : Txn → List Lock} {s : Progress Txn} {t u : Txn}

/-- Both stand on one cycle of the wait-for graph. -/
def OnCycle (locks : Txn → List Lock) (s : Progress Txn) (t u : Txn) : Prop :=
  Relation.TransGen (WaitsFor locks s) t u ∧ Relation.TransGen (WaitsFor locks s) u t

namespace OnCycle

theorem waits (on : OnCycle locks s t u) : ∃ v, WaitsFor locks s u v ∧ OnCycle locks s t v := by
  obtain ⟨v, hf, hr⟩ := Relation.TransGen.head'_iff.mp on.2
  rcases Relation.reflTransGen_iff_eq_or_transGen.mp hr with rfl | hb
  · exact ⟨_, hf, on.1.tail hf, on.1.tail hf⟩
  · exact ⟨v, hf, on.1.tail hf, hb⟩

theorem awaited (on : OnCycle locks s t u) : ∃ v, WaitsFor locks s v u ∧ OnCycle locks s t v := by
  obtain ⟨v, hr, hl⟩ := Relation.TransGen.tail'_iff.mp on.1
  rcases Relation.reflTransGen_iff_eq_or_transGen.mp hr with rfl | hb
  · exact ⟨_, hl, .head hl on.2, .head hl on.2⟩
  · exact ⟨v, hl, hb, .head hl on.2⟩

/-- What is handed on from waiter to holder reaches everybody on the cycle. -/
theorem spread {v : Txn} {P : Txn → Prop}
    (ha : ∀ a b, OnCycle locks s t a → OnCycle locks s t b → WaitsFor locks s a b → P a → P b)
    (on : OnCycle locks s t u) (on' : OnCycle locks s t v) (hs : P u) : P v := by
  have hp := on.2.trans on'.1
  have hba := on'.2
  induction hp with
  | single hw => exact ha u _ on ⟨on.1.tail hw, hba⟩ hw hs
  | tail hp hw ih =>
    have hb : OnCycle locks s t _ := ⟨on.1.trans hp, .head hw hba⟩
    exact ha _ _ hb ⟨hb.1.tail hw, hba⟩ hw (ih hb hb.2)

end OnCycle

variable {l m : Lock}

theorem running_of_asks (ha : l ∈ next locks s t) : s.finished t = false := by
  unfold next at ha
  split at ha
  · exact nomatch ha
  next hr => exact Bool.eq_false_iff.mpr hr

/-- Holding one lock and waiting for another takes two locks of the list. -/
theorem sublist_of_held (hh : l ∈ held locks s t) (ha : m ∈ next locks s t) :
    [l, m] <+ locks t := by
  have hr := running_of_asks ha
  simp only [held, next, hr, Bool.false_eq_true, if_false] at hh ha
  exact sublist_of_taken ha hh

/-- A transaction's waits come no earlier in its order than the locks it holds. -/
theorem rank_le_of_held {r : Lock → Nat}
    (ho : (locks t).Pairwise fun l m => r l ≤ r m) (hh : l ∈ held locks s t)
    (ha : m ∈ next locks s t) : r l ≤ r m := by
  exact List.pairwise_iff_forall_sublist.mp ho (sublist_of_held hh ha)

theorem held_of_beyond {x r : List Lock} (hs : locks t = x ++ r) {g : Lock}
    (ha : l ∈ next locks s t) (hb : l ∉ x) (ham : g ∈ x) :
    g ∈ held locks s t := by
  have hr := running_of_asks ha
  simp only [held, next, hr, Bool.false_eq_true, if_false, hs] at ha ⊢
  have hp : x.length ≤ s.position t := by
    by_contra hsh
    rw [List.getElem?_append_left (by omega)] at ha
    exact hb (List.mem_of_getElem? ha)
  rw [List.take_append, List.take_of_length_le hp]
  exact List.mem_append_left _ ham

/-- The ranks of what is waited for grow along a path of the cycle. -/
theorem rank_le_of_path {r : Lock → Nat}
    (ho : ∀ u, OnCycle locks s t u → (locks u).Pairwise fun l m => r l ≤ r m) {v : Txn}
    (on : OnCycle locks s t u) (hp : Relation.TransGen (WaitsFor locks s) u v)
    (on' : OnCycle locks s t v) (asks : l ∈ next locks s u) (ha' : m ∈ next locks s v) :
    r l ≤ r m := by
  induction hp generalizing m with
  | single hw =>
    obtain ⟨_, l', ha, hh⟩ := hw
    rw [Option.mem_unique asks ha]
    exact rank_le_of_held (ho _ on') hh ha'
  | tail hp hw ih =>
    have hb : OnCycle locks s t _ := ⟨on.1.trans hp, .head hw on'.2⟩
    obtain ⟨_, n, has, hh⟩ := hw
    exact (ih hb has).trans (rank_le_of_held (ho _ on') hh ha')

/-- On a cycle of ordered transactions everybody holds and awaits locks of one rank. -/
theorem onCycle_rank (ra : Lock → Nat)
    (ho : ∀ u, OnCycle locks s t u → (locks u).Pairwise fun l m => ra l ≤ ra m)
    (hc : Relation.TransGen (WaitsFor locks s) t t) :
    ∃ r, ∀ u, OnCycle locks s t u →
      (∀ l ∈ next locks s u, ra l = r) ∧ ∃ m ∈ held locks s u, ra m = r := by
  have on : OnCycle locks s t t := ⟨hc, hc⟩
  obtain ⟨_, ⟨_, n, has, _⟩, _⟩ := on.waits
  have he (u : Txn) (on' : OnCycle locks s t u) (l : Lock) (ha : l ∈ next locks s u) :
      ra l = ra n :=
    Nat.le_antisymm (rank_le_of_path ho on' on'.2 on ha has)
      (rank_le_of_path ho on on'.1 on' has ha)
  refine ⟨ra n, fun u on' => ⟨he u on', ?_⟩⟩
  obtain ⟨v, ⟨_, m, ha, hh⟩, onV⟩ := on'.awaited
  exact ⟨m, hh, he v onV m ha⟩

end Ordered

section Cycles

variable [Fintype Txn] [DecidableEq Txn] [DecidableEq Lock] {locks : Txn → List Lock}

/-- Some interleaving runs into a wait-for cycle exactly when the lists admit a ring. -/
theorem cycle_iff_ring : (∃ s, (lockMachine locks).Reachable s ∧ Deadlocked locks s) ↔
      ∃ members stop, Ring locks members stop := by
  constructor
  · rintro ⟨s, hr, hd⟩
    obtain ⟨members, hri⟩ := ring_of_deadlocked (exclusive hr) hd
    exact ⟨members, s.position, hri⟩
  · rintro ⟨members, stop, hri⟩
    exact ⟨stoppedAt stop members, stoppedAt_reachable hri (Finset.Subset.refl members),
      deadlocked_of_ring hri⟩

end Cycles

end LockOrder
