import Mathlib

/-!
# Machines: step functions, runs and invariants

A machine is a set of initial states and a partial step function. The caller of
`step` resolves every choice the machine leaves open: which party moves, what
the environment answers, where a failure strikes. A refused step is `none`.
-/

/-- Initial states and the partial step function. -/
structure Machine (State Action : Type*) where
  Init : State → Prop
  step : State → Action → Option State

namespace Machine

variable {State Action : Type*} {M : Machine State Action}

/-- States some run from an initial state ends in. -/
inductive Reachable (M : Machine State Action) : State → Prop
  | init {s : State} (initial : M.Init s) : Reachable M s
  | step {s t : State} {a : Action} (before : Reachable M s)
      (moved : M.step s a = some t) : Reachable M t

/-- States some run ends in whose every step met `guard` in the state it was
taken from. -/
inductive GuardedReachable (M : Machine State Action) (guard : State → Action → Prop) :
    State → Prop
  | init {s : State} (initial : M.Init s) : GuardedReachable M guard s
  | step {s t : State} {a : Action} (before : GuardedReachable M guard s)
      (met : guard s a) (moved : M.step s a = some t) : GuardedReachable M guard t

def run (M : Machine State Action) : State → List Action → Option State
  | s, [] => some s
  | s, a :: rest =>
    match M.step s a with
    | none => none
    | some t => M.run t rest

/-- Whether every step of a script meets an executable guard. -/
def runChecks (M : Machine State Action) (check : State → Action → Bool) :
    State → List Action → Bool
  | _, [] => true
  | s, a :: rest =>
    check s a && match M.step s a with
      | none => false
      | some t => M.runChecks check t rest

/-- The induction rule of every safety result: an invariant that every step
preserves holds in every reachable state. -/
theorem Reachable.invariant {Inv : State → Prop} (hi : ∀ s, M.Init s → Inv s)
    (hp : ∀ s a t, Inv s → M.step s a = some t → Inv t)
    {s : State} (h : M.Reachable s) : Inv s := by
  induction h with
  | init hin => exact hi _ hin
  | step _ hv ih => exact hp _ _ _ ih hv

theorem GuardedReachable.invariant {guard : State → Action → Prop} {Inv : State → Prop}
    (hi : ∀ s, M.Init s → Inv s)
    (hp : ∀ s a t, Inv s → guard s a → M.step s a = some t → Inv t)
    {s : State} (h : M.GuardedReachable guard s) : Inv s := by
  induction h with
  | init hin => exact hi _ hin
  | step _ met hv ih => exact hp _ _ _ ih met hv

variable {guard : State → Action → Prop} {s t : State} {script : List Action}
  {check : State → Action → Bool}

theorem GuardedReachable.reachable (h : M.GuardedReachable guard s) : M.Reachable s := by
  induction h with
  | init hi => exact .init hi
  | step _ _ hv ih => exact .step ih hv

theorem Reachable.append_run (h : M.Reachable s) (ran : M.run s script = some t) :
    M.Reachable t := by
  induction script generalizing s with
  | nil =>
    cases ran
    exact h
  | cons a r ih =>
    simp only [run] at ran
    split at ran
    · cases ran
    · rename_i n hv
      exact ih (.step h hv) ran

/-- A script the step function accepts from an initial state is a run. -/
theorem reachable_of_run (hi : M.Init s) (ran : M.run s script = some t) : M.Reachable t :=
  Reachable.append_run (.init hi) ran

theorem GuardedReachable.append_run (hs : ∀ s a, check s a = true → guard s a)
    (h : M.GuardedReachable guard s) (ran : M.run s script = some t)
    (hc : M.runChecks check s script = true) : M.GuardedReachable guard t := by
  induction script generalizing s with
  | nil =>
    cases ran
    exact h
  | cons a r ih =>
    simp only [run] at ran
    simp only [runChecks, Bool.and_eq_true] at hc
    split at ran
    · cases ran
    · rename_i n hv
      rw [hv] at hc
      exact ih (.step h (hs s a hc.1) hv) ran hc.2

/-- A script whose every step passes the check of a guard is a guarded run. -/
theorem guardedReachable_of_run (hs : ∀ s a, check s a = true → guard s a) (hi : M.Init s)
    (ran : M.run s script = some t) (hc : M.runChecks check s script = true) :
    M.GuardedReachable guard t :=
  GuardedReachable.append_run hs (.init hi) ran hc

/-! ### Counted steps -/

/-- How many steps of a script meet an executable condition. -/
def runCount (M : Machine State Action) (counted : State → Action → Bool) :
    State → List Action → Nat
  | _, [] => 0
  | s, a :: rest =>
    (counted s a).toNat + match M.step s a with
      | none => 0
      | some t => M.runCount counted t rest

variable {counted : State → Action → Bool} {a : Action}

theorem run_snoc (M : Machine State Action) (s : State) (script : List Action) (a : Action) :
    M.run s (script ++ [a]) = (M.run s script).bind fun t => M.step t a := by
  induction script generalizing s with
  | nil =>
    simp only [List.nil_append, run, Option.bind_some]
    cases M.step s a <;> rfl
  | cons b r ih =>
    simp only [List.cons_append, run]
    cases M.step s b with
    | none => rfl
    | some n => exact ih n

theorem runCount_snoc (ran : M.run s script = some t) :
    M.runCount counted s (script ++ [a]) = M.runCount counted s script + (counted t a).toNat := by
  induction script generalizing s with
  | nil =>
    cases ran
    simp only [List.nil_append, runCount]
    cases M.step t a <;> simp
  | cons b r ih =>
    simp only [run] at ran
    simp only [List.cons_append, runCount]
    cases hv : M.step s b with
    | none =>
      rw [hv] at ran
      cases ran
    | some n =>
      rw [hv] at ran
      simp only [ih ran, Nat.add_assoc]

theorem runCount_le_length (M : Machine State Action) (counted : State → Action → Bool) (s : State)
    (script : List Action) : M.runCount counted s script ≤ script.length := by
  induction script generalizing s with
  | nil => exact Nat.zero_le _
  | cons a r ih =>
    simp only [runCount, List.length_cons]
    have hh := Bool.toNat_le (counted s a)
    cases M.step s a with
    | none => dsimp only; omega
    | some n =>
      have hl := ih n
      dsimp only
      omega

theorem runCount_le_append (M : Machine State Action) (counted : State → Action → Bool) (s : State)
    (e l : List Action) :
    M.runCount counted s e ≤ M.runCount counted s (e ++ l) := by
  induction e generalizing s with
  | nil => exact Nat.zero_le _
  | cons a r ih =>
    simp only [List.cons_append, runCount]
    cases M.step s a with
    | none => exact Nat.le_refl _
    | some n => exact Nat.add_le_add_left (ih n) _

/-- The induction rule for what the count of a run says about the state it ends in. -/
theorem run_counted {Inv : Nat → State → Prop}
    (hp : ∀ n s a t, Inv n s → M.step s a = some t → Inv (n + (counted s a).toNat) t)
    {n : Nat} (hi : Inv n s) (ran : M.run s script = some t) :
    Inv (n + M.runCount counted s script) t := by
  induction script generalizing s n with
  | nil =>
    cases ran
    exact hi
  | cons a r ih =>
    simp only [run] at ran
    cases hv : M.step s a with
    | none =>
      rw [hv] at ran
      cases ran
    | some ne =>
      rw [hv] at ran
      simp only [runCount, hv, ← Nat.add_assoc]
      exact ih (hp n s a ne hi hv) ran

/-! ### Runs from one state -/

def startedAt (M : Machine State Action) (s : State) : Machine State Action where
  Init := fun start => start = s
  step := M.step

theorem startedAt_run (s t : State) (script : List Action) :
    (M.startedAt s).run t script = M.run t script := by
  induction script generalizing t with
  | nil => rfl
  | cons a r ih =>
    rw [run, run]
    show (match M.step t a with | none => none | some n => (M.startedAt s).run n r) = _
    cases M.step t a with
    | none => rfl
    | some n => exact ih n

theorem startedAt_runChecks (check : State → Action → Bool) (s t : State) (script : List Action) :
    (M.startedAt s).runChecks check t script = M.runChecks check t script := by
  induction script generalizing t with
  | nil => rfl
  | cons a r ih =>
    rw [runChecks, runChecks]
    show (check t a && match M.step t a with
      | none => false
      | some n => (M.startedAt s).runChecks check n r) = _
    cases M.step t a with
    | none => rfl
    | some n => exact congrArg (check t a && ·) (ih n)

/-- A script whose every step passes the check of a guard is a guarded run from its first state. -/
theorem guardedReachable_startedAt (hs : ∀ s a, check s a = true → guard s a)
    (ran : M.run s script = some t) (hc : M.runChecks check s script = true) :
    (M.startedAt s).GuardedReachable guard t :=
  guardedReachable_of_run hs rfl ((startedAt_run s s script).trans ran)
    ((startedAt_runChecks check s s script).trans hc)

abbrev Leads (M : Machine State Action) : State → State → Prop :=
  Relation.ReflTransGen fun s t => ∃ a, M.step s a = some t

theorem Leads.reachable (hr : M.Reachable s) (hl : M.Leads s t) : M.Reachable t := by
  induction hl with
  | refl => exact hr
  | tail _ hv ih =>
    obtain ⟨a, hv⟩ := hv
    exact .step ih hv

@[elab_as_elim]
theorem Leads.keeps {p : State → Prop}
    (hp : ∀ s a t, M.Reachable s → p s → M.step s a = some t → p t)
    (hr : M.Reachable s) (hl : M.Leads s t) (hs : p s) : p t := by
  induction hl with
  | refl => exact hs
  | tail hb hv ih =>
    obtain ⟨a, hv⟩ := hv
    exact hp _ a _ (Leads.reachable hr hb) ih hv

theorem leads_of_run (ran : M.run s script = some t) : M.Leads s t := by
  induction script generalizing s with
  | nil =>
    cases ran
    exact .refl
  | cons a r ih =>
    simp only [run] at ran
    split at ran
    · cases ran
    · rename_i n hv
      exact (Relation.ReflTransGen.single ⟨a, hv⟩).trans (ih ran)

end Machine
