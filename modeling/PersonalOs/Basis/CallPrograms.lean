import PersonalOs.Basis.Machine

/-!
# Programs of atomic calls

A program reads and changes a world one call at a time. It runs alone, or in a lane: one program at
a time, with others changing the world between any two of its calls, and a stop at any of them.

A call carries a label, so that a condition on a run can speak of the call that comes next.
A routine is a program with local variables that may throw.
-/

namespace CallPrograms

inductive CallProgram (World Label Out : Type)
  | done (out : Out)
  | call (label : Label) (effect : World → World) (next : World → CallProgram World Label Out)

variable {World Label α β : Type}

namespace CallProgram

protected def bind : CallProgram World Label α → (α → CallProgram World Label β) →
    CallProgram World Label β
  | .done a, f => f a
  | .call label effect next, f => .call label effect fun w => (next w).bind f

instance : Monad (CallProgram World Label) where
  pure := .done
  bind := CallProgram.bind

def ask (label : Label) (answer : World → α) (effect : World → World) :
    CallProgram World Label α :=
  .call label effect fun w => .done (answer w)

/-- The answer of a program that runs alone, and the world it leaves. -/
def run : CallProgram World Label α → World → α × World
  | .done a, w => (a, w)
  | .call _ effect next, w => (next w).run (effect w)

@[simp] theorem run_pure (a : α) (w : World) :
    (pure a : CallProgram World Label α).run w = (a, w) := rfl

@[simp] theorem run_done (a : α) (w : World) :
    (done a : CallProgram World Label α).run w = (a, w) := rfl

@[simp] theorem run_ask (l : Label) (an : World → α) (e : World → World) (w : World) :
    (ask l an e).run w = (an w, e w) := rfl

theorem run_bind (p : CallProgram World Label α) (f : α → CallProgram World Label β) (w : World) :
    (p >>= f).run w = (f (p.run w).1).run (p.run w).2 := by
  show (p.bind f).run w = _
  induction p generalizing w with
  | done a => rfl
  | call l e n ih => exact ih w (e w)

end CallProgram

/-! ## Invariants -/

/-- From every world that has the invariant and meets the condition of the next call, each call
keeps the invariant, and the answer is as said. -/
def Keeps (Inv : World → Prop) (Met : Label → World → Prop) (Q : α → Prop) :
    CallProgram World Label α → Prop
  | .done a => Q a
  | .call label effect next => ∀ w, Inv w → Met label w → Inv (effect w) ∧
      Keeps Inv Met Q (next w)

section Rules

variable {Inv : World → Prop} {Met : Label → World → Prop} {Q Q' : α → Prop}
  {p : CallProgram World Label α} {f : α → CallProgram World Label β} {han : β → Prop}

theorem Keeps.pure {a : α} (hp : Q a) : Keeps Inv Met Q (pure a : CallProgram World Label α) := hp

theorem Keeps.bind (hk : Keeps Inv Met Q p)
    (hn : ∀ a, Q a → Keeps Inv Met han (f a)) : Keeps Inv Met han (p >>= f) := by
  show Keeps Inv Met han (p.bind f)
  induction p with
  | done a => exact hn a hk
  | call l e r ih =>
    intro w inv met
    obtain ⟨ha, ho⟩ := hk w inv met
    exact ⟨ha, ih w ho⟩

theorem Keeps.ask {l : Label} {an : World → α} {e : World → World}
    (hk : ∀ w, Inv w → Met l w → Inv (e w) ∧ Q (an w)) :
    Keeps Inv Met Q (CallProgram.ask l an e) :=
  hk

end Rules

/-! ## Routines -/

abbrev Routine (World Label Locals Thrown α : Type) :=
  ExceptT Thrown (StateT Locals (CallProgram World Label)) α

namespace Routine

variable {Locals Locals' Thrown : Type}

/-- One call, which may throw. -/
def ask (label : Label) (answer : World → Except Thrown α) (effect : World → World) :
    Routine World Label Locals Thrown α :=
  fun locals => do
    let out ← CallProgram.ask label answer effect
    return (out, locals)

/-- A block with local variables of its own, and what it leaves in them. -/
def block (fresh : Locals') (body : Routine World Label Locals' Thrown α) :
    Routine World Label Locals Thrown (α × Locals') :=
  fun locals => do
    let (out, inner) ← body fresh
    return (out.map (·, inner), locals)

/-- The routine as a job of its own: nobody waits for what it returns. -/
def detach (p : Routine World Label Unit Thrown α) : CallProgram World Label Unit := do
  let _ ← p ()
  return ()

/-- How a routine that runs alone ends. -/
def exec (p : Routine World Label Locals Thrown α) (locals : Locals) (w : World) :
    (Except Thrown α × Locals) × World :=
  CallProgram.run (p locals) w

variable {locals : Locals} {w : World} {p : Routine World Label Locals Thrown α}
  {f : α → Routine World Label Locals Thrown β}
  {hh : Thrown → Routine World Label Locals Thrown α}

@[simp] theorem exec_pure (a : α) :
    exec (pure a : Routine World Label Locals Thrown α) locals w = ((.ok a, locals), w) := rfl

@[simp] theorem exec_throw (e : Thrown) :
    exec (throw e : Routine World Label Locals Thrown α) locals w = ((.error e, locals), w) := rfl

@[simp] theorem exec_ask (l : Label) (an : World → Except Thrown α) (e : World → World) :
    exec (ask l an e : Routine World Label Locals Thrown α) locals w = ((an w, locals), e w) := rfl

@[simp] theorem exec_get :
    exec (get : Routine World Label Locals Thrown Locals) locals w = ((.ok locals, locals), w) :=
  rfl

@[simp] theorem exec_set (l' : Locals) :
    exec (set l' : Routine World Label Locals Thrown PUnit) locals w = ((.ok ⟨⟩, l'), w) := rfl

theorem exec_bind : exec (p >>= f) locals w = match exec p locals w with
    | ((.ok a, i), u) => exec (f a) i u
    | ((.error e, i), u) => ((.error e, i), u) := by
  refine (CallProgram.run_bind (p locals) _ w).trans ?_
  simp only [exec]
  rcases CallProgram.run (p locals) w with ⟨⟨_ | _, _⟩, _⟩ <;> rfl

theorem exec_tryCatch : exec (tryCatch p hh) locals w = match exec p locals w with
    | ((.ok a, i), u) => ((.ok a, i), u)
    | ((.error e, i), u) => exec (hh e) i u := by
  refine (CallProgram.run_bind (p locals) _ w).trans ?_
  simp only [exec]
  rcases CallProgram.run (p locals) w with ⟨⟨_ | _, _⟩, _⟩ <;> rfl

variable {b : β} {a : α} {hl : Locals} {u v : World}

theorem exec_bind_ok (ran : exec (p >>= f) locals w = ((.ok b, hl), v)) :
    ∃ a i u, exec p locals w = ((.ok a, i), u) ∧ exec (f a) i u = ((.ok b, hl), v) := by
  rw [exec_bind] at ran
  rcases hf : exec p locals w with ⟨⟨_ | a, i⟩, u⟩ <;> rw [hf] at ran
  · cases ran
  · exact ⟨a, i, u, rfl, ran⟩

/-- A guarded block that returned was not caught, or its handler returned. -/
theorem exec_tryCatch_ok (ran : exec (tryCatch p hh) locals w = ((.ok a, hl), v)) :
    exec p locals w = ((.ok a, hl), v) ∨ ∃ e i u, exec p locals w = ((.error e, i), u) ∧
        exec (hh e) i u = ((.ok a, hl), v) := by
  rw [exec_tryCatch] at ran
  rcases hf : exec p locals w with ⟨⟨e | a, i⟩, u⟩ <;> rw [hf] at ran
  · exact .inr ⟨e, i, u, rfl, ran⟩
  · exact .inl ran

theorem exec_block {fr : Locals'} {bo : Routine World Label Locals' Thrown α} :
    exec (block fr bo : Routine World Label Locals Thrown (α × Locals')) locals w =
      match exec bo fr w with
      | ((.ok a, i), u) => ((.ok (a, i), locals), u)
      | ((.error e, _), u) => ((.error e, locals), u) := by
  refine (CallProgram.run_bind (bo fr) _ w).trans ?_
  simp only [exec]
  rcases CallProgram.run (bo fr) w with ⟨⟨_ | _, _⟩, _⟩ <;> rfl

/-- The routine keeps the invariant from every world and locals, and what it returns is as said. -/
def Holds (Inv : World → Prop) (Met : Label → World → Prop) (Q : α → Prop)
    (p : Routine World Label Locals Thrown α) : Prop :=
  ∀ locals, Keeps Inv Met (fun out => ∀ a, out.1 = .ok a → Q a) (p locals)

section Rules

variable {Inv : World → Prop} {Met : Label → World → Prop} {Q Q' : α → Prop}
  {han : β → Prop}

theorem Holds.pure {a : α} (hp : Q a) :
    Holds Inv Met Q (pure a : Routine World Label Locals Thrown α) := by
  rintro _ _ ⟨⟩
  exact hp

theorem Holds.throw (e : Thrown) :
    Holds Inv Met Q (throw e : Routine World Label Locals Thrown α) := by
  rintro _ _ ⟨⟩

theorem Holds.get : Holds Inv Met (fun _ => True)
    (get : Routine World Label Locals Thrown Locals) :=
  fun _ _ _ => trivial

theorem Holds.set (l' : Locals) : Holds Inv Met (fun _ => True)
    (set l' : Routine World Label Locals Thrown PUnit) :=
  fun _ _ _ => trivial

theorem Holds.ask {l : Label} {an : World → Except Thrown α} {e : World → World}
    (hk : ∀ w, Inv w → Met l w → Inv (e w) ∧ ∀ a, an w = .ok a → Q a) :
    Holds Inv Met Q (Routine.ask l an e : Routine World Label Locals Thrown α) :=
  fun _ => Keeps.bind (Keeps.ask hk) fun _ hp => Keeps.pure hp

theorem Holds.bind (hk : Holds Inv Met Q p)
    (hn : ∀ a, Q a → Holds Inv Met han (f a)) : Holds Inv Met han (p >>= f) := by
  refine fun locals => Keeps.bind (hk locals) ?_
  rintro ⟨_ | a, i⟩ hp
  · exact Keeps.pure nofun
  · exact hn a (hp a rfl) i

theorem Holds.tryCatch (hk : Holds Inv Met Q p)
    (hc : ∀ e, Holds Inv Met Q (hh e)) : Holds Inv Met Q (tryCatch p hh) := by
  refine fun locals => Keeps.bind (hk locals) ?_
  rintro ⟨e | a, i⟩ hp
  · exact hc e i
  · exact Keeps.pure hp

theorem Holds.block {fr : Locals'} {bo : Routine World Label Locals' Thrown α}
    (hk : Holds Inv Met Q bo) :
    Holds Inv Met (fun out => Q out.1)
      (Routine.block fr bo : Routine World Label Locals Thrown (α × Locals')) := by
  refine fun locals => Keeps.bind (hk fr) ?_
  rintro ⟨_ | a, i⟩ hp
  · exact Keeps.pure nofun
  · refine Keeps.pure ?_
    rintro _ ⟨⟩
    exact hp a rfl


theorem Holds.detach {p : Routine World Label Unit Thrown α} (hk : Holds Inv Met Q p) :
    Keeps Inv Met (fun _ => True) p.detach :=
  Keeps.bind (hk ()) fun _ _ => trivial

end Rules
end Routine

/-! ## Lanes -/

/-- A world and the program that runs on it, if one does. -/
structure Lane (World Label Out : Type) where
  world : World
  program : Option (CallProgram World Label Out)

inductive LaneAction (Job Event : Type)
  /-- An idle lane starts a job. -/
  | start (job : Job)
  /-- The program makes its next call, or has returned. -/
  | advance
  /-- The process stops; the world stays. -/
  | crash
  /-- Somebody else changes the world. -/
  | interfere (event : Event)

variable {Job Event Out : Type}

def laneStep (start : World → Job → Option (CallProgram World Label Out))
    (change : Event → World → World) (lane : Lane World Label Out) :
    LaneAction Job Event → Option (Lane World Label Out)
  | .start job =>
    match lane.program with
    | none => (start lane.world job).map fun program => ⟨lane.world, some program⟩
    | some _ => none
  | .advance =>
    match lane.program with
    | none => none
    | some (.done _) => some ⟨lane.world, none⟩
    | some (.call _ effect next) => some ⟨effect lane.world, some (next lane.world)⟩
  | .crash => some ⟨lane.world, none⟩
  | .interfere event => some ⟨change event lane.world, lane.program⟩

/-- All interleavings of the jobs of one lane with the events of others. -/
def laneMachine (initial : World → Prop) (start : World → Job → Option (CallProgram World Label Out))
    (change : Event → World → World) : Machine (Lane World Label Out) (LaneAction Job Event) where
  Init := fun lane => initial lane.world ∧ lane.program = none
  step := laneStep start change

def MeetsCall (Met : Label → World → Prop) (lane : Lane World Label Out) :
    LaneAction Job Event → Prop
  | .advance =>
    match lane.program with
    | some (.call label _ _) => Met label lane.world
    | _ => True
  | _ => True

/-- What every job keeps and no event destroys holds along every run whose calls meet their
conditions. -/
theorem lane_keeps {i : World → Prop}
    {s : World → Job → Option (CallProgram World Label Out)} {c : Event → World → World}
    {Inv : World → Prop} {Met : Label → World → Prop} {l : Lane World Label Out}
    (hi : ∀ w, i w → Inv w)
    (hj : ∀ w job pr, Inv w → s w job = some pr → Keeps Inv Met (fun _ => True) pr)
    (hst : ∀ e w, Inv w → Inv (c e w))
    (hr : (laneMachine i s c).GuardedReachable (MeetsCall Met) l) :
    Inv l.world ∧ ∀ pr ∈ l.program, Keeps Inv Met (fun _ => True) pr := by
  refine @Machine.GuardedReachable.invariant _ _ (laneMachine i s c) _
    (fun l => Inv l.world ∧ ∀ pr ∈ l.program, Keeps Inv Met (fun _ => True) pr)
    ?_ ?_ _ hr
  · rintro l ⟨s, hid⟩
    exact ⟨hi _ s, by simp [hid]⟩
  · rintro l ac n ⟨inv, hk⟩ met hv
    cases ac with
    | start job =>
      simp only [laneMachine, laneStep] at hv
      split at hv
      · obtain ⟨pr, hs, rfl⟩ := Option.map_eq_some_iff.mp hv
        refine ⟨inv, ?_⟩
        rintro _ ⟨⟩
        exact hj _ _ _ inv hs
      · cases hv
    | advance =>
      simp only [laneMachine, laneStep] at hv
      split at hv
      · cases hv
      · cases hv
        exact ⟨inv, by simp⟩
      next la ef r hn =>
        cases hv
        simp only [MeetsCall, hn] at met
        obtain ⟨ha, ho⟩ := hk _ hn _ inv met
        refine ⟨ha, ?_⟩
        rintro _ ⟨⟩
        exact ho
    | crash =>
      cases hv
      exact ⟨inv, by simp⟩
    | interfere e =>
      cases hv
      exact ⟨hst e _ inv, hk⟩

end CallPrograms
