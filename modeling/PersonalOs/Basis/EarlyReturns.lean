import Mathlib

/-!
# Bodies that return early

A body that changes a state step by step and may return early with a verdict, keeping what it
changed so far. `Meets done stopped` says what such a body leaves, by whether it ran to its end.
-/

namespace PersonalOs

abbrev EarlyReturn (Verdict State α : Type) := ExceptT Verdict (StateM State) α

namespace EarlyReturn

variable {Verdict State α β : Type}

/-- What the body ends with when it starts in `s`. -/
def runFrom (m : EarlyReturn Verdict State α) (s : State) : Except Verdict α × State :=
  StateT.run (ExceptT.run m) s

@[simp] theorem runFrom_pure (a : α) (s : State) :
    runFrom (pure a : EarlyReturn Verdict State α) s = (.ok a, s) := rfl

@[simp] theorem runFrom_throw (v : Verdict) (s : State) :
    runFrom (throw v : EarlyReturn Verdict State α) s = (.error v, s) := rfl

@[simp] theorem runFrom_get (s : State) :
    runFrom (get : EarlyReturn Verdict State State) s = (.ok s, s) := rfl

@[simp] theorem runFrom_modifyGet (c : State → α × State) (s : State) :
    runFrom (modifyGet c : EarlyReturn Verdict State α) s = (.ok (c s).1, (c s).2) := rfl

@[simp] theorem runFrom_modify (c : State → State) (s : State) :
    runFrom (modify c : EarlyReturn Verdict State PUnit) s = (.ok ⟨⟩, c s) := rfl

theorem runFrom_bind (m : EarlyReturn Verdict State α) (f : α → EarlyReturn Verdict State β)
    (s : State) : runFrom (m >>= f) s = match runFrom m s with
      | (.ok a, t) => runFrom (f a) t
      | (.error v, t) => (.error v, t) := by
  simp only [runFrom, ExceptT.run_bind, StateT.run_bind]
  rcases StateT.run (ExceptT.run m) s with ⟨(_ | _), _⟩ <;> rfl

theorem runFrom_bind_ok {m : EarlyReturn Verdict State α} {f : α → EarlyReturn Verdict State β}
    {s u : State} {b : β} (ran : runFrom (m >>= f) s = (.ok b, u)) :
    ∃ a t, runFrom m s = (.ok a, t) ∧ runFrom (f a) t = (.ok b, u) := by
  rw [runFrom_bind] at ran
  rcases hf : runFrom m s with ⟨(v | a), t⟩ <;> rw [hf] at ran
  · simp at ran
  · exact ⟨a, t, rfl, ran⟩

/-- Where the body leaves the state when it runs to its end, and when it returns early. -/
def Meets (done stopped : State → State → Prop) (m : EarlyReturn Verdict State α) : Prop :=
  ∀ s, match runFrom m s with
    | (.ok _, t) => done s t
    | (.error _, t) => stopped s t

variable {done stopped hk hfi hs : State → State → Prop}
  {m : EarlyReturn Verdict State α} {f : α → EarlyReturn Verdict State β}

theorem Meets.pure (he : ∀ s, done s s) (a : α) :
    Meets done stopped (Pure.pure a : EarlyReturn Verdict State α) := fun s => he s

theorem Meets.throw (he : ∀ s, stopped s s) (v : Verdict) :
    Meets done stopped (MonadExcept.throw v : EarlyReturn Verdict State α) := fun s => he s

theorem Meets.get (he : ∀ s, done s s) :
    Meets done stopped (MonadState.get : EarlyReturn Verdict State State) := fun s => he s

theorem Meets.modifyGet {c : State → α × State} (hc : ∀ s, done s (c s).2) :
    Meets done stopped (MonadState.modifyGet c : EarlyReturn Verdict State α) :=
  fun s => hc s

theorem Meets.change {c : State → State} (hc : ∀ s, done s (c s)) :
    Meets done stopped (modify c : EarlyReturn Verdict State PUnit) :=
  fun s => hc s

/-- A first part that leaves the state related by `keeps` may stand before the rest. -/
theorem Meets.bind (hf : Meets hk stopped m) (hre : ∀ a, Meets hfi hs (f a))
    (hj : ∀ s t u, hk s t → hfi t u → done s u)
    (ha : ∀ s t u, hk s t → hs t u → stopped s u) :
    Meets done stopped (m >>= f) := by
  intro s
  rw [runFrom_bind]
  have hl := hf s
  rcases ran : runFrom m s with ⟨(v | a), t⟩ <;> rw [ran] at hl
  · exact hl
  · have hr := hre a t
    simp only
    rcases hra : runFrom (f a) t with ⟨(v | b), u⟩ <;> rw [hra] at hr
    · exact ha s t u hl hr
    · exact hj s t u hl hr

end EarlyReturn

end PersonalOs
