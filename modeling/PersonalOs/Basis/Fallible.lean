import Mathlib

/-!
# Chains of fallible steps

What a chain of `Except` steps that was accepted, or refused, says about its steps, and what a
list mapped by a partial function is.
-/

namespace PersonalOs

variable {ε α β : Type}

theorem bind_ok {x : Except ε α} {f : α → Except ε β} {b : β}
    (ha : (x >>= f) = .ok b) : ∃ a, x = .ok a ∧ f a = .ok b := by
  cases x with
  | error e => cases ha
  | ok a => exact ⟨a, rfl, ha⟩

theorem map_ok {x : Except ε α} {f : α → β} {b : β} (ha : x.map f = .ok b) :
    ∃ a, x = .ok a ∧ b = f a := by
  cases x with
  | error e => cases ha
  | ok a =>
    cases ha
    exact ⟨a, rfl, rfl⟩

def ensure (condition : Bool) (refusal : ε) : Except ε Unit :=
  if condition then .ok () else .error refusal

theorem ensure_ok {c : Bool} {r : ε} {u : Unit} : ensure c r = .ok u ↔ c = true := by
  cases c <;> simp [ensure]

variable {f : α → Except ε β}

variable {xs : List α} {ys : List β}

theorem forall₂_of_mapM (hm : xs.mapM f = .ok ys) :
    List.Forall₂ (fun x y => f x = .ok y) xs ys := by
  induction xs generalizing ys with
  | nil =>
    cases hm
    exact .nil
  | cons x xs ih =>
    rw [List.mapM_cons] at hm
    obtain ⟨y, hh, hm⟩ := bind_ok hm
    obtain ⟨r, ht, hm⟩ := bind_ok hm
    cases hm
    exact .cons hh (ih ht)

theorem mem_of_forall₂ {R : α → β → Prop} (hr : List.Forall₂ R xs ys) :
    (∀ y ∈ ys, ∃ x ∈ xs, R x y) ∧ ∀ x ∈ xs, ∃ y ∈ ys, R x y := by
  induction hr with
  | nil => simp
  | cons him _ ih =>
    constructor
    · rw [List.forall_mem_cons]
      refine ⟨⟨_, List.mem_cons_self, him⟩, fun y hm => ?_⟩
      obtain ⟨x, hin, hi⟩ := ih.1 y hm
      exact ⟨x, List.mem_cons_of_mem _ hin, hi⟩
    · rw [List.forall_mem_cons]
      refine ⟨⟨_, List.mem_cons_self, him⟩, fun x hm => ?_⟩
      obtain ⟨y, hin, hi⟩ := ih.2 x hm
      exact ⟨y, List.mem_cons_of_mem _ hin, hi⟩

theorem mem_of_mapM (hm : xs.mapM f = .ok ys) :
    (∀ y ∈ ys, ∃ x ∈ xs, f x = .ok y) ∧ ∀ x ∈ xs, ∃ y ∈ ys, f x = .ok y :=
  mem_of_forall₂ (forall₂_of_mapM hm)

theorem error_of_mapM {e : ε} (hm : xs.mapM f = .error e) : ∃ x ∈ xs, f x = .error e := by
  induction xs with
  | nil => cases hm
  | cons x xs ih =>
    rw [List.mapM_cons] at hm
    cases hh : f x with
    | error e' =>
      simp only [hh, bind, Except.bind, Except.error.injEq] at hm
      exact ⟨x, List.mem_cons_self, hm ▸ hh⟩
    | ok y =>
      cases ht : xs.mapM f with
      | error e' =>
        simp only [hh, ht, bind, Except.bind, Except.error.injEq] at hm
        obtain ⟨z, hme, hf⟩ := ih (hm ▸ ht)
        exact ⟨z, List.mem_cons_of_mem _ hme, hf⟩
      | ok r => simp [hh, ht, bind, Except.bind, pure, Except.pure] at hm

/-! ## Partial maps -/

variable {g : α → Option β}

theorem forall₂_of_mapM_some (hm : xs.mapM g = some ys) :
    List.Forall₂ (fun x y => g x = some y) xs ys := by
  induction xs generalizing ys with
  | nil =>
    cases hm
    exact .nil
  | cons x xs ih =>
    rw [List.mapM_cons] at hm
    obtain ⟨y, hh, hm⟩ := Option.bind_eq_some_iff.mp hm
    obtain ⟨r, ht, hm⟩ := Option.bind_eq_some_iff.mp hm
    cases hm
    exact .cons hh (ih ht)

theorem mem_of_mapM_some (hm : xs.mapM g = some ys) :
    (∀ y ∈ ys, ∃ x ∈ xs, g x = some y) ∧ ∀ x ∈ xs, ∃ y ∈ ys, g x = some y :=
  mem_of_forall₂ (forall₂_of_mapM_some hm)

theorem mapM_some_of_forall (ht : ∀ x ∈ xs, ∃ y, g x = some y) : ∃ ys, xs.mapM g = some ys := by
  induction xs with
  | nil => exact ⟨[], rfl⟩
  | cons x xs ih =>
    obtain ⟨y, hh⟩ := ht x List.mem_cons_self
    obtain ⟨ys, hta⟩ := ih fun x' hm => ht x' (List.mem_cons_of_mem _ hm)
    exact ⟨y :: ys, by simp [List.mapM_cons, hh, hta]⟩

theorem mapM_some_self {g : α → Option α} (he : ∀ x ∈ xs, g x = some x) : xs.mapM g = some xs := by
  induction xs with
  | nil => rfl
  | cons x xs ih =>
    have ht := ih fun x' hm => he x' (List.mem_cons_of_mem _ hm)
    simp [List.mapM_cons, he x List.mem_cons_self, ht]

end PersonalOs
