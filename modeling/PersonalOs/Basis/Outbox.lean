import Mathlib

/-!
# Outboxes

Rows wait in a table until they are due; a claim takes the first of them in an order, up to a
limit, and leases what it takes. A leased row is not due.
-/

namespace Outbox

variable {α κ : Type} [DecidableEq κ] {key : α → κ} {order : α → α → Prop} [DecidableRel order]
  {limit : Nat} {due : α → Bool} {rows : List α} {row : α} {claimed : List κ} {lease : Nat → α → α}

def batch (order : α → α → Prop) [DecidableRel order] (limit : Nat) (due : α → Bool)
    (rows : List α) : List α :=
  ((rows.filter due).insertionSort order).take limit

def leaseAll (key : α → κ) (lease : Nat → α → α) (claimed : List κ) (rows : List α) : List α :=
  rows.map fun row =>
    match claimed.idxOf? (key row) with
    | some k => lease k row
    | none => row

theorem mem_batch (ht : row ∈ batch order limit due rows) : row ∈ rows ∧ due row = true :=
  List.mem_filter.mp ((List.mem_insertionSort order).mp (List.mem_of_mem_take ht))

theorem batch_ne_nil (hp : 0 < limit) (hm : row ∈ rows) (hd : due row = true) :
    batch order limit due rows ≠ [] := by
  intro he
  have hs : row ∈ (rows.filter due).insertionSort order :=
    (List.mem_insertionSort order).mpr (List.mem_filter.mpr ⟨hm, hd⟩)
  rcases List.take_eq_nil_iff.mp he with hz | hn
  · exact absurd hp (Nat.not_lt.mpr (Nat.le_of_eq hz))
  · rw [hn] at hs
    exact nomatch hs

theorem idxOf?_of_mem (ht : key row ∈ claimed) : ∃ k, claimed.idxOf? (key row) = some k := by
  cases hf : claimed.idxOf? (key row) with
  | none => exact absurd ht (List.idxOf?_eq_none_iff.mp hf)
  | some k => exact ⟨k, rfl⟩

theorem mem_leaseAll (hm : row ∈ leaseAll key lease claimed rows) : ∃ b ∈ rows, row = b ∨
      ∃ k, claimed.idxOf? (key b) = some k ∧ row = lease k b := by
  obtain ⟨b, hr, rfl⟩ := List.mem_map.mp hm
  refine ⟨b, hr, ?_⟩
  cases claimed.idxOf? (key b) with
  | none => exact .inl rfl
  | some k => exact .inr ⟨k, rfl, rfl⟩

theorem mem_leaseAll_of_claimed (hm : row ∈ rows) {k : Nat}
    (hf : claimed.idxOf? (key row) = some k) :
    lease k row ∈ leaseAll key lease claimed rows :=
  List.mem_map.mpr ⟨row, hm, by rw [hf]⟩

theorem mem_leaseAll_of_spared (hm : row ∈ rows) (hs : key row ∉ claimed) :
    row ∈ leaseAll key lease claimed rows :=
  List.mem_map.mpr ⟨row, hm, by rw [List.idxOf?_eq_none_iff.mpr hs]⟩

theorem due_leaseAll (hl : ∀ k row, due (lease k row) = false) :
    ((leaseAll key lease claimed rows).filter due).length =
      ((rows.filter due).filter fun row => key row ∉ claimed).length := by
  rw [leaseAll, List.filter_map, List.length_map, List.filter_filter]
  refine congrArg List.length (List.filter_congr fun row _ => ?_)
  by_cases ht : key row ∈ claimed
  · obtain ⟨k, hf⟩ := idxOf?_of_mem ht
    simp [hf, hl, ht]
  · simp [List.idxOf?_eq_none_iff.mpr ht, ht]

theorem claim_progress (hp : 0 < limit) (hl : ∀ k row, due (lease k row) = false)
    (hna : claimed = (batch order limit due rows).map key) (hm : row ∈ rows)
    (hd : due row = true) :
    (∃ k, claimed.idxOf? (key row) = some k) ∨
      (key row ∉ claimed ∧ ((leaseAll key lease claimed rows).filter due).length <
        (rows.filter due).length) := by
  by_cases hta : key row ∈ claimed
  · exact .inl (idxOf?_of_mem hta)
  · have hn : batch order limit due rows ≠ [] := batch_ne_nil hp hm hd
    obtain ⟨o, ht⟩ := List.exists_mem_of_ne_nil _ hn
    obtain ⟨hr, ho⟩ := mem_batch ht
    have hc : key o ∈ claimed := hna ▸ List.mem_map_of_mem ht
    refine .inr ⟨hta, ?_⟩
    rw [due_leaseAll hl]
    exact List.length_filter_lt_length_iff_exists.mpr
      ⟨o, List.mem_filter.mpr ⟨hr, ho⟩, by simp [hc]⟩

/-- A step that reaches its goal or decreases a measure reaches its goal. -/
theorem exists_iterate {σ : Type} {ne : σ → σ} {Waits Goal : σ → Prop} {me : σ → Nat}
    (hp : ∀ s, Waits s → Goal (ne s) ∨ (Waits (ne s) ∧ me (ne s) < me s))
    (s : σ) (hw : Waits s) : ∃ n, Goal (ne^[n + 1] s) := by
  induction b : me s using Nat.strong_induction_on generalizing s with
  | _ m ih =>
    rcases hp s hw with hr | ⟨hs, hf⟩
    · exact ⟨0, hr⟩
    · obtain ⟨n, hr⟩ := ih (me (ne s)) (b ▸ hf) (ne s) hs rfl
      exact ⟨n + 1, hr⟩

end Outbox
