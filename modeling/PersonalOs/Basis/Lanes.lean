import Mathlib

/-!
# Lanes: items served oldest first

A lane holds items with an order key, an owner and the work they still owe. A selector serves the
oldest item it admits; an item that is not admitted yet, such as one that waits for a retry time, is
passed over. Items of one owner are served in order when each owed item that has a younger owed
item of its owner behind it is ready to be served.
-/

namespace Lanes

variable {α ω κ : Type} [LinearOrder κ] {key : α → κ} {owner : α → ω}

/-! ## Selection -/

def oldest (key : α → κ) (admitted : α → Bool) (rows : List α) : Option α :=
  (rows.filter admitted).argmin key

variable {admitted : α → Bool} {rows rows' : List α} {row new : α}

theorem oldest_spec (hs : oldest key admitted rows = some row) : row ∈ rows ∧ admitted row = true ∧
      ∀ o ∈ rows, admitted o = true → ¬ key o < key row := by
  have hm := List.argmin_mem (Option.mem_def.mpr hs)
  obtain ⟨hst, ha⟩ := List.mem_filter.mp hm
  refine ⟨hst, ha, fun o hi had => not_lt.mpr ?_⟩
  exact List.le_of_mem_argmin (List.mem_filter.mpr ⟨hi, had⟩) (Option.mem_def.mpr hs)

/-! ## Order -/

def InOrder (key : α → κ) (owner : α → ω) (owed ready : α → Prop) (rows : List α) : Prop :=
  ∀ old ∈ rows, ∀ young ∈ rows, owed old → owed young → owner old = owner young →
    key old < key young → ready old

variable {owed ready owed' ready' : α → Prop}

/-- Rows that stem from the rows of an ordered lane, owe no more than these and are ready if these
were, are ordered. -/
theorem InOrder.image (hor : InOrder key owner owed ready rows)
    (hs : ∀ r' ∈ rows', ∃ row ∈ rows, key r' = key row ∧ owner r' = owner row ∧
      (owed' r' → owed row) ∧
      (owed' r' → ready row → (∃ yo ∈ rows', owed' yo ∧ owner yo = owner r' ∧
        key r' < key yo) → ready' r')) :
    InOrder key owner owed' ready' rows' := by
  intro old hol yo hy ho hyo he hold
  obtain ⟨o, hos, hok, hoo, hod, hoy⟩ := hs old hol
  obtain ⟨y, hys, hyk, hyr, hyd, _⟩ := hs yo hy
  refine hoy ho ?_ ⟨yo, hy, hyo, he.symm, hold⟩
  refine hor o hos y hys (hod ho) (hyd hyo) ?_ ?_
  · rw [← hoo, ← hyr, he]
  · rwa [← hok, ← hyk]

/-- The youngest row joins an ordered lane when, if it owes at all, the owed rows of its owner are
ready. -/
theorem InOrder.snoc (hod : InOrder key owner owed ready rows)
    (hyt : ∀ row ∈ rows, key row < key new)
    (hs : owed new → ∀ row ∈ rows, owed row → owner row = owner new → ready row) :
    InOrder key owner owed ready (rows ++ [new]) := by
  intro old hor y hyr hos hyo he hol
  rcases List.mem_append.mp hor with ho | how
  · rcases List.mem_append.mp hyr with hy | hyw
    · exact hod old ho y hy hos hyo he hol
    · rw [List.mem_singleton.mp hyw] at he hyo
      exact hs hyo old ho hos he
  · rw [List.mem_singleton.mp how] at hol
    rcases List.mem_append.mp hyr with hy | hyw
    · exact absurd (hol.trans (hyt y hy)) (lt_irrefl _)
    · rw [List.mem_singleton.mp hyw] at hol
      exact absurd hol (lt_irrefl _)

end Lanes
