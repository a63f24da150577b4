import Mathlib

/-!
# Tables

A table is a list of rows in the order of their insertion, with a key no two rows share. Rows
are appended and rewritten in place; no row is taken away.
-/

namespace Tables

variable {α κ : Type} {key : α → κ} {rows : List α} {row row' new : α} {k : κ}

def Unique (key : α → κ) (rows : List α) : Prop := (rows.map key).Nodup

def updateWhere (rows : List α) (guard : α → Bool) (write : α → α) : List α :=
  rows.map fun row => if guard row then write row else row

/-- Rewrite the rows a guard admits, or refuse when it admits none (`rowcount != 1`; the guards
name a key). -/
def updateGuarded {ε : Type} (rows : List α) (guard : α → Bool) (write : α → α) (refusal : ε) :
    Except ε (List α) :=
  if rows.any guard then .ok (updateWhere rows guard write) else .error refusal

variable {guard : α → Bool} {write : α → α}

theorem updateGuarded_ok {ε : Type} {r : ε} {rs' : List α}
    (ha : updateGuarded rows guard write r = .ok rs') :
    (∃ row ∈ rows, guard row = true) ∧ rs' = updateWhere rows guard write := by
  unfold updateGuarded at ha
  split at ha
  · next had => exact ⟨List.any_eq_true.mp had, (Except.ok.inj ha).symm⟩
  · exact nomatch ha

theorem mem_updateWhere :
    row' ∈ updateWhere rows guard write ↔
      ∃ row ∈ rows, (if guard row then write row else row) = row' :=
  List.mem_map

theorem column_of_updated {γ : Type} {c : α → γ} (hk : ∀ row, c (write row) = c row)
    (row : α) : c (if guard row then write row else row) = c row := by
  split
  · exact hk row
  · rfl

theorem filter_updateWhere {p : α → Bool} (hk : ∀ row, p (write row) = p row) :
    (updateWhere rows guard write).filter p = updateWhere (rows.filter p) guard write := by
  unfold updateWhere
  rw [List.filter_map]
  congr 1
  exact List.filter_congr fun row _ => column_of_updated hk row

theorem filter_updateWhere_of_apart {p : α → Bool}
    (hap : ∀ row, guard row = true → p row = false ∧ p (write row) = false) :
    (updateWhere rows guard write).filter p = rows.filter p := by
  induction rows with
  | nil => rfl
  | cons row rows ih =>
    have ht : (updateWhere (row :: rows) guard write).filter p =
        ((if guard row then write row else row) :: updateWhere rows guard write).filter p := rfl
    rw [ht]
    cases ha : guard row with
    | false =>
      rw [if_neg Bool.false_ne_true, List.filter_cons, List.filter_cons, ih]
    | true =>
      obtain ⟨hb, haf⟩ := hap row ha
      rw [if_pos rfl, List.filter_cons_of_neg (by rw [haf]; exact Bool.false_ne_true),
        List.filter_cons_of_neg (by rw [hb]; exact Bool.false_ne_true), ih]

theorem updateWhere_eq_self (hn : ∀ row ∈ rows, guard row = false) :
    updateWhere rows guard write = rows := by
  refine (List.map_congr_left fun row hm => ?_).trans (List.map_id rows)
  rw [hn row hm]
  rfl

theorem Unique.updateWhere (hu : Unique key rows) (hk : ∀ row, key (write row) = key row) :
    Unique key (updateWhere rows guard write) := by
  have he : (Tables.updateWhere rows guard write).map key = rows.map key := by
    rw [Tables.updateWhere, List.map_map]
    exact List.map_congr_left fun row _ => column_of_updated hk row
  rw [Unique, he]
  exact hu

variable [DecidableEq κ]

def lookup (key : α → κ) (rows : List α) (k : κ) : Option α :=
  rows.find? fun row => key row = k

theorem mem_of_lookup (hf : lookup key rows k = some row) : row ∈ rows :=
  List.mem_of_find?_eq_some hf

theorem key_of_lookup (hf : lookup key rows k = some row) : key row = k := by
  have hm := List.find?_some hf
  exact of_decide_eq_true hm

theorem lookup_none_iff : lookup key rows k = none ↔ ∀ row ∈ rows, key row ≠ k := by
  simp [lookup, List.find?_eq_none]

theorem Unique.lookup_of_mem (hu : Unique key rows) (hm : row ∈ rows) :
    lookup key rows (key row) = some row := by
  induction rows with
  | nil => exact nomatch hm
  | cons x r ih =>
    rw [Unique, List.map_cons, List.nodup_cons] at hu
    rcases List.mem_cons.mp hm with rfl | hl
    · exact List.find?_cons_of_pos (by simp)
    · have ho : key x ≠ key row := fun he =>
        hu.1 (he ▸ List.mem_map_of_mem hl)
      exact (List.find?_cons_of_neg (by simpa using ho)).trans (ih hu.2 hl)

theorem Unique.lookup_iff (hu : Unique key rows) :
    lookup key rows k = some row ↔ row ∈ rows ∧ key row = k := by
  constructor
  · exact fun hf => ⟨mem_of_lookup hf, key_of_lookup hf⟩
  · rintro ⟨hm, rfl⟩
    exact hu.lookup_of_mem hm

theorem Unique.eq_of_key (hu : Unique key rows) (hm : row ∈ rows) (hm' : row' ∈ rows)
    (he : key row = key row') : row = row' := by
  have hf := hu.lookup_of_mem hm
  rw [he, hu.lookup_of_mem hm'] at hf
  exact (Option.some.inj hf).symm

theorem lookup_updateWhere (hk : ∀ row, key (write row) = key row) :
    lookup key (updateWhere rows guard write) k =
      (lookup key rows k).map fun row => if guard row then write row else row := by
  unfold lookup updateWhere
  rw [List.find?_map]
  congr 2
  funext row
  exact congrArg (fun k' => decide (k' = k)) (column_of_updated hk row)

theorem lookup_updateWhere_none (hk : ∀ row, key (write row) = key row)
    (hm : lookup key rows k = none) :
    lookup key (updateWhere rows guard write) k = none := by
  rw [lookup_updateWhere hk, hm]
  rfl

theorem lookup_updated {P : α → α → Prop} (hk : ∀ row, key (write row) = key row)
    (hre : ∀ row, P row row) (hr : ∀ row, guard row = true → P row (write row))
    (hf : lookup key rows k = some row) :
    ∃ row', lookup key (updateWhere rows guard write) k = some row' ∧ P row row' := by
  refine ⟨if guard row then write row else row, ?_, ?_⟩
  · rw [lookup_updateWhere hk, hf]
    rfl
  split
  · next ha => exact hr row ha
  · exact hre row

theorem lookup_kept (hk : ∀ row, key (write row) = key row)
    (hf : lookup key rows k = some row) (hs : guard row = false) :
    lookup key (updateWhere rows guard write) k = some row := by
  rw [lookup_updateWhere hk, hf, Option.map_some, hs]
  rfl

theorem lookup_written (hk : ∀ row, key (write row) = key row)
    (hf : lookup key rows k = some row) (ha : guard row = true) :
    lookup key (updateWhere rows guard write) k = some (write row) := by
  rw [lookup_updateWhere hk, hf, Option.map_some, ha]
  rfl

theorem Unique.snoc (hu : Unique key rows) (hf : lookup key rows (key new) = none) :
    Unique key (rows ++ [new]) := by
  rw [Unique, List.map_append, List.nodup_append]
  refine ⟨hu, List.nodup_singleton _, fun k old k' hn he => ?_⟩
  obtain ⟨row, hm, rfl⟩ := List.mem_map.mp old
  rw [List.map_singleton, List.mem_singleton] at hn
  exact lookup_none_iff.mp hf row hm (he.trans hn)

theorem lookup_snoc : lookup key (rows ++ [new]) k =
    (lookup key rows k).or (if key new = k then some new else none) := by
  unfold lookup
  rw [List.find?_append]
  congr 1
  by_cases he : key new = k <;> simp [he]

theorem lookup_snoc_old (hf : lookup key rows k = some row) :
    lookup key (rows ++ [new]) k = some row := by
  rw [lookup_snoc, hf]
  rfl

theorem lookup_snoc_new (hf : lookup key rows (key new) = none) :
    lookup key (rows ++ [new]) (key new) = some new := by
  rw [lookup_snoc, hf]
  simp

theorem lookup_snoc_other (ho : key new ≠ k) :
    lookup key (rows ++ [new]) k = lookup key rows k := by
  rw [lookup_snoc, if_neg ho, Option.or_none]

end Tables
