import Mathlib

/-!
# Readable codes

A code writes values as words of symbols. It is readable when the word of a value can be told
from the word of any other one and from whatever admissible text follows it, so that words set
one after the other are read back in one way only.
-/

namespace PersonalOs.Readable

variable {σ α : Type*}

/-! ## Codes -/

/-- The word of `a` is told from every word of the code before an admissible rest. -/
def Apart (Ends : List σ → Prop) (word : α → List σ) (a : α) : Prop :=
  ∀ b r s, Ends r → Ends s → word a ++ r = word b ++ s → a = b ∧ r = s

def Avoids (symbol : σ) (word : α → List σ) : Prop :=
  ∀ a r s, word a ++ r ≠ symbol :: s

/-- Every rest is admissible. -/
def Anything (_ : List σ) : Prop := True

theorem Apart.injective {Ends : List σ → Prop} {word : α → List σ} {a b : α}
    (ha : Apart Ends word a) (he : Ends []) (hs : word a = word b) : a = b :=
  (ha b [] [] he he (by rw [hs])).1

/-! ## Runs of one class -/

/-- A rest that does not go on with a class of symbols. -/
def Stops (inside : σ → Prop) (r : List σ) : Prop :=
  ∀ c ∈ r.head?, ¬inside c

theorem stops_nil (i : σ → Prop) : Stops i [] := by
  intro c hf
  cases hf

theorem stops_cons {i : σ → Prop} {c : σ} {r : List σ} (ho : ¬i c) : Stops i (c :: r) := by
  intro d hf
  cases hf
  exact ho

theorem run_apart {i : σ → Prop} {u v r s : List σ} (hl : ∀ c ∈ u, i c)
    (hr : ∀ c ∈ v, i c) (hs : Stops i r) (hs' : Stops i s)
    (he : u ++ r = v ++ s) : u = v ∧ r = s := by
  induction u generalizing v with
  | nil =>
    cases v with
    | nil => exact ⟨rfl, he⟩
    | cons d v =>
      rw [List.nil_append] at he
      subst he
      exact absurd (hr d List.mem_cons_self) (hs d rfl)
  | cons c u ih =>
    cases v with
    | nil =>
      rw [List.nil_append] at he
      subst he
      exact absurd (hl c List.mem_cons_self) (hs' c rfl)
    | cons d v =>
      rw [List.cons_append, List.cons_append, List.cons.injEq] at he
      obtain ⟨rfl, he⟩ := he
      obtain ⟨rfl, hre⟩ := ih (fun e hm => hl e (List.mem_cons_of_mem _ hm))
        (fun e hm => hr e (List.mem_cons_of_mem _ hm)) he
      exact ⟨rfl, hre⟩

/-! ## Texts of letters -/

section Texts

variable {word : α → List σ} {hcl : σ}

/-- Letters that are told from anything make texts that are told up to a closing symbol. -/
theorem flatMap_apart {xs ys : List α} {r s : List σ}
    (hl : ∀ x ∈ xs, Apart Anything word x) (ha : Avoids hcl word)
    (he : xs.flatMap word ++ hcl :: r = ys.flatMap word ++ hcl :: s) :
    xs = ys ∧ r = s := by
  induction xs generalizing ys with
  | nil =>
    cases ys with
    | nil => exact ⟨rfl, (List.cons.inj he).2⟩
    | cons y ys =>
      rw [List.flatMap_cons, List.append_assoc] at he
      exact absurd he.symm (ha y _ _)
  | cons x xs ih =>
    cases ys with
    | nil =>
      rw [List.flatMap_cons, List.append_assoc] at he
      exact absurd he (ha x _ _)
    | cons y ys =>
      rw [List.flatMap_cons, List.flatMap_cons, List.append_assoc, List.append_assoc] at he
      obtain ⟨rfl, ht⟩ := hl x List.mem_cons_self y _ _ trivial trivial he
      obtain ⟨rfl, haf⟩ := ih (fun z hm => hl z (List.mem_cons_of_mem _ hm)) ht
      exact ⟨rfl, haf⟩

end Texts

/-! ## Lists of words -/

section Items

variable {Ends : List σ → Prop} {word : α → List σ} {sep hcl : σ}

/-- The words of a list, with a separator between any two. -/
def items (sep : σ) (word : α → List σ) (xs : List α) : List σ :=
  [sep].intercalate (xs.map word)

theorem items_nil : items sep word [] = [] := rfl

theorem items_singleton (x : α) : items sep word [x] = word x := by
  simp [items, List.intercalate]

theorem items_cons_cons (x y : α) (xs : List α) :
    items sep word (x :: y :: xs) = word x ++ sep :: items sep word (y :: xs) := by
  simp [items, List.intercalate]

variable (sep word hcl) in
theorem items_cons (x : α) (xs : List α) (r : List σ) :
    ∃ rs, items sep word (x :: xs) ++ hcl :: r = word x ++ rs ∧ (rs = hcl :: r ∧ xs = [] ∨
        ∃ y ys, xs = y :: ys ∧ rs = sep :: (items sep word (y :: ys) ++ hcl :: r)) := by
  cases xs with
  | nil =>
    rw [items_singleton]
    exact ⟨_, rfl, .inl ⟨rfl, rfl⟩⟩
  | cons y ys =>
    rw [items_cons_cons, List.append_assoc, List.cons_append]
    exact ⟨_, rfl, .inr ⟨y, ys, rfl, rfl⟩⟩

theorem items_apart {xs ys : List α} {r s : List σ} (hw : ∀ x ∈ xs, Apart Ends word x)
    (ha : Avoids hcl word) (hs : ∀ t, Ends (sep :: t))
    (hc : ∀ t, Ends (hcl :: t)) (hd : sep ≠ hcl)
    (he : items sep word xs ++ hcl :: r = items sep word ys ++ hcl :: s) :
    xs = ys ∧ r = s := by
  induction xs generalizing ys with
  | nil =>
    cases ys with
    | nil => exact ⟨rfl, (List.cons.inj he).2⟩
    | cons y ys =>
      obtain ⟨hr, is, _⟩ := items_cons word sep hcl y ys s
      rw [is] at he
      exact absurd he.symm (ha y _ _)
  | cons x xs ih =>
    obtain ⟨hr, is, hfo⟩ := items_cons word sep hcl x xs r
    rw [is] at he
    cases ys with
    | nil => exact absurd he (ha x _ _)
    | cons y ys =>
      obtain ⟨r', is', hf'⟩ := items_cons word sep hcl y ys s
      rw [is'] at he
      have hf := hw x List.mem_cons_self y hr r'
      rcases hfo with ⟨rfl, rfl⟩ | ⟨x', xs', rfl, rfl⟩
      · rcases hf' with ⟨rfl, rfl⟩ | ⟨y', ys', rfl, rfl⟩
        · obtain ⟨rfl, hr⟩ := hf (hc _) (hc _) he
          exact ⟨rfl, (List.cons.inj hr).2⟩
        · obtain ⟨_, hr⟩ := hf (hc _) (hs _) he
          exact absurd (List.cons.inj hr).1.symm hd
      · rcases hf' with ⟨rfl, rfl⟩ | ⟨y', ys', rfl, rfl⟩
        · obtain ⟨_, hr⟩ := hf (hs _) (hc _) he
          exact absurd (List.cons.inj hr).1 hd
        · obtain ⟨rfl, hr⟩ := hf (hs _) (hs _) he
          obtain ⟨ht, hr⟩ := ih (fun z hm => hw z (List.mem_cons_of_mem _ hm)) (List.cons.inj hr).2
          exact ⟨by rw [ht], hr⟩

end Items

end PersonalOs.Readable
