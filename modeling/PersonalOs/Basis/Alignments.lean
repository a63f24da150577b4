import Mathlib

/-!
# Alignments of two lists by longest blocks

Two lists are aligned by the longest block they share, and then again to the left and to the right
of it, until nothing is shared. The aligned positions form a path from the start of both lists to
their end.
-/

namespace Alignments

variable {α : Type}

/-! ## Slices -/

/-- The elements from one position up to another. -/
def slice (xs : List α) (start stop : Nat) : List α := (xs.drop start).take (stop - start)

theorem slice_self (xs : List α) (st : Nat) : slice xs st st = [] := by
  rw [slice, Nat.sub_self, List.take_zero]

theorem slice_all (xs : List α) : slice xs 0 xs.length = xs := by
  rw [slice, List.drop_zero, Nat.sub_zero, List.take_length]

theorem slice_append {xs : List α} {a b c : Nat} (le : a ≤ b) (le' : b ≤ c) :
    slice xs a b ++ slice xs b c = slice xs a c := by
  rw [slice, slice, slice, show c - a = (b - a) + (c - b) by omega, List.take_add, List.drop_drop,
    show a + (b - a) = b by omega]

theorem getElem?_slice (xs : List α) (st sp i : Nat) :
    (slice xs st sp)[i]? = if i < sp - st then xs[st + i]? else none := by
  rw [slice, List.getElem?_take, List.getElem?_drop]

theorem length_slice {xs : List α} {st sp : Nat} (hw : sp ≤ xs.length) :
    (slice xs st sp).length = sp - st := by
  rw [slice, List.length_take, List.length_drop]
  omega

/-! ## Matches -/

/-- `n` elements of one list from `p` are those of the other from `q`. -/
def Matches (xs ys : List α) (p q n : Nat) : Prop :=
  ∀ i, i < n → ∃ x, xs[p + i]? = some x ∧ ys[q + i]? = some x

section Matches

variable {xs ys : List α} {p q m n : Nat}

theorem Matches.none : Matches xs ys p q 0 := fun _ hs => nomatch hs

theorem Matches.append (hf : Matches xs ys p q m) (hs : Matches xs ys (p + m) (q + m) n) :
    Matches xs ys p q (m + n) := by
  intro i hsm
  rcases Nat.lt_or_ge i m with he | hla
  · exact hf i he
  · obtain ⟨x, hl, hr⟩ := hs (i - m) (by omega)
    rw [show p + m + (i - m) = p + i by omega] at hl
    rw [show q + m + (i - m) = q + i by omega] at hr
    exact ⟨x, hl, hr⟩

theorem Matches.part {k : Nat} (hw : Matches xs ys p q n) (hwi : k + m ≤ n) :
    Matches xs ys (p + k) (q + k) m := by
  intro i hs
  obtain ⟨x, hl, hr⟩ := hw (k + i) (by omega)
  exact ⟨x, by rw [Nat.add_assoc]; exact hl, by rw [Nat.add_assoc]; exact hr⟩

theorem slice_of_matches (he : Matches xs ys p q n) : slice xs p (p + n) = slice ys q (q + n) := by
  refine List.ext_getElem? fun i => ?_
  rw [getElem?_slice, getElem?_slice, Nat.add_sub_cancel_left, Nat.add_sub_cancel_left]
  split
  · next hs =>
    obtain ⟨x, hl, hr⟩ := he i hs
    rw [hl, hr]
  · rfl

theorem matches_of_slice {p' q' : Nat} (hf : p ≤ p') (hf' : q ≤ q')
    (hw : p' ≤ xs.length) (hw' : q' ≤ ys.length)
    (hsa : slice xs p p' = slice ys q q') :
    p' - p = q' - q ∧ Matches xs ys p q (p' - p) := by
  have hl : p' - p = q' - q := by
    rw [← length_slice hw, ← length_slice hw', hsa]
  refine ⟨hl, fun i hs => ?_⟩
  have he := congrArg (fun zs => zs[i]?) hsa
  simp only [getElem?_slice] at he
  rw [if_pos hs, if_pos (hl ▸ hs)] at he
  have hi : p + i < xs.length := by omega
  exact ⟨xs[p + i], List.getElem?_eq_getElem hi, he ▸ List.getElem?_eq_getElem hi⟩

end Matches

/-! ## Windows and blocks -/

/-- A block of elements both lists have. -/
structure Block where
  baseStart : Nat
  otherStart : Nat
  length : Nat
deriving DecidableEq

/-- A range of either list. -/
structure Window where
  baseFrom : Nat
  baseTo : Nat
  otherFrom : Nat
  otherTo : Nat
deriving DecidableEq

namespace Window

def Valid (w : Window) : Prop := w.baseFrom ≤ w.baseTo ∧ w.otherFrom ≤ w.otherTo

/-- A match of length `n` lies in the window. -/
def Holds (w : Window) (p q n : Nat) : Prop :=
  w.baseFrom ≤ p ∧ p + n ≤ w.baseTo ∧ w.otherFrom ≤ q ∧ q + n ≤ w.otherTo

def before (w : Window) (block : Block) : Window :=
  ⟨w.baseFrom, block.baseStart, w.otherFrom, block.otherStart⟩

def after (w : Window) (block : Block) : Window :=
  ⟨block.baseStart + block.length, w.baseTo, block.otherStart + block.length, w.otherTo⟩

end Window

variable {xs ys : List α} {w : Window} {block : Block} {blocks : List Block} {s s' n : Nat}

def Longest (xs ys : List α) (w : Window) (block : Block) : Prop :=
  w.Holds block.baseStart block.otherStart block.length ∧
    Matches xs ys block.baseStart block.otherStart block.length ∧
    ∀ p q n, w.Holds p q n → Matches xs ys p q n → n ≤ block.length

inductive Aligned (xs ys : List α) : Window → List Block → Prop
  | unmatched {w : Window} (valid : w.Valid)
      (unshared : ∀ p q n, w.Holds p q n → Matches xs ys p q n → n = 0) : Aligned xs ys w []
  | split {w : Window} {block : Block} {left right : List Block} (positive : 0 < block.length)
      (longest : Longest xs ys w block) (before : Aligned xs ys (w.before block) left)
      (after : Aligned xs ys (w.after block) right) : Aligned xs ys w (left ++ block :: right)

/-- A position the alignment passes: a corner of the window, or a place in a block. -/
def OnPath (w : Window) (blocks : List Block) (s s' : Nat) : Prop :=
  (s = w.baseFrom ∧ s' = w.otherFrom) ∨ (s = w.baseTo ∧ s' = w.otherTo) ∨
    ∃ block ∈ blocks, ∃ k, k ≤ block.length ∧ s = block.baseStart + k ∧ s' = block.otherStart + k

theorem Aligned.valid (ha : Aligned xs ys w blocks) : w.Valid := by
  cases ha with
  | unmatched hv => exact hv
  | split _ hl =>
    obtain ⟨⟨_, _, _, _⟩, _⟩ := hl
    constructor <;> omega

theorem Aligned.inside (ha : Aligned xs ys w blocks) (hm : block ∈ blocks) :
    w.Holds block.baseStart block.otherStart block.length ∧ 0 < block.length ∧
      Matches xs ys block.baseStart block.otherStart block.length := by
  induction ha with
  | unmatched => exact nomatch hm
  | @split w x l r hp hlo hb haf hl hri =>
    obtain ⟨⟨hf, hle_, hf', hl'⟩, he, _⟩ := hlo
    rcases List.mem_append.mp hm with hle | hr
    · obtain ⟨⟨_, _, _, _⟩, hre⟩ := hl hle
      simp only [Window.before] at *
      exact ⟨⟨by omega, by omega, by omega, by omega⟩, hre⟩
    · rcases List.mem_cons.mp hr with rfl | hr
      · exact ⟨⟨hf, hle_, hf', hl'⟩, hp, he⟩
      · obtain ⟨⟨_, _, _, _⟩, hre⟩ := hri hr
        simp only [Window.after] at *
        exact ⟨⟨by omega, by omega, by omega, by omega⟩, hre⟩

theorem Aligned.sorted (ha : Aligned xs ys w blocks) : blocks.Pairwise fun a b =>
      a.baseStart + a.length ≤ b.baseStart ∧ a.otherStart + a.length ≤ b.otherStart := by
  induction ha with
  | unmatched => exact .nil
  | @split w block l r hp hlo hb haf hl hrd =>
    have hle : ∀ a ∈ l, a.baseStart + a.length ≤ block.baseStart ∧
        a.otherStart + a.length ≤ block.otherStart := fun a hm =>
      have ⟨⟨_, he, _, he'⟩, _⟩ := hb.inside hm
      ⟨he, he'⟩
    have hr : ∀ b ∈ r, block.baseStart + block.length ≤ b.baseStart ∧
        block.otherStart + block.length ≤ b.otherStart := fun b hm =>
      have ⟨⟨hs, _, hs', _⟩, _⟩ := haf.inside hm
      ⟨hs, hs'⟩
    refine List.pairwise_append.mpr ⟨hl, List.pairwise_cons.mpr ⟨hr, hrd⟩, fun a hlt b hri => ?_⟩
    obtain ⟨he, he'⟩ := hle a hlt
    rcases List.mem_cons.mp hri with rfl | hri
    · exact ⟨he, he'⟩
    · obtain ⟨hs, hs'⟩ := hr b hri
      constructor <;> omega

theorem Aligned.onPath_inside (ha : Aligned xs ys w blocks) (on : OnPath w blocks s s') :
    w.baseFrom ≤ s ∧ s ≤ w.baseTo ∧ w.otherFrom ≤ s' ∧ s' ≤ w.otherTo := by
  have ⟨_, _⟩ := ha.valid
  rcases on with ⟨rfl, rfl⟩ | ⟨rfl, rfl⟩ | ⟨block, hm, k, hs, rfl, rfl⟩
  · omega
  · omega
  · obtain ⟨⟨_, _, _, _⟩, _⟩ := ha.inside hm
    omega

/-- A position is left of the block that splits the window, in it, or right of it. -/
theorem onPath_split {l r : List Block} (on : OnPath w (l ++ block :: r) s s') :
    OnPath (w.before block) l s s' ∨
      (∃ k, k ≤ block.length ∧ s = block.baseStart + k ∧ s' = block.otherStart + k) ∨
      OnPath (w.after block) r s s' := by
  rcases on with hs | hst | ⟨o, hm, hp⟩
  · exact .inl (.inl hs)
  · exact .inr (.inr (.inr (.inl hst)))
  · rcases List.mem_append.mp hm with hl | hr
    · exact .inl (.inr (.inr ⟨o, hl, hp⟩))
    · rcases List.mem_cons.mp hr with rfl | hr
      · exact .inr (.inl hp)
      · exact .inr (.inr (.inr (.inr ⟨o, hr, hp⟩)))

/-- Between two positions of the path with equal elements the path stays in one block: a longer
match would have been found first. -/
theorem Aligned.within_block (hal : Aligned xs ys w blocks) (on : OnPath w blocks s s')
    (on' : OnPath w blocks (s + n) (s' + n)) (he : Matches xs ys s s' n) :
    n = 0 ∨ ∃ block ∈ blocks, ∃ k, k + n ≤ block.length ∧ s = block.baseStart + k ∧
      s' = block.otherStart + k := by
  induction hal with
  | @unmatched w hv hu =>
    have ⟨_, _⟩ := hv
    refine .inl ?_
    rcases on with ⟨_, _⟩ | ⟨_, _⟩ | ⟨_, hm, _⟩
    · rcases on' with ⟨_, _⟩ | ⟨_, _⟩ | ⟨_, hm, _⟩
      · omega
      · exact hu s s' n ⟨by omega, by omega, by omega, by omega⟩ he
      · exact nomatch hm
    · rcases on' with ⟨_, _⟩ | ⟨_, _⟩ | ⟨_, hm, _⟩
      · omega
      · omega
      · exact nomatch hm
    · exact nomatch hm
  | @split w block l r hpo hlo hb ha hle hri =>
    obtain ⟨⟨_, _, _, _⟩, hsh, hma⟩ := hlo
    have hi : ∀ k, k + n ≤ block.length → s = block.baseStart + k →
        s' = block.otherStart + k → n = 0 ∨ ∃ o ∈ l ++ block :: r, ∃ k,
          k + n ≤ o.length ∧ s = o.baseStart + k ∧ s' = o.otherStart + k :=
      fun k hf hs hs' => .inr ⟨block, by simp, k, hf, hs, hs'⟩
    rcases onPath_split on with hl | ⟨k, hk, hs, hs'⟩ | hr
    · obtain ⟨_, _, _, _⟩ := hb.onPath_inside hl
      simp only [Window.before] at *
      rcases onPath_split on' with hl' | ⟨j, hj, hen, he'⟩ | hr'
      · rcases hle hl hl' with hn | ⟨o, hm, hp⟩
        · exact .inl hn
        · exact .inr ⟨o, List.mem_append_left _ hm, hp⟩
      · -- the rest of the block continues the match
        have hre : Matches xs ys (s + n) (s' + n) (block.length - j) := by
          rw [hen, he']
          exact hsh.part (by omega)
        have hf := hma s s' (n + (block.length - j))
          ⟨by omega, by omega, by omega, by omega⟩ (he.append hre)
        exact hi 0 (by omega) (by omega) (by omega)
      · obtain ⟨_, _, _, _⟩ := ha.onPath_inside hr'
        simp only [Window.after] at *
        have hf := hma s s' n ⟨by omega, by omega, by omega, by omega⟩ he
        exact hi 0 (by omega) (by omega) (by omega)
    · rcases onPath_split on' with hl' | ⟨j, hj, hen, he'⟩ | hr'
      · obtain ⟨_, _, _, _⟩ := hb.onPath_inside hl'
        simp only [Window.before] at *
        exact .inl (by omega)
      · exact hi k (by omega) hs hs'
      · -- what the block has before the match is continued by it
        obtain ⟨_, _, _, _⟩ := ha.onPath_inside hr'
        simp only [Window.after] at *
        have hfi : Matches xs ys block.baseStart block.otherStart k := by
          have hpa := hsh.part (k := 0) (m := k) (by omega)
          simpa using hpa
        rw [hs, hs'] at he
        have hf := hma block.baseStart block.otherStart (k + n)
          ⟨by omega, by omega, by omega, by omega⟩ (hfi.append he)
        exact hi k hf hs hs'
    · obtain ⟨_, _, _, _⟩ := ha.onPath_inside hr
      simp only [Window.after] at *
      rcases onPath_split on' with hl' | ⟨j, hj, hen, he'⟩ | hr'
      · obtain ⟨_, _, _, _⟩ := hb.onPath_inside hl'
        simp only [Window.before] at *
        exact .inl (by omega)
      · exact .inl (by omega)
      · rcases hri hr hr' with hn | ⟨o, hm, hp⟩
        · exact .inl hn
        · exact .inr ⟨o, by simp [hm], hp⟩

end Alignments
