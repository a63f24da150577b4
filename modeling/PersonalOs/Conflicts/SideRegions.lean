import PersonalOs.Conflicts.Merge

/-!
# The regions of a changed side

The search finds the longest block of a window, the work stack aligns the side with the base, and
the hunks between the blocks tile both.
-/

namespace PersonalOs.Conflicts

open Alignments

variable {baseLines otherLines : List Line} {window : Window}

/-! ## The search -/

/-- `v` is the length of the longest run of the window that ends before the two positions. -/
def LongestRun (baseLines otherLines : List Line) (window : Window) (i j v : Nat) : Prop :=
  window.baseFrom + v ≤ i ∧ window.otherFrom + v ≤ j ∧
    Matches baseLines otherLines (i - v) (j - v) v ∧
    ∀ n, window.baseFrom + n ≤ i → window.otherFrom + n ≤ j →
      Matches baseLines otherLines (i - n) (j - n) n → n ≤ v

/-- The chain after the rows before `i`. -/
def ChainAt (baseLines otherLines : List Line) (window : Window) (i : Nat) (chain : Chain) : Prop :=
  (∀ j, window.otherFrom ≤ j → j < window.otherTo →
    LongestRun baseLines otherLines window i (j + 1) (chain j)) ∧
  ∀ j, j < window.otherFrom ∨ window.otherTo ≤ j → chain j = 0

/-- The best block of the rows before `i`. -/
def BestAt (baseLines otherLines : List Line) (window : Window) (i : Nat) (best : Block) : Prop :=
  window.Holds best.baseStart best.otherStart best.length ∧
    Matches baseLines otherLines best.baseStart best.otherStart best.length ∧
    ∀ p q n, window.Holds p q n → p + n ≤ i → Matches baseLines otherLines p q n →
      n ≤ best.length

namespace SearchLemmas

variable {i j v : Nat} {previousChain : Chain}

variable {line : Line}

theorem mem_otherIndex :
    j ∈ otherIndex otherLines line ↔ otherLines[j]? = some line := by
  rw [otherIndex, List.mem_filter, List.mem_range, decide_eq_true_eq]
  refine ⟨And.right, fun hl => ⟨?_, hl⟩⟩
  obtain ⟨hi, _⟩ := List.getElem?_eq_some_iff.mp hl
  exact hi

theorem otherIndex_sorted (line : Line) : (otherIndex otherLines line).Pairwise (· < ·) :=
  List.Pairwise.filter _ List.pairwise_lt_range

theorem run_start (le : window.baseFrom ≤ i) (ha : j = window.otherFrom) :
    LongestRun baseLines otherLines window i j 0 :=
  ⟨by omega, by omega, .none, fun n _ hf _ => by omega⟩

theorem run_succ (run : LongestRun baseLines otherLines window i j v)
    (hb : baseLines[i]? = some line) (ho : otherLines[j]? = some line) :
    LongestRun baseLines otherLines window (i + 1) (j + 1) (v + 1) := by
  obtain ⟨hf, hf', he, hm⟩ := run
  have hla : Matches baseLines otherLines (i - v + v) (j - v + v) 1 := by
    rw [Nat.sub_add_cancel (by omega), Nat.sub_add_cancel (by omega)]
    intro k hsm
    obtain rfl : k = 0 := by omega
    exact ⟨line, hb, ho⟩
  refine ⟨by omega, by omega, ?_, fun n hsm hs' hl => ?_⟩
  · rw [show i + 1 - (v + 1) = i - v by omega, show j + 1 - (v + 1) = j - v by omega]
    exact he.append hla
  · cases n with
    | zero => exact Nat.zero_le _
    | succ n =>
      rw [show i + 1 - (n + 1) = i - n by omega, show j + 1 - (n + 1) = j - n by omega] at hl
      have hs := hl.part (k := 0) (m := n) (by omega)
      exact Nat.succ_le_succ (hm n (by omega) (by omega) (by simpa using hs))

theorem run_holds (run : LongestRun baseLines otherLines window (i + 1) (j + 1) v)
    (hl : i < window.baseTo) (hl' : j < window.otherTo) :
    window.Holds (i + 1 - v) (j + 1 - v) v := by
  obtain ⟨hf, hf', _⟩ := run
  exact ⟨by omega, by omega, by omega, by omega⟩

theorem run_broken (le : window.baseFrom ≤ i) (le' : window.otherFrom ≤ j)
    (hd : ∀ line, baseLines[i]? = some line → otherLines[j]? ≠ some line) :
    LongestRun baseLines otherLines window (i + 1) (j + 1) 0 := by
  refine ⟨by omega, by omega, .none, fun n hs hs' hl => ?_⟩
  cases n with
  | zero => exact Nat.le_refl _
  | succ n =>
    obtain ⟨line, hb, ho⟩ := hl n (Nat.lt_succ_self n)
    rw [show i + 1 - (n + 1) + n = i by omega] at hb
    rw [show j + 1 - (n + 1) + n = j by omega] at ho
    exact absurd ho (hd line hb)

theorem runLengthAt_longest (hc : ChainAt baseLines otherLines window i previousChain)
    (le : window.baseFrom ≤ i) (hf : window.otherFrom ≤ j) (hl : j < window.otherTo)
    (hb : baseLines[i]? = some line) (ho : otherLines[j]? = some line) :
    LongestRun baseLines otherLines window (i + 1) (j + 1) (runLengthAt previousChain j) := by
  cases j with
  | zero =>
    exact run_succ (run_start le (by omega)) hb ho
  | succ j =>
    refine run_succ ?_ hb ho
    rcases Nat.lt_or_ge j window.otherFrom with hou | hi
    · rw [hc.2 j (.inl hou)]
      exact run_start le (by omega)
    · exact hc.1 j hi (by omega)

theorem record_best {s : Search} {p rl : Nat} {P : Block → Prop} (hb : P s.best)
    (run : P ⟨i + 1 - rl, p + 1 - rl, rl⟩) :
    P (s.record i p rl).best := by
  show P (if _ then _ else _)
  split
  · exact run
  · exact hb

theorem le_record (s : Search) (i p rl : Nat) : s.best.length ≤ (s.record i p rl).best.length ∧
      rl ≤ (s.record i p rl).best.length := by
  show _ ≤ Block.length (if _ then _ else _) ∧ _ ≤ Block.length (if _ then _ else _)
  split
  · next hl => exact ⟨Nat.le_of_lt hl, Nat.le_refl _⟩
  · next hs => exact ⟨Nat.le_refl _, Nat.not_lt.mp hs⟩

/-- What the scan of a row leaves: the runs at the positions of the window, and a best block that
is the one before or one of these runs and shorter than neither. -/
theorem scanPositions_spec (window : Window) (i : Nat) (previousChain : Chain)
    {p : List Nat} (hs : p.Pairwise (· < ·)) (s : Search) {P : Block → Prop} (hb : P s.best)
    (hrs : ∀ j ∈ p, window.otherFrom ≤ j → j < window.otherTo →
      P ⟨i + 1 - runLengthAt previousChain j, j + 1 - runLengthAt previousChain j,
        runLengthAt previousChain j⟩) :
    (∀ j, (scanPositions window i previousChain p s).chain j =
      if j ∈ p ∧ window.otherFrom ≤ j ∧ j < window.otherTo then
        runLengthAt previousChain j
      else s.chain j) ∧
    P (scanPositions window i previousChain p s).best ∧
    s.best.length ≤ (scanPositions window i previousChain p s).best.length ∧
    ∀ j ∈ p, window.otherFrom ≤ j → j < window.otherTo → runLengthAt previousChain j ≤
        (scanPositions window i previousChain p s).best.length := by
  induction p generalizing s with
  | nil =>
    refine ⟨fun j => ?_, hb, Nat.le_refl _, fun j hm => nomatch hm⟩
    rw [if_neg (by simp)]
    rfl
  | cons po p ih =>
    rw [List.pairwise_cons] at hs
    obtain ⟨hft, hs⟩ := hs
    have hla : ∀ j ∈ p, window.otherFrom ≤ j → j < window.otherTo →
        P ⟨i + 1 - runLengthAt previousChain j, j + 1 - runLengthAt previousChain j,
          runLengthAt previousChain j⟩ := fun j hm => hrs j (List.mem_cons_of_mem _ hm)
    unfold scanPositions
    split
    · next ho =>
      obtain ⟨hch, hbt, hg, hc⟩ := ih hs s hb hla
      refine ⟨fun j => ?_, hbt, hg, fun j hm hf hl => ?_⟩
      · rw [hch j]
        refine if_congr ?_ rfl rfl
        rw [List.mem_cons]
        constructor
        · exact fun ⟨hm, hre⟩ => ⟨.inr hm, hre⟩
        · rintro ⟨rfl | hm, hf, hl⟩
          · omega
          · exact ⟨hm, hf, hl⟩
      · rcases List.mem_cons.mp hm with rfl | hm
        · omega
        · exact hc j hm hf hl
    · next hin =>
      split
      · next hbe =>
        -- the positions ascend, so none of the rest is in the window
        have hn : ∀ j ∈ po :: p, window.otherTo ≤ j := by
          intro j hm
          rcases List.mem_cons.mp hm with rfl | hm
          · exact hbe
          · exact Nat.le_of_lt (Nat.lt_of_le_of_lt hbe (hft j hm))
        refine ⟨fun j => ?_, hb, Nat.le_refl _, fun j hm _ hl => ?_⟩
        · rw [if_neg]
          rintro ⟨hm, _, hl⟩
          exact absurd hl (Nat.not_lt.mpr (hn j hm))
        · exact absurd hl (Nat.not_lt.mpr (hn j hm))
      · next hbw =>
        have hru := hrs po List.mem_cons_self (by omega) (by omega)
        obtain ⟨hch, hbt, hg, hc⟩ := ih hs (s.record i po (runLengthAt previousChain po))
          (record_best hb hru) hla
        obtain ⟨hgr, hr⟩ := le_record s i po (runLengthAt previousChain po)
        refine ⟨fun j => ?_, hbt, Nat.le_trans hgr hg, fun j hm hf hl => ?_⟩
        · rw [hch j]
          by_cases hfi : j = po
          · have hon : po ∉ p := fun ha =>
              absurd (hft po ha) (Nat.lt_irrefl po)
            rw [hfi, if_neg fun hi => hon hi.1, if_pos ⟨List.mem_cons_self, by omega, by omega⟩]
            exact Function.update_self _ _ _
          · refine if_congr ?_ rfl (Function.update_of_ne hfi _ _)
            rw [List.mem_cons]
            simp [hfi]
        · rcases List.mem_cons.mp hm with rfl | hm
          · exact Nat.le_trans hr hg
          · exact hc j hm hf hl

theorem scanRow_spec {s : Search} (hf : window.baseFrom ≤ i) (hlt : i < window.baseTo)
    (hc : ChainAt baseLines otherLines window i s.chain)
    (hbt : BestAt baseLines otherLines window i s.best) :
    ChainAt baseLines otherLines window (i + 1)
        (scanRow baseLines window (otherIndex otherLines) s i).chain ∧
      BestAt baseLines otherLines window (i + 1)
        (scanRow baseLines window (otherIndex otherLines) s i).best := by
  obtain ⟨hh, hs, hma⟩ := hbt
  unfold scanRow
  split
  · next hbd =>
    -- past the end of the base nothing matches
    refine ⟨⟨fun j hi _ => run_broken hf hi fun line hb => ?_, fun _ _ => rfl⟩,
      hh, hs, fun p q n hfi hsm hm => ?_⟩
    · exact nomatch hbd.symm.trans hb
    · rcases Nat.lt_or_ge i (p + n) with hla | he
      · cases n with
        | zero => exact Nat.zero_le _
        | succ n =>
          obtain ⟨line, hb, _⟩ := hm n (Nat.lt_succ_self n)
          rw [show p + n = i by omega, hbd] at hb
          exact nomatch hb
      · exact hma p q n hfi he hm
  · next line hb =>
    have hl : ∀ j ∈ otherIndex otherLines line, window.otherFrom ≤ j → j < window.otherTo →
        LongestRun baseLines otherLines window (i + 1) (j + 1) (runLengthAt s.chain j) :=
      fun j hme hi hbe => runLengthAt_longest hc hf hi hbe hb
        (mem_otherIndex.mp hme)
    let ib := fun b : Block => window.Holds b.baseStart b.otherStart b.length ∧
      Matches baseLines otherLines b.baseStart b.otherStart b.length
    obtain ⟨hch, best, hg, hco⟩ :=
      scanPositions_spec window i s.chain (otherIndex_sorted line) ⟨s.best, fun _ => 0⟩
        (P := ib) ⟨hh, hs⟩ fun j hme hi hbe =>
          have run := hl j hme hi hbe
          ⟨run_holds run hlt hbe, run.2.2.1⟩
    refine ⟨⟨fun j hi hbe => ?_, fun j hou => ?_⟩, best.1, best.2,
      fun p q n hfi hsm hm => ?_⟩
    · rw [hch j]
      split
      · next hfo => exact hl j hfo.1 hi hbe
      · next hmi =>
        refine run_broken hf hi fun ot hb' ho => hmi ⟨?_, hi, hbe⟩
        cases hb.symm.trans hb'
        exact mem_otherIndex.mpr ho
    · rw [hch j, if_neg (by omega)]
    · rcases Nat.lt_or_ge i (p + n) with hla | he
      · cases n with
        | zero => exact Nat.zero_le _
        | succ n =>
          obtain ⟨_, _, _, _⟩ := hfi
          obtain ⟨ot, hb', ho⟩ := hm n (Nat.lt_succ_self n)
          rw [show p + n = i by omega] at hb'
          cases hb.symm.trans hb'
          have hme := mem_otherIndex.mpr ho
          have run := hl (q + n) hme (by omega) (by omega)
          have hr := hco (q + n) hme (by omega) (by omega)
          refine Nat.le_trans (run.2.2.2 (n + 1) (by omega) (by omega) ?_) hr
          rw [show i + 1 - (n + 1) = p by omega, show q + n + 1 - (n + 1) = q by omega]
          exact hm
      · exact Nat.le_trans (hma p q n hfi he hm) hg

theorem search_start (baseLines otherLines : List Line) (hv : window.Valid) :
    ChainAt baseLines otherLines window window.baseFrom (fun _ => 0) ∧
      BestAt baseLines otherLines window window.baseFrom
        ⟨window.baseFrom, window.otherFrom, 0⟩ := by
  obtain ⟨le, le'⟩ := hv
  have hn : ∀ j, window.otherFrom ≤ j →
      LongestRun baseLines otherLines window window.baseFrom (j + 1) 0 := fun j hi =>
    ⟨Nat.le_refl _, by omega, .none, fun n hf _ _ => by omega⟩
  refine ⟨⟨fun j hi _ => hn j hi, fun _ _ => rfl⟩,
    ⟨Nat.le_refl _, le, Nat.le_refl _, le'⟩, .none, fun p q n hf hs _ => ?_⟩
  obtain ⟨hfr, _⟩ := hf
  exact Nat.le_of_add_le_add_left (Nat.le_trans hs (by omega : window.baseFrom ≤ p + 0))

theorem scanRows_spec (baseLines otherLines : List Line) (hv : window.Valid) {k : Nat} (hw : window.baseFrom + k ≤ window.baseTo) :
    let s := (List.range' window.baseFrom k).foldl
      (scanRow baseLines window (otherIndex otherLines))
      ⟨⟨window.baseFrom, window.otherFrom, 0⟩, fun _ => 0⟩
    ChainAt baseLines otherLines window (window.baseFrom + k) s.chain ∧
      BestAt baseLines otherLines window (window.baseFrom + k) s.best := by
  induction k with
  | zero =>
    exact search_start baseLines otherLines hv
  | succ k ih =>
    obtain ⟨hc, hb⟩ := ih (by omega)
    rw [List.range'_1_concat, List.foldl_append]
    exact scanRow_spec (Nat.le_add_right _ _) hw hc hb

end SearchLemmas

open SearchLemmas in
theorem longestMatchingBlock_longest (baseLines otherLines : List Line) (hv : window.Valid) :
    Longest baseLines otherLines window
      (longestMatchingBlock baseLines window (otherIndex otherLines)) := by
  have hr : window.baseFrom + (window.baseTo - window.baseFrom) = window.baseTo :=
    Nat.add_sub_cancel' hv.1
  obtain ⟨_, hh, he, hma⟩ := scanRows_spec baseLines otherLines hv (Nat.le_of_eq hr)
  refine ⟨hh, he, fun p q n hf hm => hma p q n hf ?_ hm⟩
  rw [hr]
  exact hf.2.1

/-! ## The work stack -/

def rounds (queue : List Window) : Nat :=
  (queue.map fun window => 2 * (window.baseTo - window.baseFrom) + 1).sum

namespace StackLemmas

variable {block : Block} {queue : List Window}

theorem aligned_empty (hv : window.Valid)
    (he : window.baseTo ≤ window.baseFrom ∨ window.otherTo ≤ window.otherFrom) :
    Aligned baseLines otherLines window [] := by
  refine .unmatched hv fun p q n hf _ => ?_
  obtain ⟨_, _, _, _⟩ := hf
  omega

theorem valid_before (hh : window.Holds block.baseStart block.otherStart block.length) :
    (window.before block).Valid :=
  ⟨hh.1, hh.2.2.1⟩

theorem valid_after (hh : window.Holds block.baseStart block.otherStart block.length) :
    (window.after block).Valid :=
  ⟨hh.2.1, hh.2.2.2⟩

theorem rounds_pushWindow (hl : Bool) (window : Window) (queue : List Window) :
    rounds (pushWindow hl window queue) ≤ rounds (window :: queue) := by
  cases hl
  · exact Nat.le_add_left _ _
  · exact Nat.le_refl _

theorem rounds_push (hh : window.Holds block.baseStart block.otherStart block.length)
    (hp : 0 < block.length) :
    rounds (pushWindows window block queue) < rounds (window :: queue) := by
  obtain ⟨_, _, _, _⟩ := hh
  have hr := rounds_pushWindow (block.baseStart + block.length < window.baseTo ||
      block.otherStart + block.length < window.otherTo) (window.after block)
    (pushWindow (window.baseFrom < block.baseStart || window.otherFrom < block.otherStart)
      (window.before block) queue)
  have hl := rounds_pushWindow
    (window.baseFrom < block.baseStart || window.otherFrom < block.otherStart)
    (window.before block) queue
  simp only [rounds, List.map_cons, List.sum_cons, Window.before, Window.after] at hl hr ⊢
  unfold pushWindows
  simp only [Window.before, Window.after]
  omega

theorem valid_pushWindow {hl : Bool} (hv : window.Valid)
    (hva : ∀ w ∈ queue, w.Valid) : ∀ w ∈ pushWindow hl window queue, w.Valid := by
  cases hl
  · exact hva
  · exact List.forall_mem_cons.mpr ⟨hv, hva⟩

theorem aligned_pushWindow {hl : Bool} {p : List (List Block)}
    (he : hl = false → Aligned baseLines otherLines window [])
    (ha : List.Forall₂ (Aligned baseLines otherLines) (pushWindow hl window queue) p) :
    ∃ pa r, Aligned baseLines otherLines window pa ∧
      List.Forall₂ (Aligned baseLines otherLines) queue r ∧
      p.flatten = pa ++ r.flatten := by
  cases hl with
  | false => exact ⟨[], p, he rfl, ha, rfl⟩
  | true =>
    obtain ⟨pa, r, hp, hr, rfl⟩ := List.forall₂_cons_left_iff.mp ha
    exact ⟨pa, r, hp, hr, rfl⟩

theorem aligned_push (hh : window.Holds block.baseStart block.otherStart block.length)
    {p : List (List Block)}
    (ha : List.Forall₂ (Aligned baseLines otherLines) (pushWindows window block queue) p) :
    ∃ l r rs, Aligned baseLines otherLines (window.before block) l ∧
      Aligned baseLines otherLines (window.after block) r ∧
      List.Forall₂ (Aligned baseLines otherLines) queue rs ∧
      p.flatten = r ++ (l ++ rs.flatten) := by
  obtain ⟨r, p', hr, ha, hj⟩ := aligned_pushWindow
    (fun hn => aligned_empty (valid_after hh) (.inl (by
      simp only [Bool.or_eq_false_iff, decide_eq_false_iff_not] at hn
      exact Nat.not_lt.mp hn.1))) ha
  obtain ⟨l, rs, hl, ha, hj'⟩ := aligned_pushWindow
    (fun hn => aligned_empty (valid_before hh) (.inl (by
      simp only [Bool.or_eq_false_iff, decide_eq_false_iff_not] at hn
      exact Nat.not_lt.mp hn.1))) ha
  exact ⟨l, r, rs, hl, hr, ha, by rw [hj, hj']⟩

theorem stableBlocks_spec (baseLines otherLines : List Line) (f : Nat) (queue : List Window)
    (blocks : List Block) (he : rounds queue ≤ f) (hv : ∀ w ∈ queue, w.Valid) :
    ∃ pa, List.Forall₂ (Aligned baseLines otherLines) queue pa ∧
      (stableBlocks baseLines (otherIndex otherLines) f queue blocks).Perm
        (blocks ++ pa.flatten) := by
  induction f generalizing queue blocks with
  | zero =>
    cases queue with
    | nil => exact ⟨[], .nil, by simp [stableBlocks]⟩
    | cons window queue =>
      simp only [rounds, List.map_cons, List.sum_cons] at he
      omega
  | succ f ih =>
    cases queue with
    | nil => exact ⟨[], .nil, by simp [stableBlocks]⟩
    | cons window queue =>
      rw [List.forall_mem_cons] at hv
      have hl := longestMatchingBlock_longest baseLines otherLines hv.1
      unfold stableBlocks
      simp only
      split
      · next hn =>
        have hf : rounds queue ≤ f := by
          simp only [rounds, List.map_cons, List.sum_cons] at he ⊢
          omega
        obtain ⟨pa, ha, hpe⟩ := ih queue blocks hf hv.2
        refine ⟨[] :: pa, .cons (.unmatched hv.1 fun p q n hfi hm => ?_) ha, hpe⟩
        have hsm := hl.2.2 p q n hfi hm
        omega
      · next hs =>
        have hp := Nat.pos_of_ne_zero hs
        have hf := Nat.le_of_lt_succ (Nat.lt_of_lt_of_le (rounds_push hl.1 hp) he)
        obtain ⟨pa, ha, hpe⟩ := ih _ _ hf (valid_pushWindow (valid_after hl.1)
            (valid_pushWindow (valid_before hl.1) hv.2))
        obtain ⟨l, r, rs, hle, hr, hre, hj⟩ := aligned_push hl.1 ha
        refine ⟨_, .cons (.split hp hl hle hr) hre, hpe.trans ?_⟩
        rw [hj, List.flatten_cons, List.append_assoc, List.append_assoc]
        refine List.Perm.append_left blocks ?_
        rw [List.singleton_append, List.cons_append]
        refine (List.Perm.cons _ ?_).trans List.perm_middle.symm
        rw [← List.append_assoc, ← List.append_assoc]
        exact List.Perm.append_right _ List.perm_append_comm

end StackLemmas

open StackLemmas in
theorem stableBlocks_aligned (baseLines otherLines : List Line) :
    Aligned baseLines otherLines ⟨0, baseLines.length, 0, otherLines.length⟩
      ((stableBlocks baseLines (otherIndex otherLines) (2 * baseLines.length + 1)
        [⟨0, baseLines.length, 0, otherLines.length⟩] []).insertionSort
          fun l r => l.baseStart ≤ r.baseStart) := by
  obtain ⟨pa, ha, hpe⟩ := stableBlocks_spec baseLines otherLines
    (2 * baseLines.length + 1) [⟨0, baseLines.length, 0, otherLines.length⟩] [] (Nat.le_refl _)
    fun w hm => by
      rw [List.mem_singleton.mp hm]
      exact ⟨Nat.zero_le _, Nat.zero_le _⟩
  obtain ⟨p, rs, hp, hre, rfl⟩ := List.forall₂_cons_left_iff.mp ha
  cases hre
  rw [List.nil_append, List.flatten_cons, List.flatten_nil, List.append_nil] at hpe
  have hst : p.Pairwise fun l r => l.baseStart ≤ r.baseStart :=
    hp.sorted.imp fun he => Nat.le_trans (Nat.le_add_right _ _) he.1
  -- no two blocks have one start, so there is one sorted order of them
  have hap : (p.map Block.baseStart).Nodup := by
    refine List.pairwise_map.mpr (hp.sorted.imp_of_mem fun hl _ he hsa => ?_)
    have hpo := (hp.inside hl).2.1
    omega
  have hs := (List.perm_insertionSort (fun l r : Block => l.baseStart ≤ r.baseStart) _).trans hpe
  rw [hs.eq_of_pairwise (fun l r hl hr le le' => ?_)
    (List.pairwise_insertionSort (fun l r : Block => l.baseStart ≤ r.baseStart) _)
    hst]
  · exact hp
  · exact List.inj_on_of_nodup_map hap (hs.mem_iff.mp hl) hr (Nat.le_antisymm le le')

/-! ## The hunks -/

/-- The hunks of a side tile base and side from two positions on: up to the first hunk they agree
along the path, and from its end the rest tiles. -/
def Tiles (baseLines otherLines : List Line) (path : Nat → Nat → Prop) :
    Nat → Nat → List SideHunk → Prop
  | b, o, [] =>
    ∃ n, b + n = baseLines.length ∧ o + n = otherLines.length ∧ Matches baseLines otherLines b o n ∧
      ∀ k ≤ n, path (b + k) (o + k)
  | b, o, hunk :: hunks =>
    (∃ n, hunk.baseStart = b + n ∧ hunk.otherStart = o + n ∧ Matches baseLines otherLines b o n ∧
      ∀ k ≤ n, path (b + k) (o + k)) ∧
    hunk.baseStart ≤ hunk.baseEnd ∧ hunk.baseEnd ≤ baseLines.length ∧
    hunk.otherStart ≤ hunk.otherEnd ∧ hunk.otherEnd ≤ otherLines.length ∧
    Tiles baseLines otherLines path hunk.baseEnd hunk.otherEnd hunks

/-- No equal ranges of base and side between two positions of the path hold the hunk. -/
def Tight (baseLines otherLines : List Line) (path : Nat → Nat → Prop) (hunk : SideHunk) : Prop :=
  ∀ b o n, path b o → path (b + n) (o + n) → Matches baseLines otherLines b o n →
    b ≤ hunk.baseStart → hunk.baseEnd ≤ b + n → o ≤ hunk.otherStart → ¬ hunk.otherEnd ≤ o + n

namespace HunkLemmas

variable {path : Nat → Nat → Prop} {b o n : Nat} {hunks : List SideHunk} {blocks : List Block}

theorem Tiles.extend (hs : Matches baseLines otherLines b o n) (hp : ∀ k ≤ n, path (b + k) (o + k))
    (ht : Tiles baseLines otherLines path (b + n) (o + n) hunks) :
    Tiles baseLines otherLines path b o hunks := by
  have hj : ∀ m, (∀ k ≤ m, path (b + n + k) (o + n + k)) → ∀ k ≤ n + m, path (b + k) (o + k) := by
    intro m hp' k hsm
    rcases Nat.lt_or_ge k n with he | hla
    · exact hp k (Nat.le_of_lt he)
    · have hl := hp' (k - n) (by omega)
      rwa [show b + n + (k - n) = b + k by omega, show o + n + (k - n) = o + k by omega] at hl
  cases hunks with
  | nil =>
    obtain ⟨m, hen, hen', he', hp'⟩ := ht
    exact ⟨n + m, by omega, by omega, hs.append he', hj m hp'⟩
  | cons h hunks =>
    obtain ⟨⟨m, hst, hs', he', hp'⟩, hr⟩ := ht
    exact ⟨⟨n + m, by omega, by omega, hs.append he', hj m hp'⟩, hr⟩

theorem unstableHunksOf_append (be a : List SideRegion) :
    unstableHunksOf (be ++ a) = unstableHunksOf be ++ unstableHunksOf a := by
  rw [unstableHunksOf, List.filter_append, List.map_append]
  rfl

def gapHunk (b o : Nat) (block : Block) : List SideHunk :=
  if b < block.baseStart ∨ o < block.otherStart then
    [⟨b, block.baseStart, o, block.otherStart⟩]
  else []

theorem hunks_cons (bl ol b o : Nat) (block : Block) (blocks : List Block) :
    unstableHunksOf (regionsFrom bl ol b o (block :: blocks)) =
      gapHunk b o block ++ unstableHunksOf (regionsFrom bl ol
        (block.baseStart + block.length) (block.otherStart + block.length) blocks) := by
  rw [regionsFrom, unstableHunksOf_append]
  congr 1
  unfold gapHunk
  split <;> rfl

/-- The blocks still to come, in the order of both sides from two positions on. -/
def Ahead (baseLines otherLines : List Line) (path : Nat → Nat → Prop) (b o : Nat)
    (blocks : List Block) : Prop :=
  (blocks.Pairwise fun left right => left.baseStart + left.length ≤ right.baseStart ∧
    left.otherStart + left.length ≤ right.otherStart) ∧
  ∀ block ∈ blocks, b ≤ block.baseStart ∧ o ≤ block.otherStart ∧ 0 < block.length ∧
    block.baseStart + block.length ≤ baseLines.length ∧
    block.otherStart + block.length ≤ otherLines.length ∧
    Matches baseLines otherLines block.baseStart block.otherStart block.length ∧
    ∀ k ≤ block.length, path (block.baseStart + k) (block.otherStart + k)

theorem Ahead.tail {block : Block} (ha : Ahead baseLines otherLines path b o (block :: blocks)) :
    Ahead baseLines otherLines path (block.baseStart + block.length)
      (block.otherStart + block.length) blocks := by
  obtain ⟨hs, hf⟩ := ha
  rw [List.pairwise_cons] at hs
  exact ⟨hs.2, fun l hm =>
    have ⟨hst, hs'⟩ := hs.1 l hm
    ⟨hst, hs', (hf l (List.mem_cons_of_mem _ hm)).2.2⟩⟩

theorem tiles_of_blocks (ha : Ahead baseLines otherLines path b o blocks)
    (hw : b ≤ baseLines.length) (hw' : o ≤ otherLines.length) (hst : path b o)
    (hsp : path baseLines.length otherLines.length) :
    Tiles baseLines otherLines path b o
      (unstableHunksOf (regionsFrom baseLines.length otherLines.length b o blocks)) := by
  induction blocks generalizing b o with
  | nil =>
    have hh : ∀ k ≤ 0, path (b + k) (o + k) := fun k hs => by
      rw [Nat.le_zero.mp hs]
      exact hst
    unfold regionsFrom
    split
    · refine ⟨⟨0, rfl, rfl, .none, hh⟩, hw, Nat.le_refl _, hw', Nat.le_refl _, 0, rfl, rfl,
        .none, fun k hs => ?_⟩
      rw [Nat.le_zero.mp hs]
      exact hsp
    · exact ⟨0, by omega, by omega, .none, hh⟩
  | cons block blocks ih =>
    obtain ⟨hss, hs', hpo, he, he', hsa, hp⟩ := ha.2 block List.mem_cons_self
    have hr : Tiles baseLines otherLines path block.baseStart block.otherStart
        (unstableHunksOf (regionsFrom baseLines.length otherLines.length
          (block.baseStart + block.length) (block.otherStart + block.length) blocks)) :=
      Tiles.extend hsa hp (ih ha.tail he he' (hp _ (Nat.le_refl _)))
    rw [hunks_cons]
    unfold gapHunk
    split
    · refine ⟨⟨0, rfl, rfl, .none, fun k hs => ?_⟩, hss,
        Nat.le_trans (Nat.le_add_right _ _) he, hs',
        Nat.le_trans (Nat.le_add_right _ _) he', hr⟩
      rw [Nat.le_zero.mp hs]
      exact hst
    · rw [List.nil_append, show b = block.baseStart by omega, show o = block.otherStart by omega]
      exact hr

/-- A hunk holds a line of base or side, and each block ends before it or starts after it. -/
def Apart (hunk : SideHunk) (blocks : List Block) : Prop :=
  (hunk.baseStart < hunk.baseEnd ∨ hunk.otherStart < hunk.otherEnd) ∧
  ∀ block ∈ blocks,
    (hunk.baseEnd ≤ block.baseStart ∧ hunk.otherEnd ≤ block.otherStart) ∨
    (block.baseStart + block.length ≤ hunk.baseStart ∧
      block.otherStart + block.length ≤ hunk.otherStart)

theorem apart_of_blocks (ha : Ahead baseLines otherLines path b o blocks) :
    ∀ h ∈ unstableHunksOf (regionsFrom baseLines.length otherLines.length b o blocks),
      b ≤ h.baseStart ∧ o ≤ h.otherStart ∧ Apart h blocks := by
  induction blocks generalizing b o with
  | nil =>
    intro h hm
    unfold regionsFrom at hm
    split at hm
    · next hs =>
      rw [List.mem_singleton.mp hm]
      exact ⟨Nat.le_refl _, Nat.le_refl _, hs, fun _ hno => nomatch hno⟩
    · exact nomatch hm
  | cons block blocks ih =>
    obtain ⟨hst, hst', hp, _⟩ := ha.2 block List.mem_cons_self
    intro h hm
    rw [hunks_cons, List.mem_append] at hm
    rcases hm with gap | hl
    · unfold gapHunk at gap
      split at gap
      · next hs =>
        rw [List.mem_singleton.mp gap]
        refine ⟨Nat.le_refl _, Nat.le_refl _, hs, fun ot hm => .inl ?_⟩
        rcases List.mem_cons.mp hm with rfl | hm
        · exact ⟨Nat.le_refl _, Nat.le_refl _⟩
        · obtain ⟨hso, hs'⟩ := (List.pairwise_cons.mp ha.1).1 ot hm
          constructor
          · show block.baseStart ≤ ot.baseStart
            omega
          · show block.otherStart ≤ ot.otherStart
            omega
      · exact nomatch gap
    · obtain ⟨hf, hf', hn, hap⟩ := ih ha.tail h hl
      refine ⟨by omega, by omega, hn, fun ot hm => ?_⟩
      rcases List.mem_cons.mp hm with rfl | hm
      · exact .inr ⟨hf, hf'⟩
      · exact hap ot hm

theorem sorted_of_blocks (ha : Ahead baseLines otherLines path b o blocks) :
    (unstableHunksOf (regionsFrom baseLines.length otherLines.length b o blocks)).Pairwise
      fun l r => l.baseStart < r.baseStart := by
  induction blocks generalizing b o with
  | nil =>
    unfold regionsFrom
    split
    · exact List.pairwise_singleton _ _
    · exact .nil
  | cons block blocks ih =>
    obtain ⟨hs, _, hp, _⟩ := ha.2 block List.mem_cons_self
    rw [hunks_cons]
    refine List.pairwise_append.mpr ⟨?_, ih ha.tail, fun l hg r hl => ?_⟩
    · unfold gapHunk
      split
      · exact List.pairwise_singleton _ _
      · exact .nil
    · have haf := (apart_of_blocks ha.tail r hl).1
      unfold gapHunk at hg
      split at hg
      · rw [List.mem_singleton.mp hg]
        show b < r.baseStart
        omega
      · exact nomatch hg

end HunkLemmas

def sideBlocks (baseLines otherLines : List Line) : List Block :=
  (stableBlocks baseLines (otherIndex otherLines) (2 * baseLines.length + 1)
    [⟨0, baseLines.length, 0, otherLines.length⟩] []).insertionSort
      fun left right => left.baseStart ≤ right.baseStart

/-- The positions the alignment of a side passes. -/
def sidePath (baseLines otherLines : List Line) : Nat → Nat → Prop :=
  OnPath ⟨0, baseLines.length, 0, otherLines.length⟩ (sideBlocks baseLines otherLines)

def sideHunks (baseLines otherLines : List Line) : List SideHunk :=
  unstableHunksOf (computeSideRegions baseLines otherLines)

open HunkLemmas in
theorem sideBlocks_ahead (baseLines otherLines : List Line) :
    Ahead baseLines otherLines (sidePath baseLines otherLines) 0 0
      (sideBlocks baseLines otherLines) := by
  have ha : Aligned baseLines otherLines _ (sideBlocks baseLines otherLines) :=
    stableBlocks_aligned baseLines otherLines
  refine ⟨ha.sorted, fun block hm => ?_⟩
  obtain ⟨⟨hs, he, hs', he'⟩, hp, hsa⟩ := ha.inside hm
  exact ⟨hs, hs', hp, he, he', hsa, fun k hsm =>
    .inr (.inr ⟨block, hm, k, hsm, rfl, rfl⟩)⟩

open HunkLemmas in
theorem computeSideRegions_tiles (baseLines otherLines : List Line) :
    Tiles baseLines otherLines (sidePath baseLines otherLines) 0 0
      (sideHunks baseLines otherLines) :=
  tiles_of_blocks (sideBlocks_ahead baseLines otherLines) (Nat.zero_le _) (Nat.zero_le _)
    (.inl ⟨rfl, rfl⟩) (.inr (.inl ⟨rfl, rfl⟩))

open HunkLemmas in
theorem sideHunks_sorted (baseLines otherLines : List Line) :
    (sideHunks baseLines otherLines).Pairwise fun l r => l.baseStart < r.baseStart :=
  sorted_of_blocks (sideBlocks_ahead baseLines otherLines)

open HunkLemmas in
theorem computeSideRegions_tight (baseLines otherLines : List Line) :
    ∀ h ∈ sideHunks baseLines otherLines,
      Tight baseLines otherLines (sidePath baseLines otherLines) h := by
  intro h hm b o n hs hst he hf hl hf' hl'
  obtain ⟨_, _, hn, hap⟩ := apart_of_blocks (sideBlocks_ahead baseLines otherLines) h hm
  have ha : Aligned baseLines otherLines _ (sideBlocks baseLines otherLines) :=
    stableBlocks_aligned baseLines otherLines
  rcases ha.within_block hs hst he with hno | ⟨block, hb, k, hfi, hat, hat'⟩
  · omega
  · rcases hap block hb with ⟨hbe, hb'⟩ | ⟨haf, ha'⟩ <;> omega

end PersonalOs.Conflicts
