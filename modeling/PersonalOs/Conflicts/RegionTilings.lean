import PersonalOs.Conflicts.SideRegions

/-!
# The regions of one side

`computeSideRegions` cuts base and side into regions that are matched and unmatched in turn. Its
work stack runs empty, whatever the lines.
-/

namespace PersonalOs.Conflicts

open Alignments HunkLemmas StackLemmas

variable {baseLines otherLines : List Line}

/-! ## The work stack -/

/-- Rounds of the work stack until it is empty, and the blocks found by then. -/
inductive StackRun (baseLines otherLines : List Line) :
    Nat → List Window → List Block → List Block → Prop
  | empty {bs : List Block} : StackRun baseLines otherLines 0 [] bs bs
  | unmatched {n : Nat} {w : Window} {q : List Window} {bs found : List Block}
      (none : (longestMatchingBlock baseLines w (otherIndex otherLines)).length = 0)
      (rest : StackRun baseLines otherLines n q bs found) :
      StackRun baseLines otherLines (n + 1) (w :: q) bs found
  | matched {n : Nat} {w : Window} {q : List Window} {b : Block} {bs found : List Block}
      (isBlock : longestMatchingBlock baseLines w (otherIndex otherLines) = b)
      (some : b.length ≠ 0)
      (rest : StackRun baseLines otherLines n (pushWindows w b q) (bs ++ [b]) found) :
      StackRun baseLines otherLines (n + 1) (w :: q) bs found

theorem stackRun_of_rounds (baseLines otherLines : List Line) (fuel : Nat) (q : List Window)
    (bs : List Block) (enough : rounds q ≤ fuel) (valid : ∀ w ∈ q, w.Valid) :
    ∃ n ≤ fuel, StackRun baseLines otherLines n q bs
      (stableBlocks baseLines (otherIndex otherLines) fuel q bs) := by
  induction fuel generalizing q bs with
  | zero =>
    cases q with
    | nil => exact ⟨0, Nat.le_refl _, .empty⟩
    | cons w q =>
      simp only [rounds, List.map_cons, List.sum_cons] at enough
      omega
  | succ fuel ih =>
    cases q with
    | nil => exact ⟨0, Nat.zero_le _, .empty⟩
    | cons w q =>
      rw [List.forall_mem_cons] at valid
      have longest := longestMatchingBlock_longest baseLines otherLines valid.1
      unfold stableBlocks
      simp only
      split
      · next none =>
        have fewer : rounds q ≤ fuel := by
          simp only [rounds, List.map_cons, List.sum_cons] at enough ⊢
          omega
        obtain ⟨n, le, run⟩ := ih q bs fewer valid.2
        exact ⟨n + 1, Nat.succ_le_succ le, .unmatched none run⟩
      · next some =>
        have fewer := Nat.le_of_lt_succ
          (Nat.lt_of_lt_of_le (rounds_push longest.1 (Nat.pos_of_ne_zero some)) enough)
        obtain ⟨n, le, run⟩ := ih _ _ fewer (valid_pushWindow (valid_after longest.1)
          (valid_pushWindow (valid_before longest.1) valid.2))
        exact ⟨n + 1, Nat.succ_le_succ le, .matched rfl some run⟩

theorem stackRun_stableBlocks (baseLines otherLines : List Line) :
    ∃ n ≤ 2 * baseLines.length + 1, StackRun baseLines otherLines n
      [⟨0, baseLines.length, 0, otherLines.length⟩] []
      (stableBlocks baseLines (otherIndex otherLines) (2 * baseLines.length + 1)
        [⟨0, baseLines.length, 0, otherLines.length⟩] []) :=
  stackRun_of_rounds baseLines otherLines _ _ _ (Nat.le_refl _) fun w hw => by
    rw [List.mem_singleton.mp hw]
    exact ⟨Nat.zero_le _, Nat.zero_le _⟩

/-! ## The blocks -/

/-- A block does not go on where the one before it ends: together they would be longer. -/
theorem apart_of_aligned {w : Window} {a c : Block} {before after : List Block}
    (aligned : Aligned baseLines otherLines w (before ++ a :: c :: after)) :
    a.baseStart + a.length < c.baseStart ∨ a.otherStart + a.length < c.otherStart := by
  by_contra touch
  have ma : a ∈ before ++ a :: c :: after := by simp
  have mc : c ∈ before ++ a :: c :: after := by simp
  obtain ⟨_, pa, sa⟩ := aligned.inside ma
  obtain ⟨_, pc, sc⟩ := aligned.inside mc
  have sorted := aligned.sorted
  obtain ⟨_, tail, sides⟩ := List.pairwise_append.mp sorted
  obtain ⟨next, tail⟩ := List.pairwise_cons.mp tail
  have here := next c List.mem_cons_self
  have hb : a.baseStart + a.length = c.baseStart := by omega
  have ho : a.otherStart + a.length = c.otherStart := by omega
  have both : Matches baseLines otherLines a.baseStart a.otherStart (a.length + c.length) :=
    sa.append (by rwa [hb, ho])
  have start : OnPath w (before ++ a :: c :: after) a.baseStart a.otherStart :=
    .inr (.inr ⟨a, ma, 0, Nat.zero_le _, rfl, rfl⟩)
  have stop : OnPath w (before ++ a :: c :: after) (a.baseStart + (a.length + c.length))
      (a.otherStart + (a.length + c.length)) :=
    .inr (.inr ⟨c, mc, c.length, Nat.le_refl _, by omega, by omega⟩)
  rcases aligned.within_block start stop both with none | ⟨d, md, k, fits, atk, _⟩
  · omega
  · rcases List.mem_append.mp md with early | late
    · have ends := (sides d early a List.mem_cons_self).1
      omega
    · rcases List.mem_cons.mp late with rfl | late
      · omega
      · have starts := (next d late).1
        omega

theorem blocks_apart (baseLines otherLines : List Line) :
    (sideBlocks baseLines otherLines).IsChain fun a c =>
      a.baseStart + a.length < c.baseStart ∨ a.otherStart + a.length < c.otherStart := by
  have aligned : Aligned baseLines otherLines _ (sideBlocks baseLines otherLines) :=
    stableBlocks_aligned baseLines otherLines
  refine List.isChain_iff_forall_rel_of_append_cons_cons.mpr fun {a c before after} is => ?_
  rw [is] at aligned
  exact apart_of_aligned aligned

/-! ## The regions -/

/-- The regions cover base and side from two positions to two others, in order. -/
def RegionsTile : List SideRegion → Nat → Nat → Nat → Nat → Prop
  | [], b, o, b', o' => b = b' ∧ o = o'
  | r :: rs, b, o, b', o' =>
    r.baseStart = b ∧ r.otherStart = o ∧ r.baseStart ≤ r.baseEnd ∧ r.otherStart ≤ r.otherEnd ∧
      RegionsTile rs r.baseEnd r.otherEnd b' o'

/-- A matched region holds lines, equal on both sides; an unmatched one a line of either side. -/
def RegionSound (baseLines otherLines : List Line) (r : SideRegion) : Prop :=
  if r.isStable then
    r.baseStart < r.baseEnd ∧ r.baseEnd - r.baseStart = r.otherEnd - r.otherStart ∧
      slice baseLines r.baseStart r.baseEnd = slice otherLines r.otherStart r.otherEnd
  else r.baseStart < r.baseEnd ∨ r.otherStart < r.otherEnd

section Regions

variable {path : Nat → Nat → Prop} {b o b' o' : Nat} {blocks : List Block}
  {rs : List SideRegion} {r : SideRegion}

theorem regionsFrom_tile (ahead : Ahead baseLines otherLines path b o blocks)
    (hb : b ≤ baseLines.length) (ho : o ≤ otherLines.length) :
    RegionsTile (regionsFrom baseLines.length otherLines.length b o blocks) b o
      baseLines.length otherLines.length := by
  induction blocks generalizing b o with
  | nil =>
    unfold regionsFrom
    split
    · exact ⟨rfl, rfl, hb, ho, rfl, rfl⟩
    · exact ⟨by omega, by omega⟩
  | cons c cs ih =>
    obtain ⟨le, le', _, ends, ends', _⟩ := ahead.2 c List.mem_cons_self
    have rest := ih ahead.tail ends ends'
    unfold regionsFrom
    split
    · exact ⟨rfl, rfl, le, le', rfl, rfl, Nat.le_add_right _ _, Nat.le_add_right _ _, rest⟩
    · refine ⟨?_, ?_, Nat.le_add_right _ _, Nat.le_add_right _ _, rest⟩
      · show c.baseStart = b
        omega
      · show c.otherStart = o
        omega

theorem regionsFrom_sound (ahead : Ahead baseLines otherLines path b o blocks) :
    ∀ r ∈ regionsFrom baseLines.length otherLines.length b o blocks,
      RegionSound baseLines otherLines r := by
  induction blocks generalizing b o with
  | nil =>
    intro r hr
    unfold regionsFrom at hr
    split at hr
    · next some =>
      rw [List.mem_singleton.mp hr]
      exact some
    · cases hr
  | cons c cs ih =>
    obtain ⟨_, _, positive, _, _, same, _⟩ := ahead.2 c List.mem_cons_self
    intro r hr
    rw [regionsFrom, List.mem_append, List.mem_cons] at hr
    rcases hr with gap | rfl | later
    · split at gap
      · next some =>
        rw [List.mem_singleton.mp gap]
        exact some
      · cases gap
    · exact ⟨Nat.lt_add_of_pos_right positive, by simp, slice_of_matches same⟩
    · exact ih ahead.tail r later

/-- The regions take turns; a matched one comes first only where a block goes on. -/
theorem regionsFrom_alternate (apart : blocks.IsChain fun a c =>
      a.baseStart + a.length < c.baseStart ∨ a.otherStart + a.length < c.otherStart)
    (baseLength otherLength : Nat) :
    (regionsFrom baseLength otherLength b o blocks).IsChain (fun r s => r.isStable ≠ s.isStable) ∧
      ∀ r ∈ (regionsFrom baseLength otherLength b o blocks).head?, r.isStable = true →
        ∃ c ∈ blocks.head?, ¬(b < c.baseStart ∨ o < c.otherStart) := by
  induction blocks generalizing b o with
  | nil =>
    unfold regionsFrom
    split
    · refine ⟨.singleton _, fun r hr stable => ?_⟩
      cases hr
      cases stable
    · refine ⟨.nil, ?_⟩
      rintro _ ⟨⟩
  | cons c cs ih =>
    obtain ⟨chain, first⟩ := ih (b := c.baseStart + c.length) (o := c.otherStart + c.length)
      (List.isChain_cons.mp apart).2
    have block : (SideRegion.mk true c.baseStart (c.baseStart + c.length) c.otherStart
        (c.otherStart + c.length) :: regionsFrom baseLength otherLength (c.baseStart + c.length)
          (c.otherStart + c.length) cs).IsChain fun r s => r.isStable ≠ s.isStable := by
      refine List.isChain_cons.mpr ⟨fun s hs => ?_, chain⟩
      cases stable : s.isStable with
      | false => exact Bool.true_eq_false_eq_False
      | true =>
        obtain ⟨d, hd, touch⟩ := first s hs stable
        exact absurd ((List.isChain_cons.mp apart).1 d hd) touch
    unfold regionsFrom
    split
    · refine ⟨List.isChain_cons_cons.mpr ⟨Bool.false_ne_true, block⟩, fun r hr stable => ?_⟩
      cases hr
      cases stable
    · next touch => exact ⟨block, fun _ _ _ => ⟨c, rfl, touch⟩⟩

theorem RegionsTile.le (tile : RegionsTile rs b o b' o') (hr : r ∈ rs) :
    b ≤ r.baseStart ∧ o ≤ r.otherStart := by
  induction rs generalizing b o with
  | nil => exact nomatch hr
  | cons s rs ih =>
    obtain ⟨rfl, rfl, le, le', rest⟩ := tile
    rcases List.mem_cons.mp hr with rfl | later
    · exact ⟨Nat.le_refl _, Nat.le_refl _⟩
    · have := ih rest later
      exact ⟨Nat.le_trans le this.1, Nat.le_trans le' this.2⟩

theorem RegionsTile.sorted (tile : RegionsTile rs b o b' o') :
    rs.Pairwise fun r s => r.baseEnd ≤ s.baseStart ∧ r.otherEnd ≤ s.otherStart := by
  induction rs generalizing b o with
  | nil => exact .nil
  | cons r rs ih => exact .cons (fun s hs => tile.2.2.2.2.le hs) (ih tile.2.2.2.2)

end Regions

/-- Matched and unmatched regions in turn cut base and side, the matched ones ascend on both
sides, and the work stack they come from runs empty. -/
theorem computeSideRegions_tile (baseLines otherLines : List Line) :
    (∃ n blocks, n ≤ 2 * baseLines.length + 1 ∧ StackRun baseLines otherLines n
        [⟨0, baseLines.length, 0, otherLines.length⟩] [] blocks ∧
      computeSideRegions baseLines otherLines = regionsFrom baseLines.length otherLines.length 0 0
        (blocks.insertionSort fun left right => left.baseStart ≤ right.baseStart)) ∧
    RegionsTile (computeSideRegions baseLines otherLines) 0 0 baseLines.length
      otherLines.length ∧
    (computeSideRegions baseLines otherLines).IsChain (fun r s => r.isStable ≠ s.isStable) ∧
    (∀ r ∈ computeSideRegions baseLines otherLines, RegionSound baseLines otherLines r) ∧
    ((computeSideRegions baseLines otherLines).filter SideRegion.isStable).Pairwise fun r s =>
      r.baseStart < s.baseStart ∧ r.otherStart < s.otherStart := by
  have ahead := sideBlocks_ahead baseLines otherLines
  have tile : RegionsTile (computeSideRegions baseLines otherLines) 0 0 baseLines.length
      otherLines.length := regionsFrom_tile ahead (Nat.zero_le _) (Nat.zero_le _)
  have sound : ∀ r ∈ computeSideRegions baseLines otherLines, RegionSound baseLines otherLines r :=
    regionsFrom_sound ahead
  obtain ⟨n, le, run⟩ := stackRun_stableBlocks baseLines otherLines
  refine ⟨⟨n, _, le, run, rfl⟩, tile,
    (regionsFrom_alternate (blocks_apart baseLines otherLines) _ _).1, sound, ?_⟩
  refine (tile.sorted.filter _).imp_of_mem fun {r s} hr hs ends => ?_
  obtain ⟨hr, stable⟩ := List.mem_filter.mp hr
  have some := sound r hr
  rw [RegionSound, if_pos stable] at some
  omega

end PersonalOs.Conflicts
