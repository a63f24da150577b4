import PersonalOs.Conflicts.MergeDecomposition

/-!
# The symmetry of the merge

Nothing but the order inside a conflict block tells the remote side from the local one. The sort
lets the remote side go first where both have a hunk at one line; that a region grows to the same
end either way is because its end is the least one that no hunk of the region crosses.
-/

namespace PersonalOs.Conflicts

open Alignments (slice)
open ExclusionPolicy (JsString utf8ByteLength isHighSurrogate isLowSurrogate)

/-! ## Regions -/

/-- An end no hunk that starts before it crosses. -/
def Closes (hs : List TaggedHunk) (s e : Nat) : Prop :=
  s ≤ e ∧ ∀ h ∈ hs, h.baseStart ≤ e → h.baseEnd ≤ e

section Expand

variable {hs : List TaggedHunk} {lead : TaggedHunk}

theorem expandRegion_closed (e : Nat) (hs : List TaggedHunk) :
    e ≤ (expandRegion e hs).1 ∧
      (∀ h ∈ (expandRegion e hs).2.1, h.baseStart ≤ (expandRegion e hs).1) ∧
      ∀ bound, e ≤ bound → (∀ h ∈ hs, h.baseStart ≤ bound → h.baseEnd ≤ bound) →
        (expandRegion e hs).1 ≤ bound := by
  induction hs generalizing e with
  | nil => exact ⟨Nat.le_refl _, List.forall_mem_nil _, fun _ le _ => le⟩
  | cons h hs ih =>
    unfold expandRegion
    split
    · exact ⟨Nat.le_refl _, List.forall_mem_nil _, fun _ le _ => le⟩
    · next joins =>
      obtain ⟨grows, inside, least⟩ := ih (max e h.baseEnd)
      refine ⟨Nat.le_trans (Nat.le_max_left _ _) grows, fun h' hh => ?_, fun bound le closed => ?_⟩
      · rcases List.mem_cons.mp hh with rfl | later
        · show h'.baseStart ≤ (expandRegion (max e h'.baseEnd) hs).1
          omega
        · exact inside h' later
      · have ends := closed h List.mem_cons_self (by omega)
        exact least bound (by omega) fun h' hh => closed h' (List.mem_cons_of_mem _ hh)

theorem expandRegion_isLeast (forward : lead.baseStart ≤ lead.baseEnd)
    (sorted : hs.Pairwise fun left right => left.baseStart ≤ right.baseStart) :
    IsLeast {e | Closes (lead :: hs) lead.baseStart e} (expandRegion lead.baseEnd hs).1 := by
  obtain ⟨split, le, ends, beyond, _⟩ := expandRegion_spec lead.baseEnd sorted
  refine ⟨⟨Nat.le_trans forward le, fun h hh starts => ?_⟩, fun bound closes => ?_⟩
  · rcases List.mem_cons.mp hh with rfl | hh
    · exact le
    · rw [split] at hh
      rcases List.mem_append.mp hh with inside | outside
      · exact ends h inside
      · exact absurd (beyond h outside) (Nat.not_lt.mpr starts)
  · exact (expandRegion_closed lead.baseEnd hs).2.2 bound
      (closes.2 lead List.mem_cons_self closes.1)
      fun h hh => closes.2 h (List.mem_cons_of_mem _ hh)

theorem expandRegion_filter (forward : lead.baseStart ≤ lead.baseEnd)
    (sorted : hs.Pairwise fun left right => left.baseStart ≤ right.baseStart) :
    let x := expandRegion lead.baseEnd hs
    lead :: x.2.1 = (lead :: hs).filter (fun h => h.baseStart ≤ x.1) ∧
      x.2.2 = (lead :: hs).filter fun h => x.1 < h.baseStart := by
  obtain ⟨split, le, _, beyond, _⟩ := expandRegion_spec lead.baseEnd sorted
  have starts := (expandRegion_closed lead.baseEnd hs).2.1
  intro x
  have here : lead.baseStart ≤ x.1 := Nat.le_trans forward le
  have cut : lead :: hs = (lead :: x.2.1) ++ x.2.2 := congrArg (lead :: ·) split
  have all : ∀ h ∈ lead :: x.2.1, h.baseStart ≤ x.1 := List.forall_mem_cons.mpr ⟨here, starts⟩
  rw [cut, List.filter_append, List.filter_append]
  constructor
  · rw [List.filter_eq_self.mpr fun h hh => decide_eq_true (all h hh),
      List.filter_eq_nil_iff.mpr fun h hh => by simpa using beyond h hh, List.append_nil]
  · rw [List.filter_eq_nil_iff.mpr fun h hh => by simpa using all h hh,
      List.filter_eq_self.mpr fun h hh => decide_eq_true (beyond h hh), List.nil_append]

theorem hunksOf_filter (side : Side) (p : Nat → Bool) (hs : List TaggedHunk) :
    hunksOf side (hs.filter fun h => p h.baseStart) =
      (hunksOf side hs).filter fun h => p h.baseStart := by
  rw [hunksOf, hunksOf, List.filter_filter, List.filter_map, List.filter_filter]
  simp only [Function.comp_def, Bool.and_comm]

end Expand

/-! ## Exchanged sides -/

/-- The hunks of a merge and those of the merge with the sides exchanged. -/
structure Mirrors (hs hs' : List TaggedHunk) : Prop where
  remote : hunksOf .remote hs = hunksOf .local hs'
  atLocal : hunksOf .local hs = hunksOf .remote hs'
  sorted : hs.Pairwise fun left right => left.baseStart ≤ right.baseStart
  sorted' : hs'.Pairwise fun left right => left.baseStart ≤ right.baseStart
  forward : ∀ h ∈ hs, h.baseStart ≤ h.baseEnd
  forward' : ∀ h ∈ hs', h.baseStart ≤ h.baseEnd

namespace Mirrors

variable {hs hs' : List TaggedHunk} {lead lead' : TaggedHunk}

theorem symm (mirrors : Mirrors hs hs') : Mirrors hs' hs :=
  ⟨mirrors.atLocal.symm, mirrors.remote.symm, mirrors.sorted', mirrors.sorted, mirrors.forward',
    mirrors.forward⟩

theorem of_mem (mirrors : Mirrors hs hs') {h : TaggedHunk} (hh : h ∈ hs) :
    ∃ h' ∈ hs', h'.toSideHunk = h.toSideHunk := by
  cases side : h.side with
  | remote =>
    have := mem_hunksOf hh side
    rw [mirrors.remote] at this
    obtain ⟨h', hh', _, same⟩ := of_mem_hunksOf this
    exact ⟨h', hh', same⟩
  | «local» =>
    have := mem_hunksOf hh side
    rw [mirrors.atLocal] at this
    obtain ⟨h', hh', _, same⟩ := of_mem_hunksOf this
    exact ⟨h', hh', same⟩

theorem nil (mirrors : Mirrors [] hs') : hs' = [] :=
  List.eq_nil_iff_forall_not_mem.mpr fun _ hh =>
    nomatch mirrors.symm.of_mem hh

theorem filter (mirrors : Mirrors hs hs') (p : Nat → Bool) :
    Mirrors (hs.filter fun h => p h.baseStart) (hs'.filter fun h => p h.baseStart) where
  remote := by rw [hunksOf_filter, hunksOf_filter, mirrors.remote]
  atLocal := by rw [hunksOf_filter, hunksOf_filter, mirrors.atLocal]
  sorted := mirrors.sorted.filter _
  sorted' := mirrors.sorted'.filter _
  forward h hh := mirrors.forward h (List.mem_filter.mp hh).1
  forward' h hh := mirrors.forward' h (List.mem_filter.mp hh).1

theorem start_le (mirrors : Mirrors (lead :: hs) (lead' :: hs')) :
    lead'.baseStart ≤ lead.baseStart := by
  obtain ⟨h, hh, same⟩ := mirrors.of_mem List.mem_cons_self
  have start : h.baseStart = lead.baseStart := congrArg SideHunk.baseStart same
  rcases List.mem_cons.mp hh with rfl | later
  · exact Nat.le_of_eq start
  · exact start ▸ (List.pairwise_cons.mp mirrors.sorted').1 h later

theorem closes_of (mirrors : Mirrors hs hs') {s e : Nat} (closes : Closes hs' s e) :
    Closes hs s e := by
  refine ⟨closes.1, fun h hh starts => ?_⟩
  obtain ⟨h', hh', same⟩ := mirrors.of_mem hh
  have start : h'.baseStart = h.baseStart := congrArg SideHunk.baseStart same
  have stop : h'.baseEnd = h.baseEnd := congrArg SideHunk.baseEnd same
  exact stop ▸ closes.2 h' hh' (start ▸ starts)

theorem region (mirrors : Mirrors (lead :: hs) (lead' :: hs')) :
    lead'.baseStart = lead.baseStart ∧
      (expandRegion lead'.baseEnd hs').1 = (expandRegion lead.baseEnd hs).1 := by
  have start := Nat.le_antisymm mirrors.start_le mirrors.symm.start_le
  refine ⟨start, ?_⟩
  have least := expandRegion_isLeast (mirrors.forward lead List.mem_cons_self)
    (List.pairwise_cons.mp mirrors.sorted).2
  have least' := expandRegion_isLeast (mirrors.forward' lead' List.mem_cons_self)
    (List.pairwise_cons.mp mirrors.sorted').2
  rw [start] at least'
  have same : {e | Closes (lead' :: hs') lead.baseStart e} =
      {e | Closes (lead :: hs) lead.baseStart e} :=
    Set.ext fun e => ⟨mirrors.closes_of, mirrors.symm.closes_of⟩
  rw [same] at least'
  exact least'.unique least

end Mirrors

/-! ## Blocks -/

/-- Lines both merges share, or a conflict. -/
inductive MergeBlock
  | shared (lines : List Line)
  | conflict (localLines remoteLines : List Line)
deriving DecidableEq

namespace MergeBlock

def lines : MergeBlock → List Line
  | shared lines => lines
  | conflict localLines remoteLines =>
    localOpenMarker :: localLines ++ separatorMarker :: remoteLines ++ [remoteCloseMarker]

def isConflict : MergeBlock → Bool
  | shared _ => false
  | conflict _ _ => true

def exchanged : MergeBlock → MergeBlock
  | shared lines => shared lines
  | conflict localLines remoteLines => conflict remoteLines localLines

def rendered (block : MergeBlock) : List Line × Nat :=
  (block.lines, if block.isConflict then 1 else 0)

theorem exchanged_isConflict (block : MergeBlock) :
    block.exchanged.isConflict = block.isConflict := by
  cases block <;> rfl

theorem exchanged_perm (block : MergeBlock) : block.exchanged.lines.Perm block.lines := by
  cases block with
  | shared => exact .refl _
  | conflict l r =>
    refine .cons _ (.append_right _ ?_)
    exact (List.perm_middle.trans (.cons _ List.perm_append_comm)).trans List.perm_middle.symm

end MergeBlock

open MergeBlock (lines isConflict exchanged) in
theorem renderRegion_mirrors (baseLines remoteLines localLines : List Line) (s e : Nat)
    {hs hs' : List TaggedHunk} (remote : hunksOf .remote hs = hunksOf .local hs')
    (atLocal : hunksOf .local hs = hunksOf .remote hs') :
    ∃ block : MergeBlock, renderRegion baseLines remoteLines localLines s e hs = block.rendered ∧
      renderRegion baseLines localLines remoteLines s e hs' = block.exchanged.rendered := by
  unfold renderRegion
  simp only [← remote, ← atLocal]
  by_cases noRemote : hunksOf .remote hs = []
  · refine ⟨.shared (sideRegionLines baseLines localLines e s (hunksOf .local hs)), ?_⟩
    by_cases noLocal : hunksOf .local hs = []
    · simp [noRemote, noLocal, MergeBlock.rendered, lines, isConflict, exchanged, sideRegionLines]
    · simp [noRemote, noLocal, MergeBlock.rendered, lines, isConflict, exchanged]
  · by_cases noLocal : hunksOf .local hs = []
    · refine ⟨.shared (sideRegionLines baseLines remoteLines e s (hunksOf .remote hs)), ?_⟩
      simp [noRemote, noLocal, MergeBlock.rendered, lines, isConflict, exchanged]
    · by_cases alike : sideRegionLines baseLines remoteLines e s (hunksOf .remote hs) =
          sideRegionLines baseLines localLines e s (hunksOf .local hs)
      · refine ⟨.shared (sideRegionLines baseLines remoteLines e s (hunksOf .remote hs)), ?_⟩
        simp [noRemote, noLocal, alike, MergeBlock.rendered, lines, isConflict, exchanged]
      · refine ⟨.conflict (sideRegionLines baseLines localLines e s (hunksOf .local hs))
          (sideRegionLines baseLines remoteLines e s (hunksOf .remote hs)), ?_⟩
        simp [noRemote, noLocal, alike, Ne.symm alike, MergeBlock.rendered, lines, isConflict, exchanged]

/-- What blocks render to, and how many of them are conflicts. -/
def blocksRendered (blocks : List MergeBlock) : List Line × Nat :=
  (blocks.flatMap MergeBlock.lines, blocks.countP MergeBlock.isConflict)

theorem blocksRendered_cons (lines : List Line) (block : MergeBlock) (blocks : List MergeBlock) :
    blocksRendered (.shared lines :: block :: blocks) =
      (lines ++ block.rendered.1 ++ (blocksRendered blocks).1,
        block.rendered.2 + (blocksRendered blocks).2) := by
  simp [blocksRendered, MergeBlock.rendered, MergeBlock.lines, MergeBlock.isConflict,
    List.countP_cons, Nat.add_comm]

theorem mergeRegions_mirrors (baseLines remoteLines localLines : List Line) (b : Nat)
    {hs hs' : List TaggedHunk} (mirrors : Mirrors hs hs') :
    ∃ blocks, mergeRegions baseLines remoteLines localLines b hs = blocksRendered blocks ∧
      mergeRegions baseLines localLines remoteLines b hs' =
        blocksRendered (blocks.map MergeBlock.exchanged) := by
  induction b, hs using mergeRegions.induct baseLines remoteLines localLines
    generalizing hs' with
  | case1 b =>
    cases mirrors.nil
    refine ⟨[.shared (if b < baseLines.length then slice baseLines b baseLines.length else [])],
      ?_, ?_⟩
    · simp [mergeRegions, blocksRendered, MergeBlock.lines, MergeBlock.isConflict]
    · simp [mergeRegions, blocksRendered, MergeBlock.lines, MergeBlock.isConflict,
        MergeBlock.exchanged]
  | case2 b lead hs expanded =>
    rename_i ih
    cases hs' with
    | nil => cases mirrors.symm.nil
    | cons lead' hs' =>
      obtain ⟨start, stop⟩ := mirrors.region
      obtain ⟨inside, outside⟩ := expandRegion_filter (mirrors.forward lead List.mem_cons_self)
        (List.pairwise_cons.mp mirrors.sorted).2
      obtain ⟨inside', outside'⟩ := expandRegion_filter
        (mirrors.forward' lead' List.mem_cons_self) (List.pairwise_cons.mp mirrors.sorted').2
      rw [stop] at inside' outside'
      have atRegion := mirrors.filter (· ≤ (expandRegion lead.baseEnd hs).1)
      have later := mirrors.filter ((expandRegion lead.baseEnd hs).1 < ·)
      rw [← inside, ← inside'] at atRegion
      rw [← outside, ← outside'] at later
      obtain ⟨block, here, here'⟩ := renderRegion_mirrors baseLines remoteLines localLines
        (if b < lead.baseStart then lead.baseStart else b) (expandRegion lead.baseEnd hs).1
        atRegion.remote atRegion.atLocal
      obtain ⟨blocks, rest, rest'⟩ := ih later
      refine ⟨.shared (if b < lead.baseStart then slice baseLines b lead.baseStart else []) ::
        block :: blocks, ?_, ?_⟩
      · rw [mergeRegions, blocksRendered_cons, ← here, ← rest]
      · rw [mergeRegions, List.map_cons, List.map_cons, MergeBlock.exchanged,
          blocksRendered_cons, ← here', ← rest', start, stop]

/-! ## Sizes -/

theorem utf8ByteLength_newline (text : JsString) :
    utf8ByteLength (newline :: text) = 1 + utf8ByteLength text := by
  cases text with
  | nil => rfl
  | cons unit text => rw [utf8ByteLength, if_pos (by decide)]

theorem utf8ByteLength_unit (unit : UInt16) (text : JsString) :
    utf8ByteLength (unit :: newline :: text) =
      utf8ByteLength [unit] + 1 + utf8ByteLength text := by
  have alone : ¬(isHighSurrogate unit.toNat && isLowSurrogate newline.toNat) = true := fun pair =>
    Bool.false_ne_true (Bool.and_eq_true_iff.mp pair).2
  rw [ExclusionPolicy.utf8ByteLength.eq_3, if_neg alone, utf8ByteLength_newline, ExclusionPolicy.utf8ByteLength.eq_2]
  split
  · omega
  · split <;> omega

theorem utf8ByteLength_line (line text : JsString) :
    utf8ByteLength (line ++ newline :: text) =
      utf8ByteLength line + 1 + utf8ByteLength text := by
  induction line using ExclusionPolicy.utf8ByteLength.induct with
  | case1 => rw [List.nil_append, utf8ByteLength_newline, utf8ByteLength, Nat.zero_add]
  | case2 unit | case3 unit | case4 unit => exact utf8ByteLength_unit unit text
  | case5 unit next rest small ih =>
    rw [List.cons_append, List.cons_append, utf8ByteLength.eq_3, utf8ByteLength.eq_3, if_pos small,
      if_pos small, ← List.cons_append, ih]
    omega
  | case6 unit next rest large small ih =>
    rw [List.cons_append, List.cons_append, utf8ByteLength.eq_3, utf8ByteLength.eq_3, if_neg large,
      if_neg large, if_pos small, if_pos small, ← List.cons_append, ih]
    omega
  | case7 unit next rest large large' pair ih =>
    rw [List.cons_append, List.cons_append, utf8ByteLength.eq_3, utf8ByteLength.eq_3, if_neg large,
      if_neg large, if_neg large', if_neg large', if_pos pair, if_pos pair, ih]
    omega
  | case8 unit next rest large large' alone ih =>
    rw [List.cons_append, List.cons_append, utf8ByteLength.eq_3, utf8ByteLength.eq_3, if_neg large,
      if_neg large, if_neg large', if_neg large', if_neg alone, if_neg alone, ← List.cons_append,
      ih]
    omega

theorem utf8ByteLength_joinLines (line : Line) (lines : List Line) :
    utf8ByteLength (joinLines (line :: lines)) + 1 =
      ((line :: lines).map fun l => utf8ByteLength l + 1).sum := by
  induction lines generalizing line with
  | nil => simp [joinLines]
  | cons next lines ih =>
    have join : joinLines (line :: next :: lines) =
        line ++ newline :: joinLines (next :: lines) := by simp [joinLines, List.intercalate]
    rw [join, utf8ByteLength_line, List.map_cons, List.sum_cons, ← ih]
    omega

theorem utf8ByteLength_perm {ls ls' : List Line} (perm : ls.Perm ls') :
    utf8ByteLength (joinLines ls) = utf8ByteLength (joinLines ls') := by
  cases ls with
  | nil => rw [List.nil_perm.mp perm]
  | cons l ls =>
    cases ls' with
    | nil => exact nomatch perm.length_eq
    | cons l' ls' =>
      have sums := (perm.map fun l => utf8ByteLength l + 1).sum_eq
      rw [← utf8ByteLength_joinLines, ← utf8ByteLength_joinLines] at sums
      exact Nat.succ.inj sums

/-! ## The computation -/

theorem mirrors_all (baseLines remoteLines localLines : List Line) :
    Mirrors (taggedHunks (sideHunks baseLines remoteLines) (sideHunks baseLines localLines))
      (taggedHunks (sideHunks baseLines localLines) (sideHunks baseLines remoteLines)) := by
  have remoteSorted := sideHunks_sorted baseLines remoteLines
  have localSorted := sideHunks_sorted baseLines localLines
  refine ⟨?_, ?_, taggedHunks_sorted _ _, taggedHunks_sorted _ _, fun h hh => ?_, fun h hh => ?_⟩
  · rw [hunksOf_taggedHunks .remote remoteSorted localSorted,
      hunksOf_taggedHunks .local localSorted remoteSorted]
  · rw [hunksOf_taggedHunks .local remoteSorted localSorted,
      hunksOf_taggedHunks .remote localSorted remoteSorted]
  · exact ((walk_all baseLines remoteLines localLines).of_mem hh).2.1
  · exact ((walk_all baseLines localLines remoteLines).of_mem hh).2.1

theorem exchanged_lines_perm (blocks : List MergeBlock) :
    ((blocks.map MergeBlock.exchanged).flatMap MergeBlock.lines).Perm
      (blocks.flatMap MergeBlock.lines) := by
  induction blocks with
  | nil => exact .refl _
  | cons block blocks ih => exact block.exchanged_perm.append ih

theorem exchanged_countP (blocks : List MergeBlock) :
    (blocks.map MergeBlock.exchanged).countP MergeBlock.isConflict =
      blocks.countP MergeBlock.isConflict := by
  rw [List.countP_map]
  exact List.countP_congr fun block _ => by rw [Function.comp, block.exchanged_isConflict]

def proposalOf (merged : List Line × Nat) : BoundedMergeResult :=
  if mergeProposalMaximumBytes < utf8ByteLength (joinLines merged.1) then boundExceeded
  else {
    outcome := if 0 < merged.2 then .mergedWithConflicts else .mergedClean
    requiresUserReview := decide (0 < merged.2)
    mergedText := some (joinLines merged.1)
    conflictingHunkCount := merged.2 }

theorem computeBoundedThreeWayMerge_proposal (base remote localText : JsString) :
    computeBoundedThreeWayMerge base remote localText =
      if [base, remote, localText].any exceedsInputBounds then boundExceeded
      else proposalOf (mergeRegions (splitLines base) (splitLines remote) (splitLines localText) 0
        (taggedHunks (sideHunks (splitLines base) (splitLines remote))
          (sideHunks (splitLines base) (splitLines localText)))) :=
  rfl

theorem exchanged_of_clean {blocks : List MergeBlock}
    (clean : blocks.countP MergeBlock.isConflict = 0) :
    blocks.map MergeBlock.exchanged = blocks := by
  refine (List.map_congr_left fun block hb => ?_).trans (List.map_id _)
  have shared := List.countP_eq_zero.mp clean block hb
  cases block with
  | shared => rfl
  | conflict => exact absurd rfl shared

/-- Exchanging the sides of a merge exchanges them inside its conflict blocks and changes nothing
else: the outcome, the number of conflicts and the size of the proposal stay. -/
theorem computeBoundedThreeWayMerge_symmetric (base remote localText : JsString) :
    let merge := computeBoundedThreeWayMerge base remote localText
    let merge' := computeBoundedThreeWayMerge base localText remote
    merge'.outcome = merge.outcome ∧ merge'.requiresUserReview = merge.requiresUserReview ∧
      merge'.conflictingHunkCount = merge.conflictingHunkCount ∧
      (merge.outcome = .mergedClean → merge'.mergedText = merge.mergedText) ∧
      (merge.outcome = .boundExceeded → merge.mergedText = none ∧ merge'.mergedText = none) ∧
      (merge.outcome ≠ .boundExceeded → ∃ blocks : List MergeBlock,
        blocks.countP MergeBlock.isConflict = merge.conflictingHunkCount ∧
        merge.mergedText = some (joinLines (blocks.flatMap MergeBlock.lines)) ∧
        merge'.mergedText =
          some (joinLines ((blocks.map MergeBlock.exchanged).flatMap MergeBlock.lines))) := by
  obtain ⟨blocks, merged, merged'⟩ := mergeRegions_mirrors (splitLines base) (splitLines remote)
    (splitLines localText) 0
    (mirrors_all (splitLines base) (splitLines remote) (splitLines localText))
  have bounds : [base, localText, remote].any exceedsInputBounds =
      [base, remote, localText].any exceedsInputBounds := by
    simp only [List.any_cons, List.any_nil, Bool.or_false]
    rw [Bool.or_comm (exceedsInputBounds remote)]
  rw [computeBoundedThreeWayMerge_proposal, computeBoundedThreeWayMerge_proposal, merged, merged',
    bounds]
  intro merge merge'
  by_cases exceeds : [base, remote, localText].any exceedsInputBounds = true
  · have is : merge = boundExceeded := if_pos exceeds
    have is' : merge' = boundExceeded := if_pos exceeds
    rw [is, is']
    exact ⟨rfl, rfl, rfl, nofun, fun _ => ⟨rfl, rfl⟩, fun within => absurd rfl within⟩
  · have is : merge = proposalOf (blocksRendered blocks) := if_neg exceeds
    have is' : merge' = proposalOf (blocksRendered (blocks.map MergeBlock.exchanged)) :=
      if_neg exceeds
    rw [is, is']
    unfold proposalOf blocksRendered
    simp only [exchanged_countP, utf8ByteLength_perm (exchanged_lines_perm blocks)]
    split
    · exact ⟨rfl, rfl, rfl, nofun, fun _ => ⟨rfl, rfl⟩, fun within => absurd rfl within⟩
    · refine ⟨rfl, rfl, rfl, fun clean => ?_, fun exceeded => ?_, fun _ => ⟨blocks, rfl, rfl, rfl⟩⟩
      · rw [exchanged_of_clean]
        simp only at clean
        split at clean
        · cases clean
        · omega
      · simp only at exceeded
        split at exceeded <;> cases exceeded

end PersonalOs.Conflicts
