import PersonalOs.Conflicts.SideRegions

/-!
# The decomposition of a merge

The walk over the hunks of both sides cuts base, remote and local text into the same number of
segments. A segment is a gap, which all three share, or a region of hunks that overlap or abut.
-/

namespace PersonalOs.Conflicts

open Alignments HunkLemmas
open ExclusionPolicy (JsString)

/-- Lines of the base and what stands for them on both sides. -/
structure Segment where
  base : List Line
  remote : List Line
  localLines : List Line
deriving DecidableEq

/-- Both sides changed the lines of the base, and not alike. -/
def Segment.isConflict (segment : Segment) : Bool :=
  segment.base ≠ segment.localLines ∧ segment.base ≠ segment.remote ∧
    segment.remote ≠ segment.localLines

def Segment.merged (segment : Segment) : List Line :=
  if segment.base = segment.localLines then segment.remote
  else if segment.base = segment.remote then segment.localLines
  else if segment.remote = segment.localLines then segment.remote
  else localOpenMarker :: segment.localLines ++ separatorMarker :: segment.remote ++
    [remoteCloseMarker]

def rendered (segment : Segment) : List Line × Nat :=
  (segment.merged, if segment.isConflict then 1 else 0)

/-- A region is rendered as the merge of its segment, when a side without a hunk is the base there
and a side with one is not. -/
theorem renderRegion_rendered {baseLines remoteLines localLines : List Line} {b e : Nat}
    {hunks : List TaggedHunk} {s : Segment}
    (hre : sideRegionLines baseLines remoteLines e b (hunksOf .remote hunks) = s.remote)
    (ha : sideRegionLines baseLines localLines e b (hunksOf .local hunks) = s.localLines)
    (hr : s.base = s.remote ↔ (hunksOf .remote hunks).length = 0)
    (hl : s.base = s.localLines ↔ (hunksOf .local hunks).length = 0) :
    renderRegion baseLines remoteLines localLines b e hunks = rendered s := by
  unfold renderRegion rendered Segment.merged Segment.isConflict
  simp only [hre, ha, ← hr, ← hl]
  by_cases hsa : s.base = s.remote
  · by_cases hs : s.base = s.localLines
    · simp [← hsa, ← hs]
    · simp [← hsa, hs]
  · by_cases hs : s.base = s.localLines
    · simp [hsa, ← hs]
    · by_cases hal : s.remote = s.localLines
      · simp [hs, hal]
      · simp [hsa, hs, hal]

/-! ## One side -/

section Side

variable {baseLines sl : List Line} {p : Nat → Nat → Prop} {b o e : Nat}
  {hunk : SideHunk} {hunks rs : List SideHunk}

theorem Tiles.within (ht : Tiles baseLines sl p b o hunks) :
    b ≤ baseLines.length ∧ o ≤ sl.length := by
  cases hunks with
  | nil =>
    obtain ⟨n, he, he', _⟩ := ht
    exact ⟨by omega, by omega⟩
  | cons hunk hunks =>
    obtain ⟨⟨n, hs, hs', _⟩, hf, he, hf', he', _⟩ := ht
    exact ⟨by omega, by omega⟩

theorem Tiles.start (ht : Tiles baseLines sl p b o hunks) : p b o := by
  cases hunks with
  | nil =>
    obtain ⟨n, _, _, _, hp⟩ := ht
    exact hp 0 (Nat.zero_le n)
  | cons hunk hunks =>
    obtain ⟨⟨n, _, _, _, hp⟩, _⟩ := ht
    exact hp 0 (Nat.zero_le n)

theorem Tiles.of_mem (ht : Tiles baseLines sl p b o hunks) (hm : hunk ∈ hunks) :
    b ≤ hunk.baseStart ∧ hunk.baseStart ≤ hunk.baseEnd ∧ hunk.baseEnd ≤ baseLines.length := by
  induction hunks generalizing b o with
  | nil => exact nomatch hm
  | cons x hunks ih =>
    obtain ⟨⟨n, hs, _⟩, hf, he, _, _, hl⟩ := ht
    rcases List.mem_cons.mp hm with rfl | hm
    · exact ⟨by omega, hf, he⟩
    · obtain ⟨ha, hw⟩ := ih hl hm
      exact ⟨by omega, hw⟩

theorem Tiles.skip {n : Nat} (ht : Tiles baseLines sl p b o hunks)
    (hi : b + n ≤ baseLines.length) (hb : ∀ hunk ∈ hunks, b + n ≤ hunk.baseStart) :
    slice baseLines b (b + n) = slice sl o (o + n) ∧
      Tiles baseLines sl p (b + n) (o + n) hunks := by
  -- the stable lines up to the next hunk or the end of the base
  have cut : ∀ m, Matches baseLines sl b o m → (∀ k ≤ m, p (b + k) (o + k)) → n ≤ m →
      slice baseLines b (b + n) = slice sl o (o + n) ∧
        Matches baseLines sl (b + n) (o + n) (m - n) ∧
        ∀ k ≤ m - n, p (b + n + k) (o + n + k) := by
    intro m he hp le
    refine ⟨slice_of_matches ?_, he.part (by omega), fun k hsm => ?_⟩
    · simpa using he.part (k := 0) (m := n) (by omega)
    · have hth := hp (n + k) (by omega)
      rwa [← Nat.add_assoc, ← Nat.add_assoc] at hth
  cases hunks with
  | nil =>
    obtain ⟨m, hen, he', he, hp⟩ := ht
    obtain ⟨heq, he, hp⟩ := cut m he hp (by omega)
    exact ⟨heq, m - n, by omega, by omega, he, hp⟩
  | cons hunk hunks =>
    obtain ⟨⟨m, hs, hs', he, hp⟩, hl⟩ := ht
    have hb := hb hunk List.mem_cons_self
    obtain ⟨heq, he, hp⟩ := cut m he hp (by omega)
    exact ⟨heq, ⟨m - n, by omega, by omega, he, hp⟩, hl⟩

theorem tiles_region (ht : Tiles baseLines sl p b o (hunks ++ rs))
    (hi : ∀ hunk ∈ hunks, hunk.baseEnd ≤ e) (hou : ∀ hunk ∈ rs, e ≤ hunk.baseStart)
    (hf : b ≤ e) (hw : e ≤ baseLines.length) :
    ∃ o', o ≤ o' ∧ sideRegionLines baseLines sl e b hunks = slice sl o o' ∧
      Tiles baseLines sl p e o' rs ∧
      ∀ hunk ∈ hunks, b ≤ hunk.baseStart ∧ o ≤ hunk.otherStart ∧ hunk.otherEnd ≤ o' := by
  induction hunks generalizing b o with
  | nil =>
    obtain ⟨n, rfl⟩ := Nat.exists_eq_add_of_le hf
    obtain ⟨he, hl⟩ := ht.skip hw hou
    refine ⟨o + n, Nat.le_add_right o n, ?_, hl, fun _ hn => nomatch hn⟩
    unfold sideRegionLines
    split
    · exact he
    · rw [show n = 0 by omega]
      exact (slice_self sl o).symm
  | cons hunk hunks ih =>
    obtain ⟨⟨n, hs, hs', hsa, hp⟩, hb, hen, ho, he', hl⟩ := ht
    obtain ⟨o', ho', hli, hl, hfa⟩ := ih hl (fun ne hm => hi ne (List.mem_cons_of_mem _ hm))
        (hi hunk List.mem_cons_self)
    refine ⟨o', by omega, ?_, hl, fun ne hm => ?_⟩
    · have gap : (if b < hunk.baseStart then slice baseLines b hunk.baseStart else []) =
          slice sl o hunk.otherStart := by
        rw [hs, hs', ← slice_of_matches hsa]
        split
        · rfl
        · rw [show n = 0 by omega]
          exact (slice_self baseLines b).symm
      rw [sideRegionLines, gap, hli, slice_append (by omega) ho, slice_append (by omega) ho']
    · rcases List.mem_cons.mp hm with rfl | hm
      · exact ⟨by omega, by omega, ho'⟩
      · obtain ⟨ha, ha', hu⟩ := hfa ne hm
        exact ⟨by omega, by omega, hu⟩

theorem slice_ne_of_hunk {o' : Nat} (hs : p b o) (hst : p e o')
    (hf : b ≤ e) (hf' : o ≤ o') (hw : e ≤ baseLines.length)
    (hw' : o' ≤ sl.length) (ht : Tight baseLines sl p hunk)
    (hfr : b ≤ hunk.baseStart) (hle : hunk.baseEnd ≤ e)
    (hfr' : o ≤ hunk.otherStart) (hl' : hunk.otherEnd ≤ o') :
    slice baseLines b e ≠ slice sl o o' := by
  intro he
  obtain ⟨hl, hag⟩ := matches_of_slice hf hf' hw hw' he
  have ha : b + (e - b) = e := Nat.add_sub_cancel' hf
  have ha' : o + (e - b) = o' := by rw [hl, Nat.add_sub_cancel' hf']
  refine ht b o (e - b) hs ?_ hag hfr ?_ hfr' ?_
  · rwa [ha, ha']
  · rwa [ha]
  · rwa [ha']

theorem region_unchanged_iff (ht : Tiles baseLines sl p b o (hunks ++ rs))
    (hti : ∀ hunk ∈ hunks, Tight baseLines sl p hunk)
    (hi : ∀ hunk ∈ hunks, hunk.baseEnd ≤ e) (ho : ∀ hunk ∈ rs, e ≤ hunk.baseStart)
    (hf : b ≤ e) (hw : e ≤ baseLines.length) :
    ∃ o', o ≤ o' ∧ sideRegionLines baseLines sl e b hunks = slice sl o o' ∧
      Tiles baseLines sl p e o' rs ∧
      (slice baseLines b e = slice sl o o' ↔ hunks.length = 0) := by
  obtain ⟨o', hf', hli, hl, hfa⟩ := tiles_region ht hi ho hf hw
  refine ⟨o', hf', hli, hl, ?_⟩
  cases hunks with
  | nil =>
    refine ⟨fun _ => rfl, fun _ => ?_⟩
    rw [← hli, sideRegionLines]
    split
    · rfl
    · rw [Nat.le_antisymm hf (by omega), slice_self]
  | cons hunk hunks =>
    obtain ⟨hfr, hfr', hl'⟩ := hfa hunk List.mem_cons_self
    have hd : slice baseLines b e ≠ slice sl o o' :=
      slice_ne_of_hunk ht.start hl.start hf hf' hw hl.within.2
        (hti hunk List.mem_cons_self) hfr (hi hunk List.mem_cons_self) hfr' hl'
    exact ⟨fun he => absurd he hd, nofun⟩

end Side

/-! ## Both sides -/

section Tagged

theorem hunksOf_append (s : Side) (be a : List TaggedHunk) :
    hunksOf s (be ++ a) = hunksOf s be ++ hunksOf s a := by
  rw [hunksOf, List.filter_append, List.map_append]
  rfl

variable {hunks : List TaggedHunk}

theorem mem_hunksOf {s : Side} {hunk : TaggedHunk} (hm : hunk ∈ hunks) (ho : hunk.side = s) :
    hunk.toSideHunk ∈ hunksOf s hunks :=
  List.mem_map_of_mem (List.mem_filter.mpr ⟨hm, decide_eq_true ho⟩)

theorem of_mem_hunksOf {s : Side} {hunk : SideHunk} (hm : hunk ∈ hunksOf s hunks) :
    ∃ t ∈ hunks, t.side = s ∧ t.toSideHunk = hunk := by
  obtain ⟨t, hf, rfl⟩ := List.mem_map.mp hm
  obtain ⟨hm, ho⟩ := List.mem_filter.mp hf
  exact ⟨t, hm, of_decide_eq_true ho, rfl⟩

theorem hunksOf_tag (s ot : Side) (hunks : List SideHunk) :
    hunksOf s (hunks.map (SideHunk.tag ot)) = if ot = s then hunks else [] := by
  induction hunks with
  | nil => exact (ite_self _).symm
  | cons hunk hunks ih =>
    rw [List.map_cons, ← List.singleton_append, hunksOf_append, ih]
    split
    · next he => simp [hunksOf, SideHunk.tag, he]
    · next hd => simp [hunksOf, SideHunk.tag, hd]

theorem precedes_total (le ri : TaggedHunk) : precedes le ri ∨ precedes ri le := by
  unfold precedes
  cases le.side <;> cases ri.side <;> simp <;> omega

theorem precedes_trans {x y t : TaggedHunk} (hb : precedes x y)
    (ha : precedes y t) : precedes x t := by
  rcases hb with lt | ⟨eq, hr⟩
  · rcases ha with lt' | ⟨eq', _⟩
    · exact .inl (Nat.lt_trans lt lt')
    · exact .inl (eq' ▸ lt)
  · rcases ha with lt' | ⟨eq', hr'⟩
    · exact .inl (eq ▸ lt')
    · refine .inr ⟨eq.trans eq', ?_⟩
      rcases hr with x | y
      · exact .inl x
      · rcases hr' with hs' | t
        · exact nomatch y.symm.trans hs'
        · exact .inr t

theorem baseStart_le_of_precedes {le ri : TaggedHunk} (hb : precedes le ri) :
    le.baseStart ≤ ri.baseStart := by
  rcases hb with lt | ⟨eq, _⟩
  · exact Nat.le_of_lt lt
  · exact Nat.le_of_eq eq

theorem taggedHunks_sorted (rh lh : List SideHunk) : (taggedHunks rh lh).Pairwise fun le ri =>
      le.baseStart ≤ ri.baseStart := by
  have : Std.Total precedes := ⟨precedes_total⟩
  have : IsTrans TaggedHunk precedes := ⟨fun _ _ _ => precedes_trans⟩
  exact (List.pairwise_insertionSort precedes _).imp baseStart_le_of_precedes

theorem hunksOf_taggedHunks {rh lh : List SideHunk} (s : Side)
    (hso : rh.Pairwise fun lt ri => lt.baseStart < ri.baseStart)
    (hs' : lh.Pairwise fun lt ri => lt.baseStart < ri.baseStart) :
    hunksOf s (taggedHunks rh lh) = match s with
      | .remote => rh
      | .local => lh := by
  have hp : (hunksOf s (taggedHunks rh lh)).Perm (hunksOf s (rh.map (SideHunk.tag .remote) ++
        lh.map (SideHunk.tag .local))) :=
    ((List.perm_insertionSort precedes _).filter _).map _
  have ho : (hunksOf s (taggedHunks rh lh)).Pairwise fun lt ri => lt.baseStart ≤ ri.baseStart :=
    List.pairwise_map.mpr ((taggedHunks_sorted rh lh).filter _)
  -- no two hunks of a side start at one line, so there is one sorted order of them
  have hu : ∀ hunks : List SideHunk, hunks.Pairwise (fun lt ri => lt.baseStart < ri.baseStart) →
      (hunksOf s (taggedHunks rh lh)).Perm hunks →
      hunksOf s (taggedHunks rh lh) = hunks := by
    intro hunks hs hp
    refine hp.eq_of_pairwise (fun lt ri hl hr le le' => ?_) ho (hs.imp Nat.le_of_lt)
    have ha : (hunks.map SideHunk.baseStart).Nodup := List.pairwise_map.mpr (hs.imp Nat.ne_of_lt)
    exact List.inj_on_of_nodup_map ha (hp.mem_iff.mp hl) hr (Nat.le_antisymm le le')
  rw [hunksOf_append, hunksOf_tag, hunksOf_tag] at hp
  cases s with
  | remote => exact hu rh hso (by simpa using hp)
  | «local» => exact hu lh hs' (by simpa using hp)

theorem expandRegion_spec (re : Nat)
    (hso : hunks.Pairwise fun lt ri => lt.baseStart ≤ ri.baseStart) :
    let ex := expandRegion re hunks
    hunks = ex.2.1 ++ ex.2.2 ∧ re ≤ ex.1 ∧ (∀ hunk ∈ ex.2.1, hunk.baseEnd ≤ ex.1) ∧
      (∀ hunk ∈ ex.2.2, ex.1 < hunk.baseStart) ∧
      ∀ bo, re ≤ bo → (∀ hunk ∈ hunks, hunk.baseEnd ≤ bo) → ex.1 ≤ bo := by
  induction hunks generalizing re with
  | nil =>
    exact ⟨rfl, Nat.le_refl _, (fun _ hm => by cases hm), (fun _ hm => by cases hm),
      fun _ hs _ => hs⟩
  | cons f hunks ih =>
    rw [List.pairwise_cons] at hso
    unfold expandRegion
    split
    · next hb =>
      refine ⟨rfl, Nat.le_refl _, by simp, fun hunk hm => ?_, fun _ hs _ => hs⟩
      rcases List.mem_cons.mp hm with rfl | hm
      · exact hb
      · exact Nat.lt_of_lt_of_le hb (hso.1 hunk hm)
    · obtain ⟨hsp, le, hi, ho, hl⟩ := ih (max re f.baseEnd) hso.2
      refine ⟨congrArg (f :: ·) hsp, Nat.le_trans (Nat.le_max_left _ _) le,
        fun hunk hm => ?_, ho, fun bo hs all => ?_⟩
      · rcases List.mem_cons.mp hm with rfl | hm
        · exact Nat.le_trans (Nat.le_max_right _ _) le
        · exact hi hunk hm
      · exact hl bo (Nat.max_le.mpr ⟨hs, all f List.mem_cons_self⟩)
          fun hunk hm => all hunk (List.mem_cons_of_mem _ hm)

end Tagged

/-! ## The walk -/

/-- The hunks from a base cursor and one cursor for each side on: they tile both sides, and each
of them is a change. -/
structure Walk (baseLines remoteLines localLines : List Line)
    (remotePath localPath : Nat → Nat → Prop) (b r l : Nat) (hunks : List TaggedHunk) : Prop where
  remoteTiles : Tiles baseLines remoteLines remotePath b r (hunksOf .remote hunks)
  localTiles : Tiles baseLines localLines localPath b l (hunksOf .local hunks)
  remoteTight : ∀ hunk ∈ hunksOf .remote hunks, Tight baseLines remoteLines remotePath hunk
  localTight : ∀ hunk ∈ hunksOf .local hunks, Tight baseLines localLines localPath hunk
  sorted : hunks.Pairwise fun left right => left.baseStart ≤ right.baseStart

namespace Walk

variable {baseLines remoteLines localLines : List Line} {remotePath localPath : Nat → Nat → Prop}
  {b r l e : Nat} {hld : TaggedHunk} {hunks rs : List TaggedHunk}

theorem of_mem (hw : Walk baseLines remoteLines localLines remotePath localPath b r l hunks)
    (hm : hld ∈ hunks) :
    b ≤ hld.baseStart ∧ hld.baseStart ≤ hld.baseEnd ∧ hld.baseEnd ≤ baseLines.length := by
  cases ho : hld.side with
  | remote => exact hw.remoteTiles.of_mem (mem_hunksOf hm ho)
  | «local» => exact hw.localTiles.of_mem (mem_hunksOf hm ho)

theorem skip {n : Nat} (hw : Walk baseLines remoteLines localLines remotePath localPath b r l hunks)
    (hi : b + n ≤ baseLines.length) (hbe : ∀ hunk ∈ hunks, b + n ≤ hunk.baseStart) :
    slice baseLines b (b + n) = slice remoteLines r (r + n) ∧
      slice baseLines b (b + n) = slice localLines l (l + n) ∧
      Walk baseLines remoteLines localLines remotePath localPath (b + n) (r + n) (l + n) hunks := by
  have hb : ∀ s, ∀ hunk ∈ hunksOf s hunks, b + n ≤ hunk.baseStart := by
    intro s hunk hm
    obtain ⟨t, ht, _, rfl⟩ := of_mem_hunksOf hm
    exact hbe t ht
  obtain ⟨hre, hr⟩ := hw.remoteTiles.skip hi (hb .remote)
  obtain ⟨hlo, hl⟩ := hw.localTiles.skip hi (hb .local)
  exact ⟨hre, hlo, hr, hl, hw.remoteTight, hw.localTight, hw.sorted⟩

theorem region (hwa : Walk baseLines remoteLines localLines remotePath localPath b r l
      (hunks ++ rs))
    (hin : ∀ hunk ∈ hunks, hunk.baseEnd ≤ e) (hou : ∀ hunk ∈ rs, e < hunk.baseStart)
    (hfd : b ≤ e) (hw : e ≤ baseLines.length) :
    ∃ r' l', r ≤ r' ∧ l ≤ l' ∧
      Walk baseLines remoteLines localLines remotePath localPath e r' l' rs ∧
      renderRegion baseLines remoteLines localLines b e hunks =
        rendered ⟨slice baseLines b e, slice remoteLines r r', slice localLines l l'⟩ := by
  obtain ⟨hre, hlo, hr, hl, hs⟩ := hwa
  rw [hunksOf_append] at hre hlo hr hl
  have hi : ∀ s, ∀ hunk ∈ hunksOf s hunks, hunk.baseEnd ≤ e := by
    intro s hunk hm
    obtain ⟨t, ht, _, rfl⟩ := of_mem_hunksOf hm
    exact hin t ht
  have ho : ∀ s, ∀ hunk ∈ hunksOf s rs, e ≤ hunk.baseStart := by
    intro s hunk hm
    obtain ⟨t, ht, _, rfl⟩ := of_mem_hunksOf hm
    exact Nat.le_of_lt (hou t ht)
  obtain ⟨r', hf, hrn, hrr, hrd⟩ := region_unchanged_iff hre
      (fun hunk hm => hr hunk (List.mem_append_left _ hm))
      (hi .remote) (ho .remote) hfd hw
  obtain ⟨l', hfo, hln, hlr, hld⟩ := region_unchanged_iff hlo
      (fun hunk hm => hl hunk (List.mem_append_left _ hm))
      (hi .local) (ho .local) hfd hw
  exact ⟨r', l', hf, hfo, ⟨hrr, hlr, fun hunk hm => hr hunk (List.mem_append_right _ hm),
      fun hunk hm => hl hunk (List.mem_append_right _ hm),
      (List.pairwise_append.mp hs).2.1⟩,
    renderRegion_rendered hrn hln hrd hld⟩

end Walk

/-- The segments are cut from the three line lists, from three cursors on. -/
def Cuts (baseLines remoteLines localLines : List Line) (b r l : Nat) (segments : List Segment) :
    Prop :=
  segments.flatMap Segment.base = slice baseLines b baseLines.length ∧
    segments.flatMap Segment.remote = slice remoteLines r remoteLines.length ∧
    segments.flatMap Segment.localLines = slice localLines l localLines.length

theorem Cuts.cons {baseLines remoteLines localLines : List Line} {b r l b' r' l' : Nat}
    {s : List Segment} (hc : Cuts baseLines remoteLines localLines b' r' l' s)
    (hfd : b ≤ b' ∧ b' ≤ baseLines.length) (hf : r ≤ r' ∧ r' ≤ remoteLines.length)
    (hfo : l ≤ l' ∧ l' ≤ localLines.length) :
    Cuts baseLines remoteLines localLines b r l
      (⟨slice baseLines b b', slice remoteLines r r', slice localLines l l'⟩ :: s) := by
  obtain ⟨hb, hr, «local»⟩ := hc
  unfold Cuts
  rw [List.flatMap_cons, List.flatMap_cons, List.flatMap_cons, hb, hr, «local»]
  exact ⟨slice_append hfd.1 hfd.2, slice_append hf.1 hf.2, slice_append hfo.1 hfo.2⟩

theorem rendered_unchanged {s : Segment} (hr : s.base = s.remote)
    (ha : s.base = s.localLines) : rendered s = (s.base, 0) := by
  unfold rendered Segment.merged Segment.isConflict
  simp [← hr, ← ha]

/-- What the segments render to, one after the other, and how many of them are conflicts. -/
def renderedAll (segments : List Segment) : List Line × Nat :=
  (segments.flatMap Segment.merged, segments.countP Segment.isConflict)

theorem renderedAll_cons (se : Segment) (s : List Segment) : renderedAll (se :: s) =
      ((rendered se).1 ++ (renderedAll s).1, (rendered se).2 + (renderedAll s).2) := by
  unfold renderedAll rendered
  rw [List.flatMap_cons, List.countP_cons, Nat.add_comm]

theorem mergeRegions_segments {baseLines remoteLines localLines : List Line}
    {remotePath localPath : Nat → Nat → Prop} {b r l : Nat} {hunks : List TaggedHunk}
    (hwa : Walk baseLines remoteLines localLines remotePath localPath b r l hunks) :
    ∃ s, Cuts baseLines remoteLines localLines b r l s ∧
      mergeRegions baseLines remoteLines localLines b hunks = renderedAll s := by
  induction b, hunks using mergeRegions.induct baseLines remoteLines localLines
    generalizing r l with
  | case1 b =>
    -- behind the last hunk there is one gap, up to the end of the three texts
    obtain ⟨hw, hre⟩ := hwa.remoteTiles.within
    obtain ⟨n, he⟩ := Nat.exists_eq_add_of_le hw
    obtain ⟨hr, hl, hla⟩ := hwa.skip (n := n) (Nat.le_of_eq he.symm) nofun
    obtain ⟨m, stop, hrp, _⟩ := hla.remoteTiles
    obtain ⟨m', hs', hlp, _⟩ := hla.localTiles
    have hrd : r + n = remoteLines.length := by omega
    have hlo : l + n = localLines.length := by omega
    have hu : rendered ⟨slice baseLines b baseLines.length,
        slice remoteLines r remoteLines.length, slice localLines l localLines.length⟩ =
          (slice baseLines b baseLines.length, 0) := by
      rw [he, ← hrd, ← hlo]
      exact rendered_unchanged hr hl
    have hn : Cuts baseLines remoteLines localLines baseLines.length remoteLines.length
        localLines.length [] :=
      ⟨(slice_self _ _).symm, (slice_self _ _).symm, (slice_self _ _).symm⟩
    refine ⟨_, hn.cons ⟨hw, Nat.le_refl _⟩ ⟨hre, Nat.le_refl _⟩
      ⟨hwa.localTiles.within.2, Nat.le_refl _⟩, ?_⟩
    rw [renderedAll_cons, hu, mergeRegions]
    split
    · exact Prod.ext (List.append_nil _).symm rfl
    · rw [Nat.le_antisymm hw (by omega), slice_self]
      rfl
  | case2 b hld hunks ex =>
    rename_i ih
    obtain ⟨hfr, hb, he⟩ := hwa.of_mem List.mem_cons_self
    obtain ⟨n, hs⟩ := Nat.exists_eq_add_of_le hfr
    have hst : (if b < hld.baseStart then hld.baseStart else b) = hld.baseStart := by
      split
      · rfl
      · omega
    -- the gap before the region
    obtain ⟨hr, hl, ha⟩ := hwa.skip (n := n) (by omega) fun hunk hm => by
      rw [← hs]
      rcases List.mem_cons.mp hm with rfl | hm
      · exact Nat.le_refl _
      · exact (List.pairwise_cons.mp hwa.sorted).1 hunk hm
    -- the region itself
    obtain ⟨hsp, le, hi, ho, hle⟩ :=
      expandRegion_spec hld.baseEnd (List.pairwise_cons.mp hwa.sorted).2
    have hw : (expandRegion hld.baseEnd hunks).1 ≤ baseLines.length := hle _ he fun hunk hm =>
      (hwa.of_mem (List.mem_cons_of_mem _ hm)).2.2
    rw [hsp, ← List.cons_append, ← hs] at ha
    obtain ⟨r', l', hf, hfo, hla, hrn⟩ := ha.region (fun hunk hm => by
        rcases List.mem_cons.mp hm with rfl | hm
        · exact le
        · exact hi hunk hm)
      ho (Nat.le_trans hb le) hw
    obtain ⟨s, hc, hme⟩ := ih hla
    have hu : rendered ⟨slice baseLines b hld.baseStart, slice remoteLines r (r + n),
        slice localLines l (l + n)⟩ = (slice baseLines b hld.baseStart, 0) := by
      rw [hs]
      exact rendered_unchanged hr hl
    refine ⟨_ :: _ :: s, (hc.cons ⟨Nat.le_trans hb le, hw⟩ ⟨hf, hla.remoteTiles.within.2⟩
      ⟨hfo, hla.localTiles.within.2⟩).cons ⟨hfr, by omega⟩
        ⟨Nat.le_add_right r n, ha.remoteTiles.within.2⟩
        ⟨Nat.le_add_right l n, ha.localTiles.within.2⟩, ?_⟩
    have gap : (if b < hld.baseStart then slice baseLines b hld.baseStart else []) =
        slice baseLines b hld.baseStart := by
      split
      · rfl
      · rw [Nat.le_antisymm hfr (by omega), slice_self]
    rw [renderedAll_cons, renderedAll_cons, hu, ← hme, ← hrn, mergeRegions]
    simp only [hst, gap, List.append_assoc, Nat.zero_add]
    rfl

/-! ## The computation -/

theorem walk_all (baseLines remoteLines localLines : List Line) :
    Walk baseLines remoteLines localLines (sidePath baseLines remoteLines)
      (sidePath baseLines localLines) 0 0 0
      (taggedHunks (sideHunks baseLines remoteLines) (sideHunks baseLines localLines)) := by
  have hr := hunksOf_taggedHunks .remote (sideHunks_sorted baseLines remoteLines)
    (sideHunks_sorted baseLines localLines)
  have hl := hunksOf_taggedHunks .local (sideHunks_sorted baseLines remoteLines)
    (sideHunks_sorted baseLines localLines)
  refine ⟨?_, ?_, ?_, ?_, taggedHunks_sorted _ _⟩
  · rw [hr]
    exact computeSideRegions_tiles baseLines remoteLines
  · rw [hl]
    exact computeSideRegions_tiles baseLines localLines
  · rw [hr]
    exact computeSideRegions_tight baseLines remoteLines
  · rw [hl]
    exact computeSideRegions_tight baseLines localLines

/-- A merge that is within the bounds cuts the three texts into segments; the merged lines are
their renderings, the conflicting hunks those both sides changed and not alike, and the outcome is
clean when there is none. -/
theorem computeBoundedThreeWayMerge_segments (base remote localText : JsString) :
    (computeBoundedThreeWayMerge base remote localText).outcome = .boundExceeded ∨
    ∃ segments : List Segment, segments.flatMap Segment.base = splitLines base ∧
      segments.flatMap Segment.remote = splitLines remote ∧
      segments.flatMap Segment.localLines = splitLines localText ∧
      (computeBoundedThreeWayMerge base remote localText).mergedText =
        some (joinLines (segments.flatMap Segment.merged)) ∧
      (computeBoundedThreeWayMerge base remote localText).conflictingHunkCount =
        segments.countP Segment.isConflict ∧
      ((computeBoundedThreeWayMerge base remote localText).outcome = .mergedClean ↔
        segments.countP Segment.isConflict = 0) := by
  obtain ⟨segments, ⟨hb, hr, hl⟩, hm⟩ :=
    mergeRegions_segments (walk_all (splitLines base) (splitLines remote) (splitLines localText))
  rw [slice_all] at hb hr hl
  have hc : mergeRegions (splitLines base) (splitLines remote) (splitLines localText) 0
      (taggedHunks (unstableHunksOf (computeSideRegions (splitLines base) (splitLines remote)))
        (unstableHunksOf (computeSideRegions (splitLines base) (splitLines localText)))) =
      renderedAll segments := hm
  unfold computeBoundedThreeWayMerge
  simp only [hc]
  split
  · exact .inl rfl
  · split
    · exact .inl rfl
    · refine .inr ⟨segments, hb, hr, hl, rfl, rfl, ?_⟩
      show (if 0 < segments.countP Segment.isConflict then BoundedMergeOutcome.mergedWithConflicts
        else .mergedClean) = .mergedClean ↔ _
      split
      · next some => exact ⟨nofun, fun hn => absurd hn (Nat.ne_of_gt some)⟩
      · next hn => exact ⟨fun _ => Nat.eq_zero_of_not_pos hn, fun _ => rfl⟩

end PersonalOs.Conflicts
