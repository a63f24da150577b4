import PersonalOs.SourceStore.SourceGraph

/-!
# Linear version chains

The versions of a source in the order they were published are numbered from one without a gap,
each the child of the one before it, and the source points to the last.
-/

namespace PersonalOs.SourceStore

open HistoryLemmas

structure VersionChain (versions : List SourceVersion) (pointer : Option SourceVersionId) :
    Prop where
  numbered : ∀ (k : Nat) (v : SourceVersion), versions[k]? = some v → v.contentVersion = k + 1
  root : ∀ v ∈ versions.head?, v.parentVersionId = none
  parent : ∀ (k : Nat) (v w : SourceVersion), versions[k]? = some v → versions[k + 1]? = some w →
    w.parentVersionId = some v.sourceVersionId
  current : pointer = versions.getLast?.map SourceVersion.sourceVersionId
  distinct : versions.Pairwise fun a b => a.sourceVersionId ≠ b.sourceVersionId

variable {x : SourceId} {g : SourceGraph} {versions : List SourceVersion}
  {pointer : Option SourceVersionId} {v parent : SourceVersion}

theorem VersionChain.last (hc : VersionChain versions pointer) (ht : v ∈ versions)
    (hn : pointer = some v.sourceVersionId) : versions.getLast? = some v := by
  have hl := hc.current
  rw [hn] at hl
  obtain ⟨l, hf, he⟩ := Option.map_eq_some_iff.mp hl.symm
  rw [hf]
  by_contra hd
  have hs : Std.Symm fun a b : SourceVersion => a.sourceVersionId ≠ b.sourceVersionId :=
    ⟨fun _ _ => Ne.symm⟩
  exact hc.distinct.forall (List.mem_of_getLast? hf) ht (fun is => hd (is ▸ rfl)) he

theorem VersionChain.snoc (hc : VersionChain versions pointer)
    (hl : versions.getLast? = some parent) (hne : v.contentVersion = parent.contentVersion + 1)
    (hp : v.parentVersionId = some parent.sourceVersionId)
    (hf : ∀ u ∈ versions, u.sourceVersionId ≠ v.sourceVersionId) :
    VersionChain (versions ++ [v]) (some v.sourceVersionId) := by
  have hn : 0 < versions.length := List.length_pos_of_mem (List.mem_of_getLast? hl)
  have hat : versions[versions.length - 1]? = some parent := by
    rw [← List.getLast?_eq_getElem?, hl]
  have hco : parent.contentVersion = versions.length := by
    rw [hc.numbered _ _ hat]
    exact Nat.sub_add_cancel hn
  have new {k : Nat} {w : SourceVersion} (ha : (versions ++ [v])[k]? = some w) :
      versions[k]? = some w ∨ k = versions.length ∧ w = v := by
    rw [List.getElem?_append] at ha
    split at ha
    · exact .inl ha
    next hle =>
      obtain ⟨hs, rfl⟩ := List.getElem?_eq_some_iff.mp ha
      rw [List.length_singleton] at hs
      exact .inr ⟨by omega, by simp⟩
  refine ⟨?_, ?_, ?_, by simp, ?_⟩
  · intro k w ha
    rcases new ha with old | ⟨rfl, rfl⟩
    · exact hc.numbered k w old
    · rw [hne, hco]
  · intro w hh
    rw [List.head?_append_of_ne_nil _ (List.length_pos_iff.mp hn)] at hh
    exact hc.root w hh
  · intro k u w ha hat_
    rcases new hat_ with old | ⟨hla, rfl⟩
    · have hi : k < versions.length := by
        obtain ⟨hs, _⟩ := List.getElem?_eq_some_iff.mp old
        omega
      rw [List.getElem?_append_left hi] at ha
      exact hc.parent k u w ha old
    · have is : k = versions.length - 1 := by omega
      rw [is, List.getElem?_append_left (by omega), hat] at ha
      cases ha
      exact hp
  · exact List.pairwise_append.mpr ⟨hc.distinct, List.pairwise_singleton _ _,
      fun u ht w hm => List.mem_singleton.mp hm ▸ hf u ht⟩

end PersonalOs.SourceStore
