import PersonalOs.Authentication.Grants
import PersonalOs.Basis.Fallible

/-!
# Token families

The refresh tokens of a family form one chain of generations. An active family has exactly one
active refresh token, the last; a revoked one has no active token at all.
-/

namespace PersonalOs.Authentication

open Tables

variable {family : TokenFamilyRow} {tokens : List DeviceTokenRow} {t u : DeviceTokenRow}

/-- The token that follows another in its family. -/
structure Succeeds (t u : DeviceTokenRow) : Prop where
  rotated : t.state = .rotated
  successor : t.successorTokenId = some u.deviceTokenId
  predecessor : u.predecessorTokenId = some t.deviceTokenId
  generation : u.generation = t.generation + 1

def DeviceTokenFamilyState.tokenState : DeviceTokenFamilyState → DeviceTokenState
  | .active => .active
  | .revoked => .revoked

/-- The refresh tokens of a family, in the order of their insertion. -/
structure TokenChain (family : TokenFamilyRow) (tokens : List DeviceTokenRow) : Prop where
  linked : tokens.IsChain Succeeds
  first : ∀ t ∈ tokens.head?, t.predecessorTokenId = none ∧ t.generation = initialRefreshGeneration
  last : ∃ earlier t, tokens = earlier ++ [t] ∧ t.successorTokenId = none ∧
    t.generation = family.currentRefreshGeneration ∧ t.state = family.state.tokenState

structure FamilySound (family : TokenFamilyRow) (tokens : List DeviceTokenRow) : Prop where
  chain : TokenChain family (tokens.filter fun t => t.tokenKind = .refresh)
  retired : family.state = .revoked → ∀ t ∈ tokens, t.state ≠ .active
  window : family.inactivityExpiresAt ≤ family.absoluteExpiresAt
  expiry : ∀ t ∈ tokens, t.tokenKind = .refresh → t.expiresAt ≤ family.absoluteExpiresAt

/-! ## Chains -/

variable {earlier : List DeviceTokenRow}

theorem rotated_of_earlier {l : DeviceTokenRow} (hl : (earlier ++ [l]).IsChain Succeeds) :
    ∀ t ∈ earlier, t.state = .rotated := by
  intro t hm
  obtain ⟨b, a, rfl⟩ := List.append_of_mem hm
  rw [List.append_assoc, List.cons_append] at hl
  have hs := (List.isChain_append.mp hl).2.1
  cases a with
  | nil => exact (List.isChain_cons_cons.mp hs).1.rotated
  | cons n r => exact (List.isChain_cons_cons.mp hs).1.rotated

theorem TokenChain.eq_last_of_active (hc : TokenChain family tokens) (hm : t ∈ tokens)
    (ha : t.state = .active) :
    ∃ earlier, tokens = earlier ++ [t] ∧ t.successorTokenId = none ∧
      t.generation = family.currentRefreshGeneration ∧ family.state = .active := by
  obtain ⟨earlier, l, rfl, hs, hg, hst⟩ := hc.last
  rcases List.mem_append.mp hm with hb | hl
  · have hr := rotated_of_earlier hc.linked t hb
    exact nomatch ha.symm.trans hr
  · cases List.mem_singleton.mp hl
    refine ⟨earlier, rfl, hs, hg, ?_⟩
    rw [ha] at hst
    cases hse : family.state
    · rfl
    · rw [hse] at hst
      exact nomatch hst

theorem TokenChain.active_unique (hc : TokenChain family tokens) (hm : t ∈ tokens)
    (hm' : u ∈ tokens) (ha : t.state = .active) (ha' : u.state = .active) : t = u := by
  obtain ⟨earlier, ht, -⟩ := hc.eq_last_of_active hm ha
  obtain ⟨e', ht', -⟩ := hc.eq_last_of_active hm' ha'
  have he := List.append_inj_right' (ht.symm.trans ht') rfl
  exact List.singleton_inj.mp he

theorem generation_lt_of_earlier {l : DeviceTokenRow} (hl : (earlier ++ [l]).IsChain Succeeds) :
    ∀ t ∈ earlier, t.generation < l.generation := by
  induction earlier with
  | nil => exact fun _ hm => nomatch hm
  | cons x r ih =>
    have ht := (List.isChain_cons.mp hl).2
    intro t hm
    rcases List.mem_cons.mp hm with rfl | hla
    · cases r with
      | nil =>
        have hs := (List.isChain_cons_cons.mp hl).1
        exact hs.generation ▸ Nat.lt_succ_self _
      | cons n m =>
        have hs := (List.isChain_cons_cons.mp hl).1
        have hb := ih ht n List.mem_cons_self
        rw [hs.generation] at hb
        exact Nat.lt_of_succ_lt hb
    · exact ih ht t hla

/-- A token of a chain is of an earlier generation than its family, or the last. -/
theorem TokenChain.generation_le (hc : TokenChain family tokens) (hm : t ∈ tokens) :
    t.generation < family.currentRefreshGeneration ∨
      t.generation = family.currentRefreshGeneration ∧ t.state = family.state.tokenState := by
  obtain ⟨earlier, l, rfl, -, hg, hs⟩ := hc.last
  rcases List.mem_append.mp hm with hb | hl
  · exact .inl (hg ▸ generation_lt_of_earlier hc.linked t hb)
  · exact .inr (List.mem_singleton.mp hl ▸ ⟨hg, hs⟩)

theorem TokenChain.initial_le (hc : TokenChain family tokens) :
    initialRefreshGeneration ≤ family.currentRefreshGeneration := by
  obtain ⟨earlier, l, ht, -⟩ := hc.last
  cases tokens with
  | nil => exact absurd (congrArg List.length ht) (by simp)
  | cons x r =>
    rw [← (hc.first x rfl).2]
    rcases hc.generation_le List.mem_cons_self with hb | ⟨he, -⟩
    · exact Nat.le_of_lt hb
    · exact Nat.le_of_eq he

/-- A token with the values of a rotation. -/
def DeviceTokenRow.succeededBy (t : DeviceTokenRow) (successor : DeviceTokenId)
    (rotatedAt : Instant) : DeviceTokenRow :=
  { t with
    state := .rotated
    rotatedAt := some rotatedAt
    successorTokenId := some successor }

theorem TokenChain.rotate {f' : TokenFamilyRow} {new : DeviceTokenRow} {ra : Instant}
    (hch : TokenChain family (earlier ++ [t]))
    (hp : new.predecessorTokenId = some t.deviceTokenId)
    (hsu : new.successorTokenId = none) (hg : new.generation = t.generation + 1)
    (hc : f'.currentRefreshGeneration = t.generation + 1)
    (hst : new.state = f'.state.tokenState) :
    TokenChain f' (earlier ++ [t.succeededBy new.deviceTokenId ra, new]) where
  linked := by
    obtain ⟨hb, -, hj⟩ := List.isChain_append.mp hch.linked
    refine List.isChain_append.mpr ⟨hb, ?_, fun x hl y hf => ?_⟩
    · refine List.isChain_cons_cons.mpr ⟨?_, List.isChain_singleton _⟩
      exact ⟨rfl, rfl, hp, hg⟩
    · cases hf
      have hs := hj x hl t rfl
      exact ⟨hs.rotated, hs.successor, hs.predecessor, hs.generation⟩
  first := by
    have hfi := hch.first
    cases earlier with
    | nil =>
      rintro x ⟨⟩
      exact hfi t rfl
    | cons x r => exact hfi
  last := by
    refine ⟨earlier ++ [t.succeededBy new.deviceTokenId ra], new, ?_, hsu, hg.trans hc.symm, hst⟩
    rw [List.append_assoc]
    rfl

/-- A write that leaves the columns of the chain alone, and the rotated tokens, keeps it. -/
theorem TokenChain.map {f' : TokenFamilyRow} {w : DeviceTokenRow → DeviceTokenRow}
    (hch : TokenChain family tokens)
    (hc : ∀ t, (w t).deviceTokenId = t.deviceTokenId ∧
      (w t).predecessorTokenId = t.predecessorTokenId ∧
      (w t).successorTokenId = t.successorTokenId ∧ (w t).generation = t.generation)
    (hr : ∀ t, t.state = .rotated → (w t).state = .rotated)
    (hcu : f'.currentRefreshGeneration = family.currentRefreshGeneration)
    (hse : ∀ t ∈ tokens, t.state = family.state.tokenState → (w t).state = f'.state.tokenState) :
    TokenChain f' (tokens.map w) where
  linked := by
    refine List.isChain_map_of_isChain w (fun a b hs => ?_) hch.linked
    obtain ⟨idA, -, hsu, hge⟩ := hc a
    obtain ⟨idB, hp, -, hgb⟩ := hc b
    refine ⟨hr a hs.rotated, ?_, ?_, ?_⟩
    · rw [hsu, idB]
      exact hs.successor
    · rw [hp, idA]
      exact hs.predecessor
    · rw [hge, hgb]
      exact hs.generation
  first := by
    intro t hf
    rw [List.head?_map] at hf
    obtain ⟨u, hh, rfl⟩ := Option.map_eq_some_iff.mp hf
    obtain ⟨-, hpr, -, hg⟩ := hc u
    rw [hpr, hg]
    exact hch.first u hh
  last := by
    obtain ⟨earlier, t, rfl, hsr, hg, hst⟩ := hch.last
    obtain ⟨-, -, hs', hg'⟩ := hc t
    refine ⟨earlier.map w, w t, List.map_append, hs'.trans hsr, ?_, ?_⟩
    · rw [hg', hg, hcu]
    · exact hse t (List.mem_append_right _ List.mem_cons_self) hst

end PersonalOs.Authentication
