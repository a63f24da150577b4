import PersonalOs.Authentication.DeviceCommits

/-!
# Safety of the device-token store
-/

namespace PersonalOs.Authentication

open Transactions Tables

variable {call : DeviceCall} {born s s' : Snapshot Db} {o : AuthOwn}

/-! ## Presentations -/

theorem tokenOfKind_some {db : Db} {k : DeviceTokenKind} {id : DeviceTokenId}
    {t : DeviceTokenRow} :
    db.tokenOfKind k id = some t ↔ db.token id = some t ∧ t.tokenKind = k := by
  simp [Db.tokenOfKind, Option.filter_eq_some_iff]

/-- The rows of a presented refresh credential. -/
structure Presented (db : Db) (tokenId : DeviceTokenId) (predecessor : DeviceTokenRow)
    (family : TokenFamilyRow) : Prop where
  token : db.token tokenId = some predecessor
  kind : predecessor.tokenKind = .refresh
  family : db.family predecessor.tokenFamilyId = some family

structure HoldsPresentation (o : AuthOwn) (predecessor : DeviceTokenRow) : Prop where
  token : AuthRow.deviceToken predecessor.deviceTokenId ∈ o.locks
  family : AuthRow.deviceTokenFamily predecessor.tokenFamilyId ∈ o.locks

section Presentation

variable {tokenId : DeviceTokenId} {predecessor : DeviceTokenRow} {family : TokenFamilyRow}

theorem Presented.isToken {db : Db} (hp : Presented db tokenId predecessor family) :
    predecessor.deviceTokenId = tokenId :=
  key_of_lookup hp.token

theorem Presented.isFamily {db : Db} (hp : Presented db tokenId predecessor family) :
    family.tokenFamilyId = predecessor.tokenFamilyId :=
  key_of_lookup hp.family

theorem Presented.stays (hp : Presented s.db tokenId predecessor family)
    (hh : HoldsPresentation o predecessor) (ho : Rely deviceRules o s s') :
    Presented s'.db tokenId predecessor family where
  token := by
    have hk : Unchanged (.deviceToken tokenId) s.db s'.db :=
      unchanged_of_rely ho (hp.isToken ▸ hh.token)
    exact hk _ hp.token
  kind := hp.kind
  family := (unchanged_of_rely ho hh.family _ hp.family).1

theorem Presented.live {now : Db} (hp : Presented now tokenId predecessor family)
    (inv : FamilyInv born.db) (he : Evolves born.db now) (ha : family.state = .active) :
    CredentialLive born.db tokenId := by
  have ht := hp.token
  rw [← hp.isToken] at ht ⊢
  exact credentialLive_of_active inv he ht hp.family ha

theorem safe_lockPresentation {h : PresentedHashes}
    {n : DeviceTokenRow → TokenFamilyRow → AuthProgram} (hla : Rely deviceRules .none born s)
    (hre : ∀ s', DeviceGood call born s' (.rejected .deviceCredentialInvalid))
    (ha : ∀ o s' predecessor family, Rely deviceRules .none born s' → DeviceInv s' →
      Presented s'.db tokenId predecessor family → HoldsPresentation o predecessor →
      Safe deviceRules call born (n predecessor family) o s') :
    Safe deviceRules call born (lockPresentation tokenId h n) .none s := by
  have hr {o : AuthOwn} {s : Snapshot Db} :
      Safe deviceRules call born (reject .deviceCredentialInvalid) o s :=
    safe_rollback fun s' _ _ => hre s'
  refine .selectForUpdate_found (fun _ _ _ _ => hr) (fun _ _ _ _ _ => hr) ?_
  intro s₁ predecessor db₁ l ho₁ _ hl hfo
  split
  · refine .selectForUpdate_found (fun _ _ _ _ => hr) (fun _ _ _ _ _ => hr) ?_
    intro s₂ family db₂ l' ho₂ hi₂ hl' hf
    obtain ⟨ht, hki⟩ := tokenOfKind_some.mp hfo
    have hs : l.deviceTokenId = predecessor.deviceTokenId :=
      (key_of_lookup (tokenOfKind_some.mp hl).1).trans (key_of_lookup ht).symm
    have hsa : l'.tokenFamilyId = predecessor.tokenFamilyId := key_of_lookup hl'
    refine ha _ s₂ predecessor family (hla.trans (ho₁.trans ho₂.toNone)) hi₂ ⟨?_, hki, hf⟩ ⟨?_, ?_⟩
    · have hh : AuthRow.deviceToken tokenId ∈
          ((Own.none : AuthOwn).withLock (.deviceToken l.deviceTokenId)).locks := by
        rw [hs, (key_of_lookup ht : predecessor.deviceTokenId = tokenId)]
        exact List.mem_cons_self
      have hk : Unchanged (.deviceToken tokenId) s₁.db s₂.db := unchanged_of_rely ho₂ hh
      exact hk _ ht
    · exact List.mem_cons_of_mem _ (hs ▸ List.mem_cons_self)
    · exact hsa ▸ List.mem_cons_self
  · exact hr

end Presentation

/-! ## Reuse -/

variable {family : TokenFamilyRow}

theorem held_family (hf : s.db.family family.tokenFamilyId = some family)
    (hh : AuthRow.deviceTokenFamily family.tokenFamilyId ∈ o.locks)
    (ho : Rely deviceRules o s s') :
    s'.db.family family.tokenFamilyId = some family ∧
      s'.db.activeTokensOf [family.tokenFamilyId] = s.db.activeTokensOf [family.tokenFamilyId] := by
  obtain ⟨hf', ht⟩ := unchanged_of_rely ho hh family hf
  rw [activeTokensOf_singleton, activeTokensOf_singleton, ht]
  exact ⟨hf', rfl⟩

/-- The end of a family whose active tokens are locked, and of its device where it is. -/
theorem commit_endFamily (inv : DeviceInv s) {ts : List DeviceTokenRow}
    {de : List DeviceRow} (r : RevocationReason) (da : Instant)
    (hf : s.db.family family.tokenFamilyId = some family)
    (hto : ts = s.db.activeTokensOf [family.tokenFamilyId])
    (hh : ∀ d ∈ de, d.deviceId = family.deviceId)
    (hhe : AuthRow.deviceTokenFamily family.tokenFamilyId ∈ o.locks)
    (ht : ∀ l ∈ ts.map fun t => AuthRow.deviceToken t.deviceTokenId, l ∈ o.locks)
    (hd : ∀ l ∈ de.map fun d => AuthRow.device d.deviceId, l ∈ o.locks) :
    DeviceCommit o s.db (s.db.revoke
      { families := [family.tokenFamilyId]
        tokens := ts.map DeviceTokenRow.deviceTokenId
        devices := de.map DeviceRow.deviceId } r da) := by
  subst hto
  refine commit_revoke inv.1 inv.2 (covers_family inv.1 inv.2 hf fun id hm => ?_) ?_
  · obtain ⟨d, hde, rfl⟩ := List.mem_map.mp hm
    exact hh d hde
  · intro l hn
    simp only [RevokedRows.locks, List.map_cons, List.map_nil, List.map_map, List.mem_append,
      List.mem_singleton] at hn
    rcases hn with (rfl | htn) | hdev
    · exact hhe
    · exact ht l htn
    · exact hd l hdev

theorem safe_revokeFamilyForReuse {da : Instant}
    (hr : ∀ s', DeviceGood call born s' (.rejected .deviceTokenReuseDetected))
    (hfo : s.db.family family.tokenFamilyId = some family)
    (hh : AuthRow.deviceTokenFamily family.tokenFamilyId ∈ o.locks) :
    Safe deviceRules call born (revokeFamilyForReuse family da) o s := by
  unfold revokeFamilyForReuse
  split
  · exact safe_rollback fun s' _ _ => hr s'
  next hu =>
    have ha : family.state = .active := by
      cases hs : family.state
      · rfl
      · exact absurd hs hu
    refine .updateRows fun s₁ s₂ ho₁ _ ho₂ _ =>
      .updateRows fun s₃ s₄ ho₃ _ ho₄ _ => ?_
    intro s₅ ho₅ hi₅
    -- the family lock keeps the tokens found in the first statement the family's active tokens
    obtain ⟨hf₁, -⟩ := held_family hfo hh ho₁
    obtain ⟨hf₂, ht₂⟩ := held_family hf₁ hh ho₂
    obtain ⟨hf₃, ht₃⟩ := held_family hf₂ (Own.held_withLocks hh) ho₃
    obtain ⟨hf₄, ht₄⟩ := held_family hf₃ (Own.held_withLocks hh) ho₄
    obtain ⟨hf₅, ht₅⟩ := held_family hf₄ (Own.held_withLocks (Own.held_withLocks hh)) ho₅
    refine ⟨fun db hw => ⟨?_, fun s' _ _ => hr s'⟩, fun hrd => nomatch hrd⟩
    cases hw
    have hho : ∀ d ∈ (s₃.db.device family.deviceId).toList.filter fun d => d.status = .active,
        d.deviceId = family.deviceId :=
      fun d hm => key_of_lookup (Option.mem_toList.mp (List.mem_filter.mp hm).1)
    have he := commit_endFamily hi₅ .tokenReuse da hf₅
      (ht₅.trans (ht₄.trans (ht₃.trans ht₂))).symm hho
      (Own.held_withLocks (Own.held_withLocks hh))
      (fun l hn => Own.held_withLocks (Own.taken_withLocks hn))
      (fun l hn => Own.taken_withLocks hn)
    have hre : lookup TokenFamilyRow.tokenFamilyId (updateWhere s₅.db.deviceTokenFamilies
        (fun f => f.tokenFamilyId ∈ [family.tokenFamilyId] ∧ f.state = .active)
        (·.revoke .tokenReuse da)) family.tokenFamilyId = some (family.revoke .tokenReuse da) :=
      lookup_written (fun _ => rfl) hf₅ (decide_eq_true ⟨List.mem_singleton_self _, ha⟩)
    refine he.trans (commit_report he.family he.grants hre rfl ?_)
    have hun := (hi₅.1.reported family.tokenFamilyId).2
    by_contra hso
    obtain ⟨f, hf, hrev⟩ := hun hso
    cases Option.some.inj (hf.symm.trans hf₅)
    exact hu hrev

/-! ## Rotation and replay -/

section Classification

variable {predecessor : DeviceTokenRow} {successor : Option DeviceTokenRow}
  {family : TokenFamilyRow} {rotationId : RotationId} {now : Instant}

theorem classify_newRotation (hc : classifyRefreshPresentation predecessor successor family
      rotationId now = .newRotation) :
    family.state ≠ .revoked ∧ predecessor.state = .active ∧
      family.currentRefreshGeneration = predecessor.generation := by
  unfold classifyRefreshPresentation at hc
  split at hc
  · exact nomatch hc
  next hu =>
    split at hc
    · exact nomatch hc
    · split at hc
      · exact nomatch hc
      · split at hc <;> exact nomatch hc
    next ha =>
      split at hc
      · exact nomatch hc
      next hcu => exact ⟨hu, ha, not_ne_iff.mp hcu⟩

theorem classify_exactReplay (hc : classifyRefreshPresentation predecessor successor family
      rotationId now = .exactReplay) : family.state ≠ .revoked := by
  unfold classifyRefreshPresentation at hc
  split at hc
  · exact nomatch hc
  · assumption

end Classification

theorem safe_refreshRotation {c : RefreshRotationCommand} (inv : DeviceInv born) :
    Safe deviceRules (.refreshRotation c) born (refreshRotation c) .none born := by
  refine safe_runAuthenticationTransaction (fun _ _ _ => trivial) (fun s hla _ => ?_) inv
  intro s₁ ho₁ _
  refine safe_lockPresentation (hla.trans ho₁) (fun _ => trivial) ?_
  intro o s₂ predecessor family hl₂ _ hp₂ hh s₃ ho₃ hi₃
  have hp₃ := hp₂.stays hh ho₃
  have he₃ := evolves_of_rely (hl₂.trans ho₃.toNone)
  have hhe : AuthRow.deviceTokenFamily family.tokenFamilyId ∈ o.locks :=
    hp₃.isFamily ▸ hh.family
  have hr {s : Snapshot Db} (hp : Presented s.db c.predecessorTokenId predecessor
      family) : Safe deviceRules (.refreshRotation c) born
        (revokeFamilyForReuse family c.databaseNow) o s :=
    safe_revokeFamilyForReuse (fun _ => trivial) (hp.isFamily ▸ hp.family) hhe
  dsimp only
  split
  · next _ hc =>
    obtain ⟨hu, ha, hcu⟩ := classify_newRotation hc
    have hl := hp₃.live inv.1 he₃ (active_of_unrevoked hu)
    refine Safe.commitOrAbort (fun s₄ db r ho₄ hi₄ ok => ⟨?_, fun _ _ _ => hl⟩)
      fun _ _ _ _ _ _ _ _ => trivial
    have hp₄ := hp₃.stays hh ho₄
    have hs := mem_of_lookup hp₄.token
    obtain ⟨re, a, rfl, hpa, rfl, rfl⟩ :=
      newRotationWrites_ok hi₄.1.tokenKeys hs ha ok
    exact commit_rotate hi₄.1 hi₄.2 hs hp₄.kind ha hp₄.family hcu hpa
      (Nat.min_le_right _ _) hh.token hh.family
  · next successor hc _ =>
    have hl := hp₃.live inv.1 he₃
      (active_of_unrevoked (classify_exactReplay hc))
    intro s₄ ho₄ _
    dsimp only
    split
    · exact safe_rollback fun _ _ _ => hl
    · exact hr (hp₃.stays hh ho₄)
  · exact hr hp₃

/-! ## Revocations -/

theorem safe_revokeCurrentRefresh {c : RevokeCurrentRefreshCommand} (inv : DeviceInv born) :
    Safe deviceRules (.revokeCurrentRefresh c) born (revokeCurrentRefresh c) .none
      born := by
  refine safe_runAuthenticationTransaction (fun _ _ _ => trivial) (fun s hl _ => ?_) inv
  refine safe_lockPresentation hl (fun _ => trivial) ?_
  intro o s₁ predecessor family hl₁ _ hp hho
  have hf : s₁.db.family family.tokenFamilyId = some family :=
    hp.isFamily ▸ hp.family
  have hh : AuthRow.deviceTokenFamily family.tokenFamilyId ∈ o.locks :=
    hp.isFamily ▸ hho.family
  split
  · exact safe_rollback fun _ _ _ => trivial
  next open? =>
    split
    · exact safe_revokeFamilyForReuse (fun _ => trivial) hf hh
    · have hli := hp.live inv.1 (evolves_of_rely hl₁)
        (active_of_unrevoked fun hre => open? (.inl hre))
      refine .updateRows fun s₂ s₃ ho₂ _ ho₃ _ => ?_
      intro s₄ ho₄ hi₄
      refine ⟨fun db hw => ⟨?_, fun _ _ _ => hli⟩, fun hr => nomatch hr⟩
      cases hw
      obtain ⟨hf₂, -⟩ := held_family hf hh ho₂
      obtain ⟨hf₃, ht₃⟩ := held_family hf₂ hh ho₃
      obtain ⟨hf₄, ht₄⟩ := held_family hf₃ (Own.held_withLocks hh) ho₄
      have hhe : ∀ d ∈ ([] : List DeviceRow), d.deviceId = family.deviceId :=
        fun _ hm => nomatch hm
      have he := commit_endFamily hi₄ .selfRevoked c.databaseNow hf₄
        (ht₄.trans ht₃).symm hhe (Own.held_withLocks hh)
        (fun l hn => Own.taken_withLocks hn) (fun _ hm => nomatch hm)
      exact he.trans (commit_audit he.family he.grants fun h => nomatch h)

/-- A family of a device found active later was there, active, when the device was. -/
theorem active_family_before {b a : Db} (he : Evolves b a)
    {d : DeviceRow} {f' : TokenFamilyRow} (hh : b.device f'.deviceId = some d)
    (hf : a.family f'.tokenFamilyId = some f') (ha : f'.state = .active) :
    ∃ f ∈ b.deviceTokenFamilies, f.tokenFamilyId = f'.tokenFamilyId ∧
      f.deviceId = f'.deviceId ∧ f.state = .active := by
  cases old : b.family f'.tokenFamilyId with
  | none => exact nomatch (he.newFamily _ f' hf old).symm.trans hh
  | some f =>
    obtain ⟨f'', hf'', hp⟩ := he.family _ f old
    cases Option.some.inj (hf''.symm.trans hf)
    refine ⟨f, mem_of_lookup old, key_of_lookup old, hp.deviceId.symm, ?_⟩
    cases hs : f.state
    · rfl
    · exact nomatch ha.symm.trans (hp.revoked hs)

def Db.activeFamiliesOf (db : Db) (id : DeviceId) : List TokenFamilyRow :=
  db.deviceTokenFamilies.filter fun f => f.deviceId = id ∧ f.state = .active

/-- The families of a device found first, and then their tokens, are all there is of it. -/
theorem covers_device {x y db : Db} {id : DeviceId} {d : DeviceRow} (hi₀ : FamilyInv x)
    (inv : FamilyInv y) (hi' : FamilyInv db) (he : Evolves x y) (he' : Evolves y db)
    (hh : x.device id = some d)
    (hk : ∀ f ∈ x.activeFamiliesOf id, ∀ f', y.family f.tokenFamilyId = some f' →
      db.tokensOf f.tokenFamilyId = y.tokensOf f.tokenFamilyId) :
    RevokedRows.Covers {
      families := (x.activeFamiliesOf id).map TokenFamilyRow.tokenFamilyId
      tokens := (y.activeTokensOf ((y.deviceTokenFamilies.filter fun f =>
        f.deviceId = id).map TokenFamilyRow.tokenFamilyId)).map
          DeviceTokenRow.deviceTokenId
      devices := [id] } db := by
  have hca {a : Db} {f : TokenFamilyRow} (he : Evolves x a)
      (hke : Unique TokenFamilyRow.tokenFamilyId a.deviceTokenFamilies)
      (hst : f ∈ a.deviceTokenFamilies) (ho : f.deviceId = id)
      (ha : f.state = .active) :
      ∃ f₀ ∈ x.activeFamiliesOf id, f₀.tokenFamilyId = f.tokenFamilyId := by
    obtain ⟨f₀, old, same, hse, hw⟩ := active_family_before he
      (ho.symm ▸ hh) (hke.lookup_of_mem hst) ha
    exact ⟨f₀, List.mem_filter.mpr ⟨old, decide_eq_true ⟨hse.trans ho, hw⟩⟩, same⟩
  refine ⟨fun f hst hm ha t ht hac => ?_, fun t hst hm ha => ?_, fun f hst hm ha => ?_⟩
  · obtain ⟨f₀, hc, same⟩ := List.mem_map.mp hm
    obtain ⟨old, hd⟩ := List.mem_filter.mp hc
    obtain ⟨f₁, hf₁, hp⟩ := he.family _ f₀ (hi₀.family_of_mem old)
    rw [← same, hk f₀ hc f₁ hf₁] at ht
    obtain ⟨hs, hf⟩ := mem_tokensOf.mp ht
    have ho : f₁.deviceId = id := hp.deviceId.trans (of_decide_eq_true hd).1
    refine List.mem_map_of_mem (List.mem_filter.mpr ⟨hs, decide_eq_true ⟨?_, hac⟩⟩)
    rw [hf, ← (key_of_lookup hf₁ : f₁.tokenFamilyId = f₀.tokenFamilyId)]
    exact List.mem_map_of_mem (List.mem_filter.mpr ⟨mem_of_lookup hf₁, decide_eq_true ho⟩)
  · obtain ⟨t₁, hc, same⟩ := List.mem_map.mp hm
    obtain ⟨hs, had⟩ := List.mem_filter.mp hc
    obtain ⟨hi, hac⟩ := of_decide_eq_true had
    obtain ⟨f₁, hf, hsa⟩ := List.mem_map.mp hi
    obtain ⟨hs₁, ho⟩ := List.mem_filter.mp hf
    have hfa : f₁.state = .active := by
      cases hsta : f₁.state
      · rfl
      · exact absurd hac ((inv.sound f₁ hs₁).retired hsta t₁ (mem_tokensOf.mpr ⟨hs, hsa.symm⟩))
    obtain ⟨f₀, hf₀, he₀⟩ := hca he inv.familyKeys hs₁ (of_decide_eq_true ho) hfa
    obtain ⟨t', ht', hp⟩ := he'.token _ t₁ (inv.tokenKeys.lookup_of_mem hs)
    have isT : t' = t := hi'.tokenKeys.eq_of_key (mem_of_lookup ht') hst
      ((key_of_lookup ht').trans same)
    rw [← isT, hp.tokenFamilyId, ← hsa, ← he₀]
    exact List.mem_map_of_mem hf₀
  · obtain ⟨f₀, hf₀, he₀⟩ := hca (he.trans he') hi'.familyKeys hst (List.mem_singleton.mp hm) ha
    exact he₀ ▸ List.mem_map_of_mem hf₀

theorem commit_endDevice (inv : DeviceInv s) {rs : RevokedRows} {f : List GrantId}
    {e : AuditEventRow} {now : Instant} (hc : rs.Covers s.db)
    (hl : ∀ l ∈ rs.locks, l ∈ o.locks)
    (hg : ∀ id ∈ f, AuthRow.deviceAuthorizationGrant id ∈ o.locks)
    (ho : e.action ≠ .deviceTokenReuseDetected) :
    DeviceCommit o s.db (({ s.db.revoke rs .adminRevoked now with
      deviceAuthorizationGrants :=
        denyGrants s.db.deviceAuthorizationGrants f now }).insertAudit e) := by
  have he : DeviceCommit o s.db (s.db.revoke rs .adminRevoked now) :=
    commit_revoke inv.1 inv.2 hc hl
  have hd : DeviceCommit o (s.db.revoke rs .adminRevoked now)
      { s.db.revoke rs .adminRevoked now with
        deviceAuthorizationGrants := denyGrants s.db.deviceAuthorizationGrants f now } :=
    commit_deny he.family he.grants hg
  exact (he.trans hd).trans (commit_audit hd.family hd.grants ho)

theorem safe_adminRevokeDevice {c : AdminRevokeDeviceCommand} (inv : DeviceInv born) :
    Safe deviceRules (.adminRevokeDevice c) born (adminRevokeDevice c) .none born := by
  have hr {co : AuthErrorCode} {o : AuthOwn} {s : Snapshot Db} :
      Safe deviceRules (.adminRevokeDevice c) born (reject co) o s :=
    safe_rollback fun _ _ _ => trivial
  refine safe_runAuthenticationTransaction (fun _ _ _ => trivial) (fun s hla _ => ?_) inv
  refine .selectForUpdate_found (fun _ _ _ _ => hr) (fun _ _ _ _ _ => hr) ?_
  intro s₁ d db₁ lo ho₁ _ hl hd
  have hi : d.deviceId = c.deviceId := key_of_lookup hd
  have hi' : lo.deviceId = c.deviceId := key_of_lookup hl
  split
  · exact hr
  split
  · exact hr
  split
  · split
    · exact safe_rollback fun _ _ _ => trivial
    · exact hr
  -- the device is locked, so that no family of it is new; its families found first are locked
  -- before their tokens are found
  refine .updateRows fun s₂ s₃ ho₂ hi₂ ho₃ _ => ?_
  refine .updateRows fun s₄ s₅ ho₄ hi₄ ho₅ _ => ?_
  refine .updateRows fun s₆ s₇ ho₆ _ ho₇ _ => ?_
  intro s₈ ho₈ hi₈
  refine ⟨fun db hw => ⟨?_, fun _ _ _ => trivial⟩, fun hre => nomatch hre⟩
  cases hw
  obtain ⟨d₂, hho, -⟩ := (evolves_of_rely ho₂).device _ d hd
  have he := (evolves_of_rely ho₃).trans (evolves_of_rely ho₄)
  have he' := (evolves_of_rely ho₅).trans ((evolves_of_rely ho₆).trans
    ((evolves_of_rely ho₇).trans (evolves_of_rely ho₈)))
  have hco := covers_device hi₂.1 hi₄.1 hi₈.1 he he' hho
    (fun f hc f' hf => ?_)
  · refine commit_endDevice hi₈ hco (fun l hn => ?_) (fun id hm => ?_)
      fun h => nomatch h
    · simp only [RevokedRows.locks, List.map_cons, List.map_nil, List.map_map, List.mem_append,
        List.mem_singleton] at hn
      rcases hn with (family | ht) | rfl
      · exact Own.held_withLocks (Own.held_withLocks (Own.taken_withLocks family))
      · exact Own.held_withLocks (Own.taken_withLocks ht)
      · refine Own.held_withLocks (Own.held_withLocks (Own.held_withLocks ?_))
        exact hi' ▸ List.mem_cons_self
    · obtain ⟨g, hg, rfl⟩ := List.mem_map.mp hm
      exact Own.taken_withLocks (List.mem_map.mpr ⟨g, hg, rfl⟩)
  · have hh : AuthRow.deviceTokenFamily f.tokenFamilyId ∈
        (s₂.db.activeFamiliesOf c.deviceId).map fun f => .deviceTokenFamily f.tokenFamilyId :=
      List.mem_map.mpr ⟨f, hc, rfl⟩
    obtain ⟨hf₅, ht₅⟩ := unchanged_of_rely ho₅ (Own.taken_withLocks hh) f' hf
    obtain ⟨hf₆, ht₆⟩ := unchanged_of_rely ho₆
      (Own.held_withLocks (Own.taken_withLocks hh)) f' hf₅
    obtain ⟨hf₇, ht₇⟩ := unchanged_of_rely ho₇
      (Own.held_withLocks (Own.taken_withLocks hh)) f' hf₆
    obtain ⟨-, ht₈⟩ := unchanged_of_rely ho₈
      (Own.held_withLocks (Own.held_withLocks (Own.taken_withLocks hh))) f' hf₇
    exact ht₈.trans (ht₇.trans (ht₆.trans ht₅))

/-! ## Authentication -/

theorem safe_authenticateAccessToken {c : AccessTokenAuthenticationCommand}
    (inv : DeviceInv born) :
    Safe deviceRules (.authenticateAccessToken c) born (authenticateAccessToken c)
      .none born := by
  have hr {co : AuthErrorCode} {s : Snapshot Db} :
      Safe deviceRules (.authenticateAccessToken c) born (reject co) .none s :=
    safe_rollback fun _ _ _ => trivial
  refine safe_runAuthenticationTransaction (fun _ _ _ => trivial) (fun s hl _ => ?_) inv
  refine safe_readRow (fun _ _ _ _ => hr) fun s₁ t ho₁ _ hfo => ?_
  obtain ⟨ht, -⟩ := tokenOfKind_some.mp hfo
  split
  · exact hr
  split
  · exact hr
  split
  · exact hr
  split
  · exact hr
  next hi =>
  refine safe_readRow (fun _ _ _ _ => hr) fun s₂ f ho₂ _ hf => ?_
  split
  · exact hr
  next hu =>
  split
  · exact hr
  next hin =>
  -- what is known once the family is found active stays known
  have hl₂ := hl.trans (ho₁.trans ho₂)
  have hg {s₃ : Snapshot Db} (he₃ : Evolves s₂.db s₃.db) :
      AccessGood c born.db s₃.db := by
    obtain ⟨t₂, ht₂, hp₂⟩ := (evolves_of_rely ho₂).token _ t ht
    obtain ⟨t₃, ht₃, hp₃⟩ := he₃.token _ t₂ ht₂
    obtain ⟨f₃, hf₃, hp⟩ := he₃.family _ f hf
    have hid : t₂.deviceTokenId = c.tokenId := key_of_lookup ht₂
    refine ⟨?_, t₃, f₃, ht₃, ?_, ?_, ?_⟩
    · rw [← hid]
      refine credentialLive_of_active inv.1 (evolves_of_rely hl₂) (hid ▸ ht₂) ?_
        (active_of_unrevoked hu)
      exact hp₂.tokenFamilyId.symm ▸ hf
    · rw [hp₃.tokenFamilyId, hp₂.tokenFamilyId]
      exact hf₃
    · rw [hp₃.expiresAt, hp₂.expiresAt]
      exact Nat.not_le.mp hi
    · rw [hp.absoluteExpiresAt]
      exact Nat.not_le.mp hin
  refine safe_readRow (fun _ _ _ _ => hr) fun s₃ de ho₃ _ _ => ?_
  split
  · exact hr
  refine safe_readRow (fun _ _ _ _ => hr) fun s₄ _ ho₄ _ _ => ?_
  refine safe_readRow (fun _ _ _ _ => hr) fun s₅ _ ho₅ _ _ => ?_
  have ho := ho₃.trans (ho₄.trans ho₅)
  dsimp only
  split
  · refine .updateRows fun s₆ s₇ ho₆ _ ho₇ _ => ?_
    intro s₈ ho₈ hi₈
    have he₈ := ((evolves_of_rely ho).trans (evolves_of_rely ho₆)).trans
      ((evolves_of_rely ho₇).trans (evolves_of_rely ho₈))
    refine ⟨fun db hw => ?_, fun hre => nomatch hre⟩
    cases hw
    refine ⟨commit_touch hi₈.1 hi₈.2 fun id hm => ?_, fun s₉ ho₉ _ => hg ?_⟩
    · obtain ⟨d, hd, rfl⟩ := List.mem_map.mp hm
      exact Own.taken_withLocks (List.mem_map.mpr ⟨d, hd, rfl⟩)
    · exact (he₈.trans evolves_touch).trans (evolves_of_rely ho₉)
  · exact safe_rollback fun s₆ ho₆ _ => hg ((evolves_of_rely ho).trans
      (evolves_of_rely ho₆))

end PersonalOs.Authentication
