import PersonalOs.Authentication.DeviceRules

/-!
# What the device stores commit

Every write of the device stores, as a commit that keeps the rules; the commits of a transaction
are composed from them.
-/

namespace PersonalOs.Authentication

open Transactions Tables

variable {o : AuthOwn} {db after : Db}

theorem DeviceCommit.trans {a b c : Db} (hf : DeviceCommit o a b)
    (hs : DeviceCommit o b c) : DeviceCommit o a c where
  family := hs.family
  grants := hs.grants
  evolves := hf.evolves.trans hs.evolves
  unchanged l hu := (Unchanged.trans l a b c) (hf.unchanged l hu) (hs.unchanged l hu)

/-! ## Revocations -/

section Revoke

variable {rows : RevokedRows} {reason : RevocationReason} {revokedAt : Instant}

theorem commit_revoke (inv : FamilyInv db) (hg : GrantInv db) (hc : rows.Covers db)
    (hl : ∀ l ∈ rows.locks, l ∈ o.locks) :
    DeviceCommit o db (db.revoke rows reason revokedAt) where
  family := inv.revoke hc
  grants := by
    refine hg.stays (.of_grants hg evolves_revoke rfl ?_ ?_)
    · intro f' hm
      obtain ⟨f, old, rfl⟩ := mem_updateWhere.mp hm
      exact ⟨f, old, by split <;> rfl⟩
    · intro d' hm
      obtain ⟨d, old, rfl⟩ := mem_updateWhere.mp hm
      exact ⟨d, old, by split <;> rfl, by split <;> rfl⟩
  evolves := evolves_revoke
  unchanged l hu := unchanged_revoke inv hc fun hn => hu (hl l hn)

theorem activeTokensOf_singleton (id : TokenFamilyId) :
    db.activeTokensOf [id] = (db.tokensOf id).filter fun t => t.state = .active := by
  unfold Db.activeTokensOf Db.tokensOf
  rw [List.filter_filter]
  refine List.filter_congr fun t _ => ?_
  simp [Bool.and_comm]

theorem family_of_device (hgr : GrantInv db) {f f' : TokenFamilyRow}
    (hst : f ∈ db.deviceTokenFamilies) (hs' : f' ∈ db.deviceTokenFamilies)
    (hk : Unique TokenFamilyRow.tokenFamilyId db.deviceTokenFamilies)
    (hse : f.deviceId = f'.deviceId) : f.tokenFamilyId = f'.tokenFamilyId := by
  have hh {f : TokenFamilyRow} {g : GrantRow} {a : ExchangeAnchors}
      (hf : f ∈ db.deviceTokenFamilies) (hg : g ∈ db.deviceAuthorizationGrants)
      (he : g.exchange = some a) (ha : a.tokenFamilyId = f.tokenFamilyId) :
      a.deviceId = f.deviceId := by
    obtain ⟨ot, hfo, hd⟩ := (hgr.anchored g hg a he).family
    rw [ha, show db.family f.tokenFamilyId = some f from hk.lookup_of_mem hf] at hfo
    cases hfo
    exact hd.symm
  obtain ⟨g, hg, a, he, ha⟩ := hgr.families f hst
  obtain ⟨g', hg', a', he', ha'⟩ := hgr.families f' hs'
  have hs : a.deviceId = a'.deviceId := by
    rw [hh hst hg he ha, hh hs' hg' he' ha', hse]
  have hsa := hgr.apart g hg g' hg' a a' he he' (.inr hs)
  cases hgr.grantKeys.eq_of_key hg hg' hsa
  cases Option.some.inj (he.symm.trans he')
  exact ha.symm.trans ha'

theorem covers_family (inv : FamilyInv db) (grants : GrantInv db) {f : TokenFamilyRow}
    (found : db.family f.tokenFamilyId = some f) {devices : List DeviceId}
    (house : ∀ d ∈ devices, d = f.deviceId) : RevokedRows.Covers {
      families := [f.tokenFamilyId]
      tokens := (db.activeTokensOf [f.tokenFamilyId]).map DeviceTokenRow.deviceTokenId
      devices } db where
  found f' _ member _ t isToken active := by
    refine List.mem_map_of_mem ?_
    rw [activeTokensOf_singleton, List.mem_filter, ← List.mem_singleton.mp member]
    exact ⟨isToken, decide_eq_true active⟩
  inside t stored captured _ := by
    obtain ⟨t', isToken, same⟩ := List.mem_map.mp captured
    rw [activeTokensOf_singleton, List.mem_filter] at isToken
    obtain ⟨stored', isFamily⟩ := mem_tokensOf.mp isToken.1
    cases inv.tokenKeys.eq_of_key stored' stored same
    exact List.mem_singleton.mpr isFamily
  houses f' stored member _ := List.mem_singleton.mpr <|
    family_of_device grants stored (mem_of_lookup found) inv.familyKeys (house f'.deviceId member)

end Revoke

/-! ## Audit rows, activity and denials -/

theorem quiet_of_rows (hg : GrantInv db) (he : Evolves db after)
    (hss : after.deviceAuthorizationGrants = db.deviceAuthorizationGrants)
    (hs : after.deviceTokenFamilies = db.deviceTokenFamilies)
    (hsa : after.devices = db.devices) : GrantInv after :=
  hg.stays <| .of_grants hg he hss
    (fun f hm => ⟨f, hs ▸ hm, rfl⟩)
    fun d hm => ⟨d, hsa ▸ hm, rfl, rfl⟩

theorem commit_audit (inv : FamilyInv db) (hg : GrantInv db) {e : AuditEventRow}
    (ho : e.action ≠ .deviceTokenReuseDetected) :
    DeviceCommit o db (db.insertAudit e) where
  family := inv.insertAudit ho
  grants := quiet_of_rows hg evolves_insertAudit rfl rfl rfl
  evolves := evolves_insertAudit
  unchanged l _ := unchanged_insertAudit l

theorem commit_report (inv : FamilyInv db) (hg : GrantInv db) {e : AuditEventRow}
    {f : TokenFamilyRow} (hf : db.family e.targetId = some f) (hr : f.state = .revoked)
    (hu : db.reuseReports e.targetId = []) :
    DeviceCommit o db (db.insertAudit e) where
  family := inv.report hf hr hu
  grants := quiet_of_rows hg evolves_insertAudit rfl rfl rfl
  evolves := evolves_insertAudit
  unchanged l _ := unchanged_insertAudit l

theorem commit_touch (inv : FamilyInv db) (hg : GrantInv db) {fo : List DeviceId}
    {now : Instant} (hl : ∀ id ∈ fo, AuthRow.device id ∈ o.locks) :
    DeviceCommit o db (db.touchDevices fo now) where
  family := inv.touch
  grants := by
    refine hg.stays (.of_grants hg evolves_touch rfl (fun f hm => ⟨f, hm, rfl⟩) ?_)
    intro d' hm
    obtain ⟨d, old, rfl⟩ := mem_updateWhere.mp hm
    exact ⟨d, old, by split <;> rfl, by split <;> rfl⟩
  evolves := evolves_touch
  unchanged l hu := unchanged_touch fun id hm he => hu (he ▸ hl id hm)

theorem commit_grants (inv : FamilyInv db) (hg : GrantInv db) {rows : List GrantRow}
    (hq : Quiet db { db with deviceAuthorizationGrants := rows })
    (hk : ∀ id g, AuthRow.deviceAuthorizationGrant id ∉ o.locks → db.grant id = some g →
      lookup GrantRow.grantId rows id = some g) :
    DeviceCommit o db { db with deviceAuthorizationGrants := rows } where
  family := inv.withGrants
  grants := hg.stays hq
  evolves := hq.evolves
  unchanged _ hu := unchanged_withGrants fun id g he => hk id g (he ▸ hu)

theorem commit_deny (inv : FamilyInv db) (hgr : GrantInv db) {f : List GrantId}
    {now : Instant} (hl : ∀ id ∈ f, AuthRow.deviceAuthorizationGrant id ∈ o.locks) :
    DeviceCommit o db { db with
      deviceAuthorizationGrants := denyGrants db.deviceAuthorizationGrants f now } := by
  refine commit_grants inv hgr (.update hgr (fun _ => rfl) ?_ ?_ ?_) ?_
  · intro g ha he
    rcases (of_decide_eq_true ha).2 with hs | hs <;> exact nomatch hs.symm.trans he
  · exact fun g _ => ⟨rfl, fun h => (nomatch h), fun h => (nomatch h)⟩
  · exact fun g ha => .deny now (of_decide_eq_true ha).2
  · intro id g hu hg
    refine lookup_kept (fun _ => rfl) hg (decide_eq_false fun ha => hu ?_)
    exact (key_of_lookup hg : g.grantId = id) ▸ hl g.grantId ha.1

theorem commit_decide (inv : FamilyInv db) (hgr : GrantInv db) {a : Bool}
    {c : DecideGrantCommand}
    (hl : AuthRow.deviceAuthorizationGrant c.grantId ∈ o.locks) :
    DeviceCommit o db { db with
      deviceAuthorizationGrants := updateWhere db.deviceAuthorizationGrants
        (fun g => g.grantId = c.grantId ∧ g.state = .pending)
        (fun g => g.decide a c) } := by
  refine commit_grants inv hgr (.update hgr (fun g => ?_) ?_ ?_ ?_) ?_
  · cases a <;> rfl
  · intro g ha he
    exact nomatch (of_decide_eq_true ha).2.symm.trans he
  · intro g _
    cases a <;> exact ⟨rfl, fun h => (nomatch h), fun h => (nomatch h)⟩
  · intro g ha
    have hp := (of_decide_eq_true ha).2
    cases a with
    | true => exact .approve c hp
    | false => exact .deny c.databaseNow (.inl hp)
  · intro id g hu hg
    refine lookup_kept (fun g => ?_) hg (decide_eq_false fun ha => hu ?_)
    · cases a <;> rfl
    · exact (key_of_lookup hg : g.grantId = id) ▸ ha.1.symm ▸ hl

theorem commit_insertGrant (inv : FamilyInv db) (hg : GrantInv db) {g : GrantRow}
    (hf : lookup GrantRow.grantId db.deviceAuthorizationGrants g.grantId = none)
    (hp : g.state = .pending) (hu : g.exchange = none)
    (hun : g.approvedAt = none) :
    DeviceCommit o db { db with
      deviceAuthorizationGrants := db.deviceAuthorizationGrants ++ [g] } :=
  commit_grants inv hg (.insert hg hf hp hu hun) fun _ _ _ hgr => lookup_snoc_old hgr

/-! ## Rotation and exchange -/

theorem commit_rotate (inv : FamilyInv db) (hg : GrantInv db)
    {p r a : DeviceTokenRow} {fa : TokenFamilyRow}
    (hs : p ∈ db.deviceTokens) (hk : p.tokenKind = .refresh)
    (ha : p.state = .active)
    (hf : db.family p.tokenFamilyId = some fa)
    (hc : fa.currentRefreshGeneration = p.generation)
    (hp : SuccessorPair db p r a)
    (he : r.expiresAt ≤ fa.absoluteExpiresAt)
    (ht : AuthRow.deviceToken p.deviceTokenId ∈ o.locks)
    (hh : AuthRow.deviceTokenFamily p.tokenFamilyId ∈ o.locks) :
    DeviceCommit o db (db.rotate p r a) where
  family := inv.rotate hs hk ha hf hc hp he
  grants := by
    refine hg.stays (.of_grants hg (evolves_rotate ha hs inv.tokenKeys) rfl ?_
      fun d hm => ⟨d, hm, rfl, rfl⟩)
    intro f' hm
    obtain ⟨f, old, rfl⟩ := mem_updateWhere.mp hm
    exact ⟨f, old, by split <;> rfl⟩
  evolves := evolves_rotate ha hs inv.tokenKeys
  unchanged _ hu := unchanged_rotate inv hs hp (fun hsa => hu (hsa ▸ ht)) fun hsa => hu (hsa ▸ hh)

theorem commit_exchange (inv : FamilyInv db) (hgr : GrantInv db) {d : DeviceRow}
    {f : TokenFamilyRow} {ac r : DeviceTokenRow} {gr : GrantRow}
    {a : ExchangeAnchors} (hr : Registration db d f ac r)
    (ho : d.deviceKind = .obsidian)
    (hf : db.grant gr.grantId = some gr) (hap : gr.state = .approved)
    (hi : a.exchangedAt < gr.expiresAt)
    (hn : a.deviceId = d.deviceId ∧ a.tokenFamilyId = f.tokenFamilyId ∧
      a.initialAccessTokenId = ac.deviceTokenId ∧
      a.initialRefreshTokenId = r.deviceTokenId)
    (ha : ac.generation = initialRefreshGeneration)
    (hl : AuthRow.deviceAuthorizationGrant gr.grantId ∈ o.locks) :
    DeviceCommit o db { db.register d f ac r with
      deviceAuthorizationGrants :=
        exchangeGrants db.deviceAuthorizationGrants gr.grantId a } where
  family := (inv.register hr).withGrants
  grants := hgr.exchange hr ho hf hap hi hn ha
  evolves := (evolves_register hr).trans (evolves_exchangeGrants hgr.grantKeys hf hap hi)
  unchanged l hu := by
    refine Unchanged.trans l _ _ _ (unchanged_register hr l) ?_
    refine unchanged_withGrants fun id g he hg => ?_
    refine lookup_kept (fun _ => rfl) hg (decide_eq_false fun had => hu ?_)
    rw [he, ← (key_of_lookup hg : g.grantId = id), had.1]
    exact hl

end PersonalOs.Authentication
