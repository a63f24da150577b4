import PersonalOs.Authentication.DeviceTables

/-!
# The writes of the device stores

Each write of a transaction keeps the invariant of the device tables, takes nothing back and
leaves the rows alone that it does not lock.
-/

namespace PersonalOs.Authentication

open Tables

variable {db : Db}

theorem mem_tokensOf {id : TokenFamilyId} {t : DeviceTokenRow} :
    t ∈ db.tokensOf id ↔ t ∈ db.deviceTokens ∧ t.tokenFamilyId = id := by
  simp [Db.tokensOf]

theorem FamilyInv.family_of_mem (inv : FamilyInv db) {f : TokenFamilyRow}
    (hm : f ∈ db.deviceTokenFamilies) : db.family f.tokenFamilyId = some f :=
  inv.familyKeys.lookup_of_mem hm

theorem FamilyInv.sound_of_family (inv : FamilyInv db) {id : TokenFamilyId} {f : TokenFamilyRow}
    (found : db.family id = some f) : FamilySound f (db.tokensOf id) := by
  have he : f.tokenFamilyId = id := key_of_lookup found
  exact he ▸ inv.sound f (mem_of_lookup found)

/-! ## Revocations -/

/-- A revocation finds the active tokens of the families it ends, and no others; with a device it
ends all its families. -/
structure RevokedRows.Covers (rows : RevokedRows) (db : Db) : Prop where
  found : ∀ f ∈ db.deviceTokenFamilies, f.tokenFamilyId ∈ rows.families → f.state = .active →
    ∀ t ∈ db.tokensOf f.tokenFamilyId, t.state = .active → t.deviceTokenId ∈ rows.tokens
  inside : ∀ t ∈ db.deviceTokens, t.deviceTokenId ∈ rows.tokens → t.state = .active →
    t.tokenFamilyId ∈ rows.families
  houses : ∀ f ∈ db.deviceTokenFamilies, f.deviceId ∈ rows.devices → f.state = .active →
    f.tokenFamilyId ∈ rows.families

def RevokedRows.locks (rows : RevokedRows) : List AuthRow :=
  rows.families.map .deviceTokenFamily ++ rows.tokens.map .deviceToken ++
    rows.devices.map .device

section Revoke

variable {rows : RevokedRows} {r : RevocationReason} {hre : Instant}

theorem revoke_skips (inv : FamilyInv db) (hc : rows.Covers db) {f : TokenFamilyRow}
    (hm : f ∈ db.deviceTokenFamilies)
    (hot : f.tokenFamilyId ∉ rows.families ∨ f.state = .revoked) :
    ∀ t ∈ db.tokensOf f.tokenFamilyId, rows.admitsToken t = false := by
  intro t ht
  obtain ⟨hs, hf⟩ := mem_tokensOf.mp ht
  refine decide_eq_false ?_
  rintro ⟨found, ha⟩
  rcases hot with ho | hr
  · exact ho (hf ▸ hc.inside t hs found ha)
  · exact (inv.sound f hm).retired hr t ht ha

theorem tokensOf_revoke (id : TokenFamilyId) : (db.revoke rows r hre).tokensOf id =
    updateWhere (db.tokensOf id) rows.admitsToken (·.revoke hre) :=
  filter_updateWhere fun _ => rfl

theorem FamilySound.revoke {f : TokenFamilyRow} {ts : List DeviceTokenRow}
    (hs : FamilySound f ts) (hac : f.state = .active)
    (found : ∀ t ∈ ts, t.state = .active → t.deviceTokenId ∈ rows.tokens) :
    FamilySound (f.revoke r hre) (updateWhere ts rows.admitsToken (·.revoke hre)) where
  chain := by
    have hr : (updateWhere ts rows.admitsToken (·.revoke hre)).filter
        (fun t => t.tokenKind = .refresh) =
        updateWhere (ts.filter fun t => t.tokenKind = .refresh) rows.admitsToken
          (·.revoke hre) := filter_updateWhere fun _ => rfl
    rw [hr]
    refine hs.chain.map (fun t => ?_) (fun t hro => ?_) rfl fun t hm hst => ?_
    · split <;> exact ⟨rfl, rfl, rfl, rfl⟩
    · split
      · next had => exact nomatch hro.symm.trans (of_decide_eq_true had).2
      · exact hro
    · have ha : t.state = .active := by
        rw [hst, hac]
        rfl
      have had : rows.admitsToken t = true :=
        decide_eq_true ⟨found t (List.mem_filter.mp hm).1 ha, ha⟩
      rw [if_pos had]
      rfl
  retired := by
    intro _ t hm
    obtain ⟨u, ht, rfl⟩ := mem_updateWhere.mp hm
    split
    · exact fun h => nomatch h
    · next hsk =>
      intro ha
      exact hsk (decide_eq_true ⟨found u ht ha, ha⟩)
  window := hs.window
  expiry := by
    intro t hm hki
    obtain ⟨u, ht, rfl⟩ := mem_updateWhere.mp hm
    have hk : u.tokenKind = .refresh := by
      split at hki <;> exact hki
    have hw := hs.expiry u ht hk
    split <;> exact hw

theorem evolves_revoke : Evolves db (db.revoke rows r hre) where
  device _ _ found := lookup_updated (fun _ => rfl) DeviceProgress.refl
    (fun _ _ => ⟨rfl, fun _ => rfl⟩) found
  family _ _ found := lookup_updated (fun _ => rfl) FamilyProgress.refl
    (fun _ _ => ⟨rfl, rfl, fun _ => rfl, Nat.le_refl _⟩) found
  token _ _ found := lookup_updated (fun _ => rfl) TokenProgress.refl
    (fun _ ha => ⟨rfl, rfl, rfl, rfl, rfl, rfl, rfl, rfl,
      fun he => absurd (of_decide_eq_true ha).2 he⟩) found
  grant _ g found := ⟨g, found, .refl⟩
  newFamily id _ found hm := by
    have hn : (db.revoke rows r hre).family id = none := lookup_updateWhere_none (fun _ => rfl) hm
    exact nomatch hn.symm.trans found

theorem FamilyInv.revoke (inv : FamilyInv db) (hc : rows.Covers db) :
    FamilyInv (db.revoke rows r hre) where
  deviceKeys := inv.deviceKeys.updateWhere fun _ => rfl
  familyKeys := inv.familyKeys.updateWhere fun _ => rfl
  tokenKeys := inv.tokenKeys.updateWhere fun _ => rfl
  housed := by
    intro f' hm
    obtain ⟨f, hs, rfl⟩ := mem_updateWhere.mp hm
    obtain ⟨d, hho, hl⟩ := inv.housed f hs
    have hw : lookup DeviceRow.deviceId
        (updateWhere db.devices rows.admitsDevice (·.revoke hre)) f.deviceId =
          (lookup DeviceRow.deviceId db.devices f.deviceId).map fun d =>
            if rows.admitsDevice d then d.revoke hre else d :=
      lookup_updateWhere fun _ => rfl
    have hh' : (db.revoke rows r hre).device f.deviceId = some
        (if rows.admitsDevice d then d.revoke hre else d) :=
      hw.trans (congrArg _ hho)
    split
    · exact ⟨_, hh', fun _ => rfl⟩
    · next hsk =>
      refine ⟨_, hh', fun hr => ?_⟩
      split at hr
      · next ha =>
        cases hst : f.state
        · have hh : f.deviceId ∈ rows.devices := key_of_lookup hho ▸ (of_decide_eq_true ha).1
          exact absurd (decide_eq_true ⟨hc.houses f hs hh hst, hst⟩) hsk
        · rfl
      · exact hl hr
  owned := by
    intro t' hm
    obtain ⟨t, hs, rfl⟩ := mem_updateWhere.mp hm
    obtain ⟨f, how, device⟩ := inv.owned t hs
    obtain ⟨f', ho', hp⟩ := evolves_revoke.family _ f how
    refine ⟨f', ?_, ?_⟩
    · split <;> exact ho'
    · rw [hp.deviceId, device]
      split <;> rfl
  sound := by
    intro f' hm
    obtain ⟨f, hs, rfl⟩ := mem_updateWhere.mp hm
    have hso := inv.sound f hs
    split
    · next ha =>
      obtain ⟨found, hac⟩ := of_decide_eq_true ha
      rw [tokensOf_revoke]
      exact hso.revoke hac (hc.found f hs found hac)
    · next hsk =>
      have ho : f.tokenFamilyId ∉ rows.families ∨ f.state = .revoked := by
        by_cases found : f.tokenFamilyId ∈ rows.families
        · right
          cases hst : f.state
          · exact absurd (decide_eq_true ⟨found, hst⟩) hsk
          · rfl
        · exact .inl found
      rw [tokensOf_revoke, updateWhere_eq_self (revoke_skips inv hc hs ho)]
      exact hso
  reported := by
    intro id
    obtain ⟨hon, he⟩ := inv.reported id
    refine ⟨hon, fun hse => ?_⟩
    obtain ⟨f, found, hr⟩ := he hse
    obtain ⟨f', hf', hp⟩ := evolves_revoke.family _ f found
    exact ⟨f', hf', hp.revoked hr⟩

theorem unchanged_revoke (inv : FamilyInv db) (hc : rows.Covers db) {l : AuthRow}
    (hu : l ∉ rows.locks) : Unchanged l db (db.revoke rows r hre) := by
  simp only [RevokedRows.locks, List.mem_append, List.mem_map, not_or, not_exists, not_and] at hu
  obtain ⟨⟨hno, hnn⟩, hn⟩ := hu
  cases l with
  | device id =>
    intro d found
    refine lookup_kept (fun _ => rfl) found (decide_eq_false fun h => ?_)
    exact hn d.deviceId h.1 (congrArg _ (key_of_lookup found))
  | deviceToken id =>
    intro t found
    refine lookup_kept (fun _ => rfl) found (decide_eq_false fun h => ?_)
    exact hnn t.deviceTokenId h.1 (congrArg _ (key_of_lookup found))
  | deviceTokenFamily id =>
    intro f found
    have hi : f.tokenFamilyId = id := key_of_lookup found
    have ho : f.tokenFamilyId ∉ rows.families := fun h => hno f.tokenFamilyId h (congrArg _ hi)
    constructor
    · exact lookup_kept (fun _ => rfl) found (decide_eq_false fun h => ho h.1)
    · rw [tokensOf_revoke, ← hi]
      exact updateWhere_eq_self (revoke_skips inv hc (mem_of_lookup found) (.inl ho))
  | deviceAuthorizationGrant id => exact fun g found => found
  | _ => trivial

end Revoke

/-! ## Audit rows and device activity -/

section Audit

variable {ev : AuditEventRow}

theorem evolves_insertAudit : Evolves db (db.insertAudit ev) :=
  ⟨(Evolves.refl db).device, (Evolves.refl db).family, (Evolves.refl db).token,
    (Evolves.refl db).grant, (Evolves.refl db).newFamily⟩

theorem unchanged_insertAudit (l : AuthRow) : Unchanged l db (db.insertAudit ev) := by
  cases l with
  | deviceTokenFamily id => exact fun f found => ⟨found, rfl⟩
  | device id => exact fun d found => found
  | deviceToken id => exact fun t found => found
  | deviceAuthorizationGrant id => exact fun g found => found
  | _ => trivial

theorem FamilyInv.insertAudit (inv : FamilyInv db) (ho : ev.action ≠ .deviceTokenReuseDetected) :
    FamilyInv (db.insertAudit ev) where
  deviceKeys := inv.deviceKeys
  familyKeys := inv.familyKeys
  tokenKeys := inv.tokenKeys
  housed := inv.housed
  owned := inv.owned
  sound := inv.sound
  reported := by
    intro id
    have he : (db.insertAudit ev).reuseReports id = db.reuseReports id := by
      simp [Db.reuseReports, Db.insertAudit, ho]
    rw [he]
    exact inv.reported id

theorem FamilyInv.report (inv : FamilyInv db) {f : TokenFamilyRow}
    (found : db.family ev.targetId = some f) (hr : f.state = .revoked)
    (hu : db.reuseReports ev.targetId = []) : FamilyInv (db.insertAudit ev) where
  deviceKeys := inv.deviceKeys
  familyKeys := inv.familyKeys
  tokenKeys := inv.tokenKeys
  housed := inv.housed
  owned := inv.owned
  sound := inv.sound
  reported := by
    intro id
    have hs : (db.insertAudit ev).reuseReports id = db.reuseReports id ++
        [ev].filter fun e => e.action = .deviceTokenReuseDetected ∧ e.targetId = id :=
      List.filter_append _ _
    by_cases he : ev.targetId = id
    · subst he
      rw [hs, hu, List.nil_append]
      refine ⟨List.length_filter_le _ _, fun _ => ⟨f, found, hr⟩⟩
    · have hn : ([ev].filter fun e =>
          e.action = .deviceTokenReuseDetected ∧ e.targetId = id) = [] := by
        simp [he]
      rw [hs, hn, List.append_nil]
      exact inv.reported id

end Audit

section Touch

variable {found : List DeviceId} {now : Instant}

theorem evolves_touch : Evolves db (db.touchDevices found now) where
  device _ _ found := lookup_updated (fun _ => rfl) DeviceProgress.refl (fun _ _ => ⟨rfl, id⟩) found
  family := (Evolves.refl db).family
  token := (Evolves.refl db).token
  grant := (Evolves.refl db).grant
  newFamily := (Evolves.refl db).newFamily

theorem FamilyInv.touch (inv : FamilyInv db) : FamilyInv (db.touchDevices found now) where
  deviceKeys := inv.deviceKeys.updateWhere fun _ => rfl
  familyKeys := inv.familyKeys
  tokenKeys := inv.tokenKeys
  housed := by
    intro f hm
    obtain ⟨d, hh, hl⟩ := inv.housed f hm
    have hs : ∃ d', (db.touchDevices found now).device f.deviceId = some d' ∧
        d'.status = d.status :=
      lookup_updated (fun _ => rfl) (P := fun d d' : DeviceRow => d'.status = d.status)
        (fun _ => rfl) (fun _ _ => rfl) hh
    obtain ⟨d', hh', he⟩ := hs
    exact ⟨d', hh', fun hr => hl (he ▸ hr)⟩
  owned := inv.owned
  sound := inv.sound
  reported := inv.reported

theorem unchanged_touch {l : AuthRow} (hu : ∀ id ∈ found, l ≠ .device id) :
    Unchanged l db (db.touchDevices found now) := by
  cases l with
  | device id =>
    intro d hd
    refine lookup_kept (fun _ => rfl) hd (decide_eq_false fun h => ?_)
    exact hu d.deviceId h (congrArg _ (key_of_lookup hd).symm)
  | deviceTokenFamily id => exact fun f found => ⟨found, rfl⟩
  | deviceToken id => exact fun t found => found
  | deviceAuthorizationGrant id => exact fun g found => found
  | _ => trivial

end Touch

/-! ## Rotation -/

theorem insertToken_ok {t t' : List DeviceTokenRow} {tk : DeviceTokenRow}
    (hi : insertToken t tk = .ok t') :
    t' = t ++ [tk] ∧ ∀ row ∈ t, row.deviceTokenId ≠ tk.deviceTokenId := by
  unfold insertToken at hi
  split at hi
  · exact nomatch hi
  next hf =>
    refine ⟨(Except.ok.inj hi).symm, fun row hm he => hf ?_⟩
    refine List.any_eq_true.mpr ⟨row, hm, decide_eq_true (.inl he)⟩

/-- The tables after a rotation: the predecessor succeeded, the pair inserted, the family
advanced. -/
def Db.rotate (db : Db) (predecessor refresh access : DeviceTokenRow) : Db :=
  { db with
    deviceTokens := updateWhere db.deviceTokens
      (fun t => t.deviceTokenId = predecessor.deviceTokenId)
      (·.succeededBy refresh.deviceTokenId refresh.issuedAt) ++ [refresh, access]
    deviceTokenFamilies := updateWhere db.deviceTokenFamilies
      (fun f => f.tokenFamilyId = predecessor.tokenFamilyId ∧
        f.currentRefreshGeneration = predecessor.generation)
      (·.advance (predecessor.generation + 1) refresh.issuedAt refresh.expiresAt) }

structure SuccessorPair (db : Db) (predecessor refresh access : DeviceTokenRow) : Prop where
  refreshFresh : ∀ row ∈ db.deviceTokens, row.deviceTokenId ≠ refresh.deviceTokenId
  accessFresh : ∀ row ∈ db.deviceTokens, row.deviceTokenId ≠ access.deviceTokenId
  apart : refresh.deviceTokenId ≠ access.deviceTokenId
  families : refresh.tokenFamilyId = predecessor.tokenFamilyId ∧
    access.tokenFamilyId = predecessor.tokenFamilyId
  devices : refresh.deviceId = predecessor.deviceId ∧ access.deviceId = predecessor.deviceId
  kinds : refresh.tokenKind = .refresh ∧ access.tokenKind = .access
  generation : refresh.generation = predecessor.generation + 1
  active : refresh.state = .active
  links : refresh.predecessorTokenId = some predecessor.deviceTokenId ∧
    refresh.successorTokenId = none

section Rotate

variable {predecessor refresh access : DeviceTokenRow} {family : TokenFamilyRow}

theorem newRotationWrites_ok {c : RefreshRotationCommand} {rs : Nat} {a : Db}
    {r : CommittedRefreshRotation} (hk : Unique DeviceTokenRow.deviceTokenId db.deviceTokens)
    (hs : predecessor ∈ db.deviceTokens) (hac : predecessor.state = .active)
    (ok : newRotationWrites predecessor family c rs db = .ok (a, r)) :
    ∃ refresh access, a = db.rotate predecessor refresh access ∧
      SuccessorPair db predecessor refresh access ∧
      refresh = successorToken predecessor c rs .refresh
        c.successorRefreshTokenId c.successorRefreshSecretHash
        (successorExpiresAt family c.databaseNow) ∧
      access = successorToken predecessor c rs .access
        c.successorAccessTokenId c.successorAccessSecretHash
        c.accessExpiresAt := by
  unfold newRotationWrites at ok
  obtain ⟨t₁, hft, ok⟩ := bind_ok ok
  obtain ⟨t₂, hse, ok⟩ := bind_ok ok
  obtain ⟨t₃, ht, ok⟩ := bind_ok ok
  obtain ⟨t₄, hf, ok⟩ := bind_ok ok
  obtain ⟨f, hfi, ok⟩ := bind_ok ok
  cases ok
  obtain ⟨-, rfl⟩ := updateGuarded_ok hft
  obtain ⟨rfl, hfr⟩ := insertToken_ok hse
  obtain ⟨rfl, hf'⟩ := insertToken_ok ht
  obtain ⟨-, rfl⟩ := updateGuarded_ok hf
  obtain ⟨-, rfl⟩ := updateGuarded_ok hfi
  let refresh := successorToken predecessor c rs .refresh
    c.successorRefreshTokenId c.successorRefreshSecretHash
    (successorExpiresAt family c.databaseNow)
  let access := successorToken predecessor c rs .access
    c.successorAccessTokenId c.successorAccessSecretHash c.accessExpiresAt
  have hi {row : DeviceTokenRow} (hm : row ∈ db.deviceTokens) : ∃ r' ∈ updateWhere db.deviceTokens
        (fun t => t.deviceTokenId = predecessor.deviceTokenId ∧ t.state = .active)
        (fun t => { t with state := .rotated, rotatedAt := some c.databaseNow }),
        r'.deviceTokenId = row.deviceTokenId := by
    refine ⟨_, mem_updateWhere.mpr ⟨row, hm, rfl⟩, ?_⟩
    split <;> rfl
  have hr : ∀ row ∈ db.deviceTokens, row.deviceTokenId ≠ refresh.deviceTokenId := by
    intro row hm he
    obtain ⟨r', hm', id⟩ := hi hm
    exact hfr r' hm' (id.trans he)
  have ha : ∀ row ∈ db.deviceTokens, row.deviceTokenId ≠ access.deviceTokenId := by
    intro row hm he
    obtain ⟨r', hm', id⟩ := hi hm
    exact hf' r' (List.mem_append_left _ hm') (id.trans he)
  have hap : refresh.deviceTokenId ≠ access.deviceTokenId :=
    hf' refresh (List.mem_append_right _ List.mem_cons_self)
  refine ⟨refresh, access, ?_, ⟨hr, ha, hap, ⟨rfl, rfl⟩, ⟨rfl, rfl⟩,
    ⟨rfl, rfl⟩, rfl, rfl, ⟨rfl, rfl⟩⟩, rfl, rfl⟩
  unfold Db.rotate
  congr 1
  simp only [updateWhere, List.map_append, List.map_cons, List.map_nil, List.map_map,
    List.append_assoc]
  refine congrArg₂ _ (List.map_congr_left fun t hm => ?_) ?_
  · by_cases he : t.deviceTokenId = predecessor.deviceTokenId
    · cases hk.eq_of_key hm hs he
      simp [hac, DeviceTokenRow.succeededBy, successorToken, refresh]
    · simp [he]
  · have hn : c.successorRefreshTokenId ≠ predecessor.deviceTokenId :=
      fun he => hr predecessor hs he.symm
    have hno : c.successorAccessTokenId ≠ predecessor.deviceTokenId :=
      fun he => ha predecessor hs he.symm
    simp [successorToken, hn, hno, refresh, access]

theorem tokensOf_rotate (hp : SuccessorPair db predecessor refresh access) :
    (db.rotate predecessor refresh access).tokensOf predecessor.tokenFamilyId =
      updateWhere (db.tokensOf predecessor.tokenFamilyId)
        (fun t => t.deviceTokenId = predecessor.deviceTokenId)
        (·.succeededBy refresh.deviceTokenId refresh.issuedAt) ++ [refresh, access] := by
  unfold Db.tokensOf Db.rotate
  rw [List.filter_append]
  congr 1
  · exact filter_updateWhere fun _ => rfl
  · simp [hp.families]

theorem tokensOf_rotate_other (inv : FamilyInv db) (hst : predecessor ∈ db.deviceTokens)
    (hp : SuccessorPair db predecessor refresh access) {id : TokenFamilyId}
    (ho : id ≠ predecessor.tokenFamilyId) :
    (db.rotate predecessor refresh access).tokensOf id = db.tokensOf id := by
  have ha : ([refresh, access].filter fun t => t.tokenFamilyId = id) = [] := by
    simp [hp.families, ho.symm]
  have hr : (updateWhere db.deviceTokens (fun t => t.deviceTokenId = predecessor.deviceTokenId)
      (·.succeededBy refresh.deviceTokenId refresh.issuedAt)).filter
        (fun t => t.tokenFamilyId = id) =
      updateWhere (db.tokensOf id) (fun t => t.deviceTokenId = predecessor.deviceTokenId)
        (·.succeededBy refresh.deviceTokenId refresh.issuedAt) :=
    filter_updateWhere fun _ => rfl
  unfold Db.rotate
  rw [Db.tokensOf, List.filter_append, ha, List.append_nil, hr]
  refine updateWhere_eq_self fun t hm => decide_eq_false fun he => ?_
  obtain ⟨hs, hf⟩ := mem_tokensOf.mp hm
  cases inv.tokenKeys.eq_of_key hs hst he
  exact ho hf.symm

theorem evolves_rotate (hac : predecessor.state = .active) (hs : predecessor ∈ db.deviceTokens)
    (hk : Unique DeviceTokenRow.deviceTokenId db.deviceTokens) :
    Evolves db (db.rotate predecessor refresh access) where
  device := (Evolves.refl db).device
  grant := (Evolves.refl db).grant
  family _ _ found := lookup_updated (fun _ => rfl) FamilyProgress.refl
    (fun f ha => ⟨rfl, rfl, id, by
      rw [(of_decide_eq_true ha).2]
      exact Nat.le_succ _⟩) found
  token id t found := by
    have hu : ∃ t', lookup DeviceTokenRow.deviceTokenId (updateWhere db.deviceTokens
        (fun t => t.deviceTokenId = predecessor.deviceTokenId)
        (·.succeededBy refresh.deviceTokenId refresh.issuedAt)) id = some t' ∧
        TokenProgress t t' := by
      by_cases hsa : t.deviceTokenId = predecessor.deviceTokenId
      · cases hk.eq_of_key (mem_of_lookup found) hs hsa
        exact ⟨_, lookup_written (fun _ => rfl) found (decide_eq_true rfl),
          rfl, rfl, rfl, rfl, rfl, rfl, rfl, rfl, fun he => absurd hac he⟩
      · exact ⟨t, lookup_kept (fun _ => rfl) found (decide_eq_false hsa), .refl t⟩
    obtain ⟨t', hf', hp⟩ := hu
    refine ⟨t', ?_, hp⟩
    unfold Db.token Db.rotate lookup
    exact (List.find?_append).trans (by rw [show List.find? _ _ = some t' from hf']; rfl)
  newFamily id _ found hm := by
    have hn : (db.rotate predecessor refresh access).family id = none :=
      lookup_updateWhere_none (fun _ => rfl) hm
    exact nomatch hn.symm.trans found

theorem FamilySound.rotate {ts : List DeviceTokenRow}
    (hke : ∀ t ∈ ts, t.deviceTokenId = predecessor.deviceTokenId → t = predecessor)
    (hs : FamilySound family ts) (hm : predecessor ∈ ts)
    (hki : predecessor.tokenKind = .refresh) (ha : predecessor.state = .active)
    (hp : SuccessorPair db predecessor refresh access)
    (hex : refresh.expiresAt ≤ family.absoluteExpiresAt) :
    FamilySound (family.advance (predecessor.generation + 1) refresh.issuedAt refresh.expiresAt)
      (updateWhere ts (fun t => t.deviceTokenId = predecessor.deviceTokenId)
        (·.succeededBy refresh.deviceTokenId refresh.issuedAt) ++ [refresh, access]) := by
  have hre : predecessor ∈ ts.filter fun t => t.tokenKind = .refresh :=
    List.mem_filter.mpr ⟨hm, decide_eq_true hki⟩
  obtain ⟨e, ht, -, -, hf⟩ := hs.chain.eq_last_of_active hre ha
  refine ⟨?_, fun hrd => ?_, hex, ?_⟩
  · have hr : ((updateWhere ts (fun t =>
        t.deviceTokenId = predecessor.deviceTokenId)
        (·.succeededBy refresh.deviceTokenId refresh.issuedAt) ++ [refresh, access]).filter
          fun t => t.tokenKind = .refresh) =
        e ++ [predecessor.succeededBy refresh.deviceTokenId refresh.issuedAt, refresh] := by
      have hrn : (updateWhere ts (fun t =>
          t.deviceTokenId = predecessor.deviceTokenId)
          (·.succeededBy refresh.deviceTokenId refresh.issuedAt)).filter
            (fun t => t.tokenKind = .refresh) =
          updateWhere (ts.filter fun t => t.tokenKind = .refresh)
            (fun t => t.deviceTokenId = predecessor.deviceTokenId)
            (·.succeededBy refresh.deviceTokenId refresh.issuedAt) :=
        filter_updateWhere fun _ => rfl
      have hor : updateWhere e (fun t => t.deviceTokenId = predecessor.deviceTokenId)
          (·.succeededBy refresh.deviceTokenId refresh.issuedAt) = e := by
        refine updateWhere_eq_self fun t he => decide_eq_false fun hsa => ?_
        have hto : t ∈ ts.filter fun t => t.tokenKind = .refresh := ht ▸ List.mem_append_left _ he
        have hro := rotated_of_earlier (ht ▸ hs.chain.linked) t he
        rw [hke t (List.mem_filter.mp hto).1 hsa, ha] at hro
        cases hro
      rw [List.filter_append, hrn, ht, updateWhere, List.map_append, show List.map _ e = e from hor]
      simp [hp.kinds]
    rw [hr]
    refine (ht ▸ hs.chain).rotate hp.links.1 hp.links.2 hp.generation rfl ?_
    exact hp.active.trans (congrArg DeviceTokenFamilyState.tokenState hf).symm
  · cases hrd.symm.trans hf
  · intro t hto hk
    rcases List.mem_append.mp hto with old | new
    · obtain ⟨u, hol, rfl⟩ := mem_updateWhere.mp old
      have ho : u.tokenKind = .refresh := by
        split at hk <;> exact hk
      have hw := hs.expiry u hol ho
      split <;> exact hw
    · rcases List.mem_pair.mp new with rfl | rfl
      · exact hex
      · cases hk.symm.trans hp.kinds.2

theorem FamilyInv.rotate (inv : FamilyInv db) (hs : predecessor ∈ db.deviceTokens)
    (hk : predecessor.tokenKind = .refresh) (ha : predecessor.state = .active)
    (found : db.family predecessor.tokenFamilyId = some family)
    (hc : family.currentRefreshGeneration = predecessor.generation)
    (hpa : SuccessorPair db predecessor refresh access)
    (hex : refresh.expiresAt ≤ family.absoluteExpiresAt) :
    FamilyInv (db.rotate predecessor refresh access) := by
  have he : Evolves db (db.rotate predecessor refresh access) := evolves_rotate ha hs inv.tokenKeys
  refine ⟨inv.deviceKeys, inv.familyKeys.updateWhere fun _ => rfl, ?_, ?_, ?_, ?_, ?_⟩
  · have hu : Unique DeviceTokenRow.deviceTokenId (updateWhere db.deviceTokens
        (fun t => t.deviceTokenId = predecessor.deviceTokenId)
        (·.succeededBy refresh.deviceTokenId refresh.issuedAt)) :=
      inv.tokenKeys.updateWhere fun _ => rfl
    have hmi {id : DeviceTokenId} (hfr : ∀ row ∈ db.deviceTokens, row.deviceTokenId ≠ id) :
        lookup DeviceTokenRow.deviceTokenId (updateWhere db.deviceTokens
          (fun t => t.deviceTokenId = predecessor.deviceTokenId)
          (·.succeededBy refresh.deviceTokenId refresh.issuedAt)) id = none :=
      lookup_updateWhere_none (fun _ => rfl) (lookup_none_iff.mpr hfr)
    have hfi := hu.snoc (hmi hpa.refreshFresh)
    have hst : lookup DeviceTokenRow.deviceTokenId (updateWhere db.deviceTokens
        (fun t => t.deviceTokenId = predecessor.deviceTokenId)
        (·.succeededBy refresh.deviceTokenId refresh.issuedAt) ++ [refresh])
          access.deviceTokenId = none := by
      rw [lookup_snoc_other hpa.apart]
      exact hmi hpa.accessFresh
    have hsd := hfi.snoc hst
    rw [List.append_assoc] at hsd
    exact hsd
  · intro f' hm
    obtain ⟨f, hf, rfl⟩ := mem_updateWhere.mp hm
    obtain ⟨d, hh, hl⟩ := inv.housed f hf
    refine ⟨d, ?_, ?_⟩ <;> split
    · exact hh
    · exact hh
    · exact hl
    · exact hl
  · intro t' hm
    have old : ∃ t ∈ db.deviceTokens, t'.tokenFamilyId = t.tokenFamilyId ∧
        t'.deviceId = t.deviceId := by
      rcases List.mem_append.mp hm with old | new
      · obtain ⟨t, ht, rfl⟩ := mem_updateWhere.mp old
        exact ⟨t, ht, by split <;> rfl, by split <;> rfl⟩
      · rcases List.mem_pair.mp new with rfl | rfl
        · exact ⟨predecessor, hs, hpa.families.1, hpa.devices.1⟩
        · exact ⟨predecessor, hs, hpa.families.2, hpa.devices.2⟩
    obtain ⟨t, ht, hsy, hsa⟩ := old
    obtain ⟨f, how, device⟩ := inv.owned t ht
    obtain ⟨f', ho', hp⟩ := he.family _ f how
    rw [hsy, hsa]
    exact ⟨f', ho', hp.deviceId.trans device⟩
  · intro f' hm
    obtain ⟨f, hf, rfl⟩ := mem_updateWhere.mp hm
    have hso := inv.sound f hf
    split
    · next had =>
      obtain ⟨hse, -⟩ := of_decide_eq_true had
      have hsam : f = family := by
        have atF := inv.family_of_mem hf
        rw [hse] at atF
        exact Option.some.inj (atF.symm.trans found)
      subst hsam
      show FamilySound _ ((db.rotate predecessor refresh access).tokensOf f.tokenFamilyId)
      rw [hse, tokensOf_rotate hpa]
      rw [hse] at hso
      refine hso.rotate (fun t ht sameId => ?_) (mem_tokensOf.mpr ⟨hs, rfl⟩) hk ha hpa hex
      exact inv.tokenKeys.eq_of_key (mem_tokensOf.mp ht).1 hs sameId
    · next hsk =>
      have ho : f.tokenFamilyId ≠ predecessor.tokenFamilyId := by
        intro hse
        have atF := inv.family_of_mem hf
        rw [hse] at atF
        cases Option.some.inj (atF.symm.trans found)
        exact hsk (decide_eq_true ⟨hse, hc⟩)
      rw [tokensOf_rotate_other inv hs hpa ho]
      exact hso
  · intro id
    obtain ⟨hon, hen⟩ := inv.reported id
    refine ⟨hon, fun some => ?_⟩
    obtain ⟨f, hf, hr⟩ := hen some
    obtain ⟨f', hf', hp⟩ := he.family _ f hf
    exact ⟨f', hf', hp.revoked hr⟩

theorem unchanged_rotate (inv : FamilyInv db) (hs : predecessor ∈ db.deviceTokens)
    (hp : SuccessorPair db predecessor refresh access) {l : AuthRow}
    (hno : l ≠ .deviceToken predecessor.deviceTokenId)
    (hn : l ≠ .deviceTokenFamily predecessor.tokenFamilyId) :
    Unchanged l db (db.rotate predecessor refresh access) := by
  cases l with
  | device id => exact fun d found => found
  | deviceAuthorizationGrant id => exact fun g found => found
  | deviceToken id =>
    intro t found
    have hi : t.deviceTokenId = id := key_of_lookup found
    have hk : lookup DeviceTokenRow.deviceTokenId (updateWhere db.deviceTokens
        (fun t => t.deviceTokenId = predecessor.deviceTokenId)
        (·.succeededBy refresh.deviceTokenId refresh.issuedAt)) id = some t :=
      lookup_kept (fun _ => rfl) found (decide_eq_false fun he =>
        hno (congrArg _ (hi.symm.trans he)))
    unfold Db.token Db.rotate lookup
    exact (List.find?_append).trans (by rw [show List.find? _ _ = some t from hk]; rfl)
  | deviceTokenFamily id =>
    intro f found
    have hi : f.tokenFamilyId = id := key_of_lookup found
    have ho : id ≠ predecessor.tokenFamilyId := fun he => hn (congrArg _ he)
    refine ⟨lookup_kept (fun _ => rfl) found (decide_eq_false fun h => ?_), ?_⟩
    · exact ho (hi.symm.trans h.1)
    · exact tokensOf_rotate_other inv hs hp ho
  | _ => trivial

end Rotate

/-! ## Grants -/

section Grants

variable {grants : List GrantRow}

theorem FamilyInv.withGrants (inv : FamilyInv db) :
    FamilyInv { db with deviceAuthorizationGrants := grants } :=
  ⟨inv.deviceKeys, inv.familyKeys, inv.tokenKeys, inv.housed, inv.owned, inv.sound, inv.reported⟩

theorem evolves_withGrants (hg : ∀ id g, db.grant id = some g →
      ∃ g', lookup GrantRow.grantId grants id = some g' ∧ Relation.ReflTransGen GrantProgress g g') :
    Evolves db { db with deviceAuthorizationGrants := grants } where
  device := (Evolves.refl db).device
  family := (Evolves.refl db).family
  token := (Evolves.refl db).token
  grant := hg
  newFamily := (Evolves.refl db).newFamily

theorem unchanged_withGrants {l : AuthRow} (hg : ∀ id g, l = .deviceAuthorizationGrant id →
      db.grant id = some g → lookup GrantRow.grantId grants id = some g) :
    Unchanged l db { db with deviceAuthorizationGrants := grants } := by
  cases l with
  | device id => exact fun d found => found
  | deviceTokenFamily id => exact fun f found => ⟨found, rfl⟩
  | deviceToken id => exact fun t found => found
  | deviceAuthorizationGrant id => exact fun g found => hg id g rfl found
  | _ => trivial

end Grants

/-! ## Exchange -/

/-- The tables after an exchange, its audit rows apart. -/
def Db.register (db : Db) (device : DeviceRow) (family : TokenFamilyRow)
    (access refresh : DeviceTokenRow) : Db :=
  { db with
    devices := db.devices ++ [device]
    deviceTokenFamilies := db.deviceTokenFamilies ++ [family]
    deviceTokens := db.deviceTokens ++ [access, refresh] }

def exchangeGrants (grants : List GrantRow) (grantId : GrantId) (anchors : ExchangeAnchors) :
    List GrantRow :=
  updateWhere grants (fun g => g.grantId = grantId ∧ g.state = .approved)
    (fun g => { g with state := .exchanged, exchange := some anchors })

/-- The rows of a first exchange. -/
structure Registration (db : Db) (device : DeviceRow) (family : TokenFamilyRow)
    (access refresh : DeviceTokenRow) : Prop where
  deviceFresh : db.device device.deviceId = none
  familyFresh : db.family family.tokenFamilyId = none
  accessFresh : db.token access.deviceTokenId = none
  refreshFresh : db.token refresh.deviceTokenId = none
  apart : access.deviceTokenId ≠ refresh.deviceTokenId
  house : family.deviceId = device.deviceId
  families : access.tokenFamilyId = family.tokenFamilyId ∧
    refresh.tokenFamilyId = family.tokenFamilyId
  devices : access.deviceId = device.deviceId ∧ refresh.deviceId = device.deviceId
  kinds : access.tokenKind = .access ∧ refresh.tokenKind = .refresh
  first : refresh.generation = initialRefreshGeneration ∧
    family.currentRefreshGeneration = initialRefreshGeneration
  links : refresh.predecessorTokenId = none ∧ refresh.successorTokenId = none
  active : family.state = .active ∧ refresh.state = .active
  live : device.status = .active
  window : family.inactivityExpiresAt ≤ family.absoluteExpiresAt
  expiry : refresh.expiresAt = family.inactivityExpiresAt

section Register

variable {device : DeviceRow} {family : TokenFamilyRow} {access refresh : DeviceTokenRow}

theorem firstExchangeWrites_ok {g : GrantRow} {c : ExchangeGrantCommand}
    {ui : UserId} {wi : WorkspaceId} {rs : Nat} {a : Db}
    {p : ExchangeProvisioning}
    (ok : firstExchangeWrites g c ui wi rs db = .ok (a, p)) :
    ∃ device family access refresh ev e', Registration db device family access refresh ∧
      (device.deviceId = c.deviceId ∧ family.tokenFamilyId = c.tokenFamilyId ∧
        access.deviceTokenId = c.accessTokenId ∧
        refresh.deviceTokenId = c.refreshTokenId ∧ device.deviceKind = .obsidian ∧
        access.generation = initialRefreshGeneration) ∧
      (ev.action = .deviceRegistered ∧ e'.action = .deviceTokenFamilyCreated) ∧
      a = (({ db.register device family access refresh with
        deviceAuthorizationGrants := exchangeGrants db.deviceAuthorizationGrants c.grantId
          c.anchors }).insertAudit ev).insertAudit e' ∧
      p = {
        grantId := c.grantId
        deviceId := c.deviceId
        tokenFamilyId := c.tokenFamilyId
        accessTokenId := c.accessTokenId
        refreshTokenId := c.refreshTokenId
        derivationKeyId := c.derivationKeyId
        refreshGeneration := initialRefreshGeneration
        accessIssuedAt := c.databaseNow
        accessExpiresAt := c.accessExpiresAt
        refreshExpiresAt := c.refreshExpiresAt
        databaseNow := c.databaseNow } := by
  unfold firstExchangeWrites at ok
  obtain ⟨d, hn, ok⟩ := bind_ok ok
  obtain ⟨f, hne, ok⟩ := bind_ok ok
  obtain ⟨t, hns, ok⟩ := bind_ok ok
  obtain ⟨t', hnh, ok⟩ := bind_ok ok
  cases ok
  obtain ⟨rfl, ha⟩ := insertToken_ok hns
  obtain ⟨rfl, hr⟩ := insertToken_ok hnh
  unfold insertDevice at hn
  split at hn
  · exact nomatch hn
  next hd =>
    cases hn
    unfold insertFamily at hne
    split at hne
    · exact nomatch hne
    next hf =>
      cases hne
      rw [not_or] at hf
      refine ⟨c.device g ui wi rs, c.family ui wi rs, _, _,
        ⟨.deviceRegistered, ui, c.deviceId, c.databaseNow⟩,
        ⟨.deviceTokenFamilyCreated, ui, c.tokenFamilyId, c.databaseNow⟩,
        ⟨lookup_none_iff.mpr fun row hm he => hd ?_, lookup_none_iff.mpr fun row hm he => hf.1 ?_,
          lookup_none_iff.mpr ha,
          lookup_none_iff.mpr fun row hm => hr row (List.mem_append_left _ hm),
          hr _ (List.mem_append_right _ List.mem_cons_self), rfl, ⟨rfl, rfl⟩, ⟨rfl, rfl⟩,
          ⟨rfl, rfl⟩, ⟨rfl, rfl⟩, ⟨rfl, rfl⟩, ⟨rfl, rfl⟩, rfl,
          Nat.not_lt.mp hf.2, rfl⟩,
        ⟨rfl, rfl, rfl, rfl, rfl, rfl⟩, ⟨rfl, rfl⟩, ?_, rfl⟩
      · exact List.any_eq_true.mpr ⟨row, hm, decide_eq_true he⟩
      · exact List.any_eq_true.mpr ⟨row, hm, decide_eq_true (.inl he)⟩
      · unfold Db.register exchangeGrants
        rw [List.append_assoc]
        rfl

theorem tokensOf_register {id : TokenFamilyId} (hr : Registration db device family access refresh)
    (ho : id ≠ family.tokenFamilyId) :
    (db.register device family access refresh).tokensOf id = db.tokensOf id := by
  unfold Db.tokensOf Db.register
  rw [List.filter_append]
  simp [hr.families, ho.symm]

theorem tokensOf_register_new (inv : FamilyInv db)
    (hr : Registration db device family access refresh) :
    (db.register device family access refresh).tokensOf family.tokenFamilyId =
      [access, refresh] := by
  have hn : db.deviceTokens.filter (fun t => t.tokenFamilyId = family.tokenFamilyId) = [] := by
    refine List.filter_eq_nil_iff.mpr fun t hs he => ?_
    obtain ⟨f, ho, -⟩ := inv.owned t hs
    rw [of_decide_eq_true he] at ho
    exact nomatch hr.familyFresh.symm.trans ho
  unfold Db.tokensOf Db.register
  rw [List.filter_append, hn]
  simp [hr.families]

theorem evolves_register (hr : Registration db device family access refresh) :
    Evolves db (db.register device family access refresh) where
  device _ d found := ⟨d, lookup_snoc_old found, .refl d⟩
  family _ f found := ⟨f, lookup_snoc_old found, .refl f⟩
  token _ t found := by
    refine ⟨t, ?_, .refl t⟩
    unfold Db.token Db.register lookup
    exact (List.find?_append).trans (by rw [show List.find? _ _ = some t from found]; rfl)
  grant := (Evolves.refl db).grant
  newFamily id f' found hm := by
    have hn : (if family.tokenFamilyId = id then some family else none) = some f' := by
      have hf' := lookup_snoc.symm.trans found
      rwa [show lookup TokenFamilyRow.tokenFamilyId db.deviceTokenFamilies id = none from hm] at hf'
    split at hn
    · cases hn
      rw [hr.house]
      exact hr.deviceFresh
    · exact nomatch hn

theorem FamilySound.register (hr : Registration db device family access refresh) :
    FamilySound family [access, refresh] where
  chain := by
    have ho : ([access, refresh].filter fun t => t.tokenKind = .refresh) = [refresh] := by
      simp [hr.kinds]
    rw [ho]
    refine ⟨List.isChain_singleton _, ?_, [], refresh, rfl, hr.links.2, ?_, ?_⟩
    · rintro t ⟨⟩
      exact ⟨hr.links.1, hr.first.1⟩
    · exact hr.first.1.trans hr.first.2.symm
    · rw [hr.active.2, hr.active.1]
      rfl
  retired hre := nomatch hr.active.1.symm.trans hre
  window := hr.window
  expiry := by
    intro t hm hk
    rcases List.mem_pair.mp hm with rfl | rfl
    · exact nomatch hk.symm.trans hr.kinds.1
    · exact hr.expiry ▸ hr.window

theorem FamilyInv.register (inv : FamilyInv db)
    (hr : Registration db device family access refresh) :
    FamilyInv (db.register device family access refresh) := by
  have hev := evolves_register hr
  have ha : (db.register device family access refresh).family family.tokenFamilyId =
      some family := lookup_snoc_new hr.familyFresh
  refine ⟨inv.deviceKeys.snoc hr.deviceFresh,
    inv.familyKeys.snoc hr.familyFresh, ?_, ?_, ?_, ?_, ?_⟩
  · have hf := inv.tokenKeys.snoc hr.accessFresh
    have hmi : lookup DeviceTokenRow.deviceTokenId (db.deviceTokens ++ [access])
        refresh.deviceTokenId = none := by
      rw [lookup_snoc_other hr.apart]
      exact hr.refreshFresh
    have hse := hf.snoc hmi
    rw [List.append_assoc] at hse
    exact hse
  · intro f hm
    rcases List.mem_append.mp hm with old | new
    · obtain ⟨d, hh, hl⟩ := inv.housed f old
      exact ⟨d, lookup_snoc_old hh, hl⟩
    · cases List.mem_singleton.mp new
      rw [hr.house]
      refine ⟨device, lookup_snoc_new hr.deviceFresh, fun hre => ?_⟩
      exact nomatch hr.live.symm.trans hre
  · intro t hm
    rcases List.mem_append.mp hm with old | new
    · obtain ⟨f, how, hs⟩ := inv.owned t old
      exact ⟨f, lookup_snoc_old how, hs⟩
    · rcases List.mem_pair.mp new with rfl | rfl
      · exact ⟨family, hr.families.1 ▸ ha, hr.house.trans hr.devices.1.symm⟩
      · exact ⟨family, hr.families.2 ▸ ha, hr.house.trans hr.devices.2.symm⟩
  · intro f hm
    rcases List.mem_append.mp hm with old | new
    · have ho : f.tokenFamilyId ≠ family.tokenFamilyId := fun hsa =>
        lookup_none_iff.mp hr.familyFresh f old hsa
      rw [tokensOf_register hr ho]
      exact inv.sound f old
    · cases List.mem_singleton.mp new
      rw [tokensOf_register_new inv hr]
      exact .register hr
  · intro id
    obtain ⟨hon, he⟩ := inv.reported id
    refine ⟨hon, fun hso => ?_⟩
    obtain ⟨f, found, hre⟩ := he hso
    exact ⟨f, lookup_snoc_old found, hre⟩

theorem unchanged_register (hr : Registration db device family access refresh)
    (l : AuthRow) : Unchanged l db (db.register device family access refresh) := by
  cases l with
  | device id => exact fun d found => lookup_snoc_old found
  | deviceTokenFamily id =>
    intro f found
    have hi : f.tokenFamilyId = id := key_of_lookup found
    refine ⟨lookup_snoc_old found, tokensOf_register hr fun he => ?_⟩
    have hf' : db.family family.tokenFamilyId = some f := he ▸ found
    exact nomatch hr.familyFresh.symm.trans hf'
  | deviceToken id =>
    intro t found
    unfold Db.token Db.register lookup
    exact (List.find?_append).trans (by rw [show List.find? _ _ = some t from found]; rfl)
  | deviceAuthorizationGrant id => exact fun g found => found
  | _ => trivial

end Register

end PersonalOs.Authentication
