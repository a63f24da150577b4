import PersonalOs.Authentication.FamilyWrites

/-!
# The grant table

An exchanged grant is anchored to the one device and the one token family its exchange created,
and every device and family has one such grant.
-/

namespace PersonalOs.Authentication

open Tables

variable {db after : Db}

structure Anchored (db : Db) (g : GrantRow) (a : ExchangeAnchors) : Prop where
  inTime : a.exchangedAt < g.expiresAt
  device : ∃ d, db.device a.deviceId = some d ∧ d.deviceKind = .obsidian
  family : ∃ f, db.family a.tokenFamilyId = some f ∧ f.deviceId = a.deviceId
  refresh : ∃ t, db.token a.initialRefreshTokenId = some t ∧ t.tokenFamilyId = a.tokenFamilyId ∧
    t.tokenKind = .refresh ∧ t.generation = initialRefreshGeneration
  access : ∃ t, db.token a.initialAccessTokenId = some t ∧ t.tokenFamilyId = a.tokenFamilyId ∧
    t.tokenKind = .access ∧ t.generation = initialRefreshGeneration

structure GrantInv (db : Db) : Prop where
  grantKeys : Unique GrantRow.grantId db.deviceAuthorizationGrants
  exchanged : ∀ g ∈ db.deviceAuthorizationGrants, g.exchange.isSome ↔ g.state = .exchanged
  undecided : ∀ g ∈ db.deviceAuthorizationGrants, g.state = .pending → g.approvedAt = none
  anchored : ∀ g ∈ db.deviceAuthorizationGrants, ∀ a, g.exchange = some a → Anchored db g a
  families : ∀ f ∈ db.deviceTokenFamilies, ∃ g ∈ db.deviceAuthorizationGrants, ∃ a,
    g.exchange = some a ∧ a.tokenFamilyId = f.tokenFamilyId
  devices : ∀ d ∈ db.devices, d.deviceKind = .obsidian →
    ∃ g ∈ db.deviceAuthorizationGrants, ∃ a, g.exchange = some a ∧ a.deviceId = d.deviceId
  apart : ∀ g ∈ db.deviceAuthorizationGrants, ∀ g' ∈ db.deviceAuthorizationGrants, ∀ a a',
    g.exchange = some a → g'.exchange = some a' →
    a.tokenFamilyId = a'.tokenFamilyId ∨ a.deviceId = a'.deviceId → g.grantId = g'.grantId

theorem Anchored.evolves {g : GrantRow} {a : ExchangeAnchors} (ha : Anchored db g a)
    (he : Evolves db after) : Anchored after g a where
  inTime := ha.inTime
  device := by
    obtain ⟨d, hf, hk⟩ := ha.device
    obtain ⟨d', hf', hp⟩ := he.device _ d hf
    exact ⟨d', hf', hp.deviceKind.trans hk⟩
  family := by
    obtain ⟨f, hf, device⟩ := ha.family
    obtain ⟨f', hf', hp⟩ := he.family _ f hf
    exact ⟨f', hf', hp.deviceId.trans device⟩
  refresh := by
    obtain ⟨t, hf, family, hk, hg⟩ := ha.refresh
    obtain ⟨t', hf', hp⟩ := he.token _ t hf
    exact ⟨t', hf', hp.tokenFamilyId.trans family, hp.tokenKind.trans hk, hp.generation.trans hg⟩
  access := by
    obtain ⟨t, hf, family, hk, hg⟩ := ha.access
    obtain ⟨t', hf', hp⟩ := he.token _ t hf
    exact ⟨t', hf', hp.tokenFamilyId.trans family, hp.tokenKind.trans hk, hp.generation.trans hg⟩

/-- A write that exchanges no grant and creates no device or family. -/
structure Quiet (db after : Db) : Prop where
  evolves : Evolves db after
  keys : Unique GrantRow.grantId after.deviceAuthorizationGrants
  exchanged : ∀ g ∈ after.deviceAuthorizationGrants, g.exchange.isSome ↔ g.state = .exchanged
  undecided : ∀ g ∈ after.deviceAuthorizationGrants, g.state = .pending → g.approvedAt = none
  old : ∀ g ∈ after.deviceAuthorizationGrants, g.exchange.isSome →
    g ∈ db.deviceAuthorizationGrants
  kept : ∀ g ∈ db.deviceAuthorizationGrants, g.exchange.isSome →
    g ∈ after.deviceAuthorizationGrants
  families : ∀ f' ∈ after.deviceTokenFamilies, ∃ f ∈ db.deviceTokenFamilies,
    f'.tokenFamilyId = f.tokenFamilyId
  devices : ∀ d' ∈ after.devices, ∃ d ∈ db.devices, d'.deviceId = d.deviceId ∧
    d'.deviceKind = d.deviceKind

theorem GrantInv.stays (inv : GrantInv db) (hq : Quiet db after) : GrantInv after where
  grantKeys := hq.keys
  exchanged := hq.exchanged
  undecided := hq.undecided
  anchored g hm a he := by
    have old := hq.old g hm (by rw [he]; rfl)
    exact (inv.anchored g old a he).evolves hq.evolves
  families f' hm := by
    obtain ⟨f, old, hsa⟩ := hq.families f' hm
    obtain ⟨g, hg, a, he, ha⟩ := inv.families f old
    exact ⟨g, hq.kept g hg (by rw [he]; rfl), a, he, ha.trans hsa.symm⟩
  devices d' hm hk := by
    obtain ⟨d, old, hsa, hs⟩ := hq.devices d' hm
    obtain ⟨g, hg, a, he, ha⟩ := inv.devices d old (hs.symm.trans hk)
    exact ⟨g, hq.kept g hg (by rw [he]; rfl), a, he, ha.trans hsa.symm⟩
  apart g hm g' hm' a a' he he' hsh := inv.apart g (hq.old g hm (by rw [he]; rfl)) g'
      (hq.old g' hm' (by rw [he']; rfl)) a a' he he' hsh

/-! ## Writes that exchange nothing -/

theorem Quiet.of_grants (inv : GrantInv db) (he : Evolves db after)
    (hg : after.deviceAuthorizationGrants = db.deviceAuthorizationGrants)
    (hf : ∀ f' ∈ after.deviceTokenFamilies, ∃ f ∈ db.deviceTokenFamilies,
      f'.tokenFamilyId = f.tokenFamilyId)
    (hd : ∀ d' ∈ after.devices, ∃ d ∈ db.devices, d'.deviceId = d.deviceId ∧
      d'.deviceKind = d.deviceKind) : Quiet db after where
  evolves := he
  keys := hg ▸ inv.grantKeys
  exchanged := hg ▸ inv.exchanged
  undecided := hg ▸ inv.undecided
  old := by
    rw [hg]
    exact fun g hm _ => hm
  kept := by
    rw [hg]
    exact fun g hm _ => hm
  families := hf
  devices := hd

theorem Quiet.update (inv : GrantInv db) {gu : GrantRow → Bool} {w : GrantRow → GrantRow}
    (hk : ∀ g, (w g).grantId = g.grantId)
    (hun : ∀ g, gu g = true → g.state ≠ .exchanged)
    (hw : ∀ g, gu g = true → (w g).exchange = g.exchange ∧
      (w g).state ≠ .exchanged ∧ (w g).state ≠ .pending)
    (hpr : ∀ g, gu g = true → GrantProgress g (w g)) :
    Quiet db { db with
      deviceAuthorizationGrants := updateWhere db.deviceAuthorizationGrants gu w } := by
  have hu {g : GrantRow} (hm : g ∈ db.deviceAuthorizationGrants)
      (ha : gu g = true) : g.exchange.isSome = false := by
    rw [Bool.eq_false_iff]
    exact fun hso => hun g ha ((inv.exchanged g hm).mp hso)
  refine ⟨?_, inv.grantKeys.updateWhere hk, ?_, ?_, ?_, ?_, fun f hm => ⟨f, hm, rfl⟩,
    fun d hm => ⟨d, hm, rfl, rfl⟩⟩
  · exact evolves_withGrants fun id g hf => lookup_updated hk
      (fun _ => .refl) (fun g ha => .single (hpr g ha)) hf
  · intro g' hm
    obtain ⟨g, old, rfl⟩ := mem_updateWhere.mp hm
    split
    · next ha =>
      rw [(hw g ha).1, hu old ha]
      exact ⟨fun h => (nomatch h), fun h => absurd h (hw g ha).2.1⟩
    · exact inv.exchanged g old
  · intro g' hm hp
    obtain ⟨g, old, rfl⟩ := mem_updateWhere.mp hm
    split at hp
    · next ha => exact absurd hp (hw g ha).2.2
    · next hs =>
      rw [if_neg hs]
      exact inv.undecided g old hp
  · intro g' hm hso
    obtain ⟨g, old, rfl⟩ := mem_updateWhere.mp hm
    split at hso
    · next ha =>
      rw [(hw g ha).1, hu old ha] at hso
      exact nomatch hso
    · next hs =>
      rw [if_neg hs]
      exact old
  · intro g old hso
    refine mem_updateWhere.mpr ⟨g, old, if_neg fun ha => ?_⟩
    rw [hu old ha] at hso
    exact nomatch hso

theorem insertGrant_ok {g g' : List GrantRow} {grant : GrantRow}
    (hi : insertGrant g grant = .ok g') :
    g' = g ++ [grant] ∧ lookup GrantRow.grantId g grant.grantId = none := by
  unfold insertGrant at hi
  split at hi
  · exact nomatch hi
  next hf =>
    refine ⟨(Except.ok.inj hi).symm, lookup_none_iff.mpr fun row hm he => hf ?_⟩
    exact List.any_eq_true.mpr ⟨row, hm, decide_eq_true (.inl he)⟩

theorem Quiet.insert (inv : GrantInv db) {grant : GrantRow}
    (hfr : lookup GrantRow.grantId db.deviceAuthorizationGrants grant.grantId = none)
    (hpe : grant.state = .pending) (hu : grant.exchange = none)
    (hun : grant.approvedAt = none) :
    Quiet db { db with deviceAuthorizationGrants := db.deviceAuthorizationGrants ++ [grant] } := by
  refine ⟨?_, inv.grantKeys.snoc hfr, ?_, ?_, ?_, fun g old _ => List.mem_append_left _ old,
    fun f hm => ⟨f, hm, rfl⟩, fun d hm => ⟨d, hm, rfl, rfl⟩⟩
  · exact evolves_withGrants fun id g hf => ⟨g, lookup_snoc_old hf, .refl⟩
  · intro g hm
    rcases List.mem_append.mp hm with old | new
    · exact inv.exchanged g old
    · rw [List.mem_singleton.mp new, hu, hpe]
      exact ⟨fun h => (nomatch h), fun h => (nomatch h)⟩
  · intro g hm hp
    rcases List.mem_append.mp hm with old | new
    · exact inv.undecided g old hp
    · rw [List.mem_singleton.mp new]
      exact hun
  · intro g hm hs
    rcases List.mem_append.mp hm with old | new
    · exact old
    · rw [List.mem_singleton.mp new, hu] at hs
      exact nomatch hs

/-! ## The exchange -/

section Exchange

variable {device : DeviceRow} {family : TokenFamilyRow} {access refresh : DeviceTokenRow}
  {grant : GrantRow} {anchors : ExchangeAnchors}

theorem evolves_exchangeGrants (hk : Unique GrantRow.grantId db.deviceAuthorizationGrants)
    (hf : db.grant grant.grantId = some grant) (hap : grant.state = .approved)
    (hi : anchors.exchangedAt < grant.expiresAt) :
    Evolves db { db with
      deviceAuthorizationGrants :=
        exchangeGrants db.deviceAuthorizationGrants grant.grantId anchors } := by
  refine evolves_withGrants fun id g hg => ?_
  by_cases ha : g.grantId = grant.grantId ∧ g.state = .approved
  · have he := hk.eq_of_key (mem_of_lookup hg) (mem_of_lookup hf) ha.1
    exact ⟨{ g with state := .exchanged, exchange := some anchors },
      lookup_written (fun _ => rfl) hg (decide_eq_true ha),
      .single (he ▸ .exchange anchors hap hi)⟩
  · exact ⟨g, lookup_kept (fun _ => rfl) hg (decide_eq_false ha), .refl⟩

theorem GrantInv.exchange (inv : GrantInv db)
    (hr : Registration db device family access refresh)
    (hob : device.deviceKind = .obsidian)
    (hfd : db.grant grant.grantId = some grant) (hap : grant.state = .approved)
    (hi : anchors.exchangedAt < grant.expiresAt)
    (hna : anchors.deviceId = device.deviceId ∧ anchors.tokenFamilyId = family.tokenFamilyId ∧
      anchors.initialAccessTokenId = access.deviceTokenId ∧
      anchors.initialRefreshTokenId = refresh.deviceTokenId)
    (ha : access.generation = initialRefreshGeneration) :
    GrantInv { db.register device family access refresh with
      deviceAuthorizationGrants :=
        exchangeGrants db.deviceAuthorizationGrants grant.grantId anchors } := by
  obtain ⟨hd, hf, hac, hre⟩ := hna
  let after : Db := { db.register device family access refresh with
    deviceAuthorizationGrants :=
      exchangeGrants db.deviceAuthorizationGrants grant.grantId anchors }
  let eg : GrantRow := { grant with state := .exchanged, exchange := some anchors }
  have hst : grant ∈ db.deviceAuthorizationGrants := mem_of_lookup hfd
  have hb : ∀ g' ∈ exchangeGrants db.deviceAuthorizationGrants grant.grantId anchors,
      g' = eg ∨ g' ∈ db.deviceAuthorizationGrants := by
    intro g' hm
    obtain ⟨g, old, rfl⟩ := mem_updateWhere.mp hm
    split
    · next had =>
      have hsa := inv.grantKeys.eq_of_key old hst (of_decide_eq_true had).1
      rw [hsa]
      exact .inl rfl
    · exact .inr old
  have hk : ∀ g ∈ db.deviceAuthorizationGrants, g.exchange.isSome →
      g ∈ exchangeGrants db.deviceAuthorizationGrants grant.grantId anchors := by
    intro g old hso
    refine mem_updateWhere.mpr ⟨g, old, if_neg fun had => ?_⟩
    have hse := (inv.exchanged g old).mp hso
    exact nomatch hse.symm.trans (of_decide_eq_true had).2
  have hn : eg ∈ exchangeGrants db.deviceAuthorizationGrants grant.grantId anchors :=
    mem_updateWhere.mpr ⟨grant, hst, if_pos (decide_eq_true ⟨rfl, hap⟩)⟩
  have hev : Evolves db after :=
    (evolves_register hr).trans (evolves_exchangeGrants inv.grantKeys hfd hap hi)
  have hae : after.device device.deviceId = some device :=
    lookup_snoc_new hr.deviceFresh
  have hay : after.family family.tokenFamilyId = some family :=
    lookup_snoc_new hr.familyFresh
  have has : after.token access.deviceTokenId = some access := by
    have hfi : lookup DeviceTokenRow.deviceTokenId (db.deviceTokens ++ [access])
        access.deviceTokenId = some access := lookup_snoc_new hr.accessFresh
    have hs : lookup DeviceTokenRow.deviceTokenId (db.deviceTokens ++ [access] ++ [refresh])
        access.deviceTokenId = some access := lookup_snoc_old hfi
    rw [List.append_assoc] at hs
    exact hs
  have hat : after.token refresh.deviceTokenId = some refresh := by
    have hfi : lookup DeviceTokenRow.deviceTokenId (db.deviceTokens ++ [access])
        refresh.deviceTokenId = none := by
      rw [lookup_snoc_other hr.apart]
      exact hr.refreshFresh
    have hs : lookup DeviceTokenRow.deviceTokenId (db.deviceTokens ++ [access] ++ [refresh])
        refresh.deviceTokenId = some refresh := lookup_snoc_new hfi
    rw [List.append_assoc] at hs
    exact hs
  have new : Anchored after eg anchors := by
    refine ⟨hi, ⟨device, hd ▸ hae, hob⟩, ⟨family, hf ▸ hay, ?_⟩,
      ⟨refresh, hre ▸ hat, ?_, hr.kinds.2, hr.first.1⟩,
      ⟨access, hac ▸ has, ?_, hr.kinds.1, ha⟩⟩
    · exact hr.house.trans hd.symm
    · exact hr.families.2.trans hf.symm
    · exact hr.families.1.trans hf.symm
  -- an anchored grant of before names neither the new family nor the new device
  have hfo {g : GrantRow} {a : ExchangeAnchors} (old : g ∈ db.deviceAuthorizationGrants)
      (he : g.exchange = some a) :
      ¬ (anchors.tokenFamilyId = a.tokenFamilyId ∨ anchors.deviceId = a.deviceId) := by
    have han := inv.anchored g old a he
    rintro (hsa | hsa)
    · obtain ⟨f, ho, -⟩ := han.family
      rw [← hsa, hf] at ho
      exact nomatch hr.familyFresh.symm.trans ho
    · obtain ⟨d, ho, -⟩ := han.device
      rw [← hsa, hd] at ho
      exact nomatch hr.deviceFresh.symm.trans ho
  refine ⟨inv.grantKeys.updateWhere fun _ => rfl, ?_, ?_, ?_, ?_, ?_, ?_⟩
  · intro g' hm
    rcases hb g' hm with rfl | old
    · exact ⟨fun _ => rfl, fun _ => rfl⟩
    · exact inv.exchanged g' old
  · intro g' hm hp
    rcases hb g' hm with rfl | old
    · exact nomatch hp
    · exact inv.undecided g' old hp
  · intro g' hm a he
    rcases hb g' hm with rfl | old
    · cases he
      exact new
    · exact (inv.anchored g' old a he).evolves hev
  · intro f hm
    rcases List.mem_append.mp hm with old | hl
    · obtain ⟨g, hg, a, he, har⟩ := inv.families f old
      exact ⟨g, hk g hg (by rw [he]; rfl), a, he, har⟩
    · cases List.mem_singleton.mp hl
      exact ⟨eg, hn, anchors, rfl, hf⟩
  · intro d hm hki
    rcases List.mem_append.mp hm with old | hl
    · obtain ⟨g, hg, a, he, har⟩ := inv.devices d old hki
      exact ⟨g, hk g hg (by rw [he]; rfl), a, he, har⟩
    · cases List.mem_singleton.mp hl
      exact ⟨eg, hn, anchors, rfl, hd⟩
  · intro g hm g' hm' a a' he he' hsh
    rcases hb g hm with rfl | old <;> rcases hb g' hm' with rfl | ho'
    · rfl
    · cases he
      exact absurd hsh (hfo ho' he')
    · cases he'
      exact absurd (hsh.imp Eq.symm Eq.symm) (hfo old he)
    · exact inv.apart g old g' ho' a a' he he' hsh

end Exchange

end PersonalOs.Authentication
