import PersonalOs.Authentication.TokenChains

/-!
# The device tables

The invariant of the devices, their token families and tokens, what no write takes back, and
what the lock of a row stands for.
-/

namespace PersonalOs.Authentication

open Tables

def Db.reuseReports (db : Db) (family : TokenFamilyId) : List AuditEventRow :=
  db.auditEvents.filter fun event =>
    event.action = .deviceTokenReuseDetected ∧ event.targetId = family

/-- The invariant of the devices, their families and tokens. -/
structure FamilyInv (db : Db) : Prop where
  deviceKeys : Unique DeviceRow.deviceId db.devices
  familyKeys : Unique TokenFamilyRow.tokenFamilyId db.deviceTokenFamilies
  tokenKeys : Unique DeviceTokenRow.deviceTokenId db.deviceTokens
  housed : ∀ f ∈ db.deviceTokenFamilies, ∃ d, db.device f.deviceId = some d ∧
    (d.status = .revoked → f.state = .revoked)
  owned : ∀ t ∈ db.deviceTokens, ∃ f, db.family t.tokenFamilyId = some f ∧
    f.deviceId = t.deviceId
  sound : ∀ f ∈ db.deviceTokenFamilies, FamilySound f (db.tokensOf f.tokenFamilyId)
  reported : ∀ id, (db.reuseReports id).length ≤ 1 ∧ (db.reuseReports id ≠ [] →
    ∃ f, db.family id = some f ∧ f.state = .revoked)

/-- What no write changes of a device. -/
structure DeviceProgress (d d' : DeviceRow) : Prop where
  deviceKind : d'.deviceKind = d.deviceKind
  revoked : d.status = .revoked → d'.status = .revoked

structure FamilyProgress (f f' : TokenFamilyRow) : Prop where
  deviceId : f'.deviceId = f.deviceId
  absoluteExpiresAt : f'.absoluteExpiresAt = f.absoluteExpiresAt
  revoked : f.state = .revoked → f'.state = .revoked
  generation : f.currentRefreshGeneration ≤ f'.currentRefreshGeneration

structure TokenProgress (t t' : DeviceTokenRow) : Prop where
  tokenFamilyId : t'.tokenFamilyId = t.tokenFamilyId
  deviceId : t'.deviceId = t.deviceId
  tokenKind : t'.tokenKind = t.tokenKind
  generation : t'.generation = t.generation
  secretHash : t'.secretHash = t.secretHash
  derivationKeyId : t'.derivationKeyId = t.derivationKeyId
  issuedAt : t'.issuedAt = t.issuedAt
  expiresAt : t'.expiresAt = t.expiresAt
  ended : t.state ≠ .active → t'.state = t.state

/-- What becomes of a grant: it is decided once, and exchanged or denied for good. -/
inductive GrantProgress (g : GrantRow) : GrantRow → Prop
  | refl : GrantProgress g g
  | approve (command : DecideGrantCommand) (pending : g.state = .pending) :
      GrantProgress g (g.decide true command)
  | deny (deniedAt : Instant) (undecided : g.state = .pending ∨ g.state = .approved) :
      GrantProgress g { g with state := .denied, deniedAt := some deniedAt }
  | exchange (anchors : ExchangeAnchors) (approved : g.state = .approved)
      (inTime : anchors.exchangedAt < g.expiresAt) :
      GrantProgress g { g with state := .exchanged, exchange := some anchors }

/-- Rows stay, a revocation is final, and a new family comes with a new device. -/
structure Evolves (before after : Db) : Prop where
  device : ∀ id d, before.device id = some d → ∃ d', after.device id = some d' ∧
    DeviceProgress d d'
  family : ∀ id f, before.family id = some f → ∃ f', after.family id = some f' ∧
    FamilyProgress f f'
  token : ∀ id t, before.token id = some t → ∃ t', after.token id = some t' ∧
    TokenProgress t t'
  grant : ∀ id g, before.grant id = some g → ∃ g', after.grant id = some g' ∧
    Relation.ReflTransGen GrantProgress g g'
  newFamily : ∀ id f', after.family id = some f' → before.family id = none →
    before.device f'.deviceId = none

/-- What a row lock stands for; that of a family covers its tokens. -/
def Unchanged : AuthRow → Db → Db → Prop
  | .device id, db, db' => ∀ d, db.device id = some d → db'.device id = some d
  | .deviceTokenFamily id, db, db' => ∀ f, db.family id = some f →
      db'.family id = some f ∧ db'.tokensOf id = db.tokensOf id
  | .deviceToken id, db, db' => ∀ t, db.token id = some t → db'.token id = some t
  | .deviceAuthorizationGrant id, db, db' => ∀ g, db.grant id = some g → db'.grant id = some g
  | _, _, _ => True

theorem DeviceProgress.refl (d : DeviceRow) : DeviceProgress d d := ⟨rfl, id⟩

theorem DeviceProgress.trans {a b c : DeviceRow} (hf : DeviceProgress a b)
    (hs : DeviceProgress b c) : DeviceProgress a c :=
  ⟨hs.deviceKind.trans hf.deviceKind, fun hr => hs.revoked (hf.revoked hr)⟩

theorem FamilyProgress.refl (f : TokenFamilyRow) : FamilyProgress f f :=
  ⟨rfl, rfl, id, Nat.le_refl _⟩

theorem FamilyProgress.trans {a b c : TokenFamilyRow} (hf : FamilyProgress a b)
    (hs : FamilyProgress b c) : FamilyProgress a c where
  deviceId := hs.deviceId.trans hf.deviceId
  absoluteExpiresAt := hs.absoluteExpiresAt.trans hf.absoluteExpiresAt
  revoked hr := hs.revoked (hf.revoked hr)
  generation := Nat.le_trans hf.generation hs.generation

theorem TokenProgress.refl (t : DeviceTokenRow) : TokenProgress t t :=
  ⟨rfl, rfl, rfl, rfl, rfl, rfl, rfl, rfl, fun _ => rfl⟩

theorem TokenProgress.trans {a b c : DeviceTokenRow} (hf : TokenProgress a b)
    (hs : TokenProgress b c) : TokenProgress a c where
  tokenFamilyId := hs.tokenFamilyId.trans hf.tokenFamilyId
  deviceId := hs.deviceId.trans hf.deviceId
  tokenKind := hs.tokenKind.trans hf.tokenKind
  generation := hs.generation.trans hf.generation
  secretHash := hs.secretHash.trans hf.secretHash
  derivationKeyId := hs.derivationKeyId.trans hf.derivationKeyId
  issuedAt := hs.issuedAt.trans hf.issuedAt
  expiresAt := hs.expiresAt.trans hf.expiresAt
  ended he := by
    have hsa := hf.ended he
    exact (hs.ended (hsa ▸ he)).trans hsa

theorem Evolves.refl (db : Db) : Evolves db db where
  device _ d hf := ⟨d, hf, .refl d⟩
  family _ f hf := ⟨f, hf, .refl f⟩
  token _ t hf := ⟨t, hf, .refl t⟩
  grant _ g hf := ⟨g, hf, .refl⟩
  newFamily _ _ hf hm := nomatch hm.symm.trans hf

theorem Evolves.trans {a b c : Db} (hfi : Evolves a b) (hs : Evolves b c) : Evolves a c where
  device id d hf := by
    obtain ⟨d', hf', hp⟩ := hfi.device id d hf
    obtain ⟨d'', hf'', hp'⟩ := hs.device id d' hf'
    exact ⟨d'', hf'', hp.trans hp'⟩
  family id f hf := by
    obtain ⟨f', hf', hp⟩ := hfi.family id f hf
    obtain ⟨f'', hf'', hp'⟩ := hs.family id f' hf'
    exact ⟨f'', hf'', hp.trans hp'⟩
  token id t hf := by
    obtain ⟨t', hf', hp⟩ := hfi.token id t hf
    obtain ⟨t'', hf'', hp'⟩ := hs.token id t' hf'
    exact ⟨t'', hf'', hp.trans hp'⟩
  grant id g hf := by
    obtain ⟨g', hf', hp⟩ := hfi.grant id g hf
    obtain ⟨g'', hf'', hp'⟩ := hs.grant id g' hf'
    exact ⟨g'', hf'', hp.trans hp'⟩
  newFamily id f'' hf hmi := by
    cases hm : b.family id with
    | none =>
      have hn := hs.newFamily id f'' hf hm
      cases old : a.device f''.deviceId with
      | none => rfl
      | some d =>
        obtain ⟨d', hf', -⟩ := hfi.device _ d old
        exact nomatch hn.symm.trans hf'
    | some f' =>
      obtain ⟨s, hf', hp⟩ := hs.family id f' hm
      have hsa : s = f'' := Option.some.inj (hf'.symm.trans hf)
      rw [← hsa, hp.deviceId]
      exact hfi.newFamily id f' hm hmi

theorem Unchanged.refl (l : AuthRow) (db : Db) : Unchanged l db db := by
  cases l <;> simp [Unchanged]

theorem Unchanged.trans (l : AuthRow) (a b c : Db) (hfi : Unchanged l a b)
    (hs : Unchanged l b c) : Unchanged l a c := by
  cases l with
  | device id => exact fun d hf => hs d (hfi d hf)
  | deviceToken id => exact fun t hf => hs t (hfi t hf)
  | deviceAuthorizationGrant id => exact fun g hf => hs g (hfi g hf)
  | deviceTokenFamily id =>
    intro f hf
    obtain ⟨hf', ht⟩ := hfi f hf
    obtain ⟨hf'', ht'⟩ := hs f hf'
    exact ⟨hf'', ht'.trans ht⟩
  | _ => trivial

end PersonalOs.Authentication
