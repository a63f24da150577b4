import PersonalOs.Authentication.GrantTables

/-!
# The rules of the device stores

Which calls the device stores serve, what a commit of any of them guarantees, and which answers
are good in the state they are given in.
-/

namespace PersonalOs.Authentication

open Transactions Tables

inductive DeviceCall
  | insertPendingGrant (command : InsertPendingGrantCommand)
  | approveGrant (command : DecideGrantCommand)
  | denyGrant (command : DecideGrantCommand)
  | pollExchange (command : ExchangeGrantCommand)
  | refreshRotation (command : RefreshRotationCommand)
  | revokeCurrentRefresh (command : RevokeCurrentRefreshCommand)
  | adminRevokeDevice (command : AdminRevokeDeviceCommand)
  | authenticateAccessToken (command : AccessTokenAuthenticationCommand)

def deviceProgram : DeviceCall → AuthProgram
  | .insertPendingGrant command => insertPendingGrant command
  | .approveGrant command => decideGrant true command
  | .denyGrant command => decideGrant false command
  | .pollExchange command => pollExchange command
  | .refreshRotation command => refreshRotation command
  | .revokeCurrentRefresh command => revokeCurrentRefresh command
  | .adminRevokeDevice command => adminRevokeDevice command
  | .authenticateAccessToken command => authenticateAccessToken command

/-! ## Grants over time -/

section GrantProgress

variable {g g' : GrantRow}

theorem GrantProgress.ended (hpr : Relation.ReflTransGen GrantProgress g g')
    (hf : g.state = .exchanged ∨ g.state = .denied) : g' = g := by
  induction hpr with
  | refl => rfl
  | tail _ hs ih =>
    subst ih
    cases hs with
    | refl => rfl
    | approve _ hp => exact hf.elim (nomatch hp.symm.trans ·) (nomatch hp.symm.trans ·)
    | deny _ hu =>
      rcases hf with hf | hf <;> rcases hu with open? | open? <;> exact nomatch open?.symm.trans hf
    | exchange _ ha =>
      exact hf.elim (nomatch ha.symm.trans ·) (nomatch ha.symm.trans ·)

theorem GrantProgress.decided (hp : Relation.ReflTransGen GrantProgress g g')
    (hl : g.state ≠ .pending) : g'.state ≠ .pending ∧ g'.approvedAt = g.approvedAt := by
  induction hp with
  | refl => exact ⟨hl, rfl⟩
  | tail _ hs ih =>
    cases hs with
    | refl => exact ih
    | approve _ hpe => exact absurd hpe ih.1
    | deny => exact ⟨fun h => (nomatch h), ih.2⟩
    | exchange => exact ⟨fun h => (nomatch h), ih.2⟩

end GrantProgress

/-! ## Good answers -/

/-- Neither the family nor the device of a token was revoked. -/
structure CredentialLive (db : Db) (tokenId : DeviceTokenId) : Prop where
  family : ∀ t f, db.token tokenId = some t → db.family t.tokenFamilyId = some f →
    f.state = .active
  device : ∀ t d, db.token tokenId = some t → db.device t.deviceId = some d →
    d.status = .active

/-- An access credential authenticated: neither its family nor its device was revoked when the
call was made, and it is used before its own expiry and the absolute expiry of its family. -/
structure AccessGood (command : AccessTokenAuthenticationCommand) (born now : Db) : Prop where
  live : CredentialLive born command.tokenId
  inTime : ∃ t f, now.token command.tokenId = some t ∧ now.family t.tokenFamilyId = some f ∧
    command.databaseNow < t.expiresAt ∧ command.databaseNow < f.absoluteExpiresAt

/-- A family that an exchange can no longer be replayed for. -/
def TokenFamilyRow.Advanced (f : TokenFamilyRow) : Prop :=
  f.state = .revoked ∨ initialRefreshGeneration < f.currentRefreshGeneration

structure ExchangeProvisioning.Names (p : ExchangeProvisioning) (a : ExchangeAnchors) : Prop where
  deviceId : p.deviceId = a.deviceId
  tokenFamilyId : p.tokenFamilyId = a.tokenFamilyId
  accessTokenId : p.accessTokenId = a.initialAccessTokenId
  refreshTokenId : p.refreshTokenId = a.initialRefreshTokenId
  derivationKeyId : p.derivationKeyId = a.derivationKeyId
  refreshGeneration : p.refreshGeneration = initialRefreshGeneration

/-- An exchange answered: its grant is anchored to what it names, and no family it names had
advanced when the call was made. -/
structure ExchangeGood (command : ExchangeGrantCommand) (born now : Db)
    (p : ExchangeProvisioning) : Prop where
  grantId : p.grantId = command.grantId
  anchors : ∃ g a, now.grant command.grantId = some g ∧ g.exchange = some a ∧ p.Names a
  current : ∀ f, born.family p.tokenFamilyId = some f →
    f.state = .active ∧ f.currentRefreshGeneration = initialRefreshGeneration

/-- An exchange refused: where its grant was exchanged when the call was made, the family has
advanced or the transaction failed. -/
def ExchangeRefused (command : ExchangeGrantCommand) (born now : Db) (code : AuthErrorCode) :
    Prop :=
  ∀ g a, born.grant command.grantId = some g → g.exchange = some a →
    g.pollingSecretHash ∈ command.matchableDigests →
    code = .internalError ∨ code = .deviceAuthorizationStateInvalid ∧
      ∃ f, now.family a.tokenFamilyId = some f ∧ f.Advanced

def DecidedGood (now : Db) (approves : Bool) (p : DecidedGrant) : Prop :=
  ∃ g, now.grant p.grantId = some g ∧
    if approves then g.state ≠ .pending ∧ g.approvedAt = some p.decidedAt
    else g.state = .denied ∧ g.approvedAt = none

/-- The answers of the device stores that say something about the tables. -/
def DeviceGood : DeviceCall → Snapshot Db → Snapshot Db → AuthAnswer → Prop
  | .authenticateAccessToken command, born, now, .authenticated _ =>
    AccessGood command born.db now.db
  | .refreshRotation command, born, _, .rotated _ =>
    CredentialLive born.db command.predecessorTokenId
  | .revokeCurrentRefresh command, born, _, .familyRevoked _ =>
    CredentialLive born.db command.refreshTokenId
  | .pollExchange command, born, now, .exchanged p => ExchangeGood command born.db now.db p
  | .pollExchange command, born, now, .rejected code => ExchangeRefused command born.db now.db code
  | .approveGrant command, _, now, .decided p =>
    p.grantId = command.grantId ∧ DecidedGood now.db true p
  | .denyGrant command, _, now, .decided p =>
    p.grantId = command.grantId ∧ DecidedGood now.db false p
  | _, _, _, _ => True

/-! ## The rules -/

def DeviceInv (s : Snapshot Db) : Prop := FamilyInv s.db ∧ GrantInv s.db

structure DeviceCommit (o : AuthOwn) (before after : Db) : Prop where
  family : FamilyInv after
  grants : GrantInv after
  evolves : Evolves before after
  unchanged : ∀ l, l ∉ o.locks → Unchanged l before after

def deviceRules : Rules Db AuthRow Sweep AuthAnswer DeviceCall where
  Inv := DeviceInv
  Guar _ o s db := DeviceCommit o s.db db
  Respects _ _ _ := True
  Good := DeviceGood
  inv_draw inv := inv
  inv_commit _ _ commit := ⟨commit.family, commit.grants⟩
  respects_nil _ _ := trivial

theorem deviceRules_protects : Protects deviceRules Unchanged := fun _ _ _ _ _ hc => hc.unchanged

section Rely

variable {o : AuthOwn} {s s' : Snapshot Db}

theorem evolves_of_rely (ho : Rely deviceRules o s s') : Evolves s.db s'.db := by
  induction ho with
  | refl => exact .refl _
  | tail _ hs ih =>
    cases hs with
    | draw => exact ih
    | commit _ _ _ _ _ hg => exact ih.trans hg.evolves

theorem unchanged_of_rely {l : AuthRow} (ho : Rely deviceRules o s s') (hh : l ∈ o.locks) :
    Unchanged l s.db s'.db :=
  Rely.unchanged deviceRules_protects Unchanged.refl Unchanged.trans hh ho

end Rely

/-! ## Credentials over time -/

theorem active_of_unrevoked {fa : TokenFamilyRow} (hu : fa.state ≠ .revoked) :
    fa.state = .active := by
  cases hs : fa.state
  · rfl
  · exact absurd hs hu

section Live

variable {born now : Db} {t : DeviceTokenRow} {f : TokenFamilyRow}

/-- A token and its active family found later: neither family nor device was revoked before. -/
theorem credentialLive_of_active (inv : FamilyInv born) (he : Evolves born now)
    (hto : now.token t.deviceTokenId = some t) (hfy : now.family t.tokenFamilyId = some f)
    (ha : f.state = .active) : CredentialLive born t.deviceTokenId := by
  have hb : ∀ t₀, born.token t.deviceTokenId = some t₀ →
      t₀.tokenFamilyId = t.tokenFamilyId ∧ ∀ f₀, born.family t₀.tokenFamilyId = some f₀ →
        f₀.state = .active := by
    intro t₀ ht
    obtain ⟨t', ht', hp⟩ := he.token _ t₀ ht
    cases Option.some.inj (ht'.symm.trans hto)
    refine ⟨hp.tokenFamilyId.symm, fun f₀ hf => ?_⟩
    obtain ⟨f', hf', hfa⟩ := he.family _ f₀ hf
    rw [← hp.tokenFamilyId] at hf'
    cases Option.some.inj (hf'.symm.trans hfy)
    cases hse : f₀.state
    · rfl
    · exact nomatch ha.symm.trans (hfa.revoked hse)
  refine ⟨fun t₀ f₀ ht => (hb t₀ ht).2 f₀, fun t₀ d ht hd => ?_⟩
  obtain ⟨f₀, hf, hs⟩ := inv.owned t₀ (mem_of_lookup ht)
  obtain ⟨d', hh, hl⟩ := inv.housed f₀ (mem_of_lookup hf)
  rw [hs] at hh
  cases Option.some.inj (hh.symm.trans hd)
  cases hst : d.status
  · rfl
  · exact nomatch ((hb t₀ ht).2 f₀ hf).symm.trans (hl hst)

theorem not_advanced_iff (hi : initialRefreshGeneration ≤ f.currentRefreshGeneration) :
    ¬ f.Advanced ↔ f.state = .active ∧ f.currentRefreshGeneration = initialRefreshGeneration := by
  constructor
  · intro hs
    refine ⟨active_of_unrevoked fun hr => hs (.inl hr), ?_⟩
    exact Nat.le_antisymm (Nat.not_lt.mp fun hl => hs (.inr hl)) hi
  · rintro ⟨ha, hc⟩ (hr | hl)
    · exact nomatch ha.symm.trans hr
    · exact absurd hl (hc ▸ Nat.lt_irrefl _)

theorem TokenFamilyRow.Advanced.evolves {id : TokenFamilyId} (ha : f.Advanced)
    (he : Evolves born now) (hf : born.family id = some f) :
    ∃ f', now.family id = some f' ∧ f'.Advanced := by
  obtain ⟨f', hf', hp⟩ := he.family id f hf
  exact ⟨f', hf', ha.imp hp.revoked fun hl =>
    Nat.lt_of_lt_of_le hl hp.generation⟩

end Live

end PersonalOs.Authentication
