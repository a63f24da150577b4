import PersonalOs.Authentication.DeviceTokenSafety
import PersonalOs.Authentication.GrantSafety
import PersonalOs.Authentication.TokenSecrets

/-!
# Runs of the device stores

Any number of calls of the device stores, in any interleaving of their statements, with
transactions that fail, acknowledgements that are lost and clients that stop.
-/

namespace PersonalOs.Authentication

open Transactions Tables

/-- A database no plugin device was registered in. -/
structure DeviceInitial (s : Snapshot Db) : Prop where
  devices : Unique DeviceRow.deviceId s.db.devices
  system : ∀ d ∈ s.db.devices, d.deviceKind = .system
  families : s.db.deviceTokenFamilies = []
  tokens : s.db.deviceTokens = []
  grants : s.db.deviceAuthorizationGrants = []
  audits : s.db.auditEvents = []

abbrev DeviceWorld := World Db AuthRow Sweep AuthAnswer DeviceCall

def deviceMachine : Machine DeviceWorld (Action DeviceCall) :=
  machine deviceProgram DeviceInitial

def Answers (w : DeviceWorld) (call : DeviceCall) (born : Db) (out : AuthAnswer) : Prop :=
  ∃ s ∈ w.sessions, s.call = call ∧ s.born.db = born ∧ s.program = .done out

/-! ## Soundness -/

theorem deviceInv_of_initial {s : Snapshot Db} (hi : DeviceInitial s) : DeviceInv s := by
  obtain ⟨hd, hs, hf, ht, hg, ha⟩ := hi
  refine ⟨⟨hd, ?_, ?_, ?_, ?_, ?_, ?_⟩, ⟨?_, ?_, ?_, ?_, ?_, ?_, ?_⟩⟩
  · simp [Tables.Unique, hf]
  · simp [Tables.Unique, ht]
  · simp [hf]
  · simp [ht]
  · simp [hf]
  · simp [Db.reuseReports, ha]
  · simp [Tables.Unique, hg]
  · simp [hg]
  · simp [hg]
  · simp [hg]
  · simp [hf]
  · intro d hm ho
    cases (hs d hm).symm.trans ho
  · simp [hg]

theorem safe_deviceProgram (call : DeviceCall) (s : Snapshot Db) (inv : DeviceInv s) :
    Safe deviceRules call s (deviceProgram call) .none s := by
  cases call with
  | insertPendingGrant c => exact safe_insertPendingGrant inv
  | approveGrant c => exact safe_decideGrant rfl inv
  | denyGrant c => exact safe_decideGrant rfl inv
  | pollExchange c => exact safe_pollExchange inv
  | refreshRotation c => exact safe_refreshRotation inv
  | revokeCurrentRefresh c => exact safe_revokeCurrentRefresh inv
  | adminRevokeDevice c => exact safe_adminRevokeDevice inv
  | authenticateAccessToken c => exact safe_authenticateAccessToken inv

section Runs

variable {w w' : DeviceWorld} {call : DeviceCall} {born : Db} {out : AuthAnswer}

theorem deviceSound (hr : deviceMachine.Reachable w) : Sound deviceRules w :=
  Rules.sound (fun _ => deviceInv_of_initial) safe_deviceProgram
    (Rules.guarded_of_reachable (fun _ _ _ => trivial) hr)

theorem evolves_of_leads (hr : deviceMachine.Reachable w) (hl : deviceMachine.Leads w w') :
    Evolves w.snapshot.db w'.snapshot.db := by
  induction hl with
  | refl => exact .refl _
  | tail hb hv ih =>
    obtain ⟨a, hv⟩ := hv
    have hs := deviceSound (Machine.Leads.reachable hr hb)
    exact ih.trans (evolves_of_rely (Rules.step_interferes hs hv))

theorem good_of_answers (hr : deviceMachine.Reachable w) (ha : Answers w call born out) :
    ∃ s : Snapshot Db, s.db = born ∧ DeviceGood call s w.snapshot out := by
  obtain ⟨s, hm, rfl, rfl, hd⟩ := ha
  obtain ⟨i, hat⟩ := List.mem_iff_getElem?.mp hm
  have hs := deviceSound hr
  have hsa := hs.safe i s hat
  rw [hd] at hsa
  exact ⟨s.born, rfl, hsa _ .refl hs.inv⟩

end Runs

/-! ## A run -/

namespace DeviceWitness

def db : Db where
  users := [{ userId := 1, username := "owner", isActive := true }]
  workspaces := [{ workspaceId := 1, ownerUserId := 1, isActive := true }]
  userCredentials := []
  webSessions := []
  totpCredentials := []
  totpRecoveryCodes := []
  devices := []
  deviceTokenFamilies := []
  deviceTokens := []
  deviceAuthorizationGrants := []
  auditEvents := []
  resets := []

def start : DeviceWorld := ⟨⟨db, 0⟩, []⟩

/-- Spawn a call as session `i` and let it take `n` statements. -/
def serve (i n : Nat) (call : DeviceCall) : List (Action DeviceCall) :=
  .spawn call :: List.replicate n (.advance i)

def create : DeviceCall := .insertPendingGrant {
  grantId := 1, pollingSecretHash := "p", claimedDeviceId := none, deviceName := "laptop",
  expiresAt := 600, databaseNow := 0 }

def approve : DeviceCall :=
  .approveGrant { grantId := 1, userId := 1, webSessionId := 1, databaseNow := 0 }

/-- A poll at time zero, as the service builds it, with fresh identities. -/
def poll (id : Nat) : ExchangeGrantCommand where
  grantId := 1
  pollingSecretHash := "p"
  previousPollingSecretHash := none
  deviceId := id
  tokenFamilyId := id
  accessTokenId := 10 * id
  refreshTokenId := 10 * id + 1
  accessSecretHash := "a" ++ toString id
  refreshSecretHash := "r" ++ toString id
  derivationKeyId := "k"
  accessExpiresAt := accessTokenLifetime
  refreshExpiresAt := refreshInactivityLifetime
  familyAbsoluteExpiresAt := refreshAbsoluteLifetime
  databaseNow := 0

/-- The rotation of a token a minute before the window of its family ends. -/
def rotate (id predecessor : Nat) (secret : SecretHash) (now : Instant) : DeviceCall :=
  .refreshRotation {
    predecessorTokenId := predecessor
    predecessorSecretHashesByKeyId := [("k", secret)]
    rotationId := id
    successorRefreshTokenId := 10 * id + 1
    successorAccessTokenId := 10 * id
    successorRefreshSecretHash := "r" ++ toString id
    successorAccessSecretHash := "a" ++ toString id
    derivationKeyId := "k"
    accessExpiresAt := now + accessTokenLifetime
    databaseNow := now }

theorem started : deviceMachine.Init start := ⟨⟨List.nodup_nil, by decide, rfl, rfl, rfl, rfl⟩, rfl⟩

/-- A grant, its approval and its exchange; then a rotation before each window ends. -/
def script : List (Action DeviceCall) :=
  serve 0 3 create ++ serve 1 6 approve ++ serve 2 8 (.pollExchange (poll 2)) ++
    serve 3 11 (rotate 3 21 "r2" (refreshInactivityLifetime - 60)) ++
    serve 4 11 (rotate 4 31 "r3" (2 * refreshInactivityLifetime - 120)) ++
    serve 5 11 (rotate 5 41 "r4" (3 * refreshInactivityLifetime - 180))

end DeviceWitness

/-! ## Families -/

/-- A family and its tokens in any state: one chain of refresh tokens, numbered from the first
generation, of which an active family has exactly one active. -/
structure FamilyStands (db : Db) (f : TokenFamilyRow) : Prop where
  linked : ((db.tokensOf f.tokenFamilyId).filter fun t => t.tokenKind = .refresh).IsChain Succeeds
  first : ∀ t ∈ ((db.tokensOf f.tokenFamilyId).filter fun t => t.tokenKind = .refresh).head?,
    t.predecessorTokenId = none ∧ t.generation = initialRefreshGeneration
  current : f.state = .active → ∃ t ∈ db.tokensOf f.tokenFamilyId, t.tokenKind = .refresh ∧
    t.state = .active ∧ t.generation = f.currentRefreshGeneration ∧
    ∀ u ∈ db.tokensOf f.tokenFamilyId, u.tokenKind = .refresh → u.state = .active → u = t
  expiry : f.inactivityExpiresAt ≤ f.absoluteExpiresAt ∧
    ∀ t ∈ db.tokensOf f.tokenFamilyId, t.tokenKind = .refresh → t.expiresAt ≤ f.absoluteExpiresAt
  retired : f.state = .revoked → ∀ t ∈ db.tokensOf f.tokenFamilyId, t.state ≠ .active

theorem FamilySound.stands {db : Db} {f : TokenFamilyRow}
    (hs : FamilySound f (db.tokensOf f.tokenFamilyId)) : FamilyStands db f where
  linked := hs.chain.linked
  first := hs.chain.first
  current ha := by
    obtain ⟨e, t, ht, -, hg, hst⟩ := hs.chain.last
    have hm : t ∈ (db.tokensOf f.tokenFamilyId).filter fun t => t.tokenKind = .refresh :=
      ht ▸ List.mem_append_right _ List.mem_cons_self
    rw [ha] at hst
    obtain ⟨hto, hk⟩ := List.mem_filter.mp hm
    refine ⟨t, hto, of_decide_eq_true hk, hst, hg, fun u ht' hk' ha' => ?_⟩
    exact hs.chain.active_unique (List.mem_filter.mpr ⟨ht', decide_eq_true hk'⟩) hm ha' hst
  expiry := ⟨hs.window, hs.expiry⟩
  retired := hs.retired

/-- What stays as it is, or revoked, from one state to a later one. -/
structure RevokedForGood (before after : Db) : Prop where
  family : ∀ id f, before.family id = some f → ∃ f', after.family id = some f' ∧
    f'.absoluteExpiresAt = f.absoluteExpiresAt ∧ (f.state = .revoked → f'.state = .revoked ∧
      ∀ t ∈ after.tokensOf id, t.state ≠ .active)
  device : ∀ id d, before.device id = some d → d.status = .revoked →
    (∃ d', after.device id = some d' ∧ d'.status = .revoked) ∧
      ∀ f ∈ after.deviceTokenFamilies, f.deviceId = id → f.state = .revoked

theorem revokedForGood_of_evolves {b a : Db} (inv : FamilyInv a)
    (he : Evolves b a) : RevokedForGood b a where
  family id f hf := by
    obtain ⟨f', hf', hp⟩ := he.family id f hf
    refine ⟨f', hf', hp.absoluteExpiresAt, fun hr => ?_⟩
    have hs := hp.revoked hr
    exact ⟨hs, (inv.sound_of_family hf').retired hs⟩
  device id d hf hr := by
    obtain ⟨d', hf', hp⟩ := he.device id d hf
    refine ⟨⟨d', hf', hp.revoked hr⟩, fun f hst ho => ?_⟩
    obtain ⟨h, hh, hl⟩ := inv.housed f hst
    rw [ho] at hh
    cases Option.some.inj (hh.symm.trans hf')
    exact hl (hp.revoked hr)

/-- Token families over whole runs. An access token may expire after its family, which the
authentication of the token checks. -/
theorem token_families_sound {w : DeviceWorld} (reached : deviceMachine.Reachable w) :
    (∀ f ∈ w.snapshot.db.deviceTokenFamilies, FamilyStands w.snapshot.db f) ∧
    (∀ id, (w.snapshot.db.reuseReports id).length ≤ 1) ∧
    (∀ w', deviceMachine.Leads w w' → RevokedForGood w.snapshot.db w'.snapshot.db) ∧
    (∀ command born token, Answers w (.authenticateAccessToken command) born
      (.authenticated token) → AccessGood command born w.snapshot.db) ∧
    (∀ command born rotation, Answers w (.refreshRotation command) born (.rotated rotation) →
      CredentialLive born command.predecessorTokenId) ∧
    (∀ command born family, Answers w (.revokeCurrentRefresh command) born
      (.familyRevoked family) → CredentialLive born command.refreshTokenId) := by
  have inv := (deviceSound reached).inv.1
  refine ⟨fun f hs => (inv.sound f hs).stands, fun id => (inv.reported id).1,
    fun w' hl => ?_, fun command born token ha => ?_, fun command born rotation ha => ?_,
    fun command born family ha => ?_⟩
  · have hla := (deviceSound (Machine.Leads.reachable reached hl)).inv.1
    exact revokedForGood_of_evolves hla (evolves_of_leads reached hl)
  · obtain ⟨s, rfl, hg⟩ := good_of_answers reached ha
    exact hg
  · obtain ⟨s, rfl, hg⟩ := good_of_answers reached ha
    exact hg
  · obtain ⟨s, rfl, hg⟩ := good_of_answers reached ha
    exact hg

open DeviceWitness in
/-- An access token can expire after its family, which is active. -/
theorem access_outlives_family : ∃ w, deviceMachine.Reachable w ∧
    ∃ f ∈ w.snapshot.db.deviceTokenFamilies, f.state = .active ∧
      ∃ t ∈ w.snapshot.db.tokensOf f.tokenFamilyId, t.state = .active ∧
        f.absoluteExpiresAt < t.expiresAt := by
  obtain ⟨w, ran⟩ : ∃ w, deviceMachine.run start script = some w := ⟨_, rfl⟩
  refine ⟨w, Machine.reachable_of_run (M := deviceMachine) started ran, ?_⟩
  cases ran
  decide

open DeviceWitness in
theorem token_families_sound_run : ∃ w, deviceMachine.Reachable w ∧
    (∃ f ∈ w.snapshot.db.deviceTokenFamilies, f.currentRefreshGeneration = 4) ∧
    ∀ f ∈ w.snapshot.db.deviceTokenFamilies, FamilyStands w.snapshot.db f := by
  obtain ⟨w, ran⟩ : ∃ w, deviceMachine.run start script = some w := ⟨_, rfl⟩
  have hr := Machine.reachable_of_run (M := deviceMachine) started ran
  refine ⟨w, hr, ?_, (token_families_sound hr).1⟩
  cases ran
  decide

/-! ## Grants -/

/-- A grant from one state to a later one: it leaves `pending` once, keeps its decision, and its
exchange or denial is final. -/
structure DecidedForGood (before after : Db) : Prop where
  grant : ∀ id g, before.grant id = some g → ∃ g', after.grant id = some g' ∧
    (g.state ≠ .pending → g'.state ≠ .pending ∧ g'.approvedAt = g.approvedAt) ∧
    (g.state = .exchanged ∨ g.state = .denied → g' = g)

/-- The exchanged grants of a state: in time, never denied, and one for every family and every
plugin device. -/
structure ExchangedOnce (db : Db) : Prop where
  inTime : ∀ g ∈ db.deviceAuthorizationGrants, ∀ a, g.exchange = some a →
    g.state = .exchanged ∧ a.exchangedAt < g.expiresAt
  family : ∀ f ∈ db.deviceTokenFamilies, ∃! g, g ∈ db.deviceAuthorizationGrants ∧
    ∃ a, g.exchange = some a ∧ a.tokenFamilyId = f.tokenFamilyId
  device : ∀ d ∈ db.devices, d.deviceKind = .obsidian → ∃! g, g ∈ db.deviceAuthorizationGrants ∧
    ∃ a, g.exchange = some a ∧ a.deviceId = d.deviceId

theorem exchangedOnce_of_inv {db : Db} (inv : GrantInv db) : ExchangedOnce db where
  inTime g hs a he := ⟨(inv.exchanged g hs).mp (by rw [he]; rfl), (inv.anchored g hs a he).inTime⟩
  family f hs := by
    obtain ⟨g, hg, a, he, ha⟩ := inv.families f hs
    refine ⟨g, ⟨hg, a, he, ha⟩, ?_⟩
    rintro g' ⟨hg', a', he', ha'⟩
    exact inv.grantKeys.eq_of_key hg' hg (inv.apart g' hg' g hg a' a he'
      he (.inl (ha'.trans ha.symm)))
  device d hs hk := by
    obtain ⟨g, hg, a, he, ha⟩ := inv.devices d hs hk
    refine ⟨g, ⟨hg, a, he, ha⟩, ?_⟩
    rintro g' ⟨hg', a', he', ha'⟩
    exact inv.grantKeys.eq_of_key hg' hg (inv.apart g' hg' g hg a' a he'
      he (.inr (ha'.trans ha.symm)))

/-- No grant has an approval answered in one state and a denial in the other. -/
def DecisionsApart (w w' : DeviceWorld) : Prop :=
  ∀ approval denial born born' approved denied,
    Answers w (.approveGrant approval) born (.decided approved) →
    Answers w' (.denyGrant denial) born' (.decided denied) → approval.grantId ≠ denial.grantId

theorem decisionsApart_of_evolves {w w' : DeviceWorld} {db : Db}
    (hr : deviceMachine.Reachable w) (hr' : deviceMachine.Reachable w')
    (he : Evolves w.snapshot.db db) (he' : Evolves w'.snapshot.db db) :
    DecisionsApart w w' := by
  intro ap de born b' a d has hde hs
  obtain ⟨_, -, hap, hg⟩ := good_of_answers hr has
  obtain ⟨_, -, hd, hg'⟩ := good_of_answers hr' hde
  obtain ⟨g, hf, -, ha⟩ : ∃ g, db.grant a.grantId = some g ∧
    g.state ≠ .pending ∧ g.approvedAt = some a.decidedAt := hg.evolves he
  obtain ⟨g', hf', -, hu⟩ : ∃ g, db.grant d.grantId = some g ∧
    g.state = .denied ∧ g.approvedAt = none := hg'.evolves he'
  rw [hap.trans hs, ← hd] at hf
  cases Option.some.inj (hf.symm.trans hf')
  exact nomatch ha.symm.trans hu

/-- Two answers of exchanges name the same rows, and render to the same credentials. -/
structure ExchangesAgree (p p' : ExchangeProvisioning) : Prop where
  deviceId : p.deviceId = p'.deviceId
  tokenFamilyId : p.tokenFamilyId = p'.tokenFamilyId
  tokenIds : p.accessTokenId = p'.accessTokenId ∧ p.refreshTokenId = p'.refreshTokenId
  credentials : ∀ (hmac : Bytes → Bytes → Bytes) (keys keys' : Keyring)
    (pollingSecret masterKey : Bytes), keys.lookup p.derivationKeyId = some masterKey →
    keys'.lookup p.derivationKeyId = some masterKey →
    ∃ c c', renderExchangedCredentials hmac keys pollingSecret p = .ok c ∧
      renderExchangedCredentials hmac keys' pollingSecret p' = .ok c' ∧ c.Same c'

theorem exchangesAgree_of_names {p p' : ExchangeProvisioning} {a : ExchangeAnchors}
    (hn : p.Names a) (hn' : p'.Names a) (hst : p.grantId = p'.grantId) :
    ExchangesAgree p p' := by
  have hs := hn.deviceId.trans hn'.deviceId.symm
  have hsa := hn.tokenFamilyId.trans hn'.tokenFamilyId.symm
  have hss := And.intro (hn.accessTokenId.trans hn'.accessTokenId.symm)
    (hn.refreshTokenId.trans hn'.refreshTokenId.symm)
  refine ⟨hs, hsa, hss, fun h k k' s mk hh hh' => ?_⟩
  exact renderExchangedCredentials_eq hst hs hsa hss
    (hn.derivationKeyId.trans hn'.derivationKeyId.symm)
    (hn.refreshGeneration.trans hn'.refreshGeneration.symm) hh hh'

/-- A poll of a grant exchanged before it was made is answered while the family is active and at
its first generation: neither was over when an answer's call was made, one is over when a
refusal is given that is no failure. -/
structure ReplayedExactly (w : DeviceWorld) (command : ExchangeGrantCommand) (born : Db) : Prop where
  answered : ∀ p, Answers w (.pollExchange command) born (.exchanged p) →
    ∀ f, born.family p.tokenFamilyId = some f →
      f.state = .active ∧ f.currentRefreshGeneration = initialRefreshGeneration
  refused : ∀ code, Answers w (.pollExchange command) born (.rejected code) →
    ∀ g a, born.grant command.grantId = some g → g.exchange = some a →
      g.pollingSecretHash ∈ command.matchableDigests →
      code = .internalError ∨ code = .deviceAuthorizationStateInvalid ∧
        ∃ f, w.snapshot.db.family a.tokenFamilyId = some f ∧
          ¬ (f.state = .active ∧ f.currentRefreshGeneration = initialRefreshGeneration)

/-- Grants over whole runs. -/
theorem grants_decided_once {w : DeviceWorld} (reached : deviceMachine.Reachable w) :
    ExchangedOnce w.snapshot.db ∧
    (∀ w', deviceMachine.Leads w w' → DecidedForGood w.snapshot.db w'.snapshot.db) ∧
    (∀ w', deviceMachine.Leads w w' → DecisionsApart w w' ∧ DecisionsApart w' w) ∧
    (∀ w', deviceMachine.Leads w w' → ∀ command command' born born' p p',
      Answers w (.pollExchange command) born (.exchanged p) →
      Answers w' (.pollExchange command') born' (.exchanged p') →
      command.grantId = command'.grantId → ExchangesAgree p p') ∧
    (∀ command born, ReplayedExactly w command born) := by
  have inv := (deviceSound reached).inv.2
  refine ⟨exchangedOnce_of_inv inv, fun w' hl => ⟨fun id g hf => ?_⟩, fun w' hl => ?_,
    fun w' hl command command' born born' p p' ha ha' hsa => ?_,
    fun command born => ⟨fun p ha => ?_, fun c ha g a hb he hd => ?_⟩⟩
  · obtain ⟨g', hf', hp⟩ := (evolves_of_leads reached hl).grant id g hf
    exact ⟨g', hf', GrantProgress.decided hp, GrantProgress.ended hp⟩
  · have hr' := Machine.Leads.reachable reached hl
    have hev := evolves_of_leads reached hl
    exact ⟨decisionsApart_of_evolves reached hr' hev (.refl _),
      decisionsApart_of_evolves hr' reached (.refl _) hev⟩
  · obtain ⟨_, -, hg⟩ := good_of_answers reached ha
    obtain ⟨_, -, hg'⟩ := good_of_answers (Machine.Leads.reachable reached hl) ha'
    obtain ⟨g, a, hf, he, hn⟩ := hg.anchors
    obtain ⟨g', a', hf', he', hn'⟩ := hg'.anchors
    have hs := exchanged_stays inv (evolves_of_leads reached hl) hf he
    rw [hsa] at hs
    cases Option.some.inj (hs.symm.trans hf')
    cases Option.some.inj (he.symm.trans he')
    exact exchangesAgree_of_names hn hn' ((hg.grantId.trans hsa).trans hg'.grantId.symm)
  · obtain ⟨s, rfl, hg⟩ := good_of_answers reached ha
    exact hg.current
  · obtain ⟨s, rfl, hg⟩ := good_of_answers reached ha
    refine (hg g a hb he hd).imp_right fun ⟨hco, f, hf, had⟩ =>
      ⟨hco, f, hf, fun ⟨hac, hc⟩ => ?_⟩
    rcases had with hr | hla
    · exact nomatch hac.symm.trans hr
    · exact absurd hla (hc ▸ Nat.lt_irrefl _)

open DeviceWitness in
/-- A first exchange and its replay, with other fresh identities, both about to answer. -/
theorem grants_decided_once_run : ∃ w p p' born born', deviceMachine.Reachable w ∧
    Answers w (.pollExchange (poll 2)) born (.exchanged p) ∧
    Answers w (.pollExchange (poll 3)) born' (.exchanged p') ∧ ExchangesAgree p p' := by
  obtain ⟨w, ran⟩ : ∃ w, deviceMachine.run start (
    [.spawn (.pollExchange (poll 2))] ++ serve 1 3 create ++ serve 2 6 approve ++
      List.replicate 8 (.advance 0) ++ serve 3 9 (.pollExchange (poll 3))) = some w := ⟨_, rfl⟩
  have hr := Machine.reachable_of_run (M := deviceMachine) started ran
  have ha := (grants_decided_once hr).2.2.2.1 w .refl
  obtain ⟨p, born, hf⟩ : ∃ p born, Answers w (.pollExchange (poll 2)) born (.exchanged p) := by
    cases ran
    exact ⟨_, _, _, List.mem_of_getElem? (i := 0) rfl, rfl, rfl, rfl⟩
  obtain ⟨p', born', hre⟩ : ∃ p born, Answers w (.pollExchange (poll 3)) born (.exchanged p) := by
    cases ran
    exact ⟨_, _, _, List.mem_of_getElem? (i := 3) rfl, rfl, rfl, rfl⟩
  exact ⟨w, p, p', born, born', hr, hf, hre, ha _ _ _ _ _ _ hf hre rfl⟩

end PersonalOs.Authentication
