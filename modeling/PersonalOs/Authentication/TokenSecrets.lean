import PersonalOs.Authentication.Grants

/-!
# The secrets of device tokens

Token secrets are not stored: they are derived from a presented secret, the identities a commit
anchored and a key of the keyring, and derived again for every replay. HMAC-SHA-256 is a parameter
of the derivations. A credential `<version>.<lookup id>.<hex secret>` appears as what its parser
returns.
-/

namespace PersonalOs.Authentication

abbrev Bytes := List UInt8

/-! ## Bytes -/

/-- `to_bytes(width, "big")`; `UUID.bytes` has sixteen. -/
def toBytes : Nat → Nat → Bytes
  | 0, _ => []
  | width + 1, n => toBytes width (n / 256) ++ [UInt8.ofNat (n % 256)]

def uuidBytes (id : Nat) : Bytes := toBytes 16 id

def ascii (text : String) : Bytes := text.toList.map fun c => UInt8.ofNat c.toNat

def hexDigit (n : Nat) : UInt8 :=
  UInt8.ofNat (if n < 10 then n + 48 else n + 87)

/-- `secret.hex().encode("ascii")`. -/
def presentedSegment (secret : Bytes) : Bytes :=
  secret.flatMap fun byte => [hexDigit (byte.toNat / 16), hexDigit (byte.toNat % 16)]

/-! ## Derivation -/

def exchangeCredentialDerivationLabel : Bytes := ascii "auth/exchange-credential/v1"
def accessCredentialDerivationLabel : Bytes := ascii "auth/access-credential/v1"
def hkdfSaltBytes : Bytes := List.replicate 32 0
def derivedSecretSizeBytes : Nat := 32

/-- The blocks of RFC 5869 until there are enough of them; the counter is one byte. -/
def hkdfExpand (hmac : Bytes → Bytes → Bytes) (pseudoRandomKey info : Bytes) (length : Nat) :
    Nat → Nat → Bytes → Bytes → Bytes
  | 0, _, _, output => output
  | rounds + 1, counter, block, output =>
    if output.length < length then
      let block := hmac pseudoRandomKey (block ++ info ++ [UInt8.ofNat counter])
      hkdfExpand hmac pseudoRandomKey info length rounds (counter + 1) block (output ++ block)
    else output

def hkdfSha256 (hmac : Bytes → Bytes → Bytes) (salt inputKeyMaterial info : Bytes)
    (length : Nat) : Bytes :=
  (hkdfExpand hmac (hmac salt inputKeyMaterial) info length 255 1 [] []).take length

def derivationSubkey (hmac : Bytes → Bytes → Bytes) (masterKey label : Bytes) : Bytes :=
  hkdfSha256 hmac hkdfSaltBytes masterKey label derivedSecretSizeBytes

def exchangeMessage (pollingSecret : Bytes) (grantId : GrantId) (tokenLookupId : DeviceTokenId)
    (generation : Nat) : Bytes :=
  pollingSecret ++ uuidBytes grantId ++ uuidBytes tokenLookupId ++ toBytes 8 generation

/-- `derive_exchange_refresh_credential` and `derive_exchange_access_credential`. -/
def deriveExchange (hmac : Bytes → Bytes → Bytes) (label masterKey pollingSecret : Bytes)
    (grantId : GrantId) (tokenLookupId : DeviceTokenId) (generation : Nat) : Bytes :=
  hmac (derivationSubkey hmac masterKey label)
    (exchangeMessage pollingSecret grantId tokenLookupId generation)

/-! ## Stored digests -/

/-- `keys_by_id`. -/
abbrev Keyring := List (KeyId × Bytes)

/-! ## Responses -/

/-- A credential: its lookup identity and the secret segment it presents. -/
structure OpaqueCredential where
  tokenKind : DeviceTokenKind
  lookupId : DeviceTokenId
  secret : Bytes
deriving DecidableEq

/-- `format_access_credential` and `format_refresh_credential`. -/
def formatCredential (tokenKind : DeviceTokenKind) (lookupId : DeviceTokenId) (secret : Bytes) :
    OpaqueCredential :=
  { tokenKind, lookupId, secret := presentedSegment secret }

structure ExchangedDeviceCredentials where
  grantId : GrantId
  deviceId : DeviceId
  tokenFamilyId : TokenFamilyId
  refreshGeneration : Nat
  accessCredential : OpaqueCredential
  refreshCredential : OpaqueCredential
  accessExpiresAt : Instant
  refreshExpiresAt : Instant
  databaseNow : Instant
deriving DecidableEq

def Keyring.resolveAnchoredKey (keys : Keyring) (derivationKeyId : KeyId) :
    Except AuthErrorCode Bytes :=
  match keys.lookup derivationKeyId with
  | none => .error .internalError
  | some masterKey => .ok masterKey

def renderExchangedCredentials (hmac : Bytes → Bytes → Bytes) (keys : Keyring)
    (pollingSecret : Bytes) (provisioned : ExchangeProvisioning) :
    Except AuthErrorCode ExchangedDeviceCredentials := do
  let masterKey ← keys.resolveAnchoredKey provisioned.derivationKeyId
  let accessSecret := deriveExchange hmac accessCredentialDerivationLabel masterKey pollingSecret
    provisioned.grantId provisioned.accessTokenId provisioned.refreshGeneration
  let refreshSecret := deriveExchange hmac exchangeCredentialDerivationLabel masterKey
    pollingSecret provisioned.grantId provisioned.refreshTokenId provisioned.refreshGeneration
  return {
    grantId := provisioned.grantId
    deviceId := provisioned.deviceId
    tokenFamilyId := provisioned.tokenFamilyId
    refreshGeneration := provisioned.refreshGeneration
    accessCredential := formatCredential .access provisioned.accessTokenId accessSecret
    refreshCredential := formatCredential .refresh provisioned.refreshTokenId refreshSecret
    accessExpiresAt := provisioned.accessExpiresAt
    refreshExpiresAt := provisioned.refreshExpiresAt
    databaseNow := provisioned.databaseNow }

/-- What two responses have in common, their times apart. -/
structure ExchangedDeviceCredentials.Same (first second : ExchangedDeviceCredentials) : Prop where
  deviceId : first.deviceId = second.deviceId
  tokenFamilyId : first.tokenFamilyId = second.tokenFamilyId
  accessCredential : first.accessCredential = second.accessCredential
  refreshCredential : first.refreshCredential = second.refreshCredential

/-- Provisionings of one grant's anchors render to the same credentials, under any two keyrings
that hold the anchored key. -/
theorem renderExchangedCredentials_eq {h : Bytes → Bytes → Bytes} {k k' : Keyring}
    {ps mk : Bytes} {p p' : ExchangeProvisioning}
    (hst : p.grantId = p'.grantId) (hse : p.deviceId = p'.deviceId)
    (hsy : p.tokenFamilyId = p'.tokenFamilyId)
    (hsa : p.accessTokenId = p'.accessTokenId ∧ p.refreshTokenId = p'.refreshTokenId)
    (hsam : p.derivationKeyId = p'.derivationKeyId)
    (hs : p.refreshGeneration = p'.refreshGeneration)
    (hh : k.lookup p.derivationKeyId = some mk)
    (hh' : k'.lookup p.derivationKeyId = some mk) :
    ∃ c c', renderExchangedCredentials h k ps p = .ok c ∧
      renderExchangedCredentials h k' ps p' = .ok c' ∧ c.Same c' := by
  unfold renderExchangedCredentials Keyring.resolveAnchoredKey
  rw [← hst, ← hsy, ← hsa.1, ← hsa.2, ← hsam, ← hs, ← hse, hh, hh']
  exact ⟨_, _, rfl, rfl, rfl, rfl, rfl, rfl⟩

end PersonalOs.Authentication
