import PersonalOs.ExclusionPolicy.PayloadSchemas

/-!
# The keyset chain on the device

`keyset.ts`: the closed schema of a keyset envelope, its integrity, and the verification of a chain
of envelopes against the trusted keyset.

SHA-256 and the verification of a detached signature are parameters.
-/

namespace PersonalOs.ExclusionPolicy

open Json TextCodecs

/-! ## Envelopes -/

inductive KeysetChainError
  | payload (error : PolicyPayloadError)
  | valueUnsupported
  | payloadHashMismatch
  | chainGap
  | onboardingBoundaryViolation
  | workspaceMismatch
  | signatureInvalid
  | signatureUntrustedKey
  | keysetDowngrade
  | keysetConflict
deriving DecidableEq

structure PolicySignatureMember where
  keyId : JsString
  value : JsString
deriving DecidableEq

/-- `PolicyKeysetEnvelope` of the plugin. -/
structure DeviceKeysetEnvelope where
  payload : PolicyKeysetPayload
  payloadSha256 : JsString
  signatures : List PolicySignatureMember
deriving DecidableEq

/-- The object literal of a validated signature. -/
def PolicySignatureMember.toValue (signature : PolicySignatureMember) : ClosedJsonValue :=
  .record [
    (jsName "algorithm", .string (jsName signatureAlgorithm)),
    (jsName "key_id", .string signature.keyId),
    (jsName "value", .string signature.value)]

/-- The object literal of a validated envelope. -/
def DeviceKeysetEnvelope.toValue (envelope : DeviceKeysetEnvelope) : ClosedJsonValue :=
  .record [
    (jsName "payload", envelope.payload.toValue),
    (jsName "payload_sha256", .string envelope.payloadSha256),
    (jsName "signatures", .array (envelope.signatures.map PolicySignatureMember.toValue))]

def validateSignatureMember (value : ClosedJsonValue) :
    Except PolicyPayloadError PolicySignatureMember := do
  let member ← asObject value
  requireExactMembers member ["algorithm", "key_id", "value"]
  requireConstant signatureAlgorithm (ownMember member "algorithm")
  let keyId ← requireString (ownMember member "key_id")
  let signatureValue ← requireString (ownMember member "value")
  ensure (isWellFormedEd25519KeyId keyId) .policyPayloadSchemaInvalid
  ensure (signatureValue.length = 86 && isBase64Url signatureValue) .policyPayloadSchemaInvalid
  return ⟨keyId, signatureValue⟩

def validateKeysetEnvelope (value : ClosedJsonValue) :
    Except PolicyPayloadError DeviceKeysetEnvelope := do
  let envelope ← asObject value
  requireExactMembers envelope ["payload", "payload_sha256", "signatures"]
  let payload ← validateKeysetPayload ((ownMember envelope "payload").getD .null)
  let payloadSha256 ← requirePattern hexSha256Pattern (ownMember envelope "payload_sha256")
  let elements ← requireArray (ownMember envelope "signatures")
  ensure (elements.length ≠ 0) .policyPayloadSchemaInvalid
  let signatures ← elements.mapM validateSignatureMember
  return { payload, payloadSha256, signatures }

def decodeBase64UrlWithoutPadding (text : JsString) : Option (List UInt8) :=
  if text.length = 0 ∨ text.length % 4 = 1 ∨ ¬isBase64Url text then none
  else some (fromBase64Url (text.map fun u => Char.ofNat u.toNat))

/-- `KEYSET_SIGNING_DOMAIN`, `ED25519_SIGNATURE_BYTES`. -/
def keysetChainSigningDomain : String := "exclusion-policy-keyset/v1"
def ed25519SignatureBytes : Nat := 64

def buildSignedPolicyMessage (domain : String) (payloadBytes : List UInt8) : List UInt8 :=
  utf8 domain.toList ++ 0 :: payloadBytes

def keyStateOf (envelope : DeviceKeysetEnvelope) (keyId : JsString) : Option PolicyKeysetState :=
  (envelope.payload.keys.find? fun key => key.keyId = keyId).map PolicyKeysetKeyPayload.state

def currentKeyOf (envelope : DeviceKeysetEnvelope) : Option PolicyKeysetKeyPayload :=
  envelope.payload.keys.find? fun key => key.state = .current

structure VerifiedKeyset where
  envelope : DeviceKeysetEnvelope
  payloadBytes : List UInt8
  payloadSha256 : JsString

section Verification

variable (isNormalized : Text → Bool) (sha256 : List UInt8 → Vector UInt8 32)
  (verify : (signature message publicKey : List UInt8) → Bool)

def verifyKeyBinding (key : PolicyKeysetKeyPayload) : Except KeysetChainError Unit :=
  match decodeBase64UrlWithoutPadding key.publicKey with
  | none => .error (.payload .policyKeysetKeyInvalid)
  | some publicKey => do
    ensure (publicKey.length = ed25519PublicKeyBytes) (.payload .policyKeysetKeyInvalid)
    ensure (jsString (keyIdPrefix.toList ++ base64Url (sha256 publicKey).toList) = key.keyId)
      (.payload .policyKeysetKeyInvalid)

/-- `verifyKeysetEnvelope`, with the checks of `verifyKeysetEnvelopeIntegrity`. -/
def verifyKeysetEnvelope (envelope : DeviceKeysetEnvelope) :
    Except KeysetChainError VerifiedKeyset := do
  let validated ← (validateKeysetEnvelope envelope.toValue).mapError .payload
  let _ ← validated.payload.keys.mapM (verifyKeyBinding sha256)
  let payloadBytes ← (canonicalJsonBytes isNormalized validated.payload.toValue).mapError
    fun _ => KeysetChainError.valueUnsupported
  let payloadSha256 := jsString (hexText (sha256 payloadBytes).toList)
  ensure (payloadSha256 = validated.payloadSha256) .payloadHashMismatch
  return ⟨validated, payloadBytes, payloadSha256⟩

def verifyDetachedEd25519 (message signature publicKey : List UInt8) : Bool :=
  signature.length = ed25519SignatureBytes && publicKey.length = ed25519PublicKeyBytes &&
    verify signature message publicKey

def verifyAnySignature (verified : VerifiedKeyset) (signature : PolicySignatureMember) : Bool :=
  match decodeBase64UrlWithoutPadding signature.value with
  | none => false
  | some bytes =>
    match verified.envelope.payload.keys.find? fun key => key.keyId = signature.keyId with
    | none => false
    | some keyEntry =>
      match decodeBase64UrlWithoutPadding keyEntry.publicKey with
      | none => false
      | some publicKey =>
        verifyDetachedEd25519 verify
          (buildSignedPolicyMessage keysetChainSigningDomain verified.payloadBytes) bytes publicKey

def isNonRetired (envelope : DeviceKeysetEnvelope) (keyId : JsString) : Bool :=
  (keyStateOf envelope keyId).any fun state => state ≠ .retired

def acceptRotation (trusted : VerifiedKeyset) (candidate : DeviceKeysetEnvelope)
    (trustedWorkspaceId : Option JsString) : Except KeysetChainError VerifiedKeyset := do
  let validated ← (validateKeysetEnvelope candidate.toValue).mapError .payload
  let candidateRevision := validated.payload.keysetRevision
  let trustedRevision := trusted.envelope.payload.keysetRevision
  ensure (validated.payload.workspaceId = trusted.envelope.payload.workspaceId) .workspaceMismatch
  ensure (trustedWorkspaceId.all (· = validated.payload.workspaceId)) .workspaceMismatch
  if candidateRevision < trustedRevision then .error .keysetDowngrade
  else if candidateRevision = trustedRevision then
    if validated.payloadSha256 = trusted.envelope.payloadSha256 then return trusted
    else .error .keysetConflict
  else
    ensure (validated.payload.parentKeysetRevision = some trustedRevision) .chainGap
    let verified ← verifyKeysetEnvelope isNormalized sha256 validated
    let valid := verified.envelope.signatures.filter (verifyAnySignature verify verified)
    -- (a) chain continuity, (b) activation
    ensure (valid.any fun signature => isNonRetired trusted.envelope signature.keyId &&
      isNonRetired verified.envelope signature.keyId) .signatureUntrustedKey
    ensure ((currentKeyOf verified.envelope).all fun key =>
      valid.any fun signature => signature.keyId = key.keyId) .signatureInvalid
    return verified

/-! ## Chains -/

structure KeysetChainInput where
  envelopes : List DeviceKeysetEnvelope
  trustedKeyset : Option DeviceKeysetEnvelope
  trustedWorkspaceId : Option JsString
  allowInitialTrust : Bool

/-- `KeysetChainOutcome`; the workspace is the one of the accepted keyset. -/
structure KeysetChainOutcome where
  acceptedKeyset : DeviceKeysetEnvelope
  payloadSha256 : JsString
deriving DecidableEq

/-- The self-signed first revision. -/
def acceptInitialTrust (first : DeviceKeysetEnvelope) (trustedWorkspaceId : Option JsString) :
    Except KeysetChainError VerifiedKeyset := do
  ensure (first.payload.keysetRevision = 1 && first.payload.parentKeysetRevision = none)
    (.payload .policyKeysetRevisionInvalid)
  ensure (trustedWorkspaceId.all (· = first.payload.workspaceId)) .workspaceMismatch
  let verified ← verifyKeysetEnvelope isNormalized sha256 first
  match currentKeyOf first with
  | none => .error (.payload .policyKeysetCurrentInvalid)
  | some currentKey =>
    ensure ((first.signatures.find? fun signature => signature.keyId = currentKey.keyId).any
      (verifyAnySignature verify verified)) .signatureInvalid
    ensure (first.signatures.all fun signature => (keyStateOf first signature.keyId).isSome)
      .signatureUntrustedKey
    return verified

def verifyKeysetChain (input : KeysetChainInput) : Except KeysetChainError KeysetChainOutcome :=
  match input.envelopes with
  | [] => .error .chainGap
  | first :: rest => do
    let rotate := fun accepted envelope =>
      acceptRotation isNormalized sha256 verify accepted envelope input.trustedWorkspaceId
    let accepted ← match input.trustedKeyset with
      | none => do
        ensure input.allowInitialTrust .onboardingBoundaryViolation
        let verified ← acceptInitialTrust isNormalized sha256 verify first input.trustedWorkspaceId
        rest.foldlM rotate verified
      | some trustedKeyset => do
        let verified ← verifyKeysetEnvelope isNormalized sha256 trustedKeyset
        (first :: rest).foldlM rotate verified
    return ⟨accepted.envelope, accepted.payloadSha256⟩

end Verification

/-! ## Valid records -/

theorem mapError_ok {ε ε' α : Type} {f : ε → ε'} {x : Except ε α} {a : α}
    (ha : x.mapError f = .ok a) : x = .ok a := by
  cases x with
  | error e => cases ha
  | ok b =>
    cases ha
    rfl

theorem parseKeyState_value : ∀ s : PolicyKeysetState,
    parseKeyState (jsString s.value.toList) = some s
  | .current => by decide +kernel
  | .staged => by decide +kernel
  | .retired => by decide +kernel

namespace ChainLemmas

theorem ok_bind {ε α β : Type} (a : α) (f : α → Except ε β) : (Except.ok a >>= f) = f a := rfl

theorem ownMember_of_mem {ms : Record} {n : String} {v : ClosedJsonValue}
    (hd : (ms.map Prod.fst).Nodup) (hm : (jsName n, v) ∈ ms) :
    ownMember ms n = some v := by
  rw [ownMember]
  cases hf : ms.find? fun m => m.1 = jsName n with
  | none =>
    have hu := List.find?_eq_none.mp hf _ hm
    exact absurd (decide_eq_true rfl) hu
  | some m =>
    have hn : m.1 = jsName n := by
      have hc := List.find?_some hf
      exact of_decide_eq_true hc
    rw [List.inj_on_of_nodup_map hd (List.mem_of_find?_eq_some hf) hm hn]
    rfl

theorem requireString_ok {s t : JsString} (ha : requireString (some (.string s)) = .ok t) :
    t = s := by
  cases ha
  rfl

theorem requirePattern_ok {p : List (UInt16 → Bool)} {s t : JsString}
    (ha : requirePattern p (some (.string s)) = .ok t) : t = s := by
  obtain ⟨te, ht, ha⟩ := bind_ok ha
  cases ht
  split at ha
  · cases ha
    rfl
  · cases ha

theorem requireInteger_ok {m i j : Int}
    (ha : requireInteger m (some (.number (.integer i))) = .ok j) :
    j = i ∧ m ≤ j := by
  rw [requireInteger] at ha
  split at ha
  · cases ha
  · next hl =>
    cases ha
    exact ⟨rfl, not_lt.mp hl⟩

theorem requireParent_ok {pa p' : Option Int} (ha : requireNullable (requireInteger 1)
      (some (pa.elim .null fun p => .number (.integer p))) = .ok p') : p' = pa := by
  cases pa with
  | none =>
    cases ha
    rfl
  | some p =>
    obtain ⟨q, isQ, rfl⟩ := map_ok (x := requireInteger 1 (some (.number (.integer p)))) ha
    rw [(requireInteger_ok isQ).1]

theorem records_eq {α : Type} {tv : α → ClosedJsonValue}
    {v : ClosedJsonValue → Except PolicyPayloadError α} {xs ys : List α}
    (he : ∀ x y, v (tv x) = .ok y → y = x)
    (ha : (xs.map tv).mapM v = .ok ys) : ys = xs := by
  rw [List.mapM_map] at ha
  have hi := forall₂_of_mapM ha
  clear ha
  induction hi with
  | nil => rfl
  | cons him _ ih => rw [he _ _ him, ih]

/-- The own members of the object literals. -/
def keyRecord (key : PolicyKeysetKeyPayload) : Record :=
  [(jsName "algorithm", .string (jsName signatureAlgorithm)), (jsName "key_id", .string key.keyId),
    (jsName "public_key", .string key.publicKey),
    (jsName "state", .string (jsName key.state.value))]

def payloadRecord (payload : PolicyKeysetPayload) : Record :=
  [(jsName "contract", .string (jsName keysetPayloadContract)),
    (jsName "workspace_id", .string payload.workspaceId),
    (jsName "keyset_revision", .number (.integer payload.keysetRevision)),
    (jsName "parent_keyset_revision",
      payload.parentKeysetRevision.elim .null fun parent => .number (.integer parent)),
    (jsName "created_at", .string payload.createdAt),
    (jsName "keys", .array (payload.keys.map PolicyKeysetKeyPayload.toValue))]

def signatureRecord (signature : PolicySignatureMember) : Record :=
  [(jsName "algorithm", .string (jsName signatureAlgorithm)),
    (jsName "key_id", .string signature.keyId), (jsName "value", .string signature.value)]

def envelopeRecord (envelope : DeviceKeysetEnvelope) : Record :=
  [(jsName "payload", envelope.payload.toValue),
    (jsName "payload_sha256", .string envelope.payloadSha256),
    (jsName "signatures", .array (envelope.signatures.map PolicySignatureMember.toValue))]

theorem keyRecord_names (key : PolicyKeysetKeyPayload) : ((keyRecord key).map Prod.fst).Nodup := by
  show (["algorithm", "key_id", "public_key", "state"].map jsName).Nodup
  decide +kernel

theorem payloadRecord_names (p : PolicyKeysetPayload) : ((payloadRecord p).map Prod.fst).Nodup := by
  show (["contract", "workspace_id", "keyset_revision", "parent_keyset_revision", "created_at",
    "keys"].map jsName).Nodup
  decide +kernel

theorem signatureRecord_names (signature : PolicySignatureMember) :
    ((signatureRecord signature).map Prod.fst).Nodup := by
  show (["algorithm", "key_id", "value"].map jsName).Nodup
  decide +kernel

theorem envelopeRecord_names (e : DeviceKeysetEnvelope) :
    ((envelopeRecord e).map Prod.fst).Nodup := by
  show (["payload", "payload_sha256", "signatures"].map jsName).Nodup
  decide +kernel

theorem keyRecord_keyId (key : PolicyKeysetKeyPayload) :
    ownMember (keyRecord key) "key_id" = some (.string key.keyId) :=
  ownMember_of_mem (keyRecord_names key) (.tail _ (.head _))

theorem keyRecord_publicKey (key : PolicyKeysetKeyPayload) :
    ownMember (keyRecord key) "public_key" = some (.string key.publicKey) :=
  ownMember_of_mem (keyRecord_names key) (.tail _ (.tail _ (.head _)))

theorem keyRecord_state (key : PolicyKeysetKeyPayload) :
    ownMember (keyRecord key) "state" = some (.string (jsName key.state.value)) :=
  ownMember_of_mem (keyRecord_names key) (.tail _ (.tail _ (.tail _ (.head _))))

theorem payloadRecord_workspaceId (p : PolicyKeysetPayload) :
    ownMember (payloadRecord p) "workspace_id" = some (.string p.workspaceId) :=
  ownMember_of_mem (payloadRecord_names p) (.tail _ (.head _))

theorem payloadRecord_keysetRevision (p : PolicyKeysetPayload) :
    ownMember (payloadRecord p) "keyset_revision" = some (.number (.integer p.keysetRevision)) :=
  ownMember_of_mem (payloadRecord_names p) (.tail _ (.tail _ (.head _)))

theorem payloadRecord_parent (p : PolicyKeysetPayload) :
    ownMember (payloadRecord p) "parent_keyset_revision" =
      some (p.parentKeysetRevision.elim .null fun pa => .number (.integer pa)) :=
  ownMember_of_mem (payloadRecord_names p) (.tail _ (.tail _ (.tail _ (.head _))))

theorem payloadRecord_createdAt (p : PolicyKeysetPayload) :
    ownMember (payloadRecord p) "created_at" = some (.string p.createdAt) :=
  ownMember_of_mem (payloadRecord_names p) (.tail _ (.tail _ (.tail _ (.tail _ (.head _)))))

theorem payloadRecord_keys (p : PolicyKeysetPayload) : ownMember (payloadRecord p) "keys" =
      some (.array (p.keys.map PolicyKeysetKeyPayload.toValue)) :=
  ownMember_of_mem (payloadRecord_names p)
    (.tail _ (.tail _ (.tail _ (.tail _ (.tail _ (.head _))))))

theorem signatureRecord_keyId (signature : PolicySignatureMember) :
    ownMember (signatureRecord signature) "key_id" = some (.string signature.keyId) :=
  ownMember_of_mem (signatureRecord_names signature) (.tail _ (.head _))

theorem signatureRecord_value (signature : PolicySignatureMember) :
    ownMember (signatureRecord signature) "value" = some (.string signature.value) :=
  ownMember_of_mem (signatureRecord_names signature) (.tail _ (.tail _ (.head _)))

theorem envelopeRecord_payload (e : DeviceKeysetEnvelope) :
    ownMember (envelopeRecord e) "payload" = some e.payload.toValue :=
  ownMember_of_mem (envelopeRecord_names e) (.head _)

theorem envelopeRecord_payloadSha256 (e : DeviceKeysetEnvelope) :
    ownMember (envelopeRecord e) "payload_sha256" = some (.string e.payloadSha256) :=
  ownMember_of_mem (envelopeRecord_names e) (.tail _ (.head _))

theorem envelopeRecord_signatures (e : DeviceKeysetEnvelope) :
    ownMember (envelopeRecord e) "signatures" =
      some (.array (e.signatures.map PolicySignatureMember.toValue)) :=
  ownMember_of_mem (envelopeRecord_names e) (.tail _ (.tail _ (.head _)))

theorem parseKeyState_name {s s' : PolicyKeysetState}
    (hp : parseKeyState (jsName s.value) = some s') : s' = s := by
  have he := parseKeyState_value s
  exact Option.some.inj (hp.symm.trans he)

theorem validateKeyMember_toValue {key k' : PolicyKeysetKeyPayload}
    (ha : validateKeyMember key.toValue = .ok k') : k' = key := by
  have hl : key.toValue = .record (keyRecord key) := rfl
  rw [hl, validateKeyMember, asObject, ok_bind, keyRecord_keyId, keyRecord_publicKey,
    keyRecord_state] at ha
  obtain ⟨_, _, ha⟩ := bind_ok ha
  obtain ⟨_, _, ha⟩ := bind_ok ha
  obtain ⟨ki, hk, ha⟩ := bind_ok ha
  split at ha
  · cases ha
  obtain ⟨publicKey, hp, ha⟩ := bind_ok ha
  split at ha
  · cases ha
  obtain ⟨s, hs, ha⟩ := bind_ok ha
  cases requireString_ok hk
  cases requireString_ok hp
  cases requireString_ok hs
  split at ha
  · cases ha
  next hpa =>
    cases ha
    rw [parseKeyState_name hpa]

theorem validateSignatureMember_toValue {signature s' : PolicySignatureMember}
    (ha : validateSignatureMember signature.toValue = .ok s') :
    s' = signature := by
  have hl : signature.toValue = .record (signatureRecord signature) := rfl
  rw [hl, validateSignatureMember, asObject, ok_bind, signatureRecord_keyId,
    signatureRecord_value] at ha
  obtain ⟨_, _, ha⟩ := bind_ok ha
  obtain ⟨_, _, ha⟩ := bind_ok ha
  obtain ⟨ki, hk, ha⟩ := bind_ok ha
  obtain ⟨v, hv, ha⟩ := bind_ok ha
  obtain ⟨_, _, ha⟩ := bind_ok ha
  obtain ⟨_, _, ha⟩ := bind_ok ha
  cases requireString_ok hk
  cases requireString_ok hv
  cases ha
  rfl

end ChainLemmas

open ChainLemmas

structure KeysetRecordChecked (payload : PolicyKeysetPayload) : Prop where
  numbered : 1 ≤ payload.keysetRevision
  first : payload.keysetRevision = 1 → payload.parentKeysetRevision = none
  later : 1 < payload.keysetRevision →
    payload.parentKeysetRevision = some (payload.keysetRevision - 1)
  distinct : (payload.keys.map PolicyKeysetKeyPayload.keyId).Nodup
  current : payload.keys.countP (·.state = .current) = 1
  nonRetired : payload.keys.countP (·.state ≠ .retired) ≤ keysetMaximumNonRetiredKeys

theorem validateKeysetPayload_toValue {p p' : PolicyKeysetPayload}
    (ha : validateKeysetPayload p.toValue = .ok p') :
    p' = p ∧ KeysetRecordChecked p := by
  have hl : p.toValue = .record (payloadRecord p) := rfl
  rw [hl, validateKeysetPayload, asObject, ok_bind, payloadRecord_workspaceId,
    payloadRecord_keysetRevision, payloadRecord_parent, payloadRecord_createdAt,
    payloadRecord_keys] at ha
  obtain ⟨_, _, ha⟩ := bind_ok ha
  obtain ⟨_, _, ha⟩ := bind_ok ha
  obtain ⟨wi, hw, ha⟩ := bind_ok ha
  obtain ⟨kr, hr, ha⟩ := bind_ok ha
  obtain ⟨hp, hpa, ha⟩ := bind_ok ha
  cases requirePattern_ok hw
  obtain ⟨rfl, hnu⟩ := requireInteger_ok hr
  cases requireParent_ok hpa
  split at ha
  · cases ha
  next hf =>
    split at ha
    · cases ha
    next hla =>
      obtain ⟨ca, hc, ha⟩ := bind_ok ha
      obtain ⟨e, he, ha⟩ := bind_ok ha
      cases requirePattern_ok hc
      cases he
      split at ha
      · cases ha
      obtain ⟨k, hk, ha⟩ := bind_ok ha
      cases records_eq (fun _ _ => validateKeyMember_toValue) hk
      split at ha
      · cases ha
      next hd =>
        split at ha
        · cases ha
        next hcu =>
          split at ha
          · cases ha
          next hn =>
            cases ha
            refine ⟨rfl, hnu, fun one => ?_, fun hm => ?_, not_not.mp hd,
              not_not.mp hcu, not_lt.mp hn⟩
            · exact by_contra fun hp => hf ⟨one, hp⟩
            · exact by_contra fun hp => hla ⟨hm, hp⟩

theorem validateKeysetEnvelope_ok {e v : DeviceKeysetEnvelope}
    (ha : validateKeysetEnvelope e.toValue = .ok v) :
    v = e ∧ KeysetRecordChecked e.payload := by
  have hl : e.toValue = .record (envelopeRecord e) := rfl
  rw [hl, validateKeysetEnvelope, asObject, ok_bind, envelopeRecord_payload,
    envelopeRecord_payloadSha256, envelopeRecord_signatures] at ha
  obtain ⟨_, _, ha⟩ := bind_ok ha
  obtain ⟨p, hp, ha⟩ := bind_ok ha
  obtain ⟨ps, hsh, ha⟩ := bind_ok ha
  obtain ⟨el, he, ha⟩ := bind_ok ha
  obtain ⟨_, _, ha⟩ := bind_ok ha
  obtain ⟨s, hs, ha⟩ := bind_ok ha
  obtain ⟨rfl, hc⟩ := validateKeysetPayload_toValue hp
  cases requirePattern_ok hsh
  cases he
  cases records_eq (fun _ _ => validateSignatureMember_toValue) hs
  cases ha
  exact ⟨rfl, hc⟩

/-! ## Rotations -/

variable {isNormalized : Text → Bool} {sha256 : List UInt8 → Vector UInt8 32}
  {verify : (signature message publicKey : List UInt8) → Bool}

/-- A signature of an envelope that verifies under the key it names. -/
def SignedBy (isNormalized : Text → Bool) (sha256 : List UInt8 → Vector UInt8 32)
    (verify : (signature message publicKey : List UInt8) → Bool) (envelope : DeviceKeysetEnvelope)
    (signature : PolicySignatureMember) : Prop :=
  signature ∈ envelope.signatures ∧ ∃ verified,
    verifyKeysetEnvelope isNormalized sha256 envelope = .ok verified ∧
      verifyAnySignature verify verified signature = true

/-- One keyset follows another: the same workspace, the next number, and a signature by a key that
both list as not retired. -/
structure Rotates (isNormalized : Text → Bool) (sha256 : List UInt8 → Vector UInt8 32)
    (verify : (signature message publicKey : List UInt8) → Bool)
    (trusted candidate : DeviceKeysetEnvelope) : Prop where
  workspace : candidate.payload.workspaceId = trusted.payload.workspaceId
  consecutive : candidate.payload.keysetRevision = trusted.payload.keysetRevision + 1
  signed : ∃ signature, SignedBy isNormalized sha256 verify candidate signature ∧
    isNonRetired trusted signature.keyId = true ∧ isNonRetired candidate signature.keyId = true
  activated : ∀ key ∈ currentKeyOf candidate, ∃ signature,
    SignedBy isNormalized sha256 verify candidate signature ∧ signature.keyId = key.keyId

theorem verifyKeysetEnvelope_ok {e : DeviceKeysetEnvelope} {v : VerifiedKeyset}
    (ha : verifyKeysetEnvelope isNormalized sha256 e = .ok v) :
    v.envelope = e ∧ KeysetRecordChecked e.payload := by
  obtain ⟨va, hv, ha⟩ := bind_ok ha
  obtain ⟨_, _, ha⟩ := bind_ok ha
  obtain ⟨pb, _, ha⟩ := bind_ok ha
  obtain ⟨_, _, ha⟩ := bind_ok ha
  cases ha
  exact validateKeysetEnvelope_ok (mapError_ok hv)

/-- An accepted candidate repeats the trusted revision, or rotates the trusted keyset. -/
theorem acceptRotation_ok {t a : VerifiedKeyset} {c : DeviceKeysetEnvelope}
    {tw : Option JsString}
    (hmo : acceptRotation isNormalized sha256 verify t c tw = .ok a) :
    a = t ∨ (a.envelope = c ∧ Rotates isNormalized sha256 verify t.envelope c) := by
  obtain ⟨v, hva, ho⟩ := bind_ok hmo
  clear hmo
  obtain ⟨rfl, hc⟩ := validateKeysetEnvelope_ok (mapError_ok hva)
  obtain ⟨_, hw, ho⟩ := bind_ok ho
  obtain ⟨_, _, ho⟩ := bind_ok ho
  split at ho
  · cases ho
  split at ho
  · -- the same revision: only its digest is compared
    split at ho
    · cases ho
      exact .inl rfl
    · cases ho
  next hla =>
    obtain ⟨_, hp, ho⟩ := bind_ok ho
    obtain ⟨ve, hv, ho⟩ := bind_ok ho
    obtain ⟨_, hch, ho⟩ := bind_ok ho
    obtain ⟨_, ha, ho⟩ := bind_ok ho
    cases ho
    have he := (verifyKeysetEnvelope_ok hv).1
    have hp := of_decide_eq_true (ensure_ok.mp hp)
    have hs : ∀ signature ∈ a.envelope.signatures.filter (verifyAnySignature verify a),
        SignedBy isNormalized sha256 verify v signature := by
      intro signature hm
      obtain ⟨hl, hvd⟩ := List.mem_filter.mp hm
      exact ⟨he ▸ hl, a, hv, hvd⟩
    refine .inr ⟨he, of_decide_eq_true (ensure_ok.mp hw), ?_, ?_, ?_⟩
    · -- the parent is none for the first revision, else the number before
      rcases eq_or_lt_of_le hc.numbered with one | hme
      · rw [hc.first one.symm] at hp
        cases hp
      · rw [hc.later hme, Option.some.injEq] at hp
        rw [← hp, sub_add_cancel]
    · obtain ⟨signature, hm, hn⟩ := List.any_eq_true.mp (ensure_ok.mp hch)
      rw [Bool.and_eq_true] at hn
      rw [he] at hn
      exact ⟨signature, hs signature hm, hn⟩
    · intro key hcu
      have hsi := ensure_ok.mp ha
      have hl : currentKeyOf a.envelope = some key := by rw [he]; exact hcu
      rw [hl, Option.all_some] at hsi
      obtain ⟨signature, hm, hna⟩ := List.any_eq_true.mp hsi
      exact ⟨signature, hs signature hm, of_decide_eq_true hna⟩

namespace ChainLemmas

theorem rotations_of_foldlM {tw : Option JsString}
    {e : List DeviceKeysetEnvelope} {t a : VerifiedKeyset}
    (ho : e.foldlM (fun a en => acceptRotation isNormalized sha256 verify a en tw) t = .ok a) :
    ∃ p : List DeviceKeysetEnvelope, p.Sublist e ∧
      (t.envelope :: p).IsChain (Rotates isNormalized sha256 verify) ∧
        p.getLast?.getD t.envelope = a.envelope := by
  induction e generalizing t with
  | nil =>
    cases ho
    exact ⟨[], .slnil, .singleton _, rfl⟩
  | cons c r ih =>
    obtain ⟨n, hv, ho⟩ := bind_ok ho
    obtain ⟨p, hl, hc, hla⟩ := ih ho
    rcases acceptRotation_ok hv with rfl | ⟨rfl, hr⟩
    · exact ⟨p, hl.cons _, hc, hla⟩
    · refine ⟨n.envelope :: p, hl.cons_cons _, .cons_cons hr hc, ?_⟩
      rw [← hla]
      cases p with
      | nil => rfl
      | cons => rw [List.getLast?_cons_cons, List.getLast?_cons]; rfl

theorem revision_le_of_chain {t : DeviceKeysetEnvelope} {p : List DeviceKeysetEnvelope}
    (hc : (t :: p).IsChain (Rotates isNormalized sha256 verify)) :
    t.payload.keysetRevision ≤ (p.getLast?.getD t).payload.keysetRevision := by
  induction p generalizing t with
  | nil => exact le_rfl
  | cons n p ih =>
    rw [List.isChain_cons_cons] at hc
    refine le_trans ?_ (le_trans (ih hc.2) (le_of_eq ?_))
    · rw [hc.1.consecutive]
      exact Int.le_add_one le_rfl
    · cases p with
      | nil => rfl
      | cons => rw [List.getLast?_cons_cons, List.getLast?_cons]; rfl

theorem revision_le_of_verified {i : KeysetChainInput} {t : DeviceKeysetEnvelope}
    {o : KeysetChainOutcome} (ht : i.trustedKeyset = some t)
    (ha : verifyKeysetChain isNormalized sha256 verify i = .ok o) :
    t.payload.keysetRevision ≤ o.acceptedKeyset.payload.keysetRevision := by
  rw [verifyKeysetChain] at ha
  split at ha
  · cases ha
  · rw [ht] at ha
    obtain ⟨v, hv, ha⟩ := bind_ok ha
    obtain ⟨l, hf, ha⟩ := bind_ok ha
    cases ha
    obtain ⟨p, _, hc, he⟩ := rotations_of_foldlM hf
    rw [(verifyKeysetEnvelope_ok hv).1] at hc he
    exact he ▸ revision_le_of_chain hc

theorem trusted_of_verified {i : KeysetChainInput} {o : KeysetChainOutcome}
    (hr : i.allowInitialTrust = false)
    (ha : verifyKeysetChain isNormalized sha256 verify i = .ok o) :
    i.trustedKeyset ≠ none := by
  intro hu
  rw [verifyKeysetChain] at ha
  split at ha
  · cases ha
  · rw [hu, hr] at ha
    cases ha

end ChainLemmas

/-- What a chain ends with is reached from the trusted keyset by rotations. An envelope signed only
by keys that an earlier keyset of the sequence retired comes after a keyset that lists one of them
again. -/
theorem accepted_keyset_is_rotated {input : KeysetChainInput} {trusted : DeviceKeysetEnvelope}
    {outcome : KeysetChainOutcome} (isTrusted : input.trustedKeyset = some trusted)
    (accepted : verifyKeysetChain isNormalized sha256 verify input = .ok outcome) :
    trusted.payload.keysetRevision ≤ outcome.acceptedKeyset.payload.keysetRevision ∧
    ∃ path : List DeviceKeysetEnvelope, path.Sublist input.envelopes ∧
      path.getLast?.getD trusted = outcome.acceptedKeyset ∧
      (trusted :: path).IsChain (Rotates isNormalized sha256 verify) ∧
      ∀ (i j : Nat) (earlier later : DeviceKeysetEnvelope), (trusted :: path)[i]? = some earlier →
        (trusted :: path)[j]? = some later → i < j →
        (∀ signature, SignedBy isNormalized sha256 verify later signature →
          keyStateOf earlier signature.keyId = some .retired) →
        ∃ (m : Nat) (between : DeviceKeysetEnvelope), i < m ∧ m < j ∧ (trusted :: path)[m]? = some between ∧
          ∃ signature, SignedBy isNormalized sha256 verify later signature ∧
            isNonRetired between signature.keyId = true := by
  rw [verifyKeysetChain] at accepted
  split at accepted
  · cases accepted
  next x r hi =>
    rw [isTrusted] at accepted
    obtain ⟨v, hv, accepted⟩ := bind_ok accepted
    obtain ⟨l, hf, accepted⟩ := bind_ok accepted
    cases accepted
    obtain ⟨path, hli, hc, hen⟩ := rotations_of_foldlM hf
    rw [(verifyKeysetEnvelope_ok hv).1] at hc hen
    refine ⟨hen ▸ revision_le_of_chain hc, path, hi ▸ hli, hen, hc, ?_⟩
    intro i j earlier later he hl hb hre
    -- the key that links the later envelope to the one before it
    obtain ⟨k, rfl⟩ := Nat.exists_eq_add_one_of_ne_zero (Nat.ne_zero_of_lt hb)
    obtain ⟨hin, hl⟩ := List.getElem?_eq_some_iff.mp hl
    have hr := List.isChain_iff_getElem.mp hc k hin
    rw [hl] at hr
    obtain ⟨signature, hs, hn, _⟩ := hr.signed
    have hp : (trusted :: path)[k]? = some (trusted :: path)[k] := List.getElem?_eq_getElem _
    have ha : i ≠ k := ?_
    · exact ⟨k, _, lt_of_le_of_ne (Nat.lt_succ_iff.mp hb) ha, Nat.lt_succ_self k, hp,
        signature, hs, hn⟩
    rintro rfl
    rw [he, Option.some.injEq] at hp
    rw [← hp, isNonRetired, hre signature hs] at hn
    cases hn

/-! ### A key that comes back -/

namespace ChainLemmas

/-- SHA-256 of 32 bytes 1 and of 32 bytes 2; every other input has the digest of the first. -/
def twoKeysSha256 (bytes : List UInt8) : Vector UInt8 32 :=
  if bytes = List.replicate 32 2 then
    #v[0x75, 0x87, 0x7b, 0xb4, 0x1d, 0x39, 0x3b, 0x5f, 0xb8, 0x45, 0x5c, 0xe6, 0x0e, 0xcd, 0x8d, 0xda,
      0x00, 0x1d, 0x06, 0x31, 0x64, 0x96, 0xb1, 0x4d, 0xfa, 0x7f, 0x89, 0x56, 0x56, 0xee, 0xca, 0x4a]
  else
    #v[0x72, 0xcd, 0x6e, 0x84, 0x22, 0xc4, 0x07, 0xfb, 0x6d, 0x09, 0x86, 0x90, 0xf1, 0x13, 0x0b, 0x7d,
      0xed, 0x7e, 0xc2, 0xf7, 0xf5, 0xe1, 0xd3, 0x0b, 0xd9, 0xd5, 0x21, 0xf0, 0x15, 0x36, 0x37, 0x93]

/-- The key of so many equal bytes, and its signature. -/
def sampleKeyId (byte : UInt8) : JsString :=
  jsString (keyIdPrefix.toList ++ base64Url (twoKeysSha256 (List.replicate 32 byte)).toList)

def sampleEntry (byte : UInt8) (state : PolicyKeysetState) : PolicyKeysetKeyPayload :=
  ⟨sampleKeyId byte, jsString (base64Url (List.replicate 32 byte)), state⟩

def sampleSignature (byte : UInt8) : PolicySignatureMember :=
  ⟨sampleKeyId byte, jsString (base64Url (List.replicate 64 byte))⟩

def sampleVerify (signature _message publicKey : List UInt8) : Bool := signature.take 32 = publicKey

def sampleEnvelope (keysetRevision : Int) (first second : PolicyKeysetState) (signer : UInt8) :
    DeviceKeysetEnvelope where
  payload :=
    { workspaceId := jsString (uuidText 1)
      keysetRevision
      parentKeysetRevision := some (keysetRevision - 1)
      createdAt := jsName "2026-08-17T09:30:00.000000Z"
      keys := [sampleEntry 1 first, sampleEntry 2 second] }
  payloadSha256 := jsString (hexText (twoKeysSha256 []).toList)
  signatures := [sampleSignature signer]

/-- The first key retires the second, lists it again as staged, and hands over to it. -/
def sampleReturn : List DeviceKeysetEnvelope :=
  [sampleEnvelope 3 .current .retired 1, sampleEnvelope 4 .current .staged 1,
    sampleEnvelope 5 .staged .current 2]

end ChainLemmas

/-- An envelope signed only by a key that an earlier keyset of the chain retired is accepted. -/
theorem retired_key_signs_again : verifyKeysetChain (fun _ => true) twoKeysSha256 sampleVerify
        ⟨sampleReturn, some (sampleEnvelope 2 .current .staged 1), none, false⟩ =
      .ok ⟨sampleEnvelope 5 .staged .current 2, (sampleEnvelope 5 .staged .current 2).payloadSha256⟩ ∧
    sampleReturn[0]? = some (sampleEnvelope 3 .current .retired 1) ∧
    ∀ signature ∈ (sampleEnvelope 5 .staged .current 2).signatures,
      keyStateOf (sampleEnvelope 3 .current .retired 1) signature.keyId = some .retired := by
  decide +kernel

/-- Between the keyset that retires the key and the one it signs alone stands one that lists it
again. -/
theorem accepted_keyset_is_rotated_once :
    ∃ path : List DeviceKeysetEnvelope, path.Sublist sampleReturn ∧
      path.getLast?.getD (sampleEnvelope 2 .current .staged 1) =
        sampleEnvelope 5 .staged .current 2 ∧
      (sampleEnvelope 2 .current .staged 1 :: path).IsChain
        (Rotates (fun _ => true) twoKeysSha256 sampleVerify) ∧
      ∀ i, (sampleEnvelope 2 .current .staged 1 :: path)[i]? =
          some (sampleEnvelope 3 .current .retired 1) →
        ∃ (m : Nat) (between : DeviceKeysetEnvelope), i < m ∧
          (sampleEnvelope 2 .current .staged 1 :: path)[m]? = some between ∧
          isNonRetired between (sampleKeyId 2) = true := by
  obtain ⟨_, path, hl, (he : _ = sampleEnvelope 5 .staged .current 2), hc, hre⟩ :=
    accepted_keyset_is_rotated rfl retired_key_signs_again.1
  refine ⟨path, hl, he, hc, fun i hi => ?_⟩
  have hlast : (sampleEnvelope 2 .current .staged 1 :: path)[path.length]? =
      some (sampleEnvelope 5 .staged .current 2) := by
    rw [← he, ← List.getLast?_cons, List.getLast?_eq_getElem?]
    rfl
  have hne : i ≠ path.length := by
    rintro rfl
    have := hi.symm.trans hlast
    revert this
    decide +kernel
  have hle : i < (sampleEnvelope 2 .current .staged 1 :: path).length :=
    (List.getElem?_eq_some_iff.mp hi).1
  have hs {signature : PolicySignatureMember} (hs : SignedBy (fun _ => true) twoKeysSha256
      sampleVerify (sampleEnvelope 5 .staged .current 2) signature) :
      signature.keyId = sampleKeyId 2 := by
    rw [List.mem_singleton.mp hs.1]
    rfl
  obtain ⟨m, between, him, -, hb, signature, hsi, hn⟩ := hre i path.length _ _ hi hlast
    (by rw [List.length_cons] at hle; omega)
    fun signature hsi => by rw [hs hsi]; decide +kernel
  exact ⟨m, between, him, hb, hs hsi ▸ hn⟩

end PersonalOs.ExclusionPolicy
