import PersonalOs.ExclusionPolicy.KeysetChain
import PersonalOs.Basis.Machine

/-!
# The policy session on the device

`policy-session.ts`, `policy-cache.ts` and the verification of `snapshot.ts`: refresh, restore from
the cache and onboarding as calls that are cut at their awaits. What a call has read before an await
it keeps in its own variables; the session's members change only where a call writes them.

The normalization of a snapshot's rules is a parameter; so are SHA-256 and the verification of a
detached signature.
-/

namespace PersonalOs.ExclusionPolicy

open Json TextCodecs

/-! ## Snapshots -/

/-- `SIGNED` snapshot of the plugin. -/
structure DeviceSnapshotEnvelope where
  payload : PolicySnapshotPayload
  payloadSha256 : JsString
  signature : PolicySignatureMember

/-- The object literal of a validated snapshot envelope. -/
def DeviceSnapshotEnvelope.toValue (envelope : DeviceSnapshotEnvelope) : ClosedJsonValue :=
  .record [
    (jsName "payload", envelope.payload.toValue),
    (jsName "payload_sha256", .string envelope.payloadSha256),
    (jsName "signature", envelope.signature.toValue)]

def validateSnapshotEnvelope (value : ClosedJsonValue) :
    Except PolicyPayloadError DeviceSnapshotEnvelope := do
  let envelope ← asObject value
  requireExactMembers envelope ["payload", "payload_sha256", "signature"]
  let payload ← match ownMember envelope "payload" with
    | some value => validateSnapshotPayload value
    | none => .error .policyPayloadSchemaInvalid
  let payloadSha256 ← requirePattern hexSha256Pattern (ownMember envelope "payload_sha256")
  let signature ← match ownMember envelope "signature" with
    | some value => validateSignatureMember value
    | none => .error .policyPayloadSchemaInvalid
  return { payload, payloadSha256, signature }

/-- The reasons a candidate is refused, beside those of the keyset chain. -/
inductive SnapshotError
  | keyset (error : KeysetChainError)
  | payload (error : PolicyPayloadError)
  | valueUnsupported
  | workspaceMismatch
  | payloadHashMismatch
  | evaluatorContractMismatch
  | signatureUntrustedKey
  | signatureMalformed
  | signatureInvalid
  | snapshotDowngrade
  | snapshotConflict
  | envelopeInvalid
  | keysetPageOverflow
deriving DecidableEq

def snapshotSigningDomain : String := "exclusion-policy-snapshot/v1"

def keysetPageMaximumFetches : Nat := 8

def resolveTrustedKey (trustedKeyset : DeviceKeysetEnvelope) (keyId : JsString) :
    Option (List UInt8) :=
  (trustedKeyset.payload.keys.find? fun key => key.keyId = keyId).bind fun key =>
    decodeBase64UrlWithoutPadding key.publicKey

inductive SnapshotMonotonicity
  | accept
  | identical
  | conflict
  | downgrade
deriving DecidableEq

def resolveSnapshotMonotonicity (candidate : DeviceSnapshotEnvelope)
    (accepted : Option DeviceSnapshotEnvelope) : SnapshotMonotonicity :=
  match accepted with
  | none => .accept
  | some held =>
    if held.payload.revisionNumber < candidate.payload.revisionNumber then .accept
    else if candidate.payload.revisionNumber < held.payload.revisionNumber then .downgrade
    else if candidate.payload.policyRevisionId = held.payload.policyRevisionId ∧
        candidate.payloadSha256 = held.payloadSha256 then .identical
    else .conflict

/-- `AcceptedPolicyState`; the persisted record holds the same members. -/
structure AcceptedPolicyState where
  workspaceId : JsString
  revisionNumber : Int
  keysetSequence : Int
  keysetEnvelope : DeviceKeysetEnvelope
  snapshotEnvelope : DeviceSnapshotEnvelope

def buildPolicyCacheRecord (state : AcceptedPolicyState) : ClosedJsonValue :=
  .record [
    (jsName "contract", .string (jsName "obsidian_exclusion_policy_cache/v1")),
    (jsName "workspace_id", .string state.workspaceId),
    (jsName "keyset_sequence", .number (.integer state.keysetSequence)),
    (jsName "revision_number", .number (.integer state.revisionNumber)),
    (jsName "policy_revision_id", .string state.snapshotEnvelope.payload.policyRevisionId),
    (jsName "payload_sha256", .string state.snapshotEnvelope.payloadSha256),
    (jsName "keyset_envelope", state.keysetEnvelope.toValue),
    (jsName "snapshot_envelope", state.snapshotEnvelope.toValue)]

/-! ## Calls -/

inductive PolicyIntegrityState
  | policyNotInitialized
  | policyReady
  | policyOfflineCached
  | policyRefreshRequired
  | policyIntegrityFailed
deriving DecidableEq

/-- What ends an acquisition without a candidate. -/
inductive AcquisitionFailure
  | networkUnavailable
  | notInitializedOnServer
  | cacheWriteFailed
  | cacheReadbackMismatch
  | verification (error : SnapshotError)
  | unexpected

/-- The answer to `#fetchSnapshot`. -/
inductive SnapshotAnswer
  | failed (failure : AcquisitionFailure)
  | unchanged
  | data (value : ClosedJsonValue)

/-- The answer to one page request. -/
inductive KeysetsAnswer
  | failed (failure : AcquisitionFailure)
  | page (keysets : List ClosedJsonValue) (hasMore : Bool)

/-- What an awaited promise settles with. -/
inductive Settled
  | snapshot (answer : SnapshotAnswer)
  | keysets (answer : KeysetsAnswer)
  | resolved
  | rejected

/-- The loop variables of `#fetchKeysetEnvelopes`. -/
structure KeysetFetch where
  cursor : Int
  collected : List DeviceKeysetEnvelope
  fetchIndex : Nat

/-- Where a call waits, with its variables. `base` is the held state whose keyset a refresh trusts,
`checked` the one its candidate was compared with. -/
inductive PolicyCall
  | refreshSnapshot
  | refreshKeysets (snapshot : DeviceSnapshotEnvelope) (base : Option AcceptedPolicyState)
      (fetch : KeysetFetch)
  | refreshVerify (snapshot : DeviceSnapshotEnvelope) (base : Option AcceptedPolicyState)
      (envelopes : Option (List DeviceKeysetEnvelope))
  | refreshWrite (candidate : AcceptedPolicyState) (base checked : Option AcceptedPolicyState)
  | refreshReadback (candidate : AcceptedPolicyState) (base checked : Option AcceptedPolicyState)
  | adoptKeysets (fetch : KeysetFetch)
  | adoptChain (envelopes : List DeviceKeysetEnvelope)
  | adoptSnapshot (trusted : DeviceKeysetEnvelope)
  | adoptVerify (trusted : DeviceKeysetEnvelope) (snapshot : DeviceSnapshotEnvelope)
  | adoptWrite (candidate : AcceptedPolicyState)
  | adoptReadback (candidate : AcceptedPolicyState)
  | restoreRead
  | restoreVerify (record : Option AcceptedPolicyState)

/-- The members of the session, the persisted record and the calls under way. -/
structure PolicyWorld (Rules : Type) where
  state : PolicyIntegrityState
  accepted : Option AcceptedPolicyState
  normalizedRules : Option Rules
  cache : Option AcceptedPolicyState
  calls : List PolicyCall

/-- A call begins, or what one awaits settles. -/
inductive PolicyAction
  | beginRefresh
  | beginAdoption
  | beginRestore
  | resume (index : Nat) (settled : Settled)

section Session

variable {Rules : Type} (isNormalized : Text → Bool) (sha256 : List UInt8 → Vector UInt8 32)
  (verify : (signature message publicKey : List UInt8) → Bool)
  (normalizeSnapshotRules : DeviceSnapshotEnvelope → Option Rules)

def verifyPolicySnapshot (envelope : DeviceSnapshotEnvelope) (trustedKeyset : DeviceKeysetEnvelope)
    (expectedWorkspaceId : JsString) : Except SnapshotError DeviceSnapshotEnvelope := do
  let validated ← (validateSnapshotEnvelope envelope.toValue).mapError .payload
  ensure (validated.payload.workspaceId = expectedWorkspaceId) .workspaceMismatch
  let payloadBytes ← (canonicalJsonBytes isNormalized validated.payload.toValue).mapError
    fun _ => SnapshotError.valueUnsupported
  ensure (jsString (hexText (sha256 payloadBytes).toList) = validated.payloadSha256)
    .payloadHashMismatch
  ensure (jsString (hexText (sha256 (utf8 evaluatorContract.toList)).toList) =
    validated.payload.evaluatorContractSha256) .evaluatorContractMismatch
  match resolveTrustedKey trustedKeyset validated.signature.keyId with
  | none => .error .signatureUntrustedKey
  | some publicKey =>
    match decodeBase64UrlWithoutPadding validated.signature.value with
    | none => .error .signatureMalformed
    | some signature => do
      ensure (verifyDetachedEd25519 verify
        (buildSignedPolicyMessage snapshotSigningDomain payloadBytes) signature publicKey)
        .signatureInvalid
      return validated

/-- `readAcceptedPolicyStateFromRecord`: a record that does not verify is an absent cache. -/
def readAcceptedPolicyStateFromRecord (record : Option AcceptedPolicyState) :
    Option AcceptedPolicyState :=
  match record with
  | none => none
  | some stored =>
    if stored.keysetSequence < 1 ∨ stored.revisionNumber < 1 then none
    else
      match verifyKeysetEnvelope isNormalized sha256 stored.keysetEnvelope with
      | .error _ => none
      | .ok _ =>
        if stored.snapshotEnvelope.payload.workspaceId ≠ stored.workspaceId ∨
            stored.keysetEnvelope.payload.workspaceId ≠ stored.workspaceId then none
        else
          match verifyPolicySnapshot isNormalized sha256 verify stored.snapshotEnvelope
            stored.keysetEnvelope stored.workspaceId with
          | .error _ => none
          | .ok _ => some stored

namespace PolicyWorld

variable (world : PolicyWorld Rules)

/-- `#handleAcquisitionFailure`: the held state stays. -/
def handleAcquisitionFailure (failure : AcquisitionFailure) : PolicyWorld Rules :=
  match failure with
  | .networkUnavailable | .unexpected =>
    { world with state :=
        if world.accepted.isNone then .policyNotInitialized else .policyOfflineCached }
  | .notInitializedOnServer | .cacheWriteFailed | .cacheReadbackMismatch =>
    { world with state :=
        if world.accepted.isNone then .policyNotInitialized else .policyRefreshRequired }
  | .verification _ => { world with state := .policyIntegrityFailed }

/-- The call at `index` ends. -/
def finish (index : Nat) : PolicyWorld Rules :=
  { world with calls := world.calls.eraseIdx index }

/-- The call at `index` goes on to its next await. -/
def await (index : Nat) (call : PolicyCall) : PolicyWorld Rules :=
  { world with calls := world.calls.set index call }

/-- The call at `index` fails. -/
def fail (index : Nat) (failure : AcquisitionFailure) : PolicyWorld Rules :=
  (world.handleAcquisitionFailure failure).finish index

/-- The in-memory pointer moves. -/
def install (index : Nat) (candidate : AcceptedPolicyState) (rules : Rules)
    (state : PolicyIntegrityState) : PolicyWorld Rules :=
  ({ world with state := state, accepted := some candidate
                normalizedRules := some rules } : PolicyWorld Rules).finish index

/-- A settled page: the next request, or the collected envelopes. -/
def collectKeysets (fetch : KeysetFetch) (keysets : List ClosedJsonValue) (hasMore : Bool) :
    Except SnapshotError (KeysetFetch ⊕ List DeviceKeysetEnvelope) := do
  let page ← (keysets.mapM validateKeysetEnvelope).mapError .payload
  let collected := fetch.collected ++ page
  if !hasMore then return .inr collected
  else
    match page.getLast? with
    | none => .error .keysetPageOverflow
    | some last =>
      if last.payload.keysetRevision ≤ fetch.cursor then .error .keysetPageOverflow
      else if keysetPageMaximumFetches ≤ fetch.fetchIndex + 1 then .error .keysetPageOverflow
      else return .inl ⟨last.payload.keysetRevision, collected, fetch.fetchIndex + 1⟩

/-- The keyset a refresh trusts: the held one, or the end of the fetched chain. -/
def trustedKeyset (base : Option AcceptedPolicyState)
    (envelopes : Option (List DeviceKeysetEnvelope)) : Except SnapshotError DeviceKeysetEnvelope :=
  match base, envelopes with
  | some held, none => .ok held.keysetEnvelope
  | base, envelopes => do
    let chain ← (verifyKeysetChain isNormalized sha256 verify
      { envelopes := envelopes.getD []
        trustedKeyset := base.map (·.keysetEnvelope)
        trustedWorkspaceId := base.map (·.workspaceId)
        allowInitialTrust := false }).mapError .keyset
    return chain.acceptedKeyset

/-- The state a verified snapshot and its keyset make. -/
def candidateOf (workspaceId : JsString) (trusted : DeviceKeysetEnvelope)
    (snapshot : DeviceSnapshotEnvelope) : AcceptedPolicyState where
  workspaceId := workspaceId
  revisionNumber := snapshot.payload.revisionNumber
  keysetSequence := trusted.payload.keysetRevision
  keysetEnvelope := trusted
  snapshotEnvelope := snapshot

def verifyRefresh (index : Nat) (snapshot : DeviceSnapshotEnvelope)
    (base : Option AcceptedPolicyState) (envelopes : Option (List DeviceKeysetEnvelope)) :
    PolicyWorld Rules :=
  match trustedKeyset isNormalized sha256 verify base envelopes with
  | .error error => world.fail index (.verification error)
  | .ok trusted =>
    match verifyPolicySnapshot isNormalized sha256 verify snapshot trusted
      ((base.map (·.workspaceId)).getD trusted.payload.workspaceId) with
    | .error error => world.fail index (.verification error)
    | .ok verified =>
      match resolveSnapshotMonotonicity verified (world.accepted.map (·.snapshotEnvelope)) with
      | .downgrade => world.fail index (.verification .snapshotDowngrade)
      | .conflict => world.fail index (.verification .snapshotConflict)
      | .identical => { world with state := .policyReady }.finish index
      | .accept =>
        match normalizeSnapshotRules verified with
        | none => world.fail index .unexpected
        | some _ => world.await index (.refreshWrite
            (candidateOf verified.payload.workspaceId trusted verified) base world.accepted)

/-- A settled snapshot request of a refresh: the held state is read for its keyset. -/
def answerRefresh (index : Nat) : SnapshotAnswer → PolicyWorld Rules
  | .failed failure => world.fail index failure
  | .unchanged =>
    if world.accepted.isSome then { world with state := .policyReady }.finish index
    else world.fail index (.verification .envelopeInvalid)
  | .data value =>
    match validateSnapshotEnvelope value with
    | .error error => world.fail index (.verification (.payload error))
    | .ok snapshot =>
      match world.accepted with
      | none => world.await index (.refreshKeysets snapshot none ⟨0, [], 0⟩)
      | some held =>
        if held.keysetEnvelope.payload.keys.any fun key => key.keyId = snapshot.signature.keyId
        then world.await index (.refreshVerify snapshot (some held) none)
        else world.await index (.refreshKeysets snapshot (some held)
          ⟨held.keysetEnvelope.payload.keysetRevision, [], 0⟩)

/-- `persistAcceptedPolicyState`, up to the write. -/
def writeCandidate (index : Nat) (candidate : AcceptedPolicyState) (next : PolicyCall) :
    Settled → Option (PolicyWorld Rules)
  | .rejected => some (world.fail index .cacheWriteFailed)
  | .resolved =>
    match canonicalJsonBytes isNormalized (buildPolicyCacheRecord candidate) with
    | .error _ => some (world.fail index .cacheWriteFailed)
    | .ok _ => some (({ world with cache := some candidate } : PolicyWorld Rules).await index next)
  | _ => none

/-- The canonical form of the record that is read back is the written one. -/
def readsBack (candidate : AcceptedPolicyState) : Bool :=
  world.cache.any fun stored =>
    match canonicalJsonBytes isNormalized (buildPolicyCacheRecord stored),
      canonicalJsonBytes isNormalized (buildPolicyCacheRecord candidate) with
    | .ok readBackForm, .ok canonicalForm => readBackForm = canonicalForm
    | _, _ => false

/-- The readback of a written record, and the switch of the pointer. -/
def switchPointer (index : Nat) (candidate : AcceptedPolicyState) :
    Settled → Option (PolicyWorld Rules)
  | .rejected => some (world.fail index .cacheReadbackMismatch)
  | .resolved =>
    if world.readsBack isNormalized candidate then
      match normalizeSnapshotRules candidate.snapshotEnvelope with
      | none => none
      | some rules => some (world.install index candidate rules .policyReady)
    else some (world.fail index .cacheReadbackMismatch)
  | _ => none

/-- Restoring ends: what does not verify or normalize leaves nothing held. -/
def restoreHeld (index : Nat) (record : Option AcceptedPolicyState) : PolicyWorld Rules :=
  let nothing : PolicyWorld Rules :=
    ({ world with state := .policyNotInitialized, accepted := none
                  normalizedRules := none } : PolicyWorld Rules).finish index
  match readAcceptedPolicyStateFromRecord isNormalized sha256 verify record with
  | none => nothing
  | some restored =>
    match normalizeSnapshotRules restored.snapshotEnvelope with
    | none => nothing
    | some rules => world.install index restored rules .policyOfflineCached

/-- What the call at `index` awaits settles. -/
def resume (index : Nat) (call : PolicyCall) (settled : Settled) : Option (PolicyWorld Rules) :=
  match call, settled with
  | .refreshSnapshot, .snapshot answer => some (world.answerRefresh index answer)
  | .refreshKeysets _ _ _, .keysets (.failed failure) => some (world.fail index failure)
  | .refreshKeysets snapshot base fetch, .keysets (.page keysets hasMore) =>
    match collectKeysets fetch keysets hasMore with
    | .error error => some (world.fail index (.verification error))
    | .ok (.inl next) => some (world.await index (.refreshKeysets snapshot base next))
    | .ok (.inr envelopes) => some (world.await index (.refreshVerify snapshot base (some envelopes)))
  | .refreshVerify snapshot base envelopes, .resolved =>
    some (world.verifyRefresh isNormalized sha256 verify normalizeSnapshotRules index snapshot base
      envelopes)
  | .refreshWrite candidate base checked, settled =>
    world.writeCandidate isNormalized index candidate (.refreshReadback candidate base checked)
      settled
  | .refreshReadback candidate _ _, settled =>
    world.switchPointer isNormalized normalizeSnapshotRules index candidate settled
  | .adoptKeysets _, .keysets (.failed failure) => some (world.fail index failure)
  | .adoptKeysets fetch, .keysets (.page keysets hasMore) =>
    match collectKeysets fetch keysets hasMore with
    | .error error => some (world.fail index (.verification error))
    | .ok (.inl next) => some (world.await index (.adoptKeysets next))
    | .ok (.inr envelopes) => some (world.await index (.adoptChain envelopes))
  | .adoptChain envelopes, .resolved =>
    match verifyKeysetChain isNormalized sha256 verify
      { envelopes, trustedKeyset := none, trustedWorkspaceId := none, allowInitialTrust := true }
    with
    | .error error => some (world.fail index (.verification (.keyset error)))
    | .ok chain => some (world.await index (.adoptSnapshot chain.acceptedKeyset))
  | .adoptSnapshot _, .snapshot (.failed failure) => some (world.fail index failure)
  | .adoptSnapshot _, .snapshot .unchanged =>
    some (world.fail index (.verification .envelopeInvalid))
  | .adoptSnapshot trusted, .snapshot (.data value) =>
    match validateSnapshotEnvelope value with
    | .error error => some (world.fail index (.verification (.payload error)))
    | .ok snapshot => some (world.await index (.adoptVerify trusted snapshot))
  | .adoptVerify trusted snapshot, .resolved =>
    match verifyPolicySnapshot isNormalized sha256 verify snapshot trusted
      trusted.payload.workspaceId with
    | .error error => some (world.fail index (.verification error))
    | .ok verified =>
      match normalizeSnapshotRules verified with
      | none => some (world.fail index .unexpected)
      | some _ => some (world.await index
          (.adoptWrite (candidateOf trusted.payload.workspaceId trusted verified)))
  | .adoptWrite candidate, settled =>
    world.writeCandidate isNormalized index candidate (.adoptReadback candidate) settled
  | .adoptReadback candidate, settled =>
    world.switchPointer isNormalized normalizeSnapshotRules index candidate settled
  | .restoreRead, .resolved => some (world.await index (.restoreVerify world.cache))
  | .restoreRead, .rejected => some (world.finish index)
  | .restoreVerify record, .resolved =>
    some (world.restoreHeld isNormalized sha256 verify normalizeSnapshotRules index record)
  | _, _ => none

/-- One step. A refresh after an integrity failure does nothing. -/
def step : PolicyAction → Option (PolicyWorld Rules)
  | .beginRefresh =>
    if world.state = .policyIntegrityFailed then some world
    else some { world with calls := world.calls ++ [.refreshSnapshot] }
  | .beginAdoption => some { world with calls := world.calls ++ [.adoptKeysets ⟨0, [], 0⟩] }
  | .beginRestore => some { world with calls := world.calls ++ [.restoreRead] }
  | .resume index settled =>
    match world.calls[index]? with
    | none => none
    | some call =>
      world.resume isNormalized sha256 verify normalizeSnapshotRules index call settled

end PolicyWorld

/-- The members of a held state agree with its envelopes. -/
def AcceptedPolicyState.IsNumbered (held : AcceptedPolicyState) : Prop :=
  held.revisionNumber = held.snapshotEnvelope.payload.revisionNumber ∧
    held.keysetSequence = held.keysetEnvelope.payload.keysetRevision

/-- A session from its construction on: nothing is held, and the persisted record, if there is one,
is one that a session wrote. -/
def sessionMachine : Machine (PolicyWorld Rules) PolicyAction where
  Init := fun world => world.accepted = none ∧ world.normalizedRules = none ∧ world.calls = [] ∧
    world.state = .policyNotInitialized ∧ ∀ stored ∈ world.cache, stored.IsNumbered
  step := fun world =>
    world.step isNormalized sha256 verify normalizeSnapshotRules

end Session

/-! ## Candidates -/

namespace PolicySessionLemmas

open ChainLemmas

/-- The own members of the object literals. -/
def snapshotRecord (payload : PolicySnapshotPayload) : Record :=
  [(jsName "contract", .string (jsName snapshotPayloadContract)),
    (jsName "workspace_id", .string payload.workspaceId),
    (jsName "policy_revision_id", .string payload.policyRevisionId),
    (jsName "revision_number", .number (.integer payload.revisionNumber)),
    (jsName "parent_policy_revision_id", payload.parentPolicyRevisionId.elim .null .string),
    (jsName "published_at", .string payload.publishedAt),
    (jsName "default_decision", .string (jsName "allowed")),
    (jsName "evaluator_contract_sha256", .string payload.evaluatorContractSha256),
    (jsName "rules", .array (payload.rules.map .record))]

def snapshotEnvelopeRecord (envelope : DeviceSnapshotEnvelope) : Record :=
  [(jsName "payload", envelope.payload.toValue),
    (jsName "payload_sha256", .string envelope.payloadSha256),
    (jsName "signature", envelope.signature.toValue)]

theorem snapshotRecord_names (p : PolicySnapshotPayload) :
    ((snapshotRecord p).map Prod.fst).Nodup := by
  show (["contract", "workspace_id", "policy_revision_id", "revision_number",
    "parent_policy_revision_id", "published_at", "default_decision", "evaluator_contract_sha256",
    "rules"].map jsName).Nodup
  decide +kernel

theorem snapshotEnvelopeRecord_names (e : DeviceSnapshotEnvelope) :
    ((snapshotEnvelopeRecord e).map Prod.fst).Nodup := by
  show (["payload", "payload_sha256", "signature"].map jsName).Nodup
  decide +kernel

theorem snapshotRecord_member {p : PolicySnapshotPayload} {n : String}
    {v : ClosedJsonValue} (pl : Nat)
    (hl : (snapshotRecord p)[pl]? = some (jsName n, v)) :
    ownMember (snapshotRecord p) n = some v :=
  ownMember_of_mem (snapshotRecord_names p) (List.mem_of_getElem? hl)

theorem snapshotEnvelopeRecord_member {e : DeviceSnapshotEnvelope} {n : String}
    {v : ClosedJsonValue} (p : Nat)
    (hl : (snapshotEnvelopeRecord e)[p]? = some (jsName n, v)) :
    ownMember (snapshotEnvelopeRecord e) n = some v :=
  ownMember_of_mem (snapshotEnvelopeRecord_names e) (List.mem_of_getElem? hl)

theorem validateRule_ok {r r' : Record} (ha : validateRule (.record r) = .ok r') : r' = r := by
  rw [validateRule, asObject, ok_bind] at ha
  split at ha
  · cases ha
  obtain ⟨_, _, ha⟩ := bind_ok ha
  obtain ⟨_, _, ha⟩ := bind_ok ha
  split at ha
  · cases ha
  · obtain ⟨_, _, ha⟩ := bind_ok ha
    split at ha
    · obtain ⟨_, _, ha⟩ := bind_ok ha
      cases ha
      rfl
    · obtain ⟨_, _, ha⟩ := bind_ok ha
      cases ha
      rfl

theorem requireNullablePattern_ok {p : List (UInt16 → Bool)} {te t' : Option JsString}
    (ha : requireNullable (requirePattern p) (some (te.elim .null .string)) =
      .ok t') : t' = te := by
  cases te with
  | none =>
    cases ha
    rfl
  | some s =>
    obtain ⟨t, isT, rfl⟩ := map_ok (x := requirePattern p (some (.string s))) ha
    rw [requirePattern_ok isT]

theorem validateSnapshotPayload_toValue {p p' : PolicySnapshotPayload}
    (ha : validateSnapshotPayload p.toValue = .ok p') : p' = p := by
  have hl : p.toValue = .record (snapshotRecord p) := rfl
  rw [hl, validateSnapshotPayload, asObject, ok_bind] at ha
  obtain ⟨_, _, ha⟩ := bind_ok ha
  obtain ⟨_, _, ha⟩ := bind_ok ha
  obtain ⟨_, _, ha⟩ := bind_ok ha
  obtain ⟨wi, hw, ha⟩ := bind_ok ha
  obtain ⟨pr, hr, ha⟩ := bind_ok ha
  obtain ⟨pt, hpa, ha⟩ := bind_ok ha
  obtain ⟨rn, hn, ha⟩ := bind_ok ha
  obtain ⟨pa, hp, ha⟩ := bind_ok ha
  obtain ⟨c, hc, ha⟩ := bind_ok ha
  obtain ⟨e, he, ha⟩ := bind_ok ha
  rw [snapshotRecord_member 1 rfl] at hw
  rw [snapshotRecord_member 2 rfl] at hr
  rw [snapshotRecord_member 4 rfl] at hpa
  rw [snapshotRecord_member 3 rfl] at hn
  rw [snapshotRecord_member 5 rfl] at hp
  rw [snapshotRecord_member 7 rfl] at hc
  rw [snapshotRecord_member 8 rfl] at he
  cases he
  split at ha
  · cases ha
  obtain ⟨r, har, ha⟩ := bind_ok ha
  cases ha
  rw [requirePattern_ok hw, requirePattern_ok hr,
    requireNullablePattern_ok hpa, (requireInteger_ok hn).1,
    requirePattern_ok hp, requirePattern_ok hc,
    records_eq (fun _ _ => validateRule_ok) har]

theorem validateSnapshotEnvelope_toValue {e v : DeviceSnapshotEnvelope}
    (ha : validateSnapshotEnvelope e.toValue = .ok v) :
    v = e := by
  have hl : e.toValue = .record (snapshotEnvelopeRecord e) := rfl
  rw [hl, validateSnapshotEnvelope, asObject, ok_bind, snapshotEnvelopeRecord_member 0 rfl,
    snapshotEnvelopeRecord_member 1 rfl, snapshotEnvelopeRecord_member 2 rfl] at ha
  obtain ⟨_, _, ha⟩ := bind_ok ha
  obtain ⟨p, hp, ha⟩ := bind_ok ha
  obtain ⟨ps, hsh, ha⟩ := bind_ok ha
  obtain ⟨signature, hs, ha⟩ := bind_ok ha
  cases ha
  rw [validateSnapshotPayload_toValue hp, requirePattern_ok hsh, validateSignatureMember_toValue hs]

end PolicySessionLemmas

open PolicySessionLemmas

section Invariant

variable {Rules : Type} {isNormalized : Text → Bool} {sha256 : List UInt8 → Vector UInt8 32}
  {verify : (signature message publicKey : List UInt8) → Bool}
  {normalizeSnapshotRules : DeviceSnapshotEnvelope → Option Rules}

theorem verifyPolicySnapshot_ok {e v : DeviceSnapshotEnvelope}
    {t : DeviceKeysetEnvelope} {ew : JsString}
    (ha : verifyPolicySnapshot isNormalized sha256 verify e t ew = .ok v) :
    v = e ∧ e.payload.workspaceId = ew := by
  obtain ⟨va, hv, ho⟩ := bind_ok ha
  clear ha
  obtain rfl := validateSnapshotEnvelope_toValue (mapError_ok hv)
  obtain ⟨_, hw, ho⟩ := bind_ok ho
  obtain ⟨pb, _, ho⟩ := bind_ok ho
  obtain ⟨_, _, ho⟩ := bind_ok ho
  obtain ⟨_, _, ho⟩ := bind_ok ho
  refine ⟨?_, of_decide_eq_true (ensure_ok.mp hw)⟩
  split at ho
  · cases ho
  · split at ho
    · cases ho
    · obtain ⟨_, _, ho⟩ := bind_ok ho
      cases ho
      rfl

theorem resolveSnapshotMonotonicity_accept {candidate : DeviceSnapshotEnvelope}
    {a : Option DeviceSnapshotEnvelope}
    (ho : resolveSnapshotMonotonicity candidate a = .accept) :
    ∀ h ∈ a, h.payload.revisionNumber < candidate.payload.revisionNumber := by
  rintro h rfl
  rw [resolveSnapshotMonotonicity] at ho
  split at ho
  · assumption
  · split at ho
    · cases ho
    · split at ho <;> cases ho

namespace ChainLemmas

theorem verified_of_acceptRotation {t a : VerifiedKeyset}
    {candidate : DeviceKeysetEnvelope} {tw : Option JsString}
    (hv : ∃ v, verifyKeysetEnvelope isNormalized sha256 t.envelope = .ok v)
    (hm : acceptRotation isNormalized sha256 verify t candidate tw = .ok a) :
    ∃ v, verifyKeysetEnvelope isNormalized sha256 a.envelope = .ok v := by
  rcases acceptRotation_ok hm with rfl | ⟨rfl, hr⟩
  · exact hv
  · obtain ⟨_, ⟨_, v, hv, _⟩, _⟩ := hr.signed
    exact ⟨v, hv⟩

theorem verified_of_foldlM {tw : Option JsString}
    {e : List DeviceKeysetEnvelope} {t a : VerifiedKeyset}
    (hv : ∃ v, verifyKeysetEnvelope isNormalized sha256 t.envelope = .ok v)
    (ho : e.foldlM (fun a en => acceptRotation isNormalized sha256 verify a en tw) t = .ok a) :
    ∃ v, verifyKeysetEnvelope isNormalized sha256 a.envelope = .ok v := by
  induction e generalizing t with
  | nil =>
    cases ho
    exact hv
  | cons candidate r ih =>
    obtain ⟨n, hm, ho⟩ := bind_ok ho
    exact ih (verified_of_acceptRotation hv hm) ho

theorem verified_of_chain {i : KeysetChainInput} {o : KeysetChainOutcome}
    (ha : verifyKeysetChain isNormalized sha256 verify i = .ok o) :
    ∃ v, verifyKeysetEnvelope isNormalized sha256 o.acceptedKeyset = .ok v := by
  rw [verifyKeysetChain] at ha
  split at ha
  · cases ha
  cases ht : i.trustedKeyset with
  | none =>
    rw [ht] at ha
    obtain ⟨_, _, ha⟩ := bind_ok ha
    obtain ⟨x, hf, ha⟩ := bind_ok ha
    obtain ⟨l, hfo, ha⟩ := bind_ok ha
    cases ha
    obtain ⟨_, _, hf⟩ := bind_ok hf
    obtain ⟨_, _, hf⟩ := bind_ok hf
    obtain ⟨v, hv, hf⟩ := bind_ok hf
    split at hf
    · cases hf
    · obtain ⟨_, _, hf⟩ := bind_ok hf
      obtain ⟨_, _, hf⟩ := bind_ok hf
      cases hf
      refine verified_of_foldlM ⟨x, ?_⟩ hfo
      rw [(verifyKeysetEnvelope_ok hv).1]
      exact hv
  | some t =>
    rw [ht] at ha
    obtain ⟨x, hf, ha⟩ := bind_ok ha
    obtain ⟨l, hfo, ha⟩ := bind_ok ha
    cases ha
    refine verified_of_foldlM ⟨x, ?_⟩ hfo
    rw [(verifyKeysetEnvelope_ok hf).1]
    exact hf

end ChainLemmas

/-! ## What a session holds -/

/-- One verified response: the keyset is verified, and the snapshot is verified under it. -/
structure AcceptedPolicyState.IsVerified (isNormalized : Text → Bool)
    (sha256 : List UInt8 → Vector UInt8 32)
    (verify : (signature message publicKey : List UInt8) → Bool)
    (held : AcceptedPolicyState) : Prop where
  numbered : held.IsNumbered
  keyset : ∃ verified, verifyKeysetEnvelope isNormalized sha256 held.keysetEnvelope = .ok verified
  snapshot : verifyPolicySnapshot isNormalized sha256 verify held.snapshotEnvelope
    held.keysetEnvelope held.workspaceId = .ok held.snapshotEnvelope

/-- What a call keeps across its awaits. -/
def PolicyCall.IsSound (isNormalized : Text → Bool) (sha256 : List UInt8 → Vector UInt8 32)
    (verify : (signature message publicKey : List UInt8) → Bool) : PolicyCall → Prop
  | .refreshKeysets _ base _ | .refreshVerify _ base _ =>
    ∀ held ∈ base, held.IsVerified isNormalized sha256 verify
  | .refreshWrite candidate base checked | .refreshReadback candidate base checked =>
    candidate.IsVerified isNormalized sha256 verify ∧
      (∃ held ∈ base, held.keysetSequence ≤ candidate.keysetSequence) ∧
        ∀ held ∈ checked, held.revisionNumber < candidate.revisionNumber
  | .adoptSnapshot trusted | .adoptVerify trusted _ =>
    ∃ verified, verifyKeysetEnvelope isNormalized sha256 trusted = .ok verified
  | .adoptWrite candidate | .adoptReadback candidate =>
    candidate.IsVerified isNormalized sha256 verify
  | .restoreVerify record => ∀ stored ∈ record, stored.IsNumbered
  | .refreshSnapshot | .adoptKeysets _ | .adoptChain _ | .restoreRead => True

/-- The held state is one verified response, and the rules are those of its snapshot. -/
def PolicyWorld.HoldsOneResponse (isNormalized : Text → Bool)
    (sha256 : List UInt8 → Vector UInt8 32)
    (verify : (signature message publicKey : List UInt8) → Bool)
    (normalizeSnapshotRules : DeviceSnapshotEnvelope → Option Rules)
    (world : PolicyWorld Rules) : Prop :=
  match world.accepted with
  | none => world.normalizedRules = none
  | some held => held.IsVerified isNormalized sha256 verify ∧
    ∃ rules, normalizeSnapshotRules held.snapshotEnvelope = some rules ∧
      world.normalizedRules = some rules

structure SoundSession (isNormalized : Text → Bool) (sha256 : List UInt8 → Vector UInt8 32)
    (verify : (signature message publicKey : List UInt8) → Bool)
    (normalizeSnapshotRules : DeviceSnapshotEnvelope → Option Rules)
    (world : PolicyWorld Rules) : Prop where
  held : world.HoldsOneResponse isNormalized sha256 verify normalizeSnapshotRules
  cache : ∀ stored ∈ world.cache, stored.IsNumbered
  calls : ∀ call ∈ world.calls, call.IsSound isNormalized sha256 verify

/-- The pair that must not go down. -/
def heldPair (held : Option AcceptedPolicyState) : Option (Int × Int) :=
  held.map fun held => (held.keysetSequence, held.revisionNumber)

/-- Neither component goes down, and what is held stays held. -/
def PairLe (before after : Option AcceptedPolicyState) : Prop :=
  ∀ held ∈ before, ∃ held' ∈ after,
    held.keysetSequence ≤ held'.keysetSequence ∧ held.revisionNumber ≤ held'.revisionNumber

/-- A refresh switches the pointer while the held pair is the one it has read, before its keyset
chain and at its comparison; adoption and restore switch it where nothing is held. -/
def PolicyWorld.comparesHeld (world : PolicyWorld Rules) : PolicyAction → Bool
  | .resume index _ =>
    match world.calls[index]? with
    | some (.refreshReadback _ base checked) =>
      heldPair world.accepted = heldPair base && heldPair world.accepted = heldPair checked
    | some (.adoptReadback _) | some (.restoreVerify _) => world.accepted.isNone
    | _ => true
  | _ => true

namespace PolicySessionLemmas

open ChainLemmas

variable {world world' : PolicyWorld Rules}

theorem pairLe_refl (h : Option AcceptedPolicyState) : PairLe h h :=
  fun s hm => ⟨s, hm, le_rfl, le_rfl⟩

theorem pairLe_trans {x y t : Option AcceptedPolicyState}
    (hb : PairLe x y) (ha : PairLe y t) : PairLe x t := by
  intro h hm
  obtain ⟨h', hm', hk, hr⟩ := hb h hm
  obtain ⟨h'', hm'', hk', hr'⟩ := ha h' hm'
  exact ⟨h'', hm'', hk.trans hk', hr.trans hr'⟩

theorem pairLe_of_none {b a : Option AcceptedPolicyState} (hn : b.isNone = true) : PairLe b a := by
  rintro h rfl
  cases hn

variable {base : Option AcceptedPolicyState} {candidate : AcceptedPolicyState} {call : PolicyCall}
  {settled : Settled}

theorem pairLe_of_pairs {b c : Option AcceptedPolicyState}
    (hb : heldPair b = heldPair base) (hc : heldPair b = heldPair c)
    (hk : ∃ h ∈ base, h.keysetSequence ≤ candidate.keysetSequence)
    (hr : ∀ h ∈ c, h.revisionNumber < candidate.revisionNumber) :
    PairLe b (some candidate) := by
  rintro h rfl
  obtain ⟨ba, rfl, hl⟩ := hk
  refine ⟨candidate, rfl, ?_, ?_⟩
  · have he := (Prod.mk.inj (Option.some.inj hb)).1
    exact he ▸ hl
  · cases c with
    | none => cases hc
    | some co =>
      have he := (Prod.mk.inj (Option.some.inj hc)).2
      exact he ▸ (hr co rfl).le

/-! ### Steps that leave what is held -/

theorem handleAcquisitionFailure_frame (world : PolicyWorld Rules) (f : AcquisitionFailure) :
    ∃ s, world.handleAcquisitionFailure f = { world with state := s } := by
  cases f <;> exact ⟨_, rfl⟩

theorem sound_state (s : PolicyIntegrityState)
    (hs : SoundSession isNormalized sha256 verify normalizeSnapshotRules world) :
    SoundSession isNormalized sha256 verify normalizeSnapshotRules
      { world with state := s } :=
  ⟨hs.held, hs.cache, hs.calls⟩

theorem sound_finish (i : Nat)
    (hs : SoundSession isNormalized sha256 verify normalizeSnapshotRules world) :
    SoundSession isNormalized sha256 verify normalizeSnapshotRules (world.finish i) :=
  ⟨hs.held, hs.cache, fun call hm => hs.calls call (List.mem_of_mem_eraseIdx hm)⟩

theorem sound_await (i : Nat)
    (hs : SoundSession isNormalized sha256 verify normalizeSnapshotRules world)
    (hso : call.IsSound isNormalized sha256 verify) :
    SoundSession isNormalized sha256 verify normalizeSnapshotRules (world.await i call) := by
  refine ⟨hs.held, hs.cache, fun o hm => ?_⟩
  rcases List.mem_or_eq_of_mem_set hm with old | rfl
  · exact hs.calls o old
  · exact hso

theorem sound_begin (hs : SoundSession isNormalized sha256 verify normalizeSnapshotRules world)
    (hso : call.IsSound isNormalized sha256 verify) :
    SoundSession isNormalized sha256 verify normalizeSnapshotRules
      { world with calls := world.calls ++ [call] } := by
  refine ⟨hs.held, hs.cache, fun o hm => ?_⟩
  rcases List.mem_append.mp hm with old | new
  · exact hs.calls o old
  · cases List.mem_singleton.mp new
    exact hso

theorem sound_fail (i : Nat) (f : AcquisitionFailure)
    (hs : SoundSession isNormalized sha256 verify normalizeSnapshotRules world) :
    SoundSession isNormalized sha256 verify normalizeSnapshotRules (world.fail i f) := by
  obtain ⟨s, he⟩ := handleAcquisitionFailure_frame world f
  rw [PolicyWorld.fail, he]
  exact sound_finish i (sound_state s hs)

theorem fail_accepted (i : Nat) (f : AcquisitionFailure) :
    (world.fail i f).accepted = world.accepted := by
  obtain ⟨s, he⟩ := handleAcquisitionFailure_frame world f
  rw [PolicyWorld.fail, he]
  rfl

/-- A step that keeps the session sound and leaves what is held. -/
def StaysSound (isNormalized : Text → Bool) (sha256 : List UInt8 → Vector UInt8 32)
    (verify : (signature message publicKey : List UInt8) → Bool)
    (normalizeSnapshotRules : DeviceSnapshotEnvelope → Option Rules)
    (world world' : PolicyWorld Rules) : Prop :=
  SoundSession isNormalized sha256 verify normalizeSnapshotRules world' ∧
    world'.accepted = world.accepted

theorem stays_fail (i : Nat) (f : AcquisitionFailure)
    (hs : SoundSession isNormalized sha256 verify normalizeSnapshotRules world) :
    StaysSound isNormalized sha256 verify normalizeSnapshotRules world (world.fail i f) :=
  ⟨sound_fail i f hs, fail_accepted i f⟩

theorem stays_await (i : Nat)
    (hso : SoundSession isNormalized sha256 verify normalizeSnapshotRules world)
    (hs : call.IsSound isNormalized sha256 verify) :
    StaysSound isNormalized sha256 verify normalizeSnapshotRules world (world.await i call) :=
  ⟨sound_await i hso hs, rfl⟩

theorem stays_ready (i : Nat)
    (hs : SoundSession isNormalized sha256 verify normalizeSnapshotRules world) :
    StaysSound isNormalized sha256 verify normalizeSnapshotRules world
      (({ world with state := .policyReady } : PolicyWorld Rules).finish i) :=
  ⟨sound_finish i (sound_state .policyReady hs), rfl⟩

theorem verified_of_sound
    (hs : SoundSession isNormalized sha256 verify normalizeSnapshotRules world) :
    ∀ h ∈ world.accepted, h.IsVerified isNormalized sha256 verify := by
  intro h hm
  have hh := hs.held
  rw [PolicyWorld.HoldsOneResponse, hm] at hh
  exact hh.1

theorem stays_answerRefresh (i : Nat) (an : SnapshotAnswer)
    (hs : SoundSession isNormalized sha256 verify normalizeSnapshotRules world) :
    StaysSound isNormalized sha256 verify normalizeSnapshotRules world
      (world.answerRefresh i an) := by
  rw [PolicyWorld.answerRefresh.eq_def]
  split
  · exact stays_fail i _ hs
  · split
    · exact stays_ready i hs
    · exact stays_fail i _ hs
  · split
    · exact stays_fail i _ hs
    · split
      · exact stays_await i hs (fun _ hn => nomatch hn)
      · next h hh =>
        have hv := verified_of_sound hs h hh
        have hb : ∀ s ∈ some h, s.IsVerified isNormalized sha256 verify := by
          intro s hm
          cases Option.mem_some.mp hm
          exact hv
        split
        · exact stays_await i hs hb
        · exact stays_await i hs hb

theorem trustedKeyset_ok {e : Option (List DeviceKeysetEnvelope)}
    {t : DeviceKeysetEnvelope}
    (hv : ∀ h ∈ base, h.IsVerified isNormalized sha256 verify)
    (ha : PolicyWorld.trustedKeyset isNormalized sha256 verify base e = .ok t) :
    (∃ hv, verifyKeysetEnvelope isNormalized sha256 t = .ok hv) ∧
      ∃ h ∈ base, h.keysetSequence ≤ t.payload.keysetRevision := by
  rw [PolicyWorld.trustedKeyset.eq_def] at ha
  split at ha
  · next h =>
    cases ha
    exact ⟨(hv h rfl).keyset, h, rfl, (hv h rfl).numbered.2.le⟩
  · obtain ⟨c, hc, ha⟩ := bind_ok ha
    cases ha
    have hc := mapError_ok hc
    refine ⟨verified_of_chain hc, ?_⟩
    cases base with
    | none => exact absurd rfl (trusted_of_verified rfl hc)
    | some h =>
      refine ⟨h, rfl, ?_⟩
      rw [(hv h rfl).numbered.2]
      exact revision_le_of_verified rfl hc

theorem verified_candidate {wi : JsString} {t : DeviceKeysetEnvelope}
    {s : DeviceSnapshotEnvelope}
    (hk : ∃ v, verifyKeysetEnvelope isNormalized sha256 t = .ok v)
    (hv : verifyPolicySnapshot isNormalized sha256 verify s t wi = .ok s) :
    (PolicyWorld.candidateOf wi t s).IsVerified isNormalized sha256 verify :=
  ⟨⟨rfl, rfl⟩, hk, hv⟩

theorem stays_verifyRefresh (i : Nat) {s : DeviceSnapshotEnvelope}
    {e : Option (List DeviceKeysetEnvelope)}
    (hs : SoundSession isNormalized sha256 verify normalizeSnapshotRules world)
    (hv : ∀ h ∈ base, h.IsVerified isNormalized sha256 verify) :
    StaysSound isNormalized sha256 verify normalizeSnapshotRules world
      (world.verifyRefresh isNormalized sha256 verify normalizeSnapshotRules i s base e) := by
  rw [PolicyWorld.verifyRefresh]
  split
  · exact stays_fail i _ hs
  next t ht =>
    obtain ⟨hk, hf⟩ := trustedKeyset_ok hv ht
    split
    · exact stays_fail i _ hs
    next a ha =>
      obtain ⟨rfl, hw⟩ := verifyPolicySnapshot_ok ha
      split
      · exact stays_fail i _ hs
      · exact stays_fail i _ hs
      · exact stays_ready i hs
      next hl =>
        split
        · exact stays_fail i _ hs
        · refine stays_await i hs ⟨verified_candidate hk ?_, hf, ?_⟩
          · rw [hw]
            exact ha
          · intro h hh
            rw [(verified_of_sound hs h hh).numbered.1]
            exact resolveSnapshotMonotonicity_accept hl h.snapshotEnvelope
              (Option.mem_map_of_mem _ hh)

theorem stays_writeCandidate (i : Nat) {n : PolicyCall}
    (hs : SoundSession isNormalized sha256 verify normalizeSnapshotRules world)
    (hv : world.writeCandidate isNormalized i candidate n settled = some world')
    (hn : candidate.IsNumbered) (hso : n.IsSound isNormalized sha256 verify) :
    StaysSound isNormalized sha256 verify normalizeSnapshotRules world world' := by
  rw [PolicyWorld.writeCandidate.eq_def] at hv
  split at hv
  · cases hv
    exact stays_fail i _ hs
  · split at hv
    · cases hv
      exact stays_fail i _ hs
    · cases hv
      have hc : ∀ sd ∈ some candidate, sd.IsNumbered := by
        intro sd hm
        cases Option.mem_some.mp hm
        exact hn
      have hw : SoundSession isNormalized sha256 verify normalizeSnapshotRules
          { world with cache := some candidate } := ⟨hs.held, hc, hs.calls⟩
      exact stays_await i hw hso
  · cases hv

/-! ### Steps that switch the pointer -/

theorem sound_install (i : Nat) {r : Rules} (s : PolicyIntegrityState)
    (hs : SoundSession isNormalized sha256 verify normalizeSnapshotRules world)
    (hv : candidate.IsVerified isNormalized sha256 verify)
    (hn : normalizeSnapshotRules candidate.snapshotEnvelope = some r) :
    SoundSession isNormalized sha256 verify normalizeSnapshotRules
      (world.install i candidate r s) :=
  sound_finish i ⟨⟨hv, r, hn, rfl⟩, hs.cache, hs.calls⟩

theorem sound_switchPointer (i : Nat)
    (hs : SoundSession isNormalized sha256 verify normalizeSnapshotRules world)
    (hve : candidate.IsVerified isNormalized sha256 verify)
    (hv : world.switchPointer isNormalized normalizeSnapshotRules i candidate settled =
      some world') :
    SoundSession isNormalized sha256 verify normalizeSnapshotRules world' ∧
      (world'.accepted = world.accepted ∨ world'.accepted = some candidate) := by
  rw [PolicyWorld.switchPointer.eq_def] at hv
  split at hv
  · cases hv
    exact ⟨sound_fail i _ hs, .inl (fail_accepted i _)⟩
  · split at hv
    · split at hv
      · cases hv
      next r hn =>
        cases hv
        exact ⟨sound_install i .policyReady hs hve hn, .inr rfl⟩
    · cases hv
      exact ⟨sound_fail i _ hs, .inl (fail_accepted i _)⟩
  · cases hv

theorem verified_of_record {re : Option AcceptedPolicyState} {r : AcceptedPolicyState}
    (hn : ∀ sd ∈ re, sd.IsNumbered)
    (hr : readAcceptedPolicyStateFromRecord isNormalized sha256 verify re =
      some r) : r.IsVerified isNormalized sha256 verify := by
  rw [readAcceptedPolicyStateFromRecord.eq_def] at hr
  split at hr
  · cases hr
  next =>
    split at hr
    · cases hr
    split at hr
    · cases hr
    next k hk =>
      split at hr
      · cases hr
      split at hr
      · cases hr
      next s hs =>
        cases hr
        refine ⟨hn r rfl, ⟨k, hk⟩, ?_⟩
        rw [hs, (verifyPolicySnapshot_ok hs).1]

theorem sound_restoreHeld (i : Nat) {r : Option AcceptedPolicyState}
    (hs : SoundSession isNormalized sha256 verify normalizeSnapshotRules world)
    (hnu : ∀ sd ∈ r, sd.IsNumbered) :
    SoundSession isNormalized sha256 verify normalizeSnapshotRules
      (world.restoreHeld isNormalized sha256 verify normalizeSnapshotRules i r) := by
  have hn : SoundSession isNormalized sha256 verify normalizeSnapshotRules
      (({ world with state := .policyNotInitialized, accepted := none
                     normalizedRules := none } : PolicyWorld Rules).finish i) :=
    sound_finish i ⟨rfl, hs.cache, hs.calls⟩
  rw [PolicyWorld.restoreHeld]
  split
  · exact hn
  next re hr =>
    split
    · exact hn
    next ru hno =>
      exact sound_install i .policyOfflineCached hs (verified_of_record hnu hr) hno

/-- What a settled await keeps: the session stays sound, and the pair does not go down where the
switch compares what is held. -/
def KeepsHeld (isNormalized : Text → Bool) (sha256 : List UInt8 → Vector UInt8 32)
    (verify : (signature message publicKey : List UInt8) → Bool)
    (normalizeSnapshotRules : DeviceSnapshotEnvelope → Option Rules)
    (world : PolicyWorld Rules) (compares : Prop) (world' : PolicyWorld Rules) : Prop :=
  SoundSession isNormalized sha256 verify normalizeSnapshotRules world' ∧
    (compares → PairLe world.accepted world'.accepted)

theorem keeps_of_stays {c : Prop}
    (hs : StaysSound isNormalized sha256 verify normalizeSnapshotRules world world') :
    KeepsHeld isNormalized sha256 verify normalizeSnapshotRules world c world' :=
  ⟨hs.1, fun _ => hs.2 ▸ pairLe_refl _⟩

theorem keeps_resume {i : Nat}
    (hs : SoundSession isNormalized sha256 verify normalizeSnapshotRules world)
    (hca : world.calls[i]? = some call)
    (hv : world.resume isNormalized sha256 verify normalizeSnapshotRules i call settled =
      some world') :
    KeepsHeld isNormalized sha256 verify normalizeSnapshotRules world
      (world.comparesHeld (.resume i settled) = true) world' := by
  have hso := hs.calls call (List.mem_of_getElem? hca)
  rw [PolicyWorld.comparesHeld, hca]
  rw [PolicyWorld.resume.eq_def] at hv
  split at hv
  · -- refresh: the snapshot
    cases hv
    exact keeps_of_stays (stays_answerRefresh i _ hs)
  · cases hv
    exact keeps_of_stays (stays_fail i _ hs)
  · split at hv
    · cases hv
      exact keeps_of_stays (stays_fail i _ hs)
    · cases hv
      exact keeps_of_stays (stays_await i hs hso)
    · cases hv
      exact keeps_of_stays (stays_await i hs hso)
  · -- refresh: verification and comparison
    cases hv
    exact keeps_of_stays (stays_verifyRefresh i hs hso)
  · obtain ⟨hve, hf⟩ := hso
    exact keeps_of_stays (stays_writeCandidate i hs hv hve.numbered ⟨hve, hf⟩)
  · -- refresh: the switch
    obtain ⟨hve, hk, hr⟩ := hso
    obtain ⟨hke, he | hi⟩ := sound_switchPointer i hs hve hv
    · exact keeps_of_stays ⟨hke, he⟩
    · refine ⟨hke, fun hco => ?_⟩
      obtain ⟨hb, hc⟩ := Bool.and_eq_true_iff.mp hco
      rw [hi]
      exact pairLe_of_pairs (of_decide_eq_true hb) (of_decide_eq_true hc) hk hr
  · -- adoption: the keysets
    cases hv
    exact keeps_of_stays (stays_fail i _ hs)
  · split at hv
    · cases hv
      exact keeps_of_stays (stays_fail i _ hs)
    · cases hv
      exact keeps_of_stays (stays_await i hs trivial)
    · cases hv
      exact keeps_of_stays (stays_await i hs trivial)
  · split at hv
    · cases hv
      exact keeps_of_stays (stays_fail i _ hs)
    next hch =>
      cases hv
      exact keeps_of_stays (stays_await i hs (verified_of_chain hch))
  · -- adoption: the snapshot
    cases hv
    exact keeps_of_stays (stays_fail i _ hs)
  · cases hv
    exact keeps_of_stays (stays_fail i _ hs)
  · split at hv
    · cases hv
      exact keeps_of_stays (stays_fail i _ hs)
    · cases hv
      exact keeps_of_stays (stays_await i hs hso)
  · split at hv
    · cases hv
      exact keeps_of_stays (stays_fail i _ hs)
    next ha =>
      obtain ⟨rfl, _⟩ := verifyPolicySnapshot_ok ha
      split at hv
      · cases hv
        exact keeps_of_stays (stays_fail i _ hs)
      · cases hv
        exact keeps_of_stays (stays_await i hs (verified_candidate hso ha))
  · have hve : AcceptedPolicyState.IsVerified isNormalized sha256 verify _ := hso
    exact keeps_of_stays (stays_writeCandidate i hs hv hve.numbered hve)
  · -- adoption: the switch
    exact ⟨(sound_switchPointer i hs hso hv).1, pairLe_of_none⟩
  · -- restoring
    cases hv
    exact keeps_of_stays (stays_await i hs hs.cache)
  · cases hv
    exact keeps_of_stays ⟨sound_finish i hs, rfl⟩
  · cases hv
    exact ⟨sound_restoreHeld i hs hso, pairLe_of_none⟩
  · cases hv

theorem soundSession_step {a : PolicyAction}
    (hs : SoundSession isNormalized sha256 verify normalizeSnapshotRules world)
    (hv : (sessionMachine isNormalized sha256 verify normalizeSnapshotRules).step world a =
      some world') :
    KeepsHeld isNormalized sha256 verify normalizeSnapshotRules world
      (world.comparesHeld a = true) world' := by
  change world.step isNormalized sha256 verify normalizeSnapshotRules a = some world' at hv
  cases a with
  | beginRefresh =>
    rw [PolicyWorld.step] at hv
    split at hv
    · cases hv
      exact keeps_of_stays ⟨hs, rfl⟩
    · cases hv
      exact keeps_of_stays ⟨sound_begin hs trivial, rfl⟩
  | beginAdoption =>
    cases hv
    exact keeps_of_stays ⟨sound_begin hs trivial, rfl⟩
  | beginRestore =>
    cases hv
    exact keeps_of_stays ⟨sound_begin hs trivial, rfl⟩
  | resume i settled =>
    rw [PolicyWorld.step] at hv
    split at hv
    · cases hv
    next call hc => exact keeps_resume hs hc hv

theorem soundSession_init
    (hi : (sessionMachine isNormalized sha256 verify normalizeSnapshotRules).Init world) :
    SoundSession isNormalized sha256 verify normalizeSnapshotRules world := by
  obtain ⟨hng, hno, hn, _, hc⟩ := hi
  refine ⟨?_, hc, ?_⟩
  · rw [PolicyWorld.HoldsOneResponse, hng]
    exact hno
  · rw [hn]
    exact fun _ hm => nomatch hm

end PolicySessionLemmas

open PolicySessionLemmas in
/-- In every reachable session the held state is one verified response with the rules of its
snapshot. From there on, along every run whose refreshes switch the pointer while the held pair is
the one they read, and whose adoptions and restores switch it where nothing is held, neither
component of the pair goes down. -/
theorem session_holds_one_response {world : PolicyWorld Rules}
    (reached : (sessionMachine isNormalized sha256 verify normalizeSnapshotRules).Reachable world) :
    world.HoldsOneResponse isNormalized sha256 verify normalizeSnapshotRules ∧
    ∀ world', ((sessionMachine isNormalized sha256 verify
        normalizeSnapshotRules).startedAt world).GuardedReachable
          (fun world action => world.comparesHeld action = true) world' →
      PairLe world.accepted world'.accepted := by
  have hs : SoundSession isNormalized sha256 verify normalizeSnapshotRules world :=
    @Machine.Reachable.invariant _ _ _
      (SoundSession isNormalized sha256 verify normalizeSnapshotRules)
      (fun _ hi => soundSession_init hi)
      (fun _ _ _ hs hv => (soundSession_step hs hv).1) _ reached
  refine ⟨hs.held, fun world' hl => ?_⟩
  have hk : KeepsHeld isNormalized sha256 verify normalizeSnapshotRules world True world' := by
    refine @Machine.GuardedReachable.invariant _ _ _ _
      (KeepsHeld isNormalized sha256 verify normalizeSnapshotRules world True) ?_ ?_ _ hl
    · rintro s hst
      cases (hst : s = world)
      exact ⟨hs, fun _ => pairLe_refl _⟩
    · intro s action n hk hc hv
      obtain ⟨hs', hp⟩ := soundSession_step hk.1 hv
      exact ⟨hs', fun _ => pairLe_trans (hk.2 trivial) (hp hc)⟩
  exact hk.2 trivial

end Invariant

/-! ## Runs of one device -/

namespace PolicySessionLemmas

open ChainLemmas

def sampleFirstKeyset : DeviceKeysetEnvelope :=
  let later := sampleEnvelope 1 .current .staged 1
  { later with payload := { later.payload with parentKeysetRevision := none } }

/-- A snapshot without rules, signed by the same key. -/
def sampleSnapshot (revisionNumber : Int) : DeviceSnapshotEnvelope where
  payload :=
    { workspaceId := jsString (uuidText 1)
      policyRevisionId := jsString (uuidText 2)
      revisionNumber
      parentPolicyRevisionId := none
      publishedAt := jsName "2026-08-17T09:30:00.000000Z"
      evaluatorContractSha256 := jsString (hexText (twoKeysSha256 []).toList)
      rules := [] }
  payloadSha256 := jsString (hexText (twoKeysSha256 []).toList)
  signature := sampleSignature 1

def sampleSession : Machine (PolicyWorld Unit) PolicyAction :=
  sessionMachine (fun _ => true) twoKeysSha256 sampleVerify fun _ => some ()

def emptySession : PolicyWorld Unit := ⟨.policyNotInitialized, none, none, none, []⟩

theorem emptySession_init : sampleSession.Init emptySession :=
  ⟨rfl, rfl, rfl, rfl, fun _ hn => nomatch hn⟩

/-- An onboarding that the server answers with a revision. -/
def adoption (revisionNumber : Int) : List PolicyAction :=
  [.beginAdoption, .resume 0 (.keysets (.page [sampleFirstKeyset.toValue] false)),
    .resume 0 .resolved, .resume 0 (.snapshot (.data (sampleSnapshot revisionNumber).toValue)),
    .resume 0 .resolved, .resume 0 .resolved, .resume 0 .resolved]

/-- The first awaits of a refresh, up to its comparison. -/
def refreshChecked (index : Nat) (revisionNumber : Int) : List PolicyAction :=
  [.resume index (.snapshot (.data (sampleSnapshot revisionNumber).toValue)),
    .resume index .resolved]

/-- The write and the readback of a refresh. -/
def refreshSwitched (index : Nat) : List PolicyAction :=
  [.resume index .resolved, .resume index .resolved]

theorem not_pairLe {b a : Option AcceptedPolicyState} {k r k' r' : Int}
    (hb : heldPair b = some (k, r))
    (ha : heldPair a = some (k', r')) (hlo : r' < r) :
    ¬ PairLe b a := by
  intro hp
  obtain ⟨h, rfl, he⟩ := Option.map_eq_some_iff.mp hb
  obtain ⟨h', rfl, he'⟩ := Option.map_eq_some_iff.mp ha
  obtain ⟨_, hm, _, hl⟩ := hp h rfl
  cases Option.mem_some.mp hm
  rw [(Prod.mk.inj he).2, (Prod.mk.inj he').2] at hl
  exact absurd hl (not_le.mpr hlo)

def pairsAlong (first second : List PolicyAction) : Option ((Int × Int) × (Int × Int)) :=
  (sampleSession.run emptySession first).bind fun world =>
    (sampleSession.run world second).bind fun world' =>
      (heldPair world.accepted).bind fun before =>
        (heldPair world'.accepted).map fun after => (before, after)

theorem pairsAlong_some {x y : List PolicyAction} {b a : Int × Int}
    (ho : pairsAlong x y = some (b, a)) :
    ∃ world world', sampleSession.run emptySession x = some world ∧
      sampleSession.run world y = some world' ∧ heldPair world.accepted = some b ∧
        heldPair world'.accepted = some a := by
  obtain ⟨world, ran, ho⟩ := Option.bind_eq_some_iff.mp ho
  obtain ⟨world', hr', ho⟩ := Option.bind_eq_some_iff.mp ho
  obtain ⟨_, hb, ho⟩ := Option.bind_eq_some_iff.mp ho
  obtain ⟨_, ha, he⟩ := Option.map_eq_some_iff.mp ho
  cases he
  exact ⟨world, world', ran, hr', hb, ha⟩

/-- Two refreshes have begun; the first has compared its candidate, and the second has switched the
pointer to a later one. -/
def overtaken : List PolicyAction :=
  adoption 5 ++ [.beginRefresh, .beginRefresh] ++ refreshChecked 0 6 ++ refreshChecked 1 7 ++
    refreshSwitched 1

end PolicySessionLemmas

open PolicySessionLemmas in
/-- A session that holds a revision and is refreshed. -/
theorem session_holds_one_response_refreshed : ∃ world world',
    sampleSession.run emptySession (adoption 5) = some world ∧
      sampleSession.run world (.beginRefresh :: refreshChecked 0 6 ++ refreshSwitched 0) =
        some world' ∧
      heldPair world'.accepted = some (1, 6) ∧
      world.HoldsOneResponse (fun _ => true) ChainLemmas.twoKeysSha256 ChainLemmas.sampleVerify
        (fun _ => some ()) ∧
      PairLe world.accepted world'.accepted := by
  have ho : pairsAlong (adoption 5) (.beginRefresh :: refreshChecked 0 6 ++ refreshSwitched 0) =
      some ((1, 5), (1, 6)) := by decide +kernel
  have hc : ((sampleSession.run emptySession (adoption 5)).map fun world =>
      sampleSession.runChecks PolicyWorld.comparesHeld world
        (.beginRefresh :: refreshChecked 0 6 ++ refreshSwitched 0)) = some true := by
    decide +kernel
  obtain ⟨world, world', ran, hr', _, ha⟩ := pairsAlong_some ho
  rw [ran, Option.map_some] at hc
  obtain ⟨hh, hk⟩ := session_holds_one_response (Machine.reachable_of_run emptySession_init ran)
  exact ⟨world, world', ran, hr', ha, hh, hk world'
    (Machine.guardedReachable_startedAt (fun _ _ => id) hr' (Option.some.inj hc))⟩

open PolicySessionLemmas in
/-- Onboarding again replaces a later revision by an earlier one; and so does the switch of a
refresh that another one has overtaken. -/
theorem held_pair_goes_down : (∃ world world', sampleSession.Reachable world ∧
      sampleSession.run world (adoption 5) = some world' ∧
        ¬ PairLe world.accepted world'.accepted) ∧
    ∃ world world', sampleSession.Reachable world ∧
      sampleSession.run world (refreshSwitched 0) = some world' ∧
        ¬ PairLe world.accepted world'.accepted := by
  have hr : pairsAlong (adoption 6) (adoption 5) = some ((1, 6), (1, 5)) := by
    decide +kernel
  have hs : pairsAlong overtaken (refreshSwitched 0) = some ((1, 7), (1, 6)) := by
    decide +kernel
  constructor
  · obtain ⟨world, world', ran, hr', hb, ha⟩ := pairsAlong_some hr
    exact ⟨world, world', Machine.reachable_of_run emptySession_init ran, hr',
      not_pairLe hb ha (by decide)⟩
  · obtain ⟨world, world', ran, hr', hb, ha⟩ := pairsAlong_some hs
    exact ⟨world, world', Machine.reachable_of_run emptySession_init ran, hr',
      not_pairLe hb ha (by decide)⟩

end PersonalOs.ExclusionPolicy
