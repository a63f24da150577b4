import PersonalOs.ExclusionPolicy.PolicySession

/-!
# The persisted policy cache

`readAcceptedPolicyStateFromRecord` of `policy-cache.ts` over the record as the adapter returns it.
The record repeats two numbers of its envelopes, and the reader copies them out unchecked.
-/

namespace PersonalOs.ExclusionPolicy

open Json ChainLemmas

section Cache

variable (isNormalized : Text → Bool) (sha256 : List UInt8 → Vector UInt8 32)
  (verify : (signature message publicKey : List UInt8) → Bool)

def policyCacheRecordContract : String := "obsidian_exclusion_policy_cache/v1"

/-- The members that `readAcceptedPolicyStateFromRecord` requires, `requireStringMember` and
`requireIntegerMember` among them. -/
def requireCacheMembers (record : ClosedJsonValue) :
    Except PolicyPayloadError AcceptedPolicyState := do
  let candidate ← asObject record
  requireConstant policyCacheRecordContract (ownMember candidate "contract")
  let workspaceId ← requireString (ownMember candidate "workspace_id")
  let keysetSequence ← requireInteger 1 (ownMember candidate "keyset_sequence")
  let revisionNumber ← requireInteger 1 (ownMember candidate "revision_number")
  let keysetEnvelope ← validateKeysetEnvelope ((ownMember candidate "keyset_envelope").getD .null)
  let snapshotEnvelope ←
    validateSnapshotEnvelope ((ownMember candidate "snapshot_envelope").getD .null)
  return { workspaceId, revisionNumber, keysetSequence, keysetEnvelope, snapshotEnvelope }

/-- `readAcceptedPolicyStateFromRecord`, from the stored value on: whatever throws answers null. -/
def readPolicyCacheRecord (record : ClosedJsonValue) : Option AcceptedPolicyState :=
  readAcceptedPolicyStateFromRecord isNormalized sha256 verify
    (requireCacheMembers record).toOption

end Cache

def memberAt : List String → ClosedJsonValue → Option ClosedJsonValue
  | [], value => some value
  | name :: path, .record members => (ownMember members name).bind (memberAt path)
  | _ :: _, _ => none

/-- The outer members of a record say what its envelopes say. -/
def RepeatsEnvelopes (record : ClosedJsonValue) : Prop :=
  memberAt ["revision_number"] record =
      memberAt ["snapshot_envelope", "payload", "revision_number"] record ∧
    memberAt ["keyset_sequence"] record =
      memberAt ["keyset_envelope", "payload", "keyset_revision"] record

namespace CacheLemmas

variable {v : ClosedJsonValue}

theorem requireInteger_member {o : Option ClosedJsonValue} {i : Int}
    (ha : requireInteger 1 o = .ok i) : o = some (.number (.integer i)) := by
  rw [requireInteger.eq_def] at ha
  split at ha
  · split at ha
    · cases ha
    · cases ha
      rfl
  · cases ha
  · cases ha

theorem asObject_ok {r : Record} (ha : asObject v = .ok r) : v = .record r := by
  cases v <;> cases ha
  rfl

theorem memberAt_record (r : Record) (n : String) (p : List String) :
    memberAt (n :: p) (.record r) = (ownMember r n).bind (memberAt p) := rfl

theorem memberAt_getD {r : Record} {n m : String} {p : List String} {x : ClosedJsonValue}
    (ha : memberAt (m :: p) ((ownMember r n).getD .null) = some x) :
    memberAt (n :: m :: p) (.record r) = some x := by
  rw [memberAt_record]
  cases ho : ownMember r n with
  | none =>
    rw [ho] at ha
    cases ha
  | some y => rwa [ho] at ha

theorem validateSnapshotPayload_revision {p : PolicySnapshotPayload}
    (ha : validateSnapshotPayload v = .ok p) :
    memberAt ["revision_number"] v = some (.number (.integer p.revisionNumber)) := by
  obtain ⟨r, hr, ha⟩ := bind_ok ha
  obtain ⟨_, _, ha⟩ := bind_ok ha
  obtain ⟨_, _, ha⟩ := bind_ok ha
  obtain ⟨_, _, ha⟩ := bind_ok ha
  obtain ⟨_, _, ha⟩ := bind_ok ha
  obtain ⟨_, _, ha⟩ := bind_ok ha
  obtain ⟨_, _, ha⟩ := bind_ok ha
  obtain ⟨i, hi, ha⟩ := bind_ok ha
  obtain ⟨_, _, ha⟩ := bind_ok ha
  obtain ⟨_, _, ha⟩ := bind_ok ha
  obtain ⟨_, _, ha⟩ := bind_ok ha
  split at ha
  · cases ha
  · obtain ⟨_, _, ha⟩ := bind_ok ha
    cases ha
    rw [asObject_ok hr, memberAt_record, requireInteger_member hi]
    rfl

theorem validateKeysetPayload_revision {p : PolicyKeysetPayload}
    (ha : validateKeysetPayload v = .ok p) :
    memberAt ["keyset_revision"] v = some (.number (.integer p.keysetRevision)) := by
  obtain ⟨r, hr, ha⟩ := bind_ok ha
  obtain ⟨_, _, ha⟩ := bind_ok ha
  obtain ⟨_, _, ha⟩ := bind_ok ha
  obtain ⟨_, _, ha⟩ := bind_ok ha
  obtain ⟨i, hi, ha⟩ := bind_ok ha
  obtain ⟨_, _, ha⟩ := bind_ok ha
  have hm : memberAt ["keyset_revision"] v = some (.number (.integer i)) := by
    rw [asObject_ok hr, memberAt_record, requireInteger_member hi]
    rfl
  split at ha
  · cases ha
  split at ha
  · cases ha
  obtain ⟨_, _, ha⟩ := bind_ok ha
  obtain ⟨_, _, ha⟩ := bind_ok ha
  split at ha
  · cases ha
  obtain ⟨_, _, ha⟩ := bind_ok ha
  split at ha
  · cases ha
  split at ha
  · cases ha
  split at ha
  · cases ha
  · cases ha
    exact hm

theorem validateSnapshotEnvelope_revision {e : DeviceSnapshotEnvelope}
    (ha : validateSnapshotEnvelope v = .ok e) : memberAt ["payload", "revision_number"] v =
      some (.number (.integer e.payload.revisionNumber)) := by
  obtain ⟨r, hr, ha⟩ := bind_ok ha
  obtain ⟨_, _, ha⟩ := bind_ok ha
  rw [asObject_ok hr, memberAt_record]
  cases ho : ownMember r "payload" with
  | none =>
    rw [ho] at ha
    cases ha
  | some w =>
    rw [ho] at ha
    obtain ⟨p, hp, ha⟩ := bind_ok ha
    obtain ⟨_, _, ha⟩ := bind_ok ha
    suffices he : e.payload = p by
      rw [he]
      exact validateSnapshotPayload_revision hp
    split at ha
    · obtain ⟨_, _, ha⟩ := bind_ok ha
      cases ha
      rfl
    · cases ha

theorem validateKeysetEnvelope_revision {e : DeviceKeysetEnvelope}
    (ha : validateKeysetEnvelope v = .ok e) : memberAt ["payload", "keyset_revision"] v =
      some (.number (.integer e.payload.keysetRevision)) := by
  obtain ⟨r, hr, ha⟩ := bind_ok ha
  obtain ⟨_, _, ha⟩ := bind_ok ha
  obtain ⟨p, hp, ha⟩ := bind_ok ha
  obtain ⟨_, _, ha⟩ := bind_ok ha
  obtain ⟨_, _, ha⟩ := bind_ok ha
  obtain ⟨_, _, ha⟩ := bind_ok ha
  obtain ⟨_, _, ha⟩ := bind_ok ha
  cases ha
  rw [asObject_ok hr]
  exact memberAt_getD (validateKeysetPayload_revision hp)

theorem requireCacheMembers_ok {s : AcceptedPolicyState} (ha : requireCacheMembers v = .ok s) :
    memberAt ["revision_number"] v = some (.number (.integer s.revisionNumber)) ∧
    memberAt ["keyset_sequence"] v = some (.number (.integer s.keysetSequence)) ∧
    memberAt ["snapshot_envelope", "payload", "revision_number"] v =
      some (.number (.integer s.snapshotEnvelope.payload.revisionNumber)) ∧
    memberAt ["keyset_envelope", "payload", "keyset_revision"] v =
      some (.number (.integer s.keysetEnvelope.payload.keysetRevision)) := by
  obtain ⟨r, hr, ha⟩ := bind_ok ha
  obtain ⟨_, _, ha⟩ := bind_ok ha
  obtain ⟨_, _, ha⟩ := bind_ok ha
  obtain ⟨_, hk, ha⟩ := bind_ok ha
  obtain ⟨_, hn, ha⟩ := bind_ok ha
  obtain ⟨_, hke, ha⟩ := bind_ok ha
  obtain ⟨_, hse, ha⟩ := bind_ok ha
  cases ha
  rw [asObject_ok hr]
  refine ⟨?_, ?_, memberAt_getD (validateSnapshotEnvelope_revision hse),
    memberAt_getD (validateKeysetEnvelope_revision hke)⟩
  · rw [memberAt_record, requireInteger_member hn]
    rfl
  · rw [memberAt_record, requireInteger_member hk]
    rfl

variable {isNormalized : Text → Bool} {sha256 : List UInt8 → Vector UInt8 32}
  {verify : (signature message publicKey : List UInt8) → Bool}

theorem members_of_read {s : AcceptedPolicyState}
    (hr : readPolicyCacheRecord isNormalized sha256 verify v = some s) :
    requireCacheMembers v = .ok s := by
  rw [readPolicyCacheRecord, readAcceptedPolicyStateFromRecord.eq_def] at hr
  split at hr
  · cases hr
  · next sd hs =>
    have hm : requireCacheMembers v = .ok sd := by
      cases ho : requireCacheMembers v with
      | error e =>
        rw [ho] at hs
        cases hs
      | ok x =>
        rw [ho] at hs
        cases hs
        rfl
    split at hr
    · cases hr
    split at hr
    · cases hr
    split at hr
    · cases hr
    split at hr
    · cases hr
    · cases hr
      exact hm

end CacheLemmas

open CacheLemmas

section Numbers

variable {isNormalized : Text → Bool} {sha256 : List UInt8 → Vector UInt8 32}
  {verify : (signature message publicKey : List UInt8) → Bool}

/-- For every record that is accepted, the restored numbers are the signed ones if and only if the
outer members repeat them. A later candidate is accepted exactly when it is beyond the number in the
record's own snapshot, and is a downgrade exactly when it is below it, whatever the outer members
say. -/
theorem cached_numbers_iff {record : ClosedJsonValue} {restored : AcceptedPolicyState}
    (accepted : readPolicyCacheRecord isNormalized sha256 verify record = some restored) :
    (restored.IsNumbered ↔ RepeatsEnvelopes record) ∧
    ∃ signed : Int, memberAt ["snapshot_envelope", "payload", "revision_number"] record =
        some (.number (.integer signed)) ∧
      ∀ candidate : DeviceSnapshotEnvelope,
        (resolveSnapshotMonotonicity candidate (some restored.snapshotEnvelope) = .accept ↔
          signed < candidate.payload.revisionNumber) ∧
        (resolveSnapshotMonotonicity candidate (some restored.snapshotEnvelope) = .downgrade ↔
          candidate.payload.revisionNumber < signed) := by
  obtain ⟨revision, sequence, snapshot, keyset⟩ := requireCacheMembers_ok (members_of_read accepted)
  refine ⟨?_, _, snapshot, fun candidate => ?_⟩
  · rw [RepeatsEnvelopes, revision, sequence, snapshot, keyset, AcceptedPolicyState.IsNumbered]
    simp only [Option.some.injEq, ClosedJsonValue.number.injEq, JsNumber.integer.injEq]
  · rw [resolveSnapshotMonotonicity]
    split
    · exact ⟨iff_of_true rfl ‹_›, iff_of_false (by decide) (by omega)⟩
    split
    · exact ⟨iff_of_false (by decide) (by omega), iff_of_true rfl ‹_›⟩
    split
    · exact ⟨iff_of_false (by decide) (by omega), iff_of_false (by decide) (by omega)⟩
    · exact ⟨iff_of_false (by decide) (by omega), iff_of_false (by decide) (by omega)⟩

end Numbers

open PolicySessionLemmas

/-- What the session holds after accepting the sample snapshot. -/
def sampleAccepted : AcceptedPolicyState :=
  PolicyWorld.candidateOf (jsString (uuidText 1)) sampleFirstKeyset (sampleSnapshot 5)

/-- The written record is restored with the signed numbers. -/
theorem cached_numbers_iff_written : ∃ restored,
    readPolicyCacheRecord (fun _ => true) twoKeysSha256 sampleVerify
      (buildPolicyCacheRecord sampleAccepted) = some restored ∧
    (restored.IsNumbered ↔ RepeatsEnvelopes (buildPolicyCacheRecord sampleAccepted)) := by
  have read : (readPolicyCacheRecord (fun _ => true) twoKeysSha256 sampleVerify
      (buildPolicyCacheRecord sampleAccepted)).isSome = true := by
    decide +kernel
  obtain ⟨restored, read⟩ := Option.isSome_iff_exists.mp read
  exact ⟨restored, read, (cached_numbers_iff read).1⟩

/-- A record with another outer revision number is accepted, and restored with that number. -/
theorem tampered_number_restored :
    (readPolicyCacheRecord (fun _ => true) twoKeysSha256 sampleVerify
      (buildPolicyCacheRecord { sampleAccepted with revisionNumber := 9 })).map
        (fun restored => (restored.revisionNumber,
          restored.snapshotEnvelope.payload.revisionNumber)) = some (9, 5) := by
  decide +kernel

end PersonalOs.ExclusionPolicy
