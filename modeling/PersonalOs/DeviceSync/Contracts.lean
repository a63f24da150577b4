import Mathlib

/-!
# Device sync: the shared vocabulary

The closed vocabularies of the plugin's device-sync lane and of the server's
device event store: event operations, apply states, terminal outcomes, closed
reasons, fingerprints and the two cursor records.
-/

namespace PersonalOs.DeviceSync

/-- A normalized Vault path. -/
abbrev Locator := String

/-- Content evidence: digest, byte size and media type travel together. -/
structure Fingerprint where
  sha256 : String
  sizeBytes : Nat
  mediaType : String
deriving DecidableEq

/-- `SHA256_HEX_PATTERN`: `/^[0-9a-f]{64}$/`. -/
def isSha256Hex (value : String) : Bool :=
  value.toList.length == 64 &&
    value.toList.all fun digit => ('0' ≤ digit && digit ≤ '9') || ('a' ≤ digit && digit ≤ 'f')

/-- `DEVICE_SYNC_EVENT_OPERATIONS`: the operations a device can be told about. -/
inductive DeviceEventOperation
  | created
  | updated
  | renamed
  | moved
  | deleted
  | restored
deriving DecidableEq

/-- `DEVICE_SYNC_REMOTE_APPLY_STATES`: the durable lattice of one apply. -/
inductive RemoteApplyState
  | prepared
  | tempVerified
  | vaultMutated
  | locallyApplied
  | serverAcknowledged
deriving DecidableEq

/-- `TERMINAL_DEVICE_EVENT_OUTCOMES`. -/
inductive TerminalOutcome
  | applied
  | selfOriginNoOp
  | conflict
  | tombstoneHandled
  | excluded
deriving DecidableEq

/-- The closed reasons of the device-sync lane that the modelled code produces. -/
inductive DeviceSyncReason
  | deviceCursorGap
  | deviceCursorRegression
  | deviceCursorAckAhead
  | deviceEventUnavailable
  | deviceEventIntegrityFailed
  | deviceManifestExpired
  | deviceManifestStateInvalid
  | deviceManifestPageInvalid
  | deviceManifestPageReplayMismatch
  | deviceManifestDigestMismatch
  | deviceManifestPolicyAdvanced
  | deviceManifestIdentityAmbiguous
  | deviceManifestLocalDiverged
  | deviceManifestTargetOccupied
  | deviceManifestActionStale
  | deviceManifestPolicyExcluded
  | deviceDownloadIntegrityFailed
  | deviceSyncDependencyUnavailable
  | deviceApplyTrashFailed
  | deviceApplyVaultFailed
  | deviceApplyRecoveryAbandoned
  | deviceApplyRecoveryAmbiguous
  | journalMutationFailed
  | networkOffline
  | serverError
deriving DecidableEq

structure DeviceSyncEvent where
  eventId : Nat
  eventSequence : Nat
  operation : DeviceEventOperation
  sourceId : Nat
  originDeviceId : Option Nat
  baseVersionId : Option Nat
  currentVersionId : Option Nat
  baseFingerprint : Option Fingerprint
  currentFingerprint : Option Fingerprint
  priorLocator : Option Locator
  resultingLocator : Option Locator
  tombstoneId : Option Nat
deriving DecidableEq

end PersonalOs.DeviceSync
