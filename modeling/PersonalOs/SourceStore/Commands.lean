import Mathlib

/-!
# Source store: identifiers and commands

The validated commands the three canonical stores execute: publication (create and
update), lifecycle (rename, move, delete, restore) and conflict (capture and resolve).
A lifecycle command carries the proof of its operation's shape, as the constructor of the
source checks it, so no store ever meets a malformed one.
-/

namespace PersonalOs.SourceStore

/-- A UUID, as the 128-bit number it is. -/
abbrev Uuid := Nat

abbrev WorkspaceId := Uuid
abbrev DeviceId := Uuid
abbrev SourceId := Uuid
abbrev EventId := Uuid
abbrev SourceVersionId := Uuid
abbrev ContentObjectId := Uuid
abbrev SourceLocatorId := Uuid
abbrev SourceTombstoneId := Uuid
abbrev ConflictId := Uuid
abbrev ManifestRunId := Uuid

/-- `uuid.bytes`: the sixteen bytes, most significant first. -/
def Uuid.bytes (id : Uuid) : List UInt8 :=
  (List.range 16).map fun i => UInt8.ofNat (id / 256 ^ (15 - i))

abbrev IdempotencyKey := String

/-- A normalized Vault path. -/
abbrev NormalizedLocator := String

/-- The lowercase hexadecimal SHA-256 of a canonical request envelope. -/
abbrev RequestFingerprint := String

/-! ## Publication -/

structure VerifiedObjectReceipt where
  contentDigest : String
  objectKey : String
  sizeBytes : Nat
  mediaType : String
deriving DecidableEq

inductive ActorKind
  | user
  | device
  | system
deriving DecidableEq

structure SourceActor where
  actorKind : ActorKind
  actorId : Option Uuid
deriving DecidableEq

def SourceActor.deviceId (actor : SourceActor) : Option DeviceId :=
  if actor.actorKind = .device then actor.actorId else none

structure CreateSourceVersion where
  workspaceId : WorkspaceId
  sourceId : SourceId
  eventId : EventId
  idempotencyKey : IdempotencyKey
  sourceType : String
  title : String
  actor : SourceActor
  expectedObject : VerifiedObjectReceipt
  clientTimestamp : Option Nat
  initialLocator : Option NormalizedLocator
deriving DecidableEq

structure UpdateSourceVersion where
  workspaceId : WorkspaceId
  sourceId : SourceId
  eventId : EventId
  idempotencyKey : IdempotencyKey
  baseVersionId : SourceVersionId
  actor : SourceActor
  expectedObject : VerifiedObjectReceipt
  clientTimestamp : Option Nat
deriving DecidableEq

inductive SourceVersionCommand
  | create (command : CreateSourceVersion)
  | update (command : UpdateSourceVersion)
deriving DecidableEq

namespace SourceVersionCommand

def workspaceId : SourceVersionCommand → WorkspaceId
  | .create c => c.workspaceId
  | .update c => c.workspaceId

def sourceId : SourceVersionCommand → SourceId
  | .create c => c.sourceId
  | .update c => c.sourceId

def eventId : SourceVersionCommand → EventId
  | .create c => c.eventId
  | .update c => c.eventId

def idempotencyKey : SourceVersionCommand → IdempotencyKey
  | .create c => c.idempotencyKey
  | .update c => c.idempotencyKey

def actor : SourceVersionCommand → SourceActor
  | .create c => c.actor
  | .update c => c.actor

def receipt : SourceVersionCommand → VerifiedObjectReceipt
  | .create c => c.expectedObject
  | .update c => c.expectedObject

end SourceVersionCommand

/-- `_request_envelope`: the members of a publication that its fingerprint covers. The
contract version and the command kind follow from the constructor and the locator. -/
inductive RequestEnvelope
  | create (workspaceId : WorkspaceId) (sourceId : SourceId) (eventId : EventId)
      (actor : SourceActor) (contentSha256 : String) (contentSizeBytes : Nat)
      (mediaType : String) (clientTimestamp : Option Nat) (sourceType title : String)
      (initialLocator : Option NormalizedLocator)
  | update (workspaceId : WorkspaceId) (sourceId : SourceId) (eventId : EventId)
      (actor : SourceActor) (contentSha256 : String) (contentSizeBytes : Nat)
      (mediaType : String) (clientTimestamp : Option Nat) (baseVersionId : SourceVersionId)
deriving DecidableEq

def requestEnvelope : SourceVersionCommand → RequestEnvelope
  | .create c =>
    .create c.workspaceId c.sourceId c.eventId c.actor c.expectedObject.contentDigest
      c.expectedObject.sizeBytes c.expectedObject.mediaType c.clientTimestamp c.sourceType c.title
      c.initialLocator
  | .update c =>
    .update c.workspaceId c.sourceId c.eventId c.actor c.expectedObject.contentDigest
      c.expectedObject.sizeBytes c.expectedObject.mediaType c.clientTimestamp c.baseVersionId

/-! ## Lifecycle -/

inductive LifecycleOperation
  | rename
  | move
  | delete
  | restore
deriving DecidableEq

/-- The workspace and device a lifecycle request's credential names. -/
structure LifecycleDeviceContext where
  workspaceId : WorkspaceId
  deviceId : DeviceId
deriving DecidableEq

/-- `_validate_operation_shape`: which operands an operation carries. -/
def operationShape (operation : LifecycleOperation)
    (expectedLocator targetLocator : Option NormalizedLocator)
    (tombstoneId : Option SourceTombstoneId) : Bool :=
  (match operation with
    | .rename | .move => expectedLocator.isSome && targetLocator.isSome && tombstoneId.isNone
    | .delete => expectedLocator.isSome && targetLocator.isNone && tombstoneId.isNone
    | .restore => expectedLocator.isNone && targetLocator.isSome && tombstoneId.isSome) &&
  (expectedLocator.isNone || targetLocator.isNone || expectedLocator != targetLocator)

structure SourceLifecycleCommand where
  sourceId : SourceId
  eventId : EventId
  idempotencyKey : IdempotencyKey
  operation : LifecycleOperation
  expectedVersionId : SourceVersionId
  expectedLocator : Option NormalizedLocator
  targetLocator : Option NormalizedLocator
  tombstoneId : Option SourceTombstoneId
  policyRevision : Nat
  clientTimestamp : Option Nat
  shape : operationShape operation expectedLocator targetLocator tombstoneId = true
deriving DecidableEq

/-! ## Conflict -/

inductive ConflictKind
  | staleContent
  | editRemoteDelete
  | deleteRemoteEdit
  | locatorCollision
deriving DecidableEq

inductive ConflictResolutionKind
  | keepRemote
  | keepLocal
  | saveMerged
deriving DecidableEq

/-- One conflict's retained local evidence: a content candidate names its verified object, a
delete candidate names none. -/
inductive ConflictCandidate
  | content (verifiedCandidateObjectId : ContentObjectId)
  | delete
deriving DecidableEq

/-- `validate_candidate_for_kind` with the source and locator rules of the capture command. -/
def captureShape (conflictKind : ConflictKind) (candidate : ConflictCandidate)
    (sourceId : Option SourceId) (normalizedLocator : Option NormalizedLocator) : Bool :=
  (match conflictKind, candidate with
    | .staleContent, .delete | .editRemoteDelete, .delete | .deleteRemoteEdit, .content _ => false
    | _, _ => true) &&
  (if conflictKind = .locatorCollision then normalizedLocator.isSome else sourceId.isSome)

structure CaptureConflictCommand where
  workspaceId : WorkspaceId
  sourceId : Option SourceId
  conflictKind : ConflictKind
  originatingEventId : EventId
  originatingDeviceId : DeviceId
  idempotencyKey : IdempotencyKey
  baseVersionId : Option SourceVersionId
  observedRemoteVersionId : Option SourceVersionId
  candidate : ConflictCandidate
  normalizedLocator : Option NormalizedLocator
  shape : captureShape conflictKind candidate sourceId normalizedLocator = true
deriving DecidableEq

/-- Only a merged result brings a candidate object of its own. -/
structure ResolveConflictCommand where
  conflictId : ConflictId
  reviewedRemoteVersionId : Option SourceVersionId
  resolutionKind : ConflictResolutionKind
  resolutionEventId : EventId
  idempotencyKey : IdempotencyKey
  verifiedCandidateObjectId : Option ContentObjectId
  shape : verifiedCandidateObjectId.isSome = (resolutionKind == .saveMerged)
deriving DecidableEq

end PersonalOs.SourceStore
