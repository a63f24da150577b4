import PersonalOs.Basis.TextCodecs
import PersonalOs.ExclusionPolicy.StrictJson
import PersonalOs.ExclusionPolicy.Evaluation

/-!
# The payload schemas of the plugin

`snapshot.ts` and `keyset.ts`: the closed schemas of a snapshot payload and of a keyset payload.
A payload is validated from a parsed value by its own members; the record that is returned is laid
out anew, except for the rules, which are the parsed objects themselves. The names and bounds are
those of `signatures.py` on the server.
-/

namespace PersonalOs.ExclusionPolicy

open Json TextCodecs

/-! ## Constants -/

/-- `str` of a UUID. -/
def uuidText (id : Uuid) : Text :=
  let hex := fixedDigits 16 32 id
  hex.take 8 ++ '-' :: (hex.drop 8).take 4 ++ '-' :: (hex.drop 12).take 4 ++
    '-' :: (hex.drop 16).take 4 ++ '-' :: hex.drop 20

/-- `SNAPSHOT_PAYLOAD_CONTRACT`, `KEYSET_PAYLOAD_CONTRACT`, `SIGNATURE_ALGORITHM`,
`KEY_ID_PREFIX`. -/
def snapshotPayloadContract : String := "exclusion_policy_snapshot/v1"
def keysetPayloadContract : String := "exclusion_policy_keyset/v1"
def signatureAlgorithm : String := "Ed25519"
def keyIdPrefix : String := "ed25519-sha256-"

def evaluatorContract : String := "exclusion_policy_evaluator/v1"

inductive PolicyKeysetState
  | current | staged | retired
deriving DecidableEq

def PolicyKeysetState.value : PolicyKeysetState → String
  | .current => "current"
  | .staged => "staged"
  | .retired => "retired"

/-- `ED25519_PUBLIC_KEY_BYTES`, `KEYSET_MAXIMUM_NON_RETIRED_KEYS`. -/
def ed25519PublicKeyBytes : Nat := 32
def keysetMaximumNonRetiredKeys : Nat := 4

inductive PolicyPayloadError
  | policyPayloadSchemaInvalid
  | policyKeysetRevisionInvalid
  | policyKeysetKeyInvalid
  | policyKeysetCurrentInvalid
deriving DecidableEq

def jsName (name : String) : JsString := jsString name.toList

/-! ## Patterns -/

/-- A pattern of one class for each unit, anchored at both ends. -/
def matchesPattern : List (UInt16 → Bool) → JsString → Bool
  | [], [] => true
  | cls :: pattern, u :: s => cls u && matchesPattern pattern s
  | _, _ => false

/-- `[0-9a-f]`. -/
def isLowerHexUnit (u : UInt16) : Bool := isDigitUnit u || (unit 'a' ≤ u && u ≤ unit 'f')

def isUnit (c : Char) (u : UInt16) : Bool := u = unit c

def uuidPattern : List (UInt16 → Bool) :=
  List.replicate 8 isLowerHexUnit ++ isUnit '-' :: List.replicate 4 isLowerHexUnit ++
    isUnit '-' :: List.replicate 4 isLowerHexUnit ++ isUnit '-' :: List.replicate 4 isLowerHexUnit ++
      isUnit '-' :: List.replicate 12 isLowerHexUnit

def timestampPattern : List (UInt16 → Bool) :=
  List.replicate 4 isDigitUnit ++ isUnit '-' :: List.replicate 2 isDigitUnit ++
    isUnit '-' :: List.replicate 2 isDigitUnit ++ isUnit 'T' :: List.replicate 2 isDigitUnit ++
      isUnit ':' :: List.replicate 2 isDigitUnit ++ isUnit ':' :: List.replicate 2 isDigitUnit ++
        isUnit '.' :: List.replicate 6 isDigitUnit ++ [isUnit 'Z']

def hexSha256Pattern : List (UInt16 → Bool) := List.replicate 64 isLowerHexUnit

/-- `[A-Za-z0-9_-]`. -/
def isBase64UrlUnit (u : UInt16) : Bool :=
  (unit 'A' ≤ u && u ≤ unit 'Z') || (unit 'a' ≤ u && u ≤ unit 'z') || isDigitUnit u ||
    u = unit '_' || u = unit '-'

/-- `BASE64URL_PATTERN`. -/
def isBase64Url (s : JsString) : Bool := s ≠ [] && s.all isBase64UrlUnit

def isWellFormedEd25519KeyId (keyId : JsString) : Bool :=
  (jsName keyIdPrefix).isPrefixOf keyId &&
    keyId.length = (jsName keyIdPrefix).length + 43 &&
      isBase64Url (keyId.drop (jsName keyIdPrefix).length)

/-! ## Members -/

/-- The own members of an object. -/
abbrev Record := List (JsString × ClosedJsonValue)

def asObject : ClosedJsonValue → Except PolicyPayloadError Record
  | .record members => .ok members
  | _ => .error .policyPayloadSchemaInvalid

/-- `value[name]` for an own member; none where there is none. -/
def ownMember (value : Record) (name : String) : Option ClosedJsonValue :=
  (value.find? fun m => m.1 = jsName name).map Prod.snd

def requireExactMembers (value : Record) (expected : List String) :
    Except PolicyPayloadError Unit :=
  if (value.map Prod.fst).all (fun name => name ∈ expected.map jsName) &&
      expected.all fun name => jsName name ∈ value.map Prod.fst then .ok ()
  else .error .policyPayloadSchemaInvalid

def requireString : Option ClosedJsonValue → Except PolicyPayloadError JsString
  | some (.string value) => .ok value
  | _ => .error .policyPayloadSchemaInvalid

/-- `typeof value === "number" && Number.isInteger(value)`, with the value compared to a least one. -/
def requireInteger (minimum : Int) : Option ClosedJsonValue → Except PolicyPayloadError Int
  | some (.number (.integer value)) =>
    if value < minimum then .error .policyPayloadSchemaInvalid else .ok value
  | some (.number .negativeZero) =>
    if 0 < minimum then .error .policyPayloadSchemaInvalid else .ok 0
  | _ => .error .policyPayloadSchemaInvalid

/-- A string that a pattern matches. -/
def requirePattern (pattern : List (UInt16 → Bool)) (value : Option ClosedJsonValue) :
    Except PolicyPayloadError JsString := do
  let text ← requireString value
  if matchesPattern pattern text then return text else .error .policyPayloadSchemaInvalid

/-- A member that must be one string. -/
def requireConstant (expected : String) (value : Option ClosedJsonValue) :
    Except PolicyPayloadError Unit := do
  let text ← requireString value
  if text = jsName expected then return else .error .policyPayloadSchemaInvalid

/-- `null`, or what is required of another value. -/
def requireNullable {α : Type} (require : Option ClosedJsonValue → Except PolicyPayloadError α) :
    Option ClosedJsonValue → Except PolicyPayloadError (Option α)
  | some .null => .ok none
  | value => (require value).map some

/-- `Array.isArray`. -/
def requireArray : Option ClosedJsonValue → Except PolicyPayloadError (List ClosedJsonValue)
  | some (.array elements) => .ok elements
  | _ => .error .policyPayloadSchemaInvalid

/-! ## Snapshots -/

/-- `OPERAND_BY_KIND`, by the kind's name. -/
def operandByKind (ruleKind : JsString) : Option String :=
  if ruleKind = jsName "exact_source_id" then some "source_id"
  else if ruleKind = jsName "folder_prefix" then some "folder_prefix"
  else if ruleKind = jsName "path_glob" then some "path_glob"
  else if ruleKind = jsName "extension" then some "extension"
  else if ruleKind = jsName "media_type" then some "media_type"
  else if ruleKind = jsName "maximum_size" then some "maximum_size_bytes"
  else if ruleKind = jsName "source_type" then some "source_type"
  else none

/-- `validateRule`; the rule is the parsed object. -/
def validateRule (value : ClosedJsonValue) : Except PolicyPayloadError Record := do
  let rule ← asObject value
  if rule.length ≠ 3 then .error .policyPayloadSchemaInvalid
  else
    let _ ← requirePattern uuidPattern (ownMember rule "rule_id")
    let ruleKind ← requireString (ownMember rule "rule_kind")
    match operandByKind ruleKind with
    | none => .error .policyPayloadSchemaInvalid
    | some operandName =>
      requireExactMembers rule ["rule_id", "rule_kind", operandName]
      if operandName = "maximum_size_bytes" then
        let _ ← requireInteger 0 (ownMember rule operandName)
        return rule
      else
        let _ ← requireString (ownMember rule operandName)
        return rule

structure PolicySnapshotPayload where
  workspaceId : JsString
  policyRevisionId : JsString
  revisionNumber : Int
  parentPolicyRevisionId : Option JsString
  publishedAt : JsString
  evaluatorContractSha256 : JsString
  rules : List Record

def validateSnapshotPayload (value : ClosedJsonValue) :
    Except PolicyPayloadError PolicySnapshotPayload := do
  let payload ← asObject value
  requireExactMembers payload ["contract", "workspace_id", "policy_revision_id",
    "revision_number", "parent_policy_revision_id", "published_at", "default_decision",
    "evaluator_contract_sha256", "rules"]
  requireConstant snapshotPayloadContract (ownMember payload "contract")
  requireConstant "allowed" (ownMember payload "default_decision")
  let workspaceId ← requirePattern uuidPattern (ownMember payload "workspace_id")
  let policyRevisionId ← requirePattern uuidPattern (ownMember payload "policy_revision_id")
  let parentPolicyRevisionId ← requireNullable (requirePattern uuidPattern)
    (ownMember payload "parent_policy_revision_id")
  let revisionNumber ← requireInteger 1 (ownMember payload "revision_number")
  let publishedAt ← requirePattern timestampPattern (ownMember payload "published_at")
  let evaluatorContractSha256 ←
    requirePattern hexSha256Pattern (ownMember payload "evaluator_contract_sha256")
  let elements ← requireArray (ownMember payload "rules")
  if maximumRulesPerRevision < elements.length then .error .policyPayloadSchemaInvalid
  else
    let rules ← elements.mapM validateRule
    return { workspaceId, policyRevisionId, revisionNumber, parentPolicyRevisionId, publishedAt,
             evaluatorContractSha256, rules }

/-- The object literal of a validated snapshot payload. -/
def PolicySnapshotPayload.toValue (payload : PolicySnapshotPayload) : ClosedJsonValue :=
  .record [
    (jsName "contract", .string (jsName snapshotPayloadContract)),
    (jsName "workspace_id", .string payload.workspaceId),
    (jsName "policy_revision_id", .string payload.policyRevisionId),
    (jsName "revision_number", .number (.integer payload.revisionNumber)),
    (jsName "parent_policy_revision_id", payload.parentPolicyRevisionId.elim .null .string),
    (jsName "published_at", .string payload.publishedAt),
    (jsName "default_decision", .string (jsName "allowed")),
    (jsName "evaluator_contract_sha256", .string payload.evaluatorContractSha256),
    (jsName "rules", .array (payload.rules.map .record))]

/-! ## Keysets -/

/-- `KEY_STATES`. -/
def parseKeyState (state : JsString) : Option PolicyKeysetState :=
  [PolicyKeysetState.current, .staged, .retired].find? fun s => jsName s.value = state

structure PolicyKeysetKeyPayload where
  keyId : JsString
  publicKey : JsString
  state : PolicyKeysetState
deriving DecidableEq

def validateKeyMember (value : ClosedJsonValue) :
    Except PolicyPayloadError PolicyKeysetKeyPayload := do
  let member ← asObject value
  requireExactMembers member ["algorithm", "key_id", "public_key", "state"]
  requireConstant signatureAlgorithm (ownMember member "algorithm")
  let keyId ← requireString (ownMember member "key_id")
  if ¬isWellFormedEd25519KeyId keyId then .error .policyPayloadSchemaInvalid
  else
    let publicKey ← requireString (ownMember member "public_key")
    if publicKey.length ≠ 43 ∨ ¬isBase64Url publicKey then .error .policyPayloadSchemaInvalid
    else
      let state ← requireString (ownMember member "state")
      match parseKeyState state with
      | none => .error .policyPayloadSchemaInvalid
      | some state => return { keyId, publicKey, state }

structure PolicyKeysetPayload where
  workspaceId : JsString
  keysetRevision : Int
  parentKeysetRevision : Option Int
  createdAt : JsString
  keys : List PolicyKeysetKeyPayload
deriving DecidableEq

def validateKeysetPayload (value : ClosedJsonValue) :
    Except PolicyPayloadError PolicyKeysetPayload := do
  let payload ← asObject value
  requireExactMembers payload ["contract", "workspace_id", "keyset_revision",
    "parent_keyset_revision", "created_at", "keys"]
  requireConstant keysetPayloadContract (ownMember payload "contract")
  let workspaceId ← requirePattern uuidPattern (ownMember payload "workspace_id")
  let keysetRevision ← requireInteger 1 (ownMember payload "keyset_revision")
  let parentKeysetRevision ←
    requireNullable (requireInteger 1) (ownMember payload "parent_keyset_revision")
  if keysetRevision = 1 ∧ parentKeysetRevision ≠ none then .error .policyKeysetRevisionInvalid
  else if 1 < keysetRevision ∧ parentKeysetRevision ≠ some (keysetRevision - 1) then
    .error .policyKeysetRevisionInvalid
  else
    let createdAt ← requirePattern timestampPattern (ownMember payload "created_at")
    let elements ← requireArray (ownMember payload "keys")
    if elements = [] then .error .policyPayloadSchemaInvalid
    else
      let keys ← elements.mapM validateKeyMember
      if ¬(keys.map PolicyKeysetKeyPayload.keyId).Nodup then .error .policyKeysetKeyInvalid
      else if keys.countP (·.state = .current) ≠ 1 then .error .policyKeysetCurrentInvalid
      else if keysetMaximumNonRetiredKeys < keys.countP (·.state ≠ .retired) then
        .error .policyKeysetKeyInvalid
      else return { workspaceId, keysetRevision, parentKeysetRevision, createdAt, keys }

/-- The object literal of a validated key. -/
def PolicyKeysetKeyPayload.toValue (key : PolicyKeysetKeyPayload) : ClosedJsonValue :=
  .record [
    (jsName "algorithm", .string (jsName signatureAlgorithm)),
    (jsName "key_id", .string key.keyId),
    (jsName "public_key", .string key.publicKey),
    (jsName "state", .string (jsName key.state.value))]

/-- The object literal of a validated keyset payload. -/
def PolicyKeysetPayload.toValue (payload : PolicyKeysetPayload) : ClosedJsonValue :=
  .record [
    (jsName "contract", .string (jsName keysetPayloadContract)),
    (jsName "workspace_id", .string payload.workspaceId),
    (jsName "keyset_revision", .number (.integer payload.keysetRevision)),
    (jsName "parent_keyset_revision",
      payload.parentKeysetRevision.elim .null fun parent => .number (.integer parent)),
    (jsName "created_at", .string payload.createdAt),
    (jsName "keys", .array (payload.keys.map PolicyKeysetKeyPayload.toValue))]

end PersonalOs.ExclusionPolicy
