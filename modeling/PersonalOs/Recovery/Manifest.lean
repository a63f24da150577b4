import PersonalOs.ExclusionPolicy.ReadDecisions
import PersonalOs.Recovery.JsonDecoder

/-!
# The recovery manifest

`manifest.py`: the canonical bytes of a bundle's manifest and their strict parser. The parser
reads the fields one by one, each by its own rule, and last requires that what it read encodes to
the bytes it was given.

A parse also takes what `UUID`, `strptime` and `int` take beyond the canonical spelling: other
spellings of a UUID, and decimal digits of other scripts. No encoded manifest has them.
-/

namespace PersonalOs.Recovery

open Json
open ExclusionPolicy (PyString ContentDigest CanonicalMediaType deriveCanonicalObjectKey utf8
  characters)

abbrev Bytes := List UInt8

/-! ## Identifiers -/

def isLowercaseHex (c : Char) : Bool := ('0' ≤ c && c ≤ '9') || ('a' ≤ c && c ≤ 'f')

def isUuidHex (hex : Text) : Bool := hex.length = 32 && hex.all isLowercaseHex

/-- A UUID by its 32 hexadecimal digits. -/
structure BundleId where
  hex : Text
  canonical : isUuidHex hex = true
deriving DecidableEq

/-- `str(uuid)`. -/
def BundleId.text (bundleId : BundleId) : Text :=
  bundleId.hex.take 8 ++ '-' :: ((bundleId.hex.drop 8).take 4 ++ '-' ::
    ((bundleId.hex.drop 12).take 4 ++ '-' :: ((bundleId.hex.drop 16).take 4 ++ '-' ::
      bundleId.hex.drop 20)))

/-- `uuid.version == 7`, which the RFC 4122 variant is part of. -/
def BundleId.isVersion7 (bundleId : BundleId) : Bool :=
  bundleId.hex[12]? = some '7' && bundleId.hex[16]?.any fun c => c ∈ ['8', '9', 'a', 'b']

/-- `text.replace(word, '')`, so many characters ahead. -/
def removeWord (word : Text) : Nat → Text → Text
  | 0, t => t
  | _ + 1, [] => []
  | ahead + 1, c :: t =>
    if word.isPrefixOf (c :: t) then removeWord word ahead ((c :: t).drop word.length)
    else c :: removeWord word ahead t

/-- `text.strip('{}')`. -/
def stripBraces (t : Text) : Text :=
  ((t.dropWhile fun c => c = '{' || c = '}').reverse.dropWhile fun c => c = '{' || c = '}').reverse

/-- The zeros of the decimal digits of all scripts, as code points. -/
def decimalZeros : List Nat :=
  [0x30, 0x660, 0x6F0, 0x7C0, 0x966, 0x9E6, 0xA66, 0xAE6, 0xB66, 0xBE6, 0xC66, 0xCE6, 0xD66, 0xDE6,
    0xE50, 0xED0, 0xF20, 0x1040, 0x1090, 0x17E0, 0x1810, 0x1946, 0x19D0, 0x1A80, 0x1A90, 0x1B50,
    0x1BB0, 0x1C40, 0x1C50, 0xA620, 0xA8D0, 0xA900, 0xA9D0, 0xA9F0, 0xAA50, 0xABF0, 0xFF10, 0x104A0,
    0x10D30, 0x10D40, 0x11066, 0x110F0, 0x11136, 0x111D0, 0x112F0, 0x11450, 0x114D0, 0x11650,
    0x116C0, 0x116D0, 0x116DA, 0x11730, 0x118E0, 0x11950, 0x11BF0, 0x11C50, 0x11D50, 0x11DA0,
    0x11F50, 0x16130, 0x16A60, 0x16AC0, 0x16B50, 0x16D70, 0x1CCF0, 0x1D7CE, 0x1D7D8, 0x1D7E2,
    0x1D7EC, 0x1D7F6, 0x1E140, 0x1E2F0, 0x1E4F0, 0x1E5F1, 0x1E950, 0x1FBF0]

def decimalDigit? (c : Char) : Option Nat :=
  (decimalZeros.find? fun first => first ≤ c.toNat && c.toNat < first + 10).map (c.toNat - ·)

/-- The white space `int` knows beyond ASCII. -/
def isWideSpace (c : Char) : Bool :=
  c.toNat ∈ [0x85, 0xA0, 0x1680, 0x2028, 0x2029, 0x202F, 0x205F, 0x3000] ||
    (0x2000 ≤ c.toNat && c.toNat ≤ 0x200A)

/-- A character as `int` reads it: white space and digits of any script are those of ASCII. -/
def toAscii (c : Char) : Char :=
  if c.toNat < 127 then c
  else if isWideSpace c then ' '
  else ((decimalDigit? c).map Nat.digitChar).getD '?'

def isAsciiSpace (c : Char) : Bool := c = ' ' || (9 ≤ c.toNat && c.toNat ≤ 13)

def isHex (c : Char) : Bool := isLowercaseHex c || ('A' ≤ c && c ≤ 'F')

/-- Hexadecimal digits, single underscores between them; nothing but white space follows. -/
def hexDigits? (t : Text) : Option Text :=
  let body := t.takeWhile fun c => isHex c || c = '_'
  let rest := t.dropWhile fun c => isHex c || c = '_'
  if body ≠ [] ∧ body.head? ≠ some '_' ∧ body.getLast? ≠ some '_' ∧ ¬ ['_', '_'] <:+: body ∧
      rest.all isAsciiSpace then
    some ((body.filter fun c => c ≠ '_').map Char.toLower)
  else none

def skipPlus : Text → Text
  | '+' :: r => r
  | t => t

/-- The prefix of base sixteen, with the underscore it may carry, is passed over. -/
def skipHexPrefix : Text → Text
  | '0' :: 'x' :: '_' :: r | '0' :: 'X' :: '_' :: r => r
  | '0' :: 'x' :: r | '0' :: 'X' :: r => r
  | t => t

/-- The digits of `int(text, 16)` for a text without a minus sign. -/
def intBase16? (t : Text) : Option Text :=
  hexDigits? (skipHexPrefix (skipPlus ((t.map toAscii).dropWhile isAsciiSpace)))

/-- `UUID(text)`. -/
def BundleId.parse (t : Text) : Option BundleId := do
  let t := removeWord "urn:".toList t.length t
  let t := removeWord "uuid:".toList t.length t
  let hex := (stripBraces t).filter fun c => c ≠ '-'
  if hex.length ≠ 32 then none
  else
    let digits ← intBase16? hex
    let padded := List.replicate (32 - digits.length) '0' ++ digits
    if canonical : isUuidHex padded = true then some ⟨padded, canonical⟩ else none

/-! ## Moments -/

/-- The decimal of a number in so many digits. -/
def padded : Nat → Nat → Text
  | 0, _ => []
  | width + 1, n => padded width (n / 10) ++ [(n % 10).digitChar]

def daysIn (year month : Nat) : Nat :=
  if month = 2 then
    if year % 4 = 0 ∧ (year % 100 ≠ 0 ∨ year % 400 = 0) then 29 else 28
  else if month ∈ [4, 6, 9, 11] then 30
  else 31

def isMoment (year month day hour minute second microsecond : Nat) : Bool :=
  1 ≤ year && year ≤ 9999 && 1 ≤ month && month ≤ 12 && 1 ≤ day && day ≤ daysIn year month &&
    hour < 24 && minute < 60 && second < 60 && microsecond < 1000000

/-- A naive `datetime`. -/
structure Timestamp where
  year : Nat
  month : Nat
  day : Nat
  hour : Nat
  minute : Nat
  second : Nat
  microsecond : Nat
  valid : isMoment year month day hour minute second microsecond = true
deriving DecidableEq

def formatManifestTimestamp (moment : Timestamp) : Text :=
  padded 4 moment.year ++ '-' :: (padded 2 moment.month ++ '-' :: (padded 2 moment.day ++ 'T' ::
    (padded 2 moment.hour ++ ':' :: (padded 2 moment.minute ++ ':' :: (padded 2 moment.second ++
      '.' :: (padded 6 moment.microsecond ++ ['Z']))))))

/-- `int` of decimal digits. -/
def decimals? (t : Text) : Option Nat :=
  t.foldlM (fun n c => (decimalDigit? c).map (n * 10 + ·)) 0

/-- The number of so many digits and the text behind them and a separator. -/
def readField (width : Nat) (admits : Text → Bool) (separator : Char) (t : Text) :
    Option (Nat × Text) :=
  if (t.take width).length = width ∧ admits (t.take width) ∧ t[width]? = some separator then
    (decimals? (t.take width)).map (·, t.drop (width + 1))
  else none

def asciiDigits (field : Text) : Bool := field.all Char.isDigit

/-- A `strptime` directive of two digits: the second may be of any script behind these. -/
def twoDigits (free : List Char) (field : Text) : Bool :=
  match field with
  | [a, b] => a.isDigit && (b.isDigit || a ∈ free)
  | _ => false

/-- `_TIMESTAMP_PATTERN` and `strptime`. -/
def Timestamp.parse (t : Text) : Option Timestamp := do
  let (year, t) ← readField 4 (fun _ => true) '-' t
  let (month, t) ← readField 2 asciiDigits '-' t
  let (day, t) ← readField 2 (twoDigits ['1', '2']) 'T' t
  let (hour, t) ← readField 2 (twoDigits ['0', '1']) ':' t
  let (minute, t) ← readField 2 (twoDigits ['0', '1', '2', '3', '4', '5']) ':' t
  let (second, t) ← readField 2 (twoDigits ['0', '1', '2', '3', '4', '5']) '.' t
  let (microsecond, t) ← readField 6 asciiDigits 'Z' t
  if valid : isMoment year month day hour minute second microsecond = true ∧ t = [] then
    some ⟨year, month, day, hour, minute, second, microsecond, valid.1⟩
  else none

/-! ## Contracts -/

inductive RecoveryEnvironment
  | local
  | test
deriving DecidableEq

def RecoveryEnvironment.value : RecoveryEnvironment → Text
  | .local => "local".toList
  | .test => "test".toList

def RecoveryEnvironment.parse (t : Text) : Option RecoveryEnvironment :=
  [RecoveryEnvironment.local, .test].find? fun environment => environment.value = t

inductive ManifestContract
  | v1
  | v2
  | v3
  | v4
deriving DecidableEq

def ManifestContract.token : ManifestContract → Text
  | .v1 => "canonical_core_backup/v1".toList
  | .v2 => "canonical_core_backup/v2".toList
  | .v3 => "canonical_core_backup/v3".toList
  | .v4 => "canonical_core_backup/v4".toList

def ManifestContract.parse (t : Text) : Option ManifestContract :=
  [ManifestContract.v1, .v2, .v3, .v4].find? fun contract => contract.token = t

def postgresqlSchemaRevision : Text := "20260902_02".toList

/-- `_CONTRACT_SCHEMA_REVISIONS`. -/
def ManifestContract.schemaRevision : ManifestContract → Text
  | .v1 => "20260813_01".toList
  | .v2 => "20260818_01".toList
  | .v3 => "20260820_01".toList
  | .v4 => postgresqlSchemaRevision

def v1CanonicalCountTables : List String :=
  ["users", "workspaces", "devices", "content_objects", "sources", "source_versions",
    "sync_events", "projection_intents", "audit_events"]

def policyTables : List String :=
  ["workspace_policy_state", "policy_signing_keys", "policy_keysets", "policy_keyset_signatures",
    "source_policies", "policy_rules", "policy_drafts", "policy_draft_rules", "policy_evaluations",
    "policy_reconciliation_intents", "small_file_upload_operations"]

def authenticationTables : List String :=
  ["user_credentials", "web_sessions", "totp_credentials", "totp_recovery_codes",
    "device_token_families", "device_tokens", "device_authorization_grants",
    "authentication_throttle_buckets"]

def legacyV2CanonicalCountTables : List String := v1CanonicalCountTables ++ policyTables

def v2CanonicalCountTables : List String :=
  v1CanonicalCountTables ++ authenticationTables ++ policyTables

def v3CanonicalCountTables : List String :=
  v2CanonicalCountTables.take 7 ++ ["source_locators", "source_tombstones"] ++
    v2CanonicalCountTables.drop 7

def canonicalCountTables : List String :=
  v3CanonicalCountTables ++ ["device_cursors", "manifest_runs", "manifest_pages",
    "manifest_entry_resolutions", "manifest_actions"]

def ManifestContract.countTableSets : ManifestContract → List (List String)
  | .v1 => [v1CanonicalCountTables]
  | .v2 => [legacyV2CanonicalCountTables, v2CanonicalCountTables]
  | .v3 => [v3CanonicalCountTables]
  | .v4 => [canonicalCountTables]

def maximumObjectSizeBytes : Nat := 104857600

/-! ## The manifest -/

structure ManifestDumpEntry where
  relativePath : Text
  sizeBytes : Nat
  sha256 : Text
deriving DecidableEq

structure ManifestObjectEntry where
  contentSha256 : Text
  objectKey : Text
  sizeBytes : Nat
  mediaType : Text
  relativePath : Text
deriving DecidableEq

/-- The counts are held in the order of their tables' names. -/
structure RecoveryManifest where
  bundleId : BundleId
  createdAt : Timestamp
  sourceEnvironment : RecoveryEnvironment
  postgresqlServerVersion : PyString
  postgresqlSchemaRevision : Text
  postgresDump : ManifestDumpEntry
  canonicalCounts : List (Text × Nat)
  objects : List ManifestObjectEntry
  contract : ManifestContract
deriving DecidableEq

/-- `RecoveryBundleInvalidReason`. -/
inductive BundleInvalidReason
  | contractUnsupported
  | jsonNoncanonical
  | duplicateJsonKey
  | bundleIdInvalid
  | timestampInvalid
  | fieldUnknown
  | fieldInvalid
  | entriesUnsorted
  | digestDuplicate
  | pathKeyMismatch
  | sidecarMissing
  | fileTreeMismatch
  | fileChanged
  | checksumMismatch
deriving DecidableEq

/-- Exceptions of the interpreter that nothing on the way catches. -/
inductive PythonError
  | valueError
  | recursionError
  | unicodeEncodeError
deriving DecidableEq

inductive BundleFailure
  | bundleInvalid (reason : BundleInvalidReason)
  | raised (error : PythonError)
deriving DecidableEq

/-! ## Encoding -/

def ManifestObjectEntry.members (entry : ManifestObjectEntry) : List (Text × Json) :=
  [("content_sha256".toList, .string entry.contentSha256),
    ("media_type".toList, .string entry.mediaType),
    ("object_key".toList, .string entry.objectKey),
    ("relative_path".toList, .string entry.relativePath),
    ("size_bytes".toList, .integer entry.sizeBytes)]

def postgresDumpFormat : Text := "custom".toList

def postgresDumpRelativePath : Text := "postgres.dump".toList

def ManifestDumpEntry.members (dump : ManifestDumpEntry) : List (Text × Json) :=
  [("format".toList, .string postgresDumpFormat),
    ("relative_path".toList, .string dump.relativePath),
    ("sha256".toList, .string dump.sha256),
    ("size_bytes".toList, .integer dump.sizeBytes)]

def countMembers (counts : List (Text × Nat)) : List (Text × Json) :=
  counts.map fun count => (count.1, .integer count.2)

/-- The members of the payload in the order of their names. -/
def RecoveryManifest.members (manifest : RecoveryManifest) (serverVersion : Text) :
    List (Text × Json) :=
  [("bundle_id".toList, .string manifest.bundleId.text),
    ("canonical_counts".toList, .object (countMembers manifest.canonicalCounts)),
    ("contract".toList, .string manifest.contract.token),
    ("created_at".toList, .string (formatManifestTimestamp manifest.createdAt)),
    ("objects".toList, .array (manifest.objects.map fun entry => .object entry.members)),
    ("postgres_dump".toList, .object manifest.postgresDump.members),
    ("postgresql_schema_revision".toList, .string manifest.postgresqlSchemaRevision),
    ("postgresql_server_version".toList, .string serverVersion),
    ("source_environment".toList, .string manifest.sourceEnvironment.value)]

def RecoveryManifest.integers (manifest : RecoveryManifest) : List Nat :=
  manifest.postgresDump.sizeBytes :: manifest.canonicalCounts.map Prod.snd ++
    manifest.objects.map ManifestObjectEntry.sizeBytes

def isWritable (n : Nat) : Bool := (Nat.toDigits 10 n).length ≤ maximumIntegerDigits

def encodeManifest (manifest : RecoveryManifest) : Except PythonError Bytes :=
  if manifest.integers.all isWritable then
    match characters manifest.postgresqlServerVersion with
    | none => .error .unicodeEncodeError
    | some serverVersion => .ok (utf8 (render (.object (manifest.members serverVersion)) ++ ['\n']))
  else .error .valueError

/-! ## Parsing -/

/-- `raw.decode("utf-8")`. -/
def decodeUtf8 (raw : Bytes) : Option Text := raw.toByteArray.utf8Decode?.map Array.toList

/-- `payload[name]`. -/
def member? (members : List (PyString × JsonValue)) (name : String) : Option JsonValue :=
  (members.find? fun m => m.1 = pyString name.toList).map Prod.snd

/-- `frozenset(payload) == names`. -/
def hasExactly (names : List String) (members : List (PyString × JsonValue)) : Bool :=
  (members.all fun m => names.any fun name => m.1 = pyString name.toList) &&
    names.all fun name => members.any fun m => m.1 = pyString name.toList

def string? : Option JsonValue → Option PyString
  | some (.string s) => some s
  | _ => none

/-- The text of a string without surrogates, for the fields whose grammar no surrogate fits. -/
def text? (value : Option JsonValue) : Option Text := (string? value).bind characters

/-- A non-negative integer that is no Boolean. -/
def natural? : Option JsonValue → Option Nat
  | some (.integer (.ofNat n)) => some n
  | _ => none

def manifestKeys : List String :=
  ["bundle_id", "canonical_counts", "contract", "created_at", "objects", "postgres_dump",
    "postgresql_schema_revision", "postgresql_server_version", "source_environment"]

def dumpKeys : List String := ["format", "relative_path", "sha256", "size_bytes"]

def objectKeys : List String :=
  ["content_sha256", "media_type", "object_key", "relative_path", "size_bytes"]

def reject {α : Type} (reason : BundleInvalidReason) : Except BundleFailure α :=
  .error (.bundleInvalid reason)

/-- Go on with a field, or reject it. -/
def require {α : Type} (reason : BundleInvalidReason) : Option α → Except BundleFailure α
  | some value => .ok value
  | none => reject reason

def isLowercaseHex64 (value : Text) : Bool := value.length = 64 && value.all isLowercaseHex

def parseDump (value : Option JsonValue) : Except BundleFailure ManifestDumpEntry := do
  match value with
  | some (.object dump) =>
    if !hasExactly dumpKeys dump then reject .fieldInvalid
    else
      if text? (member? dump "format") ≠ some postgresDumpFormat ∨
          text? (member? dump "relative_path") ≠ some postgresDumpRelativePath then
        reject .fieldInvalid
      else
        let sha256 ← require .fieldInvalid (text? (member? dump "sha256"))
        if !isLowercaseHex64 sha256 then reject .fieldInvalid
        else
          let sizeBytes ← require .fieldInvalid (natural? (member? dump "size_bytes"))
          return ⟨postgresDumpRelativePath, sizeBytes, sha256⟩
  | _ => reject .fieldInvalid

def parseCount (count : PyString × JsonValue) : Except BundleFailure (Text × Nat) := do
  let table ← require .fieldInvalid (characters count.1)
  let tableCount ← require .fieldInvalid (natural? (some count.2))
  return (table, tableCount)

def parseCounts (contract : ManifestContract) (value : Option JsonValue) :
    Except BundleFailure (List (Text × Nat)) := do
  match value with
  | some (.object counts) =>
    if !contract.countTableSets.any (hasExactly · counts) then reject .fieldInvalid
    else
      let counts ← counts.mapM parseCount
      return sortMembers counts
  | _ => reject .fieldInvalid

def parseEntry (value : JsonValue) : Except BundleFailure ManifestObjectEntry := do
  match value with
  | .object item =>
    if !hasExactly objectKeys item then reject .fieldInvalid
    else
      let contentSha256 ← require .fieldInvalid (text? (member? item "content_sha256"))
      let digest ← require .fieldInvalid (ContentDigest.parse contentSha256)
      let objectKey ← require .fieldInvalid (string? (member? item "object_key"))
      let relativePath ← require .fieldInvalid (string? (member? item "relative_path"))
      let derivedKey := deriveCanonicalObjectKey digest
      if relativePath ≠ objectKey ∨ objectKey ≠ pyString derivedKey then reject .pathKeyMismatch
      else
        let mediaType ← require .fieldInvalid (text? (member? item "media_type"))
        let _ ← require .fieldInvalid (CanonicalMediaType.parse mediaType)
        let sizeBytes ← require .fieldInvalid (natural? (member? item "size_bytes"))
        if maximumObjectSizeBytes < sizeBytes then reject .fieldInvalid
        else return ⟨contentSha256, derivedKey, sizeBytes, mediaType, derivedKey⟩
  | _ => reject .fieldInvalid

/-- The entries, each of a greater digest than the one before it. -/
def parseEntries (previous : Option Text) :
    List JsonValue → Except BundleFailure (List ManifestObjectEntry)
  | [] => .ok []
  | value :: values => do
    let entry ← parseEntry value
    if previous.any fun sha256 => entry.contentSha256 = sha256 then reject .digestDuplicate
    else if previous.any fun sha256 => entry.contentSha256 < sha256 then reject .entriesUnsorted
    else
      let entries ← parseEntries (some entry.contentSha256) values
      return entry :: entries

def parseObjects (value : Option JsonValue) : Except BundleFailure (List ManifestObjectEntry) :=
  match value with
  | some (.array values) => parseEntries none values
  | _ => reject .fieldInvalid

def DecodeError.failure : DecodeError → BundleFailure
  | .malformed => .bundleInvalid .jsonNoncanonical
  | .duplicateKey => .bundleInvalid .duplicateJsonKey
  | .integerTooLong => .raised .valueError
  | .tooDeep => .raised .recursionError

/-- The fields of a decoded payload, in the order they are checked. -/
def parseFields (payload : List (PyString × JsonValue)) : Except BundleFailure RecoveryManifest := do
  let contract ← require .contractUnsupported
    ((text? (member? payload "contract")).bind ManifestContract.parse)
  if !hasExactly manifestKeys payload then reject .fieldUnknown
  else
    let bundleId ← require .bundleIdInvalid
      ((text? (member? payload "bundle_id")).bind BundleId.parse)
    if !bundleId.isVersion7 then reject .bundleIdInvalid
    else
      let createdAt ← require .timestampInvalid
        ((text? (member? payload "created_at")).bind Timestamp.parse)
      let sourceEnvironment ← require .fieldInvalid
        ((text? (member? payload "source_environment")).bind RecoveryEnvironment.parse)
      let serverVersion ← require .fieldInvalid
        (string? (member? payload "postgresql_server_version"))
      let schemaRevision ← require .fieldInvalid
        (text? (member? payload "postgresql_schema_revision"))
      if schemaRevision ≠ contract.schemaRevision then reject .fieldInvalid
      else
        let postgresDump ← parseDump (member? payload "postgres_dump")
        let canonicalCounts ← parseCounts contract (member? payload "canonical_counts")
        let objects ← parseObjects (member? payload "objects")
        return { bundleId, createdAt, sourceEnvironment, postgresqlServerVersion := serverVersion,
                 postgresqlSchemaRevision := schemaRevision, postgresDump, canonicalCounts, objects,
                 contract }

def parseManifest (recursionLimit : Nat) (raw : Bytes) :
    Except BundleFailure RecoveryManifest := do
  let text ← require .jsonNoncanonical (decodeUtf8 raw)
  let value ← (loads recursionLimit text).mapError DecodeError.failure
  match value with
  | .object payload =>
    let manifest ← parseFields payload
    let encoded ← (encodeManifest manifest).mapError .raised
    if encoded ≠ raw then reject .jsonNoncanonical
    else return manifest
  | _ => reject .jsonNoncanonical

theorem mapError_ok {ε δ α : Type} {x : Except ε α} {f : ε → δ} {a : α} :
    x.mapError f = .ok a ↔ x = .ok a := by
  cases x <;> simp [Except.mapError]

end PersonalOs.Recovery
