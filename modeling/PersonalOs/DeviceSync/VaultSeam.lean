import PersonalOs.Basis.CallPrograms
import PersonalOs.DeviceSync.ManifestActions

/-!
# The Vault as the device-sync lane reaches it

`VaultMutationSeam` and the naming of the hidden siblings. The seam is bound to the Vault and its
data adapter, which are not part of the repository: whether a rename onto an occupied locator
replaces the file or throws is left open, and so are the hash and the texts of the staging tokens.
-/

namespace PersonalOs.DeviceSync

open CallPrograms

/-- `DEVICE_SYNC_APPLY_STAGES`. -/
inductive ApplyFailureStage
  | prepare
  | download
  | verifyTemp
  | vaultMutation
  | verifyFinal
  | localCommit
  | recovery
  | trash
deriving DecidableEq

/-- `AtomicVaultMutationStage`: where the mutation discipline refused. -/
inductive AtomicVaultMutationStage
  | stage
  | verifyStaged
  | proveBase
  | replace
  | verifyFinal
deriving DecidableEq

/-- What the code under the applier throws. -/
inductive Thrown
  /-- A raw error of the Vault or its adapter. -/
  | vault
  /-- A `JournalStoreError`. -/
  | store (reason : DeviceSyncReason)
  /-- An `AtomicVaultMutationFailure`. -/
  | mutation (refusedAt : AtomicVaultMutationStage) (restoredToBase : Bool)
  /-- An `AtomicVaultWriterError`. -/
  | writer (stage : ApplyFailureStage) (reason : DeviceSyncReason) (retryable : Bool)
      (restoredToBase : Bool)
  /-- A `DeviceSyncApiError`. -/
  | api (failure : ClosedFailure)
deriving DecidableEq

/-! ## The sibling naming -/

/-- Everything up to the last slash, and the slash. -/
def parentPrefixOf (locator : Locator) : List Char :=
  (locator.toList.reverse.dropWhile (· != '/')).reverse

def baseNameOf (locator : Locator) : List Char :=
  (locator.toList.reverse.takeWhile (· != '/')).reverse

/-- A hidden name in the directory of the target. -/
def buildSiblingLocator (kind : String) (targetLocator : Locator) (token : String) : Locator :=
  String.ofList <|
    parentPrefixOf targetLocator ++ '.' :: baseNameOf targetLocator ++
      '.' :: kind.toList ++ '-' :: token.toList

/-- `notes/.a.md.device-sync-tmp-<token>`: the staged bytes. -/
def buildTempSiblingLocator : Locator → String → Locator :=
  buildSiblingLocator "device-sync-tmp"

/-- The sibling that holds the old bytes. -/
def buildRollbackSiblingLocator : Locator → String → Locator :=
  buildSiblingLocator "device-sync-rb"

section Naming

variable {kind : String} {target : Locator} {token : String}

theorem parentPrefixOf_append_baseNameOf (target : Locator) : parentPrefixOf target ++ baseNameOf target =
    target.toList := by
  simp [parentPrefixOf, baseNameOf, ← List.reverse_append]

theorem buildSiblingLocator_length : (buildSiblingLocator kind target token).toList.length =
    target.toList.length + kind.toList.length + token.toList.length + 3 := by
  have hp := congrArg List.length (parentPrefixOf_append_baseNameOf target)
  simp only [List.length_append] at hp
  simp only [buildSiblingLocator, String.toList_ofList, List.length_append, List.length_cons]
  omega

theorem buildSiblingLocator_ne : buildSiblingLocator kind target token ≠ target := by
  intro he
  have hl : (buildSiblingLocator kind target token).toList.length = _ :=
    buildSiblingLocator_length
  rw [he] at hl
  omega

@[simp] theorem siblings_ne :
    buildTempSiblingLocator target token ≠ buildRollbackSiblingLocator target token := by
  intro he
  have hl := congrArg (·.toList.length) he
  simp only [buildTempSiblingLocator, buildRollbackSiblingLocator, buildSiblingLocator_length] at hl
  have hk : "device-sync-tmp".toList.length = "device-sync-rb".toList.length + 1 := rfl
  omega

end Naming

/-! ## The seam -/

/-- What the Vault's platform settles: how bytes are measured and hashed, how an event id reads as
a staging token, and whether a rename replaces an occupied locator. -/
structure VaultPlatform (Bytes : Type) where
  byteLength : Bytes → Nat
  sha256Hex : Bytes → String
  tokenText : Nat → String
  renameReplaces : Bool

/-- The Vault, the durable repository and the diagnostics. -/
structure VaultWorld (Bytes : Type) where
  files : Locator → Option Bytes
  /-- Whether the calls of the Vault throw at the moment. -/
  failing : Bool
  repository : DeviceSyncRepository
  observations : List (ApplyFailureStage × DeviceSyncReason)
  /-- History: what somebody else placed last at the locator that is watched. No call reads it. -/
  foreign : Option Bytes

/-- The place of a call in the code, where a condition on a run speaks of it. -/
inductive CallPlace
  /-- The read of the target that decides whether there are old bytes to keep. -/
  | proveBase
  /-- A rename of the replace, or of its resumption. -/
  | replace
  | elsewhere
deriving DecidableEq

/-- The code under the applier. -/
abbrev VaultRoutine (Bytes Locals α : Type) :=
  Routine (VaultWorld Bytes) CallPlace Locals Thrown α

namespace VaultWorld

variable {Bytes : Type}

def withFile (w : VaultWorld Bytes) (locator : Locator) (content : Option Bytes) :
    VaultWorld Bytes :=
  { w with files := Function.update w.files locator content }

def rename (w : VaultWorld Bytes) (fromLocator toLocator : Locator) : VaultWorld Bytes :=
  (w.withFile fromLocator none).withFile toLocator (w.files fromLocator)

/-- Whether a rename goes through: there is a file to rename, and no other in the way. -/
def canRename (w : VaultWorld Bytes) (platform : VaultPlatform Bytes)
    (fromLocator toLocator : Locator) : Bool :=
  !w.failing && (w.files fromLocator).isSome &&
    (platform.renameReplaces || (w.files toLocator).isNone)

end VaultWorld

/-- The seam the writer drives. Nothing in it deletes for good. -/
structure VaultMutationSeam (Bytes Locals : Type) where
  createFile : CallPlace → Locator → Bytes → VaultRoutine Bytes Locals Unit
  readBytes : CallPlace → Locator → VaultRoutine Bytes Locals (Option Bytes)
  renameLocator : CallPlace → Locator → Locator → VaultRoutine Bytes Locals Unit
  trashLocator : CallPlace → Locator → VaultRoutine Bytes Locals Unit
  locatorExists : CallPlace → Locator → VaultRoutine Bytes Locals Bool

variable {Bytes Locals : Type}

def vaultCall {α : Type} (place : CallPlace) (goes : VaultWorld Bytes → Bool)
    (answer : VaultWorld Bytes → α) (effect : VaultWorld Bytes → VaultWorld Bytes) :
    VaultRoutine Bytes Locals α :=
  Routine.ask place (fun w => if goes w then .ok (answer w) else .error .vault)
    fun w => if goes w then effect w else w

/-- The seam over the Vault. Only siblings are created, and the adapter writes over what is there;
a file that is not there cannot be trashed. -/
def structuralVaultMutationSeam (platform : VaultPlatform Bytes) :
    VaultMutationSeam Bytes Locals where
  createFile place locator bytes :=
    vaultCall place (!·.failing) (fun _ => ()) fun w => w.withFile locator (some bytes)
  readBytes place locator :=
    vaultCall place (!·.failing) (fun w => w.files locator) id
  renameLocator place fromLocator toLocator :=
    vaultCall place (fun w => w.canRename platform fromLocator toLocator) (fun _ => ()) fun w =>
      w.rename fromLocator toLocator
  trashLocator place locator :=
    vaultCall place (fun w => !w.failing && (w.files locator).isSome) (fun _ => ()) fun w =>
      w.withFile locator none
  locatorExists place locator :=
    vaultCall place (!·.failing) (fun w => (w.files locator).isSome) id

def storeCall (input : RepositoryCall) : VaultRoutine Bytes Locals Unit :=
  Routine.ask .elsewhere
    (fun w => match (w.repository.call input).rejection with
      | none => .ok ()
      | some _ => .error (.store .journalMutationFailed))
    fun w => { w with repository := (w.repository.call input).repository }

/-! ### A Vault whose calls answer -/

namespace VaultWorld

variable {w : VaultWorld Bytes} {locator : Locator} {content : Option Bytes}

@[simp] theorem withFile_failing : (w.withFile locator content).failing = w.failing := rfl

@[simp] theorem withFile_repository : (w.withFile locator content).repository = w.repository := rfl

@[simp] theorem withFile_files :
    (w.withFile locator content).files = Function.update w.files locator content := rfl

@[simp] theorem rename_failing {fl tl : Locator} : (w.rename fl tl).failing = w.failing := rfl

@[simp] theorem rename_repository {fl tl : Locator} :
    (w.rename fl tl).repository = w.repository := rfl

@[simp] theorem rename_files {fl tl : Locator} : (w.rename fl tl).files =
      Function.update (Function.update w.files fl none) tl (w.files fl) :=
  rfl

theorem withFile_self (hh : w.files locator = content) : w.withFile locator content = w := by
  simp [withFile, ← hh]

end VaultWorld

section Alone

variable {platform : VaultPlatform Bytes} {place : CallPlace} {locator : Locator}
  {locals : Locals} {w : VaultWorld Bytes}

theorem exec_readBytes (ha : w.failing = false) :
    ((structuralVaultMutationSeam platform).readBytes place locator).exec locals w =
      ((.ok (w.files locator), locals), w) := by
  simp [structuralVaultMutationSeam, vaultCall, ha]

theorem exec_locatorExists (ha : w.failing = false) :
    ((structuralVaultMutationSeam platform).locatorExists place locator).exec locals w =
      ((.ok (w.files locator).isSome, locals), w) := by
  simp [structuralVaultMutationSeam, vaultCall, ha]

theorem exec_createFile {b : Bytes} (ha : w.failing = false) :
    ((structuralVaultMutationSeam platform).createFile place locator b).exec locals w =
      ((.ok (), locals), w.withFile locator (some b)) := by
  simp [structuralVaultMutationSeam, vaultCall, ha]

theorem exec_trashLocator (ha : w.failing = false) :
    ((structuralVaultMutationSeam platform).trashLocator place locator).exec locals w =
      if (w.files locator).isSome then ((.ok (), locals), w.withFile locator none)
      else ((.error .vault, locals), w) := by
  simp only [structuralVaultMutationSeam, vaultCall, Routine.exec_ask, ha]
  split <;> simp_all

theorem exec_renameLocator {fl tl : Locator} :
    ((structuralVaultMutationSeam platform).renameLocator place fl tl).exec locals w =
      if w.canRename platform fl tl then
        ((.ok (), locals), w.rename fl tl)
      else ((.error .vault, locals), w) := by
  simp only [structuralVaultMutationSeam, vaultCall, Routine.exec_ask]
  split <;> rfl

end Alone

/-- The bytes hash to exactly the pinned fingerprint; absent bytes or pins never match. -/
def hashesTo (platform : VaultPlatform Bytes) :
    Option Bytes → Option Fingerprint → Bool
  | some bytes, some fingerprint =>
    platform.byteLength bytes == fingerprint.sizeBytes &&
      platform.sha256Hex bytes == fingerprint.sha256
  | _, _ => false

end PersonalOs.DeviceSync
