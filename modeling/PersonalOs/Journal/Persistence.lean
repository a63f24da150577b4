import PersonalOs.Basis.Machine
import PersonalOs.Journal.RestartRepair

/-!
# Verified generations of the journal

`JournalPersistence`: every committed transaction is exported as the next generation image,
written, read back and verified, published through a manifest that names it and its predecessor,
and only then is the oldest retained image removed. Opening accepts only an image that its
manifest entry verifies.

The process may stop at any durable write; a stop inside the write of an image leaves some first
part of its bytes. SQLite and SHA-256 are parameters.
-/

namespace PersonalOs.Journal

/-- An open database: the journal's tables, the tables of the other lanes, and the rest of
`journal_meta`. -/
structure JournalDatabase (ρ : Type) where
  journal : JournalRepository
  otherTables : ρ
  dirtyGeneration : Nat
  lastVerifiedGeneration : Nat
  recoveryState : JournalRecoveryState
deriving DecidableEq

/-- The parts outside this repository: the SQLite engine with its schema migrations, and the
digest. -/
structure SqliteEngine (ρ β : Type) where
  emptyTables : ρ
  exportImage : JournalDatabase ρ → List β
  openFromImage : List β → Except JournalStoreError (JournalDatabase ρ)
  /-- The migrations from one known source version up to the current schema. -/
  migrateImage : Nat → List β → Except JournalStoreError (List β)
  sha256Hex : List β → String

/-- What the journal relies on: an exported image opens to the database it was exported from, no
image is empty, and a digest is 64 lowercase hexadecimal digits. -/
structure SqliteEngine.Lawful {ρ β : Type} (engine : SqliteEngine ρ β) : Prop where
  reopens : ∀ database, engine.openFromImage (engine.exportImage database) = .ok database
  nonempty : ∀ database, 1 ≤ (engine.exportImage database).length
  hex : ∀ image, DeviceSync.isSha256Hex (engine.sha256Hex image) = true

/-! ## Manifest records -/

def journalSchemaVersion : Nat := 10

def isKnownJournalMigrationSource (schemaVersion : Nat) : Bool :=
  schemaVersion == 6 || schemaVersion == 7 || schemaVersion == 8 || schemaVersion == 9

structure VerifiedJournalGeneration where
  generationNumber : Nat
  sizeBytes : Nat
  sha256 : String
  schemaVersion : Nat
deriving DecidableEq

structure JournalGenerationManifest where
  current : VerifiedJournalGeneration
  prior : Option VerifiedJournalGeneration
deriving DecidableEq

def parseVerifiedGeneration (value : VerifiedJournalGeneration) :
    Option VerifiedJournalGeneration :=
  if value.generationNumber < 1 || value.sizeBytes < 1 ||
      !DeviceSync.isSha256Hex value.sha256 ||
      !(value.schemaVersion == journalSchemaVersion ||
        isKnownJournalMigrationSource value.schemaVersion) then none
  else some value

def parseJournalManifest (value : JournalGenerationManifest) : Option JournalGenerationManifest :=
  match parseVerifiedGeneration value.current, value.prior with
  | none, _ => none
  | some current, none => some ⟨current, none⟩
  | some current, some prior => (parseVerifiedGeneration prior).map fun prior =>
    ⟨current, some prior⟩

/-! ## The file store -/

/-- The journal directory: the generation images by number, and the manifest. -/
structure JournalFileStore (β : Type) where
  generations : List (Nat × List β)
  manifest : Option JournalGenerationManifest
deriving DecidableEq

namespace JournalFileStore

variable {β : Type} (store : JournalFileStore β)

def readGeneration (number : Nat) : Option (List β) :=
  (store.generations.find? fun file => file.1 == number).map (·.2)

def writeGeneration (number : Nat) (image : List β) : JournalFileStore β :=
  { store with
    generations := (number, image) :: store.generations.filter fun file => file.1 != number }

def removeGeneration (number : Nat) : JournalFileStore β :=
  { store with generations := store.generations.filter fun file => file.1 != number }

end JournalFileStore

/-! ## Recovery -/

section Recovery

variable {ρ β : Type} (engine : SqliteEngine ρ β) (store : JournalFileStore β)

/-- One opened candidate, and whether its image has to be published again. -/
structure OpenedGeneration (ρ : Type) where
  database : JournalDatabase ρ
  shouldPublishRecoveredImage : Bool

/-- An image of the current schema, or one migrated to it in memory. -/
def SqliteEngine.openMigrated (candidate : VerifiedJournalGeneration) (image : List β) :
    Except JournalStoreError (JournalDatabase ρ × Bool) :=
  match engine.openFromImage image with
  | .ok database => .ok (database, false)
  | .error reason =>
    if reason == .journalSchemaUnsupported &&
        isKnownJournalMigrationSource candidate.schemaVersion then
      match engine.migrateImage candidate.schemaVersion image with
      | .error reason => .error reason
      | .ok migrated => (engine.openFromImage migrated).map (·, true)
    else .error reason

/-- `#openVerifiedGeneration`: the file must have exactly the named size and digest. -/
def openVerifiedGeneration (candidate : VerifiedJournalGeneration) :
    Option (OpenedGeneration ρ) :=
  match store.readGeneration candidate.generationNumber with
  | none => none
  | some image =>
    if image.length != candidate.sizeBytes then none
    else if engine.sha256Hex image != candidate.sha256 then none
    else match engine.openMigrated candidate image with
      | .error _ => none
      | .ok (database, migrationWasAttempted) =>
        let repair := repairInvalidPendingRenameState database.journal
        some
          { database := { database with journal := repair.journal }
            shouldPublishRecoveredImage := migrationWasAttempted || repair.didRepair }

structure RecoveredDatabase (ρ : Type) where
  opened : OpenedGeneration ρ
  verifiedGeneration : VerifiedJournalGeneration
  recoveryState : JournalRecoveryState

/-- `#recoverVerifiedDatabase`: the current generation, else the prior one. -/
def recoverVerifiedDatabase : Option JournalGenerationManifest → Option (RecoveredDatabase ρ)
  | none => none
  | some manifest =>
    match openVerifiedGeneration engine store manifest.current with
    | some opened => some ⟨opened, manifest.current, .verifiedGenerationLoaded⟩
    | none =>
      match manifest.prior with
      | none => none
      | some prior =>
        (openVerifiedGeneration engine store prior).map fun opened =>
          ⟨opened, prior, .priorGenerationRecovered⟩

end Recovery

/-! ## One process -/

/-- An instance that is not open yet. -/
structure UnopenedJournal where
  isReconcileRequired : Bool
deriving DecidableEq

/-- An open instance. -/
structure JournalPersistence (ρ : Type) where
  database : JournalDatabase ρ
  recoveryState : JournalRecoveryState
  verifiedGeneration : Option VerifiedJournalGeneration
  priorVerifiedGeneration : Option VerifiedJournalGeneration
  isReconcileRequired : Bool
  isReconcileComplete : Bool
deriving DecidableEq

namespace JournalPersistence

variable {ρ β : Type} (persistence : JournalPersistence ρ)

/-- `#mergeReconcileRequired`: a completed repair makes the session's flag authoritative. -/
def mergeReconcileRequired (sessionFlag : Bool) : Bool :=
  if persistence.isReconcileComplete then sessionFlag
  else persistence.isReconcileRequired || sessionFlag

def nextGenerationNumber : Nat :=
  ((persistence.verifiedGeneration.map (·.generationNumber)).getD 0) + 1

/-- The transaction of `#executeGenerationCommit`. -/
def executeTransaction (operation : JournalDatabase ρ → JournalDatabase ρ) :
    JournalPersistence ρ :=
  let changed := operation persistence.database
  let isReconcileRequired :=
    persistence.mergeReconcileRequired changed.journal.isReconcileRequired
  { persistence with
    isReconcileRequired := isReconcileRequired
    database :=
      { changed with
        dirtyGeneration := persistence.nextGenerationNumber
        journal := { changed.journal with isReconcileRequired := isReconcileRequired } } }

/-- After a verified manifest: the chain moves on and the working meta is refreshed. -/
def switchChain (current : VerifiedJournalGeneration) : JournalPersistence ρ :=
  let isReconcileRequired :=
    persistence.mergeReconcileRequired persistence.database.journal.isReconcileRequired
  { persistence with
    priorVerifiedGeneration := persistence.verifiedGeneration
    verifiedGeneration := some current
    isReconcileRequired := isReconcileRequired
    database :=
      { persistence.database with
        dirtyGeneration := current.generationNumber
        lastVerifiedGeneration := current.generationNumber
        journal :=
          { persistence.database.journal with isReconcileRequired := isReconcileRequired } } }

def markReconcileComplete : JournalPersistence ρ :=
  { persistence with isReconcileComplete := true, isReconcileRequired := false }

end JournalPersistence

section Opening

variable {ρ β : Type} (engine : SqliteEngine ρ β)

/-- The manifest entry of an exported database. -/
def SqliteEngine.describe (number : Nat) (database : JournalDatabase ρ) :
    VerifiedJournalGeneration where
  generationNumber := number
  sizeBytes := (engine.exportImage database).length
  sha256 := engine.sha256Hex (engine.exportImage database)
  schemaVersion := journalSchemaVersion

def serveRecovered (instance_ : UnopenedJournal) (manifest : Option JournalGenerationManifest)
    (recovered : RecoveredDatabase ρ) : JournalPersistence ρ :=
  let database := recovered.opened.database
  let isReconcileRequired := instance_.isReconcileRequired || database.journal.isReconcileRequired
  { database :=
      { database with
        lastVerifiedGeneration := recovered.verifiedGeneration.generationNumber
        recoveryState := recovered.recoveryState
        journal := { database.journal with isReconcileRequired := isReconcileRequired } }
    recoveryState := recovered.recoveryState
    verifiedGeneration := some recovered.verifiedGeneration
    -- Only a loaded current generation keeps the trusted prior entry.
    priorVerifiedGeneration := match manifest with
      | none => none
      | some manifest =>
        if manifest.current == recovered.verifiedGeneration then manifest.prior else none
    isReconcileRequired := isReconcileRequired
    isReconcileComplete := false }

/-- `#rebuildEmptyJournal`, up to its first publication. -/
def rebuildEmptyJournal (store : JournalFileStore β) (instance_ : UnopenedJournal)
    (hasVaultContent : Bool) : JournalPersistence ρ :=
  let hasJournalArtifacts := store.manifest.isSome || !store.generations.isEmpty
  let isReconcileRequired :=
    instance_.isReconcileRequired || hasJournalArtifacts || hasVaultContent
  let recoveryState : JournalRecoveryState :=
    if hasJournalArtifacts then .emptyJournalRebuilt
    else if hasVaultContent then .freshJournalReconcileRequired
    else .freshJournalCreated
  { database :=
      { journal := { JournalRepository.empty with isReconcileRequired := isReconcileRequired }
        otherTables := engine.emptyTables
        dirtyGeneration := 0
        lastVerifiedGeneration := 0
        recoveryState := recoveryState }
    recoveryState := recoveryState
    verifiedGeneration := none
    priorVerifiedGeneration := none
    isReconcileRequired := isReconcileRequired
    isReconcileComplete := false }

end Opening

/-! ## The machine of commits, stops and openings -/

/-- Where the process is. The three publishing phases are named by the next durable write. -/
inductive JournalPhase (ρ : Type)
  | stopped (unopened : UnopenedJournal)
  | idle (persistence : JournalPersistence ρ)
  | writingImage (persistence : JournalPersistence ρ)
  | writingManifest (persistence : JournalPersistence ρ)
  | retiring (persistence : JournalPersistence ρ) (retired : Option VerifiedJournalGeneration)
deriving DecidableEq

/-- The open instance, if there is one. -/
def JournalPhase.persistence? {ρ : Type} : JournalPhase ρ → Option (JournalPersistence ρ)
  | .stopped _ => none
  | .idle persistence | .writingImage persistence | .writingManifest persistence => some persistence
  | .retiring persistence _ => some persistence

def JournalPhase.markReconcileComplete {ρ : Type} : JournalPhase ρ → JournalPhase ρ
  | .stopped unopened => .stopped unopened
  | .idle persistence => .idle persistence.markReconcileComplete
  | .writingImage persistence => .writingImage persistence.markReconcileComplete
  | .writingManifest persistence => .writingManifest persistence.markReconcileComplete
  | .retiring persistence retired => .retiring persistence.markReconcileComplete retired

/-- A generation that a manifest named, with the database it was exported from. -/
structure Publication (ρ : Type) where
  generation : VerifiedJournalGeneration
  database : JournalDatabase ρ
deriving DecidableEq

/-- The store and the process, with three records of the run: what the manifests named, what the
last resolved commit or opening stands on, and what was being published at the last stop. -/
structure PersistedJournal (ρ β : Type) where
  store : JournalFileStore β
  phase : JournalPhase ρ
  published : List (Publication ρ)
  settled : Option (Publication ρ)
  interrupted : Option (Publication ρ)
deriving DecidableEq

/-- `commit` starts a commit with any transaction; `advance` makes the next durable write of the
publication in progress; `stopWriting` stops inside the write of an image. -/
inductive PersistenceAction (ρ : Type)
  | overflow
  | open (hasVaultContent : Bool)
  | commit (operation : JournalDatabase ρ → JournalDatabase ρ)
  | advance
  | markReconcileComplete
  | stop
  | stopWriting (written : Nat)

namespace PersistedJournal

variable {ρ β : Type} (engine : SqliteEngine ρ β) (world : PersistedJournal ρ β)

/-- An empty plugin directory. -/
def fresh : PersistedJournal ρ β where
  store := ⟨[], none⟩
  phase := .stopped ⟨false⟩
  published := []
  settled := none
  interrupted := none

def inProgress (persistence : JournalPersistence ρ) : Publication ρ :=
  ⟨engine.describe persistence.nextGenerationNumber persistence.database, persistence.database⟩

/-- `open`, up to the first write of a publication that it makes itself. -/
def openJournal (unopened : UnopenedJournal) (hasVaultContent : Bool) : PersistedJournal ρ β :=
  let manifest := world.store.manifest.bind parseJournalManifest
  match recoverVerifiedDatabase engine world.store manifest with
  | some recovered =>
    let served := serveRecovered unopened manifest recovered
    { world with
      settled := world.published.find? (·.generation == recovered.verifiedGeneration)
      phase :=
        if recovered.opened.shouldPublishRecoveredImage then
          .writingImage (served.executeTransaction id)
        else .idle served }
  | none =>
    { world with
      settled := none
      phase := .writingImage
        ((rebuildEmptyJournal engine world.store unopened hasVaultContent).executeTransaction id) }

def writeImage [DecidableEq β] (persistence : JournalPersistence ρ) :
    Option (PersistedJournal ρ β) :=
  let generation := engine.describe persistence.nextGenerationNumber persistence.database
  let image := engine.exportImage persistence.database
  let store := world.store.writeGeneration generation.generationNumber image
  match store.readGeneration generation.generationNumber with
  | none => none
  | some readBack =>
    if readBack.length != generation.sizeBytes || engine.sha256Hex readBack != generation.sha256
    then none
    else some { world with store := store, phase := .writingManifest persistence }

/-- The manifest is written and read back, and the chain moves on. -/
def writeManifest (persistence : JournalPersistence ρ) : Option (PersistedJournal ρ β) :=
  let publication := inProgress engine persistence
  let manifest : JournalGenerationManifest :=
    ⟨publication.generation, persistence.verifiedGeneration⟩
  let store := { world.store with manifest := some manifest }
  match store.manifest.bind parseJournalManifest with
  | none => none
  | some readBack =>
    if readBack != manifest then none
    else some
      { world with
        store := store
        published := world.published ++ [publication]
        phase := .retiring (persistence.switchChain publication.generation)
          persistence.priorVerifiedGeneration }

/-- The image that fell out of the retained window goes, and the commit resolves. -/
def retire (persistence : JournalPersistence ρ) (retired : Option VerifiedJournalGeneration) :
    PersistedJournal ρ β :=
  { world with
    store := match retired with
      | none => world.store
      | some generation => world.store.removeGeneration generation.generationNumber
    settled := world.published.getLast?
    phase := .idle persistence }

/-- A stop before or after a durable write. -/
def stop : PersistedJournal ρ β :=
  { world with
    phase := .stopped ⟨false⟩
    interrupted := match world.phase with
      | .stopped _ | .idle _ => none
      | .writingImage persistence | .writingManifest persistence =>
        some (inProgress engine persistence)
      | .retiring _ _ => world.published.getLast? }

end PersistedJournal

/-- Commits, stops and openings, from an empty plugin directory. -/
def persistenceMachine {ρ β : Type} [DecidableEq β] (engine : SqliteEngine ρ β) :
    Machine (PersistedJournal ρ β) (PersistenceAction ρ) where
  Init := fun world => world = .fresh
  step := fun world action =>
    match action, world.phase with
    | .overflow, .stopped _ => some { world with phase := .stopped ⟨true⟩ }
    | .open hasVaultContent, .stopped unopened =>
      some (world.openJournal engine unopened hasVaultContent)
    | .commit operation, .idle persistence =>
      some { world with phase := .writingImage (persistence.executeTransaction operation) }
    | .advance, .writingImage persistence => world.writeImage engine persistence
    | .advance, .writingManifest persistence => world.writeManifest engine persistence
    | .advance, .retiring persistence retired => some (world.retire persistence retired)
    | .markReconcileComplete, phase =>
      some { world with phase := phase.markReconcileComplete }
    | .stop, .stopped _ => none
    | .stop, _ => some (world.stop engine)
    | .stopWriting written, .writingImage persistence =>
      let number := persistence.nextGenerationNumber
      let image := (engine.exportImage persistence.database).take written
      some { world.stop engine with store := world.store.writeGeneration number image }
    | _, _ => none

end PersonalOs.Journal
