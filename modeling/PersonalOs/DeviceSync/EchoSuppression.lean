import PersonalOs.Basis.Tables
import PersonalOs.DeviceSync.ReconciliationTables

/-!
# Echo suppression

`createEchoSuppressor` of `echo-suppression.ts` over the marker table: a watcher observation of our
own apply is matched against the stored markers and consumes the first one that matches. A content
or delete observation tries its candidates through `matchAndConsumeEcho`, one mutation each; a rename
consumes inside a mutation session, its own or the caller's.
-/

namespace PersonalOs.DeviceSync

/-! ## Observations -/

/-- `WatcherContentObservation`, `WatcherRenameObservation`, `WatcherDeleteObservation`. -/
inductive WatcherObservation
  | content (normalizedLocator : Locator) (sourceId : Option Nat) (fingerprint : Fingerprint)
  | rename (priorLocator targetLocator : Locator) (sourceId : Option Nat)
      (fingerprint : Option Fingerprint)
  | delete (priorLocator : Locator) (sourceId : Option Nat)
deriving DecidableEq

/-- `CONTENT_MARKER_OPERATIONS`, `RENAME_MARKER_OPERATIONS`. -/
def contentMarkerOperations : List DeviceEventOperation := [.created, .updated, .restored]
def renameMarkerOperations : List DeviceEventOperation := [.renamed, .moved]

/-- The observation that is offered for a marker: its locators are the marker's own. -/
def buildObservation (observation : WatcherObservation) (marker : EchoMarker) :
    VaultObservation where
  eventSequence := marker.eventSequence
  sourceId :=
    match observation with
    | .content _ sourceId _ | .rename _ _ sourceId _ | .delete _ sourceId => sourceId
  operation :=
    match observation with
    | .content .. | .rename .. => some marker.operation
    | .delete .. => some .deleted
  priorLocator := marker.priorLocator
  targetLocator := marker.targetLocator
  fingerprint :=
    match observation with
    | .content _ _ fingerprint => some fingerprint
    | .rename _ _ _ fingerprint => fingerprint
    | .delete .. => none

namespace EchoSuppressor

def isSameFingerprint (left right : Option Fingerprint) : Bool :=
  match left, right with
  | some left, some right =>
    left.sha256 = right.sha256 && left.sizeBytes = right.sizeBytes &&
      left.mediaType = right.mediaType
  | none, none => true
  | _, _ => false

/-- The suppressor's own `isExactEchoMatch`. -/
def isExactEchoMatch (marker : EchoMarker) (observation : VaultObservation) : Bool :=
  if observation.sourceId = none ∨ observation.sourceId ≠ some marker.sourceId then false
  else if observation.operation = none ∨ observation.operation ≠ some marker.operation then false
  else if marker.priorLocator ≠ none ∧ observation.priorLocator ≠ marker.priorLocator then false
  else if marker.targetLocator ≠ none ∧ observation.targetLocator ≠ marker.targetLocator then false
  else if marker.finalFingerprint ≠ none ∧
      ¬isSameFingerprint observation.fingerprint marker.finalFingerprint then false
  else true

end EchoSuppressor

namespace DeviceSyncRepository

def readMarkersByLocator (repo : DeviceSyncRepository) (locator : Locator) : List EchoMarker :=
  (repo.echoMarkers.filter fun marker =>
    marker.priorLocator = some locator || marker.targetLocator = some locator).insertionSort
      fun left right => left.eventSequence ≤ right.eventSequence

def candidates (repo : DeviceSyncRepository) : WatcherObservation → List EchoMarker
  | .content normalizedLocator _ _ =>
    (repo.readMarkersByLocator normalizedLocator).filter (·.operation ∈ contentMarkerOperations)
  | .rename priorLocator targetLocator _ _ =>
    (repo.readMarkersByLocator priorLocator).filter fun marker =>
      marker.operation ∈ renameMarkerOperations && marker.targetLocator = some targetLocator
  | .delete priorLocator _ =>
    (repo.readMarkersByLocator priorLocator).filter (·.operation = .deleted)

/-- `delete from echo_markers where event_sequence = …`. -/
def deleteMarker (repo : DeviceSyncRepository) (eventSequence : Nat) : DeviceSyncRepository :=
  { repo with
    echoMarkers := repo.echoMarkers.filter fun marker => marker.eventSequence != eventSequence }

/-- The marker that `matchAndConsumeEcho` consumes, when it answers true. -/
def consumedBy (repo : DeviceSyncRepository) (input : VaultObservation) : Option EchoMarker :=
  if input.eventSequence = 0 then none
  else (repo.echoMarkers.find? fun marker => marker.eventSequence == input.eventSequence).filter
    fun marker => DeviceSync.isExactEchoMatch marker input

def consumeFirstExact (repo : DeviceSyncRepository) (observation : WatcherObservation) :
    List EchoMarker → DeviceSyncRepository × Option EchoMarker
  | [] => (repo, none)
  | marker :: rest =>
    let offered := buildObservation observation marker
    match repo.consumedBy offered with
    | some consumed => ((repo.matchAndConsumeEcho offered).repository, some consumed)
    | none => (repo.matchAndConsumeEcho offered).repository.consumeFirstExact observation rest

/-- `consumeRenameObservationInSession`. -/
def consumeInSession (repo : DeviceSyncRepository) (observation : WatcherObservation) :
    DeviceSyncRepository × Option EchoMarker :=
  match (repo.candidates observation).find? fun marker =>
    EchoSuppressor.isExactEchoMatch marker (buildObservation observation marker) with
  | some marker => (repo.deleteMarker marker.eventSequence, some marker)
  | none => (repo, none)

/-- `consumeContentObservation`, `consumeDeleteObservation` and `consumeRenameObservation`; the
last runs in a session of its own. -/
def consume (repo : DeviceSyncRepository) (observation : WatcherObservation) :
    DeviceSyncRepository × Option EchoMarker :=
  match observation with
  | .content .. | .delete .. => repo.consumeFirstExact observation (repo.candidates observation)
  | .rename .. => repo.consumeInSession observation

end DeviceSyncRepository

/-! ## Runs -/

/-- The repository, the markers that were ever stored in it, and which of them suppressed what. -/
structure EchoWorld where
  repository : DeviceSyncRepository
  stored : List EchoMarker
  suppressed : List (EchoMarker × WatcherObservation)

/-- A marker is recorded, or an observation comes in; inside a caller's session its mutation may
still roll back. -/
inductive EchoAction
  | record (input : EchoMarker)
  | observe (observation : WatcherObservation)
  | observeInSession (observation : WatcherObservation) (commits : Bool)

def EchoWorld.after (world : EchoWorld) (observation : WatcherObservation)
    (result : DeviceSyncRepository × Option EchoMarker) : EchoWorld :=
  { world with
    repository := result.1
    suppressed := world.suppressed ++ result.2.toList.map fun marker => (marker, observation) }

def EchoWorld.step (world : EchoWorld) : EchoAction → Option EchoWorld
  | .record input =>
    let next := (world.repository.call (.recordEchoMarker input)).repository
    some { world with
      repository := next
      stored :=
        if next = world.repository then world.stored else world.stored ++ [input] }
  | .observe observation =>
    some (world.after observation (world.repository.consume observation))
  | .observeInSession observation commits =>
    match observation with
    | .rename .. =>
      if commits then
        some (world.after observation (world.repository.consumeInSession observation))
      else some world
    | _ => none

/-- Any sequence of recorded markers and observations. -/
def echoMachine : Machine EchoWorld EchoAction where
  Init := fun world => world = ⟨.seeded, [], []⟩
  step := EchoWorld.step

/-! ## Matching -/

/-- What a marker and an observation that it suppresses have in common: the source, the operation,
every fingerprint that the marker pins, and the locators. -/
def Suppresses (marker : EchoMarker) : WatcherObservation → Prop
  | .content locator sourceId fingerprint =>
    marker.operation ∈ contentMarkerOperations ∧ sourceId = some marker.sourceId ∧
      (marker.priorLocator = some locator ∨ marker.targetLocator = some locator) ∧
      ∀ pinned ∈ marker.finalFingerprint, fingerprint = pinned
  | .rename prior target sourceId fingerprint =>
    marker.operation ∈ renameMarkerOperations ∧ sourceId = some marker.sourceId ∧
      (marker.priorLocator = some prior ∨ prior = target) ∧ marker.targetLocator = some target ∧
      ∀ pinned ∈ marker.finalFingerprint, fingerprint = some pinned
  | .delete prior sourceId =>
    marker.operation = .deleted ∧ sourceId = some marker.sourceId ∧
      (marker.priorLocator = some prior ∨ marker.targetLocator = some prior) ∧
      marker.finalFingerprint = none

namespace EchoLemmas

variable {repo : DeviceSyncRepository} {o : WatcherObservation} {m : EchoMarker}

theorem isExactEchoMatch_eq (m : EchoMarker) (v : VaultObservation) :
    EchoSuppressor.isExactEchoMatch m v = isExactEchoMatch m v := by
  have same (l r : Option Fingerprint) : EchoSuppressor.isSameFingerprint l r = (l == r) := by
    cases l with
    | none => cases r <;> rfl
    | some l =>
      cases r with
      | none => rfl
      | some r =>
        obtain ⟨sl, bl, ml⟩ := l
        obtain ⟨sr, br, mr⟩ := r
        rw [Bool.eq_iff_iff]
        simp [EchoSuppressor.isSameFingerprint, and_assoc]
  rw [Bool.eq_iff_iff]
  simp only [EchoSuppressor.isExactEchoMatch, isExactEchoMatch, same, Bool.and_eq_true,
    Bool.or_eq_true, beq_iff_eq, Option.isNone_iff_eq_none]
  grind

theorem matches_iff : m ∈ repo.candidates o ∧
    EchoSuppressor.isExactEchoMatch m (buildObservation o m) = true ↔
      m ∈ repo.echoMarkers ∧ Suppresses m o := by
  rw [isExactEchoMatch_eq]
  obtain ⟨_, _, _, _, _, f⟩ := m
  cases o <;> cases f <;>
    simp only [DeviceSyncRepository.candidates, DeviceSyncRepository.readMarkersByLocator,
      isExactEchoMatch, buildObservation, Suppresses, List.mem_filter, List.mem_insertionSort,
      Option.isNone, Option.mem_def, Option.some.injEq, forall_eq', reduceCtorEq] <;>
    grind

/-- Every event sequence has one marker, and no marker the sequence zero. -/
structure Keyed (repo : DeviceSyncRepository) : Prop where
  unique : Tables.Unique EchoMarker.eventSequence repo.echoMarkers
  positive : ∀ m ∈ repo.echoMarkers, m.eventSequence ≠ 0

theorem find_stored (hk : Keyed repo) (hm : m ∈ repo.echoMarkers) :
    repo.echoMarkers.find? (fun row => row.eventSequence == (buildObservation o m).eventSequence) =
      some m :=
  hk.unique.lookup_of_mem hm

theorem consumedBy_stored (hk : Keyed repo) (hm : m ∈ repo.echoMarkers) :
    repo.consumedBy (buildObservation o m) =
      if EchoSuppressor.isExactEchoMatch m (buildObservation o m) then some m else none := by
  have hz : (buildObservation o m).eventSequence ≠ 0 := hk.positive m hm
  rw [DeviceSyncRepository.consumedBy, if_neg hz, find_stored hk hm, isExactEchoMatch_eq]
  rfl

theorem matchAndConsumeEcho_stored (hk : Keyed repo) (hm : m ∈ repo.echoMarkers) :
    (repo.matchAndConsumeEcho (buildObservation o m)).repository =
      if EchoSuppressor.isExactEchoMatch m (buildObservation o m) then
        repo.deleteMarker m.eventSequence else repo := by
  have hz : (buildObservation o m).eventSequence ≠ 0 := hk.positive m hm
  rw [DeviceSyncRepository.matchAndConsumeEcho, if_neg (by simpa using hz), find_stored hk hm,
    isExactEchoMatch_eq]
  simp only
  split
  · rfl
  · rfl

theorem consumeFirstExact_find (hk : Keyed repo) : ∀ cs : List EchoMarker,
    (∀ m ∈ cs, m ∈ repo.echoMarkers) → repo.consumeFirstExact o cs =
      match cs.find? fun m => EchoSuppressor.isExactEchoMatch m (buildObservation o m) with
      | some m => (repo.deleteMarker m.eventSequence, some m)
      | none => (repo, none)
  | [], _ => rfl
  | m :: cs, hc => by
    have hm := hc m List.mem_cons_self
    rw [DeviceSyncRepository.consumeFirstExact, List.find?_cons]
    simp only [consumedBy_stored hk hm, matchAndConsumeEcho_stored hk hm]
    cases EchoSuppressor.isExactEchoMatch m (buildObservation o m) with
    | true => rfl
    | false => exact consumeFirstExact_find hk cs fun n hn => hc n (.tail _ hn)

theorem mem_of_candidate (hm : m ∈ repo.candidates o) : m ∈ repo.echoMarkers := by
  cases o <;>
    simp only [DeviceSyncRepository.candidates, DeviceSyncRepository.readMarkersByLocator,
      List.mem_filter, List.mem_insertionSort] at hm
  · exact hm.1.1
  · exact hm.1.1
  · exact hm.1.1

theorem consumeFirstExact_eq (hk : Keyed repo) :
    repo.consumeFirstExact o (repo.candidates o) = repo.consumeInSession o := by
  rw [consumeFirstExact_find hk _ fun _ => mem_of_candidate]
  rfl

theorem consume_eq (hk : Keyed repo) : repo.consume o = repo.consumeInSession o := by
  cases o with
  | content => exact consumeFirstExact_eq hk
  | rename => rfl
  | delete => exact consumeFirstExact_eq hk

theorem consume_spec (repo : DeviceSyncRepository) (o : WatcherObservation) :
    repo.consumeInSession o = (repo, none) ∧ (∀ m ∈ repo.echoMarkers, ¬Suppresses m o) ∨
      ∃ m ∈ repo.echoMarkers, Suppresses m o ∧
        repo.consumeInSession o = (repo.deleteMarker m.eventSequence, some m) := by
  rw [DeviceSyncRepository.consumeInSession]
  cases hf : (repo.candidates o).find? fun m =>
      EchoSuppressor.isExactEchoMatch m (buildObservation o m) with
  | none =>
    refine .inl ⟨rfl, fun m hm hs => ?_⟩
    obtain ⟨hc, he⟩ := matches_iff.mpr ⟨hm, hs⟩
    exact List.find?_eq_none.mp hf m hc he
  | some m =>
    have he := List.find?_some hf
    obtain ⟨hm, hs⟩ := matches_iff.mp ⟨List.mem_of_find?_eq_some hf, he⟩
    exact .inr ⟨m, hm, hs, rfl⟩

theorem perm_deleteMarker (hk : Keyed repo) (hm : m ∈ repo.echoMarkers) :
    (m :: (repo.deleteMarker m.eventSequence).echoMarkers).Perm repo.echoMarkers := by
  have hn : repo.echoMarkers.Nodup := hk.unique.of_map
  have he : (repo.deleteMarker m.eventSequence).echoMarkers = repo.echoMarkers.erase m := by
    rw [hn.erase_eq_filter, DeviceSyncRepository.deleteMarker]
    refine List.filter_congr fun n hp => ?_
    rw [Bool.eq_iff_iff, bne_iff_ne, bne_iff_ne]
    exact not_congr ⟨fun hs => hk.unique.eq_of_key hp hm hs, fun hs => hs ▸ rfl⟩
  rw [he]
  exact (List.perm_cons_erase hm).symm

/-! ## Runs -/

structure EchoSound (world : EchoWorld) : Prop where
  keyed : Keyed world.repository
  once : (world.suppressed.map Prod.fst ++ world.repository.echoMarkers).Subperm world.stored
  matching : ∀ s ∈ world.suppressed, Suppresses s.1 s.2

variable {world world' : EchoWorld}

theorem sound_after (hs : EchoSound world) (o : WatcherObservation) :
    EchoSound (world.after o (world.repository.consumeInSession o)) := by
  rcases consume_spec world.repository o with ⟨he, _⟩ | ⟨m, hm, hp, he⟩
  · rw [he]
    exact ⟨hs.keyed, by simpa [EchoWorld.after] using hs.once,
      by simpa [EchoWorld.after] using hs.matching⟩
  · rw [he]
    have hsub : (world.repository.deleteMarker m.eventSequence).echoMarkers.Sublist
        world.repository.echoMarkers := List.filter_sublist
    refine ⟨⟨hs.keyed.unique.sublist (hsub.map _),
      fun n hn => hs.keyed.positive n (hsub.subset hn)⟩, ?_, ?_⟩
    · simp only [EchoWorld.after, Option.toList, List.map_cons, List.map_nil, List.map_append,
        List.append_assoc, List.singleton_append]
      exact ((perm_deleteMarker hs.keyed hm).append_left _).subperm.trans hs.once
    · intro s hin
      rcases List.mem_append.mp hin with hin | hin
      · exact hs.matching s hin
      · cases List.mem_singleton.mp hin
        exact hp

theorem sound_record (hs : EchoSound world) (m : EchoMarker)
    (hv : world.step (.record m) = some world') : EchoSound world' := by
  have hr : (world.repository.call (.recordEchoMarker m)).repository = world.repository ∨
      m.eventSequence ≠ 0 ∧ Tables.lookup EchoMarker.eventSequence world.repository.echoMarkers
          m.eventSequence = none ∧
        (world.repository.call (.recordEchoMarker m)).repository.echoMarkers =
          world.repository.echoMarkers ++ [m] := by
    simp only [DeviceSyncRepository.call, DeviceSyncRepository.lift, Repository.recordEchoMarker]
    split
    · exact .inl rfl
    next hz =>
      split
      · split
        · exact .inl rfl
        · exact .inl rfl
      · next hf => exact .inr ⟨by simpa using hz, hf, rfl⟩
  cases hv
  rcases hr with hr | ⟨hz, hf, hr⟩
  · simp only [hr, if_true]
    exact hs
  · have hne : (world.repository.call (.recordEchoMarker m)).repository ≠ world.repository := by
      intro he
      rw [he] at hr
      exact absurd (congrArg List.length hr) (by simp)
    simp only [hne, if_false]
    refine ⟨⟨?_, ?_⟩, ?_, hs.matching⟩
    · rw [hr]
      exact hs.keyed.unique.snoc hf
    · rw [hr]
      intro n hn
      rcases List.mem_append.mp hn with hn | hn
      · exact hs.keyed.positive n hn
      · cases List.mem_singleton.mp hn
        exact hz
    · rw [hr, ← List.append_assoc]
      exact List.subperm_append_right _ |>.mpr hs.once

theorem sound_step (hs : EchoSound world) (a : EchoAction)
    (hv : echoMachine.step world a = some world') : EchoSound world' := by
  change world.step a = some world' at hv
  cases a with
  | record m => exact sound_record hs m hv
  | observe o =>
    cases hv
    rw [consume_eq hs.keyed]
    exact sound_after hs o
  | observeInSession o c =>
    cases o with
    | rename =>
      cases c with
      | false =>
        cases hv
        exact hs
      | true =>
        cases hv
        exact sound_after hs _
    | content => cases hv
    | delete => cases hv

end EchoLemmas

open EchoLemmas in
/-- In every reachable state: no stored marker has suppressed two observations or is still there
after it has suppressed one; each has suppressed an observation that it has its source, operation,
locators and pinned fingerprint in common with; an observation that no marker suppresses leaves
every marker; and the two copies of the rule and the two paths decide alike. -/
theorem echo_suppresses_once {world : EchoWorld} (reached : echoMachine.Reachable world) :
    (world.suppressed.map Prod.fst ++ world.repository.echoMarkers).Subperm world.stored ∧
    (∀ s ∈ world.suppressed, Suppresses s.1 s.2) ∧
    (∀ observation, (∀ marker ∈ world.repository.echoMarkers, ¬Suppresses marker observation) →
      world.repository.consume observation = (world.repository, none)) ∧
    (∀ marker observation, EchoSuppressor.isExactEchoMatch marker observation =
      isExactEchoMatch marker observation) ∧
    ∀ observation, world.repository.consume observation =
        world.repository.consumeInSession observation ∧
      world.repository.consumeFirstExact observation (world.repository.candidates observation) =
        world.repository.consumeInSession observation := by
  have sound : EchoSound world := by
    refine reached.invariant (fun s start => ?_) (fun s a t sound moved => sound_step sound a moved)
    cases (start : s = _)
    exact ⟨⟨List.nodup_nil, fun _ none => nomatch none⟩, List.Subperm.refl _,
      fun _ none => nomatch none⟩
  refine ⟨sound.once, sound.matching, fun observation unmatched => ?_, isExactEchoMatch_eq,
    fun observation => ⟨consume_eq sound.keyed, consumeFirstExact_eq sound.keyed⟩⟩
  rw [consume_eq sound.keyed]
  rcases consume_spec world.repository observation with ⟨same, _⟩ | ⟨marker, here, suppresses, _⟩
  · exact same
  · exact absurd suppresses (unmatched marker here)

/-- The marker of a rename whose event carries no content. -/
def bareRename : EchoMarker := ⟨7, 1, .renamed, some "old.md", some "new.md", none⟩

def observedRename : WatcherObservation :=
  .rename "old.md" "new.md" (some 1) (some ⟨"0f", 3, "text/markdown"⟩)

/-- The marker is recorded, and suppresses the rename once. -/
theorem echo_suppresses_once_renamed : ∃ world,
    echoMachine.run ⟨.seeded, [], []⟩ [.record bareRename, .observe observedRename,
      .observeInSession observedRename true] = some world ∧
    (world.suppressed.map Prod.fst ++ world.repository.echoMarkers).Subperm world.stored := by
  obtain ⟨world, ran⟩ := Option.isSome_iff_exists.mp (show (echoMachine.run ⟨.seeded, [], []⟩
    [.record bareRename, .observe observedRename, .observeInSession observedRename true]).isSome =
      true by decide +kernel)
  exact ⟨world, ran, (echo_suppresses_once (Machine.reachable_of_run rfl ran)).1⟩

/-- A marker without a fingerprint suppresses an observation that has one. -/
theorem unpinned_fingerprint_suppressed :
    (echoMachine.run ⟨.seeded, [], []⟩ [.record bareRename, .observe observedRename]).map
      EchoWorld.suppressed = some [(bareRename, observedRename)] := by
  decide +kernel

end PersonalOs.DeviceSync
