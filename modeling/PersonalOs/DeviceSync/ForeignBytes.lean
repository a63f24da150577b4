import PersonalOs.DeviceSync.BlockedRecovery
import PersonalOs.DeviceSync.RemoteApplier

/-!
# Foreign bytes at the target of a created event

An apply of a created or restored event checks that its target is absent, and relies on that until
the staged bytes are moved in. Somebody may place a file there in between.

The replace reads the target once more, and takes what it finds for old bytes: they move to the
rollback sibling, which the cleanup of the applied event removes. Where the target is still absent
at that read (and at the rename, if a rename replaces), no rollback sibling ever comes to be.
-/

namespace PersonalOs.DeviceSync

open CallPrograms

variable {Bytes Locals : Type}

/-! ## The runs of one event -/

def DeviceSyncEvent.Owns (event : DeviceSyncEvent) (row : RemoteApplyOperation) : Prop :=
  { row.toPreparedRemoteApply with rollbackToken := none } = event.prepared

/-- The sequence of the event is not taken by another. -/
def DeviceSyncEvent.OwnsRows (event : DeviceSyncEvent) (repository : DeviceSyncRepository) : Prop :=
  ∀ row ∈ repository.remoteApplyOperations, row.eventSequence = event.eventSequence →
    event.Owns row

inductive EventJob (Bytes : Type)
  | apply (verified : Option (VerifiedBytes Bytes)) (download : Except DownloadFailure Bytes)
  /-- The recovery of a cycle start, when it finds the row of the event. -/
  | recover
  | settle (reason : DeviceSyncReason)

/-- What happens around the lane. -/
inductive AroundEvent (event : DeviceSyncEvent) (Bytes : Type)
  /-- Somebody places bytes at the target. -/
  | place (bytes : Bytes)
  /-- The calls of the Vault begin or cease to throw. -/
  | fault (failing : Bool)
  /-- The repository changes otherwise: acknowledgements, barriers, other events. -/
  | repository (next : { next : DeviceSyncRepository // event.OwnsRows next })

section Runs

variable (platform : VaultPlatform Bytes) (event : DeviceSyncEvent)

def startJob (w : VaultWorld Bytes) :
    EventJob Bytes → Option (CallProgram (VaultWorld Bytes) CallPlace Unit)
  | .apply verified download => some (Routine.detach (applyEvent platform event verified download))
  | .recover =>
    match w.repository.readUnfinishedApply with
    | some operation =>
      if operation.eventSequence == event.eventSequence then
        some (Routine.detach (recoverOperation platform operation))
      else none
    | none => none
  | .settle reason => some (Routine.detach (settleVaultFailedApply platform event reason))

variable (target : Locator)

def aroundLane (happening : AroundEvent event Bytes) (w : VaultWorld Bytes) : VaultWorld Bytes :=
  match happening with
  | .place bytes => { w.withFile target (some bytes) with foreign := some bytes }
  | .fault failing => { w with failing := failing }
  | .repository next => { w with repository := next }

/-- The apply of one event, its recovery and its cleanup, in any interleaving with the others.
At first nobody has placed anything, and the hidden name of the rollback sibling is not in use. -/
def foreignMachine : Machine (Lane (VaultWorld Bytes) CallPlace Unit)
    (LaneAction (EventJob Bytes) (AroundEvent event Bytes)) :=
  laneMachine
    (fun w => event.OwnsRows w.repository ∧
      w.files (rollbackOf platform target event.eventId) = none ∧ w.foreign = none)
    (startJob platform event) (aroundLane event target)

/-- The target is absent where the replace reads it, and where a rename would replace it. -/
def TargetClear : CallPlace → VaultWorld Bytes → Prop
  | .proveBase, w => w.files target = none
  | .replace, w => platform.renameReplaces = true → w.files target = none
  | .elsewhere, _ => True

/-- Foreign bytes are at the target, and there is no rollback sibling to restore over them. -/
structure ForeignKept (w : VaultWorld Bytes) : Prop where
  owned : event.OwnsRows w.repository
  clear : w.files (rollbackOf platform target event.eventId) = none
  kept : ∀ bytes, w.foreign = some bytes → w.files target = some bytes

end Runs

namespace ForeignBytesLemmas

open RecoveryRunsLemmas

variable {platform : VaultPlatform Bytes} {event : DeviceSyncEvent} {target : Locator}

/-! ## The rows of the event -/

section Rows

variable {repository : DeviceSyncRepository} {hm : Mutation}

def isOwnCall (event : DeviceSyncEvent) : RepositoryCall → Prop
  | .prepareRemoteApply input => input = event.prepared
  | .transitionRemoteApply input =>
    input.tempToken = none ∨ input.tempToken = some event.prepared.tempToken
  | .terminalizeEvent _ | .abandonRemoteApply _ | .recordEchoMarker _
  | .nextObservationGeneration | .startRepairBarrier _ _ => True
  | _ => False

theorem owns_lift (ho : event.OwnsRows repository)
    (hc : ∀ n, hm = .ok n → ∀ row ∈ n.remoteApplyOperations,
      row.eventSequence = event.eventSequence → event.Owns row) :
    event.OwnsRows (repository.lift hm).repository := by
  rcases hm with (r | _) | n
  · exact ho
  · exact ho
  · exact hc n rfl

theorem owns_updateRow {r : Repository} {s : Nat}
    {c : RemoteApplyOperation → RemoteApplyOperation}
    (ho : ∀ row ∈ r.remoteApplyOperations, row.eventSequence = event.eventSequence → event.Owns row)
    (key : ∀ row, (c row).eventSequence = row.eventSequence)
    (hk : ∀ row, event.Owns row → event.Owns (c row)) :
    ∀ row ∈ (r.updateRow s c).remoteApplyOperations,
      row.eventSequence = event.eventSequence → event.Owns row := by
  intro r' hm he
  obtain ⟨row, old, rfl⟩ := List.mem_map.mp hm
  by_cases hh : row.eventSequence = s
  · rw [if_pos (by simpa using hh)] at he ⊢
    exact hk row (ho row old ((key row).symm.trans he))
  · rw [if_neg (by simpa using hh)] at he ⊢
    exact ho row old he

theorem owns_call {i : RepositoryCall} (ho : event.OwnsRows repository)
    (own : isOwnCall event i) : event.OwnsRows (repository.call i).repository := by
  cases i with
  | prepareRemoteApply i =>
    cases own
    refine owns_lift ho fun n hc => ?_
    rcases Repository.prepareRemoteApply_cases hc with ⟨rfl, -⟩ | ⟨-, rfl⟩
    · exact ho
    · intro row hm he
      rcases List.mem_append.mp hm with old | new
      · exact ho row old he
      · rw [List.mem_singleton.mp new]
        rfl
  | transitionRemoteApply i =>
    simp only [DeviceSyncRepository.call]
    split
    · exact ho
    · refine owns_lift ho fun n hc => ?_
      obtain ⟨_, -, -, rfl⟩ := Repository.transitionRemoteApply_cases hc
      refine owns_updateRow ho (fun _ => rfl) fun row how => ?_
      have hk : i.tempToken.getD row.tempToken = row.tempToken := by
        have ht := congrArg PreparedRemoteApply.tempToken how
        rcases own with hn | ha
        · rw [hn]
          rfl
        · rw [ha]
          exact ht.symm
      unfold DeviceSyncEvent.Owns at how ⊢
      simpa only [hk] using how
  | terminalizeEvent i =>
    refine owns_lift ho fun n hc => ?_
    obtain ⟨-, _, rfl, ⟨rfl, -⟩ | ⟨_, _, -, -, rfl⟩⟩ := Repository.terminalizeEvent_cases hc
    · exact ho
    · exact owns_updateRow ho (fun _ => rfl) fun _ how => how
  | abandonRemoteApply s =>
    refine owns_lift ho fun n hc => ?_
    obtain ⟨_, -, -, rfl⟩ := Repository.abandonRemoteApply_cases hc
    exact fun row hm => ho row (List.mem_filter.mp hm).1
  | recordEchoMarker i =>
    unfold DeviceSyncEvent.OwnsRows
    rw [(call_sameRows rfl).rows]
    exact ho
  | nextObservationGeneration => exact ho
  | startRepairBarrier g r =>
    unfold DeviceSyncEvent.OwnsRows
    rw [(call_sameRows rfl).rows]
    exact ho
  | _ => exact own.elim

theorem owns_unfinished {o : RemoteApplyOperation} (ho : event.OwnsRows repository)
    (hr : repository.readUnfinishedApply = some o)
    (he : o.eventSequence = event.eventSequence) : event.Owns o :=
  ho o (unfinished_mem hr).1 he

theorem owns_found {o : RemoteApplyOperation} (ho : event.OwnsRows repository)
    (hr : repository.readRemoteApply event.eventSequence = some o) :
    event.Owns o :=
  ho o (List.mem_of_find?_eq_some hr) (by simpa using List.find?_some hr)

end Rows

/-! ## Calls -/

/-- A routine of the lane keeps foreign bytes where they are. -/
abbrev Keeping {α : Type} (platform : VaultPlatform Bytes) (event : DeviceSyncEvent)
    (target : Locator) (Q : α → Prop) (p : VaultRoutine Bytes Locals α) : Prop :=
  Routine.Holds (ForeignKept platform event target) (TargetClear platform target) Q p

section Calls

variable {α : Type} {Q : α → Prop} {w : VaultWorld Bytes} {locator : Locator}

theorem kept_withFile {c : Option Bytes} (hk : ForeignKept platform event target w)
    (haw : locator ≠ target) (ha : locator ≠ rollbackOf platform target event.eventId) :
    ForeignKept platform event target (w.withFile locator c) := by
  refine ⟨hk.owned, ?_, fun b hp => ?_⟩
  · rw [VaultWorld.withFile_files, Function.update_of_ne ha.symm]
    exact hk.clear
  · rw [VaultWorld.withFile_files, Function.update_of_ne haw.symm]
    exact hk.kept b hp

theorem kept_movedIn (hk : ForeignKept platform event target w)
    (hc : TargetClear platform target .replace w)
    (hg : w.canRename platform (tempOf platform target event.eventId) target = true) :
    ForeignKept platform event target (w.rename (tempOf platform target event.eventId) target) := by
  have hn : w.files target = none := by
    simp only [VaultWorld.canRename, Bool.and_eq_true, Bool.or_eq_true, Option.isNone_iff_eq_none]
      at hg
    exact hg.2.elim hc id
  refine ⟨hk.owned, ?_, fun b hp => ?_⟩
  · rw [VaultWorld.rename_files, Function.update_of_ne (rollbackOf_ne platform),
      Function.update_of_ne (tempOf_ne_rollbackOf platform).symm]
    exact hk.clear
  · have hh := hk.kept b hp
    rw [hn] at hh
    cases hh

theorem vaultCall_keeps {p : CallPlace} {g : VaultWorld Bytes → Bool}
    {an : VaultWorld Bytes → α} {e : VaultWorld Bytes → VaultWorld Bytes}
    (hk : ∀ w, ForeignKept platform event target w → TargetClear platform target p w →
      g w = true → ForeignKept platform event target (e w) ∧ Q (an w)) :
    Keeping platform event target Q (vaultCall p g an e : VaultRoutine Bytes Locals α) := by
  refine Routine.Holds.ask fun w hke met => ?_
  by_cases ht : g w = true
  · obtain ⟨ha, hp⟩ := hk w hke met ht
    simp only [ht, if_true]
    refine ⟨ha, ?_⟩
    rintro _ ⟨⟩
    exact hp
  · simp only [Bool.not_eq_true] at ht
    simp only [ht, Bool.false_eq_true, if_false]
    exact ⟨hke, nofun⟩

theorem storeCall_keeps {i : RepositoryCall} (own : isOwnCall event i) :
    Keeping platform event target (fun _ => True) (storeCall i : VaultRoutine Bytes Locals Unit) :=
  Routine.Holds.ask fun _ hk _ =>
    ⟨⟨owns_call hk.owned own, hk.clear, hk.kept⟩, fun _ _ => trivial⟩

theorem readRepository_keeps : Keeping platform event target event.OwnsRows
    (readRepository : VaultRoutine Bytes Locals DeviceSyncRepository) := by
  refine Routine.Holds.ask fun w hk _ => ⟨hk, ?_⟩
  rintro _ ⟨⟩
  exact hk.owned

theorem observeApply_keeps (s : ApplyFailureStage) (r : DeviceSyncReason) :
    Keeping platform event target (fun _ => True)
      (observeApply s r : VaultRoutine Bytes Locals Unit) :=
  Routine.Holds.ask fun _ hk _ => ⟨⟨hk.owned, hk.clear, hk.kept⟩, fun _ _ => trivial⟩

theorem pure_keeps (a : α) : Keeping platform event target (fun _ => True)
    (pure a : VaultRoutine Bytes Locals α) :=
  Routine.Holds.pure trivial

end Calls

/-! ## The seam -/

/-- A seam whose calls keep foreign bytes, as far as the replace of the event makes them. -/
structure KeepingSeam (platform : VaultPlatform Bytes) (event : DeviceSyncEvent) (target : Locator)
    (seam : VaultMutationSeam Bytes Locals) : Prop where
  created : ∀ bytes, Keeping platform event target (fun _ => True)
    (seam.createFile .elsewhere (tempOf platform target event.eventId) bytes)
  read : ∀ locator, Keeping platform event target (fun _ => True)
    (seam.readBytes .elsewhere locator)
  /-- The read that looks for old bytes finds none. -/
  proven : Keeping platform event target (· = none) (seam.readBytes .proveBase target)
  movedIn : Keeping platform event target (fun _ => True)
    (seam.renameLocator .replace (tempOf platform target event.eventId) target)
  trashed : Keeping platform event target (fun _ => True)
    (seam.trashLocator .elsewhere (tempOf platform target event.eventId))
  found : ∀ locator, Keeping platform event target
    (fun present => locator = rollbackOf platform target event.eventId → present = false)
    (seam.locatorExists .elsewhere locator)

theorem structural_keeps : KeepingSeam platform event target
    (structuralVaultMutationSeam platform : VaultMutationSeam Bytes Locals) where
  created _ := vaultCall_keeps fun _ hk _ _ =>
    ⟨kept_withFile hk (tempOf_ne platform) (tempOf_ne_rollbackOf platform), trivial⟩
  read _ := vaultCall_keeps fun _ hk _ _ => ⟨hk, trivial⟩
  proven := vaultCall_keeps fun _ hk hc _ => ⟨hk, hc⟩
  movedIn := vaultCall_keeps fun _ hk hc hg => ⟨kept_movedIn hk hc hg, trivial⟩
  trashed := vaultCall_keeps fun _ hk _ _ =>
    ⟨kept_withFile hk (tempOf_ne platform) (tempOf_ne_rollbackOf platform), trivial⟩
  found locator := by
    refine vaultCall_keeps fun w hk _ _ => ⟨hk, ?_⟩
    rintro rfl
    simp [hk.clear]

theorem sequenced_keeps (hc : isContentOperation event.operation = true)
    {i : ContentApplyInput Bytes} (ht : i.tempToken = event.eventId) :
    KeepingSeam platform event target (sequencedSeam platform i) where
  created := structural_keeps.created
  read locator := by
    refine Routine.Holds.bind (structural_keeps.read locator) fun b _ => ?_
    refine Routine.Holds.bind Routine.Holds.get fun l _ => ?_
    split
    · exact Routine.Holds.throw _
    · exact pure_keeps _
  proven := by
    refine Routine.Holds.bind structural_keeps.proven fun b hn => ?_
    refine Routine.Holds.bind Routine.Holds.get fun l _ => ?_
    split
    · exact Routine.Holds.throw _
    · exact Routine.Holds.pure hn
  movedIn := by
    have own : isOwnCall event (.transitionRemoteApply
        ⟨i.eventSequence, .tempVerified, some (some i.tempToken), none⟩) := by
      right
      simp [DeviceSyncEvent.prepared, hc, ht]
    refine Routine.Holds.bind Routine.Holds.get fun l _ => ?_
    split
    · refine Routine.Holds.bind (Routine.Holds.set _) fun _ _ => ?_
      refine Routine.Holds.bind (Routine.Holds.tryCatch (storeCall_keeps own) fun e => ?_)
        fun _ _ => structural_keeps.movedIn
      exact Routine.Holds.bind (Routine.Holds.set _) fun _ _ => Routine.Holds.throw _
    · exact structural_keeps.movedIn
  trashed := structural_keeps.trashed
  found := structural_keeps.found

/-! ## The primitive -/

section Primitive

variable {seam : VaultMutationSeam Bytes Locals} {α : Type} {Q : α → Prop}

theorem atStage_keeps {ra : AtomicVaultMutationStage} {b : VaultRoutine Bytes Locals α}
    (hk : Keeping platform event target Q b) :
    Keeping platform event target Q (atStage ra b) :=
  Routine.Holds.tryCatch hk fun _ => Routine.Holds.throw _

theorem trashQuietly_keeps (hs : KeepingSeam platform event target seam) :
    Keeping platform event target (fun _ => True)
      (trashQuietly seam (tempOf platform target event.eventId)) :=
  Routine.Holds.tryCatch hs.trashed fun _ => pure_keeps _

theorem stageBytes_keeps (hs : KeepingSeam platform event target seam)
    {i : AtomicVaultMutationInput Bytes} (at_ : i.targetLocator = target)
    (ht : i.tempToken = event.eventId) :
    Keeping platform event target (fun _ => True) (stageBytes platform seam i) := by
  unfold stageBytes
  simp only [at_, ht]
  refine Routine.Holds.bind (atStage_keeps (Q := fun _ => True) ?_) fun _ _ => ?_
  · refine Routine.Holds.bind (hs.found _) fun p _ => ?_
    split
    · exact Routine.Holds.bind hs.trashed fun _ _ => hs.created _
    · exact hs.created _
  · refine Routine.Holds.bind (atStage_keeps (hs.read _)) fun s _ => ?_
    split
    · exact pure_keeps _
    · exact Routine.Holds.bind (trashQuietly_keeps hs) fun _ _ => Routine.Holds.throw _

theorem proveBase_keeps (hs : KeepingSeam platform event target seam)
    {i : AtomicVaultMutationInput Bytes} (at_ : i.targetLocator = target)
    (ht : i.tempToken = event.eventId) :
    Keeping platform event target (· = false) (proveBase platform seam i) := by
  unfold proveBase
  simp only [at_, ht]
  refine Routine.Holds.bind (atStage_keeps hs.proven) fun c hn => ?_
  split
  · exact Routine.Holds.bind (trashQuietly_keeps hs) fun _ _ => Routine.Holds.throw _
  · exact Routine.Holds.pure (by rw [hn]; rfl)

theorem stageVerifyAndReplace_keeps (hs : KeepingSeam platform event target seam)
    {i : AtomicVaultMutationInput Bytes} (at_ : i.targetLocator = target)
    (ht : i.tempToken = event.eventId) :
    Keeping platform event target (fun _ => True)
      (stageVerifyAndReplaceVaultContent platform seam i) := by
  refine Routine.Holds.bind (stageBytes_keeps hs at_ ht) fun _ _ => ?_
  refine Routine.Holds.bind (proveBase_keeps hs at_ ht) ?_
  rintro _ rfl
  refine Routine.Holds.bind (Q := fun _ => True) ?_ fun _ _ => ?_
  · simp only [replaceTarget, at_, ht]
    exact atStage_keeps hs.movedIn
  · refine Routine.Holds.bind (Q := fun _ => True) ?_ fun _ _ => pure_keeps _
    refine Routine.Holds.bind (atStage_keeps (hs.read _)) fun f _ => ?_
    split
    · exact pure_keeps _
    · exact Routine.Holds.throw _

theorem cleanSibling_keeps (hs : KeepingSeam platform event target seam)
    {s : Locator} (hna : s = tempOf platform target event.eventId ∨
      s = rollbackOf platform target event.eventId) :
    Keeping platform event target (fun _ => True) (cleanSibling seam s) := by
  refine Routine.Holds.tryCatch ?_ fun _ => pure_keeps _
  refine Routine.Holds.bind (hs.found _) fun p hn => ?_
  rcases hna with rfl | rfl
  · split
    · exact Routine.Holds.bind hs.trashed fun _ _ => pure_keeps _
    · exact pure_keeps _
  · rw [hn rfl]
    exact pure_keeps _

end Primitive

/-! ## The writer and its recovery -/

section Writer

theorem stageAndReplace_keeps (hc : isContentOperation event.operation = true)
    {i : ContentApplyInput Bytes} (at_ : i.targetLocator = target)
    (ht : i.tempToken = event.eventId) :
    Keeping platform event target (fun _ => True)
      (stageAndReplace platform i : VaultRoutine Bytes Locals VerifiedVaultMutation) := by
  refine Routine.Holds.bind (structural_keeps.found _) fun o _ => ?_
  split
  · exact Routine.Holds.throw _
  split
  · exact Routine.Holds.throw _
  refine Routine.Holds.bind (Routine.Holds.block (Q := fun _ => True) ?_) fun _ _ => pure_keeps _
  refine Routine.Holds.tryCatch
    (stageVerifyAndReplace_keeps (sequenced_keeps hc ht) at_ ht) fun e => ?_
  refine Routine.Holds.bind Routine.Holds.get fun l _ => ?_
  split <;> exact Routine.Holds.throw _

variable {row : RemoteApplyOperation}

structure RowOf (event : DeviceSyncEvent) (target : Locator) (row : RemoteApplyOperation) :
    Prop where
  content : contentTargetOf row = some target
  notUpdate : (row.operation == .updated) = false
  token : row.tempToken = some event.eventId

theorem rowOf_owned (fresh : event.operation = .created ∨ event.operation = .restored)
    (at_ : event.resultingLocator = some target) (how : event.Owns row) :
    RowOf event target row := by
  have ho : row.operation = event.operation := congrArg PreparedRemoteApply.operation how
  have locator := congrArg PreparedRemoteApply.targetLocator how
  have ht := congrArg PreparedRemoteApply.tempToken how
  rcases fresh with hc | hr
  · refine ⟨?_, by simp [ho, hc], ?_⟩
    · simpa [contentTargetOf, ho, hc, DeviceSyncEvent.prepared,
        DeviceSyncEvent.targetLocatorOf, at_] using locator
    · simpa [DeviceSyncEvent.prepared, hc, isContentOperation] using ht
  · refine ⟨?_, by simp [ho, hr], ?_⟩
    · simpa [contentTargetOf, ho, hr, DeviceSyncEvent.prepared,
        DeviceSyncEvent.targetLocatorOf, at_] using locator
    · simpa [DeviceSyncEvent.prepared, hr, isContentOperation] using ht

variable (isRow : RowOf event target row)

include isRow

theorem cleanSiblingsOf_keeps : Keeping platform event target (fun _ => True)
    (cleanSiblingsOf platform row : VaultRoutine Bytes Locals (Option DeviceSyncReason)) := by
  unfold cleanSiblingsOf
  simp only [isRow.content, isRow.token, cleanupExactVaultSiblings]
  refine Routine.Holds.bind (Q := fun _ => True) ?_ fun _ _ => pure_keeps _
  refine Routine.Holds.bind (cleanSibling_keeps structural_keeps (.inl rfl)) fun _ _ => ?_
  exact Routine.Holds.bind (cleanSibling_keeps structural_keeps (.inr rfl)) fun _ _ => pure_keeps _

theorem recoverPrepared_keeps : Keeping platform event target (fun _ => True)
    (recoverPrepared platform row : VaultRoutine Bytes Locals VaultRecovery) := by
  unfold recoverPrepared
  simp only [isRow.content]
  refine Routine.Holds.bind (cleanSiblingsOf_keeps isRow) fun _ _ => ?_
  refine Routine.Holds.bind (structural_keeps.read _) fun tb _ => ?_
  split_ifs <;> exact pure_keeps _

theorem resumeReplace_keeps : Keeping platform event target (fun _ => True)
    (resumeReplace platform row target (tempOf platform target event.eventId)
      (rollbackOf platform target event.eventId) : VaultRoutine Bytes Locals VaultRecovery) := by
  unfold resumeReplace
  simp only [isRow.notUpdate, Bool.false_eq_true, if_false]
  refine Routine.Holds.bind (Routine.Holds.tryCatch structural_keeps.movedIn fun _ =>
    Routine.Holds.throw _) fun _ _ => ?_
  refine Routine.Holds.bind (structural_keeps.read _) fun f _ => ?_
  split
  · exact Routine.Holds.bind (cleanSiblingsOf_keeps isRow) fun _ _ => pure_keeps _
  · exact pure_keeps _

theorem recoverTempVerified_keeps : Keeping platform event target (fun _ => True)
    (recoverTempVerified platform row : VaultRoutine Bytes Locals VaultRecovery) := by
  unfold recoverTempVerified
  simp only [isRow.content, isRow.token]
  split
  · exact pure_keeps _
  refine Routine.Holds.bind (structural_keeps.found _) fun te _ => ?_
  refine Routine.Holds.bind (structural_keeps.read _) fun tb _ => ?_
  split
  · exact Routine.Holds.bind (cleanSiblingsOf_keeps isRow) fun _ _ => pure_keeps _
  split
  · split
    · exact resumeReplace_keeps isRow
    · exact pure_keeps _
  split
  · refine Routine.Holds.bind (structural_keeps.found _) fun hr hn => ?_
    rw [hn rfl]
    exact pure_keeps _
  split
  · exact resumeReplace_keeps isRow
  · refine Routine.Holds.bind (structural_keeps.found _) fun hr hn => ?_
    rw [hn rfl]
    exact pure_keeps _

theorem recoverVaultMutated_keeps : Keeping platform event target (fun _ => True)
    (recoverVaultMutated platform row : VaultRoutine Bytes Locals VaultRecovery) := by
  refine Routine.Holds.bind (cleanSiblingsOf_keeps isRow) fun _ _ => ?_
  split
  · exact pure_keeps _
  dsimp only
  split
  · refine Routine.Holds.bind (pure_keeps _) fun pb _ => ?_
    split <;> exact pure_keeps _
  · refine Routine.Holds.bind (structural_keeps.read _) fun pb _ => ?_
    split <;> exact pure_keeps _

theorem recoverApply_keeps : Keeping platform event target (fun _ => True)
    (recoverApply platform row : VaultRoutine Bytes Locals VaultRecovery) := by
  unfold recoverApply
  split
  · exact recoverPrepared_keeps isRow
  · exact recoverTempVerified_keeps isRow
  · exact recoverVaultMutated_keeps isRow
  · exact Routine.Holds.bind (cleanSiblingsOf_keeps isRow) fun _ _ => pure_keeps _
  · exact Routine.Holds.bind (cleanSiblingsOf_keeps isRow) fun _ _ => pure_keeps _

end Writer

/-! ## The applier -/

section Applier

variable {α : Type} {Q : α → Prop}

theorem closedStoreReasonOf_keeps (e : Thrown) : Keeping platform event target (fun _ => True)
    (closedStoreReasonOf e : VaultRoutine Bytes Locals DeviceSyncReason) := by
  unfold closedStoreReasonOf
  split
  · exact Routine.Holds.bind readRepository_keeps fun _ _ => pure_keeps _
  · exact pure_keeps _

theorem mapped_keeps (s : ApplyFailureStage) (e : Thrown) : Keeping platform event target Q (do
        let m ← closedStoreReasonOf e
        observeApply s m
        throw (.api ⟨m, false⟩) : VaultRoutine Bytes Locals α) :=
  Routine.Holds.bind (closedStoreReasonOf_keeps e) fun _ _ =>
    Routine.Holds.bind (observeApply_keeps _ _) fun _ _ => Routine.Holds.throw _

theorem refusal_keeps (s : ApplyFailureStage) (r : DeviceSyncReason) (f : ClosedFailure) :
    Keeping platform event target Q (do
        observeApply s r
        throw (.api f) : VaultRoutine Bytes Locals α) :=
  Routine.Holds.bind (observeApply_keeps _ _) fun _ _ => Routine.Holds.throw _

theorem storeCatch_keeps {s : ApplyFailureStage} {b : VaultRoutine Bytes Locals α}
    (hk : Keeping platform event target Q b) :
    Keeping platform event target Q (storeCatch s b) := by
  refine Routine.Holds.tryCatch hk fun e => ?_
  split
  · exact Routine.Holds.throw _
  · exact mapped_keeps _ _

theorem terminalize_keeps (s : Nat) (o : TerminalOutcome)
    (r : Option DeviceSyncReason) (st : ApplyFailureStage) :
    Keeping platform event target (fun _ => True)
      (terminalize s o r st : VaultRoutine Bytes Locals TerminalDeviceEvent) :=
  Routine.Holds.bind (storeCatch_keeps (storeCall_keeps trivial)) fun _ _ => pure_keeps _

theorem transitionMutated_keeps (s : Nat) (rt : Option Nat)
    (st : ApplyFailureStage) : Keeping platform event target (fun _ => True)
      (transitionMutated s rt st : VaultRoutine Bytes Locals Unit) :=
  storeCatch_keeps (storeCall_keeps (.inl rfl))

theorem observeCleanup_keeps (r : VaultRecovery) : Keeping platform event target (fun _ => True)
      (observeCleanup r : VaultRoutine Bytes Locals Unit) := by
  unfold observeCleanup
  split
  · exact observeApply_keeps _ _
  · exact pure_keeps _

theorem downloadBytes_keeps (v : Option (VerifiedBytes Bytes))
    (d : Except DownloadFailure Bytes) : Keeping platform event target (fun _ => True)
      (downloadBytes event v d : VaultRoutine Bytes Locals (Option Bytes)) := by
  unfold downloadBytes
  split
  · split
    · exact pure_keeps _
    · split
      · exact pure_keeps _
      · exact Routine.Holds.throw _
      · exact refusal_keeps _ _ _
  · exact pure_keeps _

theorem settleWriterFailure_keeps (e : Thrown) : Keeping platform event target (fun _ => True)
    (settleWriterFailure event e : VaultRoutine Bytes Locals TerminalDeviceEvent) := by
  unfold settleWriterFailure
  split
  · exact Routine.Holds.throw _
  · refine Routine.Holds.bind (observeApply_keeps _ _) fun _ _ => ?_
    split
    · exact terminalize_keeps _ _ _ _
    · exact Routine.Holds.throw _
  · exact mapped_keeps _ _

variable (fresh : event.operation = .created ∨ event.operation = .restored)
  (at_ : event.resultingLocator = some target)

include fresh

theorem content_of_fresh : isContentOperation event.operation = true := by
  rcases fresh with hc | hr
  · rw [hc]
    rfl
  · rw [hr]
    rfl

include at_

theorem mutateVault_keeps (b : Option Bytes) : Keeping platform event target (fun _ => True)
    (mutateVault platform event b : VaultRoutine Bytes Locals Unit) := by
  have hs : event.contentTargetLocator = some target ∧
      (event.operation == .deleted) = false ∧ isLocatorOperation event.operation = false := by
    rcases fresh with ho | ho <;>
      simp [DeviceSyncEvent.contentTargetLocator, DeviceSyncEvent.targetLocatorOf, ho, at_,
        isLocatorOperation]
  obtain ⟨hc, hn, hno⟩ := hs
  unfold mutateVault
  simp only [hn, hno, hc, Bool.false_eq_true, if_false]
  split
  · next hf _ =>
    cases hf
    exact Routine.Holds.bind (stageAndReplace_keeps (content_of_fresh fresh) rfl rfl)
      fun _ _ => pure_keeps _
  · exact refusal_keeps _ _ _

theorem cleanupApplied_keeps : Keeping platform event target (fun _ => True)
    (cleanupApplied platform event : VaultRoutine Bytes Locals Unit) := by
  refine Routine.Holds.bind readRepository_keeps fun repository ho => ?_
  split
  · next row hr =>
    split
    · next he =>
      have isRow := rowOf_owned fresh at_ (owns_unfinished ho hr (by simpa using he))
      refine Routine.Holds.tryCatch ?_ fun e => ?_
      · refine Routine.Holds.bind (recoverApply_keeps isRow) fun r _ => ?_
        unfold observeRecovery
        split
        · exact observeApply_keeps _ _
        · exact observeCleanup_keeps _
      · split <;> exact observeApply_keeps _ _
    · exact pure_keeps _
  · exact pure_keeps _

theorem applyEvent_keeps (v : Option (VerifiedBytes Bytes))
    (d : Except DownloadFailure Bytes) : Keeping platform event target (fun _ => True)
      (applyEvent platform event v d : VaultRoutine Bytes Locals TerminalDeviceEvent) := by
  refine Routine.Holds.bind readRepository_keeps fun repository _ => ?_
  split
  · exact pure_keeps _
  split
  · exact refusal_keeps _ _ _
  split
  · exact refusal_keeps _ _ _
  refine Routine.Holds.bind (storeCatch_keeps (Routine.Holds.bind (storeCall_keeps rfl)
    fun _ _ => storeCall_keeps trivial)) fun _ _ => ?_
  refine Routine.Holds.bind (downloadBytes_keeps v d) fun b _ => ?_
  refine Routine.Holds.bind (Q := fun _ => True)
    (Routine.Holds.tryCatch ?_ fun e => ?_) fun s _ => ?_
  · exact Routine.Holds.bind (mutateVault_keeps fresh at_ b) fun _ _ => pure_keeps _
  · exact Routine.Holds.bind (settleWriterFailure_keeps e) fun _ _ => pure_keeps _
  · split
    · exact pure_keeps _
    · refine Routine.Holds.bind (transitionMutated_keeps _ _ _) fun _ _ => ?_
      exact Routine.Holds.bind (cleanupApplied_keeps fresh at_) fun _ _ => terminalize_keeps _ _ _ _

theorem recoverOperation_keeps {row : RemoteApplyOperation} (ho : event.Owns row) :
    Keeping platform event target (fun _ => True)
      (recoverOperation platform row : VaultRoutine Bytes Locals Unit) := by
  have hb (r : DeviceSyncReason) : Keeping platform event target (fun _ => True)
      (requestBarrier r : VaultRoutine Bytes Locals Unit) :=
    storeCatch_keeps <| Routine.Holds.bind (storeCall_keeps trivial) fun _ _ =>
      Routine.Holds.bind readRepository_keeps fun _ _ => storeCall_keeps trivial
  have hs (o : TerminalOutcome) (r : Option DeviceSyncReason) :
      Keeping platform event target (fun _ => True) (do
          let _ ← terminalize row.eventSequence o r .recovery
          return () : VaultRoutine Bytes Locals Unit) :=
    Routine.Holds.bind (terminalize_keeps _ _ _ _) fun _ _ => pure_keeps _
  refine Routine.Holds.bind (Q := fun _ => True)
    (Routine.Holds.tryCatch (recoverApply_keeps (rowOf_owned fresh at_ ho)) fun e => ?_)
    fun re _ => ?_
  · split
    · exact Routine.Holds.throw _
    · exact refusal_keeps _ _ _
    · exact mapped_keeps _ _
  refine Routine.Holds.bind (observeCleanup_keeps re) fun _ _ => ?_
  unfold settleRecovery
  split
  · split
    · exact pure_keeps _
    refine Routine.Holds.bind (storeCatch_keeps (storeCall_keeps trivial)) fun _ _ => ?_
    refine Routine.Holds.bind readRepository_keeps fun repository _ => ?_
    split
    · exact pure_keeps _
    · exact hb _
  · split
    · exact Routine.Holds.bind (transitionMutated_keeps _ _ _) fun _ _ => hs _ _
    · exact hs _ _
  · exact hs _ _
  · exact Routine.Holds.bind (observeApply_keeps _ _) fun _ _ => hb _

theorem settleVaultFailedApply_keeps (r : DeviceSyncReason) :
    Keeping platform event target (fun _ => True) (settleVaultFailedApply platform event r :
        VaultRoutine Bytes Locals TerminalDeviceEvent) := by
  refine Routine.Holds.bind readRepository_keeps fun repository ho => ?_
  split
  · exact pure_keeps _
  next l hr =>
  have isRow := rowOf_owned fresh at_ (owns_found ho hr)
  split
  · exact refusal_keeps _ _ _
  refine Routine.Holds.bind (Q := fun _ => True)
    (Routine.Holds.tryCatch (Routine.Holds.bind (recoverApply_keeps isRow) fun _ _ =>
      pure_keeps _) fun e => ?_) fun re _ => ?_
  · split
    · exact Routine.Holds.throw _
    · refine Routine.Holds.bind (observeApply_keeps _ _) fun _ _ => ?_
      exact Routine.Holds.bind (terminalize_keeps _ _ _ _) fun _ _ => pure_keeps _
    · exact mapped_keeps _ _
  split
  · refine Routine.Holds.bind (observeCleanup_keeps _) fun _ _ => ?_
    unfold settleLeftover
    split
    · exact Routine.Holds.bind (storeCatch_keeps (storeCall_keeps trivial)) fun _ _ => pure_keeps _
    · split
      · exact Routine.Holds.bind (transitionMutated_keeps _ _ _) fun _ _ => terminalize_keeps _ _ _ _
      · exact terminalize_keeps _ _ _ _
    · exact terminalize_keeps _ _ _ _
    · exact refusal_keeps _ _ _
  · exact pure_keeps _

theorem startJob_keeps {w : VaultWorld Bytes} {job : EventJob Bytes}
    {p : CallProgram (VaultWorld Bytes) CallPlace Unit}
    (hk : ForeignKept platform event target w)
    (hs : startJob platform event w job = some p) :
    Keeps (ForeignKept platform event target) (TargetClear platform target) (fun _ => True) p := by
  cases job with
  | apply v d =>
    cases hs
    exact Routine.Holds.detach (applyEvent_keeps fresh at_ v d)
  | recover =>
    simp only [startJob] at hs
    split at hs
    · next o hr =>
      split at hs
      · next he =>
        cases hs
        exact Routine.Holds.detach (recoverOperation_keeps fresh at_
          (owns_unfinished hk.owned hr (by simpa using he)))
      · cases hs
    · cases hs
  | settle r =>
    cases hs
    exact Routine.Holds.detach (settleVaultFailedApply_keeps fresh at_ r)

end Applier

end ForeignBytesLemmas

open ForeignBytesLemmas

/-- Bytes that somebody else has placed at the target of a created or restored event are there in
every state of every run in which the target is absent where the replace reads it. -/
theorem foreign_bytes_survive (platform : VaultPlatform Bytes) (event : DeviceSyncEvent)
    (target : Locator) (fresh : event.operation = .created ∨ event.operation = .restored)
    (at_ : event.resultingLocator = some target)
    {lane : Lane (VaultWorld Bytes) CallPlace Unit}
    (reached : (foreignMachine platform event target).GuardedReachable
      (MeetsCall (TargetClear platform target)) lane)
    (bytes : Bytes) (placed : lane.world.foreign = some bytes) :
    lane.world.files target = some bytes := by
  suffices hk : ForeignKept platform event target lane.world from hk.kept bytes placed
  refine (lane_keeps ?_ ?_ ?_ reached).1
  · rintro w ⟨ho, hc, hn⟩
    refine ⟨ho, hc, fun bytes placed => ?_⟩
    rw [hn] at placed
    cases placed
  · exact fun w job p hk hs => startJob_keeps fresh at_ hk hs
  · rintro (bytes | f | n) w hk
    · refine ⟨hk.owned, ?_, fun placed he => ?_⟩
      · simp only [aroundLane, VaultWorld.withFile_files,
          Function.update_of_ne (rollbackOf_ne platform)]
        exact hk.clear
      · cases he
        simp [aroundLane]
    · exact ⟨hk.owned, hk.clear, hk.kept⟩
    · exact ⟨n.2, hk.clear, hk.kept⟩
/-! ### Runs of one created note -/

/-- A note `a.md` with the text `new`, created elsewhere. -/
def createdNote : DeviceSyncEvent where
  eventId := 1
  eventSequence := 1
  operation := .created
  sourceId := 1
  originDeviceId := none
  baseVersionId := none
  currentVersionId := some 1
  baseFingerprint := none
  currentFingerprint := some (textFingerprint "new")
  priorLocator := none
  resultingLocator := some "a.md"
  tombstoneId := none

def emptyLane : Lane (VaultWorld String) CallPlace Unit := ⟨.answering fun _ => none, none⟩

/-- The apply of the note, with somebody else's `theirs` placed at `a.md` after some of its calls. -/
def placedDuring (before after : Nat) :
    List (LaneAction (EventJob String) (AroundEvent createdNote String)) :=
  .start (.apply none (.ok "new")) :: List.replicate before .advance ++
    .interfere (.place "theirs") :: List.replicate after .advance

/-- `TargetClear`, checked. -/
def clearCheck (platform : VaultPlatform String) (target : Locator)
    (lane : Lane (VaultWorld String) CallPlace Unit)
    (action : LaneAction (EventJob String) (AroundEvent createdNote String)) : Bool :=
  match action, lane.program with
  | .advance, some (.call .proveBase _ _) => (lane.world.files target).isNone
  | .advance, some (.call .replace _ _) =>
    !platform.renameReplaces || (lane.world.files target).isNone
  | _, _ => true

theorem clearCheck_sound {platform : VaultPlatform String} {target : Locator}
    (l : Lane (VaultWorld String) CallPlace Unit)
    (a : LaneAction (EventJob String) (AroundEvent createdNote String))
    (hc : clearCheck platform target l a = true) :
    MeetsCall (TargetClear platform target) l a := by
  cases a with
  | advance =>
    simp only [MeetsCall]
    rcases hn : l.program with _ | (_ | ⟨p, e, r⟩)
    · trivial
    · trivial
    · simp only [clearCheck, hn] at hc
      cases p with
      | proveBase => simpa [TargetClear] using hc
      | replace =>
        intro hr
        simpa [hr] using hc
      | elsewhere => trivial
  | _ => trivial

theorem emptyLane_init :
    (foreignMachine (textPlatform false) createdNote "a.md").Init emptyLane := by
  refine ⟨⟨?_, rfl, rfl⟩, rfl⟩
  intro row hm
  cases hm

/-- Placed after the target was read, the foreign note refuses the rename and stays. -/
theorem foreign_bytes_survive_late : ∃ lane : Lane (VaultWorld String) CallPlace Unit,
    lane.world.foreign = some "theirs" ∧ lane.program = none ∧
      lane.world.files "a.md" = some "theirs" := by
  obtain ⟨lane, ran, hf, hi⟩ : ∃ lane,
      (foreignMachine (textPlatform false) createdNote "a.md").run emptyLane (placedDuring 8 4) =
        some lane ∧ lane.world.foreign = some "theirs" ∧ lane.program = none :=
    ⟨_, rfl, rfl, rfl⟩
  refine ⟨lane, hf, hi, ?_⟩
  exact foreign_bytes_survive (textPlatform false) createdNote "a.md" (.inl rfl) rfl
    (Machine.guardedReachable_of_run clearCheck_sound emptyLane_init ran (by decide +kernel))
    "theirs" hf

/-- Placed after the writer found the target absent, and before the target is read, the foreign
note is moved aside and removed, and the event ends as applied. -/
theorem foreign_bytes_removed : ∃ lane,
    (foreignMachine (textPlatform false) createdNote "a.md").Reachable lane ∧
      lane.program = none ∧ lane.world.foreign = some "theirs" ∧
      lane.world.repository.state.appliedSequence = 1 ∧
      (∀ row ∈ lane.world.repository.remoteApplyOperations, row.safeErrorCode = none) ∧
      ∀ locator ∈ ["a.md", tempOf (textPlatform false) "a.md" 1,
        rollbackOf (textPlatform false) "a.md" 1], lane.world.files locator ≠ some "theirs" := by
  obtain ⟨lane, ran, hi, hf, ha, hr, hfi⟩ : ∃ lane,
      (foreignMachine (textPlatform false) createdNote "a.md").run emptyLane (placedDuring 4 16) =
        some lane ∧ lane.program = none ∧ lane.world.foreign = some "theirs" ∧
        lane.world.repository.state.appliedSequence = 1 ∧
        (lane.world.repository.remoteApplyOperations.all (·.safeErrorCode.isNone)) = true ∧
        ["a.md", tempOf (textPlatform false) "a.md" 1, rollbackOf (textPlatform false) "a.md" 1].all
          (fun locator => lane.world.files locator != some "theirs") = true :=
    ⟨_, rfl, rfl, rfl, by decide +kernel, by decide +kernel, by decide +kernel⟩
  refine ⟨lane, Machine.reachable_of_run emptyLane_init ran, hi, hf, ha, ?_, ?_⟩
  · simpa using hr
  · simpa using hfi

end PersonalOs.DeviceSync
