import PersonalOs.SourceStore.Locks

/-!
# Which commits can deadlock

`policy_state_lock_statement` promises one global order: idempotency lock, workspace
policy-state row, source lock. Publications keep it; a lifecycle commit takes the source
lock first and the policy-state row last.
-/

namespace PersonalOs.SourceStore

open LockOrder
open scoped List

variable {ι : Type*} {word : LockWord}

def SameOrder (first second : List LockName) : Prop :=
  ∀ l m, l ≠ m → [l, m] <+ first → ¬ [m, l] <+ second

/-- A publication of the workspace, with the source lock it takes behind the policy-state
row. -/
def CommitTransaction.publication? (word : LockWord) :
    CommitTransaction → Option (WorkspaceId × LockName)
  | .create command _ => some (command.workspaceId, sourceLock word command.sourceId)
  | .update command _ _ => some (command.workspaceId, sourceLock word command.sourceId)
  | _ => none

/-- Two commits that take two common locks in opposite orders. -/
inductive InverseCommits (word : LockWord) : CommitTransaction → CommitTransaction → Prop
  | publication {tx : CommitTransaction} {command : SourceLifecycleCommand}
      {device : LifecycleDeviceContext} {reads : LifecycleReads}
      (meets : tx.publication? word =
        some (device.workspaceId, sourceLock word command.sourceId)) :
      InverseCommits word tx (.lifecycle command device reads)
  | lifecycle {tx : CommitTransaction} {command : SourceLifecycleCommand}
      {device : LifecycleDeviceContext} {reads : LifecycleReads}
      (meets : tx.publication? word =
        some (device.workspaceId, sourceLock word command.sourceId)) :
      InverseCommits word (.lifecycle command device reads) tx
  | locatorKeys {first second : SourceLifecycleCommand} {device device' : LifecycleDeviceContext}
      {reads reads' : LifecycleReads} {l m : LockName} (different : l ≠ m)
      (taken : (lockedLocators first reads.activeLocator).map (locatorLock word) = [l, m])
      (taken' : (lockedLocators second reads'.activeLocator).map (locatorLock word) = [m, l]) :
      InverseCommits word (.lifecycle first device reads) (.lifecycle second device' reads')
  | locatorRows {first second : SourceLifecycleCommand} {device device' : LifecycleDeviceContext}
      {reads reads' : LifecycleReads} {l m : LockName} (different : l ≠ m)
      (taken : openLocatorRows device.workspaceId first reads = [l, m])
      (taken' : openLocatorRows device'.workspaceId second reads' = [m, l]) :
      InverseCommits word (.lifecycle first device reads) (.lifecycle second device' reads')

/-- What a commit that others wait for can itself be waiting for. -/
def StandsAt (word : LockWord) (tx : CommitTransaction) (l : LockName) : Prop :=
  match tx with
  | .create command _ => l = sourceLock word command.sourceId
  | .update command _ _ => l = sourceLock word command.sourceId
  | .lifecycle command device reads =>
    l ∈ (lockedLocators command reads.activeLocator).map (locatorLock word) ∨
      l ∈ tombstoneLocks command reads ∨ l = .policyStateRow device.workspaceId
  | .capture _ | .resolve _ _ _ => False

/-- Commits of the family that can hold one another up: publications stopped at their source
lock and lifecycle commits stopped at a locator, tombstone or policy-state lock, none of
them holding a lock of another and each one's next lock held by another. -/
def CommitRing (word : LockWord) (txs : ι → CommitTransaction) (members : Finset ι)
    (stop : ι → Nat) : Prop :=
  Ring (fun t => commitLocks word (txs t)) members stop ∧
    ∀ t ∈ members, ∀ l ∈ (commitLocks word (txs t))[stop t]?, StandsAt word (txs t) l

namespace LockCycleLemmas

/-! ### The two orders -/

/-- The order of a publication, a capture and a resolution. -/
def publicationRank : LockName → Nat
  | .advisory .uploadOperation _ => 0
  | .advisory .idempotency _ => 1
  | .conflictRow _ => 2
  | .policyStateRow _ => 3
  | .advisory .source _ => 4
  | .sourceRow _ => 5
  | .versionRow _ _ => 6
  | .contentObjectRow _ => 7
  | _ => 8

/-- Operation, idempotency and conflict-row locks come first, in this order. -/
def preludeRank (l : LockName) : Option Nat :=
  if publicationRank l ≤ 2 then some (publicationRank l) else none

/-- The order of a lifecycle commit. -/
def lifecycleRank : LockName → Nat
  | .advisory .idempotency _ => 0
  | .advisory .source _ => 1
  | .sourceRow _ => 2
  | .advisory .locator _ => 3
  | .tombstoneRow _ => 4
  | .policyStateRow _ => 5
  | .openLocatorRow _ _ => 6
  | _ => 7

/-- Two locks of a lifecycle commit may come in either order only within one family: its
locator keys, or its open locator rows. -/
def LifecycleBefore (l m : LockName) : Prop :=
  lifecycleRank l < lifecycleRank m ∨
    lifecycleRank l = lifecycleRank m ∧ (lifecycleRank l = 3 ∨ lifecycleRank l = 6)

theorem publicationRank_sorted (tx : CommitTransaction)
    (ho : ∀ command device reads, tx ≠ .lifecycle command device reads) :
    ((commitLocks word tx).Pairwise fun l m => publicationRank l < publicationRank m) ∧
      ∀ l ∈ commitLocks word tx, publicationRank l ≤ 7 := by
  cases tx with
  | lifecycle command device reads => exact absurd rfl (ho command device reads)
  | create command bo =>
    cases bo <;>
      simp [commitLocks, publicationPrefix, idempotencyLock, sourceLock, uploadOperationLock,
        publicationRank]
  | update command bo cv =>
    cases bo <;> rcases cv with _ | ⟨v, o⟩ <;>
      simp [commitLocks, publicationPrefix, idempotencyLock, sourceLock, uploadOperationLock,
        publicationRank]
  | capture command =>
    cases command.sourceId <;> simp [commitLocks, idempotencyLock, sourceLock, publicationRank]
  | resolve command workspaceId si =>
    cases si <;> simp [commitLocks, idempotencyLock, sourceLock, publicationRank]

variable {command : SourceLifecycleCommand} {l m : LockName} {reads : LifecycleReads}
  {workspaceId : WorkspaceId} {locks : List LockName} {r : Nat} {device : LifecycleDeviceContext}
  {tx : CommitTransaction}

theorem rank_lockedLocators {a : Option NormalizedLocator}
    (ht : l ∈ (lockedLocators command a).map (locatorLock word)) :
    lifecycleRank l = 3 := by
  obtain ⟨lo, _, rfl⟩ := List.mem_map.mp ht
  rfl

theorem rank_tombstoneLocks (ht : l ∈ tombstoneLocks command reads) : lifecycleRank l = 4 := by
  unfold tombstoneLocks at ht
  split at ht <;> simp_all [lifecycleRank]

theorem rank_openLocatorRows (ht : l ∈ openLocatorRows workspaceId command reads) :
    lifecycleRank l = 6 := by
  unfold openLocatorRows at ht
  rcases List.mem_append.mp ht with hta | own
  · split at hta <;> simp_all [lifecycleRank]
  · split at own <;> simp_all [lifecycleRank]

theorem tombstoneLocks_length (command : SourceLifecycleCommand) (reads : LifecycleReads) :
    (tombstoneLocks command reads).length ≤ 1 := by
  unfold tombstoneLocks
  split <;> simp

theorem openLocatorRows_length (workspaceId : WorkspaceId) (command : SourceLifecycleCommand)
    (reads : LifecycleReads) : (openLocatorRows workspaceId command reads).length ≤ 2 := by
  unfold openLocatorRows
  split <;> split <;> simp

theorem lockedLocators_length (command : SourceLifecycleCommand)
    (a : Option NormalizedLocator) : (lockedLocators command a).length ≤ 2 := by
  unfold lockedLocators
  rw [List.length_insertionSort]
  have hs (o : Option NormalizedLocator) : o.toList.length ≤ 1 := by cases o <;> simp
  rw [List.length_append]
  exact Nat.add_le_add (hs _) (hs _)

theorem pairwise_of_family (hf : r = 3 ∨ r = 6) (hr : ∀ l ∈ locks, lifecycleRank l = r) :
    locks.Pairwise LifecycleBefore := by
  refine List.Pairwise.imp_of_mem ?_ (List.pairwise_of_forall (R := fun _ _ => True) fun _ _ => trivial)
  intro l m hl hm _
  rw [LifecycleBefore, hr l hl, hr m hm]
  exact .inr ⟨rfl, hf⟩

/-- Locks in `LifecycleBefore` order, none of them above rank `r`. -/
def OrderedUpTo (r : Nat) (locks : List LockName) : Prop :=
  locks.Pairwise LifecycleBefore ∧ ∀ l ∈ locks, lifecycleRank l ≤ r

theorem OrderedUpTo.append {r' : Nat} {b a : List LockName} (hf : OrderedUpTo r b)
    (hh : r < r') (hs : a.Pairwise LifecycleBefore)
    (hr : ∀ l ∈ a, lifecycleRank l = r') : OrderedUpTo r' (b ++ a) := by
  constructor
  · rw [List.pairwise_append]
    refine ⟨hf.1, hs, fun l hl m hm => .inl ?_⟩
    rw [hr m hm]
    exact Nat.lt_of_le_of_lt (hf.2 l hl) hh
  · intro l ht
    rcases List.mem_append.mp ht with b | a
    · exact (hf.2 l b).trans hh.le
    · exact (hr l a).le

theorem pairwise_of_short (hs : locks.length ≤ 1) : locks.Pairwise LifecycleBefore := by
  match locks, hs with
  | [], _ => exact .nil
  | [l], _ => exact List.pairwise_singleton _ l

theorem lifecycle_ordered (command : SourceLifecycleCommand)
    (device : LifecycleDeviceContext) (reads : LifecycleReads) :
    OrderedUpTo 6 (commitLocks word (.lifecycle command device reads)) := by
  have hs : OrderedUpTo 2 [idempotencyLock word device.workspaceId command.idempotencyKey,
      sourceLock word command.sourceId, .sourceRow command.sourceId] := by
    simp [OrderedUpTo, idempotencyLock, sourceLock, LifecycleBefore, lifecycleRank]
  have hk : ∀ l ∈ (lockedLocators command reads.activeLocator).map (locatorLock word),
      lifecycleRank l = 3 := fun l => rank_lockedLocators
  have ht : ∀ l ∈ tombstoneLocks command reads, lifecycleRank l = 4 := fun l => rank_tombstoneLocks
  have hr : ∀ l ∈ openLocatorRows device.workspaceId command reads, lifecycleRank l = 6 :=
    fun l => rank_openLocatorRows
  have hp : ∀ l ∈ [LockName.policyStateRow device.workspaceId], lifecycleRank l = 5 := by
    simp [lifecycleRank]
  have hus := hs.append (by decide) (pairwise_of_family (.inl rfl) hk) hk
  have hu := hus.append (by decide) (pairwise_of_short (tombstoneLocks_length command reads)) ht
  have hup := hu.append (by decide) (List.pairwise_singleton _ _) hp
  have hw := hup.append (by decide) (pairwise_of_family (.inr rfl) hr) hr
  simpa [commitLocks] using hw

theorem filter_eq_self_of_rank (hr : ∀ l ∈ locks, lifecycleRank l = r) :
    locks.filter (lifecycleRank · = r) = locks := by
  rw [List.filter_eq_self]
  exact fun l ht => decide_eq_true (hr l ht)

theorem filter_eq_nil_of_rank {r' : Nat} (hr : ∀ l ∈ locks, lifecycleRank l = r) (ho : r ≠ r') :
    locks.filter (lifecycleRank · = r') = [] := by
  rw [List.filter_eq_nil_iff]
  intro l ht he
  exact ho ((hr l ht).symm.trans (of_decide_eq_true he))

theorem filter_locatorKeys (command : SourceLifecycleCommand) (device : LifecycleDeviceContext)
    (reads : LifecycleReads) :
    (commitLocks word (.lifecycle command device reads)).filter (lifecycleRank · = 3) =
      (lockedLocators command reads.activeLocator).map (locatorLock word) := by
  simp only [commitLocks, List.filter_append, List.filter_cons]
  rw [filter_eq_self_of_rank fun l => rank_lockedLocators,
    filter_eq_nil_of_rank (fun l => rank_tombstoneLocks) (by decide),
    filter_eq_nil_of_rank (fun l => rank_openLocatorRows) (by decide)]
  simp [idempotencyLock, sourceLock, lifecycleRank]

theorem filter_openLocatorRows (command : SourceLifecycleCommand)
    (device : LifecycleDeviceContext) (reads : LifecycleReads) :
    (commitLocks word (.lifecycle command device reads)).filter (lifecycleRank · = 6) =
      openLocatorRows device.workspaceId command reads := by
  simp only [commitLocks, List.filter_append, List.filter_cons]
  rw [filter_eq_self_of_rank fun l => rank_openLocatorRows,
    filter_eq_nil_of_rank (fun l => rank_tombstoneLocks) (by decide),
    filter_eq_nil_of_rank (fun l => rank_lockedLocators) (by decide)]
  simp [idempotencyLock, sourceLock, lifecycleRank]

theorem family_eq_pair {f : List LockName}
    (hf : locks.filter (lifecycleRank · = r) = f) (hs : f.length ≤ 2)
    (ho : [l, m] <+ locks) (hl : lifecycleRank l = r) (hm : lifecycleRank m = r) :
    f = [l, m] := by
  have hk := ho.filter (lifecycleRank · = r)
  rw [hf, List.filter_cons_of_pos (by simp [hl]), List.filter_cons_of_pos (by simp [hm]),
    List.filter_nil] at hk
  exact (hk.eq_of_length_le hs).symm

theorem inverse_of_lifecycles {x y : SourceLifecycleCommand}
    {d' : LifecycleDeviceContext} {r' : LifecycleReads} (hd : l ≠ m)
    (ho : [l, m] <+ commitLocks word (.lifecycle x device reads))
    (hr : [m, l] <+ commitLocks word (.lifecycle y d' r')) :
    InverseCommits word (.lifecycle x device reads) (.lifecycle y d' r') := by
  have hb : LifecycleBefore l m :=
    List.pairwise_iff_forall_sublist.mp (lifecycle_ordered x device reads).1 ho
  have ha : LifecycleBefore m l :=
    List.pairwise_iff_forall_sublist.mp (lifecycle_ordered y d' r').1 hr
  have he : lifecycleRank l = lifecycleRank m ∧ (lifecycleRank l = 3 ∨ lifecycleRank l = 6) := by
    unfold LifecycleBefore at hb ha
    omega
  obtain ⟨he, hk | hro⟩ := he
  · have hs (command : SourceLifecycleCommand) (a : Option NormalizedLocator) :
        ((lockedLocators command a).map (locatorLock word)).length ≤ 2 := by
      rw [List.length_map]
      exact lockedLocators_length command a
    exact .locatorKeys hd (family_eq_pair (filter_locatorKeys x device reads) (hs _ _) ho hk
        (he ▸ hk))
      (family_eq_pair (filter_locatorKeys y d' r') (hs _ _) hr (he ▸ hk) hk)
  · exact .locatorRows hd
      (family_eq_pair (filter_openLocatorRows x device reads) (openLocatorRows_length _ _ _)
        ho hro (he ▸ hro))
      (family_eq_pair (filter_openLocatorRows y d' r')
        (openLocatorRows_length _ _ _) hr (he ▸ hro) hro)

theorem kinds_of_inverse (hb : publicationRank l < publicationRank m)
    (hk : publicationRank m ≤ 7) (ha : LifecycleBefore m l) (hk' : lifecycleRank l ≤ 6) :
    (∃ workspaceId, l = .policyStateRow workspaceId) ∧
      ((∃ key, m = .advisory .source key) ∨ ∃ si, m = .sourceRow si) := by
  rcases l with ⟨_ | _ | _ | _, _⟩ | _ | _ | _ | _ | _ | _ | _ <;>
    rcases m with ⟨_ | _ | _ | _, _⟩ | _ | _ | _ | _ | _ | _ | _ <;>
    simp_all [LifecycleBefore, publicationRank, lifecycleRank]

theorem publication_of_policyStateRow
    (ho : ∀ command device reads, tx ≠ .lifecycle command device reads)
    (ht : LockName.policyStateRow workspaceId ∈ commitLocks word tx) :
    ∃ lo, tx.publication? word = some (workspaceId, lo) ∧
      (∀ key, LockName.advisory .source key ∈ commitLocks word tx →
        LockName.advisory .source key = lo) ∧
      ∀ si, LockName.sourceRow si ∈ commitLocks word tx → lo = sourceLock word si := by
  cases tx with
  | lifecycle command device reads => exact absurd rfl (ho command device reads)
  | create command bo =>
    refine ⟨sourceLock word command.sourceId, ?_⟩
    cases bo <;>
      simp_all [commitLocks, publicationPrefix, idempotencyLock, sourceLock, uploadOperationLock,
        CommitTransaction.publication?]
  | update command bo cv =>
    refine ⟨sourceLock word command.sourceId, ?_⟩
    cases bo <;> rcases cv with _ | ⟨v, o⟩ <;>
      simp_all [commitLocks, publicationPrefix, idempotencyLock, sourceLock, uploadOperationLock,
        CommitTransaction.publication?]
  | capture command =>
    cases command.sourceId <;> simp_all [commitLocks, idempotencyLock, sourceLock]
  | resolve command workspaceId si =>
    cases si <;> simp_all [commitLocks, idempotencyLock, sourceLock]

theorem lifecycle_locks (hta : l ∈ commitLocks word (.lifecycle command device reads)) :
    (∀ workspaceId, l = .policyStateRow workspaceId → workspaceId = device.workspaceId) ∧
      (∀ key, l = .advisory .source key → l = sourceLock word command.sourceId) ∧
      ∀ si, l = .sourceRow si → si = command.sourceId := by
  have hf : l = idempotencyLock word device.workspaceId command.idempotencyKey ∨
      l = sourceLock word command.sourceId ∨ l = .sourceRow command.sourceId ∨
      l = .policyStateRow device.workspaceId ∨
      lifecycleRank l = 3 ∨ lifecycleRank l = 4 ∨ lifecycleRank l = 6 := by
    simp only [commitLocks, List.mem_append, List.mem_cons, List.not_mem_nil, or_false] at hta
    rcases hta with (((rfl | rfl | rfl) | hk) | ht) | rfl | hr
    · simp
    · simp
    · simp
    · simp [rank_lockedLocators hk]
    · simp [rank_tombstoneLocks ht]
    · simp
    · simp [rank_openLocatorRows hr]
  refine ⟨?_, ?_, ?_⟩
  · rintro workspaceId rfl
    simpa [idempotencyLock, sourceLock, lifecycleRank] using hf
  · rintro key rfl
    simpa [idempotencyLock, lifecycleRank] using hf
  · rintro si rfl
    simpa [idempotencyLock, sourceLock, lifecycleRank] using hf

/-- A commit that takes two locks in the opposite order of a lifecycle commit, and is not one
itself, is a publication of its workspace and source. -/
theorem publication_of_inverse (hot : ∀ command device reads, tx ≠ .lifecycle command device reads)
    (ho : [l, m] <+ commitLocks word tx)
    (hr : [m, l] <+ commitLocks word (.lifecycle command device reads)) :
    tx.publication? word = some (device.workspaceId, sourceLock word command.sourceId) := by
  have hlt : l ∈ commitLocks word tx := ho.subset (by simp)
  have hmt : m ∈ commitLocks word tx := ho.subset (by simp)
  have hl := lifecycle_locks (hr.subset (by simp : l ∈ [m, l]))
  have hm := lifecycle_locks (hr.subset (by simp : m ∈ [m, l]))
  obtain ⟨⟨workspaceId, rfl⟩, hs⟩ := kinds_of_inverse
    (List.pairwise_iff_forall_sublist.mp (publicationRank_sorted tx hot).1 ho)
    ((publicationRank_sorted tx hot).2 m hmt)
    (List.pairwise_iff_forall_sublist.mp (lifecycle_ordered command device reads).1 hr)
    ((lifecycle_ordered command device reads).2 _ (hr.subset (by simp)))
  obtain ⟨lo, hp, hk, hro⟩ := publication_of_policyStateRow hot hlt
  obtain rfl := hl.1 workspaceId rfl
  rcases hs with ⟨key, rfl⟩ | ⟨si, rfl⟩
  · rw [hp, ← hk key hmt, hm.2.1 key rfl]
  · rw [hp, hro si hmt, hm.2.2 si rfl]

theorem sourceLock_after_policyStateRow {lo : LockName}
    (hp : tx.publication? word = some (workspaceId, lo)) :
    [.policyStateRow workspaceId, lo] <+ commitLocks word tx := by
  have hi (bo : Option UploadOperationIdentity) (key : IdempotencyKey)
      (si : SourceId) : [.policyStateRow workspaceId, sourceLock word si] <+
        publicationPrefix word bo workspaceId key si := by
    unfold publicationPrefix
    exact List.sublist_append_of_sublist_right (List.sublist_cons_self _ _)
  cases tx with
  | create command bo =>
    cases hp
    exact hi _ _ _
  | update command bo cv =>
    cases hp
    exact List.sublist_append_of_sublist_left (hi _ _ _)
  | lifecycle command device reads => cases hp
  | capture command => cases hp
  | resolve command workspaceId si => cases hp

theorem policyStateRow_after_sourceLock (command : SourceLifecycleCommand)
    (device : LifecycleDeviceContext) (reads : LifecycleReads) :
    [sourceLock word command.sourceId, .policyStateRow device.workspaceId] <+
      commitLocks word (.lifecycle command device reads) := by
  have hs : [sourceLock word command.sourceId] <+
      [idempotencyLock word device.workspaceId command.idempotencyKey,
        sourceLock word command.sourceId, .sourceRow command.sourceId] ++
      (lockedLocators command reads.activeLocator).map (locatorLock word) ++
      tombstoneLocks command reads := by
    rw [List.singleton_sublist]
    simp
  have hp : [.policyStateRow device.workspaceId] <+
      .policyStateRow device.workspaceId :: openLocatorRows device.workspaceId command reads := by
    rw [List.singleton_sublist]
    exact List.mem_cons_self
  exact hs.append hp

theorem locatorKeys_sublist (command : SourceLifecycleCommand) (device : LifecycleDeviceContext)
    (reads : LifecycleReads) :
    (lockedLocators command reads.activeLocator).map (locatorLock word) <+
      commitLocks word (.lifecycle command device reads) := by
  rw [← filter_locatorKeys command device reads]
  exact List.filter_sublist

theorem openLocatorRows_sublist (command : SourceLifecycleCommand)
    (device : LifecycleDeviceContext) (reads : LifecycleReads) :
    openLocatorRows device.workspaceId command reads <+
      commitLocks word (.lifecycle command device reads) := by
  have hr : (commitLocks word (.lifecycle command device reads)).filter (lifecycleRank · = 6) =
      openLocatorRows device.workspaceId command reads := filter_openLocatorRows command device reads
  rw [← hr]
  exact List.filter_sublist

theorem sameOrder_iff (tx tx' : CommitTransaction) :
    SameOrder (commitLocks word tx) (commitLocks word tx') ↔ ¬ InverseCommits word tx tx' := by
  constructor
  · rintro he hi
    cases hi with
    | publication hm =>
      exact he _ _ (by simp [sourceLock]) (sourceLock_after_policyStateRow hm)
        (policyStateRow_after_sourceLock _ _ _)
    | lifecycle hm =>
      exact he _ _ (by simp [sourceLock]) (policyStateRow_after_sourceLock _ _ _)
        (sourceLock_after_policyStateRow hm)
    | locatorKeys hd ht ht' =>
      exact he _ _ hd (ht ▸ locatorKeys_sublist _ _ _) (ht' ▸ locatorKeys_sublist _ _ _)
    | locatorRows hd ht ht' =>
      exact he _ _ hd (ht ▸ openLocatorRows_sublist _ _ _) (ht' ▸ openLocatorRows_sublist _ _ _)
  · intro hn l m hd ho hr
    by_cases hl : ∃ command device reads, tx = .lifecycle command device reads <;>
      by_cases hl' : ∃ command device reads, tx' = .lifecycle command device reads
    · obtain ⟨_, _, _, rfl⟩ := hl
      obtain ⟨_, _, _, rfl⟩ := hl'
      exact hn (inverse_of_lifecycles hd ho hr)
    · obtain ⟨_, _, _, rfl⟩ := hl
      push Not at hl'
      exact hn (.lifecycle (publication_of_inverse hl' hr ho))
    · obtain ⟨_, _, _, rfl⟩ := hl'
      push Not at hl
      exact hn (.publication (publication_of_inverse hl ho hr))
    · push Not at hl hl'
      have hb := List.pairwise_iff_forall_sublist.mp (publicationRank_sorted tx hl).1 ho
      have ha := List.pairwise_iff_forall_sublist.mp (publicationRank_sorted tx' hl').1 hr
      exact absurd ha (Nat.lt_asymm hb)

/-! ### The locks nobody in a ring waits for -/

theorem lifecycleRank_of_prelude (hr : preludeRank l = some r) :
    lifecycleRank l = 0 ∨ lifecycleRank l = 7 := by
  rcases l with ⟨_ | _ | _ | _, _⟩ | _ | _ | _ | _ | _ | _ | _ <;>
    simp_all [preludeRank, publicationRank, lifecycleRank]

theorem prelude_first (tx : CommitTransaction) : (commitLocks word tx).Pairwise fun l' l =>
      ∀ r, preludeRank l = some r → ∃ r' < r, preludeRank l' = some r' := by
  by_cases hl : ∃ command device reads, tx = .lifecycle command device reads
  · obtain ⟨command, device, reads, rfl⟩ := hl
    obtain ⟨ho, hbo⟩ : OrderedUpTo 6 (commitLocks word (.lifecycle command device reads)) :=
      lifecycle_ordered command device reads
    refine List.Pairwise.imp_of_mem ?_ ho
    intro l' l _ ht hb r hr
    have hbd := hbo l ht
    unfold LifecycleBefore at hb
    have := lifecycleRank_of_prelude hr
    omega
  · push Not at hl
    refine List.Pairwise.imp ?_ (publicationRank_sorted tx hl).1
    intro l' l hb r hr
    unfold preludeRank at hr ⊢
    split at hr
    next low =>
      cases hr
      exact ⟨publicationRank l', hb, by rw [if_pos (by omega)]⟩
    next => cases hr

theorem guards_of_ranks {g : LockName} (hp : l ∈ commitLocks word tx → g ∈ commitLocks word tx)
    (he : publicationRank g < publicationRank l) (he' : lifecycleRank g < lifecycleRank l)
    : Guards g l (commitLocks word tx) := by
  have hd : g ≠ l := by
    rintro rfl
    exact Nat.lt_irrefl _ he
  by_cases hl : ∃ command device reads, tx = .lifecycle command device reads
  · obtain ⟨command, device, reads, rfl⟩ := hl
    refine .of_pairwise (lifecycle_ordered command device reads).1 hp hd ?_
    unfold LifecycleBefore
    omega
  · push Not at hl
    exact .of_pairwise (publicationRank_sorted tx hl).1 hp hd (Nat.lt_asymm he)

theorem sourceLock_of_sourceRow {si : SourceId} (ht : .sourceRow si ∈ commitLocks word tx ∨
      ∃ v, .versionRow si v ∈ commitLocks word tx) :
    sourceLock word si ∈ commitLocks word tx := by
  revert ht
  cases tx with
  | create command bo =>
    cases bo <;>
      simp [commitLocks, publicationPrefix, idempotencyLock, sourceLock, uploadOperationLock]
  | update command bo cv =>
    cases bo <;> rcases cv with _ | ⟨v, o⟩ <;>
      simp +contextual [commitLocks, publicationPrefix, idempotencyLock, sourceLock,
        uploadOperationLock]
  | lifecycle command device reads =>
    rintro (row | ⟨v, row⟩)
    · obtain rfl := (lifecycle_locks row).2.2 si rfl
      simp [commitLocks]
    · exact absurd ((lifecycle_ordered command device reads).2 _ row) (by simp [lifecycleRank])
  | capture command =>
    cases command.sourceId <;> simp [commitLocks, idempotencyLock, sourceLock]
  | resolve command workspaceId b =>
    cases b <;> simp +contextual [commitLocks, idempotencyLock, sourceLock]

theorem policyStateRow_of_openLocatorRow {lo : NormalizedLocator}
    (ht : .openLocatorRow workspaceId lo ∈ commitLocks word tx) :
    .policyStateRow workspaceId ∈ commitLocks word tx := by
  by_cases hl : ∃ command device reads, tx = .lifecycle command device reads
  · obtain ⟨command, device, reads, rfl⟩ := hl
    have row : .openLocatorRow workspaceId lo ∈
        (commitLocks word (.lifecycle command device reads)).filter (lifecycleRank · = 6) := by
      rw [List.mem_filter]
      exact ⟨ht, by simp [lifecycleRank]⟩
    rw [filter_openLocatorRows] at row
    have own : workspaceId = device.workspaceId := by
      unfold openLocatorRows at row
      rcases List.mem_append.mp row with hta | ha
      · split at hta <;> simp_all
      · split at ha <;> simp_all
    simp [commitLocks, own]
  · push Not at hl
    exact absurd ((publicationRank_sorted tx hl).2 _ ht) (by simp [publicationRank])

theorem exists_later {α : Type*} {l : α} {locks : List α} (ht : l ∈ locks.dropLast) :
    ∃ m, [l, m] <+ locks := by
  have hn : locks ≠ [] := by
    rintro rfl
    simp at ht
  have hl := (List.singleton_sublist.mpr ht).append (List.Sublist.refl [locks.getLast hn])
  rw [List.dropLast_append_getLast hn] at hl
  exact ⟨_, hl⟩

theorem contentObjectRow_last (o : ContentObjectId) (tx : CommitTransaction) :
    .contentObjectRow o ∉ (commitLocks word tx).dropLast := by
  intro ht
  obtain ⟨m, hla⟩ := exists_later ht
  have hp : LockName.contentObjectRow o ∈ commitLocks word tx := hla.subset (by simp)
  by_cases hl : ∃ command device reads, tx = .lifecycle command device reads
  · obtain ⟨command, device, reads, rfl⟩ := hl
    exact absurd ((lifecycle_ordered command device reads).2 _ hp) (by simp [lifecycleRank])
  · push Not at hl
    have hb := List.pairwise_iff_forall_sublist.mp (publicationRank_sorted tx hl).1 hla
    have hk := (publicationRank_sorted tx hl).2 m (hla.subset (by simp))
    have hlt : publicationRank (.contentObjectRow o) = 7 := rfl
    omega

theorem ranked_of_first (hf : lifecycleRank l = 0) : preludeRank l ≠ none := by
  rcases l with ⟨_ | _ | _ | _, _⟩ | _ | _ | _ | _ | _ | _ | _ <;>
    simp_all [preludeRank, publicationRank, lifecycleRank]

theorem openLocatorRow_of_rank (hr : lifecycleRank l = 6) :
    ∃ workspaceId lo, l = .openLocatorRow workspaceId lo := by
  rcases l with ⟨_ | _ | _ | _, _⟩ | _ | _ | _ | _ | _ | _ | _ <;> simp_all [lifecycleRank]

theorem policyStateRow_of_rank (hr : publicationRank l = 3) :
    ∃ workspaceId, l = .policyStateRow workspaceId := by
  rcases l with ⟨_ | _ | _ | _, _⟩ | _ | _ | _ | _ | _ | _ | _ <;> simp_all [publicationRank]

theorem standsAt_of_ring {txs : ι → CommitTransaction} {me : Finset ι} {s : ι → Nat}
    (hr : Ring (fun t => commitLocks word (txs t)) me s) :
    ∀ t ∈ me, ∀ l ∈ (commitLocks word (txs t))[s t]?, StandsAt word (txs t) l := by
  intro t hm l hw
  obtain ⟨l', hh, hu⟩ := hr.exists_held_unranked (fun t => prelude_first (txs t)) t hm
  have has := hr.not_waits_of_ranked (fun t => prelude_first (txs t)) t hm l hw
  have ho := sublist_of_taken hw hh
  have ht : l ∈ commitLocks word (txs t) := List.mem_of_getElem? hw
  have hg {g : LockName} (hpr : ∀ t, l ∈ commitLocks word (txs t) →
      g ∈ commitLocks word (txs t)) (he : publicationRank g < publicationRank l)
      (he' : lifecycleRank g < lifecycleRank l) : False :=
    hr.not_waits_of_guarded (fun t => guards_of_ranks (hpr t) he he') t hm hw
  have hnot (o : ContentObjectId) : l ≠ .contentObjectRow o := by
    rintro rfl
    exact hr.not_waits_of_last (fun t => contentObjectRow_last o (txs t)) t hm hw
  have hnw (si : SourceId) (v : SourceVersionId) : l ≠ .versionRow si v := by
    rintro rfl
    exact hg (fun t row => sourceLock_of_sourceRow (.inr ⟨v, row⟩))
      (by simp [sourceLock, publicationRank]) (by simp [sourceLock, lifecycleRank])
  have hno (si : SourceId) : l ≠ .sourceRow si := by
    rintro rfl
    exact hg (fun t row => sourceLock_of_sourceRow (.inl row))
      (by simp [sourceLock, publicationRank]) (by simp [sourceLock, lifecycleRank])
  have hn (workspaceId : WorkspaceId) (lo : NormalizedLocator) :
      l ≠ .openLocatorRow workspaceId lo := by
    rintro rfl
    exact hg (fun t => policyStateRow_of_openLocatorRow) (by simp [publicationRank])
      (by simp [lifecycleRank])
  by_cases hl : ∃ command device reads, txs t = .lifecycle command device reads
  · obtain ⟨command, device, reads, hli⟩ := hl
    rw [hli] at ho ht ⊢
    have hb := List.pairwise_iff_forall_sublist.mp (lifecycle_ordered command device reads).1 ho
    -- the held lock is not the idempotency lock, so the source lock is taken already
    have hbe : lifecycleRank l ≠ 1 := by
      intro hat
      have hf : lifecycleRank l' = 0 := by
        unfold LifecycleBefore at hb
        omega
      exact absurd hu (ranked_of_first hf)
    simp only [commitLocks, List.mem_append, List.mem_cons, List.not_mem_nil, or_false] at ht
    rcases ht with (((rfl | rfl | rfl) | hk) | hto) | rfl | hro
    · simp [idempotencyLock, preludeRank, publicationRank] at has
    · exact absurd rfl hbe
    · exact absurd rfl (hno _)
    · exact .inl hk
    · exact .inr (.inl hto)
    · exact .inr (.inr rfl)
    · obtain ⟨workspaceId, lo, rfl⟩ := openLocatorRow_of_rank (rank_openLocatorRows hro)
      exact absurd rfl (hn workspaceId lo)
  · push Not at hl
    have hb := List.pairwise_iff_forall_sublist.mp (publicationRank_sorted (txs t) hl).1 ho
    have hkn := (publicationRank_sorted (txs t) hl).2 l ht
    have low : 3 ≤ publicationRank l' := by
      unfold preludeRank at hu
      split at hu <;> simp_all
      omega
    obtain ⟨key, rfl⟩ : ∃ key, l = .advisory .source key := by
      rcases l with ⟨_ | _ | _ | _, _⟩ | _ | _ | _ | _ | _ | _ | _ <;>
        simp_all [publicationRank] <;> omega
    have ha : publicationRank l' = 3 := by
      have hat : publicationRank (.advisory .source key) = 4 := rfl
      omega
    obtain ⟨workspaceId, rfl⟩ := policyStateRow_of_rank ha
    have hpo : LockName.policyStateRow workspaceId ∈ commitLocks word (txs t) := ho.subset (by simp)
    obtain ⟨lk, hp, hk, _⟩ := publication_of_policyStateRow hl hpo
    have hs := hk key ht
    cases tx : txs t with
    | create command bo =>
      simp only [tx, CommitTransaction.publication?, Option.some.injEq, Prod.mk.injEq] at hp
      exact hs.trans hp.2.symm
    | update command bo cv =>
      simp only [tx, CommitTransaction.publication?, Option.some.injEq, Prod.mk.injEq] at hp
      exact hs.trans hp.2.symm
    | lifecycle command device reads => exact absurd tx (hl command device reads)
    | capture command => simp [tx, CommitTransaction.publication?] at hp
    | resolve command workspaceId si =>
      simp [tx, CommitTransaction.publication?] at hp

end LockCycleLemmas

open LockCycleLemmas

/-- No interleaving of the family deadlocks and every two commits take their common locks in
one order, exactly when the family has no ring and no two of its commits are inverse. -/
theorem commitLocks_acyclic_iff [Fintype ι] [DecidableEq ι] (word : LockWord)
    (txs : ι → CommitTransaction) :
    ((∀ s, (lockMachine fun t => commitLocks word (txs t)).Reachable s →
        ¬ Deadlocked (fun t => commitLocks word (txs t)) s) ∧
      ∀ t u, t ≠ u → SameOrder (commitLocks word (txs t)) (commitLocks word (txs u))) ↔
    (¬ ∃ members stop, CommitRing word txs members stop) ∧
      ∀ t u, t ≠ u → ¬ InverseCommits word (txs t) (txs u) := by
  refine and_congr ?_ (forall_congr' fun t => forall_congr' fun u => imp_congr_right fun _ =>
    sameOrder_iff (txs t) (txs u))
  have hri : (∃ members stop, Ring (fun t => commitLocks word (txs t)) members stop) ↔
      ∃ members stop, CommitRing word txs members stop :=
    exists_congr fun members => exists_congr fun stop =>
      ⟨fun hr => ⟨hr, standsAt_of_ring hr⟩, fun hr => hr.1⟩
  rw [← hri, ← cycle_iff_ring]
  simp

/-! ## Families whose words do not collide -/

def CommitTransaction.home : CommitTransaction → Option (WorkspaceId × SourceId)
  | .create command _ => some (command.workspaceId, command.sourceId)
  | .update command _ _ => some (command.workspaceId, command.sourceId)
  | .lifecycle command device _ => some (device.workspaceId, command.sourceId)
  | .capture _ | .resolve _ _ _ => none

def CommitTransaction.locators : CommitTransaction → List NormalizedLocator
  | .lifecycle command _ reads => lockedLocators command reads.activeLocator
  | _ => []

structure Homed (word : LockWord) (owner : SourceId → WorkspaceId) (txs : ι → CommitTransaction) :
    Prop where
  owned : ∀ t, ∀ home ∈ (txs t).home, owner home.2 = home.1
  sources : ∀ t u, ∀ home ∈ (txs t).home, ∀ home' ∈ (txs u).home,
    sourceLock word home.2 = sourceLock word home'.2 → home.2 = home'.2
  locators : ∀ t u, ∀ a ∈ (txs t).locators, ∀ b ∈ (txs u).locators,
    locatorLock word a = locatorLock word b → a = b

/-- No publication meets a lifecycle commit at one source lock of one workspace. -/
def Apart (word : LockWord) (txs : ι → CommitTransaction) : Prop :=
  ∀ t u command device reads, txs u = .lifecycle command device reads →
    (txs t).publication? word ≠ some (device.workspaceId, sourceLock word command.sourceId)

namespace LockCycleLemmas

variable {txs : ι → CommitTransaction} {members : Finset ι} {stop : ι → Nat}
  {owner : SourceId → WorkspaceId} {command : SourceLifecycleCommand}
  {device : LifecycleDeviceContext} {reads : LifecycleReads} {l : LockName}

theorem lifecycle_of_ring (hr : Ring (fun t => commitLocks word (txs t)) members stop)
    (hh : Homed word owner txs) (ha : Apart word txs) {t : ι} (hm : t ∈ members) :
    ∃ command device reads, txs t = .lifecycle command device reads := by
  by_contra hn
  push Not at hn
  obtain ⟨u, hu, -, l, hw, ht⟩ := hr.waits t hm
  obtain ⟨-, -, -, l', hw', -⟩ := hr.waits u hu
  have hs := standsAt_of_ring hr t hm l hw
  obtain ⟨home, hho, hl⟩ : ∃ home, (txs t).home = some home ∧ l = sourceLock word home.2 ∧
      (txs t).publication? word = some (home.1, l) := by
    cases hx : txs t with
    | create command bo =>
      rw [hx] at hs
      exact ⟨_, rfl, hs, by rw [hs]; rfl⟩
    | update command bo cv =>
      rw [hx] at hs
      exact ⟨_, rfl, hs, by rw [hs]; rfl⟩
    | lifecycle command device reads => exact absurd hx (hn command device reads)
    | capture | resolve =>
      rw [hx] at hs
      exact hs.elim
  obtain ⟨rfl, hp⟩ := hl
  have hta : sourceLock word home.2 ∈ commitLocks word (txs u) := List.mem_of_mem_take ht
  by_cases hli : ∃ command device reads, txs u = .lifecycle command device reads
  · obtain ⟨command, device, reads, hx⟩ := hli
    rw [hx] at hta
    have he := (lifecycle_locks hta).2.1 _ rfl
    -- one word is one source, which is of one workspace
    have hi := hh.sources t u home hho (device.workspaceId, command.sourceId) (by rw [hx]; rfl) he
    have ho := hh.owned t home hho
    have ho' := hh.owned u (device.workspaceId, command.sourceId) (by rw [hx]; rfl)
    dsimp only at hi ho'
    refine ha t u command device reads hx ?_
    rw [hp, ← ho, hi, ho', ← he]
  · -- the holder stands at its own source lock, behind the one it has taken
    push Not at hli
    have hs' := standsAt_of_ring hr u hu l' hw'
    have hb := List.pairwise_iff_forall_sublist.mp (publicationRank_sorted (txs u) hli).1
      (sublist_of_taken hw' ht)
    have hat : publicationRank l' = 4 := by
      cases hx : txs u with
      | create command bo =>
        rw [hx] at hs'
        rw [hs']
        rfl
      | update command bo cv =>
        rw [hx] at hs'
        rw [hs']
        rfl
      | lifecycle command device reads => exact absurd hx (hli command device reads)
      | capture | resolve =>
        rw [hx] at hs'
        exact hs'.elim
    rw [hat] at hb
    exact absurd hb (by simp [sourceLock, publicationRank])

theorem standsAt_rank (hs : StandsAt word (.lifecycle command device reads) l) :
    3 ≤ lifecycleRank l ∧ lifecycleRank l ≤ 5 := by
  rcases hs with hk | ht | rfl
  · rw [rank_lockedLocators hk]
    decide
  · rw [rank_tombstoneLocks ht]
    decide
  · exact ⟨by simp [lifecycleRank], by simp [lifecycleRank]⟩

theorem lt_of_locatorKeys {a b : NormalizedLocator}
    (hl : lockedLocators command reads.activeLocator = [a, b]) : a < b := by
  have ho : [a, b].Pairwise (· ≤ ·) := hl ▸ List.pairwise_insertionSort _ _
  have hd : (lockedLocators command reads.activeLocator).Nodup := by
    unfold lockedLocators
    rw [(List.perm_insertionSort _ _).nodup_iff]
    rcases reads.activeLocator with _ | x <;> cases command.operation <;>
      rcases command.targetLocator with _ | y <;> simp [Option.filter] <;> split <;>
        simp_all [eq_comm]
  rw [hl] at hd
  simp only [List.pairwise_pair, List.nodup_cons, List.mem_singleton] at ho hd
  exact lt_of_le_of_ne ho hd.1

/-- Lifecycle commits alone make no ring: each waits for a lock the next one has taken in text
order. -/
theorem no_ring_of_lifecycles (hr : Ring (fun t => commitLocks word (txs t)) members stop)
    (hl : ∀ t ∈ members, ∃ command device reads, txs t = .lifecycle command device reads)
    (hh : Homed word owner txs) : False := by
  have hw : ∀ t, ∃ l, t ∈ members → l ∈ (commitLocks word (txs t))[stop t]? := by
    intro t
    by_cases hm : t ∈ members
    · obtain ⟨-, -, -, l, hl, -⟩ := hr.waits t hm
      exact ⟨l, fun _ => hl⟩
    · exact ⟨.policyStateRow 0, fun h => absurd h hm⟩
  choose asked hw using hw
  -- a member waits for a lock that another one holds while it asks for one no earlier
  have hn : ∀ t ∈ members, ∃ u ∈ members, [asked t, asked u] <+ commitLocks word (txs u) := by
    intro t hm
    obtain ⟨u, hu, -, l, ha, ht⟩ := hr.waits t hm
    cases Option.mem_unique ha (hw t hm)
    exact ⟨u, hu, sublist_of_taken (hw u hu) ht⟩
  have hb : ∀ t ∈ members, ∀ u ∈ members, [asked t, asked u] <+ commitLocks word (txs u) →
      LifecycleBefore (asked t) (asked u) := by
    intro t _ u hu hs
    obtain ⟨command, device, reads, hx⟩ := hl u hu
    rw [hx] at hs
    exact List.pairwise_iff_forall_sublist.mp (lifecycle_ordered command device reads).1 hs
  have hk : ∀ t ∈ members, lifecycleRank (asked t) = 3 := by
    obtain ⟨t, hm, hmax⟩ := members.exists_max_image (fun t => lifecycleRank (asked t)) hr.nonempty
    have hrank (v : ι) (hv : v ∈ members) :
        3 ≤ lifecycleRank (asked v) ∧ lifecycleRank (asked v) ≤ 5 := by
      obtain ⟨command, device, reads, hx⟩ := hl v hv
      have hs := standsAt_of_ring hr v hv _ (hw v hv)
      rw [hx] at hs
      exact standsAt_rank hs
    obtain ⟨u, hu, hs⟩ := hn t hm
    have hbu := hb t hm u hu hs
    have hle := hmax u hu
    have hrt := hrank t hm
    unfold LifecycleBefore at hbu
    intro v hv
    have hv' := hmax v hv
    have hrv := hrank v hv
    omega
  have hx : ∀ t, ∃ x, t ∈ members → x ∈ (txs t).locators ∧ locatorLock word x = asked t := by
    intro t
    by_cases hm : t ∈ members
    · obtain ⟨command, device, reads, hx⟩ := hl t hm
      have hmem : asked t ∈ (commitLocks word (txs t)).filter (lifecycleRank · = 3) :=
        List.mem_filter.mpr ⟨List.mem_of_getElem? (hw t hm), by simp [hk t hm]⟩
      rw [hx, filter_locatorKeys] at hmem
      obtain ⟨x, hxm, he⟩ := List.mem_map.mp hmem
      exact ⟨x, fun _ => ⟨by rw [hx]; exact hxm, he⟩⟩
    · exact ⟨"", fun h => absurd h hm⟩
  choose locator hx using hx
  obtain ⟨t, hm, hmax⟩ := members.exists_max_image locator hr.nonempty
  obtain ⟨u, hu, hs⟩ := hn t hm
  obtain ⟨command, device, reads, htx⟩ := hl u hu
  have hpair : (lockedLocators command reads.activeLocator).map (locatorLock word) =
      [asked t, asked u] := by
    rw [htx] at hs
    refine family_eq_pair (filter_locatorKeys command device reads) ?_ hs (hk t hm) (hk u hu)
    rw [List.length_map]
    exact lockedLocators_length command _
  obtain ⟨a, b, hab⟩ : ∃ a b, lockedLocators command reads.activeLocator = [a, b] := by
    have hle := congrArg List.length hpair
    rw [List.length_map] at hle
    exact List.length_eq_two.mp hle
  rw [hab, List.map_cons, List.map_singleton, List.cons.injEq, List.cons.injEq] at hpair
  have hlo : (txs u).locators = [a, b] := by rw [htx]; exact hab
  have ha : locator t = a := hh.locators t u _ (hx t hm).1 a (by rw [hlo]; simp)
    ((hx t hm).2.trans hpair.1.symm)
  have hbe : locator u = b := hh.locators u u _ (hx u hu).1 b (by rw [hlo]; simp)
    ((hx u hu).2.trans hpair.2.1.symm)
  have hlt : a < b := lt_of_locatorKeys hab
  exact absurd (hmax u hu) (by rw [ha, hbe]; exact not_le.mpr hlt)

end LockCycleLemmas

/-- Without colliding words and foreign sources only a publication that meets a lifecycle commit
of its source deadlocks. -/
theorem no_deadlock_of_apart [Fintype ι] [DecidableEq ι] {word : LockWord}
    {owner : SourceId → WorkspaceId} {txs : ι → CommitTransaction} (homed : Homed word owner txs)
    (apart : Apart word txs) {s : Progress ι}
    (reached : (lockMachine fun t => commitLocks word (txs t)).Reachable s) :
    ¬ Deadlocked (fun t => commitLocks word (txs t)) s := by
  intro hd
  obtain ⟨members, stop, hr⟩ := cycle_iff_ring.mp ⟨s, reached, hd⟩
  exact no_ring_of_lifecycles hr (fun t => lifecycle_of_ring hr homed apart) homed

/-! ## An update and a rename of one source -/

namespace DeadlockExample

def sha256Word : LockWord := fun material =>
  if material = Uuid.bytes 1 ++ [0] ++ encodeUtf8 "publish-1" then 519777526
  else if material = Uuid.bytes 1 ++ [0] ++ encodeUtf8 "rename-1" then 449277454
  else if material = Uuid.bytes 2 then 1764255177
  else if material = encodeUtf8 "notes/draft.md" then -328290413
  else if material = encodeUtf8 "notes/final.md" then 1659512178
  else 0

def update : UpdateSourceVersion :=
  { workspaceId := 1, sourceId := 2, eventId := 3, idempotencyKey := "publish-1",
    baseVersionId := 4, actor := ⟨.device, some 5⟩,
    expectedObject := ⟨"digest", "key", 10, "text/markdown"⟩, clientTimestamp := none }

def rename : SourceLifecycleCommand :=
  { sourceId := 2, eventId := 6, idempotencyKey := "rename-1", operation := .rename,
    expectedVersionId := 4, expectedLocator := some "notes/draft.md",
    targetLocator := some "notes/final.md", tombstoneId := none, policyRevision := 1,
    clientTimestamp := none, shape := by decide }

/-- The update and the rename of one source of one workspace. -/
def commits : Fin 2 → CommitTransaction
  | 0 => .update update none (some (4, 7))
  | 1 => .lifecycle rename ⟨1, 5⟩ ⟨some "notes/draft.md", false, false⟩

/-- The update stands before the source lock, the rename before the policy-state row. -/
def stop : Fin 2 → Nat
  | 0 => 2
  | 1 => 5

end DeadlockExample

open DeadlockExample in
/-- The update holds the policy-state row and waits for the source lock; the rename holds the
source lock and waits for the policy-state row. -/
theorem update_and_rename_deadlock :
    ¬ ((∀ s, (lockMachine fun t => commitLocks sha256Word (commits t)).Reachable s →
        ¬ Deadlocked (fun t => commitLocks sha256Word (commits t)) s) ∧
      ∀ t u, t ≠ u → SameOrder (commitLocks sha256Word (commits t)) (commitLocks sha256Word (commits u))) := by
  rintro ⟨hs, _⟩
  have hri : Ring (fun t => commitLocks sha256Word (commits t)) Finset.univ stop := by
    refine ⟨Finset.univ_nonempty, by decide, ?_, ?_⟩
    · intro t _
      fin_cases t
      · exact ⟨1, by decide, by decide, sourceLock sha256Word 2, by decide, by decide⟩
      · exact ⟨0, by decide, by decide, .policyStateRow 1, by decide, by decide⟩
    · intro t _
      fin_cases t
      · exact ⟨1, by decide, by decide, .policyStateRow 1, by decide, by decide⟩
      · exact ⟨0, by decide, by decide, sourceLock sha256Word 2, by decide, by decide⟩
  obtain ⟨s, hr, hd⟩ := cycle_iff_ring.mpr ⟨_, _, hri⟩
  exact hs s hr hd

end PersonalOs.SourceStore
