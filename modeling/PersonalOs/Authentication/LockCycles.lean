import PersonalOs.Authentication.Locks

/-!
# Wait-for cycles of the authentication transactions

The transactions lock the tables in one order but for three places: a presented refresh token
is locked before its family and its device, while revocations lock the device and its
families before the tokens; and the TOTP rows of a user and the rows of one device table are
locked by different statements, each in the order its scan meets them.
-/

namespace PersonalOs.Authentication

open LockOrder
open scoped List

/-! ## Tables -/

inductive RowTable
  | users | userCredentials | totpCredentials | totpRecoveryCodes | webSessions
  | devices | deviceTokenFamilies | deviceTokens | deviceAuthorizationGrants
  | throttleBuckets
deriving DecidableEq

def AuthRow.table : AuthRow → RowTable
  | .user _ => .users
  | .userCredential _ => .userCredentials
  | .totpCredential _ => .totpCredentials
  | .totpRecoveryCode _ => .totpRecoveryCodes
  | .webSession _ => .webSessions
  | .device _ => .devices
  | .deviceTokenFamily _ => .deviceTokenFamilies
  | .deviceToken _ => .deviceTokens
  | .deviceAuthorizationGrant _ => .deviceAuthorizationGrants
  | .throttleBucket _ _ => .throttleBuckets

/-- The tables in the order the revocations lock them. -/
def RowTable.order : RowTable → Nat
  | .users => 0
  | .userCredentials => 1
  | .totpCredentials => 2
  | .totpRecoveryCodes => 3
  | .webSessions => 4
  | .devices => 5
  | .deviceTokenFamilies => 6
  | .deviceTokens => 7
  | .deviceAuthorizationGrants => 8
  | .throttleBuckets => 9

/-- The order every transaction keeps: the device tables count as one. -/
def RowTable.stage : RowTable → Nat
  | .devices | .deviceTokenFamilies | .deviceTokens | .deviceAuthorizationGrants => 5
  | .throttleBuckets => 6
  | table => table.order

/-- A row of a device, of its token families and tokens or of a grant. -/
def AuthRow.OfDevices (row : AuthRow) : Prop := row.table.stage = 5

/-! ## Kinds of transactions -/

def AuthTransaction.PresentsToken : AuthTransaction → Prop
  | .refreshRotation _ _ | .revokeCurrentRefresh _ _ => True
  | _ => False

def AuthTransaction.RevokesDevices : AuthTransaction → Prop
  | .adminRevokeDevice _ _ _ _ | .resetWebAuthentication _ _ _ _ _ _ _ _ => True
  | _ => False

def AuthTransaction.ClosesTotpOf (userId : UserId) : AuthTransaction → Prop
  | .disableTotp user _ _ _ _ _ | .resetWebAuthentication user _ _ _ _ _ _ _ => user = userId
  | _ => False

def AuthTransaction.ActivatesTotpOf (userId : UserId) : AuthTransaction → Prop
  | .activateEnrollment user _ _ _ => user = userId
  | _ => False

/-- The user whose credential row the transaction locks before any other row it shares. -/
def AuthTransaction.credentialUser : AuthTransaction → Option UserId
  | .commitLoginSuccess userId _ | .changePassword userId _ _ | .disableTotp userId _ _ _ _ _
  | .resetWebAuthentication userId _ _ _ _ _ _ _ => some userId
  | _ => none

variable {ι : Type*}

abbrev rowsOf (txs : ι → AuthTransaction) (t : ι) : List AuthRow := authRows (txs t)

/-! ## Cycles -/

/-- A cycle among the TOTP rows of one user: activations of the user's enrollments, and at most
one reset or disable of the user. -/
structure TotpCycle (txs : ι → AuthTransaction) (s : Progress ι) (i : ι) (userId : UserId) :
    Prop where
  member : ∀ j, OnCycle (rowsOf txs) s i j →
    (txs j).ActivatesTotpOf userId ∨ (txs j).ClosesTotpOf userId
  stands : ∀ j, OnCycle (rowsOf txs) s i j →
    (∀ l ∈ next (rowsOf txs) s j, l.table = .totpCredentials) ∧
      ∃ l ∈ held (rowsOf txs) s j, l.table = .totpCredentials
  oneCloses : ∀ j k, OnCycle (rowsOf txs) s i j → OnCycle (rowsOf txs) s i k →
    (txs j).ClosesTotpOf userId → (txs k).ClosesTotpOf userId → j = k

/-- A cycle among device rows: with a presentation of a refresh token, or of admin revocations
and resets that meet in one table other than the devices. -/
structure DeviceCycle (txs : ι → AuthTransaction) (s : Progress ι) (i : ι) : Prop where
  member : ∀ j, OnCycle (rowsOf txs) s i j →
    (txs j).PresentsToken ∨ (txs j).RevokesDevices
  stands : ∀ j, OnCycle (rowsOf txs) s i j →
    (∀ l ∈ next (rowsOf txs) s j, l.OfDevices) ∧ ∃ l ∈ held (rowsOf txs) s j, l.OfDevices
  presents_or_meets : (∃ j, OnCycle (rowsOf txs) s i j ∧ (txs j).PresentsToken) ∨
    ∃ table, table ≠ .devices ∧ ∀ j, OnCycle (rowsOf txs) s i j →
      (∀ l ∈ next (rowsOf txs) s j, l.table = table) ∧
        ∃ l ∈ held (rowsOf txs) s j, l.table = table

/-! ## Stages -/

namespace RowOrderLemmas

theorem order_injective : Function.Injective RowTable.order := by
  intro x y he
  cases x <;> cases y <;> first | rfl | exact nomatch he

end RowOrderLemmas

theorem authRows_stages (tx : AuthTransaction) :
    (authRows tx).Pairwise fun l m => l.table.stage ≤ m.table.stage := by
  cases tx with
  | refreshRotation tk f | revokeCurrentRefresh tk f =>
    rcases f with _ | ⟨f, _ | t | ⟨t, d⟩⟩ <;>
      simp [authRows, presentationRows, RefreshBranch.rows, List.pairwise_append,
        List.pairwise_map, AuthRow.table, RowTable.stage, or_imp, forall_and,
        List.pairwise_of_forall]
  | commitLoginSuccess | changePassword | verifyTotp | activateEnrollment | recoverSession
  | disableTotp | decideGrant | pollExchange | adminRevokeDevice | resetWebAuthentication =>
    simp only [authRows, AuthRow.table, RowTable.stage, RowTable.order, List.map_append,
      List.cons_append, List.nil_append, List.append_assoc, List.pairwise_cons, List.pairwise_append,
      List.pairwise_map, List.Pairwise.nil, List.mem_cons, List.mem_append, List.mem_map,
      List.not_mem_nil, Option.mem_toList, or_imp, forall_and, forall_exists_index, and_imp,
      forall_apply_eq_imp_iff₂, IsEmpty.forall_iff, Nat.zero_le, Nat.reduceLeDiff, Std.le_refl,
      List.pairwise_of_forall, implies_true, and_self]

theorem revocation_order (tx : AuthTransaction) (hr : tx.RevokesDevices) :
    (authRows tx).Pairwise fun l m => l.table.order ≤ m.table.order := by
  cases tx with
  | adminRevokeDevice | resetWebAuthentication =>
    simp [authRows, List.pairwise_append, List.pairwise_map, AuthRow.table, RowTable.order, or_imp,
      forall_and, List.pairwise_of_forall]
  | _ => exact hr.elim

/-! ## Rows of one user -/

variable {owners : RowOwners} {tx : AuthTransaction} {userId : UserId}

theorem row_of_credentialUser (hf : tx.Finds owners) (hn : tx.credentialUser = some userId) :
    (∀ c, .totpCredential c ∈ authRows tx → owners.totpUser c = userId) ∧
    (∀ c, .totpRecoveryCode c ∈ authRows tx → owners.codeUser c = userId) ∧
    (∀ w, .webSession w ∈ authRows tx → owners.sessionUser w = userId) := by
  cases tx with
  | commitLoginSuccess | changePassword | disableTotp | resetWebAuthentication =>
    cases hn
    simp_all [authRows, AuthTransaction.Finds]
  | _ => exact nomatch hn

theorem device_of_reset (hf : tx.Finds owners) (hr : tx.RevokesDevices)
    (hn : tx.credentialUser = some userId) (d : DeviceId) (hm : .device d ∈ authRows tx) :
    owners.deviceUser d = userId := by
  cases tx with
  | resetWebAuthentication =>
    cases hn
    simp_all [authRows, AuthTransaction.Finds]
  | adminRevokeDevice => exact nomatch hn
  | _ => exact hr.elim

theorem credential_first (hn : tx.credentialUser = some userId) :
    ∃ x r, authRows tx = x ++ r ∧ .userCredential userId ∈ x ∧ ∀ l ∈ x, l.table.stage ≤ 1 := by
  cases tx with
  | resetWebAuthentication u c co se d f t g =>
    cases hn
    refine ⟨[.user userId, .userCredential userId], (authRows (.resetWebAuthentication userId
      c co se d f t g)).drop 2, ?_, by simp, ?_⟩
    · simp [authRows]
    · simp [AuthRow.table, RowTable.stage, RowTable.order]
  | commitLoginSuccess | changePassword | disableTotp =>
    cases hn
    refine ⟨[.userCredential userId], _, rfl, by simp, ?_⟩
    simp [AuthRow.table, RowTable.stage, RowTable.order]
  | _ => exact nomatch hn

/-! ## Two rows of one stage -/

/-- A row of a stage for each statement of the transaction that finds one. -/
def stageCount (r : Nat) (tx : AuthTransaction) : Nat :=
  ((authRows tx).map fun l => l.table.stage).count r

theorem stageCount_of_two {r : Nat} {l m : AuthRow} (two : [l, m] <+ authRows tx)
    (hf : l.table.stage = r) (hs : m.table.stage = r) :
    2 ≤ stageCount r tx := by
  have hb := (two.map fun l => l.table.stage).count_le r
  simpa [hf, hs, stageCount] using hb

theorem kind_of_stageCount {r : Nat} (two : 2 ≤ stageCount r tx) :
    (r = 2 ∧ ∃ userId, tx.ActivatesTotpOf userId ∨ tx.ClosesTotpOf userId) ∨
    (r = 3 ∧ ∃ userId, tx.ClosesTotpOf userId) ∨
    (r = 4 ∧ ∃ userId, tx.credentialUser = some userId) ∨
    (r = 5 ∧ (tx.PresentsToken ∨ tx.RevokesDevices)) := by
  cases tx with
  | commitLoginSuccess userId b | verifyTotp userId c b =>
    -- one row of each of two stages
    cases b <;> simp [stageCount, authRows, AuthRow.table, RowTable.stage, RowTable.order,
        List.count_cons] at two <;> grind
  | decideGrant | pollExchange =>
    simp [stageCount, authRows, AuthRow.table, RowTable.stage, List.count_cons] at two
    grind
  | changePassword userId o cu =>
    simp [stageCount, authRows, AuthRow.table, RowTable.stage, RowTable.order, Function.comp_def,
      List.count_cons, List.count_replicate] at two
    right; right; left
    refine ⟨?_, userId, rfl⟩
    grind
  | recoverSession userId c co se =>
    cases co <;> cases se <;>
      simp [stageCount, authRows, AuthRow.table, RowTable.stage, RowTable.order,
        List.count_cons] at two <;> grind
  | activateEnrollment userId e p se =>
    left
    refine ⟨?_, userId, .inl rfl⟩
    cases p <;> cases se <;>
      simp [stageCount, authRows, AuthRow.table, RowTable.stage, RowTable.order,
        List.count_cons] at two <;> grind
  | disableTotp userId a pe cs o cu =>
    simp [stageCount, authRows, AuthRow.table, RowTable.stage, RowTable.order, Function.comp_def,
      List.count_cons, List.count_replicate] at two
    have hw : r = 2 ∨ r = 3 ∨ r = 4 := by grind
    rcases hw with rfl | rfl | rfl
    · exact .inl ⟨rfl, userId, .inr rfl⟩
    · exact .inr (.inl ⟨rfl, userId, rfl⟩)
    · exact .inr (.inr (.inl ⟨rfl, userId, rfl⟩))
  | refreshRotation tk f | revokeCurrentRefresh tk f =>
    right; right; right
    refine ⟨?_, .inl trivial⟩
    rcases f with _ | ⟨f, _ | t | ⟨t, d⟩⟩ <;>
      simp [stageCount, authRows, presentationRows, RefreshBranch.rows, AuthRow.table,
        RowTable.stage, Function.comp_def, List.count_cons, List.count_replicate] at two <;> grind
  | adminRevokeDevice =>
    right; right; right
    refine ⟨?_, .inr trivial⟩
    simp [stageCount, authRows, AuthRow.table, RowTable.stage, Function.comp_def,
      List.count_cons, List.count_replicate] at two
    grind
  | resetWebAuthentication userId =>
    simp [stageCount, authRows, AuthRow.table, RowTable.stage, RowTable.order, Function.comp_def,
      List.count_cons, List.count_replicate] at two
    have hw : r = 2 ∨ r = 3 ∨ r = 4 ∨ r = 5 := by grind
    rcases hw with rfl | rfl | rfl | rfl
    · exact .inl ⟨rfl, userId, .inr rfl⟩
    · exact .inr (.inl ⟨rfl, userId, rfl⟩)
    · exact .inr (.inr (.inl ⟨rfl, userId, rfl⟩))
    · exact .inr (.inr (.inr ⟨rfl, .inr trivial⟩))

theorem credentialUser_of_closes (hc : tx.ClosesTotpOf userId) :
    tx.credentialUser = some userId := by
  cases tx with
  | disableTotp | resetWebAuthentication => exact congrArg some hc
  | _ => exact hc.elim

/-- Who activates or closes TOTP rows of a user finds rows of this user only. -/
theorem totp_row_of_user (hf : tx.Finds owners)
    (hk : tx.ActivatesTotpOf userId ∨ tx.ClosesTotpOf userId) (c : TotpCredentialId)
    (hm : .totpCredential c ∈ authRows tx) :
    owners.totpUser c = userId := by
  rcases hk with ha | hc
  · cases tx with
    | activateEnrollment =>
      cases ha
      simp_all [authRows, AuthTransaction.Finds]
      rcases hm with rfl | hp
      · exact hf.1
      · exact hf.2 c hp
    | _ => exact ha.elim
  · exact (row_of_credentialUser hf (credentialUser_of_closes hc)).1 c hm

/-! ## Cycles -/

section Cycles

variable {owners : RowOwners} {txs : ι → AuthTransaction} {s : Progress ι} {i j k : ι}

variable {l : AuthRow}

theorem mem_of_held (hh : l ∈ held (rowsOf txs) s j) : l ∈ authRows (txs j) := by
  unfold held at hh
  split at hh
  · exact nomatch hh
  · exact List.mem_of_mem_take hh

theorem mem_of_next (ha : l ∈ next (rowsOf txs) s j) : l ∈ authRows (txs j) := by
  unfold next at ha
  split at ha
  · exact nomatch ha
  · exact List.mem_of_getElem? ha

/-- On a cycle everybody waits for and holds rows of one stage, of a kind that locks two. -/
theorem cycle_stage (hc : Relation.TransGen (WaitsFor (rowsOf txs) s) i i) :
    ∃ r, ∀ j, OnCycle (rowsOf txs) s i j →
      2 ≤ stageCount r (txs j) ∧ (∀ l ∈ next (rowsOf txs) s j, l.table.stage = r) ∧
        ∃ l ∈ held (rowsOf txs) s j, l.table.stage = r := by
  obtain ⟨r, ht⟩ := onCycle_rank (fun l : AuthRow => l.table.stage)
    (fun j _ => authRows_stages (txs j)) hc
  refine ⟨r, fun j on => ?_⟩
  obtain ⟨ha, m, hh, hat⟩ := ht j on
  obtain ⟨_, ⟨_, l, has, _⟩, _⟩ := on.waits
  have two : [m, l] <+ rowsOf txs j := sublist_of_held hh has
  exact ⟨stageCount_of_two two hat (ha l has), ha, m, hh, hat⟩

variable [Fintype ι] [DecidableEq ι]

/-- Two transactions that wait for rows behind the credential row of one user are one. -/
theorem eq_of_credentialUser (hr : (lockMachine (rowsOf txs)).Reachable s) {userId : UserId}
    (hn : (txs j).credentialUser = some userId) (hn' : (txs k).credentialUser = some userId)
    {m : AuthRow} (has : l ∈ next (rowsOf txs) s j) (hb : 1 < l.table.stage)
    (has' : m ∈ next (rowsOf txs) s k) (hb' : 1 < m.table.stage) : j = k := by
  by_contra hd
  obtain ⟨x, r, hs, ha, hst⟩ := credential_first hn
  obtain ⟨x', r', hs', ha', hst'⟩ := credential_first hn'
  change rowsOf txs j = _ at hs
  change rowsOf txs k = _ at hs'
  have hh := held_of_beyond hs has (fun hi => absurd (hst l hi) (by omega)) ha
  have hh' := held_of_beyond hs' has' (fun hi => absurd (hst' m hi) (by omega)) ha'
  exact CycleLemmas.exclusive hr j k hd _ hh hh'

/-- A cycle cannot pass between transactions that lock the credential row of one user. -/
theorem not_credential_cycle (hr : (lockMachine (rowsOf txs)).Reachable s)
    (hc : Relation.TransGen (WaitsFor (rowsOf txs) s) i i)
    (hb : ∀ j, OnCycle (rowsOf txs) s i j → ∀ l ∈ next (rowsOf txs) s j, 1 < l.table.stage)
    (hn : ∀ j k, OnCycle (rowsOf txs) s i j → OnCycle (rowsOf txs) s i k →
      WaitsFor (rowsOf txs) s j k → ∃ userId,
        (txs j).credentialUser = some userId ∧ (txs k).credentialUser = some userId) : False := by
  have on : OnCycle (rowsOf txs) s i i := ⟨hc, hc⟩
  obtain ⟨k, hw, on'⟩ := on.waits
  obtain ⟨_, ⟨_, m, ha', _⟩, _⟩ := on'.waits
  obtain ⟨userId, hna, hn'⟩ := hn i k on on' hw
  obtain ⟨hd, l, ha, _⟩ := hw
  exact hd (eq_of_credentialUser hr hna hn' ha (hb i on l ha) ha' (hb k on' m ha')).symm

theorem table_of_stage {r : Nat} (ha : l.table.stage = r) :
    (r = 2 → ∃ c, l = .totpCredential c) ∧ (r = 3 → ∃ c, l = .totpRecoveryCode c) ∧
      (r = 4 → ∃ w, l = .webSession w) := by
  cases l <;> simp [AuthRow.table, RowTable.stage, RowTable.order] at ha <;> subst ha <;> simp

theorem device_of_table (hd : l.table = .devices) : ∃ d, l = .device d := by
  cases l <;> first | exact ⟨_, rfl⟩ | exact nomatch hd

theorem reset_of_two_devices {tx : AuthTransaction} (hr : tx.RevokesDevices) {m : AuthRow}
    (two : [l, m] <+ authRows tx) (hf : l.table = .devices) (hs : m.table = .devices) :
    ∃ userId, tx.credentialUser = some userId := by
  cases tx with
  | resetWebAuthentication userId => exact ⟨userId, rfl⟩
  | adminRevokeDevice d f t g =>
    obtain ⟨a, rfl⟩ := device_of_table hf
    obtain ⟨b, rfl⟩ := device_of_table hs
    have hb := (two.map AuthRow.table).count_le .devices
    simp [authRows, AuthRow.table, Function.comp_def, List.count_replicate] at hb
  | _ => exact hr.elim

theorem totpCycle_of_stage (hf : ∀ t, (txs t).Finds owners)
    (hr : (lockMachine (rowsOf txs)).Reachable s)
    (hc : Relation.TransGen (WaitsFor (rowsOf txs) s) i i)
    (ht : ∀ j, OnCycle (rowsOf txs) s i j →
      2 ≤ stageCount 2 (txs j) ∧ (∀ l ∈ next (rowsOf txs) s j, l.table.stage = 2) ∧
        ∃ l ∈ held (rowsOf txs) s j, l.table.stage = 2) :
    ∃ userId, TotpCycle txs s i userId := by
  have on : OnCycle (rowsOf txs) s i i := ⟨hc, hc⟩
  have hk (j : ι) (onJ : OnCycle (rowsOf txs) s i j) :
      ∃ userId, (txs j).ActivatesTotpOf userId ∨ (txs j).ClosesTotpOf userId := by
    simpa using kind_of_stageCount (ht j onJ).1
  obtain ⟨userId, hs⟩ := hk i on
  -- waiter and holder share the awaited row, so its user is the user of both
  have hal (a b : ι) (onA : OnCycle (rowsOf txs) s i a) (onB : OnCycle (rowsOf txs) s i b)
      (hw : WaitsFor (rowsOf txs) s a b)
      (ho : (txs a).ActivatesTotpOf userId ∨ (txs a).ClosesTotpOf userId) :
      (txs b).ActivatesTotpOf userId ∨ (txs b).ClosesTotpOf userId := by
    obtain ⟨_, l, ha, hh⟩ := hw
    obtain ⟨c, rfl⟩ := (table_of_stage ((ht a onA).2.1 l ha)).1 rfl
    obtain ⟨u, ofB⟩ := hk b onB
    have how := totp_row_of_user (hf a) ho c (mem_of_next ha)
    have hob := totp_row_of_user (hf b) ofB c (mem_of_held hh)
    have he : u = userId := hob.symm.trans how
    exact he ▸ ofB
  have hto (l : AuthRow) (hat : l.table.stage = 2) : l.table = .totpCredentials := by
    obtain ⟨c, rfl⟩ := (table_of_stage hat).1 rfl
    rfl
  refine ⟨userId, fun j onJ => ?_, fun j onJ => ?_, ?_⟩
  · exact OnCycle.spread (P := fun t => (txs t).ActivatesTotpOf userId ∨
      (txs t).ClosesTotpOf userId) hal on onJ hs
  · obtain ⟨_, has, l, hh, hat⟩ := ht j onJ
    exact ⟨fun m ha => hto m (has m ha), l, hh, hto l hat⟩
  · intro j k onJ onK hcl hc'
    obtain ⟨_, ⟨_, l, ha, _⟩, _⟩ := onJ.waits
    obtain ⟨_, ⟨_, m, ha', _⟩, _⟩ := onK.waits
    have hb := (ht j onJ).2.1 l ha
    have hb' := (ht k onK).2.1 m ha'
    exact eq_of_credentialUser hr (credentialUser_of_closes hcl)
      (credentialUser_of_closes hc') ha (by omega) ha' (by omega)

theorem deviceCycle_of_stage (hf : ∀ t, (txs t).Finds owners)
    (hre : (lockMachine (rowsOf txs)).Reachable s)
    (hc : Relation.TransGen (WaitsFor (rowsOf txs) s) i i)
    (ht : ∀ j, OnCycle (rowsOf txs) s i j →
      2 ≤ stageCount 5 (txs j) ∧ (∀ l ∈ next (rowsOf txs) s j, l.table.stage = 5) ∧
        ∃ l ∈ held (rowsOf txs) s j, l.table.stage = 5) :
    DeviceCycle txs s i := by
  have hk (j : ι) (onJ : OnCycle (rowsOf txs) s i j) :
      (txs j).PresentsToken ∨ (txs j).RevokesDevices := by
    simpa using kind_of_stageCount (ht j onJ).1
  refine ⟨hk, fun j onJ => (ht j onJ).2, ?_⟩
  by_cases hp : ∃ j, OnCycle (rowsOf txs) s i j ∧ (txs j).PresentsToken
  · exact .inl hp
  -- revocations alone keep one order of all tables
  have hr (j : ι) (onJ : OnCycle (rowsOf txs) s i j) : (txs j).RevokesDevices :=
    (hk j onJ).resolve_left fun hpr => hp ⟨j, onJ, hpr⟩
  obtain ⟨r, hm⟩ := onCycle_rank (fun l : AuthRow => l.table.order)
    (fun j onJ => revocation_order (txs j) (hr j onJ)) hc
  have on : OnCycle (rowsOf txs) s i i := ⟨hc, hc⟩
  obtain ⟨_, ⟨_, l, asks, _⟩, _⟩ := on.waits
  have ho (m : AuthRow) (ha : m.table.order = r) : m.table = l.table :=
    RowOrderLemmas.order_injective (ha.trans ((hm i on).1 l asks).symm)
  refine .inr ⟨l.table, ?_, fun j onJ => ?_⟩
  · intro hd
    -- two resets that meet at a device are of the device's user
    refine not_credential_cycle hre hc ?_ ?_
    · intro j onJ m ha'
      have := (ht j onJ).2.1 m ha'
      omega
    · rintro j k onJ onK ⟨_, m, ha', hh⟩
      have hrt (t : ι) (onT : OnCycle (rowsOf txs) s i t) :
          ∃ userId, (txs t).credentialUser = some userId := by
        obtain ⟨_, ⟨_, n, has, _⟩, _⟩ := onT.waits
        obtain ⟨hi, m', hh', ha⟩ := hm t onT
        have two : [m', n] <+ rowsOf txs t := sublist_of_held hh' has
        exact reset_of_two_devices (hr t onT) two ((ho m' ha).trans hd) ((ho n (hi n has)).trans hd)
      obtain ⟨userId, hn⟩ := hrt j onJ
      obtain ⟨u, hn'⟩ := hrt k onK
      obtain ⟨d, rfl⟩ : ∃ d, m = .device d := device_of_table ((ho m ((hm j onJ).1 m ha')).trans hd)
      have how := device_of_reset (hf j) (hr j onJ) hn d (mem_of_next ha')
      have ho' := device_of_reset (hf k) (hr k onK) hn' d (mem_of_held hh)
      exact ⟨userId, hn, by rw [hn', ← ho', how]⟩
  · obtain ⟨had, m, hh, ha⟩ := hm j onJ
    exact ⟨fun n ha' => ho n (had n ha'), m, hh, ho m ha⟩

/-- **Wait-for cycles.** Whatever the transactions find, every wait-for cycle of every
interleaving stands at the TOTP rows of one user, with at most one reset or disable on it, or
at device rows, where it passes a presentation of a refresh token unless only revocations meet
in one table. -/
theorem wait_cycles (txs : ι → AuthTransaction) (found : ∀ t, (txs t).Finds owners)
    (s : Progress ι) (reached : (lockMachine (rowsOf txs)).Reachable s) (i : ι)
    (cycle : Relation.TransGen (WaitsFor (rowsOf txs) s) i i) :
    (∃ userId, TotpCycle txs s i userId) ∨ DeviceCycle txs s i := by
  obtain ⟨r, ht⟩ := cycle_stage cycle
  have on : OnCycle (rowsOf txs) s i i := ⟨cycle, cycle⟩
  have hc (hb : 1 < r) (hna : ∀ j k, OnCycle (rowsOf txs) s i j →
      OnCycle (rowsOf txs) s i k → WaitsFor (rowsOf txs) s j k → ∃ userId,
        (txs j).credentialUser = some userId ∧ (txs k).credentialUser = some userId) : False := by
    refine not_credential_cycle reached cycle (fun j onJ l ha => ?_) hna
    have := (ht j onJ).2.1 l ha
    omega
  rcases kind_of_stageCount (ht i on).1 with
    ⟨rfl, _⟩ | ⟨rfl, _⟩ | ⟨rfl, _⟩ | ⟨rfl, _⟩
  · exact .inl (totpCycle_of_stage found reached cycle ht)
  · refine (hc (by decide) ?_).elim
    rintro j k onJ onK ⟨_, l, ha, hh⟩
    obtain ⟨c, rfl⟩ := (table_of_stage ((ht j onJ).2.1 l ha)).2.1 rfl
    obtain ⟨userId, hcl⟩ : ∃ userId, (txs j).ClosesTotpOf userId := by
      simpa using kind_of_stageCount (ht j onJ).1
    obtain ⟨u, hc'⟩ : ∃ userId, (txs k).ClosesTotpOf userId := by
      simpa using kind_of_stageCount (ht k onK).1
    have hn := credentialUser_of_closes hcl
    have hn' := credentialUser_of_closes hc'
    have ho := (row_of_credentialUser (found j) hn).2.1 c (mem_of_next ha)
    have ho' := (row_of_credentialUser (found k) hn').2.1 c (mem_of_held hh)
    exact ⟨userId, hn, by rw [hn', ← ho', ho]⟩
  · refine (hc (by decide) ?_).elim
    rintro j k onJ onK ⟨_, l, ha, hh⟩
    obtain ⟨w, rfl⟩ := (table_of_stage ((ht j onJ).2.1 l ha)).2.2 rfl
    obtain ⟨userId, hn⟩ : ∃ userId, (txs j).credentialUser = some userId := by
      simpa using kind_of_stageCount (ht j onJ).1
    obtain ⟨u, hn'⟩ : ∃ userId, (txs k).credentialUser = some userId := by
      simpa using kind_of_stageCount (ht k onK).1
    have ho := (row_of_credentialUser (found j) hn).2.2 w (mem_of_next ha)
    have ho' := (row_of_credentialUser (found k) hn').2.2 w (mem_of_held hh)
    exact ⟨userId, hn, by rw [hn', ← ho', ho]⟩
  · exact .inr (deviceCycle_of_stage found reached cycle ht)

end Cycles

/-! ## Deadlocks -/

/-- Whether some interleaving of two transactions runs into a wait-for cycle. -/
def Deadlocks (txs : Fin 2 → AuthTransaction) : Prop :=
  ∃ s, (lockMachine (rowsOf txs)).Reachable s ∧ Deadlocked (rowsOf txs) s

/-- Two transactions, each of which has locked the row the other one asks for. -/
theorem deadlocks_of_inverse {txs : Fin 2 → AuthTransaction} (st : Fin 2 → Nat) {l m : AuthRow}
    (ha : ∀ row ∈ (rowsOf txs 0).take (st 0), row ∉ (rowsOf txs 1).take (st 1))
    (has : (rowsOf txs 0)[st 0]? = some l) (hh : l ∈ (rowsOf txs 1).take (st 1))
    (ha' : (rowsOf txs 1)[st 1]? = some m) (hh' : m ∈ (rowsOf txs 0).take (st 0)) :
    Deadlocks txs := by
  refine cycle_iff_ring.mpr ⟨Finset.univ, st, Finset.univ_nonempty, ?_, ?_, ?_⟩
  · intro t _ u _ hd row inT inU
    fin_cases t <;> fin_cases u
    · exact hd rfl
    · exact ha row inT inU
    · exact ha row inU inT
    · exact hd rfl
  · intro t _
    fin_cases t
    · exact ⟨1, Finset.mem_univ 1, by decide, l, has, hh⟩
    · exact ⟨0, Finset.mem_univ 0, by decide, m, ha', hh'⟩
  · intro t _
    fin_cases t
    · exact ⟨1, Finset.mem_univ 1, by decide, m, ha', hh'⟩
    · exact ⟨0, Finset.mem_univ 0, by decide, l, has, hh⟩

/-- A refresh presents token 3 of family 2 while an owner revokes device 1 of that family. -/
def refreshAndRevocation : Fin 2 → AuthTransaction :=
  ![.refreshRotation 3 (some (2, .rotation)), .adminRevokeDevice 1 [2] [3] []]

theorem refreshAndRevocation_finds (t : Fin 2) :
    (refreshAndRevocation t).Finds ⟨id, id, id, id⟩ := by
  fin_cases t <;> exact trivial

/-- The refresh has its token and waits for the family; the revocation has the device and the
family and waits for the token. -/
theorem refreshAndRevocation_deadlocks : Deadlocks refreshAndRevocation :=
  deadlocks_of_inverse ![1, 2] (l := .deviceTokenFamily 2) (m := .deviceToken 3)
    (by decide) rfl (by decide) rfl (by decide)

/-- **A rotation and an admin revocation of its device deadlock.** -/
theorem refresh_and_revocation_deadlock :
    ¬ ∀ (n : Nat) (txs : Fin n → AuthTransaction) (owners : RowOwners),
      (∀ t, (txs t).Finds owners) →
        ∀ s, (lockMachine (rowsOf txs)).Reachable s → ¬ Deadlocked (rowsOf txs) s := by
  intro hs
  obtain ⟨s, hr, hd⟩ := refreshAndRevocation_deadlocks
  exact hs 2 refreshAndRevocation _ refreshAndRevocation_finds s hr hd

/-- The deadlock of the refresh and the revocation is one of those cycles. -/
theorem refreshAndRevocation_cycle :
    ∃ s i, Relation.TransGen (WaitsFor (rowsOf refreshAndRevocation) s) i i ∧
      ((∃ userId, TotpCycle refreshAndRevocation s i userId) ∨
        DeviceCycle refreshAndRevocation s i) := by
  obtain ⟨s, hr, i, hc⟩ := refreshAndRevocation_deadlocks
  exact ⟨s, i, hc, wait_cycles refreshAndRevocation refreshAndRevocation_finds s hr i hc⟩

/-- An activation of enrollment 5 replaces credential 4 while a disable closes 4 and then 5. -/
theorem activation_and_disable_deadlock :
    Deadlocks ![.activateEnrollment 1 5 (some 4) none, .disableTotp 1 (some 4) (some 5) [] [] none] :=
  deadlocks_of_inverse ![1, 2] (l := .totpCredential 4) (m := .totpCredential 5)
    (by decide) rfl (by decide) rfl (by decide)

/-- Resets of two users meet at the open grants, which both scan. -/
theorem resets_deadlock : Deadlocks ![.resetWebAuthentication 1 [] [] [] [] [] [] [7, 8],
      .resetWebAuthentication 2 [] [] [] [] [] [] [8, 7]] :=
  deadlocks_of_inverse ![3, 3] (l := .deviceAuthorizationGrant 8)
    (m := .deviceAuthorizationGrant 7) (by decide) rfl (by decide) rfl (by decide)

end PersonalOs.Authentication
