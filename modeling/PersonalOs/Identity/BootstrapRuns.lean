import PersonalOs.Identity.Bootstrap

/-!
# Bootstrap creates at most one identity
-/

namespace PersonalOs.Identity

open Transactions
open SourceStore (LockWord)

variable {word : LockWord}

/-! ## Classification -/

def selectedDevices (command : BootstrapIdentityCommand) (workspaceId : WorkspaceId)
    (rows : List DeviceRow) : List DeviceRow :=
  rows.filter fun row => row.workspaceId = workspaceId && row.deviceName = command.deviceName &&
    row.deviceKind = command.deviceKind

/-- The command carries the four values of the user and the workspace. -/
def Creation.Agrees (creation : Creation) (command : BootstrapIdentityCommand) : Prop :=
  creation.command.username = command.username ∧
    creation.command.userDisplayName = command.userDisplayName ∧
    creation.command.workspaceKey = command.workspaceKey ∧
    creation.command.workspaceDisplayName = command.workspaceDisplayName

/-- The device of the creation is active and alone in bearing its name and kind. -/
def Creation.Replayable (creation : Creation) (db : Db) : Prop :=
  ∃ device, selectedDevices creation.command creation.result.workspaceId db.devices = [device] ∧
    device.status = .active

def Creation.replay (creation : Creation) : BootstrapIdentityResult :=
  { creation.result with outcome := .existing }

theorem hydrated_devices (c : BootstrapIdentityCommand) (u : List UserRow)
    (ws : WorkspaceRow) (rs : List DeviceRow) :
    (hydrateIdentityState u [ws] rs).devices.filter (fun d =>
        d.workspaceId = ws.view.workspaceId &&
          d.deviceName = c.deviceName && d.deviceKind = c.deviceKind) =
      (selectedDevices c ws.workspaceId rs).map DeviceRow.view := by
  simp only [hydrateIdentityState, selectedDevices, List.filter_map, List.filter_filter]
  congr 1
  refine List.filter_congr fun row _ => ?_
  simp only [Function.comp_apply, DeviceRow.view, WorkspaceRow.view]
  grind

theorem classifyExistingIdentity_single (c : BootstrapIdentityCommand) (u : UserRow)
    (ws : WorkspaceRow) (rs : List DeviceRow) :
    classifyExistingIdentity (hydrateIdentityState [u] [ws] rs) c =
      if u.username ≠ c.username ∨ u.displayName ≠ c.userDisplayName ∨
          u.status ≠ .active ∨ ws.workspaceKey ≠ c.workspaceKey ∨
          ws.displayName ≠ c.workspaceDisplayName ∨ ws.status ≠ .active ∨
          ws.ownerUserId ≠ u.userId then
        .error .stateConflict
      else
        match selectedDevices c ws.workspaceId rs with
        | [d] =>
          if d.status ≠ .active ∨ d.revokedAt ≠ none ∨ d.userId ≠ u.userId then
            .error .stateConflict
          else
            .ok ⟨u.userId, ws.workspaceId, d.deviceId, .existing, ws.createdAt⟩
        | _ => .error .stateConflict := by
  have hs := hydrated_devices c [u] ws rs
  unfold classifyExistingIdentity
  have hu : (hydrateIdentityState [u] [ws] rs).users = [u.view] := rfl
  have hw : (hydrateIdentityState [u] [ws] rs).workspaces = [ws.view] := rfl
  simp only [hu, hw]
  rw [hs]
  match selectedDevices c ws.workspaceId rs with
  | [] => rfl
  | [d] => rfl
  | _ :: _ :: _ => rfl

theorem classifyExistingIdentity_ok {us : List UserRow} {w : List WorkspaceRow}
    {rs : List DeviceRow} {c : BootstrapIdentityCommand} {r : BootstrapIdentityResult}
    (ha : classifyExistingIdentity (hydrateIdentityState us w rs) c = .ok r) :
    ∃ u ws d, us = [u] ∧ w = [ws] ∧ u.username = c.username ∧ u.displayName = c.userDisplayName ∧
      ws.workspaceKey = c.workspaceKey ∧
      ws.displayName = c.workspaceDisplayName ∧
      selectedDevices c ws.workspaceId rs = [d] ∧
      r = ⟨u.userId, ws.workspaceId, d.deviceId, .existing, ws.createdAt⟩ := by
  match us, w with
  | [u], [ws] =>
    rw [classifyExistingIdentity_single] at ha
    split at ha
    · cases ha
    next hag =>
      simp only [not_or, not_not] at hag
      split at ha
      next d hs =>
        split at ha
        · cases ha
        · cases ha
          exact ⟨u, ws, d, rfl, rfl, hag.1, hag.2.1, hag.2.2.2.1, hag.2.2.2.2.1, hs, rfl⟩
      · cases ha
  | [], _ => cases ha
  | _ :: _ :: _, _ => cases ha
  | [_], [] => cases ha
  | [_], _ :: _ :: _ => cases ha

theorem classifyExistingIdentity_created {c : Creation} {rs : List DeviceRow}
    {d : DeviceRow} (hs : selectedDevices c.command c.result.workspaceId
      rs = [d]) (ha : d.status = .active) (hl : d.revokedAt = none)
    (ho : d.userId = c.result.userId) :
    ∃ r, classifyExistingIdentity (hydrateIdentityState [c.userRow] [c.workspaceRow] rs) c.command =
        .ok r := by
  refine ⟨⟨c.result.userId, c.result.workspaceId, d.deviceId, .existing, c.result.committedAt⟩, ?_⟩
  rw [classifyExistingIdentity_single, if_neg (by simp [Creation.userRow, Creation.workspaceRow])]
  simp only [show c.workspaceRow.workspaceId = c.result.workspaceId from rfl, hs]
  rw [if_neg (by simp [ha, hl, ho, Creation.userRow])]
  rfl

/-! ## The committed state -/

def DeviceRow.identity (row : DeviceRow) :
    DeviceId × WorkspaceId × UserId × String × BootstrapDeviceKind :=
  (row.deviceId, row.workspaceId, row.userId, row.deviceName, row.deviceKind)

@[simp] theorem DeviceRow.revoke_identity (t : RevocationTarget) (dn : Nat)
    (row : DeviceRow) : (row.revoke t dn).identity = row.identity := by
  unfold DeviceRow.revoke
  split <;> rfl

theorem DeviceRow.revoke_active {t : RevocationTarget} {dn : Nat} {row : DeviceRow}
    (ha : (row.revoke t dn).status = .active) :
    row.revoke t dn = row := by
  unfold DeviceRow.revoke at ha ⊢
  split at ha
  · cases ha
  next hk => rw [if_neg hk]

structure IdentityInv (s : Snapshot Db) : Prop where
  users : s.db.users = s.db.creations.map Creation.userRow
  workspaces : s.db.workspaces = s.db.creations.map Creation.workspaceRow
  one : s.db.creations.length ≤ 1
  unowned : s.db.creations = [] → s.db.devices = []
  device : ∀ creation ∈ s.db.creations, ∃ row ∈ s.db.devices,
    row.identity = creation.deviceRow.identity
  keyed : (s.db.devices.map DeviceRow.deviceId).Nodup
  owned : ∀ creation ∈ s.db.creations, ∀ row ∈ s.db.devices,
    row.workspaceId = creation.result.workspaceId ∧ row.userId = creation.result.userId
  live : ∀ row ∈ s.db.devices, row.status = .active → row.revokedAt = none

/-- The tables a bootstrap reads are the same. -/
structure SameIdentity (before after : Db) : Prop where
  users : after.users = before.users
  workspaces : after.workspaces = before.workspaces
  devices : after.devices = before.devices
  creations : after.creations = before.creations

/-- What the commits of the calls do to those tables. -/
inductive IdentityCommit (word : LockWord) :
    Call → Own (Int × Int) ReadNote → Snapshot Db → Db → Prop
  | side {call : Call} {o : Own (Int × Int) ReadNote} {s : Snapshot Db} {db : Db}
      (same : SameIdentity s.db db) : IdentityCommit word call o s db
  | create {command : BootstrapIdentityCommand} {context : BootstrapContext} {ids : FreshIds}
      {o : Own (Int × Int) ReadNote} {s : Snapshot Db} {db : Db}
      (none : s.db.creations = []) (locked : bootstrapLock word command ∈ o.locks)
      (inserted : insertIdentity command context ids s.db = some db) :
      IdentityCommit word (.bootstrap command context) o s db
  | register {grant : ApprovedGrant} {o : Own (Int × Int) ReadNote} {s : Snapshot Db} {db : Db}
      {row : DeviceRow} {creation : Creation} (creations : s.db.creations = [creation])
      (owned : row.workspaceId = creation.result.workspaceId ∧
        row.userId = creation.result.userId) (live : row.revokedAt = Option.none)
      (inserted : insertDevice row s.db = some db) : IdentityCommit word (.exchange grant) o s db
  | revoke {target : RevocationTarget} {databaseNow : Nat} {o : Own (Int × Int) ReadNote}
      {s : Snapshot Db} :
      IdentityCommit word (.revoke target databaseNow) o s (revokeDevices target databaseNow s.db)

theorem insertIdentity_some {c : BootstrapIdentityCommand} {co : BootstrapContext}
    {ids : FreshIds} {db db' : Db} (hi : insertIdentity c co ids db = some db') :
    db'.users = db.users ++ [Creation.userRow ⟨c, ids.result co⟩] ∧
      db'.workspaces = db.workspaces ++ [Creation.workspaceRow ⟨c, ids.result co⟩] ∧
      db'.devices = db.devices ++ [Creation.deviceRow ⟨c, ids.result co⟩] ∧
      db'.creations = db.creations ++ [⟨c, ids.result co⟩] := by
  simp only [insertIdentity] at hi
  split at hi
  · cases hi
  · cases hi
    exact ⟨rfl, rfl, rfl, rfl⟩

theorem insertDevice_some {row : DeviceRow} {db db' : Db} (hi : insertDevice row db = some db') :
    (∀ d ∈ db.devices, d.deviceId ≠ row.deviceId) ∧
      db' = { db with devices := db.devices ++ [row] } := by
  simp only [insertDevice] at hi
  split at hi
  · cases hi
  next hf =>
    cases hi
    simp only [List.any_eq_true, decide_eq_true_eq, not_exists, not_and] at hf
    exact ⟨hf, rfl⟩

theorem IdentityInv.of_same {s : Snapshot Db} {db : Db} {se : Nat} (inv : IdentityInv s)
    (he : SameIdentity s.db db) : IdentityInv ⟨db, se⟩ := by
  obtain ⟨hu, hw, hd, hc⟩ := he
  constructor
  · rw [hu, hc, inv.users]
  · rw [hw, hc, inv.workspaces]
  · rw [hc]
    exact inv.one
  · rw [hc, hd]
    exact inv.unowned
  · rw [hc, hd]
    exact inv.device
  · rw [hd]
    exact inv.keyed
  · rw [hc, hd]
    exact inv.owned
  · rw [hd]
    exact inv.live

theorem IdentityInv.of_inserted {s : Snapshot Db} {db : Db} {c : BootstrapIdentityCommand}
    {co : BootstrapContext} {ids : FreshIds} (inv : IdentityInv s)
    (hn : s.db.creations = []) (hi : insertIdentity c co ids s.db = some db) :
    IdentityInv ⟨db, s.sequence⟩ := by
  obtain ⟨hu, hw, hd, hc⟩ := insertIdentity_some hi
  rw [inv.users, hn, List.map_nil, List.nil_append] at hu
  rw [inv.workspaces, hn, List.map_nil, List.nil_append] at hw
  rw [inv.unowned hn, List.nil_append] at hd
  rw [hn, List.nil_append] at hc
  constructor <;> simp [hu, hw, hd, hc, Creation.deviceRow]

theorem IdentityInv.of_registered {s : Snapshot Db} {db : Db} {row : DeviceRow}
    {cr : Creation} (inv : IdentityInv s) (hc : s.db.creations = [cr])
    (ho : row.workspaceId = cr.result.workspaceId ∧
      row.userId = cr.result.userId) (hl : row.revokedAt = none)
    (hi : insertDevice row s.db = some db) : IdentityInv ⟨db, s.sequence⟩ := by
  obtain ⟨hf, rfl⟩ := insertDevice_some hi
  refine ⟨inv.users, inv.workspaces, inv.one, ?_, ?_, ?_, ?_, ?_⟩
  · simp [hc]
  · intro c hha
    obtain ⟨d, hh, he⟩ := inv.device c hha
    exact ⟨d, List.mem_append_left _ hh, he⟩
  · simp only [List.map_append, List.map_cons, List.map_nil]
    refine List.nodup_append.mpr ⟨inv.keyed, by simp, ?_⟩
    intro a hasA b hhb he
    obtain ⟨d, hh, rfl⟩ := List.mem_map.mp hasA
    exact hf d hh (he.trans (List.mem_singleton.mp hhb))
  · intro c hha d hh
    rcases List.mem_append.mp hh with old | new
    · exact inv.owned c hha d old
    · have hha : c ∈ s.db.creations := hha
      rw [hc, List.mem_singleton] at hha
      rw [List.mem_singleton.mp new, hha]
      exact ho
  · intro d hh ha
    rcases List.mem_append.mp hh with old | new
    · exact inv.live d old ha
    · rw [List.mem_singleton.mp new]
      exact hl

theorem IdentityInv.of_revoked {s : Snapshot Db} (inv : IdentityInv s) (t : RevocationTarget)
    (dn : Nat) : IdentityInv ⟨revokeDevices t dn s.db, s.sequence⟩ := by
  have hi := fun row : DeviceRow => row.revoke_identity t dn
  refine ⟨inv.users, inv.workspaces, inv.one, ?_, ?_, ?_, ?_, ?_⟩
  · intro hn
    simp [revokeDevices, inv.unowned hn]
  · intro c hhc
    obtain ⟨d, hh, he⟩ := inv.device c hhc
    exact ⟨_, List.mem_map_of_mem hh, (hi d).trans he⟩
  · have ids : (s.db.devices.map (DeviceRow.revoke t dn)).map DeviceRow.deviceId =
        s.db.devices.map DeviceRow.deviceId := by
      rw [List.map_map]
      exact List.map_congr_left fun row _ => congrArg Prod.fst (hi row)
    exact ids ▸ inv.keyed
  · intro c hhc d hh
    obtain ⟨row, hha, rfl⟩ := List.mem_map.mp hh
    have he := hi row
    simp only [DeviceRow.identity, Prod.mk.injEq] at he
    rw [he.2.1, he.2.2.1]
    exact inv.owned c hhc row hha
  · intro d hh ha
    obtain ⟨row, hha, rfl⟩ := List.mem_map.mp hh
    have hk := DeviceRow.revoke_active ha
    rw [hk] at ha ⊢
    exact inv.live row hha ha

/-! ## The rules of the calls -/

def GoodBootstrap (command : BootstrapIdentityCommand) (born now : Db) : Answer → Prop
  | .created result => born.creations = [] ∧ now.creations = [⟨command, result⟩]
  | .existing result deviceRows => ∃ creation device, now.creations = [creation] ∧
    creation.Agrees command ∧
    selectedDevices command creation.result.workspaceId deviceRows = [device] ∧
    result = { creation.replay with deviceId := device.deviceId } ∧
    (device.deviceId = creation.result.deviceId → command = creation.command)
  | .stateConflict => ∃ creation, now.creations = [creation] ∧
    (command = creation.command → ¬ creation.Replayable now)
  | .databaseFailure kind => kind ≠ .integrity
  | _ => False

def GoodAnswer (call : Call) (born now : Db) (answer : Answer) : Prop :=
  match call with
  | .bootstrap command _ => GoodBootstrap command born now answer
  | _ => True

/-- A session that has read all tables empty asks that no identity is committed. -/
def identityRules (word : LockWord) : Rules Db (Int × Int) ReadNote Answer Call where
  Inv := IdentityInv
  Guar := IdentityCommit word
  Respects notes before after := .sawEmpty ∈ notes → after.creations = before.creations
  Good call born now answer := GoodAnswer call born.db now.db answer
  inv_draw inv := inv.of_same ⟨rfl, rfl, rfl, rfl⟩
  inv_commit inv _ guarantee := by
    cases guarantee with
    | side same => exact inv.of_same same
    | create none _ inserted => exact inv.of_inserted none inserted
    | register creations owned live inserted =>
      exact inv.of_registered creations owned live inserted
    | revoke => exact inv.of_revoked _ _
  respects_nil _ _ noted := nomatch noted

variable {o o' : Own (Int × Int) ReadNote} {s s' born : Snapshot Db} {db : Db} {call : Call}

theorem IdentityCommit.creations (hc : IdentityCommit word call o s db) :
    db.creations = s.db.creations ∨ ∃ c co ids, call = .bootstrap c co ∧
      s.db.creations = [] ∧ bootstrapLock word c ∈ o.locks ∧
      db.creations = [⟨c, FreshIds.result ids co⟩] := by
  cases hc with
  | side he => exact .inl he.creations
  | create hn hl hi =>
    rw [(insertIdentity_some hi).2.2.2, hn]
    exact .inr ⟨_, _, _, rfl, rfl, hl, rfl⟩
  | register _ _ _ hi =>
    obtain ⟨_, rfl⟩ := insertDevice_some hi
    exact .inl rfl
  | revoke => exact .inl rfl

theorem creations_kept (ho : Rely (identityRules word) o s s') {c : Creation}
    (ht : s.db.creations = [c]) : s'.db.creations = [c] := by
  refine Rely.stable (fun t => t.db.creations = [c]) ?_ ho ht
  intro a b hs ht
  cases hs with
  | draw => exact ht
  | commit call o' ha inv hn hg =>
    rcases hg.creations with he | ⟨_, _, _, _, hno, _⟩
    · exact he.trans ht
    · simp [hno] at ht

theorem creations_empty {se : Nat} (ho : Rely (identityRules word) o ⟨db, se⟩ s')
    (hn : .sawEmpty ∈ o.notes) : s'.db.creations = db.creations := by
  refine Rely.stable (fun t => t.db.creations = db.creations) ?_ ho rfl
  intro a b hs he
  cases hs with
  | draw => exact he
  | commit call o' ha inv hnu hg hr => exact (hr hn).trans he

theorem creation_locked {cm : BootstrapIdentityCommand}
    (hh : bootstrapLock word cm ∈ o.locks) (ho : Rely (identityRules word) o s s') :
    ∀ c ∈ s'.db.creations, c.command = cm → c ∈ s.db.creations := by
  refine Rely.stable (fun t => ∀ c ∈ t.db.creations, c.command = cm →
    c ∈ s.db.creations) ?_ ho fun _ hm _ => hm
  intro a b hs hb
  cases hs with
  | draw => exact hb
  | commit call o' ha inv hn hg =>
    rcases hg.creations with he | ⟨cr, _, _, _, _, hl, hc⟩
    · rw [he]
      exact hb
    · rintro c hm rfl
      rw [hc, List.mem_singleton] at hm
      subst hm
      exact (ha.1 _ hh hl).elim

/-! ## Devices -/

theorem selectedDevices_revoke (c : BootstrapIdentityCommand) (wi : WorkspaceId)
    (t : RevocationTarget) (dn : Nat) (rs : List DeviceRow) :
    selectedDevices c wi (rs.map (DeviceRow.revoke t dn)) =
      (selectedDevices c wi rs).map (DeviceRow.revoke t dn) := by
  simp only [selectedDevices, List.filter_map]
  congr 1
  refine List.filter_congr fun row _ => ?_
  have he := row.revoke_identity t dn
  simp only [DeviceRow.identity, Prod.mk.injEq] at he
  simp [he]

theorem IdentityInv.selects (inv : IdentityInv s) {c : Creation} (hm : c ∈ s.db.creations) :
    ∃ row ∈ selectedDevices c.command c.result.workspaceId s.db.devices,
      row.identity = c.deviceRow.identity := by
  obtain ⟨row, hh, he⟩ := inv.device c hm
  have hf := he
  simp only [DeviceRow.identity, Creation.deviceRow, Prod.mk.injEq] at hf
  exact ⟨row, List.mem_filter.mpr ⟨hh, by simp [hf]⟩, he⟩

theorem IdentityCommit.replayable (hco : IdentityCommit word call o s db) (inv : IdentityInv s)
    {c : Creation} (ht : s.db.creations = [c])
    (haf : c.Replayable db) : c.Replayable s.db := by
  obtain ⟨d, hs, ha⟩ := haf
  cases hco with
  | side he => exact ⟨d, he.devices ▸ hs, ha⟩
  | create hn => simp [hn] at ht
  | register _ _ _ hi =>
    obtain ⟨_, rfl⟩ := insertDevice_some hi
    have hc : c ∈ s.db.creations := by simp [ht]
    obtain ⟨row, hh, _⟩ := inv.selects hc
    simp only [selectedDevices, List.filter_append] at hs hh
    rcases List.append_eq_singleton_iff.mp hs with ⟨hn, _⟩ | ⟨ho, _⟩
    · simp [hn] at hh
    · exact ⟨d, ho, ha⟩
  | revoke =>
    have hs : selectedDevices c.command c.result.workspaceId (s.db.devices.map _) = [d] := hs
    rw [selectedDevices_revoke] at hs
    obtain ⟨row, ho, rfl⟩ := List.map_eq_singleton_iff.mp hs
    rw [DeviceRow.revoke_active ha] at ha
    exact ⟨row, ho, ha⟩

theorem replayable_earlier (ho : Rely (identityRules word) o s s') {c : Creation}
    (ht : s.db.creations = [c]) (hl : c.Replayable s'.db) :
    c.Replayable s.db := by
  refine (Rely.stable (fun t => t.db.creations = [c] ∧
    (c.Replayable t.db → c.Replayable s.db)) ?_ ho ⟨ht, id⟩).2 hl
  rintro a b hst ⟨hs, hb⟩
  refine ⟨creations_kept (.single hst) hs, ?_⟩
  cases hst with
  | draw => exact hb
  | commit call o' hap inv hn hg =>
    exact fun ha => hb (hg.replayable inv hs ha)

/-! ## Every program is safe -/

def Conflicting (command : BootstrapIdentityCommand) (db : Db) : Prop :=
  ∃ creation, db.creations = [creation] ∧ (command = creation.command → ¬ creation.Replayable db)

theorem Conflicting.later {c : BootstrapIdentityCommand}
    (hc : Conflicting c s.db) (ho : Rely (identityRules word) o s s') :
    Conflicting c s'.db := by
  obtain ⟨cr, ht, hre⟩ := hc
  exact ⟨cr, creations_kept ho ht, fun he hr =>
    hre he (replayable_earlier ho ht hr)⟩

theorem IdentityInv.nil_or_single (inv : IdentityInv s) :
    s.db.creations = [] ∨ ∃ c, s.db.creations = [c] := by
  have one := inv.one
  match hc : s.db.creations with
  | [] => exact .inl rfl
  | [c] => exact .inr ⟨c, rfl⟩
  | _ :: _ :: _ => simp [hc] at one

theorem IdentityInv.single_of_mem (inv : IdentityInv s) {c : Creation}
    (hm : c ∈ s.db.creations) : s.db.creations = [c] := by
  rcases inv.nil_or_single with nil | ⟨oy, ht⟩
  · simp [nil] at hm
  · rw [ht, List.mem_singleton] at hm
    rw [ht, hm]

theorem IdentityInv.names_of_id (inv : IdentityInv s) {c : Creation}
    {cm : BootstrapIdentityCommand} {d : DeviceRow}
    (ht : s.db.creations = [c])
    (hs : selectedDevices cm c.result.workspaceId s.db.devices = [d])
    (own : d.deviceId = c.result.deviceId) (ha : c.Agrees cm) :
    cm = c.command := by
  obtain ⟨hh, hb⟩ := List.mem_filter.mp (hs ▸ List.mem_singleton_self d)
  obtain ⟨row, hha, hi⟩ := inv.device c (by simp [ht])
  simp only [DeviceRow.identity, Creation.deviceRow, Prod.mk.injEq] at hi
  have he : d = row := List.inj_on_of_nodup_map inv.keyed hh hha (own.trans hi.1.symm)
  obtain ⟨hn, hd, key, hw⟩ := ha
  simp only [Bool.and_eq_true, decide_eq_true_eq] at hb
  obtain ⟨⟨⟩, r⟩ := c
  cases cm
  simp_all

theorem IdentityInv.users_of_nil (inv : IdentityInv s) (hn : s.db.creations = []) :
    s.db.users = [] ∧ s.db.workspaces = [] ∧ s.db.devices = [] := by
  simp [inv.users, inv.workspaces, inv.unowned hn, hn]

theorem IdentityInv.nil_of_devices (inv : IdentityInv s) (hn : s.db.devices = []) :
    s.db.creations = [] := by
  rcases inv.nil_or_single with nil | ⟨c, ht⟩
  · exact nil
  · obtain ⟨row, hh, _⟩ := inv.device c (by simp [ht])
    simp [hn] at hh

theorem isEmpty_hydrate {u : List UserRow} {w : List WorkspaceRow}
    {d : List DeviceRow} :
    (hydrateIdentityState u w d).isEmpty = true ↔ u = [] ∧ w = [] ∧ d = [] := by
  match w with
  | [] => simp [hydrateIdentityState, ExistingIdentityState.isEmpty]
  | _ :: _ => simp [hydrateIdentityState, ExistingIdentityState.isEmpty]

theorem databaseFailed_safe (c : BootstrapIdentityCommand) (co : BootstrapContext) (f : Failure) :
    SafeAfter (identityRules word) (.bootstrap c co) born (databaseFailed f) := by
  intro s hl inv s' ho hi'
  cases f with
  | contention | unavailable | unclassified => nofun

theorem recordConflictRejection_safe {c : BootstrapIdentityCommand}
    {co : BootstrapContext} (st : ExistingIdentityState)
    (hc : Conflicting c s.db) :
    Safe (identityRules word) (.bootstrap c co) born (recordConflictRejection st c co) o s := by
  unfold recordConflictRejection
  split
  · exact fun s' ho inv => hc.later ho
  · refine fun s₁ ho₁ hi₁ => ⟨fun f => ?_, ?_⟩
    · intro s' ho hi'
      cases f with
      | contention | unavailable | unclassified => nofun
    · refine Safe.draw fun s₂ ho₂ hi₂ => ?_
      intro s₃ ho₃ hi₃
      refine ⟨?_, nofun⟩
      rintro db ⟨⟩
      refine ⟨.side ⟨rfl, rfl, rfl, rfl⟩, fun s₄ ho₄ hi₄ => ?_⟩
      have hc₂ := (hc.later ho₁).later ho₂
      have hc₃ : Conflicting c s₃.db := Conflicting.later (s := ⟨s₂.db, s₂.sequence + 1⟩) hc₂ ho₃
      refine Conflicting.later (s := ⟨_, s₃.sequence⟩) ?_ ho₄
      exact hc₃

theorem createIdentity_safe {c : BootstrapIdentityCommand} {co : BootstrapContext}
    (hl : bootstrapLock word c ∈ o.locks) (hn : .sawEmpty ∈ o.notes)
    (hf : born.db.creations = []) (hno : s.db.creations = []) :
    Safe (identityRules word) (.bootstrap c co) born (createIdentity c co) o s := by
  unfold createIdentity
  refine Safe.draw fun s₁ ho₁ _ => Safe.draw fun s₂ ho₂ _ => Safe.draw fun s₃ ho₃ _ =>
    Safe.draw fun s₄ ho₄ _ => Safe.draw fun s₅ ho₅ _ => ?_
  intro s₆ ho₆ hi₆
  have hn₂ := creations_empty ho₂ hn
  have hn₃ := creations_empty ho₃ hn
  have hn₄ := creations_empty ho₄ hn
  have hn₅ := creations_empty ho₅ hn
  have hn₆ := creations_empty ho₆ hn
  have hs : s₆.db.creations = [] := by
    rw [hn₆, hn₅, hn₄, hn₃, hn₂, creations_empty ho₁ hn, hno]
  obtain ⟨hu, hw, hd⟩ := hi₆.users_of_nil hs
  refine ⟨fun db hi => ⟨.create hs hl hi, ?_⟩, fun hr => ?_⟩
  · intro s₇ ho₇ hi₇
    refine ⟨hf, creations_kept ho₇ ?_⟩
    rw [(insertIdentity_some hi).2.2.2, hs, List.nil_append]
  · -- no constraint is violated in empty tables
    simp [insertIdentity, Db.violates, hu, hw, hd] at hr

theorem decideBootstrap_safe {command : BootstrapIdentityCommand} {context : BootstrapContext}
    {atUsers atWorkspaces : Snapshot Db} (locked : bootstrapLock word command ∈ o.locks)
    (noted : (hydrateIdentityState atUsers.db.users atWorkspaces.db.workspaces
      s.db.devices).isEmpty = true → .sawEmpty ∈ o.notes)
    (fresh : s.db.creations = [] → born.db.creations = [])
    (usersInv : IdentityInv atUsers) (workspacesInv : IdentityInv atWorkspaces)
    (inv : IdentityInv s) (toWorkspaces : Rely (identityRules word) o' atUsers atWorkspaces)
    (toDevices : Rely (identityRules word) o' atWorkspaces s)
    (heldBefore : bootstrapLock word command ∈ o'.locks) :
    Safe (identityRules word) (.bootstrap command context) born
      (decideBootstrap command context atUsers.db.users atWorkspaces.db.workspaces
        s.db.devices) o s := by
  unfold decideBootstrap
  dsimp only
  split
  next empty =>
    have none := inv.nil_of_devices (isEmpty_hydrate.mp empty).2.2
    exact createIdentity_safe locked (noted empty) (fresh none) none
  next populated =>
    -- one of the reads has found the identity, and it is there still
    obtain ⟨creation, stands⟩ : ∃ creation, s.db.creations = [creation] := by
      refine inv.nil_or_single.resolve_left fun none => populated (isEmpty_hydrate.mpr ?_)
      have noneW : atWorkspaces.db.creations = [] := by
        rcases workspacesInv.nil_or_single with nil | ⟨creation, stands⟩
        · exact nil
        · simp [creations_kept toDevices stands] at none
      have noneU : atUsers.db.creations = [] := by
        rcases usersInv.nil_or_single with nil | ⟨creation, stands⟩
        · exact nil
        · simp [creations_kept toWorkspaces stands] at noneW
      exact ⟨(usersInv.users_of_nil noneU).1, (workspacesInv.users_of_nil noneW).2.1,
        (inv.users_of_nil none).2.2⟩
    split
    next result accepted =>
      obtain ⟨user, workspace, device, isUser, isWorkspace, name, display, key, workspaceDisplay,
        selected, rfl⟩ := classifyExistingIdentity_ok accepted
      -- a user was found, so the identity stood at the first read already
      obtain ⟨first, standsU⟩ : ∃ creation, atUsers.db.creations = [creation] := by
        refine usersInv.nil_or_single.resolve_left fun none => ?_
        simp [(usersInv.users_of_nil none).1] at isUser
      have standsW := creations_kept toWorkspaces standsU
      have same : first = creation := by
        have := (creations_kept toDevices standsW).symm.trans stands
        exact List.singleton_inj.mp this
      subst same
      rw [usersInv.users, standsU] at isUser
      rw [workspacesInv.workspaces, standsW] at isWorkspace
      cases isUser
      cases isWorkspace
      refine fun s₁ others₁ inv₁ => ⟨?_, nofun⟩
      rintro db ⟨⟩
      refine ⟨.side ⟨rfl, rfl, rfl, rfl⟩, fun s₂ others₂ inv₂ => ?_⟩
      have stands₂ : s₂.db.creations = [first] :=
        creations_kept others₂ (creations_kept others₁ stands)
      refine ⟨first, device, stands₂, ⟨name, display, key, workspaceDisplay⟩, selected, rfl, ?_⟩
      exact fun own => inv.names_of_id stands selected own ⟨name, display, key, workspaceDisplay⟩
    next refused =>
      refine Safe.rollback fun s₁ others₁ inv₁ => recordConflictRejection_safe _ ?_
      refine Conflicting.later ⟨creation, stands, ?_⟩ others₁
      rintro rfl ⟨device, selected, active⟩
      -- under the lock of its names the identity was there at every read
      have standsW : atWorkspaces.db.creations = [creation] := workspacesInv.single_of_mem
        (creation_locked heldBefore toDevices creation (by simp [stands]) rfl)
      have standsU : atUsers.db.creations = [creation] := usersInv.single_of_mem
        (creation_locked heldBefore toWorkspaces creation (by simp [standsW]) rfl)
      have hasDevice : device ∈ s.db.devices :=
        (List.mem_filter.mp (selected ▸ List.mem_singleton_self device)).1
      obtain ⟨result, accepted⟩ := classifyExistingIdentity_created selected active
        (inv.live device hasDevice active) (inv.owned creation (by simp [stands]) device hasDevice).2
      rw [usersInv.users, workspacesInv.workspaces, standsU, standsW, List.map_singleton,
        List.map_singleton, accepted] at refused
      cases refused

theorem bootstrapProgram_safe {c : BootstrapIdentityCommand} {co : BootstrapContext}
    (inv : IdentityInv s) :
    Safe (identityRules word) (.bootstrap c co) s (bootstrapProgram word c co) .none s := by
  refine Safe.begin .refl (fun f => databaseFailed_safe c co f) ?_
  refine fun s₁ ho₁ hi₁ => Safe.lock fun s₂ ho₂ hi₂ => Safe.read fun s₃ ho₃ hi₃ =>
    Safe.read fun s₄ ho₄ hi₄ => Safe.note fun s₅ ho₅ hi₅ => ?_
  refine decideBootstrap_safe List.mem_cons_self ?_ ?_ hi₃ hi₄ hi₅ ho₄ ho₅ List.mem_cons_self
  · intro he
    simp [Own.withNotes, he]
  · intro hn
    rcases inv.nil_or_single with nil | ⟨cr, ht⟩
    · exact nil
    · have ht₂ := creations_kept ho₂ (creations_kept ho₁ ht)
      have ht₄ := creations_kept ho₄ (creations_kept ho₃ ht₂)
      simp [creations_kept ho₅ ht₄] at hn

theorem exchangeProgram_safe (g : ApprovedGrant) :
    Safe (identityRules word) (.exchange g) born (exchangeProgram g) .none s := by
  have ha {t : Snapshot Db} {o : Own (Int × Int) ReadNote} (an : Answer) :
      Safe (identityRules word) (.exchange g) born (.done an) o t :=
    fun _ _ _ => trivial
  refine fun s₁ _ _ => ⟨fun f _ _ _ => trivial, fun s₂ ho₂ hi₂ => ?_⟩
  dsimp only
  split
  · exact Safe.rollback fun s' _ _ => ha _
  next u hf =>
    split
    · exact Safe.rollback fun s' _ _ => ha _
    · intro s₃ ho₃ hi₃
      dsimp only
      split
      next ws ho =>
        refine Safe.draw fun s₄ ho₄ hi₄ s₅ ho₅ hi₅ => ⟨fun db hi => ?_, fun _ =>
          ha _⟩
        obtain ⟨c, ht⟩ : ∃ c, s₂.db.creations = [c] := by
          refine hi₂.nil_or_single.resolve_left fun hn => ?_
          simp [(hi₂.users_of_nil hn).1] at hf
        have ht₃ := creations_kept ho₃ ht
        have ht₅ := creations_kept (s := ⟨s₄.db, s₄.sequence + 1⟩) ho₅ (creations_kept ho₄ ht₃)
        rw [hi₂.users, ht] at hf
        have hu := List.mem_singleton.mp (List.mem_of_find?_eq_some hf)
        have hap := List.find?_some hf
        rw [hu, decide_eq_true_eq] at hap
        have hw : ws ∈ s₃.db.workspaces := (List.mem_filter.mp (ho ▸ List.mem_singleton_self ws)).1
        rw [hi₃.workspaces, ht₃, List.map_singleton, List.mem_singleton] at hw
        exact ⟨.register ht₅ ⟨by rw [hw]; rfl, hap.symm⟩ rfl hi, ha _⟩
      · exact Safe.rollback fun s' _ _ => ha _

theorem revokeProgram_safe (t : RevocationTarget) (dn : Nat) :
    Safe (identityRules word) (.revoke t dn) born (revokeProgram t dn) .none s := by
  refine fun s₁ _ _ => ⟨fun f _ _ _ => trivial, fun s₂ _ _ => ⟨?_, nofun⟩⟩
  rintro db ⟨⟩
  exact ⟨.revoke, fun _ _ _ => trivial⟩

/-! ## Runs -/

/-- A commit of a bootstrap creates its identity, and the call then answers so, unless its client
is gone; or it leaves the tables alone. -/
def CreatesOrKeeps (call : Call) (writes : Db → Option Db) (committed : Db → BootstrapProgram) :
    Prop :=
  ∀ command context, call = .bootstrap command context → ∀ db db', writes db = some db' →
    SameIdentity db db' ∨ ∃ result, db'.creations = db.creations ++ [⟨command, result⟩] ∧
      (committed db = .done (.created result) ∨ committed db = .halt)

theorem program_creates (word : LockWord) (call : Call) :
    (program word call).Finishes (CreatesOrKeeps call) := by
  have hr (st : ExistingIdentityState) (c : BootstrapIdentityCommand) (co : BootstrapContext) :
      (recordConflictRejection st c co).Finishes (CreatesOrKeeps call) := by
    unfold recordConflictRejection
    split
    · trivial
    · refine ⟨fun _ => trivial, fun _ => ⟨?_, fun _ => trivial, fun _ => trivial⟩⟩
      rintro c co _ db _ ⟨⟩
      exact .inl ⟨rfl, rfl, rfl, rfl⟩
  cases call with
  | bootstrap c co =>
    refine ⟨fun _ => trivial, fun au aw db => ?_⟩
    unfold decideBootstrap
    dsimp only
    split
    · intro ui wi di ae pd
      refine ⟨?_, fun _ => trivial, fun _ => trivial⟩
      rintro _ _ ⟨⟩ db db' hi
      exact .inr ⟨_, (insertIdentity_some hi).2.2.2, .inl rfl⟩
    · split
      · refine ⟨?_, fun _ => trivial, fun _ => trivial⟩
        rintro _ _ _ db _ ⟨⟩
        exact .inl ⟨rfl, rfl, rfl, rfl⟩
      · exact Program.Finishes.rollback (fun _ _ _ _ _ _ => nofun) (hr _ _ _)
  | exchange g =>
    refine ⟨fun _ => trivial, fun db => ?_⟩
    have hf (w : Db → Option Db) (cd : Db → BootstrapProgram) :
        CreatesOrKeeps (.exchange g) w cd := nofun
    dsimp only
    split
    · exact Program.Finishes.rollback (fun _ => hf _ _) trivial
    · split
      · exact Program.Finishes.rollback (fun _ => hf _ _) trivial
      · intro db
        dsimp only
        split
        · exact fun _ => ⟨hf _ _, fun _ => trivial, fun _ => trivial⟩
        · exact Program.Finishes.rollback (fun _ => hf _ _) trivial
  | revoke t dn =>
    exact ⟨fun _ => trivial, nofun, fun _ => trivial, fun _ => trivial⟩

/-- No bootstrap commits an identity while another session is running that has read all tables
empty. -/
abbrev Uncrossed (word : LockWord) (w : BootstrapWorld) (a : Action Call) : Prop :=
  RespectsNotes (identityRules word) w a

/-- The device a command selects was registered after the identity. -/
def Lookalike (creation : Creation) (command : BootstrapIdentityCommand)
    (deviceRows : List DeviceRow) : Prop :=
  ∃ device, selectedDevices command creation.result.workspaceId deviceRows = [device] ∧
    device.deviceId ≠ creation.result.deviceId

/-- What a bootstrap answers: it created the identity and found none when it was called; it repeats
the creating command and answers its identifiers, exactly where no lookalike is selected; or it
conflicts, which a repetition does not while the device is active and alone with its names. -/
def AnswersIdentity (command : BootstrapIdentityCommand) (born now : Db) : Answer → Prop
  | .created result => born.creations = [] ∧ now.creations = [⟨command, result⟩]
  | .existing result deviceRows => ∃ creation, now.creations = [creation] ∧
    (command = creation.command ∧ result = creation.replay ↔
      ¬ Lookalike creation command deviceRows)
  | .stateConflict => ∃ creation, now.creations = [creation] ∧
    (command = creation.command → ¬ creation.Replayable now)
  | .databaseFailure kind => kind ≠ .integrity
  | _ => False

/-- How a step changes the tables a bootstrap reads: not at all; a registration or a revocation
changes devices; or a bootstrap fills the empty tables, and answers so unless its client is
gone. -/
def ChangesIdentity (w w' : BootstrapWorld) : Prop :=
  SameIdentity w.snapshot.db w'.snapshot.db ∨
  ∃ (i : Nat) (s s' : Session Db (Int × Int) ReadNote Answer Call), w.sessions[i]? = some s ∧
    w'.sessions[i]? = some s' ∧
    match s.call with
    | .bootstrap command _ => w.snapshot.db.users = [] ∧ w.snapshot.db.workspaces = [] ∧
      w.snapshot.db.devices = [] ∧ ∃ result, w'.snapshot.db.creations = [⟨command, result⟩] ∧
        (s'.program = .done (.created result) ∨ s'.program = .halt)
    | _ => w'.snapshot.db.users = w.snapshot.db.users ∧
      w'.snapshot.db.workspaces = w.snapshot.db.workspaces ∧
      w'.snapshot.db.creations = w.snapshot.db.creations

structure OneIdentity (word : LockWord) (w : BootstrapWorld) : Prop where
  users : w.snapshot.db.users.length ≤ 1
  workspaces : w.snapshot.db.workspaces.length ≤ 1
  answers : ∀ s ∈ w.sessions, ∀ command context answer, s.call = .bootstrap command context →
    s.program = .done answer → AnswersIdentity command s.born.db w.snapshot.db answer
  changes : ∀ a w', (bootstrapMachine word).step w a = some w' → ChangesIdentity w w'

theorem AnswersIdentity.of_good {cm : BootstrapIdentityCommand} {born now : Db}
    {an : Answer} (hgo : GoodBootstrap cm born now an) :
    AnswersIdentity cm born now an := by
  cases an with
  | existing r dr =>
    obtain ⟨c, d, ht, ha, hse, rfl, hn⟩ := hgo
    refine ⟨c, ht, ?_, fun hg => ?_⟩
    · rintro ⟨_, he⟩ ⟨ot, hs, hf⟩
      rw [hse] at hs
      cases hs
      exact hf (congrArg BootstrapIdentityResult.deviceId he)
    · have own : d.deviceId = c.result.deviceId := by
        by_contra hf
        exact hg ⟨d, hse, hf⟩
      exact ⟨hn own, by rw [own]; rfl⟩
  | created | stateConflict | databaseFailure | exchanged | exchangeInvalid | revoked => exact hgo

theorem sound_of_uncrossed {w : BootstrapWorld}
    (hr : (bootstrapMachine word).GuardedReachable (Uncrossed word) w) :
    Sound (identityRules word) w := by
  refine Rules.sound ?_ ?_ hr
  · intro s hs
    constructor <;> simp [hs, Db.empty]
  · intro call s inv
    cases call with
    | bootstrap c co => exact bootstrapProgram_safe inv
    | exchange g => exact exchangeProgram_safe g
    | revoke t dn => exact revokeProgram_safe t dn

theorem changesIdentity_step {w w' : BootstrapWorld} {a : Action Call}
    (hr : (bootstrapMachine word).GuardedReachable (Uncrossed word) w)
    (hv : (bootstrapMachine word).step w a = some w') : ChangesIdentity w w' := by
  have hs := sound_of_uncrossed hr
  rcases step_finish hv with he | ⟨i, s, wr, cd, re, rfl, ht, hf, hw, ha⟩
  · exact .inl (by rw [he]; exact ⟨rfl, rfl, rfl, rfl⟩)
  have hsa := hs.safe i s ht
  rw [hf] at hsa
  have hc : IdentityCommit word s.call s.own w.snapshot w'.snapshot.db :=
    ((hsa _ .refl hs.inv).1 _ hw).1
  have hcs := finishes_of_reachable (Q := CreatesOrKeeps) (fun call wr cd hm c co is db db' hw =>
      (hm c co is db db' hw).imp_right fun ⟨r, hcr, _⟩ =>
        ⟨r, hcr, .inr rfl⟩)
    (program_creates word) hr.reachable s (List.mem_of_getElem? ht)
  rw [hf] at hcs
  cases hca : s.call with
  | bootstrap c co =>
    rw [hca] at hc
    cases hc with
    | side he => exact .inl he
    | create hn hl hi =>
      rcases hcs.1 c co hca _ _ hw with he | ⟨r, hcr, han⟩
      · exact .inl he
      · obtain ⟨hu, hwo, hd⟩ := IdentityInv.users_of_nil hs.inv hn
        refine .inr ⟨i, s, _, ht, ha, ?_⟩
        rw [hca]
        exact ⟨hu, hwo, hd, r, by rw [hcr, hn]; rfl, han⟩
  | exchange g =>
    rw [hca] at hc
    cases hc with
    | side he => exact .inl he
    | register _ _ _ hi =>
      refine .inr ⟨i, s, _, ht, ha, ?_⟩
      rw [hca, (insertDevice_some hi).2]
      exact ⟨rfl, rfl, rfl⟩
  | revoke t dn =>
    rw [hca] at hc
    generalize hch : w'.snapshot.db = db at hc
    cases hc with
    | side he => exact .inl (hch ▸ he)
    | revoke =>
      refine .inr ⟨i, s, _, ht, ha, ?_⟩
      rw [hca, hch]
      exact ⟨rfl, rfl, rfl⟩

/-- In every run in which no identity is committed under a session that has read all tables empty,
there is one identity at most, and every bootstrap answers from it. -/
theorem bootstrap_creates_one_identity (word : LockWord) (w : BootstrapWorld)
    (reached : (bootstrapMachine word).GuardedReachable (Uncrossed word) w) :
    OneIdentity word w := by
  have hs := sound_of_uncrossed reached
  have inv : IdentityInv w.snapshot := hs.inv
  refine ⟨?_, ?_, ?_, fun a w' => changesIdentity_step reached⟩
  · rw [inv.users, List.length_map]
    exact inv.one
  · rw [inv.workspaces, List.length_map]
    exact inv.one
  · intro s hm c co an hc hr
    obtain ⟨i, ht⟩ := List.getElem?_of_mem hm
    have hsa := hs.safe i s ht
    rw [hr] at hsa
    have hg : GoodAnswer s.call s.born.db w.snapshot.db an := hsa _ .refl hs.inv
    rw [hc] at hg
    exact .of_good hg

def sampleContext (requestId : Nat) : BootstrapContext :=
  ⟨requestId, none, "trace", 100, 200⟩

def aliceAtHome : BootstrapIdentityCommand :=
  ⟨"alice", "Alice", "home", "Home", "laptop", .obsidian⟩

def bobAtWork : BootstrapIdentityCommand :=
  ⟨"bob", "Bob", "work", "Work", "desktop", .obsidian⟩

def sampleWord : LockWord := fun material =>
  if material = SourceStore.encodeUtf8 "alice:home" then 1110036538
  else if material = SourceStore.encodeUtf8 "bob:work" then 1291547214
  else 0

def emptyWorld : BootstrapWorld := ⟨⟨.empty, 0⟩, []⟩

/-- One call creates the identity and another repeats it. -/
def repeatedScript : List (Action Call) :=
  .spawn (.bootstrap aliceAtHome (sampleContext 1)) :: List.replicate 12 (.advance 0) ++
    .spawn (.bootstrap aliceAtHome (sampleContext 2)) :: List.replicate 6 (.advance 1)

theorem bootstrap_creates_one_identity_repeated : ∃ w,
    (bootstrapMachine sampleWord).GuardedReachable (Uncrossed sampleWord) w ∧
      w.snapshot.db.users.length = 1 ∧ OneIdentity sampleWord w := by
  obtain ⟨w, ran⟩ : ∃ w, (bootstrapMachine sampleWord).run emptyWorld repeatedScript = some w :=
    ⟨_, rfl⟩
  have run : (bootstrapMachine sampleWord).GuardedReachable (Uncrossed sampleWord) w :=
    Machine.guardedReachable_of_run (fun _ _ => respectsNotes_of_quiet) ⟨rfl, rfl⟩ ran (by decide)
  have law := bootstrap_creates_one_identity sampleWord w run
  cases ran
  exact ⟨_, run, rfl, law⟩

/-- Two calls with different names read the tables before either commits. -/
def overlappingScript : List (Action Call) :=
  [.spawn (.bootstrap aliceAtHome (sampleContext 1)),
    .spawn (.bootstrap bobAtWork (sampleContext 2))] ++ List.replicate 10 (.advance 0) ++
    List.replicate 10 (.advance 1) ++ [.advance 0, .advance 1]

theorem two_names_two_identities :
    ¬ ∀ w, (bootstrapMachine sampleWord).Reachable w → OneIdentity sampleWord w := by
  intro hc
  obtain ⟨w, ran⟩ : ∃ w, (bootstrapMachine sampleWord).run emptyWorld overlappingScript = some w :=
    ⟨_, rfl⟩
  have law := hc w (Machine.reachable_of_run ⟨rfl, rfl⟩ ran)
  cases ran
  exact absurd law.users (by decide)

end PersonalOs.Identity
