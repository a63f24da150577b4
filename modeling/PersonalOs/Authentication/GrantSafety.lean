import PersonalOs.Authentication.DeviceCommits

/-!
# Safety of the device-authorization store
-/

namespace PersonalOs.Authentication

open Transactions Tables

variable {call : DeviceCall} {born s s' : Snapshot Db} {o : AuthOwn}

/-! ## Creation and decision -/

theorem safe_insertPendingGrant {command : InsertPendingGrantCommand} (inv : DeviceInv born) :
    Safe deviceRules (.insertPendingGrant command) born (insertPendingGrant command) .none
      born := by
  refine safe_runAuthenticationTransaction (fun _ _ _ => trivial) (fun s _ _ => ?_) inv
  refine Safe.commitOrAbort (fun s₁ db gt _ hi₁ ok => ⟨?_, fun _ _ _ => trivial⟩)
    fun _ _ _ _ _ _ _ _ => trivial
  obtain ⟨gr, hi, ok⟩ := bind_ok ok
  cases ok
  obtain ⟨rfl, hf⟩ := insertGrant_ok hi
  exact commit_insertGrant hi₁.1 hi₁.2 hf rfl rfl rfl

theorem DecidedGood.evolves {p : DecidedGrant} {now af : Db} {ap : Bool}
    (hg : DecidedGood now ap p) (he : Evolves now af) :
    DecidedGood af ap p := by
  obtain ⟨g, hf, hd⟩ := hg
  obtain ⟨g', hf', hp⟩ := he.grant _ g hf
  refine ⟨g', hf', ?_⟩
  cases ap with
  | true =>
    obtain ⟨hl, ha⟩ : g.state ≠ .pending ∧ g.approvedAt = some p.decidedAt := hd
    obtain ⟨hl', hs⟩ := GrantProgress.decided hp hl
    exact ⟨hl', hs.trans ha⟩
  | false =>
    obtain ⟨hde, hu⟩ : g.state = .denied ∧ g.approvedAt = none := hd
    rw [GrantProgress.ended hp (.inr hde)]
    exact ⟨hde, hu⟩

theorem safe_decideGrant {ap : Bool} {command : DecideGrantCommand}
    (hde : call = if ap then .approveGrant command else .denyGrant command)
    (inv : DeviceInv born) :
    Safe deviceRules call born (decideGrant ap command) .none born := by
  have hre (s : Snapshot Db) (c : AuthErrorCode) : DeviceGood call born s (.rejected c) := by
    rw [hde]
    cases ap <;> trivial
  have hr {c : AuthErrorCode} {o : AuthOwn} {s : Snapshot Db} :
      Safe deviceRules call born (reject c) o s := safe_rollback fun s' _ _ => hre s' c
  have hg {s : Snapshot Db} {p : DecidedGrant} (he : p.grantId = command.grantId)
      (hd : DecidedGood s.db ap p) : DeviceGood call born s (.decided p) := by
    rw [hde]
    cases ap <;> exact ⟨he, hd⟩
  refine safe_runAuthenticationTransaction (fun s _ _ => hre s _) (fun s _ _ => ?_) inv
  refine .selectForUpdate_found (fun _ _ _ _ => hr) (fun _ _ _ _ _ => hr) ?_
  intro s₁ gt db₁ l _ hi₁ hl hfo
  split
  · exact hr
  next hun =>
  have hh : AuthRow.deviceAuthorizationGrant command.grantId ∈
      ((Own.none : AuthOwn).withLock (.deviceAuthorizationGrant l.grantId)).locks := by
    rw [(key_of_lookup hl : l.grantId = command.grantId)]
    exact List.mem_cons_self
  refine Safe.commitOrAbort (fun s₂ db p ho₂ hi₂ ok => ?_)
    fun s₂ c _ _ _ s₃ _ _ => hre s₃ c
  obtain ⟨gr, hu, ok⟩ := bind_ok ok
  cases ok
  obtain ⟨⟨g, hs, ha⟩, rfl⟩ := updateGuarded_ok hu
  obtain ⟨hi, hp⟩ := of_decide_eq_true ha
  have hd : DeviceCommit _ s₂.db { s₂.db with
      deviceAuthorizationGrants := updateWhere s₂.db.deviceAuthorizationGrants
        (fun g => g.grantId = command.grantId ∧ g.state = .pending)
        (fun g => g.decide ap command) } := commit_decide hi₂.1 hi₂.2 hh
  refine ⟨hd.trans (commit_audit hd.family hd.grants ?_), fun s₃ ho₃ _ => ?_⟩
  · cases ap <;> exact fun h => nomatch h
  refine hg rfl (DecidedGood.evolves ?_ (evolves_of_rely ho₃))
  have hf : s₂.db.grant command.grantId = some g :=
    hi₂.2.grantKeys.lookup_iff.mpr ⟨hs, hi⟩
  have hw : lookup GrantRow.grantId (updateWhere s₂.db.deviceAuthorizationGrants
      (fun g => g.grantId = command.grantId ∧ g.state = .pending)
      (fun g => g.decide ap command)) command.grantId = some (g.decide ap command) :=
    lookup_written (fun g => by cases ap <;> rfl) hf ha
  refine ⟨_, hw, ?_⟩
  cases ap
  · exact ⟨rfl, hi₂.2.undecided g hs hp⟩
  · exact ⟨fun h => (nomatch h), rfl⟩

/-! ## Exchange and replay -/

section Exchange

variable {command : ExchangeGrantCommand} {g : GrantRow} {a : ExchangeAnchors}

theorem exchanged_stays {b af : Db} {id : GrantId} (inv : GrantInv b)
    (hev : Evolves b af) (hf : b.grant id = some g)
    (he : g.exchange = some a) : af.grant id = some g := by
  obtain ⟨g', hf', hp⟩ := hev.grant _ g hf
  have hfi : g.state = .exchanged := (inv.exchanged g (mem_of_lookup hf)).mp (by rw [he]; rfl)
  rw [GrantProgress.ended hp (.inl hfi)] at hf'
  exact hf'

/-- The first refresh token of a family is active exactly while the family has not advanced. -/
theorem initial_active_iff {db : Db} {f : TokenFamilyRow} {t : DeviceTokenRow} (inv : FamilyInv db)
    (hfa : db.family t.tokenFamilyId = some f) (hsd : t ∈ db.deviceTokens)
    (hk : t.tokenKind = .refresh) (hg : t.generation = initialRefreshGeneration) :
    t.state = .active ↔ ¬ f.Advanced := by
  have hs := inv.sound_of_family hfa
  have hm : t ∈ (db.tokensOf t.tokenFamilyId).filter fun t => t.tokenKind = .refresh :=
    List.mem_filter.mpr ⟨mem_tokensOf.mpr ⟨hsd, rfl⟩, decide_eq_true hk⟩
  constructor
  · intro ha
    obtain ⟨-, -, -, hc, hf⟩ := hs.chain.eq_last_of_active hm ha
    rintro (hr | hl)
    · exact nomatch hf.symm.trans hr
    · rw [← hg, hc] at hl
      exact Nat.lt_irrefl _ hl
  · intro hst
    rcases hs.chain.generation_le hm with hb | ⟨-, hse⟩
    · exact absurd (.inr (hg ▸ hb)) hst
    · rw [hse, active_of_unrevoked fun hr => hst (.inl hr)]
      rfl

theorem safe_replayCommittedExchange (inv : DeviceInv born) (hl : Rely deviceRules .none born s)
    (hi : DeviceInv s) (hc : g.grantId = command.grantId)
    (hfo : s.db.grant command.grantId = some g) (he : g.exchange = some a)
    (due : ∀ g' a', born.db.grant command.grantId = some g' → g'.exchange = some a' → a' = a) :
    Safe deviceRules (.pollExchange command) born (replayCommittedExchange g a command) o s := by
  have han {s' : Snapshot Db} (hi' : DeviceInv s') (hev : Evolves s.db s'.db) :
      s'.db.grant command.grantId = some g ∧ Anchored s'.db g a := by
    have hf' := exchanged_stays hi.2 hev hfo he
    exact ⟨hf', hi'.2.anchored g (mem_of_lookup hf') a he⟩
  intro s₁ ho₁ hi₁
  have he₁ := evolves_of_rely ho₁
  obtain ⟨t, ht, hf, hk, hg⟩ := (han hi₁ he₁).2.refresh
  obtain ⟨f₁, hf₁, -⟩ := (han hi₁ he₁).2.family
  have hac := initial_active_iff hi₁.1 (hf ▸ hf₁) (mem_of_lookup ht) hk hg
  -- a family that has advanced refuses every replay
  have hr {s₂ : Snapshot Db} {f : TokenFamilyRow} {o : AuthOwn}
      (hf₂ : s₂.db.family a.tokenFamilyId = some f) (ha : f.Advanced) :
      Safe deviceRules (.pollExchange command) born (reject .deviceAuthorizationStateInvalid) o
        s₂ := by
    refine safe_rollback fun s₃ ho₃ _ g' a' hgr he' _ => ?_
    rw [due g' a' hgr he']
    exact .inr ⟨rfl, ha.evolves (evolves_of_rely ho₃) hf₂⟩
  dsimp only
  rw [ht]
  refine safe_readRow (fun s₂ ho₂ hi₂ hm => ?_) fun s₂ f ho₂ hi₂ hf₂ => ?_
  · obtain ⟨f, hf₂, -⟩ := (han hi₂ (he₁.trans (evolves_of_rely ho₂))).2.family
    exact nomatch hm.symm.trans hf₂
  dsimp only
  split
  · next hcu =>
    have hs := hac.mp hcu.1
    refine safe_readRow (fun s₃ ho₃ hi₃ hm => ?_) fun s₃ ac ho₃ hi₃ _ => ?_
    · obtain ⟨t, has, -⟩ := (han hi₃ (he₁.trans ((evolves_of_rely ho₂).trans
        (evolves_of_rely ho₃)))).2.access
      exact nomatch hm.symm.trans has
    · refine safe_rollback fun s₄ ho₄ hi₄ => ⟨hc, ⟨g, a, ?_, he, ?_⟩, ?_⟩
      · exact (han hi₄ (he₁.trans ((evolves_of_rely ho₂).trans
          ((evolves_of_rely ho₃).trans (evolves_of_rely ho₄))))).1
      · exact ⟨rfl, rfl, rfl, rfl, rfl, hg⟩
      · intro f' hb
        refine (not_advanced_iff (inv.1.sound_of_family hb).chain.initial_le).mp fun ha => ?_
        obtain ⟨f'', hf'', ha''⟩ := ha.evolves ((evolves_of_rely hl).trans he₁) hb
        cases Option.some.inj (hf''.symm.trans hf₁)
        exact hs ha''
  · next ha =>
    refine hr hf₂ ?_
    by_cases hae : t.state = .active
    · have hah : f.currentRefreshGeneration ≠ initialRefreshGeneration :=
        fun hsa => ha ⟨hae, hsa.trans hg.symm⟩
      have hbe := (hi₂.1.sound_of_family hf₂).chain.initial_le
      exact .inr (Nat.lt_of_le_of_ne hbe hah.symm)
    · obtain ⟨f', hf', ha'⟩ := (not_not.mp (mt hac.mpr hae)).evolves (evolves_of_rely ho₂) hf₁
      cases Option.some.inj (hf'.symm.trans hf₂)
      exact ha'

theorem safe_commitFirstExchange {b : Db} (hla : Rely deviceRules .none born s)
    (hc : g.grantId = command.grantId)
    (hfo : s.db.grant command.grantId = some g) (ha : g.state = .approved)
    (hl : AuthRow.deviceAuthorizationGrant command.grantId ∈ o.locks)
    (hn : ∀ s' c, DeviceGood (.pollExchange command) born s' (.rejected c)) :
    Safe deviceRules (.pollExchange command) born (commitFirstExchange g command b) o s := by
  have hre {c : AuthErrorCode} {o : AuthOwn} {s : Snapshot Db} :
      Safe deviceRules (.pollExchange command) born (reject c) o s :=
    safe_rollback fun s' _ _ => hn s' c
  unfold commitFirstExchange
  split
  · exact hre
  next hi =>
  refine safe_readRow (fun _ _ _ _ => hre) fun s₁ u ho₁ _ _ => ?_
  refine safe_readRow (fun _ _ _ _ => hre) fun s₂ ws ho₂ _ _ => ?_
  refine Safe.commitOrAbort (fun s₃ db p ho₃ hi₃ ok => ?_) fun _ c _ _ _ s₄ _ _ => hn s₄ c
  have hot := ho₁.trans (ho₂.trans ho₃)
  obtain ⟨d, fa, ac, r, e, e', hr, ⟨hd, hf, hac, hrh, ho, hfi⟩, ⟨hev, he'⟩, rfl, rfl⟩ :=
    firstExchangeWrites_ok ok
  have hk : Unchanged (.deviceAuthorizationGrant command.grantId) s.db s₃.db :=
    unchanged_of_rely hot hl
  have hf₃ : s₃.db.grant g.grantId = some g := hc.symm ▸ hk g hfo
  have he : DeviceCommit o s₃.db { s₃.db.register d fa ac r with
      deviceAuthorizationGrants :=
        exchangeGrants s₃.db.deviceAuthorizationGrants g.grantId command.anchors } :=
    commit_exchange hi₃.1 hi₃.2 hr ho hf₃ ha (Nat.not_le.mp hi)
      ⟨hd.symm, hf.symm, hac.symm, hrh.symm⟩ hfi (hc ▸ hl)
  have hor : e.action ≠ .deviceTokenReuseDetected := by
    rw [hev]
    exact fun h => nomatch h
  have ho' : e'.action ≠ .deviceTokenReuseDetected := by
    rw [he']
    exact fun h => nomatch h
  have hrd := he.trans (commit_audit he.family he.grants hor)
  have hco := hrd.trans (commit_audit hrd.family hrd.grants ho')
  rw [hc] at hco
  refine ⟨hco, fun s₄ ho₄ _ => ?_⟩
  have hw : lookup GrantRow.grantId (exchangeGrants s₃.db.deviceAuthorizationGrants
      command.grantId command.anchors) command.grantId =
        some { g with state := .exchanged, exchange := some command.anchors } :=
    lookup_written (fun _ => rfl) (hk g hfo) (decide_eq_true ⟨hc, ha⟩)
  refine ⟨rfl, ⟨_, command.anchors, exchanged_stays hco.grants (evolves_of_rely ho₄)
    hw rfl, rfl, rfl, rfl, rfl, rfl, rfl, rfl⟩, fun f hb => ?_⟩
  obtain ⟨f', hf', -⟩ := (evolves_of_rely (hla.trans (Rely.toNone hot))).family _ f hb
  rw [← hf] at hf'
  exact nomatch hr.familyFresh.symm.trans hf'

theorem safe_pollExchange (inv : DeviceInv born) :
    Safe deviceRules (.pollExchange command) born (pollExchange command) .none born := by
  refine safe_runAuthenticationTransaction (fun _ _ _ _ _ _ _ _ => .inl rfl)
    (fun s later _ => ?_) inv
  intro s₀ others₀ _
  refine .updateRows fun s₁ s₂ others₁ inv₁ others₂ inv₂ => ?_
  intro s₃ others₃ inv₃
  have later₁ := later.trans (others₀.trans others₁)
  have later₃ := later₁.trans (others₂.trans others₃.toNone)
  -- a grant exchanged before the call is found and matched
  have matched : ∀ g a, born.db.grant command.grantId = some g → g.exchange = some a →
      g.pollingSecretHash ∈ command.matchableDigests →
      g ∈ (s₃.db.grantsByDigest command.matchableDigests).filter fun g =>
        g.grantId ∈ (s₁.db.grantsByDigest command.matchableDigests).map GrantRow.grantId := by
    intro g a isBorn isExchange digest
    have at₁ := exchanged_stays inv.2 (evolves_of_rely later₁) isBorn isExchange
    have at₃ := exchanged_stays inv.2 (evolves_of_rely later₃) isBorn isExchange
    refine List.mem_filter.mpr ⟨List.mem_filter.mpr ⟨mem_of_lookup at₃, decide_eq_true digest⟩,
      decide_eq_true (List.mem_map_of_mem ?_)⟩
    exact List.mem_filter.mpr ⟨mem_of_lookup at₁, decide_eq_true digest⟩
  have rejected {code : AuthErrorCode} {o : AuthOwn} {s : Snapshot Db}
      (notDue : ∀ s', DeviceGood (.pollExchange command) born s' (.rejected code)) :
      Safe deviceRules (.pollExchange command) born (reject code) o s :=
    safe_rollback fun s' _ _ => notDue s'
  dsimp only
  split
  · next none =>
    refine rejected fun _ g a isBorn isExchange digest => ?_
    exact absurd (none ▸ matched g a isBorn isExchange digest) List.not_mem_nil
  · next grant only =>
    have isGrant : ∀ g a, born.db.grant command.grantId = some g → g.exchange = some a →
        g.pollingSecretHash ∈ command.matchableDigests → g = grant :=
      fun g a isBorn isExchange digest =>
        List.mem_singleton.mp (only ▸ matched g a isBorn isExchange digest)
    obtain ⟨isStored, isFound⟩ := List.mem_filter.mp
      (only.symm ▸ List.mem_singleton_self grant : grant ∈ List.filter _ _)
    split
    · next other =>
      refine rejected fun _ g a isBorn isExchange digest => absurd ?_ other
      rw [← isGrant g a isBorn isExchange digest]
      exact key_of_lookup isBorn
    next isCommand =>
    have isCommand : grant.grantId = command.grantId := not_ne_iff.mp isCommand
    have found : s₃.db.grant command.grantId = some grant :=
      inv₃.2.grantKeys.lookup_iff.mpr ⟨(List.mem_filter.mp isStored).1, isCommand⟩
    have notDue (open? : grant.state ≠ .exchanged) (s' : Snapshot Db) (code : AuthErrorCode) :
        DeviceGood (.pollExchange command) born s' (.rejected code) := by
      intro g a isBorn isExchange digest
      have isSame := isGrant g a isBorn isExchange digest
      exact absurd (isSame ▸ (inv.2.exchanged g (mem_of_lookup isBorn)).mp (isExchange ▸ rfl)) open?
    split
    · next _ denied => exact rejected fun s' => notDue (denied ▸ fun h => nomatch h) s' _
    · next _ pending =>
      have open? : grant.state ≠ .exchanged := pending ▸ fun h => nomatch h
      split
      · exact rejected fun s' => notDue open? s' _
      · exact rejected fun s' => notDue open? s' _
    · next anchors exchanged isExchange =>
      refine safe_replayCommittedExchange inv later₃ inv₃ isCommand found isExchange ?_
      intro g a isBorn isExchange'
      have same := exchanged_stays inv.2 (evolves_of_rely later₃) isBorn isExchange'
      cases Option.some.inj (same.symm.trans found)
      exact Option.some.inj (isExchange'.symm.trans isExchange)
    · exact rejected fun _ _ _ _ _ _ => .inl rfl
    · next _ approved =>
      refine safe_commitFirstExchange later₃ isCommand found approved ?_
        (notDue (approved ▸ fun h => nomatch h))
      obtain ⟨g, isFirst, same⟩ := List.mem_map.mp (of_decide_eq_true isFound)
      refine Own.taken_withLocks (List.mem_map.mpr ⟨g, isFirst, ?_⟩)
      rw [same, isCommand]
  · exact rejected fun _ _ _ _ _ _ => .inl rfl

end Exchange

end PersonalOs.Authentication
