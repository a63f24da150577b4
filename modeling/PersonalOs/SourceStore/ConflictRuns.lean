import PersonalOs.SourceStore.Checkpoints

/-!
# Conflicts in every run

The rows of captured conflicts fall into linear lineages, each resolved at most once, in every
run of the stores. A resolution is found again by its event and its key alone, so its outcome
answers its own command only while no other command carries both.
-/

namespace PersonalOs.SourceStore

open Transactions Chains

variable {env : Environment} {w w' : StoreWorld}

/-! ## Lineages and resolutions -/

/-- The rows of each lineage form a path that ends in one open or resolved row. -/
structure LinearLineages (rows : List SourceConflict) : Prop where
  ends : ∀ c ∈ rows, ∃! d, Leads (Succeeds rows) c d ∧ (d.status = .open ∨ d.status = .resolved)
  inLine : ∀ c ∈ rows, ∀ d ∈ rows, ∀ e, Leads (Succeeds rows) c e → Leads (Succeeds rows) d e →
    Leads (Succeeds rows) c d ∨ Leads (Succeeds rows) d c
  acyclic : ∀ c ∈ rows, ∀ d, Succeeds rows c d → ¬Leads (Succeeds rows) d c

theorem ConflictTable.linearLineages {rs : List SourceConflict} (hta : ConflictTable rs) :
    LinearLineages rs where
  ends := by
    intro c ht
    have hf {d : SourceConflict} (hl : Leads (Succeeds rs) c d) :
        Last (Succeeds rs) d ↔ d.status = .open ∨ d.status = .resolved := by
      rw [hta.last_iff (hta.chained.member_of_leads ht hl)]
      cases d.status <;> simp
    obtain ⟨d, ⟨hl, hla⟩, ho⟩ := hta.chained.exists_last ht
    refine ⟨d, ⟨hl, (hf hl).mp hla⟩, ?_⟩
    rintro e ⟨hl', hs⟩
    exact ho e ⟨hl', (hf hl').mpr hs⟩
  inLine := fun _ hh _ hha _ => hta.chained.comparable hh hha
  acyclic := fun _ ht _ => hta.chained.acyclic ht

/-- The event under which a row was closed, and what it published. -/
def ResolvesRow (e : SyncEvent) (c : SourceConflict) : Prop :=
  c.workspaceId = e.workspaceId ∧ ∃ r, c.resolution = some r ∧ r.resolutionEventId = e.eventId ∧
    (c.status = .superseded ∧ e.committedVersionId = none ∨
      c.status = .resolved ∧ (r.resultingVersionId = none ∧
          e.committedVersionId = e.baseVersionId ∨
        ∃ v, r.resultingVersionId = some v ∧ e.committedVersionId = some v))

/-- What every run keeps of its conflicts. -/
structure ConflictLaw (env : Environment) (w : StoreWorld) : Prop where
  lineages : LinearLineages w.snapshot.db.conflicts
  /-- A resolution event closes one row and publishes what the row says. -/
  closes : ∀ e ∈ w.snapshot.db.events, e.eventType = .conflictResolve →
    ∃! c, c ∈ w.snapshot.db.conflicts ∧ ResolvesRow e c
  /-- A row is closed by one event. -/
  once : ∀ c ∈ w.snapshot.db.conflicts, ∀ e ∈ w.snapshot.db.events,
    ∀ e' ∈ w.snapshot.db.events, ResolvesRow e c → ResolvesRow e' c → e = e'
  /-- A closed row never changes again. -/
  frozen : ∀ c ∈ w.snapshot.db.conflicts, c.status ≠ .open →
    ∀ w', (storeMachine env).Leads w w' → c ∈ w'.snapshot.db.conflicts ∧
      ∀ d ∈ w'.snapshot.db.conflicts, d.conflictId = c.conflictId → d = c

theorem conflictLaw (hr : (storeMachine env).Reachable w) : ConflictLaw env w where
  lineages := (inv_of_reachable hr).conflictTable.linearLineages
  closes := by
    intro e ht hty
    have inv := inv_of_reachable hr
    obtain ⟨c, has, hre⟩ := inv.conflictEvents.resolved e ht hty
    refine ⟨c, ⟨has, hre⟩, ?_⟩
    rintro d ⟨hh', hw', r', is', hn', _⟩
    obtain ⟨hw, r, is, hn, _⟩ := hre
    rcases ordered_of_pairwise inv.conflictTable.apart hh' has with he | ⟨ha, _⟩ | ⟨ha, _⟩
    · exact he
    · exact absurd (hn'.trans hn.symm) (ha.resolution (hw'.trans hw.symm) r' is' r is)
    · exact absurd (hn.trans hn'.symm) (ha.resolution (hw.trans hw'.symm) r is r' is')
  once := by
    rintro c _ e ht e' ht' ⟨_, r, is, hn, _⟩ ⟨_, r', is', hn', _⟩
    rw [is] at is'
    cases is'
    have hev := (inv_of_reachable hr).keyed.events
    rcases ordered_of_pairwise hev ht ht' with he | ⟨ha, _⟩ | ⟨ha, _⟩
    · exact he
    · exact absurd (hn.symm.trans hn') ha.1
    · exact absurd (hn'.symm.trans hn) ha.1
  frozen := by
    intro c ht hc w' hl
    have hk := closed_later (later_of_leads hr hl) ht hc
    refine ⟨hk, fun d has he => ?_⟩
    have hta := (inv_of_reachable (Machine.Leads.reachable hr hl)).conflictTable
    exact named_unique hta.apart has hk he

/-! ## Whose outcome a resolution answers -/

theorem StoreCall.eq_resolve {c : StoreCall} {q : ResolutionRequest}
    (hr : c.resolutionRequest = some q) : c = .resolve q := by
  cases c with
  | resolve o =>
    cases hr
    rfl
  | publication | lifecycle | capture | manifest | device => cases hr

/-- A row was closed on the run, by the resolution of the session that took the step. -/
def ClosedOnRun (env : Environment) (w : StoreWorld) (request : ResolutionRequest)
    (c : SourceConflict) : Prop :=
  ∃ (v v' : StoreWorld) (i : Nat) (s : StoreSession), (storeMachine env).Reachable v ∧
    (storeMachine env).step v (.advance i) = some v' ∧ (storeMachine env).Leads v' w ∧
    v.sessions[i]? = some s ∧ s.call = .resolve request ∧
    c ∉ v.snapshot.db.conflicts ∧ c ∈ v'.snapshot.db.conflicts

theorem ClosedOnRun.closedWith {q : ResolutionRequest} {c : SourceConflict}
    (ho : ClosedOnRun env w q c) (hcl : c.status ≠ .open) :
    ∃ r, ClosedWith q c r := by
  obtain ⟨v, v', i, s, hre, hto, _, hru, is, he, ht⟩ := ho
  rcases commit_of_change (sound_of_reachable hre) hto with
    hs | ⟨j, t, ha, hr', hg⟩
  · exact absurd (hs ▸ ht) he
  · cases ha
    rw [hru] at hr'
    cases hr'
    obtain ⟨_, _, hc⟩ := hg.conflictMove
    obtain ⟨o, r, hr, hw'⟩ := hc.closed_by ht hcl he
    rw [is] at hr
    cases hr
    exact ⟨r, hw'⟩

theorem closed_on_run (hrd : (storeMachine env).Reachable w) {c : SourceConflict}
    (ht : c ∈ w.snapshot.db.conflicts) (hcl : c.status ≠ .open) :
    ∃ q, ClosedOnRun env w q c := by
  induction hrd with
  | init hi =>
    rw [hi.1] at ht
    cases ht
  | @step v v' a hb hv ih =>
    by_cases he : c ∈ v.snapshot.db.conflicts
    · obtain ⟨q, u, u', i, s, hr, hto, hl, hrt⟩ := ih he
      exact ⟨q, u, u', i, s, hr, hto, hl.tail ⟨a, hv⟩, hrt⟩
    · rcases commit_of_change (sound_of_reachable hb) hv with
        hs | ⟨i, s, ha, hru, hg⟩
      · exact absurd (hs ▸ ht) he
      · obtain ⟨_, _, hc⟩ := hg.conflictMove
        obtain ⟨q, r, hre, _⟩ := hc.closed_by ht hcl he
        refine ⟨q, v, v', i, s, hb, ha ▸ hv, .refl, hru, ?_, he, ht⟩
        exact StoreCall.eq_resolve hre

/-- A resolution answers only the outcome of a call that names the same conflict, kind,
reviewed version and candidate. -/
def OutcomesOwn (env : Environment) (w : StoreWorld) : Prop :=
  ∀ s ∈ w.sessions, ∀ request result, s.call = .resolve request →
    s.program = .done (.resolution (.ok result)) →
    ∃ c ∈ w.snapshot.db.conflicts, ∃ r closing, ResolvedBy request result c r ∧
      ClosedOnRun env w closing c ∧ closing.command = request.command

/-- Two requests that one replay lookup cannot tell apart. -/
structure SameIdentity (a b : ResolutionRequest) : Prop where
  workspace : a.workspaceId = b.workspaceId
  event : a.command.resolutionEventId = b.command.resolutionEventId
  key : a.command.idempotencyKey = b.command.idempotencyKey

/-- A resolution with the event and the key of a request is committed. -/
def IdentityResolved (request : ResolutionRequest) (db : Db) : Prop :=
  ∃ c ∈ db.conflicts, c.workspaceId = request.workspaceId ∧ ∃ r, c.resolution = some r ∧
    r.resolutionEventId = request.command.resolutionEventId ∧
    r.resolutionIdempotencyKey = request.command.idempotencyKey

/-- The calls that carry the event and the key of a committed resolution carry one command. -/
def IdentitiesKept (w : StoreWorld) : Prop :=
  ∀ s ∈ w.sessions, ∀ s' ∈ w.sessions, ∀ request request', s.call = .resolve request →
    s'.call = .resolve request' → SameIdentity request request' →
    IdentityResolved request w.snapshot.db → request.command = request'.command

/-- Every run keeps its conflicts in lineages that are resolved once, and answers a resolution
with the outcome of its own command as long as no two commands share an event and a key. -/
theorem conflict_resolved_once (reached : (storeMachine env).Reachable w) :
    ConflictLaw env w ∧ (IdentitiesKept w → OutcomesOwn env w) := by
  refine ⟨conflictLaw reached, ?_⟩
  intro hk s hru q rs is hrs
  obtain ⟨i, hth⟩ := List.mem_iff_getElem?.mp hru
  have hg := answer_good (sound_of_reachable reached) hth hrs
  rw [is] at hg
  have hg : GoodResolution q w.snapshot.db (.ok rs) := hg
  obtain ⟨c, ht, r, hr⟩ := hg
  obtain ⟨cl, ho⟩ := closed_on_run reached ht hr.closed
  obtain ⟨r', hw'⟩ := ho.closedWith hr.closed
  refine ⟨c, ht, r, cl, hr, ho, ?_⟩
  obtain ⟨v, v', j, s₀, _, hto, hl, hr₀, is₀, _⟩ := ho
  obtain ⟨s₁, hr₁, he⟩ := calls_of_leads (.head ⟨_, hto⟩ hl) (List.mem_of_getElem? hr₀)
  have hre := hr.resolution
  rw [hw'.resolution] at hre
  cases hre
  have hi : SameIdentity cl q :=
    ⟨hw'.workspace.symm.trans hr.workspace, hw'.event.symm.trans hr.event,
      hw'.key.symm.trans hr.key⟩
  exact hk s₁ hr₁ s hru cl q (he.trans is₀) is hi
    ⟨c, ht, hw'.workspace, r, hw'.resolution, hw'.event, hw'.key⟩

/-! ## One identity, two commands -/

/-- The captured conflict is resolved, under one event and one key. -/
def sampleResolution (kind : ConflictResolutionKind) (publishesNoMerge : kind ≠ .saveMerged) :
    ResolutionRequest where
  command := {
    conflictId := 800
    reviewedRemoteVersionId := some 301
    resolutionKind := kind
    resolutionEventId := 520
    idempotencyKey := "r1"
    verifiedCandidateObjectId := none
    shape := by simpa using publishesNoMerge }
  workspaceId := 1
  identities := ⟨810, 310⟩

/-- A conflict is captured and resolved by keeping the remote. -/
def resolvedScript : List (Action StoreCall) :=
  createScript ++ .spawn (.capture sampleCapture) :: advances 1 6 ++
    .spawn (.resolve (sampleResolution .keepRemote (by decide))) :: advances 2 12

/-- Another conflict is captured, and the resolution repeated. -/
def repeatedScript : List (Action StoreCall) :=
  resolvedScript ++ .spawn (.capture { sampleCapture with
      command := { sampleCapture.command with originatingEventId := 511, idempotencyKey := "c2" }
      conflictId := 801 }) :: advances 3 6 ++
    .spawn (.resolve (sampleResolution .keepRemote (by decide))) :: advances 4 4

theorem conflict_resolved_once_kept : ∃ w, (storeMachine sampleEnvironment).Reachable w ∧
    w.snapshot.db.conflicts.map SourceConflict.status = [.resolved, .open] ∧
    ConflictLaw sampleEnvironment w ∧ OutcomesOwn sampleEnvironment w := by
  obtain ⟨w, ran⟩ : ∃ w,
      (storeMachine sampleEnvironment).run emptyWorld repeatedScript = some w := ⟨_, rfl⟩
  have hre := Machine.reachable_of_run (emptyWorld_init _) ran
  have law := conflict_resolved_once hre
  have ho : w.sessions.filterMap (fun s => s.call.resolutionRequest) =
      List.replicate 2 (sampleResolution .keepRemote (by decide)) := by
    cases ran
    rfl
  have hr {s : StoreSession} (hru : s ∈ w.sessions) {q : ResolutionRequest}
      (is : s.call = .resolve q) : q = sampleResolution .keepRemote (by decide) := by
    have hm : q ∈ w.sessions.filterMap (fun s => s.call.resolutionRequest) :=
      List.mem_filterMap.mpr ⟨s, hru, by rw [is]; rfl⟩
    rw [ho] at hm
    exact (List.mem_replicate.mp hm).2
  have hk : IdentitiesKept w := fun s hru s' hr' q q' is is' _ _ => by
    rw [hr hru is, hr hr' is']
  refine ⟨w, hre, ?_, law.1, law.2 hk⟩
  cases ran
  rfl

/-- Keeping the local candidate under the identity of a resolution that kept the remote is
answered with that resolution's outcome. -/
theorem outcome_of_other_command : ¬∀ (env : Environment) (w : StoreWorld),
    (storeMachine env).Reachable w → ConflictLaw env w ∧ OutcomesOwn env w := by
  intro hc
  obtain ⟨w, ran⟩ : ∃ w, (storeMachine sampleEnvironment).run emptyWorld (resolvedScript ++
      .spawn (.resolve (sampleResolution .keepLocal (by decide))) :: advances 3 4) = some w :=
    ⟨_, rfl⟩
  obtain ⟨_, ho⟩ := hc sampleEnvironment w (Machine.reachable_of_run (emptyWorld_init _) ran)
  have hs : ∀ c ∈ w.snapshot.db.conflicts, c.status ≠ .open ∧ ∀ r, c.resolution = some r →
      r.resolutionKind = .keepRemote := by
    cases ran
    intro c hm
    rw [List.mem_singleton.mp hm]
    refine ⟨by decide, ?_⟩
    rintro r ⟨⟩
    rfl
  have ha : ∃ s ∈ w.sessions, ∃ rs, s.call = .resolve (sampleResolution .keepLocal (by decide)) ∧
      s.program = .done (.resolution (.ok rs)) := by
    cases ran
    exact ⟨_, List.mem_of_mem_getLast? rfl, _, rfl, rfl⟩
  obtain ⟨s, hru, rs, is, hr⟩ := ha
  obtain ⟨c, ht, r, cl, hre, hon, he⟩ := ho s hru _ rs is hr
  obtain ⟨hcl, hk⟩ := hs c ht
  obtain ⟨r', hw'⟩ := hon.closedWith hcl
  have hot := congrArg ResolveConflictCommand.resolutionKind he
  rw [← hw'.kind, hk r' hw'.resolution] at hot
  cases hot

end PersonalOs.SourceStore
