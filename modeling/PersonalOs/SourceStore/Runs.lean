import PersonalOs.SourceStore.ConflictSafety
import PersonalOs.SourceStore.DeviceEventSafety
import PersonalOs.SourceStore.LifecycleSafety
import PersonalOs.SourceStore.PublicationSafety

/-!
# Runs of the stores

Every program of the stores is safe, so every run keeps the invariant of the committed state,
changes it only by guaranteed commits and returns good answers only.
-/

namespace PersonalOs.SourceStore

open Transactions

variable {env : Environment} {hst : Prop} {w w' : StoreWorld}

theorem storeProgram_safe (env : Environment) (hst : Prop) (c : StoreCall)
    (s : Snapshot Db) (inv : StoreInv env s) :
    Safe (rules env hst) c s (storeProgram env c) .none s := by
  cases c with
  | publication q => exact commitPublicationRequest_safe inv
  | lifecycle c => exact commitLifecycle_safe inv
  | capture q => exact captureConflict_safe inv
  | resolve q => exact resolveConflict_safe inv
  | manifest c => exact manifestProgram_safe env hst c s inv
  | device c => exact deviceProgram_safe env hst c s inv

theorem sound_of_reachable (hr : (storeMachine env).Reachable w) : Sound (rules env False) w :=
  Rules.sound (by rintro s rfl; exact storeInv_initial env) (storeProgram_safe env False)
    (Rules.guarded_of_reachable (fun _ _ _ hn => hn.elim) hr)

theorem inv_of_reachable (hr : (storeMachine env).Reachable w) : StoreInv env w.snapshot :=
  (sound_of_reachable hr).inv

/-- Every change of the committed state is a guaranteed commit of the session that moves. -/
theorem commit_of_change (hs : Sound (rules env hst) w) {a : Action StoreCall}
    (hv : (storeMachine env).step w a = some w') :
    w'.snapshot.db = w.snapshot.db ∨ ∃ (i : Nat) (s : Session Db LockName LifecycleRequest
      StoreAnswer StoreCall), a = .advance i ∧ w.sessions[i]? = some s ∧
        StoreGuar env hst s.call s.own w.snapshot w'.snapshot.db := by
  have hv : step (storeProgram env) w a = some w' := hv
  refine (Rules.changes_are_guaranteed hs hv).imp_right ?_
  rintro ⟨i, s, ha, ht, _, hg⟩
  exact ⟨i, s, ha, ht, hg⟩

theorem later_of_leads (hr : (storeMachine env).Reachable w) (hl : (storeMachine env).Leads w w') :
    Rely (rules env False) .none w.snapshot w'.snapshot := by
  induction hl with
  | refl => exact .refl
  | tail hb hv ih =>
    obtain ⟨a, hv⟩ := hv
    have hs := sound_of_reachable (Machine.Leads.reachable hr hb)
    exact ih.trans (Rules.step_interferes hs hv)

theorem answer_good (hs : Sound (rules env hst) w) {i : Nat}
    {s : Session Db LockName LifecycleRequest StoreAnswer StoreCall}
    (ht : w.sessions[i]? = some s) {an : StoreAnswer} (hr : s.program = .done an) :
    GoodAnswer env hst s.call s.born.db w.snapshot.db an := by
  have hsa := hs.safe i s ht
  rw [hr] at hsa
  exact hsa _ .refl hs.inv

end PersonalOs.SourceStore
