import PersonalOs.Basis.Machine
import PersonalOs.DeviceSync.EventStore
import PersonalOs.DeviceSync.Repository

/-!
# The sync cycle over a lossy network

One device runs `runCycle` of the sync coordinator against the server's cursor row. Requests and
responses travel through two pools; either may lose a message, a request may be handled late, and
the process or the cycle may stop between any two steps. There is no manifest repair in these runs.

The applier's inside is left open: while an event is applied, any sequence of repository calls for
that event's own sequence may happen.
-/

namespace PersonalOs.DeviceSync

/-! ## Messages and phases -/

inductive Request
  | pull (limit : Nat)
  | acknowledge (expectedPrevious appliedThrough : Nat)
deriving DecidableEq

inductive Response
  | page (page : DeviceEventPage)
  | receipt (cursor : DeviceCursor)
  | failure (code : DeviceSyncErrorCode)
deriving DecidableEq

/-- Where `runCycle` stands. `isOwed` tells the acknowledgement before the pull from
the one after it. -/
inductive CyclePhase
  | idle
  | recovering (sequence : Option Nat)
  | acknowledging (isOwed : Bool)
  | awaitingReceipt (request : Nat) (isOwed : Bool)
  | pulling
  | awaitingPage (request : Nat)
  | settling (events : List DeviceSyncEvent)
  | applying (event : DeviceSyncEvent) (rest : List DeviceSyncEvent)
deriving DecidableEq

/-- The repository calls the applier makes for the event it is working on. -/
inductive ApplierCall
  | prepare (input : PreparedRemoteApply)
  | recordEcho (marker : EchoMarker)
  | transition (target : RemoteApplyState) (tempToken rollbackToken : Option (Option Nat))
  | terminalize (outcome : TerminalOutcome) (reason : Option DeviceSyncReason)
  | abandon
  | startBarrier (reason : DeviceSyncReason)
deriving DecidableEq

def ApplierCall.perform (repo : Repository) (sequence : Nat) : ApplierCall → Mutation
  | .prepare input => repo.prepareRemoteApply { input with eventSequence := sequence }
  | .recordEcho marker => repo.recordEchoMarker { marker with eventSequence := sequence }
  | .transition target tempToken rollbackToken =>
    repo.transitionRemoteApply sequence target tempToken rollbackToken
  | .terminalize outcome reason => repo.terminalizeEvent sequence outcome reason
  | .abandon => repo.abandonRemoteApply sequence
  | .startBarrier reason =>
    let observed := repo.nextObservationGeneration
    observed.startRepairBarrier observed.state.observationGeneration reason

/-- The whole system. `settledThrough` is the checkpoint of the repair the device was
bootstrapped by, zero for a device that starts on an empty workspace. `terminalized`,
`issued` and `received` are the history since then: the terminal outcomes of the plugin,
the sequences the server put into pages and those of the pages that arrived. -/
structure SyncWorld where
  settledThrough : Nat
  rows : List EventRow
  cursor : Option DeviceCursor
  floor : Nat
  requests : List (Nat × Request)
  responses : List (Nat × Response)
  nextRequest : Nat
  repo : Repository
  phase : CyclePhase
  terminalized : List TerminalDeviceEvent
  issued : List Nat
  received : List Nat

/-! ## The server -/

/-- A publication or lifecycle transaction commits its event above every deliverable
event before it; an event the devices never see may commit at any fresh sequence. -/
def SyncWorld.commit (w : SyncWorld) (row : EventRow) : Option SyncWorld :=
  if 0 < row.eventSequence &&
      w.rows.all (fun other => other.eventSequence != row.eventSequence) &&
      (!row.isDeliverable ||
        w.settledThrough < row.eventSequence &&
          w.rows.all fun other => !other.isDeliverable || other.eventSequence < row.eventSequence) then
    some { w with
      rows := w.rows.orderedInsert (fun a b => a.eventSequence ≤ b.eventSequence) row }
  else none

/-- The server handles one request that is still in flight. -/
def SyncWorld.handle (w : SyncWorld) (request : Nat) : Option SyncWorld :=
  match w.requests.find? (fun sent => sent.1 == request) with
  | none => none
  | some (_, body) =>
    let w := { w with requests := w.requests.filter fun sent => sent.1 != request }
    match body with
    | .pull limit =>
      match pullOnce w.rows w.cursor w.floor limit with
      | .error code => some { w with responses := w.responses ++ [(request, .failure code)] }
      | .ok (page, cursor) =>
        some { w with
          cursor := cursor
          responses := w.responses ++ [(request, .page page)]
          issued := w.issued ++ page.events.map (·.eventSequence) }
    | .acknowledge expectedPrevious appliedThrough =>
      match acknowledgeOnce w.cursor expectedPrevious appliedThrough with
      | .error code => some { w with responses := w.responses ++ [(request, .failure code)] }
      | .ok (receipt, cursor) =>
        some { w with
          cursor := cursor
          responses := w.responses ++ [(request, .receipt receipt)] }

/-! ## The plugin -/

/-- Record what one repository call left behind; a rejected call ends the cycle. -/
def SyncWorld.afterCall (w : SyncWorld) (sequence : Nat) (call : ApplierCall)
    (terminal : CyclePhase) : SyncWorld :=
  match call.perform w.repo sequence with
  | .error refusal => { w with repo := w.repo.after (.error refusal), phase := .idle }
  | .ok repo =>
    match call with
    | .terminalize outcome reason =>
      { w with
        repo := repo
        phase := terminal
        terminalized := w.terminalized ++ [⟨sequence, outcome, reason⟩] }
    | _ => { w with repo := repo }

/-- `acknowledgeOwedCursor`, up to the request it sends. -/
def SyncWorld.sendAcknowledgement (w : SyncWorld) : Option SyncWorld :=
  match w.phase with
  | .acknowledging isOwed =>
    if w.repo.state.appliedSequence ≤ w.repo.state.acknowledgedSequence then
      some { w with phase := if isOwed then .pulling else .idle }
    else
      some { w with
        requests := w.requests ++ [(w.nextRequest,
          .acknowledge w.repo.state.acknowledgedSequence w.repo.state.appliedSequence)]
        nextRequest := w.nextRequest + 1
        phase := .awaitingReceipt w.nextRequest isOwed }
  | _ => none

def SyncWorld.sendPull (w : SyncWorld) (limit : Nat) : Option SyncWorld :=
  match w.phase with
  | .pulling =>
    if isValidPullLimit limit then
      some { w with
        requests := w.requests ++ [(w.nextRequest, .pull limit)]
        nextRequest := w.nextRequest + 1
        phase := .awaitingPage w.nextRequest }
    else none
  | _ => none

/-- The rest of `acknowledgeOwedCursor`: the receipt becomes the local acknowledgement,
never ahead of what this device applied. -/
def SyncWorld.recordReceipt (w : SyncWorld) (receipt : DeviceCursor) (isOwed : Bool) : SyncWorld :=
  let next : CyclePhase := if isOwed then .pulling else .idle
  let acknowledged := min receipt.acknowledgedSequence w.repo.state.appliedSequence
  if acknowledged ≤ w.repo.state.acknowledgedSequence then { w with phase := next }
  else match w.repo.recordServerAcknowledgement acknowledged with
    | .ok repo => { w with repo := repo, phase := next }
    | .error refusal => { w with repo := w.repo.after (.error refusal), phase := .idle }

/-- A response reaches the plugin. One that no call awaits is dropped; an unexpected or
failed answer ends the cycle. -/
def SyncWorld.deliver (w : SyncWorld) (request : Nat) : Option SyncWorld :=
  match w.responses.find? (fun sent => sent.1 == request) with
  | none => none
  | some (_, body) =>
    let w := { w with responses := w.responses.filter fun sent => sent.1 != request }
    match w.phase, body with
    | .awaitingPage awaited, .page page =>
      if awaited == request then
        some { w with
          phase := .settling page.events
          received := w.received ++ page.events.map (·.eventSequence) }
      else some w
    | .awaitingReceipt awaited isOwed, .receipt receipt =>
      if awaited == request then some (w.recordReceipt receipt isOwed) else some w
    | .awaitingPage awaited, _ | .awaitingReceipt awaited _, _ =>
      if awaited == request then some { w with phase := .idle } else some w
    | _, _ => some w

/-- One turn of the page loop. `isSelfOrigin` is the verdict of
`isProvenSelfOriginNoOp`, which reads the journal's committed outbound rows. -/
def SyncWorld.settleNext (w : SyncWorld) (isSelfOrigin : Bool) : Option SyncWorld :=
  match w.phase with
  | .settling [] => some { w with phase := .acknowledging false }
  | .settling (event :: rest) =>
    if event.eventSequence ≤ w.repo.state.appliedSequence then
      -- an already-settled redelivery is skipped
      some { w with phase := .settling rest }
    else if isSelfOrigin then
      some (w.afterCall event.eventSequence (.terminalize .selfOriginNoOp none) (.settling rest))
    else if event.eventSequence ≠ w.repo.state.appliedSequence + 1 then
      -- the applier throws `device_cursor_gap` before it prepares anything
      some { w with phase := .idle }
    else some { w with phase := .applying event rest }
  | _ => none

def SyncWorld.applierCall (w : SyncWorld) (call : ApplierCall) : Option SyncWorld :=
  match w.phase with
  | .applying event rest => some (w.afterCall event.eventSequence call (.settling rest))
  | .recovering (some sequence) => some (w.afterCall sequence call (.acknowledging true))
  | _ => none

/-! ## The machine -/

inductive SyncAction
  | commit (row : EventRow)
  | startCycle
  | applierCall (call : ApplierCall)
  | recoveryDone
  | sendAcknowledgement
  | sendPull (limit : Nat)
  | settleNext (isSelfOrigin : Bool)
  | handle (request : Nat)
  | deliver (request : Nat)
  | loseRequest (request : Nat)
  | loseResponse (request : Nat)
  | stop

def SyncWorld.step (w : SyncWorld) : SyncAction → Option SyncWorld
  | .commit row => w.commit row
  | .startCycle =>
    match w.phase with
    | .idle =>
      some { w with phase := .recovering (w.repo.readUnfinishedApply.map (·.eventSequence)) }
    | _ => none
  | .applierCall call => w.applierCall call
  | .recoveryDone =>
    match w.phase with
    | .recovering _ => some { w with phase := .acknowledging true }
    | _ => none
  | .sendAcknowledgement => w.sendAcknowledgement
  | .sendPull limit => w.sendPull limit
  | .settleNext isSelfOrigin => w.settleNext isSelfOrigin
  | .handle request => w.handle request
  | .deliver request => w.deliver request
  | .loseRequest request =>
    some { w with requests := w.requests.filter fun sent => sent.1 != request }
  | .loseResponse request =>
    some { w with responses := w.responses.filter fun sent => sent.1 != request }
  | .stop => some { w with phase := .idle }

/-- Every cursor at the checkpoint the device was bootstrapped to, nothing in flight. -/
structure SyncWorld.Settled (w : SyncWorld) : Prop where
  sorted : w.rows.Pairwise fun a b => a.eventSequence < b.eventSequence
  positive : ∀ row ∈ w.rows, 0 < row.eventSequence
  rows_settled : ∀ row ∈ w.rows, row.eventSequence ≤ w.settledThrough
  cursor : readCursor w.cursor = ⟨w.settledThrough, w.settledThrough⟩
  applied : w.repo.state.appliedSequence = w.settledThrough
  acknowledged : w.repo.state.acknowledgedSequence = w.settledThrough
  lattice : w.repo.remoteApplyOperations = []
  requests : w.requests = []
  responses : w.responses = []
  phase : w.phase = .idle
  terminalized : w.terminalized = []
  issued : w.issued = []
  received : w.received = []

def syncMachine : Machine SyncWorld SyncAction where
  Init := SyncWorld.Settled
  step := SyncWorld.step

/-! ## The invariant -/

/-- The sequences of the events a phase still holds in memory. -/
def CyclePhase.sequences : CyclePhase → List Nat
  | .recovering (some sequence) => [sequence]
  | .settling events => events.map (·.eventSequence)
  | .applying event rest => event.eventSequence :: rest.map (·.eventSequence)
  | _ => []

/-- The delivered watermark of the server's cursor row. -/
def SyncWorld.delivered (w : SyncWorld) : Nat := (readCursor w.cursor).deliveredThroughSequence

def SyncWorld.acknowledged (w : SyncWorld) : Nat := (readCursor w.cursor).acknowledgedSequence

/-- The applied cursor of the plugin. -/
def SyncWorld.applied (w : SyncWorld) : Nat := w.repo.state.appliedSequence

/-- What holds in every state of the system. The server half ties the watermark to the
pages issued so far; the plugin half ties the applied cursor to the terminal outcomes, and
everything the plugin works on to the pages that arrived. -/
structure SyncWorld.Sound (w : SyncWorld) : Prop where
  sorted : w.rows.Pairwise fun a b => a.eventSequence < b.eventSequence
  positive : ∀ row ∈ w.rows, 0 < row.eventSequence
  watermark : w.delivered = w.settledThrough ∨ w.delivered ∈ w.issued
  settled_le_watermark : w.settledThrough ≤ w.delivered
  issued_row : ∀ k ∈ w.issued, w.settledThrough < k ∧ k ≤ w.delivered ∧
    ∃ row ∈ w.rows, row.isDeliverable ∧ row.eventSequence = k
  row_issued : ∀ row ∈ w.rows, row.isDeliverable → w.settledThrough < row.eventSequence →
    row.eventSequence ≤ w.delivered → row.eventSequence ∈ w.issued
  in_flight : ∀ sent ∈ w.responses, ∀ page, sent.2 = .page page →
    ∀ k ∈ page.events.map (·.eventSequence), k ∈ w.issued
  received_issued : ∀ k ∈ w.received, k ∈ w.issued
  acknowledged_le : w.acknowledged ≤ w.applied
  request_le : ∀ sent ∈ w.requests, ∀ expected through,
    sent.2 = .acknowledge expected through → through ≤ w.applied
  settled_le_applied : w.settledThrough ≤ w.applied
  applied_terminalized : ∀ k, w.settledThrough < k → k ≤ w.applied →
    ∃ terminal ∈ w.terminalized, terminal.eventSequence = k
  terminalized_received : ∀ terminal ∈ w.terminalized, terminal.eventSequence ∈ w.received
  lattice_received : ∀ k ∈ w.repo.rowSequences, k ∈ w.received
  phase_received : ∀ k ∈ w.phase.sequences, k ∈ w.received

namespace CoordinatorLemmas

theorem mem_take_of_le_getLast {va : List Nat} {c l ve : Nat}
    (hs : va.Pairwise (· < ·)) (hf : (va.take c).getLast? = some l)
    (hm : ve ∈ va) (hb : ve ≤ l) : ve ∈ va.take c := by
  have hsp := va.take_append_drop c
  rw [← hsp] at hs hm
  rcases List.mem_append.mp hm with hin | hi
  · exact hin
  · have ha := (List.pairwise_append.mp hs).2.2 l (List.mem_of_getLast? hf) ve hi
    omega

theorem le_getLast {va : List Nat} {l ve : Nat} (hs : va.Pairwise (· < ·))
    (hf : va.getLast? = some l) (hm : ve ∈ va) : ve ≤ l := by
  obtain ⟨i, rfl⟩ := List.getLast?_eq_some_iff.mp hf
  rcases List.mem_append.mp hm with hi | hl
  · exact Nat.le_of_lt ((List.pairwise_append.mp hs).2.2 ve hi l (by simp))
  · exact Nat.le_of_eq (List.mem_singleton.mp hl)

variable {rows : List EventRow}

theorem rowsAbove_sorted (wa : Nat)
    (hs : rows.Pairwise fun a b => a.eventSequence < b.eventSequence) :
    ((rowsAbove rows wa).map (·.eventSequence)).Pairwise (· < ·) :=
  List.pairwise_map.mpr (hs.filter _)

theorem mem_rowsAbove {wa k : Nat} : k ∈ (rowsAbove rows wa).map (·.eventSequence) ↔
      wa < k ∧ ∃ row ∈ rows, row.isDeliverable ∧ row.eventSequence = k := by
  simp only [rowsAbove, List.mem_map, List.mem_filter, Bool.and_eq_true, decide_eq_true_eq]
  constructor
  · rintro ⟨row, ⟨hm, ha, hd⟩, rfl⟩
    exact ⟨ha, row, hm, hd, rfl⟩
  · rintro ⟨ha, row, hm, hd, rfl⟩
    exact ⟨row, ⟨hm, ha, hd⟩, rfl⟩

theorem perform_ok {re n : Repository} {s : Nat} {c : ApplierCall} (hd : c.perform re s = .ok n) :
    (∀ k ∈ n.rowSequences, k = s ∨ k ∈ re.rowSequences) ∧ ((∃ o r, c = .terminalize o r ∧
          s = re.state.appliedSequence + 1 ∧ n.state.appliedSequence = s) ∨
        ((∀ o r, c ≠ .terminalize o r) ∧ n.state.appliedSequence = re.state.appliedSequence)) := by
  cases c with
  | terminalize o r =>
    obtain ⟨hc, ha, _, hl⟩ := Repository.terminalizeEvent_ok hd
    exact ⟨fun k hm => .inr (hl ▸ hm), .inl ⟨o, r, rfl, hc, ha⟩⟩
  | prepare i =>
    simp only [ApplierCall.perform, Repository.prepareRemoteApply] at hd
    split at hd
    · cases hd
    split at hd
    · split at hd
      · cases hd
      · cases hd
        exact ⟨fun k hm => .inr hm, .inr ⟨by simp, rfl⟩⟩
    · cases hd
      refine ⟨fun k hm => ?_, .inr ⟨by simp, rfl⟩⟩
      simp only [Repository.rowSequences, List.map_append, List.mem_append, List.map_cons,
        List.map_nil, List.mem_singleton] at hm
      exact hm.symm
  | recordEcho m =>
    simp only [ApplierCall.perform, Repository.recordEchoMarker] at hd
    split at hd
    · cases hd
    split at hd
    · split at hd
      · cases hd
        exact ⟨fun k hm => .inr hm, .inr ⟨by simp, rfl⟩⟩
      · cases hd
    · cases hd
      exact ⟨fun k hm => .inr hm, .inr ⟨by simp, rfl⟩⟩
  | transition t tt rt =>
    simp only [ApplierCall.perform, Repository.transitionRemoteApply] at hd
    split at hd
    · cases hd
    split at hd
    · cases hd
    · cases hd
      refine ⟨fun k hm => .inr ?_, .inr ⟨by simp, rfl⟩⟩
      rw [Repository.updateRow_rowSequences] at hm
      · exact hm
      · exact fun _ => rfl
  | abandon =>
    simp only [ApplierCall.perform, Repository.abandonRemoteApply] at hd
    split at hd
    · split at hd
      · cases hd
      · cases hd
        refine ⟨fun k hm => .inr ?_, .inr ⟨by simp, rfl⟩⟩
        simp only [Repository.rowSequences, List.mem_map, List.mem_filter] at hm ⊢
        obtain ⟨row, ⟨hi, _⟩, he⟩ := hm
        exact ⟨row, hi, he⟩
    · cases hd
  | startBarrier r =>
    simp only [ApplierCall.perform, Repository.startRepairBarrier] at hd
    split at hd
    · cases hd
    · cases hd
      exact ⟨fun k hm => .inr hm, .inr ⟨by simp, rfl⟩⟩

theorem mem_commit {row o : EventRow} :
    o ∈ rows.orderedInsert (fun a b => a.eventSequence ≤ b.eventSequence) row ↔
      o = row ∨ o ∈ rows := by
  rw [List.mem_orderedInsert]

theorem commit_sorted {row : EventRow}
    (hs : rows.Pairwise fun a b => a.eventSequence < b.eventSequence)
    (hf : ∀ o ∈ rows, o.eventSequence ≠ row.eventSequence) :
    (rows.orderedInsert (fun a b => a.eventSequence ≤ b.eventSequence) row).Pairwise
      fun a b => a.eventSequence < b.eventSequence := by
  induction rows with
  | nil => simp
  | cons h r ih =>
    obtain ⟨hh, hr⟩ := List.pairwise_cons.mp hs
    have hhe := hf h List.mem_cons_self
    have hre := fun o hm => hf o (List.mem_cons_of_mem h hm)
    simp only [List.orderedInsert]
    split
    · next hb =>
      refine List.pairwise_cons.mpr ⟨fun o hm => ?_, hs⟩
      rcases List.mem_cons.mp hm with rfl | hi
      · omega
      · have ha := hh o hi
        omega
    · refine List.pairwise_cons.mpr ⟨fun o hm => ?_, ih hr hre⟩
      rcases mem_commit.mp hm with rfl | hi
      · omega
      · exact hh o hi

end CoordinatorLemmas

open CoordinatorLemmas

namespace SyncWorld.Sound

variable {w v : SyncWorld}

theorem commit {row : EventRow} (hs : w.Sound) (hv : w.commit row = some v) : v.Sound := by
  simp only [SyncWorld.commit] at hv
  split at hv
  · next hgu =>
    cases hv
    simp only [Bool.and_eq_true, decide_eq_true_eq, List.all_eq_true, bne_iff_ne, ne_eq,
      Bool.or_eq_true, Bool.not_eq_eq_eq_not, Bool.not_true] at hgu
    obtain ⟨⟨hp, hf⟩, hg⟩ := hgu
    refine { hs with
      sorted := commit_sorted hs.sorted hf
      positive := ?_
      issued_row := ?_
      row_issued := ?_ }
    · intro o hm
      rcases mem_commit.mp hm with rfl | hi
      · exact hp
      · exact hs.positive o hi
    · intro k his
      obtain ⟨ha, hb, o, hi, hd, he⟩ := hs.issued_row k his
      exact ⟨ha, hb, o, mem_commit.mpr (.inr hi), hd, he⟩
    · intro o hm hd ha hb
      rcases mem_commit.mp hm with rfl | hi
      · -- the committed row lies above the watermark, so it is on no page yet
        have hah := hg.resolve_left (by simp [hd])
        rcases hs.watermark with hat | his
        · exact absurd hb (by simp only [delivered] at *; omega)
        · obtain ⟨_, _, l, hi, hl, he⟩ := hs.issued_row _ his
          have hla := (hah.2 l hi).resolve_left (by simp [hl])
          exact absurd hb (by simp only [delivered] at *; omega)
      · exact hs.row_issued o hi hd ha hb
  · cases hv

variable {request : Nat}

theorem pulled {page : DeviceEventPage} {cursor : Option DeviceCursor} {limit : Nat}
    (hs : w.Sound) (hse : pullOnce w.rows w.cursor w.floor limit = .ok (page, cursor)) :
    Sound { w with
      cursor := cursor
      responses := w.responses ++ [(request, .page page)]
      issued := w.issued ++ page.events.map (·.eventSequence) } := by
  obtain ⟨he, hv⟩ := pullOnce_spec hse
  rw [List.map_take] at he
  have hac : (readCursor cursor).acknowledgedSequence = w.acknowledged := by
    rw [hv]
    rfl
  have hl : page.events.getLast?.map (·.eventSequence) =
      (page.events.map (·.eventSequence)).getLast? := by simp
  have hw : (readCursor cursor).deliveredThroughSequence =
      max w.delivered (((page.events.map (·.eventSequence)).getLast?).getD w.delivered) := by
    rw [hv, hl]
    rfl
  have hso : (page.events.map (·.eventSequence)).Pairwise (· < ·) := by
    rw [he]
    exact (rowsAbove_sorted _ hs.sorted).sublist (List.take_sublist _ _)
  have hp : ∀ k ∈ page.events.map (·.eventSequence),
      w.delivered < k ∧ ∃ row ∈ w.rows, row.isDeliverable ∧ row.eventSequence = k := by
    intro k hm
    rw [he] at hm
    exact mem_rowsAbove.mp (List.mem_of_mem_take hm)
  have hpa : ∀ k ∈ page.events.map (·.eventSequence),
      k ≤ (readCursor cursor).deliveredThroughSequence := by
    intro k hm
    cases hf : (page.events.map (·.eventSequence)).getLast? with
    | none => simp [List.getLast?_eq_none_iff.mp hf] at hm
    | some l =>
      have hbo := le_getLast hso hf hm
      rw [hw, hf, Option.getD_some]
      omega
  have hg : w.delivered ≤ (readCursor cursor).deliveredThroughSequence := by
    rw [hw]
    omega
  refine { hs with
    watermark := ?_
    settled_le_watermark := Nat.le_trans hs.settled_le_watermark hg
    issued_row := ?_
    row_issued := ?_
    in_flight := ?_
    received_issued := fun k hm => List.mem_append_left _ (hs.received_issued k hm)
    acknowledged_le := ?_ }
  · change (readCursor cursor).deliveredThroughSequence = w.settledThrough ∨
      (readCursor cursor).deliveredThroughSequence ∈ w.issued ++ _
    cases hf : (page.events.map (·.eventSequence)).getLast? with
    | none =>
      rw [hw, hf, Option.getD_none, Nat.max_self]
      exact hs.watermark.imp id fun hi => List.mem_append_left _ hi
    | some l =>
      have hm := List.mem_of_getLast? hf
      have ha := (hp l hm).1
      rw [hw, hf, Option.getD_some, Nat.max_eq_right (Nat.le_of_lt ha)]
      exact .inr (List.mem_append_right _ hm)
  · intro k hm
    rcases List.mem_append.mp hm with hbe | ho
    · obtain ⟨ha, hb, row⟩ := hs.issued_row k hbe
      exact ⟨ha, Nat.le_trans hb hg, row⟩
    · obtain ⟨ha, row⟩ := hp k ho
      exact ⟨Nat.lt_of_le_of_lt hs.settled_le_watermark ha, hpa k ho, row⟩
  · intro row hm hd ha hb
    change row.eventSequence ≤ (readCursor cursor).deliveredThroughSequence at hb
    rcases Nat.lt_or_ge w.delivered row.eventSequence with new | old
    · -- a row between the old and the new watermark is on the page
      have hc : row.eventSequence ∈ (rowsAbove w.rows w.delivered).map (·.eventSequence) :=
        mem_rowsAbove.mpr ⟨new, row, hm, hd, rfl⟩
      cases hf : (page.events.map (·.eventSequence)).getLast? with
      | none =>
        rw [hw, hf, Option.getD_none] at hb
        omega
      | some l =>
        rw [hw, hf, Option.getD_some] at hb
        rw [he] at hf
        have ho := mem_take_of_le_getLast (rowsAbove_sorted _ hs.sorted) hf hc (by omega)
        exact List.mem_append_right _ (he ▸ ho)
    · exact List.mem_append_left _ (hs.row_issued row hm hd ha old)
  · intro s hm o hsa k ho
    rcases List.mem_append.mp hm with hbe | new
    · exact List.mem_append_left _ (hs.in_flight s hbe o hsa k ho)
    · rw [List.mem_singleton.mp new] at hsa
      cases hsa
      exact List.mem_append_right _ ho
  · change (readCursor cursor).acknowledgedSequence ≤ w.applied
    rw [hac]
    exact hs.acknowledged_le

theorem fewer {re : List (Nat × Request)} {r : List (Nat × Response)}
    (hs : w.Sound) (hfe : ∀ s ∈ re, s ∈ w.requests)
    (hf : ∀ s ∈ r, s ∈ w.responses) :
    Sound { w with requests := re, responses := r } :=
  { hs with
    in_flight := fun s hm => hs.in_flight s (hf s hm)
    request_le := fun s hm => hs.request_le s (hfe s hm) }

theorem answered (hs : w.Sound) (r : Nat × Response) (hn : ∀ page, r.2 ≠ .page page) :
    Sound { w with responses := w.responses ++ [r] } :=
  { hs with
    in_flight := fun s hm page he => by
      rcases List.mem_append.mp hm with hb | new
      · exact hs.in_flight s hb page he
      · exact absurd (List.mem_singleton.mp new ▸ he) (hn page) }

theorem handle (hs : w.Sound) (hv : w.handle request = some v) : v.Sound := by
  simp only [SyncWorld.handle] at hv
  split at hv
  · cases hv
  · next b hf =>
    have s : (_, b) ∈ w.requests := List.mem_of_find?_eq_some hf
    have ht : Sound { w with requests := w.requests.filter fun s => s.1 != request } :=
      hs.fewer (fun _ hm => List.mem_of_mem_filter hm) fun _ hm => hm
    split at hv
    · split at hv
      · cases hv
        exact ht.answered _ (by simp)
      · next page cursor hse =>
        cases hv
        exact ht.pulled hse
    · next e t =>
      split at hv
      · cases hv
        exact ht.answered _ (by simp)
      · next r cursor hac =>
        cases hv
        obtain ⟨hab, hbe, had, _⟩ := acknowledgeOnce_spec hac
        have hw : (readCursor cursor).deliveredThroughSequence = w.delivered := by
          rw [had]
          rfl
        have ha : (readCursor cursor).acknowledgedSequence = t := by rw [had]
        have hb := hs.request_le _ s e t rfl
        refine { ht.answered (request, .receipt r) (by simp) with
          watermark := ?_
          settled_le_watermark := ?_
          issued_row := ?_
          row_issued := ?_
          acknowledged_le := ?_ }
        · simpa only [delivered, hw] using hs.watermark
        · simpa only [delivered, hw] using hs.settled_le_watermark
        · simpa only [delivered, hw] using hs.issued_row
        · simpa only [delivered, hw] using hs.row_issued
        · change (readCursor cursor).acknowledgedSequence ≤ w.applied
          rw [ha]
          exact hb

theorem toPhase {p : CyclePhase} (hs : w.Sound)
    (hr : ∀ k ∈ p.sequences, k ∈ w.received) : Sound { w with phase := p } :=
  { hs with phase_received := hr }

theorem withRepo {r : Repository} (hs : w.Sound) (hap : r.state.appliedSequence = w.applied)
    (hl : ∀ k ∈ r.rowSequences, k ∈ w.received) : Sound { w with repo := r } := by
  have ha := hs.acknowledged_le
  have hr := hs.request_le
  have hse := hs.settled_le_applied
  have ht := hs.applied_terminalized
  rw [← hap] at ha hr hse ht
  exact { hs with
    acknowledged_le := ha
    request_le := hr
    settled_le_applied := hse
    applied_terminalized := ht
    lattice_received := hl }

theorem withRefusal {r : Refusal} (hs : w.Sound) :
    Sound { w with repo := w.repo.after (.error r) } := by
  obtain ⟨⟨ha, _⟩, hl⟩ := w.repo.after_error r
  refine hs.withRepo ha fun k hm => hs.lattice_received k ?_
  rwa [Repository.rowSequences, hl] at hm

theorem afterCall {s : Nat} {c : ApplierCall} {t : CyclePhase} (hs : w.Sound) (hr : s ∈ w.received)
    (hne : ∀ k ∈ t.sequences, k ∈ w.received) :
    (w.afterCall s c t).Sound := by
  simp only [SyncWorld.afterCall]
  cases hd : c.perform w.repo s with
  | error rl => exact hs.withRefusal.toPhase (by simp [CyclePhase.sequences])
  | ok re =>
    obtain ⟨rows, hv⟩ := perform_ok hd
    have hl : ∀ k ∈ re.rowSequences, k ∈ w.received := by
      intro k hm
      rcases rows k hm with rfl | hb
      · exact hr
      · exact hs.lattice_received k hb
    rcases hv with ⟨o, r, rfl, hc, ha⟩ | ⟨hn, ha⟩
    · -- the terminal outcome and the cursor move together
      have hst : re.state.appliedSequence = w.applied + 1 := by
        rw [ha, hc]
        rfl
      refine { hs with
        acknowledged_le := ?_
        request_le := ?_
        settled_le_applied := ?_
        applied_terminalized := ?_
        terminalized_received := ?_
        lattice_received := hl
        phase_received := hne }
      · have hb := hs.acknowledged_le
        simp only [SyncWorld.acknowledged, SyncWorld.applied] at *
        omega
      · intro se hm e th he
        have hb := hs.request_le se hm e th he
        simp only [SyncWorld.applied] at *
        omega
      · have hb := hs.settled_le_applied
        simp only [SyncWorld.applied] at *
        omega
      · intro k hab hbe
        change k ≤ re.state.appliedSequence at hbe
        rcases Nat.lt_or_ge w.applied k with new | old
        · refine ⟨⟨s, o, r⟩, List.mem_append_right _ (by simp), ?_⟩
          simp only [SyncWorld.applied] at *
          omega
        · obtain ⟨t, hm, he⟩ := hs.applied_terminalized k hab old
          exact ⟨t, List.mem_append_left _ hm, he⟩
      · intro t hm
        rcases List.mem_append.mp hm with hb | new
        · exact hs.terminalized_received t hb
        · rw [List.mem_singleton.mp new]
          exact hr
    · have hk := hs.withRepo ha hl
      cases c with
      | terminalize o r => exact absurd rfl (hn o r)
      | prepare | recordEcho | transition | abandon | startBarrier => exact hk

theorem recordReceipt {r : DeviceCursor} {io : Bool} (hs : w.Sound) :
    (w.recordReceipt r io).Sound := by
  simp only [SyncWorld.recordReceipt]
  have he : ∀ k ∈ (if io then CyclePhase.pulling else .idle).sequences, k ∈ w.received := by
    cases io <;> simp [CyclePhase.sequences]
  split
  · exact hs.toPhase he
  · split
    · next re hd =>
      obtain ⟨ha, _, _, _, hl⟩ := Repository.recordServerAcknowledgement_ok hd
      have hk : Sound { w with repo := re } :=
        hs.withRepo ha fun k hm => hs.lattice_received k (hl ▸ hm)
      exact hk.toPhase he
    · exact hs.withRefusal.toPhase (by simp [CyclePhase.sequences])

theorem deliver (hs : w.Sound) (hv : w.deliver request = some v) : v.Sound := by
  simp only [SyncWorld.deliver] at hv
  split at hv
  · cases hv
  · next b hf =>
    have hi : (_, b) ∈ w.responses := List.mem_of_find?_eq_some hf
    have ht : Sound { w with responses := w.responses.filter fun s => s.1 != request } :=
      hs.fewer (fun _ hm => hm) fun _ hm => List.mem_of_mem_filter hm
    have hid : Sound { w with
        responses := w.responses.filter fun s => s.1 != request
        phase := .idle } :=
      ht.toPhase (by simp [CyclePhase.sequences])
    split at hv
    · next a page _ =>
      split at hv
      · cases hv
        have his := hs.in_flight _ hi page rfl
        exact { ht with
          received_issued := fun k hm => by
            rcases List.mem_append.mp hm with hb | new
            · exact hs.received_issued k hb
            · exact his k new
          terminalized_received := fun t hm =>
            List.mem_append_left _ (hs.terminalized_received t hm)
          lattice_received := fun k hm =>
            List.mem_append_left _ (hs.lattice_received k hm)
          phase_received := fun k hm => List.mem_append_right _ hm }
      · cases hv
        exact ht
    · split at hv
      · cases hv
        exact ht.recordReceipt
      · cases hv
        exact ht
    · split at hv
      · cases hv
        exact hid
      · cases hv
        exact ht
    · split at hv
      · cases hv
        exact hid
      · cases hv
        exact ht
    · cases hv
      exact ht

theorem sendAcknowledgement (hs : w.Sound) (hv : w.sendAcknowledgement = some v) : v.Sound := by
  simp only [SyncWorld.sendAcknowledgement] at hv
  split at hv
  · next io hp =>
    split at hv
    · cases hv
      exact hs.toPhase (by cases io <;> simp [CyclePhase.sequences])
    · cases hv
      refine { hs with
        request_le := ?_
        phase_received := by simp [CyclePhase.sequences] }
      intro s hm e t he
      rcases List.mem_append.mp hm with hb | new
      · exact hs.request_le s hb e t he
      · rw [List.mem_singleton.mp new] at he
        cases he
        exact Nat.le_refl _
  · cases hv

theorem sendPull {limit : Nat} (hs : w.Sound) (hv : w.sendPull limit = some v) : v.Sound := by
  simp only [SyncWorld.sendPull] at hv
  split at hv
  · split at hv
    · cases hv
      refine { hs with
        request_le := ?_
        phase_received := by simp [CyclePhase.sequences] }
      intro s hm e t he
      rcases List.mem_append.mp hm with hb | new
      · exact hs.request_le s hb e t he
      · rw [List.mem_singleton.mp new] at he
        cases he
    · cases hv
  · cases hv

theorem settleNext {isS : Bool} (hs : w.Sound) (hv : w.settleNext isS = some v) : v.Sound := by
  simp only [SyncWorld.settleNext] at hv
  split at hv
  · cases hv
    exact hs.toPhase (by simp [CyclePhase.sequences])
  · next e r hp =>
    have hh : ∀ k ∈ (CyclePhase.settling (e :: r)).sequences, k ∈ w.received :=
      hp ▸ hs.phase_received
    have ht : ∀ k ∈ (CyclePhase.settling r).sequences, k ∈ w.received :=
      fun k hm => hh k (List.mem_cons_of_mem _ hm)
    have hhe := hh e.eventSequence List.mem_cons_self
    split at hv
    · cases hv
      exact hs.toPhase ht
    split at hv
    · cases hv
      exact hs.afterCall hhe ht
    split at hv
    · cases hv
      exact hs.toPhase (by simp [CyclePhase.sequences])
    · cases hv
      exact hs.toPhase hh
  · cases hv

theorem applierCall {c : ApplierCall} (hs : w.Sound) (hv : w.applierCall c = some v) : v.Sound := by
  simp only [SyncWorld.applierCall] at hv
  split at hv
  · next e r hp =>
    cases hv
    have hh : ∀ k ∈ (CyclePhase.applying e r).sequences, k ∈ w.received := hp ▸ hs.phase_received
    exact hs.afterCall (hh _ List.mem_cons_self) fun k hm => hh k (List.mem_cons_of_mem _ hm)
  · next s hp =>
    cases hv
    have hh : ∀ k ∈ (CyclePhase.recovering (some s)).sequences, k ∈ w.received :=
      hp ▸ hs.phase_received
    exact hs.afterCall (hh _ List.mem_cons_self) (by simp [CyclePhase.sequences])
  · cases hv

theorem startCycle (hs : w.Sound) : Sound { w with
      phase := .recovering (w.repo.readUnfinishedApply.map (·.eventSequence)) } := by
  refine hs.toPhase fun k hm => ?_
  cases hu : w.repo.readUnfinishedApply with
  | none => simp [hu, CyclePhase.sequences] at hm
  | some row =>
    simp only [hu, Option.map_some, CyclePhase.sequences, List.mem_singleton] at hm
    have hi := List.argmin_mem hu
    rw [hm]
    exact hs.lattice_received _ (List.mem_map_of_mem (List.mem_of_mem_filter hi))

theorem step {a : SyncAction} (hs : w.Sound) (hv : w.step a = some v) : v.Sound := by
  cases a with
  | commit row => exact hs.commit hv
  | startCycle =>
    simp only [SyncWorld.step] at hv
    split at hv
    · cases hv
      exact hs.startCycle
    · cases hv
  | applierCall c => exact hs.applierCall hv
  | recoveryDone =>
    simp only [SyncWorld.step] at hv
    split at hv
    · cases hv
      exact hs.toPhase (by simp [CyclePhase.sequences])
    · cases hv
  | sendAcknowledgement => exact hs.sendAcknowledgement hv
  | sendPull limit => exact hs.sendPull hv
  | settleNext isS => exact hs.settleNext hv
  | handle request => exact hs.handle hv
  | deliver request => exact hs.deliver hv
  | loseRequest request =>
    cases hv
    exact hs.fewer (fun _ hm => List.mem_of_mem_filter hm) fun _ hm => hm
  | loseResponse request =>
    cases hv
    exact hs.fewer (fun _ hm => hm) fun _ hm => List.mem_of_mem_filter hm
  | stop =>
    cases hv
    exact hs.toPhase (by simp [CyclePhase.sequences])

end SyncWorld.Sound

variable {w : SyncWorld}

theorem SyncWorld.Settled.sound (hs : w.Settled) : w.Sound where
  sorted := hs.sorted
  positive := hs.positive
  watermark := .inl (by rw [delivered, hs.cursor])
  settled_le_watermark := by rw [delivered, hs.cursor]
  issued_row := by simp [hs.issued]
  row_issued := fun row hm _ ha _ =>
    absurd (hs.rows_settled row hm) (by omega)
  in_flight := by simp [hs.responses]
  received_issued := by simp [hs.received]
  acknowledged_le := by
    rw [SyncWorld.acknowledged, SyncWorld.applied, hs.cursor, hs.applied]
  request_le := by simp [hs.requests]
  settled_le_applied := by rw [SyncWorld.applied, hs.applied]
  applied_terminalized := fun k ha hb => by
    rw [SyncWorld.applied, hs.applied] at hb
    omega
  terminalized_received := by simp [hs.terminalized]
  lattice_received := by simp [Repository.rowSequences, hs.lattice]
  phase_received := by simp [hs.phase, CyclePhase.sequences]

theorem syncMachine_sound (h : syncMachine.Reachable w) : w.Sound :=
  h.invariant (fun _ => SyncWorld.Settled.sound) fun _ _ _ => SyncWorld.Sound.step

/-! ## No event is lost -/

/-- Whatever the server holds as acknowledged has been terminalized by the plugin. -/
def SyncWorld.AcknowledgedTerminalized (w : SyncWorld) : Prop :=
  ∀ row ∈ w.rows, row.isDeliverable → w.settledThrough < row.eventSequence →
    row.eventSequence ≤ w.acknowledged →
    ∃ terminal ∈ w.terminalized, terminal.eventSequence = row.eventSequence

/-- The page's first event lies past the applied cursor with a deliverable event in
between that no page has brought to the plugin. -/
def SyncWorld.Skips (w : SyncWorld) (page : DeviceEventPage) : Prop :=
  ∃ first ∈ page.events.head?, ∃ row ∈ w.rows, row.isDeliverable ∧
    w.applied < row.eventSequence ∧ row.eventSequence < first.eventSequence ∧
    row.eventSequence ∉ w.received

/-- The page's first event lies past the applied cursor with a deliverable event in
between that the plugin has not terminalized, received or not. -/
def SyncWorld.Jumps (w : SyncWorld) (page : DeviceEventPage) : Prop :=
  ∃ first ∈ page.events.head?, ∃ row ∈ w.rows, row.isDeliverable ∧
    w.applied < row.eventSequence ∧ row.eventSequence < first.eventSequence

/-- Every page the server has returned reached the plugin. -/
def SyncWorld.AllPagesArrived (w : SyncWorld) : Prop := ∀ k ∈ w.issued, k ∈ w.received

/-- What the cycle is meant to guarantee at one pull. -/
def SyncWorld.PullsContiguously (w : SyncWorld) : Prop :=
  ∀ limit page cursor, pullOnce w.rows w.cursor w.floor limit = .ok (page, cursor) →
    page.events ≠ [] → ¬ w.Skips page

namespace SyncWorld.Sound

variable {w : SyncWorld}

theorem acknowledgedTerminalized (hs : w.Sound) : w.AcknowledgedTerminalized := by
  intro row _ _ ha hb
  exact hs.applied_terminalized _ ha (Nat.le_trans hb hs.acknowledged_le)

theorem applied_received (hs : w.Sound) {k : Nat} (ha : w.settledThrough < k)
    (hb : k ≤ w.applied) : k ∈ w.received := by
  obtain ⟨t, hm, he⟩ := hs.applied_terminalized k ha hb
  exact he ▸ hs.terminalized_received t hm

variable {cursor : Option DeviceCursor} {limit : Nat} {page : DeviceEventPage}

/-- Nothing deliverable lies between the watermark and the first event of a page. -/
theorem first_after_watermark (hso : w.Sound) {x : DeviceSyncEvent} {row : EventRow}
    (hse : pullOnce w.rows w.cursor w.floor limit = .ok (page, cursor))
    (hh : x ∈ page.events.head?) (hm : row ∈ w.rows) (hd : row.isDeliverable) :
    w.delivered < x.eventSequence ∧
      (row.eventSequence < x.eventSequence → row.eventSequence ≤ w.delivered) := by
  have he : page.events.map (·.eventSequence) =
      ((rowsAbove w.rows w.delivered).map (·.eventSequence)).take limit := by
    rw [(pullOnce_spec hse).1, List.map_take]
    rfl
  obtain ⟨r, hsp⟩ : ∃ r, page.events = x :: r := List.head?_eq_some_iff.mp hh
  have hs := rowsAbove_sorted w.delivered hso.sorted
  have hp : ∃ t, (rowsAbove w.rows w.delivered).map (·.eventSequence) = x.eventSequence :: t := by
    have hw := List.take_append_drop limit ((rowsAbove w.rows w.delivered).map (·.eventSequence))
    rw [← he, hsp] at hw
    exact ⟨_, hw.symm⟩
  obtain ⟨t, hw⟩ := hp
  refine ⟨(mem_rowsAbove.mp (hw ▸ List.mem_cons_self)).1, fun hb => ?_⟩
  by_contra ha
  have hc : row.eventSequence ∈ (rowsAbove w.rows w.delivered).map (·.eventSequence) :=
    mem_rowsAbove.mpr ⟨Nat.lt_of_not_le ha, row, hm, hd, rfl⟩
  rw [hw] at hc hs
  rcases List.mem_cons.mp hc with hsa | hl
  · omega
  · have hah := (List.pairwise_cons.mp hs).1 _ hl
    omega

/-- A page skips an event the plugin never received exactly when some earlier page did
not arrive. -/
theorem skips_iff (hs : w.Sound) (hse : pullOnce w.rows w.cursor w.floor limit = .ok (page, cursor))
    (hca : page.events ≠ []) : ¬ w.Skips page ↔ w.AllPagesArrived := by
  obtain ⟨x, r, hsp⟩ := List.exists_cons_of_ne_nil hca
  have hhe : x ∈ page.events.head? := by simp [hsp]
  constructor
  · intro hc k hi
    by_contra hm
    obtain ⟨ha, hb, row, hme, hd, rfl⟩ := hs.issued_row k hi
    have hah := (hs.first_after_watermark hse hhe hme hd).1
    have hu : w.applied < row.eventSequence := by
      by_contra hr
      exact hm (hs.applied_received ha (Nat.le_of_not_lt hr))
    exact hc ⟨x, hhe, row, hme, hd, hu, by omega, hm⟩
  · rintro har ⟨o, hh, row, hme, hd, ha, hb, hm⟩
    have hbe := (hs.first_after_watermark hse hh hme hd).2 hb
    have hp := Nat.lt_of_le_of_lt hs.settled_le_applied ha
    exact hm (har _ (hs.row_issued row hme hd hp hbe))

/-- A page jumps an event the plugin has not terminalized exactly when an event of an
earlier page is still unapplied: the watermark moved with the page, the applied cursor
moves per event. -/
theorem jumps_iff (hs : w.Sound) (hse : pullOnce w.rows w.cursor w.floor limit = .ok (page, cursor))
    (hca : page.events ≠ []) : ¬ w.Jumps page ↔ ∀ k ∈ w.issued, k ≤ w.applied := by
  obtain ⟨x, r, hsp⟩ := List.exists_cons_of_ne_nil hca
  have hhe : x ∈ page.events.head? := by simp [hsp]
  constructor
  · intro hc k hi
    by_contra hu
    obtain ⟨_, hb, row, hm, hd, rfl⟩ := hs.issued_row k hi
    have hah := (hs.first_after_watermark hse hhe hm hd).1
    exact hc ⟨x, hhe, row, hm, hd, by omega, by omega⟩
  · rintro ha ⟨o, hh, row, hm, hd, hab, hb⟩
    have hbe := (hs.first_after_watermark hse hh hm hd).2 hb
    have hp := Nat.lt_of_le_of_lt hs.settled_le_applied hab
    have hr := ha _ (hs.row_issued row hm hd hp hbe)
    omega

end SyncWorld.Sound

/-! ## Runs that lose no page -/

/-- The pages still travelling to the plugin. -/
def SyncWorld.PageInFlight (w : SyncWorld) (request : Nat) : Prop :=
  ∃ page, (request, Response.page page) ∈ w.responses ∧ page.events ≠ []

/-- A step that loses no page: the network drops no response that carries events, the
process does not stop while one travels, and the server handles a pull only while its
sender still waits for it. -/
def KeepsPages (w : SyncWorld) : SyncAction → Prop
  | .loseResponse request => ¬ w.PageInFlight request
  | .stop => ∀ request, ¬ w.PageInFlight request
  | .handle request =>
    ∀ limit, (request, .pull limit) ∈ w.requests → w.phase = .awaitingPage request
  | _ => True

/-- What holds along runs that lose no page: message ids are unique, a page only travels
to the call that awaits it, and every issued event has arrived or travels. -/
structure SyncWorld.Kept (w : SyncWorld) : Prop where
  request_fresh : ∀ sent ∈ w.requests, sent.1 < w.nextRequest
  response_fresh : ∀ sent ∈ w.responses, sent.1 < w.nextRequest
  request_unique : ∀ a ∈ w.requests, ∀ b ∈ w.requests, a.1 = b.1 → a = b
  response_unique : ∀ a ∈ w.responses, ∀ b ∈ w.responses, a.1 = b.1 → a = b
  unanswered : ∀ a ∈ w.requests, ∀ b ∈ w.responses, a.1 ≠ b.1
  awaited : ∀ request, w.PageInFlight request → w.phase = .awaitingPage request
  arrived : ∀ k ∈ w.issued, k ∈ w.received ∨
    ∃ request page, (request, Response.page page) ∈ w.responses ∧
      k ∈ page.events.map (·.eventSequence)

namespace SyncWorld.Kept

variable {w v : SyncWorld}

/-- Nothing that only moves the plugin's own state loses a page, as long as it does not
leave the wait for one. -/
theorem local_step (hk : w.Kept) (hre : v.requests = w.requests)
    (hr : v.responses = w.responses) (hf : v.nextRequest = w.nextRequest)
    (hi : v.issued = w.issued) (hrd : v.received = w.received)
    (hw : v.phase = w.phase ∨ ∀ request, w.phase ≠ .awaitingPage request) : v.Kept where
  request_fresh := hre ▸ hf ▸ hk.request_fresh
  response_fresh := hr ▸ hf ▸ hk.response_fresh
  request_unique := hre ▸ hk.request_unique
  response_unique := hr ▸ hk.response_unique
  unanswered := hre ▸ hr ▸ hk.unanswered
  awaited := by
    rintro request ⟨page, hm, hc⟩
    have hb := hk.awaited request ⟨page, hr ▸ hm, hc⟩
    rcases hw with hs | he
    · rw [hs, hb]
    · exact absurd hb (he request)
  arrived := hi ▸ hrd ▸ hr ▸ hk.arrived

theorem send {request : Request} {p : CyclePhase} (hk : w.Kept)
    (he : ∀ request, w.phase ≠ .awaitingPage request) :
    Kept { w with
      requests := w.requests ++ [(w.nextRequest, request)]
      nextRequest := w.nextRequest + 1
      phase := p } where
  request_fresh := fun s hm => by
    rcases List.mem_append.mp hm with hb | new
    · exact Nat.lt_succ_of_lt (hk.request_fresh s hb)
    · rw [List.mem_singleton.mp new]
      exact Nat.lt_succ_self _
  response_fresh := fun s hm => Nat.lt_succ_of_lt (hk.response_fresh s hm)
  request_unique := fun a inA b inB hs => by
    rcases List.mem_append.mp inA with ho | hn <;> rcases List.mem_append.mp inB with hol | hne
    · exact hk.request_unique a ho b hol hs
    · have hf := hk.request_fresh a ho
      rw [List.mem_singleton.mp hne] at hs
      exact absurd hs (Nat.ne_of_lt hf)
    · have hf := hk.request_fresh b hol
      rw [List.mem_singleton.mp hn] at hs
      exact absurd hs.symm (Nat.ne_of_lt hf)
    · rw [List.mem_singleton.mp hn, List.mem_singleton.mp hne]
  response_unique := hk.response_unique
  unanswered := fun a inA b inB => by
    rcases List.mem_append.mp inA with ho | hn
    · exact hk.unanswered a ho b inB
    · rw [List.mem_singleton.mp hn]
      exact (Nat.ne_of_lt (hk.response_fresh b inB)).symm
  awaited := fun request hi => absurd (hk.awaited request hi) (he request)
  arrived := hk.arrived

theorem drop {re : List (Nat × Request)} {r : List (Nat × Response)}
    (hke : w.Kept) (hfe : ∀ s ∈ re, s ∈ w.requests)
    (hf : ∀ s ∈ r, s ∈ w.responses)
    (hk : ∀ request page, (request, Response.page page) ∈ w.responses →
      page.events ≠ [] → (request, Response.page page) ∈ r) :
    Kept { w with requests := re, responses := r } where
  request_fresh := fun s hm => hke.request_fresh s (hfe s hm)
  response_fresh := fun s hm => hke.response_fresh s (hf s hm)
  request_unique := fun a inA b inB =>
    hke.request_unique a (hfe a inA) b (hfe b inB)
  response_unique := fun a inA b inB =>
    hke.response_unique a (hf a inA) b (hf b inB)
  unanswered := fun a inA b inB =>
    hke.unanswered a (hfe a inA) b (hf b inB)
  awaited := by
    rintro request ⟨page, hm, hc⟩
    exact hke.awaited request ⟨page, hf _ hm, hc⟩
  arrived := fun k hi => by
    rcases hke.arrived k hi with hr | ⟨request, page, hm, ho⟩
    · exact .inl hr
    · refine .inr ⟨request, page, hk request page hm ?_, ho⟩
      rintro he
      simp [he] at ho

theorem allPagesArrived (hk : w.Kept) (hn : ∀ request, ¬ w.PageInFlight request) :
    w.AllPagesArrived := by
  intro k hi
  rcases hk.arrived k hi with hr | ⟨request, page, hm, ho⟩
  · exact hr
  · refine absurd ⟨page, hm, ?_⟩ (hn request)
    rintro he
    simp [he] at ho

variable {request : Nat}

theorem answer {bo : Request} {r : Response} {i : List Nat} (hk : w.Kept)
    (cursor : Option DeviceCursor) (hs : (request, bo) ∈ w.requests)
    (his : i = w.issued ++ match r with
      | .page page => page.events.map (·.eventSequence)
      | _ => []) (hw : ∀ page, r = .page page → page.events ≠ [] →
      w.phase = .awaitingPage request) :
    Kept { w with
      cursor := cursor
      requests := w.requests.filter fun hs => hs.1 != request
      responses := w.responses ++ [(request, r)]
      issued := i } where
  request_fresh := fun o hm => hk.request_fresh o (List.mem_of_mem_filter hm)
  response_fresh := fun o hm => by
    rcases List.mem_append.mp hm with hb | new
    · exact hk.response_fresh o hb
    · rw [List.mem_singleton.mp new]
      exact hk.request_fresh _ hs
  request_unique := fun a inA b inB =>
    hk.request_unique a (List.mem_of_mem_filter inA) b (List.mem_of_mem_filter inB)
  response_unique := fun a inA b inB he => by
    rcases List.mem_append.mp inA with hol | hne <;> rcases List.mem_append.mp inB with ho | hn
    · exact hk.response_unique a hol b ho he
    · rw [List.mem_singleton.mp hn] at he
      exact absurd he.symm (hk.unanswered _ hs a hol)
    · rw [List.mem_singleton.mp hne] at he
      exact absurd he (hk.unanswered _ hs b ho)
    · rw [List.mem_singleton.mp hne, List.mem_singleton.mp hn]
  unanswered := fun a inA b inB => by
    obtain ⟨old, o⟩ := List.mem_filter.mp inA
    rcases List.mem_append.mp inB with ho | hn
    · exact hk.unanswered a old b ho
    · rw [List.mem_singleton.mp hn]
      simpa using o
  awaited := by
    rintro o ⟨page, hm, hc⟩
    rcases List.mem_append.mp hm with hb | new
    · exact hk.awaited o ⟨page, hb, hc⟩
    · obtain ⟨rfl, he⟩ := Prod.mk.inj (List.mem_singleton.mp new)
      exact hw page he.symm hc
  arrived := fun k hm => by
    rw [his] at hm
    rcases List.mem_append.mp hm with hb | new
    · rcases hk.arrived k hb with hr | ⟨o, page, hi, hon⟩
      · exact .inl hr
      · exact .inr ⟨o, page, List.mem_append_left _ hi, hon⟩
    · cases r with
      | page page => exact .inr ⟨request, page, List.mem_append_right _ (by simp), new⟩
      | receipt | failure => simp at new

theorem take (hk : w.Kept) (hn : ¬ w.PageInFlight request) :
    Kept { w with responses := w.responses.filter fun s => s.1 != request } := by
  refine hk.drop (fun _ hm => hm) (fun _ hm => List.mem_of_mem_filter hm) ?_
  intro o page hm hc
  refine List.mem_filter.mpr ⟨hm, ?_⟩
  simp only [bne_iff_ne, ne_eq]
  rintro rfl
  exact hn ⟨page, hm, hc⟩

theorem handle (hk : w.Kept) (hke : KeepsPages w (.handle request))
    (hv : w.handle request = some v) : v.Kept := by
  simp only [SyncWorld.handle] at hv
  split at hv
  · cases hv
  · next s b hf =>
    have hi := List.find?_some hf
    simp only [beq_iff_eq] at hi
    subst hi
    have hs := List.mem_of_find?_eq_some hf
    split at hv
    · next limit =>
      split at hv
      · cases hv
        exact hk.answer w.cursor hs (List.append_nil _).symm (by simp)
      · cases hv
        exact hk.answer _ hs rfl fun _ _ _ => hke limit hs
    · split at hv
      · cases hv
        exact hk.answer w.cursor hs (List.append_nil _).symm (by simp)
      · cases hv
        exact hk.answer _ hs (List.append_nil _).symm (by simp)

theorem recordReceipt {r : DeviceCursor} {io : Bool} (hk : w.Kept)
    (he : ∀ request, w.phase ≠ .awaitingPage request) :
    (w.recordReceipt r io).Kept := by
  simp only [SyncWorld.recordReceipt]
  split
  · exact hk.local_step rfl rfl rfl rfl rfl (.inr he)
  · split <;> exact hk.local_step rfl rfl rfl rfl rfl (.inr he)

/-- A page that arrives is the only one travelling, so nothing is left behind. -/
theorem arrive {page : DeviceEventPage} (hk : w.Kept) (hw : w.phase = .awaitingPage request)
    (hi : (request, Response.page page) ∈ w.responses) :
    Kept { w with
      responses := w.responses.filter fun s => s.1 != request
      phase := .settling page.events
      received := w.received ++ page.events.map (·.eventSequence) } := by
  have ho : ∀ o op, (o, Response.page op) ∈ w.responses →
      op.events ≠ [] → o = request ∧ op = page := by
    intro o op hm hc
    have ha := hk.awaited o ⟨op, hm, hc⟩
    rw [hw] at ha
    cases ha
    have hs := hk.response_unique _ hm _ hi rfl
    simp only [Prod.mk.injEq, Response.page.injEq, true_and] at hs
    exact ⟨rfl, hs⟩
  refine {
    request_fresh := hk.request_fresh
    response_fresh := fun s hm => hk.response_fresh s (List.mem_of_mem_filter hm)
    request_unique := hk.request_unique
    response_unique := fun a inA b inB =>
      hk.response_unique a (List.mem_of_mem_filter inA) b (List.mem_of_mem_filter inB)
    unanswered := fun a inA b inB => hk.unanswered a inA b (List.mem_of_mem_filter inB)
    awaited := ?_
    arrived := ?_ }
  · rintro o ⟨op, hm, hc⟩
    obtain ⟨hb, hd⟩ := List.mem_filter.mp hm
    obtain ⟨rfl, _⟩ := ho o op hb hc
    simp at hd
  · intro k his
    rcases hk.arrived k his with hr | ⟨o, op, hm, hon⟩
    · exact .inl (List.mem_append_left _ hr)
    · have hc : op.events ≠ [] := by
        rintro he
        simp [he] at hon
      obtain ⟨_, rfl⟩ := ho o op hm hc
      exact .inl (List.mem_append_right _ hon)

theorem deliver (hk : w.Kept) (hv : w.deliver request = some v) : v.Kept := by
  simp only [SyncWorld.deliver] at hv
  split at hv
  · cases hv
  · next s b hf =>
    have hi := List.find?_some hf
    simp only [beq_iff_eq] at hi
    subst hi
    have hin := List.mem_of_find?_eq_some hf
    have hn : (∀ page, b ≠ .page page) ∨ w.phase ≠ .awaitingPage s → ¬ w.PageInFlight s := by
      rintro (o | he) ⟨page, hm, hc⟩
      · have heq := hk.response_unique _ hm _ hin rfl
        exact o page (Prod.mk.inj heq).2.symm
      · exact he (hk.awaited s ⟨page, hm, hc⟩)
    split at hv
    · next a page hw =>
      split at hv
      · next ha =>
        cases hv
        simp only [beq_iff_eq] at ha
        subst ha
        exact hk.arrive hw hin
      · next hno =>
        cases hv
        refine hk.take (hn (.inr ?_))
        rw [hw]
        simpa using hno
    · next a io r hw =>
      have he : ∀ request, w.phase ≠ .awaitingPage request := by simp [hw]
      have ht := hk.take (hn (.inr (he s)))
      split at hv
      · cases hv
        exact ht.recordReceipt he
      · cases hv
        exact ht
    · next a hw hne =>
      have ht := hk.take (hn (.inl hne))
      split at hv
      · next ha =>
        cases hv
        simp only [beq_iff_eq] at ha
        subst ha
        refine { ht with awaited := ?_ }
        rintro o ⟨page, hm, hc⟩
        have haw := ht.awaited o ⟨page, hm, hc⟩
        rw [show w.phase = _ from hw] at haw
        cases haw
        exact absurd ⟨page, List.mem_of_mem_filter hm, hc⟩ (hn (.inl hne))
      · cases hv
        exact ht
    · next a io hw _ =>
      have he : ∀ request, w.phase ≠ .awaitingPage request := by simp [hw]
      have ht := hk.take (hn (.inr (he s)))
      split at hv
      · cases hv
        exact ht.local_step rfl rfl rfl rfl rfl (.inr he)
      · cases hv
        exact ht
    · next he _ _ _ =>
      cases hv
      exact hk.take (hn (.inr fun hw => he s hw))

theorem afterCall {s : Nat} {c : ApplierCall} {t : CyclePhase} (hk : w.Kept)
    (he : ∀ request, w.phase ≠ .awaitingPage request) :
    (w.afterCall s c t).Kept := by
  simp only [SyncWorld.afterCall]
  split
  · exact hk.local_step rfl rfl rfl rfl rfl (.inr he)
  · split <;> exact hk.local_step rfl rfl rfl rfl rfl (.inr he)

theorem step {a : SyncAction} (hk : w.Kept) (hke : KeepsPages w a)
    (hv : w.step a = some v) : v.Kept := by
  cases a with
  | commit row =>
    simp only [SyncWorld.step, SyncWorld.commit] at hv
    split at hv
    · cases hv
      exact hk.local_step rfl rfl rfl rfl rfl (.inl rfl)
    · cases hv
  | startCycle =>
    simp only [SyncWorld.step] at hv
    split at hv
    · next hp =>
      cases hv
      exact hk.local_step rfl rfl rfl rfl rfl (.inr (by simp [hp]))
    · cases hv
  | applierCall c =>
    simp only [SyncWorld.step, SyncWorld.applierCall] at hv
    split at hv
    · next hp =>
      cases hv
      exact hk.afterCall (by simp [hp])
    · next hp =>
      cases hv
      exact hk.afterCall (by simp [hp])
    · cases hv
  | recoveryDone =>
    simp only [SyncWorld.step] at hv
    split at hv
    · next hp =>
      cases hv
      exact hk.local_step rfl rfl rfl rfl rfl (.inr (by simp [hp]))
    · cases hv
  | sendAcknowledgement =>
    simp only [SyncWorld.step, SyncWorld.sendAcknowledgement] at hv
    split at hv
    · next hp =>
      split at hv
      · cases hv
        exact hk.local_step rfl rfl rfl rfl rfl (.inr (by simp [hp]))
      · cases hv
        exact hk.send (by simp [hp])
    · cases hv
  | sendPull limit =>
    simp only [SyncWorld.step, SyncWorld.sendPull] at hv
    split at hv
    · next hp =>
      split at hv
      · cases hv
        exact hk.send (by simp [hp])
      · cases hv
    · cases hv
  | settleNext isS =>
    simp only [SyncWorld.step, SyncWorld.settleNext] at hv
    split at hv
    · next hp =>
      cases hv
      exact hk.local_step rfl rfl rfl rfl rfl (.inr (by simp [hp]))
    · next hp =>
      have he : ∀ request, w.phase ≠ .awaitingPage request := by simp [hp]
      split at hv
      · cases hv
        exact hk.local_step rfl rfl rfl rfl rfl (.inr he)
      split at hv
      · cases hv
        exact hk.afterCall he
      split at hv
      · cases hv
        exact hk.local_step rfl rfl rfl rfl rfl (.inr he)
      · cases hv
        exact hk.local_step rfl rfl rfl rfl rfl (.inr he)
    · cases hv
  | handle request => exact hk.handle hke hv
  | deliver request => exact hk.deliver hv
  | loseRequest request =>
    cases hv
    exact hk.drop (fun _ hm => List.mem_of_mem_filter hm) (fun _ hm => hm) fun _ _ hm _ => hm
  | loseResponse request =>
    cases hv
    exact hk.take hke
  | stop =>
    cases hv
    refine { hk with awaited := ?_ }
    exact fun request hi => absurd hi (hke request)

end SyncWorld.Kept

theorem SyncWorld.Settled.kept (hs : w.Settled) : w.Kept where
  request_fresh := by simp [hs.requests]
  response_fresh := by simp [hs.responses]
  request_unique := by simp [hs.requests]
  response_unique := by simp [hs.responses]
  unanswered := by simp [hs.requests]
  awaited := by simp [PageInFlight, hs.responses]
  arrived := by simp [hs.issued]

/-- Along runs that lose no page, every page has arrived whenever the server handles the
next pull. -/
theorem allPagesArrived_of_kept {request limit : Nat}
    (run : syncMachine.GuardedReachable KeepsPages w)
    (hs : (request, Request.pull limit) ∈ w.requests) (hk : KeepsPages w (.handle request)) :
    w.AllPagesArrived := by
  have hke : w.Kept := run.invariant (fun _ => SyncWorld.Settled.kept)
    fun _ _ _ hke hk hv => SyncWorld.Kept.step hke hk hv
  refine hke.allPagesArrived ?_
  rintro o ⟨page, hm, hc⟩
  have ha := hke.awaited o ⟨page, hm, hc⟩
  rw [hk limit hs] at ha
  cases ha
  exact hke.unanswered _ hs _ hm rfl

/-- In every reachable state the acknowledged events have been terminalized, and a pull
that returns events starts right after what the plugin has received exactly when every
earlier page arrived (right after what it has terminalized, exactly when it applied all
of them); along runs that lose no page, every pull does the former. -/
theorem no_event_lost_iff_pages_arrive (w : SyncWorld) :
    (syncMachine.Reachable w → w.AcknowledgedTerminalized ∧
      ∀ limit page cursor, pullOnce w.rows w.cursor w.floor limit = .ok (page, cursor) →
        page.events ≠ [] → (¬ w.Skips page ↔ w.AllPagesArrived) ∧
          (¬ w.Jumps page ↔ ∀ k ∈ w.issued, k ≤ w.applied)) ∧
    (syncMachine.GuardedReachable KeepsPages w →
      ∀ request limit, (request, Request.pull limit) ∈ w.requests →
        KeepsPages w (.handle request) → w.PullsContiguously) := by
  constructor
  · intro hr
    have hso := syncMachine_sound hr
    exact ⟨hso.acknowledgedTerminalized, fun _ _ _ hs hc =>
      ⟨hso.skips_iff hs hc, hso.jumps_iff hs hc⟩⟩
  · intro run request limit hse hk pl page cursor hs hc
    have hso := syncMachine_sound run.reachable
    exact (hso.skips_iff hs hc).mpr (allPagesArrived_of_kept run hse hk)

/-! ## The lost page -/

/-- An event of the concrete runs below. -/
def sampleRow (sequence : Nat) : EventRow where
  eventSequence := sequence
  isDeliverable := true
  hydrated := .ok ⟨sequence, sequence, .created, sequence, none, none, some sequence, none,
    some ⟨"ab", 2, "text/plain"⟩, none, some "notes/a.md", none⟩
  copiesSequence := fun _ same => by cases same; rfl

def freshWorld : SyncWorld :=
  ⟨0, [], none, 0, [], [], 0, ⟨⟨0, 0, 0, none, none, none⟩, [], []⟩, .idle, [], [], []⟩

theorem freshWorld_settled : freshWorld.Settled :=
  ⟨.nil, by simp [freshWorld], by simp [freshWorld], rfl, rfl, rfl, rfl, rfl, rfl, rfl, rfl,
    rfl, rfl⟩

/-- One cycle up to the request for a page. -/
def cycleToPull : List SyncAction :=
  [.startCycle, .recoveryDone, .sendAcknowledgement, .sendPull 200]

/-- The first page arrives before the cycle stops; the next cycle asks again. -/
def arrivedPageScript : List SyncAction :=
  [.commit (sampleRow 1)] ++ cycleToPull ++ [.handle 0, .deliver 0, .stop,
    .commit (sampleRow 2)] ++ cycleToPull

/-- The first page is handled and its response lost; the next cycle asks again. -/
def lostPageScript : List SyncAction :=
  [.commit (sampleRow 1)] ++ cycleToPull ++ [.handle 0, .loseResponse 0, .stop,
    .commit (sampleRow 2)] ++ cycleToPull

/-- The calls to which a page with events still travels. -/
def SyncWorld.pagesInFlight (w : SyncWorld) : List Nat :=
  w.responses.filterMap fun sent =>
    match sent.2 with
    | .page page => if page.events.isEmpty then none else some sent.1
    | _ => none

theorem SyncWorld.mem_pagesInFlight {w : SyncWorld} {request : Nat} (hp : w.PageInFlight request) :
    request ∈ w.pagesInFlight := by
  obtain ⟨page, hm, hc⟩ := hp
  exact List.mem_filterMap.mpr ⟨_, hm, by simp [hc]⟩

/-- Whether a step loses no page. -/
def checksPages (w : SyncWorld) : SyncAction → Bool
  | .loseResponse request => !w.pagesInFlight.contains request
  | .stop => w.pagesInFlight.isEmpty
  | .handle request => w.phase = .awaitingPage request
  | _ => true

theorem keepsPages_of_checks (w : SyncWorld) (a : SyncAction) (hc : checksPages w a = true) :
    KeepsPages w a := by
  cases a with
  | loseResponse request =>
    intro hp
    simp [checksPages, SyncWorld.mem_pagesInFlight hp] at hc
  | stop =>
    intro request hp
    have hm := SyncWorld.mem_pagesInFlight hp
    rw [List.isEmpty_iff.mp hc] at hm
    cases hm
  | handle request => exact fun _ _ => of_decide_eq_true hc
  | _ => trivial

theorem arrived_page_is_contiguous :
    ∃ w page cursor, syncMachine.run freshWorld arrivedPageScript = some w ∧
      pullOnce w.rows w.cursor w.floor 200 = .ok (page, cursor) ∧ page.events ≠ [] ∧
      w.AcknowledgedTerminalized ∧ ¬ w.Skips page ∧ w.PullsContiguously := by
  obtain ⟨w, ran⟩ : ∃ w, syncMachine.run freshWorld arrivedPageScript = some w := ⟨_, rfl⟩
  have run := Machine.guardedReachable_of_run keepsPages_of_checks freshWorld_settled ran
    (by decide +kernel)
  obtain ⟨hall, hk⟩ := no_event_lost_iff_pages_arrive w
  obtain ⟨ht, hp⟩ := hall run.reachable
  cases ran
  exact ⟨_, _, _, rfl, rfl, by decide, ht, (hp 200 _ _ rfl (by decide)).1.mpr fun _ hi => hi,
    hk run 1 200 (List.mem_of_mem_getLast? rfl) fun _ _ => rfl⟩

theorem lost_page_is_skipped :
    ¬ ∀ w, syncMachine.Reachable w → w.AcknowledgedTerminalized ∧ w.PullsContiguously := by
  intro hcl
  obtain ⟨w, ran⟩ : ∃ w, syncMachine.run freshWorld lostPageScript = some w := ⟨_, rfl⟩
  have hc := (hcl w (Machine.reachable_of_run freshWorld_settled ran)).2
  cases ran
  refine hc 200 _ _ rfl (by decide) ⟨_, rfl, sampleRow 1, ?_, rfl, ?_, ?_, ?_⟩
  · exact List.mem_cons_self
  · decide
  · decide
  · decide

end PersonalOs.DeviceSync
