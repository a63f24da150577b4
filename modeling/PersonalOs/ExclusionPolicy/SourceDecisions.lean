import PersonalOs.ExclusionPolicy.Evaluation
import PersonalOs.SourceStore.Publication

/-!
# One policy, several subjects

The boundaries that ask the evaluator about one source build its subject from what each of them
holds. Preview and reconciliation read the source type and the current content but no locator;
the small-file preflight knows the locator and the declared content but no source type; the
rechecks of a bound publication have the content, the source type and, for a create at the final
recheck only, the locator.
-/

namespace PersonalOs.ExclusionPolicy

open Json
open SourceStore (Db Source SourceVersion ContentObject SourceLocator SourceVersionCommand
  authoritativeSubject)

/-! ## Preview and reconciliation -/

inductive PolicyRunError
  | policy (error : ExclusionPolicyError)
  | internalError
  | concurrencyInvariantFailed
deriving DecidableEq

/-- A row of `reconciliation_batch_select_statement`. -/
structure SourceScanRow where
  sourceId : Uuid
  sourceType : String
  currentVersionId : Option Uuid
  mediaType : Option String
  byteSize : Option Nat
  subjectEventSequence : Option Nat
deriving DecidableEq

/-- The outer joins of the page select: the current version and its content object. -/
def sourceScanRow (db : Db) (s : Source) : SourceScanRow :=
  let version := s.currentVersionId.bind fun current =>
    db.versions.find? fun v => v.sourceVersionId = current
  let object := version.bind fun v => db.object v.contentObjectId
  let events := db.events.filter fun e => e.workspaceId = s.workspaceId ∧ e.sourceId = s.sourceId
  { sourceId := s.sourceId
    sourceType := s.sourceType
    currentVersionId := s.currentVersionId
    mediaType := object.map ContentObject.mediaType
    byteSize := object.map ContentObject.byteSize
    subjectEventSequence := (events.map (·.eventSequence)).max? }

/-- `preview_subject_for_row`: no locator; a media type that does not parse is absent. -/
def previewSubjectForRow (workspaceId : Uuid) (row : SourceScanRow) :
    Except PolicyRunError PolicySubject :=
  match SourceType.parse row.sourceType with
  | none => .error .internalError
  | some sourceType => .ok {
      workspaceId
      sourceId := some row.sourceId
      normalizedLocator := none
      sourceType := some sourceType
      mediaType := row.mediaType.bind fun text => CanonicalMediaType.parse text.toList
      sizeBytes := row.byteSize }

/-- `PolicyEvaluation`: what a batch records for a source. -/
structure PolicyEvaluation where
  policyRevisionId : Uuid
  sourceId : Uuid
  subjectEventSequence : Nat
  rawDecision : RawPolicyDecision
  enforcedDecision : EnforcedPolicyDecision
deriving DecidableEq

section Boundaries

variable (nfc : Text → Text)

def evaluateSubject (revision : ExclusionPolicyRevision) (subject : PolicySubject) :
    Except PolicyRunError PolicyEvaluationOutcome :=
  (evaluatePolicy nfc revision subject).mapError .policy

/-- `_evaluate_page` on one row; a source without a canonical event is passed over. -/
def evaluateRow (revision : ExclusionPolicyRevision) (workspaceId : Uuid) (row : SourceScanRow) :
    Except PolicyRunError (Option PolicyEvaluation) :=
  match row.subjectEventSequence with
  | none => .ok none
  | some sequence => do
    let subject ← previewSubjectForRow workspaceId row
    let outcome ← evaluateSubject nfc revision subject
    return some ⟨revision.policyRevisionId, row.sourceId, sequence, outcome.raw, outcome.enforced⟩

inductive PreviewImpactClass
  | newlyExcluded | stillExcluded | newlyAllowed | stillAllowed | indeterminate
deriving DecidableEq

def classifyPreviewImpact (previousEnforced : EnforcedPolicyDecision)
    (proposedRaw : RawPolicyDecision) (proposedEnforced : EnforcedPolicyDecision) :
    PreviewImpactClass :=
  if proposedRaw = .indeterminate then .indeterminate
  else match previousEnforced, proposedEnforced with
    | .allowed, .excluded => .newlyExcluded
    | .allowed, .allowed => .stillAllowed
    | .excluded, .allowed => .newlyAllowed
    | .excluded, .excluded => .stillExcluded

structure PreviewSubjectOutcome where
  previousRaw : RawPolicyDecision
  previousEnforced : EnforcedPolicyDecision
  proposedRaw : RawPolicyDecision
  proposedEnforced : EnforcedPolicyDecision
  impactClass : PreviewImpactClass
  matchedRuleIds : List Uuid
  missingFields : List PolicySubjectField
deriving DecidableEq

/-- Without a previous revision everything was denied. -/
def previousDecision (previousRevision : Option ExclusionPolicyRevision)
    (subject : PolicySubject) :
    Except PolicyRunError (RawPolicyDecision × EnforcedPolicyDecision) :=
  match previousRevision with
  | none => .ok (.indeterminate, .excluded)
  | some previousRevision =>
    (evaluateSubject nfc previousRevision subject).map fun previous =>
      (previous.raw, previous.enforced)

def evaluatePreviewSubject (previousRevision : Option ExclusionPolicyRevision)
    (proposedRevision : ExclusionPolicyRevision) (subject : PolicySubject) :
    Except PolicyRunError PreviewSubjectOutcome := do
  let proposed ← evaluateSubject nfc proposedRevision subject
  let previous ← previousDecision nfc previousRevision subject
  return {
    previousRaw := previous.1
    previousEnforced := previous.2
    proposedRaw := proposed.raw
    proposedEnforced := proposed.enforced
    impactClass := classifyPreviewImpact previous.2 proposed.raw proposed.enforced
    matchedRuleIds := proposed.matchedRuleIds
    missingFields := proposed.missingFields }

def previewRow (previousRevision : Option ExclusionPolicyRevision)
    (proposedRevision : ExclusionPolicyRevision) (workspaceId : Uuid) (row : SourceScanRow) :
    Except PolicyRunError PreviewSubjectOutcome := do
  let subject ← previewSubjectForRow workspaceId row
  evaluatePreviewSubject nfc previousRevision proposedRevision subject

/-! ## Devices and publications -/

/-- The decision evidence of one guarded operation, without its subject fingerprint and its
instant. -/
structure PolicyDecision where
  workspaceId : Uuid
  policyRevisionId : Uuid
  revisionNumber : Nat
  outcome : PolicyEvaluationOutcome
deriving DecidableEq

structure AllowedPolicyRevisionBinding where
  workspaceId : Uuid
  policyRevisionNumber : Nat
deriving DecidableEq

inductive PublicationPolicyEvidence
  | decision (decision : PolicyDecision)
  | binding (binding : AllowedPolicyRevisionBinding)
deriving DecidableEq

/-- `evaluate_policy_decision`, then `enforce_policy_decision`. -/
def enforceRevision (revision : ExclusionPolicyRevision) (subject : PolicySubject) :
    Except ExclusionPolicyError PolicyDecision := do
  let outcome ← evaluatePolicy nfc revision subject
  match outcome.raw with
  | .excluded => throw (.denied revision.revisionNumber)
  | .indeterminate => throw .indeterminate
  | .allowed =>
    return ⟨revision.workspaceId, revision.policyRevisionId, revision.revisionNumber, outcome⟩

/-- `authorize_preflight`, with the active snapshot loaded and verified. -/
def authorizePreflight (active : Except ExclusionPolicyError ExclusionPolicyRevision)
    (subject : PolicySubject) : Except ExclusionPolicyError PolicyDecision := do
  let revision ← active
  enforceRevision nfc revision subject

/-- What the guard reads of a preflight. -/
structure SmallFilePreflight where
  sourceId : Option Uuid
  normalizedLocator : Text
  mediaType : CanonicalMediaType
  sizeBytes : Nat

/-- The subject of `authorize_small_file`: no source type. -/
def smallFileSubject (workspaceId : Uuid) (preflight : SmallFilePreflight) : PolicySubject where
  workspaceId := workspaceId
  sourceId := preflight.sourceId
  normalizedLocator := some preflight.normalizedLocator
  sourceType := none
  mediaType := some preflight.mediaType
  sizeBytes := some preflight.sizeBytes

def authorizeSmallFile (active : Except ExclusionPolicyError ExclusionPolicyRevision)
    (workspaceId : Uuid) (preflight : SmallFilePreflight) :
    Except ExclusionPolicyError AllowedPolicyRevisionBinding := do
  let decision ← authorizePreflight nfc active (smallFileSubject workspaceId preflight)
  return ⟨decision.workspaceId, decision.revisionNumber⟩

/-- A subject of the stores with its texts read as the values the commands hold. -/
def typedSubject (subject : SourceStore.PolicySubject) : Except PolicyRunError PolicySubject :=
  match CanonicalMediaType.parse subject.mediaType.toList,
      subject.sourceType.map SourceType.parse with
  | some mediaType, none =>
    .ok ⟨subject.workspaceId, some subject.sourceId,
      subject.normalizedLocator.map String.toList, none, some mediaType, some subject.sizeBytes⟩
  | some mediaType, some (some sourceType) =>
    .ok ⟨subject.workspaceId, some subject.sourceId,
      subject.normalizedLocator.map String.toList, some sourceType, some mediaType,
      some subject.sizeBytes⟩
  | _, _ => .error .internalError

/-- `_publication_subject`: like the final recheck's, but never with a locator. -/
def publicationSubject (db : Db) (command : SourceVersionCommand) :
    SourceStore.PolicySubject where
  workspaceId := command.workspaceId
  sourceId := command.sourceId
  normalizedLocator := none
  sourceType := match command with
    | .create c => some c.sourceType
    | .update c => (db.sourceInWorkspace c.workspaceId c.sourceId).map Source.sourceType
  mediaType := command.receipt.mediaType
  sizeBytes := command.receipt.sizeBytes

/-- The evaluation behind both rechecks of a publication. -/
def evaluatePublication (revision : ExclusionPolicyRevision) (subject : SourceStore.PolicySubject) :
    Except PolicyRunError PublicationPolicyEvidence := do
  let subject ← typedSubject subject
  let decision ← (enforceRevision nfc revision subject).mapError .policy
  return .decision decision

def authorizeBoundPublication (active : Except ExclusionPolicyError ExclusionPolicyRevision)
    (db : Db) (command : SourceVersionCommand) (binding : AllowedPolicyRevisionBinding) :
    Except PolicyRunError PublicationPolicyEvidence := do
  if binding.workspaceId ≠ command.workspaceId then throw .concurrencyInvariantFailed
  let revision ← active.mapError .policy
  if revision.revisionNumber = binding.policyRevisionNumber then return .binding binding
  evaluatePublication nfc revision (publicationSubject db command)

def authorizeLockedPublicationPolicy
    (active : Except ExclusionPolicyError ExclusionPolicyRevision)
    (db : Db) (command : SourceVersionCommand)
    (policyEvidence : Option PublicationPolicyEvidence) :
    Except PolicyRunError PublicationPolicyEvidence := do
  let revision ← active.mapError .policy
  if let some (.binding binding) := policyEvidence then
    if binding.workspaceId ≠ command.workspaceId then throw .concurrencyInvariantFailed
    if revision.revisionNumber = binding.policyRevisionNumber then return .binding binding
  evaluatePublication nfc revision (authoritativeSubject db command)

/-- The decision a preflight gets, where it gets one. -/
def smallFileDecision (active : Except ExclusionPolicyError ExclusionPolicyRevision)
    (workspaceId : Uuid) (preflight : SmallFilePreflight) : Option EnforcedPolicyDecision :=
  match authorizeSmallFile nfc active workspaceId preflight with
  | .ok _ => some .allowed
  | .error (.denied _) | .error .indeterminate => some .excluded
  | .error _ => none

end Boundaries

/-! ## Evidence -/

def RuleOperand.AsksLocator : RuleOperand → Prop
  | .folderPrefix _ | .pathGlob _ | .extension _ => True
  | _ => False

def RuleOperand.AsksSourceType : RuleOperand → Prop
  | .sourceType _ => True
  | _ => False

def ExclusionPolicyRevision.HasPathRule (revision : ExclusionPolicyRevision) : Prop :=
  ∃ rule ∈ revision.rules, rule.operand.AsksLocator

def ExclusionPolicyRevision.HasSourceTypeRule (revision : ExclusionPolicyRevision) : Prop :=
  ∃ rule ∈ revision.rules, rule.operand.AsksSourceType

/-- Everything that is known about a source, of which each boundary sees a part. -/
structure SourceEvidence where
  workspaceId : Uuid
  sourceId : Uuid
  normalizedLocator : Text
  sourceType : SourceType
  mediaType : CanonicalMediaType
  sizeBytes : Nat

def SourceEvidence.subject (e : SourceEvidence) : PolicySubject where
  workspaceId := e.workspaceId
  sourceId := some e.sourceId
  normalizedLocator := some e.normalizedLocator
  sourceType := some e.sourceType
  mediaType := some e.mediaType
  sizeBytes := some e.sizeBytes

/-- The subject without its locator. -/
def SourceEvidence.unlocated (e : SourceEvidence) : PolicySubject :=
  { e.subject with normalizedLocator := none }

def SourceEvidence.untyped (e : SourceEvidence) : PolicySubject :=
  { e.subject with sourceType := none }

def ExclusionPolicyRevision.Spares (revision : ExclusionPolicyRevision) (e : SourceEvidence) :
    Prop :=
  ∀ rule ∈ revision.rules, ruleMatches rule.operand e.subject = some false

section Subjects

variable {nfc : Text → Text} {revision : ExclusionPolicyRevision} {e : SourceEvidence}
  {outcome : PolicyEvaluationOutcome}

theorem ruleMatches_unlocated (o : RuleOperand) :
    (o.AsksLocator → ruleMatches o e.unlocated = none) ∧
      (¬ o.AsksLocator → ruleMatches o e.unlocated = ruleMatches o e.subject) := by
  rcases o with _ | _ | _ | _ | (_ | _) | _ | _ <;> refine ⟨fun has => ?_, fun ha => ?_⟩ <;>
    first | rfl | exact has.elim | exact (ha trivial).elim

theorem ruleMatches_untyped (o : RuleOperand) :
    (o.AsksSourceType → ruleMatches o e.untyped = none) ∧ (¬ o.AsksSourceType →
        ruleMatches o e.untyped = ruleMatches o e.subject) := by
  rcases o with _ | _ | _ | _ | (_ | _) | _ | _ <;> refine ⟨fun has => ?_, fun ha => ?_⟩ <;>
    first | rfl | exact has.elim | exact (ha trivial).elim

/-- A subject that lacks the evidence of some rules and agrees on the others. -/
theorem spares_and_lacks {su : PolicySubject} {a : RuleOperand → Prop}
    (hb : ∀ o, (a o → ruleMatches o su = none) ∧
      (¬ a o → ruleMatches o su = ruleMatches o e.subject)) :
    (∀ r ∈ revision.rules, ruleMatches r.operand su = some false) ↔
      revision.Spares e ∧ ¬ ∃ r ∈ revision.rules, a r.operand := by
  constructor
  · intro hal
    have ha (r : ExclusionRule) (hm : r ∈ revision.rules) : ¬ a r.operand := fun has =>
      nomatch (hal r hm).symm.trans ((hb r.operand).1 has)
    refine ⟨fun r hm => ?_, fun ⟨r, hm, has⟩ => ha r hm has⟩
    exact ((hb r.operand).2 (ha r hm)).symm.trans (hal r hm)
  · rintro ⟨hs, ha⟩ r hm
    rw [(hb r.operand).2 fun has => ha ⟨r, hm, has⟩]
    exact hs r hm

theorem subject_allowed_iff (hr : evaluatePolicy nfc revision e.subject = .ok outcome) :
    outcome.enforced = .allowed ↔ revision.Spares e :=
  evaluatePolicy_allowed hr

theorem unlocated_allowed_iff (hr : evaluatePolicy nfc revision e.unlocated = .ok outcome) :
    outcome.enforced = .allowed ↔ revision.Spares e ∧ ¬ revision.HasPathRule :=
  (evaluatePolicy_allowed hr).trans (spares_and_lacks ruleMatches_unlocated)

theorem untyped_allowed_iff (hr : evaluatePolicy nfc revision e.untyped = .ok outcome) :
    outcome.enforced = .allowed ↔ revision.Spares e ∧ ¬ revision.HasSourceTypeRule :=
  (evaluatePolicy_allowed hr).trans (spares_and_lacks ruleMatches_untyped)

/-- A subject the revision's rules would spare with its locator is left open, not denied. -/
theorem unlocated_indeterminate (reached : evaluatePolicy nfc revision e.unlocated = .ok outcome)
    (spares : revision.Spares e) (path : revision.HasPathRule) :
    outcome.raw = .indeterminate := by
  obtain ⟨excluded, allowed⟩ := evaluatePolicy_raw reached
  match raw : outcome.raw with
  | .indeterminate => rfl
  | .allowed =>
    have := (unlocated_allowed_iff reached).mp ((evaluatePolicy_enforced reached).mpr raw)
    exact absurd path this.2
  | .excluded =>
    obtain ⟨rule, member, matches_⟩ := excluded.mp raw
    by_cases asked : rule.operand.AsksLocator
    · exact nomatch ((ruleMatches_unlocated rule.operand).1 asked).symm.trans matches_
    · rw [(ruleMatches_unlocated rule.operand).2 asked, spares rule member] at matches_
      exact nomatch matches_

/-! ## Decisions -/

theorem evaluateSubject_ok {su : PolicySubject} : evaluateSubject nfc revision su = .ok outcome ↔
      evaluatePolicy nfc revision su = .ok outcome := by
  unfold evaluateSubject
  cases evaluatePolicy nfc revision su <;> simp [Except.mapError]

theorem enforceRevision_ok {su : PolicySubject}
    (hr : evaluatePolicy nfc revision su = .ok outcome) :
    enforceRevision nfc revision su = match outcome.raw with
      | .excluded => .error (.denied revision.revisionNumber)
      | .indeterminate => .error .indeterminate
      | .allowed => .ok
        ⟨revision.workspaceId, revision.policyRevisionId, revision.revisionNumber, outcome⟩ := by
  rw [enforceRevision, hr]
  rfl

theorem smallFileDecision_some {wi : Uuid} {p : SmallFilePreflight}
    {d : EnforcedPolicyDecision}
    (hd : smallFileDecision nfc (.ok revision) wi p = some d) :
    ∃ outcome, evaluatePolicy nfc revision (smallFileSubject wi p) = .ok outcome ∧
      outcome.enforced = d := by
  cases hr : evaluatePolicy nfc revision (smallFileSubject wi p) with
  | error e =>
    obtain ⟨r, rfl⟩ := evaluatePolicy_error hr
    simp [smallFileDecision, authorizeSmallFile, authorizePreflight, enforceRevision, hr,
      bind, Except.bind] at hd
  | ok outcome =>
    refine ⟨outcome, rfl, ?_⟩
    have he := evaluatePolicy_enforced hr
    simp only [smallFileDecision, authorizeSmallFile, authorizePreflight, bind, Except.bind,
      enforceRevision_ok hr] at hd
    match raw : outcome.raw with
    | .allowed =>
      simp only [raw] at hd
      cases hd
      exact he.mpr raw
    | .excluded | .indeterminate =>
      simp only [raw] at hd
      cases hd
      cases ha : outcome.enforced with
      | excluded => rfl
      | allowed => exact nomatch raw.symm.trans (he.mp ha)

theorem validate_unlocated (he : e.workspaceId = revision.workspaceId) (hn : e.sourceId ≠ 0) :
    validateSubject nfc revision e.unlocated = .ok () := by
  simp [validateSubject, SourceEvidence.unlocated, SourceEvidence.subject, he, hn]

theorem unlocated_decided (he : e.workspaceId = revision.workspaceId) (hn : e.sourceId ≠ 0) :
    ∃ outcome, evaluatePolicy nfc revision e.unlocated = .ok outcome :=
  evaluatePolicy_of_valid (validate_unlocated he hn)

theorem validate_subject {su : PolicySubject} (ha : validateSubject nfc revision su = .ok ())
    (hl : su.normalizedLocator = some e.normalizedLocator)
    (he : e.workspaceId = revision.workspaceId) (hn : e.sourceId ≠ 0) :
    validateSubject nfc revision e.subject = .ok () := by
  unfold validateSubject at ha ⊢
  split at ha
  · exact nomatch ha
  split at ha
  · exact nomatch ha
  rw [hl] at ha
  rw [if_neg (by simp [SourceEvidence.subject, he]), if_neg (by simp [SourceEvidence.subject, hn])]
  exact ha

end Subjects

/-! ## One source -/

/-- What is known about a source that a device may send an update of: it is not deleted, has an
open locator, a current version and an event. -/
structure Editable (db : Db) (s : Source) (e : SourceEvidence) : Prop where
  notDeleted : s.syncState ≠ .deleted
  workspace : e.workspaceId = s.workspaceId
  source : e.sourceId = s.sourceId
  named : s.sourceId ≠ 0
  typed : SourceType.parse s.sourceType = some e.sourceType
  located : ∃ l, db.openLocator s.sourceId = some l ∧
    l.normalizedLocator.toList = e.normalizedLocator
  current : ∃ v o, s.currentVersionId = some v.sourceVersionId ∧
    (db.versions.find? fun x => x.sourceVersionId = v.sourceVersionId) = some v ∧
    db.object v.contentObjectId = some o ∧
    CanonicalMediaType.parse o.mediaType.toList = some e.mediaType ∧ o.byteSize = e.sizeBytes
  recorded : ∃ event ∈ db.events, event.workspaceId = s.workspaceId ∧ event.sourceId = s.sourceId

/-- An update of the source at its locator with the same content. -/
def SourceEvidence.updatePreflight (e : SourceEvidence) : SmallFilePreflight :=
  ⟨some e.sourceId, e.normalizedLocator, e.mediaType, e.sizeBytes⟩

section OneSource

variable {nfc : Text → Text} {revision : ExclusionPolicyRevision} {e : SourceEvidence}
  {db : Db} {s : Source}

theorem previewSubject_of_editable (he : Editable db s e) :
    previewSubjectForRow s.workspaceId (sourceScanRow db s) = .ok e.unlocated := by
  obtain ⟨v, o, hc, hv, ho, hm, hs⟩ := he.current
  simp [previewSubjectForRow, sourceScanRow, he.typed, hc, hv, ho, hm, hs,
    SourceEvidence.unlocated, SourceEvidence.subject, he.workspace, he.source]

theorem sequence_of_editable (he : Editable db s e) :
    ∃ se, (sourceScanRow db s).subjectEventSequence = some se := by
  obtain ⟨ev, hm, hw, hs⟩ := he.recorded
  refine Option.ne_none_iff_exists'.mp fun hn => ?_
  simp only [sourceScanRow, List.max?_eq_none_iff, List.map_eq_nil_iff,
    List.filter_eq_nil_iff] at hn
  exact hn ev hm (by simp [hw, hs])

/-- Reconciliation and preview record the decision on the subject without its locator. -/
theorem recorded_decision (nfc : Text → Text) (he : Editable db s e)
    (hsa : s.workspaceId = revision.workspaceId) :
    ∃ outcome re, evaluatePolicy nfc revision e.unlocated = .ok outcome ∧
      evaluateRow nfc revision s.workspaceId (sourceScanRow db s) = .ok (some re) ∧
      re.enforcedDecision = outcome.enforced ∧
      (∀ pr r, previewRow nfc (some revision) pr s.workspaceId
        (sourceScanRow db s) = .ok r → r.previousEnforced = outcome.enforced) ∧
      ∀ p r, previewRow nfc p revision s.workspaceId (sourceScanRow db s) =
        .ok r → r.proposedEnforced = outcome.enforced := by
  have hna : e.sourceId ≠ 0 := he.source ▸ he.named
  obtain ⟨outcome, hr⟩ : ∃ outcome, evaluatePolicy nfc revision e.unlocated = .ok outcome :=
    unlocated_decided (he.workspace.trans hsa) hna
  have hd := evaluateSubject_ok.mpr hr
  obtain ⟨se, hn⟩ := sequence_of_editable he
  have hsu := previewSubject_of_editable he
  refine ⟨outcome, ⟨revision.policyRevisionId, (sourceScanRow db s).sourceId, se,
    outcome.raw, outcome.enforced⟩, hr, ?_, rfl, ?_, ?_⟩
  · simp [evaluateRow, hn, hsu, hd, bind, Except.bind, pure, Except.pure]
  · intro pr r ran
    obtain ⟨_, hs, ran⟩ := bind_ok ran
    cases hsu.symm.trans hs
    obtain ⟨_, _, ran⟩ := bind_ok ran
    obtain ⟨p, hof, ran⟩ := bind_ok ran
    obtain ⟨_, ho, rfl⟩ := map_ok hof
    cases hd.symm.trans ho
    cases ran
    rfl
  · intro p r ran
    obtain ⟨_, hs, ran⟩ := bind_ok ran
    cases hsu.symm.trans hs
    obtain ⟨_, ho, ran⟩ := bind_ok ran
    cases hd.symm.trans ho
    obtain ⟨_, _, ran⟩ := bind_ok ran
    cases ran
    rfl

/-- Where a device gets a decision on an update, it is the one on the subject without its source
type. -/
theorem device_decision {d : EnforcedPolicyDecision}
    (hd : smallFileDecision nfc (.ok revision) e.workspaceId e.updatePreflight = some d) :
    d = .allowed ↔ revision.Spares e ∧ ¬ revision.HasSourceTypeRule := by
  obtain ⟨outcome, hr, rfl⟩ := smallFileDecision_some hd
  exact untyped_allowed_iff hr

theorem decision_eq_iff (x y : EnforcedPolicyDecision) : x = y ↔ (x = .allowed ↔ y = .allowed) := by
  cases x <;> cases y <;> decide

end OneSource

/-! ## One publication -/

/-- The command publishes this content of this source, whose type it declares or the stored row
has. -/
structure PublicationOf (db : Db) (command : SourceVersionCommand) (e : SourceEvidence) :
    Prop where
  workspace : command.workspaceId = e.workspaceId
  source : command.sourceId = e.sourceId
  named : e.sourceId ≠ 0
  media : CanonicalMediaType.parse command.receipt.mediaType.toList = some e.mediaType
  size : command.receipt.sizeBytes = e.sizeBytes
  typed : match command with
    | .create c => SourceType.parse c.sourceType = some e.sourceType ∧
      ∀ locator ∈ c.initialLocator, locator.toList = e.normalizedLocator
    | .update c => ∃ s, db.sourceInWorkspace c.workspaceId c.sourceId = some s ∧
      SourceType.parse s.sourceType = some e.sourceType

/-- A create bound to its initial locator. -/
def CarriesLocator : SourceVersionCommand → Prop
  | .create c => c.initialLocator ≠ none
  | .update _ => False

/-- The preflight the publication was accepted at; only an update names its source. -/
def preflightOf (command : SourceVersionCommand) (e : SourceEvidence) : SmallFilePreflight where
  sourceId := match command with
    | .create _ => none
    | .update _ => some e.sourceId
  normalizedLocator := e.normalizedLocator
  mediaType := e.mediaType
  sizeBytes := e.sizeBytes

section OnePublication

variable {nfc : Text → Text} {revision : ExclusionPolicyRevision} {e : SourceEvidence}
  {db : Db} {command : SourceVersionCommand}

theorem typed_publicationSubject (hp : PublicationOf db command e) :
    typedSubject (publicationSubject db command) = .ok e.unlocated := by
  have ht := hp.typed
  cases command with
  | create c =>
    simp [typedSubject, publicationSubject, hp.media, hp.size, ht.1,
      hp.workspace, hp.source, SourceEvidence.unlocated, SourceEvidence.subject]
  | update c =>
    obtain ⟨s, hs, ht⟩ := ht
    simp [typedSubject, publicationSubject, hp.media, hp.size, hs, ht,
      hp.workspace, hp.source, SourceEvidence.unlocated, SourceEvidence.subject]

theorem typed_authoritativeSubject (hp : PublicationOf db command e) :
    (CarriesLocator command → typedSubject (authoritativeSubject db command) = .ok e.subject) ∧
      (¬ CarriesLocator command →
        typedSubject (authoritativeSubject db command) = .ok e.unlocated) := by
  have ht := hp.typed
  cases command with
  | create c =>
    cases hb : c.initialLocator with
    | none =>
      simp [CarriesLocator, hb, typedSubject, authoritativeSubject, hp.media,
        hp.size, ht.1, hp.workspace, hp.source, SourceEvidence.unlocated,
        SourceEvidence.subject]
    | some l =>
      have hl := ht.2 l hb
      simp [CarriesLocator, hb, typedSubject, authoritativeSubject, hp.media,
        hp.size, ht.1, hp.workspace, hp.source, hl,
        SourceEvidence.subject]
  | update c =>
    obtain ⟨s, hs, ht⟩ := ht
    simp [CarriesLocator, typedSubject, authoritativeSubject, hp.media, hp.size,
      hs, ht, hp.workspace, hp.source, SourceEvidence.unlocated,
      SourceEvidence.subject]

/-- A subject that leaves evidence out and is allowed is spared with all of it. -/
theorem spares_of_allowed {su : PolicySubject} {outcome : PolicyEvaluationOutcome}
    (hp : ∀ o, ruleMatches o su = none ∨ ruleMatches o su = ruleMatches o e.subject)
    (hr : evaluatePolicy nfc revision su = .ok outcome)
    (hal : outcome.enforced = .allowed) : revision.Spares e := by
  intro r hm
  have ha := (evaluatePolicy_allowed hr).mp hal r hm
  rcases hp r.operand with hl | hag
  · exact nomatch ha.symm.trans hl
  · exact hag.symm.trans ha

theorem preflight_part (o : RuleOperand) :
    ruleMatches o (smallFileSubject e.workspaceId (preflightOf command e)) = none ∨
      ruleMatches o (smallFileSubject e.workspaceId (preflightOf command e)) =
        ruleMatches o e.subject := by
  cases command <;> rcases o with _ | _ | _ | _ | (_ | _) | _ | _ <;>
    first | exact .inr rfl | exact .inl rfl

theorem accepted_preflight (hp : PublicationOf db command e)
    (ha : smallFileDecision nfc (.ok revision) e.workspaceId (preflightOf command e) =
      some .allowed) :
    revision.Spares e ∧ e.workspaceId = revision.workspaceId ∧
      validateSubject nfc revision e.subject = .ok () := by
  obtain ⟨outcome, hr, hal⟩ := smallFileDecision_some ha
  have hv := (evaluatePolicy_ok hr).1
  have he : e.workspaceId = revision.workspaceId := by
    by_contra hd
    rw [validateSubject, if_pos (by simpa [smallFileSubject] using hd)] at hv
    exact nomatch hv
  exact ⟨spares_of_allowed preflight_part hr hal, he, validate_subject hv rfl he hp.named⟩

/-- A recheck on a subject without its locator passes exactly when no rule asks for one. -/
theorem evaluatePublication_unlocated {su : SourceStore.PolicySubject}
    (hu : typedSubject su = .ok e.unlocated) (hs : revision.Spares e)
    (he : e.workspaceId = revision.workspaceId) (hn : e.sourceId ≠ 0) :
    (∃ ev, evaluatePublication nfc revision su = .ok ev) ↔ ¬ revision.HasPathRule := by
  obtain ⟨outcome, hr⟩ : ∃ outcome, evaluatePolicy nfc revision e.unlocated = .ok outcome :=
    unlocated_decided he hn
  by_cases hp : revision.HasPathRule
  · have raw := unlocated_indeterminate hr hs hp
    simp [evaluatePublication, hu, enforceRevision_ok hr, raw, hp, bind,
      Except.bind, Except.mapError]
  · have raw := (evaluatePolicy_enforced hr).mp ((unlocated_allowed_iff hr).mpr ⟨hs, hp⟩)
    simp [evaluatePublication, hu, enforceRevision_ok hr, raw, hp, bind,
      Except.bind, Except.mapError, pure, Except.pure]

theorem evaluatePublication_subject {su : SourceStore.PolicySubject}
    (hs : typedSubject su = .ok e.subject) (hsp : revision.Spares e)
    (hv : validateSubject nfc revision e.subject = .ok ()) :
    ∃ ev, evaluatePublication nfc revision su = .ok ev := by
  obtain ⟨outcome, hr⟩ := evaluatePolicy_of_valid hv
  have raw := (evaluatePolicy_enforced hr).mp ((subject_allowed_iff hr).mpr hsp)
  simp [evaluatePublication, hs, enforceRevision_ok hr, raw, bind, Except.bind,
    Except.mapError, pure, Except.pure]

end OnePublication

/-! ## Agreement -/

/-- **When the boundaries agree.** Preview and reconciliation record one decision for a source.
It is the decision of a device exactly when a rule matches the source with all its evidence, or
the revision has both or neither of path rules and source-type rules; a source a device may edit
is recorded as excluded exactly when the revision has a path rule. A publication accepted under
an earlier revision passes the rechecks under one that allows it exactly when that has no path
rule; a create that carries its locator passes the final one always. -/
theorem recorded_decision_agrees (nfc : Text → Text) (revision : ExclusionPolicyRevision) :
    (∀ db s e, Editable db s e → s.workspaceId = revision.workspaceId →
      ∃ recorded, evaluateRow nfc revision s.workspaceId (sourceScanRow db s) =
          .ok (some recorded) ∧
        (∀ proposed result, previewRow nfc (some revision) proposed s.workspaceId
          (sourceScanRow db s) = .ok result → result.previousEnforced = recorded.enforcedDecision) ∧
        (∀ previous result, previewRow nfc previous revision s.workspaceId (sourceScanRow db s) =
          .ok result → result.proposedEnforced = recorded.enforcedDecision) ∧
        ∀ decision, smallFileDecision nfc (.ok revision) e.workspaceId e.updatePreflight =
            some decision →
          (recorded.enforcedDecision = decision ↔
            ¬ revision.Spares e ∨ (revision.HasPathRule ↔ revision.HasSourceTypeRule)) ∧
          (decision = .allowed → (recorded.enforcedDecision = .excluded ↔ revision.HasPathRule))) ∧
    ∀ db command e binding, PublicationOf db command e → binding.workspaceId = command.workspaceId →
      revision.revisionNumber ≠ binding.policyRevisionNumber →
      smallFileDecision nfc (.ok revision) e.workspaceId (preflightOf command e) = some .allowed →
      ((∃ evidence, authorizeBoundPublication nfc (.ok revision) db command binding =
          .ok evidence) ↔ ¬ revision.HasPathRule) ∧
      ((∃ evidence, authorizeLockedPublicationPolicy nfc (.ok revision) db command
          (some (.binding binding)) = .ok evidence) ↔
        CarriesLocator command ∨ ¬ revision.HasPathRule) := by
  constructor
  · intro db s e he hsa
    obtain ⟨outcome, recorded, hre, ran, ho, ha, has⟩ := recorded_decision nfc he hsa
    rw [← ho] at ha has
    refine ⟨recorded, ran, ha, has, fun decision hd => ?_⟩
    have hh := unlocated_allowed_iff hre
    have ht := device_decision hd
    rw [← ho] at hh
    constructor
    · rw [decision_eq_iff, hh, ht]
      tauto
    · intro hal
      have hn : recorded.enforcedDecision = .excluded ↔ ¬ recorded.enforcedDecision = .allowed := by
        cases recorded.enforcedDecision <;> decide
      rw [hn, hh]
      have hsp := (ht.mp hal).1
      tauto
  · intro db command e binding hp hs hr hac
    obtain ⟨hsp, hsa, hv⟩ := accepted_preflight hp hac
    have hb : authorizeBoundPublication nfc (.ok revision) db command binding =
        evaluatePublication nfc revision (publicationSubject db command) := by
      simp [authorizeBoundPublication, hs, hr, bind, Except.bind, Except.mapError]
    have hl : authorizeLockedPublicationPolicy nfc (.ok revision) db command
          (some (.binding binding)) =
        evaluatePublication nfc revision (authoritativeSubject db command) := by
      simp [authorizeLockedPublicationPolicy, hs, hr, bind, Except.bind, Except.mapError]
    constructor
    · rw [hb]
      exact evaluatePublication_unlocated (typed_publicationSubject hp) hsp hsa hp.named
    · rw [hl]
      by_cases hc : CarriesLocator command
      · have hsu := (typed_authoritativeSubject hp).1 hc
        exact iff_of_true (evaluatePublication_subject hsu hsp hv) (.inl hc)
      · have hu := (typed_authoritativeSubject hp).2 hc
        rw [evaluatePublication_unlocated hu hsp hsa hp.named]
        tauto

/-! ### A folder rule -/

theorem exclusionRule_identified : (8 : Uuid) ≠ 0 := by decide

/-- A revision that excludes the folder `p`. -/
def folderRevision : ExclusionPolicyRevision where
  policyRevisionId := 9
  workspaceId := 1
  revisionNumber := 2
  rules := [⟨8, .folderPrefix, .folderPrefix ['p'], "f8", exclusionRule_identified, rfl⟩]
  identified := by decide
  numbered := by decide
  bounded := by decide
  ruleIds := by decide
  fingerprints := by decide

/-- A note at `n/a`. -/
def noteEvidence : SourceEvidence where
  workspaceId := 1
  sourceId := 3
  normalizedLocator := ['n', '/', 'a']
  sourceType := .markdown
  mediaType := ⟨['t', '/', 'm'], by decide⟩
  sizeBytes := 5

def noteSource : Source where
  sourceId := 3
  workspaceId := 1
  sourceType := "markdown"
  syncState := .active
  currentVersionId := some 4

def noteDb : Db :=
  { Db.empty with
    events := [⟨6, 1, 1, 3, none, some 4, none, "k", "f", .create⟩]
    sources := [noteSource]
    versions := [⟨4, 1, 3, 5, 1, none⟩]
    objects := [⟨5, "h", "o", 5, String.ofList ['t', '/', 'm']⟩]
    locators := [⟨7, 1, 3, String.ofList ['n', '/', 'a'], 6, 1, none⟩] }

theorem note_editable : Editable noteDb noteSource noteEvidence where
  notDeleted := by decide
  workspace := rfl
  source := rfl
  named := by decide
  typed := by decide
  located := ⟨_, rfl, by simp [noteEvidence]⟩
  current := ⟨⟨4, 1, 3, 5, 1, none⟩, ⟨5, "h", "o", 5, String.ofList ['t', '/', 'm']⟩, rfl, rfl, rfl,
    by rw [String.toList_ofList]; rfl, rfl⟩
  recorded := ⟨_, List.mem_cons_self, rfl, rfl⟩

theorem note_decision :
    smallFileDecision id (.ok folderRevision) 1 noteEvidence.updatePreflight = some .allowed := by
  decide

/-- A folder rule that spares a source divides the boundaries: the device may edit the note
that preview and reconciliation record as excluded. -/
theorem path_rule_divides :
    ¬ ∀ (nfc : Text → Text) (revision : ExclusionPolicyRevision) (db : Db) (s : Source)
        (e : SourceEvidence) (recorded : PolicyEvaluation) (decision : EnforcedPolicyDecision),
      Editable db s e → s.workspaceId = revision.workspaceId →
      evaluateRow nfc revision s.workspaceId (sourceScanRow db s) = .ok (some recorded) →
      smallFileDecision nfc (.ok revision) e.workspaceId e.updatePreflight = some decision →
      recorded.enforcedDecision = decision := by
  intro ha
  obtain ⟨outcome, recorded, hr, ran, ho, _⟩ :=
    recorded_decision id note_editable (show _ = folderRevision.workspaceId from rfl)
  have he := ha id folderRevision noteDb noteSource noteEvidence recorded _ note_editable rfl
    ran note_decision
  have has : folderRevision.HasPathRule := ⟨_, List.mem_cons_self, trivial⟩
  exact ((unlocated_allowed_iff hr).mp (ho.symm.trans he)).2 has

/-- The note under the folder rule. -/
theorem note_recorded_excluded :
    ∃ recorded, evaluateRow id folderRevision 1 (sourceScanRow noteDb noteSource) =
        .ok (some recorded) ∧ recorded.enforcedDecision = .excluded := by
  obtain ⟨recorded, ran, _, _, ha⟩ :=
    (recorded_decision_agrees id folderRevision).1 noteDb noteSource noteEvidence note_editable rfl
  have hp : folderRevision.HasPathRule := ⟨_, List.mem_cons_self, trivial⟩
  exact ⟨recorded, ran, ((ha _ note_decision).2 rfl).mpr hp⟩

end PersonalOs.ExclusionPolicy
