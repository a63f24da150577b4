import PersonalOs.ExclusionPolicy.Normalization

/-!
# The policy evaluator

`contracts.py` and `evaluation.py`: rules of seven kinds, the subject they are evaluated on and
the deny-only evaluator. One definite match excludes; otherwise evidence a rule asks for and the
subject lacks leaves the decision indeterminate, which is enforced as an exclusion.
-/

namespace PersonalOs.ExclusionPolicy

open Json

/-! ## Subjects -/

/-- Identifiers; the nil UUID is 0. -/
abbrev Uuid := Nat

inductive SourceType
  | markdown | text | pdf | image | audio | web | youtube
deriving DecidableEq

def SourceType.value : SourceType → String
  | .markdown => "markdown"
  | .text => "text"
  | .pdf => "pdf"
  | .image => "image"
  | .audio => "audio"
  | .web => "web"
  | .youtube => "youtube"

/-- `SourceType(value)`. -/
def SourceType.parse (value : String) : Option SourceType :=
  [.markdown, .text, .pdf, .image, .audio, .web, .youtube].find? fun t => t.value = value

def isCanonicalTokenChar (c : Char) : Bool :=
  33 ≤ c.toNat && c.toNat ≤ 126 &&
    c ∉ ['(', ')', '<', '>', '@', ',', ';', ':', '\\', '"', '/', '[', ']', '?', '='] &&
    !('A' ≤ c && c ≤ 'Z') && c ≠ '*'

/-- A lowercase `type/subtype` without parameters. -/
def isCanonicalMediaType (value : Text) : Bool :=
  let subtype := (value.dropWhile (· ≠ '/')).drop 1
  '/' ∈ value && (value.takeWhile (· ≠ '/')) ≠ [] && subtype ≠ [] && '/' ∉ subtype &&
    value.all fun c => c = '/' || isCanonicalTokenChar c

structure CanonicalMediaType where
  value : Text
  canonical : isCanonicalMediaType value = true
deriving DecidableEq

/-- `CanonicalMediaType.parse`. -/
def CanonicalMediaType.parse (value : Text) : Option CanonicalMediaType :=
  if canonical : isCanonicalMediaType value = true then some ⟨value, canonical⟩ else none

inductive PolicySubjectField
  | sourceId | normalizedLocator | sourceType | mediaType | sizeBytes
deriving DecidableEq

def PolicySubjectField.value : PolicySubjectField → String
  | .sourceId => "source_id"
  | .normalizedLocator => "normalized_locator"
  | .sourceType => "source_type"
  | .mediaType => "media_type"
  | .sizeBytes => "size_bytes"

structure PolicySubject where
  workspaceId : Uuid
  sourceId : Option Uuid
  normalizedLocator : Option Text
  sourceType : Option SourceType
  mediaType : Option CanonicalMediaType
  sizeBytes : Option Nat
deriving DecidableEq

/-! ## Rules -/

inductive RuleKind
  | exactSourceId | folderPrefix | pathGlob | extension | mediaType | maximumSize | sourceType
deriving DecidableEq

inductive MediaTypeOperand
  | exactMediaType (mediaType : CanonicalMediaType)
  | familyType (familyType : Text)
deriving DecidableEq

inductive RuleOperand
  | exactSourceId (sourceId : Uuid)
  | folderPrefix (folderPrefix : Text)
  | pathGlob (normalizedPattern : Text)
  | extension (extension : Text)
  | mediaType (operand : MediaTypeOperand)
  | maximumSize (maximumSizeBytes : Nat)
  | sourceType (sourceType : SourceType)
deriving DecidableEq

/-- `_expected_kind_for_operand`. -/
def RuleOperand.kind : RuleOperand → RuleKind
  | .exactSourceId _ => .exactSourceId
  | .folderPrefix _ => .folderPrefix
  | .pathGlob _ => .pathGlob
  | .extension _ => .extension
  | .mediaType _ => .mediaType
  | .maximumSize _ => .maximumSize
  | .sourceType _ => .sourceType

/-- The compiled glob of a `PathGlobOperand` is that of its pattern. -/
structure ExclusionRule where
  ruleId : Uuid
  ruleKind : RuleKind
  operand : RuleOperand
  semanticFingerprint : String
  named : ruleId ≠ 0
  kindOfOperand : operand.kind = ruleKind

def maximumRulesPerRevision : Nat := 256

structure ExclusionPolicyRevision where
  policyRevisionId : Uuid
  workspaceId : Uuid
  revisionNumber : Nat
  rules : List ExclusionRule
  identified : policyRevisionId ≠ 0 ∧ workspaceId ≠ 0
  numbered : 1 ≤ revisionNumber
  bounded : rules.length ≤ maximumRulesPerRevision
  ruleIds : (rules.map ExclusionRule.ruleId).Nodup
  fingerprints : (rules.map ExclusionRule.semanticFingerprint).Nodup

/-! ## Evaluation -/

inductive RawPolicyDecision
  | allowed | excluded | indeterminate
deriving DecidableEq

inductive EnforcedPolicyDecision
  | allowed | excluded
deriving DecidableEq

structure PolicyEvaluationOutcome where
  raw : RawPolicyDecision
  enforced : EnforcedPolicyDecision
  matchedRuleIds : List Uuid
  missingFields : List PolicySubjectField
deriving DecidableEq

def requiredFieldByKind : RuleKind → PolicySubjectField
  | .exactSourceId => .sourceId
  | .folderPrefix | .pathGlob | .extension => .normalizedLocator
  | .mediaType => .mediaType
  | .maximumSize => .sizeBytes
  | .sourceType => .sourceType

section Evaluator

variable (nfc : Text → Text)

def validateSubject (revision : ExclusionPolicyRevision) (subject : PolicySubject) :
    Except ExclusionPolicyError Unit :=
  if subject.workspaceId ≠ revision.workspaceId then
    .error (.inputInvalid .subjectWorkspaceMismatch)
  else if subject.sourceId = some 0 then .error (.inputInvalid .subjectIdInvalid)
  else match subject.normalizedLocator with
    | none => .ok ()
    | some locator => do
      let normalized ← normalizeLocator nfc (locator.map .scalar)
      if normalized ≠ locator then .error (.inputInvalid .subjectLocatorNotNormalized)
      else .ok ()

/-- `_rule_matches`: a definite match, a definite non-match, or none without the evidence. -/
def ruleMatches (operand : RuleOperand) (subject : PolicySubject) : Option Bool :=
  match operand with
  | .exactSourceId sourceId => subject.sourceId.map (· = sourceId)
  | .folderPrefix folderPrefix =>
    subject.normalizedLocator.map fun locator =>
      let prefixSegments := locatorSegments folderPrefix
      (locatorSegments locator).take prefixSegments.length = prefixSegments
  | .pathGlob pattern =>
    subject.normalizedLocator.map fun locator =>
      globMatches (compileNormalizedGlob '*' '/' pattern) (locatorSegments locator)
  | .extension extension =>
    subject.normalizedLocator.map fun locator =>
      extension.isSuffixOf (foldAsciiLowercase ((locatorSegments locator).getLast?.getD []))
  | .mediaType (.exactMediaType mediaType) =>
    subject.mediaType.map fun m => m.value = mediaType.value
  | .mediaType (.familyType familyType) =>
    subject.mediaType.map fun m => m.value.takeWhile (· ≠ '/') = familyType
  | .maximumSize maximumSizeBytes => subject.sizeBytes.map (maximumSizeBytes < ·)
  | .sourceType sourceType => subject.sourceType.map (· = sourceType)

def evaluatePolicy (revision : ExclusionPolicyRevision) (subject : PolicySubject) :
    Except ExclusionPolicyError PolicyEvaluationOutcome := do
  validateSubject nfc revision subject
  let matchedRules := revision.rules.filter fun rule =>
    ruleMatches rule.operand subject = some true
  let undecidedRules := revision.rules.filter fun rule =>
    ruleMatches rule.operand subject = none
  let (raw, enforced) : RawPolicyDecision × EnforcedPolicyDecision :=
    if matchedRules ≠ [] then (.excluded, .excluded)
    else if undecidedRules ≠ [] then (.indeterminate, .excluded)
    else (.allowed, .allowed)
  return {
    raw, enforced
    matchedRuleIds := (matchedRules.map ExclusionRule.ruleId).insertionSort (· ≤ ·)
    missingFields := (undecidedRules.map fun rule => requiredFieldByKind rule.ruleKind).dedup
      |>.insertionSort fun a b => a.value ≤ b.value }

end Evaluator

/-! ## What a decision says about the rules -/

variable {nfc : Text → Text} {revision : ExclusionPolicyRevision} {subject : PolicySubject}
  {outcome : PolicyEvaluationOutcome}

theorem evaluatePolicy_ok (reached : evaluatePolicy nfc revision subject = .ok outcome) :
    validateSubject nfc revision subject = .ok () ∧
      (outcome.raw, outcome.enforced) =
        if (revision.rules.filter fun rule => ruleMatches rule.operand subject = some true) ≠ []
        then (RawPolicyDecision.excluded, EnforcedPolicyDecision.excluded)
        else if (revision.rules.filter fun rule => ruleMatches rule.operand subject = none) ≠ []
        then (.indeterminate, .excluded)
        else (.allowed, .allowed) := by
  obtain ⟨_, accepted, reached⟩ := bind_ok reached
  cases reached
  exact ⟨accepted, rfl⟩

/-- Three cases: a rule matches; none does and one lacks its evidence; all are definite
non-matches. -/
theorem evaluatePolicy_raw (reached : evaluatePolicy nfc revision subject = .ok outcome) :
    (outcome.raw = .excluded ↔
      ∃ rule ∈ revision.rules, ruleMatches rule.operand subject = some true) ∧
    (outcome.raw = .allowed ↔
      ∀ rule ∈ revision.rules, ruleMatches rule.operand subject = some false) := by
  have decision := congrArg Prod.fst (evaluatePolicy_ok reached).2
  simp only [ne_eq, List.filter_eq_nil_iff, decide_eq_true_eq] at decision
  rw [decision]
  split
  next matched =>
    push Not at matched
    obtain ⟨rule, member, matches_⟩ := matched
    refine ⟨iff_of_true rfl ⟨rule, member, matches_⟩, iff_of_false (by decide) ?_⟩
    intro allFalse
    exact nomatch (allFalse rule member).symm.trans matches_
  next unmatched =>
    push Not at unmatched
    split
    next undecided =>
      push Not at undecided
      obtain ⟨rule, member, lacks⟩ := undecided
      refine ⟨iff_of_false (by decide) ?_, iff_of_false (by decide) ?_⟩
      · rintro ⟨rule, member, matches_⟩
        exact unmatched rule member matches_
      · intro allFalse
        exact nomatch (allFalse rule member).symm.trans lacks
    next decided =>
      push Not at decided
      refine ⟨iff_of_false (by decide) ?_, iff_of_true rfl ?_⟩
      · rintro ⟨rule, member, matches_⟩
        exact unmatched rule member matches_
      · intro rule member
        match answer : ruleMatches rule.operand subject with
        | some true => exact absurd answer (unmatched rule member)
        | some false => rfl
        | none => exact absurd answer (decided rule member)

theorem evaluatePolicy_enforced (reached : evaluatePolicy nfc revision subject = .ok outcome) :
    outcome.enforced = .allowed ↔ outcome.raw = .allowed := by
  have decision := (evaluatePolicy_ok reached).2
  split at decision
  · simp_all
  · split at decision <;> simp_all

theorem evaluatePolicy_allowed (reached : evaluatePolicy nfc revision subject = .ok outcome) :
    outcome.enforced = .allowed ↔
      ∀ rule ∈ revision.rules, ruleMatches rule.operand subject = some false :=
  (evaluatePolicy_enforced reached).trans (evaluatePolicy_raw reached).2

theorem evaluatePolicy_of_valid (accepted : validateSubject nfc revision subject = .ok ()) :
    ∃ outcome, evaluatePolicy nfc revision subject = .ok outcome := by
  unfold evaluatePolicy
  rw [accepted]
  exact ⟨_, rfl⟩

variable {error : ExclusionPolicyError}

theorem normalizeLocator_error {value : PyString}
    (refused : normalizeLocator nfc value = .error error) :
    ∃ reason, error = .inputInvalid reason := by
  unfold normalizeLocator at refused
  split at refused
  · cases refused
    exact ⟨_, rfl⟩
  · dsimp only at refused
    split_ifs at refused <;> (cases refused; exact ⟨_, rfl⟩)

theorem validateSubject_error (refused : validateSubject nfc revision subject = .error error) :
    ∃ reason, error = .inputInvalid reason := by
  unfold validateSubject at refused
  split at refused
  · cases refused
    exact ⟨_, rfl⟩
  split at refused
  · cases refused
    exact ⟨_, rfl⟩
  split at refused
  · exact nomatch refused
  next locator _ =>
    cases normal : normalizeLocator nfc (locator.map .scalar) with
    | error e =>
      rw [normal] at refused
      cases refused
      exact normalizeLocator_error normal
    | ok normalized =>
      simp only [normal, bind, Except.bind] at refused
      split at refused
      · cases refused
        exact ⟨_, rfl⟩
      · exact nomatch refused

theorem evaluatePolicy_error (refused : evaluatePolicy nfc revision subject = .error error) :
    ∃ reason, error = .inputInvalid reason := by
  cases accepted : validateSubject nfc revision subject with
  | error e =>
    simp only [evaluatePolicy, accepted, bind, Except.bind] at refused
    cases refused
    exact validateSubject_error accepted
  | ok _ =>
    obtain ⟨outcome, reached⟩ := evaluatePolicy_of_valid accepted
    exact nomatch refused.symm.trans reached

end PersonalOs.ExclusionPolicy
