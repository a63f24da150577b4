import PersonalOs.ExclusionPolicy.CanonicalJson

/-!
# Locators and globs

`normalization.py`: the closed grammar of Vault locators and the compiled globs that are matched
against their segments. Unicode's normal form C is a parameter.
-/

namespace PersonalOs.ExclusionPolicy

open Json

/-! ## Errors -/

/-- The closed reason tokens of `exclusion_policy_input_invalid`. -/
inductive InputReason
  | locatorNotValidUnicode | locatorEmpty | locatorAbsolute | locatorTrailingSeparator
  | locatorBackslashSeparator | locatorSchemeOrDrive | locatorInvalidSegment
  | locatorControlCharacter | locatorTooLong | locatorTooManySegments | locatorSegmentTooLong
  | globUnsupportedToken | globTooLong | globTooManySegments | globTooManyWildcards
  | subjectIdInvalid | subjectLocatorNotNormalized | subjectWorkspaceMismatch
deriving DecidableEq

inductive ExclusionPolicyError
  | inputInvalid (reason : InputReason)
  | notInitialized
  | signingUnavailable
  | denied (policyRevisionNumber : Nat)
  | indeterminate
deriving DecidableEq

/-! ## Locators -/

/-- `LOCATOR_MAXIMUM_BYTES`, `LOCATOR_MAXIMUM_SEGMENTS`, `LOCATOR_SEGMENT_MAXIMUM_BYTES`. -/
def locatorMaximumBytes : Nat := 4096
def locatorMaximumSegments : Nat := 256
def locatorSegmentMaximumBytes : Nat := 255

/-- `value.split("/")`. -/
def locatorSegments (value : Text) : List Text := value.splitOn '/'

/-- `unicodedata.category(char) == "Cc"`. -/
def isControl (c : Char) : Bool := c.toNat < 0x20 || (0x7F ≤ c.toNat && c.toNat < 0xA0)

/-- `_reject_invalid_segments`. -/
def isInvalidSegment (segment : Text) : Bool :=
  segment = [] || segment = ['.'] || segment = ['.', '.']

/-- `normalize_locator`. Surrogates survive the normal form, so a string with one is refused
whatever that form is. -/
def normalizeLocator (nfc : Text → Text) (value : PyString) : Except ExclusionPolicyError Text :=
  match characters value with
  | none => .error (.inputInvalid .locatorNotValidUnicode)
  | some text =>
    let normalized := nfc text
    let segments := locatorSegments normalized
    if normalized = [] then .error (.inputInvalid .locatorEmpty)
    else if '\\' ∈ normalized then .error (.inputInvalid .locatorBackslashSeparator)
    else if normalized.head? = some '/' then .error (.inputInvalid .locatorAbsolute)
    else if normalized.getLast? = some '/' then .error (.inputInvalid .locatorTrailingSeparator)
    else if normalized.any isControl then .error (.inputInvalid .locatorControlCharacter)
    else if ∃ first ∈ segments.head?, ':' ∈ first then
      .error (.inputInvalid .locatorSchemeOrDrive)
    else if segments.any isInvalidSegment then .error (.inputInvalid .locatorInvalidSegment)
    else if locatorMaximumSegments < segments.length then
      .error (.inputInvalid .locatorTooManySegments)
    else if locatorMaximumBytes < (utf8 normalized).length then
      .error (.inputInvalid .locatorTooLong)
    else if ∃ segment ∈ segments, locatorSegmentMaximumBytes < (utf8 segment).length then
      .error (.inputInvalid .locatorSegmentTooLong)
    else .ok normalized

/-! ## Globs -/

/-- A `*` inside a segment, or a literal run between two of them. -/
inductive GlobSegmentPart (α : Type)
  | star
  | literal (text : List α)
deriving DecidableEq

structure GlobSegment (α : Type) where
  isDoubleStar : Bool
  parts : List (GlobSegmentPart α)
deriving DecidableEq

structure CompiledGlob (α : Type) where
  segments : List (GlobSegment α)
  wildcardTokenCount : Nat
deriving DecidableEq

section Globs

variable {α : Type} [DecidableEq α]

/-- The literal run read so far, when there is one. -/
def literalPart (literal : List α) : List (GlobSegmentPart α) :=
  if literal = [] then [] else [.literal literal]

/-- The loop of `_compile_segment` over the characters left, behind a literal run. -/
def compileParts (star : α) (literal : List α) : List α → List (GlobSegmentPart α)
  | [] => literalPart literal
  | c :: rest =>
    if c = star then literalPart literal ++ .star :: compileParts star [] rest
    else compileParts star (literal ++ [c]) rest

def compileSegment (star : α) (segment : List α) : GlobSegment α :=
  if segment = [star, star] then ⟨true, []⟩ else ⟨false, compileParts star [] segment⟩

def compileNormalizedGlob (star separator : α) (normalized : List α) : CompiledGlob α where
  segments := (normalized.splitOn separator).map (compileSegment star)
  wildcardTokenCount := normalized.count star

/-- The two indices of `_segment_matches` and what its backtrack point remembers, each as what
is left behind it. -/
structure SegmentScan (α : Type) where
  parts : List (GlobSegmentPart α)
  value : List α
  backtrack : Option (List (GlobSegmentPart α) × List α)
  /-- The scan never falls back behind its backtrack point. -/
  ahead : ∀ point ∈ backtrack, parts.length ≤ point.1.length ∧ value.length ≤ point.2.length

/-- A mismatch falls back to the last star, which takes one more character. -/
def SegmentScan.fallBack (scan : SegmentScan α) : Option (SegmentScan α) :=
  scan.backtrack.map fun (rest, start) =>
    ⟨rest, start.drop 1, some (rest, start.drop 1), fun _ remembered => by
      cases remembered
      exact ⟨le_rfl, le_rfl⟩⟩

/-- One round of the loop of `_segment_matches`, while characters are left; none where it
returns false. -/
def SegmentScan.round : SegmentScan α → Option (SegmentScan α)
  | ⟨.literal text :: rest, value, backtrack, ahead⟩ =>
    if text.isPrefixOf value then
      some ⟨rest, value.drop text.length, backtrack, fun point remembered => by
        have := ahead point remembered
        simp only [List.length_cons, List.length_drop] at this ⊢
        omega⟩
    else SegmentScan.fallBack ⟨.literal text :: rest, value, backtrack, ahead⟩
  | ⟨.star :: rest, value, _, _⟩ => some ⟨rest, value, some (rest, value), by simp⟩
  | ⟨[], value, backtrack, ahead⟩ => SegmentScan.fallBack ⟨[], value, backtrack, ahead⟩

/-- Parts behind the last star, characters that star can still take, parts left. -/
def SegmentScan.size (scan : SegmentScan α) : Nat × Nat × Nat :=
  (scan.backtrack.elim scan.parts.length (·.1.length),
    scan.backtrack.elim 0 (·.2.length), scan.parts.length)

def SegmentScan.Smaller (next scan : SegmentScan α) : Prop :=
  Prod.Lex (· < ·) (Prod.Lex (· < ·) (· < ·)) next.size scan.size

omit [DecidableEq α] in
theorem SegmentScan.fallBack_smaller {s n : SegmentScan α} (hm : s.value ≠ [])
    (hv : s.fallBack = some n) : n.Smaller s := by
  simp only [fallBack, Option.map_eq_some_iff] at hv
  obtain ⟨⟨r, st⟩, hr, rfl⟩ := hv
  have hi := (s.ahead _ hr).2
  have : 0 < s.value.length := List.length_pos_iff.mpr hm
  simp only [Smaller, size, hr, Option.elim, List.length_drop]
  exact .right _ (.left _ _ (by simp only at hi; omega))

theorem SegmentScan.round_smaller {s n : SegmentScan α} (hm : s.value ≠ [])
    (hv : s.round = some n) : n.Smaller s := by
  obtain ⟨pa, v, b, ha⟩ := s
  match pa with
  | .literal t :: r =>
    simp only [round] at hv
    split at hv
    · cases hv
      cases b with
      | none => exact .left _ _ (Nat.lt_succ_self _)
      | some p => exact .right _ (.right _ (Nat.lt_succ_self _))
    · exact fallBack_smaller hm hv
  | .star :: r =>
    cases hv
    cases b with
    | none => exact .left _ _ (Nat.lt_succ_self _)
    | some p =>
      have hi : r.length + 1 ≤ p.1.length := (ha p rfl).1
      exact .left _ _ hi
  | [] => exact fallBack_smaller hm hv

/-- The loop of `_segment_matches`; what is left behind it must be stars. -/
def segmentScan (scan : SegmentScan α) : Bool :=
  if _ : scan.value = [] then scan.parts.all (· = .star)
  else
    match _ : scan.round with
    | none => false
    | some next => segmentScan next
termination_by scan.size
decreasing_by exact SegmentScan.round_smaller ‹_› ‹_›

def segmentMatches (parts : List (GlobSegmentPart α)) (value : List α) : Bool :=
  segmentScan ⟨parts, value, none, by simp⟩

/-- What a `**` reaches: everything from the first reachable point on. -/
def reachOnward (reached : Bool) : List Bool → List Bool
  | [] => []
  | here :: rest => (reached || here) :: reachOnward (reached || here) rest

def reachNext (locator : List (List α)) (reachable : List Bool) (segment : GlobSegment α) : List Bool :=
  if segment.isDoubleStar then reachOnward false reachable
  else false :: (reachable.zip locator).map fun (here, value) =>
    here && segmentMatches segment.parts value

def globMatches (compiled : CompiledGlob α) (locator : List (List α)) : Bool :=
  let start := true :: locator.map fun _ => false
  (compiled.segments.foldl (reachNext locator) start).getLast? = some true

end Globs

def foldAsciiLowercase (value : Text) : Text :=
  value.map fun c => if 'A' ≤ c ∧ c ≤ 'Z' then Char.ofNat (c.toNat + 32) else c

end PersonalOs.ExclusionPolicy
