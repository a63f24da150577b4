import PersonalOs.ExclusionPolicy.CanonicalTexts
import PersonalOs.ExclusionPolicy.Normalization

/-!
# What a glob matches

`_normalize_glob_text` and `compile_glob` of `normalization.py`, with their twins in
`evaluator.ts`, and the meaning of a glob on its own text: `PathMatches` over the segments,
`SegmentMatches` over the characters of one.
-/

namespace PersonalOs.ExclusionPolicy

open Json
open EncoderLemmas (jsString_injective)
open TextLemmas (jsString_append jsString_cons jsString_basic toNat_unit unit_ne)

/-! ## Compiling a glob -/

/-- `GLOB_MAXIMUM_BYTES`, `GLOB_MAXIMUM_SEGMENTS`, `GLOB_MAXIMUM_WILDCARD_TOKENS`. -/
def globMaximumBytes : Nat := 1024
def globMaximumSegments : Nat := 64
def globMaximumWildcardTokens : Nat := 16

def globForbiddenCharacters : List Char := ['?', '[', ']', '{', '}']

/-- The checks of a glob, over the characters of its normal form; a string that is no valid
Unicode has none. The two sides make them in one order. -/
def checkGlobText (nfc : Text → Text) (decoded : Option Text) : Except ExclusionPolicyError Text :=
  match decoded with
  | none => .error (.inputInvalid .locatorNotValidUnicode)
  | some text =>
    let normalized := nfc text
    let segments := locatorSegments normalized
    if normalized = [] then .error (.inputInvalid .locatorEmpty)
    else if normalized.any (· ∈ globForbiddenCharacters) then
      .error (.inputInvalid .globUnsupportedToken)
    else if '\\' ∈ normalized then .error (.inputInvalid .locatorBackslashSeparator)
    else if normalized.head? = some '/' then .error (.inputInvalid .locatorAbsolute)
    else if normalized.getLast? = some '/' then .error (.inputInvalid .locatorTrailingSeparator)
    else if segments.any (·.head? = some '!') then .error (.inputInvalid .globUnsupportedToken)
    else if normalized.any isControl then .error (.inputInvalid .locatorControlCharacter)
    else if ∃ first ∈ segments.head?, ':' ∈ first then
      .error (.inputInvalid .locatorSchemeOrDrive)
    else if segments.any isInvalidSegment then .error (.inputInvalid .locatorInvalidSegment)
    else if globMaximumSegments < segments.length then
      .error (.inputInvalid .globTooManySegments)
    else if globMaximumBytes < (utf8 normalized).length then .error (.inputInvalid .globTooLong)
    else if globMaximumWildcardTokens < normalized.count '*' then
      .error (.inputInvalid .globTooManyWildcards)
    else .ok normalized

def normalizeGlobText (nfc : Text → Text) (pattern : PyString) : Except ExclusionPolicyError Text :=
  checkGlobText nfc (characters pattern)

def compileGlob (nfc : Text → Text) (pattern : PyString) :
    Except ExclusionPolicyError (CompiledGlob Char) :=
  (normalizeGlobText nfc pattern).map (compileNormalizedGlob '*' '/')

/-- `normalizeGlobText`. -/
def normalizeJsGlobText (nfc : Text → Text) (pattern : JsString) :
    Except ExclusionPolicyError JsString :=
  (checkGlobText nfc (codePoints pattern)).map jsString

/-- `compilePolicyGlob`. Its literal runs gather characters; no unit of a pair is a star, so they
are the runs of units. -/
def compilePolicyGlob (nfc : Text → Text) (pattern : JsString) :
    Except ExclusionPolicyError (CompiledGlob UInt16) :=
  (normalizeJsGlobText nfc pattern).map (compileNormalizedGlob (unit '*') (unit '/'))

/-! ## What a glob means -/

variable {α : Type} {star : α}

/-- A star takes any run of characters, every other character itself. -/
inductive SegmentMatches (star : α) : List α → List α → Prop
  | nil : SegmentMatches star [] []
  | run {pattern value : List α} (taken : List α) (rest : SegmentMatches star pattern value) :
      SegmentMatches star (star :: pattern) (taken ++ value)
  | same {c : α} {pattern value : List α} (other : c ≠ star)
      (rest : SegmentMatches star pattern value) :
      SegmentMatches star (c :: pattern) (c :: value)

/-- A segment of two stars takes any number of segments, every other segment one that it
matches. -/
inductive PathMatches (star : α) : List (List α) → List (List α) → Prop
  | nil : PathMatches star [] []
  | across {globs locator : List (List α)} (taken : List (List α))
      (rest : PathMatches star globs locator) :
      PathMatches star ([star, star] :: globs) (taken ++ locator)
  | segment {glob value : List α} {globs locator : List (List α)} (single : glob ≠ [star, star])
      (here : SegmentMatches star glob value) (rest : PathMatches star globs locator) :
      PathMatches star (glob :: globs) (value :: locator)

namespace GlobLemmas

theorem exists_append_iff {β : Type} {p : List β → Prop} {v : List β} :
    (∃ a w, v = a ++ w ∧ p w) ↔ ∃ k, p (v.drop k) := by
  constructor
  · rintro ⟨a, w, rfl, h⟩
    exact ⟨a.length, by rwa [List.drop_left]⟩
  · rintro ⟨k, h⟩
    exact ⟨v.take k, v.drop k, (List.take_append_drop k v).symm, h⟩

theorem segment_nil_iff {v : List α} : SegmentMatches star [] v ↔ v = [] := by
  constructor
  · rintro ⟨⟩
    rfl
  · rintro rfl
    exact .nil

theorem segment_star_iff {p v : List α} :
    SegmentMatches star (star :: p) v ↔ ∃ k, SegmentMatches star p (v.drop k) := by
  rw [← exists_append_iff]
  constructor
  · intro h
    cases h with
    | run a h => exact ⟨a, _, rfl, h⟩
    | same o => exact absurd rfl o
  · rintro ⟨a, w, rfl, h⟩
    exact .run a h

theorem segment_other_iff {c : α} (o : c ≠ star) {p v : List α} :
    SegmentMatches star (c :: p) v ↔ ∃ w, v = c :: w ∧ SegmentMatches star p w := by
  constructor
  · intro h
    cases h with
    | run => exact absurd rfl o
    | same _ h => exact ⟨_, rfl, h⟩
  · rintro ⟨w, rfl, h⟩
    exact .same o h

end GlobLemmas

open GlobLemmas

/-! ## Compiled segments -/

def PartsMatch : List (GlobSegmentPart α) → List α → Prop
  | [], value => value = []
  | .star :: parts, value => ∃ k, PartsMatch parts (value.drop k)
  | .literal text :: parts, value => ∃ rest, value = text ++ rest ∧ PartsMatch parts rest

namespace GlobLemmas

variable {ps qs : List (GlobSegmentPart α)} {t v w : List α}

theorem partsMatch_literals : ∀ {ls : List (List α)} {v : List α},
    PartsMatch (ls.map .literal ++ ps) v ↔ ∃ w, v = ls.flatten ++ w ∧ PartsMatch ps w
  | [], v => by simp
  | l :: ls, v => by
    simp only [List.map_cons, List.cons_append, PartsMatch, partsMatch_literals,
      List.flatten_cons, List.append_assoc]
    constructor
    · rintro ⟨_, rfl, w, rfl, h⟩
      exact ⟨w, rfl, h⟩
    · rintro ⟨w, rfl, h⟩
      exact ⟨_, rfl, w, rfl, h⟩

theorem literalPart_eq (t : List α) :
    ∃ ls : List (List α), literalPart t = ls.map .literal ∧ ls.flatten = t ∧ [] ∉ ls := by
  rw [literalPart]
  split
  · next h => exact ⟨[], rfl, h.symm, List.not_mem_nil⟩
  · next h => exact ⟨[t], rfl, by simp, by simpa using Ne.symm h⟩

theorem partsMatch_literalPart :
    PartsMatch (literalPart t ++ ps) v ↔ ∃ w, v = t ++ w ∧ PartsMatch ps w := by
  obtain ⟨ls, he, rfl, _⟩ := literalPart_eq t
  rw [he, partsMatch_literals]

theorem partsMatch_compileParts [DecidableEq α] (p : List α) : ∀ t v : List α,
    PartsMatch (compileParts star t p) v ↔ ∃ w, v = t ++ w ∧ SegmentMatches star p w := by
  induction p with
  | nil =>
    intro t v
    rw [compileParts, ← List.append_nil (literalPart t), partsMatch_literalPart]
    simp only [PartsMatch, segment_nil_iff]
  | cons c p ih =>
    intro t v
    rw [compileParts]
    split
    · next he =>
      subst he
      simp only [partsMatch_literalPart, PartsMatch, ih, segment_star_iff, List.nil_append,
        exists_eq_left']
    · next o =>
      rw [ih]
      simp only [segment_other_iff o]
      constructor
      · rintro ⟨w, rfl, h⟩
        exact ⟨_, by rw [List.append_assoc]; rfl, w, rfl, h⟩
      · rintro ⟨_, rfl, w, rfl, h⟩
        exact ⟨w, by rw [List.append_assoc]; rfl, h⟩

/-- No literal run is empty. -/
def Runs (ps : List (GlobSegmentPart α)) : Prop := .literal [] ∉ ps

theorem runs_compileParts [DecidableEq α] (p : List α) : ∀ t : List α, Runs (compileParts star t p) := by
  have literals {t : List α} : Runs (literalPart t) := by
    obtain ⟨ls, he, _, hn⟩ := literalPart_eq t
    rw [Runs, he, List.mem_map]
    rintro ⟨_, hm, he⟩
    cases he
    exact hn hm
  induction p with
  | nil => exact fun t => literals
  | cons c p ih =>
    intro t
    rw [compileParts]
    split
    · rw [Runs, List.mem_append, List.mem_cons]
      rintro (h | h | h)
      · exact literals h
      · cases h
      · exact ih [] h
    · exact ih _

theorem partsMatch_nil (hr : Runs ps) : PartsMatch ps [] ↔ ∀ q ∈ ps, q = .star := by
  induction ps with
  | nil => simp [PartsMatch]
  | cons q ps ih =>
    have hr' : Runs ps := fun h => hr (.tail _ h)
    cases q with
    | star => simp [PartsMatch, ih hr']
    | literal t =>
      refine iff_of_false ?_ fun h => nomatch h _ List.mem_cons_self
      rintro ⟨w, he, _⟩
      obtain ⟨rfl, _⟩ := List.append_eq_nil_iff.mp he.symm
      exact hr List.mem_cons_self

end GlobLemmas

/-! ## The greedy scan -/

/-- What was read since the backtrack point is what the literals in between say; no literal is
empty. -/
structure SegmentScan.Sound (scan : SegmentScan α) : Prop where
  runs : Runs scan.parts
  point : ∀ rest start, scan.backtrack = some (rest, start) → Runs rest ∧
    ∃ literals : List (List α), rest = literals.map .literal ++ scan.parts ∧
      start = literals.flatten ++ scan.value

/-- The last star can still take `k` more characters. -/
def SegmentScan.Later (scan : SegmentScan α) : Prop :=
  ∃ rest start, scan.backtrack = some (rest, start) ∧
    ∃ k, 0 < k ∧ k ≤ start.length ∧ PartsMatch rest (start.drop k)

def SegmentScan.Finds (scan : SegmentScan α) : Prop :=
  PartsMatch scan.parts scan.value ∨ scan.Later

namespace GlobLemmas

variable {s n : SegmentScan α}

theorem later_rest {ps : List (GlobSegmentPart α)} {ls : List (List α)} {v : List α} {k : Nat}
    (hk : 0 < k) (hb : k ≤ (ls.flatten ++ v).length)
    (h : PartsMatch (ls.map .literal ++ ps) ((ls.flatten ++ v).drop k)) :
    v ≠ [] ∧ ∃ j, PartsMatch ps (v.drop j) := by
  obtain ⟨w, he, h⟩ := partsMatch_literals.mp h
  have hl := congrArg List.length he
  simp only [List.length_drop, List.length_append] at hl hb
  refine ⟨List.length_pos_iff.mp (by omega), v.length - w.length, ?_⟩
  suffices hs : v.drop (v.length - w.length) = w by rwa [hs]
  have hw : w <:+ ls.flatten ++ v := (List.suffix_append _ w).trans (he ▸ List.drop_suffix k _)
  have hv := List.suffix_of_suffix_length_le hw (List.suffix_append _ v) (by omega)
  exact (List.suffix_iff_eq_drop.mp hv).symm

theorem not_later (hb : s.backtrack = none) : ¬s.Later := by
  rintro ⟨_, _, h, _⟩
  rw [hb] at h
  cases h

theorem fallBack_spec (hs : s.Sound) (hm : s.value ≠ []) :
    (s.fallBack = none → ¬s.Later) ∧
      ∀ n, s.fallBack = some n → n.Sound ∧ (n.Finds ↔ s.Later) := by
  rw [SegmentScan.fallBack]
  cases hb : s.backtrack with
  | none =>
    refine ⟨fun _ => not_later hb, ?_⟩
    rintro _ ⟨⟩
  | some p =>
    obtain ⟨r, st⟩ := p
    obtain ⟨hr, ls, _, he⟩ := hs.point r st hb
    have hl : 0 < st.length := by
      rw [he, List.length_append]
      have := List.length_pos_iff.mpr hm
      omega
    refine ⟨fun h => absurd h (Option.some_ne_none _), ?_⟩
    rintro _ ⟨⟩
    refine ⟨⟨hr, ?_⟩, ?_⟩
    · rintro _ _ ⟨⟩
      exact ⟨hr, [], rfl, rfl⟩
    · simp only [SegmentScan.Finds, SegmentScan.Later, hb, Option.some.injEq, Prod.mk.injEq]
      constructor
      · rintro (h | ⟨_, _, ⟨rfl, rfl⟩, k, hk, hb, h⟩)
        · exact ⟨r, st, ⟨rfl, rfl⟩, 1, Nat.one_pos, hl, h⟩
        · rw [List.length_drop] at hb
          exact ⟨r, st, ⟨rfl, rfl⟩, 1 + k, by omega, by omega, by rwa [List.drop_drop] at h⟩
      · rintro ⟨_, _, ⟨rfl, rfl⟩, k, hk, hb, h⟩
        obtain rfl | hk := (Nat.succ_le_of_lt hk).eq_or_lt
        · exact .inl h
        · refine .inr ⟨_, _, ⟨rfl, rfl⟩, k - 1, by omega, by rw [List.length_drop]; omega, ?_⟩
          rwa [List.drop_drop, Nat.add_sub_cancel' (by omega)]

variable [DecidableEq α]

/-- One round finds what is left to find; a star makes the older ones needless, since it can take
what they would have. -/
theorem round_spec (hs : s.Sound) (hm : s.value ≠ []) :
    (s.round = none → ¬s.Finds) ∧ ∀ n, s.round = some n → n.Sound ∧ (n.Finds ↔ s.Finds) := by
  obtain ⟨ps, v, b, ha⟩ := s
  -- Where the parts left do not match here, the round falls back.
  have falls {q : SegmentScan α} (hq : q.Sound) (hv : q.value ≠ [])
      (hn : ¬PartsMatch q.parts q.value) : (q.fallBack = none → ¬q.Finds) ∧
      ∀ n, q.fallBack = some n → n.Sound ∧ (n.Finds ↔ q.Finds) := by
    rw [SegmentScan.Finds, or_iff_right hn]
    exact fallBack_spec hq hv
  cases ps with
  | nil => exact falls hs hm hm
  | cons p ps =>
    cases p with
    | literal t =>
      rw [SegmentScan.round]
      split
      · next ht =>
        obtain ⟨w, rfl⟩ := List.isPrefixOf_iff_prefix.mp ht
        refine ⟨fun h => absurd h (Option.some_ne_none _), ?_⟩
        rintro _ ⟨⟩
        refine ⟨⟨fun h => hs.runs (.tail _ h), fun r st he => ?_⟩, ?_⟩
        · obtain ⟨hr, ls, hp, hst⟩ := hs.point r st he
          refine ⟨hr, ls ++ [t], by simpa using hp, ?_⟩
          simpa using hst
        · simp [SegmentScan.Finds, SegmentScan.Later, PartsMatch]
      · next ht =>
        refine falls hs hm ?_
        rintro ⟨w, he, _⟩
        exact ht (List.isPrefixOf_iff_prefix.mpr ⟨w, he.symm⟩)
    | star =>
      refine ⟨fun h => absurd h (Option.some_ne_none _), ?_⟩
      rintro _ ⟨⟩
      have hr : Runs ps := fun h => hs.runs (.tail _ h)
      refine ⟨⟨hr, ?_⟩, ?_⟩
      · rintro _ _ ⟨⟩
        exact ⟨hr, [], rfl, rfl⟩
      · constructor
        · rintro (h | ⟨_, _, ⟨⟩, k, _, _, h⟩)
          · exact .inl ⟨0, h⟩
          · exact .inl ⟨k, h⟩
        · intro h
          have found : ∃ k, PartsMatch ps (v.drop k) := by
            rcases h with h | ⟨r, st, he, k, hk, hb, h⟩
            · exact h
            · obtain ⟨_, ls, rfl, rfl⟩ := hs.point r st he
              obtain ⟨_, j, i, h⟩ := later_rest hk hb h
              exact ⟨j + i, by rwa [List.drop_drop] at h⟩
          obtain ⟨k, h⟩ := found
          obtain rfl | hk := Nat.eq_zero_or_pos k
          · exact .inl h
          · refine .inr ⟨ps, v, rfl, min k v.length, ?_, Nat.min_le_right _ _, ?_⟩
            · have := List.length_pos_iff.mpr hm
              exact lt_min hk this
            · rcases Nat.le_total k v.length with hl | hl
              · rwa [Nat.min_eq_left hl]
              · rwa [Nat.min_eq_right hl, List.drop_length, ← List.drop_of_length_le hl]

end GlobLemmas

variable [DecidableEq α]

theorem segmentScan_iff (scan : SegmentScan α) (sound : scan.Sound) :
    segmentScan scan = true ↔ scan.Finds := by
  induction scan using segmentScan.induct with
  | case1 scan none_left =>
    rw [segmentScan, dif_pos none_left, List.all_eq_true]
    simp only [decide_eq_true_eq]
    rw [← partsMatch_nil sound.runs, SegmentScan.Finds, none_left, or_iff_left]
    rintro ⟨rest, start, point, k, more, bound, found⟩
    obtain ⟨_, literals, rfl, rfl⟩ := sound.point rest start point
    exact (later_rest more bound found).1 none_left
  | case2 scan more stuck =>
    rw [segmentScan, dif_neg more]
    refine iff_of_false ?_ ((round_spec sound more).1 stuck)
    split
    · exact Bool.false_ne_true
    · next moved => exact nomatch stuck.symm.trans moved
  | case3 scan more next moved ih =>
    obtain ⟨sound', same⟩ := (round_spec sound more).2 next moved
    rw [← same, ← ih sound', segmentScan, dif_neg more]
    split
    · next stuck => exact nomatch stuck.symm.trans moved
    · next moved' => rw [Option.some.inj (moved.symm.trans moved')]

theorem segmentMatches_iff (glob value : List α) :
    segmentMatches (compileParts star [] glob) value = true ↔ SegmentMatches star glob value := by
  rw [segmentMatches, segmentScan_iff _ ⟨runs_compileParts glob [], by rintro _ _ ⟨⟩⟩, SegmentScan.Finds,
    or_iff_left (not_later rfl), partsMatch_compileParts]
  simp

/-! ## The walk over the segments -/

namespace GlobLemmas

variable {ls : List (List α)} {r : List Bool} {j : Nat}

omit [DecidableEq α] in
theorem path_nil_iff : PathMatches star [] ls ↔ ls = [] := by
  constructor
  · rintro ⟨⟩
    rfl
  · rintro rfl
    exact .nil

omit [DecidableEq α] in
theorem path_across_iff {gs : List (List α)} :
    PathMatches star ([star, star] :: gs) ls ↔ ∃ k, PathMatches star gs (ls.drop k) := by
  rw [← exists_append_iff]
  constructor
  · intro h
    cases h with
    | across a h => exact ⟨a, _, rfl, h⟩
    | segment hn => exact absurd rfl hn
  · rintro ⟨a, w, rfl, h⟩
    exact .across a h

omit [DecidableEq α] in
theorem path_segment_iff {g : List α} {gs : List (List α)} (hn : g ≠ [star, star]) :
    PathMatches star (g :: gs) ls ↔
      ∃ v w, ls = v :: w ∧ SegmentMatches star g v ∧ PathMatches star gs w := by
  constructor
  · intro h
    cases h with
    | across => exact absurd rfl hn
    | segment _ hv h => exact ⟨_, _, rfl, hv, h⟩
  · rintro ⟨v, w, rfl, hv, h⟩
    exact .segment hn hv h

theorem reachOnward_iff : ∀ {r : List Bool} {b : Bool} {j : Nat},
    (reachOnward b r)[j]? = some true ↔ j < r.length ∧ (b = true ∨ ∃ i ≤ j, r[i]? = some true)
  | [], b, j => by simp [reachOnward]
  | x :: r, b, 0 => by simp [reachOnward]
  | x :: r, b, j + 1 => by
    rw [reachOnward, List.getElem?_cons_succ, reachOnward_iff, List.length_cons, Bool.or_eq_true,
      Nat.add_lt_add_iff_right, or_assoc]
    refine and_congr_right fun _ => or_congr_right ?_
    constructor
    · rintro (h | ⟨i, hi, h⟩)
      · exact ⟨0, Nat.zero_le _, congrArg some h⟩
      · exact ⟨i + 1, Nat.succ_le_succ hi, h⟩
    · rintro ⟨i, hi, h⟩
      cases i with
      | zero => exact .inl (Option.some.inj h)
      | succ i => exact .inr ⟨i, Nat.le_of_succ_le_succ hi, h⟩

theorem length_reachOnward : ∀ {r : List Bool} {b : Bool},
    (reachOnward b r).length = r.length
  | [], _ => rfl
  | _ :: _, _ => congrArg Nat.succ length_reachOnward

theorem length_reachNext (hr : r.length = ls.length + 1) (g : GlobSegment α) :
    (reachNext ls r g).length = ls.length + 1 := by
  rw [reachNext]
  split
  · rw [length_reachOnward, hr]
  · rw [List.length_cons, List.length_map, List.length_zip, hr, Nat.min_eq_right (Nat.le_succ _)]

theorem reachNext_single (g : List α) : (reachNext ls r ⟨false, compileParts star [] g⟩)[j]? =
    some true ↔ ∃ i v, j = i + 1 ∧ r[i]? = some true ∧ ls[i]? = some v ∧
      SegmentMatches star g v := by
  cases j with
  | zero => simp [reachNext]
  | succ i =>
    simp only [reachNext, Bool.false_eq_true, if_false, List.getElem?_cons_succ, List.getElem?_map,
      List.getElem?_zip_eq_some, Option.map_eq_some_iff, Prod.exists, Bool.and_eq_true,
      segmentMatches_iff, Nat.add_right_cancel_iff]
    constructor
    · rintro ⟨_, v, ⟨hr, hl⟩, rfl, hm⟩
      exact ⟨i, v, rfl, hr, hl, hm⟩
    · rintro ⟨_, v, rfl, hr, hl, hm⟩
      exact ⟨true, v, ⟨hr, hl⟩, rfl, hm⟩

theorem foldl_reachNext (gs : List (List α)) : ∀ {r : List Bool}, r.length = ls.length + 1 →
    (((gs.map (compileSegment star)).foldl (reachNext ls) r).getLast? = some true ↔
      ∃ i, r[i]? = some true ∧ PathMatches star gs (ls.drop i)) := by
  induction gs with
  | nil =>
    intro r hr
    simp only [List.map_nil, List.foldl_nil, path_nil_iff, List.drop_eq_nil_iff,
      List.getLast?_eq_getElem?, hr, Nat.add_sub_cancel]
    refine ⟨fun h => ⟨_, h, le_rfl⟩, fun ⟨i, h, hl⟩ => ?_⟩
    obtain ⟨hi, _⟩ := List.getElem?_eq_some_iff.mp h
    rwa [show ls.length = i by omega]
  | cons g gs ih =>
    intro r hr
    rw [List.map_cons, List.foldl_cons, ih (length_reachNext hr _), compileSegment]
    split
    · next he =>
      subst he
      simp only [reachNext, if_true, reachOnward_iff, Bool.false_eq_true, false_or,
        path_across_iff, List.drop_drop]
      constructor
      · rintro ⟨j, ⟨_, i, hi, h⟩, hp⟩
        exact ⟨i, h, j - i, by rwa [Nat.add_sub_cancel' hi]⟩
      · rintro ⟨i, h, k, hp⟩
        obtain ⟨hi, _⟩ := List.getElem?_eq_some_iff.mp h
        rcases Nat.le_total (i + k) ls.length with hl | hl
        · exact ⟨i + k, ⟨by omega, i, Nat.le_add_right i k, h⟩, hp⟩
        · refine ⟨ls.length, ⟨by omega, i, by omega, h⟩, ?_⟩
          rwa [List.drop_length, ← List.drop_of_length_le hl]
    · next hn =>
      simp only [reachNext_single, path_segment_iff hn]
      constructor
      · rintro ⟨_, ⟨i, v, rfl, h, hl, hm⟩, hp⟩
        obtain ⟨hi, rfl⟩ := List.getElem?_eq_some_iff.mp hl
        exact ⟨i, h, _, _, List.drop_eq_getElem_cons hi, hm, hp⟩
      · rintro ⟨i, h, v, w, he, hm, hp⟩
        have hl : ls[i]? = some v := by
          rw [← Nat.add_zero i, ← List.getElem?_drop, he]
          rfl
        refine ⟨i + 1, ⟨i, v, rfl, h, hl, hm⟩, ?_⟩
        rwa [← List.drop_drop, he]

end GlobLemmas

variable {separator : α}

theorem globMatches_iff (glob : List α) (locator : List (List α)) :
    globMatches (compileNormalizedGlob star separator glob) locator = true ↔
      PathMatches star (glob.splitOn separator) locator := by
  rw [globMatches, decide_eq_true_eq, compileNormalizedGlob, foldl_reachNext _ (by simp)]
  constructor
  · rintro ⟨i, reached, found⟩
    cases i with
    | zero => exact found
    | succ i => simp [List.getElem?_replicate] at reached
  · exact fun found => ⟨0, rfl, found⟩

theorem no_endless_scan (run : Nat → SegmentScan α) :
    ¬∀ n, (run n).value ≠ [] ∧ (run n).round = some (run (n + 1)) := by
  intro endless
  have wellFounded : WellFounded (SegmentScan.Smaller (α := α)) :=
    InvImage.wf SegmentScan.size (WellFoundedRelation.wf)
  exact (wellFounded_iff_isEmpty_descending_chain.mp wellFounded).false
    ⟨run, fun n => SegmentScan.round_smaller (endless n).1 (endless n).2⟩

/-! ## Code units -/

namespace GlobLemmas

def Low (u : UInt16) : Prop := 0xDC00 ≤ u.toNat ∧ u.toNat ≤ 0xDFFF

theorem units_cases (c : Char) :
    (c.toNat < 0x10000 ∧ jsString [c] = [unit c] ∧
      ((unit c).toNat < 0xD800 ∨ 0xDFFF < (unit c).toNat)) ∨
    ∃ h l, jsString [c] = [h, l] ∧ (0xD800 ≤ h.toNat ∧ h.toNat ≤ 0xDBFF) ∧ Low l := by
  have hr := scalar_range c
  by_cases hb : c.toNat < 0x10000
  · refine .inl ⟨hb, jsString_basic hb, ?_⟩
    rw [toNat_unit hb]
    exact hr.imp_right And.left
  · rw [jsString, utf16, List.flatMap_singleton, utf16Units, if_neg hb]
    refine .inr ⟨_, _, rfl, ?_, ?_⟩
    · rw [UInt16.toNat_ofNat_of_lt' (show _ < 0x10000 by omega)]
      omega
    · rw [Low, UInt16.toNat_ofNat_of_lt' (show _ < 0x10000 by omega)]
      omega

theorem unit_ne_of_mem {c d : Char} (hd : d.toNat < 0xD800) (hn : c ≠ d) {u : UInt16}
    (hm : u ∈ jsString [c]) : u ≠ unit d := by
  have hu := toNat_unit (c := d) (by omega)
  rcases units_cases c with ⟨hb, he, _⟩ | ⟨h, l, he, hh, hl, _⟩
  · rw [he, List.mem_singleton] at hm
    rw [hm]
    exact unit_ne hb (by omega) hn
  · rintro rfl
    rw [he, List.mem_pair] at hm
    rcases hm with rfl | rfl
    · omega
    · omega

theorem cons_of_units {c : Char} {v : Text} {w : JsString}
    (he : jsString v = jsString [c] ++ w) : ∃ v', v = c :: v' ∧ w = jsString v' := by
  cases v with
  | nil =>
    have hl := congrArg List.length he
    rcases units_cases c with ⟨_, hc, _⟩ | ⟨_, _, hc, _⟩
    · rw [hc] at hl
      cases hl
    · rw [hc] at hl
      cases hl
  | cons d v =>
    rw [jsString_cons] at he
    suffices hs : (jsString [d]).length = (jsString [c]).length by
      obtain ⟨hd, hv⟩ := List.append_inj he hs
      cases jsString_injective hd
      exact ⟨v, rfl, hv.symm⟩
    -- The first unit says whether a second one belongs to it.
    rcases units_cases d with ⟨_, hd, hb⟩ | ⟨_, _, hd, hb, _⟩ <;>
      rcases units_cases c with ⟨_, hc, hb'⟩ | ⟨_, _, hc, hb', _⟩ <;>
      rw [hd, hc] at he ⊢
    · rfl
    · rw [(List.cons.inj he).1] at hb
      omega
    · rw [(List.cons.inj he).1] at hb
      omega
    · rfl

theorem drop_units (v : Text) : ∀ k : Nat, ∃ j, (jsString v).drop k = jsString (v.drop j) ∨
    ∃ l, Low l ∧ (jsString v).drop k = l :: jsString (v.drop j) := by
  induction v with
  | nil => exact fun k => ⟨0, .inl List.drop_nil⟩
  | cons c v ih =>
    intro k
    have later {r : JsString} {i : Nat} (he : jsString [c] = r) (hk : k = i + r.length) :
        ∃ j, (jsString (c :: v)).drop k = jsString ((c :: v).drop j) ∨
          ∃ l, Low l ∧ (jsString (c :: v)).drop k = l :: jsString ((c :: v).drop j) := by
      rw [jsString_cons, he, hk, Nat.add_comm, ← List.drop_drop, List.drop_left]
      obtain ⟨j, h⟩ := ih i
      exact ⟨j + 1, h⟩
    rcases units_cases c with ⟨_, he, _⟩ | ⟨h, l, he, _, hl⟩
    · match k with
      | 0 => exact ⟨0, .inl rfl⟩
      | i + 1 => exact later he rfl
    · match k with
      | 0 => exact ⟨0, .inl rfl⟩
      | 1 => exact ⟨1, .inr ⟨l, hl, by rw [jsString_cons, he]; rfl⟩⟩
      | i + 2 => exact later he rfl

theorem segment_of_low {u : UInt16} (hl : Low u) {w : JsString} : ∀ p : Text,
    SegmentMatches (unit '*') (jsString p) (u :: w) → SegmentMatches (unit '*') (jsString p) w
  | [], h => nomatch segment_nil_iff.mp h
  | c :: p, h => by
    obtain rfl | hc := eq_or_ne c '*'
    · rw [jsString_cons, jsString_basic (c := '*') (by decide), List.singleton_append] at h ⊢
      obtain ⟨k, h⟩ := segment_star_iff.mp h
      refine segment_star_iff.mpr ?_
      cases k with
      | zero => exact ⟨0, segment_of_low hl p h⟩
      | succ k => exact ⟨k, h⟩
    · exfalso
      have ho {x : UInt16} (hm : x ∈ jsString [c]) : x ≠ unit '*' :=
        unit_ne_of_mem (by decide) hc hm
      rw [jsString_cons] at h
      rw [Low] at hl
      rcases units_cases c with ⟨_, he, hb⟩ | ⟨x, y, he, hb, _⟩ <;> rw [he] at h ho
      · obtain ⟨_, hw, _⟩ := (segment_other_iff (ho List.mem_cons_self)).mp h
        cases hw
        omega
      · obtain ⟨_, hw, _⟩ := (segment_other_iff (ho List.mem_cons_self)).mp h
        cases hw
        omega

theorem segment_literals {p v : JsString} : ∀ {r : JsString}, (∀ u ∈ r, u ≠ unit '*') →
    (SegmentMatches (unit '*') (r ++ p) v ↔
      ∃ w, v = r ++ w ∧ SegmentMatches (unit '*') p w)
  | [], _ => by simp
  | u :: r, ho => by
    rw [List.cons_append, segment_other_iff (ho u List.mem_cons_self)]
    simp only [segment_literals fun u hm => ho u (.tail _ hm)]
    constructor
    · rintro ⟨_, rfl, w, rfl, h⟩
      exact ⟨w, rfl, h⟩
    · rintro ⟨w, rfl, h⟩
      exact ⟨_, rfl, w, rfl, h⟩

end GlobLemmas

theorem segmentMatches_units (pattern : Text) : ∀ value : Text,
    SegmentMatches (unit '*') (jsString pattern) (jsString value) ↔
      SegmentMatches '*' pattern value := by
  induction pattern with
  | nil =>
    intro value
    rw [segment_nil_iff]
    refine segment_nil_iff.trans ⟨fun none_left => ?_, fun none_left => none_left ▸ rfl⟩
    exact jsString_injective none_left
  | cons c pattern ih =>
    intro value
    obtain rfl | other := eq_or_ne c '*'
    · rw [jsString_cons, jsString_basic (c := '*') (by decide), List.singleton_append,
        segment_star_iff, segment_star_iff]
      constructor
      · rintro ⟨k, found⟩
        obtain ⟨j, whole | ⟨low, half, cut⟩⟩ := drop_units value k
        · exact ⟨j, (ih _).mp (whole ▸ found)⟩
        · exact ⟨j, (ih _).mp (segment_of_low half pattern (cut ▸ found))⟩
      · rintro ⟨k, found⟩
        refine ⟨(jsString (value.take k)).length, ?_⟩
        have whole : jsString value = jsString (value.take k) ++ jsString (value.drop k) := by
          rw [← jsString_append, List.take_append_drop]
        rw [whole, List.drop_left]
        exact (ih _).mpr found
    · rw [jsString_cons, segment_literals fun u member => unit_ne_of_mem (by decide) other member,
        segment_other_iff other]
      constructor
      · rintro ⟨_, split, found⟩
        obtain ⟨rest, rfl, rfl⟩ := cons_of_units split
        exact ⟨rest, rfl, (ih rest).mp found⟩
      · rintro ⟨rest, rfl, found⟩
        exact ⟨_, jsString_cons c rest, (ih rest).mpr found⟩

theorem pathMatches_units : ∀ globs locator : List Text,
    PathMatches (unit '*') (globs.map jsString) (locator.map jsString) ↔
      PathMatches '*' globs locator
  | [], locator => by simp [path_nil_iff]
  | glob :: globs, locator => by
    have stars : jsString ['*', '*'] = [unit '*', unit '*'] := by decide
    rw [List.map_cons]
    by_cases double : glob = ['*', '*']
    · rw [double, stars, path_across_iff, path_across_iff]
      simp only [← List.map_drop, pathMatches_units globs]
    · have single : jsString glob ≠ [unit '*', unit '*'] := fun same =>
        double (jsString_injective (same.trans stars.symm))
      rw [path_segment_iff single, path_segment_iff double]
      cases locator with
      | nil => simp
      | cons value locator =>
        simp [segmentMatches_units, pathMatches_units globs]

theorem splitOn_units (text : Text) :
    (jsString text).splitOn (unit '/') = (text.splitOn '/').map jsString := by
  induction text with
  | nil => rfl
  | cons c text ih =>
    have behind {w : JsString} : ∀ {r : JsString}, (∀ u ∈ r, u ≠ unit '/') →
        (r ++ w).splitOn (unit '/') = (w.splitOn (unit '/')).modifyHead (r ++ ·) := by
      intro r
      induction r with
      | nil =>
        intro _
        rw [List.nil_append]
        cases w.splitOn (unit '/') <;> rfl
      | cons u r ih =>
        intro other
        rw [List.cons_append, List.splitOn, List.splitOnP_cons_eq_if_modifyHead, if_neg]
        · have later := ih fun u member => other u (.tail _ member)
          rw [List.splitOn] at later
          rw [later]
          simp [List.splitOn, Function.comp_def]
        · simpa using other u List.mem_cons_self
    rw [jsString_cons]
    obtain rfl | other := eq_or_ne c '/'
    · rw [jsString_basic (c := '/') (by decide), List.singleton_append]
      simp [List.splitOn, List.splitOnP_cons_eq_if_modifyHead] at ih ⊢
      exact ⟨rfl, ih⟩
    · rw [behind fun u member => unit_ne_of_mem (by decide) other member, ih]
      simp only [List.splitOn, List.splitOnP_cons_eq_if_modifyHead, beq_iff_eq, other, if_false]
      cases text.splitOnP (· == '/') with
      | nil => rfl
      | cons value rest => simp [jsString_cons c value]

/-- Matching is right on both sides, for every glob that normalizes, every locator: it decides
the meaning of the glob, the same on code units, and no scan goes on for ever. -/
theorem globMatches_exact (nfc : Text → Text) (pattern glob locator : Text)
    (normalized : normalizeGlobText nfc (pattern.map .scalar) = .ok glob) :
    (∃ compiled jsCompiled, compileGlob nfc (pattern.map .scalar) = .ok compiled ∧
      compilePolicyGlob nfc (jsString pattern) = .ok jsCompiled ∧
      (globMatches compiled (locatorSegments locator) = true ↔
        PathMatches '*' (locatorSegments glob) (locatorSegments locator)) ∧
      globMatches jsCompiled ((jsString locator).splitOn (unit '/')) =
        globMatches compiled (locatorSegments locator)) ∧
    (∀ run : Nat → SegmentScan Char,
      ¬∀ n, (run n).value ≠ [] ∧ (run n).round = some (run (n + 1))) ∧
    ∀ run : Nat → SegmentScan UInt16,
      ¬∀ n, (run n).value ≠ [] ∧ (run n).round = some (run (n + 1)) := by
  have checked : checkGlobText nfc (some pattern) = .ok glob := by
    rwa [normalizeGlobText, characters_scalar] at normalized
  refine ⟨⟨compileNormalizedGlob '*' '/' glob,
    compileNormalizedGlob (unit '*') (unit '/') (jsString glob), ?_, ?_, globMatches_iff _ _, ?_⟩,
    no_endless_scan, no_endless_scan⟩
  · rw [compileGlob, normalized]
    rfl
  · rw [compilePolicyGlob, normalizeJsGlobText, codePoints_jsString, checked]
    rfl
  · rw [Bool.eq_iff_iff, globMatches_iff, globMatches_iff, splitOn_units, splitOn_units,
      pathMatches_units]
    rfl

/-- A glob with both wildcards, and a locator outside the Basic Multilingual Plane. -/
theorem globMatches_exact_nested : ∃ compiled jsCompiled,
    compileGlob id ("a/**/*.md".toList.map .scalar) = .ok compiled ∧
    compilePolicyGlob id (jsString "a/**/*.md".toList) = .ok jsCompiled ∧
    (globMatches compiled (locatorSegments "a/b/𝄞.md".toList) = true ↔
      PathMatches '*' (locatorSegments "a/**/*.md".toList) (locatorSegments "a/b/𝄞.md".toList)) ∧
    globMatches jsCompiled ((jsString "a/b/𝄞.md".toList).splitOn (unit '/')) =
      globMatches compiled (locatorSegments "a/b/𝄞.md".toList) :=
  (globMatches_exact id "a/**/*.md".toList "a/**/*.md".toList "a/b/𝄞.md".toList (by decide)).1

end PersonalOs.ExclusionPolicy
