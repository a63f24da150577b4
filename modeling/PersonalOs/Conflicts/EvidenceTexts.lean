import PersonalOs.Conflicts.MergeDecomposition
import PersonalOs.ExclusionPolicy.CanonicalTexts

/-!
# Texts of downloaded evidence

`decodeConflictEvidenceText` and what comes of a text that is merged with an unchanged local side:
the text of the remote evidence. The decoder drops one byte order mark before the text.
-/

namespace PersonalOs.Conflicts

open Alignments HunkLemmas
open ExclusionPolicy (JsString utf8ByteLength jsString codePoints codePoints_jsString utf8)

/-! ## Decoding -/

inductive ConflictEvidenceTextDecode
  | text (text : JsString)
  | mediaUnsupported
  | bytesExceeded
  | textUndecodable
deriving DecidableEq

def isMergeSupportedMediaType (mediaType : String) : Bool :=
  mediaType ∈ ["text/markdown", "text/plain"]

/-- U+FEFF in UTF-8. -/
def byteOrderMark : List UInt8 := [0xEF, 0xBB, 0xBF]

def withoutMark (bytes : List UInt8) : List UInt8 :=
  if byteOrderMark <+: bytes then bytes.drop 3 else bytes

/-- `FATAL_UTF8_DECODER.decode`: a byte order mark is dropped, malformed bytes throw. -/
def fatalDecode (bytes : List UInt8) : Option JsString :=
  (withoutMark bytes).toByteArray.utf8Decode?.map fun chars => jsString chars.toList

def decodeConflictEvidenceText (bytes : List UInt8) (mediaType : String) :
    ConflictEvidenceTextDecode :=
  if !isMergeSupportedMediaType mediaType then .mediaUnsupported
  else if mergeInputMaximumBytes < bytes.length then .bytesExceeded
  else match fatalDecode bytes with
    | some text => .text text
    | none => .textUndecodable

/-- The scalar values of a text; half a pair alone counts as the replacement character. -/
def scalarValues : JsString → Text
  | [] => []
  | [unit] =>
    [if 0xD800 ≤ unit.toNat ∧ unit.toNat < 0xE000 then '\uFFFD' else Char.ofNat unit.toNat]
  | unit :: next :: rest =>
    if 0xD800 ≤ unit.toNat ∧ unit.toNat < 0xDC00 ∧ 0xDC00 ≤ next.toNat ∧ next.toNat < 0xE000 then
      Char.ofNat (0x10000 + (unit.toNat - 0xD800) * 0x400 + (next.toNat - 0xDC00)) ::
        scalarValues rest
    else
      (if 0xD800 ≤ unit.toNat ∧ unit.toNat < 0xE000 then '\uFFFD' else Char.ofNat unit.toNat) ::
        scalarValues (next :: rest)

/-- `TEXT_ENCODER.encode`. -/
def encodeText (text : JsString) : List UInt8 := utf8 (scalarValues text)

theorem scalarValues_codePoints {s : JsString} {t : Text} (read : codePoints s = some t) :
    scalarValues s = t := by
  fun_induction codePoints s generalizing t with
  | case1 =>
    cases read
    rfl
  | case2 | case4 | case5 => cases read
  | case3 unit high next rest low ih =>
    obtain ⟨u, later, rfl⟩ := Option.map_eq_some_iff.mp read
    rw [scalarValues, if_pos (by omega), ih later]
  | case6 unit rest high low ih =>
    obtain ⟨u, later, rfl⟩ := Option.map_eq_some_iff.mp read
    have alone : ¬(0xD800 ≤ unit.toNat ∧ unit.toNat < 0xE000) := by omega
    rw [← ih later]
    cases rest with
    | nil => rw [scalarValues.eq_2, if_neg alone, scalarValues.eq_1]
    | cons next rest => rw [scalarValues, if_neg (by omega), if_neg alone]

theorem encodeText_jsString (t : Text) : encodeText (jsString t) = utf8 t := by
  rw [encodeText, scalarValues_codePoints (codePoints_jsString t)]

/-- What the decoder accepts are the bytes of characters, behind a byte order mark or not. -/
theorem decoded_characters {bytes : List UInt8} {mediaType : String} {text : JsString}
    (decoded : decodeConflictEvidenceText bytes mediaType = .text text) :
    bytes.length ≤ mergeInputMaximumBytes ∧
      ∃ t, text = jsString t ∧ utf8 t = withoutMark bytes := by
  unfold decodeConflictEvidenceText at decoded
  split at decoded
  · cases decoded
  split at decoded
  · cases decoded
  next small =>
    split at decoded
    · next read =>
      cases decoded
      obtain ⟨chars, isRead, rfl⟩ := Option.map_eq_some_iff.mp read
      refine ⟨Nat.not_lt.mp small, chars.toList, rfl, ?_⟩
      have whole := ByteArray.utf8Encode_get_utf8Decode?
        (b := (withoutMark bytes).toByteArray) (h := by rw [isRead]; rfl)
      simp only [isRead, Option.get_some] at whole
      have data := congrArg (fun b => b.data.toList) whole
      simpa [List.utf8Encode, utf8] using data
    · cases decoded

theorem encodeText_of_decoded {bytes : List UInt8} {mediaType : String} {text : JsString}
    (decoded : decodeConflictEvidenceText bytes mediaType = .text text) :
    encodeText text = withoutMark bytes := by
  obtain ⟨_, t, rfl, read⟩ := decoded_characters decoded
  rw [encodeText_jsString, read]

/-! ## Sizes and lines -/

theorem utf8ByteLength_of_decoded {bytes : List UInt8} {mediaType : String} {text : JsString}
    (decoded : decodeConflictEvidenceText bytes mediaType = .text text) :
    utf8ByteLength text ≤ mergeInputMaximumBytes := by
  obtain ⟨small, t, rfl, read⟩ := decoded_characters decoded
  rw [ExclusionPolicy.TextLemmas.utf8ByteLength_jsString, read]
  refine Nat.le_trans ?_ small
  unfold withoutMark
  split
  · rw [List.length_drop]
    exact Nat.sub_le _ _
  · exact Nat.le_refl _

theorem splitLines_cons (s : JsString) : ∃ line lines, splitLines s = line :: lines := by
  fun_cases splitLines s with
  | case1 => exact ⟨_, _, rfl⟩
  | case2 => exact ⟨_, _, rfl⟩
  | case3 => exact ⟨_, _, rfl⟩
  | case4 => exact ⟨_, _, rfl⟩

theorem joinLines_splitLines (s : JsString) : joinLines (splitLines s) = s := by
  induction s with
  | nil => rfl
  | cons unit rest ih =>
    obtain ⟨line, lines, is⟩ := splitLines_cons rest
    rw [is] at ih
    rw [splitLines, is]
    split
    · next isEnd =>
      rw [← ih, isEnd]
      simp [joinLines, List.intercalate]
    · rw [← ih]
      cases lines <;> simp [joinLines, List.intercalate]

/-! ## An unchanged local side -/

section Unchanged

variable {baseLines remoteLines : List Line} {path : Nat → Nat → Prop} {b r : Nat}
  {hs : List TaggedHunk}

theorem mergeRegions_remote (localLines : List Line)
    (tiles : Tiles baseLines remoteLines path b r (hunksOf .remote hs))
    (unchanged : hunksOf .local hs = [])
    (sorted : hs.Pairwise fun left right => left.baseStart ≤ right.baseStart) :
    mergeRegions baseLines remoteLines localLines b hs =
      (slice remoteLines r remoteLines.length, 0) := by
  induction b, hs using mergeRegions.induct baseLines remoteLines localLines generalizing r with
  | case1 b =>
    obtain ⟨n, ends, ends', same, _⟩ := tiles
    have equal := slice_of_matches same
    rw [ends, ends'] at equal
    rw [mergeRegions, ← equal]
    split
    · rfl
    · rw [show b = baseLines.length by omega, slice_self]
  | case2 b lead hs expanded =>
    rename_i ih
    have starts : ∀ h ∈ lead :: hs, lead.baseStart ≤ h.baseStart :=
      List.forall_mem_cons.mpr ⟨Nat.le_refl _, (List.pairwise_cons.mp sorted).1⟩
    have side : ∀ h ∈ lead :: hs, h.side = .remote := by
      intro h hh
      cases is : h.side with
      | remote => rfl
      | «local» => exact absurd (mem_hunksOf hh is) (by rw [unchanged]; exact List.not_mem_nil)
    have isRemote : ∀ h ∈ lead :: hs, h.toSideHunk ∈ hunksOf .remote (lead :: hs) :=
      fun h hh => mem_hunksOf hh (side h hh)
    obtain ⟨from_le, forward, ends⟩ := tiles.of_mem (isRemote lead List.mem_cons_self)
    obtain ⟨n, start⟩ := Nat.exists_eq_add_of_le from_le
    have ofSide : ∀ h ∈ hunksOf .remote (lead :: hs), b + n ≤ h.baseStart := by
      intro h hh
      obtain ⟨t, ht, _, rfl⟩ := of_mem_hunksOf hh
      exact start ▸ starts t ht
    obtain ⟨gap, atRegion⟩ := tiles.skip (by omega) ofSide
    obtain ⟨split, le, inside, outside, least⟩ :=
      expandRegion_spec lead.baseEnd (List.pairwise_cons.mp sorted).2
    have within : (expandRegion lead.baseEnd hs).1 ≤ baseLines.length :=
      least _ ends fun h hh => (tiles.of_mem (isRemote h (List.mem_cons_of_mem _ hh))).2.2
    have cut : lead :: hs = (lead :: (expandRegion lead.baseEnd hs).2.1) ++
        (expandRegion lead.baseEnd hs).2.2 := congrArg (lead :: ·) split
    rw [cut, hunksOf_append] at atRegion unchanged
    obtain ⟨noLocal, noLater⟩ := List.append_eq_nil_iff.mp unchanged
    rw [← start] at atRegion
    obtain ⟨r', le', lines, later, _⟩ := tiles_region atRegion
      (fun h hh => by
        obtain ⟨t, ht, _, rfl⟩ := of_mem_hunksOf hh
        rcases List.mem_cons.mp ht with rfl | ht
        · exact le
        · exact inside t ht)
      (fun h hh => by
        obtain ⟨t, ht, _, rfl⟩ := of_mem_hunksOf hh
        exact Nat.le_of_lt (outside t ht))
      (Nat.le_trans forward le) within
    have rest := ih later noLater (by
      rw [split] at sorted
      exact (List.pairwise_append.mp (List.pairwise_cons.mp sorted).2).2.1)
    have isStart : (if b < lead.baseStart then lead.baseStart else b) = lead.baseStart := by
      split
      · rfl
      · omega
    have gapLines : (if b < lead.baseStart then slice baseLines b lead.baseStart else []) =
        slice remoteLines r (r + n) := by
      split
      · rw [start]
        exact gap
      · rw [show n = 0 by omega]
        exact (slice_self remoteLines r).symm
    have isSome : ¬(hunksOf .remote (lead :: (expandRegion lead.baseEnd hs).2.1)).length = 0 := by
      intro none
      have here := mem_hunksOf (List.mem_cons_self (l := (expandRegion lead.baseEnd hs).2.1))
        (side lead List.mem_cons_self)
      rw [List.length_eq_zero_iff.mp none] at here
      exact absurd here List.not_mem_nil
    have region : renderRegion baseLines remoteLines localLines lead.baseStart
        (expandRegion lead.baseEnd hs).1 (lead :: (expandRegion lead.baseEnd hs).2.1) =
          (slice remoteLines (r + n) r', 0) := by
      unfold renderRegion
      rw [if_neg isSome, if_pos (by rw [noLocal]; rfl), lines]
    rw [mergeRegions, isStart, gapLines, region, rest, slice_append (Nat.le_add_right r n) le',
      slice_append (by omega) later.within.2]
    rfl

theorem Tiles.otherEnd_le {hunk : SideHunk} {hunks : List SideHunk}
    (tiles : Tiles baseLines remoteLines path b r hunks) (member : hunk ∈ hunks) :
    hunk.otherEnd ≤ remoteLines.length := by
  induction hunks generalizing b r with
  | nil => exact nomatch member
  | cons first hunks ih =>
    obtain ⟨_, _, _, _, ends, later⟩ := tiles
    rcases List.mem_cons.mp member with rfl | member
    · exact ends
    · exact ih later member

theorem sideHunks_self (lines : List Line) : sideHunks lines lines = [] := by
  refine List.eq_nil_iff_forall_not_mem.mpr fun hunk member => ?_
  have tiles := computeSideRegions_tiles lines lines
  have whole : Matches lines lines 0 0 lines.length := fun i small => by
    rw [Nat.zero_add]
    exact ⟨lines[i], List.getElem?_eq_getElem small, List.getElem?_eq_getElem small⟩
  obtain ⟨_, _, ends⟩ := tiles.of_mem member
  refine computeSideRegions_tight lines lines hunk member 0 0 lines.length (.inl ⟨rfl, rfl⟩)
    (.inr (.inl ⟨Nat.zero_add _, Nat.zero_add _⟩)) whole (Nat.zero_le _) ?_ (Nat.zero_le _) ?_
  · rwa [Nat.zero_add]
  · rw [Nat.zero_add]
    exact Tiles.otherEnd_le tiles member

theorem computeBoundedThreeWayMerge_unchanged (base remote : JsString)
    (within : exceedsInputBounds base = false) (within' : exceedsInputBounds remote = false) :
    computeBoundedThreeWayMerge base remote base = ⟨.mergedClean, false, some remote, 0⟩ := by
  have remoteSorted := sideHunks_sorted (splitLines base) (splitLines remote)
  have noHunk := sideHunks_self (splitLines base)
  have onlyRemote : hunksOf .remote (taggedHunks (sideHunks (splitLines base) (splitLines remote))
      []) = sideHunks (splitLines base) (splitLines remote) :=
    hunksOf_taggedHunks .remote remoteSorted .nil
  have tiles := computeSideRegions_tiles (splitLines base) (splitLines remote)
  rw [← onlyRemote] at tiles
  have merged := mergeRegions_remote (splitLines base) tiles
    (hunksOf_taggedHunks .local remoteSorted .nil) (taggedHunks_sorted _ _)
  rw [slice_all] at merged
  unfold sideHunks at merged noHunk
  have small : utf8ByteLength remote ≤ mergeInputMaximumBytes := by
    simp only [exceedsInputBounds, Bool.or_eq_false_iff, decide_eq_false_iff_not] at within'
    exact Nat.not_lt.mp within'.1
  have fits : ¬mergeProposalMaximumBytes < utf8ByteLength remote := by
    unfold mergeInputMaximumBytes at small
    unfold mergeProposalMaximumBytes
    omega
  unfold computeBoundedThreeWayMerge
  simp [within, within', noHunk, merged, joinLines_splitLines, fits]

end Unchanged

/-! ## Evidence -/

/-- A text decodes from its bytes, whether a byte order mark stands before them or not. -/
theorem decoded_of_marked (t : Text) (small : (utf8 t).length + 3 ≤ mergeInputMaximumBytes) :
    decodeConflictEvidenceText (byteOrderMark ++ utf8 t) "text/markdown" =
      .text (jsString t) := by
  have mark : withoutMark (byteOrderMark ++ utf8 t) = utf8 t :=
    (if_pos (List.prefix_append _ _)).trans rfl
  have read : (utf8 t).toByteArray.utf8Decode? = some t.toArray := List.utf8Decode?_utf8Encode
  have short : ¬mergeInputMaximumBytes < (byteOrderMark ++ utf8 t).length := by
    rw [List.length_append]
    show ¬_ < 3 + _
    omega
  unfold decodeConflictEvidenceText fatalDecode
  rw [if_neg (by decide), if_neg short, mark, read]
  rfl

theorem lines_of_line_ends (n : Nat) :
    (utf8 (List.replicate n '\n')).length = n ∧
      (splitLines (jsString (List.replicate n '\n'))).length = n + 1 := by
  induction n with
  | zero => exact ⟨rfl, rfl⟩
  | succ n ih =>
    constructor
    · show ((10 : UInt8) :: utf8 (List.replicate n '\n')).length = n + 1
      rw [List.length_cons, ih.1]
    · show (splitLines (newline :: jsString (List.replicate n '\n'))).length = n + 1 + 1
      rw [splitLines, if_pos rfl, List.length_cons, ih.2]

/-- The text of evidence behind a byte order mark is encoded without the mark, and evidence of
4,097 lines is not merged. -/
theorem evidence_does_not_survive :
    (∃ bytes text, decodeConflictEvidenceText bytes "text/markdown" = .text text ∧
      encodeText text ≠ bytes) ∧
    ∃ bytes text, decodeConflictEvidenceText bytes "text/markdown" = .text text ∧
      (computeBoundedThreeWayMerge text text text).mergedText = none := by
  obtain ⟨size, lines⟩ := lines_of_line_ends 4096
  refine ⟨⟨byteOrderMark ++ utf8 ['a'], jsString ['a'], decoded_of_marked ['a'] (by decide), ?_⟩,
    _, jsString (List.replicate 4096 '\n'),
    decoded_of_marked _ (by rw [size]; decide), ?_⟩
  · rw [encodeText_jsString]
    decide
  · have exceeds : exceedsInputBounds (jsString (List.replicate 4096 '\n')) = true := by
      rw [exceedsInputBounds, lines]
      exact Bool.or_eq_true_iff.mpr (.inr (by decide))
    unfold computeBoundedThreeWayMerge
    rw [if_pos (by rw [List.any_cons, exceeds, Bool.true_or])]
    rfl

/-- A decoded text is encoded as its evidence, less the byte order mark the decoder drops; and a
merge of base and remote evidence that leaves the local side at the base, within the line bound,
offers the remote evidence. -/
theorem evidence_survives (baseBytes remoteBytes : List UInt8) (baseType remoteType : String)
    (base remote : JsString)
    (isBase : decodeConflictEvidenceText baseBytes baseType = .text base)
    (isRemote : decodeConflictEvidenceText remoteBytes remoteType = .text remote) :
    encodeText remote = withoutMark remoteBytes ∧
      ((splitLines base).length ≤ mergeInputMaximumLines →
        (splitLines remote).length ≤ mergeInputMaximumLines →
        computeBoundedThreeWayMerge base remote base =
          ⟨.mergedClean, false, some remote, 0⟩) := by
  have within : ∀ {bytes mediaType text},
      decodeConflictEvidenceText bytes mediaType = .text text →
      (splitLines text).length ≤ mergeInputMaximumLines → exceedsInputBounds text = false := by
    intro bytes mediaType text decoded few
    have small := utf8ByteLength_of_decoded decoded
    simp only [exceedsInputBounds, Bool.or_eq_false_iff, decide_eq_false_iff_not]
    exact ⟨Nat.not_lt.mpr small, Nat.not_lt.mpr few⟩
  exact ⟨encodeText_of_decoded isRemote, fun lines lines' =>
    computeBoundedThreeWayMerge_unchanged base remote (within isBase lines) (within isRemote lines')⟩

theorem evidence_survives_marked :
    encodeText (jsString ['b']) = withoutMark (byteOrderMark ++ utf8 ['b']) ∧
      computeBoundedThreeWayMerge (jsString ['a']) (jsString ['b']) (jsString ['a']) =
        ⟨.mergedClean, false, some (jsString ['b']), 0⟩ :=
  have survives := evidence_survives (byteOrderMark ++ utf8 ['a']) (byteOrderMark ++ utf8 ['b'])
    "text/markdown" "text/markdown" (jsString ['a']) (jsString ['b'])
    (decoded_of_marked ['a'] (by decide)) (decoded_of_marked ['b'] (by decide))
  ⟨survives.1, survives.2 (by decide) (by decide)⟩

end PersonalOs.Conflicts
