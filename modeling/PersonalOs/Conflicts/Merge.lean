import PersonalOs.Basis.Alignments
import PersonalOs.ExclusionPolicy.CanonicalJson

/-!
# The bounded three-way merge

`merge.ts`: both changed sides are aligned with the base by longest blocks, their changed spans
are gathered into regions, and a region only one side changed, or both changed alike, merges. The
others are rendered between conflict markers. Inputs and proposals above the bounds are refused.

Texts are JavaScript strings; a lone surrogate is encoded in UTF-8 as the replacement character.
-/

namespace PersonalOs.Conflicts

open Alignments
open ExclusionPolicy (JsString utf8ByteLength)

/-! ## Texts and lines -/

abbrev Line := JsString

/-- `"\n"`. -/
def newline : UInt16 := 10

def splitLines : JsString → List Line
  | [] => [[]]
  | unit :: rest =>
    if unit = newline then [] :: splitLines rest
    else match splitLines rest with
      | [] => [[unit]]
      | line :: lines => (unit :: line) :: lines

/-- `join("\n")`. -/
def joinLines (lines : List Line) : JsString := [newline].intercalate lines

def ascii (text : String) : JsString := text.toList.map fun c => UInt16.ofNat c.toNat

def mergeInputMaximumBytes : Nat := 262144

def mergeInputMaximumLines : Nat := 4096

def mergeProposalMaximumBytes : Nat := 524288

/-- `MERGE_CONFLICT_LOCAL_OPEN_MARKER`. -/
def localOpenMarker : Line := ascii "<<<<<<< local"

/-- `MERGE_CONFLICT_SEPARATOR_MARKER`. -/
def separatorMarker : Line := ascii "======="

/-- `MERGE_CONFLICT_REMOTE_CLOSE_MARKER`. -/
def remoteCloseMarker : Line := ascii ">>>>>>> remote"

/-! ## The longest matching block -/

/-- The positions of every line, in ascending order. -/
def otherIndex (otherLines : List Line) (line : Line) : List Nat :=
  (List.range otherLines.length).filter fun position => otherLines[position]? = some line

/-- The lengths of the runs that end at the positions of the other side in one row; a position
that is absent from the map counts 0. -/
abbrev Chain := Nat → Nat

/-- `(previousChain.get(otherPosition - 1) ?? 0) + 1`. -/
def runLengthAt (previousChain : Chain) : Nat → Nat
  | 0 => 1
  | position + 1 => previousChain position + 1

structure Search where
  best : Block
  chain : Chain

def Search.record (search : Search) (baseIndex position runLength : Nat) : Search where
  best :=
    if search.best.length < runLength then
      ⟨baseIndex + 1 - runLength, position + 1 - runLength, runLength⟩
    else search.best
  chain := Function.update search.chain position runLength

def scanPositions (window : Window) (baseIndex : Nat) (previousChain : Chain) :
    List Nat → Search → Search
  | [], search => search
  | position :: positions, search =>
    if position < window.otherFrom then
      scanPositions window baseIndex previousChain positions search
    else if window.otherTo ≤ position then search
    else
      scanPositions window baseIndex previousChain positions
        (search.record baseIndex position (runLengthAt previousChain position))

def scanRow (baseLines : List Line) (window : Window) (index : Line → List Nat) (search : Search)
    (baseIndex : Nat) : Search :=
  match baseLines[baseIndex]? with
  | none => ⟨search.best, fun _ => 0⟩
  | some line =>
    scanPositions window baseIndex search.chain (index line) ⟨search.best, fun _ => 0⟩

def longestMatchingBlock (baseLines : List Line) (window : Window) (index : Line → List Nat) :
    Block :=
  let rows := List.range' window.baseFrom (window.baseTo - window.baseFrom)
  (rows.foldl (scanRow baseLines window index)
    ⟨⟨window.baseFrom, window.otherFrom, 0⟩, fun _ => 0⟩).best

/-! ## The regions of one side -/

def pushWindow (holdsLine : Bool) (window : Window) (queue : List Window) : List Window :=
  if holdsLine then window :: queue else queue

/-- Push the windows left and right of a block; the stack is read from its top. -/
def pushWindows (window : Window) (block : Block) (queue : List Window) : List Window :=
  pushWindow
    (block.baseStart + block.length < window.baseTo ||
      block.otherStart + block.length < window.otherTo)
    (window.after block)
    (pushWindow (window.baseFrom < block.baseStart || window.otherFrom < block.otherStart)
      (window.before block) queue)

/-- The work stack, until it is empty. A window takes at most two rounds for each of its base
lines and one more. -/
def stableBlocks (baseLines : List Line) (index : Line → List Nat) :
    Nat → List Window → List Block → List Block
  | 0, _, blocks => blocks
  | _, [], blocks => blocks
  | fuel + 1, window :: queue, blocks =>
    let block := longestMatchingBlock baseLines window index
    if block.length = 0 then stableBlocks baseLines index fuel queue blocks
    else stableBlocks baseLines index fuel (pushWindows window block queue) (blocks ++ [block])

structure SideRegion where
  isStable : Bool
  baseStart : Nat
  baseEnd : Nat
  otherStart : Nat
  otherEnd : Nat
deriving DecidableEq

/-- The regions from two cursors on: the blocks and the gaps between them. -/
def regionsFrom (baseLength otherLength : Nat) : Nat → Nat → List Block → List SideRegion
  | baseCursor, otherCursor, [] =>
    if baseCursor < baseLength ∨ otherCursor < otherLength then
      [⟨false, baseCursor, baseLength, otherCursor, otherLength⟩]
    else []
  | baseCursor, otherCursor, block :: blocks =>
    (if baseCursor < block.baseStart ∨ otherCursor < block.otherStart then
      [⟨false, baseCursor, block.baseStart, otherCursor, block.otherStart⟩]
    else []) ++
      ⟨true, block.baseStart, block.baseStart + block.length, block.otherStart,
        block.otherStart + block.length⟩ ::
      regionsFrom baseLength otherLength (block.baseStart + block.length)
        (block.otherStart + block.length) blocks

def computeSideRegions (baseLines otherLines : List Line) : List SideRegion :=
  let blocks := stableBlocks baseLines (otherIndex otherLines) (2 * baseLines.length + 1)
    [⟨0, baseLines.length, 0, otherLines.length⟩] []
  regionsFrom baseLines.length otherLines.length 0 0
    (blocks.insertionSort fun left right => left.baseStart ≤ right.baseStart)

structure SideHunk where
  baseStart : Nat
  baseEnd : Nat
  otherStart : Nat
  otherEnd : Nat
deriving DecidableEq

def unstableHunksOf (regions : List SideRegion) : List SideHunk :=
  (regions.filter fun region => !region.isStable).map fun region =>
    ⟨region.baseStart, region.baseEnd, region.otherStart, region.otherEnd⟩

/-- `sideRegionLines`, from a base cursor on. -/
def sideRegionLines (baseLines sideLines : List Line) (regionEnd : Nat) :
    Nat → List SideHunk → List Line
  | baseCursor, [] =>
    if baseCursor < regionEnd then slice baseLines baseCursor regionEnd else []
  | baseCursor, hunk :: hunks =>
    (if baseCursor < hunk.baseStart then slice baseLines baseCursor hunk.baseStart else []) ++
      slice sideLines hunk.otherStart hunk.otherEnd ++
      sideRegionLines baseLines sideLines regionEnd hunk.baseEnd hunks

/-! ## The merge -/

inductive Side
  | remote | local
deriving DecidableEq

structure TaggedHunk extends SideHunk where
  side : Side
deriving DecidableEq

def SideHunk.tag (side : Side) (hunk : SideHunk) : TaggedHunk := { hunk with side }

/-- The comparator of the sort: by the start in the base, the remote side first. -/
def precedes (left right : TaggedHunk) : Prop :=
  left.baseStart < right.baseStart ∨
    left.baseStart = right.baseStart ∧ (left.side = .remote ∨ right.side = .local)

instance : DecidableRel precedes := fun _ _ => inferInstanceAs (Decidable (_ ∨ _))

/-- `tagged`, sorted. -/
def taggedHunks (remoteHunks localHunks : List SideHunk) : List TaggedHunk :=
  (remoteHunks.map (SideHunk.tag .remote) ++ localHunks.map (SideHunk.tag .local)).insertionSort
    precedes

/-- The followers that overlap or abut a region, which they extend; the region's end and the hunks
left over. -/
def expandRegion : Nat → List TaggedHunk → Nat × List TaggedHunk × List TaggedHunk
  | regionEnd, [] => (regionEnd, [], [])
  | regionEnd, follower :: hunks =>
    if regionEnd < follower.baseStart then (regionEnd, [], follower :: hunks)
    else
      let expanded := expandRegion (max regionEnd follower.baseEnd) hunks
      (expanded.1, follower :: expanded.2.1, expanded.2.2)

theorem length_expandRegion (re : Nat) (h : List TaggedHunk) :
    (expandRegion re h).2.2.length ≤ h.length := by
  induction h generalizing re with
  | nil => exact Nat.le_refl _
  | cons f h ih =>
    unfold expandRegion
    split
    · exact Nat.le_refl _
    · exact Nat.le_succ_of_le (ih _)

def hunksOf (side : Side) (hunks : List TaggedHunk) : List SideHunk :=
  (hunks.filter fun hunk => hunk.side = side).map TaggedHunk.toSideHunk

def renderRegion (baseLines remoteLines localLines : List Line) (regionStart regionEnd : Nat)
    (regionHunks : List TaggedHunk) : List Line × Nat :=
  let remoteHunks := hunksOf .remote regionHunks
  let localHunks := hunksOf .local regionHunks
  let remoteRegionLines := sideRegionLines baseLines remoteLines regionEnd regionStart remoteHunks
  let localRegionLines := sideRegionLines baseLines localLines regionEnd regionStart localHunks
  if remoteHunks.length = 0 then (localRegionLines, 0)
  else if localHunks.length = 0 then (remoteRegionLines, 0)
  else if remoteRegionLines = localRegionLines then (remoteRegionLines, 0)
  else (localOpenMarker :: localRegionLines ++ separatorMarker :: remoteRegionLines ++
    [remoteCloseMarker], 1)

/-- The walk over the tagged hunks: the merged lines from a base cursor on, and the number of
conflicting hunks. -/
def mergeRegions (baseLines remoteLines localLines : List Line) :
    Nat → List TaggedHunk → List Line × Nat
  | baseCursor, [] =>
    (if baseCursor < baseLines.length then slice baseLines baseCursor baseLines.length else [], 0)
  | baseCursor, lead :: hunks =>
    let unchanged :=
      if baseCursor < lead.baseStart then slice baseLines baseCursor lead.baseStart else []
    let regionStart := if baseCursor < lead.baseStart then lead.baseStart else baseCursor
    let expanded := expandRegion lead.baseEnd hunks
    let region := renderRegion baseLines remoteLines localLines regionStart expanded.1
      (lead :: expanded.2.1)
    let rest := mergeRegions baseLines remoteLines localLines expanded.1 expanded.2.2
    (unchanged ++ region.1 ++ rest.1, region.2 + rest.2)
  termination_by _ hunks => hunks.length
  decreasing_by exact Nat.lt_succ_of_le (length_expandRegion _ _)

inductive BoundedMergeOutcome
  | mergedClean | mergedWithConflicts | boundExceeded
deriving DecidableEq

structure BoundedMergeResult where
  outcome : BoundedMergeOutcome
  requiresUserReview : Bool
  mergedText : Option JsString
  conflictingHunkCount : Nat
deriving DecidableEq

def boundExceeded : BoundedMergeResult := ⟨.boundExceeded, true, none, 0⟩

def exceedsInputBounds (input : JsString) : Bool :=
  mergeInputMaximumBytes < utf8ByteLength input ||
    mergeInputMaximumLines < (splitLines input).length

def computeBoundedThreeWayMerge (base remote localText : JsString) : BoundedMergeResult :=
  if [base, remote, localText].any exceedsInputBounds then boundExceeded
  else
    let baseLines := splitLines base
    let remoteLines := splitLines remote
    let localLines := splitLines localText
    let remoteHunks := unstableHunksOf (computeSideRegions baseLines remoteLines)
    let localHunks := unstableHunksOf (computeSideRegions baseLines localLines)
    let merged := mergeRegions baseLines remoteLines localLines 0
      (taggedHunks remoteHunks localHunks)
    let mergedText := joinLines merged.1
    if mergeProposalMaximumBytes < utf8ByteLength mergedText then boundExceeded
    else {
      outcome := if 0 < merged.2 then .mergedWithConflicts else .mergedClean
      requiresUserReview := decide (0 < merged.2)
      mergedText := some mergedText
      conflictingHunkCount := merged.2 }

end PersonalOs.Conflicts
