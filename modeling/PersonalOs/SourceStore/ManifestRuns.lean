import PersonalOs.SourceStore.CursorRuns
import PersonalOs.SourceStore.ManifestDigests

/-!
# The manifest protocol in every run

Devices start, page, finalize, read and complete manifest runs in any order and as often as
they like. What a run has accepted stays, what it has planned stays, and a final state is final.
-/

namespace PersonalOs.SourceStore

open Transactions ExclusionPolicy

variable {env : Environment} {w w' : StoreWorld}

/-! ## The law -/

variable {r r' : ManifestRun} {s : StoreSession}

/-- SHA-256 on the payload of one empty page. -/
def samplePageDigest : String := "d3bcef2b241cba28b423407dcab193e9ef33f265ec5f2a7dab595b0c999b3c3e"

def sampleFinalDigest : String := "d33721e83bed85d7b53d087bef9e65f4415e7804952a0b74795d29821bdfee66"

def samplePage : ManifestPage := ⟨0, 0, samplePageDigest⟩

def sampleSha256 (bytes : List UInt8) : String :=
  if bytes = finalDigestBytes [samplePage] then sampleFinalDigest else ""

/-- The server's digest as the stores use it. -/
def digestOf (sha256 : List UInt8 → String) (isNormalized : Text → Bool)
    (pages : List ManifestPage) : String :=
  match computeManifestFinalDigest sha256 isNormalized pages with
  | .ok digest => digest
  | .error _ => ""

end PersonalOs.SourceStore
