import PersonalOs.ExclusionPolicy.CanonicalJson
import PersonalOs.SourceStore.Schema

/-!
# The final digest of a manifest run

The plugin and the server digest the pages of a run each on their own: both sort the pages they
hold by number and hash the canonical JSON of one payload. SHA-256 and Unicode's normal form C
are parameters.
-/

namespace PersonalOs.SourceStore

open Json ExclusionPolicy

/-! ## The two computations -/

def pageOrder (pages : List ManifestPage) : List ManifestPage :=
  pages.insertionSort fun a b => a.pageNumber ≤ b.pageNumber

section Server

variable (sha256 : List UInt8 → String) (isNormalized : Text → Bool)

def pyName (name : String) : Option PyString := some (name.toList.map .scalar)

/-- One page of the server's payload. -/
def pyPage (page : ManifestPage) : PyValue :=
  .mapping [(pyName "page", .integer page.pageNumber), (pyName "entries", .integer page.entryCount),
    (pyName "digest", .string (page.pageDigest.toList.map .scalar))]

def computeManifestFinalDigest (pages : List ManifestPage) : Except PayloadContractError String :=
  let payload := PyValue.mapping [(pyName "version", .integer 1),
    (pyName "pages", .tuple ((pageOrder pages).map pyPage))]
  (canonicalizeJsonValue isNormalized payload).map sha256

end Server

section Plugin

variable (sha256Hex : List UInt8 → String) (isNormalized : Text → Bool)

def jsName (name : String) : JsString := jsString name.toList

end Plugin

/-! ## The payload -/

def pagePayload (page : ManifestPage) : Json :=
  .object [("page".toList, .integer page.pageNumber), ("entries".toList, .integer page.entryCount),
    ("digest".toList, .string page.pageDigest.toList)]

/-- What both sides encode. -/
def finalDigestPayload (pages : List ManifestPage) : Json :=
  .object [("version".toList, .integer 1), ("pages".toList, .array (pages.map pagePayload))]

/-- The bytes both sides hash. -/
def finalDigestBytes (pages : List ManifestPage) : List UInt8 :=
  utf8 (finalDigestPayload (pageOrder pages)).canonical

variable {d : String} {pages : List ManifestPage}

end PersonalOs.SourceStore
