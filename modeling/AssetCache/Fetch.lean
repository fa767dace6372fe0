import AssetCache.Reader

/-!
# Fetching

A fetch of a URL is answered by a status, the length that the server declares if it does, and a
body; or it fails before there is an answer.
-/

namespace AssetCache

/-- Why a fetch has no answer. -/
inductive FetchError where
  /-- There is no client to fetch with. -/
  | client (reason : String)
  /-- The server cannot be reached. -/
  | transport (uri reason : String)
  deriving DecidableEq, Repr

def FetchError.message : FetchError → String
  | .client reason => s!"failed to build HTTP client: {reason}"
  | .transport uri reason => s!"failed to get {uri}: {reason}"

/-- The answer to a fetch. -/
structure FetchedBody where
  status : Nat
  /-- The declared length, if any. -/
  contentLength : Option Nat
  body : Reader
  deriving DecidableEq, Repr

namespace FetchedBody

def isSuccess (b : FetchedBody) : Bool := 200 ≤ b.status && b.status < 300

/-- One line that names the status and the length, for diagnostics. -/
def summary (b : FetchedBody) : String :=
  let length := match b.contentLength with
    | some n => s!"Some({n})"
    | none => "None"
  s!"FetchedBody \x7b status: {b.status}, content_length: {length}, .. \x7d"

end FetchedBody

end AssetCache
