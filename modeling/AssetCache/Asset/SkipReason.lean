import AssetCache.Error
import AssetCache.Fetch
import AssetCache.Sri
import AssetCache.Url.Error

/-!
# Why a candidate does not resolve a request

A request is resolved by the first of its candidates that works.  One that does not is passed over
for a reason, which only the log tells.
-/

namespace AssetCache

/-- Why a checksum or a place to fetch from does not resolve a request. -/
inductive SkipReason where
  /-- The checksum cannot be read. -/
  | sri (cause : SriError)
  /-- The digest of the checksum is refused. -/
  | digest (cause : DigestError)
  /-- The store does not have the blob. -/
  | miss
  /-- The store has the blob but does not tell its size. -/
  | sizeNotReported
  /-- The store had the blob, and then had not. -/
  | entryVanished
  /-- The store has the blob but failed to open it. -/
  | lookupFailed (cause : CacheError)
  /-- The place is no URL. -/
  | invalidUri (cause : UrlError)
  /-- The URL is none of the web's. -/
  | unsupportedScheme (scheme : String)
  /-- There is no digest function for what would be fetched. -/
  | noHasher
  /-- There was no answer. -/
  | fetch (cause : FetchError)
  /-- The answer has a status other than success. -/
  | httpStatus (status : Nat)
  /-- The body is too large to be held in memory. -/
  | tooLarge (limit : Nat)
  /-- The body does not have the declared length. -/
  | truncated (declared actual : Nat)
  /-- The body cannot be read. -/
  | read (reason : String)
  /-- The body has another digest than the expected one. -/
  | hashMismatch (expected actual : String)
  /-- The body cannot be stored. -/
  | put (hash : String) (cause : CacheError)
  deriving DecidableEq, Repr

namespace SkipReason

def message : SkipReason → String
  | sri cause => cause.message
  | digest cause => cause.message
  | miss => "not in CAS"
  | sizeNotReported => "present but size unavailable: backend reported no size"
  | entryVanished => "present but size unavailable: entry vanished"
  | lookupFailed cause => s!"present but size unavailable: {cause.message}"
  | invalidUri cause => s!"unable to parse URI: {cause.message}"
  | unsupportedScheme scheme => s!"unsupported URI scheme \"{scheme}\""
  | noHasher => "no digest function available to hash the download"
  | fetch cause => cause.message
  | httpStatus status => s!"HTTP status {status}"
  | tooLarge limit => s!"body exceeds buffer limit of {limit} bytes"
  | truncated declared actual => s!"read {actual} bytes, server declared {declared}"
  | read reason => s!"failed to read data: {reason}"
  | hashMismatch expected actual => s!"URI data has hash {actual}, expected {expected}"
  | put hash cause => s!"failed to put {hash}: {cause.message}"

/-- Whether it tells that content does not match its digest. -/
def isIntegrityFailure : SkipReason → Bool
  | hashMismatch _ _ => true
  | put _ (.hashMismatch _ _) => true
  | _ => false

end SkipReason

end AssetCache
