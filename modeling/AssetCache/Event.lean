import AssetCache.Asset.SkipReason
import AssetCache.Entry.Key

/-!
# Events

What the service tells about its work.  `Event` says what happened; `level`, `message` and `fields`
say how it is logged.
-/

namespace AssetCache

/-- Something that happened. -/
inductive Event where
  /-- A key was remapped for an instance. -/
  | keyRemapped (key instanceName derived : String)
  /-- An entry was taken over from the proxy. -/
  | filledFromProxy (kind : EntryKind) (hash : String) (size : Nat)
  /-- A request names a digest function without a hasher. -/
  | unknownFunction (function : DigestFunction) (cause : DigestError)
  /-- A checksum was passed over. -/
  | checksumSkipped (value : String) (reason : SkipReason)
  /-- A checksum is that of a blob in the store. -/
  | checksumResolved (hash : String) (size : Nat)
  /-- The store has a blob and does not give it. -/
  | lookupFailed (hash : String) (reason : SkipReason)
  /-- A place answered. -/
  | fetched (uri : String) (status : Nat)
  /-- Someone else is storing the same blob. -/
  | concurrentWrite (hash : String) (cause : CacheError)
  /-- A download does not match its digest. -/
  | downloadRejected (uri : String) (reason : SkipReason)
  /-- A place was passed over. -/
  | uriSkipped (uri : String) (reason : SkipReason)
  deriving DecidableEq, Repr

namespace Event

/-- How much an event matters. -/
inductive Level where
  | debug
  | info
  | warn
  | error
  deriving DecidableEq, Repr

def Level.name : Level → String
  | debug => "debug"
  | info => "info"
  | warn => "warn"
  | error => "error"

/-- The value of a field. -/
inductive Field where
  | text (s : String)
  | number (n : Nat)
  deriving DecidableEq, Repr

def level : Event → Level
  | keyRemapped .. => .info
  | filledFromProxy .. => .debug
  | unknownFunction .. => .warn
  | checksumSkipped .. => .warn
  | checksumResolved .. => .debug
  | lookupFailed .. => .warn
  | fetched .. => .info
  | concurrentWrite .. => .debug
  | downloadRejected .. => .error
  | uriSkipped .. => .warn

def message : Event → String
  | keyRemapped .. => "REMAP AC HASH"
  | filledFromProxy .. => "filled entry from proxy"
  | unknownFunction .. => "unknown digest function"
  | checksumSkipped .. => "skipping checksum.sri qualifier"
  | checksumResolved .. => "checksum.sri resolved from CAS"
  | lookupFailed .. => "CAS lookup failed"
  | fetched .. => "ASSET FETCH"
  | concurrentWrite .. => "concurrent identical write"
  | downloadRejected .. => "rejected download"
  | uriSkipped .. => "skipping URI"

def fields : Event → List (String × Field)
  | keyRemapped key instanceName derived =>
    [("key", .text key), ("instance", .text instanceName), ("derived", .text derived)]
  | filledFromProxy kind hash size =>
    [("kind", .text kind.name), ("hash", .text hash), ("size", .number size)]
  | unknownFunction function cause =>
    [("digest_function", .text function.wireName), ("error", .text cause.message)]
  | checksumSkipped value reason => [("value", .text value), ("reason", .text reason.message)]
  | checksumResolved hash size => [("hash", .text hash), ("size", .number size)]
  | lookupFailed hash reason => [("hash", .text hash), ("reason", .text reason.message)]
  | fetched uri status => [("uri", .text uri), ("status", .number status)]
  | concurrentWrite hash cause => [("hash", .text hash), ("error", .text cause.message)]
  | downloadRejected uri reason => [("uri", .text uri), ("reason", .text reason.message)]
  | uriSkipped uri reason => [("uri", .text uri), ("reason", .text reason.message)]

end Event

/-- The event that tells of a remapped key; there is none where the key stays. -/
def Event.ofRemap (key instanceName : String) : List Event :=
  if instanceName.isEmpty then []
  else [.keyRemapped key instanceName (Entry.remapKey key instanceName)]

end AssetCache
