import AssetCache.Asset.Message
import AssetCache.Config
import AssetCache.Store.Cache

/-!
# Resolving requests

A request is resolved by the first of its candidates that works: its checksums are looked up in the
store, in order, and then its places are fetched, in order.  The last checksum that could be read is
what a download has to match; without one, a download is stored under the digest of the request's
function.  Only a missing request is a failed call.

The resolver asks a store and a network through the calls of `Request.Call`.  `Request.implement`
carries them out on the cache, step by step.
-/

namespace AssetCache

/-! ## What a resolver asks for -/

namespace Request

/-- A call of the store or of the network, or an event. -/
inductive Call where
  | contains (kind : EntryKind) (hasher : Hasher) (hash : String) (size : Option Nat)
  | get (kind : EntryKind) (hasher : Hasher) (hash : String) (size : Option Nat) (offset : Nat)
  | put (kind : EntryKind) (hasher : Hasher) (hash : String) (size : Nat) (body : Reader)
  | fetch (address : Url.WebAddress)
  | log (event : Event)

def Call.Answer : Call → Type
  | contains .. => Option BlobSize
  | get .. => GetAnswer
  | put .. => Except CacheError Unit
  | fetch _ => Except FetchError FetchedBody
  | log _ => Unit

def Call.interface : Interface := ⟨Call, Call.Answer⟩

def ask (c : Call) : Program Call.interface c.Answer := Program.call (I := Call.interface) c

/-- A call carried out on the cache. -/
def implement : (c : Call) → Operation c.Answer
  | .contains kind hasher hash size => Cache.contains kind hasher hash size
  | .get kind hasher hash size offset => Cache.get kind hasher hash size offset
  | .put kind hasher hash size body => Cache.put kind hasher hash size body
  | .fetch address => Operation.act (.fetch address)
  | .log event => Operation.act (.log event)

end Request

open Request (ask)

/-- A way to resolve requests, given by calls. -/
abbrev Resolution := Program Request.Call.interface

/-- A candidate's result, or why it was passed over. -/
abbrev Attempt (α : Type) := Except SkipReason α

/-- What a resolver goes by. -/
structure Resolver where
  registry : Registry
  config : Config

namespace Resolver

/-- A digest that downloads have to match. -/
structure Expected where
  hasher : Hasher
  hash : String
  deriving DecidableEq, Repr

/-! ## Checksums -/

/-- Read a checksum into a registered hasher and a digest of its own. -/
def parseChecksum (r : Resolver) (value : String) : Attempt Expected :=
  match Sri.parse value with
  | .error e => .error (.sri e)
  | .ok sri =>
    match r.registry.getByName sri.algorithm with
    | .error e => .error (.digest e)
    | .ok hasher =>
      match hasher.validate sri.hex with
      | .error e => .error (.digest e)
      | .ok () => .ok ⟨hasher, sri.hex⟩

/-- The size of a blob in the store.  A store that has a blob and does not know its size is asked
for the blob. -/
def lookup (e : Expected) : Resolution (Attempt Nat) := do
  match ← ask (.contains .cas e.hasher e.hash none) with
  | none => pure (.error .miss)
  | some (.known size) => pure (.ok size)
  | some .unknown =>
    match ← ask (.get .cas e.hasher e.hash none 0) with
    | .ok (some (_, .known size)) => pure (.ok size)
    | .ok (some (_, .unknown)) => pure (.error .sizeNotReported)
    | .ok none => pure (.error .entryVanished)
    | .error cause => pure (.error (.lookupFailed cause))

/-- The answer for a blob in the store. -/
def resolved (e : Expected) (size : Nat) : FetchBlobResponse :=
  .found e.hasher.function (.ofSize e.hash size) none

/-- Tell of a checksum that did not resolve the request; a plain miss goes without saying. -/
def reportLookup (hash : String) : SkipReason → Resolution Unit
  | .miss => pure ()
  | reason => ask (.log (.lookupFailed hash reason))

/-- Try the qualifiers in order: an answer, or the last checksum that could be read. -/
def tryQualifiers (r : Resolver) : (expected : Option Expected) → List Qualifier →
    Resolution (FetchBlobResponse ⊕ Option Expected)
  | expected, [] => pure (.inr expected)
  | expected, q :: rest =>
    if q.name ≠ Qualifier.checksumName then tryQualifiers r expected rest
    else
      match r.parseChecksum q.value with
      | .error reason => do
        let () ← ask (.log (.checksumSkipped q.value reason))
        tryQualifiers r expected rest
      | .ok e => do
        match ← lookup e with
        | .ok size => do
          let () ← ask (.log (.checksumResolved e.hash size))
          pure (.inl (resolved e size))
        | .error reason => do
          let () ← reportLookup e.hash reason
          tryQualifiers r (some e) rest

/-! ## Downloads -/

/-- Refuse a body that does not have the declared length. -/
def checkDeclared (declared : Option Nat) (blob : Bytes) : Attempt Bytes :=
  match declared with
  | some n => if n = blob.length then .ok blob else .error (.truncated n blob.length)
  | none => .ok blob

/-- Read a body into memory, of no more than `limit` octets: what the buffer holds on the way, and
what the body comes to. -/
def buffering (limit declared : Option Nat) (body : Reader) : List Bytes × Attempt Bytes :=
  match limit with
  | none =>
    let filled := body.fill none
    (filled.1,
      match filled.2 with
      | .error reason => .error (.read reason)
      | .ok blob => checkDeclared declared blob)
  | some limit =>
    if declared.any (limit < ·) then ([], .error (.tooLarge limit))
    else
      let filled := body.fill (some (Reader.oneMore limit))
      (filled.1,
        match filled.2 with
        | .error reason => .error (.read reason)
        | .ok blob =>
          if limit < blob.length then .error (.tooLarge limit) else checkDeclared declared blob)

/-- What a body comes to that is read into memory. -/
def bufferBody (limit declared : Option Nat) (body : Reader) : Attempt Bytes :=
  (buffering limit declared body).2

/-- Read a body into memory and compare its digest with the expected one, if there is one. -/
def bufferVerified (r : Resolver) (hasher : Hasher) (expectedHash : Option String)
    (fetched : FetchedBody) : Attempt (String × Nat × Reader) :=
  match bufferBody r.config.maxBufferedBytes fetched.contentLength fetched.body with
  | .error reason => .error reason
  | .ok blob =>
    let actual := hasher.hash blob
    match expectedHash.filter (· ≠ actual) with
    | some expected => .error (.hashMismatch expected actual)
    | none => .ok (actual, blob.length, .ofBytes blob)

/-- What to put into the store: hash, size and body.  A body of declared length that has to match a
digest is left to the store, which verifies it; any other is read into memory first. -/
def download (r : Resolver) (hasher : Hasher) (expectedHash : Option String)
    (fetched : FetchedBody) : Attempt (String × Nat × Reader) :=
  match expectedHash, fetched.contentLength with
  | some hash, some size => .ok (hash, size, fetched.body)
  | _, _ => r.bufferVerified hasher expectedHash fetched

/-- Put a download into the store.  That someone else is storing the same blob does no harm. -/
def store (hasher : Hasher) (hash : String) (size : Nat) (body : Reader) :
    Resolution (Attempt (DigestFunction × BlobDigest)) := do
  let done : DigestFunction × BlobDigest := (hasher.function, .ofSize hash size)
  match ← ask (.put .cas hasher hash size body) with
  | .ok () => pure (.ok done)
  | .error cause =>
    if cause.isBenign then do
      let () ← ask (.log (.concurrentWrite hash cause))
      pure (.ok done)
    else pure (.error (.put hash cause))

/-- Read a place as a web address. -/
def webAddress (uri : String) : Attempt Url.WebAddress :=
  match Url.parse uri with
  | .error e => .error (.invalidUri e)
  | .ok (.other scheme) => .error (.unsupportedScheme scheme)
  | .ok (.web address) => .ok address

/-- Fetch one place into the store. -/
def fetchUri (r : Resolver) (hasher : Hasher) (expectedHash : Option String) (uri : String) :
    Resolution (Attempt (DigestFunction × BlobDigest)) :=
  match webAddress uri with
  | .error reason => pure (.error reason)
  | .ok address => do
    match ← ask (.fetch address) with
    | .error e => pure (.error (.fetch e))
    | .ok fetched => do
      let () ← ask (.log (.fetched uri fetched.status))
      if !fetched.isSuccess then pure (.error (.httpStatus fetched.status))
      else
        match r.download hasher expectedHash fetched with
        | .error reason => pure (.error reason)
        | .ok (hash, size, body) => store hasher hash size body

/-- By what digest a download is stored: the expected one, or the request's function, or none. -/
def attemptUri (r : Resolver) (expected : Option Expected) (hasher : Option Hasher)
    (uri : String) : Resolution (Attempt (DigestFunction × BlobDigest)) :=
  match expected, hasher with
  | some e, _ => r.fetchUri e.hasher (some e.hash) uri
  | none, some h => r.fetchUri h none uri
  | none, none => pure (.error .noHasher)

/-- The event that tells of a place that did not resolve the request. -/
def uriEvent (uri : String) (reason : SkipReason) : Event :=
  if reason.isIntegrityFailure then .downloadRejected uri reason else .uriSkipped uri reason

def tryUris (r : Resolver) (expected : Option Expected) (hasher : Option Hasher) :
    List String → Resolution FetchBlobResponse
  | [] => pure .notFound
  | uri :: rest => do
    match ← r.attemptUri expected hasher uri with
    | .ok (function, digest) => pure (.found function digest (some uri))
    | .error reason => do
      let () ← ask (.log (uriEvent uri reason))
      tryUris r expected hasher rest

/-! ## Requests -/

/-- The hasher of the request's function; that there is none is told. -/
def requestHasher (r : Resolver) (function : DigestFunction) : Resolution (Option Hasher) :=
  match r.registry.get function with
  | .ok h => pure (some h)
  | .error cause => do
    let () ← ask (.log (.unknownFunction function cause))
    pure none

/-- Resolve a request for a blob. -/
def fetchBlob (r : Resolver) (request : Option FetchRequest) :
    Resolution (Except AssetError FetchBlobResponse) :=
  match request with
  | none => pure (.error (.invalidArgument "expected a non-nil FetchBlobRequest"))
  | some request =>
    if request.qualifiers.any Option.isNone then
      pure (.ok (.invalidArgument "unexpected nil qualifier in FetchBlobRequest"))
    else do
      let hasher ← r.requestHasher request.digestFunction
      match ← r.tryQualifiers none (request.qualifiers.filterMap id) with
      | .inl response => pure (.ok response)
      | .inr expected => do
        let response ← r.tryUris expected hasher request.uris
        pure (.ok response)

/-- Requests for directories are not served. -/
def fetchDirectory (_request : Option FetchRequest) : Except AssetError FetchDirectoryResponse :=
  .error (.unimplemented "FetchDirectory")

/-- Resolve a request for a blob on the cache. -/
def fetchBlobOperation (r : Resolver) (request : Option FetchRequest) :
    Operation (Except AssetError FetchBlobResponse) :=
  Program.expand (I := Request.Call.interface) (J := Action.interface) Request.implement
    (r.fetchBlob request)

end Resolver

end AssetCache
