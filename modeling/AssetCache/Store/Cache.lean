import AssetCache.Store.Action

/-!
# The cache

The cache answers whether it has an entry (`contains`), gives entries (`get`) and takes them in
(`put`).  A blob under its own digest is never taken over without a look at its octets: `verify` is
the one gate into the store, for what is put and for what comes from the proxy.  The empty blob is
always there and never stored.

Each of the three is an operation in steps: a write marks its path first and stores last, and in
between others may run.
-/

namespace AssetCache.Cache

open Operation (act)

/-- Whether an entry is the empty blob under its own digest. -/
def isEmptyBlob (kind : EntryKind) (hasher : Hasher) (hash : String) : Bool :=
  kind = .cas && hasher.isEmptyHash hash

/-- Check the hash that an entry is to be stored under. -/
def validate (kind : EntryKind) (hasher : Hasher) (hash : String) (size : Nat) :
    Except CacheError Unit :=
  match kind with
  | .raw => .ok ()
  | .ac | .cas =>
    match hasher.validateDigest hash size with
    | .ok () => .ok ()
    | .error e => .error (.validation e)

/-- Read a blob of a stated size, or to the end where no size is stated. -/
def readSized (hash : String) (expected : Option Nat) (body : Reader) : Except CacheError Bytes :=
  match expected with
  | some size =>
    match body.read (Reader.oneMore size) with
    | .error reason => .error (.io reason)
    | .ok blob =>
      if blob.length = size then .ok blob else .error (.sizeMismatch hash size blob.length)
  | none =>
    match body.readAll with
    | .error reason => .error (.io reason)
    | .ok blob => .ok blob

/-- Read a blob and, where its hash is its digest, verify it. -/
def verify (kind : EntryKind) (hasher : Hasher) (hash : String) (expected : Option Nat)
    (body : Reader) : Except CacheError Bytes :=
  match readSized hash expected body with
  | .error e => .error e
  | .ok blob =>
    if kind = .cas then
      if hasher.hash blob = hash then .ok blob
      else .error (.hashMismatch hash (hasher.hash blob))
    else .ok blob

/-! ## Questions -/

/-- Whether a blob is of the size that was asked for, if one was. -/
def fits (size : Option Nat) (blob : Bytes) : Bool := size.all (· = blob.length)

/-- Whether there is an entry, and of what size. -/
def contains (kind : EntryKind) (hasher : Hasher) (hash : String) (size : Option Nat) :
    Operation (Option BlobSize) :=
  if isEmptyBlob kind hasher hash then pure (some (.known 0))
  else do
    match ← act (.lookup (Entry.blobPath kind hasher hash)) with
    | some blob => pure (if fits size blob then some (.known blob.length) else none)
    | none => act (.askProxy kind hash size)

/-- Store what the proxy gave, if it was verified. -/
def takeOver (kind : EntryKind) (hasher : Hasher) (hash : String) :
    Except CacheError Bytes → Operation (Except CacheError (Option Bytes))
  | .error e => pure (.error e)
  | .ok blob => do
    let () ← act (.fill (Entry.blobPath kind hasher hash) blob)
    let () ← act (.log (.filledFromProxy kind hash blob.length))
    pure (.ok (some blob))

/-- Take over an entry from the proxy. -/
def fillFromProxy (kind : EntryKind) (hasher : Hasher) (hash : String) (size : Option Nat) :
    Operation (Except CacheError (Option Bytes)) := do
  match ← act (.openProxy kind hash size) with
  | .error e => pure (.error e)
  | .ok none => pure (.ok none)
  | .ok (some (body, proxySize)) =>
    takeOver kind hasher hash (verify kind hasher hash (proxySize.known?.or size) body)

/-- The blob of an entry, from the store or else from the proxy. -/
def find (kind : EntryKind) (hasher : Hasher) (hash : String) (size : Option Nat) :
    Operation (Except CacheError (Option Bytes)) :=
  if isEmptyBlob kind hasher hash then pure (.ok (some []))
  else do
    match ← act (.lookup (Entry.blobPath kind hasher hash)) with
    | some blob => pure (.ok (some blob))
    | none => fillFromProxy kind hasher hash size

/-- The part of a blob from `offset` on, if the blob is of the size that was asked for. -/
def serve (hash : String) (size : Option Nat) (offset : Nat) (blob : Bytes) : GetAnswer :=
  if !fits size blob then .ok none
  else if blob.length < offset then
    .error (.status 416
      s!"offset {offset} beyond end of {blob.length} byte entry {hash}")
  else .ok (some (.ofBytes (blob.drop offset), .known blob.length))

/-- Give an entry, from `offset` on. -/
def get (kind : EntryKind) (hasher : Hasher) (hash : String) (size : Option Nat) (offset : Nat) :
    Operation GetAnswer := do
  match ← find kind hasher hash size with
  | .error e => pure (.error e)
  | .ok none => pure (.ok none)
  | .ok (some blob) => pure (serve hash size offset blob)

/-! ## Writing -/

/-- Read the body of a write whose path is marked, store it if it is as stated, and take the mark
away in any case. -/
def write (kind : EntryKind) (hasher : Hasher) (hash : String) (size : Nat) (body : Reader) :
    Operation (Except CacheError Unit) :=
  let path := Entry.blobPath kind hasher hash
  match verify kind hasher hash (some size) body with
  | .error e => do
    let () ← act (.finish path none)
    pure (.error e)
  | .ok blob => do
    let () ← act (.finish path (some ⟨kind, hash, blob⟩))
    pure (.ok ())

/-- Take in an entry of `size` octets. -/
def put (kind : EntryKind) (hasher : Hasher) (hash : String) (size : Nat) (body : Reader) :
    Operation (Except CacheError Unit) :=
  match validate kind hasher hash size with
  | .error e => pure (.error e)
  | .ok () =>
    if isEmptyBlob kind hasher hash then pure (.ok ())
    else do
      let path := Entry.blobPath kind hasher hash
      match ← act (.begin path (kind = .cas)) with
      | .present => pure (.ok ())
      | .busy => pure (.error (.concurrentWrite path))
      | .begun => write kind hasher hash size body

end AssetCache.Cache
