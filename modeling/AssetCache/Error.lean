import AssetCache.Digest.Error
import AssetCache.Entry.Kind

/-!
# Errors

Each part of the service has its own causes: a store or the store behind it (`CacheError`), a
setting (`ConfigError`), a call (`AssetError`).  `Failure` joins them with those of digests for
reports, in which a cause may stand below another (`Failure.chain`).
-/

namespace AssetCache

/-- Why a store could not do as asked. -/
inductive CacheError where
  /-- There is no such entry. -/
  | notFound (kind : EntryKind) (hash : String)
  /-- The number of octets read is not the one stated. -/
  | sizeMismatch (hash : String) (expected actual : Nat)
  /-- The octets have another digest. -/
  | hashMismatch (expected actual : String)
  /-- Someone else is writing the same entry now. -/
  | concurrentWrite (key : String)
  /-- An error of a store behind this one, or a range that is not there, with an HTTP status. -/
  | status (code : Nat) (text : String)
  /-- Reading failed. -/
  | io (reason : String)
  /-- The digest is refused. -/
  | validation (cause : DigestError)
  deriving DecidableEq, Repr

namespace CacheError

def message : CacheError → String
  | notFound kind hash => s!"{kind.name} entry not found: {hash}"
  | sizeMismatch hash expected actual =>
    s!"size mismatch for {hash}: expected {expected} bytes, read {actual}"
  | hashMismatch expected actual => s!"content hashes to {actual}, expected {expected}"
  | concurrentWrite key => s!"concurrent write in progress for {key}"
  | status _ text => text
  | io reason => s!"I/O error: {reason}"
  | validation cause => s!"invalid digest: {cause.message}"

/-- Whether a writer may go on as if it had succeeded: someone else is writing the same entry. -/
def isBenign : CacheError → Bool
  | concurrentWrite _ => true
  | _ => false

end CacheError

/-- Why a setting is refused. -/
inductive ConfigError where
  /-- The value of a field is not one it may have. -/
  | invalidValue (field value reason : String)
  deriving DecidableEq, Repr

def ConfigError.message : ConfigError → String
  | .invalidValue field value reason => s!"Invalid value for {field}: {value} - {reason}"

/-- Why a call fails as a whole. -/
inductive AssetError where
  /-- The call makes no sense. -/
  | invalidArgument (reason : String)
  /-- The call is not served. -/
  | unimplemented (rpc : String)
  deriving DecidableEq, Repr

def AssetError.message : AssetError → String
  | .invalidArgument reason => s!"invalid argument: {reason}"
  | .unimplemented rpc => s!"{rpc} is not implemented"

/-- Any of the errors. -/
inductive Failure where
  | digest (error : DigestError)
  | cache (error : CacheError)
  | config (error : ConfigError)
  | asset (error : AssetError)
  deriving DecidableEq, Repr

namespace Failure

/-- The wording with the part that it comes from. -/
def message : Failure → String
  | digest e => s!"Hashing error: {e.message}"
  | cache e => s!"Cache error: {e.message}"
  | config e => s!"Config error: {e.message}"
  | asset e => s!"Asset error: {e.message}"

/-- The wording of the error and of each cause below it. -/
def chain (f : Failure) : List String :=
  f.message :: match f with
    | digest e => [e.message]
    | cache (.validation cause) => [CacheError.message (.validation cause), cause.message]
    | cache e => [e.message]
    | config e => [e.message]
    | asset e => [e.message]

end Failure

end AssetCache
