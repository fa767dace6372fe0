import AssetCache.Digest.Function
import AssetCache.Error

/-!
# Requests and responses

What a caller asks for, and what it is told.  A request names checksums and places to fetch from;
a response has a status of its own, so that a request that cannot be resolved is no failed call.
-/

namespace AssetCache

/-- A named hint by which a request is resolved. -/
structure Qualifier where
  name : String
  value : String
  deriving DecidableEq, Repr

namespace Qualifier

/-- The name of a qualifier that holds an integrity checksum. -/
def checksumName : String := "checksum.sri"

def checksum (value : String) : Qualifier := ⟨checksumName, value⟩

end Qualifier

/-- A request for a blob or a directory. -/
structure FetchRequest where
  /-- The digest that the answer is to be in. -/
  digestFunction : DigestFunction := .unknown
  /-- Tried in order; one may be nil, which is refused. -/
  qualifiers : List (Option Qualifier) := []
  /-- Tried in order after the qualifiers. -/
  uris : List String := []
  deriving DecidableEq, Repr

namespace FetchRequest

/-- The request with another digest function. -/
def withDigestFunction (r : FetchRequest) (f : DigestFunction) : FetchRequest :=
  { r with digestFunction := f }

/-- The request with one more qualifier. -/
def withQualifier (r : FetchRequest) (q : Qualifier) : FetchRequest :=
  { r with qualifiers := r.qualifiers ++ [some q] }

/-- The request with one more place to fetch from. -/
def withUri (r : FetchRequest) (uri : String) : FetchRequest := { r with uris := r.uris ++ [uri] }

end FetchRequest

/-- How a call ended. -/
inductive StatusCode where
  | ok
  | invalidArgument
  | notFound
  | unimplemented
  deriving DecidableEq, Repr

namespace StatusCode

def all : List StatusCode := [ok, invalidArgument, notFound, unimplemented]

def number : StatusCode → Nat
  | ok => 0
  | invalidArgument => 3
  | notFound => 5
  | unimplemented => 12

def wireName : StatusCode → String
  | ok => "OK"
  | invalidArgument => "INVALID_ARGUMENT"
  | notFound => "NOT_FOUND"
  | unimplemented => "UNIMPLEMENTED"

def ofWireName? (s : String) : Option StatusCode := all.find? fun c => c.wireName = s

theorem ofWireName?_wireName (c : StatusCode) : ofWireName? c.wireName = some c := by
  cases c <;> decide

end StatusCode

/-- How a call ended, with an explanation. -/
structure Status where
  code : StatusCode
  message : String
  deriving DecidableEq, Repr

namespace Status

def ok : Status := ⟨.ok, ""⟩

/-- A request that makes no sense. -/
def invalidArgument (message : String) : Status := ⟨.invalidArgument, message⟩

def notFound : Status := ⟨.notFound, ""⟩

def isOk (s : Status) : Bool := s.code = .ok

/-- The status that a failed call is reported by. -/
def ofError (e : AssetError) : Status :=
  match e with
  | .invalidArgument _ => ⟨.invalidArgument, e.message⟩
  | .unimplemented _ => ⟨.unimplemented, e.message⟩

end Status

/-- The digest of a blob and its size. -/
structure BlobDigest where
  hash : String
  sizeBytes : Int64
  deriving DecidableEq, Repr

/-- The digest of a blob of `size` octets; the field holds no more than its largest number. -/
def BlobDigest.ofSize (hash : String) (size : Nat) : BlobDigest :=
  ⟨hash, if size < 1 <<< 63 then Int64.ofNat size else Int64.maxValue⟩

/-- The answer to a request for a blob. -/
structure FetchBlobResponse where
  status : Status
  digestFunction : DigestFunction
  /-- The blob, if there is one. -/
  blobDigest : Option BlobDigest
  /-- The place that it was fetched from, if it was not there before. -/
  uri : Option String
  deriving DecidableEq, Repr

namespace FetchBlobResponse

/-- The blob is in the store. -/
def found (function : DigestFunction) (digest : BlobDigest) (uri : Option String) :
    FetchBlobResponse :=
  ⟨.ok, function, some digest, uri⟩

def invalidArgument (message : String) : FetchBlobResponse :=
  ⟨.invalidArgument message, .unknown, none, none⟩

def notFound : FetchBlobResponse := ⟨.notFound, .unknown, none, none⟩

end FetchBlobResponse

/-- The answer to a request for a directory. -/
structure FetchDirectoryResponse where
  status : Status
  rootDirectoryDigest : Option BlobDigest
  deriving DecidableEq, Repr

end AssetCache
