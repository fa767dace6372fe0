import AssetCache.Asset.Message
import AssetCache.Entry.Kind
import AssetCache.Json.Decode

/-!
# The JSON form of requests and responses

Each type has its value (`toJson`) and is read back from it (`ofJson?`).  Fields stand in the order
of their declaration; a field that says nothing, an empty explanation or a missing digest or place,
is left out.
-/

namespace AssetCache

namespace Json

/-- The text of a value of a type with a JSON form. -/
def read? {α : Type} (ofJson? : Json → Option α) (text : String) : Option α :=
  (parse? text).bind ofJson?

/-- A field that is written only if there is a value. -/
def field? {α : Type} (name : String) (toJson : α → Json) : Option α → List (String × Json)
  | some a => [(name, toJson a)]
  | none => []

end Json

open Json

namespace DigestFunction

def toJson (f : DigestFunction) : Json := ofString f.wireName

def ofJson? (v : Json) : Option DigestFunction := v.toWord?.bind ofWireName?

end DigestFunction

namespace EntryKind

def toJson (k : EntryKind) : Json := ofString k.name

def ofJson? (v : Json) : Option EntryKind := v.toWord?.bind ofName?

end EntryKind

namespace StatusCode

def toJson (c : StatusCode) : Json := ofString c.wireName

def ofJson? (v : Json) : Option StatusCode := v.toWord?.bind ofWireName?

end StatusCode

namespace Qualifier

def toJson (q : Qualifier) : Json :=
  ofFields [("name", ofString q.name), ("value", ofString q.value)]

def ofJson? (v : Json) : Option Qualifier :=
  match v.toRecord? ["name", "value"] with
  | some [name, value] => do
    let name ← required Json.toString? name
    let value ← required Json.toString? value
    some ⟨name, value⟩
  | _ => none

end Qualifier

namespace FetchRequest

def toJson (r : FetchRequest) : Json :=
  ofFields [("digest_function", r.digestFunction.toJson),
    ("qualifiers", .array (r.qualifiers.map fun q => (q.map Qualifier.toJson).getD .null)),
    ("uris", .array (r.uris.map ofString))]

/-- Read the JSON form; a missing field is as in an empty request. -/
def ofJson? (v : Json) : Option FetchRequest :=
  match v.toRecord? ["digest_function", "qualifiers", "uris"] with
  | some [digestFunction, qualifiers, uris] => do
    let digestFunction ← optional DigestFunction.ofJson? .unknown digestFunction
    let qualifiers ← optional (toList? (toOption? Qualifier.ofJson?)) [] qualifiers
    let uris ← optional (toList? Json.toString?) [] uris
    some ⟨digestFunction, qualifiers, uris⟩
  | _ => none

end FetchRequest

namespace Status

def toJson (s : Status) : Json :=
  ofFields (("code", s.code.toJson) ::
    if s.message.isEmpty then [] else [("message", ofString s.message)])

def ofJson? (v : Json) : Option Status :=
  match v.toRecord? ["code", "message"] with
  | some [code, message] => do
    let code ← required StatusCode.ofJson? code
    let message ← optional Json.toString? "" message
    some ⟨code, message⟩
  | _ => none

end Status

namespace BlobDigest

def toJson (d : BlobDigest) : Json :=
  ofFields [("hash", ofString d.hash), ("size_bytes", .integer d.sizeBytes.toInt)]

def ofJson? (v : Json) : Option BlobDigest :=
  match v.toRecord? ["hash", "size_bytes"] with
  | some [hash, size] => do
    let hash ← required Json.toString? hash
    let size ← required toInt64? size
    some ⟨hash, size⟩
  | _ => none

end BlobDigest

namespace FetchBlobResponse

def toJson (r : FetchBlobResponse) : Json :=
  ofFields ([("status", r.status.toJson), ("digest_function", r.digestFunction.toJson)] ++
    field? "blob_digest" BlobDigest.toJson r.blobDigest ++ field? "uri" ofString r.uri)

def ofJson? (v : Json) : Option FetchBlobResponse :=
  match v.toRecord? ["status", "digest_function", "blob_digest", "uri"] with
  | some [status, digestFunction, blobDigest, uri] => do
    let status ← required Status.ofJson? status
    let digestFunction ← required DigestFunction.ofJson? digestFunction
    let blobDigest ← optional (toOption? BlobDigest.ofJson?) none blobDigest
    let uri ← optional (toOption? Json.toString?) none uri
    some ⟨status, digestFunction, blobDigest, uri⟩
  | _ => none

end FetchBlobResponse

namespace FetchDirectoryResponse

def toJson (r : FetchDirectoryResponse) : Json :=
  ofFields (("status", r.status.toJson) ::
    field? "root_directory_digest" BlobDigest.toJson r.rootDirectoryDigest)

def ofJson? (v : Json) : Option FetchDirectoryResponse :=
  match v.toRecord? ["status", "root_directory_digest"] with
  | some [status, digest] => do
    let status ← required Status.ofJson? status
    let digest ← optional (toOption? BlobDigest.ofJson?) none digest
    some ⟨status, digest⟩
  | _ => none

end FetchDirectoryResponse

end AssetCache
