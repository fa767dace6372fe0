import AssetCache.Asset.MessageJson
import AssetCache.Proofs.Json.Decode

/-!
# Messages survive their JSON form

Each type of message is faithful to its JSON form, by the slots of its record.  A field that is left
out stands for the value that it would be written for: an empty explanation, no digest, no place.

Results:
1. `read?_render`: a value of a faithful type is read from the text that is written for it.
2. `messages_survive_json`: every request, response and part of one survives its JSON form.
-/

namespace AssetCache

open Json

/-- A value of a faithful type is read from the text that is written for it. -/
theorem Json.Faithful.read?_render {α : Type} {toJson : α → Json} {ofJson? : Json → Option α}
    (h : Faithful toJson ofJson?) (a : α) : read? ofJson? (toJson a).render = some a := by
  rw [read?, parse?_render (h.plain a)]
  exact h.decode a

/-! ## Words -/

theorem DigestFunction.faithful : Faithful toJson ofJson? := faithful_word ofWireName?_wireName

theorem EntryKind.faithful : Faithful toJson ofJson? := faithful_word ofName?_name

theorem StatusCode.faithful : Faithful toJson ofJson? := faithful_word ofWireName?_wireName

/-! ## Parts -/

namespace Qualifier

def slots (q : Qualifier) : List (String × Option Json) :=
  [("name", some (ofString q.name)), ("value", some (ofString q.value))]

theorem toJson_eq (q : Qualifier) : q.toJson = ofFields (written q.slots) := rfl

theorem faithful : Faithful toJson ofJson? where
  plain q := plain_written q.toJson_eq (by simp [slots, faithful_string.plain])
  decode q := by
    have hslots : toRecord? ["name", "value"] q.toJson = some (q.slots.map Prod.snd) :=
      toRecord?_written q.toJson_eq (by simp [slots])
    rw [ofJson?, hslots]
    simp [slots, faithful_string.required]

/-- Qualifiers, of which any may be nil. -/
theorem faithful_list :
    Faithful (fun qs => .array (qs.map fun q => (q.map toJson).getD .null))
      (toList? (toOption? ofJson?)) :=
  (faithful.nullable fun _ => nofun).list

end Qualifier

namespace Status

def slots (s : Status) : List (String × Option Json) :=
  [("code", some s.code.toJson),
    ("message", if s.message.isEmpty then none else some (ofString s.message))]

theorem toJson_eq (s : Status) : s.toJson = ofFields (written s.slots) := by
  unfold toJson slots
  split
  next => rfl
  next => rfl

theorem faithful : Faithful toJson ofJson? where
  plain s := plain_written s.toJson_eq
    (by simp [slots, StatusCode.faithful.plain, faithful_string.plain])
  decode s := by
    have hslots : toRecord? ["code", "message"] s.toJson = some (s.slots.map Prod.snd) :=
      toRecord?_written s.toJson_eq (by simp [slots])
    have hmessage := faithful_string.optional_of_omitted (a := s.message) String.isEmpty_iff.1
    rw [ofJson?, hslots]
    simp only [slots, List.map]
    rw [StatusCode.faithful.required, hmessage]
    rfl

end Status

namespace BlobDigest

def slots (d : BlobDigest) : List (String × Option Json) :=
  [("hash", some (ofString d.hash)), ("size_bytes", some (.integer d.sizeBytes.toInt))]

theorem toJson_eq (d : BlobDigest) : d.toJson = ofFields (written d.slots) := rfl

theorem faithful : Faithful toJson ofJson? where
  plain d := plain_written d.toJson_eq
    (by simp [slots, faithful_string.plain, faithful_int64.plain])
  decode d := by
    have hslots : toRecord? ["hash", "size_bytes"] d.toJson = some (d.slots.map Prod.snd) :=
      toRecord?_written d.toJson_eq (by simp [slots])
    rw [ofJson?, hslots]
    simp [slots, faithful_string.required, faithful_int64.required]

theorem toJson_ne_null (d : BlobDigest) : d.toJson ≠ .null := nofun

end BlobDigest

/-! ## Requests and responses -/

namespace FetchRequest

def slots (r : FetchRequest) : List (String × Option Json) :=
  [("digest_function", some r.digestFunction.toJson),
    ("qualifiers", some (.array (r.qualifiers.map fun q => (q.map Qualifier.toJson).getD .null))),
    ("uris", some (.array (r.uris.map ofString)))]

theorem toJson_eq (r : FetchRequest) : r.toJson = ofFields (written r.slots) := rfl

theorem faithful : Faithful toJson ofJson? where
  plain r := plain_written r.toJson_eq
    (by simp [slots, DigestFunction.faithful.plain, Qualifier.faithful_list.plain,
      faithful_string.list.plain])
  decode r := by
    have hslots : toRecord? ["digest_function", "qualifiers", "uris"] r.toJson =
        some (r.slots.map Prod.snd) := toRecord?_written r.toJson_eq (by simp [slots])
    rw [ofJson?, hslots]
    simp [slots, DigestFunction.faithful.optional, Qualifier.faithful_list.optional,
      faithful_string.list.optional]

end FetchRequest

namespace FetchBlobResponse

def slots (r : FetchBlobResponse) : List (String × Option Json) :=
  [("status", some r.status.toJson), ("digest_function", some r.digestFunction.toJson),
    ("blob_digest", r.blobDigest.map BlobDigest.toJson), ("uri", r.uri.map ofString)]

theorem toJson_eq (r : FetchBlobResponse) : r.toJson = ofFields (written r.slots) := by
  obtain ⟨status, digestFunction, blobDigest, uri⟩ := r
  cases blobDigest with
  | _ =>
    cases uri with
    | _ => rfl

theorem faithful : Faithful toJson ofJson? where
  plain r := plain_written r.toJson_eq
    (by simp [slots, Status.faithful.plain, DigestFunction.faithful.plain,
      BlobDigest.faithful.plain, faithful_string.plain])
  decode r := by
    have hslots : toRecord? ["status", "digest_function", "blob_digest", "uri"] r.toJson =
        some (r.slots.map Prod.snd) := toRecord?_written r.toJson_eq (by simp [slots])
    rw [ofJson?, hslots]
    simp [slots, Status.faithful.required, DigestFunction.faithful.required,
      BlobDigest.faithful.optional_map BlobDigest.toJson_ne_null,
      faithful_string.optional_map nofun]

end FetchBlobResponse

namespace FetchDirectoryResponse

def slots (r : FetchDirectoryResponse) : List (String × Option Json) :=
  [("status", some r.status.toJson),
    ("root_directory_digest", r.rootDirectoryDigest.map BlobDigest.toJson)]

theorem toJson_eq (r : FetchDirectoryResponse) : r.toJson = ofFields (written r.slots) := by
  obtain ⟨status, rootDirectoryDigest⟩ := r
  cases rootDirectoryDigest with
  | _ => rfl

theorem faithful : Faithful toJson ofJson? where
  plain r := plain_written r.toJson_eq
    (by simp [slots, Status.faithful.plain, BlobDigest.faithful.plain])
  decode r := by
    have hslots : toRecord? ["status", "root_directory_digest"] r.toJson =
        some (r.slots.map Prod.snd) := toRecord?_written r.toJson_eq (by simp [slots])
    rw [ofJson?, hslots]
    simp [slots, Status.faithful.required,
      BlobDigest.faithful.optional_map BlobDigest.toJson_ne_null]

end FetchDirectoryResponse

/-- Every message survives its JSON form: what is read from its compact text is the message.  A
request is of one form for a blob and for a directory. -/
theorem messages_survive_json :
    (∀ r : FetchRequest, read? FetchRequest.ofJson? r.toJson.render = some r) ∧
    (∀ r : FetchBlobResponse, read? FetchBlobResponse.ofJson? r.toJson.render = some r) ∧
    (∀ r : FetchDirectoryResponse,
      read? FetchDirectoryResponse.ofJson? r.toJson.render = some r) ∧
    (∀ q : Qualifier, read? Qualifier.ofJson? q.toJson.render = some q) ∧
    (∀ s : Status, read? Status.ofJson? s.toJson.render = some s) ∧
    (∀ d : BlobDigest, read? BlobDigest.ofJson? d.toJson.render = some d) ∧
    (∀ f : DigestFunction, read? DigestFunction.ofJson? f.toJson.render = some f) ∧
    (∀ c : StatusCode, read? StatusCode.ofJson? c.toJson.render = some c) ∧
    (∀ k : EntryKind, read? EntryKind.ofJson? k.toJson.render = some k) :=
  ⟨FetchRequest.faithful.read?_render, FetchBlobResponse.faithful.read?_render,
    FetchDirectoryResponse.faithful.read?_render, Qualifier.faithful.read?_render,
    Status.faithful.read?_render, BlobDigest.faithful.read?_render,
    DigestFunction.faithful.read?_render, StatusCode.faithful.read?_render,
    EntryKind.faithful.read?_render⟩

end AssetCache
