import AssetCache.Digest.Registry
import AssetCache.Text.Base64

/-!
# Integrity checksums

A checksum is the name of a digest algorithm, a `-`, and the digest in base 64, as in
`sha256-47DEQpj8HBSa+/TImW+5JCeuQeRkm5NMpJWZG3hSuFU=`.  Inside, digests are lower-case hexadecimal.
-/

namespace AssetCache

/-- Why a text is no checksum, or a digest cannot be put into one. -/
inductive SriError where
  /-- There is no `-`. -/
  | missingSeparator (value : String)
  /-- The part after the first `-` is not base 64. -/
  | base64 (digest : String) (cause : Base64.Error)
  /-- The digest is not hexadecimal. -/
  | hex (value : String) (cause : Hex.Error)
  deriving DecidableEq, Repr

def SriError.message : SriError → String
  | .missingSeparator value => s!"missing '-' between algorithm and digest in \"{value}\""
  | .base64 digest cause => s!"failed to base64 decode \"{digest}\": {cause.message}"
  | .hex value cause => s!"\"{value}\" is not a hex digest: {cause.message}"

/-- A checksum, its digest in hexadecimal. -/
structure Sri where
  algorithm : String
  hex : String
  deriving DecidableEq, Repr

namespace Sri

/-- What stands before and after the first `-`. -/
def splitDash : List Char → Option (List Char × List Char)
  | [] => none
  | c :: rest =>
    if c = '-' then some ([], rest)
    else (splitDash rest).map fun (before, after) => (c :: before, after)

def parse (value : String) : Except SriError Sri :=
  match splitDash value.toList with
  | none => .error (.missingSeparator value)
  | some (algorithm, digest) =>
    match Base64.decode (Utf8.encode digest) with
    | .ok raw => .ok ⟨String.ofList algorithm, Hex.encode raw⟩
    | .error cause => .error (.base64 (String.ofList digest) cause)

/-- Write the checksum of a hexadecimal digest. -/
def encode (algorithm hexDigest : String) : Except SriError String :=
  match Hex.decode (Utf8.ofString hexDigest) with
  | .ok raw => .ok (algorithm ++ "-" ++ Base64.encode raw)
  | .error cause => .error (.hex hexDigest cause)

end Sri

/-- The checksum that names a hasher and one of its digests. -/
def Hasher.sri (h : Hasher) (hexDigest : String) : Except SriError String :=
  Sri.encode h.name hexDigest

end AssetCache
