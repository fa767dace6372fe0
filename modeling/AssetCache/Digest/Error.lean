import AssetCache.Digest.Function

/-!
# What can be wrong with a digest

The causes for which a digest, or the name of a digest function, is refused, and their wording.
-/

namespace AssetCache

/-- Why a digest or a digest function is refused. -/
inductive DigestError where
  /-- No hasher is registered for the function. -/
  | unsupportedFunction (function : DigestFunction)
  /-- No function has the name. -/
  | unknownAlgorithm (name : String)
  /-- A digest has the wrong number of octets. -/
  | invalidLength (algorithm : String) (got expected : Nat)
  /-- A digest of the right length has other characters than lower-case digits. -/
  | malformed (algorithm value : String)
  /-- An empty blob goes by the digest of another one. -/
  | invalidEmptyDigest (function : DigestFunction)
  /-- A hasher shares its function or its name with one that is registered. -/
  | duplicateRegistration (function : DigestFunction) (name : String)
  deriving DecidableEq, Repr

def DigestError.message : DigestError → String
  | .unsupportedFunction function => s!"unsupported digest function {function.wireName}"
  | .unknownAlgorithm name => s!"unknown digest algorithm \"{name}\""
  | .invalidLength algorithm got expected =>
    s!"Invalid {algorithm} hash length {got}: expected {expected}"
  | .malformed algorithm value => s!"Malformed {algorithm} hash {value}"
  | .invalidEmptyDigest function => s!"Invalid zero-length {function.wireName} hash"
  | .duplicateRegistration function name =>
    s!"digest function {function.wireName} or name \"{name}\" registered twice"

/-- The function with a word, in any case of its ASCII letters. -/
def DigestFunction.read (s : String) : Except DigestError DigestFunction :=
  match DigestFunction.ofName? s with
  | some f => .ok f
  | none => .error (.unknownAlgorithm s)

end AssetCache
