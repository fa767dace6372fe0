import AssetCache.Config
import AssetCache.Fetch

/-!
# Clients

Fetches go through an HTTP client.  What builds clients is a parameter: it is given the name by
which the client presents itself and the time that a request may take, and it may refuse.
-/

namespace AssetCache

/-- What builds HTTP clients; a refusal comes with a reason. -/
abbrev ClientBuilder (γ : Type) :=
  (userAgent : String) → (timeout : Option Duration) → Except String γ

/-- What fetches through an HTTP client. -/
structure HttpFetcher (γ : Type) where
  client : γ
  deriving DecidableEq, Repr

namespace HttpFetcher

variable {γ : Type}

/-- A fetcher with the name and the timeout of a configuration. -/
def ofConfig (build : ClientBuilder γ) (c : Config) : Except FetchError (HttpFetcher γ) :=
  match build c.userAgent c.fetchTimeout with
  | .ok client => .ok ⟨client⟩
  | .error reason => .error (.client reason)

end HttpFetcher

end AssetCache
