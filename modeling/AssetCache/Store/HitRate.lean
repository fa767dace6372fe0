import AssetCache.Number.Binary64
import AssetCache.Store.State

/-!
# The hit rate

The share of lookups that found something, as a floating-point number: both counts are rounded
first, then their quotient.
-/

namespace AssetCache

/-- All lookups.  Counts that no store has may be any two words of 64 bits; their sum is taken in 64
bits as well. -/
def CacheStats.lookups (s : CacheStats) : Nat := (s.hits + s.misses) % UInt64.size

/-- The share of hits among lookups; zero where there were none. -/
def CacheStats.hitRate (s : CacheStats) : Binary64 :=
  let total := s.lookups
  if total = 0 then .zero else (Binary64.ofNat s.hits).div (Binary64.ofNat total)

end AssetCache
