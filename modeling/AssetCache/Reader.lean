import AssetCache.Bytes
import AssetCache.Text.Decimal

/-!
# Readers

A reader delivers octets in chunks, and then ends or fails.  The failure is met only by who reads
that far: reading a limited number of octets stops as soon as it has them.  `fill` reads chunk after
chunk and shows the buffer on the way.
-/

namespace AssetCache

/-- Octets in chunks, and the failure after them, if they do not just end. -/
structure Reader where
  chunks : List Bytes
  failure : Option String
  deriving DecidableEq, Repr

namespace Reader

/-- A reader of these octets. -/
def ofBytes (bytes : Bytes) : Reader := ⟨[bytes], none⟩

/-- All octets that it may deliver. -/
def bytes (r : Reader) : Bytes := r.chunks.flatten

/-- Read to the end. -/
def readAll (r : Reader) : Except String Bytes :=
  match r.failure with
  | none => .ok r.bytes
  | some reason => .error reason

/-- Read `limit` octets, or up to the end if there are fewer. -/
def read (r : Reader) (limit : Nat) : Except String Bytes :=
  if limit ≤ r.bytes.length then .ok (r.bytes.take limit) else r.readAll

/-- What a buffer that holds `held` takes of a chunk: what it has room for, if it has a limit. -/
def taken (limit : Option Nat) (held chunk : Bytes) : Bytes :=
  match limit with
  | none => chunk
  | some limit => chunk.take (limit - held.length)

/-- Read chunks into a buffer that holds `held`: what it holds on the way, and what comes of it.
Once it is full, nothing is read that follows. -/
def fillFrom (limit : Option Nat) (failure : Option String) :
    (held : Bytes) → (chunks : List Bytes) → List Bytes × Except String Bytes
  | held, [] =>
    ([held], if limit.any (· ≤ held.length) then .ok held
      else match failure with
        | none => .ok held
        | some reason => .error reason)
  | held, chunk :: rest =>
    if limit.any (· ≤ held.length) then ([held], .ok held)
    else
      let later := fillFrom limit failure (held ++ taken limit held chunk) rest
      (held :: later.1, later.2)

/-- Read into a buffer, to the end or up to its limit. -/
def fill (limit : Option Nat) (r : Reader) : List Bytes × Except String Bytes :=
  fillFrom limit r.failure [] r.chunks

/-- One octet more than `size`: enough to see that there are too many.  Sizes have 64 bits, and
the largest stays as it is. -/
def oneMore (size : Nat) : Nat := min (size + 1) Decimal.largest

end Reader

end AssetCache
