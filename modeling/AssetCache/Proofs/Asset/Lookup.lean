import AssetCache.Proofs.Asset.Footprint

/-!
# What a checksum leads to

Whether a checksum works, and what becomes of the world when it is tried, is a matter of what the
store has under its path, and, where that is nothing, of what the proxy says and gives.

Results:
1. `knownSize_of_empty`, `knownSize_of_entry`: a blob that the store has.
2. `knownSize_of_missing`, `knownSize_of_told`, `knownSize_of_given`: one that it does not have.
-/

namespace AssetCache

variable {π ν : Type} {out : Surroundings π ν} {w : World π ν} {p p' : π}

theorem World.exists_ask (out : Surroundings π ν) (w : World π ν) (c : Request.Call) :
    ∃ t answer, w.Allows out t ∧ (Request.implement c).Leads t answer ∧
      w.ask out c = (answer, (w.after out t).silent) := by
  obtain ⟨t, hallows, hleads, hafter⟩ := w.ask_history out c
  exact ⟨t, _, hallows, hleads, Prod.ext rfl hafter⟩

/-- The world, but for its log, after a path was looked up and the proxy came to a state. -/
def World.looked (w : World π ν) (path : String) (p : π) : World π ν :=
  ⟨(w.store.lookup path).2, p, w.network, []⟩

@[simp] theorem World.entries_looked (w : World π ν) (path : String) (p : π) :
    (w.looked path p).store.entries = w.store.entries :=
  w.store.entries_lookup path

@[simp] theorem World.find?_looked (w : World π ν) (path key : String) (p : π) :
    (w.looked path p).store.entries.find? key = w.store.entries.find? key := by
  rw [entries_looked]

/-- The world, but for its log, after a path was looked up, the proxy came to a state, and a blob
that it gave was stored. -/
def World.filled (w : World π ν) (path : String) (p : π) (blob : Bytes) : World π ν :=
  ⟨(w.store.lookup path).2.insert path blob, p, w.network, []⟩

@[simp] theorem World.entries_filled (w : World π ν) (path : String) (p : π) (blob : Bytes) :
    (w.filled path p blob).store.entries = w.store.entries.insert path blob :=
  congrArg (EntryMap.insert · path blob) (w.store.entries_lookup path)

namespace Resolver

variable {e : Expected} {blob : Bytes} {size : Nat}

/-- The path that a blob is looked up under. -/
def Expected.path (e : Expected) : String := Entry.blobPath .cas e.hasher e.hash

theorem ask_contains_of_empty (hempty : e.hasher.isEmptyHash e.hash = true) :
    w.ask out (.contains .cas e.hasher e.hash none) = (some (.known 0), w.silent) := by
  have hcas := (isEmptyBlob_cas e.hasher e.hash).trans hempty
  obtain ⟨t, answer, -, hleads, hask⟩ := w.exists_ask out (.contains .cas e.hasher e.hash none)
  rw [hask]
  cases Cache.contains_leads hleads with
  | empty => rfl
  | stored _ he => exact nomatch hcas.symm.trans he
  | asked _ he => exact nomatch hcas.symm.trans he

theorem ask_contains_of_entry (hempty : e.hasher.isEmptyHash e.hash = false)
    (hfind : w.store.entries.find? e.path = some blob) :
    w.ask out (.contains .cas e.hasher e.hash none) =
      (some (.known blob.length), w.looked e.path w.proxy) := by
  have hcas := (isEmptyBlob_cas e.hasher e.hash).trans hempty
  have hlookup := (w.store.answer_lookup e.path).trans hfind
  obtain ⟨t, answer, hallows, hleads, hask⟩ :=
    w.exists_ask out (.contains .cas e.hasher e.hash none)
  rw [hask]
  cases Cache.contains_leads hleads with
  | empty he => exact nomatch hcas.symm.trans he
  | stored found =>
    obtain rfl := Option.some.inj (hlookup.symm.trans hallows.1)
    rfl
  | asked => exact nomatch hlookup.symm.trans hallows.1

theorem ask_contains_of_absent (hempty : e.hasher.isEmptyHash e.hash = false)
    (hfind : w.store.entries.find? e.path = none) {told : Option BlobSize}
    (htold : out.proxy.contains .cas e.hash none w.proxy = (told, p)) :
    w.ask out (.contains .cas e.hasher e.hash none) = (told, w.looked e.path p) := by
  have hcas := (isEmptyBlob_cas e.hasher e.hash).trans hempty
  have hlookup := (w.store.answer_lookup e.path).trans hfind
  obtain ⟨t, answer, hallows, hleads, hask⟩ :=
    w.exists_ask out (.contains .cas e.hasher e.hash none)
  rw [hask]
  cases Cache.contains_leads hleads with
  | empty he => exact nomatch hcas.symm.trans he
  | stored found => exact nomatch hlookup.symm.trans hallows.1
  | asked answer =>
    obtain rfl : told = answer := (congrArg Prod.fst htold).symm.trans hallows.2.1
    obtain rfl : _ = p := congrArg Prod.snd htold
    rfl

/-- A blob that the store does not have, and that the proxy gives, is stored and given. -/
theorem ask_get_of_given (hempty : e.hasher.isEmptyHash e.hash = false)
    (hfind : w.store.entries.find? e.path = none) {body : Reader} {n : BlobSize}
    (hgiven : out.proxy.get .cas e.hash none w.proxy = (.ok (some (body, n)), p))
    (hverify : Cache.verify .cas e.hasher e.hash (n.known?.or none) body = .ok blob) :
    w.ask out (.get .cas e.hasher e.hash none 0) =
      (.ok (some (.ofBytes blob, .known blob.length)), w.filled e.path p blob) := by
  have hcas := (isEmptyBlob_cas e.hasher e.hash).trans hempty
  obtain ⟨t, answer, hallows, hleads, hask⟩ := w.exists_ask out (.get .cas e.hasher e.hash none 0)
  obtain ⟨result, hfound, rfl⟩ := Cache.get_leads hleads
  obtain ⟨rfl, rfl⟩ :=
    Cache.history_of_given hallows hfound hcas hfind (congrArg Prod.fst hgiven) hverify
  obtain rfl : _ = p := congrArg Prod.snd hgiven
  exact hask

/-! ## The size of a blob -/

theorem knownSize_of_empty (hempty : e.hasher.isEmptyHash e.hash = true) :
    knownSize out e w = (some 0, w.silent) := by
  unfold knownSize
  rw [ask_contains_of_empty hempty]

theorem knownSize_of_entry (hempty : e.hasher.isEmptyHash e.hash = false)
    (hfind : w.store.entries.find? e.path = some blob) :
    knownSize out e w = (some blob.length, w.looked e.path w.proxy) := by
  unfold knownSize
  rw [ask_contains_of_entry hempty hfind]

/-- The proxy does not have the blob. -/
theorem knownSize_of_missing (hempty : e.hasher.isEmptyHash e.hash = false)
    (hfind : w.store.entries.find? e.path = none)
    (htold : out.proxy.contains .cas e.hash none w.proxy = (none, p)) :
    knownSize out e w = (none, w.looked e.path p) := by
  unfold knownSize
  rw [ask_contains_of_absent hempty hfind htold]

/-- The proxy tells the size of the blob. -/
theorem knownSize_of_told (hempty : e.hasher.isEmptyHash e.hash = false)
    (hfind : w.store.entries.find? e.path = none)
    (htold : out.proxy.contains .cas e.hash none w.proxy = (some (.known size), p)) :
    knownSize out e w = (some size, w.looked e.path p) := by
  unfold knownSize
  rw [ask_contains_of_absent hempty hfind htold]

/-- The proxy has the blob and does not tell its size, so that the blob is taken over. -/
theorem knownSize_of_given (hempty : e.hasher.isEmptyHash e.hash = false)
    (hfind : w.store.entries.find? e.path = none) {body : Reader} {n : BlobSize}
    (htold : out.proxy.contains .cas e.hash none w.proxy = (some .unknown, p))
    (hgiven : out.proxy.get .cas e.hash none p = (.ok (some (body, n)), p'))
    (hverify : Cache.verify .cas e.hasher e.hash (n.known?.or none) body = .ok blob) :
    knownSize out e w = (some blob.length, (w.looked e.path p).filled e.path p' blob) := by
  have hget := ask_get_of_given (w := w.looked e.path p) hempty ((w.find?_looked ..).trans hfind)
    hgiven hverify
  unfold knownSize
  rw [ask_contains_of_absent hempty hfind htold]
  dsimp only
  rw [hget]

end Resolver

end AssetCache
