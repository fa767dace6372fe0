import AssetCache.Proofs.Digest.Hash
import AssetCache.Proofs.Entry.BlobPath
import AssetCache.Proofs.Program.Contract
import AssetCache.Proofs.Store.Verification

/-!
# Integrity of the store

Whatever is stored under the digest of a blob is that blob.  `Sound` says so of a store, and the
contract `integrity` says it of steps: what is stored was verified, and so what is looked up has
been.  Each operation of the cache keeps the contract by itself, under any proxy, so that nothing
needs to be known of the steps of others that come between its own.

Results:
1. `integrity_upheld`: a store stays sound, and gives what the contract promises, under steps that
   the contract allows.
2. `Cache.contains_keeps`, `Cache.get_keeps`, `Cache.put_keeps`: the cache makes no others.
-/

namespace AssetCache

open Operation (act)

/-! ## Entries -/

/-- The blobs of all entries. -/
def Store.blobs (s : Store) : List Bytes := s.entries.entries.map (·.2)

theorem EntryMap.mem_of_findIn {key : String} {blob : Bytes} {l : List (String × Bytes)}
    (h : findIn key l = some blob) : (key, blob) ∈ l := by
  induction l with
  | nil => exact nomatch h
  | cons e rest ih =>
    obtain ⟨k, old⟩ := e
    unfold findIn at h
    split at h
    next hk => exact hk ▸ Option.some.inj h ▸ List.mem_cons_self
    next => exact List.mem_cons_of_mem _ (ih h)

theorem Store.mem_blobs {s : Store} {path : String} {blob : Bytes}
    (h : s.entries.find? path = some blob) : blob ∈ s.blobs :=
  List.mem_map_of_mem (EntryMap.mem_of_findIn h)

/-! ## Sound stores -/

/-- Hashers that keep their blobs apart: each has a directory of its own, of a single name. -/
structure Separate (H : List Hasher) : Prop where
  slashFree : ∀ h ∈ H, '/' ∉ h.dir.toList
  ownDir : ∀ g ∈ H, ∀ h ∈ H, g.dir = h.dir → g = h

theorem separate_standard : Separate Registry.standard.hashers := ⟨by decide, by decide⟩

/-- Some hasher of `H` vouches for a blob under a path: the path is that of an entry, and the blob
has the digest that it is stored under. -/
def Vouched (H : List Hasher) (path : String) (blob : Bytes) : Prop :=
  ∃ kind, ∃ hasher ∈ H, ∃ hash,
    path = Entry.blobPath kind hasher hash ∧ (kind = .cas → hasher.hash blob = hash)

/-- Every entry is vouched for. -/
def Sound (H : List Hasher) (s : Store) : Prop :=
  ∀ path blob, s.entries.find? path = some blob → Vouched H path blob

variable {H : List Hasher} {π ν : Type} {hasher : Hasher} {kind : EntryKind} {hash : String}

theorem Vouched.hash_eq {blob : Bytes} (hsep : Separate H) (hmem : hasher ∈ H)
    (h : Vouched H (Entry.blobPath .cas hasher hash) blob) : hasher.hash blob = hash := by
  obtain ⟨kind, g, hg, x, hpath, hblob⟩ := h
  obtain ⟨rfl, hdir, rfl⟩ :=
    Entry.blobPath_injective_of_dir (hsep.slashFree _ hmem) (hsep.slashFree _ hg) hpath
  obtain rfl := hsep.ownDir _ hmem _ hg hdir
  exact hblob rfl

/-- What there is under a hash: the empty blob, or what some hasher vouches for. -/
def Offered (H : List Hasher) (kind : EntryKind) (hasher : Hasher) (hash : String) (blob : Bytes) :
    Prop :=
  (Cache.isEmptyBlob kind hasher hash = true ∧ blob = []) ∨
    Vouched H (Entry.blobPath kind hasher hash) blob

theorem Offered.hash_eq {blob : Bytes} (hsep : Separate H) (hmem : hasher ∈ H)
    (h : Offered H .cas hasher hash blob) : hasher.hash blob = hash := by
  rcases h with ⟨hempty, rfl⟩ | hv
  · have he : hasher.isEmptyHash hash = true := (Bool.and_eq_true_iff.1 hempty).2
    rw [Hasher.hash_nil, Hasher.eq_empty_of_isEmptyHash he]
  · exact hv.hash_eq hsep hmem

theorem sound_empty : Sound H Store.empty := by
  intro path blob h
  exact nomatch h

theorem Sound.of_entries_eq {s s' : Store} (h : Sound H s) (heq : s'.entries = s.entries) :
    Sound H s' := by
  unfold Sound
  rw [heq]
  exact h

theorem Sound.insert {s : Store} {path : String} {blob : Bytes} (h : Sound H s)
    (hv : Vouched H path blob) : Sound H (s.insert path blob) := by
  intro k b hfind
  rw [Store.insert, EntryMap.find?_insert] at hfind
  split at hfind
  next hk => exact hk ▸ Option.some.inj hfind ▸ hv
  next => exact h k b hfind

theorem Cache.vouched_of_verify {expected : Option Nat} {body : Reader} {blob : Bytes}
    (hmem : hasher ∈ H) (h : Cache.verify kind hasher hash expected body = .ok blob) :
    Vouched H (Entry.blobPath kind hasher hash) blob :=
  ⟨kind, hasher, hmem, hash, rfl, fun hk => Cache.hash_eq_of_verify (hk ▸ h)⟩

/-! ## The contract of steps -/

/-- An upload of a hasher of `H`, verified. -/
def Upload.Verified (H : List Hasher) (path : String) (u : Upload) : Prop :=
  ∃ hasher ∈ H, path = Entry.blobPath u.kind hasher u.hash ∧
    (u.kind = .cas → hasher.hash u.blob = u.hash)

/-- Store nothing that is not vouched for, and find nothing else. -/
def integrity (H : List Hasher) : Contract Action.interface where
  allows
    | .finish path (some u) => u.Verified H path
    | .fill path blob => Vouched H path blob
    | _ => True
  grants
    | .lookup path, found => ∀ blob, (found : Option Bytes) = some blob → Vouched H path blob
    | _, _ => True

/-- What a sound store does keeps to the contract, whatever the proxy and the network are. -/
theorem integrity_upheld (out : Surroundings π ν) :
    (integrity H).UpheldBy (Action.perform out) fun w => Sound H w.store := by
  intro action w hallows hsound
  cases action with
  | lookup path =>
    show (∀ blob, (w.store.lookup path).1 = some blob → _) ∧ Sound H (w.store.lookup path).2
    unfold Store.lookup
    cases hfind : w.store.entries.find? path with
    | none => exact ⟨fun _ h => (nomatch h), hsound⟩
    | some found => exact ⟨fun _ h => Option.some.inj h ▸ hsound _ _ hfind, hsound⟩
  | begin path onlyIfAbsent =>
    refine ⟨trivial, ?_⟩
    show Sound H (w.store.begin path onlyIfAbsent).2
    unfold Store.begin
    split
    · exact hsound
    · split <;> exact hsound
  | finish path upload =>
    cases upload with
    | none => exact ⟨trivial, hsound⟩
    | some u =>
      obtain ⟨g, hg, hpath, hblob⟩ := hallows
      exact ⟨trivial, Sound.insert hsound ⟨u.kind, g, hg, u.hash, hpath, hblob⟩⟩
  | fill path blob => exact ⟨trivial, Sound.insert hsound hallows⟩
  | askProxy => exact ⟨trivial, hsound⟩
  | openProxy => exact ⟨trivial, hsound⟩
  | fetch => exact ⟨trivial, hsound⟩
  | log => exact ⟨trivial, hsound⟩

theorem entries_abandon {α : Type} (out : Surroundings π ν) (op : Operation α) (w : World π ν) :
    (op.abandon out w).store.entries = w.store.entries := by
  cases op with
  | done _ => rfl
  | step action next => cases action <;> rfl

/-! ## Operations of the cache -/

namespace Cache

theorem contains_keeps (size : Option Nat) :
    (contains kind hasher hash size).Keeps (integrity H) fun _ => True := by
  unfold contains
  split
  · exact trivial
  · refine (Program.keeps_bind _ _).2 ⟨trivial, fun found _ => ?_⟩
    cases found with
    | some blob => exact trivial
    | none => exact ⟨trivial, fun _ _ => trivial⟩

theorem takeOver_keeps (hmem : hasher ∈ H) (expected : Option Nat) (body : Reader) :
    (takeOver kind hasher hash (verify kind hasher hash expected body)).Keeps (integrity H)
      fun result => ∀ blob, result = .ok (some blob) → Offered H kind hasher hash blob := by
  cases hverify : verify kind hasher hash expected body with
  | error e => exact fun _ h => nomatch h
  | ok blob =>
    have hv := vouched_of_verify hmem hverify
    refine ⟨hv, fun _ _ => ⟨trivial, fun _ _ => ?_⟩⟩
    intro found h
    exact Option.some.inj (Except.ok.inj h) ▸ .inr hv

theorem fillFromProxy_keeps (hmem : hasher ∈ H) (size : Option Nat) :
    (fillFromProxy kind hasher hash size).Keeps (integrity H) fun result =>
      ∀ blob, result = .ok (some blob) → Offered H kind hasher hash blob := by
  refine (Program.keeps_bind _ _).2 ⟨trivial, fun answer _ => ?_⟩
  rcases answer with e | (_ | ⟨body, proxySize⟩)
  · exact fun _ h => nomatch h
  · exact fun _ h => nomatch h
  · exact takeOver_keeps hmem (proxySize.known?.or size) body

theorem find_keeps (hmem : hasher ∈ H) (size : Option Nat) :
    (find kind hasher hash size).Keeps (integrity H) fun result =>
      ∀ blob, result = .ok (some blob) → Offered H kind hasher hash blob := by
  unfold find
  split
  next hempty =>
    intro blob h
    exact .inl ⟨hempty, (Option.some.inj (Except.ok.inj h)).symm⟩
  next =>
    refine (Program.keeps_bind _ _).2 ⟨trivial, fun found hfound => ?_⟩
    cases found with
    | none => exact fillFromProxy_keeps hmem size
    | some blob =>
      intro b h
      exact Option.some.inj (Except.ok.inj h) ▸ .inr (hfound blob rfl)

/-- A reader from the beginning of an entry delivers all of it. -/
theorem readAll_of_serve {size : Option Nat} {blob : Bytes} {reader : Reader} {n : BlobSize}
    (h : serve hash size 0 blob = .ok (some (reader, n))) : reader.readAll = .ok blob := by
  unfold serve at h
  split at h
  · exact nomatch h
  · rw [if_neg (Nat.not_lt_zero _)] at h
    obtain ⟨rfl, -⟩ := Prod.mk.inj (Option.some.inj (Except.ok.inj h))
    exact Reader.readAll_ofBytes blob

theorem get_keeps (hmem : hasher ∈ H) (size : Option Nat) (offset : Nat) :
    (get kind hasher hash size offset).Keeps (integrity H) fun answer =>
      offset = 0 → ∀ reader n, answer = .ok (some (reader, n)) →
        ∃ blob, reader.readAll = .ok blob ∧ Offered H kind hasher hash blob := by
  refine (Program.keeps_bind _ _).2 ((find_keeps hmem size).mono fun result hresult => ?_)
  rcases result with e | (_ | blob)
  · exact fun _ _ _ h => nomatch h
  · exact fun _ _ _ h => nomatch h
  · rintro rfl reader n h
    exact ⟨blob, readAll_of_serve h, hresult blob rfl⟩

theorem put_keeps (hmem : hasher ∈ H) (size : Nat) (body : Reader) :
    (put kind hasher hash size body).Keeps (integrity H) fun _ => True := by
  unfold put
  split
  · exact trivial
  · split
    · exact trivial
    · refine (Program.keeps_bind _ _).2 ⟨trivial, fun admission _ => ?_⟩
      cases admission with
      | present => exact trivial
      | busy => exact trivial
      | begun =>
        show Program.Keeps _ _ (write kind hasher hash size body)
        unfold write
        split
        · exact ⟨trivial, fun _ _ => trivial⟩
        next blob hverify =>
          refine ⟨⟨hasher, hmem, rfl, ?_⟩, fun _ _ => trivial⟩
          rintro rfl
          exact hash_eq_of_verify hverify

end Cache

end AssetCache
