import AssetCache.Proofs.Service.Turns

/-!
# Where a blob comes from

What a get gives was put before.  The store keeps the entries of different hashers apart, but the
proxy does not: it keeps what was put under a kind and a hash, by whatever hasher.  So what was put
with one hasher is given to who asks for the same kind and hash with another one, as long as nothing
was put with that one.  From then on, only what is put with it is given.

Results:
1. `Traced.step`: each entry, and each blob of the proxy, goes back to a put.
2. `put_of_get`: what a get gives goes back to a put, and with which hasher.
3. `got_what_other_put`: it may be another hasher than that of the get.
-/

namespace AssetCache

open Service (withRecording)

variable {π ν : Type} {out : Surroundings π ν} {past : List (Turn π ν)} {used : List EntryName}
  {path : String} {blob : Bytes}

/-! ## Origins -/

/-- The put that the blob under a path goes back to. -/
inductive Origin (out : Surroundings π ν) (past : List (Turn π ν)) (used : List EntryName)
    (path : String) (blob : Bytes) : Prop
  /-- It was put under that path. -/
  | own {q : Turn π ν} {m : EntryName} (hq : q ∈ past) (h : Stores out q m blob)
    (hpath : m.path = path)
  /-- Nothing was put under the path so far; it was put with one hasher and came from the proxy when
  it was asked for, by the same kind and hash, with a hasher that makes them this path. -/
  | shared {q : Turn π ν} {m : EntryName} {hasher : Hasher}
    (hnone : ∀ q ∈ past, ∀ m blob, Stores out q m blob → m.path ≠ path)
    (hq : q ∈ past) (h : Stores out q m blob) (hused : ⟨m.kind, hasher, m.hash⟩ ∈ used)
    (hpath : EntryName.path ⟨m.kind, hasher, m.hash⟩ = path)
    (hhash : m.kind = .cas → hasher.hash blob = m.hash)

/-- The put that a blob goes back to, where paths tell names. -/
inductive NamedOrigin (out : Surroundings π ν) (past : List (Turn π ν)) (n : EntryName)
    (blob : Bytes) : Prop
  /-- It was put with the hasher. -/
  | own {q : Turn π ν} (hq : q ∈ past) (h : Stores out q n blob)
  /-- Nothing was put with the hasher so far; it was put with another one. -/
  | shared {q : Turn π ν} {hasher : Hasher}
    (hnone : ∀ q ∈ past, ∀ blob, ¬ Stores out q n blob)
    (hq : q ∈ past) (h : Stores out q ⟨n.kind, hasher, n.hash⟩ blob)
    (hhash : n.kind = .cas → n.hasher.hash blob = n.hash)

/-- What is stored has been read in full, so that it is not longer than sizes can tell. -/
theorem Stores.length_le {p : Turn π ν} {n : EntryName} (h : Stores out p n blob) :
    blob.length ≤ Decimal.largest := by
  cases h with
  | @put _ _ _ _ size body _ _ _ _ hverify =>
    obtain ⟨-, hread⟩ := Cache.length_of_readSized (Cache.readSized_of_verify hverify)
    exact Reader.length_le_of_read hread

theorem Origin.named {H : List Hasher} (hsep : Separate H) {n : EntryName}
    (hused : ∀ m ∈ used, m.hasher ∈ H) (hpast : ∀ m ∈ names past, m ∈ used) (hn : n ∈ used)
    (h : Origin out past used n.path blob) : NamedOrigin out past n blob := by
  have hmem {q : Turn π ν} {m : EntryName} {blob : Bytes} (hq : q ∈ past)
      (h : Stores out q m blob) : m ∈ used :=
    hpast m (List.mem_filterMap.2 ⟨q, hq, h.name⟩)
  cases h with
  | @own q m hq h hpath =>
    obtain rfl := EntryName.eq_of_path hsep (hused m (hmem hq h)) (hused n hn) hpath
    exact .own hq h
  | @shared q m hasher hnone hq h hmused hpath hhash =>
    obtain rfl := EntryName.eq_of_path hsep (hused _ hmused) (hused n hn) hpath
    exact .shared (fun q hq blob h => hnone q hq _ _ h rfl) hq h hhash

/-- A call that stores nothing under a path leaves the origin of the blob there as it is. -/
theorem Origin.later {p : Turn π ν} {used' : List EntryName}
    (h : Origin out past used path blob) (hused : ∀ m ∈ used, m ∈ used')
    (hno : ∀ m blob, Stores out p m blob → m.path ≠ path) :
    Origin out (past ++ [p]) used' path blob := by
  cases h with
  | own hq h hpath => exact .own (List.mem_append_left _ hq) h hpath
  | shared hnone hq h hmused hpath hhash =>
    refine .shared (fun q hq => ?_) (List.mem_append_left _ hq) h (hused _ hmused) hpath hhash
    rcases List.mem_append.1 hq with hq | hq
    · exact hnone q hq
    · obtain rfl := List.mem_singleton.1 hq
      exact hno

/-! ## Runs before a recording proxy -/

/-- Each entry, and each blob of the proxy, goes back to a put, and the path of each put has an
entry. -/
structure Traced (out : Surroundings π ν) (past : List (Turn π ν)) (entries : EntryMap)
    (proxy : Proxy.Recording) : Prop where
  entry : ∀ path blob, entries.find? path = some blob →
    Origin out past (names past) path blob
  held : ∀ kind hash blob, proxy.find? kind hash = some blob →
    ∃ q ∈ past, ∃ hasher, Stores out q ⟨kind, hasher, hash⟩ blob
  stays : ∀ q ∈ past, ∀ m blob, Stores out q m blob → ∃ found, entries.find? m.path = some found

theorem traced_empty : Traced out [] .empty .empty where
  entry _ _ h := nomatch h
  held _ _ _ h := nomatch h
  stays _ h := nomatch h

/-- What the proxy gives where the store has nothing was put with another hasher. -/
theorem Traced.shared {entries : EntryMap} {proxy : Proxy.Recording} {n : EntryName}
    {expected : Option Nat} {given : Bytes} (h : Traced out past entries proxy)
    (habsent : entries.find? n.path = none) (hgiven : proxy.find? n.kind n.hash = some given)
    (hverify : Cache.verify n.kind n.hasher n.hash expected (.ofBytes given) = .ok blob)
    (hused : n ∈ used) : Origin out past used n.path blob := by
  obtain ⟨q, hq, hasher, hstores⟩ := h.held n.kind n.hash given hgiven
  obtain rfl := Cache.eq_of_verify_ofBytes hstores.length_le hverify
  have hnone : ∀ q ∈ past, ∀ m blob, Stores out q m blob → m.path ≠ n.path := by
    intro q hq m blob hstores hpath
    obtain ⟨found, hfind⟩ := h.stays q hq m blob hstores
    exact nomatch (hpath ▸ hfind).symm.trans habsent
  refine .shared hnone hq hstores hused rfl fun hcas => ?_
  replace hcas : n.kind = .cas := hcas
  exact Cache.hash_eq_of_verify (hcas ▸ hverify)

/-- A call that stores nothing and tells nothing keeps what is traced. -/
theorem Traced.quiet {entries : EntryMap} {proxy : Proxy.Recording} {p : Turn π ν}
    (h : Traced out past entries proxy) (hno : ∀ m blob, ¬ Stores out p m blob) :
    Traced out (past ++ [p]) entries proxy where
  entry path blob hfind :=
    (h.entry path blob hfind).later (fun _ hm => mem_names_append hm [p])
      fun m blob hstores => absurd hstores (hno m blob)
  held kind hash blob hfind := by
    obtain ⟨q, hq, hstores⟩ := h.held kind hash blob hfind
    exact ⟨q, List.mem_append_left _ hq, hstores⟩
  stays q hq m blob hstores := by
    rcases List.mem_append.1 hq with hq | hq
    · exact h.stays q hq m blob hstores
    · obtain rfl := List.mem_singleton.1 hq
      exact absurd hstores (hno m blob)

/-- A put that is through is the origin of its blob, here and in the proxy. -/
theorem Traced.stored {entries : EntryMap} {proxy : Proxy.Recording} {p : Turn π ν} {n : EntryName}
    (h : Traced out past entries proxy) (hstores : Stores out p n blob) :
    Traced out (past ++ [p]) (entries.insert n.path blob) (proxy.tell (n.notice blob)) where
  entry path found hfind := by
    rw [EntryMap.find?_insert] at hfind
    split at hfind
    next hpath =>
      obtain rfl := Option.some.inj hfind
      exact .own (List.mem_append_right _ List.mem_cons_self) hstores hpath
    next hpath =>
      refine (h.entry path found hfind).later (fun _ hm => mem_names_append hm [p]) ?_
      intro m other hother
      obtain rfl := Option.some.inj (hother.name.symm.trans hstores.name)
      exact hpath
  held kind hash found hfind := by
    rw [Proxy.Recording.find?_tell] at hfind
    split at hfind
    next hsame =>
      obtain ⟨rfl, rfl⟩ := hsame
      obtain rfl := Option.some.inj hfind
      exact ⟨p, List.mem_append_right _ List.mem_cons_self, n.hasher, hstores⟩
    next =>
      obtain ⟨q, hq, hstores⟩ := h.held kind hash found hfind
      exact ⟨q, List.mem_append_left _ hq, hstores⟩
  stays q hq m found hother := by
    rcases List.mem_append.1 hq with hq | hq
    · exact EntryMap.exists_find?_insert (h.stays q hq m found hother)
    · obtain rfl := List.mem_singleton.1 hq
      obtain rfl := Option.some.inj (hother.name.symm.trans hstores.name)
      exact ⟨blob, EntryMap.find?_insert_self ..⟩

/-- A get that fills in a blob finds it where no put left one. -/
theorem Traced.filled {entries : EntryMap} {proxy : Proxy.Recording} {p : Turn π ν} {n : EntryName}
    (h : Traced out (past ++ [p]) entries proxy)
    (horigin : Origin out (past ++ [p]) (names (past ++ [p])) n.path blob) :
    Traced out (past ++ [p]) (entries.insert n.path blob) proxy where
  entry path found hfind := by
    rw [EntryMap.find?_insert] at hfind
    split at hfind
    next hpath =>
      obtain rfl := Option.some.inj hfind
      exact hpath ▸ horigin
    next => exact h.entry path found hfind
  held := h.held
  stays q hq m found hstores := EntryMap.exists_find?_insert (h.stays q hq m found hstores)

theorem Traced.step {hideSizes : Bool} {network : Network ν} {t : List (Turn Proxy.Recording ν)}
    {p : Turn Proxy.Recording ν}
    (h : Traced (withRecording hideSizes network) t p.world.store.entries p.world.proxy) :
    Traced (withRecording hideSizes network) (t ++ [p])
      (p.after (withRecording hideSizes network)).store.entries
      (p.after (withRecording hideSizes network)).proxy := by
  have hrecorded := p.recorded hideSizes network
  generalize (p.after (withRecording hideSizes network)).store.entries = entries at hrecorded ⊢
  generalize (p.after (withRecording hideSizes network)).proxy = proxy at hrecorded ⊢
  cases hrecorded with
  | stored _ n blob hstores => exact h.stored hstores
  | filled w n size offset expected given blob habsent hgiven hverify =>
    have hquiet := h.quiet (p := ⟨w, .get n.kind n.hasher n.hash size offset⟩)
      fun m blob h => nomatch h
    exact hquiet.filled (hquiet.shared habsent hgiven hverify (mem_names_last rfl))
  | kept _ hno => exact h.quiet hno

/-! ## What a get gives -/

/-- Where a get takes the blob from that it gives. -/
inductive Source (out : Surroundings π ν) (w : World π ν) (n : EntryName) (size : Option Nat)
    (blob : Bytes) : Prop
  /-- It is the empty blob. -/
  | empty (hblob : blob = [])
  /-- The store has it. -/
  | entry (hfind : w.store.entries.find? n.path = some blob)
  /-- The store does not have it, and the proxy gives it. -/
  | proxied (body : Reader) (given : BlobSize) (habsent : w.store.entries.find? n.path = none)
    (hgiven : (out.proxy.get n.kind n.hash size w.proxy).1 = .ok (some (body, given)))
    (hverify : Cache.verify n.kind n.hasher n.hash (given.known?.or size) body = .ok blob)

/-- A get gives a blob: that is what its reader delivers. -/
def Gives (out : Surroundings π ν) (w : World π ν) (n : EntryName) (size : Option Nat)
    (blob : Bytes) : Prop :=
  ∃ reader total, reader.readAll = .ok blob ∧
    ((Cache.get n.kind n.hasher n.hash size 0).run out w).1 = .ok (some (reader, total))

theorem source_of_gives {w : World π ν} {n : EntryName} {size : Option Nat}
    (h : Gives out w n size blob) : Source out w n size blob := by
  obtain ⟨reader, total, hread, hget⟩ := h
  obtain ⟨t, hallows, hfound⟩ := Cache.exists_found n.kind n.hasher n.hash size out w
  rw [Cache.run_get] at hget
  generalize ((Cache.find n.kind n.hasher n.hash size).run out w).1 = result at hget hfound
  have hserved {found : Bytes} (h : result = .ok (some found)) : found = blob := by
    rw [h] at hget
    exact Except.ok.inj ((Cache.readAll_of_serve hget).symm.trans hread)
  cases hfound with
  | empty => exact .empty (hserved rfl).symm
  | stored found =>
    have hlookup := (w.store.answer_lookup _).symm.trans hallows.1
    exact .entry (hserved rfl ▸ hlookup)
  | failed => exact nomatch hget
  | missing => exact nomatch hget
  | rejected => exact nomatch hget
  | filled body given found hverify =>
    have habsent := (w.store.answer_lookup _).symm.trans hallows.1
    exact .proxied body given habsent hallows.2.1 (hserved rfl ▸ hverify)

theorem Traced.origin {hideSizes : Bool} {network : Network ν} {w : World Proxy.Recording ν}
    {past : List (Turn Proxy.Recording ν)} {n : EntryName} {size : Option Nat}
    (h : Traced (withRecording hideSizes network) past w.store.entries w.proxy)
    (hgives : Gives (withRecording hideSizes network) w n size blob) (hblob : blob ≠ []) :
    Origin (withRecording hideSizes network) past (n :: names past) n.path blob := by
  cases source_of_gives hgives with
  | empty hempty => exact absurd hempty hblob
  | entry hfind =>
    cases h.entry n.path blob hfind with
    | own hq hstores hpath => exact .own hq hstores hpath
    | shared hnone hq hstores hused hpath hhash =>
      exact .shared hnone hq hstores (List.mem_cons_of_mem _ hused) hpath hhash
  | proxied body given habsent hgiven hverify =>
    obtain ⟨found, hfind, rfl⟩ := of_recording_get hgiven
    exact h.shared habsent hfind hverify List.mem_cons_self

/-- A blob that a get gives, and that is not empty, goes back to an earlier put: one under its own
path, or, if there was none so far, one under its kind and hash with another hasher, whose blob the
proxy gave.  Where hashers keep their blobs apart, the first is a put with the hasher of the get. -/
theorem put_of_get (hideSizes : Bool) (network : Network ν) (s : ν) (log : List Event)
    (jobs : List Job) {w : World Proxy.Recording ν} {n : EntryName} {size : Option Nat}
    {t₁ t₂ : List (Turn Proxy.Recording ν)}
    (hturns : turns (withRecording hideSizes network) (Job.inOrder jobs)
      ⟨.empty, .empty, s, log⟩ = t₁ ++ ⟨w, .get n.kind n.hasher n.hash size 0⟩ :: t₂)
    (hgives : Gives (withRecording hideSizes network) w n size blob) (hblob : blob ≠ []) :
    Origin (withRecording hideSizes network) t₁ (n :: names t₁) n.path blob ∧
      ∀ H, Separate H → (∀ m ∈ n :: names t₁, m.hasher ∈ H) →
        NamedOrigin (withRecording hideSizes network) t₁ n blob := by
  let out := withRecording hideSizes network
  let inv (past : List (Turn Proxy.Recording ν)) (w : World Proxy.Recording ν) : Prop :=
    Traced out past w.store.entries w.proxy
  have hstep (past : List (Turn Proxy.Recording ν)) (w : World Proxy.Recording ν)
      (c : Request.Call) (h : inv past w) :
      inv (past ++ [⟨w, c⟩]) (Request.perform out c w).2 := Traced.step h
  have htraced : inv ([] ++ t₁) w :=
    turns_induction_at hstep (Job.inOrder jobs) (w := ⟨.empty, .empty, s, log⟩) traced_empty hturns
  have horigin : Origin out t₁ (n :: names t₁) n.path blob := htraced.origin hgives hblob
  refine ⟨horigin, fun H hsep hH => ?_⟩
  exact horigin.named hsep hH (fun m hm => List.mem_cons_of_mem _ hm) List.mem_cons_self

/-- A blob is put with one hasher and asked for with another one, which is given it. -/
theorem put_of_get_with_other_hasher :
    let sha256 : Hasher := .ofAlgorithm .sha256 .sha256
    let blake3 : Hasher := .ofAlgorithm .blake3 .blake3
    let old := Utf8.ofString "old"
    let jobs : List Job := [.put .raw sha256 "k" 3 (.ofBytes old), .get .raw blake3 "k" none 0]
    let out : Surroundings Proxy.Recording Unit := withRecording false .down
    let w : World Proxy.Recording Unit := ⟨.empty, .empty, (), []⟩
    let first : Turn Proxy.Recording Unit := ⟨w, .put .raw sha256 "k" 3 (.ofBytes old)⟩
    turns out (Job.inOrder jobs) w = [first] ++ [⟨first.after out, .get .raw blake3 "k" none 0⟩] ∧
      Gives out (first.after out) ⟨.raw, blake3, "k"⟩ none old ∧ old ≠ [] ∧
      Separate Registry.standard.hashers ∧
      NamedOrigin out [first] ⟨.raw, blake3, "k"⟩ old := by
  intro sha256 blake3 old jobs out w first
  have hturns : turns out (Job.inOrder jobs) w =
      [first] ++ [⟨first.after out, .get .raw blake3 "k" none 0⟩] := rfl
  have hgives : Gives out (first.after out) ⟨.raw, blake3, "k"⟩ none old :=
    ⟨.ofBytes old, .known 3, by decide +kernel, by decide +kernel⟩
  have hblob : old ≠ [] := by decide +kernel
  have hused : ∀ m ∈ (⟨.raw, blake3, "k"⟩ : EntryName) :: names [first],
      m.hasher ∈ Registry.standard.hashers := by decide +kernel
  exact ⟨hturns, hgives, hblob, separate_standard,
    (put_of_get false .down () [] jobs hturns hgives hblob).2 _ separate_standard hused⟩

/-- What a get gives was put before under the same kind, with the same hasher and under the same
hash. -/
def GivesOwnPuts (out : Surroundings π ν) (t : List (Turn π ν)) : Prop :=
  ∀ t₁ w n size t₂ blob, t = t₁ ++ ⟨w, .get n.kind n.hasher n.hash size 0⟩ :: t₂ →
    Gives out w n size blob → blob ≠ [] →
      ∃ q ∈ t₁, ∃ stated body, q.call = .put n.kind n.hasher n.hash stated body ∧
        ((Cache.put n.kind n.hasher n.hash stated body).run out q.world).1 = .ok () ∧
        body.readAll = .ok blob

/-- A get is given what was put with another hasher, and nothing was put with its own one. -/
theorem got_what_other_put :
    let sha256 : Hasher := .ofAlgorithm .sha256 .sha256
    let blake3 : Hasher := .ofAlgorithm .blake3 .blake3
    let jobs : List Job :=
      [.put .raw sha256 "k" 3 (.ofBytes (Utf8.ofString "old")), .get .raw blake3 "k" none 0]
    let out : Surroundings Proxy.Recording Unit := withRecording false .down
    sha256.dir ≠ blake3.dir ∧
      ¬ GivesOwnPuts out (turns out (Job.inOrder jobs) ⟨.empty, .empty, (), []⟩) := by
  intro sha256 blake3 jobs out
  refine ⟨by decide, fun h => ?_⟩
  let first : Turn Proxy.Recording Unit :=
    ⟨⟨.empty, .empty, (), []⟩, .put .raw sha256 "k" 3 (.ofBytes (Utf8.ofString "old"))⟩
  have hgives : Gives out (first.after out) ⟨.raw, blake3, "k"⟩ none (Utf8.ofString "old") :=
    ⟨.ofBytes (Utf8.ofString "old"), .known 3, by decide +kernel, by decide +kernel⟩
  obtain ⟨q, hq, stated, body, hcall, -⟩ :=
    h [first] (first.after out) ⟨.raw, blake3, "k"⟩ none [] _ rfl hgives (by decide +kernel)
  obtain rfl := List.mem_singleton.1 hq
  obtain ⟨-, hhasher, -⟩ := Request.Call.put.inj hcall
  exact absurd hhasher (by decide)

end AssetCache
