import Mathlib.Data.List.Basic
import AssetCache.Proofs.Service.Turns

/-!
# Writing through to the proxy

The proxy is told of what is stored, at once and once, and of nothing else: each put that is through
makes one notice, in the order of the puts, and no other call makes any.  So a recording proxy that
was empty at first mirrors the store, as long as no kind and hash is used with two hashers: it would
keep both entries under one key.

Results:
1. `Turn.toList_stored?`: what a call tells the proxy is what it stored.
2. `Mirrors.step`: a call keeps the mirror.
3. `written_through`: what the proxy is told in a run, and what a recording proxy holds after it.
-/

namespace AssetCache

open Service (withRecording)

variable {π ν : Type}

/-! ## What is stored -/

/-- What a call stored, as a client can see it: a put that succeeded, and not because it was of the
empty blob or of a digest under which there was a blob, has left its blob under its path. -/
def Turn.stored? (out : Surroundings π ν) : Turn π ν → Option Notice
  | ⟨w, .put kind hasher hash size body⟩ =>
    let path := Entry.blobPath kind hasher hash
    let r := (Cache.put kind hasher hash size body).run out w
    if r.1 = .ok () ∧ Cache.isEmptyBlob kind hasher hash = false ∧
        (kind = .cas → w.store.entries.find? path = none) then
      (r.2.store.entries.find? path).map (EntryName.notice ⟨kind, hasher, hash⟩)
    else none
  | _ => none

variable {out : Surroundings π ν}

/-- A put that a client takes for one that stored something did so. -/
theorem exists_stores {w : World π ν} {kind : EntryKind} {hasher : Hasher} {hash : String}
    {size : Nat} {body : Reader}
    (hanswer : ((Cache.put kind hasher hash size body).run out w).1 = .ok ())
    (hempty : Cache.isEmptyBlob kind hasher hash = false)
    (hnew : kind = .cas → w.store.entries.find? (Entry.blobPath kind hasher hash) = none) :
    ∃ blob, Stores out ⟨w, .put kind hasher hash size body⟩ ⟨kind, hasher, hash⟩ blob := by
  obtain ⟨blob, hleft⟩ := Cache.left_of_put hanswer
  cases hleft with
  | kept hcas hheld =>
    cases hheld with
    | empty hnot => exact nomatch hempty.symm.trans hnot
    | entry _ _ hfind => exact nomatch hfind.symm.trans (hnew hcas)
  | stored _ _ hverify => exact ⟨blob, .put hanswer hempty hnew hverify⟩

theorem Turn.stored?_of_not_stores {p : Turn π ν} (h : ∀ n blob, ¬ Stores out p n blob) :
    p.stored? out = none := by
  obtain ⟨w, c⟩ := p
  cases c with
  | put kind hasher hash size body =>
    refine if_neg fun ⟨hanswer, hempty, hnew⟩ => ?_
    obtain ⟨blob, hstores⟩ := exists_stores hanswer hempty hnew
    exact h _ _ hstores
  | _ => rfl

theorem Turn.stored?_of_stores {p : Turn π ν} {n : EntryName} {blob : Bytes}
    (h : Stores out p n blob)
    (hfind : (p.after out).store.entries.find? n.path = some blob) :
    p.stored? out = some (n.notice blob) := by
  cases h with
  | @put w kind hasher hash size body _ hanswer hempty hnew hverify =>
    refine (if_pos ⟨hanswer, hempty, hnew⟩).trans ?_
    exact congrArg (Option.map _) hfind

/-- A call tells the proxy what it stored, and nothing else. -/
theorem Turn.toList_stored? (p : Turn π ν) : (p.stored? out).toList = p.notices out := by
  have heffect := p.effect out
  generalize hentries : (p.after out).store.entries = entries at heffect
  generalize p.notices out = told at heffect
  cases heffect with
  | stored _ n blob h =>
    have hfind : (p.after out).store.entries.find? n.path = some blob := by
      rw [hentries]
      exact EntryMap.find?_insert_self ..
    rw [Turn.stored?_of_stores h hfind]
    rfl
  | filled => rfl
  | kept _ h =>
    rw [Turn.stored?_of_not_stores h]
    rfl

theorem flatMap_notices (t : List (Turn π ν)) :
    t.flatMap (Turn.notices out) = t.filterMap (Turn.stored? out) := by
  rw [List.filterMap_eq_flatMap_toList]
  exact congrArg (fun f => t.flatMap f) (funext fun p => p.toList_stored?.symm)

/-! ## The mirror -/

/-- Each kind and hash is used with one hasher only. -/
def OneHasher (t : List (Turn π ν)) : Prop :=
  ∀ n ∈ names t, ∀ m ∈ names t, n.kind = m.kind → n.hash = m.hash → n.hasher = m.hasher

/-- The proxy has each entry of the store, and has nothing that the store does not have. -/
structure Mirrors (used : List EntryName) (entries : EntryMap) (proxy : Proxy.Recording) :
    Prop where
  /-- An entry is held by the proxy under the key of a name that leads to it. -/
  held : ∀ path blob, entries.find? path = some blob →
    ∃ n ∈ used, n.path = path ∧ proxy.find? n.kind n.hash = some blob
  /-- What the proxy holds goes by a name that leads to an entry. -/
  stored : ∀ kind hash blob, proxy.find? kind hash = some blob →
    ∃ n ∈ used, n.kind = kind ∧ n.hash = hash ∧ ∃ found, entries.find? n.path = some found

theorem OneHasher.of_append {t t' : List (Turn π ν)} (h : OneHasher (t ++ t')) : OneHasher t :=
  fun n hn m hm => h n (mem_names_append hn t') m (mem_names_append hm t')

theorem OneHasher.eq {t : List (Turn π ν)} (h : OneHasher t) {n m : EntryName} (hn : n ∈ names t)
    (hm : m ∈ names t) (hkind : n.kind = m.kind) (hhash : n.hash = m.hash) : n = m :=
  EntryName.ext hkind (h n hn m hm hkind hhash) hhash

theorem mirrors_empty : Mirrors [] .empty .empty where
  held _ _ h := nomatch h
  stored _ _ _ h := nomatch h

theorem Mirrors.mono {used used' : List EntryName} {entries : EntryMap} {proxy : Proxy.Recording}
    (h : Mirrors used entries proxy) (hmono : used ⊆ used') : Mirrors used' entries proxy where
  held path blob hfind := by
    obtain ⟨n, hn, hrest⟩ := h.held path blob hfind
    exact ⟨n, hmono hn, hrest⟩
  stored kind hash blob hfind := by
    obtain ⟨n, hn, hrest⟩ := h.stored kind hash blob hfind
    exact ⟨n, hmono hn, hrest⟩

/-- What is stored by a name is mirrored, if no other name has its kind and hash. -/
theorem Mirrors.insert {t : List (Turn π ν)} {entries : EntryMap} {proxy : Proxy.Recording}
    (hone : OneHasher t) (h : Mirrors (names t) entries proxy) {n : EntryName} (hn : n ∈ names t)
    (blob : Bytes) :
    Mirrors (names t) (entries.insert n.path blob) (proxy.tell (n.notice blob)) where
  held path found hfind := by
    rw [EntryMap.find?_insert] at hfind
    split at hfind
    next hpath =>
      obtain rfl := Option.some.inj hfind
      exact ⟨n, hn, hpath, (proxy.find?_tell ..).trans (if_pos ⟨rfl, rfl⟩)⟩
    next hpath =>
      obtain ⟨m, hm, hmpath, hheld⟩ := h.held path found hfind
      have hother : ¬ (n.kind = m.kind ∧ n.hash = m.hash) := by
        rintro ⟨hkind, hhash⟩
        obtain rfl := hone.eq hn hm hkind hhash
        exact hpath hmpath
      exact ⟨m, hm, hmpath, ((proxy.find?_tell ..).trans (if_neg hother)).trans hheld⟩
  stored kind hash found hfind := by
    rw [Proxy.Recording.find?_tell] at hfind
    split at hfind
    next hsame => exact ⟨n, hn, hsame.1, hsame.2, blob, EntryMap.find?_insert_self ..⟩
    next =>
      obtain ⟨m, hm, hkind, hhash, hold⟩ := h.stored kind hash found hfind
      exact ⟨m, hm, hkind, hhash, EntryMap.exists_find?_insert hold⟩

/-- A call keeps the mirror.  Nothing is ever filled in: what the proxy has under the key of a name,
the store has under its path. -/
theorem Mirrors.step {hideSizes : Bool} {network : Network ν} {t : List (Turn Proxy.Recording ν)}
    {p : Turn Proxy.Recording ν} (hone : OneHasher (t ++ [p]))
    (h : Mirrors (names t) p.world.store.entries p.world.proxy) :
    Mirrors (names (t ++ [p])) (p.after (withRecording hideSizes network)).store.entries
      (p.after (withRecording hideSizes network)).proxy := by
  have hmore : Mirrors (names (t ++ [p])) p.world.store.entries p.world.proxy :=
    h.mono fun n hn => mem_names_append hn [p]
  have hrecorded := p.recorded hideSizes network
  generalize (p.after (withRecording hideSizes network)).store.entries = entries at hrecorded ⊢
  generalize (p.after (withRecording hideSizes network)).proxy = proxy at hrecorded ⊢
  cases hrecorded with
  | stored _ n blob hstores => exact hmore.insert hone (mem_names_last hstores.name) blob
  | filled w n size offset expected given blob habsent hgiven =>
    obtain ⟨m, hm, hkind, hhash, found, hfind⟩ := hmore.stored n.kind n.hash given hgiven
    obtain rfl : m = n := hone.eq hm (mem_names_last rfl) hkind hhash
    exact nomatch hfind.symm.trans habsent
  | kept => exact hmore

/-! ## Runs -/

/-- Jobs ran one after another, and the proxy was told of what the calls stored and of nothing
else. -/
structure ToldAll (out : Surroundings π ν) (jobs : List Job) (w : World π ν) : Prop where
  /-- What the proxy was told is what was stored, call by call and in order. -/
  told : Job.runAll out.noting jobs (w.noted [] []) =
    (Job.runAll out jobs w).noted ((turns out (Job.inOrder jobs) w).filterMap (Turn.stored? out))
      ((turns out (Job.inOrder jobs) w).flatMap (Turn.addresses out))
  /-- A call that stored a blob put it under the path of its entry; any other tells nothing, and
  leaves the entries as they are unless it fills one in. -/
  each : ∀ p ∈ turns out (Job.inOrder jobs) w,
    Effect out p (p.after out).store.entries (p.stored? out).toList

theorem toldAll (out : Surroundings π ν) (jobs : List Job) (w : World π ν) :
    ToldAll out jobs w where
  told := by
    rw [Job.runAll_eq, Job.runAll_eq, run_noting_turns, flatMap_notices]
    rfl
  each p _ := by
    rw [Turn.toList_stored?]
    exact p.effect out

/-- Each entry of the store is held by the proxy, with the same octets. -/
structure Mirrored (used : List EntryName) (w : World Proxy.Recording ν) : Prop where
  /-- It is held under the key of a name that leads to it; -/
  held : ∀ path blob, w.store.entries.find? path = some blob →
    ∃ n ∈ used, n.path = path ∧ w.proxy.find? n.kind n.hash = some blob
  /-- and of each such name, if directories of hashers have no slashes. -/
  named : (∀ n ∈ used, '/' ∉ n.hasher.dir.toList) → ∀ n : EntryName, '/' ∉ n.hasher.dir.toList →
    ∀ blob, w.store.entries.find? n.path = some blob → w.proxy.find? n.kind n.hash = some blob

theorem Mirrors.mirrored {used : List EntryName} {w : World Proxy.Recording ν}
    (h : Mirrors used w.store.entries w.proxy) : Mirrored used w where
  held := h.held
  named hused n hn blob hfind := by
    obtain ⟨m, hm, hpath, hheld⟩ := h.held n.path blob hfind
    obtain ⟨hkind, -, hhash⟩ := Entry.blobPath_injective_of_dir (hused m hm) hn hpath
    exact hkind ▸ hhash ▸ hheld

/-- The invariant of a run: as long as each kind and hash is used with one hasher only, the proxy
mirrors the store. -/
theorem mirrors_run (hideSizes : Bool) (network : Network ν) (p : Resolution Unit) (s : ν)
    (log : List Event) :
    let out := withRecording hideSizes network
    let w : World Proxy.Recording ν := ⟨.empty, .empty, s, log⟩
    let t := turns out p w
    OneHasher t →
      Mirrors (names t) (Resolution.run out p w).2.store.entries (Resolution.run out p w).2.proxy ∧
      ∀ t₁ turn t₂, t = t₁ ++ turn :: t₂ →
        Mirrors (names t₁) turn.world.store.entries turn.world.proxy := by
  intro out w t hone
  let inv (past : List (Turn Proxy.Recording ν)) (w : World Proxy.Recording ν) : Prop :=
    OneHasher past → Mirrors (names past) w.store.entries w.proxy
  have hstep (past : List (Turn Proxy.Recording ν)) (w : World Proxy.Recording ν)
      (c : Request.Call) (h : inv past w) :
      inv (past ++ [⟨w, c⟩]) (Request.perform out c w).2 :=
    fun hone => Mirrors.step hone (h hone.of_append)
  have hempty : inv [] w := fun _ => mirrors_empty
  constructor
  · exact turns_induction hstep p hempty hone
  · intro t₁ turn t₂ hturns
    exact turns_induction_at hstep p hempty hturns (OneHasher.of_append (hturns ▸ hone))

/-- The proxy is told of each put that is through, in order and just once, and of nothing else.  So
a recording proxy that was empty at first holds every entry of the store, after a run and before
each of its calls, if each kind and hash is used with one hasher only. -/
theorem written_through (jobs : List Job) :
    (∀ {π ν : Type} (out : Surroundings π ν) (w : World π ν), ToldAll out jobs w) ∧
      ∀ {ν : Type} (hideSizes : Bool) (network : Network ν) (s : ν) (log : List Event),
        let out := withRecording hideSizes network
        let w : World Proxy.Recording ν := ⟨.empty, .empty, s, log⟩
        let t := turns out (Job.inOrder jobs) w
        OneHasher t →
          Mirrored (names t) (Job.runAll out jobs w) ∧
          ∀ t₁ turn t₂, t = t₁ ++ turn :: t₂ → Mirrored (names t₁) turn.world := by
  constructor
  · intro π ν out w
    exact toldAll out jobs w
  · intro ν hideSizes network s log out w t hone
    obtain ⟨hlast, hbefore⟩ := mirrors_run hideSizes network (Job.inOrder jobs) s log hone
    constructor
    · rw [Job.runAll_eq]
      exact hlast.mirrored
    · exact fun t₁ turn t₂ hturns => (hbefore t₁ turn t₂ hturns).mirrored

/-- A blob is put, a put of other octets than were stated is rejected, the blob is put anew, and it
is asked for: the proxy was told of the first and of the third, and holds the third. -/
theorem written_through_of_update :
    let hasher : Hasher := .ofAlgorithm .sha256 .sha256
    let old := Utf8.ofString "old"
    let new := Utf8.ofString "newer"
    let jobs : List Job :=
      [.put .raw hasher "k" 3 (.ofBytes old), .put .raw hasher "k" 3 (.ofBytes new),
        .put .raw hasher "k" 5 (.ofBytes new), .get .raw hasher "k" none 0]
    let out : Surroundings Proxy.Recording Unit := withRecording true .down
    let w : World Proxy.Recording Unit := ⟨.empty, .empty, (), []⟩
    let t := turns out (Job.inOrder jobs) w
    OneHasher t ∧ ToldAll out jobs w ∧ Mirrored (names t) (Job.runAll out jobs w) ∧
      t.filterMap (Turn.stored? out) = [⟨.raw, "k", 3, 3, old⟩, ⟨.raw, "k", 5, 5, new⟩] ∧
      (Job.runAll out jobs w).proxy.find? .raw "k" = some new := by
  intro hasher old new jobs out w t
  have hone : OneHasher t := by
    unfold OneHasher
    decide +kernel
  have htold : ToldAll out jobs w := (written_through jobs).1 out w
  have hmirrored : Mirrored (names t) (Job.runAll out jobs w) :=
    ((written_through jobs).2 true .down () [] hone).1
  exact ⟨hone, htold, hmirrored, by decide +kernel, by decide +kernel⟩

end AssetCache
