import AssetCache.Proofs.Asset.Hit
import AssetCache.Proofs.Asset.Lookup

/-!
# Proxies that hide sizes

Where a proxy tells the size of a blob, the resolver takes its word for it, and the blob stays where
it is.  Where it hides the size, the blob is taken over and verified.  So the two ways leave
different stores; but if the proxy has, under each checksum of a request, a blob of that digest or
none, then the answers are the same, the same places are fetched from, and what is answered can be
had afterwards on both ways.

Results:
1. `run_unasked`: what does not ask the proxy for anything does not depend on what it tells.
2. `knownSize_either`: a checksum works on both ways or on none, and gives the same size.
3. `hidden_sizes_do_not_matter`: a request is resolved alike on both ways.
-/

namespace AssetCache

variable {ν α : Type}

/-! ## What does not ask the proxy -/

/-- The proxy is told, but asked for nothing. -/
def unasked : Contract Action.interface where
  allows
    | .askProxy _ _ _ => False
    | .openProxy _ _ _ => False
    | _ => True
  grants _ _ := True

theorem Cache.put_unasked (kind : EntryKind) (hasher : Hasher) (hash : String) (size : Nat)
    (body : Reader) : (put kind hasher hash size body).Keeps unasked fun _ => True := by
  unfold put
  split
  · exact trivial
  · split
    · exact trivial
    · refine (Program.keeps_bind _ _).2 ⟨trivial, fun admission _ => ?_⟩
      cases admission with
      | present => exact trivial
      | busy => exact trivial
      | begun =>
        show Program.Keeps _ _ (write kind hasher hash size body)
        unfold write
        split
        · exact ⟨trivial, fun _ _ => trivial⟩
        · exact ⟨trivial, fun _ _ => trivial⟩

/-- A proxy that keeps blobs in memory, tells their sizes or hides them, and takes notes. -/
def recorded (hide : Bool) (network : Network ν) : Surroundings (Proxy.Recording × List Notice) ν :=
  ⟨(Proxy.recording hide).noting, network⟩

/-- The world of a store over a proxy that keeps blobs in memory and takes notes. -/
abbrev NotedWorld (ν : Type) := World (Proxy.Recording × List Notice) ν

variable {network : Network ν} {hasher : Hasher} {hash : String} {blob : Bytes}

theorem run_unasked (network : Network ν) {op : Operation α} {post : α → Prop}
    (h : op.Keeps unasked post) (w : NotedWorld ν) :
    op.run (recorded true network) w = op.run (recorded false network) w := by
  refine Program.Keeps.run_congr (fun a w hallows => ⟨?_, trivial⟩) h w
  cases a with
  | askProxy => exact hallows.elim
  | openProxy => exact hallows.elim
  | finish path upload =>
    cases upload with
    | none => rfl
    | some u => rfl
  | _ => rfl

theorem ask_put_either (size : Nat) (body : Reader) (w : NotedWorld ν) :
    w.ask (recorded true network) (.put .cas hasher hash size body) =
      w.ask (recorded false network) (.put .cas hasher hash size body) := by
  have hrun := run_unasked network (Cache.put_unasked .cas hasher hash size body) w
  exact congrArg (fun x => (x.1, x.2.silent)) hrun

/-! ## What can be had -/

namespace Resolver

open Cache (Held)

variable {r : Resolver} {e : Expected} {s : Store} {p : Proxy.Recording}

/-- A blob can be had under a digest: the store has it, or it does not and the proxy keeps it. -/
inductive Available (s : Store) (p : Proxy.Recording) (hasher : Hasher) (hash : String)
    (blob : Bytes) : Prop
  | held (hheld : Held s .cas hasher hash blob)
  | kept (hempty : hasher.isEmptyHash hash = false)
    (habsent : s.entries.find? (Entry.blobPath .cas hasher hash) = none)
    (hkept : p.find? .cas hash = some blob) (hhash : hasher.hash blob = hash)
    (hlength : blob.length ≤ Decimal.largest)

theorem get_of_available {v : World Proxy.Recording ν} (hide : Bool)
    (h : Available v.store v.proxy hasher hash blob) :
    ((Cache.get .cas hasher hash none 0).run ⟨.recording hide, network⟩ v).1 =
      .ok (some (.ofBytes blob, .known blob.length)) := by
  cases h with
  | held hheld => exact Cache.get_of_held hheld
  | kept hempty habsent hkept hhash hlength =>
    exact (get_of_kept hempty habsent hkept hlength).trans (if_pos hhash)

/-- What a proxy keeps under a digest has that digest. -/
def Honest (p : Proxy.Recording) (e : Expected) : Prop :=
  ∀ blob, p.find? .cas e.hash = some blob → e.hasher.hash blob = e.hash

/-- All that a proxy keeps is of a size that can be told, as is all that fits into memory. -/
def Sizable (p : Proxy.Recording) : Prop :=
  ∀ hash blob, p.find? .cas hash = some blob → blob.length ≤ Decimal.largest

/-- A checksum was found either way: the network is in the same state, and the blob can be had. -/
structure FoundEither (e : Expected) (told hidden : NotedWorld ν) : Prop where
  network : told.network = hidden.network
  available : ∃ blob, Available told.store told.proxy.1 e.hasher e.hash blob ∧
    Available hidden.store hidden.proxy.1 e.hasher e.hash blob

theorem contains_recorded (network : Network ν) (hide : Bool) (hash : String)
    (q : Proxy.Recording × List Notice) :
    (recorded hide network).proxy.contains .cas hash none q =
      ((q.1.find? .cas hash).map (Proxy.recordedSize hide), q) := rfl

theorem get_recorded (hide : Bool) (q : Proxy.Recording × List Notice)
    (hkept : q.1.find? .cas hash = some blob) :
    (recorded hide network).proxy.get .cas hash none q =
      (.ok (some (.ofBytes blob, Proxy.recordedSize hide blob)), q) := by
  show (Except.ok ((q.1.find? .cas hash).map _), q) = _
  rw [hkept]
  rfl

/-- A checksum that is looked up in the same world either way: it is found in both or in none, with
the same size. -/
inductive Either (e : Expected) (w : NotedWorld ν) :
    Option Nat × NotedWorld ν → Option Nat × NotedWorld ν → Prop
  | missed (w' : NotedWorld ν) (hproxy : w'.proxy = w.proxy) : Either e w (none, w') (none, w')
  | found (size : Nat) (told hidden : NotedWorld ν) (h : FoundEither e told hidden) :
    Either e w (some size, told) (some size, hidden)

theorem knownSize_either (network : Network ν) (w : NotedWorld ν) (hhonest : Honest w.proxy.1 e)
    (hsizable : Sizable w.proxy.1) :
    Either e w (knownSize (recorded false network) e w)
      (knownSize (recorded true network) e w) := by
  cases hempty : e.hasher.isEmptyHash e.hash with
  | true =>
    have hheld (s : Store) : Held s .cas e.hasher e.hash [] :=
      .empty ((isEmptyBlob_cas _ _).trans hempty)
    rw [knownSize_of_empty hempty, knownSize_of_empty hempty]
    exact .found 0 _ _ ⟨rfl, [], .held (hheld _), .held (hheld _)⟩
  | false =>
    have hcas := (isEmptyBlob_cas e.hasher e.hash).trans hempty
    cases hfind : w.store.entries.find? e.path with
    | some blob =>
      have hheld : Held (w.looked e.path w.proxy).store .cas e.hasher e.hash blob :=
        .entry blob hcas ((w.find?_looked ..).trans hfind)
      rw [knownSize_of_entry hempty hfind, knownSize_of_entry hempty hfind]
      exact .found _ _ _ ⟨rfl, blob, .held hheld, .held hheld⟩
    | none =>
      have htold (hide : Bool) := contains_recorded network hide e.hash w.proxy
      cases hkept : w.proxy.1.find? .cas e.hash with
      | none =>
        rw [hkept] at htold
        rw [knownSize_of_missing hempty hfind (htold false),
          knownSize_of_missing hempty hfind (htold true)]
        exact .missed _ rfl
      | some blob =>
        have hhash := hhonest blob hkept
        have hlength := hsizable e.hash blob hkept
        rw [hkept] at htold
        -- Where the size is hidden, the blob is verified, and is then in the store.
        have hsize : ∀ n, (none : Option Nat) = some n → n = blob.length := nofun
        have hverify : Cache.verify .cas e.hasher e.hash none (.ofBytes blob) = .ok blob :=
          (Cache.verify_ofBytes hsize hlength).trans (if_pos hhash)
        rw [knownSize_of_told hempty hfind (htold false),
          knownSize_of_given hempty hfind (htold true) (get_recorded true w.proxy hkept) hverify]
        refine .found _ _ _ ⟨rfl, blob, .kept hempty ?_ hkept hhash hlength,
          .held (.entry blob hcas ?_)⟩
        · exact (w.find?_looked ..).trans hfind
        · rw [World.entries_filled]
          exact EntryMap.find?_insert_self ..

theorem checksums_either (network : Network ν) (checksums : List Expected) (w : NotedWorld ν)
    (hhonest : ∀ e ∈ checksums, Honest w.proxy.1 e) (hsizable : Sizable w.proxy.1) :
    ∃ found told hidden,
      firstSuccess (knownSize (recorded false network)) checksums w = (found, told) ∧
      firstSuccess (knownSize (recorded true network)) checksums w = (found, hidden) ∧
      (found = none → told = hidden) ∧ ∀ x, found = some x → FoundEither x.1 told hidden := by
  let R (s s' : NotedWorld ν) : Prop := s = s' ∧ s.proxy = w.proxy
  have hattempt : ∀ e ∈ checksums, ∀ s s', R s s' →
      (knownSize (recorded false network) e s).1 = (knownSize (recorded true network) e s').1 ∧
      ((knownSize (recorded false network) e s).1 = none →
        R (knownSize (recorded false network) e s).2 (knownSize (recorded true network) e s').2) ∧
      ∀ size, (knownSize (recorded false network) e s).1 = some size →
        FoundEither e (knownSize (recorded false network) e s).2
          (knownSize (recorded true network) e s').2 := by
    rintro e he s s' ⟨rfl, hproxy⟩
    have heither := knownSize_either network s (hproxy ▸ hhonest e he)
      (hproxy ▸ hsizable)
    generalize knownSize (recorded false network) e s = x at heither ⊢
    generalize knownSize (recorded true network) e s = y at heither ⊢
    cases heither with
    | missed w' hproxy' => exact ⟨rfl, fun _ => ⟨rfl, hproxy'.trans hproxy⟩, nofun⟩
    | found size told hidden h => exact ⟨rfl, nofun, fun _ _ => h⟩
  obtain ⟨found, told, hidden, hfirst, hsecond, hmissed, hfound⟩ :=
    firstSuccess_related (Q := fun x => FoundEither x.1) (show R w w from ⟨rfl, rfl⟩) hattempt
  exact ⟨found, told, hidden, hfirst, hsecond, fun hnone => (hmissed hnone).1, hfound⟩

/-! ## Requests -/

variable {request : FetchRequest}

theorem retrieve_either (target : Option (Hasher × Option String)) (uri : String)
    (w : NotedWorld ν) :
    r.retrieve (recorded true network) target uri w =
      r.retrieve (recorded false network) target uri w := by
  have hfetch (address : Url.WebAddress) : w.ask (recorded true network) (.fetch address) =
    w.ask (recorded false network) (.fetch address) := rfl
  unfold retrieve
  split
  · rw [hfetch]
    simp only [ask_put_either]
  · rfl

/-- What is put where nothing is being written, is then in the store, or was there before. -/
theorem held_of_accepted {π : Type} {out : Surroundings π ν} {w : World π ν} {size : Nat}
    {body : Reader} (hidle : w.store.inFlight = [])
    (h : accepted (w.ask out (.put .cas hasher hash size body)).1 = true) :
    ∃ blob, Held (w.ask out (.put .cas hasher hash size body)).2.store .cas hasher hash blob := by
  obtain ⟨t, answer, hallows, hleads, hask⟩ :=
    w.exists_ask out (.put .cas hasher hash size body)
  rw [hask] at h ⊢
  cases Cache.put_leads.1 hleads with
  | invalid cause hvalidate =>
    exact nomatch (Cache.isBenign_of_validate hvalidate).symm.trans ((isBenign_iff cause).trans h)
  | empty _ hempty => exact ⟨[], .empty hempty⟩
  | present _ hempty =>
    obtain ⟨blob, hfind⟩ := Store.exists_of_present (s := w.store) hallows.1
    have hne : Admission.present ≠ .begun := nofun
    have hsame := (quiet_refused hne out w hallows).1
    exact ⟨blob, .entry blob hempty ((congrArg (EntryMap.find? · _) hsame).trans hfind)⟩
  | busy =>
    have hmem := Store.mem_inFlight_of_busy (s := w.store) hallows.1
    exact absurd (hidle ▸ hmem) List.not_mem_nil
  | rejected cause _ _ hverify =>
    exact nomatch (Cache.isBenign_of_verify hverify).symm.trans ((isBenign_iff cause).trans h)
  | stored blob _ hempty =>
    refine ⟨blob, .entry blob hempty ?_⟩
    exact (congrArg (fun s : Store => s.entries.find? _) (store_after_stored hallows)).trans
      (EntryMap.find?_insert_self ..)

theorem held_of_retrieve {π : Type} {out : Surroundings π ν} {w w' : World π ν}
    {target : Option (Hasher × Option String)} {uri : String} {d : DigestFunction × BlobDigest}
    (hidle : w.store.inFlight = []) (h : r.retrieve out target uri w = (some d, w')) :
    ∃ hasher expectedHash blob, target = some (hasher, expectedHash) ∧ d.1 = hasher.function ∧
      Held w'.store .cas hasher d.2.hash blob := by
  unfold retrieve at h
  split at h
  next hasher expectedHash address _ =>
    dsimp only at h
    split at h
    next => exact nomatch congrArg Prod.fst h
    next =>
      split at h
      next hash size body _ _ =>
        obtain ⟨hresult, rfl⟩ := Prod.mk.inj h
        split at hresult
        next haccepted =>
          obtain rfl := Option.some.inj hresult
          obtain ⟨blob, hheld⟩ :=
            held_of_accepted (w := (w.ask out (.fetch address)).2) hidle haccepted
          exact ⟨hasher, expectedHash, blob, rfl, rfl, hheld⟩
        next => exact nomatch hresult
      next => exact nomatch congrArg Prod.fst h
  next => exact nomatch congrArg Prod.fst h

/-- Two outcomes of a request that are the same to who asked, and to the network; and what is
answered can be had after both. -/
structure SameToClient (r : Resolver)
    (told hidden : Except AssetError FetchBlobResponse × NotedWorld ν) : Prop where
  answer : told.1 = hidden.1
  network : told.2.network = hidden.2.network
  available : ∀ response, told.1 = .ok response → response.status = .ok →
    ∃ hasher digest blob, r.registry.get response.digestFunction = .ok hasher ∧
      response.blobDigest = some digest ∧
      Available told.2.store told.2.proxy.1 hasher digest.hash blob ∧
      Available hidden.2.store hidden.2.proxy.1 hasher digest.hash blob

theorem sameToClient_of_not_ok {response : FetchBlobResponse} {w : NotedWorld ν}
    (h : response.status ≠ .ok) : r.SameToClient (.ok response, w) (.ok response, w) :=
  ⟨rfl, rfl, fun _ hresponse hok => absurd (Except.ok.inj hresponse ▸ hok) h⟩

/-- The places of a request are tried in the same world, where nothing was left before. -/
theorem sameToClient_of_place {w told w' : NotedWorld ν} {uri : String} {function : DigestFunction}
    {digest : BlobDigest} (hidle : w.store.inFlight = []) (hnothing : Untouched w told)
    (hplace : firstSuccess (r.retrieve (recorded false network) (r.requestTarget request))
      request.uris told = (some (uri, function, digest), w')) :
    r.SameToClient (.ok (.found function digest (some uri)), w')
      (.ok (.found function digest (some uri)), w') := by
  have hleaves (uri : String) (s : NotedWorld ν) :=
    (retrieve_leaves (r := r) (.recording false) network (r.requestTarget request) uri s).1
  obtain ⟨-, s, hbefore, hattempt⟩ := firstSuccess_some (P := Untouched w) hnothing
    (fun uri _ s hs hnone => hs.trans (hleaves uri s hnone)) hplace
  obtain ⟨hasher, expectedHash, blob, htarget, rfl, hheld⟩ :=
    held_of_retrieve (hbefore.inFlight.trans hidle) hattempt
  refine ⟨rfl, rfl, fun response hresponse _ => ?_⟩
  obtain rfl := Except.ok.inj hresponse
  exact ⟨hasher, digest, blob, Registry.get_function (mem_of_requestTarget htarget), rfl,
    .held hheld, .held hheld⟩

theorem specified_either (network : Network ν) (request? : Option FetchRequest) (w : NotedWorld ν)
    (hidle : w.store.inFlight = [])
    (hhonest : ∀ request, request? = some request →
      ∀ e ∈ r.requestChecksums request, Honest w.proxy.1 e)
    (hsizable : Sizable w.proxy.1) :
    r.SameToClient (r.specified (recorded false network) request? w)
      (r.specified (recorded true network) request? w) := by
  cases request? with
  | none => exact ⟨rfl, rfl, nofun⟩
  | some request =>
    unfold specified
    dsimp only
    split
    next => exact sameToClient_of_not_ok fun hok => nomatch congrArg Status.code hok
    next =>
      obtain ⟨found, told, hidden, hfirst, hsecond, hmissed, hfound⟩ :=
        checksums_either network _ w (hhonest request rfl) hsizable
      rw [hfirst, hsecond]
      cases found with
      | some x =>
        obtain ⟨e, size⟩ := x
        obtain ⟨hnetwork, blob, htold, hhidden⟩ := hfound _ rfl
        obtain ⟨he, -⟩ :=
          firstSuccess_some (P := fun _ => True) trivial (fun _ _ _ _ _ => trivial) hfirst
        refine ⟨rfl, hnetwork, fun response hresponse _ => ?_⟩
        obtain rfl := Except.ok.inj hresponse
        exact ⟨e.hasher, _, blob, Registry.get_function (of_mem_checksums he).1, rfl, htold,
          hhidden⟩
      | none =>
        obtain rfl := hmissed rfl
        have hleaves (e : Expected) (s : NotedWorld ν) :=
          (knownSize_leaves (.recording false) network e s).2
        obtain ⟨hnothing, -⟩ := firstSuccess_none (P := Untouched w) .refl
          (fun e _ s hs hnone => hs.trans (hleaves e s hnone)) hfirst
        have hplaces : r.retrieve (recorded true network) (r.requestTarget request) =
            r.retrieve (recorded false network) (r.requestTarget request) :=
          funext fun uri => funext fun s => retrieve_either _ uri s
        dsimp only
        rw [hplaces]
        split
        next hplace => exact sameToClient_of_place hidle hnothing hplace
        next => exact sameToClient_of_not_ok fun hok => nomatch congrArg Status.code hok

/-- It makes no difference to who asks whether a proxy tells sizes or hides them. -/
structure Indifferent (r : Resolver) (network : Network ν) (request? : Option FetchRequest)
    (w : World Proxy.Recording ν) : Prop where
  answer : ((r.fetchBlobOperation request?).run ⟨.recording false, network⟩ w).1 =
    ((r.fetchBlobOperation request?).run ⟨.recording true, network⟩ w).1
  /-- The same addresses are fetched, in the same order. -/
  fetched : addresses ((r.fetchBlobOperation request?).history ⟨.recording false, network⟩ w) =
    addresses ((r.fetchBlobOperation request?).history ⟨.recording true, network⟩ w)
  /-- The digest that is answered is that of a blob which both stores then give. -/
  given : ∀ response, ((r.fetchBlobOperation request?).run ⟨.recording false, network⟩ w).1 =
      .ok response → response.status = .ok →
    ∃ hasher digest blob, r.registry.get response.digestFunction = .ok hasher ∧
      response.blobDigest = some digest ∧
      ∀ hide, ((Cache.get .cas hasher digest.hash none 0).run ⟨.recording hide, network⟩
        ((r.fetchBlobOperation request?).run ⟨.recording hide, network⟩ w).2).1 =
          .ok (some (.ofBytes blob, .known blob.length))

/-- Where nothing is being written, and a proxy that keeps blobs in memory has under each checksum
of a request a blob of that digest or none, the request is resolved alike whether the proxy tells
sizes or hides them. -/
theorem hidden_sizes_do_not_matter (r : Resolver) (network : Network ν)
    (request? : Option FetchRequest) (w : World Proxy.Recording ν) (hidle : w.store.inFlight = [])
    (hhonest : ∀ request, request? = some request →
      ∀ e ∈ r.requestChecksums request, Honest w.proxy e)
    (hsizable : Sizable w.proxy) : r.Indifferent network request? w := by
  have hsame : r.SameToClient (r.specified (recorded false network.noting) request?
    (w.noted [] []).silent) _ := specified_either _ request? _ hidle hhonest hsizable
  have hnoted (hide : Bool) := specified_noted (r := r) (.recording hide) network request? w
  unfold recorded at hsame
  rw [hnoted false, hnoted true] at hsame
  obtain ⟨hanswer, hnetwork, havailable⟩ := hsame
  refine ⟨hanswer, (Prod.mk.inj hnetwork).2, fun response hrun hok => ?_⟩
  obtain ⟨hasher, digest, blob, hget, hdigest, htold, hhidden⟩ := havailable response hrun hok
  refine ⟨hasher, digest, blob, hget, hdigest, fun hide => ?_⟩
  cases hide with
  | false => exact get_of_available false htold
  | true => exact get_of_available true hhidden

/-- The proxy has the blob of the second of two checksums, and the store has neither. -/
theorem hidden_sizes_do_not_matter_of_hello :
    let hash := "2cf24dba5fb0a30e26e83b2ac5b9e29e1b161e5c1fa7425e73043362938b9824"
    let w : World Proxy.Recording Unit :=
      ⟨.empty, Proxy.Recording.empty.seed .cas hash (Utf8.ofString "hello"), (), []⟩
    let r : Resolver := ⟨.standard, {}⟩
    let request : FetchRequest :=
      { qualifiers := [some (.checksum "md5-AAAAAAAAAAAAAAAAAAAAAA=="),
          some (.checksum "sha256-LPJNul+wow4m6DsqxbninhsWHlwfp0JecwQzYpOLmCQ=")]
        uris := ["http://[::1]/"] }
    let done (hide : Bool) := (r.fetchBlobOperation (some request)).run ⟨.recording hide, .down⟩ w
    (w.store.inFlight = [] ∧ (∀ request', some request = some request' →
        ∀ e ∈ r.requestChecksums request', Honest w.proxy e) ∧ Sizable w.proxy) ∧
      (done false).1 = .ok (.found .sha256 (.ofSize hash 5) none) ∧
      (done false).2.store.entries.size = 0 ∧ (done true).2.store.entries.size = 1 ∧
      r.Indifferent .down (some request) w := by
  intro hash w r request done
  have hhonest : ∀ request', some request = some request' →
      ∀ e ∈ r.requestChecksums request', Honest w.proxy e := by
    have hall : ∀ e ∈ r.requestChecksums request, ∀ entry ∈ w.proxy.blobs.entries,
        entry.1 = Entry.lookupKey .cas e.hash → e.hasher.hash entry.2 = e.hash := by
      decide +kernel
    rintro request' ⟨⟩ e he blob hfind
    exact hall e he _ (EntryMap.mem_of_findIn hfind) rfl
  have hsizable : Sizable w.proxy := by
    have hall : ∀ entry ∈ w.proxy.blobs.entries, entry.2.length ≤ Decimal.largest := by
      decide +kernel
    intro hash blob hfind
    exact hall _ (EntryMap.mem_of_findIn hfind)
  exact ⟨⟨rfl, hhonest, hsizable⟩, by decide +kernel, by decide +kernel, by decide +kernel,
    hidden_sizes_do_not_matter r .down (some request) w rfl hhonest hsizable⟩

end Resolver

end AssetCache
