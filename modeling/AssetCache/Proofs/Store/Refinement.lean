import AssetCache.Proofs.Store.ReadBack
import AssetCache.Proofs.Store.Reference

/-!
# A store without a proxy is the reference

Whatever a client asks of a store that has no proxy and that it has for itself, the store answers as
the reference does, and goes on to represent it.

Results:
1. `perform_refines`: a command is answered as by the reference.
2. `run_refines`: so are all commands of a client.
3. `refines_reference`: from an empty store on, every answer is that of the reference; each search
   is counted once; and no command removes an entry or changes that of another name.
-/

namespace AssetCache

open Cache (fits serve)

variable {π ν α : Type} {H : List Hasher} {m : Reference} {network : Network ν} {w : World π ν}
  {n : EntryName}

/-- What a command answers, and the world after it. -/
def Command.perform (out : Surroundings π ν) :
    (c : Command.interface.Call) → World π ν → Command.interface.Answer c × World π ν
  | .put n size body, w => (Cache.put n.kind n.hasher n.hash size body).run out w
  | .get n size offset, w => (Cache.get n.kind n.hasher n.hash size offset).run out w
  | .contains n size, w => (Cache.contains n.kind n.hasher n.hash size).run out w
  | .stats, w => (w.store.stats, w)

/-- The store answers as the reference does, and represents it afterwards. -/
def Agrees (H : List Hasher) (r : α × World π ν) (r' : α × Reference) : Prop :=
  r.1 = r'.1 ∧ Represents H r'.2 r.2.store

/-! ## Checks -/

theorem validate_eq (n : EntryName) (size : Nat) :
    Cache.validate n.kind n.hasher n.hash size =
      match n.refusal size with
      | some e => .error (.validation e)
      | none => .ok () := by
  unfold Cache.validate EntryName.refusal
  cases n.kind with
  | raw => rfl
  | ac => cases n.hasher.validateDigest n.hash size <;> rfl
  | cas => cases n.hasher.validateDigest n.hash size <;> rfl

theorem verify_eq (n : EntryName) (size : Nat) (body : Reader) :
    Cache.verify n.kind n.hasher n.hash (some size) body = n.receive size body := by
  unfold Cache.verify Cache.readSized EntryName.receive
  dsimp only
  cases body.read (Reader.oneMore size) with
  | error reason => rfl
  | ok blob =>
    dsimp only
    by_cases hsize : blob.length = size
    · rw [if_pos hsize, if_neg (not_not_intro hsize)]
      dsimp only
      by_cases hcas : n.kind = .cas
      · by_cases hhash : n.hasher.hash blob = n.hash
        · rw [if_pos hcas, if_pos hhash, if_neg fun h => h.2 hhash]
        · rw [if_pos hcas, if_neg hhash, if_pos ⟨hcas, hhash⟩]
      · rw [if_neg hcas, if_neg fun h => hcas h.1]
    · rw [if_neg hsize, if_pos hsize]

theorem otherSize_eq (size : Option Nat) (blob : Bytes) :
    Reference.otherSize size blob = !fits size blob := by
  cases size with
  | none => rfl
  | some expected => simp [Reference.otherSize, fits]

/-! ## Searches -/

/-- A question changes nothing but the counters. -/
theorem store_contains (network : Network ν) (w : World π ν) (n : EntryName) (size : Option Nat) :
    ((Cache.contains n.kind n.hasher n.hash size).run ⟨.absent, network⟩ w).2.store =
      if n.isEmptyBlob then w.store else (w.store.lookup n.path).2 := by
  obtain ⟨t, hallows, hleads, hafter⟩ := Operation.exists_history ⟨.absent, network⟩
    (Cache.contains n.kind n.hasher n.hash size) w
  rw [← hafter]
  generalize ((Cache.contains n.kind n.hasher n.hash size).run ⟨.absent, network⟩ w).1 = answer
    at hleads
  cases Cache.contains_leads hleads with
  | empty hempty => exact (if_pos hempty).symm
  | stored blob hempty => exact (if_neg (Bool.eq_false_iff.1 hempty)).symm
  | asked answer hempty => exact (if_neg (Bool.eq_false_iff.1 hempty)).symm

/-- Nor does a get, for nothing is ever filled in. -/
theorem store_get (network : Network ν) (w : World π ν) (n : EntryName) (size : Option Nat)
    (offset : Nat) :
    ((Cache.get n.kind n.hasher n.hash size offset).run ⟨.absent, network⟩ w).2.store =
      if n.isEmptyBlob then w.store else (w.store.lookup n.path).2 := by
  cases hempty : n.isEmptyBlob with
  | true =>
    replace hempty : Cache.isEmptyBlob n.kind n.hasher n.hash = true := hempty
    unfold Cache.get Cache.find
    rw [if_pos hempty]
    rfl
  | false =>
    obtain ⟨t, hallows, hleads, hafter⟩ := Operation.exists_history ⟨.absent, network⟩
      (Cache.get n.kind n.hasher n.hash size offset) w
    rw [← hafter]
    obtain ⟨result, hfound, -⟩ := Cache.get_leads hleads
    cases hfound with
    | empty hnot => exact nomatch hempty.symm.trans hnot
    | stored => rfl
    | missing => rfl
    | failed => exact nomatch hallows.2.1
    | rejected => exact nomatch hallows.2.1
    | filled => exact nomatch hallows.2.1

theorem told_eq (hsep : Separate H) (h : Represents H m w.store) (hn : n.hasher ∈ H)
    (size : Option Nat) :
    ((Cache.contains n.kind n.hasher n.hash size).run ⟨.absent, network⟩ w).1 = m.told n size := by
  unfold Reference.told
  cases hempty : n.isEmptyBlob with
  | true =>
    replace hempty : Cache.isEmptyBlob n.kind n.hasher n.hash = true := hempty
    unfold Cache.contains
    rw [if_pos hempty]
    rfl
  | false =>
    have hfind := h.find?_eq hsep hn
    rw [if_neg Bool.false_ne_true]
    cases hlookup : m.blobs.lookup n with
    | some blob =>
      rw [Cache.contains_of_entry hempty (hfind.trans hlookup)]
      dsimp only
      rw [otherSize_eq]
      cases fits size blob <;> rfl
    | none => exact Cache.contains_of_absent hempty (hfind.trans hlookup)

theorem given_eq (hsep : Separate H) (h : Represents H m w.store) (hn : n.hasher ∈ H)
    (size : Option Nat) (offset : Nat) :
    ((Cache.get n.kind n.hasher n.hash size offset).run ⟨.absent, network⟩ w).1 =
      m.given n size offset := by
  unfold Reference.given Reference.find?
  cases hempty : n.isEmptyBlob with
  | true =>
    rw [Cache.get_of_held (.empty hempty), if_pos rfl]
    dsimp only
    rw [otherSize_eq]
    rfl
  | false =>
    have hfind := h.find?_eq hsep hn
    rw [if_neg Bool.false_ne_true]
    cases hlookup : m.blobs.lookup n with
    | some blob =>
      rw [Cache.get_of_held (.entry blob hempty (hfind.trans hlookup))]
      dsimp only
      rw [otherSize_eq]
      rfl
    | none => exact Cache.get_of_absent hempty (hfind.trans hlookup)

/-! ## Writing -/

namespace Represents

variable {s : Store}

/-- A put is told that there is something only of what the reference has under its own digest, -/
theorem mem_of_present (h : Represents H m s) (hsep : Separate H) (hn : n.hasher ∈ H)
    (hpresent : (s.begin n.path (n.kind = .cas)).1 = .present) :
    n.kind = .cas ∧ n ∈ m.blobs :=
  ⟨of_decide_eq_true (Store.onlyIfAbsent_of_present hpresent),
    (h.mem_iff hsep hn).2 (Store.exists_of_present hpresent)⟩

/-- and begins to write only what the reference does not have there. -/
theorem not_mem_of_begun (h : Represents H m s) (hsep : Separate H) (hn : n.hasher ∈ H)
    (hbegun : (s.begin n.path (n.kind = .cas)).1 = .begun) :
    ¬ (n.kind = .cas ∧ n ∈ m.blobs) := by
  rintro ⟨hcas, hmem⟩
  obtain ⟨blob, hfind⟩ := (h.mem_iff hsep hn).1 hmem
  have habsent := Store.absent_of_begun hbegun (decide_eq_true hcas)
  exact nomatch hfind.symm.trans habsent

theorem not_busy (h : Represents H m s) (path : String) (onlyIfAbsent : Bool) :
    (s.begin path onlyIfAbsent).1 ≠ .busy := by
  intro hbusy
  have hmem := Store.mem_inFlight_of_busy hbusy
  rw [h.idle] at hmem
  exact List.not_mem_nil hmem

end Represents

theorem refusal_of_validate {size : Nat}
    (h : Cache.validate n.kind n.hasher n.hash size = .ok ()) : n.refusal size = none := by
  rw [validate_eq] at h
  cases hrefusal : n.refusal size with
  | none => rfl
  | some cause =>
    rw [hrefusal] at h
    exact nomatch h

theorem exists_refusal {size : Nat} {e : CacheError}
    (h : Cache.validate n.kind n.hasher n.hash size = .error e) :
    ∃ cause, n.refusal size = some cause ∧ e = .validation cause := by
  rw [validate_eq] at h
  cases hrefusal : n.refusal size with
  | none =>
    rw [hrefusal] at h
    exact nomatch h
  | some cause =>
    rw [hrefusal] at h
    exact ⟨cause, rfl, (Except.error.inj h).symm⟩

theorem put_refines (hsep : Separate H) (h : Represents H m w.store) (hn : n.hasher ∈ H)
    (size : Nat) (body : Reader) :
    Agrees H ((Cache.put n.kind n.hasher n.hash size body).run ⟨.absent, network⟩ w)
      (m.put n size body) := by
  obtain ⟨t, hallows, hleads, hafter⟩ := Operation.exists_history ⟨.absent, network⟩
    (Cache.put n.kind n.hasher n.hash size body) w
  rw [Agrees, ← hafter]
  generalize ((Cache.put n.kind n.hasher n.hash size body).run ⟨.absent, network⟩ w).1 = result
    at hleads ⊢
  -- A put that begins to write is one that the reference reads.
  have hreads (hempty : n.isEmptyBlob = false)
      (hbegun : (w.store.begin n.path (n.kind = .cas)).1 = .begun) :
      ¬ (n.isEmptyBlob = true ∨ n.kind = .cas ∧ n ∈ m.blobs) :=
    not_or_intro (Bool.eq_false_iff.1 hempty) (h.not_mem_of_begun hsep hn hbegun)
  unfold Reference.put
  cases Cache.put_leads.1 hleads with
  | invalid e hvalidate =>
    obtain ⟨cause, hrefusal, rfl⟩ := exists_refusal hvalidate
    rw [hrefusal]
    exact ⟨rfl, h⟩
  | empty hvalidate hempty =>
    rw [refusal_of_validate hvalidate]
    dsimp only
    rw [if_pos (.inl hempty)]
    exact ⟨rfl, h⟩
  | present hvalidate =>
    have hpresent : (w.store.begin n.path (n.kind = .cas)).1 = .present := hallows.1
    have hsame : (w.store.begin n.path (n.kind = .cas)).2 = w.store :=
      Store.begin_of_refused (hpresent ▸ nofun)
    rw [refusal_of_validate hvalidate]
    dsimp only
    rw [if_pos (.inr (h.mem_of_present hsep hn hpresent))]
    refine ⟨rfl, ?_⟩
    show Represents H m (w.store.begin n.path _).2
    rw [hsame]
    exact h
  | busy => exact absurd hallows.1 (h.not_busy _ _)
  | rejected e hvalidate hempty hverify =>
    rw [refusal_of_validate hvalidate]
    dsimp only
    rw [if_neg (hreads hempty hallows.1), ← verify_eq, hverify, store_after_rejected hallows]
    exact ⟨rfl, h⟩
  | stored blob hvalidate hempty hverify =>
    rw [refusal_of_validate hvalidate]
    dsimp only
    rw [if_neg (hreads hempty hallows.1), ← verify_eq, hverify, store_after_stored hallows]
    exact ⟨rfl, h.insert hsep hn blob⟩

/-! ## Commands -/

/-- A command is about entries of hashers of `H` only. -/
def Command.Within (H : List Hasher) (c : Command) : Prop :=
  ∀ n, c.name? = some n → n.hasher ∈ H

/-- A command is answered as by the reference. -/
theorem perform_refines (hsep : Separate H) (h : Represents H m w.store) {c : Command}
    (hc : c.Within H) :
    Agrees H (Command.perform ⟨.absent, network⟩ c w) (Reference.perform c m) := by
  cases c with
  | put n size body => exact put_refines hsep h (hc n rfl) size body
  | get n size offset =>
    refine ⟨given_eq hsep h (hc n rfl) size offset, ?_⟩
    show Represents H (m.seek n)
      ((Cache.get n.kind n.hasher n.hash size offset).run _ w).2.store
    rw [store_get]
    exact h.seek hsep (hc n rfl)
  | contains n size =>
    refine ⟨told_eq hsep h (hc n rfl) size, ?_⟩
    show Represents H (m.seek n) ((Cache.contains n.kind n.hasher n.hash size).run _ w).2.store
    rw [store_contains]
    exact h.seek hsep (hc n rfl)
  | stats => exact ⟨h.stats_eq, h⟩

namespace Reference

theorem blobs_seek (m : Reference) (n : EntryName) : (m.seek n).blobs = m.blobs := by
  unfold seek
  split
  · rfl
  · split <;> rfl

theorem count_seek (m : Reference) (n : EntryName) :
    (m.seek n).hits + (m.seek n).misses =
      m.hits + m.misses + if !n.isEmptyBlob then 1 else 0 := by
  unfold seek
  cases n.isEmptyBlob with
  | true => rfl
  | false =>
    rw [if_neg Bool.false_ne_true]
    split
    · exact Nat.add_right_comm ..
    · exact (Nat.add_assoc ..).symm

theorem blobs_put (m : Reference) (n : EntryName) (size : Nat) (body : Reader) :
    (m.put n size body).2.blobs = m.blobs ∨
      ∃ blob, (m.put n size body).2.blobs = m.blobs.insert n blob := by
  unfold put
  split
  · exact .inl rfl
  · split
    · exact .inl rfl
    · split
      · exact .inl rfl
      next blob _ => exact .inr ⟨blob, rfl⟩

/-- A command changes the blob of its own name at most, and takes none away. -/
theorem lookup_perform (c : Command) (m : Reference) (n : EntryName) :
    (perform c m).2.blobs.lookup n = m.blobs.lookup n ∨
      c.name? = some n ∧ n ∈ (perform c m).2.blobs := by
  cases c with
  | get k size offset => exact .inl (congrArg (Finmap.lookup n) (m.blobs_seek k))
  | contains k size => exact .inl (congrArg (Finmap.lookup n) (m.blobs_seek k))
  | stats => exact .inl rfl
  | put k size body =>
    show (m.put k size body).2.blobs.lookup n = _ ∨ _ ∧ n ∈ (m.put k size body).2.blobs
    rcases m.blobs_put k size body with hsame | ⟨blob, hinsert⟩
    · rw [hsame]
      exact .inl rfl
    · rw [hinsert]
      by_cases hn : n = k
      · exact .inr ⟨congrArg some hn.symm, Finmap.mem_insert.2 (.inl hn)⟩
      · exact .inl (Finmap.lookup_insert_of_ne _ hn)

/-- A search is counted once, as one that found something or as one that did not. -/
theorem count_perform (c : Command) (m : Reference) :
    (perform c m).2.hits + (perform c m).2.misses =
      m.hits + m.misses + if c.seeks then 1 else 0 := by
  cases c with
  | get n size offset => exact m.count_seek n
  | contains n size => exact m.count_seek n
  | stats => rfl
  | put n size body =>
    show (m.put n size body).2.hits + (m.put n size body).2.misses = _
    unfold put
    split
    · rfl
    · split
      · rfl
      · split <;> rfl

end Reference

/-! ## Clients -/

/-- Every command of a client is answered as by the reference. -/
theorem run_refines (hsep : Separate H) (client : Program Command.interface α)
    (h : Represents H m w.store)
    (hclient : ∀ e ∈ client.trace (Command.perform ⟨.absent, network⟩) w, Command.Within H e.1) :
    client.trace (Command.perform ⟨.absent, network⟩) w = client.trace Reference.perform m ∧
      Represents H (client.run Reference.perform m).2
        (client.run (Command.perform ⟨.absent, network⟩) w).2.store := by
  induction client generalizing m w with
  | done a => exact ⟨rfl, h⟩
  | step c next ih =>
    have hwithin : Command.Within H c := hclient _ List.mem_cons_self
    have hstep : Agrees H (Command.perform ⟨.absent, network⟩ c w) (Reference.perform c m) :=
      perform_refines hsep h hwithin
    have hrest := fun e he => hclient e (List.mem_cons_of_mem _ he)
    unfold Program.trace Program.run
    generalize Command.perform ⟨.absent, network⟩ c w = r at hstep hrest ⊢
    obtain ⟨answer, w'⟩ := r
    obtain ⟨rfl, hrepresents⟩ := hstep
    obtain ⟨htrace, hlast⟩ := ih _ hrepresents hrest
    exact ⟨congrArg _ htrace, hlast⟩

/-- How many commands look for an entry. -/
def searches (t : List Command.interface.Exchange) : Nat := t.countP fun e => Command.seeks e.1

theorem searches_cons (e : Command.interface.Exchange) (t : List Command.interface.Exchange) :
    searches (e :: t) = (if Command.seeks e.1 then 1 else 0) + searches t :=
  List.countP_cons.trans (Nat.add_comm ..)

/-- Every search of a client is counted once. -/
theorem Reference.count_run (client : Program Command.interface α) (m : Reference) :
    (client.run Reference.perform m).2.hits + (client.run Reference.perform m).2.misses =
      m.hits + m.misses + searches (client.trace Reference.perform m) := by
  induction client generalizing m with
  | done a => rfl
  | step c next ih =>
    let r := Reference.perform c m
    have hfirst : r.2.hits + r.2.misses = m.hits + m.misses + if Command.seeks c then 1 else 0 :=
      Reference.count_perform c m
    have hrest := ih r.1 r.2
    have hcons := searches_cons ⟨c, r.1⟩ ((next r.1).trace Reference.perform r.2)
    rw [hfirst, Nat.add_assoc] at hrest
    exact hrest.trans (congrArg _ hcons.symm)

/-- A command takes no entry away, and changes none but that of its own name. -/
structure Spares (H : List Hasher) (c : Command) (s s' : Store) : Prop where
  removes : ∀ path blob, s.entries.find? path = some blob →
    ∃ found, s'.entries.find? path = some found
  alters : ∀ n : EntryName, n.hasher ∈ H → c.name? ≠ some n →
    s'.entries.find? n.path = s.entries.find? n.path

theorem perform_spares (hsep : Separate H) (h : Represents H m w.store) {c : Command}
    (hc : c.Within H) :
    Spares H c w.store (Command.perform ⟨.absent, network⟩ c w).2.store := by
  have hafter : Represents H (Reference.perform c m).2
      (Command.perform ⟨.absent, network⟩ c w).2.store := (perform_refines hsep h hc).2
  constructor
  · intro path blob hfind
    obtain ⟨n, hn, rfl⟩ := h.exists_name hfind
    have hhasher := h.hashers n hn
    refine (hafter.mem_iff hsep hhasher).1 ?_
    rcases Reference.lookup_perform c m n with hsame | ⟨-, hmem⟩
    · rw [← Finmap.lookup_isSome] at hn ⊢
      exact hsame ▸ hn
    · exact hmem
  · intro n hn hother
    rw [hafter.find?_eq hsep hn, h.find?_eq hsep hn]
    rcases Reference.lookup_perform c m n with hsame | ⟨hname, -⟩
    · exact hsame
    · exact absurd hname hother

/-- A client of a store that was empty at first cannot tell it from the reference. -/
structure Refines (H : List Hasher) (out : Surroundings π ν) (w : World π ν)
    (client : Program Command.interface α) : Prop where
  /-- Every command is answered as by the reference. -/
  answers : client.trace (Command.perform out) w = client.trace Reference.perform .empty
  /-- In the end, the store has what the reference has. -/
  represents : Represents H (client.run Reference.perform .empty).2
    (client.run (Command.perform out) w).2.store
  /-- Each search was counted once. -/
  counted : (client.run (Command.perform out) w).2.store.hits +
      (client.run (Command.perform out) w).2.store.misses =
    searches (client.trace (Command.perform out) w)
  /-- Whatever command comes next, it takes no entry away, and changes none but its own. -/
  spares : ∀ c : Command, c.Within H →
    Spares H c (client.run (Command.perform out) w).2.store
      (Command.perform out c (client.run (Command.perform out) w).2).2.store

/-- Whatever a client asks of a store without a proxy, about entries of hashers that keep their
blobs apart, it is answered as by the reference. -/
theorem refines_reference (network : Network ν) (proxy : π) (state : ν) (log : List Event)
    (hsep : Separate H) (client : Program Command.interface α)
    (hclient : ∀ e ∈ client.trace (Command.perform ⟨.absent, network⟩)
      ⟨.empty, proxy, state, log⟩, Command.Within H e.1) :
    Refines H ⟨.absent, network⟩ ⟨.empty, proxy, state, log⟩ client := by
  obtain ⟨hanswers, hrepresents⟩ := run_refines hsep client represents_empty hclient
  refine ⟨hanswers, hrepresents, ?_, fun c hc => perform_spares hsep hrepresents hc⟩
  rw [hrepresents.hits, hrepresents.misses, hanswers, Reference.count_run]
  exact Nat.zero_add _

/-- A blob is put and put anew, is asked for from its second octet on, and the numbers are asked
for. -/
theorem refines_reference_of_update :
    let hasher : Hasher := .ofAlgorithm .sha256 .sha256
    let n : EntryName := ⟨.raw, hasher, "k"⟩
    let client : Program Command.interface CacheStats :=
      .step (.put n 3 (.ofBytes (Utf8.ofString "old"))) fun _ =>
        .step (.put n 5 (.ofBytes (Utf8.ofString "newer"))) fun _ =>
          .step (.get n none 1) fun _ => .step .stats .done
    let out : Surroundings Unit Unit := ⟨.absent, ⟨fun _ s => (.error (.client "no network"), s)⟩⟩
    let w : World Unit Unit := ⟨.empty, (), (), []⟩
    Separate Registry.standard.hashers ∧
      (∀ e ∈ client.trace (Command.perform out) w,
        Command.Within Registry.standard.hashers e.1) ∧
      Refines Registry.standard.hashers out w client ∧
      (client.run (Command.perform out) w).1 = ⟨1, 0, 1, 5⟩ := by
  intro hasher n client out w
  have hmem : n.hasher ∈ Registry.standard.hashers := by decide
  have hclient : ∀ e ∈ client.trace (Command.perform out) w,
      Command.Within Registry.standard.hashers e.1 := by
    intro e he k hk
    rcases List.mem_cons.1 he with rfl | he
    · exact Option.some.inj hk ▸ hmem
    rcases List.mem_cons.1 he with rfl | he
    · exact Option.some.inj hk ▸ hmem
    rcases List.mem_cons.1 he with rfl | he
    · exact Option.some.inj hk ▸ hmem
    · obtain rfl := List.mem_singleton.1 he
      exact nomatch hk
  exact ⟨separate_standard, hclient,
    refines_reference out.network () () [] separate_standard client hclient, by decide +kernel⟩

end AssetCache
