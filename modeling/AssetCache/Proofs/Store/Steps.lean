import AssetCache.Proofs.Program.History
import AssetCache.Proofs.Store.Verification

/-!
# What the cache does, step by step

Each operation of the cache has a few histories that it can leave, with the result that goes with
each: these are the constructors of `Found`, `Told` and `Stored`.  Whoever wants to know what an
operation did splits these cases and does not open the operation.

A history is quiet if, in whatever world it happens, it leaves the entries and the marks as they
were.  An operation that fails is quiet.

Results:
1. `contains_leads`, `find_leads`, `get_leads`, `put_leads`: the histories of the operations.
2. `Quiet.append`, `quiet_of_reads`, `quiet_rejected`: histories that are quiet.
-/

namespace AssetCache

variable {π ν : Type} {t t₁ t₂ : List Action.interface.Exchange}

namespace World

variable {out : Surroundings π ν}

/-- What a history makes of a world. -/
def after (out : Surroundings π ν) (w : World π ν) (t : List Action.interface.Exchange) :
    World π ν :=
  Program.after (I := Action.interface) (Action.perform out) w t

/-- Whether a history can happen in a world: each answer in it is what the step answers. -/
def Allows (out : Surroundings π ν) (w : World π ν) (t : List Action.interface.Exchange) : Prop :=
  Program.Honest (I := Action.interface) (Action.perform out) w t

@[simp] theorem after_nil (w : World π ν) : w.after out [] = w := rfl

@[simp] theorem after_cons (w : World π ν) (e : Action.interface.Exchange) :
    w.after out (e :: t) = ((Action.perform out e.1 w).2).after out t := rfl

@[simp] theorem after_append (w : World π ν) :
    w.after out (t₁ ++ t₂) = (w.after out t₁).after out t₂ :=
  Program.after_append ..

@[simp] theorem allows_append (w : World π ν) :
    w.Allows out (t₁ ++ t₂) ↔ w.Allows out t₁ ∧ (w.after out t₁).Allows out t₂ :=
  Program.honest_append ..

end World

/-- What an operation does when it runs with no other steps in between. -/
def Operation.history {α : Type} (out : Surroundings π ν) (op : Operation α) (w : World π ν) :
    List Action.interface.Exchange :=
  Program.trace (I := Action.interface) (Action.perform out) op w

namespace Operation

variable {α : Type} (out : Surroundings π ν)

theorem allows_history (op : Operation α) (w : World π ν) : w.Allows out (op.history out w) :=
  Program.honest_trace ..

theorem after_history (op : Operation α) (w : World π ν) :
    w.after out (op.history out w) = (op.run out w).2 :=
  Program.after_trace ..

theorem leads_history (op : Operation α) (w : World π ν) :
    op.Leads (op.history out w) (op.run out w).1 :=
  Program.leads_trace ..

/-- What an operation that runs alone results in, it results in by a history that can happen. -/
theorem exists_history (op : Operation α) (w : World π ν) :
    ∃ t, w.Allows out t ∧ op.Leads t (op.run out w).1 ∧ w.after out t = (op.run out w).2 :=
  ⟨op.history out w, allows_history out op w, leads_history out op w, after_history out op w⟩

end Operation

/-! ## Quiet histories -/

/-- It leaves the entries and the marks of every world as they were. -/
def Quiet (t : List Action.interface.Exchange) : Prop :=
  ∀ ⦃π ν : Type⦄ (out : Surroundings π ν) (w : World π ν), w.Allows out t →
    (w.after out t).store.entries = w.store.entries ∧
      (w.after out t).store.inFlight = w.store.inFlight

/-- Whether a step neither stores nor marks anything. -/
def Action.Reads : Action → Prop
  | lookup _ => True
  | begin _ _ => False
  | finish _ _ => False
  | fill _ _ => False
  | askProxy _ _ _ => True
  | openProxy _ _ _ => True
  | fetch _ => True
  | log _ => True

/-- Whether a step stores what came from the proxy. -/
def Action.Fills : Action → Prop
  | fill _ _ => True
  | _ => False

/-- Whether a step fetches from an address. -/
def Action.Fetches : Action → Prop
  | fetch _ => True
  | _ => False

theorem Store.entries_lookup (s : Store) (path : String) :
    (s.lookup path).2.entries = s.entries := by
  unfold Store.lookup
  split <;> rfl

theorem Store.inFlight_lookup (s : Store) (path : String) :
    (s.lookup path).2.inFlight = s.inFlight := by
  unfold Store.lookup
  split <;> rfl

theorem Store.entries_begin (s : Store) (path : String) (onlyIfAbsent : Bool) :
    (s.begin path onlyIfAbsent).2.entries = s.entries := by
  unfold Store.begin
  split
  · rfl
  · split <;> rfl

theorem Store.answer_lookup (s : Store) (path : String) :
    (s.lookup path).1 = s.entries.find? path := by
  unfold Store.lookup
  split <;> simp_all

theorem Action.store_perform_of_reads {a : Action} (h : a.Reads) (out : Surroundings π ν)
    (w : World π ν) :
    (a.perform out w).2.store.entries = w.store.entries ∧
      (a.perform out w).2.store.inFlight = w.store.inFlight := by
  cases a with
  | lookup path => exact ⟨w.store.entries_lookup path, w.store.inFlight_lookup path⟩
  | begin => exact h.elim
  | finish => exact h.elim
  | fill => exact h.elim
  | askProxy => exact ⟨rfl, rfl⟩
  | openProxy => exact ⟨rfl, rfl⟩
  | fetch => exact ⟨rfl, rfl⟩
  | log => exact ⟨rfl, rfl⟩

theorem quiet_nil : Quiet [] := fun _ _ _ _ _ => ⟨rfl, rfl⟩

theorem Quiet.append (h₁ : Quiet t₁) (h₂ : Quiet t₂) : Quiet (t₁ ++ t₂) := by
  intro π ν out w hallows
  obtain ⟨ha₁, ha₂⟩ := (World.allows_append w).1 hallows
  obtain ⟨he₁, hm₁⟩ := h₁ out w ha₁
  obtain ⟨he₂, hm₂⟩ := h₂ out _ ha₂
  rw [World.after_append]
  exact ⟨he₂.trans he₁, hm₂.trans hm₁⟩

theorem quiet_of_reads (h : ∀ e ∈ t, Action.Reads e.1) : Quiet t := by
  induction t with
  | nil => exact quiet_nil
  | cons e t ih =>
    intro π ν out w hallows
    obtain ⟨he, hm⟩ := Action.store_perform_of_reads (h e List.mem_cons_self) out w
    obtain ⟨het, hmt⟩ := ih (fun e he => h e (List.mem_cons_of_mem _ he)) out _ hallows.2
    exact ⟨het.trans he, hmt.trans hm⟩

theorem Store.begin_of_refused {s : Store} {path : String} {onlyIfAbsent : Bool}
    (h : (s.begin path onlyIfAbsent).1 ≠ .begun) : (s.begin path onlyIfAbsent).2 = s := by
  unfold Store.begin at h ⊢
  split
  · rfl
  · split
    · rfl
    · simp_all

theorem quiet_refused {path : String} {onlyIfAbsent : Bool} {admission : Admission}
    (h : admission ≠ .begun) : Quiet [⟨.begin path onlyIfAbsent, admission⟩] := by
  intro π ν out w hallows
  have hanswer : (w.store.begin path onlyIfAbsent).1 = admission := hallows.1
  have hsame := Store.begin_of_refused (hanswer ▸ h)
  exact ⟨congrArg Store.entries hsame, congrArg Store.inFlight hsame⟩

theorem Store.begin_of_begun {s : Store} {path : String} {onlyIfAbsent : Bool}
    (h : (s.begin path onlyIfAbsent).1 = .begun) :
    (s.begin path onlyIfAbsent).2 = { s with inFlight := path :: s.inFlight } := by
  unfold Store.begin at h ⊢
  split
  · simp_all
  · split
    · simp_all
    · rfl

theorem Store.not_mem_inFlight_of_begun {s : Store} {path : String} {onlyIfAbsent : Bool}
    (h : (s.begin path onlyIfAbsent).1 = .begun) : path ∉ s.inFlight := by
  unfold Store.begin at h
  split at h
  · exact nomatch h
  · split at h
    · exact nomatch h
    next hmem => exact hmem

theorem Store.mem_inFlight_of_busy {s : Store} {path : String} {onlyIfAbsent : Bool}
    (h : (s.begin path onlyIfAbsent).1 = .busy) : path ∈ s.inFlight := by
  unfold Store.begin at h
  split at h
  · exact nomatch h
  · split at h
    next hmem => exact hmem
    next => exact nomatch h

theorem Store.absent_of_not_present {s : Store} {path : String}
    (h : (s.begin path true).1 ≠ .present) : s.entries.find? path = none := by
  unfold Store.begin at h
  split at h
  · exact absurd rfl h
  next habsent =>
    cases hfind : s.entries.find? path with
    | none => rfl
    | some blob => exact absurd (by rw [hfind]; rfl) habsent

theorem Store.absent_of_begun {s : Store} {path : String} {onlyIfAbsent : Bool}
    (h : (s.begin path onlyIfAbsent).1 = .begun) (honly : onlyIfAbsent = true) :
    s.entries.find? path = none := by
  rw [honly] at h
  exact absent_of_not_present (h ▸ nofun)

theorem Store.absent_of_busy {s : Store} {path : String} (h : (s.begin path true).1 = .busy) :
    s.entries.find? path = none :=
  absent_of_not_present (h ▸ nofun)

theorem Store.not_present (s : Store) (path : String) : (s.begin path false).1 ≠ .present := by
  unfold Store.begin
  simp only [Bool.false_and, Bool.false_eq_true, if_false]
  split
  · nofun
  · nofun

/-- An entry keeps only those from writing who put a blob where there is none. -/
theorem Store.onlyIfAbsent_of_present {s : Store} {path : String} {onlyIfAbsent : Bool}
    (h : (s.begin path onlyIfAbsent).1 = .present) : onlyIfAbsent = true := by
  cases onlyIfAbsent with
  | true => rfl
  | false => exact absurd h (s.not_present path)

theorem Store.exists_of_present {s : Store} {path : String} {onlyIfAbsent : Bool}
    (h : (s.begin path onlyIfAbsent).1 = .present) : ∃ blob, s.entries.find? path = some blob := by
  unfold Store.begin at h
  split at h
  next hsome => exact Option.isSome_iff_exists.1 (Bool.and_eq_true_iff.1 hsome).2
  next =>
    split at h
    · exact nomatch h
    · exact nomatch h

/-- A write that ends with a blob stores it and takes its mark away again. -/
theorem store_after_stored {out : Surroundings π ν} {w : World π ν} {path : String}
    {onlyIfAbsent : Bool} {u : Upload}
    (h : w.Allows out [⟨.begin path onlyIfAbsent, .begun⟩, ⟨.finish path (some u), ()⟩]) :
    (w.after out [⟨.begin path onlyIfAbsent, .begun⟩, ⟨.finish path (some u), ()⟩]).store =
      { w.store with entries := w.store.entries.insert path u.blob } := by
  have hbegun := Store.begin_of_begun (s := w.store) h.1
  show ((w.store.begin path onlyIfAbsent).2.insert path u.blob).release path = _
  rw [hbegun, Store.release, Store.insert]
  dsimp only
  rw [List.erase_cons_head]

/-- A write that ends with nothing takes its mark away again, and leaves the store as it was. -/
theorem store_after_rejected {out : Surroundings π ν} {w : World π ν} {path : String}
    {onlyIfAbsent : Bool}
    (h : w.Allows out [⟨.begin path onlyIfAbsent, .begun⟩, ⟨.finish path none, ()⟩]) :
    (w.after out [⟨.begin path onlyIfAbsent, .begun⟩, ⟨.finish path none, ()⟩]).store =
      w.store := by
  have hbegun := Store.begin_of_begun (s := w.store) h.1
  show (w.store.begin path onlyIfAbsent).2.release path = _
  rw [hbegun, Store.release]
  dsimp only
  rw [List.erase_cons_head]

theorem quiet_rejected {path : String} {onlyIfAbsent : Bool} :
    Quiet [⟨.begin path onlyIfAbsent, .begun⟩, ⟨.finish path none, ()⟩] := by
  intro π ν out w hallows
  have hsame := store_after_rejected hallows
  exact ⟨congrArg Store.entries hsame, congrArg Store.inFlight hsame⟩

namespace Cache

open Operation (act)

variable {kind : EntryKind} {hasher : Hasher} {hash : String} {size : Option Nat}

/-! ## Questions -/

/-- The histories of a question, and its answers. -/
inductive Told (kind : EntryKind) (hasher : Hasher) (hash : String) (size : Option Nat) :
    List Action.interface.Exchange → Option BlobSize → Prop
  /-- The empty blob is always there. -/
  | empty (hempty : isEmptyBlob kind hasher hash = true) :
    Told kind hasher hash size [] (some (.known 0))
  /-- There is an entry. -/
  | stored (blob : Bytes) (hempty : isEmptyBlob kind hasher hash = false) :
    Told kind hasher hash size [⟨.lookup (Entry.blobPath kind hasher hash), some blob⟩]
      (if fits size blob then some (.known blob.length) else none)
  /-- The proxy is asked. -/
  | asked (answer : Option BlobSize) (hempty : isEmptyBlob kind hasher hash = false) :
    Told kind hasher hash size
      [⟨.lookup (Entry.blobPath kind hasher hash), none⟩, ⟨.askProxy kind hash size, answer⟩] answer

theorem contains_leads {answer : Option BlobSize}
    (h : (contains kind hasher hash size).Leads t answer) :
    Told kind hasher hash size t answer := by
  unfold contains at h
  split at h
  next hempty =>
    obtain ⟨rfl, rfl⟩ := h
    exact .empty hempty
  next hempty =>
    have hempty : isEmptyBlob kind hasher hash = false := Bool.not_eq_true _ ▸ hempty
    obtain ⟨found, rest, rfl, h⟩ := h
    cases found with
    | some blob =>
      obtain ⟨rfl, rfl⟩ := h
      exact .stored blob hempty
    | none =>
      obtain ⟨_, rest, rfl, rfl, rfl⟩ := h
      exact .asked _ hempty

/-- The histories of a search for an entry, and what it finds. -/
inductive Found (kind : EntryKind) (hasher : Hasher) (hash : String) (size : Option Nat) :
    List Action.interface.Exchange → Except CacheError (Option Bytes) → Prop
  /-- The empty blob is always there. -/
  | empty (hempty : isEmptyBlob kind hasher hash = true) :
    Found kind hasher hash size [] (.ok (some []))
  /-- There is an entry. -/
  | stored (blob : Bytes) :
    Found kind hasher hash size [⟨.lookup (Entry.blobPath kind hasher hash), some blob⟩]
      (.ok (some blob))
  /-- The proxy fails. -/
  | failed (e : CacheError) :
    Found kind hasher hash size
      [⟨.lookup (Entry.blobPath kind hasher hash), none⟩, ⟨.openProxy kind hash size, .error e⟩]
      (.error e)
  /-- The proxy does not have the entry. -/
  | missing :
    Found kind hasher hash size
      [⟨.lookup (Entry.blobPath kind hasher hash), none⟩, ⟨.openProxy kind hash size, .ok none⟩]
      (.ok none)
  /-- What the proxy gives is not what it should be. -/
  | rejected (body : Reader) (n : BlobSize) (e : CacheError)
    (hverify : verify kind hasher hash (n.known?.or size) body = .error e) :
    Found kind hasher hash size
      [⟨.lookup (Entry.blobPath kind hasher hash), none⟩,
        ⟨.openProxy kind hash size, .ok (some (body, n))⟩]
      (.error e)
  /-- What the proxy gives is stored. -/
  | filled (body : Reader) (n : BlobSize) (blob : Bytes)
    (hverify : verify kind hasher hash (n.known?.or size) body = .ok blob) :
    Found kind hasher hash size
      [⟨.lookup (Entry.blobPath kind hasher hash), none⟩,
        ⟨.openProxy kind hash size, .ok (some (body, n))⟩,
        ⟨.fill (Entry.blobPath kind hasher hash) blob, ()⟩,
        ⟨.log (.filledFromProxy kind hash blob.length), ()⟩]
      (.ok (some blob))

theorem found_of_takeOver {body : Reader} {n : BlobSize}
    {result : Except CacheError (Option Bytes)}
    (h : (takeOver kind hasher hash (verify kind hasher hash (n.known?.or size) body)).Leads t
      result) :
    Found kind hasher hash size
      (⟨.lookup (Entry.blobPath kind hasher hash), none⟩ ::
        ⟨.openProxy kind hash size, .ok (some (body, n))⟩ :: t) result := by
  cases hverify : verify kind hasher hash (n.known?.or size) body with
  | error e =>
    rw [hverify] at h
    obtain ⟨rfl, rfl⟩ := h
    exact .rejected body n e hverify
  | ok blob =>
    rw [hverify] at h
    obtain ⟨_, _, rfl, _, _, rfl, rfl, rfl⟩ := h
    exact .filled body n blob hverify

theorem find_leads {result : Except CacheError (Option Bytes)}
    (h : (find kind hasher hash size).Leads t result) : Found kind hasher hash size t result := by
  unfold find at h
  split at h
  next hempty =>
    obtain ⟨rfl, rfl⟩ := h
    exact .empty hempty
  next =>
    obtain ⟨found, rest, rfl, h⟩ := h
    cases found with
    | some blob =>
      obtain ⟨rfl, rfl⟩ := h
      exact .stored blob
    | none =>
      obtain ⟨answer, rest, rfl, h⟩ := h
      rcases answer with e | (_ | ⟨body, n⟩)
      · obtain ⟨rfl, rfl⟩ := h
        exact .failed e
      · obtain ⟨rfl, rfl⟩ := h
        exact .missing
      · exact found_of_takeOver h

/-- A blob is filled in just after the proxy gave it, and is what was verified of that. -/
theorem opened_of_found {path : String} {blob : Bytes} {result : Except CacheError (Option Bytes)}
    (h : Found kind hasher hash size (t₁ ++ ⟨.fill path blob, ()⟩ :: t₂) result) :
    ∃ body n, t₁ = [⟨.lookup path, none⟩, ⟨.openProxy kind hash size, .ok (some (body, n))⟩] ∧
      path = Entry.blobPath kind hasher hash ∧
      verify kind hasher hash (n.known?.or size) body = .ok blob := by
  generalize heq : t₁ ++ ⟨.fill path blob, ()⟩ :: t₂ = t at h
  have hfill : (⟨.fill path blob, ()⟩ : Action.interface.Exchange) ∈ t :=
    heq ▸ List.mem_append_right _ List.mem_cons_self
  have hnone : ¬ ∀ e ∈ t, ¬ Action.Fills e.1 := fun h => h _ hfill trivial
  cases h with
  | filled body n found hverify =>
    rcases t₁ with _ | ⟨e₁, _ | ⟨e₂, _ | ⟨e₃, t₁⟩⟩⟩
    · cases heq
    · cases heq
    · cases heq
      exact ⟨body, n, rfl, rfl, hverify⟩
    · rcases t₁ with _ | ⟨e₄, t₁⟩
      · cases heq
      · simp at heq
  | _ => exact absurd (by simp [Action.Fills]) hnone

/-- The answer to a request for an entry, by what the search for it finds. -/
def delivered (hash : String) (size : Option Nat) (offset : Nat) :
    Except CacheError (Option Bytes) → GetAnswer
  | .error e => .error e
  | .ok none => .ok none
  | .ok (some blob) => serve hash size offset blob

theorem get_eq (offset : Nat) :
    get kind hasher hash size offset =
      (find kind hasher hash size).bind fun result => pure (delivered hash size offset result) := by
  unfold get
  refine congrArg (Program.bind (find kind hasher hash size)) (funext fun result => ?_)
  rcases result with e | (_ | blob)
  · rfl
  · rfl
  · rfl

theorem get_leads {offset : Nat} {answer : GetAnswer}
    (h : (get kind hasher hash size offset).Leads t answer) :
    ∃ result, Found kind hasher hash size t result ∧
      answer = delivered hash size offset result := by
  rw [get_eq] at h
  obtain ⟨t₁, t₂, result, rfl, hfind, rfl, rfl⟩ := (Program.leads_bind _ _ _ _).1 h
  exact ⟨result, (List.append_nil t₁).symm ▸ find_leads hfind, rfl⟩

/-- A blob is what a store has under a digest: it is the empty one, or an entry. -/
inductive Held (s : Store) (kind : EntryKind) (hasher : Hasher) (hash : String) : Bytes → Prop
  | empty (hempty : isEmptyBlob kind hasher hash = true) : Held s kind hasher hash []
  | entry (blob : Bytes) (hempty : isEmptyBlob kind hasher hash = false)
    (hfind : s.entries.find? (Entry.blobPath kind hasher hash) = some blob) :
    Held s kind hasher hash blob

/-- What a search that runs alone finds, it finds by a history that can happen. -/
theorem exists_found (kind : EntryKind) (hasher : Hasher) (hash : String) (size : Option Nat)
    (out : Surroundings π ν) (w : World π ν) :
    ∃ t, w.Allows out t ∧
      Found kind hasher hash size t ((find kind hasher hash size).run out w).1 := by
  obtain ⟨t, hallows, hleads, -⟩ := Operation.exists_history out (find kind hasher hash size) w
  exact ⟨t, hallows, find_leads hleads⟩

/-- What a store has is found, whatever the proxy would say. -/
theorem find_of_held {out : Surroundings π ν} {w : World π ν} {blob : Bytes}
    (h : Held w.store kind hasher hash blob) :
    ((find kind hasher hash size).run out w).1 = .ok (some blob) := by
  cases h with
  | empty hempty =>
    unfold find
    rw [if_pos hempty]
    rfl
  | entry blob hempty hfind =>
    obtain ⟨t, hallows, hfound⟩ := exists_found kind hasher hash size out w
    generalize ((find kind hasher hash size).run out w).1 = result at hfound ⊢
    have hlookup : (w.store.lookup (Entry.blobPath kind hasher hash)).1 = some blob := by
      rw [Store.answer_lookup, hfind]
    cases hfound with
    | empty he => exact nomatch hempty.symm.trans he
    | stored found => exact congrArg Except.ok (hallows.1.symm.trans hlookup)
    | failed => exact nomatch hlookup.symm.trans hallows.1
    | missing => exact nomatch hlookup.symm.trans hallows.1
    | rejected => exact nomatch hlookup.symm.trans hallows.1
    | filled => exact nomatch hlookup.symm.trans hallows.1

/-- What a store does not have, and the proxy gives, is found if it can be verified. -/
theorem find_of_given {out : Surroundings π ν} {w : World π ν} {body : Reader} {n : BlobSize}
    (hempty : isEmptyBlob kind hasher hash = false)
    (habsent : w.store.entries.find? (Entry.blobPath kind hasher hash) = none)
    (hgiven : (out.proxy.get kind hash size w.proxy).1 = .ok (some (body, n))) :
    ((find kind hasher hash size).run out w).1 =
      (verify kind hasher hash (n.known?.or size) body).map some := by
  obtain ⟨t, hallows, hfound⟩ := exists_found kind hasher hash size out w
  generalize ((find kind hasher hash size).run out w).1 = result at hfound ⊢
  have hlookup : (w.store.lookup (Entry.blobPath kind hasher hash)).1 = none := by
    rw [Store.answer_lookup, habsent]
  -- The proxy is asked in each of the histories that are left, and answers as it is given.
  cases hfound with
  | empty he => exact nomatch hempty.symm.trans he
  | stored found => exact nomatch hlookup.symm.trans hallows.1
  | failed e => exact nomatch hgiven.symm.trans hallows.2.1
  | missing => exact nomatch hgiven.symm.trans hallows.2.1
  | rejected body' n' e hverify =>
    have hsame := Option.some.inj (Except.ok.inj (hgiven.symm.trans hallows.2.1))
    obtain ⟨rfl, rfl⟩ := Prod.mk.inj hsame
    rw [hverify]
    rfl
  | filled body' n' blob hverify =>
    have hsame := Option.some.inj (Except.ok.inj (hgiven.symm.trans hallows.2.1))
    obtain ⟨rfl, rfl⟩ := Prod.mk.inj hsame
    rw [hverify]
    rfl

/-- What a store does not have, and the proxy gives and can be verified, is filled in. -/
theorem history_of_given {out : Surroundings π ν} {w : World π ν} {body : Reader} {n : BlobSize}
    {blob : Bytes} {result : Except CacheError (Option Bytes)} (hallows : w.Allows out t)
    (h : Found kind hasher hash size t result) (hempty : isEmptyBlob kind hasher hash = false)
    (habsent : w.store.entries.find? (Entry.blobPath kind hasher hash) = none)
    (hgiven : (out.proxy.get kind hash size w.proxy).1 = .ok (some (body, n)))
    (hverify : verify kind hasher hash (n.known?.or size) body = .ok blob) :
    result = .ok (some blob) ∧
      t = [⟨.lookup (Entry.blobPath kind hasher hash), none⟩,
        ⟨.openProxy kind hash size, .ok (some (body, n))⟩,
        ⟨.fill (Entry.blobPath kind hasher hash) blob, ()⟩,
        ⟨.log (.filledFromProxy kind hash blob.length), ()⟩] := by
  have hlookup := (w.store.answer_lookup (Entry.blobPath kind hasher hash)).trans habsent
  cases h with
  | empty he => exact nomatch hempty.symm.trans he
  | stored => exact nomatch hlookup.symm.trans hallows.1
  | failed => exact nomatch hgiven.symm.trans hallows.2.1
  | missing => exact nomatch hgiven.symm.trans hallows.2.1
  | rejected body' n' e hrejected =>
    have hsame := Option.some.inj (Except.ok.inj (hgiven.symm.trans hallows.2.1))
    obtain ⟨rfl, rfl⟩ := Prod.mk.inj hsame
    exact nomatch hverify.symm.trans hrejected
  | filled body' n' found hfilled =>
    have hsame := Option.some.inj (Except.ok.inj (hgiven.symm.trans hallows.2.1))
    obtain ⟨rfl, rfl⟩ := Prod.mk.inj hsame
    obtain rfl := Except.ok.inj (hverify.symm.trans hfilled)
    exact ⟨rfl, rfl⟩

theorem run_get {out : Surroundings π ν} {w : World π ν} {offset : Nat} :
    ((get kind hasher hash size offset).run out w).1 =
      delivered hash size offset ((find kind hasher hash size).run out w).1 := by
  rw [get_eq]
  exact congrArg Prod.fst (Program.run_bind ..)

theorem get_of_held {out : Surroundings π ν} {w : World π ν} {blob : Bytes} {offset : Nat}
    (h : Held w.store kind hasher hash blob) :
    ((get kind hasher hash size offset).run out w).1 = serve hash size offset blob := by
  rw [run_get, find_of_held h]
  rfl

/-! ## Writing -/

/-- The histories of a write, and its results. -/
inductive Stored (kind : EntryKind) (hasher : Hasher) (hash : String) (size : Nat) (body : Reader) :
    List Action.interface.Exchange → Except CacheError Unit → Prop
  /-- The digest is refused. -/
  | invalid (e : CacheError) (hvalidate : validate kind hasher hash size = .error e) :
    Stored kind hasher hash size body [] (.error e)
  /-- The empty blob is not stored. -/
  | empty (hvalidate : validate kind hasher hash size = .ok ())
    (hempty : isEmptyBlob kind hasher hash = true) : Stored kind hasher hash size body [] (.ok ())
  /-- There is an entry already; the body is not read. -/
  | present (hvalidate : validate kind hasher hash size = .ok ())
    (hempty : isEmptyBlob kind hasher hash = false) :
    Stored kind hasher hash size body
      [⟨.begin (Entry.blobPath kind hasher hash) (kind = .cas), .present⟩] (.ok ())
  /-- Someone else is writing the entry; the body is not read. -/
  | busy (hvalidate : validate kind hasher hash size = .ok ())
    (hempty : isEmptyBlob kind hasher hash = false) :
    Stored kind hasher hash size body
      [⟨.begin (Entry.blobPath kind hasher hash) (kind = .cas), .busy⟩]
      (.error (.concurrentWrite (Entry.blobPath kind hasher hash)))
  /-- The body is not what it should be. -/
  | rejected (e : CacheError) (hvalidate : validate kind hasher hash size = .ok ())
    (hempty : isEmptyBlob kind hasher hash = false)
    (hverify : verify kind hasher hash (some size) body = .error e) :
    Stored kind hasher hash size body
      [⟨.begin (Entry.blobPath kind hasher hash) (kind = .cas), .begun⟩,
        ⟨.finish (Entry.blobPath kind hasher hash) none, ()⟩]
      (.error e)
  /-- The body is stored. -/
  | stored (blob : Bytes) (hvalidate : validate kind hasher hash size = .ok ())
    (hempty : isEmptyBlob kind hasher hash = false)
    (hverify : verify kind hasher hash (some size) body = .ok blob) :
    Stored kind hasher hash size body
      [⟨.begin (Entry.blobPath kind hasher hash) (kind = .cas), .begun⟩,
        ⟨.finish (Entry.blobPath kind hasher hash) (some ⟨kind, hash, blob⟩), ()⟩]
      (.ok ())

theorem put_leads {size : Nat} {body : Reader} {result : Except CacheError Unit} :
    (put kind hasher hash size body).Leads t result ↔
      Stored kind hasher hash size body t result := by
  constructor
  · intro h
    unfold put at h
    split at h
    next e hvalidate =>
      obtain ⟨rfl, rfl⟩ := h
      exact .invalid e hvalidate
    next hvalidate =>
      split at h
      next hempty =>
        obtain ⟨rfl, rfl⟩ := h
        exact .empty hvalidate hempty
      next hempty =>
        have hempty : isEmptyBlob kind hasher hash = false := Bool.not_eq_true _ ▸ hempty
        obtain ⟨admission, rest, rfl, h⟩ := h
        cases admission with
        | present =>
          obtain ⟨rfl, rfl⟩ := h
          exact .present hvalidate hempty
        | busy =>
          obtain ⟨rfl, rfl⟩ := h
          exact .busy hvalidate hempty
        | begun =>
          replace h : (write kind hasher hash size body).Leads rest result := h
          unfold write at h
          split at h
          next e hverify =>
            obtain ⟨_, _, rfl, rfl, rfl⟩ := h
            exact .rejected e hvalidate hempty hverify
          next blob hverify =>
            obtain ⟨_, _, rfl, rfl, rfl⟩ := h
            exact .stored blob hvalidate hempty hverify
  · intro h
    unfold put
    cases h with
    | invalid e hvalidate =>
      rw [hvalidate]
      exact ⟨rfl, rfl⟩
    | empty hvalidate hempty =>
      rw [hvalidate, hempty]
      exact ⟨rfl, rfl⟩
    | present hvalidate hempty =>
      rw [hvalidate, hempty]
      exact ⟨_, _, rfl, rfl, rfl⟩
    | busy hvalidate hempty =>
      rw [hvalidate, hempty]
      exact ⟨_, _, rfl, rfl, rfl⟩
    | rejected e hvalidate hempty hverify =>
      rw [hvalidate, hempty]
      refine ⟨_, _, rfl, ?_⟩
      show (write kind hasher hash size body).Leads _ _
      rw [write, hverify]
      exact ⟨_, _, rfl, rfl, rfl⟩
    | stored blob hvalidate hempty hverify =>
      rw [hvalidate, hempty]
      refine ⟨_, _, rfl, ?_⟩
      show (write kind hasher hash size body).Leads _ _
      rw [write, hverify]
      exact ⟨_, _, rfl, rfl, rfl⟩

theorem not_fills_of_stored {size : Nat} {body : Reader} {result : Except CacheError Unit}
    (h : Stored kind hasher hash size body t result) : ∀ e ∈ t, ¬ Action.Fills e.1 := by
  cases h with
  | _ => simp [Action.Fills]

/-- How a write of a body ends: what it stores, and what it results in. -/
inductive Landing (kind : EntryKind) (hasher : Hasher) (hash : String) (size : Nat)
    (body : Reader) : Option Upload → Except CacheError Unit → Prop
  | stored (blob : Bytes) (hverify : verify kind hasher hash (some size) body = .ok blob) :
    Landing kind hasher hash size body (some ⟨kind, hash, blob⟩) (.ok ())
  | rejected (e : CacheError) (hverify : verify kind hasher hash (some size) body = .error e) :
    Landing kind hasher hash size body none (.error e)

/-- A write ends just after it began, and with that the put is through. -/
theorem landing_of_stored {size : Nat} {body : Reader} {path : String} {upload : Option Upload}
    {result : Except CacheError Unit}
    (h : Stored kind hasher hash size body (t₁ ++ ⟨.finish path upload, ()⟩ :: t₂) result) :
    path = Entry.blobPath kind hasher hash ∧ t₁ = [⟨.begin path (kind = .cas), .begun⟩] ∧
      t₂ = [] ∧ Landing kind hasher hash size body upload result := by
  generalize heq : t₁ ++ ⟨.finish path upload, ()⟩ :: t₂ = t at h
  have hends : (⟨.finish path upload, ()⟩ : Action.interface.Exchange) ∈ t :=
    heq ▸ List.mem_append_right _ List.mem_cons_self
  have hpair : ∀ {b : Bool} {p : String} {u : Option Upload},
      t₁ ++ ⟨.finish path upload, ()⟩ :: t₂ = [⟨.begin p b, .begun⟩, ⟨.finish p u, ()⟩] →
        path = p ∧ upload = u ∧ t₁ = [⟨.begin p b, .begun⟩] ∧ t₂ = [] := by
    intro b p u heq
    rcases List.append_eq_cons_iff.1 heq with ⟨-, hhead⟩ | ⟨t, rfl, htail⟩
    · cases hhead
    · rcases List.append_eq_cons_iff.1 htail.symm with ⟨rfl, hhead⟩ | ⟨t, -, htail⟩
      · cases hhead
        exact ⟨rfl, rfl, rfl, rfl⟩
      · exact absurd htail (by simp)
  cases h with
  | invalid => exact nomatch hends
  | empty => exact nomatch hends
  | present => exact nomatch List.mem_singleton.1 hends
  | busy => exact nomatch List.mem_singleton.1 hends
  | rejected e _ _ hverify =>
    obtain ⟨rfl, rfl, rfl, rfl⟩ := hpair heq
    exact ⟨rfl, rfl, rfl, .rejected e hverify⟩
  | stored blob _ _ hverify =>
    obtain ⟨rfl, rfl, rfl, rfl⟩ := hpair heq
    exact ⟨rfl, rfl, rfl, .stored blob hverify⟩

theorem isBenign_of_validate {size : Nat} {e : CacheError}
    (h : validate kind hasher hash size = .error e) : e.isBenign = false := by
  unfold validate at h
  split at h
  · exact nomatch h
  all_goals
    split at h
    · exact nomatch h
    · exact Except.error.inj h ▸ rfl

theorem isBenign_of_verify {size : Option Nat} {body : Reader} {e : CacheError}
    (h : verify kind hasher hash size body = .error e) : e.isBenign = false := by
  unfold verify at h
  split at h
  next cause hread =>
    obtain rfl := Except.error.inj h
    unfold readSized at hread
    split at hread
    · split at hread
      · exact Except.error.inj hread ▸ rfl
      · split at hread
        · exact nomatch hread
        · exact Except.error.inj hread ▸ rfl
    · split at hread
      · exact Except.error.inj hread ▸ rfl
      · exact nomatch hread
  next =>
    split at h
    · split at h
      · exact nomatch h
      · exact Except.error.inj h ▸ rfl
    · exact nomatch h

/-- A put is refused as concurrent for one reason only, and has done nothing else by then. -/
theorem busy_of_concurrentWrite {size : Nat} {body : Reader} {key : String}
    (h : Stored kind hasher hash size body t (.error (.concurrentWrite key))) :
    key = Entry.blobPath kind hasher hash ∧ isEmptyBlob kind hasher hash = false ∧
      t = [⟨.begin (Entry.blobPath kind hasher hash) (kind = .cas), .busy⟩] := by
  cases h with
  | invalid _ hvalidate => exact nomatch isBenign_of_validate hvalidate
  | busy _ hempty => exact ⟨rfl, hempty, rfl⟩
  | rejected _ _ _ hverify => exact nomatch isBenign_of_verify hverify

theorem quiet_of_put_error {size : Nat} {body : Reader} {e : CacheError}
    (h : Stored kind hasher hash size body t (.error e)) : Quiet t := by
  cases h with
  | invalid => exact quiet_nil
  | busy => exact quiet_refused (by decide)
  | rejected => exact quiet_rejected

end Cache

end AssetCache
