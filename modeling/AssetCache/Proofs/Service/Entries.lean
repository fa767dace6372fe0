import AssetCache.Proofs.Service.Settled

/-!
# Where entries come from

An entry of the store is written by the end of a write or by a fill from the proxy, and by no other
move of a run; entries never go away.

What a recording proxy holds is written by the ends of writes alone.

Results:
1. `Service.rewritten`: what a move does to the entry of a path.
2. `Service.retold`: what a move does to an entry of a recording proxy.
-/

namespace AssetCache

variable {π ν : Type} {out : Surroundings π ν} {path : String}

/-- What a step does to the entry of a path. -/
inductive Action.Rewrites (w : World π ν) (path : String) : Action → Option Bytes → Prop
  | kept (a : Action) : Rewrites w path a (w.store.entries.find? path)
  | stored (u : Upload) : Rewrites w path (.finish path (some u)) (some u.blob)
  | filled (blob : Bytes) : Rewrites w path (.fill path blob) (some blob)

theorem Action.rewrites (a : Action) (w : World π ν) (path : String) :
    a.Rewrites w path ((a.perform out w).2.store.entries.find? path) := by
  have hinsert : ∀ {a : Action} {p : String} {blob : Bytes},
      (p = path → a.Rewrites w path (some blob)) →
        a.Rewrites w path ((w.store.entries.insert p blob).find? path) := by
    intro a p blob h
    rw [EntryMap.find?_insert]
    split
    next hp => exact h hp
    next => exact .kept _
  have hkept : ∀ {a : Action} {entries : EntryMap}, entries = w.store.entries →
      a.Rewrites w path (entries.find? path) := by
    rintro a entries rfl
    exact .kept _
  cases a with
  | lookup p => exact hkept (w.store.entries_lookup p)
  | begin p onlyIfAbsent => exact hkept (w.store.entries_begin p onlyIfAbsent)
  | finish p upload =>
    cases upload with
    | none => exact .kept _
    | some u => exact hinsert fun hp => hp ▸ .stored u
  | fill p blob => exact hinsert fun hp => hp ▸ .filled blob
  | askProxy => exact .kept _
  | openProxy => exact .kept _
  | fetch => exact .kept _
  | log => exact .kept _

namespace Service

/-- The entry of a path. -/
def entryAt (s : Service π ν) (path : String) : Option Bytes := s.world.store.entries.find? path

/-- What a move does to the entry of a path. -/
inductive Rewritten (s : Service π ν) (path : String) : Move → Option Bytes → Prop
  | kept (m : Move) : Rewritten s path m (s.entryAt path)
  /-- A task ends a write and stores its blob. -/
  | stored (i : Nat) (t : Task) (u : Upload) (next : Unit → Operation t.job.Result)
    (ht : s.tasks[i]? = some t) (hrest : t.rest = some (.step (.finish path (some u)) next)) :
    Rewritten s path (.advance i) (some u.blob)
  /-- A task stores what came from the proxy. -/
  | filled (i : Nat) (t : Task) (blob : Bytes) (next : Unit → Operation t.job.Result)
    (ht : s.tasks[i]? = some t) (hrest : t.rest = some (.step (.fill path blob) next)) :
    Rewritten s path (.advance i) (some blob)

theorem rewritten (s : Service π ν) (m : Move) (path : String) :
    Rewritten s path m ((s.move out m).entryAt path) := by
  have hmoved : Moved out s m (s.move out m) := s.moved m
  generalize s.move out m = s' at hmoved ⊢
  cases hmoved with
  | started job => exact .kept _
  | unmoved m => exact .kept _
  | advanced i t action next ht hrest =>
    have hrewrites : action.Rewrites s.world path
        ((action.perform out s.world).2.store.entries.find? path) := action.rewrites s.world path
    show Rewritten s path _ ((action.perform out s.world).2.store.entries.find? path)
    generalize (action.perform out s.world).2.store.entries.find? path = entry at hrewrites
    cases hrewrites with
    | kept => exact .kept _
    | stored u => exact .stored i t u next ht hrest
    | filled blob => exact .filled i t blob next ht hrest
  | dropped i t op ht hrest =>
    show Rewritten s path _ ((op.abandon out s.world).store.entries.find? path)
    rw [entries_abandon]
    exact .kept _

/-- A put that comes to its result with this move has the history of one. -/
theorem stored_of_ended {kind : EntryKind} {hasher : Hasher} {hash : String} {size : Nat}
    {body : Reader} {history : List Action.interface.Exchange}
    {rest : Option (Operation (Except CacheError Unit))} {result : Except CacheError Unit}
    {s : Service π ν} {i : Nat}
    (hfollows : ∀ t ∈ (s.move out (.advance i)).tasks, Follows t)
    (ht : s.tasks[i]? = some ⟨.put kind hasher hash size body, history, rest⟩)
    (hpending : Task.isOver ⟨.put kind hasher hash size body, history, rest⟩ = false)
    (hresult : (s.move out (.advance i)).tasks[i]?.bind Task.putResult? = some result) :
    ∃ action next, rest = some (.step action next) ∧
      next (action.perform out s.world).1 = .done result ∧
      Cache.Stored kind hasher hash size body
        (history ++ [⟨action, (action.perform out s.world).1⟩]) result := by
  obtain ⟨hlt, -⟩ := List.getElem?_eq_some_iff.1 ht
  have hstep : ∃ (action : Action) (next : action.Answer → Operation (Except CacheError Unit)),
      rest = some (.step action next) := Task.exists_step hpending
  obtain ⟨action, next, rfl⟩ := hstep
  refine ⟨action, next, rfl, ?_⟩
  rw [move_advance ht rfl] at hfollows hresult
  dsimp only at hfollows hresult
  have hfollow := hfollows _ (List.mem_of_getElem? (List.getElem?_set_self hlt))
  rw [List.getElem?_set_self hlt, Option.bind_some] at hresult
  cases hdone : next (action.perform out s.world).1 with
  | step =>
    rw [hdone] at hresult
    exact nomatch hresult
  | done answer =>
    rw [hdone] at hresult
    obtain rfl : answer = result := Option.some.inj hresult
    have hleads := hfollow _ (congrArg some hdone) [] _ ⟨rfl, rfl⟩
    rw [List.append_nil] at hleads
    exact ⟨rfl, Cache.put_leads.1 hleads⟩

/-! ## The entries of the proxy -/

/-- A recording proxy, and a network. -/
abbrev withRecording (hideSizes : Bool) (network : Network ν) : Surroundings Proxy.Recording ν :=
  ⟨.recording hideSizes, network⟩

/-- What a move does to an entry of a recording proxy. -/
inductive Retold (s : Service Proxy.Recording ν) (kind : EntryKind) (hash : String) :
    Move → Option Bytes → Prop
  | kept (m : Move) : Retold s kind hash m (s.world.proxy.find? kind hash)
  /-- A task ends a write, and the proxy is told of its blob. -/
  | told (i : Nat) (t : Task) (p : String) (u : Upload) (next : Unit → Operation t.job.Result)
    (ht : s.tasks[i]? = some t) (hrest : t.rest = some (.step (.finish p (some u)) next)) :
    Retold s kind hash (.advance i) (some u.blob)

theorem find?_seed (r : Proxy.Recording) (k kind : EntryKind) (x hash : String) (blob : Bytes) :
    (r.seed k x blob).find? kind hash =
      if Entry.lookupKey k x = Entry.lookupKey kind hash then some blob else r.find? kind hash :=
  EntryMap.find?_insert ..

theorem retold {hideSizes : Bool} {network : Network ν} (s : Service Proxy.Recording ν) (m : Move)
    (kind : EntryKind) (hash : String) :
    Retold s kind hash m
      ((s.move (withRecording hideSizes network) m).world.proxy.find? kind hash) := by
  have hmoved : Moved (withRecording hideSizes network) s m
      (s.move (withRecording hideSizes network) m) := s.moved m
  generalize s.move (withRecording hideSizes network) m = s' at hmoved ⊢
  cases hmoved with
  | started job => exact .kept _
  | unmoved m => exact .kept _
  | advanced i t action next ht hrest =>
    cases action with
    | finish p upload =>
      cases upload with
      | none => exact .kept _
      | some u =>
        show Retold s kind hash _ ((s.world.proxy.seed u.kind u.hash u.blob).find? kind hash)
        rw [find?_seed]
        split
        · exact .told i t p u next ht hrest
        · exact .kept _
    | _ => exact .kept _
  | dropped i t op ht hrest =>
    have hproxy : (op.abandon (withRecording hideSizes network) s.world).proxy =
        s.world.proxy := by
      cases op with
      | done => rfl
      | step action next => cases action <;> rfl
    show Retold s kind hash _ ((op.abandon _ s.world).proxy.find? kind hash)
    rw [hproxy]
    exact .kept _

end Service

end AssetCache
