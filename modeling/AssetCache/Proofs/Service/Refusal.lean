import AssetCache.Proofs.Service.Entries
import AssetCache.Proofs.Service.Marks

/-!
# What becomes of a refused put

A put that finds its path marked is refused before its body is read, as someone else is writing the
entry.  Where nobody but puts use the store, what the entry holds after that is up to the one put
that was writing it: its own blob if that put comes to store it, and what was there before if it
fails or is dropped.  Nothing compares the two bodies, and nothing takes up the refused one where
the other fails.

Results:
1. `rest_of_writes`: a put that is writing has its result settled, and one step left.
2. `refused_up_to_writer`: what the entry of a refused put holds once the other write has ended.
-/

namespace AssetCache

variable {π ν : Type} {out : Surroundings π ν} {kind : EntryKind} {hasher : Hasher} {hash : String}
  {size : Nat} {body : Reader} {path : String}

/-- Whether a job is a put. -/
def Job.IsPut : Job → Prop
  | .put .. => True
  | .get .. => False
  | .contains .. => False
  | .fetchBlob .. => False

/-! ## A put under way -/

namespace Service

/-- A put that is writing ends with its next step, as its body makes it. -/
theorem rest_of_writes {history : List Action.interface.Exchange}
    {rest : Option (Operation (Except CacheError Unit))}
    (hfollows : Follows ⟨.put kind hasher hash size body, history, rest⟩)
    (hwrites : Task.Writes ⟨.put kind hasher hash size body, history, rest⟩ path) :
    path = Entry.blobPath kind hasher hash ∧
      ∃ upload result, Cache.Landing kind hasher hash size body upload result ∧
        rest = some (.step (.finish path upload) fun _ => .done result) := by
  obtain ⟨upload, next, hrest⟩ := finish_of_writes hfollows hwrites
  have hends : ∀ more result, (next ()).Leads more result →
      path = Entry.blobPath kind hasher hash ∧ more = [] ∧
        Cache.Landing kind hasher hash size body upload result := by
    intro more result hmore
    have hleads :=
      hfollows _ hrest (⟨.finish path upload, ()⟩ :: more) result ⟨(), more, rfl, hmore⟩
    obtain ⟨hpath, -, hmore, hlanding⟩ := Cache.landing_of_stored (Cache.put_leads.1 hleads)
    exact ⟨hpath, hmore, hlanding⟩
  obtain ⟨result, hdone⟩ := Program.exists_eq_done Action.nonempty_answer
    fun more result h => (hends more result h).2.1
  obtain ⟨hpath, -, hlanding⟩ := hends [] result (hdone ▸ ⟨rfl, rfl⟩)
  refine ⟨hpath, upload, result, hlanding, ?_⟩
  obtain rfl : next = fun _ => .done result := funext fun _ => hdone
  exact hrest

theorem not_fill_of_put {t : Task} (hput : t.job.IsPut) (hfollows : Follows t) {p : String}
    {blob : Bytes} {next : Unit → Operation t.job.Result} :
    t.rest ≠ some (.step (.fill p blob) next) := by
  intro hrest
  obtain ⟨more, result, hleads⟩ := hfollows.leads_step hrest ()
  obtain ⟨job, history, rest⟩ := t
  cases job with
  | put kind hasher hash size body =>
    exact Cache.not_fills_of_stored (Cache.put_leads.1 hleads) _
      (List.mem_append_right _ List.mem_cons_self) trivial
  | _ => exact hput.elim

/-- What is so in each run of puts. -/
structure Putting (s : Service π ν) : Prop where
  puts : ∀ t ∈ s.tasks, t.job.IsPut
  follows : ∀ t ∈ s.tasks, Follows t
  owned : Owned s

theorem run_putting {w : World π ν} {moves : List Move} (hidle : w.store.inFlight = [])
    (hputs : ∀ job, .start job ∈ moves → job.IsPut) : Putting ((idle w).run out moves) :=
  ⟨fun _ ht => hputs _ (start_mem_of_mem ht), run_follows moves w, run_owned out hidle moves⟩

/-- While a task is writing an entry, puts leave the entry as it is until that task makes its next
step or is dropped. -/
theorem move_while_writing {s : Service π ν} (hputting : Putting s) {j : Nat} {t : Task}
    (ht : s.tasks[j]? = some t) (hwrites : t.Writes path) (m : Move) :
    ((s.move out m).tasks[j]? = some t ∧ (s.move out m).entryAt path = s.entryAt path) ∨
      m = .advance j ∨ m = .drop j := by
  by_cases hm : m = .advance j ∨ m = .drop j
  · exact .inr hm
  · rw [not_or] at hm
    refine .inl ⟨getElem?_move_of_ne hm.1 hm.2 ht, ?_⟩
    have hrewritten : Rewritten s path m ((s.move out m).entryAt path) := s.rewritten m path
    generalize (s.move out m).entryAt path = entry at hrewritten
    cases hrewritten with
    | kept => rfl
    | stored i u upload next hu hrest =>
      have hown : s.Writing i path :=
        ⟨u, hu, writes_of_finish (hputting.follows u (List.mem_of_getElem? hu)) hrest⟩
      obtain rfl := hputting.owned.unique i j path hown ⟨t, ht, hwrites⟩
      exact absurd rfl hm.1
    | filled i u blob next hu hrest =>
      have hu := List.mem_of_getElem? hu
      exact absurd hrest (not_fill_of_put (hputting.puts u hu) (hputting.follows u hu))

/-! ## How the other write ends -/

/-- How a write ended, and what its entry holds then, if it held `before` so far. -/
inductive Ended (path : String) (before : Option Bytes) : Task → Option Bytes → Prop
  /-- The put is through: the entry holds the blob that its body was. -/
  | stored (kind : EntryKind) (hasher : Hasher) (hash : String) (size : Nat) (body : Reader)
    (history : List Action.interface.Exchange) (blob : Bytes)
    (hpath : Entry.blobPath kind hasher hash = path)
    (hverify : Cache.verify kind hasher hash (some size) body = .ok blob) :
    Ended path before (.finished (.put kind hasher hash size body) history (.ok ())) (some blob)
  /-- The put failed, as its body was not what it should be. -/
  | rejected (kind : EntryKind) (hasher : Hasher) (hash : String) (size : Nat) (body : Reader)
    (history : List Action.interface.Exchange) (e : CacheError)
    (hverify : Cache.verify kind hasher hash (some size) body = .error e) :
    Ended path before (.finished (.put kind hasher hash size body) history (.error e)) before
  /-- The put was dropped. -/
  | dropped (job : Job) (history : List Action.interface.Exchange) :
    Ended path before ⟨job, history, none⟩ before

theorem ended_of_move {s : Service π ν} {j : Nat} {t : Task} {m : Move} (hput : t.job.IsPut)
    (hfollows : Follows t) (ht : s.tasks[j]? = some t) (hwrites : t.Writes path)
    (hm : m = .advance j ∨ m = .drop j) :
    ∃ t', (s.move out m).tasks[j]? = some t' ∧ t'.isOver ∧
      Ended path (s.entryAt path) t' ((s.move out m).entryAt path) := by
  obtain ⟨hlt, -⟩ := List.getElem?_eq_some_iff.1 ht
  obtain ⟨job, history, rest⟩ := t
  cases job with
  | put kind hasher hash size body =>
    obtain ⟨rfl, upload, result, hlanding, rfl⟩ := rest_of_writes hfollows hwrites
    rcases hm with rfl | rfl
    · rw [move_advance ht rfl]
      refine ⟨_, List.getElem?_set_self hlt, rfl, ?_⟩
      cases hlanding with
      | stored blob hverify =>
        have hfind : (s.world.store.entries.insert (Entry.blobPath kind hasher hash) blob).find?
            (Entry.blobPath kind hasher hash) = some blob :=
          EntryMap.find?_insert_self ..
        show Ended _ _ _ ((s.world.store.entries.insert _ blob).find? _)
        rw [hfind]
        exact .stored kind hasher hash size body _ blob rfl hverify
      | rejected e hverify => exact .rejected kind hasher hash size body _ e hverify
    · rw [move_drop ht rfl]
      exact ⟨_, List.getElem?_set_self hlt, rfl, .dropped _ history⟩
  | _ => exact hput.elim

/-- What an entry comes to hold, in a store that only puts use, is up to one task that is writing
it. -/
structure UpTo (out : Surroundings π ν) (s : Service π ν) (path : String) (j : Nat) : Prop where
  writer : ∀ k, s.Writing k path ↔ k = j
  /-- With the move that ends the write, the entry holds what the write made of it. -/
  ended : ∀ between last, (∀ job, .start job ∈ between → job.IsPut) →
    (s.run out between).Writing j path →
    ¬ ((s.run out between).move out last).Writing j path →
      ∃ t, ((s.run out between).move out last).tasks[j]? = some t ∧
        Ended path (s.entryAt path) t (((s.run out between).move out last).entryAt path)

/-- Up to the end of a write, puts change neither its task nor its entry. -/
theorem run_while_writing {s : Service π ν} {moves : List Move}
    (hrun : ∀ before after, moves = before ++ after → Putting (s.run out before)) {j : Nat}
    {t : Task} (ht : s.tasks[j]? = some t) (hwrites : t.Writes path)
    (hstill : (s.run out moves).Writing j path) :
    (s.run out moves).tasks[j]? = some t ∧ (s.run out moves).entryAt path = s.entryAt path := by
  have hwaits : ∃ u, (s.run out moves).tasks[j]? = some u ∧
      (u.isOver ∨ u = t ∧ (s.run out moves).entryAt path = s.entryAt path) := by
    refine run_induction (motive := fun s' => ∃ u, s'.tasks[j]? = some u ∧
      (u.isOver ∨ u = t ∧ s'.entryAt path = s.entryAt path)) ⟨t, ht, .inr ⟨rfl, rfl⟩⟩ ?_
    rintro before m after heq ⟨u, hu, hover | ⟨rfl, hentry⟩⟩
    · obtain ⟨u', hu', -, -, hover'⟩ := exists_task_move _ m hu
      exact ⟨u', hu', .inl (hover' hover)⟩
    · have hbefore := hrun before (m :: after) heq
      have hmem := List.mem_of_getElem? hu
      rcases move_while_writing hbefore hu hwrites m with ⟨hu', hentry'⟩ | hm
      · exact ⟨u, hu', .inr ⟨rfl, hentry'.trans hentry⟩⟩
      · obtain ⟨u', hu', hover, -⟩ :=
          ended_of_move (hbefore.puts u hmem) (hbefore.follows u hmem) hu hwrites hm
        exact ⟨u', hu', .inl hover⟩
  obtain ⟨u, hu, hover | ⟨rfl, hentry⟩⟩ := hwaits
  · obtain ⟨u', hu', hwrites'⟩ := hstill
    obtain rfl : u = u' := Option.some.inj (hu.symm.trans hu')
    have hputting := hrun moves [] (List.append_nil moves).symm
    obtain ⟨upload, next, hrest⟩ :=
      finish_of_writes (hputting.follows u (List.mem_of_getElem? hu)) hwrites'
    exact nomatch hover.symm.trans (Task.not_isOver hrest)
  · exact ⟨hu, hentry⟩

theorem upTo_of_writing {w : World π ν} {moves : List Move} (hidle : w.store.inFlight = [])
    (hputs : ∀ job, .start job ∈ moves → job.IsPut) {j : Nat}
    (hwriting : ((idle w).run out moves).Writing j path) :
    UpTo out ((idle w).run out moves) path j := by
  obtain ⟨t, ht, hwrites⟩ := hwriting
  refine ⟨fun k => ⟨fun hk => ?_, fun hk => hk ▸ ⟨t, ht, hwrites⟩⟩, ?_⟩
  · exact (run_owned out hidle moves).unique k j path hk ⟨t, ht, hwrites⟩
  · intro between last hmore hstill hended
    have hrun : ∀ before after, between = before ++ after →
        Putting (((idle w).run out moves).run out before) := by
      intro before after heq
      rw [← run_append]
      refine run_putting hidle fun job hjob => ?_
      rcases List.mem_append.1 hjob with hm | hm
      · exact hputs job hm
      · exact hmore job (heq ▸ List.mem_append_left _ hm)
    obtain ⟨ht', hentry⟩ := run_while_writing hrun ht hwrites hstill
    have hputting := hrun between [] (List.append_nil between).symm
    have hmem := List.mem_of_getElem? ht'
    rcases move_while_writing hputting ht' hwrites last with ⟨hsame, -⟩ | hm
    · exact absurd ⟨t, hsame, hwrites⟩ hended
    · obtain ⟨t', ht'', -, houtcome⟩ :=
        ended_of_move (hputting.puts t hmem) (hputting.follows t hmem) ht' hwrites hm
      exact ⟨t', ht'', hentry ▸ houtcome⟩

/-! ## Refusals -/

/-- A put that is refused as concurrent makes just the one step that finds its path marked. -/
theorem busy_of_refused {s : Service π ν} {i : Nat} {history : List Action.interface.Exchange}
    {rest : Option (Operation (Except CacheError Unit))} {key : String}
    (hfollows : ∀ t ∈ (s.move out (.advance i)).tasks, Follows t)
    (ht : s.tasks[i]? = some ⟨.put kind hasher hash size body, history, rest⟩)
    (hpending : Task.isOver ⟨.put kind hasher hash size body, history, rest⟩ = false)
    (hrefused : (s.move out (.advance i)).tasks[i]?.bind Task.putResult? =
      some (.error (.concurrentWrite key))) :
    key = Entry.blobPath kind hasher hash ∧ (s.world.store.begin key (kind = .cas)).1 = .busy ∧
      (s.move out (.advance i)).world.store = s.world.store := by
  obtain ⟨action, next, rfl, -, hstored⟩ := stored_of_ended hfollows ht hpending hrefused
  obtain ⟨rfl, -, hhistory⟩ := Cache.busy_of_concurrentWrite hstored
  replace hhistory : history ++ [_] = [] ++ [_] := hhistory
  obtain ⟨rfl, hanswer⟩ := Program.last_exchange hhistory
  replace hanswer : (s.world.store.begin _ (kind = .cas)).1 = .busy := eq_of_heq hanswer
  rw [move_advance ht rfl]
  refine ⟨rfl, hanswer, Store.begin_of_refused ?_⟩
  rw [hanswer]
  exact nofun

/-- What becomes of the entry of a refused put: at that moment one other task is writing it, the
entry is up to that task alone, and one that goes by its digest is not there yet. -/
theorem refused_up_to_writer (out : Surroundings π ν) (w : World π ν) (moves : List Move) (i : Nat)
    {key : String} (hidle : w.store.inFlight = [])
    (hputs : ∀ job, .start job ∈ moves → job.IsPut)
    (hjob : (moves.filterMap Move.job?)[i]? = some (.put kind hasher hash size body))
    (hpending : ((idle w).run out moves).tasks[i]?.map Task.isOver = some false)
    (hrefused : (((idle w).run out moves).move out (.advance i)).tasks[i]?.bind Task.putResult? =
      some (.error (.concurrentWrite key))) :
    let s := ((idle w).run out moves).move out (.advance i)
    key = Entry.blobPath kind hasher hash ∧ (kind = .cas → s.entryAt key = none) ∧
      ∃ j, j ≠ i ∧ UpTo out s key j := by
  intro s
  obtain ⟨t, ht, hpending⟩ := Option.map_eq_some_iff.1 hpending
  have hrun : s = (idle w).run out (moves ++ [.advance i]) :=
    (run_append (idle w) moves [.advance i]).symm
  have hputs' : ∀ job, .start job ∈ moves ++ [.advance i] → job.IsPut := by
    intro job hmem
    rcases List.mem_append.1 hmem with hmem | hmem
    · exact hputs job hmem
    · exact nomatch List.mem_singleton.1 hmem
  have hfollows : ∀ t ∈ s.tasks, Follows t := hrun ▸ run_follows _ w
  obtain ⟨job, history, rest⟩ := t
  obtain rfl : job = .put kind hasher hash size body := job_of_run hjob ht
  obtain ⟨hkey, hbusy, hstore⟩ := busy_of_refused hfollows ht hpending hrefused
  refine ⟨hkey, fun hcas => ?_, ?_⟩
  · rw [decide_eq_true hcas] at hbusy
    refine Eq.trans ?_ (Store.absent_of_busy hbusy)
    exact congrArg (fun store => store.entries.find? key) hstore
  · have hmarked : key ∈ s.world.store.inFlight := hstore ▸ Store.mem_inFlight_of_busy hbusy
    obtain ⟨j, hj⟩ := ((hrun ▸ run_owned out hidle _ : Owned s).mem_iff key).1 hmarked
    refine ⟨j, ?_, hrun ▸ upTo_of_writing hidle hputs' (hrun ▸ hj)⟩
    -- The refused put is through, and who is writing is not.
    rintro rfl
    obtain ⟨u, hu, hwrites⟩ := hj
    obtain ⟨upload, next, hrest⟩ := finish_of_writes (hfollows u (List.mem_of_getElem? hu)) hwrites
    rw [hu, Option.bind_some] at hrefused
    obtain ⟨job, history, rest⟩ := u
    replace hrest : rest = _ := hrest
    cases job with
    | put =>
      rw [hrest] at hrefused
      exact nomatch hrefused
    | _ => exact nomatch hrefused

/-- A put of "hello" under its digest is refused for one of "jello", which then fails: nothing is
stored. -/
theorem refused_blob_lost :
    let h : Hasher := .ofAlgorithm .sha256 .sha256
    let hello : Bytes := [104, 101, 108, 108, 111]
    let jello : Bytes := [106, 101, 108, 108, 111]
    let key := Entry.blobPath .cas h (h.hash hello)
    let out : Surroundings Proxy.Recording Unit := ⟨.recording true, .down⟩
    let w : World Proxy.Recording Unit := ⟨.empty, .empty, (), []⟩
    let moves : List Move :=
      [.start (.put .cas h (h.hash hello) 5 (.ofBytes jello)), .advance 0,
        .start (.put .cas h (h.hash hello) 5 (.ofBytes hello))]
    let s := ((idle w).run out moves).move out (.advance 1)
    (w.store.inFlight = [] ∧ (∀ job, .start job ∈ moves → job.IsPut) ∧
      (moves.filterMap Move.job?)[1]? = some (.put .cas h (h.hash hello) 5 (.ofBytes hello)) ∧
      ((idle w).run out moves).tasks[1]?.map Task.isOver = some false ∧
      s.tasks[1]?.bind Task.putResult? = some (.error (.concurrentWrite key))) ∧
    Cache.verify .cas h (h.hash hello) (some 5) (.ofBytes hello) = .ok hello ∧
    (∃ j, j ≠ 1 ∧ UpTo out s key j) ∧
    (s.move out (.advance 0)).world.store.inFlight = [] ∧
    (s.move out (.advance 0)).entryAt key = none := by
  intro h hello jello key out w moves s
  have hputs : ∀ job, .start job ∈ moves → job.IsPut := by
    intro job hjob
    simp only [moves, List.mem_cons, Move.start.injEq, reduceCtorEq, List.not_mem_nil, or_false,
      false_or] at hjob
    rcases hjob with rfl | rfl
    · exact trivial
    · exact trivial
  have hpending : ((idle w).run out moves).tasks[1]?.map Task.isOver = some false := by
    decide +kernel
  have hrefused : s.tasks[1]?.bind Task.putResult? = some (.error (.concurrentWrite key)) := by
    decide +kernel
  exact ⟨⟨rfl, hputs, rfl, hpending, hrefused⟩, by decide +kernel,
    (refused_up_to_writer out w moves 1 rfl hputs rfl hpending hrefused).2.2, by decide +kernel,
    by decide +kernel⟩

end Service

end AssetCache
