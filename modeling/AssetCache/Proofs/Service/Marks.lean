import AssetCache.Proofs.Service.Settled

/-!
# Who is writing what

A write marks its path when it begins and takes the mark away when it ends, whether it stores its
blob or not; one that is dropped in between takes the mark away too.  A task does nothing else while
it has a path marked, so that where a task stands tells whether it has.

Results:
1. `Job.bracketed`: in whatever a job does, each write that begins is ended next.
2. `Service.remarks`: a move marks a path for its task, or takes away the mark of its task, or
   leaves all marks as they are.
3. `marks_owned`: in every run the marks are those of the writes under way, one for each, and only
   who wrote a mark takes it away.
-/

namespace AssetCache

variable {π ν : Type} {t t₁ t₂ : List Action.interface.Exchange} {path : String}

/-! ## Writes in a history -/

/-- Each write that begins is ended next, and nothing else is ended. -/
inductive Bracketed : List Action.interface.Exchange → Prop
  | nil : Bracketed []
  | unmarked (e : Action.interface.Exchange) {t : List Action.interface.Exchange}
    (he : Action.Unmarked e.1) (ht : Bracketed t) : Bracketed (e :: t)
  | refused (path : String) (onlyIfAbsent : Bool) (admission : Admission)
    {t : List Action.interface.Exchange} (hne : admission ≠ .begun) (ht : Bracketed t) :
    Bracketed (⟨.begin path onlyIfAbsent, admission⟩ :: t)
  | write (path : String) (onlyIfAbsent : Bool) (upload : Option Upload)
    {t : List Action.interface.Exchange} (ht : Bracketed t) :
    Bracketed (⟨.begin path onlyIfAbsent, .begun⟩ :: ⟨.finish path upload, ()⟩ :: t)

theorem Bracketed.append (h₁ : Bracketed t₁) (h₂ : Bracketed t₂) : Bracketed (t₁ ++ t₂) := by
  induction h₁ with
  | nil => exact h₂
  | unmarked e he _ ih => exact .unmarked e he ih
  | refused path onlyIfAbsent admission hne _ ih =>
    exact .refused path onlyIfAbsent admission hne ih
  | write path onlyIfAbsent upload _ ih => exact .write path onlyIfAbsent upload ih

theorem bracketed_of_unmarked (h : ∀ e ∈ t, Action.Unmarked e.1) : Bracketed t := by
  induction t with
  | nil => exact .nil
  | cons e t ih =>
    exact .unmarked e (h e List.mem_cons_self) (ih fun x hx => h x (List.mem_cons_of_mem _ hx))

theorem Bracketed.after_begun {onlyIfAbsent : Bool} (h : Bracketed t)
    (heq : t = t₁ ++ ⟨.begin path onlyIfAbsent, .begun⟩ :: t₂) :
    ∃ upload rest, t₂ = ⟨.finish path upload, ()⟩ :: rest := by
  induction h generalizing t₁ with
  | nil => simp at heq
  | unmarked e he _ ih =>
    rcases List.cons_eq_append_iff.1 heq with ⟨rfl, hhead⟩ | ⟨rest, rfl, htail⟩
    · obtain ⟨rfl, -⟩ := List.cons.inj hhead
      exact he.elim
    · exact ih htail
  | refused p b admission hne _ ih =>
    rcases List.cons_eq_append_iff.1 heq with ⟨rfl, hhead⟩ | ⟨rest, rfl, htail⟩
    · cases hhead
      exact absurd rfl hne
    · exact ih htail
  | write p b upload _ ih =>
    rcases List.cons_eq_append_iff.1 heq with ⟨rfl, hhead⟩ | ⟨rest, rfl, htail⟩
    · cases hhead
      exact ⟨upload, _, rfl⟩
    · rcases List.cons_eq_append_iff.1 htail with ⟨rfl, hhead⟩ | ⟨more, rfl, hmore⟩
      · cases hhead
      · exact ih hmore

theorem Bracketed.before_finish {upload : Option Upload} (h : Bracketed t)
    (heq : t = t₁ ++ ⟨.finish path upload, ()⟩ :: t₂) :
    ∃ before onlyIfAbsent, t₁ = before ++ [⟨.begin path onlyIfAbsent, .begun⟩] := by
  induction h generalizing t₁ with
  | nil => simp at heq
  | unmarked e he _ ih =>
    rcases List.cons_eq_append_iff.1 heq with ⟨rfl, hhead⟩ | ⟨rest, rfl, htail⟩
    · obtain ⟨rfl, -⟩ := List.cons.inj hhead
      exact he.elim
    · obtain ⟨before, b, rfl⟩ := ih htail
      exact ⟨e :: before, b, rfl⟩
  | refused p b admission hne _ ih =>
    rcases List.cons_eq_append_iff.1 heq with ⟨rfl, hhead⟩ | ⟨rest, rfl, htail⟩
    · cases hhead
    · obtain ⟨before, b', rfl⟩ := ih htail
      exact ⟨⟨.begin p b, admission⟩ :: before, b', rfl⟩
  | write p b u _ ih =>
    rcases List.cons_eq_append_iff.1 heq with ⟨rfl, hhead⟩ | ⟨rest, rfl, htail⟩
    · cases hhead
    · rcases List.cons_eq_append_iff.1 htail with ⟨rfl, hhead⟩ | ⟨more, rfl, hmore⟩
      · cases hhead
        exact ⟨[], b, rfl⟩
      · obtain ⟨before, b', rfl⟩ := ih hmore
        exact ⟨⟨.begin p b, .begun⟩ :: ⟨.finish p u, ()⟩ :: before, b', rfl⟩

/-! ## Jobs -/

theorem Cache.bracketed_of_stored {kind : EntryKind} {hasher : Hasher} {hash : String} {size : Nat}
    {body : Reader} {result : Except CacheError Unit}
    (h : Stored kind hasher hash size body t result) : Bracketed t := by
  cases h with
  | invalid => exact .nil
  | empty => exact .nil
  | present => exact .refused _ _ .present nofun .nil
  | busy => exact .refused _ _ .busy nofun .nil
  | rejected => exact .write _ _ none .nil
  | stored blob => exact .write _ _ (some ⟨kind, hash, blob⟩) .nil

theorem Cache.unmarked_of_told {kind : EntryKind} {hasher : Hasher} {hash : String}
    {size : Option Nat} {answer : Option BlobSize} (h : Told kind hasher hash size t answer) :
    ∀ e ∈ t, Action.Unmarked e.1 := by
  cases h with
  | empty => simp
  | stored => simp [Action.Unmarked]
  | asked => simp [Action.Unmarked]

theorem Cache.unmarked_of_found {kind : EntryKind} {hasher : Hasher} {hash : String}
    {size : Option Nat} {result : Except CacheError (Option Bytes)}
    (h : Found kind hasher hash size t result) : ∀ e ∈ t, Action.Unmarked e.1 := by
  cases h with
  | empty => simp
  | _ => simp [Action.Unmarked]

theorem Request.bracketed_implement (c : Request.Call) {answer : c.Answer}
    (h : (Request.implement c).Leads t answer) : Bracketed t := by
  cases c with
  | contains kind hasher hash size =>
    exact bracketed_of_unmarked (Cache.unmarked_of_told (Cache.contains_leads h))
  | get kind hasher hash size offset =>
    obtain ⟨result, hfound, -⟩ := Cache.get_leads h
    exact bracketed_of_unmarked (Cache.unmarked_of_found hfound)
  | put kind hasher hash size body => exact Cache.bracketed_of_stored (Cache.put_leads.1 h)
  | fetch address =>
    obtain ⟨_, _, rfl, rfl, rfl⟩ := h
    exact .unmarked _ trivial .nil
  | log event =>
    obtain ⟨_, _, rfl, rfl, rfl⟩ := h
    exact .unmarked _ trivial .nil

theorem Resolution.bracketed {α : Type} (p : Resolution α) {a : α}
    (h : (Program.expand (I := Request.Call.interface) (J := Action.interface)
      Request.implement p).Leads t a) : Bracketed t := by
  induction p generalizing t with
  | done b => exact h.1 ▸ .nil
  | step c next ih =>
    obtain ⟨t₁, t₂, answer, rfl, h₁, h₂⟩ := (Program.leads_bind _ _ _ _).1 h
    exact (Request.bracketed_implement c h₁).append (ih answer h₂)

theorem Job.bracketed (job : Job) {result : job.Result} (h : job.operation.Leads t result) :
    Bracketed t := by
  cases job with
  | put kind hasher hash size body =>
    exact Request.bracketed_implement (.put kind hasher hash size body) h
  | get kind hasher hash size offset =>
    exact Request.bracketed_implement (.get kind hasher hash size offset) h
  | contains kind hasher hash size =>
    exact Request.bracketed_implement (.contains kind hasher hash size) h
  | fetchBlob resolver request => exact Resolution.bracketed _ h

/-- Whether a job may write an entry. -/
def Job.MayWrite : Job → Prop
  | .put .. => True
  | .get .. => False
  | .contains .. => False
  | .fetchBlob .. => True

theorem Job.unmarked (job : Job) (hjob : ¬ job.MayWrite) {result : job.Result}
    (h : job.operation.Leads t result) : ∀ e ∈ t, Action.Unmarked e.1 := by
  cases job with
  | put => exact absurd trivial hjob
  | get kind hasher hash size offset =>
    obtain ⟨_, hfound, -⟩ := Cache.get_leads h
    exact Cache.unmarked_of_found hfound
  | contains kind hasher hash size => exact Cache.unmarked_of_told (Cache.contains_leads h)
  | fetchBlob => exact absurd trivial hjob

/-! ## Tasks -/

/-- A task has begun to write a path, and has neither ended that since nor been dropped. -/
def Task.Writes (t : Task) (path : String) : Prop :=
  t.rest.isSome ∧ ∃ before onlyIfAbsent since,
    t.history = before ++ ⟨.begin path onlyIfAbsent, .begun⟩ :: since ∧
    ∀ upload, ⟨.finish path upload, ()⟩ ∉ since

namespace Service

variable {out : Surroundings π ν} {task : Task}

/-- A task that is writing a path ends that with its next step. -/
theorem finish_of_writes (hfollows : Follows task) (hwrites : task.Writes path) :
    ∃ upload next, task.rest = some (.step (.finish path upload) next) := by
  obtain ⟨hrest, before, onlyIfAbsent, since, hhistory, hsince⟩ := hwrites
  obtain ⟨op, hop⟩ := Option.isSome_iff_exists.1 hrest
  cases op with
  | done result =>
    have hall := Job.bracketed _ (hfollows _ hop [] result ⟨rfl, rfl⟩)
    rw [List.append_nil] at hall
    obtain ⟨upload, rest, rfl⟩ := hall.after_begun hhistory
    exact absurd List.mem_cons_self (hsince upload)
  | step action next =>
    obtain ⟨answer⟩ := Action.nonempty_answer action
    obtain ⟨more, result, hleads⟩ := hfollows.leads_step hop answer
    have hall := Job.bracketed _ hleads
    obtain ⟨upload, rest, heq⟩ := hall.after_begun
      (by rw [hhistory, List.append_assoc, List.cons_append])
    cases since with
    | cons e since =>
      obtain ⟨rfl, -⟩ := List.cons.inj heq
      exact absurd List.mem_cons_self (hsince upload)
    | nil =>
      cases heq
      exact ⟨upload, next, hop⟩

/-- A task whose next step ends the writing of a path is writing it. -/
theorem writes_of_finish (hfollows : Follows task) {upload : Option Upload}
    {next : Unit → Operation task.job.Result}
    (hrest : task.rest = some (.step (.finish path upload) next)) : task.Writes path := by
  obtain ⟨more, result, hleads⟩ := hfollows.leads_step hrest ()
  obtain ⟨before, onlyIfAbsent, hhistory⟩ := (Job.bracketed _ hleads).before_finish rfl
  exact ⟨by rw [hrest]; rfl, before, onlyIfAbsent, [], hhistory, fun _ => List.not_mem_nil⟩

theorem mayWrite_of_writes (hfollows : Follows task) (hwrites : task.Writes path) :
    task.job.MayWrite := by
  obtain ⟨upload, next, hrest⟩ := finish_of_writes hfollows hwrites
  obtain ⟨more, result, hleads⟩ := hfollows.leads_step hrest ()
  refine Classical.byContradiction fun hjob => ?_
  exact task.job.unmarked hjob hleads _ (List.mem_append_right _ List.mem_cons_self)

/-! ## Moves -/

/-- The task with this number is writing a path. -/
def Writing (s : Service π ν) (i : Nat) (path : String) : Prop :=
  ∃ t, s.tasks[i]? = some t ∧ t.Writes path

/-- A task that has made one more step is writing what it began with that step, or what it was
writing before and has not ended. -/
theorem writes_snoc {e : Action.interface.Exchange} {rest : Option (Operation task.job.Result)}
    (hrest : task.rest.isSome)
    (h : Task.Writes ⟨task.job, task.history ++ [e], rest⟩ path) :
    (∃ onlyIfAbsent, e = ⟨.begin path onlyIfAbsent, .begun⟩) ∨
      (task.Writes path ∧ ∀ upload, e ≠ ⟨.finish path upload, ()⟩) := by
  obtain ⟨-, before, onlyIfAbsent, since, hhistory, hsince⟩ := h
  replace hhistory : task.history ++ [e] =
    before ++ ⟨.begin path onlyIfAbsent, .begun⟩ :: since := hhistory
  rcases List.eq_nil_or_concat since with rfl | ⟨earlier, last, rfl⟩
  · obtain ⟨-, hlast⟩ := List.append_inj' hhistory rfl
    exact .inl ⟨onlyIfAbsent, List.singleton_inj.1 hlast⟩
  · rw [List.concat_eq_append] at hhistory hsince
    have hsplit := hhistory.trans (List.append_assoc before (_ :: earlier) [last]).symm
    obtain ⟨hbefore, hlast⟩ := List.append_inj' hsplit rfl
    obtain rfl := List.singleton_inj.1 hlast
    refine .inr ⟨⟨hrest, before, onlyIfAbsent, earlier, hbefore, fun upload hmem => ?_⟩, ?_⟩
    · exact hsince upload (List.mem_append_left _ hmem)
    · exact fun upload he => hsince upload (List.mem_append_right _ (he ▸ List.mem_cons_self))

theorem writing_set {s : Service π ν} {i : Nat} {t t' : Task} (ht : s.tasks[i]? = some t)
    (w : World π ν) (j : Nat) :
    Writing ⟨w, s.tasks.set i t'⟩ j path ↔
      (j = i ∧ t'.Writes path) ∨ (j ≠ i ∧ s.Writing j path) := by
  obtain ⟨hlt, -⟩ := List.getElem?_eq_some_iff.1 ht
  unfold Writing
  dsimp only
  by_cases hj : j = i
  · subst hj
    simp [List.getElem?_set_self hlt]
  · simp [List.getElem?_set_ne (Ne.symm hj), hj]

/-- What a move does to the marks and to the writes under way. -/
inductive Remarked (s : Service π ν) : Move → Service π ν → Prop
  /-- All stay. -/
  | kept (m : Move) (s' : Service π ν)
    (hmarks : s'.world.store.inFlight = s.world.store.inFlight)
    (hwriting : ∀ j p, s'.Writing j p ↔ s.Writing j p) : Remarked s m s'
  /-- A task begins to write a path that nobody has marked. -/
  | marked (i : Nat) (path : String) (s' : Service π ν)
    (hfree : path ∉ s.world.store.inFlight)
    (hmarks : s'.world.store.inFlight = path :: s.world.store.inFlight)
    (hwriting : ∀ j p, s'.Writing j p ↔ s.Writing j p ∨ (j = i ∧ p = path)) :
    Remarked s (.advance i) s'
  /-- A task ends a write, or is dropped while it is writing. -/
  | cleared (m : Move) (i : Nat) (path : String) (s' : Service π ν)
    (hm : m = .advance i ∨ m = .drop i) (howner : s.Writing i path)
    (honly : ∀ p, s.Writing i p → p = path)
    (hmarks : s'.world.store.inFlight = s.world.store.inFlight.erase path)
    (hwriting : ∀ j p, s'.Writing j p ↔ j ≠ i ∧ s.Writing j p) : Remarked s m s'

/-- A task that neither was writing nor is now does not count. -/
theorem writing_set_of_idle {s : Service π ν} {i : Nat} {t t' : Task} (ht : s.tasks[i]? = some t)
    (w : World π ν) (hidle : ∀ p, ¬ t.Writes p) (hidle' : ∀ p, ¬ t'.Writes p) (j : Nat)
    (p : String) : Writing ⟨w, s.tasks.set i t'⟩ j p ↔ s.Writing j p := by
  rw [writing_set ht]
  constructor
  · rintro (⟨-, hwrites⟩ | ⟨-, hwriting⟩)
    · exact absurd hwrites (hidle' p)
    · exact hwriting
  · rintro ⟨u, hu, hwrites⟩
    refine .inr ⟨?_, u, hu, hwrites⟩
    rintro rfl
    obtain rfl : t = u := Option.some.inj (ht.symm.trans hu)
    exact hidle p hwrites

theorem not_writes_of_step {action : Action} {next : action.Answer → Operation task.job.Result}
    (hfollows : Follows task) (hrest : task.rest = some (.step action next))
    (hne : ∀ upload, action ≠ .finish path upload) : ¬ task.Writes path := by
  intro hwrites
  obtain ⟨upload, next', hrest'⟩ := finish_of_writes hfollows hwrites
  have hstep := Option.some.inj (hrest.symm.trans hrest')
  injection hstep with haction
  exact hne upload haction

theorem not_writes_ofJob (job : Job) : ¬ (Task.ofJob job).Writes path := by
  rintro ⟨-, before, onlyIfAbsent, since, hhistory, -⟩
  cases before with
  | nil => exact nomatch hhistory
  | cons => exact nomatch hhistory

theorem remarked_of_start (s : Service π ν) (job : Job) :
    Remarked s (.start job) { s with tasks := s.tasks ++ [.ofJob job] } := by
  refine .kept _ _ rfl fun j p => ?_
  constructor
  · rintro ⟨t, ht, hwrites⟩
    rw [List.getElem?_append] at ht
    split at ht
    · exact ⟨t, ht, hwrites⟩
    · obtain rfl := List.mem_singleton.1 (List.mem_of_getElem? ht)
      exact absurd hwrites (not_writes_ofJob job)
  · rintro ⟨t, ht, hwrites⟩
    obtain ⟨hlt, -⟩ := List.getElem?_eq_some_iff.1 ht
    exact ⟨t, (List.getElem?_append_left hlt).trans ht, hwrites⟩

theorem remarked_of_end {s : Service π ν} {m : Move} {i : Nat} {t t' : Task}
    {upload : Option Upload} {next : Unit → Operation t.job.Result} {w : World π ν}
    (hm : m = .advance i ∨ m = .drop i) (ht : s.tasks[i]? = some t) (hfollows : Follows t)
    (hrest : t.rest = some (.step (.finish path upload) next)) (hidle : ∀ p, ¬ t'.Writes p)
    (hmarks : w.store.inFlight = s.world.store.inFlight.erase path) :
    Remarked s m ⟨w, s.tasks.set i t'⟩ := by
  refine .cleared m i path _ hm ⟨t, ht, writes_of_finish hfollows hrest⟩ ?_ hmarks fun j p => ?_
  · rintro p ⟨u, hu, hwrites⟩
    obtain rfl : t = u := Option.some.inj (ht.symm.trans hu)
    obtain ⟨upload', next', hrest'⟩ := finish_of_writes hfollows hwrites
    have hstep := Option.some.inj (hrest.symm.trans hrest')
    injection hstep with haction
    injection haction with hpath
    exact hpath.symm
  · rw [writing_set ht]
    exact or_iff_right fun h => hidle p h.2

theorem remarked_of_begin {s : Service π ν} {i : Nat} {t : Task} {onlyIfAbsent : Bool}
    {next : Admission → Operation t.job.Result} (ht : s.tasks[i]? = some t)
    (hfollows : Follows t) (hrest : t.rest = some (.step (.begin path onlyIfAbsent) next)) :
    Remarked s (.advance i)
      ⟨{ s.world with store := (s.world.store.begin path onlyIfAbsent).2 },
        s.tasks.set i ⟨t.job,
          t.history ++ [⟨.begin path onlyIfAbsent, (s.world.store.begin path onlyIfAbsent).1⟩],
          some (next (s.world.store.begin path onlyIfAbsent).1)⟩⟩ := by
  have hidle : ∀ p, ¬ t.Writes p := fun p => not_writes_of_step hfollows hrest nofun
  have hbegan : t.rest.isSome := by rw [hrest]; rfl
  by_cases hbegun : (s.world.store.begin path onlyIfAbsent).1 = .begun
  · refine .marked i path _ (Store.not_mem_inFlight_of_begun hbegun)
      (congrArg Store.inFlight (Store.begin_of_begun hbegun)) fun j p => ?_
    rw [writing_set ht]
    constructor
    · rintro (⟨rfl, hwrites⟩ | ⟨-, hwriting⟩)
      · rcases writes_snoc hbegan hwrites with ⟨b, he⟩ | ⟨hwrites, -⟩
        · injection he with haction
          injection haction with hpath
          exact .inr ⟨rfl, hpath.symm⟩
        · exact absurd hwrites (hidle p)
      · exact .inl hwriting
    · rintro (⟨u, hu, hwrites⟩ | ⟨rfl, rfl⟩)
      · refine .inr ⟨?_, u, hu, hwrites⟩
        rintro rfl
        obtain rfl : t = u := Option.some.inj (ht.symm.trans hu)
        exact hidle p hwrites
      · refine .inl ⟨rfl, rfl, t.history, onlyIfAbsent, [], ?_, fun _ => List.not_mem_nil⟩
        rw [hbegun]
  · refine .kept _ _ (congrArg Store.inFlight (Store.begin_of_refused hbegun)) ?_
    refine writing_set_of_idle ht _ hidle fun p hwrites => ?_
    rcases writes_snoc hbegan hwrites with ⟨b, he⟩ | ⟨hwrites, -⟩
    · injection he with haction hanswer
      exact hbegun hanswer
    · exact hidle p hwrites

theorem remarked_of_unmarked {s : Service π ν} {i : Nat} {t : Task} {action : Action}
    {next : action.Answer → Operation t.job.Result} (hunmarked : action.Unmarked)
    (ht : s.tasks[i]? = some t) (hfollows : Follows t)
    (hrest : t.rest = some (.step action next)) :
    Remarked s (.advance i)
      ⟨(action.perform out s.world).2,
        s.tasks.set i ⟨t.job, t.history ++ [⟨action, (action.perform out s.world).1⟩],
          some (next (action.perform out s.world).1)⟩⟩ := by
  have hidle : ∀ p, ¬ t.Writes p := fun p => by
    refine not_writes_of_step hfollows hrest ?_
    rintro upload rfl
    exact hunmarked
  refine .kept _ _ (Action.inFlight_perform hunmarked out s.world) ?_
  refine writing_set_of_idle ht _ hidle fun p hwrites => ?_
  rcases writes_snoc (by rw [hrest]; rfl) hwrites with ⟨b, he⟩ | ⟨hwrites, -⟩
  · injection he with haction
    subst haction
    exact hunmarked
  · exact hidle p hwrites

theorem inFlight_finishWrite (upload : Option Upload) (w : World π ν) :
    (Action.finishWrite out path upload w).store.inFlight = w.store.inFlight.erase path := by
  cases upload with
  | none => rfl
  | some u => rfl

/-- An operation that is not about to end a write can be abandoned to no effect. -/
theorem abandon_of_not_finish {α : Type} {op : Operation α} (w : World π ν)
    (h : ∀ path upload next, op ≠ .step (.finish path upload) next) : op.abandon out w = w := by
  cases op with
  | done => rfl
  | step action next =>
    cases action with
    | finish path upload => exact absurd rfl (h path upload next)
    | _ => rfl

/-- What a move does to the marks, where each task has come to where it is by its job. -/
theorem remarks (out : Surroundings π ν) {s : Service π ν}
    (hfollows : ∀ t ∈ s.tasks, Follows t) (m : Move) : Remarked s m (s.move out m) := by
  have hmoved : Moved out s m (s.move out m) := s.moved m
  generalize s.move out m = s' at hmoved ⊢
  cases hmoved with
  | started job => exact remarked_of_start s job
  | unmoved m => exact .kept _ _ rfl fun _ _ => Iff.rfl
  | advanced i t action next ht hrest =>
    have hfollows := hfollows t (List.mem_of_getElem? ht)
    cases action with
    | begin path onlyIfAbsent => exact remarked_of_begin ht hfollows hrest
    | finish path upload =>
      refine remarked_of_end (.inl rfl) ht hfollows hrest (fun p hwrites => ?_)
        (inFlight_finishWrite upload s.world)
      rcases writes_snoc (by rw [hrest]; rfl) hwrites with ⟨b, he⟩ | ⟨hwrites, hne⟩
      · injection he with haction
        exact nomatch haction
      · obtain ⟨upload', next', hrest'⟩ := finish_of_writes hfollows hwrites
        have hstep := Option.some.inj (hrest.symm.trans hrest')
        injection hstep with haction
        injection haction with hpath hupload
        exact hne upload (by rw [hpath]; rfl)
    | _ => exact remarked_of_unmarked trivial ht hfollows hrest
  | dropped i t op ht hrest =>
    have hfollows := hfollows t (List.mem_of_getElem? ht)
    have hdropped : ∀ p, ¬ Task.Writes ⟨t.job, t.history, none⟩ p := fun p h => nomatch h.1
    by_cases hwrites : ∃ path, t.Writes path
    · obtain ⟨path, hwrites⟩ := hwrites
      obtain ⟨upload, next, hrest'⟩ := finish_of_writes hfollows hwrites
      obtain rfl := Option.some.inj (hrest.symm.trans hrest')
      exact remarked_of_end (.inr rfl) ht hfollows hrest hdropped rfl
    · rw [not_exists] at hwrites
      rw [abandon_of_not_finish]
      · exact .kept _ _ rfl (writing_set_of_idle ht _ hwrites hdropped)
      · rintro path upload next rfl
        exact hwrites path (writes_of_finish hfollows hrest)

/-! ## Runs -/

/-- The marks are those of the writes under way, each path once, and each write has its own. -/
structure Owned (s : Service π ν) : Prop where
  nodup : s.world.store.inFlight.Nodup
  mem_iff : ∀ path, path ∈ s.world.store.inFlight ↔ ∃ i, s.Writing i path
  unique : ∀ i j path, s.Writing i path → s.Writing j path → i = j

theorem Owned.move {s s' : Service π ν} {m : Move} (h : Owned s) (hmove : Remarked s m s') :
    Owned s' := by
  cases hmove with
  | kept _ _ hmarks hwriting =>
    refine ⟨hmarks ▸ h.nodup, fun path => ?_, fun i j path hi hj => ?_⟩
    · rw [hmarks, h.mem_iff]
      exact exists_congr fun i => (hwriting i path).symm
    · exact h.unique i j path ((hwriting i path).1 hi) ((hwriting j path).1 hj)
  | marked i path _ hfree hmarks hwriting =>
    have hnew : ∀ j, ¬ s.Writing j path := fun j hj => hfree ((h.mem_iff path).2 ⟨j, hj⟩)
    refine ⟨hmarks ▸ List.nodup_cons.2 ⟨hfree, h.nodup⟩, fun p => ?_, fun a b p ha hb => ?_⟩
    · rw [hmarks, List.mem_cons, h.mem_iff]
      constructor
      · rintro (rfl | ⟨j, hj⟩)
        · exact ⟨i, (hwriting i p).2 (.inr ⟨rfl, rfl⟩)⟩
        · exact ⟨j, (hwriting j p).2 (.inl hj)⟩
      · rintro ⟨j, hj⟩
        rcases (hwriting j p).1 hj with hj | ⟨-, rfl⟩
        · exact .inr ⟨j, hj⟩
        · exact .inl rfl
    · rcases (hwriting a p).1 ha with ha | ⟨rfl, rfl⟩
      · rcases (hwriting b p).1 hb with hb | ⟨rfl, rfl⟩
        · exact h.unique a b p ha hb
        · exact absurd ha (hnew a)
      · rcases (hwriting b _).1 hb with hb | ⟨rfl, -⟩
        · exact absurd hb (hnew b)
        · rfl
  | cleared _ i path _ _ howner honly hmarks hwriting =>
    refine ⟨hmarks ▸ h.nodup.erase path, fun p => ?_, fun a b p ha hb => ?_⟩
    · rw [hmarks, h.nodup.mem_erase_iff, h.mem_iff]
      constructor
      · rintro ⟨hne, j, hj⟩
        refine ⟨j, (hwriting j p).2 ⟨?_, hj⟩⟩
        rintro rfl
        exact hne (honly p hj)
      · rintro ⟨j, hj⟩
        obtain ⟨hne, hj⟩ := (hwriting j p).1 hj
        refine ⟨?_, j, hj⟩
        rintro rfl
        exact hne (h.unique j i p hj howner)
    · exact h.unique a b p ((hwriting a p).1 ha).2 ((hwriting b p).1 hb).2

theorem run_owned (out : Surroundings π ν) {w : World π ν} (hidle : w.store.inFlight = [])
    (moves : List Move) : Owned ((idle w).run out moves) := by
  refine run_induction ⟨?_, fun path => ?_, ?_⟩ fun before m _ _ h => ?_
  · exact hidle ▸ List.nodup_nil
  · rw [show (idle w).world.store.inFlight = [] from hidle]
    exact iff_of_false List.not_mem_nil fun ⟨_, _, ht, _⟩ => nomatch ht
  · rintro i j path ⟨_, ht, _⟩
    exact nomatch ht
  · exact h.move (remarks out (run_follows before w) m)

/-- The marks of a service are owned by its writes, now and with its next move. -/
structure MarksOwned (out : Surroundings π ν) (s : Service π ν) : Prop extends Owned s where
  /-- Only who is writing a path takes its mark away, by its next step or by being dropped. -/
  removed_by_owner : ∀ m path, path ∈ s.world.store.inFlight →
    path ∉ (s.move out m).world.store.inFlight →
      ∃ i, s.Writing i path ∧ (m = .advance i ∨ m = .drop i)
  /-- To be refused is all that a refused put ever did: it was never the owner of a mark. -/
  refused : ∀ kind hasher hash size body history key,
    .finished (.put kind hasher hash size body) history (.error (.concurrentWrite key)) ∈ s.tasks →
      key = Entry.blobPath kind hasher hash ∧ history = [⟨.begin key (kind = .cas), .busy⟩]
  /-- Where each task that may write is finished or dropped, there are no marks. -/
  cleared : (∀ t ∈ s.tasks, t.job.MayWrite → t.isOver) → s.world.store.inFlight = []
  /-- A path that nobody is writing is nowhere refused as being written. -/
  admits : ∀ path onlyIfAbsent, (∀ i, ¬ s.Writing i path) →
    (s.world.store.begin path onlyIfAbsent).1 ≠ .busy

end Service

/-- The marks after every run: whatever jobs are started, whichever of them makes the next step,
however they fail, and wherever they are dropped. -/
theorem marks_owned (out : Surroundings π ν) (w : World π ν) (moves : List Move)
    (hidle : w.store.inFlight = []) : ((Service.idle w).run out moves).MarksOwned out := by
  have howned := Service.run_owned out hidle moves
  have hfollows : ∀ t ∈ ((Service.idle w).run out moves).tasks, Service.Follows t :=
    Service.run_follows moves w
  have hmark : ∀ {path}, path ∈ ((Service.idle w).run out moves).world.store.inFlight →
      ∃ i, ((Service.idle w).run out moves).Writing i path := fun h => (howned.mem_iff _).1 h
  refine ⟨howned, fun m path hmem hgone => ?_, ?_, fun hover => ?_, fun path b hfree hbusy => ?_⟩
  · cases Service.remarks out hfollows m with
    | kept _ _ hmarks => exact absurd (hmarks ▸ hmem) hgone
    | marked i p _ _ hmarks => exact absurd (hmarks ▸ List.mem_cons_of_mem _ hmem) hgone
    | cleared _ i p _ hm howner _ hmarks =>
      by_cases hp : path = p
      · exact ⟨i, hp ▸ howner, hm⟩
      · exact absurd (hmarks ▸ (List.mem_erase_of_ne hp).2 hmem) hgone
  · intro kind hasher hash size body history key hmem
    have hstored : Cache.Stored kind hasher hash size body history _ :=
      Cache.put_leads.1 (Service.run_leads hmem)
    obtain ⟨rfl, -, hhistory⟩ := Cache.busy_of_concurrentWrite hstored
    exact ⟨rfl, hhistory⟩
  · refine List.eq_nil_iff_forall_not_mem.2 fun path hmem => ?_
    obtain ⟨i, t, ht, hwrites⟩ := hmark hmem
    have htask := List.mem_of_getElem? ht
    obtain ⟨upload, next, hrest⟩ := Service.finish_of_writes (hfollows t htask) hwrites
    have hmay := Service.mayWrite_of_writes (hfollows t htask) hwrites
    exact nomatch (hover t htask hmay).symm.trans (Task.not_isOver hrest)
  · obtain ⟨i, hi⟩ := hmark (Store.mem_inFlight_of_busy hbusy)
    exact hfree i hi

/-- Of two puts of one entry, the second is refused and leaves the mark to the first, which is
dropped and leaves none. -/
theorem marks_owned_of_dropped_put :
    let h : Hasher := .ofAlgorithm .sha256 .sha256
    let w : World Proxy.Recording Unit := ⟨.empty, .empty, (), []⟩
    let out : Surroundings Proxy.Recording Unit := ⟨.recording true, .down⟩
    let refused : List Move :=
      [.start (.put .raw h "k" 1 (.ofBytes [49])), .advance 0,
        .start (.put .raw h "k" 1 (.ofBytes [50])), .advance 1]
    w.store.inFlight = [] ∧
    ((Service.idle w).run out refused).world.store.inFlight = [Entry.blobPath .raw h "k"] ∧
    ((Service.idle w).run out refused).MarksOwned out ∧
    ((Service.idle w).run out (refused ++ [.drop 0])).world.store.inFlight = [] ∧
    ((Service.idle w).run out (refused ++ [.drop 0])).MarksOwned out := by
  intro h w out refused
  exact ⟨rfl, by decide +kernel, marks_owned out w _ rfl, by decide +kernel,
    marks_owned out w _ rfl⟩

end AssetCache
