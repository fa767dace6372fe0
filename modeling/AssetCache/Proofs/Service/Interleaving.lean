import AssetCache.Asset.Resolver
import AssetCache.Proofs.Program.Contract
import AssetCache.Proofs.Program.History

/-!
# The service under many clients

Clients ask the service for jobs, and the steps of all jobs under way come in any order.  A run is
a list of moves, each of which starts a job, lets one task make its next step, or drops a task where
it stands.  `Service.run` computes what a run leads to, so that to speak of all lists of moves is to
speak of every number of tasks and every order of their steps.

Results:
1. `Service.run_invariant`: what holds of the world and of each task at first, and is kept by the
   step of one task, holds after every run.
2. `Service.run_keeps`: if every job keeps a contract and the world upholds it, then all that any
   task did was allowed, and every result is as its job keeps.
3. `Service.run_leads`, `Service.Follows.leads_step`: what a finished task did leads its job to its
   result; and what another did goes on with its next step, whatever is answered to that.
4. `Service.moved`, `Service.run_induction`: what one move does, and induction on runs.
-/

namespace AssetCache

theorem Action.nonempty_answer (a : Action) : Nonempty a.Answer := by
  cases a with
  | lookup => exact ⟨(none : Option Bytes)⟩
  | begin => exact ⟨Admission.begun⟩
  | finish => exact ⟨()⟩
  | fill => exact ⟨()⟩
  | askProxy => exact ⟨(none : Option BlobSize)⟩
  | openProxy => exact ⟨(.ok none : GetAnswer)⟩
  | fetch => exact ⟨(.error (.client "no network") : Except FetchError FetchedBody)⟩
  | log => exact ⟨()⟩

/-- A network on which nothing is reached. -/
def Network.down {ν : Type} : Network ν where
  get _ s := (.error (.client "no network"), s)

/-- What a client may ask of the service. -/
inductive Job where
  | put (kind : EntryKind) (hasher : Hasher) (hash : String) (size : Nat) (body : Reader)
  | get (kind : EntryKind) (hasher : Hasher) (hash : String) (size : Option Nat) (offset : Nat)
  | contains (kind : EntryKind) (hasher : Hasher) (hash : String) (size : Option Nat)
  | fetchBlob (resolver : Resolver) (request : Option FetchRequest)

namespace Job

/-- What each job results in. -/
def Result : Job → Type
  | put .. => Except CacheError Unit
  | get .. => GetAnswer
  | contains .. => Option BlobSize
  | fetchBlob .. => Except AssetError FetchBlobResponse

/-- A job in steps. -/
def operation : (job : Job) → Operation job.Result
  | put kind hasher hash size body => Cache.put kind hasher hash size body
  | get kind hasher hash size offset => Cache.get kind hasher hash size offset
  | contains kind hasher hash size => Cache.contains kind hasher hash size
  | fetchBlob resolver request => resolver.fetchBlobOperation request

/-- The hashers that a job may use. -/
def hashers : Job → List Hasher
  | put _ hasher .. => [hasher]
  | get _ hasher .. => [hasher]
  | contains _ hasher .. => [hasher]
  | fetchBlob resolver _ => resolver.registry.hashers

end Job

/-- A job that was started. -/
structure Task where
  job : Job
  /-- What it did so far. -/
  history : List Action.interface.Exchange
  /-- What is left of it; nothing where it was dropped. -/
  rest : Option (Operation job.Result)

namespace Task

variable {π ν : Type}

/-- A task that has done nothing yet. -/
def ofJob (job : Job) : Task := ⟨job, [], some job.operation⟩

/-- A task with its result. -/
def finished (job : Job) (history : List Action.interface.Exchange) (result : job.Result) : Task :=
  ⟨job, history, some (.done result)⟩

/-- Make the next step of a task, if there is one. -/
def advance (out : Surroundings π ν) (t : Task) (w : World π ν) : Task × World π ν :=
  match t with
  | ⟨job, history, some (.step action next)⟩ =>
    let r := Action.perform out action w
    (⟨job, history ++ [⟨action, r.1⟩], some (next r.1)⟩, r.2)
  | t => (t, w)

/-- Drop a task where it stands. -/
def drop (out : Surroundings π ν) (t : Task) (w : World π ν) : Task × World π ν :=
  match t with
  | ⟨job, history, some op⟩ => (⟨job, history, none⟩, op.abandon out w)
  | t => (t, w)

/-- A task that can make a step makes the one that its rest begins with. -/
theorem advance_cases (out : Surroundings π ν) (t : Task) (w : World π ν) :
    t.advance out w = (t, w) ∨
      ∃ action next, t.rest = some (.step action next) ∧
        t.advance out w =
          (⟨t.job, t.history ++ [⟨action, (Action.perform out action w).1⟩],
            some (next (Action.perform out action w).1)⟩, (Action.perform out action w).2) := by
  obtain ⟨job, history, rest⟩ := t
  rcases rest with _ | (result | ⟨action, next⟩)
  · exact .inl rfl
  · exact .inl rfl
  · exact .inr ⟨action, next, rfl, rfl⟩

theorem drop_cases (out : Surroundings π ν) (t : Task) (w : World π ν) :
    t.drop out w = (t, w) ∨
      ∃ op, t.rest = some op ∧ t.drop out w = (⟨t.job, t.history, none⟩, op.abandon out w) := by
  obtain ⟨job, history, rest⟩ := t
  cases rest with
  | none => exact .inl rfl
  | some op => exact .inr ⟨op, rfl, rfl⟩

/-- Whether a task has no step left: it is finished or dropped. -/
def isOver (t : Task) : Bool :=
  match t.rest with
  | some (.step _ _) => false
  | _ => true

theorem not_isOver {t : Task} {action : Action} {next : action.Answer → Operation t.job.Result}
    (hrest : t.rest = some (.step action next)) : t.isOver = false := by
  rw [isOver, hrest]

theorem exists_step {t : Task} (h : t.isOver = false) :
    ∃ action next, t.rest = some (.step action next) := by
  unfold isOver at h
  split at h
  next action next hrest => exact ⟨action, next, hrest⟩
  next => exact nomatch h

/-- The answer of a finished request. -/
def response? : Task → Option (Except AssetError FetchBlobResponse)
  | ⟨.fetchBlob .., _, some (.done result)⟩ => some result
  | _ => none

/-- The result of a finished put. -/
def putResult? : Task → Option (Except CacheError Unit)
  | ⟨.put .., _, some (.done result)⟩ => some result
  | _ => none

/-- The answer of a finished get. -/
def getAnswer? : Task → Option GetAnswer
  | ⟨.get .., _, some (.done answer)⟩ => some answer
  | _ => none

end Task

/-- A move of a run. -/
inductive Move where
  /-- A client asks for a job. -/
  | start (job : Job)
  /-- The task with this number makes a step. -/
  | advance (task : Nat)
  /-- The task with this number is dropped. -/
  | drop (task : Nat)

/-- The job that a move starts. -/
def Move.job? : Move → Option Job
  | .start job => some job
  | .advance _ => none
  | .drop _ => none

/-- The service: its world, and the tasks that it was given, in order. -/
structure Service (π ν : Type) where
  world : World π ν
  tasks : List Task

namespace Service

variable {π ν : Type}

/-- A service that was asked for nothing yet. -/
def idle (w : World π ν) : Service π ν := ⟨w, []⟩

/-- Let the task with a number act on the world. -/
def act (f : Task → World π ν → Task × World π ν) (i : Nat) (s : Service π ν) : Service π ν :=
  match s.tasks[i]? with
  | some t => ⟨(f t s.world).2, s.tasks.set i (f t s.world).1⟩
  | none => s

/-- Make one move.  A move of a task that there is not changes nothing. -/
def move (out : Surroundings π ν) (s : Service π ν) : Move → Service π ν
  | .start job => { s with tasks := s.tasks ++ [.ofJob job] }
  | .advance i => s.act (Task.advance out) i
  | .drop i => s.act (Task.drop out) i

/-- Make all moves of a run. -/
def run (out : Surroundings π ν) (s : Service π ν) (moves : List Move) : Service π ν :=
  moves.foldl (move out) s

/-! ## Invariants of runs -/

/-- A property of the world and one of its tasks. -/
structure Invariant (inv : World π ν → Prop) (each : Task → Prop) (s : Service π ν) : Prop where
  world : inv s.world
  tasks : ∀ t ∈ s.tasks, each t

variable {out : Surroundings π ν} {inv : World π ν → Prop} {each : Task → Prop}

theorem Invariant.act {s : Service π ν} (h : Invariant inv each s)
    {f : Task → World π ν → Task × World π ν}
    (hf : ∀ t w, each t → inv w → each (f t w).1 ∧ inv (f t w).2) (i : Nat) :
    Invariant inv each (s.act f i) := by
  unfold Service.act
  cases hi : s.tasks[i]? with
  | none => exact h
  | some t =>
    obtain ⟨hlt, rfl⟩ := List.getElem?_eq_some_iff.1 hi
    obtain ⟨ht, hw⟩ := hf _ _ (h.tasks _ (List.getElem_mem hlt)) h.world
    refine ⟨hw, fun t' ht' => ?_⟩
    rcases List.mem_or_eq_of_mem_set ht' with hmem | rfl
    · exact h.tasks t' hmem
    · exact ht

theorem run_invariant {moves : List Move} {s : Service π ν} (h : Invariant inv each s)
    (hstart : ∀ job, .start job ∈ moves → each (.ofJob job))
    (hadvance : ∀ t w, each t → inv w → each (t.advance out w).1 ∧ inv (t.advance out w).2)
    (hdrop : ∀ t w, each t → inv w → each (t.drop out w).1 ∧ inv (t.drop out w).2) :
    Invariant inv each (s.run out moves) := by
  induction moves generalizing s with
  | nil => exact h
  | cons m moves ih =>
    refine ih ?_ fun job hjob => hstart job (List.mem_cons_of_mem _ hjob)
    cases m with
    | start job =>
      refine ⟨h.world, fun t ht => ?_⟩
      rcases List.mem_append.1 ht with ht | ht
      · exact h.tasks t ht
      · exact List.mem_singleton.1 ht ▸ hstart job List.mem_cons_self
    | advance i => exact h.act hadvance i
    | drop i => exact h.act hdrop i

/-! ## Which task is whose -/

@[simp] theorem job_advance (t : Task) (w : World π ν) : (t.advance out w).1.job = t.job := by
  rcases t.advance_cases out w with h | ⟨_, _, -, h⟩
  · rw [h]
  · rw [h]

@[simp] theorem job_drop (t : Task) (w : World π ν) : (t.drop out w).1.job = t.job := by
  rcases t.drop_cases out w with h | ⟨_, -, h⟩
  · rw [h]
  · rw [h]

theorem jobs_act {f : Task → World π ν → Task × World π ν}
    (hf : ∀ t w, (f t w).1.job = t.job) (i : Nat) (s : Service π ν) :
    (s.act f i).tasks.map (·.job) = s.tasks.map (·.job) := by
  unfold act
  cases hi : s.tasks[i]? with
  | none => rfl
  | some t =>
    obtain ⟨hlt, rfl⟩ := List.getElem?_eq_some_iff.1 hi
    show (s.tasks.set i (f s.tasks[i] s.world).1).map (·.job) = _
    rw [List.map_set, hf, ← List.map_set, List.set_getElem_self]

/-- The tasks are those of the jobs that were started, in order. -/
theorem jobs_run (moves : List Move) (s : Service π ν) :
    (s.run out moves).tasks.map (·.job) = s.tasks.map (·.job) ++ moves.filterMap Move.job? := by
  induction moves generalizing s with
  | nil => simp [run]
  | cons m moves ih =>
    show ((s.move out m).run out moves).tasks.map (·.job) = _
    rw [ih]
    cases m with
    | start job => simp [move, Task.ofJob, Move.job?]
    | advance i => rw [move, jobs_act job_advance, List.filterMap_cons_none rfl]
    | drop i => rw [move, jobs_act job_drop, List.filterMap_cons_none rfl]

theorem start_mem_of_mem {moves : List Move} {w : World π ν} {t : Task}
    (ht : t ∈ ((idle w).run out moves).tasks) : .start t.job ∈ moves := by
  have hjob : t.job ∈ ((idle w).run out moves).tasks.map (·.job) := List.mem_map_of_mem ht
  rw [jobs_run] at hjob
  obtain ⟨m, hm, hjob⟩ := List.mem_filterMap.1 hjob
  cases m with
  | start job => exact Option.some.inj hjob ▸ hm
  | advance => exact nomatch hjob
  | drop => exact nomatch hjob

/-- The tasks are numbered as their jobs were started. -/
theorem job_of_run {moves : List Move} {w : World π ν} {i : Nat} {job : Job} {t : Task}
    (hjob : (moves.filterMap Move.job?)[i]? = some job)
    (ht : ((idle w).run out moves).tasks[i]? = some t) : t.job = job := by
  have hmap : (((idle w).run out moves).tasks.map (·.job))[i]? = some job := by
    rw [jobs_run]
    exact hjob
  rw [List.getElem?_map, ht] at hmap
  exact Option.some.inj hmap

/-- A request that is answered is a finished task of its own. -/
theorem finished_of_response {moves : List Move} {w : World π ν} {i : Nat} {r : Resolver}
    {request : Option FetchRequest} {result : Except AssetError FetchBlobResponse}
    (hjob : (moves.filterMap Move.job?)[i]? = some (.fetchBlob r request))
    (hresponse : ((idle w).run out moves).tasks[i]?.bind Task.response? = some result) :
    ∃ history,
      .finished (.fetchBlob r request) history result ∈ ((idle w).run out moves).tasks := by
  obtain ⟨t, ht, hresult⟩ := Option.bind_eq_some_iff.1 hresponse
  obtain ⟨job, history, rest⟩ := t
  obtain rfl : job = .fetchBlob r request := job_of_run hjob ht
  refine ⟨history, ?_⟩
  rcases rest with _ | (answer | _)
  · exact nomatch hresult
  · obtain rfl : answer = result := Option.some.inj hresult
    exact List.mem_of_getElem? ht
  · exact nomatch hresult

/-! ## Contracts under interleaving -/

/-- What a task did was allowed and answered as promised, and what is left of it keeps on so. -/
structure Conforms (K : Contract Action.interface) (post : (job : Job) → job.Result → Prop)
    (t : Task) : Prop where
  history : ∀ e ∈ t.history, K.allows e.1 ∧ K.grants e.1 e.2
  rest : ∀ op, t.rest = some op → op.Keeps K (post t.job)

theorem Conforms.result {K : Contract Action.interface} {post : (job : Job) → job.Result → Prop}
    {job : Job} {history : List Action.interface.Exchange} {result : job.Result}
    (h : Conforms K post (.finished job history result)) : post job result :=
  h.rest _ rfl

/-- Tasks of jobs that keep a contract conform to it, in whatever order they make their steps. -/
theorem run_keeps {K : Contract Action.interface} {post : (job : Job) → job.Result → Prop}
    (hup : K.UpheldBy (Action.perform out) inv)
    (hdrop : ∀ {α : Type} (op : Operation α) w, inv w → inv (op.abandon out w))
    {moves : List Move}
    (hjobs : ∀ job, .start job ∈ moves → job.operation.Keeps K (post job))
    {w : World π ν} (hw : inv w) :
    Invariant inv (Conforms K post) ((idle w).run out moves) := by
  refine run_invariant ⟨hw, fun t ht => absurd ht List.not_mem_nil⟩ (fun job hjob => ?_)
    (fun t w ht hw => ?_) fun t w ht hw => ?_
  · exact ⟨fun e he => absurd he List.not_mem_nil,
      fun op hop => Option.some.inj hop ▸ hjobs job hjob⟩
  · rcases t.advance_cases out w with h | ⟨action, next, hrest, h⟩
    · rw [h]
      exact ⟨ht, hw⟩
    · rw [h]
      obtain ⟨hallows, hnext⟩ := ht.rest _ hrest
      obtain ⟨hgrants, hinv⟩ := hup action w hallows hw
      -- The history gets this one step longer, and the rest is what the answer leads on to.
      refine ⟨⟨fun e he => ?_, fun op hop => Option.some.inj hop ▸ hnext _ hgrants⟩, hinv⟩
      rcases List.mem_append.1 he with he | he
      · exact ht.history e he
      · exact List.mem_singleton.1 he ▸ ⟨hallows, hgrants⟩
  · rcases t.drop_cases out w with h | ⟨op, hrest, h⟩
    · rw [h]
      exact ⟨ht, hw⟩
    · rw [h]
      exact ⟨⟨ht.history, fun _ hop => nomatch hop⟩, hdrop op w hw⟩

/-! ## Histories under interleaving -/

/-- Whatever leads on from where a task stands leads, after what it did, its job to the end. -/
def Follows (t : Task) : Prop :=
  ∀ op, t.rest = some op → ∀ more result, op.Leads more result →
    t.job.operation.Leads (t.history ++ more) result

theorem run_follows (moves : List Move) (w : World π ν) :
    ∀ t ∈ ((idle w).run out moves).tasks, Follows t := by
  have hrun : Invariant (fun _ => True) Follows ((idle w).run out moves) := by
    refine run_invariant ⟨trivial, fun t ht => absurd ht List.not_mem_nil⟩ (fun job _ => ?_)
      (fun t w ht _ => ⟨?_, trivial⟩) fun t w ht _ => ⟨?_, trivial⟩
    · exact fun op hop more result hmore => Option.some.inj hop ▸ hmore
    · rcases t.advance_cases out w with h | ⟨action, next, hrest, h⟩
      · rw [h]
        exact ht
      · rw [h]
        intro op hop more result hmore
        obtain rfl := Option.some.inj hop
        show t.job.operation.Leads ((t.history ++ [⟨action, _⟩]) ++ more) result
        rw [List.append_assoc]
        exact ht _ hrest _ _ ⟨_, more, rfl, hmore⟩
    · rcases t.drop_cases out w with h | ⟨op, -, h⟩
      · rw [h]
        exact ht
      · rw [h]
        exact fun _ hop => nomatch hop
  exact hrun.tasks

/-- What a finished task did leads its job to its result. -/
theorem run_leads {moves : List Move} {w : World π ν} {job : Job}
    {history : List Action.interface.Exchange} {result : job.Result}
    (h : .finished job history result ∈ ((idle w).run out moves).tasks) :
    job.operation.Leads history result := by
  have hleads := run_follows moves w _ h _ rfl [] result ⟨rfl, rfl⟩
  rwa [List.append_nil] at hleads

/-- Whatever the answer to the next step of a task is, there are histories that go on with it. -/
theorem Follows.leads_step {t : Task} (h : Follows t) {action : Action}
    {next : action.Answer → Operation t.job.Result} (hrest : t.rest = some (.step action next))
    (answer : action.Answer) :
    ∃ more result, t.job.operation.Leads (t.history ++ ⟨action, answer⟩ :: more) result := by
  obtain ⟨more, result, hmore⟩ :=
    Program.exists_leads (I := Action.interface) Action.nonempty_answer (next answer)
  exact ⟨more, result, h _ hrest _ _ ⟨answer, more, rfl, hmore⟩⟩

/-! ## Moves -/

/-- What a move makes of a service. -/
inductive Moved (out : Surroundings π ν) (s : Service π ν) : Move → Service π ν → Prop
  /-- There is one more task. -/
  | started (job : Job) : Moved out s (.start job) { s with tasks := s.tasks ++ [.ofJob job] }
  /-- There is no such task, or nothing is left of it. -/
  | unmoved (m : Move) : Moved out s m s
  /-- A task makes a step. -/
  | advanced (i : Nat) (t : Task) (action : Action) (next : action.Answer → Operation t.job.Result)
    (ht : s.tasks[i]? = some t) (hrest : t.rest = some (.step action next)) :
    Moved out s (.advance i)
      ⟨(action.perform out s.world).2,
        s.tasks.set i ⟨t.job, t.history ++ [⟨action, (action.perform out s.world).1⟩],
          some (next (action.perform out s.world).1)⟩⟩
  /-- A task is dropped. -/
  | dropped (i : Nat) (t : Task) (op : Operation t.job.Result) (ht : s.tasks[i]? = some t)
    (hrest : t.rest = some op) :
    Moved out s (.drop i) ⟨op.abandon out s.world, s.tasks.set i ⟨t.job, t.history, none⟩⟩

theorem act_of_unchanged {f : Task → World π ν → Task × World π ν} {s : Service π ν} {i : Nat}
    {t : Task} (ht : s.tasks[i]? = some t) (hf : f t s.world = (t, s.world)) : s.act f i = s := by
  unfold act
  obtain ⟨hlt, rfl⟩ := List.getElem?_eq_some_iff.1 ht
  rw [ht]
  dsimp only
  rw [hf, List.set_getElem_self]

theorem move_advance {s : Service π ν} {i : Nat} {t : Task} {action : Action}
    {next : action.Answer → Operation t.job.Result} (ht : s.tasks[i]? = some t)
    (hrest : t.rest = some (.step action next)) :
    s.move out (.advance i) =
      ⟨(action.perform out s.world).2,
        s.tasks.set i ⟨t.job, t.history ++ [⟨action, (action.perform out s.world).1⟩],
          some (next (action.perform out s.world).1)⟩⟩ := by
  show s.act (Task.advance out) i = _
  rw [act, ht]
  dsimp only
  obtain ⟨job, history, _ | (result | ⟨a, n⟩)⟩ := t
  · exact nomatch hrest
  · exact nomatch hrest
  · obtain ⟨rfl, hnext⟩ := Program.step.inj (Option.some.inj hrest)
    obtain rfl := eq_of_heq hnext
    rfl

theorem move_drop {s : Service π ν} {i : Nat} {t : Task} {op : Operation t.job.Result}
    (ht : s.tasks[i]? = some t) (hrest : t.rest = some op) :
    s.move out (.drop i) =
      ⟨op.abandon out s.world, s.tasks.set i ⟨t.job, t.history, none⟩⟩ := by
  show s.act (Task.drop out) i = _
  rw [act, ht]
  dsimp only
  obtain ⟨job, history, _ | op'⟩ := t
  · exact nomatch hrest
  · obtain rfl : op' = op := Option.some.inj hrest
    rfl

theorem moved (s : Service π ν) (m : Move) : Moved out s m (s.move out m) := by
  cases m with
  | start job => exact .started job
  | advance i =>
    cases ht : s.tasks[i]? with
    | none =>
      rw [move, act, ht]
      exact .unmoved _
    | some t =>
      rcases t.advance_cases out s.world with h | ⟨action, next, hrest, -⟩
      · rw [move, act_of_unchanged ht h]
        exact .unmoved _
      · rw [move_advance ht hrest]
        exact .advanced i t action next ht hrest
  | drop i =>
    cases ht : s.tasks[i]? with
    | none =>
      rw [move, act, ht]
      exact .unmoved _
    | some t =>
      rcases t.drop_cases out s.world with h | ⟨op, hrest, -⟩
      · rw [move, act_of_unchanged ht h]
        exact .unmoved _
      · rw [move_drop ht hrest]
        exact .dropped i t op ht hrest

theorem getElem?_move_of_ne {s : Service π ν} {m : Move} {i : Nat} {t : Task}
    (hadvance : m ≠ .advance i) (hdrop : m ≠ .drop i) (ht : s.tasks[i]? = some t) :
    (s.move out m).tasks[i]? = some t := by
  have hmoved : Moved out s m (s.move out m) := s.moved m
  generalize s.move out m = s' at hmoved ⊢
  obtain ⟨hlt, -⟩ := List.getElem?_eq_some_iff.1 ht
  cases hmoved with
  | started job => exact (List.getElem?_append_left hlt).trans ht
  | unmoved => exact ht
  | advanced j =>
    have hj : j ≠ i := fun h => hadvance (h ▸ rfl)
    exact (List.getElem?_set_ne hj).trans ht
  | dropped j =>
    have hj : j ≠ i := fun h => hdrop (h ▸ rfl)
    exact (List.getElem?_set_ne hj).trans ht

/-- A task stays, and goes on from what it did; one that is over stays so. -/
theorem exists_task_move (s : Service π ν) (m : Move) {i : Nat} {t : Task}
    (ht : s.tasks[i]? = some t) :
    ∃ t', (s.move out m).tasks[i]? = some t' ∧ t'.job = t.job ∧ t.history <+: t'.history ∧
      (t.isOver → t'.isOver) := by
  by_cases hm : m = .advance i ∨ m = .drop i
  · have hmoved : Moved out s m (s.move out m) := s.moved m
    generalize s.move out m = s' at hmoved ⊢
    obtain ⟨hlt, -⟩ := List.getElem?_eq_some_iff.1 ht
    cases hmoved with
    | started => simp at hm
    | unmoved => exact ⟨t, ht, rfl, List.prefix_refl _, id⟩
    | advanced j u action next hu hrest =>
      obtain rfl : j = i := by simpa using hm
      obtain rfl : t = u := Option.some.inj (ht.symm.trans hu)
      exact ⟨_, List.getElem?_set_self hlt, rfl, List.prefix_append _ _,
        fun hover => nomatch hover.symm.trans (Task.not_isOver hrest)⟩
    | dropped j u op hu hrest =>
      obtain rfl : j = i := by simpa using hm
      obtain rfl : t = u := Option.some.inj (ht.symm.trans hu)
      exact ⟨_, List.getElem?_set_self hlt, rfl, List.prefix_refl _, fun _ => rfl⟩
  · rw [not_or] at hm
    exact ⟨t, getElem?_move_of_ne hm.1 hm.2 ht, rfl, List.prefix_refl _, id⟩

theorem run_append (s : Service π ν) (moves₁ moves₂ : List Move) :
    s.run out (moves₁ ++ moves₂) = (s.run out moves₁).run out moves₂ :=
  List.foldl_append

/-- What holds at first, and is kept by each move of a run from where the moves before it led,
holds after the run. -/
theorem run_induction {motive : Service π ν → Prop} {s : Service π ν} {moves : List Move}
    (hstart : motive s)
    (hmove : ∀ before m after, moves = before ++ m :: after → motive (s.run out before) →
      motive ((s.run out before).move out m)) :
    motive (s.run out moves) := by
  have hrun : ∀ after before, moves = before ++ after → motive (s.run out before) →
      motive (s.run out moves) := by
    intro after
    induction after with
    | nil =>
      intro before heq h
      rw [heq, List.append_nil]
      exact h
    | cons m after ih =>
      intro before heq h
      refine ih (before ++ [m]) (by rw [heq, List.append_assoc]; rfl) ?_
      rw [run_append]
      exact hmove before m after heq h
  exact hrun moves [] rfl hstart

end Service

end AssetCache
