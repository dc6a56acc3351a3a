import CourierDispatch.Proofs.Search.Course
import CourierDispatch.Proofs.Search.Deeds
import CourierDispatch.Proofs.Service.Records

/-!
# Processes that search

A process for a search keeps to the course of a search (`Traced.search`). What a process has done to
the records is listed by `writes` and `binds`, and in one list by `deeds`.

A search runs in the background, or for a caller that waits for its outcome. What both have in common
is told of a process that has searched since it began (`World.Searches`).
-/

namespace CourierDispatch

/-- How a process that searches ends. -/
def Search.Closes (trip : Uuid) (past : List Exchange) : Option Result → Prop
  | none => Idle trip past
  | some (.outcome o) => Freed trip past (some o)
  | some _ => False

/-- The outcome of a search, in the background or for a caller. -/
def Result.outcome? : Result → Option MatchOutcome
  | .outcome o | .answer (.outcome o) => some o
  | _ => none

namespace World

variable {calls : Call → Prop} {w w' : World} {pid : Nat} {v : Verdict} {e : Effect} {r : e.Reply}
  {trip : Uuid}

/-- The statuses that a process has written, the latest first. -/
def writes (w : World) (pid : Nat) : List (Uuid × TripStatus × Trip) :=
  (w.trace pid).filterMap Exchange.written?

/-- The couriers that a process has bound to trips, the latest first. -/
def binds (w : World) (pid : Nat) : List (Uuid × Uuid) := (w.trace pid).filterMap Exchange.bound?

theorem mem_writes {p : Uuid × TripStatus × Trip} :
    p ∈ w.writes pid ↔ ∃ x ∈ w.trace pid, x.written? = some p := List.mem_filterMap

theorem mem_binds {p : Uuid × Uuid} :
    p ∈ w.binds pid ↔ ∃ x ∈ w.trace pid, x.bound? = some p := List.mem_filterMap

theorem Silent.writes (same : Silent w w') (q : Nat) : w'.writes q = w.writes q := by
  rw [World.writes, World.trace, same.history]
  rfl

theorem Silent.binds (same : Silent w w') (q : Nat) : w'.binds q = w.binds q := by
  rw [World.binds, World.trace, same.history]
  rfl

theorem Noted.writes (step : Noted calls w pid v e r w') (q : Nat) :
    w'.writes q = if pid = q then (Exchange.written? ⟨e, r⟩).toList ++ w.writes q
      else w.writes q := by
  rw [World.writes, trace_noted step]
  split
  · rw [List.filterMap_cons]
    cases Exchange.written? ⟨e, r⟩ <;> rfl
  · rfl

theorem Noted.binds (step : Noted calls w pid v e r w') (q : Nat) :
    w'.binds q = if pid = q then (Exchange.bound? ⟨e, r⟩).toList ++ w.binds q
      else w.binds q := by
  rw [World.binds, trace_noted step]
  split
  · rw [List.filterMap_cons]
    cases Exchange.bound? ⟨e, r⟩ <;> rfl
  · rfl

/-- What a process has done to the records, the first deed first. -/
def deeds (w : World) (pid : Nat) : List Deed := deedsOf (w.trace pid)

theorem Silent.deeds (same : Silent w w') (q : Nat) : w'.deeds q = w.deeds q := by
  rw [World.deeds, World.trace, same.history]
  rfl

theorem Noted.deeds (step : Noted calls w pid v e r w') (q : Nat) :
    w'.deeds q = if pid = q then w.deeds q ++ (Exchange.deed? ⟨e, r⟩).toList else w.deeds q := by
  rw [World.deeds, trace_noted step]
  split
  · rw [deedsOf_cons]
    rfl
  · rfl

theorem mem_deedsOf_traceOf {history : List Event} {d : Deed} :
    d ∈ deedsOf (traceOf history pid) ↔
      ∃ x ∈ history, x.process = pid ∧ x.exchange.deed? = some d := by
  simp only [mem_deedsOf, mem_traceOf]
  constructor
  · rintro ⟨_, ⟨x, noted, own, rfl⟩, deed⟩
    exact ⟨x, noted, own, deed⟩
  · rintro ⟨x, noted, own, deed⟩
    exact ⟨_, ⟨x, noted, own, rfl⟩, deed⟩

/-- What was done is done. -/
theorem mem_deeds_of_split {later earlier : List Event} {x : Event} {d : Deed}
    (split : w.history = later ++ x :: earlier) (done : d ∈ deedsOf (traceOf earlier pid)) :
    d ∈ w.deeds pid := by
  obtain ⟨y, noted, own, deed⟩ := mem_deedsOf_traceOf.1 done
  exact mem_deedsOf_traceOf.2 ⟨y, by rw [split]; simp [noted], own, deed⟩

/-- A courier was bound to a trip at some time. -/
def Bound (w : World) (trip courier : Uuid) : Prop :=
  ∃ x ∈ w.history, x.exchange.deed? = some (.bound trip courier)

theorem bound_of_deeds {courier : Uuid} (bound : .bound trip courier ∈ w.deeds pid) :
    w.Bound trip courier := by
  obtain ⟨x, noted, -, deed⟩ := mem_deedsOf_traceOf.1 bound
  exact ⟨x, noted, deed⟩

/-- A binding leaves the trip to its courier for good. -/
theorem Records.named (h : w.Records) {courier : Uuid} (bound : w.Bound trip courier) :
    ∃ t, w.store.trip? trip = some t ∧ t.courierId = some courier := by
  obtain ⟨x, noted, bound⟩ := bound
  exact h.bound x noted trip courier (Exchange.deed?_eq_bound.1 bound)

/-- A deed that is done in a step is noted in it. -/
theorem Traced.noted_of_deeds (h : w.Traced calls) {d : Deed}
    (done : (w.step pid v).deeds pid = w.deeds pid ++ [d]) :
    ∃ e r, Noted calls w pid v e r (w.step pid v) ∧ Exchange.deed? ⟨e, r⟩ = some d := by
  rcases h.noted (.step pid v) with silent | ⟨_, _, e, r, same, step⟩
  · have none_ := silent.deeds pid
    rw [show w.move (.step pid v) = w.step pid v from rfl, done] at none_
    simp at none_
  · obtain ⟨rfl, rfl⟩ := Move.step.inj same
    have listed := step.deeds pid
    rw [if_pos rfl, show w.move (.step pid v) = w.step pid v from rfl, done] at listed
    refine ⟨e, r, step, ?_⟩
    cases shown : Exchange.deed? ⟨e, r⟩ <;> simp_all

/-- A status that is written in a step was accepted in it. -/
theorem Traced.noted_of_writes (h : w.Traced calls) {p : Uuid × TripStatus × Trip}
    (written : (w.step pid v).writes pid = p :: w.writes pid) :
    ∃ e r, Noted calls w pid v e r (w.step pid v) ∧ Exchange.written? ⟨e, r⟩ = some p := by
  have move : w.move (.step pid v) = w.step pid v := rfl
  rcases h.noted (.step pid v) with silent | ⟨_, _, e, r, same, step⟩
  · have none_ := silent.writes pid
    rw [move, written] at none_
    exact absurd none_ (List.cons_ne_self _ _)
  · obtain ⟨rfl, rfl⟩ := Move.step.inj same
    rw [move] at step
    have listed := step.writes pid
    rw [if_pos rfl, written] at listed
    refine ⟨e, r, step, ?_⟩
    cases shown : Exchange.written? ⟨e, r⟩ with
    | none =>
      rw [shown] at listed
      exact absurd listed (List.cons_ne_self _ _)
    | some p' =>
      rw [shown] at listed
      exact congrArg some (List.cons.inj listed).1.symm

theorem meets_runJob (c : Config) (trip : Uuid) (pickup : GeoPoint) :
    Job.Meets (Search.Asks trip) (Search.Closes trip) [] (runJob c trip pickup) := by
  refine Job.Meets.map ((Search.meets_supervised c.matching c.settleDelay pickup).mono
    (fun _ _ h => h) fun past o ended => ?_)
  cases o <;> exact ended

/-- A process for a search is on the course of a search. -/
theorem Traced.search (h : w.Traced calls)
    (run : (w.processes[pid]?).map Process.task = some (.run trip)) :
    ∃ p start job, w.processes[pid]? = some ⟨.run trip, p⟩ ∧
      Job.Meets (Search.Asks trip) (Search.Closes trip) [] start ∧
      start.Leads (w.trace pid) job ∧ p.Reached job := by
  obtain ⟨⟨task, p⟩, found, rfl⟩ := Option.map_eq_some_iff.1 run
  obtain ⟨start, job, origin, path, reached⟩ := h.path pid _ found
  cases origin with
  | run _ pickup => exact ⟨p, _, job, found, meets_runJob w.config trip pickup, path, reached⟩

/-- What a search was given a reply to, it was allowed to ask for. -/
theorem Noted.search (step : Noted calls w pid v e r w')
    (run : (w.processes[pid]?).map Process.task = some (.run trip)) :
    Search.Asks trip (w.trace pid) e := by
  obtain ⟨task, p, start, next, found, -, origin, path, -⟩ := step.asked
  rw [found] at run
  cases run
  cases origin with
  | run _ pickup => exact ((meets_runJob w.config trip pickup).of_leads path).1

/-- A process that is to write a status can only be ready to. -/
theorem Progress.ready_of_reached {p : Progress} {op : StoreOp}
    {next : (Effect.store op).Reply → Job Result} (h : p.Reached (.act (.store op) next)) :
    p = .ready (.act (.store op) next) := by
  cases p with
  | ready job => exact congrArg _ h.symm
  | waiting wake e next' =>
    obtain ⟨same, waits⟩ := h
    cases same
    cases waits
  | ended => cases h
  | broken => exact h.elim

/-- An operation that the store accepts is noted, and done. -/
theorem step_store {task : Task} {op : StoreOp} {next : (Effect.store op).Reply → Job Result}
    {a : op.Answer} {s' : Store}
    (found : w.processes[pid]? = some ⟨task, .ready (.act (.store op) next)⟩)
    (done : w.store.perform w.stamp op = .ok (a, s')) :
    (w.step pid .proceed).history = ⟨w.now, pid, .store op, .ok a⟩ :: w.history ∧
      (w.step pid .proceed).store = s' := by
  simp only [step, found, Option.map_some, Effect.wake?, proceed, answer, Effect.dictated, respond,
    done]
  exact ⟨rfl, rfl⟩

/-! ## Searches in the background and for callers -/

/-- The job of a search that holds a slot, or of one that a caller waits for. -/
inductive SearchJob (c : Config) (trip : Uuid) (pickup : GeoPoint) : Job Result → Prop
  | run : SearchJob c trip pickup (runJob c trip pickup)
  | call : SearchJob c trip pickup (Result.answer <$> (Call.search trip pickup).job c)

/-- A process that has searched since it began. -/
def Searches (w : World) (pid : Nat) (trip : Uuid) (pickup : GeoPoint) : Prop :=
  ∃ start, SearchJob w.config trip pickup start ∧ w.Follows pid start

/-- The outcome with which a process has ended. -/
def outcome? (w : World) (pid : Nat) : Option MatchOutcome :=
  match (w.processes[pid]?).map Process.progress with
  | some (.ended result) => result.outcome?
  | _ => none

variable {pickup : GeoPoint} {o : MatchOutcome}

theorem outcome?_eq_some : w.outcome? pid = some o ↔
    ∃ task result, w.processes[pid]? = some ⟨task, .ended result⟩ ∧ result.outcome? = some o := by
  unfold outcome?
  cases found : w.processes[pid]? with
  | none => simp
  | some p =>
    obtain ⟨task, progress⟩ := p
    cases progress <;> simp [and_assoc]

/-- A process for a search has searched since it began. -/
theorem Traced.searches (h : w.Traced calls)
    (run : (w.processes[pid]?).map Process.task = some (.run trip)) :
    ∃ pickup, w.Searches pid trip pickup := by
  obtain ⟨⟨task, p⟩, found, rfl⟩ := Option.map_eq_some_iff.1 run
  obtain ⟨start, job, origin, path, reached⟩ := h.path pid _ found
  cases origin with
  | run _ pickup => exact ⟨pickup, _, .run, _, job, found, path, reached⟩

/-- A caller who waits for the outcome of a search has it searched. -/
theorem Traced.searches_of_enter (h : w.Traced calls) (trip : Uuid) (pickup : GeoPoint) :
    (w.enter (.search trip pickup)).Searches w.processes.length trip pickup := by
  refine ⟨_, .call, _, _, List.getElem?_concat_length, ?_, rfl⟩
  rw [show (w.enter (.search trip pickup)).trace w.processes.length = [] from
    h.trace_eq_nil (Nat.le_refl _)]
  exact .here

/-- A process goes on searching, whatever else is done. -/
theorem Searches.run (search : w.Searches pid trip pickup) (moves : List Move) :
    (w.run moves).Searches pid trip pickup := by
  obtain ⟨start, job, follows⟩ := search
  induction moves generalizing w with
  | nil => exact ⟨start, job, follows⟩
  | cons m moves ih => exact ih (config_move w m ▸ job) (follows.move m)

theorem acts_searchJob {c : Config} {start : Job Result} (search : SearchJob c trip pickup start) :
    Job.Meets (Search.Acts trip pickup c.searchRadius)
      (fun past o => ∀ outcome, o.bind Result.outcome? = some outcome →
        Search.Settled trip past outcome) [] start := by
  cases search with
  | run =>
    refine Job.Meets.map ((Search.acts_supervised c.matching c.settleDelay).mono
      (fun _ _ h => h) fun past o ended outcome same => ended outcome ?_)
    cases o <;> exact same
  | call =>
    refine Job.Meets.map (Job.Meets.map ((Search.acts_run c.matching c.settleDelay).mono
      (fun _ _ h => h) fun past o ended outcome same => ended outcome ?_))
    cases o <;> exact same

/-- What a process that searches is about to be given a reply to, a search asks for. -/
theorem Noted.acts (step : Noted calls w pid v e r w') (search : w.Searches pid trip pickup) :
    Search.Acts trip pickup w.config.searchRadius (w.trace pid) e := by
  obtain ⟨start, search, p, job, found, path, reached⟩ := search
  obtain ⟨task, p', _, next, found', at_, -⟩ := step.asked
  rw [found] at found'
  cases found'
  cases at_.unique reached
  exact ((acts_searchJob search).of_leads path).1

/-- What a process that searches was given a reply to, a search asks for. -/
theorem Searches.asked (search : w.Searches pid trip pickup) {later earlier : List Event}
    {x : Event} (split : w.history = later ++ x :: earlier) (own : x.process = pid) :
    Search.Acts trip pickup w.config.searchRadius (traceOf earlier pid) x.effect := by
  obtain ⟨start, search, p, job, -, path, -⟩ := search
  rw [trace, split, traceOf_append, traceOf_cons, if_pos own] at path
  exact (acts_searchJob search).asked path

theorem Searches.doing (search : w.Searches pid trip pickup) :
    Search.Doing trip (w.deeds pid) := by
  obtain ⟨start, search, p, job, -, path, -⟩ := search
  exact Search.doing_of_leads (acts_searchJob search) path

/-- What a search has done is told from its outcome. -/
theorem Searches.settled (search : w.Searches pid trip pickup) (ended : w.outcome? pid = some o) :
    Search.Settled trip (w.trace pid) o := by
  obtain ⟨task, result, found', outcome⟩ := outcome?_eq_some.1 ended
  obtain ⟨start, search, p, job, found, path, reached⟩ := search
  rw [found] at found'
  cases found'
  cases reached
  exact (acts_searchJob search).of_leads path o outcome

end World

end CourierDispatch
