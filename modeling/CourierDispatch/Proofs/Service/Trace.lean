import CourierDispatch.Proofs.Service.Turn

/-!
# The trace of a process

The history of a world, cut down to one process, is a path of the job that the process began with
(`Traced`). Every move keeps this (`Traced.move`), so a rule that the jobs of the service keep is kept
by every process in every run. A move is silent, or it is a step in which one process is given a reply
(`Traced.noted`); what the process had asked for is then what its path allows.
-/

namespace CourierDispatch

def Event.exchange (x : Event) : Exchange := ⟨x.effect, x.reply⟩

/-- The exchanges of a process in a history. -/
def traceOf (history : List Event) (pid : Nat) : List Exchange :=
  (history.filter (·.process = pid)).map Event.exchange

theorem traceOf_append (later earlier : List Event) (pid : Nat) :
    traceOf (later ++ earlier) pid = traceOf later pid ++ traceOf earlier pid := by
  simp [traceOf]

@[simp] theorem traceOf_nil (pid : Nat) : traceOf [] pid = [] := rfl

@[simp] theorem traceOf_cons (x : Event) (history : List Event) (pid : Nat) :
    traceOf (x :: history) pid =
      if x.process = pid then x.exchange :: traceOf history pid else traceOf history pid := by
  by_cases h : x.process = pid <;> simp [traceOf, h]

theorem mem_traceOf {history : List Event} {pid : Nat} {x : Exchange} :
    x ∈ traceOf history pid ↔ ∃ y ∈ history, y.process = pid ∧ y.exchange = x := by
  simp [traceOf, and_assoc]

/-- Where a process was given a reply, the history divides as its trace does. -/
theorem split_of_traceOf {history : List Event} {pid : Nat} {newer older : List Exchange}
    {x : Exchange} (split : traceOf history pid = newer ++ x :: older) :
    ∃ later y earlier, history = later ++ y :: earlier ∧ y.process = pid ∧ y.exchange = x ∧
      traceOf later pid = newer ∧ traceOf earlier pid = older := by
  induction history generalizing newer with
  | nil => simp at split
  | cons y history ih =>
    rw [traceOf_cons] at split
    split at split
    · next own =>
      cases newer with
      | nil =>
        obtain ⟨rfl, rfl⟩ := List.cons.inj split
        exact ⟨[], y, history, rfl, own, rfl, rfl, rfl⟩
      | cons z newer =>
        obtain ⟨rfl, behind⟩ := List.cons.inj split
        obtain ⟨later, x, earlier, rfl, own', exchange, rfl, rfl⟩ := ih behind
        exact ⟨y :: later, x, earlier, rfl, own', exchange, by simp [own], rfl⟩
    · next other =>
      obtain ⟨later, x, earlier, rfl, own, exchange, rfl, rfl⟩ := ih split
      exact ⟨y :: later, x, earlier, rfl, own, exchange, by simp [other], rfl⟩

/-- Where a process has got to: the job it stands at, or the one at which it broke down. -/
def Progress.Reached : Progress → Job Result → Prop
  | broken, j => j.Fragile
  | waiting _ e next, j => j = .act e next ∧ e.waits
  | p, j => p.At j

theorem Progress.At.reached {p : Progress} {j : Job Result} (h : p.At j)
    (waits : ∀ wake e next, p = .waiting wake e next → e.waits) : p.Reached j := by
  cases p with
  | broken => exact h.elim
  | waiting wake e next => exact ⟨h, waits wake e next rfl⟩
  | _ => exact h

theorem Progress.At.same {p : Progress} {j j' : Job Result} (h : p.At j) (h' : p.At j') :
    j' = j := by
  cases p with
  | broken => exact h.elim
  | _ => exact h'.trans h.symm

theorem Progress.At.unique {p : Progress} {j j' : Job Result} (h : p.At j) (h' : p.Reached j') :
    j' = j := by
  cases p with
  | broken => exact h.elim
  | waiting => exact h'.1.trans h.symm
  | _ => exact h'.trans h.symm

namespace World

variable {calls : Call → Prop} {w w' : World}

/-- The exchanges of a process so far, the latest first. -/
def trace (w : World) (pid : Nat) : List Exchange := traceOf w.history pid

/-- The job that a process for some task begins with. -/
inductive Origin (calls : Call → Prop) (c : Config) : Task → Job Result → Prop
  | call {call : Call} (allowed : calls call) :
      Origin calls c .call (Result.answer <$> call.job c)
  | fare (trip courier : Uuid) : Origin calls c (.fare trip courier) (fareJob c trip courier)
  | run (trip : Uuid) (pickup : GeoPoint) : Origin calls c (.run trip) (runJob c trip pickup)

/-- Every process has come from the job it began with along its trace. -/
structure Traced (calls : Call → Prop) (w : World) : Prop where
  path : ∀ pid p, w.processes[pid]? = some p → ∃ start job, Origin calls w.config p.task start ∧
    start.Leads (w.trace pid) job ∧ p.progress.Reached job
  known : ∀ x ∈ w.history, x.process < w.processes.length

theorem Traced.trace_eq_nil (h : w.Traced calls) {pid : Nat} (new : w.processes.length ≤ pid) :
    w.trace pid = [] := by
  refine List.eq_nil_iff_forall_not_mem.2 fun x member => ?_
  obtain ⟨y, noted, same, -⟩ := mem_traceOf.1 member
  have := h.known y noted
  omega

theorem eq_of_new? {config : Config} {around : Surroundings}
    (h : World.new? config around = some w) :
    ∃ bus, w = ⟨config, around, .empty, .empty, bus, [], .empty, [], 0, 0, 0, 0, [], []⟩ := by
  simp only [new?, Option.bind_eq_bind, Option.bind_eq_some_iff] at h
  obtain ⟨bus, -, same⟩ := h
  exact ⟨bus, (Option.some.inj same).symm⟩

theorem traced_new {config : Config} {around : Surroundings}
    (h : World.new? config around = some w) : w.Traced calls := by
  obtain ⟨bus, rfl⟩ := eq_of_new? h
  exact ⟨by simp, by simp⟩

theorem Origin.of_spawned {c : Config} {p : Process} (h : Spawned c p) :
    ∃ start, Origin calls c p.task start ∧ p.progress = .ready start := by
  cases h with
  | fare trip courier => exact ⟨_, .fare trip courier, rfl⟩
  | run trip pickup => exact ⟨_, .run trip pickup, rfl⟩

/-- New processes stand at the job they begin with. -/
theorem Traced.append (h : w.Traced calls) {new : List Process} (config : w'.config = w.config)
    (history : w'.history = w.history) (processes : w'.processes = w.processes ++ new)
    (fresh : ∀ p ∈ new, ∃ start, Origin calls w.config p.task start ∧
      p.progress = .ready start) : w'.Traced calls where
  path pid p found := by
    rw [processes] at found
    rw [config, trace, history]
    by_cases old : pid < w.processes.length
    · rw [List.getElem?_append_left old] at found
      exact h.path pid p found
    · rw [List.getElem?_append_right (by omega)] at found
      obtain ⟨start, origin, ready⟩ := fresh p (List.mem_of_getElem? found)
      refine ⟨start, start, origin, ?_, by rw [ready]; exact rfl⟩
      rw [show traceOf w.history pid = [] from h.trace_eq_nil (by omega)]
      exact .here
  known x noted := by
    rw [processes, List.length_append]
    have := h.known x (history ▸ noted)
    omega

theorem getElem?_setProgress (w : World) (pid q : Nat) (p : Progress) :
    (w.setProgress pid p).processes[q]? =
      if pid = q then (w.processes[q]?).map ({ · with progress := p }) else w.processes[q]? := by
  simp only [setProgress, List.getElem?_modify]
  split <;> simp

/-- A process that gets on without an answer. -/
theorem Traced.setProgress (h : w.Traced calls) {pid : Nat} {task : Task} {p p' : Progress}
    (found : w.processes[pid]? = some ⟨task, p⟩) (reached : ∀ job, p.Reached job → p'.Reached job) :
    (w.setProgress pid p').Traced calls where
  path q process at_ := by
    rw [getElem?_setProgress] at at_
    split at at_
    · next same =>
      subst same
      rw [found] at at_
      cases at_
      obtain ⟨start, job, origin, path, stands⟩ := h.path pid _ found
      exact ⟨start, job, origin, path, reached job stands⟩
    · exact h.path q process at_
  known x noted := by
    have := h.known x noted
    simpa [World.setProgress] using this

/-! ## Steps that are noted -/

/-- A process is about to have an effect answered. -/
def Asks (w : World) (pid : Nat) (e : Effect) : Prop :=
  ∃ task next, w.processes[pid]? = some ⟨task, .ready (.act e next)⟩

/-- A step in which a process was given a reply: how the process had come to ask, and what the
reply changed. -/
structure Noted (calls : Call → Prop) (w : World) (pid : Nat) (v : Verdict) (e : Effect)
    (r : e.Reply) (w' : World) : Prop where
  asked : ∃ task p start next, w.processes[pid]? = some ⟨task, p⟩ ∧ p.At (.act e next) ∧
    Origin calls w.config task start ∧ start.Leads (w.trace pid) (.act e next) ∧
    w'.processes[pid]? = some ⟨task, .ready (next r)⟩
  others : ∀ q p, q ≠ pid → w'.processes[q]? = some p →
    w.processes[q]? = some p ∨ w.processes.length ≤ q
  history : w'.history = ⟨w.now, pid, e, r⟩ :: w.history
  replied : ∃ used, (used = v ∧ w.Asks pid e ∨ used = .proceed) ∧ Replied w used e r w'

/-- Nothing was noted, no record has changed, and no process stands at another job than before. -/
structure Silent (w w' : World) : Prop where
  config : w'.config = w.config
  around : w'.around = w.around
  store : w'.store = w.store
  history : w'.history = w.history
  drawn : w'.drawn = w.drawn
  jobs : ∀ q p', w'.processes[q]? = some p' →
    (∃ p, w.processes[q]? = some p ∧ ∀ job, p'.progress.At job → p.progress.At job) ∨
      w.processes.length ≤ q

theorem Silent.of_same (config : w'.config = w.config) (around : w'.around = w.around)
    (store : w'.store = w.store) (history : w'.history = w.history) (drawn : w'.drawn = w.drawn)
    (processes : w'.processes = w.processes) : Silent w w' :=
  ⟨config, around, store, history, drawn,
    fun _ p' at_ => .inl ⟨p', processes ▸ at_, fun _ h => h⟩⟩

theorem silent_setProgress {pid : Nat} {task : Task} {p p' : Progress}
    (found : w.processes[pid]? = some ⟨task, p⟩) (same : ∀ job, p'.At job → p.At job) :
    Silent w (w.setProgress pid p') := by
  refine ⟨rfl, rfl, rfl, rfl, rfl, fun q process at_ => .inl ?_⟩
  rw [getElem?_setProgress] at at_
  split at at_
  · next this =>
    subst this
    rw [found] at at_
    cases at_
    exact ⟨_, found, same⟩
  · exact ⟨process, at_, fun _ h => h⟩

theorem silent_breakDown {pid : Nat} {task : Task} {p : Progress}
    (found : w.processes[pid]? = some ⟨task, p⟩) : Silent w (w.breakDown pid) := by
  have broken : Silent w (w.setProgress pid .broken) :=
    silent_setProgress found fun _ h => h.elim
  unfold breakDown
  split <;> exact ⟨rfl, rfl, rfl, rfl, rfl, broken.jobs⟩

/-- A move is silent, or it is a step with a reply. -/
theorem Traced.noted (h : w.Traced calls) (m : Move) :
    Silent w (w.move m) ∨
      ∃ pid v e r, m = .step pid v ∧ Noted calls w pid v e r (w.move m) := by
  cases m with
  | enter c =>
    refine .inl ⟨rfl, rfl, rfl, rfl, rfl, fun q p' at_ => ?_⟩
    by_cases old : q < w.processes.length
    · rw [show (w.move (.enter c)).processes = w.processes ++ _ from rfl,
        List.getElem?_append_left old] at at_
      exact .inl ⟨p', at_, fun _ h => h⟩
    · exact .inr (by omega)
  | pass => exact .inl (.of_same rfl rfl rfl rfl rfl rfl)
  | step pid v =>
    have turn := turn_step w pid v
    simp only [move]
    generalize w.step pid v = after at turn ⊢
    cases turn with
    | idle => exact .inl (.of_same rfl rfl rfl rfl rfl rfl)
    | turned found before after waits =>
      exact .inl (silent_setProgress found fun _ at_ =>
        (after.unique (at_.reached waits)).symm ▸ before)
    | broke found => exact .inl (silent_breakDown found)
    | @answered task p e next used r w' found before replied verdict =>
      obtain ⟨reply, ⟨new, processes, fresh⟩, history⟩ := replied_of_answer replied
      obtain ⟨start, job, origin, path, reached⟩ := h.path pid _ found
      cases before.unique reached
      obtain ⟨config, around, store, admitted, drawn⟩ := reply
      have inside : pid < w.processes.length := (List.getElem?_eq_some_iff.1 found).1
      refine .inr ⟨pid, v, e, r, rfl, ⟨task, p, start, next, found, before, origin, path, ?_⟩, ?_,
        history, used, ?_, config, around, store, admitted, drawn⟩
      · rw [getElem?_setProgress, if_pos rfl, processes, List.getElem?_append_left inside, found]
        rfl
      · intro q process other at_
        rw [getElem?_setProgress, if_neg (Ne.symm other), processes] at at_
        by_cases old : q < w.processes.length
        · rw [List.getElem?_append_left old] at at_
          exact .inl at_
        · exact .inr (by omega)
      · rcases verdict with ⟨rfl, rfl⟩ | rfl
        · exact .inl ⟨rfl, task, next, found⟩
        · exact .inr rfl

theorem trace_noted {pid : Nat} {v : Verdict} {e : Effect} {r : e.Reply}
    (h : Noted calls w pid v e r w') (q : Nat) :
    w'.trace q = if pid = q then ⟨e, r⟩ :: w.trace q else w.trace q := by
  rw [trace, h.history, traceOf_cons]
  rfl

/-- A process that is given a reply goes on along its path. -/
theorem Traced.answered (h : w.Traced calls) {pid : Nat} {task : Task} {p : Progress} {e : Effect}
    {next : e.Reply → Job Result} {used : Verdict} {r : e.Reply}
    (found : w.processes[pid]? = some ⟨task, p⟩) (before : p.At (.act e next))
    (replied : w.answer pid used e = some (r, w')) :
    (w'.setProgress pid (.ready (next r))).Traced calls := by
  obtain ⟨reply, ⟨new, processes, fresh⟩, history⟩ := replied_of_answer replied
  have inside : pid < w.processes.length := (List.getElem?_eq_some_iff.1 found).1
  refine ⟨fun q process at_ => ?_, fun x noted => ?_⟩
  · rw [getElem?_setProgress] at at_
    simp only [World.setProgress, trace, reply.config, history, traceOf_cons]
    by_cases same : pid = q
    · subst same
      rw [if_pos rfl, processes, List.getElem?_append_left inside, found] at at_
      cases at_
      obtain ⟨start, job, origin, path, reached⟩ := h.path pid _ found
      cases before.unique reached
      rw [if_pos rfl]
      exact ⟨start, next r, origin, path.next r reply.admitted, rfl⟩
    · rw [if_neg same, processes] at at_
      rw [if_neg same]
      by_cases old : q < w.processes.length
      · rw [List.getElem?_append_left old] at at_
        exact h.path q process at_
      · rw [List.getElem?_append_right (by omega)] at at_
        obtain ⟨start, origin, ready⟩ := Origin.of_spawned (fresh _ (List.mem_of_getElem? at_))
        refine ⟨start, start, origin, ?_, by rw [ready]; exact rfl⟩
        rw [show traceOf w.history q = [] from h.trace_eq_nil (by omega)]
        exact .here
  · simp only [World.setProgress, List.length_modify, processes, List.length_append]
    rcases List.mem_cons.1 (history ▸ noted) with rfl | old
    · exact Nat.lt_of_lt_of_le inside (by omega)
    · have := h.known x old
      omega

/-- Every move keeps the processes on their paths, as long as only such calls come in. -/
theorem Traced.move (h : w.Traced calls) (m : Move) (entering : ∀ c, m = .enter c → calls c) :
    (w.move m).Traced calls := by
  cases m with
  | enter c =>
    refine h.append rfl rfl rfl fun p new => ?_
    cases List.mem_singleton.1 new
    exact ⟨_, .call (entering c rfl), rfl⟩
  | pass => exact ⟨h.path, h.known⟩
  | step pid v =>
    have turn := turn_step w pid v
    simp only [World.move]
    generalize w.step pid v = after at turn ⊢
    cases turn with
    | idle => exact h
    | turned found before after waits =>
      refine h.setProgress found fun job reached => ?_
      rw [before.unique reached]
      exact after.reached waits
    | broke found before breaks =>
      have broken : (w.setProgress pid .broken).Traced calls :=
        h.setProgress found fun job reached => by
          rw [before.unique reached]
          exact breaks.fragile
      unfold breakDown
      split
      · exact ⟨broken.path, broken.known⟩
      · exact broken
    | answered found before replied => exact h.answered found before replied

/-! ## One process on its path -/

/-- A process has come from some job along its trace. -/
def Follows (w : World) (pid : Nat) (start : Job Result) : Prop :=
  ∃ p job, w.processes[pid]? = some p ∧ start.Leads (w.trace pid) job ∧ p.progress.Reached job

variable {pid : Nat} {start : Job Result}

theorem Follows.setProgress (h : w.Follows pid start) {q : Nat} {task : Task} {p p' : Progress}
    (found : w.processes[q]? = some ⟨task, p⟩) (reached : ∀ job, p.Reached job → p'.Reached job) :
    (w.setProgress q p').Follows pid start := by
  obtain ⟨process, job, at_, path, stands⟩ := h
  by_cases same : q = pid
  · subst same
    rw [found] at at_
    cases at_
    refine ⟨⟨task, p'⟩, job, ?_, path, reached job stands⟩
    rw [getElem?_setProgress, if_pos rfl, found]
    rfl
  · exact ⟨process, job, by rwa [getElem?_setProgress, if_neg same], path, stands⟩

/-- A process stays on its path, whatever is done. -/
theorem Follows.move (h : w.Follows pid start) (m : Move) : (w.move m).Follows pid start := by
  obtain ⟨process, job, at_, path, stands⟩ := id h
  cases m with
  | enter c =>
    refine ⟨process, job, ?_, path, stands⟩
    exact (List.getElem?_append_left (List.getElem?_eq_some_iff.1 at_).1).trans at_
  | pass => exact ⟨process, job, at_, path, stands⟩
  | step q v =>
    have turn := turn_step w q v
    simp only [World.move]
    generalize w.step q v = after at turn ⊢
    cases turn with
    | idle => exact h
    | turned found before after waits =>
      refine h.setProgress found fun job reached => ?_
      rw [before.unique reached]
      exact after.reached waits
    | broke found before breaks =>
      obtain ⟨process, job, at_, path, stands⟩ : (w.setProgress q .broken).Follows pid start :=
        h.setProgress found fun job reached => by
          rw [before.unique reached]
          exact breaks.fragile
      unfold breakDown
      split <;> exact ⟨process, job, at_, path, stands⟩
    | @answered task p e next used r w' found before replied verdict =>
      obtain ⟨reply, ⟨new, processes, -⟩, history⟩ := replied_of_answer replied
      have there : w'.processes[pid]? = some process := by
        rw [processes, List.getElem?_append_left (List.getElem?_eq_some_iff.1 at_).1, at_]
      have trace : (w'.setProgress q (.ready (next r))).trace pid =
          if q = pid then ⟨e, r⟩ :: w.trace pid else w.trace pid := by
        rw [World.trace, World.setProgress, history, traceOf_cons]
        rfl
      by_cases same : q = pid
      · subst same
        rw [found] at at_
        cases at_
        cases before.unique stands
        refine ⟨⟨task, .ready (next r)⟩, next r, ?_, ?_, rfl⟩
        · rw [getElem?_setProgress, if_pos rfl, there]
          rfl
        · rw [trace, if_pos rfl]
          exact path.next r reply.admitted
      · refine ⟨process, job, ?_, ?_, stands⟩
        · rw [getElem?_setProgress, if_neg same, there]
        · rwa [trace, if_neg same]

/-- It stays on its path over any run. -/
theorem Follows.run {start : Job Result} (h : w.Follows pid start) (moves : List Move) :
    (w.run moves).Follows pid start :=
  run_induction (·.Follows pid start) (fun _ m holds => holds.move m) w moves h

/-- The process that answers a call is the next one. -/
theorem Traced.follows (h : w.Traced calls) (call : Call) (moves : List Move) :
    ((w.enter call).run moves).Follows w.processes.length (Result.answer <$> call.job w.config) := by
  refine Follows.run ?_ moves
  refine ⟨⟨.call, .ready (Result.answer <$> call.job w.config)⟩, _, ?_, ?_, rfl⟩
  · exact List.getElem?_concat_length
  · rw [show (w.enter call).trace w.processes.length = [] from h.trace_eq_nil (Nat.le_refl _)]
    exact .here

/-- The settings and the surroundings stay what they are. -/
theorem given_move (w : World) (m : Move) :
    (w.move m).config = w.config ∧ (w.move m).around = w.around := by
  cases m with
  | enter | pass => exact ⟨rfl, rfl⟩
  | step q v =>
    have turn := turn_step w q v
    simp only [World.move]
    generalize w.step q v = after at turn ⊢
    cases turn with
    | idle | turned => exact ⟨rfl, rfl⟩
    | broke =>
      unfold breakDown
      split <;> exact ⟨rfl, rfl⟩
    | answered _ _ replied =>
      obtain ⟨reply, -⟩ := replied_of_answer replied
      exact ⟨reply.config, reply.around⟩

theorem config_move (w : World) (m : Move) : (w.move m).config = w.config := (given_move w m).1

theorem given_run (w : World) (moves : List Move) :
    (w.run moves).config = w.config ∧ (w.run moves).around = w.around := by
  induction moves generalizing w with
  | nil => exact ⟨rfl, rfl⟩
  | cons m moves ih =>
    obtain ⟨config, around⟩ := given_move w m
    exact ⟨(ih (w.move m)).1.trans config, (ih (w.move m)).2.trans around⟩

end World

end CourierDispatch
