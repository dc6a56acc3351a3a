import CourierDispatch.Proofs.Bus.Reader
import CourierDispatch.Proofs.Conduct.Composition
import CourierDispatch.Proofs.References

/-!
# What breaks down under accepted settings

The check of the settings looks at their lower ends only. Of the services with accepted settings some
cannot come into being, because the ring of the bus would have too many bytes, and some break down at the
first route that they look up, because the expiry of the entry is beyond the clock of the cache
(`accepted_settings_break_down`). There is no other way to break down (`breaks_down_iff`).

A process breaks down where its job does or where it writes to the cache. Where searches have a tick, no
job of the service breaks down by itself (`Assembled.steady`), so only the writes are left, and a write
breaks down exactly if it is not refused and its expiry cannot be expressed (`Traced.broken_move_iff`).
-/

namespace CourierDispatch

open Job

/-! ## Settings and the bus -/

namespace Config

theorem pos_of_validate {c : Config} (accepted : c.validate = .ok ()) :
    0 < c.matchTick ∧ 0 < c.eventBufferSize := by
  unfold validate at accepted
  split at accepted
  · cases accepted
  · split at accepted
    · cases accepted
    · omega

/-- Settings that are read are accepted. -/
theorem validate_of_ofSettings {settings : Settings} {c : Config}
    (read : ofSettings settings = .ok c) : c.validate = .ok () := by
  have bound {α β : Type} {x : Except DispatchError α} {f : α → Except DispatchError β} {b : β}
      (h : (x >>= f) = .ok b) : ∃ a, f a = .ok b ∧ x = .ok a := by
    cases x with
    | error e => cases h
    | ok a => exact ⟨a, h, rfl⟩
  unfold ofSettings at read
  -- ten settings are read, and then the whole is checked
  iterate 10 obtain ⟨_, read, -⟩ := bound read
  obtain ⟨_, read, valid⟩ := bound read
  cases read
  exact valid

end Config

namespace Bus

/-- There is a bus of some capacity if its ring has a slot, and fewer bytes than half of those that can
be addressed. -/
theorem new?_isSome_iff (capacity : Nat) :
    (new? capacity).isSome ↔ 0 < capacity ∧ capacity ≤ 2 ^ 56 := by
  obtain ⟨e, power⟩ : ∃ e, nextPowerOfTwo capacity = 2 ^ e := ⟨_, rfl⟩
  have bound : nextPowerOfTwo capacity ≤ 2 ^ 56 ↔ capacity ≤ 2 ^ 56 :=
    ⟨Nat.le_trans (le_nextPowerOfTwo capacity), nextPowerOfTwo_le⟩
  have fits : 2 ^ e * slotSize < UInt64.size / 2 ↔ 2 ^ e ≤ 2 ^ 56 := by
    have shift : 2 ^ e * slotSize = 2 ^ (e + 6) := by rw [slotSize, Nat.pow_add]
    rw [shift, show UInt64.size / 2 = 2 ^ 63 from rfl,
      Nat.pow_lt_pow_iff_right Nat.one_lt_two, Nat.pow_le_pow_iff_right Nat.one_lt_two]
    omega
  rw [power] at bound
  simp only [new?, power, fits, bound]
  split <;> simp_all

end Bus

/-! ## Jobs -/

/-- A job that never breaks down by itself. -/
def Job.Steady {α : Type} (j : Job α) : Prop := j.Only (fun _ => True) fun _ => True

namespace Job

variable {α β : Type}

theorem Steady.bind {j : Job α} {f : α → Job β} (first : j.Steady) (second : ∀ a, (f a).Steady) :
    (j >>= f).Steady := Only.bind first fun a _ => second a

theorem Steady.of_attempt {kind : Effect → Prop} {a : Attempt α} (only : Attempt.Only kind a) :
    a.run.Steady := only.mono fun _ _ => trivial

theorem Steady.not_panic {start : Job α} {past : List Exchange} (steady : start.Steady) :
    ¬ start.Leads past .panic := fun path => (steady.of_leads path).1

end Job

theorem Dispatch.steady_createTrip (c : Config) (requester : Uuid) (pickup dropoff : PlaceInput) :
    (createTrip c requester pickup dropoff).run.Steady := by
  have quoted : Attempt.Only (fun _ => True) (quote c pickup dropoff) :=
    (Quote.inquires_make c.routing c.pricer pickup dropoff).mono fun _ _ => trivial
  exact Attempt.only_bind quoted fun _ => Attempt.only_bind (Attempt.only_perform trivial) fun _ =>
    Attempt.only_bind (Attempt.only_store trivial) fun _ =>
      Attempt.only_bind (Attempt.only_perform trivial) fun _ => Attempt.only_pure _

theorem Search.steady_assign (trip courier : Uuid) : (assign trip courier).run.Steady :=
  Attempt.only_bind (Attempt.only_store trivial) fun _ => Attempt.only_perform trivial

/-- Where searches have a tick, no job breaks down by itself. -/
theorem Assembled.steady {α : Type} {c : Config} {j : Job α} (h : Assembled c j)
    (tick : 0 < c.matchTick) : j.Steady := by
  induction h with
  | pure a => trivial
  | panic none_ => omega
  | bind _ _ first second => exact first.bind second
  | perform => exact ⟨trivial, fun _ => trivial⟩
  | report settleDelay trip status => exact .of_attempt (Trip.common_reportStatus settleDelay trip status)
  | trip requester pickup dropoff => exact Dispatch.steady_createTrip c requester pickup dropoff
  | binding trip courier => exact Search.steady_assign trip courier
  | courier n => exact .of_attempt (Http.common_createCourier n)

/-! ## Writes to the cache -/

/-- The clock of the cache can express the expiry of what is kept for so long, and could so far. -/
def World.Expresses (w : World) (ttl : Nat) : Prop :=
  ∀ t ≤ w.now, w.around.cacheClock t + ttl < RouteCache.clockLimit

/-- A write whose expiry could be expressed so far. -/
def Effect.Timely (w : World) : Effect → Prop
  | .cacheSet _ _ ttl => w.Expresses ttl
  | _ => True

/-- If a call writes to the cache by itself, then with an expiry that could be expressed so far. -/
def Call.Timely (w : World) : Call → Prop
  | .cacheSet _ _ ttl => w.Expresses ttl
  | _ => True

namespace World

variable {calls : Call → Prop} {w : World} {pid : Nat}

theorem Origin.steady {c : Config} {task : Task} {job : Job Result} (h : Origin calls c task job)
    (tick : 0 < c.matchTick) : job.Steady := by
  rcases h.assembled with assembled | ⟨trip, courier, rfl, rfl⟩
  · exact assembled.steady tick
  · exact (only_fareJob c trip courier).mono fun _ _ => trivial

/-- Where the expiry of what is looked up can be expressed, it can be in every write of every process. -/
theorem Origin.timely {task : Task} {job : Job Result}
    (h : Origin (·.Timely w) w.config task job) (expressible : w.Expressible) :
    Meets (fun _ e => e.Timely w) (fun _ _ => True) [] job := by
  have kept {past : List Exchange} {e : Effect} (consults : Consults w.config.routing past e) :
      e.Timely w := by
    cases e with
    | cacheSet key way ttl =>
      obtain ⟨on, rfl, -⟩ := consults.keeps key way ttl rfl
      exact expressible on
    | _ => trivial
  have consulting (other : Origin (·.keepsNothing) w.config task job) :
      Meets (fun _ e => e.Timely w) (fun _ _ => True) [] job :=
    (other.consults fun _ => id).mono (fun _ _ => kept) fun _ _ => id
  cases h with
  | @call call timely =>
    by_cases nothing : call.keepsNothing
    · exact consulting (.call nothing)
    · cases call with
      | cacheSet key way ttl => exact ⟨timely, fun r _ => by cases r <;> trivial⟩
      | _ => exact absurd rfl nothing
  | fare trip courier => exact consulting (.fare trip courier)
  | run trip pickup => exact consulting (.run trip pickup)

/-! ## Breakdowns -/

/-- A process has broken down. -/
def Broken (w : World) (pid : Nat) : Prop := ∃ task, w.processes[pid]? = some ⟨task, .broken⟩

/-- In its next step, unless that is refused, a process keeps directions whose expiry the clock of the cache
cannot express. -/
def Overruns (w : World) (pid : Nat) (v : Verdict) : Prop :=
  ∃ task key way ttl next,
    w.processes[pid]? = some ⟨task, .ready (.act (.cacheSet key way ttl) next)⟩ ∧
      (∀ err, v ≠ .refuse err) ∧ RouteCache.clockLimit ≤ w.cacheTime + ttl

/-- Where searches have a tick, only a write to the cache can break down. -/
theorem Traced.overruns_of_breaks (h : w.Traced calls) (tick : 0 < w.config.matchTick) {task : Task}
    {p : Progress} {job : Job Result} (found : w.processes[pid]? = some ⟨task, p⟩)
    (before : p.At job) (breaks : w.Breaks job) : ∃ key way ttl next,
      p = .ready (.act (.cacheSet key way ttl) next) ∧
        RouteCache.clockLimit ≤ w.cacheTime + ttl := by
  obtain ⟨start, job', origin, path, reached⟩ := h.path pid _ found
  cases before.unique reached
  cases job with
  | done r => exact breaks.elim
  | panic => exact absurd path (origin.steady tick).not_panic
  | act e next =>
    cases e with
    | cacheSet key way ttl =>
      refine ⟨key, way, ttl, next, ?_, breaks⟩
      -- a write does not wait
      cases p with
      | ready => exact congrArg Progress.ready before.symm
      | waiting wake e' next' =>
        obtain ⟨same, waits⟩ := reached
        cases same
        cases waits
      | ended => cases before
      | broken => exact before.elim
    | _ => exact breaks.elim

/-- A process that has broken down stays so. -/
theorem Broken.move (h : w.Broken pid) (m : Move) : (w.move m).Broken pid := by
  obtain ⟨task, found⟩ := h
  cases turns : m.turns pid with
  | false =>
    have there := (List.getElem?_eq_some_iff.1 found).1
    exact ⟨task, (getElem?_move w m there turns).trans found⟩
  | true =>
    cases m with
    | step q v =>
      obtain rfl : q = pid := by simpa [Move.turns] using turns
      exact ⟨task, by simp [World.move, step, found]⟩
    | _ => cases turns

/-- A write whose expiry cannot be expressed is a breakdown. -/
theorem Overruns.broken {v : Verdict} (h : w.Overruns pid v) : (w.step pid v).Broken pid := by
  obtain ⟨task, key, way, ttl, next, found, unrefused, late⟩ := h
  have free : (Effect.cacheSet key way ttl).dictated v = none := by
    cases v with
    | refuse err => exact absurd rfl (unrefused err)
    | proceed | absent => rfl
  have out : w.cache.set? w.cacheTime key way ttl = none := if_neg (by omega)
  have unanswered : w.answer pid v (.cacheSet key way ttl) = none := by
    rw [answer, free]
    simp only [respond, out, Option.map_none]
  have broke : w.step pid v = w.breakDown pid := by
    simp only [step, found, Option.map_some, Effect.wake?, proceed, unanswered]
  have set : (w.setProgress pid .broken).Broken pid :=
    ⟨task, by rw [getElem?_setProgress, if_pos rfl, found]; rfl⟩
  rw [broke, breakDown]
  split <;> exact set

/-- A process breaks down in the steps in which it writes an entry whose expiry cannot be expressed. -/
theorem Traced.broken_move_iff (h : w.Traced calls) (tick : 0 < w.config.matchTick) (m : Move) :
    (w.move m).Broken pid ↔ w.Broken pid ∨ ∃ v, m = .step pid v ∧ w.Overruns pid v := by
  constructor
  · rintro ⟨task, found'⟩
    rcases broken_move m found' with broken | ⟨p, job, found, before, breaks⟩
    · exact .inl ⟨task, broken⟩
    · obtain ⟨key, way, ttl, next, rfl, late⟩ := h.overruns_of_breaks tick found before breaks
      cases turns : m.turns pid with
      | false =>
        rw [getElem?_move w m (List.getElem?_eq_some_iff.1 found).1 turns, found] at found'
        cases found'
      | true =>
        cases m with
        | step q v =>
          obtain rfl : q = pid := by simpa [Move.turns] using turns
          refine .inr ⟨v, rfl, task, key, way, ttl, next, found, ?_, late⟩
          -- a refusal would have been the reply
          rintro err rfl
          have refused := step_of_answer (v := .refuse err) found rfl (answer_of_dictated rfl)
          rw [World.move, refused, getElem?_setProgress, if_pos rfl] at found'
          obtain ⟨_, -, same⟩ := Option.map_eq_some_iff.1 found'
          cases same
        | _ => cases turns
  · rintro (broken | ⟨v, rfl, overruns⟩)
    · exact broken.move m
    · exact overruns.broken

/-- A process has broken down if it had before, or in one of the moves. -/
theorem Traced.broken_run_iff (h : w.Traced fun _ => True) (tick : 0 < w.config.matchTick)
    (moves : List Move) (pid : Nat) : (w.run moves).Broken pid ↔ w.Broken pid ∨
      ∃ before v after, moves = before ++ .step pid v :: after ∧ (w.run before).Overruns pid v := by
  induction moves generalizing w with
  | nil => simp
  | cons m moves ih =>
    have next := h.move m fun _ _ => trivial
    rw [run_cons, ih next (by rwa [config_move]), h.broken_move_iff tick m]
    constructor
    · rintro ((broken | ⟨v, rfl, overruns⟩) | ⟨before, v, after, rfl, overruns⟩)
      · exact .inl broken
      · exact .inr ⟨[], v, moves, rfl, overruns⟩
      · exact .inr ⟨m :: before, v, after, rfl, overruns⟩
    · rintro (broken | ⟨before, v, after, split, overruns⟩)
      · exact .inl (.inl broken)
      · cases before with
        | nil =>
          obtain ⟨rfl, rfl⟩ := List.cons.inj split
          exact .inl (.inr ⟨v, rfl, overruns⟩)
        | cons first before =>
          obtain ⟨rfl, rfl⟩ := List.cons.inj split
          exact .inr ⟨before, v, after, rfl, overruns⟩

/-- On the way to a world in which every expiry can be expressed, no process overruns the clock. -/
theorem Traced.not_overruns {last : World} (h : w.Traced (·.Timely last))
    (expressible : last.Expressible) (config : last.config = w.config)
    (around : last.around = w.around) (earlier : w.now ≤ last.now) (v : Verdict) :
    ¬ w.Overruns pid v := by
  rintro ⟨task, key, way, ttl, next, found, -, late⟩
  obtain ⟨start, job, origin, path, reached⟩ := h.path pid _ found
  cases reached
  rw [← config] at origin
  have timely : last.Expresses ttl := ((origin.timely expressible).of_leads path).1
  have soon := timely w.now earlier
  rw [around] at soon
  rw [cacheTime] at late
  omega

/-! ## Services with accepted settings -/

theorem isSome_new? (c : Config) (around : Surroundings) :
    (World.new? c around).isSome = (Bus.new? c.eventBufferSize).isSome := by
  simp only [World.new?, Option.bind_eq_bind]
  cases Bus.new? c.eventBufferSize <;> rfl

theorem not_broken_new {c : Config} {around : Surroundings} (new : World.new? c around = some w) :
    ¬ w.Broken pid := by
  obtain ⟨bus, rfl⟩ := eq_of_new? new
  rintro ⟨task, found⟩
  cases found

theorem now_run (w : World) (moves : List Move) : w.now ≤ (w.run moves).now :=
  run_induction (fun w' => w.now ≤ w'.now) (fun w' m earlier => Nat.le_trans earlier (now_move w' m)) w
    moves (Nat.le_refl _)

theorem obeys_enters {moves : List Move} (entering : ∀ call, .enter call ∈ moves → calls call) :
    w.Obeys (Enters calls) moves := by
  induction moves generalizing w with
  | nil => trivial
  | cons m moves ih =>
    refine ⟨?_, ih fun call member => entering call (List.mem_cons_of_mem m member)⟩
    rintro call rfl
    exact entering call List.mem_cons_self

/-- Settings that are read are accepted. A service with accepted settings comes into being unless the ring
of its bus has too many bytes. From then on a process breaks down in the steps in which it keeps directions
whose expiry the clock of the cache cannot express, and in no other: neither the bus nor the tick of a search
is a reason. So nothing breaks down where every expiry can be expressed. -/
theorem breaks_down_iff (c : Config) (around : Surroundings) :
    (∀ settings, Config.ofSettings settings = .ok c → c.validate = .ok ()) ∧
    (c.validate = .ok () →
      ((World.new? c around).isSome ↔ c.eventBufferSize ≤ 2 ^ 56) ∧
      ∀ w, World.new? c around = some w → ∀ moves,
        (∀ pid, (w.run moves).Broken pid ↔ ∃ before v after,
          moves = before ++ .step pid v :: after ∧ (w.run before).Overruns pid v) ∧
        ((w.run moves).Expressible → (∀ call, .enter call ∈ moves → call.Timely (w.run moves)) →
          ∀ pid, ¬ (w.run moves).Broken pid)) := by
  refine ⟨fun _ => Config.validate_of_ofSettings, fun accepted => ?_⟩
  obtain ⟨tick, buffer⟩ := Config.pos_of_validate accepted
  refine ⟨?_, fun w new moves => ?_⟩
  · rw [isSome_new?, Bus.new?_isSome_iff]
    exact and_iff_right buffer
  · have config : w.config = c := by
      obtain ⟨bus, rfl⟩ := eq_of_new? new
      rfl
    have run (pid : Nat) : (w.run moves).Broken pid ↔ ∃ before v after,
        moves = before ++ .step pid v :: after ∧ (w.run before).Overruns pid v := by
      have whole := (traced_new new).broken_run_iff (by rwa [config]) moves pid
      rwa [or_iff_right (not_broken_new new)] at whole
    refine ⟨run, fun expressible timely pid broken => ?_⟩
    obtain ⟨before, v, after, rfl, overruns⟩ := (run pid).1 broken
    have entering : w.Obeys (Enters (·.Timely _)) before :=
      obeys_enters fun call member => timely call (List.mem_append_left _ member)
    have traced := (traced_new new).run entering fun _ _ => id
    rw [run_append] at traced expressible
    obtain ⟨same, surroundings⟩ := given_run (w.run before) (.step pid v :: after)
    exact traced.not_overruns expressible same surroundings (now_run _ _) v overruns

/-- A call that writes to the cache by itself, for longer than any clock can tell. -/
def writeForEver : List Move :=
  [.enter (.cacheSet "way" ⟨"way", 5000, 600, 540⟩ RouteCache.clockLimit), .step 0 .proceed]

theorem breaks_down_iff_write_for_ever :
    Trial.config.validate = .ok () ∧ (World.new? Trial.config Trial.around).isSome ∧
    (Trial.start.run writeForEver).Broken 0 ∧
    (Trial.start.run (.enter Trial.request :: Trial.steps 0 9)).Expressible ∧
    ¬ (Trial.start.run (.enter Trial.request :: Trial.steps 0 9)).Broken 0 := by
  have accepted : Trial.config.validate = .ok () := rfl
  obtain ⟨opens, service⟩ := (breaks_down_iff Trial.config Trial.around).2 accepted
  have expressible : (Trial.start.run (.enter Trial.request :: Trial.steps 0 9)).Expressible :=
    expressible_of_run fun _ => ttl_expressible
  refine ⟨accepted, opens.2 (by decide), ?_, expressible, ?_⟩
  · have run := (service Trial.start Trial.start_new writeForEver).1 0
    have overruns : (Trial.start.run (writeForEver.take 1)).Overruns 0 .proceed :=
      ⟨.call, "way", _, RouteCache.clockLimit, _, rfl, nofun, Nat.le_add_left _ _⟩
    exact run.2 ⟨writeForEver.take 1, .proceed, [], rfl, overruns⟩
  · refine (service Trial.start Trial.start_new _).2 expressible (fun call member => ?_) 0
    rcases List.mem_cons.1 member with same | step
    · cases same
      trivial
    · cases List.eq_of_mem_replicate step

/-- A service cannot come into being with an event buffer that is accepted, and it breaks down at the first
route that it looks up where directions are kept for a time that is accepted. -/
theorem accepted_settings_break_down :
    (∃ c, Config.ofSettings [("EVENT_BUFFER_SIZE", "9223372036854775808")] = .ok c ∧
      ∀ around, World.new? c around = none) ∧
    ∃ c w, Config.ofSettings [("ROUTE_CACHE_TTL_SECS", "18446744073709551615")] = .ok c ∧
      World.new? c Trial.around = some w ∧
      (w.run (.enter (.computeRoute ⟨"", "", ⟨1.0, 2.0⟩⟩ ⟨"", "", ⟨1.0, 3.0⟩⟩) ::
        Trial.steps 0 4)).Broken 0 := by
  refine ⟨⟨{ Config.default with eventBufferSize := 9223372036854775808 }, rfl, fun around => rfl⟩,
    { Config.default with cacheTtl := 18446744073709551615 * 1000 }, _, rfl, rfl, .call, ?_⟩
  rfl

end World

end CourierDispatch
