import CourierDispatch.Proofs.Conduct.Failing
import CourierDispatch.Proofs.Service.Records
import CourierDispatch.Proofs.Service.Trial
import CourierDispatch.Proofs.Service.Turns

/-!
# A refused request changes nothing

Where a process that has begun goes on until it waits or ends, and the store does what it is asked, a call
that is answered with an error has changed no record, has published nothing and has started no other work
(`refused_changes_nothing`). An error comes before the first change, but for two (`Stumbled`): the refusal of
a release behind a status that was written, and that of the report of a binding. The trip that was written
stays in the store, so the first is never refused. Nobody gets between a binding and its report, so the trip
is still open then (`Coherent.open_`), and the second is not refused either.
-/

namespace CourierDispatch

open Job

/-- The process stands at an effect that it does not wait for. -/
def Progress.prompt : Progress → Bool
  | ready (.act e _) | waiting _ e _ => !e.waits
  | _ => false

theorem Progress.prompt_iff {p : Progress} :
    p.prompt ↔ ∃ e next, p.At (.act e next) ∧ e.waits = false := by
  constructor
  · intro prompt
    cases p with
    | ready job =>
      cases job with
      | act e next => exact ⟨e, next, rfl, by simpa [Progress.prompt] using prompt⟩
      | _ => cases prompt
    | waiting wake e next => exact ⟨e, next, rfl, by simpa [Progress.prompt] using prompt⟩
    | _ => cases prompt
  · rintro ⟨e, next, at_, prompt⟩
    cases p with
    | broken => exact at_.elim
    | ended => cases at_
    | ready | waiting => cases at_; simp [Progress.prompt, prompt]

/-- The trip that was bound last of all, but for the start of its fare. -/
def justBound? : List Exchange → Option Uuid
  | ⟨.startFare .., _⟩ :: past => justBound? past
  | ⟨.store (.assignCourier trip _), .ok _⟩ :: _ => some trip
  | _ => none

theorem justBound?_cons {x : Exchange} {past : List Exchange} {trip : Uuid}
    (bound : justBound? (x :: past) = some trip) :
    (∃ id courier, x = ⟨.startFare id courier, ()⟩ ∧ justBound? past = some trip) ∨
      ∃ courier, x.bound? = some (trip, courier) := by
  unfold justBound? at bound
  split at bound
  · next same =>
    cases same
    exact .inl ⟨_, _, rfl, bound⟩
  · next same =>
    cases same
    cases bound
    exact .inr ⟨_, rfl⟩
  · cases bound

namespace World

variable {calls : Call → Prop} {w w' : World} {pid q : Nat} {v : Verdict} {e : Effect} {r : e.Reply}
  {m : Move} {moves : List Move}

/-! ## Steps that change nothing -/

/-- No record has changed, no message was published, no slot was taken, and no process was started. -/
structure Leaves (w w' : World) : Prop where
  store : w'.store = w.store
  bus : w'.bus = w.bus
  active : w'.active = w.active
  tasks : w'.processes.map Process.task = w.processes.map Process.task

theorem Leaves.refl (w : World) : w.Leaves w := ⟨rfl, rfl, rfl, rfl⟩

theorem leaves_setProgress (h : w.Leaves w') (p : Progress) : w.Leaves (w'.setProgress pid p) where
  store := h.store
  bus := h.bus
  active := h.active
  tasks := by
    rw [← h.tasks]
    refine List.ext_getElem? fun q => ?_
    rw [List.getElem?_map, List.getElem?_map, getElem?_setProgress]
    split
    · cases w'.processes[q]? <;> rfl
    · rfl

theorem leaves_respond (replied : w.respond e = some (r, w')) (harmless : Exchange.harmless ⟨e, r⟩) :
    w.Leaves w' := by
  cases e with
  | store op =>
    simp only [respond] at replied
    split at replied <;> cases replied
    · next done => exact ⟨Store.same_of_reads done harmless, rfl, rfl, rfl⟩
    · exact .refl w
  | cacheSet key route ttl =>
    simp only [respond, Option.map_eq_some_iff] at replied
    obtain ⟨c, -, same⟩ := replied
    cases same
    exact ⟨rfl, rfl, rfl, rfl⟩
  | computeRoute a b =>
    simp only [respond] at replied
    split at replied <;> cases replied <;> exact ⟨rfl, rfl, rfl, rfl⟩
  | publish | startFare | startRun | finishRun => cases harmless
  | cacheGet | race | drawId | placeDetails | autocomplete | subscribe | countTransition | countLookup
  | sleep | waitUntil | setTimers | stamp | census | exposition =>
    cases replied
    exact ⟨rfl, rfl, rfl, rfl⟩

theorem leaves_answer (replied : w.answer pid v e = some (r, w'))
    (harmless : Exchange.harmless ⟨e, r⟩) : w.Leaves w' := by
  simp only [answer, Option.map_eq_some_iff, Prod.exists] at replied
  obtain ⟨r', before, replied, same⟩ := replied
  cases same
  split at replied
  · cases replied
    exact ⟨rfl, rfl, rfl, rfl⟩
  · obtain ⟨store, bus, active, tasks⟩ := leaves_respond replied harmless
    exact ⟨store, bus, active, tasks⟩

/-- A step of a call with no exchange, or a harmless one. -/
theorem leaves_step {p : Progress} (found : w.processes[pid]? = some ⟨.call, p⟩)
    (harmless : ∀ x, (w.step pid v).trace pid = x :: w.trace pid → x.harmless) :
    w.Leaves (w.step pid v) := by
  have turn := turn_step w pid v
  generalize w.step pid v = after at turn harmless ⊢
  cases turn with
  | idle => exact .refl w
  | turned => exact leaves_setProgress (.refl w) _
  | broke =>
    simp only [breakDown, found, Option.map_some]
    exact leaves_setProgress (.refl w) _
  | @answered _ _ e next used r w' _ _ replied =>
    refine leaves_setProgress (leaves_answer replied (harmless ⟨e, r⟩ ?_)) _
    obtain ⟨-, -, history⟩ := replied_of_answer replied
    change traceOf w'.history pid = _
    rw [history, traceOf_cons, if_pos rfl]
    rfl

/-! ## Undivided processes -/

/-- A process has begun, and neither waits nor has ended. -/
def busy (w : World) (pid : Nat) : Bool :=
  (w.processes[pid]?).any (·.progress.prompt) && !(w.trace pid).isEmpty

/-- A process that has begun goes on until it waits or ends. -/
def Undivided (w : World) (m : Move) : Prop :=
  ∀ pid v, m = .step pid v → ∀ q, w.busy q → q = pid

/-- Processes are undivided, and the store does what it is asked. -/
def Sequential (w : World) (m : Move) : Prop := w.StoreHolds m ∧ w.Undivided m

theorem sequential_enter {call : Call} : w.Sequential (.enter call) :=
  ⟨fun _ _ _ step => (by cases step), fun _ _ step => (by cases step)⟩

theorem busy_iff : w.busy pid ↔ (∃ task p e next, w.processes[pid]? = some ⟨task, p⟩ ∧
    p.At (.act e next) ∧ e.waits = false) ∧ w.trace pid ≠ [] := by
  simp only [busy, Bool.and_eq_true, Option.any_eq_true, Progress.prompt_iff, Bool.not_eq_true',
    List.isEmpty_eq_false_iff]
  constructor
  · rintro ⟨⟨⟨task, p⟩, found, e, next, at_, prompt⟩, begun⟩
    exact ⟨⟨task, p, e, next, found, at_, prompt⟩, begun⟩
  · rintro ⟨⟨task, p, e, next, found, at_, prompt⟩, begun⟩
    exact ⟨⟨⟨task, p⟩, found, e, next, at_, prompt⟩, begun⟩

theorem Silent.busy (same : Silent w w') (traced : w.Traced calls) (busy : w'.busy q) : w.busy q := by
  obtain ⟨⟨task, p', e, next, found, at_, prompt⟩, begun⟩ := busy_iff.1 busy
  rw [trace, same.history] at begun
  rcases same.jobs q _ found with ⟨⟨task', p⟩, there, stood⟩ | new
  · exact busy_iff.2 ⟨⟨task', p, e, next, there, stood _ at_, prompt⟩, begun⟩
  · exact absurd (traced.trace_eq_nil new) begun

/-- A process that another one's step leaves busy was busy before. -/
theorem Noted.busy (step : Noted calls w pid v e r w') (traced : w.Traced calls) (other : q ≠ pid)
    (busy : w'.busy q) : w.busy q := by
  obtain ⟨⟨task, p, e', next, found, at_, prompt⟩, begun⟩ := busy_iff.1 busy
  rw [trace_noted step, if_neg (Ne.symm other)] at begun
  rcases step.others q _ other found with there | new
  · exact busy_iff.2 ⟨⟨task, p, e', next, there, at_, prompt⟩, begun⟩
  · exact absurd (traced.trace_eq_nil new) begun

/-- Trips that were written are there, a trip that was bound just now is open, and nothing is refused that
would come too late. -/
structure Coherent (w : World) : Prop where
  kept : ∀ x ∈ w.history, ∀ trip status t, x.exchange.written? = some (trip, status, t) →
    ∃ t', w.store.trip? trip = some t'
  open_ : ∀ pid trip, w.busy pid → justBound? (w.trace pid) = some trip →
    ∃ t, w.store.trip? trip = some t ∧ t.status.terminal = false
  steady : ∀ pid, ¬ Stumbled (w.trace pid)

theorem coherent_new {config : Config} {around : Surroundings}
    (h : World.new? config around = some w) : w.Coherent := by
  obtain ⟨bus, rfl⟩ := eq_of_new? h
  refine ⟨by simp, by simp [busy, trace], fun pid stumbled => ?_⟩
  cases stumbled

theorem Coherent.silent (h : w.Coherent) (traced : w.Traced calls) (same : Silent w w') :
    w'.Coherent where
  kept := by
    rw [same.history, same.store]
    exact h.kept
  open_ pid trip busy bound := by
    rw [trace, same.history] at bound
    rw [same.store]
    exact h.open_ pid trip (same.busy traced busy) bound
  steady pid := by
    rw [trace, same.history]
    exact h.steady pid

/-- Behind a binding the trip is open. -/
theorem Noted.open_of_bound (step : Noted calls w pid v e r w') {trip courier : Uuid}
    (bound : Exchange.bound? ⟨e, r⟩ = some (trip, courier)) :
    ∃ t, w'.store.trip? trip = some t ∧ t.status.terminal = false := by
  obtain ⟨t, c, -, -, open_, -, -, store⟩ := Store.assignCourier_ok (step.bound bound)
  exact ⟨{ t with courierId := some courier, updatedAt := w.stamp },
    store ▸ (Table.get?_insert ..).trans (if_pos rfl), open_⟩

theorem Coherent.noted (h : w.Coherent) (traced : w.Traced calls)
    (allowed : w.Sequential (.step pid v)) (step : Noted calls w pid v e r w') : w'.Coherent := by
  obtain ⟨task, p, start, next, found, at_, -, -, -⟩ := step.asked
  refine ⟨fun x noted trip status t written => ?_, fun q trip busy bound => ?_, fun q stumbled => ?_⟩
  · rw [step.history] at noted
    rcases List.mem_cons.1 noted with rfl | old
    · exact ⟨t, (Store.trip?_of_setTripStatus (step.written written)).1⟩
    · obtain ⟨t', there⟩ := h.kept x old trip status t written
      exact step.trip_stays there
  · by_cases own : q = pid
    · subst own
      rw [trace_noted step, if_pos rfl] at bound
      rcases justBound?_cons bound with ⟨id, courier, same, before⟩ | ⟨courier, now⟩
      · -- the fare is started right behind the binding, and leaves the trip as it is
        cases same
        have begun : w.trace q ≠ [] := fun empty => by rw [empty] at before; cases before
        obtain ⟨used, -, reply⟩ := step.replied
        rcases reply.store.changed with same | ⟨op, a, -, other⟩
        · rw [same]
          exact h.open_ q trip (busy_iff.2 ⟨⟨task, p, _, next, found, at_, rfl⟩, begun⟩) before
        · cases other
      · exact step.open_of_bound now
    · have before := step.busy traced own busy
      exact absurd (allowed.2 pid v rfl q before) own
  · rw [trace_noted step] at stumbled
    split at stumbled
    · next own =>
      subst own
      generalize before : w.trace pid = past at stumbled
      generalize behind : (⟨e, r⟩ : Exchange) :: past = whole at stumbled
      cases stumbled with
      | @release past' trip status t err written =>
        cases behind
        obtain ⟨x, member, written⟩ := written
        obtain ⟨y, noted, -, rfl⟩ := mem_traceOf.1 (before ▸ member)
        obtain ⟨t', there⟩ := h.kept y noted trip status t written
        rcases step.performed allowed.1 with ⟨a, other, -⟩ | ⟨err, -, refused, -⟩
        · cases other
        · rw [Store.unassignTrip_refused refused] at there
          cases there
      | @report past' trip courier err =>
        cases behind
        have begun : w.trace pid ≠ [] := by rw [before]; simp
        obtain ⟨t, there, open_⟩ := h.open_ pid trip
          (busy_iff.2 ⟨⟨task, p, _, next, found, at_, rfl⟩, begun⟩) (by rw [before]; rfl)
        rcases step.performed allowed.1 with ⟨a, other, -⟩ | ⟨err, -, refused, -⟩
        · cases other
        · have closed := Store.setTripStatus_refused refused there
          cases status : t.status <;> simp [status, TripStatus.allows, TripStatus.final,
            TripStatus.terminal] at closed open_
    · exact h.steady q stumbled

theorem Reachable.coherent (reach : w.Reachable Sequential) : w.Coherent :=
  reach.always (fun _ _ _ => enters_any) (fun _ _ _ => coherent_new)
    (fun _ _ traced _ same h => h.silent traced same)
    fun _ _ _ _ _ _ traced _ allowed step h => h.noted traced allowed step

/-! ## Calls that fail -/

/-- How a call of the service has ended. -/
theorem Traced.ends_of_enter (h : w.Traced calls) {call : Call} (dispatches : call.dispatches)
    {task : Task} {a : Answer} (ended : ((w.enter call).run moves).processes[w.processes.length]? =
      some ⟨task, .ended (.answer a)⟩) :
    Call.Ends (((w.enter call).run moves).trace w.processes.length) (some a) := by
  obtain ⟨p, job, found, path, reached⟩ := h.follows call moves
  rw [ended] at found
  cases found
  obtain ⟨job', leads, same⟩ := Leads.of_map path
  cases (show job = .done (.answer a) from reached)
  have meets := (Call.meets_ends w.config dispatches).of_leads leads
  cases job' with
  | done a' => cases same; exact meets
  | panic | act => cases same

/-- Where processes are undivided and the store holds, a call that is answered with an error has changed
no record in any of its steps, has published nothing, and has started nothing. And a call that has asked
for a place, for suggestions or for a way in vain is answered with an error. -/
theorem refused_changes_nothing (reach : w.Reachable Sequential) {call : Call}
    (dispatches : call.dispatches) (obeys : (w.enter call).Obeys Sequential moves) {a : Answer}
    (answered : ((w.enter call).run moves).processes[w.processes.length]? =
      some ⟨.call, .ended (.answer a)⟩) :
    (a.fails → ∀ before v after, moves = before ++ .step w.processes.length v :: after →
      ((w.enter call).run before).Leaves (((w.enter call).run before).step w.processes.length v)) ∧
    ((∃ x ∈ ((w.enter call).run moves).trace w.processes.length, x.vain) → a.fails) := by
  have traced : w.Traced fun _ => True := reach.traced fun _ _ _ => enters_any
  have ends := traced.ends_of_enter dispatches answered
  refine ⟨fun fails before v after split => ?_, fun ⟨x, member, vain⟩ => ?_⟩
  · have coming : w.Obeys Sequential [.enter call] := ⟨sequential_enter, trivial⟩
    have coherent : ((w.enter call).run moves).Coherent := ((reach.run coming).run obeys).coherent
    have unmoved := (ends.1 fails).resolve_right (coherent.steady _)
    have new : (w.enter call).processes[w.processes.length]? =
        some ⟨.call, .ready (Result.answer <$> call.job w.config)⟩ := List.getElem?_concat_length
    obtain ⟨p, found⟩ := there_run new before
    refine leaves_step found fun x stepped => unmoved x ?_
    have started : (w.enter call).Traced fun _ => True := traced.move (.enter call) fun _ _ => trivial
    have stepping : (((w.enter call).run before).step w.processes.length v).Traced fun _ => True :=
      (started.run (obeys_any before) fun _ _ _ => enters_any).move (.step _ v) fun _ _ => trivial
    rw [split, run_append]
    exact stepping.mem_trace_run (stepped ▸ List.mem_cons_self) after
  · cases succeeds : a.fails with
    | true => rfl
    | false =>
      rw [ends.2 succeeds x member] at vain
      cases vain

/-! ## A trip to an unknown place -/

/-- A check of a move against the rule. -/
def runsThrough (w : World) (m : Move) : Bool :=
  m.mild && match m with
    | .step pid _ => (List.range w.processes.length).all fun q => !w.busy q || q = pid
    | _ => true

theorem sequential_of_runsThrough (checked : w.runsThrough m) : w.Sequential m := by
  simp only [runsThrough, Bool.and_eq_true] at checked
  refine ⟨storeHolds_of_mild checked.1, ?_⟩
  rintro pid v rfl q busy
  obtain ⟨⟨task, p, e, next, found, -, -⟩, -⟩ := busy_iff.1 busy
  have known : q < w.processes.length := (List.getElem?_eq_some_iff.1 found).1
  simpa [busy] using List.all_eq_true.1 checked.2 q (List.mem_range.2 known)

open Trial in
/-- A trip has been created, and its search is about to begin. -/
def wanting : World := start.run (.enter request :: steps 0 8)

/-- Somebody asks for a trip from a place that nobody knows. -/
def fromNowhere : Call := .request ⟨"POST", "/trips", some "application/json",
  "\x7b\"requester_id\":\"00000000000000000000000000000009\",\"pickup\":\x7b\"place_id\":\"nowhere\"\x7d,\"dropoff\":\x7b\"location\":\x7b\"lat\":1.0,\"lng\":3.0\x7d\x7d\x7d"⟩

open Trial in
theorem refused_changes_nothing_from_nowhere :
    wanting.Reachable Sequential ∧ fromNowhere.dispatches ∧
    (wanting.enter fromNowhere).Obeys Sequential (steps 2 4) ∧
    ∃ a, ((wanting.enter fromNowhere).run (steps 2 4)).answered? wanting.processes.length = some a ∧
      a.fails ∧ ∀ before v after, steps 2 4 = before ++ .step wanting.processes.length v :: after →
        ((wanting.enter fromNowhere).run before).Leaves
          (((wanting.enter fromNowhere).run before).step wanting.processes.length v) := by
  have ⟨through, throughout, answered, asked⟩ :
      start.passes runsThrough (.enter request :: steps 0 8) ∧
      (wanting.enter fromNowhere).passes runsThrough (steps 2 4) ∧
      (((wanting.enter fromNowhere).run (steps 2 4)).answered? wanting.processes.length).isSome ∧
      ∃ x ∈ ((wanting.enter fromNowhere).run (steps 2 4)).trace wanting.processes.length, x.vain := by
    decide +kernel
  have began : start.Traced fun _ => True := traced_new start_new
  have reach : wanting.Reachable Sequential := ⟨Trial.config, Trial.around, start, _, start_new,
    .of_passes began through fun _ _ _ => sequential_of_runsThrough, rfl⟩
  have traced : (wanting.enter fromNowhere).Traced fun _ => True :=
    (reach.traced fun _ _ _ => enters_any).move (.enter fromNowhere) fun _ _ => trivial
  have obeys : (wanting.enter fromNowhere).Obeys Sequential (steps 2 4) :=
    .of_passes traced throughout fun _ _ _ => sequential_of_runsThrough
  have dispatches : fromNowhere.dispatches := rfl
  obtain ⟨a, answer⟩ := Option.isSome_iff_exists.1 answered
  obtain ⟨unchanged, fails⟩ := refused_changes_nothing reach dispatches obeys
    (answered?_eq_some.1 answer)
  exact ⟨reach, dispatches, obeys, a, answer, fails asked, unchanged (fails asked)⟩

end World

end CourierDispatch
