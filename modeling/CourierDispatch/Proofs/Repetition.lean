import CourierDispatch.Proofs.Release
import CourierDispatch.Proofs.Service.Ledger
import CourierDispatch.Proofs.Service.Readings
import Mathlib.Data.List.Count

/-!
# A final status that is reported again

A trip that is complete or cancelled takes its status again. Such a report is a report like any other:
it is counted, and it is told as the first one was. So a status of a trip is told and counted exactly as
often as a report of it was accepted, in every run (`repeats_tell`); `completed_twice` is a run in which
that is twice.

On the records a repetition does little. Whatever else goes on in between, it gives the trip a new time
stamp, and it lets the courier of the trip go, if that one still has the trip (`World.Repeats`).
-/

namespace CourierDispatch

open Job

/-! ## How often -/

/-- A status that was written is told: all but a cancellation behind a binding are. -/
def Trip.heard (status : TripStatus) (t : Trip) : Bool :=
  !(status = .cancelled && t.courierId.isSome)

theorem Trip.heard_iff {status : TripStatus} {t : Trip} :
    t.heard status ↔ ¬ (status = .cancelled ∧ t.courierId.isSome) := by
  rw [heard, Bool.not_eq_true', ← Bool.not_eq_true, Bool.and_eq_true, decide_eq_true_iff]

theorem TripStatus.count_labels (status status' : TripStatus) (trip trip' : Uuid) (bound : Bool)
    (channel : Channel) : (status'.labels trip' bound).count (channel, trip, status) =
      if trip' = trip ∧ status' = status ∧ ¬ (status = .cancelled ∧ bound)
      then status.channels.count channel else 0 := by
  unfold labels
  by_cases same : trip' = trip ∧ status' = status
  · obtain ⟨rfl, rfl⟩ := same
    have apart : Function.Injective fun channel : Channel => (channel, trip', status') :=
      fun _ _ same => congrArg Prod.fst same
    by_cases silent : status' = .cancelled ∧ bound
    · rw [if_pos silent, if_neg fun h => h.2.2 silent]
      rfl
    · rw [if_neg silent, if_pos ⟨rfl, rfl, silent⟩]
      exact List.count_map_of_injective _ _ apart channel
  · refine (List.count_eq_zero.2 fun there => ?_).trans (if_neg fun h => same ⟨h.1, h.2.1⟩).symm
    split at there
    · cases there
    · obtain ⟨_, -, about⟩ := List.mem_map.1 there
      cases about
      exact same ⟨rfl, rfl⟩

namespace World

variable {calls : Call → Prop} {rule : World → Move → Prop} {w w' : World} {moves : List Move}
  {pid : Nat} {v : Verdict} {trip : Uuid} {status : TripStatus} {t : Trip}

/-- The trip as it was left by each report of a status that was accepted, the latest first. -/
def accepted (w : World) (trip : Uuid) (status : TripStatus) : List Trip :=
  w.history.flatMap fun x => match x.exchange.written? with
    | some (id, s, t) => if id = trip ∧ s = status then [t] else []
    | none => []

/-- How often it was to be published on a channel that a trip has some status. -/
def announced (w : World) (channel : Channel) (trip : Uuid) (status : TripStatus) : Nat :=
  (w.messages.map labelOf).count (channel, trip, status)

/-- How often it is still to be published. -/
def unannounced (w : World) (channel : Channel) (trip : Uuid) (status : TripStatus) : Nat :=
  (w.untold.map labelOf).count (channel, trip, status)

/-- A status of a trip is told as often as it was accepted, but for a cancellation behind a binding. -/
theorem Reachable.announced_add (reach : w.Reachable rule) (channel : Channel) (trip : Uuid)
    (status : TripStatus) : w.announced channel trip status + w.unannounced channel trip status =
      status.channels.count channel * (w.accepted trip status).countP (·.heard status) := by
  have traced : w.Traced fun _ => True := reach.traced fun _ _ _ => enters_any
  have even := (traced.messages_perm reach.recorded).count_eq (channel, trip, status)
  rw [List.map_append, List.count_append] at even
  rw [announced, unannounced, even, accepted]
  induction w.history with
  | nil => rfl
  | cons x history ih =>
    rw [List.flatMap_cons, List.flatMap_cons, List.count_append, List.countP_append, Nat.mul_add, ih,
      Exchange.labels]
    congr 1
    cases x.exchange.written? with
    | none => rfl
    | some report =>
      obtain ⟨id, s, t⟩ := report
      simp only [TripStatus.count_labels]
      by_cases same : id = trip ∧ s = status
      · rw [if_pos same]
        by_cases heard : t.heard status
        · rw [if_pos ⟨same.1, same.2, Trip.heard_iff.1 heard⟩, List.countP_cons_of_pos heard]
          simp
        · rw [if_neg fun h => heard (Trip.heard_iff.2 h.2.2), List.countP_cons_of_neg heard]
          rfl
      · rw [if_neg fun h => same ⟨h.1, h.2.1⟩, if_neg same]
        rfl

/-- A status of a trip is counted as often as it was accepted. -/
theorem Traced.counted_add (h : w.Traced calls) (trip : Uuid) (status : TripStatus) :
    w.counted.count (trip, status) + w.uncounted.count (trip, status) =
      (w.accepted trip status).length := by
  have even := h.reports_perm.count_eq (trip, status)
  rw [List.count_append, Nat.add_comm] at even
  rw [← even, reports, accepted, List.filterMap_eq_flatMap_toList]
  induction w.history with
  | nil => rfl
  | cons x history ih =>
    rw [List.flatMap_cons, List.flatMap_cons, List.count_append, List.length_append, ih]
    congr 1
    cases written : x.exchange.written? with
    | none => simp [Exchange.report?, written]
    | some report =>
      obtain ⟨id, s, t⟩ := report
      by_cases same : id = trip ∧ s = status <;> simp [Exchange.report?, written, same]

/-- A process that rests has told and counted what it reported. -/
theorem Traced.settled (h : w.Traced calls) (quiet : w.Quiet) (pid : Nat) :
    Said (w.trace pid) ∧ reportedLast (w.trace pid) = none := by
  cases found : w.processes[pid]? with
  | none =>
    rw [h.trace_eq_nil (List.getElem?_eq_none_iff.1 found)]
    exact ⟨said_nil, rfl⟩
  | some p =>
    obtain ⟨task, progress⟩ := p
    obtain ⟨start, job, origin, path, reached⟩ := h.path pid _ found
    have rests := quiet _ (List.mem_of_getElem? found)
    have meets := origin.meets.of_leads path
    have tallies := (origin.tallies [] rfl).of_leads path
    cases origin with
    | fare trip courier =>
      have plain := (only_fareJob w.config trip courier).of_leads path
      have unwritten : ∀ x ∈ w.trace pid, x.written? = none := fun x member =>
        written?_of_plain (plain.2 x member) x.reply
      generalize w.trace pid = past at unwritten
      constructor
      · cases last : lastReport past with
        | none => exact said_of_lastReport last
        | some p =>
          obtain ⟨x, member, written⟩ := mem_of_lastReport last
          rw [unwritten x member] at written
          cases written
      · cases past with
        | nil => rfl
        | cons x past => exact congrArg (Option.map _) (unwritten x List.mem_cons_self)
    | call | run =>
      cases progress with
      | ready | waiting => cases rests
      | ended => subst reached; exact ⟨meets.said, tallies⟩
      | broken =>
        refine ⟨Job.Fragile.said meets reached, ?_⟩
        cases job with
        | done => exact reached.elim
        | panic => exact tallies
        | act e next =>
          cases e with
          | cacheSet => exact Option.map_eq_none_iff.1 tallies.1.symm
          | _ => exact reached.elim

/-- In a quiet world nothing is still to be told or counted. -/
theorem Traced.settled_all (h : w.Traced calls) (quiet : w.Quiet) :
    w.untold = [] ∧ w.uncounted = [] := by
  constructor <;> refine List.flatMap_eq_nil_iff.2 fun pid _ => ?_
  · exact (h.settled quiet pid).1
  · rw [(h.settled quiet pid).2]
    rfl

end World

/-! ## What a report may change -/

/-- An effect of a report of a status of a trip. -/
def Effect.reportsOn (trip : Uuid) (status : TripStatus) : Effect → Prop
  | .store (.setTripStatus id s) => id = trip ∧ s = status
  | .store (.unassignTrip id) => id = trip
  | .store op => op.reads
  | _ => True

/-- The trip and the status that a request reports. -/
def Http.Request.reports? (r : Http.Request) : Option (Uuid × TripStatus) :=
  match r.target?.bind fun target => Http.Endpoint.ofPath? target.path with
  | some (.tripStatus id) =>
    (Http.readIdAndBody id (Http.single "status" TripStatus.decode) r).toOption
  | _ => none

/-- The trip and the status that a call reports. -/
def Call.reports? : Call → Option (Uuid × TripStatus)
  | .reportTripStatus trip status | .reportStatus trip status => some (trip, status)
  | .request r => r.reports?
  | _ => none

section

variable {trip : Uuid} {status : TripStatus} (c : Config)

theorem Trip.reportsOn_reportStatus (settleDelay : Nat) :
    Attempt.Only (·.reportsOn trip status) (reportStatus settleDelay trip status) := by
  change Job.Only _ _ (reportStatus settleDelay trip status).run
  rw [run_reportStatus]
  refine ⟨⟨rfl, rfl⟩, fun r => ?_⟩
  cases r with
  | error e => trivial
  | ok t =>
    refine ((only_tell settleDelay t status).mono fun e tells => ?_).bind fun _ _ => trivial
    cases tells <;> first | rfl | trivial

theorem Dispatch.reportsOn_reportTripStatus :
    Attempt.Only (·.reportsOn trip status) (reportTripStatus c trip status) := by
  refine Attempt.only_bind (Trip.reportsOn_reportStatus c.settleDelay) fun t => ?_
  change Attempt.Only _ (if status.final ∧ t.courierId.isSome then
    Search.unassign trip >>= fun _ => pure t else pure t : Attempt Trip)
  split
  · exact Attempt.only_bind (Attempt.only_store rfl) fun _ => Attempt.only_pure t
  · exact Attempt.only_pure t

theorem Http.reportsOn_reportStatus :
    Attempt.Only (·.reportsOn trip status) (reportStatus c trip status) := by
  unfold reportStatus
  split
  · exact Attempt.only_throw _
  · exact Dispatch.reportsOn_reportTripStatus c

theorem Http.reportsOn_serve {r : Request} {id : List Char}
    (reports : (readIdAndBody id (single "status" TripStatus.decode) r).toOption = some (trip, status))
    (m : Method) :
    (serve c r (.tripStatus id) m).Only (·.reportsOn trip status) fun _ => True := by
  change (reading (readIdAndBody id (single "status" TripStatus.decode) r) _).Only _ _
  cases read : readIdAndBody id (single "status" TripStatus.decode) r with
  | error refusal => trivial
  | ok part =>
    rw [read] at reports
    cases Option.some.inj reports
    refine (Http.reportsOn_reportStatus c).bind fun r _ => ?_
    cases r <;> trivial

theorem Http.only_handleAt {kind : Effect → Prop} {r : Request} {e : Endpoint}
    (served : ∀ m, (serve c r e m).Only kind fun _ => True) :
    (handleAt c r e).Only kind fun _ => True := by
  unfold handleAt
  split
  · trivial
  · split
    · trivial
    · split
      · split
        · exact (served _).bind fun _ _ => trivial
        · exact served _
      · trivial

theorem Http.reportsOn_handle {r : Request} (reports : r.reports? = some (trip, status)) :
    (handle c r).Only (·.reportsOn trip status) fun _ => True := by
  unfold Request.reports? at reports
  unfold handle
  split
  · trivial
  · next t target =>
    rw [target, Option.bind_some] at reports
    split
    · trivial
    · next e endpoint =>
      rw [endpoint] at reports
      split at reports
      · next id same =>
        cases same
        exact Http.only_handleAt c (Http.reportsOn_serve c reports)
      · cases reports

theorem Call.reportsOn_job {call : Call} (reports : call.reports? = some (trip, status)) :
    (call.job c).Only (·.reportsOn trip status) fun _ => True := by
  have answers {a : Attempt Trip} (only : a.Only (·.reportsOn trip status)) :
      (answerOf .trip a).Only (·.reportsOn trip status) fun _ => True :=
    only.bind fun r _ => by cases r <;> trivial
  unfold reports? at reports
  split at reports
  · cases reports
    exact answers (Dispatch.reportsOn_reportTripStatus c)
  · cases reports
    exact answers (Trip.reportsOn_reportStatus c.settleDelay)
  · exact (Http.reportsOn_handle c reports).bind fun _ _ => trivial
  · cases reports

end

namespace World

variable {calls : Call → Prop} {rule : World → Move → Prop} {w w' : World} {moves : List Move}
  {pid : Nat} {v : Verdict} {e : Effect} {r : e.Reply} {trip : Uuid} {status : TripStatus} {t : Trip}

/-! ## What a repetition changes -/

/-- What a step changes that repeats the status of a trip: at most the time stamp of the trip, or the
courier of the trip is let go, if that one still has it. -/
structure Repeats (w : World) (trip : Uuid) (w' : World) : Prop where
  trips : ∀ id, w'.store.trip? id = w.store.trip? id ∨
    id = trip ∧ ∃ t, w.store.trip? trip = some t ∧
      w'.store.trip? trip = some { t with updatedAt := w.stamp }
  couriers : ∀ id, w'.store.courier? id = w.store.courier? id ∨
    ∃ t c, w.store.trip? trip = some t ∧ t.courierId = some id ∧ w.store.courier? id = some c ∧
      c.tripId = some trip ∧
      w'.store.courier? id = some { c with tripId := none, updatedAt := w.stamp }

theorem Repeats.of_same (same : w'.store = w.store) : w.Repeats trip w' :=
  ⟨fun _ => .inl (by rw [same]), fun _ => .inl (by rw [same])⟩

/-- A step with an effect of a report, where the trip has the status already. -/
theorem Noted.repeats (step : Noted calls w pid v e r w') (asks : e.reportsOn trip status)
    (found : w.store.trip? trip = some t) (has : t.status = status) : w.Repeats trip w' := by
  obtain ⟨used, -, reply⟩ := step.replied
  rcases reply.store.changed with same | ⟨op, a, done, performed⟩
  · exact .of_same same
  · cases performed
    refine ⟨fun id => ?_, fun id => ?_⟩
    · have change := Store.trip_step done id
      generalize before : w.store.trip? id = old at change
      generalize behind : w'.store.trip? id = new at change
      cases change with
      | same => exact .inl rfl
      | created asked | bound asked | priced asked | confirmed asked => subst asked; cases asks
      | @moved _ t' asked =>
        subst asked
        obtain ⟨rfl, rfl⟩ := asks
        rw [found] at before
        cases before
        exact .inr ⟨rfl, t, found, by rw [behind, ← has]⟩
    · have change := Store.courier_step done id
      generalize before : w.store.courier? id = old at change
      generalize behind : w'.store.courier? id = new at change
      cases change with
      | same => exact .inl rfl
      | recorded asked | located asked | moved asked | bound asked => subst asked; cases asks
      | freed asked there named linked =>
        subst asked
        cases asks
        exact .inr ⟨_, _, there, named, rfl, linked, rfl⟩

/-- A final status stays, whatever is done. -/
theorem Reachable.final_run (reach : w.Reachable rule) (found : w.store.trip? trip = some t)
    (final : t.status.final) (moves : List Move) (distinct : (w.run moves).IdsDistinct) :
    ∃ t', (w.run moves).store.trip? trip = some t' ∧ t'.status = t.status := by
  obtain ⟨t', found', onward⟩ := reach.onward_run found distinct
  exact ⟨t', found', (onward.final final).1⟩

/-- A call that reports the final status that a trip has already. -/
theorem Reachable.repeats_call (reach : w.Reachable rule) {call : Call}
    (reports : call.reports? = some (trip, status)) (found : w.store.trip? trip = some t)
    (has : t.status = status) (final : status.final) (moves : List Move) (v : Verdict)
    (distinct : (((w.enter call).run moves).step w.processes.length v).IdsDistinct) :
    ((w.enter call).run moves).Repeats trip
      (((w.enter call).run moves).step w.processes.length v) := by
  have traced : w.Traced fun _ => True := reach.traced fun _ _ _ => enters_any
  have entered : (w.enter call).Traced fun _ => True := traced.move (.enter call) fun _ _ => trivial
  have ahead : ((w.enter call).run moves).Traced fun _ => True :=
    entered.run (obeys_any moves) fun _ _ _ => enters_any
  obtain ⟨p, job, there, path, reached⟩ := traced.follows call moves
  rcases ahead.noted (.step w.processes.length v) with same | ⟨q, u, e, r, stepped, step⟩
  · exact .of_same same.store
  · cases stepped
    obtain ⟨task, p', -, next, there', at_, -⟩ := step.asked
    rw [there] at there'
    cases there'
    cases at_.unique reached
    have only : (Result.answer <$> call.job w.config).Only (·.reportsOn trip status) fun _ => True :=
      (Call.reportsOn_job w.config reports).bind fun _ _ => trivial
    obtain ⟨t', found', same⟩ := reach.final_run found (has ▸ final) (.enter call :: moves)
      (ahead.ids_of_move (m := .step _ v) distinct)
    exact step.repeats (only.of_leads path).1.1 found' (same.trans has)

/-- In every run a completion is told, a cancellation before anybody was bound is told, and each status
is counted as often as it was accepted, but for what a process has still to tell or count, and in a
quiet world there is no such thing; the counters are made up of these counts. A call that reports the
final status that its trip has already changes nothing but the time stamp of the trip, and lets its
courier go. -/
theorem repeats_tell (reach : w.Reachable fun _ _ => True) (trip : Uuid) :
    w.announced .tripUpdates trip .complete + w.unannounced .tripUpdates trip .complete =
      (w.accepted trip .complete).length ∧
    w.announced .assignment trip .cancelled + w.unannounced .assignment trip .cancelled =
      (w.accepted trip .cancelled).countP (·.courierId.isNone) ∧
    (∀ status, w.counted.count (trip, status) + w.uncounted.count (trip, status) =
      (w.accepted trip status).length) ∧
    (∀ status : TripStatus, w.metrics.transitions.count status.text =
      w.counted.countP (·.2 = status)) ∧
    (w.Quiet → w.untold = [] ∧ w.uncounted = []) ∧
    ∀ call status t, Call.reports? call = some (trip, status) → w.store.trip? trip = some t →
      t.status = status → status.final → ∀ moves v,
      (((w.enter call).run moves).step w.processes.length v).IdsDistinct →
        ((w.enter call).run moves).Repeats trip
          (((w.enter call).run moves).step w.processes.length v) := by
  have traced : w.Traced fun _ => True := reach.traced fun _ _ _ => enters_any
  refine ⟨?_, ?_, traced.counted_add trip, reach.transitions_count, traced.settled_all,
    fun _ _ _ reports found has final => reach.repeats_call reports found has final⟩
  · have all : (w.accepted trip .complete).countP (·.heard .complete) = (w.accepted trip .complete).length :=
      List.countP_eq_length.2 fun _ _ => rfl
    rw [reach.announced_add, all]
    exact Nat.one_mul _
  · rw [reach.announced_add]
    refine (Nat.one_mul _).trans (List.countP_congr fun t _ => ?_)
    simp [Trip.heard]

/-! ## A trip that is completed twice -/

/-- The trip of a service that was asked for nothing else. -/
def onlyTrip : Uuid := Trial.around.freshId 0

def completion : Call := .reportTripStatus onlyTrip .complete

/-- The trip has been completed before its search, process 1, has begun. -/
def completed : World :=
  Trial.start.run (.enter Trial.request :: Trial.steps 0 8 ++ .enter completion :: Trial.steps 2 5)

/-- Some time later it is completed again. -/
def completedAgain : World := completed.run (.pass 5 :: .enter completion :: Trial.steps 3 5)

theorem completed_reachable : completed.Reachable fun _ _ => True :=
  ⟨Trial.config, Trial.around, Trial.start, _, Trial.start_new, obeys_any _, rfl⟩

theorem repeats_tell_of_completed : completed.Reachable (fun _ _ => True) ∧
    completed.announced .tripUpdates onlyTrip .complete +
      completed.unannounced .tripUpdates onlyTrip .complete = 1 ∧
    completed.metrics.transitions.count "complete" = 1 ∧
    ((completed.enter completion).run []).Repeats onlyTrip
      (((completed.enter completion).run []).step completed.processes.length .proceed) := by
  have ⟨accepted, counted, there, distinct⟩ :
      (completed.accepted onlyTrip .complete).length = 1 ∧
      completed.counted.countP (·.2 = .complete) = 1 ∧
      (completed.store.trip? onlyTrip).any (·.status = .complete) ∧
      (((completed.enter completion).run []).step completed.processes.length .proceed).IdsDistinct := by
    decide +kernel
  obtain ⟨t, found, has⟩ := (Option.any_eq_true ..).1 there
  obtain ⟨told, -, -, counts, -, repeats⟩ := repeats_tell completed_reachable onlyTrip
  exact ⟨completed_reachable, told.trans accepted, (counts .complete).trans counted,
    repeats completion .complete t rfl found (of_decide_eq_true has) rfl [] .proceed distinct⟩

/-- The second completion is told and counted as the first one was, and changes the trip. -/
theorem completed_twice : completedAgain.Reachable (fun _ _ => True) ∧
    (completed.store.trip? onlyTrip).map (·.status) = some .complete ∧
    completedAgain.announced .tripUpdates onlyTrip .complete = 2 ∧
    completedAgain.bus.published.length = 2 ∧
    completedAgain.counted.count (onlyTrip, .complete) = 2 ∧
    completedAgain.metrics.transitions.count "complete" = 2 ∧
    (completedAgain.store.trip? onlyTrip).map (·.updatedAt) ≠
      (completed.store.trip? onlyTrip).map (·.updatedAt) :=
  ⟨completed_reachable.run (obeys_any _), by decide +kernel⟩

end World

end CourierDispatch
