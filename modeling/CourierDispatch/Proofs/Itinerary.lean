import CourierDispatch.Proofs.Conduct.Quoting
import CourierDispatch.Proofs.Quote.Course
import CourierDispatch.Proofs.Service.Billing
import CourierDispatch.Proofs.Service.Trial
import CourierDispatch.Proofs.Service.Turns

/-!
# One route for a quote and its trip

A quote asks for what it needs in a fixed order and stops at the first refusal (`Quote.Course`,
`Course.stops`), and it comes to an end whatever is answered. A trip is made only of a quote that
succeeded, and of all of it (`Trip.Creates`). So the ends, the key, the distance and the polyline that
a trip was recorded with are those of the quote that was made for it (`one_route`).
-/

namespace CourierDispatch

open Job

/-! ## Making a trip -/

/-- What a trip is requested with that goes as it was quoted. -/
def Quote.request (q : Quote) (requester : Uuid) : TripRequest :=
  ⟨requester, q.pickup.point, q.dropoff.point, some q.routeRef⟩

/-- The inquiries that make a trip, and what they end with: only a quote that has succeeded is recorded,
and only a trip that was recorded is matched. -/
inductive Trip.Creates (c : Config) (requester : Uuid) (pickup dropoff : PlaceInput) :
    List Exchange → Except DispatchError Trip → Prop
  | unquoted {xs : List Exchange} {err : DispatchError}
      (lost : Quote.Course c.routing c.pricer pickup dropoff xs (.error err)) :
      Creates c requester pickup dropoff xs (.error err)
  | unrecorded {xs : List Exchange} {q : Quote}
      (quoted : Quote.Course c.routing c.pricer pickup dropoff xs (.ok q)) (id : Uuid) (err : DispatchError) :
      Creates c requester pickup dropoff
        (xs ++ [⟨.drawId, id⟩, ⟨.store (.createTrip id (q.request requester)), .error err⟩]) (.error err)
  | created {xs : List Exchange} {q : Quote}
      (quoted : Quote.Course c.routing c.pricer pickup dropoff xs (.ok q)) (id : Uuid) (t : Trip)
      (launched : Bool) : Creates c requester pickup dropoff
        (xs ++ [⟨.drawId, id⟩, ⟨.store (.createTrip id (q.request requester)), .ok t⟩,
          ⟨.startRun t.id t.start, launched⟩]) (.ok t)

namespace Trip

open Attempt

variable {c : Config} {requester : Uuid} {pickup dropoff : PlaceInput} {xs : List Exchange}

/-- Whatever is answered, a trip is made like this; and like any of these, if it is so answered. -/
theorem endsAfter_createTrip {o : Except DispatchError Trip} :
    (Dispatch.createTrip c requester pickup dropoff).EndsAfter xs o ↔
      Creates c requester pickup dropoff xs o := by
  have draw {ys : List Exchange} {r : Except DispatchError Uuid} :
      EndsAfter (Attempt.perform .drawId) ys r ↔ ∃ id : Uuid, ys = [⟨.drawId, id⟩] ∧ r = .ok id :=
    endsAfter_act rfl fun _ => trivial
  have record {id : Uuid} {request : TripRequest} {ys : List Exchange} {r : Except DispatchError Trip} :
      EndsAfter (Attempt.store (.createTrip id request)) ys r ↔ ∃ told : Except DispatchError Trip,
        ys = [⟨.store (.createTrip id request), told⟩] ∧ r = told :=
    endsAfter_act rfl fun _ => trivial
  have launch {t : Trip} {ys : List Exchange} {r : Except DispatchError Trip} :
      EndsAfter (Attempt.perform (.startRun t.id t.start) >>= fun _ => pure t) ys r ↔
        ∃ launched : Bool, ys = [⟨.startRun t.id t.start, launched⟩] ∧ r = .ok t :=
    endsAfter_act rfl fun _ => trivial
  unfold Dispatch.createTrip Dispatch.quote
  rw [endsAfter_bind]
  constructor
  · rintro (⟨err, rfl, lost⟩ | ⟨q, ys, rest, rfl, quoted, behind⟩)
    · exact .unquoted (Quote.endsAfter_make.1 lost)
    have quoted := Quote.endsAfter_make.1 quoted
    rcases endsAfter_bind.1 behind with ⟨err, -, failed⟩ | ⟨id, ids, rest, rfl, drawn, recording⟩
    · obtain ⟨id, -, other⟩ := draw.1 failed
      cases other
    obtain ⟨_, rfl, ⟨⟩⟩ := draw.1 drawn
    rcases endsAfter_bind.1 recording with ⟨err, rfl, failed⟩ | ⟨t, rs, rest, rfl, recorded, launching⟩
    · obtain ⟨_, rfl, rfl⟩ := record.1 failed
      exact .unrecorded quoted id err
    · obtain ⟨_, rfl, rfl⟩ := record.1 recorded
      obtain ⟨launched, rfl, rfl⟩ := launch.1 launching
      exact .created quoted id t launched
  · intro creates
    cases creates with
    | unquoted lost => exact .inl ⟨_, rfl, Quote.endsAfter_make.2 lost⟩
    | unrecorded quoted id err =>
      refine .inr ⟨_, _, _, rfl, Quote.endsAfter_make.2 quoted, endsAfter_bind.2 ?_⟩
      refine .inr ⟨id, [_], _, rfl, draw.2 ⟨id, rfl, rfl⟩, endsAfter_bind.2 ?_⟩
      exact .inl ⟨err, rfl, record.2 ⟨_, rfl, rfl⟩⟩
    | created quoted id t launched =>
      refine .inr ⟨_, _, _, rfl, Quote.endsAfter_make.2 quoted, endsAfter_bind.2 ?_⟩
      refine .inr ⟨id, [_], _, rfl, draw.2 ⟨id, rfl, rfl⟩, endsAfter_bind.2 ?_⟩
      exact .inr ⟨t, [_], _, rfl, record.2 ⟨_, rfl, rfl⟩, launch.2 ⟨launched, rfl, rfl⟩⟩

end Trip

/-- A quote comes to an end, whatever it is answered: what it has asked so far begins a course. -/
theorem Quote.begun {c : RouteConfig} {pricer : Pricer} {pickup dropoff : PlaceInput}
    {own : List Exchange} {job : Job (Except DispatchError Quote)}
    (leads : (make c pricer pickup dropoff).run.Leads own job) :
    ∃ later o, Course c pricer pickup dropoff (inquiries own ++ later) o := by
  have sturdy (own : List Exchange) : ¬ (make c pricer pickup dropoff).run.Leads own .panic :=
    fun broken => by
      obtain ⟨r, other, -⟩ := (settles_make pickup dropoff []).of_leads broken
      cases other
  obtain ⟨later, o, complete⟩ := leads.completed sturdy
  exact ⟨inquiries later, o, endsAfter_make.1 ⟨_, inquiries_append later own, complete⟩⟩

namespace World

variable {w : World} {rule : World → Move → Prop} {calls : Call → Prop}

/-- Whoever asks for a trip to be recorded has just made a quote, and asks for it as it was quoted. -/
theorem Traced.quoted (h : w.Traced calls) {pid : Nat} {later past : List Exchange} {id : Uuid}
    {request : TripRequest} {r : Except DispatchError Trip}
    (split : w.trace pid = later ++ ⟨.store (.createTrip id request), r⟩ :: past) :
    ∃ q, Quoted w.config past q ∧ request.Quotes q := by
  have seen : ⟨.store (.createTrip id request), r⟩ ∈ w.trace pid := by simp [split]
  obtain ⟨x, noted, rfl, -⟩ := mem_traceOf.1 seen
  obtain ⟨⟨task, p⟩, found⟩ : ∃ p, w.processes[x.process]? = some p :=
    ⟨_, List.getElem?_eq_getElem (h.known x noted)⟩
  obtain ⟨start, job, origin, path, -⟩ := h.path x.process _ found
  rcases origin.composed with composed | ⟨trip, courier, rfl, rfl⟩
  · exact ((composed.binds [] rfl).asked (split ▸ path)).quoted id request rfl
  · exact nomatch ((only_fareJob w.config trip courier).of_leads path).2 _ seen

/-- A trip that was recorded is what was asked for, and it is still there. -/
theorem Reachable.asRequested (reach : w.Reachable rule) (distinct : w.IdsDistinct) :
    ∀ x ∈ w.history, ∀ id request t, x.exchange = ⟨.store (.createTrip id request), .ok t⟩ →
      (t.start = request.start ∧ t.finish = request.finish ∧ t.route = request.route) ∧
        ∃ t', w.store.trip? id = some t' ∧ t.Onward t' := by
  refine reach.readings_induction
    (P := fun w => ∀ x ∈ w.history, ∀ id request t,
      x.exchange = ⟨.store (.createTrip id request), .ok t⟩ →
      (t.start = request.start ∧ t.finish = request.finish ∧ t.route = request.route) ∧
        ∃ t', w.store.trip? id = some t' ∧ t.Onward t')
    (fun _ _ same h => by rw [same.history, same.store]; exact h)
    (fun w w' pid v e r records _ step _ h x noted id request t made => ?_) distinct fun _ _ _ new => ?_
  · rw [step.history] at noted
    rcases List.mem_cons.1 noted with rfl | old
    · cases made
      obtain ⟨rfl, same⟩ := Prod.mk.inj (Except.ok.inj (step.told nofun))
      refine ⟨⟨rfl, rfl, rfl⟩, _, ?_, .refl _⟩
      rw [← same]
      exact (Table.get?_insert ..).trans (if_pos rfl)
    · obtain ⟨asked, t₁, there, onward⟩ := h x old id request t made
      obtain ⟨t₂, there', onward'⟩ := step.onward records.fresh there
      exact ⟨asked, t₂, there', onward.trans onward'⟩
  · obtain ⟨bus, rfl⟩ := eq_of_new? new
    simp

/-- Whatever a quote is answered, it takes its course, and it takes any course for some answers; it is
over after seven effects at most, and fails with the first refusal, behind which it asks for nothing. A
trip is made only of a quote that has succeeded. Whoever had a trip recorded had made a quote just before,
and the trip has the ends, the key, the distance and the polyline of that quote, as it was answered and as
it is by now. -/
theorem one_route (reach : w.Reachable rule) (distinct : w.IdsDistinct) :
    (∀ c pickup dropoff xs o, (Dispatch.quote c pickup dropoff).EndsAfter xs o ↔
      Quote.Course c.routing c.pricer pickup dropoff xs o) ∧
    (∀ c pickup dropoff own job, (Dispatch.quote c pickup dropoff).run.Leads own job →
      own.length ≤ 7 ∧
        ∃ later o, Quote.Course c.routing c.pricer pickup dropoff (inquiries own ++ later) o) ∧
    (∀ c pricer pickup dropoff xs o, Quote.Course c pricer pickup dropoff xs o → Quote.Stops xs o) ∧
    (∀ c requester pickup dropoff xs o, (Dispatch.createTrip c requester pickup dropoff).EndsAfter xs o ↔
      Trip.Creates c requester pickup dropoff xs o) ∧
    (∀ pid later past id request t,
      w.trace pid = later ++ ⟨.store (.createTrip id request), .ok t⟩ :: past →
      ∃ pickup dropoff own before q drawn, past = ⟨.drawId, drawn⟩ :: (own ++ before) ∧
        Quote.Course w.config.routing w.config.pricer pickup dropoff (inquiries own) (.ok q) ∧
        t.AsQuoted q ∧ ∃ t', w.store.trip? id = some t' ∧ t'.AsQuoted q) ∧
    ∀ trip t, w.store.trip? trip = some t → ∃ q, w.QuotedAs trip q ∧ t.AsQuoted q := by
  refine ⟨fun _ _ _ _ _ => Quote.endsAfter_make, fun c pickup dropoff own job leads => ?_,
    fun _ _ _ _ _ _ => Quote.Course.stops, fun _ _ _ _ _ _ => Trip.endsAfter_createTrip,
    fun pid later past id request t split => ?_, (reach.billing distinct).quoted⟩
  · exact ⟨((brisk_make c.routing c.pricer pickup dropoff).spent leads).1, Quote.begun leads⟩
  · have traced : w.Traced fun _ => True := reach.traced fun _ _ _ => enters_any
    obtain ⟨q, ⟨pickup, dropoff, drawn, own, before, rfl, leads⟩, asked⟩ := traced.quoted split
    have seen : ⟨.store (.createTrip id request), .ok t⟩ ∈ w.trace pid := by simp [split]
    obtain ⟨x, noted, -, exchange⟩ := mem_traceOf.1 seen
    obtain ⟨⟨start, finish, route⟩, t', there, onward⟩ :=
      reach.asRequested distinct x noted id request t exchange
    have quoted : t.AsQuoted q :=
      ⟨start.trans asked.start, finish.trans asked.finish, route.trans asked.route⟩
    exact ⟨pickup, dropoff, own, before, q, drawn, rfl, Quote.endsAfter_make.1 ⟨own, rfl, leads⟩, quoted,
      t', there, quoted.onward onward⟩

/-- A trip from one meridian to the next has been asked for and recorded. -/
def tripRecorded : World := Trial.start.run (.enter Trial.request :: Trial.steps 0 9)

theorem one_route_recorded :
    tripRecorded.Reachable StoreHolds ∧ tripRecorded.IdsDistinct ∧
    ∃ q t, tripRecorded.store.trip? (Trial.around.freshId 0) = some t ∧
      tripRecorded.QuotedAs (Trial.around.freshId 0) q ∧ t.AsQuoted q ∧
      q.routeRef = ⟨Geo.routeKey ⟨1.0, 2.0⟩ ⟨1.0, 3.0⟩, 5000, "way"⟩ := by
  obtain ⟨distinct, route⟩ : tripRecorded.IdsDistinct ∧
      (tripRecorded.store.trip? (Trial.around.freshId 0)).bind Trip.route =
        some ⟨Geo.routeKey ⟨1.0, 2.0⟩ ⟨1.0, 3.0⟩, 5000, "way"⟩ := by
    decide +kernel
  have reach : tripRecorded.Reachable StoreHolds :=
    ⟨Trial.config, Trial.around, Trial.start, _, Trial.start_new,
      .of_mild (by decide) fun _ _ => storeHolds_of_mild, rfl⟩
  obtain ⟨t, there, route⟩ := Option.bind_eq_some_iff.1 route
  obtain ⟨-, -, -, -, -, quoted⟩ := one_route reach distinct
  obtain ⟨q, made, asQuoted⟩ := quoted _ t there
  exact ⟨reach, distinct, q, t, there, made, asQuoted, Option.some.inj (asQuoted.route.symm.trans route)⟩

end World

end CourierDispatch
