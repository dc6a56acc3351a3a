import CourierDispatch.Proofs.Service.Billing
import CourierDispatch.Proofs.Service.Trial
import CourierDispatch.Proofs.Service.Turns

/-!
# The fare that is charged

A trip has no cost until a courier is bound. Each binding then has one computation of the fare, which
records a cost at most once. If no pickup was confirmed when it read the trip, nobody is asked for the
way, and the cost is the price of the quoted distance for the courier's product, as the quote lists it;
otherwise it is the price of the way from the pickup that was confirmed (`fares_as_quoted`).

Quote and fare are computed by different processes at different times. They agree because what they
were computed from still holds when the fare is recorded (`Readings`), and because the computation asks
for the way only where it has seen a confirmed pickup (`Fare.Course`).
-/

namespace CourierDispatch

open Job

/-- An operation of the store was answered with what was asked for. -/
def Exchange.Served : Exchange → Prop
  | ⟨.store op, r⟩ => (∃ a, r = .ok a) ∧ (Effect.store op).nothing ≠ some r
  | _ => True

namespace World

variable {w : World} {pid : Nat} {trip courier : Uuid} {p : Progress} {t : Trip}
  {rule : World → Move → Prop}

/-- What the computation of a fare saw of its trip. -/
def Saw (w : World) (pid : Nat) (trip : Uuid) (t : Trip) : Prop :=
  (w.trace pid).getLast? = some ⟨.store (.getTrip trip), .ok (some t)⟩

def told? (w : World) (pid : Nat) (trip : Uuid) : Option Trip :=
  match (w.trace pid).getLast? with
  | some ⟨.store (.getTrip id), .ok t⟩ => if id = trip then t else none
  | _ => none

theorem told?_eq_some : w.told? pid trip = some t ↔ w.Saw pid trip t := by
  constructor
  · intro told
    unfold told? at told
    split at told
    · next id t' last =>
      split at told
      · next same =>
        rw [Saw, last, told, same]
      · cases told
    · cases told
  · intro saw
    rw [told?, saw]
    exact if_pos rfl

/-- A cost that a process asked to be recorded for a trip. -/
def Charges (w : World) (pid : Nat) (trip : Uuid) (cost : UInt64) : Prop :=
  ∃ r, ⟨.store (.setTripCost trip cost), r⟩ ∈ w.trace pid

/-- A fare as it was quoted: only the store is asked, and the price of the quoted distance is recorded,
which is the price that is listed for the product. -/
structure ChargesQuoted (w : World) (pid : Nat) (trip : Uuid) (product : Product) (q : Quote) : Prop where
  unasked : ∀ x ∈ w.trace pid, ∃ op, x.effect = .store op
  price : ∀ cost, w.Charges pid trip cost → cost = w.config.pricer.price product q.route.distanceMeters
  listed : ∀ l ∈ q.route.products, l.product.id = product.id →
    l.price = w.config.pricer.price product q.route.distanceMeters

/-- The way between two points was looked up by a process. -/
def LookedUp (w : World) (pid : Nat) (a b : GeoPoint) (r : Except DispatchError (String × Directions)) :
    Prop :=
  ∃ own, own <:+: w.trace pid ∧ (Quote.directionsBetween w.config.routing a b).run.Leads own (.done r)

/-- A fare for another way than the quoted one. -/
def ChargesWay (w : World) (pid : Nat) (trip : Uuid) (product : Product) (pickup finish : GeoPoint) :
    Prop :=
  ∀ cost, w.Charges pid trip cost → ∃ key way, w.LookedUp pid pickup finish (.ok (key, way)) ∧
    cost = w.config.pricer.price product way.distanceMeters

theorem Traced.asks_store (traced : w.Traced fun _ => True)
    (found : w.processes[pid]? = some ⟨.fare trip courier, p⟩) (saw : w.Saw pid trip t)
    {route : RouteRef} (quoted : t.route = some route) (unconfirmed : t.confirmedPickup = none) :
    ∀ x ∈ w.trace pid, ∃ op, x.effect = .store op := by
  intro x member
  obtain ⟨later, past, split⟩ := List.append_of_mem member
  refine (traced.course found split).asks_store quoted unconfirmed fun y last => ?_
  rw [Saw, split, List.getLast?_append, List.getLast?_cons] at saw
  rw [Option.mem_def] at last
  simpa [last] using saw

/-- The cost that was computed, and the trip that it was computed from. -/
theorem Reachable.charged (reach : w.Reachable rule) (distinct : w.IdsDistinct)
    (found : w.processes[pid]? = some ⟨.fare trip courier, p⟩) (saw : w.Saw pid trip t)
    {product : Product} (rides : w.Rides courier product) {cost : UInt64}
    (charges : w.Charges pid trip cost) :
    ∃ (own : List Exchange) (distance : UInt64), own <:+: w.trace pid ∧
      (Quote.chargedDistance w.config.routing t).run.Leads own (.done (.ok distance)) ∧
      cost = w.config.pricer.price product distance := by
  obtain ⟨r, asked⟩ := charges
  have traced : w.Traced fun _ => True := reach.traced fun _ _ _ => enters_any
  obtain ⟨b, later, own, distance, split, leads, price⟩ := traced.basis found asked
  have read : ∀ x ∈ b.reads trip courier, x ∈ w.trace pid := by
    intro x member
    rw [split]
    exact List.mem_append_right _ member
  have same : b.trip = t := by
    rw [Saw, split] at saw
    simpa [Fare.Basis.reads] using saw
  obtain ⟨-, known⟩ := (reach.readings distinct).2.basis read
  refine ⟨own, distance, ⟨later, b.reads trip courier, split.symm⟩, same ▸ leads, ?_⟩
  rw [price, known.unique rides]

/-- The cost of a trip is the one whose record was accepted. -/
theorem Reachable.cost_iff (reach : w.Reachable rule) (distinct : w.IdsDistinct)
    (found : w.store.trip? trip = some t) {cost : UInt64} : t.cost = some cost ↔
      ∃ x ∈ w.history, x.exchange = ⟨.store (.setTripCost trip cost), .ok ()⟩ := by
  have kept : t.cost = w.recordedCost? trip := by
    have same := (reach.billing distinct).costs trip
    rwa [found] at same
  rw [kept]
  constructor
  · intro last
    obtain ⟨x, noted, recorded⟩ := List.exists_of_findSome?_eq_some last
    exact ⟨x, noted, Exchange.costOf?_eq_some.1 recorded⟩
  · rintro ⟨x, noted, recorded⟩
    obtain ⟨later, earlier, split⟩ := List.append_of_mem noted
    -- No other record of the cost was asked for, so none came later.
    have once := List.pairwise_filterMap.1 (reach.chargings_nodup distinct)
    rw [split, List.pairwise_append] at once
    have nothing : later.findSome? (·.exchange.costOf? trip) = none := by
      refine List.findSome?_eq_none_iff.2 fun y later => ?_
      cases again : y.exchange.costOf? trip with
      | none => rfl
      | some cost' =>
        rw [Exchange.costOf?_eq_some] at again
        exact absurd rfl (once.2.2 y later x List.mem_cons_self trip (by rw [again]; rfl) trip
          (by rw [recorded]; rfl))
    rw [recordedCost?, split, List.findSome?_append, nothing, Option.none_or, List.findSome?_cons,
      Exchange.costOf?_eq_some.2 recorded]

/-- A trip has no cost until a courier is bound. -/
theorem Reachable.unpriced (reach : w.Reachable rule) (distinct : w.IdsDistinct)
    (found : w.store.trip? trip = some t) (unbound : t.courierId = none) : t.cost = none := by
  cases priced : t.cost with
  | none => rfl
  | some cost =>
    obtain ⟨x, noted, recorded⟩ := (reach.cost_iff distinct found).1 priced
    have traced : w.Traced fun _ => True := reach.traced fun _ _ _ => enters_any
    have asked : x.exchange.charges? = some trip := by rw [recorded]; rfl
    obtain ⟨courier, p, computing⟩ := traced.charges noted asked
    obtain ⟨⟨t', found', bound⟩, -⟩ := reach.booked distinct computing
    rw [found] at found'
    cases found'
    rw [bound] at unbound
    cases unbound

/-- What a quote lists is on offer still, at the price of its way. -/
theorem Reachable.listed (reach : w.Reachable rule) (distinct : w.IdsDistinct) {q : Quote}
    (made : w.QuotedAs trip q) {l : PricedProduct} (listed : l ∈ q.route.products) :
    w.store.product? l.product.id = some l.product ∧
      l.price = w.config.pricer.price l.product q.route.distanceMeters := by
  obtain ⟨pid, request, t, later, past, split, pickup, dropoff, id, own, before, same, leads⟩ := made
  obtain ⟨centre, radius, products, offered, prices⟩ := Fare.listed_of_quoted leads
  have shown : ⟨.store (.nearbyProducts centre radius), .ok products⟩ ∈ w.trace pid := by
    rw [split, same]
    simp [offered]
  obtain ⟨x, noted, -, exchange⟩ := mem_traceOf.1 shown
  rw [prices] at listed
  obtain ⟨product, member, rfl⟩ := List.mem_map.1 listed
  exact ⟨(reach.readings distinct).2.offers x noted centre radius products exchange product member, rfl⟩

/-- A computation that saw no confirmed pickup charges what was quoted. -/
theorem Reachable.charges_quoted (reach : w.Reachable rule) (distinct : w.IdsDistinct)
    (found : w.processes[pid]? = some ⟨.fare trip courier, p⟩) (saw : w.Saw pid trip t)
    {product : Product} (rides : w.Rides courier product) {q : Quote} (made : w.QuotedAs trip q)
    (quoted : t.AsQuoted q) (unconfirmed : t.confirmedPickup = none) :
    w.ChargesQuoted pid trip product q where
  unasked := (reach.traced fun _ _ _ => enters_any).asks_store found saw quoted.route unconfirmed
  price cost charges := by
    obtain ⟨own, distance, -, leads, rfl⟩ := reach.charged distinct found saw rides charges
    rw [Fare.chargedDistance_of_quoted quoted.route unconfirmed] at leads
    cases (Leads.of_done leads).2
    rfl
  listed l member same := by
    obtain ⟨there, price⟩ := reach.listed distinct made member
    obtain ⟨c, -, stocked⟩ := rides
    have keyed := (reach.readings distinct).2.products.keyed _ _ stocked
    rw [same, keyed, stocked] at there
    rw [price, Option.some.inj there]

/-- A computation that saw a confirmed pickup charges the way from there. -/
theorem Reachable.charges_way (reach : w.Reachable rule) (distinct : w.IdsDistinct)
    (found : w.processes[pid]? = some ⟨.fare trip courier, p⟩) (saw : w.Saw pid trip t)
    {product : Product} (rides : w.Rides courier product) {pickup : GeoPoint}
    (confirmed : t.confirmedPickup = some pickup) : w.ChargesWay pid trip product pickup t.finish := by
  intro cost charges
  obtain ⟨own, distance, inside, leads, rfl⟩ := reach.charged distinct found saw rides charges
  obtain ⟨key, way, found, rfl⟩ := Fare.way_of_confirmed confirmed leads
  exact ⟨key, way, ⟨own, inside, found⟩, rfl⟩

/-! ## Where the store holds -/

/-- A trip that was seen has gone on from there. -/
theorem Reachable.seen (reach : w.Reachable rule) (distinct : w.IdsDistinct)
    (saw : w.Saw pid trip t) : ∃ t', w.store.trip? trip = some t' ∧ t.Onward t' := by
  obtain ⟨x, noted, -, exchange⟩ := mem_traceOf.1 (List.mem_of_getLast? saw)
  exact (reach.readings distinct).2.trip x noted trip t exchange

/-- What the computation of a fare asks the store for is there. -/
theorem Noted.served {calls : Call → Prop} {w' : World} {v : Verdict} {e : Effect} {r : e.Reply}
    (step : Noted calls w pid v e r w') (holds : w.StoreHolds (.step pid v))
    (reach : w.Reachable rule) (distinct : w.IdsDistinct)
    (found : w.processes[pid]? = some ⟨.fare trip courier, p⟩)
    (course : Fare.Course w.config.routing w.config.pricer trip courier (w.trace pid) e) :
    Exchange.Served ⟨e, r⟩ := by
  cases e with
  | store op =>
    obtain ⟨⟨t, there, -⟩, product, c, known, stocked⟩ := reach.booked distinct found
    rcases course.asked with rfl | rfl | ⟨bound, seen, rfl⟩ | ⟨cost, rfl⟩
    · rw [step.answered holds rfl, there]
      exact ⟨⟨_, rfl⟩, nofun⟩
    · rw [step.answered holds rfl, known]
      exact ⟨⟨_, rfl⟩, nofun⟩
    · obtain ⟨x, noted, -, exchange⟩ := mem_traceOf.1 seen
      obtain ⟨c', known', same⟩ := (reach.readings distinct).2.courier x noted courier bound exchange
      rw [known] at known'
      cases known'
      rw [step.answered holds rfl, ← same, stocked]
      exact ⟨⟨_, rfl⟩, nofun⟩
    · rcases step.performed holds with ⟨a, rfl, told⟩ | ⟨err, rfl, told, -⟩
      · exact ⟨⟨_, rfl⟩, nofun⟩
      · simp only [Store.perform, Store.setTripCost, Store.updateTrip, there] at told
        cases told
  | _ => trivial

/-- The computations of fares get what they ask the store for. -/
def FaresServed (w : World) : Prop :=
  ∀ pid trip courier p, w.processes[pid]? = some ⟨.fare trip courier, p⟩ →
    ∀ x ∈ w.trace pid, x.Served

theorem Reachable.served (reach : w.Reachable StoreHolds) (distinct : w.IdsDistinct) :
    w.FaresServed := by
  refine reach.induction distinct (fun config around w new => ?_) fun w m reach holds fresh ih => ?_
  · obtain ⟨bus, rfl⟩ := eq_of_new? new
    simp [FaresServed]
  intro pid trip courier p' found'
  have traced : w.Traced fun _ => True := reach.traced fun _ _ _ => enters_any
  have distinct : w.IdsDistinct := traced.ids_of_move fresh
  have before (there : pid < w.processes.length) :
      ∃ p, w.processes[pid]? = some ⟨.fare trip courier, p⟩ := by
    have same := task_move w m there
    rw [found'] at same
    obtain ⟨⟨task, p⟩, found, rfl⟩ := Option.map_eq_some_iff.1 same.symm
    exact ⟨p, found⟩
  have unmoved (same : (w.move m).trace pid = w.trace pid) :
      ∀ x ∈ (w.move m).trace pid, x.Served := by
    rw [same]
    by_cases there : pid < w.processes.length
    · obtain ⟨p, found⟩ := before there
      exact ih pid trip courier p found
    · simp [traced.trace_eq_nil (Nat.le_of_not_lt there)]
  rcases traced.noted m with silent | ⟨q, v, e, r, rfl, step⟩
  · exact unmoved (by rw [trace, trace, silent.history])
  · obtain ⟨task, p, start, next, asked, -, origin, path, -⟩ := step.asked
    by_cases own : q = pid
    · subst own
      rw [trace_noted step, if_pos rfl]
      obtain ⟨p, found⟩ := before (List.getElem?_eq_some_iff.1 asked).1
      rw [found] at asked
      cases asked
      cases origin
      have course := ((Fare.meets_fareJob w.config trip courier).of_leads path).1
      intro x member
      rcases List.mem_cons.1 member with rfl | old
      · exact step.served holds reach distinct found course
      · exact ih q trip courier p found x old
    · exact unmoved (by rw [trace_noted step, if_neg own])

/-- Where the store holds, a computation that is over has recorded the cost, unless a pickup was
confirmed and the way from there could not be had. -/
theorem Reachable.concluded (reach : w.Reachable StoreHolds) (distinct : w.IdsDistinct)
    (found : w.processes[pid]? = some ⟨.fare trip courier, p⟩)
    (finished : p = .broken ∨ ∃ r, p = .ended r) :
    ∃ t, w.Saw pid trip t ∧
      ((∃ cost, p = .ended (.fare (.ok cost)) ∧ w.Charges pid trip cost ∧
          ∃ t', w.store.trip? trip = some t' ∧ t'.cost = some cost) ∨
        ∃ pickup, t.confirmedPickup = some pickup ∧
          (p = .broken ∨ ∃ err, p = .ended (.fare (.error err)) ∧
            w.LookedUp pid pickup t.finish (.error err))) := by
  have traced : w.Traced fun _ => True := reach.traced fun _ _ _ => enters_any
  have served := reach.served distinct pid trip courier p found
  obtain ⟨start, job, origin, path, reached⟩ := traced.path pid _ found
  cases origin
  have meets := (Fare.meets_fareJob w.config trip courier).of_leads path
  have saw {b : Fare.Basis} {later : List Exchange}
      (behind : w.trace pid = later ++ b.reads trip courier) : w.Saw pid trip b.trip := by
    rw [Saw, behind]
    simp [Fare.Basis.reads]
  -- A trip that goes as it was quoted needs no look-up.
  have rerouted {b : Fare.Basis} {later own : List Exchange} {j : Job (Except DispatchError UInt64)}
      (behind : w.trace pid = later ++ b.reads trip courier)
      (leads : (Quote.chargedDistance w.config.routing b.trip).run.Leads own j)
      (other : ∀ n, j ≠ .done (.ok n)) : ∃ pickup, b.trip.confirmedPickup = some pickup := by
    cases confirmed : b.trip.confirmedPickup with
    | some pickup => exact ⟨pickup, rfl⟩
    | none =>
      obtain ⟨t', there, onward⟩ := reach.seen distinct (saw behind)
      obtain ⟨q, -, quoted⟩ := (reach.billing distinct).quoted trip t' there
      rw [Fare.chargedDistance_of_quoted (quoted.of_onward onward).route confirmed] at leads
      exact absurd (Leads.of_done leads).2 (other _)
  rcases finished with rfl | ⟨r, rfl⟩
  · cases job with
    | done r => exact reached.elim
    | panic =>
      obtain ⟨r, none_, -⟩ := meets
      cases none_
    | act e next =>
      generalize behind : w.trace pid = past at meets
      cases meets.1 with
      | trip | courier | product | cost => exact reached.elim
      | way b leads =>
        obtain ⟨pickup, confirmed⟩ := rerouted behind leads (by rintro n ⟨⟩)
        exact ⟨b.trip, saw behind, .inr ⟨pickup, confirmed, .inl rfl⟩⟩
  · cases (show job = .done r from reached)
    obtain ⟨r, same, ended⟩ := meets
    cases same
    generalize behind : w.trace pid = past at ended
    cases ended with
    | @recorded b own distance leads =>
      have last : ⟨.store (.setTripCost trip _), .ok ()⟩ ∈ w.trace pid :=
        behind ▸ List.mem_cons_self
      rw [← List.cons_append] at behind
      refine ⟨b.trip, saw behind, .inl ⟨_, rfl, ?_⟩⟩
      obtain ⟨⟨t', there, -⟩, -⟩ := reach.booked distinct found
      obtain ⟨x, noted, -, exchange⟩ := mem_traceOf.1 last
      exact ⟨⟨_, last⟩, t', there, (reach.cost_iff distinct there).2 ⟨x, noted, exchange⟩⟩
    | @refused past op asked err =>
      have refusal := served ⟨.store op, .error err⟩ (behind ▸ List.mem_cons_self)
      obtain ⟨⟨a, other⟩, -⟩ := refusal
      cases other
    | @absent past op r asked nothing err =>
      have absence := served ⟨.store op, r⟩ (behind ▸ List.mem_cons_self)
      exact absurd nothing absence.2
    | lost b leads =>
      obtain ⟨pickup, confirmed⟩ := rerouted behind leads (by rintro n ⟨⟩)
      exact ⟨b.trip, saw behind, .inr ⟨pickup, confirmed, .inr ⟨_, rfl, _,
        ⟨[], _, behind.symm⟩, Fare.lost_of_confirmed confirmed leads⟩⟩⟩

/-! ## All fares -/

/-- A trip without a courier has no cost. Each binding has one computation of its fare, or is just about
to have it started, and there are no others; no trip is bound twice, only such a computation asks for a
cost to be recorded, at most once for a trip, and the cost of a trip is what was recorded. A computation
charges what was quoted if it saw no confirmed pickup, and otherwise the way from the pickup that it saw.
It is over after nine turns; and where the store holds, it has then recorded the cost, unless a pickup was
confirmed and the way from there could not be had. -/
theorem fares_as_quoted (reach : w.Reachable rule) (distinct : w.IdsDistinct) :
    (∀ trip t, w.store.trip? trip = some t → t.courierId = none → t.cost = none) ∧
    (w.bindings.Perm (w.fares ++ w.starting) ∧ (w.bindings.map Prod.fst).Nodup ∧ w.chargings.Nodup ∧
      ∀ x ∈ w.history, ∀ trip, x.exchange.charges? = some trip →
        ∃ courier p, w.processes[x.process]? = some ⟨.fare trip courier, p⟩) ∧
    (∀ trip t cost, w.store.trip? trip = some t → (t.cost = some cost ↔
      ∃ x ∈ w.history, x.exchange = ⟨.store (.setTripCost trip cost), .ok ()⟩)) ∧
    ∀ pid trip courier p, w.processes[pid]? = some ⟨.fare trip courier, p⟩ →
      (∃ t q product, w.store.trip? trip = some t ∧ t.courierId = some courier ∧
        w.QuotedAs trip q ∧ t.AsQuoted q ∧ w.Rides courier product ∧
        ∀ seen, w.Saw pid trip seen → seen.AsQuoted q ∧
          (seen.confirmedPickup = none → w.ChargesQuoted pid trip product q) ∧
          ∀ pickup, seen.confirmedPickup = some pickup →
            w.ChargesWay pid trip product pickup seen.finish) ∧
      (∀ moves, 9 ≤ moves.countP (Move.turns pid) →
        ∃ p, (w.run moves).processes[pid]? = some ⟨.fare trip courier, p⟩ ∧
          (p = .broken ∨ ∃ r, p = .ended r)) ∧
      (w.Reachable StoreHolds → p = .broken ∨ (∃ r, p = .ended r) → ∃ seen, w.Saw pid trip seen ∧
        ((∃ cost, p = .ended (.fare (.ok cost)) ∧ w.Charges pid trip cost ∧
            ∃ t, w.store.trip? trip = some t ∧ t.cost = some cost) ∨
          ∃ pickup, seen.confirmedPickup = some pickup ∧
            (p = .broken ∨ ∃ err, p = .ended (.fare (.error err)) ∧
              w.LookedUp pid pickup seen.finish (.error err)))) := by
  have traced : w.Traced fun _ => True := reach.traced fun _ _ _ => enters_any
  refine ⟨fun _ _ => reach.unpriced distinct,
    ⟨reach.bindings_perm, reach.bindings_nodup distinct, reach.chargings_nodup distinct,
      fun _ noted _ => traced.charges noted⟩,
    fun _ _ _ found => reach.cost_iff distinct found, fun pid trip courier p found =>
      ⟨?_, fun _ => over_run found (traced.within_fare found),
        fun holds finished => holds.concluded distinct found finished⟩⟩
  obtain ⟨⟨t, there, bound⟩, product, rides⟩ := reach.booked distinct found
  obtain ⟨q, made, quoted⟩ := (reach.billing distinct).quoted trip t there
  refine ⟨t, q, product, there, bound, made, quoted, rides, fun seen saw => ?_⟩
  obtain ⟨t', there', onward⟩ := reach.seen distinct saw
  rw [there] at there'
  cases there'
  have then_ := quoted.of_onward onward
  exact ⟨then_, reach.charges_quoted distinct found saw rides made then_,
    fun _ => reach.charges_way distinct found saw rides⟩

open Trial in
/-- A courier who is at the depot has been bound to a trip from there, and the fare has been recorded. -/
def fareRecorded : World :=
  start.run (.enter (.request ⟨"POST", "/products", some "application/json",
    "\x7b\"name\":\"van\",\"weight_class\":1000000\x7d"⟩) :: steps 0 3 ++
    stock.drop 4 ++ locateAtDepot 2 ++ .enter requestFromDepot :: steps 3 9 ++
    .enter (.bind Trial.trip Trial.courier) :: steps 5 3 ++ steps 6 5)

theorem fares_as_quoted_recorded :
    fareRecorded.Reachable StoreHolds ∧ fareRecorded.IdsDistinct ∧
    fareRecorded.fares = [(Trial.trip, Trial.courier)] ∧
    ∃ t q product, fareRecorded.store.trip? Trial.trip = some t ∧
      fareRecorded.QuotedAs Trial.trip q ∧ fareRecorded.Rides Trial.courier product ∧
      t.cost = some (fareRecorded.config.pricer.price product q.route.distanceMeters) ∧
      ∀ l ∈ q.route.products, l.product.id = product.id → t.cost = some l.price := by
  obtain ⟨distinct, fares, task, finished, unconfirmed⟩ : fareRecorded.IdsDistinct ∧
      fareRecorded.fares = [(Trial.trip, Trial.courier)] ∧
      (fareRecorded.processes[6]?).map Process.task = some (.fare Trial.trip Trial.courier) ∧
      (fareRecorded.processes[6]?).any Process.finished ∧
      (fareRecorded.told? 6 Trial.trip).bind Trip.confirmedPickup = none := by
    decide +kernel
  have reach : fareRecorded.Reachable StoreHolds :=
    ⟨Trial.config, Trial.around, Trial.start, _, Trial.start_new,
      .of_mild (by decide) fun _ _ => storeHolds_of_mild, rfl⟩
  obtain ⟨⟨task, p⟩, found, rfl⟩ := Option.map_eq_some_iff.1 task
  rw [found] at finished
  obtain ⟨-, -, -, each⟩ := fares_as_quoted reach distinct
  obtain ⟨⟨t, q, product, there, -, made, -, rides, charges⟩, -, concluded⟩ :=
    each 6 Trial.trip Trial.courier p found
  obtain ⟨seen, saw, outcome⟩ := concluded reach (Process.finished_iff.1 finished)
  have same : seen.confirmedPickup = none := by
    rw [told?_eq_some.2 saw] at unconfirmed
    exact unconfirmed
  obtain ⟨-, charges, -⟩ := charges seen saw
  obtain ⟨-, price, listed⟩ := charges same
  rcases outcome with ⟨cost, -, charged, t', there', recorded⟩ | ⟨pickup, confirmed, -⟩
  · rw [there] at there'
    cases there'
    rw [price cost charged] at recorded
    refine ⟨reach, distinct, fares, t, q, product, there, made, rides, recorded, ?_⟩
    exact fun l member offered => by rw [recorded, listed l member offered]
  · rw [same] at confirmed
    cases confirmed

end World

end CourierDispatch
