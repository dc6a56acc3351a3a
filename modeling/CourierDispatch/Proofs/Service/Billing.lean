import CourierDispatch.Proofs.Service.Bookings
import CourierDispatch.Proofs.Service.Readings

/-!
# What trips are billed

What the records of trips are made of, if no id is drawn twice (`Billing`): each trip goes by a quote that
was computed for it, its cost is the one that was recorded last for it, and a courier that was bound is
there. The cost was computed from records that still hold (`Reachable.basis`).
-/

namespace CourierDispatch

open Job

/-- A trip goes as it was quoted. -/
structure Trip.AsQuoted (t : Trip) (q : Quote) : Prop where
  start : t.start = q.pickup.point
  finish : t.finish = q.dropoff.point
  route : t.route = some q.routeRef

theorem Trip.AsQuoted.onward {t t' : Trip} {q : Quote} (h : t.AsQuoted q) (onward : t.Onward t') :
    t'.AsQuoted q :=
  ⟨onward.start.trans h.start, onward.finish.trans h.finish, onward.route.trans h.route⟩

theorem Trip.AsQuoted.of_onward {t t' : Trip} {q : Quote} (h : t'.AsQuoted q) (onward : t.Onward t') :
    t.AsQuoted q :=
  ⟨onward.start.symm.trans h.start, onward.finish.symm.trans h.finish,
    onward.route.symm.trans h.route⟩

/-- The cost that was recorded for a trip. -/
def Exchange.costOf? (trip : Uuid) : Exchange → Option UInt64
  | ⟨.store (.setTripCost id cost), .ok _⟩ => if id = trip then some cost else none
  | _ => none

theorem Exchange.costOf?_eq_some {x : Exchange} {trip : Uuid} {cost : UInt64} :
    x.costOf? trip = some cost ↔ x = ⟨.store (.setTripCost trip cost), .ok ()⟩ := by
  constructor
  · intro h
    unfold costOf? at h
    split at h
    · split at h
      · next same =>
        cases h
        cases same
        rfl
      · cases h
    · cases h
  · rintro rfl
    exact if_pos rfl

namespace World

variable {calls : Call → Prop} {w w' : World} {pid : Nat} {v : Verdict} {e : Effect} {r : e.Reply}
  {trip courier : Uuid} {cost : UInt64} {p : Progress} {rule : World → Move → Prop}

/-- The process that recorded a trip had computed this quote right before. -/
def QuotedAs (w : World) (trip : Uuid) (q : Quote) : Prop :=
  ∃ pid request t later past,
    w.trace pid = later ++ ⟨.store (.createTrip trip request), .ok t⟩ :: past ∧
    Quoted w.config past q

/-- The cost that was recorded last for a trip. -/
def recordedCost? (w : World) (trip : Uuid) : Option UInt64 :=
  w.history.findSome? (·.exchange.costOf? trip)

/-- The product that a courier has. -/
def Rides (w : World) (courier : Uuid) (product : Product) : Prop :=
  ∃ c, w.store.courier? courier = some c ∧ w.store.product? c.productId = some product

structure Billing (w : World) : Prop where
  quoted : ∀ trip t, w.store.trip? trip = some t → ∃ q, w.QuotedAs trip q ∧ t.AsQuoted q
  costs : ∀ trip, (w.store.trip? trip).bind Trip.cost = w.recordedCost? trip
  couriers : ∀ x ∈ w.history, ∀ trip courier, x.exchange.bound? = some (trip, courier) →
    ∃ c, w.store.courier? courier = some c

theorem billing_new {config : Config} {around : Surroundings}
    (h : World.new? config around = some w) : w.Billing := by
  obtain ⟨bus, rfl⟩ := eq_of_new? h
  constructor <;> simp [Store.empty, Store.trip?, recordedCost?]

theorem Billing.silent (h : w.Billing) (same : Silent w w') : w'.Billing := by
  obtain ⟨config, -, store, history, -, -⟩ := same
  refine ⟨?_, ?_, ?_⟩ <;> simp only [QuotedAs, recordedCost?, trace, store, history, config]
  · exact h.quoted
  · exact h.costs
  · exact h.couriers

theorem QuotedAs.noted {q : Quote} (h : w.QuotedAs trip q) (step : Noted calls w pid v e r w') :
    w'.QuotedAs trip q := by
  obtain ⟨maker, request, t, later, past, split, quoted⟩ := h
  obtain ⟨used, -, reply⟩ := step.replied
  have same := trace_noted step maker
  rw [← reply.config] at quoted
  by_cases own : pid = maker
  · rw [if_pos own, split] at same
    exact ⟨maker, request, t, ⟨e, r⟩ :: later, past, same, quoted⟩
  · rw [if_neg own, split] at same
    exact ⟨maker, request, t, later, past, same, quoted⟩

/-- A trip that a step leaves goes by its quote. -/
theorem Noted.quoted (step : Noted calls w pid v e r w') (h : w.Billing) (fresh : w.FreshIds)
    {t' : Trip} (there : w'.store.trip? trip = some t') : ∃ q, w'.QuotedAs trip q ∧ t'.AsQuoted q := by
  cases found : w.store.trip? trip with
  | some t =>
    obtain ⟨q, made, quoted⟩ := h.quoted trip t found
    obtain ⟨t'', there', onward⟩ := step.onward fresh found
    rw [there] at there'
    cases there'
    exact ⟨q, made.noted step, quoted.onward onward⟩
  | none =>
    rcases step.trip_step trip with same | ⟨op, a, performed, -, change⟩
    · rw [same, found] at there
      cases there
    · cases performed
      rw [found, there] at change
      generalize before : none = old at change
      generalize behind : some t' = new at change
      cases change with
      | created asked =>
        cases behind
        subst asked
        obtain ⟨q, quoted, asked⟩ := (step.deals_apart nofun).quoted _ _ rfl
        obtain ⟨used, -, reply⟩ := step.replied
        rw [← reply.config] at quoted
        refine ⟨q, ⟨pid, _, a, [], _, ?_, quoted⟩, asked.start, asked.finish, asked.route⟩
        rw [trace_noted step, if_pos rfl]
        rfl
      | same => cases before.trans behind.symm
      | _ => cases before

/-- The cost of a trip is what was recorded for it. -/
theorem Noted.costs (step : Noted calls w pid v e r w') (h : w.Billing) (fresh : w.FreshIds)
    (trip : Uuid) : (w'.store.trip? trip).bind Trip.cost = w'.recordedCost? trip := by
  have noted : w'.recordedCost? trip = (Exchange.costOf? trip ⟨e, r⟩).or (w.recordedCost? trip) := by
    rw [recordedCost?, step.history, List.findSome?_cons]
    cases told : Exchange.costOf? trip ⟨e, r⟩ <;> simp [Event.exchange, told, recordedCost?]
  rw [noted, ← h.costs]
  cases told : Exchange.costOf? trip ⟨e, r⟩ with
  | some cost =>
    cases Exchange.costOf?_eq_some.1 told
    obtain ⟨t, -, same⟩ := Store.setTripCost_ok (step.told nofun)
    rw [same, Store.trip?_insertTrip, if_pos rfl]
    rfl
  | none =>
    rw [Option.none_or]
    rcases step.trip_step trip with same | ⟨op, a, performed, -, change⟩
    · rw [same]
    · cases performed
      generalize before : w.store.trip? trip = old at change ⊢
      generalize w'.store.trip? trip = new at change ⊢
      cases change with
      | created asked =>
        subst asked
        have unused := (fresh.unused pid trip step.conduct.fresh).1
        rw [before] at unused
        rw [unused]
        rfl
      | priced asked t =>
        subst asked
        simp [Exchange.costOf?] at told
      | same | moved | bound | confirmed => rfl

theorem Billing.noted (h : w.Billing) (records : w.Records) (step : Noted calls w pid v e r w') :
    w'.Billing where
  quoted _ _ there := step.quoted h records.fresh there
  costs := step.costs h records.fresh
  couriers x noted trip courier bound := by
    rw [step.history] at noted
    rcases List.mem_cons.1 noted with rfl | old
    · obtain ⟨-, c, known, -⟩ := Store.linked_of_assignCourier (step.bound bound)
      exact ⟨c, known⟩
    · obtain ⟨c, known⟩ := h.couriers x old trip courier bound
      obtain ⟨c', known', -⟩ := step.keeps_product records.fresh known
      exact ⟨c', known'⟩

theorem Reachable.billing (reach : w.Reachable rule) (distinct : w.IdsDistinct) : w.Billing :=
  reach.readings_induction (fun _ _ same h => h.silent same)
    (fun _ _ _ _ _ _ records _ step _ h => h.noted records step) distinct fun _ _ _ => billing_new

/-! ## The computation of a fare -/

/-- A computed fare belongs to a binding: the trip has the courier, and the courier a product. -/
theorem Reachable.booked (reach : w.Reachable rule) (distinct : w.IdsDistinct)
    (found : w.processes[pid]? = some ⟨.fare trip courier, p⟩) :
    (∃ t, w.store.trip? trip = some t ∧ t.courierId = some courier) ∧
      ∃ product, w.Rides courier product := by
  have computed : (trip, courier) ∈ w.fares :=
    List.mem_filterMap.2 ⟨_, List.mem_of_getElem? found, rfl⟩
  have made : (trip, courier) ∈ w.bindings :=
    reach.bindings_perm.mem_iff.2 (List.mem_append_left _ computed)
  obtain ⟨x, noted, bound⟩ := List.mem_filterMap.1 made
  obtain ⟨records, readings⟩ := reach.readings distinct
  obtain ⟨c, known⟩ := (reach.billing distinct).couriers x noted trip courier bound
  obtain ⟨product, there⟩ := readings.stocked courier c known
  exact ⟨records.bound x noted trip courier bound, product, c, known, there⟩

theorem Rides.unique {a b : Product} (h : w.Rides courier a) (h' : w.Rides courier b) : a = b := by
  obtain ⟨c, known, there⟩ := h
  obtain ⟨c', known', there'⟩ := h'
  rw [known] at known'
  cases known'
  rw [there] at there'
  exact Option.some.inj there'

/-- What a fare was computed from. -/
theorem Traced.basis (h : w.Traced calls) (found : w.processes[pid]? = some ⟨.fare trip courier, p⟩)
    {r : (Effect.store (.setTripCost trip cost)).Reply}
    (asked : ⟨.store (.setTripCost trip cost), r⟩ ∈ w.trace pid) :
    ∃ (b : Fare.Basis) (later own : List Exchange) (distance : UInt64),
      w.trace pid = later ++ own ++ b.reads trip courier ∧
      (Quote.chargedDistance w.config.routing b.trip).run.Leads own (.done (.ok distance)) ∧
      cost = w.config.pricer.price b.product distance := by
  obtain ⟨newer, past, split⟩ := List.append_of_mem asked
  obtain ⟨b, own, distance, rfl, leads, price⟩ := (h.course found split).charged
  exact ⟨b, newer ++ [⟨_, r⟩], own, distance, by rw [split]; simp, leads, price⟩

/-- The records that a fare was computed from still hold. -/
theorem Readings.basis (h : w.Readings) {b : Fare.Basis}
    (read : ∀ x ∈ b.reads trip courier, x ∈ w.trace pid) :
    (∃ t, w.store.trip? trip = some t ∧ b.trip.Onward t) ∧ w.Rides courier b.product := by
  have noted {x : Exchange} (member : x ∈ b.reads trip courier) :
      ∃ y ∈ w.history, y.exchange = x := by
    obtain ⟨y, noted, -, exchange⟩ := mem_traceOf.1 (read x member)
    exact ⟨y, noted, exchange⟩
  obtain ⟨y, seen, trip_⟩ := noted (x := ⟨.store (.getTrip trip), .ok (some b.trip)⟩)
    (by simp [Fare.Basis.reads])
  obtain ⟨y', seen', courier_⟩ := noted (x := ⟨.store (.getCourier courier), .ok (some b.courier)⟩)
    (by simp [Fare.Basis.reads])
  obtain ⟨y'', seen'', product⟩ :=
    noted (x := ⟨.store (.getProduct b.courier.productId), .ok (some b.product)⟩)
      (by simp [Fare.Basis.reads])
  obtain ⟨c, known, same⟩ := h.courier y' seen' courier b.courier courier_
  exact ⟨h.trip y seen trip b.trip trip_, c, known, same ▸ h.product y'' seen'' _ _ product⟩

end World

end CourierDispatch
