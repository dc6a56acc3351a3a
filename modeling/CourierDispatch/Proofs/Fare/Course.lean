import CourierDispatch.Proofs.Conduct.Calls

/-!
# The course of a fare computation

The computation of a fare reads the trip, its courier and the courier's product, finds the distance that
is charged, and records the price (`Course`). The distance of a trip that goes as it was quoted is the
quoted one, and nobody is asked for it (`chargedDistance_of_quoted`); once a pickup was confirmed, it is
that of the way from there (`way_of_confirmed`). The computation fails only where a record
cannot be read or written, or a way not be found (`Ended`).
-/

namespace CourierDispatch

/-- The trip whose cost was to be recorded. -/
def Exchange.charges? : Exchange → Option Uuid
  | ⟨.store (.setTripCost trip _), _⟩ => some trip
  | _ => none

theorem Exchange.charges?_eq_some {x : Exchange} {trip : Uuid} :
    x.charges? = some trip ↔ ∃ cost, x.effect = .store (.setTripCost trip cost) := by
  obtain ⟨e, r⟩ := x
  cases e with
  | store op => cases op <;> simp [charges?]
  | _ => simp [charges?]

theorem Exchange.charges?_of_inquires {x : Exchange} (inquires : x.effect.inquires) :
    x.charges? = none := by
  obtain ⟨e, r⟩ := x
  cases e with
  | store op => cases op <;> first | rfl | cases inquires
  | _ => rfl

namespace Fare

open Job

/-- The records that a fare is computed from. -/
structure Basis where
  trip : Trip
  courier : Courier
  product : Product

/-- How they were read, the latest first. -/
def Basis.reads (b : Basis) (trip courier : Uuid) : List Exchange :=
  [⟨.store (.getProduct b.courier.productId), .ok (some b.product)⟩,
    ⟨.store (.getCourier courier), .ok (some b.courier)⟩,
    ⟨.store (.getTrip trip), .ok (some b.trip)⟩]

variable (c : RouteConfig) (pricer : Pricer) (trip courier : Uuid)

/-- What the computation asks for next. -/
inductive Course : List Exchange → Effect → Prop
  | trip : Course [] (.store (.getTrip trip))
  | courier (t : Trip) : Course [⟨.store (.getTrip trip), .ok (some t)⟩] (.store (.getCourier courier))
  | product (t : Trip) (bound : Courier) :
      Course [⟨.store (.getCourier courier), .ok (some bound)⟩,
        ⟨.store (.getTrip trip), .ok (some t)⟩] (.store (.getProduct bound.productId))
  | way (b : Basis) {own : List Exchange} {e : Effect}
      {next : e.Reply → Job (Except DispatchError UInt64)}
      (leads : (Quote.chargedDistance c b.trip).run.Leads own (.act e next)) :
      Course (own ++ b.reads trip courier) e
  | cost (b : Basis) {own : List Exchange} {distance : UInt64}
      (leads : (Quote.chargedDistance c b.trip).run.Leads own (.done (.ok distance))) :
      Course (own ++ b.reads trip courier)
        (.store (.setTripCost trip (pricer.price b.product distance)))

/-- How the computation ends. -/
inductive Ended : List Exchange → Except DispatchError UInt64 → Prop
  | recorded (b : Basis) {own : List Exchange} {distance : UInt64}
      (leads : (Quote.chargedDistance c b.trip).run.Leads own (.done (.ok distance))) :
      Ended (⟨.store (.setTripCost trip (pricer.price b.product distance)), .ok ()⟩ ::
        (own ++ b.reads trip courier)) (.ok (pricer.price b.product distance))
  | refused {past : List Exchange} {op : StoreOp} (asked : Course c pricer trip courier past (.store op))
      (err : DispatchError) : Ended (⟨.store op, .error err⟩ :: past) (.error err)
  | absent {past : List Exchange} {op : StoreOp} {r : (Effect.store op).Reply}
      (asked : Course c pricer trip courier past (.store op))
      (nothing : (Effect.store op).nothing = some r) (err : DispatchError) :
      Ended (⟨.store op, r⟩ :: past) (.error err)
  | lost (b : Basis) {own : List Exchange} {err : DispatchError}
      (leads : (Quote.chargedDistance c b.trip).run.Leads own (.done (.error err))) :
      Ended (own ++ b.reads trip courier) (.error err)

theorem meets_record : Meets (Course c pricer trip courier)
    (fun past o => ∃ r, o = some r ∧ Ended c pricer trip courier past r) []
    (record c pricer trip courier).run := by
  refine ⟨.trip, fun t _ => ?_⟩
  rcases t with err | _ | t
  · exact ⟨_, rfl, .refused .trip err⟩
  · exact ⟨_, rfl, .absent .trip rfl _⟩
  refine ⟨.courier t, fun bound _ => ?_⟩
  rcases bound with err | _ | bound
  · exact ⟨_, rfl, .refused (.courier t) err⟩
  · exact ⟨_, rfl, .absent (.courier t) rfl _⟩
  refine ⟨.product t bound, fun product _ => ?_⟩
  rcases product with err | _ | product
  · exact ⟨_, rfl, .refused (.product t bound) err⟩
  · exact ⟨_, rfl, .absent (.product t bound) rfl _⟩
  let b : Basis := ⟨t, bound, product⟩
  have ends : Meets (fun _ _ => True) (fun _ o => True ∧ ∃ r, o = some r ∧ True) (b.reads trip courier)
      (Quote.chargedDistance c t).run :=
    (Quote.inquires_chargedDistance c t).meets trivial (fun _ _ _ _ => trivial) fun _ _ _ _ _ => trivial
  have finding : Meets (Course c pricer trip courier)
      (fun past' o => ∃ own r, past' = own ++ b.reads trip courier ∧ o = some r ∧
        (Quote.chargedDistance c t).run.Leads own (.done r)) (b.reads trip courier)
      (Quote.chargedDistance c t).run :=
    (ends.and (meets_own _ _)).mono
      (fun _ _ ⟨_, own, next, same, leads⟩ => same ▸ .way b leads)
      fun _ _ ⟨⟨_, r, ended, _⟩, own, same, leads⟩ => ⟨own, r, same, ended, leads r ended⟩
  have pricing : Meets (Course c pricer trip courier)
      (fun past' o => ∃ own r, past' = own ++ b.reads trip courier ∧
        o = some (r.map (pricer.price product)) ∧
        (Quote.chargedDistance c t).run.Leads own (.done r)) (b.reads trip courier)
      (Quote.priceTrip c pricer t product).run := by
    refine finding.bind (fun _ ⟨_, _, _, none_, _⟩ => nomatch none_) fun past' r ended => ?_
    obtain ⟨own, r', same, found, leads⟩ := ended
    cases found
    cases r <;> exact ⟨own, _, same, rfl, leads⟩
  refine pricing.bind (fun _ ⟨_, _, _, none_, _⟩ => nomatch none_) fun past' r ended => ?_
  obtain ⟨own, distance, rfl, same, leads⟩ := ended
  cases distance with
  | error err =>
    cases same
    exact ⟨_, rfl, .lost b leads⟩
  | ok distance =>
    cases same
    refine ⟨.cost b leads, fun written _ => ?_⟩
    cases written with
    | error err => exact ⟨_, rfl, .refused (.cost b leads) err⟩
    | ok _ => exact ⟨_, rfl, .recorded b leads⟩

theorem meets_fareJob (c : Config) (trip courier : Uuid) :
    Meets (Course c.routing c.pricer trip courier)
      (fun past o => ∃ r, o = some (.fare r) ∧ Ended c.routing c.pricer trip courier past r) []
      (World.fareJob c trip courier) :=
  ((meets_record c.routing c.pricer trip courier).mono (fun _ _ asks => asks)
    (by rintro past _ ⟨r, rfl, ended⟩; exact ⟨r, rfl, ended⟩)).map

variable {c pricer trip courier}

/-- The cost is recorded last of all. -/
theorem Course.unpriced {past : List Exchange} {e : Effect} (h : Course c pricer trip courier past e) :
    ∀ x ∈ past, x.charges? = none := by
  have found {b : Basis} {own : List Exchange} {j : Job (Except DispatchError UInt64)}
      (leads : (Quote.chargedDistance c b.trip).run.Leads own j) :
      ∀ x ∈ own ++ b.reads trip courier, x.charges? = none := by
    intro x member
    rcases List.mem_append.1 member with asked | read
    · exact Exchange.charges?_of_inquires
        (((Quote.inquires_chargedDistance c b.trip).of_leads leads).2 x asked)
    · simp only [Basis.reads, List.mem_cons, List.not_mem_nil, or_false] at read
      rcases read with rfl | rfl | rfl <;> rfl
  cases h with
  | trip => simp
  | courier t => simp [Exchange.charges?]
  | product t bound => simp [Exchange.charges?]
  | way b leads => exact found leads
  | cost b leads => exact found leads

/-- A cost that is to be recorded is the price of the distance that was found. -/
theorem Course.charged {past : List Exchange} {cost : UInt64}
    (h : Course c pricer trip courier past (.store (.setTripCost trip cost))) :
    ∃ (b : Basis) (own : List Exchange) (distance : UInt64), past = own ++ b.reads trip courier ∧
      (Quote.chargedDistance c b.trip).run.Leads own (.done (.ok distance)) ∧
      cost = pricer.price b.product distance := by
  generalize effect : Effect.store (.setTripCost trip cost) = e at h
  cases h with
  | trip | courier | product => cases effect
  | way b leads =>
    have asks := ((Quote.inquires_chargedDistance c b.trip).of_leads leads).1.1
    subst effect
    cases asks
  | cost b leads =>
    cases effect
    exact ⟨b, _, _, rfl, leads, rfl⟩

/-! ## The distance that is charged -/

variable {t : Trip} {own : List Exchange}

/-- Nobody is asked for the distance of a trip that goes as it was quoted. -/
theorem chargedDistance_of_quoted {route : RouteRef} (quoted : t.route = some route)
    (unconfirmed : t.confirmedPickup = none) :
    (Quote.chargedDistance c t).run = .done (.ok route.distanceMeters) := by
  simp only [Quote.chargedDistance, quoted, unconfirmed]
  rfl

/-- Once a pickup was confirmed, the way from there is looked up. -/
theorem chargedDistance_of_confirmed {pickup : GeoPoint} (confirmed : t.confirmedPickup = some pickup) :
    Quote.chargedDistance c t =
      Quote.directionsBetween c pickup t.finish >>= fun found => pure found.2.distanceMeters := by
  have from_pickup : t.pickup = pickup := by rw [Trip.pickup, confirmed]; rfl
  unfold Quote.chargedDistance
  rw [confirmed, from_pickup]
  cases t.route <;> rfl

/-- The distance of the way that was found is charged. -/
theorem way_of_confirmed {pickup : GeoPoint} (confirmed : t.confirmedPickup = some pickup)
    {distance : UInt64}
    (leads : (Quote.chargedDistance c t).run.Leads own (.done (.ok distance))) :
    ∃ key way, (Quote.directionsBetween c pickup t.finish).run.Leads own (.done (.ok (key, way))) ∧
      distance = way.distanceMeters := by
  rw [chargedDistance_of_confirmed confirmed] at leads
  obtain ⟨⟨key, way⟩, first, second, rfl, found, behind⟩ := Attempt.split_ok leads
  obtain ⟨rfl, same⟩ := Leads.of_done behind
  cases same
  exact ⟨key, way, found, rfl⟩

/-- No distance is found only if no way is. -/
theorem lost_of_confirmed {pickup : GeoPoint} (confirmed : t.confirmedPickup = some pickup)
    {err : DispatchError}
    (leads : (Quote.chargedDistance c t).run.Leads own (.done (.error err))) :
    (Quote.directionsBetween c pickup t.finish).run.Leads own (.done (.error err)) := by
  rw [chargedDistance_of_confirmed confirmed] at leads
  obtain ⟨r, first, second, rfl, found, behind⟩ :=
    Leads.split_done (j := (Quote.directionsBetween c pickup t.finish).run) leads
  cases r with
  | ok found' => cases (Leads.of_done behind).2
  | error err' =>
    obtain ⟨rfl, same⟩ := Leads.of_done behind
    cases same
    exact found

/-- What is asked of the store. -/
theorem Course.asked {past : List Exchange} {op : StoreOp}
    (h : Course c pricer trip courier past (.store op)) :
    op = .getTrip trip ∨ op = .getCourier courier ∨
      (∃ bound, ⟨.store (.getCourier courier), .ok (some bound)⟩ ∈ past ∧
        op = .getProduct bound.productId) ∨ ∃ cost, op = .setTripCost trip cost := by
  generalize effect : Effect.store op = e at h
  cases h with
  | trip => cases effect; exact .inl rfl
  | courier => cases effect; exact .inr (.inl rfl)
  | product t bound => cases effect; exact .inr (.inr (.inl ⟨bound, by simp, rfl⟩))
  | way b leads =>
    have looks := ((Quote.looksUp_chargedDistance c b.trip).of_leads leads).1.1
    subst effect
    cases looks
  | cost => cases effect; exact .inr (.inr (.inr ⟨_, rfl⟩))

/-- A computation that sees a trip that goes as it was quoted asks only the store. -/
theorem Course.asks_store {past : List Exchange} {e : Effect}
    (h : Course c pricer trip courier past e) {route : RouteRef} (quoted : t.route = some route)
    (unconfirmed : t.confirmedPickup = none)
    (seen : ∀ x ∈ past.getLast?, x = ⟨.store (.getTrip trip), .ok (some t)⟩) :
    ∃ op, e = .store op := by
  cases h with
  | trip | courier | product | cost => exact ⟨_, rfl⟩
  | way b leads =>
    have read := seen ⟨.store (.getTrip trip), .ok (some b.trip)⟩ (by simp [Basis.reads])
    cases read
    rw [chargedDistance_of_quoted quoted unconfirmed] at leads
    cases (Leads.of_done leads).2

/-! ## The prices that are listed -/

/-- A quote lists the products that are on offer around the pickup, priced for its way. -/
theorem listed_of_quoted {pickup dropoff : PlaceInput} {q : Quote}
    (leads : (Quote.make c pricer pickup dropoff).run.Leads own (.done (.ok q))) :
    ∃ centre radius products, ⟨.store (.nearbyProducts centre radius), .ok products⟩ ∈ own ∧
      q.route.products = products.map fun p => ⟨p, pricer.price p q.route.distanceMeters⟩ := by
  obtain ⟨start, first, behind, rfl, -, leads⟩ := Attempt.split_ok leads
  obtain ⟨finish, second, behind, rfl, -, leads⟩ := Attempt.split_ok leads
  obtain ⟨⟨key, way⟩, third, behind, rfl, -, leads⟩ := Attempt.split_ok leads
  obtain ⟨listed, fourth, behind, rfl, pricing, leads⟩ := Attempt.split_ok leads
  obtain ⟨rfl, same⟩ := Leads.of_done leads
  cases same
  obtain ⟨products, fifth, behind, rfl, offered, pricing⟩ := Attempt.split_ok pricing
  obtain ⟨rfl, same⟩ := Leads.of_done pricing
  cases same
  obtain ⟨-, other⟩ | ⟨r, later, rfl, -, told⟩ := Leads.of_act offered
  · cases other
  · obtain ⟨rfl, same⟩ := Leads.of_done told
    cases same
    exact ⟨_, _, products, by simp, rfl⟩

end Fare

end CourierDispatch
