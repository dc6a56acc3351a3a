import CourierDispatch.Proofs.Charging
import CourierDispatch.Proofs.Geo.RouteKey
import CourierDispatch.Proofs.Service.Supplies

/-!
# The fare of a trip with a confirmed pickup

A fare is computed once, behind the binding, from the trip as it is then. If the pickup that the trip has
is the one that the computation saw, the cost is the price of the way from there (`fare_follows_seen_pickup`);
a pickup that is confirmed later changes the cost no more. And the way is what the provider answers for
points that are written alike with eight decimals, since that is what the cache tells apart. Both limits
are met by runs of a service in which nothing fails (`fare_trails_pickup`).
-/

namespace CourierDispatch

open Job

namespace World

variable {w : World} {pid : Nat} {trip courier : Uuid} {p : Progress} {t : Trip}

/-- The fare of a trip was computed with this pickup confirmed, or with none. -/
def PricedFrom (w : World) (trip : Uuid) (pickup : Option GeoPoint) : Prop :=
  ∃ pid courier p seen, w.processes[pid]? = some ⟨.fare trip courier, p⟩ ∧ w.Saw pid trip seen ∧
    seen.confirmedPickup = pickup

/-- A way that was looked up is one that the provider answers for points that are written alike, and for
the points themselves where there is no cache. -/
theorem Sourced.lookedUp (h : w.Sourced) {a b : GeoPoint} {key : String} {way : Directions}
    (found : w.LookedUp pid a b (.ok (key, way))) :
    ∃ n a' b', Geo.rendering a' = Geo.rendering a ∧ Geo.rendering b' = Geo.rendering b ∧
      w.around.directions n a' b' = .ok way ∧
      (w.config.cacheEnabled = false → a' = a ∧ b' = b) := by
  obtain ⟨own, inside, leads⟩ := found
  obtain ⟨keyed, source⟩ := (meets_directionsBetween a b []).of_leads leads key way rfl
  rcases source with ⟨on, read⟩ | ⟨asked, -⟩
  · obtain ⟨x, noted, -, exchange⟩ := mem_traceOf.1 (inside.subset read)
    obtain ⟨n, a', b', same, answer⟩ := h.read x noted key way exchange
    obtain ⟨first, second⟩ := Geo.routeKey_eq_iff.1 (same.symm.trans keyed)
    refine ⟨n, a', b', first, second, answer, fun off => ?_⟩
    change w.config.cacheEnabled = true at on
    rw [off] at on
    cases on
  · obtain ⟨x, noted, -, exchange⟩ := mem_traceOf.1 (inside.subset asked)
    obtain ⟨n, answer⟩ := h.answered x noted a b way exchange
    exact ⟨n, a, b, rfl, rfl, answer, fun _ => ⟨rfl, rfl⟩⟩

/-- The cost of a trip whose pickup is the one that its fare was computed with. -/
theorem fare_follows_seen_pickup (reach : w.Reachable (Enters fun call => call.keepsNothing))
    (distinct : w.IdsDistinct) (fixed : ∀ n, w.around.directions n = w.around.directions 0)
    (found : w.store.trip? trip = some t) (bound : t.courierId = some courier) {cost : UInt64}
    (priced : t.cost = some cost) {pickup : GeoPoint} (confirmed : t.confirmedPickup = some pickup)
    (from_ : w.PricedFrom trip t.confirmedPickup) :
    ∃ product a b way, w.Rides courier product ∧ Geo.rendering a = Geo.rendering t.pickup ∧
      Geo.rendering b = Geo.rendering t.finish ∧ w.around.directions 0 a b = .ok way ∧
      cost = w.config.pricer.price product way.distanceMeters ∧
      (w.config.cacheEnabled = false → a = t.pickup ∧ b = t.finish) := by
  have traced : w.Traced fun _ => True := reach.traced fun _ _ _ => enters_any
  obtain ⟨x, noted, recorded⟩ := (reach.cost_iff distinct found).1 priced
  have asked : x.exchange.charges? = some trip := by rw [recorded]; rfl
  obtain ⟨named, p, computing⟩ := traced.charges noted asked
  obtain ⟨pid, other, p', seen, computing', saw, same⟩ := from_
  obtain rfl := fare_unique (reach.fares_nodup distinct) computing computing'
  obtain ⟨⟨t', found', bound'⟩, product, rides⟩ := reach.booked distinct computing
  rw [found] at found'
  cases found'
  rw [bound] at bound'
  cases bound'
  have charges : w.Charges x.process trip cost :=
    ⟨.ok (), mem_traceOf.2 ⟨x, noted, rfl, recorded⟩⟩
  obtain ⟨key, way, lookedUp, rfl⟩ :=
    reach.charges_way distinct computing saw rides (same.trans confirmed) cost charges
  obtain ⟨t'', found'', onward⟩ := reach.seen distinct saw
  rw [found] at found''
  cases found''
  have pickup_ : t.pickup = pickup := by rw [Trip.pickup, confirmed]; rfl
  obtain ⟨n, a, b, first, second, answer, exact_⟩ :=
    (reach.sourced fun _ _ enters => enters).lookedUp lookedUp
  rw [fixed n] at answer
  rw [pickup_, onward.finish]
  exact ⟨product, a, b, way, rides, first, second, answer, rfl, exact_⟩

/-! ## A service with two distances -/

/-- The way is longer from one place than from everywhere else. -/
def farFrom (far : GeoPoint) : Surroundings :=
  { Trial.around with
    directions := fun _ a _ => .ok ⟨"way", if a = far then 9000 else 5000, 600, 540⟩ }

def gate : GeoPoint := ⟨1.0, 2.0⟩

def stockUp : List Move :=
  .enter (.request ⟨"POST", "/products", some "application/json",
    "\x7b\"name\":\"van\",\"weight_class\":1000000\x7d"⟩) :: Trial.steps 0 3 ++
    Trial.stock.drop 4 ++ Trial.locateAtDepot 2

/-- The pickup is confirmed before the courier is bound. -/
def confirmedEarly : World :=
  (openWith true (farFrom gate)).run (stockUp ++ .enter Trial.requestFromDepot :: Trial.steps 3 9 ++
    .enter (.confirmPickup Trial.trip gate) :: Trial.steps 5 3 ++ Trial.steps 4 30 ++ Trial.steps 6 9)

theorem fare_follows_seen_pickup_early :
    confirmedEarly.Reachable (Enters fun call => call.keepsNothing) ∧ confirmedEarly.IdsDistinct ∧
    (∀ n, confirmedEarly.around.directions n = confirmedEarly.around.directions 0) ∧
    ∃ t product a b way, confirmedEarly.store.trip? Trial.trip = some t ∧
      confirmedEarly.PricedFrom Trial.trip t.confirmedPickup ∧ t.pickup = gate ∧
      confirmedEarly.Rides Trial.courier product ∧ Geo.rendering a = Geo.rendering gate ∧
      confirmedEarly.around.directions 0 a b = .ok way ∧
      t.cost = some (confirmedEarly.config.pricer.price product way.distanceMeters) := by
  have ⟨distinct, record, task, told⟩ : confirmedEarly.IdsDistinct ∧
      (confirmedEarly.store.trip? Trial.trip).any (fun t => t.courierId = some Trial.courier ∧
        t.cost = some 3600000 ∧ t.confirmedPickup = some gate) ∧
      (confirmedEarly.processes[6]?).map Process.task = some (.fare Trial.trip Trial.courier) ∧
      (confirmedEarly.told? 6 Trial.trip).map Trip.confirmedPickup = some (some gate) := by
    decide +kernel
  have reach : confirmedEarly.Reachable Undisturbed := undisturbed_of_calm (by decide)
  have reach := reach.mono fun w m => enters_of_undisturbed (w := w) (m := m)
  have fixed (n : Nat) : confirmedEarly.around.directions n = confirmedEarly.around.directions 0 := by
    rw [show confirmedEarly.around = farFrom gate from (given_run _ _).2]
    rfl
  obtain ⟨t, found, facts⟩ := (Option.any_eq_true _ _).1 record
  obtain ⟨bound, priced, confirmed⟩ := of_decide_eq_true facts
  obtain ⟨⟨_, p⟩, computing, rfl⟩ := Option.map_eq_some_iff.1 task
  obtain ⟨seen, told, same⟩ := Option.map_eq_some_iff.1 told
  have from_ : confirmedEarly.PricedFrom Trial.trip t.confirmedPickup :=
    ⟨6, _, p, seen, computing, told?_eq_some.1 told, same.trans confirmed.symm⟩
  obtain ⟨product, a, b, way, rides, first, -, answer, cost, -⟩ :=
    fare_follows_seen_pickup reach distinct fixed found bound priced confirmed from_
  have pickup : t.pickup = gate := by rw [Trip.pickup, confirmed]; rfl
  exact ⟨reach, distinct, fixed, t, product, a, b, way, found, from_, pickup, rides, pickup ▸ first,
    answer, cost ▸ priced⟩

/-! ## Runs in which the fare does not follow -/

/-- Each trip with a confirmed pickup costs what the way from there does. -/
def FollowsPickup (w : World) : Prop :=
  ∀ trip t courier cost pickup product way, w.store.trip? trip = some t →
    t.courierId = some courier → t.cost = some cost → t.confirmedPickup = some pickup →
    w.Rides courier product → w.around.directions 0 t.pickup t.finish = .ok way →
    cost = w.config.pricer.price product way.distanceMeters

/-- The trip costs something else than the way from its confirmed pickup. -/
def strays (w : World) (trip : Uuid) : Option Bool := do
  let t ← w.store.trip? trip
  let cost ← t.cost
  let _ ← t.confirmedPickup
  let c ← w.store.courier? (← t.courierId)
  let product ← w.store.product? c.productId
  let way ← (w.around.directions 0 t.pickup t.finish).toOption
  return cost ≠ w.config.pricer.price product way.distanceMeters

theorem not_followsPickup (strays : w.strays trip = some true) : ¬ w.FollowsPickup := by
  intro follows
  simp only [World.strays, Option.bind_eq_bind, Option.bind_eq_some_iff, Option.pure_def,
    Option.some.injEq, decide_eq_true_eq] at strays
  obtain ⟨t, found, cost, priced, pickup, confirmed, courier, bound, c, known, product, stocked, way,
    answer, differs⟩ := strays
  have answered : w.around.directions 0 t.pickup t.finish = .ok way := by
    cases answers : w.around.directions 0 t.pickup t.finish with
    | ok way' => rw [answers] at answer; cases answer; rfl
    | error err => rw [answers] at answer; cases answer
  exact differs (follows trip t courier cost pickup product way found bound priced confirmed
    ⟨c, known, stocked⟩ answered)

/-- Nothing is under way. -/
def AtRest (w : World) : Prop := ∀ p ∈ w.processes, p.progress matches .ended _ | .broken

instance : Decidable w.AtRest :=
  inferInstanceAs (Decidable (∀ p ∈ w.processes, (p.progress matches .ended _ | .broken) = true))

/-- A place that is written like the gate with eight decimals. -/
def besideGate : GeoPoint := ⟨1.000000000001, 2.0⟩

/-- The pickup is confirmed when the fare has been recorded. -/
def confirmedLate : World :=
  (openWith false (farFrom gate)).run (stockUp ++ .enter Trial.requestFromDepot :: Trial.steps 3 9 ++
    Trial.steps 4 30 ++ Trial.steps 5 9 ++ .enter (.confirmPickup Trial.trip gate) :: Trial.steps 6 3)

/-- The pickup is confirmed before the courier is bound, beside one for which a way is kept. -/
def confirmedBeside : World :=
  (openWith true (farFrom besideGate)).run (stockUp ++ .enter Trial.requestFromDepot ::
    Trial.steps 3 9 ++ .enter (.computeRoute ⟨"", "", gate⟩ ⟨"", "", ⟨1.0, 3.0⟩⟩) :: Trial.steps 5 7 ++
    .enter (.confirmPickup Trial.trip besideGate) :: Trial.steps 6 3 ++ Trial.steps 4 30 ++
    Trial.steps 7 9)

/-- It is not so that the cost follows the confirmed pickup: not even without a cache, nor where the
pickup is the one that the fare was computed with. -/
theorem fare_trails_pickup :
    (¬ ∀ w : World, w.Reachable Undisturbed → w.IdsDistinct →
      (∀ n, w.around.directions n = w.around.directions 0) → w.AtRest →
      w.config.cacheEnabled = false → w.FollowsPickup) ∧
    ¬ ∀ w : World, w.Reachable Undisturbed → w.IdsDistinct →
      (∀ n, w.around.directions n = w.around.directions 0) → w.AtRest →
      (∀ t, w.store.trip? Trial.trip = some t → w.PricedFrom Trial.trip t.confirmedPickup) →
      w.FollowsPickup := by
  constructor
  · intro follows
    have ⟨distinct, rest, strays⟩ : confirmedLate.IdsDistinct ∧ confirmedLate.AtRest ∧
        confirmedLate.strays Trial.trip = some true := by
      decide +kernel
    obtain ⟨config, around⟩ : confirmedLate.config = { Trial.config with cacheEnabled := false } ∧
        confirmedLate.around = farFrom gate := given_run _ _
    have fixed (n : Nat) : confirmedLate.around.directions n = confirmedLate.around.directions 0 := by
      rw [around]
      rfl
    have reach : confirmedLate.Reachable Undisturbed := undisturbed_of_calm (by decide)
    exact not_followsPickup strays (follows _ reach distinct fixed rest (by rw [config]))
  · intro follows
    have ⟨distinct, rest, strays, task, saw⟩ : confirmedBeside.IdsDistinct ∧ confirmedBeside.AtRest ∧
        confirmedBeside.strays Trial.trip = some true ∧
        (confirmedBeside.processes[7]?).map Process.task = some (.fare Trial.trip Trial.courier) ∧
        (confirmedBeside.told? 7 Trial.trip).map Trip.confirmedPickup =
          (confirmedBeside.store.trip? Trial.trip).map Trip.confirmedPickup := by
      decide +kernel
    obtain ⟨-, around⟩ : _ ∧ confirmedBeside.around = farFrom besideGate := given_run _ _
    have fixed (n : Nat) :
        confirmedBeside.around.directions n = confirmedBeside.around.directions 0 := by
      rw [around]
      rfl
    have reach : confirmedBeside.Reachable Undisturbed := undisturbed_of_calm (by decide)
    refine not_followsPickup strays (follows _ reach distinct fixed rest fun t found => ?_)
    obtain ⟨⟨_, p⟩, computing, rfl⟩ := Option.map_eq_some_iff.1 task
    rw [found] at saw
    obtain ⟨seen, told, same⟩ := Option.map_eq_some_iff.1 saw
    exact ⟨7, _, p, seen, computing, told?_eq_some.1 told, same⟩

end World

end CourierDispatch
