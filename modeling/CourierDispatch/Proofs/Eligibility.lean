import CourierDispatch.Proofs.Search.Process
import CourierDispatch.Proofs.Service.Trial
import CourierDispatch.Proofs.Store.Nearest

/-!
# Whom a search binds

A search binds the courier that it was shown when it looked around last. That courier was available
then, and within the search radius of the pickup. Until the binding the search waits, and the store
checks again only that the courier holds no trip. So what holds of the courier when it is bound is
what held when it was seen, as far as nobody has changed its status or its location since
(`binds_sighted`). A courier that has gone offline meanwhile is bound all the same
(`search_binds_offline_courier`).
-/

namespace CourierDispatch

/-- The status of a courier was changed. -/
def Exchange.turns (courier : Uuid) : Exchange → Bool
  | ⟨.store (.updateCourierStatus id _), .ok _⟩ => id = courier
  | _ => false

/-- The location of a courier was changed. -/
def Exchange.locates (courier : Uuid) : Exchange → Bool
  | ⟨.store (.updateCourierLocation id _), .ok _⟩ => id = courier
  | _ => false

/-- What is left of a courier that was seen, given what was noted since. -/
structure Courier.Kept (later : List Event) (seen c : Courier) : Prop where
  located : c.location.isSome
  status : (∀ x ∈ later, x.exchange.turns seen.id = false) → c.status = seen.status
  location : (∀ x ∈ later, x.exchange.locates seen.id = false) → c.location = seen.location

theorem Courier.Kept.next {later : List Event} {seen c : Courier}
    (kept : seen.Kept later c) (x : Event) : seen.Kept (x :: later) c :=
  ⟨kept.located, fun none_ => kept.status fun y old => none_ y (List.mem_cons_of_mem x old),
    fun none_ => kept.location fun y old => none_ y (List.mem_cons_of_mem x old)⟩

namespace World

variable {calls : Call → Prop} {w w' : World} {pid : Nat} {v : Verdict} {e : Effect} {r : e.Reply}
  {trip courier : Uuid} {pickup p : GeoPoint} {radius : Float} {seen c : Courier}

/-- A step leaves of a courier what it does not change. -/
theorem Noted.kept_courier (step : Noted calls w pid v e r w') (fresh : w.FreshIds)
    {later : List Event} (known : w.store.courier? seen.id = some c) (kept : seen.Kept later c) :
    ∃ c', w'.store.courier? seen.id = some c' ∧ seen.Kept (⟨w.now, pid, e, r⟩ :: later) c' := by
  have still := kept.next ⟨w.now, pid, e, r⟩
  have asks := step.conduct.fresh
  rcases step.courier_step seen.id with same | ⟨op, a, performed, -, change⟩
  · exact ⟨c, same ▸ known, still⟩
  · cases performed
    rw [known] at change
    generalize behind : w'.store.courier? seen.id = new at change
    cases change with
    | same => exact ⟨c, rfl, still⟩
    | recorded asked named =>
      subst asked
      rw [← named, (fresh.unused pid _ asks.1).2] at known
      cases known
    | located asked =>
      subst asked
      refine ⟨_, rfl, rfl, still.status, fun none_ => ?_⟩
      simpa [Event.exchange, Exchange.locates] using none_ _ List.mem_cons_self
    | moved asked =>
      subst asked
      refine ⟨_, rfl, still.located, fun none_ => ?_, still.location⟩
      simpa [Event.exchange, Exchange.turns] using none_ _ List.mem_cons_self
    | bound | freed => exact ⟨_, rfl, still.located, still.status, still.location⟩

/-! ## Sightings -/

/-- A courier that was shown to somebody who looked around, given what was noted since. -/
structure Sighted (w : World) (later : List Event) (p : GeoPoint) (radius : Float)
    (seen : Courier) : Prop where
  available : seen.available
  near : ∃ place, seen.location = some place ∧ Geo.within p radius place
  record : ∃ c, w.store.courier? seen.id = some c ∧ seen.Kept later c

structure Sightings (w : World) : Prop where
  fresh : w.FreshIds
  keyed : ∀ id c, w.store.courier? id = some c → c.id = id
  sighted : ∀ later x earlier p radius seen, w.history = later ++ x :: earlier →
    x.exchange = ⟨.store (.nearestAvailableCourier p radius), .ok (some seen)⟩ →
    w.Sighted later p radius seen

theorem sightings_new {config : Config} {around : Surroundings}
    (h : World.new? config around = some w) : w.Sightings := by
  have fresh := freshIds_new h
  obtain ⟨bus, rfl⟩ := eq_of_new? h
  exact ⟨fresh, by simp [Store.empty, Store.courier?], by simp⟩

theorem Sightings.silent (h : w.Sightings) (same : Silent w w') : w'.Sightings := by
  have fresh := h.fresh.silent same
  obtain ⟨-, -, store, history, -, -⟩ := same
  refine ⟨fresh, by rw [store]; exact h.keyed, fun later x earlier p radius seen split shown => ?_⟩
  obtain ⟨available, near, record⟩ := h.sighted later x earlier p radius seen (history ▸ split) shown
  exact ⟨available, near, by rwa [store]⟩

/-- Whoever is shown when a process looks around is available and near. -/
theorem Noted.sighted {r : (Effect.store (.nearestAvailableCourier p radius)).Reply}
    (step : Noted calls w pid v (.store (.nearestAvailableCourier p radius)) r w')
    (keyed : ∀ id c, w.store.courier? id = some c → c.id = id) (shown : r = .ok (some seen)) :
    w'.Sighted [] p radius seen := by
  subst shown
  obtain ⟨found, same⟩ := Store.unchanged_ok.1 (step.told (by simp [Effect.nothing]))
  obtain ⟨available, near, -⟩ := Store.nearestAvailable_some found
  refine ⟨available, near, seen, by rw [← same]; exact Store.known_of_nearestAvailable keyed found,
    ?_, fun _ => rfl, fun _ => rfl⟩
  obtain ⟨place, located, -⟩ := near
  rw [located]
  rfl

theorem Sightings.noted (h : w.Sightings) (step : Noted calls w pid v e r w')
    (distinct : w'.IdsDistinct) : w'.Sightings where
  fresh := h.fresh.noted step step.conduct.fresh distinct
  keyed _ _ known := step.couriers_keyed h.keyed known
  sighted later x earlier p radius seen split shown := by
    rw [step.history] at split
    cases later with
    | nil =>
      obtain ⟨rfl, -⟩ := List.cons.inj split
      cases shown
      exact step.sighted h.keyed rfl
    | cons y later =>
      obtain ⟨rfl, before⟩ := List.cons.inj split
      obtain ⟨available, near, c, known, kept⟩ :=
        h.sighted later x earlier p radius seen before shown
      exact ⟨available, near, step.kept_courier h.fresh known kept⟩

theorem Reachable.sightings {rule : World → Move → Prop} (reach : w.Reachable rule)
    (distinct : w.IdsDistinct) : w.Sightings :=
  reach.keeps distinct (fun _ _ _ => enters_any)
    (fun _ _ _ => sightings_new) (fun _ _ _ _ same h => h.silent same)
    fun _ _ _ _ _ _ _ _ _ step distinct h => h.noted step distinct

/-! ## The binding -/

/-- A process was shown a courier when it looked around last, and this was noted since. -/
def LastShown (w : World) (pid : Nat) (p : GeoPoint) (later : List Event) (seen : Courier) : Prop :=
  ∃ x earlier, w.history = later ++ x :: earlier ∧ x.process = pid ∧
    x.exchange =
      ⟨.store (.nearestAvailableCourier p w.config.searchRadius), .ok (some seen)⟩ ∧
    ∀ y ∈ later, y.process = pid → ∀ q r, y.effect ≠ .store (.nearestAvailableCourier q r)

/-- A search binds, to its own trip, the courier that it was shown when it looked around last. The
courier was available then, and near the pickup. It is located still and holds no trip, and it is
available and near as far as nobody has changed its status or its location since. -/
theorem binds_sighted (reach : w.Reachable fun _ _ => True) (distinct : w.IdsDistinct)
    (search : w.Searches pid trip pickup) {target : Uuid}
    (bound : (w.step pid v).deeds pid = w.deeds pid ++ [.bound target courier]) :
    target = trip ∧ ∃ later seen c, w.LastShown pid pickup later seen ∧ seen.id = courier ∧
      seen.available ∧
      (∃ place, seen.location = some place ∧ Geo.within pickup w.config.searchRadius place) ∧
      w.store.courier? courier = some c ∧ c.tripId = none ∧ c.location.isSome ∧
      ((∀ x ∈ later, x.exchange.turns courier = false) → c.status = .online) ∧
      ((∀ x ∈ later, x.exchange.locates courier = false) → c.location = seen.location) := by
  have traced : w.Traced (fun _ => True) := reach.traced fun _ _ _ => enters_any
  obtain ⟨e, r, step, deed⟩ := traced.noted_of_deeds bound
  have binding := Exchange.deed?_eq_bound.1 deed
  have acts := step.acts search
  have asked : e = .store (.assignCourier target courier) := Exchange.effect_of_bound binding
  have own : target = trip := of_decide_eq_true (acts.touches _ asked)
  obtain ⟨newer, seen, older, split, named, latest⟩ := (acts.binds _ _ asked).2.look
  obtain ⟨later, x, earlier, history, mine, shown, rfl, -⟩ := split_of_traceOf split
  obtain ⟨available, near, c, known, kept⟩ :=
    (reach.sightings distinct).sighted later x earlier _ _ seen history shown
  subst named
  obtain ⟨t, c', -, -, -, known', free, -⟩ := Store.assignCourier_ok (step.bound binding)
  rw [known] at known'
  cases known'
  refine ⟨own, later, seen, c, ⟨x, earlier, history, mine, shown, fun y noted own => ?_⟩, rfl,
    available, near, known, free, kept.located, fun none_ => ?_, kept.location⟩
  · exact latest y.exchange (mem_traceOf.2 ⟨y, noted, own, rfl⟩)
  · rw [kept.status none_]
    simp only [Courier.available, Bool.and_eq_true, decide_eq_true_eq] at available
    exact available.1.1

/-! ## A courier that has gone offline -/

open Trial in
/-- A search, process 4, is about to bind the courier that it was shown. -/
def aboutToBind : World :=
  start.run (stock ++ locateAtDepot 2 ++ .enter requestFromDepot :: steps 3 9 ++ steps 4 8)

open Trial in
/-- The same, but the courier has gone offline since. -/
def aboutToBindOffline : World :=
  start.run (stock ++ locateAtDepot 2 ++ .enter requestFromDepot :: steps 3 9 ++ steps 4 4 ++
    .enter (.request ⟨"PATCH", "/couriers/00000000000000000000000000000002/status",
      some "application/json", "\x7b\"status\":\"offline\"\x7d"⟩) :: steps 5 3 ++ steps 4 4)

/-- It is not so that a search binds only couriers who are available when they are bound. -/
theorem search_binds_offline_courier :
    ¬ ∀ (w : World) (pid : Nat) (trip courier : Uuid) (pickup : GeoPoint) (c : Courier),
      w.Reachable StoreHolds → w.IdsDistinct → w.Searches pid trip pickup →
      (w.step pid .proceed).deeds pid = w.deeds pid ++ [.bound trip courier] →
      w.store.courier? courier = some c → c.available := by
  intro fit
  have ⟨distinct, run, binds, offline⟩ : aboutToBindOffline.IdsDistinct ∧
      (aboutToBindOffline.processes[4]?).map Process.task = some (.run Trial.trip) ∧
      (aboutToBindOffline.step 4 .proceed).deeds 4 =
        aboutToBindOffline.deeds 4 ++ [.bound Trial.trip Trial.courier] ∧
      (aboutToBindOffline.store.courier? Trial.courier).any (fun c => !c.available) := by
    decide +kernel
  have reach : aboutToBindOffline.Reachable StoreHolds :=
    ⟨Trial.config, Trial.around, Trial.start, _, Trial.start_new,
      .of_mild (by decide) fun _ _ => storeHolds_of_mild, rfl⟩
  have traced : aboutToBindOffline.Traced (fun _ => True) := reach.traced fun _ _ _ => enters_any
  obtain ⟨pickup, search⟩ := traced.searches run
  obtain ⟨c, known, unfit⟩ := (Option.any_eq_true _ _).1 offline
  rw [fit _ 4 _ _ pickup c reach distinct search binds known] at unfit
  cases unfit

theorem binds_sighted_at_depot :
    aboutToBind.Reachable (fun _ _ => True) ∧ aboutToBind.IdsDistinct ∧
    ∃ pickup, aboutToBind.Searches 4 Trial.trip pickup ∧
      (aboutToBind.step 4 .proceed).deeds 4 =
        aboutToBind.deeds 4 ++ [.bound Trial.trip Trial.courier] ∧
      ∃ c, aboutToBind.store.courier? Trial.courier = some c ∧ c.available := by
  have ⟨distinct, run, binds, unchanged⟩ : aboutToBind.IdsDistinct ∧
      (aboutToBind.processes[4]?).map Process.task = some (.run Trial.trip) ∧
      (aboutToBind.step 4 .proceed).deeds 4 =
        aboutToBind.deeds 4 ++ [.bound Trial.trip Trial.courier] ∧
      ∀ x ∈ aboutToBind.history, x.exchange.turns Trial.courier = false := by
    decide +kernel
  have reach : aboutToBind.Reachable (fun _ _ => True) :=
    ⟨Trial.config, Trial.around, Trial.start, _, Trial.start_new,
      .of_mild (by decide) fun _ _ _ => trivial, rfl⟩
  have traced : aboutToBind.Traced (fun _ => True) := reach.traced fun _ _ _ => enters_any
  obtain ⟨pickup, search⟩ := traced.searches run
  obtain ⟨-, later, seen, c, ⟨x, earlier, split, -⟩, -, -, -, known, free, located, online, -⟩ :=
    binds_sighted reach distinct search binds
  refine ⟨reach, distinct, pickup, search, binds, c, known, ?_⟩
  have online := online fun y noted => unchanged y (by rw [split]; simp [noted])
  simp [Courier.available, online, located, free]

end World

end CourierDispatch
