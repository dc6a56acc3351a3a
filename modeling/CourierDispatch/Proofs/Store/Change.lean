import CourierDispatch.Store.Operation

/-!
# What an operation does to a record

An accepted operation changes the trip with some id in one of few ways (`TripStep`), and so the
courier with some id (`CourierStep`). Whatever holds of records over time is proved by cases on
these two.
-/

namespace CourierDispatch

theorem Table.mem_values_of_get? {κ ν : Type} [DecidableEq κ] {t : Table κ ν} {key : κ} {v : ν}
    (found : t.get? key = some v) : v ∈ t.values := by
  obtain ⟨before, after, rows, -⟩ := List.lookup_eq_some_iff.1 found
  simp [values, rows]

/-- A final status is replaced only by itself. -/
theorem TripStatus.eq_of_allows {s next : TripStatus} (allowed : s.allows next) (final : s.final) :
    next = s := by
  simpa [allows, final, eq_comm] using allowed

theorem TripStatus.terminal_of_final {s : TripStatus} (final : s.final) : s.terminal := by
  cases s <;> first | rfl | cases final

/-- An operation that only asks. -/
def StoreOp.reads : StoreOp → Bool
  | .getTrip _ | .getCourier _ | .getProduct _ | .nearestAvailableCourier .. | .nearbyCouriers ..
  | .listProducts | .nearbyProducts .. => true
  | _ => false

namespace Store

variable {s s' : Store} {now : Timestamp} {op : StoreOp} {a : op.Answer}

/-! ## Tables behind a write -/

@[simp] theorem trip?_insertTrip (s : Store) (key id : Uuid) (t : Trip) :
    ({ s with trips := s.trips.insert key t } : Store).trip? id =
      if id = key then some t else s.trip? id :=
  Table.get?_insert s.trips key id t

@[simp] theorem courier?_insertCourier (s : Store) (key id : Uuid) (c : Courier) :
    ({ s with couriers := s.couriers.insert key c } : Store).courier? id =
      if id = key then some c else s.courier? id :=
  Table.get?_insert s.couriers key id c

@[simp] theorem trip?_insertCourier (s : Store) (key id : Uuid) (c : Courier) :
    ({ s with couriers := s.couriers.insert key c } : Store).trip? id = s.trip? id := rfl

@[simp] theorem courier?_insertTrip (s : Store) (key id : Uuid) (t : Trip) :
    ({ s with trips := s.trips.insert key t } : Store).courier? id = s.courier? id := rfl

/-! ## Accepted operations -/

theorem unchanged_ok {α : Type} {a a' : α} :
    s.unchanged a = .ok (a', s') ↔ a = a' ∧ s = s' := by
  simp [unchanged]

theorem same_of_reads (h : s.perform now op = .ok (a, s')) (reads : op.reads) : s' = s := by
  cases op <;> cases reads <;> cases h <;> rfl

theorem updateTrip_ok {id : Uuid} {change : Trip → Trip} {t' : Trip}
    (h : s.updateTrip now id change = .ok (t', s')) :
    ∃ t, s.trip? id = some t ∧ t' = { change t with updatedAt := now } ∧
      s' = { s with trips := s.trips.insert id t' } := by
  unfold updateTrip at h
  split at h
  · cases h
  · next t found => cases h; exact ⟨t, found, rfl, rfl⟩

theorem setTripStatus_ok {id : Uuid} {status : TripStatus} {t' : Trip}
    (h : s.setTripStatus now id status = .ok (t', s')) :
    ∃ t, s.trip? id = some t ∧ t.status.allows status ∧
      t' = { t with status := status, updatedAt := now } ∧
      s' = { s with trips := s.trips.insert id t' } := by
  unfold setTripStatus at h
  split at h
  · cases h
  · next t found =>
    split at h
    · next allowed =>
      obtain ⟨t₁, found₁, rfl, rfl⟩ := updateTrip_ok h
      rw [found] at found₁
      cases found₁
      exact ⟨t, found, allowed, rfl, rfl⟩
    · cases h

/-- An accepted status is the trip's. -/
theorem trip?_of_setTripStatus {id : Uuid} {status : TripStatus} {t' : Trip}
    (h : s.setTripStatus now id status = .ok (t', s')) :
    s'.trip? id = some t' ∧ t'.status = status := by
  obtain ⟨t, -, -, rfl, rfl⟩ := setTripStatus_ok h
  exact ⟨(Table.get?_insert ..).trans (if_pos rfl), rfl⟩

/-- A trip that is closed to a status has a final one. -/
theorem final_of_closed {id trip : Uuid} {status old : TripStatus}
    (h : s.setTripStatus now id status = .error (.tripClosed trip old)) :
    ∃ t, s.trip? id = some t ∧ t.status.final := by
  unfold setTripStatus at h
  split at h
  · cases h
  · next t found =>
    split at h
    · next allowed =>
      simp only [updateTrip, found] at h
      cases h
    · next closed =>
      refine ⟨t, found, ?_⟩
      simp only [TripStatus.allows, Bool.or_eq_true, not_or, Bool.not_eq_true'] at closed
      simpa using closed.1

/-- A trip that is there refuses a status only if it is closed to it. -/
theorem setTripStatus_refused {id : Uuid} {status : TripStatus} {err : DispatchError} {t : Trip}
    (h : s.setTripStatus now id status = .error err) (found : s.trip? id = some t) :
    t.status.allows status = false := by
  simp only [setTripStatus, found] at h
  split at h
  · simp only [updateTrip, found] at h
    cases h
  · next closed => simpa using closed

theorem setTripCost_ok {id : Uuid} {cost : UInt64} (h : s.setTripCost now id cost = .ok ((), s')) :
    ∃ t, s.trip? id = some t ∧
      s' = { s with
        trips := s.trips.insert id { t with cost := some cost, updatedAt := now } } := by
  unfold setTripCost at h
  cases written : s.updateTrip now id ({ · with cost := some cost }) with
  | error e => rw [written] at h; cases h
  | ok p =>
    obtain ⟨t', s₁⟩ := p
    rw [written] at h
    cases h
    obtain ⟨t, found, rfl, rfl⟩ := updateTrip_ok written
    exact ⟨t, found, rfl⟩

theorem assignCourier_ok {trip courier : Uuid} (h : s.assignCourier now trip courier = .ok ((), s')) :
    ∃ t c, s.trip? trip = some t ∧ t.courierId = none ∧ t.status.terminal = false ∧
      s.courier? courier = some c ∧ c.tripId = none ∧
      s' = { s with
        couriers := s.couriers.insert courier { c with tripId := some trip, updatedAt := now }
        trips := s.trips.insert trip { t with courierId := some courier, updatedAt := now } } := by
  unfold assignCourier at h
  split at h
  · cases h
  · next t found =>
    split at h
    · cases h
    · next unbound =>
      split at h
      · cases h
      · next c known =>
        split at h
        · cases h
        · next free =>
          cases h
          simp only [not_or, Bool.not_eq_true, Option.isSome_eq_false_iff,
            Option.isNone_iff_eq_none] at unbound free
          exact ⟨t, c, found, unbound.1, unbound.2, known, free, rfl⟩

/-- Behind a binding the trip and the courier name each other. -/
theorem linked_of_assignCourier {trip courier : Uuid}
    (h : s.assignCourier now trip courier = .ok ((), s')) :
    (∃ t, s'.trip? trip = some t ∧ t.courierId = some courier) ∧
      ∃ c, s'.courier? courier = some c ∧ c.tripId = some trip := by
  obtain ⟨t, c, -, -, -, -, -, rfl⟩ := assignCourier_ok h
  refine ⟨⟨{ t with courierId := some courier, updatedAt := now }, ?_, rfl⟩,
    { c with tripId := some trip, updatedAt := now }, ?_, rfl⟩
  · exact (Table.get?_insert ..).trans (if_pos rfl)
  · exact (Table.get?_insert ..).trans (if_pos rfl)

theorem unassignTrip_ok {trip : Uuid} (h : s.unassignTrip now trip = .ok ((), s')) :
    ∃ t, s.trip? trip = some t ∧
      ((∃ id c, t.courierId = some id ∧ s.courier? id = some c ∧ c.tripId = some trip ∧
          s' = { s with
            couriers := s.couriers.insert id { c with tripId := none, updatedAt := now } }) ∨
        (s' = s ∧ ∀ id c, t.courierId = some id → s.courier? id = some c →
          c.tripId ≠ some trip)) := by
  unfold unassignTrip at h
  split at h
  · cases h
  · next t found =>
    refine ⟨t, found, ?_⟩
    split at h
    · next nobody =>
      cases h
      refine .inr ⟨rfl, fun id c named known => ?_⟩
      simp [named, known] at nobody
    · next id c somebody =>
      obtain ⟨named, known⟩ : t.courierId = some id ∧ s.courier? id = some c := by
        cases ht : t.courierId with
        | none => simp [ht] at somebody
        | some id' =>
          cases hc : s.courier? id' with
          | none => simp [ht, hc] at somebody
          | some c' =>
            simp only [ht, Option.bind_some, hc, Option.map_some, Option.some.injEq,
              Prod.mk.injEq] at somebody
            exact ⟨by rw [somebody.1], by rw [← somebody.1, hc, somebody.2]⟩
      split at h
      · next linked => cases h; exact .inl ⟨id, c, named, known, linked, rfl⟩
      · next unlinked =>
        cases h
        refine .inr ⟨rfl, fun id' c' named' known' => ?_⟩
        rw [named] at named'
        cases named'
        rw [known] at known'
        cases known'
        exact unlinked

/-- Only for a trip that is not there it is refused to let a courier go. -/
theorem unassignTrip_refused {trip : Uuid} {err : DispatchError}
    (h : s.unassignTrip now trip = .error err) : s.trip? trip = none := by
  unfold unassignTrip at h
  split at h
  · assumption
  · split at h
    · cases h
    · split at h <;> cases h

/-- Behind a release nobody is bound to the trip, if only the courier that it names was. -/
theorem free_of_unassignTrip {trip : Uuid} (h : s.unassignTrip now trip = .ok ((), s'))
    (linked : ∀ id c, s.courier? id = some c → c.tripId = some trip →
      ∃ t, s.trip? trip = some t ∧ t.courierId = some id)
    (id : Uuid) (c : Courier) (known : s'.courier? id = some c) : c.tripId ≠ some trip := by
  intro bound
  obtain ⟨t, found, ⟨key, c', named, -, -, rfl⟩ | ⟨rfl, nobody⟩⟩ := unassignTrip_ok h
  · rw [courier?_insertCourier] at known
    split at known
    · cases known
      cases bound
    · next other =>
      obtain ⟨t', found', named'⟩ := linked id c known bound
      rw [found] at found'
      cases found'
      rw [named] at named'
      exact other (Option.some.inj named').symm
  · obtain ⟨t', found', named'⟩ := linked id c known bound
    rw [found] at found'
    cases found'
    exact nobody id c named' known bound

theorem updateCourier_ok {id : Uuid} {change : Courier → Courier} {c' : Courier}
    (h : s.updateCourier now id change = .ok (c', s')) :
    ∃ c, s.courier? id = some c ∧ c' = { change c with updatedAt := now } ∧
      s' = { s with couriers := s.couriers.insert id c' } := by
  unfold updateCourier at h
  split at h
  · cases h
  · next c found => cases h; exact ⟨c, found, rfl, rfl⟩

/-! ## Trips -/

/-- What an accepted operation makes of the trip with an id. -/
inductive TripStep (op : StoreOp) (now : Timestamp) (id : Uuid) : Option Trip → Option Trip → Prop
  | same (old : Option Trip) : TripStep op now id old old
  | created {request : TripRequest} (asked : op = .createTrip id request) (old : Option Trip) :
      TripStep op now id old (some (Trip.new id now request))
  | moved {status : TripStatus} {t : Trip} (asked : op = .setTripStatus id status)
      (allowed : t.status.allows status) :
      TripStep op now id (some t) (some { t with status := status, updatedAt := now })
  | bound {courier : Uuid} {t : Trip} (asked : op = .assignCourier id courier)
      (unbound : t.courierId = none) (open_ : t.status.terminal = false) :
      TripStep op now id (some t) (some { t with courierId := some courier, updatedAt := now })
  | priced {cost : UInt64} (asked : op = .setTripCost id cost) (t : Trip) :
      TripStep op now id (some t) (some { t with cost := some cost, updatedAt := now })
  | confirmed {p : GeoPoint} (asked : op = .setConfirmedPickup id p) (t : Trip) :
      TripStep op now id (some t) (some { t with confirmedPickup := some p, updatedAt := now })

/-- A trip that is there behind an operation was there before, or has just been created. -/
theorem TripStep.origin {id : Uuid} {old : Option Trip} {t' : Trip}
    (step : TripStep op now id old (some t')) :
    (∃ t, old = some t) ∨ ∃ request, op = .createTrip id request := by
  generalize written : some t' = new at step
  cases step with
  | same => exact .inl ⟨t', written.symm⟩
  | created asked => exact .inr ⟨_, asked⟩
  | moved | bound | priced | confirmed => exact .inl ⟨_, rfl⟩

/-- No trip is removed. -/
theorem TripStep.stays {id : Uuid} {t : Trip} {new : Option Trip} (step : TripStep op now id (some t) new) :
    ∃ t', new = some t' := by
  cases step <;> exact ⟨_, rfl⟩

/-- A trip that was kept under its id is kept under it still. -/
theorem TripStep.named {id : Uuid} {old new : Option Trip} (step : TripStep op now id old new)
    (own : ∀ t, old = some t → t.id = id) : ∀ t, new = some t → t.id = id := by
  cases step with
  | same => exact own
  | created => rintro _ ⟨⟩; rfl
  | moved | bound | priced | confirmed =>
    have kept := own _ rfl
    rintro _ ⟨⟩
    exact kept

/-- A row that is written, seen from any id. -/
theorem TripStep.of_insert {key : Uuid} {new : Trip}
    (written : TripStep op now key (s.trip? key) (some new)) (id : Uuid) :
    TripStep op now id (s.trip? id)
      (({ s with trips := s.trips.insert key new } : Store).trip? id) := by
  rw [trip?_insertTrip]
  split
  · next e => subst e; exact written
  · exact .same _

theorem trip_step (h : s.perform now op = .ok (a, s')) (id : Uuid) :
    TripStep op now id (s.trip? id) (s'.trip? id) := by
  cases op with
  | createTrip key request =>
    cases h
    exact TripStep.of_insert (.created rfl _) id
  | setTripStatus key status =>
    obtain ⟨t, found, allowed, rfl, rfl⟩ := setTripStatus_ok h
    exact .of_insert (found ▸ .moved rfl allowed) id
  | setTripCost key cost =>
    obtain ⟨t, found, rfl⟩ := setTripCost_ok h
    exact TripStep.of_insert (found ▸ .priced rfl t) id
  | setConfirmedPickup key p =>
    obtain ⟨t, found, rfl, rfl⟩ := updateTrip_ok h
    exact .of_insert (found ▸ .confirmed rfl t) id
  | assignCourier trip courier =>
    obtain ⟨t, c, found, unbound, open_, -, -, rfl⟩ := assignCourier_ok h
    exact TripStep.of_insert (found ▸ .bound rfl unbound open_) id
  | unassignTrip trip =>
    obtain ⟨t, -, ⟨_, _, -, -, -, rfl⟩ | ⟨rfl, -⟩⟩ := unassignTrip_ok h <;> exact .same _
  | updateCourierLocation key p =>
    obtain ⟨c, -, -, rfl⟩ := updateCourier_ok h
    exact .same _
  | updateCourierStatus key status =>
    obtain ⟨c, -, -, rfl⟩ := updateCourier_ok h
    exact .same _
  | upsertCourier | upsertProduct | getTrip | getCourier | getProduct | nearestAvailableCourier
  | nearbyCouriers | listProducts | nearbyProducts => cases h; exact .same _

/-! ## Couriers -/

/-- What an accepted operation makes of the courier with an id. -/
inductive CourierStep (op : StoreOp) (now : Timestamp) (s : Store) (id : Uuid) :
    Option Courier → Option Courier → Prop
  | same (old : Option Courier) : CourierStep op now s id old old
  | recorded {c : Courier} (asked : op = .upsertCourier c) (named : c.id = id)
      (old : Option Courier) : CourierStep op now s id old (some c)
  | located {p : GeoPoint} (asked : op = .updateCourierLocation id p) (c : Courier) :
      CourierStep op now s id (some c) (some { c with location := some p, updatedAt := now })
  | moved {status : CourierStatus} (asked : op = .updateCourierStatus id status) (c : Courier) :
      CourierStep op now s id (some c) (some { c with status := status, updatedAt := now })
  | bound {trip : Uuid} {c : Courier} (asked : op = .assignCourier trip id)
      (free : c.tripId = none) :
      CourierStep op now s id (some c) (some { c with tripId := some trip, updatedAt := now })
  | freed {trip : Uuid} {t : Trip} {c : Courier} (asked : op = .unassignTrip trip)
      (found : s.trip? trip = some t) (named : t.courierId = some id)
      (linked : c.tripId = some trip) :
      CourierStep op now s id (some c) (some { c with tripId := none, updatedAt := now })

/-- A courier that is there behind an operation was there before, or has just been recorded. -/
theorem CourierStep.origin {id : Uuid} {old : Option Courier} {c' : Courier}
    (step : CourierStep op now s id old (some c')) :
    (∃ c, old = some c) ∨ ∃ c, op = .upsertCourier c ∧ c.id = id := by
  generalize written : some c' = new at step
  cases step with
  | same => exact .inl ⟨c', written.symm⟩
  | recorded asked named => exact .inr ⟨_, asked, named⟩
  | located | moved | bound | freed => exact .inl ⟨_, rfl⟩

/-- No courier is removed. -/
theorem CourierStep.stays {id : Uuid} {c : Courier} {new : Option Courier}
    (step : CourierStep op now s id (some c) new) : ∃ c', new = some c' := by
  cases step <;> exact ⟨_, rfl⟩

/-- A courier that was kept under its id is kept under it still. -/
theorem CourierStep.named {id : Uuid} {old new : Option Courier}
    (step : CourierStep op now s id old new) (own : ∀ c, old = some c → c.id = id) :
    ∀ c, new = some c → c.id = id := by
  cases step with
  | same => exact own
  | recorded asked named => rintro _ ⟨⟩; exact named
  | located | moved | bound | freed =>
    have kept := own _ rfl
    rintro _ ⟨⟩
    exact kept

/-- A row that is written, seen from any id. -/
theorem CourierStep.of_insert {key : Uuid} {new : Courier}
    (written : CourierStep op now s key (s.courier? key) (some new)) (id : Uuid) :
    CourierStep op now s id (s.courier? id)
      (({ s with couriers := s.couriers.insert key new } : Store).courier? id) := by
  rw [courier?_insertCourier]
  split
  · next e => subst e; exact written
  · exact .same _

theorem courier_step (h : s.perform now op = .ok (a, s')) (id : Uuid) :
    CourierStep op now s id (s.courier? id) (s'.courier? id) := by
  cases op with
  | upsertCourier c =>
    cases h
    exact CourierStep.of_insert (.recorded rfl rfl _) id
  | updateCourierLocation key p =>
    obtain ⟨c, found, rfl, rfl⟩ := updateCourier_ok h
    exact .of_insert (found ▸ .located rfl c) id
  | updateCourierStatus key status =>
    obtain ⟨c, found, rfl, rfl⟩ := updateCourier_ok h
    exact .of_insert (found ▸ .moved rfl c) id
  | assignCourier trip courier =>
    obtain ⟨t, c, -, -, -, known, free, rfl⟩ := assignCourier_ok h
    exact CourierStep.of_insert (known ▸ .bound rfl free) id
  | unassignTrip trip =>
    obtain ⟨t, found, ⟨key, c, named, known, linked, rfl⟩ | ⟨rfl, -⟩⟩ := unassignTrip_ok h
    · exact .of_insert (known ▸ .freed rfl found named linked) id
    · exact .same _
  | setTripStatus key status =>
    obtain ⟨t, -, -, rfl, rfl⟩ := setTripStatus_ok h
    exact .same _
  | setTripCost key cost =>
    obtain ⟨t, -, rfl⟩ := setTripCost_ok h
    exact .same _
  | setConfirmedPickup key p =>
    obtain ⟨t, -, -, rfl⟩ := updateTrip_ok h
    exact .same _
  | createTrip | upsertProduct | getTrip | getCourier | getProduct | nearestAvailableCourier
  | nearbyCouriers | listProducts | nearbyProducts => cases h; exact .same _

end Store

end CourierDispatch
