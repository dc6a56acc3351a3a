import CourierDispatch.Job

/-!
# Reporting a status

A report writes the status, counts it, announces it, and then pauses. The write is
what matters: when it is refused nothing is announced, and when an announcement fails the report
goes on. A cancellation is announced only while no courier is bound. The pause gives readers time
to follow.

`reportStatus` is `report_status` with its parts: `notice` is `build_update`, `courierLocation` reads the
store as `courier_location` does, and `publishOn` is the loop over the channels around `publish`.
-/

namespace CourierDispatch.Trip

/-- Where the courier of a trip is, as far as it can be read. -/
def courierLocation (t : Trip) : Job (Option GeoPoint) :=
  match t.courierId with
  | none => pure none
  | some id => do
    match ← Job.perform (.store (.getCourier id)) with
    | .ok (some c) => pure c.location
    | .ok none => pure none
    | .error _ => pure none

/-- What is announced about a trip: who was assigned, or where the courier is on the way. -/
def notice (t : Trip) : Job TripUpdate :=
  match t.status with
  | .courierAssigned => pure ⟨t.id, t.status, t.courierId, none⟩
  | .courierArriving | .courierEnRoute => do
    return ⟨t.id, t.status, none, ← courierLocation t⟩
  | _ => pure ⟨t.id, t.status, none, none⟩

/-- Publishes an update on some channels, whether or not it can be published. -/
def publishOn (update : TripUpdate) : List Channel → Job Unit
  | [] => pure ()
  | c :: rest => do
    let _ ← Job.perform (.publish c update)
    publishOn update rest

/-- Announces a status that was written. -/
def announce (t : Trip) (status : TripStatus) : Job Unit :=
  if status = .cancelled ∧ t.courierId.isSome then pure ()
  else if status.channels = [] then pure ()
  else do publishOn (← notice t) status.channels

/-- Writes a status, announces it, and pauses for the settle delay. -/
def reportStatus (settleDelay : Nat) (trip : Uuid) (status : TripStatus) : Attempt Trip := do
  let t ← Attempt.store (.setTripStatus trip status)
  Attempt.perform (.countTransition status)
  announce t status
  Attempt.perform (.sleep settleDelay)
  return t

end CourierDispatch.Trip
