import CourierDispatch.Config
import CourierDispatch.Trip.Report

/-!
# Searching for a courier

A search looks for an available courier near the pickup at every tick, from the moment it
starts until the deadline. The first courier found is reported, then bound, and the binding is
reported; each report pauses, and in a pause the trip may be cancelled or the courier taken, so
the trip is read again after every failure and before the binding. At the deadline the search
gives up and reports that nobody was found.

A binding is followed by a fare computed in the background. If the trip turns out to be closed
when the binding is to be reported, the courier is let go again.

| here | in the dispatcher |
| --- | --- |
| `run`, `rounds` | `match_courier`, which races a deadline and a ticker without preference |
| `look`, `take`, `bindFound`, `confirm` | one `search_once`, cut where it reports and where it binds |
| `giveUp`, `tripGone` | `give_up`, `trip_gone` |
| `assign`, `unassign` | `assign_courier_to_trip`, `unassign_trip` |
| `supervised` | the task of `spawn_match`, with the slot of its `ActiveRun` |
-/

namespace CourierDispatch.Search

/-- A reason to end the search quietly: the trip is missing, cancelled, or cannot be read. -/
def tripGone (trip : Uuid) : Job (Option MatchOutcome) := do
  match ← Job.perform (.store (.getTrip trip)) with
  | .ok (some t) => pure (if t.status = .cancelled then some .cancelled else none)
  | .ok none => pure (some .tripMissing)
  | .error _ => pure (some .aborted)

/-- Binds a courier to a trip and starts to compute the fare. -/
def assign (trip courier : Uuid) : Attempt Unit := do
  Attempt.store (.assignCourier trip courier)
  Attempt.perform (.startFare trip courier)

/-- Lets the courier of a trip go. -/
def unassign (trip : Uuid) : Attempt Unit := Attempt.store (.unassignTrip trip)

/-- The outcome of the trip being gone, or else another one. -/
def goneOr (trip : Uuid) (outcome : MatchOutcome) : Job MatchOutcome := do
  return (← tripGone trip).getD outcome

/-- Reports a binding. A trip that was closed meanwhile lets its courier go. -/
def confirm (settleDelay : Nat) (trip courier : Uuid) : Job MatchOutcome := do
  match ← (Trip.reportStatus settleDelay trip .courierAssigned).result with
  | .ok _ => pure (.assigned courier)
  | .error (.tripClosed _ _) =>
    let _ ← (unassign trip).result
    pure .cancelled
  | .error _ => pure .aborted

/-- Binds a courier that was found, and reports it. -/
def bindFound (settleDelay : Nat) (trip courier : Uuid) : Job MatchOutcome := do
  match ← (assign trip courier).result with
  | .error _ => goneOr trip .assignmentFailed
  | .ok _ => confirm settleDelay trip courier

/-- Reports a courier that was found, and goes on to bind it. -/
def take (settleDelay : Nat) (trip courier : Uuid) : Job MatchOutcome := do
  match ← (Trip.reportStatus settleDelay trip .courierFound).result with
  | .error _ => goneOr trip .aborted
  | .ok _ =>
    match ← tripGone trip with
    | some outcome => pure outcome
    | none => bindFound settleDelay trip courier

/-- One tick: an outcome, or nothing when the search goes on. -/
def look (m : MatchingConfig) (settleDelay : Nat) (trip : Uuid) (pickup : GeoPoint) :
    Job (Option MatchOutcome) := do
  match ← tripGone trip with
  | some outcome => pure (some outcome)
  | none =>
    match ← Job.perform (.store (.nearestAvailableCourier pickup m.searchRadius)) with
    | .ok (some c) => some <$> take settleDelay trip c.id
    | .ok none => pure none
    | .error _ => pure none

/-- The deadline has passed. -/
def giveUp (settleDelay : Nat) (trip : Uuid) : Job MatchOutcome := do
  match ← tripGone trip with
  | some outcome => pure outcome
  | none =>
    match ← (Trip.reportStatus settleDelay trip .courierNotFound).result with
    | .ok _ => pure .notFound
    | .error (.tripClosed _ _) => pure .cancelled
    | .error _ => pure .aborted

/-- How late a tick may be noticed before the next one is counted from then, as a ticker counts that
delays what it missed. -/
def tolerance : Nat := 5

/-- When the tick after one is due. -/
def nextTick (period due now : Nat) : Nat :=
  if due + tolerance < now then now + period else due + period

/-- Waits for ticks and the deadline, and notices so many ticks at most before the deadline. -/
def rounds (m : MatchingConfig) (settleDelay : Nat) (trip : Uuid) (pickup : GeoPoint)
    (deadline : Nat) : Nat → Nat → Job MatchOutcome
  | 0, _ => do
    Job.perform (.waitUntil deadline)
    giveUp settleDelay trip
  | n + 1, due => do
    match ← Job.perform (.race deadline due) with
    | .deadline => giveUp settleDelay trip
    | .tick now =>
      match ← look m settleDelay trip pickup with
      | some outcome => pure outcome
      | none => rounds m settleDelay trip pickup deadline n (nextTick m.tick due now)

/-- A whole search, with a first look at once. It breaks down if the tick is zero. -/
def run (m : MatchingConfig) (settleDelay : Nat) (trip : Uuid) (pickup : GeoPoint) :
    Job MatchOutcome := do
  let timers ← Job.perform .setTimers
  let most := m.deadline / m.tick + 1 + timers.overtime
  if m.tick = 0 then .panic
  else rounds m settleDelay trip pickup (waitEnd timers.now m.deadline) most timers.now

/-- A search that holds its trip's slot and frees it at the end. -/
def supervised (m : MatchingConfig) (settleDelay : Nat) (trip : Uuid) (pickup : GeoPoint) :
    Job MatchOutcome := do
  let outcome ← run m settleDelay trip pickup
  Job.perform (.finishRun trip outcome)
  return outcome

end CourierDispatch.Search
