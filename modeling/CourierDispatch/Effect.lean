import CourierDispatch.Bus
import CourierDispatch.Metrics
import CourierDispatch.Place
import CourierDispatch.Store.Operation

/-!
# Effects

Everything that a piece of work can ask of its surroundings, with the type of the reply. One
effect is one indivisible step: other work goes on between two effects and never within one.

The effects are the calls of a `GeoStore`, a `RouteCache`, a `DirectionsApi`, a `PlaceResolver` and a
`Publisher`, what is counted in the `Metrics`, and what a task asks of the clock and of its scheduler.
-/

namespace CourierDispatch

/-- How a search for a courier ended. -/
inductive MatchOutcome
  | assigned (courier : Uuid)
  | notFound
  | cancelled
  | tripMissing
  /-- A courier was found, and could not be bound. -/
  | assignmentFailed
  /-- A record could not be read or written. -/
  | aborted
  deriving DecidableEq, Repr

def MatchOutcome.label : MatchOutcome → String
  | .assigned _ => "assigned"
  | .notFound => "not_found"
  | .cancelled => "cancelled"
  | .tripMissing => "trip_missing"
  | .assignmentFailed => "assignment_failed"
  | .aborted => "aborted"

/-- Which of two instants was noticed. -/
inductive Alarm
  | deadline
  /-- The next tick, and when it was noticed. -/
  | tick (now : Nat)
  deriving DecidableEq, Repr

/-- What a search is told when it sets its timers. -/
structure Timers where
  /-- The milliseconds since the start. -/
  now : Nat
  /-- How many ticks that are due behind the deadline the search may notice before it. Only a search that
  is late finds both behind it, but that may happen to it any number of times. -/
  overtime : Nat
  deriving DecidableEq, Repr

/-- The numbers of a health report. -/
structure Census where
  trips : Nat
  couriers : Nat
  activeMatches : Nat
  deriving DecidableEq, Repr

/-- The longest wait in milliseconds: thirty years of 365 days. -/
def longestWait : Nat := 30 * 365 * 24 * 60 * 60 * 1000

/-- When a wait that starts now is over. -/
def waitEnd (now duration : Nat) : Nat := now + min duration longestWait

inductive Effect
  /-- One operation of the store. -/
  | store (op : StoreOp)
  | cacheGet (key : String)
  | cacheSet (key : String) (route : Directions) (ttl : Nat)
  /-- Asks the directions provider for the way between two points. -/
  | computeRoute (origin destination : GeoPoint)
  | placeDetails (id : String)
  | autocomplete (input : String)
  | publish (channel : Channel) (update : TripUpdate)
  /-- Opens a feed on the bus. -/
  | subscribe (interest : Interest)
  | countTransition (status : TripStatus)
  | countLookup (result : Lookup)
  /-- Waits for some milliseconds, or for the longest wait. -/
  | sleep (duration : Nat)
  /-- Waits for an instant. -/
  | waitUntil (instant : Nat)
  /-- Waits for the earlier of two instants. Where both have come, either may be noticed. -/
  | race (deadline due : Nat)
  /-- Sets the timers of a search. -/
  | setTimers
  /-- The time for time stamps. -/
  | stamp
  /-- A fresh id. -/
  | drawId
  /-- Starts to compute a fare in the background. -/
  | startFare (trip courier : Uuid)
  /-- Takes a trip's slot and starts a search in the background, unless the slot is taken. -/
  | startRun (trip : Uuid) (pickup : GeoPoint)
  /-- Frees the slot of a search that has ended and counts its outcome. -/
  | finishRun (trip : Uuid) (outcome : MatchOutcome)
  | census
  | exposition
  deriving DecidableEq, Repr

namespace Effect

/-- What an effect replies. -/
abbrev Reply : Effect → Type
  | store op => Except DispatchError op.Answer
  | cacheGet _ => Except DispatchError (Option Directions)
  | cacheSet .. => Except DispatchError Unit
  | computeRoute .. => Except DispatchError Directions
  | placeDetails _ => Except DispatchError Place
  | autocomplete _ => Except DispatchError (List PlaceSuggestion)
  | publish .. => Except DispatchError Unit
  | subscribe _ => Nat
  | countTransition _ | countLookup _ | sleep _ | waitUntil _ | startFare .. | finishRun .. => Unit
  | race .. => Alarm
  | setTimers => Timers
  | stamp => Timestamp
  | drawId => Uuid
  | startRun .. => Bool
  | census => Census
  | exposition => Metrics

end Effect

end CourierDispatch
