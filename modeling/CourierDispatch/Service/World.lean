import CourierDispatch.RouteCache
import CourierDispatch.Service.Call

/-!
# The running service

A world holds the records, the cache, the bus, the counters and the pieces of work under way.
`World.step` takes one process one effect further; a verdict says whether the effect goes
through, is refused, or finds nothing. Any order of steps is a run, so what holds of all
steps holds of all interleavings.

A process whose effect has to wait stands still until its time has come. A search that breaks
down frees its slot and is counted nowhere.

The route cache has a clock of its own, which the surroundings set.

`startRun` and `finishRun` are what `spawn_match` does before its task begins and behind
`match_courier`: `active` holds the trips with a slot, and `freeSlot` is the end of an `ActiveRun`.
-/

namespace CourierDispatch

/-- What the service depends on and does not own. -/
structure Surroundings where
  /-- The way between two points, given how many answers there were before. -/
  directions : Nat → GeoPoint → GeoPoint → Except DispatchError Directions
  placeDetails : String → Except DispatchError Place
  autocomplete : String → Except DispatchError (List PlaceSuggestion)
  /-- The ids that are drawn, one after the other. -/
  freshId : Nat → Uuid
  /-- The time of day at a virtual time. -/
  stampAt : Nat → Timestamp
  /-- What the clock of the cache shows at a virtual time. -/
  cacheClock : Nat → Nat
  /-- Whether a tick is noticed rather than a deadline that has come as well, given how many races were
  over before. -/
  tickFirst : Nat → Bool
  /-- How many ticks that are due behind its deadline a search may notice before it. -/
  overtime : Nat

/-- What a process is for. -/
inductive Task
  | call
  | fare (trip courier : Uuid)
  | run (trip : Uuid)
  deriving DecidableEq, Repr

/-- What a process ends with. -/
inductive Result
  | answer (a : Answer)
  | fare (r : Except DispatchError UInt64)
  | outcome (o : MatchOutcome)

inductive Progress
  | ready (job : Job Result)
  /-- Its effect is answered when the time has come. -/
  | waiting (wake : Nat) (e : Effect) (next : e.Reply → Job Result)
  | ended (r : Result)
  | broken

structure Process where
  task : Task
  progress : Progress

/-- An effect that was answered. -/
structure Event where
  time : Nat
  process : Nat
  effect : Effect
  reply : effect.Reply

/-- Whether an effect goes through. -/
inductive Verdict
  | proceed
  | refuse (e : DispatchError)
  /-- A question for a record finds nothing. -/
  | absent
  deriving DecidableEq, Repr

structure World where
  config : Config
  around : Surroundings
  store : Store
  cache : RouteCache
  bus : Bus
  feeds : List Feed
  metrics : Metrics
  /-- The trips whose slot is taken. -/
  active : List Uuid
  /-- Milliseconds since the start. -/
  now : Nat
  /-- How many ids were drawn. -/
  drawn : Nat
  /-- How many times the directions provider has answered. -/
  answered : Nat
  /-- How many races are over. -/
  raced : Nat
  processes : List Process
  /-- The effects that were answered, the latest first. -/
  history : List Event

/-! ## Effects -/

namespace Effect

/-- When an effect that has to wait can be answered. -/
def wake? (now : Nat) : Effect → Option Nat
  | sleep duration => if duration = 0 then none else some (waitEnd now duration)
  | waitUntil instant => if instant ≤ now then none else some instant
  | race deadline due => if min deadline due ≤ now then none else some (min deadline due)
  | _ => none

/-- The reply to an effect that is refused; some effects cannot be. -/
def refused (err : DispatchError) : (e : Effect) → Option e.Reply
  | store _ | cacheGet _ | cacheSet .. | computeRoute .. | placeDetails _ | autocomplete _
  | publish .. => some (.error err)
  | _ => none

/-- The reply to a question that finds nothing. -/
def nothing : (e : Effect) → Option e.Reply
  | store (.getTrip _) | store (.getCourier _) | store (.getProduct _)
  | store (.nearestAvailableCourier ..) => some (.ok none)
  | _ => none

/-- The reply that a verdict dictates. -/
def dictated (e : Effect) : Verdict → Option e.Reply
  | .proceed => none
  | .refuse err => e.refused err
  | .absent => e.nothing

end Effect

namespace World

/-- A service that nothing has been asked of; `none` if there can be no such bus. -/
def new? (config : Config) (around : Surroundings) : Option World := do
  let bus ← Bus.new? config.eventBufferSize
  return {
    config, around, bus
    store := .empty, cache := .empty, feeds := [], metrics := .empty, active := []
    now := 0, drawn := 0, answered := 0, raced := 0, processes := [], history := [] }

/-- The time of day. -/
def stamp (w : World) : Timestamp := w.around.stampAt w.now

/-- What the clock of the cache shows. -/
def cacheTime (w : World) : Nat := w.around.cacheClock w.now

/-- What is noticed of a deadline and a tick, one of which has come. Where both have, the surroundings
decide. -/
def notice (w : World) (deadline due : Nat) : Alarm :=
  if due ≤ w.now ∧ (w.now < deadline ∨ w.around.tickFirst w.raced) then .tick w.now else .deadline

/-- A new process at the end. -/
def spawn (w : World) (task : Task) (job : Job Result) : World :=
  { w with processes := w.processes ++ [⟨task, .ready job⟩] }

/-- Computes a fare in the background. -/
def fareJob (c : Config) (trip courier : Uuid) : Job Result :=
  Result.fare <$> (Fare.record c.routing c.pricer trip courier).result

/-- Searches in the background. -/
def runJob (c : Config) (trip : Uuid) (pickup : GeoPoint) : Job Result :=
  Result.outcome <$> Search.supervised c.matching c.settleDelay trip pickup

/-- Frees the slot of a trip. -/
def freeSlot (w : World) (trip : Uuid) : World :=
  { w with active := w.active.erase trip, metrics := w.metrics.leave }

/-- What an effect does; `none` if it breaks down. -/
def respond (w : World) : (e : Effect) → Option (e.Reply × World)
  | .store op =>
    match w.store.perform w.stamp op with
    | .ok (a, s) => some (.ok a, { w with store := s })
    | .error e => some (.error e, w)
  | .cacheGet key =>
    let (r, c) := w.cache.get w.cacheTime key
    some (.ok r, { w with cache := c })
  | .cacheSet key route ttl =>
    (w.cache.set? w.cacheTime key route ttl).map fun c => (.ok (), { w with cache := c })
  | .computeRoute a b =>
    match w.around.directions w.answered a b with
    | .ok r => some (.ok r, { w with answered := w.answered + 1 })
    | .error e => some (.error e, w)
  | .placeDetails id => some (w.around.placeDetails id, w)
  | .autocomplete input => some (w.around.autocomplete input, w)
  | .publish channel update =>
    some (.ok (), { w with bus := w.bus.publish ⟨channel, update.encode⟩ })
  | .subscribe interest =>
    some (w.feeds.length, { w with feeds := w.feeds ++ [w.bus.subscribe interest] })
  | .countTransition status => some ((), { w with metrics := w.metrics.countTransition status })
  | .countLookup result => some ((), { w with metrics := w.metrics.countLookup result })
  | .sleep _ => some ((), w)
  | .waitUntil _ => some ((), w)
  | .race deadline due => some (w.notice deadline due, { w with raced := w.raced + 1 })
  | .setTimers => some (⟨w.now, w.around.overtime⟩, w)
  | .stamp => some (w.stamp, w)
  | .drawId => some (w.around.freshId w.drawn, { w with drawn := w.drawn + 1 })
  | .startFare trip courier =>
    some ((), w.spawn (.fare trip courier) (fareJob w.config trip courier))
  | .startRun trip pickup =>
    if trip ∈ w.active then some (false, w)
    else
      let w := { w with active := w.active ++ [trip], metrics := w.metrics.enter }
      some (true, w.spawn (.run trip) (runJob w.config trip pickup))
  | .finishRun trip outcome =>
    let w := w.freeSlot trip
    some ((), { w with metrics := w.metrics.countMatch outcome.label })
  | .census => some (⟨w.store.trips.size, w.store.couriers.size, w.active.length⟩, w)
  | .exposition => some (w.metrics, w)

/-- Answers an effect of a process under a verdict, and notes it. -/
def answer (w : World) (pid : Nat) (verdict : Verdict) (e : Effect) : Option (e.Reply × World) :=
  let outcome := match e.dictated verdict with
    | some r => some (r, w)
    | none => w.respond e
  outcome.map fun (r, w) => (r, { w with history := ⟨w.now, pid, e, r⟩ :: w.history })

/-! ## Processes -/

/-- Puts a process into a new state. -/
def setProgress (w : World) (pid : Nat) (p : Progress) : World :=
  { w with processes := w.processes.modify pid ({ · with progress := p }) }

/-- A process breaks down; a search frees its slot. -/
def breakDown (w : World) (pid : Nat) : World :=
  let w' := w.setProgress pid .broken
  match (w.processes[pid]?).map Process.task with
  | some (.run trip) => w'.freeSlot trip
  | _ => w'

/-- Answers an effect, and lets its process go on. -/
def proceed (w : World) (pid : Nat) (verdict : Verdict) (e : Effect)
    (next : e.Reply → Job Result) : World :=
  match w.answer pid verdict e with
  | some (r, w) => w.setProgress pid (.ready (next r))
  | none => w.breakDown pid

/-- Takes a process one effect further, if it can go on. -/
def step (w : World) (pid : Nat) (verdict : Verdict) : World :=
  match (w.processes[pid]?).map Process.progress with
  | some (.ready (.done r)) => w.setProgress pid (.ended r)
  | some (.ready .panic) => w.breakDown pid
  | some (.ready (.act e next)) =>
    match e.wake? w.now with
    | some wake => w.setProgress pid (.waiting wake e next)
    | none => w.proceed pid verdict e next
  | some (.waiting wake e next) => if wake ≤ w.now then w.proceed pid .proceed e next else w
  | some (.ended _) | some .broken | none => w

/-- A call from outside. -/
def enter (w : World) (c : Call) : World :=
  w.spawn .call (Result.answer <$> c.job w.config)

/-- When the next waiting process can go on. -/
def nextWake? (w : World) : Option Nat :=
  w.processes.foldl (fun least p => match p.progress with
    | .waiting wake _ _ => some (match least with
      | some t => min t wake
      | none => wake)
    | _ => least) none

end World

end CourierDispatch
