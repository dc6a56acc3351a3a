import CourierDispatch.Simulation.Disturbance

/-!
# Virtual time

A stage is a world with its disturbances and its clients. Time stands still while any process
can go on: each one runs until it has to wait, the older first, and then the clients are brought
what has been published. When every process waits, time jumps to the first that can go on.

A call is over when its process has ended; what it started in the background has then run as far
as it can without waiting.
-/

namespace CourierDispatch.Simulation

structure Stage where
  world : World
  disturbances : List Disturbance
  sockets : List Http.Socket
  /-- The cache of a caller that does not share the service's own. -/
  spare : RouteCache

namespace Stage

def new? (config : Config) (around : Surroundings) : Option Stage :=
  (World.new? config around).map fun w => ⟨w, [], [], .empty⟩

/-! ## From outside -/

/-- Changes the records directly, and tells the answer. -/
def direct (s : Stage) (op : StoreOp) : Except DispatchError op.Answer × Stage :=
  match s.world.store.perform s.world.stamp op with
  | .ok (a, store) => (.ok a, { s with world := { s.world with store } })
  | .error e => (.error e, s)

/-- Makes a trip directly. -/
def createTrip (s : Stage) (r : TripRequest) : Except DispatchError Trip × Stage :=
  let id := s.world.around.freshId s.world.drawn
  direct { s with world := { s.world with drawn := s.world.drawn + 1 } } (.createTrip id r)

/-- A change that a disturbance makes; its answer is dropped. -/
def apply (s : Stage) : Direct → Stage
  | .createTrip r => (s.createTrip r).2
  | .perform op => (s.direct op).2

/-- Lets an effect run into the disturbances. -/
def judge (s : Stage) (e : Effect) : Verdict × Stage :=
  match siteOf? e with
  | none => (.proceed, s)
  | some site =>
    let (hit, disturbances) := strike site false s.disturbances
    let s := { s with disturbances }
    match hit with
    | none => (.proceed, s)
    | some d => (d.verdict, match d.act with
      | none => s
      | some act => s.apply act)

/-! ## Turns -/

def onWorld (s : Stage) (f : World → World) : Stage := { s with world := f s.world }

/-- Runs a job of a process until it has to wait or is over. -/
def turn (pid : Nat) : Job Result → Stage → Stage
  | .done r, s => s.onWorld (·.setProgress pid (.ended r))
  | .panic, s => s.onWorld (·.breakDown pid)
  | .act e next, s =>
    match e.wake? s.world.now with
    | some wake => s.onWorld (·.setProgress pid (.waiting wake e next))
    | none =>
      let (verdict, s) := s.judge e
      match s.world.answer pid verdict e with
      | some (r, w) => turn pid (next r) { s with world := w }
      | none => s.onWorld (·.breakDown pid)

/-- Runs a process, if it can go on, until it has to wait. -/
def turnOf (s : Stage) (pid : Nat) : Stage :=
  match (s.world.processes[pid]?).map Process.progress with
  | some (.ready job) => turn pid job s
  | some (.waiting wake e next) =>
    if wake ≤ s.world.now then
      match s.world.answer pid .proceed e with
      | some (r, w) => turn pid (next r) { s with world := w }
      | none => s.onWorld (·.breakDown pid)
    else s
  | _ => s

/-- How often work may start more work: a call starts a search, a search starts a fare. -/
def generations : Nat := 3

/-- Runs every process from a number on, then those that these have started. -/
def settleFrom (start : Nat) : Nat → Stage → Stage
  | 0, s => s
  | fuel + 1, s =>
    let count := s.world.processes.length
    if start < count then
      settleFrom count fuel ((List.range' start (count - start)).foldl turnOf s)
    else s

/-- Brings a client what has been published for it. -/
def deliverTo (w : World) (socket : Http.Socket) : World × Http.Socket :=
  match socket.feed with
  | none => (w, socket)
  | some n => match w.feeds[n]? with
    | none => (w, socket)
    | some f =>
      let (updates, f) := w.bus.read f
      ({ w with feeds := w.feeds.set n f }, socket.deliver updates)

/-- Brings every client what has been published for it. -/
def deliver (s : Stage) : Stage :=
  let (w, sockets) := s.sockets.foldl
    (fun (w, done) socket => let (w, socket) := deliverTo w socket; (w, done ++ [socket]))
    (s.world, [])
  { s with world := w, sockets }

/-- Runs all that can go on at this time. -/
def settle (s : Stage) : Stage := (settleFrom 0 generations s).deliver

/-! ## Time -/

/-- Jumps from timer to timer up to a time. Each jump takes at least a millisecond, so the
distance to go is fuel enough. -/
def advanceTo (target : Nat) : Nat → Stage → Stage
  | 0, s => s
  | fuel + 1, s =>
    match s.world.nextWake? with
    | none => s
    | some t =>
      if s.world.now < t ∧ t ≤ target then
        advanceTo target fuel (s.onWorld ({ · with now := t })).settle
      else s

/-- When a process can go on; `none` if it does not wait. -/
def wakeOf? (s : Stage) (pid : Nat) : Option Nat :=
  match (s.world.processes[pid]?).map Process.progress with
  | some (.waiting wake _ _) => some wake
  | _ => none

/-- Lets time pass until a process is over, which may wait as often as the fuel says. -/
def awaitWithin (pid : Nat) : Nat → Stage → Stage
  | 0, s => s
  | fuel + 1, s =>
    match s.wakeOf? pid with
    | none => s
    | some wake => awaitWithin pid fuel (advanceTo wake (wake - s.world.now) s)

/-- How often any process can wait: a search for each of its ticks, and for two reports. -/
def waits (c : Config) : Nat := c.matchDeadline / c.matchTick + 4

/-- Lets time pass until a process is over. -/
def await (s : Stage) (pid : Nat) : Stage := awaitWithin pid (waits s.world.config) s

/-! ## Calls -/

/-- Calls the service and waits for the answer: the number of the process, and the stage then. -/
def call (s : Stage) (c : Call) : Nat × Stage :=
  let pid := s.world.processes.length
  (pid, ((s.onWorld (·.enter c)).settle).await pid)

/-- Exchanges the service's cache for the spare one. -/
def swapCaches (s : Stage) : Stage :=
  { s with world := { s.world with cache := s.spare }, spare := s.world.cache }

/-- A call that uses the spare cache, for calls that do not wait. -/
def callApart (s : Stage) (c : Call) : Nat × Stage :=
  let pid := s.world.processes.length
  (pid, (((s.onWorld (·.enter c)).swapCaches.turnOf pid).swapCaches).settle)

/-- What a process has ended with. -/
def result? (s : Stage) (pid : Nat) : Option Result :=
  match (s.world.processes[pid]?).map Process.progress with
  | some (.ended r) => some r
  | _ => none

/-! ## The bus and its clients -/

/-- Publishes any message directly. -/
def publish (s : Stage) (m : Message) : Stage :=
  (s.onWorld fun w => { w with bus := w.bus.publish m }).settle

/-- Opens a feed directly: its number, and the stage with it. -/
def subscribe (s : Stage) (i : Interest) : Nat × Stage :=
  (s.world.feeds.length,
    s.onWorld fun w => { w with feeds := w.feeds ++ [w.bus.subscribe i] })

/-- Reads all that a feed can read now. -/
def readFeed (s : Stage) (n : Nat) : List TripUpdate × Stage :=
  match s.world.feeds[n]? with
  | none => ([], s)
  | some f =>
    let (updates, f) := s.world.bus.read f
    (updates, s.onWorld fun w => { w with feeds := w.feeds.set n f })

/-- Opens a connection by a handshake: the answer, and the stage with the connection. -/
def connect (s : Stage) (h : Http.Handshake) : Option Http.Opening × Stage :=
  let (pid, s) := s.call (.openFeed h)
  match s.result? pid with
  | some (.answer (.opening o)) =>
    let socket := match o.accepted with
      | some (_, feed) => Http.Socket.accepted feed
      | none => Http.Socket.refused
    (some o, { s with sockets := s.sockets ++ [socket] })
  | _ => (none, { s with sockets := s.sockets ++ [Http.Socket.refused] })

/-- Changes a connection. -/
def onSocket (s : Stage) (n : Nat) (f : Http.Socket → α × Http.Socket) : Option α × Stage :=
  match s.sockets[n]? with
  | none => (none, s)
  | some socket =>
    let (a, socket) := f socket
    (some a, { s with sockets := s.sockets.set n socket })

end Stage

end CourierDispatch.Simulation
