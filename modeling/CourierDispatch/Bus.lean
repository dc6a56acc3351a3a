import CourierDispatch.Notice

/-!
# The bus

Messages go to every feed that was opened before them. The bus keeps as many messages as its
ring has slots, the least power of two that is not below the asked capacity; a feed that has
fallen further behind loses the oldest messages and goes on with those that are kept.

A message carries any JSON value. A feed follows one trip or one courier: it sees the messages
of its channel that decode and concern it. A cancellation that names no courier concerns every
courier.

`new?` and `publish` are `new` and `publish` of the `BroadcastBus`. Its `subscribe_trip_updates` and
`subscribe_assignments` are `subscribe` with an `Interest`, and `Interest.update?` is what its `filtered`
lets through.
-/

namespace CourierDispatch

structure Message where
  channel : Channel
  payload : Json.Value
  deriving Repr

structure Bus where
  /-- How many messages are kept. -/
  slots : Nat
  /-- Every message so far, the first one first. -/
  published : List Message

/-- What a feed follows. -/
inductive Interest
  | trip (id : Uuid)
  | courier (id : Uuid)
  deriving DecidableEq, Repr

/-- A reader of the bus: what it follows, and how many messages it is past. -/
structure Feed where
  interest : Interest
  position : Nat
  deriving DecidableEq, Repr

namespace Interest

def channel : Interest → Channel
  | trip _ => .tripUpdates
  | courier _ => .assignment

/-- Does an update concern a feed? -/
def concerns : Interest → TripUpdate → Bool
  | trip id, u => u.tripId = id
  | courier id, u => u.courierId = some id || (u.status = .cancelled && u.courierId.isNone)

/-- What a feed makes of a message. -/
def update? (i : Interest) (m : Message) : Option TripUpdate :=
  if m.channel = i.channel then
    match TripUpdate.decode.ofValue m.payload with
    | .ok u => if i.concerns u then some u else none
    | .error _ => none
  else none

end Interest

namespace Bus

/-- The least power of two that is not below a number. -/
def nextPowerOfTwo (n : Nat) : Nat := Nat.pow 2 (if n ≤ 1 then 0 else (n - 1).log2 + 1)

example : [1, 2, 3, 4, 5, 1024, 1025].map nextPowerOfTwo = [1, 2, 4, 4, 8, 1024, 2048] := by decide

/-- How many bytes a slot takes. -/
def slotSize : Nat := 64

/-- A bus of some capacity; `none` if it has no slots, or if its ring has more bytes than half of
those that can be addressed. -/
def new? (capacity : Nat) : Option Bus :=
  let slots := nextPowerOfTwo capacity
  if 0 < capacity ∧ slots * slotSize < UInt64.size / 2 then some ⟨slots, []⟩ else none

def publish (b : Bus) (m : Message) : Bus := { b with published := b.published ++ [m] }

/-- A feed that starts behind the last message. -/
def subscribe (b : Bus) (i : Interest) : Feed := ⟨i, b.published.length⟩

/-- Where a feed goes on: past what it has seen, and past what is no longer kept. -/
def resume (b : Bus) (f : Feed) : Nat := max f.position (b.published.length - b.slots)

/-- Everything that a feed can read now, and the feed behind it. -/
def read (b : Bus) (f : Feed) : List TripUpdate × Feed :=
  ((b.published.drop (b.resume f)).filterMap f.interest.update?,
    { f with position := b.published.length })

end Bus

end CourierDispatch
