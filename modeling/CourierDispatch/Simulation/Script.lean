import CourierDispatch.Service.World

/-!
# Scripted surroundings

Collaborators that answer from lists written down before the run. The directions provider gives
its answers in order and repeats the last one; the directory knows the places it is given and
suggests a street for every text. Ids are drawn in ascending order from a range of their own,
so that they can be told from the ids that callers bring.
-/

namespace CourierDispatch.Simulation

structure Script where
  routes : List Directions
  places : List (String × Place)

namespace Script

/-- The answer of a provider that has no list: only the polyline tells the answers apart. -/
def unlisted (n : Nat) : Directions := ⟨s!"poly-{n}", 5000, 600, 540⟩

/-- The answer after a number of answers. -/
def route (s : Script) (n : Nat) : Directions :=
  match s.routes[n]? with
  | some r => r
  | none => s.routes.getLast?.getD (unlisted n)

def place (s : Script) (id : String) : Except DispatchError Place :=
  match s.places.lookup id with
  | some p => .ok p
  | none => .error (.provider s!"unknown place {id}")

def suggestions (input : String) : List PlaceSuggestion := [⟨"ac-" ++ input, input ++ " street"⟩]

/-! ## Drawn ids -/

/-- The first id of the range. -/
def firstDrawn : Nat := 0x9fffffff_ffff_4fff_8fff_000000000000

/-- How many ids the range has. -/
def drawnCount : Nat := 0x1_0000_0000_0000

def drawnId (n : Nat) : Uuid := ⟨BitVec.ofNat 128 (firstDrawn + n)⟩

/-- Was an id drawn? -/
def isDrawn (id : Uuid) : Bool :=
  firstDrawn ≤ id.bits.toNat && id.bits.toNat < firstDrawn + drawnCount

example : (drawnId 0).text = "9fffffff-ffff-4fff-8fff-000000000000" := by decide

/-- The surroundings of a script. The run starts with the year 1970, and takes no time on the clock
of the cache. A deadline goes before a tick. -/
def surroundings (s : Script) : Surroundings where
  directions n _ _ := .ok (s.route n)
  placeDetails := s.place
  autocomplete input := .ok (suggestions input)
  freshId := drawnId
  stampAt now := ⟨now / 1000, now % 1000 * 1000000⟩
  cacheClock _ := 0
  tickFirst _ := false
  overtime := 0

end Script

end CourierDispatch.Simulation
