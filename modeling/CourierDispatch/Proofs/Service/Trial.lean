import CourierDispatch.Proofs.Conduct.Rule
import CourierDispatch.Proofs.Service.Rules

/-!
# Trying runs

A run of mild moves obeys every rule that leaves such moves alone (`Obeys.of_mild`), and a run that
passes a check of each move obeys what the check is for (`Obeys.of_passes`). So a concrete run can be
held against a rule by evaluation. `Trial.start` is a small service on which statements about runs are
tried.
-/

namespace CourierDispatch

/-- A call that is offered, a step that goes through, or time that passes. -/
def Move.mild : Move → Bool
  | .enter c => c.offered
  | .step _ v => v = .proceed
  | .pass _ => true

namespace World

variable {rule : World → Move → Prop} {w : World} {m : Move} {moves : List Move}

theorem enters_of_mild (mild : m.mild) : w.Enters (·.offered) m := by
  rintro c rfl
  exact mild

theorem storeHolds_of_mild (mild : m.mild) : w.StoreHolds m := by
  rintro pid v op rfl -
  simpa [Move.mild] using mild

/-- A rule that allows such moves in every world. -/
theorem Obeys.of_all {good : Move → Bool} (all : moves.all good)
    (allowed : ∀ w m, good m = true → rule w m) : w.Obeys rule moves := by
  induction moves generalizing w with
  | nil => trivial
  | cons m moves ih =>
    simp only [List.all_cons, Bool.and_eq_true] at all
    exact ⟨allowed w m all.1, ih all.2⟩

theorem Obeys.of_mild (mild : moves.all Move.mild)
    (allowed : ∀ w m, m.mild = true → rule w m) : w.Obeys rule moves := .of_all mild allowed

/-- A check of each move in the world in which it is made. -/
def passes (allowed : World → Move → Bool) : World → List Move → Bool
  | _, [] => true
  | w, m :: moves => allowed w m && passes allowed (w.move m) moves

theorem Obeys.of_passes {allowed : World → Move → Bool} (traced : w.Traced fun _ => True)
    (passed : w.passes allowed moves)
    (sound : ∀ w m, w.Traced (fun _ => True) → allowed w m = true → rule w m) :
    w.Obeys rule moves := by
  induction moves generalizing w with
  | nil => trivial
  | cons m moves ih =>
    simp only [passes, Bool.and_eq_true] at passed
    exact ⟨sound w m traced passed.1, ih (traced.move m fun _ _ => trivial) passed.2⟩

/-- The effect that a process is about to have answered. -/
def asked? (w : World) (pid : Nat) : Option Effect :=
  match (w.processes[pid]?).map Process.progress with
  | some (.ready (.act e _)) => some e
  | _ => none

theorem asked?_eq_some {pid : Nat} {e : Effect} : w.asked? pid = some e ↔ w.Asks pid e := by
  unfold asked?
  constructor
  · intro h
    split at h
    · next found =>
      obtain ⟨⟨task, p⟩, there, rfl⟩ := Option.map_eq_some_iff.1 found
      cases h
      exact ⟨task, _, there⟩
    · cases h
  · rintro ⟨task, next, found⟩
    rw [found]
    rfl

theorem asked?_of_asks {pid : Nat} {e : Effect} (asks : w.Asks pid e) : w.asked? pid = some e :=
  asked?_eq_some.2 asks

/-- What a call was answered. -/
def answered? (w : World) (pid : Nat) : Option Answer :=
  match w.processes[pid]? with
  | some ⟨.call, .ended (.answer a)⟩ => some a
  | _ => none

theorem answered?_eq_some {pid : Nat} {a : Answer} :
    w.answered? pid = some a ↔ w.processes[pid]? = some ⟨.call, .ended (.answer a)⟩ := by
  unfold answered?
  constructor
  · intro h
    split at h
    · next found => cases h; exact found
    · cases h
  · intro found
    rw [found]

end World

/-! ## A small service -/

namespace Trial

/-- One way between all places, and ids in a row. -/
def around : Surroundings where
  directions _ _ _ := .ok ⟨"way", 5000, 600, 540⟩
  placeDetails _ := .error (.provider "unknown")
  autocomplete _ := .ok []
  freshId n := ⟨BitVec.ofNat 128 (n + 1)⟩
  stampAt now := ⟨now / 1000, now % 1000 * 1000000⟩
  cacheClock _ := 0
  tickFirst _ := false
  overtime := 0

/-- No settle delay, and a second for each search. -/
def config : Config := { Config.default with settleDelay := 0, matchDeadline := 1000 }

def start : World :=
  ⟨config, around, .empty, .empty, ⟨1024, []⟩, [], .empty, [], 0, 0, 0, 0, [], []⟩

theorem start_new : World.new? config around = some start := rfl

/-- A process gets on by some effects. -/
def steps (pid n : Nat) : List Move := List.replicate n (.step pid .proceed)

/-- A product and an online courier without location are recorded. -/
def stock : List Move :=
  .enter (.request ⟨"POST", "/products", some "application/json",
    "\x7b\"name\":\"van\",\"weight_class\":1\x7d"⟩) :: steps 0 3 ++
  .enter (.request ⟨"POST", "/couriers", some "application/json",
    "\x7b\"user_id\":\"00000000000000000000000000000009\",\"product_id\":\"00000000000000000000000000000001\",\"status\":\"online\"\x7d"⟩) :: steps 1 5

/-- The courier says where it is. -/
def locate (pid : Nat) : List Move :=
  .enter (.request ⟨"PATCH", "/couriers/00000000000000000000000000000002/location",
    some "application/json", "\x7b\"location\":\x7b\"lat\":1.5,\"lng\":2.5\x7d\x7d"⟩) :: steps pid 3

/-- Somebody asks for a trip between two points. -/
def request : Call := .createTrip .nil ⟨"", "", ⟨1.0, 2.0⟩⟩ ⟨"", "", ⟨1.0, 3.0⟩⟩

/-- A place on the equator. It is the only kind of place whose distance from itself can be computed
without any knowledge of the trigonometric functions but their values at zero. -/
def depot : GeoPoint := ⟨0.0, 2.5⟩

/-- The courier says that it is at the depot. -/
def locateAtDepot (pid : Nat) : List Move :=
  .enter (.request ⟨"PATCH", "/couriers/00000000000000000000000000000002/location",
    some "application/json", "\x7b\"location\":\x7b\"lat\":0.0,\"lng\":2.5\x7d\x7d"⟩) :: steps pid 3

/-- Somebody asks for a trip that starts at the depot. -/
def requestFromDepot : Call := .createTrip .nil ⟨"", "", depot⟩ ⟨"", "", ⟨1.0, 3.0⟩⟩

/-- The ids that the courier and the trips get. -/
def courier : Uuid := around.freshId 1

def trip : Uuid := around.freshId 2

def nextTrip : Uuid := around.freshId 3

end Trial

/-! ## Services in which nothing fails -/

namespace World

variable {w : World} {m : Move}

/-- A new service with or without a cache, in some surroundings. -/
def openWith (cacheEnabled : Bool) (around : Surroundings) : World :=
  (World.mk { Trial.config with cacheEnabled } around .empty .empty ⟨1024, []⟩ [] .empty [] 0 0 0 0 [] [])

/-- An operation of the service is called, a step goes through, or time passes. -/
def calm : Move → Bool
  | .enter c => c.dispatches
  | .step _ v => v = .proceed
  | .pass _ => true

/-- The operations of the service are called, and nothing fails. -/
def Undisturbed (_ : World) (m : Move) : Prop := calm m

theorem openWith_new (cacheEnabled : Bool) (around : Surroundings) :
    World.new? { Trial.config with cacheEnabled } around = some (openWith cacheEnabled around) := by
  have bus : Bus.new? Trial.config.eventBufferSize = some ⟨1024, []⟩ := rfl
  simp only [World.new?, bus]
  rfl

theorem undisturbed_of_calm {cacheEnabled : Bool} {around : Surroundings} {moves : List Move}
    (calm : moves.all calm) : ((openWith cacheEnabled around).run moves).Reachable Undisturbed :=
  ⟨{ Trial.config with cacheEnabled }, around, openWith cacheEnabled around, moves,
    openWith_new cacheEnabled around, .of_all calm fun _ _ => id, rfl⟩

theorem enters_of_undisturbed (undisturbed : w.Undisturbed m) :
    w.Enters (·.keepsNothing) m := by
  rintro call rfl
  cases call <;> first | rfl | cases undisturbed

end World

end CourierDispatch
