import CourierDispatch.Proofs.Job.Lookup
import CourierDispatch.Proofs.Trip.Report
import CourierDispatch.Service.World

/-!
# Every job, with and without the cache

One lemma for each job of the service: the job under some settings and the job under the same
settings without a cache are alike (`Call.alike_job`, `World.alike_fareJob`, `World.alike_runJob`).
All that they ask for besides look-ups is common, but for three things: a search that holds a slot
frees it, a call that is made to inspect the cache asks the cache itself, and the report of the
counters asks for the counters.
-/

namespace CourierDispatch

open Job

/-- An effect that has nothing to do with look-ups, with slots that are freed, or with counters
that are read. -/
def Effect.common : Effect → Bool
  | .cacheGet _ | .cacheSet .. | .computeRoute .. | .countLookup _ | .finishRun .. | .exposition =>
    false
  | _ => true

variable {kind : Effect → Prop}

/-! ## Jobs without look-ups -/

theorem Quote.common_resolve (input : PlaceInput) : Attempt.Only (·.common) (resolve input) := by
  unfold resolve
  split
  · exact ⟨rfl, fun _ => trivial⟩
  · exact Attempt.only_pure _

theorem Quote.common_pricedProducts (c : RouteConfig) (pricer : Pricer) (pickup : GeoPoint)
    (distance : UInt64) : Attempt.Only (·.common) (pricedProducts c pricer pickup distance) :=
  Attempt.only_bind (Attempt.only_store rfl) fun _ => Attempt.only_pure _

theorem Trip.common_reportStatus (settleDelay : Nat) (trip : Uuid) (status : TripStatus) :
    Attempt.Only (·.common) (reportStatus settleDelay trip status) := by
  change Job.Only _ _ (reportStatus settleDelay trip status).run
  rw [run_reportStatus]
  refine ⟨rfl, fun r => ?_⟩
  cases r with
  | error err => trivial
  | ok t =>
    refine ((only_tell settleDelay t status).mono fun e tells => ?_).bind fun _ _ => trivial
    cases tells <;> rfl

namespace Search

/-- A job without look-ups, whatever its result. -/
abbrev Common {α : Type} (j : Job α) : Prop := j.Only (·.common) fun _ => True

variable (m : MatchingConfig) (settleDelay : Nat) (trip : Uuid)

theorem common_tripGone : Common (tripGone trip) := by
  refine ⟨rfl, fun r => ?_⟩
  rcases r with _ | _ | t <;> trivial

theorem common_goneOr (outcome : MatchOutcome) : Common (goneOr trip outcome) :=
  (common_tripGone trip).bind fun _ _ => trivial

theorem common_assign (courier : Uuid) : Attempt.Only (·.common) (assign trip courier) :=
  Attempt.only_bind (Attempt.only_store rfl) fun _ => Attempt.only_perform rfl

theorem common_confirm (courier : Uuid) : Common (confirm settleDelay trip courier) := by
  refine (Trip.common_reportStatus settleDelay trip .courierAssigned).bind fun r _ => ?_
  rcases r with err | t
  · cases err with
    | tripClosed id s => exact ⟨rfl, fun _ => trivial⟩
    | _ => trivial
  · trivial

theorem common_bindFound (courier : Uuid) : Common (bindFound settleDelay trip courier) := by
  refine (common_assign trip courier).bind fun r _ => ?_
  cases r with
  | error err => exact common_goneOr trip _
  | ok _ => exact common_confirm settleDelay trip courier

theorem common_take (courier : Uuid) : Common (take settleDelay trip courier) := by
  refine (Trip.common_reportStatus settleDelay trip .courierFound).bind fun r _ => ?_
  cases r with
  | error err => exact common_goneOr trip _
  | ok t =>
    refine (common_tripGone trip).bind fun gone _ => ?_
    cases gone with
    | some outcome => trivial
    | none => exact common_bindFound settleDelay trip courier

theorem common_look (pickup : GeoPoint) : Common (look m settleDelay trip pickup) := by
  refine (common_tripGone trip).bind fun gone _ => ?_
  cases gone with
  | some outcome => trivial
  | none =>
    refine ⟨rfl, fun found => ?_⟩
    rcases found with _ | _ | c
    · trivial
    · trivial
    · exact (common_take settleDelay trip c.id).bind fun _ _ => trivial

theorem common_giveUp : Common (giveUp settleDelay trip) := by
  refine (common_tripGone trip).bind fun gone _ => ?_
  cases gone with
  | some outcome => trivial
  | none =>
    refine (Trip.common_reportStatus settleDelay trip .courierNotFound).bind fun r _ => ?_
    rcases r with err | t
    · cases err <;> trivial
    · trivial

theorem common_rounds (pickup : GeoPoint) (deadline n due : Nat) :
    Common (rounds m settleDelay trip pickup deadline n due) := by
  induction n generalizing due with
  | zero => exact ⟨rfl, fun _ => common_giveUp settleDelay trip⟩
  | succ n ih =>
    refine ⟨rfl, fun alarm => ?_⟩
    cases alarm with
    | deadline => exact common_giveUp settleDelay trip
    | tick now =>
      refine (common_look m settleDelay trip pickup).bind fun found _ => ?_
      cases found with
      | some outcome => trivial
      | none => exact ih _

/-- A search, which breaks down if its tick is zero. -/
theorem alike_run {c : RouteConfig} {refuses : DispatchError → MatchOutcome → Prop}
    (common : ∀ e : Effect, e.common → kind e) (pickup : GeoPoint) :
    Alike c kind refuses (run m settleDelay trip pickup) (run m settleDelay trip pickup) := by
  refine .act (common _ rfl) fun start => ?_
  change Alike _ _ _ (if m.tick = 0 then .panic else rounds m settleDelay trip pickup ..)
    (if m.tick = 0 then .panic else rounds m settleDelay trip pickup ..)
  split
  · exact .panic
  · exact .of_only ((common_rounds m settleDelay trip pickup _ _ _).mono common)

end Search

namespace Dispatch

variable (c : Config)

theorem common_reportTripStatus (trip : Uuid) (status : TripStatus) :
    Attempt.Only (·.common) (reportTripStatus c trip status) := by
  refine Attempt.only_bind (Trip.common_reportStatus c.settleDelay trip status) fun t => ?_
  split
  · exact Attempt.only_bind (Attempt.only_store rfl) fun _ => Attempt.only_pure _
  · exact Attempt.only_pure _

theorem common_assignCourier (trip courier : Uuid) :
    Attempt.Only (·.common) (assignCourier c trip courier) :=
  Attempt.only_bind (Search.common_assign trip courier) fun _ =>
    Trip.common_reportStatus c.settleDelay trip .courierAssigned

theorem common_nearbyCouriers (point : GeoPoint) (radius : Option Float) :
    Attempt.Only (·.common) (nearbyCouriers c point radius) := by
  simp only [nearbyCouriers]
  split
  · exact Attempt.only_store rfl
  · exact Attempt.only_throw _

theorem common_tripDetails (trip : Uuid) : Attempt.Only (·.common) (tripDetails trip) :=
  Attempt.only_bind (Attempt.only_store rfl) fun t => Attempt.only_orElse _ t

theorem common_autocomplete (input : String) : Attempt.Only (·.common) (autocomplete input) := by
  unfold autocomplete
  split
  · exact Attempt.only_pure _
  · exact ⟨rfl, fun _ => trivial⟩

end Dispatch

namespace Http

theorem common_createCourier (n : NewCourier) : Attempt.Only (·.common) (createCourier n) := by
  refine Attempt.only_bind (Attempt.only_store rfl) fun product => ?_
  cases product with
  | none => exact Attempt.only_throw _
  | some _ =>
    refine Attempt.only_bind (Attempt.only_perform rfl) fun id => ?_
    exact Attempt.only_bind (Attempt.only_perform rfl) fun now => Attempt.only_store rfl

theorem common_createProduct (n : NewProduct) : Attempt.Only (·.common) (createProduct n) := by
  unfold createProduct
  split
  · exact Attempt.only_throw _
  · exact Attempt.only_bind (Attempt.only_perform rfl) fun id => Attempt.only_store rfl

theorem common_courierDetails (id : Uuid) : Attempt.Only (·.common) (courierDetails id) :=
  Attempt.only_bind (Attempt.only_store rfl) fun found => Attempt.only_orElse _ found

theorem common_reportStatus (c : Config) (id : Uuid) (status : TripStatus) :
    Attempt.Only (·.common) (reportStatus c id status) := by
  unfold reportStatus
  split
  · exact Attempt.only_throw _
  · exact Dispatch.common_reportTripStatus c id status

/-- The endpoint that a request is for. -/
def Request.endpoint? (r : Request) : Option Endpoint :=
  r.target?.bind fun t => Endpoint.ofPath? t.path

/-- A handshake as an ordinary request. -/
def Handshake.request (h : Handshake) : Request := ⟨"GET", h.target, none, ""⟩

theorem ne_post {name : String} {m : Method} (asked : name ≠ "POST")
    (named : method? name = some m) : m ≠ .post := by
  rintro rfl
  unfold method? at named
  split at named
  · cases named
  · split at named <;> cases named

/-- Trips and routes are only asked for by posting. -/
theorem elsewhere_of_methods {e : Endpoint} {m : Method} (takes : m ∈ e.methods)
    (other : m ≠ .post) : e ≠ .trips ∧ e ≠ .routes := by
  constructor <;> rintro rfl <;> exact other (List.mem_singleton.1 takes)

end Http

/-! ## Jobs with look-ups -/

section

variable (common : ∀ e : Effect, e.common → kind e)

include common

namespace Quote

variable (c : RouteConfig) (pricer : Pricer)

theorem alike_make (pickup dropoff : PlaceInput) :
    Attempt.Alike c kind (make c pricer pickup dropoff) (make c.uncached pricer pickup dropoff) := by
  refine .after ((common_resolve pickup).mono common) fun pickup => ?_
  refine .after ((common_resolve dropoff).mono common) fun dropoff => ?_
  refine (Attempt.alike_directionsBetween c pickup.point dropoff.point).bind fun way => ?_
  exact .of_only (Attempt.only_bind ((common_pricedProducts c pricer pickup.point _).mono common)
    fun _ => Attempt.only_pure _)

omit common in
theorem alike_priceTrip (t : Trip) (product : Product) :
    Attempt.Alike c kind (priceTrip c pricer t product) (priceTrip c.uncached pricer t product) := by
  refine Attempt.Alike.bind ?_ fun _ => .of_only (Attempt.only_pure _)
  unfold chargedDistance
  split
  · exact .of_only (Attempt.only_pure _)
  · exact (Attempt.alike_directionsBetween c _ _).bind fun _ => .of_only (Attempt.only_pure _)

end Quote

theorem Fare.alike_record (c : RouteConfig) (pricer : Pricer) (trip courier : Uuid) :
    Attempt.Alike c kind (record c pricer trip courier) (record c.uncached pricer trip courier) := by
  have read (op : StoreOp) (asks : (Effect.store op).common) :
      Attempt.Only kind (Attempt.store op) := Attempt.only_store (common _ asks)
  refine .after (read (.getTrip trip) rfl) fun t => ?_
  refine .after (Attempt.only_orElse _ t) fun t => ?_
  refine .after (read (.getCourier courier) rfl) fun bound => ?_
  refine .after (Attempt.only_orElse _ bound) fun bound => ?_
  refine .after (read (.getProduct bound.productId) rfl) fun product => ?_
  refine .after (Attempt.only_orElse _ product) fun product => ?_
  refine (Quote.alike_priceTrip c pricer t product).bind fun cost => ?_
  exact .of_only (Attempt.only_bind (read (.setTripCost trip cost) rfl) fun _ => Attempt.only_pure _)

namespace Dispatch

variable (c : Config)

theorem alike_computeRoute (pickup dropoff : PlaceInput) :
    Attempt.Alike c.routing kind (computeRoute c pickup dropoff)
      (computeRoute c.uncached pickup dropoff) :=
  (Quote.alike_make common c.routing c.pricer pickup dropoff).bind fun _ =>
    .of_only (Attempt.only_pure _)

theorem alike_createTrip (requester : Uuid) (pickup dropoff : PlaceInput) :
    Attempt.Alike c.routing kind (createTrip c requester pickup dropoff)
      (createTrip c.uncached requester pickup dropoff) := by
  refine (Quote.alike_make common c.routing c.pricer pickup dropoff).bind fun q => ?_
  refine .of_only (Attempt.Only.mono ?_ common)
  refine Attempt.only_bind (Attempt.only_perform rfl) fun id => ?_
  refine Attempt.only_bind (Attempt.only_store rfl) fun trip => ?_
  exact Attempt.only_bind (Attempt.only_perform rfl) fun _ => Attempt.only_pure _

end Dispatch

namespace Http

variable (c : Config)

/-- A response that says why something was refused. -/
def Refused (err : DispatchError) (r : Response) : Prop := r = .ofError err

omit common in
theorem alike_answer {α : Type} {encode : α → Json.Value} {a a' : Attempt α}
    (h : Attempt.Alike c.routing kind a a') :
    Job.Alike c.routing kind Refused (answer encode a) (answer encode a') :=
  h.answered (fun _ => .done _) fun _ => ⟨_, rfl, rfl, rfl⟩

omit common in
theorem alike_reading {α : Type} {part : Except Response α} {next next' : α → Job Response}
    (h : ∀ a, Job.Alike c.routing kind Refused (next a) (next' a)) :
    Job.Alike c.routing kind Refused (reading part next) (reading part next') := by
  cases part with
  | ok a => exact h a
  | error r => exact .done r

omit common in
theorem only_reading {α : Type} {ends : Response → Prop} {part : Except Response α}
    {next : α → Job Response} (h : ∀ a, (next a).Only kind ends) (rejected : ∀ r, ends r) :
    (reading part next).Only kind ends := by
  cases part with
  | ok a => exact h a
  | error r => exact rejected r

/-- Only for a trip or a route is a way looked up. -/
theorem only_serve (r : Request) {e : Endpoint} (m : Method)
    (elsewhere : e ≠ .trips ∧ e ≠ .routes) (exposes : e = .metrics → kind .exposition) :
    (serve c r e m).Only kind fun _ => True := by
  have answers {α : Type} {encode : α → Json.Value} {a : Attempt α}
      (h : Attempt.Only (·.common) a) : (answer encode a).Only kind fun _ => True :=
    (h.mono common).bind fun r _ => by cases r <;> trivial
  unfold serve
  split
  · exact absurd rfl elsewhere.1
  · exact only_reading (fun _ => answers (Dispatch.common_tripDetails _)) fun _ => trivial
  · exact only_reading (fun _ => answers (common_reportStatus c _ _)) fun _ => trivial
  · exact only_reading (fun _ => answers (Attempt.only_store rfl)) fun _ => trivial
  · exact only_reading (fun _ => answers (Dispatch.common_assignCourier c _ _)) fun _ => trivial
  · exact absurd rfl elsewhere.2
  · exact only_reading (fun _ => answers (common_createCourier _)) fun _ => trivial
  · exact only_reading (fun _ => answers (Dispatch.common_nearbyCouriers c ..)) fun _ => trivial
  · exact only_reading (fun _ => answers (common_courierDetails _)) fun _ => trivial
  · exact only_reading (fun _ => answers (Attempt.only_store rfl)) fun _ => trivial
  · exact only_reading (fun _ => answers (Attempt.only_store rfl)) fun _ => trivial
  · exact only_reading (fun _ => answers (common_createProduct _)) fun _ => trivial
  · exact answers (Attempt.only_store rfl)
  · exact only_reading (fun _ => answers (Dispatch.common_autocomplete _)) fun _ => trivial
  · trivial
  · trivial
  · exact ⟨common _ rfl, fun _ => trivial⟩
  · exact ⟨exposes rfl, fun _ => trivial⟩

theorem alike_serve_elsewhere {refuses : DispatchError → Response → Prop} (r : Request)
    {e : Endpoint} (m : Method) (elsewhere : e ≠ .trips ∧ e ≠ .routes)
    (exposes : e = .metrics → kind .exposition) :
    Job.Alike c.routing kind refuses (serve c r e m) (serve c.uncached r e m) := by
  have same : serve c.uncached r e m = serve c r e m := by
    obtain ⟨trips, routes⟩ := elsewhere
    cases e <;> first | rfl | (cases m <;> rfl) | contradiction
  rw [same]
  exact .of_only (only_serve common c r m elsewhere exposes)

theorem alike_serve (r : Request) (e : Endpoint) (m : Method)
    (exposes : e = .metrics → kind .exposition) :
    Job.Alike c.routing kind Refused (serve c r e m) (serve c.uncached r e m) := by
  by_cases trips : e = .trips
  · subst trips
    exact alike_reading c fun _ => alike_answer c (Dispatch.alike_createTrip common c _ _ _)
  by_cases routes : e = .routes
  · subst routes
    exact alike_reading c fun _ => alike_answer c (Dispatch.alike_computeRoute common c _ _)
  exact alike_serve_elsewhere common c r m ⟨trips, routes⟩ exposes

/-- A request that posts nothing asks for no way, so it is refused none. -/
theorem alike_handleAt_asked {refuses : DispatchError → Response → Prop} (r : Request)
    (e : Endpoint) (asked : r.method ≠ "POST") (exposes : e = .metrics → kind .exposition) :
    Job.Alike c.routing kind refuses (handleAt c r e) (handleAt c.uncached r e) := by
  unfold handleAt
  split
  · exact .done _
  · split
    · exact .done _
    · next m found =>
      split
      · next takes =>
        have serves (refuses : DispatchError → Response → Prop) :
            Job.Alike c.routing kind refuses (serve c r e m) (serve c.uncached r e m) :=
          alike_serve_elsewhere common c r m (elsewhere_of_methods takes (ne_post asked found))
            exposes
        split
        · exact (serves _).then fun _ => .done _
        · exact serves _
      · exact .done _

theorem alike_handleAt (r : Request) (e : Endpoint) (exposes : e = .metrics → kind .exposition) :
    Job.Alike c.routing kind Refused (handleAt c r e) (handleAt c.uncached r e) := by
  by_cases posted : r.method = "POST"
  · unfold handleAt
    rw [posted]
    simp only [String.reduceEq, if_false]
    split
    · exact .done _
    · split
      · exact alike_serve common c r e _ exposes
      · exact .done _
  · exact alike_handleAt_asked common c r e posted exposes

omit common in
/-- A request is handled at its endpoint, if it has one. -/
theorem alike_handle {refuses : DispatchError → Response → Prop} (r : Request)
    (at_ : ∀ e, r.endpoint? = some e →
      Job.Alike c.routing kind refuses (handleAt c r e) (handleAt c.uncached r e)) :
    Job.Alike c.routing kind refuses (handle c r) (handle c.uncached r) := by
  unfold handle
  unfold Request.endpoint? at at_
  split
  · exact .done _
  · next t target =>
    rw [target] at at_
    split
    · exact .done _
    · next e found => exact at_ e found

/-- Opening a feed looks up no way. -/
theorem alike_openFeed {refuses : DispatchError → Opening → Prop} (h : Handshake)
    (exposes : h.request.endpoint? = some .metrics → kind .exposition) :
    Job.Alike c.routing kind refuses (openFeed c h) (openFeed c.uncached h) := by
  simp only [openFeed]
  split
  · exact .done _
  · split
    · refine (alike_handle c h.request fun e found => ?_).then fun _ => .done _
      refine alike_handleAt_asked common c _ e ?_ fun same => exposes (same ▸ found)
      simp [Handshake.request]
    · split
      · exact .done _
      · split
        · exact .done _
        · exact .act (common _ rfl) fun _ => .done _

end Http

namespace Call

/-- What a call asks of the cache or of the counters themselves. -/
def Inspects : Call → Effect → Prop
  | .cacheGet key, e => e = .cacheGet key
  | .cacheSet key route ttl, e => e = .cacheSet key route ttl
  | .request r, e => r.endpoint? = some .metrics ∧ e = .exposition
  | .openFeed h, e => h.request.endpoint? = some .metrics ∧ e = .exposition
  | _, _ => False

/-- An answer that says why something was refused. -/
inductive Refused (err : DispatchError) : Answer → Prop
  | plain : Refused err (.refused err)
  | response : Refused err (.response (.ofError err))

variable (c : Config)

omit common in
theorem alike_answerOf {α : Type} {wrap : α → Answer} {a a' : Attempt α}
    (h : Attempt.Alike c.routing kind a a') :
    Job.Alike c.routing kind Refused (answerOf wrap a) (answerOf wrap a') :=
  h.answered (fun _ => .done _) fun _ => ⟨_, rfl, rfl, .plain⟩

theorem alike_job (call : Call) (inspects : ∀ e, call.Inspects e → kind e) :
    Job.Alike c.routing kind Refused (call.job c) (call.job c.uncached) := by
  have same {α : Type} {wrap : α → Answer} {a : Attempt α} (h : Attempt.Only (·.common) a) :
      Job.Alike c.routing kind Refused (answerOf wrap a) (answerOf wrap a) :=
    alike_answerOf c (.of_only (h.mono common))
  cases call with
  | createTrip => exact alike_answerOf c (Dispatch.alike_createTrip common c ..)
  | computeRoute => exact alike_answerOf c (Dispatch.alike_computeRoute common c ..)
  | quote => exact alike_answerOf c (Quote.alike_make common c.routing c.pricer ..)
  | directions => exact alike_answerOf c (Attempt.alike_directionsBetween c.routing ..)
  | priceTrip => exact alike_answerOf c (Quote.alike_priceTrip c.routing c.pricer ..)
  | reportTripStatus => exact same (Dispatch.common_reportTripStatus c _ _)
  | assignCourier => exact same (Dispatch.common_assignCourier c _ _)
  | nearbyCouriers => exact same (Dispatch.common_nearbyCouriers c ..)
  | tripDetails => exact same (Dispatch.common_tripDetails _)
  | autocomplete => exact same (Dispatch.common_autocomplete _)
  | reportStatus => exact same (Trip.common_reportStatus ..)
  | resolve => exact same (Quote.common_resolve _)
  | pricedProducts => exact same (Quote.common_pricedProducts c.routing c.pricer ..)
  | bind => exact same (Search.common_assign _ _)
  | release | confirmPickup => exact same (Attempt.only_store rfl)
  | suggest => exact same ⟨rfl, fun _ => trivial⟩
  | cacheGet | cacheSet =>
    exact alike_answerOf c (.of_only ⟨inspects _ rfl, fun _ => trivial⟩)
  | startRun | sleep => exact .act (common _ rfl) fun _ => .done _
  | search =>
    exact (Search.alike_run c.matching c.settleDelay _ common _).then fun _ => .done _
  | request r =>
    have handled : Job.Alike c.routing kind Http.Refused _ _ := Http.alike_handle c r fun e found =>
      Http.alike_handleAt common c r e fun same => inspects _ ⟨same ▸ found, rfl⟩
    exact handled.map fun err _ refused => by cases refused; exact .response
  | openFeed h =>
    exact (Http.alike_openFeed common c h fun same => inspects _ ⟨same, rfl⟩).then fun _ => .done _

end Call

end

/-! ## Processes -/

/-- A result that says why something was refused. -/
inductive Result.Refused (err : DispatchError) : Result → Prop
  | answer {a : Answer} (refused : Call.Refused err a) : Refused err (.answer a)
  | fare : Refused err (.fare (.error err))

namespace World

variable (common : ∀ e : Effect, e.common → kind e) (c : Config)

include common

theorem alike_call (call : Call) (inspects : ∀ e, call.Inspects e → kind e) :
    Alike c.routing kind Result.Refused (Result.answer <$> call.job c)
      (Result.answer <$> call.job c.uncached) :=
  (Call.alike_job common c call inspects).map fun _ _ => .answer

theorem alike_fareJob (trip courier : Uuid) :
    Alike c.routing kind Result.Refused (fareJob c trip courier) (fareJob c.uncached trip courier) :=
  (Fare.alike_record common c.routing c.pricer trip courier).answered (fun _ => .done _) fun _ =>
    ⟨_, rfl, rfl, .fare⟩

theorem alike_runJob (trip : Uuid) (pickup : GeoPoint)
    (finishes : ∀ outcome, kind (.finishRun trip outcome)) :
    Alike c.routing kind Result.Refused (runJob c trip pickup) (runJob c.uncached trip pickup) := by
  refine Alike.then ?_ fun _ => .done _
  refine (Search.alike_run c.matching c.settleDelay trip common pickup).then fun outcome => ?_
  exact .act (finishes outcome) fun _ => .done _

end World

end CourierDispatch
