import CourierDispatch.Proofs.Conduct.Calls

/-!
# How a call fails

A call that fails has changed nothing by then: whatever it asked for before was an inquiry, or was
refused (`World.Origin.fails_clean`). Two calls go on after they have changed something, and both only with
what cannot be refused unless another process gets in between: the release of a courier behind a status
that was written, and the report of a binding right behind it (`Stumbled`). And a call that has asked for a
place or a way in vain fails.
-/

namespace CourierDispatch

open Job

namespace Exchange

/-- An exchange that changes no record, publishes nothing and starts nothing. -/
def harmless : Exchange → Bool
  | ⟨.store _, .error _⟩ => true
  | ⟨.store op, .ok _⟩ => op.reads
  | ⟨.publish .., _⟩ | ⟨.startFare .., _⟩ | ⟨.startRun .., _⟩ | ⟨.finishRun .., _⟩ => false
  | _ => true

/-- A place or a way was asked for in vain. -/
def vain : Exchange → Bool
  | ⟨.placeDetails _, .error _⟩ | ⟨.autocomplete _, .error _⟩ | ⟨.computeRoute .., .error _⟩ => true
  | _ => false

end Exchange

/-- A release was refused for a trip that was written, or the report of a binding right behind it. -/
inductive Stumbled : List Exchange → Prop
  | release {past : List Exchange} {trip : Uuid} {status : TripStatus} {t : Trip}
      {err : DispatchError} (written : ∃ x ∈ past, x.written? = some (trip, status, t)) :
      Stumbled (⟨.store (.unassignTrip trip), .error err⟩ :: past)
  | report {past : List Exchange} {trip courier : Uuid} {err : DispatchError} :
      Stumbled (⟨.store (.setTripStatus trip .courierAssigned), .error err⟩ ::
        ⟨.startFare trip courier, ()⟩ :: ⟨.store (.assignCourier trip courier), .ok ()⟩ :: past)

/-- Nothing was changed. -/
def Unmoved (past : List Exchange) : Prop := ∀ x ∈ past, x.harmless

/-- Nothing was asked for in vain. -/
def Supplied (past : List Exchange) : Prop := ∀ x ∈ past, x.vain = false

/-- Nothing was changed, as far as others leave a process alone. -/
def Clean (past : List Exchange) : Prop := Unmoved past ∨ Stumbled past

variable {α β : Type} {past : List Exchange} {x : Exchange}

theorem Unmoved.cons (h : Unmoved past) (harmless : x.harmless) : Unmoved (x :: past) :=
  List.forall_mem_cons.2 ⟨harmless, h⟩

theorem Supplied.cons (h : Supplied past) (supplied : x.vain = false) : Supplied (x :: past) :=
  List.forall_mem_cons.2 ⟨supplied, h⟩

/-- How an attempt ends, by whether it succeeds. -/
def Ending (succeeded failed : List Exchange → Prop) :
    List Exchange → Option (Except DispatchError α) → Prop
  | _, none => True
  | past, some (.ok _) => succeeded past
  | past, some (.error _) => failed past

/-! ## Attempts -/

namespace Attempt

/-- An attempt that changes nothing. -/
def Gentle (a : Attempt α) : Prop :=
  ∀ past, Unmoved past → Supplied past →
    Meets (fun _ _ => True) (Ending (fun past => Unmoved past ∧ Supplied past) Unmoved) past a.run

/-- An attempt that has changed nothing if it fails, and fails if it asks in vain. -/
def Careful (a : Attempt α) : Prop :=
  ∀ past, Unmoved past → Supplied past → Meets (fun _ _ => True) (Ending Supplied Clean) past a.run

theorem Gentle.careful {a : Attempt α} (h : Gentle a) : Careful a := fun past unmoved supplied =>
  (h past unmoved supplied).mono (fun _ _ h => h) fun _ o ended => by
    rcases o with _ | _ | v
    · trivial
    · exact .inl ended
    · exact ended.2

theorem gentle_pure (v : α) : Gentle (pure v) := fun _ unmoved supplied => ⟨unmoved, supplied⟩

theorem gentle_throw (e : DispatchError) : Gentle (throw e : Attempt α) := fun _ unmoved _ => unmoved

theorem gentle_orElse (missing : DispatchError) (v : Option α) : Gentle (orElse missing v) := by
  cases v with
  | none => exact gentle_throw missing
  | some v => exact gentle_pure v

theorem Gentle.bind {a : Attempt α} {f : α → Attempt β} (first : Gentle a)
    (second : ∀ v, Gentle (f v)) : Gentle (a >>= f) := by
  intro past unmoved supplied
  refine Meets.bind (first past unmoved supplied) (fun _ _ => trivial) fun past r ended => ?_
  cases r with
  | ok v => exact second v past ended.1 ended.2
  | error e => exact ended

/-- What is done behind an attempt that changes nothing. -/
theorem Gentle.then {a : Attempt α} {f : α → Attempt β} (first : Gentle a)
    (second : ∀ v, Careful (f v)) : Careful (a >>= f) := by
  intro past unmoved supplied
  refine Meets.bind (first past unmoved supplied) (fun _ _ => trivial) fun past r ended => ?_
  cases r with
  | ok v => exact second v past ended.1 ended.2
  | error e => exact .inl ended

theorem gentle_perform {e : Effect} (harmless : ∀ r, Exchange.harmless ⟨e, r⟩)
    (sure : ∀ r, Exchange.vain ⟨e, r⟩ = false) : Gentle (perform e) := fun _ unmoved supplied =>
  ⟨trivial, fun r _ => ⟨unmoved.cons (harmless r), supplied.cons (sure r)⟩⟩

theorem gentle_read {op : StoreOp} (reads : op.reads) : Gentle (store op) := by
  refine fun past unmoved supplied => ⟨trivial, fun r _ => ?_⟩
  cases r with
  | ok a => exact ⟨unmoved.cons reads, supplied.cons rfl⟩
  | error e => exact unmoved.cons rfl

theorem gentle_directions (a b : GeoPoint) : Gentle (directions a b) := by
  refine fun past unmoved supplied => ⟨trivial, fun r _ => ?_⟩
  cases r with
  | ok way => exact ⟨unmoved.cons rfl, supplied.cons rfl⟩
  | error e => exact unmoved.cons rfl

theorem gentle_place (id : String) : Gentle (place id) := by
  refine fun past unmoved supplied => ⟨trivial, fun r _ => ?_⟩
  cases r with
  | ok p => exact ⟨unmoved.cons rfl, supplied.cons rfl⟩
  | error e => exact unmoved.cons rfl

theorem gentle_suggestions (input : String) : Gentle (suggestions input) := by
  refine fun past unmoved supplied => ⟨trivial, fun r _ => ?_⟩
  cases r with
  | ok ss => exact ⟨unmoved.cons rfl, supplied.cons rfl⟩
  | error e => exact unmoved.cons rfl

/-- A single operation either is refused or is the last thing that can fail. -/
theorem careful_store (op : StoreOp) : Careful (store op) := by
  refine fun past unmoved supplied => ⟨trivial, fun r _ => ?_⟩
  cases r with
  | ok a => exact supplied.cons rfl
  | error e => exact .inl (unmoved.cons rfl)

end Attempt

open Attempt

/-! ## Quotes -/

namespace Quote

variable (c : RouteConfig) (pricer : Pricer)

theorem gentle_resolve (input : PlaceInput) : Gentle (resolve input) := by
  unfold resolve
  split
  · exact gentle_place _
  · exact gentle_pure _

theorem gentle_directionsBetween (a b : GeoPoint) : Gentle (directionsBetween c a b) := by
  have fetches (key : String) : Gentle (fetch c key a b) := by
    refine (gentle_directions a b).bind fun way => ?_
    exact (gentle_perform (fun _ => rfl) fun _ => rfl).bind fun _ => gentle_pure way
  have counts (l : Lookup) : Gentle (Attempt.perform (.countLookup l)) :=
    gentle_perform (fun _ => rfl) fun _ => rfl
  unfold directionsBetween
  split
  · exact (counts _).bind fun _ => (gentle_directions a b).bind fun _ => gentle_pure _
  · refine (gentle_perform (fun _ => rfl) fun _ => rfl).bind fun kept => ?_
    split
    · exact (counts _).bind fun _ => gentle_pure _
    · exact (counts _).bind fun _ => (fetches _).bind fun _ => gentle_pure _
    · exact (counts _).bind fun _ => (fetches _).bind fun _ => gentle_pure _

theorem gentle_make (pickup dropoff : PlaceInput) : Gentle (make c pricer pickup dropoff) := by
  refine (gentle_resolve pickup).bind fun start => (gentle_resolve dropoff).bind fun finish => ?_
  refine (gentle_directionsBetween c _ _).bind fun way => ?_
  exact Gentle.bind ((gentle_read rfl).bind fun _ => gentle_pure _) fun _ => gentle_pure _

end Quote

/-! ## Calls -/

theorem Trip.Telling.supplied {t : Trip} {status : TripStatus} {e : Effect}
    (tells : Trip.Telling t status e) (r : e.Reply) : Exchange.vain ⟨e, r⟩ = false := by
  cases tells <;> rfl

/-- A report, and what is done with it. A refused one has changed nothing. -/
theorem Trip.meets_reported {β : Type} {settleDelay : Nat} {trip : Uuid} {status : TripStatus}
    {fin : List Exchange → Option β → Prop} {f : Except DispatchError Trip → Job β}
    (supplied : Supplied past)
    (accepted : ∀ t past', Supplied past' → (∃ x ∈ past', x.written? = some (trip, status, t)) →
      Meets (fun _ _ => True) fin past' (f (.ok t)))
    (refused : ∀ err, Meets (fun _ _ => True) fin
      (⟨.store (.setTripStatus trip status), .error err⟩ :: past) (f (.error err))) :
    Meets (fun _ _ => True) fin past ((Trip.reportStatus settleDelay trip status).run >>= f) := by
  refine Trip.meets_report
    (fun t past' => Supplied past' ∧ ∃ x ∈ past', x.written? = some (trip, status, t)) trivial
    (fun t => ⟨supplied.cons rfl, _, List.mem_cons_self, rfl⟩) (fun t past' e kept tells => ?_)
    (fun t past' kept => accepted t past' kept.1 kept.2) refused
  obtain ⟨supplied, x, member, written⟩ := kept
  exact ⟨trivial, fun r => ⟨supplied.cons (tells.supplied r), x, List.mem_cons_of_mem _ member, written⟩⟩

namespace Dispatch

variable (c : Config)

theorem careful_createTrip (requester : Uuid) (pickup dropoff : PlaceInput) :
    Careful (createTrip c requester pickup dropoff) := by
  refine (Quote.gentle_make c.routing c.pricer pickup dropoff).then fun q => ?_
  refine Gentle.then (gentle_perform (fun _ => rfl) fun _ => rfl) fun id => ?_
  refine fun past unmoved supplied => ⟨trivial, fun r _ => ?_⟩
  cases r with
  | error e => exact .inl (unmoved.cons rfl)
  | ok trip => exact ⟨trivial, fun _ _ => (supplied.cons rfl).cons rfl⟩

theorem careful_reportTripStatus (trip : Uuid) (status : TripStatus) :
    Careful (reportTripStatus c trip status) := by
  refine fun past unmoved supplied => Trip.meets_reported supplied (fun t past' supplied written => ?_)
    fun err => .inl (unmoved.cons rfl)
  change Meets _ _ past' (if status.final ∧ t.courierId.isSome then
    Search.unassign trip >>= fun _ => pure t else pure t : Attempt Trip).run
  split
  · refine ⟨trivial, fun r _ => ?_⟩
    cases r with
    | ok => exact supplied.cons rfl
    | error err => exact .inr (.release written)
  · exact supplied

theorem careful_assignCourier (trip courier : Uuid) : Careful (assignCourier c trip courier) := by
  refine fun past unmoved supplied => ⟨trivial, fun r _ => ?_⟩
  cases r with
  | error e => exact .inl (unmoved.cons rfl)
  | ok =>
    refine ⟨trivial, fun _ _ => ?_⟩
    change Meets _ _ _ (reportStatus c trip .courierAssigned).run
    rw [← bind_done (reportStatus c trip .courierAssigned).run]
    exact Trip.meets_reported ((supplied.cons rfl).cons rfl) (fun t past' supplied _ => supplied)
      fun err => .inr .report

theorem gentle_nearbyCouriers (point : GeoPoint) (radius : Option Float) :
    Gentle (nearbyCouriers c point radius) := by
  simp only [nearbyCouriers]
  split
  · exact gentle_read rfl
  · exact gentle_throw _

theorem gentle_tripDetails (trip : Uuid) : Gentle (tripDetails trip) :=
  (gentle_read rfl).bind fun t => gentle_orElse _ t

theorem gentle_autocomplete (input : String) : Gentle (autocomplete input) := by
  unfold autocomplete
  split
  · exact gentle_pure _
  · exact gentle_suggestions _

theorem gentle_computeRoute (pickup dropoff : PlaceInput) : Gentle (computeRoute c pickup dropoff) :=
  (Quote.gentle_make c.routing c.pricer pickup dropoff).bind fun _ => gentle_pure _

end Dispatch

/-! ## Requests -/

theorem DispatchError.le_status (e : DispatchError) : 400 ≤ e.status := by
  cases e <;> simp [status]

namespace Http

variable (c : Config)

/-- A job that has changed nothing if it answers with an error, and does so if it asks in vain. -/
def Careful (j : Job Response) : Prop :=
  ∀ past, Unmoved past → Supplied past → Meets (fun _ _ => True)
    (fun past o => ∀ resp, o = some resp → (400 ≤ resp.status → Clean past) ∧
      (resp.status < 400 → Supplied past)) past j

variable {c}

theorem careful_pure (resp : Response) : Careful (pure resp) := by
  rintro past unmoved supplied _ ⟨⟩
  exact ⟨fun _ => .inl unmoved, fun _ => supplied⟩

theorem careful_answer {encode : α → Json.Value} {a : Attempt α} (h : a.Careful) :
    Careful (answer encode a) := by
  refine fun past unmoved supplied => Meets.bind (h past unmoved supplied) (fun _ _ => nofun) ?_
  intro past r ended
  cases r with
  | ok v =>
    rintro _ ⟨⟩
    exact ⟨fun wrong => absurd wrong (by simp [Response.json]), fun _ => ended⟩
  | error e =>
    rintro _ ⟨⟩
    exact ⟨fun _ => ended, fun right => absurd right (Nat.not_lt.2 e.le_status)⟩

theorem careful_reading {part : Except Response α} {next : α → Job Response}
    (h : ∀ a, Careful (next a)) : Careful (reading part next) := by
  cases part with
  | ok a => exact h a
  | error r => exact careful_pure r

theorem careful_createCourier (n : NewCourier) : (createCourier n).Careful := by
  refine (gentle_read rfl).then fun product => ?_
  cases product with
  | none => exact (gentle_throw _).careful
  | some _ =>
    refine Gentle.then (gentle_perform (fun _ => rfl) fun _ => rfl) fun id => ?_
    exact Gentle.then (gentle_perform (fun _ => rfl) fun _ => rfl) fun now => careful_store _

theorem careful_createProduct (n : NewProduct) : (createProduct n).Careful := by
  unfold createProduct
  split
  · exact (gentle_throw _).careful
  · exact Gentle.then (gentle_perform (fun _ => rfl) fun _ => rfl) fun id => careful_store _

theorem careful_reportStatus (id : Uuid) (status : TripStatus) : (reportStatus c id status).Careful := by
  unfold reportStatus
  split
  · exact (gentle_throw _).careful
  · exact Dispatch.careful_reportTripStatus c id status

/-- A report on the service itself never fails. -/
theorem careful_report {e : Effect} {next : e.Reply → Response} (sure : ∀ r, Exchange.vain ⟨e, r⟩ = false)
    (right : ∀ r, (next r).status < 400) : Careful (Job.act e fun r => pure (next r)) := by
  refine fun past unmoved supplied => ⟨trivial, fun r _ => ?_⟩
  rintro _ ⟨⟩
  exact ⟨fun wrong => absurd (right r) (Nat.not_lt.2 wrong), fun _ => supplied.cons (sure r)⟩

theorem careful_serve (r : Request) (e : Endpoint) (m : Method) : Careful (serve c r e m) := by
  unfold serve
  split
  · exact careful_reading fun _ => careful_answer (Dispatch.careful_createTrip c _ _ _)
  · exact careful_reading fun _ => careful_answer (Dispatch.gentle_tripDetails _).careful
  · exact careful_reading fun _ => careful_answer (careful_reportStatus _ _)
  · exact careful_reading fun _ => careful_answer (careful_store _)
  · exact careful_reading fun _ => careful_answer (Dispatch.careful_assignCourier c _ _)
  · exact careful_reading fun _ => careful_answer (Dispatch.gentle_computeRoute c _ _).careful
  · exact careful_reading fun _ => careful_answer (careful_createCourier _)
  · exact careful_reading fun _ => careful_answer (Dispatch.gentle_nearbyCouriers c _ _).careful
  · refine careful_reading fun id => careful_answer (Gentle.careful ?_)
    exact (gentle_read rfl).bind fun found => gentle_orElse _ found
  · exact careful_reading fun _ => careful_answer (careful_store _)
  · exact careful_reading fun _ => careful_answer (careful_store _)
  · exact careful_reading fun _ => careful_answer (careful_createProduct _)
  · exact careful_answer (careful_store _)
  · exact careful_reading fun _ => careful_answer (Dispatch.gentle_autocomplete _).careful
  · exact careful_pure _
  · exact careful_pure _
  · exact careful_report (fun _ => rfl) fun _ => by simp [Response.json]
  · exact careful_report (fun _ => rfl) fun _ => by simp

theorem careful_handle (r : Request) : Careful (handle c r) := by
  unfold handle
  split
  · exact careful_pure _
  · split
    · exact careful_pure _
    · unfold handleAt
      split
      · exact careful_pure _
      · split
        · exact careful_pure _
        · split
          · split
            · intro past unmoved supplied
              refine Meets.map ((careful_serve r _ _ past unmoved supplied).mono (fun _ _ h => h) ?_)
              rintro past (_ | resp) ended _ ⟨⟩
              exact ended resp rfl
            · exact careful_serve r _ _
          · exact careful_pure _

end Http

/-- An answer that says that a call has failed. -/
def Answer.fails : Answer → Bool
  | .refused _ => true
  | .response r => 400 ≤ r.status
  | _ => false

namespace Call

variable (c : Config)

/-- How a call ends: one that has failed has changed nothing, and one that has asked in vain has
failed. -/
def Ends (past : List Exchange) : Option Answer → Prop
  | none => True
  | some a => (a.fails → Clean past) ∧ (a.fails = false → Supplied past)

theorem meets_answerOf {wrap : α → Answer} {a : Attempt α} (h : a.Careful)
    (answers : ∀ v, (wrap v).fails = false) : Meets (fun _ _ => True) Ends [] (answerOf wrap a) := by
  refine Meets.bind (h [] (by simp [Unmoved]) (by simp [Supplied])) (fun _ _ => trivial) ?_
  intro past r ended
  cases r with
  | ok v => exact ⟨fun wrong => absurd wrong (by simp [answers]), fun _ => ended⟩
  | error e => exact ⟨fun _ => ended, nofun⟩

theorem meets_ends {call : Call} (dispatches : call.dispatches) :
    Meets (fun _ _ => True) Ends [] (call.job c) := by
  cases call with
  | createTrip => exact meets_answerOf (Dispatch.careful_createTrip c _ _ _) fun _ => rfl
  | computeRoute => exact meets_answerOf (Dispatch.gentle_computeRoute c _ _).careful fun _ => rfl
  | reportTripStatus => exact meets_answerOf (Dispatch.careful_reportTripStatus c _ _) fun _ => rfl
  | assignCourier => exact meets_answerOf (Dispatch.careful_assignCourier c _ _) fun _ => rfl
  | confirmPickup => exact meets_answerOf (careful_store _) fun _ => rfl
  | nearbyCouriers => exact meets_answerOf (Dispatch.gentle_nearbyCouriers c _ _).careful fun _ => rfl
  | tripDetails => exact meets_answerOf (Dispatch.gentle_tripDetails _).careful fun _ => rfl
  | autocomplete => exact meets_answerOf (Dispatch.gentle_autocomplete _).careful fun _ => rfl
  | request r =>
    refine Meets.map ((Http.careful_handle r [] (by simp [Unmoved]) (by simp [Supplied])).mono
      (fun _ _ h => h) ?_)
    rintro past (_ | resp) ended
    · trivial
    · simpa [Ends, Answer.fails] using ended resp rfl
  | _ => cases dispatches

end Call

end CourierDispatch
