import CourierDispatch.Proofs.Conduct.Calls

/-!
# How the jobs of the service are put together

Every job that answers a call, and every search, is put together from single effects, from reports, and from
three jobs that make or bind records: the one that makes a trip, the one that binds a courier, and the one
that records a courier (`Assembled`). So what these keep, and sequencing keeps, holds of every process
(`Origin.assembled`); only the computation of a fare stands apart. For what the effects of a report keep one
by one, a report is one more job of single effects (`Composed`).
-/

namespace CourierDispatch

open Job

/-- An effect that neither makes a trip or a courier, nor binds or prices a trip. -/
def Effect.aloof : Effect → Bool
  | .store (.createTrip ..) | .store (.upsertCourier _) | .store (.assignCourier ..)
  | .store (.setTripCost ..) | .startFare .. => false
  | _ => true

theorem Effect.aloof_of_inquires {e : Effect} (inquires : e.inquires) : e.aloof := by
  cases e with
  | store op => cases op <;> first | rfl | cases inquires
  | _ => first | rfl | cases inquires

theorem Trip.Telling.aloof {t : Trip} {status : TripStatus} {e : Effect}
    (tells : Trip.Telling t status e) : e.aloof := by
  cases tells <;> rfl

/-- A job that is put together from parts of the service. -/
inductive Composed (c : Config) : {α : Type} → Job α → Prop
  | pure {α : Type} (a : α) : Composed c (Job.done a)
  | panic {α : Type} : Composed c (Job.panic : Job α)
  | bind {α β : Type} {j : Job α} {f : α → Job β} (first : Composed c j)
      (second : ∀ a, Composed c (f a)) : Composed c (j >>= f)
  | perform {e : Effect} (aloof : e.aloof) : Composed c (Job.perform e)
  | trip (requester : Uuid) (pickup dropoff : PlaceInput) :
      Composed c (Dispatch.createTrip c requester pickup dropoff).run
  | binding (trip courier : Uuid) : Composed c (Search.assign trip courier).run
  | courier (n : Http.NewCourier) : Composed c (Http.createCourier n).run

/-- An effect that is no part of a report, and neither makes a trip or a courier, nor binds or prices a
trip. -/
def Effect.ordinary : Effect → Bool
  | .store (.createTrip ..) | .store (.upsertCourier _) | .store (.assignCourier ..)
  | .store (.setTripCost ..) | .startFare .. | .store (.setTripStatus ..) | .countTransition _
  | .publish .. => false
  | _ => true

theorem Effect.aloof_of_ordinary {e : Effect} (ordinary : e.ordinary) : e.aloof := by
  cases e with
  | store op => cases op <;> first | rfl | cases ordinary
  | _ => first | rfl | cases ordinary

theorem Effect.ordinary_of_inquires {e : Effect} (inquires : e.inquires) : e.ordinary := by
  cases e with
  | store op => cases op <;> first | rfl | cases inquires
  | _ => first | rfl | cases inquires

/-- A job that is put together from parts of the service, with its reports as a whole. It breaks down
by itself only where the tick of a search is zero. -/
inductive Assembled (c : Config) : {α : Type} → Job α → Prop
  | pure {α : Type} (a : α) : Assembled c (Job.done a)
  | panic {α : Type} (tick : c.matchTick = 0) : Assembled c (Job.panic : Job α)
  | bind {α β : Type} {j : Job α} {f : α → Job β} (first : Assembled c j)
      (second : ∀ a, Assembled c (f a)) : Assembled c (j >>= f)
  | perform {e : Effect} (ordinary : e.ordinary) : Assembled c (Job.perform e)
  | report (settleDelay : Nat) (trip : Uuid) (status : TripStatus) :
      Assembled c (Trip.reportStatus settleDelay trip status).run
  | trip (requester : Uuid) (pickup dropoff : PlaceInput) :
      Assembled c (Dispatch.createTrip c requester pickup dropoff).run
  | binding (trip courier : Uuid) : Assembled c (Search.assign trip courier).run
  | courier (n : Http.NewCourier) : Assembled c (Http.createCourier n).run

namespace Assembled

variable {α β : Type} {c : Config}

theorem act {e : Effect} {next : e.Reply → Job α} (ordinary : e.ordinary)
    (then_ : ∀ r, Assembled c (next r)) : Assembled c (.act e next) :=
  Assembled.bind (.perform ordinary) then_

theorem map {j : Job α} {f : α → β} (h : Assembled c j) : Assembled c (f <$> j) :=
  h.bind fun a => .pure (f a)

theorem of_only {ends : α → Prop} {j : Job α} (only : j.Only (·.ordinary) ends) : Assembled c j := by
  induction j with
  | done a => exact .pure a
  | panic => exact only.elim
  | act e next ih => exact .act only.1 fun r => ih r (only.2 r)

theorem of_attempt {a : Attempt α} (only : Attempt.Only (·.ordinary) a) : Assembled c a.run :=
  .of_only only

theorem of_inquiry {a : Attempt α} (only : Attempt.Only (·.inquires) a) : Assembled c a.run :=
  .of_attempt (only.mono fun _ => Effect.ordinary_of_inquires)

theorem attempt {a : Attempt α} {f : α → Attempt β} (first : Assembled c a.run)
    (second : ∀ v, Assembled c (f v).run) : Assembled c (a >>= f).run := by
  refine Assembled.bind first fun r => ?_
  cases r with
  | ok v => exact second v
  | error e => exact .pure _

end Assembled

/-! ## Reports, effect by effect -/

theorem Composed.of_only {α : Type} {c : Config} {ends : α → Prop} {j : Job α}
    (only : j.Only (·.aloof) ends) : Composed c j := by
  induction j with
  | done a => exact .pure a
  | panic => exact .panic
  | act e next ih => exact Composed.bind (.perform only.1) fun r => ih r (only.2 r)

variable (c : Config)

theorem Trip.composed_reportStatus (settleDelay : Nat) (trip : Uuid) (status : TripStatus) :
    Composed c (reportStatus settleDelay trip status).run := by
  rw [run_reportStatus]
  refine Composed.bind (.perform (e := .store (.setTripStatus trip status)) rfl) fun r => ?_
  cases r with
  | error e => exact .pure _
  | ok t =>
    refine Composed.bind (.of_only ((only_tell settleDelay t status).mono fun _ => ?_))
      fun _ => .pure _
    exact Trip.Telling.aloof

theorem Assembled.composed {α : Type} {c : Config} {j : Job α} (h : Assembled c j) : Composed c j := by
  induction h with
  | pure a => exact .pure a
  | panic => exact .panic
  | bind _ _ first second => exact first.bind second
  | perform ordinary => exact .perform (Effect.aloof_of_ordinary ordinary)
  | report settleDelay trip status => exact Trip.composed_reportStatus c settleDelay trip status
  | trip requester pickup dropoff => exact .trip requester pickup dropoff
  | binding trip courier => exact .binding trip courier
  | courier n => exact .courier n

/-! ## Searches -/

namespace Search

variable (m : MatchingConfig) (settleDelay : Nat) (trip : Uuid)

theorem assembled_tripGone : Assembled c (tripGone trip) := by
  refine .act rfl fun r => ?_
  rcases r with _ | _ | t <;> exact .pure _

theorem assembled_unassign : Assembled c (unassign trip).run := .perform rfl

theorem assembled_confirm (courier : Uuid) : Assembled c (confirm settleDelay trip courier) := by
  refine (Assembled.report settleDelay trip .courierAssigned).bind fun r => ?_
  rcases r with e | t
  · cases e with
    | tripClosed => exact (assembled_unassign c trip).bind fun _ => .pure _
    | _ => exact .pure _
  · exact .pure _

theorem assembled_bindFound (courier : Uuid) :
    Assembled c (bindFound settleDelay trip courier) := by
  refine Assembled.bind (.binding trip courier) fun r => ?_
  cases r with
  | error e => exact (assembled_tripGone c trip).map
  | ok _ => exact assembled_confirm c settleDelay trip courier

theorem assembled_take (courier : Uuid) : Assembled c (take settleDelay trip courier) := by
  refine (Assembled.report settleDelay trip .courierFound).bind fun r => ?_
  cases r with
  | error e => exact (assembled_tripGone c trip).map
  | ok t =>
    refine (assembled_tripGone c trip).bind fun gone => ?_
    cases gone with
    | some outcome => exact .pure _
    | none => exact assembled_bindFound c settleDelay trip courier

theorem assembled_look (pickup : GeoPoint) : Assembled c (look m settleDelay trip pickup) := by
  refine (assembled_tripGone c trip).bind fun gone => ?_
  cases gone with
  | some outcome => exact .pure _
  | none =>
    refine .act rfl fun found => ?_
    rcases found with _ | _ | courier
    · exact .pure _
    · exact .pure _
    · exact (assembled_take c settleDelay trip courier.id).map

theorem assembled_giveUp : Assembled c (giveUp settleDelay trip) := by
  refine (assembled_tripGone c trip).bind fun gone => ?_
  cases gone with
  | some outcome => exact .pure _
  | none =>
    refine (Assembled.report settleDelay trip .courierNotFound).bind fun r => ?_
    rcases r with e | t
    · cases e <;> exact .pure _
    · exact .pure _

theorem assembled_rounds (pickup : GeoPoint) (deadline n due : Nat) :
    Assembled c (rounds m settleDelay trip pickup deadline n due) := by
  induction n generalizing due with
  | zero => exact .act rfl fun _ => assembled_giveUp c settleDelay trip
  | succ n ih =>
    refine .act rfl fun alarm => ?_
    cases alarm with
    | deadline => exact assembled_giveUp c settleDelay trip
    | tick now =>
      refine (assembled_look c m settleDelay trip pickup).bind fun found => ?_
      cases found with
      | some outcome => exact .pure _
      | none => exact ih _

theorem assembled_run (pickup : GeoPoint) :
    Assembled c (run c.matching settleDelay trip pickup) := by
  refine .act rfl fun start => ?_
  change Assembled c (if c.matchTick = 0 then .panic else rounds c.matching settleDelay trip pickup ..)
  split
  · next tick => exact .panic tick
  · exact assembled_rounds c c.matching settleDelay trip pickup _ _ _

end Search

/-! ## Calls -/

namespace Dispatch

theorem assembled_reportTripStatus (trip : Uuid) (status : TripStatus) :
    Assembled c (reportTripStatus c trip status).run := by
  refine .attempt (.report _ trip status) fun t => ?_
  change Assembled c (if status.final ∧ t.courierId.isSome then
    Search.unassign trip >>= fun _ => pure t else pure t : Attempt Trip).run
  split
  · exact .attempt (Search.assembled_unassign c trip) fun _ => .pure _
  · exact .pure _

theorem assembled_assignCourier (trip courier : Uuid) :
    Assembled c (assignCourier c trip courier).run :=
  .attempt (.binding trip courier) fun _ => .report _ trip .courierAssigned

theorem ordinary_nearbyCouriers (point : GeoPoint) (radius : Option Float) :
    Attempt.Only (·.ordinary) (nearbyCouriers c point radius) := by
  simp only [nearbyCouriers]
  split
  · exact Attempt.only_store rfl
  · exact Attempt.only_throw _

theorem ordinary_tripDetails (trip : Uuid) : Attempt.Only (·.ordinary) (tripDetails trip) :=
  Attempt.only_bind (Attempt.only_store rfl) fun t => Attempt.only_orElse _ t

theorem ordinary_autocomplete (input : String) : Attempt.Only (·.ordinary) (autocomplete input) := by
  unfold autocomplete
  split
  · exact Attempt.only_pure _
  · exact ⟨rfl, fun _ => trivial⟩

end Dispatch

namespace Http

theorem ordinary_createProduct (n : NewProduct) : Attempt.Only (·.ordinary) (createProduct n) := by
  unfold createProduct
  split
  · exact Attempt.only_throw _
  · exact Attempt.only_bind (Attempt.only_perform rfl) fun _ => Attempt.only_store rfl

theorem assembled_reportStatus (id : Uuid) (status : TripStatus) :
    Assembled c (reportStatus c id status).run := by
  unfold reportStatus
  split
  · exact .pure _
  · exact Dispatch.assembled_reportTripStatus c id status

variable {c} in
theorem assembled_answer {α : Type} {encode : α → Json.Value} {a : Attempt α}
    (h : Assembled c a.run) : Assembled c (answer encode a) := by
  refine h.bind fun r => ?_
  cases r <;> exact .pure _

variable {c} in
theorem assembled_reading {α : Type} {part : Except Response α} {next : α → Job Response}
    (h : ∀ a, Assembled c (next a)) : Assembled c (reading part next) := by
  cases part with
  | ok a => exact h a
  | error r => exact .pure r

theorem assembled_serve (r : Request) (e : Endpoint) (m : Method) : Assembled c (serve c r e m) := by
  unfold serve
  split
  · exact assembled_reading fun _ => assembled_answer (.trip _ _ _)
  · exact assembled_reading fun _ => assembled_answer (.of_attempt (Dispatch.ordinary_tripDetails _))
  · exact assembled_reading fun _ => assembled_answer (assembled_reportStatus c _ _)
  · exact assembled_reading fun _ => assembled_answer (.perform rfl)
  · exact assembled_reading fun _ => assembled_answer (Dispatch.assembled_assignCourier c _ _)
  · exact assembled_reading fun _ => assembled_answer (.of_inquiry (Dispatch.inquires_computeRoute c ..))
  · exact assembled_reading fun _ => assembled_answer (.courier _)
  · exact assembled_reading fun _ => assembled_answer (.of_attempt (Dispatch.ordinary_nearbyCouriers c ..))
  · refine assembled_reading fun id => assembled_answer (.of_attempt ?_)
    exact Attempt.only_bind (Attempt.only_store rfl) fun found => Attempt.only_orElse _ found
  · exact assembled_reading fun _ => assembled_answer (.perform rfl)
  · exact assembled_reading fun _ => assembled_answer (.perform rfl)
  · exact assembled_reading fun _ => assembled_answer (.of_attempt (ordinary_createProduct _))
  · exact assembled_answer (.perform rfl)
  · exact assembled_reading fun _ => assembled_answer (.of_attempt (Dispatch.ordinary_autocomplete _))
  · exact .pure _
  · exact .pure _
  · exact .act rfl fun _ => .pure _
  · exact .act rfl fun _ => .pure _

theorem assembled_handle (r : Request) : Assembled c (handle c r) := by
  unfold handle
  split
  · exact .pure _
  · split
    · exact .pure _
    · unfold handleAt
      split
      · exact .pure _
      · split
        · exact .pure _
        · split
          · split
            · exact (assembled_serve c r _ _).map
            · exact assembled_serve c r _ _
          · exact .pure _

theorem assembled_openFeed (h : Handshake) : Assembled c (openFeed c h) := by
  simp only [openFeed]
  split
  · exact .pure _
  · split
    · exact (assembled_handle c _).bind fun _ => .pure _
    · split
      · exact .pure _
      · split
        · exact .pure _
        · exact .act rfl fun _ => .pure _

end Http

namespace Call

variable {c} in
theorem assembled_answerOf {α : Type} {wrap : α → Answer} {a : Attempt α}
    (h : Assembled c a.run) : Assembled c (answerOf wrap a) := by
  refine h.bind fun r => ?_
  cases r <;> exact .pure _

theorem assembled_job (call : Call) : Assembled c (call.job c) := by
  cases call with
  | createTrip => exact assembled_answerOf (.trip _ _ _)
  | computeRoute => exact assembled_answerOf (.of_inquiry (Dispatch.inquires_computeRoute c ..))
  | reportTripStatus => exact assembled_answerOf (Dispatch.assembled_reportTripStatus c _ _)
  | assignCourier => exact assembled_answerOf (Dispatch.assembled_assignCourier c _ _)
  | nearbyCouriers => exact assembled_answerOf (.of_attempt (Dispatch.ordinary_nearbyCouriers c ..))
  | tripDetails => exact assembled_answerOf (.of_attempt (Dispatch.ordinary_tripDetails _))
  | autocomplete => exact assembled_answerOf (.of_attempt (Dispatch.ordinary_autocomplete _))
  | resolve => exact assembled_answerOf (.of_inquiry (Quote.inquires_resolve _))
  | quote => exact assembled_answerOf (.of_inquiry (Quote.inquires_make c.routing c.pricer ..))
  | directions =>
    exact assembled_answerOf (.of_inquiry (Quote.inquires_directionsBetween c.routing ..))
  | pricedProducts =>
    exact assembled_answerOf (.of_inquiry (Quote.inquires_pricedProducts c.routing c.pricer ..))
  | priceTrip =>
    exact assembled_answerOf (.of_inquiry (Quote.inquires_priceTrip c.routing c.pricer ..))
  | confirmPickup | suggest | cacheGet | cacheSet =>
    exact assembled_answerOf (.of_attempt ⟨rfl, fun _ => trivial⟩)
  | startRun => exact .act rfl fun _ => .pure _
  | search => exact (Search.assembled_run c c.settleDelay _ _).map
  | bind => exact assembled_answerOf (.binding _ _)
  | sleep => exact .act rfl fun _ => .pure _
  | request r => exact (Http.assembled_handle c r).map
  | openFeed h => exact (Http.assembled_openFeed c h).map
  | reportStatus => exact assembled_answerOf (.report _ _ _)
  | release => exact assembled_answerOf (Search.assembled_unassign c _)

end Call

namespace World

/-- A process is put together from the parts of the service, or it computes a fare. -/
theorem Origin.assembled {c : Config} {calls : Call → Prop} {task : Task} {job : Job Result}
    (h : Origin calls c task job) :
    Assembled c job ∨ ∃ trip courier, task = .fare trip courier ∧ job = fareJob c trip courier := by
  cases h with
  | @call call _ => exact .inl (Call.assembled_job c call).map
  | fare trip courier => exact .inr ⟨trip, courier, rfl, rfl⟩
  | run trip pickup =>
    refine .inl (Assembled.map (Assembled.bind ?_ fun _ => .act rfl fun _ => .pure _))
    exact Search.assembled_run c c.settleDelay trip pickup

theorem Origin.composed {c : Config} {calls : Call → Prop} {task : Task} {job : Job Result}
    (h : Origin calls c task job) :
    Composed c job ∨ ∃ trip courier, task = .fare trip courier ∧ job = fareJob c trip courier :=
  h.assembled.imp_left Assembled.composed

end World

end CourierDispatch
