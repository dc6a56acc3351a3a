import CourierDispatch.Proofs.Job.Path
import CourierDispatch.Trip.Report

/-!
# What a report does

A report is a status write and, if that is accepted, the telling of it (`run_reportStatus`): a count,
the announcement, and the pause. Telling a status asks only for what `Telling` lists; each message
that it publishes is a notice of the trip as it was written (`TripUpdate.Tells`).
-/

namespace CourierDispatch

/-- An update that is the notice of a trip. -/
structure TripUpdate.Tells (u : TripUpdate) (t : Trip) : Prop where
  trip : u.tripId = t.id
  status : u.status = t.status
  courier : u.courierId = if t.status = .courierAssigned then t.courierId else none
  location : u.courierLocation.isSome → t.status = .courierArriving ∨ t.status = .courierEnRoute

/-- The notice of a cancellation names nobody. -/
theorem TripUpdate.Tells.eq_of_cancelled {u : TripUpdate} {t : Trip} (tells : u.Tells t)
    (cancelled : t.status = .cancelled) : u = ⟨t.id, .cancelled, none, none⟩ := by
  obtain ⟨trip, status, courier, location⟩ := tells
  rw [cancelled] at status courier location
  have nowhere : u.courierLocation = none := by simpa using location
  cases u
  simp_all

namespace Trip

open Job

/-- Counts a status that was written, announces it, and pauses. -/
def tell (settleDelay : Nat) (t : Trip) (status : TripStatus) : Job Unit := do
  Job.perform (.countTransition status)
  announce t status
  Job.perform (.sleep settleDelay)

theorem run_reportStatus (settleDelay : Nat) (trip : Uuid) (status : TripStatus) :
    (reportStatus settleDelay trip status).run =
      .act (.store (.setTripStatus trip status)) fun
        | .ok t => tell settleDelay t status >>= fun _ => .done (.ok t)
        | .error e => .done (.error e) := by
  refine congrArg (Job.act _) (funext fun r => ?_)
  cases r with
  | error e => rfl
  | ok t =>
    refine congrArg (Job.act _) (funext fun _ => ?_)
    exact (bind_assoc (announce t status)
      (fun a => done (Except.ok a : Except DispatchError Unit)) _).trans
      (bind_assoc (announce t status) (fun _ => perform (.sleep settleDelay)) _).symm

/-- What the telling of a status asks for. -/
inductive Telling (t : Trip) (status : TripStatus) : Effect → Prop
  | count : Telling t status (.countTransition status)
  | locate (courier : Uuid) : Telling t status (.store (.getCourier courier))
  | publish {channel : Channel} {u : TripUpdate} (listed : channel ∈ status.channels)
      (unbound : status = .cancelled → t.courierId = none) (notice : u.Tells t) :
      Telling t status (.publish channel u)
  | pause (duration : Nat) : Telling t status (.sleep duration)

theorem only_courierLocation {kind : Effect → Prop} (t : Trip)
    (locate : ∀ courier, kind (.store (.getCourier courier))) :
    (courierLocation t).Only kind fun _ => True := by
  unfold courierLocation
  split
  · trivial
  · next id _ =>
    refine ⟨locate id, fun r => ?_⟩
    cases r with
    | error e => trivial
    | ok c => cases c <;> trivial

theorem only_notice {kind : Effect → Prop} (t : Trip)
    (locate : ∀ courier, kind (.store (.getCourier courier))) : (notice t).Only kind (·.Tells t) := by
  have located (h : t.status = .courierArriving ∨ t.status = .courierEnRoute) :
      (do return (⟨t.id, t.status, none, ← courierLocation t⟩ : TripUpdate) : Job TripUpdate).Only
        kind (·.Tells t) := by
    refine (only_courierLocation t locate).bind fun p _ => ⟨rfl, rfl, ?_, fun _ => h⟩
    rcases h with h | h <;> simp [h]
  unfold notice
  split
  · next h => exact ⟨rfl, rfl, by simp [h], by simp⟩
  · next h => exact located (.inl h)
  · next h => exact located (.inr h)
  · next unassigned _ _ => exact ⟨rfl, rfl, (if_neg unassigned).symm, by simp⟩

theorem only_publishOn {kind : Effect → Prop} {u : TripUpdate} {channels : List Channel}
    (publish : ∀ c ∈ channels, kind (.publish c u)) :
    (publishOn u channels).Only kind fun _ => True := by
  induction channels with
  | nil => trivial
  | cons c rest ih =>
    exact ⟨publish c (by simp), fun _ => ih fun c' member => publish c' (by simp [member])⟩

/-- An announcement asks where the courier is, and publishes notices. -/
theorem only_announce {kind : Effect → Prop} (t : Trip) (status : TripStatus)
    (locate : ∀ courier, kind (.store (.getCourier courier)))
    (publish : ∀ channel ∈ status.channels, ∀ u : TripUpdate, u.Tells t →
      (status = .cancelled → t.courierId = none) → kind (.publish channel u)) :
    (announce t status).Only kind fun _ => True := by
  unfold announce
  split
  · trivial
  · next bound =>
    split
    · trivial
    · refine (only_notice t locate).bind fun u tells =>
        only_publishOn fun channel listed => publish channel listed u tells fun cancelled => ?_
      simpa [cancelled] using bound

theorem only_tell (settleDelay : Nat) (t : Trip) (status : TripStatus) :
    (tell settleDelay t status).Only (Telling t status) fun _ => True := by
  have announced : (announce t status).Only (Telling t status) fun _ => True :=
    only_announce t status .locate fun _ listed _ notice unbound => .publish listed unbound notice
  exact ⟨.count, fun _ => announced.bind fun _ _ => ⟨.pause settleDelay, fun _ => trivial⟩⟩

/-- A report, and what comes after it. What the accepted write establishes, the telling keeps. -/
theorem meets_report {β : Type} {ask : List Exchange → Effect → Prop}
    {fin : List Exchange → Option β → Prop} {past : List Exchange} {settleDelay : Nat} {trip : Uuid}
    {status : TripStatus} {f : Except DispatchError Trip → Job β} (kept : Trip → List Exchange → Prop)
    (asked : ask past (.store (.setTripStatus trip status)))
    (start : ∀ t, kept t (⟨.store (.setTripStatus trip status), .ok t⟩ :: past))
    (tells : ∀ t past' e, kept t past' → Telling t status e →
      ask past' e ∧ ∀ r, kept t (⟨e, r⟩ :: past'))
    (accepted : ∀ t past', kept t past' → Meets ask fin past' (f (.ok t)))
    (refused : ∀ err, Meets ask fin
      (⟨.store (.setTripStatus trip status), .error err⟩ :: past) (f (.error err))) :
    Meets ask fin past ((reportStatus settleDelay trip status).run >>= f) := by
  rw [run_reportStatus]
  refine ⟨asked, fun r _ => ?_⟩
  cases r with
  | error err => exact refused err
  | ok t =>
    change Meets _ _ _ ((tell settleDelay t status >>= fun _ => .done (.ok t)) >>= f)
    rw [bind_assoc]
    refine ((only_tell settleDelay t status).meets (start t)
      (fun past' e kept asks => (tells t past' e kept asks).1)
      (fun past' e r kept asks => (tells t past' e kept asks).2 r)).bind (fun past' broken => ?_)
      fun past' _ ended => accepted t past' ended.1
    obtain ⟨-, _, none_, -⟩ := broken
    cases none_

end Trip

end CourierDispatch
