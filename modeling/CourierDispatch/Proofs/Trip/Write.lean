import CourierDispatch.Proofs.Job.Path

/-!
# Writes in a trace

What a process has done to trips, read off its exchanges: the statuses it wrote (`written?`), the
couriers it bound (`bound?`), the report it made last (`lastReport`), and the couriers that it still
has to let go because it ended their trips (`Owes`).
-/

namespace CourierDispatch

namespace Exchange

/-- A status write that was accepted: the trip, the status, and the trip as it was written. -/
def written? : Exchange → Option (Uuid × TripStatus × Trip)
  | ⟨.store (.setTripStatus trip status), .ok t⟩ => some (trip, status, t)
  | _ => none

/-- A binding that was accepted: the trip and the courier. -/
def bound? : Exchange → Option (Uuid × Uuid)
  | ⟨.store (.assignCourier trip courier), .ok ()⟩ => some (trip, courier)
  | _ => none

/-- An exchange that shows its trip to be over: a final status was accepted, or the trip was closed
to another one. -/
def Closes (trip : Uuid) : Exchange → Prop
  | ⟨.store (.setTripStatus id status), .ok _⟩ => id = trip ∧ status.final
  | ⟨.store (.setTripStatus id _), .error (.tripClosed _ _)⟩ => id = trip
  | _ => False

/-- A final status was written to a trip with a courier. -/
def Charges (trip : Uuid) (x : Exchange) : Prop :=
  ∃ status t, x.written? = some (trip, status, t) ∧ status.final ∧ t.courierId.isSome

theorem written?_eq_some {x : Exchange} {trip : Uuid} {status : TripStatus} {t : Trip} :
    x.written? = some (trip, status, t) ↔ x = ⟨.store (.setTripStatus trip status), .ok t⟩ := by
  constructor
  · intro h
    unfold written? at h
    split at h <;> cases h
    rfl
  · rintro rfl
    rfl

theorem bound?_eq_some {x : Exchange} {trip courier : Uuid} :
    x.bound? = some (trip, courier) ↔ x = ⟨.store (.assignCourier trip courier), .ok ()⟩ := by
  constructor
  · intro h
    unfold bound? at h
    split at h <;> cases h
    rfl
  · rintro rfl
    rfl

theorem effect_of_written {x : Exchange} {trip : Uuid} {status : TripStatus} {t : Trip}
    (written : x.written? = some (trip, status, t)) :
    x.effect = .store (.setTripStatus trip status) := by
  rw [written?_eq_some.1 written]

theorem effect_of_bound {x : Exchange} {trip courier : Uuid}
    (bound : x.bound? = some (trip, courier)) :
    x.effect = .store (.assignCourier trip courier) := by
  rw [bound?_eq_some.1 bound]

theorem closes_of_written {x : Exchange} {trip : Uuid} {status : TripStatus} {t : Trip}
    (written : x.written? = some (trip, status, t)) (final : status.final) : x.Closes trip := by
  rw [written?_eq_some.1 written]
  exact ⟨rfl, final⟩

end Exchange

/-- The report that was made last, if it was accepted. -/
def lastReport : List Exchange → Option (Uuid × TripStatus × Trip)
  | [] => none
  | ⟨.store (.setTripStatus trip status), .ok t⟩ :: _ => some (trip, status, t)
  | ⟨.store (.setTripStatus ..), .error _⟩ :: _ => none
  | _ :: past => lastReport past

/-- A status is reported by an effect. -/
def Effect.reports : Effect → Bool
  | .store (.setTripStatus ..) => true
  | _ => false

theorem lastReport_cons {x : Exchange} {past : List Exchange} :
    lastReport (x :: past) = if x.effect.reports then x.written? else lastReport past := by
  obtain ⟨e, r⟩ := x
  cases e with
  | store op =>
    cases op with
    | setTripStatus trip status => cases r <;> rfl
    | _ => rfl
  | _ => rfl

theorem written?_of_unreported {e : Effect} (unreported : e.reports = false) (r : e.Reply) :
    Exchange.written? ⟨e, r⟩ = none := by
  cases e with
  | store op =>
    cases op with
    | setTripStatus => cases unreported
    | _ => rfl
  | _ => rfl

theorem mem_of_lastReport {past : List Exchange} {p : Uuid × TripStatus × Trip}
    (last : lastReport past = some p) : ∃ x ∈ past, x.written? = some p := by
  induction past with
  | nil => cases last
  | cons x past ih =>
    rw [lastReport_cons] at last
    split at last
    · exact ⟨x, by simp, last⟩
    · obtain ⟨y, member, written⟩ := ih last
      exact ⟨y, by simp [member], written⟩

/-- Behind a report, what was reported before does not matter. -/
theorem lastReport_append {newer older : List Exchange}
    (reported : ∃ x ∈ newer, x.effect.reports = true) :
    lastReport (newer ++ older) = lastReport newer := by
  induction newer with
  | nil => simp at reported
  | cons x newer ih =>
    rw [List.cons_append, lastReport_cons, lastReport_cons]
    split
    · rfl
    · next silent => exact ih (by simpa [silent] using reported)

/-- A process has ended a trip that had a courier, and has not let the courier go since. -/
def Owes (trip : Uuid) : List Exchange → Prop
  | [] => False
  | x :: past => x.Charges trip ∨ x.effect ≠ .store (.unassignTrip trip) ∧ Owes trip past

@[simp] theorem owes_nil (trip : Uuid) : ¬ Owes trip [] := id

theorem Exchange.not_charges {x : Exchange} (h : x.written? = none) (trip : Uuid) :
    ¬ x.Charges trip := by
  rintro ⟨status, t, written, -⟩
  rw [h] at written
  cases written

/-- A process owes less after an exchange that writes no status. -/
theorem owes_of_unwritten {trip : Uuid} {x : Exchange} {past : List Exchange}
    (unwritten : x.written? = none) (owes : Owes trip (x :: past)) : Owes trip past := by
  rcases owes with charges | ⟨-, owes⟩
  · exact absurd charges (x.not_charges unwritten trip)
  · exact owes

theorem not_owes_of_unwritten {trip : Uuid} {past : List Exchange}
    (unwritten : ∀ x ∈ past, x.written? = none) : ¬ Owes trip past := by
  induction past with
  | nil => exact owes_nil trip
  | cons x past ih =>
    intro owes
    exact ih (fun y member => unwritten y (by simp [member]))
      (owes_of_unwritten (unwritten x (by simp)) owes)

end CourierDispatch
