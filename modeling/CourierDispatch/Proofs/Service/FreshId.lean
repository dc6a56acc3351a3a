import CourierDispatch.Proofs.Service.Trace
import CourierDispatch.Proofs.Store.Change

/-!
# Fresh ids

A record is made under an id that was drawn just before, by the process that makes it
(`UsesDrawn`), and no two draws of a run give the same id (`IdsDistinct`). So an id that has been
drawn and not been used names no record, and no other process holds it (`FreshIds`).
-/

namespace CourierDispatch

/-- The id that a process has drawn and not yet used. -/
def heldId : List Exchange → Option Uuid
  | ⟨.drawId, id⟩ :: _ => some id
  | ⟨.stamp, _⟩ :: past => heldId past
  | _ => none

/-- New records get the id that was drawn last, and a new courier is free. -/
def UsesDrawn (past : List Exchange) : Effect → Prop
  | .store (.createTrip id _) => heldId past = some id
  | .store (.upsertCourier c) => heldId past = some c.id ∧ c.tripId = none
  | .store (.upsertProduct p) => heldId past = some p.id
  | _ => True

/-- What a process holds after an exchange that draws nothing, it held before. -/
theorem heldId_of_undrawn {x : Exchange} {past : List Exchange} {id : Uuid}
    (undrawn : x.drawn? = none) (held : heldId (x :: past) = some id) : heldId past = some id := by
  obtain ⟨e, r⟩ := x
  cases e with
  | drawId => cases undrawn
  | stamp => exact held
  | _ => cases held

theorem heldId_of_drawn {x : Exchange} {past : List Exchange} {id : Uuid}
    (drawn : x.drawn? = some id) : heldId (x :: past) = some id := by
  obtain ⟨e, r⟩ := x
  cases e with
  | drawId => exact drawn
  | _ => cases drawn

namespace World

variable {calls : Call → Prop} {w w' : World}

/-- All ids that were drawn so far are different. -/
def IdsDistinct (w : World) : Prop :=
  ∀ i j, i < w.drawn → j < w.drawn → w.around.freshId i = w.around.freshId j → i = j

instance : Decidable w.IdsDistinct :=
  decidable_of_iff (∀ i < w.drawn, ∀ j < w.drawn, w.around.freshId i = w.around.freshId j → i = j)
    ⟨fun h i j hi hj => h i hi j hj, fun h i hi j hj => h i j hi hj⟩

def Drawn (w : World) (id : Uuid) : Prop := ∃ k < w.drawn, id = w.around.freshId k

/-- Records have drawn ids, and an id that a process holds names no record yet. -/
structure FreshIds (w : World) : Prop where
  trips : ∀ id t, w.store.trip? id = some t → w.Drawn id
  couriers : ∀ id c, w.store.courier? id = some c → w.Drawn id
  held : ∀ pid id, heldId (w.trace pid) = some id → w.Drawn id
  unused : ∀ pid id, heldId (w.trace pid) = some id →
    w.store.trip? id = none ∧ w.store.courier? id = none
  apart : ∀ p q id, heldId (w.trace p) = some id → heldId (w.trace q) = some id → p = q

theorem FreshIds.silent (h : w.FreshIds) (same : Silent w w') : w'.FreshIds := by
  obtain ⟨-, around, store, history, drawn, -⟩ := same
  have ids : w'.Drawn = w.Drawn := by funext id; simp [Drawn, around, drawn]
  constructor
  all_goals simp only [ids, store, trace, history]
  · exact h.trips
  · exact h.couriers
  · exact h.held
  · exact h.unused
  · exact h.apart

theorem freshIds_new {config : Config} {around : Surroundings}
    (h : World.new? config around = some w) : w.FreshIds := by
  obtain ⟨bus, rfl⟩ := eq_of_new? h
  constructor <;> simp [Store.empty, Store.trip?, Store.courier?, trace, heldId]

variable {pid : Nat} {v : Verdict} {e : Effect} {r : e.Reply}

/-- What a process holds behind a step, it held before, or has just drawn. -/
theorem Noted.held (step : Noted calls w pid v e r w') {q : Nat} {id : Uuid}
    (held : heldId (w'.trace q) = some id) :
    heldId (w.trace q) = some id ∧ (q = pid → ∀ op, e ≠ .store op) ∨
      q = pid ∧ (⟨e, r⟩ : Exchange).drawn? = some id := by
  rw [trace_noted step] at held
  split at held
  · next same =>
    cases drawn : (⟨e, r⟩ : Exchange).drawn? with
    | none =>
      refine .inl ⟨heldId_of_undrawn drawn held, fun _ op store => ?_⟩
      subst store
      cases held
    | some id' =>
      rw [heldId_of_drawn drawn] at held
      exact .inr ⟨same.symm, held⟩
  · next other => exact .inl ⟨held, fun same => absurd same.symm other⟩

/-- What a step does to the trip with some id: nothing, or what an operation of the store does. -/
theorem Noted.trip_step (step : Noted calls w pid v e r w') (id : Uuid) :
    w'.store.trip? id = w.store.trip? id ∨
      ∃ op a, (⟨e, r⟩ : Exchange) = ⟨.store op, .ok a⟩ ∧
        w.store.perform w.stamp op = .ok (a, w'.store) ∧
        Store.TripStep op w.stamp id (w.store.trip? id) (w'.store.trip? id) := by
  obtain ⟨used, -, reply⟩ := step.replied
  rcases reply.store.changed with same | ⟨op, a, done, performed⟩
  · exact .inl (by rw [same])
  · exact .inr ⟨op, a, performed, done, Store.trip_step done id⟩

/-- A trip that is there stays. -/
theorem Noted.trip_stays (step : Noted calls w pid v e r w') {id : Uuid} {t : Trip}
    (found : w.store.trip? id = some t) : ∃ t', w'.store.trip? id = some t' := by
  rcases step.trip_step id with same | ⟨op, a, -, -, change⟩
  · exact ⟨t, same.trans found⟩
  · rw [found] at change
    exact change.stays

theorem Noted.courier_step (step : Noted calls w pid v e r w') (id : Uuid) :
    w'.store.courier? id = w.store.courier? id ∨
      ∃ op a, (⟨e, r⟩ : Exchange) = ⟨.store op, .ok a⟩ ∧
        w.store.perform w.stamp op = .ok (a, w'.store) ∧
        Store.CourierStep op w.stamp w.store id (w.store.courier? id) (w'.store.courier? id) := by
  obtain ⟨used, -, reply⟩ := step.replied
  rcases reply.store.changed with same | ⟨op, a, done, performed⟩
  · exact .inl (by rw [same])
  · exact .inr ⟨op, a, performed, done, Store.courier_step done id⟩

/-- An id that is drawn is a new one, and the store stays as it is. -/
theorem Noted.drawn_new (step : Noted calls w pid v e r w') (distinct : w'.IdsDistinct) {id : Uuid}
    (drawn : (⟨e, r⟩ : Exchange).drawn? = some id) :
    w'.Drawn id ∧ ¬ w.Drawn id ∧ w'.store = w.store := by
  obtain ⟨used, -, reply⟩ := step.replied
  have count := reply.drawn
  rw [drawn] at count
  obtain ⟨rfl, count⟩ := count
  refine ⟨⟨w.drawn, by omega, by rw [reply.around]⟩, fun ⟨k, earlier, same⟩ => ?_, ?_⟩
  · have := distinct w.drawn k (by omega) (by omega) (by rw [reply.around]; exact same)
    omega
  · rcases reply.store.changed with same | ⟨op, a, -, performed⟩
    · exact same
    · rw [performed] at drawn
      cases drawn

theorem Noted.drawn_mono (step : Noted calls w pid v e r w') {id : Uuid} (h : w.Drawn id) :
    w'.Drawn id := by
  obtain ⟨used, -, reply⟩ := step.replied
  obtain ⟨k, earlier, rfl⟩ := h
  refine ⟨k, ?_, by rw [reply.around]⟩
  have count := reply.drawn
  split at count <;> omega

/-- A trip that is there behind a step was there before, or was made under an id that was held. -/
theorem Noted.trip_origin (step : Noted calls w pid v e r w') (asks : UsesDrawn (w.trace pid) e)
    {id : Uuid} {t' : Trip} (there : w'.store.trip? id = some t') :
    (∃ t, w.store.trip? id = some t) ∨ heldId (w.trace pid) = some id ∧ ∃ op, e = .store op := by
  rcases step.trip_step id with same | ⟨op, a, performed, -, change⟩
  · exact .inl ⟨t', same ▸ there⟩
  · cases performed
    rw [there] at change
    rcases change.origin with old | ⟨request, rfl⟩
    · exact .inl old
    · exact .inr ⟨asks, _, rfl⟩

theorem Noted.courier_origin (step : Noted calls w pid v e r w') (asks : UsesDrawn (w.trace pid) e)
    {id : Uuid} {c' : Courier} (there : w'.store.courier? id = some c') :
    (∃ c, w.store.courier? id = some c) ∨ heldId (w.trace pid) = some id ∧ ∃ op, e = .store op := by
  rcases step.courier_step id with same | ⟨op, a, performed, -, change⟩
  · exact .inl ⟨c', same ▸ there⟩
  · cases performed
    rw [there] at change
    rcases change.origin with old | ⟨c, rfl, rfl⟩
    · exact .inl old
    · exact .inr ⟨asks.1, _, rfl⟩

theorem FreshIds.noted (h : w.FreshIds) (step : Noted calls w pid v e r w')
    (asks : UsesDrawn (w.trace pid) e) (distinct : w'.IdsDistinct) : w'.FreshIds := by
  have trip {id t'} (there : w'.store.trip? id = some t') := step.trip_origin asks there
  have courier {id c'} (there : w'.store.courier? id = some c') := step.courier_origin asks there
  refine ⟨fun id t' there => ?_, fun id c' there => ?_, fun q id held => ?_, fun q id held => ?_,
    fun p q id held held' => ?_⟩
  · rcases trip there with ⟨t, old⟩ | ⟨held, -⟩
    · exact step.drawn_mono (h.trips id t old)
    · exact step.drawn_mono (h.held pid id held)
  · rcases courier there with ⟨c, old⟩ | ⟨held, -⟩
    · exact step.drawn_mono (h.couriers id c old)
    · exact step.drawn_mono (h.held pid id held)
  · rcases step.held held with ⟨before, -⟩ | ⟨-, drawn⟩
    · exact step.drawn_mono (h.held q id before)
    · exact (step.drawn_new distinct drawn).1
  · rcases step.held held with ⟨before, apart⟩ | ⟨rfl, drawn⟩
    · refine ⟨Option.eq_none_iff_forall_ne_some.2 fun t' there => ?_,
        Option.eq_none_iff_forall_ne_some.2 fun c' there => ?_⟩
      · rcases trip there with ⟨t, old⟩ | ⟨held', op, store⟩
        · simp [(h.unused q id before).1] at old
        · exact apart (h.apart q pid id before held') op store
      · rcases courier there with ⟨c, old⟩ | ⟨held', op, store⟩
        · simp [(h.unused q id before).2] at old
        · exact apart (h.apart q pid id before held') op store
    · obtain ⟨-, new, same⟩ := step.drawn_new distinct drawn
      rw [same]
      exact ⟨Option.eq_none_iff_forall_ne_some.2 fun t there => new (h.trips id t there),
        Option.eq_none_iff_forall_ne_some.2 fun c there => new (h.couriers id c there)⟩
  · rcases step.held held with ⟨before, -⟩ | ⟨rfl, drawn⟩
    · rcases step.held held' with ⟨before', -⟩ | ⟨-, drawn⟩
      · exact h.apart p q id before before'
      · exact absurd (h.held p id before) (step.drawn_new distinct drawn).2.1
    · rcases step.held held' with ⟨before', -⟩ | ⟨rfl, -⟩
      · exact absurd (h.held q id before') (step.drawn_new distinct drawn).2.1
      · rfl

end World

end CourierDispatch
