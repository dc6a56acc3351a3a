import CourierDispatch.Proofs.Conduct.Calls
import CourierDispatch.Proofs.Service.Rules

/-!
# The records of a run

What holds of the records in every run, whatever is called and whatever fails (`Recorded`): trips are
kept under their ids, replies to reports say what was written, and the store is what the operations
that were accepted make of an empty one (`Store.replay`). If no id is drawn twice (`Records`), a binding
that was accepted stays on its trip, and a courier is bound only to a trip that names it. A step takes
each trip forward (`Noted.forward`): it stays, keeps its courier, and keeps a final status.
-/

namespace CourierDispatch

/-- The operation of the store that was accepted. -/
def Exchange.accepted? : Exchange → Option StoreOp
  | ⟨.store op, .ok _⟩ => some op
  | _ => none

/-- The store behind a history: the operations that were accepted, performed one after the other. -/
def Store.replay (around : Surroundings) : List Event → Store
  | [] => .empty
  | x :: earlier => match x.exchange.accepted? with
    | some op => (replay around earlier).after (around.stampAt x.time) op
    | none => replay around earlier

/-- An answer changes the store by what was accepted. -/
theorem Store.Answers.after {s s' : Store} {now : Timestamp} {v : Verdict} {e : Effect} {r : e.Reply}
    (answers : s.Answers now v e r s') :
    s' = match Exchange.accepted? ⟨e, r⟩ with
      | some op => s.after now op
      | none => s := by
  cases answers with
  | performed done => simp [Exchange.accepted?, Store.after, done]
  | declined => rfl
  | dictated told =>
    cases v with
    | proceed => cases told
    | refuse err => cases e <;> cases told <;> rfl
    | absent =>
      cases e with
      | store op => cases op <;> cases told <;> rfl
      | _ => cases told
  | apart other =>
    cases e with
    | store op => exact absurd rfl (other op)
    | _ => rfl

/-- What may become of a trip. -/
structure Trip.Forward (t t' : Trip) : Prop where
  id : t'.id = t.id
  courier : ∀ c, t.courierId = some c → t'.courierId = some c
  final : t.status.final → t'.status = t.status
  closed : t.status.terminal → t'.courierId = t.courierId

theorem Trip.Forward.refl (t : Trip) : t.Forward t :=
  ⟨rfl, fun _ h => h, fun _ => rfl, fun _ => rfl⟩

namespace World

variable {calls : Call → Prop} {w w' : World} {pid : Nat} {v : Verdict} {e : Effect} {r : e.Reply}

/-- A trip that is there goes forward in a step. -/
theorem Noted.forward (step : Noted calls w pid v e r w') (fresh : w.FreshIds) {id : Uuid}
    {t : Trip} (found : w.store.trip? id = some t) :
    ∃ t', w'.store.trip? id = some t' ∧ t.Forward t' := by
  have asks := step.conduct.fresh
  rcases step.trip_step id with same | ⟨op, a, performed, -, change⟩
  · exact ⟨t, same ▸ found, .refl t⟩
  · cases performed
    rw [found] at change
    generalize behind : w'.store.trip? id = new at change
    cases change with
    | same => exact ⟨t, rfl, .refl t⟩
    | created asked =>
      subst asked
      rw [(fresh.unused pid id asks).1] at found
      cases found
    | moved asked allowed =>
      exact ⟨_, rfl, rfl, fun _ h => h, fun final => TripStatus.eq_of_allows allowed final,
        fun _ => rfl⟩
    | bound asked unbound open_ =>
      exact ⟨_, rfl, rfl, fun c h => by simp [unbound] at h, fun _ => rfl,
        fun closed => by simp [open_] at closed⟩
    | priced => exact ⟨_, rfl, rfl, fun _ h => h, fun _ => rfl, fun _ => rfl⟩
    | confirmed => exact ⟨_, rfl, rfl, fun _ h => h, fun _ => rfl, fun _ => rfl⟩

/-- An operation is performed whose answer is not that of finding nothing. -/
theorem Noted.told {op : StoreOp} {a : op.Answer} (step : Noted calls w pid v (.store op) (.ok a) w')
    (something : (Effect.store op).nothing ≠ some (.ok a)) :
    w.store.perform w.stamp op = .ok (a, w'.store) := by
  obtain ⟨used, -, reply⟩ := step.replied
  exact reply.store.told something

/-- A status that was accepted was written. -/
theorem Noted.written (step : Noted calls w pid v e r w') {trip : Uuid} {status : TripStatus}
    {t : Trip} (written : Exchange.written? ⟨e, r⟩ = some (trip, status, t)) :
    w.store.setTripStatus w.stamp trip status = .ok (t, w'.store) := by
  cases Exchange.written?_eq_some.1 written
  exact step.told nofun

/-- A binding that was accepted was made. -/
theorem Noted.bound (step : Noted calls w pid v e r w') {trip courier : Uuid}
    (bound : Exchange.bound? ⟨e, r⟩ = some (trip, courier)) :
    w.store.assignCourier w.stamp trip courier = .ok ((), w'.store) := by
  cases Exchange.bound?_eq_some.1 bound
  exact step.told nofun

/-- What an operation that goes through is replied. -/
theorem Noted.performed_of {op : StoreOp} {r : (Effect.store op).Reply}
    (step : Noted calls w pid v (.store op) r w')
    (proceeds : w.Asks pid (.store op) → v = .proceed) :
    (∃ a, r = .ok a ∧ w.store.perform w.stamp op = .ok (a, w'.store)) ∨
      ∃ err, r = .error err ∧ w.store.perform w.stamp op = .error err ∧ w'.store = w.store := by
  obtain ⟨used, verdict, reply⟩ := step.replied
  have goes : used = .proceed := by
    rcases verdict with ⟨rfl, asks⟩ | rfl
    · exact proceeds asks
    · rfl
  subst goes
  exact reply.store.performed_of_proceed

theorem Noted.performed {op : StoreOp} {r : (Effect.store op).Reply}
    (step : Noted calls w pid v (.store op) r w') (holds : w.StoreHolds (.step pid v)) :
    (∃ a, r = .ok a ∧ w.store.perform w.stamp op = .ok (a, w'.store)) ∨
      ∃ err, r = .error err ∧ w.store.perform w.stamp op = .error err ∧ w'.store = w.store :=
  step.performed_of (holds pid v op rfl)

/-- A trip that a step leaves under an id was there, or is the new one of that id. -/
theorem Noted.keyed (step : Noted calls w pid v e r w')
    (keyed : ∀ id t, w.store.trip? id = some t → t.id = id) {id : Uuid} {t' : Trip}
    (there : w'.store.trip? id = some t') : t'.id = id := by
  rcases step.trip_step id with same | ⟨op, a, -, -, change⟩
  · exact keyed id t' (same ▸ there)
  · exact change.named (keyed id) t' there

/-- Couriers that a step leaves are kept under their ids. -/
theorem Noted.couriers_keyed (step : Noted calls w pid v e r w')
    (keyed : ∀ id c, w.store.courier? id = some c → c.id = id) {id : Uuid} {c' : Courier}
    (known : w'.store.courier? id = some c') : c'.id = id := by
  rcases step.courier_step id with same | ⟨op, a, -, -, change⟩
  · exact keyed id c' (same ▸ known)
  · exact change.named (keyed id) c' known

/-! ## What holds even if an id is drawn twice -/

structure Recorded (w : World) : Prop where
  keyed : ∀ id t, w.store.trip? id = some t → t.id = id
  reported : ∀ x ∈ w.history, ∀ trip status t, x.exchange.written? = some (trip, status, t) →
    t.id = trip ∧ t.status = status
  stored : w.store = .replay w.around w.history

theorem recorded_new {config : Config} {around : Surroundings}
    (h : World.new? config around = some w) : w.Recorded := by
  obtain ⟨bus, rfl⟩ := eq_of_new? h
  constructor <;> simp [Store.replay, Store.empty, Store.trip?]

theorem Recorded.silent (h : w.Recorded) (same : Silent w w') : w'.Recorded := by
  obtain ⟨-, around, store, history, -, -⟩ := same
  refine ⟨?_, ?_, ?_⟩ <;> simp only [store, history, around]
  · exact h.keyed
  · exact h.reported
  · exact h.stored

/-- A report that is accepted is replied the trip as it was written. -/
theorem Noted.reported (step : Noted calls w pid v e r w') (h : w.Recorded) {trip : Uuid}
    {status : TripStatus} {t : Trip} (written : Exchange.written? ⟨e, r⟩ = some (trip, status, t)) :
    t.id = trip ∧ t.status = status := by
  obtain ⟨t₀, found, -, rfl, -⟩ := Store.setTripStatus_ok (step.written written)
  exact ⟨h.keyed trip t₀ found, rfl⟩

theorem Recorded.noted (h : w.Recorded) (step : Noted calls w pid v e r w') : w'.Recorded where
  keyed _ _ there := step.keyed h.keyed there
  reported x noted trip status t written := by
    rw [step.history] at noted
    rcases List.mem_cons.1 noted with rfl | old
    · exact step.reported h written
    · exact h.reported x old trip status t written
  stored := by
    obtain ⟨used, -, reply⟩ := step.replied
    rw [step.history, reply.around, reply.store.after, h.stored]
    rfl

theorem Reachable.recorded {rule : World → Move → Prop} (reach : w.Reachable rule) : w.Recorded :=
  reach.always (fun _ _ _ => enters_any) (fun _ _ _ => recorded_new)
    (fun _ _ _ _ same h => h.silent same) fun _ _ _ _ _ _ _ _ _ step h => h.noted step

/-! ## What holds if no id is drawn twice -/

structure Records (w : World) : Prop extends w.Recorded where
  fresh : w.FreshIds
  bound : ∀ x ∈ w.history, ∀ trip courier, x.exchange.bound? = some (trip, courier) →
    ∃ t, w.store.trip? trip = some t ∧ t.courierId = some courier
  linked : ∀ id c trip, w.store.courier? id = some c → c.tripId = some trip →
    ∃ t, w.store.trip? trip = some t ∧ t.courierId = some id

theorem records_new {config : Config} {around : Surroundings}
    (h : World.new? config around = some w) : w.Records := by
  have recorded := recorded_new h
  have fresh := freshIds_new h
  obtain ⟨bus, rfl⟩ := eq_of_new? h
  exact ⟨recorded, fresh, by simp, by simp [Store.empty, Store.courier?]⟩

theorem Records.silent (h : w.Records) (same : Silent w w') : w'.Records := by
  have recorded := h.toRecorded.silent same
  have fresh := h.fresh.silent same
  obtain ⟨-, -, store, history, -, -⟩ := same
  refine ⟨recorded, fresh, ?_, ?_⟩ <;> simp only [store, history]
  · exact h.bound
  · exact h.linked

/-- A courier that a step leaves bound was bound to a trip that names it, or has just been bound. -/
theorem Noted.linked (step : Noted calls w pid v e r w') (h : w.Records) {id trip : Uuid}
    {c' : Courier} (there : w'.store.courier? id = some c') (bound : c'.tripId = some trip) :
    ∃ t', w'.store.trip? trip = some t' ∧ t'.courierId = some id := by
  have asks := step.conduct.fresh
  -- A courier that was bound before is named by its trip, and goes on to be.
  have kept {c : Courier} (found : w.store.courier? id = some c) (bound : c.tripId = some trip) :
      ∃ t', w'.store.trip? trip = some t' ∧ t'.courierId = some id := by
    obtain ⟨t, found, named⟩ := h.linked id c trip found bound
    obtain ⟨t', found', forward⟩ := step.forward h.fresh found
    exact ⟨t', found', forward.courier id named⟩
  rcases step.courier_step id with same | ⟨op, a, performed, done, change⟩
  · exact kept (same ▸ there) bound
  · cases performed
    rw [there] at change
    generalize before : w.store.courier? id = old at change
    generalize behind : some c' = new at change
    cases change with
    | same => exact kept (before.trans behind.symm) bound
    | recorded asked =>
      cases behind
      subst asked
      rw [asks.2] at bound
      cases bound
    | located | moved => cases behind; exact kept before bound
    | bound asked =>
      cases behind
      cases bound
      subst asked
      exact (Store.linked_of_assignCourier done).1
    | freed => cases behind; cases bound

theorem Records.noted (h : w.Records) (step : Noted calls w pid v e r w')
    (distinct : w'.IdsDistinct) : w'.Records where
  toRecorded := h.toRecorded.noted step
  fresh := h.fresh.noted step step.conduct.fresh distinct
  bound x noted trip courier bound := by
    rw [step.history] at noted
    rcases List.mem_cons.1 noted with rfl | old
    · exact (Store.linked_of_assignCourier (step.bound bound)).1
    · obtain ⟨t, found, named⟩ := h.bound x old trip courier bound
      obtain ⟨t', found', forward⟩ := step.forward h.fresh found
      exact ⟨t', found', forward.courier courier named⟩
  linked _ _ _ there bound := step.linked h there bound

theorem Reachable.records {rule : World → Move → Prop} (reach : w.Reachable rule)
    (distinct : w.IdsDistinct) : w.Records :=
  reach.keeps distinct (fun _ _ _ => enters_any)
    (fun _ _ _ => records_new) (fun _ _ _ _ same h => h.silent same)
    fun _ _ _ _ _ _ _ _ _ step distinct h => h.noted step distinct

end World

end CourierDispatch
