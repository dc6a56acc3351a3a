import CourierDispatch.Proofs.Store.Change

/-!
# The history of a trip

Whatever operations a store is given, a trip that is in it goes one way (`trip_history`): it stays,
with what it was made from; it gets a courier at most once, while its status is open to one; and a
final status is the last thing that happens to it. One operation takes a trip forward
(`TripStep.onward`), and to go forward is transitive, so a whole history takes it forward as well.

The two notions of an end differ. A trip whose search has found nobody takes no courier, but a later
report can still move it, and then it can be bound. So being closed to couriers is a fact about one
operation (`TripStep.open_of_rebound`), while being final is one about the whole history.

A trip is made under an id that was drawn for it. That no later trip is made under the same id is
assumed of the ids, not of the store.
-/

namespace CourierDispatch

/-- What may become of a trip over time. -/
structure Trip.Onward (t t' : Trip) : Prop where
  id : t'.id = t.id
  requester : t'.requesterId = t.requesterId
  start : t'.start = t.start
  finish : t'.finish = t.finish
  route : t'.route = t.route
  created : t'.createdAt = t.createdAt
  courier : ∀ c, t.courierId = some c → t'.courierId = some c
  final : t.status.final → t'.status = t.status ∧ t'.courierId = t.courierId

theorem Trip.Onward.refl (t : Trip) : t.Onward t :=
  ⟨rfl, rfl, rfl, rfl, rfl, rfl, fun _ h => h, fun _ => ⟨rfl, rfl⟩⟩

theorem Trip.Onward.trans {t₁ t₂ t₃ : Trip} (h : t₁.Onward t₂) (h' : t₂.Onward t₃) :
    t₁.Onward t₃ where
  id := h'.id.trans h.id
  requester := h'.requester.trans h.requester
  start := h'.start.trans h.start
  finish := h'.finish.trans h.finish
  route := h'.route.trans h.route
  created := h'.created.trans h.created
  courier c bound := h'.courier c (h.courier c bound)
  final ended := by
    obtain ⟨status, courier⟩ := h.final ended
    obtain ⟨status', courier'⟩ := h'.final (status ▸ ended)
    exact ⟨status'.trans status, courier'.trans courier⟩

/-- The trip that an operation is addressed to. -/
def StoreOp.trip? : StoreOp → Option Uuid
  | .createTrip id _ | .getTrip id | .setTripStatus id _ | .setTripCost id _
  | .setConfirmedPickup id _ | .assignCourier id _ | .unassignTrip id => some id
  | _ => none

namespace Store

variable {s : Store} {now : Timestamp} {op : StoreOp} {id : Uuid} {t : Trip}

/-! ## One operation -/

theorem TripStep.onward {new : Option Trip} (step : TripStep op now id (some t) new)
    (apart : ∀ request, op ≠ .createTrip id request) : ∃ t', new = some t' ∧ t.Onward t' := by
  cases step with
  | same => exact ⟨t, rfl, .refl t⟩
  | created asked => exact absurd asked (apart _)
  | moved asked allowed =>
    exact ⟨_, rfl, rfl, rfl, rfl, rfl, rfl, rfl, fun _ h => h,
      fun final => ⟨TripStatus.eq_of_allows allowed final, rfl⟩⟩
  | bound asked unbound open_ =>
    refine ⟨_, rfl, rfl, rfl, rfl, rfl, rfl, rfl, fun c h => ?_, fun final => ?_⟩
    · rw [unbound] at h
      cases h
    · rw [TripStatus.terminal_of_final final] at open_
      cases open_
  | priced | confirmed => exact ⟨_, rfl, rfl, rfl, rfl, rfl, rfl, rfl, fun _ h => h, fun _ => ⟨rfl, rfl⟩⟩

/-- A trip gets another courier only by being bound, when it had none and was open to one. -/
theorem TripStep.open_of_rebound {t' : Trip} (step : TripStep op now id (some t) (some t'))
    (apart : ∀ request, op ≠ .createTrip id request) (rebound : t.courierId ≠ t'.courierId) :
    t.courierId = none ∧ t.status.terminal = false ∧
      ∃ c, t'.courierId = some c ∧ op = .assignCourier id c := by
  cases step with
  | created asked => exact absurd asked (apart _)
  | bound asked unbound open_ => exact ⟨unbound, open_, _, rfl, asked⟩
  | same | moved | priced | confirmed => exact absurd rfl rebound

theorem TripStep.same_of_apart {old new : Option Trip} (step : TripStep op now id old new)
    (other : op.trip? ≠ some id) : new = old := by
  cases step with
  | same => rfl
  | created asked | moved asked | bound asked | priced asked | confirmed asked =>
    subst asked
    exact absurd rfl other

theorem trip_step_after (s : Store) (now : Timestamp) (op : StoreOp) (id : Uuid) :
    TripStep op now id (s.trip? id) ((s.after now op).trip? id) := by
  unfold after
  split
  · next done => exact trip_step done id
  · exact .same _

/-- An operation changes no trip but the one that it is addressed to. -/
theorem trip?_after_of_apart (s : Store) (now : Timestamp) (other : op.trip? ≠ some id) :
    (s.after now op).trip? id = s.trip? id :=
  (trip_step_after s now op id).same_of_apart other

/-! ## Many operations -/

/-- The store after some operations, each at its time. Those that are refused change nothing. -/
def afterAll (s : Store) (ops : List (Timestamp × StoreOp)) : Store :=
  ops.foldl (fun s x => s.after x.1 x.2) s

/-- Each time that the courier of a trip changes: the trip before the operation and behind it. -/
def rebindings (id : Uuid) : Store → List (Timestamp × StoreOp) → List (Trip × Trip)
  | _, [] => []
  | s, (now, op) :: rest =>
    match s.trip? id, (s.after now op).trip? id with
    | some t, some t' =>
      if t.courierId = t'.courierId then rebindings id (s.after now op) rest
      else (t, t') :: rebindings id (s.after now op) rest
    | _, _ => rebindings id (s.after now op) rest

/-- No trip is made under an id again. -/
def Undrawn (id : Uuid) (ops : List (Timestamp × StoreOp)) : Prop :=
  ∀ x ∈ ops, ∀ request, x.2 ≠ .createTrip id request

variable {ops : List (Timestamp × StoreOp)}

theorem Undrawn.tail {x : Timestamp × StoreOp} (h : Undrawn id (x :: ops)) : Undrawn id ops :=
  fun y later => h y (List.mem_cons_of_mem x later)

theorem onward_afterAll (undrawn : Undrawn id ops) (found : s.trip? id = some t) :
    ∃ t', (s.afterAll ops).trip? id = some t' ∧ t.Onward t' := by
  induction ops generalizing s t with
  | nil => exact ⟨t, found, .refl t⟩
  | cons x rest ih =>
    have step := trip_step_after s x.1 x.2 id
    rw [found] at step
    obtain ⟨t₁, found₁, onward⟩ := step.onward (undrawn x List.mem_cons_self)
    obtain ⟨t', found', onward'⟩ := ih undrawn.tail found₁
    exact ⟨t', found', onward.trans onward'⟩

/-- A trip that has a courier gets no other. -/
theorem rebindings_of_bound {c : Uuid} (undrawn : Undrawn id ops) (found : s.trip? id = some t)
    (bound : t.courierId = some c) : s.rebindings id ops = [] := by
  induction ops generalizing s t with
  | nil => rfl
  | cons x rest ih =>
    have step := trip_step_after s x.1 x.2 id
    rw [found] at step
    obtain ⟨t₁, found₁, onward⟩ := step.onward (undrawn x List.mem_cons_self)
    have bound₁ := onward.courier c bound
    simp only [rebindings, found, found₁, bound, bound₁, ↓reduceIte]
    exact ih undrawn.tail found₁ bound₁

/-- A trip gets at most one courier, from having none, while its status is open to one. -/
theorem rebindings_at_most_once (undrawn : Undrawn id ops) (found : s.trip? id = some t) :
    (s.rebindings id ops).length ≤ 1 ∧ ∀ p ∈ s.rebindings id ops,
      p.1.courierId = none ∧ p.1.status.terminal = false ∧ p.2.courierId.isSome := by
  induction ops generalizing s t with
  | nil => simp [rebindings]
  | cons x rest ih =>
    have step := trip_step_after s x.1 x.2 id
    rw [found] at step
    obtain ⟨t₁, found₁, -⟩ := step.onward (undrawn x List.mem_cons_self)
    rw [found₁] at step
    simp only [rebindings, found, found₁]
    split
    · exact ih undrawn.tail found₁
    · next rebound =>
      -- This is the one time: the trip has its courier from here on.
      obtain ⟨unbound, open_, c, bound, -⟩ :=
        step.open_of_rebound (undrawn x List.mem_cons_self) rebound
      rw [rebindings_of_bound undrawn.tail found₁ bound]
      simp [unbound, open_, bound]

/-- Over any operations a trip stays, with what it was made from; it gets a courier at most once, while
it is open to one; a final status is never replaced, and no courier is bound behind it. An operation
that is addressed to another trip, or to none, leaves it as it is. -/
theorem trip_history (s : Store) (ops : List (Timestamp × StoreOp)) (undrawn : Undrawn id ops)
    (found : s.trip? id = some t) :
    (∃ t', (s.afterAll ops).trip? id = some t' ∧ t.Onward t') ∧
    (s.rebindings id ops).length ≤ 1 ∧
    (∀ p ∈ s.rebindings id ops,
      p.1.courierId = none ∧ p.1.status.terminal = false ∧ p.2.courierId.isSome) ∧
    ∀ now op, op.trip? ≠ some id →
      ((s.afterAll ops).after now op).trip? id = (s.afterAll ops).trip? id :=
  ⟨onward_afterAll undrawn found, (rebindings_at_most_once undrawn found).1,
    (rebindings_at_most_once undrawn found).2, fun now _ => trip?_after_of_apart _ now⟩

/-! ## A trip that was cancelled while it was served -/

namespace Served

def trip : Uuid := ⟨1⟩

def couriers : List Courier :=
  [⟨⟨2⟩, .nil, none, .online, .nil, none, ⟨0, 0⟩⟩, ⟨⟨3⟩, .nil, none, .online, .nil, none, ⟨0, 0⟩⟩]

/-- One trip and two couriers. -/
def store : Store :=
  empty.afterAll <| (⟨0, 0⟩, .createTrip trip ⟨.nil, ⟨1.0, 2.0⟩, ⟨1.0, 3.0⟩, none⟩) ::
    couriers.map fun c => (⟨0, 0⟩, .upsertCourier c)

/-- The first courier is bound, the trip is cancelled and the courier let go; then somebody else is
bound, or the trip completed, in vain. -/
def orders : List (Timestamp × StoreOp) :=
  [(⟨1, 0⟩, .setTripStatus trip .courierNotFound), (⟨2, 0⟩, .assignCourier trip ⟨2⟩),
    (⟨3, 0⟩, .setTripStatus trip .courierFound), (⟨4, 0⟩, .assignCourier trip ⟨2⟩),
    (⟨5, 0⟩, .assignCourier trip ⟨3⟩), (⟨6, 0⟩, .setTripStatus trip .cancelled),
    (⟨7, 0⟩, .unassignTrip trip), (⟨8, 0⟩, .assignCourier trip ⟨3⟩),
    (⟨9, 0⟩, .setTripStatus trip .complete)]

end Served

open Served in
theorem trip_history_of_served : ∃ t, store.trip? trip = some t ∧ Undrawn trip orders ∧
    (store.rebindings trip orders).map (fun p => (p.1.status, p.1.courierId, p.2.courierId)) =
      [(.courierFound, none, some ⟨2⟩)] ∧
    ∃ t', (store.afterAll orders).trip? trip = some t' ∧ t.Onward t' ∧ t'.status = .cancelled := by
  have undrawn : Undrawn trip orders := by simp [Undrawn, orders]
  have ⟨there, once, ended⟩ : (store.trip? trip).isSome ∧
      (store.rebindings trip orders).map (fun p => (p.1.status, p.1.courierId, p.2.courierId)) =
        [(.courierFound, none, some ⟨2⟩)] ∧
      ((store.afterAll orders).trip? trip).any (·.status = .cancelled) := by
    decide +kernel
  obtain ⟨t, found⟩ := Option.isSome_iff_exists.1 there
  obtain ⟨t', found', onward⟩ := (trip_history store orders undrawn found).1
  rw [found'] at ended
  exact ⟨t, found, undrawn, once, t', found', onward, by simpa using ended⟩

end Store

end CourierDispatch
