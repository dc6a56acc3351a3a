import CourierDispatch.Proofs.Store.History

/-!
# Who is bound to whom

A courier is bound to a trip if and only if the trip is vacant and the courier free; both records
change, or the store stays as it is and the first obstacle is named (`Refuses`). Everything is looked up
before anything is written, so there is no binding by halves.

From its binding on a trip is not vacant, whatever happens to it, and a courier is not free until
somebody lets it go. So of all attempts to bind them at most one each succeeds (`binds_exactly`).
-/

namespace CourierDispatch

/-- A trip that takes a courier. -/
structure Trip.Vacant (t : Trip) : Prop where
  unbound : t.courierId = none
  incomplete : t.status ≠ .complete
  uncancelled : t.status ≠ .cancelled
  wanted : t.status ≠ .courierNotFound

theorem Trip.vacant_iff {t : Trip} :
    t.Vacant ↔ ¬ (t.courierId.isSome ∨ t.status.terminal) := by
  have open_ : ¬ t.status.terminal ↔
      t.status ≠ .complete ∧ t.status ≠ .cancelled ∧ t.status ≠ .courierNotFound := by
    cases t.status <;> decide
  rw [not_or, open_, Bool.not_eq_true, Option.isSome_eq_false_iff, Option.isNone_iff_eq_none]
  exact ⟨fun h => ⟨h.unbound, h.incomplete, h.uncancelled, h.wanted⟩,
    fun ⟨unbound, incomplete, uncancelled, wanted⟩ => ⟨unbound, incomplete, uncancelled, wanted⟩⟩

/-- An operation that lets no courier go and does not record this one anew. -/
def StoreOp.Holds (courier : Uuid) (op : StoreOp) : Prop :=
  (∀ trip, op ≠ .unassignTrip trip) ∧ ∀ c, c.id = courier → op ≠ .upsertCourier c

namespace Store

variable {s s' : Store} {now : Timestamp} {op : StoreOp} {trip courier id : Uuid} {t : Trip}
  {c : Courier} {err : DispatchError}

/-! ## One attempt -/

/-- A trip that takes a courier, and a courier that is free for it. -/
def Allows (s : Store) (trip courier : Uuid) : Prop :=
  ∃ t c, s.trip? trip = some t ∧ t.Vacant ∧ s.courier? courier = some c ∧ c.tripId = none

/-- Why a courier is not bound to a trip. What stands first counts. -/
inductive Refuses (s : Store) (trip courier : Uuid) : DispatchError → Prop
  | noTrip (missing : s.trip? trip = none) : Refuses s trip courier (.tripNotFound trip)
  | notVacant {t : Trip} (found : s.trip? trip = some t) (taken : ¬ t.Vacant) :
      Refuses s trip courier (.tripNotAssignable trip)
  | noCourier {t : Trip} (found : s.trip? trip = some t) (vacant : t.Vacant)
      (missing : s.courier? courier = none) : Refuses s trip courier (.courierNotFound courier)
  | notFree {t : Trip} {c : Courier} (found : s.trip? trip = some t) (vacant : t.Vacant)
      (known : s.courier? courier = some c) (busy : c.tripId ≠ none) :
      Refuses s trip courier (.courierAlreadyAssigned courier)

/-- What a binding does: trip and courier name each other, and everything else is as before. -/
structure Links (s : Store) (now : Timestamp) (trip courier : Uuid) (s' : Store) : Prop where
  bound : ∃ t, s.trip? trip = some t ∧
    s'.trip? trip = some { t with courierId := some courier, updatedAt := now }
  taken : ∃ c, s.courier? courier = some c ∧
    s'.courier? courier = some { c with tripId := some trip, updatedAt := now }
  trips : ∀ id, id ≠ trip → s'.trip? id = s.trip? id
  couriers : ∀ id, id ≠ courier → s'.courier? id = s.courier? id
  products : s'.products = s.products

theorem links_of_assignCourier (h : s.assignCourier now trip courier = .ok ((), s')) :
    s.Links now trip courier s' := by
  obtain ⟨t, c, found, -, -, known, -, rfl⟩ := assignCourier_ok h
  exact {
    bound := ⟨t, found, (Table.get?_insert ..).trans (if_pos rfl)⟩
    taken := ⟨c, known, (Table.get?_insert ..).trans (if_pos rfl)⟩
    trips := fun id other => (Table.get?_insert ..).trans (if_neg other)
    couriers := fun id other => (Table.get?_insert ..).trans (if_neg other)
    products := rfl }

/-- An attempt, by what is found. -/
theorem assignCourier_cases (s : Store) (now : Timestamp) (trip courier : Uuid) :
    (s.Allows trip courier ∧ ∃ s', s.assignCourier now trip courier = .ok ((), s')) ∨
      ∃ err, s.Refuses trip courier err ∧ s.assignCourier now trip courier = .error err := by
  unfold assignCourier
  cases found : s.trip? trip with
  | none => exact .inr ⟨_, .noTrip found, rfl⟩
  | some t =>
    by_cases taken : t.courierId.isSome ∨ t.status.terminal
    · exact .inr ⟨_, .notVacant found fun vacant => Trip.vacant_iff.1 vacant taken, by simp [taken]⟩
    have vacant := Trip.vacant_iff.2 taken
    cases known : s.courier? courier with
    | none => exact .inr ⟨_, .noCourier found vacant known, by simp [taken]⟩
    | some c =>
      cases free : c.tripId with
      | none => exact .inl ⟨⟨t, c, found, vacant, known, free⟩, _, by simp [taken, free]; rfl⟩
      | some other => exact .inr ⟨_, .notFree found vacant known (by simp [free]), by simp [taken, free]⟩

theorem Refuses.not_allows (refuses : s.Refuses trip courier err) : ¬ s.Allows trip courier := by
  rintro ⟨t, c, found, vacant, known, free⟩
  cases refuses with
  | noTrip missing => cases found.symm.trans missing
  | notVacant found' taken => cases found.symm.trans found'; exact taken vacant
  | noCourier _ _ missing => cases known.symm.trans missing
  | notFree _ _ known' busy => cases known.symm.trans known'; exact busy free

/-- There is one reason at most. -/
theorem Refuses.unique {err' : DispatchError} (refuses : s.Refuses trip courier err)
    (refuses' : s.Refuses trip courier err') : err = err' := by
  cases refuses <;> cases refuses' <;> first | rfl | simp_all

theorem assignCourier_ok_iff :
    (∃ s', s.assignCourier now trip courier = .ok ((), s')) ↔ s.Allows trip courier := by
  obtain ⟨allows, accepted⟩ | ⟨err, refuses, refused⟩ := assignCourier_cases s now trip courier
  · exact iff_of_true accepted allows
  · exact iff_of_false (by rintro ⟨s', accepted⟩; cases refused.symm.trans accepted) refuses.not_allows

theorem assignCourier_error_iff :
    s.assignCourier now trip courier = .error err ↔ s.Refuses trip courier err := by
  obtain ⟨allows, s', accepted⟩ | ⟨err', refuses, refused⟩ := assignCourier_cases s now trip courier
  · exact iff_of_false (by rw [accepted]; nofun) fun refuses => refuses.not_allows allows
  · rw [refused]
    constructor
    · rintro ⟨⟩
      exact refuses
    · exact fun refuses' => congrArg _ (refuses.unique refuses')

theorem after_of_refused (refused : s.assignCourier now trip courier = .error err) :
    s.after now (.assignCourier trip courier) = s := by
  simp only [after, perform, refused]

/-! ## Many attempts -/

/-- Which courier an operation binds to which trip. -/
def grant? (s : Store) (now : Timestamp) : StoreOp → Option (Uuid × Uuid)
  | .assignCourier trip courier => match s.assignCourier now trip courier with
    | .ok _ => some (trip, courier)
    | .error _ => none
  | _ => none

/-- The bindings among some operations, one after the other. -/
def granted : Store → List (Timestamp × StoreOp) → List (Uuid × Uuid)
  | _, [] => []
  | s, (now, op) :: rest => (s.grant? now op).toList ++ granted (s.after now op) rest

theorem grant?_eq_some {p : Uuid × Uuid} (h : s.grant? now op = some p) :
    ∃ trip courier, p = (trip, courier) ∧
      s.assignCourier now trip courier = .ok ((), s.after now op) := by
  cases op with
  | assignCourier trip courier =>
    simp only [grant?] at h
    split at h
    · next accepted =>
      cases h
      exact ⟨trip, courier, rfl, by simp only [after, perform, accepted]⟩
    · cases h
  | _ => cases h

/-- What a binding of somebody brings about, bars the way to another one, and lasts. -/
structure Bars (side : Uuid × Uuid → Uuid) (id : Uuid) (mild : StoreOp → Prop) (barred : Store → Prop) :
    Prop where
  bars : ∀ {s s' now trip courier}, s.assignCourier now trip courier = .ok ((), s') →
    side (trip, courier) = id → ¬ barred s ∧ barred s'
  lasts : ∀ {s now op}, mild op → barred s → barred (s.after now op)

section

variable {side : Uuid × Uuid → Uuid} {mild : StoreOp → Prop} {barred : Store → Prop}
  {ops : List (Timestamp × StoreOp)}

theorem Bars.not_granted (bars : Bars side id mild barred) (all : ∀ x ∈ ops, mild x.2) (shut : barred s) :
    id ∉ (s.granted ops).map side := by
  induction ops generalizing s with
  | nil => simp [granted]
  | cons x rest ih =>
    have still : barred (s.after x.1 x.2) := bars.lasts (all x List.mem_cons_self) shut
    have later := ih (fun y member => all y (List.mem_cons_of_mem x member)) still
    rw [granted, List.map_append, List.mem_append, not_or]
    refine ⟨fun now_ => ?_, later⟩
    obtain ⟨p, given, side_⟩ := List.mem_map.1 now_
    obtain ⟨trip, courier, rfl, accepted⟩ := grant?_eq_some (Option.mem_toList.1 given)
    exact (bars.bars accepted side_).1 shut

theorem Bars.once (bars : Bars side id mild barred) (all : ∀ x ∈ ops, mild x.2) :
    ((s.granted ops).map side).count id ≤ 1 := by
  induction ops generalizing s with
  | nil => simp [granted]
  | cons x rest ih =>
    have behind (y) (member : y ∈ rest) : mild y.2 := all y (List.mem_cons_of_mem x member)
    rw [granted, List.map_append, List.count_append]
    cases given : s.grant? x.1 x.2 with
    | none => simpa using ih behind
    | some p =>
      obtain ⟨trip, courier, rfl, accepted⟩ := grant?_eq_some given
      by_cases own : side (trip, courier) = id
      · have none_ := bars.not_granted behind (bars.bars accepted own).2
        simp [own, List.count_eq_zero.2 none_]
      · simpa [own] using ih behind

end

theorem bars_trip (id : Uuid) :
    Bars Prod.fst id (fun op => ∀ request, op ≠ .createTrip id request)
      fun s => ∃ t c, s.trip? id = some t ∧ t.courierId = some c where
  bars := by
    rintro s s' now trip courier accepted rfl
    obtain ⟨t', found', bound'⟩ := (linked_of_assignCourier accepted).1
    refine ⟨?_, t', courier, found', bound'⟩
    rintro ⟨t, c, found, bound⟩
    obtain ⟨t₁, -, found₁, unbound, -⟩ := assignCourier_ok accepted
    cases found.symm.trans found₁
    cases bound.symm.trans unbound
  lasts := by
    rintro s now op apart ⟨t, c, found, bound⟩
    have step := trip_step_after s now op id
    rw [found] at step
    obtain ⟨t', found', onward⟩ := step.onward apart
    exact ⟨t', c, found', onward.courier c bound⟩

/-- Of all attempts to bind a trip one succeeds at most. -/
theorem trip_granted_once {ops : List (Timestamp × StoreOp)} (undrawn : Undrawn id ops) :
    ((s.granted ops).map Prod.fst).count id ≤ 1 := (bars_trip id).once undrawn

theorem courier_step_after (s : Store) (now : Timestamp) (op : StoreOp) (id : Uuid) :
    CourierStep op now s id (s.courier? id) ((s.after now op).courier? id) := by
  unfold after
  split
  · next done => exact courier_step done id
  · exact .same _

theorem CourierStep.still_bound {new : Option Courier} (step : CourierStep op now s id (some c) new)
    (held : op.Holds id) (bound : c.tripId = some trip) :
    ∃ c', new = some c' ∧ c'.tripId = some trip := by
  cases step with
  | same | located | moved => exact ⟨_, rfl, bound⟩
  | recorded asked named => exact absurd asked (held.2 _ named)
  | bound _ free => cases bound.symm.trans free
  | freed asked => exact absurd asked (held.1 _)

theorem bars_courier (id : Uuid) :
    Bars Prod.snd id (StoreOp.Holds id)
      fun s => ∃ c t, s.courier? id = some c ∧ c.tripId = some t where
  bars := by
    rintro s s' now trip courier accepted rfl
    obtain ⟨c', known', bound'⟩ := (linked_of_assignCourier accepted).2
    refine ⟨?_, c', trip, known', bound'⟩
    rintro ⟨c, t, known, bound⟩
    obtain ⟨-, c₁, -, -, -, known₁, free, -⟩ := assignCourier_ok accepted
    cases known.symm.trans known₁
    cases bound.symm.trans free
  lasts := by
    rintro s now op still ⟨c, t, known, bound⟩
    have step := courier_step_after s now op id
    rw [known] at step
    obtain ⟨c', known', bound'⟩ := step.still_bound still bound
    exact ⟨c', t, known', bound'⟩

/-- Of all attempts to bind a courier one succeeds at most, as long as nobody lets it go. -/
theorem courier_granted_once {ops : List (Timestamp × StoreOp)} (held : ∀ x ∈ ops, x.2.Holds id) :
    ((s.granted ops).map Prod.snd).count id ≤ 1 := (bars_courier id).once held

/-- A courier is bound to a trip if and only if the trip takes one and the courier is free. Then trip and
courier name each other and nothing else has changed; otherwise the store is as it was, and the refusal
names what was found first. Over any operations a trip is bound once at most, as long as none is made
under its id, and a courier once at most, as long as nobody lets it go. -/
theorem binds_exactly (s : Store) (now : Timestamp) (trip courier : Uuid)
    (ops : List (Timestamp × StoreOp)) :
    ((∃ s', s.assignCourier now trip courier = .ok ((), s')) ↔ s.Allows trip courier) ∧
    (∀ s', s.assignCourier now trip courier = .ok ((), s') → s.Links now trip courier s') ∧
    (∀ err, s.assignCourier now trip courier = .error err ↔ s.Refuses trip courier err) ∧
    (¬ s.Allows trip courier → s.after now (.assignCourier trip courier) = s) ∧
    (∀ id, Undrawn id ops → ((s.granted ops).map Prod.fst).count id ≤ 1) ∧
    ∀ id, (∀ x ∈ ops, x.2.Holds id) → ((s.granted ops).map Prod.snd).count id ≤ 1 := by
  refine ⟨assignCourier_ok_iff, fun s' => links_of_assignCourier, fun err => assignCourier_error_iff,
    fun obstacle => ?_, fun id => trip_granted_once, fun id => courier_granted_once⟩
  obtain ⟨allows, -⟩ | ⟨err, -, refused⟩ := assignCourier_cases s now trip courier
  · exact absurd allows obstacle
  · exact after_of_refused refused

/-! ## Two trips and two couriers -/

namespace Rivals

/-- Two trips, with the ids 1 and 2, and two couriers, with the ids 3 and 4. -/
def store : Store :=
  empty.afterAll <|
    [⟨1⟩, ⟨2⟩].map (fun id => (⟨0, 0⟩, .createTrip id ⟨.nil, ⟨1.0, 2.0⟩, ⟨1.0, 3.0⟩, none⟩)) ++
    [⟨3⟩, ⟨4⟩].map fun id => (⟨0, 0⟩, .upsertCourier ⟨id, .nil, none, .online, .nil, none, ⟨0, 0⟩⟩)

/-- Everybody is tried for everything, and one trip ends meanwhile. -/
def attempts : List (Timestamp × StoreOp) :=
  [(⟨1, 0⟩, .assignCourier ⟨5⟩ ⟨3⟩), (⟨2, 0⟩, .assignCourier ⟨1⟩ ⟨3⟩), (⟨3, 0⟩, .assignCourier ⟨1⟩ ⟨4⟩),
    (⟨4, 0⟩, .setTripStatus ⟨1⟩ .complete), (⟨5, 0⟩, .assignCourier ⟨1⟩ ⟨4⟩),
    (⟨6, 0⟩, .assignCourier ⟨2⟩ ⟨3⟩), (⟨7, 0⟩, .assignCourier ⟨2⟩ ⟨5⟩), (⟨8, 0⟩, .assignCourier ⟨2⟩ ⟨4⟩),
    (⟨9, 0⟩, .assignCourier ⟨2⟩ ⟨4⟩)]

end Rivals

open Rivals in
theorem binds_exactly_rivals :
    store.granted attempts = [(⟨1⟩, ⟨3⟩), (⟨2⟩, ⟨4⟩)] ∧
    Undrawn ⟨1⟩ attempts ∧ ((store.granted attempts).map Prod.fst).count ⟨1⟩ ≤ 1 ∧
    (∀ x ∈ attempts, x.2.Holds ⟨3⟩) ∧ ((store.granted attempts).map Prod.snd).count ⟨3⟩ ≤ 1 ∧
    (store.afterAll (attempts.take 2)).Refuses ⟨2⟩ ⟨3⟩ (.courierAlreadyAssigned ⟨3⟩) := by
  have undrawn : Undrawn ⟨1⟩ attempts := by simp [Undrawn, attempts]
  have held : ∀ x ∈ attempts, x.2.Holds ⟨3⟩ := by simp [attempts, StoreOp.Holds]
  have refused : (store.afterAll (attempts.take 2)).assignCourier ⟨3, 0⟩ ⟨2⟩ ⟨3⟩ =
      .error (.courierAlreadyAssigned ⟨3⟩) := by rfl
  obtain ⟨-, -, -, -, trips, couriers⟩ := binds_exactly store ⟨0, 0⟩ ⟨1⟩ ⟨3⟩ attempts
  obtain ⟨-, -, refusal, -⟩ := binds_exactly (store.afterAll (attempts.take 2)) ⟨3, 0⟩ ⟨2⟩ ⟨3⟩ []
  exact ⟨by decide +kernel, undrawn, trips _ undrawn, held, couriers _ held, (refusal _).1 refused⟩

end Store

end CourierDispatch
