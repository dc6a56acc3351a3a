import CourierDispatch.Proofs.Charging
import CourierDispatch.Proofs.Service.Keeping

/-!
# References

A record refers to another one by its id. No id names a record that is not there (`Store.Intact`),
because nothing is ever removed and a reference is written only to a record that was seen: a courier is
recorded for a product that its process was shown, and a binding names a trip and a courier that the
store has. The ids of the records are those under which a record was made, and none was made twice
(`Registered`).

So the computation of a fare finds whatever it asks the store for, and a trip that has a courier gets a
cost, unless its pickup was confirmed before and the provider refused the way from there, or the
computation broke down when the way was to be kept (`references_hold`). None breaks down as long as the
clock of the cache can express the expiry of an entry (`Expressible`).
-/

namespace CourierDispatch

/-- The id of the record that an operation makes. -/
def StoreOp.makes? : StoreOp → Option Uuid
  | .createTrip id _ => some id
  | .upsertCourier c => some c.id
  | .upsertProduct p => some p.id
  | _ => none

/-- The id of the record that was made. -/
def Exchange.makes? (x : Exchange) : Option Uuid := x.accepted?.bind StoreOp.makes?

theorem StoreOp.makes?_eq_some {op : StoreOp} {id : Uuid} : op.makes? = some id ↔
    (∃ request, op = .createTrip id request) ∨ (∃ c, op = .upsertCourier c ∧ c.id = id) ∨
      ∃ p, op = .upsertProduct p ∧ p.id = id := by
  cases op <;> simp [makes?]

theorem Exchange.makes?_eq_some {x : Exchange} {id : Uuid} (made : x.makes? = some id) :
    ∃ (op : StoreOp) (a : op.Answer), x = ⟨.store op, .ok a⟩ ∧ op.makes? = some id := by
  obtain ⟨op, accepted, makes⟩ := Option.bind_eq_some_iff.1 made
  obtain ⟨e, r⟩ := x
  cases e with
  | store _ =>
    cases r with
    | error err => cases accepted
    | ok a =>
      cases accepted
      exact ⟨op, a, rfl, makes⟩
  | _ => cases accepted

/-- Whoever makes a record holds its id. -/
theorem UsesDrawn.held {past : List Exchange} {op : StoreOp} {id : Uuid}
    (h : UsesDrawn past (.store op)) (makes : op.makes? = some id) : heldId past = some id := by
  rcases StoreOp.makes?_eq_some.1 makes with ⟨request, rfl⟩ | ⟨c, rfl, rfl⟩ | ⟨p, rfl, rfl⟩
  · exact h
  · exact h.1
  · exact h

/-! ## Stores -/

namespace Store

variable {s s' s₁ s₂ s₃ : Store} {now : Timestamp} {op : StoreOp} {a : op.Answer} {id : Uuid}

/-- Some record is kept under an id. -/
def Holds (s : Store) (id : Uuid) : Prop :=
  (∃ t, s.trip? id = some t) ∨ (∃ c, s.courier? id = some c) ∨ ∃ p, s.product? id = some p

/-- Records are kept under their own ids, and each reference names a record. -/
structure Intact (s : Store) : Prop where
  trips : ∀ id t, s.trip? id = some t → t.id = id
  couriers : ∀ id c, s.courier? id = some c → c.id = id
  products : ∀ id p, s.product? id = some p → p.id = id
  product : ∀ id c, s.courier? id = some c → ∃ p, s.product? c.productId = some p
  trip : ∀ id c trip, s.courier? id = some c → c.tripId = some trip → ∃ t, s.trip? trip = some t
  courier : ∀ id t courier, s.trip? id = some t → t.courierId = some courier →
    ∃ c, s.courier? courier = some c

/-- The records of a store are in another one, as they may have become in the meantime. -/
structure Persists (s s' : Store) : Prop where
  trips : ∀ id t, s.trip? id = some t → ∃ t', s'.trip? id = some t' ∧ t.Onward t'
  couriers : ∀ id c, s.courier? id = some c →
    ∃ c', s'.courier? id = some c' ∧ c'.productId = c.productId
  products : ∀ id p, s.product? id = some p → s'.product? id = some p

theorem Persists.refl (s : Store) : s.Persists s :=
  ⟨fun _ t found => ⟨t, found, .refl t⟩, fun _ c known => ⟨c, known, rfl⟩, fun _ _ there => there⟩

theorem Persists.trans (h : s₁.Persists s₂) (h' : s₂.Persists s₃) : s₁.Persists s₃ where
  trips id t found := by
    obtain ⟨t', found', onward⟩ := h.trips id t found
    obtain ⟨t'', found'', onward'⟩ := h'.trips id t' found'
    exact ⟨t'', found'', onward.trans onward'⟩
  couriers id c known := by
    obtain ⟨c', known', same⟩ := h.couriers id c known
    obtain ⟨c'', known'', same'⟩ := h'.couriers id c' known'
    exact ⟨c'', known'', same'.trans same⟩
  products id p there := h'.products id p (h.products id p there)

theorem holds_mono (done : s.perform now op = .ok (a, s')) (held : s.Holds id) : s'.Holds id := by
  rcases held with ⟨t, found⟩ | ⟨c, known⟩ | ⟨p, there⟩
  · have step := trip_step done id
    rw [found] at step
    exact .inl step.stays
  · have step := courier_step done id
    rw [known] at step
    exact .inr (.inl step.stays)
  · rcases product_step done id with same | ⟨p', -, -, there'⟩
    · exact .inr (.inr ⟨p, same.trans there⟩)
    · exact .inr (.inr ⟨p', there'⟩)

/-- What was made is there. -/
theorem holds_of_makes (done : s.perform now op = .ok (a, s')) (makes : op.makes? = some id) :
    s'.Holds id := by
  rcases StoreOp.makes?_eq_some.1 makes with ⟨request, rfl⟩ | ⟨c, rfl, rfl⟩ | ⟨p, rfl, rfl⟩
  · cases done
    exact .inl ⟨_, (Table.get?_insert ..).trans (if_pos rfl)⟩
  · cases done
    exact .inr (.inl ⟨_, (Table.get?_insert ..).trans (if_pos rfl)⟩)
  · cases done
    exact .inr (.inr ⟨_, (Table.get?_insert ..).trans (if_pos rfl)⟩)

/-- What is there was there before, or has just been made. -/
theorem Holds.origin (held : s'.Holds id) (done : s.perform now op = .ok (a, s')) :
    s.Holds id ∨ op.makes? = some id := by
  rw [StoreOp.makes?_eq_some]
  rcases held with ⟨t, found⟩ | ⟨c, known⟩ | ⟨p, there⟩
  · have step := trip_step done id
    rw [found] at step
    exact step.origin.imp .inl .inl
  · have step := courier_step done id
    rw [known] at step
    exact step.origin.imp (fun old => .inr (.inl old)) fun made => .inr (.inl made)
  · rcases product_step done id with same | ⟨p', made, own, -⟩
    · exact .inl (.inr (.inr ⟨p, same ▸ there⟩))
    · exact .inr (.inr (.inr ⟨p', made, own⟩))

/-- An accepted operation adds the record that it makes, and removes none. -/
theorem holds_iff (done : s.perform now op = .ok (a, s')) :
    s'.Holds id ↔ s.Holds id ∨ op.makes? = some id := by
  constructor
  · exact fun held => held.origin done
  · rintro (old | made)
    · exact holds_mono done old
    · exact holds_of_makes done made

end Store

/-- The computation of a fare has ended without a cost. -/
def Process.lost (p : Process) : Bool :=
  match p.progress with
  | .ended (.fare (.error _)) => true
  | _ => false

namespace World

variable {calls : Call → Prop} {w w' : World} {pid : Nat} {v : Verdict} {e : Effect} {r : e.Reply}
  {rule : World → Move → Prop}

/-! ## Records that were made -/

/-- The ids under which records were made, the latest first. -/
def made (w : World) : List Uuid := w.history.filterMap (·.exchange.makes?)

/-- The records are those that were made, each under an id of its own. -/
structure Registered (w : World) : Prop where
  holds : ∀ id, w.store.Holds id ↔ id ∈ w.made
  once : w.made.Nodup

theorem made_of_history {t : Nat} (history : w'.history = ⟨t, pid, e, r⟩ :: w.history) :
    w'.made = (Exchange.makes? ⟨e, r⟩).toList ++ w.made := by
  rw [made, history]
  cases told : Exchange.makes? ⟨e, r⟩ with
  | none => exact List.filterMap_cons_none told
  | some id => exact List.filterMap_cons_some told

theorem Noted.holds_iff (step : Noted calls w pid v e r w') {id : Uuid} :
    w'.store.Holds id ↔ w.store.Holds id ∨ Exchange.makes? ⟨e, r⟩ = some id := by
  obtain ⟨used, -, reply⟩ := step.replied
  rcases reply.store.changed with same | ⟨op, a, done, performed⟩
  · rw [same, iff_self_or]
    intro made
    obtain ⟨op, a, exchange, makes⟩ := Exchange.makes?_eq_some made
    cases exchange
    -- An operation that makes a record is performed if it is accepted.
    have something : (Effect.store op).nothing ≠ some (.ok a) := by
      cases op <;> cases makes <;> nofun
    have done := step.told something
    rw [same] at done
    exact Store.holds_of_makes done makes
  · cases performed
    exact Store.holds_iff done

/-- A record is made under an id that names none yet. -/
theorem Noted.makes_new (step : Noted calls w pid v e r w') (fresh : w.FreshIds)
    (products : w.FreshProducts) {id : Uuid} (made : Exchange.makes? ⟨e, r⟩ = some id) :
    ¬ w.store.Holds id := by
  obtain ⟨op, a, exchange, makes⟩ := Exchange.makes?_eq_some made
  cases exchange
  have held := step.conduct.fresh.held makes
  obtain ⟨noTrip, noCourier⟩ := fresh.unused pid id held
  have noProduct := products.unused pid id held
  rintro (⟨t, found⟩ | ⟨c, known⟩ | ⟨p, there⟩)
  · rw [noTrip] at found
    cases found
  · rw [noCourier] at known
    cases known
  · rw [noProduct] at there
    cases there

theorem registered_new {config : Config} {around : Surroundings}
    (h : World.new? config around = some w) : w.Registered := by
  obtain ⟨bus, rfl⟩ := eq_of_new? h
  constructor
  · simp [Store.Holds, Store.empty, Store.trip?, Store.courier?, Store.product?, made]
  · exact .nil

theorem Registered.silent (h : w.Registered) (same : Silent w w') : w'.Registered := by
  have made : w'.made = w.made := by rw [World.made, same.history, World.made]
  exact ⟨fun id => by rw [same.store, made]; exact h.holds id, made ▸ h.once⟩

theorem Registered.noted (h : w.Registered) (step : Noted calls w pid v e r w')
    (fresh : w.FreshIds) (products : w.FreshProducts) : w'.Registered where
  holds id := by
    rw [step.holds_iff, made_of_history step.history, List.mem_append, Option.mem_toList,
      h.holds, or_comm]
  once := by
    rw [made_of_history step.history]
    cases made : Exchange.makes? ⟨e, r⟩ with
    | none => exact h.once
    | some id =>
      have new := step.makes_new fresh products made
      rw [h.holds] at new
      exact List.nodup_cons.2 ⟨new, h.once⟩

theorem Reachable.registered (reach : w.Reachable rule) (distinct : w.IdsDistinct) :
    w.Registered :=
  reach.readings_induction (fun _ _ same h => h.silent same)
    (fun _ _ _ _ _ _ records readings step _ h => h.noted step records.fresh readings.products)
    distinct fun _ _ _ => registered_new

/-! ## References -/

/-- A courier that a trip has was bound to it. -/
theorem Noted.courier_bound (step : Noted calls w pid v e r w')
    (bound : ∀ id t courier, w.store.trip? id = some t → t.courierId = some courier →
      (id, courier) ∈ w.bindings) {id courier : Uuid} {t' : Trip}
    (there : w'.store.trip? id = some t') (named : t'.courierId = some courier) :
    (id, courier) ∈ w'.bindings := by
  rw [bindings_of_history step.history, List.mem_append]
  rcases step.trip_step id with same | ⟨op, a, performed, -, change⟩
  · exact .inr (bound id t' courier (same ▸ there) named)
  · cases performed
    rw [there] at change
    generalize before : w.store.trip? id = old at change
    generalize behind : some t' = new at change
    cases change with
    | same => exact .inr (bound id t' courier (before.trans behind.symm) named)
    | created => cases behind; cases named
    | moved | priced | confirmed => cases behind; exact .inr (bound id _ courier before named)
    | bound asked =>
      cases behind
      cases named
      subst asked
      exact .inl (by simp [Exchange.bound?])

theorem Reachable.courier_bound (reach : w.Reachable rule) {id courier : Uuid} {t : Trip}
    (found : w.store.trip? id = some t) (named : t.courierId = some courier) :
    (id, courier) ∈ w.bindings := by
  have all := reach.always
    (P := fun w => ∀ id t courier, w.store.trip? id = some t → t.courierId = some courier →
      (id, courier) ∈ w.bindings)
    (fun _ _ _ => enters_any)
    (fun _ _ _ new => by
      obtain ⟨bus, rfl⟩ := eq_of_new? new
      simp [Store.empty, Store.trip?])
    (fun _ _ _ _ same h => by rw [bindings, same.store, same.history]; exact h)
    fun _ _ _ _ _ _ _ _ _ step h _ _ _ there named => step.courier_bound h there named
  exact all id t courier found named

theorem Reachable.couriers_keyed (reach : w.Reachable rule) :
    ∀ id c, w.store.courier? id = some c → c.id = id :=
  reach.always (P := fun w => ∀ id c, w.store.courier? id = some c → c.id = id)
    (fun _ _ _ => enters_any)
    (fun _ _ _ new => by
      obtain ⟨bus, rfl⟩ := eq_of_new? new
      simp [Store.empty, Store.courier?])
    (fun _ _ _ _ same h => by rw [same.store]; exact h)
    fun _ _ _ _ _ _ _ _ _ step h _ _ known => step.couriers_keyed h known

theorem Reachable.intact (reach : w.Reachable rule) (distinct : w.IdsDistinct) : w.store.Intact := by
  obtain ⟨records, readings⟩ := reach.readings distinct
  refine ⟨records.keyed, reach.couriers_keyed, readings.products.keyed, readings.stocked,
    fun id c trip known bound => ?_, fun id t courier found named => ?_⟩
  · obtain ⟨t, found, -⟩ := records.linked id c trip known bound
    exact ⟨t, found⟩
  · obtain ⟨x, noted, bound⟩ := List.mem_filterMap.1 (reach.courier_bound found named)
    exact (reach.billing distinct).couriers x noted id courier bound

/-! ## Whatever is there stays -/

theorem Noted.persists (step : Noted calls w pid v e r w') (fresh : w.FreshIds)
    (products : w.FreshProducts) : w.store.Persists w'.store :=
  ⟨fun _ _ found => step.onward fresh found, fun _ _ known => step.keeps_product fresh known,
    fun _ _ there => products.product? step there⟩

theorem Reachable.persists (reach : w.Reachable rule) (moves : List Move)
    (distinct : (w.run moves).IdsDistinct) : w.store.Persists (w.run moves).store :=
  reach.readings_run (P := fun w' => w.store.Persists w'.store)
    (fun _ _ same h => by rw [same.store]; exact h)
    (fun _ _ _ _ _ _ records readings step _ h =>
      h.trans (step.persists records.fresh readings.products)) distinct (.refl _)

/-! ## Fares -/

/-- Where there is a cache, its clock can express the expiry of an entry, and could so far. -/
def Expressible (w : World) : Prop :=
  w.config.cacheEnabled →
    ∀ t ≤ w.now, w.around.cacheClock t + w.config.cacheTtl < RouteCache.clockLimit

theorem expressible_of_move {m : Move} (h : (w.move m).Expressible) : w.Expressible := by
  obtain ⟨config, around⟩ := given_move w m
  intro on t early
  have later := h (config ▸ on) t (Nat.le_trans early (now_move w m))
  rwa [config, around] at later

theorem expressible_of_run {moves : List Move}
    (h : ∀ t, w.around.cacheClock t + w.config.cacheTtl < RouteCache.clockLimit) :
    (w.run moves).Expressible := by
  obtain ⟨config, around⟩ := given_run w moves
  intro _ t _
  rw [config, around]
  exact h t

/-- The computation of a fare does not break down as long as it can keep what it looks up. -/
theorem Traced.fare_sturdy (traced : w.Traced calls) {trip courier : Uuid} {p : Progress}
    {job : Job Result} (found : w.processes[pid]? = some ⟨.fare trip courier, p⟩) (at_ : p.At job)
    (expressible : w.Expressible) : ¬ w.Breaks job := by
  obtain ⟨start, job', origin, path, reached⟩ := traced.path pid _ found
  cases at_.unique reached
  cases origin
  intro breaks
  cases job with
  | done r => exact breaks
  | panic =>
    obtain ⟨r, none_, -⟩ := (Fare.meets_fareJob w.config trip courier).of_leads path
    cases none_
  | act e next =>
    have origin : Origin (fun _ => False) w.config (.fare trip courier)
        (fareJob w.config trip courier) := .fare trip courier
    have consults := ((origin.consults fun _ => False.elim).of_leads path).1
    cases e with
    | cacheSet key way ttl =>
      obtain ⟨on, rfl, -⟩ := consults.keeps key way ttl rfl
      have soon := expressible on w.now (Nat.le_refl _)
      exact absurd soon (Nat.not_lt.2 breaks)
    | _ => exact breaks

theorem Reachable.fare_unbroken (reach : w.Reachable rule) (expressible : w.Expressible)
    (trip courier : Uuid) : w.processes[pid]? ≠ some ⟨.fare trip courier, .broken⟩ := by
  refine reach.rule_induction
    (P := fun w => w.Expressible → w.processes[pid]? ≠ some ⟨.fare trip courier, .broken⟩)
    (fun _ _ _ new => ?_) (fun w m reach _ ih expressible found' => ?_) expressible
  · obtain ⟨bus, rfl⟩ := eq_of_new? new
    simp
  · have before := expressible_of_move expressible
    rcases broken_move m found' with broken | ⟨p, job, found, at_, breaks⟩
    · exact ih before broken
    · have traced : w.Traced fun _ => True := reach.traced fun _ _ _ => enters_any
      exact traced.fare_sturdy found at_ before breaks

/-- No fare is being computed, or about to be. -/
def FaresOver (w : World) : Prop :=
  ∀ p ∈ w.processes, p.starts? = none ∧ (p.computes?.isSome → p.finished)

instance : Decidable w.FaresOver :=
  inferInstanceAs (Decidable (∀ p ∈ w.processes, p.starts? = none ∧ (p.computes?.isSome → p.finished)))

/-- When everything has ended, the fares are over. -/
theorem faresOver_of_finished (finished : ∀ p ∈ w.processes, p.finished) : w.FaresOver := by
  intro p member
  have finished := finished p member
  refine ⟨?_, fun _ => finished⟩
  obtain ⟨task, progress⟩ := p
  cases progress <;> first | rfl | cases finished

/-- Each trip that has a courier has had a computation of its fare. -/
theorem Reachable.fare_of_bound (reach : w.Reachable rule) (settled : w.FaresOver) {trip courier : Uuid}
    {t : Trip} (found : w.store.trip? trip = some t) (bound : t.courierId = some courier) :
    ∃ (pid : Nat) (p : Progress), w.processes[pid]? = some ⟨.fare trip courier, p⟩ ∧
      (p = .broken ∨ ∃ r, p = .ended r) := by
  have billed := reach.bindings_perm.mem_iff.1 (reach.courier_bound found bound)
  rcases List.mem_append.1 billed with computed | starting
  · obtain ⟨⟨task, p⟩, member, computes⟩ := List.mem_filterMap.1 computed
    obtain rfl : task = .fare trip courier := by
      cases task <;> cases computes
      rfl
    obtain ⟨pid, there⟩ := List.mem_iff_getElem?.1 member
    have finished := (settled _ member).2 (by rw [computes]; rfl)
    exact ⟨pid, p, there, Process.finished_iff.1 finished⟩
  · obtain ⟨p, member, starts⟩ := List.mem_filterMap.1 starting
    rw [(settled p member).1] at starts
    cases starts

/-- The computation of a fare has seen a confirmed pickup, and the provider has refused it the way from
there. -/
def Dropped (w : World) (trip courier : Uuid) : Prop :=
  ∃ pid seen pickup err, w.processes[pid]? = some ⟨.fare trip courier, .ended (.fare (.error err))⟩ ∧
    w.Saw pid trip seen ∧ seen.confirmedPickup = some pickup ∧
    ⟨.computeRoute pickup seen.finish, .error err⟩ ∈ w.trace pid

/-- The computation of a fare has seen a confirmed pickup, and has broken down. -/
def FareBroken (w : World) (trip courier : Uuid) : Prop :=
  ∃ pid seen pickup, w.processes[pid]? = some ⟨.fare trip courier, .broken⟩ ∧
    w.Saw pid trip seen ∧ seen.confirmedPickup = some pickup

/-- A trip that has a courier gets a cost, unless the way from its confirmed pickup is refused or cannot
be kept. -/
theorem Reachable.charged_or_dropped (reach : w.Reachable StoreHolds) (distinct : w.IdsDistinct)
    (settled : w.FaresOver) {trip courier : Uuid} {t : Trip}
    (found : w.store.trip? trip = some t) (bound : t.courierId = some courier) :
    (∃ cost, t.cost = some cost) ∨ w.Dropped trip courier ∨ w.FareBroken trip courier := by
  obtain ⟨pid, p, there, finished⟩ := reach.fare_of_bound settled found bound
  obtain ⟨seen, saw, outcome⟩ := reach.concluded distinct there finished
  rcases outcome with ⟨cost, -, -, t', found', charged⟩ | ⟨pickup, confirmed, outcome⟩
  · rw [found] at found'
    cases found'
    exact .inl ⟨cost, charged⟩
  · rcases outcome with rfl | ⟨err, rfl, own, inside, lost⟩
    · exact .inr (.inr ⟨pid, seen, pickup, there, saw, confirmed⟩)
    · have refused := Quote.refused_of_directionsBetween lost
      exact .inr (.inl ⟨pid, seen, pickup, err, there, saw, confirmed, inside.subset refused⟩)

theorem Reachable.no_fareBroken (reach : w.Reachable rule) (expressible : w.Expressible)
    (trip courier : Uuid) : ¬ w.FareBroken trip courier := by
  rintro ⟨pid, seen, pickup, there, -⟩
  exact reach.fare_unbroken expressible trip courier there

/-! ## All references -/

/-- In every run each record is kept under its own id, a courier has a product that is there, and couriers
and trips name each other only if they are there. The ids of the records are those under which one was
made, none was made twice, and whatever is there stays, whatever happens next. Where the store holds, a
trip that has a courier has a cost as soon as no fare is being computed any more, unless its pickup was
confirmed before and the way from there was refused, or the computation broke down behind it. None does
as long as the clock of the cache can express what it is asked to. -/
theorem references_hold (reach : w.Reachable rule) (distinct : w.IdsDistinct) :
    w.store.Intact ∧ ((∀ id, w.store.Holds id ↔ id ∈ w.made) ∧ w.made.Nodup) ∧
    (∀ moves, (w.run moves).IdsDistinct → w.store.Persists (w.run moves).store) ∧
    (w.Reachable StoreHolds → w.FaresOver →
      ∀ trip t courier, w.store.trip? trip = some t → t.courierId = some courier →
        (∃ cost, t.cost = some cost) ∨ w.Dropped trip courier ∨ w.FareBroken trip courier) ∧
    (w.Expressible → ∀ trip courier, ¬ w.FareBroken trip courier) := by
  have registered := reach.registered distinct
  exact ⟨reach.intact distinct, ⟨registered.holds, registered.once⟩,
    fun moves later => reach.persists moves later,
    fun holds settled _ _ _ found bound => holds.charged_or_dropped distinct settled found bound,
    reach.no_fareBroken⟩

theorem ttl_expressible : 0 + Trial.config.cacheTtl < RouteCache.clockLimit := by decide +kernel

theorem references_hold_of_recorded :
    fareRecorded.Reachable StoreHolds ∧ fareRecorded.IdsDistinct ∧ fareRecorded.Expressible ∧
    fareRecorded.FaresOver ∧ (∀ id, fareRecorded.store.Holds id ↔ id ∈ fareRecorded.made) ∧
    fareRecorded.made = [Trial.trip, Trial.courier, Trial.around.freshId 0] ∧
    ∃ t cost, fareRecorded.store.trip? Trial.trip = some t ∧ t.courierId = some Trial.courier ∧
      t.cost = some cost := by
  obtain ⟨distinct, settled, made, bound, found⟩ : fareRecorded.IdsDistinct ∧ fareRecorded.FaresOver ∧
      fareRecorded.made = [Trial.trip, Trial.courier, Trial.around.freshId 0] ∧
      (fareRecorded.store.trip? Trial.trip).bind Trip.courierId = some Trial.courier ∧
      ∀ p ∈ fareRecorded.processes, ¬ p.lost := by
    decide +kernel
  have reach : fareRecorded.Reachable StoreHolds :=
    ⟨Trial.config, Trial.around, Trial.start, _, Trial.start_new,
      .of_mild (by decide) fun _ _ => storeHolds_of_mild, rfl⟩
  have expressible : fareRecorded.Expressible := expressible_of_run fun _ => ttl_expressible
  obtain ⟨t, there, named⟩ := Option.bind_eq_some_iff.1 bound
  obtain ⟨-, ⟨holds, -⟩, -, charged, whole⟩ := references_hold reach distinct
  refine ⟨reach, distinct, expressible, settled, holds, made, t, ?_⟩
  rcases charged reach settled _ t _ there named with ⟨cost, charged⟩ | dropped | broken
  · exact ⟨cost, there, named, charged⟩
  · obtain ⟨pid, seen, pickup, err, lost, -⟩ := dropped
    exact absurd rfl (found _ (List.mem_of_getElem? lost))
  · exact absurd broken (whole expressible _ _)

/-- The provider finds one way, and no other. -/
def closing : Surroundings :=
  { Trial.around with directions := fun n _ _ =>
      if n = 0 then .ok ⟨"way", 5000, 600, 540⟩ else .error (.provider "closed") }

open Trial in
/-- A pickup was confirmed before a courier was bound, and the way from there was refused. -/
def fareDropped : World :=
  (openWith true closing).run (stock ++ .enter request :: steps 2 11 ++
    .enter (.confirmPickup trip depot) :: steps 4 4 ++ .enter (.bind trip courier) :: steps 5 4 ++
    steps 6 9)

/-- A fare can be dropped: nothing but the trace of its computation shows it. -/
theorem dropped_of_refused : fareDropped.Reachable StoreHolds ∧ fareDropped.FaresOver ∧
    (fareDropped.store.trip? Trial.trip).any (fun t => t.courierId = some Trial.courier ∧ t.cost = none) ∧
    fareDropped.Dropped Trial.trip Trial.courier := by
  obtain ⟨distinct, settled, unpriced⟩ : fareDropped.IdsDistinct ∧ fareDropped.FaresOver ∧
      (fareDropped.store.trip? Trial.trip).any
        (fun t => t.courierId = some Trial.courier ∧ t.cost = none) := by
    decide +kernel
  have reach : fareDropped.Reachable StoreHolds :=
    ⟨{ Trial.config with cacheEnabled := true }, closing, openWith true closing, _,
      openWith_new true closing, .of_mild (by decide) fun _ _ => storeHolds_of_mild, rfl⟩
  have expressible : fareDropped.Expressible := expressible_of_run fun _ => ttl_expressible
  obtain ⟨t, found, facts⟩ := (Option.any_eq_true _ _).1 unpriced
  simp only [decide_eq_true_eq] at facts
  refine ⟨reach, settled, unpriced, ?_⟩
  rcases reach.charged_or_dropped distinct settled found facts.1 with
    ⟨cost, charged⟩ | dropped | broken
  · rw [facts.2] at charged
    cases charged
  · exact dropped
  · exact absurd broken (reach.no_fareBroken expressible _ _)

end World

end CourierDispatch
