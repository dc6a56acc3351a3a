import CourierDispatch.Proofs.Conduct.Bindings
import CourierDispatch.Proofs.Service.Records
import CourierDispatch.Proofs.Store.History
import CourierDispatch.Proofs.Store.Product

/-!
# What was read still holds

If no id is drawn twice, a product is never changed, a courier keeps its product, and a trip keeps its
ends and its route. So what a process was told about these when it asked is still so later on
(`Readings`), whatever the other processes have done in between.
-/

namespace CourierDispatch.World

variable {calls : Call → Prop} {w w' : World} {pid : Nat} {v : Verdict} {e : Effect} {r : e.Reply}

/-! ## Products -/

/-- Products are kept under their ids, which were drawn and are held by nobody any more. -/
structure FreshProducts (w : World) : Prop where
  keyed : ∀ id p, w.store.product? id = some p → p.id = id
  drawn : ∀ id p, w.store.product? id = some p → w.Drawn id
  unused : ∀ pid id, heldId (w.trace pid) = some id → w.store.product? id = none

theorem Noted.product_step (step : Noted calls w pid v e r w') (id : Uuid) :
    w'.store.product? id = w.store.product? id ∨
      ∃ p, e = .store (.upsertProduct p) ∧ p.id = id ∧ w'.store.product? id = some p := by
  obtain ⟨used, -, reply⟩ := step.replied
  rcases reply.store.changed with same | ⟨op, a, done, performed⟩
  · exact .inl (by rw [same])
  · cases performed
    rcases Store.product_step done id with same | ⟨p, rfl, own, there⟩
    · exact .inl same
    · exact .inr ⟨p, rfl, own, there⟩

/-- A product that is recorded is a new one. -/
theorem FreshProducts.product? (h : w.FreshProducts) (step : Noted calls w pid v e r w')
    {id : Uuid} {p : Product} (found : w.store.product? id = some p) :
    w'.store.product? id = some p := by
  rcases step.product_step id with same | ⟨p', rfl, rfl, -⟩
  · rw [same, found]
  · have held : heldId (w.trace pid) = some p'.id := step.conduct.fresh
    rw [h.unused pid p'.id held] at found
    cases found

theorem freshProducts_new {config : Config} {around : Surroundings}
    (h : World.new? config around = some w) : w.FreshProducts := by
  obtain ⟨bus, rfl⟩ := eq_of_new? h
  constructor <;> simp [Store.empty, Store.product?, trace, heldId]

theorem FreshProducts.silent (h : w.FreshProducts) (same : Silent w w') : w'.FreshProducts := by
  obtain ⟨-, around, store, history, drawn, -⟩ := same
  have ids : w'.Drawn = w.Drawn := by funext id; simp [Drawn, around, drawn]
  constructor
  all_goals simp only [ids, store, trace, history]
  · exact h.keyed
  · exact h.drawn
  · exact h.unused

theorem FreshProducts.noted (h : w.FreshProducts) (fresh : w.FreshIds)
    (step : Noted calls w pid v e r w') (distinct : w'.IdsDistinct) : w'.FreshProducts := by
  refine ⟨fun id p there => ?_, fun id p there => ?_, fun q id held => ?_⟩
  · rcases step.product_step id with same | ⟨p', -, own, there'⟩
    · exact h.keyed id p (same ▸ there)
    · rw [there] at there'
      cases there'
      exact own
  · rcases step.product_step id with same | ⟨p', rfl, rfl, -⟩
    · exact step.drawn_mono (h.drawn id p (same ▸ there))
    · exact step.drawn_mono (fresh.held pid _ step.conduct.fresh)
  · rcases step.held held with ⟨before, apart⟩ | ⟨rfl, drawn⟩
    · rcases step.product_step id with same | ⟨p', rfl, rfl, -⟩
      · rw [same]
        exact h.unused q id before
      · exact absurd rfl (apart (fresh.apart q pid _ before step.conduct.fresh) _)
    · obtain ⟨-, new, same⟩ := step.drawn_new distinct drawn
      rw [same]
      exact Option.eq_none_iff_forall_ne_some.2 fun p there => new (h.drawn id p there)

/-! ## Trips and couriers -/

theorem Noted.onward (step : Noted calls w pid v e r w') (fresh : w.FreshIds) {id : Uuid}
    {t : Trip} (found : w.store.trip? id = some t) :
    ∃ t', w'.store.trip? id = some t' ∧ t.Onward t' := by
  rcases step.trip_step id with same | ⟨op, a, performed, -, change⟩
  · exact ⟨t, same ▸ found, .refl t⟩
  · cases performed
    rw [found] at change
    refine change.onward fun request asked => ?_
    subst asked
    have unused := (fresh.unused pid id step.conduct.fresh).1
    rw [found] at unused
    cases unused

/-- A courier keeps its product. -/
theorem Noted.keeps_product (step : Noted calls w pid v e r w') (fresh : w.FreshIds) {id : Uuid}
    {c : Courier} (found : w.store.courier? id = some c) :
    ∃ c', w'.store.courier? id = some c' ∧ c'.productId = c.productId := by
  rcases step.courier_step id with same | ⟨op, a, performed, -, change⟩
  · exact ⟨c, same ▸ found, rfl⟩
  · cases performed
    rw [found] at change
    generalize behind : w'.store.courier? id = new at change
    cases change with
    | same => exact ⟨c, rfl, rfl⟩
    | recorded asked named =>
      subst asked named
      have unused := (fresh.unused pid _ step.conduct.fresh.1).2
      rw [found] at unused
      cases unused
    | located | moved | bound | freed => exact ⟨_, rfl, rfl⟩

/-! ## What processes keep to -/

/-- An effect that is answered is dealt with as it should be, or belongs to the computation of a
fare. -/
theorem Noted.deals (step : Noted calls w pid v e r w') :
    Deals w.config (w.trace pid) e ∨ ∃ trip courier p next,
      w.processes[pid]? = some ⟨.fare trip courier, p⟩ ∧
      (fareJob w.config trip courier).Leads (w.trace pid) (.act e next) := by
  obtain ⟨task, p, start, next, found, -, origin, path, -⟩ := step.asked
  rcases origin.composed with composed | ⟨trip, courier, rfl, rfl⟩
  · exact .inl ((composed.binds [] rfl).of_leads path).1
  · exact .inr ⟨trip, courier, p, next, found, path⟩

/-- Whatever does not belong to the computation of a fare is dealt with as it should be. -/
theorem Noted.deals_apart (step : Noted calls w pid v e r w') (apart : ¬ e.plain) :
    Deals w.config (w.trace pid) e := by
  rcases step.deals with deals | ⟨trip, courier, p, next, -, path⟩
  · exact deals
  · exact absurd ((only_fareJob w.config trip courier).of_leads path).1.1 apart

/-- A courier is recorded for a product that its process was shown. -/
theorem Noted.stocks {c : Courier} {r : (Effect.store (.upsertCourier c)).Reply}
    (step : Noted calls w pid v (.store (.upsertCourier c)) r w') :
    ∃ x ∈ w.history, ∃ p, x.exchange = ⟨.store (.getProduct c.productId), .ok (some p)⟩ := by
  obtain ⟨p, seen⟩ := (step.deals_apart nofun).stocked c rfl
  obtain ⟨x, noted, -, exchange⟩ := mem_traceOf.1 seen
  exact ⟨x, noted, p, exchange⟩

/-- A question to the store is answered from it, and leaves it as it is. -/
theorem Noted.shown {op : StoreOp} {a b : op.Answer} (step : Noted calls w pid v (.store op) (.ok a) w')
    (something : (Effect.store op).nothing ≠ some (.ok a))
    (question : w.store.perform w.stamp op = w.store.unchanged b) : b = a ∧ w'.store = w.store := by
  have answered := step.told something
  rw [question] at answered
  obtain ⟨told, same⟩ := Store.unchanged_ok.1 answered
  exact ⟨told, same.symm⟩

/-- A question is answered where the store holds. -/
theorem Noted.answered {op : StoreOp} {b : op.Answer} {r : (Effect.store op).Reply}
    (step : Noted calls w pid v (.store op) r w') (holds : w.StoreHolds (.step pid v))
    (question : w.store.perform w.stamp op = w.store.unchanged b) : r = .ok b := by
  rcases step.performed holds with ⟨a, rfl, told⟩ | ⟨err, rfl, told, -⟩
  · rw [question] at told
    rw [(Store.unchanged_ok.1 told).1]
  · rw [question] at told
    cases told

/-! ## Readings -/

structure Readings (w : World) : Prop where
  products : w.FreshProducts
  trip : ∀ x ∈ w.history, ∀ id t, x.exchange = ⟨.store (.getTrip id), .ok (some t)⟩ →
    ∃ t', w.store.trip? id = some t' ∧ t.Onward t'
  courier : ∀ x ∈ w.history, ∀ id c, x.exchange = ⟨.store (.getCourier id), .ok (some c)⟩ →
    ∃ c', w.store.courier? id = some c' ∧ c'.productId = c.productId
  product : ∀ x ∈ w.history, ∀ id p, x.exchange = ⟨.store (.getProduct id), .ok (some p)⟩ →
    w.store.product? id = some p
  offers : ∀ x ∈ w.history, ∀ centre radius ps,
    x.exchange = ⟨.store (.nearbyProducts centre radius), .ok ps⟩ →
    ∀ p ∈ ps, w.store.product? p.id = some p
  /-- Each courier has a product. -/
  stocked : ∀ id c, w.store.courier? id = some c → ∃ p, w.store.product? c.productId = some p

theorem readings_new {config : Config} {around : Surroundings}
    (h : World.new? config around = some w) : w.Readings := by
  have products := freshProducts_new h
  obtain ⟨bus, rfl⟩ := eq_of_new? h
  refine ⟨products, ?_, ?_, ?_, ?_, ?_⟩ <;> simp [Store.empty, Store.courier?]

theorem Readings.silent (h : w.Readings) (same : Silent w w') : w'.Readings := by
  have products := h.products.silent same
  obtain ⟨-, -, store, history, -, -⟩ := same
  refine ⟨products, ?_, ?_, ?_, ?_, ?_⟩ <;> simp only [store, history]
  · exact h.trip
  · exact h.courier
  · exact h.product
  · exact h.offers
  · exact h.stocked

theorem Readings.noted (h : w.Readings) (records : w.Records) (step : Noted calls w pid v e r w')
    (distinct : w'.IdsDistinct) : w'.Readings := by
  have fresh := records.fresh
  have products := h.products.noted fresh step distinct
  refine ⟨products, fun x noted id t read => ?_, fun x noted id c read => ?_,
    fun x noted id p read => ?_, fun x noted centre radius ps read p offered => ?_,
    fun id c' there => ?_⟩
  all_goals try rw [step.history] at noted
  · rcases List.mem_cons.1 noted with rfl | old
    · cases read
      obtain ⟨told, same⟩ := step.shown nofun rfl
      exact ⟨t, same ▸ told, .refl t⟩
    · obtain ⟨t', found, onward⟩ := h.trip x old id t read
      obtain ⟨t'', found', onward'⟩ := step.onward fresh found
      exact ⟨t'', found', onward.trans onward'⟩
  · rcases List.mem_cons.1 noted with rfl | old
    · cases read
      obtain ⟨told, same⟩ := step.shown nofun rfl
      exact ⟨c, same ▸ told, rfl⟩
    · obtain ⟨c', found, kept⟩ := h.courier x old id c read
      obtain ⟨c'', found', kept'⟩ := step.keeps_product fresh found
      exact ⟨c'', found', kept'.trans kept⟩
  · rcases List.mem_cons.1 noted with rfl | old
    · cases read
      obtain ⟨told, same⟩ := step.shown nofun rfl
      exact same ▸ told
    · exact h.products.product? step (h.product x old id p read)
  · rcases List.mem_cons.1 noted with rfl | old
    · cases read
      obtain ⟨told, same⟩ := step.shown nofun rfl
      rw [← told] at offered
      exact same ▸ Store.product?_of_offered h.products.keyed offered
    · exact h.products.product? step (h.offers x old centre radius ps read p offered)
  · have kept {p : Product} (there : w.store.product? c'.productId = some p) :
        ∃ p, w'.store.product? c'.productId = some p := ⟨p, h.products.product? step there⟩
    rcases step.courier_step id with same | ⟨op, a, performed, -, change⟩
    · obtain ⟨p, known⟩ := h.stocked id c' (same ▸ there)
      exact kept known
    · cases performed
      rw [there] at change
      generalize before : w.store.courier? id = old at change
      generalize behind : some c' = new at change
      cases change with
      | same =>
        obtain ⟨p, known⟩ := h.stocked id c' (before.trans behind.symm)
        exact kept known
      | recorded asked =>
        cases behind
        subst asked
        obtain ⟨x, noted, p, seen⟩ := step.stocks
        exact kept (h.product x noted _ p seen)
      | located | moved | bound | freed =>
        cases behind
        obtain ⟨p, known⟩ := h.stocked id _ before
        exact kept known

theorem Reachable.readings {rule : World → Move → Prop} (reach : w.Reachable rule)
    (distinct : w.IdsDistinct) : w.Records ∧ w.Readings :=
  reach.keeps (P := fun w => w.Records ∧ w.Readings) distinct (fun _ _ _ => enters_any)
    (fun _ _ _ new => ⟨records_new new, readings_new new⟩)
    (fun _ _ _ _ same h => ⟨h.1.silent same, h.2.silent same⟩)
    fun _ _ _ _ _ _ _ _ _ step distinct h =>
      ⟨h.1.noted step distinct, h.2.noted h.1 step distinct⟩

/-! ## What is kept where what was read still holds -/

section

variable {rule : World → Move → Prop} {P : World → Prop}
  (silent : ∀ w w', Silent w w' → P w → P w')
  (noted : ∀ w w' pid v e r, w.Records → w.Readings → Noted (fun _ => True) w pid v e r w' →
    w'.IdsDistinct → P w → P w')

include silent noted

/-- What each step keeps that finds what was read holds at the end of every run. -/
theorem Reachable.readings_run (reach : w.Reachable rule) {moves : List Move}
    (distinct : (w.run moves).IdsDistinct) (start : P w) : P (w.run moves) := by
  have traced : w.Traced fun _ => True := reach.traced fun _ _ _ => enters_any
  have before := traced.ids_of_run (obeys_any moves) (fun _ _ _ => enters_any) distinct
  have all := keeps_run (P := fun w => (w.Records ∧ w.Readings) ∧ P w) (fun _ _ _ => enters_any)
    (fun w w' _ _ same h => ⟨⟨h.1.1.silent same, h.1.2.silent same⟩, silent w w' same h.2⟩)
    (fun w w' pid v e r _ _ _ step distinct h =>
      ⟨⟨h.1.1.noted step distinct, h.1.2.noted h.1.1 step distinct⟩,
        noted w w' pid v e r h.1.1 h.1.2 step distinct h.2⟩)
    traced (obeys_any moves) distinct ⟨reach.readings before, start⟩
  exact all.2

/-- The same for what holds of a new service. -/
theorem Reachable.readings_induction (reach : w.Reachable rule) (distinct : w.IdsDistinct)
    (start : ∀ config around w, World.new? config around = some w → P w) : P w := by
  obtain ⟨config, around, w₀, moves, new, -, rfl⟩ := reach
  have begun : w₀.Reachable fun _ _ => True := ⟨config, around, w₀, [], new, trivial, rfl⟩
  exact begun.readings_run silent noted distinct (start config around w₀ new)

end

/-- A trip that is there goes onward in every run. -/
theorem Reachable.onward_run {rule : World → Move → Prop} (reach : w.Reachable rule) {id : Uuid}
    {t : Trip} (found : w.store.trip? id = some t) {moves : List Move}
    (distinct : (w.run moves).IdsDistinct) :
    ∃ t', (w.run moves).store.trip? id = some t' ∧ t.Onward t' := by
  refine reach.readings_run (P := fun w' => ∃ t', w'.store.trip? id = some t' ∧ t.Onward t')
    (fun _ _ same h => by rw [same.store]; exact h)
    (fun _ _ _ _ _ _ records _ step _ h => ?_) distinct ⟨t, found, .refl t⟩
  obtain ⟨t', found', onward⟩ := h
  obtain ⟨t'', found'', onward'⟩ := step.onward records.fresh found'
  exact ⟨t'', found'', onward.trans onward'⟩

end CourierDispatch.World
