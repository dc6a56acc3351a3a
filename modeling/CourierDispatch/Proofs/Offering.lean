import CourierDispatch.Proofs.Service.Trial
import CourierDispatch.Proofs.Store.Listing

/-!
# What is on offer

The products on offer around a place are the products of the store that some available courier within the
radius serves: each of them once, however many couriers serve it, and the lightest first. What a courier
serves that the store does not know is no product. A quote lists these products in this order with their
prices (`offers_exactly`).
-/

namespace CourierDispatch

namespace Store

variable {s : Store} {centre : GeoPoint} {radius : Float}

/-- An available courier within a radius serves what has this id. -/
def Serves (s : Store) (centre : GeoPoint) (radius : Float) (id : Uuid) : Prop :=
  ∃ c ∈ s.couriers.values, c.available ∧ c.Near centre radius ∧ c.productId = id

instance (id : Uuid) : Decidable (s.Serves centre radius id) :=
  inferInstanceAs (Decidable (∃ c ∈ s.couriers.values, _))

theorem contains_offered (id : Uuid) :
    (((s.nearbyCouriers centre radius).filter Courier.available).map Courier.productId).contains id =
      decide (s.Serves centre radius id) := by
  rw [Bool.eq_iff_iff, List.contains_iff_mem, decide_eq_true_eq, List.mem_map]
  constructor
  · rintro ⟨c, shown, served⟩
    obtain ⟨listed, available⟩ := List.mem_filter.1 shown
    obtain ⟨known, near⟩ := mem_nearbyCouriers.1 listed
    exact ⟨c, known, available, near, served⟩
  · rintro ⟨c, known, available, near, served⟩
    exact ⟨c, List.mem_filter.2 ⟨mem_nearbyCouriers.2 ⟨known, near⟩, available⟩, served⟩

theorem nearbyProducts_perm (s : Store) (centre : GeoPoint) (radius : Float) :
    (s.nearbyProducts centre radius).Perm
      ((s.products.rows.filter fun row => s.Serves centre radius row.1).map Prod.snd) := by
  have rows : (fun row : Uuid × Product => decide (s.Serves centre radius row.1)) = fun row =>
      (((s.nearbyCouriers centre radius).filter Courier.available).map Courier.productId).contains row.1 :=
    funext fun row => (contains_offered row.1).symm
  rw [rows]
  exact List.mergeSort_perm _ _

theorem pairwise_byWeight (ps : List Product) :
    (byWeight ps).Pairwise (·.weightClass ≤ ·.weightClass) := by
  have sorted : (byWeight ps).Pairwise fun a b => decide (a.weightClass ≤ b.weightClass) = true := by
    refine List.pairwise_mergeSort (fun a b c first second => ?_) (fun a b => ?_) ps
    · exact decide_eq_true (UInt64.le_trans (of_decide_eq_true first) (of_decide_eq_true second))
    · simpa using UInt64.le_total a.weightClass b.weightClass
  exact sorted.imp of_decide_eq_true

/-- Where products are kept under their ids, those that are served are kept under what is served. -/
theorem served_rows (keyed : s.Keyed) :
    (s.products.rows.filter fun row => s.Serves centre radius row.1).map Prod.snd =
      s.products.values.filter fun p => s.Serves centre radius p.id := by
  rw [Table.values, List.filter_map]
  refine congrArg _ (List.filter_congr fun row member => ?_)
  rw [Function.comp_apply, keyed.products row.1 row.2 (Table.get?_of_mem_rows member)]

/-- What is listed around a place, with its prices. -/
def offers (s : Store) (c : RouteConfig) (pricer : Pricer) (centre : GeoPoint) (distance : UInt64) :
    List PricedProduct :=
  (s.nearbyProducts centre c.productRadius).map fun p => ⟨p, pricer.price p distance⟩

end Store

namespace World

variable {w : World} {pid : Nat} {task : Task} {c : RouteConfig} {pricer : Pricer} {centre : GeoPoint}
  {distance : UInt64}

/-- A process that asks for the priced products goes on with those of the store as it is. -/
theorem step_pricedProducts {next : Except DispatchError (List PricedProduct) → Job Result}
    (there : w.processes[pid]? =
      some ⟨task, .ready ((Quote.pricedProducts c pricer centre distance).result >>= next)⟩) :
    (w.step pid .proceed).store = w.store ∧ (w.step pid .proceed).processes[pid]? =
      some ⟨task, .ready (next (.ok (w.store.offers c pricer centre distance)))⟩ := by
  have job : (Quote.pricedProducts c pricer centre distance).result >>= next =
      .act (.store (.nearbyProducts centre c.productRadius)) fun r =>
        next (r.map (·.map fun p => ⟨p, pricer.price p distance⟩)) :=
    congrArg (Job.act _) (funext fun r => by cases r <;> rfl)
  rw [job] at there
  rw [step_of_answer there rfl (answer_of_respond rfl rfl)]
  refine ⟨rfl, ?_⟩
  rw [getElem?_setProgress, if_pos rfl, told, there]
  rfl

/-- A call for the priced products is answered with those of the store. -/
theorem answered_pricedProducts (w : World) (centre : GeoPoint) (distance : UInt64) :
    (w.run [.enter (.pricedProducts centre distance), .step w.processes.length .proceed,
      .step w.processes.length .proceed]).answered? w.processes.length =
        some (.products (w.store.offers w.config.routing w.config.pricer centre distance)) := by
  obtain ⟨next, job, wraps⟩ : ∃ next, Result.answer <$> (Call.pricedProducts centre distance).job w.config =
      (Quote.pricedProducts w.config.routing w.config.pricer centre distance).result >>= next ∧
      ∀ ps, next (.ok ps) = .done (.answer (.products ps)) :=
    ⟨fun | .ok ps => .done (.answer (.products ps)) | .error err => .done (.answer (.refused err)),
      congrArg (Job.act _) (funext fun r => by cases r <;> rfl), fun _ => rfl⟩
  have there : (w.enter (.pricedProducts centre distance)).processes[w.processes.length]? = some ⟨.call, .ready
      ((Quote.pricedProducts w.config.routing w.config.pricer centre distance).result >>= next)⟩ := by
    simp only [enter, spawn, job, List.getElem?_concat_length]
  have listed := (step_pricedProducts there).2
  rw [wraps] at listed
  simp only [run_cons, run_nil, move]
  generalize (w.enter (.pricedProducts centre distance)).step w.processes.length .proceed = w' at listed
  rw [answered?_eq_some, step, listed]
  simp only [Option.map_some, getElem?_setProgress, if_true, listed]
  rfl

/-- What is on offer around a place are the products of the store that some available courier within the
radius serves, each once and the lightest first; a list of all products is in the same order. Whoever asks
for the priced products, in a call or for a quote, gets those on offer in this order with their prices. -/
theorem offers_exactly (w : World) (centre : GeoPoint) (radius : Float) (distance : UInt64) :
    (w.store.nearbyProducts centre radius).Perm
      ((w.store.products.rows.filter fun row => w.store.Serves centre radius row.1).map Prod.snd) ∧
    (w.store.nearbyProducts centre radius).Pairwise (·.weightClass ≤ ·.weightClass) ∧
    w.store.listProducts.Perm w.store.products.values ∧
    w.store.listProducts.Pairwise (·.weightClass ≤ ·.weightClass) ∧
    (w.store.Keyed →
      ((w.store.nearbyProducts centre radius).map Product.id).Nodup ∧
      (∀ p, p ∈ w.store.nearbyProducts centre radius ↔
        w.store.product? p.id = some p ∧ w.store.Serves centre radius p.id) ∧
      (w.store.listProducts.map Product.id).Nodup ∧
      ∀ p, p ∈ w.store.listProducts ↔ w.store.product? p.id = some p) ∧
    (∀ pid task c pricer next, w.processes[pid]? =
        some ⟨task, .ready ((Quote.pricedProducts c pricer centre distance).result >>= next)⟩ →
      (w.step pid .proceed).store = w.store ∧ (w.step pid .proceed).processes[pid]? =
        some ⟨task, .ready (next (.ok (w.store.offers c pricer centre distance)))⟩) ∧
    (w.run [.enter (.pricedProducts centre distance), .step w.processes.length .proceed,
      .step w.processes.length .proceed]).answered? w.processes.length =
        some (.products (w.store.offers w.config.routing w.config.pricer centre distance)) := by
  have all : w.store.listProducts.Perm w.store.products.values := List.mergeSort_perm _ _
  refine ⟨Store.nearbyProducts_perm w.store centre radius, Store.pairwise_byWeight _, all,
    Store.pairwise_byWeight _, fun keyed => ?_, fun _ _ _ _ _ => step_pricedProducts,
    answered_pricedProducts w centre distance⟩
  have served := Store.nearbyProducts_perm w.store centre radius
  rw [Store.served_rows keyed] at served
  have once := Table.nodup_map_values keyed.products
  have member (p : Product) := Table.mem_values_iff keyed.products (v := p)
  refine ⟨?_, fun p => ?_, (all.map Product.id).nodup_iff.2 once, fun p => all.mem_iff.trans (member p)⟩
  · exact (served.map Product.id).nodup_iff.2 (once.sublist (List.filter_sublist.map Product.id))
  · rw [served.mem_iff, List.mem_filter, decide_eq_true_eq, member p, Store.product?]

/-! ## Two products that are served -/

namespace Depot

def courier (id : Uuid) (status : CourierStatus) (serves : Uuid) : StoreOp :=
  .upsertCourier ⟨id, .nil, Trial.depot, status, serves, none, ⟨0, 0⟩⟩

/-- Two couriers serve one product, one serves another, one serves what is unknown, and one that is offline
serves a third product. -/
def stock : Store :=
  Store.empty.afterAll <| [
    .upsertProduct ⟨⟨9⟩, "truck", 3, "", none⟩, .upsertProduct ⟨⟨8⟩, "bicycle", 1, "", none⟩,
    .upsertProduct ⟨⟨7⟩, "van", 2, "", none⟩, courier ⟨1⟩ .online ⟨9⟩, courier ⟨2⟩ .online ⟨8⟩,
    courier ⟨3⟩ .online ⟨9⟩, courier ⟨4⟩ .online ⟨6⟩, courier ⟨5⟩ .offline ⟨7⟩].map (⟨0, 0⟩, ·)

def world : World := { Trial.start with store := stock }

end Depot

open Depot in
theorem offers_exactly_at_depot :
    ((stock.nearbyProducts Trial.depot 0.0).map Product.id).Perm [⟨9⟩, ⟨8⟩] ∧
    (stock.nearbyProducts Trial.depot 0.0).Pairwise (·.weightClass ≤ ·.weightClass) ∧
    stock.Keyed ∧ ((stock.nearbyProducts Trial.depot 0.0).map Product.id).Nodup ∧
    (world.run [.enter (.pricedProducts Trial.depot 1000), .step 0 .proceed, .step 0 .proceed]).answered? 0 =
      some (.products (stock.offers world.config.routing world.config.pricer Trial.depot 1000)) := by
  have keyed : stock.Keyed := Store.keyed_afterAll _
  have served : ((stock.products.rows.filter fun row => stock.Serves Trial.depot 0.0 row.1).map
      Prod.snd).map Product.id = [⟨9⟩, ⟨8⟩] := by
    decide +kernel
  obtain ⟨listed, sorted, -, -, once, -, answered⟩ := offers_exactly world Trial.depot 0.0 1000
  exact ⟨served ▸ listed.map Product.id, sorted, keyed, (once keyed).1, answered⟩

end World

end CourierDispatch
