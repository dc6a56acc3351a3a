import CourierDispatch.Proofs.Conduct.Quoting
import CourierDispatch.Proofs.Offering
import CourierDispatch.Proofs.Pricing
import CourierDispatch.Proofs.Service.Bookings

/-!
# Prices in order

A fare is what the counted work costs, capped once (`Pricer.cost_toNat`). So it does not fall when the
weight class, the distance or the wage grows, nor when fuel is earned, wherever it is capped
(`Pricer.cost_mono`). Products are listed by weight class, and those of one quote are priced for one
distance: among those that earn fuel, and among those that do not, the prices of a quote do not fall
(`prices_in_order`).
-/

namespace CourierDispatch

namespace Pricer

variable {p p' : Pricer} {weight weight' distance distance' : UInt64} {fuel fuel' : Bool}

theorem rate_mono (wage : p.hourlyWage ≤ p'.hourlyWage) (earns : fuel → fuel') :
    p.rate fuel ≤ p'.rate fuel' := by
  have wage : p.hourlyWage.toNat ≤ p'.hourlyWage.toNat := wage
  have perMinute : p.hourlyWage.toNat / 60 ≤ p'.hourlyWage.toNat / 60 := Nat.div_le_div_right wage
  have surcharge : (if fuel then 1 + p.hourlyWage.toNat / 60 else 1) ≤
      if fuel' then 1 + p'.hourlyWage.toNat / 60 else 1 := by
    cases fuel with
    | true => rw [if_pos rfl, if_pos (earns rfl)]; omega
    | false => simp only [Bool.false_eq_true, if_false]; split <;> omega
  exact Nat.mul_le_mul (Nat.mul_le_mul_left 2 wage) surcharge

theorem exactWork_mono (heavier : weight ≤ weight') (further : distance ≤ distance') :
    exactWork weight distance ≤ exactWork weight' distance' :=
  Nat.div_le_div_right (Nat.mul_le_mul heavier further)

/-- A fare does not fall, capped or not. -/
theorem cost_mono (wage : p.hourlyWage ≤ p'.hourlyWage) (heavier : weight ≤ weight')
    (further : distance ≤ distance') (earns : fuel → fuel') :
    p.cost weight distance fuel ≤ p'.cost weight' distance' fuel' := by
  have work := exactWork_mono heavier further
  have counted : min (exactWork weight distance) greatestWork ≤
      min (exactWork weight' distance') greatestWork := by omega
  have fare := Nat.mul_le_mul counted (rate_mono wage earns)
  rw [UInt64.le_iff_toNat_le, cost_toNat, cost_toNat]
  omega

theorem revenue_mono {fare fare' : UInt64} (more : fare ≤ fare') : revenue fare ≤ revenue fare' := by
  have more : fare.toNat ≤ fare'.toNat := more
  rw [UInt64.le_iff_toNat_le, revenue_toNat, revenue_toNat]
  omega

theorem revenue_le (fare : UInt64) : revenue fare ≤ fare := by
  rw [UInt64.le_iff_toNat_le, revenue_toNat]
  omega

/-- Of two products that earn fuel alike, the heavier one is not cheaper. -/
theorem price_mono {a b : Product} (heavier : a.weightClass ≤ b.weightClass)
    (alike : p.earnsFuel a = p.earnsFuel b) : p.price a distance ≤ p.price b distance :=
  cost_mono (UInt64.le_refl _) heavier (UInt64.le_refl _) (alike ▸ id)

/-- Products in order of weight, priced for one distance, are in order of price as far as they earn fuel
alike. -/
theorem pairwise_price {ps : List Product} (byWeight : ps.Pairwise (·.weightClass ≤ ·.weightClass)) :
    ((ps.map fun a => (⟨a, p.price a distance⟩ : PricedProduct)).filter
      (p.earnsFuel ·.product = fuel)).Pairwise (·.price ≤ ·.price) := by
  rw [List.pairwise_filter, List.pairwise_map]
  refine byWeight.imp fun heavier first second => price_mono heavier ?_
  rw [of_decide_eq_true first, of_decide_eq_true second]

end Pricer

namespace World

variable {w : World} {rule : World → Move → Prop}

/-- Whoever was shown the products around a place was shown the lightest first. -/
theorem Reachable.byWeight (reach : w.Reachable rule) : ∀ x ∈ w.history, ∀ centre radius ps,
    x.exchange = ⟨.store (.nearbyProducts centre radius), .ok ps⟩ →
    ps.Pairwise (·.weightClass ≤ ·.weightClass) := by
  refine reach.always
    (P := fun w => ∀ x ∈ w.history, ∀ centre radius ps,
      x.exchange = ⟨.store (.nearbyProducts centre radius), .ok ps⟩ →
      ps.Pairwise (·.weightClass ≤ ·.weightClass))
    (fun _ _ _ => enters_any) (fun config around w new => ?_) (fun _ _ _ _ same h => ?_)
    fun w w' pid v e r _ _ _ step h x noted centre radius ps shown => ?_
  · obtain ⟨bus, rfl⟩ := eq_of_new? new
    simp
  · rw [same.history]
    exact h
  · rw [step.history] at noted
    rcases List.mem_cons.1 noted with rfl | old
    · cases shown
      obtain ⟨told, -⟩ := step.shown nofun rfl
      exact told ▸ Store.pairwise_byWeight _
    · exact h x old centre radius ps shown

/-- No fare falls when the wage, the weight class or the distance grows, or when fuel is earned, and no
revenue falls when the fare grows or exceeds it. Whoever makes a quote: of two products that earn fuel
alike, the heavier one is not cheaper, and those that earn fuel alike are listed in order of price. -/
theorem prices_in_order (reach : w.Reachable rule) :
    (∀ (p p' : Pricer) (weight weight' distance distance' : UInt64) (fuel fuel' : Bool),
      p.hourlyWage ≤ p'.hourlyWage → weight ≤ weight' → distance ≤ distance' → (fuel → fuel') →
      p.cost weight distance fuel ≤ p'.cost weight' distance' fuel') ∧
    (∀ fare fare' : UInt64, fare ≤ fare' → Pricer.revenue fare ≤ Pricer.revenue fare') ∧
    (∀ fare : UInt64, Pricer.revenue fare ≤ fare) ∧
    (∀ (p : Pricer) (a b : Product) (distance : UInt64), a.weightClass ≤ b.weightClass →
      p.earnsFuel a = p.earnsFuel b → p.price a distance ≤ p.price b distance) ∧
    ∀ pid own pickup dropoff q, own <:+: w.trace pid →
      (Dispatch.quote w.config pickup dropoff).run.Leads own (.done (.ok q)) →
      (∀ a ∈ q.route.products, ∀ b ∈ q.route.products,
        a.product.weightClass ≤ b.product.weightClass →
        w.config.pricer.earnsFuel a.product = w.config.pricer.earnsFuel b.product →
        a.price ≤ b.price) ∧
      ∀ fuel, (q.route.products.filter (w.config.pricer.earnsFuel ·.product = fuel)).Pairwise
        (·.price ≤ ·.price) := by
  refine ⟨fun _ _ _ _ _ _ _ _ => Pricer.cost_mono, fun _ _ => Pricer.revenue_mono,
    Pricer.revenue_le, fun _ _ _ _ => Pricer.price_mono, fun pid own pickup dropoff q within leads => ?_⟩
  obtain ⟨centre, radius, products, offered, prices⟩ := Fare.listed_of_quoted leads
  obtain ⟨x, noted, -, exchange⟩ := mem_traceOf.1 (within.subset offered)
  have byWeight := reach.byWeight x noted centre radius products exchange
  rw [prices]
  refine ⟨fun a listed b listed' heavier alike => ?_, fun fuel => Pricer.pairwise_price byWeight⟩
  obtain ⟨product, -, rfl⟩ := List.mem_map.1 listed
  obtain ⟨product', -, rfl⟩ := List.mem_map.1 listed'
  exact Pricer.price_mono heavier alike

/-! ## A quote for a bike and a van -/

namespace Fleet

open Trial

/-- A product is recorded, and a courier at the depot who drives it. -/
def joins (pid : Nat) (name weight : String) (product : String) : List Move :=
  .enter (.request ⟨"POST", "/products", some "application/json",
    "\x7b\"name\":\"" ++ name ++ "\",\"weight_class\":" ++ weight ++ "\x7d"⟩) :: steps pid 3 ++
  .enter (.request ⟨"POST", "/couriers", some "application/json",
    "\x7b\"user_id\":\"00000000000000000000000000000009\",\"product_id\":\"" ++ product ++
    "\",\"status\":\"online\",\"location\":\x7b\"lat\":0.0,\"lng\":2.5\x7d\x7d"⟩) :: steps (pid + 1) 5

def recruited : World :=
  start.run (joins 0 "van" "1000000" "00000000000000000000000000000001" ++
    joins 2 "bike" "3000" "00000000000000000000000000000003")

def quoted : World :=
  recruited.run (.enter (.computeRoute ⟨"", "", depot⟩ ⟨"", "", ⟨1.0, 3.0⟩⟩) :: steps 4 7)

end Fleet

open Fleet in
theorem prices_in_order_of_fleet : quoted.Reachable StoreHolds ∧
    quoted.store.products.rows.map (·.2.weightClass) = [1000000, 3000] ∧
    ∃ route, quoted.answered? 4 = some (.route route) ∧ route.distanceMeters = 5000 ∧
      ∀ fuel, (route.products.filter (quoted.config.pricer.earnsFuel ·.product = fuel)).Pairwise
        (·.price ≤ ·.price) := by
  obtain ⟨next, weights, answered⟩ : recruited.processes.length = 4 ∧
      quoted.store.products.rows.map (·.2.weightClass) = [1000000, 3000] ∧
      (quoted.answered? 4).any (fun | .route r => r.distanceMeters = 5000 | _ => false) := by
    decide +kernel
  have start : recruited.Reachable StoreHolds :=
    ⟨Trial.config, Trial.around, Trial.start, _, Trial.start_new,
      .of_mild (by decide) fun _ _ => storeHolds_of_mild, rfl⟩
  have reach : quoted.Reachable StoreHolds :=
    start.run (.of_mild (by decide) fun _ _ => storeHolds_of_mild)
  have follows := (start.traced fun _ _ _ => enters_any).follows
    (.computeRoute ⟨"", "", Trial.depot⟩ ⟨"", "", ⟨1.0, 3.0⟩⟩) (Trial.steps 4 7)
  rw [next, ← move, ← run_cons, ← quoted] at follows
  obtain ⟨answer, told, far⟩ := (Option.any_eq_true ..).1 answered
  cases answer with
  | route route =>
    obtain ⟨process, job, found, leads, reached⟩ := follows
    rw [answered?_eq_some.1 told] at found
    cases found
    cases (show job = _ from reached)
    obtain ⟨q, rfl, made⟩ := quoted_of_routing leads
    have same : quoted.config = recruited.config := (given_run recruited _).1
    rw [← same] at made
    obtain ⟨-, -, -, -, listed⟩ := prices_in_order reach
    obtain ⟨-, ordered⟩ := listed 4 _ _ _ q List.infix_rfl made
    exact ⟨reach, weights, q.route, told, of_decide_eq_true far, ordered⟩
  | _ => cases far

end World

end CourierDispatch
