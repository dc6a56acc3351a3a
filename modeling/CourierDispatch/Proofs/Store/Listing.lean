import CourierDispatch.Proofs.Geo.Order
import CourierDispatch.Proofs.Store.History
import CourierDispatch.Proofs.Store.Product

/-!
# Who is near

A look around lists the couriers that are located within the radius, each once and the nearest first, and
the nearest available courier is the first on the list that is available (`nearest_search`). Who has no
location, or is at a distance that is no number, is on no list.

A courier is listed for each key under which it is kept. In a store that operations have made couriers and
products are kept under their ids (`keyed_afterAll`), so no id is listed twice.
-/

namespace CourierDispatch

/-! ## Tables by name -/

namespace Table

variable {κ ν : Type} [DecidableEq κ] {t : Table κ ν} {name : ν → κ}

/-- Where values are kept under their names, the names are the keys. -/
theorem map_values_eq_keys (named : ∀ key v, t.get? key = some v → name v = key) :
    t.values.map name = t.keys := by
  rw [values, keys, List.map_map]
  exact List.map_congr_left fun row member => named row.1 row.2 (get?_of_mem_rows member)

theorem nodup_map_values (named : ∀ key v, t.get? key = some v → name v = key) :
    (t.values.map name).Nodup := by
  rw [map_values_eq_keys named]
  exact t.distinct

theorem mem_values_iff (named : ∀ key v, t.get? key = some v → name v = key) {v : ν} :
    v ∈ t.values ↔ t.get? (name v) = some v := by
  refine ⟨fun member => ?_, mem_values_of_get?⟩
  obtain ⟨key, found⟩ := get?_of_mem_values member
  rwa [named key v found]

end Table

/-! ## Distances -/

namespace Courier

variable {centre : GeoPoint} {radius : Float} {a b c : Courier}

/-- Two couriers of which the second is not nearer to a point. -/
def InOrder (centre : GeoPoint) (a b : Courier) : Prop :=
  ∃ d e, a.distance? centre = some d ∧ b.distance? centre = some e ∧ d ≤ e

/-- A courier that is nearer to a point than another. -/
def Nearer (centre : GeoPoint) (a b : Courier) : Prop :=
  ∃ d e, a.distance? centre = some d ∧ b.distance? centre = some e ∧ d < e

theorem InOrder.not_nearer (order : a.InOrder centre b) : ¬ b.Nearer centre a := by
  rintro ⟨e, d, second, first, below⟩
  obtain ⟨d', e', first', second', le⟩ := order
  cases first.symm.trans first'
  cases second.symm.trans second'
  exact Geo.not_below_of_le le below

theorem Near.inOrder (near : c.Near centre radius) : c.InOrder centre c := by
  obtain ⟨d, away, le⟩ := near
  have number := (Geo.isNaN_of_le le).1
  exact ⟨d, d, away, away, Geo.le_of_orderKey_le number number (Int.le_refl _)⟩

end Courier

namespace Store

variable {s : Store} {centre : GeoPoint} {radius : Float} {c : Courier}

/-! ## The order of the list -/

theorem nearer_trans {x y z : Float × Courier} (first : nearer x y) (second : nearer y z) :
    nearer x z := by
  simp only [nearer, Bool.or_eq_true, Bool.and_eq_true, decide_eq_true_eq] at first second ⊢
  omega

theorem nearer_total (x y : Float × Courier) : nearer x y || nearer y x := by
  simp only [nearer, Bool.or_eq_true, Bool.and_eq_true, decide_eq_true_eq]
  omega

theorem nearbyCouriers_inOrder (s : Store) (centre : GeoPoint) (radius : Float) :
    (s.nearbyCouriers centre radius).Pairwise (Courier.InOrder centre) := by
  have sorted : (s.located centre radius).Pairwise fun x y => nearer x y = true :=
    List.pairwise_mergeSort (fun x y z => nearer_trans (x := x) (y := y) (z := z)) nearer_total _
  have measured {x : Float × Courier} (listed : x ∈ s.located centre radius) :
      x.2.distance? centre = some x.1 ∧ x.1.isNaN = false := by
    obtain ⟨c, -, hit⟩ := List.mem_filterMap.1 (List.mem_mergeSort.1 listed)
    obtain ⟨away, le, rfl⟩ := hit?_eq_some.1 hit
    exact ⟨away, (Geo.isNaN_of_le le).1⟩
  refine List.pairwise_map.2 (sorted.imp_of_mem fun {x y} first second order => ?_)
  have keys : Geo.orderKey x.1 ≤ Geo.orderKey y.1 := by
    simp only [nearer, Bool.or_eq_true, Bool.and_eq_true, decide_eq_true_eq] at order
    omega
  exact ⟨x.1, y.1, (measured first).1, (measured second).1,
    Geo.le_of_orderKey_le (measured first).2 (measured second).2 keys⟩

/-- Nobody available is nearer than the nearest. -/
theorem not_nearer_of_nearestAvailable {b : Courier} (found : s.nearestAvailable centre radius = some c)
    (known : b ∈ s.couriers.values) (available : b.available) (near : b.Near centre radius) :
    ¬ b.Nearer centre c := by
  obtain ⟨-, before, after, listed, skipped⟩ := nearestAvailable_eq_some.1 found
  have sorted := nearbyCouriers_inOrder s centre radius
  have member : b ∈ s.nearbyCouriers centre radius := mem_nearbyCouriers.2 ⟨known, near⟩
  rw [listed, List.pairwise_append] at sorted
  rw [listed, List.mem_append, List.mem_cons] at member
  rcases member with earlier | rfl | later
  · exact absurd available (skipped b earlier)
  · exact near.inOrder.not_nearer
  · exact (List.rel_of_pairwise_cons sorted.2.1 later).not_nearer

/-! ## Records under their ids -/

/-- Couriers and products are kept under their ids. -/
structure Keyed (s : Store) : Prop where
  couriers : ∀ id c, s.courier? id = some c → c.id = id
  products : ∀ id p, s.product? id = some p → p.id = id

theorem keyed_empty : empty.Keyed := ⟨nofun, nofun⟩

theorem Keyed.after (keyed : s.Keyed) (now : Timestamp) (op : StoreOp) : (s.after now op).Keyed := by
  unfold Store.after
  split
  · next done =>
    refine ⟨fun id => (courier_step done id).named (keyed.couriers id), fun id p found => ?_⟩
    obtain same | ⟨p', -, named, written⟩ := product_step done id
    · exact keyed.products id p (same ▸ found)
    · cases found.symm.trans written
      exact named
  · exact keyed

theorem Keyed.afterAll (keyed : s.Keyed) (ops : List (Timestamp × StoreOp)) : (s.afterAll ops).Keyed := by
  induction ops generalizing s with
  | nil => exact keyed
  | cons x rest ih => exact ih (keyed.after x.1 x.2)

/-- Whatever operations have made a store, records stand under their ids. -/
theorem keyed_afterAll (ops : List (Timestamp × StoreOp)) : (empty.afterAll ops).Keyed :=
  keyed_empty.afterAll ops

/-- A look around lists the couriers that are located within the radius, each once, and the nearest first.
The nearest available courier is the first on the list that is available, so there is none only if nobody
on the list is available, and no available courier within the radius is nearer. Who has no location, or is
at a distance that is no number, is never found. -/
theorem nearest_search (s : Store) (centre : GeoPoint) (radius : Float) :
    (s.nearbyCouriers centre radius).Perm (s.couriers.values.filter (·.Near centre radius)) ∧
    (s.Keyed → ((s.nearbyCouriers centre radius).map Courier.id).Nodup ∧
      ∀ c, c ∈ s.nearbyCouriers centre radius ↔ s.courier? c.id = some c ∧ c.Near centre radius) ∧
    (s.nearbyCouriers centre radius).Pairwise (Courier.InOrder centre) ∧
    (s.nearestAvailable centre radius = none ↔
      ∀ c ∈ s.couriers.values, c.Near centre radius → ¬ c.available) ∧
    (∀ c, s.nearestAvailable centre radius = some c ↔ c.available ∧ ∃ before after,
      s.nearbyCouriers centre radius = before ++ c :: after ∧ ∀ b ∈ before, ¬ b.available) ∧
    (∀ c, s.nearestAvailable centre radius = some c →
      c ∈ s.couriers.values ∧ c.Near centre radius ∧ c.available ∧
      ∀ b ∈ s.couriers.values, b.available → b.Near centre radius → ¬ b.Nearer centre c) ∧
    ∀ c, (∀ d, c.distance? centre = some d → d.isNaN) →
      c ∉ s.nearbyCouriers centre radius ∧ s.nearestAvailable centre radius ≠ some c := by
  have listed {c} (found : s.nearestAvailable centre radius = some c) :
      c ∈ s.nearbyCouriers centre radius := List.mem_of_find?_eq_some found
  refine ⟨nearbyCouriers_perm s centre radius, fun keyed => ⟨?_, fun c => ?_⟩,
    nearbyCouriers_inOrder s centre radius, nearestAvailable_eq_none, fun c => nearestAvailable_eq_some,
    fun c found => ?_, fun c nowhere => ?_⟩
  · exact ((nearbyCouriers_perm s centre radius).map Courier.id).nodup_iff.2
      ((Table.nodup_map_values keyed.couriers).sublist (List.filter_sublist.map Courier.id))
  · rw [mem_nearbyCouriers, Table.mem_values_iff keyed.couriers, courier?]
  · obtain ⟨known, near⟩ := mem_nearbyCouriers.1 (listed found)
    exact ⟨known, near, (nearestAvailable_eq_some.1 found).1,
      fun b known available near => not_nearer_of_nearestAvailable found known available near⟩
  · have unlisted : c ∉ s.nearbyCouriers centre radius := fun member => by
      obtain ⟨d, away, le⟩ := (mem_nearbyCouriers.1 member).2
      have number := (Geo.isNaN_of_le le).1
      rw [nowhere d away] at number
      cases number
    exact ⟨unlisted, fun found => unlisted (listed found)⟩

/-! ## Five couriers at one place -/

namespace Crowd

def depot : GeoPoint := ⟨0.0, 2.5⟩

/-- Two that are available, one that is bound, one that is offline, and one without a location. -/
def couriers : List Courier :=
  [⟨⟨5⟩, .nil, depot, .online, ⟨9⟩, none, ⟨0, 0⟩⟩, ⟨⟨2⟩, .nil, depot, .online, ⟨9⟩, some ⟨8⟩, ⟨0, 0⟩⟩,
    ⟨⟨3⟩, .nil, none, .online, ⟨9⟩, none, ⟨0, 0⟩⟩, ⟨⟨1⟩, .nil, depot, .offline, ⟨9⟩, none, ⟨0, 0⟩⟩,
    ⟨⟨4⟩, .nil, depot, .online, ⟨9⟩, none, ⟨0, 0⟩⟩]

def store : Store := empty.afterAll (couriers.map fun c => (⟨0, 0⟩, .upsertCourier c))

end Crowd

open Crowd in
theorem nearest_search_crowd :
    ((store.nearbyCouriers depot 0.0).map Courier.id).Perm [⟨5⟩, ⟨2⟩, ⟨1⟩, ⟨4⟩] ∧
    store.Keyed ∧ ((store.nearbyCouriers depot 0.0).map Courier.id).Nodup ∧
    (∃ c, store.nearestAvailable depot 0.0 = some c ∧ (c.id = ⟨4⟩ ∨ c.id = ⟨5⟩) ∧
      ∀ b ∈ store.couriers.values, b.available → b.Near depot 0.0 → ¬ b.Nearer depot c) ∧
    ∃ c, store.courier? ⟨3⟩ = some c ∧ c.location = none ∧
      ∀ radius, store.nearestAvailable depot radius ≠ some c := by
  have keyed : store.Keyed := keyed_afterAll _
  have ⟨near, free, there, unlocated⟩ :
      (store.couriers.values.filter (·.Near depot 0.0)).map Courier.id = [⟨5⟩, ⟨2⟩, ⟨1⟩, ⟨4⟩] ∧
      (∀ c ∈ store.couriers.values, c.available → c.id = ⟨4⟩ ∨ c.id = ⟨5⟩) ∧
      (∃ c ∈ store.couriers.values, c.Near depot 0.0 ∧ c.available) ∧
      (store.courier? ⟨3⟩).any (·.location = none) := by
    decide +kernel
  obtain ⟨listed, once, -, nobody, -, found, -⟩ := nearest_search store depot 0.0
  obtain ⟨lost, known, nowhere⟩ := (Option.any_eq_true _ _).1 unlocated
  have nowhere := of_decide_eq_true nowhere
  refine ⟨near ▸ listed.map Courier.id, keyed, (once keyed).1, ?_, lost, known, nowhere, fun radius => ?_⟩
  · cases shown : store.nearestAvailable depot 0.0 with
    | none =>
      obtain ⟨c, member, near, available⟩ := there
      exact absurd available (nobody.1 shown c member near)
    | some c =>
      obtain ⟨member, -, available, least⟩ := found c shown
      exact ⟨c, rfl, free c member available, least⟩
  · obtain ⟨-, -, -, -, -, -, away⟩ := nearest_search store depot radius
    exact (away lost (by simp [Courier.distance?, nowhere])).2

end Store

end CourierDispatch
