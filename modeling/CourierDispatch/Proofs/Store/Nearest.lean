import CourierDispatch.Proofs.Store.Change

/-!
# What a look around finds

A look around lists the couriers that are located within the radius (`nearbyCouriers_perm`), and the first
on the list that is available is the nearest one. It is a courier of the store, and when couriers are kept
under their ids it is the one with its id (`known_of_nearestAvailable`). If nobody is found, nobody is
there (`deserted_of_nearestAvailable`).
-/

namespace CourierDispatch

namespace Table

variable {κ ν : Type} [DecidableEq κ] {t : Table κ ν} {key : κ} {v : ν}

theorem get?_of_mem_rows (member : (key, v) ∈ t.rows) : t.get? key = some v := by
  obtain ⟨before, after, rows⟩ := List.append_of_mem member
  refine List.lookup_eq_some_iff.2 ⟨before, after, rows, fun other earlier => ?_⟩
  have distinct := t.distinct
  rw [rows, List.map_append, List.map_cons, List.nodup_append] at distinct
  simpa using (distinct.2.2 other.1 (List.mem_map_of_mem earlier) key List.mem_cons_self).symm

/-- A value of a table stands under some key. -/
theorem get?_of_mem_values (member : v ∈ t.values) : ∃ key, t.get? key = some v := by
  obtain ⟨⟨key, _⟩, row, rfl⟩ := List.mem_map.1 member
  exact ⟨key, get?_of_mem_rows row⟩

end Table

namespace Courier

variable {centre : GeoPoint} {radius : Float} {c : Courier}

/-- How far from a point a courier is, if it has a location. -/
def distance? (centre : GeoPoint) (c : Courier) : Option Float := c.location.map (Geo.distance centre)

/-- A courier that is located within a radius of a point. -/
def Near (centre : GeoPoint) (radius : Float) (c : Courier) : Prop :=
  ∃ d, c.distance? centre = some d ∧ d ≤ radius

instance : Decidable (c.Near centre radius) :=
  decidable_of_iff ((c.distance? centre).any (· ≤ radius)) (by simp [Near, Option.any_eq_true])

theorem near_iff_within :
    c.Near centre radius ↔ ∃ p, c.location = some p ∧ Geo.within centre radius p := by
  constructor
  · rintro ⟨d, away, le⟩
    obtain ⟨p, located, rfl⟩ := Option.map_eq_some_iff.1 away
    exact ⟨p, located, decide_eq_true le⟩
  · rintro ⟨p, located, near⟩
    exact ⟨_, congrArg (Option.map _) located, of_decide_eq_true near⟩

end Courier

namespace Store

variable {s : Store} {centre : GeoPoint} {radius : Float} {c : Courier}

/-! ## The list -/

theorem hit?_eq_some {x : Float × Courier} :
    hit? centre radius c = some x ↔ c.distance? centre = some x.1 ∧ x.1 ≤ radius ∧ x.2 = c := by
  obtain ⟨d, c'⟩ := x
  unfold hit? Courier.distance?
  cases c.location with
  | none => simp
  | some p =>
    dsimp only [Option.map_some]
    constructor
    · intro hit
      split at hit
      · next near => cases hit; exact ⟨rfl, near, rfl⟩
      · cases hit
    · rintro ⟨⟨⟩, near, rfl⟩
      rw [if_pos near]

theorem map_hit? : (hit? centre radius c).map Prod.snd =
    Option.guard (fun c => decide (c.Near centre radius)) c := by
  cases hit : hit? centre radius c with
  | none =>
    have far : ¬ c.Near centre radius := by
      rintro ⟨d, away, le⟩
      cases hit.symm.trans (hit?_eq_some.2 ⟨away, le, rfl⟩ : hit? centre radius c = some (d, c))
    simp [Option.guard, far]
  | some x =>
    obtain ⟨away, le, rfl⟩ := hit?_eq_some.1 hit
    have near : x.2.Near centre radius := ⟨x.1, away, le⟩
    simp [Option.guard, near]

theorem nearbyCouriers_perm (s : Store) (centre : GeoPoint) (radius : Float) :
    (s.nearbyCouriers centre radius).Perm (s.couriers.values.filter (·.Near centre radius)) := by
  have listed : (s.couriers.values.filterMap (hit? centre radius)).map Prod.snd =
      s.couriers.values.filter (·.Near centre radius) := by
    rw [List.map_filterMap, funext fun c => map_hit?, List.filterMap_eq_filter]
  exact listed ▸ (List.mergeSort_perm _ _).map Prod.snd

theorem mem_nearbyCouriers :
    c ∈ s.nearbyCouriers centre radius ↔ c ∈ s.couriers.values ∧ c.Near centre radius := by
  rw [(nearbyCouriers_perm s centre radius).mem_iff, List.mem_filter, decide_eq_true_eq]

/-! ## The first on the list -/

theorem nearestAvailable_eq_none : s.nearestAvailable centre radius = none ↔
    ∀ c ∈ s.couriers.values, c.Near centre radius → ¬ c.available := by
  rw [nearestAvailable, List.find?_eq_none]
  exact ⟨fun h c known near => h c (mem_nearbyCouriers.2 ⟨known, near⟩),
    fun h c listed => h c (mem_nearbyCouriers.1 listed).1 (mem_nearbyCouriers.1 listed).2⟩

theorem nearestAvailable_eq_some : s.nearestAvailable centre radius = some c ↔ c.available ∧
    ∃ before after, s.nearbyCouriers centre radius = before ++ c :: after ∧ ∀ b ∈ before, ¬ b.available := by
  rw [nearestAvailable, List.find?_eq_some_iff_append]
  simp

/-- The nearest available courier is available, within the radius, and in the store. -/
theorem nearestAvailable_some (found : s.nearestAvailable centre radius = some c) :
    c.available ∧ (∃ p, c.location = some p ∧ Geo.within centre radius p) ∧
      ∃ key, s.courier? key = some c := by
  obtain ⟨known, near⟩ := mem_nearbyCouriers.1 (List.mem_of_find?_eq_some found)
  exact ⟨List.find?_some found, Courier.near_iff_within.1 near, Table.get?_of_mem_values known⟩

/-- No available courier of a store is within a radius of a place. -/
def Deserted (s : Store) (centre : GeoPoint) (radius : Float) : Prop :=
  ∀ id c place, s.courier? id = some c → c.available → c.location = some place →
    Geo.within centre radius place = false

theorem deserted_of_nearestAvailable (nobody : s.nearestAvailable centre radius = none) :
    s.Deserted centre radius := by
  intro id c place known available located
  exact Bool.eq_false_iff.2 fun near => nearestAvailable_eq_none.1 nobody c
    (Table.mem_values_of_get? known) (Courier.near_iff_within.2 ⟨place, located, near⟩) available

/-- Where couriers are kept under their ids, the nearest one is kept under its own. -/
theorem known_of_nearestAvailable (keyed : ∀ id c, s.courier? id = some c → c.id = id)
    (found : s.nearestAvailable centre radius = some c) : s.courier? c.id = some c := by
  obtain ⟨-, -, key, known⟩ := nearestAvailable_some found
  rwa [keyed key c known]

end Store

end CourierDispatch
