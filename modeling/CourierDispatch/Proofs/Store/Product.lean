import CourierDispatch.Proofs.Store.Nearest

/-!
# Products in the store

A product is recorded under its id and never changed afterwards, as long as no other product is recorded
under the same id (`product_step`). What is on offer around a place are products of the store.
-/

namespace CourierDispatch.Store

variable {s s' : Store} {now : Timestamp} {op : StoreOp} {a : op.Answer} {id : Uuid} {p : Product}

/-- What an accepted operation makes of the product with an id. -/
theorem product_step (h : s.perform now op = .ok (a, s')) (id : Uuid) :
    s'.product? id = s.product? id ∨
      ∃ p, op = .upsertProduct p ∧ p.id = id ∧ s'.product? id = some p := by
  cases op with
  | upsertProduct p =>
    cases h
    have written : ({ s with products := s.products.insert p.id p } : Store).product? id =
        if id = p.id then some p else s.product? id := Table.get?_insert ..
    by_cases own : id = p.id
    · rw [if_pos own] at written
      exact .inr ⟨p, rfl, own.symm, written⟩
    · rw [if_neg own] at written
      exact .inl written
  | createTrip key request => cases h; exact .inl rfl
  | setTripStatus key status =>
    obtain ⟨t, -, -, rfl, rfl⟩ := setTripStatus_ok h
    exact .inl rfl
  | setTripCost key cost =>
    obtain ⟨t, -, rfl⟩ := setTripCost_ok h
    exact .inl rfl
  | setConfirmedPickup key p =>
    obtain ⟨t, -, rfl, rfl⟩ := updateTrip_ok h
    exact .inl rfl
  | assignCourier trip courier =>
    obtain ⟨t, c, -, -, -, -, -, rfl⟩ := assignCourier_ok h
    exact .inl rfl
  | unassignTrip trip =>
    obtain ⟨t, -, ⟨_, _, -, -, -, rfl⟩ | ⟨rfl, -⟩⟩ := unassignTrip_ok h <;> exact .inl rfl
  | updateCourierLocation key p =>
    obtain ⟨c, -, rfl, rfl⟩ := updateCourier_ok h
    exact .inl rfl
  | updateCourierStatus key status =>
    obtain ⟨c, -, rfl, rfl⟩ := updateCourier_ok h
    exact .inl rfl
  | upsertCourier | getTrip | getCourier | getProduct | nearestAvailableCourier | nearbyCouriers
  | listProducts | nearbyProducts => cases h; exact .inl rfl

/-- Where products are kept under their ids, those on offer are kept under their own. -/
theorem product?_of_offered {centre : GeoPoint} {radius : Float}
    (keyed : ∀ id p, s.product? id = some p → p.id = id)
    (offered : p ∈ s.nearbyProducts centre radius) : s.product? p.id = some p := by
  obtain ⟨⟨key, _⟩, row, rfl⟩ := List.mem_map.1 (List.mem_mergeSort.1 offered)
  have known := Table.get?_of_mem_rows (List.mem_filter.1 row).1
  rwa [keyed key _ known]

end CourierDispatch.Store
