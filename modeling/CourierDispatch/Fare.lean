import CourierDispatch.Quote

/-!
# Recording a fare

Once a courier is bound, the trip is priced in the background for the courier's product and the
cost is written to the trip. Whatever is missing or fails on the way ends the computation
without a cost. This is `record_fare`, a task of its own behind each binding.
-/

namespace CourierDispatch.Fare

/-- Prices a trip for the product of its courier and records the cost. -/
def record (c : RouteConfig) (pricer : Pricer) (trip courier : Uuid) : Attempt UInt64 := do
  let t ← Attempt.orElse (.tripNotFound trip) (← Attempt.store (.getTrip trip))
  let bound ← Attempt.orElse (.courierNotFound courier) (← Attempt.store (.getCourier courier))
  let product ← Attempt.orElse (.productNotFound bound.productId)
    (← Attempt.store (.getProduct bound.productId))
  let cost ← Quote.priceTrip c pricer t product
  Attempt.store (.setTripCost trip cost)
  return cost

end CourierDispatch.Fare
