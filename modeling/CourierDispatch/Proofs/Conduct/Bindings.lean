import CourierDispatch.Proofs.Conduct.Composition

/-!
# Around bindings and new records

What every process keeps to that does not compute a fare (`Deals`). The fare of a binding is asked for
right behind the binding, and of nothing else; no cost is written. A trip is made from the quote that
was computed just before, under an id that was drawn in between, and a courier is recorded for a product
that was seen.
-/

namespace CourierDispatch

open Job

/-- The binding whose fare an effect asks for. -/
def Effect.fare? : Effect → Option (Uuid × Uuid)
  | .startFare trip courier => some (trip, courier)
  | _ => none

/-- The binding that was accepted last of all. -/
def boundLast (past : List Exchange) : Option (Uuid × Uuid) := past.head?.bind Exchange.bound?

/-- A quote has just been computed, and an id was drawn behind it. -/
def Quoted (c : Config) (past : List Exchange) (q : Quote) : Prop :=
  ∃ pickup dropoff id own before, past = ⟨.drawId, id⟩ :: (own ++ before) ∧
    (Dispatch.quote c pickup dropoff).run.Leads own (.done (.ok q))

/-- A trip is requested as it was quoted. -/
structure TripRequest.Quotes (r : TripRequest) (q : Quote) : Prop where
  start : r.start = q.pickup.point
  finish : r.finish = q.dropoff.point
  route : r.route = some q.routeRef

structure Deals (c : Config) (past : List Exchange) (e : Effect) : Prop where
  fares : e.fare? = boundLast past
  quoted : ∀ id request, e = .store (.createTrip id request) →
    ∃ q, Quoted c past q ∧ request.Quotes q
  stocked : ∀ courier, e = .store (.upsertCourier courier) →
    ∃ p, ⟨.store (.getProduct courier.productId), .ok (some p)⟩ ∈ past
  unpriced : ∀ trip cost, e ≠ .store (.setTripCost trip cost)

variable {α β : Type} {c : Config} {past : List Exchange} {e : Effect}

theorem bound?_of_aloof (aloof : e.aloof) (r : e.Reply) : Exchange.bound? ⟨e, r⟩ = none := by
  cases e with
  | store op => cases op <;> first | rfl | cases aloof
  | _ => rfl

theorem deals_of_aloof (aloof : e.aloof) (settled : boundLast past = none) : Deals c past e where
  fares := by
    rw [settled]
    cases e <;> first | rfl | cases aloof
  quoted id request same := by subst same; cases aloof
  stocked courier same := by subst same; cases aloof
  unpriced trip cost same := by subst same; cases aloof

/-- A job that keeps to it, and leaves no binding without a fare. -/
def Binds (c : Config) (j : Job α) : Prop :=
  ∀ past, boundLast past = none → Meets (Deals c) (fun past _ => boundLast past = none) past j

theorem binds_trip (requester : Uuid) (pickup dropoff : PlaceInput) :
    Binds c (Dispatch.createTrip c requester pickup dropoff).run := by
  intro past settled
  have inquires := Quote.inquires_make c.routing c.pricer pickup dropoff
  have deals : Meets (Deals c) (fun past o => boundLast past = none ∧ ∃ r, o = some r ∧ True) past
      (Dispatch.quote c pickup dropoff).run :=
    inquires.meets settled
      (fun _ _ settled asks => deals_of_aloof (c := c) (Effect.aloof_of_inquires asks) settled)
      fun _ _ r _ asks => bound?_of_aloof (Effect.aloof_of_inquires asks) r
  have quoting : Meets (Deals c) (fun past' o => boundLast past' = none ∧
      ∃ own, past' = own ++ past ∧ ∀ r, o = some r →
        (Dispatch.quote c pickup dropoff).run.Leads own (.done r)) past
      (Dispatch.quote c pickup dropoff).run :=
    (deals.and (meets_own _ past)).mono (fun _ _ h => h.1) fun _ _ h => ⟨h.1.1, h.2⟩
  refine quoting.bind (fun _ broken => broken.1) fun past' r ended => ?_
  obtain ⟨settled, own, rfl, leads⟩ := ended
  cases r with
  | error e => exact settled
  | ok q =>
    refine ⟨deals_of_aloof rfl settled, fun id _ => ⟨⟨rfl, ?_, nofun, nofun⟩, fun r _ => ?_⟩⟩
    · rintro _ _ ⟨⟩
      exact ⟨q, ⟨pickup, dropoff, id, own, past, rfl, leads _ rfl⟩, rfl, rfl, rfl⟩
    · cases r with
      | error e => rfl
      | ok t => exact ⟨deals_of_aloof rfl rfl, fun _ _ => rfl⟩

theorem binds_binding (trip courier : Uuid) : Binds c (Search.assign trip courier).run := by
  intro past settled
  refine ⟨⟨settled ▸ rfl, nofun, nofun, nofun⟩, fun r _ => ?_⟩
  cases r with
  | error e => rfl
  | ok _ => exact ⟨⟨rfl, nofun, nofun, nofun⟩, fun _ _ => rfl⟩

theorem binds_courier (n : Http.NewCourier) : Binds c (Http.createCourier n).run := by
  intro past settled
  refine ⟨deals_of_aloof rfl settled, fun r _ => ?_⟩
  rcases r with e | _ | p
  · rfl
  · rfl
  · refine ⟨deals_of_aloof rfl rfl, fun id _ => ⟨deals_of_aloof rfl rfl, fun now _ => ?_⟩⟩
    refine ⟨⟨rfl, nofun, ?_, nofun⟩, fun r _ => ?_⟩
    · rintro _ ⟨⟩
      exact ⟨p, by simp⟩
    · cases r <;> rfl

theorem Composed.binds {j : Job α} (h : Composed c j) : Binds c j := by
  induction h with
  | pure a => exact fun _ settled => settled
  | panic => exact fun _ settled => settled
  | bind _ _ first second =>
    exact fun past settled => (first past settled).bind (fun _ settled => settled)
      fun past a => second a past
  | perform aloof =>
    exact fun past settled => ⟨deals_of_aloof aloof settled, fun r _ => bound?_of_aloof aloof r⟩
  | trip => exact binds_trip _ _ _
  | binding => exact binds_binding _ _
  | courier => exact binds_courier _

end CourierDispatch
