import CourierDispatch.Proofs.Conduct.Calls
import CourierDispatch.Proofs.Conduct.Consultation

/-!
# How a route is quoted

A call for a route resolves both ends, looks up the way between them once, and lists what is on offer. So
the provider is asked for no other way (`asked_of_routed`), the route is the way that was found
(`way_of_routed`), and the call fails only with the refusal of what it had asked (`meets_routing`).
-/

namespace CourierDispatch

open Job

variable {c : RouteConfig} {pricer : Pricer} {own past : List Exchange}

/-- A point that an input was resolved to: its own, or that of the place that it names. -/
def PlaceInput.ResolvedTo (input : PlaceInput) (past : List Exchange) (p : GeoPoint) : Prop :=
  if input.location.isZero then
    ∃ place : Place, ⟨.placeDetails input.placeId, .ok place⟩ ∈ past ∧ place.point = p
  else input.location = p

theorem PlaceInput.ResolvedTo.mono {input : PlaceInput} {p : GeoPoint}
    (h : input.ResolvedTo past p) (within : past ⊆ own) : input.ResolvedTo own p := by
  unfold ResolvedTo at h ⊢
  split at h
  · next zero =>
    obtain ⟨place, told, same⟩ := h
    rw [if_pos zero]
    exact ⟨place, within told, same⟩
  · next other => rwa [if_neg other]

/-- The way that an exchange has found to be kept under a key, or has kept there. -/
def Exchange.kept? (key : String) : Exchange → Option Directions
  | ⟨.cacheGet k, .ok (some way)⟩ | ⟨.cacheSet k way _, .ok _⟩ => if k = key then some way else none
  | _ => none

theorem Exchange.eq_of_kept?_cacheGet {key k : String} {way way' : Directions}
    (shown : Exchange.kept? k ⟨.cacheGet key, .ok (some way)⟩ = some way') : way' = way := by
  simp only [kept?] at shown
  split at shown
  · exact (Option.some.inj shown).symm
  · cases shown

theorem Exchange.eq_of_kept?_cacheSet {key k : String} {way way' : Directions} {ttl : Nat}
    {r : Except DispatchError Unit} (shown : Exchange.kept? k ⟨.cacheSet key way ttl, r⟩ = some way') :
    way' = way := by
  cases r with
  | error err => cases shown
  | ok =>
    simp only [kept?] at shown
    split at shown
    · exact (Option.some.inj shown).symm
    · cases shown

/-- An effect that asks for no way but this one. -/
def Effect.Seeks (a b : GeoPoint) (e : Effect) : Prop := ∀ x y, e = .computeRoute x y → x = a ∧ y = b

namespace Quote

variable {pickup dropoff : PlaceInput} {a b : GeoPoint}

/-! ## The parts of a quote -/

theorem resolvedTo_of_resolved {input : PlaceInput} {place : Place}
    (leads : (resolve input).run.Leads own (.done (.ok place))) : input.ResolvedTo own place.point := by
  unfold resolve at leads
  unfold PlaceInput.ResolvedTo
  split at leads
  · next zero =>
    rw [if_pos zero]
    obtain ⟨-, other⟩ | ⟨r, later, rfl, -, told⟩ := Leads.of_act leads
    · cases other
    · obtain ⟨rfl, same⟩ := Leads.of_done told
      cases same
      exact ⟨place, by simp, rfl⟩
  · next other =>
    rw [if_neg other]
    obtain ⟨-, same⟩ := Leads.of_done leads
    cases same
    rfl

theorem seeks_directionsBetween (a b : GeoPoint) :
    Attempt.Only (Effect.Seeks a b) (directionsBetween c a b) := by
  have ask : Attempt.Only (Effect.Seeks a b) (Attempt.directions a b) :=
    ⟨fun x y same => by cases same; exact ⟨rfl, rfl⟩, fun _ => trivial⟩
  have fetch (key : String) : Attempt.Only (Effect.Seeks a b) (fetch c key a b) :=
    Attempt.only_bind ask fun _ => Attempt.only_bind (Attempt.only_perform nofun) fun _ =>
      Attempt.only_pure _
  unfold directionsBetween
  split
  · exact Attempt.only_bind (Attempt.only_perform nofun) fun _ => Attempt.only_bind ask fun _ =>
      Attempt.only_pure _
  · refine Attempt.only_bind (Attempt.only_perform nofun) fun kept => ?_
    split <;> refine Attempt.only_bind (Attempt.only_perform nofun) fun _ => ?_
    · exact Attempt.only_pure _
    · exact Attempt.only_bind (fetch _) fun _ => Attempt.only_pure _
    · exact Attempt.only_bind (fetch _) fun _ => Attempt.only_pure _

theorem kept_directionsBetween (a b : GeoPoint) :
    Meets (fun _ _ => True) (fun past o => ∀ key way, o = some (.ok (key, way)) →
      ∀ x ∈ past, ∀ k way', x.kept? k = some way' → way' = way) [] (directionsBetween c a b).run := by
  unfold directionsBetween
  generalize Geo.routeKey a b = key
  -- Until a way is fetched, nothing is kept.
  have fetched (past : List Exchange) (nothing : ∀ x ∈ past, ∀ k, x.kept? k = none) :
      Meets (fun _ _ => True) (fun past o => ∀ key way, o = some (.ok (key, way)) →
        ∀ x ∈ past, ∀ k way', x.kept? k = some way' → way' = way) past (do
          let way ← fetch c key a b
          return (key, way) : Attempt (String × Directions)).run := by
    refine ⟨trivial, fun answer _ => ?_⟩
    cases answer with
    | error err => exact nofun
    | ok way =>
      refine ⟨trivial, fun r _ => ?_⟩
      rintro _ _ ⟨⟩ x member k way' shown
      simp only [List.mem_cons] at member
      rcases member with rfl | rfl | old
      · exact Exchange.eq_of_kept?_cacheSet shown
      · cases shown
      · rw [nothing x old k] at shown
        cases shown
  split
  · refine ⟨trivial, fun _ _ => ⟨trivial, fun answer _ => ?_⟩⟩
    cases answer with
    | error err => exact nofun
    | ok way =>
      rintro _ _ ⟨⟩ x member k way' shown
      simp only [List.mem_cons, List.not_mem_nil, or_false] at member
      rcases member with rfl | rfl <;> cases shown
  · refine ⟨trivial, fun kept _ => ?_⟩
    rcases kept with err | _ | way
    · exact ⟨trivial, fun _ _ => fetched _ (by simp [Exchange.kept?])⟩
    · exact ⟨trivial, fun _ _ => fetched _ (by simp [Exchange.kept?])⟩
    · refine ⟨trivial, fun _ _ => ?_⟩
      rintro _ _ ⟨⟩ x member k way' shown
      simp only [List.mem_cons, List.not_mem_nil, or_false] at member
      rcases member with rfl | rfl
      · cases shown
      · exact Exchange.eq_of_kept?_cacheGet shown

/-! ## A quote -/

/-- A route that was quoted is the way between the points that both ends were resolved to, and no other
way was found or kept for it. -/
structure Shows (c : RouteConfig) (pickup dropoff : PlaceInput) (own : List Exchange) (route : Route)
    (a b : GeoPoint) (way : Directions) : Prop where
  start : pickup.ResolvedTo own a
  finish : dropoff.ResolvedTo own b
  found : FoundWay c a b own (some (.ok (Geo.routeKey a b, way)))
  only : ∀ x ∈ own, ∀ k way', x.kept? k = some way' → way' = way
  polyline : route.polyline = way.polyline
  distance : route.distanceMeters = way.distanceMeters

theorem kept?_of_common {x : Exchange} (common : x.effect.common) (k : String) : x.kept? k = none := by
  obtain ⟨e, r⟩ := x
  cases e <;> first | rfl | cases common

theorem shows_of_quoted {q : Quote}
    (leads : (make c pricer pickup dropoff).run.Leads own (.done (.ok q))) :
    ∃ a b way, Shows c pickup dropoff own q.route a b way := by
  obtain ⟨start, first, behind, rfl, begins, leads⟩ := Attempt.split_ok leads
  obtain ⟨finish, second, behind, rfl, ends, leads⟩ := Attempt.split_ok leads
  obtain ⟨⟨key, way⟩, third, behind, rfl, looked, leads⟩ := Attempt.split_ok leads
  obtain ⟨listed, fourth, behind, rfl, pricing, leads⟩ := Attempt.split_ok leads
  obtain ⟨rfl, same⟩ := Leads.of_done leads
  cases same
  have found : FoundWay c start.point finish.point third (some (.ok (key, way))) :=
    (meets_directionsBetween start.point finish.point []).of_leads looked
  obtain ⟨rfl, -⟩ := found key way rfl
  have only := (kept_directionsBetween start.point finish.point).of_leads looked _ way rfl
  refine ⟨start.point, finish.point, way, (resolvedTo_of_resolved begins).mono fun x member => ?_,
    (resolvedTo_of_resolved ends).mono fun x member => ?_, found.mono fun x member => ?_,
    fun x member k way' shown => ?_, rfl, rfl⟩
  · simp [member]
  · simp [member]
  · simp [member]
  · have apart (common : x.effect.common) : False := by
      rw [kept?_of_common common] at shown
      cases shown
    simp only [List.nil_append, List.mem_append] at member
    rcases member with (((priced | looked) | ended) | begun)
    · exact (apart (((common_pricedProducts c pricer start.point _).of_leads pricing).2 x priced)).elim
    · exact only x looked k way' shown
    · exact (apart (((common_resolve dropoff).of_leads ends).2 x ended)).elim
    · exact (apart (((common_resolve pickup).of_leads begins).2 x begun)).elim

/-- The only way that is asked for is that between the points that both ends were resolved to. -/
theorem asked_of_quoted {x y : GeoPoint} {next : (Effect.computeRoute x y).Reply → Job (Except DispatchError Quote)}
    (leads : (make c pricer pickup dropoff).run.Leads own (.act (.computeRoute x y) next)) :
    pickup.ResolvedTo own x ∧ dropoff.ResolvedTo own y := by
  have uncommon {α : Type} {a : Attempt α} (only : Attempt.Only (·.common) a) {own : List Exchange}
      {next : (Effect.computeRoute x y).Reply → Job (Except DispatchError α)} :
      ¬ a.run.Leads own (.act (.computeRoute x y) next) := fun leads => by
    have asks := (only.of_leads leads).1.1
    cases asks
  rcases Attempt.split_act leads with ⟨_, inside⟩ | ⟨start, first, behind, rfl, begins, leads⟩
  · exact absurd inside (uncommon (common_resolve pickup))
  rcases Attempt.split_act leads with ⟨_, inside⟩ | ⟨finish, second, behind, rfl, ends, leads⟩
  · exact absurd inside (uncommon (common_resolve dropoff))
  rcases Attempt.split_act leads with ⟨_, inside⟩ | ⟨⟨key, way⟩, third, behind, rfl, looked, leads⟩
  · obtain ⟨rfl, rfl⟩ := ((seeks_directionsBetween (c := c) _ _).of_leads inside).1.1 x y rfl
    refine ⟨(resolvedTo_of_resolved begins).mono fun x member => ?_,
      (resolvedTo_of_resolved ends).mono fun x member => ?_⟩ <;> simp [member]
  · have rest : Attempt.Only (·.common) (do
        let products ← pricedProducts c pricer start.point way.distanceMeters
        return (⟨start, finish, key, ⟨way.polyline, way.distanceMeters, products⟩⟩ : Quote)) :=
      Attempt.only_bind (common_pricedProducts c pricer start.point _) fun _ => Attempt.only_pure _
    exact absurd leads (uncommon rest)

/-! ## Refusals -/

/-- A process was refused a place, a way, or the products on offer. -/
def Refused (past : List Exchange) (err : DispatchError) : Prop :=
  (∃ id, ⟨.placeDetails id, .error err⟩ ∈ past) ∨ (∃ a b, ⟨.computeRoute a b, .error err⟩ ∈ past) ∨
    ∃ centre radius, ⟨.store (.nearbyProducts centre radius), .error err⟩ ∈ past

/-- An attempt that comes to an end, and fails only with such a refusal. -/
def Settles {α : Type} (attempt : Attempt α) : Prop :=
  ∀ past, Meets (fun _ _ => True)
    (fun past o => ∃ r, o = some r ∧ ∀ err, r = .error err → Refused past err) past attempt.run

variable {α β : Type}

theorem settles_pure (v : α) : Settles (pure v) := fun _ => ⟨_, rfl, nofun⟩

theorem Settles.bind {attempt : Attempt α} {f : α → Attempt β} (first : Settles attempt)
    (second : ∀ v, Settles (f v)) : Settles (attempt >>= f) := by
  intro past
  refine (first past).bind (fun past broken => ?_) fun past r ended => ?_
  · obtain ⟨r, other, -⟩ := broken
    cases other
  · cases r with
    | ok v => exact second v past
    | error err =>
      obtain ⟨r, same, refused⟩ := ended
      cases same
      refine ⟨_, rfl, ?_⟩
      rintro _ ⟨⟩
      exact refused err rfl

theorem settles_perform (e : Effect) : Settles (Attempt.perform e) :=
  fun _ => ⟨trivial, fun _ _ => ⟨_, rfl, nofun⟩⟩

theorem settles_resolve (input : PlaceInput) : Settles (resolve input) := by
  unfold resolve
  split
  · refine fun past => ⟨trivial, fun r _ => ⟨r, rfl, ?_⟩⟩
    rintro err rfl
    exact .inl ⟨_, List.mem_cons_self⟩
  · exact settles_pure _

theorem settles_directions (a b : GeoPoint) : Settles (Attempt.directions a b) := by
  refine fun past => ⟨trivial, fun r _ => ⟨r, rfl, ?_⟩⟩
  rintro err rfl
  exact .inr (.inl ⟨a, b, List.mem_cons_self⟩)

theorem settles_directionsBetween (a b : GeoPoint) : Settles (directionsBetween c a b) := by
  have fetch (key : String) : Settles (fetch c key a b) :=
    (settles_directions a b).bind fun _ => (settles_perform _).bind fun _ => settles_pure _
  unfold directionsBetween
  split
  · exact (settles_perform _).bind fun _ => (settles_directions a b).bind fun _ => settles_pure _
  · refine (settles_perform _).bind fun kept => ?_
    split <;> refine (settles_perform _).bind fun _ => ?_
    · exact settles_pure _
    · exact (fetch _).bind fun _ => settles_pure _
    · exact (fetch _).bind fun _ => settles_pure _

/-- A way is not found only where the provider refuses it. -/
theorem refused_of_directionsBetween {err : DispatchError}
    (leads : (directionsBetween c a b).run.Leads own (.done (.error err))) :
    ⟨.computeRoute a b, .error err⟩ ∈ own := by
  obtain ⟨r, same, refused⟩ := (settles_directionsBetween a b []).of_leads leads
  cases same
  have looksUp := ((looksUp_directionsBetween c a b).of_leads leads).2
  rcases refused err rfl with ⟨id, asked⟩ | ⟨x, y, asked⟩ | ⟨centre, radius, asked⟩
  · cases looksUp _ asked
  · obtain ⟨rfl, rfl⟩ := ((seeks_directionsBetween a b).of_leads leads).2 _ asked x y rfl
    exact asked
  · cases looksUp _ asked

theorem settles_make (pickup dropoff : PlaceInput) : Settles (make c pricer pickup dropoff) := by
  refine (settles_resolve pickup).bind fun pickup => ?_
  refine (settles_resolve dropoff).bind fun dropoff => ?_
  refine (settles_directionsBetween _ _).bind fun way => ?_
  refine Settles.bind (Settles.bind ?_ fun _ => settles_pure _) fun _ => settles_pure _
  refine fun past => ⟨trivial, fun r _ => ⟨r, rfl, ?_⟩⟩
  rintro err rfl
  exact .inr (.inr ⟨_, _, List.mem_cons_self⟩)

end Quote

/-! ## A call for a route -/

/-- The job that answers a call for a route. -/
def routing (c : Config) (pickup dropoff : PlaceInput) : Job Result :=
  Result.answer <$> (Call.computeRoute pickup dropoff).job c

/-- The answer to a call for a route. -/
def Quote.routed : Except DispatchError Quote → Result
  | .ok q => .answer (.route q.route)
  | .error err => .answer (.refused err)

theorem routing_eq (c : Config) (pickup dropoff : PlaceInput) : routing c pickup dropoff =
    Quote.routed <$> (Quote.make c.routing c.pricer pickup dropoff).run := by
  have routed : (Dispatch.computeRoute c pickup dropoff).run =
      (Quote.make c.routing c.pricer pickup dropoff).run >>= fun r => .done (r.map Quote.route) :=
    congrArg (Job.bind _) (funext fun r => by cases r <;> rfl)
  change ((Dispatch.computeRoute c pickup dropoff).run >>= _) >>= _ = _
  rw [routed, Job.bind_assoc, Job.bind_assoc]
  exact congrArg (Job.bind _) (funext fun r => by cases r <;> rfl)

section

variable {c : Config} {pickup dropoff : PlaceInput}

/-- What a process asks for that answers a call for a route. -/
theorem asked_of_routing {x y : GeoPoint} {next : (Effect.computeRoute x y).Reply → Job Result}
    (leads : (routing c pickup dropoff).Leads own (.act (.computeRoute x y) next)) :
    pickup.ResolvedTo own x ∧ dropoff.ResolvedTo own y := by
  rw [routing_eq] at leads
  obtain ⟨j, inside, same⟩ := leads.of_map
  cases j with
  | done | panic => cases same
  | act e next' =>
    cases same
    exact Quote.asked_of_quoted inside

/-- The route that is answered was quoted. -/
theorem quoted_of_routing {route : Route}
    (leads : (routing c pickup dropoff).Leads own (.done (.answer (.route route)))) :
    ∃ q, q.route = route ∧ (Quote.make c.routing c.pricer pickup dropoff).run.Leads own (.done (.ok q)) := by
  rw [routing_eq] at leads
  obtain ⟨j, inside, same⟩ := leads.of_map
  cases j with
  | done r =>
    cases r with
    | error err => cases same
    | ok q =>
      cases same
      exact ⟨q, rfl, inside⟩
  | panic | act => cases same

theorem shows_of_routing {route : Route}
    (leads : (routing c pickup dropoff).Leads own (.done (.answer (.route route)))) :
    ∃ a b way, Quote.Shows c.routing pickup dropoff own route a b way := by
  obtain ⟨q, rfl, quoted⟩ := quoted_of_routing leads
  exact Quote.shows_of_quoted quoted

/-- How such a call ends. -/
theorem meets_routing (c : Config) (pickup dropoff : PlaceInput) :
    Meets (fun _ _ => True) (fun past o => (∃ route, o = some (.answer (.route route))) ∨
      ∃ err, o = some (.answer (.refused err)) ∧ Quote.Refused past err) []
      (routing c pickup dropoff) := by
  rw [routing_eq]
  refine ((Quote.settles_make pickup dropoff []).mono (fun _ _ _ => trivial) fun past o ended => ?_).map
  obtain ⟨r, rfl, refused⟩ := ended
  cases r with
  | ok q => exact .inl ⟨q.route, rfl⟩
  | error err => exact .inr ⟨err, rfl, refused err rfl⟩

end

end CourierDispatch
