import CourierDispatch.Proofs.Geo.Rounding
import CourierDispatch.Proofs.Service.Keeping
import CourierDispatch.Proofs.Service.Trial
import CourierDispatch.Proofs.Service.Turns

/-!
# Asking for a way twice

A call for a route leaves its way in the cache, whether it has found it there or asked for it. A later call
whose ends are rounded to the same numbers finds it there and spares the provider, as long as it has not
expired; but not where a coordinate that is rounded to zero has the other sign, since its text keeps the
sign (`asks_again_iff`).
-/

namespace CourierDispatch

open Job

/-- The point that an input stands for. -/
def Surroundings.point? (around : Surroundings) (input : PlaceInput) : Option GeoPoint :=
  if input.location.isZero then (around.placeDetails input.placeId).toOption.map Place.point
  else some input.location

/-- An exchange in which the cache could not be read or written. -/
def Exchange.uncached : Exchange → Bool
  | ⟨.cacheGet _, .error _⟩ | ⟨.cacheSet .., .error _⟩ => true
  | _ => false

/-- A move by which nobody writes to the cache himself. -/
def Move.keepsNothing : Move → Bool
  | .enter call => call.keepsNothing
  | _ => true

namespace World

variable {w w₁ w₂ : World} {pickup dropoff pickup' dropoff' : PlaceInput} {moves moves' : List Move}
  {pid : Nat} {calls : Call → Prop} {route : Route}

/-! ## A call for a route -/

/-- A call for a route comes in, and then these moves are made. -/
def visit (w : World) (pickup dropoff : PlaceInput) (moves : List Move) : World :=
  w.run (.enter (.computeRoute pickup dropoff) :: moves)

/-- The process that answers the call is the next one. -/
theorem Traced.visit (h : w.Traced calls) (pickup dropoff : PlaceInput) (moves : List Move) :
    (w.visit pickup dropoff moves).Follows w.processes.length (routing w.config pickup dropoff) :=
  h.follows (.computeRoute pickup dropoff) moves

theorem Sourced.point?_eq (h : w.Sourced) {input : PlaceInput} {p : GeoPoint}
    (resolved : input.ResolvedTo (w.trace pid) p) : w.around.point? input = some p := by
  unfold PlaceInput.ResolvedTo at resolved
  unfold Surroundings.point?
  split at resolved
  · next zero =>
    obtain ⟨place, told, rfl⟩ := resolved
    obtain ⟨x, noted, -, exchange⟩ := mem_traceOf.1 told
    rw [if_pos zero, h.placed x noted _ _ exchange]
    rfl
  · next other => rw [if_neg other, resolved]

section

variable (traced : w.Traced (·.keepsNothing))

include traced

/-- What a process keeps it has asked for. -/
theorem Traced.asked_of_kept {key : String} {way : Directions} {ttl : Nat} {r : Except DispatchError Unit}
    (kept : ⟨.cacheSet key way ttl, r⟩ ∈ w.trace pid) :
    ∃ x y, key = Geo.routeKey x y ∧ ⟨.computeRoute x y, .ok way⟩ ∈ w.trace pid := by
  obtain ⟨later, past, split⟩ := List.append_of_mem kept
  obtain ⟨-, -, x, y, keyed, asked⟩ := (traced.consults split).keeps key way ttl rfl
  exact ⟨x, y, keyed, by simp [split, asked]⟩

variable (sourced : w.Sourced) (follows : w.Follows pid (routing w.config pickup dropoff))

include sourced follows

/-- The provider is asked only for the way between the ends, and only if it was not found. -/
theorem Traced.asked_of_visit {x y : GeoPoint} {r : Except DispatchError Directions}
    (asked : ⟨.computeRoute x y, r⟩ ∈ w.trace pid) :
    w.around.point? pickup = some x ∧ w.around.point? dropoff = some y ∧
      (w.config.cacheEnabled → ∃ r', ⟨.cacheGet (Geo.routeKey x y), r'⟩ ∈ w.trace pid ∧
        ∀ way, r' ≠ .ok (some way)) := by
  obtain ⟨later, past, split⟩ := List.append_of_mem asked
  obtain ⟨p, job, -, leads, -⟩ := follows
  rw [split] at leads
  obtain ⟨own, next, rfl, before⟩ := (meets_own (routing w.config pickup dropoff) []).asked leads
  rw [List.append_nil] at split
  obtain ⟨first, second⟩ := asked_of_routing before
  have within : own ⊆ w.trace pid := by
    intro z member
    simp [split, member]
  refine ⟨sourced.point?_eq (first.mono within), sourced.point?_eq (second.mono within), fun on => ?_⟩
  obtain ⟨r', read, missed⟩ := (traced.consults split).asks x y rfl on
  exact ⟨r', within read, missed⟩

omit traced in
/-- The route that is answered is the way between the ends. -/
theorem Sourced.shows_of_visit {task : Task}
    (ended : w.processes[pid]? = some ⟨task, .ended (.answer (.route route))⟩) :
    ∃ a b way, w.around.point? pickup = some a ∧ w.around.point? dropoff = some b ∧
      Quote.Shows w.config.routing pickup dropoff (w.trace pid) route a b way := by
  obtain ⟨p, job, found, leads, reached⟩ := follows
  rw [ended] at found
  cases found
  cases (show job = _ from reached)
  obtain ⟨a, b, way, shows⟩ := shows_of_routing leads
  exact ⟨a, b, way, sourced.point?_eq shows.start, sourced.point?_eq shows.finish, shows⟩

end

/-! ## Two calls -/

/-- A call for a route has been answered, and then another one has come in. -/
structure Revisits (w : World) (pickup dropoff : PlaceInput) (moves : List Move) (w₁ : World)
    (route : Route) (pickup' dropoff' : PlaceInput) (moves' : List Move) (w₂ : World) : Prop where
  reach : w.Reachable (Enters (·.keepsNothing))
  harmless : (moves ++ moves').all Move.keepsNothing
  first : w.visit pickup dropoff moves = w₁
  answered : w₁.processes[w.processes.length]? = some ⟨.call, .ended (.answer (.route route))⟩
  second : w₁.visit pickup' dropoff' moves' = w₂

/-- The cache has refused a process nothing. -/
def CacheServes (w : World) (pid : Nat) : Prop := ∀ x ∈ w.trace pid, x.uncached = false

instance : Decidable (w.CacheServes pid) :=
  inferInstanceAs (Decidable (∀ x ∈ w.trace pid, x.uncached = false))

theorem obeys_of_keepsNothing (harmless : moves.all Move.keepsNothing) :
    w.Obeys (Enters (·.keepsNothing)) moves := by
  refine .of_all harmless ?_
  rintro w m harmless call rfl
  exact harmless

namespace Revisits

variable (h : w.Revisits pickup dropoff moves w₁ route pickup' dropoff' moves' w₂)

include h

theorem obeys : w.Obeys (Enters (·.keepsNothing)) (.enter (.computeRoute pickup dropoff) :: moves) ∧
    w₁.Obeys (Enters (·.keepsNothing)) (.enter (.computeRoute pickup' dropoff') :: moves') := by
  have harmless := h.harmless
  rw [List.all_append, Bool.and_eq_true] at harmless
  exact ⟨obeys_of_keepsNothing (by rw [List.all_cons, harmless.1]; rfl),
    obeys_of_keepsNothing (by rw [List.all_cons, harmless.2]; rfl)⟩

theorem reach_between : w₁.Reachable (Enters (·.keepsNothing)) := h.first ▸ h.reach.run h.obeys.1

theorem reach_after : w₂.Reachable (Enters (·.keepsNothing)) :=
  h.second ▸ h.reach_between.run h.obeys.2

theorem traced_before : w.Traced (·.keepsNothing) := h.reach.traced fun _ _ => id

theorem traced_between : w₁.Traced (·.keepsNothing) := h.reach_between.traced fun _ _ => id

theorem traced : w₂.Traced (·.keepsNothing) := h.reach_after.traced fun _ _ => id

theorem sourced : w₂.Sourced := h.reach_after.sourced fun _ _ => id

theorem given : w₁.config = w.config ∧ w₁.around = w.around ∧ w₂.config = w.config ∧
    w₂.around = w.around := by
  obtain ⟨config, around⟩ := given_run w (.enter (.computeRoute pickup dropoff) :: moves)
  obtain ⟨config', around'⟩ := given_run w₁ (.enter (.computeRoute pickup' dropoff') :: moves')
  rw [← visit, h.first] at config around
  rw [← visit, h.second] at config' around'
  exact ⟨config, around, config'.trans config, around'.trans around⟩

theorem follows_first : w₂.Follows w.processes.length (routing w₂.config pickup dropoff) := by
  have follows := h.traced_before.visit pickup dropoff moves
  rw [h.first] at follows
  have follows := follows.run (.enter (.computeRoute pickup' dropoff') :: moves')
  rwa [← visit, h.second, ← h.given.2.2.1] at follows

theorem follows_second : w₂.Follows w₁.processes.length (routing w₂.config pickup' dropoff') := by
  have follows := h.traced_between.visit pickup' dropoff' moves'
  rwa [h.second, h.given.1, ← h.given.2.2.1] at follows

theorem ended : w₂.processes[w.processes.length]? =
    some ⟨.call, .ended (.answer (.route route))⟩ := by
  have ended := ended_run h.answered (.enter (.computeRoute pickup' dropoff') :: moves')
  rwa [← visit, h.second] at ended

variable {a b a' b' : GeoPoint} (start : w.around.point? pickup = some a)
  (finish : w.around.point? dropoff = some b) (caching : w.config.cacheEnabled)

section

include start finish caching

/-- The first call has left its way in the cache. -/
theorem shown (serves : w₁.CacheServes w.processes.length) :
    ∃ way, w₁.Shown w.processes.length (Geo.routeKey a b) way := by
  have sourced : w₁.Sourced := h.reach_between.sourced fun _ _ => id
  have follows := h.traced_before.visit pickup dropoff moves
  obtain ⟨config, around, -⟩ := h.given
  rw [h.first, ← config] at follows
  obtain ⟨x, y, way, first, second, shows⟩ := sourced.shows_of_visit follows h.answered
  rw [around] at first second
  obtain rfl : a = x := Option.some.inj (start.symm.trans first)
  obtain rfl : b = y := Option.some.inj (finish.symm.trans second)
  have on : w₁.config.routing.cacheEnabled := config ▸ caching
  obtain ⟨-, ⟨-, read⟩ | ⟨-, written⟩⟩ := shows.found _ _ rfl
  · exact ⟨way, _, read, by simp [Exchange.kept?]⟩
  · obtain ⟨r, written⟩ := written on
    cases r with
    | error err => cases serves _ written
    | ok => exact ⟨way, _, written, by simp [Exchange.kept?]⟩

/-- What it has left is what the second call finds under that key. -/
theorem hits (serves : w₁.CacheServes w.processes.length) (ticks : w.around.Ticks)
    (lasting : w.Lasting (Geo.routeKey a b) w₂.cacheTime)
    (fresh : w₂.cacheTime < w.cacheTime + w.config.routing.cacheTtl) :
    w.Hits w₂ w.processes.length w₁.processes.length (Geo.routeKey a b) := by
  obtain ⟨config, around, -⟩ := h.given
  have ticks₁ : w₁.around.Ticks := around ▸ ticks
  have shown := h.shown start finish caching serves
  have soon : w₁.cacheTime ≤ w₂.cacheTime := by
    rw [← h.second]
    exact cacheTime_run ticks₁ _
  have retains : w.Retains w₁ w.processes.length (Geo.routeKey a b) w₂.cacheTime := by
    rw [← h.first]
    exact h.reach.retains h.obeys.1 ticks lasting (h.traced_before.trace_eq_nil (Nat.le_refl _)) fresh
      (Nat.le_trans (Nat.le_of_eq (congrArg cacheTime h.first)) soon)
  rw [← config] at fresh
  have hits := h.reach_between.hits h.obeys.2 ticks₁ retains shown
    (h.traced_between.trace_eq_nil (Nat.le_refl _)) fresh
    (Nat.le_of_eq (congrArg cacheTime h.second))
  exact h.second ▸ hits

end

variable (start' : w.around.point? pickup' = some a') (finish' : w.around.point? dropoff' = some b')

section

include start' finish'

/-- The second call asks the provider for no way but that between its ends. -/
theorem asked {x y : GeoPoint} {r : Except DispatchError Directions}
    (asked : ⟨.computeRoute x y, r⟩ ∈ w₂.trace w₁.processes.length) :
    x = a' ∧ y = b' ∧ (w.config.cacheEnabled →
      ∃ r', ⟨.cacheGet (Geo.routeKey x y), r'⟩ ∈ w₂.trace w₁.processes.length ∧
        ∀ way, r' ≠ .ok (some way)) := by
  obtain ⟨first, second, missed⟩ := h.traced.asked_of_visit h.sourced h.follows_second asked
  obtain ⟨-, -, config, around⟩ := h.given
  rw [around, start'] at first
  rw [around, finish'] at second
  rw [config] at missed
  exact ⟨(Option.some.inj first).symm, (Option.some.inj second).symm, missed⟩

/-- A route that it is answered is the way between its ends. -/
theorem shows {route' : Route} (ended : w₂.processes[w₁.processes.length]? =
    some ⟨.call, .ended (.answer (.route route'))⟩) :
    ∃ way, Quote.Shows w₂.config.routing pickup' dropoff' (w₂.trace w₁.processes.length) route' a' b'
      way := by
  obtain ⟨x, y, way, first, second, shows⟩ := h.sourced.shows_of_visit h.follows_second ended
  obtain ⟨-, -, -, around⟩ := h.given
  rw [around, start'] at first
  rw [around, finish'] at second
  cases first
  cases second
  exact ⟨way, shows⟩

include caching

/-- It does not ask if it finds what it reads under its key. -/
theorem spared (same : Geo.routeKey a' b' = Geo.routeKey a b)
    (hits : w.Hits w₂ w.processes.length w₁.processes.length (Geo.routeKey a b))
    (serves : w₂.CacheServes w₁.processes.length) (x y : GeoPoint)
    (r : Except DispatchError Directions) :
    ⟨.computeRoute x y, r⟩ ∉ w₂.trace w₁.processes.length := by
  intro asked
  obtain ⟨rfl, rfl, missed⟩ := h.asked start' finish' asked
  obtain ⟨r', read, other⟩ := missed caching
  rw [same] at read
  rcases hits r' read with ⟨err, rfl⟩ | ⟨way, rfl, -⟩
  · cases serves _ read
  · exact other way rfl

end

section

variable (spared : ∀ x y r, ⟨.computeRoute x y, r⟩ ∉ w₂.trace w₁.processes.length)

include spared

/-- A call that does not ask the provider is over after eight turns. -/
theorem finishes (turns : 8 ≤ moves'.countP (Move.turns w₁.processes.length)) :
    ∃ r, w₂.processes[w₁.processes.length]? = some ⟨.call, .ended r⟩ := by
  have brisk : Brisk 7 (routing w₁.config pickup' dropoff') := by
    rw [routing_eq]
    exact Brisk.bind (n := 0) (brisk_make _ _ pickup' dropoff') fun _ => brisk_done
  have entered : (w₁.enter (.computeRoute pickup' dropoff')).processes[w₁.processes.length]? =
      some ⟨.call, .ready (routing w₁.config pickup' dropoff')⟩ := List.getElem?_concat_length
  obtain ⟨p, found, finished⟩ := over_run entered (n := 8) brisk turns
  have found : w₂.processes[w₁.processes.length]? = some ⟨.call, p⟩ := h.second ▸ found
  rcases finished with rfl | ⟨r, rfl⟩
  · -- Only a write to the cache breaks down, and that is behind an answer of the provider.
    obtain ⟨process, job, there, leads, fragile⟩ := h.follows_second
    rw [found] at there
    cases there
    have origin : Origin (fun call : Call => call.keepsNothing) w₂.config .call
        (routing w₂.config pickup' dropoff') := .call rfl
    cases job with
    | done => exact fragile.elim
    | panic =>
      rcases (meets_routing w₂.config pickup' dropoff').of_leads leads with ⟨_, none_⟩ | ⟨_, none_, -⟩
        <;> cases none_
    | act e next =>
      cases e with
      | cacheSet key way ttl =>
        have consults := ((origin.consults fun _ => id).of_leads leads).1
        obtain ⟨-, -, x, y, -, asked⟩ := consults.keeps key way ttl rfl
        exact absurd asked (spared x y _)
      | _ => exact fragile.elim
  · exact ⟨r, found⟩

include start' finish' in
/-- It ends with a route that the first call has found as well, or somebody else has kept another. -/
theorem outcome (hits : w.Hits w₂ w.processes.length w₁.processes.length (Geo.routeKey a' b'))
    {r : Result} (ended : w₂.processes[w₁.processes.length]? = some ⟨.call, .ended r⟩) :
    (∃ err, r = .answer (.refused err) ∧ Quote.Refused (w₂.trace w₁.processes.length) err) ∨
      ∃ route', r = .answer (.route route') ∧
        (route'.polyline = route.polyline ∧ route'.distanceMeters = route.distanceMeters ∨
          w.KeptBy w₂ (Geo.routeKey a' b') fun n => n ≠ w.processes.length ∧ n ≠ w₁.processes.length) := by
  obtain ⟨process, job, there, leads, reached⟩ := h.follows_second
  rw [ended] at there
  cases there
  cases (show job = .done r from reached)
  rcases (meets_routing w₂.config pickup' dropoff').of_leads leads with ⟨route', same⟩ | ⟨err, same, refused⟩
  · cases same
    refine .inr ⟨route', rfl, ?_⟩
    obtain ⟨way, shows⟩ := h.shows start' finish' ended
    obtain ⟨_, _, way₁, -, -, shows₁⟩ := h.sourced.shows_of_visit h.follows_first h.ended
    obtain ⟨-, ⟨-, read⟩ | ⟨asked, -⟩⟩ := shows.found _ _ rfl
    · rcases hits _ read with ⟨err, other⟩ | ⟨_, same, by_⟩
      · cases other
      · cases same
        rcases by_ with ⟨x, seen, kept⟩ | ⟨later, history, x, noted, other, way, ttl, exchange⟩
        · obtain rfl := shows₁.only x seen _ way kept
          exact .inl ⟨shows.polyline.trans shows₁.polyline.symm,
            shows.distance.trans shows₁.distance.symm⟩
        · refine .inr ⟨later, history, x, noted, ⟨other, fun own => ?_⟩, way, ttl, exchange⟩
          have kept : ⟨.cacheSet (Geo.routeKey a' b') way ttl, .ok ()⟩ ∈ w₂.trace w₁.processes.length :=
            mem_traceOf.2 ⟨x, history ▸ List.mem_append_left _ noted, own, exchange⟩
          obtain ⟨_, _, -, asked⟩ := h.traced.asked_of_kept kept
          exact spared _ _ _ asked
    · exact absurd asked (spared _ _ _)
  · cases same
    exact .inl ⟨err, rfl, refused⟩

end

include start finish start' finish' in
/-- If nobody else has kept a way under its key, the second call asks the provider where the first one has
another key. -/
theorem asks (differs : Geo.routeKey a' b' ≠ Geo.routeKey a b)
    (empty : w.cached? (Geo.routeKey a' b') = none)
    (alone : ¬ w.KeptBy w₂ (Geo.routeKey a' b')
      fun n => n ≠ w.processes.length ∧ n ≠ w₁.processes.length) {route' : Route}
    (ended : w₂.processes[w₁.processes.length]? = some ⟨.call, .ended (.answer (.route route'))⟩) :
    ∃ r, ⟨.computeRoute a' b', r⟩ ∈ w₂.trace w₁.processes.length := by
  have more : w.processes.length < w₁.processes.length := (List.getElem?_eq_some_iff.1 h.answered).1
  obtain ⟨way, shows⟩ := h.shows start' finish' ended
  obtain ⟨-, ⟨-, read⟩ | ⟨asked, -⟩⟩ := shows.found _ _ rfl
  · have whole : w₂ = w.run ((.enter (.computeRoute pickup dropoff) :: moves) ++
        .enter (.computeRoute pickup' dropoff') :: moves') := by
      rw [run_append]
      exact (h.first.symm ▸ h.second).symm
    have kept : w.KeptBy w₂ (Geo.routeKey a' b') fun _ => True := by
      rw [whole] at read ⊢
      exact keptBy_of_read empty (h.traced_before.trace_eq_nil (Nat.le_of_lt more)) _ read
    obtain ⟨later, history, x, noted, -, way, ttl, exchange⟩ := kept
    have wrote (q : Nat) (own : x.process = q) :
        ⟨.cacheSet (Geo.routeKey a' b') way ttl, .ok ()⟩ ∈ w₂.trace q :=
      mem_traceOf.2 ⟨x, history ▸ List.mem_append_left _ noted, own, exchange⟩
    by_cases own : x.process = w₁.processes.length
    · obtain ⟨_, _, -, asked⟩ := h.traced.asked_of_kept (wrote _ own)
      obtain ⟨rfl, rfl, -⟩ := h.asked start' finish' asked
      exact ⟨_, asked⟩
    by_cases earlier : x.process = w.processes.length
    · -- The first call keeps ways only under its own key.
      obtain ⟨p, q, keyed, asked⟩ := h.traced.asked_of_kept (wrote _ earlier)
      obtain ⟨first, second, -⟩ := h.traced.asked_of_visit h.sourced h.follows_first asked
      obtain ⟨-, -, -, around⟩ := h.given
      rw [around, start] at first
      rw [around, finish] at second
      cases first
      cases second
      exact absurd keyed differs
    · exact absurd ⟨later, history, x, noted, ⟨earlier, own⟩, way, ttl, exchange⟩ alone
  · exact ⟨_, asked⟩

end Revisits

/-! ## The second call -/

/-- A second call whose ends are rounded to the same numbers asks the provider exactly if a coordinate that
is rounded to zero has another sign. If none has, and what the cache holds for the first key does not expire
before, the second call asks for no way, is over after eight turns, and ends with the way of the first one,
unless somebody else has kept another way since; it fails only with what the directory of places or the
store has refused. If one has, and the cache holds nothing else for the second key, a second call that ends
with a route has asked for the way. -/
theorem asks_again_iff (h : w.Revisits pickup dropoff moves w₁ route pickup' dropoff' moves' w₂)
    (caching : w.config.cacheEnabled) (ticks : w.around.Ticks) {a b a' b' : GeoPoint}
    (start : w.around.point? pickup = some a) (finish : w.around.point? dropoff = some b)
    (start' : w.around.point? pickup' = some a') (finish' : w.around.point? dropoff' = some b')
    (alike : Geo.Alike a' a) (alike' : Geo.Alike b' b) :
    (Geo.SameZeros a' a ∧ Geo.SameZeros b' b → w₁.CacheServes w.processes.length →
      w₂.CacheServes w₁.processes.length → w.Lasting (Geo.routeKey a b) w₂.cacheTime →
      w₂.cacheTime < w.cacheTime + w.config.routing.cacheTtl →
      (∀ x y r, ⟨.computeRoute x y, r⟩ ∉ w₂.trace w₁.processes.length) ∧
      (8 ≤ moves'.countP (Move.turns w₁.processes.length) →
        ∃ r, w₂.processes[w₁.processes.length]? = some ⟨.call, .ended r⟩) ∧
      ∀ r, w₂.processes[w₁.processes.length]? = some ⟨.call, .ended r⟩ →
        (∃ err, r = .answer (.refused err) ∧ Quote.Refused (w₂.trace w₁.processes.length) err) ∨
        ∃ route', r = .answer (.route route') ∧
          (route'.polyline = route.polyline ∧ route'.distanceMeters = route.distanceMeters ∨
            w.KeptBy w₂ (Geo.routeKey a b)
              fun n => n ≠ w.processes.length ∧ n ≠ w₁.processes.length)) ∧
    (¬ (Geo.SameZeros a' a ∧ Geo.SameZeros b' b) → w.cached? (Geo.routeKey a' b') = none →
      ¬ w.KeptBy w₂ (Geo.routeKey a' b')
        (fun n => n ≠ w.processes.length ∧ n ≠ w₁.processes.length) →
      ∀ route', w₂.processes[w₁.processes.length]? = some ⟨.call, .ended (.answer (.route route'))⟩ →
        ∃ r, ⟨.computeRoute a' b', r⟩ ∈ w₂.trace w₁.processes.length) := by
  have keys := Geo.routeKey_eq_iff_of_alike alike alike'
  constructor
  · intro zeros serves serves' lasting fresh
    have same := keys.2 zeros
    have hits := h.hits start finish caching serves ticks lasting fresh
    have spared := h.spared caching start' finish' same hits serves'
    rw [← same] at hits ⊢
    exact ⟨spared, h.finishes spared, fun r ended => h.outcome start' finish' spared hits ended⟩
  · intro differs empty alone route' ended
    exact h.asks start finish start' finish' (fun same => differs (keys.1 same)) empty alone ended

/-! ## Two runs -/

/-- No two answers of the provider are the same. -/
def changing : Surroundings :=
  { Trial.around with directions := fun n _ _ => .ok ⟨"way", 5000 + n.toUInt64, 600, 540⟩ }

/-- A new service, where a call for the way from a place is answered. -/
def once (place : GeoPoint) : World :=
  (openWith true changing).visit ⟨"", "", place⟩ ⟨"", "", ⟨1.3, 36.2⟩⟩ (Trial.steps 0 8)

/-- Then a call for the way from another place is answered. -/
def twice (place place' : GeoPoint) : World :=
  (once place).visit ⟨"", "", place'⟩ ⟨"", "", ⟨1.3, 36.2⟩⟩ (Trial.steps 1 8)

/-- The route that a process has answered. -/
def route? (w : World) (pid : Nat) : Option Route :=
  match (w.processes[pid]?).map Process.progress with
  | some (.ended (.answer (.route route))) => some route
  | _ => none

theorem ended_of_route? (called : (w.processes[pid]?).map Process.task = some .call)
    (h : w.route? pid = some route) :
    w.processes[pid]? = some ⟨.call, .ended (.answer (.route route))⟩ := by
  obtain ⟨⟨task, p⟩, found, rfl⟩ := Option.map_eq_some_iff.1 called
  unfold route? at h
  rw [found] at h ⊢
  split at h
  · next same =>
    cases same
    cases h
    rfl
  · cases h

theorem revisits_twice {place : GeoPoint} (place' : GeoPoint)
    (called : ((once place).processes[0]?).map Process.task = some .call)
    (answered : (once place).route? 0 = some route) :
    (openWith true changing).Revisits ⟨"", "", place⟩ ⟨"", "", ⟨1.3, 36.2⟩⟩ (Trial.steps 0 8) (once place)
      route ⟨"", "", place'⟩ ⟨"", "", ⟨1.3, 36.2⟩⟩ (Trial.steps 1 8) (twice place place') where
  reach := ⟨_, _, _, [], openWith_new true changing, trivial, rfl⟩
  harmless := by simp [Trial.steps, Move.keepsNothing]
  first := rfl
  answered := ended_of_route? called answered
  second := rfl

theorem changing_ticks : changing.Ticks := fun _ _ _ => Nat.le_refl _

/-- Both runs are over at once, and nothing was kept before. -/
theorem lasting_twice (place place' : GeoPoint) (key : String) :
    (openWith true changing).Lasting key (twice place place').cacheTime ∧
      (twice place place').cacheTime <
        (openWith true changing).cacheTime + (openWith true changing).config.routing.cacheTtl := by
  have around : (twice place place').around = changing :=
    ((given_run (once place) _).2.trans (given_run (openWith true changing) _).2)
  have time : (twice place place').cacheTime = 0 := by
    rw [cacheTime, around]
    rfl
  rw [time]
  refine ⟨fun e kept => ?_, by decide⟩
  cases kept

theorem alike_goal : Geo.Alike ⟨1.3, 36.2⟩ ⟨1.3, 36.2⟩ :=
  ⟨⟨130000000, by decide +kernel⟩, ⟨3620000000, by decide +kernel⟩⟩

def corner : GeoPoint := ⟨1.2345678, 36.1234567⟩

def besideCorner : GeoPoint := ⟨1.234567800001, 36.1234567⟩

theorem asks_again_iff_beside :
    ∃ route route', (once corner).route? 0 = some route ∧
      (twice corner besideCorner).route? 1 = some route' ∧ route'.polyline = route.polyline ∧
      route'.distanceMeters = route.distanceMeters ∧
      ∀ x y r, ⟨.computeRoute x y, r⟩ ∉ (twice corner besideCorner).trace 1 := by
  have ⟨called, answered, length, serves, serves', called', answered', alone⟩ :
      ((once corner).processes[0]?).map Process.task = some .call ∧ ((once corner).route? 0).isSome ∧
      (once corner).processes.length = 1 ∧ (once corner).CacheServes 0 ∧
      (twice corner besideCorner).CacheServes 1 ∧
      ((twice corner besideCorner).processes[1]?).map Process.task = some .call ∧
      ((twice corner besideCorner).route? 1).isSome ∧
      ∀ x ∈ (twice corner besideCorner).history, x.process = 0 ∨ x.process = 1 := by
    decide +kernel
  obtain ⟨route, answered⟩ := Option.isSome_iff_exists.1 answered
  obtain ⟨route', answered'⟩ := Option.isSome_iff_exists.1 answered'
  have ended := ended_of_route? called' answered'
  have alike : Geo.Alike besideCorner corner :=
    ⟨⟨123456780, by decide +kernel⟩, ⟨3612345670, by decide +kernel⟩⟩
  have zeros : Geo.SameZeros besideCorner corner := ⟨by decide +kernel, by decide +kernel⟩
  obtain ⟨lasting, fresh⟩ := lasting_twice corner besideCorner (Geo.routeKey corner ⟨1.3, 36.2⟩)
  obtain ⟨spared, -, outcome⟩ := (asks_again_iff (revisits_twice besideCorner called answered) rfl
    changing_ticks rfl rfl rfl rfl alike alike_goal).1 ⟨zeros, fun _ => rfl, fun _ => rfl⟩ serves
    (length ▸ serves') lasting fresh
  rw [length] at spared outcome
  refine ⟨route, route', answered, answered', ?_⟩
  rcases outcome _ ended with ⟨err, other, -⟩ | ⟨route'', same, shown | other⟩
  · cases other
  · cases same
    exact ⟨shown.1, shown.2, spared⟩
  · obtain ⟨later, history, x, noted, ⟨first, second⟩, -⟩ := other
    rcases alone x (history ▸ List.mem_append_left _ noted) with own | own
    · exact absurd own first
    · exact absurd own second

/-- Just north of the equator. -/
def north : GeoPoint := ⟨0.000000000001, 36.1234567⟩

/-- Just south of it. -/
def south : GeoPoint := ⟨-0.000000000001, 36.1234567⟩

/-- It is not so that a second call never asks where the ends are rounded to the same numbers: on the two
sides of the equator they are written apart. -/
theorem asks_again_across_equator :
    ¬ ∀ (w w₁ w₂ : World) (pickup dropoff pickup' dropoff' : PlaceInput) (moves moves' : List Move)
      (route : Route) (a b a' b' : GeoPoint),
      w.Revisits pickup dropoff moves w₁ route pickup' dropoff' moves' w₂ → w.config.cacheEnabled →
      w.around.Ticks → w.around.point? pickup = some a → w.around.point? dropoff = some b →
      w.around.point? pickup' = some a' → w.around.point? dropoff' = some b' → Geo.Alike a' a →
      Geo.Alike b' b → w₁.CacheServes w.processes.length → w₂.CacheServes w₁.processes.length →
      w.Lasting (Geo.routeKey a b) w₂.cacheTime →
      w₂.cacheTime < w.cacheTime + w.config.routing.cacheTtl →
      ∀ x y r, ⟨.computeRoute x y, r⟩ ∉ w₂.trace w₁.processes.length := by
  intro spares
  obtain ⟨called, answered, length, serves, serves', asked⟩ :
      ((once north).processes[0]?).map Process.task = some .call ∧ ((once north).route? 0).isSome ∧
      (once north).processes.length = 1 ∧ (once north).CacheServes 0 ∧
      (twice north south).CacheServes 1 ∧
      ((twice north south).trace 1).any (·.effect.consults) := by
    decide +kernel
  obtain ⟨route, answered⟩ := Option.isSome_iff_exists.1 answered
  have alike : Geo.Alike south north := ⟨⟨0, by decide +kernel⟩, ⟨3612345670, by decide +kernel⟩⟩
  obtain ⟨lasting, fresh⟩ := lasting_twice north south (Geo.routeKey north ⟨1.3, 36.2⟩)
  have spared := spares _ _ _ _ _ _ _ _ _ route _ _ _ _ (revisits_twice south called answered) rfl
    changing_ticks rfl rfl rfl rfl alike alike_goal serves (length ▸ serves') lasting fresh
  rw [length] at spared
  obtain ⟨⟨e, r⟩, seen, asks⟩ := List.any_eq_true.1 asked
  cases e with
  | computeRoute x y => exact spared x y r seen
  | _ => cases asks

end World

end CourierDispatch
