import CourierDispatch.Proofs.Job.Lookup

/-!
# A job and its mirror without the cache

The job of a service with a cache, beside that of the same service without one, effect by effect
(`Job.Mirrors`). A look-up begins with a read of the cache, which the mirror waits out. What is found
there is what the provider would answer; then the mirror asks the provider where the job counts a
hit. Otherwise both count, both ask the provider, and the job keeps what it was answered. All this is
read off the code of a look-up once (`Alike.mirrors`).
-/

namespace CourierDispatch

/-- An effect that has nothing to do with look-ups, and does not read the counters. -/
def Effect.aside : Effect → Bool
  | .cacheGet _ | .cacheSet .. | .computeRoute .. | .countLookup _ | .exposition => false
  | _ => true

namespace Job

variable {α : Type} {c : RouteConfig} {f : GeoPoint → GeoPoint → Except DispatchError Directions}
  {refuses : DispatchError → α → Prop}

/-- A job beside its mirror, where `f` is what the provider answers. The flag says whether the job
has just counted a look-up that was no hit, and is now to ask the provider. -/
inductive Mirrors (c : RouteConfig) (f : GeoPoint → GeoPoint → Except DispatchError Directions)
    (refuses : DispatchError → α → Prop) : Bool → Job α → Job α → Prop
  | done (a : α) : Mirrors c f refuses false (done a) (done a)
  | panic : Mirrors c f refuses false panic panic
  | act {e : Effect} {next next' : e.Reply → Job α} (aside : e.aside)
      (then_ : ∀ r, Mirrors c f refuses false (next r) (next' r)) :
      Mirrors c f refuses false (act e next) (act e next')
  /-- The cache is read. The mirror waits. -/
  | read (a b : GeoPoint)
      {next : Except DispatchError (Option Directions) → Job α} {k : Job α}
      (kept : ∀ route, f a b = .ok route → Mirrors c f refuses false (next (.ok (some route))) k)
      (lacking : Mirrors c f refuses false (next (.ok none)) k)
      (unread : ∀ err, Mirrors c f refuses false (next (.error err)) k) :
      Mirrors c f refuses false (act (.cacheGet (Geo.routeKey a b)) next) k
  /-- A hit is counted. The mirror counts a look-up and asks the provider. -/
  | hit (a b : GeoPoint) {route : Directions} {next : Unit → Job α}
      {k : Except DispatchError Directions → Job α} (known : f a b = .ok route)
      (then_ : Mirrors c f refuses false (next ()) (k (.ok route))) :
      Mirrors c f refuses false (act (.countLookup .hit) next)
        (act (.countLookup .bypass) fun _ => act (.computeRoute a b) k)
  /-- Another look-up is counted. -/
  | counted {l : Lookup} {next next' : Unit → Job α} (other : l ≠ .hit)
      (then_ : Mirrors c f refuses true (next ()) (next' ())) :
      Mirrors c f refuses false (act (.countLookup l) next) (act (.countLookup .bypass) next')
  /-- The provider is asked. If it refuses, that is how the job ends. -/
  | asked (a b : GeoPoint) {next k : Except DispatchError Directions → Job α}
      (found : ∀ route, f a b = .ok route →
        Mirrors c f refuses false (next (.ok route)) (k (.ok route)))
      (refused : ∀ err, ∃ r, next (.error err) = .done r ∧ k (.error err) = .done r ∧
        refuses err r) :
      Mirrors c f refuses true (act (.computeRoute a b) next) (act (.computeRoute a b) k)
  /-- What was answered is kept. The mirror waits. -/
  | keep (a b : GeoPoint) {route : Directions} {next : Except DispatchError Unit → Job α}
      {k : Job α} (known : f a b = .ok route)
      (then_ : ∀ r, Mirrors c f refuses false (next r) k) :
      Mirrors c f refuses false (act (.cacheSet (Geo.routeKey a b) route c.cacheTtl) next) k

variable {k k' : Except DispatchError (String × Directions) → Job α}

/-- A look-up without the cache. -/
theorem uncached_bind (c : RouteConfig) (a b : GeoPoint) :
    ((Quote.directionsBetween c.uncached a b).run >>= k) =
      act (.countLookup .bypass) fun _ => act (.computeRoute a b) fun r => match r with
        | .ok route => k (.ok (Geo.routeKey a b, route))
        | .error err => k (.error err) := by
  refine congrArg (Job.act _) (funext fun _ => congrArg (Job.act _) (funext fun r => ?_))
  cases r <;> rfl

/-- A way that is asked for and kept. -/
def fetching (c : RouteConfig) (a b : GeoPoint)
    (k : Except DispatchError (String × Directions) → Job α) : Job α :=
  act (.computeRoute a b) fun r => match r with
    | .ok route => act (.cacheSet (Geo.routeKey a b) route c.cacheTtl) fun _ =>
        k (.ok (Geo.routeKey a b, route))
    | .error err => k (.error err)

/-- A look-up with the cache. -/
theorem cached_bind (enabled : c.cacheEnabled = true) (a b : GeoPoint) :
    ((Quote.directionsBetween c a b).run >>= k) =
      act (.cacheGet (Geo.routeKey a b)) fun r => match r with
        | .ok (some route) => act (.countLookup .hit) fun _ => k (.ok (Geo.routeKey a b, route))
        | .ok none => act (.countLookup .miss) fun _ => fetching c a b k
        | .error _ => act (.countLookup .failed) fun _ => fetching c a b k := by
  have fetches (l : Lookup) : ((do
        Attempt.perform (.countLookup l)
        return (Geo.routeKey a b, ← Quote.fetch c (Geo.routeKey a b) a b) : Attempt _).run >>= k) =
      act (.countLookup l) fun _ => fetching c a b k := by
    refine congrArg (Job.act _) (funext fun _ => congrArg (Job.act _) (funext fun r => ?_))
    cases r <;> rfl
  unfold Quote.directionsBetween
  rw [enabled]
  refine congrArg (Job.act _) (funext fun r => ?_)
  rcases r with err | _ | route
  · exact fetches .failed
  · exact fetches .miss
  · rfl

theorem mirrors_fetching (a b : GeoPoint)
    (found : ∀ way, Mirrors c f refuses false (k (.ok way)) (k' (.ok way)))
    (refused : ∀ err, ∃ r, k (.error err) = .done r ∧ k' (.error err) = .done r ∧ refuses err r) :
    Mirrors c f refuses true (fetching c a b k) (act (.computeRoute a b) fun r => match r with
        | .ok route => k' (.ok (Geo.routeKey a b, route))
        | .error err => k' (.error err)) :=
  .asked a b (fun _ known => .keep a b known fun _ => found _) refused

/-- A look-up beside the same look-up without the cache. -/
theorem mirrors_lookup (a b : GeoPoint)
    (found : ∀ way, Mirrors c f refuses false (k (.ok way)) (k' (.ok way)))
    (refused : ∀ err, ∃ r, k (.error err) = .done r ∧ k' (.error err) = .done r ∧ refuses err r) :
    Mirrors c f refuses false ((Quote.directionsBetween c a b).run >>= k)
      ((Quote.directionsBetween c.uncached a b).run >>= k') := by
  rw [uncached_bind]
  cases enabled : c.cacheEnabled with
  | true =>
    have fetch := mirrors_fetching (f := f) a b found refused
    rw [cached_bind enabled]
    exact .read a b (fun route known => .hit a b known (found _)) (.counted nofun fetch) fun _ =>
      .counted nofun fetch
  | false =>
    have same : c.uncached = c := by rw [RouteConfig.uncached, ← enabled]
    rw [← same, uncached_bind, same]
    exact .counted nofun (.asked a b (fun route _ => found _) refused)

/-- A job that differs from another one only in its look-ups is mirrored by it. -/
theorem Alike.mirrors {j j' : Job α} (h : Alike c (·.aside) refuses j j') :
    Mirrors c f refuses false j j' := by
  induction h with
  | done a => exact .done a
  | panic => exact .panic
  | act aside _ ih => exact .act aside ih
  | lookup a b _ refused ih => exact mirrors_lookup a b ih refused

end Job

end CourierDispatch
