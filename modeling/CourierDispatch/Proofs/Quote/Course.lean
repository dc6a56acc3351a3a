import CourierDispatch.Dispatch
import CourierDispatch.Proofs.Job.Completion

/-!
# The course of a quote

What a quote asks of those it depends on, one inquiry after the other, and what it ends with. The
pickup is resolved, then the dropoff, then the way between the two is looked up once, and last the
products are listed (`Quote.Course`). Whatever is answered, a quote takes such a course, and whatever
course there is, some answers make a quote take it (`Quote.endsAfter_make`). The look-ups are also counted,
which is no inquiry.
-/

namespace CourierDispatch

/-- Counts something. -/
def Effect.counts : Effect → Bool
  | .countLookup _ | .countTransition _ => true
  | _ => false

/-- What was asked of others on a path, the first inquiry first. -/
def inquiries (own : List Exchange) : List Exchange :=
  own.reverse.filter fun x => !x.effect.counts

@[simp] theorem inquiries_append (later earlier : List Exchange) :
    inquiries (later ++ earlier) = inquiries earlier ++ inquiries later := by
  simp [inquiries]

/-- What an answer refuses with. -/
def DispatchError.of? {α : Type} : Except DispatchError α → Option DispatchError
  | .ok _ => none
  | .error err => some err

theorem DispatchError.of?_eq_some {α : Type} {r : Except DispatchError α} {err : DispatchError} :
    of? r = some err ↔ r = .error err := by
  cases r <;> simp [of?]

/-- What an inquiry was refused with that a quote cannot do without. The cache it can do without. -/
def Exchange.refusal? : Exchange → Option DispatchError
  | ⟨.placeDetails _, r⟩ => DispatchError.of? r
  | ⟨.computeRoute _ _, r⟩ => DispatchError.of? r
  | ⟨.store (.nearbyProducts _ _), r⟩ => DispatchError.of? r
  | _ => none

namespace Attempt

open Job

variable {α β : Type} {xs : List Exchange}

/-- Some answers let an attempt end like this after these inquiries. -/
def EndsAfter (a : Attempt α) (xs : List Exchange) (o : Except DispatchError α) : Prop :=
  ∃ own, inquiries own = xs ∧ a.run.Leads own (.done o)

theorem endsAfter_pure {v : α} {o : Except DispatchError α} :
    EndsAfter (pure v) xs o ↔ xs = [] ∧ o = .ok v := by
  constructor
  · rintro ⟨own, rfl, path⟩
    obtain ⟨rfl, same⟩ := Leads.of_done path
    cases same
    exact ⟨rfl, rfl⟩
  · rintro ⟨rfl, rfl⟩
    exact ⟨[], rfl, .here⟩

/-- An attempt that asks for one effect. -/
theorem endsAfter_act {a : Attempt α} {e : Effect} {told : e.Reply → Except DispatchError α}
    {o : Except DispatchError α} (single : a.run = .act e fun r => .done (told r))
    (open_ : ∀ r, e.Admits r) :
    a.EndsAfter xs o ↔ ∃ r, xs = inquiries [⟨e, r⟩] ∧ o = told r := by
  unfold EndsAfter
  rw [single]
  constructor
  · rintro ⟨own, rfl, path⟩
    obtain ⟨-, other⟩ | ⟨r, later, rfl, -, ended⟩ := Leads.of_act path
    · cases other
    · obtain ⟨rfl, same⟩ := Leads.of_done ended
      cases same
      exact ⟨r, rfl, rfl⟩
  · rintro ⟨r, rfl, rfl⟩
    exact ⟨[⟨e, r⟩], rfl, Leads.next .here r (open_ r)⟩

theorem endsAfter_bind {a : Attempt α} {f : α → Attempt β} {o : Except DispatchError β} :
    EndsAfter (a >>= f) xs o ↔ (∃ err, o = .error err ∧ a.EndsAfter xs (.error err)) ∨
      ∃ v ys zs, xs = ys ++ zs ∧ a.EndsAfter ys (.ok v) ∧ (f v).EndsAfter zs o := by
  constructor
  · rintro ⟨own, rfl, path⟩
    rcases leads_bind_iff.1 path with ⟨err, same, failed⟩ | ⟨v, first, second, rfl, found, behind⟩
    · exact .inl ⟨err, same, own, rfl, failed⟩
    · exact .inr ⟨v, _, _, inquiries_append second first, ⟨first, rfl, found⟩, second, rfl, behind⟩
  · rintro (⟨err, same, own, rfl, failed⟩ | ⟨v, ys, zs, rfl, ⟨first, rfl, found⟩, second, rfl, behind⟩)
    · exact ⟨own, rfl, leads_bind_iff.2 (.inl ⟨err, same, failed⟩)⟩
    · exact ⟨second ++ first, inquiries_append second first,
        leads_bind_iff.2 (.inr ⟨v, first, second, rfl, found, behind⟩)⟩

/-- A result that is only wrapped up. -/
theorem endsAfter_wrap {a : Attempt α} {g : α → β} {o : Except DispatchError β} :
    EndsAfter (a >>= fun v => pure (g v)) xs o ↔ ∃ r, a.EndsAfter xs r ∧ o = r.map g := by
  rw [endsAfter_bind]
  constructor
  · rintro (⟨err, rfl, failed⟩ | ⟨v, ys, zs, rfl, found, wrapped⟩)
    · exact ⟨_, failed, rfl⟩
    · obtain ⟨rfl, rfl⟩ := endsAfter_pure.1 wrapped
      exact ⟨.ok v, by simpa using found, rfl⟩
  · rintro ⟨err | v, ended, rfl⟩
    · exact .inl ⟨err, rfl, ended⟩
    · exact .inr ⟨v, xs, [], by simp, ended, endsAfter_pure.2 ⟨rfl, rfl⟩⟩

/-- Counting is no inquiry. -/
theorem endsAfter_count {result : Lookup} {f : Unit → Attempt β} {o : Except DispatchError β} :
    EndsAfter (perform (.countLookup result) >>= f) xs o ↔ (f ()).EndsAfter xs o := by
  have counted {ys : List Exchange} {r : Except DispatchError Unit} :
      EndsAfter (perform (.countLookup result)) ys r ↔ ∃ u : Unit, ys = [] ∧ r = .ok u :=
    endsAfter_act rfl fun _ => trivial
  rw [endsAfter_bind]
  constructor
  · rintro (⟨err, -, failed⟩ | ⟨v, ys, zs, rfl, first, second⟩)
    · obtain ⟨u, -, other⟩ := counted.1 failed
      cases other
    · obtain ⟨u, rfl, same⟩ := counted.1 first
      exact second
  · intro second
    exact .inr ⟨(), [], xs, rfl, counted.2 ⟨(), rfl, rfl⟩, second⟩

end Attempt

namespace Quote

open Attempt

variable {c : RouteConfig} {pricer : Pricer} {pickup dropoff input : PlaceInput} {a b : GeoPoint}
  {xs ys zs : List Exchange}

/-! ## The three parts -/

/-- The inquiries that resolve an input, and the place that it names. -/
inductive Resolves (input : PlaceInput) : List Exchange → Except DispatchError Place → Prop
  /-- Coordinates are taken as they are. -/
  | given (located : input.location.isZero = false) :
      Resolves input [] (.ok ⟨input.placeId, input.address, input.location⟩)
  /-- Without coordinates the place is looked up by its id. -/
  | named (unlocated : input.location.isZero = true) (r : Except DispatchError Place) :
      Resolves input [⟨.placeDetails input.placeId, r⟩] r

/-- The inquiries that look up the way between two points, and the way. A cache that cannot be read is
one that holds nothing, and one that cannot be written is left alone. -/
inductive Finds (c : RouteConfig) (a b : GeoPoint) : List Exchange → Except DispatchError Directions → Prop
  | uncached (off : c.cacheEnabled = false) (r : Except DispatchError Directions) :
      Finds c a b [⟨.computeRoute a b, r⟩] r
  | kept (on : c.cacheEnabled = true) (way : Directions) :
      Finds c a b [⟨.cacheGet (Geo.routeKey a b), .ok (some way)⟩] (.ok way)
  | refused (on : c.cacheEnabled = true) (found : Except DispatchError (Option Directions))
      (missed : ∀ way, found ≠ .ok (some way)) (err : DispatchError) :
      Finds c a b [⟨.cacheGet (Geo.routeKey a b), found⟩, ⟨.computeRoute a b, .error err⟩] (.error err)
  | fetched (on : c.cacheEnabled = true) (found : Except DispatchError (Option Directions))
      (missed : ∀ way, found ≠ .ok (some way)) (way : Directions) (written : Except DispatchError Unit) :
      Finds c a b [⟨.cacheGet (Geo.routeKey a b), found⟩, ⟨.computeRoute a b, .ok way⟩,
        ⟨.cacheSet (Geo.routeKey a b) way c.cacheTtl, written⟩] (.ok way)

theorem endsAfter_resolve {r : Except DispatchError Place} :
    (resolve input).EndsAfter xs r ↔ Resolves input xs r := by
  unfold resolve
  cases located : input.location.isZero with
  | true =>
    have place : EndsAfter (Attempt.place input.placeId) xs r ↔
        ∃ told, xs = [⟨.placeDetails input.placeId, told⟩] ∧ r = told :=
      endsAfter_act rfl fun _ => trivial
    rw [if_pos rfl, place]
    constructor
    · rintro ⟨_, rfl, rfl⟩
      exact .named located _
    · intro resolved
      cases resolved with
      | given other => rw [located] at other; cases other
      | named => exact ⟨r, rfl, rfl⟩
  | false =>
    rw [if_neg nofun, endsAfter_pure]
    constructor
    · rintro ⟨rfl, rfl⟩
      exact .given located
    · intro resolved
      cases resolved with
      | given => exact ⟨rfl, rfl⟩
      | named other => rw [located] at other; cases other

theorem endsAfter_directions {r : Except DispatchError Directions} :
    EndsAfter (Attempt.directions a b) xs r ↔ xs = [⟨.computeRoute a b, r⟩] := by
  have single : EndsAfter (Attempt.directions a b) xs r ↔
      ∃ told, xs = [⟨.computeRoute a b, told⟩] ∧ r = told := endsAfter_act rfl fun _ => trivial
  exact single.trans exists_eq_right'

/-- A way that is fetched is kept. -/
theorem endsAfter_fetch {key : String} {r : Except DispatchError Directions} :
    (fetch c key a b).EndsAfter xs r ↔
      (∃ err, xs = [⟨.computeRoute a b, .error err⟩] ∧ r = .error err) ∨
        ∃ way written, xs = [⟨.computeRoute a b, .ok way⟩, ⟨.cacheSet key way c.cacheTtl, written⟩] ∧
          r = .ok way := by
  have keep {way : Directions} {ys : List Exchange} {o : Except DispatchError (Except DispatchError Unit)} :
      EndsAfter (Attempt.perform (.cacheSet key way c.cacheTtl)) ys o ↔
        ∃ written, ys = [⟨.cacheSet key way c.cacheTtl, written⟩] ∧ o = .ok written :=
    endsAfter_act rfl fun _ => trivial
  unfold fetch
  simp only [endsAfter_bind, endsAfter_directions, keep, endsAfter_pure]
  constructor
  · rintro (⟨err, rfl, rfl⟩ | ⟨way, ys, zs, rfl, rfl, ⟨err, -, written, -, other⟩ |
      ⟨_, _, _, rfl, ⟨written, rfl, -⟩, rfl, rfl⟩⟩)
    · exact .inl ⟨err, rfl, rfl⟩
    · cases other
    · exact .inr ⟨way, written, rfl, rfl⟩
  · rintro (⟨err, rfl, rfl⟩ | ⟨way, written, rfl, rfl⟩)
    · exact .inl ⟨err, rfl, rfl⟩
    · exact .inr ⟨way, _, _, rfl, rfl, .inr ⟨written, _, [], rfl, ⟨written, rfl, rfl⟩, rfl, rfl⟩⟩

/-- The way between two points is found, and comes with their key. -/
theorem endsAfter_directionsBetween {o : Except DispatchError (String × Directions)} :
    (directionsBetween c a b).EndsAfter xs o ↔
      ∃ r, Finds c a b xs r ∧ o = r.map (Geo.routeKey a b, ·) := by
  have read {ys : List Exchange} {found : Except DispatchError (Except DispatchError (Option Directions))} :
      EndsAfter (Attempt.perform (.cacheGet (Geo.routeKey a b))) ys found ↔
        ∃ told, ys = [⟨.cacheGet (Geo.routeKey a b), told⟩] ∧ found = .ok told :=
    endsAfter_act rfl fun _ => trivial
  unfold directionsBetween
  cases on : c.cacheEnabled with
  | false =>
    simp only [Bool.not_false, if_true]
    rw [endsAfter_count, endsAfter_wrap]
    refine exists_congr fun r => and_congr_left fun _ => ?_
    rw [endsAfter_directions]
    constructor
    · rintro rfl
      exact .uncached on r
    · intro finds
      cases finds with
      | uncached => rfl
      | kept other | refused other | fetched other => rw [on] at other; cases other
  | true =>
    simp only [Bool.not_true, Bool.false_eq_true, if_false]
    have hit {way : Directions} {zs : List Exchange} :
        EndsAfter (Attempt.perform (.countLookup .hit) >>= fun _ => pure (Geo.routeKey a b, way)) zs o ↔
          zs = [] ∧ o = .ok (Geo.routeKey a b, way) := by
      rw [endsAfter_count, endsAfter_pure]
    -- Where nothing is kept, the way is fetched.
    have missed {told : Except DispatchError (Option Directions)} (nothing : ∀ way, told ≠ .ok (some way))
        {zs : List Exchange} : EndsAfter (fetch c (Geo.routeKey a b) a b >>= fun way =>
          pure (Geo.routeKey a b, way)) zs o ↔
        ∃ r, Finds c a b (⟨.cacheGet (Geo.routeKey a b), told⟩ :: zs) r ∧
          o = r.map (Geo.routeKey a b, ·) := by
      rw [endsAfter_wrap]
      refine exists_congr fun r => and_congr_left fun _ => ?_
      rw [endsAfter_fetch]
      constructor
      · rintro (⟨err, rfl, rfl⟩ | ⟨way, written, rfl, rfl⟩)
        · exact .refused on told nothing err
        · exact .fetched on told nothing way written
      · intro finds
        cases finds with
        | kept _ way => exact absurd rfl (nothing way)
        | refused _ _ _ err => exact .inl ⟨err, rfl, rfl⟩
        | fetched _ _ _ way written => exact .inr ⟨way, written, rfl, rfl⟩
    rw [endsAfter_bind]
    constructor
    · rintro (⟨err, -, failed⟩ | ⟨told, ys, zs, rfl, asked, rest⟩)
      · obtain ⟨told, -, other⟩ := read.1 failed
        cases other
      · obtain ⟨_, rfl, ⟨⟩⟩ := read.1 asked
        rcases told with err | _ | way
        · exact (missed (by simp)).1 (endsAfter_count.1 rest)
        · exact (missed (by simp)).1 (endsAfter_count.1 rest)
        · obtain ⟨rfl, rfl⟩ := hit.1 rest
          exact ⟨.ok way, .kept on way, rfl⟩
    · rintro ⟨r, finds, rfl⟩
      have asked (told : Except DispatchError (Option Directions)) := read.2 ⟨told, rfl, rfl⟩
      have rest {told : Except DispatchError (Option Directions)} (nothing : ∀ way, told ≠ .ok (some way))
          {zs : List Exchange} (finds : Finds c a b (⟨.cacheGet (Geo.routeKey a b), told⟩ :: zs) r) :=
        (missed nothing).2 ⟨r, finds, rfl⟩
      cases id finds with
      | uncached off => rw [on] at off; cases off
      | kept _ way =>
        exact .inr ⟨.ok (some way), _, [], rfl, asked _, hit.2 ⟨rfl, rfl⟩⟩
      | refused _ told nothing | fetched _ told nothing =>
        refine .inr ⟨told, _, _, rfl, asked told, ?_⟩
        rcases told with err | _ | way
        · exact endsAfter_count.2 (rest (by simp) finds)
        · exact endsAfter_count.2 (rest (by simp) finds)
        · exact absurd rfl (nothing way)

/-- The products are listed by the store, and priced for the distance. -/
theorem endsAfter_pricedProducts {distance : UInt64} {o : Except DispatchError (List PricedProduct)} :
    (pricedProducts c pricer a distance).EndsAfter xs o ↔
      ∃ r : Except DispatchError (List Product),
        xs = [⟨.store (.nearbyProducts a c.productRadius), r⟩] ∧
          o = r.map (·.map fun p => ⟨p, pricer.price p distance⟩) := by
  have listed {r : Except DispatchError (List Product)} :
      EndsAfter (Attempt.store (.nearbyProducts a c.productRadius)) xs r ↔
        ∃ told, xs = [⟨.store (.nearbyProducts a c.productRadius), told⟩] ∧ r = told :=
    endsAfter_act rfl fun _ => trivial
  unfold pricedProducts
  rw [endsAfter_wrap]
  exact exists_congr fun r => and_congr_left fun _ => listed.trans exists_eq_right'

/-! ## The whole -/

/-- The inquiries that a quote makes, and what it ends with: the first refusal of a place, a way or a
list ends it, and a quote tells of the places, the way and the products that were answered. -/
inductive Course (c : RouteConfig) (pricer : Pricer) (pickup dropoff : PlaceInput) :
    List Exchange → Except DispatchError Quote → Prop
  | lostPickup {ps : List Exchange} {err : DispatchError} (start : Resolves pickup ps (.error err)) :
      Course c pricer pickup dropoff ps (.error err)
  | lostDropoff {ps ds : List Exchange} {a : Place} {err : DispatchError}
      (start : Resolves pickup ps (.ok a)) (finish : Resolves dropoff ds (.error err)) :
      Course c pricer pickup dropoff (ps ++ ds) (.error err)
  | lostWay {ps ds ws : List Exchange} {a b : Place} {err : DispatchError}
      (start : Resolves pickup ps (.ok a)) (finish : Resolves dropoff ds (.ok b))
      (between : Finds c a.point b.point ws (.error err)) :
      Course c pricer pickup dropoff (ps ++ ds ++ ws) (.error err)
  | lostList {ps ds ws : List Exchange} {a b : Place} {way : Directions}
      (start : Resolves pickup ps (.ok a)) (finish : Resolves dropoff ds (.ok b))
      (between : Finds c a.point b.point ws (.ok way)) (err : DispatchError) :
      Course c pricer pickup dropoff
        (ps ++ ds ++ ws ++ [⟨.store (.nearbyProducts a.point c.productRadius), .error err⟩]) (.error err)
  | quoted {ps ds ws : List Exchange} {a b : Place} {way : Directions}
      (start : Resolves pickup ps (.ok a)) (finish : Resolves dropoff ds (.ok b))
      (between : Finds c a.point b.point ws (.ok way)) (products : List Product) :
      Course c pricer pickup dropoff
        (ps ++ ds ++ ws ++ [⟨.store (.nearbyProducts a.point c.productRadius), .ok products⟩])
        (.ok ⟨a, b, Geo.routeKey a.point b.point, way.polyline, way.distanceMeters,
          products.map fun p => ⟨p, pricer.price p way.distanceMeters⟩⟩)

/-- Whatever is answered, a quote takes such a course; and it takes any of them, if it is so answered. -/
theorem endsAfter_make {o : Except DispatchError Quote} :
    (make c pricer pickup dropoff).EndsAfter xs o ↔ Course c pricer pickup dropoff xs o := by
  unfold make
  rw [endsAfter_bind]
  constructor
  · rintro (⟨err, rfl, start⟩ | ⟨a, ps, rest, rfl, start, behind⟩)
    · exact .lostPickup (endsAfter_resolve.1 start)
    have start := endsAfter_resolve.1 start
    rcases endsAfter_bind.1 behind with ⟨err, rfl, finish⟩ | ⟨b, ds, rest, rfl, finish, behind⟩
    · exact .lostDropoff start (endsAfter_resolve.1 finish)
    have finish := endsAfter_resolve.1 finish
    rcases endsAfter_bind.1 behind with ⟨err, rfl, lost⟩ | ⟨⟨key, way⟩, ws, rest, rfl, found, behind⟩
    · obtain ⟨r, between, same⟩ := endsAfter_directionsBetween.1 lost
      rw [← List.append_assoc]
      cases r with
      | error => cases same; exact .lostWay start finish between
      | ok way => cases same
    obtain ⟨r, between, same⟩ := endsAfter_directionsBetween.1 found
    cases r with
    | error => cases same
    | ok =>
      obtain ⟨rfl, rfl⟩ := Prod.mk.inj (Except.ok.inj same)
      obtain ⟨r, listed, rfl⟩ := endsAfter_wrap.1 behind
      obtain ⟨told, rfl, rfl⟩ := endsAfter_pricedProducts.1 listed
      rw [← List.append_assoc, ← List.append_assoc]
      cases told with
      | error err => exact .lostList start finish between err
      | ok products => exact .quoted start finish between products
  · -- Each part of the course is taken by the attempt that asks for it.
    have found {a b : GeoPoint} {ws : List Exchange} {r : Except DispatchError Directions}
        (between : Finds c a b ws r) := endsAfter_directionsBetween.2 ⟨r, between, rfl⟩
    have listed {a : GeoPoint} {distance : UInt64} (r : Except DispatchError (List Product)) :
        (pricedProducts c pricer a distance).EndsAfter [⟨.store (.nearbyProducts a c.productRadius), r⟩]
          (r.map (·.map fun p => ⟨p, pricer.price p distance⟩)) :=
      endsAfter_pricedProducts.2 ⟨r, rfl, rfl⟩
    intro course
    cases course with
    | lostPickup start => exact .inl ⟨_, rfl, endsAfter_resolve.2 start⟩
    | lostDropoff start finish =>
      refine .inr ⟨_, _, _, rfl, endsAfter_resolve.2 start, endsAfter_bind.2 ?_⟩
      exact .inl ⟨_, rfl, endsAfter_resolve.2 finish⟩
    | lostWay start finish between =>
      refine .inr ⟨_, _, _, List.append_assoc .., endsAfter_resolve.2 start, endsAfter_bind.2 ?_⟩
      refine .inr ⟨_, _, _, rfl, endsAfter_resolve.2 finish, endsAfter_bind.2 ?_⟩
      exact .inl ⟨_, rfl, found between⟩
    | lostList start finish between err =>
      refine .inr ⟨_, _, _, (List.append_assoc ..).trans (List.append_assoc ..), endsAfter_resolve.2 start,
        endsAfter_bind.2 ?_⟩
      refine .inr ⟨_, _, _, rfl, endsAfter_resolve.2 finish, endsAfter_bind.2 ?_⟩
      refine .inr ⟨_, _, _, rfl, found between, endsAfter_wrap.2 ⟨_, listed (.error err), rfl⟩⟩
    | quoted start finish between products =>
      refine .inr ⟨_, _, _, (List.append_assoc ..).trans (List.append_assoc ..), endsAfter_resolve.2 start,
        endsAfter_bind.2 ?_⟩
      refine .inr ⟨_, _, _, rfl, endsAfter_resolve.2 finish, endsAfter_bind.2 ?_⟩
      refine .inr ⟨_, _, _, rfl, found between, endsAfter_wrap.2 ⟨_, listed (.ok products), rfl⟩⟩

/-! ## Where a quote stops -/

/-- Nothing was refused but what an attempt ended with. -/
def Stops {α : Type} (xs : List Exchange) : Except DispatchError α → Prop
  | .ok _ => ∀ x ∈ xs, x.refusal? = none
  | .error err => ∃ before x, xs = before ++ [x] ∧ (∀ y ∈ before, y.refusal? = none) ∧
      x.refusal? = some err

variable {α : Type}

theorem stops_single {x : Exchange} {o : Except DispatchError α}
    (told : ∀ err, x.refusal? = some err ↔ o = .error err) : Stops [x] o := by
  cases o with
  | ok v =>
    refine List.forall_mem_singleton.2 (Option.eq_none_iff_forall_ne_some.2 fun err refused => ?_)
    cases (told err).1 refused
  | error err => exact ⟨[], x, rfl, List.forall_mem_nil _, (told err).2 rfl⟩

theorem Stops.after {o : Except DispatchError α} (stops : Stops ys o)
    (granted : ∀ x ∈ xs, x.refusal? = none) : Stops (xs ++ ys) o := by
  cases o with
  | ok v => exact fun x member => (List.mem_append.1 member).elim (granted x) (stops x)
  | error err =>
    obtain ⟨before, x, rfl, earlier, refused⟩ := stops
    refine ⟨xs ++ before, x, (List.append_assoc ..).symm, fun y member => ?_, refused⟩
    exact (List.mem_append.1 member).elim (granted y) (earlier y)

theorem Resolves.stops {r : Except DispatchError Place} (resolved : Resolves input xs r) :
    Stops xs r := by
  cases resolved with
  | given => exact List.forall_mem_nil _
  | named => exact stops_single fun err => DispatchError.of?_eq_some

theorem Finds.stops {r : Except DispatchError Directions} (finds : Finds c a b xs r) : Stops xs r := by
  have asked (r : Except DispatchError Directions) : Stops [⟨.computeRoute a b, r⟩] r :=
    stops_single fun err => DispatchError.of?_eq_some
  cases finds with
  | uncached => exact asked r
  | kept _ way => exact stops_single fun err => by simp [Exchange.refusal?]
  | refused _ found _ err =>
    change Stops ([⟨.cacheGet (Geo.routeKey a b), found⟩] ++ [⟨.computeRoute a b, .error err⟩]) _
    exact (asked (.error err)).after (by simp [Exchange.refusal?])
  | fetched => simp [Stops, Exchange.refusal?, DispatchError.of?]

/-- A quote ends with the first refusal, or there was none. -/
theorem Course.stops {o : Except DispatchError Quote} (course : Course c pricer pickup dropoff xs o) :
    Stops xs o := by
  cases course with
  | lostPickup start => exact start.stops
  | lostDropoff start finish => exact Stops.after finish.stops start.stops
  | lostWay start finish between =>
    exact between.stops.after (Stops.after finish.stops start.stops)
  | lostList start finish between err =>
    exact ⟨_, _, rfl, Stops.after between.stops (Stops.after finish.stops start.stops), rfl⟩
  | quoted start finish between products =>
    exact Stops.after (o := .ok _) (List.forall_mem_singleton.2 rfl)
      (Stops.after between.stops (Stops.after finish.stops start.stops))

end Quote

end CourierDispatch
