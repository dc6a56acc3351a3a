import CourierDispatch.Proofs.Geo.Writing
import CourierDispatch.Proofs.Revisiting

/-!
# Where a way in the cache comes from

Whatever a process reads from the cache was kept there before under the same key (`Held`). If nobody writes
to the cache but the look-ups, it is what the provider had answered for an ordered pair of points that is
written like the one that is looked up, coordinate by coordinate (`served_for_own_pair`): a way is served
neither for the reversed pair nor for one with latitude and longitude exchanged, unless these are written
alike, nor for one that differs in the eighth decimal of a single coordinate.
-/

namespace CourierDispatch.World

variable {w : World} {key : String} {way : Directions}

/-- A way was kept under a key. -/
def WasKept (history : List Event) (key : String) (way : Directions) : Prop :=
  ∃ x ∈ history, ∃ ttl, x.exchange = ⟨.cacheSet key way ttl, .ok ()⟩

theorem WasKept.mono {earlier history : List Event} (h : WasKept earlier key way)
    (within : earlier ⊆ history) : WasKept history key way := by
  obtain ⟨x, noted, rest⟩ := h
  exact ⟨x, within noted, rest⟩

/-- What is in the cache was kept there, and so was what was read from it, before it was read. -/
structure Held (w : World) : Prop where
  kept : ∀ key e, w.cached? key = some e → WasKept w.history key e.route
  read : ∀ later x earlier key way, w.history = later ++ x :: earlier →
    x.exchange = ⟨.cacheGet key, .ok (some way)⟩ → WasKept earlier key way

theorem held_new {config : Config} {around : Surroundings}
    (h : World.new? config around = some w) : w.Held := by
  obtain ⟨bus, rfl⟩ := eq_of_new? h
  exact ⟨nofun, fun _ _ _ _ _ split => by simp at split⟩

/-- An exchange leaves under a key what was kept there, and it reads nothing else. -/
theorem Held.touched (h : w.Held) {x : Exchange} {entry : Option CacheEntry}
    (touches : w.Touches key x entry) :
    (∀ e, entry = some e → (∃ ttl, x = ⟨.cacheSet key e.route ttl, .ok ()⟩) ∨
      WasKept w.history key e.route) ∧
    ∀ way, x = ⟨.cacheGet key, .ok (some way)⟩ → WasKept w.history key way := by
  cases touches with
  | wrote way ttl => exact ⟨fun e same => by cases same; exact .inl ⟨ttl, rfl⟩, fun _ => nofun⟩
  | hit found =>
    refine ⟨fun e same => ?_, fun way same => ?_⟩
    · cases same
      exact .inr (h.kept key _ found)
    · cases same
      exact h.kept key _ found
  | missed => exact ⟨fun _ => nofun, fun _ => nofun⟩
  | apart nothing refused =>
    refine ⟨fun e same => .inr (h.kept key e same), fun way same => ?_⟩
    obtain ⟨err, other⟩ := refused _ same
    cases other

theorem Held.move (h : w.Held) (m : Move) : (w.move m).Held := by
  have step (key : String) := entry_move w m key
  rcases step "" with ⟨same, -⟩ | ⟨x, noted, -⟩
  · -- nothing was noted, so no entry has changed
    have cached (key : String) : (w.move m).cached? key = w.cached? key := by
      rcases step key with ⟨-, cached⟩ | ⟨x, other, -⟩
      · exact cached
      · exact absurd (same.symm.trans other) (List.cons_ne_self x w.history).symm
    exact ⟨fun key e there => same ▸ h.kept key e (cached key ▸ there), same ▸ h.read⟩
  · have touched (key : String) : w.Touches key x.exchange ((w.move m).cached? key) := by
      rcases step key with ⟨same, -⟩ | ⟨y, other, touches⟩
      · exact absurd (same.symm.trans noted) (List.cons_ne_self x w.history).symm
      · obtain ⟨rfl, -⟩ := List.cons.inj (noted.symm.trans other)
        exact touches
    refine ⟨fun key e there => ?_, fun later y earlier key way split read => ?_⟩
    · rw [noted]
      rcases (h.touched (touched key)).1 e there with ⟨ttl, written⟩ | kept
      · exact ⟨x, List.mem_cons_self, ttl, written⟩
      · exact kept.mono (List.subset_cons_self x w.history)
    · rw [noted] at split
      cases later with
      | nil =>
        obtain ⟨rfl, rfl⟩ := List.cons.inj split
        exact (h.touched (touched key)).2 way read
      | cons z later => exact h.read later y earlier key way (List.cons.inj split).2 read

theorem Reachable.held {rule : World → Move → Prop} (reach : w.Reachable rule) : w.Held :=
  reach.rule_induction (fun _ _ _ => held_new) fun _ m _ _ holds => holds.move m

/-- What was kept was asked for before, for a pair of points with that key. -/
theorem Traced.asked_of_wasKept (traced : w.Traced (·.keepsNothing)) {earlier : List Event}
    (before : earlier <:+ w.history) (kept : WasKept earlier key way) :
    ∃ y ∈ earlier, ∃ a b, y.exchange = ⟨.computeRoute a b, .ok way⟩ ∧ key = Geo.routeKey a b := by
  obtain ⟨x, noted, ttl, written⟩ := kept
  obtain ⟨later, split⟩ := before
  obtain ⟨newer, older, rfl⟩ := List.append_of_mem noted
  have own : w.trace x.process =
      traceOf (later ++ newer) x.process ++ x.exchange :: traceOf older x.process := by
    rw [trace, ← split, ← List.append_assoc, traceOf_append, traceOf_cons, if_pos rfl]
  rw [written] at own
  obtain ⟨-, -, a, b, keyed, asked⟩ := (traced.consults own).keeps key way ttl rfl
  obtain ⟨y, noted, -, answered⟩ := mem_traceOf.1 asked
  exact ⟨y, by simp [noted], a, b, answered, keyed⟩

/-- Only ordered pairs of points that are written alike share a key, that is, pairs whose coordinates, finite
or not, coincide up to the eighth decimal, each with its own counterpart. If nobody writes to the cache but
the look-ups, what is read from it for an ordered pair is what the provider had answered before for a pair
that is written alike. -/
theorem served_for_own_pair :
    (∀ p d p' d', Geo.routeKey p d = Geo.routeKey p' d' ↔
      Geo.WrittenAlike p p' ∧ Geo.WrittenAlike d d') ∧
    (∀ p p', Geo.WrittenAlike p p' ↔
      Decimal.Coincide Geo.places p.lat p'.lat ∧ Decimal.Coincide Geo.places p.lng p'.lng) ∧
    ∀ w : World, w.Reachable (Enters (·.keepsNothing)) →
      ∀ later x earlier, w.history = later ++ x :: earlier →
      ∀ p d way, x.exchange = ⟨.cacheGet (Geo.routeKey p d), .ok (some way)⟩ →
        ∃ y ∈ earlier, ∃ p' d', y.exchange = ⟨.computeRoute p' d', .ok way⟩ ∧
          Geo.WrittenAlike p p' ∧ Geo.WrittenAlike d d' := by
  refine ⟨fun _ _ _ _ => Geo.routeKey_eq_iff_writtenAlike, fun _ _ => Geo.writtenAlike_iff,
    fun w reach later x earlier split p d way read => ?_⟩
  have kept := reach.held.read later x earlier _ way split read
  have traced : w.Traced (·.keepsNothing) := reach.traced fun _ _ => id
  have before : earlier <:+ w.history :=
    ⟨later ++ [x], by rw [split, List.append_assoc, List.singleton_append]⟩
  obtain ⟨y, noted, p', d', answered, keyed⟩ := traced.asked_of_wasKept before kept
  exact ⟨y, noted, p', d', answered, Geo.routeKey_eq_iff_writtenAlike.1 keyed⟩

/-- A way was found under a key. -/
def Event.found (key : String) (x : Event) : Bool :=
  match x.exchange with
  | ⟨.cacheGet k, .ok (some _)⟩ => k = key
  | _ => false

/-- Somebody asks for the way from a corner, and then for the way from beside that corner. -/
theorem served_for_own_pair_beside :
    ∃ later x earlier way, (twice corner besideCorner).history = later ++ x :: earlier ∧
      x.exchange = ⟨.cacheGet (Geo.routeKey besideCorner ⟨1.3, 36.2⟩), .ok (some way)⟩ ∧
      ∃ y ∈ earlier, ∃ p d, y.exchange = ⟨.computeRoute p d, .ok way⟩ ∧
        Geo.WrittenAlike besideCorner p ∧ Geo.WrittenAlike ⟨1.3, 36.2⟩ d := by
  have hit : (twice corner besideCorner).history.any
      (Event.found (Geo.routeKey besideCorner ⟨1.3, 36.2⟩)) := by decide +kernel
  obtain ⟨x, noted, found⟩ := List.any_eq_true.1 hit
  obtain ⟨later, earlier, split⟩ := List.append_of_mem noted
  obtain ⟨way, read⟩ : ∃ way,
      x.exchange = ⟨.cacheGet (Geo.routeKey besideCorner ⟨1.3, 36.2⟩), .ok (some way)⟩ := by
    unfold Event.found at found
    split at found
    · next k way exchange => exact ⟨way, exchange.trans (by rw [of_decide_eq_true found])⟩
    · cases found
  have begun : (openWith true changing).Reachable (Enters (·.keepsNothing)) :=
    ⟨_, _, _, [], openWith_new true changing, trivial, rfl⟩
  have first : (once corner).Reachable (Enters (·.keepsNothing)) := by
    unfold once visit
    exact begun.run (obeys_of_keepsNothing (by simp [Trial.steps, Move.keepsNothing, Call.keepsNothing]))
  have reach : (twice corner besideCorner).Reachable (Enters (·.keepsNothing)) := by
    unfold twice visit
    exact first.run (obeys_of_keepsNothing (by simp [Trial.steps, Move.keepsNothing, Call.keepsNothing]))
  exact ⟨later, x, earlier, way, split, read,
    served_for_own_pair.2.2 _ reach later x earlier split _ _ way read⟩

end CourierDispatch.World
