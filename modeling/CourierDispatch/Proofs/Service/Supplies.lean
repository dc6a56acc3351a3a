import CourierDispatch.Proofs.Conduct.Consultation
import CourierDispatch.Proofs.Service.Rules

/-!
# What the cache and the provider supply

A move changes the cache only where it answers a process (`supplied_move`), and `Supplies` lists what the
cache and the maps provider reply. If nobody writes to the cache but the look-ups, every way that is kept
or read is one that the provider has answered for a way with that key (`Sourced`).
-/

namespace CourierDispatch

/-- An effect that the cache or the provider of places and ways answers. -/
def Effect.supplied : Effect → Bool
  | .cacheGet _ | .cacheSet .. | .computeRoute .. | .placeDetails _ => true
  | _ => false

namespace World

variable {calls : Call → Prop} {w w' : World} {pid : Nat} {v : Verdict} {e : Effect} {r : e.Reply}
  {rule : World → Move → Prop}

/-- What the cache and the provider reply under a verdict, and the cache behind the reply. -/
inductive Supplies (w : World) (v : Verdict) : (e : Effect) → e.Reply → RouteCache → Prop
  | dictated {e : Effect} {r : e.Reply} (h : e.dictated v = some r) : Supplies w v e r w.cache
  | read (key : String) : Supplies w v (.cacheGet key) (.ok (w.cache.get w.cacheTime key).1)
      (w.cache.get w.cacheTime key).2
  | wrote {key : String} {way : Directions} {ttl : Nat} {c : RouteCache}
      (h : w.cache.set? w.cacheTime key way ttl = some c) :
      Supplies w v (.cacheSet key way ttl) (.ok ()) c
  | asked (a b : GeoPoint) :
      Supplies w v (.computeRoute a b) (w.around.directions w.answered a b) w.cache
  | placed (id : String) : Supplies w v (.placeDetails id) (w.around.placeDetails id) w.cache
  | apart {e : Effect} {r : e.Reply} (h : e.supplied = false) : Supplies w v e r w.cache

theorem supplies_of_respond (h : w.respond e = some (r, w')) : w.Supplies v e r w'.cache := by
  cases e with
  | cacheGet key => cases h; exact .read key
  | cacheSet key way ttl =>
    simp only [respond, Option.map_eq_some_iff] at h
    obtain ⟨c, written, h⟩ := h
    cases h
    exact .wrote written
  | computeRoute a b =>
    simp only [respond] at h
    split at h
    · next way answered => cases h; exact answered ▸ .asked a b
    · next err answered => cases h; exact answered ▸ .asked a b
  | placeDetails id => cases h; exact .placed id
  | store op =>
    simp only [respond] at h
    split at h <;> cases h <;> exact .apart rfl
  | startRun trip pickup =>
    simp only [respond] at h
    split at h <;> cases h <;> exact .apart rfl
  | _ => cases h; exact .apart rfl

theorem supplies_of_answer (h : w.answer pid v e = some (r, w')) : w.Supplies v e r w'.cache := by
  simp only [answer, Option.map_eq_some_iff, Prod.exists] at h
  obtain ⟨r₁, w₁, replied, h⟩ := h
  cases h
  split at replied
  · next dictated => cases replied; exact .dictated dictated
  · have supplies : w.Supplies v e r w₁.cache := supplies_of_respond replied
    exact supplies

/-- A move that answers nobody leaves the cache alone. -/
theorem supplied_move (w : World) (m : Move) :
    ((w.move m).history = w.history ∧ (w.move m).cache = w.cache) ∨
      ∃ pid v used e r, m = .step pid v ∧ (used = v ∧ w.Asks pid e ∨ used = .proceed) ∧
        (w.move m).history = ⟨w.now, pid, e, r⟩ :: w.history ∧
        w.Supplies used e r (w.move m).cache := by
  cases m with
  | enter | pass => exact .inl ⟨rfl, rfl⟩
  | step pid v =>
    have turn := turn_step w pid v
    simp only [World.move]
    generalize w.step pid v = after at turn ⊢
    cases turn with
    | idle | turned => exact .inl ⟨rfl, rfl⟩
    | broke =>
      unfold breakDown
      split <;> exact .inl ⟨rfl, rfl⟩
    | @answered task p e next used r w' found before replied verdict =>
      have supplies : w.Supplies used e r w'.cache := supplies_of_answer replied
      refine .inr ⟨pid, v, used, e, r, rfl, ?_, (replied_of_answer replied).2.2, supplies⟩
      rcases verdict with ⟨rfl, rfl⟩ | rfl
      · exact .inl ⟨rfl, task, next, found⟩
      · exact .inr rfl

/-! ## Where ways come from -/

/-- The provider answers a way for a pair of points with that key. -/
def Answers (around : Surroundings) (key : String) (way : Directions) : Prop :=
  ∃ n a b, key = Geo.routeKey a b ∧ around.directions n a b = .ok way

structure Sourced (w : World) : Prop where
  kept : ∀ key entry, w.cache.entries.get? key = some entry → Answers w.around key entry.route
  read : ∀ x ∈ w.history, ∀ key way, x.exchange = ⟨.cacheGet key, .ok (some way)⟩ →
    Answers w.around key way
  answered : ∀ x ∈ w.history, ∀ a b way, x.exchange = ⟨.computeRoute a b, .ok way⟩ →
    ∃ n, w.around.directions n a b = .ok way
  placed : ∀ x ∈ w.history, ∀ id place, x.exchange = ⟨.placeDetails id, .ok place⟩ →
    w.around.placeDetails id = .ok place

theorem sourced_new {config : Config} {around : Surroundings}
    (h : World.new? config around = some w) : w.Sourced := by
  obtain ⟨bus, rfl⟩ := eq_of_new? h
  constructor
  · intro key entry there
    cases there
  · simp
  · simp
  · simp

/-- A process looks ways up as every job does. -/
theorem Traced.consults (h : w.Traced fun call => call.keepsNothing) {later past : List Exchange}
    {x : Exchange} (split : w.trace pid = later ++ x :: past) :
    Consults w.config.routing past x.effect := by
  have seen : x ∈ w.trace pid := by
    rw [split]
    simp
  obtain ⟨y, noted, own, -⟩ := mem_traceOf.1 seen
  obtain ⟨start, job, origin, path, -⟩ :=
    h.path pid _ (List.getElem?_eq_getElem (own ▸ h.known y noted))
  exact (origin.consults fun _ => id).asked (split ▸ path)

/-- A way that was read was kept. -/
theorem Supplies.read_kept {cache : RouteCache} {key : String} {way : Directions}
    (h : w.Supplies v (.cacheGet key) (.ok (some way)) cache) :
    ∃ entry, w.cache.entries.get? key = some entry ∧ entry.route = way ∧
      w.cacheTime < entry.expiresAt := by
  generalize answered : (Except.ok (some way) : (Effect.cacheGet key).Reply) = r at h
  cases h with
  | dictated h =>
    subst answered
    cases v <;> cases h
  | read => exact RouteCache.entry_of_get (Except.ok.inj answered).symm
  | apart h => cases h

/-- A way that the provider answered. -/
theorem Supplies.answered {cache : RouteCache} {a b : GeoPoint} {way : Directions}
    (h : w.Supplies v (.computeRoute a b) (.ok way) cache) :
    ∃ n, w.around.directions n a b = .ok way := by
  generalize answered : (Except.ok way : (Effect.computeRoute a b).Reply) = r at h
  cases h with
  | dictated h =>
    subst answered
    cases v <;> cases h
  | asked => exact ⟨w.answered, rfl⟩
  | apart h => cases h

/-- A place that the provider knows. -/
theorem Supplies.place {cache : RouteCache} {id : String} {place : Place}
    (h : w.Supplies v (.placeDetails id) (.ok place) cache) :
    w.around.placeDetails id = .ok place := by
  generalize answered : (Except.ok place : (Effect.placeDetails id).Reply) = r at h
  cases h with
  | dictated h =>
    subst answered
    cases v <;> cases h
  | placed => rfl
  | apart h => cases h

theorem Sourced.move (h : w.Sourced) (traced : w.Traced fun call => call.keepsNothing) (m : Move)
    (harmless : ∀ call, m = .enter call → call.keepsNothing) : (w.move m).Sourced := by
  have around : (w.move m).around = w.around := (given_move w m).2
  rcases supplied_move w m with ⟨history, cache⟩ | ⟨pid, v, used, e, r, rfl, -, history, supplies⟩
  · refine ⟨?_, ?_, ?_, ?_⟩ <;> simp only [history, cache, around]
    · exact h.kept
    · exact h.read
    · exact h.answered
    · exact h.placed
  · have ahead := traced.move _ harmless
    generalize w.move (.step pid v) = w' at around history supplies ahead ⊢
    have known {a b : GeoPoint} {way : Directions}
        (seen : ⟨.computeRoute a b, .ok way⟩ ∈ w.trace pid) :
        ∃ n, w.around.directions n a b = .ok way := by
      obtain ⟨y, noted, -, exchange⟩ := mem_traceOf.1 seen
      exact h.answered y noted a b way exchange
    refine ⟨fun key entry there => ?_, fun x noted key way read => ?_,
      fun x noted a b way answer => ?_, fun x noted id place told => ?_⟩
    · rw [around]
      generalize w'.cache = cache at supplies there
      cases supplies with
      | dictated | asked | placed | apart => exact h.kept key entry there
      | read => exact h.kept key entry (RouteCache.get?_of_get there)
      | @wrote key' way ttl c written =>
        rw [RouteCache.get?_of_set? written] at there
        split at there
        · next same =>
          cases there
          have own : w'.trace pid = [] ++ ⟨.cacheSet key' way ttl, .ok ()⟩ :: w.trace pid := by
            rw [trace, history, traceOf_cons, if_pos rfl]
            rfl
          obtain ⟨-, -, a, b, keyed, seen⟩ := (ahead.consults own).keeps key' way ttl rfl
          obtain ⟨n, answer⟩ := known seen
          exact ⟨n, a, b, same.trans keyed, answer⟩
        · exact h.kept key entry there
    · rw [around]
      rw [history] at noted
      rcases List.mem_cons.1 noted with rfl | old
      · cases read
        obtain ⟨entry, there, rfl, -⟩ := supplies.read_kept
        exact h.kept key entry there
      · exact h.read x old key way read
    · rw [around]
      rw [history] at noted
      rcases List.mem_cons.1 noted with rfl | old
      · cases answer
        exact supplies.answered
      · exact h.answered x old a b way answer
    · rw [around]
      rw [history] at noted
      rcases List.mem_cons.1 noted with rfl | old
      · cases told
        exact supplies.place
      · exact h.placed x old id place told

/-- If only look-ups write to the cache, ways come from the provider. -/
theorem Reachable.sourced (reach : w.Reachable rule)
    (harmless : ∀ w m, rule w m → w.Enters (·.keepsNothing) m) : w.Sourced :=
  reach.rule_induction (fun _ _ _ => sourced_new) fun _ m reach allowed holds =>
    holds.move (reach.traced harmless) m (harmless _ m allowed)

end World

end CourierDispatch
