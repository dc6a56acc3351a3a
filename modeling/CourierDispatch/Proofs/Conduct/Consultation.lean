import CourierDispatch.Proofs.Conduct.Lookups
import CourierDispatch.Proofs.Conduct.Rule
import CourierDispatch.Proofs.Service.Trace

/-!
# How ways are looked up

Where there is a cache, a process keeps only what the provider has answered it, under the key of the way
that it had asked for, and it asks the provider only for a way that it has not found there (`Consults`).
Where there is none, it keeps nothing. A way that was looked up was found in the cache, or answered and then kept (`FoundWay`).
This holds of every job, since jobs differ from each other in all but their look-ups (`Job.Alike`).
-/

namespace CourierDispatch

open Job

structure Consults (c : RouteConfig) (past : List Exchange) (e : Effect) : Prop where
  keeps : ∀ key way ttl, e = .cacheSet key way ttl → c.cacheEnabled ∧ ttl = c.cacheTtl ∧
    ∃ a b, key = Geo.routeKey a b ∧ ⟨.computeRoute a b, .ok way⟩ ∈ past
  asks : ∀ a b, e = .computeRoute a b → c.cacheEnabled →
    ∃ r, ⟨.cacheGet (Geo.routeKey a b), r⟩ ∈ past ∧ ∀ way, r ≠ .ok (some way)

/-- Where a way that was looked up comes from. -/
def FoundWay (c : RouteConfig) (a b : GeoPoint) (past : List Exchange)
    (o : Option (Except DispatchError (String × Directions))) : Prop :=
  ∀ key way, o = some (.ok (key, way)) → key = Geo.routeKey a b ∧
    (c.cacheEnabled ∧ ⟨.cacheGet key, .ok (some way)⟩ ∈ past ∨
      ⟨.computeRoute a b, .ok way⟩ ∈ past ∧
        (c.cacheEnabled → ∃ r, ⟨.cacheSet key way c.cacheTtl, r⟩ ∈ past))

/-- An effect that neither asks the provider nor keeps a way. -/
def Effect.unasked : Effect → Bool
  | .computeRoute .. | .cacheSet .. => false
  | _ => true

variable {c : RouteConfig} {past : List Exchange} {e : Effect}

theorem FoundWay.mono {a b : GeoPoint} {own : List Exchange}
    {o : Option (Except DispatchError (String × Directions))} (h : FoundWay c a b past o)
    (within : past ⊆ own) : FoundWay c a b own o := by
  intro key way same
  obtain ⟨keyed, ⟨on, read⟩ | ⟨asked, kept⟩⟩ := h key way same
  · exact ⟨keyed, .inl ⟨on, within read⟩⟩
  · refine ⟨keyed, .inr ⟨within asked, fun on => ?_⟩⟩
    obtain ⟨r, written⟩ := kept on
    exact ⟨r, within written⟩

theorem consults_of_unasked (unasked : e.unasked) : Consults c past e where
  keeps key way ttl same := by subst same; cases unasked
  asks a b same := by subst same; cases unasked

theorem Effect.unasked_of_common (common : e.common) : e.unasked := by
  cases e <;> first | rfl | cases common

/-! ## One look-up -/

theorem meets_fetch {a b : GeoPoint} {key : String} (keyed : key = Geo.routeKey a b)
    (on : c.cacheEnabled) (missed : ∃ r, ⟨.cacheGet key, r⟩ ∈ past ∧ ∀ way, r ≠ .ok (some way)) :
    Meets (Consults c) (fun past o => ∀ way, o = some (.ok way) →
        ⟨.computeRoute a b, .ok way⟩ ∈ past ∧ ∃ r, ⟨.cacheSet key way c.cacheTtl, r⟩ ∈ past)
      past (Quote.fetch c key a b).run := by
  refine ⟨⟨nofun, ?_⟩, fun answer _ => ?_⟩
  · rintro _ _ ⟨⟩ -
    exact keyed ▸ missed
  · cases answer with
    | error err => exact nofun
    | ok way =>
      refine ⟨⟨?_, nofun⟩, fun r _ => ?_⟩
      · rintro _ _ _ ⟨⟩
        exact ⟨on, rfl, a, b, keyed, List.mem_cons_self⟩
      · rintro _ ⟨⟩
        exact ⟨List.mem_cons_of_mem _ List.mem_cons_self, r, List.mem_cons_self⟩

theorem meets_directionsBetween (a b : GeoPoint) (past : List Exchange) :
    Meets (Consults c) (FoundWay c a b) past (Quote.directionsBetween c a b).run := by
  unfold Quote.directionsBetween
  generalize keyed : Geo.routeKey a b = key
  -- A way that was fetched is found.
  have fetched (past : List Exchange) (on : c.cacheEnabled)
      (missed : ∃ r, ⟨.cacheGet key, r⟩ ∈ past ∧ ∀ way, r ≠ .ok (some way)) :
      Meets (Consults c) (FoundWay c a b) past (do
        let way ← Quote.fetch c key a b
        return (key, way) : Attempt (String × Directions)).run := by
    refine (meets_fetch keyed.symm on missed).bind (fun _ _ => nofun) fun past r answered => ?_
    cases r with
    | error err => exact nofun
    | ok way =>
      rintro _ _ ⟨⟩
      obtain ⟨asked, kept⟩ := answered way rfl
      exact ⟨keyed.symm, .inr ⟨asked, fun _ => kept⟩⟩
  split
  · next off =>
    have off : ¬ c.cacheEnabled := by simpa using off
    refine ⟨⟨nofun, nofun⟩, fun _ _ => ⟨⟨nofun, fun _ _ _ on => absurd on off⟩, fun answer _ => ?_⟩⟩
    cases answer with
    | error err => exact nofun
    | ok way =>
      rintro _ _ ⟨⟩
      exact ⟨keyed.symm, .inr ⟨List.mem_cons_self, fun on => absurd on off⟩⟩
  · next on =>
    have on : c.cacheEnabled := by simpa using on
    refine ⟨⟨nofun, nofun⟩, fun kept _ => ?_⟩
    rcases kept with err | _ | way
    · exact ⟨⟨nofun, nofun⟩, fun _ _ => fetched _ on ⟨.error err, by simp, nofun⟩⟩
    · exact ⟨⟨nofun, nofun⟩, fun _ _ => fetched _ on ⟨.ok none, by simp, nofun⟩⟩
    · refine ⟨⟨nofun, nofun⟩, fun _ _ => ?_⟩
      rintro _ _ ⟨⟩
      exact ⟨keyed.symm, .inl ⟨on, by simp⟩⟩

/-! ## Every job -/

theorem Job.Alike.consults {α : Type} {kind : Effect → Prop} {refuses : DispatchError → α → Prop}
    {j j' : Job α} (h : Alike c kind refuses j j') (apart : ∀ e, kind e → e.unasked)
    (past : List Exchange) : Meets (Consults c) (fun _ _ => True) past j := by
  induction h generalizing past with
  | done | panic => trivial
  | act allowed _ ih => exact ⟨consults_of_unasked (apart _ allowed), fun r _ => ih r _⟩
  | lookup a b _ refused ih =>
    refine (meets_directionsBetween a b past).bind (fun _ _ => trivial) fun past r _ => ?_
    cases r with
    | ok way => exact ih way past
    | error err =>
      obtain ⟨r, same, -⟩ := refused err
      rw [same]
      trivial

theorem World.Origin.consults {calls : Call → Prop} {c : Config} {task : Task} {job : Job Result}
    (h : Origin calls c task job) (keepsNothing : ∀ call, calls call → call.keepsNothing) :
    Meets (Consults c.routing) (fun _ _ => True) [] job := by
  have common (e : Effect) : e.common → e.unasked := Effect.unasked_of_common
  cases h with
  | @call call allowed =>
    refine (alike_call common c call fun e inspects => ?_).consults (fun _ => id) []
    have harmless := keepsNothing call allowed
    unfold Call.Inspects at inspects
    split at inspects
    · rw [inspects]; rfl
    · cases harmless
    · rw [inspects.2]; rfl
    · rw [inspects.2]; rfl
    · exact inspects.elim
  | fare trip courier => exact (alike_fareJob common c trip courier).consults (fun _ => id) []
  | run trip pickup => exact (alike_runJob common c trip pickup fun _ => rfl).consults (fun _ => id) []

end CourierDispatch
