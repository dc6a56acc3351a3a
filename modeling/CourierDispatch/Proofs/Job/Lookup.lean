import CourierDispatch.Proofs.Job.Path
import CourierDispatch.Quote

/-!
# Jobs that look up directions

Only the look-up of directions depends on whether there is a cache. So the job of a service with a
cache and that of the same service without one have the same shape: they ask for the same effects,
but where the one makes a look-up with the cache the other makes the same look-up without it
(`Job.Alike`). The shape goes through sequencing (`Alike.bind`). A look-up that is refused ends the
job with that refusal.
-/

namespace CourierDispatch

/-- Is the provider asked? -/
def Effect.consults : Effect → Bool
  | .computeRoute .. => true
  | _ => false

/-- The settings without a cache. -/
def RouteConfig.uncached (c : RouteConfig) : RouteConfig := { c with cacheEnabled := false }

def Config.uncached (c : Config) : Config := { c with cacheEnabled := false }

@[simp] theorem Config.routing_uncached (c : Config) : c.uncached.routing = c.routing.uncached := rfl

namespace Job

variable {α β : Type} {c : RouteConfig} {kind : Effect → Prop}
  {refuses : DispatchError → α → Prop} {refuses' : DispatchError → β → Prop}

/-- Jobs with the same effects, all of one kind, but for look-ups, which the first one makes as
`c` says and the second one without the cache. -/
inductive Alike (c : RouteConfig) (kind : Effect → Prop) (refuses : DispatchError → α → Prop) :
    Job α → Job α → Prop
  | done (a : α) : Alike c kind refuses (done a) (done a)
  | panic : Alike c kind refuses panic panic
  | act {e : Effect} {next next' : e.Reply → Job α} (allowed : kind e)
      (then_ : ∀ r, Alike c kind refuses (next r) (next' r)) :
      Alike c kind refuses (act e next) (act e next')
  | lookup (a b : GeoPoint) {k k' : Except DispatchError (String × Directions) → Job α}
      (found : ∀ way, Alike c kind refuses (k (.ok way)) (k' (.ok way)))
      (refused : ∀ err, ∃ r, k (.error err) = .done r ∧ k' (.error err) = .done r ∧ refuses err r) :
      Alike c kind refuses ((Quote.directionsBetween c a b).run >>= k)
        ((Quote.directionsBetween c.uncached a b).run >>= k')

theorem Alike.of_only {ends : α → Prop} {j : Job α} (only : j.Only kind ends) :
    Alike c kind refuses j j := by
  induction j with
  | done a => exact .done a
  | panic => exact only.elim
  | act e next ih => exact .act only.1 fun r => ih r (only.2 r)

/-- One job after another. What the first one is refused, the second one passes on. -/
theorem Alike.bind {j j' : Job α} {f f' : α → Job β} (first : Alike c kind refuses j j')
    (second : ∀ a, Alike c kind refuses' (f a) (f' a))
    (passes : ∀ err a, refuses err a → ∃ r, f a = .done r ∧ f' a = .done r ∧ refuses' err r) :
    Alike c kind refuses' (j >>= f) (j' >>= f') := by
  induction first with
  | done a => exact second a
  | panic => exact .panic
  | act allowed _ ih => exact .act allowed ih
  | lookup a b found refused ih =>
    rw [bind_assoc, bind_assoc]
    refine .lookup a b ih fun err => ?_
    obtain ⟨r, same, same', refusal⟩ := refused err
    rw [same, same']
    exact passes err r refusal

/-- A job that is refused nothing before another one. -/
theorem Alike.then {j j' : Job α} {f f' : α → Job β} (first : Alike c kind (fun _ _ => False) j j')
    (second : ∀ a, Alike c kind refuses' (f a) (f' a)) :
    Alike c kind refuses' (j >>= f) (j' >>= f') :=
  first.bind second fun _ _ => False.elim

theorem Alike.map {j j' : Job α} {f : α → β} (first : Alike c kind refuses j j')
    (passes : ∀ err a, refuses err a → refuses' err (f a)) :
    Alike c kind refuses' (f <$> j) (f <$> j') :=
  first.bind (fun a => .done (f a)) fun err a refusal => ⟨f a, rfl, rfl, passes err a refusal⟩

end Job

/-! ## Attempts -/

namespace Attempt

open Job

variable {α β : Type} {c : RouteConfig} {kind : Effect → Prop}

/-- An attempt is refused what it was refused on the way. -/
def Refused (err : DispatchError) (r : Except DispatchError α) : Prop := r = .error err

/-- Attempts that differ only in their look-ups. -/
def Alike (c : RouteConfig) (kind : Effect → Prop) (a a' : Attempt α) : Prop :=
  Job.Alike c kind Refused a.run a'.run

theorem Alike.of_only {a : Attempt α} (only : Attempt.Only kind a) : Alike c kind a a :=
  Job.Alike.of_only only

theorem alike_directionsBetween (c : RouteConfig) (a b : GeoPoint) :
    Alike c kind (Quote.directionsBetween c a b) (Quote.directionsBetween c.uncached a b) := by
  have look : Job.Alike c kind Refused ((Quote.directionsBetween c a b).run >>= Job.done)
      ((Quote.directionsBetween c.uncached a b).run >>= Job.done) :=
    .lookup a b (fun way => .done _) fun err => ⟨_, rfl, rfl, rfl⟩
  rwa [bind_done, bind_done] at look

theorem Alike.bind {a a' : Attempt α} {f f' : α → Attempt β} (first : Alike c kind a a')
    (second : ∀ v, Alike c kind (f v) (f' v)) : Alike c kind (a >>= f) (a' >>= f') := by
  refine Job.Alike.bind first (fun r => ?_) ?_
  · cases r with
    | ok v => exact second v
    | error err => exact .done _
  · rintro err _ rfl
    exact ⟨_, rfl, rfl, rfl⟩

theorem Alike.after {a : Attempt α} {f f' : α → Attempt β} (first : Attempt.Only kind a)
    (second : ∀ v, Alike c kind (f v) (f' v)) : Alike c kind (a >>= f) (a >>= f') :=
  (Alike.of_only first).bind second

/-- An attempt whose result is put into an answer. -/
theorem Alike.answered {a a' : Attempt α} {f f' : Except DispatchError α → Job β}
    {refuses : DispatchError → β → Prop} (first : Alike c kind a a')
    (second : ∀ v, Job.Alike c kind refuses (f (.ok v)) (f' (.ok v)))
    (refused : ∀ err, ∃ r, f (.error err) = .done r ∧ f' (.error err) = .done r ∧ refuses err r) :
    Job.Alike c kind refuses (a.run >>= f) (a'.run >>= f') := by
  refine Job.Alike.bind first (fun r => ?_) ?_
  · cases r with
    | ok v => exact second v
    | error err =>
      obtain ⟨r, same, same', -⟩ := refused err
      rw [same, same']
      exact .done r
  · rintro err _ rfl
    exact refused err

end Attempt

end CourierDispatch
