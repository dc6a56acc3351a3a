import Mathlib.Data.List.Forall2
import CourierDispatch.Proofs.Conduct.Lookups
import CourierDispatch.Proofs.Geo.RouteKey
import CourierDispatch.Proofs.Job.Mirror
import CourierDispatch.Proofs.Service.Rules

/-!
# A service without a cache

The same service without a cache (`World.cacheless`) is set up otherwise, and has its own books about
look-ups (`World.Own`). Its processes are abreast of those of the service with a cache if each stands
at the mirror of what the other one stands at (`Process.Pair`). Whatever is aside from look-ups is
answered alike in both (`answer_cacheless`).
-/

namespace CourierDispatch

open Job

/-- The provider goes by the two points as they are written with eight decimals. -/
def Surroundings.Steady (around : Surroundings) : Prop :=
  ∀ n a b a' b', Geo.rendering a = Geo.rendering a' → Geo.rendering b = Geo.rendering b' →
    around.directions n a b = around.directions 0 a' b'

/-! ## Processes beside their mirrors -/

section

variable (c : RouteConfig) (f : GeoPoint → GeoPoint → Except DispatchError Directions)

/-- How far a process and its mirror have got. -/
inductive Progress.Abreast : Progress → Progress → Prop
  | ready {due : Bool} {j k : Job Result} (beside : Mirrors c f Result.Refused due j k) :
      Abreast (.ready j) (.ready k)
  | waiting {wake : Nat} {e : Effect} {next next' : e.Reply → Job Result} (aside : e.aside)
      (then_ : ∀ r, Mirrors c f Result.Refused false (next r) (next' r)) :
      Abreast (.waiting wake e next) (.waiting wake e next')
  | ended (r : Result) : Abreast (.ended r) (.ended r)
  | broken : Abreast .broken .broken

/-- A process and its mirror. -/
inductive Process.Pair : Process → Process → Prop
  | intro {task : Task} {p q : Progress} (abreast : p.Abreast c f q) : Pair ⟨task, p⟩ ⟨task, q⟩

/-- A process that was just started and its mirror. -/
inductive Process.Fresh : Process → Process → Prop
  | intro {task : Task} {j k : Job Result} (beside : Mirrors c f Result.Refused false j k) :
      Fresh ⟨task, .ready j⟩ ⟨task, .ready k⟩

end

namespace World

/-- What a service without a cache has of its own. -/
structure Own where
  cache : RouteCache
  lookups : Tally
  answered : Nat
  processes : List Process
  history : List Event

/-- The same service without a cache. -/
def cacheless (w : World) (o : Own) : World :=
  { w with
    config := w.config.uncached
    cache := o.cache
    metrics := { w.metrics with lookups := o.lookups }
    answered := o.answered
    processes := o.processes
    history := o.history }

abbrev Beside (w : World) : Bool → Job Result → Job Result → Prop :=
  Mirrors w.config.routing (w.around.directions 0) Result.Refused

abbrev Pair (w : World) : Process → Process → Prop :=
  Process.Pair w.config.routing (w.around.directions 0)

abbrev Fresh (w : World) : Process → Process → Prop :=
  Process.Fresh w.config.routing (w.around.directions 0)

variable {w w' : World} {o : Own} {pid : Nat} {v : Verdict} {e : Effect}
  {task : Task} {p : Progress}

theorem pair_of_fresh {a b : Process} (h : w.Fresh a b) : w.Pair a b := by
  obtain ⟨beside⟩ := h
  exact .intro (.ready beside)

theorem aside_of_common (common : e.common) : e.aside := by
  cases e <;> first | rfl | cases common

theorem beside_fareJob (w : World) (trip courier : Uuid) :
    w.Beside false (fareJob w.config trip courier) (fareJob w.config.uncached trip courier) :=
  (alike_fareJob (fun _ => aside_of_common) w.config trip courier).mirrors

theorem beside_runJob (w : World) (trip : Uuid) (pickup : GeoPoint) :
    w.Beside false (runJob w.config trip pickup) (runJob w.config.uncached trip pickup) :=
  (alike_runJob (fun _ => aside_of_common) w.config trip pickup fun _ => rfl).mirrors

/-- A service that some processes were started in, with nothing else done that concerns look-ups. The
same were started without a cache. -/
structure Alongside (w w' : World) (new new' : List Process) : Prop where
  processes : w'.processes = w.processes ++ new
  fresh : List.Forall₂ w.Fresh new new'
  cache : w'.cache = w.cache
  lookups : w'.metrics.lookups = w.metrics.lookups
  config : w'.config = w.config
  around : w'.around = w.around

theorem Alongside.of_same (processes : w'.processes = w.processes) (cache : w'.cache = w.cache)
    (lookups : w'.metrics.lookups = w.metrics.lookups) (config : w'.config = w.config)
    (around : w'.around = w.around) : Alongside w w' [] [] :=
  ⟨processes.trans (List.append_nil _).symm, .nil, cache, lookups, config, around⟩

/-- What an effect aside from look-ups does, it does in the same way without a cache. -/
theorem respond_cacheless (aside : e.aside) (w : World) (o : Own) : ∃ r w' new new',
    w.respond e = some (r, w') ∧
    (w.cacheless o).respond e =
      some (r, w'.cacheless { o with processes := o.processes ++ new' }) ∧
    Alongside w w' new new' := by
  have nil (q : Own) : { q with processes := q.processes ++ [] } = q := by
    rw [List.append_nil]
  cases e with
  | store op =>
    cases done : w.store.perform w.stamp op with
    | ok x =>
      obtain ⟨a, s⟩ := x
      refine ⟨.ok a, { w with store := s }, [], [], ?_, ?_, .of_same rfl rfl rfl rfl rfl⟩
      · simp only [respond, done]
      · have done' : (w.cacheless o).store.perform (w.cacheless o).stamp op = .ok (a, s) := done
        simp only [respond, done', nil]
        rfl
    | error err =>
      refine ⟨.error err, w, [], [], ?_, ?_, .of_same rfl rfl rfl rfl rfl⟩
      · simp only [respond, done]
      · have done' : (w.cacheless o).store.perform (w.cacheless o).stamp op = .error err := done
        simp only [respond, done', nil]
  | startFare trip courier =>
    refine ⟨(), w.spawn (.fare trip courier) (fareJob w.config trip courier), _, _, rfl, rfl, rfl,
      .cons (.intro (w.beside_fareJob trip courier)) .nil, rfl, rfl, rfl, rfl⟩
  | startRun trip pickup =>
    by_cases taken : trip ∈ w.active
    · refine ⟨false, w, [], [], if_pos taken, ?_, .of_same rfl rfl rfl rfl rfl⟩
      rw [nil]
      exact if_pos taken
    · exact ⟨true, _, _, _, if_neg taken, if_neg taken, rfl,
        .cons (.intro (w.beside_runJob trip pickup)) .nil, rfl, rfl, rfl, rfl⟩
  | placeDetails | autocomplete | publish | subscribe | countTransition | sleep | waitUntil | race
  | setTimers | stamp | drawId | finishRun | census =>
    refine ⟨_, _, [], [], rfl, ?_, .of_same rfl rfl rfl rfl rfl⟩
    rw [nil]
    rfl
  | cacheGet | cacheSet | computeRoute | countLookup | exposition => cases aside

/-- The same under any verdict. -/
theorem answer_cacheless (aside : e.aside) (w : World) (o : Own) (pid : Nat) (v : Verdict) :
    ∃ r w' new new',
      w.answer pid v e = some (r, w') ∧
      (w.cacheless o).answer pid v e = some (r, w'.cacheless { o with
        processes := o.processes ++ new', history := ⟨w.now, pid, e, r⟩ :: o.history }) ∧
      Alongside w w' new new' := by
  cases dictated : e.dictated v with
  | some r =>
    refine ⟨r, w.told pid e r, [], [], answer_of_dictated dictated, ?_, .of_same rfl rfl rfl rfl rfl⟩
    rw [answer_of_dictated dictated, List.append_nil]
    rfl
  | none =>
    obtain ⟨r, w', new, new', replied, replied', processes, fresh, cache, lookups, config, around⟩ :=
      respond_cacheless aside w o
    have now : w'.now = w.now := (same_of_respond replied).2
    refine ⟨r, w'.told pid e r, new, new', answer_of_respond dictated replied, ?_,
      ⟨processes, fresh, cache, lookups, config, around⟩⟩
    rw [answer_of_respond dictated replied', told, ← now]
    rfl

/-! ## Steps without a cache -/

theorem setProgress_cacheless (w : World) (p q : Progress) (o : Own) :
    (w.cacheless o).setProgress pid q = (w.setProgress pid p).cacheless
      { o with processes := o.processes.modify pid ({ · with progress := q }) } := rfl

/-- A process and its mirror at one place in two lists. -/
theorem Pair.modify {l l' : List Process} (h : List.Forall₂ w.Pair l l')
    (found : l[pid]? = some ⟨task, p⟩) : ∃ q, l'[pid]? = some ⟨task, q⟩ ∧
      p.Abreast w.config.routing (w.around.directions 0) q ∧
      (∀ p' q', p'.Abreast w.config.routing (w.around.directions 0) q' →
        List.Forall₂ w.Pair (l.modify pid ({ · with progress := p' }))
          (l'.modify pid ({ · with progress := q' }))) ∧
      ∀ p', p'.Abreast w.config.routing (w.around.directions 0) q →
        List.Forall₂ w.Pair (l.modify pid ({ · with progress := p' })) l' := by
  induction h generalizing pid with
  | nil => cases found
  | @cons a b l l' first rest ih =>
    cases pid with
    | zero =>
      cases Option.some.inj found
      obtain @⟨_, _, q, abreast⟩ := first
      exact ⟨q, rfl, abreast, fun p' q' abreast' => .cons (.intro abreast') rest,
        fun p' abreast' => .cons (.intro abreast') rest⟩
    | succ pid =>
      obtain ⟨q, at_, abreast, both, one⟩ := ih found
      exact ⟨q, at_, abreast, fun p' q' abreast' => .cons first (both p' q' abreast'),
        fun p' abreast' => .cons first (one p' abreast')⟩

/-- A look-up is counted without a cache. -/
theorem step_cacheless_count {l : Lookup} {next : Unit → Job Result}
    (found : o.processes[pid]? = some ⟨task, .ready (.act (.countLookup l) next)⟩) (v : Verdict) :
    ∃ o', (w.cacheless o).step pid v = w.cacheless o' ∧
      o'.processes = o.processes.modify pid ({ · with progress := .ready (next ()) }) := by
  have free : (Effect.countLookup l).dictated v = none := by cases v <;> rfl
  have found' : (w.cacheless o).processes[pid]? =
    some ⟨task, .ready (.act (.countLookup l) next)⟩ := found
  rw [step_of_answer found' rfl (answer_of_respond free rfl)]
  exact ⟨⟨o.cache, o.lookups.bump l.label, o.answered, _, _⟩, rfl, rfl⟩

/-- What the provider answers, in a service that the points of a way are given to. -/
theorem respond_computeRoute (steady : w.around.Steady) (a b : GeoPoint) : ∃ n,
    w.respond (.computeRoute a b) = some (w.around.directions 0 a b, { w with answered := n }) := by
  have same : w.around.directions w.answered a b = w.around.directions 0 a b :=
    steady _ a b a b rfl rfl
  rw [← same]
  cases answer : w.around.directions w.answered a b with
  | ok route => exact ⟨w.answered + 1, by simp only [respond, answer]⟩
  | error err => exact ⟨w.answered, by simp only [respond, answer]⟩

/-- The provider is asked without a cache. -/
theorem step_cacheless_ask (steady : w.around.Steady) {a b : GeoPoint}
    {next : Except DispatchError Directions → Job Result}
    (found : o.processes[pid]? = some ⟨task, .ready (.act (.computeRoute a b) next)⟩) :
    ∃ o', (w.cacheless o).step pid .proceed = w.cacheless o' ∧
      o'.processes = o.processes.modify pid
        ({ · with progress := .ready (next (w.around.directions 0 a b)) }) := by
  have found' : (w.cacheless o).processes[pid]? =
    some ⟨task, .ready (.act (.computeRoute a b) next)⟩ := found
  have steady' : (w.cacheless o).around.Steady := steady
  obtain ⟨n, replied⟩ := respond_computeRoute steady' a b
  rw [step_of_answer found' rfl (answer_of_respond rfl replied)]
  exact ⟨⟨o.cache, o.lookups, n, _, _⟩, rfl, rfl⟩

end World

end CourierDispatch
