import CourierDispatch.Proofs.Service.Cacheless
import CourierDispatch.Proofs.Service.Trial

/-!
# A service with a cache and the same service without one

Beside each run of a service with a cache there is a run of the same service without one: the same
calls come in, the same time passes, and each process takes the steps that its mirror takes
(`World.mirrored`). If the provider's answer depends only on how the two points are written with
eight decimals, both services stay the same in all but what they count and keep about look-ups
(`cache_transparent`). What carries this is that each entry of the cache is what the provider
answers for its key (`Transparent.kept`).
-/

namespace CourierDispatch

open Job

namespace World

variable {w w' : World} {o o' : Own} {pid : Nat} {v : Verdict} {e : Effect} {r : e.Reply}
  {task : Task} {due : Bool} {j k : Job Result} {p p' : Progress}

/-! ## What is counted -/

/-- The way that a process is just about to ask the provider for. -/
def asking? (p : Process) : Option (GeoPoint × GeoPoint) :=
  match p.progress with
  | .ready (.act (.computeRoute a b) _) => some (a, b)
  | _ => none

/-- The ways that the provider is just about to be asked for. -/
def asking (w : World) : List (GeoPoint × GeoPoint) := w.processes.filterMap asking?

/-- How many times the provider was asked. -/
def consulted (w : World) : Nat := w.history.countP (·.effect.consults)

/-- How many look-ups were counted that were no hit. -/
def misses (w : World) : Nat :=
  w.metrics.lookups.count Lookup.bypass.label + w.metrics.lookups.count Lookup.miss.label +
    w.metrics.lookups.count Lookup.failed.label

theorem misses_bump (m : Metrics) (l : Lookup) :
    ((m.countLookup l).lookups.count Lookup.bypass.label +
      (m.countLookup l).lookups.count Lookup.miss.label +
      (m.countLookup l).lookups.count Lookup.failed.label) =
    m.lookups.count Lookup.bypass.label + m.lookups.count Lookup.miss.label +
      m.lookups.count Lookup.failed.label + if l = .hit then 0 else 1 := by
  simp only [Metrics.countLookup, Tally.count_bump]
  cases l <;> simp [Lookup.label] <;> omega

/-- A process asks the provider exactly when its mirror says so. -/
theorem length_asking? (task : Task) (beside : w.Beside due j k) :
    (asking? ⟨task, .ready j⟩).toList.length = due.toNat := by
  cases beside with
  | @act e _ _ aside =>
    cases e with
    | computeRoute => cases aside
    | _ => rfl
  | _ => rfl

/-- What was just started asks the provider for nothing. -/
theorem asking?_of_fresh {new new' : List Process} (fresh : List.Forall₂ w.Fresh new new') :
    new.filterMap asking? = [] := by
  induction fresh with
  | nil => rfl
  | @cons a b _ _ first _ ih =>
    obtain @⟨task, j, k, beside⟩ := first
    have none_ : (asking? ⟨task, .ready j⟩).toList = [] :=
      List.eq_nil_of_length_eq_zero (length_asking? task beside)
    rw [List.filterMap_cons, ih]
    cases shown : asking? ⟨task, .ready j⟩ with
    | none => rfl
    | some _ => rw [shown] at none_; cases none_

/-! ## Both services -/

/-- A process is over, with a result that says why something was refused. -/
def RefusedFor (w : World) (pid : Nat) (err : DispatchError) : Prop :=
  ∃ p r, w.processes[pid]? = some p ∧ p.progress.At (.done r) ∧ Result.Refused err r

/-- A service with a cache and the same service without one. -/
structure Transparent (w : World) (o : Own) : Prop where
  steady : w.around.Steady
  expressible : ∀ t, w.around.cacheClock t + w.config.cacheTtl < RouteCache.clockLimit
  abreast : List.Forall₂ w.Pair w.processes o.processes
  kept : ∀ a b entry, w.cache.entries.get? (Geo.routeKey a b) = some entry →
    w.around.directions 0 a b = .ok entry.route
  tallied : w.misses = w.consulted + w.asking.length
  returned : ∀ x ∈ w.history, ∀ a b err, x.exchange = ⟨.computeRoute a b, .error err⟩ →
    w.RefusedFor x.process err

/-- A process that is over stays so, where one gets on and others are started. -/
theorem RefusedFor.setProgress {err : DispatchError} {x : Nat} {new : List Process}
    {job : Job Result} (h : w.RefusedFor x err) (found : w.processes[pid]? = some ⟨task, p⟩)
    (processes : w'.processes = w.processes ++ new) (before : p.At job)
    (stays : ∀ r, job = .done r → p'.At job) : (w'.setProgress pid p').RefusedFor x err := by
  obtain ⟨process, result, at_, done, refused⟩ := h
  have there : w'.processes[x]? = some process := by
    rw [processes, List.getElem?_append_left (List.getElem?_eq_some_iff.1 at_).1, at_]
  unfold RefusedFor
  rw [getElem?_setProgress, there]
  split
  · next same =>
    subst same
    rw [found] at at_
    cases at_
    obtain rfl := before.same done
    exact ⟨_, result, rfl, stays _ rfl, refused⟩
  · exact ⟨process, result, rfl, done, refused⟩

/-- Both services behind an answer: the mirror has got on as well, or has waited. -/
theorem Transparent.answered (h : w.Transparent o) {next : e.Reply → Job Result}
    {new new' : List Process} (found : w.processes[pid]? = some ⟨task, p⟩)
    (before : p.At (.act e next)) (config : w'.config = w.config) (around : w'.around = w.around)
    (processes : w'.processes = w.processes ++ new) (fresh : List.Forall₂ w.Fresh new new')
    (history : w'.history = ⟨w.now, pid, e, r⟩ :: w.history)
    (kept : ∀ a b entry, w'.cache.entries.get? (Geo.routeKey a b) = some entry →
      w.around.directions 0 a b = .ok entry.route)
    (cost : w'.misses + (asking? ⟨task, p⟩).toList.length =
      w.misses + (asking? ⟨task, .ready (next r)⟩).toList.length + e.consults.toNat)
    (ends : ∀ a b err, (⟨e, r⟩ : Exchange) = ⟨.computeRoute a b, .error err⟩ →
      ∃ result, next r = .done result ∧ Result.Refused err result)
    (abreast : List.Forall₂ w.Pair
      ((w.processes ++ new).modify pid ({ · with progress := .ready (next r) })) o'.processes) :
    (w'.setProgress pid (.ready (next r))).Transparent o' where
  steady := show w'.around.Steady from around ▸ h.steady
  expressible t := by
    change w'.around.cacheClock t + w'.config.cacheTtl < _
    rw [around, config]
    exact h.expressible t
  abreast := by
    rw [← processes] at abreast
    change List.Forall₂ (Process.Pair w'.config.routing (w'.around.directions 0)) _ _
    rw [config, around]
    exact abreast
  kept a b entry there := show w'.around.directions 0 a b = _ from around ▸ kept a b entry there
  tallied := by
    obtain ⟨rest, old, here⟩ := filterMap_setProgress asking? (.ready (next r)) found processes
    rw [asking?_of_fresh fresh, List.append_nil] at here
    have length := h.tallied
    rw [asking, old.length_eq, List.length_append] at length
    change w'.misses = w'.history.countP _ + _
    rw [asking, here.length_eq, List.length_append, history, List.countP_cons]
    change w.misses = w.history.countP _ + _ at length
    cases shown : e.consults <;> rw [shown] at cost <;> simp at cost ⊢ <;> omega
  returned x noted a b err refused := by
    have noted : x ∈ w'.history := noted
    rw [history] at noted
    rcases List.mem_cons.1 noted with rfl | old
    · obtain ⟨result, same, why⟩ := ends a b err refused
      have there : w'.processes[pid]? = some ⟨task, p⟩ := by
        rw [processes, List.getElem?_append_left (List.getElem?_eq_some_iff.1 found).1, found]
      refine ⟨⟨task, .ready (next r)⟩, result, ?_, same.symm, why⟩
      rw [getElem?_setProgress, if_pos rfl, there]
      rfl
    · exact (h.returned x old a b err refused).setProgress found processes before
        fun _ ended => by cases ended

/-- Both services where a process and its mirror get on without an answer. -/
theorem Transparent.turned (h : w.Transparent o) (found : w.processes[pid]? = some ⟨task, p⟩)
    (before : p.At j) (stays : ∀ r, j = .done r → p'.At j)
    (asks : (asking? ⟨task, p'⟩).toList.length = (asking? ⟨task, p⟩).toList.length)
    (abreast : List.Forall₂ w.Pair (w.processes.modify pid ({ · with progress := p' }))
      o'.processes) : (w.setProgress pid p').Transparent o' where
  steady := h.steady
  expressible := h.expressible
  abreast := abreast
  kept := h.kept
  tallied := by
    obtain ⟨rest, old, here⟩ := filterMap_setProgress_alone asking? p' found (Eq.refl w.processes)
    have length := h.tallied
    rw [asking, old.length_eq, List.length_append] at length
    change w.misses = w.consulted + _
    rw [asking, here.length_eq, List.length_append, asks, length]
  returned x noted a b err refused :=
    (h.returned x noted a b err refused).setProgress found (List.append_nil _).symm before stays

/-- The books about slots are nothing to the cache. -/
theorem Transparent.congr (h : w.Transparent o) (config : w'.config = w.config)
    (around : w'.around = w.around) (cache : w'.cache = w.cache)
    (lookups : w'.metrics.lookups = w.metrics.lookups) (processes : w'.processes = w.processes)
    (history : w'.history = w.history) : w'.Transparent o where
  steady := around ▸ h.steady
  expressible t := by
    rw [around, config]
    exact h.expressible t
  abreast := by
    rw [processes, Pair, config, around]
    exact h.abreast
  kept a b entry there := by
    rw [around]
    exact h.kept a b entry (cache ▸ there)
  tallied := by
    have same := h.tallied
    rw [misses, consulted, asking] at same
    rw [misses, consulted, asking, lookups, history, processes, same]
  returned x noted a b err refused := by
    rw [RefusedFor, processes]
    exact h.returned x (history ▸ noted) a b err refused

/-! ## Moves -/

/-- What is done without a cache, where a move is made with one: nothing where the cache is read or
written, and a question to the provider where a hit is counted. -/
def mirrored (w : World) : Move → List Move
  | .step pid v => match (w.processes[pid]?).map Process.progress with
    | some (.ready (.act (.cacheGet _) _)) => []
    | some (.ready (.act (.cacheSet ..) _)) => []
    | some (.ready (.act (.countLookup .hit) _)) => [.step pid v, .step pid .proceed]
    | _ => [.step pid v]
  | m => [m]

theorem proceed_of_answer {next : e.Reply → Job Result}
    (replied : w.answer pid v e = some (r, w')) :
    w.proceed pid v e next = w'.setProgress pid (.ready (next r)) := by
  simp only [proceed, replied]

/-- An effect aside from look-ups is answered alike in both services. -/
theorem Transparent.proceed (h : w.Transparent o) (aside : e.aside)
    {next next' : e.Reply → Job Result} (found : w.processes[pid]? = some ⟨task, p⟩)
    (before : p.At (.act e next)) (then_ : ∀ r, w.Beside false (next r) (next' r)) :
    ∃ o', (w.cacheless o).proceed pid v e next' = (w.proceed pid v e next).cacheless o' ∧
      (w.proceed pid v e next).Transparent o' := by
  obtain ⟨r, w', new, new', replied, replied', processes, fresh, cache, lookups, config, around⟩ :=
    answer_cacheless aside w o pid v
  have history := (replied_of_answer replied).2.2
  rw [proceed_of_answer replied, proceed_of_answer replied']
  refine ⟨_, setProgress_cacheless _ (.ready (next r)) _ _, h.answered found before config around
    processes fresh history (fun a b entry there => h.kept a b entry (cache ▸ there)) ?_
    (fun a b err same => ?_) ?_⟩
  · have idle : asking? ⟨task, p⟩ = none := by
      cases p with
      | ready j => cases before; cases e <;> first | rfl | cases aside
      | _ => rfl
    have consults : e.consults = false := by cases e <;> first | rfl | cases aside
    rw [idle, length_asking? task (then_ r), misses, misses, lookups, consults]
    rfl
  · cases same
    cases aside
  · have both : List.Forall₂ w.Pair (w.processes ++ new) (o.processes ++ new') :=
      List.rel_append h.abreast (fresh.imp fun _ _ => pair_of_fresh)
    have there : (w.processes ++ new)[pid]? = some ⟨task, p⟩ := by
      rw [List.getElem?_append_left (List.getElem?_eq_some_iff.1 found).1, found]
    obtain ⟨q, -, -, modify, -⟩ := Pair.modify both there
    exact modify _ _ (.ready (then_ r))

/-- Both services behind an answer about a look-up, which starts no process. -/
theorem Transparent.lookedUp (h : w.Transparent o) {next : e.Reply → Job Result}
    (found : w.processes[pid]? = some ⟨task, .ready (.act e next)⟩) (config : w'.config = w.config)
    (around : w'.around = w.around) (processes : w'.processes = w.processes)
    (history : w'.history = ⟨w.now, pid, e, r⟩ :: w.history)
    (kept : ∀ a b entry, w'.cache.entries.get? (Geo.routeKey a b) = some entry →
      w.around.directions 0 a b = .ok entry.route)
    (cost : w'.misses + (asking? ⟨task, .ready (.act e next)⟩).toList.length =
      w.misses + (asking? ⟨task, .ready (next r)⟩).toList.length + e.consults.toNat)
    (ends : ∀ a b err, (⟨e, r⟩ : Exchange) = ⟨.computeRoute a b, .error err⟩ →
      ∃ result, next r = .done result ∧ Result.Refused err result)
    (abreast : List.Forall₂ w.Pair
      (w.processes.modify pid ({ · with progress := .ready (next r) })) o'.processes) :
    (w'.setProgress pid (.ready (next r))).Transparent o' :=
  h.answered found rfl config around (processes.trans (List.append_nil _).symm) .nil history kept
    cost ends (by rwa [List.append_nil])

/-- The cache is read. -/
theorem Transparent.read (h : w.Transparent o) {a b : GeoPoint}
    {next : Except DispatchError (Option Directions) → Job Result}
    (found : w.processes[pid]? = some ⟨task, .ready (.act (.cacheGet (Geo.routeKey a b)) next)⟩)
    (there : o.processes[pid]? = some ⟨task, .ready k⟩)
    (kept : ∀ route, w.around.directions 0 a b = .ok route →
      w.Beside false (next (.ok (some route))) k)
    (lacking : w.Beside false (next (.ok none)) k)
    (unread : ∀ err, w.Beside false (next (.error err)) k) :
    w.cacheless o = (w.step pid v).cacheless o ∧ (w.step pid v).Transparent o := by
  have answers : ∃ r cache, w.answer pid v (.cacheGet (Geo.routeKey a b)) =
        some (r, { w with cache }.told pid (.cacheGet (Geo.routeKey a b)) r) ∧
      (∀ k entry, cache.entries.get? k = some entry → w.cache.entries.get? k = some entry) ∧
      w.Beside false (next r) k := by
    cases dictated : (Effect.cacheGet (Geo.routeKey a b)).dictated v with
    | some r =>
      refine ⟨r, w.cache, answer_of_dictated dictated, fun _ _ => id, ?_⟩
      cases v with
      | refuse err => cases dictated; exact unread err
      | proceed | absent => cases dictated
    | none =>
      refine ⟨.ok (w.cache.get w.cacheTime (Geo.routeKey a b)).1, _, answer_of_respond dictated rfl,
        fun _ _ => RouteCache.get?_of_get, ?_⟩
      cases shown : (w.cache.get w.cacheTime (Geo.routeKey a b)).1 with
      | none => exact lacking
      | some route =>
        obtain ⟨entry, present, rfl, -⟩ := RouteCache.entry_of_get shown
        exact kept _ (h.kept a b entry present)
  obtain ⟨r, cache, answers, fewer, beside⟩ := answers
  rw [step_of_answer found rfl answers]
  obtain ⟨q, at_, -, -, modify⟩ := Pair.modify h.abreast found
  rw [there] at at_
  cases at_
  refine ⟨rfl, h.lookedUp found rfl rfl rfl rfl (fun a b entry there => ?_) ?_
    (fun a b err same => ?_) (modify _ (.ready beside))⟩
  · exact h.kept a b entry (fewer _ _ there)
  · rw [length_asking? task beside]
    rfl
  · cases same

/-- A look-up is counted. -/
theorem Transparent.counted (h : w.Transparent o) {l : Lookup} {next : Unit → Job Result}
    (found : w.processes[pid]? = some ⟨task, .ready (.act (.countLookup l) next)⟩)
    (beside : w.Beside due (next ()) k) (miss : due.toNat = if l = .hit then 0 else 1)
    (abreast : List.Forall₂ w.Pair
      (w.processes.modify pid ({ · with progress := .ready (next ()) })) o'.processes) :
    (w.step pid v).Transparent o' ∧ (w.step pid v).cacheless o' = w.cacheless o' := by
  have free : (Effect.countLookup l).dictated v = none := by cases v <;> rfl
  rw [step_of_answer found rfl (answer_of_respond free rfl)]
  refine ⟨h.lookedUp found rfl rfl rfl rfl h.kept ?_ (fun a b err same => ?_) abreast, rfl⟩
  · rw [length_asking? task beside, miss]
    exact misses_bump w.metrics l
  · cases same

/-- A hit is counted where the mirror asks the provider, and is answered what was kept. -/
theorem Transparent.hit (h : w.Transparent o) {a b : GeoPoint} {route : Directions}
    {next : Unit → Job Result} {k : Except DispatchError Directions → Job Result}
    (found : w.processes[pid]? = some ⟨task, .ready (.act (.countLookup .hit) next)⟩)
    (there : o.processes[pid]? = some ⟨task, .ready (.act (.countLookup .bypass) fun _ =>
      .act (.computeRoute a b) k)⟩)
    (known : w.around.directions 0 a b = .ok route)
    (then_ : w.Beside false (next ()) (k (.ok route))) :
    ∃ o', ((w.cacheless o).step pid v).step pid .proceed = (w.step pid v).cacheless o' ∧
      (w.step pid v).Transparent o' := by
  obtain ⟨o₁, counts, between⟩ := step_cacheless_count there v
  have there₁ : o₁.processes[pid]? = some ⟨task, .ready (.act (.computeRoute a b) k)⟩ := by
    rw [between, List.getElem?_modify, there]
    simp
  obtain ⟨o₂, asks, behind⟩ := step_cacheless_ask h.steady there₁
  rw [known] at behind
  obtain ⟨q, at_, -, modify, -⟩ := Pair.modify h.abreast found
  have abreast : List.Forall₂ w.Pair
      (w.processes.modify pid ({ · with progress := .ready (next ()) })) o₂.processes := by
    rw [behind, between, List.modify_modify_eq]
    exact modify _ _ (.ready then_)
  obtain ⟨both, same⟩ := h.counted found then_ rfl abreast
  exact ⟨o₂, by rw [counts, asks, same], both⟩

/-- Another look-up is counted, in both services. -/
theorem Transparent.miss (h : w.Transparent o) {l : Lookup} {next next' : Unit → Job Result}
    (found : w.processes[pid]? = some ⟨task, .ready (.act (.countLookup l) next)⟩)
    (there : o.processes[pid]? = some ⟨task, .ready (.act (.countLookup .bypass) next')⟩)
    (other : l ≠ .hit) (then_ : w.Beside true (next ()) (next' ())) :
    ∃ o', (w.cacheless o).step pid v = (w.step pid v).cacheless o' ∧
      (w.step pid v).Transparent o' := by
  obtain ⟨o₁, counts, behind⟩ := step_cacheless_count there v
  obtain ⟨q, at_, -, modify, -⟩ := Pair.modify h.abreast found
  have abreast : List.Forall₂ w.Pair
      (w.processes.modify pid ({ · with progress := .ready (next ()) })) o₁.processes := by
    rw [behind]
    exact modify _ _ (.ready then_)
  obtain ⟨both, same⟩ := h.counted found then_ (if_neg other).symm abreast
  exact ⟨o₁, by rw [counts, same], both⟩

/-- The provider is asked, in both services. -/
theorem Transparent.asked (h : w.Transparent o) {a b : GeoPoint}
    {next k : Except DispatchError Directions → Job Result}
    (found : w.processes[pid]? = some ⟨task, .ready (.act (.computeRoute a b) next)⟩)
    (there : o.processes[pid]? = some ⟨task, .ready (.act (.computeRoute a b) k)⟩)
    (answered : ∀ route, w.around.directions 0 a b = .ok route →
      w.Beside false (next (.ok route)) (k (.ok route)))
    (refused : ∀ err, ∃ r, next (.error err) = .done r ∧ k (.error err) = .done r ∧
      Result.Refused err r) :
    ∃ o', (w.cacheless o).step pid .proceed = (w.step pid .proceed).cacheless o' ∧
      (w.step pid .proceed).Transparent o' := by
  obtain ⟨o₁, asks, behind⟩ := step_cacheless_ask h.steady there
  obtain ⟨n, replied⟩ := respond_computeRoute h.steady a b
  rw [step_of_answer found rfl (answer_of_respond rfl replied), asks]
  obtain ⟨q, at_, -, modify, -⟩ := Pair.modify h.abreast found
  have then_ : w.Beside false (next (w.around.directions 0 a b))
      (k (w.around.directions 0 a b)) := by
    cases answer : w.around.directions 0 a b with
    | ok route => exact answered route answer
    | error err =>
      obtain ⟨r, same, same', -⟩ := refused err
      rw [same, same']
      exact .done r
  refine ⟨o₁, rfl, h.lookedUp found rfl rfl rfl rfl h.kept ?_ (fun a' b' err same => ?_) ?_⟩
  · rw [length_asking? task then_]
    rfl
  · cases answer : w.around.directions 0 a b with
    | ok route => rw [answer] at same; cases same
    | error err =>
      rw [answer] at same
      cases same
      obtain ⟨r, ends, -, why⟩ := refused err
      exact ⟨r, ends, why⟩
  · rw [behind]
    exact modify _ _ (.ready then_)

/-- What was answered is kept. The mirror waits. -/
theorem Transparent.keep (h : w.Transparent o) {a b : GeoPoint} {route : Directions}
    {next : Except DispatchError Unit → Job Result}
    (found : w.processes[pid]? = some ⟨task, .ready
      (.act (.cacheSet (Geo.routeKey a b) route w.config.cacheTtl) next)⟩)
    (there : o.processes[pid]? = some ⟨task, .ready k⟩)
    (known : w.around.directions 0 a b = .ok route)
    (then_ : ∀ r, w.Beside false (next r) k) :
    w.cacheless o = (w.step pid v).cacheless o ∧ (w.step pid v).Transparent o := by
  let e : Effect := .cacheSet (Geo.routeKey a b) route w.config.cacheTtl
  have answers : ∃ r cache, w.answer pid v e = some (r, { w with cache }.told pid e r) ∧
      ∀ a b entry, cache.entries.get? (Geo.routeKey a b) = some entry →
        w.around.directions 0 a b = .ok entry.route := by
    cases dictated : e.dictated v with
    | some r => exact ⟨r, w.cache, answer_of_dictated dictated, h.kept⟩
    | none =>
      obtain ⟨cache, written⟩ : ∃ cache, w.cache.set? w.cacheTime (Geo.routeKey a b) route
          w.config.cacheTtl = some cache := ⟨_, if_pos (h.expressible w.now)⟩
      refine ⟨.ok (), cache, answer_of_respond dictated ?_, fun a' b' entry present => ?_⟩
      · simp only [e, respond, written, Option.map_some]
      · rw [RouteCache.get?_of_set? written] at present
        split at present
        · next same =>
          cases present
          obtain ⟨first, second⟩ := Geo.routeKey_eq_iff.1 same
          rw [h.steady 0 a' b' a b first second, known]
        · exact h.kept a' b' entry present
  obtain ⟨r, cache, answers, kept⟩ := answers
  rw [step_of_answer found rfl answers]
  obtain ⟨q, at_, -, -, modify⟩ := Pair.modify h.abreast found
  rw [there] at at_
  cases at_
  refine ⟨rfl, h.lookedUp found rfl rfl rfl rfl kept ?_ (fun a b err same => ?_)
    (modify _ (.ready (then_ r)))⟩
  · rw [length_asking? task (then_ r)]
    rfl
  · cases congrArg Exchange.effect same

/-- The provider does what it is asked. -/
def ProviderHolds (w : World) (m : Move) : Prop :=
  ∀ pid v a b, m = .step pid v → w.Asks pid (.computeRoute a b) → v = .proceed

/-- Only calls come in that neither ask the cache itself nor read the counters, and the provider
does what it is asked. Everything else may fail at any time, the cache as well. -/
def Unwatched (w : World) (m : Move) : Prop :=
  w.Enters (fun call => ∀ e, ¬ call.Inspects e) m ∧ w.ProviderHolds m

theorem Transparent.breakDown (h : w.Transparent o)
    (found : w.processes[pid]? = some ⟨task, .ready .panic⟩)
    (there : o.processes[pid]? = some ⟨task, .ready .panic⟩) :
    ∃ o', (w.cacheless o).breakDown pid = (w.breakDown pid).cacheless o' ∧
      (w.breakDown pid).Transparent o' := by
  obtain ⟨q, -, -, modify, -⟩ := Pair.modify h.abreast found
  have broken : (w.setProgress pid .broken).Transparent
      { o with processes := o.processes.modify pid ({ · with progress := .broken }) } :=
    h.turned found rfl (fun _ ended => by cases ended) rfl (modify _ _ .broken)
  have there : (w.cacheless o).processes[pid]? = some ⟨task, .ready .panic⟩ := there
  refine ⟨{ o with processes := o.processes.modify pid ({ · with progress := .broken }) }, ?_, ?_⟩
  · unfold World.breakDown
    rw [found, there]
    cases task <;> rfl
  · unfold World.breakDown
    rw [found]
    cases task with
    | run trip => exact broken.congr rfl rfl rfl rfl rfl rfl
    | call | fare => exact broken

/-- An effect aside from look-ups is asked for, and answered or waited for. -/
theorem Transparent.aside (h : w.Transparent o) (aside : e.aside)
    {next next' : e.Reply → Job Result}
    (found : w.processes[pid]? = some ⟨task, .ready (.act e next)⟩)
    (there : o.processes[pid]? = some ⟨task, .ready (.act e next')⟩)
    (then_ : ∀ r, w.Beside false (next r) (next' r)) :
    ∃ o', (w.cacheless o).step pid v = (w.step pid v).cacheless o' ∧
      (w.step pid v).Transparent o' := by
  have there : (w.cacheless o).processes[pid]? = some ⟨task, .ready (.act e next')⟩ := there
  have now : (w.cacheless o).now = w.now := rfl
  simp only [World.step, found, there, Option.map_some, now]
  split
  · next wake _ =>
    obtain ⟨q, -, -, modify, -⟩ := Pair.modify h.abreast found
    have idle : asking? ⟨task, .ready (.act e next)⟩ = none := by
      cases e <;> first | rfl | cases aside
    refine ⟨_, setProgress_cacheless w (.waiting wake e next) _ o, h.turned found rfl
      (fun _ ended => by cases ended) ?_ (modify _ _ (.waiting aside then_))⟩
    rw [idle]
    rfl
  · exact h.proceed aside found rfl then_

/-- Both services behind a step of one process. -/
theorem Transparent.step (h : w.Transparent o) (holds : w.ProviderHolds (.step pid v)) :
    ∃ o', (w.cacheless o).run (w.mirrored (.step pid v)) = (w.step pid v).cacheless o' ∧
      (w.step pid v).Transparent o' := by
  cases found : w.processes[pid]? with
  | none =>
    have there : (w.cacheless o).processes[pid]? = none := by
      have outside := List.getElem?_eq_none_iff.1 found
      rw [h.abreast.length_eq] at outside
      exact List.getElem?_eq_none_iff.2 outside
    simp only [mirrored, found, Option.map_none, run_cons, run_nil, World.move, World.step, there]
    exact ⟨o, rfl, h⟩
  | some process =>
    obtain ⟨task, p⟩ := process
    obtain ⟨q, there, abreast, modify, -⟩ := Pair.modify h.abreast found
    have there' : (w.cacheless o).processes[pid]? = some ⟨task, q⟩ := there
    simp only [mirrored, found, Option.map_some]
    cases abreast with
    | ended r =>
      simp only [run_cons, run_nil, World.move, World.step, found, there', Option.map_some]
      exact ⟨o, rfl, h⟩
    | broken =>
      simp only [run_cons, run_nil, World.move, World.step, found, there', Option.map_some]
      exact ⟨o, rfl, h⟩
    | waiting aside then_ =>
      have now : (w.cacheless o).now = w.now := rfl
      simp only [run_cons, run_nil, World.move, World.step, found, there', Option.map_some, now]
      split
      · exact h.proceed aside found rfl then_
      · exact ⟨o, rfl, h⟩
    | @ready due j k beside =>
      cases beside with
      | done r =>
        simp only [run_cons, run_nil, World.move, World.step, found, there', Option.map_some]
        refine ⟨_, setProgress_cacheless w (.ended r) _ o, h.turned found rfl ?_ rfl
          (modify _ _ (.ended r))⟩
        exact fun _ ended => by cases ended; rfl
      | panic =>
        simp only [run_cons, run_nil, World.move, World.step, found, there', Option.map_some]
        exact h.breakDown found there
      | @act e next next' aside then_ =>
        have alone : (match some (Progress.ready (.act e next)) with
            | some (.ready (.act (.cacheGet _) _)) => []
            | some (.ready (.act (.cacheSet ..) _)) => []
            | some (.ready (.act (.countLookup .hit) _)) => [.step pid v, .step pid .proceed]
            | _ => [Move.step pid v]) = [.step pid v] := by
          cases e <;> first | rfl | cases aside
        rw [alone]
        exact h.aside aside found there then_
      | read a b kept lacking unread => exact ⟨o, h.read found there kept lacking unread⟩
      | hit a b known then_ => exact h.hit found there known then_
      | @counted l _ _ other then_ =>
        cases l <;> first | exact absurd rfl other | exact h.miss found there other then_
      | asked a b answered refused =>
        obtain rfl := holds pid v a b rfl ⟨task, _, found⟩
        exact h.asked found there answered refused
      | keep a b known then_ => exact ⟨o, h.keep found there known then_⟩

/-- Both services behind a call that comes in. -/
theorem Transparent.enter (h : w.Transparent o) {call : Call} (blind : ∀ e, ¬ call.Inspects e) :
    ∃ o', (w.cacheless o).enter call = (w.enter call).cacheless o' ∧
      (w.enter call).Transparent o' := by
  have fresh : List.Forall₂ w.Fresh [⟨.call, .ready (Result.answer <$> call.job w.config)⟩]
      [⟨.call, .ready (Result.answer <$> call.job w.config.uncached)⟩] :=
    .cons (.intro (alike_call (fun _ => aside_of_common) w.config call fun e inspects =>
      absurd inspects (blind e)).mirrors) .nil
  refine ⟨{ o with processes := o.processes ++ [_] }, rfl, ⟨h.steady, h.expressible, ?_, h.kept, ?_,
    fun x noted a b err refused => ?_⟩⟩
  · exact List.rel_append h.abreast (fresh.imp fun _ _ => pair_of_fresh)
  · have nothing := asking?_of_fresh fresh
    change w.misses = w.consulted + ((w.processes ++ _).filterMap asking?).length
    rw [List.filterMap_append, nothing, List.append_nil]
    exact h.tallied
  · obtain ⟨p, r, at_, ended⟩ := h.returned x noted a b err refused
    refine ⟨p, r, ?_, ended⟩
    exact (List.getElem?_append_left (List.getElem?_eq_some_iff.1 at_).1).trans at_

/-- What is done without a cache beside some moves with one. -/
def mirroredRun : World → List Move → List Move
  | _, [] => []
  | w, m :: moves => w.mirrored m ++ mirroredRun (w.move m) moves

theorem Transparent.run (h : w.Transparent o) {moves : List Move}
    (obeys : w.Obeys Unwatched moves) :
    ∃ o', (w.cacheless o).run (w.mirroredRun moves) = (w.run moves).cacheless o' ∧
      (w.run moves).Transparent o' := by
  induction moves generalizing w o with
  | nil => exact ⟨o, rfl, h⟩
  | cons m moves ih =>
    obtain ⟨⟨enters, holds⟩, obeys⟩ := obeys
    obtain ⟨o₁, same, h₁⟩ : ∃ o₁, (w.cacheless o).run (w.mirrored m) = (w.move m).cacheless o₁ ∧
        (w.move m).Transparent o₁ := by
      cases m with
      | enter call => exact h.enter (enters call rfl)
      | step pid v => exact h.step holds
      | pass d =>
        exact ⟨o, rfl, ⟨h.steady, h.expressible, h.abreast, h.kept, h.tallied, h.returned⟩⟩
    obtain ⟨o', rest, h'⟩ := ih h₁ obeys
    exact ⟨o', by rw [mirroredRun, run_append, same, rest]; rfl, h'⟩

/-! ## Whole runs -/

/-- The result that a process has ended with. -/
def result? (w : World) (pid : Nat) : Option Result :=
  match (w.processes[pid]?).map Process.progress with
  | some (.ended r) => some r
  | _ => none

theorem Transparent.result? (h : w.Transparent o) (pid : Nat) :
    (w.cacheless o).result? pid = w.result? pid := by
  unfold World.result?
  cases found : w.processes[pid]? with
  | none =>
    have outside := List.getElem?_eq_none_iff.1 found
    rw [h.abreast.length_eq] at outside
    have there : (w.cacheless o).processes[pid]? = none := List.getElem?_eq_none_iff.2 outside
    rw [there]
  | some process =>
    obtain ⟨q, there, abreast, -⟩ := Pair.modify h.abreast found
    have there : (w.cacheless o).processes[pid]? = some ⟨process.task, q⟩ := there
    obtain ⟨task, p⟩ := process
    rw [there]
    cases abreast <;> rfl

/-- The calls and the waits of a run, without the steps. -/
def comings (moves : List Move) : List Move :=
  moves.filter fun
    | .step .. => false
    | _ => true

/-- The same calls come in and the same time passes without a cache. -/
theorem comings_mirroredRun (w : World) (moves : List Move) :
    comings (w.mirroredRun moves) = comings moves := by
  induction moves generalizing w with
  | nil => rfl
  | cons m moves ih =>
    rw [mirroredRun, comings, List.filter_append, ← comings, ← comings, ih]
    cases m with
    | enter | pass => rfl
    | step pid v =>
      have steps : comings (w.mirrored (.step pid v)) = [] := by
        unfold mirrored
        dsimp only
        split <;> rfl
      rw [steps]
      rfl

/-- A service that nobody has called yet, and that has kept no way. -/
structure Cold (w : World) : Prop where
  idle : w.processes = []
  empty : w.cache = .empty
  unheard : w.history = []
  uncounted : w.metrics.lookups = .empty

theorem Cold.transparent (cold : w.Cold) (steady : w.around.Steady)
    (expressible : ∀ t, w.around.cacheClock t + w.config.cacheTtl < RouteCache.clockLimit) :
    w.Transparent ⟨w.cache, w.metrics.lookups, w.answered, w.processes, w.history⟩ where
  steady := steady
  expressible := expressible
  abreast := by simp only [cold.idle]; exact .nil
  kept a b entry there := by
    rw [cold.empty] at there
    cases there
  tallied := by simp [misses, consulted, asking, cold.idle, cold.unheard, cold.uncounted]
  returned x noted := by
    rw [cold.unheard] at noted
    cases noted

/-- A service with a cache beside the same service without one, which the same calls come to. All
processes end with the same results. An error of the provider ends the process that asked, and
nothing is kept for its way. The provider was asked as often as another look-up than a hit was
counted, except where somebody is just about to ask it. -/
theorem cache_transparent {moves : List Move} (cold : w.Cold) (steady : w.around.Steady)
    (expressible : ∀ t, w.around.cacheClock t + w.config.cacheTtl < RouteCache.clockLimit)
    (obeys : w.Obeys Unwatched moves) :
    let cached := w.run moves
    let mirror := w.mirroredRun moves
    let plain := { w with config := w.config.uncached }.run mirror
    comings mirror = comings moves ∧ (∀ pid, cached.result? pid = plain.result? pid) ∧
      cached.store = plain.store ∧ cached.bus = plain.bus ∧ cached.feeds = plain.feeds ∧
      cached.active = plain.active ∧
      { cached.metrics with lookups := plain.metrics.lookups } = plain.metrics ∧
      (∀ a b err, w.around.directions 0 a b = .error err →
        cached.cache.entries.get? (Geo.routeKey a b) = none) ∧
      (∀ x ∈ cached.history, ∀ a b err, x.exchange = ⟨.computeRoute a b, .error err⟩ →
        cached.RefusedFor x.process err) ∧
      cached.misses = cached.consulted + cached.asking.length := by
  intro cached mirror plain
  obtain ⟨o, same, h⟩ := (cold.transparent steady expressible).run obeys
  have same : plain = cached.cacheless o := same
  have around : cached.around = w.around := (given_run w moves).2
  refine ⟨comings_mirroredRun w moves, fun pid => ?_, ?_, ?_, ?_, ?_, ?_, fun a b err refused => ?_,
    h.returned, h.tallied⟩
  · rw [same, h.result? pid]
  iterate 5 rw [same]; rfl
  · cases there : cached.cache.entries.get? (Geo.routeKey a b) with
    | none => rfl
    | some entry =>
      have kept := h.kept a b entry there
      rw [← around] at refused
      rw [refused] at kept
      cases kept

/-- Somebody asks for a quote, or a process gets on. -/
def quoting : Move → Bool
  | .enter (.quote ..) => true
  | .step _ v => v = .proceed
  | _ => false

theorem unwatched_of_quoting {m : Move} (quotes : quoting m) : w.Unwatched m := by
  refine ⟨?_, ?_⟩
  · rintro call rfl
    cases call with
    | quote => exact fun _ inspects => inspects
    | _ => cases quotes
  · rintro pid v a b rfl -
    simpa [quoting] using quotes

open Trial in
/-- The same quote is asked for twice, the second time with the way kept. -/
def quotedTwice : List Move :=
  .enter (.quote ⟨"", "", depot⟩ ⟨"", "", ⟨1.0, 3.0⟩⟩) :: steps 0 6 ++
    .enter (.quote ⟨"", "", depot⟩ ⟨"", "", ⟨1.0, 3.0⟩⟩) :: steps 1 5

theorem cache_transparent_hit :
    (∀ pid, (Trial.start.run quotedTwice).result? pid =
      ({ Trial.start with config := Trial.config.uncached }.run
        (Trial.start.mirroredRun quotedTwice)).result? pid) ∧
    (Trial.start.run quotedTwice).metrics.lookups.count Lookup.hit.label = 1 ∧
    (Trial.start.run quotedTwice).misses = 1 ∧ (Trial.start.run quotedTwice).consulted = 1 ∧
    (Trial.start.run quotedTwice).asking = [] ∧
    ((Trial.start.run quotedTwice).result? 1).isSome := by
  have quotes : Trial.start.passes (fun _ => quoting) quotedTwice := by decide +kernel
  have obeys : Trial.start.Obeys Unwatched quotedTwice :=
    .of_passes (traced_new Trial.start_new) quotes fun _ _ _ => unwatched_of_quoting
  refine ⟨(cache_transparent ⟨rfl, rfl, rfl, rfl⟩ (fun _ _ _ _ _ _ _ => rfl) (fun _ => ?_)
    obeys).2.1, ?_⟩
  · change 0 + Trial.config.cacheTtl < RouteCache.clockLimit
    decide +kernel
  · decide +kernel

end World

end CourierDispatch
