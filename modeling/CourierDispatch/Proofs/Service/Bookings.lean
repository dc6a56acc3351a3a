import CourierDispatch.Proofs.Service.Readings
import CourierDispatch.Proofs.Fare.Course

/-!
# Bindings and fares

Each binding that was accepted has one process that computes its fare, or that is just about to start
one; and nothing else computes a fare (`bindings_perm`). No trip is bound twice, so there is at most one
such process for a trip, and only it asks for the cost of the trip to be recorded, once
(`chargings_nodup`).
-/

namespace CourierDispatch

open Job

/-- The binding whose fare a job is about to have computed. -/
def Job.fare? {α : Type} : Job α → Option (Uuid × Uuid)
  | act e _ => e.fare?
  | _ => none

def Progress.fare? : Progress → Option (Uuid × Uuid)
  | ready job => job.fare?
  | waiting _ e _ => e.fare?
  | _ => none

/-- The binding whose fare a process is about to have computed. -/
def Process.starts? (p : Process) : Option (Uuid × Uuid) := p.progress.fare?

/-- The binding whose fare a process computes. -/
def Process.computes? (p : Process) : Option (Uuid × Uuid) :=
  match p.task with
  | .fare trip courier => some (trip, courier)
  | _ => none

theorem Progress.At.fare? {p : Progress} {job : Job Result} (at_ : p.At job) :
    p.fare? = job.fare? := by
  cases p with
  | broken => exact at_.elim
  | _ => cases at_; rfl

theorem Job.Fragile.fare? {job : Job Result} (fragile : job.Fragile) : job.fare? = none := by
  cases job with
  | act e next => cases e <;> first | rfl | exact fragile.elim
  | _ => rfl

/-- The computation of a fare binds nobody. -/
theorem boundLast_of_prices {past : List Exchange} {trip : Uuid}
    (prices : ∀ x ∈ past, x.effect.prices trip) : boundLast past = none := by
  cases past with
  | nil => rfl
  | cons x past =>
    obtain ⟨e, r⟩ := x
    rcases prices _ List.mem_cons_self with inquires | ⟨cost, rfl⟩
    · exact bound?_of_aloof (Effect.aloof_of_inquires inquires) r
    · rfl

namespace World

variable {calls : Call → Prop} {w w' : World} {pid : Nat} {v : Verdict} {e : Effect} {r : e.Reply}
  {task : Task} {p p' : Progress} {job : Job Result}

/-- The bindings that were accepted, the latest first. -/
def bindings (w : World) : List (Uuid × Uuid) := w.history.filterMap (·.exchange.bound?)

theorem bindings_of_history {t : Nat} (history : w'.history = ⟨t, pid, e, r⟩ :: w.history) :
    w'.bindings = (Exchange.bound? ⟨e, r⟩).toList ++ w.bindings := by
  rw [bindings, history]
  cases told : Exchange.bound? ⟨e, r⟩ with
  | none => exact List.filterMap_cons_none told
  | some b => exact List.filterMap_cons_some told

/-- The bindings whose fares are computed or have been. -/
def fares (w : World) : List (Uuid × Uuid) := w.processes.filterMap Process.computes?

/-- The bindings whose fares are about to be computed. -/
def starting (w : World) : List (Uuid × Uuid) := w.processes.filterMap Process.starts?

/-- A process asks for a fare right behind a binding, and only there. -/
theorem Traced.fare?_eq (h : w.Traced calls) (found : w.processes[pid]? = some ⟨task, p⟩)
    (at_ : p.At job) : job.fare? = boundLast (w.trace pid) := by
  obtain ⟨start, job', origin, path, reached⟩ := h.path pid _ found
  cases at_.unique reached
  rcases origin.composed with composed | ⟨trip, courier, rfl, rfl⟩
  · have meets := (composed.binds [] rfl).of_leads path
    cases job with
    | done => exact Eq.symm meets
    | panic => exact Eq.symm meets
    | act e next => exact meets.1.fares
  · obtain ⟨only, prices⟩ := (prices_fareJob w.config trip courier).of_leads path
    rw [boundLast_of_prices prices]
    cases job with
    | act e next =>
      rcases only.1 with inquires | ⟨cost, rfl⟩
      · cases e <;> first | rfl | cases inquires
      · rfl
    | _ => rfl

/-- What an answer starts: the computation of a fare that was asked for, or no such thing. -/
theorem started_of_respond (h : w.respond e = some (r, w')) :
    ∃ new, w'.processes = w.processes ++ new ∧ new.filterMap Process.computes? = e.fare?.toList ∧
      new.filterMap Process.starts? = [] := by
  have nothing {w' : World} (fareless : e.fare? = none) (same : w'.processes = w.processes) :
      ∃ new, w'.processes = w.processes ++ new ∧
        new.filterMap Process.computes? = e.fare?.toList ∧ new.filterMap Process.starts? = [] :=
    ⟨[], by simp [same], by simp [fareless], rfl⟩
  cases e with
  | store op =>
    simp only [respond] at h
    split at h <;> cases h <;> exact nothing rfl rfl
  | cacheSet key route ttl =>
    simp only [respond, Option.map_eq_some_iff] at h
    obtain ⟨c, -, h⟩ := h
    cases h
    exact nothing rfl rfl
  | computeRoute a b =>
    simp only [respond] at h
    split at h <;> cases h <;> exact nothing rfl rfl
  | startFare trip courier =>
    cases h
    exact ⟨_, rfl, rfl, rfl⟩
  | startRun trip pickup =>
    simp only [respond] at h
    split at h
    · cases h
      exact nothing rfl rfl
    · cases h
      exact ⟨_, rfl, rfl, rfl⟩
  | cacheGet | race | drawId | placeDetails | autocomplete | publish | subscribe | countTransition
  | countLookup | sleep | waitUntil | setTimers | stamp | finishRun | census | exposition =>
    cases h
    exact nothing rfl rfl

theorem started_of_answer (h : w.answer pid v e = some (r, w')) :
    ∃ new, w'.processes = w.processes ++ new ∧ new.filterMap Process.computes? = e.fare?.toList ∧
      new.filterMap Process.starts? = [] := by
  simp only [answer, Option.map_eq_some_iff, Prod.exists] at h
  obtain ⟨r₁, w₁, replied, h⟩ := h
  cases h
  split at replied
  · next dictated =>
    cases replied
    refine ⟨[], (List.append_nil _).symm, ?_, rfl⟩
    cases e <;> cases v <;> first | rfl | cases dictated
  · obtain ⟨new, processes, started⟩ := started_of_respond replied
    exact ⟨new, processes, started⟩

/-! ## One fare for each binding -/

/-- The books stay right where no process comes to stand before another binding. -/
theorem bindings_perm_congr (even : w.bindings.Perm (w.fares ++ w.starting))
    (history : w'.history = w.history) (fares : w'.fares.Perm w.fares)
    (starting : w'.starting.Perm w.starting) : w'.bindings.Perm (w'.fares ++ w'.starting) := by
  have same : w'.bindings = w.bindings := by rw [bindings, history, bindings]
  exact same ▸ even.trans (fares.append starting).symm

theorem bindings_perm_setProgress (even : w.bindings.Perm (w.fares ++ w.starting))
    (found : w.processes[pid]? = some ⟨task, p⟩) (same : p'.fare? = p.fare?) :
    (w.setProgress pid p').bindings.Perm
      ((w.setProgress pid p').fares ++ (w.setProgress pid p').starting) := by
  have alone : w.processes = w.processes ++ [] := (List.append_nil _).symm
  exact bindings_perm_congr even rfl (filterMap_setProgress_same _ _ found alone rfl rfl)
    (filterMap_setProgress_same _ _ found alone same rfl)

theorem bindings_perm_move (traced : w.Traced calls) (m : Move)
    (entering : ∀ c, m = .enter c → calls c) (even : w.bindings.Perm (w.fares ++ w.starting)) :
    (w.move m).bindings.Perm ((w.move m).fares ++ (w.move m).starting) := by
  have ahead := traced.move m entering
  cases m with
  | pass => exact even
  | enter c =>
    -- the new process has not bound anybody yet
    let new : Process := ⟨.call, .ready (Result.answer <$> c.job w.config)⟩
    have there : (w.move (.enter c)).processes[w.processes.length]? = some new :=
      List.getElem?_concat_length
    have idle : new.starts? = none := by
      have before := ahead.fare?_eq there rfl
      have fresh : (w.move (.enter c)).trace w.processes.length = [] :=
        traced.trace_eq_nil (Nat.le_refl _)
      rw [fresh] at before
      exact before
    refine bindings_perm_congr even rfl ?_ ?_
    · exact .of_eq ((List.filterMap_append (l := w.processes)).trans (List.append_nil _))
    · refine .of_eq ((List.filterMap_append (l := w.processes)).trans ?_)
      rw [List.filterMap_cons, idle]
      exact List.append_nil _
  | step q u =>
    have turn := turn_step w q u
    simp only [World.move] at ahead ⊢
    generalize w.step q u = behind at turn ahead ⊢
    cases turn with
    | idle => exact even
    | turned found before after =>
      exact bindings_perm_setProgress even found (by rw [after.fare?, before.fare?])
    | @broke _ p _ found before breaks =>
      have same : Progress.broken.fare? = p.fare? := by
        rw [before.fare?, breaks.fragile.fare?]
        rfl
      have broken := bindings_perm_setProgress even found same
      unfold breakDown
      split <;> exact broken
    | @answered task p e next used r w' found before replied =>
      obtain ⟨new, processes, computed, unstarted⟩ := started_of_answer replied
      obtain ⟨-, -, history⟩ := replied_of_answer replied
      have inside : q < w'.processes.length := by
        have := (List.getElem?_eq_some_iff.1 found).1
        rw [processes, List.length_append]
        omega
      have at_ : (w'.setProgress q (.ready (next r))).processes[q]? =
          some ⟨task, .ready (next r)⟩ := by
        rw [getElem?_setProgress, if_pos rfl, processes,
          List.getElem?_append_left (List.getElem?_eq_some_iff.1 found).1, found]
        rfl
      have last : Progress.fare? (.ready (next r)) = Exchange.bound? ⟨e, r⟩ := by
        rw [(show Progress.At (.ready (next r)) (next r) from rfl).fare?, ahead.fare?_eq at_ rfl,
          trace]
        change boundLast (traceOf w'.history q) = _
        rw [history, traceOf_cons, if_pos rfl]
        rfl
      have first : p.fare? = e.fare? := before.fare?
      obtain ⟨others, held, holds⟩ :=
        filterMap_setProgress Process.starts? (.ready (next r)) found processes
      obtain ⟨tasks, known, keeps⟩ :=
        filterMap_setProgress Process.computes? (.ready (next r)) found processes
      have noted : (w'.setProgress q (.ready (next r))).bindings =
          (Exchange.bound? ⟨e, r⟩).toList ++ w.bindings := bindings_of_history history
      have counted : (w'.setProgress q (.ready (next r))).fares.Perm (w.fares ++ e.fare?.toList) := by
        refine keeps.trans ?_
        rw [computed, ← List.append_assoc]
        exact known.symm.append_right _
      have started : (w'.setProgress q (.ready (next r))).starting.Perm
          ((Exchange.bound? ⟨e, r⟩).toList ++ others) := by
        rw [unstarted, List.append_nil] at holds
        exact last ▸ holds
      have waited : w.starting.Perm (e.fare?.toList ++ others) := first ▸ held
      rw [noted]
      calc (Exchange.bound? ⟨e, r⟩).toList ++ w.bindings
        _ |>.Perm ((Exchange.bound? ⟨e, r⟩).toList ++ (w.fares ++ (e.fare?.toList ++ others))) :=
          (even.trans (waited.append_left _)).append_left _
        _ |>.Perm ((w.fares ++ e.fare?.toList) ++ ((Exchange.bound? ⟨e, r⟩).toList ++ others)) := by
          refine List.perm_append_comm_assoc .. |>.trans ?_
          rw [List.append_assoc]
          exact (List.perm_append_comm_assoc ..).append_left _
        _ |>.Perm _ := (counted.append started).symm

theorem bindings_perm_run (traced : w.Traced fun _ => True)
    (even : w.bindings.Perm (w.fares ++ w.starting)) (moves : List Move) :
    (w.run moves).bindings.Perm ((w.run moves).fares ++ (w.run moves).starting) := by
  induction moves generalizing w with
  | nil => exact even
  | cons m moves ih =>
    exact ih (traced.move m fun _ _ => trivial) (bindings_perm_move traced m (fun _ _ => trivial) even)

/-- Each binding has one process that computes its fare, or is just about to be started, and there are
no others. -/
theorem Reachable.bindings_perm {rule : World → Move → Prop} (reach : w.Reachable rule) :
    w.bindings.Perm (w.fares ++ w.starting) := by
  obtain ⟨config, around, w₀, moves, new, -, rfl⟩ := reach
  refine bindings_perm_run (traced_new new) ?_ moves
  obtain ⟨bus, rfl⟩ := eq_of_new? new
  exact .nil

/-! ## One binding for each trip -/

theorem Noted.bindings_nodup (step : Noted calls w pid v e r w') (records : w.Records)
    (once : (w.bindings.map Prod.fst).Nodup) : (w'.bindings.map Prod.fst).Nodup := by
  rw [bindings_of_history step.history]
  cases bound : Exchange.bound? ⟨e, r⟩ with
  | none => exact once
  | some b =>
    refine List.nodup_cons.2 ⟨fun before => ?_, once⟩
    obtain ⟨⟨trip, other⟩, earlier, same⟩ := List.mem_map.1 before
    obtain ⟨x, noted, exchange⟩ := List.mem_filterMap.1 earlier
    obtain ⟨t, found, named⟩ := records.bound x noted trip other exchange
    obtain ⟨t', -, found', unbound, -⟩ := Store.assignCourier_ok (step.bound bound)
    change trip = b.1 at same
    rw [← same, found] at found'
    cases found'
    rw [named] at unbound
    cases unbound

/-- No trip is bound twice. -/
theorem Reachable.bindings_nodup {rule : World → Move → Prop} (reach : w.Reachable rule)
    (distinct : w.IdsDistinct) : (w.bindings.map Prod.fst).Nodup := by
  refine reach.readings_induction (P := fun w => (w.bindings.map Prod.fst).Nodup)
    (fun _ _ same h => by rw [bindings, same.history]; exact h)
    (fun _ _ _ _ _ _ records _ step _ h => step.bindings_nodup records h) distinct
    fun _ _ _ new => ?_
  obtain ⟨bus, rfl⟩ := eq_of_new? new
  exact .nil

/-- At most one process computes the fare of a trip. -/
theorem Reachable.fares_nodup {rule : World → Move → Prop} (reach : w.Reachable rule)
    (distinct : w.IdsDistinct) : (w.fares.map Prod.fst).Nodup := by
  have once := (reach.bindings_perm.map Prod.fst).nodup_iff.1 (reach.bindings_nodup distinct)
  rw [List.map_append] at once
  exact (List.nodup_append.1 once).1

theorem fare_unique (once : (w.fares.map Prod.fst).Nodup) {i j : Nat} {trip a b : Uuid}
    (first : w.processes[i]? = some ⟨.fare trip a, p⟩)
    (second : w.processes[j]? = some ⟨.fare trip b, p'⟩) : i = j := by
  obtain ⟨hi, first⟩ := List.getElem?_eq_some_iff.1 first
  obtain ⟨hj, second⟩ := List.getElem?_eq_some_iff.1 second
  have apart := List.pairwise_iff_getElem.1 (List.pairwise_filterMap.1 (List.pairwise_map.1 once))
  rcases Nat.lt_trichotomy i j with less | same | more
  · exact absurd rfl (apart i j hi hj less (trip, a) (by rw [first]; rfl) (trip, b) (by rw [second]; rfl))
  · exact same
  · exact absurd rfl (apart j i hj hi more (trip, b) (by rw [second]; rfl) (trip, a) (by rw [first]; rfl))

/-! ## One record of the cost -/

/-- The trips whose costs were to be recorded, the latest first. -/
def chargings (w : World) : List Uuid := w.history.filterMap (·.exchange.charges?)

/-- Only the computation of its fare asks for the cost of a trip to be recorded. -/
theorem Traced.charges (h : w.Traced calls) {x : Event} (noted : x ∈ w.history) {trip : Uuid}
    (charges : x.exchange.charges? = some trip) :
    ∃ courier p, w.processes[x.process]? = some ⟨.fare trip courier, p⟩ := by
  obtain ⟨cost, effect⟩ := Exchange.charges?_eq_some.1 charges
  have seen : x.exchange ∈ w.trace x.process := mem_traceOf.2 ⟨x, noted, rfl, rfl⟩
  obtain ⟨⟨task, p⟩, found⟩ : ∃ p, w.processes[x.process]? = some p :=
    ⟨_, List.getElem?_eq_getElem (h.known x noted)⟩
  obtain ⟨start, job, origin, path, -⟩ := h.path x.process _ found
  rcases origin.composed with composed | ⟨trip', courier, same, rfl⟩
  · obtain ⟨past, later, split⟩ := List.append_of_mem seen
    exact absurd effect (((composed.binds [] rfl).asked (split ▸ path)).unpriced trip cost)
  · rcases ((prices_fareJob w.config trip' courier).of_leads path).2 _ seen with asks | ⟨_, own⟩
    · rw [effect] at asks
      cases asks
    · cases effect.symm.trans own
      exact ⟨courier, p, same ▸ found⟩

/-- What the computation of a fare asks for, and what it has seen before. -/
theorem Traced.course (h : w.Traced calls) {trip courier : Uuid} {later past : List Exchange}
    {x : Exchange} (found : w.processes[pid]? = some ⟨.fare trip courier, p⟩)
    (split : w.trace pid = later ++ x :: past) :
    Fare.Course w.config.routing w.config.pricer trip courier past x.effect := by
  obtain ⟨start, job, origin, path, -⟩ := h.path pid _ found
  cases origin
  exact (Fare.meets_fareJob w.config trip courier).asked (split ▸ path)

/-- The cost of a trip is to be recorded at most once. -/
theorem Reachable.chargings_nodup {rule : World → Move → Prop} (reach : w.Reachable rule)
    (distinct : w.IdsDistinct) : w.chargings.Nodup := by
  have traced : w.Traced fun _ => True := reach.traced fun _ _ _ => enters_any
  refine List.pairwise_filterMap.2 (List.pairwise_iff_forall_sublist.2 ?_)
  rintro x y both trip first _ second rfl
  have noted := both.subset
  obtain ⟨a, p, found⟩ := traced.charges (noted (by simp)) first
  obtain ⟨b, p', found'⟩ := traced.charges (noted (by simp)) second
  have own : x.process = y.process := fare_unique (reach.fares_nodup distinct) found found'
  have seen : [x.exchange, y.exchange].Sublist (w.trace x.process) := by
    have := (both.filter (·.process = x.process)).map Event.exchange
    simpa [own, trace, traceOf] using this
  obtain ⟨before, after, split, there, behind⟩ := List.cons_sublist_iff.1 seen
  obtain ⟨newer, older, rfl⟩ := List.append_of_mem there
  have split : w.trace x.process = newer ++ x.exchange :: (older ++ after) := by simp [split]
  have course := traced.course found split
  have none_ := course.unpriced y.exchange
    (List.mem_append_right _ (behind.subset (List.mem_singleton_self _)))
  rw [second] at none_
  cases none_

end World

end CourierDispatch
