import CourierDispatch.Proofs.Release
import CourierDispatch.Proofs.Search.Process

/-!
# A search and a courier bound by hand

A search reads its trip before it reports, and asks only whether the trip is missing or cancelled. It
does not ask whether somebody else has bound a courier to it. So a search that has just found somebody
writes `courierFound` over the status of a trip that is already being served, and a search at its
deadline writes `courierNotFound` over it, unless the status is final. `overwrites_iff` says that these
two moments are the only ones, and that the search has written nothing before: it disturbs the trip of
somebody else's courier once at most. The courier stays bound, since the search's own binding is
refused.
-/

namespace CourierDispatch.World

open Search (FoundSomebody StruckDeadline)

variable {w : World} {pid : Nat} {trip courier : Uuid} {t : Trip}

/-- The report that is due, told from the last exchanges of a search. -/
def Due (trip : Uuid) (past : List Exchange) (status : TripStatus) : Prop :=
  status = .courierFound ∧ FoundSomebody trip past ∨
    status = .courierNotFound ∧ StruckDeadline trip past

theorem Due.asked {past : List Exchange} {status : TripStatus} {e : Effect}
    (due : Due trip past status) (asks : Search.Asks trip past e) :
    e = .store (.setTripStatus trip status) := by
  rcases due with ⟨rfl, found⟩ | ⟨rfl, struck⟩
  · exact asks.found.2 found
  · exact asks.struck.2 struck

theorem Due.not_idle {past : List Exchange} {status : TripStatus} (due : Due trip past status) :
    ¬ Search.Idle trip past := by
  rintro ⟨unfound, early⟩
  rcases due with ⟨-, found⟩ | ⟨-, struck⟩
  · exact unfound found
  · exact early struck

variable {calls : Call → Prop}

/-- A search with a report due is ready to make it. -/
theorem Traced.ready_to_report (h : w.Traced calls)
    (run : (w.processes[pid]?).map Process.task = some (.run trip)) {status : TripStatus}
    (due : Due trip (w.trace pid) status) :
    Search.Asks trip (w.trace pid) (.store (.setTripStatus trip status)) ∧
      ∃ next, w.processes[pid]? =
        some ⟨.run trip, .ready (.act (.store (.setTripStatus trip status)) next)⟩ := by
  obtain ⟨p, start, job, found, meets, path, reached⟩ := h.search run
  have kept := meets.of_leads path
  cases job with
  | panic => exact absurd kept due.not_idle
  | done result =>
    cases result with
    | answer | fare => exact kept.elim
    | outcome o =>
      obtain ⟨rest, freed⟩ := kept
      have idle : Search.Idle trip (w.trace pid) := by
        rw [freed]
        exact (Search.calm_cons rfl).1
      exact absurd idle due.not_idle
  | act e next =>
    obtain ⟨asks, -⟩ := kept
    cases due.asked asks
    rw [Progress.ready_of_reached reached] at found
    exact ⟨asks, next, found⟩

/-- A search that has bound nobody writes only the report that is due. -/
theorem Traced.due_of_writes (h : w.Traced calls)
    (run : (w.processes[pid]?).map Process.task = some (.run trip))
    (found : w.store.trip? trip = some t) (foreign : w.binds pid = []) {status : TripStatus}
    {t' : Trip}
    (written : (w.step pid .proceed).writes pid = (trip, status, t') :: w.writes pid) :
    t.status.final = false ∧ Due trip (w.trace pid) status := by
  obtain ⟨e, r, step, exchange⟩ := h.noted_of_writes written
  have asks := step.search run
  have effect : e = .store (.setTripStatus trip status) := Exchange.effect_of_written exchange
  have due : Due trip (w.trace pid) status := by
    rcases (asks.writes trip status effect).2 with rfl | rfl | ⟨-, x, member, c, own⟩
    · exact .inl ⟨rfl, asks.found.1 effect⟩
    · exact .inr ⟨rfl, asks.struck.1 effect⟩
    · have own : (trip, c) ∈ w.binds pid := mem_binds.2 ⟨x, member, own⟩
      rw [foreign] at own
      cases own
  refine ⟨Bool.eq_false_iff.2 fun final => ?_, due⟩
  obtain ⟨t₀, found₀, allowed, -, -⟩ := Store.setTripStatus_ok (step.written exchange)
  rw [found] at found₀
  cases found₀
  rw [← TripStatus.eq_of_allows allowed final] at final
  rcases due with ⟨rfl, -⟩ | ⟨rfl, -⟩ <;> cases final

/-- A search with a report due writes it, unless the trip is over. -/
theorem Traced.writes_of_due (h : w.Traced calls)
    (run : (w.processes[pid]?).map Process.task = some (.run trip))
    (found : w.store.trip? trip = some t) (open_ : t.status.final = false) {status : TripStatus}
    (due : Due trip (w.trace pid) status) :
    ∃ t', (w.step pid .proceed).writes pid = (trip, status, t') :: w.writes pid ∧
      (w.step pid .proceed).store.trip? trip = some t' ∧ t'.courierId = t.courierId := by
  obtain ⟨-, next, ready⟩ := h.ready_to_report run due
  let t' : Trip := { t with status := status, updatedAt := w.stamp }
  have done : w.store.perform w.stamp (.setTripStatus trip status) =
      .ok (t', { w.store with trips := w.store.trips.insert trip t' }) := by
    simp [Store.perform, Store.setTripStatus, found, TripStatus.allows, open_, Store.updateTrip, t']
  obtain ⟨history, store⟩ := step_store ready done
  refine ⟨t', ?_, ?_, rfl⟩
  · rw [World.writes, World.trace, history, traceOf_cons, if_pos rfl]
    rfl
  · rw [store]
    simp

/-- The store binds nobody for a search while its trip has a courier. -/
theorem Traced.binds_nobody (h : w.Traced calls)
    (run : (w.processes[pid]?).map Process.task = some (.run trip))
    (found : w.store.trip? trip = some t) (bound : t.courierId = some courier) (v : Verdict) :
    (w.step pid v).binds pid = w.binds pid := by
  rcases h.noted (.step pid v) with silent | ⟨_, v, e, r, same, step⟩
  · exact silent.binds pid
  · cases same
    have refused : Exchange.bound? ⟨e, r⟩ = none := by
      refine Option.eq_none_iff_forall_ne_some.2 fun ⟨id, c⟩ accepted => ?_
      cases (step.search run).binds id c (Exchange.effect_of_bound accepted)
      obtain ⟨t₀, -, found₀, unbound, -⟩ := Store.assignCourier_ok (step.bound accepted)
      rw [found] at found₀
      cases found₀
      rw [bound] at unbound
      cases unbound
    have := step.binds pid
    rwa [if_pos rfl, refused] at this

/-- A search that has bound nobody writes a status to the trip of somebody else's courier exactly when
the status is not final and the search has just found somebody near, or has struck its deadline. It
has then written nothing before, and whatever it does next it binds nobody. -/
theorem overwrites_iff (reach : w.Reachable fun _ _ => True)
    (run : (w.processes[pid]?).map Process.task = some (.run trip))
    (found : w.store.trip? trip = some t) (bound : t.courierId = some courier)
    (foreign : w.binds pid = []) :
    (∀ status, (∃ t', (w.step pid .proceed).writes pid = (trip, status, t') :: w.writes pid ∧
        (w.step pid .proceed).store.trip? trip = some t' ∧ t'.courierId = some courier) ↔
      t.status.final = false ∧ (status = .courierFound ∧ FoundSomebody trip (w.trace pid) ∨
        status = .courierNotFound ∧ StruckDeadline trip (w.trace pid))) ∧
    (FoundSomebody trip (w.trace pid) ∨ StruckDeadline trip (w.trace pid) → w.writes pid = []) ∧
    ∀ v, (w.step pid v).binds pid = [] := by
  have traced : w.Traced (fun _ => True) := reach.traced fun _ _ _ => enters_any
  refine ⟨fun status => ⟨fun ⟨t', written, _⟩ => ?_, fun ⟨open_, due⟩ => ?_⟩, fun soon => ?_,
    fun v => ?_⟩
  · exact traced.due_of_writes run found foreign written
  · rw [← bound]
    exact traced.writes_of_due run found open_ due
  · have ⟨status, due⟩ : ∃ status, Due trip (w.trace pid) status := by
      rcases soon with found | struck
      · exact ⟨_, .inl ⟨rfl, found⟩⟩
      · exact ⟨_, .inr ⟨rfl, struck⟩⟩
    have untouched := (traced.ready_to_report run due).1.first soon
    exact List.filterMap_eq_nil_iff.2 fun x member => (untouched x member).1
  · rw [traced.binds_nobody run found bound, foreign]

/-! ## A served trip that nobody was found for -/

open Trial in
/-- A courier was bound by hand while the search went on. Process 3, the search, has found nobody and
has struck its deadline. -/
def servedAtDeadline : World :=
  start.run (stock ++ .enter request :: steps 2 9 ++
    .enter (.assignCourier Trial.trip Trial.courier) :: steps 4 9 ++ steps 3 5 ++ .pass 1000 :: steps 3 2)

theorem servedAtDeadline_reachable : servedAtDeadline.Reachable Faultless :=
  ⟨Trial.config, Trial.around, Trial.start, _, Trial.start_new,
    .of_mild (by decide) fun _ _ mild => ⟨enters_of_mild mild, storeHolds_of_mild mild⟩, rfl⟩

/-- The search is about to write that nobody was found. -/
theorem servedAtDeadline_facts :
    servedAtDeadline.IdsDistinct ∧
    (servedAtDeadline.processes[3]?).map Process.task = some (.run Trial.trip) ∧
    (servedAtDeadline.store.trip? Trial.trip).any (·.courierId = some Trial.courier) ∧
    servedAtDeadline.binds 3 = [] ∧ servedAtDeadline.writes 3 = [] ∧
    (servedAtDeadline.step 3 .proceed).writes 3 =
      ((servedAtDeadline.step 3 .proceed).store.trip? Trial.trip).toList.map
        (Trial.trip, .courierNotFound, ·) ∧
    ((servedAtDeadline.step 3 .proceed).store.trip? Trial.trip).any
      (·.courierId = some Trial.courier) := by
  decide +kernel

/-- It is not so that a search leaves the status of a trip alone that somebody else has given a
courier. -/
theorem search_disturbs_foreign_trip :
    ¬ ∀ (w : World) (pid : Nat) (trip courier : Uuid) (t : Trip), w.Reachable Faultless →
      w.IdsDistinct → (w.processes[pid]?).map Process.task = some (.run trip) →
      w.store.trip? trip = some t → t.courierId = some courier → w.binds pid = [] →
      (w.step pid .proceed).writes pid = w.writes pid := by
  intro undisturbed
  obtain ⟨distinct, run, served, foreign, before, behind, still⟩ := servedAtDeadline_facts
  obtain ⟨t, found, bound⟩ := (Option.any_eq_true _ _).1 served
  obtain ⟨t', found', -⟩ := (Option.any_eq_true _ _).1 still
  have same := undisturbed _ _ _ _ t servedAtDeadline_reachable distinct run found
    (of_decide_eq_true bound) foreign
  rw [before, behind, found'] at same
  cases same

theorem overwrites_iff_served_at_deadline :
    servedAtDeadline.Reachable (fun _ _ => True) ∧
    (servedAtDeadline.processes[3]?).map Process.task = some (.run Trial.trip) ∧
    ∃ t, servedAtDeadline.store.trip? Trial.trip = some t ∧ t.courierId = some Trial.courier ∧
      servedAtDeadline.binds 3 = [] ∧ t.status.final = false ∧
      StruckDeadline Trial.trip (servedAtDeadline.trace 3) := by
  obtain ⟨-, run, served, foreign, before, behind, still⟩ := servedAtDeadline_facts
  obtain ⟨t, found, bound⟩ := (Option.any_eq_true _ _).1 served
  obtain ⟨t', found', bound'⟩ := (Option.any_eq_true _ _).1 still
  have reach : servedAtDeadline.Reachable (fun _ _ => True) :=
    servedAtDeadline_reachable.mono fun _ _ _ => trivial
  have bound := of_decide_eq_true bound
  obtain ⟨open_, due⟩ := ((overwrites_iff reach run found bound foreign).1 .courierNotFound).1
    ⟨t', by rw [before, behind, found']; rfl, found', of_decide_eq_true bound'⟩
  refine ⟨reach, run, t, found, bound, foreign, open_, ?_⟩
  rcases due with ⟨⟨⟩, -⟩ | ⟨-, struck⟩
  exact struck

end CourierDispatch.World
