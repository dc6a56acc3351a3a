import CourierDispatch.Proofs.Links

/-!
# Trips that are over give their couriers back

When no call and no search is under way, no courier is bound to a trip that is over
(`released_when_quiet`). A courier is bound to a trip that is over only between two steps of one
process: the one that wrote the final status, and the one that lets the courier go. Until then that
process owes the release (`Released.owed`), and a process that has ended, or broken down, owes nothing
(`Traced.clear`). Binding to a trip that is over is refused by the store, so there is no other way into
this state.
-/

namespace CourierDispatch

/-- The process has ended or broken down, or it computes a fare. -/
def Process.resting (p : Process) : Bool :=
  match p.task, p.progress with
  | .fare .., _ | _, .ended _ | _, .broken => true
  | _, _ => false

namespace World

variable {calls : Call → Prop} {w w' : World} {pid : Nat} {v : Verdict} {e : Effect} {r : e.Reply}

/-- A move where callers use what is offered to them and the store does what it is asked. -/
def Faultless (w : World) (m : Move) : Prop := w.Enters (·.offered) m ∧ w.StoreHolds m

structure Released (w : World) : Prop extends w.Linked where
  /-- Whoever is bound to a trip that is over is about to be let go. -/
  owed : ∀ id c trip, w.store.courier? id = some c → c.tripId = some trip → w.Over trip →
    ∃ q, Owes trip (w.trace q)

theorem released_new {config : Config} {around : Surroundings}
    (h : World.new? config around = some w) : w.Released := by
  have linked := linked_new h
  obtain ⟨bus, rfl⟩ := eq_of_new? h
  constructor <;> simp_all [Store.empty, Store.courier?]

theorem Released.silent (h : w.Released) (same : Silent w w') : w'.Released := by
  have linked := h.toLinked.silent same
  obtain ⟨-, -, store, history, -, -⟩ := same
  refine ⟨linked, ?_⟩
  simp only [store, trace, history, Over]
  exact h.owed

/-- A courier that a step leaves bound was bound before, or the trip was open to it. -/
theorem Noted.bound_before (step : Noted calls w pid v e r w') {id trip : Uuid} {c' : Courier}
    (known : w'.store.courier? id = some c') (bound : c'.tripId = some trip) (finished : w'.Over trip) :
    ∃ c, w.store.courier? id = some c ∧ c.tripId = some trip := by
  have asks := step.conduct.fresh
  rcases step.courier_step id with same | ⟨op, a, performed, done, change⟩
  · exact ⟨c', same ▸ known, bound⟩
  · cases performed
    rw [known] at change
    generalize before : w.store.courier? id = old at change
    generalize behind : some c' = new at change
    cases change with
    | same => exact ⟨c', behind.symm, bound⟩
    | recorded asked =>
      cases behind
      subst asked
      rw [asks.2] at bound
      cases bound
    | located | moved => cases behind; exact ⟨_, rfl, bound⟩
    | freed => cases behind; cases bound
    | bound asked =>
      cases behind
      cases bound
      subst asked
      -- The store binds nobody to a trip that is over, and a binding leaves the status.
      obtain ⟨t, c, found, -, open_, -, -, store⟩ := Store.assignCourier_ok done
      obtain ⟨t', found', final⟩ := finished
      have written : w'.store.trip? trip = some { t with courierId := some id, updatedAt := w.stamp } :=
        store ▸ (Table.get?_insert ..).trans (if_pos rfl)
      rw [found'] at written
      cases written
      cases status : t.status <;> simp [status, TripStatus.terminal, TripStatus.final] at open_ final

/-- A trip that a step ends for a courier is charged to the process. -/
theorem Noted.charges (step : Noted calls w pid v e r w') (h : w.Records) {trip id : Uuid}
    {t t' : Trip} (found : w.store.trip? trip = some t) (named : t.courierId = some id)
    (open_ : t.status.final = false) (there : w'.store.trip? trip = some t')
    (final : t'.status.final) : Exchange.Charges trip ⟨e, r⟩ := by
  have asks := step.conduct.fresh
  rcases step.trip_step trip with same | ⟨op, a, performed, done, change⟩
  · rw [same, found] at there
    cases there
    rw [open_] at final
    cases final
  · cases performed
    rw [there, found] at change
    generalize behind : some t' = new at change
    cases change with
    | same => cases behind; rw [open_] at final; cases final
    | created asked =>
      subst asked
      rw [(h.fresh.unused pid trip asks).1] at found
      cases found
    | bound | priced | confirmed =>
      cases behind
      have still : t.status.final := final
      rw [open_] at still
      cases still
    | @moved status _ asked =>
      cases behind
      subst asked
      have there' := (Store.trip?_of_setTripStatus done).1
      rw [there] at there'
      cases there'
      exact ⟨status, _, rfl, final, by simp [named]⟩

/-- Behind a release that goes through nobody is bound to the trip. -/
theorem Noted.freed {trip : Uuid} {r : Except DispatchError Unit}
    (step : Noted calls w pid v (.store (.unassignTrip trip)) r w') (h : w.Records)
    (holds : w.StoreHolds (.step pid v)) {id : Uuid} {c' : Courier}
    (known : w'.store.courier? id = some c') : c'.tripId ≠ some trip := by
  rcases step.performed holds with ⟨a, -, done⟩ | ⟨err, -, refused, same⟩
  · exact Store.free_of_unassignTrip done (fun id c => h.linked id c trip) id c' known
  · intro bound
    obtain ⟨t, found, -⟩ := h.linked id c' trip (same ▸ known) bound
    rw [Store.unassignTrip_refused refused] at found
    cases found

theorem Noted.owed (step : Noted (·.offered) w pid v e r w') (h : w.Released)
    (holds : w.StoreHolds (.step pid v)) {id trip : Uuid} {c' : Courier}
    (known : w'.store.courier? id = some c') (bound : c'.tripId = some trip) (finished : w'.Over trip) :
    ∃ q, Owes trip (w'.trace q) := by
  obtain ⟨c, known₀, bound₀⟩ := step.bound_before known bound finished
  obtain ⟨t, found, named⟩ := h.linked id c trip known₀ bound₀
  obtain ⟨t', there, final⟩ := finished
  by_cases before : t.status.final
  · -- The release was owed before, and it is not this step that makes it.
    have kept : e ≠ .store (.unassignTrip trip) := by
      rintro rfl
      exact step.freed h.toRecords holds known bound
    obtain ⟨q, owes⟩ := h.owed id c trip known₀ bound₀ ⟨t, found, before⟩
    refine ⟨q, ?_⟩
    rw [trace_noted step]
    split
    · exact .inr ⟨kept, owes⟩
    · exact owes
  · refine ⟨pid, ?_⟩
    rw [trace_noted step, if_pos rfl]
    exact .inl (step.charges h.toRecords found named (by simpa using before) there final)

theorem Released.noted (h : w.Released) (step : Noted (·.offered) w pid v e r w')
    (holds : w.StoreHolds (.step pid v)) (distinct : w'.IdsDistinct) : w'.Released where
  toLinked := h.toLinked.noted step holds.honest distinct
  owed _ _ _ known bound finished := step.owed h holds known bound finished

theorem Reachable.released (reach : w.Reachable Faultless) (distinct : w.IdsDistinct) :
    w.Released :=
  reach.keeps distinct (fun _ _ rule => rule.1) (fun _ _ _ => released_new)
    (fun _ _ _ _ same h => h.silent same)
    fun _ _ _ _ _ _ _ _ rule step distinct h => h.noted step rule.2 distinct

/-! ## Quiet worlds -/

/-- No call and no search is under way. -/
def Quiet (w : World) : Prop := ∀ p ∈ w.processes, p.resting

instance : Decidable w.Quiet := inferInstanceAs (Decidable (∀ p ∈ w.processes, p.resting))

/-- A process that rests owes nothing. -/
theorem Traced.clear (h : w.Traced (·.offered)) (q : Nat)
    (rests : ∀ p, w.processes[q]? = some p → p.resting) (trip : Uuid) :
    ¬ Owes trip (w.trace q) := by
  cases found : w.processes[q]? with
  | none =>
    rw [h.trace_eq_nil (List.getElem?_eq_none_iff.1 found)]
    exact owes_nil trip
  | some p =>
    obtain ⟨task, progress⟩ := p
    obtain ⟨start, job, origin, path, reached⟩ := h.path q _ found
    have rests := rests _ found
    have meets := origin.meets.of_leads path
    have ours (call : Call) (offered : call.offered = true) : call.offered = true := offered
    cases origin with
    | fare =>
      have plain := (only_fareJob w.config _ _).of_leads path
      exact not_owes_of_unwritten fun x member => written?_of_plain (plain.2 x member) x.reply
    | call | run =>
      cases progress with
      | ready | waiting => cases rests
      | ended => subst reached; exact meets.paid ours trip
      | broken =>
        cases job with
        | done => exact reached.elim
        | panic => exact meets.paid ours trip
        | act e next =>
          cases e with
          | cacheSet => exact meets.1.sturdy ours _ _ _ rfl trip
          | _ => exact reached.elim

/-- In a quiet world nobody is bound to a trip that is over. So a courier who is online and located, and
whose trips are all over, can be matched again. -/
theorem released_when_quiet (reach : w.Reachable Faultless) (distinct : w.IdsDistinct)
    (quiet : w.Quiet) :
    (∀ id c trip t, w.store.courier? id = some c → c.tripId = some trip →
      w.store.trip? trip = some t → t.status.final = false) ∧
    ∀ id c, w.store.courier? id = some c → c.status = .online → c.location.isSome →
      (∀ trip t, w.store.trip? trip = some t → t.courierId = some id → t.status.final) →
      c.available := by
  have released := reach.released distinct
  have traced : w.Traced (·.offered) := reach.traced fun _ _ rule => rule.1
  have free {id : Uuid} {c : Courier} {trip : Uuid} {t : Trip}
      (known : w.store.courier? id = some c) (bound : c.tripId = some trip)
      (found : w.store.trip? trip = some t) : t.status.final = false := by
    refine Bool.eq_false_iff.2 fun final => ?_
    obtain ⟨q, owes⟩ := released.owed id c trip known bound ⟨t, found, final⟩
    exact traced.clear q (fun p at_ => quiet p (List.mem_of_getElem? at_)) trip owes
  refine ⟨fun _ _ _ _ => free, fun id c known online located finished => ?_⟩
  have unbound : c.tripId = none := by
    refine Option.eq_none_iff_forall_ne_some.2 fun trip bound => ?_
    obtain ⟨t, found, named⟩ := released.linked id c trip known bound
    have open_ := free known bound found
    rw [finished trip t found named] at open_
    cases open_
  simp [Courier.available, online, located, unbound]

/-! ## After a cancellation -/

open Trial in
/-- A trip was cancelled after its courier had been assigned, and all work has ended. -/
def servedAndCancelled : World :=
  start.run (stock ++ locate 2 ++ .enter request :: steps 3 9 ++
    .enter (.assignCourier trip courier) :: steps 5 10 ++
    .enter (.reportTripStatus trip .cancelled) :: steps 7 9 ++ steps 4 8)

open Trial in
theorem released_when_quiet_after_cancellation :
    servedAndCancelled.Reachable Faultless ∧ servedAndCancelled.IdsDistinct ∧
      servedAndCancelled.Quiet ∧
      (∃ t, servedAndCancelled.store.trip? trip = some t ∧ t.courierId = some courier ∧
        t.status = .cancelled) ∧
      ∃ c, servedAndCancelled.store.courier? courier = some c ∧ c.available := by
  have reach : servedAndCancelled.Reachable Faultless :=
    ⟨Trial.config, Trial.around, start, _, start_new,
      .of_mild (by decide) fun _ _ mild => ⟨enters_of_mild mild, storeHolds_of_mild mild⟩, rfl⟩
  have ⟨distinct, quiet, ended, there, finished⟩ : servedAndCancelled.IdsDistinct ∧
      servedAndCancelled.Quiet ∧
      (servedAndCancelled.store.trip? trip).any
        (fun t => t.courierId = some courier ∧ t.status = .cancelled) ∧
      (servedAndCancelled.store.courier? courier).any
        (fun c => c.status = .online ∧ c.location.isSome) ∧
      ∀ t ∈ servedAndCancelled.store.trips.values, t.status.final := by
    decide +kernel
  obtain ⟨t, found, facts⟩ := (Option.any_eq_true _ _).1 ended
  obtain ⟨c, known, ready⟩ := (Option.any_eq_true _ _).1 there
  simp only [decide_eq_true_eq] at facts ready
  refine ⟨reach, distinct, quiet, ⟨t, found, facts⟩, c, known, ?_⟩
  refine (released_when_quiet reach distinct quiet).2 _ c known ready.1 ready.2 ?_
  exact fun id t found _ => finished t (Table.mem_values_of_get? found)

end World

end CourierDispatch
