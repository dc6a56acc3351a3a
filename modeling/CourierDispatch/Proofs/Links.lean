import CourierDispatch.Proofs.Service.Records
import CourierDispatch.Proofs.Service.Trial

/-!
# Couriers and trips name each other

A courier is bound to a trip only if the trip names the courier, and a trip that is not over names
only a courier that is bound to it (`links_agree`). The first half holds whatever is called
(`Records.linked`). The second half needs that a courier is let go only for a trip that is over: the
process that lets it go has seen an exchange that shows so (`Conduct.justified`), and what such an
exchange shows stays true (`Linked.closed`). A late or repeated release therefore finds either the
courier of its own trip, which is over, or a courier that is bound elsewhere and stays so.
-/

namespace CourierDispatch.World

variable {calls : Call → Prop} {w w' : World} {pid : Nat} {v : Verdict} {e : Effect} {r : e.Reply}

/-- A move where callers use what is offered to them and the store may fail. -/
def Regular (w : World) (m : Move) : Prop := w.Enters (·.offered) m ∧ w.HonestFailures m

/-- The trip with an id is over. -/
def Over (w : World) (trip : Uuid) : Prop := ∃ t, w.store.trip? trip = some t ∧ t.status.final

structure Linked (w : World) : Prop extends w.Records where
  /-- The courier of a trip that is not over is bound to it. -/
  serving : ∀ trip t id, w.store.trip? trip = some t → t.courierId = some id →
    t.status.final = false → ∃ c, w.store.courier? id = some c ∧ c.tripId = some trip
  /-- What a process has seen to be over is over. -/
  closed : ∀ q trip, (∃ x ∈ w.trace q, x.Closes trip) → w.Over trip

theorem linked_new {config : Config} {around : Surroundings}
    (h : World.new? config around = some w) : w.Linked := by
  have records := records_new h
  obtain ⟨bus, rfl⟩ := eq_of_new? h
  constructor <;> simp_all [Store.empty, Store.trip?, trace]

theorem Linked.silent (h : w.Linked) (same : Silent w w') : w'.Linked := by
  have records := h.toRecords.silent same
  obtain ⟨-, -, store, history, -, -⟩ := same
  refine ⟨records, ?_, ?_⟩ <;> simp only [store, trace, history, Over]
  · exact h.serving
  · exact h.closed

theorem Noted.stays_over (step : Noted calls w pid v e r w') (h : w.Records) {trip : Uuid}
    (finished : w.Over trip) : w'.Over trip := by
  obtain ⟨t, found, final⟩ := finished
  obtain ⟨t', found', forward⟩ := step.forward h.fresh found
  exact ⟨t', found', by rw [forward.final final]; exact final⟩

/-- An exchange shows a trip to be over only if it is. -/
theorem Noted.closes (step : Noted calls w pid v e r w') (h : w.Records)
    (honest : w.HonestFailures (.step pid v)) {trip : Uuid}
    (closes : Exchange.Closes trip ⟨e, r⟩) : w'.Over trip := by
  have finished (before : w.Over trip) : w'.Over trip := step.stays_over h before
  obtain ⟨used, verdict, reply⟩ := step.replied
  have store := reply.store
  unfold Exchange.Closes at closes
  split at closes
  · next id status t same =>
    cases same
    obtain ⟨rfl, final⟩ := closes
    obtain ⟨found, written⟩ := Store.trip?_of_setTripStatus (store.accepted rfl)
    exact ⟨t, found, by rw [written]; exact final⟩
  · next id status trip' old same =>
    cases same
    subst closes
    refine finished ?_
    generalize behind : w'.store = s' at store
    cases store with
    | declined declined => exact Store.final_of_closed declined
    | dictated dictated =>
      rcases verdict with ⟨rfl, asks⟩ | rfl
      · cases used <;> cases dictated
        exact absurd rfl (honest pid _ _ rfl asks trip' old)
      · cases dictated
    | apart apart => exact absurd rfl (apart _)
  · exact closes.elim

/-- A bound courier stays bound to its trip, unless the trip is over. -/
theorem Noted.courier (step : Noted (·.offered) w pid v e r w') (h : w.Linked) {id trip : Uuid}
    {c : Courier} (found : w.store.courier? id = some c) (bound : c.tripId = some trip) :
    ∃ c', w'.store.courier? id = some c' ∧
      (c'.tripId = some trip ∨ c'.tripId = none ∧ w.Over trip) := by
  have conduct := step.conduct
  rcases step.courier_step id with same | ⟨op, a, performed, -, change⟩
  · exact ⟨c, same ▸ found, .inl bound⟩
  · cases performed
    rw [found] at change
    generalize behind : w'.store.courier? id = new at change
    cases change with
    | same => exact ⟨c, rfl, .inl bound⟩
    | recorded asked named =>
      subst asked named
      rw [(h.fresh.unused pid _ conduct.fresh.1).2] at found
      cases found
    | located | moved => exact ⟨_, rfl, .inl bound⟩
    | bound _ free =>
      rw [free] at bound
      cases bound
    | freed asked _ _ linked =>
      rw [linked] at bound
      cases bound
      exact ⟨_, rfl, .inr ⟨rfl, h.closed pid trip (conduct.justified (fun _ ours => ours) trip
        (congrArg _ asked))⟩⟩

/-- The courier of a trip that a step leaves open is bound to it. -/
theorem Noted.serving (step : Noted (·.offered) w pid v e r w') (h : w.Linked) {trip id : Uuid}
    {t' : Trip} (there : w'.store.trip? trip = some t') (named : t'.courierId = some id)
    (open_ : t'.status.final = false) :
    ∃ c', w'.store.courier? id = some c' ∧ c'.tripId = some trip := by
  -- A courier that was bound before stays bound, since its trip was not over.
  have kept {t : Trip} (found : w.store.trip? trip = some t) (named : t.courierId = some id) :
      ∃ c', w'.store.courier? id = some c' ∧ c'.tripId = some trip := by
    have before : t.status.final = false := by
      obtain ⟨t₁, found', forward⟩ := step.forward h.fresh found
      rw [there] at found'
      cases found'
      refine Bool.eq_false_iff.2 fun final => ?_
      rw [forward.final final, final] at open_
      cases open_
    obtain ⟨c, known, bound⟩ := h.serving trip t id found named before
    obtain ⟨c', known', bound' | ⟨-, finished⟩⟩ := step.courier h known bound
    · exact ⟨c', known', bound'⟩
    · obtain ⟨t₁, found', final⟩ := finished
      rw [found] at found'
      cases found'
      rw [before] at final
      cases final
  rcases step.trip_step trip with same | ⟨op, a, performed, done, change⟩
  · exact kept (same ▸ there) named
  · cases performed
    rw [there] at change
    generalize before : w.store.trip? trip = old at change
    generalize behind : some t' = new at change
    cases change with
    | same => exact kept (before.trans behind.symm) named
    | created => cases behind; cases named
    | moved | priced | confirmed => cases behind; exact kept before named
    | bound asked =>
      cases behind
      cases named
      subst asked
      exact (Store.linked_of_assignCourier done).2

theorem Linked.noted (h : w.Linked) (step : Noted (·.offered) w pid v e r w')
    (honest : w.HonestFailures (.step pid v)) (distinct : w'.IdsDistinct) : w'.Linked where
  toRecords := h.toRecords.noted step distinct
  serving _ _ _ there named open_ := step.serving h there named open_
  closed q trip := by
    rintro ⟨x, member, closes⟩
    rw [trace_noted step] at member
    split at member
    · rcases List.mem_cons.1 member with rfl | old
      · exact step.closes h.toRecords honest closes
      · exact step.stays_over h.toRecords (h.closed q trip ⟨x, by subst_vars; exact old, closes⟩)
    · exact step.stays_over h.toRecords (h.closed q trip ⟨x, member, closes⟩)

theorem Reachable.linked (reach : w.Reachable Regular) (distinct : w.IdsDistinct) : w.Linked :=
  reach.keeps distinct (fun _ _ rule => rule.1) (fun _ _ _ => linked_new)
    (fun _ _ _ _ same h => h.silent same)
    fun _ _ _ _ _ _ _ _ rule step distinct h => h.noted step rule.2 distinct

/-- A move takes a courier off a trip only if the trip is over. -/
theorem Linked.move (h : w.Linked) (traced : w.Traced (·.offered)) (m : Move) {id trip : Uuid}
    {c : Courier} (found : w.store.courier? id = some c) (bound : c.tripId = some trip) :
    ∃ c', (w.move m).store.courier? id = some c' ∧
      (c'.tripId = some trip ∨ c'.tripId = none ∧ w.Over trip) := by
  rcases traced.noted m with silent | ⟨pid, v, e, r, -, step⟩
  · exact ⟨c, by rw [silent.store]; exact found, .inl bound⟩
  · exact step.courier h found bound

/-- A courier who is bound to a trip is named by it; the courier of a trip that is not over is bound
to it; so no courier is named by two trips that are not over; and whatever happens next, a courier
who comes off a trip leaves one that is over, and is bound to no other. -/
theorem links_agree (reach : w.Reachable Regular) (distinct : w.IdsDistinct) :
    (∀ id c trip, w.store.courier? id = some c → c.tripId = some trip →
      ∃ t, w.store.trip? trip = some t ∧ t.courierId = some id) ∧
    (∀ trip t id, w.store.trip? trip = some t → t.courierId = some id → t.status.final = false →
      ∃ c, w.store.courier? id = some c ∧ c.tripId = some trip) ∧
    (∀ trip t trip' t' id, w.store.trip? trip = some t → w.store.trip? trip' = some t' →
      t.courierId = some id → t'.courierId = some id → t.status.final = false →
      t'.status.final = false → trip = trip') ∧
    ∀ m id c trip, w.store.courier? id = some c → c.tripId = some trip →
      ∃ c', (w.move m).store.courier? id = some c' ∧ (c'.tripId = some trip ∨
        c'.tripId = none ∧ ∃ t, w.store.trip? trip = some t ∧ t.status.final) := by
  have linked := reach.linked distinct
  have traced : w.Traced (·.offered) := reach.traced fun _ _ rule => rule.1
  refine ⟨linked.linked, linked.serving, ?_, ?_⟩
  · intro trip t trip' t' id found found' named named' open_ open_'
    obtain ⟨c, known, bound⟩ := linked.serving trip t id found named open_
    obtain ⟨c', known', bound'⟩ := linked.serving trip' t' id found' named' open_'
    rw [known] at known'
    cases known'
    rw [bound] at bound'
    exact Option.some.inj bound'
  · intro m id c trip known bound
    exact linked.move traced m known bound

/-! ## A late release -/

open Trial in
/-- A courier has served one trip and is bound to the next, and the first trip is reported complete
once more: process 11 is about to let its courier go. -/
def lateRelease : World :=
  start.run (stock ++ .enter request :: steps 2 20 ++ .enter request :: steps 4 20 ++
    .enter (.assignCourier trip courier) :: steps 6 10 ++
    .enter (.reportTripStatus trip .complete) :: steps 8 10 ++
    .enter (.assignCourier nextTrip courier) :: steps 9 10 ++
    .enter (.reportTripStatus trip .complete) :: steps 11 4)

theorem lateRelease_reachable : lateRelease.Reachable Regular :=
  ⟨Trial.config, Trial.around, Trial.start, _, Trial.start_new,
    .of_mild (by decide) fun _ _ mild => ⟨enters_of_mild mild, (storeHolds_of_mild mild).honest⟩, rfl⟩

open Trial in
theorem links_agree_late_release :
    lateRelease.Reachable Regular ∧ lateRelease.IdsDistinct ∧
    ∃ c, lateRelease.store.courier? courier = some c ∧ c.tripId = some nextTrip ∧
      (∃ t, lateRelease.store.trip? nextTrip = some t ∧ t.courierId = some courier) ∧
      ∃ c', (lateRelease.move (.step 11 .proceed)).store.courier? courier = some c' ∧
        (c'.tripId = some nextTrip ∨
          c'.tripId = none ∧ ∃ t, lateRelease.store.trip? nextTrip = some t ∧ t.status.final) := by
  have ⟨distinct, bound⟩ : lateRelease.IdsDistinct ∧
      (lateRelease.store.courier? courier).bind Courier.tripId = some nextTrip := by
    decide +kernel
  obtain ⟨c, known, bound⟩ := Option.bind_eq_some_iff.1 bound
  obtain ⟨named, -, -, kept⟩ := links_agree lateRelease_reachable distinct
  exact ⟨lateRelease_reachable, distinct, c, known, bound, named _ _ _ known bound,
    kept _ _ _ _ known bound⟩

end CourierDispatch.World
