import CourierDispatch.Proofs.Links
import CourierDispatch.Proofs.Search.Process
import CourierDispatch.Proofs.Service.Trial

/-!
# What a search reports is what it did

The outcome of a search tells what it has done to the records (`MatchOutcome.Tells`): what it wrote, whom
it bound, and whether it let the courier go again. A search that ends as cancelled has seen its trip to
be over, one that ends with an assignment has announced it on both channels, and the trip keeps the
courier. Whatever a search does in a step, it does to its own trip and to the courier that it binds, and
the fare that it starts changes its trip only (`search_account`).
-/

namespace CourierDispatch

def Deed.binds : Deed → Bool
  | .bound .. => true
  | _ => false

/-- The deeds that an outcome stands for. -/
def MatchOutcome.Tells (trip : Uuid) (deeds : List Deed) : MatchOutcome → Prop
  | .notFound => deeds = [.wrote trip .courierNotFound]
  | .assigned c => deeds = [.wrote trip .courierFound, .bound trip c, .wrote trip .courierAssigned]
  | .assignmentFailed => deeds = [.wrote trip .courierFound]
  | .tripMissing => deeds = [] ∨ deeds = [.wrote trip .courierFound]
  | .cancelled => deeds = [] ∨ deeds = [.wrote trip .courierFound] ∨
      ∃ c, deeds = [.wrote trip .courierFound, .bound trip c] ∨
        deeds = [.wrote trip .courierFound, .bound trip c, .released trip]
  | .aborted => deeds = [] ∨ deeds = [.wrote trip .courierFound] ∨
      ∃ c, deeds = [.wrote trip .courierFound, .bound trip c]

namespace Search

variable {trip : Uuid} {past : List Exchange} {o : MatchOutcome} {d : List Deed}

theorem Settled.tells (settled : Settled trip past o) : o.Tells trip (deedsOf past) := by
  cases settled with
  | notFound done | assigned done | failed done => exact done
  | idle quiet _ done =>
    rcases quiet with rfl | rfl | rfl
    · exact done.imp_right .inl
    · exact done
    · exact done.imp_right .inl
  | @closed c r _ _ done =>
    cases r with
    | error err => exact .inr (.inr ⟨c, .inl done⟩)
    | ok _ => exact .inr (.inr ⟨c, .inr done⟩)
  | kept _ _ done => exact .inr (.inr ⟨_, done⟩)

/-- A search that ends as cancelled has seen its trip to be over. -/
theorem Settled.seen (settled : Settled trip past .cancelled) : ∃ x ∈ past, x.ShowsOver trip := by
  cases settled with
  | idle _ seen _ => exact seen rfl
  | closed seen => exact seen

theorem Doing.binds_once (doing : Doing trip d) : d.countP Deed.binds ≤ 1 := by
  cases doing <;> simp [List.countP_cons, Deed.binds]

end Search

namespace World

variable {calls : Call → Prop} {w w' : World} {pid : Nat} {v : Verdict} {e : Effect} {r : e.Reply}
  {trip courier : Uuid} {pickup : GeoPoint} {o : MatchOutcome}

/-! ## What exchanges say of the records -/

structure Ledger (w : World) : Prop extends w.Records where
  /-- A trip that is written behind a binding names the courier. -/
  names : ∀ later x earlier trip status t, w.history = later ++ x :: earlier →
    x.exchange.written? = some (trip, status, t) → ∀ y ∈ earlier, ∀ courier,
      y.exchange.bound? = some (trip, courier) → t.courierId = some courier
  /-- What was shown to be over is over. -/
  shown : ∀ x ∈ w.history, ∀ trip, x.exchange.ShowsOver trip → w.Over trip

theorem ledger_new {config : Config} {around : Surroundings}
    (h : World.new? config around = some w) : w.Ledger := by
  have records := records_new h
  obtain ⟨bus, rfl⟩ := eq_of_new? h
  exact ⟨records, by simp, by simp⟩

theorem Ledger.silent (h : w.Ledger) (same : Silent w w') : w'.Ledger := by
  have records := h.toRecords.silent same
  obtain ⟨-, -, store, history, -, -⟩ := same
  refine ⟨records, ?_, ?_⟩ <;> simp only [store, history, Over]
  · exact h.names
  · exact h.shown

theorem Noted.shows_over (step : Noted calls w pid v e r w') (h : w.Records)
    (honest : w.HonestFailures (.step pid v)) (shows : Exchange.ShowsOver trip ⟨e, r⟩) :
    w'.Over trip := by
  rcases shows with closes | ⟨t, same, final⟩
  · exact step.closes h honest closes
  · cases same
    obtain ⟨found, same⟩ := Store.unchanged_ok.1 (step.told (by simp [Effect.nothing]))
    exact ⟨t, by rw [← same, found], final⟩

theorem Ledger.noted (h : w.Ledger) (step : Noted calls w pid v e r w')
    (honest : w.HonestFailures (.step pid v)) (distinct : w'.IdsDistinct) : w'.Ledger where
  toRecords := h.toRecords.noted step distinct
  names later x earlier trip status t split written y noted courier bound := by
    rw [step.history] at split
    cases later with
    | nil =>
      obtain ⟨rfl, rfl⟩ := List.cons.inj split
      obtain ⟨t₀, found, -, rfl, -⟩ := Store.setTripStatus_ok (step.written written)
      obtain ⟨t', found', named⟩ := h.bound y noted trip courier bound
      rw [found] at found'
      cases found'
      exact named
    | cons z later =>
      exact h.names later x earlier trip status t (List.cons.inj split).2 written y noted courier bound
  shown x noted trip shows := by
    rw [step.history] at noted
    rcases List.mem_cons.1 noted with rfl | old
    · exact step.shows_over h.toRecords honest shows
    · exact step.stays_over h.toRecords (h.shown x old trip shows)

theorem Reachable.ledger (reach : w.Reachable HonestFailures) (distinct : w.IdsDistinct) :
    w.Ledger :=
  reach.keeps distinct (fun _ _ _ => enters_any)
    (fun _ _ _ => ledger_new) (fun _ _ _ _ same h => h.silent same)
    fun _ _ _ _ _ _ _ _ honest step distinct h => h.noted step honest distinct

/-! ## What a search leaves alone -/

theorem Noted.spares_trips (step : Noted calls w pid v e r w')
    (search : w.Searches pid trip pickup) {id : Uuid} (other : id ≠ trip) :
    w'.store.trip? id = w.store.trip? id := by
  have acts := step.acts search
  rcases step.trip_step id with same | ⟨op, a, performed, -, change⟩
  · exact same
  · cases performed
    have touches := acts.touches op rfl
    generalize w.store.trip? id = old at change
    generalize w'.store.trip? id = new at change
    cases change with
    | same => rfl
    | created asked | priced asked | confirmed asked => subst asked; cases touches
    | moved asked | bound asked => subst asked; exact absurd (of_decide_eq_true touches) other

/-- The courier that a search lets go is the one that it has bound. -/
theorem Noted.spares_couriers (step : Noted calls w pid v e r w') (h : w.Records)
    (search : w.Searches pid trip pickup) {id : Uuid} (other : .bound trip id ∉ w'.deeds pid) :
    w'.store.courier? id = w.store.courier? id := by
  have acts := step.acts search
  rw [step.deeds, if_pos rfl] at other
  rcases step.courier_step id with same | ⟨op, a, performed, -, change⟩
  · exact same
  · cases performed
    have touches := acts.touches op rfl
    generalize w.store.courier? id = old at change
    generalize w'.store.courier? id = new at change
    cases change with
    | same => rfl
    | recorded asked | located asked | moved asked => subst asked; cases touches
    | bound asked =>
      subst asked
      cases of_decide_eq_true touches
      exact absurd (List.mem_append_right _ List.mem_cons_self) other
    | @freed trip' t c asked found named =>
      subst asked
      obtain rfl : trip' = trip := of_decide_eq_true touches
      obtain ⟨bound, done⟩ := acts.releases trip' rfl
      have mine : .bound trip' bound ∈ w.deeds pid := by rw [World.deeds, done]; simp
      obtain ⟨t', found', named'⟩ := h.named (bound_of_deeds mine)
      rw [found] at found'
      cases found'
      rw [named] at named'
      cases named'
      exact absurd (List.mem_append_left _ mine) other

/-- What a process that computes a fare is given a reply to, it asks for its fare. -/
theorem Noted.prices (step : Noted calls w pid v e r w')
    (fare : (w.processes[pid]?).map Process.task = some (.fare trip courier)) : e.prices trip := by
  obtain ⟨task, p, start, next, found, -, origin, path, -⟩ := step.asked
  rw [found] at fare
  cases fare
  cases origin with
  | fare => exact ((prices_fareJob w.config trip courier).of_leads path).1.1

theorem Noted.fare_spares (step : Noted calls w pid v e r w')
    (fare : (w.processes[pid]?).map Process.task = some (.fare trip courier)) :
    (∀ id, id ≠ trip → w'.store.trip? id = w.store.trip? id) ∧
      ∀ id, w'.store.courier? id = w.store.courier? id := by
  obtain ⟨used, -, reply⟩ := step.replied
  rcases reply.store.changed with same | ⟨op, a, done, performed⟩
  · exact ⟨fun id _ => by rw [same], fun id => by rw [same]⟩
  · cases performed
    rcases step.prices fare with reads | ⟨cost, asked⟩
    · rw [Store.same_of_reads done reads]
      exact ⟨fun _ _ => rfl, fun _ => rfl⟩
    · cases asked
      obtain ⟨t, -, written⟩ := Store.setTripCost_ok done
      rw [written]
      exact ⟨fun id other => (Store.trip?_insertTrip ..).trans (if_neg other), fun _ => rfl⟩

/-! ## What is told of an assignment -/

/-- A search that has reported an assignment has bound the courier, and the trip was written with it. -/
theorem Searches.assigned_report (search : w.Searches pid trip pickup) (h : w.Ledger)
    {target : Uuid} {t : Trip}
    (written : ∃ x ∈ w.trace pid, x.written? = some (target, .courierAssigned, t)) :
    t.id = trip ∧ t.status = .courierAssigned ∧
      ∃ c, t.courierId = some c ∧ .bound trip c ∈ w.deeds pid := by
  obtain ⟨_, member, written⟩ := written
  obtain ⟨x, noted, own, rfl⟩ := mem_traceOf.1 member
  obtain ⟨named, status⟩ := h.reported x noted _ _ t written
  obtain ⟨later, earlier, split⟩ := List.append_of_mem noted
  have acts := search.asked split own
  have asked : x.effect = _ := Exchange.effect_of_written written
  obtain rfl : target = trip := of_decide_eq_true (acts.touches _ asked)
  rcases acts.writes _ _ asked with ⟨first | first, -⟩ | ⟨-, c, done⟩
  · cases first
  · cases first
  · have bound : .bound target c ∈ deedsOf (traceOf earlier pid) := by simp [done]
    obtain ⟨y, noted, -, deed⟩ := mem_deedsOf_traceOf.1 bound
    exact ⟨named, status, c, h.names later x earlier target _ t split written y noted c
      (Exchange.deed?_eq_bound.1 deed), mem_deeds_of_split split bound⟩

/-- A message of a search that tells of an assignment tells of the courier that it has bound. -/
theorem Searches.message (search : w.Searches pid trip pickup) (traced : w.Traced calls) (h : w.Ledger)
    {channel : Channel} {u : TripUpdate} {r : (Effect.publish channel u).Reply}
    (published : ⟨.publish channel u, r⟩ ∈ w.trace pid) (assigned : u.status = .courierAssigned) :
    ∃ c, u = ⟨trip, .courierAssigned, some c, none⟩ ∧ .bound trip c ∈ w.deeds pid := by
  obtain ⟨x, noted, own, exchange⟩ := mem_traceOf.1 published
  obtain ⟨later, earlier, split⟩ := List.append_of_mem noted
  have announced := (traced.conduct_at split).announced
  rw [show x.effect = _ from congrArg Exchange.effect exchange, own] at announced
  obtain ⟨target, status, t, last, -, -, tells⟩ := announced
  obtain ⟨_, member, written⟩ := mem_of_lastReport last
  obtain ⟨y, noted, mine, rfl⟩ := mem_traceOf.1 member
  have known : y ∈ w.history := by rw [split]; simp [noted]
  have status : status = .courierAssigned := by
    rw [← (h.reported y known _ _ t written).2, ← tells.status, assigned]
  subst status
  obtain ⟨named, status, c, courier, bound⟩ := search.assigned_report h
    ⟨y.exchange, mem_traceOf.2 ⟨y, known, mine, rfl⟩, written⟩
  refine ⟨c, ?_, bound⟩
  have nowhere : u.courierLocation = none :=
    Option.not_isSome_iff_eq_none.1 fun there => by
      rcases tells.location there with way | way <;> rw [status] at way <;> cases way
  have trip_ := tells.trip
  have courier_ := tells.courier
  rw [status, if_pos rfl, courier] at courier_
  cases u
  simp_all

/-- A search that ends with an assignment has announced it. -/
theorem Searches.announces (search : w.Searches pid trip pickup) (traced : w.Traced calls)
    (h : w.Ledger) (ended : w.outcome? pid = some (.assigned courier)) (channel : Channel) :
    ∃ r, ⟨.publish channel ⟨trip, .courierAssigned, some courier, none⟩, r⟩ ∈ w.trace pid := by
  have done : w.deeds pid = _ := (search.settled ended).tells
  have wrote : .wrote trip .courierAssigned ∈ w.deeds pid := by simp [done]
  obtain ⟨x, member, deed⟩ := mem_deedsOf.1 wrote
  obtain ⟨t, written⟩ := Exchange.deed?_eq_wrote.1 deed
  obtain ⟨named, status, c, names, bound⟩ := search.assigned_report h ⟨x, member, written⟩
  obtain rfl : c = courier := by simpa [done] using bound
  obtain ⟨task, result, found, -⟩ := outcome?_eq_some.1 ended
  obtain ⟨start, job, origin, path, rfl⟩ := traced.path pid _ found
  have meets := origin.meets
  have called : (channel, ⟨trip, .courierAssigned, some c, none⟩) ∈ t.calls .courierAssigned none := by
    cases channel <;> simp [Trip.calls, Trip.noticeAt, TripStatus.channels, named, status, names]
  rcases told_or_pending (fun _ => none) (fun _ _ conduct => conduct.speaks) meets path
    (by rw [status]; rfl) ⟨x, member, written⟩ called with told | waits
  · exact told
  · rw [(meets.of_leads path).said] at waits
    cases waits

/-! ## The account -/

/-- What the outcome of a search tells, and what the search and its fare leave alone. -/
structure Account (w : World) (pid : Nat) (trip : Uuid) : Prop where
  binds_once : (w.deeds pid).countP Deed.binds ≤ 1
  outcome : ∀ o, w.outcome? pid = some o → o.Tells trip (w.deeds pid)
  cancelled : w.outcome? pid = some .cancelled → w.Over trip
  messages : ∀ c, w.outcome? pid = some (.assigned c) →
    (∀ channel, ∃ r, ⟨.publish channel ⟨trip, .courierAssigned, some c, none⟩, r⟩ ∈ w.trace pid) ∧
    ∀ channel u r, ⟨.publish channel u, r⟩ ∈ w.trace pid → u.status = .courierAssigned →
      u = ⟨trip, .courierAssigned, some c, none⟩
  /-- Whatever is done later, the trip keeps the courier. -/
  kept : ∀ c, .bound trip c ∈ w.deeds pid → ∀ moves, (w.run moves).IdsDistinct →
    ∃ t, (w.run moves).store.trip? trip = some t ∧ t.courierId = some c
  spares_trips : ∀ v id, id ≠ trip → (w.step pid v).store.trip? id = w.store.trip? id
  spares_couriers : ∀ v id, .bound trip id ∉ (w.step pid v).deeds pid →
    (w.step pid v).store.courier? id = w.store.courier? id
  fares : ∀ id c, ⟨.startFare id c, ()⟩ ∈ w.trace pid → id = trip ∧ .bound trip c ∈ w.deeds pid
  fare_spares : ∀ q c v, (w.processes[q]?).map Process.task = some (.fare trip c) →
    (∀ id, id ≠ trip → (w.step q v).store.trip? id = w.store.trip? id) ∧
      ∀ id, (w.step q v).store.courier? id = w.store.courier? id

/-- A search does what its outcome says, and changes nothing but its trip and the courier that it binds. -/
theorem search_account (reach : w.Reachable HonestFailures) (distinct : w.IdsDistinct)
    (search : w.Searches pid trip pickup) : w.Account pid trip := by
  have traced : w.Traced (fun _ => True) := reach.traced fun _ _ _ => enters_any
  have ledger := reach.ledger distinct
  refine ⟨search.doing.binds_once, fun o ended => (search.settled ended).tells, fun ended => ?_,
    fun c ended => ⟨search.announces traced ledger ended, fun channel u r published assigned => ?_⟩,
    fun c bound moves distinct' => ?_, fun v id other => ?_, fun v id other => ?_,
    fun id c started => ?_, fun q c v fare => ?_⟩
  · obtain ⟨x, member, shows⟩ := (search.settled ended).seen
    obtain ⟨y, noted, -, rfl⟩ := mem_traceOf.1 member
    exact ledger.shown y noted trip shows
  · have done : w.deeds pid = _ := (search.settled ended).tells
    obtain ⟨c', rfl, bound⟩ := search.message traced ledger published assigned
    obtain rfl : c' = c := by simpa [done] using bound
    rfl
  · obtain ⟨x, noted, deed⟩ := bound_of_deeds bound
    have anything : w.Obeys (fun _ _ => True) moves := obeys_any moves
    have later := (reach.mono fun _ _ _ => trivial).run anything
    have still := history_suffix traced anything fun _ _ _ => enters_any
    exact (later.records distinct').named ⟨x, still.subset noted, deed⟩
  · rcases traced.noted (.step pid v) with same | ⟨_, _, e, r, move, step⟩
    · exact congrArg (·.trip? id) same.store
    · cases move
      exact step.spares_trips search other
  · rcases traced.noted (.step pid v) with same | ⟨_, _, e, r, move, step⟩
    · exact congrArg (·.courier? id) same.store
    · cases move
      exact step.spares_couriers ledger.toRecords search other
  · obtain ⟨x, noted, own, exchange⟩ := mem_traceOf.1 started
    obtain ⟨later, earlier, split⟩ := List.append_of_mem noted
    obtain ⟨rfl, done⟩ := (search.asked split own).fares id c (congrArg Exchange.effect exchange)
    have bound : .bound id c ∈ deedsOf (traceOf earlier pid) := by simp [done]
    exact ⟨rfl, mem_deeds_of_split split bound⟩
  · rcases traced.noted (.step q v) with same | ⟨_, _, e, r, move, step⟩
    · exact ⟨fun id _ => congrArg (·.trip? id) same.store, fun id => congrArg (·.courier? id) same.store⟩
    · cases move
      exact step.fare_spares fare

open Trial in
/-- A trip was asked for, and nobody has looked for a courier yet. -/
def requested : World :=
  start.run (stock ++ locateAtDepot 2 ++ .enter requestFromDepot :: steps 3 9)

/-- Somebody has had a courier searched for; the search, process 5, has bound and announced one. -/
def assigned : World :=
  requested.run (.enter (.search Trial.trip Trial.depot) :: Trial.steps 5 16)

theorem search_account_of_assigned :
    assigned.Reachable HonestFailures ∧ assigned.IdsDistinct ∧
    assigned.Searches 5 Trial.trip Trial.depot ∧
    assigned.outcome? 5 = some (.assigned Trial.courier) ∧ assigned.Account 5 Trial.trip := by
  have ⟨distinct, before, ended⟩ : assigned.IdsDistinct ∧ requested.processes.length = 5 ∧
      assigned.outcome? 5 = some (.assigned Trial.courier) := by
    decide +kernel
  have honest {w : World} {moves : List Move} (mild : moves.all Move.mild) :
      w.Obeys HonestFailures moves :=
    .of_mild mild fun _ _ mild => (storeHolds_of_mild mild).honest
  have reach : requested.Reachable HonestFailures :=
    ⟨Trial.config, Trial.around, Trial.start, _, Trial.start_new, honest (by decide), rfl⟩
  have traced : requested.Traced (fun _ => True) := reach.traced fun _ _ _ => enters_any
  have search : assigned.Searches 5 Trial.trip Trial.depot := by
    have search := (traced.searches_of_enter Trial.trip Trial.depot).run (Trial.steps 5 16)
    rw [before] at search
    rw [assigned, run_cons]
    exact search
  have reach : assigned.Reachable HonestFailures := reach.run (honest (by decide))
  exact ⟨reach, distinct, search, ended, search_account reach distinct search⟩

end World

end CourierDispatch
