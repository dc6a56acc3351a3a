import CourierDispatch.Proofs.Search.Process
import CourierDispatch.Proofs.Service.Announcing
import CourierDispatch.Proofs.Service.Trial

/-!
# A trip cancelled before anybody was bound

A cancellation that the store accepts while the trip has no courier is final, and it stops the search
(`cancelled_for_good`). From then on every exchange sees the trip closed (`Exchange.SeesCancelled`): a
reader reads it cancelled, another status is refused, a binding is refused. So whatever a search was
about to do, its next look at the trip ends it. Messages about the trip come only from later reports,
because nobody else was announcing when the cancellation was written (`Aftermath`).
-/

namespace CourierDispatch

/-- An exchange with a store in which a trip is cancelled and has no courier. -/
structure Exchange.SeesCancelled (trip : Uuid) (x : Exchange) : Prop where
  written : ∀ status t, x.written? = some (trip, status, t) →
    status = .cancelled ∧ t.courierId = none
  unbound : ∀ courier, x.bound? ≠ some (trip, courier)
  read : ∀ r, x = ⟨.store (.getTrip trip), r⟩ → ∃ t, r = .ok (some t) ∧ t.status = .cancelled
  refused : ∀ status err, x = ⟨.store (.setTripStatus trip status), .error err⟩ →
    ∃ old, err = .tripClosed trip old

/-- What ends a search whose last exchange saw its trip cancelled: that, or something it had done. -/
theorem Search.Reason.of_cancelled {trip : Uuid} {past : List Exchange} {outcome : MatchOutcome}
    (reason : Reason trip past outcome)
    (sees : ∀ x rest, past = x :: rest → x.SeesCancelled trip) :
    outcome = .cancelled ∨ (∃ x ∈ past, ∃ courier, x.bound? = some (trip, courier)) ∨
      outcome = .notFound ∧ ∃ x ∈ past, ∃ t, x.written? = some (trip, .courierNotFound, t) := by
  cases reason with
  | cancelled => exact .inl rfl
  | missing =>
    obtain ⟨t, there, -⟩ := (sees _ _ rfl).read _ rfl
    cases there
  | unread =>
    obtain ⟨t, there, -⟩ := (sees _ _ rfl).read _ rfl
    cases there
  | kept past alive =>
    obtain ⟨t, there, cancelled⟩ := (sees _ _ rfl).read _ rfl
    cases there
    exact absurd cancelled alive
  | refused past open_ =>
    obtain ⟨old, closed⟩ := (sees _ _ rfl).refused _ _ rfl
    exact absurd closed (open_ trip old)
  | assigned member bound => exact .inr (.inl ⟨_, member, _, bound⟩)
  | notFound member written => exact .inr (.inr ⟨rfl, _, member, _, written⟩)

namespace World

variable {calls : Call → Prop} {b w w' : World} {pid q : Nat} {v : Verdict} {e : Effect}
  {r : e.Reply} {trip : Uuid} {later : List Event}

/-! ## What a step sees of a cancelled trip -/

/-- The trip is cancelled and has no courier. -/
def CancelledUnbound (w : World) (trip : Uuid) : Prop :=
  ∃ t, w.store.trip? trip = some t ∧ t.status = .cancelled ∧ t.courierId = none

theorem Noted.still_cancelled (step : Noted calls w pid v e r w') (h : w.Records)
    (finished : w.CancelledUnbound trip) : w'.CancelledUnbound trip := by
  obtain ⟨t, found, cancelled, unbound⟩ := finished
  obtain ⟨t', found', forward⟩ := step.forward h.fresh found
  refine ⟨t', found', ?_, ?_⟩
  · rw [forward.final (by rw [cancelled]; rfl), cancelled]
  · rw [forward.closed (by rw [cancelled]; rfl), unbound]

theorem Noted.sees_cancelled (step : Noted calls w pid v e r w')
    (holds : w.StoreHolds (.step pid v)) (finished : w.CancelledUnbound trip) :
    Exchange.SeesCancelled trip ⟨e, r⟩ := by
  obtain ⟨t, found, cancelled, unbound⟩ := finished
  refine ⟨fun status t' written => ?_, fun courier bound => ?_, fun _ same => ?_,
    fun status err same => ?_⟩
  · obtain ⟨t₀, found₀, allowed, rfl, -⟩ := Store.setTripStatus_ok (step.written written)
    rw [found] at found₀
    cases found₀
    rw [cancelled] at allowed
    exact ⟨TripStatus.eq_of_allows allowed rfl, unbound⟩
  · obtain ⟨t₀, -, found₀, -, open_, -⟩ := Store.assignCourier_ok (step.bound bound)
    rw [found] at found₀
    cases found₀
    rw [cancelled] at open_
    cases open_
  · cases same
    rcases step.performed holds with ⟨a, rfl, done⟩ | ⟨err, -, refused, -⟩
    · simp only [Store.perform, Store.unchanged, found, Except.ok.injEq, Prod.mk.injEq] at done
      exact ⟨t, congrArg Except.ok done.1.symm, cancelled⟩
    · cases refused
  · cases same
    rcases step.performed holds with ⟨a, refused, -⟩ | ⟨err', same, refused, -⟩
    · cases refused
    · cases same
      simp only [Store.perform, Store.setTripStatus, found] at refused
      split at refused
      · simp only [Store.updateTrip, found] at refused
        cases refused
      · cases refused
        exact ⟨_, rfl⟩

/-! ## What came since -/

/-- What was noted since an earlier world. A process that was about to ask for something then has had
its reply since, or still asks for it. -/
structure Since (b : World) (later : List Event) (w : World) : Prop where
  history : w.history = later ++ b.history
  asked : ∀ q p e next, b.processes[q]? = some p → p.progress.At (.act e next) →
    b.trace q = [] ∨ (∃ x ∈ later, x.process = q ∧ x.effect = e) ∨
      ∀ p', w.processes[q]? = some p' → ∀ job, p'.progress.At job → job = .act e next

theorem Since.refl (b : World) : Since b [] b := by
  refine ⟨rfl, fun q p e next found at_ => .inr (.inr fun p' found' job at_' => ?_)⟩
  rw [found] at found'
  cases found'
  exact at_.same at_'

theorem Since.trace (h : Since b later w) (q : Nat) : w.trace q = traceOf later q ++ b.trace q := by
  rw [World.trace, h.history, traceOf_append]
  rfl

/-- A process that has not begun was not there before. -/
theorem Since.trace_eq_nil (h : Since b later w) (traced : w.Traced calls)
    (new : w.processes.length ≤ q) : b.trace q = [] := by
  have none_ := traced.trace_eq_nil new
  rw [h.trace] at none_
  exact (List.append_eq_nil_iff.1 none_).2

theorem Since.silent (h : Since b later w) (traced : w.Traced calls) (same : Silent w w') :
    Since b later w' := by
  refine ⟨same.history.trans h.history, fun q p e next found at_ => ?_⟩
  rcases h.asked q p e next found at_ with nothing | replied | waits
  · exact .inl nothing
  · exact .inr (.inl replied)
  · by_cases new : w.processes.length ≤ q
    · exact .inl (h.trace_eq_nil traced new)
    · refine .inr (.inr fun p' found' job at_' => ?_)
      rcases same.jobs q p' found' with ⟨p₀, found₀, stood⟩ | new'
      · exact waits p₀ found₀ job (stood job at_')
      · exact absurd new' new

theorem Since.noted (h : Since b later w) (traced : w.Traced calls)
    (step : Noted calls w pid v e r w') : Since b (⟨w.now, pid, e, r⟩ :: later) w' := by
  refine ⟨by rw [step.history, h.history]; rfl, fun q p e' next found at_ => ?_⟩
  rcases h.asked q p e' next found at_ with nothing | ⟨x, member, replied⟩ | waits
  · exact .inl nothing
  · exact .inr (.inl ⟨x, List.mem_cons_of_mem _ member, replied⟩)
  · by_cases own : q = pid
    · subst own
      obtain ⟨task, p₀, start, next₀, found₀, before, -⟩ := step.asked
      cases waits _ found₀ _ before
      exact .inr (.inl ⟨_, List.mem_cons_self, rfl, rfl⟩)
    · by_cases new : w.processes.length ≤ q
      · exact .inl (h.trace_eq_nil traced new)
      · refine .inr (.inr fun p' found' => ?_)
        rcases step.others q p' own found' with found₀ | new'
        · exact waits p' found₀
        · exact absurd new' new

/-! ## Messages and searches since a cancellation -/

/-- What holds behind a cancellation. Whoever announces has reported since, and what is told of the trip
is that it is cancelled, by somebody who has just reported so. -/
structure Aftermath (b : World) (trip : Uuid) (later : List Event) (w : World) : Prop where
  since : Since b later w
  records : w.Records
  still : w.CancelledUnbound trip
  sees : ∀ x ∈ later, x.exchange.SeesCancelled trip
  announcing : ∀ q, w.Announcing q → ∃ x ∈ later, x.process = q ∧ x.effect.reports
  messages : ∀ newer x older channel u, later = newer ++ x :: older →
    x.effect = .publish channel u → u.tripId = trip →
    channel = .assignment ∧ u = ⟨trip, .cancelled, none, none⟩ ∧
      ∃ t, lastReport (traceOf older x.process) = some (trip, .cancelled, t)

theorem Aftermath.silent (h : Aftermath b trip later w) (traced : w.Traced calls)
    (traced' : w'.Traced calls) (same : Silent w w') : Aftermath b trip later w' where
  since := h.since.silent traced same
  records := h.records.silent same
  still := by
    obtain ⟨t, found, finished⟩ := h.still
    exact ⟨t, by rw [same.store, found], finished⟩
  sees := h.sees
  announcing q soon := h.announcing q (same.announcing traced traced' soon)
  messages := h.messages

/-- What is told of the trip is the notice of a cancellation that was reported since. -/
theorem Aftermath.told (h : Aftermath b trip later w) {channel : Channel} {u : TripUpdate}
    {r : (Effect.publish channel u).Reply}
    (step : Noted calls w pid v (.publish channel u) r w') (about : u.tripId = trip) :
    channel = .assignment ∧ u = ⟨trip, .cancelled, none, none⟩ ∧
      ∃ t, lastReport (traceOf later pid) = some (trip, .cancelled, t) := by
  obtain ⟨x, member, own, reports⟩ := h.announcing pid step.announcing_of_publish
  obtain ⟨id, status, t, last, listed, -, tells⟩ := step.conduct.announced
  have since : lastReport (traceOf later pid) = some (id, status, t) := by
    rw [h.since.trace, lastReport_append ⟨x.exchange, mem_traceOf.2 ⟨x, member, own, rfl⟩, reports⟩]
      at last
    exact last
  obtain ⟨_, member, written⟩ := mem_of_lastReport since
  obtain ⟨y, noted, -, rfl⟩ := mem_traceOf.1 member
  have known : y ∈ w.history := by rw [h.since.history]; exact List.mem_append_left _ noted
  obtain ⟨named, wrote⟩ := h.records.reported y known id status t written
  obtain rfl : id = trip := by rw [← named, ← tells.trip, about]
  obtain ⟨rfl, unbound⟩ := (h.sees y noted).written status t written
  refine ⟨by simpa [TripStatus.channels] using listed, ?_, t, since⟩
  rw [tells.eq_of_cancelled wrote, named]

theorem Aftermath.noted (h : Aftermath b trip later w) (traced : w.Traced calls)
    (traced' : w'.Traced calls) (holds : w.StoreHolds (.step pid v))
    (step : Noted calls w pid v e r w') (distinct : w'.IdsDistinct) :
    Aftermath b trip (⟨w.now, pid, e, r⟩ :: later) w' where
  since := h.since.noted traced step
  records := h.records.noted step distinct
  still := step.still_cancelled h.records h.still
  sees x member := by
    rcases List.mem_cons.1 member with rfl | old
    · exact step.sees_cancelled holds h.still
    · exact h.sees x old
  announcing q soon := by
    rcases step.announcing traced traced' soon with ⟨rfl, reports⟩ | before
    · exact ⟨_, List.mem_cons_self, rfl, reports⟩
    · obtain ⟨x, member, own, reports⟩ := h.announcing q before
      exact ⟨x, List.mem_cons_of_mem _ member, own, reports⟩
  messages newer x older channel u split publishes about := by
    cases newer with
    | nil =>
      cases split
      subst publishes
      exact h.told step about
    | cons y newer =>
      cases split
      exact h.messages newer x older channel u rfl publishes about

/-- Behind the cancellation itself. Nobody was announcing, or somebody would have been interrupted. -/
theorem aftermath_of_cancelled {t : Trip} (records : b.Records) (traced : b.Traced calls)
    (traced' : w.Traced calls) (alone : b.Uninterrupted (.step pid v)) (unbound : t.courierId = none)
    (step : Noted calls b pid v (.store (.setTripStatus trip .cancelled)) (.ok t) w)
    (distinct : w.IdsDistinct) :
    Aftermath b trip [⟨b.now, pid, .store (.setTripStatus trip .cancelled), .ok t⟩] w where
  since := (Since.refl b).noted traced step
  records := records.noted step distinct
  still := by
    obtain ⟨found, cancelled⟩ := Store.trip?_of_setTripStatus (step.written rfl)
    exact ⟨t, found, cancelled, unbound⟩
  sees x member := by
    cases List.mem_singleton.1 member
    refine ⟨fun status t' written => ?_, fun courier bound => ?_, fun r same => ?_,
      fun status err same => ?_⟩
    · cases written
      exact ⟨rfl, unbound⟩
    · cases bound
    · cases same
    · cases same
  announcing q soon := by
    rcases step.announcing traced traced' soon with ⟨rfl, reports⟩ | before
    · exact ⟨_, List.mem_cons_self, rfl, reports⟩
    · cases alone q pid v rfl before
      obtain ⟨task, p, job, found, at_, soon⟩ := before
      obtain ⟨task', p', start, next, found', at_', -⟩ := step.asked
      rw [found] at found'
      cases found'
      cases at_.same at_'
      cases soon with
      | later unreported => cases unreported
  messages newer x older channel u split publishes := by
    cases newer with
    | nil => cases split; cases publishes
    | cons y newer => simp at split

/-- A search that has more to do than to free its slot. -/
def Searching (w : World) (pid : Nat) (trip : Uuid) : Prop :=
  ∃ p e next, w.processes[pid]? = some ⟨.run trip, p⟩ ∧ p.At (.act e next) ∧
    ∀ o, e ≠ .finishRun trip o

/-- Since the cancellation a search has written nothing and bound nobody. -/
theorem Aftermath.untouched (h : Aftermath b trip later w) (traced : w.Traced calls)
    (run : (w.processes[q]?).map Process.task = some (.run trip)) :
    Search.Untouched (traceOf later q) := by
  obtain ⟨p, start, job, -, meets, path, -⟩ := traced.search run
  rw [h.since.trace] at path
  intro x member
  obtain ⟨newer, older, split⟩ := List.append_of_mem member
  rw [split, List.append_assoc, List.cons_append] at path
  have asks := meets.asked path
  obtain ⟨y, noted, -, rfl⟩ := mem_traceOf.1 member
  have sees := h.sees y noted
  refine ⟨Option.eq_none_iff_forall_ne_some.2 fun ⟨id, status, t⟩ written => ?_,
    Option.eq_none_iff_forall_ne_some.2 fun ⟨id, courier⟩ bound => ?_⟩
  · obtain ⟨rfl, allowed⟩ := asks.writes id status (Exchange.effect_of_written written)
    obtain ⟨rfl, -⟩ := sees.written status t written
    rcases allowed with other | other | ⟨other, -⟩ <;> cases other
  · obtain rfl := asks.binds id courier (Exchange.effect_of_bound bound)
    exact sees.unbound courier bound

theorem Aftermath.idle (h : Aftermath b trip later w) (traced : w.Traced calls)
    (run : (w.processes[q]?).map Process.task = some (.run trip)) :
    w.writes q = b.writes q ∧ w.binds q = b.binds q := by
  have untouched := h.untouched traced run
  constructor
  · rw [World.writes, h.since.trace, List.filterMap_append,
      List.filterMap_eq_nil_iff.2 fun x member => (untouched x member).1]
    rfl
  · rw [World.binds, h.since.trace, List.filterMap_append,
      List.filterMap_eq_nil_iff.2 fun x member => (untouched x member).2]
    rfl

/-- A search that has ended, and had not before the cancellation, has since freed its slot. What came
right before that, if anything, came since. -/
theorem Aftermath.freed (h : Aftermath b trip later w) {p : Progress} {rest : List Exchange}
    {result : Result} {o : MatchOutcome} (found : w.processes[q]? = some ⟨.run trip, p⟩)
    (ended : p.At (.done result)) (freed : w.trace q = ⟨.finishRun trip o, ()⟩ :: rest)
    (searching : b.trace q = [] ∨ b.Searching q trip) :
    ∃ since, traceOf later q = ⟨.finishRun trip o, ()⟩ :: since ∧ rest = since ++ b.trace q ∧
      ∀ x past, rest = x :: past → x ∈ since := by
  rw [h.since.trace] at freed
  have nothing (none_ : b.trace q = []) : ∃ since,
      traceOf later q = ⟨.finishRun trip o, ()⟩ :: since ∧ rest = since ++ b.trace q ∧
        ∀ x past, rest = x :: past → x ∈ since := by
    rw [none_, List.append_nil] at freed
    exact ⟨rest, freed, by simp [none_], fun x past split => by simp [split]⟩
  rcases searching with none_ | ⟨p₀, e, next, found₀, at_, unfinished⟩
  · exact nothing none_
  · rcases h.since.asked q _ e next found₀ at_ with none_ | ⟨y, noted, own, rfl⟩ | waits
    · exact nothing none_
    · have member : y.exchange ∈ traceOf later q := mem_traceOf.2 ⟨y, noted, own, rfl⟩
      cases shown : traceOf later q with
      | nil => rw [shown] at member; cases member
      | cons x since =>
        rw [shown] at member freed
        cases freed
        -- The reply that the search was waiting for is not that its slot was freed.
        have before : y.exchange ∈ since := by
          rcases List.mem_cons.1 member with same | before
          · exact absurd (congrArg Exchange.effect same) (unfinished o)
          · exact before
        refine ⟨since, rfl, rfl, fun x past split => ?_⟩
        cases since with
        | nil => cases before
        | cons z since => cases split; exact List.mem_cons_self
    · cases waits _ found _ ended

/-- A search that ends in the aftermath of a cancellation ends as cancelled, unless it had reported
before that nobody was found. -/
theorem Aftermath.outcome (h : Aftermath b trip later w) (traced : w.Traced calls)
    {o : MatchOutcome} (found : w.processes[q]? = some ⟨.run trip, .ended (.outcome o)⟩)
    (searching : b.trace q = [] ∨ b.Searching q trip) :
    o = .notFound ∧ (∃ t, (trip, .courierNotFound, t) ∈ b.writes q) ∨
      o = .cancelled ∧ ∀ t, (trip, .courierNotFound, t) ∉ b.writes q := by
  have run : (w.processes[q]?).map Process.task = some (.run trip) := by rw [found]; rfl
  have untouched := h.untouched traced run
  obtain ⟨p, start, job, found', meets, path, reached⟩ := traced.search run
  rw [found] at found'
  cases found'
  cases reached
  obtain ⟨rest, freed⟩ := meets.of_leads path
  obtain ⟨since, latest, split, recent⟩ := h.freed found rfl freed searching
  rw [freed] at path
  obtain ⟨next, before⟩ := path.before
  have asks := (meets.of_leads before).1
  obtain ⟨reason, hopeful⟩ := (asks.ends trip o rfl).2
  -- What a search was replied last was replied by a store in which the trip is cancelled.
  have sees {x : Exchange} {past : List Exchange} (head : rest = x :: past) :
      x.SeesCancelled trip := by
    have member : x ∈ traceOf later q := by
      rw [latest]
      exact List.mem_cons_of_mem _ (recent x past head)
    obtain ⟨y, noted, -, rfl⟩ := mem_traceOf.1 member
    exact h.sees y noted
  rcases reason.of_cancelled fun _ _ => sees with rfl | ⟨x, member, courier, bound⟩ |
    ⟨rfl, x, member, t, written⟩
  · refine .inr ⟨rfl, fun t written => ?_⟩
    obtain ⟨x, member, written⟩ := mem_writes.1 written
    rcases hopeful with other | hopeful
    · cases other
    · exact hopeful x (by rw [split]; exact List.mem_append_right _ member) t written
  · obtain ⟨y, noted, -, rfl⟩ := mem_traceOf.1 (freed ▸ List.mem_cons_of_mem _ member)
    obtain ⟨t, found, named⟩ := h.records.bound y noted trip courier bound
    obtain ⟨t', found', -, unbound⟩ := h.still
    rw [found] at found'
    cases found'
    rw [named] at unbound
    cases unbound
  · rw [split] at member
    rcases List.mem_append.1 member with late | early
    · rw [(untouched x (by rw [latest]; exact List.mem_cons_of_mem _ late)).1] at written
      cases written
    · exact .inl ⟨rfl, t, mem_writes.2 ⟨x, early, written⟩⟩

/-! ## For good -/

/-- What has become of a trip that was cancelled, given what was noted since. -/
structure ForGood (b : World) (trip : Uuid) (later : List Event) (w : World) : Prop where
  cancelled : ∃ t, w.store.trip? trip = some t ∧ t.status = .cancelled ∧ t.courierId = none
  unlinked : ∀ id c, w.store.courier? id = some c → c.tripId ≠ some trip
  /-- A message comes from a process whose last report was that the trip is cancelled. -/
  messages : ∀ newer x older channel u, later = newer ++ x :: older →
    x.effect = .publish channel u → u.tripId = trip →
    channel = .assignment ∧ u = ⟨trip, .cancelled, none, none⟩ ∧
      ∃ t, lastReport (traceOf older x.process) = some (trip, .cancelled, t)
  idle : ∀ q, (w.processes[q]?).map Process.task = some (.run trip) →
    w.writes q = b.writes q ∧ w.binds q = b.binds q
  outcome : ∀ q o, w.processes[q]? = some ⟨.run trip, .ended (.outcome o)⟩ →
    b.processes.length ≤ q ∨ b.Searching q trip →
    o = .notFound ∧ (∃ t, (trip, .courierNotFound, t) ∈ b.writes q) ∨
      o = .cancelled ∧ ∀ t, (trip, .courierNotFound, t) ∉ b.writes q

theorem Aftermath.for_good (h : Aftermath b trip later w) (before : b.Traced calls)
    (traced : w.Traced calls) : ForGood b trip later w where
  cancelled := h.still
  unlinked id c found bound := by
    obtain ⟨t, named, courier⟩ := h.records.linked id c trip found bound
    obtain ⟨t', found', -, unbound⟩ := h.still
    rw [named] at found'
    cases found'
    rw [courier] at unbound
    cases unbound
  messages := h.messages
  idle q run := h.idle traced run
  outcome q o found searching :=
    h.outcome traced found (searching.imp_left before.trace_eq_nil)

/-- A trip that is cancelled while it has no courier, in a step that interrupts nobody, is cancelled
for good, however a service goes on whose store does what it is asked. -/
theorem cancelled_for_good {t : Trip} {moves : List Move} (reach : b.Reachable fun _ _ => True)
    (alone : b.Uninterrupted (.step pid v))
    (accepted : (b.step pid v).writes pid = (trip, .cancelled, t) :: b.writes pid)
    (unbound : t.courierId = none) (holds : (b.step pid v).Obeys StoreHolds moves)
    (distinct : ((b.step pid v).run moves).IdsDistinct) :
    ∃ later, ((b.step pid v).run moves).history = later ++ b.history ∧
      ForGood b trip later ((b.step pid v).run moves) := by
  have enters (w : World) (m : Move) (_ : w.StoreHolds m) : w.Enters (fun _ => True) m :=
    enters_any
  have before : b.Traced (fun _ => True) := reach.traced fun _ _ _ => enters_any
  have behind : (b.step pid v).Traced (fun _ => True) :=
    before.move (.step pid v) fun _ _ => trivial
  have distinct' := behind.ids_of_run holds enters distinct
  obtain ⟨e, r, step, written⟩ := before.noted_of_writes accepted
  cases Exchange.written?_eq_some.1 written
  have records : b.Records := reach.records (before.ids_of_move (m := .step pid v) distinct')
  obtain ⟨later, aftermath⟩ := keeps_run (P := fun w => ∃ later, Aftermath b trip later w) enters
    (fun _ _ traced traced' same ⟨later, h⟩ => ⟨later, h.silent traced traced' same⟩)
    (fun _ _ _ _ _ _ traced traced' holds step distinct ⟨later, h⟩ =>
      ⟨_, h.noted traced traced' holds step distinct⟩)
    behind holds distinct
    ⟨_, aftermath_of_cancelled records before behind alone unbound step distinct'⟩
  exact ⟨later, aftermath.since.history, aftermath.for_good before (behind.run holds enters)⟩

open Trial in
/-- A trip is about to be cancelled by process 4 while process 3 searches. -/
def aboutToCancel : World :=
  start.run (stock ++ .enter request :: steps 2 9 ++ steps 3 4 ++
    [.enter (.reportTripStatus Trial.trip .cancelled)])

open Trial in
/-- The cancellation is told, and the search goes on. -/
def afterCancelling : List Move := steps 4 10 ++ .pass 1000 :: steps 3 10

theorem aboutToCancel_facts :
    ((aboutToCancel.step 4 .proceed).run afterCancelling).IdsDistinct ∧
    (∀ p < aboutToCancel.processes.length, p ≠ 4 → lastReport (aboutToCancel.trace p) = none) ∧
    (aboutToCancel.step 4 .proceed).writes 4 =
      ((aboutToCancel.step 4 .proceed).store.trip? Trial.trip).toList.map
        (Trial.trip, .cancelled, ·) ∧
    aboutToCancel.writes 4 = [] ∧
    ((aboutToCancel.step 4 .proceed).store.trip? Trial.trip).any (·.courierId = none) ∧
    (((aboutToCancel.step 4 .proceed).run afterCancelling).processes[3]?).any
      (· matches ⟨.run _, .ended (.outcome .cancelled)⟩) := by
  decide +kernel

theorem cancelled_for_good_while_searching :
    aboutToCancel.Reachable (fun _ _ => True) ∧ aboutToCancel.Uninterrupted (.step 4 .proceed) ∧
    (∃ t, (aboutToCancel.step 4 .proceed).writes 4 = (Trial.trip, .cancelled, t) ::
      aboutToCancel.writes 4 ∧ t.courierId = none) ∧
    (aboutToCancel.step 4 .proceed).Obeys StoreHolds afterCancelling ∧
    ((aboutToCancel.step 4 .proceed).run afterCancelling).IdsDistinct ∧
    (((aboutToCancel.step 4 .proceed).run afterCancelling).processes[3]?).any
      (· matches ⟨.run _, .ended (.outcome .cancelled)⟩) ∧
    ∃ later, ForGood aboutToCancel Trial.trip later
      ((aboutToCancel.step 4 .proceed).run afterCancelling) := by
  obtain ⟨distinct, unreported, written, before, unbound, ended⟩ := aboutToCancel_facts
  have reach : aboutToCancel.Reachable (fun _ _ => True) :=
    ⟨Trial.config, Trial.around, Trial.start, _, Trial.start_new,
      .of_mild (by decide) fun _ _ _ => trivial, rfl⟩
  have traced : aboutToCancel.Traced (fun _ => True) := reach.traced fun _ _ _ => enters_any
  have alone : aboutToCancel.Uninterrupted (.step 4 .proceed) := traced.uninterrupted unreported
  have holds : (aboutToCancel.step 4 .proceed).Obeys StoreHolds afterCancelling :=
    .of_mild (by decide) fun _ _ => storeHolds_of_mild
  obtain ⟨t, found, unbound⟩ := (Option.any_eq_true _ _).1 unbound
  have unbound := of_decide_eq_true unbound
  have accepted : (aboutToCancel.step 4 .proceed).writes 4 =
      (Trial.trip, .cancelled, t) :: aboutToCancel.writes 4 := by
    rw [written, before, found]
    rfl
  obtain ⟨later, -, for_good⟩ := cancelled_for_good reach alone accepted unbound holds distinct
  exact ⟨reach, alone, ⟨t, accepted, unbound⟩, holds, distinct, ended, later, for_good⟩

end World

end CourierDispatch
