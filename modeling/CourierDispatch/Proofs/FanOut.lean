import CourierDispatch.Proofs.Service.Announcing
import CourierDispatch.Proofs.Service.Records
import CourierDispatch.Proofs.Service.Trial

/-!
# Messages are the fan-out of what was written

Each status that was accepted calls for messages (`fanOut`): none, one, or one on each channel. While
nobody gets on as long as another process announces, the messages of a service are those of its accepted
reports, one report after the other, and nothing else is published (`messages_fan_out`). A refused report
calls for nothing, and what becomes of a message makes no difference.

A message on the way says where the courier is when the status is written (`Store.replay`), if its
record can be read (`located`): behind such a report with a courier the process counts the status and
then reads the courier (`Traced.asks_where`), and the reply to that reading decides.
-/

namespace CourierDispatch

/-! ## What a status calls for -/

/-- The messages about a status of a trip with a courier, if it has one, who is at a place, if it is
known. -/
def fanOut (trip : Uuid) (status : TripStatus) (courier : Option Uuid) (place : Option GeoPoint) :
    List Announcement :=
  match status with
  | .created | .courierSearching | .courierFound => []
  | .courierAssigned =>
    [(.tripUpdates, ⟨trip, status, courier, none⟩), (.assignment, ⟨trip, status, courier, none⟩)]
  | .courierArriving | .courierEnRoute => [(.tripUpdates, ⟨trip, status, none, place⟩)]
  | .complete | .courierNotFound => [(.tripUpdates, ⟨trip, status, none, none⟩)]
  | .cancelled => if courier.isSome then [] else [(.assignment, ⟨trip, status, none, none⟩)]

theorem fanOut_place {status : TripStatus} (still : status.onTheWay = false) (trip : Uuid)
    (courier : Option Uuid) (p q : Option GeoPoint) :
    fanOut trip status courier p = fanOut trip status courier q := by
  cases status <;> first | rfl | cases still

/-- A trip calls for the messages about the status that was written to it. -/
theorem Trip.calls_eq_fanOut {t : Trip} {trip : Uuid} {status : TripStatus} (named : t.id = trip)
    (written : t.status = status) (place : Option GeoPoint) :
    t.calls status place = fanOut trip status t.courierId place := by
  subst named written
  unfold calls noticeAt fanOut
  cases t.status <;> simp [TripStatus.channels]

/-! ## What the reports of a history call for -/

namespace Exchange

def counts : Exchange → Bool
  | ⟨.countTransition _, _⟩ => true
  | _ => false

theorem written?_of_counts {x : Exchange} (counts : x.counts) : x.written? = none := by
  unfold Exchange.counts at counts
  split at counts
  · rfl
  · cases counts

theorem accepted?_of_counts {x : Exchange} (counts : x.counts) : x.accepted? = none := by
  unfold Exchange.counts at counts
  split at counts
  · rfl
  · cases counts

/-- A courier was asked for, and its record was found. -/
def finds (courier : Uuid) : Exchange → Bool
  | ⟨.store (.getCourier id), .ok (some _)⟩ => id = courier
  | _ => false

theorem finds_other {courier id : Uuid} (other : courier ≠ id)
    {r : (Effect.store (.getCourier id)).Reply} :
    finds courier ⟨.store (.getCourier id), r⟩ = false := by
  rcases r with err | _ | c
  · rfl
  · rfl
  · exact decide_eq_false (Ne.symm other)

/-- The message that was to be published. -/
def published? : Exchange → Option Announcement
  | ⟨.publish channel u, _⟩ => some (channel, u)
  | _ => none

end Exchange

/-- The courier can be read: the reading behind the count of a report finds its record. -/
def located (courier : Uuid) : List Exchange → Bool
  | x :: y :: _ => x.counts && y.finds courier
  | _ => false

/-- The first two questions of a process among some events, the latest event first. -/
def firstAsked (later : List Event) (pid : Nat) : List Effect :=
  ((traceOf later pid).reverse.take 2).map Exchange.effect

/-- The messages that an event calls for, given the store behind it and the events that follow it. -/
def fanOutOf (s : Store) (x : Event) (later : List Event) : List Announcement :=
  match x.exchange.written? with
  | some (trip, status, t) => fanOut trip status t.courierId <| t.courierId.bind fun c =>
      if located c (traceOf later x.process) then (s.courier? c).bind Courier.location else none
  | none => []

/-- The messages that a history calls for, in order, if some events follow it. -/
def fanOutsOf (around : Surroundings) : List Event → List Event → List Announcement
  | _, [] => []
  | later, x :: earlier =>
    fanOutsOf around (x :: later) earlier ++ fanOutOf (.replay around (x :: earlier)) x later

/-- An effect that has no part in what is pending has none in what is told. -/
theorem Exchange.idle_of_apart {x : Exchange} (apart : x.effect.apart) :
    x.published? = none ∧ x.written? = none ∧ ∀ c, x.finds c = false := by
  obtain ⟨e, r⟩ := x
  cases e with
  | publish => cases apart
  | store op => cases op <;> first | exact ⟨rfl, rfl, fun _ => rfl⟩ | cases apart
  | _ => exact ⟨rfl, rfl, fun _ => rfl⟩

/-- The messages of a history, in order. -/
def messagesOf : List Event → List Announcement
  | [] => []
  | x :: earlier => messagesOf earlier ++ x.exchange.published?.toList

namespace World

/-- What was to be published, in order. -/
def messages (w : World) : List Announcement := messagesOf w.history

/-- What the reports that were accepted call for, in order. -/
def fanOuts (w : World) : List Announcement := fanOutsOf w.around [] w.history

end World

/-! ## One more event -/

section

variable {around : Surroundings} {history later : List Event} {x y : Event} {pid : Nat}
  {status : TripStatus} {t : Trip}

theorem fanOutOf_of_unwritten (unwritten : x.exchange.written? = none) (s : Store) :
    fanOutOf s x later = [] := by
  rw [fanOutOf, unwritten]

theorem fanOutOf_of_written {trip : Uuid} (written : x.exchange.written? = some (trip, status, t))
    (s : Store) : fanOutOf s x later = fanOut trip status t.courierId (t.courierId.bind fun c =>
      if located c (traceOf later x.process) then (s.courier? c).bind Courier.location else none) := by
  rw [fanOutOf, written]

theorem located_snoc {courier : Uuid} {past : List Exchange} {last : Exchange}
    (lost : ∀ first, past = [first] → first.counts → last.finds courier = false) :
    located courier (past ++ [last]) = located courier past := by
  match past with
  | [] => rfl
  | [first] =>
    cases counts : first.counts with
    | false => simp [located, counts]
    | true => simp [located, lost first rfl counts]
  | _ :: _ :: _ => rfl

/-- An event that does not tell where the courier of a report is leaves what the report calls for. -/
theorem fanOutOf_snoc {s : Store} (lost : ∀ trip status t c first,
      x.exchange.written? = some (trip, status, t) → status.onTheWay → t.courierId = some c →
      y.process = x.process → traceOf later x.process = [first] → first.counts →
      y.exchange.finds c = false) :
    fanOutOf s x (later ++ [y]) = fanOutOf s x later := by
  cases written : x.exchange.written? with
  | none => rw [fanOutOf_of_unwritten written, fanOutOf_of_unwritten written]
  | some report =>
    obtain ⟨trip, status, t⟩ := report
    rw [fanOutOf_of_written written, fanOutOf_of_written written]
    cases courier : t.courierId with
    | none => rfl
    | some c =>
      cases way : status.onTheWay with
      | false => exact fanOut_place way ..
      | true =>
        have same : located c (traceOf (later ++ [y]) x.process) =
            located c (traceOf later x.process) := by
          rw [traceOf_append, traceOf_cons, traceOf_nil]
          split
          · next own =>
            exact located_snoc fun first one => lost trip status t c first written way courier own one
          · rw [List.append_nil]
        rw [Option.bind_some, Option.bind_some, same]

/-- If an event leaves what each report calls for, it leaves what all of them call for. -/
theorem fanOutsOf_snoc (later : List Event) (same : ∀ newer x older, history = newer ++ x :: older → ∀ s,
      fanOutOf s x (newer.reverse ++ later ++ [y]) = fanOutOf s x (newer.reverse ++ later)) :
    fanOutsOf around (later ++ [y]) history = fanOutsOf around later history := by
  induction history generalizing later with
  | nil => rfl
  | cons x earlier ih =>
    have before : fanOutsOf around (x :: later ++ [y]) earlier =
        fanOutsOf around (x :: later) earlier :=
      ih (x :: later) fun newer x' older split s => by
        simpa using same (x :: newer) x' older (by rw [split]; rfl) s
    have here := same [] x earlier rfl (.replay around (x :: earlier))
    simp only [List.reverse_nil, List.nil_append] at here
    simp only [fanOutsOf, here]
    rw [← before]
    rfl

theorem traceOf_reverse (history : List Event) (pid : Nat) :
    traceOf history.reverse pid = (traceOf history pid).reverse := by
  simp [traceOf]

theorem counted?_of_counts {first second : Exchange} (counts : first.counts) (past : List Exchange) :
    counted? (first :: second :: past) = second.written?.map Prod.snd := by
  unfold Exchange.counts at counts
  split at counts
  · rfl
  · cases counts

/-- An event that does not tell where the courier of the report counted just now is. -/
theorem fanOutsOf_of_lost (lost : ∀ status t c,
      counted? (traceOf history y.process) = some (status, t) → status.onTheWay →
      t.courierId = some c → y.exchange.finds c = false) :
    fanOutsOf around [y] history = fanOutsOf around [] history := by
  refine fanOutsOf_snoc [] fun newer x older split s => fanOutOf_snoc ?_
  intro trip status t c first written way courier own one counts
  rw [List.append_nil, traceOf_reverse, List.reverse_eq_iff, List.reverse_singleton] at one
  refine lost status t c ?_ way courier
  rw [split, traceOf_append, traceOf_cons, if_pos own.symm, own, one]
  exact (counted?_of_counts counts _).trans (by rw [written]; rfl)

/-- What a process does behind its next report and another event leaves what was called for before. -/
theorem fanOutsOf_of_late {report count : Event} (own' : report.process = count.process)
    (own : y.process = count.process) :
    fanOutsOf around [report, count, y] history = fanOutsOf around [report, count] history := by
  refine fanOutsOf_snoc [report, count] fun newer x older _ s => fanOutOf_snoc ?_
  intro _ _ _ _ first _ _ _ reader one _
  have two := congrArg List.length one
  rw [traceOf_append, ← reader, traceOf_cons, traceOf_cons, if_pos (own'.trans own.symm),
    if_pos own.symm] at two
  simp at two

end

/-! ## One process after the other -/

/-- Whoever got on, the others had nothing to tell. -/
def Orderly : List Event → Prop
  | [] => True
  | x :: earlier => (∀ p, p ≠ x.process → Said (traceOf earlier p)) ∧ Orderly earlier

section

variable {history : List Event} {pid : Nat} {status : TripStatus} {t : Trip}

/-- The last event is one of the process that has something to tell. -/
theorem Orderly.last (orderly : Orderly history) (unsaid : ¬ Said (traceOf history pid)) :
    ∃ y earlier, history = y :: earlier ∧ y.process = pid ∧ Orderly earlier := by
  cases history with
  | nil => exact absurd said_nil unsaid
  | cons y earlier =>
    refine ⟨y, earlier, rfl, Decidable.not_not.1 fun other => ?_, orderly.2⟩
    rw [traceOf_cons, if_neg other] at unsaid
    exact unsaid (orderly.1 pid (Ne.symm other))

theorem exists_of_counted {past : List Exchange} (counted : counted? past = some (status, t)) :
    ∃ first second rest trip, past = first :: second :: rest ∧ first.counts ∧
      second.written? = some (trip, status, t) := by
  unfold counted? at counted
  split at counted
  · obtain ⟨⟨trip, status, t⟩, written, same⟩ := Option.map_eq_some_iff.1 counted
    cases same
    exact ⟨_, _, _, trip, rfl, rfl, written⟩
  · cases counted

/-- A report that was counted just now, and calls for something, and its count are the last events. -/
theorem Orderly.counted (orderly : Orderly history) (unsaid : ¬ Said (traceOf history pid))
    (counted : counted? (traceOf history pid) = some (status, t)) :
    ∃ count report earlier trip, history = count :: report :: earlier ∧ count.process = pid ∧
      report.process = pid ∧ count.exchange.counts ∧
      report.exchange.written? = some (trip, status, t) := by
  obtain ⟨count, earlier, rfl, own, orderly⟩ := orderly.last unsaid
  obtain ⟨first, second, rest, trip, split, counts, written⟩ := exists_of_counted counted
  rw [traceOf_cons, if_pos own] at split unsaid
  obtain ⟨rfl, behind⟩ := List.cons.inj split
  have before : ¬ Said (traceOf earlier pid) := fun said =>
    unsaid (said.next (Exchange.written?_of_counts counts))
  obtain ⟨report, earlier, rfl, own', -⟩ := orderly.last before
  rw [traceOf_cons, if_pos own'] at behind
  obtain ⟨rfl, -⟩ := List.cons.inj behind
  exact ⟨count, report, earlier, trip, rfl, own, own', counts, written⟩

end

/-! ## Every message in its turn -/

namespace World

variable {calls : Call → Prop} {w w' : World} {pid : Nat} {v : Verdict} {e : Effect} {r : e.Reply}

/-- A courier that is found is where it is recorded to be. -/
theorem Noted.placeOf_eq {id : Uuid} {r : (Effect.store (.getCourier id)).Reply}
    (step : Noted calls w pid v (.store (.getCourier id)) r w') :
    placeOf r = if Exchange.finds id ⟨.store (.getCourier id), r⟩ then
      (w.store.courier? id).bind Courier.location else none := by
  rcases r with err | _ | c
  · rfl
  · rfl
  · obtain ⟨known, -⟩ := Store.unchanged_ok.1 (step.told (by simp [Effect.nothing]))
    simp [Exchange.finds, placeOf, known]

theorem Noted.messages (step : Noted calls w pid v e r w') :
    w'.messages = w.messages ++ (Exchange.published? ⟨e, r⟩).toList := by
  rw [World.messages, step.history]
  rfl

/-- A step that does not tell where the courier of its report is adds what it calls for itself. -/
theorem Noted.fanOuts (step : Noted calls w pid v e r w') (lost : ∀ status t c,
      counted? (w.trace pid) = some (status, t) → status.onTheWay → t.courierId = some c →
      Exchange.finds c ⟨e, r⟩ = false) :
    w'.fanOuts = w.fanOuts ++ match Exchange.written? ⟨e, r⟩ with
      | some (trip, status, t) => fanOut trip status t.courierId none
      | none => [] := by
  obtain ⟨used, -, reply⟩ := step.replied
  rw [World.fanOuts, step.history, reply.around, fanOutsOf,
    fanOutsOf_of_lost (y := ⟨w.now, pid, e, r⟩) lost, World.fanOuts, fanOutOf]
  simp only [Event.exchange, traceOf_nil, located, Bool.false_eq_true, if_false]
  split
  · next t _ => cases t.courierId <;> rfl
  · rfl

/-- A reading right behind the count of a report tells where the courier is. -/
theorem Noted.even_of_located {id : Uuid} {r : (Effect.store (.getCourier id)).Reply}
    (step : Noted calls w pid v (.store (.getCourier id)) r w') (orderly : Orderly w.history)
    (h : w.Recorded)
    (even : w.messages ++ pending (fun _ => none) (w.trace pid) = w.fanOuts)
    {status : TripStatus} {t : Trip} (counted : counted? (w.trace pid) = some (status, t))
    (courier : t.courierId = some id) (way : status.onTheWay) :
    w'.messages ++ t.calls status (placeOf r) = w'.fanOuts := by
  have unsaid : ¬ Said (w.trace pid) := by
    rw [Said, pending_of_counted counted]
    exact t.calls_ne_nil way _
  obtain ⟨count, report, earlier, trip, split, own, own', counts, written⟩ :=
    orderly.counted unsaid counted
  obtain ⟨named, status_⟩ := h.reported report (by rw [split]; simp) trip status t written
  -- Nobody has got on since the report, so the courier is where it was then.
  have records : w.store = .replay w.around (report :: earlier) := by
    rw [h.stored, split, Store.replay, Exchange.accepted?_of_counts counts]
  have called (later : List Event) : fanOutsOf w.around later w.history =
      fanOutsOf w.around (report :: count :: later) earlier ++
        fanOut trip status t.courierId (if located id (count.exchange :: traceOf later pid) then
          (w.store.courier? id).bind Courier.location else none) := by
    rw [split, fanOutsOf, fanOutOf_of_unwritten (Exchange.written?_of_counts counts), fanOutsOf,
      fanOutOf_of_written written, ← records, courier, List.append_nil, own', traceOf_cons,
      if_pos own]
    rfl
  have told : w.messages = fanOutsOf w.around [report, count] earlier := by
    rw [pending_of_counted counted, t.calls_eq_fanOut named status_, World.fanOuts, called,
      courier] at even
    exact List.append_cancel_right even
  obtain ⟨used, -, reply⟩ := step.replied
  have silent : w'.messages = w.messages := step.messages.trans (List.append_nil _)
  rw [silent, told, t.calls_eq_fanOut named status_, World.fanOuts, step.history, reply.around,
    fanOutsOf, called, fanOutsOf_of_late (own'.trans own.symm) own.symm,
    fanOutOf_of_unwritten rfl, List.append_nil, traceOf_cons, if_pos rfl, traceOf_nil, located,
    counts, Bool.true_and, step.placeOf_eq]
  rfl

theorem Recorded.status_of_counted (h : w.Recorded) {status : TripStatus} {t : Trip}
    (counted : counted? (w.trace pid) = some (status, t)) : t.status = status := by
  obtain ⟨first, second, rest, trip, split, -, written⟩ := exists_of_counted counted
  obtain ⟨x, noted, -, rfl⟩ := mem_traceOf.1 (show second ∈ w.trace pid by rw [split]; simp)
  exact (h.reported x noted trip status t written).2

theorem Noted.even_of_read {id : Uuid} {r : (Effect.store (.getCourier id)).Reply}
    (step : Noted calls w pid v (.store (.getCourier id)) r w') (orderly : Orderly w.history)
    (h : w.Recorded) (even : w.messages ++ pending (fun _ => none) (w.trace pid) = w.fanOuts) :
    w'.messages ++ pending (fun _ => none) (⟨.store (.getCourier id), r⟩ :: w.trace pid) =
      w'.fanOuts := by
  have silent : w'.messages = w.messages := step.messages.trans (List.append_nil _)
  rcases pending_read (fun _ => none) (w.trace pid) id r with
    ⟨status, t, counted, courier, read⟩ | ⟨other, same⟩
  · rw [read]
    cases way : status.onTheWay with
    | true => exact step.even_of_located orderly h even counted courier way
    | false =>
      have status_ := h.status_of_counted counted
      have called : w'.fanOuts = w.fanOuts := by
        refine (step.fanOuts fun _ _ _ counted' way' _ => ?_).trans (List.append_nil _)
        rw [counted] at counted'
        cases counted'
        rw [way] at way'
        cases way'
      rw [silent, called, ← even, pending_of_counted counted,
        Trip.calls_place (status_ ▸ way) status (placeOf r)]
  · have called : w'.fanOuts = w.fanOuts := by
      refine (step.fanOuts fun status t c counted _ courier => ?_).trans (List.append_nil _)
      exact Exchange.finds_other fun own => other status t counted (courier.trans (by rw [own]))
    rw [same, silent, called, even]

/-- A step of a process keeps the messages and what it has still to tell level with what is called
for. -/
theorem Noted.even (step : Noted calls w pid v e r w') (orderly : Orderly w.history)
    (h : w.Recorded)
    (even : w.messages ++ pending (fun _ => none) (w.trace pid) = w.fanOuts) :
    w'.messages ++ pending (fun _ => none) (w'.trace pid) = w'.fanOuts := by
  have speaks := step.conduct.speaks
  rw [trace_noted step, if_pos rfl]
  by_cases apart : e.apart
  · obtain ⟨unpublished, unwritten, lost⟩ := Exchange.idle_of_apart (x := ⟨e, r⟩) apart
    rw [pending_apart apart, step.messages, unpublished, step.fanOuts fun _ _ c _ _ _ => lost c,
      unwritten, ← even]
    simp
  · cases e with
    | publish channel u =>
      obtain ⟨rest, waits⟩ := speaks.first fun _ => none
      rw [step.messages, step.fanOuts fun _ _ _ _ _ _ => rfl, ← even, pending, waits]
      simp [Exchange.published?, Exchange.written?]
    | store op =>
      cases op with
      | setTripStatus trip status =>
        have quiet : w.messages = w.fanOuts := by
          rw [(speaks.said rfl).pending_eq_nil, List.append_nil] at even
          exact even
        rw [step.messages, quiet, step.fanOuts fun _ _ _ _ _ _ => rfl]
        cases r with
        | error err => simp [Exchange.published?, Exchange.written?, pending]
        | ok t =>
          obtain ⟨named, status_⟩ := step.reported h rfl
          have nowhere : (t.courierId.bind fun _ => (none : Option GeoPoint)) = none := by simp
          rw [pending, t.calls_eq_fanOut named status_, nowhere]
          simp [Exchange.published?, Exchange.written?]
      | getCourier id => exact step.even_of_read orderly h even
      | _ => exact absurd rfl apart
    | _ => exact absurd rfl apart

/-- The processes have told what they wrote, one after the other. -/
structure Level (w : World) : Prop extends w.Recorded where
  orderly : Orderly w.history
  /-- The messages are what is called for, but for what one process has still to tell. -/
  even : ∃ pid, (∀ p, p ≠ pid → Said (w.trace p)) ∧
    w.messages ++ pending (fun _ => none) (w.trace pid) = w.fanOuts

theorem level_new {config : Config} {around : Surroundings}
    (h : World.new? config around = some w) : w.Level := by
  have recorded := recorded_new h
  obtain ⟨bus, rfl⟩ := eq_of_new? h
  exact ⟨recorded, trivial, 0, fun _ _ => said_nil, rfl⟩

theorem Level.silent (h : w.Level) (same : Silent w w') : w'.Level := by
  have recorded := h.toRecorded.silent same
  obtain ⟨-, around, -, history, -, -⟩ := same
  refine ⟨recorded, ?_, ?_⟩ <;> simp only [messages, fanOuts, trace, history, around]
  · exact h.orderly
  · exact h.even

theorem Level.noted (h : w.Level) (step : Noted calls w pid v e r w')
    (others : ∀ p, p ≠ pid → Said (w.trace p)) : w'.Level where
  toRecorded := h.toRecorded.noted step
  orderly := by
    rw [step.history]
    exact ⟨others, h.orderly⟩
  even := by
    obtain ⟨p, quiet, even⟩ := h.even
    have even : w.messages ++ pending (fun _ => none) (w.trace pid) = w.fanOuts := by
      by_cases own : p = pid
      · rw [← own, even]
      · rw [(quiet pid (Ne.symm own)).pending_eq_nil, ← even, (others p own).pending_eq_nil]
    refine ⟨pid, fun q other => ?_, step.even h.orderly h.toRecorded even⟩
    rw [trace_noted step, if_neg (Ne.symm other)]
    exact others q other

/-- The first questions of a process behind its accepted report of a courier on the way are the count and
the reading of that courier; when it does not announce any more it has asked both. -/
theorem Traced.asks_where (h : w.Traced calls) (recorded : w.Recorded) {later earlier : List Event}
    {x : Event} {trip courier : Uuid} {status : TripStatus} {t : Trip}
    (split : w.history = later ++ x :: earlier)
    (written : x.exchange.written? = some (trip, status, t)) (way : status.onTheWay)
    (bound : t.courierId = some courier) :
    firstAsked later x.process <+: [.countTransition status, .store (.getCourier courier)] ∧
      (¬ w.Announcing x.process →
        firstAsked later x.process = [.countTransition status, .store (.getCourier courier)]) := by
  have named : t.status = status := (recorded.reported x (by rw [split]; simp) trip status t written).2
  have trace : w.trace x.process = (traceOf later x.process).reverse.reverse ++
      ⟨.store (.setTripStatus trip status), .ok t⟩ :: traceOf earlier x.process := by
    rw [List.reverse_reverse, ← Exchange.written?_eq_some.1 written, World.trace, split, traceOf_append,
      traceOf_cons, if_pos rfl]
  obtain ⟨begins, complete⟩ := asks_behind_report
    (fun _ _ _ split' => (h.conduct_along (trace.trans split')).speaks) way named bound
  rw [← trace] at complete
  exact ⟨begins, fun quiet => complete (Decidable.not_not.1 fun unsaid =>
    quiet (h.announcing_iff.2 unsaid))⟩

/-- While nobody gets on as long as another process announces, the messages are what the accepted
reports call for, one report after the other, as far as it is told yet; all of it is told when nobody
announces. Behind each report on the way with a courier that courier is read right after the count. -/
theorem messages_fan_out (reach : w.Reachable Uninterrupted) : w.messages <+: w.fanOuts ∧
    ((∀ pid, ¬ w.Announcing pid) → w.messages = w.fanOuts) ∧
    ∀ later x earlier trip status t courier, w.history = later ++ x :: earlier →
      x.exchange.written? = some (trip, status, t) → status.onTheWay → t.courierId = some courier →
      firstAsked later x.process <+: [.countTransition status, .store (.getCourier courier)] ∧
      (¬ w.Announcing x.process →
        firstAsked later x.process = [.countTransition status, .store (.getCourier courier)]) := by
  have traced : w.Traced (fun _ => True) := reach.traced fun _ _ _ => enters_any
  have level : w.Level := reach.always (fun _ _ _ => enters_any) (fun _ _ _ => level_new)
    (fun _ _ _ _ same h => h.silent same) fun _ _ _ _ _ _ traced _ alone step h =>
      h.noted step (traced.uninterrupted_iff.1 alone)
  obtain ⟨pid, -, even⟩ := level.even
  refine ⟨⟨_, even⟩, fun quiet => ?_, fun _ _ _ _ _ _ _ split written way bound =>
    traced.asks_where level.toRecorded split written way bound⟩
  have said : Said (w.trace pid) := Decidable.not_not.1 fun unsaid =>
    quiet pid (traced.announcing_iff.2 unsaid)
  rw [said.pending_eq_nil, List.append_nil] at even
  exact even

/-! ## A courier on the way -/

/-- While a process gets on, the others have nothing to tell. -/
def spared (w : World) : Move → Bool
  | .step q _ => (List.range w.processes.length).all fun p => p = q || Said (w.trace p)
  | _ => true

theorem uninterrupted_of_spared {m : Move} (traced : w.Traced calls) (spared : w.spared m) :
    w.Uninterrupted m := by
  cases m with
  | step q v =>
    exact traced.uninterrupted_of_said fun p there other => by
      simpa [other] using List.all_eq_true.1 spared p (List.mem_range.2 there)
  | enter | pass => rintro _ _ _ ⟨⟩

open Trial in
/-- A search, process 4, has assigned the courier, and process 6 has reported that it is on the way;
the message could not be published. -/
def toTheDepot : List Move :=
  stock ++ locateAtDepot 2 ++ .enter requestFromDepot :: steps 3 9 ++ steps 4 17 ++
    .enter (.reportTripStatus Trial.trip .courierArriving) :: steps 6 3 ++
    .step 6 (.refuse (.internal "no subscribers")) :: steps 6 3

def onTheWay : World := Trial.start.run toTheDepot

theorem messages_fan_out_on_the_way : onTheWay.Reachable Uninterrupted ∧
    (∀ pid, ¬ onTheWay.Announcing pid) ∧ onTheWay.messages = onTheWay.fanOuts ∧
    onTheWay.messages.map (fun m => (m.1, m.2.status, m.2.courierId, m.2.courierLocation.isSome)) =
      [(.tripUpdates, .courierAssigned, some Trial.courier, false),
        (.assignment, .courierAssigned, some Trial.courier, false),
        (.tripUpdates, .courierArriving, none, true)] ∧
    ∃ later x earlier trip status t, onTheWay.history = later ++ x :: earlier ∧
      x.exchange.written? = some (trip, status, t) ∧ status.onTheWay ∧
      t.courierId = some Trial.courier ∧
      firstAsked later x.process = [.countTransition status, .store (.getCourier Trial.courier)] := by
  have ⟨passes, said, told⟩ : Trial.start.passes spared toTheDepot = true ∧
      (∀ pid < onTheWay.processes.length, Said (onTheWay.trace pid)) ∧
      onTheWay.messages.map
          (fun m => (m.1, m.2.status, m.2.courierId, m.2.courierLocation.isSome)) =
        [(.tripUpdates, .courierAssigned, some Trial.courier, false),
          (.assignment, .courierAssigned, some Trial.courier, false),
          (.tripUpdates, .courierArriving, none, true)] := by
    decide +kernel
  have reach : onTheWay.Reachable Uninterrupted :=
    ⟨Trial.config, Trial.around, Trial.start, toTheDepot, Trial.start_new,
      .of_passes (traced_new Trial.start_new) passes fun _ _ => uninterrupted_of_spared, rfl⟩
  have traced : onTheWay.Traced (fun _ => True) := reach.traced fun _ _ _ => enters_any
  have quiet : ∀ pid, ¬ onTheWay.Announcing pid := by
    intro pid announcing
    refine traced.announcing_iff.1 announcing ?_
    by_cases there : pid < onTheWay.processes.length
    · exact said pid there
    · exact traced.said_of_new (by omega)
  obtain ⟨-, complete, asked⟩ := messages_fan_out reach
  refine ⟨reach, quiet, complete quiet, told, ?_⟩
  -- The only report on the way is that of the arriving courier.
  have reported : onTheWay.history.any fun x => x.exchange.written?.any fun r =>
      r.2.1.onTheWay && r.2.2.courierId = some Trial.courier := by decide +kernel
  obtain ⟨x, noted, reported⟩ := List.any_eq_true.1 reported
  obtain ⟨⟨trip, status, t⟩, written, reported⟩ := (Option.any_eq_true _ _).1 reported
  obtain ⟨way, bound⟩ := (Bool.and_eq_true_iff).1 reported
  obtain ⟨later, earlier, split⟩ := List.append_of_mem noted
  have bound := of_decide_eq_true bound
  exact ⟨later, x, earlier, trip, status, t, split, written, way, bound,
    (asked later x earlier trip status t _ split written way bound).2 (quiet x.process)⟩

end World

end CourierDispatch
