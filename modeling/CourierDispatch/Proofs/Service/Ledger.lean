import CourierDispatch.Proofs.Conduct.Counting
import CourierDispatch.Proofs.FanOut
import Mathlib.Data.List.Perm.Basic

/-!
# Reports, counts and messages

A history is put together from the exchanges of the processes (`Traced.perm_traces`). So what holds of
the exchanges of each process can be added up: the reports that were accepted are those that were
counted and those whose processes have not got on yet (`Reachable.reports_perm`), and what they call for
was published or is still to be (`Reachable.messages_perm`). Processes may get in each other's way as
they like; only the order of messages depends on that.
-/

namespace CourierDispatch

/-! ## Messages and what they are about -/

/-- What a message is about, and where it goes. -/
def labelOf (m : Announcement) : Channel × Uuid × TripStatus := (m.1, m.2.tripId, m.2.status)

/-- The messages that a report of a status calls for, if the trip has a courier or not. -/
def TripStatus.labels (status : TripStatus) (trip : Uuid) (bound : Bool) :
    List (Channel × Uuid × TripStatus) :=
  if status = .cancelled ∧ bound then [] else status.channels.map (·, trip, status)

/-- The messages that an exchange calls for. -/
def Exchange.labels (x : Exchange) : List (Channel × Uuid × TripStatus) :=
  match x.written? with
  | some (trip, status, t) => status.labels trip t.courierId.isSome
  | none => []

theorem Trip.map_labelOf_calls (t : Trip) (status : TripStatus) (place : Option GeoPoint) :
    (t.calls status place).map labelOf =
      if status = .cancelled ∧ t.courierId.isSome then [] else status.channels.map (·, t.id, t.status) := by
  have about : ∀ channel, labelOf (channel, t.noticeAt place) = (channel, t.id, t.status) := by
    intro channel
    unfold labelOf noticeAt
    split <;> rfl
  unfold calls
  split
  · rfl
  · rw [List.map_map]
    exact List.map_congr_left fun channel _ => about channel

/-- A reading of a courier leaves what is to be told, but for the place. -/
theorem map_labelOf_read (place : Uuid → Option GeoPoint) (past : List Exchange) (id : Uuid)
    (r : Except DispatchError (Option Courier)) :
    (pending place (⟨.store (.getCourier id), r⟩ :: past)).map labelOf = (pending place past).map labelOf := by
  rcases pending_read place past id r with ⟨status, t, counted, -, read⟩ | ⟨-, same⟩
  · rw [read, pending_of_counted counted, Trip.map_labelOf_calls, Trip.map_labelOf_calls]
  · rw [same]

theorem Exchange.labels_of_unwritten {x : Exchange} (unwritten : x.written? = none) : x.labels = [] := by
  rw [labels, unwritten]

/-- On a path of a job that tells what it writes, what was called for was published or is pending. -/
theorem labels_perm {α : Type} {ask : List Exchange → Effect → Prop}
    {fin : List Exchange → Option α → Prop} {start job : Job α} {past : List Exchange}
    (speaks : ∀ past e, ask past e → Speaks past e) (meets : Job.Meets ask fin [] start)
    (path : start.Leads past job) (reported : ∀ x ∈ past, ∀ trip status t,
      x.written? = some (trip, status, t) → t.id = trip ∧ t.status = status) :
    ((past.filterMap Exchange.published? ++ pending (fun _ => none) past).map labelOf).Perm
      (past.flatMap Exchange.labels) := by
  induction path with
  | here => exact .nil
  | @next past e next before r _ ih =>
    have ih := ih fun x member => reported x (List.mem_cons_of_mem _ member)
    have asks := speaks past e (meets.of_leads before).1
    rw [List.flatMap_cons]
    by_cases apart : e.apart
    · obtain ⟨unpublished, unwritten, -⟩ := Exchange.idle_of_apart (x := ⟨e, r⟩) apart
      rw [pending_apart apart, List.filterMap_cons_none unpublished, Exchange.labels_of_unwritten unwritten]
      exact ih
    · cases e with
      | publish channel u =>
        obtain ⟨rest, waits⟩ := asks.first fun _ => none
        have behind : pending (fun _ => none) (⟨.publish channel u, r⟩ :: past) = rest :=
          congrArg List.tail waits
        have published : Exchange.published? ⟨.publish channel u, r⟩ = some (channel, u) := rfl
        rw [waits] at ih
        rw [behind, List.filterMap_cons_some published]
        exact (List.perm_middle.symm.map labelOf).trans ih
      | store op =>
        cases op with
        | setTripStatus trip status =>
          rw [(asks.said rfl).pending_eq_nil, List.append_nil] at ih
          rw [List.filterMap_cons_none rfl, List.map_append]
          cases r with
          | error err => exact (List.append_nil _).symm ▸ ih
          | ok t =>
            obtain ⟨named, written⟩ := reported _ List.mem_cons_self trip status t rfl
            have called : (pending (fun _ => none)
                (⟨.store (.setTripStatus trip status), .ok t⟩ :: past)).map labelOf =
                Exchange.labels ⟨.store (.setTripStatus trip status), .ok t⟩ := by
              rw [pending, Trip.map_labelOf_calls, named, written]
              rfl
            rw [called]
            exact (ih.append_right _).trans List.perm_append_comm
        | getCourier id =>
          rw [List.filterMap_cons_none rfl, List.map_append, map_labelOf_read, ← List.map_append]
          exact ih
        | _ => exact absurd rfl apart
      | _ => exact absurd rfl apart

/-! ## A history as the exchanges of its processes -/

theorem flatMap_cons_perm {α : Type} {x : α} {pid : Nat} (f : Nat → List α) {pids : List Nat}
    (once : pids.Nodup) (member : pid ∈ pids) :
    (pids.flatMap fun q => if pid = q then x :: f q else f q).Perm (x :: pids.flatMap f) := by
  induction pids with
  | nil => cases member
  | cons q pids ih =>
    obtain ⟨new, once⟩ := List.nodup_cons.1 once
    rw [List.flatMap_cons, List.flatMap_cons]
    by_cases own : pid = q
    · subst own
      have others : (pids.flatMap fun q => if pid = q then x :: f q else f q) = pids.flatMap f := by
        refine List.flatMap_congr fun q there => if_neg ?_
        rintro rfl
        exact new there
      rw [if_pos rfl, others]
      exact .refl _
    · rw [if_neg own]
      have there := (List.mem_cons.1 member).resolve_left own
      exact ((ih once there).append_left (f q)).trans List.perm_middle

theorem perm_traceOf {n : Nat} {history : List Event} (known : ∀ x ∈ history, x.process < n) :
    (history.map Event.exchange).Perm ((List.range n).flatMap (traceOf history)) := by
  induction history with
  | nil => simp
  | cons x history ih =>
    have before := ih fun y old => known y (List.mem_cons_of_mem x old)
    have same : traceOf (x :: history) = fun q =>
        if x.process = q then x.exchange :: traceOf history q else traceOf history q :=
      funext fun q => traceOf_cons x history q
    rw [same]
    exact (before.cons x.exchange).trans (flatMap_cons_perm (traceOf history) List.nodup_range
      (List.mem_range.2 (known x List.mem_cons_self))).symm

namespace World

variable {calls : Call → Prop} {w w' : World} {pid : Nat} {v : Verdict} {e : Effect} {r : e.Reply}

/-- What holds of the exchanges of each process, put together, holds of the history. -/
theorem Traced.perm_traces (h : w.Traced calls) {β : Type} (f : Exchange → List β) :
    (w.history.flatMap fun x => f x.exchange).Perm
      ((List.range w.processes.length).flatMap fun pid => (w.trace pid).flatMap f) := by
  have both := (perm_traceOf h.known).flatMap_right f
  rw [List.flatMap_map, List.flatMap_assoc] at both
  exact both

/-! ## Reports and counts -/

/-- The reports that were accepted, the latest first. -/
def reports (w : World) : List (Uuid × TripStatus) := w.history.filterMap (·.exchange.report?)

/-- The reports that were counted, process by process. -/
def counted (w : World) : List (Uuid × TripStatus) :=
  (List.range w.processes.length).flatMap fun pid => countedIn (w.trace pid)

/-- The reports that are about to be counted. -/
def uncounted (w : World) : List (Uuid × TripStatus) :=
  (List.range w.processes.length).flatMap fun pid => (reportedLast (w.trace pid)).toList

theorem Traced.writesIn (h : w.Traced calls) (pid : Nat) :
    (w.trace pid).filterMap Exchange.report? =
      (reportedLast (w.trace pid)).toList ++ countedIn (w.trace pid) := by
  by_cases there : pid < w.processes.length
  · obtain ⟨start, job, origin, path, -⟩ := h.path pid _ (List.getElem?_eq_getElem there)
    exact writesIn_eq origin.tallies path
  · rw [h.trace_eq_nil (by omega)]
    rfl

/-- Each report that was accepted was counted or is about to be, and nothing else was. -/
theorem Traced.reports_perm (h : w.Traced calls) : w.reports.Perm (w.uncounted ++ w.counted) := by
  have all := h.perm_traces fun x => x.report?.toList
  simp only [← List.filterMap_eq_flatMap_toList, h.writesIn] at all
  exact all.trans (List.flatMap_append_perm ..).symm

/-! ## The counter -/

theorem transitions_of_respond (h : w.respond e = some (r, w')) :
    w'.metrics.transitions = match e.counts? with
      | some status => w.metrics.transitions.bump status.text
      | none => w.metrics.transitions := by
  cases e with
  | store op =>
    simp only [respond] at h
    split at h <;> cases h <;> rfl
  | cacheSet key route ttl =>
    simp only [respond, Option.map_eq_some_iff] at h
    obtain ⟨c, -, h⟩ := h
    cases h
    rfl
  | computeRoute a b =>
    simp only [respond] at h
    split at h <;> cases h <;> rfl
  | startRun trip pickup =>
    simp only [respond] at h
    split at h <;> cases h <;> rfl
  | cacheGet | race | drawId | placeDetails | autocomplete | publish | subscribe | countTransition
  | countLookup | sleep | waitUntil | setTimers | stamp | startFare | finishRun | census | exposition =>
    cases h
    rfl

theorem transitions_of_answer (h : w.answer pid v e = some (r, w')) :
    w'.metrics.transitions = match e.counts? with
      | some status => w.metrics.transitions.bump status.text
      | none => w.metrics.transitions := by
  simp only [answer, Option.map_eq_some_iff, Prod.exists] at h
  obtain ⟨r₁, w₁, replied, h⟩ := h
  cases h
  split at replied
  · next dictated =>
    cases replied
    cases e <;> cases v <;> first | rfl | cases dictated
  · have told := transitions_of_respond replied
    exact told

/-- The statuses that were counted, the latest first. -/
def countings (w : World) : List TripStatus := w.history.flatMap (·.effect.counts?.toList)

/-- The counter of a status says how often it was counted. -/
def Counted (w : World) : Prop :=
  ∀ status : TripStatus, w.metrics.transitions.count status.text = w.countings.count status

theorem Counted.move (h : w.Counted) (m : Move) : (w.move m).Counted := by
  cases m with
  | enter | pass => exact h
  | step q u =>
    have turn := turn_step w q u
    simp only [World.move]
    generalize w.step q u = behind at turn ⊢
    cases turn with
    | idle | turned => exact h
    | broke =>
      unfold breakDown
      split <;> exact h
    | @answered _ _ e next _ r w' _ _ replied =>
      obtain ⟨-, -, history⟩ := replied_of_answer replied
      have noted : (w'.setProgress q (.ready (next r))).countings =
          e.counts?.toList ++ w.countings := by
        change w'.history.flatMap _ = _
        rw [history]
        rfl
      intro status
      change w'.metrics.transitions.count status.text = _
      rw [transitions_of_answer replied, noted, List.count_append, ← h status]
      cases e.counts? with
      | none => simp
      | some status' =>
        have same : status'.text = status.text ↔ status' = status :=
          ⟨TripStatus.text_injective, congrArg _⟩
        simp [Tally.count_bump, same, List.count_singleton, Nat.add_comm]

theorem Traced.map_counted (h : w.Traced calls) :
    (w.counted.map Prod.snd).Perm w.countings := by
  have all : w.countings.Perm ((List.range w.processes.length).flatMap fun pid =>
      (w.trace pid).flatMap (·.effect.counts?.toList)) :=
    h.perm_traces fun x => x.effect.counts?.toList
  have each (pid : Nat) : (countedIn (w.trace pid)).map Prod.snd =
      (w.trace pid).filterMap (·.effect.counts?) := by
    by_cases there : pid < w.processes.length
    · obtain ⟨start, job, origin, path, -⟩ := h.path pid _ (List.getElem?_eq_getElem there)
      exact map_countedIn origin.tallies path
    · rw [h.trace_eq_nil (by omega)]
      rfl
  simp only [← List.filterMap_eq_flatMap_toList, ← each] at all
  rw [counted, List.map_flatMap]
  exact all.symm

/-- The counter of a status counts the reports that were counted. -/
theorem Reachable.transitions_count {rule : World → Move → Prop} (reach : w.Reachable rule)
    (status : TripStatus) : w.metrics.transitions.count status.text =
      w.counted.countP (·.2 = status) := by
  have counted : w.Counted := reach.rule_induction (P := Counted)
    (fun _ _ _ new => by obtain ⟨bus, rfl⟩ := eq_of_new? new; exact fun _ => rfl)
    fun _ m _ _ h => h.move m
  have traced : w.Traced fun _ => True := reach.traced fun _ _ _ => enters_any
  rw [counted status, ← traced.map_counted.count_eq, List.count, List.countP_map]
  rfl

/-! ## Messages -/

theorem messagesOf_perm (history : List Event) :
    (messagesOf history).Perm (history.flatMap (·.exchange.published?.toList)) := by
  induction history with
  | nil => exact .nil
  | cons x history ih => exact List.perm_append_comm.trans (ih.append_left _)

/-- The messages that are still to be published. -/
def untold (w : World) : List Announcement :=
  (List.range w.processes.length).flatMap fun pid => pending (fun _ => none) (w.trace pid)

/-- What the reports call for that were accepted was published, or is still to be, and nothing else
was. -/
theorem Traced.messages_perm (h : w.Traced calls) (recorded : w.Recorded) :
    ((w.messages ++ w.untold).map labelOf).Perm (w.history.flatMap (·.exchange.labels)) := by
  have published : w.messages.Perm ((List.range w.processes.length).flatMap fun pid =>
      (w.trace pid).filterMap Exchange.published?) := by
    have all := (messagesOf_perm w.history).trans (h.perm_traces fun x => x.published?.toList)
    simp only [← List.filterMap_eq_flatMap_toList] at all
    exact all
  have each : ∀ pid ∈ List.range w.processes.length,
      (((w.trace pid).filterMap Exchange.published? ++ pending (fun _ => none) (w.trace pid)).map
        labelOf).Perm ((w.trace pid).flatMap Exchange.labels) := by
    intro pid there
    obtain ⟨start, job, origin, path, -⟩ :=
      h.path pid _ (List.getElem?_eq_getElem (List.mem_range.1 there))
    refine labels_perm (fun _ _ conduct => conduct.speaks) origin.meets path fun x member => ?_
    obtain ⟨y, noted, -, rfl⟩ := mem_traceOf.1 member
    exact recorded.reported y noted
  calc (w.messages ++ w.untold).map labelOf
    _ |>.Perm (((List.range w.processes.length).flatMap fun pid =>
        (w.trace pid).filterMap Exchange.published? ++ pending (fun _ => none) (w.trace pid)).map
          labelOf) :=
      ((published.append_right _).trans (List.flatMap_append_perm ..)).map labelOf
    _ |>.Perm ((List.range w.processes.length).flatMap fun pid =>
        (w.trace pid).flatMap Exchange.labels) := by
      rw [List.map_flatMap]
      exact .flatMap_left _ each
    _ |>.Perm _ := (h.perm_traces Exchange.labels).symm

end World

end CourierDispatch
