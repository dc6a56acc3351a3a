import CourierDispatch.Proofs.Job.Clock
import CourierDispatch.Proofs.Trip.Report
import CourierDispatch.Search

/-!
# The hours of a search

A search that nobody keeps waiting looks around when it starts and after each tick since then, as
long as the deadline has not passed (`Ticked`). What it does with somebody it has found costs two
settle delays at most (`costs_take`), so it is over by the deadline and two settle delays more
(`Hours`, `Close`). It gives up at the deadline, and by then it has looked around at every tick
before (`GivenUp`).

What carries the induction over the ticks is that a look which finds nobody takes no time: the
search waits for its next tick from the time of the last one. The rounds never run out before the
deadline, however many there are beyond that (`onTime_rounds`).
-/

namespace CourierDispatch.Search

open Job

/-- The search looks around. -/
def looks : Effect → Bool
  | .store (.nearestAvailableCourier ..) => true
  | _ => false

/-- What a search does with somebody it has found, or at the end. -/
def handles : Effect → Bool
  | .store (.nearestAvailableCourier ..) | .waitUntil _ | .race .. | .cacheSet .. => false
  | _ => true

/-- When a search has looked around, the latest time first. -/
def lookTimes (past : List Moment) : List Nat :=
  (past.filter (looks ·.exchange.effect)).map Moment.time

/-! ## What the parts cost -/

/-- A part of a search that neither looks around nor waits for a tick, and what it costs. -/
abbrev Costs {α : Type} (ends : α → Prop) (n span : Nat) (j : Job α) : Prop :=
  j.Spends (fun e => handles e) ends n span

variable {α : Type} {ends : α → Prop} {n span : Nat} {trip : Uuid} {settleDelay : Nat}

theorem costs_publishOn (u : TripUpdate) (channels : List Channel) :
    Costs (fun _ => True) channels.length 0 (Trip.publishOn u channels) := by
  induction channels with
  | nil => exact spends_done trivial
  | cons c rest ih => exact spends_act rfl rfl fun _ => ih

theorem costs_courierLocation (t : Trip) : Costs (fun _ => True) 1 0 (Trip.courierLocation t) := by
  unfold Trip.courierLocation
  split
  · exact spends_done trivial
  · refine spends_act rfl rfl fun r => ?_
    rcases r with err | _ | c <;> exact spends_done trivial

theorem costs_notice (t : Trip) : Costs (fun _ => True) 1 0 (Trip.notice t) := by
  have located : Costs (fun _ => True) 1 0
      (do return (⟨t.id, t.status, none, ← Trip.courierLocation t⟩ : TripUpdate)) :=
    (costs_courierLocation t).bind fun _ _ => show Costs _ 0 0 _ from spends_done trivial
  unfold Trip.notice
  split <;> first | exact located | exact spends_done trivial

theorem costs_announce (t : Trip) (status : TripStatus) :
    Costs (fun _ => True) 3 0 (Trip.announce t status) := by
  have channels : status.channels.length ≤ 2 := by cases status <;> decide
  unfold Trip.announce
  split
  · exact spends_done trivial
  · split
    · exact spends_done trivial
    · exact ((costs_notice t).bind fun u _ => costs_publishOn u _).mono (by omega) (by omega)

/-- Telling a status costs a settle delay. -/
theorem costs_tell (t : Trip) (status : TripStatus) :
    Costs (fun _ => True) 5 settleDelay (Trip.tell settleDelay t status) := by
  have pause : Costs (fun _ => True) 1 settleDelay (perform (.sleep settleDelay)) :=
    ⟨rfl, Nat.le_refl _, fun _ => spends_done trivial⟩
  refine spends_act rfl rfl fun _ => ?_
  exact ((costs_announce t status).bind fun _ _ => pause).mono (by omega) (by omega)

theorem costs_report {status : TripStatus} {f : Except DispatchError Trip → Job α}
    (then_ : ∀ r, Costs ends n span (f r)) :
    Costs ends (6 + n) (settleDelay + span)
      ((Trip.reportStatus settleDelay trip status).result >>= f) := by
  rw [Attempt.result, Trip.run_reportStatus, show 6 + n = 5 + n + 1 by omega]
  refine spends_act rfl rfl fun r => ?_
  cases r with
  | error err => exact (then_ (.error err)).mono (by omega) (by omega)
  | ok t =>
    change Costs ends _ _ ((Trip.tell settleDelay t status >>= fun _ => .done (.ok t)) >>= f)
    rw [bind_assoc]
    exact (costs_tell t status).bind fun _ _ => then_ (.ok t)

/-- Not that nobody was found. -/
def Otherwise (outcome : MatchOutcome) : Prop := outcome ≠ .notFound

theorem costs_tripGone {f : Option MatchOutcome → Job α}
    (gone : ∀ outcome, Otherwise outcome → Costs ends n span (f (some outcome)))
    (alive : Costs ends n span (f none)) : Costs ends (n + 1) span (tripGone trip >>= f) := by
  refine spends_act rfl rfl fun r => ?_
  rcases r with err | _ | t
  · exact gone .aborted nofun
  · exact gone .tripMissing nofun
  · change Costs ends n span (f (if t.status = .cancelled then some .cancelled else none))
    split
    · exact gone .cancelled nofun
    · exact alive

theorem costs_goneOr {outcome : MatchOutcome} (other : Otherwise outcome) :
    Costs Otherwise 1 span (goneOr trip outcome) :=
  costs_tripGone (fun _ other => spends_done other) (spends_done other)

theorem costs_confirm (courier : Uuid) :
    Costs Otherwise 7 settleDelay (confirm settleDelay trip courier) := by
  change Costs _ (6 + 1) (settleDelay + 0) _
  refine costs_report fun r => ?_
  cases r with
  | ok t => exact spends_done nofun
  | error err =>
    cases err with
    | tripClosed id old => exact spends_act rfl rfl fun _ => spends_done nofun
    | _ => exact spends_done nofun

theorem costs_bindFound (courier : Uuid) :
    Costs Otherwise 9 settleDelay (bindFound settleDelay trip courier) := by
  refine spends_act rfl rfl fun r => ?_
  cases r with
  | error err =>
    have other : Otherwise .assignmentFailed := nofun
    exact (costs_goneOr other).mono (by omega) (Nat.le_refl _)
  | ok done => exact spends_act rfl rfl fun _ => costs_confirm courier

/-- What is done with somebody who was found costs two settle delays. -/
theorem costs_take (courier : Uuid) :
    Costs Otherwise 16 (settleDelay + settleDelay) (take settleDelay trip courier) := by
  change Costs _ (6 + 10) _ _
  refine costs_report fun r => ?_
  cases r with
  | error err =>
    have other : Otherwise .aborted := nofun
    exact (costs_goneOr other).mono (by omega) (Nat.le_refl _)
  | ok t =>
    refine costs_tripGone (fun outcome other => ?_) (costs_bindFound courier)
    exact spends_done other

/-! ## What is kept -/

/-- A search that began at `start` has looked around `n` times: when it began, and at each tick
since then, up to the deadline. -/
structure Ticked (m : MatchingConfig) (start n : Nat) (past : List Moment) : Prop where
  times : lookTimes past = ((List.range n).map (start + · * m.tick)).reverse
  early : ∀ k < n, k * m.tick ≤ m.deadline

/-- What a search asks for is answered by the deadline and two settle delays more, and it has not
asked for much. -/
structure Hours (m : MatchingConfig) (settleDelay start now : Nat) (past : List Moment)
    (e : Effect) : Prop where
  looked : ∃ n, Ticked m start n past ∧ past.length < 3 * n + 18
  soon : e.answeredAt now ≤ start + m.deadline + 2 * settleDelay
  sturdy : ∀ key route ttl, e ≠ .cacheSet key route ttl

/-- Whenever the search has looked around it found nobody, or was refused. -/
def Nobody (pickup : GeoPoint) (radius : Float) (past : List Moment) : Prop :=
  ∀ x ∈ past, looks x.exchange.effect →
    x.exchange = ⟨.store (.nearestAvailableCourier pickup radius), .ok none⟩ ∨
      ∃ err, x.exchange = ⟨.store (.nearestAvailableCourier pickup radius), .error err⟩

/-- At the deadline the report that nobody was found was accepted, behind a look at each tick before
it, all of them in vain. -/
structure GivenUp (m : MatchingConfig) (trip : Uuid) (pickup : GeoPoint) (start n : Nat)
    (past : List Moment) : Prop where
  tried : ∀ k, k * m.tick < m.deadline → k < n
  nobody : Nobody pickup m.searchRadius past
  reported : ∃ x ∈ past, x.time = start + m.deadline ∧
    ∃ t, x.exchange = ⟨.store (.setTripStatus trip .courierNotFound), .ok t⟩

/-- How a search comes to its end, which it does. -/
def Close (m : MatchingConfig) (settleDelay : Nat) (trip : Uuid) (pickup : GeoPoint)
    (start extra now : Nat) (past : List Moment) : Option MatchOutcome → Prop
  | none => False
  | some outcome => now ≤ start + m.deadline + 2 * settleDelay ∧ ∃ n, Ticked m start n past ∧
      past.length ≤ 3 * n + extra ∧ (outcome = .notFound → GivenUp m trip pickup start n past)

variable {m : MatchingConfig} {pickup : GeoPoint} {radius : Float} {start now k : Nat}
  {past new : List Moment}

theorem not_looks {e : Effect} (handled : handles e) : looks e = false := by
  cases e with
  | store op => cases op <;> first | rfl | cases handled
  | _ => rfl

theorem Ticked.append (h : Ticked m start k past)
    (handled : ∀ x ∈ new, looks x.exchange.effect = false) : Ticked m start k (new ++ past) where
  times := by
    have none_ : new.filter (looks ·.exchange.effect) = [] :=
      List.filter_eq_nil_iff.2 fun x member => by simp [handled x member]
    rw [lookTimes, List.filter_append, none_]
    exact h.times
  early := h.early

theorem Ticked.look (h : Ticked m start k past) {x : Moment} (looked : looks x.exchange.effect)
    (time : x.time = start + k * m.tick) (early : k * m.tick ≤ m.deadline) :
    Ticked m start (k + 1) (x :: past) where
  times := by
    rw [lookTimes, List.filter_cons, if_pos looked, List.map_cons, ← lookTimes, h.times, time,
      List.range_succ, List.map_append, List.reverse_append]
    rfl
  early i below := by
    rcases Nat.lt_succ_iff_lt_or_eq.1 below with old | rfl
    · exact h.early i old
    · exact early

theorem Nobody.append (h : Nobody pickup radius past)
    (handled : ∀ x ∈ new, looks x.exchange.effect = false) :
    Nobody pickup radius (new ++ past) := by
  intro x member looked
  rcases List.mem_append.1 member with added | old
  · rw [handled x added] at looked
    cases looked
  · exact h x old looked

/-- A part that waits for no tick keeps the hours of a search. -/
theorem onTime_of_costs {j : Job α} (costs : Costs ends n span j) (ticked : Ticked m start k past)
    (few : past.length + n ≤ 3 * k + 17)
    (soon : now + span ≤ start + m.deadline + 2 * settleDelay) :
    OnTime (Hours m settleDelay start)
      (fun now' past' o => Spent (fun e => handles e) n span now past now' past' ∧
        ∃ a, o = some a ∧ ends a) now past j := by
  refine costs.onTime (fun e handled => ?_) fun now' past' e spent more short handled => ?_
  · cases e <;> first | rfl | cases handled
  · obtain ⟨⟨new, rfl, added, kinds⟩, late⟩ := spent
    have direct : e.direct := by cases e <;> first | rfl | cases handled
    refine ⟨⟨k, ticked.append fun x member => not_looks (kinds x member), ?_⟩, ?_, ?_⟩
    · rw [List.length_append]
      omega
    · have := e.answeredAt_le direct now'
      omega
    · rintro key route ttl rfl
      cases handled

/-- What is asked for without waiting is asked for in time. -/
theorem hours_at_once {e : Effect} (ticked : Ticked m start k past) (few : past.length < 3 * k + 18)
    (early : now ≤ start + m.deadline) (instant : e.answeredAt now = now)
    (sturdy : ∀ key route ttl, e ≠ .cacheSet key route ttl) :
    Hours m settleDelay start now past e :=
  ⟨⟨k, ticked, few⟩, by omega, sturdy⟩

theorem onTime_take (courier : Uuid) (ticked : Ticked m start k past)
    (few : past.length ≤ 3 * k + 1) (early : now ≤ start + m.deadline) :
    OnTime (Hours m settleDelay start) (Close m settleDelay trip pickup start 17) now past
      (take settleDelay trip courier) := by
  refine (onTime_of_costs (costs_take courier) ticked (by omega) (by omega)).mono ?_
  rintro now' _ _ ⟨⟨⟨new, rfl, added, kinds⟩, soon⟩, outcome, rfl, other⟩
  refine ⟨by omega, k, ticked.append fun x member => not_looks (kinds x member), ?_,
    fun same => absurd same other⟩
  rw [List.length_append]
  omega

theorem onTime_tripGone {β : Type} {fin : Nat → List Moment → Option β → Prop}
    {f : Option MatchOutcome → Job β} (ticked : Ticked m start k past)
    (few : past.length < 3 * k + 18) (early : now ≤ start + m.deadline)
    (gone : ∀ r outcome, Otherwise outcome → OnTime (Hours m settleDelay start) fin now
      (⟨now, .store (.getTrip trip), r⟩ :: past) (f (some outcome)))
    (alive : ∀ r, OnTime (Hours m settleDelay start) fin now
      (⟨now, .store (.getTrip trip), r⟩ :: past) (f none)) :
    OnTime (Hours m settleDelay start) fin now past (tripGone trip >>= f) := by
  refine ⟨hours_at_once ticked few early rfl nofun, fun r _ => ?_⟩
  rcases r with err | _ | t
  · exact gone _ .aborted nofun
  · exact gone _ .tripMissing nofun
  · change OnTime _ _ now _ (f (if t.status = .cancelled then some .cancelled else none))
    split
    · exact gone _ .cancelled nofun
    · exact alive _

/-- What is asked for besides a look leaves the looks as they are. -/
theorem Ticked.next (h : Ticked m start k past) {x : Moment}
    (handled : looks x.exchange.effect = false) : Ticked m start k (x :: past) :=
  show Ticked m start k ([x] ++ past) from h.append (by simpa using handled)

theorem Nobody.next (h : Nobody pickup radius past) {x : Moment}
    (handled : looks x.exchange.effect = false) : Nobody pickup radius (x :: past) :=
  show Nobody pickup radius ([x] ++ past) from h.append (by simpa using handled)

/-- A report that is accepted is accepted now, and what is left is to tell it. -/
theorem onTime_report {β : Type} {fin : Nat → List Moment → Option β → Prop}
    {f : Except DispatchError Trip → Job β} {status : TripStatus} (ticked : Ticked m start k past)
    (few : past.length ≤ 3 * k + 11) (early : now ≤ start + m.deadline)
    (accepted : ∀ t now' new, now' ≤ now + settleDelay → new.length ≤ 5 →
      (∀ x ∈ new, looks x.exchange.effect = false) → OnTime (Hours m settleDelay start) fin now'
        (new ++ ⟨now, .store (.setTripStatus trip status), .ok t⟩ :: past) (f (.ok t)))
    (refused : ∀ err, OnTime (Hours m settleDelay start) fin now
      (⟨now, .store (.setTripStatus trip status), .error err⟩ :: past) (f (.error err))) :
    OnTime (Hours m settleDelay start) fin now past
      ((Trip.reportStatus settleDelay trip status).result >>= f) := by
  rw [Attempt.result, Trip.run_reportStatus]
  refine ⟨hours_at_once ticked (by omega) early rfl nofun, fun r _ => ?_⟩
  cases r with
  | error err => exact refused err
  | ok t =>
    change OnTime _ _ now _ ((Trip.tell settleDelay t status >>= fun _ => .done (.ok t)) >>= f)
    rw [bind_assoc]
    have few : (⟨now, .store (.setTripStatus trip status), .ok t⟩ :: past :
        List Moment).length + 5 ≤ 3 * k + 17 := by
      rw [List.length_cons]
      omega
    refine (onTime_of_costs (costs_tell t status) (ticked.next rfl) few (by omega)).bind
      (fun _ _ broken => ?_) ?_
    · obtain ⟨-, _, none_, -⟩ := broken
      cases none_
    · rintro now' _ _ ⟨⟨⟨new, rfl, added, kinds⟩, soon⟩, -⟩
      exact accepted t now' new soon added fun x member => not_looks (kinds x member)

/-- At the deadline a search gives up. -/
theorem onTime_giveUp (ticked : Ticked m start k past) (few : past.length ≤ 3 * k + 2)
    (struck : now = start + m.deadline) (tried : ∀ i, i * m.tick < m.deadline → i < k)
    (nobody : Nobody pickup m.searchRadius past) :
    OnTime (Hours m settleDelay start) (Close m settleDelay trip pickup start 17) now past
      (giveUp settleDelay trip) := by
  have early : now ≤ start + m.deadline := Nat.le_of_eq struck
  refine onTime_tripGone ticked (by omega) early (fun r outcome other => ?_) fun r =>
    onTime_report (ticked.next rfl) (by rw [List.length_cons]; omega) early
      (fun t now' new soon added handled => ?_) fun err => ?_
  · refine ⟨by omega, k, ticked.next rfl, ?_, fun same => absurd same other⟩
    rw [List.length_cons]
    omega
  · refine ⟨by omega, k, ((ticked.next rfl).next rfl).append handled, ?_, fun _ =>
      ⟨tried, ((nobody.next rfl).next rfl).append handled, _,
        List.mem_append_right _ List.mem_cons_self, struck, t, rfl⟩⟩
    simp only [List.length_append, List.length_cons]
    omega
  · have closed (outcome : MatchOutcome) (other : Otherwise outcome) :
        Close m settleDelay trip pickup start 17 now (⟨now, .store (.setTripStatus trip
          .courierNotFound), .error err⟩ :: ⟨now, .store (.getTrip trip), r⟩ :: past)
          (some outcome) := by
      refine ⟨by omega, k, (ticked.next rfl).next rfl, ?_, fun same => absurd same other⟩
      simp only [List.length_cons]
      omega
    cases err with
    | tripClosed id old => exact closed .cancelled nofun
    | _ => exact closed .aborted nofun

/-- How a look comes out: the search is over, or it goes on at once. -/
def Seen (m : MatchingConfig) (settleDelay : Nat) (trip : Uuid) (pickup : GeoPoint)
    (start k now : Nat) (past : List Moment) : Option (Option MatchOutcome) → Prop
  | none => False
  | some (some outcome) => Close m settleDelay trip pickup start 17 now past (some outcome)
  | some none => now = start + k * m.tick ∧ Ticked m start (k + 1) past ∧
      Nobody pickup m.searchRadius past ∧ past.length ≤ 3 * (k + 1) + 1

theorem onTime_look (ticked : Ticked m start k past) (few : past.length ≤ 3 * k + 2)
    (due : now = start + k * m.tick) (early : k * m.tick ≤ m.deadline)
    (nobody : Nobody pickup m.searchRadius past) :
    OnTime (Hours m settleDelay start) (Seen m settleDelay trip pickup start k) now past
      (look m settleDelay trip pickup) := by
  refine onTime_tripGone ticked (by omega) (by omega) (fun r outcome other => ?_) fun r => ?_
  · refine ⟨by omega, k, ticked.next rfl, ?_, fun same => absurd same other⟩
    rw [List.length_cons]
    omega
  · refine ⟨hours_at_once (ticked.next rfl) (by rw [List.length_cons]; omega) (by omega) rfl nofun,
      fun r' _ => ?_⟩
    have looked : Ticked m start (k + 1) (⟨now, .store (.nearestAvailableCourier pickup
        m.searchRadius), r'⟩ :: ⟨now, .store (.getTrip trip), r⟩ :: past) :=
      (ticked.next rfl).look rfl due early
    have few : (⟨now, .store (.nearestAvailableCourier pickup m.searchRadius), r'⟩ ::
        ⟨now, .store (.getTrip trip), r⟩ :: past : List Moment).length ≤ 3 * (k + 1) + 1 := by
      simp only [List.length_cons]
      omega
    -- A look in vain is one more of its kind.
    have vain (none_ : r' = .ok none ∨ ∃ err, r' = .error err) : Nobody pickup m.searchRadius
        (⟨now, .store (.nearestAvailableCourier pickup m.searchRadius), r'⟩ ::
          ⟨now, .store (.getTrip trip), r⟩ :: past) := by
      intro x member looks
      rcases List.mem_cons.1 member with rfl | old
      · rcases none_ with rfl | ⟨err, rfl⟩
        · exact .inl rfl
        · exact .inr ⟨err, rfl⟩
      · exact nobody.next rfl x old looks
    rcases r' with err | _ | courier
    · exact ⟨due, looked, vain (.inr ⟨err, rfl⟩), few⟩
    · exact ⟨due, looked, vain (.inl rfl), few⟩
    · have early : now ≤ start + m.deadline := by omega
      have taken : OnTime (Hours m settleDelay start)
          (Close m settleDelay trip pickup start 17) now _ (take settleDelay trip courier.id) :=
        onTime_take courier.id looked few early
      refine .map (taken.mono fun _ _ o close => ?_)
      cases o <;> exact close

/-- Waiting for the ticks. Each look in vain is followed by the wait for the next tick, and the
rounds last until the deadline. -/
theorem onTime_rounds (n : Nat) {k now : Nat} {past : List Moment}
    (enough : m.deadline < (k + n) * m.tick) (due : now ≤ start + k * m.tick)
    (early : now ≤ start + m.deadline) (ticked : Ticked m start k past)
    (nobody : Nobody pickup m.searchRadius past) (few : past.length ≤ 3 * k + 1) :
    OnTime (Hours m settleDelay start) (Close m settleDelay trip pickup start 17) now past
      (rounds m settleDelay trip pickup (start + m.deadline) n (start + k * m.tick)) := by
  induction n generalizing k now past with
  | zero =>
    have time : (Effect.waitUntil (start + m.deadline)).answeredAt now = start + m.deadline := by
      rw [Effect.answeredAt_waitUntil]
      omega
    refine ⟨⟨⟨k, ticked, by omega⟩, by omega, nofun⟩, fun _ _ => ?_⟩
    refine onTime_giveUp (ticked.next rfl) (by rw [List.length_cons]; omega) time
      (fun i before => ?_) (nobody.next rfl)
    exact Nat.lt_of_mul_lt_mul_right (Nat.lt_trans before enough)
  | succ n ih =>
    have time : (Effect.race (start + m.deadline) (start + k * m.tick)).answeredAt now =
        min (start + m.deadline) (start + k * m.tick) := by rw [Effect.answeredAt_race]; omega
    refine ⟨⟨⟨k, ticked, by omega⟩, by omega, nofun⟩, fun alarm told => ?_⟩
    rw [time] at told ⊢
    cases alarm with
    | deadline =>
      have struck : m.deadline ≤ k * m.tick := by
        have told : start + m.deadline ≤ min (start + m.deadline) (start + k * m.tick) := told
        omega
      refine onTime_giveUp (ticked.next rfl) (by rw [List.length_cons]; omega) (by omega)
        (fun i before => ?_) (nobody.next rfl)
      exact Nat.lt_of_mul_lt_mul_right (Nat.lt_of_lt_of_le before struck)
    | tick noticed =>
      obtain ⟨rings, rfl⟩ : start + k * m.tick ≤ min (start + m.deadline) (start + k * m.tick) ∧
        noticed = min (start + m.deadline) (start + k * m.tick) := told
      have before : k * m.tick ≤ m.deadline := by omega
      have same : min (start + m.deadline) (start + k * m.tick) = start + k * m.tick := by omega
      rw [same]
      refine (onTime_look (ticked.next rfl) (by rw [List.length_cons]; omega) rfl before
        (nobody.next rfl)).bind (fun _ _ broken => broken) fun now' past' o seen => ?_
      cases o with
      | some outcome => exact seen
      | none =>
        obtain ⟨rfl, ticked, nobody, few⟩ := seen
        -- The tick was noticed when it was due, so the next one is due a period later.
        have next : nextTick m.tick (start + k * m.tick) (start + k * m.tick) =
            start + (k + 1) * m.tick := by
          rw [nextTick, if_neg (by omega), Nat.succ_mul, Nat.add_assoc]
        rw [next]
        refine ih (by rwa [Nat.add_right_comm, Nat.add_assoc k n 1]) ?_ (by omega) ticked nobody few
        rw [Nat.succ_mul]
        omega

/-- A search that nobody keeps waiting. -/
theorem onTime_run (positive : 0 < m.tick) (range : m.deadline ≤ longestWait) :
    OnTime (Hours m settleDelay start) (Close m settleDelay trip pickup start 17) start []
      (run m settleDelay trip pickup) := by
  have unlooked : Ticked m start 0 [] := ⟨rfl, nofun⟩
  refine ⟨hours_at_once unlooked (by simp) (by omega) rfl nofun, fun timers told => ?_⟩
  obtain ⟨now, overtime⟩ := timers
  obtain rfl : start = now := (show now = start from told).symm
  change OnTime _ _ start _ (if m.tick = 0 then .panic else _)
  have deadline : waitEnd start m.deadline = start + m.deadline := by
    rw [waitEnd, Nat.min_eq_left range]
  have first : start + 0 * m.tick = start := by omega
  have enough : m.deadline < (0 + (m.deadline / m.tick + 1 + overtime)) * m.tick := by
    have regular : m.deadline < m.tick * (m.deadline / m.tick + 1) := Nat.lt_mul_div_succ _ positive
    rw [Nat.zero_add, Nat.mul_comm, Nat.mul_add]
    omega
  rw [if_neg (Nat.ne_of_gt positive), deadline]
  have nobody : Nobody pickup m.searchRadius [⟨start, .setTimers, ⟨start, overtime⟩⟩] := by
    intro x member looked
    rw [List.mem_singleton.1 member] at looked
    cases looked
  have waits : OnTime (Hours m settleDelay start) (Close m settleDelay trip pickup start 17) start
      [⟨start, .setTimers, ⟨start, overtime⟩⟩] (rounds m settleDelay trip pickup (start + m.deadline)
        (m.deadline / m.tick + 1 + overtime) (start + 0 * m.tick)) :=
    onTime_rounds _ enough (Nat.le_of_eq first.symm) (Nat.le_add_right ..) (unlooked.next rfl)
      nobody (Nat.le_refl _)
  rwa [first] at waits

/-- The same with the slot freed at the end. -/
theorem onTime_supervised (positive : 0 < m.tick) (range : m.deadline ≤ longestWait) :
    OnTime (Hours m settleDelay start) (Close m settleDelay trip pickup start 18) start []
      (supervised m settleDelay trip pickup) := by
  refine (onTime_run positive range).bind (fun _ _ broken => broken) ?_
  rintro now past outcome ⟨soon, n, ticked, few, givenUp⟩
  refine ⟨⟨⟨n, ticked, by omega⟩, soon, nofun⟩, fun _ _ =>
    ⟨soon, n, ticked.next rfl, ?_, fun none_ => ?_⟩⟩
  · rw [List.length_cons]
    omega
  · obtain ⟨tried, nobody, x, member, reported⟩ := givenUp none_
    exact ⟨tried, nobody.next rfl, x, List.mem_cons_of_mem _ member, reported⟩

end CourierDispatch.Search
