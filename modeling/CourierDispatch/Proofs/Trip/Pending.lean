import CourierDispatch.Proofs.Trip.Report
import CourierDispatch.Proofs.Trip.Write

/-!
# What is still to be told

A status that was written calls for announcements (`Trip.calls`): one notice on each channel of the
status, and none for the cancellation of a trip with a courier. Between the write and the last of them
some are `pending`. A process tells what it has written in order and completely: while an announcement
is pending it counts what was written just now, then reads the courier of the trip, and publishes the
first one that is pending, and nothing else (`Speaks`, `meets_tell`).

A notice on the way has the place of the courier, which the process reads right behind the count. Until
then the place is not known to it, so what is pending depends on where couriers are, and cannot be
published: behind a report on the way with a courier come the count and the reading
(`asks_behind_report`).
-/

namespace CourierDispatch

/-- An update on a channel. -/
abbrev Announcement := Channel × TripUpdate

/-- The place that a reading of a courier gives. -/
def placeOf : Except DispatchError (Option Courier) → Option GeoPoint
  | .ok (some c) => c.location
  | _ => none

namespace Trip

/-- The notice of a trip whose courier is at a place. -/
def noticeAt (t : Trip) (place : Option GeoPoint) : TripUpdate :=
  match t.status with
  | .courierAssigned => ⟨t.id, t.status, t.courierId, none⟩
  | .courierArriving | .courierEnRoute => ⟨t.id, t.status, none, place⟩
  | _ => ⟨t.id, t.status, none, none⟩

/-- The announcements that a status of a trip calls for, when the courier is at a place. -/
def calls (t : Trip) (status : TripStatus) (place : Option GeoPoint) : List Announcement :=
  if status = .cancelled ∧ t.courierId.isSome then []
  else status.channels.map (·, t.noticeAt place)

theorem length_calls (t : Trip) (status : TripStatus) (p q : Option GeoPoint) :
    (t.calls status p).length = (t.calls status q).length := by
  unfold calls
  split <;> simp

end Trip

/-- The report that was counted just now, behind nothing else. -/
def counted? : List Exchange → Option (TripStatus × Trip)
  | ⟨.countTransition _, _⟩ :: x :: _ => x.written?.map Prod.snd
  | _ => none

/-- The announcements that are still to be published about the last report. A notice takes the place
of its courier from elsewhere until the courier was read, right behind the count. -/
def pending (place : Uuid → Option GeoPoint) : List Exchange → List Announcement
  | [] => []
  | ⟨.store (.setTripStatus _ status), .ok t⟩ :: _ => t.calls status (t.courierId.bind place)
  | ⟨.store (.setTripStatus ..), .error _⟩ :: _ => []
  | ⟨.publish .., _⟩ :: past => (pending place past).tail
  | ⟨.store (.getCourier id), r⟩ :: past =>
    match counted? past with
    | some (status, t) =>
      if t.courierId = some id then t.calls status (placeOf r) else pending place past
    | none => pending place past
  | _ :: past => pending place past

/-- Nothing is pending. -/
def Said (past : List Exchange) : Prop := pending (fun _ => none) past = []

instance {past : List Exchange} : Decidable (Said past) :=
  decidable_of_iff ((pending (fun _ => none) past).isEmpty = true) List.isEmpty_iff

/-- A count, a reading of a courier, or a message. -/
def Effect.tells : Effect → Bool
  | .countTransition _ | .store (.getCourier _) | .publish .. => true
  | _ => false

/-- What a process may ask for: it counts what it has written just now, reads the courier of what it has
counted just now, publishes the first announcement that is pending, wherever couriers are; and does
anything else when nothing is pending. -/
inductive Speaks (past : List Exchange) : Effect → Prop
  | counts {trip : Uuid} {status : TripStatus} {t : Trip} {before : List Exchange}
      (written : past = ⟨.store (.setTripStatus trip status), .ok t⟩ :: before) :
      Speaks past (.countTransition status)
  | reads {status : TripStatus} {t : Trip} {courier : Uuid}
      (counted : counted? past = some (status, t)) (bound : t.courierId = some courier) :
      Speaks past (.store (.getCourier courier))
  | publishes {channel : Channel} {u : TripUpdate}
      (first : ∀ place, ∃ rest, pending place past = (channel, u) :: rest) :
      Speaks past (.publish channel u)
  | otherwise {e : Effect} (said : Said past) (silent : ∀ channel u, e ≠ .publish channel u) :
      Speaks past e

/-! ## What an exchange leaves pending -/

variable {place place' : Uuid → Option GeoPoint} {past : List Exchange} {x : Exchange}

/-- An effect that has no part in what is pending. -/
def Effect.apart : Effect → Bool
  | .store (.setTripStatus ..) | .store (.getCourier _) | .publish .. => false
  | _ => true

theorem pending_apart (apart : x.effect.apart) : pending place (x :: past) = pending place past := by
  obtain ⟨e, r⟩ := x
  cases e with
  | store op => cases op <;> first | rfl | cases apart
  | _ => first | rfl | cases apart

/-- Behind the count of a report, all that it calls for is pending. -/
theorem pending_of_counted {status : TripStatus} {t : Trip}
    (counted : counted? past = some (status, t)) :
    pending place past = t.calls status (t.courierId.bind place) := by
  unfold counted? at counted
  split at counted
  · next x _ =>
    obtain ⟨⟨trip, status, t⟩, written, same⟩ := Option.map_eq_some_iff.1 counted
    cases same
    rw [Exchange.written?_eq_some.1 written]
    rfl
  · cases counted

/-- A reading right behind the count of a report gives the place of the courier; another one changes
nothing. -/
theorem pending_read (place : Uuid → Option GeoPoint) (past : List Exchange) (id : Uuid)
    (r : Except DispatchError (Option Courier)) :
    (∃ status t, counted? past = some (status, t) ∧ t.courierId = some id ∧
      pending place (⟨.store (.getCourier id), r⟩ :: past) = t.calls status (placeOf r)) ∨
    (∀ status t, counted? past = some (status, t) → t.courierId ≠ some id) ∧
      pending place (⟨.store (.getCourier id), r⟩ :: past) = pending place past := by
  cases counted : counted? past with
  | none =>
    refine .inr ⟨by simp, ?_⟩
    simp only [pending, counted]
  | some p =>
    obtain ⟨status, t⟩ := p
    by_cases own : t.courierId = some id
    · refine .inl ⟨status, t, rfl, own, ?_⟩
      simp only [pending, counted, own, if_pos]
    · refine .inr ⟨fun _ _ same => (by cases same; exact own), ?_⟩
      simp only [pending, counted, own, if_false]

theorem length_pending (place place' : Uuid → Option GeoPoint) (past : List Exchange) :
    (pending place past).length = (pending place' past).length := by
  induction past with
  | nil => rfl
  | cons x past ih =>
    by_cases apart : x.effect.apart
    · rw [pending_apart apart, pending_apart apart, ih]
    · obtain ⟨e, r⟩ := x
      cases e with
      | publish => exact (List.length_tail ..).trans ((congrArg (· - 1) ih).trans (List.length_tail ..).symm)
      | store op =>
        cases op with
        | setTripStatus trip status =>
          cases r with
          | ok t => exact t.length_calls status _ _
          | error err => rfl
        | getCourier id =>
          simp only [pending]
          split
          · split
            · rfl
            · exact ih
          · exact ih
        | _ => exact absurd rfl apart
      | _ => exact absurd rfl apart

/-- Whether something is pending does not depend on where couriers are. -/
theorem Said.pending_eq_nil (said : Said past) : pending place past = [] := by
  rw [← List.length_eq_zero_iff, length_pending place (fun _ => none), said, List.length_nil]

@[simp] theorem said_nil : Said [] := rfl

theorem Speaks.first {channel : Channel} {u : TripUpdate} (speaks : Speaks past (.publish channel u)) :
    ∀ place, ∃ rest, pending place past = (channel, u) :: rest := by
  cases speaks with
  | publishes first => exact first
  | otherwise _ silent => exact absurd rfl (silent channel u)

/-- Who does anything else has nothing to tell. -/
theorem Speaks.said {e : Effect} (speaks : Speaks past e) (other : e.tells = false) : Said past := by
  cases speaks with
  | counts | reads | publishes => cases other
  | otherwise said => exact said

/-- A reading of a courier leaves as much to tell as there was. -/
theorem said_read {id : Uuid} {r : Except DispatchError (Option Courier)} :
    Said (⟨.store (.getCourier id), r⟩ :: past) ↔ Said past := by
  rcases pending_read (fun _ => none) past id r with ⟨status, t, counted, -, called⟩ | ⟨-, same⟩
  · rw [Said, Said, called, pending_of_counted counted, ← List.length_eq_zero_iff,
      t.length_calls status _ (t.courierId.bind fun _ => none), List.length_eq_zero_iff]
  · rw [Said, Said, same]

/-- Nothing becomes pending but by a report that is accepted. -/
theorem Said.next (said : Said past) (unwritten : x.written? = none) : Said (x :: past) := by
  by_cases apart : x.effect.apart
  · rw [Said, pending_apart apart, said]
  · obtain ⟨e, r⟩ := x
    cases e with
    | publish => exact congrArg List.tail said
    | store op =>
      cases op with
      | setTripStatus trip status =>
        cases r with
        | ok t => cases unwritten
        | error err => rfl
      | getCourier id => exact said_read.2 said
      | _ => exact absurd rfl apart
    | _ => exact absurd rfl apart

/-- Who has reported nothing, or was refused, has nothing to tell. -/
theorem said_of_lastReport (unreported : lastReport past = none) : Said past := by
  induction past with
  | nil => rfl
  | cons x past ih =>
    rw [lastReport_cons] at unreported
    split at unreported
    · next reports =>
      obtain ⟨e, r⟩ := x
      cases e with
      | store op =>
        cases op with
        | setTripStatus =>
          cases r with
          | ok t => cases unreported
          | error err => rfl
        | _ => cases reports
      | _ => cases reports
    · next silent => exact (ih unreported).next (written?_of_unreported (by simpa using silent) _)

/-! ## What was told -/

/-- A status on the way, whose notice has the place of the courier. -/
def TripStatus.onTheWay : TripStatus → Bool
  | .courierArriving | .courierEnRoute => true
  | _ => false

theorem Trip.calls_place {t : Trip} (still : t.status.onTheWay = false) (status : TripStatus)
    (p q : Option GeoPoint) : t.calls status p = t.calls status q := by
  have same : t.noticeAt p = t.noticeAt q := by
    unfold noticeAt
    cases s : t.status <;> first | rfl | (rw [s] at still; cases still)
  unfold calls
  rw [same]

theorem Trip.status_of_calls {t : Trip} {status : TripStatus} {p : Option GeoPoint}
    {m : Announcement} (called : m ∈ t.calls status p) : m.2.status = t.status := by
  unfold calls at called
  split at called
  · cases called
  · obtain ⟨channel, -, rfl⟩ := List.mem_map.1 called
    simp only [noticeAt]
    split <;> rfl

/-- A notice that is pending is published, or is pending still. -/
theorem pending_next {m : Announcement} (speaks : Speaks past x.effect)
    (still : m.2.status.onTheWay = false) (waits : m ∈ pending place past) :
    (∃ r, x = ⟨.publish m.1 m.2, r⟩) ∨ m ∈ pending place (x :: past) := by
  by_cases apart : x.effect.apart
  · exact .inr (by rwa [pending_apart apart])
  · obtain ⟨e, r⟩ := x
    cases e with
    | publish channel u =>
      obtain ⟨rest, called⟩ := speaks.first place
      rw [called] at waits
      rcases List.mem_cons.1 waits with rfl | later
      · exact .inl ⟨r, rfl⟩
      · have behind : pending place (⟨.publish channel u, r⟩ :: past) = rest :=
          congrArg List.tail called
        exact .inr (by rwa [behind])
    | store op =>
      cases op with
      | setTripStatus trip status =>
        rw [(speaks.said rfl).pending_eq_nil] at waits
        cases waits
      | getCourier id =>
        refine .inr ?_
        rcases pending_read place past id r with ⟨status, t, counted, -, read⟩ | ⟨-, same⟩
        · rw [pending_of_counted counted] at waits
          rw [Trip.status_of_calls waits] at still
          rwa [read, Trip.calls_place still status _ (t.courierId.bind place)]
        · rwa [same]
      | _ => exact absurd rfl apart
    | _ => exact absurd rfl apart

/-- On a path of a job that tells what it writes, what a report called for was published or is pending,
if it has no place in it. -/
theorem told_or_pending (place : Uuid → Option GeoPoint) {α : Type}
    {ask : List Exchange → Effect → Prop} {fin : List Exchange → Option α → Prop} {start job : Job α}
    (speaks : ∀ past e, ask past e → Speaks past e) (meets : Job.Meets ask fin [] start)
    (path : start.Leads past job) {trip : Uuid} {status : TripStatus} {t : Trip}
    (still : t.status.onTheWay = false) (written : ∃ x ∈ past, x.written? = some (trip, status, t))
    {m : Announcement} (called : m ∈ t.calls status none) :
    (∃ r, ⟨.publish m.1 m.2, r⟩ ∈ past) ∨ m ∈ pending place past := by
  induction path with
  | here => obtain ⟨x, member, -⟩ := written; cases member
  | @next past e next before r _ ih =>
    obtain ⟨x, member, written⟩ := written
    rcases List.mem_cons.1 member with rfl | old
    · rw [Exchange.written?_eq_some.1 written]
      rw [Trip.calls_place still status none (t.courierId.bind place)] at called
      exact .inr called
    · rcases ih ⟨x, old, written⟩ with ⟨r', published⟩ | waits
      · exact .inl ⟨r', List.mem_cons_of_mem _ published⟩
      · have asks := speaks past e (meets.of_leads before).1
        rw [← Trip.status_of_calls called] at still
        rcases pending_next (x := ⟨e, r⟩) asks still waits with ⟨r', now⟩ | waits
        · exact .inl ⟨r', by rw [now]; exact List.mem_cons_self⟩
        · exact .inr waits

/-! ## Behind a report on the way -/

section

variable {trip courier : Uuid} {status : TripStatus} {t : Trip} {e : Effect}

theorem Trip.calls_ne_nil (way : status.onTheWay) (t : Trip) (place : Option GeoPoint) :
    t.calls status place ≠ [] := by
  cases status <;> cases way <;> simp [calls, TripStatus.channels]

theorem Trip.calls_of_onTheWay (way : status.onTheWay) (named : t.status = status)
    (place : Option GeoPoint) :
    t.calls status place = [(.tripUpdates, ⟨t.id, status, none, place⟩)] := by
  cases status <;> cases way <;> simp [calls, noticeAt, named, TripStatus.channels]

/-- A notice on the way cannot be published as long as it depends on where the courier is. -/
theorem not_publishes_of_unplaced {channel : Channel} {u : TripUpdate}
    (unplaced : ∀ place, pending place past = t.calls status (t.courierId.bind place))
    (way : status.onTheWay) (named : t.status = status) (bound : t.courierId = some courier) :
    ¬ ∀ place, ∃ rest, pending place past = (channel, u) :: rest := by
  intro first
  have at_ (p : Option GeoPoint) : u = ⟨t.id, status, none, p⟩ := by
    obtain ⟨rest, called⟩ := first fun _ => p
    rw [unplaced, bound, Option.bind_some, Trip.calls_of_onTheWay way named] at called
    exact (congrArg Prod.snd (List.cons.inj called).1).symm
  cases (at_ none).symm.trans (at_ (some ⟨0, 0⟩))

/-- Right behind a report on the way comes its count. -/
theorem Speaks.eq_count (speaks : Speaks (⟨.store (.setTripStatus trip status), .ok t⟩ :: past) e)
    (way : status.onTheWay) (named : t.status = status) (bound : t.courierId = some courier) :
    e = .countTransition status := by
  cases speaks with
  | counts written => cases written; rfl
  | reads counted => cases counted
  | publishes first => exact absurd first (not_publishes_of_unplaced (fun _ => rfl) way named bound)
  | otherwise said => exact absurd said (t.calls_ne_nil way _)

/-- Right behind the count of a report on the way its courier is read. -/
theorem Speaks.eq_read {counted : Exchange} (counts : counted.effect = .countTransition status)
    (speaks : Speaks (counted :: ⟨.store (.setTripStatus trip status), .ok t⟩ :: past) e)
    (way : status.onTheWay) (named : t.status = status) (bound : t.courierId = some courier) :
    e = .store (.getCourier courier) := by
  obtain ⟨_, r⟩ := counted
  cases counts
  cases speaks with
  | counts written => cases written
  | reads counted bound' =>
    cases counted
    cases bound.symm.trans bound'
    rfl
  | publishes first => exact absurd first (not_publishes_of_unplaced (fun _ => rfl) way named bound)
  | otherwise said => exact absurd said (t.calls_ne_nil way _)

/-- What a process asks for behind its report on the way begins with the count and the reading of the
courier, as far as it has got; nothing is left to tell only behind both. -/
theorem asks_behind_report {behind : List Exchange}
    (speaks : ∀ later x earlier, behind.reverse ++ ⟨.store (.setTripStatus trip status), .ok t⟩ :: past =
      later ++ x :: earlier → Speaks earlier x.effect)
    (way : status.onTheWay) (named : t.status = status) (bound : t.courierId = some courier) :
    (behind.take 2).map Exchange.effect <+: [.countTransition status, .store (.getCourier courier)] ∧
      (Said (behind.reverse ++ ⟨.store (.setTripStatus trip status), .ok t⟩ :: past) →
        (behind.take 2).map Exchange.effect =
          [.countTransition status, .store (.getCourier courier)]) := by
  let report : Exchange := ⟨.store (.setTripStatus trip status), .ok t⟩
  match behind with
  | [] => exact ⟨List.nil_prefix, fun said => absurd said (t.calls_ne_nil way _)⟩
  | [x] =>
    have counts : x.effect = .countTransition status := (speaks [] x _ rfl).eq_count way named bound
    refine ⟨by simp [counts], fun said => ?_⟩
    have apart : x.effect.apart := by rw [counts]; rfl
    rw [Said, List.reverse_singleton, List.singleton_append, pending_apart apart] at said
    exact absurd said (t.calls_ne_nil way _)
  | x :: y :: rest =>
    have counts : x.effect = .countTransition status :=
      (speaks (rest.reverse ++ [y]) x (report :: past) (by simp [report])).eq_count way named bound
    have reads : y.effect = .store (.getCourier courier) :=
      (speaks rest.reverse y (x :: report :: past) (by simp [report])).eq_read counts way named bound
    simp [counts, reads]

end

/-! ## Telling a status -/

namespace Trip

open Job

variable {t : Trip} {status : TripStatus} {u : TripUpdate}

/-- An update on some channels is published on one after the other. -/
theorem meets_publishOn {channels : List Channel}
    (called : ∀ place, pending place past = channels.map (·, u)) :
    Meets Speaks (fun past o => o = some () ∧ Said past) past (publishOn u channels) := by
  induction channels generalizing past with
  | nil => exact ⟨rfl, called _⟩
  | cons c rest ih =>
    refine ⟨.publishes fun place => ⟨_, called place⟩, fun _ _ => ?_⟩
    exact ih fun place => congrArg List.tail (called place)

/-- What is announced right behind the count is the notice with the place that is read for it. -/
theorem meets_notice {channels : List Channel} (counted : counted? past = some (status, t))
    (calls : ∀ place, t.calls status place = channels.map (·, t.noticeAt place)) :
    Meets Speaks (fun past o => ∃ u, o = some u ∧ ∀ place, pending place past = channels.map (·, u))
      past (notice t) := by
  have called (place) : pending place past =
      channels.map (·, t.noticeAt (t.courierId.bind place)) :=
    (pending_of_counted counted).trans (calls _)
  -- A notice on the way is made when the courier was read, if there is one.
  have located (way : ∀ place, t.noticeAt place = ⟨t.id, t.status, none, place⟩) :
      Meets Speaks (fun past o => ∃ u, o = some u ∧
          ∀ place, pending place past = channels.map (·, u)) past
        (do return (⟨t.id, t.status, none, ← courierLocation t⟩ : TripUpdate)) := by
    unfold courierLocation
    cases courier : t.courierId with
    | none => exact ⟨_, rfl, fun place => by rw [called, courier, way]; rfl⟩
    | some id =>
      refine ⟨.reads counted courier, fun r _ => ?_⟩
      have read (place) : pending place (⟨.store (.getCourier id), r⟩ :: past) =
          channels.map (·, ⟨t.id, t.status, none, placeOf r⟩) := by
        rcases pending_read place past id r with ⟨_, _, counted', -, read⟩ | ⟨other, -⟩
        · rw [counted] at counted'
          cases counted'
          rw [read, calls, way]
        · exact absurd courier (other status t counted)
      rcases r with err | _ | c <;> exact ⟨_, rfl, read⟩
  unfold notice
  split
  · next status => exact ⟨_, rfl, fun place => by rw [called, noticeAt, status]⟩
  · next status => exact located fun place => by rw [noticeAt, status]
  · next status => exact located fun place => by rw [noticeAt, status]
  · next unassigned away far =>
    refine ⟨_, rfl, fun place => ?_⟩
    rw [called]
    cases status : t.status <;> simp_all [noticeAt]

/-- What is told of a status that was written is all that it calls for. -/
theorem meets_tell (settleDelay : Nat) {trip : Uuid} {past : List Exchange} :
    Meets Speaks (fun past o => o = some () ∧ Said past)
      (⟨.store (.setTripStatus trip status), .ok t⟩ :: past) (tell settleDelay t status) := by
  refine ⟨.counts rfl, fun _ _ => ?_⟩
  generalize report : (⟨.countTransition status, ()⟩ ::
    ⟨.store (.setTripStatus trip status), .ok t⟩ :: past : List Exchange) = past'
  have counted : counted? past' = some (status, t) := by rw [← report]; rfl
  have announced : Meets Speaks (fun past o => o = some () ∧ Said past) past' (announce t status) := by
    unfold announce
    split
    · next silent => exact ⟨rfl, (pending_of_counted counted).trans (if_pos silent)⟩
    · next loud =>
      have calls (place) : t.calls status place = status.channels.map (·, t.noticeAt place) :=
        if_neg loud
      split
      · next nowhere =>
        exact ⟨rfl, (pending_of_counted counted).trans (by rw [calls, nowhere]; rfl)⟩
      · refine (meets_notice counted calls).bind (fun _ ⟨_, none_, _⟩ => by cases none_) ?_
        rintro past u ⟨_, ⟨⟩, called⟩
        exact meets_publishOn called
  refine announced.bind (fun _ broken => by cases broken.1) fun past _ said => ?_
  exact ⟨.otherwise said.2 nofun, fun _ _ => ⟨rfl, said.2.next rfl⟩⟩

end Trip

end CourierDispatch
