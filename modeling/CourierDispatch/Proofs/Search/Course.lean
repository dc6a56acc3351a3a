import CourierDispatch.Proofs.Trip.Report
import CourierDispatch.Proofs.Trip.Write
import CourierDispatch.Search

/-!
# The course of a search

What a search asks for, told from its last exchanges (`Search.Asks`). It reports a courier as found
exactly when it has just read its trip, not cancelled, and somebody near it (`FoundSomebody`); it
reports that nobody was found exactly when it has just read its trip, not cancelled, behind the deadline
(`StruckDeadline`); and before either it has written and bound nothing. It ends for a reason that its
last exchanges show (`Reason`).
-/

namespace CourierDispatch.Search

open Job

/-- The trip was just read, not cancelled, and then somebody near it. -/
inductive FoundSomebody (trip : Uuid) : List Exchange → Prop
  | intro {t : Trip} {c : Courier} {p : GeoPoint} {radius : Float} (past : List Exchange)
      (alive : t.status ≠ .cancelled) :
      FoundSomebody trip (⟨.store (.nearestAvailableCourier p radius), .ok (some c)⟩ ::
        ⟨.store (.getTrip trip), .ok (some t)⟩ :: past)

/-- The deadline is noticed. -/
def strikes : Exchange → Bool
  | ⟨.race .., .deadline⟩ | ⟨.waitUntil _, _⟩ => true
  | _ => false

/-- The deadline has just passed, and then the trip was read, not cancelled. -/
inductive StruckDeadline (trip : Uuid) : List Exchange → Prop
  | intro {t : Trip} {x : Exchange} (past : List Exchange) (struck : strikes x)
      (alive : t.status ≠ .cancelled) :
      StruckDeadline trip (⟨.store (.getTrip trip), .ok (some t)⟩ :: x :: past)

/-- Why a search ends as it does. -/
inductive Reason (trip : Uuid) : List Exchange → MatchOutcome → Prop
  | cancelled (past : List Exchange) : Reason trip past .cancelled
  | missing (past : List Exchange) :
      Reason trip (⟨.store (.getTrip trip), .ok none⟩ :: past) .tripMissing
  | unread (err : DispatchError) (past : List Exchange) :
      Reason trip (⟨.store (.getTrip trip), .error err⟩ :: past) .aborted
  /-- Something was refused, and the trip is still there. -/
  | kept {t : Trip} (past : List Exchange) (alive : t.status ≠ .cancelled) {outcome : MatchOutcome}
      (failed : outcome = .aborted ∨ outcome = .assignmentFailed) :
      Reason trip (⟨.store (.getTrip trip), .ok (some t)⟩ :: past) outcome
  | refused {status : TripStatus} {err : DispatchError} (past : List Exchange)
      (open_ : ∀ id old, err ≠ .tripClosed id old) :
      Reason trip (⟨.store (.setTripStatus trip status), .error err⟩ :: past) .aborted
  | assigned {past : List Exchange} {x : Exchange} {courier : Uuid} (member : x ∈ past)
      (bound : x.bound? = some (trip, courier)) : Reason trip past (.assigned courier)
  | notFound {past : List Exchange} {x : Exchange} {t : Trip} (member : x ∈ past)
      (written : x.written? = some (trip, .courierNotFound, t)) : Reason trip past .notFound

/-- No report of a search was accepted, and no binding. -/
def Untouched (past : List Exchange) : Prop := ∀ x ∈ past, x.written? = none ∧ x.bound? = none

/-- No report was accepted that nobody was found. -/
def Hopeful (trip : Uuid) (past : List Exchange) : Prop :=
  ∀ x ∈ past, ∀ t, x.written? ≠ some (trip, .courierNotFound, t)

/-- Why a search ends as it does; and behind a report that nobody was found it ends so. -/
def Ending (trip : Uuid) (past : List Exchange) (outcome : MatchOutcome) : Prop :=
  Reason trip past outcome ∧ (outcome = .notFound ∨ Hopeful trip past)

/-- What a search asks for. -/
structure Asks (trip : Uuid) (past : List Exchange) (e : Effect) : Prop where
  found : e = .store (.setTripStatus trip .courierFound) ↔ FoundSomebody trip past
  struck : e = .store (.setTripStatus trip .courierNotFound) ↔ StruckDeadline trip past
  first : FoundSomebody trip past ∨ StruckDeadline trip past → Untouched past
  writes : ∀ id status, e = .store (.setTripStatus id status) → id = trip ∧
    (status = .courierFound ∨ status = .courierNotFound ∨
      status = .courierAssigned ∧ ∃ x ∈ past, ∃ courier, x.bound? = some (trip, courier))
  binds : ∀ id courier, e = .store (.assignCourier id courier) → id = trip
  ends : ∀ id outcome, e = .finishRun id outcome → id = trip ∧ Ending trip past outcome

/-! ## Between the reports -/

variable {α β : Type} {trip : Uuid} {past : List Exchange} {e : Effect}

/-- Neither report is due. -/
def Idle (trip : Uuid) (past : List Exchange) : Prop :=
  ¬ FoundSomebody trip past ∧ ¬ StruckDeadline trip past

/-- Neither report is due, and reading the trip makes none due. -/
def Calm (trip : Uuid) (past : List Exchange) : Prop :=
  Idle trip past ∧ ∀ x rest, past = x :: rest → strikes x = false

/-- An effect that a search may ask for at any time when no report is due. -/
def quiet : Effect → Bool
  | .store (.setTripStatus ..) | .store (.assignCourier ..) | .finishRun .. => false
  | _ => true

/-- An effect whose reply may make a report due. -/
def watches : Effect → Bool
  | .store (.getTrip _) | .store (.nearestAvailableCourier ..) | .waitUntil _ | .race .. => true
  | _ => false

theorem strikes_eq_false {x : Exchange} (unwatched : watches x.effect = false) :
    strikes x = false := by
  obtain ⟨e, r⟩ := x
  cases e <;> first | rfl | cases unwatched

theorem Asks.of_quiet (idle : Idle trip past) (quiet : quiet e) : Asks trip past e where
  found := ⟨(by rintro rfl; cases quiet), fun found => absurd found idle.1⟩
  struck := ⟨(by rintro rfl; cases quiet), fun struck => absurd struck idle.2⟩
  first due := absurd due (not_or.2 idle)
  writes := by rintro id status rfl; cases quiet
  binds := by rintro id courier rfl; cases quiet
  ends := by rintro id outcome rfl; cases quiet

theorem calm_cons {x : Exchange} (unwatched : watches x.effect = false) :
    Calm trip (x :: past) := by
  refine ⟨⟨?_, ?_⟩, ?_⟩
  · rintro ⟨⟩; cases unwatched
  · rintro ⟨⟩; cases unwatched
  · rintro y rest same
    cases same
    exact strikes_eq_false unwatched

theorem calm_nil : Calm trip [] := ⟨⟨nofun, nofun⟩, fun _ _ => nofun⟩

theorem Calm.read (calm : Calm trip past) (r : Except DispatchError (Option Trip)) :
    Calm trip (⟨.store (.getTrip trip), r⟩ :: past) := by
  refine ⟨⟨nofun, ?_⟩, ?_⟩
  · rintro ⟨_, struck, _⟩
    rw [calm.2 _ _ rfl] at struck
    cases struck
  · rintro _ _ ⟨⟩
    rfl

theorem calm_tick {deadline due now : Nat} : Calm trip (⟨.race deadline due, .tick now⟩ :: past) :=
  ⟨⟨nofun, nofun⟩, by rintro _ _ ⟨⟩; rfl⟩

theorem calm_nobody {p : GeoPoint} {radius : Float} :
    Calm trip (⟨.store (.nearestAvailableCourier p radius), .ok none⟩ :: past) :=
  ⟨⟨nofun, nofun⟩, by rintro _ _ ⟨⟩; rfl⟩

theorem calm_unseen {p : GeoPoint} {radius : Float} {err : DispatchError} :
    Calm trip (⟨.store (.nearestAvailableCourier p radius), .error err⟩ :: past) :=
  ⟨⟨nofun, nofun⟩, by rintro _ _ ⟨⟩; rfl⟩

theorem idle_of_strikes {x : Exchange} (struck : strikes x) : Idle trip (x :: past) := by
  constructor
  · rintro ⟨⟩
    cases struck
  · rintro ⟨⟩
    cases struck

theorem Untouched.next (h : Untouched past) {x : Exchange} (unwritten : x.written? = none)
    (unbound : x.bound? = none) : Untouched (x :: past) := by
  intro y member
  rcases List.mem_cons.1 member with rfl | old
  · exact ⟨unwritten, unbound⟩
  · exact h y old

theorem Untouched.hopeful (h : Untouched past) : Hopeful trip past := by
  intro x member t written
  rw [(h x member).1] at written
  cases written

theorem Hopeful.next (h : Hopeful trip past) {x : Exchange} (unwritten : x.written? = none) :
    Hopeful trip (x :: past) := by
  intro y member
  rcases List.mem_cons.1 member with rfl | old
  · simp [unwritten]
  · exact h y old

/-! ## Parts of a search -/

/-- How a search ends: no report is due, and there is a reason for its outcome. -/
def Ends (trip : Uuid) (past : List Exchange) : Option MatchOutcome → Prop
  | none => Idle trip past
  | some outcome => Idle trip past ∧ Ending trip past outcome

variable {fin : List Exchange → Option β → Prop}

/-- Reading the trip either ends the search or shows the trip alive. -/
theorem meets_tripGone {f : Option MatchOutcome → Job β} (idle : Idle trip past)
    (hopeful : Hopeful trip past)
    (gone : ∀ r outcome, Ends trip (⟨.store (.getTrip trip), r⟩ :: past) (some outcome) →
      Meets (Asks trip) fin (⟨.store (.getTrip trip), r⟩ :: past) (f (some outcome)))
    (alive : ∀ t : Trip, t.status ≠ .cancelled →
      Meets (Asks trip) fin (⟨.store (.getTrip trip), .ok (some t)⟩ :: past) (f none)) :
    Meets (Asks trip) fin past (tripGone trip >>= f) := by
  refine ⟨.of_quiet idle rfl, fun r _ => ?_⟩
  have hopeful : Hopeful trip (⟨.store (.getTrip trip), r⟩ :: past) := hopeful.next rfl
  rcases r with err | _ | t
  · exact gone _ _ ⟨⟨nofun, nofun⟩, .unread err past, .inr hopeful⟩
  · exact gone _ _ ⟨⟨nofun, nofun⟩, .missing past, .inr hopeful⟩
  · change Meets _ _ _ (f (if t.status = .cancelled then some .cancelled else none))
    split
    · next finished =>
      refine gone _ _ ⟨⟨nofun, fun struck => ?_⟩, .cancelled _, .inr hopeful⟩
      cases struck
      contradiction
    · next there => exact alive t there

theorem meets_goneOr {outcome : MatchOutcome} (calm : Calm trip past) (hopeful : Hopeful trip past)
    (failed : outcome = .aborted ∨ outcome = .assignmentFailed) :
    Meets (Asks trip) (Ends trip) past (goneOr trip outcome) := by
  refine meets_tripGone calm.1 hopeful (fun r outcome ended => ended) fun t alive => ?_
  exact ⟨(calm.read _).1, .kept past alive failed, .inr (hopeful.next rfl)⟩

/-- A report that is due is told if it is accepted; then nothing is due, and nothing else was
written. -/
theorem meets_report {settleDelay : Nat} {status : TripStatus}
    {f : Except DispatchError Trip → Job β}
    (due : Asks trip past (.store (.setTripStatus trip status)))
    (accepted : ∀ past' t, Calm trip past' → (∃ x ∈ past', x.written? = some (trip, status, t)) →
      (∀ x ∈ past, x ∈ past') →
      (∀ x ∈ past', x ∈ past ∨ ∀ p, x.written? = some p → p = (trip, status, t)) →
      Meets (Asks trip) fin past' (f (.ok t)))
    (refused : ∀ err, Meets (Asks trip) fin
      (⟨.store (.setTripStatus trip status), .error err⟩ :: past) (f (.error err))) :
    Meets (Asks trip) fin past ((Trip.reportStatus settleDelay trip status).result >>= f) := by
  -- Telling the status leaves nothing due and writes nothing more.
  refine Trip.meets_report (fun t past' => Calm trip past' ∧
      (∃ x ∈ past', x.written? = some (trip, status, t)) ∧ (∀ x ∈ past, x ∈ past') ∧
      ∀ x ∈ past', x ∈ past ∨ ∀ p, x.written? = some p → p = (trip, status, t))
    due (fun t => ?_) (fun t past' e kept asks => ⟨.of_quiet kept.1.1 ?_, fun r => ?_⟩)
    (fun t past' ⟨calm, written, before, only⟩ => accepted past' t calm written before only) refused
  · refine ⟨calm_cons rfl, ⟨_, List.mem_cons_self, rfl⟩, fun _ => List.mem_cons_of_mem _, ?_⟩
    intro x member
    rcases List.mem_cons.1 member with rfl | old
    · exact .inr fun p written => (Option.some.inj written).symm
    · exact .inl old
  · cases asks <;> rfl
  · obtain ⟨-, ⟨x, member, written⟩, before, only⟩ := kept
    refine ⟨calm_cons (by cases asks <;> rfl), ⟨x, by simp [member], written⟩,
      fun y old => by simp [before y old], fun y member => ?_⟩
    rcases List.mem_cons.1 member with rfl | old
    · exact .inr fun p written => by cases asks <;> cases written
    · exact only y old

/-- A search stays hopeful as long as it reports otherwise. -/
theorem Hopeful.reported {past' : List Exchange} {status : TripStatus} {t : Trip}
    (h : Hopeful trip past) (other : status ≠ .courierNotFound)
    (only : ∀ x ∈ past', x ∈ past ∨ ∀ p, x.written? = some p → p = (trip, status, t)) :
    Hopeful trip past' := by
  intro x member t' written
  rcases only x member with old | same
  · exact h x old t' written
  · cases same _ written
    exact other rfl

/-- A report that is not due may only be that of a binding that was accepted. -/
theorem asks_assigned (idle : Idle trip past)
    (bound : ∃ x ∈ past, ∃ courier, x.bound? = some (trip, courier)) :
    Asks trip past (.store (.setTripStatus trip .courierAssigned)) where
  found := ⟨nofun, fun found => absurd found idle.1⟩
  struck := ⟨nofun, fun struck => absurd struck idle.2⟩
  first due := absurd due (not_or.2 idle)
  writes := by rintro id status ⟨⟩; exact ⟨rfl, .inr (.inr ⟨rfl, bound⟩)⟩
  binds := nofun
  ends := nofun

theorem asks_found (found : FoundSomebody trip past) (untouched : Untouched past) :
    Asks trip past (.store (.setTripStatus trip .courierFound)) where
  found := ⟨fun _ => found, fun _ => rfl⟩
  struck := ⟨nofun, fun struck => by cases found; cases struck⟩
  first _ := untouched
  writes := by rintro id status ⟨⟩; exact ⟨rfl, .inl rfl⟩
  binds := nofun
  ends := nofun

theorem asks_struck (struck : StruckDeadline trip past) (untouched : Untouched past) :
    Asks trip past (.store (.setTripStatus trip .courierNotFound)) where
  found := ⟨nofun, fun found => by cases struck; cases found⟩
  struck := ⟨fun _ => struck, fun _ => rfl⟩
  first _ := untouched
  writes := by rintro id status ⟨⟩; exact ⟨rfl, .inr (.inl rfl)⟩
  binds := nofun
  ends := nofun

theorem asks_bind (idle : Idle trip past) (courier : Uuid) :
    Asks trip past (.store (.assignCourier trip courier)) where
  found := ⟨nofun, fun found => absurd found idle.1⟩
  struck := ⟨nofun, fun struck => absurd struck idle.2⟩
  first due := absurd due (not_or.2 idle)
  writes := nofun
  binds := by rintro id courier ⟨⟩; rfl
  ends := nofun

variable (m : MatchingConfig) (settleDelay : Nat)

theorem meets_confirm {courier : Uuid} {x : Exchange} (calm : Calm trip past)
    (hopeful : Hopeful trip past) (member : x ∈ past) (bound : x.bound? = some (trip, courier)) :
    Meets (Asks trip) (Ends trip) past (confirm settleDelay trip courier) := by
  refine meets_report (asks_assigned calm.1 ⟨x, member, courier, bound⟩) ?_ fun err => ?_
  · intro past' t calm _ before only
    exact ⟨calm.1, .assigned (before x member) bound, .inr (hopeful.reported (by decide) only)⟩
  · cases err with
    | tripClosed id old =>
      refine ⟨.of_quiet (calm_cons rfl).1 rfl, fun _ _ => ?_⟩
      exact ⟨(calm_cons rfl).1, .cancelled _, .inr ((hopeful.next rfl).next rfl)⟩
    | _ => exact ⟨(calm_cons rfl).1, .refused past nofun, .inr (hopeful.next rfl)⟩

theorem meets_bindFound (courier : Uuid) (calm : Calm trip past) (hopeful : Hopeful trip past) :
    Meets (Asks trip) (Ends trip) past (bindFound settleDelay trip courier) := by
  refine ⟨asks_bind calm.1 courier, fun r _ => ?_⟩
  cases r with
  | error err => exact meets_goneOr (calm_cons rfl) (hopeful.next rfl) (.inr rfl)
  | ok done =>
    refine ⟨.of_quiet (calm_cons rfl).1 rfl, fun _ _ => ?_⟩
    exact meets_confirm settleDelay (calm_cons rfl) ((hopeful.next rfl).next rfl)
      (List.mem_cons_of_mem _ List.mem_cons_self) rfl

theorem meets_take (courier : Uuid) (found : FoundSomebody trip past)
    (untouched : Untouched past) :
    Meets (Asks trip) (Ends trip) past (take settleDelay trip courier) := by
  have hopeful : Hopeful trip past := untouched.hopeful
  refine meets_report (asks_found found untouched) ?_ fun err => ?_
  · intro past' t calm _ _ only
    have hopeful := hopeful.reported (by decide) only
    refine meets_tripGone calm.1 hopeful (fun r outcome ended => ended) fun t alive => ?_
    exact meets_bindFound settleDelay courier (calm.read _) (hopeful.next rfl)
  · exact meets_goneOr (calm_cons rfl) (hopeful.next rfl) (.inl rfl)

/-- How a tick ends: with the search, or with nothing due and nothing done. -/
def Looked (trip : Uuid) (past : List Exchange) : Option (Option MatchOutcome) → Prop
  | none => Idle trip past
  | some none => Calm trip past ∧ Untouched past
  | some (some outcome) => Ends trip past (some outcome)

theorem meets_look (pickup : GeoPoint) (calm : Calm trip past) (untouched : Untouched past) :
    Meets (Asks trip) (Looked trip) past (look m settleDelay trip pickup) := by
  refine meets_tripGone calm.1 untouched.hopeful (fun r outcome ended => ended) fun t alive => ?_
  have untouched : Untouched (⟨.store (.getTrip trip), .ok (some t)⟩ :: past) :=
    untouched.next rfl rfl
  refine ⟨.of_quiet (calm.read _).1 rfl, fun r _ => ?_⟩
  rcases r with err | _ | c
  · exact ⟨calm_unseen, untouched.next rfl rfl⟩
  · exact ⟨calm_nobody, untouched.next rfl rfl⟩
  · refine Meets.map ((meets_take settleDelay c.id (.intro past alive) (untouched.next rfl rfl)).mono
      (fun _ _ h => h) fun past o ended => ?_)
    cases o <;> exact ended

theorem meets_giveUp {x : Exchange} (struck : strikes x) (untouched : Untouched (x :: past)) :
    Meets (Asks trip) (Ends trip) (x :: past) (giveUp settleDelay trip) := by
  refine meets_tripGone (idle_of_strikes struck) untouched.hopeful (fun r outcome ended => ended)
    fun t alive => ?_
  have untouched : Untouched (⟨.store (.getTrip trip), .ok (some t)⟩ :: x :: past) :=
    untouched.next rfl rfl
  refine meets_report (asks_struck (.intro past struck alive) untouched) ?_ fun err => ?_
  · exact fun past' t calm ⟨x, member, written⟩ _ _ =>
      ⟨calm.1, .notFound member written, .inl rfl⟩
  · cases err with
    | tripClosed id old =>
      exact ⟨(calm_cons rfl).1, .cancelled _, .inr (untouched.hopeful.next rfl)⟩
    | _ => exact ⟨(calm_cons rfl).1, .refused _ nofun, .inr (untouched.hopeful.next rfl)⟩

theorem meets_rounds (pickup : GeoPoint) (deadline n due : Nat) (calm : Calm trip past)
    (untouched : Untouched past) :
    Meets (Asks trip) (Ends trip) past (rounds m settleDelay trip pickup deadline n due) := by
  induction n generalizing due past with
  | zero =>
    refine ⟨.of_quiet calm.1 rfl, fun _ _ => ?_⟩
    exact meets_giveUp settleDelay rfl (untouched.next rfl rfl)
  | succ n ih =>
    refine ⟨.of_quiet calm.1 rfl, fun alarm _ => ?_⟩
    cases alarm with
    | deadline => exact meets_giveUp settleDelay rfl (untouched.next rfl rfl)
    | tick now =>
      refine (meets_look m settleDelay pickup calm_tick (untouched.next rfl rfl)).bind
        (fun _ broken => broken) fun past' found ended => ?_
      cases found with
      | some outcome => exact ended
      | none => exact ih _ ended.1 ended.2

theorem meets_run (pickup : GeoPoint) :
    Meets (Asks trip) (Ends trip) [] (run m settleDelay trip pickup) := by
  refine ⟨.of_quiet calm_nil.1 rfl, fun start _ => ?_⟩
  change Meets _ _ _ (if m.tick = 0 then .panic else rounds m settleDelay trip pickup ..)
  split
  · exact (calm_cons rfl).1
  · refine meets_rounds m settleDelay pickup _ _ _ (calm_cons rfl) ?_
    exact fun x member => by cases List.mem_singleton.1 member; exact ⟨rfl, rfl⟩

/-- A search that holds a slot frees it last. -/
def Freed (trip : Uuid) (past : List Exchange) : Option MatchOutcome → Prop
  | none => Idle trip past
  | some outcome => ∃ rest, past = ⟨.finishRun trip outcome, ()⟩ :: rest

theorem asks_finish {outcome : MatchOutcome} (ended : Ends trip past (some outcome)) :
    Asks trip past (.finishRun trip outcome) where
  found := ⟨nofun, fun found => absurd found ended.1.1⟩
  struck := ⟨nofun, fun struck => absurd struck ended.1.2⟩
  first due := absurd due (not_or.2 ended.1)
  writes := nofun
  binds := nofun
  ends := by rintro id outcome ⟨⟩; exact ⟨rfl, ended.2⟩

theorem meets_supervised (pickup : GeoPoint) :
    Meets (Asks trip) (Freed trip) [] (supervised m settleDelay trip pickup) :=
  (meets_run m settleDelay pickup).bind (fun _ broken => broken) fun past _ ended =>
    ⟨asks_finish ended, fun _ _ => ⟨past, rfl⟩⟩

end CourierDispatch.Search
