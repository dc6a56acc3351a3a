import CourierDispatch.Proofs.Store.Change
import CourierDispatch.Proofs.Trip.Report
import CourierDispatch.Proofs.Trip.Write
import CourierDispatch.Search

/-!
# The deeds of a search

What a process has done to the records for its trip is the list of its deeds: statuses written,
couriers bound, couriers let go. What a search may ask for next is told from its deeds so far
(`Search.Acts`): it reports that somebody or nobody was found before it has done anything, binds
whom it found when that was reported, and reports and lets go only behind a binding. What it has
done in the end is told from its outcome (`Search.Settled`).
-/

namespace CourierDispatch

/-- Something that was done to the records for a trip. -/
inductive Deed
  | wrote (trip : Uuid) (status : TripStatus)
  | bound (trip courier : Uuid)
  | released (trip : Uuid)
  deriving DecidableEq, Repr

def Exchange.deed? : Exchange → Option Deed
  | ⟨.store (.setTripStatus trip status), .ok _⟩ => some (.wrote trip status)
  | ⟨.store (.assignCourier trip courier), .ok ()⟩ => some (.bound trip courier)
  | ⟨.store (.unassignTrip trip), .ok ()⟩ => some (.released trip)
  | _ => none

namespace Exchange

variable {x : Exchange} {trip courier : Uuid} {status : TripStatus}

theorem deed?_eq_wrote :
    x.deed? = some (.wrote trip status) ↔ ∃ t, x.written? = some (trip, status, t) := by
  unfold deed? written?
  split <;> simp [eq_comm]

theorem deed?_eq_bound : x.deed? = some (.bound trip courier) ↔ x.bound? = some (trip, courier) := by
  unfold deed? bound?
  split <;> simp

theorem deed?_eq_released :
    x.deed? = some (.released trip) ↔ x = ⟨.store (.unassignTrip trip), .ok ()⟩ := by
  constructor
  · intro h
    unfold deed? at h
    split at h <;> cases h
    rfl
  · rintro rfl
    rfl

end Exchange

/-- The deeds on a path, the first one first. -/
def deedsOf (past : List Exchange) : List Deed := (past.filterMap Exchange.deed?).reverse

theorem deedsOf_cons (x : Exchange) (past : List Exchange) :
    deedsOf (x :: past) = deedsOf past ++ x.deed?.toList := by
  rw [deedsOf, deedsOf, List.filterMap_cons]
  cases x.deed? <;> simp

theorem mem_deedsOf {past : List Exchange} {d : Deed} :
    d ∈ deedsOf past ↔ ∃ x ∈ past, x.deed? = some d := by
  rw [deedsOf, List.mem_reverse, List.mem_filterMap]

theorem deedsOf_idle {x : Exchange} {past : List Exchange} (idle : x.deed? = none) :
    deedsOf (x :: past) = deedsOf past := by
  rw [deedsOf_cons, idle]
  simp

/-- An exchange that shows a trip to be over: it closes the trip, or reads a final status. -/
def Exchange.ShowsOver (trip : Uuid) (x : Exchange) : Prop :=
  x.Closes trip ∨ ∃ t : Trip, x = ⟨.store (.getTrip trip), .ok (some t)⟩ ∧ t.status.final

namespace Search

open Job

/-- A courier was seen in the latest look around. -/
inductive Spotted (pickup : GeoPoint) (radius : Float) (courier : Uuid) : List Exchange → Prop
  | seen {c : Courier} (past : List Exchange) (named : c.id = courier) :
      Spotted pickup radius courier
        (⟨.store (.nearestAvailableCourier pickup radius), .ok (some c)⟩ :: past)
  | since {x : Exchange} {past : List Exchange}
      (elsewhere : ∀ p r, x.effect ≠ .store (.nearestAvailableCourier p r))
      (before : Spotted pickup radius courier past) : Spotted pickup radius courier (x :: past)

/-- The latest look around that showed somebody. -/
theorem Spotted.look {pickup : GeoPoint} {radius : Float} {courier : Uuid} {past : List Exchange}
    (spotted : Spotted pickup radius courier past) :
    ∃ newer c older, past =
        newer ++ ⟨.store (.nearestAvailableCourier pickup radius), .ok (some c)⟩ :: older ∧
      c.id = courier ∧ ∀ x ∈ newer, ∀ p r, x.effect ≠ .store (.nearestAvailableCourier p r) := by
  induction spotted with
  | @seen c past named => exact ⟨[], c, past, rfl, named, by simp⟩
  | @since x past elsewhere _ ih =>
    obtain ⟨newer, c, older, rfl, named, later⟩ := ih
    exact ⟨x :: newer, c, older, rfl, named, List.forall_mem_cons.2 ⟨elsewhere, later⟩⟩

/-- What a search for a trip may ask of the store. -/
def touches (trip : Uuid) : StoreOp → Bool
  | .setTripStatus id _ | .assignCourier id _ | .unassignTrip id => id = trip
  | op => op.reads

/-- What a search asks for, told from its deeds so far. -/
structure Acts (trip : Uuid) (pickup : GeoPoint) (radius : Float) (past : List Exchange)
    (e : Effect) : Prop where
  touches : ∀ op, e = .store op → touches trip op
  writes : ∀ id status, e = .store (.setTripStatus id status) →
    (status = .courierFound ∨ status = .courierNotFound) ∧ deedsOf past = [] ∨
      status = .courierAssigned ∧
        ∃ c, deedsOf past = [.wrote trip .courierFound, .bound trip c]
  binds : ∀ id courier, e = .store (.assignCourier id courier) →
    deedsOf past = [.wrote trip .courierFound] ∧ Spotted pickup radius courier past
  releases : ∀ id, e = .store (.unassignTrip id) →
    ∃ c, deedsOf past = [.wrote trip .courierFound, .bound trip c]
  fares : ∀ id courier, e = .startFare id courier →
    id = trip ∧ deedsOf past = [.wrote trip .courierFound, .bound trip courier]

/-- What a search has done when it ends. -/
inductive Settled (trip : Uuid) (past : List Exchange) : MatchOutcome → Prop
  | notFound (done : deedsOf past = [.wrote trip .courierNotFound]) : Settled trip past .notFound
  | assigned {c : Uuid}
      (done : deedsOf past =
        [.wrote trip .courierFound, .bound trip c, .wrote trip .courierAssigned]) :
      Settled trip past (.assigned c)
  | failed (done : deedsOf past = [.wrote trip .courierFound]) :
      Settled trip past .assignmentFailed
  /-- It has bound nobody. -/
  | idle {o : MatchOutcome} (quiet : o = .cancelled ∨ o = .tripMissing ∨ o = .aborted)
      (seen : o = .cancelled → ∃ x ∈ past, x.ShowsOver trip)
      (done : deedsOf past = [] ∨ deedsOf past = [.wrote trip .courierFound]) :
      Settled trip past o
  /-- The trip was closed behind the binding, and the courier was let go or could not be. -/
  | closed {c : Uuid} {r : Except DispatchError Unit} (seen : ∃ x ∈ past, x.ShowsOver trip)
      (release : ⟨.store (.unassignTrip trip), r⟩ ∈ past)
      (done : deedsOf past = [.wrote trip .courierFound, .bound trip c] ++
        (Exchange.deed? ⟨.store (.unassignTrip trip), r⟩).toList) :
      Settled trip past .cancelled
  /-- The binding could not be reported, though the trip was not closed. The courier is kept. -/
  | kept {c : Uuid} {err : DispatchError}
      (refused : ⟨.store (.setTripStatus trip .courierAssigned), .error err⟩ ∈ past)
      (open_ : ∀ id old, err ≠ .tripClosed id old)
      (done : deedsOf past = [.wrote trip .courierFound, .bound trip c]) :
      Settled trip past .aborted

/-- What a search has done when it ends, if it does not break down. -/
def Ended (trip : Uuid) (past : List Exchange) (o : Option MatchOutcome) : Prop :=
  ∀ outcome, o = some outcome → Settled trip past outcome

/-! ## Effects that do nothing -/

variable {α β : Type} {trip courier : Uuid} {pickup : GeoPoint} {radius : Float}
  {past : List Exchange} {e : Effect} {x : Exchange} {o : MatchOutcome}
  {fin : List Exchange → Option β → Prop}

/-- An effect that changes no record and starts no fare. -/
def still : Effect → Bool
  | .store op => op.reads
  | .startFare .. => false
  | _ => true

theorem deed?_of_still (same : still x.effect) : x.deed? = none := by
  obtain ⟨e, r⟩ := x
  cases e with
  | store op => cases op <;> first | rfl | cases same
  | _ => rfl

theorem Acts.of_still (same : still e) : Acts trip pickup radius past e where
  touches := by
    rintro op rfl
    cases op <;> first | rfl | cases same
  writes := by rintro _ _ rfl; cases same
  binds := by rintro _ _ rfl; cases same
  releases := by rintro _ rfl; cases same
  fares := by rintro _ _ rfl; cases same

/-- What a search had done when it ended, it has done behind such an effect. -/
theorem Settled.next (settled : Settled trip past o) (same : still x.effect) :
    Settled trip (x :: past) o := by
  have same : deedsOf (x :: past) = deedsOf past := deedsOf_idle (deed?_of_still same)
  have later : ∀ y ∈ past, y ∈ x :: past := fun _ => List.mem_cons_of_mem x
  cases settled with
  | notFound done => exact .notFound (same.trans done)
  | assigned done => exact .assigned (same.trans done)
  | failed done => exact .failed (same.trans done)
  | idle quiet seen done =>
    exact .idle quiet (fun cancelled => (seen cancelled).imp fun _ => .imp_left (later _))
      (by rwa [same])
  | closed seen release done =>
    exact .closed (seen.imp fun _ => .imp_left (later _)) (later _ release) (same.trans done)
  | kept refused open_ done => exact .kept (later _ refused) open_ (same.trans done)

/-- What a search may have done so far. -/
inductive Doing (trip : Uuid) : List Deed → Prop
  | nothing : Doing trip []
  | lost : Doing trip [.wrote trip .courierNotFound]
  | found : Doing trip [.wrote trip .courierFound]
  | bound (c : Uuid) : Doing trip [.wrote trip .courierFound, .bound trip c]
  | assigned (c : Uuid) :
      Doing trip [.wrote trip .courierFound, .bound trip c, .wrote trip .courierAssigned]
  | released (c : Uuid) : Doing trip [.wrote trip .courierFound, .bound trip c, .released trip]

theorem Acts.doing (asks : Acts trip pickup radius past e) (before : Doing trip (deedsOf past))
    (r : e.Reply) : Doing trip (deedsOf (⟨e, r⟩ :: past)) := by
  by_cases done : Exchange.deed? ⟨e, r⟩ = none
  · rwa [deedsOf_idle done]
  · rw [deedsOf_cons]
    unfold Exchange.deed? at done ⊢
    split
    · next id status t same =>
      cases same
      obtain rfl : id = trip := of_decide_eq_true (asks.touches _ rfl)
      rcases asks.writes _ _ rfl with ⟨rfl | rfl, none_⟩ | ⟨rfl, c, bound⟩
      · rw [none_]; exact .found
      · rw [none_]; exact .lost
      · rw [bound]; exact .assigned c
    · next id c same =>
      cases same
      obtain rfl : id = trip := of_decide_eq_true (asks.touches _ rfl)
      rw [(asks.binds _ _ rfl).1]
      exact .bound c
    · next id same =>
      cases same
      obtain rfl : id = trip := of_decide_eq_true (asks.touches _ rfl)
      obtain ⟨c, bound⟩ := asks.releases _ rfl
      rw [bound]
      exact .released c
    · simp at done

theorem doing_of_leads {start job : Job α} {fin : List Exchange → Option α → Prop}
    (meets : Meets (Acts trip pickup radius) fin [] start) (path : start.Leads past job) :
    Doing trip (deedsOf past) := by
  induction path with
  | here => exact .nothing
  | next before r _ ih => exact (meets.of_leads before).1.doing ih r

/-! ## Parts of a search -/

/-- Reading the trip either ends the search or shows the trip there. -/
theorem acts_tripGone {f : Option MatchOutcome → Job β}
    (gone : ∀ r outcome, (outcome = .cancelled ∨ outcome = .tripMissing ∨ outcome = .aborted) →
      (outcome = .cancelled → Exchange.ShowsOver trip ⟨.store (.getTrip trip), r⟩) →
      Meets (Acts trip pickup radius) fin (⟨.store (.getTrip trip), r⟩ :: past) (f (some outcome)))
    (there : ∀ t : Trip, Meets (Acts trip pickup radius) fin
      (⟨.store (.getTrip trip), .ok (some t)⟩ :: past) (f none)) :
    Meets (Acts trip pickup radius) fin past (tripGone trip >>= f) := by
  refine ⟨.of_still rfl, fun r _ => ?_⟩
  rcases r with err | _ | t
  · exact gone _ _ (.inr (.inr rfl)) nofun
  · exact gone _ _ (.inr (.inl rfl)) nofun
  · change Meets _ _ _ (f (if t.status = .cancelled then some .cancelled else none))
    split
    · next cancelled =>
      exact gone _ _ (.inl rfl) fun _ => .inr ⟨t, rfl, by rw [cancelled]; rfl⟩
    · exact there t

/-- A search that ends because its trip is gone has bound nobody. -/
theorem ended_of_gone {r : Except DispatchError (Option Trip)}
    (quiet : o = .cancelled ∨ o = .tripMissing ∨ o = .aborted)
    (seen : o = .cancelled → Exchange.ShowsOver trip ⟨.store (.getTrip trip), r⟩)
    (done : deedsOf past = [] ∨ deedsOf past = [.wrote trip .courierFound]) :
    Settled trip (⟨.store (.getTrip trip), r⟩ :: past) o :=
  .idle quiet (fun cancelled => ⟨_, List.mem_cons_self, seen cancelled⟩)
    (by rwa [deedsOf_idle (deed?_of_still rfl)])

theorem acts_goneOr (done : deedsOf past = [] ∨ deedsOf past = [.wrote trip .courierFound])
    (otherwise : ∀ t, Settled trip (⟨.store (.getTrip trip), .ok (some t)⟩ :: past) o) :
    Meets (Acts trip pickup radius) (Ended trip) past (goneOr trip o) := by
  refine acts_tripGone (fun r outcome quiet seen => ?_) fun t => ?_
  · rintro _ ⟨⟩
    exact ended_of_gone quiet seen done
  · rintro _ ⟨⟩
    exact otherwise t

/-- A report that is accepted is one more deed, and what was seen before was seen. -/
theorem acts_report {settleDelay : Nat} {status : TripStatus}
    {f : Except DispatchError Trip → Job β}
    (asked : Acts trip pickup radius past (.store (.setTripStatus trip status)))
    (accepted : ∀ past' t, deedsOf past' = deedsOf past ++ [.wrote trip status] →
      (∀ c, Spotted pickup radius c past → Spotted pickup radius c past') →
      Meets (Acts trip pickup radius) fin past' (f (.ok t)))
    (refused : ∀ err, Meets (Acts trip pickup radius) fin
      (⟨.store (.setTripStatus trip status), .error err⟩ :: past) (f (.error err))) :
    Meets (Acts trip pickup radius) fin past
      ((Trip.reportStatus settleDelay trip status).result >>= f) := by
  refine Trip.meets_report
    (fun _ past' => deedsOf past' = deedsOf past ++ [.wrote trip status] ∧
      ∀ c, Spotted pickup radius c past → Spotted pickup radius c past')
    asked (fun t => ⟨deedsOf_cons _ _, fun c => .since nofun⟩) ?_
    (fun t past' kept => accepted past' t kept.1 kept.2) refused
  intro t past' e kept asks
  have same : still e := by cases asks <;> rfl
  have elsewhere : ∀ p r, e ≠ .store (.nearestAvailableCourier p r) := by cases asks <;> nofun
  exact ⟨.of_still same, fun r => ⟨by rw [deedsOf_idle (deed?_of_still same), kept.1],
    fun c spotted => .since elsewhere (kept.2 c spotted)⟩⟩

variable (m : MatchingConfig) (settleDelay : Nat)

theorem acts_confirm {c : Uuid}
    (done : deedsOf past = [.wrote trip .courierFound, .bound trip c]) :
    Meets (Acts trip pickup radius) (Ended trip) past (confirm settleDelay trip c) := by
  have asked : Acts trip pickup radius past (.store (.setTripStatus trip .courierAssigned)) := {
    touches := by rintro _ ⟨⟩; exact decide_eq_true rfl
    writes := by rintro _ _ ⟨⟩; exact .inr ⟨rfl, c, done⟩
    binds := nofun
    releases := nofun
    fares := nofun }
  refine acts_report asked (fun past' t written _ => ?_) fun err => ?_
  · rintro _ ⟨⟩
    exact .assigned (written.trans (by rw [done]; rfl))
  · have done : deedsOf (⟨.store (.setTripStatus trip .courierAssigned), .error err⟩ :: past) =
        [.wrote trip .courierFound, .bound trip c] := (deedsOf_idle rfl).trans done
    cases err with
    | tripClosed id old =>
      refine ⟨?_, fun r _ => ?_⟩
      · exact {
          touches := by rintro _ ⟨⟩; exact decide_eq_true rfl
          writes := nofun
          binds := nofun
          releases := by rintro _ ⟨⟩; exact ⟨c, done⟩
          fares := nofun }
      · rintro _ ⟨⟩
        exact .closed ⟨_, List.mem_cons_of_mem _ List.mem_cons_self, .inl rfl⟩
          List.mem_cons_self (by rw [deedsOf_cons, done])
    | _ =>
      rintro _ ⟨⟩
      exact .kept List.mem_cons_self nofun done

theorem acts_bindFound {c : Uuid} (done : deedsOf past = [.wrote trip .courierFound])
    (spotted : Spotted pickup radius c past) :
    Meets (Acts trip pickup radius) (Ended trip) past (bindFound settleDelay trip c) := by
  refine ⟨?_, fun r _ => ?_⟩
  · exact {
      touches := by rintro _ ⟨⟩; exact decide_eq_true rfl
      writes := nofun
      binds := by rintro _ _ ⟨⟩; exact ⟨done, spotted⟩
      releases := nofun
      fares := nofun }
  · cases r with
    | error err =>
      have done := (deedsOf_idle (x := ⟨.store (.assignCourier trip c), .error err⟩) rfl).trans done
      exact acts_goneOr (.inr done) fun t => .failed ((deedsOf_idle rfl).trans done)
    | ok _ =>
      have done : deedsOf (⟨.store (.assignCourier trip c), .ok ()⟩ :: past) =
          [.wrote trip .courierFound, .bound trip c] := by
        rw [deedsOf_cons, done]
        rfl
      refine ⟨?_, fun _ _ => acts_confirm settleDelay ((deedsOf_idle rfl).trans done)⟩
      exact {
        touches := nofun
        writes := nofun
        binds := nofun
        releases := nofun
        fares := by rintro _ _ ⟨⟩; exact ⟨rfl, done⟩ }

/-- The first report of a search is that somebody or nobody was found. -/
theorem Acts.of_first {status : TripStatus} (none_ : deedsOf past = [])
    (first : status = .courierFound ∨ status = .courierNotFound) :
    Acts trip pickup radius past (.store (.setTripStatus trip status)) where
  touches := by rintro _ ⟨⟩; exact decide_eq_true rfl
  writes := by rintro _ _ ⟨⟩; exact .inl ⟨first, none_⟩
  binds := nofun
  releases := nofun
  fares := nofun

theorem acts_take {c : Uuid} (none_ : deedsOf past = []) (spotted : Spotted pickup radius c past) :
    Meets (Acts trip pickup radius) (Ended trip) past (take settleDelay trip c) := by
  refine acts_report (.of_first none_ (.inl rfl)) (fun past' t written seen => ?_) fun err => ?_
  · have done : deedsOf past' = [.wrote trip .courierFound] := by rw [written, none_]; rfl
    refine acts_tripGone (fun r outcome quiet seen => ?_) fun t => ?_
    · rintro _ ⟨⟩
      exact ended_of_gone quiet seen (.inr done)
    · exact acts_bindFound settleDelay ((deedsOf_idle rfl).trans done)
        (.since nofun (seen c spotted))
  · have done := (deedsOf_idle
      (x := ⟨.store (.setTripStatus trip .courierFound), .error err⟩) rfl).trans none_
    exact acts_goneOr (.inl done) fun t =>
      .idle (.inr (.inr rfl)) nofun (.inl ((deedsOf_idle rfl).trans done))

/-- How a tick ends: with the search, or with nothing done. -/
def Glanced (trip : Uuid) (past : List Exchange) : Option (Option MatchOutcome) → Prop
  | some (some outcome) => Settled trip past outcome
  | some none => deedsOf past = []
  | none => True

theorem acts_look (none_ : deedsOf past = []) :
    Meets (Acts trip pickup m.searchRadius) (Glanced trip) past
      (look m settleDelay trip pickup) := by
  refine acts_tripGone (fun r outcome quiet seen => ended_of_gone quiet seen (.inl none_)) fun t => ?_
  have none_ := (deedsOf_idle (x := ⟨.store (.getTrip trip), .ok (some t)⟩) rfl).trans none_
  refine ⟨.of_still rfl, fun r _ => ?_⟩
  rcases r with err | _ | c
  · exact (deedsOf_idle rfl).trans none_
  · exact (deedsOf_idle rfl).trans none_
  · refine Meets.map ((acts_take settleDelay ((deedsOf_idle rfl).trans none_) (.seen _ rfl)).mono
      (fun _ _ h => h) fun past o ended => ?_)
    cases o with
    | none => trivial
    | some outcome => exact ended outcome rfl

theorem acts_giveUp (none_ : deedsOf past = []) :
    Meets (Acts trip pickup radius) (Ended trip) past (giveUp settleDelay trip) := by
  refine acts_tripGone (fun r outcome quiet seen => ?_) fun t => ?_
  · rintro _ ⟨⟩
    exact ended_of_gone quiet seen (.inl none_)
  · have none_ := (deedsOf_idle (x := ⟨.store (.getTrip trip), .ok (some t)⟩) rfl).trans none_
    refine acts_report (.of_first none_ (.inr rfl)) (fun past' t written _ => ?_) fun err => ?_
    · rintro _ ⟨⟩
      exact .notFound (written.trans (by rw [none_]; rfl))
    · have none_ := (deedsOf_idle
        (x := ⟨.store (.setTripStatus trip .courierNotFound), .error err⟩) rfl).trans none_
      cases err with
      | tripClosed id old =>
        rintro _ ⟨⟩
        exact .idle (.inl rfl) (fun _ => ⟨_, List.mem_cons_self, .inl rfl⟩) (.inl none_)
      | _ =>
        rintro _ ⟨⟩
        exact .idle (.inr (.inr rfl)) nofun (.inl none_)

theorem acts_rounds (deadline n due : Nat) (none_ : deedsOf past = []) :
    Meets (Acts trip pickup m.searchRadius) (Ended trip) past
      (rounds m settleDelay trip pickup deadline n due) := by
  induction n generalizing due past with
  | zero => exact ⟨.of_still rfl, fun _ _ => acts_giveUp settleDelay ((deedsOf_idle rfl).trans none_)⟩
  | succ n ih =>
    refine ⟨.of_still rfl, fun alarm _ => ?_⟩
    cases alarm with
    | deadline => exact acts_giveUp settleDelay ((deedsOf_idle rfl).trans none_)
    | tick now =>
      refine (acts_look m settleDelay ((deedsOf_idle rfl).trans none_)).bind (fun _ _ => nofun)
        fun past' found ended => ?_
      cases found with
      | some outcome => rintro _ ⟨⟩; exact ended
      | none => exact ih _ ended

theorem acts_run :
    Meets (Acts trip pickup m.searchRadius) (Ended trip) [] (run m settleDelay trip pickup) := by
  refine ⟨.of_still rfl, fun start _ => ?_⟩
  change Meets _ _ _ (if m.tick = 0 then .panic else rounds m settleDelay trip pickup ..)
  split
  · exact fun _ => nofun
  · exact acts_rounds m settleDelay _ _ _ rfl

theorem acts_supervised :
    Meets (Acts trip pickup m.searchRadius) (Ended trip) []
      (supervised m settleDelay trip pickup) :=
  (acts_run m settleDelay).bind (fun _ _ => nofun) fun _ outcome ended =>
    ⟨.of_still rfl, fun _ _ => by rintro _ ⟨⟩; exact (ended outcome rfl).next rfl⟩

end Search

end CourierDispatch
