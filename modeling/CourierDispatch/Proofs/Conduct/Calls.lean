import CourierDispatch.Proofs.Conduct.Rule
import CourierDispatch.Service.World

/-!
# Every job keeps to the conduct

One lemma for each job of the service, from the quote of a route to the answer of a request, and from
them `Origin.meets`: whatever a process began with, it behaves. Most jobs ask for plain effects only.
The jobs that report, bind or let go are followed through what a report leaves behind
(`meets_reportStatus`).
-/

namespace CourierDispatch

open Job

variable {offered : Prop} {past : List Exchange}

/-! ## Jobs with plain effects -/

namespace Quote

variable (c : RouteConfig) (pricer : Pricer)

theorem inquires_resolve (input : PlaceInput) : Attempt.Only (·.inquires) (resolve input) := by
  unfold resolve
  split
  · exact ⟨rfl, fun _ => trivial⟩
  · exact Attempt.only_pure _

theorem looksUp_fetch (key : String) (pickup dropoff : GeoPoint) :
    Attempt.Only (·.looksUp) (fetch c key pickup dropoff) :=
  Attempt.only_bind ⟨rfl, fun _ => trivial⟩ fun _ =>
    Attempt.only_bind (Attempt.only_perform rfl) fun _ => Attempt.only_pure _

theorem looksUp_directionsBetween (pickup dropoff : GeoPoint) :
    Attempt.Only (·.looksUp) (directionsBetween c pickup dropoff) := by
  unfold directionsBetween
  split
  · refine Attempt.only_bind (Attempt.only_perform rfl) fun _ => ?_
    exact Attempt.only_bind ⟨rfl, fun _ => trivial⟩ fun _ => Attempt.only_pure _
  · refine Attempt.only_bind (Attempt.only_perform rfl) fun kept => ?_
    split <;> refine Attempt.only_bind (Attempt.only_perform rfl) fun _ => ?_
    · exact Attempt.only_pure _
    · exact Attempt.only_bind (looksUp_fetch c ..) fun _ => Attempt.only_pure _
    · exact Attempt.only_bind (looksUp_fetch c ..) fun _ => Attempt.only_pure _

theorem inquires_directionsBetween (pickup dropoff : GeoPoint) :
    Attempt.Only (·.inquires) (directionsBetween c pickup dropoff) :=
  (looksUp_directionsBetween c pickup dropoff).mono fun _ => Effect.inquires_of_looksUp

theorem inquires_pricedProducts (pickup : GeoPoint) (distance : UInt64) :
    Attempt.Only (·.inquires) (pricedProducts c pricer pickup distance) :=
  Attempt.only_bind (Attempt.only_store rfl) fun _ => Attempt.only_pure _

theorem inquires_make (pickup dropoff : PlaceInput) :
    Attempt.Only (·.inquires) (make c pricer pickup dropoff) := by
  refine Attempt.only_bind (inquires_resolve _) fun pickup => ?_
  refine Attempt.only_bind (inquires_resolve _) fun dropoff => ?_
  refine Attempt.only_bind (inquires_directionsBetween c ..) fun way => ?_
  exact Attempt.only_bind (inquires_pricedProducts c pricer ..) fun _ => Attempt.only_pure _

theorem looksUp_chargedDistance (t : Trip) : Attempt.Only (·.looksUp) (chargedDistance c t) := by
  unfold chargedDistance
  split
  · exact Attempt.only_pure _
  · exact Attempt.only_bind (looksUp_directionsBetween c ..) fun _ => Attempt.only_pure _

theorem inquires_chargedDistance (t : Trip) : Attempt.Only (·.inquires) (chargedDistance c t) :=
  (looksUp_chargedDistance c t).mono fun _ => Effect.inquires_of_looksUp

theorem inquires_priceTrip (t : Trip) (product : Product) :
    Attempt.Only (·.inquires) (priceTrip c pricer t product) :=
  Attempt.only_bind (inquires_chargedDistance c t) fun _ => Attempt.only_pure _

end Quote

/-- An effect in the computation of a fare: an inquiry, or the record of the cost. -/
def Effect.prices (trip : Uuid) (e : Effect) : Prop :=
  e.inquires ∨ ∃ cost, e = .store (.setTripCost trip cost)

theorem Fare.prices_record (c : RouteConfig) (pricer : Pricer) (trip courier : Uuid) :
    Attempt.Only (·.prices trip) (record c pricer trip courier) := by
  refine Attempt.only_bind (Attempt.only_store (.inl rfl)) fun t => ?_
  refine Attempt.only_bind (Attempt.only_orElse _ t) fun t => ?_
  refine Attempt.only_bind (Attempt.only_store (.inl rfl)) fun bound => ?_
  refine Attempt.only_bind (Attempt.only_orElse _ bound) fun bound => ?_
  refine Attempt.only_bind (Attempt.only_store (.inl rfl)) fun product => ?_
  refine Attempt.only_bind (Attempt.only_orElse _ product) fun product => ?_
  refine Attempt.only_bind ((Quote.inquires_priceTrip c pricer t product).mono fun _ => .inl)
    fun cost => ?_
  exact Attempt.only_bind (Attempt.only_store (.inr ⟨cost, rfl⟩)) fun _ => Attempt.only_pure _

theorem Effect.plain_of_prices {trip : Uuid} {e : Effect} (prices : e.prices trip) : e.plain := by
  rcases prices with inquires | ⟨cost, rfl⟩
  · exact plain_of_inquires inquires
  · rfl

/-! ## Reports -/

/-- What a report has left behind when it ends. -/
def Reported (offered : Prop) (trip : Uuid) (status : TripStatus) (past : List Exchange) :
    Option (Except DispatchError Trip) → Prop
  | none => False
  | some (.ok t) => (∃ x ∈ past, x.written? = some (trip, status, t)) ∧ Said past ∧
      (offered → ∀ id, Owes id past → id = trip ∧ status.final ∧ t.courierId.isSome)
  | some (.error e) => Clear offered past ∧
      ∃ x ∈ past, x = ⟨.store (.setTripStatus trip status), .error e⟩

theorem meets_reportStatus (settleDelay : Nat) (trip : Uuid) (status : TripStatus)
    (clear : Clear offered past) :
    Meets (Conduct offered) (Reported offered trip status) past
      (Trip.reportStatus settleDelay trip status).run := by
  rw [Trip.run_reportStatus]
  refine ⟨.of_parts trivial trivial (.otherwise clear.said nofun) (by simp) (by simp), fun r _ => ?_⟩
  cases r with
  | error e => exact ⟨clear.next rfl, _, by simp, rfl⟩
  | ok t =>
    -- Telling the status leaves the report the last one, and owes nothing more.
    let kept (past : List Exchange) : Prop := lastReport past = some (trip, status, t) ∧
      (offered → ∀ id, Owes id past → id = trip ∧ status.final ∧ t.courierId.isSome)
    have start : kept (⟨.store (.setTripStatus trip status), .ok t⟩ :: past) := by
      refine ⟨rfl, fun ours id owes => ?_⟩
      rcases owes with ⟨_, _, written, final, bound⟩ | ⟨-, owes⟩
      · cases written
        exact ⟨rfl, final, bound⟩
      · exact absurd owes (clear.paid ours id)
    have telling : Meets (fun past e => kept past ∧ Trip.Telling t status e) _ _ _ :=
      (Trip.only_tell settleDelay t status).meets start (fun past e kept asks => ⟨kept, asks⟩)
        fun past e r kept asks => by
          have unwritten : Exchange.written? ⟨e, r⟩ = none := by cases asks <;> rfl
          have silent : e.reports = false := by cases asks <;> rfl
          exact ⟨by rw [lastReport_cons]; simp [silent, kept.1],
            fun ours id owes => kept.2 ours id (owes_of_unwritten unwritten owes)⟩
    have told : Meets (Conduct offered) _ _ _ := (telling.and (Trip.meets_tell settleDelay)).mono
      (fun past e asks => by
        obtain ⟨⟨kept, asks⟩, speaks⟩ := asks
        refine .of_parts ?_ ?_ speaks ?_ ?_ <;> cases asks <;> try simp [UsesDrawn, Announces]
        next channel u listed unbound notice =>
          exact ⟨trip, status, t, kept.1, listed, unbound, notice⟩)
      fun _ _ ended => ended
    refine told.bind (fun past broken => ?_) fun past _ ended => ?_
    · cases broken.2.1
    · exact ⟨mem_of_lastReport ended.1.1.1, ended.2.2, ended.1.1.2⟩

theorem clear_of_reported {trip : Uuid} {status : TripStatus} {t : Trip}
    (open_ : status.final = false) (reported : Reported offered trip status past (some (.ok t))) :
    Clear offered past := by
  obtain ⟨-, said, owing⟩ := reported
  refine ⟨fun ours id owes => ?_, said⟩
  have final := (owing ours id owes).2.1
  rw [open_] at final
  cases final

/-- A report of a status that is not final. -/
theorem behaves_reportStatus (settleDelay : Nat) (trip : Uuid) (status : TripStatus)
    (open_ : status.final = false) :
    Behaves offered (Trip.reportStatus settleDelay trip status).run := fun _ clear =>
  (meets_reportStatus settleDelay trip status clear).mono (fun _ _ h => h) fun _ o reported => by
    match o, reported with
    | some (.ok t), reported => exact clear_of_reported open_ reported
    | some (.error e), reported => exact reported.1

/-- A courier is let go for a trip that was seen to be over. -/
theorem conduct_release {trip : Uuid} (said : Said past) (finished : ∃ x ∈ past, x.Closes trip) :
    Conduct offered past (.store (.unassignTrip trip)) where
  fresh := trivial
  announced := trivial
  speaks := .otherwise said nofun
  justified _ _ same := by cases same; exact finished
  sturdy _ _ _ _ same := by cases same

/-! ## Searches -/

namespace Search

variable (m : MatchingConfig) (settleDelay : Nat) (trip : Uuid)

theorem behaves_tripGone : Behaves offered (tripGone trip) := by
  refine behaves_act rfl fun r => ?_
  rcases r with _ | _ | t <;> exact behaves_pure _

theorem behaves_goneOr (outcome : MatchOutcome) : Behaves offered (goneOr trip outcome) :=
  (behaves_tripGone trip).map

theorem behaves_assign (courier : Uuid) : Behaves offered (assign trip courier).run := by
  refine .attempt (a := Attempt.store _) (.of_attempt (Attempt.only_store rfl)) fun _ => ?_
  exact .of_attempt (Attempt.only_perform rfl)

theorem behaves_confirm (courier : Uuid) : Behaves offered (confirm settleDelay trip courier) := by
  intro past clear
  refine (meets_reportStatus settleDelay trip .courierAssigned clear).bind ?_ fun past r reported => ?_
  · exact fun _ broken => broken.elim
  · cases r with
    | ok t => exact clear_of_reported rfl reported
    | error e =>
      obtain ⟨clear, x, member, rfl⟩ := reported
      cases e with
      | tripClosed id s =>
        exact ⟨conduct_release clear.said ⟨_, member, rfl⟩, fun r _ => clear.next rfl⟩
      | _ => exact clear

theorem behaves_bindFound (courier : Uuid) :
    Behaves offered (bindFound settleDelay trip courier) := by
  refine (behaves_assign trip courier).bind fun r => ?_
  cases r with
  | error e => exact behaves_goneOr trip _
  | ok _ => exact behaves_confirm settleDelay trip courier

theorem behaves_take (courier : Uuid) : Behaves offered (take settleDelay trip courier) := by
  refine (behaves_reportStatus settleDelay trip .courierFound rfl).bind fun r => ?_
  cases r with
  | error e => exact behaves_goneOr trip _
  | ok t =>
    refine (behaves_tripGone trip).bind fun gone => ?_
    cases gone with
    | some outcome => exact behaves_pure _
    | none => exact behaves_bindFound settleDelay trip courier

theorem behaves_look (pickup : GeoPoint) : Behaves offered (look m settleDelay trip pickup) := by
  refine (behaves_tripGone trip).bind fun gone => ?_
  cases gone with
  | some outcome => exact behaves_pure _
  | none =>
    refine behaves_act rfl fun found => ?_
    rcases found with _ | _ | c
    · exact behaves_pure _
    · exact behaves_pure _
    · exact (behaves_take settleDelay trip c.id).map

theorem behaves_giveUp : Behaves offered (giveUp settleDelay trip) := by
  refine (behaves_tripGone trip).bind fun gone => ?_
  cases gone with
  | some outcome => exact behaves_pure _
  | none =>
    refine (behaves_reportStatus settleDelay trip .courierNotFound rfl).bind fun r => ?_
    rcases r with e | t
    · cases e <;> exact behaves_pure _
    · exact behaves_pure _

theorem behaves_rounds (pickup : GeoPoint) (deadline n due : Nat) :
    Behaves offered (rounds m settleDelay trip pickup deadline n due) := by
  induction n generalizing due with
  | zero => exact behaves_act rfl fun _ => behaves_giveUp settleDelay trip
  | succ n ih =>
    refine behaves_act rfl fun alarm => ?_
    cases alarm with
    | deadline => exact behaves_giveUp settleDelay trip
    | tick now =>
      refine (behaves_look m settleDelay trip pickup).bind fun found => ?_
      cases found with
      | some outcome => exact behaves_pure _
      | none => exact ih _

theorem behaves_run (pickup : GeoPoint) : Behaves offered (run m settleDelay trip pickup) := by
  refine behaves_act rfl fun start => ?_
  change Behaves offered (if m.tick = 0 then .panic else rounds m settleDelay trip pickup ..)
  split
  · exact behaves_panic
  · exact behaves_rounds m settleDelay trip pickup _ _ _

theorem behaves_supervised (pickup : GeoPoint) :
    Behaves offered (supervised m settleDelay trip pickup) :=
  (behaves_run m settleDelay trip pickup).bind fun _ => behaves_act rfl fun _ => behaves_pure _

end Search

/-! ## Calls -/

namespace Dispatch

variable (c : Config)

/-- A trip is recorded under the id that was drawn for it. -/
theorem behaves_createTrip (requester : Uuid) (pickup dropoff : PlaceInput) :
    Behaves offered (createTrip c requester pickup dropoff).run := by
  refine .attempt (.of_inquiry (Quote.inquires_make c.routing c.pricer pickup dropoff)) fun q => ?_
  intro past clear
  refine ⟨conduct_of_plain rfl clear, fun id _ => ?_⟩
  refine ⟨.of_parts rfl trivial (.otherwise (clear.said.next rfl) nofun) (by simp) (by simp),
    fun r _ => ?_⟩
  have clear : Clear offered (⟨.store (.createTrip id _), r⟩ :: ⟨.drawId, id⟩ :: past) :=
    (clear.next rfl).next rfl
  cases r with
  | error e => exact clear
  | ok t => exact behaves_act rfl (fun _ => behaves_pure _) _ clear

/-- A trip that is over lets its courier go. -/
theorem behaves_reportTripStatus (trip : Uuid) (status : TripStatus) :
    Behaves offered (reportTripStatus c trip status).run := by
  intro past clear
  refine (meets_reportStatus c.settleDelay trip status clear).bind ?_ fun past r reported => ?_
  · exact fun _ broken => broken.elim
  · cases r with
    | error e => exact reported.1
    | ok t =>
      obtain ⟨⟨x, member, written⟩, said, owing⟩ := reported
      change Meets _ _ past
        (if status.final ∧ t.courierId.isSome then Search.unassign trip >>= fun _ => pure t
          else pure t : Attempt Trip).run
      split
      · next finished =>
        refine ⟨conduct_release said ⟨x, member, x.closes_of_written written finished.1⟩, ?_⟩
        intro r _
        suffices Clear offered (⟨.store (.unassignTrip trip), r⟩ :: past) by cases r <;> exact this
        refine ⟨?_, said.next rfl⟩
        rintro ours id (charges | ⟨kept, owes⟩)
        · exact absurd charges (Exchange.not_charges rfl id)
        · exact kept (by rw [(owing ours id owes).1])
      · next open_ => exact ⟨fun ours id owes => open_ (owing ours id owes).2, said⟩

theorem behaves_assignCourier (trip courier : Uuid) :
    Behaves offered (assignCourier c trip courier).run :=
  .attempt (Search.behaves_assign trip courier) fun _ =>
    behaves_reportStatus c.settleDelay trip .courierAssigned rfl

theorem plain_nearbyCouriers (point : GeoPoint) (radius : Option Float) :
    Attempt.Only (·.plain) (nearbyCouriers c point radius) := by
  simp only [nearbyCouriers]
  split
  · exact Attempt.only_store rfl
  · exact Attempt.only_throw _

theorem plain_tripDetails (trip : Uuid) : Attempt.Only (·.plain) (tripDetails trip) :=
  Attempt.only_bind (Attempt.only_store rfl) fun t => Attempt.only_orElse _ t

theorem plain_autocomplete (input : String) : Attempt.Only (·.plain) (autocomplete input) := by
  unfold autocomplete
  split
  · exact Attempt.only_pure _
  · exact ⟨rfl, fun _ => trivial⟩

theorem inquires_computeRoute (pickup dropoff : PlaceInput) :
    Attempt.Only (·.inquires) (computeRoute c pickup dropoff) :=
  Attempt.only_bind (Quote.inquires_make c.routing c.pricer pickup dropoff) fun _ =>
    Attempt.only_pure _

end Dispatch

namespace Http

variable (c : Config)

theorem behaves_createCourier (n : NewCourier) : Behaves offered (createCourier n).run := by
  refine .attempt (.of_attempt (Attempt.only_store rfl)) fun product => ?_
  cases product with
  | none => exact behaves_pure _
  | some _ =>
    intro past clear
    refine ⟨conduct_of_plain rfl clear, fun id _ => ?_⟩
    refine ⟨conduct_of_plain rfl (clear.next rfl), fun now _ => ?_⟩
    have clear := (clear.next (x := ⟨.drawId, id⟩) rfl).next (x := ⟨.stamp, now⟩) rfl
    exact ⟨.of_parts ⟨rfl, rfl⟩ trivial (.otherwise clear.said nofun) (by simp) (by simp),
      fun _ _ => clear.next rfl⟩

theorem behaves_createProduct (n : NewProduct) : Behaves offered (createProduct n).run := by
  unfold createProduct
  split
  · exact behaves_pure _
  · intro past clear
    refine ⟨conduct_of_plain rfl clear, fun id _ => ?_⟩
    have clear := clear.next (x := ⟨.drawId, id⟩) rfl
    exact ⟨.of_parts rfl trivial (.otherwise clear.said nofun) (by simp) (by simp),
      fun _ _ => clear.next rfl⟩

theorem behaves_reportStatus (id : Uuid) (status : TripStatus) :
    Behaves offered (reportStatus c id status).run := by
  unfold reportStatus
  split
  · exact behaves_pure _
  · exact Dispatch.behaves_reportTripStatus c id status

theorem behaves_answer {α : Type} {encode : α → Json.Value} {a : Attempt α}
    (h : Behaves offered a.run) : Behaves offered (answer encode a) := by
  refine h.bind fun r => ?_
  cases r <;> exact behaves_pure _

theorem behaves_reading {α : Type} {part : Except Response α} {next : α → Job Response}
    (h : ∀ a, Behaves offered (next a)) : Behaves offered (reading part next) := by
  cases part with
  | ok a => exact h a
  | error r => exact behaves_pure _

theorem behaves_serve (r : Request) (e : Endpoint) (m : Method) :
    Behaves offered (serve c r e m) := by
  unfold serve
  split
  · exact behaves_reading fun _ => behaves_answer (Dispatch.behaves_createTrip c _ _ _)
  · exact behaves_reading fun _ => behaves_answer (.of_attempt (Dispatch.plain_tripDetails _))
  · exact behaves_reading fun _ => behaves_answer (behaves_reportStatus c _ _)
  · exact behaves_reading fun _ => behaves_answer (.of_attempt (Attempt.only_store rfl))
  · exact behaves_reading fun _ => behaves_answer (Dispatch.behaves_assignCourier c _ _)
  · exact behaves_reading fun _ => behaves_answer (.of_inquiry (Dispatch.inquires_computeRoute c ..))
  · exact behaves_reading fun _ => behaves_answer (behaves_createCourier _)
  · exact behaves_reading fun _ => behaves_answer (.of_attempt (Dispatch.plain_nearbyCouriers c ..))
  · refine behaves_reading fun id => behaves_answer (.of_attempt ?_)
    exact Attempt.only_bind (Attempt.only_store rfl) fun found => Attempt.only_orElse _ found
  · exact behaves_reading fun _ => behaves_answer (.of_attempt (Attempt.only_store rfl))
  · exact behaves_reading fun _ => behaves_answer (.of_attempt (Attempt.only_store rfl))
  · exact behaves_reading fun _ => behaves_answer (behaves_createProduct _)
  · exact behaves_answer (.of_attempt (Attempt.only_store rfl))
  · exact behaves_reading fun _ => behaves_answer (.of_attempt (Dispatch.plain_autocomplete _))
  · exact behaves_pure _
  · exact behaves_pure _
  · exact behaves_act rfl fun _ => behaves_pure _
  · exact behaves_act rfl fun _ => behaves_pure _

theorem behaves_handleAt (r : Request) (e : Endpoint) : Behaves offered (handleAt c r e) := by
  unfold handleAt
  split
  · exact behaves_pure _
  · split
    · exact behaves_pure _
    · split
      · split
        · exact (behaves_serve c r e _).map
        · exact behaves_serve c r e _
      · exact behaves_pure _

theorem behaves_handle (r : Request) : Behaves offered (handle c r) := by
  unfold handle
  split
  · exact behaves_pure _
  · split
    · exact behaves_pure _
    · exact behaves_handleAt c r _

theorem behaves_openFeed (h : Handshake) : Behaves offered (openFeed c h) := by
  simp only [openFeed]
  split
  · exact behaves_pure _
  · split
    · exact (behaves_handle c _).bind fun _ => behaves_pure _
    · split
      · exact behaves_pure _
      · split
        · exact behaves_pure _
        · exact behaves_act rfl fun _ => behaves_pure _

end Http

namespace Call

variable (c : Config)

theorem behaves_bareReport (bare : ¬ offered) (settleDelay : Nat) (trip : Uuid)
    (status : TripStatus) : Behaves offered (Trip.reportStatus settleDelay trip status).run :=
  fun _ clear => (meets_reportStatus settleDelay trip status clear).mono (fun _ _ h => h)
    fun _ o reported => ⟨fun ours => absurd ours bare, by
      match o, reported with
      | some (.ok _), reported => exact reported.2.1
      | some (.error _), reported => exact reported.1.said⟩

theorem behaves_bareRelease (bare : ¬ offered) (trip : Uuid) :
    Behaves offered (Search.unassign trip).run :=
  fun _ clear => ⟨⟨trivial, trivial, .otherwise clear.said nofun, fun ours => absurd ours bare,
    fun ours => absurd ours bare⟩, fun _ _ => clear.next rfl⟩

theorem behaves_answerOf {α : Type} {wrap : α → Answer} {a : Attempt α}
    (h : Behaves offered a.run) : Behaves offered (answerOf wrap a) := by
  refine h.bind fun r => ?_
  cases r <;> exact behaves_pure _

theorem behaves_job (call : Call) : Behaves (call.offered = true) (call.job c) := by
  cases call with
  | createTrip => exact behaves_answerOf (Dispatch.behaves_createTrip c _ _ _)
  | computeRoute => exact behaves_answerOf (.of_inquiry (Dispatch.inquires_computeRoute c ..))
  | reportTripStatus => exact behaves_answerOf (Dispatch.behaves_reportTripStatus c _ _)
  | assignCourier => exact behaves_answerOf (Dispatch.behaves_assignCourier c _ _)
  | nearbyCouriers => exact behaves_answerOf (.of_attempt (Dispatch.plain_nearbyCouriers c ..))
  | tripDetails => exact behaves_answerOf (.of_attempt (Dispatch.plain_tripDetails _))
  | autocomplete => exact behaves_answerOf (.of_attempt (Dispatch.plain_autocomplete _))
  | resolve => exact behaves_answerOf (.of_inquiry (Quote.inquires_resolve _))
  | quote => exact behaves_answerOf (.of_inquiry (Quote.inquires_make c.routing c.pricer ..))
  | directions =>
    exact behaves_answerOf (.of_inquiry (Quote.inquires_directionsBetween c.routing ..))
  | pricedProducts =>
    exact behaves_answerOf (.of_inquiry (Quote.inquires_pricedProducts c.routing c.pricer ..))
  | priceTrip => exact behaves_answerOf (.of_inquiry (Quote.inquires_priceTrip c.routing c.pricer ..))
  | confirmPickup | suggest | cacheGet | cacheSet =>
    exact behaves_answerOf (.of_attempt ⟨rfl, fun _ => trivial⟩)
  | startRun => exact behaves_act rfl fun _ => behaves_pure _
  | search => exact (Search.behaves_run c.matching c.settleDelay _ _).map
  | bind => exact behaves_answerOf (Search.behaves_assign _ _)
  | sleep => exact behaves_act rfl fun _ => behaves_pure _
  | request r => exact (Http.behaves_handle c r).map
  | openFeed h => exact (Http.behaves_openFeed c h).map
  | reportStatus => exact behaves_answerOf (behaves_bareReport Bool.false_ne_true _ _ _)
  | release => exact behaves_answerOf (behaves_bareRelease Bool.false_ne_true _)

end Call

/-! ## Processes -/

namespace World

theorem prices_fareJob (c : Config) (trip courier : Uuid) :
    (fareJob c trip courier).Only (·.prices trip) fun _ => True :=
  Only.bind (Fare.prices_record c.routing c.pricer trip courier) fun _ _ => trivial

theorem only_fareJob (c : Config) (trip courier : Uuid) :
    (fareJob c trip courier).Only (·.plain) fun _ => True :=
  (prices_fareJob c trip courier).mono fun _ => Effect.plain_of_prices

theorem behaves_runJob (c : Config) (trip : Uuid) (pickup : GeoPoint) :
    Behaves offered (runJob c trip pickup) :=
  (Search.behaves_supervised c.matching c.settleDelay trip pickup).map

variable {calls : Call → Prop} {w w' : World}

/-- What a process is for decides nothing: it keeps to the conduct, and in the end owes nothing. -/
theorem Origin.meets {c : Config} {task : Task} {job : Job Result} (h : Origin calls c task job) :
    Meets (Conduct (∀ call, calls call → call.offered))
      (fun past _ => Clear (∀ call, calls call → call.offered) past) [] job := by
  have clear {offered : Prop} : Clear offered [] := clear_nil
  cases h with
  | @call call allowed =>
    exact ((Call.behaves_job c call).map [] clear).mono
      (fun _ _ conduct => conduct.mono fun ours => ours call allowed)
      fun _ _ ended => ⟨fun ours => ended.paid (ours call allowed), ended.said⟩
  | fare trip courier => exact Behaves.of_only (only_fareJob c trip courier) [] clear
  | run trip pickup => exact behaves_runJob c trip pickup [] clear

/-- What a process asked for kept to the conduct. -/
theorem Traced.conduct_along (h : w.Traced calls) {pid : Nat} {later earlier : List Exchange}
    {x : Exchange} (split : w.trace pid = later ++ x :: earlier) :
    Conduct (∀ call, calls call → call.offered) earlier x.effect := by
  have known : pid < w.processes.length := Nat.lt_of_not_le fun new => by
    rw [h.trace_eq_nil new] at split
    exact List.append_ne_nil_of_right_ne_nil later (List.cons_ne_nil x earlier) split.symm
  obtain ⟨start, job, origin, path, -⟩ := h.path pid _ (List.getElem?_eq_getElem known)
  rw [split] at path
  exact origin.meets.asked path

/-- An effect that was answered kept to the conduct. -/
theorem Traced.conduct_at (h : w.Traced calls) {later earlier : List Event} {x : Event}
    (split : w.history = later ++ x :: earlier) :
    Conduct (∀ call, calls call → call.offered) (traceOf earlier x.process) x.effect := by
  have along : w.trace x.process =
      traceOf later x.process ++ x.exchange :: traceOf earlier x.process := by
    rw [trace, split, traceOf_append, traceOf_cons, if_pos rfl]
  exact h.conduct_along along

/-- An effect that is answered keeps to the conduct. -/
theorem Noted.conduct {pid : Nat} {v : Verdict} {e : Effect} {r : e.Reply}
    (step : Noted calls w pid v e r w') :
    Conduct (∀ call, calls call → call.offered) (w.trace pid) e := by
  obtain ⟨task, p, start, next, -, -, origin, path, -⟩ := step.asked
  exact (origin.meets.of_leads path).1

end World

end CourierDispatch
