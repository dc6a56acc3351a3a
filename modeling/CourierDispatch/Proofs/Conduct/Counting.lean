import CourierDispatch.Proofs.Conduct.Composition

/-!
# A report is counted at once

A process counts a status right behind the write that was accepted, and nowhere else (`Counts`), so the
exchanges of a process tell for which report each count is (`countedIn`). What was accepted was counted,
but for the last report of all, if its process has not got on yet (`writesIn_eq`).
-/

namespace CourierDispatch

open Job

/-- The status that an effect counts. -/
def Effect.counts? : Effect → Option TripStatus
  | .countTransition status => some status
  | _ => none

/-- A report that was accepted: the trip and the status. -/
def Exchange.report? (x : Exchange) : Option (Uuid × TripStatus) :=
  x.written?.map fun (trip, status, _) => (trip, status)

/-- The report that was accepted last of all. -/
def reportedLast (past : List Exchange) : Option (Uuid × TripStatus) :=
  past.head?.bind Exchange.report?

/-- A status is counted right behind a report of it, and only there. -/
def Counts (past : List Exchange) (e : Effect) : Prop :=
  e.counts? = (reportedLast past).map Prod.snd

/-- A job that keeps to it, and leaves no report uncounted. -/
def Tallies {α : Type} (j : Job α) : Prop :=
  ∀ past, reportedLast past = none → Meets Counts (fun past _ => reportedLast past = none) past j

/-- An effect that neither reports nor counts. -/
def Effect.mute : Effect → Bool
  | .store (.setTripStatus ..) | .countTransition _ => false
  | _ => true

variable {α β : Type} {past : List Exchange} {e : Effect}

theorem Effect.mute_of_ordinary (ordinary : e.ordinary) : e.mute := by
  cases e with
  | store op => cases op <;> first | rfl | cases ordinary
  | _ => first | rfl | cases ordinary

theorem Effect.mute_of_prices {trip : Uuid} (prices : e.prices trip) : e.mute := by
  rcases prices with inquires | ⟨cost, rfl⟩
  · exact mute_of_ordinary (ordinary_of_inquires inquires)
  · rfl

theorem report?_of_mute (mute : e.mute) (r : e.Reply) : Exchange.report? ⟨e, r⟩ = none := by
  cases e with
  | store op => cases op <;> first | rfl | cases mute
  | _ => rfl

theorem counts_of_mute (mute : e.mute) (settled : reportedLast past = none) : Counts past e := by
  rw [Counts, settled]
  cases e <;> first | rfl | cases mute

/-! ## Every job counts what it reports -/

theorem Tallies.of_only {ends : α → Prop} {j : Job α} (only : j.Only (·.mute) ends) : Tallies j := by
  intro past settled
  have meets : Meets Counts (fun past o => reportedLast past = none ∧ ∃ a, o = some a ∧ ends a) past j :=
    only.meets settled (fun _ _ settled mute => counts_of_mute mute settled)
      fun _ _ r _ mute => report?_of_mute mute r
  exact meets.mono (fun _ _ h => h) fun _ _ h => h.1

theorem tallies_pure (a : α) : Tallies (.done a) := fun _ settled => settled

theorem Tallies.bind {j : Job α} {f : α → Job β} (first : Tallies j) (second : ∀ a, Tallies (f a)) :
    Tallies (j >>= f) := fun past settled =>
  (first past settled).bind (fun _ settled => settled) fun past a => second a past

theorem tallies_perform {e : Effect} (mute : e.mute) : Tallies (Job.perform e) := by
  have only : (Job.perform e).Only (·.mute) fun _ => True := ⟨mute, fun _ => trivial⟩
  exact .of_only only

theorem tallies_reportStatus (settleDelay : Nat) (trip : Uuid) (status : TripStatus) :
    Tallies (Trip.reportStatus settleDelay trip status).run := by
  intro past settled
  rw [Trip.run_reportStatus]
  have unsettled : Counts past (.store (.setTripStatus trip status)) := by
    rw [Counts, settled]
    rfl
  refine ⟨unsettled, fun r _ => ?_⟩
  cases r with
  | error e => rfl
  | ok t =>
    have announced : (Trip.announce t status).Only (·.mute) fun _ => True :=
      Trip.only_announce t status (fun _ => rfl) fun _ _ _ _ _ => rfl
    have paused : Tallies (Job.perform (.sleep settleDelay)) := tallies_perform rfl
    refine ⟨rfl, fun _ _ => ?_⟩
    exact (((Tallies.of_only announced).bind fun _ => paused).bind fun _ => tallies_pure _) _ rfl

theorem tallies_trip (c : Config) (requester : Uuid) (pickup dropoff : PlaceInput) :
    Tallies (Dispatch.createTrip c requester pickup dropoff).run := by
  have quoted : Tallies (Dispatch.quote c pickup dropoff).run :=
    .of_only ((Quote.inquires_make c.routing c.pricer pickup dropoff).mono fun _ inquires =>
      Effect.mute_of_ordinary (Effect.ordinary_of_inquires inquires))
  refine quoted.bind fun r => ?_
  cases r with
  | error e => exact tallies_pure _
  | ok q =>
    refine fun past settled => ⟨counts_of_mute rfl settled, fun id _ => ⟨counts_of_mute rfl rfl, fun r _ => ?_⟩⟩
    cases r with
    | error e => rfl
    | ok t => exact ⟨counts_of_mute rfl rfl, fun _ _ => rfl⟩

theorem tallies_binding (trip courier : Uuid) : Tallies (Search.assign trip courier).run := by
  refine fun past settled => ⟨counts_of_mute rfl settled, fun r _ => ?_⟩
  cases r with
  | error e => rfl
  | ok _ => exact ⟨counts_of_mute rfl rfl, fun _ _ => rfl⟩

theorem tallies_courier (n : Http.NewCourier) : Tallies (Http.createCourier n).run := by
  refine fun past settled => ⟨counts_of_mute rfl settled, fun r _ => ?_⟩
  rcases r with e | _ | p
  · rfl
  · rfl
  · refine ⟨counts_of_mute rfl rfl, fun id _ => ⟨counts_of_mute rfl rfl, fun now _ => ?_⟩⟩
    refine ⟨counts_of_mute rfl rfl, fun r _ => ?_⟩
    cases r <;> rfl

theorem Assembled.tallies {c : Config} {j : Job α} (h : Assembled c j) : Tallies j := by
  induction h with
  | pure a => exact tallies_pure a
  | panic => exact fun _ settled => settled
  | bind _ _ first second => exact first.bind second
  | perform ordinary =>
    exact tallies_perform (Effect.mute_of_ordinary ordinary)
  | report settleDelay trip status => exact tallies_reportStatus settleDelay trip status
  | trip requester pickup dropoff => exact tallies_trip c requester pickup dropoff
  | binding trip courier => exact tallies_binding trip courier
  | courier n => exact tallies_courier n

theorem World.Origin.tallies {c : Config} {calls : Call → Prop} {task : Task} {job : Job Result}
    (h : Origin calls c task job) : Tallies job := by
  rcases h.assembled with assembled | ⟨trip, courier, rfl, rfl⟩
  · exact assembled.tallies
  · exact .of_only ((prices_fareJob c trip courier).mono fun _ => Effect.mute_of_prices)

/-! ## Which report was counted -/

/-- The reports that were counted, the latest first. -/
def countedIn : List Exchange → List (Uuid × TripStatus)
  | [] => []
  | x :: past =>
    (x.effect.counts?.bind fun status => (reportedLast past).map fun (trip, _) => (trip, status)).toList ++
      countedIn past

/-- On a path of a job that counts what it reports, each report that was accepted was counted, but for
one that was accepted just now, and nothing else was. -/
theorem writesIn_eq {start job : Job α} (tallies : Tallies start) (path : start.Leads past job) :
    past.filterMap Exchange.report? = (reportedLast past).toList ++ countedIn past := by
  induction path with
  | here => rfl
  | @next past e next before r _ ih =>
    have counts : Counts past e := ((tallies [] rfl).of_leads before).1
    rw [Counts] at counts
    have last : reportedLast (⟨e, r⟩ :: past) = Exchange.report? ⟨e, r⟩ := rfl
    rw [last, countedIn]
    cases report : Exchange.report? ⟨e, r⟩ with
    | some p =>
      have uncounted : e.counts? = none := by
        cases e with
        | countTransition => cases report
        | _ => rfl
      rw [uncounted] at counts
      rw [List.filterMap_cons_some report, ih, Option.map_eq_none_iff.1 counts.symm, uncounted]
      rfl
    | none =>
      rw [List.filterMap_cons_none report, ih, counts]
      cases reported : reportedLast past <;> rfl

/-- Each count is the count of a report. -/
theorem map_countedIn {start job : Job α} (tallies : Tallies start) (path : start.Leads past job) :
    (countedIn past).map Prod.snd = past.filterMap (·.effect.counts?) := by
  induction path with
  | here => rfl
  | @next past e next before r _ ih =>
    have counts : Counts past e := ((tallies [] rfl).of_leads before).1
    rw [Counts] at counts
    rw [countedIn, List.map_append, ih]
    cases reported : reportedLast past with
    | none =>
      rw [reported] at counts
      have uncounted : e.counts? = none := counts
      rw [List.filterMap_cons_none (f := fun x : Exchange => x.effect.counts?) uncounted, uncounted]
      rfl
    | some p =>
      rw [reported] at counts
      have counted : e.counts? = some p.2 := counts
      rw [List.filterMap_cons_some (f := fun x : Exchange => x.effect.counts?) counted, counted]
      rfl

end CourierDispatch
