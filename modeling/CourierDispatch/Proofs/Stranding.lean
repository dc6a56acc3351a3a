import CourierDispatch.Proofs.Search.Process
import CourierDispatch.Proofs.Service.Trial

/-!
# Couriers that a search leaves bound

A search binds a courier and then reports the binding. If the report is refused because the trip is
closed, the search lets the courier go. If it is refused for another reason, the search ends as
aborted and lets nobody go, so the courier stays bound to a trip that nobody serves
(`strands_iff`). A courier that was bound to a trip is bound to it until somebody lets it go, and
is never bound to it again (`Bindings.held`).
-/

namespace CourierDispatch.World

variable {calls : Call → Prop} {w w' : World} {pid : Nat} {v : Verdict} {e : Effect} {r : e.Reply}
  {trip courier : Uuid} {pickup : GeoPoint} {o : MatchOutcome}

/-! ## From a binding to its release -/

/-- A courier is bound to a trip. -/
def Serves (w : World) (courier trip : Uuid) : Prop :=
  ∃ c, w.store.courier? courier = some c ∧ c.tripId = some trip

/-- The courier of a trip was let go at some time since it was bound. -/
def LetGo (w : World) (trip courier : Uuid) : Prop :=
  ∃ later x earlier, w.history = later ++ x :: earlier ∧
    x.exchange.deed? = some (.released trip) ∧
    ∃ y ∈ earlier, y.exchange.deed? = some (.bound trip courier)

theorem Noted.bound_iff (step : Noted calls w pid v e r w') :
    w'.Bound trip courier ↔
      Exchange.deed? ⟨e, r⟩ = some (.bound trip courier) ∨ w.Bound trip courier := by
  simp only [Bound, step.history, List.mem_cons, exists_eq_or_imp]
  rfl

theorem Noted.letGo_iff (step : Noted calls w pid v e r w') :
    w'.LetGo trip courier ↔
      Exchange.deed? ⟨e, r⟩ = some (.released trip) ∧ w.Bound trip courier ∨
        w.LetGo trip courier := by
  constructor
  · rintro ⟨later, x, earlier, split, released, bound⟩
    rw [step.history] at split
    cases later with
    | nil =>
      obtain ⟨rfl, same⟩ := List.cons.inj split
      exact .inl ⟨released, by rwa [Bound, same]⟩
    | cons y later => exact .inr ⟨later, x, earlier, (List.cons.inj split).2, released, bound⟩
  · rintro (⟨released, bound⟩ | ⟨later, x, earlier, split, released, bound⟩)
    · exact ⟨[], _, w.history, step.history, released, bound⟩
    · exact ⟨⟨w.now, pid, e, r⟩ :: later, x, earlier, by rw [step.history, split]; rfl, released,
        bound⟩

/-- A step ends a binding exactly if it lets the courier of the trip go, and never renews one. -/
theorem Noted.serves_iff (step : Noted calls w pid v e r w') (h : w.Records)
    (bound : w.Bound trip courier) :
    w'.Serves courier trip ↔
      w.Serves courier trip ∧ Exchange.deed? ⟨e, r⟩ ≠ some (.released trip) := by
  obtain ⟨t, found, named⟩ := h.named bound
  have fresh := step.conduct.fresh
  constructor
  · rintro ⟨c', known', serves⟩
    constructor
    · rcases step.courier_step courier with same | ⟨op, a, performed, done, change⟩
      · exact ⟨c', same ▸ known', serves⟩
      · cases performed
        rw [known'] at change
        generalize before : w.store.courier? courier = old at change
        generalize behind : some c' = new at change
        cases change with
        | same => exact ⟨c', before.trans behind.symm, serves⟩
        | recorded asked =>
          cases behind
          subst asked
          rw [fresh.2] at serves
          cases serves
        | located | moved => cases behind; exact ⟨_, before, serves⟩
        | freed => cases behind; cases serves
        | bound asked =>
          -- The store binds nobody to a trip that has a courier.
          cases behind
          cases serves
          subst asked
          obtain ⟨t', -, found', unbound, -⟩ := Store.assignCourier_ok done
          rw [found] at found'
          cases found'
          rw [named] at unbound
          cases unbound
    · intro released
      cases Exchange.deed?_eq_released.1 released
      exact Store.free_of_unassignTrip (step.told nofun)
        (fun id c => h.linked id c trip) courier c' known' serves
  · rintro ⟨⟨c, known, serves⟩, kept⟩
    rcases step.courier_step courier with same | ⟨op, a, performed, done, change⟩
    · exact ⟨c, same ▸ known, serves⟩
    · cases performed
      rw [known] at change
      generalize behind : w'.store.courier? courier = new at change
      cases change with
      | same => exact ⟨c, behind, serves⟩
      | recorded asked named =>
        subst asked named
        rw [(h.fresh.unused pid _ fresh.1).2] at known
        cases known
      | located | moved => exact ⟨_, behind, serves⟩
      | bound _ free =>
        rw [free] at serves
        cases serves
      | freed asked _ _ linked =>
        rw [linked] at serves
        cases serves
        subst asked
        exact absurd (Exchange.deed?_eq_released.2 rfl) kept

structure Bindings (w : World) : Prop extends w.Records where
  /-- A courier that was bound to a trip is bound to it as long as nobody has let it go. -/
  held : ∀ trip courier, w.Bound trip courier →
    (w.Serves courier trip ↔ ¬ w.LetGo trip courier)

theorem bindings_new {config : Config} {around : Surroundings}
    (h : World.new? config around = some w) : w.Bindings := by
  refine ⟨records_new h, ?_⟩
  obtain ⟨bus, rfl⟩ := eq_of_new? h
  rintro trip courier ⟨x, noted, -⟩
  cases noted

theorem Bindings.silent (h : w.Bindings) (same : Silent w w') : w'.Bindings := by
  have records := h.toRecords.silent same
  obtain ⟨-, -, store, history, -, -⟩ := same
  refine ⟨records, ?_⟩
  simp only [Bound, Serves, LetGo, store, history]
  exact h.held

theorem Bindings.noted (h : w.Bindings) (step : Noted calls w pid v e r w')
    (distinct : w'.IdsDistinct) : w'.Bindings where
  toRecords := h.toRecords.noted step distinct
  held trip courier bound := by
    rw [step.letGo_iff]
    rcases step.bound_iff.1 bound with now | before
    · cases Exchange.bound?_eq_some.1 (Exchange.deed?_eq_bound.1 now)
      obtain ⟨-, c, known, serves⟩ := Store.linked_of_assignCourier (step.bound rfl)
      refine iff_of_true ⟨c, known, serves⟩ ?_
      rintro (⟨released, -⟩ | ⟨later, x, earlier, split, -, y, noted, earlier_⟩)
      · cases released
      · -- The trip had a courier before, so this binding would have been refused.
        obtain ⟨t, found, named⟩ := h.named ⟨y, by rw [split]; simp [noted], earlier_⟩
        obtain ⟨t', -, found', unbound, -⟩ := Store.assignCourier_ok (step.bound rfl)
        rw [found] at found'
        cases found'
        rw [named] at unbound
        cases unbound
    · rw [step.serves_iff h.toRecords before, h.held trip courier before, not_or,
        and_comm (a := ¬ w.LetGo trip courier)]
      simp [before]

/-! ## When only status writes fail -/

/-- The store does what it is asked, except that it may refuse to write a status, for any reason. -/
def WritesMayFail (w : World) (m : Move) : Prop :=
  ∀ pid v op, m = .step pid v → w.Asks pid (.store op) →
    (∀ trip status, op ≠ .setTripStatus trip status) → v = .proceed

/-- Does a move refuse at most to write a status? -/
def sparesOthers (w : World) : Move → Bool
  | .step pid v => v = .proceed || (w.asked? pid).any Effect.reports
  | _ => true

theorem writesMayFail_of_spares {m : Move} (spares : w.sparesOthers m) : w.WritesMayFail m := by
  rintro pid v op rfl asks other
  simp only [sparesOthers, asked?_of_asks asks, Option.any_some, Bool.or_eq_true,
    decide_eq_true_eq] at spares
  rcases spares with proceeds | reports
  · exact proceeds
  · cases op <;> first | exact absurd rfl (other _ _) | cases reports

/-- Nobody is refused to let go a courier that was bound before. -/
structure Releases (w : World) : Prop extends w.Bindings where
  granted : ∀ later x earlier trip courier err, w.history = later ++ x :: earlier →
    x.exchange = ⟨.store (.unassignTrip trip), .error err⟩ →
    ∀ y ∈ earlier, y.exchange.deed? ≠ some (.bound trip courier)

theorem Releases.noted (h : w.Releases) (step : Noted calls w pid v e r w')
    (fails : w.WritesMayFail (.step pid v)) (distinct : w'.IdsDistinct) : w'.Releases where
  toBindings := h.toBindings.noted step distinct
  granted later x earlier trip courier err split refused y noted bound := by
    rw [step.history] at split
    cases later with
    | cons z later =>
      exact h.granted later x earlier trip courier err (List.cons.inj split).2 refused y noted bound
    | nil =>
      obtain ⟨rfl, same⟩ := List.cons.inj split
      cases refused
      obtain ⟨t, found, -⟩ := h.named ⟨y, by rwa [same], bound⟩
      rcases step.performed_of fun asks => fails pid v _ rfl asks nofun with
        ⟨a, accepted, -⟩ | ⟨err', -, refused, -⟩
      · cases accepted
      · rw [Store.unassignTrip_refused refused] at found
        cases found

theorem Reachable.releases (reach : w.Reachable WritesMayFail) (distinct : w.IdsDistinct) :
    w.Releases :=
  reach.keeps distinct (fun _ _ _ => enters_any)
    (fun _ _ w h => ⟨bindings_new h, by
      obtain ⟨bus, rfl⟩ := eq_of_new? h
      simp⟩)
    (fun _ _ _ _ same h => ⟨h.toBindings.silent same, by rw [same.history]; exact h.granted⟩)
    fun _ _ _ _ _ _ _ _ fails step distinct h => h.noted step fails distinct

/-! ## Searches that have bound somebody in vain -/

/-- A search has asked to let a courier go only behind its own binding. -/
theorem Searches.bound_before_release (search : w.Searches pid trip pickup)
    {r : Except DispatchError Unit} (release : ⟨.store (.unassignTrip trip), r⟩ ∈ w.trace pid) :
    ∃ later x earlier c, w.history = later ++ x :: earlier ∧
      x.exchange = ⟨.store (.unassignTrip trip), r⟩ ∧
      (∃ y ∈ earlier, y.exchange.deed? = some (.bound trip c)) ∧ .bound trip c ∈ w.deeds pid := by
  obtain ⟨x, noted, own, exchange⟩ := mem_traceOf.1 release
  obtain ⟨later, earlier, split⟩ := List.append_of_mem noted
  obtain ⟨c, done⟩ := (search.asked split own).releases trip (congrArg Exchange.effect exchange)
  have bound : .bound trip c ∈ deedsOf (traceOf earlier pid) := by simp [done]
  obtain ⟨y, noted, -, deed⟩ := mem_deedsOf_traceOf.1 bound
  exact ⟨later, x, earlier, c, split, exchange, ⟨y, noted, deed⟩, mem_deeds_of_split split bound⟩

/-- A search that ends without having assigned the courier that it bound has either let the courier
go, behind a report that the trip was closed to, or it has aborted, behind a report that was refused for
another reason. Then it has let nobody go, and the courier stays bound until somebody else does. -/
theorem strands_iff (reach : w.Reachable WritesMayFail) (distinct : w.IdsDistinct)
    (search : w.Searches pid trip pickup) (ended : w.outcome? pid = some o)
    (unassigned : ∀ c, o ≠ .assigned c) {target : Uuid}
    (bound : .bound target courier ∈ w.deeds pid) :
    target = trip ∧
    (o = .cancelled ∧ .released trip ∈ w.deeds pid ∨
      o = .aborted ∧ .released trip ∉ w.deeds pid ∧ ∃ err, (∀ id old, err ≠ .tripClosed id old) ∧
        ⟨.store (.setTripStatus trip .courierAssigned), .error err⟩ ∈ w.trace pid) ∧
    (w.Serves courier trip ↔ o = .aborted ∧ ¬ w.LetGo trip courier) := by
  have releases := reach.releases distinct
  have held (own : target = trip) : w.Serves courier trip ↔ ¬ w.LetGo trip courier :=
    releases.held trip courier (bound_of_deeds (own ▸ bound))
  cases search.settled ended with
  | notFound done => rw [deeds, done] at bound; simp at bound
  | assigned => exact absurd rfl (unassigned _)
  | failed done => rw [deeds, done] at bound; simp at bound
  | idle _ _ done =>
    rw [deeds] at bound
    rcases done with done | done <;> rw [done] at bound <;> simp at bound
  | @closed c r _ release done =>
    obtain ⟨later, x, earlier, c', split, exchange, before, mine⟩ :=
      search.bound_before_release release
    cases r with
    | error err =>
      obtain ⟨y, noted, bound⟩ := before
      exact absurd bound (releases.granted later x earlier trip c' err split exchange y noted)
    | ok _ =>
      have done : w.deeds pid = [.wrote trip .courierFound, .bound trip c, .released trip] := done
      rw [done] at bound mine
      obtain ⟨rfl, rfl⟩ : target = trip ∧ courier = c := by simpa using bound
      obtain rfl : c' = courier := by simpa using mine
      have letGo : w.LetGo target c' :=
        ⟨later, x, earlier, split, Exchange.deed?_eq_released.2 exchange, before⟩
      refine ⟨rfl, .inl ⟨rfl, by simp [done]⟩, ?_⟩
      rw [held rfl]
      exact iff_of_false (fun kept => kept letGo) (by simp)
  | @kept c err refused open_ done =>
    have done : w.deeds pid = [.wrote trip .courierFound, .bound trip c] := done
    obtain ⟨rfl, rfl⟩ : target = trip ∧ courier = c := by simpa [done] using bound
    refine ⟨rfl, .inr ⟨rfl, by simp [done], err, open_, refused⟩, ?_⟩
    rw [held rfl]
    simp

/-! ## A stranded courier -/

open Trial in
/-- Process 4 has bound the courier, and its report of that was refused by a full disk. -/
def throughFullDisk : List Move :=
  stock ++ locateAtDepot 2 ++ .enter requestFromDepot :: steps 3 9 ++ steps 4 10 ++
    .step 4 (.refuse (.persistence "disk full")) :: steps 4 2

def strandedCourier : World := Trial.start.run throughFullDisk

theorem strandedCourier_reachable : strandedCourier.Reachable WritesMayFail := by
  have spares : Trial.start.passes sparesOthers throughFullDisk := by decide +kernel
  exact ⟨Trial.config, Trial.around, Trial.start, throughFullDisk, Trial.start_new,
    .of_passes (traced_new Trial.start_new) spares fun _ _ _ => writesMayFail_of_spares, rfl⟩

theorem strandedCourier_facts :
    strandedCourier.IdsDistinct ∧
    (strandedCourier.processes[4]?).map Process.task = some (.run Trial.trip) ∧
    strandedCourier.outcome? 4 = some .aborted ∧
    strandedCourier.deeds 4 =
      [.wrote Trial.trip .courierFound, .bound Trial.trip Trial.courier] ∧
    (strandedCourier.store.courier? Trial.courier).bind Courier.tripId = some Trial.trip ∧
    ∀ x ∈ strandedCourier.history, x.exchange.deed? ≠ some (.released Trial.trip) := by
  decide +kernel

/-- It is not so that a search which has not assigned its courier leaves nobody bound. -/
theorem search_strands_courier :
    ¬ ∀ (w : World) (pid : Nat) (trip courier : Uuid) (pickup : GeoPoint) (o : MatchOutcome),
      w.Reachable WritesMayFail → w.IdsDistinct → w.Searches pid trip pickup →
      w.outcome? pid = some o → (∀ c, o ≠ .assigned c) → .bound trip courier ∈ w.deeds pid →
      ¬ w.Serves courier trip := by
  intro freed
  obtain ⟨distinct, run, aborted, done, serves, -⟩ := strandedCourier_facts
  have traced : strandedCourier.Traced (fun _ => True) :=
    strandedCourier_reachable.traced fun _ _ _ => enters_any
  obtain ⟨pickup, search⟩ := traced.searches run
  refine freed _ 4 _ Trial.courier pickup _ strandedCourier_reachable distinct search aborted nofun
    (by simp [done]) ?_
  exact Option.bind_eq_some_iff.1 serves

theorem strands_iff_disk_full :
    strandedCourier.Reachable WritesMayFail ∧ strandedCourier.IdsDistinct ∧
    (∃ pickup, strandedCourier.Searches 4 Trial.trip pickup) ∧
    strandedCourier.outcome? 4 = some .aborted ∧
    .bound Trial.trip Trial.courier ∈ strandedCourier.deeds 4 ∧
    strandedCourier.Serves Trial.courier Trial.trip := by
  obtain ⟨distinct, run, aborted, done, -, kept⟩ := strandedCourier_facts
  have traced : strandedCourier.Traced (fun _ => True) :=
    strandedCourier_reachable.traced fun _ _ _ => enters_any
  obtain ⟨pickup, search⟩ := traced.searches run
  have bound : .bound Trial.trip Trial.courier ∈ strandedCourier.deeds 4 := by simp [done]
  refine ⟨strandedCourier_reachable, distinct, ⟨pickup, search⟩, aborted, bound, ?_⟩
  refine ((strands_iff strandedCourier_reachable distinct search aborted nofun bound).2.2).2
    ⟨rfl, ?_⟩
  rintro ⟨later, x, earlier, split, released, -⟩
  exact kept x (by rw [split]; simp) released

end CourierDispatch.World
