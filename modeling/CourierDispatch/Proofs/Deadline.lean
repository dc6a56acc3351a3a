import CourierDispatch.Proofs.Search.Process
import CourierDispatch.Proofs.Search.Timing
import CourierDispatch.Proofs.Service.Punctual
import CourierDispatch.Proofs.Service.Trial
import CourierDispatch.Proofs.Store.Nearest

/-!
# A search ends in time

A search that nobody keeps waiting is over by its deadline and two settle delays more, and after a
bounded number of steps. It looks around when it begins and after each tick, up to the deadline. It
gives up at the deadline, and only if each look before was refused or found nobody, in which case
nobody was there (`search_ends_in_time`).

Time is virtual: none passes while the search can take a step (`Punctual`). What others do in the
meantime is left open, and so is what fails. Where a tick is due at the deadline itself either may be
noticed first: there is a look at the deadline, or there is none.
-/

namespace CourierDispatch.World

open Job

variable {calls : Call → Prop} {w w' : World} {pid : Nat} {trip : Uuid} {pickup : GeoPoint}
  {moves : List Move}

/-- A process is about to begin a search. -/
def Begins (w : World) (pid : Nat) (trip : Uuid) (pickup : GeoPoint) : Prop :=
  w.trace pid = [] ∧ ∃ task start, SearchJob w.config trip pickup start ∧
    w.processes[pid]? = some ⟨task, .ready start⟩

/-- A search in the background begins where it was started. -/
theorem Traced.begins (h : w.Traced calls)
    (run : (w.processes[pid]?).map Process.task = some (.run trip)) (new : w.trace pid = []) :
    ∃ pickup, w.Begins pid trip pickup := by
  obtain ⟨⟨task, p⟩, found, rfl⟩ := Option.map_eq_some_iff.1 run
  obtain ⟨start, job, origin, path, reached⟩ := h.path pid _ found
  rw [new] at path
  cases path
  cases origin with
  | run _ pickup =>
    refine ⟨pickup, new, .run trip, _, .run, ?_⟩
    cases p with
    | ready job => rw [found]; exact congrArg _ (congrArg _ (congrArg _ reached.symm))
    | waiting wake e next =>
      obtain ⟨same, waits⟩ := reached
      cases same
      cases waits
    | ended r => cases reached
    | broken => exact reached.elim

/-- A caller who has a trip searched for begins a search. -/
theorem Traced.begins_of_enter (h : w.Traced calls) (trip : Uuid) (pickup : GeoPoint) :
    (w.enter (.search trip pickup)).Begins w.processes.length trip pickup :=
  ⟨h.trace_eq_nil (Nat.le_refl _), .call, _, .call, List.getElem?_concat_length⟩

/-- When a process has looked around, the first time first. -/
def looks (w : World) (pid : Nat) : List Nat := (Search.lookTimes (w.moments pid)).reverse

/-- When a process looks around it may be refused, but it does not overlook anybody. -/
def Attentive (pid : Nat) (w : World) (m : Move) : Prop :=
  ∀ v p radius, m = .step pid v → w.Asks pid (.store (.nearestAvailableCourier p radius)) →
    v ≠ .absent

/-! ## The hours of a process that searches -/

/-- How a process for a search comes to its end. -/
def Closed (c : Config) (trip : Uuid) (pickup : GeoPoint) (start now : Nat) (past : List Moment)
    (o : Option Result) : Prop :=
  ∃ outcome, o.bind Result.outcome? = some outcome ∧
    Search.Close c.matching c.settleDelay trip pickup start 18 now past (some outcome)

theorem onTime_searchJob {c : Config} {start : Job Result} (search : SearchJob c trip pickup start)
    (positive : 0 < c.matchTick) (range : c.matchDeadline ≤ longestWait) (now : Nat) :
    start.OnTime (Search.Hours c.matching c.settleDelay now) (Closed c trip pickup now) now [] := by
  cases search with
  | run =>
    refine .map ((Search.onTime_supervised positive range).mono fun _ _ o close => ?_)
    cases o with
    | none => exact close.elim
    | some outcome => exact ⟨outcome, rfl, close⟩
  | call =>
    refine .map (.map ((Search.onTime_run positive range).mono fun _ _ o close => ?_))
    cases o with
    | none => exact close.elim
    | some outcome =>
      obtain ⟨soon, n, ticked, few, givenUp⟩ := close
      exact ⟨outcome, rfl, soon, n, ticked, by omega, givenUp⟩

/-- Where a search stands that nobody keeps waiting: it is over, or its time is not. -/
inductive Standing (c : Config) (trip : Uuid) (pickup : GeoPoint) (start n : Nat) (w : World)
    (pid : Nat) : Prop
  | ended {o : MatchOutcome} (outcome : w.outcome? pid = some o)
      (givenUp : o = .notFound →
        Search.GivenUp c.matching trip pickup start n (w.moments pid)) :
      Standing c trip pickup start n w pid
  | running (unended : ∀ r, (w.processes[pid]?).map Process.progress ≠ some (.ended r))
      (whole : (w.processes[pid]?).map Process.progress ≠ some .broken)
      (soon : w.now ≤ start + c.matchDeadline + 2 * c.settleDelay)
      (few : w.paces pid ≤ 2 * (3 * n + 18)) : Standing c trip pickup start n w pid

theorem Keeps.standing {c : Config} {start : Nat}
    (kept : w.Keeps (Search.Hours c.matching c.settleDelay start)
      (Closed c trip pickup start) pid) :
    ∃ n, Search.Ticked c.matching start n (w.moments pid) ∧
      Standing c trip pickup start n w pid := by
  obtain ⟨p, stands, onTime⟩ := kept
  have paces := paces_eq stands
  have running {n : Nat} (unended : ∀ r, p ≠ .ended r) (whole : p ≠ .broken)
      (soon : w.now ≤ start + c.matchDeadline + 2 * c.settleDelay)
      (few : w.paces pid ≤ 2 * (3 * n + 18)) : Standing c trip pickup start n w pid :=
    .running (fun r ended => unended r (Option.some.inj (stands.symm.trans ended)))
      (fun broken => whole (Option.some.inj (stands.symm.trans broken))) soon few
  cases p with
  | ready job =>
    cases job with
    | done r =>
      obtain ⟨outcome, -, soon, n, ticked, few, -⟩ := onTime
      exact ⟨n, ticked, running (by rintro _ ⟨⟩) (by rintro ⟨⟩) soon
        (by rw [paces]; exact Nat.mul_le_mul_left 2 few)⟩
    | panic =>
      obtain ⟨_, none_, -⟩ := onTime
      cases none_
    | act e next =>
      obtain ⟨⟨n, ticked, few⟩, soon, -⟩ := onTime.1
      have now : w.now ≤ e.answeredAt w.now := by
        cases later : e.wake? w.now with
        | none => exact Nat.le_of_eq (Effect.answeredAt_of_wake? later).symm
        | some wake =>
          obtain ⟨time, early⟩ := Effect.answeredAt_of_later later
          rwa [time]
      exact ⟨n, ticked, running (by rintro _ ⟨⟩) (by rintro ⟨⟩) (Nat.le_trans now soon)
        (by rw [paces]; exact Nat.mul_le_mul_left 2 (Nat.le_of_lt few))⟩
  | waiting wake e next =>
    obtain ⟨early, asked, later, onTime⟩ := onTime
    obtain ⟨⟨n, ticked, few⟩, soon, -⟩ := onTime.1
    have time := (Effect.answeredAt_of_later later).1
    refine ⟨n, ticked, running (by rintro _ ⟨⟩) (by rintro ⟨⟩)
      (Nat.le_trans (time ▸ early) soon) ?_⟩
    rw [paces]
    change _ + 1 ≤ _
    omega
  | ended r =>
    obtain ⟨time, -, o, outcome, -, n, ticked, -, givenUp⟩ := onTime
    refine ⟨n, ticked, .ended ?_ givenUp⟩
    rw [outcome?, stands]
    exact outcome
  | broken =>
    obtain ⟨time, -, _, none_, -⟩ := onTime
    cases none_

/-! ## Looks in vain -/

/-- Where a process looked around and found nobody, nobody was there. -/
def Searched (pid : Nat) (w : World) : Prop :=
  ∀ later x earlier, w.history = later ++ x :: earlier → x.process = pid →
    ∀ p radius, x.exchange = ⟨.store (.nearestAvailableCourier p radius), .ok none⟩ →
      (Store.replay w.around earlier).Deserted p radius

theorem Noted.searched {q : Nat} {v : Verdict} {e : Effect} {r : e.Reply}
    (step : Noted calls w q v e r w') (recorded : w.Recorded)
    (attentive : w.Attentive pid (.step q v)) (searched : w.Searched pid) : w'.Searched pid := by
  obtain ⟨used, verdict, reply⟩ := step.replied
  intro later x earlier split own p radius shown
  rw [reply.around]
  rw [step.history] at split
  cases later with
  | cons y later =>
    obtain ⟨-, split⟩ := List.cons.inj split
    exact searched later x earlier split own p radius shown
  | nil =>
    obtain ⟨rfl, rfl⟩ := List.cons.inj split
    obtain rfl : q = pid := own
    cases shown
    rw [← recorded.stored]
    refine Store.deserted_of_nearestAvailable ?_
    have answers := reply.store
    generalize w'.store = after at answers
    cases answers with
    | performed done => exact congrArg Prod.fst (Except.ok.inj done)
    | dictated told =>
      cases used with
      | proceed | refuse => cases told
      | absent =>
        rcases verdict with ⟨rfl, asks⟩ | other
        · exact absurd rfl (attentive _ p radius rfl asks)
        · cases other
    | apart other => exact absurd rfl (other _)

/-- A process that has been replied nothing has not looked around. -/
theorem searched_of_new (new : w.trace pid = []) : w.Searched pid := by
  intro later x earlier split own p radius shown
  have noted : x.exchange ∈ w.trace pid := mem_traceOf.2 ⟨x, by rw [split]; simp, own, rfl⟩
  rw [new] at noted
  cases noted

theorem searched_run (traced : w.Traced fun _ => True) (recorded : w.Recorded)
    (searched : w.Searched pid) (obeys : w.Obeys (Attentive pid) moves) :
    (w.run moves).Searched pid :=
  (always_run (P := fun w => w.Recorded ∧ w.Searched pid) (fun _ _ _ => enters_any)
    (fun w w' _ _ same h => ⟨h.1.silent same, by
      obtain ⟨-, around, -, history, -, -⟩ := same
      rw [Searched, history, around]
      exact h.2⟩)
    (fun _ _ _ _ _ _ _ _ attentive step h =>
      ⟨h.1.noted step, step.searched h.1 attentive h.2⟩)
    traced obeys ⟨recorded, searched⟩).2

/-! ## From its beginning to its end -/

/-- A look in vain: it was refused, or nobody was there. -/
def Vain (around : Surroundings) (p : GeoPoint) (radius : Float) (earlier : List Event)
    (x : Exchange) : Prop :=
  x = ⟨.store (.nearestAvailableCourier p radius), .ok none⟩ ∧
      (Store.replay around earlier).Deserted p radius ∨
    ∃ err, x = ⟨.store (.nearestAvailableCourier p radius), .error err⟩

/-- How far a search has got that began in one world, by another one. -/
structure InTime (began w : World) (pid : Nat) (trip : Uuid) (pickup : GeoPoint) : Prop where
  /-- It looks around when it begins and after each tick, up to the deadline. -/
  looks : ∃ n ≤ w.config.matchDeadline / w.config.matchTick + 1,
    (∀ k < n, k * w.config.matchTick ≤ w.config.matchDeadline) ∧
    w.looks pid = (List.range n).map (began.now + · * w.config.matchTick)
  /-- As long as it is not over there is time left, and it can go on. -/
  unfinished : w.outcome? pid = none →
    w.now ≤ began.now + w.config.matchDeadline + 2 * w.config.settleDelay ∧
    ∃ d, w.Punctual pid (.pass d) ∧ (w.move (.pass d)).canGoOn pid
  /-- It has given up at the deadline, behind a look in vain at each tick before. -/
  givenUp : w.outcome? pid = some .notFound →
    (∀ k, k * w.config.matchTick < w.config.matchDeadline →
      began.now + k * w.config.matchTick ∈ w.looks pid) ∧
    (∀ later x earlier, w.history = later ++ x :: earlier → x.process = pid →
      Search.looks x.effect → Vain w.around pickup w.config.searchRadius earlier x.exchange) ∧
    ∃ x ∈ w.history, x.process = pid ∧ x.time = began.now + w.config.matchDeadline ∧
      ∃ t, x.exchange = ⟨.store (.setTripStatus trip .courierNotFound), .ok t⟩

theorem looks_of_ticked {m : MatchingConfig} {start n : Nat}
    (ticked : Search.Ticked m start n (w.moments pid)) :
    w.looks pid = (List.range n).map (start + · * m.tick) := by
  rw [looks, ticked.times, List.reverse_reverse]

/-- There are no more looks than ticks. -/
theorem few_of_ticked {m : MatchingConfig} {start n : Nat} {past : List Moment}
    (positive : 0 < m.tick) (ticked : Search.Ticked m start n past) :
    n ≤ m.deadline / m.tick + 1 := by
  cases n with
  | zero => exact Nat.zero_le _
  | succ n =>
    have last : n * m.tick ≤ m.deadline := ticked.early n (Nat.lt_succ_self n)
    exact Nat.succ_le_succ ((Nat.le_div_iff_mul_le positive).2 last)

theorem Standing.unfinished {c : Config} {start n : Nat}
    (standing : Standing c trip pickup start n w pid)
    (kept : w.Keeps (Search.Hours c.matching c.settleDelay start)
      (Closed c trip pickup start) pid) (unknown : w.outcome? pid = none) :
    w.now ≤ start + c.matchDeadline + 2 * c.settleDelay ∧
      ∃ d, w.Punctual pid (.pass d) ∧ (w.move (.pass d)).canGoOn pid := by
  cases standing with
  | ended outcome => rw [unknown] at outcome; cases outcome
  | running unended whole soon => exact ⟨soon, kept.goes_on unended whole⟩

theorem Standing.givenUp {c : Config} {start n : Nat}
    (standing : Standing c trip pickup start n w pid)
    (ticked : Search.Ticked c.matching start n (w.moments pid)) (searched : w.Searched pid)
    (nobody : w.outcome? pid = some .notFound) :
    (∀ k, k * c.matchTick < c.matchDeadline → start + k * c.matchTick ∈ w.looks pid) ∧
    (∀ later x earlier, w.history = later ++ x :: earlier → x.process = pid →
      Search.looks x.effect → Vain w.around pickup c.searchRadius earlier x.exchange) ∧
    ∃ x ∈ w.history, x.process = pid ∧ x.time = start + c.matchDeadline ∧
      ∃ t, x.exchange = ⟨.store (.setTripStatus trip .courierNotFound), .ok t⟩ := by
  cases standing with
  | running unended whole =>
    obtain ⟨task, r, found, -⟩ := outcome?_eq_some.1 nobody
    exact absurd (by rw [found]; rfl) (unended r)
  | ended outcome givenUp =>
    rw [nobody] at outcome
    obtain ⟨tried, vain, x, member, time, t, reported⟩ := givenUp (Option.some.inj outcome).symm
    refine ⟨fun k before => ?_, fun later y earlier split own looked => ?_, ?_⟩
    · rw [looks_of_ticked ticked]
      exact List.mem_map.2 ⟨k, List.mem_range.2 (tried k before), rfl⟩
    · have member : y.moment ∈ w.moments pid :=
        List.mem_map_of_mem (List.mem_filter.2 ⟨by rw [split]; simp, decide_eq_true own⟩)
      rcases vain y.moment member looked with shown | refused
      · exact .inl ⟨shown, searched later y earlier split own _ _ shown⟩
      · exact .inr refused
    · obtain ⟨y, mine, rfl⟩ := List.mem_map.1 member
      obtain ⟨noted, own⟩ := List.mem_filter.1 mine
      exact ⟨y, noted, of_decide_eq_true own, time, t, reported⟩

/-- A search that nobody keeps waiting ends in time, and after so many steps. -/
theorem search_ends_in_time (reach : w.Reachable fun _ _ => True)
    (begins : w.Begins pid trip pickup) (positive : 0 < w.config.matchTick)
    (range : w.config.matchDeadline ≤ longestWait)
    (obeys : w.Obeys (fun w m => w.Punctual pid m ∧ w.Attentive pid m) moves) :
    InTime w (w.run moves) pid trip pickup ∧
      (6 * (w.config.matchDeadline / w.config.matchTick + 1) + 36 < turns pid w moves →
        ((w.run moves).outcome? pid).isSome) := by
  obtain ⟨new, task, start, search, found⟩ := begins
  have stands : (w.processes[pid]?).map Process.progress = some (.ready start) := by
    rw [found]
    rfl
  have unmoved : w.moments pid = [] := by
    rw [trace_eq_moments] at new
    exact List.map_eq_nil_iff.1 new
  have kept : w.Keeps (Search.Hours w.config.matching w.config.settleDelay w.now)
      (Closed w.config trip pickup w.now) pid := by
    refine ⟨_, stands, ?_⟩
    rw [unmoved]
    exact onTime_searchJob search positive range w.now
  obtain ⟨kept, paces⟩ := kept.run (obeys.mono fun _ _ rule => rule.1) fun _ _ _ _ _ hours =>
    hours.sturdy _ _ _ rfl
  have searched := searched_run (reach.traced fun _ _ _ => enters_any) reach.recorded
    (searched_of_new new) (obeys.mono fun _ _ rule => rule.2)
  obtain ⟨n, ticked, standing⟩ := kept.standing
  have few := few_of_ticked positive ticked
  have config := (given_run w moves).1
  refine ⟨⟨?_, ?_, ?_⟩, fun enough => ?_⟩
  · rw [config]
    exact ⟨n, few, ticked.early, looks_of_ticked ticked⟩
  · rw [config]
    exact standing.unfinished kept
  · rw [config]
    exact standing.givenUp ticked searched
  · cases standing with
    | ended outcome => rw [outcome]; rfl
    | running _ _ _ short =>
      rw [paces_eq stands, unmoved] at paces
      have few : n ≤ w.config.matchDeadline / w.config.matchTick + 1 := few
      simp only [List.length_nil, Progress.beats] at paces
      omega

/-! ## A search for somebody who never comes -/

/-- A move in which nobody is kept waiting and nothing fails. -/
def prompt (pid : Nat) (w : World) : Move → Bool
  | .step _ v => v = .proceed
  | .pass d => match (w.processes[pid]?).map Process.progress with
    | some (.ready _) => d = 0
    | some (.waiting wake ..) => w.now + d ≤ wake
    | _ => true
  | .enter _ => false

theorem punctual_of_prompt {m : Move} (h : w.prompt pid m) :
    w.Punctual pid m ∧ w.Attentive pid m := by
  cases m with
  | enter => cases h
  | step q v =>
    have goes : v = .proceed := of_decide_eq_true h
    refine ⟨nofun, ?_⟩
    rintro used p radius ⟨⟩ - absent
    rw [goes] at absent
    cases absent
  | pass d =>
    refine ⟨?_, nofun⟩
    rintro d ⟨⟩
    unfold prompt at h
    simp only at h
    generalize (w.processes[pid]?).map Process.progress = p at h ⊢
    rcases p with _ | (job | ⟨wake, e, next⟩ | r | _)
    · trivial
    · exact of_decide_eq_true h
    · exact of_decide_eq_true h
    · trivial
    · trivial

/-- Where both have come, a tick is noticed rather than the deadline. -/
def eager : Surroundings := { Trial.around with tickFirst := fun _ => true }

open Trial in
/-- A trip was asked for, and there is a courier whom nobody can locate. -/
def wanted (around : Surroundings) : World :=
  (openWith true around).run (stock ++ .enter request :: steps 2 9)

/-- The search for the trip goes on until its deadline, which comes with a tick. -/
def untilDeadline : List Move :=
  Trial.steps 3 5 ++ .pass 500 :: Trial.steps 3 4 ++ .pass 500 :: Trial.steps 3 11

def unserved (around : Surroundings) : World := (wanted around).run untilDeadline

/-- The tick that comes with the deadline is another look if it is noticed first. -/
theorem search_ends_in_time_unserved :
    ((∃ pickup, InTime (wanted Trial.around) (unserved Trial.around) 3 Trial.trip pickup) ∧
      (unserved Trial.around).outcome? 3 = some .notFound ∧
      (unserved Trial.around).looks 3 = [0, 500] ∧ (unserved Trial.around).now = 1000) ∧
    (∃ pickup, InTime (wanted eager) (unserved eager) 3 Trial.trip pickup) ∧
    (unserved eager).outcome? 3 = some .notFound ∧
    (unserved eager).looks 3 = [0, 500, 1000] ∧ (unserved eager).now = 1000 := by
  have inTime (around : Surroundings) (facts :
      ((wanted around).processes[3]?).map Process.task = some (.run Trial.trip) ∧
      (wanted around).history.all (·.process ≠ 3) ∧ 0 < (wanted around).config.matchTick ∧
      (wanted around).config.matchDeadline ≤ longestWait ∧
      (wanted around).passes (prompt 3) untilDeadline) :
      ∃ pickup, InTime (wanted around) (unserved around) 3 Trial.trip pickup := by
    obtain ⟨run, unheard, positive, range, served⟩ := facts
    have reach : (wanted around).Reachable fun _ _ => True :=
      ⟨_, around, _, _, openWith_new true around, obeys_any _, rfl⟩
    have traced : (wanted around).Traced fun _ => True := reach.traced fun _ _ _ => enters_any
    have new : (wanted around).trace 3 = [] := by
      rw [trace, traceOf, List.filter_eq_nil_iff.2 (by simpa using unheard), List.map_nil]
    obtain ⟨pickup, begins⟩ := traced.begins run new
    have obeys : (wanted around).Obeys (fun w m => w.Punctual 3 m ∧ w.Attentive 3 m)
        untilDeadline := .of_passes traced served fun _ _ _ => punctual_of_prompt
    exact ⟨pickup, (search_ends_in_time reach begins positive range obeys).1⟩
  refine ⟨⟨inTime Trial.around ?_, ?_⟩, inTime eager ?_, ?_⟩ <;> decide +kernel

end CourierDispatch.World
