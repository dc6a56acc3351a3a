import CourierDispatch.Proofs.Conduct.Composition
import CourierDispatch.Proofs.Service.Trial

/-!
# A message that is lost influences nothing else

Two runs with the same moves, but for whether some messages can be published, go on in lockstep
(`lost_messages_change_nothing`): at each point the records, the cache, the counters, the clock and the
processes with their results are the same in both, and so is what was asked, publishing included. Only the
bus and how far its readers are differ, and the replies to those who published. The reason is in the
jobs: whoever publishes goes on in the same way whatever the reply is (`Job.Heedless`).
-/

namespace CourierDispatch

open Job

/-- A message is to be published. -/
def Effect.publishes : Effect → Bool
  | .publish .. => true
  | _ => false

namespace Job

variable {α β : Type} {j : Job α}

/-- A job that goes on in the same way whether or not a message could be published. -/
def Heedless : Job α → Prop
  | done _ | panic => True
  | act e next => (e.publishes → ∀ r r', next r = next r') ∧ ∀ r, Heedless (next r)

theorem Heedless.bind {f : α → Job β} (first : Heedless j) (second : ∀ a, Heedless (f a)) :
    Heedless (j >>= f) := by
  induction j with
  | done a => exact second a
  | panic => trivial
  | act e next ih =>
    refine ⟨fun publishes r r' => ?_, fun r => ih r (first.2 r)⟩
    exact congrArg (Job.bind · f) (first.1 publishes r r')

theorem heedless_act {e : Effect} {next : e.Reply → Job α} (silent : e.publishes = false)
    (then_ : ∀ r, Heedless (next r)) : Heedless (act e next) :=
  ⟨fun publishes => (by rw [silent] at publishes; cases publishes), then_⟩

theorem Heedless.of_only {kind : Effect → Prop} {ends : α → Prop} (only : j.Only kind ends)
    (silent : ∀ e, kind e → e.publishes = false) : Heedless j := by
  induction j with
  | done a => trivial
  | panic => trivial
  | act e next ih => exact heedless_act (silent e only.1) fun r => ih r (only.2 r)

theorem Heedless.attempt {a : Attempt α} {f : α → Attempt β} (first : Heedless a.run)
    (second : ∀ v, Heedless (f v).run) : Heedless (a >>= f).run := by
  refine Heedless.bind first fun r => ?_
  cases r with
  | ok v => exact second v
  | error e => trivial

theorem Heedless.of_leads {past : List Exchange} {k : Job α} (h : Heedless j) (path : Leads j past k) :
    Heedless k := by
  induction path with
  | here => exact h
  | next _ r _ ih => exact ih.2 r

end Job

theorem Effect.publishes_of_inquires {e : Effect} (inquires : e.inquires) : e.publishes = false := by
  cases e <;> first | rfl | cases inquires

theorem Effect.publishes_of_ordinary {e : Effect} (ordinary : e.ordinary) : e.publishes = false := by
  cases e <;> first | rfl | cases ordinary

/-! ## No job heeds whether a message was published -/

namespace Trip

theorem heedless_publishOn (u : TripUpdate) (channels : List Channel) :
    Heedless (publishOn u channels) := by
  induction channels with
  | nil => trivial
  | cons c rest ih => exact ⟨fun _ _ _ => rfl, fun _ => ih⟩

theorem heedless_announce (t : Trip) (status : TripStatus) : Heedless (announce t status) := by
  have located : Heedless (courierLocation t) := by
    have only : (courierLocation t).Only (·.inquires) fun _ => True :=
      only_courierLocation t fun _ => rfl
    exact .of_only only fun _ => Effect.publishes_of_inquires
  have noticed : Heedless (notice t) := by
    unfold notice
    split
    · trivial
    · exact located.bind fun _ => trivial
    · exact located.bind fun _ => trivial
    · trivial
  unfold announce
  split
  · trivial
  · split
    · trivial
    · exact noticed.bind fun u => heedless_publishOn u _

theorem heedless_reportStatus (settleDelay : Nat) (trip : Uuid) (status : TripStatus) :
    Heedless (reportStatus settleDelay trip status).run := by
  rw [run_reportStatus]
  refine heedless_act rfl fun r => ?_
  cases r with
  | error e => trivial
  | ok t =>
    refine Heedless.bind (heedless_act rfl fun _ => ?_) fun _ => trivial
    exact (heedless_announce t status).bind fun _ => heedless_act rfl fun _ => trivial

end Trip

theorem Assembled.heedless {α : Type} {c : Config} {j : Job α} (h : Assembled c j) : Heedless j := by
  induction h with
  | pure | panic => trivial
  | bind _ _ first second => exact first.bind second
  | perform ordinary =>
    exact heedless_act (Effect.publishes_of_ordinary ordinary) fun _ => trivial
  | report settleDelay trip status => exact Trip.heedless_reportStatus settleDelay trip status
  | trip requester pickup dropoff =>
    refine Heedless.attempt ?_ fun q => heedless_act rfl fun id => heedless_act rfl fun r => ?_
    · exact .of_only (Quote.inquires_make c.routing c.pricer pickup dropoff) fun _ =>
        Effect.publishes_of_inquires
    · cases r with
      | error e => trivial
      | ok t => exact heedless_act rfl fun _ => trivial
  | binding trip courier =>
    refine heedless_act rfl fun r => ?_
    cases r with
    | error e => trivial
    | ok => exact heedless_act rfl fun _ => trivial
  | courier n =>
    refine Heedless.attempt (heedless_act rfl fun _ => trivial) fun product => ?_
    cases product with
    | none => trivial
    | some p =>
      exact heedless_act rfl fun _ => heedless_act rfl fun _ => heedless_act rfl fun _ => trivial

/-! ## Two services that agree -/

/-- An event, whatever was replied if it is a message that was to be published. -/
def Event.attempt : Event → Event
  | ⟨time, pid, .publish channel u, _⟩ => ⟨time, pid, .publish channel u, .ok ()⟩
  | x => x

namespace World

variable {calls : Call → Prop} {w w' : World} {pid : Nat} {v v' : Verdict} {moves moves' : List Move}
  {rule : World → Move → Prop}

theorem Origin.heedless {c : Config} {task : Task} {job : Job Result} (h : Origin calls c task job) :
    Heedless job := by
  rcases h.assembled with assembled | ⟨trip, courier, -, rfl⟩
  · exact assembled.heedless
  · refine Heedless.of_only (prices_fareJob c trip courier) fun e prices => ?_
    rcases prices with inquires | ⟨cost, rfl⟩
    · exact Effect.publishes_of_inquires inquires
    · rfl

/-- Whoever publishes goes on in the same way whatever the reply is. -/
theorem Traced.heedless (h : w.Traced calls) {task : Task} {p : Progress} {job : Job Result}
    (found : w.processes[pid]? = some ⟨task, p⟩) (at_ : p.At job) : Heedless job := by
  obtain ⟨start, job', origin, path, reached⟩ := h.path pid _ found
  cases at_.unique reached
  exact origin.heedless.of_leads path

/-- Two services that agree in everything but in which messages were published, and in how far feeds are
behind. -/
structure Agrees (w w' : World) : Prop where
  config : w'.config = w.config
  around : w'.around = w.around
  store : w'.store = w.store
  cache : w'.cache = w.cache
  metrics : w'.metrics = w.metrics
  active : w'.active = w.active
  now : w'.now = w.now
  drawn : w'.drawn = w.drawn
  answered : w'.answered = w.answered
  raced : w'.raced = w.raced
  /-- The processes stand at the same jobs, and those that have ended have the same results. -/
  processes : w'.processes = w.processes
  feeds : w'.feeds.map Feed.interest = w.feeds.map Feed.interest
  /-- The same was asked at the same times, publishing included. -/
  attempts : w'.history.map Event.attempt = w.history.map Event.attempt

theorem Agrees.symm (h : w.Agrees w') : w'.Agrees w :=
  ⟨h.config.symm, h.around.symm, h.store.symm, h.cache.symm, h.metrics.symm, h.active.symm, h.now.symm,
    h.drawn.symm, h.answered.symm, h.raced.symm, h.processes.symm, h.feeds.symm, h.attempts.symm⟩

theorem Agrees.trans {w'' : World} (h : w.Agrees w') (h' : w'.Agrees w'') : w.Agrees w'' :=
  ⟨h'.config.trans h.config, h'.around.trans h.around, h'.store.trans h.store, h'.cache.trans h.cache,
    h'.metrics.trans h.metrics, h'.active.trans h.active, h'.now.trans h.now, h'.drawn.trans h.drawn,
    h'.answered.trans h.answered, h'.raced.trans h.raced, h'.processes.trans h.processes,
    h'.feeds.trans h.feeds, h'.attempts.trans h.attempts⟩

/-- Two services that agree, told apart by what they may differ in. -/
theorem Agrees.induction {P : World → World → Prop} (h : w.Agrees w')
    (same : ∀ bus feeds history, feeds.map Feed.interest = w.feeds.map Feed.interest →
      history.map Event.attempt = w.history.map Event.attempt →
      P w { w with bus, feeds, history }) : P w w' := by
  obtain ⟨config, around, store, cache, metrics, active, now, drawn, answered, raced, processes,
    feeds, attempts⟩ := h
  obtain ⟨_, _, _, _, bus', feeds', _, _, _, _, _, _, _, history'⟩ := w'
  subst config around store cache metrics active now drawn answered raced processes
  exact same bus' feeds' history' feeds attempts

/-- Both services give the same reply, or break down. -/
def Keeping (reply reply' : Option (α × World)) : Prop :=
  (reply = none ∧ reply' = none) ∨
    ∃ r w w', reply = some (r, w) ∧ reply' = some (r, w') ∧ w.Agrees w'

/-- A change of what two services that agree may differ in. -/
theorem agrees_apart {bus : Bus} {feeds : List Feed} {history : List Event}
    (same : feeds.map Feed.interest = w.feeds.map Feed.interest)
    (noted : history.map Event.attempt = w.history.map Event.attempt) :
    w.Agrees { w with bus, feeds, history } :=
  ⟨rfl, rfl, rfl, rfl, rfl, rfl, rfl, rfl, rfl, rfl, rfl, same, noted⟩

theorem Agrees.respond (h : w.Agrees w') (e : Effect) : Keeping (w.respond e) (w'.respond e) := by
  refine h.induction (P := fun w w' => Keeping (w.respond e) (w'.respond e))
    fun bus feeds history same noted => ?_
  -- What an effect does to the rest of both it does alike.
  have alike (r : e.Reply) (w₁ : World) (same : feeds.map Feed.interest = w₁.feeds.map Feed.interest)
      (noted : history.map Event.attempt = w₁.history.map Event.attempt)
      (replied : w.respond e = some (r, w₁))
      (replied' : ({ w with bus, feeds, history } : World).respond e =
        some (r, { w₁ with bus, feeds, history })) :
      Keeping (w.respond e) (({ w with bus, feeds, history } : World).respond e) :=
    .inr ⟨r, _, _, replied, replied', agrees_apart same noted⟩
  cases e with
  | store op =>
    have given : ({ w with bus, feeds, history } : World).stamp = w.stamp := rfl
    cases done : w.store.perform w.stamp op with
    | ok x =>
      refine alike (.ok x.1) { w with store := x.2 } same noted ?_ ?_ <;>
        simp only [World.respond, given, done]
    | error err =>
      refine alike (.error err) w same noted ?_ ?_ <;> simp only [World.respond, given, done]
  | cacheSet key route ttl =>
    have given : ({ w with bus, feeds, history } : World).cacheTime = w.cacheTime := rfl
    cases kept : w.cache.set? w.cacheTime key route ttl with
    | none => exact .inl ⟨by simp [World.respond, kept], by simp [World.respond, given, kept]⟩
    | some c =>
      refine alike (.ok ()) { w with cache := c } same noted ?_ ?_ <;>
        simp [World.respond, given, kept]
  | computeRoute a b =>
    cases answer : w.around.directions w.answered a b with
    | ok way =>
      refine alike (.ok way) { w with answered := w.answered + 1 } same noted ?_ ?_ <;>
        simp only [World.respond, answer]
    | error err =>
      refine alike (.error err) w same noted ?_ ?_ <;> simp only [World.respond, answer]
  | startRun trip pickup =>
    by_cases taken : trip ∈ w.active
    · exact alike false w same noted (if_pos taken) (if_pos taken)
    · exact .inr ⟨true, _, _, if_neg taken, if_neg taken, agrees_apart same noted⟩
  | subscribe interest =>
    have many : feeds.length = w.feeds.length := by simpa using congrArg List.length same
    refine .inr ⟨w.feeds.length, _, _, rfl, congrArg some (Prod.ext many rfl), agrees_apart ?_ noted⟩
    simp [Bus.subscribe, same]
  | cacheGet | placeDetails | autocomplete | publish | countTransition | countLookup | sleep | waitUntil
  | race | setTimers | stamp | drawId | startFare | finishRun | census | exposition =>
    exact .inr ⟨_, _, _, rfl, rfl, agrees_apart same noted⟩

/-- An answer that both are given is noted by both. -/
theorem Agrees.told (h : w.Agrees w') (pid : Nat) {e : Effect} {r r' : e.Reply}
    (alike : (Event.mk w.now pid e r).attempt = (Event.mk w.now pid e r').attempt) :
    (w.told pid e r).Agrees (w'.told pid e r') :=
  { h with
    attempts := by simp only [World.told, List.map_cons, h.now, h.attempts, alike] }

theorem Agrees.answer (h : w.Agrees w') (pid : Nat) (v : Verdict) (e : Effect) :
    Keeping (w.answer pid v e) (w'.answer pid v e) := by
  cases dictated : e.dictated v with
  | some r =>
    exact .inr ⟨r, _, _, answer_of_dictated dictated, answer_of_dictated dictated, h.told pid rfl⟩
  | none =>
    rcases h.respond e with ⟨broke, broke'⟩ | ⟨r, w₁, w₁', replied, replied', agrees⟩
    · exact .inl ⟨by simp [World.answer, dictated, broke], by simp [World.answer, dictated, broke']⟩
    · exact .inr ⟨r, _, _, answer_of_respond dictated replied, answer_of_respond dictated replied',
        agrees.told pid rfl⟩

/-! ## Moves -/

theorem Agrees.setProgress (h : w.Agrees w') (pid : Nat) (p : Progress) :
    (w.setProgress pid p).Agrees (w'.setProgress pid p) :=
  { h with processes := by simp only [World.setProgress, h.processes] }

theorem Agrees.breakDown (h : w.Agrees w') (pid : Nat) : (w.breakDown pid).Agrees (w'.breakDown pid) := by
  have broken := h.setProgress pid .broken
  unfold World.breakDown
  rw [h.processes]
  split
  · exact { broken with
      active := by simp only [freeSlot, broken.active]
      metrics := by simp only [freeSlot, broken.metrics] }
  · exact broken

theorem Agrees.proceed (h : w.Agrees w') (pid : Nat) (v : Verdict) (e : Effect)
    (next : e.Reply → Job Result) : (w.proceed pid v e next).Agrees (w'.proceed pid v e next) := by
  unfold World.proceed
  rcases h.answer pid v e with ⟨broke, broke'⟩ | ⟨r, w₁, w₁', replied, replied', agrees⟩
  · rw [broke, broke']
    exact h.breakDown pid
  · rw [replied, replied']
    exact agrees.setProgress pid _

theorem Agrees.step (h : w.Agrees w') (pid : Nat) (v : Verdict) :
    (w.step pid v).Agrees (w'.step pid v) := by
  unfold World.step
  rw [h.processes, h.now]
  split
  · exact h.setProgress pid _
  · exact h.breakDown pid
  · split
    · exact h.setProgress pid _
    · exact h.proceed pid v _ _
  · split
    · exact h.proceed pid .proceed _ _
    · exact h
  · exact h
  · exact h
  · exact h

theorem Agrees.move (h : w.Agrees w') (m : Move) : (w.move m).Agrees (w'.move m) := by
  cases m with
  | enter c =>
    exact { h with
      processes := by simp only [World.move, World.enter, spawn, h.processes, h.config] }
  | step pid v => exact h.step pid v
  | pass duration => exact { h with now := by simp only [World.move, h.now] }

/-! ## Runs -/

/-- A process is to publish a message. -/
def publishes (w : World) (pid : Nat) : Bool := (w.asked? pid).any Effect.publishes

/-- Whether a message can be published or not, its process goes on in the same way. -/
theorem Traced.agrees_step (h : w.Traced calls) (publishes : w.publishes pid) (v v' : Verdict) :
    (w.step pid v).Agrees (w.step pid v') := by
  obtain ⟨e, asked, publishes⟩ := (Option.any_eq_true _ _).1 publishes
  obtain ⟨task, next, found⟩ := asked?_eq_some.1 asked
  have heedless := (h.heedless found rfl).1 publishes
  cases e with
  | publish channel u =>
    -- Under any verdict the step is that of a message that went nowhere.
    have goes (v : Verdict) : ((w.told pid (.publish channel u) (.ok ())).setProgress pid
        (.ready (next (.ok ())))).Agrees (w.step pid v) := by
      obtain ⟨r, w₁, replied, agrees⟩ : ∃ r w₁, w.answer pid v (.publish channel u) = some (r, w₁) ∧
          (w.told pid (.publish channel u) (.ok ())).Agrees w₁ := by
        cases v with
        | proceed | absent =>
          exact ⟨_, _, answer_of_respond rfl rfl, by constructor <;> rfl⟩
        | refuse err => exact ⟨_, _, answer_of_dictated rfl, by constructor <;> rfl⟩
      rw [step_of_answer found rfl replied, heedless r (.ok ())]
      exact agrees.setProgress pid _
    exact (goes v).symm.trans (goes v')
  | _ => cases publishes

/-- The same move, or a step in which the same process is to publish a message. -/
def rhymes (w : World) : Move → Move → Bool
  | .step pid v, .step pid' v' => pid = pid' && (v = v' || w.publishes pid)
  | m, m' => m = m'

/-- The same moves, but for which messages can be published. -/
def parallel : World → List Move → List Move → Bool
  | _, [], [] => true
  | w, m :: moves, m' :: moves' => w.rhymes m m' && parallel (w.move m) moves moves'
  | _, _, _ => false

theorem Agrees.rhymed (h : w.Agrees w') (traced : w.Traced calls) {m m' : Move}
    (rhymes : w.rhymes m m') : (w.move m).Agrees (w'.move m') := by
  unfold World.rhymes at rhymes
  split at rhymes
  · next pid v pid' v' =>
    simp only [Bool.and_eq_true, Bool.or_eq_true, decide_eq_true_eq] at rhymes
    obtain ⟨rfl, rfl | publishes⟩ := rhymes
    · exact h.step pid v
    · exact (traced.agrees_step publishes v v').trans (h.step pid v')
  · rw [← of_decide_eq_true rhymes]
    exact h.move m

theorem Agrees.run (h : w.Agrees w') (traced : w.Traced fun _ => True)
    (parallel : w.parallel moves moves') : (w.run moves).Agrees (w'.run moves') := by
  induction moves generalizing w w' moves' with
  | nil =>
    cases moves' with
    | nil => exact h
    | cons => cases parallel
  | cons m moves ih =>
    cases moves' with
    | nil => cases parallel
    | cons m' moves' =>
      simp only [World.parallel, Bool.and_eq_true] at parallel
      change ((w.move m).run moves).Agrees ((w'.move m').run moves')
      exact ih (h.rhymed traced parallel.1) (traced.move m fun _ _ => trivial) parallel.2

theorem parallel_take (parallel : w.parallel moves moves') (n : Nat) :
    w.parallel (moves.take n) (moves'.take n) := by
  induction n generalizing w moves moves' with
  | zero => rfl
  | succ n ih =>
    cases moves <;> cases moves' <;> simp_all [World.parallel]

/-- Two runs from one service with the same moves, but for which messages can be published, agree at each
point. -/
theorem lost_messages_change_nothing (reach : w.Reachable rule) (parallel : w.parallel moves moves')
    (n : Nat) : (w.run (moves.take n)).Agrees (w.run (moves'.take n)) := by
  have traced : w.Traced fun _ => True := reach.traced fun _ _ _ => enters_any
  have same : w.Agrees w := by constructor <;> rfl
  exact same.run traced (parallel_take parallel n)

/-! ## An assignment that nobody hears of -/

/-- The same moves, where no message can be published. -/
def unheard : World → List Move → List Move
  | _, [] => []
  | w, m :: moves => (match m with
    | .step pid v => .step pid (if w.publishes pid then .refuse (.internal "no bus") else v)
    | m => m) :: unheard (w.move m) moves

theorem parallel_unheard (w : World) (moves : List Move) : w.parallel moves (w.unheard moves) := by
  induction moves generalizing w with
  | nil => rfl
  | cons m moves ih =>
    simp only [unheard, World.parallel, Bool.and_eq_true]
    refine ⟨?_, ih (w.move m)⟩
    cases m with
    | enter | pass => simp [rhymes]
    | step pid v => cases published : w.publishes pid <;> simp [rhymes, published]

open Trial in
/-- A courier is bound to a trip by hand, and the trip is completed. -/
def served : List Move :=
  stock ++ .enter request :: steps 2 8 ++ .enter (.assignCourier trip courier) :: steps 4 9 ++
    .enter (.reportTripStatus trip .complete) :: steps 6 7

open Trial in
theorem lost_messages_change_nothing_of_served :
    start.Reachable (fun _ _ => True) ∧ start.parallel served (start.unheard served) ∧
    (start.run served).bus.published.length = 3 ∧
    (start.run (start.unheard served)).bus.published = [] ∧
    (start.run served).answered? 6 = (start.run (start.unheard served)).answered? 6 ∧
    (start.run served).Agrees (start.run (start.unheard served)) := by
  have reach : start.Reachable fun _ _ => True :=
    ⟨Trial.config, Trial.around, start, [], start_new, trivial, rfl⟩
  have parallel := parallel_unheard start served
  have ⟨heard, unheard, length⟩ : (start.run served).bus.published.length = 3 ∧
      (start.run (start.unheard served)).bus.published.length = 0 ∧
      (start.unheard served).length = served.length := by
    decide +kernel
  have agrees := lost_messages_change_nothing reach parallel served.length
  rw [List.take_length, List.take_of_length_le (Nat.le_of_eq length)] at agrees
  refine ⟨reach, parallel, heard, List.length_eq_zero_iff.1 unheard, ?_, agrees⟩
  simp only [answered?, agrees.processes]

end World

end CourierDispatch
