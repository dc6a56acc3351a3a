import CourierDispatch.Proofs.Job.Clock
import CourierDispatch.Proofs.Service.Rules

/-!
# Processes that nobody keeps waiting

A process is served punctually if no time passes while it can go on, and if its timers are noticed
when they ring (`World.Punctual`). Then it keeps every rule about times that its job keeps, whatever
the others do in between (`Keeps.run`), and what it has taken steps for shows in its moments
(`Keeps.turns_le`): a job with a bound on its moments ends after so many steps.
-/

namespace CourierDispatch

open Job

def Event.moment (x : Event) : Moment := ⟨x.time, x.exchange⟩

/-- A process that has kept to a rule about times. -/
def Progress.OnTime (ask : Nat → List Moment → Effect → Prop)
    (fin : Nat → List Moment → Option Result → Prop) (now : Nat) (past : List Moment) :
    Progress → Prop
  | ready job => job.OnTime ask fin now past
  | waiting wake e next => now ≤ wake ∧ ∃ asked, e.wake? asked = some wake ∧
      (Job.act e next).OnTime ask fin asked past
  | ended r => ∃ time ≤ now, fin time past (some r)
  | broken => ∃ time ≤ now, fin time past none

/-- A process that waits or is over has taken a step since it was last replied something. -/
def Progress.beats : Progress → Nat
  | ready _ => 0
  | _ => 1

/-- A process can take a step at some time. -/
def Progress.canGoOn (now : Nat) : Progress → Bool
  | ready _ => true
  | waiting wake .. => wake ≤ now
  | ended _ | broken => false

namespace World

variable {w w' : World} {m : Move} {moves : List Move} {pid : Nat} {v : Verdict} {e : Effect}
  {r : e.Reply} {ask : Nat → List Moment → Effect → Prop}
  {fin : Nat → List Moment → Option Result → Prop}

/-- What a process was replied and when, the latest first. -/
def moments (w : World) (pid : Nat) : List Moment :=
  (w.history.filter (·.process = pid)).map Event.moment

theorem trace_eq_moments (w : World) (pid : Nat) :
    w.trace pid = (w.moments pid).map Moment.exchange := by
  rw [trace, traceOf, moments, List.map_map]
  rfl

theorem moments_of_history (history : w'.history = ⟨w.now, pid, e, r⟩ :: w.history) (q : Nat) :
    w'.moments q = if pid = q then ⟨w.now, e, r⟩ :: w.moments q else w.moments q := by
  unfold moments
  rw [history, List.filter_cons]
  by_cases own : pid = q
  · simp only [own, decide_true, if_true, List.map_cons]
    rfl
  · simp only [own, decide_false, if_false, Bool.false_eq_true]

/-- No time passes while a process can go on, and no more than until its timer rings while it
waits. -/
def Punctual (pid : Nat) (w : World) (m : Move) : Prop :=
  ∀ d, m = .pass d → match (w.processes[pid]?).map Process.progress with
    | some (.ready _) => d = 0
    | some (.waiting wake ..) => w.now + d ≤ wake
    | _ => True

/-- A process has kept to a rule about times so far. -/
def Keeps (ask : Nat → List Moment → Effect → Prop)
    (fin : Nat → List Moment → Option Result → Prop) (pid : Nat) (w : World) : Prop :=
  ∃ p, (w.processes[pid]?).map Process.progress = some p ∧ p.OnTime ask fin w.now (w.moments pid)

/-- A process can take a step now. -/
def canGoOn (w : World) (pid : Nat) : Bool :=
  ((w.processes[pid]?).map Process.progress).any (·.canGoOn w.now)

/-- How many steps a process takes in a run. -/
def turns (pid : Nat) : World → List Move → Nat
  | _, [] => 0
  | w, m :: moves => (match m with
      | .step q _ => if q = pid then (w.canGoOn pid).toNat else 0
      | _ => 0) + turns pid (w.move m) moves

/-- How many steps a process may have taken: two for each moment, if it has waited for each. -/
def paces (w : World) (pid : Nat) : Nat :=
  2 * (w.moments pid).length +
    (((w.processes[pid]?).map Process.progress).map Progress.beats).getD 0

theorem paces_eq {p : Progress} (stands : (w.processes[pid]?).map Process.progress = some p) :
    w.paces pid = 2 * (w.moments pid).length + p.beats := by
  rw [paces, stands]
  rfl

/-- Clocks and timers tell the time at which they reply. -/
theorem tellsTime_of_answer {asked : Nat} (replied : w.answer pid v e = some (r, w'))
    (time : e.answeredAt asked = w.now) : e.TellsTime w.now r := by
  cases e with
  | setTimers =>
    have free : Effect.dictated .setTimers v = none := by cases v <;> rfl
    rw [answer_of_respond free rfl] at replied
    cases replied
    rfl
  | race deadline tick =>
    have free : Effect.dictated (.race deadline tick) v = none := by cases v <;> rfl
    rw [answer_of_respond free rfl] at replied
    cases replied
    rw [Effect.answeredAt_race] at time
    unfold notice
    split
    · next rings => exact ⟨rings.1, rfl⟩
    · -- one of the two has come, and it is the deadline if the tick is not noticed
      exact show deadline ≤ w.now by omega
  | _ => trivial

/-- The rule behind an answer that came in time. -/
theorem Keeps.answered {next : e.Reply → Job Result} {asked : Nat}
    (kept : (Job.act e next).OnTime ask fin asked (w.moments pid))
    (time : e.answeredAt asked = w.now) (there : pid < w.processes.length)
    (replied : w.answer pid v e = some (r, w')) :
    (w'.setProgress pid (.ready (next r))).Keeps ask fin pid ∧
      (w'.setProgress pid (.ready (next r))).paces pid = 2 * (w.moments pid).length + 2 := by
  obtain ⟨-, ⟨new, processes, -⟩, history⟩ := replied_of_answer replied
  have now := now_of_answer replied
  have stands : ((w'.setProgress pid (.ready (next r))).processes[pid]?).map Process.progress =
      some (.ready (next r)) := by
    obtain ⟨p, found⟩ : ∃ p, w.processes[pid]? = some p := ⟨_, List.getElem?_eq_getElem there⟩
    rw [getElem?_setProgress, if_pos rfl, processes, List.getElem?_append_left there, found]
    rfl
  have moments : (w'.setProgress pid (.ready (next r))).moments pid =
      ⟨w.now, e, r⟩ :: w.moments pid := by
    have moments := moments_of_history history pid
    rwa [if_pos rfl] at moments
  have told : e.TellsTime (e.answeredAt asked) r := time ▸ tellsTime_of_answer replied time
  refine ⟨⟨_, stands, ?_⟩, ?_⟩
  · have then_ := kept.2 r told
    rw [time, ← now] at then_
    rw [moments, ← now]
    exact then_
  · rw [paces_eq stands, moments]
    rfl

/-- A process that breaks down, as far as its rule allows it. -/
theorem Keeps.broke {past : List Moment} (there : pid < w.processes.length)
    (moments : w.moments pid = past) (allowed : fin w.now past none) :
    (w.breakDown pid).Keeps ask fin pid ∧ (w.breakDown pid).paces pid = 2 * past.length + 1 := by
  obtain ⟨p, found⟩ : ∃ p, w.processes[pid]? = some p := ⟨_, List.getElem?_eq_getElem there⟩
  have stands : ((w.setProgress pid .broken).processes[pid]?).map Process.progress =
      some .broken := by
    rw [getElem?_setProgress, if_pos rfl, found]
    rfl
  have kept : (w.setProgress pid .broken).Keeps ask fin pid ∧
      (w.setProgress pid .broken).paces pid = 2 * past.length + 1 := by
    refine ⟨⟨_, stands, w.now, Nat.le_refl _, ?_⟩, ?_⟩
    · exact show fin w.now (w.moments pid) none from moments ▸ allowed
    · rw [paces_eq stands, ← moments]
      rfl
  unfold breakDown
  split <;> exact kept

/-- An effect that is due is answered, unless its process may break down. -/
theorem Keeps.proceed {next : e.Reply → Job Result} {asked : Nat}
    (kept : (Job.act e next).OnTime ask fin asked (w.moments pid))
    (sturdy : ∀ now past key route ttl, ¬ ask now past (.cacheSet key route ttl))
    (time : e.answeredAt asked = w.now) (there : pid < w.processes.length) (v : Verdict) :
    (w.proceed pid v e next).Keeps ask fin pid ∧
      (w.proceed pid v e next).paces pid = 2 * (w.moments pid).length + 2 := by
  unfold World.proceed
  cases replied : w.answer pid v e with
  | some answer => exact Keeps.answered kept time there replied
  | none =>
    have fragile : (Job.act e next).Fragile := (breaks_of_answer replied).fragile
    cases e <;> first | exact fragile.elim | exact (sturdy _ _ _ _ _ kept.1).elim

/-- A step of a process keeps its rule. If the process can go on, it does. -/
theorem Keeps.step (kept : w.Keeps ask fin pid)
    (sturdy : ∀ now past key route ttl, ¬ ask now past (.cacheSet key route ttl)) (v : Verdict) :
    (w.step pid v).Keeps ask fin pid ∧
      w.paces pid + (w.canGoOn pid).toNat ≤ (w.step pid v).paces pid := by
  obtain ⟨p, stands, onTime⟩ := id kept
  have there : pid < w.processes.length := by
    obtain ⟨_, found, -⟩ := Option.map_eq_some_iff.1 stands
    exact (List.getElem?_eq_some_iff.1 found).1
  have stood (p' : Progress) :
      ((w.setProgress pid p').processes[pid]?).map Process.progress = some p' := by
    obtain ⟨_, found, -⟩ := Option.map_eq_some_iff.1 stands
    rw [getElem?_setProgress, if_pos rfl, found]
    rfl
  have can : w.canGoOn pid = p.canGoOn w.now := by rw [World.canGoOn, stands]; rfl
  rw [paces_eq stands, can]
  simp only [World.step, stands]
  cases p with
  | ready job =>
    cases job with
    | done r =>
      refine ⟨⟨_, stood _, w.now, Nat.le_refl _, onTime⟩, ?_⟩
      rw [paces_eq (stood _)]
      exact Nat.le_refl _
    | panic =>
      have broke : (w.breakDown pid).Keeps ask fin pid ∧ _ := Keeps.broke there rfl onTime
      exact ⟨broke.1, Nat.le_of_eq broke.2.symm⟩
    | act e next =>
      simp only
      cases later : e.wake? w.now with
      | some wake =>
        refine ⟨⟨_, stood _, (Effect.answeredAt_of_later later).2, w.now, later, onTime⟩, ?_⟩
        rw [paces_eq (stood _)]
        exact Nat.le_refl _
      | none =>
        have time := Effect.answeredAt_of_wake? later
        obtain ⟨kept, paces⟩ := Keeps.proceed onTime sturdy time there v
        refine ⟨kept, ?_⟩
        rw [paces]
        exact Nat.le_succ _
  | waiting wake e next =>
    obtain ⟨early, asked, later, onTime⟩ := onTime
    simp only
    split
    · next rings =>
      have time : e.answeredAt asked = w.now := by
        have wake := (Effect.answeredAt_of_later later).1
        omega
      obtain ⟨kept, paces⟩ := Keeps.proceed onTime sturdy time there .proceed
      refine ⟨kept, ?_⟩
      simp only [paces, Progress.beats, Progress.canGoOn, rings, decide_true]
      exact Nat.le_refl _
    · next early =>
      exact ⟨kept, by simp [Progress.canGoOn, early, paces_eq stands]⟩
  | ended r => exact ⟨kept, by simp [Progress.canGoOn, paces_eq stands]⟩
  | broken => exact ⟨kept, by simp [Progress.canGoOn, paces_eq stands]⟩

/-- Nobody else's step gets a process on. -/
theorem aside_of_step {q : Nat} (other : q ≠ pid) (there : pid < w.processes.length) (v : Verdict) :
    ((w.step q v).processes[pid]?).map Process.progress =
        (w.processes[pid]?).map Process.progress ∧
      (w.step q v).moments pid = w.moments pid ∧ (w.step q v).now = w.now := by
  have still (w' : World) (p : Progress) : ((w'.setProgress q p).processes[pid]?) =
      w'.processes[pid]? := by rw [getElem?_setProgress, if_neg other]
  have turn := turn_step w q v
  generalize w.step q v = after at turn ⊢
  cases turn with
  | idle => exact ⟨rfl, rfl, rfl⟩
  | turned => exact ⟨by rw [still], rfl, rfl⟩
  | broke =>
    unfold breakDown
    split <;> exact ⟨congrArg _ (still w .broken), rfl, rfl⟩
  | answered found before replied =>
    obtain ⟨-, ⟨new, processes, -⟩, history⟩ := replied_of_answer replied
    refine ⟨?_, ?_, (now_of_answer replied :)⟩
    · rw [still, processes, List.getElem?_append_left there]
    · have moments := moments_of_history history pid
      rwa [if_neg other] at moments

/-- A process that is served punctually keeps its rule, and takes its steps. -/
theorem Keeps.move (kept : w.Keeps ask fin pid) (punctual : w.Punctual pid m)
    (sturdy : ∀ now past key route ttl, ¬ ask now past (.cacheSet key route ttl)) :
    (w.move m).Keeps ask fin pid ∧ w.paces pid + turns pid w [m] ≤ (w.move m).paces pid := by
  obtain ⟨p, stands, onTime⟩ := id kept
  have there : pid < w.processes.length := by
    obtain ⟨_, found, -⟩ := Option.map_eq_some_iff.1 stands
    exact (List.getElem?_eq_some_iff.1 found).1
  cases m with
  | enter call =>
    have stands' : ((w.enter call).processes[pid]?).map Process.progress = some p := by
      rw [← stands]
      exact congrArg _ (List.getElem?_append_left there)
    refine ⟨⟨p, stands', onTime⟩, ?_⟩
    rw [World.move, paces_eq stands, paces_eq stands']
    exact Nat.le_refl _
  | step q v =>
    by_cases own : q = pid
    · subst own
      have turn : turns q w [.step q v] = (w.canGoOn q).toNat := if_pos rfl
      rw [turn]
      exact kept.step sturdy v
    · obtain ⟨stands', moments, now⟩ := aside_of_step own there v
      rw [stands] at stands'
      refine ⟨⟨p, stands', ?_⟩, ?_⟩
      · rw [World.move, moments, now]
        exact onTime
      · simp only [World.move, turns, if_neg own, paces_eq stands, paces_eq stands', moments]
        exact Nat.le_refl _
  | pass d =>
    have allowed := punctual d rfl
    rw [stands] at allowed
    refine ⟨⟨p, stands, ?_⟩, ?_⟩
    · cases p with
      | ready job =>
        obtain rfl : d = 0 := allowed
        exact onTime
      | waiting wake e next => exact ⟨allowed, onTime.2⟩
      | ended r =>
        obtain ⟨time, early, onTime⟩ := onTime
        exact ⟨time, Nat.le_trans early (Nat.le_add_right ..), onTime⟩
      | broken =>
        obtain ⟨time, early, onTime⟩ := onTime
        exact ⟨time, Nat.le_trans early (Nat.le_add_right ..), onTime⟩
    · have stands' : ((w.move (.pass d)).processes[pid]?).map Process.progress = some p := stands
      rw [paces_eq stands, paces_eq stands']
      exact Nat.le_refl _

theorem Keeps.run (kept : w.Keeps ask fin pid) (obeys : w.Obeys (Punctual pid) moves)
    (sturdy : ∀ now past key route ttl, ¬ ask now past (.cacheSet key route ttl)) :
    (w.run moves).Keeps ask fin pid ∧
      w.paces pid + turns pid w moves ≤ (w.run moves).paces pid := by
  induction moves generalizing w with
  | nil => exact ⟨kept, Nat.le_refl _⟩
  | cons m moves ih =>
    obtain ⟨kept, here⟩ := kept.move obeys.1 sturdy
    obtain ⟨kept, there⟩ := ih kept obeys.2
    have split : turns pid w (m :: moves) = turns pid w [m] + turns pid (w.move m) moves := rfl
    exact ⟨kept, by rw [split, run_cons]; omega⟩

/-- A process that is not over can go on, now or when its timer rings, and time may pass until
then. -/
theorem Keeps.goes_on (kept : w.Keeps ask fin pid)
    (unended : ∀ r, (w.processes[pid]?).map Process.progress ≠ some (.ended r))
    (whole : (w.processes[pid]?).map Process.progress ≠ some .broken) :
    ∃ d, w.Punctual pid (.pass d) ∧ (w.move (.pass d)).canGoOn pid := by
  obtain ⟨p, stands, onTime⟩ := kept
  have later (d : Nat) : (w.move (.pass d)).canGoOn pid = p.canGoOn (w.now + d) := by
    have stands' : ((w.move (.pass d)).processes[pid]?).map Process.progress = some p := stands
    rw [canGoOn, stands']
    rfl
  cases p with
  | ready job =>
    refine ⟨0, ?_, later 0⟩
    rintro d ⟨⟩
    rw [stands]
  | waiting wake e next =>
    have arrives : w.now + (wake - w.now) = wake := Nat.add_sub_cancel' onTime.1
    refine ⟨wake - w.now, ?_, ?_⟩
    · rintro d ⟨⟩
      rw [stands]
      exact Nat.le_of_eq arrives
    · rw [later, arrives]
      exact decide_eq_true (Nat.le_refl _)
  | ended r => exact absurd stands (unended r)
  | broken => exact absurd stands whole

end World

end CourierDispatch
