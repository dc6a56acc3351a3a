import CourierDispatch.Proofs.Service.Trace

/-!
# Turns

A job that never waits and asks for few effects (`Job.Brisk`) is over as soon as its process has had
enough turns, whatever the others do in between and whatever fails (`over_run`). The computation of a fare
is such a job (`Traced.within_fare`), and so is the making of a quote (`brisk_make`).
-/

namespace CourierDispatch

namespace Job

variable {α β : Type} {m n : Nat} {j : Job α}

/-- A job that never waits, and asks for at most so many effects. -/
def Brisk : Nat → Job α → Prop
  | _, done _ | _, panic => True
  | 0, act .. => False
  | n + 1, act e next => e.waits = false ∧ ∀ r, Brisk n (next r)

@[simp] theorem brisk_done {a : α} : Brisk n (done a) := by cases n <;> trivial

@[simp] theorem brisk_panic : Brisk n (panic : Job α) := by cases n <;> trivial

theorem Brisk.mono (h : Brisk m j) (le : m ≤ n) : Brisk n j := by
  induction j generalizing m n with
  | done | panic => simp
  | act e next ih =>
    cases m with
    | zero => exact h.elim
    | succ m =>
      obtain ⟨n, rfl⟩ : ∃ n', n = n' + 1 := ⟨n - 1, by omega⟩
      exact ⟨h.1, fun r => ih r (h.2 r) (by omega)⟩

theorem Brisk.bind {f : α → Job β} (first : Brisk m j) (second : ∀ a, Brisk n (f a)) :
    Brisk (m + n) (j >>= f) := by
  induction j generalizing m with
  | done a => exact (second a).mono (Nat.le_add_left n m)
  | panic => exact brisk_panic
  | act e next ih =>
    cases m with
    | zero => exact first.elim
    | succ m =>
      rw [Nat.succ_add]
      exact ⟨first.1, fun r => ih r (first.2 r)⟩

theorem brisk_attempt {a : Attempt α} {f : α → Attempt β} (first : Brisk m a.run)
    (second : ∀ v, Brisk n (f v).run) : Brisk (m + n) (a >>= f).run := by
  refine Brisk.bind first fun r => ?_
  cases r with
  | ok v => exact second v
  | error e => exact brisk_done

theorem brisk_perform {e : Effect} (prompt : e.waits = false) : Brisk 1 (Attempt.perform e).run :=
  ⟨prompt, fun _ => brisk_done⟩

theorem brisk_store (op : StoreOp) : Brisk 1 (Attempt.store op).run := ⟨rfl, fun _ => brisk_done⟩

theorem brisk_directions (a b : GeoPoint) : Brisk 1 (Attempt.directions a b).run :=
  ⟨rfl, fun _ => brisk_done⟩

theorem brisk_orElse (missing : DispatchError) (v : Option α) :
    Brisk 0 (Attempt.orElse missing v).run := by
  cases v <;> exact brisk_done

/-- A path uses up the effects that such a job may still ask for. -/
theorem Brisk.spent {past : List Exchange} {k : Job α} (h : Brisk n j) (path : Leads j past k) :
    past.length ≤ n ∧ Brisk (n - past.length) k := by
  induction path with
  | here => exact ⟨Nat.zero_le n, h⟩
  | @next past e next before r admitted ih =>
    obtain ⟨within, rest⟩ := ih
    obtain ⟨m, left⟩ : ∃ m, n - past.length = m + 1 := by
      cases left : n - past.length with
      | zero => rw [left] at rest; exact rest.elim
      | succ m => exact ⟨m, rfl⟩
    rw [left] at rest
    refine ⟨by simp only [List.length_cons]; omega, ?_⟩
    rw [List.length_cons, show n - (past.length + 1) = m by omega]
    exact rest.2 r

theorem Brisk.of_leads {past : List Exchange} {k : Job α} (h : Brisk n j) (path : Leads j past k) :
    Brisk n k := (h.spent path).2.mono (Nat.sub_le ..)

/-! ### Quotes, and the computation of a fare -/

theorem brisk_fetch (c : RouteConfig) (key : String) (a b : GeoPoint) :
    Brisk 2 (Quote.fetch c key a b).run :=
  brisk_attempt (n := 1) (brisk_directions a b) fun _ => brisk_attempt (n := 0) (brisk_perform rfl)
    fun _ => brisk_done

theorem brisk_directionsBetween (c : RouteConfig) (a b : GeoPoint) :
    Brisk 4 (Quote.directionsBetween c a b).run := by
  unfold Quote.directionsBetween
  split
  · exact (brisk_attempt (n := 1) (brisk_perform rfl) fun _ =>
      brisk_attempt (n := 0) (brisk_directions a b) fun _ => brisk_done).mono (by decide)
  · refine brisk_attempt (n := 3) (brisk_perform rfl) fun kept => ?_
    split <;> refine brisk_attempt (n := 2) (brisk_perform rfl) fun _ => ?_
    · exact brisk_done
    · exact brisk_attempt (n := 0) (brisk_fetch c ..) fun _ => brisk_done
    · exact brisk_attempt (n := 0) (brisk_fetch c ..) fun _ => brisk_done

theorem brisk_resolve (input : PlaceInput) : Brisk 1 (Quote.resolve input).run := by
  unfold Quote.resolve
  split
  · exact ⟨rfl, fun _ => brisk_done⟩
  · exact brisk_done

theorem brisk_make (c : RouteConfig) (pricer : Pricer) (pickup dropoff : PlaceInput) :
    Brisk 7 (Quote.make c pricer pickup dropoff).run := by
  refine brisk_attempt (n := 6) (brisk_resolve pickup) fun pickup => ?_
  refine brisk_attempt (n := 5) (brisk_resolve dropoff) fun dropoff => ?_
  refine brisk_attempt (n := 1) (brisk_directionsBetween c ..) fun way => ?_
  refine brisk_attempt (n := 0) ?_ fun _ => brisk_done
  exact brisk_attempt (n := 0) (brisk_store _) fun _ => brisk_done

theorem brisk_chargedDistance (c : RouteConfig) (t : Trip) :
    Brisk 4 (Quote.chargedDistance c t).run := by
  unfold Quote.chargedDistance
  split
  · exact brisk_done
  · exact brisk_attempt (n := 0) (brisk_directionsBetween c ..) fun _ => brisk_done

theorem brisk_record (c : RouteConfig) (pricer : Pricer) (trip courier : Uuid) :
    Brisk 8 (Fare.record c pricer trip courier).run := by
  refine brisk_attempt (n := 7) (brisk_store _) fun t => ?_
  refine brisk_attempt (m := 0) (n := 7) (brisk_orElse _ t) fun t => ?_
  refine brisk_attempt (n := 6) (brisk_store _) fun bound => ?_
  refine brisk_attempt (m := 0) (n := 6) (brisk_orElse _ bound) fun bound => ?_
  refine brisk_attempt (n := 5) (brisk_store _) fun product => ?_
  refine brisk_attempt (m := 0) (n := 5) (brisk_orElse _ product) fun product => ?_
  refine brisk_attempt (m := 4) (n := 1) ?_ fun cost => ?_
  · exact brisk_attempt (n := 0) (brisk_chargedDistance c t) fun _ => brisk_done
  · exact brisk_attempt (n := 0) (brisk_store _) fun _ => brisk_done

end Job

open Job

/-- The process is over after at most so many turns. -/
def Progress.Within : Nat → Progress → Prop
  | _, ended _ | _, broken => True
  | n + 1, ready job => job.Brisk n
  | _, _ => False

@[simp] theorem Progress.within_ended {n : Nat} {r : Result} : (ended r).Within n := by
  cases n <;> trivial

@[simp] theorem Progress.within_broken {n : Nat} : broken.Within n := by cases n <;> trivial

theorem Progress.Within.mono {p : Progress} {m n : Nat} (h : p.Within m) (le : m ≤ n) :
    p.Within n := by
  cases p with
  | ended | broken => simp
  | waiting => cases m <;> exact h.elim
  | ready job =>
    cases m with
    | zero => exact h.elim
    | succ m =>
      obtain ⟨n, rfl⟩ : ∃ n', n = n' + 1 := ⟨n - 1, by omega⟩
      exact Brisk.mono h (by omega)

/-- The process has ended or broken down. -/
def Process.finished (p : Process) : Bool :=
  match p.progress with
  | .ended _ | .broken => true
  | _ => false

theorem Process.finished_iff {task : Task} {p : Progress} :
    (Process.mk task p).finished ↔ p = .broken ∨ ∃ r, p = .ended r := by
  cases p <;> simp [finished]

/-- Is a move a turn of this process? -/
def Move.turns (pid : Nat) : Move → Bool
  | .step q _ => q = pid
  | _ => false

namespace World

variable {calls : Call → Prop} {w w' : World} {pid n : Nat} {task : Task} {p : Progress}

/-- Nobody but the process itself moves it. -/
theorem getElem?_move (w : World) (m : Move) (there : pid < w.processes.length)
    (other : m.turns pid = false) : (w.move m).processes[pid]? = w.processes[pid]? := by
  cases m with
  | enter c => exact List.getElem?_append_left there
  | pass => rfl
  | step q v =>
    have apart : q ≠ pid := by simpa [Move.turns] using other
    have turn := turn_step w q v
    simp only [World.move]
    generalize w.step q v = after at turn ⊢
    cases turn with
    | idle => rfl
    | turned => rw [getElem?_setProgress, if_neg apart]
    | broke =>
      have same : (w.setProgress q .broken).processes[pid]? = w.processes[pid]? := by
        rw [getElem?_setProgress, if_neg apart]
      unfold breakDown
      split <;> exact same
    | answered _ _ replied =>
      obtain ⟨-, ⟨new, processes, -⟩, -⟩ := replied_of_answer replied
      rw [getElem?_setProgress, if_neg apart, processes, List.getElem?_append_left there]

/-- What a process is for does not change. -/
theorem task_move (w : World) (m : Move) (there : pid < w.processes.length) :
    ((w.move m).processes[pid]?).map Process.task = (w.processes[pid]?).map Process.task := by
  have into (w' : World) (q : Nat) (p' : Progress) :
      ((w'.setProgress q p').processes[pid]?).map Process.task =
        (w'.processes[pid]?).map Process.task := by
    rw [getElem?_setProgress]
    split
    · cases w'.processes[pid]? <;> rfl
    · rfl
  cases m with
  | enter c => exact congrArg _ (List.getElem?_append_left there)
  | pass => rfl
  | step q v =>
    have turn := turn_step w q v
    simp only [World.move]
    generalize w.step q v = after at turn ⊢
    cases turn with
    | idle => rfl
    | turned => exact into ..
    | broke =>
      unfold breakDown
      split <;> exact into ..
    | answered _ _ replied =>
      obtain ⟨-, ⟨new, processes, -⟩, -⟩ := replied_of_answer replied
      rw [into, processes, List.getElem?_append_left there]

/-- A process stays, and is for what it was for. -/
theorem there_run (found : w.processes[pid]? = some ⟨task, p⟩) (moves : List Move) :
    ∃ p', (w.run moves).processes[pid]? = some ⟨task, p'⟩ := by
  refine run_induction (fun w => ∃ p', w.processes[pid]? = some ⟨task, p'⟩) (fun w m ⟨p, found⟩ => ?_) w
    moves ⟨p, found⟩
  have same := task_move w m (List.getElem?_eq_some_iff.1 found).1
  rw [found] at same
  obtain ⟨⟨_, p'⟩, found', rfl⟩ := Option.map_eq_some_iff.1 same
  exact ⟨p', found'⟩

theorem ended_move {r : Result} (found : w.processes[pid]? = some ⟨task, .ended r⟩) (m : Move) :
    (w.move m).processes[pid]? = some ⟨task, .ended r⟩ := by
  cases turns : m.turns pid with
  | false => rw [getElem?_move w m (List.getElem?_eq_some_iff.1 found).1 turns, found]
  | true =>
    cases m with
    | step q v =>
      obtain rfl : q = pid := by simpa [Move.turns] using turns
      simp [World.move, step, found]
    | _ => cases turns

/-- A process that has ended stays as it is. -/
theorem ended_run {r : Result} (found : w.processes[pid]? = some ⟨task, .ended r⟩)
    (moves : List Move) : (w.run moves).processes[pid]? = some ⟨task, .ended r⟩ :=
  run_induction (fun w => w.processes[pid]? = some ⟨task, .ended r⟩)
    (fun _ m found => ended_move found m) w moves found

/-- A process that a move leaves broken down was so before, or has broken down at its job. -/
theorem broken_move (m : Move) (found' : (w.move m).processes[pid]? = some ⟨task, .broken⟩) :
    w.processes[pid]? = some ⟨task, .broken⟩ ∨
      ∃ p job, w.processes[pid]? = some ⟨task, p⟩ ∧ p.At job ∧ w.Breaks job := by
  -- A process that has been put into another state was not left broken down by that.
  have into (w' : World) (q : Nat) (p' : Progress) (whole : p' ≠ .broken)
      (found' : (w'.setProgress q p').processes[pid]? = some ⟨task, .broken⟩) :
      w'.processes[pid]? = some ⟨task, .broken⟩ := by
    rw [getElem?_setProgress] at found'
    split at found'
    · obtain ⟨_, -, same⟩ := Option.map_eq_some_iff.1 found'
      cases same
      exact absurd rfl whole
    · exact found'
  -- Nothing begins broken down.
  have started (new : List Process) (ready : ∀ p ∈ new, ∃ job, p.progress = .ready job)
      (found' : (w.processes ++ new)[pid]? = some ⟨task, .broken⟩) :
      w.processes[pid]? = some ⟨task, .broken⟩ := by
    rw [List.getElem?_append] at found'
    split at found'
    · exact found'
    · obtain ⟨job, other⟩ := ready _ (List.mem_of_getElem? found')
      cases other
  cases m with
  | enter c => exact .inl (started [_] (by simp) found')
  | pass => exact .inl found'
  | step q v =>
    have turn := turn_step w q v
    simp only [World.move] at found'
    generalize w.step q v = after at turn found'
    cases turn with
    | idle => exact .inl found'
    | @turned _ p p' job found before after =>
      have whole : p' ≠ .broken := by
        rintro rfl
        exact after
      exact .inl (into w q p' whole found')
    | @broke task' p job found before breaks =>
      have broken : (w.setProgress q .broken).processes[pid]? = some ⟨task, .broken⟩ := by
        unfold breakDown at found'
        split at found' <;> exact found'
      rw [getElem?_setProgress] at broken
      split at broken
      · next own =>
        subst own
        rw [found] at broken
        cases broken
        exact .inr ⟨p, job, found, before, breaks⟩
      · exact .inl broken
    | @answered _ _ _ next _ r w' found before replied =>
      obtain ⟨-, ⟨new, processes, spawned⟩, -⟩ := replied_of_answer replied
      have behind := into w' q (.ready (next r)) (by rintro ⟨⟩) found'
      rw [processes] at behind
      refine .inl (started new (fun p member => ?_) behind)
      cases spawned p member <;> exact ⟨_, rfl⟩

/-- A turn takes such a process on. -/
theorem within_step (found : w.processes[pid]? = some ⟨task, p⟩) (within : p.Within (n + 1))
    (v : Verdict) : ∃ p', (w.step pid v).processes[pid]? = some ⟨task, p'⟩ ∧ p'.Within n := by
  have into (w' : World) (p' : Progress) {q : Progress}
      (there : w'.processes[pid]? = some ⟨task, q⟩) :
      (w'.setProgress pid p').processes[pid]? = some ⟨task, p'⟩ := by
    rw [getElem?_setProgress, if_pos rfl, there]
    rfl
  have breaks : (w.breakDown pid).processes[pid]? = some ⟨task, .broken⟩ := by
    have broken := into w .broken found
    unfold breakDown
    split <;> exact broken
  unfold step
  rw [found]
  cases p with
  | ended r => exact ⟨_, found, by simp⟩
  | broken => exact ⟨_, found, by simp⟩
  | waiting => exact within.elim
  | ready job =>
    cases job with
    | done r => exact ⟨_, into w _ found, by simp⟩
    | panic => exact ⟨_, breaks, by simp⟩
    | act e next =>
      cases n with
      | zero => exact within.elim
      | succ n =>
        obtain ⟨prompt, brisk⟩ := within
        have due : e.wake? w.now = none := by
          cases later : e.wake? w.now with
          | none => rfl
          | some wake => rw [Effect.waits_of_wake? later] at prompt; cases prompt
        simp only [Option.map_some, due, proceed]
        split
        · next r w' replied =>
          obtain ⟨-, ⟨new, processes, -⟩, -⟩ := replied_of_answer replied
          refine ⟨_, into w' _ (q := .ready (.act e next)) ?_, brisk r⟩
          rw [processes, List.getElem?_append_left (List.getElem?_eq_some_iff.1 found).1, found]
        · exact ⟨_, breaks, by simp⟩

theorem within_run (found : w.processes[pid]? = some ⟨task, p⟩) (moves : List Move)
    (within : p.Within (n + moves.countP (Move.turns pid))) :
    ∃ p', (w.run moves).processes[pid]? = some ⟨task, p'⟩ ∧ p'.Within n := by
  induction moves generalizing w p with
  | nil => exact ⟨p, found, within⟩
  | cons m moves ih =>
    cases turns : m.turns pid with
    | false =>
      rw [List.countP_cons_of_neg (by simp [turns])] at within
      have there := getElem?_move w m (List.getElem?_eq_some_iff.1 found).1 turns
      exact ih (there.trans found) within
    | true =>
      rw [List.countP_cons_of_pos turns] at within
      obtain ⟨v, rfl⟩ : ∃ v, m = .step pid v := by
        cases m with
        | step q v =>
          simp only [Move.turns, decide_eq_true_eq] at turns
          exact ⟨v, turns ▸ rfl⟩
        | _ => cases turns
      obtain ⟨p', found', within'⟩ := within_step found within v
      exact ih found' within'

/-- After enough turns such a process has ended or broken down. -/
theorem over_run (found : w.processes[pid]? = some ⟨task, p⟩) (within : p.Within n)
    {moves : List Move} (enough : n ≤ moves.countP (Move.turns pid)) :
    ∃ p, (w.run moves).processes[pid]? = some ⟨task, p⟩ ∧ (p = .broken ∨ ∃ r, p = .ended r) := by
  obtain ⟨p, found, finished⟩ := within_run (n := 0) found moves (within.mono (by omega))
  refine ⟨p, found, ?_⟩
  cases p with
  | broken => exact .inl rfl
  | ended r => exact .inr ⟨r, rfl⟩
  | _ => exact finished.elim

/-- A process that follows such a job is over after one turn more than the job asks for effects. -/
theorem Follows.within {start : Job Result} (h : w.Follows pid start) (brisk : start.Brisk n)
    (found : w.processes[pid]? = some ⟨task, p⟩) : p.Within (n + 1) := by
  obtain ⟨process, job, there, path, reached⟩ := h
  rw [found] at there
  cases there
  have brisk := brisk.of_leads path
  cases p with
  | ready job' => exact (show job = job' from reached) ▸ brisk
  | waiting wake e next =>
    obtain ⟨rfl, waits⟩ := reached
    cases n with
    | zero => exact brisk.elim
    | succ n => exact absurd waits (by simp [brisk.1])
  | ended | broken => simp

/-- The computation of a fare is over after nine turns. -/
theorem Traced.within_fare (h : w.Traced calls) {trip courier : Uuid}
    (found : w.processes[pid]? = some ⟨.fare trip courier, p⟩) : p.Within 9 := by
  obtain ⟨start, job, origin, path, reached⟩ := h.path pid _ found
  cases origin
  have whole : Brisk 8 (fareJob w.config trip courier) :=
    Brisk.bind (n := 0) (brisk_record w.config.routing w.config.pricer trip courier)
      fun _ => brisk_done
  exact Follows.within ⟨_, job, found, path, reached⟩ whole found

end World

end CourierDispatch
