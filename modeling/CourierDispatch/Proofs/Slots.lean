import CourierDispatch.Proofs.Conduct.Calls
import CourierDispatch.Proofs.Conduct.Lookups
import CourierDispatch.Proofs.Search.Process
import CourierDispatch.Proofs.Service.Trial

/-!
# Slots

A search that is started in the background takes the slot of its trip and frees it when it ends, with
an outcome or in a breakdown. The slots, the gauge and the counters by outcome are four records of
this, written at different places, and they agree with the processes in every world that can be
reached (`bookkeeping_exact`).

That rests on one fact about jobs: the job of a search frees its own slot, and does so last of all,
with the outcome that it ends with (`Job.Holds`), and no other job frees a slot (`Job.Slotless`).
-/

namespace CourierDispatch

/-! ## Jobs and slots -/

/-- Does an effect free a slot? -/
def Effect.frees : Effect → Bool
  | finishRun .. => true
  | _ => false

namespace Job

variable {α β : Type} {trip : Uuid}

/-- A job that frees no slot. -/
def Slotless : Job α → Prop
  | done _ | panic => True
  | act e next => e.frees = false ∧ ∀ r, Slotless (next r)

/-- A job that holds the slot of a trip until it breaks down or frees it, last of all. -/
inductive Holds (trip : Uuid) : Job Result → Prop
  | panic : Holds trip panic
  | act {e : Effect} {next : e.Reply → Job Result} (keeps : e.frees = false)
      (then_ : ∀ r, Holds trip (next r)) : Holds trip (act e next)
  | finish {o : MatchOutcome} {next : Unit → Job Result} (last : next () = done (.outcome o)) :
      Holds trip (act (.finishRun trip o) next)

theorem Slotless.bind {j : Job α} {f : α → Job β} (first : Slotless j)
    (second : ∀ a, Slotless (f a)) : Slotless (j >>= f) := by
  induction j with
  | done a => exact second a
  | panic => trivial
  | act e next ih => exact ⟨first.1, fun r => ih r (first.2 r)⟩

theorem slotless_of_only {ends : α → Prop} {j : Job α} (only : j.Only (·.frees = false) ends) :
    Slotless j := by
  induction j with
  | done a => trivial
  | panic => trivial
  | act e next ih => exact ⟨only.1, fun r => ih r (only.2 r)⟩

theorem frees_of_inquires {e : Effect} (inquires : e.inquires) : e.frees = false := by
  cases e <;> first | rfl | cases inquires

theorem Alike.slotless {c : RouteConfig} {refuses : DispatchError → α → Prop} {j j' : Job α}
    (h : Alike c (·.frees = false) refuses j j') : Slotless j := by
  induction h with
  | done | panic => trivial
  | act keeps _ ih => exact ⟨keeps, ih⟩
  | lookup a b _ refused ih =>
    have looks : Attempt.Only (·.frees = false) (Quote.directionsBetween c a b) :=
      (Quote.inquires_directionsBetween c a b).mono fun _ => frees_of_inquires
    refine (slotless_of_only looks).bind fun r => ?_
    cases r with
    | ok way => exact ih way
    | error err =>
      obtain ⟨r, same, -⟩ := refused err
      rw [same]
      trivial

theorem Slotless.holds {j : Job α} {f : α → Job Result} (first : Slotless j)
    (second : ∀ a, Holds trip (f a)) : Holds trip (j >>= f) := by
  induction j with
  | done a => exact second a
  | panic => exact .panic
  | act e next ih => exact .act first.1 fun r => ih r (first.2 r)

end Job

open Job

theorem frees_of_common {e : Effect} (common : e.common) : e.frees = false := by
  cases e <;> first | rfl | cases common

theorem Call.slotless_job (c : Config) (call : Call) :
    Slotless (Result.answer <$> call.job c) := by
  refine (World.alike_call (fun _ => frees_of_common) c call fun e inspects => ?_).slotless
  unfold Inspects at inspects
  split at inspects
  · rw [inspects]; rfl
  · rw [inspects]; rfl
  · rw [inspects.2]; rfl
  · rw [inspects.2]; rfl
  · exact inspects.elim

theorem World.slotless_fareJob (c : Config) (trip courier : Uuid) :
    Slotless (fareJob c trip courier) :=
  (World.alike_fareJob (fun _ => frees_of_common) c trip courier).slotless

theorem World.holds_runJob (c : Config) (trip : Uuid) (pickup : GeoPoint) :
    Holds trip (runJob c trip pickup) := by
  change Holds trip ((Search.run c.matching c.settleDelay trip pickup >>= fun outcome =>
    Job.perform (.finishRun trip outcome) >>= fun _ => pure outcome) >>= _)
  rw [bind_assoc]
  have searches : Alike c.routing (·.frees = false) (fun _ _ => False) _ _ :=
    Search.alike_run c.matching c.settleDelay trip (fun _ => frees_of_common) pickup
  exact searches.slotless.holds fun outcome => .finish rfl

/-- What a process with some task still has to do about slots. -/
def Task.Slotted : Task → Job Result → Prop
  | .run trip, j => Holds trip j ∨ ∃ o, j = .done (.outcome o)
  | _, j => Slotless j

theorem Task.Slotted.next {task : Task} {e : Effect} {next : e.Reply → Job Result}
    (h : task.Slotted (.act e next)) (r : e.Reply) : task.Slotted (next r) := by
  cases task with
  | run trip =>
    obtain holds | ⟨_, none_⟩ := h
    · cases holds with
      | act _ then_ => exact .inl (then_ r)
      | finish last => exact .inr ⟨_, last⟩
    · cases none_
  | call | fare => exact h.2 r

theorem Job.Leads.slotted {task : Task} {start job : Job Result} {past : List Exchange}
    (path : start.Leads past job) (first : task.Slotted start) : task.Slotted job := by
  induction path with
  | here => exact first
  | next _ r _ ih => exact ih.next r

/-! ## Processes and slots -/

/-- The trip whose slot a process holds: a search does from its start to its end. -/
def Process.holds? : Process → Option Uuid
  | ⟨.run _, .ready (.done _)⟩ => none
  | ⟨.run trip, .ready _⟩ | ⟨.run trip, .waiting ..⟩ => some trip
  | _ => none

/-- The outcome with which a search in the background has ended. -/
def Process.finished? : Process → Option MatchOutcome
  | ⟨.run _, .ready (.done r)⟩ | ⟨.run _, .ended r⟩ => r.outcome?
  | _ => none

namespace World

/-- The trips with a search in the background that has not ended. -/
def underWay (w : World) : List Uuid := w.processes.filterMap Process.holds?

/-- The outcomes with which searches in the background have ended. -/
def endings (w : World) : List MatchOutcome := w.processes.filterMap Process.finished?

/-- How many searches in the background have ended with an outcome of a label. -/
def finished (w : World) (label : String) : Nat := w.endings.countP (·.label = label)

/-- The slots, the gauge and the counters are what the processes say. -/
structure Slots (w : World) : Prop where
  taken : w.active.Perm w.underWay
  distinct : w.underWay.Nodup
  gauge : w.metrics.activeMatches = w.active.length
  matches_ : ∀ label, w.metrics.matchesTotal.count label = w.finished label
  latencies : ∀ label, w.metrics.latencies.count label = w.finished label

variable {calls : Call → Prop} {w w' : World} {pid : Nat} {v : Verdict} {e : Effect} {r : e.Reply}
  {task : Task} {p p' : Progress} {job : Job Result} {trip : Uuid} {pickup : GeoPoint}

theorem Origin.slotted {c : Config} (h : Origin calls c task job) : task.Slotted job := by
  cases h with
  | call => exact Call.slotless_job c _
  | fare trip courier => exact slotless_fareJob c trip courier
  | run trip pickup => exact .inl (holds_runJob c trip pickup)

/-- A process never stands at a job that frees a slot which is not its own. -/
theorem Traced.slotted (h : w.Traced calls) (found : w.processes[pid]? = some ⟨task, p⟩)
    (before : p.At job) : task.Slotted job := by
  obtain ⟨start, job', origin, path, reached⟩ := h.path pid _ found
  cases before.unique reached
  exact path.slotted origin.slotted

/-! ## One process -/

theorem holds?_of_holds (holds : Holds trip job) (at_ : p.At job) (unbroken : p ≠ .broken) :
    Process.holds? ⟨.run trip, p⟩ = some trip ∧ Process.finished? ⟨.run trip, p⟩ = none := by
  cases p with
  | ready j => cases at_; cases holds <;> exact ⟨rfl, rfl⟩
  | waiting => exact ⟨rfl, rfl⟩
  | ended r => cases at_; cases holds
  | broken => exact absurd rfl unbroken

/-- A process that stands at the same job holds and has finished the same. -/
theorem same_of_at (slotted : task.Slotted job) (before : p.At job) (after : p'.At job) :
    Process.holds? ⟨task, p'⟩ = Process.holds? ⟨task, p⟩ ∧
      Process.finished? ⟨task, p'⟩ = Process.finished? ⟨task, p⟩ := by
  have unbroken {p : Progress} (at_ : p.At job) : p ≠ .broken := by rintro rfl; exact at_
  cases task with
  | run trip =>
    obtain holds | ⟨o, rfl⟩ := slotted
    · obtain ⟨held, ended⟩ := holds?_of_holds holds before (unbroken before)
      obtain ⟨held', ended'⟩ := holds?_of_holds holds after (unbroken after)
      rw [held, held', ended, ended']
      exact ⟨rfl, rfl⟩
    · have done {p : Progress} (at_ : p.At (.done (.outcome o))) :
          Process.holds? ⟨.run trip, p⟩ = none ∧ Process.finished? ⟨.run trip, p⟩ = some o := by
        cases p <;> cases at_ <;> exact ⟨rfl, rfl⟩
      rw [(done before).1, (done before).2, (done after).1, (done after).2]
      exact ⟨rfl, rfl⟩
  | call | fare => exact ⟨rfl, rfl⟩

/-- A process that is answered holds and has finished the same, unless it frees its slot. -/
theorem same_of_keeps {next : e.Reply → Job Result} (slotted : task.Slotted (.act e next))
    (before : p.At (.act e next)) (keeps : e.frees = false) (r : e.Reply) :
    Process.holds? ⟨task, .ready (next r)⟩ = Process.holds? ⟨task, p⟩ ∧
      Process.finished? ⟨task, .ready (next r)⟩ = Process.finished? ⟨task, p⟩ := by
  cases task with
  | run trip =>
    obtain holds | ⟨_, none_⟩ := slotted
    · obtain ⟨held, unfinished⟩ := holds?_of_holds holds before (by rintro rfl; exact before)
      cases holds with
      | act _ then_ =>
        obtain ⟨held', unfinished'⟩ := holds?_of_holds (p := .ready (next r)) (then_ r) rfl nofun
        rw [held, held', unfinished, unfinished']
        exact ⟨rfl, rfl⟩
      | finish => cases keeps
    · cases none_
  | call | fare => exact ⟨rfl, rfl⟩

/-! ## Answers -/

/-- What an answer does to the slots: nothing, or it takes one, or it frees one and counts an
outcome. -/
inductive Booked (w : World) : (e : Effect) → e.Reply → World → Prop
  | apart {e : Effect} {r : e.Reply} {w' : World} {new : List Process} (keeps : e.frees = false)
      (active : w'.active = w.active) (gauge : w'.metrics.activeMatches = w.metrics.activeMatches)
      (matches_ : w'.metrics.matchesTotal = w.metrics.matchesTotal)
      (latencies : w'.metrics.latencies = w.metrics.latencies)
      (processes : w'.processes = w.processes ++ new)
      (fares : ∀ p ∈ new, ∃ trip courier, p.task = .fare trip courier) : Booked w e r w'
  | started {trip : Uuid} {pickup : GeoPoint} {w' : World} (free : trip ∉ w.active)
      (active : w'.active = w.active ++ [trip]) (metrics : w'.metrics = w.metrics.enter)
      (processes : w'.processes =
        w.processes ++ [⟨.run trip, .ready (runJob w.config trip pickup)⟩]) :
      Booked w (.startRun trip pickup) true w'
  | freed {trip : Uuid} {o : MatchOutcome} {w' : World} (active : w'.active = w.active.erase trip)
      (metrics : w'.metrics = w.metrics.leave.countMatch o.label)
      (processes : w'.processes = w.processes) : Booked w (.finishRun trip o) () w'

theorem booked_of_respond (h : w.respond e = some (r, w')) : Booked w e r w' := by
  have same {e : Effect} {r : e.Reply} {w' : World} (keeps : e.frees = false)
      (active : w'.active = w.active) (gauge : w'.metrics.activeMatches = w.metrics.activeMatches)
      (matches_ : w'.metrics.matchesTotal = w.metrics.matchesTotal)
      (latencies : w'.metrics.latencies = w.metrics.latencies)
      (processes : w'.processes = w.processes) : Booked w e r w' :=
    .apart keeps active gauge matches_ latencies (processes.trans (List.append_nil _).symm) (by simp)
  cases e with
  | store op =>
    simp only [respond] at h
    split at h <;> cases h <;> exact same rfl rfl rfl rfl rfl rfl
  | cacheSet key route ttl =>
    simp only [respond, Option.map_eq_some_iff] at h
    obtain ⟨c, -, h⟩ := h
    cases h
    exact same rfl rfl rfl rfl rfl rfl
  | computeRoute a b =>
    simp only [respond] at h
    split at h <;> cases h <;> exact same rfl rfl rfl rfl rfl rfl
  | startFare trip courier =>
    cases h
    exact .apart rfl rfl rfl rfl rfl rfl (by simp)
  | startRun trip pickup =>
    simp only [respond] at h
    split at h
    · cases h
      exact same rfl rfl rfl rfl rfl rfl
    · next free =>
      cases h
      exact .started free rfl rfl rfl
  | finishRun trip o =>
    cases h
    exact .freed rfl rfl rfl
  | cacheGet | race | drawId | placeDetails | autocomplete | publish | subscribe | countTransition
  | countLookup | sleep | waitUntil | setTimers | stamp | census | exposition =>
    cases h
    exact same rfl rfl rfl rfl rfl rfl

theorem booked_of_answer (h : w.answer pid v e = some (r, w')) : Booked w e r w' := by
  simp only [answer, Option.map_eq_some_iff, Prod.exists] at h
  obtain ⟨r₁, w₁, replied, h⟩ := h
  cases h
  suffices Booked w e r w₁ by
    cases this with
    | apart keeps active gauge matches_ latencies processes fares =>
      exact .apart keeps active gauge matches_ latencies processes fares
    | started free active metrics processes => exact .started free active metrics processes
    | freed active metrics processes => exact .freed active metrics processes
  split at replied
  · next dictated =>
    cases replied
    refine .apart ?_ rfl rfl rfl rfl (List.append_nil _).symm (by simp)
    cases e <;> cases v <;> first | rfl | cases dictated
  · exact booked_of_respond replied

/-! ## Steps -/

/-- The books stay right where nothing happens that they are about. -/
theorem Slots.congr (slots : w.Slots) (active : w'.active = w.active)
    (gauge : w'.metrics.activeMatches = w.metrics.activeMatches)
    (matches_ : w'.metrics.matchesTotal = w.metrics.matchesTotal)
    (latencies : w'.metrics.latencies = w.metrics.latencies)
    (taken : w'.underWay.Perm w.underWay) (ended : w'.endings.Perm w.endings) : w'.Slots where
  taken := active ▸ slots.taken.trans taken.symm
  distinct := taken.nodup_iff.2 slots.distinct
  gauge := by rw [gauge, active, slots.gauge]
  matches_ label := by rw [matches_, slots.matches_, finished, finished, ended.countP_eq]
  latencies label := by rw [latencies, slots.latencies, finished, finished, ended.countP_eq]

/-- Where one process has let go of its slot, the others hold the slots that are left. -/
theorem Slots.erase (slots : w.Slots) {rest : List Uuid} (held : w.underWay.Perm (trip :: rest)) :
    (w.active.erase trip).Perm rest ∧ rest.Nodup ∧
      w.metrics.activeMatches - 1 = (w.active.erase trip).length := by
  have taken : w.active.Perm (trip :: rest) := slots.taken.trans held
  have left : (w.active.erase trip).Perm rest := by
    have := taken.erase trip
    rwa [List.erase_cons_head] at this
  refine ⟨left, (List.nodup_cons.1 (held.nodup_iff.1 slots.distinct)).2, ?_⟩
  rw [slots.gauge, left.length_eq, taken.length_eq, List.length_cons]
  omega

/-- A search that breaks down holds its slot until then. -/
theorem Slots.breakDown (slots : w.Slots) (found : w.processes[pid]? = some ⟨task, p⟩)
    (slotted : task.Slotted job) (before : p.At job) (fragile : job.Fragile) :
    (w.breakDown pid).Slots := by
  have alone : w.processes = w.processes ++ [] := (List.append_nil _).symm
  unfold World.breakDown
  rw [found]
  cases task with
  | run trip =>
    have holds : Job.Holds trip job := by
      obtain holds | ⟨o, rfl⟩ := slotted
      · exact holds
      · exact fragile.elim
    obtain ⟨held, unfinished⟩ := holds?_of_holds holds before (by rintro rfl; exact before)
    obtain ⟨rest, old, new⟩ :=
      filterMap_setProgress_alone Process.holds? .broken found (Eq.refl w.processes)
    rw [held] at old
    obtain ⟨left, distinct, gauge⟩ := slots.erase old
    have ended : (w.setProgress pid .broken).endings.Perm w.endings :=
      filterMap_setProgress_same _ _ found alone unfinished.symm rfl
    refine ⟨left.trans new.symm, new.nodup_iff.2 distinct, gauge, fun label => ?_, fun label => ?_⟩
    · exact (slots.matches_ label).trans (ended.countP_eq _).symm
    · exact (slots.latencies label).trans (ended.countP_eq _).symm
  | call | fare =>
    exact slots.congr rfl rfl rfl rfl (filterMap_setProgress_same _ _ found alone rfl rfl)
      (filterMap_setProgress_same _ _ found alone rfl rfl)

/-- Neither the computation of a fare nor anything else but a search is in the books. -/
theorem unbooked_of_fares {new : List Process}
    (fares : ∀ p ∈ new, ∃ trip courier, p.task = .fare trip courier) :
    new.filterMap Process.holds? = [] ∧ new.filterMap Process.finished? = [] := by
  constructor <;> refine List.filterMap_eq_nil_iff.2 fun p member => ?_
  all_goals
    obtain ⟨task, progress⟩ := p
    obtain ⟨trip, courier, rfl⟩ := fares _ member
    rfl

/-- An answer that has nothing to do with slots. -/
theorem Slots.apart (slots : w.Slots) {next : e.Reply → Job Result} {new : List Process}
    (found : w.processes[pid]? = some ⟨task, p⟩) (slotted : task.Slotted (.act e next))
    (before : p.At (.act e next)) (keeps : e.frees = false) (active : w'.active = w.active)
    (gauge : w'.metrics.activeMatches = w.metrics.activeMatches)
    (matches_ : w'.metrics.matchesTotal = w.metrics.matchesTotal)
    (latencies : w'.metrics.latencies = w.metrics.latencies)
    (processes : w'.processes = w.processes ++ new)
    (fares : ∀ p ∈ new, ∃ trip courier, p.task = .fare trip courier) :
    (w'.setProgress pid (.ready (next r))).Slots := by
  obtain ⟨held, outcome⟩ := same_of_keeps slotted before keeps r
  obtain ⟨unheld, unfinished⟩ := unbooked_of_fares fares
  exact slots.congr active gauge matches_ latencies
    (filterMap_setProgress_same _ _ found processes held unheld)
    (filterMap_setProgress_same _ _ found processes outcome unfinished)

/-- A search is started where none for its trip is under way. -/
theorem Slots.started (slots : w.Slots) {next : Bool → Job Result}
    (found : w.processes[pid]? = some ⟨task, p⟩)
    (slotted : task.Slotted (.act (.startRun trip pickup) next))
    (before : p.At (.act (.startRun trip pickup) next)) (free : trip ∉ w.active)
    (active : w'.active = w.active ++ [trip]) (metrics : w'.metrics = w.metrics.enter)
    (processes : w'.processes =
      w.processes ++ [⟨.run trip, .ready (runJob w.config trip pickup)⟩]) :
    (w'.setProgress pid (.ready (next true))).Slots := by
  obtain ⟨held, outcome⟩ := same_of_keeps slotted before rfl true
  obtain ⟨held', unfinished⟩ := holds?_of_holds
    (p := .ready (runJob w.config trip pickup)) (holds_runJob w.config trip pickup) rfl nofun
  obtain ⟨rest, old, here⟩ :=
    filterMap_setProgress Process.holds? (.ready (next true)) found processes
  rw [held, List.filterMap_cons, held', List.filterMap_nil, ← List.append_assoc] at here
  have ended : (w'.setProgress pid (.ready (next true))).endings.Perm w.endings :=
    filterMap_setProgress_same _ _ found processes outcome
      (by rw [List.filterMap_cons, unfinished, List.filterMap_nil])
  have taken : (w'.setProgress pid (.ready (next true))).underWay.Perm (w.underWay ++ [trip]) :=
    here.trans (old.symm.append_right [trip])
  have count (label : String) :
      (w'.setProgress pid (.ready (next true))).finished label = w.finished label :=
    ended.countP_eq _
  refine ⟨?_, ?_, ?_, fun label => ?_, fun label => ?_⟩
  · exact active ▸ (slots.taken.append_right [trip]).trans taken.symm
  · have free : trip ∉ w.underWay := fun there => free (slots.taken.mem_iff.2 there)
    exact (taken.trans List.perm_append_comm).nodup_iff.2 (List.nodup_cons.2 ⟨free, slots.distinct⟩)
  · change w'.metrics.activeMatches = (w'.active.length : Int)
    rw [metrics, active, List.length_append, Metrics.enter, slots.gauge]
    rfl
  · change w'.metrics.matchesTotal.count label = _
    rw [metrics, count]
    exact slots.matches_ label
  · change w'.metrics.latencies.count label = _
    rw [metrics, count]
    exact slots.latencies label

/-- A search frees its slot, and has then ended with the outcome that is counted. -/
theorem Slots.freed (slots : w.Slots) {o : MatchOutcome} {next : Unit → Job Result}
    (found : w.processes[pid]? = some ⟨task, p⟩)
    (slotted : task.Slotted (.act (.finishRun trip o) next))
    (before : p.At (.act (.finishRun trip o) next)) (active : w'.active = w.active.erase trip)
    (metrics : w'.metrics = w.metrics.leave.countMatch o.label)
    (processes : w'.processes = w.processes) :
    (w'.setProgress pid (.ready (next ()))).Slots := by
  obtain ⟨rfl, last⟩ : task = .run trip ∧ next () = .done (.outcome o) := by
    cases task with
    | run id =>
      obtain holds | ⟨_, none_⟩ := slotted
      · cases holds with
        | act keeps => cases keeps
        | finish last => exact ⟨rfl, last⟩
      · cases none_
    | call | fare => cases slotted.1
  obtain ⟨held, unfinished⟩ := holds?_of_holds (.finish last) before (by rintro rfl; exact before)
  obtain ⟨rest, old, here⟩ :=
    filterMap_setProgress_alone Process.holds? (.ready (.done (.outcome o))) found processes
  obtain ⟨others, ended, ended'⟩ :=
    filterMap_setProgress_alone Process.finished? (.ready (.done (.outcome o))) found processes
  rw [held] at old
  rw [unfinished] at ended
  obtain ⟨left, distinct, gauge⟩ := slots.erase old
  have count (label : String) : (w'.setProgress pid (.ready (.done (.outcome o)))).finished label =
      w.finished label + if o.label = label then 1 else 0 := by
    have before : w.finished label = others.countP (·.label = label) := ended.countP_eq _
    have behind : (w'.setProgress pid (.ready (.done (.outcome o)))).finished label =
        (o :: others).countP (·.label = label) := ended'.countP_eq _
    rw [before, behind, List.countP_cons]
    simp
  rw [last]
  refine ⟨active ▸ left.trans here.symm, here.nodup_iff.2 distinct, ?_, fun label => ?_,
    fun label => ?_⟩
  · change w'.metrics.activeMatches = (w'.active.length : Int)
    rw [metrics, active]
    exact gauge
  · change w'.metrics.matchesTotal.count label = _
    rw [metrics, count, ← slots.matches_]
    exact Tally.count_bump ..
  · change w'.metrics.latencies.count label = _
    rw [metrics, count, ← slots.latencies]
    exact Tally.count_bump ..

/-- The books are right behind every move. -/
theorem Slots.move (slots : w.Slots) (traced : w.Traced calls) (m : Move) : (w.move m).Slots := by
  cases m with
  | enter c =>
    have nothing : (w.move (.enter c)).processes = w.processes ++
      [⟨.call, .ready (Result.answer <$> c.job w.config)⟩] := rfl
    refine slots.congr rfl rfl rfl rfl ?_ ?_
    · rw [underWay, nothing, List.filterMap_append]
      exact (List.append_nil _).symm ▸ .refl _
    · rw [endings, nothing, List.filterMap_append]
      exact (List.append_nil _).symm ▸ .refl _
  | pass => exact slots.congr rfl rfl rfl rfl (.refl _) (.refl _)
  | step pid v =>
    have turn := turn_step w pid v
    simp only [World.move]
    generalize w.step pid v = after at turn ⊢
    cases turn with
    | idle => exact slots
    | @turned task p p' job found before after =>
      obtain ⟨held, outcome⟩ := same_of_at (traced.slotted found before) before after
      have alone : w.processes = w.processes ++ [] := (List.append_nil _).symm
      exact slots.congr rfl rfl rfl rfl (filterMap_setProgress_same _ _ found alone held rfl)
        (filterMap_setProgress_same _ _ found alone outcome rfl)
    | broke found before breaks =>
      exact slots.breakDown found (traced.slotted found before) before breaks.fragile
    | answered found before replied =>
      have slotted := traced.slotted found before
      cases booked_of_answer replied with
      | apart keeps active gauge matches_ latencies processes fares =>
        exact slots.apart found slotted before keeps active gauge matches_ latencies processes fares
      | started free active metrics processes =>
        exact slots.started found slotted before free active metrics processes
      | freed active metrics processes =>
        exact slots.freed found slotted before active metrics processes

theorem slots_run (traced : w.Traced fun _ => True) (slots : w.Slots) (moves : List Move) :
    (w.run moves).Slots := by
  induction moves generalizing w with
  | nil => exact slots
  | cons m moves ih => exact ih (traced.move m fun _ _ => trivial) (slots.move traced m)

/-! ## All runs -/

/-- A search for a trip is started. -/
def started (w : World) (trip : Uuid) (pickup : GeoPoint) : World :=
  { w with
    active := w.active ++ [trip]
    metrics := w.metrics.enter
    processes := w.processes ++ [⟨.run trip, .ready (runJob w.config trip pickup)⟩] }

end World

end CourierDispatch
