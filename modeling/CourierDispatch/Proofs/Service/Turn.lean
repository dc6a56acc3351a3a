import CourierDispatch.Proofs.Job.Path
import CourierDispatch.Service.Run

/-!
# What a move does

A move of the service is a call that enters, time that passes, or a step of one process. A step
answers at most one effect, and `turn_step` lists all that can happen in it: nothing, a process that
ends or begins to wait, a breakdown, or an answer. `Replied` says what an answer leaves behind in
the world.
-/

namespace CourierDispatch

/-- The job that a process stands at. One that has broken down stands at none. -/
def Progress.At : Progress → Job Result → Prop
  | ready job, j => j = job
  | waiting _ e next, j => j = .act e next
  | ended r, j => j = .done r
  | broken, _ => False

/-- A job that may break down in its next step. -/
def Job.Fragile {α : Type} : Job α → Prop
  | panic => True
  | act (.cacheSet ..) _ => True
  | _ => False

/-- An effect that may have to wait. -/
def Effect.waits : Effect → Bool
  | sleep _ | waitUntil _ | race .. => true
  | _ => false

theorem Effect.waits_of_wake? {e : Effect} {now wake : Nat} (h : e.wake? now = some wake) :
    e.waits := by
  unfold wake? at h
  split at h
  · rfl
  · rfl
  · rfl
  · cases h

/-- The id that an exchange draws. -/
def Exchange.drawn? : Exchange → Option Uuid
  | ⟨.drawId, id⟩ => some id
  | _ => none

/-- What a store replies to an effect under a verdict, and the store behind it. -/
inductive Store.Answers (s : Store) (now : Timestamp) (v : Verdict) :
    (e : Effect) → e.Reply → Store → Prop
  | performed {op : StoreOp} {a : op.Answer} {s' : Store} (h : s.perform now op = .ok (a, s')) :
      Answers s now v (.store op) (.ok a) s'
  | declined {op : StoreOp} {err : DispatchError} (h : s.perform now op = .error err) :
      Answers s now v (.store op) (.error err) s
  | dictated {e : Effect} {r : e.Reply} (h : e.dictated v = some r) : Answers s now v e r s
  | apart {e : Effect} {r : e.Reply} (h : ∀ op, e ≠ .store op) : Answers s now v e r s

/-- A store changes only by an operation that it accepts. -/
theorem Store.Answers.changed {s s' : Store} {now : Timestamp} {v : Verdict} {e : Effect}
    {r : e.Reply} (h : s.Answers now v e r s') :
    s' = s ∨ ∃ op a, s.perform now op = .ok (a, s') ∧
      (⟨e, r⟩ : Exchange) = ⟨.store op, .ok a⟩ := by
  cases h with
  | performed done => exact .inr ⟨_, _, done, rfl⟩
  | declined | dictated | apart => exact .inl rfl

/-- An answer that is not that of finding nothing comes from the store. -/
theorem Store.Answers.told {s s' : Store} {now : Timestamp} {v : Verdict} {op : StoreOp}
    {a : op.Answer} (h : s.Answers now v (.store op) (.ok a) s')
    (something : (Effect.store op).nothing ≠ some (.ok a)) : s.perform now op = .ok (a, s') := by
  cases h with
  | performed done => exact done
  | dictated h =>
    cases v with
    | proceed => cases h
    | refuse err => cases h
    | absent => exact absurd h something
  | apart h => exact absurd rfl (h op)

theorem Store.Answers.accepted {s s' : Store} {now : Timestamp} {v : Verdict} {op : StoreOp}
    {a : op.Answer} (h : s.Answers now v (.store op) (.ok a) s')
    (asked : (Effect.store op).nothing = none) : s.perform now op = .ok (a, s') :=
  h.told (by rw [asked]; nofun)

/-- An operation that goes through is performed. -/
theorem Store.Answers.performed_of_proceed {s s' : Store} {now : Timestamp} {op : StoreOp}
    {r : (Effect.store op).Reply} (h : s.Answers now .proceed (.store op) r s') :
    (∃ a, r = .ok a ∧ s.perform now op = .ok (a, s')) ∨
      ∃ err, r = .error err ∧ s.perform now op = .error err ∧ s' = s := by
  cases h with
  | performed done => exact .inl ⟨_, rfl, done⟩
  | declined h => exact .inr ⟨_, rfl, h, rfl⟩
  | dictated h => cases h
  | apart h => exact absurd rfl (h op)

namespace World

variable {w w' : World} {pid : Nat} {v : Verdict} {e : Effect} {r : e.Reply}

/-- A process that an effect starts in the background. -/
inductive Spawned (c : Config) : Process → Prop
  | fare (trip courier : Uuid) :
      Spawned c ⟨.fare trip courier, .ready (fareJob c trip courier)⟩
  | run (trip : Uuid) (pickup : GeoPoint) : Spawned c ⟨.run trip, .ready (runJob c trip pickup)⟩

/-- Processes were started, if anything. -/
def Starts (w w' : World) : Prop :=
  ∃ new, w'.processes = w.processes ++ new ∧ ∀ p ∈ new, Spawned w.config p

theorem Starts.of_same (h : w'.processes = w.processes) : Starts w w' := ⟨[], by simp [h], by simp⟩

/-- The records behind a reply. -/
structure Replied (w : World) (v : Verdict) (e : Effect) (r : e.Reply) (w' : World) : Prop where
  config : w'.config = w.config
  around : w'.around = w.around
  store : w.store.Answers w.stamp v e r w'.store
  admitted : e.Admits r
  drawn : match (⟨e, r⟩ : Exchange).drawn? with
    | some id => id = w.around.freshId w.drawn ∧ w'.drawn = w.drawn + 1
    | none => w'.drawn = w.drawn

theorem replied_of_dictated (h : e.dictated v = some r) : Replied w v e r w := by
  refine ⟨rfl, rfl, .dictated h, ?_, ?_⟩
  · cases e <;> cases v <;> simp [Effect.dictated, Effect.refused, Effect.nothing] at h <;> trivial
  · cases e <;> cases v <;> simp [Effect.dictated, Effect.refused, Effect.nothing] at h <;> rfl

/-- A reply to an effect that neither asks the store nor draws an id. -/
theorem Replied.of_apart (apart : ∀ op, e ≠ .store op) (admitted : e.Admits r)
    (nothing : (⟨e, r⟩ : Exchange).drawn? = none) (config : w'.config = w.config)
    (around : w'.around = w.around) (store : w'.store = w.store) (drawn : w'.drawn = w.drawn) :
    Replied w v e r w' :=
  ⟨config, around, store ▸ .apart apart, admitted, by rw [nothing]; exact drawn⟩

theorem replied_of_respond (h : w.respond e = some (r, w')) : Replied w v e r w' ∧ Starts w w' := by
  cases e with
  | store op =>
    simp only [respond] at h
    split at h
    · next a s done =>
      cases h
      exact ⟨⟨rfl, rfl, .performed done, trivial, rfl⟩, .of_same rfl⟩
    · next err declined =>
      cases h
      exact ⟨⟨rfl, rfl, .declined declined, trivial, rfl⟩, .of_same rfl⟩
  | cacheSet key route ttl =>
    simp only [respond, Option.map_eq_some_iff] at h
    obtain ⟨c, -, h⟩ := h
    cases h
    exact ⟨.of_apart (by simp) trivial rfl rfl rfl rfl rfl, .of_same rfl⟩
  | computeRoute a b =>
    simp only [respond] at h
    split at h <;> cases h <;>
      exact ⟨.of_apart (by simp) trivial rfl rfl rfl rfl rfl, .of_same rfl⟩
  | race deadline due =>
    cases h
    refine ⟨.of_apart (by simp) ?_ rfl rfl rfl rfl rfl, .of_same rfl⟩
    unfold notice
    split
    · next rings => exact rings.1
    · trivial
  | drawId =>
    cases h
    exact ⟨⟨rfl, rfl, .apart (by simp), trivial, rfl, rfl⟩, .of_same rfl⟩
  | startFare trip courier =>
    cases h
    exact ⟨.of_apart (by simp) trivial rfl rfl rfl rfl rfl,
      _, rfl, by simpa using Spawned.fare trip courier⟩
  | startRun trip pickup =>
    simp only [respond] at h
    split at h <;> cases h
    · exact ⟨.of_apart (by simp) trivial rfl rfl rfl rfl rfl, .of_same rfl⟩
    · exact ⟨.of_apart (by simp) trivial rfl rfl rfl rfl rfl,
        _, rfl, by simpa using Spawned.run trip pickup⟩
  | cacheGet | placeDetails | autocomplete | publish | subscribe | countTransition | countLookup
  | sleep | waitUntil | setTimers | stamp | finishRun | census | exposition =>
    cases h
    exact ⟨.of_apart (by simp) trivial rfl rfl rfl rfl rfl, .of_same rfl⟩

/-- A reply takes no time and notes nothing. -/
theorem same_of_respond (h : w.respond e = some (r, w')) :
    w'.history = w.history ∧ w'.now = w.now := by
  cases e <;> simp only [respond, Option.map_eq_some_iff, Option.some.injEq] at h
  case cacheSet => obtain ⟨c, -, h⟩ := h; cases h; exact ⟨rfl, rfl⟩
  all_goals (try split at h) <;> cases h <;> exact ⟨rfl, rfl⟩

/-- An answer changes the world as its reply does, and is noted. -/
theorem replied_of_answer (h : w.answer pid v e = some (r, w')) :
    Replied w v e r w' ∧ Starts w w' ∧ w'.history = ⟨w.now, pid, e, r⟩ :: w.history := by
  simp only [answer, Option.map_eq_some_iff, Prod.exists] at h
  obtain ⟨r₁, w₁, replied, h⟩ := h
  cases h
  suffices Replied w v e r w₁ ∧ Starts w w₁ ∧ w₁.history = w.history ∧ w₁.now = w.now by
    obtain ⟨⟨config, around, store, admitted, drawn⟩, starts, history, now⟩ := this
    exact ⟨⟨config, around, store, admitted, drawn⟩, starts, by rw [history, now]⟩
  split at replied
  · next dictated =>
    cases replied
    exact ⟨replied_of_dictated dictated, .of_same rfl, rfl, rfl⟩
  · obtain ⟨reply, starts⟩ := replied_of_respond (v := v) replied
    exact ⟨reply, starts, same_of_respond replied⟩

/-- An answer takes no time. -/
theorem now_of_answer (replied : w.answer pid v e = some (r, w')) : w'.now = w.now := by
  simp only [answer, Option.map_eq_some_iff, Prod.exists] at replied
  obtain ⟨r', before, replied, same⟩ := replied
  cases same
  split at replied
  · cases replied; rfl
  · exact (same_of_respond replied).2

/-! ## Steps -/

/-- A job that breaks down in its next step: it panics, or it keeps directions whose expiry the clock
of the cache cannot express. -/
def Breaks (w : World) : Job Result → Prop
  | .panic => True
  | .act (.cacheSet _ _ ttl) _ => RouteCache.clockLimit ≤ w.cacheTime + ttl
  | _ => False

theorem Breaks.fragile {job : Job Result} (h : w.Breaks job) : job.Fragile := by
  cases job with
  | done => exact h.elim
  | panic => trivial
  | act e next => cases e <;> trivial

/-- What one step of a process does. A process that waits is answered without a verdict. -/
inductive Turn (w : World) (pid : Nat) (v : Verdict) : World → Prop
  | idle : Turn w pid v w
  | turned {task : Task} {p p' : Progress} {job : Job Result}
      (found : w.processes[pid]? = some ⟨task, p⟩) (before : p.At job) (after : p'.At job)
      (waits : ∀ wake e next, p' = .waiting wake e next → e.waits) :
      Turn w pid v (w.setProgress pid p')
  | broke {task : Task} {p : Progress} {job : Job Result}
      (found : w.processes[pid]? = some ⟨task, p⟩) (before : p.At job) (breaks : w.Breaks job) :
      Turn w pid v (w.breakDown pid)
  | answered {task : Task} {p : Progress} {e : Effect} {next : e.Reply → Job Result}
      {used : Verdict} {r : e.Reply} {w' : World} (found : w.processes[pid]? = some ⟨task, p⟩)
      (before : p.At (.act e next)) (replied : w.answer pid used e = some (r, w'))
      (verdict : used = v ∧ p = .ready (.act e next) ∨ used = .proceed) :
      Turn w pid v (w'.setProgress pid (.ready (next r)))

/-- Only a write to the cache can break down. -/
theorem breaks_of_answer {next : e.Reply → Job Result} (h : w.answer pid v e = none) :
    w.Breaks (.act e next) := by
  simp only [answer, Option.map_eq_none_iff] at h
  split at h
  · cases h
  · cases e with
    | cacheSet key route ttl =>
      simp only [respond, Option.map_eq_none_iff, RouteCache.set?] at h
      split at h
      · cases h
      · next late => exact Nat.le_of_not_lt late
    | store | computeRoute | startRun =>
      simp only [respond] at h
      split at h <;> cases h
    | _ => cases h

theorem turn_proceed {task : Task} {p : Progress} {next : e.Reply → Job Result} {used : Verdict}
    (found : w.processes[pid]? = some ⟨task, p⟩) (before : p.At (.act e next))
    (verdict : used = v ∧ p = .ready (.act e next) ∨ used = .proceed) :
    Turn w pid v (w.proceed pid used e next) := by
  unfold proceed
  split
  · next r w' replied => exact .answered found before replied verdict
  · next broke => exact .broke found before (breaks_of_answer broke)

theorem turn_step (w : World) (pid : Nat) (v : Verdict) : Turn w pid v (w.step pid v) := by
  unfold step
  cases found : w.processes[pid]? with
  | none => exact .idle
  | some process =>
    obtain ⟨task, p⟩ := process
    simp only [Option.map_some]
    cases p with
    | ready job =>
      cases job with
      | done r => exact .turned found rfl rfl fun _ _ _ other => by cases other
      | panic => exact .broke found rfl trivial
      | act e next =>
        simp only
        split
        · next later =>
          exact .turned found rfl rfl (by rintro _ _ _ ⟨⟩; exact Effect.waits_of_wake? later)
        · exact turn_proceed found rfl (.inl ⟨rfl, rfl⟩)
    | waiting wake e next =>
      simp only
      split
      · exact turn_proceed found rfl (.inr rfl)
      · exact .idle
    | ended => exact .idle
    | broken => exact .idle

/-! ## Steps with an answer -/

/-- An answer is noted, and nothing else has changed. -/
def told (w : World) (pid : Nat) (e : Effect) (r : e.Reply) : World :=
  { w with history := ⟨w.now, pid, e, r⟩ :: w.history }

theorem answer_of_respond (free : e.dictated v = none) (replied : w.respond e = some (r, w')) :
    w.answer pid v e = some (r, w'.told pid e r) := by
  rw [answer, free]
  simp only [replied, Option.map_some]
  rfl

theorem answer_of_dictated (h : e.dictated v = some r) :
    w.answer pid v e = some (r, w.told pid e r) := by
  rw [answer, h]
  rfl

theorem step_of_answer {task : Task} {next : e.Reply → Job Result}
    (found : w.processes[pid]? = some ⟨task, .ready (.act e next)⟩) (due : e.wake? w.now = none)
    (replied : w.answer pid v e = some (r, w')) :
    w.step pid v = w'.setProgress pid (.ready (next r)) := by
  simp only [step, found, Option.map_some, due, proceed, replied]

section Lists

variable {α : Type} (f : Process → Option α) (p' : Progress) {new : List Process} {task : Task}
  {p : Progress}

/-- The lists of what processes hold, where one process gets into a new state and others are
started. -/
theorem filterMap_setProgress (found : w.processes[pid]? = some ⟨task, p⟩)
    (processes : w'.processes = w.processes ++ new) :
    ∃ rest, (w.processes.filterMap f).Perm ((f ⟨task, p⟩).toList ++ rest) ∧
      ((w'.setProgress pid p').processes.filterMap f).Perm
        ((f ⟨task, p'⟩).toList ++ (rest ++ new.filterMap f)) := by
  have middle (front back : List Process) (q : Process) :
      ((front ++ q :: back).filterMap f).Perm ((f q).toList ++ (front ++ back).filterMap f) := by
    refine (List.perm_middle.filterMap f).trans ?_
    rw [List.filterMap_cons]
    cases f q <;> exact .refl _
  obtain ⟨inside, at_⟩ := List.getElem?_eq_some_iff.1 found
  have split : w.processes = w.processes.take pid ++ ⟨task, p⟩ :: w.processes.drop (pid + 1) := by
    rw [← at_, ← List.drop_eq_getElem_cons inside, List.take_append_drop]
  have later : (w'.setProgress pid p').processes =
      w.processes.take pid ++ ⟨task, p'⟩ :: (w.processes.drop (pid + 1) ++ new) := by
    rw [setProgress, processes, List.modify_eq_take_cons_drop (by simp; omega)]
    simp [List.getElem_append_left inside, at_, List.take_append_of_le_length (Nat.le_of_lt inside),
      List.drop_append_of_le_length (Nat.succ_le_of_lt inside)]
  refine ⟨(w.processes.take pid ++ w.processes.drop (pid + 1)).filterMap f, ?_, ?_⟩
  · have here := middle (w.processes.take pid) (w.processes.drop (pid + 1)) ⟨task, p⟩
    rwa [← split] at here
  · rw [later, ← List.filterMap_append, List.append_assoc]
    exact middle ..

/-- Likewise where no others are started. -/
theorem filterMap_setProgress_alone (found : w.processes[pid]? = some ⟨task, p⟩)
    (processes : w'.processes = w.processes) :
    ∃ rest, (w.processes.filterMap f).Perm ((f ⟨task, p⟩).toList ++ rest) ∧
      ((w'.setProgress pid p').processes.filterMap f).Perm ((f ⟨task, p'⟩).toList ++ rest) := by
  obtain ⟨rest, before, after⟩ :=
    filterMap_setProgress f p' found (processes.trans (List.append_nil _).symm)
  rw [List.filterMap_nil, List.append_nil] at after
  exact ⟨rest, before, after⟩

/-- Where the process holds the same in its new state and the others hold nothing, the list stays. -/
theorem filterMap_setProgress_same (found : w.processes[pid]? = some ⟨task, p⟩)
    (processes : w'.processes = w.processes ++ new) (same : f ⟨task, p'⟩ = f ⟨task, p⟩)
    (nothing : new.filterMap f = []) :
    ((w'.setProgress pid p').processes.filterMap f).Perm (w.processes.filterMap f) := by
  obtain ⟨rest, before, after⟩ := filterMap_setProgress f p' found processes
  rw [nothing, List.append_nil, same] at after
  exact after.trans before.symm

end Lists

end World

end CourierDispatch
