import CourierDispatch.Proofs.Job.Path

/-!
# Complete paths

A path is complete if it leads to the end of its job. The complete paths of one job after another are
those of the first one, each gone on with by the second one (`Leads.then`, `Attempt.leads_bind_iff`). Every
path can be completed, unless the job can break down (`Leads.completed`): whatever was asked so far, the
rest can be answered somehow.
-/

namespace CourierDispatch

/-- Every effect can be replied to. -/
theorem Effect.exists_admitted (e : Effect) : ∃ r, e.Admits r := by
  cases e with
  | store | cacheGet | cacheSet | computeRoute | placeDetails | autocomplete | publish =>
    exact ⟨.error (.internal ""), trivial⟩
  | countTransition | countLookup | sleep | waitUntil | startFare | finishRun => exact ⟨(), trivial⟩
  | subscribe => exact ⟨(0 : Nat), trivial⟩
  | setTimers => exact ⟨(⟨0, 0⟩ : Timers), trivial⟩
  | stamp => exact ⟨(⟨0, 0⟩ : Timestamp), trivial⟩
  | drawId => exact ⟨Uuid.nil, trivial⟩
  | startRun => exact ⟨false, trivial⟩
  | census => exact ⟨(⟨0, 0, 0⟩ : Census), trivial⟩
  | exposition => exact ⟨Metrics.empty, trivial⟩
  | race => exact ⟨Alarm.deadline, trivial⟩

namespace Job

variable {α β : Type} {own later : List Exchange}

theorem Leads.trans {i j k : Job α} (first : Leads i own j) (second : Leads j later k) :
    Leads i (later ++ own) k := by
  induction second with
  | here => exact first
  | next _ r admitted ih => exact ih.next r admitted

/-- A path of the first job is one of both. -/
theorem Leads.inside {j k : Job α} {f : α → Job β} (path : Leads j own k) :
    Leads (j >>= f) own (k >>= f) := by
  induction path with
  | here => exact .here
  | next _ r admitted ih => exact ih.next r admitted

theorem Leads.then {j : Job α} {f : α → Job β} {a : α} {k : Job β} (first : Leads j own (.done a))
    (second : Leads (f a) later k) : Leads (j >>= f) (later ++ own) k :=
  first.inside.trans second

/-- A path that does not break down can be completed. -/
theorem Leads.completed {start j : Job α} (sturdy : ∀ own, ¬ Leads start own .panic)
    (path : Leads start own j) : ∃ later a, Leads start (later ++ own) (.done a) := by
  induction j generalizing own with
  | done a => exact ⟨[], a, path⟩
  | panic => exact absurd path (sturdy own)
  | act e next ih =>
    obtain ⟨r, admitted⟩ := e.exists_admitted
    obtain ⟨later, a, complete⟩ := ih r (path.next r admitted)
    exact ⟨later ++ [⟨e, r⟩], a, by simpa using complete⟩

end Job

namespace Attempt

open Job

variable {α β : Type} {own : List Exchange}

/-- One attempt after another fails with the first one, or goes on with the second one. -/
theorem leads_bind_iff {a : Attempt α} {f : α → Attempt β} {o : Except DispatchError β} :
    (a >>= f).run.Leads own (.done o) ↔
      (∃ err, o = .error err ∧ a.run.Leads own (.done (.error err))) ∨
        ∃ v first second, own = second ++ first ∧ a.run.Leads first (.done (.ok v)) ∧
          (f v).run.Leads second (.done o) := by
  constructor
  · intro path
    obtain ⟨r, first, second, rfl, found, behind⟩ := Leads.split_done (j := a.run) path
    cases r with
    | ok v => exact .inr ⟨v, first, second, rfl, found, behind⟩
    | error err =>
      obtain ⟨rfl, same⟩ := Leads.of_done behind
      cases same
      exact .inl ⟨err, rfl, found⟩
  · rintro (⟨err, rfl, failed⟩ | ⟨v, first, second, rfl, found, behind⟩)
    · exact Leads.then (j := a.run) failed .here
    · exact Leads.then (j := a.run) found behind

end Attempt

end CourierDispatch
