import CourierDispatch.Proofs.Conduct.Calls

/-!
# Who is announcing

A process announces from an accepted report to the last message about it: it may publish before it
reports again (`Job.Announcing`). It is the same to say that it has something to tell
(`Traced.announcing_iff`). A process comes into this state only by a report (`Noted.announcing`).
-/

namespace CourierDispatch

open Job

/-- A job that may publish before it reports again. -/
inductive Job.Announcing {α : Type} : Job α → Prop
  | now (channel : Channel) (update : TripUpdate)
      (next : (Effect.publish channel update).Reply → Job α) :
      Announcing (.act (.publish channel update) next)
  | later {e : Effect} {next : e.Reply → Job α} (unreported : e.reports = false) (r : e.Reply)
      (admitted : e.Admits r) (soon : Announcing (next r)) : Announcing (.act e next)

section

variable {α : Type} {offered : Prop} {past : List Exchange} {j : Job α}

/-- What announces has something to tell. -/
theorem Job.Announcing.unsaid {fin : List Exchange → Option α → Prop} (soon : j.Announcing)
    (meets : Meets (Conduct offered) fin past j) : ¬ Said past := by
  induction soon generalizing past with
  | now channel update next =>
    intro said
    obtain ⟨rest, waits⟩ := meets.1.speaks.first fun _ => none
    rw [said] at waits
    cases waits
  | later unreported r admitted _ ih =>
    exact fun said => ih (meets.2 r admitted) (said.next (written?_of_unreported unreported r))

/-- What has something to tell announces it: it does not end before, and until then it only counts
and reads. -/
theorem Job.announcing_of_unsaid
    (meets : Meets (Conduct offered) (fun past _ => Clear offered past) past j)
    (unsaid : ¬ Said past) : j.Announcing := by
  induction j generalizing past with
  | done => exact absurd meets.said unsaid
  | panic => exact absurd meets.said unsaid
  | act e next ih =>
    have speaks := meets.1.speaks
    cases e with
    | publish channel update => exact .now channel update next
    | countTransition status =>
      exact .later rfl () trivial (ih () (meets.2 () trivial) unsaid)
    | store op =>
      cases op with
      | getCourier id =>
        exact .later rfl (.ok none) trivial
          (ih _ (meets.2 (.ok none) trivial) fun said => unsaid (said_read.1 said))
      | _ => exact absurd (speaks.said rfl) unsaid
    | _ => exact absurd (speaks.said rfl) unsaid

/-- Nothing breaks down with something to tell. -/
theorem Job.Fragile.said
    (meets : Meets (Conduct offered) (fun past _ => Clear offered past) past j)
    (fragile : j.Fragile) : Said past := by
  cases j with
  | done => exact fragile.elim
  | panic => exact meets.said
  | act e next =>
    cases e with
    | cacheSet => exact meets.1.speaks.said rfl
    | _ => exact fragile.elim

end

namespace World

variable {calls : Call → Prop} {w w' : World} {pid q : Nat} {v : Verdict} {e : Effect}
  {r : e.Reply}

/-- A process may publish before it reports again. -/
def Announcing (w : World) (pid : Nat) : Prop :=
  ∃ task p job, w.processes[pid]? = some ⟨task, p⟩ ∧ p.At job ∧ job.Announcing

/-- While a process announces, no other one gets on. -/
def Uninterrupted (w : World) (m : Move) : Prop :=
  ∀ p q v, m = .step q v → w.Announcing p → q = p

theorem Traced.said_of_new (traced : w.Traced calls) (new : w.processes.length ≤ q) :
    Said (w.trace q) := by
  rw [traced.trace_eq_nil new]
  exact said_nil

/-- A process announces as long as it has something to tell. -/
theorem Traced.announcing_iff (h : w.Traced calls) : w.Announcing q ↔ ¬ Said (w.trace q) := by
  constructor
  · rintro ⟨task, p, job, found, at_, soon⟩
    obtain ⟨start, job', origin, path, reached⟩ := h.path q _ found
    cases at_.unique reached
    exact soon.unsaid (origin.meets.of_leads path)
  · intro unsaid
    by_cases there : q < w.processes.length
    · obtain ⟨start, job, origin, path, reached⟩ := h.path q _ (List.getElem?_eq_getElem there)
      have meets := origin.meets.of_leads path
      refine ⟨_, _, job, List.getElem?_eq_getElem there, ?_, Job.announcing_of_unsaid meets unsaid⟩
      cases p : w.processes[q].progress with
      | broken =>
        rw [p] at reached
        exact absurd (Job.Fragile.said meets reached) unsaid
      | waiting => rw [p] at reached; exact reached.1
      | _ => rw [p] at reached; exact reached
    · exact absurd (h.said_of_new (by omega)) unsaid

theorem Traced.uninterrupted_iff (h : w.Traced calls) :
    w.Uninterrupted (.step pid v) ↔ ∀ p, p ≠ pid → Said (w.trace p) := by
  constructor
  · intro alone p other
    refine Decidable.not_not.1 fun unsaid => other ?_
    exact (alone p pid v rfl (h.announcing_iff.2 unsaid)).symm
  · rintro others p q v ⟨⟩ soon
    by_cases own : p = pid
    · exact own.symm
    · exact absurd (others p own) (h.announcing_iff.1 soon)

/-- A process may get on if the others there are have nothing to tell. -/
theorem Traced.uninterrupted_of_said (h : w.Traced calls)
    (said : ∀ p < w.processes.length, p ≠ pid → Said (w.trace p)) :
    w.Uninterrupted (.step pid v) := by
  refine h.uninterrupted_iff.2 fun p other => ?_
  by_cases there : p < w.processes.length
  · exact said p there other
  · exact h.said_of_new (by omega)

/-- A process may get on if the others have not reported. -/
theorem Traced.uninterrupted (h : w.Traced calls)
    (unreported : ∀ p < w.processes.length, p ≠ pid → lastReport (w.trace p) = none) :
    w.Uninterrupted (.step pid v) :=
  h.uninterrupted_of_said fun p there other => said_of_lastReport (unreported p there other)

theorem Silent.announcing (same : Silent w w') (h : w.Traced calls) (h' : w'.Traced calls)
    (soon : w'.Announcing q) : w.Announcing q := by
  have trace : w'.trace q = w.trace q := congrArg (traceOf · q) same.history
  rw [h.announcing_iff, ← trace]
  exact h'.announcing_iff.1 soon

/-- Behind a step a process announces if it has just reported, or if it announced before. -/
theorem Noted.announcing (step : Noted calls w pid v e r w') (h : w.Traced calls)
    (h' : w'.Traced calls) (soon : w'.Announcing q) : q = pid ∧ e.reports ∨ w.Announcing q := by
  have unsaid := h'.announcing_iff.1 soon
  rw [trace_noted step] at unsaid
  rw [h.announcing_iff]
  split at unsaid
  · next own =>
    by_cases reports : e.reports
    · exact .inl ⟨own.symm, reports⟩
    · exact .inr fun said =>
        unsaid (said.next (written?_of_unreported (by simpa using reports) r))
  · exact .inr unsaid

/-- A process that publishes was announcing. -/
theorem Noted.announcing_of_publish {channel : Channel} {u : TripUpdate}
    {r : (Effect.publish channel u).Reply}
    (step : Noted calls w pid v (.publish channel u) r w') : w.Announcing pid := by
  obtain ⟨task, p, start, next, found, before, -⟩ := step.asked
  exact ⟨task, p, _, found, before, .now channel u next⟩

end World

end CourierDispatch
