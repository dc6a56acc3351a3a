import CourierDispatch.Effect

/-!
# Jobs

A job is a piece of work as a value: it is done, it has broken down, or it asks for one effect
and goes on with the reply. What the effects do is decided where a job is run. Jobs form a
monad (`bind_assoc`, `bind_done`), so they are written in sequence; an `Attempt` is a job that
can be refused.
-/

namespace CourierDispatch

inductive Job (α : Type) : Type
  | done (a : α)
  /-- The work broke down. -/
  | panic
  | act (e : Effect) (next : e.Reply → Job α)

namespace Job

variable {α β γ : Type}

/-- One job after another. -/
protected def bind : Job α → (α → Job β) → Job β
  | done a, f => f a
  | panic, _ => panic
  | act e next, f => act e fun r => (next r).bind f

instance : Monad Job where
  pure := done
  bind := Job.bind

/-- A single effect. -/
def perform (e : Effect) : Job e.Reply := act e done

@[simp] theorem done_bind (a : α) (f : α → Job β) : (done a >>= f) = f a := rfl

@[simp] theorem panic_bind (f : α → Job β) : ((panic : Job α) >>= f) = panic := rfl

@[simp] theorem act_bind (e : Effect) (next : e.Reply → Job α) (f : α → Job β) :
    (act e next >>= f) = act e fun r => next r >>= f := rfl

@[simp] theorem perform_bind (e : Effect) (f : e.Reply → Job β) :
    (perform e >>= f) = act e f := rfl

theorem bind_done (j : Job α) : (j >>= done) = j := by
  induction j with
  | done a => rfl
  | panic => rfl
  | act e next ih => exact congrArg (act e) (funext ih)

theorem bind_assoc (j : Job α) (f : α → Job β) (g : β → Job γ) :
    (j >>= f >>= g) = (j >>= fun a => f a >>= g) := by
  induction j with
  | done a => rfl
  | panic => rfl
  | act e next ih => exact congrArg (act e) (funext ih)

end Job

/-- A job that can be refused. -/
abbrev Attempt (α : Type) := ExceptT DispatchError Job α

namespace Attempt

/-- An effect that cannot be refused. -/
def perform (e : Effect) : Attempt e.Reply := ExceptT.lift (Job.perform e)

/-- A store operation; its refusal ends the attempt. -/
def store (op : StoreOp) : Attempt op.Answer := ExceptT.mk (Job.perform (.store op))

/-- The way between two points; a refusal ends the attempt. -/
def directions (origin destination : GeoPoint) : Attempt Directions :=
  ExceptT.mk (Job.perform (.computeRoute origin destination))

/-- The place with an id; a refusal ends the attempt. -/
def place (id : String) : Attempt Place := ExceptT.mk (Job.perform (.placeDetails id))

/-- Suggestions for a text; a refusal ends the attempt. -/
def suggestions (input : String) : Attempt (List PlaceSuggestion) :=
  ExceptT.mk (Job.perform (.autocomplete input))

/-- An answer that has to be there. -/
def orElse (missing : DispatchError) : Option α → Attempt α
  | some a => pure a
  | none => throw missing

/-- The attempt as a job with its result. -/
def result (a : Attempt α) : Job (Except DispatchError α) := a.run

end Attempt

end CourierDispatch
