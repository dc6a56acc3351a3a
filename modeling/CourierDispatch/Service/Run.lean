import CourierDispatch.Service.World

/-!
# Runs

A run of the service is any sequence of moves: a call comes in, a process goes one effect further
under a verdict, or time passes. What holds before a run and is kept by every move holds
after it (`run_induction`).
-/

namespace CourierDispatch

inductive Move
  | enter (c : Call)
  | step (process : Nat) (verdict : Verdict)
  /-- Some milliseconds pass. -/
  | pass (duration : Nat)
  deriving DecidableEq, Repr

namespace World

def move (w : World) : Move → World
  | .enter c => w.enter c
  | .step pid verdict => w.step pid verdict
  | .pass duration => { w with now := w.now + duration }

/-- The world after some moves. -/
def run (w : World) (moves : List Move) : World := moves.foldl move w

@[simp] theorem run_nil (w : World) : w.run [] = w := rfl

@[simp] theorem run_cons (w : World) (m : Move) (moves : List Move) :
    w.run (m :: moves) = (w.move m).run moves := rfl

theorem run_append (w : World) (first rest : List Move) :
    w.run (first ++ rest) = (w.run first).run rest := List.foldl_append

/-- What every move keeps holds of all runs. -/
theorem run_induction (P : World → Prop) (kept : ∀ w m, P w → P (w.move m)) (w : World)
    (moves : List Move) (start : P w) : P (w.run moves) := by
  induction moves generalizing w with
  | nil => exact start
  | cons m moves ih => exact ih (w.move m) (kept w m start)

end World

end CourierDispatch
