import CourierDispatch.Proofs.Service.FreshId

/-!
# Runs that keep to a rule

A rule says which moves are made in which world, and a run obeys it if each of its moves does
(`Obeys`). What a silent move keeps, and what a step with a reply keeps as far as the rule allows
it, holds at the end of every run that obeys the rule (`always_run`); what a step keeps that draws a
new id holds if no id is drawn twice (`keeps_run`).
-/

namespace CourierDispatch.World

variable {calls : Call → Prop} {rule : World → Move → Prop} {w w' : World} {m : Move}
  {moves : List Move}

/-! ## Rules -/

/-- Only such calls come in. -/
def Enters (calls : Call → Prop) (_ : World) (m : Move) : Prop := ∀ c, m = .enter c → calls c

theorem enters_any : w.Enters (fun _ => True) m := fun _ _ => trivial

/-- The store does what it is asked. -/
def StoreHolds (w : World) (m : Move) : Prop :=
  ∀ pid v op, m = .step pid v → w.Asks pid (.store op) → v = .proceed

/-- The store may fail, but it does not fail by taking a trip for closed. -/
def HonestFailures (w : World) (m : Move) : Prop :=
  ∀ pid v op, m = .step pid v → w.Asks pid (.store op) →
    ∀ trip status, v ≠ .refuse (.tripClosed trip status)

theorem StoreHolds.honest (h : w.StoreHolds m) : w.HonestFailures m := by
  intro pid v op step asks trip status pretends
  rw [h pid v op step asks] at pretends
  cases pretends

/-- Each move keeps to a rule in the world in which it is made. -/
def Obeys (rule : World → Move → Prop) : World → List Move → Prop
  | _, [] => True
  | w, m :: moves => rule w m ∧ Obeys rule (w.move m) moves

theorem Obeys.mono {rule' : World → Move → Prop} (h : w.Obeys rule moves)
    (weaker : ∀ w m, rule w m → rule' w m) : w.Obeys rule' moves := by
  induction moves generalizing w with
  | nil => trivial
  | cons m moves ih => exact ⟨weaker w m h.1, ih h.2⟩

theorem obeys_any (moves : List Move) : w.Obeys (fun _ _ => True) moves := by
  induction moves generalizing w with
  | nil => trivial
  | cons m moves ih => exact ⟨trivial, ih⟩

theorem Obeys.append {rest : List Move} (h : w.Obeys rule moves)
    (h' : (w.run moves).Obeys rule rest) : w.Obeys rule (moves ++ rest) := by
  induction moves generalizing w with
  | nil => exact h'
  | cons m moves ih => exact ⟨h.1, ih h.2 h'⟩

/-! ## Distinct ids -/

theorem Silent.ids (same : Silent w w') (distinct : w'.IdsDistinct) : w.IdsDistinct := by
  intro i j hi hj
  have := distinct i j
  rw [same.around, same.drawn] at this
  exact this hi hj

theorem Noted.ids {pid : Nat} {v : Verdict} {e : Effect} {r : e.Reply}
    (step : Noted calls w pid v e r w') (distinct : w'.IdsDistinct) : w.IdsDistinct := by
  obtain ⟨used, -, reply⟩ := step.replied
  have more : w.drawn ≤ w'.drawn := by
    have count := reply.drawn
    split at count <;> omega
  intro i j hi hj same
  exact distinct i j (by omega) (by omega) (by rw [reply.around]; exact same)

theorem Traced.ids_of_move (h : w.Traced calls) (distinct : (w.move m).IdsDistinct) :
    w.IdsDistinct := by
  rcases h.noted m with silent | ⟨pid, v, e, r, -, step⟩
  · exact silent.ids distinct
  · exact step.ids distinct

theorem Traced.run (traced : w.Traced calls) (obeys : w.Obeys rule moves)
    (enters : ∀ w m, rule w m → w.Enters calls m) : (w.run moves).Traced calls := by
  induction moves generalizing w with
  | nil => exact traced
  | cons m moves ih => exact ih (traced.move m (enters w m obeys.1)) obeys.2

theorem Traced.ids_of_run (traced : w.Traced calls) (obeys : w.Obeys rule moves)
    (enters : ∀ w m, rule w m → w.Enters calls m) (distinct : (w.run moves).IdsDistinct) :
    w.IdsDistinct := by
  induction moves generalizing w with
  | nil => exact distinct
  | cons m moves ih =>
    exact traced.ids_of_move (ih (traced.move m (enters w m obeys.1)) obeys.2 distinct)

/-! ## Whole runs -/

/-- What each move keeps, as far as the rule allows it, holds at the end. -/
theorem always_run {P : World → Prop} (enters : ∀ w m, rule w m → w.Enters calls m)
    (silent : ∀ w w', w.Traced calls → w'.Traced calls → Silent w w' → P w → P w')
    (noted : ∀ w w' pid v e r, w.Traced calls → w'.Traced calls → rule w (.step pid v) →
      Noted calls w pid v e r w' → P w → P w')
    (traced : w.Traced calls) (obeys : w.Obeys rule moves) (start : P w) : P (w.run moves) := by
  induction moves generalizing w with
  | nil => exact start
  | cons m moves ih =>
    have next := traced.move m (enters w m obeys.1)
    refine ih next obeys.2 ?_
    rcases traced.noted m with quiet | ⟨pid, v, e, r, rfl, step⟩
    · exact silent w _ traced next quiet start
    · exact noted w _ pid v e r traced next obeys.1 step start

/-- What each move keeps, as far as the rule allows it and ids are distinct, holds at the end. -/
theorem keeps_run {P : World → Prop} (enters : ∀ w m, rule w m → w.Enters calls m)
    (silent : ∀ w w', w.Traced calls → w'.Traced calls → Silent w w' → P w → P w')
    (noted : ∀ w w' pid v e r, w.Traced calls → w'.Traced calls → rule w (.step pid v) →
      Noted calls w pid v e r w' → w'.IdsDistinct → P w → P w')
    (traced : w.Traced calls) (obeys : w.Obeys rule moves) (distinct : (w.run moves).IdsDistinct)
    (start : P w) : P (w.run moves) :=
  always_run (P := fun w => w.IdsDistinct → P w) enters
    (fun w w' traced traced' same h distinct =>
      silent w w' traced traced' same (h (same.ids distinct)))
    (fun w w' pid v e r traced traced' allowed step h distinct =>
      noted w w' pid v e r traced traced' allowed step distinct (h (step.ids distinct)))
    traced obeys (fun _ => start) distinct

/-- What was noted stays noted. -/
theorem history_suffix (traced : w.Traced calls) (obeys : w.Obeys rule moves)
    (enters : ∀ w m, rule w m → w.Enters calls m) : w.history <:+ (w.run moves).history :=
  always_run (P := fun w' => w.history <:+ w'.history) enters
    (fun _ _ _ _ same h => by rw [same.history]; exact h)
    (fun _ _ _ _ _ _ _ _ _ step h => by
      rw [step.history]
      exact h.trans (List.suffix_cons _ _))
    traced obeys List.suffix_rfl

/-- What a process was given it has been given to the end. -/
theorem Traced.mem_trace_run {pid : Nat} {x : Exchange} (traced : w.Traced fun _ => True)
    (given : x ∈ w.trace pid) (moves : List Move) : x ∈ (w.run moves).trace pid := by
  obtain ⟨y, noted, own, rfl⟩ := mem_traceOf.1 given
  have still := history_suffix traced (obeys_any moves) fun _ _ _ => enters_any
  exact mem_traceOf.2 ⟨y, still.subset noted, own, rfl⟩

/-! ## Reachable worlds -/

/-- A service that nothing was asked of comes to this world by moves that each keep to a rule. -/
def Reachable (rule : World → Move → Prop) (w : World) : Prop :=
  ∃ config around w₀ moves, World.new? config around = some w₀ ∧ w₀.Obeys rule moves ∧
    w₀.run moves = w

theorem Reachable.mono {rule' : World → Move → Prop} (reach : w.Reachable rule)
    (weaker : ∀ w m, rule w m → rule' w m) : w.Reachable rule' := by
  obtain ⟨config, around, w₀, moves, new, obeys, reached⟩ := reach
  exact ⟨config, around, w₀, moves, new, obeys.mono weaker, reached⟩

theorem Reachable.run (reach : w.Reachable rule) (obeys : w.Obeys rule moves) :
    (w.run moves).Reachable rule := by
  obtain ⟨config, around, w₀, before, new, obeyed, rfl⟩ := reach
  exact ⟨config, around, w₀, before ++ moves, new, obeyed.append obeys, run_append ..⟩

theorem Reachable.traced (reach : w.Reachable rule)
    (enters : ∀ w m, rule w m → w.Enters calls m) : w.Traced calls := by
  obtain ⟨config, around, w₀, moves, new, obeys, rfl⟩ := reach
  exact (traced_new new).run obeys enters

/-- What holds of a new service, and each move keeps, holds of every reachable world. -/
theorem Reachable.always {P : World → Prop} (reach : w.Reachable rule)
    (enters : ∀ w m, rule w m → w.Enters calls m)
    (start : ∀ config around w, World.new? config around = some w → P w)
    (silent : ∀ w w', w.Traced calls → w'.Traced calls → Silent w w' → P w → P w')
    (noted : ∀ w w' pid v e r, w.Traced calls → w'.Traced calls → rule w (.step pid v) →
      Noted calls w pid v e r w' → P w → P w') : P w := by
  obtain ⟨config, around, w₀, moves, new, obeys, rfl⟩ := reach
  exact always_run enters silent noted (traced_new new) obeys (start config around w₀ new)

/-- The same where each step may draw a new id only. -/
theorem Reachable.keeps {P : World → Prop} (reach : w.Reachable rule) (distinct : w.IdsDistinct)
    (enters : ∀ w m, rule w m → w.Enters calls m)
    (start : ∀ config around w, World.new? config around = some w → P w)
    (silent : ∀ w w', w.Traced calls → w'.Traced calls → Silent w w' → P w → P w')
    (noted : ∀ w w' pid v e r, w.Traced calls → w'.Traced calls → rule w (.step pid v) →
      Noted calls w pid v e r w' → w'.IdsDistinct → P w → P w') : P w := by
  obtain ⟨config, around, w₀, moves, new, obeys, rfl⟩ := reach
  exact keeps_run enters silent noted (traced_new new) obeys distinct (start config around w₀ new)

/-- What each move keeps in a reachable world holds at the end of every run from one. -/
theorem Reachable.run_keeps {P : World → Prop} (reach : w.Reachable rule) (obeys : w.Obeys rule moves)
    (start : P w) (move : ∀ w m, w.Reachable rule → rule w m → P w → P (w.move m)) :
    P (w.run moves) := by
  induction moves generalizing w with
  | nil => exact start
  | cons m moves ih =>
    have single : w.Obeys rule [m] := ⟨obeys.1, trivial⟩
    have next : (w.move m).Reachable rule := reach.run single
    exact ih next obeys.2 (move w m reach obeys.1 start)

/-- What each move keeps in a reachable world holds of all of them. -/
theorem Reachable.rule_induction {P : World → Prop} (reach : w.Reachable rule)
    (start : ∀ config around w, World.new? config around = some w → P w)
    (move : ∀ w m, w.Reachable rule → rule w m → P w → P (w.move m)) : P w := by
  obtain ⟨config, around, w₀, moves, new, obeys, rfl⟩ := reach
  have begun : w₀.Reachable rule := ⟨config, around, w₀, [], new, trivial, rfl⟩
  exact begun.run_keeps obeys (start config around w₀ new) move

/-- The same if ids are distinct. -/
theorem Reachable.induction {P : World → Prop} (reach : w.Reachable rule) (distinct : w.IdsDistinct)
    (start : ∀ config around w, World.new? config around = some w → P w)
    (move : ∀ w m, w.Reachable rule → rule w m → (w.move m).IdsDistinct → P w → P (w.move m)) :
    P w := by
  refine reach.rule_induction (P := fun w => w.IdsDistinct → P w)
    (fun config around w new _ => start config around w new)
    (fun w m reach allowed holds distinct => ?_) distinct
  have traced : w.Traced fun _ => True := reach.traced fun _ _ _ => enters_any
  exact move w m reach allowed distinct (holds (traced.ids_of_move distinct))

end CourierDispatch.World
