import CourierDispatch.Proofs.Job.Path
import CourierDispatch.Service.World

/-!
# Jobs that are never kept waiting

If nobody is late, each effect is answered at a time that is known when it is asked for
(`Effect.answeredAt`), and clocks and timers tell that time (`Effect.TellsTime`). A rule for jobs
may then speak of times: `Job.OnTime` is to moments what `Job.Meets` is to exchanges, and goes
through sequencing in the same way (`OnTime.bind`).

A part of a job that waits for no instant is told by what it costs: at most so many effects, and so
many milliseconds together (`Job.Spends`). What it costs is all that a rule about times has to know
of it (`Spends.onTime`).
-/

namespace CourierDispatch

/-- When an effect is answered that is asked for now, if nobody is late. -/
def Effect.answeredAt (now : Nat) (e : Effect) : Nat := (e.wake? now).getD now

/-- What clocks and timers reply at a time. Of two instants that have both come either may be
noticed. -/
def Effect.TellsTime (time : Nat) : (e : Effect) → e.Reply → Prop
  | .setTimers, timers => timers.now = time
  | .race deadline _, .deadline => deadline ≤ time
  | .race _ due, .tick now => due ≤ time ∧ now = time
  | _, _ => True

/-- How long an effect takes at most. A race takes as long as its instants are away. -/
def Effect.lasts : Effect → Nat
  | .sleep duration => duration
  | _ => 0

/-- Waits for no instant. -/
def Effect.direct : Effect → Bool
  | .waitUntil _ | .race .. => false
  | _ => true

theorem Effect.answeredAt_le {e : Effect} (direct : e.direct) (now : Nat) :
    e.answeredAt now ≤ now + e.lasts := by
  unfold answeredAt wake?
  cases e with
  | sleep duration =>
    simp only
    split
    · simp
    · simp only [Option.getD_some, waitEnd, lasts]
      omega
  | waitUntil | race => cases direct
  | _ => exact Nat.le_refl _

/-- An effect that does not wait is answered at once. -/
theorem Effect.answeredAt_of_wake? {e : Effect} {now : Nat} (due : e.wake? now = none) :
    e.answeredAt now = now := by
  rw [answeredAt, due]
  rfl

/-- An effect that waits is answered when its timer rings, which is later. -/
theorem Effect.answeredAt_of_later {e : Effect} {now wake : Nat} (later : e.wake? now = some wake) :
    e.answeredAt now = wake ∧ now ≤ wake := by
  refine ⟨by rw [answeredAt, later]; rfl, ?_⟩
  unfold wake? at later
  split at later
  · split at later <;> cases later
    exact Nat.le_add_right ..
  · split at later <;> cases later
    omega
  · split at later <;> cases later
    omega
  · cases later

/-- A wait for an instant is over when it has come, or at once. -/
theorem Effect.answeredAt_waitUntil (now instant : Nat) :
    (Effect.waitUntil instant).answeredAt now = max now instant := by
  unfold answeredAt wake?
  simp only
  split
  · next come => rw [Option.getD_none, Nat.max_eq_left come]
  · next away => rw [Option.getD_some, Nat.max_eq_right (by omega)]

/-- A race is over at its earlier instant, or at once. -/
theorem Effect.answeredAt_race (now deadline due : Nat) :
    (Effect.race deadline due).answeredAt now = max now (min deadline due) :=
  answeredAt_waitUntil now (min deadline due)

/-- An exchange and when it took place. -/
structure Moment where
  time : Nat
  exchange : Exchange

namespace Job

variable {α β : Type} {ask : Nat → List Moment → Effect → Prop}
  {fin : Nat → List Moment → Option α → Prop} {now : Nat} {past : List Moment}

/-- A job that keeps to a rule about times as long as nobody is late. -/
def OnTime (ask : Nat → List Moment → Effect → Prop) (fin : Nat → List Moment → Option α → Prop) :
    Nat → List Moment → Job α → Prop
  | now, past, done a => fin now past (some a)
  | now, past, panic => fin now past none
  | now, past, act e next => ask now past e ∧ ∀ r, e.TellsTime (e.answeredAt now) r →
      OnTime ask fin (e.answeredAt now) (⟨e.answeredAt now, e, r⟩ :: past) (next r)

theorem OnTime.bind {mid : Nat → List Moment → Option α → Prop}
    {fin : Nat → List Moment → Option β → Prop} {j : Job α} {f : α → Job β}
    (first : OnTime ask mid now past j) (broken : ∀ now past, mid now past none → fin now past none)
    (second : ∀ now past a, mid now past (some a) → OnTime ask fin now past (f a)) :
    OnTime ask fin now past (j >>= f) := by
  induction j generalizing now past with
  | done a => exact second now past a first
  | panic => exact broken now past first
  | act e next ih => exact ⟨first.1, fun r told => ih r (first.2 r told)⟩

/-- A result that is only wrapped up. -/
theorem OnTime.map {fin : Nat → List Moment → Option β → Prop} {j : Job α} {f : α → β}
    (kept : OnTime ask (fun now past o => fin now past (o.map f)) now past j) :
    OnTime ask fin now past (f <$> j) :=
  kept.bind (fun _ _ broken => broken) fun _ _ _ ended => ended

theorem OnTime.mono {fin' : Nat → List Moment → Option α → Prop} {j : Job α}
    (kept : OnTime ask fin now past j) (ends : ∀ now past o, fin now past o → fin' now past o) :
    OnTime ask fin' now past j := by
  induction j generalizing now past with
  | done a => exact ends now past _ kept
  | panic => exact ends now past _ kept
  | act e next ih => exact ⟨kept.1, fun r told => ih r (kept.2 r told)⟩

/-! ## What a job costs -/

/-- A job that asks for at most `n` effects of some kind, which take at most `span` milliseconds
together, and ends with a result of some kind. -/
def Spends (kind : Effect → Prop) (ends : α → Prop) : Nat → Nat → Job α → Prop
  | _, _, done a => ends a
  | _, _, panic => False
  | 0, _, act .. => False
  | n + 1, span, act e next =>
    kind e ∧ e.lasts ≤ span ∧ ∀ r, Spends kind ends n (span - e.lasts) (next r)

variable {kind : Effect → Prop} {ends : α → Prop} {n n' span span' : Nat}

theorem Spends.mono {j : Job α} (spends : Spends kind ends n span j) (more : n ≤ n')
    (longer : span ≤ span') : Spends kind ends n' span' j := by
  induction j generalizing n n' span span' with
  | done a => cases n <;> cases n' <;> exact spends
  | panic => cases n <;> exact spends.elim
  | act e next ih =>
    cases n with
    | zero => exact spends.elim
    | succ n =>
      obtain ⟨n', rfl⟩ : ∃ k, n' = k + 1 := ⟨n' - 1, by omega⟩
      obtain ⟨asked, lasts, then_⟩ := spends
      exact ⟨asked, by omega, fun r => ih r (then_ r) (by omega) (by omega)⟩

theorem spends_done {a : α} (h : ends a) : Spends kind ends n span (done a) := by
  cases n <;> exact h

/-- An effect that takes no time. -/
theorem spends_act {e : Effect} {next : e.Reply → Job α} (asked : kind e) (instant : e.lasts = 0)
    (then_ : ∀ r, Spends kind ends n span (next r)) :
    Spends kind ends (n + 1) span (act e next) :=
  ⟨asked, by omega, fun r => by rw [instant]; exact then_ r⟩

theorem Spends.bind {ends' : β → Prop} {j : Job α} {f : α → Job β}
    (first : Spends kind ends n span j)
    (second : ∀ a, ends a → Spends kind ends' n' span' (f a)) :
    Spends kind ends' (n + n') (span + span') (j >>= f) := by
  induction j generalizing n span with
  | done a =>
    have ended : ends a := by cases n <;> exact first
    exact (second a ended).mono (by omega) (by omega)
  | panic => cases n <;> exact first.elim
  | act e next ih =>
    cases n with
    | zero => exact first.elim
    | succ n =>
      obtain ⟨asked, lasts, then_⟩ := first
      have rest (r : e.Reply) :
          Spends kind ends' (n + n') (span + span' - e.lasts) (next r >>= f) :=
        (ih r (then_ r)).mono (Nat.le_refl _) (by omega)
      rw [Nat.add_right_comm]
      exact ⟨asked, by omega, rest⟩

/-- What a job that waits for no instant comes to: the moments that it has added are few, are of its
kind, and did not take long. -/
structure Spent (kind : Effect → Prop) (n span : Nat) (now : Nat) (past : List Moment)
    (now' : Nat) (past' : List Moment) : Prop where
  added : ∃ new, past' = new ++ past ∧ new.length ≤ n ∧ ∀ x ∈ new, kind x.exchange.effect
  soon : now' ≤ now + span

/-- A job that waits for no instant keeps to a rule if whatever it comes to allows it to go on. -/
theorem Spends.onTime {j : Job α} (spends : Spends kind ends n span j)
    (direct : ∀ e, kind e → e.direct)
    (asks : ∀ now' past' e, Spent kind (n - 1) (span - e.lasts) now past now' past' → 0 < n →
      e.lasts ≤ span → kind e → ask now' past' e) :
    OnTime ask
      (fun now' past' o => Spent kind n span now past now' past' ∧ ∃ a, o = some a ∧ ends a)
      now past j := by
  induction j generalizing n span now past with
  | done a =>
    have ended : ends a := by cases n <;> exact spends
    exact ⟨⟨⟨[], rfl, Nat.zero_le _, by simp⟩, Nat.le_add_right ..⟩, a, rfl, ended⟩
  | panic => cases n <;> exact spends.elim
  | act e next ih =>
    cases n with
    | zero => exact spends.elim
    | succ n =>
      obtain ⟨asked, lasts, then_⟩ := spends
      have soon := e.answeredAt_le (direct e asked) now
      refine ⟨asks now past e ⟨⟨[], rfl, Nat.zero_le _, by simp⟩, Nat.le_add_right ..⟩
        (Nat.succ_pos n) lasts asked, fun r told => ?_⟩
      -- What the rest adds is put before the moment of this effect.
      have further {m s now' : Nat} {past' : List Moment}
          (spent : Spent kind m s (e.answeredAt now) (⟨e.answeredAt now, e, r⟩ :: past)
            now' past') :
          Spent kind (m + 1) (s + e.lasts) now past now' past' := by
        obtain ⟨⟨new, rfl, few, kinds⟩, late⟩ := spent
        refine ⟨⟨new ++ [⟨e.answeredAt now, e, r⟩], by simp, by simpa using few, ?_⟩, by omega⟩
        simpa [or_imp, forall_and] using ⟨kinds, asked⟩
      refine (ih r (then_ r) fun now' past' e' spent more short kind' => ?_).mono
        fun now' past' o ended => ⟨?_, ended.2⟩
      · refine asks now' past' e' ?_ (by omega) (by omega) kind'
        have spent := further spent
        rwa [show n - 1 + 1 = n + 1 - 1 by omega,
          show span - e.lasts - e'.lasts + e.lasts = span - e'.lasts by omega] at spent
      · have spent := further ended.1
        rwa [Nat.sub_add_cancel lasts] at spent

end Job

end CourierDispatch
