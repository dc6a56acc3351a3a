import CourierDispatch.Job

/-!
# Paths of a job

A job is a tree in which each reply selects a branch. The exchanges on the way from the root to
a branch are its path, the latest one first (`Job.Leads`). A job keeps a rule (`Job.Meets`) if the
rule allows each effect it asks for after what it has seen so far, and each way in which it ends.
Rules go through sequencing (`Meets.bind`), and a rule that a job keeps is kept on each of its
paths (`Meets.of_leads`): this is how the facts about a process are read off its code.
-/

namespace CourierDispatch

/-- An effect with the reply that it was given. -/
structure Exchange where
  effect : Effect
  reply : effect.Reply

/-- Replies that can be given. A tick is noticed when it is due, or later, and a deadline whenever the
search is late enough. -/
def Effect.Admits : (e : Effect) → e.Reply → Prop
  | .race _ due, .tick now => due ≤ now
  | _, _ => True

namespace Job

variable {α β : Type} {ask : List Exchange → Effect → Prop}
  {fin : List Exchange → Option α → Prop} {past : List Exchange}

/-- The exchanges that lead from one job to another, the latest first. -/
inductive Leads (start : Job α) : List Exchange → Job α → Prop
  | here : Leads start [] start
  | next {past : List Exchange} {e : Effect} {next : e.Reply → Job α}
      (before : Leads start past (.act e next)) (r : e.Reply) (admitted : e.Admits r) :
      Leads start (⟨e, r⟩ :: past) (next r)

/-- A job that asks only for what `ask` allows after the exchanges so far, and ends as `fin`
allows: with a result, or with none if it breaks down. -/
def Meets (ask : List Exchange → Effect → Prop) (fin : List Exchange → Option α → Prop) :
    List Exchange → Job α → Prop
  | past, done a => fin past (some a)
  | past, panic => fin past none
  | past, act e next =>
    ask past e ∧ ∀ r, e.Admits r → Meets ask fin (⟨e, r⟩ :: past) (next r)

@[simp] theorem meets_done {a : α} : Meets ask fin past (done a) ↔ fin past (some a) := Iff.rfl

@[simp] theorem meets_pure {a : α} : Meets ask fin past (pure a) ↔ fin past (some a) := Iff.rfl

@[simp] theorem meets_panic : Meets ask fin past (panic : Job α) ↔ fin past none := Iff.rfl

@[simp] theorem meets_act {e : Effect} {next : e.Reply → Job α} :
    Meets ask fin past (act e next) ↔
      ask past e ∧ ∀ r, e.Admits r → Meets ask fin (⟨e, r⟩ :: past) (next r) := Iff.rfl

/-- One job after another: what the first one may end with is where the second one starts. -/
theorem Meets.bind {mid : List Exchange → Option α → Prop} {fin : List Exchange → Option β → Prop}
    {j : Job α} {f : α → Job β} (first : Meets ask mid past j)
    (broken : ∀ past, mid past none → fin past none)
    (second : ∀ past a, mid past (some a) → Meets ask fin past (f a)) :
    Meets ask fin past (j >>= f) := by
  induction j generalizing past with
  | done a => exact second past a first
  | panic => exact broken past first
  | act e next ih => exact ⟨first.1, fun r admitted => ih r (first.2 r admitted)⟩

/-- A rule that asks for less is kept as well. -/
theorem Meets.mono {ask' : List Exchange → Effect → Prop} {fin' : List Exchange → Option α → Prop}
    {j : Job α} (kept : Meets ask fin past j) (asks : ∀ past e, ask past e → ask' past e)
    (ends : ∀ past o, fin past o → fin' past o) : Meets ask' fin' past j := by
  induction j generalizing past with
  | done a => exact ends past _ kept
  | panic => exact ends past _ kept
  | act e next ih =>
    exact ⟨asks past e kept.1, fun r admitted => ih r (kept.2 r admitted)⟩

/-- Two rules that a job keeps are kept together. -/
theorem Meets.and {ask' : List Exchange → Effect → Prop} {fin' : List Exchange → Option α → Prop}
    {j : Job α} (kept : Meets ask fin past j) (kept' : Meets ask' fin' past j) :
    Meets (fun past e => ask past e ∧ ask' past e) (fun past o => fin past o ∧ fin' past o)
      past j := by
  induction j generalizing past with
  | done a => exact ⟨kept, kept'⟩
  | panic => exact ⟨kept, kept'⟩
  | act e next ih =>
    exact ⟨⟨kept.1, kept'.1⟩, fun r admitted => ih r (kept.2 r admitted) (kept'.2 r admitted)⟩

/-- A result that is only wrapped up. -/
theorem Meets.map {fin : List Exchange → Option β → Prop} {j : Job α} {f : α → β}
    (kept : Meets ask (fun past o => fin past (o.map f)) past j) :
    Meets ask fin past (f <$> j) :=
  kept.bind (fun _ broken => broken) fun _ _ ended => ended

/-- What a job keeps, it keeps on each of its paths. -/
theorem Meets.of_leads {start j : Job α} (kept : Meets ask fin [] start)
    (path : Leads start past j) : Meets ask fin past j := by
  induction path with
  | here => exact kept
  | next _ r admitted ih => exact ih.2 r admitted

/-- Along a path, each effect was allowed after what came before it. -/
theorem Meets.asked {start j : Job α} {later : List Exchange} {x : Exchange}
    (kept : Meets ask fin [] start) (path : Leads start (later ++ x :: past) j) :
    ask past x.effect := by
  induction later generalizing j with
  | nil =>
    cases path with
    | next before r _ => exact (kept.of_leads before).1
  | cons y later ih =>
    cases path with
    | next before r _ => exact ih before

/-- The last step of a path comes from a job that asks for its effect. -/
theorem Leads.before {start j : Job α} {x : Exchange} (path : Leads start (x :: past) j) :
    ∃ next, Leads start past (.act x.effect next) := by
  cases path with
  | next before r _ => exact ⟨_, before⟩

/-- A path of one job after another is a path of the first one, or goes on through the second. -/
theorem Leads.split {j : Job α} {f : α → Job β} {own : List Exchange} {k : Job β}
    (path : Leads (j >>= f) own k) : (∃ j', Leads j own j' ∧ k = (j' >>= f)) ∨
      ∃ a first second, own = second ++ first ∧ Leads j first (.done a) ∧ Leads (f a) second k := by
  induction path with
  | here => exact .inl ⟨j, .here, rfl⟩
  | @next own e next before r admitted ih =>
    rcases ih with ⟨j', inside, same⟩ | ⟨a, first, second, rfl, ended, behind⟩
    · cases j' with
      | done a =>
        have behind : Leads (f a) [] (.act e next) := same ▸ .here
        exact .inr ⟨a, own, [⟨e, r⟩], rfl, inside, behind.next r admitted⟩
      | panic => cases same
      | act e' next' =>
        cases same
        exact .inl ⟨next' r, inside.next r admitted, rfl⟩
    · exact .inr ⟨a, first, ⟨e, r⟩ :: second, rfl, ended, behind.next r admitted⟩

/-- What one job after another ends with, the second one does. -/
theorem Leads.split_done {j : Job α} {f : α → Job β} {own : List Exchange} {b : β}
    (path : Leads (j >>= f) own (.done b)) :
    ∃ a first second, own = second ++ first ∧ Leads j first (.done a) ∧
      Leads (f a) second (.done b) := by
  rcases path.split with ⟨j', inside, same⟩ | behind
  · cases j' with
    | done a => exact ⟨a, own, [], rfl, inside, same ▸ .here⟩
    | panic => cases same
    | act e next => cases same
  · exact behind

theorem Leads.of_done {a : α} {own : List Exchange} {k : Job α} (path : Leads (.done a) own k) :
    own = [] ∧ k = .done a := by
  induction path with
  | here => exact ⟨rfl, rfl⟩
  | next _ _ _ ih => cases ih.2

/-- A result that is only wrapped up. -/
theorem Leads.of_map {j : Job α} {f : α → β} {own : List Exchange} {k : Job β}
    (path : Leads (f <$> j) own k) : ∃ j', Leads j own j' ∧ k = f <$> j' := by
  rcases Leads.split path with inside | ⟨a, first, second, rfl, ended, behind⟩
  · exact inside
  · obtain ⟨rfl, rfl⟩ := Leads.of_done behind
    exact ⟨.done a, ended, rfl⟩

/-- A path begins with the effect that its job asks for. -/
theorem Leads.of_act {e : Effect} {next : e.Reply → Job α} {own : List Exchange} {k : Job α}
    (path : Leads (.act e next) own k) : own = [] ∧ k = .act e next ∨
      ∃ r later, own = later ++ [⟨e, r⟩] ∧ e.Admits r ∧ Leads (next r) later k := by
  induction path with
  | here => exact .inl ⟨rfl, rfl⟩
  | @next own e' next' before r admitted ih =>
    rcases ih with ⟨rfl, same⟩ | ⟨r₁, later, rfl, admitted₁, behind⟩
    · cases same
      exact .inr ⟨r, [], rfl, admitted, .here⟩
    · exact .inr ⟨r₁, ⟨e', r⟩ :: later, rfl, admitted₁, behind.next r admitted⟩

/-- What a job asks for and ends with, told by the exchanges of its own. -/
theorem Leads.meets {start j : Job α} {own : List Exchange} (path : Leads start own j) :
    Meets (fun past' e => ∃ own next, past' = own ++ past ∧ Leads start own (.act e next))
      (fun past' o => ∃ own, past' = own ++ past ∧ ∀ a, o = some a → Leads start own (.done a))
      (own ++ past) j := by
  induction j generalizing own with
  | done a => exact ⟨own, rfl, fun b same => Option.some.inj same ▸ path⟩
  | panic => exact ⟨own, rfl, nofun⟩
  | act e next ih => exact ⟨⟨own, next, rfl, path⟩, fun r admitted => ih r (path.next r admitted)⟩

theorem meets_own (j : Job α) (past : List Exchange) :
    Meets (fun past' e => ∃ own next, past' = own ++ past ∧ Leads j own (.act e next))
      (fun past' o => ∃ own, past' = own ++ past ∧ ∀ a, o = some a → Leads j own (.done a))
      past j :=
  Leads.meets .here

/-! ## Jobs with effects of one kind -/

/-- A job that asks only for effects of some kind, and ends with a result of some kind. -/
def Only (kind : Effect → Prop) (ends : α → Prop) : Job α → Prop
  | done a => ends a
  | panic => False
  | act e next => kind e ∧ ∀ r, Only kind ends (next r)

variable {kind : Effect → Prop} {ends : α → Prop}

@[simp] theorem only_pure {a : α} : Only kind ends (pure a) ↔ ends a := Iff.rfl

@[simp] theorem only_act {e : Effect} {next : e.Reply → Job α} :
    Only kind ends (act e next) ↔ kind e ∧ ∀ r, Only kind ends (next r) := Iff.rfl

@[simp] theorem only_perform {e : Effect} {ends : e.Reply → Prop} :
    Only kind ends (perform e) ↔ kind e ∧ ∀ r, ends r := Iff.rfl

theorem Only.bind {ends' : β → Prop} {j : Job α} {f : α → Job β} (first : Only kind ends j)
    (second : ∀ a, ends a → Only kind ends' (f a)) : Only kind ends' (j >>= f) := by
  induction j with
  | done a => exact second a first
  | panic => exact first.elim
  | act e next ih => exact ⟨first.1, fun r => ih r (first.2 r)⟩

theorem Only.mono {kind' : Effect → Prop} {j : Job α} (only : Only kind ends j)
    (wider : ∀ e, kind e → kind' e) : Only kind' ends j := by
  induction j with
  | done a => exact only
  | panic => exact only
  | act e next ih => exact ⟨wider e only.1, fun r => ih r (only.2 r)⟩

/-- On the paths of such a job there are only effects of that kind. -/
theorem Only.of_leads {start j : Job α} (only : Only kind ends start) (path : Leads start past j) :
    Only kind ends j ∧ ∀ x ∈ past, kind x.effect := by
  induction path with
  | here => exact ⟨only, by simp⟩
  | next _ r _ ih => exact ⟨ih.1.2 r, by simpa using ⟨ih.1.1, ih.2⟩⟩

/-- What effects of one kind keep, a job with only such effects keeps. -/
theorem Only.meets {keeps : List Exchange → Prop} {j : Job α} (only : Only kind ends j)
    (start : keeps past) (asks : ∀ past e, keeps past → kind e → ask past e)
    (kept : ∀ past e r, keeps past → kind e → keeps (⟨e, r⟩ :: past)) :
    Meets ask (fun past o => keeps past ∧ ∃ a, o = some a ∧ ends a) past j := by
  induction j generalizing past with
  | done a => exact ⟨start, a, rfl, only⟩
  | panic => exact only.elim
  | act e next ih =>
    exact ⟨asks past e start only.1, fun r _ => ih r (only.2 r) (kept past e r start only.1)⟩

end Job

/-! ## Attempts -/

namespace Attempt

open Job

variable {α β : Type} {ask : List Exchange → Effect → Prop} {past : List Exchange}

/-- An attempt that asks only for effects of some kind. -/
def Only (kind : Effect → Prop) (a : Attempt α) : Prop := Job.Only kind (fun _ => True) a.run

variable {kind : Effect → Prop}

theorem only_pure (v : α) : Only kind (pure v : Attempt α) := trivial

theorem only_throw (e : DispatchError) : Only kind (throw e : Attempt α) := trivial

theorem only_perform {e : Effect} (h : kind e) : Only kind (perform e) := ⟨h, fun _ => trivial⟩

theorem only_store {op : StoreOp} (h : kind (.store op)) : Only kind (store op) :=
  ⟨h, fun _ => trivial⟩

theorem only_orElse (missing : DispatchError) (v : Option α) : Only kind (orElse missing v) := by
  cases v <;> trivial

theorem Only.mono {kind' : Effect → Prop} {a : Attempt α} (only : Only kind a)
    (wider : ∀ e, kind e → kind' e) : Only kind' a := Job.Only.mono (j := a.run) only wider

theorem only_bind {a : Attempt α} {f : α → Attempt β} (first : Only kind a)
    (second : ∀ v, Only kind (f v)) : Only kind (a >>= f) := by
  refine Job.Only.bind first fun r _ => ?_
  cases r with
  | ok v => exact second v
  | error e => trivial

/-- One attempt after another succeeds if both do. -/
theorem split_ok {a : Attempt α} {f : α → Attempt β} {own : List Exchange} {b : β}
    (path : (a >>= f).run.Leads own (.done (.ok b))) :
    ∃ v first second, own = second ++ first ∧ a.run.Leads first (.done (.ok v)) ∧
      (f v).run.Leads second (.done (.ok b)) := by
  obtain ⟨r, first, second, same, found, behind⟩ := Leads.split_done (j := a.run) path
  cases r with
  | ok v => exact ⟨v, first, second, same, found, behind⟩
  | error e => cases (Leads.of_done behind).2

/-- What is asked in one attempt after another, is asked in the first one, or in the second one when the
first has succeeded. -/
theorem split_act {a : Attempt α} {f : α → Attempt β} {own : List Exchange} {e : Effect}
    {next : e.Reply → Job (Except DispatchError β)} (path : (a >>= f).run.Leads own (.act e next)) :
    (∃ next', a.run.Leads own (.act e next')) ∨
      ∃ v first second, own = second ++ first ∧ a.run.Leads first (.done (.ok v)) ∧
        (f v).run.Leads second (.act e next) := by
  rcases Leads.split (j := a.run) path with ⟨j, inside, same⟩ | ⟨r, first, second, rfl, found, behind⟩
  · cases j with
    | done r =>
      cases r with
      | ok v => exact .inr ⟨v, own, [], rfl, inside, same ▸ .here⟩
      | error err => cases same
    | panic => cases same
    | act e' next' =>
      cases same
      exact .inl ⟨next', inside⟩
  · cases r with
    | ok v => exact .inr ⟨v, first, second, rfl, found, behind⟩
    | error err => cases (Leads.of_done behind).2

end Attempt

end CourierDispatch
