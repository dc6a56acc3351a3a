import CourierDispatch.RouteCache

/-!
# Reads and writes of the cache that interleave

A read of the cache is two actions. In the first it takes the time and looks its key up; in the second it lets
an entry go that had expired by that time, and answers. Between the two, others read and write
(`Traffic.act`), and a read that nobody interrupts is `RouteCache.get` (`uninterrupted`).

Removing an entry loses nothing: what is in the cache under a key is what was kept there last, or nothing
is there and what was kept last has expired (`Traffic.Reflects`). Every action keeps this (`Reflects.act`), so
whatever goes on at the same time, a read answers with what was kept last before it looked, unless this had
expired by then, and it removes nothing that was still alive by its own time (`last_write_is_read`).
-/

namespace CourierDispatch.RouteCache

/-- The way that a look-up shows. -/
def Found.shown? : Found → Option Directions
  | live route => some route
  | expired | nothing => none

/-- A read that has looked its key up. -/
structure Read where
  key : String
  /-- The time that it took. -/
  time : Nat
  found : Found
  /-- What it has answered, if it is over. -/
  answer : Option (Option Directions)
  deriving DecidableEq, Repr

inductive Action
  /-- A read takes the time and looks its key up. -/
  | look (key : String)
  /-- A read removes what has expired, and answers. -/
  | answer (read : Nat)
  | keep (key : String) (route : Directions) (ttl : Nat)
  /-- Some milliseconds pass. -/
  | pass (duration : Nat)
  deriving DecidableEq, Repr

/-- How much time an action takes. -/
def Action.duration : Action → Nat
  | pass duration => duration
  | _ => 0

/-- The entry that an action makes under a key. A write whose expiry is out of range makes none. -/
def Action.entry? (key : String) (now : Nat) : Action → Option CacheEntry
  | keep k route ttl =>
    if k = key ∧ now + ttl < clockLimit then some ⟨route, now + ttl⟩ else none
  | _ => none

/-- A cache in use: what it holds, the time, and the reads so far, the first one first. -/
structure Traffic where
  cache : RouteCache
  now : Nat
  reads : List Read

namespace Traffic

def start : Traffic := ⟨.empty, 0, []⟩

/-- A read that is under way lets go of its entry, if that has expired, and answers. -/
def settle (t : Traffic) (i : Nat) (r : Read) : Traffic :=
  { t with
    cache := match r.found with
      | .expired => t.cache.evict r.time r.key
      | .live _ | .nothing => t.cache
    reads := t.reads.set i { r with answer := some r.found.shown? } }

def act (t : Traffic) : Action → Traffic
  | .look key => { t with reads := t.reads ++ [⟨key, t.now, t.cache.lookup t.now key, none⟩] }
  | .answer i => match t.reads[i]? with
    | some r => if r.answer.isNone then t.settle i r else t
    | none => t
  | .keep key route ttl => { t with cache := (t.cache.set? t.now key route ttl).getD t.cache }
  | .pass duration => { t with now := t.now + duration }

/-- A cache in use after some more actions. -/
def run (t : Traffic) (actions : List Action) : Traffic := actions.foldl act t

/-- A cache that was empty at first, after some actions. -/
def after (actions : List Action) : Traffic := start.run actions

variable {t : Traffic} {key : String} {a : Action} {actions : List Action} {entry : Option CacheEntry}

theorem run_append (t : Traffic) (first rest : List Action) :
    t.run (first ++ rest) = (t.run first).run rest := List.foldl_append

/-- A read that nobody interrupts does what the cache does at once. -/
theorem uninterrupted (t : Traffic) (key : String) :
    (t.act (.look key)).act (.answer t.reads.length) =
      { t with
        cache := (t.cache.get t.now key).2
        reads := t.reads ++
          [⟨key, t.now, t.cache.lookup t.now key, some (t.cache.get t.now key).1⟩] } := by
  simp only [act, settle, get, List.getElem?_concat_length, Option.isNone_none, if_true,
    List.set_append_right _ _ (Nat.le_refl _), Nat.sub_self, List.set_cons_zero]
  cases t.cache.lookup t.now key <;> rfl

/-! ## What was kept last -/

/-- How much time some actions take. -/
def elapsed : List Action → Nat
  | [] => 0
  | a :: rest => a.duration + elapsed rest

/-- The entry that was made last under a key, in actions that begin at some time. -/
def lastKept (key : String) : Nat → List Action → Option CacheEntry
  | _, [] => none
  | now, a :: rest => (lastKept key (now + a.duration) rest).or (a.entry? key now)

/-- The way that was kept last under a key, unless it has expired. -/
def live? (key : String) (actions : List Action) : Option Directions :=
  ((lastKept key 0 actions).filter fun e => elapsed actions < e.expiresAt).map CacheEntry.route

theorem now_act (t : Traffic) (a : Action) : (t.act a).now = t.now + a.duration := by
  cases a with
  | answer i =>
    simp only [act, Action.duration]
    split
    · split <;> rfl
    · rfl
  | _ => rfl

theorem now_run (t : Traffic) (actions : List Action) :
    (t.run actions).now = t.now + elapsed actions := by
  induction actions generalizing t with
  | nil => rfl
  | cons a rest ih =>
    change ((t.act a).run rest).now = _
    rw [ih, now_act, elapsed, Nat.add_assoc]

theorem now_after (actions : List Action) : (after actions).now = elapsed actions := by
  rw [after, now_run, start, Nat.zero_add]

/-! ## What is in the cache -/

/-- What is there under a key was kept last, and if nothing is there, what was kept last has expired. -/
structure Reflects (t : Traffic) (key : String) (entry : Option CacheEntry) : Prop where
  there : ∀ e, t.cache.entries.get? key = some e → entry = some e
  gone : t.cache.entries.get? key = none → ∀ e, entry = some e → e.expiresAt ≤ t.now

/-- No read has taken a time that is still to come. -/
def Timely (t : Traffic) : Prop := ∀ r ∈ t.reads, r.time ≤ t.now

theorem Timely.act (h : t.Timely) (a : Action) : (t.act a).Timely := by
  cases a with
  | look key =>
    intro r member
    rcases List.mem_append.1 member with old | new
    · exact h r old
    · cases List.mem_singleton.1 new
      exact Nat.le_refl _
  | answer i =>
    simp only [Traffic.act]
    split
    · next r found =>
      split
      · intro r' member
        rcases List.mem_or_eq_of_mem_set member with old | rfl
        · exact h r' old
        · exact h r (List.mem_of_getElem? found)
      · exact h
    · exact h
  | keep => exact h
  | pass duration => exact fun r member => Nat.le_trans (h r member) (Nat.le_add_right _ _)

/-- A removal takes away an entry that has expired by its time, and nothing else. -/
theorem get?_evict (c : RouteCache) (now : Nat) (k key : String) :
    (c.evict now k).entries.get? key = c.entries.get? key ∨
      (c.evict now k).entries.get? key = none ∧ key = k ∧
        ∀ e, c.entries.get? key = some e → e.expiresAt ≤ now := by
  unfold evict
  split
  · exact .inl rfl
  · next e found =>
    split
    · exact .inl rfl
    · next late =>
      rw [Table.get?_erase]
      split
      · next same =>
        subst same
        refine .inr ⟨rfl, rfl, fun e' there => ?_⟩
        rw [found] at there
        cases there
        omega
      · exact .inl rfl

/-- An action other than a write leaves an entry alone, or it is a read that answers, and by its own time the
entry had expired. -/
theorem get?_act (t : Traffic) (a : Action) (key : String) :
    (t.act a).cache.entries.get? key =
        ((a.entry? key t.now).or (t.cache.entries.get? key)) ∨
      (t.act a).cache.entries.get? key = none ∧ a.entry? key t.now = none ∧
        ∃ i r, a = .answer i ∧ t.reads[i]? = some r ∧ r.key = key ∧
          ∀ e, t.cache.entries.get? key = some e → e.expiresAt ≤ r.time := by
  cases a with
  | look | pass => exact .inl rfl
  | keep k route ttl =>
    refine .inl ?_
    simp only [act, Action.entry?, set?]
    by_cases fits : t.now + ttl < clockLimit
    · rw [if_pos fits, Option.getD_some, Table.get?_insert]
      by_cases same : key = k
      · simp [same, fits]
      · simp [same, Ne.symm same]
    · simp [fits]
  | answer i =>
    simp only [act, Action.entry?, Option.none_or]
    split
    · next r found =>
      split
      · simp only [settle]
        split
        · rcases get?_evict t.cache r.time r.key key with same | ⟨gone, rfl, late⟩
          · exact .inl same
          · exact .inr ⟨gone, trivial, i, r, rfl, found, rfl, late⟩
        · exact .inl rfl
        · exact .inl rfl
      · exact .inl rfl
    · exact .inl rfl

theorem Reflects.act (h : t.Reflects key entry) (timely : t.Timely) (a : Action) :
    (t.act a).Reflects key ((a.entry? key t.now).or entry) := by
  have later : t.now ≤ (t.act a).now := by
    rw [now_act]
    exact Nat.le_add_right _ _
  rcases get?_act t a key with same | ⟨gone, no, i, r, -, found, rfl, late⟩
  · cases made : a.entry? key t.now with
    | some e =>
      rw [made, Option.some_or] at same
      exact ⟨fun e' there => same.symm.trans there, fun none_ => by rw [same] at none_; cases none_⟩
    | none =>
      rw [made, Option.none_or] at same
      simp only [Option.none_or]
      exact ⟨fun e there => h.there e (same ▸ there),
        fun none_ e last => Nat.le_trans (h.gone (same ▸ none_) e last) later⟩
  · rw [no, Option.none_or]
    refine ⟨fun e there => (by rw [gone] at there; cases there), fun _ e last => ?_⟩
    have before : r.time ≤ t.now := timely r (List.mem_of_getElem? found)
    cases there : t.cache.entries.get? r.key with
    | some e' =>
      have same := h.there e' there
      rw [last] at same
      cases same
      have := late e there
      omega
    | none => exact Nat.le_trans (h.gone there e last) later

theorem Reflects.run (h : t.Reflects key entry) (timely : t.Timely) (actions : List Action) :
    (t.run actions).Reflects key ((lastKept key t.now actions).or entry) := by
  induction actions generalizing t entry with
  | nil => exact h
  | cons a rest ih =>
    have next := ih (h.act timely a) (timely.act a)
    rw [now_act] at next
    rw [lastKept, Option.or_assoc]
    exact next

theorem reflects_after (key : String) (actions : List Action) :
    (after actions).Reflects key (lastKept key 0 actions) := by
  have empty : start.Reflects key none := ⟨nofun, fun _ => nofun⟩
  have reflects := empty.run (fun _ => nofun) actions
  rwa [Option.or_none] at reflects

/-- A look-up shows what was kept last, unless that has expired. -/
theorem shown?_lookup_after (key : String) (actions : List Action) :
    ((after actions).cache.lookup (after actions).now key).shown? = live? key actions := by
  have reflects := reflects_after key actions
  have time := now_after actions
  unfold lookup live?
  cases there : (after actions).cache.entries.get? key with
  | some e =>
    rw [reflects.there e there, time]
    by_cases alive : elapsed actions < e.expiresAt <;> simp [alive, Found.shown?, Option.filter]
  | none =>
    cases last : lastKept key 0 actions with
    | none => rfl
    | some e =>
      have late := reflects.gone there e last
      rw [time] at late
      simp [Nat.not_lt.2 late, Found.shown?, Option.filter]

/-! ## What is answered -/

theorem reads_act {i : Nat} {r : Read} (found : t.reads[i]? = some r) (a : Action) :
    (t.act a).reads[i]? = some (if a = .answer i ∧ r.answer = none then
      { r with answer := some r.found.shown? } else r) := by
  have inside := (List.getElem?_eq_some_iff.1 found).1
  cases a with
  | look key =>
    simp only [act, reduceCtorEq, false_and, if_false]
    rw [List.getElem?_append_left inside, found]
  | answer j =>
    simp only [act, Action.answer.injEq]
    by_cases own : j = i
    · subst own
      rw [found]
      cases open_ : r.answer with
      | none => simp [settle, inside, open_]
      | some answer => simp [found, open_]
    · simp only [own, false_and, if_false]
      split
      · split
        · rw [settle, List.getElem?_set_ne own, found]
        · exact found
      · exact found
  | keep | pass => simpa [act] using found

/-- A read goes on to be what it was, until it answers what it has found. -/
theorem reads_run {i : Nat} {r : Read} (found : t.reads[i]? = some r) (actions : List Action) :
    (t.run actions).reads[i]? = some (if .answer i ∈ actions ∧ r.answer = none then
      { r with answer := some r.found.shown? } else r) := by
  induction actions generalizing t r with
  | nil => simpa [run] using found
  | cons a rest ih =>
    have next := ih (reads_act found a)
    rw [show t.run (a :: rest) = (t.act a).run rest from rfl, next]
    by_cases own : a = .answer i
    · by_cases open_ : r.answer = none <;> simp [own, open_]
    · simp [own, Ne.symm own]

theorem elapsed_append (first rest : List Action) :
    elapsed (first ++ rest) = elapsed first + elapsed rest := by
  induction first with
  | nil => simp [elapsed]
  | cons a first ih => rw [List.cons_append, elapsed, elapsed, ih, Nat.add_assoc]

theorem lastKept_append (key : String) (now : Nat) (first rest : List Action) :
    lastKept key now (first ++ rest) =
      (lastKept key (now + elapsed first) rest).or (lastKept key now first) := by
  induction first generalizing now with
  | nil => simp [lastKept, elapsed]
  | cons a first ih =>
    rw [List.cons_append, lastKept, lastKept, ih, Option.or_assoc, elapsed, Nat.add_assoc]

theorem lastKept_eq_none {now : Nat} (unwritten : ∀ route ttl, .keep key route ttl ∉ actions) :
    lastKept key now actions = none := by
  induction actions generalizing now with
  | nil => rfl
  | cons a rest ih =>
    rw [lastKept, ih fun route ttl there => unwritten route ttl (List.mem_cons_of_mem a there),
      Option.none_or]
    cases a with
    | keep k route ttl =>
      have other : k ≠ key := by
        rintro rfl
        exact unwritten route ttl List.mem_cons_self
      simp [Action.entry?, other]
    | _ => rfl

/-- A way that was kept, and no other one since under that key, is live until its lifetime is over. -/
theorem live?_of_kept {before later : List Action} {route : Directions} {ttl : Nat}
    (fits : elapsed before + ttl < clockLimit) (last : ∀ route ttl, .keep key route ttl ∉ later) :
    live? key (before ++ .keep key route ttl :: later) =
      if elapsed later < ttl then some route else none := by
  have kept : lastKept key 0 (before ++ .keep key route ttl :: later) =
      some ⟨route, elapsed before + ttl⟩ := by
    rw [lastKept_append, lastKept, lastKept_eq_none last, Option.none_or, Nat.zero_add,
      Action.entry?, if_pos ⟨rfl, fits⟩, Option.some_or]
  have time : elapsed (before ++ .keep key route ttl :: later) = elapsed before + elapsed later := by
    simp [elapsed_append, elapsed, Action.duration]
  rw [live?, kept, time]
  by_cases alive : elapsed later < ttl <;> simp [Option.filter, alive]

/-- Whatever is read and written at the same time: a read answers with the way that was kept last under its
key before it looked, if that expires later than the time that it took, and otherwise with none. A read
that goes on removes an entry only if this had expired by the time that it took. So a way that was kept
while others were between their look-up and their removal is answered to those that look later, until it
expires or another one is kept. -/
theorem last_write_is_read :
    (∀ before key later, ∃ r,
      (after (before ++ .look key :: later)).reads[(after before).reads.length]? = some r ∧
        r.key = key ∧ r.time = elapsed before ∧
        r.answer = if .answer (after before).reads.length ∈ later then some (live? key before) else none) ∧
    (∀ actions i key e, (after actions).cache.entries.get? key = some e →
      (after (actions ++ [.answer i])).cache.entries.get? key = some e ∨
        (after (actions ++ [.answer i])).cache.entries.get? key = none ∧
          ∃ r, (after actions).reads[i]? = some r ∧ r.key = key ∧ e.expiresAt ≤ r.time) ∧
    ∀ before key route ttl later, elapsed before + ttl < clockLimit →
      (∀ route' ttl', .keep key route' ttl' ∉ later) →
      live? key (before ++ .keep key route ttl :: later) =
        if elapsed later < ttl then some route else none := by
  refine ⟨fun before key later => ?_, fun actions i key e there => ?_,
    fun _ _ _ _ _ => live?_of_kept⟩
  · have looked : ((after before).act (.look key)).reads[(after before).reads.length]? =
        some ⟨key, elapsed before, (after before).cache.lookup (after before).now key, none⟩ := by
      rw [← now_after]
      exact List.getElem?_concat_length
    have read := reads_run looked later
    rw [after, run_append]
    refine ⟨_, read, ?_⟩
    rw [shown?_lookup_after]
    by_cases settled : .answer (after before).reads.length ∈ later <;> simp [settled]
  · have single : after (actions ++ [.answer i]) = (after actions).act (.answer i) := by
      rw [after, run_append]
      rfl
    rw [single]
    rcases get?_act (after actions) (.answer i) key with same | ⟨gone, -, j, r, own, found, named, late⟩
    · exact .inl (same.trans there)
    · cases own
      exact .inr ⟨gone, r, found, named, late e there⟩

/-- A way has expired when a read looks it up, another way is kept before that read goes on, and a second read
comes after both. -/
def overtaken : List Action :=
  [.keep "k" ⟨"old", 1, 1, 1⟩ 1, .pass 2, .look "k", .keep "k" ⟨"new", 2, 2, 2⟩ 10, .answer 0, .pass 9]

/-- The first read finds nothing and removes nothing, and the second one is answered. -/
theorem last_write_is_read_overtaken :
    (∃ r, (after (overtaken ++ [.look "k", .answer 1])).reads[0]? = some r ∧ r.time = 2 ∧
      r.answer = some none) ∧
    (∃ r, (after (overtaken ++ [.look "k", .answer 1])).reads[1]? = some r ∧ r.time = 11 ∧
      r.answer = some (some ⟨"new", 2, 2, 2⟩)) ∧
    live? "k" overtaken = some ⟨"new", 2, 2, 2⟩ ∧
    ∃ e, (after (overtaken.take 4)).cache.entries.get? "k" = some e ∧
      (after (overtaken.take 5)).cache.entries.get? "k" = some e := by
  have live : live? "k" overtaken = some ⟨"new", 2, 2, 2⟩ :=
    last_write_is_read.2.2 (overtaken.take 3) "k" ⟨"new", 2, 2, 2⟩ 10 [.answer 0, .pass 9] (by decide)
      (by simp)
  obtain ⟨r, first, -, time, answer⟩ := last_write_is_read.1 (overtaken.take 2) "k"
    (overtaken.drop 3 ++ [.look "k", .answer 1])
  obtain ⟨r', second, -, time', answer'⟩ := last_write_is_read.1 overtaken "k" [.answer 1]
  refine ⟨⟨r, first, time, ?_⟩, ⟨r', second, time', ?_⟩, live, ?_⟩
  · exact answer.trans (by decide)
  · exact answer'.trans (by rw [live]; decide)
  · have entry : (after (overtaken.take 4)).cache.entries.get? "k" = some ⟨⟨"new", 2, 2, 2⟩, 12⟩ := by decide
    rcases last_write_is_read.2.1 (overtaken.take 4) 0 "k" _ entry with same | ⟨-, r, found, -, late⟩
    · exact ⟨_, entry, same⟩
    · have early : ((after (overtaken.take 4)).reads[0]?).map Read.time = some 2 := by decide
      rw [found] at early
      rw [show r.time = 2 from Option.some.inj early] at late
      exact absurd late (by decide)

end Traffic

end CourierDispatch.RouteCache
