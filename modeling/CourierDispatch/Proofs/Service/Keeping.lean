import CourierDispatch.Proofs.Conduct.Quoting
import CourierDispatch.Proofs.Service.Supplies

/-!
# What stays in the cache

A move writes the entry of a key, finds it live, finds none that is live and drops what there is, or leaves
it alone (`entry_move`). So a way that a process has found or kept under a key stays there until it
expires, unless somebody else keeps another way (`Reachable.preserves`); and where nothing was kept,
nothing is found but what was kept since (`Reachable.vacant`).
-/

namespace CourierDispatch

/-- The clock of the cache is never set back. -/
def Surroundings.Ticks (around : Surroundings) : Prop :=
  ∀ m n, m ≤ n → around.cacheClock m ≤ around.cacheClock n

namespace World

variable {w w' w₀ : World} {pid : Nat} {key : String} {rule : World → Move → Prop}

/-- The entry of a key. -/
def cached? (w : World) (key : String) : Option CacheEntry := w.cache.entries.get? key

/-- What an exchange does to the entry of a key. -/
inductive Touches (w : World) (key : String) : Exchange → Option CacheEntry → Prop
  | wrote (way : Directions) (ttl : Nat) :
      Touches w key ⟨.cacheSet key way ttl, .ok ()⟩ (some ⟨way, w.cacheTime + ttl⟩)
  | hit {e : CacheEntry} (found : w.cached? key = some e) (live : w.cacheTime < e.expiresAt) :
      Touches w key ⟨.cacheGet key, .ok (some e.route)⟩ (some e)
  | missed (stale : ∀ e, w.cached? key = some e → e.expiresAt ≤ w.cacheTime) :
      Touches w key ⟨.cacheGet key, .ok none⟩ none
  | apart {x : Exchange} (nothing : x.kept? key = none)
      (refused : ∀ r, x = ⟨.cacheGet key, r⟩ → ∃ err, r = .error err) :
      Touches w key x (w.cached? key)

theorem entry_move (w : World) (m : Move) (key : String) :
    ((w.move m).history = w.history ∧ (w.move m).cached? key = w.cached? key) ∨
      ∃ x, (w.move m).history = x :: w.history ∧
        w.Touches key x.exchange ((w.move m).cached? key) := by
  rcases supplied_move w m with ⟨history, cache⟩ | ⟨pid, v, used, e, r, rfl, -, history, supplies⟩
  · exact .inl ⟨history, by rw [cached?, cache]; rfl⟩
  refine .inr ⟨_, history, ?_⟩
  unfold cached?
  generalize (w.move (.step pid v)).cache = cache at supplies ⊢
  cases supplies with
  | @dictated e r h =>
    cases used with
    | proceed => cases h
    | refuse err =>
      refine .apart ?_ ?_
      · cases e <;> cases h <;> rfl
      · rintro r ⟨⟩
        cases h
        exact ⟨err, rfl⟩
    | absent =>
      refine .apart ?_ ?_
      · cases e <;> first | rfl | cases h
      · rintro r ⟨⟩
        cases h
  | read k =>
    rcases w.cache.get_cases w.cacheTime k with ⟨e, found, live, got⟩ | ⟨stale, none_, left⟩
    · rw [got]
      by_cases own : k = key
      · subst own
        rw [found]
        exact .hit found live
      · refine .apart ?_ ?_
        · simp [Exchange.kept?, Event.exchange, own]
        · rintro r ⟨⟩
          exact absurd rfl own
    · rw [none_, left]
      by_cases own : key = k
      · subst own
        rw [if_pos rfl]
        exact .missed stale
      · rw [if_neg own]
        refine .apart ?_ ?_
        · simp [Exchange.kept?, Event.exchange]
        · rintro r ⟨⟩
          exact absurd rfl own
  | @wrote k way ttl c written =>
    rw [RouteCache.get?_of_set? written]
    by_cases own : key = k
    · subst own
      rw [if_pos rfl]
      exact .wrote way ttl
    · rw [if_neg own]
      refine .apart ?_ ?_
      · simp [Exchange.kept?, Event.exchange, Ne.symm own]
      · rintro r ⟨⟩
  | asked | placed => exact .apart rfl (by rintro r ⟨⟩)
  | @apart e r h => exact .apart (by cases e <;> first | rfl | cases h) (by rintro r ⟨⟩; cases h)

/-! ## What was kept since -/

/-- One of these processes has kept a way under a key since the world `w₀`. -/
def KeptBy (w₀ w : World) (key : String) (who : Nat → Prop) : Prop :=
  ∃ later, w.history = later ++ w₀.history ∧ ∃ x ∈ later, who x.process ∧
    ∃ way ttl, x.exchange = ⟨.cacheSet key way ttl, .ok ()⟩

theorem KeptBy.noted {who : Nat → Prop} {x : Event} (h : w₀.KeptBy w key who)
    (history : w'.history = x :: w.history) : w₀.KeptBy w' key who := by
  obtain ⟨later, before, y, noted, rest⟩ := h
  exact ⟨x :: later, by rw [history, before]; rfl, y, List.mem_cons_of_mem x noted, rest⟩

theorem keptBy_of_noted {who : Nat → Prop} {x : Event} {way : Directions} {ttl : Nat}
    (since : w₀.history <:+ w.history) (history : w'.history = x :: w.history) (by_ : who x.process)
    (written : x.exchange = ⟨.cacheSet key way ttl, .ok ()⟩) : w₀.KeptBy w' key who := by
  obtain ⟨later, onward⟩ := since
  refine ⟨x :: later, ?_, x, List.mem_cons_self, by_, way, ttl, written⟩
  rw [history, ← onward]
  rfl

/-- A process has found a way to be kept under a key, or has kept it there. -/
def Shown (w : World) (pid : Nat) (key : String) (way : Directions) : Prop :=
  ∃ x ∈ w.trace pid, x.kept? key = some way

theorem shown_of_history {x : Event} {way : Directions} (history : w'.history = x :: w.history) :
    w'.Shown pid key way ↔
      x.process = pid ∧ x.exchange.kept? key = some way ∨ w.Shown pid key way := by
  rw [Shown, trace, history, traceOf_cons]
  by_cases own : x.process = pid
  · simp [own, Shown, trace]
  · simp [own, Shown, trace]

/-- What a process has found or kept it has found or kept for good, and so has anybody else. -/
theorem shown_or_kept_of_history {x : Event} {way : Directions} (history : w'.history = x :: w.history)
    (h : w.Shown pid key way ∨ w₀.KeptBy w key (· ≠ pid)) :
    w'.Shown pid key way ∨ w₀.KeptBy w' key (· ≠ pid) :=
  h.imp (fun shown => (shown_of_history history).2 (.inr shown)) fun other => other.noted history

/-- Time is not set back. -/
theorem now_move (w : World) (m : Move) : w.now ≤ (w.move m).now := by
  cases m with
  | enter => exact Nat.le_refl _
  | pass d => exact Nat.le_add_right _ _
  | step pid v =>
    have turn := turn_step w pid v
    simp only [World.move]
    generalize w.step pid v = after at turn ⊢
    cases turn with
    | idle | turned => exact Nat.le_refl _
    | broke =>
      unfold breakDown
      split <;> exact Nat.le_refl _
    | answered _ _ replied => exact Nat.le_of_eq (now_of_answer replied).symm

theorem cacheTime_move (ticks : w.around.Ticks) (m : Move) : w.cacheTime ≤ (w.move m).cacheTime := by
  rw [cacheTime, cacheTime, (given_move w m).2]
  exact ticks _ _ (now_move w m)

theorem cacheTime_run (ticks : w.around.Ticks) (moves : List Move) :
    w.cacheTime ≤ (w.run moves).cacheTime := by
  induction moves generalizing w with
  | nil => exact Nat.le_refl _
  | cons m moves ih =>
    have ticks' : (w.move m).around.Ticks := (given_move w m).2 ▸ ticks
    exact Nat.le_trans (cacheTime_move ticks m) (ih ticks')

/-- What each move keeps as long as the clock of the cache has not passed a limit. -/
theorem Reachable.run_until {P : World → Prop} {moves : List Move} {limit : Nat}
    (reach : w.Reachable rule) (ticks : w.around.Ticks) (obeys : w.Obeys rule moves)
    (soon : (w.run moves).cacheTime ≤ limit) (start : P w)
    (move : ∀ w' m, w'.Reachable rule → rule w' m → w'.config = w.config → w'.around = w.around →
      (w'.move m).cacheTime ≤ limit → P w' → P (w'.move m)) : P (w.run moves) := by
  have kept := reach.run_keeps obeys
    (P := fun w' => (w'.config = w.config ∧ w'.around = w.around) ∧ (w'.cacheTime ≤ limit → P w'))
    ⟨⟨rfl, rfl⟩, fun _ => start⟩ fun w' m reach allowed ⟨⟨config, around⟩, holds⟩ => ?_
  · exact kept.2 soon
  · obtain ⟨config', around'⟩ := given_move w' m
    refine ⟨⟨config'.trans config, around'.trans around⟩, fun soon => ?_⟩
    have later := cacheTime_move (around ▸ ticks) m
    exact move w' m reach allowed config around soon (holds (by omega))

/-! ## What a process has found or kept -/

/-- What is kept under a key has expired, or lasts beyond a limit. -/
def Lasting (w : World) (key : String) (limit : Nat) : Prop :=
  ∀ e, w.cached? key = some e → e.expiresAt ≤ w.cacheTime ∨ limit < e.expiresAt

/-- What a look-up writes has the lifetime of the settings. -/
theorem lifetime_of_noted (traced : w'.Traced (·.keepsNothing)) {x : Event} {way : Directions}
    {ttl : Nat} (history : w'.history = x :: w.history)
    (exchange : x.exchange = ⟨.cacheSet key way ttl, .ok ()⟩) : ttl = w'.config.routing.cacheTtl := by
  have own : w'.trace x.process = [] ++ ⟨.cacheSet key way ttl, .ok ()⟩ :: w.trace x.process := by
    rw [trace, history, traceOf_cons, if_pos rfl, exchange]
    rfl
  exact ((traced.consults own).keeps key way ttl rfl).2.1

/-- An exchange leaves something live, so it lasts. -/
theorem Lasting.touched {limit : Nat} {x : Exchange} {entry : Option CacheEntry} {e : CacheEntry}
    (h : w.Lasting key limit) (touches : w.Touches key x entry) (there : entry = some e)
    (written : ∀ way ttl, x = ⟨.cacheSet key way ttl, .ok ()⟩ → limit < w.cacheTime + ttl) :
    e.expiresAt ≤ w.cacheTime ∨ limit < e.expiresAt := by
  cases touches with
  | wrote way ttl =>
    cases there
    exact .inr (written way ttl rfl)
  | hit found live =>
    cases there
    exact h _ found
  | missed => cases there
  | apart => exact h e there

/-- A way that a process has found or kept under a key lasts there, or one that somebody else has kept
since `w₀`. -/
def Preserves (w₀ w : World) (pid : Nat) (key : String) (limit : Nat) : Prop :=
  ∀ way, w.Shown pid key way → ∃ e, w.cached? key = some e ∧ limit < e.expiresAt ∧
    (w.Shown pid key e.route ∨ w₀.KeptBy w key (· ≠ pid))

theorem Preserves.touched {limit : Nat} (h : w₀.Preserves w pid key limit)
    (lasting : w.Lasting key limit) (since : w₀.history <:+ w.history) {x : Event}
    (history : w'.history = x :: w.history) (touches : w.Touches key x.exchange (w'.cached? key))
    (soon : w.cacheTime ≤ limit)
    (written : ∀ way ttl, x.exchange = ⟨.cacheSet key way ttl, .ok ()⟩ → limit < w.cacheTime + ttl) :
    w₀.Preserves w' pid key limit := by
  intro way shown
  have shown := (shown_of_history history).1 shown
  have own (way : Directions) (is_own : x.process = pid) (kept : x.exchange.kept? key = some way) :
      w'.Shown pid key way := (shown_of_history history).2 (.inl ⟨is_own, kept⟩)
  -- What was kept before lasts, so it is still there unless it is replaced now.
  have old {way : Directions} (shown : w.Shown pid key way) : ∃ e, w.cached? key = some e ∧
      limit < e.expiresAt ∧ (w'.Shown pid key e.route ∨ w₀.KeptBy w' key (· ≠ pid)) := by
    obtain ⟨e, found, lasts, by_⟩ := h way shown
    exact ⟨e, found, lasts, shown_or_kept_of_history history by_⟩
  generalize exchange : x.exchange = y at touches shown own written
  generalize w'.cached? key = entry at touches ⊢
  cases touches with
  | wrote way ttl =>
    refine ⟨_, rfl, written way ttl rfl, ?_⟩
    by_cases is_own : x.process = pid
    · exact .inl (own way is_own (by simp [Exchange.kept?]))
    · exact .inr (keptBy_of_noted since history is_own exchange)
  | @hit e found live =>
    rcases shown with ⟨is_own, kept⟩ | shown
    · refine ⟨e, rfl, ?_, .inl (own e.route is_own (by simp [Exchange.kept?]))⟩
      rcases lasting e found with stale | lasts
      · omega
      · exact lasts
    · obtain ⟨e', found', rest⟩ := old shown
      rw [found] at found'
      exact ⟨e', found', rest⟩
  | missed stale =>
    rcases shown with ⟨-, kept⟩ | shown
    · cases kept
    · obtain ⟨e, found, lasts, -⟩ := old shown
      have := stale e found
      omega
  | apart nothing =>
    rcases shown with ⟨-, kept⟩ | shown
    · rw [nothing] at kept
      cases kept
    · exact old shown

/-- What has been kept under a key since `w₀`, up to a limit. -/
structure Retains (w₀ w : World) (pid : Nat) (key : String) (limit : Nat) : Prop where
  later : w₀.cacheTime ≤ w.cacheTime
  since : w₀.history <:+ w.history
  lasting : w.Lasting key limit
  preserves : w₀.Preserves w pid key limit

section

variable {moves : List Move} {limit q : Nat}

theorem Retains.move (h : w₀.Retains w pid key limit) (traced : w.Traced (·.keepsNothing)) (m : Move)
    (harmless : w.Enters (·.keepsNothing) m) (ticks : w.around.Ticks)
    (fresh : limit < w₀.cacheTime + w.config.routing.cacheTtl) (soon : (w.move m).cacheTime ≤ limit) :
    w₀.Retains (w.move m) pid key limit := by
  have later := cacheTime_move ticks m
  have before := h.later
  rcases entry_move w m key with ⟨history, same⟩ | ⟨x, history, touches⟩
  · refine ⟨by omega, history ▸ h.since, fun e there => ?_, fun way shown => ?_⟩
    · rcases h.lasting e (same ▸ there) with stale | lasts
      · exact .inl (by omega)
      · exact .inr lasts
    · simp only [Shown, trace, KeptBy, history, same] at shown ⊢
      exact h.preserves way shown
  · have ahead := traced.move m harmless
    have written (way : Directions) (ttl : Nat)
        (exchange : x.exchange = ⟨.cacheSet key way ttl, .ok ()⟩) : limit < w.cacheTime + ttl := by
      have lifetime := lifetime_of_noted ahead history exchange
      rw [config_move] at lifetime
      omega
    refine ⟨by omega, h.since.trans ⟨[x], by rw [history]; rfl⟩, fun e there => ?_, ?_⟩
    · rcases h.lasting.touched touches there written with stale | lasts
      · exact .inl (by omega)
      · exact .inr lasts
    · exact h.preserves.touched h.lasting h.since history touches (by omega) written

/-- What a new process finds or keeps lasts, if nothing that is kept expires before. -/
theorem Reachable.retains (reach : w.Reachable (Enters (·.keepsNothing)))
    (obeys : w.Obeys (Enters (·.keepsNothing)) moves) (ticks : w.around.Ticks)
    (lasting : w.Lasting key limit) (new : w.trace pid = [])
    (fresh : limit < w.cacheTime + w.config.routing.cacheTtl)
    (soon : (w.run moves).cacheTime ≤ limit) : w.Retains (w.run moves) pid key limit := by
  refine reach.run_until ticks obeys soon (P := fun w' => w.Retains w' pid key limit)
    ⟨Nat.le_refl _, List.suffix_rfl, lasting, ?_⟩ fun w' m reach harmless config around soon h => ?_
  · simp [Preserves, Shown, new]
  · exact h.move (reach.traced fun _ _ => id) m harmless (around ▸ ticks) (config ▸ fresh) soon

/-- A process that reads a key finds what another process has found or kept there, or what somebody else
has kept since `w₀`. -/
def Hits (w₀ w : World) (pid q : Nat) (key : String) : Prop :=
  ∀ r, ⟨.cacheGet key, r⟩ ∈ w.trace q → (∃ err, r = .error err) ∨
    ∃ way, r = .ok (some way) ∧ (w.Shown pid key way ∨ w₀.KeptBy w key (· ≠ pid))

theorem Hits.move (h : w₀.Hits w pid q key) (retains : w₀.Retains w pid key limit)
    (shown : ∃ way, w.Shown pid key way) (soon : w.cacheTime ≤ limit) (m : Move) :
    w₀.Hits (w.move m) pid q key ∧ ∃ way, (w.move m).Shown pid key way := by
  obtain ⟨way, shown⟩ := shown
  rcases entry_move w m key with ⟨history, -⟩ | ⟨x, history, touches⟩
  · simp only [Hits, Shown, trace, KeptBy, history]
    exact ⟨h, way, shown⟩
  refine ⟨fun r read => ?_, way, (shown_of_history history).2 (.inr shown)⟩
  have old (read : (⟨.cacheGet key, r⟩ : Exchange) ∈ w.trace q) : (∃ err, r = .error err) ∨
      ∃ way, r = .ok (some way) ∧
        ((w.move m).Shown pid key way ∨ w₀.KeptBy (w.move m) key (· ≠ pid)) := by
    rcases h r read with refused | ⟨way, same, by_⟩
    · exact .inl refused
    · exact .inr ⟨way, same, shown_or_kept_of_history history by_⟩
  rw [trace, history, traceOf_cons] at read
  split at read
  · rcases List.mem_cons.1 read with now_ | before
    · rw [← now_] at touches
      obtain ⟨e, there, lasts, by_⟩ := retains.preserves way shown
      generalize (w.move m).cached? key = entry at touches
      generalize reply : (⟨.cacheGet key, r⟩ : Exchange) = y at touches
      cases touches with
      | wrote => cases reply
      | hit found =>
        cases reply
        rw [there] at found
        cases found
        exact .inr ⟨e.route, rfl, shown_or_kept_of_history history by_⟩
      | missed stale =>
        have := stale e there
        omega
      | apart _ refused => exact .inl (refused r reply.symm)
    · exact old before
  · exact old read

/-- A new process finds what another one has found or kept before. -/
theorem Reachable.hits (reach : w.Reachable (Enters (·.keepsNothing)))
    (obeys : w.Obeys (Enters (·.keepsNothing)) moves) (ticks : w.around.Ticks)
    (retains : w₀.Retains w pid key limit) (shown : ∃ way, w.Shown pid key way) (new : w.trace q = [])
    (fresh : limit < w₀.cacheTime + w.config.routing.cacheTtl)
    (soon : (w.run moves).cacheTime ≤ limit) : w₀.Hits (w.run moves) pid q key := by
  have start : w₀.Hits w pid q key := by simp [Hits, new]
  refine (reach.run_until ticks obeys soon
    (P := fun w => w₀.Retains w pid key limit ∧ w₀.Hits w pid q key ∧ ∃ way, w.Shown pid key way)
    ⟨retains, start, shown⟩ fun w' m reach harmless config around soon ⟨retains, hits, shown⟩ => ?_).2.1
  have ticks' : w'.around.Ticks := around ▸ ticks
  have later := cacheTime_move ticks' m
  exact ⟨retains.move (reach.traced fun _ _ => id) m harmless ticks' (config ▸ fresh) soon,
    hits.move retains shown (by omega) m⟩

/-- Where nothing was kept under a key, a new process finds only what was kept since. -/
theorem keptBy_of_read (empty : w.cached? key = none) (new : w.trace q = []) (moves : List Move)
    {way : Directions} (read : ⟨.cacheGet key, .ok (some way)⟩ ∈ (w.run moves).trace q) :
    w.KeptBy (w.run moves) key fun _ => True := by
  refine (run_induction (fun w' => w.history <:+ w'.history ∧
      (∀ e, w'.cached? key = some e → w.KeptBy w' key fun _ => True) ∧
      ∀ way, ⟨.cacheGet key, .ok (some way)⟩ ∈ w'.trace q → w.KeptBy w' key fun _ => True)
    (fun w' m ⟨since, kept, found⟩ => ?_) w moves
    ⟨List.suffix_rfl, by simp [empty], by simp [new]⟩).2.2 way read
  rcases entry_move w' m key with ⟨history, same⟩ | ⟨x, history, touches⟩
  · simp only [trace, KeptBy, history, same]
    exact ⟨since, kept, found⟩
  have read_now {way : Directions} {entry : Option CacheEntry}
      (touches : w'.Touches key ⟨.cacheGet key, .ok (some way)⟩ entry) :
      w.KeptBy (w'.move m) key fun _ => True := by
    cases touches with
    | hit there => exact (kept _ there).noted history
    | apart _ refused =>
      obtain ⟨err, other⟩ := refused _ rfl
      cases other
  refine ⟨since.trans ⟨[x], by rw [history]; rfl⟩, fun e there => ?_, fun way read => ?_⟩
  · generalize exchange : x.exchange = y at touches
    generalize (w'.move m).cached? key = entry at touches there
    cases touches with
    | wrote way ttl => exact keptBy_of_noted since history trivial exchange
    | hit found => exact (kept _ found).noted history
    | missed => cases there
    | apart => exact (kept e there).noted history
  · rw [trace, history, traceOf_cons] at read
    split at read
    · rcases List.mem_cons.1 read with now_ | before
      · exact read_now (now_ ▸ touches)
      · exact (found way before).noted history
    · exact (found way read).noted history

end

end World

end CourierDispatch
