import CourierDispatch.Proofs.Bus.Reader
import CourierDispatch.Proofs.Service.Rules
import CourierDispatch.Proofs.Wire.Update
import Mathlib.Data.List.Induction
import Mathlib.Data.List.Infix

/-!
# A feed that keeps up sees exactly its messages

Feeds share the ring of a bus, whatever their interest, and both channels use it up. Each feed passes
the messages that were published since it was opened (`Audience.opened_run`) in their order, and makes an
update of those that concern it (`Audience.Serves`). Where it has fallen behind, it loses the oldest
messages that the ring has no room for, and no others. A feed that never has more messages before it than
the capacity loses none (`Audience.KeepsUp`).

What the service publishes is read back by every feed that it concerns (`World.payload_of_published`).
-/

namespace CourierDispatch

/-- What happens at a bus. -/
inductive Activity
  | publish (m : Message)
  | subscribe (i : Interest)
  /-- One of the feeds asks once. -/
  | ask (reader : Nat)

namespace Activity

def message? : Activity → Option Message
  | publish m => some m
  | _ => none

def interest? : Activity → Option Interest
  | subscribe i => some i
  | _ => none

end Activity

/-- A bus and its feeds. -/
structure Audience where
  bus : Bus
  readers : List Reader

namespace Audience

def start (capacity : Nat) : Audience := ⟨.silent capacity, []⟩

def act (a : Audience) : Activity → Audience
  | .publish m => { a with bus := a.bus.publish m }
  | .subscribe i =>
    { a with readers := a.readers ++ [⟨a.bus.subscribe i, a.bus.published.length, []⟩] }
  | .ask k => { a with readers := a.readers.modify k (Reader.ask a.bus) }

def run (a : Audience) (acts : List Activity) : Audience := acts.foldl act a

/-- What is published in some activities, in order. -/
def publishedIn (acts : List Activity) : List Message := acts.filterMap Activity.message?

/-- What the feeds follow that are opened in some activities, in order. -/
def openedIn (acts : List Activity) : List Interest := acts.filterMap Activity.interest?

end Audience

namespace Audience

variable {a : Audience} {acts : List Activity} {k : Nat} {r : Reader}

theorem run_snoc (a : Audience) (acts : List Activity) (x : Activity) :
    a.run (acts ++ [x]) = (a.run acts).act x := by
  simp [run]

/-- Where a reader comes from in one activity: it was there, asked, or was opened. -/
theorem reader_act {x : Activity} (h : (a.act x).readers[k]? = some r) :
    a.readers[k]? = some r ∨ (∃ old, a.readers[k]? = some old ∧ x = .ask k ∧ r = old.ask a.bus) ∨
      ∃ i, x = .subscribe i ∧ k = a.readers.length ∧
        r = ⟨a.bus.subscribe i, a.bus.published.length, []⟩ := by
  cases x with
  | publish m => exact .inl h
  | subscribe i =>
    by_cases old : k < a.readers.length
    · exact .inl ((List.getElem?_append_left old).symm.trans h)
    · have new : [(⟨a.bus.subscribe i, a.bus.published.length, []⟩ : Reader)][k - a.readers.length]? =
          some r := (List.getElem?_append_right (by omega)).symm.trans h
      have first : k - a.readers.length < 1 := (List.getElem?_eq_some_iff.1 new).1
      exact .inr (.inr ⟨i, rfl, by omega, List.mem_singleton.1 (List.mem_of_getElem? new)⟩)
  | ask j =>
    simp only [act, List.getElem?_modify] at h
    cases there : a.readers[k]? with
    | none => simp [there] at h
    | some old =>
      rw [there] at h
      have same : (if j = k then old.ask a.bus else old) = r := Option.some.inj h
      split at same
      · next own => exact .inr (.inl ⟨old, rfl, by rw [own], same.symm⟩)
      · exact .inl (by rw [same])

theorem slots_run (n : Nat) (acts : List Activity) :
    ((start n).run acts).bus.slots = Bus.nextPowerOfTwo n := by
  induction acts using List.reverseRecOn with
  | nil => rfl
  | append_singleton acts x ih =>
    rw [run_snoc]
    cases x <;> exact ih

theorem kept_act {x : Activity} (h : ∀ r ∈ a.readers, r.Kept a.bus) :
    ∀ r ∈ (a.act x).readers, r.Kept (a.act x).bus := by
  cases x with
  | publish m => exact fun r there => (h r there).publish m
  | subscribe i =>
    intro r there
    rcases List.mem_append.1 there with old | new
    · exact h r old
    · rw [List.mem_singleton.1 new]
      exact .subscribe a.bus i
  | ask j =>
    intro r there
    obtain ⟨k, at_⟩ := List.getElem?_of_mem there
    rcases reader_act at_ with same | ⟨old, was, -, rfl⟩ | ⟨i, other, -⟩
    · exact h r (List.mem_of_getElem? same)
    · exact (h old (List.mem_of_getElem? was)).ask
    · cases other

theorem kept_run (n : Nat) (acts : List Activity) :
    ∀ r ∈ ((start n).run acts).readers, r.Kept ((start n).run acts).bus := by
  induction acts using List.reverseRecOn with
  | nil => exact fun r there => absurd there List.not_mem_nil
  | append_singleton acts x ih =>
    rw [run_snoc]
    exact kept_act ih

theorem published_run (n : Nat) (acts : List Activity) :
    ((start n).run acts).bus.published = publishedIn acts := by
  induction acts using List.reverseRecOn with
  | nil => rfl
  | append_singleton acts x ih =>
    rw [run_snoc, publishedIn, List.filterMap_append, ← publishedIn, ← ih]
    cases x with
    | publish m => rfl
    | subscribe | ask => exact (List.append_nil _).symm

theorem length_readers_run (n : Nat) (acts : List Activity) :
    ((start n).run acts).readers.length = (openedIn acts).length := by
  induction acts using List.reverseRecOn with
  | nil => rfl
  | append_singleton acts x ih =>
    rw [run_snoc, openedIn, List.filterMap_append, List.length_append, ← openedIn, ← ih]
    cases x with
    | publish => rfl
    | subscribe => exact List.length_append
    | ask j => exact List.length_modify ..

/-- A reader has come with the activity that opened its feed, behind as many others as it has a number. -/
theorem opened_run {n : Nat} (there : ((start n).run acts).readers[k]? = some r) :
    ∃ before after, acts = before ++ .subscribe r.feed.interest :: after ∧
      (openedIn before).length = k ∧ r.opened = (publishedIn before).length := by
  induction acts using List.reverseRecOn generalizing r with
  | nil => simp [run, start] at there
  | append_singleton acts x ih =>
    rw [run_snoc] at there
    rcases reader_act there with same | ⟨old, was, rfl, rfl⟩ | ⟨i, rfl, last, rfl⟩
    · obtain ⟨before, after, split, number, opened⟩ := ih same
      exact ⟨before, after ++ [x], by rw [split]; simp, number, opened⟩
    · obtain ⟨before, after, split, number, opened⟩ := ih was
      refine ⟨before, after ++ [.ask k], ?_, number, opened⟩
      rw [Reader.interest_ask, split]
      simp
    · refine ⟨acts, [], rfl, ?_, ?_⟩
      · rw [last, length_readers_run]
      · rw [← published_run n acts]

/-- On a bus of capacity `n`, reader `k` never has more than `n` messages before it, whatever they
are about. -/
def KeepsUp (n k : Nat) (acts : List Activity) : Prop :=
  ∀ before, before <+: acts → ∀ r, ((start n).run before).readers[k]? = some r →
    (((start n).run before).bus.unread r.feed).length ≤ n

instance (n k : Nat) (acts : List Activity) : Decidable (KeepsUp n k acts) :=
  decidable_of_iff
    (∀ before ∈ acts.inits, ∀ r ∈ (((start n).run before).readers[k]?).toList,
      (((start n).run before).bus.unread r.feed).length ≤ n)
    (by simp [KeepsUp])

/-- A reader that keeps up has lost nothing. -/
theorem KeepsUp.none_lost {n : Nat} (h : KeepsUp n k acts)
    (there : ((start n).run acts).readers[k]? = some r) : ∀ x ∈ r.received, x.lost = [] := by
  induction acts using List.reverseRecOn generalizing r with
  | nil => simp [run, start] at there
  | append_singleton acts x ih =>
    have before : acts <+: acts ++ [x] := List.prefix_append _ _
    have earlier : KeepsUp n k acts := fun front prior => h front (prior.trans before)
    rw [run_snoc] at there
    rcases reader_act there with same | ⟨old, was, rfl, rfl⟩ | ⟨i, -, -, rfl⟩
    · exact ih earlier same
    · -- it asks, and as much as the ring holds is before it at most
      have few := h acts before old was
      have room : n ≤ ((start n).run acts).bus.slots := by
        rw [slots_run]
        exact Bus.le_nextPowerOfTwo n
      intro x given
      rcases List.mem_append.1 given with earlier_ | last
      · exact ih earlier was x earlier_
      · rw [List.mem_singleton.1 last]
        cases next : ((start n).run acts).bus.unread old.feed with
        | nil =>
          rw [Bus.receive_of_unread_nil next]
          rfl
        | cons m rest =>
          rw [Bus.receive_of_unread_cons next (by omega)]
          rfl
    · exact fun x given => absurd given List.not_mem_nil

/-- How a bus serves a reader. -/
structure Serves (b : Bus) (r : Reader) : Prop where
  /-- What the reader has passed, be it heard or lost, is what was published since its feed was opened,
  in order and each message once. -/
  passed : r.received.flatMap Reception.passed = b.part r.opened r.feed.position
  /-- It yields the updates of some of these messages, in order. -/
  yielded : r.yielded.Sublist ((b.published.drop r.opened).filterMap r.feed.interest.update?)
  nothing : b.unread r.feed = [] → b.receive r.feed = (.nothing, r.feed)
  /-- While the ring has room for what is unread, the next message is heard. -/
  next : ∀ m rest, b.unread r.feed = m :: rest → (b.unread r.feed).length ≤ b.slots →
    (b.receive r.feed).1 = .message m ∧ b.unread (b.receive r.feed).2 = rest
  /-- Otherwise the oldest messages beyond the ring are lost, and as many are left as it has slots. -/
  lags : b.slots < (b.unread r.feed).length → ∃ lost kept, b.unread r.feed = lost ++ kept ∧
    kept.length = b.slots ∧ (b.receive r.feed).1 = .lagged lost ∧
    b.unread (b.receive r.feed).2 = kept
  /-- Reading at once is asking until nothing comes. -/
  at_once : ∀ m, (b.unread r.feed).length < m →
    ((Reader.ask b)^[m] r).yielded = r.yielded ++ (b.read r.feed).1 ∧
      ((Reader.ask b)^[m] r).feed = (b.read r.feed).2

theorem serves_of_kept {b : Bus} (h : r.Kept b) : Serves b r where
  passed := h.passed
  yielded := by
    refine List.Sublist.filterMap _ ((Reception.heard_sublist _).trans ?_)
    rw [h.passed]
    exact b.part_sublist _ _
  nothing := Bus.receive_of_unread_nil
  next m rest unread kept := by
    rw [Bus.receive_of_unread_cons unread kept]
    refine ⟨rfl, ?_⟩
    rw [Bus.unread, ← List.tail_drop, ← Bus.unread, unread]
    rfl
  lags lagging := by
    have count : (b.unread r.feed).length = b.published.length - r.feed.position :=
      List.length_drop
    refine ⟨_, _, (List.take_append_drop ((b.unread r.feed).length - b.slots) _).symm, ?_, ?_, ?_⟩
    · rw [List.length_drop]
      omega
    · rw [Bus.receive_of_lagging lagging]
    · rw [Bus.receive_of_lagging lagging, Bus.unread, Bus.unread, List.drop_drop]
      congr 1
      rw [← Bus.unread]
      simp only
      omega
  at_once m := Reader.asks_as_read h.position_le

end Audience

/-! ## What the service publishes -/

namespace World

variable {w w' : World}

theorem published_of_respond {e : Effect} {r : e.Reply} (h : w.respond e = some (r, w')) :
    w'.bus.published = w.bus.published ∨
      ∃ m, w'.bus.published = w.bus.published ++ [m] ∧ ∃ u : TripUpdate, m.payload = u.encode := by
  cases e with
  | publish channel u =>
    cases h
    exact .inr ⟨_, rfl, u, rfl⟩
  | cacheSet key route ttl =>
    simp only [respond, Option.map_eq_some_iff] at h
    obtain ⟨c, -, h⟩ := h
    cases h
    exact .inl rfl
  | store | computeRoute | startRun =>
    simp only [respond] at h
    split at h <;> cases h <;> exact .inl rfl
  | _ => cases h; exact .inl rfl

theorem published_of_answer {pid : Nat} {v : Verdict} {e : Effect} {r : e.Reply}
    (h : w.answer pid v e = some (r, w')) :
    w'.bus.published = w.bus.published ∨
      ∃ m, w'.bus.published = w.bus.published ++ [m] ∧ ∃ u : TripUpdate, m.payload = u.encode := by
  simp only [answer, Option.map_eq_some_iff, Prod.exists] at h
  obtain ⟨r₁, w₁, replied, h⟩ := h
  cases h
  split at replied
  · cases replied
    exact .inl rfl
  · rcases published_of_respond replied with same | more
    · exact .inl same
    · exact .inr more

theorem published_move (w : World) (m : Move) :
    (w.move m).bus.published = w.bus.published ∨
      ∃ x, (w.move m).bus.published = w.bus.published ++ [x] ∧ ∃ u : TripUpdate, x.payload = u.encode := by
  cases m with
  | enter | pass => exact .inl rfl
  | step pid v =>
    have turn := turn_step w pid v
    simp only [World.move]
    generalize w.step pid v = after at turn ⊢
    cases turn with
    | idle | turned => exact .inl rfl
    | broke =>
      unfold breakDown
      split <;> exact .inl rfl
    | answered _ _ replied =>
      have told := published_of_answer replied
      exact told

/-- What is on the bus of a service was written by `TripUpdate.encode`. -/
theorem payload_of_published {rule : World → Move → Prop} (reach : w.Reachable rule) :
    ∀ m ∈ w.bus.published, ∃ u : TripUpdate, m.payload = u.encode := by
  refine reach.rule_induction (P := fun w => ∀ m ∈ w.bus.published, ∃ u : TripUpdate,
    m.payload = u.encode) (fun config around w new => ?_) fun w move _ _ written => ?_
  · simp only [new?, Option.bind_eq_bind, Option.bind_eq_some_iff] at new
    obtain ⟨bus, opened, same⟩ := new
    cases Option.some.inj same
    rw [Bus.new?_eq_silent opened]
    exact fun m there => absurd there List.not_mem_nil
  · intro m there
    rcases published_move w move with same | ⟨x, more, encoded⟩
    · exact written m (same ▸ there)
    · rcases List.mem_append.1 (more ▸ there) with old | new
      · exact written m old
      · rw [List.mem_singleton.1 new]
        exact encoded

end World

namespace Interest

theorem update?_eq_some {i : Interest} {m : Message} {u : TripUpdate} :
    i.update? m = some u ↔
      m.channel = i.channel ∧ TripUpdate.decode.ofValue m.payload = .ok u ∧ i.concerns u := by
  unfold update?
  by_cases own : m.channel = i.channel
  · cases TripUpdate.decode.ofValue m.payload with
    | error err => simp [own]
    | ok v =>
      by_cases concerned : i.concerns v
      · simp only [own, concerned, if_true, Option.some.injEq, Except.ok.injEq, true_and]
        exact ⟨fun same => ⟨same, same ▸ concerned⟩, And.left⟩
      · simp only [own, concerned, if_true, Bool.false_eq_true, if_false, reduceCtorEq,
          Except.ok.injEq, true_and, false_iff, not_and]
        exact fun same => same ▸ concerned
  · simp [own]

theorem update?_trip {m : Message} {trip : Uuid} {u : TripUpdate} :
    (Interest.trip trip).update? m = some u ↔
      m.channel = .tripUpdates ∧ TripUpdate.decode.ofValue m.payload = .ok u ∧ u.tripId = trip := by
  rw [update?_eq_some]
  simp [channel, concerns]

theorem update?_courier {m : Message} {courier : Uuid} {u : TripUpdate} :
    (Interest.courier courier).update? m = some u ↔
      m.channel = .assignment ∧ TripUpdate.decode.ofValue m.payload = .ok u ∧
        (u.courierId = some courier ∨ u.status = .cancelled ∧ u.courierId = none) := by
  rw [update?_eq_some]
  simp [channel, concerns]

end Interest

/-! ## The whole -/

namespace Audience

variable {acts : List Activity} {k : Nat} {r : Reader}

/-- A reader that keeps up yields all that concerns it, as far as it has read. -/
theorem KeepsUp.yielded {n : Nat} (h : KeepsUp n k acts)
    (there : ((start n).run acts).readers[k]? = some r) :
    r.yielded = (((start n).run acts).bus.part r.opened r.feed.position).filterMap
      r.feed.interest.update? := by
  rw [← (kept_run n acts r (List.mem_of_getElem? there)).passed,
    ← Reception.heard_of_none_lost (h.none_lost there)]
  rfl

/-- A bus of capacity `n` has the least power of two of slots that is not below `n`, and serves its
readers, whatever is done on it: with what was published behind their subscriptions. A reader that keeps
up yields all of it that concerns it. What concerns a feed is what its channel brings of its trip or
courier, and an update with finite coordinates, such as the service publishes, is always read back. -/
theorem feeds_serve (n k : Nat) (acts : List Activity) (r : Reader)
    (there : ((start n).run acts).readers[k]? = some r) :
    (∀ b, Bus.new? n = some b → b = (start n).bus) ∧
    (∃ j, ((start n).run acts).bus.slots = 2 ^ j ∧ n ≤ 2 ^ j ∧ ∀ i, n ≤ 2 ^ i → 2 ^ j ≤ 2 ^ i) ∧
    ((start n).run acts).bus.published = publishedIn acts ∧
    (∃ before after, acts = before ++ .subscribe r.feed.interest :: after ∧
      (openedIn before).length = k ∧ r.opened = (publishedIn before).length) ∧
    Serves ((start n).run acts).bus r ∧
    (KeepsUp n k acts →
      r.yielded = (((start n).run acts).bus.part r.opened r.feed.position).filterMap
        r.feed.interest.update? ∧
      (((start n).run acts).bus.unread r.feed = [] →
        r.yielded = (((start n).run acts).bus.published.drop r.opened).filterMap
          r.feed.interest.update?)) ∧
    (∀ m trip u, (Interest.trip trip).update? m = some u ↔
      m.channel = .tripUpdates ∧ TripUpdate.decode.ofValue m.payload = .ok u ∧ u.tripId = trip) ∧
    (∀ m courier u, (Interest.courier courier).update? m = some u ↔
      m.channel = .assignment ∧ TripUpdate.decode.ofValue m.payload = .ok u ∧
        (u.courierId = some courier ∨ u.status = .cancelled ∧ u.courierId = none)) ∧
    (∀ u : TripUpdate, u.Finite → TripUpdate.decode.ofValue u.encode = .ok u) ∧
    ∀ w : World, w.Reachable (fun _ _ => True) → ∀ m ∈ w.bus.published,
      ∃ u : TripUpdate, m.payload = u.encode ∧
        (u.Finite → TripUpdate.decode.ofValue m.payload = .ok u) := by
  have kept := kept_run n acts r (List.mem_of_getElem? there)
  refine ⟨fun b opened => Bus.new?_eq_silent opened, ?_, published_run n acts, opened_run there,
    serves_of_kept kept, fun keeps => ?_, fun _ _ _ => Interest.update?_trip,
    fun _ _ _ => Interest.update?_courier, fun _ => TripUpdate.decode_encode,
    fun w reach m published => ?_⟩
  · rw [slots_run]
    exact ⟨_, rfl, Bus.le_nextPowerOfTwo n, fun i le => Bus.nextPowerOfTwo_le le⟩
  · have all := keeps.yielded there
    refine ⟨all, fun nothing => ?_⟩
    have last : r.feed.position = ((start n).run acts).bus.published.length :=
      Nat.le_antisymm kept.position_le (List.drop_eq_nil_iff.1 nothing)
    rw [all, last, Bus.part_all]
  · obtain ⟨u, written⟩ := World.payload_of_published reach m published
    exact ⟨u, written, fun finite => by rw [written, TripUpdate.decode_encode finite]⟩

/-- On a bus for two messages, a trip and a courier are followed while a message is no update, one
assigns the courier, and one cancels another trip. Both feeds read in time. -/
def twoFeeds : List Activity :=
  let trip : Uuid := ⟨1⟩
  let courier : Uuid := ⟨2⟩
  [.subscribe (.trip trip), .subscribe (.courier courier),
    .publish ⟨.tripUpdates, .text "no update"⟩,
    .publish ⟨.tripUpdates, (⟨trip, .courierAssigned, some courier, none⟩ : TripUpdate).encode⟩,
    .ask 0, .ask 1, .ask 0, .ask 1,
    .publish ⟨.assignment, (⟨trip, .courierAssigned, some courier, none⟩ : TripUpdate).encode⟩,
    .publish ⟨.assignment, (⟨⟨3⟩, .cancelled, none, none⟩ : TripUpdate).encode⟩,
    .ask 0, .ask 1, .ask 0, .ask 1]

/-- The feed of the courier, behind all of it. -/
def follower : Reader :=
  ((start 2).run twoFeeds).readers.getLastD ⟨⟨.courier .nil, 0⟩, 0, []⟩

theorem feeds_serve_two : KeepsUp 2 1 twoFeeds ∧ Serves ((start 2).run twoFeeds).bus follower ∧
    follower.yielded.map (fun u => (u.tripId, u.status)) =
      [(⟨1⟩, .courierAssigned), (⟨3⟩, .cancelled)] := by
  have keeps : KeepsUp 2 1 twoFeeds := by decide
  obtain ⟨-, -, -, -, serves, complete, -⟩ := feeds_serve 2 1 twoFeeds follower rfl
  refine ⟨keeps, serves, ?_⟩
  rw [(complete keeps).1]
  decide +kernel

end Audience

end CourierDispatch
