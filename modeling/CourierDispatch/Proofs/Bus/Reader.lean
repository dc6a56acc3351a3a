import CourierDispatch.Bus
import Mathlib.Algebra.Group.Nat.Defs
import Mathlib.Logic.Function.Iterate

/-!
# One message at a time

A receiver takes the messages of a bus one by one (`Bus.receive`). Where the next one is no longer kept
it is told that it lags, and is moved on to the oldest message that is kept. What a reader has passed, be
it heard or lost, is what was published since its feed was opened, in order (`Reader.Kept`). Reading at
once is asking until nothing comes (`Reader.asks_as_read`).
-/

namespace CourierDispatch

/-! ## One message at a time -/

/-- What a feed is given when it asks once. -/
inductive Reception
  | nothing
  /-- The oldest messages were no longer kept, and the feed is past them. -/
  | lagged (lost : List Message)
  | message (m : Message)

namespace Reception

/-- The messages that a feed is past now. -/
def passed : Reception → List Message
  | nothing => []
  | lagged lost => lost
  | message m => [m]

/-- The message that was heard. -/
def heard? : Reception → Option Message
  | message m => some m
  | _ => none

def lost : Reception → List Message
  | lagged lost => lost
  | _ => []

theorem heard_sublist (rs : List Reception) :
    (rs.filterMap heard?).Sublist (rs.flatMap passed) := by
  induction rs with
  | nil => exact .slnil
  | cons r rs ih =>
    cases r with
    | nothing => simpa [List.filterMap_cons, heard?, passed] using ih
    | lagged lost =>
      simpa [List.filterMap_cons, heard?, passed] using ih.trans (List.sublist_append_right _ _)
    | message m => simpa [List.filterMap_cons, heard?, passed] using ih

/-- Where nothing was lost, everything passed was heard. -/
theorem heard_of_none_lost {rs : List Reception} (h : ∀ r ∈ rs, r.lost = []) :
    rs.filterMap heard? = rs.flatMap passed := by
  induction rs with
  | nil => rfl
  | cons r rs ih =>
    have ih := ih fun r there => h r (List.mem_cons_of_mem _ there)
    have none_lost : r.lost = [] := h r List.mem_cons_self
    cases r with
    | nothing => simpa [List.filterMap_cons, heard?, passed] using ih
    | lagged gone =>
      rw [lost] at none_lost
      simpa [List.filterMap_cons, heard?, passed, none_lost] using ih
    | message m => simpa [List.filterMap_cons, heard?, passed] using ih

end Reception

namespace Bus

/-- A bus of some capacity on which nothing was published. -/
def silent (capacity : Nat) : Bus := ⟨nextPowerOfTwo capacity, []⟩

theorem new?_eq_silent {capacity : Nat} {b : Bus} (h : new? capacity = some b) :
    b = silent capacity := by
  simp only [new?, Option.ite_none_right_eq_some, Option.some.injEq] at h
  exact h.2.symm

theorem le_nextPowerOfTwo (n : Nat) : n ≤ nextPowerOfTwo n := by
  unfold nextPowerOfTwo
  split
  · next small => simpa using small
  · next large =>
    have below : n - 1 < 2 ^ ((n - 1).log2 + 1) := Nat.lt_log2_self
    have same : Nat.pow 2 ((n - 1).log2 + 1) = 2 ^ ((n - 1).log2 + 1) := rfl
    omega

theorem nextPowerOfTwo_le {n i : Nat} (h : n ≤ 2 ^ i) : nextPowerOfTwo n ≤ 2 ^ i := by
  unfold nextPowerOfTwo
  refine Nat.pow_le_pow_right (by decide) ?_
  split
  · exact Nat.zero_le i
  · next large => exact (Nat.log2_lt (by omega)).2 (by omega)

/-- The messages that a feed is not past. -/
def unread (b : Bus) (f : Feed) : List Message := b.published.drop f.position

/-- A feed asks once: it is given the next message, or is moved on to the oldest one that is kept. -/
def receive (b : Bus) (f : Feed) : Reception × Feed :=
  let oldest := b.published.length - b.slots
  if f.position < oldest then
    (.lagged ((b.published.take oldest).drop f.position), { f with position := oldest })
  else match b.published[f.position]? with
    | some m => (.message m, { f with position := f.position + 1 })
    | none => (.nothing, f)

variable {b : Bus} {f : Feed}

theorem receive_of_unread_nil (h : b.unread f = []) : b.receive f = (.nothing, f) := by
  have beyond : b.published.length ≤ f.position := List.drop_eq_nil_iff.1 h
  have kept : ¬ f.position < b.published.length - b.slots := by omega
  simp [receive, kept, List.getElem?_eq_none beyond]

theorem receive_of_unread_cons {m : Message} {rest : List Message} (h : b.unread f = m :: rest)
    (kept : (b.unread f).length ≤ b.slots) :
    b.receive f = (.message m, { f with position := f.position + 1 }) := by
  have count : (b.unread f).length = b.published.length - f.position := List.length_drop
  have here : b.published[f.position]? = some m := by
    rw [← List.head?_drop]
    exact congrArg List.head? h
  have still : ¬ f.position < b.published.length - b.slots := by omega
  simp [receive, still, here]

theorem receive_of_lagging (h : b.slots < (b.unread f).length) :
    b.receive f = (.lagged ((b.unread f).take ((b.unread f).length - b.slots)),
      { f with position := b.published.length - b.slots }) := by
  have count : (b.unread f).length = b.published.length - f.position := List.length_drop
  have behind : f.position < b.published.length - b.slots := by omega
  simp only [receive, behind, if_true, List.drop_take, unread, List.length_drop]
  rw [show b.published.length - b.slots - f.position =
    b.published.length - f.position - b.slots by omega]

end Bus

/-! ## Readers -/

/-- A feed with what it was given, in order. -/
structure Reader where
  feed : Feed
  /-- How many messages there were when it was opened. -/
  opened : Nat
  received : List Reception

namespace Reader

def heard (r : Reader) : List Message := r.received.filterMap Reception.heard?

def lost (r : Reader) : List Message := r.received.flatMap Reception.lost

/-- The updates that the feed has made of what it heard. -/
def yielded (r : Reader) : List TripUpdate := r.heard.filterMap r.feed.interest.update?

/-- The feed asks once. -/
def ask (b : Bus) (r : Reader) : Reader :=
  { r with feed := (b.receive r.feed).2, received := r.received ++ [(b.receive r.feed).1] }

theorem interest_ask (b : Bus) (r : Reader) : (r.ask b).feed.interest = r.feed.interest := by
  simp only [ask, Bus.receive]
  split
  · rfl
  · split <;> rfl

end Reader

namespace Bus

/-- The messages from one position up to another. -/
def part (b : Bus) (i j : Nat) : List Message := (b.published.take j).drop i

theorem part_append {b : Bus} {i j k : Nat} (hij : i ≤ j) (hjk : j ≤ k)
    (hk : k ≤ b.published.length) : b.part i j ++ b.part j k = b.part i k := by
  have front : b.published.take j = (b.published.take k).take j := by
    rw [List.take_take, Nat.min_eq_left hjk]
  have short : i ≤ ((b.published.take k).take j).length := by simp; omega
  rw [part, part, part, front, ← List.drop_append_of_le_length short, List.take_append_drop]

theorem part_publish {b : Bus} {j : Nat} (hj : j ≤ b.published.length) (m : Message) (i : Nat) :
    (b.publish m).part i j = b.part i j := by
  rw [part, publish, List.take_append_of_le_length hj, part]

theorem part_sublist (b : Bus) (i j : Nat) : (b.part i j).Sublist (b.published.drop i) := by
  rw [part, List.drop_take]
  exact List.take_sublist _ _

theorem part_all (b : Bus) (i : Nat) : b.part i b.published.length = b.published.drop i := by
  rw [part, List.take_length]

end Bus

/-- A reader has passed what was published since its feed was opened, in order. -/
structure Reader.Kept (b : Bus) (r : Reader) : Prop where
  opened_le : r.opened ≤ r.feed.position
  position_le : r.feed.position ≤ b.published.length
  passed : r.received.flatMap Reception.passed = b.part r.opened r.feed.position

namespace Reader.Kept

variable {b : Bus} {r : Reader}

theorem publish (h : r.Kept b) (m : Message) : r.Kept (b.publish m) where
  opened_le := h.opened_le
  position_le := by
    have := h.position_le
    simp only [Bus.publish, List.length_append]
    omega
  passed := by rw [Bus.part_publish h.position_le, h.passed]

theorem subscribe (b : Bus) (i : Interest) : Kept b ⟨b.subscribe i, b.published.length, []⟩ where
  opened_le := Nat.le_refl _
  position_le := Nat.le_refl _
  passed := by simp [Bus.subscribe, Bus.part_all]

/-- The feed goes on past the messages up to another position. -/
theorem forward (h : r.Kept b) {x : Reception} {p : Nat} (onward : r.feed.position ≤ p)
    (inside : p ≤ b.published.length) (passed : x.passed = b.part r.feed.position p) :
    Kept b ⟨{ r.feed with position := p }, r.opened, r.received ++ [x]⟩ where
  opened_le := Nat.le_trans h.opened_le onward
  position_le := inside
  passed := by
    simp only [List.flatMap_append, List.flatMap_cons, List.flatMap_nil, List.append_nil, h.passed,
      passed]
    exact Bus.part_append h.opened_le onward inside

theorem ask (h : r.Kept b) : (r.ask b).Kept b := by
  have inside := h.position_le
  have count : (b.unread r.feed).length = b.published.length - r.feed.position := List.length_drop
  by_cases lagging : b.slots < (b.unread r.feed).length
  · rw [Reader.ask, Bus.receive_of_lagging lagging]
    refine h.forward (by omega) (by omega) ?_
    rw [Reception.passed, Bus.part, List.drop_take, count]
    congr 1
    omega
  · cases next : b.unread r.feed with
    | nil =>
      rw [Reader.ask, Bus.receive_of_unread_nil next]
      exact ⟨h.opened_le, h.position_le, by simpa [Reception.passed] using h.passed⟩
    | cons m rest =>
      have longer : (b.unread r.feed).length = rest.length + 1 := by rw [next]; rfl
      rw [Reader.ask, Bus.receive_of_unread_cons next (by omega)]
      refine h.forward (by omega) (by omega) ?_
      have one : r.feed.position + 1 - r.feed.position = 1 := by omega
      rw [Bus.part, List.drop_take, one, ← Bus.unread, next]
      rfl

end Reader.Kept

/-! ## Asking until nothing comes -/

namespace Reader

variable {b : Bus} {r : Reader}

/-- A reader that has not fallen behind the ring hears all that is before it. -/
theorem asks_all {m : Nat} (inside : r.feed.position ≤ b.published.length)
    (kept : (b.unread r.feed).length ≤ b.slots) (enough : (b.unread r.feed).length ≤ m) :
    ((ask b)^[m] r).heard = r.heard ++ b.unread r.feed ∧
      ((ask b)^[m] r).feed = { r.feed with position := b.published.length } := by
  induction m generalizing r with
  | zero =>
    have nothing : b.unread r.feed = [] := List.length_eq_zero_iff.1 (by omega)
    have count : (b.unread r.feed).length = b.published.length - r.feed.position :=
      List.length_drop
    have last : r.feed.position = b.published.length := by omega
    refine ⟨by simp [nothing], ?_⟩
    rw [← last]
    rfl
  | succ m ih =>
    rw [Function.iterate_succ_apply]
    cases next : b.unread r.feed with
    | nil =>
      have same : (r.ask b).feed = r.feed := by rw [ask, Bus.receive_of_unread_nil next]
      have silent : (r.ask b).heard = r.heard := by
        simp [heard, ask, Bus.receive_of_unread_nil next, Reception.heard?]
      have rest := ih (r := r.ask b) (by rw [same]; exact inside) (by rw [same]; exact kept)
        (by rw [same, next]; exact Nat.zero_le _)
      rwa [same, silent, next] at rest
    | cons x rest =>
      have given := Bus.receive_of_unread_cons next kept
      have feed : (r.ask b).feed = { r.feed with position := r.feed.position + 1 } := by
        rw [ask, given]
      have told : (r.ask b).heard = r.heard ++ [x] := by
        simp [heard, ask, given, Reception.heard?]
      have left : b.unread (r.ask b).feed = rest := by
        rw [feed, Bus.unread, ← List.tail_drop, ← Bus.unread, next]
        rfl
      have length : (b.unread r.feed).length = rest.length + 1 := by rw [next]; rfl
      have count : (b.unread r.feed).length = b.published.length - r.feed.position :=
        List.length_drop
      have later := ih (r := r.ask b) (by rw [feed]; simp only; omega) (by rw [left]; omega)
        (by rw [left]; omega)
      rw [told, left, feed] at later
      exact ⟨by simpa using later.1, later.2⟩

/-- Reading at once is asking until nothing comes. -/
theorem asks_as_read {m : Nat} (inside : r.feed.position ≤ b.published.length)
    (enough : (b.unread r.feed).length < m) :
    ((ask b)^[m] r).yielded = r.yielded ++ (b.read r.feed).1 ∧
      ((ask b)^[m] r).feed = (b.read r.feed).2 := by
  have count : (b.unread r.feed).length = b.published.length - r.feed.position := List.length_drop
  by_cases lagging : b.slots < (b.unread r.feed).length
  · obtain ⟨m, rfl⟩ : ∃ k, m = k + 1 := ⟨m - 1, by omega⟩
    have given := Bus.receive_of_lagging lagging
    have feed : (r.ask b).feed = { r.feed with position := b.published.length - b.slots } := by
      rw [ask, given]
    have silent : (r.ask b).heard = r.heard := by
      simp [heard, ask, given, Reception.heard?]
    have left : (b.unread (r.ask b).feed).length = b.slots := by
      rw [feed, Bus.unread, List.length_drop]
      simp only
      omega
    have later := asks_all (b := b) (m := m) (r := r.ask b) (by rw [feed]; simp only; omega)
      (by omega) (by omega)
    have resume : b.resume r.feed = b.published.length - b.slots := by
      rw [Bus.resume]
      omega
    rw [silent, feed] at later
    rw [Function.iterate_succ_apply, yielded, later.1, later.2]
    simp [yielded, Bus.read, resume, Bus.unread]
  · have all := asks_all (m := m) inside (by omega) (by omega)
    have resume : b.resume r.feed = r.feed.position := by
      rw [Bus.resume]
      omega
    rw [yielded, all.1, all.2]
    simp [yielded, Bus.read, resume, Bus.unread]

end Reader
end CourierDispatch
