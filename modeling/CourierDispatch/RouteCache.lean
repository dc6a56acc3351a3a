import CourierDispatch.Route
import CourierDispatch.Table

/-!
# The route cache

Directions by route key, each until an expiry. The last writer wins. A look-up that finds an
expired entry removes it; `lookup` and `evict` are two steps, and the second looks again, so
an entry that was written in between stays.

Instants and lifetimes are milliseconds. An expiry beyond the range of the clock cannot be
computed, and such a write is a breakdown.

`get` and `set?` are the `get` and `set` of the `InMemoryRouteCache`, whose `get` looks an entry up and
then removes it under a condition of its own.
-/

namespace CourierDispatch

structure CacheEntry where
  route : Directions
  expiresAt : Nat
  deriving DecidableEq, Repr

structure RouteCache where
  entries : Table String CacheEntry

namespace RouteCache

def empty : RouteCache := ⟨.empty⟩

/-- The first instant that the clock cannot express: `2 ^ 63` seconds. -/
def clockLimit : Nat := UInt64.size / 2 * 1000

/-- What a look-up finds. -/
inductive Found
  | live (route : Directions)
  | expired
  | nothing
  deriving DecidableEq, Repr

/-- Looks for a live entry. -/
def lookup (c : RouteCache) (now : Nat) (key : String) : Found :=
  match c.entries.get? key with
  | none => .nothing
  | some e => if now < e.expiresAt then .live e.route else .expired

/-- Removes an entry if it has expired. -/
def evict (c : RouteCache) (now : Nat) (key : String) : RouteCache :=
  match c.entries.get? key with
  | none => c
  | some e => if now < e.expiresAt then c else ⟨c.entries.erase key⟩

/-- A look-up with the removal that may follow it. -/
def get (c : RouteCache) (now : Nat) (key : String) : Option Directions × RouteCache :=
  match c.lookup now key with
  | .live route => (some route, c)
  | .expired => (none, c.evict now key)
  | .nothing => (none, c)

/-- What is found is a live entry. -/
theorem entry_of_get {c : RouteCache} {now : Nat} {key : String} {route : Directions}
    (found : (c.get now key).1 = some route) :
    ∃ e, c.entries.get? key = some e ∧ e.route = route ∧ now < e.expiresAt := by
  unfold get lookup at found
  cases entry : c.entries.get? key with
  | none => rw [entry] at found; cases found
  | some e =>
    rw [entry] at found
    by_cases live : now < e.expiresAt
    · simp only [if_pos live] at found
      exact ⟨e, rfl, Option.some.inj found, live⟩
    · simp only [if_neg live] at found
      cases found

/-- A look-up adds nothing. -/
theorem get?_of_get {c : RouteCache} {now : Nat} {key k : String} {e : CacheEntry}
    (there : (c.get now key).2.entries.get? k = some e) : c.entries.get? k = some e := by
  unfold get at there
  split at there
  · exact there
  · unfold evict at there
    split at there
    · exact there
    · split at there
      · exact there
      · rw [Table.get?_erase] at there
        split at there
        · cases there
        · exact there
  · exact there

/-- A look-up shows the entry of its key if there is a live one, and otherwise leaves none. -/
theorem get_cases (c : RouteCache) (now : Nat) (key : String) :
    (∃ e, c.entries.get? key = some e ∧ now < e.expiresAt ∧ c.get now key = (some e.route, c)) ∨
      (∀ e, c.entries.get? key = some e → e.expiresAt ≤ now) ∧ (c.get now key).1 = none ∧
        ∀ k, (c.get now key).2.entries.get? k = if k = key then none else c.entries.get? k := by
  unfold get lookup evict
  cases entry : c.entries.get? key with
  | none =>
    refine .inr ⟨nofun, rfl, fun k => ?_⟩
    by_cases same : k = key
    · simp [same, entry]
    · simp [same]
  | some e =>
    by_cases live : now < e.expiresAt
    · exact .inl ⟨e, rfl, live, by simp only [if_pos live]⟩
    · simp only [if_neg live]
      refine .inr ⟨?_, trivial, Table.get?_erase c.entries key⟩
      rintro _ ⟨⟩
      omega

/-- Keeps directions for some time; `none` if the expiry is out of range. -/
def set? (c : RouteCache) (now : Nat) (key : String) (route : Directions) (ttl : Nat) :
    Option RouteCache :=
  if now + ttl < clockLimit then some ⟨c.entries.insert key ⟨route, now + ttl⟩⟩ else none

/-- Only the entry of the key is written. -/
theorem get?_of_set? {c c' : RouteCache} {now ttl : Nat} {key k : String} {route : Directions}
    (written : c.set? now key route ttl = some c') :
    c'.entries.get? k = if k = key then some ⟨route, now + ttl⟩ else c.entries.get? k := by
  unfold set? at written
  split at written
  · cases written
    exact Table.get?_insert ..
  · cases written

end RouteCache

end CourierDispatch
