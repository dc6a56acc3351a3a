import CourierDispatch.Trip.Status

/-!
# Metrics

What the service counts: accepted status writes by status, look-ups of directions by result,
ended searches by outcome, and how many searches are under way. A counter appears with its
first count. The exposition lists the families by name and the counters of a family by label.

`transitions`, `lookups`, `matchesTotal` and `latencies` are the families `status_transitions_total`,
`route_cache_lookups_total`, `matches_total` and `match_latency_seconds`; `text` is `encode`.

The exposition leaves out what depends on how long a search took on the clock of the machine; of
the latency histogram only the number of observations is listed.
-/

namespace CourierDispatch

/-- Counts by label. -/
structure Tally where
  counts : List (String × Nat)
  deriving DecidableEq, Repr

namespace Tally

def empty : Tally := ⟨[]⟩

def count (t : Tally) (label : String) : Nat := (t.counts.lookup label).getD 0

/-- One more in a list of counts. -/
def bumpRow (label : String) : List (String × Nat) → List (String × Nat)
  | [] => [(label, 1)]
  | (l, n) :: rest => if l = label then (l, n + 1) :: rest else (l, n) :: bumpRow label rest

/-- One more. -/
def bump (t : Tally) (label : String) : Tally := ⟨bumpRow label t.counts⟩

@[simp] theorem count_empty (label : String) : empty.count label = 0 := rfl

theorem count_bump (t : Tally) (label label' : String) :
    (t.bump label).count label' = t.count label' + if label = label' then 1 else 0 := by
  obtain ⟨counts⟩ := t
  simp only [bump, count]
  induction counts with
  | nil =>
    by_cases same : label' = label
    · simp [bumpRow, same]
    · simp [bumpRow, List.lookup_cons, beq_eq_false_iff_ne.2 same, Ne.symm same]
  | cons row rest ih =>
    obtain ⟨l, n⟩ := row
    by_cases here : label' = l
    · subst here
      by_cases same : label' = label
      · simp [bumpRow, same]
      · simp [bumpRow, same, Ne.symm same]
    · by_cases same : l = label
      · subst same
        simp [bumpRow, List.lookup_cons, beq_eq_false_iff_ne.2 here, Ne.symm here]
      · simpa [bumpRow, List.lookup_cons, beq_eq_false_iff_ne.2 here, same] using ih

/-- The counts by label. -/
def sorted (t : Tally) : List (String × Nat) :=
  t.counts.mergeSort fun a b => a.1 ≤ b.1

end Tally

/-- How a look-up of directions ended. -/
inductive Lookup
  /-- The cache was not asked. -/
  | bypass
  | hit
  | miss
  /-- The cache could not be read. -/
  | failed
  deriving DecidableEq, Repr

def Lookup.label : Lookup → String
  | .bypass => "bypass"
  | .hit => "hit"
  | .miss => "miss"
  | .failed => "error"

structure Metrics where
  matchesTotal : Tally
  latencies : Tally
  activeMatches : Int
  transitions : Tally
  lookups : Tally
  deriving DecidableEq, Repr

namespace Metrics

def empty : Metrics := ⟨.empty, .empty, 0, .empty, .empty⟩

def countTransition (m : Metrics) (s : TripStatus) : Metrics :=
  { m with transitions := m.transitions.bump s.text }

def countLookup (m : Metrics) (l : Lookup) : Metrics :=
  { m with lookups := m.lookups.bump l.label }

/-- A search has started. -/
def enter (m : Metrics) : Metrics := { m with activeMatches := m.activeMatches + 1 }

/-- A search has let go of its slot. -/
def leave (m : Metrics) : Metrics := { m with activeMatches := m.activeMatches - 1 }

/-- A search has ended with an outcome. -/
def countMatch (m : Metrics) (outcome : String) : Metrics :=
  { m with matchesTotal := m.matchesTotal.bump outcome, latencies := m.latencies.bump outcome }

/-! ## Exposition -/

/-- A family of counters: name, help, kind, and its lines. -/
structure Family where
  name : String
  help : String
  kind : String
  samples : List String
  deriving DecidableEq, Repr

/-- The line of one counter. -/
def sample (name label : String) (row : String × Nat) : String :=
  name ++ "\x7b" ++ label ++ "=\"" ++ row.1 ++ "\"\x7d " ++ toString row.2

def samples (name label : String) (t : Tally) : List String := t.sorted.map (sample name label)

def families (m : Metrics) : List Family :=
  [⟨"active_matches", "Matching runs currently in flight", "gauge",
      ["active_matches " ++ toString m.activeMatches]⟩,
    ⟨"match_latency_seconds", "Duration of courier matching runs in seconds", "histogram",
      samples "match_latency_seconds_count" "outcome" m.latencies⟩,
    ⟨"matches_total", "Courier matching runs by outcome", "counter",
      samples "matches_total" "outcome" m.matchesTotal⟩,
    ⟨"route_cache_lookups_total", "Route cache lookups by result", "counter",
      samples "route_cache_lookups_total" "result" m.lookups⟩,
    ⟨"status_transitions_total", "Persisted trip status transitions", "counter",
      samples "status_transitions_total" "status" m.transitions⟩]

/-- The lines that hold numbers. -/
def sampleLines (m : Metrics) : List String := m.families.flatMap Family.samples

def Family.lines (f : Family) : List String :=
  if f.samples.isEmpty then []
  else s!"# HELP {f.name} {f.help}" :: s!"# TYPE {f.name} {f.kind}" :: f.samples

/-- The whole exposition. -/
def lines (m : Metrics) : List String := m.families.flatMap Family.lines

/-- The whole exposition as a text. -/
def text (m : Metrics) : String := String.join (m.lines.map (· ++ "\n"))

end Metrics

end CourierDispatch
