/-!
# Tables

Rows by key, in the order in which the keys were first written. A row that is written again
keeps its place. No key occurs twice: that is part of the type, kept by `setRow` because the keys
after a write are the keys before it, with a new key at the end (`keys_setRow`).
-/

namespace CourierDispatch

variable {κ ν : Type} [DecidableEq κ]

/-- Writes a row into a list of rows. -/
def setRow (key : κ) (v : ν) : List (κ × ν) → List (κ × ν)
  | [] => [(key, v)]
  | (k, w) :: rest => if k = key then (k, v) :: rest else (k, w) :: setRow key v rest

theorem keys_setRow (key : κ) (v : ν) (rows : List (κ × ν)) :
    (setRow key v rows).map Prod.fst =
      if key ∈ rows.map Prod.fst then rows.map Prod.fst else rows.map Prod.fst ++ [key] := by
  induction rows with
  | nil => simp [setRow]
  | cons row rest ih =>
    by_cases h : row.1 = key
    · simp [setRow, h]
    · have h' : ¬ key = row.1 := fun e => h e.symm
      simp only [setRow, h, ↓reduceIte, List.map_cons, ih, List.mem_cons, h', false_or]
      split <;> simp

theorem lookup_setRow (key k : κ) (v : ν) (rows : List (κ × ν)) :
    (setRow key v rows).lookup k = if k = key then some v else rows.lookup k := by
  induction rows with
  | nil =>
    by_cases h : k = key
    · simp [setRow, h]
    · have : (k == key) = false := by simpa using h
      simp [setRow, List.lookup_cons, h, this]
  | cons row rest ih =>
    obtain ⟨r, w⟩ := row
    by_cases h : r = key
    · subst h
      by_cases hk : k = r
      · simp [setRow, hk]
      · have : (k == r) = false := by simpa using hk
        simp [setRow, List.lookup_cons, hk, this]
    · simp only [setRow, h, ↓reduceIte, List.lookup_cons, ih]
      by_cases hk : k = key
      · subst hk
        have : (k == r) = false := by simpa using fun e => h e.symm
        simp [this]
      · simp [hk]

/-- Rows by key, in the order of their first writing. -/
structure Table (κ ν : Type) [DecidableEq κ] where
  rows : List (κ × ν)
  distinct : (rows.map Prod.fst).Nodup

namespace Table

def empty : Table κ ν := ⟨[], List.nodup_nil⟩

instance : Inhabited (Table κ ν) := ⟨empty⟩

def get? (t : Table κ ν) (key : κ) : Option ν := t.rows.lookup key

def keys (t : Table κ ν) : List κ := t.rows.map Prod.fst

def values (t : Table κ ν) : List ν := t.rows.map Prod.snd

def size (t : Table κ ν) : Nat := t.rows.length

/-- Writes a row. -/
def insert (t : Table κ ν) (key : κ) (v : ν) : Table κ ν where
  rows := setRow key v t.rows
  distinct := by
    rw [keys_setRow]
    split
    · exact t.distinct
    · next h =>
      refine List.nodup_append.2 ⟨t.distinct, by simp, ?_⟩
      intro a ha b hb e
      simp only [List.mem_singleton] at hb
      exact h (hb ▸ e ▸ ha)

/-- Removes a row. -/
def erase (t : Table κ ν) (key : κ) : Table κ ν where
  rows := t.rows.filter (·.1 ≠ key)
  distinct := t.distinct.sublist (List.filter_sublist.map Prod.fst)

@[simp] theorem get?_empty (key : κ) : (empty : Table κ ν).get? key = none := rfl

@[simp] theorem get?_insert (t : Table κ ν) (key k : κ) (v : ν) :
    (t.insert key v).get? k = if k = key then some v else t.get? k :=
  lookup_setRow key k v t.rows

theorem get?_erase (t : Table κ ν) (key k : κ) :
    (t.erase key).get? k = if k = key then none else t.get? k := by
  simp only [get?, erase]
  induction t.rows with
  | nil => simp
  | cons row rest ih =>
    obtain ⟨r, v⟩ := row
    by_cases gone : r = key
    · subst gone
      by_cases here : k = r
      · simpa [here] using ih
      · have other : (k == r) = false := by simpa using here
        simpa [List.lookup_cons, here, other] using ih
    · by_cases here : k = r
      · subst here
        simp [gone]
      · have other : (k == r) = false := by simpa using here
        simpa [List.lookup_cons, gone, other] using ih

theorem keys_insert (t : Table κ ν) (key : κ) (v : ν) :
    (t.insert key v).keys = if key ∈ t.keys then t.keys else t.keys ++ [key] :=
  keys_setRow key v t.rows

end Table

end CourierDispatch
