/-!
# Tables

A finite map as a list of pairs in which no key stands twice. A new key goes to the end, a known one
keeps its place.
-/

namespace ActionDispatch

/-- A finite map from `κ` to `α`. -/
structure Table (κ α : Type) where
  entries : List (κ × α)
  nodup : (entries.map Prod.fst).Nodup

namespace Table

variable {κ α : Type} [DecidableEq κ]

/-- The pairs with `k` bound to `a`. -/
def put (k : κ) (a : α) : List (κ × α) → List (κ × α)
  | [] => [(k, a)]
  | (k', a') :: rest => if k' = k then (k, a) :: rest else (k', a') :: put k a rest

theorem mem_keys_put {k j : κ} {a : α} {entries : List (κ × α)} :
    j ∈ (put k a entries).map Prod.fst ↔ j = k ∨ j ∈ entries.map Prod.fst := by
  induction entries with
  | nil => simp [put]
  | cons e rest ih =>
    by_cases h : e.1 = k
    · simp [put, h]
    · simp only [put, h, if_false, List.map_cons, List.mem_cons, ih]
      grind

theorem nodup_put {k : κ} {a : α} {entries : List (κ × α)}
    (h : (entries.map Prod.fst).Nodup) : ((put k a entries).map Prod.fst).Nodup := by
  induction entries with
  | nil => simp [put]
  | cons e rest ih =>
    simp only [List.map_cons, List.nodup_cons] at h
    by_cases he : e.1 = k
    · simp only [put, he, if_true, List.map_cons, List.nodup_cons]
      exact ⟨he ▸ h.1, h.2⟩
    · simp only [put, if_neg he, List.map_cons, List.nodup_cons, mem_keys_put, not_or]
      exact ⟨⟨he, h.1⟩, ih h.2⟩

/-- The table without keys. -/
def empty : Table κ α := ⟨[], by simp⟩

def insert (t : Table κ α) (k : κ) (a : α) : Table κ α :=
  ⟨put k a t.entries, nodup_put t.nodup⟩

def erase (t : Table κ α) (k : κ) : Table κ α :=
  ⟨t.entries.filter (·.1 ≠ k), by
    have h := t.nodup.filter (· ≠ k)
    rwa [List.filter_map] at h⟩

def find? (t : Table κ α) (k : κ) : Option α :=
  (t.entries.find? (·.1 = k)).map Prod.snd

def contains (t : Table κ α) (k : κ) : Bool := (t.find? k).isSome

def size (t : Table κ α) : Nat := t.entries.length

def isEmpty (t : Table κ α) : Bool := t.entries.isEmpty

@[simp] theorem find?_empty (k : κ) : (empty : Table κ α).find? k = none := rfl

theorem find?_insert (t : Table κ α) (k j : κ) (a : α) :
    (t.insert k a).find? j = if j = k then some a else t.find? j := by
  simp only [find?, insert]
  induction t.entries with
  | nil => by_cases h : k = j <;> simp [put, h, eq_comm]
  | cons e rest ih =>
    by_cases he : e.1 = k
    · by_cases hj : k = j
      · simp [put, he, hj]
      · simp [put, he, hj, eq_comm]
    · simp only [put, he, if_false, List.find?_cons]
      by_cases hj : e.1 = j
      · have : j ≠ k := fun h => he (hj.trans h)
        simp [hj, this]
      · simpa [hj] using ih

theorem find?_erase (t : Table κ α) (k j : κ) :
    (t.erase k).find? j = if j = k then none else t.find? j := by
  simp only [find?, erase]
  induction t.entries with
  | nil => simp
  | cons e rest ih =>
    by_cases he : e.1 = k
    · by_cases hj : j = k
      · simp [hj]
      · simpa [he, hj, List.find?_cons, Ne.symm hj] using ih
    · by_cases hj : e.1 = j
      · have : j ≠ k := fun h => he (hj.trans h)
        simp [hj, this]
      · simpa [he, hj, List.find?_cons] using ih

end Table

end ActionDispatch
