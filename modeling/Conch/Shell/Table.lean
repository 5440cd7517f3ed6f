/-! Tables keyed by name, their entries sorted by key, each key once. -/
namespace Conch

/-- Entries keyed by name, in increasing order of their keys. -/
structure Table (α : Type) where
  entries : List (String × α) := []
  deriving Repr

namespace Table

variable {α : Type}

def empty : Table α := {}

def insertEntry (k : String) (v : α) : List (String × α) → List (String × α)
  | [] => [(k, v)]
  | (k', v') :: es =>
    if k < k' then (k, v) :: (k', v') :: es
    else if k = k' then (k, v) :: es
    else (k', v') :: insertEntry k v es

def get? (t : Table α) (k : String) : Option α := t.entries.lookup k

def contains (t : Table α) (k : String) : Bool := (t.get? k).isSome

def insert (t : Table α) (k : String) (v : α) : Table α := ⟨insertEntry k v t.entries⟩

def erase (t : Table α) (k : String) : Table α := ⟨t.entries.filter (·.1 ≠ k)⟩

def keys (t : Table α) : List String := t.entries.map (·.1)

theorem lookup_cons_eq (k j : String) (v : α) (es : List (String × α)) :
    ((k, v) :: es).lookup j = if j = k then some v else es.lookup j := by
  rw [List.lookup_cons]
  by_cases h : j = k
  · simp [h]
  · have hb : (j == k) = false := beq_false_of_ne h
    simp [hb, h]

theorem lookup_insertEntry (k j : String) (v : α) (es : List (String × α)) :
    (insertEntry k v es).lookup j = if j = k then some v else es.lookup j := by
  induction es with
  | nil => simp [insertEntry, lookup_cons_eq]
  | cons e es ih =>
    obtain ⟨k', v'⟩ := e
    unfold insertEntry
    by_cases h1 : k < k'
    · simp only [h1, if_true, lookup_cons_eq]
    · by_cases h2 : k = k'
      · subst h2
        simp only [h1, if_true, if_false, lookup_cons_eq]
        by_cases h : j = k <;> simp [h]
      · simp only [h1, h2, if_false, lookup_cons_eq, ih]
        by_cases h : j = k
        · subst h; simp [h2]
        · simp [h]

@[simp] theorem get?_insert (t : Table α) (k j : String) (v : α) :
    (t.insert k v).get? j = if j = k then some v else t.get? j :=
  lookup_insertEntry k j v t.entries

@[simp] theorem get?_empty (k : String) : (empty : Table α).get? k = none := rfl

theorem lookup_filter_ne (k j : String) (es : List (String × α)) :
    (es.filter (·.1 ≠ k)).lookup j = if j = k then none else es.lookup j := by
  induction es with
  | nil => simp
  | cons e es ih =>
    obtain ⟨k', v'⟩ := e
    by_cases h : k' = k
    · subst h
      simp only [ne_eq, not_true_eq_false, decide_false, Bool.false_eq_true, not_false_eq_true,
        List.filter_cons_of_neg, ih, lookup_cons_eq]
      by_cases hj : j = k' <;> simp [hj]
    · simp only [ne_eq, h, not_false_eq_true, decide_true, List.filter_cons_of_pos,
        lookup_cons_eq, ih]
      by_cases hj : j = k
      · subst hj; simp [Ne.symm h]
      · simp [hj]

@[simp] theorem get?_erase (t : Table α) (k j : String) :
    (t.erase k).get? j = if j = k then none else t.get? j :=
  lookup_filter_ne k j t.entries

end Table

end Conch
