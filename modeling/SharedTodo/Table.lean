/-!
# Tables

A finite map from keys to values that remembers the order in which keys came in. A new value for a known
key takes the old one's place.

A table is known by its lookups: `find?_insert`, `find?_erase` and `find?_assign` say what each change
does to them.
-/

namespace SharedTodo

structure Table (κ ν : Type) where
  entries : List (κ × ν)
  nodup : (entries.map Prod.fst).Nodup

namespace Table

variable {κ ν : Type} [DecidableEq κ]

def empty : Table κ ν :=
  ⟨[], List.nodup_nil⟩

def size (t : Table κ ν) : Nat :=
  t.entries.length

def find? (t : Table κ ν) (key : κ) : Option ν :=
  t.entries.lookup key

def contains (t : Table κ ν) (key : κ) : Bool :=
  (t.find? key).isSome

/-- Entries with a new value for a key, which comes last if it is new. -/
def put (key : κ) (value : ν) : List (κ × ν) → List (κ × ν)
  | [] => [(key, value)]
  | (k, v) :: rest => if k = key then (key, value) :: rest else (k, v) :: put key value rest

theorem mem_keys_put {key k : κ} {value : ν} {entries : List (κ × ν)} :
    k ∈ (put key value entries).map Prod.fst ↔ k = key ∨ k ∈ entries.map Prod.fst := by
  induction entries with
  | nil => simp [put]
  | cons e rest ih =>
    obtain ⟨k', v⟩ := e
    by_cases h : k' = key
    · subst h
      simp [put]
    · simp only [put, h, if_false, List.map_cons, List.mem_cons, ih]
      constructor
      · rintro (h | h | h) <;> simp [h]
      · rintro (h | h | h) <;> simp [h]

theorem nodup_put {key : κ} {value : ν} {entries : List (κ × ν)}
    (h : (entries.map Prod.fst).Nodup) : ((put key value entries).map Prod.fst).Nodup := by
  induction entries with
  | nil => simp [put]
  | cons e rest ih =>
    obtain ⟨k', v⟩ := e
    have h' := List.nodup_cons.1 h
    by_cases hk : k' = key
    · subst hk
      simpa [put] using h
    · simp only [put, hk, if_false, List.map_cons]
      refine List.nodup_cons.2 ⟨fun hmem => ?_, ih h'.2⟩
      exact (mem_keys_put.1 hmem).elim hk h'.1

def insert (t : Table κ ν) (key : κ) (value : ν) : Table κ ν :=
  ⟨put key value t.entries, nodup_put t.nodup⟩

def erase (t : Table κ ν) (key : κ) : Table κ ν :=
  ⟨t.entries.filter fun e => e.1 ≠ key, t.nodup.sublist (List.filter_sublist.map _)⟩

/-- Writes a value, or takes the key out when there is none. -/
def assign (t : Table κ ν) (key : κ) : Option ν → Table κ ν
  | some value => t.insert key value
  | none => t.erase key

/-! ## Lookups -/

theorem find?_empty (key : κ) : (empty : Table κ ν).find? key = none := rfl

theorem lookup_cons_ite (k key : κ) (value : ν) (rest : List (κ × ν)) :
    ((key, value) :: rest).lookup k = if k = key then some value else rest.lookup k := by
  by_cases h : k = key
  · simp [h]
  · have hne : (k == key) = false := by simpa using h
    simp [List.lookup_cons, hne, h]

theorem lookup_put (key k : κ) (value : ν) (entries : List (κ × ν)) :
    (put key value entries).lookup k = if k = key then some value else entries.lookup k := by
  induction entries with
  | nil => rw [put, lookup_cons_ite]
  | cons e rest ih =>
    obtain ⟨k', v⟩ := e
    by_cases hk : k' = key
    · subst hk
      rw [put, if_pos rfl, lookup_cons_ite, lookup_cons_ite]
      split <;> rfl
    · rw [put, if_neg hk, lookup_cons_ite, lookup_cons_ite, ih]
      by_cases h : k = k'
      · simp [h, hk]
      · simp [h]

theorem find?_insert (t : Table κ ν) (key k : κ) (value : ν) :
    (t.insert key value).find? k = if k = key then some value else t.find? k :=
  lookup_put key k value t.entries

theorem lookup_filter_ne (key k : κ) (entries : List (κ × ν)) :
    (entries.filter fun e => e.1 ≠ key).lookup k = if k = key then none else entries.lookup k := by
  induction entries with
  | nil => simp
  | cons e rest ih =>
    obtain ⟨k', v⟩ := e
    rw [lookup_cons_ite]
    by_cases hk : k' = key
    · subst hk
      rw [List.filter_cons_of_neg (by simp), ih]
      by_cases h : k = k' <;> simp [h]
    · rw [List.filter_cons_of_pos (by simpa using hk), lookup_cons_ite, ih]
      by_cases h : k = k'
      · simp [h, hk]
      · simp [h]

theorem find?_erase (t : Table κ ν) (key k : κ) :
    (t.erase key).find? k = if k = key then none else t.find? k :=
  lookup_filter_ne key k t.entries

theorem find?_assign (t : Table κ ν) (key k : κ) (value : Option ν) :
    (t.assign key value).find? k = if k = key then value else t.find? k := by
  cases value with
  | none => exact t.find?_erase key k
  | some value => exact t.find?_insert key k value

end Table

end SharedTodo
