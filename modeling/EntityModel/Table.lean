/-!
# Tables in order of first insertion

Some tables are shown, so the order of their entries counts: a new key goes to the end, and a key that is
present keeps its place and takes the new value. `put` is the one operation that does this, and
`List.lookup` reads a table.
-/

namespace EntityModel

/-- Entries with a key, in the order in which their keys were first set. -/
abbrev Table (κ ν : Type) := List (κ × ν)

namespace Table

variable {κ ν : Type} [DecidableEq κ]

/-- Sets the value of a key: in place if the key is present, at the end otherwise. -/
def put (key : κ) (value : ν) : Table κ ν → Table κ ν
  | [] => [(key, value)]
  | (k, v) :: rest => if k = key then (k, value) :: rest else (k, v) :: put key value rest

/-- The keys, in order. -/
def keys (t : Table κ ν) : List κ := t.map (·.1)

/-- A table of the given entries, a later one for the same key replacing the value of an earlier one. -/
def ofList (entries : List (κ × ν)) : Table κ ν := entries.foldl (fun t e => put e.1 e.2 t) []

/-- Setting a key makes the value the one that is found. -/
theorem lookup_put_self (key : κ) (value : ν) (t : Table κ ν) :
    (put key value t).lookup key = some value := by
  induction t with
  | nil => simp [put]
  | cons e rest ih =>
      obtain ⟨k, v⟩ := e
      by_cases h : k = key
      · simp [put, h]
      · have h' : (key == k) = false := by simpa using fun e => h e.symm
        simp [put, h, List.lookup_cons, h', ih]

/-- Setting a key changes no other. -/
theorem lookup_put_of_ne {key other : κ} (h : other ≠ key) (value : ν) (t : Table κ ν) :
    (put key value t).lookup other = t.lookup other := by
  induction t with
  | nil =>
      have h' : (other == key) = false := by simpa using h
      simp [put, List.lookup_cons, h']
  | cons e rest ih =>
      obtain ⟨k, v⟩ := e
      by_cases hk : k = key
      · have h' : (other == key) = false := by simpa using h
        simp [put, hk, List.lookup_cons, h']
      · simp only [put, hk, if_false, List.lookup_cons, ih]

/-- The keys after setting one: unchanged if it was there, one more at the end otherwise. -/
theorem keys_put (key : κ) (value : ν) (t : Table κ ν) :
    (put key value t).keys = if key ∈ t.keys then t.keys else t.keys ++ [key] := by
  induction t with
  | nil => simp [put, keys]
  | cons e rest ih =>
      obtain ⟨k, v⟩ := e
      by_cases h : k = key
      · simp [put, keys, h]
      · have h' : key ≠ k := fun e => h e.symm
        simp only [put, h, if_false, keys, List.map_cons, List.mem_cons, h', false_or] at ih ⊢
        rw [ih]
        by_cases hm : key ∈ rest.map (·.1) <;> simp [hm]

end Table

end EntityModel
