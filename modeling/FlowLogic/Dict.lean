/-!
Dictionaries with text keys, as lists of entries.  Entries are kept in the order of their keys, code
point by code point, so listing a dictionary needs no sorting.
-/

namespace FlowLogic

abbrev Dict (α : Type) := List (String × α)

namespace Dict

variable {α β : Type}

def value? (d : Dict α) (key : String) : Option α :=
  match d with
  | [] => none
  | (k, v) :: rest => if k = key then some v else value? rest key

def hasKey (d : Dict α) (key : String) : Bool := (d.value? key).isSome

/-- Replaces the value of the key, or adds an entry before the first greater key. -/
def put (d : Dict α) (key : String) (value : α) : Dict α :=
  match d with
  | [] => [(key, value)]
  | (k, v) :: rest =>
    if k = key then (key, value) :: rest
    else if key < k then (key, value) :: (k, v) :: rest
    else (k, v) :: put rest key value

def ofEntries (entries : List (String × α)) : Dict α :=
  entries.foldl (fun d entry => d.put entry.1 entry.2) []

def keys (d : Dict α) : List String := d.map Prod.fst

def values (d : Dict α) : List α := d.map Prod.snd

@[simp] theorem value?_nil (key : String) : value? ([] : Dict α) key = none := rfl

theorem value?_cons (k : String) (v : α) (rest : Dict α) (key : String) :
    value? ((k, v) :: rest) key = if k = key then some v else value? rest key := rfl

theorem value?_append (d other : Dict α) (key : String) :
    value? (d ++ other) key = (d.value? key).or (other.value? key) := by
  induction d with
  | nil => rfl
  | cons entry rest ih =>
      obtain ⟨k, v⟩ := entry
      rw [List.cons_append, value?_cons, value?_cons, ih]
      split <;> rfl

theorem isSome_value? {d : Dict α} {key : String} : (d.value? key).isSome ↔ key ∈ d.keys := by
  induction d with
  | nil => simp [keys]
  | cons entry rest ih =>
      obtain ⟨k, v⟩ := entry
      rw [value?_cons, keys, List.map_cons, List.mem_cons]
      split
      next same => simp [same]
      next other =>
        rw [or_iff_right (Ne.symm other)]
        exact ih

theorem mem_of_value? {d : Dict α} {key : String} {value : α} (found : d.value? key = some value) :
    (key, value) ∈ d := by
  induction d with
  | nil => cases found
  | cons entry rest ih =>
      obtain ⟨k, v⟩ := entry
      rw [value?_cons] at found
      split at found
      next same =>
        subst same
        cases found
        exact List.mem_cons_self
      next => exact List.mem_cons_of_mem _ (ih found)

@[simp] theorem value?_put (d : Dict α) (key : String) (value : α) (other : String) :
    (d.put key value).value? other = if key = other then some value else d.value? other := by
  induction d with
  | nil => rfl
  | cons entry rest ih =>
      obtain ⟨k, v⟩ := entry
      unfold put
      split
      · subst k
        simp only [value?_cons]
        split <;> rfl
      · split
        · rfl
        · simp only [value?_cons, ih]
          split <;> split <;> simp_all

theorem length_put_of_value?_eq_none {d : Dict α} {key : String} (h : d.value? key = none)
    (value : α) : (d.put key value).length = d.length + 1 := by
  induction d with
  | nil => rfl
  | cons entry rest ih =>
      obtain ⟨k, v⟩ := entry
      simp only [value?_cons] at h
      unfold put
      split
      · simp_all
      · split
        · rfl
        · simp_all

end Dict

end FlowLogic
