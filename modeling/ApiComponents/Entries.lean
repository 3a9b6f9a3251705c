/-! # Entries in insertion order

A map from text to values that remembers where each key was first put.
Writing to a key that is already there replaces its value and keeps its place.
-/

namespace ApiComponents

/-- Keyed values in the order in which their keys were first inserted. -/
abbrev Entries (α : Type u) := List (String × α)

namespace Entries

variable {α : Type u}

def keys (entries : Entries α) : List String :=
  entries.map Prod.fst

def lookup (key : String) : Entries α → Option α
  | [] => none
  | (other, value) :: rest => if key = other then some value else lookup key rest

/-- Write a value under a key: in place when the key is known, else at the end. -/
def insert (key : String) (value : α) : Entries α → Entries α
  | [] => [(key, value)]
  | (other, previous) :: rest =>
      if key = other then (key, value) :: rest
      else (other, previous) :: insert key value rest

def ofPairs (pairs : List (String × α)) : Entries α :=
  pairs.foldl (fun entries pair => entries.insert pair.1 pair.2) []

def Distinct (entries : Entries α) : Prop :=
  entries.keys.Nodup

instance (entries : Entries α) : Decidable entries.Distinct :=
  inferInstanceAs (Decidable entries.keys.Nodup)

@[simp] theorem keys_nil : keys ([] : Entries α) = [] := rfl

@[simp] theorem keys_cons (pair : String × α) (rest : Entries α) :
    keys (pair :: rest) = pair.1 :: keys rest := rfl

/-- An insertion adds its key at the end unless the key is there already. -/
theorem keys_insert (key : String) (value : α) (entries : Entries α) :
    (entries.insert key value).keys =
      if key ∈ entries.keys then entries.keys else entries.keys ++ [key] := by
  induction entries with
  | nil => simp [insert]
  | cons pair rest ih =>
      obtain ⟨other, previous⟩ := pair
      by_cases same : key = other
      · simp [insert, same]
      · have step : (insert key value ((other, previous) :: rest)).keys =
            other :: (insert key value rest).keys := by simp [insert, same]
        rw [step, ih]
        by_cases known : key ∈ keys rest <;> simp [known, same]

theorem lookup_insert (key other : String) (value : α) (entries : Entries α) :
    (entries.insert key value).lookup other =
      if other = key then some value else entries.lookup other := by
  induction entries with
  | nil => simp [insert, lookup]
  | cons pair rest ih =>
      obtain ⟨known, previous⟩ := pair
      by_cases same : key = known
      · subst same
        by_cases hit : other = key <;> simp [insert, lookup, hit]
      · by_cases hit : other = known
        · have apart : ¬ known = key := fun h => same h.symm
          simp [insert, lookup, same, hit, apart]
        · simp [insert, lookup, same, hit, ih]

end Entries

end ApiComponents
