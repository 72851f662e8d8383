/-!
# Keyed lists

Members of objects, flag tables, defaults tables and generation maps are all small collections of values
under keys whose *order* is part of what they are: they are written in the order they were read. They are kept
as lists of pairs. A list in which no key repeats is *settled*; `Keyed.settle` makes any list so, each key
keeping its first position and taking its last value.
-/

namespace ConnectionJobs

/-- **A keyed list**: values under keys, in order. -/
abbrev Keyed (κ α : Type) := List (κ × α)

namespace Keyed

variable {κ α β : Type} [DecidableEq κ]

/-- **The value under a key**, the first one. -/
def find? (key : κ) : Keyed κ α → Option α
  | [] => none
  | (k, a) :: rest => if k = key then some a else find? key rest

/-- **Set the value of a key**: in place when the key is present, at the end otherwise. -/
def set (key : κ) (value : α) : Keyed κ α → Keyed κ α
  | [] => [(key, value)]
  | (k, a) :: rest => if k = key then (k, value) :: rest else (k, a) :: set key value rest

/-- **Settle repeated keys**: a key keeps its first position and takes its last value. -/
def settle (entries : Keyed κ α) : Keyed κ α :=
  entries.foldl (fun settled entry => set entry.1 entry.2 settled) []

/-- The keys, in order. -/
def keys (entries : Keyed κ α) : List κ := entries.map Prod.fst

@[simp] theorem find?_nil (key : κ) : find? key ([] : Keyed κ α) = none := rfl

@[simp] theorem set_nil (key : κ) (value : α) : set key value ([] : Keyed κ α) = [(key, value)] := rfl

/-- What was set under a key is found under it. -/
theorem find?_set_self (key : κ) (value : α) (entries : Keyed κ α) :
    find? key (set key value entries) = some value := by
  induction entries with
  | nil => simp [set, find?]
  | cons entry rest ih =>
    by_cases h : entry.1 = key <;> simp [set, find?, h, ih]

/-- Setting one key leaves the others alone. -/
theorem find?_set_of_ne {key other : κ} (h : other ≠ key) (value : α) (entries : Keyed κ α) :
    find? other (set key value entries) = find? other entries := by
  induction entries with
  | nil => simp [set, find?, Ne.symm h]
  | cons entry rest ih =>
    by_cases hk : entry.1 = key
    · have : entry.1 ≠ other := fun ho => h (ho ▸ hk)
      simp [set, find?, hk, Ne.symm h]
    · simp [set, find?, hk, ih]

end Keyed

end ConnectionJobs
