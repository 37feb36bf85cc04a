/-
# Entries in the order of their keys

A table of entries that remembers when each key came first. Putting a value
under a key that is already there keeps the key's place and replaces the
value; a new key goes to the end.
-/

namespace DesignExport

/-- Keys with their values, in the order in which the keys came. -/
abbrev Keyed (κ ν : Type) := List (κ × ν)

namespace Keyed

variable {κ ν : Type} [DecidableEq κ]

/-- Enter a value under a key. -/
def put (key : κ) (value : ν) : Keyed κ ν → Keyed κ ν
  | [] => [(key, value)]
  | entry :: rest =>
    if entry.1 = key then (entry.1, value) :: rest else entry :: put key value rest

/-- The value under a key. -/
def get? (key : κ) : Keyed κ ν → Option ν
  | [] => none
  | entry :: rest => if entry.1 = key then some entry.2 else get? key rest

/-- The table that results from entering the pairs one after the other. -/
def ofPairs (pairs : List (κ × ν)) : Keyed κ ν :=
  pairs.foldl (fun table pair => put pair.1 pair.2 table) []

theorem get?_put_self (key : κ) (value : ν) (table : Keyed κ ν) :
    get? key (put key value table) = some value := by
  induction table with
  | nil => simp [get?, put]
  | cons entry rest ih => by_cases same : entry.1 = key <;> simp [get?, put, same, ih]

theorem get?_put_of_ne {key other : κ} (differ : other ≠ key) (value : ν)
    (table : Keyed κ ν) : get? other (put key value table) = get? other table := by
  induction table with
  | nil => simp [get?, put, Ne.symm differ]
  | cons entry rest ih =>
      by_cases same : entry.1 = key <;> simp [get?, put, same, Ne.symm differ, ih]

/-- A key that is not there yet goes to the end. -/
theorem put_of_get?_eq_none {key : κ} {table : Keyed κ ν} (new : get? key table = none)
    (value : ν) : put key value table = table ++ [(key, value)] := by
  induction table with
  | nil => rfl
  | cons entry rest ih =>
      by_cases same : entry.1 = key
      · simp [get?, same] at new
      · simp only [get?, same, if_false] at new
        simp [put, same, ih new]

/-- Only the keys of a table have a value. -/
theorem get?_eq_none_iff {key : κ} {table : Keyed κ ν} :
    get? key table = none ↔ key ∉ table.map Prod.fst := by
  induction table with
  | nil => simp [get?]
  | cons entry rest ih =>
      by_cases same : entry.1 = key
      · simp [get?, same]
      · simp [get?, same, ih, Ne.symm same]

end Keyed

end DesignExport
