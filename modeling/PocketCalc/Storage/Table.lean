/-! # Tables

A table maps names to values and remembers in which order names came. It is the view of both kinds
of storage: memory maps keys to texts, and a folder maps file names to what they hold.

* **`Table.get?_put_self`, `Table.get?_put_of_ne`** — a put is seen under its own name only.
* **`Table.get?_remove_self`, `Table.get?_remove_of_ne`** — so is a removal. -/

namespace PocketCalc

/-- **A table from names to values.** -/
abbrev Table (Value : Type) := List (List Char × Value)

namespace Table

variable {Value : Type}

/-- The value under a name. -/
def get? (table : Table Value) (name : List Char) : Option Value :=
  match table with
  | [] => none
  | (known, value) :: rest => if known = name then some value else get? rest name

/-- Put a value under a name, in the place of the one there. -/
def put (table : Table Value) (name : List Char) (value : Value) : Table Value :=
  match table with
  | [] => [(name, value)]
  | (known, old) :: rest =>
    if known = name then (name, value) :: rest else (known, old) :: put rest name value

/-- Remove a name. -/
def remove (table : Table Value) (name : List Char) : Table Value :=
  table.filter (fun row => row.1 != name)

/-- A put is seen under its name. -/
@[simp] theorem get?_put_self (table : Table Value) (name : List Char) (value : Value) :
    (table.put name value).get? name = some value := by
  induction table with
  | nil => simp [put, get?]
  | cons row rest ih => by_cases same : row.1 = name <;> simp_all [put, get?]

/-- A put is not seen under another name. -/
theorem get?_put_of_ne (table : Table Value) {name other : List Char} (value : Value)
    (different : other ≠ name) : (table.put name value).get? other = table.get? other := by
  induction table with
  | nil => simp [put, get?, Ne.symm different]
  | cons row rest ih =>
    by_cases same : row.1 = name
    · have apart : row.1 ≠ other := fun h => different (h.symm.trans same)
      simp [put, get?, same, Ne.symm different]
    · simp [put, get?, same, ih]

/-- A removed name is gone. -/
@[simp] theorem get?_remove_self (table : Table Value) (name : List Char) :
    (table.remove name).get? name = none := by
  induction table with
  | nil => rfl
  | cons row rest ih =>
    by_cases same : row.1 = name
    · simp_all [remove]
    · simp_all [remove, get?]

/-- A removal is not seen under another name. -/
theorem get?_remove_of_ne (table : Table Value) {name other : List Char}
    (different : other ≠ name) : (table.remove name).get? other = table.get? other := by
  induction table with
  | nil => rfl
  | cons row rest ih =>
    by_cases same : row.1 = name
    · have apart : row.1 ≠ other := fun h => different (h.symm.trans same)
      simp_all [remove, get?]
    · by_cases found : row.1 = other <;> simp_all [remove, get?]

end Table

end PocketCalc
