/-!
# Tables keyed by name

A table is a finite map from names to values, held as a list of pairs in ascending order of the
names (by code point). Every table is built by `Table.insert`, which replaces the value of a name
that is already present, so two tables with the same contents are the same list.

Main statements: `Table.get?_insert_self` and `Table.get?_insert_of_ne` describe a look-up after an
insertion.
-/

namespace ClusterLifecycle

/-- A finite map from names to values, in ascending order of the names. -/
abbrev Table (α : Type) := List (String × α)

namespace Table

variable {α : Type}

/-- Gives `key` the value `value`, whatever it had before. -/
def insert (key : String) (value : α) : Table α → Table α
  | [] => [(key, value)]
  | (k, v) :: rest =>
    if key = k then (key, value) :: rest
    else if key < k then (key, value) :: (k, v) :: rest
    else (k, v) :: insert key value rest

/-- The table of a list of pairs; of two pairs with one name the later one counts. -/
def ofPairs (pairs : List (String × α)) : Table α :=
  pairs.foldl (fun table pair => insert pair.1 pair.2 table) []

/-- The value of a name, if the table has it. -/
def get? (key : String) : Table α → Option α
  | [] => none
  | (k, v) :: rest => if key = k then some v else get? key rest

@[simp] theorem get?_nil (key : String) : get? key ([] : Table α) = none := rfl

theorem get?_insert_self (key : String) (value : α) (table : Table α) :
    get? key (insert key value table) = some value := by
  induction table with
  | nil => simp [insert, get?]
  | cons head rest ih =>
    obtain ⟨k, v⟩ := head
    by_cases h : key = k
    · simp [insert, get?, h]
    · by_cases hl : key < k <;> simp [insert, get?, h, hl, ih]

theorem get?_insert_of_ne {key other : String} (value : α) (table : Table α) (h : other ≠ key) :
    get? other (insert key value table) = get? other table := by
  induction table with
  | nil => simp [insert, get?, h]
  | cons head rest ih =>
    obtain ⟨k, v⟩ := head
    by_cases hk : key = k
    · subst hk
      simp [insert, get?, h]
    · by_cases hl : key < k
      · simp [insert, get?, hk, hl, h]
      · simp [insert, get?, hk, hl, ih]

end Table

end ClusterLifecycle
