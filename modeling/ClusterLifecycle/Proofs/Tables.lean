import ClusterLifecycle.Proofs.MergePatch

/-!
# Tables in order

A table that is built from pairs is in the ascending order of its names, and building a table from
one that is in order changes nothing.

Main statements: `sorted_ofPairs` and `ofPairs_eq_self`.
-/

namespace ClusterLifecycle.Table

variable {α β : Type} {table : Table α}

/-! ## Names that occur once -/

instance (table : Table α) : Decidable table.Distinct :=
  inferInstanceAs (Decidable (List.Nodup _))

/-- An entry of a table whose names are distinct is the only one with its name. -/
theorem named_eq_singleton {entry : String × α} (distinct : table.Distinct) (h : entry ∈ table) :
    table.named entry.1 = [entry] := by
  induction table with
  | nil => exact absurd h (by simp)
  | cons head rest ih =>
      obtain ⟨habsent, hrest⟩ := distinct_cons.1 distinct
      rw [get?_eq_none_iff] at habsent
      rw [named_cons]
      rcases List.mem_cons.1 h with rfl | hmem
      · have hnone : named entry.1 rest = [] := by
          rw [named, List.filter_eq_nil_iff]
          intro other hother
          have hne : other.1 ≠ entry.1 := fun heq => habsent (List.mem_map.2 ⟨other, hother, heq⟩)
          simpa using hne
        rw [if_pos rfl, hnone]
      · have hne : head.1 ≠ entry.1 := fun heq => habsent (List.mem_map.2 ⟨entry, hmem, heq.symm⟩)
        rw [if_neg hne, ih hrest hmem]

/-- With distinct names, what is found under a name is all there is. -/
theorem named_eq_of_distinct (distinct : table.Distinct) (name : String) :
    table.named name = (table.get? name).toList.map (name, ·) := by
  cases hget : table.get? name with
  | none =>
      rw [get?_eq_none_iff] at hget
      show table.named name = []
      rw [named, List.filter_eq_nil_iff]
      intro entry hentry
      have hne : entry.1 ≠ name := fun heq => hget (List.mem_map.2 ⟨entry, hentry, heq⟩)
      simpa using hne
  | some value => exact named_eq_singleton distinct ((get?_eq_some_iff distinct).1 hget)

/-! ## Order -/

/-- The names are in ascending order. -/
def Sorted (table : Table α) : Prop :=
  (table.map (·.1)).Pairwise (· < ·)

theorem sorted_nil : Sorted ([] : Table α) :=
  List.Pairwise.nil

theorem sorted_ofPairs (pairs : List (String × α)) : (ofPairs pairs).Sorted := by
  have hsorted (table : Table α) (h : table.Sorted) :
      (pairs.foldl (fun table pair => insert pair.1 pair.2 table) table).Sorted := by
    induction pairs generalizing table with
    | nil => exact h
    | cons pair rest ih => exact ih _ (names_insert pair.1 pair.2 table h).1
  exact hsorted [] sorted_nil

theorem sorted_map (f : String × α → β) :
    Sorted (table.map fun entry => (entry.1, f entry)) ↔ table.Sorted := by
  simp [Sorted, Function.comp_def]

/-- A name behind all others comes last. -/
theorem insert_eq_append {key : String} {value : α} (h : ∀ entry ∈ table, entry.1 < key) :
    insert key value table = table ++ [(key, value)] := by
  induction table with
  | nil => rfl
  | cons head rest ih =>
      have hhead : head.1 < key := h head List.mem_cons_self
      rw [insert, if_neg (ne_of_gt hhead), if_neg (not_lt_of_gt hhead),
        ih fun entry hentry => h entry (List.mem_cons_of_mem _ hentry)]
      rfl

theorem foldl_insert_eq_append {before pairs : Table α} (h : Sorted (before ++ pairs)) :
    pairs.foldl (fun table pair => insert pair.1 pair.2 table) before = before ++ pairs := by
  -- the entries that are still to be added are behind those that are there
  induction pairs generalizing before with
  | nil => rw [List.append_nil]; rfl
  | cons pair rest ih =>
      have hlast : ∀ entry ∈ before, entry.1 < pair.1 := by
        rw [Sorted, List.map_append, List.pairwise_append] at h
        intro entry hentry
        exact h.2.2 _ (List.mem_map_of_mem hentry) _ (by simp)
      rw [List.append_cons before pair rest] at h ⊢
      rw [List.foldl_cons, insert_eq_append hlast]
      exact ih h

/-- A table that is in order is built from its own entries. -/
theorem ofPairs_eq_self (h : table.Sorted) : ofPairs table = table :=
  foldl_insert_eq_append (show Sorted ([] ++ table) from h)

end ClusterLifecycle.Table
