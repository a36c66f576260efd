import ClusterLifecycle.Resource.Metadata

/-!
# Members of objects

What can be read back from an object that was built from a list of its members. Of two members with
one name the later one counts, so the lemmas take the first member off and let the others go before.

Main statements: `Json.get?_ofPresent_cons` and `Metadata.get?_resourceVersion`.
-/

namespace ClusterLifecycle

variable {α : Type}

/-! ## Tables -/

theorem Table.get?_eq_none_iff {name : String} {table : Table α} :
    Table.get? name table = none ↔ name ∉ table.map (·.1) := by
  induction table with
  | nil => simp
  | cons head rest ih =>
      rw [Table.get?]
      by_cases h : name = head.1 <;> simp [h, ih]

/-- Under a name that occurs once stands what is found there. -/
theorem Table.get?_eq_some_iff {name : String} {table : Table α} {value : α}
    (h : (table.map (·.1)).Nodup) :
    Table.get? name table = some value ↔ (name, value) ∈ table := by
  induction table with
  | nil => simp [Table.get?]
  | cons entry table ih =>
      obtain ⟨key, other⟩ := entry
      obtain ⟨hkey, hrest⟩ := List.nodup_cons.1 h
      by_cases hname : name = key
      · subst hname
        have hnot : (name, value) ∉ table := fun hmem =>
          hkey (List.mem_map_of_mem (f := (·.1)) hmem)
        simp [Table.get?, hnot, eq_comm]
      · simp [Table.get?, hname, ih hrest]

theorem Table.eq_of_mem {name : String} {table : Table α} {value other : α}
    (h : (table.map (·.1)).Nodup)
    (hvalue : (name, value) ∈ table) (hother : (name, other) ∈ table) : value = other := by
  rw [← Table.get?_eq_some_iff h] at hvalue hother
  exact Option.some.inj (hvalue.symm.trans hother)

theorem Table.get?_insert (key name : String) (value : α) (table : Table α) :
    Table.get? key (Table.insert name value table) =
      if key = name then some value else Table.get? key table := by
  by_cases h : key = name
  · rw [if_pos h, h, Table.get?_insert_self]
  · rw [if_neg h, Table.get?_insert_of_ne value table h]

/-- Pairs that are added to a table go before what it has. -/
theorem Table.get?_foldl_insert (key : String) (pairs : List (String × α)) (table : Table α) :
    Table.get? key (pairs.foldl (fun table pair => Table.insert pair.1 pair.2 table) table) =
      (Table.get? key (Table.ofPairs pairs)).or (Table.get? key table) := by
  induction pairs generalizing table with
  | nil => rfl
  | cons pair rest ih =>
      rw [Table.ofPairs, List.foldl_cons, List.foldl_cons, ih, ih (Table.insert _ _ []),
        Table.get?_insert, Table.get?_insert, Option.or_assoc]
      by_cases h : key = pair.1 <;> simp [h]

theorem Table.get?_ofPairs_cons (key : String) (pair : String × α) (rest : List (String × α)) :
    Table.get? key (Table.ofPairs (pair :: rest)) =
      (Table.get? key (Table.ofPairs rest)).or (if key = pair.1 then some pair.2 else none) := by
  rw [Table.ofPairs, List.foldl_cons, Table.get?_foldl_insert, Table.get?_insert, Table.get?_nil]

/-! ## Objects -/

@[simp] theorem Json.get?_ofPairs_nil (key : String) : (Json.ofPairs []).get? key = none := rfl

@[simp] theorem Json.get?_ofPairs_cons (key : String) (pair : String × Json)
    (rest : List (String × Json)) :
    (Json.ofPairs (pair :: rest)).get? key =
      ((Json.ofPairs rest).get? key).or (if key = pair.1 then some pair.2 else none) :=
  Table.get?_ofPairs_cons key pair rest

@[simp] theorem Json.get?_ofPresent_nil (key : String) : (Json.ofPresent []).get? key = none := rfl

@[simp] theorem Json.get?_ofPresent_cons (key : String) (part : String × Option Json)
    (rest : List (String × Option Json)) :
    (Json.ofPresent (part :: rest)).get? key =
      ((Json.ofPresent rest).get? key).or (if key = part.1 then part.2 else none) := by
  obtain ⟨name, value⟩ := part
  cases value with
  | none => simp [Json.ofPresent]
  | some value => simp [Json.ofPresent]

/-! ## Resources -/

theorem Json.get?_metadata (groupVersion kind : String) (m : Metadata)
    (parts : List (String × Option Json)) (h : (Json.ofPresent parts).get? "metadata" = none) :
    (Json.resource groupVersion kind m parts).get? "metadata" = some m.toJson := by
  simp [Json.resource, h]

theorem Metadata.get?_resourceVersion (m : Metadata) :
    m.toJson.get? "resourceVersion" = m.resourceVersion.map .str := by
  simp [Metadata.toJson]

end ClusterLifecycle
