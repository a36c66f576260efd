import ClusterLifecycle.Proofs.Members
import Mathlib.Data.String.Basic

/-!
# Merge patches

How the API server applies a merge patch to what it stores. A patch that is an object is merged into
an object, name by name, and null takes a name away; any other patch, arrays included, replaces what
is there.

Main statements: `Json.named_mergeMembers_of_null` and its two partners say what becomes of the
members with a given name, and `Json.mergeInto_mergeInto` that a patch applied twice does what it
does once.
-/

namespace ClusterLifecycle

namespace Table

variable {α : Type} {key name : String} {value w : α} {table : Table α}

/-! ## Changing a table -/

/-- The entries with a given name; a table has at most one. -/
def named (name : String) (table : Table α) : Table α :=
  table.filter (·.1 == name)

/-- Takes a name away. -/
def erase (key : String) (table : Table α) : Table α :=
  table.filter (·.1 != key)

/-- Gives a name that is there a value, in its place. -/
def replace (key : String) (value : α) (table : Table α) : Table α :=
  table.map fun entry => if entry.1 = key then (key, value) else entry

/-- Gives a name a value, in its place if it is there. -/
def put (key : String) (value : α) (table : Table α) : Table α :=
  if (named key table).isEmpty then insert key value table else replace key value table

/-- The name is there and has no other value. -/
def Holds (key : String) (value : α) (table : Table α) : Prop :=
  ∃ n, named key table = List.replicate (n + 1) (key, value)

theorem named_cons (name : String) (entry : String × α) (rest : Table α) :
    named name (entry :: rest) = if entry.1 = name then entry :: named name rest
      else named name rest := by
  simp [named, List.filter_cons]

theorem get?_eq_head?_named : get? name table = (named name table).head?.map (·.2) := by
  induction table with
  | nil => rfl
  | cons head rest ih =>
      rw [named_cons, get?, ih]
      by_cases h : name = head.1
      · simp [h]
      · simp [h, Ne.symm h]

theorem get?_eq_of_named {other : Table α} (h : named name table = named name other) :
    get? name table = get? name other := by
  rw [get?_eq_head?_named, get?_eq_head?_named, h]

theorem Holds.get?_eq (h : Holds key value table) : get? key table = some value := by
  obtain ⟨n, hn⟩ := h
  rw [get?_eq_head?_named, hn]
  rfl

theorem Holds.congr {other : Table α} (h : Holds key value table)
    (hsame : named key other = named key table) : Holds key value other := by
  obtain ⟨n, hn⟩ := h
  exact ⟨n, hsame.trans hn⟩

/-! ## Entries with one name -/

theorem named_erase_self : named key (erase key table) = [] := by
  rw [named, erase, List.filter_filter]
  simp

theorem named_erase_of_ne (h : name ≠ key) : named name (erase key table) = named name table := by
  rw [named, erase, List.filter_filter]
  congr 1
  funext entry
  by_cases hentry : entry.1 = name
  · simp [hentry, h]
  · simp [hentry]

theorem named_insert_of_ne (h : name ≠ key) :
    named name (insert key value table) = named name table := by
  induction table with
  | nil => simp [insert, named, Ne.symm h]
  | cons head rest ih =>
      obtain ⟨k, v⟩ := head
      unfold insert
      split
      next hk => rw [named_cons, named_cons, ← hk, if_neg (Ne.symm h), if_neg (Ne.symm h)]
      next hk =>
        split
        next => rw [named_cons, if_neg (Ne.symm h)]
        next => rw [named_cons, named_cons, ih]

theorem named_insert_self (habsent : named key table = []) :
    named key (insert key value table) = [(key, value)] := by
  induction table with
  | nil => simp [insert, named]
  | cons head rest ih =>
      obtain ⟨k, v⟩ := head
      rw [named_cons] at habsent
      split at habsent
      next => exact absurd habsent (by simp)
      next hk =>
        unfold insert
        rw [if_neg (Ne.symm hk)]
        split
        next => rw [named_cons, if_pos rfl, named_cons, if_neg hk, habsent]
        next => rw [named_cons, if_neg hk, ih habsent]

theorem named_replace_self :
    named key (replace key value table) =
      List.replicate (named key table).length (key, value) := by
  induction table with
  | nil => rfl
  | cons head rest ih =>
      rw [replace, List.map_cons, ← replace, named_cons, named_cons, ih]
      by_cases hk : head.1 = key
      · simp [hk, List.replicate_succ]
      · simp [hk]

theorem named_replace_of_ne (h : name ≠ key) :
    named name (replace key value table) = named name table := by
  induction table with
  | nil => rfl
  | cons head rest ih =>
      rw [replace, List.map_cons, ← replace, named_cons, named_cons, ih]
      by_cases hk : head.1 = key
      · simp [hk, Ne.symm h]
      · simp [hk]

theorem named_put_of_ne (h : name ≠ key) : named name (put key value table) = named name table := by
  unfold put
  split
  · exact named_insert_of_ne h
  · exact named_replace_of_ne h

/-- A value that is put is there as often as there were values before, and at least once. -/
theorem named_put_self :
    named key (put key value table) =
      List.replicate (max 1 (named key table).length) (key, value) := by
  unfold put
  split
  · next habsent =>
      rw [List.isEmpty_iff] at habsent
      rw [named_insert_self habsent, habsent]
      rfl
  · next hthere =>
      have hpos : 1 ≤ (named key table).length := by
        rw [List.isEmpty_iff] at hthere
        exact List.length_pos_iff.2 hthere
      rw [named_replace_self, Nat.max_eq_right hpos]

/-! ## Changes that change nothing -/

theorem erase_eq_self (h : named key table = []) : erase key table = table := by
  rw [erase, List.filter_eq_self]
  intro entry hentry
  rw [named, List.filter_eq_nil_iff] at h
  simpa using h entry hentry

theorem put_eq_self (h : Holds key value table) : put key value table = table := by
  obtain ⟨n, hn⟩ := h
  have hthere : (named key table).isEmpty = false := by
    rw [hn]
    rfl
  rw [put, hthere, replace]
  conv_rhs => rw [← List.map_id table]
  apply List.map_congr_left
  intro entry hentry
  by_cases hkey : entry.1 = key
  · -- an entry with that name is one of those that hold the value
    have hmem : entry ∈ named key table := List.mem_filter.2 ⟨hentry, by simp [hkey]⟩
    rw [hn] at hmem
    simp [List.eq_of_mem_replicate hmem]
  · simp [hkey]

/-! ## Names of a table -/

/-- No name occurs twice. -/
def Distinct (table : Table α) : Prop :=
  (table.map (·.1)).Nodup

theorem distinct_cons {entry : String × α} {rest : Table α} :
    Distinct (entry :: rest) ↔ get? entry.1 rest = none ∧ Distinct rest := by
  rw [Distinct, List.map_cons, List.nodup_cons, get?_eq_none_iff]
  rfl

theorem distinct_singleton (entry : String × α) : Distinct [entry] :=
  List.nodup_cons.2 ⟨List.not_mem_nil, List.nodup_nil⟩

theorem names_insert (key : String) (value : α) (table : Table α)
    (hsorted : (table.map (·.1)).Pairwise (· < ·)) :
    ((insert key value table).map (·.1)).Pairwise (· < ·) ∧
      ∀ name ∈ (insert key value table).map (·.1), name = key ∨ name ∈ table.map (·.1) := by
  induction table with
  | nil => simp [insert]
  | cons head rest ih =>
      obtain ⟨k, v⟩ := head
      rw [List.map_cons, List.pairwise_cons] at hsorted
      obtain ⟨hfirst, hrest⟩ := hsorted
      obtain ⟨ihsorted, ihmem⟩ := ih hrest
      unfold insert
      -- the name is the first one, comes before it, or goes somewhere behind it
      split
      · next hk =>
          subst hk
          exact ⟨List.pairwise_cons.2 ⟨hfirst, hrest⟩, by simp⟩
      · split
        · next hlt =>
            refine ⟨List.pairwise_cons.2 ⟨?_, List.pairwise_cons.2 ⟨hfirst, hrest⟩⟩, by simp⟩
            intro name hname
            rcases List.mem_cons.1 hname with rfl | hname
            · exact hlt
            · exact lt_trans hlt (hfirst name hname)
        · next hne hge =>
            have hlt : k < key := lt_of_le_of_ne (not_lt.1 hge) (Ne.symm hne)
            refine ⟨List.pairwise_cons.2 ⟨?_, ihsorted⟩, ?_⟩
            · intro name hname
              rcases ihmem name hname with rfl | hname
              · exact hlt
              · exact hfirst name hname
            · intro name hname
              rcases List.mem_cons.1 hname with rfl | hname
              · simp
              · rcases ihmem name hname with rfl | hname <;> simp [*]

/-- A table that is built from pairs is in the order of its names. -/
theorem distinct_ofPairs (pairs : List (String × α)) : Distinct (ofPairs pairs) := by
  have hsorted (table : Table α) (h : (table.map (·.1)).Pairwise (· < ·)) :
      ((pairs.foldl (fun table pair => insert pair.1 pair.2 table) table).map (·.1)).Pairwise
        (· < ·) := by
    induction pairs generalizing table with
    | nil => exact h
    | cons pair rest ih => exact ih _ (names_insert pair.1 pair.2 table h).1
  exact (hsorted [] List.Pairwise.nil).imp ne_of_lt

theorem mem_of_mem_insert {entry : String × α} (h : entry ∈ insert key value table) :
    entry = (key, value) ∨ entry ∈ table := by
  induction table with
  | nil => exact .inl (List.mem_singleton.1 h)
  | cons head rest ih =>
      obtain ⟨k, v⟩ := head
      unfold insert at h
      split at h
      next => exact (List.mem_cons.1 h).imp id (List.mem_cons_of_mem _)
      next =>
        split at h
        next => exact List.mem_cons.1 h
        next =>
          rcases List.mem_cons.1 h with rfl | h
          · exact .inr List.mem_cons_self
          · exact (ih h).imp id (List.mem_cons_of_mem _)

theorem mem_of_mem_foldl_insert {pairs : List (String × α)} {entry : String × α}
    (h : entry ∈ pairs.foldl (fun table pair => insert pair.1 pair.2 table) table) :
    entry ∈ pairs ∨ entry ∈ table := by
  induction pairs generalizing table with
  | nil => exact .inr h
  | cons pair rest ih =>
      rcases ih h with hrest | hfirst
      · exact .inl (List.mem_cons_of_mem _ hrest)
      · rcases mem_of_mem_insert hfirst with rfl | hbefore
        · exact .inl List.mem_cons_self
        · exact .inr hbefore

theorem mem_of_mem_ofPairs {pairs : List (String × α)} {entry : String × α}
    (h : entry ∈ ofPairs pairs) : entry ∈ pairs :=
  (mem_of_mem_foldl_insert h).resolve_right (by simp)

end Table

namespace Json

/-! ## Patches -/

mutual

/-- The value that a patch makes of a value. -/
def mergeInto : Json → Json → Json
  | .obj fields, value => .obj (mergeMembers fields (value.members?.getD []))
  | patch, _ => patch

/-- The members that those of a patch make of the members of an object. -/
def mergeMembers : List (String × Json) → Table Json → Table Json
  | [], table => table
  | (name, patch) :: rest, table =>
    mergeMembers rest (
      if patch = .null then table.erase name
      else table.put name (patch.mergeInto ((table.get? name).getD .null)))

end

theorem mergeInto_of_members?_eq_none {patch value : Json} (h : patch.members? = none) :
    patch.mergeInto value = patch := by
  cases patch with
  | obj fields => exact absurd h (by simp [members?])
  | _ => rfl

variable {name : String} {patch : Json} {fields : Table Json} {table : Table Json}

/-! ## Members with one name -/

theorem named_mergeMembers_of_absent (h : Table.get? name fields = none) :
    Table.named name (mergeMembers fields table) = Table.named name table := by
  induction fields generalizing table with
  | nil => rfl
  | cons head rest ih =>
      obtain ⟨k, v⟩ := head
      rw [Table.get?] at h
      split at h
      next => exact absurd h (by simp)
      next hne =>
        rw [mergeMembers, ih h]
        split
        next => exact Table.named_erase_of_ne hne
        next => exact Table.named_put_of_ne hne

theorem named_mergeMembers_of_null (hdistinct : Table.Distinct fields)
    (h : Table.get? name fields = some .null) :
    Table.named name (mergeMembers fields table) = [] := by
  induction fields generalizing table with
  | nil => exact absurd h (by simp)
  | cons head rest ih =>
      obtain ⟨k, v⟩ := head
      rw [Table.get?] at h
      rw [Table.distinct_cons] at hdistinct
      split at h
      next hk =>
        -- the rest of the patch does not have the name
        subst hk
        cases h
        rw [mergeMembers, if_pos rfl, named_mergeMembers_of_absent hdistinct.1]
        exact Table.named_erase_self
      next => exact ih hdistinct.2 h

theorem named_mergeMembers_of_some (hdistinct : Table.Distinct fields)
    (h : Table.get? name fields = some patch) (hpatch : patch ≠ .null) :
    Table.named name (mergeMembers fields table) =
      List.replicate (max 1 (Table.named name table).length)
        (name, patch.mergeInto ((table.get? name).getD .null)) := by
  induction fields generalizing table with
  | nil => exact absurd h (by simp)
  | cons head rest ih =>
      obtain ⟨k, v⟩ := head
      rw [Table.get?] at h
      rw [Table.distinct_cons] at hdistinct
      split at h
      next hk =>
        subst hk
        cases h
        rw [mergeMembers, if_neg hpatch, named_mergeMembers_of_absent hdistinct.1]
        exact Table.named_put_self
      next hne =>
        -- what comes first in the patch is about another name
        have hsame : Table.named name (if v = .null then table.erase k
            else table.put k (v.mergeInto ((table.get? k).getD .null))) =
              Table.named name table := by
          split
          next => exact Table.named_erase_of_ne hne
          next => exact Table.named_put_of_ne hne
        rw [mergeMembers, ih hdistinct.2 h, hsame, Table.get?_eq_of_named hsame]

/-- A patch that is merged leaves its own value at a name. -/
theorem holds_mergeMembers (table : Table Json) (hdistinct : Table.Distinct fields)
    (h : Table.get? name fields = some patch) (hpatch : patch ≠ .null) :
    Table.Holds name (patch.mergeInto ((table.get? name).getD .null))
      (mergeMembers fields table) :=
  ⟨max 1 (Table.named name table).length - 1, by
    rw [named_mergeMembers_of_some hdistinct h hpatch]
    congr 1
    omega⟩

theorem named_mergeMembers_singleton_of_ne {other : String} (h : other ≠ name) :
    Table.named other (mergeMembers [(name, patch)] table) = Table.named other table :=
  named_mergeMembers_of_absent (by simp [Table.get?, h])

theorem get?_mergeMembers_singleton (hpatch : patch ≠ .null) :
    Table.get? name (mergeMembers [(name, patch)] table) =
      some (patch.mergeInto ((table.get? name).getD .null)) :=
  (holds_mergeMembers table (Table.distinct_singleton _) (by simp [Table.get?]) hpatch).get?_eq

/-! ## Patches that are applied twice -/

/-- No object in a value, other than in an array, has a name twice. -/
inductive Regular : Json → Prop where
  | leaf {v : Json} (h : v.members? = none) : Regular v
  | object {fields : Table Json} (distinct : Table.Distinct fields)
      (members : ∀ m ∈ fields, Regular m.2) : Regular (.obj fields)

/-- A patch changes nothing that has what it asks for. -/
theorem mergeMembers_eq_self
    (h : ∀ m ∈ fields, (m.2 = .null → Table.named m.1 table = []) ∧
      (m.2 ≠ .null → ∃ w, Table.Holds m.1 w table ∧ m.2.mergeInto w = w)) :
    mergeMembers fields table = table := by
  induction fields with
  | nil => rfl
  | cons head rest ih =>
      obtain ⟨k, v⟩ := head
      obtain ⟨hnull, hsome⟩ := h (k, v) List.mem_cons_self
      -- the first field changes nothing, so the others find the table as it was
      have hfirst : (if v = .null then table.erase k
          else table.put k (v.mergeInto ((table.get? k).getD .null))) = table := by
        split
        next hv => exact Table.erase_eq_self (hnull hv)
        next hv =>
          obtain ⟨w, hholds, hw⟩ := hsome hv
          rw [hholds.get?_eq, Option.getD_some, hw]
          exact Table.put_eq_self hholds
      rw [mergeMembers, hfirst]
      exact ih fun m hm => h m (List.mem_cons_of_mem _ hm)

/-- A patch changes nothing where the members that it names are those that it made, whatever the
other members are by now. -/
theorem mergeMembers_eq_self_of_same (before : Table Json) (hdistinct : Table.Distinct fields)
    (hmembers : ∀ m ∈ fields, ∀ v, m.2.mergeInto (m.2.mergeInto v) = m.2.mergeInto v)
    (hsame : ∀ m ∈ fields, table.named m.1 = (mergeMembers fields before).named m.1) :
    mergeMembers fields table = table := by
  refine mergeMembers_eq_self fun m hm => ⟨fun hnull => ?_, fun hsome => ?_⟩
  · rw [hsame m hm]
    exact named_mergeMembers_of_null hdistinct ((Table.get?_eq_some_iff hdistinct).2 (hnull ▸ hm))
  · have hholds := holds_mergeMembers before hdistinct
      ((Table.get?_eq_some_iff hdistinct).2 hm) hsome
    exact ⟨_, hholds.congr (hsame m hm), hmembers m hm _⟩

/-- A patch that is applied twice does what it does once. -/
theorem mergeInto_mergeInto (h : patch.Regular) (value : Json) :
    patch.mergeInto (patch.mergeInto value) = patch.mergeInto value := by
  induction h generalizing value with
  | leaf h => rw [mergeInto_of_members?_eq_none h, mergeInto_of_members?_eq_none h]
  | object distinct members ih =>
      rw [mergeInto, mergeInto]
      exact congrArg Json.obj (mergeMembers_eq_self_of_same _ distinct ih fun _ _ => rfl)

end Json

end ClusterLifecycle
