import ClusterLifecycle.Proofs.Records
import ClusterLifecycle.Proofs.Tables
import Mathlib.Algebra.Group.Int.Defs

/-!
# Notations that say what they mean

A document comes as a JSON value, or as the tree of a JSON text. In both an integer that is read has
at most 64 bits, null is what is missing, and the members of an object are those of its value.
Records can be read from any notation with these laws, and what is read can be written as a JSON
value.

Main statements: the instances for values and texts, `Document.exists_of_lastOf` for what a part was
read from, and `Json.IsRecord.lastOf` and its partners for the parts of an object.
-/

namespace ClusterLifecycle

open Document (Parts)

/-! ## Laws -/

/-- The number has at most 64 bits, one of them for the sign. -/
def IsWide (n : Int) : Prop :=
  -(2 ^ 63 : Int) ≤ n ∧ n < 2 ^ 63

/-- A notation whose readings of one node fit together. -/
class LawfulDocument (δ : Type) [Document δ] : Prop where
  /-- Integers have at most 64 bits. -/
  isWide {node : δ} {n : Int} (h : Document.int? node = some n) : IsWide n
  /-- Null is what is missing. -/
  optional_json? (node : δ) : Document.optional Document.json? node =
    (Document.json? node).map fun v => if v = .null then none else some v
  /-- The members of an object of any shape are those of its value. -/
  json?_of_members {node : δ} {members : Table Json} (h : Document.members? node = some members) :
    Document.json? node = some (.obj members)

/-! ### Values -/

namespace Json

theorem isWide_of_int? {v : Json} {n : Int} (h : Document.int? v = some n) : IsWide n := by
  obtain ⟨m, -, hm⟩ := Option.bind_eq_some_iff.1 (show v.intIn? _ _ = some n from h)
  have hbound : ((1 <<< 63 : Nat) : Int) = 2 ^ 63 := by decide
  rw [hbound] at hm
  split at hm
  next hrange =>
    cases hm
    exact ⟨hrange.1, by omega⟩
  next => cases hm

/-- A number of that width is read back. -/
theorem int?_ofInt {n : Int} (h : IsWide n) : Document.int? (ofInt n) = some n := by
  have hbound : ((1 <<< 63 : Nat) : Int) = 2 ^ 63 := by decide
  show (ofInt n).intIn? _ _ = some n
  rw [intIn?, hbound]
  exact if_pos ⟨h.1, by have := h.2; omega⟩

theorem optional?_eq (v : Json) :
    Document.optional? v = some (if v = .null then none else some v) := rfl

instance : LawfulDocument Json where
  isWide := isWide_of_int?
  optional_json? node := by
    rw [Document.optional, optional?_eq]
    by_cases h : node = .null
    · rw [if_pos h, h]
      rfl
    · rw [if_neg h]
      exact congrArg some (if_neg h).symm
  json?_of_members {node members} h := by
    cases node with
    | obj fields =>
        cases h
        rfl
    | _ => cases h

end Json

/-! ### Texts -/

namespace JsonNode

theorem json?_of_isNull {node : JsonNode} (h : node.isNull = true) : node.json? = some .null := by
  obtain ⟨source, depth⟩ := node
  cases source with
  | null => rfl
  | _ => cases h

/-- Only the word for null has null as its value. -/
theorem isNull_of_json? {node : JsonNode} (h : node.json? = some .null) : node.isNull = true := by
  obtain ⟨source, depth⟩ := node
  have hvalue : source.value? depth = some .null := h
  -- the value has the form of the source
  cases source with
  | null => rfl
  | bool => cases hvalue
  | num | str =>
      obtain ⟨_, -, hother⟩ := Option.map_eq_some_iff.1 hvalue
      cases hother
  | arr | obj =>
      cases depth with
      | zero => cases hvalue
      | succ depth =>
          obtain ⟨_, -, hother⟩ := Option.map_eq_some_iff.1 hvalue
          cases hother

instance : LawfulDocument JsonNode where
  isWide {node n} h := by
    obtain ⟨v, -, hv⟩ := Option.bind_eq_some_iff.1 (show node.scalar?.bind Document.int? = _ from h)
    exact Json.isWide_of_int? hv
  optional_json? node := by
    show Option.bind (some (if node.isNull then none else some node)) _ = node.json?.map _
    by_cases h : node.isNull = true
    · rw [if_pos h, json?_of_isNull h]
      rfl
    · rw [if_neg h, Option.bind_some]
      show node.json?.map some = _
      refine Option.map_congr fun v hv => (if_neg ?_).symm
      rintro rfl
      exact h (isNull_of_json? hv)
  json?_of_members {node members} h := by
    obtain ⟨v, hv, hmembers⟩ := Option.bind_eq_some_iff.1 (show node.json?.bind _ = _ from h)
    cases v with
    | obj fields =>
        cases hmembers
        exact hv
    | _ => cases hmembers

end JsonNode

/-! ## What a part was read from -/

section

variable {δ α : Type} {node : δ} {entries : List (String × δ)} {parts : Parts δ} {name : String}
  {a : α} {read : δ → Option α}

theorem Document.Parts.exists_of_required (h : parts.required name read = some a) :
    ∃ node, read node = some a := by
  obtain ⟨node, -, hread⟩ := Option.bind_eq_some_iff.1 h
  exact ⟨node, hread⟩

theorem Document.Parts.exists_of_withDefault {default : α}
    (h : parts.withDefault name default read = some a) :
    a = default ∨ ∃ node, read node = some a := by
  unfold withDefault at h
  split at h
  next node _ => exact .inr ⟨node, h⟩
  next => exact .inl (Option.some.inj h).symm

variable [Document δ]

theorem Document.optional_eq_some_some_iff :
    Document.optional read node = some (some a) ↔
      ∃ child, Document.optional? node = some (some child) ∧ read child = some a := by
  unfold Document.optional
  rw [Option.bind_eq_some_iff]
  constructor
  · rintro ⟨found, hfound, h⟩
    cases found with
    | none => cases h
    | some child =>
        obtain ⟨_, hread, hsome⟩ := Option.map_eq_some_iff.1 h
        cases hsome
        exact ⟨child, hfound, hread⟩
  · rintro ⟨child, hchild, hread⟩
    exact ⟨some child, hchild, by simp [hread]⟩

theorem Document.exists_of_lastOf (h : Document.lastOf entries name read = some (some a)) :
    ∃ node, Document.optional read node = some (some a) := by
  -- induction on the entries with the name, whatever was read before
  suffices hlast : ∀ (found : List (String × δ)) (before : Option α),
      found.foldlM (fun _ entry => Document.optional read entry.2) before = some (some a) →
        before = some a ∨ ∃ node, Document.optional read node = some (some a) from
    (hlast _ none h).resolve_left (by simp)
  intro found
  induction found with
  | nil => exact fun before h => .inl (Option.some.inj h)
  | cons entry rest ih =>
      intro before h
      rw [List.foldlM_cons] at h
      obtain ⟨next, hnext, h⟩ := Option.bind_eq_some_iff.1 h
      rcases ih next h with rfl | hlater
      · exact .inr ⟨entry.2, hnext⟩
      · exact .inr hlater

theorem Document.Parts.exists_of_optionalOrAbsent
    (h : parts.optionalOrAbsent name read = some (some a)) :
    ∃ node, Document.optional read node = some (some a) :=
  (exists_of_withDefault h).resolve_left (by simp)

theorem Document.exists_of_list {items : List α} (h : Document.list read node = some items) :
    ∀ a ∈ items, ∃ node, read node = some a := by
  obtain ⟨nodes, -, hitems⟩ := Option.bind_eq_some_iff.1 h
  clear h
  induction nodes generalizing items with
  | nil =>
      cases hitems
      simp
  | cons node rest ih =>
      rw [List.mapM_cons] at hitems
      obtain ⟨first, hfirst, hitems⟩ := Option.bind_eq_some_iff.1 hitems
      obtain ⟨others, hothers, hitems⟩ := Option.bind_eq_some_iff.1 hitems
      cases hitems
      exact List.forall_mem_cons.2 ⟨⟨node, hfirst⟩, ih hothers⟩

theorem Document.sorted_of_table {table : Table α} (h : Document.table read node = some table) :
    table.Sorted := by
  obtain ⟨_, -, h⟩ := Option.bind_eq_some_iff.1 h
  obtain ⟨pairs, -, h⟩ := Option.bind_eq_some_iff.1 h
  cases h
  exact Table.sorted_ofPairs pairs

end

/-! ## Values that are read back -/

section

variable {α : Type} {v : Json} {a : α} {read : Json → Option α} {write : α → Json}

theorem Document.optional_of_read (hne : v ≠ .null) (h : read v = some a) :
    Document.optional read v = some (some a) :=
  Document.optional_eq_some_some_iff.2 ⟨v, by rw [Json.optional?_eq, if_neg hne], h⟩

theorem Document.optional_null : Document.optional read Json.null = some none := rfl

/-- A text that is written is read back. -/
theorem Document.optional_str (s : String) :
    Document.optional Document.text? (Json.str s) = some (some s) :=
  Document.optional_of_read (by simp) rfl

theorem Document.optional_ofInt {n : Int} (h : IsWide n) :
    Document.optional Document.int? (Json.ofInt n) = some (some n) :=
  Document.optional_of_read (by simp [Json.ofInt]) (Json.int?_ofInt h)

theorem Document.optional_ofInstant (i : Instant) :
    Document.optional Document.instant? (Json.ofInstant i) = some (some i) := by
  refine Document.optional_of_read (by simp [Json.ofInstant]) ?_
  have htext : Document.text? (Json.ofInstant i) = some i.text := rfl
  rw [Document.instant?, htext, Option.bind_some, Instant.ofText?_text]

/-- A table of texts that is in order is read back. -/
theorem Document.table_ofTexts {texts : Table String} (h : texts.Sorted) :
    Document.table Document.text? (Json.ofTexts texts) = some texts := by
  have hpairs : Json.ofTexts texts = .obj (texts.map fun entry => (entry.1, .str entry.2)) :=
    congrArg Json.obj (Table.ofPairs_eq_self ((Table.sorted_map _).2 h))
  have hread : (texts.map fun entry => (entry.1, Json.str entry.2)).mapM
      (fun entry => (Document.text? entry.2).map (entry.1, ·)) = some texts := by
    clear h hpairs
    induction texts with
    | nil => rfl
    | cons entry rest ih =>
        rw [List.map_cons, List.mapM_cons, ih]
        rfl
  rw [hpairs]
  show Option.bind (List.mapM _ _) _ = _
  rw [hread]
  exact congrArg some (Table.ofPairs_eq_self h)

theorem Document.optional_ofTexts {texts : Table String} (h : texts.Sorted) :
    Document.optional (Document.table Document.text?) (Json.ofTexts texts) = some (some texts) :=
  Document.optional_of_read (by simp [Json.ofTexts, Json.ofPairs]) (Document.table_ofTexts h)

/-- A list whose items are read back is read back. -/
theorem Document.list_map_write_of_mem {items : List α} (h : ∀ a ∈ items, read (write a) = some a) :
    Document.list read (.arr (items.map write)) = some items := by
  show (items.map write).mapM read = some items
  induction items with
  | nil => rfl
  | cons a rest ih =>
      obtain ⟨ha, hrest⟩ := List.forall_mem_cons.1 h
      rw [List.map_cons, List.mapM_cons, ha, ih hrest]
      rfl

theorem Document.optional_map_write {items : List α} (h : ∀ a ∈ items, read (write a) = some a) :
    Document.optional (Document.list read) (.arr (items.map write)) = some (some items) :=
  Document.optional_of_read (by simp) (Document.list_map_write_of_mem h)

/-- A part that is written as null where it is missing is read back. -/
theorem Document.optional_getD_null {part : Option α}
    (h : ∀ a ∈ part, Document.optional read (write a) = some (some a)) :
    Document.optional read ((part.map write).getD .null) = some part := by
  cases part with
  | none => exact Document.optional_null
  | some a => exact h a rfl

theorem Document.optional_ofText? (text : Option String) :
    Document.optional Document.text? (Json.ofText? text) = some text := by
  cases text with
  | none => exact Document.optional_null
  | some s => exact Document.optional_str s

/-- What is read of a member that need not be there. -/
def Document.fromMember (read : Json → Option α) (v : Option Json) : Option (Option α) :=
  v.elim (some none) (Document.optional read)

/-- A part that is not written where it is missing is read back. -/
theorem Document.fromMember_map_write {part : Option α}
    (h : ∀ a ∈ part, Document.optional read (write a) = some (some a)) :
    Document.fromMember read (part.map write) = some part := by
  cases part with
  | none => rfl
  | some a => exact h a rfl

theorem Document.fromMember_text (text : Option String) :
    Document.fromMember Document.text? (text.map .str) = some text :=
  Document.fromMember_map_write fun s _ => Document.optional_str s

end

/-! ## Objects that are read as records -/

namespace Json

/-- The value is an object with distinct names. -/
def IsRecord (v : Json) : Prop :=
  ∃ table : Table Json, v = .obj table ∧ table.Distinct

/-- The members of an object. -/
def memberTable (v : Json) : Table Json :=
  v.members?.getD []

theorem isRecord_ofPairs (pairs : List (String × Json)) : (ofPairs pairs).IsRecord :=
  ⟨_, rfl, Table.distinct_ofPairs pairs⟩

theorem isRecord_ofPresent (parts : List (String × Option Json)) : (ofPresent parts).IsRecord :=
  isRecord_ofPairs _

namespace IsRecord

variable {α : Type} {v : Json} {names : List String} {read : Json → Option α}

theorem get?_eq (h : v.IsRecord) (name : String) : v.get? name = v.memberTable.get? name := by
  obtain ⟨table, rfl, -⟩ := h
  rfl

theorem entries? (h : v.IsRecord) : Document.entries? v = some v.memberTable := by
  obtain ⟨table, rfl, -⟩ := h
  rfl

theorem lastOf (h : v.IsRecord) (name : String) {w : Option Json} {a : Option α}
    (hget : v.get? name = w) (hread : Document.fromMember read w = some a) :
    Document.lastOf v.memberTable name read = some a := by
  obtain ⟨table, rfl, distinct⟩ := h
  rw [← hread, ← hget]
  show Document.lastOf table name read = Document.fromMember read (table.get? name)
  rw [Document.lastOf, ← Table.named, Table.named_eq_of_distinct distinct, Document.fromMember]
  cases table.get? name with
  | none => rfl
  | some v => exact bind_pure _

theorem of? (h : v.IsRecord) (names : List String) :
    Parts.of? names v = some (Parts.ofTable names v.memberTable) := by
  obtain ⟨table, rfl, distinct⟩ := h
  refine Parts.of?_obj_eq_some_iff.2 ⟨fun name _ => ?_, rfl⟩
  rw [Table.named_eq_of_distinct distinct]
  cases table.get? name <;> simp

theorem find? (h : v.IsRecord) {name : String} (hname : name ∈ names) :
    (Parts.ofTable names v.memberTable).find? name = v.get? name := by
  rw [Parts.find?_ofTable hname, h.get?_eq]

theorem required (h : v.IsRecord) (name : String) (w : Json) {a : α} (hname : name ∈ names)
    (hget : v.get? name = some w) (hread : read w = some a) :
    (Parts.ofTable names v.memberTable).required name read = some a := by
  rw [Parts.required, h.find? hname, hget, Option.bind_some, hread]

theorem withDefault (h : v.IsRecord) (name : String) (w : Json) {a default : α}
    (hname : name ∈ names) (hget : v.get? name = some w) (hread : read w = some a) :
    (Parts.ofTable names v.memberTable).withDefault name default read = some a := by
  rw [Parts.withDefault, h.find? hname, hget]
  exact hread

theorem withDefault_of_absent (h : v.IsRecord) (name : String) {default : α}
    (hname : name ∈ names) (hget : v.get? name = none) :
    (Parts.ofTable names v.memberTable).withDefault name default read = some default := by
  rw [Parts.withDefault, h.find? hname, hget]

theorem optional (h : v.IsRecord) (name : String) {w : Option Json} {a : Option α}
    (hname : name ∈ names) (hget : v.get? name = w) (hread : Document.fromMember read w = some a) :
    (Parts.ofTable names v.memberTable).optional name read = some a := by
  rw [Parts.optional, h.find? hname, hget, ← hread]
  cases w <;> rfl

theorem optionalOrAbsent (h : v.IsRecord) (name : String) {w : Option Json} {a : Option α}
    (hname : name ∈ names) (hget : v.get? name = w) (hread : Document.fromMember read w = some a) :
    (Parts.ofTable names v.memberTable).optionalOrAbsent name read = some a := by
  rw [Parts.optionalOrAbsent, Parts.withDefault, h.find? hname, hget, ← hread]
  cases w <;> rfl

end IsRecord

end Json

end ClusterLifecycle
