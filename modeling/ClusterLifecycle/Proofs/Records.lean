import ClusterLifecycle.Proofs.Instants
import ClusterLifecycle.Proofs.MergePatch
import ClusterLifecycle.Resource.Instance

/-!
# Records in objects

What a record is read as goes by the members of the object with the names of its parts, so whoever
changes other members changes nothing about it.

Main statements: `InstanceStatus.decode?_obj` and `Metadata.decode?_congr`.
-/

namespace ClusterLifecycle

open Document (Parts)

variable {α : Type} {names : List String} {name : String} {table other : Table Json}

/-! ## Parts -/

/-- None of the given names occurs twice. -/
def Table.Single (names : List String) (table : Table α) : Prop :=
  ∀ name ∈ names, (table.named name).length ≤ 1

theorem Table.single_nil : Table.Single names ([] : Table α) :=
  fun _ _ => Nat.zero_le _

/-- The members of an object that are parts of a record. -/
def Document.Parts.ofTable (names : List String) (table : Table Json) : Parts Json :=
  ⟨table.filter (names.contains ·.1), true⟩

theorem Document.Parts.nodup_iff_single :
    ((table.filter (names.contains ·.1)).map (·.1)).Nodup ↔ table.Single names := by
  have hcount (name : String) (h : name ∈ names) :
      ((table.filter (names.contains ·.1)).map (·.1)).count name = (table.named name).length := by
    rw [List.count_eq_countP, List.countP_map, List.countP_filter, List.countP_eq_length_filter,
      Table.named]
    congr 2
    funext entry
    by_cases hname : entry.1 = name <;> simp [hname, h]
  -- names that are asked for are counted, and the others were filtered out
  rw [List.nodup_iff_count]
  constructor
  · intro h name hname
    rw [← hcount name hname]
    exact h name
  · intro h name
    by_cases hname : name ∈ names
    · rw [hcount name hname]
      exact h name hname
    · rw [List.count_eq_zero_of_not_mem]
      · exact Nat.zero_le _
      · intro hmem
        obtain ⟨entry, hentry, rfl⟩ := List.mem_map.1 hmem
        exact hname (by simpa using (List.mem_filter.1 hentry).2)

theorem Document.Parts.of?_obj_eq_some_iff {parts : Parts Json} :
    Parts.of? names (Json.obj table) = some parts ↔
      table.Single names ∧ parts = Parts.ofTable names table := by
  have hof : Parts.of? names (Json.obj table) =
      if ((table.filter (names.contains ·.1)).map (·.1)).Nodup
      then some (Parts.ofTable names table) else none := rfl
  rw [hof, ← Parts.nodup_iff_single]
  split
  next h =>
    exact ⟨fun hsome => ⟨h, (Option.some.inj hsome).symm⟩, fun hparts => hparts.2 ▸ rfl⟩
  next h => exact ⟨fun hsome => absurd hsome (by simp), fun hparts => absurd hparts.1 h⟩

/-- Entries with other names do not matter. -/
theorem Table.get?_filter_contains {entries : Table α} (h : name ∈ names) :
    Table.get? name (entries.filter (names.contains ·.1)) = entries.get? name := by
  apply Table.get?_eq_of_named
  rw [Table.named, List.filter_filter, Table.named]
  congr 1
  funext entry
  by_cases hname : entry.1 = name <;> simp [hname, h]

theorem Document.Parts.find?_ofTable (h : name ∈ names) :
    (Parts.ofTable names table).find? name = table.get? name :=
  Table.get?_filter_contains h

/-! ## Progress of setup tasks -/

theorem SetupProgress.decode?_toJson (p : SetupProgress) : decode? p.toJson = some p := by
  obtain ⟨name, outcome, reason, message, completionTime⟩ := p
  cases completionTime with
  | none =>
      simp [-String.lt_iff_ltb, toJson, decode?, Json.ofPairs, Table.ofPairs, Table.insert,
        Table.get?, Parts.of?, Parts.required, Parts.withDefault, Parts.optionalOrAbsent,
        Parts.find?, Document.entries?, Document.text?, Document.optional, Document.optional?,
        Document.variant?, Json.members?, Json.text?, Json.variant?, Outcome.ofText?_text]
  | some i =>
      simp [-String.lt_iff_ltb, toJson, decode?, Json.ofPairs, Table.ofPairs, Table.insert,
        Table.get?, Parts.of?, Parts.required, Parts.withDefault, Parts.optionalOrAbsent,
        Parts.find?, Document.entries?, Document.text?, Document.optional, Document.optional?,
        Document.variant?, Document.instant?, Json.members?, Json.text?, Json.variant?,
        Json.ofInstant, Outcome.ofText?_text, Instant.ofText?_text]

/-- A list is read item by item. -/
theorem Document.list_map_write {read : Json → Option α} {write : α → Json}
    (h : ∀ a, read (write a) = some a) (items : List α) :
    Document.list read (.arr (items.map write)) = some items := by
  show (items.map write).mapM read = some items
  induction items with
  | nil => rfl
  | cons a rest ih => simp [List.mapM_cons, h, ih]

/-! ## Statuses -/

/-- An object is read as the status whose parts it has. -/
theorem InstanceStatus.decode?_obj {s : InstanceStatus} (single : table.Single partNames)
    (created : table.get? "created" = some (.bool s.created))
    (clusterStatus : table.get? "clusterStatus" = some (.str s.clusterStatus))
    (started : table.get? "clusterSetupStarted" = some (.bool s.clusterSetupStarted))
    (setup : table.get? "clusterSetup" = some (.arr (s.clusterSetup.map (·.toJson))))
    (password : table.get? "kubeadminPassword" = s.kubeadminPassword.map .str)
    (url : table.get? "apiServerURL" = s.apiServerUrl.map .str) :
    decode? (Json.obj table) = some s := by
  have hparts : Parts.of? partNames (Json.obj table) = some (Parts.ofTable partNames table) :=
    Parts.of?_obj_eq_some_iff.2 ⟨single, rfl⟩
  have hdefault {β : Type} (name : String) (h : name ∈ partNames) (default : β) (v : Json)
      (read : Json → Option β) (hget : table.get? name = some v) :
      (Parts.ofTable partNames table).withDefault name default read = read v := by
    rw [Parts.withDefault, Parts.find?_ofTable h, hget]
  have htext (name : String) (h : name ∈ partNames) (text : Option String)
      (hget : table.get? name = text.map .str) :
      (Parts.ofTable partNames table).optionalOrAbsent name (Document.text? (δ := Json)) =
        some text := by
    rw [Parts.optionalOrAbsent, Parts.withDefault, Parts.find?_ofTable h, hget]
    cases text <;> rfl
  refine Option.bind_eq_some_iff.2 ⟨_, hparts, ?_⟩
  -- the parts are read in the order of the record
  refine Option.bind_eq_some_iff.2 ⟨_, hdefault _ (by decide) _ _ _ created, ?_⟩
  refine Option.bind_eq_some_iff.2 ⟨_, hdefault _ (by decide) _ _ _ clusterStatus, ?_⟩
  refine Option.bind_eq_some_iff.2 ⟨_, hdefault _ (by decide) _ _ _ started, ?_⟩
  refine Option.bind_eq_some_iff.2 ⟨_, (hdefault _ (by decide) _ _ _ setup).trans
    (Document.list_map_write SetupProgress.decode?_toJson _), ?_⟩
  refine Option.bind_eq_some_iff.2 ⟨_, htext _ (by decide) _ password, ?_⟩
  refine Option.bind_eq_some_iff.2 ⟨_, htext _ (by decide) _ url, ?_⟩
  rfl

/-! ## Metadata -/

theorem Document.lastOf_congr {read : Json → Option α} (h : table.named name = other.named name) :
    Document.lastOf table name read = Document.lastOf other name read := by
  rw [Document.lastOf, Document.lastOf, ← Table.named, ← Table.named, h]

theorem Document.lastOf_of_absent {read : Json → Option α} (h : table.named name = []) :
    Document.lastOf table name read = some none := by
  rw [Document.lastOf, ← Table.named, h]
  rfl

theorem Document.lastOf_of_holds {read : Json → Option α} {v : Json} (h : table.Holds name v) :
    Document.lastOf table name read = Document.optional read v := by
  obtain ⟨n, hn⟩ := h
  rw [Document.lastOf, ← Table.named, hn]
  -- induction on how often the value stands there, whatever was read before
  suffices hlast : ∀ before : Option α, (List.replicate (n + 1) (name, v)).foldlM
      (fun _ entry => Document.optional read entry.2) before = Document.optional read v from
    hlast none
  clear hn
  induction n with
  | zero => simp
  | succ n ih =>
      intro before
      rw [List.replicate_succ, List.foldlM_cons]
      cases hv : Document.optional read v with
      | none => rfl
      | some a => exact (ih a).trans hv

theorem Metadata.exists_members_of_decode? {v : Json} {m : Metadata} (h : decode? v = some m) :
    ∃ members, v = .obj members := by
  obtain ⟨members, hmembers, -⟩ := Option.bind_eq_some_iff.1 h
  cases v with
  | obj members => exact ⟨members, rfl⟩
  | _ => exact absurd hmembers (by simp [Document.entries?, Json.members?])

/-- A reading whose first part reads the same goes on with the same. -/
theorem bind_eq_some_of_eq {β γ : Type} {x y : Option β} {f g : β → Option γ} {c d : γ}
    (h : x.bind f = some c) (hxy : y = x) (hg : ∀ b, f b = some c → g b = some d) :
    y.bind g = some d := by
  obtain ⟨b, hb, hc⟩ := Option.bind_eq_some_iff.1 h
  exact Option.bind_eq_some_iff.2 ⟨b, hxy.trans hb, hg b hc⟩

/-- Metadata with another version are the same but for that. -/
theorem Metadata.decode?_congr {m : Metadata} {version : Option String}
    (h : decode? (Json.obj table) = some m)
    (hsame : ∀ name, name ≠ "resourceVersion" → other.named name = table.named name)
    (hversion : Document.lastOf other "resourceVersion" (Document.text? (δ := Json)) =
      some version) :
    decode? (Json.obj other) = some { m with resourceVersion := version } := by
  have hlast {β : Type} (name : String) (read : Json → Option β)
      (hname : name ≠ "resourceVersion") :
      Document.lastOf other name read = Document.lastOf table name read :=
    Document.lastOf_congr (hsame name hname)
  -- the members are read in the order of their names
  refine bind_eq_some_of_eq h (hlast _ _ (by decide)) fun _ h => ?_
  refine bind_eq_some_of_eq h (hlast _ _ (by decide)) fun _ h => ?_
  refine bind_eq_some_of_eq h (hlast _ _ (by decide)) fun _ h => ?_
  refine bind_eq_some_of_eq h (hlast _ _ (by decide)) fun _ h => ?_
  refine bind_eq_some_of_eq h (hlast _ _ (by decide)) fun _ h => ?_
  refine bind_eq_some_of_eq h (hlast _ _ (by decide)) fun _ h => ?_
  refine bind_eq_some_of_eq h (hlast _ _ (by decide)) fun _ h => ?_
  refine bind_eq_some_of_eq h (hlast _ _ (by decide)) fun _ h => ?_
  refine bind_eq_some_of_eq h (hlast _ _ (by decide)) fun _ h => ?_
  refine bind_eq_some_of_eq h (hlast _ _ (by decide)) fun _ h => ?_
  refine bind_eq_some_of_eq h (hlast _ _ (by decide)) fun _ h => ?_
  refine bind_eq_some_of_eq h (hlast _ _ (by decide)) fun _ h => ?_
  obtain ⟨_, -, h⟩ := Option.bind_eq_some_iff.1 h
  refine Option.bind_eq_some_iff.2 ⟨version, hversion, ?_⟩
  refine bind_eq_some_of_eq h (hlast _ _ (by decide)) fun _ h => ?_
  refine bind_eq_some_of_eq h (hlast _ _ (by decide)) fun _ h => ?_
  cases h
  rfl

/-! ## Instances -/

/-- The names of the parts of an instance. -/
def Instance.partNames : List String :=
  ["metadata", "spec", "status"]

/-- What an object has to hold to be read as an instance. -/
structure Instance.ReadFrom (table : Table Json) (i : Instance) : Prop where
  single : table.Single partNames
  metadata : (table.get? "metadata").bind Metadata.decode? = some i.metadata
  spec : (table.get? "spec").bind InstanceSpec.decode? = some i.spec
  /-- A status that is missing or null is none. -/
  status : (table.get? "status").elim (some none) (Document.optional InstanceStatus.decode?) =
    some i.status

theorem Instance.decode?_obj_eq_some_iff {i : Instance} :
    decode? (Json.obj table) = some i ↔ i.ReadFrom table := by
  -- a table is searched for each part by its name, whatever else stands in it
  have hmetadata : (Parts.ofTable partNames table).required "metadata" Metadata.decode? =
      (table.get? "metadata").bind Metadata.decode? := by
    rw [Parts.required, Parts.find?_ofTable (by decide)]
  have hspec : (Parts.ofTable partNames table).required "spec" InstanceSpec.decode? =
      (table.get? "spec").bind InstanceSpec.decode? := by
    rw [Parts.required, Parts.find?_ofTable (by decide)]
  have hstatus : (Parts.ofTable partNames table).optional "status" InstanceStatus.decode? =
      (table.get? "status").elim (some none) (Document.optional InstanceStatus.decode?) := by
    rw [Parts.optional, Parts.find?_ofTable (by decide)]
    cases table.get? "status" <;> rfl
  unfold decode?
  simp only [Option.bind_eq_bind, Option.bind_eq_some_iff]
  constructor
  · rintro ⟨parts, hparts, metadata, hm, spec, hs, status, ht, hi⟩
    obtain ⟨single, rfl⟩ := Parts.of?_obj_eq_some_iff.1 hparts
    cases hi
    exact ⟨single, hmetadata ▸ hm, hspec ▸ hs, hstatus ▸ ht⟩
  · intro h
    exact ⟨_, Parts.of?_obj_eq_some_iff.2 ⟨h.single, rfl⟩, _, hmetadata.trans h.metadata, _,
      hspec.trans h.spec, _, hstatus.trans h.status, rfl⟩

end ClusterLifecycle
