import ClusterLifecycle.Proofs.Finalizers
import ClusterLifecycle.Proofs.Parts
import ClusterLifecycle.Proofs.Resource.Expressible

/-!
# Resources that are read and written back

Whoever changes a resource as a whole reads it and writes all of it back. What the type of the
resource does not know is lost the first time and nothing after that; the values that an instance
asks for and what a hosted cluster asks for are of any shape, and kept as they are.

Main statement: `rewriting_is_stable`.
-/

namespace ClusterLifecycle

open Document (Parts)

variable {δ : Type} [Document δ] {node : δ}

/-! ## Documents in object form -/

/-- The part under a name of a document in object form. -/
def Document.at? (node : δ) (name : String) : Option δ :=
  (Document.entries? node).bind (Table.get? name)

theorem Document.Parts.find?_eq_at? {names : List String} {name : String} {parts : Parts δ}
    (h : Parts.of? names node = some parts) (hobject : (Document.entries? node).isSome)
    (hname : name ∈ names) : parts.find? name = Document.at? node name := by
  obtain ⟨entries, hentries⟩ := Option.isSome_iff_exists.1 hobject
  obtain ⟨-, rfl⟩ := (Parts.of?_eq_some_iff hentries).1 h
  rw [Document.at?, hentries, Option.bind_some]
  exact Table.get?_filter_contains hname

theorem Document.isSome_entries?_of_at? {name : String} {child : δ}
    (h : Document.at? node name = some child) : (Document.entries? node).isSome := by
  obtain ⟨entries, hentries, -⟩ := Option.bind_eq_some_iff.1 h
  exact Option.isSome_of_eq_some hentries

/-! ## Parts of any shape -/

section

variable [LawfulDocument δ]

/-- The values are those of the document; null stands for none. -/
theorem InstanceSpec.values_of_decode? {s : InstanceSpec} (h : decode? node = some s)
    (hobject : (Document.entries? node).isSome) :
    s.values = ((Document.at? node "values").bind Document.json?).filter (· ≠ .null) := by
  unfold decode? at h
  simp only [Option.bind_eq_bind, Option.bind_eq_some_iff] at h
  obtain ⟨parts, hparts, _, -, values, hvalues, h⟩ := h
  cases h
  rw [Parts.optionalOrAbsent, Parts.withDefault,
    Parts.find?_eq_at? hparts hobject (by decide)] at hvalues
  -- the values are given, possibly as null, or they are absent
  split at hvalues
  next child hchild =>
    rw [LawfulDocument.optional_json?] at hvalues
    obtain ⟨v, hv, hfound⟩ := Option.map_eq_some_iff.1 hvalues
    rw [hchild, Option.bind_some, hv, ← hfound]
    by_cases hnull : v = .null <;> simp [hnull, Option.filter]
  next hnone =>
    cases hvalues
    rw [hnone]
    rfl

theorem Instance.values_of_decode? {x : Instance} (h : decode? node = some x) {spec : δ}
    (hspec : Document.at? node "spec" = some spec) (hobject : (Document.entries? spec).isSome) :
    x.spec.values = ((Document.at? spec "values").bind Document.json?).filter (· ≠ .null) := by
  unfold decode? at h
  simp only [Option.bind_eq_bind, Option.bind_eq_some_iff] at h
  obtain ⟨parts, hparts, _, -, _, hread, _, -, h⟩ := h
  cases h
  rw [Parts.required, Parts.find?_eq_at? hparts (Document.isSome_entries?_of_at? hspec) (by decide),
    hspec, Option.bind_some] at hread
  exact InstanceSpec.values_of_decode? hread hobject

/-- What is asked for is what the document has. -/
theorem HostedCluster.spec_of_decode? {x : HostedCluster} (h : decode? node = some x)
    (hobject : (Document.entries? node).isSome) :
    (Document.at? node "spec").bind Document.json? = some (.obj x.spec) := by
  unfold decode? at h
  simp only [Option.bind_eq_bind, Option.bind_eq_some_iff] at h
  obtain ⟨parts, hparts, _, -, _, hread, _, -, h⟩ := h
  cases h
  rw [Parts.required, Parts.find?_eq_at? hparts hobject (by decide)] at hread
  obtain ⟨spec, hspec, hmembers⟩ := Option.bind_eq_some_iff.1 hread
  rw [hspec, Option.bind_some]
  exact LawfulDocument.json?_of_members hmembers

end

theorem Json.at?_eq (v : Json) (name : String) : Document.at? v name = v.get? name := by
  cases v <;> rfl

theorem Instance.at?_spec (x : Instance) : Document.at? x.toJson "spec" = some x.spec.toJson := by
  rw [Json.at?_eq]
  simp [toJson, Json.resource]

theorem InstanceSpec.at?_values (s : InstanceSpec) : Document.at? s.toJson "values" = s.values := by
  rw [Json.at?_eq]
  simp [toJson]

theorem HostedCluster.at?_spec (x : HostedCluster) :
    Document.at? x.toJson "spec" = some (.obj x.spec) := by
  rw [Json.at?_eq]
  simp [toJson, Json.resource]

/-! ## Finalizers -/

/-- Edits of its finalizers leave an instance one that documents can express. -/
theorem Instance.Expressible.edited {x : Instance} (h : x.Expressible)
    (edits : List FinalizerEdit) : (x.edited edits).Expressible := by
  have hsame : x.edited edits = x.withFinalizers (x.edited edits).metadata.finalizers := by
    rw [← Instance.withFinalizers_edited x edits]
    rfl
  rw [hsame]
  obtain ⟨⟨hannotations, hgrace, hgeneration, hlabels, hmanagers⟩, hspec⟩ := h
  exact ⟨⟨hannotations, hgrace, hgeneration, hlabels, hmanagers⟩, hspec⟩

/-! ## Reading, writing and reading again -/

/-- Reading a resource and writing it back is stable: what is written is read as the same resource,
for each of the five. The values of an instance in object form are written as the document has
them, and not at all where it has none or null; so is all that a hosted cluster asks for. Edits of
the finalizers in between change neither. -/
theorem rewriting_is_stable [LawfulDocument δ] (node : δ) :
    (∀ x, Instance.decode? node = some x →
      Instance.decode? x.toJson = some x ∧
      (∀ spec, Document.at? node "spec" = some spec → (Document.entries? spec).isSome →
        (Document.at? x.toJson "spec").bind (Document.at? · "values") =
          ((Document.at? spec "values").bind Document.json?).filter (· ≠ .null)) ∧
      ∀ edits, Instance.decode? (x.edited edits).toJson = some (x.edited edits) ∧
        Document.at? (x.edited edits).toJson "spec" = Document.at? x.toJson "spec") ∧
    (∀ x, Template.decode? node = some x → Template.decode? x.toJson = some x) ∧
    (∀ x, Repository.decode? node = some x → Repository.decode? x.toJson = some x) ∧
    (∀ x, HostedCluster.decode? node = some x →
      HostedCluster.decode? x.toJson = some x ∧
      ((Document.entries? node).isSome →
        Document.at? x.toJson "spec" = (Document.at? node "spec").bind Document.json?)) ∧
    (∀ x, PipelineRun.decode? node = some x → PipelineRun.decode? x.toJson = some x) := by
  refine ⟨fun x h => ⟨?_, ?_, ?_⟩, fun x h => ?_, fun x h => ?_, fun x h => ⟨?_, ?_⟩, fun x h => ?_⟩
  · exact Instance.decode?_toJson (Instance.expressible_of_decode? h)
  · intro spec hspec hobject
    rw [Instance.at?_spec, Option.bind_some, InstanceSpec.at?_values]
    exact Instance.values_of_decode? h hspec hobject
  · intro edits
    have hexpressible := (Instance.expressible_of_decode? h).edited edits
    refine ⟨Instance.decode?_toJson hexpressible, ?_⟩
    -- edits leave all but the finalizers, so the specification is the same
    have hspec : (x.edited edits).spec = x.spec := by
      show ((x.edited edits).withFinalizers none).spec = _
      rw [Instance.withFinalizers_edited]
      rfl
    rw [Instance.at?_spec, Instance.at?_spec, hspec]
  · exact Template.decode?_toJson (Template.expressible_of_decode? h)
  · exact Repository.decode?_toJson (Repository.expressible_of_decode? h)
  · exact HostedCluster.decode?_toJson (HostedCluster.expressible_of_decode? h)
  · intro hobject
    rw [HostedCluster.at?_spec]
    exact (HostedCluster.spec_of_decode? h hobject).symm
  · exact PipelineRun.decode?_toJson (PipelineRun.expressible_of_decode? h)

namespace Sample

/-- What a text says an instance asks for, with a null inside the values and a part that the type
does not know. -/
def givenSpec : JsonNode :=
  ⟨.obj [
    (some "values", .obj [
      (some "zones", .arr [.null, .obj [(some "id", .num ⟨true, [7], none, none⟩)]]),
      (some "ha", .bool true)]),
    (some "template", .str "small"),
    (some "owner", .str "staff")], 126⟩

/-- The text of an instance that another controller keeps. -/
def givenInstance : JsonNode :=
  ⟨.obj [
    (some "metadata", .obj [(some "finalizers", .arr [.str "audit"]), (some "labels", .null)]),
    (some "spec", givenSpec.source)], 127⟩

/-- What is read of it. -/
def readInstance : Instance where
  metadata := { finalizers := some ["audit"] }
  spec := ⟨"small", some (.obj [("ha", .bool true),
    ("zones", .arr [.null, .obj [("id", .ofInt (-7))]])])⟩
  status := none

/-- The text of a hosted cluster. -/
def givenCluster : JsonNode :=
  ⟨.obj [
    (some "spec", .obj [(some "pausedUntil", .null), (some "ports", .arr [.arr []])]),
    (some "metadata", .obj [(some "name", .str "demo")])], 127⟩

/-- What is read of it. -/
def readCluster : HostedCluster where
  metadata := { name := some "demo" }
  spec := [("pausedUntil", .null), ("ports", .arr [.arr []])]
  status := none

/-- Both are read, and the one is written with all its values, also with a finalizer more, the other
with all that it asks for. What is written with the finalizer is edited again, and read as it was
without. -/
theorem given_are_rewritten :
    Instance.decode? givenInstance = some readInstance ∧
    Instance.decode? readInstance.toJson = some readInstance ∧
    (Document.at? readInstance.toJson "spec").bind (Document.at? · "values") = some (.obj
      [("ha", .bool true), ("zones", .arr [.null, .obj [("id", .ofInt (-7))]])]) ∧
    Instance.decode? (readInstance.edited [.add "operator"]).toJson =
      some (readInstance.withFinalizers (some ["audit", "operator"])) ∧
    Instance.decode? ((readInstance.withFinalizers (some ["audit", "operator"])).edited
      [.remove "operator"]).toJson = some readInstance ∧
    HostedCluster.decode? givenCluster = some readCluster ∧
    HostedCluster.decode? readCluster.toJson = some readCluster ∧
    Document.at? readCluster.toJson "spec" =
      some (.obj [("pausedUntil", .null), ("ports", .arr [.arr []])]) := by
  have hinstance : Instance.decode? givenInstance = some readInstance := by decide
  have hcluster : HostedCluster.decode? givenCluster = some readCluster := by decide
  obtain ⟨hstable, hvalues, hedited⟩ := (rewriting_is_stable givenInstance).1 readInstance hinstance
  obtain ⟨hagain, hspec⟩ := (rewriting_is_stable givenCluster).2.2.2.1 readCluster hcluster
  have hadded : Instance.decode?
      (readInstance.withFinalizers (some ["audit", "operator"])).toJson =
        some (readInstance.withFinalizers (some ["audit", "operator"])) :=
    (hedited [.add "operator"]).1
  obtain ⟨-, -, hreedited⟩ := (rewriting_is_stable
    (readInstance.withFinalizers (some ["audit", "operator"])).toJson).1 _ hadded
  refine ⟨hinstance, hstable, ?_, hadded, (hreedited [.remove "operator"]).1, hcluster, hagain, ?_⟩
  · rw [hvalues givenSpec rfl rfl]
    decide
  · rw [hspec rfl]
    decide

end Sample

end ClusterLifecycle
