import ClusterLifecycle.Proofs.Store.Address
import ClusterLifecycle.World.Answer

/-!
# The place of one instance

What the API server keeps under one key. Every accepted write gives the instance a version that was
never given before, so whoever has an instance from the server can tell by its version whether it is
still the stored one.

Main statements: `Slot.Puts.overtaken` and `Slot.Puts.knows`. An instance from the server is the
stored one as long as the versions agree, whatever is written in between.
-/

namespace ClusterLifecycle.Store

variable {key : Key} {i j k : Instance}

/-! ## Names -/

/-- Whether an instance has the name and namespace of a key. -/
def Named (key : Key) (i : Instance) : Prop :=
  i.metadata.name = some key.name ∧ i.metadata.namespaceName = some key.space

theorem Named.name_eq (h : Named key i) : i.name = key.name := by
  simp [Instance.name, Metadata.displayName, h.1]

theorem Named.namespaceName_eq (h : Named key i) : i.namespaceName = key.space := by
  simp [Instance.namespaceName, Metadata.namespaceOrEmpty, h.2]

theorem Named.keyOf_eq (h : Named key i) : World.keyOf i = key := by
  rw [World.keyOf, h.name_eq, h.namespaceName_eq]

theorem Named.withVersion (h : Named key i) (v : String) : Named key (World.withVersion i v) :=
  h

/-! ## Slots -/

/-- What is stored under a key, with the versions that were given so far. -/
structure Slot (key : Key) where
  stored : Option Instance
  issued : List String
  admitted : ∀ i, stored = some i → Admits key
  named : ∀ i, stored = some i → Named key i
  versioned : ∀ i, stored = some i → ∃ v ∈ issued, i.metadata.resourceVersion = some v

namespace Slot

variable {s s' : Slot key}

/-- An instance is stored with a new version, as `j`, or taken away if nothing keeps it. -/
def Puts (s : Slot key) (i j : Instance) (s' : Slot key) : Prop :=
  ∃ v, v ∉ s.issued ∧ Named key i ∧ j = World.withVersion i v ∧
    s'.stored = (if World.isReleased j then none else some j) ∧ s'.issued = v :: s.issued

/-- The instance comes from the server: its version was given to it and to no other instance. -/
structure Knows (s : Slot key) (i : Instance) : Prop where
  named : Named key i
  versioned : ∃ v ∈ s.issued, i.metadata.resourceVersion = some v
  current : ∀ j, s.stored = some j → j.metadata.resourceVersion = i.metadata.resourceVersion →
    j = i

/-- If an instance is stored, it has another version than this one. -/
def Overtaken (s : Slot key) (i : Instance) : Prop :=
  ∀ j, s.stored = some j → j.metadata.resourceVersion ≠ i.metadata.resourceVersion

theorem knows_of_stored (h : s.stored = some i) : s.Knows i where
  named := s.named i h
  versioned := s.versioned i h
  current := by
    intro j hj _
    rw [h, Option.some.injEq] at hj
    exact hj.symm

/-! ## Writing -/

theorem Puts.stored_of_finalizers (h : s.Puts i j s') (hi : i.finalizers ≠ []) :
    s'.stored = some j := by
  obtain ⟨v, -, -, rfl, hstored, -⟩ := h
  have hreleased : World.isReleased (World.withVersion i v) = false := by
    cases hfinalizers : i.finalizers with
    | nil => exact absurd hfinalizers hi
    | cons f rest =>
        have hcons : (World.withVersion i v).finalizers = f :: rest := hfinalizers
        simp [World.isReleased, hcons]
  rw [hstored, hreleased]
  rfl

theorem Puts.stored_eq (h : s.Puts i j s') : s'.stored = none ∨ s'.stored = some j := by
  obtain ⟨v, -, -, -, hstored, -⟩ := h
  rw [hstored]
  split
  · exact .inl rfl
  · exact .inr rfl

theorem Puts.status_eq (h : s.Puts i j s') : j.status = i.status := by
  obtain ⟨v, -, -, rfl, -⟩ := h
  rfl

theorem Puts.finalizers_eq (h : s.Puts i j s') : j.finalizers = i.finalizers := by
  obtain ⟨v, -, -, rfl, -⟩ := h
  rfl

/-- The server gives the instance back that it stored. -/
theorem Puts.knows_new (h : s.Puts i j s') : s'.Knows j := by
  obtain ⟨v, hfresh, hnamed, rfl, hstored, hissued⟩ := h
  refine ⟨hnamed.withVersion v, ⟨v, ?_, rfl⟩, ?_⟩
  · rw [hissued]
    exact List.mem_cons_self
  · intro k hk _
    rw [hstored] at hk
    split at hk
    · exact absurd hk (by simp)
    · exact (Option.some.inj hk).symm

/-- A write gives a version that nobody has yet. -/
theorem Puts.overtaken (h : s.Puts i j s') (hk : s.Knows k) : s'.Overtaken k := by
  obtain ⟨v, hfresh, hnamed, rfl, hstored, hissued⟩ := h
  obtain ⟨w, hw, hversion⟩ := hk.versioned
  intro l hl heq
  rw [hstored] at hl
  split at hl
  · exact absurd hl (by simp)
  · -- the new version is fresh, and that of `k` was given before
    have hl' : World.withVersion i v = l := Option.some.inj hl
    rw [← hl', hversion] at heq
    have hvw : v = w := Option.some.inj heq
    exact hfresh (hvw ▸ hw)

theorem Puts.knows (h : s.Puts i j s') (hk : s.Knows k) : s'.Knows k where
  named := hk.named
  versioned := by
    obtain ⟨v, -, -, -, -, hissued⟩ := h
    obtain ⟨w, hw, hversion⟩ := hk.versioned
    refine ⟨w, ?_, hversion⟩
    rw [hissued]
    exact List.mem_cons_of_mem v hw
  -- what is stored now has another version, so nothing is claimed about it
  current := fun l hl heq => absurd heq (h.overtaken hk l hl)

end Slot

end ClusterLifecycle.Store
