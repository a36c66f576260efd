import ClusterLifecycle.Proofs.Yaml.Places
import Mathlib.Data.List.Forall2

/-!
# What trees mean

A tree means itself, with every alias replaced by what the node that it refers to means. What is
read at a place depends on nothing but its meaning: two places that mean the same are the same
scalar (`Means.isScalar_iff`), or records whose entries mean the same (`Means.exists_named`,
`Means.exists_entries`), whatever the anchors around them are.
-/

namespace ClusterLifecycle.Yaml

/-! ## Meanings -/

mutual

/-- The first tree means the second one, which has no aliases. -/
inductive Tree.Means (anchors : Anchors) : (tree meant : Tree) → Prop where
  | scalar (tag : Option String) (style : Style) (text : String) :
      Means anchors (.scalar tag style text) (.scalar tag style text)
  | sequence (tag : Option String) {items meant : List Tree}
      (each : MeanItems anchors items meant) :
      Means anchors (.sequence tag items) (.sequence tag meant)
  | mapping (tag : Option String) {entries meant : List (Tree × Tree)}
      (each : MeanEntries anchors entries meant) :
      Means anchors (.mapping tag entries) (.mapping tag meant)
  /-- An alias refers to a node, and not to another alias. -/
  | reference {number : Nat} {tree meant : Tree} (found : anchors.find? number = some tree)
      (direct : ∀ other, tree ≠ .alias other) (means : Means anchors tree meant) :
      Means anchors (.alias number) meant

/-- The items mean the others. -/
inductive Tree.MeanItems (anchors : Anchors) : (items meant : List Tree) → Prop where
  | nil : MeanItems anchors [] []
  | cons {item m : Tree} {items meant : List Tree} (head : Means anchors item m)
      (rest : MeanItems anchors items meant) : MeanItems anchors (item :: items) (m :: meant)

/-- The entries mean the others. -/
inductive Tree.MeanEntries (anchors : Anchors) : (entries meant : List (Tree × Tree)) → Prop where
  | nil : MeanEntries anchors [] []
  | cons {entry m : Tree × Tree} {entries meant : List (Tree × Tree)}
      (key : Means anchors entry.1 m.1) (value : Means anchors entry.2 m.2)
      (rest : MeanEntries anchors entries meant) :
      MeanEntries anchors (entry :: entries) (m :: meant)

end

/-- The keys of the entries are texts, under which the others have the same values. -/
def Tree.Named (entries : List (Tree × Tree)) (named : List (String × Tree)) : Prop :=
  List.Forall₂ (fun e n => (∃ tag style, e.1 = .scalar tag style n.1) ∧ e.2 = n.2) entries named

/-- The tree is a mapping with the entries; one without entries may be left out. -/
inductive Tree.Holds : (tree : Tree) → List (String × Tree) → Prop where
  | mapping {tag : Option String} {entries : List (Tree × Tree)} {named : List (String × Tree)}
      (names : Tree.Named entries named) : Holds (.mapping tag entries) named
  | leftOut (tag : Option String) : Holds (.scalar tag .plain "") []

namespace Place

variable {p : Place} {m : Tree} {depth : Nat}

/-- The node at the place, where so many collections may be nested, means the tree. -/
def Means (p : Place) (depth : Nat) (m : Tree) : Prop :=
  p.depth = depth ∧ ∃ t, p.tree = some t ∧ t.Means p.anchors m

/-- The entries have the names and meanings of the others. -/
def Mean (depth : Nat) (entries : List (String × Place)) (meant : List (String × Tree)) : Prop :=
  List.Forall₂ (fun e m => e.1 = m.1 ∧ e.2.Means depth m.2) entries meant

/-! ## Scalars -/

theorem Means.exists_follow (h : p.Means depth m) :
    ∃ t, p.follow? = some (some t) ∧ t.Means p.anchors m ∧ ∀ number, t ≠ .alias number := by
  obtain ⟨-, t, ht, hmeans⟩ := h
  cases hmeans with
  | scalar tag style text => exact ⟨_, by simp [follow?, ht], .scalar .., by simp⟩
  | sequence tag each => exact ⟨_, by simp [follow?, ht], .sequence tag each, by simp⟩
  | mapping tag each => exact ⟨_, by simp [follow?, ht], .mapping tag each, by simp⟩
  | reference found direct means => exact ⟨_, by simp [follow?, ht, found], means, direct⟩

theorem Means.isScalar_iff {tag : Option String} {style : Style} {s : String}
    (h : p.Means depth m) : p.IsScalar tag style s ↔ m = .scalar tag style s := by
  obtain ⟨t, hfollow, hmeans, direct⟩ := h.exists_follow
  unfold IsScalar
  rw [hfollow]
  cases hmeans with
  | scalar => simp
  | sequence | mapping => simp
  | reference => exact absurd rfl (direct _)

theorem Means.isText_iff {s : String} (h : p.Means depth m) :
    p.IsText s ↔ ∃ tag style, m = .scalar tag style s := by
  simp only [IsText, h.isScalar_iff]

/-! ## Entries -/

theorem means_inside {t : Tree} (hdepth : p.depth = depth + 1) (h : t.Means p.anchors m) :
    (p.inside t).Means depth m :=
  ⟨by simp [inside, hdepth], t, rfl, h⟩

/-- The reading of an entry: its key is a scalar, and its value is one level deeper. -/
theorem readEntry_eq_some_iff {key value : Tree} {entry : String × Place} :
    (p.inside key).text?.map (·, p.inside value) = some entry ↔
      (p.inside key).IsText entry.1 ∧ entry.2 = p.inside value := by
  obtain ⟨name, place⟩ := entry
  rw [Option.map_eq_some_iff]
  constructor
  · rintro ⟨s, hs, h⟩
    cases h
    exact ⟨text?_eq_some_iff.1 hs, rfl⟩
  · rintro ⟨hs, rfl⟩
    exact ⟨name, text?_eq_some_iff.2 hs, rfl⟩

theorem exists_named_of_mapM {trees meant : List (Tree × Tree)} {entries : List (String × Place)}
    (hdepth : p.depth = depth + 1) (h : Tree.MeanEntries p.anchors trees meant)
    (hread : trees.mapM (fun t => (p.inside t.1).text?.map (·, p.inside t.2)) = some entries) :
    ∃ named, Tree.Named meant named ∧ Mean depth entries named := by
  -- entry by entry: its name is a text with and without aliases
  induction trees generalizing meant entries with
  | nil =>
      cases h
      cases hread
      exact ⟨[], .nil, .nil⟩
  | cons tree trees ih =>
      cases h with
      | @cons _ m _ meant key value rest =>
          simp only [List.mapM_cons, Option.bind_eq_bind, Option.bind_eq_some_iff] at hread
          obtain ⟨entry, hentry, others, hothers, hentries⟩ := hread
          cases hentries
          obtain ⟨htext, hplace⟩ := readEntry_eq_some_iff.1 hentry
          obtain ⟨named, hnamed, hmean⟩ := ih rest hothers
          exact ⟨(entry.1, m.2) :: named,
            .cons ⟨(means_inside hdepth key).isText_iff.1 htext, rfl⟩ hnamed,
            .cons ⟨rfl, hplace ▸ means_inside hdepth value⟩ hmean⟩

theorem exists_mapM_of_named {trees meant : List (Tree × Tree)} {named : List (String × Tree)}
    (hdepth : p.depth = depth + 1) (h : Tree.MeanEntries p.anchors trees meant)
    (hnamed : Tree.Named meant named) :
    ∃ entries, trees.mapM (fun t => (p.inside t.1).text?.map (·, p.inside t.2)) = some entries ∧
      Mean depth entries named := by
  -- entry by entry, the other way round
  induction trees generalizing meant named with
  | nil =>
      cases h
      cases hnamed
      exact ⟨[], rfl, .nil⟩
  | cons tree trees ih =>
      cases h with
      | cons key value rest =>
          cases hnamed with
          | @cons _ n _ named hname hothers =>
              obtain ⟨entries, hentries, hmean⟩ := ih rest hothers
              have hentry : (p.inside tree.1).text?.map (·, p.inside tree.2) =
                  some (n.1, p.inside tree.2) :=
                readEntry_eq_some_iff.2 ⟨(means_inside hdepth key).isText_iff.2 hname.1, rfl⟩
              refine ⟨(n.1, p.inside tree.2) :: entries, ?_, .cons ⟨rfl, ?_⟩ hmean⟩
              · rw [List.mapM_cons, hentry, hentries]
                rfl
              · exact hname.2 ▸ means_inside hdepth value

theorem entries?_of_mapping {tag : Option String} {trees : List (Tree × Tree)}
    (hdepth : p.depth = depth + 1) (h : p.follow? = some (some (.mapping tag trees))) :
    p.entries? = trees.mapM (fun t => (p.inside t.1).text?.map (·, p.inside t.2)) := by
  simp [entries?, h, hdepth]

/-- Entries that are there mean something. -/
theorem Means.exists_named {entries : List (String × Place)} (h : p.Means (depth + 1) m)
    (hentries : p.entries? = some entries) : ∃ named, m.Holds named ∧ Mean depth entries named := by
  obtain ⟨t, hfollow, hmeans, direct⟩ := h.exists_follow
  -- entries are those of a mapping, or none if the value was left out
  cases hmeans with
  | scalar tag style text =>
      by_cases hleft : style = .plain ∧ text = ""
      · obtain ⟨rfl, rfl⟩ := hleft
        simp only [entries?, hfollow, isLeftOut] at hentries
        cases hentries
        exact ⟨[], .leftOut tag, .nil⟩
      · have hnone : p.entries? = none := by simpa [entries?, hfollow, isLeftOut] using hleft
        rw [hnone] at hentries
        cases hentries
  | sequence tag each => simp [entries?, hfollow, isLeftOut] at hentries
  | mapping tag each =>
      rw [entries?_of_mapping h.1 hfollow] at hentries
      obtain ⟨named, hnamed, hmean⟩ := exists_named_of_mapM h.1 each hentries
      exact ⟨named, .mapping hnamed, hmean⟩
  | reference => exact absurd rfl (direct _)

/-- Entries that are meant are there. -/
theorem Means.exists_entries {named : List (String × Tree)} (h : p.Means (depth + 1) m)
    (hholds : m.Holds named) : ∃ entries, p.entries? = some entries ∧ Mean depth entries named := by
  obtain ⟨t, hfollow, hmeans, direct⟩ := h.exists_follow
  cases hmeans with
  | scalar tag style text =>
      cases hholds
      exact ⟨[], by simp [entries?, hfollow, isLeftOut], .nil⟩
  | sequence tag each => cases hholds
  | mapping tag each =>
      cases hholds with
      | mapping names =>
          obtain ⟨entries, hentries, hmean⟩ := exists_mapM_of_named h.1 each names
          exact ⟨entries, (entries?_of_mapping h.1 hfollow).trans hentries, hmean⟩
  | reference => exact absurd rfl (direct _)

/-! ## Values under names -/

variable {entries : List (String × Place)} {named : List (String × Tree)}

theorem Mean.names_eq (h : Mean depth entries named) : entries.map (·.1) = named.map (·.1) := by
  induction h with
  | nil => rfl
  | cons head _ ih => simp [head.1, ih]

theorem Mean.exists_tree {name : String} (h : Mean depth entries named)
    (hmem : (name, p) ∈ entries) : ∃ m, (name, m) ∈ named ∧ p.Means depth m := by
  induction h with
  | nil => cases hmem
  | cons head _ ih =>
      rcases List.mem_cons.1 hmem with rfl | hmem
      · exact ⟨_, List.mem_cons.2 (.inl (Prod.ext head.1 rfl)), head.2⟩
      · obtain ⟨m, hm, hmeans⟩ := ih hmem
        exact ⟨m, .tail _ hm, hmeans⟩

theorem Mean.exists_place {name : String} (h : Mean depth entries named)
    (hmem : (name, m) ∈ named) : ∃ p, (name, p) ∈ entries ∧ p.Means depth m := by
  induction h with
  | nil => cases hmem
  | cons head _ ih =>
      rcases List.mem_cons.1 hmem with rfl | hmem
      · exact ⟨_, List.mem_cons.2 (.inl (Prod.ext head.1.symm rfl)), head.2⟩
      · obtain ⟨p, hp, hmeans⟩ := ih hmem
        exact ⟨p, .tail _ hp, hmeans⟩

/-- The places read the same values wherever they mean the same. -/
def ReadsMeaning {α : Type} (depth : Nat) (reads : Place → α → Prop) : Prop :=
  ∀ {p q : Place} {m : Tree} {value : α}, p.Means depth m → q.Means depth m → reads p value →
    reads q value

/-- What entries state under a name is settled by what is meant under it. -/
theorem Mean.states {α : Type} {name : String} {reads : Place → α → Prop} {default value : α}
    {others : List (String × Place)} {otherNamed : List (String × Tree)}
    (h : Mean depth entries named) (h' : Mean depth others otherNamed)
    (hreads : ReadsMeaning depth reads)
    (hname : ∀ m, (name, m) ∈ named ↔ (name, m) ∈ otherNamed)
    (hstates : States entries name reads default value) :
    States others name reads default value := by
  rcases hstates with ⟨p, hp, hread⟩ | ⟨habsent, rfl⟩
  · obtain ⟨m, hm, hmeans⟩ := h.exists_tree hp
    obtain ⟨q, hq, hmeans'⟩ := h'.exists_place ((hname m).1 hm)
    exact .inl ⟨q, hq, hreads hmeans hmeans' hread⟩
  · -- a place under the name here would have one with the same meaning there
    refine .inr ⟨fun q hq => ?_, rfl⟩
    obtain ⟨m, hm, -⟩ := h'.exists_tree hq
    obtain ⟨p, hp, -⟩ := h.exists_place ((hname m).2 hm)
    exact habsent p hp

/-- A value that is meant under a name is stated there. -/
theorem Mean.states_of_mem {α : Type} {name : String} {reads : Place → α → Prop}
    {default value : α} (h : Mean depth entries named) (hmem : (name, m) ∈ named)
    (hreads : ∀ {q : Place}, q.Means depth m → reads q value) :
    States entries name reads default value := by
  obtain ⟨q, hq, hmeans⟩ := h.exists_place hmem
  exact .inl ⟨q, hq, hreads hmeans⟩

theorem readsMeaning_isText : ReadsMeaning depth IsText := by
  rintro p q m s hp hq ⟨tag, style, h⟩
  exact ⟨tag, style, hq.isScalar_iff.2 (hp.isScalar_iff.1 h)⟩

theorem readsMeaning_isNumber : ReadsMeaning depth IsNumber := by
  rintro p q m n hp hq ⟨tag, style, s, h, hnumber⟩
  exact ⟨tag, style, s, hq.isScalar_iff.2 (hp.isScalar_iff.1 h), hnumber⟩

/-- Records that mean the same have entries that mean the same. -/
theorem IsRecord.exists_of_means {q : Place} {names : List String} (hp : p.Means (depth + 1) m)
    (hq : q.Means (depth + 1) m) (h : p.IsRecord names entries) :
    ∃ others named, q.IsRecord names others ∧ Mean depth entries named ∧
      Mean depth others named := by
  obtain ⟨hentries, hknown⟩ := h
  obtain ⟨named, hholds, hmean⟩ := hp.exists_named hentries
  obtain ⟨others, hothers, hmean'⟩ := hq.exists_entries hholds
  have hnames : others.map (·.1) = entries.map (·.1) := hmean'.names_eq.trans hmean.names_eq.symm
  exact ⟨others, named, ⟨hothers, hknown.of_names_eq hnames⟩, hmean, hmean'⟩

end Place

end ClusterLifecycle.Yaml
