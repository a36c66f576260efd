import ClusterLifecycle.CommandLine.Execution
import ClusterLifecycle.Proofs.Config.Agreement
import ClusterLifecycle.Proofs.Utf8
import ClusterLifecycle.Proofs.Yaml.Sections

/-!
# Showing and loading

What is shown of a configuration that was loaded is a file that states all its settings. Loaded
again, with the overrides of the environment or with none, it gives the same configuration: a
setting that was overridden is stated as what it was overridden by, and a namespace that was taken
away is not stated.

Main statement: `shown_config_loads`.
-/

namespace ClusterLifecycle

open Yaml (Outline Place Tree styleOf)

/-! ## Trees of outlines -/

namespace Yaml.Outline

variable {anchors : Anchors}

theorem meanEntries_entryTrees {entries : List (String × Outline)}
    (h : ∀ e ∈ entries, e.2.tree.Means anchors e.2.tree) :
    Tree.MeanEntries anchors (entryTrees entries) (entryTrees entries) := by
  induction entries with
  | nil =>
      rw [entryTrees]
      exact .nil
  | cons entry entries ih =>
      obtain ⟨name, value⟩ := entry
      obtain ⟨hvalue, hrest⟩ := List.forall_mem_cons.1 h
      rw [entryTrees]
      exact .cons (.scalar ..) hvalue (ih hrest)

/-- The tree of settings has no aliases. -/
theorem IsSettings.means_tree {o : Outline} (h : o.IsSettings) : o.tree.Means anchors o.tree := by
  induction h with
  | nat n =>
      rw [tree]
      exact .scalar ..
  | text s =>
      rw [tree]
      exact .scalar ..
  | mapping _ _ _ ih =>
      rw [tree]
      exact .mapping none (meanEntries_entryTrees ih)

/-- The tree of a mapping holds the trees of its values under their names. -/
theorem holds_tree (entries : List (String × Outline)) :
    (mapping entries).tree.Holds (entries.map fun e => (e.1, e.2.tree)) := by
  rw [tree]
  refine .mapping ?_
  induction entries with
  | nil =>
      rw [entryTrees]
      exact .nil
  | cons entry entries ih =>
      rw [entryTrees]
      exact .cons ⟨⟨none, .plain, rfl⟩, rfl⟩ ih

end Yaml.Outline

namespace Config

/-! ## What is shown -/

theorem isName_setting : ∀ key ∈ settings ++ ["binary", "timeoutSecs", "transientSecs",
    "missingReferenceSecs"], Yaml.IsName key := by
  decide +kernel

theorem names_shownEntries (c : Config) :
    c.shownEntries.map (·.1) = settings.filter fun name =>
      name ≠ "watchNamespace" || c.watchNamespace.isSome := by
  unfold shownEntries
  cases c.watchNamespace <;> simp [settings]

/-- Only known settings are shown, each of them once. -/
theorem areKnown_shownEntries (c : Config) : AreKnown settings c.shownEntries := by
  have hnodup : settings.Nodup := by decide
  refine ⟨fun entry hentry => ?_, ?_⟩
  · have hname : entry.1 ∈ c.shownEntries.map (·.1) := List.mem_map_of_mem hentry
    rw [names_shownEntries] at hname
    exact (List.mem_filter.1 hname).1
  · rw [names_shownEntries]
    exact hnodup.filter _

theorem isSettings_outline (c : Config) : c.outline.IsSettings := by
  have hsection {entries : List (String × Outline)} (hne : entries ≠ [])
      (hnames : ∀ e ∈ entries, e.1 ∈ settings ++ ["binary", "timeoutSecs", "transientSecs",
        "missingReferenceSecs"]) (hvalues : ∀ e ∈ entries, e.2.IsSettings) :
      (Outline.mapping entries).IsSettings :=
    .mapping hne (fun e he => isName_setting e.1 (hnames e he)) hvalues
  have hinstaller : (Outline.mapping (installerEntries c.installer)).IsSettings :=
    hsection (by simp [installerEntries]) (by simp [installerEntries])
      (by simp [installerEntries, Outline.IsSettings.nat, Outline.IsSettings.text])
  have hindex : (Outline.mapping [("timeoutSecs", .nat c.indexTimeout)]).IsSettings :=
    hsection (by simp) (by simp) (by simp [Outline.IsSettings.nat])
  have hretry : (Outline.mapping (retryEntries c.retry)).IsSettings :=
    hsection (by simp [retryEntries]) (by simp [retryEntries])
      (by simp [retryEntries, Outline.IsSettings.nat])
  rw [outline]
  refine hsection (by simp [shownEntries]) (fun e he => ?_) fun e he => ?_
  · exact List.mem_append_left _ ((areKnown_shownEntries c).1 e he)
  -- the namespace is shown only if there is one, the other entries always are
  · rcases List.mem_append.1 he with he | he
    · obtain ⟨space, -, rfl⟩ : ∃ space, c.watchNamespace = some space ∧
          ("watchNamespace", Outline.text space) = e := by simpa using he
      exact .text space
    · simp only [List.mem_cons, List.not_mem_nil, or_false] at he
      rcases he with rfl | rfl | rfl | rfl | rfl
      · exact .nat _
      · exact .text _
      · exact hinstaller
      · exact hindex
      · exact hretry

/-! ## What the shown settings state -/

/-- The numbers of a configuration have 64 bits. -/
structure Fits (c : Config) : Prop where
  requeueAfter : c.passes.requeueAfter < 2 ^ 64
  timeout : c.installer.timeout < 2 ^ 64
  indexTimeout : c.indexTimeout < 2 ^ 64
  transient : c.retry.transient < 2 ^ 64
  missingReference : c.retry.missingReference < 2 ^ 64

section

variable {p : Place} {depth n : Nat} {s : String}

theorem isNumber_of_shown (hlt : n < 2 ^ 64) (hp : p.Means depth (Outline.nat n).tree) :
    p.IsNumber n := by
  rw [Outline.tree] at hp
  refine ⟨_, _, _, hp.isScalar_iff.2 rfl, rfl, ?_, hlt⟩
  rcases Nat.eq_zero_or_pos n with rfl | hpos
  · decide +kernel
  · exact Place.unsigned?_text hpos

theorem isText_of_shown (hp : p.Means depth (Outline.text s).tree) : p.IsText s := by
  rw [Outline.tree] at hp
  exact hp.isText_iff.2 ⟨_, _, rfl⟩

/-- A text that means null where it is plain is not written plain. -/
theorem isOptionalText_of_shown (hp : p.Means depth (Outline.text s).tree) :
    p.IsOptionalText (some s) := by
  rw [Outline.tree] at hp
  refine ⟨_, _, hp.isScalar_iff.2 rfl, ?_, by simp⟩
  rintro ⟨hstyle, ⟨-, hnull⟩ | ⟨htag, -⟩⟩
  · have hform : Yaml.Printer.formOf false s = .plain := by
      unfold styleOf at hstyle
      split at hstyle
      next hform => exact hform
      all_goals cases hstyle
    obtain ⟨hitself, -⟩ := Yaml.formOf_plain hform
    have hvoid : (s.isEmpty || Yaml.Scalar.isNullWord s) = true := by
      rcases hnull with rfl | hword
      · rfl
      · rw [hword, Bool.or_true]
    simp [Yaml.Printer.isItself, Yaml.Scalar.ofPlain?, hvoid] at hitself
  · cases htag

end

/-- The entries as they are read. -/
def treesOf (entries : List (String × Outline)) : List (String × Tree) :=
  entries.map fun e => (e.1, e.2.tree)

theorem names_treesOf (entries : List (String × Outline)) :
    (treesOf entries).map (·.1) = entries.map (·.1) := by
  simp [treesOf]

theorem mem_treesOf {entries : List (String × Outline)} {name : String} {value : Outline}
    (h : (name, value) ∈ entries) : (name, value.tree) ∈ treesOf entries :=
  List.mem_map.2 ⟨_, h, rfl⟩

section

variable {p : Place} {names : List String} {shown : List (String × Outline)}

/-- A section that is shown is a record of what is shown in it. -/
theorem exists_isRecord_of_shown (hp : p.Means 127 (Outline.mapping shown).tree)
    (hknown : AreKnown names shown) :
    ∃ entries, p.IsRecord names entries ∧ Place.Mean 126 entries (treesOf shown) := by
  obtain ⟨entries, hentries, hmean⟩ := hp.exists_entries (Outline.holds_tree shown)
  have hnames := hmean.names_eq.trans (names_treesOf shown)
  exact ⟨entries, ⟨hentries, hknown.of_names_eq hnames⟩, hmean⟩

theorem statesInstaller_of_shown {s : Installer.Settings} (hlt : s.timeout < 2 ^ 64)
    (hp : p.Means 127 (Outline.mapping (installerEntries s)).tree) : StatesInstaller p s := by
  obtain ⟨entries, hrecord, hmean⟩ :=
    exists_isRecord_of_shown hp (show AreKnown ["binary", "timeoutSecs"] _ by
      simp [AreKnown, installerEntries])
  refine ⟨entries, hrecord, ?_, ?_⟩
  · exact hmean.states_of_mem (mem_treesOf (by simp [installerEntries])) isText_of_shown
  · exact hmean.states_of_mem (mem_treesOf (by simp [installerEntries])) (isNumber_of_shown hlt)

theorem statesIndexTimeout_of_shown {timeout : Nat} (hlt : timeout < 2 ^ 64)
    (hp : p.Means 127 (Outline.mapping [("timeoutSecs", .nat timeout)]).tree) :
    StatesIndexTimeout p timeout := by
  obtain ⟨entries, hrecord, hmean⟩ :=
    exists_isRecord_of_shown hp (show AreKnown ["timeoutSecs"] _ by simp [AreKnown])
  exact ⟨entries, hrecord, hmean.states_of_mem (mem_treesOf (by simp)) (isNumber_of_shown hlt)⟩

theorem statesRetry_of_shown {r : RetryPolicy} (htransient : r.transient < 2 ^ 64)
    (hmissing : r.missingReference < 2 ^ 64)
    (hp : p.Means 127 (Outline.mapping (retryEntries r)).tree) : StatesRetry p r := by
  obtain ⟨entries, hrecord, hmean⟩ :=
    exists_isRecord_of_shown hp (show AreKnown ["transientSecs", "missingReferenceSecs"] _ by
      simp [AreKnown, retryEntries])
  refine ⟨entries, hrecord, ?_, ?_⟩
  · exact hmean.states_of_mem (mem_treesOf (by simp [retryEntries])) (isNumber_of_shown htransient)
  · exact hmean.states_of_mem (mem_treesOf (by simp [retryEntries])) (isNumber_of_shown hmissing)

end

section

variable {c : Config} {entries : List (String × Place)}

/-- The settings that are shown state the configuration. -/
theorem stated_of_shown (hfits : c.Fits) (hmean : Place.Mean 127 entries (treesOf c.shownEntries)) :
    AreKnown settings entries ∧ Stated entries c := by
  have hnames := hmean.names_eq.trans (names_treesOf c.shownEntries)
  have hmem {name : String} {value : Outline} {rest : List (String × Outline)}
      (h : (name, value) ∈ rest)
      (hrest : c.shownEntries =
        (c.watchNamespace.map fun space => ("watchNamespace", Outline.text space)).toList ++ rest) :
      (name, value.tree) ∈ treesOf c.shownEntries :=
    mem_treesOf (by rw [hrest]; exact List.mem_append_right _ h)
  refine ⟨(areKnown_shownEntries c).of_names_eq hnames, ?_, ?_, ?_, ?_, ?_, ?_⟩
  · cases hspace : c.watchNamespace with
    | none =>
        -- no other setting has its name
        refine .inr ⟨fun q hq => ?_, rfl⟩
        obtain ⟨m, hm, -⟩ := hmean.exists_tree hq
        have hname : "watchNamespace" ∈ c.shownEntries.map (·.1) := by
          rw [← names_treesOf]
          exact List.mem_map_of_mem hm
        rw [names_shownEntries] at hname
        simp [hspace] at hname
    | some space =>
        have hshown : ("watchNamespace", Outline.text space) ∈ c.shownEntries := by
          simp [shownEntries, hspace]
        exact hmean.states_of_mem (mem_treesOf hshown) isOptionalText_of_shown
  · exact hmean.states_of_mem (hmem (by simp) rfl) (isNumber_of_shown hfits.requeueAfter)
  · exact hmean.states_of_mem (hmem (by simp) rfl) isText_of_shown
  · exact hmean.states_of_mem (hmem (by simp) rfl) (statesInstaller_of_shown hfits.timeout)
  · exact hmean.states_of_mem (hmem (by simp) rfl) (statesIndexTimeout_of_shown hfits.indexTimeout)
  · exact hmean.states_of_mem (hmem (by simp) rfl)
      (statesRetry_of_shown hfits.transient hfits.missingReference)

end

/-! ## What was loaded -/

section

variable {c before after : Config} {disk : Disk} {env env' : Environment} {path : String}

theorem lt_of_states {entries : List (String × Place)} {name : String} {default n : Nat}
    (h : States entries name Place.IsNumber default n) (hdefault : default < 2 ^ 64) :
    n < 2 ^ 64 := by
  rcases h with ⟨p, -, -, -, -, -, -, -, hlt⟩ | ⟨-, rfl⟩
  · exact hlt
  · exact hdefault

theorem fits_default : Fits {} := by
  constructor <;> decide

theorem Stated.fits {entries : List (String × Place)} (h : Stated entries c) : c.Fits := by
  refine ⟨lt_of_states h.requeueAfter fits_default.requeueAfter, ?_, ?_, ?_, ?_⟩
  · rcases h.installer with ⟨p, -, inner, -, -, htimeout⟩ | ⟨-, heq⟩
    · exact lt_of_states htimeout fits_default.timeout
    · exact heq ▸ fits_default.timeout
  · rcases h.indexTimeout with ⟨p, -, inner, -, htimeout⟩ | ⟨-, heq⟩
    · exact lt_of_states htimeout fits_default.indexTimeout
    · exact heq ▸ fits_default.indexTimeout
  · rcases h.retry with ⟨p, -, inner, -, htransient, -⟩ | ⟨-, heq⟩
    · exact lt_of_states htransient fits_default.transient
    · exact heq ▸ fits_default.transient
  · rcases h.retry with ⟨p, -, inner, -, -, hmissing⟩ | ⟨-, heq⟩
    · exact lt_of_states hmissing fits_default.missingReference
    · exact heq ▸ fits_default.missingReference

theorem FileStates.fits {requested : Option String} (h : FileStates disk requested c) : c.Fits := by
  cases h with
  | absent | blank | comments => exact fits_default
  | settings _ _ _ _ stated => exact stated.fits

theorem Overridden.fits (h : Overridden env before after) (hfits : before.Fits) : after.Fits := by
  have hdelay : after.passes.requeueAfter < 2 ^ 64 := by
    have := h.requeueAfter
    split at this
    · exact this ▸ hfits.requeueAfter
    · exact this.2
  refine ⟨hdelay, ?_, ?_, ?_, ?_⟩
  all_goals rw [h.rest]
  · exact hfits.timeout
  · exact hfits.indexTimeout
  · exact hfits.transient
  · exact hfits.missingReference

/-- Two environments set the three settings in the same way. -/
def SetsSame (env env' : Environment) : Prop :=
  ∀ name ∈ [namespaceVariable, binaryVariable, delayVariable],
    Table.get? name env' = Table.get? name env

/-- What was overridden is overridden by the same. -/
theorem Overridden.again (h : Overridden env before after) (hsame : SetsSame env env') :
    Overridden env' after after := by
  have hspace := hsame namespaceVariable (by simp)
  have hbinary := hsame binaryVariable (by simp)
  have hdelay := hsame delayVariable (by simp)
  -- a variable that is set has had its effect, and one that is not has none
  refine ⟨?_, ?_, ?_, rfl⟩
  · rw [hspace]
    have hspace' := h.watchNamespace
    cases hset : Table.get? namespaceVariable env with
    | none => rfl
    | some space => simpa only [hset] using hspace'
  · rw [hbinary]
    have hbinary' := h.binary
    cases hset : Table.get? binaryVariable env with
    | none => rfl
    | some binary => simpa only [hset] using hbinary'
  · rw [hdelay]
    have hdelay' := h.requeueAfter
    cases hset : Table.get? delayVariable env with
    | none => rfl
    | some delay => simpa only [hset] using hdelay'

theorem fileHolds_shown (c : Config)
    (hsaved : disk.find? path = some (.file (Text.Utf8.encode (Yaml.Printer.render c.outline)))) :
    FileHolds disk path (treesOf c.shownEntries) := by
  have hsettings := isSettings_outline c
  rw [outline] at hsaved hsettings
  -- the colon behind the first name shows that the file is not blank
  have hcolon : ':' ∈ (Yaml.Printer.render (.mapping c.shownEntries)).toList := by
    cases hsettings with
    | mapping hne hkeys =>
        rw [Yaml.toList_render hne]
        obtain ⟨⟨key, value⟩, rest, hentries⟩ := List.exists_cons_of_ne_nil hne
        rw [hentries, Outline.entryLines_cons 0 (hkeys (key, value) (by simp [hentries]))]
        simp
  exact ⟨_, _, _, ⟨_, hsaved, Text.Utf8.decode?_encode _⟩, ⟨':', hcolon, by decide⟩,
    Yaml.only?_render hsettings, hsettings.means_tree, Outline.holds_tree _⟩

end

/-! ## Showing is loaded again -/

/-- What is shown of a configuration that loads, saved as the file that is read, loads as the same
configuration, whether the environment overrides the same settings or none. -/
theorem shown_config_loads {i : CommandLine.Invocation} {env : Environment} {disk : Disk}
    {c : Config} (htask : i.task = .showConfig) (hloads : load i.configFile env disk = .ok c) :
    ∃ text, i.execute env disk = { output := text, disk } ∧
      ∀ {requested : Option String} {env' : Environment} {disk' : Disk} {path : String},
        file? requested env' disk' = some path →
        disk'.find? path = some (.file (Text.Utf8.encode text)) →
        SetsSame env env' ∨ SetsNone env' → load requested env' disk' = .ok c := by
  obtain ⟨before, hstates, -, hoverridden, hvalid⟩ := exists_states_of_load hloads
  have hfits : c.Fits := hoverridden.fits hstates.fits
  refine ⟨Yaml.Printer.render c.outline, ?_, ?_⟩
  · simp [CommandLine.Invocation.execute, htask, hloads]
  · intro requested env' disk' path hfile hsaved henv
    -- the file states every setting as it is after the overrides, so these change nothing
    have hshown : FileStates disk' (some path) c :=
      (fileHolds_shown c hsaved).fileStates fun _ hmean => stated_of_shown hfits hmean
    have hagain : Overridden env' c c := by
      rcases henv with hsame | hnone
      · exact hoverridden.again hsame
      · exact .of_setsNone c hnone
    exact load_of_states (hfile ▸ hshown) hvalid hagain hvalid

namespace Sample

/-- The invocation that shows the configuration of a file. -/
def showing : CommandLine.Invocation where
  isDebugging := false
  logFile := none
  configFile := some "c.yaml"
  task := .showConfig

/-- What the file states, with what the environment states instead: no namespace. -/
def cleared : Config where
  passes := { requeueAfter := 30 }
  installer := { binary := "h", timeout := 9 }

theorem find_diskOf (text : String) :
    (diskOf text).find? "c.yaml" = some (.file (Text.Utf8.encode text)) := by
  have hpath : Disk.isAbove "c.yaml" = false ∧ Disk.isForDirectory "c.yaml" = false ∧
      Disk.start "c.yaml" = "" ∧ Disk.steps "c.yaml" = ["c.yaml"] := by decide +kernel
  have hname : "/".intercalate ["c.yaml"] = "c.yaml" := by decide +kernel
  simp [Disk.find?, Disk.resolve?, Disk.follow, Disk.hasDirectory, Table.get?, diskOf, hpath, hname]

/-- The environment takes away the namespace that the file states, and nothing brings it back. -/
theorem cleared_namespace_stays_cleared :
    ∃ text, showing.execute (environment "") (diskOf (stating "a")) =
        { output := text, disk := diskOf (stating "a") } ∧
      load (some "c.yaml") (environment "") (diskOf text) = .ok cleared ∧
      load (some "c.yaml") [] (diskOf text) = .ok cleared := by
  obtain ⟨text, hshown, hloads⟩ := @shown_config_loads showing (environment "")
    (diskOf (stating "a")) cleared rfl (by decide +kernel)
  exact ⟨text, hshown, hloads rfl (find_diskOf text) (.inl fun _ _ => rfl),
    hloads rfl (find_diskOf text) (.inr ⟨rfl, rfl, rfl⟩)⟩

end Sample

end Config

end ClusterLifecycle
