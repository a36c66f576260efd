import ClusterLifecycle.Config.Loading
import ClusterLifecycle.Proofs.Numerals
import ClusterLifecycle.Proofs.Results
import ClusterLifecycle.Proofs.Yaml.Places
import ClusterLifecycle.Proofs.Yaml.Voids

/-!
# The layers of a configuration

A configuration comes from its defaults, what a file states instead, and what the environment states
instead of that. It has to be valid both before and after the environment overrides it.

A file states nothing if its text is blank or holds comments only. Otherwise its text is a record of
the known settings, each at most once and with a value of its type; some of them are sections, which
are records themselves. A setting that is absent has its default, at whatever depth.

Main statement: `load_eq_ok_iff` says which configurations load, and as what.
-/

namespace ClusterLifecycle.Config

open Yaml (Place)

/-! ## What a file states -/

/-- The section states how the package installer is called. -/
def StatesInstaller (p : Place) (s : Installer.Settings) : Prop :=
  let default : Installer.Settings := {}
  ∃ entries, p.IsRecord ["binary", "timeoutSecs"] entries ∧
    States entries "binary" Place.IsText default.binary s.binary ∧
    States entries "timeoutSecs" Place.IsNumber default.timeout s.timeout

/-- The section states how long the fetching of an index may take. -/
def StatesIndexTimeout (p : Place) (timeout : Nat) : Prop :=
  let default : Config := {}
  ∃ entries, p.IsRecord ["timeoutSecs"] entries ∧
    States entries "timeoutSecs" Place.IsNumber default.indexTimeout timeout

/-- The section states how long to wait after failures. -/
def StatesRetry (p : Place) (r : RetryPolicy) : Prop :=
  let default : RetryPolicy := {}
  ∃ entries, p.IsRecord ["transientSecs", "missingReferenceSecs"] entries ∧
    States entries "transientSecs" Place.IsNumber default.transient r.transient ∧
    States entries "missingReferenceSecs" Place.IsNumber default.missingReference
      r.missingReference

/-- The known settings. -/
def settings : List String :=
  ["watchNamespace", "requeueAfterSecs", "finalizer", "helm", "indexFetch", "retry"]

/-- The entries state the configuration. -/
structure Stated (entries : List (String × Place)) (c : Config) : Prop where
  watchNamespace : States entries "watchNamespace" Place.IsOptionalText none c.watchNamespace
  requeueAfter : States entries "requeueAfterSecs" Place.IsNumber ({} : Config).passes.requeueAfter
    c.passes.requeueAfter
  finalizer : States entries "finalizer" Place.IsText ({} : Config).passes.finalizer
    c.passes.finalizer
  installer : States entries "helm" StatesInstaller ({} : Config).installer c.installer
  indexTimeout : States entries "indexFetch" StatesIndexTimeout ({} : Config).indexTimeout
    c.indexTimeout
  retry : States entries "retry" StatesRetry ({} : Config).retry c.retry

theorem decodeInstaller?_eq_some_iff {p : Place} {s : Installer.Settings} :
    decodeInstaller? p = some s ↔ StatesInstaller p s := by
  unfold decodeInstaller? StatesInstaller
  simp only [Option.bind_eq_bind, Option.bind_eq_some_iff, Place.only?_eq_some_iff]
  constructor
  · rintro ⟨_, ⟨entries, h, rfl⟩, binary, hbinary, timeout, htimeout, hs⟩
    cases hs
    exact ⟨entries, h, (h.withDefault_eq_some_iff Place.text?_eq_some_iff).1 hbinary,
      (h.withDefault_eq_some_iff Place.nat?_eq_some_iff).1 htimeout⟩
  · rintro ⟨entries, h, hbinary, htimeout⟩
    exact ⟨_, ⟨entries, h, rfl⟩,
      _, (h.withDefault_eq_some_iff Place.text?_eq_some_iff).2 hbinary,
      _, (h.withDefault_eq_some_iff Place.nat?_eq_some_iff).2 htimeout, rfl⟩

theorem decodeIndexTimeout?_eq_some_iff {p : Place} {timeout : Nat} :
    decodeIndexTimeout? p = some timeout ↔ StatesIndexTimeout p timeout := by
  unfold decodeIndexTimeout? StatesIndexTimeout
  simp only [Option.bind_eq_bind, Option.bind_eq_some_iff, Place.only?_eq_some_iff]
  constructor
  · rintro ⟨_, ⟨entries, h, rfl⟩, htimeout⟩
    exact ⟨entries, h, (h.withDefault_eq_some_iff Place.nat?_eq_some_iff).1 htimeout⟩
  · rintro ⟨entries, h, htimeout⟩
    exact ⟨_, ⟨entries, h, rfl⟩, (h.withDefault_eq_some_iff Place.nat?_eq_some_iff).2 htimeout⟩

theorem decodeRetry?_eq_some_iff {p : Place} {r : RetryPolicy} :
    decodeRetry? p = some r ↔ StatesRetry p r := by
  unfold decodeRetry? StatesRetry
  simp only [Option.bind_eq_bind, Option.bind_eq_some_iff, Place.only?_eq_some_iff]
  constructor
  · rintro ⟨_, ⟨entries, h, rfl⟩, transient, htransient, missing, hmissing, hr⟩
    cases hr
    exact ⟨entries, h, (h.withDefault_eq_some_iff Place.nat?_eq_some_iff).1 htransient,
      (h.withDefault_eq_some_iff Place.nat?_eq_some_iff).1 hmissing⟩
  · rintro ⟨entries, h, htransient, hmissing⟩
    exact ⟨_, ⟨entries, h, rfl⟩,
      _, (h.withDefault_eq_some_iff Place.nat?_eq_some_iff).2 htransient,
      _, (h.withDefault_eq_some_iff Place.nat?_eq_some_iff).2 hmissing, rfl⟩

/-- A place is read as a configuration if it is a record of settings that states it. -/
theorem decode?_eq_some_iff {p : Place} {c : Config} :
    decode? p = some c ↔ ∃ entries, p.IsRecord settings entries ∧ Stated entries c := by
  unfold decode?
  simp only [Option.bind_eq_bind, Option.bind_eq_some_iff, Place.only?_eq_some_iff,
    Document.Parts.optionalOrAbsent]
  -- setting by setting, in the order in which they are read
  constructor
  · rintro ⟨_, ⟨entries, h, rfl⟩, space, hspace, delay, hdelay, finalizer, hfinalizer,
      installer, hinstaller, timeout, htimeout, retry, hretry, hc⟩
    cases hc
    exact ⟨entries, h,
      (h.withDefault_eq_some_iff Place.optional_text?_eq_some_iff).1 hspace,
      (h.withDefault_eq_some_iff Place.nat?_eq_some_iff).1 hdelay,
      (h.withDefault_eq_some_iff Place.text?_eq_some_iff).1 hfinalizer,
      (h.withDefault_eq_some_iff decodeInstaller?_eq_some_iff).1 hinstaller,
      (h.withDefault_eq_some_iff decodeIndexTimeout?_eq_some_iff).1 htimeout,
      (h.withDefault_eq_some_iff decodeRetry?_eq_some_iff).1 hretry⟩
  · rintro ⟨entries, h, hstated⟩
    exact ⟨_, ⟨entries, h, rfl⟩,
      _, (h.withDefault_eq_some_iff Place.optional_text?_eq_some_iff).2 hstated.watchNamespace,
      _, (h.withDefault_eq_some_iff Place.nat?_eq_some_iff).2 hstated.requeueAfter,
      _, (h.withDefault_eq_some_iff Place.text?_eq_some_iff).2 hstated.finalizer,
      _, (h.withDefault_eq_some_iff decodeInstaller?_eq_some_iff).2 hstated.installer,
      _, (h.withDefault_eq_some_iff decodeIndexTimeout?_eq_some_iff).2 hstated.indexTimeout,
      _, (h.withDefault_eq_some_iff decodeRetry?_eq_some_iff).2 hstated.retry, rfl⟩

/-! ## Files -/

/-- A file with the text is found under the path. -/
def TextAt (disk : Disk) (path text : String) : Prop :=
  ∃ bytes, disk.find? path = some (.file bytes) ∧ Text.Utf8.decode? bytes = some text

/-- What is found under the path, if a path is given, states the configuration. -/
inductive FileStates (disk : Disk) : Option String → Config → Prop where
  /-- There is no file. -/
  | absent : FileStates disk none {}
  /-- The file is blank. -/
  | blank {path text : String} (found : TextAt disk path text)
      (blank : ∀ c ∈ text.toList, Text.isBlank c = true) : FileStates disk (some path) {}
  /-- The file holds comments only. -/
  | comments {path text : String} (found : TextAt disk path text)
      (void : Yaml.isVoid text.toList = true) : FileStates disk (some path) {}
  /-- The file holds settings. -/
  | settings {path text : String} {p : Place} {entries : List (String × Place)} {c : Config}
      (found : TextAt disk path text) (notBlank : ∃ c ∈ text.toList, Text.isBlank c = false)
      (root : Place.root? text = some p) (record : p.IsRecord settings entries)
      (stated : Stated entries c) : FileStates disk (some path) c

/-- A configuration is valid if passes do not follow one another without delay, and both the
finalizer and the program to call have names that are not blank. -/
structure Valid (c : Config) : Prop where
  requeueAfter : 0 < c.passes.requeueAfter
  finalizer : ∃ ch ∈ c.passes.finalizer.toList, Text.isBlank ch = false
  binary : ∃ ch ∈ c.installer.binary.toList, Text.isBlank ch = false

theorem isAllBlank_eq_false_iff {s : String} :
    Text.isAllBlank s = false ↔ ∃ ch ∈ s.toList, Text.isBlank ch = false := by
  simp [Text.isAllBlank]

theorem isAllBlank_eq_true_iff {s : String} :
    Text.isAllBlank s = true ↔ ∀ ch ∈ s.toList, Text.isBlank ch = true := by
  simp [Text.isAllBlank]

theorem validate_eq_ok_iff {c : Config} : c.validate = .ok () ↔ c.Valid := by
  unfold validate
  constructor
  · intro h
    split at h
    · cases h
    split at h
    · cases h
    split at h
    · cases h
    next hdelay hfinalizer hbinary =>
      exact ⟨Nat.pos_of_ne_zero hdelay, isAllBlank_eq_false_iff.1 (by simpa using hfinalizer),
        isAllBlank_eq_false_iff.1 (by simpa using hbinary)⟩
  · rintro ⟨hdelay, hfinalizer, hbinary⟩
    rw [← isAllBlank_eq_false_iff] at hfinalizer hbinary
    simp [hdelay.ne', hfinalizer, hbinary]

/-- A check gives back what it is asked about, if that is valid. -/
theorem checked_eq_ok_iff {c d : Config} : d.checked = .ok c ↔ d = c ∧ c.Valid := by
  rw [← validate_eq_ok_iff, checked]
  constructor
  · intro h
    cases hvalid : d.validate with
    | error fault => simp [hvalid, Except.map] at h
    | ok _ =>
        rw [hvalid] at h
        cases h
        exact ⟨rfl, hvalid⟩
  · rintro ⟨rfl, hvalid⟩
    rw [hvalid]
    rfl

theorem valid_default : Valid {} :=
  validate_eq_ok_iff.1 (by decide +kernel)

theorem root?_of_isVoid {text : String} (h : Yaml.isVoid text.toList = true) :
    Place.root? text = some ⟨none, {}, Yaml.Contents.maxDepth, 0⟩ := by
  have htokens := (Yaml.tokens?_eq_nil_iff text.toList).2 h
  have hnodes : Yaml.Node.ofTokens? [] = some [] := rfl
  simp [Place.root?, Yaml.Contents.only?, Yaml.Contents.all?, Yaml.Node.documents?, htokens,
    hnodes]

/-- A record without entries states the defaults. -/
theorem stated_nil : Stated [] {} := by
  constructor
  all_goals exact .inr ⟨by simp, rfl⟩

theorem isRecord_of_follow?_eq_none {p : Place} (h : p.follow? = some none) :
    p.IsRecord settings [] := by
  refine ⟨?_, by simp [AreKnown]⟩
  simp [Place.entries?, h, Place.isLeftOut]

theorem parse_eq_ok_iff {text : String} {c : Config} :
    parse text = .ok c ↔
      (∀ ch ∈ text.toList, Text.isBlank ch = true) ∧ c = {} ∨
      (∃ ch ∈ text.toList, Text.isBlank ch = false) ∧ c.Valid ∧ ∃ p entries,
        Place.root? text = some p ∧ p.IsRecord settings entries ∧ Stated entries c := by
  unfold parse
  rw [← isAllBlank_eq_true_iff, ← isAllBlank_eq_false_iff]
  cases Text.isAllBlank text with
  | true => simp [eq_comm]
  | false =>
      simp only [Bool.false_eq_true, if_false, false_and, true_and, false_or]
      -- a text that is not blank has to be a document, and what it states has to be valid
      constructor
      · intro h
        split at h
        · cases h
        next d hread =>
          obtain ⟨rfl, hvalid⟩ := checked_eq_ok_iff.1 h
          obtain ⟨p, hroot, hdecode⟩ := Option.bind_eq_some_iff.1 hread
          obtain ⟨entries, hrecord, hstated⟩ := decode?_eq_some_iff.1 hdecode
          exact ⟨hvalid, p, entries, hroot, hrecord, hstated⟩
      · rintro ⟨hvalid, p, entries, hroot, hrecord, hstated⟩
        have hdecode := decode?_eq_some_iff.2 ⟨entries, hrecord, hstated⟩
        simp only [hroot, Option.bind_some, hdecode]
        exact checked_eq_ok_iff.2 ⟨rfl, hvalid⟩

theorem loadFile_eq_ok_iff {disk : Disk} {path : String} {c : Config} :
    loadFile disk path = .ok c ↔ ∃ text, TextAt disk path text ∧ parse text = .ok c := by
  unfold loadFile TextAt
  cases disk.find? path with
  | none => simp
  | some entry =>
      cases entry with
      | directory => simp
      | file bytes =>
          cases hbytes : Text.Utf8.decode? bytes with
          | none => simp [hbytes]
          | some text => cases hparse : parse text <;> simp [hbytes, hparse, Except.mapError]

/-- What a file states, if that is valid, is what is read of it; without a file it is the default
configuration. -/
theorem fromFile_eq_ok_iff {disk : Disk} {path : Option String} {c : Config} :
    fromFile disk path = .ok c ↔ FileStates disk path c ∧ c.Valid := by
  cases path with
  | none =>
      constructor
      · intro h
        cases h
        exact ⟨.absent, valid_default⟩
      · rintro ⟨hstates, -⟩
        cases hstates
        rfl
  | some path =>
      rw [fromFile, loadFile_eq_ok_iff]
      constructor
      · rintro ⟨text, found, hparse⟩
        rcases parse_eq_ok_iff.1 hparse with ⟨hblank, rfl⟩ | ⟨hnot, hvalid, p, entries, hroot, h⟩
        · exact ⟨.blank found hblank, valid_default⟩
        · exact ⟨.settings found hnot hroot h.1 h.2, hvalid⟩
      · rintro ⟨hstates, hvalid⟩
        cases hstates with
        | blank found hblank => exact ⟨_, found, parse_eq_ok_iff.2 (.inl ⟨hblank, rfl⟩)⟩
        | @comments _ text found void =>
            refine ⟨_, found, parse_eq_ok_iff.2 ?_⟩
            cases hblank : Text.isAllBlank text with
            | true => exact .inl ⟨isAllBlank_eq_true_iff.1 hblank, rfl⟩
            | false =>
                -- what is left out is read like a record without entries
                exact .inr ⟨isAllBlank_eq_false_iff.1 hblank, valid_default, _, [],
                  root?_of_isVoid void, isRecord_of_follow?_eq_none rfl, stated_nil⟩
        | settings found notBlank root record stated =>
            exact ⟨_, found,
              parse_eq_ok_iff.2 (.inr ⟨notBlank, hvalid, _, _, root, record, stated⟩)⟩

/-! ## What the environment overrides -/

/-- The environment overrides three settings of the first configuration, each if its variable is
set, and gives the second one. A namespace that is empty stands for none. -/
structure Overridden (env : Environment) (before after : Config) : Prop where
  watchNamespace : after.watchNamespace = match Table.get? namespaceVariable env with
    | none => before.watchNamespace
    | some space => if space = "" then none else some space
  binary : after.installer.binary = match Table.get? binaryVariable env with
    | none => before.installer.binary
    | some binary => binary
  requeueAfter : match Table.get? delayVariable env with
    | none => after.passes.requeueAfter = before.passes.requeueAfter
    | some delay => Decimal.Denotes delay after.passes.requeueAfter ∧
        after.passes.requeueAfter < 2 ^ 64
  rest : after = { before with
    watchNamespace := after.watchNamespace
    passes := { before.passes with requeueAfter := after.passes.requeueAfter }
    installer := { before.installer with binary := after.installer.binary } }

theorem delayOf_eq_ok_iff {env : Environment} {before delay : Nat} :
    delayOf env before = .ok delay ↔ match Table.get? delayVariable env with
      | none => delay = before
      | some text => Decimal.Denotes text delay ∧ delay < 2 ^ 64 := by
  unfold delayOf
  cases Table.get? delayVariable env with
  | none => exact ⟨fun h => (Except.ok.inj h).symm, fun h => h ▸ rfl⟩
  | some text =>
      have hpos : 0 < 1 <<< 64 := by decide
      show Except.mapError _ _ = _ ↔ Decimal.Denotes text delay ∧ delay < 1 <<< 64
      rw [← Decimal.parse_eq_ok_iff hpos]
      cases Decimal.parse (1 <<< 64) text <;> simp [Except.mapError]

theorem overridden_iff {env : Environment} {before after : Config} :
    Overridden env before after ↔
      ∃ delay, delayOf env before.passes.requeueAfter = .ok delay ∧
        after = overriddenBy env delay before := by
  constructor
  · rintro ⟨hspace, hbinary, hdelay, hrest⟩
    refine ⟨after.passes.requeueAfter, delayOf_eq_ok_iff.2 hdelay, ?_⟩
    rw [hrest]
    -- the rest is the same by what was assumed, the namespace and the binary are left
    simp only [overriddenBy, Config.mk.injEq, and_true, true_and, Installer.Settings.mk.injEq]
    constructor
    · rw [hspace]
      cases Table.get? namespaceVariable env <;> simp
    · rw [hbinary]
      cases Table.get? binaryVariable env <;> rfl
  · rintro ⟨delay, hdelay, rfl⟩
    refine ⟨?_, ?_, delayOf_eq_ok_iff.1 hdelay, rfl⟩
    · cases h : Table.get? namespaceVariable env <;> simp [overriddenBy, h]
    · cases h : Table.get? binaryVariable env <;> simp [overriddenBy, h]

theorem override_eq_ok_iff {env : Environment} {before after : Config} :
    before.override env = .ok after ↔ Overridden env before after ∧ after.Valid := by
  rw [override, overridden_iff, bind_eq_ok_iff]
  constructor
  · rintro ⟨delay, hdelay, h⟩
    obtain ⟨rfl, hvalid⟩ := checked_eq_ok_iff.1 h
    exact ⟨⟨delay, hdelay, rfl⟩, hvalid⟩
  · rintro ⟨⟨delay, hdelay, rfl⟩, hvalid⟩
    exact ⟨delay, hdelay, checked_eq_ok_iff.2 ⟨rfl, hvalid⟩⟩

/-! ## Loading -/

section

variable {requested : Option String} {env : Environment} {disk : Disk} {c : Config}

theorem exists_states_of_load (h : load requested env disk = .ok c) :
    ∃ before, FileStates disk (file? requested env disk) before ∧ before.Valid ∧
      Overridden env before c ∧ c.Valid := by
  obtain ⟨before, hfile, hoverride⟩ := bind_eq_ok_iff.1 h
  obtain ⟨hstates, hvalid⟩ := fromFile_eq_ok_iff.1 hfile
  exact ⟨before, hstates, hvalid, override_eq_ok_iff.1 hoverride⟩

theorem load_of_states {before : Config}
    (hstates : FileStates disk (file? requested env disk) before) (hbefore : before.Valid)
    (hoverridden : Overridden env before c) (hvalid : c.Valid) :
    load requested env disk = .ok c :=
  bind_eq_ok_iff.2 ⟨before, fromFile_eq_ok_iff.2 ⟨hstates, hbefore⟩,
    override_eq_ok_iff.2 ⟨hoverridden, hvalid⟩⟩

end

/-- A configuration loads exactly if what the file states is valid, and so is what the environment
makes of it. -/
theorem load_eq_ok_iff (requested : Option String) (env : Environment) (disk : Disk) (c : Config) :
    load requested env disk = .ok c ↔
      ∃ before, FileStates disk (file? requested env disk) before ∧ before.Valid ∧
        Overridden env before c ∧ c.Valid := by
  constructor
  · exact exists_states_of_load
  · rintro ⟨before, hstates, hbefore, hoverridden, hvalid⟩
    exact load_of_states hstates hbefore hoverridden hvalid

/-- A section that is given in part, and an environment that clears the namespace. -/
example : load (some "c.yaml") [(delayVariable, "+030"), (namespaceVariable, "")]
    { files := [("c.yaml", Text.Utf8.encode "watchNamespace: a\nhelm:\n  timeoutSecs: 9\n")] } =
    .ok { passes := { requeueAfter := 30 }, installer := { timeout := 9 } } := by decide +kernel

/-- The environment makes a valid configuration invalid. -/
example : load none [(binaryVariable, " ")] {} = .error .blankBinary := by decide +kernel

end ClusterLifecycle.Config
