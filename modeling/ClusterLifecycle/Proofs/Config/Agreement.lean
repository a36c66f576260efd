import ClusterLifecycle.Proofs.Config.Layers
import ClusterLifecycle.Proofs.Yaml.Meanings
import Mathlib.Data.List.Permutation

/-!
# Settings in the file and in the environment

Three settings can be stated in the file or in the environment. Stating all three in a file that
lacks them is the same as stating them in the environment, unless the namespace is empty: in the
environment an empty namespace stands for all namespaces, and in the file for the one without a name
(`file_agrees_with_environment_iff`).
-/

namespace ClusterLifecycle.Config

open Yaml (Place Tree)

variable {disk : Disk} {path : String}

/-! ## Files and what they mean -/

/-- The file under the path holds the entries, each under its name. -/
def FileHolds (disk : Disk) (path : String) (named : List (String × Tree)) : Prop :=
  ∃ text contents m, TextAt disk path text ∧ (∃ c ∈ text.toList, Text.isBlank c = false) ∧
    Yaml.Contents.only? text = some (some contents) ∧
    contents.root.Means contents.anchors m ∧ m.Holds named

theorem TextAt.unique {text text' : String} (h : TextAt disk path text)
    (h' : TextAt disk path text') : text = text' := by
  obtain ⟨bytes, hfound, htext⟩ := h
  obtain ⟨bytes', hfound', htext'⟩ := h'
  rw [hfound] at hfound'
  cases hfound'
  rw [htext] at htext'
  exact Option.some.inj htext'

/-- The root of a file that holds entries. -/
theorem FileHolds.exists_root {named : List (String × Tree)} (h : FileHolds disk path named) :
    ∃ text p m, TextAt disk path text ∧ (∃ c ∈ text.toList, Text.isBlank c = false) ∧
      Place.root? text = some p ∧ p.Means 128 m ∧ m.Holds named := by
  obtain ⟨text, contents, m, found, notBlank, hcontents, hmeans, hholds⟩ := h
  refine ⟨text, ⟨some contents.root, contents.anchors, 128, contents.maxAliases⟩, m, found,
    notBlank, ?_, ⟨rfl, contents.root, rfl, hmeans⟩, hholds⟩
  rw [Place.root?, hcontents]
  rfl

/-- What a file with entries states is what the entries state. -/
theorem FileHolds.exists_stated {named : List (String × Tree)} {c : Config}
    (h : FileHolds disk path named) (hstates : FileStates disk (some path) c) :
    ∃ entries, Place.Mean 127 entries named ∧ AreKnown settings entries ∧ Stated entries c := by
  obtain ⟨text, p, m, found, ⟨ch, hch, hnot⟩, hroot, hmeans, hholds⟩ := h.exists_root
  obtain ⟨entries, hentries, hmean⟩ := hmeans.exists_entries hholds
  refine ⟨entries, hmean, ?_⟩
  -- a file with entries is not blank and not void, so it was read as settings
  cases hstates with
  | blank found' hblank =>
      obtain rfl := found.unique found'
      rw [hblank ch hch] at hnot
      cases hnot
  | comments found' void =>
      obtain rfl := found.unique found'
      rw [root?_of_isVoid void] at hroot
      cases hroot
      obtain ⟨-, t, ht, -⟩ := hmeans
      cases ht
  | settings found' _ root record stated =>
      obtain rfl := found.unique found'
      rw [hroot] at root
      cases root
      have hsame := record.1
      rw [hentries] at hsame
      cases hsame
      exact ⟨record.2, stated⟩

/-- What the entries of a file state is what the file states. -/
theorem FileHolds.fileStates {named : List (String × Tree)} {c : Config}
    (h : FileHolds disk path named) (hstated : ∀ entries, Place.Mean 127 entries named →
      AreKnown settings entries ∧ Stated entries c) : FileStates disk (some path) c := by
  obtain ⟨text, p, m, found, notBlank, hroot, hmeans, hholds⟩ := h.exists_root
  obtain ⟨entries, hentries, hmean⟩ := hmeans.exists_entries hholds
  obtain ⟨hknown, hstated⟩ := hstated entries hmean
  exact .settings found notBlank hroot ⟨hentries, hknown⟩ hstated

/-! ## Sections -/

theorem readsMeaning_statesIndexTimeout : Place.ReadsMeaning 127 StatesIndexTimeout := by
  rintro p q m s hp hq ⟨entries, hrecord, htimeout⟩
  obtain ⟨others, named, hrecord', hmean, hmean'⟩ := hrecord.exists_of_means hp hq
  exact ⟨others, hrecord',
    hmean.states hmean' Place.readsMeaning_isNumber (fun _ => .rfl) htimeout⟩

theorem readsMeaning_statesRetry : Place.ReadsMeaning 127 StatesRetry := by
  rintro p q m s hp hq ⟨entries, hrecord, htransient, hmissing⟩
  obtain ⟨others, named, hrecord', hmean, hmean'⟩ := hrecord.exists_of_means hp hq
  exact ⟨others, hrecord',
    hmean.states hmean' Place.readsMeaning_isNumber (fun _ => .rfl) htransient,
    hmean.states hmean' Place.readsMeaning_isNumber (fun _ => .rfl) hmissing⟩

/-! ## Files with three more settings -/

/-- The tree is the text in quotes. -/
def IsQuoted (m : Tree) (s : String) : Prop :=
  m = .scalar none .singleQuoted s ∨ m = .scalar none .doubleQuoted s

/-- The entries without a section, and those in it; the section may be absent. -/
inductive Section (name : String) (named : List (String × Tree)) :
    (rest inner : List (String × Tree)) → Prop where
  | absent (h : ∀ m, (name, m) ∉ named) : Section name named named []
  | present {m : Tree} {rest inner : List (String × Tree)} (h : named.Perm ((name, m) :: rest))
      (holds : m.Holds inner) : Section name named rest inner

/-- The entries with the three settings, which they lacked, in any order. -/
structure Adds (space binary : String) (delay : Nat) (named more : List (String × Tree)) :
    Prop where
  lacksSpace : ∀ m, ("watchNamespace", m) ∉ named
  lacksDelay : ∀ m, ("requeueAfterSecs", m) ∉ named
  added : ∃ rest inner, Section "helm" named rest inner ∧ (∀ m, ("binary", m) ∉ inner) ∧
    ∃ quotedSpace quotedBinary helm moreInner, IsQuoted quotedSpace space ∧
      IsQuoted quotedBinary binary ∧ Tree.Holds helm moreInner ∧
      moreInner.Perm (("binary", quotedBinary) :: inner) ∧
      more.Perm (("watchNamespace", quotedSpace) ::
        ("requeueAfterSecs", .scalar none .plain (Decimal.text delay)) :: ("helm", helm) :: rest)

/-- Taking a section out leaves all else as it is. -/
theorem Section.mem_iff {name other : String} {named rest inner : List (String × Tree)} {m : Tree}
    (h : Section name named rest inner) (hne : other ≠ name) :
    (other, m) ∈ named ↔ (other, m) ∈ rest := by
  cases h with
  | absent => exact .rfl
  | present hperm holds => simp [hperm.mem_iff, hne]

theorem Section.areKnown {name : String} {names : List String}
    {named rest inner : List (String × Tree)} (h : Section name named rest inner)
    (hknown : AreKnown names named) : AreKnown names rest ∧ ∀ m, (name, m) ∉ rest := by
  cases h with
  | absent habsent => exact ⟨hknown, habsent⟩
  | present hperm holds =>
      obtain ⟨-, habsent, hrest⟩ := areKnown_cons_iff.1 (hknown.perm hperm)
      exact ⟨hrest, habsent⟩

/-- The entries with the three settings are known if the others are. -/
theorem Adds.areKnown {space binary : String} {delay : Nat} {named more : List (String × Tree)}
    (h : Adds space binary delay named more) (hknown : AreKnown settings named) :
    AreKnown settings more := by
  obtain ⟨hspace, hdelay, rest, inner, hsection, -, quotedSpace, quotedBinary, helm, moreInner,
    -, -, -, -, hperm⟩ := h
  obtain ⟨hrest, hhelm⟩ := hsection.areKnown hknown
  have hrestSpace : ∀ m, ("watchNamespace", m) ∉ rest := fun m hm =>
    hspace m ((hsection.mem_iff (by decide)).2 hm)
  have hrestDelay : ∀ m, ("requeueAfterSecs", m) ∉ rest := fun m hm =>
    hdelay m ((hsection.mem_iff (by decide)).2 hm)
  refine AreKnown.perm ?_ hperm.symm
  refine areKnown_cons_iff.2 ⟨by simp [settings], by simpa using hrestSpace, ?_⟩
  refine areKnown_cons_iff.2 ⟨by simp [settings], by simpa using hrestDelay, ?_⟩
  exact areKnown_cons_iff.2 ⟨by simp [settings], hhelm, hrest⟩

/-- Under any other name there is what was there. -/
theorem Adds.mem_iff {space binary name : String} {delay : Nat} {named more : List (String × Tree)}
    (h : Adds space binary delay named more)
    (hname : name ∉ ["watchNamespace", "requeueAfterSecs", "helm"]) (m : Tree) :
    (name, m) ∈ named ↔ (name, m) ∈ more := by
  obtain ⟨-, -, rest, inner, hsection, -, quotedSpace, quotedBinary, helm, moreInner, -, -, -, -,
    hperm⟩ := h
  simp only [List.mem_cons, List.not_mem_nil, or_false, not_or] at hname
  simp [hperm.mem_iff, hsection.mem_iff hname.2.2, hname]

/-! ## What is stated with them -/

section

variable {p : Place} {m : Tree} {depth n : Nat} {s : String}

theorem isText_of_isQuoted (h : IsQuoted m s) (hp : p.Means depth m) : p.IsText s := by
  rcases h with rfl | rfl
  all_goals exact hp.isText_iff.2 ⟨_, _, rfl⟩

theorem isOptionalText_of_isQuoted (h : IsQuoted m s) (hp : p.Means depth m) :
    p.IsOptionalText (some s) := by
  rcases h with rfl | rfl
  all_goals exact ⟨_, _, hp.isScalar_iff.2 rfl, by simp [Place.IsNull], by simp⟩

theorem isNumber_of_text (hpos : 0 < n) (hlt : n < 2 ^ 64)
    (hp : p.Means depth (.scalar none .plain (Decimal.text n))) : p.IsNumber n :=
  ⟨_, _, _, hp.isScalar_iff.2 rfl, rfl, Place.unsigned?_text hpos, hlt⟩

end

variable {named more rest inner : List (String × Tree)} {entries others : List (String × Place)}

/-- What is stated in the section, whether it is there or not. -/
theorem Section.exists_stated {s : Installer.Settings} (h : Section "helm" named rest inner)
    (hmean : Place.Mean 127 entries named) (hknown : AreKnown settings entries)
    (hstates : States entries "helm" StatesInstaller {} s) :
    ∃ innerEntries, Place.Mean 126 innerEntries inner ∧
      AreKnown ["binary", "timeoutSecs"] innerEntries ∧
      States innerEntries "timeoutSecs" Place.IsNumber ({} : Installer.Settings).timeout
        s.timeout := by
  cases h with
  | absent habsent =>
      rcases hstates with ⟨p, hp, -⟩ | ⟨-, rfl⟩
      · obtain ⟨m, hm, -⟩ := hmean.exists_tree hp
        exact absurd hm (habsent m)
      · exact ⟨[], .nil, by simp [AreKnown], .inr ⟨by simp, rfl⟩⟩
  | present hperm holds =>
      obtain ⟨p, hp, hmeans⟩ := hmean.exists_place (hperm.mem_iff.2 (.head _))
      -- no name occurs twice, so the section that was found is the one that was read
      rcases hstates with ⟨q, hq, innerEntries, hrecord, -, htimeout⟩ | ⟨habsent, -⟩
      · obtain rfl := Table.eq_of_mem hknown.2 hp hq
        obtain ⟨read, hread, hinner⟩ := hmeans.exists_entries holds
        obtain rfl : read = innerEntries := Option.some.inj (hread.symm.trans hrecord.1)
        exact ⟨read, hinner, hrecord.2, htimeout⟩
      · exact absurd hp (habsent p)

/-- A section with one more entry states what it stated, and the program. -/
theorem statesInstaller_of_added {p : Place} {helm quoted : Tree} {s : Installer.Settings}
    {binary : String} (hp : p.Means 127 helm) (holds : helm.Holds more)
    (hperm : more.Perm (("binary", quoted) :: inner)) (hlacks : ∀ m, ("binary", m) ∉ inner)
    (hquoted : IsQuoted quoted binary) (hmean : Place.Mean 126 entries inner)
    (hknown : AreKnown ["binary", "timeoutSecs"] entries)
    (htimeout : States entries "timeoutSecs" Place.IsNumber ({} : Installer.Settings).timeout
      s.timeout) :
    StatesInstaller p { s with binary } := by
  obtain ⟨others, hothers, hmean'⟩ := hp.exists_entries holds
  have hmore : AreKnown ["binary", "timeoutSecs"] more :=
    (areKnown_cons_iff.2 ⟨by simp, hlacks, hknown.of_names_eq hmean.names_eq.symm⟩).perm hperm.symm
  refine ⟨others, ⟨hothers, hmore.of_names_eq hmean'.names_eq⟩, ?_, ?_⟩
  · exact hmean'.states_of_mem (hperm.mem_iff.2 (.head _)) (isText_of_isQuoted hquoted)
  · refine hmean.states hmean' Place.readsMeaning_isNumber (fun m => ?_) htimeout
    simp [hperm.mem_iff]

/-- Entries with the three settings state what the others do, and those. -/
theorem Stated.adds {space binary : String} {delay : Nat} {c : Config} (hstated : Stated entries c)
    (h : Adds space binary delay named more) (hpos : 0 < delay) (hlt : delay < 2 ^ 64)
    (hmean : Place.Mean 127 entries named) (hknown : AreKnown settings entries)
    (hmean' : Place.Mean 127 others more) :
    AreKnown settings others ∧ Stated others { c with
      watchNamespace := some space
      passes := { c.passes with requeueAfter := delay }
      installer := { c.installer with binary } } := by
  have hmore : AreKnown settings more := h.areKnown (hknown.of_names_eq hmean.names_eq.symm)
  obtain ⟨rest, inner, hsection, hbinary, quotedSpace, quotedBinary, helm, moreInner, hquotedSpace,
    hquotedBinary, hholds, hinner, hperm⟩ := h.added
  obtain ⟨innerEntries, hinnerMean, hinnerKnown, htimeout⟩ :=
    hsection.exists_stated hmean hknown hstated.installer
  -- three settings are those that were added, the others stand in both files
  refine ⟨hmore.of_names_eq hmean'.names_eq, ?_, ?_, ?_, ?_, ?_, ?_⟩
  · exact hmean'.states_of_mem (hperm.mem_iff.2 (.head _)) (isOptionalText_of_isQuoted hquotedSpace)
  · exact hmean'.states_of_mem (hperm.mem_iff.2 (.tail _ (.head _))) (isNumber_of_text hpos hlt)
  · exact hmean.states hmean' Place.readsMeaning_isText (h.mem_iff (by decide)) hstated.finalizer
  · refine hmean'.states_of_mem (hperm.mem_iff.2 (.tail _ (.tail _ (.head _)))) fun hq => ?_
    exact statesInstaller_of_added hq hholds hinner hbinary hquotedBinary hinnerMean hinnerKnown
      htimeout
  · exact hmean.states hmean' readsMeaning_statesIndexTimeout (h.mem_iff (by decide))
      hstated.indexTimeout
  · exact hmean.states hmean' readsMeaning_statesRetry (h.mem_iff (by decide)) hstated.retry

/-! ## Agreement -/

/-- The environment sets none of the three settings. -/
def SetsNone (env : Environment) : Prop :=
  Table.get? namespaceVariable env = none ∧ Table.get? binaryVariable env = none ∧
    Table.get? delayVariable env = none

/-- The environment sets the three settings. -/
def Sets (env : Environment) (space binary : String) (delay : Nat) : Prop :=
  Table.get? namespaceVariable env = some space ∧ Table.get? binaryVariable env = some binary ∧
    Table.get? delayVariable env = some (Decimal.text delay)

theorem Overridden.of_setsNone {env : Environment} (c : Config) (h : SetsNone env) :
    Overridden env c c := by
  obtain ⟨hspace, hbinary, hdelay⟩ := h
  constructor
  all_goals simp [*]

theorem Overridden.of_sets {env : Environment} {space binary : String} {delay : Nat} (c : Config)
    (h : Sets env space binary delay) (hlt : delay < 2 ^ 64) :
    Overridden env c { c with
      watchNamespace := if space = "" then none else some space
      passes := { c.passes with requeueAfter := delay }
      installer := { c.installer with binary } } := by
  obtain ⟨hspace, hbinary, hdelay⟩ := h
  refine ⟨by simp [hspace], by simp [hbinary], ?_, rfl⟩
  rw [hdelay]
  exact ⟨Decimal.denotes_text delay, hlt⟩

/-- Stating the three settings in a file and stating them in the environment are the same, if the
file loads without them, exactly if the namespace is not empty. An empty namespace is all namespaces
in the environment, and the one without a name in the file. -/
theorem file_agrees_with_environment_iff {requested requested' : Option String}
    {env env' : Environment} {disk disk' : Disk} {path path' : String}
    {named more : List (String × Tree)} {space binary : String} {delay : Nat} {c₀ : Config}
    (hfile : file? requested env disk = some path) (hnamed : FileHolds disk path named)
    (hfile' : file? requested' env' disk' = some path') (hmore : FileHolds disk' path' more)
    (hadds : Adds space binary delay named more) (hloads : load (some path) [] disk = .ok c₀)
    (hbinary : ∃ ch ∈ binary.toList, Text.isBlank ch = false) (hpos : 0 < delay)
    (hlt : delay < 2 ^ 64) (hsets : Sets env space binary delay) (hnone : SetsNone env') :
    ∃ c c', load requested env disk = .ok c ∧ load requested' env' disk' = .ok c' ∧
      (c' = c ↔ space ≠ "") ∧
      (space = "" → c.watchNamespace = none ∧ c' = { c with watchNamespace := some "" }) := by
  obtain ⟨before, hstates, hvalid, -⟩ := exists_states_of_load hloads
  obtain ⟨entries, hmean, hknown, hstated⟩ := hnamed.exists_stated hstates
  -- both ways lead to the same configuration but for the namespace
  let withAll (watchNamespace : Option String) : Config := { before with
    watchNamespace
    passes := { before.passes with requeueAfter := delay }
    installer := { before.installer with binary } }
  have hvalid' : ∀ watchNamespace, (withAll watchNamespace).Valid := fun _ =>
    ⟨hpos, hvalid.finalizer, hbinary⟩
  have hstates' : FileStates disk' (some path') (withAll (some space)) :=
    hmore.fileStates fun _ hmean' => hstated.adds hadds hpos hlt hmean hknown hmean'
  refine ⟨withAll (if space = "" then none else some space), withAll (some space), ?_, ?_, ?_, ?_⟩
  · exact load_of_states (hfile ▸ hstates) hvalid (.of_sets before hsets hlt) (hvalid' _)
  · exact load_of_states (hfile' ▸ hstates') (hvalid' _) (.of_setsNone _ hnone) (hvalid' _)
  · by_cases hspace : space = "" <;> simp [withAll, hspace]
  · intro hspace
    simp [withAll, hspace]

/-! ### Two files -/

namespace Sample

/-- A file that lacks the three settings. -/
def lacking : String :=
  "helm:\n  timeoutSecs: 9\n"

/-- The file with the three settings. -/
def stating (space : String) : String :=
  "watchNamespace: '" ++ space ++
    "'\nrequeueAfterSecs: 30\nhelm:\n  timeoutSecs: 9\n  binary: \"h\"\n"

def diskOf (text : String) : Disk where
  files := [("c.yaml", Text.Utf8.encode text)]

/-- An environment that states the three settings. -/
def environment (space : String) : Environment :=
  [(namespaceVariable, space), (binaryVariable, "h"), (delayVariable, "30")]

/-- What the section of the first file holds. -/
def helmLacking : List (String × Tree) :=
  [("timeoutSecs", .scalar none .plain "9")]

/-- What the section of the second file holds. -/
def helmStating : List (String × Tree) :=
  [("timeoutSecs", .scalar none .plain "9"), ("binary", .scalar none .doubleQuoted "h")]

/-- The trees of entries whose keys are written plainly. -/
def plainKeys (named : List (String × Tree)) : List (Tree × Tree) :=
  named.map fun entry => (.scalar none .plain entry.1, entry.2)

/-- What the second file holds. -/
def allStated (space : String) : List (String × Tree) :=
  [("watchNamespace", .scalar none .singleQuoted space),
    ("requeueAfterSecs", .scalar none .plain "30"),
    ("helm", .mapping none (plainKeys helmStating))]

theorem named_plainKeys (named : List (String × Tree)) : Tree.Named (plainKeys named) named := by
  induction named with
  | nil => exact .nil
  | cons entry named ih => exact .cons ⟨⟨none, .plain, rfl⟩, rfl⟩ ih

theorem holds_plainKeys (named : List (String × Tree)) :
    (Tree.mapping none (plainKeys named)).Holds named :=
  .mapping (named_plainKeys named)

/-- The tokens of an entry. -/
def entryTokens (name : String) (value : List Yaml.Token) : List Yaml.Token :=
  [.key, .scalar .plain name, .value] ++ value

/-- The tokens of a block mapping. -/
def blockTokens (entries : List (List Yaml.Token)) : List Yaml.Token :=
  [.blockMappingStart] ++ entries.flatten ++ [.blockEnd]

theorem only?_of_tokens {text : String} {contents : Yaml.Contents} (ts : List Yaml.Token)
    (htokens : Yaml.tokens? text.toList = some ts)
    (hnodes : (Yaml.Node.ofTokens? ts).bind (·.mapM Yaml.Contents.ofNode?) = some [contents]) :
    Yaml.Contents.only? text = some (some contents) := by
  rw [Yaml.Contents.only?, Yaml.Contents.all?, Yaml.Node.documents?, htokens, Option.bind_some,
    hnodes]

theorem only?_lacking : Yaml.Contents.only? lacking = some (some
    ⟨.mapping none (plainKeys [("helm", .mapping none (plainKeys helmLacking))]), {}⟩) :=
  only?_of_tokens (blockTokens [entryTokens "helm"
    (blockTokens [entryTokens "timeoutSecs" [.scalar .plain "9"]])]) (by decide +kernel) (by cbv)

theorem only?_stating : Yaml.Contents.only? (stating "a") = some (some
    ⟨.mapping none (plainKeys (allStated "a")), {}⟩) :=
  only?_of_tokens (blockTokens [
    entryTokens "watchNamespace" [.scalar .singleQuoted "a"],
    entryTokens "requeueAfterSecs" [.scalar .plain "30"],
    entryTokens "helm" (blockTokens [entryTokens "timeoutSecs" [.scalar .plain "9"],
      entryTokens "binary" [.scalar .doubleQuoted "h"]])]) (by decide +kernel) (by cbv)

theorem fileHolds_lacking :
    FileHolds (diskOf lacking) "c.yaml" [("helm", .mapping none (plainKeys helmLacking))] := by
  refine ⟨lacking, _, _, ⟨Text.Utf8.encode lacking, by decide +kernel, by decide +kernel⟩,
    ⟨'h', by decide +kernel, by decide⟩, only?_lacking, ?_, holds_plainKeys _⟩
  exact .mapping none (.cons (.scalar ..) (.mapping none (.cons (.scalar ..) (.scalar ..) .nil))
    .nil)

theorem fileHolds_stating :
    FileHolds (diskOf (stating "a")) "c.yaml" (allStated "a") := by
  refine ⟨stating "a", _, _, ⟨Text.Utf8.encode (stating "a"), by decide +kernel,
    by decide +kernel⟩, ⟨'w', by decide +kernel, by decide⟩, only?_stating, ?_, holds_plainKeys _⟩
  exact .mapping none (.cons (.scalar ..) (.scalar ..) (.cons (.scalar ..) (.scalar ..) (.cons
    (.scalar ..) (.mapping none (.cons (.scalar ..) (.scalar ..) (.cons (.scalar ..) (.scalar ..)
    .nil))) .nil)))

theorem adds_stating :
    Adds "a" "h" 30 [("helm", .mapping none (plainKeys helmLacking))] (allStated "a") := by
  refine ⟨by simp, by simp, [], helmLacking, .present (.refl _) (holds_plainKeys _),
    by simp [helmLacking], .scalar none .singleQuoted "a", .scalar none .doubleQuoted "h",
    .mapping none (plainKeys helmStating), helmStating, .inl rfl, .inr rfl, holds_plainKeys _,
    .swap .., ?_⟩
  have htext : Decimal.text 30 = "30" := by decide +kernel
  rw [htext]
  exact .refl _

theorem load_lacking :
    load (some "c.yaml") [] (diskOf lacking) = .ok { installer := { timeout := 9 } } := by
  decide +kernel

theorem namespace_in_file_and_environment :
    ∃ c c', load (some "c.yaml") (environment "a") (diskOf lacking) = .ok c ∧
      load (some "c.yaml") [] (diskOf (stating "a")) = .ok c' ∧ (c' = c ↔ "a" ≠ "") ∧
      ("a" = "" → c.watchNamespace = none ∧ c' = { c with watchNamespace := some "" }) :=
  file_agrees_with_environment_iff rfl fileHolds_lacking rfl fileHolds_stating adds_stating
    load_lacking ⟨'h', by decide, by decide⟩ (by decide) (by decide)
    ⟨rfl, rfl, by decide +kernel⟩ ⟨rfl, rfl, rfl⟩

end Sample

/-- An empty namespace in the file is not taken for all namespaces. -/
theorem empty_namespace_disagrees :
    ∃ c c', load (some "c.yaml") (Sample.environment "") (Sample.diskOf Sample.lacking) = .ok c ∧
      load (some "c.yaml") [] (Sample.diskOf (Sample.stating "")) = .ok c' ∧
      c.watchNamespace = none ∧ c'.watchNamespace = some "" := by
  refine ⟨{ passes := { requeueAfter := 30 }, installer := { binary := "h", timeout := 9 } },
    { watchNamespace := some "", passes := { requeueAfter := 30 },
      installer := { binary := "h", timeout := 9 } }, ?_, ?_, rfl, rfl⟩
  all_goals decide +kernel

end ClusterLifecycle.Config
