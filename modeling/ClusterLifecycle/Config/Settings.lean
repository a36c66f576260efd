import ClusterLifecycle.Installer.Command
import ClusterLifecycle.Schedule
import ClusterLifecycle.Text.Blank
import ClusterLifecycle.Yaml.Outline
import ClusterLifecycle.Yaml.Place

/-!
# Configurations

A configuration says what instances the operator watches, how it runs passes and schedules them, and
how it calls the package installer. Every setting has a default, and only known settings may be
given.
-/

namespace ClusterLifecycle

/-- A configuration of the operator. -/
structure Config where
  /-- The namespace to watch, all of them if there is none. -/
  watchNamespace : Option String := none
  /-- What passes have in common. -/
  passes : Settings := {}
  installer : Installer.Settings := {}
  /-- How many seconds the fetching of an index may take. -/
  indexTimeout : Nat := 30
  /-- How long to wait after failures. -/
  retry : RetryPolicy := {}
deriving DecidableEq, Repr

namespace Config

/-! ## Reading -/

variable {δ : Type} [Document δ]

/-- Reads how the package installer is called. -/
def decodeInstaller? (node : δ) : Option Installer.Settings := do
  let parts ← Document.Parts.only? ["binary", "timeoutSecs"] node
  let default : Installer.Settings := {}
  return {
    binary := ← parts.withDefault "binary" default.binary Document.text?
    timeout := ← parts.withDefault "timeoutSecs" default.timeout Document.nat? }

/-- Reads how indexes are fetched. -/
def decodeIndexTimeout? (node : δ) : Option Nat := do
  let parts ← Document.Parts.only? ["timeoutSecs"] node
  let default : Config := {}
  parts.withDefault "timeoutSecs" default.indexTimeout Document.nat?

/-- Reads how long to wait after failures. -/
def decodeRetry? (node : δ) : Option RetryPolicy := do
  let parts ← Document.Parts.only? ["transientSecs", "missingReferenceSecs"] node
  let default : RetryPolicy := {}
  return {
    transient := ← parts.withDefault "transientSecs" default.transient Document.nat?
    missingReference :=
      ← parts.withDefault "missingReferenceSecs" default.missingReference Document.nat? }

/-- Reads a configuration. -/
def decode? (node : δ) : Option Config := do
  let parts ← Document.Parts.only?
    ["watchNamespace", "requeueAfterSecs", "finalizer", "helm", "indexFetch", "retry"] node
  let default : Config := {}
  return {
    watchNamespace := ← parts.optionalOrAbsent "watchNamespace" Document.text?
    passes := {
      requeueAfter :=
        ← parts.withDefault "requeueAfterSecs" default.passes.requeueAfter Document.nat?
      finalizer := ← parts.withDefault "finalizer" default.passes.finalizer Document.text? }
    installer := ← parts.withDefault "helm" default.installer decodeInstaller?
    indexTimeout := ← parts.withDefault "indexFetch" default.indexTimeout decodeIndexTimeout?
    retry := ← parts.withDefault "retry" default.retry decodeRetry? }

/-! ## Writing -/

/-- How the package installer is called, as it is shown. -/
def installerEntries (s : Installer.Settings) : List (String × Yaml.Outline) :=
  [("binary", .text s.binary), ("timeoutSecs", .nat s.timeout)]

/-- How long to wait after failures, as it is shown. -/
def retryEntries (r : RetryPolicy) : List (String × Yaml.Outline) :=
  [("transientSecs", .nat r.transient), ("missingReferenceSecs", .nat r.missingReference)]

/-- The settings, as they are shown; the namespace only if there is one. -/
def shownEntries (c : Config) : List (String × Yaml.Outline) :=
  (c.watchNamespace.map fun space => ("watchNamespace", Yaml.Outline.text space)).toList ++ [
    ("requeueAfterSecs", .nat c.passes.requeueAfter),
    ("finalizer", .text c.passes.finalizer),
    ("helm", .mapping (installerEntries c.installer)),
    ("indexFetch", .mapping [("timeoutSecs", .nat c.indexTimeout)]),
    ("retry", .mapping (retryEntries c.retry))]

/-- The configuration with all its settings. -/
def outline (c : Config) : Yaml.Outline :=
  .mapping c.shownEntries

/-- The configuration as a document. -/
def toJson (c : Config) : Json :=
  c.outline.toJson

end Config

end ClusterLifecycle
