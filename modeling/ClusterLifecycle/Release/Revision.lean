import ClusterLifecycle.Release.Record
import ClusterLifecycle.Resource.Secret

/-!
# Revisions of a release

Every revision of a release is stored in a secret of its own, with its number in a label. The
current one has the greatest number; secrets without a number do not count.
-/

namespace ClusterLifecycle.Release

/-- Selects the secrets of a release. -/
def selector (release : String) : String :=
  "owner=helm,name=" ++ release

/-- The number of a revision. -/
def revision? (s : Secret) : Option Nat :=
  (s.metadata.label? "version").bind fun v => (Decimal.parse (1 <<< 64) v).toOption

/-- The newer of what was found so far, with its number and its position, and one more secret. -/
def newer (index : Nat) (best : Option (Nat × Nat × Secret)) (s : Secret) :
    Option (Nat × Nat × Secret) :=
  match revision? s, best with
  | none, best => best
  | some n, none => some (n, index, s)
  | some n, some (m, found) => if m ≤ n then some (n, index, s) else some (m, found)

/-- The secret with the greatest number, of several the last, with its position. Positions are
counted from `index`. -/
def latestFrom (index : Nat) (best : Option (Nat × Nat × Secret)) :
    List Secret → Option (Nat × Nat × Secret)
  | [] => best
  | s :: rest => latestFrom (index + 1) (newer index best s) rest

/-- The position of the current revision, and its secret. -/
def latest? (secrets : List Secret) : Option (Nat × Secret) :=
  (latestFrom 0 none secrets).map (·.2)

/-- The state of a release that a secret holds. -/
def content (release : String) (s : Secret) : Except Failure Release :=
  match s.bytes? "release" with
  | none => .error (.releaseStorage release ("secret " ++ s.name ++ " missing 'release' key"))
  | some payload => ofPayload release payload

/-- The current state of a release, given the secrets of all its revisions. -/
def current (release space : String) (secrets : List Secret) : Except Failure Release :=
  match latest? secrets with
  | none => .error (.releaseNotFound release space)
  | some (_, s) => content release s

end ClusterLifecycle.Release
