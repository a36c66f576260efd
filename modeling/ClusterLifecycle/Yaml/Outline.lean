import ClusterLifecycle.Json.Value

/-!
# Outlines

An outline is what a document says, without the ways to write it: texts, numbers and truth values in
lists and in mappings with ordered keys. It is the form of documents that the program writes itself.
-/

namespace ClusterLifecycle.Yaml

/-- What a document says. -/
inductive Outline where
  | null
  | bool (value : Bool)
  | nat (value : Nat)
  | text (value : String)
  | list (items : List Outline)
  | mapping (entries : List (String × Outline))
deriving Repr, Inhabited

namespace Outline

mutual

/-- The JSON value with the same contents. -/
def toJson : Outline → Json
  | .null => .null
  | .bool b => .bool b
  | .nat n => Json.ofNat n
  | .text s => .str s
  | .list items => .arr (itemsToJson items)
  | .mapping entries => Json.ofPairs (entriesToJson entries)

/-- The JSON values with the same contents. -/
def itemsToJson : List Outline → List Json
  | [] => []
  | item :: rest => toJson item :: itemsToJson rest

/-- The JSON members with the same contents. -/
def entriesToJson : List (String × Outline) → List (String × Json)
  | [] => []
  | (name, value) :: rest => (name, toJson value) :: entriesToJson rest

end

end Outline

end ClusterLifecycle.Yaml
