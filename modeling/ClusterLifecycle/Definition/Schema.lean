import ClusterLifecycle.Yaml.Outline

/-!
# Schemas of resources

A schema says which values the API server accepts as a resource, and what they mean. It is published
as an outline whose keys are in alphabetical order.
-/

namespace ClusterLifecycle.Definition

open Yaml (Outline)

/-- What may be said of any value. -/
structure Remarks where
  description : Option String := none
  /-- What stands for a value that is missing. -/
  default : Option Outline := none
  /-- Whether null may take its place. -/
  nullable : Bool := false
  title : Option String := none

/-- Which values are accepted. -/
inductive Schema where
  /-- A text of some format. -/
  | text (remarks : Remarks) (format : Option String)
  /-- One of some texts. -/
  | choice (remarks : Remarks) (choices : List String)
  /-- A truth value. -/
  | bool (remarks : Remarks)
  /-- A list of values. -/
  | list (remarks : Remarks) (items : Schema)
  /-- A mapping from any names to values. -/
  | table (remarks : Remarks) (values : Schema)
  /-- A mapping of any kind, which is kept as it is. -/
  | anyMapping (remarks : Remarks)
  /-- A mapping with given names, each of which may be required. -/
  | record (remarks : Remarks) (parts : List (String × Bool × Schema))

namespace Schema

/-! ## Outlines -/

/-- The entries that are present. -/
def present (entries : List (String × Option Outline)) : List (String × Outline) :=
  entries.filterMap fun entry => entry.2.map (entry.1, ·)

/-- A list of texts, if there are any. -/
def texts? (items : List String) : Option Outline :=
  if items.isEmpty then none else some (.list (items.map .text))

/-- The names of the required parts. -/
def required (parts : List (String × Bool × Schema)) : List String :=
  (parts.filter (·.2.1)).map (·.1)

/-- Everything that a schema may say. -/
structure Statement where
  type : String
  remarks : Remarks
  additional : Option Outline := none
  choices : List String := []
  format : Option String := none
  items : Option Outline := none
  properties : Option Outline := none
  required : List String := []
  keepsUnknown : Bool := false

/-- The outline of what a schema says. -/
def Statement.outline (s : Statement) : Outline :=
  .mapping (present [
    ("additionalProperties", s.additional),
    ("default", s.remarks.default),
    ("description", s.remarks.description.map .text),
    ("enum", texts? s.choices),
    ("format", s.format.map .text),
    ("items", s.items),
    ("nullable", if s.remarks.nullable then some (.bool true) else none),
    ("properties", s.properties),
    ("required", texts? s.required),
    ("title", s.remarks.title.map .text),
    ("type", some (.text s.type)),
    ("x-kubernetes-preserve-unknown-fields", if s.keepsUnknown then some (.bool true) else none)])

mutual

/-- The outline of a schema. -/
def outline : Schema → Outline
  | text remarks format => Statement.outline { type := "string", remarks, format }
  | choice remarks choices => Statement.outline { type := "string", remarks, choices }
  | bool remarks => Statement.outline { type := "boolean", remarks }
  | list remarks items =>
    Statement.outline { type := "array", remarks, items := some (outline items) }
  | table remarks values =>
    Statement.outline { type := "object", remarks, additional := some (outline values) }
  | anyMapping remarks => Statement.outline { type := "object", remarks, keepsUnknown := true }
  | record remarks parts =>
    Statement.outline {
      type := "object"
      remarks
      properties := some (.mapping (partOutlines parts))
      required := required parts }

/-- The outlines of the parts of a record. -/
def partOutlines : List (String × Bool × Schema) → List (String × Outline)
  | [] => []
  | (name, _, schema) :: rest => (name, outline schema) :: partOutlines rest

end

end Schema

end ClusterLifecycle.Definition
