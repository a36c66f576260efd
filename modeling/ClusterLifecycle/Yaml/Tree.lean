import ClusterLifecycle.Yaml.Scalar

/-!
# Documents with their aliases resolved

In a document every alias refers to the node that its anchor names at that place. Anchors get
numbers in the order of the text, a number for each distinct name; a name that is used again gets
the number that a new name would get, so that aliases of either name then refer to the node anchored
last under that number.
-/

namespace ClusterLifecycle.Yaml

/-- A node whose aliases refer to numbers. -/
inductive Tree where
  | scalar (tag : Option String) (style : Style) (text : String)
  | sequence (tag : Option String) (items : List Tree)
  | mapping (tag : Option String) (entries : List (Tree × Tree))
  | alias (number : Nat)
deriving Repr, Inhabited

/-- A node that was anchored. -/
structure Anchored where
  /-- How many anchors were in front of it. -/
  order : Nat
  number : Nat
  tree : Tree
deriving Repr

/-- The anchors of a document, up to some place. -/
structure Anchors where
  /-- The number of each name. -/
  numbers : List (String × Nat) := []
  /-- How many anchors there were. -/
  count : Nat := 0
  /-- The anchored nodes that are complete. -/
  nodes : List Anchored := []

namespace Anchors

/-- Gives a name its number. -/
def name (a : Anchors) (anchor : String) : Anchors × Nat :=
  let number := a.numbers.length
  let numbers := (anchor, number) :: a.numbers.filter (·.1 != anchor)
  ({ a with numbers, count := a.count + 1 }, number)

/-- The node that a number refers to: of those anchored under it the last. -/
def find? (a : Anchors) (number : Nat) : Option Tree :=
  let found := a.nodes.filter (·.number == number)
  let last := found.foldl (fun best node => match best with
    | none => some node
    | some other => if other.order < node.order then some node else some other) none
  last.map (·.tree)

/-- The node that an alias refers to, or the node itself; answers also how many of the `budget`
aliases may still be followed. -/
def follow? (a : Anchors) (budget : Nat) (tree : Tree) : Option (Tree × Nat) :=
  match tree with
  | .alias number =>
    match budget with
    | 0 => none
    | budget + 1 => (a.find? number).map (·, budget)
  | _ => some (tree, budget)

end Anchors

namespace Tree

/-- Registers a node under its anchor, if it has one; `build` makes the tree of the node. -/
def anchored (anchor : Option String) (build : Anchors → Option (Tree × Anchors)) (a : Anchors) :
    Option (Tree × Anchors) :=
  match anchor with
  | none => build a
  | some name =>
    let order := a.count
    let (a, number) := a.name name
    (build a).map fun (tree, a) => (tree, { a with nodes := ⟨order, number, tree⟩ :: a.nodes })

mutual

/-- The tree of a node. Fails if an alias refers to nothing. -/
def ofNode? : Node → Anchors → Option (Tree × Anchors)
  | .scalar p style text, a => anchored p.anchor (fun a => some (.scalar p.tag style text, a)) a
  | .sequence p items, a =>
    anchored p.anchor
      (fun a => (ofItems? items a).map fun (items, a) => (.sequence p.tag items, a)) a
  | .mapping p entries, a =>
    anchored p.anchor
      (fun a => (ofEntries? entries a).map fun (entries, a) => (.mapping p.tag entries, a)) a
  | .alias name, a => (a.numbers.lookup name).map fun number => (.alias number, a)

/-- The trees of items. -/
def ofItems? : List Node → Anchors → Option (List Tree × Anchors)
  | [], a => some ([], a)
  | node :: nodes, a => do
    let (tree, a) ← ofNode? node a
    let (trees, a) ← ofItems? nodes a
    return (tree :: trees, a)

/-- The trees of entries. -/
def ofEntries? : List (Node × Node) → Anchors → Option (List (Tree × Tree) × Anchors)
  | [], a => some ([], a)
  | (key, value) :: entries, a => do
    let (key, a) ← ofNode? key a
    let (value, a) ← ofNode? value a
    let (rest, a) ← ofEntries? entries a
    return ((key, value) :: rest, a)

end

mutual

/-- The number of places in a tree: one for a scalar or alias, two for a collection. -/
def size : Tree → Nat
  | .scalar .. | .alias _ => 1
  | .sequence _ items => sizeOfItems items + 2
  | .mapping _ entries => sizeOfEntries entries + 2

/-- The number of places in items. -/
def sizeOfItems : List Tree → Nat
  | [] => 0
  | tree :: trees => tree.size + sizeOfItems trees

/-- The number of places in entries. -/
def sizeOfEntries : List (Tree × Tree) → Nat
  | [] => 0
  | (key, value) :: entries => key.size + value.size + sizeOfEntries entries

end

end Tree

/-- A document: its tree, and the nodes that aliases refer to. -/
structure Contents where
  root : Tree
  anchors : Anchors

namespace Contents

/-- The document of a node. -/
def ofNode? (node : Node) : Option Contents :=
  (Tree.ofNode? node {}).map fun (root, anchors) => ⟨root, anchors⟩

/-- How many aliases may be followed in the document. -/
def maxAliases (c : Contents) : Nat :=
  c.root.size * 100

/-- How deep collections may be nested. -/
def maxDepth : Nat := 128

/-- The documents of a text. -/
def all? (text : String) : Option (List Contents) :=
  (Node.documents? text.toList).bind (·.mapM ofNode?)

/-- The only document of a text; a text without documents has the empty one. -/
def only? (text : String) : Option (Option Contents) :=
  match all? text with
  | some [] => some none
  | some [c] => some (some c)
  | _ => none

end Contents

end ClusterLifecycle.Yaml
