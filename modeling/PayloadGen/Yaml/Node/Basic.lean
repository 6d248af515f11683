import PayloadGen.Dict

/-!
# Nodes of a YAML document

The nodes of a document form a tree, except for aliases: an alias refers to a node that carries an
anchor, which may be a node that the alias is part of. So an alias does not hold its target. It
names the document and the number of the anchor, and a `Library` of documents tells which node that
is.
-/

namespace PayloadGen.Yaml

/-- A node with an anchor: the document that holds it and the number of anchors before it. -/
structure Anchor where
  document : String
  number : Nat
  deriving DecidableEq

/-- A node. The line is counted from one; a tag is given if it is written, in its short form. -/
inductive Node where
  | scalar (line : Nat) (tag : Option String) (text : String) (isPlain : Bool)
  | sequence (line : Nat) (tag : Option String) (items : List Node)
  /-- The entries in document order; keys are nodes as well. -/
  | mapping (line : Nat) (tag : Option String) (entries : List (Node × Node))
  | aliasOf (line column : Nat) (name : String) (target : Anchor)

namespace Node

/-- The line on which the node begins. -/
def line : Node → Nat
  | scalar n .. | sequence n .. | mapping n .. | aliasOf n .. => n

/-- The text of a scalar or the name of an alias; collections have none. -/
def label : Node → String
  | scalar _ _ text _ => text
  | aliasOf _ _ name _ => name
  | sequence .. | mapping .. => ""

/-- The value of the first entry whose key has the label. -/
def entryAt? (key : String) : Node → Option Node
  | mapping _ _ entries => (entries.find? (fun e => e.1.label == key)).map (·.2)
  | _ => none

/-- What a collection consists of: the items of a sequence, the values of a mapping. -/
def children : Node → List Node
  | sequence _ _ items => items
  | mapping _ _ entries => entries.map (·.2)
  | scalar .. | aliasOf .. => []

/-- The collection with other children in the same places. -/
def withChildren : Node → List Node → Node
  | sequence line tag _, cs => sequence line tag cs
  | mapping line tag entries, cs => mapping line tag (List.zipWith (fun e c => (e.1, c)) entries cs)
  | n, _ => n

end Node

mutual

/-- The node with its aliases leading to other documents. -/
def Node.mapDocuments (f : String → String) : Node → Node
  | .sequence line tag items => .sequence line tag (mapItems f items)
  | .mapping line tag entries => .mapping line tag (mapEntries f entries)
  | .aliasOf line column name target => .aliasOf line column name ⟨f target.document, target.number⟩
  | .scalar line tag text isPlain => .scalar line tag text isPlain

/-- The items of a sequence with their aliases leading to other documents. -/
def mapItems (f : String → String) : List Node → List Node
  | [] => []
  | n :: r => n.mapDocuments f :: mapItems f r

/-- The entries of a mapping with their aliases leading to other documents. -/
def mapEntries (f : String → String) : List (Node × Node) → List (Node × Node)
  | [] => []
  | (k, v) :: r => (k.mapDocuments f, v.mapDocuments f) :: mapEntries f r

end

mutual

/-- Are the nodes equal? -/
def Node.same : Node → Node → Bool
  | .scalar line tag text isPlain, .scalar line' tag' text' isPlain' =>
    line == line' && tag == tag' && text == text' && isPlain == isPlain'
  | .sequence line tag items, .sequence line' tag' items' =>
    line == line' && tag == tag' && sameItems items items'
  | .mapping line tag entries, .mapping line' tag' entries' =>
    line == line' && tag == tag' && sameEntries entries entries'
  | .aliasOf line column name target, .aliasOf line' column' name' target' =>
    line == line' && column == column' && name == name' && target == target'
  | _, _ => false

/-- Are the items of two sequences equal? -/
def sameItems : List Node → List Node → Bool
  | [], [] => true
  | n :: r, m :: s => n.same m && sameItems r s
  | _, _ => false

/-- Are the entries of two mappings equal? -/
def sameEntries : List (Node × Node) → List (Node × Node) → Bool
  | [], [] => true
  | (k, v) :: r, (k', v') :: s => k.same k' && v.same v' && sameEntries r s
  | _, _ => false

end

mutual

theorem Node.same_iff : ∀ n m : Node, n.same m = true ↔ n = m
  | .scalar .., m => by cases m <;> simp [Node.same, and_assoc]
  | .aliasOf .., m => by cases m <;> simp [Node.same, and_assoc]
  | .sequence _ _ items, m => by cases m <;> simp [Node.same, and_assoc, sameItems_iff items]
  | .mapping _ _ entries, m => by cases m <;> simp [Node.same, and_assoc, sameEntries_iff entries]

theorem sameItems_iff : ∀ ns ms : List Node, sameItems ns ms = true ↔ ns = ms
  | [], ms => by cases ms <;> simp [sameItems]
  | n :: ns, ms => by cases ms <;> simp [sameItems, n.same_iff, sameItems_iff ns]

theorem sameEntries_iff : ∀ es fs : List (Node × Node), sameEntries es fs = true ↔ es = fs
  | [], fs => by cases fs <;> simp [sameEntries]
  | (k, v) :: es, fs => by
    cases fs <;> simp [sameEntries, k.same_iff, v.same_iff, sameEntries_iff es,
      Prod.ext_iff, and_assoc]

end

instance : DecidableEq Node := fun n m => decidable_of_iff _ (n.same_iff m)

/-- A document: its root and the nodes with an anchor, in the order in which they begin. -/
structure Document where
  root : Node
  anchors : List Node
  deriving DecidableEq

/-- The document with its aliases leading to other documents. -/
def Document.mapDocuments (f : String → String) (d : Document) : Document :=
  ⟨d.root.mapDocuments f, mapItems f d.anchors⟩

/-- Documents by name. -/
abbrev Library := Pairs Document

/-- The node with an anchor. -/
def Library.node? (l : Library) (a : Anchor) : Option Node := do
  let d ← Pairs.find? a.document l
  d.anchors[a.number]?

mutual

/-- The number of nodes of a tree. -/
def Node.size : Node → Nat
  | .sequence _ _ items => 1 + itemsSize items
  | .mapping _ _ entries => 1 + entriesSize entries
  | .scalar .. | .aliasOf .. => 1

/-- The number of nodes of the items of a sequence. -/
def itemsSize : List Node → Nat
  | [] => 0
  | n :: r => n.size + itemsSize r

/-- The number of nodes of the entries of a mapping. -/
def entriesSize : List (Node × Node) → Nat
  | [] => 0
  | (k, v) :: r => k.size + v.size + entriesSize r

end

theorem Node.one_le_size (n : Node) : 1 ≤ n.size := by
  cases n <;> simp [Node.size]

/-- The number of nodes of all documents, those with an anchor counted again. -/
def Library.size (l : Library) : Nat :=
  l.foldl (fun n e => n + (e.2.root.size + itemsSize e.2.anchors)) 0

/-- A bound on the number of nodes on a way down that takes no alias twice. -/
def Library.reach (l : Library) : Nat :=
  (l.size + 2) * (l.size + 2)

end PayloadGen.Yaml
