import Mathlib.Order.Monotone.Basic
import PayloadGen.Proofs.Dict
import PayloadGen.Schema.KeyOrder
import PayloadGen.Yaml.Node.Reader

/-!
# Documents under other names

Documents can be given other names, if the names of all aliases change with them.
`Library.mapDocuments` does so for a library. Everything about a node except where its aliases lead
stays the same, and when the new names are in the order of the old ones, so does what is found in
the library (`Library.node?_mapDocuments`). A text read under the new name of its document gives the
document with the new name (`Document.read_map`).
-/

namespace PayloadGen

/-! ## Dictionaries under other keys -/

namespace Pairs

variable {α β : Type} {f : String → String}

theorem find?_map (hf : Function.Injective f) (g : α → β) (key : String) (d : Pairs α) :
    find? (f key) (d.map (Prod.map f g)) = (d.find? key).map g := by
  induction d with
  | nil => rfl
  | cons x d ih =>
    rw [List.map_cons, find?_cons, find?_cons, ih]
    simp only [Prod.map_fst, Prod.map_snd, hf.eq_iff]
    split <;> rfl

theorem insert_map (hf : StrictMono f) (g : α → β) (key : String) (value : α) (d : Pairs α) :
    insert (f key) (g value) (d.map (Prod.map f g)) = (d.insert key value).map (Prod.map f g) := by
  induction d with
  | nil => rfl
  | cons x d ih =>
    simp only [List.map_cons, insert, hf.lt_iff_lt, hf.injective.eq_iff, ih, Prod.map]
    split
    · rfl
    · split <;> rfl

end Pairs

namespace Yaml

variable (f g : String → String)

/-! ## Nodes -/

theorem mapItems_eq (ns : List Node) : mapItems f ns = ns.map (Node.mapDocuments f) := by
  induction ns with
  | nil => rfl
  | cons n ns ih => rw [mapItems, ih, List.map_cons]

theorem mapEntries_eq (es : List (Node × Node)) :
    mapEntries f es = es.map (Prod.map (Node.mapDocuments f) (Node.mapDocuments f)) := by
  induction es with
  | nil => rfl
  | cons e es ih => rw [mapEntries, ih, List.map_cons, Prod.map]

mutual

theorem Node.mapDocuments_mapDocuments :
    ∀ n : Node, (n.mapDocuments g).mapDocuments f = n.mapDocuments (f ∘ g)
  | .scalar .. | .aliasOf .. => rfl
  | .sequence _ _ items => by simp only [Node.mapDocuments, mapItems_mapItems items]
  | .mapping _ _ entries => by simp only [Node.mapDocuments, mapEntries_mapEntries entries]

theorem mapItems_mapItems : ∀ ns : List Node, mapItems f (mapItems g ns) = mapItems (f ∘ g) ns
  | [] => rfl
  | n :: ns => by simp only [mapItems, Node.mapDocuments_mapDocuments n, mapItems_mapItems ns]

theorem mapEntries_mapEntries :
    ∀ es : List (Node × Node), mapEntries f (mapEntries g es) = mapEntries (f ∘ g) es
  | [] => rfl
  | (k, v) :: es => by
    simp only [mapEntries, Node.mapDocuments_mapDocuments k, Node.mapDocuments_mapDocuments v,
      mapEntries_mapEntries es]

end

mutual

@[simp] theorem Node.size_mapDocuments : ∀ n : Node, (n.mapDocuments f).size = n.size
  | .scalar .. | .aliasOf .. => rfl
  | .sequence _ _ items => by simp only [Node.mapDocuments, Node.size, itemsSize_mapItems items]
  | .mapping _ _ entries => by
    simp only [Node.mapDocuments, Node.size, entriesSize_mapEntries entries]

theorem itemsSize_mapItems : ∀ ns : List Node, itemsSize (mapItems f ns) = itemsSize ns
  | [] => rfl
  | n :: ns => by simp only [mapItems, itemsSize, Node.size_mapDocuments n, itemsSize_mapItems ns]

theorem entriesSize_mapEntries :
    ∀ es : List (Node × Node), entriesSize (mapEntries f es) = entriesSize es
  | [] => rfl
  | (k, v) :: es => by
    simp only [mapEntries, entriesSize, Node.size_mapDocuments k, Node.size_mapDocuments v,
      entriesSize_mapEntries es]

end

namespace Node

@[simp] theorem label_mapDocuments (n : Node) : (n.mapDocuments f).label = n.label := by
  cases n <;> rfl

@[simp] theorem line_mapDocuments (n : Node) : (n.mapDocuments f).line = n.line := by
  cases n <;> rfl

@[simp] theorem entryAt?_mapDocuments (n : Node) (key : String) :
    entryAt? key (n.mapDocuments f) = (n.entryAt? key).map (mapDocuments f) := by
  cases n with
  | mapping line tag entries =>
    simp [mapDocuments, mapEntries_eq, entryAt?, List.find?_map, Function.comp_def]
  | _ => rfl

@[simp] theorem children_mapDocuments (n : Node) :
    (n.mapDocuments f).children = n.children.map (mapDocuments f) := by
  cases n with
  | sequence line tag items => exact mapItems_eq f items
  | mapping line tag entries => simp [mapDocuments, mapEntries_eq, children]
  | _ => rfl

@[simp] theorem withChildren_mapDocuments (n : Node) (cs : List Node) :
    (n.mapDocuments f).withChildren (cs.map (mapDocuments f)) =
      (n.withChildren cs).mapDocuments f := by
  cases n with
  | sequence line tag items => simp [mapDocuments, withChildren, mapItems_eq]
  | mapping line tag entries =>
    simp [mapDocuments, withChildren, mapEntries_eq, List.zipWith_map, List.map_zipWith]
  | _ => rfl

end Node

/-! ## Documents -/

/-- A document that gets a name and then another one. -/
theorem Document.mapDocuments_const (d : Document) (name : String) :
    (d.mapDocuments fun _ => name).mapDocuments f = d.mapDocuments fun _ => f name := by
  simp only [Document.mapDocuments, Node.mapDocuments_mapDocuments, mapItems_mapItems]
  rfl

/-- The name of a document shows in its aliases only. -/
theorem Document.read_map (name text : String) :
    Document.read (f name) text = (Document.read name text).map (·.map (·.mapDocuments f)) := by
  unfold Document.read
  cases Document.parse text with
  | error e => rfl
  | ok d => cases d <;> simp [Except.map, Document.mapDocuments_const]

/-! ## Libraries -/

namespace Library

/-- The library with other names of its documents. -/
def mapDocuments (l : Library) : Library :=
  l.map (Prod.map f (Document.mapDocuments f))

variable {f}

theorem find?_mapDocuments (hf : Function.Injective f) (name : String) (l : Library) :
    Pairs.find? (f name) (l.mapDocuments f) = (Pairs.find? name l).map (Document.mapDocuments f) :=
  Pairs.find?_map hf _ name l

theorem insert_mapDocuments (hf : StrictMono f) (name : String) (d : Document) (l : Library) :
    Pairs.insert (f name) (d.mapDocuments f) (l.mapDocuments f) =
      Library.mapDocuments f (Pairs.insert name d l) :=
  Pairs.insert_map hf _ name d l

theorem node?_mapDocuments (hf : Function.Injective f) (l : Library) (a : Anchor) :
    (l.mapDocuments f).node? ⟨f a.document, a.number⟩ = (l.node? a).map (Node.mapDocuments f) := by
  simp only [node?, find?_mapDocuments hf, bind]
  cases Pairs.find? a.document l with
  | none => rfl
  | some d => simp [Document.mapDocuments, mapItems_eq]

@[simp] theorem size_mapDocuments (l : Library) : (l.mapDocuments f).size = l.size := by
  simp [size, mapDocuments, List.foldl_map, Document.mapDocuments, itemsSize_mapItems]

@[simp] theorem reach_mapDocuments (l : Library) : (l.mapDocuments f).reach = l.reach := by
  simp [reach]

end Library

end Yaml

/-! ## The order of properties -/

namespace KeyOrder

open Yaml

variable (f : String → String)

mutual

theorem collect_mapDocuments :
    ∀ (path : String) (n : Node), collect path (n.mapDocuments f) = collect path n
  | _, .scalar .. | _, .aliasOf .. => rfl
  | path, .sequence _ _ items => by
    simp only [Node.mapDocuments, collect, collectItems_mapItems path items]
  | path, .mapping _ _ entries => by
    simp only [Node.mapDocuments, collect, collectEntries_mapEntries path entries]
    simp [mapEntries_eq, Function.comp_def]

theorem collectItems_mapItems :
    ∀ (path : String) (ns : List Node), collectItems path (mapItems f ns) = collectItems path ns
  | _, [] => rfl
  | path, n :: ns => by
    simp only [mapItems, collectItems, collect_mapDocuments path n, collectItems_mapItems path ns]

theorem collectEntries_mapEntries :
    ∀ (path : String) (es : List (Node × Node)), collectEntries path (mapEntries f es) =
      collectEntries path es
  | _, [] => rfl
  | path, (k, v) :: es => by
    simp only [mapEntries, collectEntries, Node.label_mapDocuments, collect_mapDocuments _ v,
      collectEntries_mapEntries path es]

end

@[simp] theorem ofNode_mapDocuments (path : String) (n : Node) :
    ofNode path (n.mapDocuments f) = ofNode path n := by
  rw [ofNode, collect_mapDocuments, ofNode]

end KeyOrder

end PayloadGen
