import PayloadGen.Yaml.Node.Basic

/-!
# The order of properties in a document

JSON objects have no order, but the document that a schema comes from has one. `KeyOrder` records,
for every mapping under a key `properties`, its keys in document order. A mapping is found by its
path, the dot-joined keys that lead to it.
-/

namespace PayloadGen

open Yaml

/-- Keys in document order, by the path of their mapping. -/
abbrev KeyOrder := Pairs (List String)

namespace KeyOrder

/-- The key under which properties stand. -/
def propertiesKey : String := "properties"

/-- The parts of a path joined by dots; empty parts are left out. -/
def join (parts : List String) : String :=
  ".".intercalate (parts.filter (· ≠ ""))

/-- The path of an entry. -/
def child (path key : String) : String :=
  if path = "" then key else path ++ "." ++ key

/-- Does the path lead to a mapping under the key `properties`? -/
def isRecorded (path : String) : Bool :=
  path = propertiesKey || ("." ++ propertiesKey).toList.isSuffixOf path.toList

mutual

/-- The mappings to record below a node that holds no alias, inner ones first. The items of a
sequence share its path. -/
def collect (path : String) : Node → List (String × List String)
  | .sequence _ _ items => collectItems path items
  | .mapping _ _ entries =>
    collectEntries path entries ++
      if isRecorded path then [(path, entries.map fun e => e.1.label)] else []
  | .scalar .. | .aliasOf .. => []

/-- The mappings to record below the items of a sequence. -/
def collectItems (path : String) : List Node → List (String × List String)
  | [] => []
  | n :: r => collect path n ++ collectItems path r

/-- The mappings to record below the values of a mapping. -/
def collectEntries (path : String) : List (Node × Node) → List (String × List String)
  | [] => []
  | (k, v) :: r => collect (child path k.label) v ++ collectEntries path r

end

/-- The order of the keys below a node that holds no alias. Of two mappings with one path the later
counts. -/
def ofNode (path : String) (n : Node) : KeyOrder :=
  Pairs.ofList (collect path n)

/-- The given keys, each once: those recorded for the path come first, in their order there, then
the others in ascending order. -/
def arrange (order : KeyOrder) (path : String) (keys : List String) : List String :=
  let recorded := distinct (((order.find? path).getD []).filter keys.contains)
  recorded ++ sortTexts ((distinct keys).filter (!recorded.contains ·))

end KeyOrder

end PayloadGen
